import Runlet.AssetCompiler.SemanticComparison
import Runlet.CrawlerService.CombineResults
import Runlet.CrawlerService.Extractors.DomMenu
import Runlet.CrawlerService.Extractors.PageDiscovery

/-!
# One row for each application page

A crawl keeps its page candidates in a dictionary whose keys are the routes as they were extracted,
and writes one row for each entry.  So the rows have different routes, as texts.  Page discovery
brings a route into normal form before it is used; the DOM traversal, the menus and the combination
do not.  Two texts for one route are two rows.

* `mem_keys_pageCandidates`: the keys are the routes the extractions name (`Names`).
* `routes_persistRows`: the rows of the new snapshot carry these routes, each once.
* `persists_once_iff`: the rows are one for each application page exactly when no two of the named
  routes have one normal form, and each has one.
* `persists_once_fails`: one page, linked from a DOM menu with a trailing slash, is two rows.
-/

namespace Runlet

open KeyedTable
open Dict (Entries)

namespace CrawlerService

/-! ## The dictionary of the page candidates -/

/-- A route that the extractions name: that of a page candidate, the one a DOM menu brings along,
or the route of an element that was seen in a state. -/
def Names (discovery dom probe : CrawlExtractionResult) (route : String) : Prop :=
  (∃ page ∈ discovery.pages ++ dom.pages ++ probe.pages, page.routePath = route) ∨
    (∃ menu ∈ dom.menus, orText menu.pageRoutePath menu.routePath = route ∧ route ≠ "") ∨
    ∃ element ∈ dom.elements ++ probe.elements,
      hasState element = true ∧ element.pageRoutePath = route

/-- A dictionary in which every page candidate stands once, under its own route. -/
structure ByRoute (candidates : Entries String PageCandidate) : Prop where
  nodup : (candidates.map Prod.fst).Nodup
  own : ∀ e ∈ candidates, e.2.routePath = e.1

theorem ByRoute.addPageCandidate {candidates : Entries String PageCandidate}
    (h : ByRoute candidates) (candidate : PageCandidate) :
    ByRoute (addPageCandidate candidates candidate) where
  nodup := Entries.nodup_keys_set h.nodup _ _
  own := by
    refine Entries.forall_set h.own ?_
    cases hget : candidates.get? candidate.routePath with
    | none => rfl
    | some existing => exact h.own (candidate.routePath, existing) (Entries.mem_of_get? hget)

theorem ByRoute.addMenuPage {candidates : Entries String PageCandidate} (h : ByRoute candidates)
    (menu : MenuCandidate) : ByRoute (addMenuPage candidates menu) := by
  unfold CrawlerService.addMenuPage
  dsimp only
  split
  · exact h
  · exact ⟨Entries.nodup_keys_setDefault h.nodup _ _, Entries.forall_setDefault h.own rfl⟩

theorem ByRoute.addElementPage {candidates : Entries String PageCandidate} (h : ByRoute candidates)
    (element : ElementCandidate) : ByRoute (addElementPage candidates element) :=
  ⟨Entries.nodup_keys_setDefault h.nodup _ _, Entries.forall_setDefault h.own rfl⟩

theorem byRoute_discoveredPages (discovery dom probe : CrawlExtractionResult) :
    ByRoute (discoveredPages discovery dom probe) :=
  List.foldlRecOn _ _ ⟨List.nodup_nil, fun _ he => absurd he List.not_mem_nil⟩
    fun _ h page _ => h.addPageCandidate page

theorem byRoute_pageCandidates (discovery dom probe : CrawlExtractionResult) :
    ByRoute (pageCandidates discovery dom probe) := by
  have hmenus : ByRoute ((resolvedMenus discovery dom probe).foldl addMenuPage
      (discoveredPages discovery dom probe)) :=
    List.foldlRecOn _ _ (byRoute_discoveredPages discovery dom probe)
      fun _ h menu _ => h.addMenuPage menu
  exact List.foldlRecOn _ _ hmenus fun _ h element _ => h.addElementPage element

/-! ## Its keys -/

theorem mem_keys_discoveredPages {discovery dom probe : CrawlExtractionResult} {route : String} :
    route ∈ (discoveredPages discovery dom probe).map Prod.fst ↔
      ∃ page ∈ discovery.pages ++ dom.pages ++ probe.pages, page.routePath = route := by
  have hstep : ∀ (d : Entries String PageCandidate) (page : PageCandidate) (k : String),
      k ∈ (addPageCandidate d page).map Prod.fst ↔ k ∈ d.map Prod.fst ∨ page.routePath = k := by
    intro d page k
    rw [addPageCandidate, Entries.mem_keys_set, eq_comm (a := k)]
  rw [discoveredPages, Entries.mem_keys_foldl hstep]
  simp

/-- A route found under a title is the route of a page. -/
theorem route_of_title {pages : List PageCandidate} {title route : String}
    (h : (buildTitleRouteMap pages).get? title = some route) :
    ∃ page ∈ pages, page.routePath = route := by
  have hall : ∀ e ∈ buildTitleRouteMap pages, ∃ page ∈ pages, page.routePath = e.2 := by
    refine List.foldlRecOn _ _ (motive := fun d : Entries String String =>
      ∀ e ∈ d, ∃ page ∈ pages, page.routePath = e.2) (fun _ he => absurd he List.not_mem_nil) ?_
    intro d hd page hpage
    split
    · exact hd
    · exact Entries.forall_setDefault hd ⟨page, hpage, rfl⟩
  exact hall _ (Entries.mem_of_get? h)

/-- What a DOM menu names once its routes are completed: what it brought along, or else the route
of a page with its title. -/
theorem orText_resolveMenu (titleRoutes : Entries String String) (menu : MenuCandidate) :
    orText (resolveMenu titleRoutes menu).pageRoutePath (resolveMenu titleRoutes menu).routePath =
        orText menu.pageRoutePath menu.routePath ∨
      orText menu.pageRoutePath menu.routePath = "" ∧ ∃ title,
        titleRoutes.get? title = some (orText (resolveMenu titleRoutes menu).pageRoutePath
          (resolveMenu titleRoutes menu).routePath) := by
  cases hroute : menu.routePath with
  | some route =>
    left
    cases hpage : menu.pageRoutePath with
    | none => simp [resolveMenu, orText, hroute, hpage]
    | some page => simp [resolveMenu, orText, hroute, hpage]
  | none =>
    cases htitle : (normalizeTitleKey (some menu.label)).bind titleRoutes.get? with
    | none =>
      left
      simp [resolveMenu, orText, hroute, htitle]
    | some found =>
      obtain ⟨title, -, hfound⟩ := Option.bind_eq_some_iff.mp htitle
      cases hpage : menu.pageRoutePath with
      | none =>
        right
        refine ⟨by simp [orText], title, ?_⟩
        simp [resolveMenu, orText, hroute, hpage, htitle, hfound]
      | some page =>
        by_cases hempty : page = ""
        · right
          refine ⟨by simp [orText, hempty], title, ?_⟩
          simp [resolveMenu, orText, hroute, hpage, htitle, hfound, hempty]
        · left
          simp [resolveMenu, orText, hroute, hpage, htitle, hempty]

theorem mem_keys_addMenuPage (candidates : Entries String PageCandidate) (menu : MenuCandidate)
    (route : String) :
    route ∈ (addMenuPage candidates menu).map Prod.fst ↔
      route ∈ candidates.map Prod.fst ∨
        orText menu.pageRoutePath menu.routePath = route ∧ route ≠ "" := by
  unfold addMenuPage
  dsimp only
  split
  · rename_i hempty
    rw [hempty]
    have himp : ¬ ("" = route ∧ route ≠ "") := fun h => h.2 h.1.symm
    tauto
  · rename_i hne
    rw [Entries.mem_keys_setDefault]
    have himp : route = orText menu.pageRoutePath menu.routePath → route ≠ "" := fun h => h ▸ hne
    tauto

theorem mem_keys_addElementCandidate (merged : Entries ElementKey ElementCandidate)
    (candidate : ElementCandidate) (key : ElementKey) :
    key ∈ (addElementCandidate merged candidate).map Prod.fst ↔
      key ∈ merged.map Prod.fst ∨ buildRepresentativeElementKey candidate = key := by
  rw [addElementCandidate, Entries.mem_keys_set, eq_comm (a := key)]

/-- The routes of the kept elements, merged or not. -/
theorem exists_mergedElement {domElements probeElements : List ElementCandidate} {route : String} :
    (∃ element ∈ mergeRepresentativeElements domElements probeElements,
        element.pageRoutePath = route) ↔
      ∃ element ∈ domElements ++ probeElements,
        hasState element = true ∧ element.pageRoutePath = route := by
  set kept := (domElements ++ probeElements).filter hasState with hkept
  have hkeys : ∀ k, k ∈ (kept.foldl addElementCandidate []).map Prod.fst ↔
      ∃ e ∈ kept, buildRepresentativeElementKey e = k := by
    intro k
    rw [Entries.mem_keys_foldl mem_keys_addElementCandidate]
    simp
  -- an entry keeps the route of the element that made it, and that route is part of its key
  have hown : ∀ e ∈ kept.foldl addElementCandidate [], e.2.pageRoutePath = e.1.pageRoutePath := by
    refine List.foldlRecOn _ _ (motive := fun d : Entries ElementKey ElementCandidate =>
      ∀ e ∈ d, e.2.pageRoutePath = e.1.pageRoutePath) (fun _ he => absurd he List.not_mem_nil) ?_
    intro d hd candidate _
    refine Entries.forall_set hd ?_
    cases hget : d.get? (buildRepresentativeElementKey candidate) with
    | none => rfl
    | some existing =>
      exact hd (buildRepresentativeElementKey candidate, existing) (Entries.mem_of_get? hget)
  constructor
  · rintro ⟨element, helement, rfl⟩
    obtain ⟨entry, hentry, rfl⟩ := List.mem_map.mp helement
    obtain ⟨e, he, hkey⟩ := (hkeys entry.1).mp (List.mem_map_of_mem hentry)
    rw [hkept, List.mem_filter] at he
    refine ⟨e, he.1, he.2, ?_⟩
    rw [hown entry hentry, ← hkey]
    rfl
  · rintro ⟨e, he, hstate, rfl⟩
    have hmem : e ∈ kept := hkept ▸ List.mem_filter.mpr ⟨he, hstate⟩
    obtain ⟨entry, hentry, hkey⟩ := List.mem_map.mp ((hkeys _).mpr ⟨e, hmem, rfl⟩)
    refine ⟨entry.2, List.mem_map_of_mem hentry, ?_⟩
    rw [hown entry hentry, hkey]
    rfl

/-- **The page candidates are the routes the extractions name.** -/
theorem mem_keys_pageCandidates {discovery dom probe : CrawlExtractionResult} {route : String} :
    route ∈ (pageCandidates discovery dom probe).map Prod.fst ↔
      Names discovery dom probe route := by
  have helement : ∀ (d : Entries String PageCandidate) (e : ElementCandidate) (k : String),
      k ∈ (addElementPage d e).map Prod.fst ↔ k ∈ d.map Prod.fst ∨ e.pageRoutePath = k := by
    intro d e k
    rw [addElementPage, Entries.mem_keys_setDefault, eq_comm (a := k)]
  rw [pageCandidates, Entries.mem_keys_foldl helement, exists_mergedElement,
    Entries.mem_keys_foldl mem_keys_addMenuPage, mem_keys_discoveredPages, or_assoc, Names]
  -- a menu without a route of its own adds nothing: it names a page that is there
  set titles := buildTitleRouteMap ((discoveredPages discovery dom probe).map Prod.snd) with htitles
  have hfound : ∀ title found, titles.get? title = some found →
      ∃ page ∈ discovery.pages ++ dom.pages ++ probe.pages, page.routePath = found := by
    intro title found hget
    obtain ⟨page, hpage, rfl⟩ := route_of_title hget
    obtain ⟨entry, hentry, rfl⟩ := List.mem_map.mp hpage
    rw [(byRoute_discoveredPages discovery dom probe).own entry hentry]
    exact mem_keys_discoveredPages.mp (List.mem_map_of_mem hentry)
  constructor
  · rintro (hpage | ⟨resolved, hresolved, hroute, hne⟩ | helement)
    · exact Or.inl hpage
    · obtain ⟨menu, hmenu, rfl⟩ := List.mem_map.mp hresolved
      rcases orText_resolveMenu titles menu with heq | ⟨-, title, hget⟩
      · exact Or.inr (Or.inl ⟨menu, hmenu, heq.symm.trans hroute, hne⟩)
      · exact Or.inl (hfound title route (hroute ▸ hget))
    · exact Or.inr (Or.inr helement)
  · rintro (hpage | ⟨menu, hmenu, hroute, hne⟩ | helement)
    · exact Or.inl hpage
    · refine Or.inr (Or.inl ⟨_, List.mem_map_of_mem hmenu, ?_, hne⟩)
      rcases orText_resolveMenu titles menu with heq | ⟨hempty, -⟩
      · exact heq.trans hroute
      · exact absurd (hroute.symm.trans hempty) hne
    · exact Or.inr (Or.inr helement)

/-! ## The rows -/

section Rows

variable (ids : IdSource) (now : DateTime) (systemId snapshotId : UUID)

/-- The pages of a snapshot, in the order of the table. -/
def pagesOf (snapshotId : UUID) (db : Db) : List Page :=
  db.pages.rows.filter fun page => page.snapshotId = some snapshotId

theorem routes_foldl_persistPage (l : List PageCandidate) (acc : Db × Assignments String) :
    (pagesOf snapshotId (l.foldl (persistPage ids now systemId snapshotId) acc).1).map
        (·.routePath) =
      (pagesOf snapshotId acc.1).map (·.routePath) ++ l.map (·.routePath) := by
  induction l generalizing acc with
  | nil => simp
  | cons candidate l ih =>
    have hrow : (pagesOf snapshotId (persistPage ids now systemId snapshotId acc candidate).1).map
        (·.routePath) = (pagesOf snapshotId acc.1).map (·.routePath) ++ [candidate.routePath] := by
      simp [pagesOf, persistPage, List.filter_append]
    rw [List.foldl_cons, ih, hrow, List.map_cons, List.append_assoc, List.singleton_append]

theorem pages_persistMenus (pageMap : Assignments String) (l : List MenuCandidate)
    (st : MenuState) :
    (persistMenus ids systemId snapshotId pageMap st l).1.db.pages = st.db.pages :=
  have h := congrArg Db.pages (outside_persistMenus ids systemId snapshotId pageMap l st .empty)
  h

theorem pages_foldl_persistElement (pageMap : Assignments String) (l : List ElementCandidate)
    (db : Db) :
    (l.foldl (persistElement ids systemId snapshotId pageMap) db).pages = db.pages :=
  have h := congrArg Db.pages
    (outside_foldl_persistElement ids systemId snapshotId pageMap l db .empty)
  h

/-- The pages a snapshot gets are those of the page candidates, in order. -/
theorem routes_persistRows {db : Db} (crawlScope systemFramework : String)
    (extraction : CrawlExtractionResult)
    (hpages : ∀ page ∈ db.pages, ∀ id, page.snapshotId = some id →
      ∃ snapshot ∈ db.crawlSnapshots, snapshot.id = id) :
    (pagesOf (db.crawlSnapshots.nextKey ids)
        (persistRows ids now systemId crawlScope systemFramework extraction db)).map (·.routePath) =
      extraction.pages.map (·.routePath) := by
  have hfresh : pagesOf (db.crawlSnapshots.nextKey ids) db = [] := by
    rw [pagesOf, List.filter_eq_nil_iff]
    intro page hpage hid
    obtain ⟨snapshot, hsnapshot, hkey⟩ := hpages page hpage _ (of_decide_eq_true hid)
    exact Table.key_ne_nextKey db.crawlSnapshots ids hsnapshot hkey
  have hroutes := routes_foldl_persistPage ids now systemId (db.crawlSnapshots.nextKey ids)
    extraction.pages
    ({ db with
        crawlSnapshots := db.crawlSnapshots.insert ids
          (buildSnapshot systemId crawlScope systemFramework extraction now) }, [])
  have hstored := hroutes.trans (congrArg (·.map (·.routePath) ++ _) hfresh)
  rw [← List.nil_append (extraction.pages.map (·.routePath))]
  refine Eq.trans (congrArg (List.map _) ?_) hstored
  -- The menus and the elements, as many as are written, are no pages.
  unfold persistRows persistCrawlResult persistFacts pagesOf
  dsimp only
  split
  next heq =>
    have hmenus := congrArg (fun run => run.1.db.pages) heq
    rw [← hmenus, pages_persistMenus]
  next heq =>
    have hmenus := congrArg (fun run => run.1.db.pages) heq
    rw [pages_foldl_persistElement, ← hmenus, pages_persistMenus]

end Rows

/-! ## One row for each application page -/

section Once

variable (acceptsNetloc : String → Bool)

/-- The pages of a snapshot have routes, no two of them are one page of the application, and the
snapshot can be indexed by route. -/
structure PersistsOnce (snapshotId : UUID) (db : Db) : Prop where
  routes : ∀ page ∈ db.pages, page.snapshotId = some snapshotId →
    ∃ route, PageDiscovery.normalizePath acceptsNetloc page.routePath = .ok (some route) ∧
      route ≠ ""
  once : ∀ page ∈ db.pages, ∀ page' ∈ db.pages,
    page.snapshotId = some snapshotId → page'.snapshotId = some snapshotId →
      PageDiscovery.normalizePath acceptsNetloc page.routePath =
        PageDiscovery.normalizePath acceptsNetloc page'.routePath → page = page'
  indexed : ∃ index, CurrentStateDiff.indexByRoute []
    (CurrentStateSwitch.loadSnapshotSemanticState snapshotId db) = .ok index

/-- The routes that are named are routes, and no two of them have one normal form. -/
structure NamesOnce (discovery dom probe : CrawlExtractionResult) : Prop where
  routes : ∀ route, Names discovery dom probe route →
    ∃ normal, PageDiscovery.normalizePath acceptsNetloc route = .ok (some normal)
  once : ∀ route route', Names discovery dom probe route → Names discovery dom probe route' →
    PageDiscovery.normalizePath acceptsNetloc route =
      PageDiscovery.normalizePath acceptsNetloc route' → route = route'

variable {acceptsNetloc}

theorem mem_pagesOf {snapshotId : UUID} {db : Db} {page : Page} :
    page ∈ pagesOf snapshotId db ↔ page ∈ db.pages ∧ page.snapshotId = some snapshotId := by
  rw [pagesOf, List.mem_filter, decide_eq_true_iff]
  rfl

/-- Pages with routes of different normal forms can be indexed. -/
theorem indexable_of_once {snapshotId : UUID} {db : Db}
    (hroutes : ∀ page ∈ db.pages, page.snapshotId = some snapshotId →
      ∃ route, PageDiscovery.normalizePath acceptsNetloc page.routePath = .ok (some route))
    (honce : ∀ page ∈ db.pages, ∀ page' ∈ db.pages,
      page.snapshotId = some snapshotId → page'.snapshotId = some snapshotId →
        PageDiscovery.normalizePath acceptsNetloc page.routePath =
          PageDiscovery.normalizePath acceptsNetloc page'.routePath → page = page') :
    CurrentStateDiff.Indexable (CurrentStateSwitch.loadSnapshotSemanticState snapshotId db) := by
  constructor
  · intro f hf
    obtain ⟨page, hpage, rfl⟩ := List.mem_map.mp hf
    obtain ⟨hmem, hsnapshot⟩ := AssetCompiler.mem_snapshotPages.mp hpage
    obtain ⟨route, hroute⟩ := hroutes page hmem hsnapshot
    exact PageDiscovery.strip_ne_empty hroute
  · rw [CurrentStateSwitch.loadSnapshotSemanticState, List.map_map]
    refine (CurrentStateSwitch.nodup_snapshotPages snapshotId).map_on ?_
    intro page hpage page' hpage' hstrip
    obtain ⟨hmem, hsnapshot⟩ := AssetCompiler.mem_snapshotPages.mp hpage
    obtain ⟨hmem', hsnapshot'⟩ := AssetCompiler.mem_snapshotPages.mp hpage'
    refine honce page hmem page' hmem' hsnapshot hsnapshot' ?_
    have hstrip' : Text.strip page.routePath = Text.strip page'.routePath := hstrip
    rw [← PageDiscovery.normalizePath_strip page.routePath, hstrip',
      PageDiscovery.normalizePath_strip]

/-- **A crawl writes one row for each application page exactly when the extractions name it by one
text.**  The rows carry the named routes as they stand, so a page that is named by two texts is
two rows, and a text that is no route is a row as well. -/
theorem persists_once_iff (ids : IdSource) (now : DateTime) (systemId : UUID)
    (crawlScope systemFramework : String) (discovery dom probe : CrawlExtractionResult)
    (system : System) (warningMessages : List String) {db : Db}
    (hpages : ∀ page ∈ db.pages, ∀ id, page.snapshotId = some id →
      ∃ snapshot ∈ db.crawlSnapshots, snapshot.id = id) :
    PersistsOnce acceptsNetloc (db.crawlSnapshots.nextKey ids)
        (persistRows ids now systemId crawlScope systemFramework
          { combineResults discovery dom probe system with warningMessages := warningMessages }
          db) ↔
      NamesOnce acceptsNetloc discovery dom probe := by
  set snapshotId := db.crawlSnapshots.nextKey ids with hsnapshotId
  set db' := persistRows ids now systemId crawlScope systemFramework
    { combineResults discovery dom probe system with warningMessages := warningMessages } db
    with hdb'
  -- the routes of the rows are the keys of the dictionary
  have hkeys : (pagesOf snapshotId db').map (·.routePath) =
      (pageCandidates discovery dom probe).map Prod.fst := by
    rw [hsnapshotId, hdb', routes_persistRows ids now systemId crawlScope systemFramework _ hpages]
    change ((pageCandidates discovery dom probe).map Prod.snd).map (·.routePath) = _
    rw [List.map_map]
    exact List.map_congr_left (byRoute_pageCandidates discovery dom probe).own
  have hnodup : ((pagesOf snapshotId db').map (·.routePath)).Nodup :=
    hkeys ▸ (byRoute_pageCandidates discovery dom probe).nodup
  have hrow : ∀ route, Names discovery dom probe route →
      ∃ page ∈ db'.pages, page.snapshotId = some snapshotId ∧ page.routePath = route := by
    intro route hroute
    rw [← mem_keys_pageCandidates, ← hkeys] at hroute
    obtain ⟨page, hpage, rfl⟩ := List.mem_map.mp hroute
    exact ⟨page, (mem_pagesOf.mp hpage).1, (mem_pagesOf.mp hpage).2, rfl⟩
  have hnamed : ∀ page ∈ db'.pages, page.snapshotId = some snapshotId →
      Names discovery dom probe page.routePath := by
    intro page hpage hid
    rw [← mem_keys_pageCandidates, ← hkeys]
    exact List.mem_map_of_mem (mem_pagesOf.mpr ⟨hpage, hid⟩)
  constructor
  · intro h
    constructor
    · intro route hroute
      obtain ⟨page, hpage, hid, rfl⟩ := hrow route hroute
      obtain ⟨normal, hnormal, -⟩ := h.routes page hpage hid
      exact ⟨normal, hnormal⟩
    · intro route route' hroute hroute' heq
      obtain ⟨page, hpage, hid, rfl⟩ := hrow route hroute
      obtain ⟨page', hpage', hid', rfl⟩ := hrow route' hroute'
      rw [h.once page hpage page' hpage' hid hid' heq]
  · intro h
    have hroutes : ∀ page ∈ db'.pages, page.snapshotId = some snapshotId →
        ∃ route, PageDiscovery.normalizePath acceptsNetloc page.routePath = .ok (some route) :=
      fun page hpage hid => h.routes _ (hnamed page hpage hid)
    have honce : ∀ page ∈ db'.pages, ∀ page' ∈ db'.pages,
        page.snapshotId = some snapshotId → page'.snapshotId = some snapshotId →
          PageDiscovery.normalizePath acceptsNetloc page.routePath =
            PageDiscovery.normalizePath acceptsNetloc page'.routePath → page = page' := by
      intro page hpage page' hpage' hid hid' heq
      have hroute := h.once _ _ (hnamed page hpage hid) (hnamed page' hpage' hid') heq
      exact List.inj_on_of_nodup_map hnodup (mem_pagesOf.mpr ⟨hpage, hid⟩)
        (mem_pagesOf.mpr ⟨hpage', hid'⟩) hroute
    refine ⟨?_, honce, ?_⟩
    · intro page hpage hid
      obtain ⟨route, hroute⟩ := hroutes page hpage hid
      exact ⟨route, hroute, PageDiscovery.normalizePath_ne_empty hroute⟩
    · exact ⟨_, CurrentStateDiff.indexByRoute_of_indexable (indexable_of_once hroutes honce)⟩

end Once

/-! ### One page under two texts -/

namespace PageRowSample

/-- What page discovery makes of a link to the page. -/
def discovery : CrawlExtractionResult where
  pages := [{ routePath := "/users", pageTitle := some "Users" }]

/-- What the DOM traversal makes of a menu item with the given link to the page. -/
def dom (href : String) : CrawlExtractionResult where
  menus := (DomMenu.toMenuCandidate
    (.obj [("label", .str "Users"), ("route_path", .str href)])).toOption.join.toList

def system : System where
  id := 1
  code := "hr"
  name := "HR"
  baseUrl := "https://hr.example"

/-- The database after the crawl. -/
def crawled (href : String) : Db :=
  persistRows .ascending 0 1 "full" "vue"
    { combineResults discovery (dom href) {} system with warningMessages := [] } {}

theorem pages_linked (page : Page) (hpage : page ∈ ({} : Db).pages) (id : UUID)
    (_ : page.snapshotId = some id) : ∃ snapshot ∈ ({} : Db).crawlSnapshots, snapshot.id = id :=
  absurd hpage (Table.notMem_empty page)

theorem names_iff (route : String) : Names discovery (dom "/users") {} route ↔ route = "/users" := by
  have hmenus : (dom "/users").menus.map (fun m => orText m.pageRoutePath m.routePath) =
      ["/users"] := by decide +kernel
  have hmenu : ∀ r, (∃ m ∈ (dom "/users").menus, orText m.pageRoutePath m.routePath = r) ↔
      r = "/users" := by
    intro r
    rw [← List.mem_map, hmenus, List.mem_singleton]
  have hpages : discovery.pages ++ (dom "/users").pages ++ ({} : CrawlExtractionResult).pages =
      [{ routePath := "/users", pageTitle := some "Users" }] := rfl
  have helements : (dom "/users").elements ++ ({} : CrawlExtractionResult).elements = [] := rfl
  rw [Names, hpages, helements]
  constructor
  · rintro (⟨page, hpage, rfl⟩ | ⟨menu, hmem, hroute, -⟩ | ⟨element, helement, -⟩)
    · rw [List.mem_singleton.mp hpage]
    · exact (hmenu route).mp ⟨menu, hmem, hroute⟩
    · exact absurd helement List.not_mem_nil
  · rintro rfl
    exact Or.inl ⟨_, List.mem_singleton_self _, rfl⟩

end PageRowSample

theorem persists_once_sample :
    PersistsOnce (fun _ => true) 1 (PageRowSample.crawled "/users") := by
  refine (persists_once_iff .ascending 0 1 "full" "vue" PageRowSample.discovery
    (PageRowSample.dom "/users") {} PageRowSample.system []
    PageRowSample.pages_linked).mpr ⟨?_, ?_⟩
  · intro route hroute
    rw [(PageRowSample.names_iff route).mp hroute]
    exact ⟨"/users", by decide +kernel⟩
  · intro route route' hroute hroute' _
    rw [(PageRowSample.names_iff route).mp hroute, (PageRowSample.names_iff route').mp hroute']

/-- A menu item whose link ends in a slash makes a second row of the page. -/
theorem persists_once_fails :
    ¬ ∀ (acceptsNetloc : String → Bool) (ids : IdSource) (now : DateTime) (systemId : UUID)
        (crawlScope systemFramework : String) (discovery dom probe : CrawlExtractionResult)
        (system : System) (warningMessages : List String) (db : Db),
        (∀ page ∈ db.pages, ∀ id, page.snapshotId = some id →
          ∃ snapshot ∈ db.crawlSnapshots, snapshot.id = id) →
        PersistsOnce acceptsNetloc (db.crawlSnapshots.nextKey ids)
          (persistRows ids now systemId crawlScope systemFramework
            { combineResults discovery dom probe system with
              warningMessages := warningMessages } db) := by
  intro h
  have honce : PersistsOnce (fun _ => true) 1 (PageRowSample.crawled "/users/") :=
    h (fun _ => true) .ascending 0 1 "full" "vue" PageRowSample.discovery
      (PageRowSample.dom "/users/") {} PageRowSample.system [] {} PageRowSample.pages_linked
  have hrows : (pagesOf 1 (PageRowSample.crawled "/users/")).map (fun p => (p.id, p.routePath)) =
      [(1, "/users"), (2, "/users/")] := by decide +kernel
  have hfirst : (1, "/users") ∈
      (pagesOf 1 (PageRowSample.crawled "/users/")).map (fun p => (p.id, p.routePath)) := by
    rw [hrows]
    exact List.mem_cons_self
  have hsecond : (2, "/users/") ∈
      (pagesOf 1 (PageRowSample.crawled "/users/")).map (fun p => (p.id, p.routePath)) := by
    rw [hrows]
    exact List.mem_cons_of_mem _ (List.mem_singleton_self _)
  obtain ⟨page, hpage, heq⟩ := List.mem_map.mp hfirst
  obtain ⟨page', hpage', heq'⟩ := List.mem_map.mp hsecond
  obtain ⟨hid, hroute⟩ := Prod.mk.inj heq
  obtain ⟨hid', hroute'⟩ := Prod.mk.inj heq'
  have hsame : page = page' := by
    refine honce.once page (mem_pagesOf.mp hpage).1 page' (mem_pagesOf.mp hpage').1
      (mem_pagesOf.mp hpage).2 (mem_pagesOf.mp hpage').2 ?_
    rw [hroute, hroute']
    decide +kernel
  rw [hsame, hid'] at hid
  cases hid

end CrawlerService

end Runlet
