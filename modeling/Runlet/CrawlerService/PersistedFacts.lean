import Runlet.CrawlerService.PageRows
import Runlet.Library.Climb

/-!
# What a crawl keeps

`_combine_results` and the writing of the rows, followed together: which page, menu and element rows
there are after a crawl, and what they are linked to.

Elements are merged under a key (`buildRepresentativeElementKey`).  Those of the DOM traversal and
of the state probe are; page discovery has no part in them.  A menu finds its parent among the menus
before it, by the identity that is given or else by the label.

The writing of the menus raises where `int` refuses a number of a navigation identity
(`persistMenus_eq_ok_iff`); when nothing is raised, all facts are kept (`kept_runCrawl`).
-/

namespace Runlet

open KeyedTable
open Dict (Entries)

namespace CrawlerService

/-! ## The rows of a snapshot -/

def menusOf (snapshotId : UUID) (db : Db) : List MenuNode :=
  db.menuNodes.rows.filter fun menu => menu.snapshotId = snapshotId

def elementsOf (snapshotId : UUID) (db : Db) : List PageElement :=
  db.pageElements.rows.filter fun element => element.snapshotId = snapshotId

/-- Rows belong to snapshots that are there. -/
structure Referenced (db : Db) : Prop where
  pages : ∀ page ∈ db.pages, ∀ id, page.snapshotId = some id →
    ∃ snapshot ∈ db.crawlSnapshots, snapshot.id = id
  menuNodes : ∀ menu ∈ db.menuNodes, ∃ snapshot ∈ db.crawlSnapshots, snapshot.id = menu.snapshotId
  pageElements : ∀ element ∈ db.pageElements,
    ∃ snapshot ∈ db.crawlSnapshots, snapshot.id = element.snapshotId

/-- The merge key of an element row that is linked to a page. -/
def rowKey (page : Page) (row : PageElement) : ElementKey where
  pageRoutePath := page.routePath
  stateSignature := row.stateSignature
  elementType := row.elementType
  elementRole := row.elementRole
  elementText := row.elementText
  playwrightLocatorFallback :=
    if row.elementRole.getD "" = "" ∧ row.elementText.getD "" = "" then row.playwrightLocator
    else none

/-- The parent has the label that is given to the child, or the identity. -/
def IsParent (parent child : MenuCandidate) : Prop :=
  child.parentLabel = some parent.label ∨
    ∃ identity, serializeNavigationIdentity parent.navigationIdentity = .ok (some identity) ∧
      serializeNavigationIdentity child.parentNavigationIdentity = .ok (some identity)

/-- The same, where a child without a parent label under a parent with an empty one is left aside. -/
def IsNamedParent (parent child : MenuCandidate) : Prop :=
  child.parentLabel ≠ none ∨ parent.label ≠ "" → IsParent parent child

/-- The rows that menus become, and what they are linked to. -/
structure MenusKept (related : MenuCandidate → MenuCandidate → Prop) (menus : List MenuCandidate)
    (pages : List Page) (rows : List MenuNode) : Prop where
  labels : rows.map (·.label) = menus.map (·.label)
  page : ∀ (i : ℕ) menu row, menus[i]? = some menu → rows[i]? = some row →
    ∀ page ∈ pages, page.routePath = orText menu.pageRoutePath menu.routePath →
      row.pageId = some page.id
  parent : ∀ (i : ℕ) menu row, menus[i]? = some menu → rows[i]? = some row →
    ∀ id, row.parentId = some id →
      ∃ j < i, ∃ menu' row', menus[j]? = some menu' ∧ rows[j]? = some row' ∧ row'.id = id ∧
        related menu' menu
  forest : ∀ row, ¬ Relation.TransGen (IsParentIn MenuNode.id MenuNode.parentId rows) row row

/-- The facts of a crawl are in the rows of its snapshot. -/
structure Kept (elements : List ElementCandidate)
    (related : MenuCandidate → MenuCandidate → Prop)
    (discovery dom probe : CrawlExtractionResult) (snapshotId : UUID) (elementsSaved : ℕ)
    (db : Db) : Prop where
  pages : ∀ route, Names discovery dom probe route →
    ∃! page, page ∈ pagesOf snapshotId db ∧ page.routePath = route
  elements : ∀ element ∈ elements, hasState element = true →
    ∃! row, row ∈ elementsOf snapshotId db ∧ ∃ page ∈ pagesOf snapshotId db,
      page.id = row.pageId ∧ rowKey page row = buildRepresentativeElementKey element
  saved : (elementsOf snapshotId db).length = elementsSaved
  menus : MenusKept related (resolvedMenus discovery dom probe) (pagesOf snapshotId db)
    (menusOf snapshotId db)

/-! ## The merged elements -/

theorem orElseText_self (a : Option String) : orElseText a a = a := by
  unfold orElseText
  split <;> rfl

/-- Merging under a key leaves the key as it is. -/
theorem key_mergeElementCandidate {existing candidate : ElementCandidate}
    (h : buildRepresentativeElementKey existing = buildRepresentativeElementKey candidate) :
    buildRepresentativeElementKey (mergeElementCandidate existing candidate) =
      buildRepresentativeElementKey existing := by
  have htype : existing.elementType = candidate.elementType := congrArg ElementKey.elementType h
  have hrole : existing.elementRole = candidate.elementRole := congrArg ElementKey.elementRole h
  have htext : existing.elementText = candidate.elementText := congrArg ElementKey.elementText h
  have hlocator := congrArg ElementKey.playwrightLocatorFallback h
  unfold buildRepresentativeElementKey at hlocator
  unfold buildRepresentativeElementKey mergeElementCandidate
  dsimp only at hlocator ⊢
  rw [← htype, ← hrole, ← htext, orElseText_self, orElseText_self, ite_self]
  rw [← hrole, ← htext] at hlocator
  congr 1
  split
  next hempty =>
    rw [if_pos hempty, if_pos hempty] at hlocator
    rw [← hlocator, orElseText_self]
  next => rfl

/-- The dictionary of the kept elements: each under its own key. -/
structure ByKey (merged : Entries ElementKey ElementCandidate) : Prop where
  nodup : (merged.map Prod.fst).Nodup
  own : ∀ e ∈ merged, buildRepresentativeElementKey e.2 = e.1

theorem ByKey.addElementCandidate {merged : Entries ElementKey ElementCandidate} (h : ByKey merged)
    (candidate : ElementCandidate) : ByKey (addElementCandidate merged candidate) where
  nodup := Entries.nodup_keys_set h.nodup _ _
  own := by
    refine Entries.forall_set h.own ?_
    cases hget : merged.get? (buildRepresentativeElementKey candidate) with
    | none => rfl
    | some existing =>
      have hkey := h.own _ (Entries.mem_of_get? hget)
      exact (key_mergeElementCandidate hkey).trans hkey

theorem byKey_foldl (candidates : List ElementCandidate) :
    ByKey (candidates.foldl addElementCandidate []) :=
  List.foldlRecOn _ _ ⟨List.nodup_nil, fun _ he => absurd he List.not_mem_nil⟩
    fun _ h candidate _ => h.addElementCandidate candidate

theorem keys_mergeRepresentativeElements (domElements probeElements : List ElementCandidate) :
    (mergeRepresentativeElements domElements probeElements).map buildRepresentativeElementKey =
      (((domElements ++ probeElements).filter hasState).foldl addElementCandidate []).map
        Prod.fst := by
  rw [mergeRepresentativeElements, List.map_map]
  exact List.map_congr_left (byKey_foldl _).own

theorem nodup_keys_mergeRepresentativeElements (domElements probeElements : List ElementCandidate) :
    ((mergeRepresentativeElements domElements probeElements).map
      buildRepresentativeElementKey).Nodup := by
  rw [keys_mergeRepresentativeElements]
  exact (byKey_foldl _).nodup

theorem mem_keys_mergeRepresentativeElements {domElements probeElements : List ElementCandidate}
    {element : ElementCandidate} (h : element ∈ domElements ++ probeElements)
    (hstate : hasState element = true) :
    buildRepresentativeElementKey element ∈
      (mergeRepresentativeElements domElements probeElements).map
        buildRepresentativeElementKey := by
  rw [keys_mergeRepresentativeElements, Entries.mem_keys_foldl mem_keys_addElementCandidate]
  exact Or.inr ⟨element, List.mem_filter.mpr ⟨h, hstate⟩, rfl⟩

/-! ## The pages and their index -/

/-- `page_map` finds the page of a route. -/
def Finds (pageMap : Assignments String) (pages : List Page) : Prop :=
  ∀ route id, pageMap.get? route = some id ↔ ∃ page ∈ pages, page.routePath = route ∧ page.id = id

theorem get?_cons {κ : Type} [DecidableEq κ] (k k' : κ) (id : UUID) (l : Assignments κ) :
    Assignments.get? ((k, id) :: l) k' = if k = k' then some id else Assignments.get? l k' := by
  unfold Assignments.get?
  by_cases h : k = k'
  · rw [List.find?_cons_of_pos (by simpa using h), if_pos h]
    rfl
  · rw [List.find?_cons_of_neg (by simpa using h), if_neg h]

section Rows

variable (ids : IdSource) (now : DateTime) (systemId snapshotId : UUID)

theorem exists_persistPage (acc : Db × Assignments String) (candidate : PageCandidate) :
    ∃ row : Page, row.routePath = candidate.routePath ∧ row.id = acc.1.pages.nextKey ids ∧
      pagesOf snapshotId (persistPage ids now systemId snapshotId acc candidate).1 =
        pagesOf snapshotId acc.1 ++ [row] := by
  unfold pagesOf persistPage
  dsimp only
  rw [Table.rows_insert, List.filter_append, List.filter_cons_of_pos (by simp), List.filter_nil]
  exact ⟨_, rfl, rfl, rfl⟩

theorem finds_foldl_persistPage {db : Db} (hfresh : pagesOf snapshotId db = [])
    (l : List PageCandidate) (hnodup : (l.map (·.routePath)).Nodup) :
    Finds (l.foldl (persistPage ids now systemId snapshotId) (db, [])).2
      (pagesOf snapshotId (l.foldl (persistPage ids now systemId snapshotId) (db, [])).1) := by
  induction l using List.reverseRecOn with
  | nil =>
    intro route id
    change none = some id ↔ ∃ page ∈ pagesOf snapshotId db, _
    simp [hfresh]
  | append_singleton l candidate ih =>
    rw [List.map_append, List.map_singleton, List.nodup_append] at hnodup
    have ih := ih hnodup.1
    have hroutes := routes_foldl_persistPage ids now systemId snapshotId l (db, [])
    rw [List.foldl_concat]
    generalize l.foldl (persistPage ids now systemId snapshotId) (db, []) = acc at ih hroutes ⊢
    obtain ⟨row, hroute, hid, hpages⟩ :=
      exists_persistPage ids now systemId snapshotId acc candidate
    intro route id
    rw [hpages]
    change Assignments.get? ((candidate.routePath, acc.1.pages.nextKey ids) :: acc.2) route =
      some id ↔ _
    rw [get?_cons]
    have hnew : ∀ page ∈ pagesOf snapshotId acc.1, page.routePath ≠ candidate.routePath := by
      intro page hpage heq
      have hmem : page.routePath ∈ (pagesOf snapshotId acc.1).map (·.routePath) :=
        List.mem_map_of_mem hpage
      rw [hroutes, hfresh, List.map_nil, List.nil_append, heq] at hmem
      exact hnodup.2.2 _ hmem _ (List.mem_singleton_self _) rfl
    simp only [List.mem_append, List.mem_singleton, or_and_right, exists_or, exists_eq_left]
    by_cases h : candidate.routePath = route
    · subst h
      rw [if_pos rfl, Option.some_inj, ← hid]
      constructor
      · exact fun heq => Or.inr ⟨hroute, heq⟩
      · rintro (⟨page, hpage, heq, -⟩ | ⟨-, heq⟩)
        · exact absurd heq (hnew page hpage)
        · exact heq
    · rw [if_neg h, ih route id]
      constructor
      · exact Or.inl
      · rintro (hold | ⟨heq, -⟩)
        · exact hold
        · exact absurd (hroute.symm.trans heq) h

/-! ## The menus -/

/-- Menus with the rows they became, and where the two dictionaries lead. -/
structure MenuPairs (pageMap : Assignments String) (pairs : List (MenuCandidate × MenuNode))
    (st : MenuState) : Prop where
  label : ∀ e ∈ pairs, e.2.label = e.1.label
  page : ∀ e ∈ pairs, e.2.pageId = pageMap.get? (orText e.1.pageRoutePath e.1.routePath)
  parent : ∀ (i : ℕ) e, pairs[i]? = some e → ∀ id, e.2.parentId = some id →
    ∃ j < i, ∃ e', pairs[j]? = some e' ∧ e'.2.id = id ∧ IsNamedParent e'.1 e.1
  byLabel : ∀ label id, st.byLabel.get? label = some id →
    ∃ e ∈ pairs, e.2.id = id ∧ e.1.label = label
  byIdentity : ∀ identity id, st.byIdentity.get? identity = some id →
    ∃ e ∈ pairs, e.2.id = id ∧
      serializeNavigationIdentity e.1.navigationIdentity = .ok (some identity)

variable (pageMap : Assignments String)

/-- The parent of a menu, as the dictionaries give it. -/
def parentIdOf (st : MenuState) (parentIdentity : Option NavigationIdentity)
    (candidate : MenuCandidate) : Option UUID :=
  (parentIdentity.bind st.byIdentity.get?).or (st.byLabel.get? (candidate.parentLabel.getD ""))

/-- A turn that does not raise: the row, and the entries in the two dictionaries. -/
structure StoresMenu (st : MenuState) (candidate : MenuCandidate) (row : MenuNode)
    (st' : MenuState) : Prop where
  label : row.label = candidate.label
  page : row.pageId = pageMap.get? (orText candidate.pageRoutePath candidate.routePath)
  parent : ∃ parentIdentity,
    serializeNavigationIdentity candidate.parentNavigationIdentity = .ok parentIdentity ∧
      row.parentId = parentIdOf st parentIdentity candidate
  rows : menusOf snapshotId st'.db = menusOf snapshotId st.db ++ [row]
  byLabel : st'.byLabel = (candidate.label, row.id) :: st.byLabel
  byIdentity : ∃ identity,
    serializeNavigationIdentity candidate.navigationIdentity = .ok identity ∧
      st'.byIdentity = (identity.map fun own => (own, row.id)).toList ++ st.byIdentity

theorem exists_storesMenu {st st' : MenuState} {candidate : MenuCandidate}
    (h : persistMenu ids systemId snapshotId pageMap st candidate = (st', .ok ())) :
    ∃ row, StoresMenu snapshotId pageMap st candidate row st' := by
  have hrows : ∀ parentIdentity, ∃ row : MenuNode,
      row.id = st.db.menuNodes.nextKey ids ∧ row.label = candidate.label ∧
        row.pageId = pageMap.get? (orText candidate.pageRoutePath candidate.routePath) ∧
        row.parentId = parentIdOf st parentIdentity candidate ∧
        menusOf snapshotId
            (storeMenu ids systemId snapshotId pageMap parentIdentity st candidate).db =
          menusOf snapshotId st.db ++ [row] := by
    intro parentIdentity
    unfold menusOf storeMenu parentIdOf
    dsimp only
    rw [Table.rows_insert, List.filter_append, List.filter_cons_of_pos (by simp), List.filter_nil]
    exact ⟨_, rfl, rfl, rfl, rfl, rfl⟩
  unfold persistMenu at h
  cases hgiven : serializeNavigationIdentity candidate.parentNavigationIdentity with
  | error message =>
    rw [hgiven] at h
    cases h
  | ok parentIdentity =>
    obtain ⟨row, hid, hlabel, hpage, hparent, happend⟩ := hrows parentIdentity
    rw [hgiven] at h
    dsimp only at h
    cases hown : serializeNavigationIdentity candidate.navigationIdentity with
    | error message =>
      rw [hown] at h
      cases h
    | ok identity =>
      rw [hown] at h
      cases identity with
      | none =>
        cases h
        exact ⟨row, hlabel, hpage, ⟨_, hgiven, hparent⟩, happend, by rw [hid]; rfl, none, hown, rfl⟩
      | some identity =>
        cases h
        exact ⟨row, hlabel, hpage, ⟨_, hgiven, hparent⟩, happend, by rw [hid]; rfl, some identity,
          hown, by rw [hid]; rfl⟩

/-- A parent that is found is a menu that came before. -/
theorem MenuPairs.exists_parent {pageMap : Assignments String}
    {pairs : List (MenuCandidate × MenuNode)} {st : MenuState} (h : MenuPairs pageMap pairs st)
    {candidate : MenuCandidate} {parentIdentity : Option NavigationIdentity}
    (hgiven : serializeNavigationIdentity candidate.parentNavigationIdentity = .ok parentIdentity)
    {id : UUID} (hparent : parentIdOf st parentIdentity candidate = some id) :
    ∃ e ∈ pairs, e.2.id = id ∧ IsNamedParent e.1 candidate := by
  rcases Option.or_eq_some_iff.mp hparent with hidentity | ⟨-, hlabel⟩
  · obtain ⟨identity, rfl, hget⟩ := Option.bind_eq_some_iff.mp hidentity
    obtain ⟨e, he, hid, hown⟩ := h.byIdentity identity id hget
    exact ⟨e, he, hid, fun _ => Or.inr ⟨identity, hown, hgiven⟩⟩
  · obtain ⟨e, he, hid, hown⟩ := h.byLabel _ id hlabel
    refine ⟨e, he, hid, fun hnamed => Or.inl ?_⟩
    cases hlabel : candidate.parentLabel with
    | none =>
      rw [hlabel] at hown hnamed
      exact absurd hown (hnamed.resolve_left (not_not.mpr rfl))
    | some label =>
      rw [hlabel] at hown
      exact congrArg some hown.symm

theorem MenuPairs.storesMenu {pageMap : Assignments String}
    {pairs : List (MenuCandidate × MenuNode)} {st st' : MenuState} (h : MenuPairs pageMap pairs st)
    {candidate : MenuCandidate} {row : MenuNode}
    (hstores : StoresMenu snapshotId pageMap st candidate row st') :
    MenuPairs pageMap (pairs ++ [(candidate, row)]) st' where
  label := by
    intro e he
    rcases List.mem_append.mp he with he | he
    · exact h.label e he
    · obtain rfl := List.mem_singleton.mp he
      exact hstores.label
  page := by
    intro e he
    rcases List.mem_append.mp he with he | he
    · exact h.page e he
    · obtain rfl := List.mem_singleton.mp he
      exact hstores.page
  parent := by
    intro i e hi id hsome
    rcases Nat.lt_or_ge i pairs.length with hlt | hge
    · rw [List.getElem?_append_left hlt] at hi
      obtain ⟨j, hj, e', he', hrest⟩ := h.parent i e hi id hsome
      exact ⟨j, hj, e', by rw [List.getElem?_append_left (hj.trans hlt), he'], hrest⟩
    · rw [List.getElem?_append_right hge] at hi
      obtain rfl := List.mem_singleton.mp (List.mem_of_getElem? hi)
      obtain ⟨parentIdentity, hgiven, hparent⟩ := hstores.parent
      obtain ⟨e', he', hrest⟩ := h.exists_parent hgiven (hparent.symm.trans hsome)
      obtain ⟨j, hj⟩ := List.mem_iff_getElem?.mp he'
      have hjlt : j < pairs.length := (List.getElem?_eq_some_iff.mp hj).1
      exact ⟨j, hjlt.trans_le hge, e', by rw [List.getElem?_append_left hjlt, hj], hrest⟩
  byLabel := by
    intro label id hget
    rw [hstores.byLabel, get?_cons] at hget
    split at hget
    next heq => exact ⟨(candidate, row), by simp, Option.some.inj hget, heq⟩
    next =>
      obtain ⟨e, he, hrest⟩ := h.byLabel label id hget
      exact ⟨e, List.mem_append_left _ he, hrest⟩
  byIdentity := by
    intro identity id hget
    obtain ⟨own, hown, hentries⟩ := hstores.byIdentity
    have hbefore : st.byIdentity.get? identity = some id →
        ∃ e ∈ pairs ++ [(candidate, row)], e.2.id = id ∧
          serializeNavigationIdentity e.1.navigationIdentity = .ok (some identity) := by
      intro hget
      obtain ⟨e, he, hrest⟩ := h.byIdentity identity id hget
      exact ⟨e, List.mem_append_left _ he, hrest⟩
    rw [hentries] at hget
    cases own with
    | none => exact hbefore hget
    | some own =>
      change Assignments.get? ((own, row.id) :: st.byIdentity) identity = some id at hget
      rw [get?_cons] at hget
      split at hget
      next heq =>
        exact ⟨(candidate, row), by simp, Option.some.inj hget, heq ▸ hown⟩
      next => exact hbefore hget

/-- What all turns leave, when none raises. -/
theorem exists_menuPairs {pageMap : Assignments String} {l : List MenuCandidate}
    {pairs : List (MenuCandidate × MenuNode)} {st st' : MenuState}
    (hpairs : MenuPairs pageMap pairs st) (hrows : pairs.map Prod.snd = menusOf snapshotId st.db)
    (h : persistMenus ids systemId snapshotId pageMap st l = (st', .ok ())) :
    ∃ pairs', pairs'.map Prod.fst = pairs.map Prod.fst ++ l ∧
      pairs'.map Prod.snd = menusOf snapshotId st'.db ∧ MenuPairs pageMap pairs' st' := by
  induction l generalizing pairs st with
  | nil =>
    cases h
    exact ⟨pairs, (List.append_nil _).symm, hrows, hpairs⟩
  | cons candidate l ih =>
    unfold persistMenus at h
    split at h
    next => cases h
    next next hone =>
      obtain ⟨row, hstores⟩ := exists_storesMenu ids systemId snapshotId pageMap hone
      have hrows' : (pairs ++ [(candidate, row)]).map Prod.snd = menusOf snapshotId next.db := by
        rw [List.map_append, hrows, hstores.rows, List.map_singleton]
      obtain ⟨pairs', hmenus, hrest⟩ := ih (hpairs.storesMenu snapshotId hstores) hrows' h
      refine ⟨pairs', ?_, hrest⟩
      rw [hmenus, List.map_append, List.append_assoc, List.map_singleton, List.singleton_append]

theorem menuPairs_nil (pageMap : Assignments String) (db : Db) :
    MenuPairs pageMap [] { db := db } where
  label _ he := absurd he List.not_mem_nil
  page _ he := absurd he List.not_mem_nil
  parent _ _ hi := nomatch hi
  byLabel _ _ hget := nomatch hget
  byIdentity _ _ hget := nomatch hget

/-- `int` reads the numbers of both identities of a menu. -/
def IsReadable (menu : MenuCandidate) : Prop :=
  ∀ v ∈ serializedNumbers menu.parentNavigationIdentity ++
      serializedNumbers menu.navigationIdentity, ¬ IsRefused v

theorem persistMenu_eq_ok_iff {st : MenuState} {candidate : MenuCandidate} :
    (persistMenu ids systemId snapshotId pageMap st candidate).2 = .ok () ↔
      IsReadable candidate := by
  rw [IsReadable, List.forall_mem_append, ← exists_serializeNavigationIdentity_iff,
    ← exists_serializeNavigationIdentity_iff]
  unfold persistMenu
  cases serializeNavigationIdentity candidate.parentNavigationIdentity with
  | error message => exact ⟨fun h => (nomatch h), fun h => (nomatch h.1.choose_spec)⟩
  | ok parentIdentity =>
    cases serializeNavigationIdentity candidate.navigationIdentity with
    | error message => exact ⟨fun h => (nomatch h), fun h => (nomatch h.2.choose_spec)⟩
    | ok identity =>
      refine ⟨fun _ => ⟨⟨_, rfl⟩, ⟨_, rfl⟩⟩, fun _ => ?_⟩
      cases identity <;> rfl

/-- **The menus are written exactly when `int` reads the numbers of their identities.** -/
theorem persistMenus_eq_ok_iff {st : MenuState} {l : List MenuCandidate} :
    (persistMenus ids systemId snapshotId pageMap st l).2 = .ok () ↔
      ∀ menu ∈ l, IsReadable menu := by
  induction l generalizing st with
  | nil => exact ⟨fun _ menu hmenu => absurd hmenu List.not_mem_nil, fun _ => rfl⟩
  | cons candidate l ih =>
    have hone := @persistMenu_eq_ok_iff ids systemId snapshotId pageMap st candidate
    rw [List.forall_mem_cons, ← hone]
    unfold persistMenus
    split
    next heq =>
      rw [heq]
      exact ⟨fun h => (nomatch h), fun h => (nomatch h.1)⟩
    next heq =>
      rw [heq, ih]
      exact ⟨fun h => ⟨rfl, h⟩, And.right⟩

theorem menusKept_of_pairs {pageMap : Assignments String}
    {pairs : List (MenuCandidate × MenuNode)} {st : MenuState} {pages : List Page}
    (hpairs : MenuPairs pageMap pairs st) (hfinds : Finds pageMap pages)
    (hkeys : ((pairs.map Prod.snd).map MenuNode.id).Nodup) :
    MenusKept IsNamedParent (pairs.map Prod.fst) pages (pairs.map Prod.snd) := by
  have hpair : ∀ {i : ℕ} {menu : MenuCandidate} {row : MenuNode},
      (pairs.map Prod.fst)[i]? = some menu → (pairs.map Prod.snd)[i]? = some row →
        pairs[i]? = some (menu, row) := by
    intro i menu row hmenu hrow
    rw [List.getElem?_map] at hmenu hrow
    obtain ⟨e, he, rfl⟩ := Option.map_eq_some_iff.mp hmenu
    rw [he] at hrow ⊢
    rw [← Option.some.inj hrow]
  refine ⟨?_, ?_, ?_, ?_⟩
  · rw [List.map_map, List.map_map]
    exact List.map_congr_left hpairs.label
  · intro i menu row hmenu hrow page hpage hroute
    have he := List.mem_of_getElem? (hpair hmenu hrow)
    rw [hpairs.page _ he]
    exact (hfinds _ _).mpr ⟨page, hpage, hroute, rfl⟩
  · intro i menu row hmenu hrow id hid
    obtain ⟨j, hj, e, he, hrest⟩ := hpairs.parent i _ (hpair hmenu hrow) id hid
    exact ⟨j, hj, e.1, e.2, by rw [List.getElem?_map, he]; rfl, by rw [List.getElem?_map, he]; rfl,
      hrest⟩
  · refine not_above_itself hkeys fun i row hrow id hid => ?_
    rw [List.getElem?_map] at hrow
    obtain ⟨e, he, rfl⟩ := Option.map_eq_some_iff.mp hrow
    obtain ⟨j, hj, e', he', hrest, -⟩ := hpairs.parent i e he id hid
    exact ⟨j, hj, e'.2, by rw [List.getElem?_map, he']; rfl, hrest⟩

/-! ## The elements -/

/-- The merge key of a row, by the page that it is linked to. -/
def keyIn (pages : List Page) (row : PageElement) : Option ElementKey :=
  (pages.find? fun page => page.id = row.pageId).map fun page => rowKey page row

theorem keyIn_eq_some_iff {pages : List Page} (hids : (pages.map Page.id).Nodup)
    {row : PageElement} {k : ElementKey} :
    keyIn pages row = some k ↔ ∃ page ∈ pages, page.id = row.pageId ∧ rowKey page row = k := by
  unfold keyIn
  rw [Option.map_eq_some_iff]
  constructor
  · rintro ⟨page, hfind, hkey⟩
    exact ⟨page, List.mem_of_find?_eq_some hfind,
      by simpa using List.find?_some hfind, hkey⟩
  · rintro ⟨page, hpage, hid, hkey⟩
    cases hfind : pages.find? fun page => page.id = row.pageId with
    | none => exact absurd (decide_eq_true hid) (by simpa using List.find?_eq_none.mp hfind page hpage)
    | some found =>
      have hfound : found.id = row.pageId := by
        simpa using List.find?_some hfind
      have hsame := List.inj_on_of_nodup_map hids (List.mem_of_find?_eq_some hfind) hpage
        (hfound.trans hid.symm)
      exact ⟨found, rfl, hsame ▸ hkey⟩

theorem exists_persistElement {pages : List Page} (hids : (pages.map Page.id).Nodup)
    {candidate : ElementCandidate} {page : Page} (hpage : page ∈ pages)
    (hroute : page.routePath = candidate.pageRoutePath)
    (hget : pageMap.get? candidate.pageRoutePath = some page.id) (db : Db) :
    (elementsOf snapshotId (persistElement ids systemId snapshotId pageMap db candidate)).map
        (keyIn pages) =
      (elementsOf snapshotId db).map (keyIn pages) ++
        [some (buildRepresentativeElementKey candidate)] := by
  unfold elementsOf persistElement
  rw [hget]
  dsimp only
  rw [Table.rows_insert, List.filter_append, List.filter_cons_of_pos (by simp), List.filter_nil,
    List.map_append, List.map_singleton]
  congr 2
  refine (keyIn_eq_some_iff hids).mpr ⟨page, hpage, rfl, ?_⟩
  unfold rowKey buildRepresentativeElementKey
  dsimp only
  rw [hroute]

theorem keys_foldl_persistElement {pages : List Page} (hids : (pages.map Page.id).Nodup)
    {l : List ElementCandidate}
    (h : ∀ candidate ∈ l, ∃ page ∈ pages, page.routePath = candidate.pageRoutePath ∧
      pageMap.get? candidate.pageRoutePath = some page.id) (db : Db) :
    (elementsOf snapshotId
        (l.foldl (persistElement ids systemId snapshotId pageMap) db)).map (keyIn pages) =
      (elementsOf snapshotId db).map (keyIn pages) ++
        l.map fun candidate => some (buildRepresentativeElementKey candidate) := by
  induction l generalizing db with
  | nil => simp
  | cons candidate l ih =>
    obtain ⟨page, hpage, hroute, hget⟩ := h candidate List.mem_cons_self
    rw [List.foldl_cons, ih fun other hother => h other (List.mem_cons_of_mem _ hother),
      exists_persistElement ids systemId snapshotId pageMap hids hpage hroute hget,
      List.append_assoc, List.singleton_append, List.map_cons]

end Rows

/-! ## All of it -/

theorem nodup_ids {snapshotId : UUID} {db : Db} : ((pagesOf snapshotId db).map Page.id).Nodup :=
  db.pages.nodup.sublist (List.filter_sublist.map Page.id)

theorem nodup_menu_ids {snapshotId : UUID} {db : Db} :
    ((menusOf snapshotId db).map MenuNode.id).Nodup :=
  db.menuNodes.nodup.sublist (List.filter_sublist.map MenuNode.id)

section Kept

variable (ids : IdSource) (now : DateTime) (systemId snapshotId : UUID)

/-- The pages of the candidates have different routes, those of the dictionary. -/
theorem routes_pageCandidates (discovery dom probe : CrawlExtractionResult) :
    ((pageCandidates discovery dom probe).map Prod.snd).map (·.routePath) =
      (pageCandidates discovery dom probe).map Prod.fst := by
  rw [List.map_map]
  exact List.map_congr_left (byRoute_pageCandidates discovery dom probe).own

/-- Two lists of pages with the routes of the dictionary: each named route is there once. -/
theorem existsUnique_page {discovery dom probe : CrawlExtractionResult} {pages : List Page}
    (hroutes : pages.map (·.routePath) = (pageCandidates discovery dom probe).map Prod.fst)
    {route : String} (hroute : Names discovery dom probe route) :
    ∃! page, page ∈ pages ∧ page.routePath = route := by
  have hnodup : (pages.map (·.routePath)).Nodup :=
    hroutes ▸ (byRoute_pageCandidates discovery dom probe).nodup
  rw [← mem_keys_pageCandidates, ← hroutes] at hroute
  obtain ⟨page, hpage, rfl⟩ := List.mem_map.mp hroute
  exact ⟨page, ⟨hpage, rfl⟩, fun other hother =>
    List.inj_on_of_nodup_map hnodup hother.1 hpage hother.2⟩

/-- The rows of the merged elements: each key is there once. -/
theorem existsUnique_element {domElements probeElements : List ElementCandidate}
    {pages : List Page} {rows : List PageElement} (hids : (pages.map Page.id).Nodup)
    (hkeys : rows.map (keyIn pages) =
      (mergeRepresentativeElements domElements probeElements).map
        fun candidate => some (buildRepresentativeElementKey candidate))
    {element : ElementCandidate} (helement : element ∈ domElements ++ probeElements)
    (hstate : hasState element = true) :
    ∃! row, row ∈ rows ∧ ∃ page ∈ pages, page.id = row.pageId ∧
      rowKey page row = buildRepresentativeElementKey element := by
  have hmap : rows.map (keyIn pages) =
      ((mergeRepresentativeElements domElements probeElements).map
        buildRepresentativeElementKey).map some := by
    rw [hkeys, List.map_map]
    rfl
  have hnodup : (rows.map (keyIn pages)).Nodup := by
    rw [hmap]
    exact (nodup_keys_mergeRepresentativeElements domElements probeElements).map
      (Option.some_injective _)
  have hmem : some (buildRepresentativeElementKey element) ∈ rows.map (keyIn pages) := by
    rw [hmap]
    exact List.mem_map_of_mem (mem_keys_mergeRepresentativeElements helement hstate)
  obtain ⟨row, hrow, hkey⟩ := List.mem_map.mp hmem
  refine ⟨row, ⟨hrow, (keyIn_eq_some_iff hids).mp hkey⟩, fun other hother => ?_⟩
  have hother' := (keyIn_eq_some_iff hids).mpr hother.2
  exact List.inj_on_of_nodup_map hnodup hother.1 hrow (hother'.trans hkey.symm)

/-- The facts of a combination are kept by the rows of a snapshot that had none. -/
theorem kept_persistFacts (discovery dom probe : CrawlExtractionResult) (system : System)
    (warningMessages : List String) (db : Db) (hpages : pagesOf snapshotId db = [])
    (hmenus : menusOf snapshotId db = []) (helements : elementsOf snapshotId db = [])
    (hok : (persistFacts ids now systemId snapshotId
      { combineResults discovery dom probe system with warningMessages := warningMessages }
      db).2 = .ok ()) :
    Kept (dom.elements ++ probe.elements) IsNamedParent discovery dom probe snapshotId
      (mergeRepresentativeElements dom.elements probe.elements).length
      (persistFacts ids now systemId snapshotId
        { combineResults discovery dom probe system with warningMessages := warningMessages }
        db).1 := by
  unfold persistFacts at hok ⊢
  dsimp only [combineResults] at hok ⊢
  -- the pages
  have hfinds := finds_foldl_persistPage ids now systemId snapshotId hpages
    ((pageCandidates discovery dom probe).map Prod.snd)
    (routes_pageCandidates discovery dom probe ▸ (byRoute_pageCandidates discovery dom probe).nodup)
  have hroutes := routes_foldl_persistPage ids now systemId snapshotId
    ((pageCandidates discovery dom probe).map Prod.snd) (db, [])
  have hframe := outside_foldl_persistPage ids now systemId snapshotId
    ((pageCandidates discovery dom probe).map Prod.snd) (db, []) .empty
  generalize ((pageCandidates discovery dom probe).map Prod.snd).foldl
    (persistPage ids now systemId snapshotId) (db, []) = stored at hfinds hroutes hframe hok ⊢
  rw [hpages, List.map_nil, List.nil_append, routes_pageCandidates] at hroutes
  have hmenus : menusOf snapshotId stored.1 = [] :=
    (congrArg (menusOf snapshotId) hframe).trans hmenus
  have helements : elementsOf snapshotId stored.1 = [] :=
    (congrArg (elementsOf snapshotId) hframe).trans helements
  -- the menus
  have hframe := outside_persistMenus ids systemId snapshotId stored.2
    (resolvedMenus discovery dom probe) { db := stored.1 } .empty
  cases hrun : persistMenus ids systemId snapshotId stored.2 { db := stored.1 }
    (resolvedMenus discovery dom probe) with | mk st outcome
  rw [hrun] at hframe hok
  cases outcome with
  | error message => exact nomatch hok
  | ok =>
    obtain ⟨pairs, hcandidates, hrows, hpairs⟩ := exists_menuPairs ids systemId snapshotId
      (menuPairs_nil stored.2 stored.1) hmenus.symm hrun
    rw [List.map_nil, List.nil_append] at hcandidates
    have hpagesSt : pagesOf snapshotId st.db = pagesOf snapshotId stored.1 :=
      have h := congrArg (pagesOf snapshotId) hframe
      h
    have helements : elementsOf snapshotId st.db = [] :=
      (congrArg (elementsOf snapshotId) hframe).trans helements
    -- the elements
    have hlinked : ∀ candidate ∈ mergeRepresentativeElements dom.elements probe.elements,
        ∃ page ∈ pagesOf snapshotId stored.1, page.routePath = candidate.pageRoutePath ∧
          stored.2.get? candidate.pageRoutePath = some page.id := by
      intro candidate hcandidate
      have hnamed : Names discovery dom probe candidate.pageRoutePath :=
        Or.inr (Or.inr (exists_mergedElement.mp ⟨candidate, hcandidate, rfl⟩))
      obtain ⟨page, ⟨hpage, hroute⟩, -⟩ := existsUnique_page hroutes hnamed
      exact ⟨page, hpage, hroute, (hfinds _ _).mpr ⟨page, hpage, hroute, rfl⟩⟩
    have hkeys := keys_foldl_persistElement ids systemId snapshotId stored.2 nodup_ids hlinked st.db
    have hframe := outside_foldl_persistElement ids systemId snapshotId stored.2
      (mergeRepresentativeElements dom.elements probe.elements) st.db .empty
    dsimp only
    generalize (mergeRepresentativeElements dom.elements probe.elements).foldl
      (persistElement ids systemId snapshotId stored.2) st.db = final at hkeys hframe ⊢
    rw [helements, List.map_nil, List.nil_append] at hkeys
    have hpagesFinal : pagesOf snapshotId final = pagesOf snapshotId stored.1 :=
      (congrArg (pagesOf snapshotId) hframe).trans hpagesSt
    have hmenusFinal : menusOf snapshotId final = menusOf snapshotId st.db :=
      have h := congrArg (menusOf snapshotId) hframe
      h
    refine ⟨?_, ?_, ?_, ?_⟩
    · intro route hroute
      rw [hpagesFinal]
      exact existsUnique_page hroutes hroute
    · intro element helement hstate
      rw [hpagesFinal]
      exact existsUnique_element nodup_ids hkeys helement hstate
    · have hlength := congrArg List.length hkeys
      rwa [List.length_map, List.length_map] at hlength
    · rw [hpagesFinal, hmenusFinal, ← hcandidates, ← hrows]
      exact menusKept_of_pairs hpairs hfinds (hrows ▸ nodup_menu_ids)

theorem persistFacts_eq_ok_iff {extraction : CrawlExtractionResult} {db : Db} :
    (persistFacts ids now systemId snapshotId extraction db).2 = .ok () ↔
      ∀ menu ∈ extraction.menus, IsReadable menu := by
  unfold persistFacts
  generalize extraction.pages.foldl (persistPage ids now systemId snapshotId) (db, []) = stored
  rw [← @persistMenus_eq_ok_iff ids systemId snapshotId stored.2 { db := stored.1 }]
  dsimp only
  split
  next heq => rw [heq]
  next heq => rw [heq]

/-- **A crawl keeps its facts.**  It returns exactly when `int` reads the numbers in the identities
of its menus, and whenever it returns, its facts are in the rows.  The elements are those of the DOM
traversal and the state probe. -/
theorem kept_runCrawl (crawlScope : String) (discovery dom probe : CrawlExtractionResult)
    (warningMessages : List String) (message : Option String) {system : System} {db : Db}
    (hsystem : db.systems.get? systemId = some system) (hreferenced : Referenced db) :
    let run := runCrawl (.extracted
      { combineResults discovery dom probe system with warningMessages := warningMessages }
      message) ids now systemId crawlScope db
    ((∃ result, run.2 = .ok result) ↔
        ∀ menu ∈ resolvedMenus discovery dom probe, IsReadable menu) ∧
      ∀ result, run.2 = .ok result →
        result.snapshotId = some (db.crawlSnapshots.nextKey ids) ∧
          Kept (dom.elements ++ probe.elements) IsNamedParent discovery dom probe
            (db.crawlSnapshots.nextKey ids) result.elementsSaved run.1 := by
  have hnone : ∀ {snapshotId : UUID} {p : Prop},
      (∃ snapshot ∈ db.crawlSnapshots, snapshot.id = snapshotId) →
        snapshotId = db.crawlSnapshots.nextKey ids → p := by
    rintro snapshotId p ⟨snapshot, hsnapshot, hid⟩ heq
    exact absurd (hid.trans heq) (Table.key_ne_nextKey db.crawlSnapshots ids hsnapshot)
  have hpages : pagesOf (db.crawlSnapshots.nextKey ids) db = [] :=
    List.filter_eq_nil_iff.mpr fun page hpage hid =>
      hnone (hreferenced.pages page hpage _ (of_decide_eq_true hid)) rfl
  have hmenus : menusOf (db.crawlSnapshots.nextKey ids) db = [] :=
    List.filter_eq_nil_iff.mpr fun menu hmenu hid =>
      hnone (hreferenced.menuNodes menu hmenu) (of_decide_eq_true hid)
  have helements : elementsOf (db.crawlSnapshots.nextKey ids) db = [] :=
    List.filter_eq_nil_iff.mpr fun element helement hid =>
      hnone (hreferenced.pageElements element helement) (of_decide_eq_true hid)
  set extraction := { combineResults discovery dom probe system with
    warningMessages := warningMessages } with hextraction
  have hok : (persistCrawlResult ids now systemId crawlScope system.frameworkType extraction db).2 =
      .ok () ↔ ∀ menu ∈ resolvedMenus discovery dom probe, IsReadable menu :=
    persistFacts_eq_ok_iff ids now systemId _
  intro run
  have hrun : run = runCrawl (.extracted extraction message) ids now systemId crawlScope db := rfl
  unfold runCrawl at hrun
  rw [hsystem] at hrun
  dsimp only at hrun
  rw [← hok]
  cases houtcome : (persistCrawlResult ids now systemId crawlScope system.frameworkType extraction
    db).2 with
  | error error =>
    rw [houtcome] at hrun
    rw [hrun]
    exact ⟨⟨fun ⟨_, h⟩ => (nomatch h), fun h => (nomatch h)⟩, fun _ h => (nomatch h)⟩
  | ok =>
    rw [houtcome] at hrun
    rw [hrun]
    refine ⟨⟨fun _ => rfl, fun _ => ⟨_, rfl⟩⟩, ?_⟩
    rintro result ⟨⟩
    refine ⟨rfl, ?_⟩
    have hkept := kept_persistFacts ids now systemId (db.crawlSnapshots.nextKey ids) discovery dom
      probe system warningMessages
      { db with
        crawlSnapshots := db.crawlSnapshots.insert ids
          (buildSnapshot systemId crawlScope system.frameworkType extraction now) } hpages hmenus
      helements houtcome
    exact ⟨hkept.pages, hkept.elements, hkept.saved, hkept.menus⟩

end Kept

/-! ### What is not kept -/

namespace KeptSample

def system : System where
  id := 1
  code := "hr"
  name := "HR"
  baseUrl := "https://hr.example"

def db : Db := { systems := Table.single system }

theorem referenced : Referenced db :=
  ⟨fun page hpage => absurd hpage (Table.notMem_empty page),
    fun menu hmenu => absurd hmenu (Table.notMem_empty menu),
    fun element helement => absurd helement (Table.notMem_empty element)⟩

def button : ElementCandidate where
  pageRoutePath := "/users"
  elementType := "button"
  stateSignature := some "users:default"

/-- A menu, and one under it that gives the identity of its parent. -/
def menus : List MenuCandidate :=
  [{ label := "Admin"
     navigationIdentity := some (.obj [("label", .str "Admin"), ("depth", .int 0)]) },
    { label := "Users"
      pageRoutePath := some "/users"
      parentNavigationIdentity := some (.obj [("label", .str "Admin"), ("depth", .str "0")]) }]

def crawled (discovery dom : CrawlExtractionResult) : Db × Except String CrawlRunResult :=
  runCrawl (.extracted { combineResults discovery dom {} system with warningMessages := [] } none)
    .ascending 0 1 "full" db

end KeptSample

open KeptSample in
theorem kept_sample :
    ∃ result, (crawled {} { elements := [button], menus := menus }).2 = .ok result ∧
      result.snapshotId = some 1 ∧
      Kept ([button] ++ []) IsNamedParent {} { elements := [button], menus := menus } {} 1
        result.elementsSaved (crawled {} { elements := [button], menus := menus }).1 := by
  obtain ⟨hreturns, hkept⟩ := kept_runCrawl .ascending 0 1 "full" {}
    { elements := [button], menus := menus } {} [] none
    (show db.systems.get? 1 = some system from rfl) referenced
  have hmenus : resolvedMenus {} { elements := [button], menus := menus } {} = menus := rfl
  have hnumbers : (menus.flatMap fun menu => serializedNumbers menu.parentNavigationIdentity ++
      serializedNumbers menu.navigationIdentity) =
        [some (.int 0), none, some (.str "0"), none] := rfl
  have hread : ∀ v ∈ [some (Json.int 0), none, some (.str "0"), none], ¬ IsRefused v := by
    simp only [List.forall_mem_cons]
    exact ⟨not_false, not_false, exists_wholeNumber_iff.mp ⟨some 0, rfl⟩, not_false,
      fun v hv => absurd hv List.not_mem_nil⟩
  obtain ⟨result, hresult⟩ := hreturns.mpr (by
    rw [hmenus]
    intro menu hmenu v hv
    exact hread v (hnumbers ▸ List.mem_flatMap.mpr ⟨menu, hmenu, hv⟩))
  exact ⟨result, hresult, hkept result hresult⟩

open KeptSample in
/-- An element that comes from page discovery is in no row. -/
theorem kept_fails :
    ∃ result, (crawled { elements := [button] } {}).2 = .ok result ∧
      ¬ Kept (({ elements := [button] } : CrawlExtractionResult).elements ++ [] ++ [])
        IsParent { elements := [button] } {} {} 1 result.elementsSaved
        (crawled { elements := [button] } {}).1 := by
  refine ⟨_, rfl, fun h => ?_⟩
  obtain ⟨row, ⟨hrow, -⟩, -⟩ := h.elements button (by simp) (by decide)
  have hrows : elementsOf 1 (crawled { elements := [button] } {}).1 = [] := rfl
  rw [hrows] at hrow
  exact absurd hrow List.not_mem_nil

end CrawlerService

end Runlet
