import Runlet.CrawlerService.Extractors.DiscoveryOutcome

/-!
# The visits of discovered pages

What page discovery hands to the state probe: its pages, and the records of its targets.  The probe
visits the pages of both through a registry of its own, records first.  A page that a page target
led to is always visited, and when no budget refused a page target, every page is
(`discovered_pages_visited`): a visit to a page has no context, so a route asks for one place, and
the routes are those of the pages.
-/

namespace Runlet

namespace PageDiscovery

open NavigationTargets (normalizeRoute normalizeStateContext)
open NavigationTargetRegistry Admission Attempt

/-! ## Visits without a context -/

/-- The route at which a page with this route is visited. -/
def visitedAt (route : String) : Option String :=
  (normalizeRoutePath (.str route)).bind fun routePath => normalizeRoute (.str routePath)

theorem visitRoute_eq (page : PageCandidate) : visitRoute page = visitedAt page.routePath := by
  unfold visitRoute pageVisit visitedAt
  rw [Option.bind_map]
  rfl

/-- A visit to the page of a route, with nothing but the route to tell it from others. -/
structure IsPlainVisit (route : String) (target : NavigationTarget) : Prop where
  visit : IsVisit target
  context : target.stateContext = []
  hint : target.routeHint = visitedAt route

theorem isPlainVisit_pageVisit {page : PageCandidate} {target : NavigationTarget}
    (h : pageVisit page = some target) : IsPlainVisit page.routePath target := by
  refine ⟨isVisit_pageVisit h, ?_, ?_⟩
  · obtain ⟨route, -, rfl⟩ := Option.map_eq_some_iff.mp h
    rfl
  · rw [← visitRoute_eq, visitRoute, h, Option.bind_some]

theorem eq_pageRoute_of_text {kind : NavigationTargetKind} (h : kind.text = "page_route") :
    kind = .pageRoute := by
  cases kind with
  | pageRoute => rfl
  | _ => exact absurd h (by decide)

theorem eq_text_of_ofText? {text : String} {kind : NavigationTargetKind}
    (h : NavigationTargetKind.ofText? text = some kind) : text = kind.text := by
  unfold NavigationTargetKind.ofText? at h
  split at h
  case h_11 => cases h
  all_goals
    rw [← Option.some_inj.mp h]
    rfl

/-- The route of a record, as it is read back. -/
theorem hint_modelDump {record : NavigationTargetResult} {route : String}
    (hroute : record.routeHint = some route) (hslash : Text.startsWith "/" route = true) :
    Json.orElse ((modelDump record).get? "route_hint") ((modelDump record).get? "route_path") =
      some (.str route) := by
  have hget : (modelDump record).get? "route_hint" = some (.str route) := by
    change some (NavigationTarget.optionJson record.routeHint) = some (.str route)
    rw [hroute]
    rfl
  have htruthy : (route != "") = true := by
    simpa using Text.ne_empty_of_startsWith_slash hslash
  rw [hget]
  exact if_pos htruthy

/-- Only the record of a page asks for a visit. -/
theorem kind_of_navigationVisit {record : NavigationTargetResult} {target : NavigationTarget}
    (h : navigationVisit (modelDump record) = some target) : record.targetKind = .pageRoute := by
  have hkind : (modelDump record).get? "target_kind" = some (.str record.targetKind.text) := rfl
  unfold navigationVisit at h
  rw [hkind] at h
  split at h
  · rename_i htext
    exact eq_pageRoute_of_text (Json.str.inj (Option.some_inj.mp htext))
  · cases h

/-- The record of a page without a context asks for a plain visit. -/
theorem isPlainVisit_navigationVisit {record : NavigationTargetResult} {route : String}
    (hroute : record.routeHint = some route) (hslash : Text.startsWith "/" route = true)
    (hcontext : record.stateContext = []) {target : NavigationTarget}
    (h : navigationVisit (modelDump record) = some target) : IsPlainVisit route target := by
  have hvisit := isVisit_navigationVisit h
  unfold navigationVisit at h
  rw [hint_modelDump hroute hslash, Option.getD_some] at h
  split at h
  · obtain ⟨routePath, hpath, rfl⟩ := Option.map_eq_some_iff.mp h
    refine ⟨hvisit, ?_, ?_⟩
    · change normalizeStateContext (.obj (normalizeStateContext (.obj record.stateContext))) = []
      rw [hcontext]
      rfl
    · rw [visitedAt, hpath]
      rfl
  · cases h

/-- A record of a page asks for a visit. -/
theorem exists_navigationVisit {record : NavigationTargetResult} {route : String}
    (hkind : record.targetKind = .pageRoute) (hroute : record.routeHint = some route)
    (hslash : Text.startsWith "/" route = true) :
    ∃ target, navigationVisit (modelDump record) = some target := by
  have hget : (modelDump record).get? "target_kind" = some (.str "page_route") := by
    change some (Json.str record.targetKind.text) = _
    rw [hkind]
    rfl
  obtain ⟨routePath, hpath⟩ := normalizeRoutePath_of_slash hslash
  unfold navigationVisit
  rw [hget, hint_modelDump hroute hslash, Option.getD_some, hpath]
  exact ⟨_, rfl⟩

/-- Plain visits ask for one place each route. -/
theorem slots_le_of_plain {l : List NavigationTarget} {routes : List String}
    (h : ∀ target ∈ l, ∃ route ∈ routes, IsPlainVisit route target) :
    slots (·.dedupeKey) (·.routeHint) 4 l ≤ routes.length := by
  refine (slots_le_card_groups fun a ha b hb hab => ?_).trans ?_
  · obtain ⟨route, -, hplain⟩ := h a ha
    obtain ⟨route', -, hplain'⟩ := h b hb
    change a.routeHint = b.routeHint at hab
    unfold NavigationTarget.dedupeKey
    rw [hab, hplain.visit.kind, hplain'.visit.kind, hplain.visit.parent, hplain'.visit.parent,
      hplain.context, hplain'.context]
  · have hsub : (l.map (·.routeHint)).toFinset ⊆ (routes.map visitedAt).toFinset := by
      intro hint hhint
      rw [List.mem_toFinset] at hhint ⊢
      obtain ⟨target, htarget, rfl⟩ := List.mem_map.mp hhint
      obtain ⟨route, hroute, hplain⟩ := h target htarget
      exact List.mem_map.mpr ⟨route, hroute, hplain.hint.symm⟩
    refine (Finset.card_le_card hsub).trans ((List.toFinset_card_le _).trans ?_)
    rw [List.length_map]

/-! ## What discovery hands on -/

section Handed

variable {acceptsNetloc : String → Bool} {budgets : Budgets} {facts : SessionFacts}
  {discovery : Discovery}

/-- The visits that discovery's own result asks for. -/
def visitTargets (discovery : Discovery) : List NavigationTarget :=
  buildPageVisitTargets discovery.extraction.pages (discovery.navigationTargets.map modelDump)

section Facts

variable {gathered : Gathered} {history : List SeedRecord}
  {pageStore : Dict.Entries String PageStore}
  (h : IsDiscovery acceptsNetloc budgets facts discovery gathered history pageStore)
include h

/-- A queued record of a page asks for a plain visit to a page of the discovery. -/
theorem IsDiscovery.queued_page {record : NavigationTargetResult}
    (hrecord : record ∈ discovery.navigationTargets)
    (hqueued : record.materializationStatus = .queued) :
    ∃ route, record.routeHint = some route ∧ Text.startsWith "/" route = true ∧
      (record.targetKind = .pageRoute → record.stateContext = []) ∧
      route ∈ discovery.extraction.pages.map (·.routePath) := by
  obtain ⟨target, htarget, hvalidate⟩ := h.exists_target_of_mem hrecord
  obtain ⟨-, hhint, hcontext, hkind, hstatus⟩ := recorded_of_modelValidate hvalidate
  rcases htarget with htarget | ⟨-, hblocked⟩
  · obtain ⟨e, he, -, hsame⟩ := h.gathers.exists_seed htarget
    obtain ⟨signal, -, hseed⟩ := h.isSeed e he
    obtain ⟨route, hroute, hslash⟩ := hseed.target.route
    have htargetRoute := (route_of_identity_eq hsame).symm.trans hroute
    refine ⟨route, hhint.trans htargetRoute, hslash, fun hpage => ?_, ?_⟩
    · rw [hcontext, ← context_of_identity_eq hsame]
      refine hseed.target.page ?_
      rw [kind_of_identity_eq hsame, eq_text_of_ofText? hkind, hpage]
      rfl
    · obtain ⟨page, hpage, rfl⟩ := h.exists_page_iff.mpr ⟨target, htarget, htargetRoute⟩
      exact List.mem_map_of_mem hpage
  · rw [hblocked, hqueued] at hstatus
    exact absurd hstatus (by decide)

/-- The queued records come first. -/
theorem IsDiscovery.exists_queued_append :
    ∃ queued blocked, discovery.navigationTargets = queued ++ blocked ∧
      (∀ record ∈ queued, record.materializationStatus = .queued) ∧
      ∀ record ∈ blocked, record.materializationStatus = .blocked := by
  have hrecords := h.records
  unfold serializeNavigationTargets at hrecords
  rw [List.mapM_append] at hrecords
  obtain ⟨queued, hqueued, hrecords⟩ := bind_eq_ok_iff.mp hrecords
  obtain ⟨blocked, hblocked, hrecords⟩ := bind_eq_ok_iff.mp hrecords
  refine ⟨queued, blocked, (Except.ok.inj hrecords).symm, fun record hrecord => ?_,
    fun record hrecord => ?_⟩
  · obtain ⟨target, htarget, hvalidate⟩ := exists_of_mem_mapM hqueued hrecord
    obtain ⟨-, -, -, -, hstatus⟩ := recorded_of_modelValidate hvalidate
    rw [h.gathers.queued target htarget] at hstatus
    exact (Option.some_inj.mp hstatus).symm
  · obtain ⟨target, htarget, hvalidate⟩ := exists_of_mem_mapM hblocked hrecord
    obtain ⟨-, -, -, -, hstatus⟩ := recorded_of_modelValidate hvalidate
    rw [of_decide_eq_true (List.mem_filter.mp htarget).2] at hstatus
    exact (Option.some_inj.mp hstatus).symm

/-- The visit of a queued record is a plain one to a page. -/
theorem IsDiscovery.isPlainVisit_of_queued {record : NavigationTargetResult}
    (hrecord : record ∈ discovery.navigationTargets)
    (hqueued : record.materializationStatus = .queued) {target : NavigationTarget}
    (hvisit : navigationVisit (modelDump record) = some target) :
    ∃ route ∈ discovery.extraction.pages.map (·.routePath), IsPlainVisit route target := by
  obtain ⟨route, hroute, hslash, hcontext, hpage⟩ := h.queued_page hrecord hqueued
  exact ⟨route, hpage, isPlainVisit_navigationVisit hroute hslash
    (hcontext (kind_of_navigationVisit hvisit)) hvisit⟩

/-- The routes of pages are visited somewhere. -/
theorem IsDiscovery.exists_visitRoute {page : PageCandidate}
    (hpage : page ∈ discovery.extraction.pages) :
    Text.startsWith "/" page.routePath = true ∧ ∃ route, visitRoute page = some route := by
  obtain ⟨target, htarget, hhint⟩ := h.exists_page_iff.mp ⟨page, hpage, rfl⟩
  obtain ⟨e, he, -, hsame⟩ := h.gathers.exists_seed htarget
  obtain ⟨signal, -, hseed⟩ := h.isSeed e he
  obtain ⟨route, hroute, hslash⟩ := hseed.target.route
  have heq : route = page.routePath :=
    Option.some_inj.mp (hroute.symm.trans ((route_of_identity_eq hsame).trans hhint))
  rw [heq] at hslash
  obtain ⟨routePath, hpath⟩ := normalizeRoutePath_of_slash hslash
  obtain ⟨hint, hnormalized⟩ := normalizeRoute_of_slash (startsWith_of_normalizeRoutePath hpath)
  refine ⟨hslash, hint, ?_⟩
  rw [visitRoute_eq, visitedAt, hpath, Option.bind_some, hnormalized]

omit h in
/-- When only plain visits to the pages come before a page, it is visited. -/
theorem visits_of_plain {page : PageCandidate} (hpage : page ∈ discovery.extraction.pages)
    {route : String} (hroute : visitRoute page = some route)
    (hplain : ∀ target ∈ beforeGroup (·.routeHint) (some route)
      (visits discovery.extraction.pages (discovery.navigationTargets.map modelDump)),
        ∃ route ∈ discovery.extraction.pages.map (·.routePath), IsPlainVisit route target) :
    Visits (visitTargets discovery) route := by
  refine (visit_iff hpage hroute).mpr ?_
  have hle := slots_le_of_plain hplain
  rw [List.length_map] at hle
  unfold placesBefore visitBudget
  omega

end Facts

/-- **Discovered pages are visited**: each one that a page target led to, and all of them when no
budget refused a page target. -/
theorem discovered_pages_visited (h : extract acceptsNetloc budgets facts = .ok discovery) :
    (∀ page ∈ discovery.extraction.pages, ∀ record ∈ discovery.navigationTargets,
      record.targetKind = .pageRoute → record.materializationStatus = .queued →
        record.routeHint = some page.routePath →
          ∃ route, visitRoute page = some route ∧ Visits (visitTargets discovery) route) ∧
    ((∀ record ∈ discovery.navigationTargets, record.targetKind = .pageRoute →
        record.materializationStatus = .queued) →
      ∀ page ∈ discovery.extraction.pages,
        ∃ route, visitRoute page = some route ∧ Visits (visitTargets discovery) route) := by
  obtain ⟨gathered, history, pageStore, h⟩ := exists_isDiscovery h
  constructor
  · intro page hpage record hrecord hkind hqueued hhint
    obtain ⟨hslash, route, hroute⟩ := h.exists_visitRoute hpage
    refine ⟨route, hroute, visits_of_plain hpage hroute fun target htarget => ?_⟩
    obtain ⟨queued, blocked, hsplit, hallQueued, hallBlocked⟩ := h.exists_queued_append
    -- The record stands among the queued ones, and so does whatever comes before its visit.
    have hfront : record ∈ queued := by
      rw [hsplit] at hrecord
      refine (List.mem_append.mp hrecord).resolve_right fun hmem => ?_
      rw [hallBlocked record hmem] at hqueued
      cases hqueued
    obtain ⟨visit, hvisit⟩ := exists_navigationVisit hkind hhint hslash
    have hvisits : visits discovery.extraction.pages (discovery.navigationTargets.map modelDump) =
        (queued.map modelDump).filterMap navigationVisit ++
          ((blocked.map modelDump).filterMap navigationVisit ++
            discovery.extraction.pages.filterMap pageVisit) := by
      rw [visits, hsplit, List.map_append, List.filterMap_append, List.append_assoc]
    have hgroup : some route ∈
        ((queued.map modelDump).filterMap navigationVisit).map (·.routeHint) := by
      obtain ⟨hint, hhint', -, hcontext, -⟩ := h.queued_page hrecord hqueued
      have hplain := isPlainVisit_navigationVisit hhint hslash (hcontext hkind) hvisit
      rw [visitRoute_eq] at hroute
      exact List.mem_map.mpr ⟨visit, List.mem_filterMap.mpr
        ⟨modelDump record, List.mem_map_of_mem hfront, hvisit⟩, hplain.hint.trans hroute⟩
    rw [hvisits] at htarget
    obtain ⟨dumped, hdumped, hother⟩ := List.mem_filterMap.mp (beforeGroup_subset hgroup htarget)
    obtain ⟨other, hmem, rfl⟩ := List.mem_map.mp hdumped
    exact h.isPlainVisit_of_queued (hsplit ▸ List.mem_append_left _ hmem) (hallQueued other hmem)
      hother
  · intro hnone page hpage
    obtain ⟨-, route, hroute⟩ := h.exists_visitRoute hpage
    refine ⟨route, hroute, visits_of_plain hpage hroute fun target htarget => ?_⟩
    have hmem := List.takeWhile_subset _ htarget
    rcases List.mem_append.mp hmem with hmem | hmem
    · obtain ⟨dumped, hdumped, hvisit⟩ := List.mem_filterMap.mp hmem
      obtain ⟨record, hrecord, rfl⟩ := List.mem_map.mp hdumped
      exact h.isPlainVisit_of_queued hrecord
        (hnone record hrecord (kind_of_navigationVisit hvisit)) hvisit
    · obtain ⟨other, hother, hvisit⟩ := List.mem_filterMap.mp hmem
      exact ⟨other.routePath, List.mem_map_of_mem hother, isPlainVisit_pageVisit hvisit⟩

/-- An application that tells two of its routes. -/
def twoRoutes : SessionFacts where
  routeHints := .ok (.arr [.obj [("path", .str "/orders")], .obj [("path", .str "/users")]])

/-- The routes of the page targets, and what became of them. -/
def pageTargets (discovery : Discovery) : List (Option String × NavigationMaterializationStatus) :=
  (discovery.navigationTargets.filter fun record => record.targetKind = .pageRoute).map
    fun record => (record.routeHint, record.materializationStatus)

def pagesAndTargets : Except DiscoveryError Discovery →
    Option (List String × List (Option String × NavigationMaterializationStatus))
  | .ok discovery =>
    some (discovery.extraction.pages.map (·.routePath), pageTargets discovery)
  | .error _ => none

theorem exists_of_pagesAndTargets {result : Except DiscoveryError Discovery} {routes : List String}
    {targets : List (Option String × NavigationMaterializationStatus)}
    (h : pagesAndTargets result = some (routes, targets)) :
    ∃ discovery, result = .ok discovery ∧
      discovery.extraction.pages.map (·.routePath) = routes ∧ pageTargets discovery = targets := by
  cases result with
  | error error => cases h
  | ok discovery =>
    obtain ⟨hroutes, htargets⟩ := Prod.mk.inj (Option.some.inj h)
    exact ⟨discovery, rfl, hroutes, htargets⟩

/-- Two pages with the budgets of the extractor, and one with a budget that refuses the second
target. -/
theorem discovered_pages_visited_sample :
    (∃ discovery, extract (fun _ => true) {} twoRoutes = .ok discovery ∧
      discovery.extraction.pages.map (·.routePath) = ["/orders", "/users"] ∧
      ∀ page ∈ discovery.extraction.pages,
        ∃ route, visitRoute page = some route ∧ Visits (visitTargets discovery) route) ∧
    ∃ discovery, extract (fun _ => true) { maxTargetsPerKind := 1 } twoRoutes = .ok discovery ∧
      discovery.extraction.pages.map (·.routePath) = ["/orders"] ∧
      pageTargets discovery = [(some "/orders", .queued), (some "/users", .blocked)] ∧
      ∃ page ∈ discovery.extraction.pages, page.routePath = "/orders" ∧
        ∃ route, visitRoute page = some route ∧ Visits (visitTargets discovery) route := by
  constructor
  · have hevaluated : pagesAndTargets (extract (fun _ => true) {} twoRoutes) =
        some (["/orders", "/users"], [(some "/orders", .queued), (some "/users", .queued)]) := by
      decide +kernel
    obtain ⟨discovery, h, hroutes, htargets⟩ := exists_of_pagesAndTargets hevaluated
    refine ⟨discovery, h, hroutes, (discovered_pages_visited h).2 fun record hrecord hkind => ?_⟩
    have hmem : (record.routeHint, record.materializationStatus) ∈ pageTargets discovery :=
      List.mem_map_of_mem (List.mem_filter.mpr ⟨hrecord, decide_eq_true hkind⟩)
    rw [htargets] at hmem
    rcases List.mem_pair.mp hmem with heq | heq
    · exact congrArg Prod.snd heq
    · exact congrArg Prod.snd heq
  · have hevaluated : pagesAndTargets (extract (fun _ => true) { maxTargetsPerKind := 1 }
        twoRoutes) =
        some (["/orders"], [(some "/orders", .queued), (some "/users", .blocked)]) := by
      decide +kernel
    obtain ⟨discovery, h, hroutes, htargets⟩ := exists_of_pagesAndTargets hevaluated
    refine ⟨discovery, h, hroutes, htargets, ?_⟩
    obtain ⟨page, hpage, hroute⟩ := List.mem_map.mp
      (hroutes ▸ List.mem_cons_self : "/orders" ∈ discovery.extraction.pages.map (·.routePath))
    obtain ⟨record, hrecord, hpair⟩ := List.mem_map.mp
      (htargets ▸ List.mem_cons_self : (some "/orders", .queued) ∈ pageTargets discovery)
    obtain ⟨hmem, hkind⟩ := List.mem_filter.mp hrecord
    obtain ⟨hhint, hqueued⟩ := Prod.mk.inj hpair
    exact ⟨page, hpage, hroute, (discovered_pages_visited h).1 page hpage record hmem
      (of_decide_eq_true hkind) hqueued (hhint.trans (congrArg some hroute.symm))⟩

end Handed

end PageDiscovery

end Runlet
