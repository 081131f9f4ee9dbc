import Runlet.CrawlerService.Extractors.CollectedStates
import Runlet.CrawlerService.Extractors.DiscoveryOutcome
import Runlet.CrawlerService.Extractors.DomTraversal
import Runlet.CrawlerService.PersistedFacts

/-!
# One extraction of a crawl

`_extract_crawl_once` of `crawler_service/service.py`: page discovery, the traversal of the DOM and
the state probe, one after the other on one session, and the combination of what they found.

The pages of the discovery stay as they are, in front; pages are added for the routes that only
menus and elements mention (`KeepsPages`).  Elements are merged, but never across states: the states
of an extraction have different signatures, and a signature is part of the key under which elements
are merged.  So a merged element carries the route, the signature and the context of one state
(`KeepsStates`), and so does its row.
-/

namespace Runlet

open Dict (Entries)
open Attempt (bind_eq_ok_iff mapError_eq_ok_iff)

namespace CrawlerService

open StateProbe (Shown CollectedOf signatureOf contextJson)

/-! ## The extraction -/

/-- The extractors: their budgets, and what they ask of code that is not here. -/
structure Extractors where
  acceptsNetloc : String → Bool
  readFloat : String → Option Rat
  budgets : PageDiscovery.Budgets := {}
  maxActionsPerPage : Int := 6

/-- What the session answers to the three extractors. -/
structure SessionAnswers where
  discovery : PageDiscovery.SessionFacts
  dom : DomMenu.DomSession
  probe : StateProbe.BrowserSession

/-- What an extraction may raise. -/
inductive ExtractionFailure where
  | discovery (error : PageDiscovery.DiscoveryError)
  | dom (message : String)
  | probe (failure : StateProbe.ProbeFailure)

section Extraction

variable (extractors : Extractors) (answers : SessionAnswers)

def discoverPages : Except PageDiscovery.DiscoveryError PageDiscovery.Discovery :=
  PageDiscovery.extract extractors.acceptsNetloc extractors.budgets answers.discovery

def traverseDom : Except String CrawlExtractionResult :=
  DomMenu.extract extractors.readFloat answers.dom

/-- The state probe, with the pages and the records it is given: what it returns or raises, and its
calls. -/
def probeStates (discovery : PageDiscovery.Discovery) :
    Except StateProbe.ProbeFailure (CrawlExtractionResult × List NavigationTargetResult) ×
      List StateProbe.SessionCall :=
  StateProbe.extract answers.probe extractors.maxActionsPerPage discovery.extraction.pages
    (discovery.navigationTargets.map PageDiscovery.modelDump)

/-- `_extract_crawl_once`, of a session that was opened. -/
def extractCrawlOnce (system : System) : Except ExtractionFailure CrawlExtractionResult := do
  let discovery ← (discoverPages extractors answers).mapError .discovery
  let dom ← (traverseDom extractors answers).mapError .dom
  let probe ← (probeStates extractors answers discovery).1.mapError .probe
  return combineResults discovery.extraction dom probe.1 system

end Extraction

/-! ## Pages -/

/-- A page that is there for a menu or for an element. -/
def AddedFor (combined : CrawlExtractionResult) (page : PageCandidate) : Prop :=
  (∃ menu ∈ combined.menus, page =
      { routePath := orText menu.pageRoutePath menu.routePath, pageTitle := some menu.label }) ∨
    ∃ element ∈ combined.elements, page = { routePath := element.pageRoutePath }

/-- The pages of a combination: the discovered ones as they are, and then those that were added. -/
structure KeepsPages (discovered : List PageCandidate) (combined : CrawlExtractionResult) :
    Prop where
  kept : ∃ added, combined.pages = discovered ++ added ∧ ∀ page ∈ added,
    AddedFor combined page ∧ page.routePath ∉ discovered.map (·.routePath)
  nodup : (combined.pages.map (·.routePath)).Nodup
  menus : ∀ menu ∈ combined.menus, orText menu.pageRoutePath menu.routePath ≠ "" →
    orText menu.pageRoutePath menu.routePath ∈ combined.pages.map (·.routePath)
  elements : ∀ element ∈ combined.elements,
    element.pageRoutePath ∈ combined.pages.map (·.routePath)

section Pages

variable {discovery dom probe : CrawlExtractionResult}

/-- Pages with different routes are each under their own. -/
theorem discoveredPages_eq (hnodup : (discovery.pages.map (·.routePath)).Nodup)
    (hdom : dom.pages = []) (hprobe : probe.pages = []) :
    discoveredPages discovery dom probe =
      discovery.pages.map fun page => (page.routePath, page) := by
  unfold discoveredPages
  rw [hdom, hprobe, List.append_nil, List.append_nil]
  generalize discovery.pages = pages at hnodup ⊢
  induction pages using List.reverseRecOn with
  | nil => rfl
  | append_singleton pages page ih =>
    rw [List.map_append, List.map_singleton, List.nodup_append] at hnodup
    have hnew : page.routePath ∉
        (pages.map fun page => (page.routePath, page)).map Prod.fst := by
      intro hmem
      rw [List.map_map] at hmem
      exact hnodup.2.2 _ hmem _ (List.mem_singleton_self _) rfl
    have hnone : Entries.get? (pages.map fun page => (page.routePath, page)) page.routePath =
        none :=
      Option.not_isSome_iff_eq_none.mp (mt Entries.isSome_get?.mp hnew)
    rw [List.foldl_concat, ih hnodup.1, addPageCandidate, hnone, Entries.set_of_notMem hnew,
      List.map_append, List.map_singleton]

theorem addMenuPage_eq (candidates : Entries String PageCandidate) (menu : MenuCandidate) :
    addMenuPage candidates menu = candidates ∨
      ∃ e : String × PageCandidate, (e.1 = orText menu.pageRoutePath menu.routePath ∧
        e.2 = { routePath := orText menu.pageRoutePath menu.routePath
                pageTitle := some menu.label }) ∧
        e.1 ∉ candidates.map Prod.fst ∧ addMenuPage candidates menu = candidates ++ [e] := by
  unfold addMenuPage
  dsimp only
  split_ifs
  · exact Or.inl rfl
  · rcases Entries.setDefault_eq candidates (orText menu.pageRoutePath menu.routePath)
      { routePath := orText menu.pageRoutePath menu.routePath, pageTitle := some menu.label } with
      hsame | ⟨hnew, hone⟩
    · exact Or.inl hsame
    · exact Or.inr ⟨_, ⟨rfl, rfl⟩, hnew, hone⟩

theorem addElementPage_eq (candidates : Entries String PageCandidate)
    (element : ElementCandidate) :
    addElementPage candidates element = candidates ∨
      ∃ e : String × PageCandidate, (e.1 = element.pageRoutePath ∧
        e.2 = { routePath := element.pageRoutePath }) ∧
        e.1 ∉ candidates.map Prod.fst ∧ addElementPage candidates element = candidates ++ [e] := by
  rcases Entries.setDefault_eq candidates element.pageRoutePath
    { routePath := element.pageRoutePath } with hsame | ⟨hnew, hone⟩
  · exact Or.inl hsame
  · exact Or.inr ⟨_, ⟨rfl, rfl⟩, hnew, hone⟩

theorem mem_keys_addElementPage (candidates : Entries String PageCandidate)
    (element : ElementCandidate) (route : String) :
    route ∈ (addElementPage candidates element).map Prod.fst ↔
      route ∈ candidates.map Prod.fst ∨ element.pageRoutePath = route := by
  rw [addElementPage, Entries.mem_keys_setDefault, eq_comm (a := route)]

/-- The routes of a combination. -/
theorem routes_combineResults (discovery dom probe : CrawlExtractionResult) (system : System) :
    (combineResults discovery dom probe system).pages.map (·.routePath) =
      (pageCandidates discovery dom probe).map Prod.fst :=
  routes_pageCandidates discovery dom probe

/-- The pages the menus add. -/
theorem exists_menuPages (system : System) (candidates : Entries String PageCandidate) :
    ∃ added, (resolvedMenus discovery dom probe).foldl addMenuPage candidates =
        candidates ++ added ∧
      ∀ e ∈ added, (AddedFor (combineResults discovery dom probe system) e.2 ∧
        e.2.routePath = e.1) ∧ e.1 ∉ candidates.map Prod.fst := by
  refine Entries.exists_foldl_eq_append (fun candidates menu hmenu => ?_) candidates
  rcases addMenuPage_eq candidates menu with hsame | ⟨e, ⟨hkey, hpage⟩, hnew, hone⟩
  · exact Or.inl hsame
  · refine Or.inr ⟨e, ⟨Or.inl ⟨menu, hmenu, hpage⟩, ?_⟩, hnew, hone⟩
    rw [hpage, hkey]

/-- The pages the elements add. -/
theorem exists_elementPages (system : System) (candidates : Entries String PageCandidate) :
    ∃ added, (mergeRepresentativeElements dom.elements probe.elements).foldl addElementPage
        candidates = candidates ++ added ∧
      ∀ e ∈ added, (AddedFor (combineResults discovery dom probe system) e.2 ∧
        e.2.routePath = e.1) ∧ e.1 ∉ candidates.map Prod.fst := by
  refine Entries.exists_foldl_eq_append (fun candidates element helement => ?_) candidates
  rcases addElementPage_eq candidates element with hsame | ⟨e, ⟨hkey, hpage⟩, hnew, hone⟩
  · exact Or.inl hsame
  · refine Or.inr ⟨e, ⟨Or.inr ⟨element, helement, hpage⟩, ?_⟩, hnew, hone⟩
    rw [hpage, hkey]

/-- **Combining adds pages and changes none.** -/
theorem keepsPages_combineResults (hnodup : (discovery.pages.map (·.routePath)).Nodup)
    (hdom : dom.pages = []) (hprobe : probe.pages = []) (system : System) :
    KeepsPages discovery.pages (combineResults discovery dom probe system) where
  kept := by
    have hdiscovered := discoveredPages_eq hnodup hdom hprobe
    obtain ⟨menuPages, hmenus, hmenuPages⟩ := @exists_menuPages discovery dom probe system
      (discoveredPages discovery dom probe)
    obtain ⟨elementPages, helements, helementPages⟩ := @exists_elementPages discovery dom probe
      system (discoveredPages discovery dom probe ++ menuPages)
    have hkeys : (discoveredPages discovery dom probe).map Prod.fst =
        discovery.pages.map (·.routePath) := by
      rw [hdiscovered, List.map_map]
      rfl
    refine ⟨(menuPages ++ elementPages).map Prod.snd, ?_, ?_⟩
    · change (pageCandidates discovery dom probe).map Prod.snd = _
      rw [pageCandidates, hmenus, helements, hdiscovered, List.append_assoc, List.map_append,
        List.map_map]
      exact congrArg (· ++ _) (List.map_id _)
    · intro page hpage
      obtain ⟨e, he, rfl⟩ := List.mem_map.mp hpage
      rcases List.mem_append.mp he with he | he
      · obtain ⟨⟨hadded, hroute⟩, hnew⟩ := hmenuPages e he
        exact ⟨hadded, by rwa [hroute, ← hkeys]⟩
      · obtain ⟨⟨hadded, hroute⟩, hnew⟩ := helementPages e he
        refine ⟨hadded, fun hmem => hnew ?_⟩
        rw [List.map_append]
        exact List.mem_append_left _ (by rwa [hkeys, ← hroute])
  nodup := by
    rw [routes_combineResults]
    exact (byRoute_pageCandidates discovery dom probe).nodup
  menus := by
    intro menu hmenu hne
    rw [routes_combineResults, pageCandidates, Entries.mem_keys_foldl mem_keys_addElementPage,
      Entries.mem_keys_foldl mem_keys_addMenuPage]
    exact Or.inl (Or.inr ⟨menu, hmenu, rfl, hne⟩)
  elements := by
    intro element helement
    rw [routes_combineResults, pageCandidates, Entries.mem_keys_foldl mem_keys_addElementPage]
    exact Or.inr ⟨element, helement, rfl⟩

end Pages

/-! ## Elements -/

/-- An element carries what one of the states of an extraction is named by, and its key is that of
an element of the state. -/
structure IsOfState (state : Json) (merged : ElementCandidate) : Prop where
  identity : ∃ stateContext, StateProbe.identityOf state =
      some (merged.pageRoutePath, stateContext) ∧
    merged.stateSignature =
      some (StateProbe.buildStateSignature merged.pageRoutePath stateContext) ∧
    merged.stateContext = contextJson stateContext
  key : ∃ element ∈ StateProbe.elementsOf state,
    buildRepresentativeElementKey element = buildRepresentativeElementKey merged

/-- The elements of a combination are those of the states, merged state by state. -/
structure KeepsStates (states : List Json) (elements : List ElementCandidate) : Prop where
  once : ∀ state ∈ states, ∀ element ∈ StateProbe.elementsOf state,
    ∃! merged, merged ∈ elements ∧
      buildRepresentativeElementKey merged = buildRepresentativeElementKey element
  own : ∀ merged ∈ elements, ∃! state, state ∈ states ∧
    signatureOf state = merged.stateSignature ∧ IsOfState state merged

section Elements

variable {session : StateProbe.BrowserSession} {calls : List StateProbe.SessionCall}
  {states : List Json} {collected : StateProbe.Collected}

theorem mergeDict_self {stateContext : List (String × Json)}
    (hnames : (stateContext.map Prod.fst).Nodup) :
    mergeDict (contextJson stateContext) (contextJson stateContext) = contextJson stateContext := by
  unfold contextJson
  split_ifs with hempty
  · rfl
  · have htruthy : Json.truthy (.obj stateContext) = true := by simp [Json.truthy, hempty]
    unfold mergeDict
    rw [if_pos (by simp [htruthy])]
    exact congrArg (fun entries => some (Json.obj entries))
      (Json.foldl_put_of_subset hnames (List.Subset.refl _))

/-- States are told apart by their signatures. -/
theorem state_unique (h : CollectedOf session calls states collected) {state state' : Json}
    (hstate : state ∈ states) (hstate' : state' ∈ states)
    (heq : signatureOf state = signatureOf state') : state = state' :=
  List.inj_on_of_nodup_map h.nodup_signatures hstate hstate' heq

theorem signatureOf_eq {state : Json} {merged : ElementCandidate} (h : IsOfState state merged) :
    signatureOf state = merged.stateSignature := by
  obtain ⟨stateContext, hidentity, hsignature, -⟩ := h.identity
  rw [signatureOf, hidentity, hsignature]
  rfl

theorem isOfState_of_mem {state : Json} {element : ElementCandidate}
    (h : element ∈ StateProbe.elementsOf state) : IsOfState state element := by
  obtain ⟨routePath, stateContext, hidentity⟩ := StateProbe.exists_identityOf h
  obtain ⟨hroute, hsignature, hcontext⟩ := StateProbe.element_of_state hidentity h
  refine ⟨⟨stateContext, ?_, ?_, hcontext⟩, element, h, rfl⟩
  · rw [hroute, hidentity]
  · rw [hroute, hsignature]

theorem hasState_of_mem {state : Json} {element : ElementCandidate}
    (h : element ∈ StateProbe.elementsOf state) : hasState element = true := by
  obtain ⟨routePath, stateContext, hidentity⟩ := StateProbe.exists_identityOf h
  obtain ⟨-, hsignature, -⟩ := StateProbe.element_of_state hidentity h
  rw [hasState, hsignature, Option.getD_some]
  exact decide_eq_true (StateProbe.buildStateSignature_ne_empty routePath stateContext)

/-- **Merging stays within a state.**  The signature is part of the key. -/
theorem IsOfState.mergeElementCandidate (hcollected : CollectedOf session calls states collected)
    {state state' : Json} (hstate : state ∈ states) (hstate' : state' ∈ states)
    {existing candidate : ElementCandidate} (h : IsOfState state existing)
    (h' : IsOfState state' candidate)
    (hkey : buildRepresentativeElementKey existing = buildRepresentativeElementKey candidate) :
    IsOfState state (mergeElementCandidate existing candidate) := by
  have hsame : state = state' := state_unique hcollected hstate hstate' (by
    rw [signatureOf_eq h, signatureOf_eq h']
    exact congrArg ElementKey.stateSignature hkey)
  subst hsame
  obtain ⟨stateContext, hidentity, hsignature, hcontext⟩ := h.identity
  obtain ⟨stateContext', hidentity', -, hcontext'⟩ := h'.identity
  obtain rfl : stateContext = stateContext' := by
    rw [hidentity] at hidentity'
    exact (Prod.mk.inj (Option.some.inj hidentity')).2
  refine ⟨⟨stateContext, hidentity, hsignature, ?_⟩, ?_⟩
  · change mergeDict existing.stateContext candidate.stateContext = _
    rw [hcontext, hcontext', mergeDict_self (StateProbe.nodup_names_of_identityOf hidentity)]
  · obtain ⟨element, helement, heq⟩ := h.key
    exact ⟨element, helement, heq.trans (key_mergeElementCandidate hkey).symm⟩

/-- Each of the merged elements is of a state. -/
theorem exists_isOfState (hcollected : CollectedOf session calls states collected) :
    ∀ e ∈ collected.elements.foldl addElementCandidate [],
      ∃ state ∈ states, IsOfState state e.2 ∧ buildRepresentativeElementKey e.2 = e.1 := by
  refine List.foldlRecOn _ _
    (motive := fun merged : Entries ElementKey ElementCandidate => ∀ e ∈ merged,
      ∃ state ∈ states, IsOfState state e.2 ∧ buildRepresentativeElementKey e.2 = e.1)
    (fun _ he => absurd he List.not_mem_nil) ?_
  intro merged hmerged candidate hcandidate
  rw [hcollected.elements, List.mem_flatMap] at hcandidate
  obtain ⟨state, hstate, hmem⟩ := hcandidate
  refine Entries.forall_set hmerged ?_
  cases hget : merged.get? (buildRepresentativeElementKey candidate) with
  | none => exact ⟨state, hstate, isOfState_of_mem hmem, rfl⟩
  | some existing =>
    obtain ⟨state', hstate', hof, hkey⟩ := hmerged _ (Entries.mem_of_get? hget)
    exact ⟨state', hstate', hof.mergeElementCandidate hcollected hstate' hstate
      (isOfState_of_mem hmem) hkey, (key_mergeElementCandidate hkey).trans hkey⟩

/-- Elements that were seen in no state are left out. -/
theorem mergeRepresentativeElements_eq {domElements : List ElementCandidate}
    (hcollected : CollectedOf session calls states collected)
    (hdom : ∀ element ∈ domElements, hasState element = false) :
    mergeRepresentativeElements domElements collected.elements =
      (collected.elements.foldl addElementCandidate []).map Prod.snd := by
  have hnone : domElements.filter hasState = [] := by
    rw [List.filter_eq_nil_iff]
    intro element helement
    rw [hdom element helement]
    exact Bool.false_ne_true
  have hall : collected.elements.filter hasState = collected.elements := by
    rw [List.filter_eq_self]
    intro element helement
    rw [hcollected.elements, List.mem_flatMap] at helement
    obtain ⟨state, -, hmem⟩ := helement
    exact hasState_of_mem hmem
  rw [mergeRepresentativeElements, List.filter_append, hnone, hall, List.nil_append]

/-- **The merged elements keep the states.** -/
theorem keepsStates_merge {domElements : List ElementCandidate}
    (hcollected : CollectedOf session calls states collected)
    (hdom : ∀ element ∈ domElements, hasState element = false) :
    KeepsStates states (mergeRepresentativeElements domElements collected.elements) where
  once := by
    intro state hstate element helement
    have hmem : element ∈ domElements ++ collected.elements := by
      rw [hcollected.elements]
      exact List.mem_append_right _ (List.mem_flatMap.mpr ⟨state, hstate, helement⟩)
    obtain ⟨merged, hmerged, hkey⟩ :=
      List.mem_map.mp (mem_keys_mergeRepresentativeElements hmem (hasState_of_mem helement))
    refine ⟨merged, ⟨hmerged, hkey⟩, fun other hother => ?_⟩
    exact List.inj_on_of_nodup_map (nodup_keys_mergeRepresentativeElements _ _) hother.1 hmerged
      (hother.2.trans hkey.symm)
  own := by
    intro merged hmerged
    rw [mergeRepresentativeElements_eq hcollected hdom] at hmerged
    obtain ⟨e, he, rfl⟩ := List.mem_map.mp hmerged
    obtain ⟨state, hstate, hof, -⟩ := exists_isOfState hcollected e he
    refine ⟨state, ⟨hstate, signatureOf_eq hof, hof⟩, fun other hother => ?_⟩
    exact state_unique hcollected hother.1 hstate (hother.2.1.trans (signatureOf_eq hof).symm)

end Elements

/-! ## The whole extraction -/

/-- The traversal finds no elements in states. -/
theorem hasState_of_toElementCandidate {readFloat : String → Option Rat} {item : DomMenu.MenuItem}
    {element : ElementCandidate} (h : DomMenu.toElementCandidate readFloat item = some element) :
    hasState element = false := by
  obtain ⟨pageRoutePath, -, h⟩ := Option.bind_eq_some_iff.mp h
  split_ifs at h with hvisible
  obtain ⟨elementType, -, rfl⟩ := Option.map_eq_some_iff.mp h
  rfl

section Whole

variable {extractors : Extractors} {answers : SessionAnswers} {system : System}
  {combined : CrawlExtractionResult}

/-- The traversal finds no pages, and its elements are seen in no state. -/
theorem of_traverseDom {dom : CrawlExtractionResult} (h : traverseDom extractors answers = .ok dom) :
    dom.pages = [] ∧ ∀ element ∈ dom.elements, hasState element = false := by
  have hitems : ∀ (menuItems elementItems : List DomMenu.MenuItem) (extraction),
      DomMenu.toExtraction extractors.readFloat menuItems elementItems = .ok extraction →
        extraction.pages = [] ∧ ∀ element ∈ extraction.elements, hasState element = false := by
    intro menuItems elementItems extraction h
    unfold DomMenu.toExtraction at h
    obtain ⟨candidates, -, h⟩ := bind_eq_ok_iff.mp h
    obtain rfl := Except.ok.inj h
    refine ⟨rfl, fun element helement => ?_⟩
    obtain ⟨item, -, hcandidate⟩ := List.mem_filterMap.mp helement
    exact hasState_of_toElementCandidate hcandidate
  unfold traverseDom DomMenu.extract at h
  split at h
  · exact hitems _ _ _ h
  · obtain ⟨extraction, hextraction, h⟩ := bind_eq_ok_iff.mp h
    obtain rfl := Except.ok.inj h
    exact hitems [] [] extraction hextraction

/-- An extraction that ends went through the three extractors. -/
theorem exists_of_extractCrawlOnce (h : extractCrawlOnce extractors answers system = .ok combined) :
    ∃ discovery dom probe, discoverPages extractors answers = .ok discovery ∧
      traverseDom extractors answers = .ok dom ∧
      (probeStates extractors answers discovery).1 = .ok probe ∧
      combined = combineResults discovery.extraction dom probe.1 system := by
  unfold extractCrawlOnce at h
  obtain ⟨discovery, hdiscovery, h⟩ := bind_eq_ok_iff.mp h
  obtain ⟨dom, hdom, h⟩ := bind_eq_ok_iff.mp h
  obtain ⟨probe, hprobe, h⟩ := bind_eq_ok_iff.mp h
  exact ⟨discovery, dom, probe, mapError_eq_ok_iff.mp hdiscovery, mapError_eq_ok_iff.mp hdom,
    mapError_eq_ok_iff.mp hprobe, (Except.ok.inj h).symm⟩

/-- **One extraction keeps what its extractors found.**  The discovered pages are there as they
were, and the elements are those of states that the session shows. -/
theorem extractCrawlOnce_conserves
    (h : extractCrawlOnce extractors answers system = .ok combined) :
    ∃ discovery, discoverPages extractors answers = .ok discovery ∧
      KeepsPages discovery.extraction.pages combined ∧
      ∃ states, (∀ state ∈ states,
          Shown answers.probe (probeStates extractors answers discovery).2 state ∧
            StateProbe.elementsOf state ≠ []) ∧
        (states.map signatureOf).Nodup ∧ KeepsStates states combined.elements := by
  obtain ⟨discovery, dom, ⟨probe, records⟩, hdiscovery, htraversed, hprobe, rfl⟩ :=
    exists_of_extractCrawlOnce h
  obtain ⟨_, _, _, hisDiscovery⟩ := PageDiscovery.exists_isDiscovery hdiscovery
  obtain ⟨hpages, hdom⟩ := of_traverseDom htraversed
  obtain ⟨states, visited, hcollected⟩ := StateProbe.exists_collectedOf hprobe
  refine ⟨discovery, hdiscovery, ?_, states, fun state hstate => ⟨hcollected.shown state hstate,
    hcollected.nonempty state hstate⟩, hcollected.nodup_signatures, ?_⟩
  · exact keepsPages_combineResults
      (hisDiscovery.pairwise_routes.imp fun hlt => hlt.ne) hpages
      (StateProbe.pages_of_extract hprobe) system
  · exact keepsStates_merge hcollected hdom

/-- A button of one role and one text, with a locator of its own. -/
def buttonAt (locator : String) : Json :=
  .obj [("element_type", .str "button"), ("role", .str "button"), ("text", .str "Add"),
    ("playwright_locator", .str locator)]

/-- The users under one tab, with its buttons. -/
def tabOfUsers (tab : String) (locators : List String) : Json :=
  .obj [("route_path", .str "/users"), ("state_context", .obj [("active_tab", .str tab)]),
    ("elements", .arr (locators.map buttonAt))]

/-- What a session answers that tells one route, has a menu item for another one, and shows two
tabs with the same button, twice in the first of them. -/
def sampleAnswers : SessionAnswers where
  discovery := { routeHints := .ok (.arr [.obj [("path", .str "/users")]]) }
  dom := { domMenuNodes := .arr [.obj [("label", .str "Orders"), ("route_path", .str "/orders")]] }
  probe :=
    { collectStateProbeBaseline := some fun _ => .ok (.arr
        [tabOfUsers "active" ["#top", "#bottom"], tabOfUsers "locked" ["#top"]]) }

def sampleExtractors : Extractors where
  acceptsNetloc := fun _ => true
  readFloat := fun _ => none

/-- Both buttons of the first tab are one element, the button of the second tab is another. -/
def IsSampleResult (discovery : PageDiscovery.Discovery) (combined : CrawlExtractionResult) :
    Prop :=
  discovery.extraction.pages.map (·.routePath) = ["/users"] ∧
    combined.pages.map (·.routePath) = ["/users", "/orders"] ∧
    combined.elements.map (·.elementText) = [some "Add", some "Add"] ∧
    (combined.elements.map (·.stateSignature)).Nodup

instance (discovery : PageDiscovery.Discovery) (combined : CrawlExtractionResult) :
    Decidable (IsSampleResult discovery combined) :=
  inferInstanceAs (Decidable (_ ∧ _))

def sampleHolds : Bool :=
  match discoverPages sampleExtractors sampleAnswers,
    extractCrawlOnce sampleExtractors sampleAnswers PageRowSample.system with
  | .ok discovery, .ok combined => decide (IsSampleResult discovery combined)
  | _, _ => false

theorem extractCrawlOnce_conserves_sample : ∃ discovery combined,
    discoverPages sampleExtractors sampleAnswers = .ok discovery ∧
      extractCrawlOnce sampleExtractors sampleAnswers PageRowSample.system = .ok combined ∧
      IsSampleResult discovery combined ∧ KeepsPages discovery.extraction.pages combined ∧
      ∃ states, (∀ state ∈ states,
          Shown sampleAnswers.probe
            (probeStates sampleExtractors sampleAnswers discovery).2 state ∧
            StateProbe.elementsOf state ≠ []) ∧
        (states.map signatureOf).Nodup ∧ KeepsStates states combined.elements := by
  have hholds : sampleHolds = true := by decide +kernel
  unfold sampleHolds at hholds
  split at hholds
  · next discovery combined hdiscovery hcombined =>
    obtain ⟨discovery', hdiscovery', hpages, hstates⟩ := extractCrawlOnce_conserves hcombined
    obtain rfl : discovery = discovery' := Except.ok.inj (hdiscovery.symm.trans hdiscovery')
    exact ⟨discovery, combined, hdiscovery, hcombined, of_decide_eq_true hholds, hpages, hstates⟩
  · cases hholds

end Whole

end CrawlerService
end Runlet
