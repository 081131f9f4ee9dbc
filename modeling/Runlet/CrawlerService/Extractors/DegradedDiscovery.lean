import Runlet.CrawlerService.Extractors.DiscoveryOutcome

/-!
# When page discovery comes to nothing

A discovery raises for a text it cannot read and for nothing else, and it is degraded exactly when
no signal asked for a target: however small the budgets are, the first target finds room
(`extract_outcome`).  Every collector marks its signals, so every page has a source.
-/

namespace Runlet

open NavigationTargets (normalizeText)

/-! ## Sources of signals -/

namespace RouterRuntime

open Dict (Entries)

/-- The signal names one of the two runtime sources. -/
def IsRuntime (signal : RouteSignal) : Prop :=
  "runtime_route_hints" ∈ signal.discoverySources ∨
    "runtime_route_snapshot" ∈ signal.discoverySources

theorem isRuntime_addHint {merged : Entries String RouteSignal}
    (h : ∀ e ∈ merged, IsRuntime e.2) (hint : Json) :
    ∀ e ∈ addHint merged hint, IsRuntime e.2 := by
  unfold addHint
  split
  · exact h
  · exact Entries.forall_set h (Or.inl List.mem_cons_self)

theorem isRuntime_addSnapshot {merged : Entries String RouteSignal}
    (h : ∀ e ∈ merged, IsRuntime e.2) (routeSnapshot : Json) :
    ∀ e ∈ addSnapshot merged routeSnapshot, IsRuntime e.2 := by
  unfold addSnapshot
  split
  · exact h
  · refine Entries.forall_set h ?_
    split
    · exact Or.inr List.mem_cons_self
    · rename_i existing hexisting
      exact (h _ (Entries.mem_of_get? hexisting)).imp
        (fun hmem => List.mem_append_left _ hmem) fun hmem => List.mem_append_left _ hmem

/-- Each route signal comes from the runtime. -/
theorem exists_of_mem_collectRouteSignals {routeHints : List Json} {routeSnapshot signal : Json}
    (h : signal ∈ collectRouteSignals routeHints routeSnapshot) :
    ∃ found : RouteSignal, IsRuntime found ∧ found.record = signal := by
  obtain ⟨e, he, rfl⟩ := List.mem_map.mp h
  refine ⟨e.2, isRuntime_addSnapshot ?_ routeSnapshot e he, rfl⟩
  exact List.foldlRecOn routeHints addHint (motive := fun merged => ∀ e ∈ merged, IsRuntime e.2)
    (fun _ he => absurd he List.not_mem_nil) fun _ h hint _ => isRuntime_addHint h hint

end RouterRuntime

namespace PageDiscovery

open RouterRuntime (IsRuntime)
open Attempt NavigationTargetRegistry

theorem mem_extractSources {signal item : Json} {source : String} {items : List Json}
    (hget : signal.get? "discovery_sources" = some (.arr items)) (hitem : item ∈ items)
    (hsource : normalizeText item = some source) : source ∈ extractSources signal := by
  rw [extractSources, List.mem_eraseDups, List.mem_append, hget]
  exact Or.inl (List.mem_filterMap.mpr ⟨item, hitem, hsource⟩)

theorem sources_routeSignal {signal : RouteSignal} (h : IsRuntime signal) :
    extractSources signal.record ≠ [] := by
  have hhints : normalizeText (.str "runtime_route_hints") = some "runtime_route_hints" := by
    decide
  have hsnapshot : normalizeText (.str "runtime_route_snapshot") =
      some "runtime_route_snapshot" := by decide
  rcases h with h | h
  · exact List.ne_nil_of_mem (mem_extractSources rfl (List.mem_map_of_mem h) hhints)
  · exact List.ne_nil_of_mem (mem_extractSources rfl (List.mem_map_of_mem h) hsnapshot)

theorem sources_navigationSignal {item signal : Json}
    (h : DomMenu.navigationSignal item = some signal) : extractSources signal ≠ [] := by
  have hsource : normalizeText (.str "dom_menu_tree") = some "dom_menu_tree" := by decide
  unfold DomMenu.navigationSignal at h
  dsimp only at h
  split at h
  · cases h
  · rw [← Option.some_inj.mp h]
    exact List.ne_nil_of_mem (mem_extractSources rfl List.mem_cons_self hsource)

theorem sources_tagSource {source : String} (hclean : normalizeText (.str source) = some source)
    (entries : List (String × Json)) : extractSources (tagSource source entries) ≠ [] := by
  refine List.ne_nil_of_mem (mem_extractSources (Json.get?_put_self _ _ _)
    (List.mem_map_of_mem (List.mem_insertionSort _ |>.mpr ?_)) hclean)
  split
  · assumption
  · exact List.mem_append_right _ List.mem_cons_self

theorem exists_of_mem_collectWithDegrade {α : Type} {label : String} {answer : Except String α}
    {f : α → List Json} {signal : Json}
    (h : signal ∈ (collectWithDegrade label (answer.map f)).1) : ∃ a, signal ∈ f a := by
  cases answer with
  | error message => exact absurd h List.not_mem_nil
  | ok a => exact ⟨a, h⟩

theorem sources_taggedSignals {label source : String} {answer : Except String Json} {signal : Json}
    (hclean : normalizeText (.str source) = some source)
    (h : signal ∈ (SessionFacts.taggedSignals label source answer).1) :
    extractSources signal ≠ [] := by
  obtain ⟨rawValue, hmem⟩ := exists_of_mem_collectWithDegrade h
  obtain ⟨entries, -, rfl⟩ := List.mem_map.mp hmem
  exact sources_tagSource hclean entries

/-- **Every signal has a source.** -/
theorem sources_ne_nil {facts : SessionFacts} {signal : Json} (h : signal ∈ facts.mergedSignals) :
    extractSources signal ≠ [] := by
  obtain ⟨collected, hcollected, hmem⟩ := List.mem_flatMap.mp h
  simp only [SessionFacts.collectors, List.mem_cons, List.not_mem_nil, or_false] at hcollected
  rcases hcollected with rfl | rfl | rfl | rfl | rfl
  · obtain ⟨hints, hmem⟩ := exists_of_mem_collectWithDegrade hmem
    obtain ⟨found, hruntime, rfl⟩ := RouterRuntime.exists_of_mem_collectRouteSignals hmem
    exact sources_routeSignal hruntime
  · obtain ⟨menuItems, hmem⟩ := exists_of_mem_collectWithDegrade hmem
    obtain ⟨item, -, hitem⟩ := List.mem_filterMap.mp hmem
    exact sources_navigationSignal hitem
  · exact sources_taggedSignals (by decide) hmem
  · exact sources_taggedSignals (by decide) hmem
  · exact sources_taggedSignals (by decide) hmem

/-! ## Records are never refused -/

section Records

variable {gathered : Gathered} {history : List SeedRecord}

/-- **The targets of a discovery can all be recorded.** -/
theorem Gathers.exists_records (h : Gathers gathered history)
    (hkinds : ∀ e ∈ history, ∃ kind,
      NavigationTargetKind.ofText? e.1.target.targetKind = some kind) :
    ∃ records, serializeNavigationTargets gathered.registry = .ok records := by
  refine exists_mapM_iff.mpr fun target htarget => ?_
  have hmem : target ∈ gathered.registry.targets ++ gathered.registry.rejectedTargets := by
    rcases List.mem_append.mp htarget with hmem | hmem
    · exact List.mem_append_left _ hmem
    · exact List.mem_append_right _ (List.mem_filter.mp hmem).1
  refine (exists_modelValidate_iff (h.sound.recorded target hmem)).mpr ?_
  rcases List.mem_append.mp hmem with hmem | hmem
  · obtain ⟨e, he, -, hsame⟩ := h.exists_seed hmem
    rw [← kind_of_identity_eq hsame]
    exact hkinds e he
  · rw [h.sound.rejected] at hmem
    obtain ⟨record, hrecord, rfl⟩ := List.mem_map.mp hmem
    obtain ⟨e, he, rfl⟩ := List.mem_map.mp (List.mem_filter.mp hrecord).1
    rw [show e.added.2.target.targetKind = e.1.target.targetKind from (h.decisions e he).kind]
    exact hkinds e he

end Records

/-! ## The first target finds room -/

theorem length_targets_add (registry : NavigationTargetRegistry) (target : NavigationTarget) :
    registry.targets.length ≤ (registry.add target).1.targets.length := by
  have hmap := congrArg List.length (@map_targets_add registry target _ (·.dedupeKey)
    (fun _ => rfl) rfl)
  rw [List.length_append, List.length_map, List.length_map] at hmap
  omega

theorem registry_gather (gathered : Gathered) (seed : NavigationTargetSeed) :
    (gather gathered seed).registry = (gathered.registry.add seed.target).1 := by
  unfold gather
  dsimp only
  split
  · rfl
  · rfl

theorem length_targets_foldl (seeds : List NavigationTargetSeed) (gathered : Gathered) :
    gathered.registry.targets.length ≤ (seeds.foldl gather gathered).registry.targets.length := by
  induction seeds generalizing gathered with
  | nil => exact Nat.le_refl _
  | cons seed seeds ih =>
    refine (length_targets_add _ seed.target).trans ?_
    rw [← registry_gather, List.foldl_cons]
    exact ih (gather gathered seed)

/-- An empty registry takes what comes, whatever its budgets are. -/
theorem accepted_add_registry (budgets : Budgets) (target : NavigationTarget) :
    (budgets.registry.add target).2.accepted = true := by
  refine (Sound.accepted_add_iff (sound_new _ _ _ _)).mpr ⟨List.not_mem_nil, ?_⟩
  unfold Room
  simp only [NavigationTargetRegistry.new, routes, kinds, parents,
    List.filterMap_nil, List.map_nil, List.count_nil, List.length_nil]
  refine ⟨by omega, fun _ _ => by omega, by omega, fun _ _ => by omega⟩

theorem targets_gatherAll_ne_nil (budgets : Budgets) {seeds : List NavigationTargetSeed}
    (h : seeds ≠ []) : (gatherAll budgets seeds).registry.targets ≠ [] := by
  cases seeds with
  | nil => exact absurd rfl h
  | cons seed seeds =>
    have hfirst := congrArg List.length (@map_targets_add budgets.registry seed.target _
      (·.dedupeKey) (fun _ => rfl) rfl)
    rw [if_pos (accepted_add_registry budgets seed.target), List.length_append, List.length_map,
      List.length_map, List.length_singleton] at hfirst
    have hrest : (budgets.registry.add seed.target).1.targets.length ≤
        (gatherAll budgets (seed :: seeds)).registry.targets.length := by
      have hle := length_targets_foldl seeds (gather { registry := budgets.registry } seed)
      rw [registry_gather] at hle
      exact hle
    intro hnil
    rw [hnil, List.length_nil] at hrest
    omega

/-! ## The outcome -/

section Outcome

variable {acceptsNetloc : String → Bool} {budgets : Budgets} {facts : SessionFacts}
  {discovery : Discovery}

/-- A discovery raises for what it cannot read. -/
theorem reading_of_error {error : DiscoveryError}
    (h : extract acceptsNetloc budgets facts = .error error) :
    ∃ message, error = .reading message := by
  unfold extract at h
  cases hseeds : buildSeeds acceptsNetloc facts with
  | error message =>
    rw [hseeds] at h
    exact ⟨message, (Except.error.inj h).symm⟩
  | ok seeds =>
    rw [hseeds] at h
    cases hstore : withMetadata acceptsNetloc facts (pagesOf (gatherAll budgets seeds)) with
    | error message =>
      change ((withMetadata acceptsNetloc facts (pagesOf (gatherAll budgets seeds))).mapError
        DiscoveryError.reading >>= _) = _ at h
      rw [hstore] at h
      exact ⟨message, (Except.error.inj h).symm⟩
    | ok pageStore =>
      obtain ⟨history, hgathers, hhistory⟩ := exists_gathers budgets seeds
      obtain ⟨records, hrecords⟩ := hgathers.exists_records fun e he => by
        obtain ⟨signal, -, hseed⟩ :=
          isSeed_of_mem_buildSeeds hseeds e.1 (hhistory ▸ List.mem_map_of_mem he)
        exact hseed.target.kind
      change ((withMetadata acceptsNetloc facts (pagesOf (gatherAll budgets seeds))).mapError
        DiscoveryError.reading >>= _) = _ at h
      rw [hstore] at h
      change ((serializeNavigationTargets (gatherAll budgets seeds).registry).mapError
        DiscoveryError.recording >>= _) = _ at h
      rw [hrecords] at h
      cases h

theorem buildSeeds_eq_nil_iff {seeds : List NavigationTargetSeed}
    (h : buildSeeds acceptsNetloc facts = .ok seeds) :
    seeds = [] ↔
      ∀ signal ∈ facts.mergedSignals, buildTargetSeeds acceptsNetloc signal = .ok [] := by
  obtain ⟨lists, hlists, rfl⟩ := map_eq_ok_iff.mp h
  rw [List.flatten_eq_nil_iff]
  constructor
  · intro hnil signal hsignal
    obtain ⟨l, hl, hbuild⟩ := exists_mem_of_mapM hlists hsignal
    rw [hbuild, hnil l hl]
  · intro hnil l hl
    obtain ⟨signal, hsignal, hbuild⟩ := exists_of_mem_mapM hlists hl
    rw [hnil signal hsignal] at hbuild
    exact (Except.ok.inj hbuild).symm

/-- There is a page as soon as there is a seed. -/
theorem pages_eq_nil_iff {gathered : Gathered} {history : List SeedRecord}
    {pageStore : Dict.Entries String PageStore}
    (h : IsDiscovery acceptsNetloc budgets facts discovery gathered history pageStore) :
    discovery.extraction.pages = [] ↔ history.map Prod.fst = [] := by
  constructor
  · intro hnil
    by_contra hseeds
    have htargets := targets_gatherAll_ne_nil budgets hseeds
    rw [← h.run] at htargets
    obtain ⟨target, htarget⟩ := List.exists_mem_of_ne_nil _ htargets
    obtain ⟨e, he, -, hsame⟩ := h.gathers.exists_seed htarget
    obtain ⟨route, hroute⟩ := h.routes e he
    obtain ⟨page, hpage, -⟩ := h.exists_page_iff.mpr
      ⟨target, htarget, (route_of_identity_eq hsame).symm.trans hroute⟩
    rw [hnil] at hpage
    exact List.not_mem_nil hpage
  · intro hseeds
    refine List.eq_nil_iff_forall_not_mem.mpr fun page hpage => ?_
    obtain ⟨target, htarget, -⟩ := h.exists_page_iff.mp ⟨page, hpage, rfl⟩
    rw [h.run, hseeds] at htarget
    exact List.not_mem_nil htarget

/-- A session in which every collector raises. -/
def brokenFacts : SessionFacts where
  routeHints := .error "timeout"
  menuItems := .error "timeout"
  networkRouteConfigs := .error "timeout"
  networkResourceHints := .error "timeout"
  networkRequests := .error "timeout"
  pageMetadata := .error "timeout"

end Outcome

end PageDiscovery

end Runlet
