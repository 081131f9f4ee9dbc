import Runlet.CrawlerService.Extractors.DiscoveredPages
import Runlet.CrawlerService.PageVisits
import Runlet.CrawlerService.RouteNormalizers
import Runlet.Library.Attempts

/-!
# What became of a seed

A discovery is looked at together with its history: the seeds, and what the registry decided on each
(`Gathers`).  A seed joins a target or is refused by a budget.  The groups hold the seeds that
joined, each under the key of its target; a target's route is that of every seed in its group.
-/

namespace Runlet

namespace PageDiscovery

open Dict (Groups groupPairs)
open NavigationTargets (normalizeText normalizeRoute)
open NavigationTargetRegistry Attempt

variable {acceptsNetloc : String → Bool}

/-! ## Seeds -/

/-- A target with a route, of a kind that can be recorded; a page has no context. -/
structure IsSeedTarget (target : NavigationTarget) : Prop where
  route : ∃ route, target.routeHint = some route ∧ Text.startsWith "/" route = true
  kind : ∃ kind, NavigationTargetKind.ofText? target.targetKind = some kind
  page : target.targetKind = "page_route" → target.stateContext = []

/-- A seed of the signal. -/
structure IsSeed (signal : Json) (seed : NavigationTargetSeed) : Prop where
  signal : seed.signal = signal
  target : IsSeedTarget seed.target

theorem startsWith_of_routeOf {path route : String} (h : routeOf path = some route) :
    Text.startsWith "/" route = true := by
  unfold routeOf at h
  split at h
  · rename_i hslash
    rw [← Option.some_inj.mp h]
    exact startsWith_trimSlashes hslash
  · cases h

theorem startsWith_of_normalizePath {value route : String}
    (h : normalizePath acceptsNetloc value = .ok (some route)) :
    Text.startsWith "/" route = true := by
  unfold normalizePath at h
  dsimp only at h
  split at h
  · cases h
  · obtain ⟨parsed, -, hroute⟩ := map_eq_ok_iff.mp h
    exact startsWith_of_routeOf hroute

theorem startsWith_of_pathOf {value : Option Json} {route : String}
    (h : pathOf acceptsNetloc value = .ok (some route)) : Text.startsWith "/" route = true := by
  unfold pathOf at h
  split at h
  · exact startsWith_of_normalizePath h
  · cases h

/-- The hint of a target that is built for a route. -/
theorem exists_routeHint {path : String} (h : Text.startsWith "/" path = true) :
    ∃ route, normalizeRoute (.str path) = some route ∧ Text.startsWith "/" route = true := by
  have hstrip := Text.startsWith_slash_strip h
  refine ⟨_, RouteNormalizers.normalize_navigationTargets.trans (if_pos hstrip),
    startsWith_trimSlashes ?_⟩
  rw [Text.startsWith_slash_before (by decide), Text.startsWith_slash_before (by decide)]
  exact hstrip

theorem mem_entryTypes {value : Option Json} {entryType : String}
    (h : normalizeEntryType value = some entryType) : entryType ∈ entryTypes :=
  of_decide_eq_true (Option.filter_eq_some_iff.mp h).2

/-- The ways in are kinds of targets. -/
theorem kind_of_mem_entryTypes : ∀ entryType ∈ entryTypes,
    (NavigationTargetKind.ofText?
      ((normalizeText (.str entryType)).getD "unknown")).isSome = true ∧
        (normalizeText (.str entryType)).getD "unknown" ≠ "page_route" := by
  decide

theorem targetKind_pageTarget (signal : Json) (route : String) :
    (pageTarget signal route).targetKind = "page_route" := by
  change (normalizeText (.str "page_route")).getD "unknown" = "page_route"
  decide

/-- A target of a way in. -/
theorem isSeedTarget_of_buildInteractionTarget {signal entryCandidate : Json}
    {route? : Option String} (hroute : ∀ route ∈ route?, Text.startsWith "/" route = true)
    {target : NavigationTarget}
    (h : buildInteractionTarget acceptsNetloc signal entryCandidate route? = .ok (some target)) :
    IsSeedTarget target := by
  unfold buildInteractionTarget at h
  split at h
  · cases h
  · rename_i entryType hentry
    obtain ⟨page?, hpage, h⟩ := bind_eq_ok_iff.mp h
    split at h
    · cases h
    · rename_i pageRoute hor
      obtain ⟨stateContext, -, h⟩ := bind_eq_ok_iff.mp h
      rw [← Option.some_inj.mp (Except.ok.inj h)]
      have hslash : Text.startsWith "/" pageRoute = true := by
        rcases Option.or_eq_some_iff.mp hor with hsome | ⟨-, hsome⟩
        · exact startsWith_of_pathOf (hpage.trans (congrArg Except.ok hsome))
        · exact hroute pageRoute hsome
      obtain ⟨hkind, hne⟩ := kind_of_mem_entryTypes entryType (mem_entryTypes hentry)
      exact ⟨exists_routeHint hslash, Option.isSome_iff_exists.mp hkind,
        fun hpage => absurd hpage hne⟩

/-- The target of a page. -/
theorem isSeedTarget_pageTarget (signal : Json) {route : String}
    (h : Text.startsWith "/" route = true) : IsSeedTarget (pageTarget signal route) where
  route := exists_routeHint h
  kind := by
    rw [targetKind_pageTarget]
    exact ⟨.pageRoute, rfl⟩
  page _ := rfl

/-- **What a signal asks for can be visited and recorded.** -/
theorem isSeed_of_mem {signal : Json} {seeds : List NavigationTargetSeed}
    (h : buildTargetSeeds acceptsNetloc signal = .ok seeds) :
    ∀ seed ∈ seeds, IsSeed signal seed := by
  obtain ⟨interactionOnly, -, h⟩ := bind_eq_ok_iff.mp h
  obtain ⟨route?, hroute?, h⟩ := bind_eq_ok_iff.mp h
  obtain ⟨interactions, hinteractions, h⟩ := bind_eq_ok_iff.mp h
  have hslash : ∀ route ∈ route?, Text.startsWith "/" route = true :=
    fun route hroute => startsWith_of_pathOf (hroute?.trans (congrArg Except.ok hroute))
  rw [← Except.ok.inj h]
  refine List.forall_mem_append.mpr ⟨fun seed hseed => ?_, fun seed hseed => ?_⟩
  · obtain ⟨route, hroute, rfl⟩ := List.mem_map.mp hseed
    have hmem : route ∈ route? := by
      split at hroute
      · exact absurd hroute List.not_mem_nil
      · exact Option.mem_toList.mp hroute
    exact ⟨rfl, isSeedTarget_pageTarget signal (hslash route hmem)⟩
  · obtain ⟨seed?, hseed?, hsome⟩ := List.mem_filterMap.mp hseed
    obtain ⟨entryCandidate, -, hbuild⟩ := exists_of_mem_mapM hinteractions hseed?
    obtain ⟨target?, htarget?, hseed⟩ := map_eq_ok_iff.mp hbuild
    obtain ⟨target, htarget, rfl⟩ := Option.map_eq_some_iff.mp (hseed.trans hsome)
    exact ⟨rfl, isSeedTarget_of_buildInteractionTarget hslash
      (htarget?.trans (congrArg Except.ok htarget))⟩

theorem isSeed_of_mem_buildSeeds {facts : SessionFacts} {seeds : List NavigationTargetSeed}
    (h : buildSeeds acceptsNetloc facts = .ok seeds) :
    ∀ seed ∈ seeds, ∃ signal ∈ facts.mergedSignals, IsSeed signal seed := by
  obtain ⟨lists, hlists, rfl⟩ := map_eq_ok_iff.mp h
  intro seed hseed
  obtain ⟨l, hl, hmem⟩ := List.mem_flatten.mp hseed
  obtain ⟨signal, hsignal, hbuild⟩ := exists_of_mem_mapM hlists hl
  exact ⟨signal, hsignal, isSeed_of_mem hbuild seed hmem⟩

end PageDiscovery

/-! ## One decision -/

namespace NavigationTargetRegistry

variable {registry : NavigationTargetRegistry} {history : List AddRecord}
  {target : NavigationTarget}

/-- A decision is on the target that was added, under a new status. -/
structure Decides (target : NavigationTarget) (decision : NavigationTargetDecision) : Prop where
  key : decision.target.dedupeKey = target.dedupeKey
  kind : decision.target.targetKind = target.targetKind
  refused : AddRecord.joins (target, decision) = false →
    ∃ reason ∈ budgetReasons, decision.target = target.markBlocked reason

theorem decides_add (registry : NavigationTargetRegistry) (target : NavigationTarget) :
    Decides target (registry.add target).2 := by
  unfold add
  split
  · exact ⟨rfl, rfl, fun h => by simp [AddRecord.joins] at h⟩
  · split
    · rename_i reason hreason
      exact ⟨rfl, rfl, fun _ => ⟨reason, budgetRejectionReason_mem hreason, rfl⟩⟩
    · exact ⟨rfl, rfl, fun h => by simp [AddRecord.joins] at h⟩

/-- A target that joined none has a key that is not known, before and after. -/
theorem get?_add_of_not_joins
    (h : AddRecord.joins (target, (registry.add target).2) = false) :
    (registry.add target).1.targetsByKey.get? target.dedupeKey = none := by
  unfold add at h ⊢
  split at h
  · simp [AddRecord.joins] at h
  · rename_i hnew
    split at h
    · exact hnew
    · simp [AddRecord.joins] at h

theorem Sound.getByDedupeKey_of_mem (h : Sound registry history) {key : String}
    (hkey : key ∈ registry.keys) :
    ∃ found, PageDiscovery.getByDedupeKey registry key = some found ∧ found.dedupeKey = key := by
  obtain ⟨place, hplace⟩ := List.getElem?_of_mem hkey
  have hget := (h.places key place).mpr hplace
  rw [keys, List.getElem?_map] at hplace
  obtain ⟨found, hfound, hfoundKey⟩ := Option.map_eq_some_iff.mp hplace
  refine ⟨found, ?_, hfoundKey⟩
  rw [PageDiscovery.getByDedupeKey, hget, Option.bind_some, hfound]

/-- The target a seed is put under: the one with its key, when it joined one. -/
theorem Sound.key_of_accepted (h : Sound registry history) :
    ((if (registry.add target).2.accepted then some (registry.add target).2.target
      else PageDiscovery.getByDedupeKey (registry.add target).1 target.dedupeKey).map
        (·.dedupeKey)) =
      if AddRecord.joins (target, (registry.add target).2) then some target.dedupeKey
      else none := by
  have hdecides := decides_add registry target
  by_cases haccepted : (registry.add target).2.accepted = true
  · have hjoins : AddRecord.joins (target, (registry.add target).2) = true := by
      rw [AddRecord.joins, haccepted, Bool.true_or]
    rw [if_pos haccepted, if_pos hjoins, Option.map_some, hdecides.key]
  · rw [if_neg haccepted]
    by_cases hjoins : AddRecord.joins (target, (registry.add target).2) = true
    · have hmem := (h.add target).merged _ (List.mem_append_right _ List.mem_cons_self) hjoins
      obtain ⟨found, hfound, hkey⟩ := (h.add target).getByDedupeKey_of_mem hmem
      rw [if_pos hjoins, hfound, Option.map_some, hkey]
    · have hnone := get?_add_of_not_joins (Bool.eq_false_iff.mpr hjoins)
      rw [if_neg hjoins, PageDiscovery.getByDedupeKey, hnone]
      rfl

end NavigationTargetRegistry

namespace PageDiscovery

open Dict (Groups groupPairs)
open NavigationTargetRegistry Attempt

/-! ## The history of a discovery -/

/-- A seed, and what the registry decided on its target. -/
abbrev SeedRecord := NavigationTargetSeed × NavigationTargetDecision

namespace SeedRecord

def added (e : SeedRecord) : AddRecord :=
  (e.1.target, e.2)

/-- The seed went into a target. -/
def joins (e : SeedRecord) : Bool :=
  AddRecord.joins e.added

end SeedRecord

/-- What stays of a target when others are merged into it. -/
def identity (target : NavigationTarget) :
    String × Option String × String × List (String × Json) :=
  (target.dedupeKey, target.routeHint, target.targetKind, target.stateContext)

/-- What is gathered, and the seeds that came. -/
structure Gathers (gathered : Gathered) (history : List SeedRecord) : Prop where
  sound : gathered.registry.Sound (history.map SeedRecord.added)
  decisions : ∀ e ∈ history, Decides e.1.target e.2
  taken : gathered.registry.targets.map identity =
    (history.filter fun e => e.2.accepted).map fun e => identity e.1.target
  queued : ∀ target ∈ gathered.registry.targets, target.materializationStatus = "queued"
  groups : gathered.groupedTargets =
    groupPairs ((history.filter SeedRecord.joins).map fun e => (e.1.target.dedupeKey, e.1))

theorem gather_eq {gathered : Gathered} {history : List AddRecord}
    (h : gathered.registry.Sound history) (seed : NavigationTargetSeed) :
    gather gathered seed =
      { registry := (gathered.registry.add seed.target).1
        groupedTargets :=
          if AddRecord.joins (seed.target, (gathered.registry.add seed.target).2) then
            gathered.groupedTargets.append seed.target.dedupeKey seed
          else gathered.groupedTargets } := by
  have hkey := @Sound.key_of_accepted _ _ seed.target h
  unfold gather
  dsimp only
  split
  · rename_i hnone
    rw [hnone, Option.map_none] at hkey
    split at hkey
    · cases hkey
    · rename_i hjoins
      rw [if_neg hjoins]
  · rename_i target hsome
    rw [hsome, Option.map_some] at hkey
    split at hkey
    · rename_i hjoins
      rw [if_pos hjoins, Option.some_inj.mp hkey]
    · cases hkey

theorem status_of_mem_add {registry : NavigationTargetRegistry} {target : NavigationTarget}
    (h : ∀ old ∈ registry.targets, old.materializationStatus = "queued") :
    ∀ new ∈ (registry.add target).1.targets, new.materializationStatus = "queued" := by
  unfold add
  split
  · intro new hnew
    obtain ⟨i, old, hold, rfl⟩ := exists_of_mem_modify hnew
    have hqueued := h old (List.mem_of_getElem? hold)
    split
    · exact hqueued
    · exact hqueued
  · split
    · exact h
    · exact List.forall_mem_append.mpr ⟨h, List.forall_mem_singleton.mpr rfl⟩

/-- **One more seed.** -/
theorem Gathers.gather {gathered : Gathered} {history : List SeedRecord}
    (h : Gathers gathered history) (seed : NavigationTargetSeed) :
    Gathers (gather gathered seed)
      (history ++ [(seed, (gathered.registry.add seed.target).2)]) := by
  rw [gather_eq h.sound]
  refine ⟨?_, ?_, ?_, status_of_mem_add h.queued, ?_⟩
  · rw [List.map_append, List.map_singleton]
    exact h.sound.add seed.target
  · exact List.forall_mem_append.mpr
      ⟨h.decisions, List.forall_mem_singleton.mpr (decides_add _ _)⟩
  · rw [map_targets_add (fun _ => rfl) rfl, h.taken, List.filter_append, List.map_append,
      List.filter_singleton]
    split
    · rename_i haccepted
      rw [haccepted]
      rfl
    · rename_i haccepted
      rw [Bool.eq_false_iff.mpr haccepted]
      rfl
  · have hsame : SeedRecord.joins (seed, (gathered.registry.add seed.target).2) =
        AddRecord.joins (seed.target, (gathered.registry.add seed.target).2) := rfl
    rw [List.filter_append, List.map_append, List.filter_singleton, hsame, h.groups]
    cases AddRecord.joins (seed.target, (gathered.registry.add seed.target).2) with
    | false => exact congrArg groupPairs (List.append_nil _).symm
    | true => exact (Dict.groupPairs_concat _ (seed.target.dedupeKey, seed)).symm

theorem gathers_foldl {gathered : Gathered} {history : List SeedRecord}
    (h : Gathers gathered history) (seeds : List NavigationTargetSeed) :
    ∃ history', Gathers (seeds.foldl gather gathered) history' ∧
      history'.map Prod.fst = history.map Prod.fst ++ seeds := by
  induction seeds generalizing gathered history with
  | nil => exact ⟨history, h, (List.append_nil _).symm⟩
  | cons seed seeds ih =>
    obtain ⟨history', hgathers, hseeds⟩ := ih (h.gather seed)
    refine ⟨history', hgathers, ?_⟩
    rw [hseeds, List.map_append, List.map_singleton, List.append_assoc]
    rfl

/-- **The history of a discovery is that of its seeds.** -/
theorem exists_gathers (budgets : Budgets) (seeds : List NavigationTargetSeed) :
    ∃ history, Gathers (gatherAll budgets seeds) history ∧ history.map Prod.fst = seeds :=
  gathers_foldl
    { sound := sound_new _ _ _ _
      decisions := fun _ he => absurd he List.not_mem_nil
      taken := rfl
      queued := fun _ h => absurd h List.not_mem_nil
      groups := rfl } seeds

end PageDiscovery

end Runlet
