import Runlet.CrawlerService.Schemas
import Mathlib.Order.WithBot

/-!
# The budgets and the record of a registry

A registry is looked at together with its history, the targets that were added and what was decided
on each.  `Sound` is what a history and a registry have to do with each other; one `add` keeps it
(`Sound.add`), and so does a run (`Sound.addAll`).

The source a target was discovered by is the best one among all that were merged into it.  "Best"
is an order (`sourceRank`), so the order of the merges cannot matter (`IsBestSource.unique`).
-/

namespace Runlet

open Dict (Entries Tallies tallies_nil)

namespace NavigationTargets

/-! ## Discovery sources -/

/-- The rank of a source: by priority, then by name, and last when there is none. -/
def sourceRank : Option String → WithTop (ℕ ×ₗ String)
  | none => ⊤
  | some source => WithTop.some (toLex (sourcePriority source, source))

theorem sourceRank_injective : Function.Injective sourceRank := by
  intro a b h
  cases a with
  | none =>
    cases b with
    | none => rfl
    | some b => exact absurd h WithTop.top_ne_coe
  | some a =>
    cases b with
    | none => exact absurd h WithTop.coe_ne_top
    | some b =>
      have hlex := WithTop.coe_inj.mp h
      exact congrArg some (congrArg (fun p => (ofLex p).2) hlex)

/-- **The preferred source is the one of the lower rank.** -/
theorem sourceRank_prefer (a b : Option String) :
    sourceRank (preferDiscoverySource a b) = min (sourceRank a) (sourceRank b) := by
  cases a with
  | none => exact (min_eq_right le_top).symm
  | some a =>
    cases b with
    | none => exact (min_eq_left le_top).symm
    | some b =>
      rw [preferDiscoverySource]
      split
      · rename_i hlt
        refine (min_eq_right (WithTop.coe_le_coe.mpr ?_)).symm
        exact (Prod.Lex.toLex_lt_toLex.mpr (Or.inl hlt)).le
      · rename_i hnlt
        split
        · rename_i hlt
          refine (min_eq_left (WithTop.coe_le_coe.mpr ?_)).symm
          exact (Prod.Lex.toLex_lt_toLex.mpr (Or.inl hlt)).le
        · rename_i hnlt'
          have heq : sourcePriority a = sourcePriority b :=
            Nat.le_antisymm (Nat.not_lt.mp hnlt) (Nat.not_lt.mp hnlt')
          rcases le_total a b with hab | hba
          · rw [min_eq_left hab]
            refine (min_eq_left (WithTop.coe_le_coe.mpr ?_)).symm
            exact Prod.Lex.toLex_le_toLex.mpr (Or.inr ⟨heq, hab⟩)
          · rw [min_eq_right hba]
            refine (min_eq_right (WithTop.coe_le_coe.mpr ?_)).symm
            exact Prod.Lex.toLex_le_toLex.mpr (Or.inr ⟨heq.symm, hba⟩)

/-- The source is one of the list, and none of the list is better. -/
def IsBestSource (source : Option String) (sources : List (Option String)) : Prop :=
  source ∈ sources ∧ ∀ other ∈ sources, sourceRank source ≤ sourceRank other

theorem isBestSource_singleton (source : Option String) : IsBestSource source [source] := by
  refine ⟨List.mem_singleton_self source, fun other hother => ?_⟩
  rw [List.mem_singleton.mp hother]

/-- A merge keeps the better of two sources. -/
theorem IsBestSource.merge {source : Option String} {sources : List (Option String)}
    (h : IsBestSource source sources) (incoming : Option String) :
    IsBestSource (preferDiscoverySource source incoming) (sources ++ [incoming]) := by
  have hrank := sourceRank_prefer source incoming
  refine ⟨?_, fun other hother => ?_⟩
  · rcases min_choice (sourceRank source) (sourceRank incoming) with hmin | hmin
    · rw [hmin] at hrank
      rw [sourceRank_injective hrank]
      exact List.mem_append_left _ h.1
    · rw [hmin] at hrank
      rw [sourceRank_injective hrank]
      exact List.mem_append_right _ (List.mem_singleton_self incoming)
  · rw [hrank]
    rcases List.mem_append.mp hother with hother | hother
    · exact (min_le_left _ _).trans (h.2 other hother)
    · rw [List.mem_singleton.mp hother]
      exact min_le_right _ _

/-- **The best source of a list does not depend on its order.** -/
theorem IsBestSource.unique {source source' : Option String}
    {sources sources' : List (Option String)} (h : IsBestSource source sources)
    (h' : IsBestSource source' sources') (hperm : sources.Perm sources') : source = source' :=
  sourceRank_injective (le_antisymm (h.2 source' (hperm.mem_iff.mpr h'.1))
    (h'.2 source (hperm.mem_iff.mp h.1)))

end NavigationTargets

open NavigationTargets

/-! ## Replacing the target at a place -/

section Modify

variable {α β : Type} {f : α → α}

theorem map_modify_of_eq {g : α → β} (h : ∀ a, g (f a) = g a) (l : List α) (place : ℕ) :
    (l.modify place f).map g = l.map g := by
  induction l generalizing place with
  | nil => cases place <;> rfl
  | cons a l ih =>
    cases place with
    | zero => rw [List.modify_zero_cons, List.map_cons, List.map_cons, h]
    | succ place => rw [List.modify_succ_cons, List.map_cons, List.map_cons, ih]

theorem filterMap_modify_of_eq {g : α → Option β} (h : ∀ a, g (f a) = g a) (l : List α)
    (place : ℕ) : (l.modify place f).filterMap g = l.filterMap g := by
  have hmap : ∀ l : List α, l.filterMap g = (l.map g).filterMap id := fun l => by
    rw [List.filterMap_map]
    rfl
  rw [hmap, hmap, map_modify_of_eq h]

/-- What stands in the list afterwards: the new entry, and the old ones at the other places. -/
theorem exists_of_mem_modify {l : List α} {place : ℕ} {a : α} (h : a ∈ l.modify place f) :
    ∃ i old, l[i]? = some old ∧ a = if place = i then f old else old := by
  obtain ⟨i, hi⟩ := List.getElem?_of_mem h
  rw [List.getElem?_modify] at hi
  obtain ⟨old, hold, rfl⟩ := Option.map_eq_some_iff.mp hi
  exact ⟨i, old, hold, rfl⟩

end Modify

/-! ## A registry and its history -/

/-- The reasons a budget refuses for. -/
def budgetReasons : List String :=
  ["total_budget_exhausted", "route_budget_exhausted", "kind_budget_exhausted",
    "parent_budget_exhausted"]

/-- What was added, and what was decided on it. -/
abbrev AddRecord := NavigationTarget × NavigationTargetDecision

namespace AddRecord

/-- Taken, merged into one that was taken, or refused for a budget: one of the three. -/
inductive Outcome : AddRecord → Prop
  | accepted {e : AddRecord} (haccepted : e.2.accepted = true) (hreason : e.2.reason = none) :
      Outcome e
  | merged {e : AddRecord} (haccepted : e.2.accepted = false)
      (hreason : e.2.reason = some "duplicate_target") : Outcome e
  | refused {e : AddRecord} {reason : String} (haccepted : e.2.accepted = false)
      (hreason : e.2.reason = some reason) (hbudget : reason ∈ budgetReasons) : Outcome e

/-- The target was taken or merged. -/
def joins (e : AddRecord) : Bool :=
  e.2.accepted || e.2.reason = some "duplicate_target"

/-- The sources of what went into the target with this key. -/
def sourcesOf (key : String) (history : List AddRecord) : List (Option String) :=
  (history.filter fun e => e.1.dedupeKey = key && e.joins).map (·.1.discoverySource)

end AddRecord

open AddRecord (Outcome sourcesOf)

namespace NavigationTargetRegistry

/-- The keys of the targets that were taken. -/
def keys (registry : NavigationTargetRegistry) : List String :=
  registry.targets.map (·.dedupeKey)

def routes (registry : NavigationTargetRegistry) : List String :=
  registry.targets.filterMap (·.routeHint)

def kinds (registry : NavigationTargetRegistry) : List String :=
  registry.targets.map (·.targetKind)

def parents (registry : NavigationTargetRegistry) : List String :=
  registry.targets.filterMap (·.parentTargetKey)

/-- What a registry and its history have to do with each other. -/
structure Sound (registry : NavigationTargetRegistry) (history : List AddRecord) : Prop where
  outcomes : ∀ e ∈ history, Outcome e
  accepted : registry.keys = (history.filter fun e => e.2.accepted).map (·.1.dedupeKey)
  rejected : registry.rejectedTargets =
    (history.filter fun e => !e.2.accepted).map (·.2.target)
  merged : ∀ e ∈ history, e.joins = true → e.1.dedupeKey ∈ registry.keys
  keysNodup : registry.keys.Nodup
  places : ∀ key place, registry.targetsByKey.get? key = some place ↔
    registry.keys[place]? = some key
  routeCounts : Tallies registry.targetsByRoute registry.routes
  kindCounts : Tallies registry.targetsByKind registry.kinds
  parentCounts : Tallies registry.targetsByParent registry.parents
  total : registry.targets.length ≤ registry.maxTotalTargets
  perRoute : ∀ route, registry.routes.count route ≤ registry.maxTargetsPerRoute
  perKind : ∀ kind, registry.kinds.count kind ≤ registry.maxTargetsPerKind
  perParent : ∀ parent, registry.parents.count parent ≤ registry.maxChildrenPerParent
  sources : ∀ target ∈ registry.targets,
    IsBestSource target.discoverySource (sourcesOf target.dedupeKey history)
  recorded : ∀ target ∈ registry.targets ++ registry.rejectedTargets, target.PassesValidator

section Sound

variable {registry : NavigationTargetRegistry} {history : List AddRecord}
  {target : NavigationTarget}

theorem sound_new (maxTotalTargets maxTargetsPerRoute maxTargetsPerKind
    maxChildrenPerParent : Int) :
    Sound (new maxTotalTargets maxTargetsPerRoute maxTargetsPerKind maxChildrenPerParent) [] where
  outcomes _ he := absurd he List.not_mem_nil
  accepted := rfl
  rejected := rfl
  merged _ he := absurd he List.not_mem_nil
  keysNodup := List.nodup_nil
  places _ place := by
    refine iff_of_false (fun h => ?_) fun h => ?_
    · cases h
    · cases h
  routeCounts := tallies_nil
  kindCounts := tallies_nil
  parentCounts := tallies_nil
  total := Nat.zero_le _
  perRoute _ := Nat.zero_le _
  perKind _ := Nat.zero_le _
  perParent _ := Nat.zero_le _
  sources _ h := absurd h List.not_mem_nil
  recorded _ h := absurd h List.not_mem_nil

theorem passesValidator_markBlocked {reason : String} (h : reason ∈ budgetReasons) :
    (target.markBlocked reason).PassesValidator := by
  have hread : ∀ reason ∈ budgetReasons, ∃ r,
      NavigationTargetRejectionReason.ofText? reason = some r ∧
        validateStatusReasonCombination .blocked (some r) none = none := by
    decide
  obtain ⟨r, hr, hvalid⟩ := hread reason h
  refine ⟨.blocked, some r, rfl, ?_, hvalid⟩
  change (readLiteral _ NavigationTargetRejectionReason.ofText? reason).map some = _
  rw [readLiteral, hr]
  rfl

theorem passesValidator_markDuplicate : target.markDuplicate.PassesValidator :=
  ⟨.duplicate, some .duplicateTarget, rfl, rfl, rfl⟩

theorem passesValidator_markQueued : target.markQueued.PassesValidator :=
  ⟨.queued, none, rfl, rfl, rfl⟩

theorem sourcesOf_append (key : String) (e : AddRecord) :
    sourcesOf key (history ++ [e]) =
      sourcesOf key history ++
        if e.1.dedupeKey = key && e.joins then [e.1.discoverySource] else [] := by
  unfold sourcesOf
  rw [List.filter_append, List.map_append, List.filter_singleton]
  cases decide (e.1.dedupeKey = key) && e.joins with
  | false => rfl
  | true => rfl

/-- A refused target changes nothing but the list of the refused. -/
theorem sourcesOf_append_of_not_joins {key : String} {e : AddRecord} (h : e.joins = false) :
    sourcesOf key (history ++ [e]) = sourcesOf key history := by
  rw [sourcesOf_append, h, Bool.and_false, if_neg Bool.false_ne_true, List.append_nil]

/-! ## What an addition keeps -/

theorem budgetRejectionReason_mem {reason : String}
    (h : registry.budgetRejectionReason target = some reason) : reason ∈ budgetReasons := by
  unfold budgetRejectionReason at h
  unfold budgetReasons
  split at h
  · rw [← Option.some_inj.mp h]
    decide
  · split at h
    · rw [← Option.some_inj.mp h]
      decide
    · split at h
      · rw [← Option.some_inj.mp h]
        decide
      · split at h
        · rw [← Option.some_inj.mp h]
          decide
        · exact absurd h.symm (Option.some_ne_none reason)

theorem Sound.refused (h : Sound registry history) {reason : String}
    (hreason : reason ∈ budgetReasons) :
    Sound (registry.refuse (target.markBlocked reason))
      (history ++ [(target,
        { accepted := false, target := target.markBlocked reason, reason := some reason })]) := by
  have hjoins : AddRecord.joins (target,
      { accepted := false, target := target.markBlocked reason, reason := some reason }) =
        false := by
    have hne : ∀ reason ∈ budgetReasons, reason ≠ "duplicate_target" := by decide
    simpa [AddRecord.joins] using hne reason hreason
  refine { h with outcomes := ?_, accepted := ?_, rejected := ?_, merged := ?_, sources := ?_,
                  recorded := ?_ }
  · rw [List.forall_mem_append, List.forall_mem_singleton]
    exact ⟨h.outcomes, Outcome.refused rfl rfl hreason⟩
  · rw [List.filter_append, List.map_append]
    exact h.accepted.trans (List.append_nil _).symm
  · rw [List.filter_append, List.map_append]
    exact congrArg (· ++ [target.markBlocked reason]) h.rejected
  · rw [List.forall_mem_append, List.forall_mem_singleton, hjoins]
    exact ⟨h.merged, fun hfalse => absurd hfalse Bool.false_ne_true⟩
  · intro old hold
    rw [sourcesOf_append_of_not_joins hjoins]
    exact h.sources old hold
  · change ∀ old ∈ registry.targets ++ (registry.rejectedTargets ++ [_]), _
    rw [← List.append_assoc, List.forall_mem_append, List.forall_mem_singleton]
    exact ⟨h.recorded, passesValidator_markBlocked hreason⟩

/-- A merge does not touch what a target is known by. -/
theorem map_merge {β : Type} {g : NavigationTarget → β} (h : ∀ a, g (a.mergeFrom target) = g a)
    (place : ℕ) : (registry.merge place target).targets.map g = registry.targets.map g :=
  map_modify_of_eq h _ _

theorem filterMap_merge {β : Type} {g : NavigationTarget → Option β}
    (h : ∀ a, g (a.mergeFrom target) = g a) (place : ℕ) :
    (registry.merge place target).targets.filterMap g = registry.targets.filterMap g :=
  filterMap_modify_of_eq h _ _

theorem Sound.merged_into (h : Sound registry history) {place : ℕ}
    (hplace : registry.targetsByKey.get? target.dedupeKey = some place) :
    Sound ((registry.merge place target).refuse target.markDuplicate)
      (history ++ [(target, { accepted := false, target := target.markDuplicate,
                              reason := some "duplicate_target" })]) := by
  have hkey := (h.places target.dedupeKey place).mp hplace
  have hkeys : ((registry.merge place target).refuse target.markDuplicate).keys =
      registry.keys := map_merge (fun _ => rfl) place
  have hroutes : ((registry.merge place target).refuse target.markDuplicate).routes =
      registry.routes := filterMap_merge (fun _ => rfl) place
  have hkinds : ((registry.merge place target).refuse target.markDuplicate).kinds =
      registry.kinds := map_merge (fun _ => rfl) place
  have hparents : ((registry.merge place target).refuse target.markDuplicate).parents =
      registry.parents := filterMap_merge (fun _ => rfl) place
  refine ⟨?_, ?_, ?_, ?_, ?_, ?_, ?_, ?_, ?_, ?_, ?_, ?_, ?_, ?_, ?_⟩
  · rw [List.forall_mem_append, List.forall_mem_singleton]
    exact ⟨h.outcomes, Outcome.merged rfl rfl⟩
  · rw [hkeys, List.filter_append, List.map_append]
    exact h.accepted.trans (List.append_nil _).symm
  · rw [List.filter_append, List.map_append]
    exact congrArg (· ++ [target.markDuplicate]) h.rejected
  · rw [hkeys, List.forall_mem_append, List.forall_mem_singleton]
    exact ⟨h.merged, fun _ => List.mem_of_getElem? hkey⟩
  · rw [hkeys]
    exact h.keysNodup
  · rw [hkeys]
    exact h.places
  · rw [hroutes]
    exact h.routeCounts
  · rw [hkinds]
    exact h.kindCounts
  · rw [hparents]
    exact h.parentCounts
  · exact (List.length_modify _ _ _).trans_le h.total
  · rw [hroutes]
    exact h.perRoute
  · rw [hkinds]
    exact h.perKind
  · rw [hparents]
    exact h.perParent
  · -- The target at the place has the key of the duplicate, and the others have another one.
    intro new hnew
    obtain ⟨i, old, hold, hnew⟩ := exists_of_mem_modify hnew
    have hbest := h.sources old (List.mem_of_getElem? hold)
    have holdKey : registry.keys[i]? = some old.dedupeKey := by
      rw [keys, List.getElem?_map, hold]
      rfl
    rw [sourcesOf_append]
    by_cases hi : place = i
    · subst hi
      rw [if_pos rfl] at hnew
      have hsame : target.dedupeKey = old.dedupeKey :=
        Option.some_inj.mp (hkey.symm.trans holdKey)
      rw [hnew, NavigationTarget.dedupeKey_mergeFrom, if_pos (by simp [hsame, AddRecord.joins])]
      exact hbest.merge target.discoverySource
    · rw [if_neg hi] at hnew
      have hother : target.dedupeKey ≠ old.dedupeKey := fun hsame => hi <| by
        rw [hsame] at hkey
        exact (List.getElem?_inj (List.getElem?_eq_some_iff.mp hkey).1 h.keysNodup).mp
          (hkey.trans holdKey.symm)
      rw [hnew, if_neg (by simp [hother]), List.append_nil]
      exact hbest
  · change ∀ new ∈ (registry.targets.modify place _) ++ (registry.rejectedTargets ++ [_]), _
    rw [← List.append_assoc, List.forall_mem_append, List.forall_mem_singleton,
      List.forall_mem_append]
    obtain ⟨htargets, hrejected⟩ := List.forall_mem_append.mp h.recorded
    refine ⟨⟨fun new hnew => ?_, hrejected⟩, passesValidator_markDuplicate⟩
    obtain ⟨i, old, hold, rfl⟩ := exists_of_mem_modify hnew
    have hpasses := htargets old (List.mem_of_getElem? hold)
    split
    · exact hpasses
    · exact hpasses

/-- There is room for the target under all four budgets. -/
def Room (registry : NavigationTargetRegistry) (target : NavigationTarget) : Prop :=
  registry.targets.length < registry.maxTotalTargets ∧
    (∀ route ∈ target.routeHint, registry.routes.count route < registry.maxTargetsPerRoute) ∧
    registry.kinds.count target.targetKind < registry.maxTargetsPerKind ∧
    ∀ parent ∈ target.parentTargetKey,
      registry.parents.count parent < registry.maxChildrenPerParent

/-- A test on a key that may be missing. -/
theorem any_le_iff {counts : Entries String ℕ} {l : List String} (h : Tallies counts l)
    (key : Option String) (bound : ℕ) :
    ¬ (key.any fun k => bound ≤ countOf counts k) = true ↔ ∀ k ∈ key, l.count k < bound := by
  cases key with
  | none => exact iff_of_true Bool.false_ne_true fun k hk => absurd hk (Option.not_mem_none k)
  | some key =>
    rw [Option.any_some, decide_eq_true_iff, Nat.not_le, countOf, h key]
    constructor
    · intro hlt k hk
      rwa [← Option.some_inj.mp hk]
    · exact fun hall => hall key rfl

/-- **No budget refuses a target exactly when it finds room under all four.** -/
theorem Sound.budgetRejectionReason_eq_none_iff (h : Sound registry history) :
    registry.budgetRejectionReason target = none ↔ registry.Room target := by
  have hroute := any_le_iff h.routeCounts target.routeHint registry.maxTargetsPerRoute
  have hparent := any_le_iff h.parentCounts target.parentTargetKey registry.maxChildrenPerParent
  have hkind : ¬ registry.maxTargetsPerKind ≤ countOf registry.targetsByKind target.targetKind ↔
      registry.kinds.count target.targetKind < registry.maxTargetsPerKind := by
    rw [Nat.not_le, countOf, h.kindCounts]
  unfold Room
  rw [← Nat.not_le, ← hroute, ← hkind, ← hparent]
  unfold budgetRejectionReason
  constructor
  · intro hfree
    split at hfree
    · cases hfree
    · rename_i htotal
      split at hfree
      · cases hfree
      · rename_i hroute
        split at hfree
        · cases hfree
        · rename_i hkind
          split at hfree
          · cases hfree
          · rename_i hparent
            exact ⟨htotal, hroute, hkind, hparent⟩
  · rintro ⟨htotal, hroute, hkind, hparent⟩
    rw [if_neg htotal, if_neg hroute, if_neg hkind, if_neg hparent]

/-- Counting one more key, when there is one. -/
theorem tallies_bump {counts : Entries String ℕ} {l : List String} (h : Tallies counts l)
    (key : Option String) : Tallies (bump counts key) (l ++ key.toList) := by
  cases key with
  | none =>
    rw [Option.toList_none, List.append_nil]
    exact h
  | some key => exact h.count key

/-- One more key stays within the bound when it found room. -/
theorem count_append_le {l : List String} {bound : ℕ} (h : ∀ key, l.count key ≤ bound)
    {key : Option String} (hroom : ∀ k ∈ key, l.count k < bound) (k : String) :
    (l ++ key.toList).count k ≤ bound := by
  rw [List.count_append]
  cases key with
  | none => exact h k
  | some key =>
    by_cases hk : key = k
    · subst hk
      rw [Option.toList_some, List.count_singleton_self]
      exact hroom key rfl
    · rw [Option.toList_some, List.count_singleton, if_neg (by simpa using hk)]
      exact h k

theorem filterMap_singleton {α β : Type} (g : α → Option β) (a : α) :
    [a].filterMap g = (g a).toList := by
  cases h : g a with
  | none => rw [List.filterMap_cons_none h]; rfl
  | some b => rw [List.filterMap_cons_some h]; rfl

theorem getElem?_concat_iff {l : List String} {a b : String} {i : ℕ} :
    (l ++ [a])[i]? = some b ↔ l[i]? = some b ∨ i = l.length ∧ a = b := by
  rcases Nat.lt_trichotomy i l.length with hlt | rfl | hgt
  · rw [List.getElem?_append_left hlt]
    exact (or_iff_left fun h => absurd h.1 hlt.ne).symm
  · rw [List.getElem?_concat_length, List.getElem?_eq_none le_rfl, Option.some_inj]
    simp
  · rw [List.getElem?_eq_none (by rw [List.length_append]; exact hgt),
      List.getElem?_eq_none hgt.le]
    exact iff_of_false (Option.some_ne_none b).symm fun h =>
      h.elim (fun h => absurd h.symm (Option.some_ne_none b)) fun h => absurd h.1 hgt.ne'

theorem Sound.accepts (h : Sound registry history)
    (hnew : registry.targetsByKey.get? target.dedupeKey = none)
    (hfree : registry.budgetRejectionReason target = none) :
    Sound (registry.accept target.markQueued)
      (history ++ [(target, { accepted := true, target := target.markQueued })]) := by
  obtain ⟨htotal, hroute, hkind, hparent⟩ := h.budgetRejectionReason_eq_none_iff.mp hfree
  have hfresh : target.dedupeKey ∉ registry.keys := fun hmem => by
    obtain ⟨place, hplace⟩ := List.getElem?_of_mem hmem
    rw [(h.places target.dedupeKey place).mpr hplace] at hnew
    exact absurd hnew (Option.some_ne_none place)
  have hkeys : (registry.accept target.markQueued).keys = registry.keys ++ [target.dedupeKey] :=
    List.map_append
  have hroutes : (registry.accept target.markQueued).routes =
      registry.routes ++ target.routeHint.toList := by
    unfold routes accept
    rw [List.filterMap_append, filterMap_singleton]
    rfl
  have hkinds : (registry.accept target.markQueued).kinds =
      registry.kinds ++ (some target.targetKind).toList := List.map_append
  have hparents : (registry.accept target.markQueued).parents =
      registry.parents ++ target.parentTargetKey.toList := by
    unfold parents accept
    rw [List.filterMap_append, filterMap_singleton]
    rfl
  -- Nothing was merged under the key before it was taken.
  have hnone : sourcesOf target.dedupeKey history = [] := by
    unfold sourcesOf
    rw [List.map_eq_nil_iff, List.filter_eq_nil_iff]
    intro e he hjoined
    rw [Bool.and_eq_true, decide_eq_true_iff] at hjoined
    exact hfresh (hjoined.1 ▸ h.merged e he hjoined.2)
  refine ⟨?_, ?_, ?_, ?_, ?_, ?_, ?_, ?_, ?_, ?_, ?_, ?_, ?_, ?_, ?_⟩
  · rw [List.forall_mem_append, List.forall_mem_singleton]
    exact ⟨h.outcomes, Outcome.accepted rfl rfl⟩
  · rw [hkeys, List.filter_append, List.map_append]
    exact congrArg (· ++ [target.dedupeKey]) h.accepted
  · rw [List.filter_append, List.map_append]
    exact h.rejected.trans (List.append_nil _).symm
  · rw [hkeys, List.forall_mem_append, List.forall_mem_singleton]
    exact ⟨fun e he hjoined => List.mem_append_left _ (h.merged e he hjoined),
      fun _ => List.mem_append_right _ (List.mem_singleton_self _)⟩
  · rw [hkeys]
    refine List.nodup_append.mpr ⟨h.keysNodup, List.nodup_singleton _, ?_⟩
    rintro _ hmem _ hsingle rfl
    exact hfresh (List.mem_singleton.mp hsingle ▸ hmem)
  · intro key place
    rw [hkeys, getElem?_concat_iff]
    change (registry.targetsByKey.set target.dedupeKey registry.targets.length).get? key =
      some place ↔ _
    rw [Entries.get?_set, keys, List.length_map]
    by_cases hkey : target.dedupeKey = key
    · subst hkey
      rw [if_pos rfl, Option.some_inj, and_iff_left rfl, or_iff_right]
      · exact eq_comm
      · exact fun hplace => hfresh (List.mem_of_getElem? hplace)
    · rw [if_neg hkey, or_iff_left fun h => hkey h.2]
      exact h.places key place
  · rw [hroutes]
    exact tallies_bump h.routeCounts target.routeHint
  · rw [hkinds]
    exact tallies_bump h.kindCounts (some target.targetKind)
  · rw [hparents]
    exact tallies_bump h.parentCounts target.parentTargetKey
  · change (registry.targets ++ [_]).length ≤ registry.maxTotalTargets
    rw [List.length_append]
    exact htotal
  · rw [hroutes]
    exact count_append_le h.perRoute hroute
  · rw [hkinds]
    exact count_append_le h.perKind fun kind hmem => by
      rw [← Option.some_inj.mp hmem]
      exact hkind
  · rw [hparents]
    exact count_append_le h.perParent hparent
  · change ∀ old ∈ registry.targets ++ [_], _
    rw [List.forall_mem_append, List.forall_mem_singleton]
    refine ⟨fun old hold => ?_, ?_⟩
    · have hmem : old.dedupeKey ∈ registry.keys := List.mem_map_of_mem hold
      have hother : target.dedupeKey ≠ old.dedupeKey := fun hsame => by
        rw [hsame] at hfresh
        exact hfresh hmem
      rw [sourcesOf_append, if_neg (by simp [hother]), List.append_nil]
      exact h.sources old hold
    · change IsBestSource target.discoverySource (sourcesOf target.dedupeKey _)
      rw [sourcesOf_append, hnone, if_pos (by simp [AddRecord.joins])]
      exact isBestSource_singleton target.discoverySource
  · change ∀ old ∈ (registry.targets ++ [_]) ++ registry.rejectedTargets, _
    obtain ⟨htargets, hrejected⟩ := List.forall_mem_append.mp h.recorded
    rw [List.forall_mem_append, List.forall_mem_append, List.forall_mem_singleton]
    exact ⟨⟨htargets, passesValidator_markQueued⟩, hrejected⟩

/-- **One addition keeps the account.** -/
theorem Sound.add (h : Sound registry history) (target : NavigationTarget) :
    Sound (registry.add target).1 (history ++ [(target, (registry.add target).2)]) := by
  unfold NavigationTargetRegistry.add
  split
  · rename_i place hplace
    exact h.merged_into hplace
  · rename_i hnew
    split
    · rename_i reason hreason
      exact h.refused (budgetRejectionReason_mem hreason)
    · rename_i hfree
      exact h.accepts hnew hfree

/-- A new status changes nothing that a registry is sound by, when the validator lets it pass. -/
theorem Sound.marked (h : Sound registry history) (place : ℕ) {status : String}
    {reason detail : Option String}
    (hpass : ∀ target : NavigationTarget, (target.mark status reason detail).PassesValidator) :
    Sound { registry with targets := registry.targets.modify place (·.mark status reason detail) }
      history := by
  let marked : NavigationTargetRegistry :=
    { registry with targets := registry.targets.modify place (·.mark status reason detail) }
  have hmap : ∀ g : NavigationTarget → String, (∀ a, g (a.mark status reason detail) = g a) →
      marked.targets.map g = registry.targets.map g := fun g h => map_modify_of_eq h _ place
  have hfilter : ∀ g : NavigationTarget → Option String,
      (∀ a, g (a.mark status reason detail) = g a) →
        marked.targets.filterMap g = registry.targets.filterMap g :=
    fun g h => filterMap_modify_of_eq h _ place
  have hkeys : marked.keys = registry.keys := hmap (·.dedupeKey) fun _ => rfl
  have hroutes : marked.routes = registry.routes := hfilter (·.routeHint) fun _ => rfl
  have hkinds : marked.kinds = registry.kinds := hmap (·.targetKind) fun _ => rfl
  have hparents : marked.parents = registry.parents := hfilter (·.parentTargetKey) fun _ => rfl
  have hlength : marked.targets.length = registry.targets.length := List.length_modify _ _ _
  exact
    { outcomes := h.outcomes
      accepted := hkeys.trans h.accepted
      rejected := h.rejected
      merged := fun e he hjoins => hkeys ▸ h.merged e he hjoins
      keysNodup := hkeys ▸ h.keysNodup
      places := hkeys ▸ h.places
      routeCounts := hroutes ▸ h.routeCounts
      kindCounts := hkinds ▸ h.kindCounts
      parentCounts := hparents ▸ h.parentCounts
      total := hlength ▸ h.total
      perRoute := hroutes ▸ h.perRoute
      perKind := hkinds ▸ h.perKind
      perParent := hparents ▸ h.perParent
      sources := fun target htarget => by
        obtain ⟨i, old, hold, rfl⟩ := exists_of_mem_modify htarget
        have hsource := h.sources old (List.mem_of_getElem? hold)
        split
        · exact hsource
        · exact hsource
      recorded := fun target htarget => by
        rcases List.mem_append.mp htarget with htarget | htarget
        · obtain ⟨i, old, hold, rfl⟩ := exists_of_mem_modify htarget
          split
          · exact hpass old
          · exact h.recorded old (List.mem_append_left _ (List.mem_of_getElem? hold))
        · exact h.recorded target (List.mem_append_right _ htarget) }

/-- **A run keeps it.** -/
theorem Sound.addAll (h : Sound registry history) (targets : List NavigationTarget) :
    Sound (registry.addAll targets).1
      (history ++ targets.zip (registry.addAll targets).2) := by
  induction targets generalizing registry history with
  | nil =>
    rw [List.zip_nil_left, List.append_nil]
    exact h
  | cons target targets ih =>
    have hrest := ih (h.add target)
    rw [List.append_assoc] at hrest
    exact hrest

theorem length_addAll (registry : NavigationTargetRegistry) (targets : List NavigationTarget) :
    (registry.addAll targets).2.length = targets.length := by
  induction targets generalizing registry with
  | nil => rfl
  | cons target targets ih => exact congrArg (· + 1) (ih (registry.add target).1)

end Sound

/-! ## What one addition does to the list -/

section Lists

variable {registry : NavigationTargetRegistry} {history : List AddRecord}
  {target : NavigationTarget}

/-- What a target is known by, over the list: one more when the target was taken. -/
theorem map_targets_add {β : Type} {g : NavigationTarget → β}
    (hmerge : ∀ a, g (a.mergeFrom target) = g a) (hmark : g target.markQueued = g target) :
    (registry.add target).1.targets.map g = registry.targets.map g ++
      if (registry.add target).2.accepted then [g target] else [] := by
  unfold add
  split
  · exact (map_merge hmerge _).trans (List.append_nil _).symm
  · split
    · exact (List.append_nil _).symm
    · rw [← hmark]
      exact List.map_append

/-- **A target is taken exactly when its key is new and there is room.** -/
theorem Sound.accepted_add_iff (h : Sound registry history) :
    (registry.add target).2.accepted = true ↔
      target.dedupeKey ∉ registry.keys ∧ registry.Room target := by
  have hkey : registry.targetsByKey.get? target.dedupeKey = none ↔
      target.dedupeKey ∉ registry.keys := by
    rw [Option.eq_none_iff_forall_ne_some, List.mem_iff_getElem?, not_exists]
    exact forall_congr' fun place => not_congr (h.places target.dedupeKey place)
  rw [← hkey, ← h.budgetRejectionReason_eq_none_iff]
  unfold NavigationTargetRegistry.add
  split
  · rename_i place hplace
    exact iff_of_false Bool.false_ne_true fun hnew => by
      rw [hplace] at hnew
      exact Option.some_ne_none place hnew.1
  · rename_i hnew
    split
    · rename_i reason hreason
      exact iff_of_false Bool.false_ne_true fun hfree => by
        rw [hreason] at hfree
        exact Option.some_ne_none reason hfree.2
    · rename_i hfree
      exact iff_of_true rfl ⟨hnew, hfree⟩

end Lists

/-! ## The budgets of a configuration -/

/-- The four budgets. -/
def budgets (registry : NavigationTargetRegistry) : ℕ × ℕ × ℕ × ℕ :=
  (registry.maxTotalTargets, registry.maxTargetsPerRoute, registry.maxTargetsPerKind,
    registry.maxChildrenPerParent)

theorem budgets_add (registry : NavigationTargetRegistry) (target : NavigationTarget) :
    (registry.add target).1.budgets = registry.budgets := by
  unfold add
  split
  · rfl
  · split
    · rfl
    · rfl

theorem budgets_addAll (registry : NavigationTargetRegistry) (targets : List NavigationTarget) :
    (registry.addAll targets).1.budgets = registry.budgets := by
  induction targets generalizing registry with
  | nil => rfl
  | cons target targets ih => exact (ih _).trans (budgets_add registry target)

/-- What is known about the targets that were taken, with all counters. -/
def ledger (registry : NavigationTargetRegistry) :
    List String × Entries String ℕ × Entries String ℕ × Entries String ℕ × Entries String ℕ :=
  (registry.keys, registry.targetsByKey, registry.targetsByRoute, registry.targetsByKind,
    registry.targetsByParent)

/-- **A target that is not taken leaves keys and counters as they are.** -/
theorem ledger_add_of_not_accepted {registry : NavigationTargetRegistry}
    {target : NavigationTarget} (h : (registry.add target).2.accepted = false) :
    (registry.add target).1.ledger = registry.ledger := by
  unfold add at h ⊢
  split
  · rename_i place hplace
    exact congrArg (·, _) (map_merge (fun _ => rfl) place)
  · rename_i hnew
    rw [hnew] at h
    dsimp only at h
    split
    · rfl
    · rename_i hfree
      rw [hfree] at h
      cases h

/-- **The registry keeps its budgets and its record.** -/
theorem registry_sound (maxTotalTargets maxTargetsPerRoute maxTargetsPerKind
    maxChildrenPerParent : Int) (targets : List NavigationTarget) :
    let run := (new maxTotalTargets maxTargetsPerRoute maxTargetsPerKind
      maxChildrenPerParent).addAll targets
    run.2.length = targets.length ∧ Sound run.1 (targets.zip run.2) ∧
      run.1.budgets = ((max 1 maxTotalTargets).toNat, (max 1 maxTargetsPerRoute).toNat,
        (max 1 maxTargetsPerKind).toNat, (max 1 maxChildrenPerParent).toNat) ∧
      (∀ target, (run.1.add target).2.accepted = false →
        (run.1.add target).1.ledger = run.1.ledger) ∧
      (∀ target ∈ run.1.targets, ∀ sources source,
        (sourcesOf target.dedupeKey (targets.zip run.2)).Perm sources →
          IsBestSource source sources → target.discoverySource = source) ∧
      ∀ target ∈ run.1.targets ++ run.1.rejectedTargets,
        (∃ record, NavigationTargetResult.modelValidate target = .ok record) ↔
          ∃ kind, NavigationTargetKind.ofText? target.targetKind = some kind := by
  have hsound := (sound_new maxTotalTargets maxTargetsPerRoute maxTargetsPerKind
    maxChildrenPerParent).addAll targets
  rw [List.nil_append] at hsound
  exact ⟨length_addAll _ targets, hsound, budgets_addAll _ targets,
    fun target => ledger_add_of_not_accepted,
    fun target htarget sources source hperm hbest =>
      (hsound.sources target htarget).unique hbest hperm,
    fun target htarget => exists_modelValidate_iff (hsound.recorded target htarget)⟩

end NavigationTargetRegistry

end Runlet
