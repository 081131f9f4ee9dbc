import Mathlib.Data.List.Chain
import Mathlib.Data.List.Nodup
import Mathlib.Logic.Relation
import Mathlib.Data.List.Perm.Subperm

/-!
# Climbing along a partial function

A climb follows `next` from a node upwards and stops at a node without a next one, or where the
next one has a key that was seen before.  `ClimbsTo` is the loop as it runs: a derivation is one
run, turn by turn, so that a climb ends iff there is a derivation.

* `exists_climbsTo`: over finitely many keys every climb ends, cycles or not.
* `ClimbsTo.isChain`, `ClimbsTo.nodup`, `ClimbsTo.closed`: the nodes of a climb are linked by
  `next`, no key occurs twice, and the next node of each has a key among them.
* `ClimbsTo.mem_iff`: when keys are names, the nodes of a climb are those above its start.
* `not_above_itself`: where parents stand before their children, no node is above itself.
-/

namespace Runlet

section Climb

variable {α κ : Type*} {next : α → Option α} {key : α → κ}

/-- The loop `while next x: if key (next x) in seen: break`, from `x` on: the nodes it passes. -/
inductive ClimbsTo (next : α → Option α) (key : α → κ) : List κ → α → List α → Prop
  | top {seen : List κ} {x : α} (htop : next x = none) : ClimbsTo next key seen x [x]
  | loop {seen : List κ} {x y : α} (hnext : next x = some y) (hseen : key y ∈ key x :: seen) :
      ClimbsTo next key seen x [x]
  | step {seen : List κ} {x y : α} {l : List α} (hnext : next x = some y)
      (hfresh : key y ∉ key x :: seen) (hclimb : ClimbsTo next key (key x :: seen) y l) :
      ClimbsTo next key seen x (x :: l)

namespace ClimbsTo

variable {seen : List κ} {x : α} {l : List α}

theorem exists_cons (h : ClimbsTo next key seen x l) : ∃ t, l = x :: t := by
  cases h with
  | top => exact ⟨[], rfl⟩
  | loop => exact ⟨[], rfl⟩
  | step => exact ⟨_, rfl⟩

theorem ne_nil (h : ClimbsTo next key seen x l) : l ≠ [] := by
  obtain ⟨t, rfl⟩ := h.exists_cons
  exact List.cons_ne_nil x t

theorem start_mem (h : ClimbsTo next key seen x l) : x ∈ l := by
  obtain ⟨t, rfl⟩ := h.exists_cons
  exact List.mem_cons_self

/-- A climb goes one way. -/
theorem unique {l' : List α} (h : ClimbsTo next key seen x l) (h' : ClimbsTo next key seen x l') :
    l = l' := by
  induction h generalizing l' with
  | top htop =>
    cases h' with
    | top => rfl
    | loop => rfl
    | step hnext => exact absurd (htop.symm.trans hnext) (Option.some_ne_none _).symm
  | loop hnext hseen =>
    cases h' with
    | top => rfl
    | loop => rfl
    | step hnext' hfresh =>
      rw [Option.some_inj.mp (hnext.symm.trans hnext')] at hseen
      exact absurd hseen hfresh
  | step hnext hfresh _ ih =>
    cases h' with
    | top htop => exact absurd (htop.symm.trans hnext) (Option.some_ne_none _).symm
    | loop hnext' hseen =>
      rw [Option.some_inj.mp (hnext'.symm.trans hnext)] at hseen
      exact absurd hseen hfresh
    | step hnext' _ hclimb =>
      rw [Option.some_inj.mp (hnext'.symm.trans hnext)] at hclimb
      rw [ih hclimb]

/-- **Each node of a climb is next to the one before.** -/
theorem isChain (h : ClimbsTo next key seen x l) : l.IsChain fun a b => next a = some b := by
  induction h with
  | top => exact List.isChain_singleton _
  | loop => exact List.isChain_singleton _
  | step hnext _ hclimb ih =>
    obtain ⟨t, rfl⟩ := hclimb.exists_cons
    exact List.isChain_cons_cons.mpr ⟨hnext, ih⟩

theorem reachable (h : ClimbsTo next key seen x l) :
    ∀ a ∈ l, Relation.ReflTransGen (fun a b => next a = some b) x a := by
  induction h with
  | top =>
    intro a ha
    rw [List.mem_singleton.mp ha]
  | loop =>
    intro a ha
    rw [List.mem_singleton.mp ha]
  | step hnext _ _ ih =>
    intro a ha
    rcases List.mem_cons.mp ha with rfl | ha
    · exact Relation.ReflTransGen.refl
    · exact Relation.ReflTransGen.head hnext (ih a ha)

/-- No key is met that was seen before. -/
theorem fresh (h : ClimbsTo next key seen x l) (hx : key x ∉ seen) :
    ∀ a ∈ l, key a ∉ seen := by
  induction h with
  | top =>
    intro a ha
    rwa [List.mem_singleton.mp ha]
  | loop =>
    intro a ha
    rwa [List.mem_singleton.mp ha]
  | step _ hfresh _ ih =>
    intro a ha
    rcases List.mem_cons.mp ha with rfl | ha
    · exact hx
    · exact fun hmem => ih hfresh a ha (List.mem_cons_of_mem _ hmem)

/-- **No key occurs twice in a climb.** -/
theorem nodup (h : ClimbsTo next key seen x l) : (l.map key).Nodup := by
  induction h with
  | top => exact List.nodup_singleton _
  | loop => exact List.nodup_singleton _
  | step _ hfresh hclimb ih =>
    rw [List.map_cons, List.nodup_cons]
    refine ⟨fun hmem => ?_, ih⟩
    obtain ⟨a, ha, hkey⟩ := List.mem_map.mp hmem
    refine hclimb.fresh hfresh a ha ?_
    rw [hkey]
    exact List.mem_cons_self

/-- **A climb leaves nothing above it**: what is next to one of its nodes was met or seen. -/
theorem closed (h : ClimbsTo next key seen x l) :
    ∀ a ∈ l, ∀ b, next a = some b → key b ∈ l.map key ∨ key b ∈ seen := by
  induction h with
  | top htop =>
    intro a ha b hb
    rw [List.mem_singleton.mp ha, htop] at hb
    exact absurd hb (Option.some_ne_none b).symm
  | loop hnext hseen =>
    intro a ha b hb
    rw [List.mem_singleton.mp ha] at hb
    obtain rfl := Option.some_inj.mp (hnext.symm.trans hb)
    exact (List.mem_cons.mp hseen).imp_left fun h => List.mem_singleton.mpr h
  | step hnext _ hclimb ih =>
    intro a ha b hb
    rcases List.mem_cons.mp ha with rfl | ha
    · obtain rfl := Option.some_inj.mp (hnext.symm.trans hb)
      exact Or.inl (List.mem_map_of_mem (List.mem_cons_of_mem _ hclimb.start_mem))
    · rcases ih a ha b hb with hmem | hmem
      · exact Or.inl (List.mem_cons_of_mem _ hmem)
      · rcases List.mem_cons.mp hmem with heq | hmem
        · exact Or.inl (by rw [heq]; exact List.mem_cons_self)
        · exact Or.inr hmem

/-- **When keys are names, a climb meets all that is above its start.** -/
theorem mem_iff (h : ClimbsTo next key [] x l)
    (hnames : ∀ a b, Relation.ReflTransGen (fun a b => next a = some b) x a →
      Relation.ReflTransGen (fun a b => next a = some b) x b → key a = key b → a = b) {a : α} :
    a ∈ l ↔ Relation.ReflTransGen (fun a b => next a = some b) x a := by
  refine ⟨h.reachable a, fun hreach => ?_⟩
  induction hreach with
  | refl => exact h.start_mem
  | tail hxa hab ih =>
    obtain ⟨c, hc, hkey⟩ := List.mem_map.mp
      ((h.closed _ ih _ hab).resolve_right List.not_mem_nil)
    rwa [← hnames _ _ (h.reachable c hc) (hxa.tail hab) hkey]

/-- A climb is not longer than the keys there are. -/
theorem length_le {keys : List κ} (hkeys : ∀ a b, next a = some b → key b ∈ keys)
    (h : ClimbsTo next key seen x l) : l.length ≤ keys.length + 1 := by
  obtain ⟨t, rfl⟩ := h.exists_cons
  have hsub : t.map key ⊆ keys := by
    intro k hk
    obtain ⟨b, hb, rfl⟩ := List.mem_map.mp hk
    obtain ⟨a, -, hab⟩ : ∃ a ∈ x :: t, next a = some b := by
      clear hk
      have hchain := h.isChain
      clear h
      induction t generalizing x with
      | nil => exact absurd hb List.not_mem_nil
      | cons y t ih =>
        obtain ⟨hxy, htail⟩ := List.isChain_cons_cons.mp hchain
        rcases List.mem_cons.mp hb with rfl | hb
        · exact ⟨x, List.mem_cons_self, hxy⟩
        · obtain ⟨a, ha, hab⟩ := ih hb htail
          exact ⟨a, List.mem_cons_of_mem _ ha, hab⟩
    exact hkeys a b hab
  have hnodup : (t.map key).Nodup := (List.nodup_cons.mp h.nodup).2
  have hle := (hnodup.subperm hsub).length_le
  rw [List.length_map] at hle
  exact Nat.succ_le_succ hle

end ClimbsTo

/-- **Over finitely many keys every climb ends.** -/
theorem exists_climbsTo [DecidableEq κ] {keys : List κ}
    (hkeys : ∀ a b, next a = some b → key b ∈ keys) (seen : List κ) (x : α) :
    ∃ l, ClimbsTo next key seen x l := by
  -- Every turn takes one more key from those that can still be met.
  induction hn : (keys.filter fun k => k ∉ key x :: seen).length using Nat.strong_induction_on
    generalizing seen x with
  | _ n ih =>
    cases hnext : next x with
    | none => exact ⟨[x], ClimbsTo.top hnext⟩
    | some y =>
      by_cases hseen : key y ∈ key x :: seen
      · exact ⟨[x], ClimbsTo.loop hnext hseen⟩
      · have hless : (keys.filter fun k => k ∉ key y :: key x :: seen).length < n := by
          have hfilter : (keys.filter fun k => k ∉ key y :: key x :: seen) =
              (keys.filter fun k => k ∉ key x :: seen).filter fun k => k ≠ key y := by
            rw [List.filter_filter]
            refine List.filter_congr fun k _ => ?_
            rw [← Bool.decide_and]
            exact decide_eq_decide.mpr (List.mem_cons.not.trans not_or)
          rw [← hn, hfilter, List.length_filter_lt_length_iff_exists]
          exact ⟨key y, List.mem_filter.mpr ⟨hkeys x y hnext, decide_eq_true hseen⟩, by simp⟩
        obtain ⟨l, hl⟩ := ih _ hless (key x :: seen) y rfl
        exact ⟨x :: l, ClimbsTo.step hnext hseen hl⟩

end Climb

/-! ## Parents that stand before their children -/

section Earlier

variable {α κ : Type*} {key : α → κ} {parent : α → Option κ} {l : List α}

/-- Every parent that is named stands earlier in the list. -/
def ParentsEarlier (key : α → κ) (parent : α → Option κ) (l : List α) : Prop :=
  ∀ (i : ℕ) x, l[i]? = some x → ∀ k, parent x = some k → ∃ j < i, ∃ y, l[j]? = some y ∧ key y = k

/-- One node of the list is the parent of another one. -/
def IsParentIn (key : α → κ) (parent : α → Option κ) (l : List α) (x y : α) : Prop :=
  x ∈ l ∧ y ∈ l ∧ parent y = some (key x)

theorem position_lt (hkeys : (l.map key).Nodup) (h : ParentsEarlier key parent l) {x y : α}
    (habove : Relation.TransGen (IsParentIn key parent l) x y) :
    ∀ i j : ℕ, l[i]? = some x → l[j]? = some y → i < j := by
  have hstep : ∀ x y, IsParentIn key parent l x y →
      ∀ i j : ℕ, l[i]? = some x → l[j]? = some y → i < j := by
    intro x y hxy i j hi hj
    obtain ⟨i', hlt, x', hi', hkey⟩ := h j y hj (key x) hxy.2.2
    obtain ⟨hib, hi⟩ := List.getElem?_eq_some_iff.mp hi
    obtain ⟨hib', hi'⟩ := List.getElem?_eq_some_iff.mp hi'
    have hsame : (l.map key).get ⟨i, by rwa [List.length_map]⟩ =
        (l.map key).get ⟨i', by rwa [List.length_map]⟩ := by
      rw [List.get_eq_getElem, List.get_eq_getElem, List.getElem_map, List.getElem_map, hi, hi',
        hkey]
    have hposition : i = i' := congrArg Fin.val (hkeys.get_inj_iff.mp hsame)
    rw [hposition]
    exact hlt
  induction habove with
  | single hxy => exact hstep _ _ hxy
  | tail _ hyz ih =>
    intro i j hi hj
    obtain ⟨m, hm⟩ := List.mem_iff_getElem?.mp hyz.1
    exact (ih i m hi hm).trans (hstep _ _ hyz m j hm hj)

theorem not_above_itself (hkeys : (l.map key).Nodup) (h : ParentsEarlier key parent l) (x : α) :
    ¬ Relation.TransGen (IsParentIn key parent l) x x := by
  intro habove
  have hmem : x ∈ l := by
    cases habove with
    | single hxx => exact hxx.1
    | tail _ hyx => exact hyx.2.1
  obtain ⟨i, hi⟩ := List.mem_iff_getElem?.mp hmem
  exact lt_irrefl i (position_lt hkeys h habove i i hi hi)

end Earlier

end Runlet
