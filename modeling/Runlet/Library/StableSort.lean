import Mathlib.Data.List.Sort
import Mathlib.Data.List.TakeWhile

/-!
# Sorting by a key

A stable sort by a key leaves entries with equal keys in the order in which they came.  What is
read off a sorted list is therefore the same for all orders of the entries exactly when entries
with equal keys read the same.

* `map_insertionSort_of_perm`: readings that agree on ties do not show the order.
* `insertionSort_swap`: two entries with equal keys are swapped by swapping them in the input.
* `map_insertionSort_perm_iff`: the two together.
* `filter_insertionSort`: entries that tie with each other stay in the order in which they came.
* `findIdx_insertionSort`: how far back an entry stands is how many entries have smaller keys.
-/

namespace StableSort

variable {α β κ : Type*}

/-- Entry by entry, what is determined by one reading of a list is determined by it. -/
theorem map_congr_of_map_eq {k : α → κ} {f : α → β} :
    ∀ {l l' : List α}, l.map k = l'.map k →
      (∀ a ∈ l, ∀ b ∈ l', k a = k b → f a = f b) → l.map f = l'.map f
  | [], [], _, _ => rfl
  | [], _ :: _, h, _ => by simp at h
  | _ :: _, [], h, _ => by simp at h
  | a :: l, b :: l', h, hf => by
    rw [List.map_cons, List.map_cons, List.cons.injEq] at h
    rw [List.map_cons, List.map_cons, hf a List.mem_cons_self b List.mem_cons_self h.1,
      map_congr_of_map_eq h.2 fun c hc d hd =>
        hf c (List.mem_cons_of_mem _ hc) d (List.mem_cons_of_mem _ hd)]

variable [LinearOrder κ] {sortKey : α → κ} [DecidableRel fun a b : α => sortKey a ≤ sortKey b]

/-- The keys of two sorted lists with the same entries. -/
theorem map_key_insertionSort {l l' : List α} (h : l.Perm l') :
    (l.insertionSort fun a b => sortKey a ≤ sortKey b).map sortKey =
      (l'.insertionSort fun a b => sortKey a ≤ sortKey b).map sortKey := by
  have htotal : Std.Total fun a b : α => sortKey a ≤ sortKey b :=
    ⟨fun a b => le_total (sortKey a) (sortKey b)⟩
  have htrans : IsTrans α fun a b => sortKey a ≤ sortKey b := ⟨fun _ _ _ => le_trans⟩
  have hsorted : ∀ l : List α,
      ((l.insertionSort fun a b => sortKey a ≤ sortKey b).map sortKey).Pairwise (· ≤ ·) :=
    fun l => List.pairwise_map.mpr (List.pairwise_insertionSort _ l)
  have hperm := ((List.perm_insertionSort (fun a b => sortKey a ≤ sortKey b) l).trans
    (h.trans (List.perm_insertionSort (fun a b => sortKey a ≤ sortKey b) l').symm)).map sortKey
  exact hperm.eq_of_pairwise (fun _ _ _ _ => le_antisymm) (hsorted l) (hsorted l')

/-- Keys that do not repeat come out in strict order. -/
theorem pairwise_lt_insertionSort {l : List α} (h : (l.map sortKey).Nodup) :
    ((l.insertionSort fun a b => sortKey a ≤ sortKey b).map sortKey).Pairwise (· < ·) := by
  have htotal : Std.Total fun a b : α => sortKey a ≤ sortKey b :=
    ⟨fun a b => le_total (sortKey a) (sortKey b)⟩
  have htrans : IsTrans α fun a b => sortKey a ≤ sortKey b := ⟨fun _ _ _ => le_trans⟩
  have hsorted : ((l.insertionSort fun a b => sortKey a ≤ sortKey b).map sortKey).Pairwise
      (· ≤ ·) := List.pairwise_map.mpr (List.pairwise_insertionSort _ l)
  have hnodup : ((l.insertionSort fun a b => sortKey a ≤ sortKey b).map sortKey).Nodup :=
    ((List.perm_insertionSort _ l).map sortKey).nodup_iff.mpr h
  exact (hsorted.and hnodup).imp fun h => lt_of_le_of_ne h.1 h.2

/-- **A reading that agrees on ties does not show the order of the entries.** -/
theorem map_insertionSort_of_perm {f : α → β} {l l' : List α} (h : l.Perm l')
    (hf : ∀ a ∈ l, ∀ b ∈ l, sortKey a = sortKey b → f a = f b) :
    (l.insertionSort fun a b => sortKey a ≤ sortKey b).map f =
      (l'.insertionSort fun a b => sortKey a ≤ sortKey b).map f := by
  refine map_congr_of_map_eq (map_key_insertionSort h) fun a ha b hb => ?_
  rw [List.mem_insertionSort] at ha hb
  exact hf a ha b (h.mem_iff.mpr hb)

/-- Two entries with equal keys come out in the order in which they went in. -/
theorem insertionSort_swap {a b : α} (h : sortKey a = sortKey b) (l : List α) :
    ∃ before after,
      ((a :: b :: l).insertionSort fun a b => sortKey a ≤ sortKey b) =
        before ++ a :: b :: after ∧
      ((b :: a :: l).insertionSort fun a b => sortKey a ≤ sortKey b) =
        before ++ b :: a :: after := by
  generalize hS : (l.insertionSort fun a b => sortKey a ≤ sortKey b) = S
  -- the entries that stand before both
  let p : α → Bool := fun x => ¬ sortKey b ≤ sortKey x
  have hp : ∀ {c : α}, sortKey c = sortKey b → (fun x => decide ¬ sortKey c ≤ sortKey x) = p :=
    fun hc => funext fun x => decide_eq_decide.mpr (by rw [hc])
  have hbefore : ∀ x ∈ S.takeWhile p, p x = true := fun x hx => List.mem_takeWhile_imp hx
  have hinsert : ∀ {c d : α}, sortKey c = sortKey b → sortKey d = sortKey b →
      ((c :: d :: l).insertionSort fun a b => sortKey a ≤ sortKey b) =
        S.takeWhile p ++ c :: d :: S.dropWhile p := by
    intro c d hc hd
    have hstop : ¬ p d = true := by
      simp [p, hd]
    rw [List.insertionSort_cons_eq_take_drop, List.insertionSort_cons_eq_take_drop, hS, hp hc, hp hd,
      List.takeWhile_append_of_pos hbefore, List.dropWhile_append_of_pos hbefore,
      List.takeWhile_cons_of_neg hstop, List.dropWhile_cons_of_neg hstop, List.append_nil]
  exact ⟨S.takeWhile p, S.dropWhile p, hinsert h rfl, hinsert rfl h⟩

/-- **What is read off a sorted list does not show the order of the entries exactly when entries
with equal keys read the same.** -/
theorem map_insertionSort_perm_iff {f : α → β} {l : List α} :
    (∀ l₁ l₂ : List α, l₁.Perm l → l₂.Perm l →
        (l₁.insertionSort fun a b => sortKey a ≤ sortKey b).map f =
          (l₂.insertionSort fun a b => sortKey a ≤ sortKey b).map f) ↔
      ∀ a ∈ l, ∀ b ∈ l, sortKey a = sortKey b → f a = f b := by
  classical
  constructor
  · intro hsame a ha b hb hkey
    by_cases hab : a = b
    · rw [hab]
    · have hb' : b ∈ l.erase a := (List.mem_erase_of_ne (Ne.symm hab)).mpr hb
      have hperm : (a :: b :: (l.erase a).erase b).Perm l :=
        ((List.perm_cons_erase hb').symm.cons a).trans (List.perm_cons_erase ha).symm
      obtain ⟨before, after, h₁, h₂⟩ := insertionSort_swap hkey ((l.erase a).erase b)
      have heq := hsame _ _ hperm ((List.Perm.swap a b _).trans hperm)
      rw [h₁, h₂, List.map_append, List.map_append, List.append_cancel_left_eq] at heq
      exact (List.cons.inj heq).1
  · intro hf l₁ l₂ h₁ h₂
    refine map_insertionSort_of_perm (h₁.trans h₂.symm) fun a ha b hb => ?_
    exact hf a (h₁.mem_iff.mp ha) b (h₁.mem_iff.mp hb)

/-! ## Positions -/

omit [DecidableRel fun a b : α => sortKey a ≤ sortKey b] in
/-- In a list with increasing keys an entry has as many entries before it as have smaller keys. -/
theorem findIdx_eq_countP {p : α → Bool} {a : α} :
    ∀ {l : List α}, (l.Pairwise fun b c => sortKey b < sortKey c) → a ∈ l →
      (∀ b ∈ l, p b = true ↔ sortKey b = sortKey a) →
        l.findIdx p = l.countP fun b => sortKey b < sortKey a
  | b :: l, hl, ha, hp => by
    obtain ⟨hb, hl⟩ := List.pairwise_cons.mp hl
    have hpb := hp b List.mem_cons_self
    by_cases hkey : sortKey b = sortKey a
    · have hafter : ∀ c ∈ l, ¬ decide (sortKey c < sortKey a) = true := by
        intro c hc
        rw [decide_eq_true_eq, ← hkey]
        exact not_lt_of_gt (hb c hc)
      rw [List.findIdx_cons, hpb.mpr hkey, List.countP_cons_of_neg (by simp [hkey]),
        List.countP_eq_zero.mpr hafter]
      rfl
    · have hmem : a ∈ l :=
        (List.mem_cons.mp ha).resolve_left fun h => hkey (congrArg sortKey h.symm)
      have hfalse : p b = false := Bool.eq_false_iff.mpr fun h => hkey (hpb.mp h)
      have ih := findIdx_eq_countP hl hmem fun c hc => hp c (List.mem_cons_of_mem _ hc)
      rw [List.findIdx_cons, hfalse, List.countP_cons_of_pos (by simp [hb a hmem]), ih]
      rfl

/-- **How far back an entry stands is how many entries have smaller keys.** -/
theorem findIdx_insertionSort {p : α → Bool} {a : α} {l : List α} (hkeys : (l.map sortKey).Nodup)
    (ha : a ∈ l) (hp : ∀ b ∈ l, p b = true ↔ sortKey b = sortKey a) :
    (l.insertionSort fun a b => sortKey a ≤ sortKey b).findIdx p =
      l.countP fun b => sortKey b < sortKey a := by
  have hperm := List.perm_insertionSort (fun a b => sortKey a ≤ sortKey b) l
  have htotal : Std.Total fun a b : α => sortKey a ≤ sortKey b :=
    ⟨fun a b => le_total (sortKey a) (sortKey b)⟩
  have htrans : IsTrans α fun a b => sortKey a ≤ sortKey b := ⟨fun _ _ _ => le_trans⟩
  have hdistinct : (l.insertionSort fun a b => sortKey a ≤ sortKey b).Pairwise
      fun a b => sortKey a ≠ sortKey b :=
    List.pairwise_map.mp ((hperm.map sortKey).nodup_iff.mpr hkeys)
  have hsorted : (l.insertionSort fun a b => sortKey a ≤ sortKey b).Pairwise
      fun a b => sortKey a < sortKey b :=
    (List.pairwise_insertionSort _ l).imp₂ (fun _ _ => lt_of_le_of_ne) hdistinct
  rw [findIdx_eq_countP hsorted (hperm.mem_iff.mpr ha) fun b hb => hp b (hperm.mem_iff.mp hb)]
  exact hperm.countP_eq _

omit [DecidableRel fun a b : α => sortKey a ≤ sortKey b] in
/-- Fewer entries have keys above a greater bound. -/
theorem countP_lt_antitone {k k' : κ} (h : k ≤ k') (l : List α) :
    (l.countP fun b => k' < sortKey b) ≤ l.countP fun b => k < sortKey b :=
  List.countP_mono_left fun _ _ hlt => decide_eq_true (h.trans_lt (of_decide_eq_true hlt))

/-! ## Ties -/

section Ties

variable {r : α → α → Prop} [DecidableRel r]

/-- **Entries that tie with each other keep their order.** -/
theorem filter_insertionSort {p : α → Bool} (h : ∀ a b, p a = true → p b = true → r a b)
    (l : List α) : (l.insertionSort r).filter p = l.filter p := by
  have hties : (l.filter p).Pairwise r :=
    List.pairwise_of_forall_mem_list fun a ha b hb =>
      h a b (List.of_mem_filter ha) (List.of_mem_filter hb)
  have hsublist : (l.filter p).Sublist (l.insertionSort r) :=
    List.sublist_insertionSort hties List.filter_sublist
  have hkept : ((l.filter p).filter p).Sublist ((l.insertionSort r).filter p) := hsublist.filter p
  rw [List.filter_filter] at hkept
  simp only [Bool.and_self] at hkept
  have hlength : (l.filter p).length = ((l.insertionSort r).filter p).length :=
    ((List.perm_insertionSort r l).filter p).length_eq.symm
  exact (hkept.eq_of_length hlength).symm

end Ties

end StableSort
