import Mathlib.Data.List.Basic

/-!
# Loops with an early exit

A loop takes one input after the other, carries a state along and gives an output for each; it ends
with the first output that stops it.  The outputs are then those of the first few inputs, all but
the last of them let the loop go on, and the state is the one after the inputs that were taken.
-/

namespace Runlet
namespace EarlyExit

variable {σ α β : Type*} (f : σ → α → σ × β) (stops : β → Bool)

/-- The loop. -/
def run : σ → List α → σ × List β
  | s, [] => (s, [])
  | s, a :: l =>
    if stops (f s a).2 then ((f s a).1, [(f s a).2])
    else ((run (f s a).1 l).1, (f s a).2 :: (run (f s a).1 l).2)

/-- The state after inputs that were all taken. -/
def reached (s : σ) (l : List α) : σ :=
  l.foldl (fun s a => (f s a).1) s

@[simp] theorem reached_nil (s : σ) : reached f s [] = s := rfl

@[simp] theorem reached_cons (s : σ) (a : α) (l : List α) :
    reached f s (a :: l) = reached f (f s a).1 l := rfl

theorem reached_concat (s : σ) (l : List α) (a : α) :
    reached f s (l ++ [a]) = (f (reached f s l) a).1 := by
  unfold reached
  rw [List.foldl_append]
  rfl

variable {f stops}

theorem run_cons_of_stops {s : σ} {a : α} (h : stops (f s a).2 = true) (l : List α) :
    run f stops s (a :: l) = ((f s a).1, [(f s a).2]) := by
  rw [run, if_pos h]

theorem run_cons_of_not_stops {s : σ} {a : α} (h : ¬stops (f s a).2 = true) (l : List α) :
    run f stops s (a :: l) =
      ((run f stops (f s a).1 l).1, (f s a).2 :: (run f stops (f s a).1 l).2) := by
  rw [run, if_neg h]

/-- There is at most one output for each input. -/
theorem length_run_le (s : σ) (l : List α) : (run f stops s l).2.length ≤ l.length := by
  induction l generalizing s with
  | nil => exact Nat.le_refl _
  | cons a l ih =>
    by_cases h : stops (f s a).2 = true
    · rw [run_cons_of_stops h]
      exact Nat.succ_le_succ (Nat.zero_le _)
    · rw [run_cons_of_not_stops h]
      exact Nat.succ_le_succ (ih _)

/-- An output is the one of the input in its place, in the state that was reached there. -/
theorem getElem?_run (s : σ) (l : List α) {i : ℕ} {b : β}
    (h : (run f stops s l).2[i]? = some b) :
    ∃ a, l[i]? = some a ∧ b = (f (reached f s (l.take i)) a).2 := by
  induction l generalizing s i with
  | nil => exact nomatch h
  | cons a l ih =>
    by_cases hs : stops (f s a).2 = true
    · rw [run_cons_of_stops hs] at h
      cases i with
      | zero => exact ⟨a, rfl, (Option.some.inj h).symm⟩
      | succ i => exact nomatch h
    · rw [run_cons_of_not_stops hs] at h
      cases i with
      | zero => exact ⟨a, rfl, (Option.some.inj h).symm⟩
      | succ i =>
        obtain ⟨a', ha', hb⟩ := ih _ h
        exact ⟨a', ha', hb⟩

/-- An input is taken when no input before it stops the loop. -/
theorem getElem?_run_of_not_stops (s : σ) (l : List α) {i : ℕ} {a : α} (ha : l[i]? = some a)
    (h : ∀ s', ∀ b ∈ l.take i, stops (f s' b).2 = false) :
    (run f stops s l).2[i]? = some (f (reached f s (l.take i)) a).2 := by
  induction l generalizing s i with
  | nil => exact nomatch ha
  | cons b l ih =>
    cases i with
    | zero =>
      obtain rfl : b = a := Option.some.inj ha
      by_cases hs : stops (f s b).2 = true
      · rw [run_cons_of_stops hs]
        rfl
      · rw [run_cons_of_not_stops hs]
        rfl
    | succ i =>
      have hb : ¬stops (f s b).2 = true := by
        rw [h s b List.mem_cons_self]
        exact Bool.false_ne_true
      rw [run_cons_of_not_stops hb]
      exact ih _ ha fun s' b' hb' => h s' b' (List.mem_cons_of_mem _ hb')

/-- The state at the end is the one after the inputs that have an output. -/
theorem run_fst (s : σ) (l : List α) :
    (run f stops s l).1 = reached f s (l.take (run f stops s l).2.length) := by
  induction l generalizing s with
  | nil => rfl
  | cons a l ih =>
    by_cases h : stops (f s a).2 = true
    · rw [run_cons_of_stops h]
      rfl
    · rw [run_cons_of_not_stops h]
      exact ih _

/-- Only the last output stops the loop. -/
theorem not_stops_of_lt (s : σ) (l : List α) {i : ℕ} {b : β}
    (hi : i + 1 < (run f stops s l).2.length) (h : (run f stops s l).2[i]? = some b) :
    stops b = false := by
  induction l generalizing s i with
  | nil => exact nomatch h
  | cons a l ih =>
    by_cases hs : stops (f s a).2 = true
    · rw [run_cons_of_stops hs] at hi
      exact absurd hi (by simp)
    · rw [run_cons_of_not_stops hs] at h hi
      cases i with
      | zero =>
        rw [← Option.some.inj h]
        exact Bool.eq_false_iff.mpr hs
      | succ i => exact ih _ (Nat.lt_of_succ_lt_succ hi) h

/-- A loop that is never stopped takes every input. -/
theorem length_run_of_not_stops (s : σ) (l : List α)
    (h : ∀ b ∈ (run f stops s l).2, stops b = false) :
    (run f stops s l).2.length = l.length := by
  induction l generalizing s with
  | nil => rfl
  | cons a l ih =>
    by_cases hs : stops (f s a).2 = true
    · rw [run_cons_of_stops hs] at h
      exact nomatch hs.symm.trans (h _ List.mem_cons_self)
    · rw [run_cons_of_not_stops hs] at h ⊢
      exact congrArg Nat.succ (ih _ fun b hb => h b (List.mem_cons_of_mem _ hb))

/-- A loop that left an input out was stopped. -/
theorem stops_getLast (s : σ) (l : List α) (h : (run f stops s l).2.length < l.length) :
    ∃ b, (run f stops s l).2.getLast? = some b ∧ stops b = true := by
  by_contra hnone
  refine absurd (length_run_of_not_stops s l ?_) (Nat.ne_of_lt h)
  intro b hb
  obtain ⟨i, hi, rfl⟩ := List.getElem_of_mem hb
  by_cases hlast : i + 1 < (run f stops s l).2.length
  · exact not_stops_of_lt s l hlast (List.getElem?_eq_getElem hi)
  · have hlen : (run f stops s l).2.length = i + 1 := by omega
    refine Bool.eq_false_iff.mpr fun hs => hnone ⟨_, ?_, hs⟩
    rw [List.getLast?_eq_getElem?, hlen]
    exact List.getElem?_eq_getElem hi

end EarlyExit
end Runlet
