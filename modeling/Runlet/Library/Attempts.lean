import Mathlib.Data.List.Forall2

/-!
# Attempts

What is known of a computation in `Except` that came to its end: each of its parts did.
`bind_eq_ok_iff` takes two steps apart, `mapM_eq_ok_iff` a loop that collects, and `foldlM_invariant`
is the rule for a loop that carries a state.
-/

namespace Attempt

universe u

variable {ε ε' α β σ : Type u}

theorem bind_eq_ok_iff {x : Except ε α} {f : α → Except ε β} {b : β} :
    x >>= f = .ok b ↔ ∃ a, x = .ok a ∧ f a = .ok b := by
  cases x with
  | error e => exact iff_of_false (fun h => by cases h) fun ⟨a, h, _⟩ => by cases h
  | ok a =>
    constructor
    · exact fun h => ⟨a, rfl, h⟩
    · rintro ⟨a', ha, h⟩
      rw [Except.ok.inj ha]
      exact h

theorem exists_bind_eq_ok_iff {x : Except ε α} {f : α → Except ε β} :
    (∃ b, x >>= f = .ok b) ↔ ∃ a, x = .ok a ∧ ∃ b, f a = .ok b := by
  simp only [bind_eq_ok_iff, ← exists_and_left]
  exact exists_comm

theorem map_eq_ok_iff {x : Except ε α} {f : α → β} {b : β} :
    x.map f = .ok b ↔ ∃ a, x = .ok a ∧ f a = b := by
  cases x with
  | error e => exact iff_of_false (fun h => by cases h) fun ⟨a, h, _⟩ => by cases h
  | ok a =>
    constructor
    · exact fun h => ⟨a, rfl, Except.ok.inj h⟩
    · rintro ⟨a', ha, rfl⟩
      rw [Except.ok.inj ha]
      rfl

theorem mapError_eq_ok_iff {x : Except ε α} {f : ε → ε'} {a : α} :
    x.mapError f = .ok a ↔ x = .ok a := by
  cases x with
  | error e => exact iff_of_false (fun h => by cases h) fun h => by cases h
  | ok a =>
    exact ⟨fun h => congrArg Except.ok (Except.ok.inj h),
      fun h => congrArg Except.ok (Except.ok.inj h)⟩

/-! ## Loops -/

/-- A loop that collects comes to its end exactly when each turn does. -/
theorem mapM_eq_ok_iff {f : α → Except ε β} {l : List α} {l' : List β} :
    l.mapM f = .ok l' ↔ List.Forall₂ (fun a b => f a = .ok b) l l' := by
  induction l generalizing l' with
  | nil =>
    rw [List.mapM_nil, List.forall₂_nil_left_iff]
    exact ⟨fun h => (Except.ok.inj h).symm, fun h => h ▸ rfl⟩
  | cons a l ih =>
    rw [List.mapM_cons, bind_eq_ok_iff, List.forall₂_cons_left_iff]
    refine exists_congr fun b => ?_
    constructor
    · rintro ⟨ha, h⟩
      obtain ⟨bs, hbs, h⟩ := bind_eq_ok_iff.mp h
      exact ⟨bs, ha, ih.mp hbs, (Except.ok.inj h).symm⟩
    · rintro ⟨bs, ha, hbs, rfl⟩
      exact ⟨ha, bind_eq_ok_iff.mpr ⟨bs, ih.mpr hbs, rfl⟩⟩

theorem exists_mapM_iff {f : α → Except ε β} {l : List α} :
    (∃ l', l.mapM f = .ok l') ↔ ∀ a ∈ l, ∃ b, f a = .ok b := by
  simp only [mapM_eq_ok_iff]
  induction l with
  | nil => simp
  | cons a l ih =>
    rw [List.forall_mem_cons, ← ih]
    constructor
    · rintro ⟨l', h⟩
      cases h with
      | cons ha hl => exact ⟨⟨_, ha⟩, _, hl⟩
    · rintro ⟨⟨b, ha⟩, l', hl⟩
      exact ⟨b :: l', .cons ha hl⟩

/-- Each result of a loop comes from one of its turns. -/
theorem exists_of_mem_mapM {f : α → Except ε β} {l : List α} {l' : List β}
    (h : l.mapM f = .ok l') {b : β} (hb : b ∈ l') : ∃ a ∈ l, f a = .ok b := by
  obtain ⟨i, hi⟩ := List.getElem?_of_mem hb
  have hall := List.forall₂_iff_get.mp (mapM_eq_ok_iff.mp h)
  obtain ⟨hlt, hget⟩ := List.getElem?_eq_some_iff.mp hi
  refine ⟨l.get ⟨i, hall.1 ▸ hlt⟩, List.get_mem _ _, ?_⟩
  rw [← hget]
  exact hall.2 i (hall.1 ▸ hlt) hlt

/-- Each turn of a loop leaves its result. -/
theorem exists_mem_of_mapM {f : α → Except ε β} {l : List α} {l' : List β}
    (h : l.mapM f = .ok l') {a : α} (ha : a ∈ l) : ∃ b ∈ l', f a = .ok b := by
  induction mapM_eq_ok_iff.mp h with
  | nil => exact absurd ha List.not_mem_nil
  | cons hab _ ih =>
    rename_i a' b l l' htail
    rcases List.mem_cons.mp ha with rfl | ha
    · exact ⟨b, List.mem_cons_self, hab⟩
    · obtain ⟨b', hb', hf⟩ := ih (mapM_eq_ok_iff.mpr htail) ha
      exact ⟨b', List.mem_cons_of_mem b hb', hf⟩

/-- What each turn keeps holds after a loop. -/
theorem foldlM_invariant {p : σ → Prop} {f : σ → α → Except ε σ} {l : List α}
    (hstep : ∀ s, ∀ a ∈ l, ∀ s', p s → f s a = .ok s' → p s') {s s' : σ} (hs : p s)
    (h : l.foldlM f s = .ok s') : p s' := by
  induction l generalizing s with
  | nil =>
    rw [← Except.ok.inj h]
    exact hs
  | cons a l ih =>
    obtain ⟨s₁, ha, hl⟩ := bind_eq_ok_iff.mp (List.foldlM_cons.symm.trans h)
    exact ih (fun s b hb => hstep s b (List.mem_cons_of_mem a hb))
      (hstep s a List.mem_cons_self s₁ hs ha) hl

end Attempt
