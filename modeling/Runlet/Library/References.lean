import Mathlib.Data.List.Basic
import Mathlib.Tactic.Common

/-!
# Deleting rows that refer to each other

A row is known by its key and names the keys of other rows.  A delete is refused when a row it
leaves refers to a row it takes.

Deletes that are made one after the other take what a single one would take.  They are refused more
often, unless they are made in an order in which no row refers to a key that an earlier delete took:
then they go through exactly when the single one does (`deleteAll_eq_some_iff`).
-/

universe u

namespace References

/-- A row, as far as references go. -/
structure Entry (κ : Type u) where
  key : κ
  refs : List κ

variable {κ : Type u} {rows rows' : List (Entry κ)} {gone : κ → Bool}

/-- Every key that a row refers to is the key of a row. -/
def Consistent (rows : List (Entry κ)) : Prop :=
  ∀ e ∈ rows, ∀ k ∈ e.refs, k ∈ rows.map Entry.key

instance [DecidableEq κ] (rows : List (Entry κ)) : Decidable (Consistent rows) :=
  inferInstanceAs (Decidable (∀ e ∈ rows, _))

/-- No row that stays refers to a row that goes. -/
def Intact (gone : κ → Bool) (rows : List (Entry κ)) : Prop :=
  ∀ e ∈ rows, gone e.key = false → ∀ k ∈ e.refs, k ∈ rows.map Entry.key → gone k = false

instance [DecidableEq κ] (gone : κ → Bool) (rows : List (Entry κ)) :
    Decidable (Intact gone rows) :=
  inferInstanceAs (Decidable (∀ e ∈ rows, _))

/-- The rows that stay. -/
def remaining (gone : κ → Bool) (rows : List (Entry κ)) : List (Entry κ) :=
  rows.filter fun e => !gone e.key

theorem mem_remaining {e : Entry κ} :
    e ∈ remaining gone rows ↔ e ∈ rows ∧ gone e.key = false := by
  rw [remaining, List.mem_filter, Bool.not_eq_true']

theorem mem_keys_remaining {k : κ} :
    k ∈ (remaining gone rows).map Entry.key ↔ k ∈ rows.map Entry.key ∧ gone k = false := by
  constructor
  · intro h
    obtain ⟨e, he, rfl⟩ := List.mem_map.mp h
    obtain ⟨hmem, hstays⟩ := mem_remaining.mp he
    exact ⟨List.mem_map_of_mem hmem, hstays⟩
  · rintro ⟨h, hstays⟩
    obtain ⟨e, he, rfl⟩ := List.mem_map.mp h
    exact List.mem_map_of_mem (mem_remaining.mpr ⟨he, hstays⟩)

/-- **A delete that is not refused keeps every reference.** -/
theorem Consistent.remaining (h : Consistent rows) (hintact : Intact gone rows) :
    Consistent (remaining gone rows) := by
  intro e he k hk
  obtain ⟨hmem, hstays⟩ := mem_remaining.mp he
  have hkey := h e hmem k hk
  exact mem_keys_remaining.mpr ⟨hkey, hintact e hmem hstays k hk hkey⟩

/-! ## One delete after the other -/

section DeleteAll

variable [DecidableEq κ]

/-- A delete, unless it is refused. -/
def delete (gone : κ → Bool) (rows : List (Entry κ)) : Option (List (Entry κ)) :=
  if Intact gone rows then some (remaining gone rows) else none

def deleteAll (stages : List (κ → Bool)) (rows : List (Entry κ)) : Option (List (Entry κ)) :=
  stages.foldlM (fun rows gone => delete gone rows) rows

end DeleteAll

/-- What the deletes take together. -/
def goneInAny (stages : List (κ → Bool)) (k : κ) : Bool :=
  stages.any fun gone => gone k

/-- No row that a later delete takes refers to a key of an earlier one. -/
def Ordered (stages : List (κ → Bool)) (rows : List (Entry κ)) : Prop :=
  stages.Pairwise fun earlier later =>
    ∀ e ∈ rows, later e.key = true → ∀ k ∈ e.refs, earlier k = false

theorem Ordered.of_subset {stages : List (κ → Bool)} (h : Ordered stages rows)
    (hsub : rows' ⊆ rows) : Ordered stages rows' :=
  List.Pairwise.imp (fun hpair e he => hpair e (hsub he)) h

/-- The first of the deletes and the others. -/
theorem intact_goneInAny_cons {stages : List (κ → Bool)}
    (h : Ordered (gone :: stages) rows) :
    Intact (goneInAny (gone :: stages)) rows ↔
      Intact gone rows ∧ Intact (goneInAny stages) (remaining gone rows) := by
  obtain ⟨hfirst, -⟩ := List.pairwise_cons.mp h
  simp only [Intact, goneInAny, List.any_cons, Bool.or_eq_false_iff]
  constructor
  · intro hintact
    refine ⟨fun e he hstays k hk hkey => ?_, fun e he hstays k hk hkey => ?_⟩
    · -- a row that only a later delete takes does not refer to what the first one takes
      by_cases hlater : stages.any (fun later => later e.key) = true
      · obtain ⟨later, hmem, htakes⟩ := List.any_eq_true.mp hlater
        exact hfirst later hmem e he htakes k hk
      · exact (hintact e he ⟨hstays, Bool.not_eq_true _ ▸ hlater⟩ k hk hkey).1
    · obtain ⟨hmem, hkept⟩ := mem_remaining.mp he
      exact (hintact e hmem ⟨hkept, hstays⟩ k hk (mem_keys_remaining.mp hkey).1).2
  · rintro ⟨hintact, hrest⟩ e he ⟨hstays, hlater⟩ k hk hkey
    have hkept := hintact e he hstays k hk hkey
    exact ⟨hkept, hrest e (mem_remaining.mpr ⟨he, hstays⟩) hlater k hk
      (mem_keys_remaining.mpr ⟨hkey, hkept⟩)⟩

theorem remaining_goneInAny_cons (stages : List (κ → Bool)) :
    remaining (goneInAny (gone :: stages)) rows =
      remaining (goneInAny stages) (remaining gone rows) := by
  rw [remaining, remaining, remaining, List.filter_filter]
  refine List.filter_congr fun e _ => ?_
  rw [goneInAny, List.any_cons, Bool.not_or, Bool.and_comm]
  rfl

/-- **Deletes in a good order go through exactly when a single one does, and leave the same.** -/
theorem deleteAll_eq [DecidableEq κ] {stages : List (κ → Bool)} (h : Ordered stages rows) :
    deleteAll stages rows = delete (goneInAny stages) rows := by
  induction stages generalizing rows with
  | nil =>
    have hintact : Intact (goneInAny ([] : List (κ → Bool))) rows := fun _ _ _ _ _ _ => rfl
    have hremaining : remaining (goneInAny ([] : List (κ → Bool))) rows = rows :=
      List.filter_eq_self.mpr fun _ _ => rfl
    rw [delete, if_pos hintact, hremaining]
    rfl
  | cons gone stages ih =>
    have hrest : Ordered stages (remaining gone rows) :=
      Ordered.of_subset (List.pairwise_cons.mp h).2 fun _ he => (mem_remaining.mp he).1
    rw [deleteAll, List.foldlM_cons, delete, delete]
    by_cases hintact : Intact gone rows
    · rw [if_pos hintact, remaining_goneInAny_cons]
      refine (ih hrest).trans ?_
      rw [delete]
      refine if_congr ?_ rfl rfl
      rw [intact_goneInAny_cons h]
      exact (and_iff_right hintact).symm
    · rw [if_neg hintact, if_neg fun hall => hintact ((intact_goneInAny_cons h).mp hall).1]
      rfl

end References
