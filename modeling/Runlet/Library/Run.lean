import Mathlib.Data.List.Basic

/-!
# Runs of a step function

A run feeds a list of inputs to a step function, one after the other.  Since a prefix of a run is
a run, a statement about the last state of every run is a statement about every state that is
reached.

* `Run.final`: the last state.
* `Run.Along P`: `P` holds at every step, of the state before it and the input it reads.
* `Run.invariant`, `Run.invariant_of_along`: what every step preserves, every run preserves.
* `Run.along_of_along`, `Run.along_of_invariant`: a property of single steps that an invariant
  implies holds along the run.
* `Run.foldl_prefix`: an invariant of a loop that mentions the inputs read so far.
-/

namespace Run

variable {σ ι : Type*} (step : σ → ι → σ)

/-- The state after the whole run. -/
def final (s : σ) (inputs : List ι) : σ :=
  inputs.foldl step s

@[simp] theorem final_nil (s : σ) : final step s [] = s := rfl

@[simp] theorem final_cons (s : σ) (i : ι) (l : List ι) :
    final step s (i :: l) = final step (step s i) l := rfl

theorem final_append (s : σ) (l l' : List ι) :
    final step s (l ++ l') = final step (final step s l) l' :=
  List.foldl_append

/-- `P` holds at every step of the run. -/
def Along (P : σ → ι → Prop) : σ → List ι → Prop
  | _, [] => True
  | s, i :: l => P s i ∧ Along P (step s i) l

variable {step}

@[simp] theorem along_nil {P : σ → ι → Prop} {s : σ} : Along step P s [] := trivial

@[simp] theorem along_cons {P : σ → ι → Prop} {s : σ} {i : ι} {l : List ι} :
    Along step P s (i :: l) ↔ P s i ∧ Along step P (step s i) l := Iff.rfl

theorem along_append {P : σ → ι → Prop} {s : σ} {l l' : List ι} :
    Along step P s (l ++ l') ↔ Along step P s l ∧ Along step P (final step s l) l' := by
  induction l generalizing s with
  | nil => simp
  | cons i l ih =>
    rw [List.cons_append, along_cons, along_cons, ih, final_cons, and_assoc]

theorem Along.mono {P Q : σ → ι → Prop} (h : ∀ s i, P s i → Q s i) {s : σ} {l : List ι}
    (hP : Along step P s l) : Along step Q s l := by
  induction l generalizing s with
  | nil => trivial
  | cons i l ih => exact ⟨h s i hP.1, ih hP.2⟩

instance instDecidableAlong {P : σ → ι → Prop} [∀ s i, Decidable (P s i)] :
    ∀ (s : σ) (l : List ι), Decidable (Along step P s l)
  | _, [] => isTrue trivial
  | s, i :: l =>
    have := instDecidableAlong (P := P) (step s i) l
    inferInstanceAs (Decidable (P s i ∧ Along step P (step s i) l))

/-- What every guarded step preserves, every guarded run preserves. -/
theorem invariant_of_along {I : σ → Prop} {C : σ → ι → Prop}
    (hstep : ∀ s i, I s → C s i → I (step s i)) {s : σ} {l : List ι} (hs : I s)
    (hC : Along step C s l) : I (final step s l) := by
  induction l generalizing s with
  | nil => exact hs
  | cons i l ih => exact ih (hstep s i hs hC.1) hC.2

/-- What every step preserves, every run preserves. -/
theorem invariant {I : σ → Prop} (hstep : ∀ s i, I s → I (step s i)) {s : σ} (l : List ι)
    (hs : I s) : I (final step s l) := by
  induction l generalizing s with
  | nil => exact hs
  | cons i l ih => exact ih (hstep s i hs)

/-- A property of single steps that follows from an invariant holds along the run. -/
theorem along_of_along {I : σ → Prop} {C P : σ → ι → Prop}
    (hstep : ∀ s i, I s → C s i → I (step s i)) (hP : ∀ s i, I s → C s i → P s i) {s : σ}
    {l : List ι} (hs : I s) (hC : Along step C s l) : Along step P s l := by
  induction l generalizing s with
  | nil => trivial
  | cons i l ih => exact ⟨hP s i hs hC.1, ih (hstep s i hs hC.1) hC.2⟩

/-- What holds of every step out of an invariant holds along every run. -/
theorem along_of_invariant {I : σ → Prop} {P : σ → ι → Prop}
    (hstep : ∀ s i, I s → I (step s i)) (hP : ∀ s i, I s → P s i) {s : σ} (l : List ι)
    (hs : I s) : Along step P s l := by
  induction l generalizing s with
  | nil => trivial
  | cons i l ih => exact ⟨hP s i hs, ih (hstep s i hs)⟩

/-- Two properties of steps that agree under an invariant agree along the run. -/
theorem along_congr {I : σ → Prop} {P Q : σ → ι → Prop}
    (hstep : ∀ s i, I s → I (step s i)) (hPQ : ∀ s i, I s → (P s i ↔ Q s i)) {s : σ}
    {l : List ι} (hs : I s) : Along step P s l ↔ Along step Q s l := by
  induction l generalizing s with
  | nil => exact Iff.rfl
  | cons i l ih => exact and_congr (hPQ s i hs) (ih (hstep s i hs))

/-- An invariant of a loop that mentions the inputs read so far. -/
theorem foldl_prefix (f : σ → ι → σ) {I : List ι → σ → Prop}
    (hstep : ∀ done i s, I done s → I (done ++ [i]) (f s i)) {done : List ι} {s : σ}
    (l : List ι) (hs : I done s) : I (done ++ l) (l.foldl f s) := by
  induction l generalizing done s with
  | nil => simpa using hs
  | cons i l ih =>
    have h := ih (hstep done i s hs)
    rwa [List.append_assoc, List.singleton_append] at h

end Run
