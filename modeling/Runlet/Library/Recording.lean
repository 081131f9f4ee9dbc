import Mathlib.Data.List.Basic

/-!
# Programs that record what they learn

A program asks its surroundings one question after the other.  Each answer may depend on all that
was asked before, and is recorded; a question may also raise, which ends the program.

`bind_eq_ok_iff` takes a run of two programs apart, and `ask_eq_ok_iff` says what a question that
was answered leaves.
-/

namespace Runlet

/-- A program with events `ε`: from the events so far, how it ends and the events afterwards. -/
def Recording (ε α : Type) :=
  List ε → Except String α × List ε

namespace Recording

variable {ε α β : Type}

instance : Monad (Recording ε) where
  pure a := fun events => (.ok a, events)
  bind x f := fun events =>
    match x events with
    | (.ok a, events') => f a events'
    | (.error e, events') => (.error e, events')

def raise (message : String) : Recording ε α :=
  fun events => (.error message, events)

/-- A question: it is recorded with its answer. -/
def ask (answer : List ε → Except String α) (event : α → ε) : Recording ε α :=
  fun events =>
    match answer events with
    | .ok a => (.ok a, events ++ [event a])
    | .error e => (.error e, events)

variable {events events' : List ε}

theorem pure_eq_ok_iff {a b : α} :
    (pure a : Recording ε α) events = (.ok b, events') ↔ a = b ∧ events = events' := by
  change ((.ok a : Except String α), events) = (.ok b, events') ↔ _
  rw [Prod.mk.injEq, Except.ok.injEq]

theorem bind_eq_ok_iff {x : Recording ε α} {f : α → Recording ε β} {b : β} :
    (x >>= f) events = (.ok b, events') ↔
      ∃ a between, x events = (.ok a, between) ∧ f a between = (.ok b, events') := by
  change (match x events with
    | (.ok a, between) => f a between
    | (.error e, between) => (.error e, between)) = _ ↔ _
  rcases x events with ⟨_ | a, between⟩
  · exact iff_of_false (fun h => nomatch h) fun ⟨_, _, h, _⟩ => nomatch h
  · constructor
    · exact fun h => ⟨a, between, rfl, h⟩
    · rintro ⟨a', between', h, hf⟩
      obtain ⟨ha, rfl⟩ := Prod.mk.inj h
      obtain rfl := Except.ok.inj ha
      exact hf

theorem ask_eq_ok_iff {answer : List ε → Except String α} {event : α → ε} {a : α} :
    ask answer event events = (.ok a, events') ↔
      answer events = .ok a ∧ events' = events ++ [event a] := by
  unfold ask
  cases answer events with
  | error e => exact iff_of_false (fun h => nomatch h) fun h => nomatch h.1
  | ok a' =>
    rw [Prod.mk.injEq, Except.ok.injEq]
    constructor
    · rintro ⟨rfl, h⟩
      exact ⟨rfl, h.symm⟩
    · rintro ⟨rfl, h⟩
      exact ⟨rfl, h.symm⟩

end Recording
end Runlet
