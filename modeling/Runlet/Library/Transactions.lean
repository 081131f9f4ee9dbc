import Mathlib.Data.List.Basic

/-!
# Transactions

A session sees what its transaction has written (`pending`) on top of what is durable
(`committed`).  Any statement may raise, and what it has written by then stays in the transaction.
A `transaction` commits at the end of its body, and rolls back when the body or the commit raises.

* `KeepsCommitted`: an action that only writes to the transaction.  It is closed under sequencing.
* `committed_of_error`: a transaction that raises has made nothing durable.
* `transaction_eq_ok`: one that returns has made durable exactly what its body wrote.
-/

namespace Transactions

structure Session (σ : Type*) where
  committed : σ
  pending : σ

/-- A session whose transaction has written nothing. -/
def Session.opened {σ : Type*} (s : σ) : Session σ := ⟨s, s⟩

/-- A raise that a statement is made to meet, and what it has written by then. -/
structure Fault (σ ε : Type*) where
  written : σ → σ
  error : ε

/-- What a piece of code does in a session. -/
def Action (σ ε α : Type) : Type :=
  Session σ → Session σ × Except ε α

variable {σ ε α β : Type}

instance : Monad (Action σ ε) where
  pure a := fun s => (s, .ok a)
  bind x f := fun s =>
    match x s with
    | (s', .ok a) => f a s'
    | (s', .error e) => (s', .error e)

def raise (e : ε) : Action σ ε α :=
  fun s => (s, .error e)

/-- A statement of the transaction. -/
def statement (fault : Option (Fault σ ε)) (f : σ → σ × α) : Action σ ε α := fun s =>
  match fault with
  | some fault => ({ s with pending := fault.written s.pending }, .error fault.error)
  | none => ({ s with pending := (f s.pending).1 }, .ok (f s.pending).2)

def commit (fault : Option (Fault σ ε)) : Action σ ε Unit := fun s =>
  match fault with
  | some fault => ({ s with pending := fault.written s.pending }, .error fault.error)
  | none => (⟨s.pending, s.pending⟩, .ok ())

def rollback (fault : Option (Fault σ ε)) : Action σ ε Unit := fun s =>
  match fault with
  | some fault => ({ s with pending := fault.written s.pending }, .error fault.error)
  | none => (⟨s.committed, s.committed⟩, .ok ())

/-- `try: body; commit` with `except: rollback; raise`. -/
def transaction (body : Action σ ε α) (commitFault rollbackFault : Option (Fault σ ε)) :
    Action σ ε α := fun s =>
  match (do let a ← body; commit commitFault; pure a : Action σ ε α) s with
  | (s', .ok a) => (s', .ok a)
  | (s', .error e) => (do rollback rollbackFault; raise e : Action σ ε α) s'

/-! ## What stays committed -/

/-- An action that makes nothing durable. -/
def KeepsCommitted (x : Action σ ε α) : Prop :=
  ∀ s, (x s).1.committed = s.committed

theorem keepsCommitted_pure (a : α) : KeepsCommitted (pure a : Action σ ε α) := fun _ => rfl

theorem keepsCommitted_raise (e : ε) : KeepsCommitted (raise e : Action σ ε α) := fun _ => rfl

theorem keepsCommitted_statement (fault : Option (Fault σ ε)) (f : σ → σ × α) :
    KeepsCommitted (statement fault f) := by
  intro s
  cases fault <;> rfl

theorem keepsCommitted_rollback (fault : Option (Fault σ ε)) : KeepsCommitted (rollback fault) := by
  intro s
  cases fault <;> rfl

theorem KeepsCommitted.bind {x : Action σ ε α} {f : α → Action σ ε β} (hx : KeepsCommitted x)
    (hf : ∀ a, KeepsCommitted (f a)) : KeepsCommitted (x >>= f) := by
  intro s
  have hfirst := hx s
  change (match x s with
    | (s', .ok a) => f a s'
    | (s', .error e) => (s', .error e)).1.committed = s.committed
  rcases hrun : x s with ⟨s', outcome⟩
  rw [hrun] at hfirst
  cases outcome with
  | ok a => exact (hf a s').trans hfirst
  | error e => exact hfirst

theorem KeepsCommitted.ite {p : Prop} [Decidable p] {x y : Action σ ε α} (hx : KeepsCommitted x)
    (hy : KeepsCommitted y) : KeepsCommitted (if p then x else y) := by
  split
  · exact hx
  · exact hy

/-! ## Outcomes -/

theorem bind_eq_ok_iff {x : Action σ ε α} {f : α → Action σ ε β} {s s' : Session σ} {b : β} :
    (x >>= f) s = (s', .ok b) ↔ ∃ s₁ a, x s = (s₁, .ok a) ∧ f a s₁ = (s', .ok b) := by
  change (match x s with
    | (s₁, .ok a) => f a s₁
    | (s₁, .error e) => (s₁, .error e)) = (s', .ok b) ↔ _
  rcases hrun : x s with ⟨s₁, outcome⟩
  cases outcome with
  | ok a =>
    constructor
    · exact fun h => ⟨s₁, a, rfl, h⟩
    · rintro ⟨s₂, a', heq, h⟩
      cases heq
      exact h
  | error e =>
    constructor
    · intro h
      cases h
    · rintro ⟨s₂, a, heq, -⟩
      cases heq

theorem statement_eq_ok_iff {fault : Option (Fault σ ε)} {f : σ → σ × α} {s s' : Session σ}
    {a : α} :
    statement fault f s = (s', .ok a) ↔
      fault = none ∧ s' = { s with pending := (f s.pending).1 } ∧ a = (f s.pending).2 := by
  cases fault with
  | some fault =>
    constructor
    · intro h
      cases h
    · rintro ⟨h, -⟩
      cases h
  | none =>
    constructor
    · intro h
      cases h
      exact ⟨rfl, rfl, rfl⟩
    · rintro ⟨-, rfl, rfl⟩
      rfl

theorem pure_eq_ok_iff {s s' : Session σ} {a b : α} :
    (pure a : Action σ ε α) s = (s', .ok b) ↔ s' = s ∧ b = a := by
  constructor
  · intro h
    cases h
    exact ⟨rfl, rfl⟩
  · rintro ⟨rfl, rfl⟩
    rfl

section Transaction

variable {body : Action σ ε α} {commitFault rollbackFault : Option (Fault σ ε)} {s s' : Session σ}

/-- **A transaction that returns has made durable what its body wrote.** -/
theorem transaction_eq_ok {a : α}
    (h : transaction body commitFault rollbackFault s = (s', .ok a)) :
    ∃ s₁, body s = (s₁, .ok a) ∧ s' = Session.opened s₁.pending := by
  unfold transaction at h
  split at h
  next s₂ b hrun =>
    obtain ⟨rfl, rfl⟩ : s₂ = s' ∧ b = a := by
      cases h
      exact ⟨rfl, rfl⟩
    obtain ⟨s₁, b, hbody, hrest⟩ := bind_eq_ok_iff.mp hrun
    obtain ⟨s₂, u, hcommit, hpure⟩ := bind_eq_ok_iff.mp hrest
    obtain ⟨rfl, rfl⟩ := pure_eq_ok_iff.mp hpure
    refine ⟨s₁, hbody, ?_⟩
    cases commitFault with
    | some fault => cases hcommit
    | none =>
      cases hcommit
      rfl
  next s₂ e hrun =>
    obtain ⟨s₃, u, -, hraise⟩ := bind_eq_ok_iff.mp h
    cases hraise

theorem transaction_of_ok {a : α} {s₁ : Session σ} (h : body s = (s₁, .ok a)) :
    transaction body none rollbackFault s = (Session.opened s₁.pending, .ok a) := by
  unfold transaction
  rw [bind_eq_ok_iff.mpr ⟨s₁, a, h, rfl⟩]
  rfl

/-- **A transaction that raises has made nothing durable.** -/
theorem committed_of_error (hbody : KeepsCommitted body) {e : ε}
    (h : transaction body commitFault rollbackFault s = (s', .error e)) :
    s'.committed = s.committed := by
  unfold transaction at h
  split at h
  next s₂ b hrun => cases h
  next s₂ e' hrun =>
    have hkeeps : KeepsCommitted (rollback rollbackFault >>= fun _ => (raise e' : Action σ ε α)) :=
      (keepsCommitted_rollback rollbackFault).bind fun _ => keepsCommitted_raise e'
    have hrolled := hkeeps s₂
    rw [h] at hrolled
    refine hrolled.trans ?_
    -- the commit raised, or the body did
    change (match body s with
      | (s₁, .ok a) => (do commit commitFault; pure a : Action σ ε α) s₁
      | (s₁, .error e) => (s₁, .error e)) = (s₂, .error e') at hrun
    have hkept := hbody s
    rcases hfirst : body s with ⟨s₁, outcome⟩
    rw [hfirst] at hkept hrun
    cases outcome with
    | error e₁ =>
      cases hrun
      exact hkept
    | ok a =>
      cases commitFault with
      | some fault =>
        cases hrun
        exact hkept
      | none => cases hrun

end Transaction

end Transactions
