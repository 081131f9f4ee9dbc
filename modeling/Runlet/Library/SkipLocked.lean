import Mathlib.Logic.Function.Basic
import Runlet.Library.Run
import Runlet.Library.Table

/-!
# Claiming rows under skip-locked row locks

Any number of workers claim rows of one table.  A claim locks every open row that no other
transaction has locked, and takes one of them; what the worker then does with its row is a script
of transaction ends: it writes the row and commits, or it commits or rolls back without having
written it.  Every end of a transaction releases the worker's locks, and a write waits while
another worker holds the row.

The discipline that makes this safe is `Follows`: no transaction ends before the claimed row is
closed, and a closed row is never opened again.

* `Queue.step`: one event of the interleaving.
* `Settled`: the invariant.  An open row that was claimed is locked by the worker that has it.
* `Settled.step`, `Settled.final`: disciplined events keep it.
* `Settled.evolves_step`: under it a row only moves as its script says.
-/

open KeyedTable

namespace SkipLocked

variable {ω κ α : Type*} [DecidableEq ω] [DecidableEq κ] [Keyed κ α]

/-- One end of a transaction, by what it does to the claimed row. -/
inductive Op (α : Type*) {κ : Type*} [Keyed κ α] where
  /-- Write the row and commit. -/
  | write (f : α → α) (hf : ∀ a, key (f a) = key a)
  /-- Commit or roll back without having written the row. -/
  | release

/-- Which rows can be claimed, and which of several is taken. -/
structure Claims (α : Type*) where
  isOpen : α → Bool
  pick : List α → Option α
  mem_of_pick : ∀ {l a}, pick l = some a → a ∈ l

/-- The table, the locks, the work in hand, and the keys handed out so far. -/
structure Queue (ω : Type*) {κ : Type*} (α : Type*) [Keyed κ α] where
  rows : Table α
  locks : List (ω × κ)
  work : ω → Option (κ × List (Op α))
  claimed : List κ

/-- What can happen next. -/
inductive Event (ω : Type*) {κ : Type*} (α : Type*) [Keyed κ α] where
  /-- Some other transaction inserts a row. -/
  | insert (source : KeySource κ) (row : κ → α) (hrow : ∀ k, key (row k) = k)
  /-- A worker without work claims a row and is going to follow the script for it. -/
  | claim (worker : ω) (script : α → List (Op α))
  /-- A worker goes on with its script. -/
  | advance (worker : ω)
  /-- A worker dies, and its transaction is rolled back. -/
  | crash (worker : ω)

namespace Queue

variable (c : Claims α) (q : Queue ω α)

/-- A worker holds the row. -/
def Holds (worker : ω) (k : κ) : Prop :=
  (worker, k) ∈ q.locks

/-- The open rows that nobody has locked. -/
def free : List α :=
  q.rows.rows.filter fun a => c.isOpen a && !q.locks.any fun l => l.2 = key a

/-- The locks that stay when the transaction of a worker ends. -/
def unlocked (worker : ω) : List (ω × κ) :=
  q.locks.filter fun l => l.1 ≠ worker

/-- Another worker has locked the row. -/
def blocked (worker : ω) (k : κ) : Bool :=
  q.locks.any fun l => l.2 = k && l.1 ≠ worker

/-- The row a claim takes. -/
def next : Option α :=
  c.pick (q.free c)

def step : Event ω α → Queue ω α
  | .insert source row hrow => { q with rows := q.rows.insert source row hrow }
  | .claim worker script =>
    match q.work worker, q.next c with
    | none, some a =>
      { q with
        locks := q.locks ++ (q.free c).map fun b => (worker, key b)
        work := Function.update q.work worker (some (key a, script a))
        claimed := q.claimed ++ [key a] }
    | _, _ => q
  | .advance worker =>
    match q.work worker with
    | none => q
    | some (_, []) => { q with work := Function.update q.work worker none }
    | some (k, .release :: rest) =>
      { q with
        locks := q.unlocked worker
        work := Function.update q.work worker (some (k, rest)) }
    | some (k, .write f hf :: rest) =>
      if q.blocked worker k then q
      else
        { q with
          rows := q.rows.update (fun a => key a = k) f hf
          locks := q.unlocked worker
          work := Function.update q.work worker (some (k, rest)) }
  | .crash worker =>
    { q with
      locks := q.unlocked worker
      work := Function.update q.work worker none }

end Queue

variable {c : Claims α} {R : α → α → Prop}

/-- A script, from a given row on, moves the row within `R`, and ends no transaction while the row
is open. -/
def Follows (c : Claims α) (R : α → α → Prop) : α → List (Op α) → Prop
  | a, [] => c.isOpen a = false
  | a, .release :: rest => c.isOpen a = false ∧ Follows c R a rest
  | a, .write f _ :: rest => R a (f a) ∧ c.isOpen (f a) = false ∧ Follows c R (f a) rest

/-- An event that keeps the discipline: a claim follows it, and no worker dies with an open row. -/
def Disciplined (c : Claims α) (R : α → α → Prop) (q : Queue ω α) : Event ω α → Prop
  | .insert _ _ _ => True
  | .claim _ script => ∀ a, q.next c = some a → Follows c R a (script a)
  | .advance _ => True
  | .crash worker => ∀ k rest, q.work worker = some (k, rest) →
      ∀ a ∈ q.rows, key a = k → c.isOpen a = false

/-- The invariant of disciplined runs. -/
structure Settled (c : Claims α) (R : α → α → Prop) (q : Queue ω α) : Prop where
  exclusive : ∀ worker worker' k, q.Holds worker k → q.Holds worker' k → worker = worker'
  follows : ∀ worker k rest, q.work worker = some (k, rest) →
    ∃ a ∈ q.rows, key a = k ∧ Follows c R a rest ∧ (c.isOpen a = true → q.Holds worker k)
  alone : ∀ worker worker' k rest rest', q.work worker = some (k, rest) →
    q.work worker' = some (k, rest') → worker = worker'
  known : ∀ k ∈ q.claimed, ∃ a ∈ q.rows, key a = k
  taken : ∀ a ∈ q.rows, key a ∈ q.claimed → c.isOpen a = true →
    ∃ worker rest, q.work worker = some (key a, rest)
  once : q.claimed.Nodup

/-- A queue that no worker has touched yet. -/
structure Untouched (q : Queue ω α) : Prop where
  locks : q.locks = []
  work : ∀ worker, q.work worker = none
  claimed : q.claimed = []

/-- A row stays as it is, or moves within `R`. -/
def Keeps (R : α → α → Prop) (a b : α) : Prop :=
  b = a ∨ R a b

/-! ## Locks and rows -/

section Lemmas

variable {q : Queue ω α} {worker worker' : ω} {k : κ}

theorem Keeps.refl (a : α) : Keeps R a a := Or.inl rfl

omit [DecidableEq κ] [Keyed κ α] in
/-- Who has some work once the work of one worker is replaced. -/
theorem update_eq_some {β : Type*} {work : ω → Option β} {next : Option β} {b : β}
    (h : Function.update work worker next worker' = some b) :
    (worker' = worker ∧ next = some b) ∨ (worker' ≠ worker ∧ work worker' = some b) := by
  rcases eq_or_ne worker' worker with rfl | hne
  · rw [Function.update_self] at h
    exact Or.inl ⟨rfl, h⟩
  · rw [Function.update_of_ne hne] at h
    exact Or.inr ⟨hne, h⟩

omit [DecidableEq ω] in
theorem mem_free {a : α} :
    a ∈ q.free c ↔ a ∈ q.rows ∧ c.isOpen a = true ∧ ∀ worker, ¬ q.Holds worker (key a) := by
  rw [Queue.free, List.mem_filter, Bool.and_eq_true, Bool.not_eq_true', List.any_eq_false]
  refine and_congr Iff.rfl (and_congr Iff.rfl ⟨fun h worker hholds => ?_, fun h l hl hk => ?_⟩)
  · exact h _ hholds (decide_eq_true rfl)
  · refine h l.1 ?_
    rw [← of_decide_eq_true hk]
    exact hl

omit [DecidableEq κ] in
theorem mem_unlocked : (worker', k) ∈ q.unlocked worker ↔ q.Holds worker' k ∧ worker' ≠ worker := by
  rw [Queue.unlocked, List.mem_filter, decide_eq_true_iff, Queue.Holds]

omit [DecidableEq ω] in
/-- The row a claim takes is open, and nobody has locked it. -/
theorem next_spec {a : α} (h : q.next c = some a) :
    a ∈ q.rows ∧ c.isOpen a = true ∧ ∀ worker, ¬ q.Holds worker (key a) :=
  mem_free.mp (c.mem_of_pick h)

omit [DecidableEq ω] [DecidableEq κ] in
theorem Untouched.settled (h : Untouched q) : Settled c R q where
  exclusive worker worker' k hk := by
    rw [Queue.Holds, h.locks] at hk
    exact absurd hk List.not_mem_nil
  follows worker k rest hwork := by
    rw [h.work] at hwork
    cases hwork
  alone worker worker' k rest rest' hwork := by
    rw [h.work] at hwork
    cases hwork
  known k hk := by
    rw [h.claimed] at hk
    exact absurd hk List.not_mem_nil
  taken a ha hk := by
    rw [h.claimed] at hk
    exact absurd hk List.not_mem_nil
  once := by
    rw [h.claimed]
    exact List.nodup_nil

omit [DecidableEq κ] in
/-- Where the transaction of a worker ends, the locks stay exclusive. -/
theorem Settled.exclusive_unlocked (h : Settled c R q) (worker worker₁ worker₂ : ω) (k : κ)
    (h₁ : (worker₁, k) ∈ q.unlocked worker) (h₂ : (worker₂, k) ∈ q.unlocked worker) :
    worker₁ = worker₂ :=
  h.exclusive worker₁ worker₂ k (mem_unlocked.mp h₁).1 (mem_unlocked.mp h₂).1

omit [DecidableEq ω] [DecidableEq κ] in
/-- The row a worker has in hand. -/
theorem Settled.row (h : Settled c R q) {rest : List (Op α)}
    (hwork : q.work worker = some (k, rest)) {a : α} (ha : a ∈ q.rows) (hk : key a = k) :
    Follows c R a rest ∧ (c.isOpen a = true → q.Holds worker k) := by
  obtain ⟨b, hb, hkb, hfollows⟩ := h.follows worker k rest hwork
  rwa [Table.eq_of_key_eq ha hb (hk.trans hkb.symm)]

end Lemmas

/-! ## One event -/

section Step

variable {q : Queue ω α}

omit [DecidableEq ω] [DecidableEq κ] in
/-- A row that another transaction inserts is new, and nobody has claimed it. -/
theorem Settled.insert (h : Settled c R q) (source : KeySource κ) (row : κ → α)
    (hrow : ∀ k, key (row k) = k) :
    Settled c R { q with rows := q.rows.insert source row hrow } := by
  have hkept : ∀ a ∈ q.rows, a ∈ q.rows.insert source row hrow :=
    fun a ha => Table.mem_insert_of_mem ha
  exact
    { exclusive := h.exclusive
      follows := by
        intro worker k rest hwork
        obtain ⟨a, ha, hk, hfollows⟩ := h.follows worker k rest hwork
        exact ⟨a, hkept a ha, hk, hfollows⟩
      alone := h.alone
      known := by
        intro k hk
        obtain ⟨a, ha, hka⟩ := h.known k hk
        exact ⟨a, hkept a ha, hka⟩
      taken := by
        intro a ha hk hopen
        have ha' : a ∈ q.rows.insert source row hrow := ha
        rcases Table.mem_insert.mp ha' with ha | rfl
        · exact h.taken a ha hk hopen
        · obtain ⟨b, hb, hkb⟩ := h.known _ hk
          rw [hrow] at hkb
          exact absurd hkb (q.rows.key_ne_nextKey source hb)
      once := h.once }

/-- A claim takes a row that nobody claimed before: an open row that was claimed is locked. -/
theorem Settled.claim (h : Settled c R q) (worker : ω) (script : α → List (Op α))
    (hscript : ∀ a, q.next c = some a → Follows c R a (script a)) :
    Settled c R (q.step c (.claim worker script)) := by
  simp only [Queue.step]
  split
  case h_2 => exact h
  case h_1 a hidle hnext =>
    obtain ⟨ha, hopen, hunlocked⟩ := next_spec hnext
    have hnew : key a ∉ q.claimed := by
      intro hk
      obtain ⟨worker', rest, hwork⟩ := h.taken a ha hk hopen
      exact hunlocked worker' ((h.row hwork ha rfl).2 hopen)
    have hother : ∀ worker' k rest, q.work worker' = some (k, rest) → k ≠ key a := by
      rintro worker' k rest hwork rfl
      exact hunlocked worker' ((h.row hwork ha rfl).2 hopen)
    have hlocks : ∀ worker' k, (worker', k) ∈ q.locks ++ (q.free c).map (fun b => (worker, key b)) →
        q.Holds worker' k ∨ worker' = worker ∧ ∀ worker, ¬ q.Holds worker k := by
      intro worker' k hk
      rcases List.mem_append.mp hk with hk | hk
      · exact Or.inl hk
      · obtain ⟨b, hb, hbk⟩ := List.mem_map.mp hk
        obtain ⟨rfl, rfl⟩ := Prod.mk.inj hbk
        exact Or.inr ⟨rfl, (mem_free.mp hb).2.2⟩
    have hwork : ∀ worker' k rest, Function.update q.work worker (some (key a, script a)) worker' =
        some (k, rest) → (worker' = worker ∧ k = key a ∧ rest = script a) ∨
          (worker' ≠ worker ∧ q.work worker' = some (k, rest)) := by
      intro worker' k rest hwork
      rcases update_eq_some hwork with ⟨hme, heq⟩ | hold
      · rw [Option.some_inj] at heq
        obtain ⟨rfl, rfl⟩ := Prod.mk.inj heq
        exact Or.inl ⟨hme, rfl, rfl⟩
      · exact Or.inr hold
    exact
      { exclusive := by
          intro worker₁ worker₂ k h₁ h₂
          rcases hlocks worker₁ k h₁ with hold₁ | ⟨hme₁, hnone₁⟩
          · rcases hlocks worker₂ k h₂ with hold₂ | ⟨-, hnone₂⟩
            · exact h.exclusive worker₁ worker₂ k hold₁ hold₂
            · exact absurd hold₁ (hnone₂ worker₁)
          · rcases hlocks worker₂ k h₂ with hold₂ | ⟨hme₂, -⟩
            · exact absurd hold₂ (hnone₁ worker₂)
            · exact hme₁.trans hme₂.symm
        follows := by
          intro worker' k rest hwork'
          rcases hwork worker' k rest hwork' with ⟨rfl, rfl, rfl⟩ | ⟨-, hwork'⟩
          · refine ⟨a, ha, rfl, hscript a hnext, fun _ => List.mem_append_right _ ?_⟩
            exact List.mem_map.mpr ⟨a, c.mem_of_pick hnext, rfl⟩
          · obtain ⟨b, hb, hkb, hfollows, hholds⟩ := h.follows worker' k rest hwork'
            exact ⟨b, hb, hkb, hfollows, fun hb => List.mem_append_left _ (hholds hb)⟩
        alone := by
          intro worker₁ worker₂ k rest rest' h₁ h₂
          rcases hwork worker₁ k rest h₁ with ⟨hme₁, hk₁, -⟩ | ⟨-, hold₁⟩
          · rcases hwork worker₂ k rest' h₂ with ⟨hme₂, -, -⟩ | ⟨-, hold₂⟩
            · exact hme₁.trans hme₂.symm
            · exact absurd hk₁ (hother worker₂ k rest' hold₂)
          · rcases hwork worker₂ k rest' h₂ with ⟨-, hk₂, -⟩ | ⟨-, hold₂⟩
            · exact absurd hk₂ (hother worker₁ k rest hold₁)
            · exact h.alone worker₁ worker₂ k rest rest' hold₁ hold₂
        known := by
          intro k hk
          rcases List.mem_append.mp hk with hk | hk
          · exact h.known k hk
          · exact ⟨a, ha, (List.mem_singleton.mp hk).symm⟩
        taken := by
          intro b hb hk hbopen
          rcases List.mem_append.mp hk with hk | hk
          · obtain ⟨worker', rest, hwork'⟩ := h.taken b hb hk hbopen
            have hne : worker' ≠ worker := by
              rintro rfl
              rw [hidle] at hwork'
              cases hwork'
            exact ⟨worker', rest, (Function.update_of_ne hne _ _).trans hwork'⟩
          · rw [List.mem_singleton.mp hk]
            exact ⟨worker, script a, Function.update_self _ _ _⟩
        once := by
          refine List.nodup_append.mpr ⟨h.once, List.nodup_singleton _, ?_⟩
          rintro k hk k' hk' rfl
          rw [List.mem_singleton.mp hk'] at hk
          exact hnew hk }

omit [DecidableEq κ] in
/-- The end of a transaction that leaves the rows alone, by a worker whose row is closed. -/
theorem Settled.release (h : Settled c R q) (worker : ω) (next : Option (κ × List (Op α)))
    (hclosed : ∀ k rest, q.work worker = some (k, rest) → ∀ a ∈ q.rows, key a = k →
      c.isOpen a = false)
    (hnext : ∀ k rest, next = some (k, rest) → ∃ rest', q.work worker = some (k, rest') ∧
      ∀ a ∈ q.rows, key a = k → Follows c R a rest) :
    Settled c R { q with
      locks := q.unlocked worker
      work := Function.update q.work worker next } where
  exclusive := h.exclusive_unlocked worker
  follows worker' k rest hwork := by
    rcases update_eq_some hwork with ⟨rfl, heq⟩ | ⟨hne, hold⟩
    · obtain ⟨rest', hbefore, hfollows⟩ := hnext k rest heq
      obtain ⟨a, ha, hk, -⟩ := h.follows worker' k rest' hbefore
      refine ⟨a, ha, hk, hfollows a ha hk, fun hopen => ?_⟩
      rw [hclosed k rest' hbefore a ha hk] at hopen
      exact absurd hopen Bool.false_ne_true
    · obtain ⟨a, ha, hk, hfollows, hholds⟩ := h.follows worker' k rest hold
      exact ⟨a, ha, hk, hfollows, fun hopen => mem_unlocked.mpr ⟨hholds hopen, hne⟩⟩
  alone := by
    have hbefore : ∀ worker' k rest, Function.update q.work worker next worker' = some (k, rest) →
        ∃ rest', q.work worker' = some (k, rest') := by
      intro worker' k rest hwork
      rcases update_eq_some hwork with ⟨rfl, heq⟩ | ⟨-, hold⟩
      · obtain ⟨rest', hbefore, -⟩ := hnext k rest heq
        exact ⟨rest', hbefore⟩
      · exact ⟨rest, hold⟩
    intro worker₁ worker₂ k rest rest' h₁ h₂
    obtain ⟨rest₁, h₁⟩ := hbefore worker₁ k rest h₁
    obtain ⟨rest₂, h₂⟩ := hbefore worker₂ k rest' h₂
    exact h.alone worker₁ worker₂ k rest₁ rest₂ h₁ h₂
  known := h.known
  taken a ha hk hopen := by
    obtain ⟨worker', rest, hwork⟩ := h.taken a ha hk hopen
    have hne : worker' ≠ worker := by
      rintro rfl
      rw [hclosed _ rest hwork a ha rfl] at hopen
      exact absurd hopen Bool.false_ne_true
    exact ⟨worker', rest, (Function.update_of_ne hne _ _).trans hwork⟩
  once := h.once

omit [DecidableEq κ] in
/-- A worker is done with its row, which is closed. -/
theorem Settled.finish (h : Settled c R q) {worker : ω} {k : κ}
    (hwork : q.work worker = some (k, [])) :
    Settled c R { q with work := Function.update q.work worker none } where
  exclusive := h.exclusive
  follows worker' k' rest' hwork' := by
    rcases update_eq_some hwork' with ⟨-, heq⟩ | ⟨-, hold⟩
    · cases heq
    · exact h.follows worker' k' rest' hold
  alone worker₁ worker₂ k' rest₁ rest₂ h₁ h₂ := by
    rcases update_eq_some h₁ with ⟨-, heq⟩ | ⟨-, hold₁⟩
    · cases heq
    · rcases update_eq_some h₂ with ⟨-, heq⟩ | ⟨-, hold₂⟩
      · cases heq
      · exact h.alone worker₁ worker₂ k' rest₁ rest₂ hold₁ hold₂
  known := h.known
  taken a ha hk hopen := by
    obtain ⟨worker', rest, hwork'⟩ := h.taken a ha hk hopen
    have hne : worker' ≠ worker := by
      rintro rfl
      rw [hwork, Option.some_inj] at hwork'
      have hclosed : c.isOpen a = false := (h.row hwork ha (Prod.mk.inj hwork').1.symm).1
      rw [hclosed] at hopen
      exact absurd hopen Bool.false_ne_true
    exact ⟨worker', rest, (Function.update_of_ne hne _ _).trans hwork'⟩
  once := h.once

/-- The worker writes its row, closed from now on, and commits. -/
theorem Settled.write (h : Settled c R q) {worker : ω} {k : κ} {f : α → α}
    {hf : ∀ a, key (f a) = key a} {rest : List (Op α)}
    (hwork : q.work worker = some (k, .write f hf :: rest)) :
    Settled c R { q with
      rows := q.rows.update (fun a => key a = k) f hf
      locks := q.unlocked worker
      work := Function.update q.work worker (some (k, rest)) } := by
  have hbefore : ∀ worker' k' rest', Function.update q.work worker (some (k, rest)) worker' =
      some (k', rest') → (worker' = worker ∧ k' = k ∧ rest' = rest) ∨
        (worker' ≠ worker ∧ q.work worker' = some (k', rest')) := by
    intro worker' k' rest' hwork'
    rcases update_eq_some hwork' with ⟨hme, heq⟩ | hold
    · rw [Option.some_inj] at heq
      obtain ⟨rfl, rfl⟩ := Prod.mk.inj heq
      exact Or.inl ⟨hme, rfl, rfl⟩
    · exact Or.inr hold
  have hother : ∀ worker' k' rest', worker' ≠ worker → q.work worker' = some (k', rest') →
      k' ≠ k := by
    rintro worker' k' rest' hne hwork' rfl
    exact hne (h.alone worker' worker k' _ _ hwork' hwork)
  -- A row under another key is as it was.
  have hkept : ∀ a ∈ q.rows, key a ≠ k → a ∈ q.rows.update (fun a => key a = k) f hf := by
    intro a ha hne
    rw [← Table.rewrite_of_neg (fun a => decide (key a = k)) f (decide_eq_false hne)]
    exact Table.rewrite_mem_update ha
  have hwritten : ∀ a ∈ q.rows, key a = k → f a ∈ q.rows.update (fun a => key a = k) f hf := by
    intro a ha hk
    rw [← Table.rewrite_of_pos (fun a => decide (key a = k)) f (decide_eq_true hk)]
    exact Table.rewrite_mem_update ha
  exact
    { exclusive := h.exclusive_unlocked worker
      follows := by
        intro worker' k' rest' hwork'
        rcases hbefore worker' k' rest' hwork' with ⟨rfl, rfl, rfl⟩ | ⟨hne, hold⟩
        · obtain ⟨a, ha, hk, ⟨-, hclosed, hrest⟩, -⟩ := h.follows worker' k' _ hwork
          refine ⟨f a, hwritten a ha hk, (hf a).trans hk, hrest, fun hopen => ?_⟩
          rw [hclosed] at hopen
          exact absurd hopen Bool.false_ne_true
        · obtain ⟨a, ha, hk, hfollows, hholds⟩ := h.follows worker' k' rest' hold
          refine ⟨a, hkept a ha ?_, hk, hfollows, fun hopen => ?_⟩
          · rw [hk]
            exact hother worker' k' rest' hne hold
          · exact mem_unlocked.mpr ⟨hholds hopen, hne⟩
      alone := by
        intro worker₁ worker₂ k' rest₁ rest₂ h₁ h₂
        rcases hbefore worker₁ k' rest₁ h₁ with ⟨hme₁, hk₁, -⟩ | ⟨hne₁, hold₁⟩
        · rcases hbefore worker₂ k' rest₂ h₂ with ⟨hme₂, -, -⟩ | ⟨hne₂, hold₂⟩
          · exact hme₁.trans hme₂.symm
          · exact absurd hk₁ (hother worker₂ k' rest₂ hne₂ hold₂)
        · rcases hbefore worker₂ k' rest₂ h₂ with ⟨-, hk₂, -⟩ | ⟨-, hold₂⟩
          · exact absurd hk₂ (hother worker₁ k' rest₁ hne₁ hold₁)
          · exact h.alone worker₁ worker₂ k' rest₁ rest₂ hold₁ hold₂
      known := by
        intro k' hk'
        obtain ⟨a, ha, hka⟩ := h.known k' hk'
        by_cases hk : key a = k
        · exact ⟨f a, hwritten a ha hk, (hf a).trans hka⟩
        · exact ⟨a, hkept a ha hk, hka⟩
      taken := by
        intro a' ha' hk' hopen
        have hmem : a' ∈ q.rows.update (fun a => key a = k) f hf := ha'
        obtain ⟨a, ha, rfl⟩ := Table.mem_update.mp hmem
        rw [Table.key_rewrite hf] at hk' ⊢
        by_cases hka : key a = k
        · obtain ⟨⟨-, hclosed, -⟩, -⟩ := h.row hwork ha hka
          rw [Table.rewrite_of_pos (fun a => decide (key a = k)) f (decide_eq_true hka),
            hclosed] at hopen
          exact absurd hopen Bool.false_ne_true
        · rw [Table.rewrite_of_neg (fun a => decide (key a = k)) f
            (decide_eq_false hka)] at hopen
          obtain ⟨worker', rest', hwork'⟩ := h.taken a ha hk' hopen
          have hne : worker' ≠ worker := by
            rintro rfl
            rw [hwork, Option.some_inj] at hwork'
            exact hka (Prod.mk.inj hwork').1.symm
          exact ⟨worker', rest', (Function.update_of_ne hne _ _).trans hwork'⟩
      once := h.once }

/-- **A disciplined event keeps the invariant.** -/
theorem Settled.step (h : Settled c R q) (e : Event ω α) (he : Disciplined c R q e) :
    Settled c R (q.step c e) := by
  cases e with
  | insert source row hrow => exact h.insert source row hrow
  | claim worker script => exact h.claim worker script he
  | advance worker =>
    simp only [Queue.step]
    split
    case h_1 => exact h
    case h_2 k hwork =>
      exact h.finish hwork
    case h_3 k rest hwork =>
      refine h.release worker _ (fun k' rest' hwork' a ha hk => ?_) fun k' rest' hnext => ?_
      · rw [hwork, Option.some_inj] at hwork'
        exact (h.row hwork ha (hk.trans (Prod.mk.inj hwork').1.symm)).1.1
      · rw [Option.some_inj] at hnext
        obtain ⟨rfl, rfl⟩ := Prod.mk.inj hnext
        exact ⟨_, hwork, fun a ha hk => (h.row hwork ha hk).1.2⟩
    case h_4 k f hf rest hwork =>
      split
      · exact h
      · exact h.write hwork
  | crash worker =>
    refine h.release worker none he fun k rest hnext => ?_
    cases hnext

/-- **A row only moves as the script of the worker that has it says.** -/
theorem Settled.evolves_step (h : Settled c R q) (e : Event ω α) :
    Table.Evolves (Keeps R) (fun _ => True) q.rows (q.step c e).rows := by
  cases e with
  | insert source row hrow => exact Table.Evolves.insert hrow Keeps.refl trivial
  | claim worker script =>
    simp only [Queue.step]
    split
    · exact Table.Evolves.refl Keeps.refl q.rows
    · exact Table.Evolves.refl Keeps.refl q.rows
  | advance worker =>
    simp only [Queue.step]
    split
    case h_4 k f hf rest hwork =>
      split
      · exact Table.Evolves.refl Keeps.refl q.rows
      · refine Table.Evolves.update hf fun a ha => ?_
        by_cases hk : key a = k
        · rw [Table.rewrite_of_pos (fun a => decide (key a = k)) f (decide_eq_true hk)]
          exact Or.inr (h.row hwork ha hk).1.1
        · rw [Table.rewrite_of_neg (fun a => decide (key a = k)) f (decide_eq_false hk)]
          exact Keeps.refl a
    all_goals exact Table.Evolves.refl Keeps.refl q.rows
  | crash worker => exact Table.Evolves.refl Keeps.refl q.rows

/-- Disciplined runs keep the invariant. -/
theorem Settled.final (h : Settled c R q) {events : List (Event ω α)}
    (hevents : Run.Along (Queue.step c) (Disciplined c R) q events) :
    Settled c R (Run.final (Queue.step c) q events) :=
  Run.invariant_of_along (fun _ e hs he => hs.step e he) h hevents

end Step

end SkipLocked
