import Mathlib.Algebra.Ring.Nat

/-!
# Shared vocabulary

The enumerations of `shared/enums.py`, and the two scalar types that every row uses.

A `UUID` is compared only with other identifiers, for equality and in the order of its text; the
text has fixed width, so this is the order of the number it encodes.  A `DateTime` is a UTC
instant in microseconds since the epoch.
-/

namespace Runlet

/-- A row identifier. -/
abbrev UUID := ℕ

/-- A UTC instant, in microseconds since the epoch. -/
abbrev DateTime := ℕ

/-- `id.hex`: the 32 hexadecimal digits. -/
def UUID.hex (id : UUID) : List Char :=
  (List.range 32).map fun i => Nat.digitChar (id / 16 ^ (31 - i) % 16)

/-- `str(id)`: the digits in groups. -/
def UUID.text (id : UUID) : String :=
  let h := UUID.hex id
  String.ofList (h.take 8 ++ ['-'] ++ (h.drop 8).take 4 ++ ['-'] ++ (h.drop 12).take 4 ++ ['-'] ++
    (h.drop 16).take 4 ++ ['-'] ++ h.drop 20)

inductive AssetStatus where
  | safe
  | suspect
  | stale
  deriving DecidableEq, Repr

inductive AssetLifecycleStatus where
  | active
  | retiredMissing
  | retiredReplaced
  | retiredManual
  deriving DecidableEq, Repr

inductive QueuedJobStatus where
  | accepted
  | running
  | completed
  | failed
  | retryableFailed
  | skipped
  deriving DecidableEq, Repr

inductive PublishedJobState where
  | active
  | paused
  | archived
  deriving DecidableEq, Repr

/-- The states of a crawl snapshot: candidate, current, set aside. -/
inductive SnapshotState where
  | draft
  | active
  | discarded
  deriving DecidableEq, Repr

/-- The stored text of a snapshot state. -/
def SnapshotState.value : SnapshotState → String
  | .draft => "draft"
  | .active => "active"
  | .discarded => "discarded"

/-- How a switch of the current state ends. -/
inductive SwitchOutcome where
  | promoted
  | discardedLowQuality
  | discardedNoChange
  deriving DecidableEq, Repr

def SwitchOutcome.value : SwitchOutcome → String
  | .promoted => "promoted"
  | .discardedLowQuality => "discarded_low_quality"
  | .discardedNoChange => "discarded_no_change"

/-- Every status but `active` is a retired one. -/
def AssetLifecycleStatus.retired (s : AssetLifecycleStatus) : Bool :=
  s != .active

@[simp] theorem AssetLifecycleStatus.retired_active : AssetLifecycleStatus.active.retired = false :=
  rfl

@[simp] theorem AssetLifecycleStatus.retired_eq_false_iff (s : AssetLifecycleStatus) :
    s.retired = false ↔ s = .active := by
  cases s <;> decide

theorem AssetLifecycleStatus.retired_eq_true_iff (s : AssetLifecycleStatus) :
    s.retired = true ↔ s ≠ .active := by
  cases s <;> decide

end Runlet
