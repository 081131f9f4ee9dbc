import Runlet.Infrastructure.Assets

/-!
# The lifecycle of assets and checks

An asset and a check carry the same four columns: a status, and why, when and by which snapshot the
row was retired.  Taken together they are a `Lifecycle`, and the compiler does three things with
it: it creates a row `alive`, it touches a row whose page it has seen (`touch`, which brings a
retired row back when the snapshot is good enough), and it retires a row (`retire`).

`WellFormed` says that the three columns are set exactly when the status is a retired one; each of
the three operations establishes or keeps it.
-/

namespace Runlet

structure Lifecycle where
  status : AssetLifecycleStatus
  retiredReason : Option String
  retiredAt : Option DateTime
  retiredBySnapshotId : Option UUID
  deriving DecidableEq

def PageAsset.lifecycle (a : PageAsset) : Lifecycle :=
  ⟨a.lifecycleStatus, a.retiredReason, a.retiredAt, a.retiredBySnapshotId⟩

def PageCheck.lifecycle (c : PageCheck) : Lifecycle :=
  ⟨c.lifecycleStatus, c.retiredReason, c.retiredAt, c.retiredBySnapshotId⟩

namespace Lifecycle

def alive : Lifecycle :=
  ⟨.active, none, none, none⟩

def retire (reason : String) (now : DateTime) (snapshotId : UUID) : Lifecycle :=
  ⟨.retiredMissing, some reason, some now, some snapshotId⟩

/-- What a compile does to a row whose page it has seen. -/
def touch (highQuality : Bool) (l : Lifecycle) : Lifecycle :=
  if highQuality && l.status.retired then alive else l

/-- The reason, the time and the snapshot of the retirement are set exactly on retired rows. -/
structure WellFormed (l : Lifecycle) : Prop where
  retiredReason : l.retiredReason.isSome = l.status.retired
  retiredAt : l.retiredAt.isSome = l.status.retired
  retiredBySnapshotId : l.retiredBySnapshotId.isSome = l.status.retired

theorem wellFormed_alive : WellFormed alive := ⟨rfl, rfl, rfl⟩

theorem wellFormed_retire (reason : String) (now : DateTime) (snapshotId : UUID) :
    WellFormed (retire reason now snapshotId) := ⟨rfl, rfl, rfl⟩

theorem WellFormed.touch {l : Lifecycle} (h : WellFormed l) (highQuality : Bool) :
    WellFormed (touch highQuality l) := by
  unfold Lifecycle.touch
  split
  · exact wellFormed_alive
  · exact h

@[simp] theorem touch_false (l : Lifecycle) : touch false l = l := rfl

theorem touch_eq_or (highQuality : Bool) (l : Lifecycle) :
    touch highQuality l = l ∨ (highQuality = true ∧ touch highQuality l = alive) := by
  unfold touch
  split
  · rename_i h
    rw [Bool.and_eq_true] at h
    exact Or.inr ⟨h.1, rfl⟩
  · exact Or.inl rfl

theorem status_touch_of_true (l : Lifecycle) : (touch true l).status = .active := by
  unfold touch
  rw [Bool.true_and]
  split
  · rfl
  · rename_i h
    rwa [Bool.not_eq_true, AssetLifecycleStatus.retired_eq_false_iff] at h

theorem touch_of_active {l : Lifecycle} (highQuality : Bool) (h : l.status = .active) :
    touch highQuality l = l := by
  unfold touch
  rw [h, AssetLifecycleStatus.retired_active, Bool.and_false]
  rfl

@[simp] theorem touch_touch (highQuality : Bool) (l : Lifecycle) :
    touch highQuality (touch highQuality l) = touch highQuality l := by
  cases highQuality with
  | false => rfl
  | true => exact touch_of_active true (status_touch_of_true l)

/-- A touched row is active when it was, and when the snapshot is good enough. -/
theorem status_touch_eq_active_iff (highQuality : Bool) (l : Lifecycle) :
    (touch highQuality l).status = .active ↔ highQuality = true ∨ l.status = .active := by
  cases highQuality with
  | true => simp [status_touch_of_true]
  | false => simp

end Lifecycle

end Runlet
