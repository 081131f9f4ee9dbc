import Mathlib.Data.List.Basic
import Mathlib.Data.List.Nodup
import Mathlib.Data.List.TakeWhile
import Mathlib.Logic.Function.Basic

/-!
# Loading a map from a list

A loop writes one value after the other into a map, each under a key of its own, and stops where a
value cannot be had.  What it leaves behind are the values before that point, over the old map.

* `Loading.load_of_mem`: the values before the first missing one are in the map.
* `Loading.load_of_notMem`: everything else is as it was.
* `Loading.load_eq_iff`: all keys have their values exactly when the skipped ones had them before.
-/

namespace Loading

variable {κ ν ι : Type*} [DecidableEq κ]

/-- What is left of the map, whether the loop ends or breaks off. -/
def left {σ : Type*} : Except σ σ → σ
  | .ok s => s
  | .error s => s

/-- Write the value of an entry, if it can be had. -/
def put (key : ι → κ) (value : ι → Option ν) (m : κ → ν) (entry : ι) : Except (κ → ν) (κ → ν) :=
  match value entry with
  | none => .error m
  | some v => .ok (Function.update m (key entry) v)

variable (key : ι → κ) (value : ι → Option ν)

def load (entries : List ι) (m : κ → ν) : Except (κ → ν) (κ → ν) :=
  entries.foldlM (put key value) m

/-- The entries before the first one without a value. -/
def loaded (entries : List ι) : List ι :=
  entries.takeWhile fun entry => (value entry).isSome

/-- The entries from the first one without a value on. -/
def skipped (entries : List ι) : List ι :=
  entries.dropWhile fun entry => (value entry).isSome

theorem loaded_append_skipped (entries : List ι) :
    loaded value entries ++ skipped value entries = entries :=
  List.takeWhile_append_dropWhile

variable {key value}

theorem load_cons_none {entry : ι} {entries : List ι} {m : κ → ν} (h : value entry = none) :
    load key value (entry :: entries) m = .error m := by
  rw [load, List.foldlM_cons, put, h]
  rfl

theorem load_cons_some {entry : ι} {entries : List ι} {m : κ → ν} {v : ν}
    (h : value entry = some v) :
    load key value (entry :: entries) m =
      load key value entries (Function.update m (key entry) v) := by
  rw [load, List.foldlM_cons, put, h]
  rfl

theorem load_of_notMem {entries : List ι} {m : κ → ν} {k : κ}
    (h : ∀ entry ∈ loaded value entries, key entry ≠ k) :
    left (load key value entries m) k = m k := by
  induction entries generalizing m with
  | nil => rfl
  | cons entry entries ih =>
    cases hvalue : value entry with
    | none => rw [load_cons_none hvalue, left]
    | some v =>
      have hloaded : loaded value (entry :: entries) = entry :: loaded value entries := by
        rw [loaded, List.takeWhile_cons_of_pos (by rw [hvalue]; rfl), loaded]
      rw [hloaded] at h
      rw [load_cons_some hvalue, ih fun e he => h e (List.mem_cons_of_mem _ he),
        Function.update_of_ne (Ne.symm (h entry List.mem_cons_self))]

theorem load_of_mem {entries : List ι} (hnodup : (entries.map key).Nodup) {m : κ → ν} {entry : ι}
    {v : ν} (hmem : entry ∈ loaded value entries) (hv : value entry = some v) :
    left (load key value entries m) (key entry) = v := by
  induction entries generalizing m with
  | nil => exact absurd hmem List.not_mem_nil
  | cons first entries ih =>
    rw [List.map_cons, List.nodup_cons] at hnodup
    cases hvalue : value first with
    | none =>
      rw [loaded, List.takeWhile_cons_of_neg (by rw [hvalue]; exact Bool.false_ne_true)] at hmem
      exact absurd hmem List.not_mem_nil
    | some w =>
      rw [loaded, List.takeWhile_cons_of_pos (by rw [hvalue]; rfl)] at hmem
      rw [load_cons_some hvalue]
      rcases List.mem_cons.mp hmem with rfl | hmem
      · rw [hv] at hvalue
        obtain rfl := Option.some.inj hvalue
        rw [load_of_notMem, Function.update_self]
        intro other hother heq
        exact hnodup.1 (List.mem_map.mpr ⟨other, List.takeWhile_subset _ hother, heq⟩)
      · exact ih hnodup.2 hmem

/-- **What loading achieves**: every key has the value of its entry if and only if the keys that
were skipped had it before. -/
theorem load_eq_iff {entries : List ι} (hnodup : (entries.map key).Nodup) {m : κ → ν}
    {wanted : ι → ν}
    (hwanted : ∀ entry ∈ entries, ∀ v, value entry = some v → v = wanted entry) :
    (∀ entry ∈ entries, left (load key value entries m) (key entry) = wanted entry) ↔
      ∀ entry ∈ skipped value entries, m (key entry) = wanted entry := by
  have hparts := loaded_append_skipped value entries
  have hkeeps : ∀ entry ∈ skipped value entries,
      left (load key value entries m) (key entry) = m (key entry) := by
    intro entry hentry
    refine load_of_notMem fun other hother heq => ?_
    rw [← hparts, List.map_append, List.nodup_append] at hnodup
    exact hnodup.2.2 _ (List.mem_map_of_mem hother) _ (List.mem_map_of_mem hentry) heq
  constructor
  · intro h entry hentry
    rw [← hkeeps entry hentry]
    exact h entry (hparts ▸ List.mem_append_right _ hentry)
  · intro h entry hentry
    rw [← hparts, List.mem_append] at hentry
    rcases hentry with hloaded | hskipped
    · have hsome : (value entry).isSome = true :=
        List.mem_takeWhile_imp (p := fun entry => (value entry).isSome) hloaded
      obtain ⟨v, hv⟩ := Option.isSome_iff_exists.mp hsome
      rw [load_of_mem hnodup hloaded hv]
      exact hwanted entry (List.takeWhile_subset _ hloaded) v hv
    · rw [hkeeps entry hskipped, h entry hskipped]

end Loading
