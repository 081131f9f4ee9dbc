import Runlet.Library.Dict

/-!
# Merging under a key

`merge` keeps one item for each key, in the order in which the keys first occur: an item whose key
is new goes to the end, and any other item is combined into the one that carries its key.  Programs
find that one through an index from keys to positions; `Indexed.add` is a turn of such a loop, and
`items_addAll` says that the index changes nothing.

A fact that an item may know or not know (`f : α → Option β`), and that the combination takes from
the later item whenever that one knows it, ends up as the last fact known under the key:
`fact_of_mem_merge`.
-/

namespace KeyedMerge

open Dict (Entries)

variable {α κ : Type*} [DecidableEq κ] (key : α → κ) (combine : α → α → α)

/-- Combine an item into the one that carries its key, or append it. -/
def add (l : List α) (x : α) : List α :=
  if key x ∈ l.map key then l.map fun y => if key y = key x then combine y x else y
  else l ++ [x]

def merge (l : List α) : List α :=
  l.foldl (add key combine) []

theorem merge_append_singleton (l : List α) (x : α) :
    merge key combine (l ++ [x]) = add key combine (merge key combine l) x :=
  List.foldl_concat ..

/-- A property that combining keeps holds of every item of the result. -/
theorem forall_mem_merge {key : α → κ} {combine : α → α → α} {p : α → Prop}
    (hcombine : ∀ a b, p a → p b → p (combine a b)) {l : List α} (h : ∀ x ∈ l, p x) :
    ∀ y ∈ merge key combine l, p y := by
  induction l using List.reverseRecOn with
  | nil => exact fun y hy => absurd hy List.not_mem_nil
  | append_singleton l x ih =>
    intro y hy
    have hx : p x := h x (by simp)
    have ih := ih fun z hz => h z (List.mem_append_left [x] hz)
    rw [merge_append_singleton, add] at hy
    split at hy
    · obtain ⟨z, hz, rfl⟩ := List.mem_map.mp hy
      split
      · exact hcombine z x (ih z hz) hx
      · exact ih z hz
    · rcases List.mem_append.mp hy with hy | hy
      · exact ih y hy
      · exact List.mem_singleton.mp hy ▸ hx

/-! ## Keys -/

section Keys

variable {key combine} (hkey : ∀ a b, key a = key b → key (combine a b) = key a)
include hkey

theorem map_key_combined (l : List α) (x : α) :
    (l.map fun y => if key y = key x then combine y x else y).map key = l.map key := by
  rw [List.map_map]
  refine List.map_congr_left fun y _ => ?_
  change key (if key y = key x then combine y x else y) = key y
  split
  next h => exact hkey y x h
  next => rfl

theorem map_key_add (l : List α) (x : α) :
    (add key combine l x).map key =
      l.map key ++ if key x ∈ l.map key then [] else [key x] := by
  unfold add
  by_cases h : key x ∈ l.map key
  · rw [if_pos h, if_pos h, map_key_combined hkey, List.append_nil]
  · rw [if_neg h, if_neg h, List.map_append, List.map_singleton]

/-- The keys of the result are the keys of the input, each at its first occurrence. -/
theorem map_key_merge (l : List α) : (merge key combine l).map key = (l.map key).eraseDups := by
  induction l using List.reverseRecOn with
  | nil => rfl
  | append_singleton l x ih =>
    rw [merge_append_singleton, map_key_add hkey, ih, List.map_append, List.map_singleton,
      List.eraseDups_append]
    by_cases h : key x ∈ l.map key
    · have hremoved : [key x].removeAll (l.map key) = [] := by
        simpa [List.removeAll] using h
      rw [if_pos (List.mem_eraseDups.mpr h), hremoved, List.eraseDups_nil]
    · have hkept : [key x].removeAll (l.map key) = [key x] := by
        simpa [List.removeAll] using h
      rw [if_neg fun hmem => h (List.mem_eraseDups.mp hmem), hkept]
      rfl

theorem mem_keys_merge {l : List α} {k : κ} :
    k ∈ (merge key combine l).map key ↔ k ∈ l.map key := by
  rw [map_key_merge hkey, List.mem_eraseDups]

end Keys

/-! ## Facts -/

section Facts

variable {β : Type*} (f : α → Option β)

/-- The last fact known under a key. -/
def lastKnown (l : List α) (k : κ) : Option β :=
  ((l.filter fun x => key x = k).filterMap f).getLast?

theorem lastKnown_append_singleton (l : List α) (x : α) (k : κ) :
    lastKnown key f (l ++ [x]) k =
      if key x = k then (f x).or (lastKnown key f l k) else lastKnown key f l k := by
  unfold lastKnown
  rw [List.filter_append, List.filterMap_append]
  by_cases h : key x = k
  · rw [if_pos h, List.filter_cons_of_pos (by simpa using h)]
    cases hx : f x with
    | none => simp [hx]
    | some b => simp [hx]
  · rw [if_neg h, List.filter_cons_of_neg (by simpa using h)]
    simp

theorem lastKnown_of_notMem {l : List α} {k : κ} (h : k ∉ l.map key) :
    lastKnown key f l k = none := by
  have hempty : (l.filter fun x => key x = k) = [] :=
    List.filter_eq_nil_iff.mpr fun x hx heq =>
      h (List.mem_map.mpr ⟨x, hx, of_decide_eq_true heq⟩)
  rw [lastKnown, hempty]
  rfl

/-- A fact about items that come from others is a fact about those. -/
theorem lastKnown_filterMap {γ : Type*} {g : γ → Option α} {key' : γ → Option κ}
    {f' : γ → Option β} {l : List γ} (h : ∀ c ∈ l, (g c).map key = key' c)
    (hf : ∀ c ∈ l, ∀ x ∈ g c, f x = f' c) (k : κ) :
    lastKnown key f (l.filterMap g) k = lastKnown key' f' l (some k) := by
  unfold lastKnown
  congr 1
  induction l with
  | nil => rfl
  | cons c l ih =>
    have ih := ih (fun d hd => h d (List.mem_cons_of_mem c hd))
      fun d hd => hf d (List.mem_cons_of_mem c hd)
    have hc := h c List.mem_cons_self
    cases hg : g c with
    | none =>
      rw [hg] at hc
      rw [List.filterMap_cons_none hg,
        List.filter_cons_of_neg (by simp [← hc])]
      exact ih
    | some x =>
      rw [hg] at hc
      rw [List.filterMap_cons_some hg]
      have hfact := hf c List.mem_cons_self x hg
      by_cases hk : key x = k
      · rw [List.filter_cons_of_pos (by simpa using hk),
          List.filter_cons_of_pos (by simp [← hc, hk]), List.filterMap_cons, List.filterMap_cons,
          hfact, ih]
      · rw [List.filter_cons_of_neg (by simpa using hk),
          List.filter_cons_of_neg (by simp [← hc, hk]), ih]

variable {key combine f} (hkey : ∀ a b, key a = key b → key (combine a b) = key a)
  (hf : ∀ a b, f (combine a b) = (f b).or (f a))
include hkey hf

theorem fact_of_mem_merge (l : List α) :
    ∀ y ∈ merge key combine l, f y = lastKnown key f l (key y) := by
  induction l using List.reverseRecOn with
  | nil => exact fun y hy => absurd hy List.not_mem_nil
  | append_singleton l x ih =>
    intro y hy
    rw [merge_append_singleton, add] at hy
    rw [lastKnown_append_singleton]
    by_cases h : key x ∈ (merge key combine l).map key
    · rw [if_pos h] at hy
      obtain ⟨z, hz, rfl⟩ := List.mem_map.mp hy
      by_cases hzx : key z = key x
      · rw [if_pos hzx, hkey z x hzx, if_pos hzx.symm, hf, ih z hz]
      · rw [if_neg hzx, if_neg fun heq => hzx heq.symm, ih z hz]
    · rw [if_neg h] at hy
      rcases List.mem_append.mp hy with hy | hy
      · have hne : key x ≠ key y := fun heq => h (heq ▸ List.mem_map_of_mem hy)
        rw [if_neg hne, ih y hy]
      · obtain rfl := List.mem_singleton.mp hy
        rw [if_pos rfl, lastKnown_of_notMem key f fun hmem => h ((mem_keys_merge hkey).mpr hmem),
          Option.or_none]

end Facts

/-! ## The index -/

/-- The items so far, and the position at which each key stands. -/
structure Indexed (κ α : Type*) where
  items : List α := []
  indexByKey : Entries κ ℕ := []

namespace Indexed

/-- One turn of the loop. -/
def add (s : Indexed κ α) (x : α) : Indexed κ α :=
  match s.indexByKey.get? (key x) with
  | none => ⟨s.items ++ [x], s.indexByKey.set (key x) s.items.length⟩
  | some i => { s with items := s.items.modify i fun y => combine y x }

/-- The index finds exactly the item that carries a key. -/
def Sound (s : Indexed κ α) : Prop :=
  ∀ k i, s.indexByKey.get? k = some i ↔ (s.items.map key)[i]? = some k

variable {key combine}

theorem sound_empty : Sound key ({} : Indexed κ α) := by
  intro k i
  simp [Entries.get?]

theorem Sound.notMem {s : Indexed κ α} (h : s.Sound key) {k : κ}
    (hnone : s.indexByKey.get? k = none) : k ∉ s.items.map key := by
  intro hmem
  obtain ⟨i, hi⟩ := List.mem_iff_getElem?.mp hmem
  have hsome := (h k i).mpr hi
  rw [hnone] at hsome
  cases hsome

/-- The item at a position is the only one with its key, so combining at the position and
combining under the key are the same. -/
theorem Sound.modify {s : Indexed κ α} (h : s.Sound key) {x : α} {i : ℕ}
    (hi : s.indexByKey.get? (key x) = some i) :
    (s.items.modify i fun y => combine y x) =
      s.items.map fun y => if key y = key x then combine y x else y := by
  refine List.ext_getElem? fun j => ?_
  rw [List.getElem?_modify, List.getElem?_map]
  cases hj : s.items[j]? with
  | none => rfl
  | some y =>
    have hjkey : (s.items.map key)[j]? = some (key y) := by rw [List.getElem?_map, hj]; rfl
    by_cases hij : i = j
    · subst hij
      have hikey := (h (key x) i).mp hi
      have hyx : key y = key x := Option.some.inj (hjkey.symm.trans hikey)
      simp [hyx]
    · have hyx : key y ≠ key x := by
        intro heq
        have hget := (h (key y) j).mpr hjkey
        rw [heq, hi] at hget
        exact hij (Option.some.inj hget)
      simp [hij, hyx]

variable (hkey : ∀ a b, key a = key b → key (combine a b) = key a)
include hkey

theorem Sound.add {s : Indexed κ α} (h : s.Sound key) (x : α) :
    (s.add key combine x).items = KeyedMerge.add key combine s.items x ∧
      (s.add key combine x).Sound key := by
  unfold Indexed.add KeyedMerge.add
  cases hi : s.indexByKey.get? (key x) with
  | none =>
    have hnew := h.notMem hi
    refine ⟨(if_neg hnew).symm, fun k i => ?_⟩
    change (s.indexByKey.set (key x) s.items.length).get? k = some i ↔
      ((s.items ++ [x]).map key)[i]? = some k
    rw [Entries.get?_set, List.map_append, List.map_singleton]
    by_cases hk : key x = k
    · subst hk
      rw [if_pos rfl, Option.some_inj]
      constructor
      · rintro rfl
        simp
      · intro hat
        rcases Nat.lt_or_ge i (s.items.map key).length with hlt | hge
        · rw [List.getElem?_append_left hlt] at hat
          exact absurd (List.mem_of_getElem? hat) hnew
        · rw [List.getElem?_append_right hge] at hat
          have hlt := (List.getElem?_eq_some_iff.mp hat).1
          rw [List.length_singleton, List.length_map] at hlt
          rw [List.length_map] at hge
          omega
    · rw [if_neg hk, h k i]
      rcases Nat.lt_or_ge i (s.items.map key).length with hlt | hge
      · rw [List.getElem?_append_left hlt]
      · rw [List.getElem?_append_right hge, List.getElem?_eq_none hge]
        refine ⟨fun hat => (nomatch hat), fun hat => ?_⟩
        exact absurd (List.mem_singleton.mp (List.mem_of_getElem? hat)).symm hk
  | some i =>
    have hmem : key x ∈ s.items.map key := List.mem_of_getElem? ((h (key x) i).mp hi)
    rw [if_pos hmem]
    refine ⟨h.modify hi, fun k j => ?_⟩
    change s.indexByKey.get? k = some j ↔
      ((s.items.modify i fun y => combine y x).map key)[j]? = some k
    rw [h.modify hi, map_key_combined hkey, h k j]

/-- The loop with the index merges. -/
theorem items_addAll (l : List α) :
    (l.foldl (Indexed.add key combine) {}).items = merge key combine l ∧
      (l.foldl (Indexed.add key combine) {}).Sound key := by
  induction l using List.reverseRecOn with
  | nil => exact ⟨rfl, sound_empty⟩
  | append_singleton l x ih =>
    rw [List.foldl_concat, merge_append_singleton, ← ih.1]
    exact ih.2.add hkey x

end Indexed

end KeyedMerge
