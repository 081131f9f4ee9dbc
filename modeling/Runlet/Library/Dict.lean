import Mathlib.Data.List.Induction
import Mathlib.Data.List.Basic
import Mathlib.Data.List.Nodup
import Mathlib.Data.List.Perm.Subperm

/-!
# Dictionaries of lists, and duplicate-free lists

Idioms of the modelled program, as operations on lists.

* `groupPairs`: the dictionary built by `groups.setdefault(key, []).append(value)` over a list of
  pairs.  It is the list of its entries in insertion order; `getD_groupPairs` says that the entry
  of a key holds exactly the values paired with it, in order, and `mem_groupPairs` which entries
  there are.
* `latest`: the value a list of assignments leaves under a key.
* `Entries`: the dictionary itself, with `get?`, `set` and `setDefault`; the keys never repeat.
* `Entries.grow`: a dictionary whose values grow by groups of items.
* `List.eraseDups`: the first occurrences of a list, in order.  `nodup_eraseDups` is the fact that
  is missing from the library.
-/

namespace Dict

variable {κ ν : Type*} [DecidableEq κ]

/-- Entries in insertion order. -/
abbrev Groups (κ ν : Type*) :=
  List (κ × List ν)

/-- `groups.setdefault(k, []).append(v)`. -/
def Groups.append : Groups κ ν → κ → ν → Groups κ ν
  | [], k, v => [(k, [v])]
  | (k', vs) :: g, k, v => if k' = k then (k', vs ++ [v]) :: g else (k', vs) :: Groups.append g k v

/-- `groups.get(k, [])`. -/
def Groups.getD : Groups κ ν → κ → List ν
  | [], _ => []
  | (k', vs) :: g, k => if k' = k then vs else Groups.getD g k

/-- Group a list of pairs by the first component. -/
def groupPairs (l : List (κ × ν)) : Groups κ ν :=
  l.foldl (fun g p => g.append p.1 p.2) []

theorem groupPairs_concat (l : List (κ × ν)) (p : κ × ν) :
    groupPairs (l ++ [p]) = (groupPairs l).append p.1 p.2 :=
  List.foldl_concat ..

theorem Groups.getD_append (g : Groups κ ν) (k k' : κ) (v : ν) :
    (g.append k v).getD k' = g.getD k' ++ if k = k' then [v] else [] := by
  induction g with
  | nil =>
    by_cases h : k = k' <;> simp [Groups.append, Groups.getD, h]
  | cons e g ih =>
    obtain ⟨k₀, vs⟩ := e
    by_cases h₀ : k₀ = k
    · rw [Groups.append, if_pos h₀, Groups.getD, Groups.getD]
      by_cases h : k₀ = k'
      · rw [if_pos h, if_pos h, if_pos (h₀.symm.trans h)]
      · rw [if_neg h, if_neg h, if_neg fun hk => h (h₀.trans hk), List.append_nil]
    · rw [Groups.append, if_neg h₀, Groups.getD, Groups.getD]
      by_cases h : k₀ = k'
      · rw [if_pos h, if_pos h, if_neg fun hk => h₀ (h.trans hk.symm), List.append_nil]
      · rw [if_neg h, if_neg h, ih]

theorem Groups.keys_append (g : Groups κ ν) (k : κ) (v : ν) :
    (g.append k v).map Prod.fst =
      g.map Prod.fst ++ if k ∈ g.map Prod.fst then [] else [k] := by
  induction g with
  | nil => simp [Groups.append]
  | cons e g ih =>
    obtain ⟨k₀, vs⟩ := e
    by_cases h₀ : k₀ = k
    · simp [Groups.append, h₀]
    · simp only [Groups.append, if_neg h₀, List.map_cons, ih, List.mem_cons, List.cons_append,
        show k ≠ k₀ from Ne.symm h₀, false_or]

theorem Groups.getD_eq_of_mem {g : Groups κ ν} (hg : (g.map Prod.fst).Nodup) {k : κ}
    {vs : List ν} (h : (k, vs) ∈ g) : g.getD k = vs := by
  induction g with
  | nil => exact absurd h List.not_mem_nil
  | cons e g ih =>
    obtain ⟨k₀, vs₀⟩ := e
    rw [List.map_cons, List.nodup_cons] at hg
    rcases List.mem_cons.mp h with heq | hmem
    · obtain ⟨rfl, rfl⟩ := Prod.mk.inj heq
      rw [Groups.getD, if_pos rfl]
    · have hne : k₀ ≠ k := fun hk =>
        hg.1 (List.mem_map.mpr ⟨(k, vs), hmem, hk.symm⟩)
      rw [Groups.getD, if_neg hne, ih hg.2 hmem]

theorem Groups.mem_of_getD_ne_nil {g : Groups κ ν} {k : κ} (h : g.getD k ≠ []) :
    (k, g.getD k) ∈ g := by
  induction g with
  | nil => exact absurd rfl h
  | cons e g ih =>
    obtain ⟨k₀, vs₀⟩ := e
    rw [Groups.getD] at h ⊢
    by_cases hk : k₀ = k
    · rw [if_pos hk, hk]
      exact List.mem_cons_self
    · rw [if_neg hk] at h ⊢
      exact List.mem_cons_of_mem _ (ih h)

/-- The values of a key, in order. -/
theorem getD_groupPairs (l : List (κ × ν)) (k : κ) :
    (groupPairs l).getD k = (l.filter fun p => p.1 = k).map Prod.snd := by
  suffices h : ∀ g : Groups κ ν, (l.foldl (fun g p => g.append p.1 p.2) g).getD k =
      g.getD k ++ (l.filter fun p => p.1 = k).map Prod.snd from h []
  induction l with
  | nil => intro g; simp
  | cons p l ih =>
    intro g
    rw [List.foldl_cons, ih, Groups.getD_append]
    by_cases hp : p.1 = k
    · simp [hp]
    · simp [hp]

theorem nodup_keys_groupPairs (l : List (κ × ν)) : ((groupPairs l).map Prod.fst).Nodup := by
  suffices h : ∀ g : Groups κ ν, (g.map Prod.fst).Nodup →
      ((l.foldl (fun g p => g.append p.1 p.2) g).map Prod.fst).Nodup from h [] List.nodup_nil
  induction l with
  | nil => intro g hg; exact hg
  | cons p l ih =>
    intro g hg
    refine ih _ ?_
    rw [Groups.keys_append]
    split
    · simpa using hg
    · rename_i hmem
      exact List.nodup_append.mpr ⟨hg, List.nodup_singleton _, by
        rintro a ha b hb rfl
        rw [List.mem_singleton.mp hb] at ha
        exact hmem ha⟩

theorem Groups.ne_nil_append {g : Groups κ ν} (hg : ∀ e ∈ g, e.2 ≠ []) (k : κ) (v : ν) :
    ∀ e ∈ g.append k v, e.2 ≠ [] := by
  induction g with
  | nil => simp [Groups.append]
  | cons e₀ g ih =>
    obtain ⟨k₀, vs₀⟩ := e₀
    have htail := fun x hx => hg x (List.mem_cons_of_mem (k₀, vs₀) hx)
    intro e he
    rw [Groups.append] at he
    split at he
    · rcases List.mem_cons.mp he with rfl | he
      · simp
      · exact htail e he
    · rcases List.mem_cons.mp he with rfl | he
      · exact hg _ List.mem_cons_self
      · exact ih htail e he

theorem ne_nil_of_mem_groupPairs {l : List (κ × ν)} {k : κ} {vs : List ν}
    (h : (k, vs) ∈ groupPairs l) : vs ≠ [] := by
  suffices hg : ∀ g : Groups κ ν, (∀ e ∈ g, e.2 ≠ []) →
      ∀ e ∈ l.foldl (fun g p => g.append p.1 p.2) g, e.2 ≠ [] from
    hg [] (by simp) (k, vs) h
  clear h
  induction l with
  | nil => intro g hg; exact hg
  | cons p l ih =>
    intro g hg
    exact ih _ (Groups.ne_nil_append hg p.1 p.2)

/-- The entries of a grouping: one for each key that occurs, with the values paired with it. -/
theorem mem_groupPairs {l : List (κ × ν)} {k : κ} {vs : List ν} :
    (k, vs) ∈ groupPairs l ↔ vs ≠ [] ∧ vs = (l.filter fun p => p.1 = k).map Prod.snd := by
  constructor
  · intro h
    refine ⟨ne_nil_of_mem_groupPairs h, ?_⟩
    rw [← getD_groupPairs, Groups.getD_eq_of_mem (nodup_keys_groupPairs l) h]
  · rintro ⟨hne, hvs⟩
    rw [← getD_groupPairs] at hvs
    rw [hvs]
    exact Groups.mem_of_getD_ne_nil (hvs ▸ hne)

/-! ## Assignments -/

/-- The value of the last assignment to a key. -/
def latest (history : List (κ × ν)) (k : κ) : Option ν :=
  (history.reverse.find? fun e => e.1 = k).map Prod.snd

@[simp] theorem latest_nil (k : κ) : latest ([] : List (κ × ν)) k = none := rfl

theorem latest_append_singleton (history : List (κ × ν)) (k k' : κ) (v : ν) :
    latest (history ++ [(k, v)]) k' = if k = k' then some v else latest history k' := by
  unfold latest
  rw [List.reverse_append, List.reverse_singleton, List.singleton_append, List.find?_cons]
  by_cases h : k = k'
  · simp [h]
  · simp [h]

theorem latest_append_self (history : List (κ × ν)) (k : κ) (v : ν) :
    latest (history ++ [(k, v)]) k = some v := by
  rw [latest_append_singleton, if_pos rfl]

theorem latest_append_of_ne (history : List (κ × ν)) {k k' : κ} (h : k ≠ k') (v : ν) :
    latest (history ++ [(k, v)]) k' = latest history k' := by
  rw [latest_append_singleton, if_neg h]

theorem mem_of_latest {history : List (κ × ν)} {k : κ} {v : ν} (h : latest history k = some v) :
    (k, v) ∈ history := by
  obtain ⟨e, he, rfl⟩ := Option.map_eq_some_iff.mp h
  have hk : e.1 = k := by simpa using List.find?_some he
  have hmem := List.mem_reverse.mp (List.mem_of_find?_eq_some he)
  rwa [← hk]

theorem latest_eq_none_iff {history : List (κ × ν)} {k : κ} :
    latest history k = none ↔ ∀ e ∈ history, e.1 ≠ k := by
  unfold latest
  rw [Option.map_eq_none_iff, List.find?_eq_none]
  simp

theorem exists_latest_of_mem {history : List (κ × ν)} {k : κ} {v : ν} (h : (k, v) ∈ history) :
    ∃ w, latest history k = some w := by
  refine Option.ne_none_iff_exists'.mp fun hnone => ?_
  exact latest_eq_none_iff.mp hnone (k, v) h rfl

/-- Renaming the keys of a history, when no two of them are identified. -/
theorem latest_map {κ' : Type*} [DecidableEq κ'] {history : List (κ × ν)} {f : κ × ν → κ'}
    (hf : ∀ e ∈ history, ∀ e' ∈ history, f e = f e' ↔ e.1 = e'.1) {e : κ × ν} (he : e ∈ history) :
    latest (history.map fun e => (f e, e.2)) (f e) = latest history e.1 := by
  induction history using List.reverseRecOn generalizing e with
  | nil => exact absurd he List.not_mem_nil
  | append_singleton history last ih =>
    have hlast := hf last (by simp) e he
    rw [List.map_append, List.map_singleton, latest_append_singleton,
      show history ++ [last] = history ++ [(last.1, last.2)] from rfl, latest_append_singleton]
    by_cases hkey : last.1 = e.1
    · rw [if_pos hkey, if_pos (hlast.mpr hkey)]
    · rw [if_neg hkey, if_neg fun h => hkey (hlast.mp h)]
      have hmem : e ∈ history := by
        rcases List.mem_append.mp he with h | h
        · exact h
        · exact absurd (congrArg Prod.fst (List.mem_singleton.mp h).symm) hkey
      exact ih (fun a ha b hb => hf a (by simp [ha]) b (by simp [hb])) hmem

/-! ## Dictionaries -/

/-- A dictionary: its entries in insertion order. -/
abbrev Entries (κ ν : Type*) :=
  List (κ × ν)

/-- `d.get(k)`. -/
def Entries.get? : Entries κ ν → κ → Option ν
  | [], _ => none
  | (k', v) :: d, k => if k' = k then some v else Entries.get? d k

/-- `d[k] = v`: an entry there is keeps its place. -/
def Entries.set : Entries κ ν → κ → ν → Entries κ ν
  | [], k, v => [(k, v)]
  | (k', v') :: d, k, v => if k' = k then (k', v) :: d else (k', v') :: Entries.set d k v

/-- `d.setdefault(k, v)`. -/
def Entries.setDefault (d : Entries κ ν) (k : κ) (v : ν) : Entries κ ν :=
  if (d.get? k).isSome then d else d.set k v

theorem Entries.isSome_get? {d : Entries κ ν} {k : κ} :
    (d.get? k).isSome = true ↔ k ∈ d.map Prod.fst := by
  induction d with
  | nil => simp [Entries.get?]
  | cons e d ih =>
    by_cases h : e.1 = k
    · simp [Entries.get?, h]
    · simp only [Entries.get?, if_neg h, ih, List.map_cons, List.mem_cons, Ne.symm h, false_or]

theorem Entries.keys_set (d : Entries κ ν) (k : κ) (v : ν) :
    (d.set k v).map Prod.fst =
      d.map Prod.fst ++ if k ∈ d.map Prod.fst then [] else [k] := by
  induction d with
  | nil => simp [Entries.set]
  | cons e d ih =>
    by_cases h : e.1 = k
    · simp [Entries.set, h]
    · simp only [Entries.set, if_neg h, List.map_cons, ih, List.mem_cons, List.cons_append,
        show k ≠ e.1 from Ne.symm h, false_or]

theorem Entries.mem_keys_set {d : Entries κ ν} {k k' : κ} {v : ν} :
    k' ∈ (d.set k v).map Prod.fst ↔ k' ∈ d.map Prod.fst ∨ k' = k := by
  rw [Entries.keys_set, List.mem_append]
  by_cases h : k ∈ d.map Prod.fst
  · rw [if_pos h]
    have himp : k' = k → k' ∈ d.map Prod.fst := fun hk => hk ▸ h
    simp only [List.not_mem_nil, or_false]
    tauto
  · rw [if_neg h, List.mem_singleton]

theorem Entries.nodup_keys_set {d : Entries κ ν} (h : (d.map Prod.fst).Nodup) (k : κ) (v : ν) :
    ((d.set k v).map Prod.fst).Nodup := by
  rw [Entries.keys_set]
  by_cases hk : k ∈ d.map Prod.fst
  · rw [if_pos hk, List.append_nil]
    exact h
  · rw [if_neg hk]
    exact List.nodup_append.mpr ⟨h, List.nodup_singleton k,
      fun a ha b hb hab => hk (List.mem_singleton.mp hb ▸ hab ▸ ha)⟩

theorem Entries.mem_keys_setDefault {d : Entries κ ν} {k k' : κ} {v : ν} :
    k' ∈ (d.setDefault k v).map Prod.fst ↔ k' ∈ d.map Prod.fst ∨ k' = k := by
  unfold Entries.setDefault
  by_cases h : (d.get? k).isSome = true
  · rw [if_pos h]
    have himp : k' = k → k' ∈ d.map Prod.fst := fun hk => hk ▸ Entries.isSome_get?.mp h
    tauto
  · rw [if_neg h, Entries.mem_keys_set]

omit [DecidableEq κ] in
/-- The keys of a dictionary that a loop fills. -/
theorem Entries.mem_keys_foldl {α : Type*} {f : Entries κ ν → α → Entries κ ν}
    {names : α → κ → Prop}
    (hf : ∀ d a k, k ∈ (f d a).map Prod.fst ↔ k ∈ d.map Prod.fst ∨ names a k) (l : List α)
    (d : Entries κ ν) (k : κ) :
    k ∈ (l.foldl f d).map Prod.fst ↔ k ∈ d.map Prod.fst ∨ ∃ a ∈ l, names a k := by
  induction l generalizing d with
  | nil => simp
  | cons a l ih =>
    rw [List.foldl_cons, ih, hf, or_assoc]
    simp only [List.mem_cons, exists_eq_or_imp]

/-- What holds of the entry that is set and of the others holds of all entries afterwards. -/
theorem Entries.forall_set {p : κ × ν → Prop} {d : Entries κ ν} (h : ∀ e ∈ d, p e) {k : κ} {v : ν}
    (hkv : p (k, v)) : ∀ e ∈ d.set k v, p e := by
  induction d with
  | nil => simpa [Entries.set] using hkv
  | cons e d ih =>
    obtain ⟨hhead, htail⟩ := List.forall_mem_cons.mp h
    by_cases hk : e.1 = k
    · rw [Entries.set, if_pos hk, hk]
      exact List.forall_mem_cons.mpr ⟨hkv, htail⟩
    · rw [Entries.set, if_neg hk]
      exact List.forall_mem_cons.mpr ⟨hhead, ih htail⟩

/-- The same for `setDefault`. -/
theorem Entries.forall_setDefault {p : κ × ν → Prop} {d : Entries κ ν} (h : ∀ e ∈ d, p e) {k : κ}
    {v : ν} (hkv : p (k, v)) : ∀ e ∈ d.setDefault k v, p e := by
  unfold Entries.setDefault
  split
  · exact h
  · exact Entries.forall_set h hkv

theorem Entries.nodup_keys_setDefault {d : Entries κ ν} (h : (d.map Prod.fst).Nodup) (k : κ)
    (v : ν) : ((d.setDefault k v).map Prod.fst).Nodup := by
  unfold Entries.setDefault
  split
  · exact h
  · exact Entries.nodup_keys_set h k v

/-- A new key stands at the end. -/
theorem Entries.set_of_notMem {d : Entries κ ν} {k : κ} (h : k ∉ d.map Prod.fst) (v : ν) :
    d.set k v = d ++ [(k, v)] := by
  induction d with
  | nil => rfl
  | cons e d ih =>
    rw [List.map_cons, List.mem_cons, not_or] at h
    rw [Entries.set, if_neg (Ne.symm h.1), ih h.2, List.cons_append]

theorem Entries.setDefault_eq (d : Entries κ ν) (k : κ) (v : ν) :
    d.setDefault k v = d ∨ k ∉ d.map Prod.fst ∧ d.setDefault k v = d ++ [(k, v)] := by
  unfold Entries.setDefault
  split
  · exact Or.inl rfl
  · rename_i hnone
    have hk := mt Entries.isSome_get?.mpr hnone
    exact Or.inr ⟨hk, Entries.set_of_notMem hk v⟩

omit [DecidableEq κ] in
/-- A loop that only adds new keys leaves what was there as it was, in front. -/
theorem Entries.exists_foldl_eq_append {α : Type*} {f : Entries κ ν → α → Entries κ ν}
    {p : κ × ν → Prop} {l : List α}
    (hf : ∀ d, ∀ a ∈ l, f d a = d ∨ ∃ e, p e ∧ e.1 ∉ d.map Prod.fst ∧ f d a = d ++ [e])
    (d : Entries κ ν) :
    ∃ added, l.foldl f d = d ++ added ∧ ∀ e ∈ added, p e ∧ e.1 ∉ d.map Prod.fst := by
  induction l generalizing d with
  | nil => exact ⟨[], (List.append_nil d).symm, fun _ he => absurd he List.not_mem_nil⟩
  | cons a l ih =>
    obtain ⟨added, heq, hadded⟩ := ih (fun d a ha => hf d a (List.mem_cons_of_mem _ ha)) (f d a)
    rcases hf d a List.mem_cons_self with hsame | ⟨e, hp, hnew, hone⟩
    · rw [hsame] at heq hadded
      exact ⟨added, by rw [List.foldl_cons, hsame, heq], hadded⟩
    · rw [hone] at heq hadded
      refine ⟨e :: added, by rw [List.foldl_cons, hone, heq, List.append_assoc,
        List.singleton_append], List.forall_mem_cons.mpr ⟨⟨hp, hnew⟩, fun e' he' => ?_⟩⟩
      refine ⟨(hadded e' he').1, fun hmem => (hadded e' he').2 ?_⟩
      rw [List.map_append]
      exact List.mem_append_left _ hmem

theorem Entries.mem_of_get? {d : Entries κ ν} {k : κ} {v : ν} (h : d.get? k = some v) :
    (k, v) ∈ d := by
  induction d with
  | nil => cases h
  | cons e d ih =>
    by_cases hk : e.1 = k
    · rw [Entries.get?, if_pos hk] at h
      obtain rfl := Option.some.inj h
      exact hk ▸ List.mem_cons_self
    · rw [Entries.get?, if_neg hk] at h
      exact List.mem_cons_of_mem _ (ih h)

theorem Entries.get?_of_mem {d : Entries κ ν} (hd : (d.map Prod.fst).Nodup) {e : κ × ν}
    (h : e ∈ d) : d.get? e.1 = some e.2 := by
  induction d with
  | nil => exact absurd h List.not_mem_nil
  | cons e' d ih =>
    rw [List.map_cons, List.nodup_cons] at hd
    rcases List.mem_cons.mp h with rfl | h
    · rw [Entries.get?, if_pos rfl]
    · have hne : e'.1 ≠ e.1 := fun heq => hd.1 (heq ▸ List.mem_map_of_mem h)
      rw [Entries.get?, if_neg hne, ih hd.2 h]

theorem Entries.get?_set (d : Entries κ ν) (k : κ) (v : ν) (k' : κ) :
    (d.set k v).get? k' = if k = k' then some v else d.get? k' := by
  induction d with
  | nil => rfl
  | cons e d ih =>
    rw [Entries.set]
    by_cases he : e.1 = k
    · rw [if_pos he, Entries.get?, Entries.get?]
      by_cases hk : e.1 = k'
      · rw [if_pos hk, if_pos (he.symm.trans hk)]
      · rw [if_neg hk, if_neg fun h => hk (he.trans h), if_neg hk]
    · rw [if_neg he, Entries.get?, Entries.get?, ih]
      by_cases hk : e.1 = k'
      · rw [if_pos hk, if_neg fun h => he (hk.trans h.symm), if_pos hk]
      · rw [if_neg hk, if_neg hk]

theorem Entries.get?_foldl_set_of_notMem {α : Type*} {key : α → κ} {f : α → ν} {l : List α}
    {k : κ} (h : k ∉ l.map key) (d : Entries κ ν) :
    (l.foldl (fun d a => d.set (key a) (f a)) d).get? k = d.get? k := by
  induction l generalizing d with
  | nil => rfl
  | cons a l ih =>
    rw [List.map_cons, List.mem_cons, not_or] at h
    rw [List.foldl_cons, ih h.2, Entries.get?_set, if_neg (Ne.symm h.1)]

/-- A dictionary with one entry for each item: an item finds its own. -/
theorem Entries.get?_foldl_set {α : Type*} {key : α → κ} {f : α → ν} {l : List α}
    (hkeys : (l.map key).Nodup) {a : α} (ha : a ∈ l) (d : Entries κ ν) :
    (l.foldl (fun d a => d.set (key a) (f a)) d).get? (key a) = some (f a) := by
  induction l generalizing d with
  | nil => exact absurd ha List.not_mem_nil
  | cons b l ih =>
    rw [List.map_cons, List.nodup_cons] at hkeys
    rw [List.foldl_cons]
    rcases List.mem_cons.mp ha with rfl | ha
    · rw [Entries.get?_foldl_set_of_notMem hkeys.1, Entries.get?_set, if_pos rfl]
    · exact ih hkeys.2 ha _

/-! ## Values that grow -/

section Grow

variable {α : Type*} {f : ν → α → ν} {init : ν}

/-- The value of a key grows by a group of items; a new key starts with `init`. -/
def Entries.grow (f : ν → α → ν) (init : ν) (d : Entries κ ν) (group : κ × List α) :
    Entries κ ν :=
  d.set group.1 (group.2.foldl f ((d.get? group.1).getD init))

/-- Once all groups are in, a key has grown by the items of its own groups, in order. -/
theorem Entries.get?_foldl_grow (groups : List (κ × List α)) (k : κ) :
    (groups.foldl (Entries.grow f init) []).get? k =
      if k ∈ groups.map Prod.fst then
        some (((groups.filter fun g => g.1 = k).flatMap Prod.snd).foldl f init)
      else none := by
  induction groups using List.reverseRecOn with
  | nil => rfl
  | append_singleton groups g ih =>
    have hkeys : k ∈ (groups ++ [g]).map Prod.fst ↔ k ∈ groups.map Prod.fst ∨ k = g.1 := by
      rw [List.map_append, List.mem_append, List.map_singleton, List.mem_singleton]
    rw [List.foldl_concat, Entries.grow, Entries.get?_set, List.filter_append,
      List.flatMap_append, List.foldl_append]
    by_cases hk : g.1 = k
    · subst hk
      rw [if_pos rfl, if_pos (hkeys.mpr (Or.inr rfl)), List.filter_cons_of_pos (by simp),
        List.filter_nil, List.flatMap_singleton, ih]
      by_cases hmem : g.1 ∈ groups.map Prod.fst
      · rw [if_pos hmem, Option.getD_some]
      · have hnone : (groups.filter fun g' => g'.1 = g.1) = [] :=
          List.filter_eq_nil_iff.mpr fun g' hg' heq =>
            hmem (List.mem_map.mpr ⟨g', hg', of_decide_eq_true heq⟩)
        rw [if_neg hmem, hnone, Option.getD_none, List.flatMap_nil, List.foldl_nil]
    · rw [if_neg hk, List.filter_cons_of_neg (by simpa using hk), List.filter_nil,
        List.flatMap_nil, List.foldl_nil, ih]
      exact if_congr (hkeys.trans (or_iff_left (Ne.symm hk))).symm rfl rfl

theorem Entries.nodup_keys_foldl_grow (groups : List (κ × List α)) :
    ((groups.foldl (Entries.grow f init) []).map Prod.fst).Nodup := by
  induction groups using List.reverseRecOn with
  | nil => exact List.nodup_nil
  | append_singleton groups g ih =>
    rw [List.foldl_concat]
    exact Entries.nodup_keys_set ih _ _

end Grow

/-! ## Counters -/

/-- The counters show how often each key occurs. -/
def Tallies (counts : Entries κ ℕ) (l : List κ) : Prop :=
  ∀ k, (counts.get? k).getD 0 = l.count k

theorem tallies_nil : Tallies ([] : Entries κ ℕ) [] := fun _ => rfl

/-- `counts[k] = counts.get(k, 0) + 1` counts one more key. -/
theorem Tallies.count {counts : Entries κ ℕ} {l : List κ} (h : Tallies counts l) (k : κ) :
    Tallies (counts.set k ((counts.get? k).getD 0 + 1)) (l ++ [k]) := by
  intro k'
  rw [Entries.get?_set, List.count_append, ← h k']
  by_cases hk : k = k'
  · subst hk
    rw [if_pos rfl, List.count_singleton_self]
    rfl
  · rw [if_neg hk, List.count_singleton, if_neg (by simpa using hk), Nat.add_zero]

/-! ## First occurrences -/

variable {α : Type*} [DecidableEq α]

theorem nodup_eraseDups : ∀ l : List α, l.eraseDups.Nodup
  | [] => by simp
  | a :: l => by
    rw [List.eraseDups_cons, List.nodup_cons]
    refine ⟨?_, nodup_eraseDups (l.filter fun b => !b == a)⟩
    rw [List.mem_eraseDups, List.mem_filter]
    simp
termination_by l => l.length
decreasing_by
  have := List.length_filter_le (fun b => !b == a) l
  rw [List.length_cons]
  omega

/-- There is more than one first occurrence exactly when two entries differ. -/
theorem one_lt_length_eraseDups_iff {l : List α} :
    1 < l.eraseDups.length ↔ ∃ a ∈ l, ∃ b ∈ l, a ≠ b := by
  constructor
  · intro h
    obtain ⟨a, b, t, heq⟩ : ∃ a b t, l.eraseDups = a :: b :: t := by
      match hl : l.eraseDups with
      | [] => rw [hl] at h; exact absurd h (Nat.not_lt_zero 1)
      | [a] => rw [hl] at h; exact absurd h (Nat.lt_irrefl 1)
      | a :: b :: t => exact ⟨a, b, t, rfl⟩
    have hnodup := nodup_eraseDups l
    have ha : a ∈ l.eraseDups := by rw [heq]; exact List.mem_cons_self
    have hb : b ∈ l.eraseDups := by rw [heq]; exact List.mem_cons_of_mem _ List.mem_cons_self
    rw [heq, List.nodup_cons, List.mem_cons, not_or] at hnodup
    exact ⟨a, List.mem_eraseDups.mp ha, b, List.mem_eraseDups.mp hb, hnodup.1.1⟩
  · rintro ⟨a, ha, b, hb, hne⟩
    have hpair : [a, b].Nodup := List.nodup_cons.mpr
      ⟨fun h => hne (List.mem_singleton.mp h), List.nodup_singleton b⟩
    have hsub : [a, b] ⊆ l.eraseDups := by
      intro c hc
      rcases List.mem_pair.mp hc with rfl | rfl
      · exact List.mem_eraseDups.mpr ha
      · exact List.mem_eraseDups.mpr hb
    exact (hpair.subperm hsub).length_le

end Dict
