import Runlet.Library.Table
import Runlet.Library.Dict

/-!
# Sequences of find-or-create writes

A program that keeps one row for each of many indices (a key built from the data, a pair of
columns) writes it by find-or-create: look for the row of an index, create one if there is none,
and overwrite it.  This file says what such writes leave behind.

* `Table.Writes p t t' r`: one write.  `t'` is `t` with the row that `p` selects first, or a row
  under a new key, replaced by `r`.
* `Table.Written sel content H t t'`: a sequence of writes.  `H` lists the indices written and the
  values written to them; `sel i` recognises the rows of the index `i`, and `content v r` holds of a
  row `r` written with the value `v`.  Then each index that was written holds a row with the
  value written last, every other index holds what it held before, and no row was touched but the
  first row of an index that was written.

The indices must not share rows: `Disjoint sel`.
-/

namespace KeyedTable

namespace Table

universe u v

variable {κ : Type u} {α : Type v} [Keyed κ α] [LinearOrder κ]

/-- One find-or-create write. -/
structure Writes (p : α → Bool) (t t' : Table α) (r : α) : Prop where
  mem : ∀ b, b ∈ t' ↔ b = r ∨ (b ∈ t ∧ key b ≠ key r)
  selected : p r = true
  origin : (∃ a, t.first? p = some a ∧ key a = key r) ∨
    (t.first? p = none ∧ ∀ a ∈ t, key a ≠ key r)

/-- The search for a row depends only on which rows are selected. -/
theorem first?_congr {t t' : Table α} {q : α → Bool}
    (h : ∀ b, q b = true → (b ∈ t ↔ b ∈ t')) : t.first? q = t'.first? q := by
  cases ht : t'.first? q with
  | none =>
    rw [first?_eq_none_iff] at ht ⊢
    intro a ha
    by_contra hq
    rw [Bool.not_eq_false] at hq
    rw [ht a ((h a hq).mp ha)] at hq
    exact Bool.false_ne_true hq
  | some a =>
    obtain ⟨ha, hq, hmin⟩ := first?_eq_some_iff.mp ht
    rw [first?_eq_some_iff]
    exact ⟨(h a hq).mpr ha, hq, fun b hb hqb => hmin b ((h b hqb).mp hb) hqb⟩

namespace Writes

variable {p q : α → Bool} {t t' : Table α} {r : α}

theorem self_mem (h : Writes p t t' r) : r ∈ t' :=
  (h.mem r).mpr (Or.inl rfl)

/-- The write is what a later search finds. -/
theorem first? (h : Writes p t t' r) : t'.first? p = some r := by
  rw [first?_eq_some_iff]
  refine ⟨h.self_mem, h.selected, fun b hb hpb => ?_⟩
  rcases (h.mem b).mp hb with rfl | ⟨hbt, -⟩
  · exact le_refl _
  · rcases h.origin with ⟨a, ha, hk⟩ | ⟨hnone, -⟩
    · rw [← hk]
      exact (first?_eq_some_iff.mp ha).2.2 b hbt hpb
    · rw [first?_eq_none_iff.mp hnone b hbt] at hpb
      exact absurd hpb Bool.false_ne_true

/-- A row that was replaced is selected by `p`. -/
theorem selected_of_key (h : Writes p t t' r) {a : α} (ha : a ∈ t) (hk : key a = key r) :
    t.first? p = some a := by
  rcases h.origin with ⟨b, hb, hkb⟩ | ⟨-, hfresh⟩
  · rw [hb, eq_of_key_eq (mem_of_first? hb) ha (hkb.trans hk.symm)]
  · exact absurd hk (hfresh a ha)

/-- Rows that `p` does not select are neither added nor removed. -/
theorem mem_iff_of_neg (h : Writes p t t' r) {b : α} (hb : p b = false) : b ∈ t' ↔ b ∈ t := by
  rw [h.mem]
  constructor
  · rintro (rfl | ⟨hbt, -⟩)
    · rw [h.selected] at hb
      exact absurd hb.symm Bool.false_ne_true
    · exact hbt
  · intro hbt
    refine Or.inr ⟨hbt, fun hk => ?_⟩
    rw [pred_of_first? (h.selected_of_key hbt hk)] at hb
    exact absurd hb.symm Bool.false_ne_true

theorem first?_of_disjoint (h : Writes p t t' r) (hpq : ∀ a, p a = true → q a = false) :
    t'.first? q = t.first? q := by
  refine first?_congr fun b hqb => h.mem_iff_of_neg ?_
  by_contra hp
  rw [Bool.not_eq_false] at hp
  rw [hpq b hp] at hqb
  exact Bool.false_ne_true hqb

/-- A write to a row that was just written. -/
theorem update (h : Writes p t t' r) (g : α → α) (hg : ∀ a, key (g a) = key a)
    (hp : p (g r) = true) : Writes p t (t'.update (fun a => key a = key r) g hg) (g r) where
  mem b := by
    rw [mem_update]
    constructor
    · rintro ⟨c, hc, rfl⟩
      by_cases hk : key c = key r
      · left
        rw [rewrite_of_pos _ _ (by simpa using hk), eq_of_key_eq hc h.self_mem hk]
      · right
        rw [rewrite_of_neg _ _ (by simpa using hk), hg]
        rcases (h.mem c).mp hc with rfl | hct
        · exact absurd rfl hk
        · exact hct
    · rintro (rfl | ⟨hb, hk⟩)
      · exact ⟨r, h.self_mem, rewrite_of_pos _ _ (by simp)⟩
      · rw [hg] at hk
        exact ⟨b, (h.mem b).mpr (Or.inr ⟨hb, hk⟩), rewrite_of_neg _ _ (by simpa using hk)⟩
  selected := hp
  origin := by
    simp only [hg]
    exact h.origin

theorem evolves {R : α → α → Prop} {N : α → Prop} (h : Writes p t t' r) (hR : ∀ a, R a a)
    (hold : ∀ a, t.first? p = some a → key a = key r → R a r)
    (hnew : (∀ a ∈ t, key a ≠ key r) → N r) : Evolves R N t t' where
  kept a ha := by
    by_cases hk : key a = key r
    · exact ⟨r, h.self_mem, hk.symm, hold a (h.selected_of_key ha hk) hk⟩
    · exact ⟨a, (h.mem a).mpr (Or.inr ⟨ha, hk⟩), rfl, hR a⟩
  source b hb := by
    rcases (h.mem b).mp hb with rfl | ⟨hbt, -⟩
    · rcases h.origin with ⟨a, ha, hk⟩ | ⟨-, hfresh⟩
      · exact Or.inl ⟨a, mem_of_first? ha, hk, hold a ha hk⟩
      · exact Or.inr ⟨hfresh, hnew hfresh⟩
    · exact Or.inl ⟨b, hbt, rfl, hR b⟩

end Writes

section Upsert

variable {t : Table α} {source : KeySource κ} {p : α → Bool} {mk : κ → α} {f : α → α}
  {hmk : ∀ k, key (mk k) = k} {hf : ∀ a, key (f a) = key a}

/-- **A find-or-create is a write.** -/
theorem writes_upsert (hpf : ∀ a, p a = true → p (f a) = true) (hpmk : ∀ k, p (mk k) = true) :
    Writes p t (t.upsert source p mk f hmk hf).1 (t.upsert source p mk f hmk hf).2 where
  mem _ := mem_upsert
  selected := by
    rcases upsert_snd_cases t source p mk f hmk hf with ⟨a, -, -, hpa, h⟩ | ⟨-, h⟩
    · rw [h]
      exact hpf a hpa
    · rw [h]
      exact hpf _ (hpmk _)
  origin := by
    cases h : t.first? p with
    | some a =>
      left
      rw [upsert_of_some h]
      exact ⟨a, rfl, (hf a).symm⟩
    | none =>
      right
      rw [upsert_of_none h]
      refine ⟨rfl, fun a ha => ?_⟩
      rw [hf, hmk]
      exact t.key_ne_nextKey source ha

end Upsert

/-! ## Sequences of writes -/

section Sequence

variable {ι : Type*} {β : Type*} [DecidableEq ι]

/-- No row belongs to two indices. -/
def Disjoint (sel : ι → α → Bool) : Prop :=
  ∀ i j a, sel i a = true → sel j a = true → i = j

/-- Each index has at most one row. -/
def AtMostOne (sel : ι → α → Bool) (t : Table α) : Prop :=
  ∀ i, ∀ a ∈ t, ∀ b ∈ t, sel i a = true → sel i b = true → a = b

omit [DecidableEq ι] in
theorem Disjoint.eq_false {sel : ι → α → Bool} (hsel : Disjoint sel) {i j : ι} (hij : i ≠ j)
    (a : α) (ha : sel i a = true) : sel j a = false := by
  by_contra h
  rw [Bool.not_eq_false] at h
  exact hij (hsel i j a ha h)

omit [DecidableEq ι] in
/-- With one row for each index, a row is the one its index finds. -/
theorem AtMostOne.first? {sel : ι → α → Bool} {t : Table α} (h : AtMostOne sel t) {i : ι} {a : α}
    (ha : a ∈ t) (hi : sel i a = true) : t.first? (sel i) = some a := by
  rw [first?_eq_some_iff]
  refine ⟨ha, hi, fun b hb hib => ?_⟩
  rw [h i a ha b hb hi hib]

omit [DecidableEq ι] in
/-- With one row for each index, what is asked of the row that is found is asked of all its rows. -/
theorem AtMostOne.map_first?_ne {sel : ι → α → Bool} {t : Table α} (h : AtMostOne sel t) {i : ι}
    {e : α → Bool} :
    (t.first? (sel i)).map e ≠ some true ↔ ∀ a ∈ t, sel i a = true → e a = false := by
  constructor
  · intro hne a ha hi
    rw [h.first? ha hi, Option.map_some] at hne
    exact Bool.eq_false_of_not_eq_true fun he => hne (congrArg some he)
  · intro hall hmap
    obtain ⟨a, hfirst, he⟩ := Option.map_eq_some_iff.mp hmap
    rw [hall a (mem_of_first? hfirst) (pred_of_first? hfirst)] at he
    exact Bool.false_ne_true he

omit [DecidableEq ι] in
/-- With one row for each index, an index for which a row is found has one row. -/
theorem AtMostOne.existsUnique {sel : ι → α → Bool} {t : Table α} (h : AtMostOne sel t) {i : ι}
    {a : α} (ha : t.first? (sel i) = some a) : ∃! b, b ∈ t ∧ sel i b = true :=
  ⟨a, ⟨mem_of_first? ha, pred_of_first? ha⟩, fun b hb =>
    h i b hb.1 a (mem_of_first? ha) hb.2 (pred_of_first? ha)⟩

/-- Where at most one row was selected, the write leaves no other. -/
theorem Writes.eq_of_selected {p : α → Bool} {t t' : Table α} {r : α} (h : Writes p t t' r)
    (hone : ∀ a ∈ t, ∀ b ∈ t, p a = true → p b = true → a = b) {c : α} (hc : c ∈ t')
    (hpc : p c = true) : c = r := by
  rcases (h.mem c).mp hc with rfl | ⟨hct, hk⟩
  · rfl
  · rcases h.origin with ⟨d, hd, hkd⟩ | ⟨hnone, -⟩
    · rw [hone c hct d (mem_of_first? hd) hpc (pred_of_first? hd)] at hk
      exact absurd hkd hk
    · rw [first?_eq_none_iff.mp hnone c hct] at hpc
      exact absurd hpc Bool.false_ne_true

theorem Writes.atMostOne {sel : ι → α → Bool} (hsel : Disjoint sel) {i : ι} {t t' : Table α}
    {r : α} (h : Writes (sel i) t t' r) (ht : AtMostOne sel t) : AtMostOne sel t' := by
  intro j a ha b hb hja hjb
  by_cases hij : i = j
  · subst hij
    have honly : ∀ c ∈ t', sel i c = true → c = r := fun c hc => h.eq_of_selected (ht i) hc
    rw [honly a ha hja, honly b hb hjb]
  · have hmem : ∀ c, sel j c = true → c ∈ t' → c ∈ t := fun c hjc hc =>
      (h.mem_iff_of_neg (hsel.eq_false (Ne.symm hij) c hjc)).mp hc
    exact ht j a (hmem a hja ha) b (hmem b hjb hb) hja hjb

/-- What a sequence of writes leaves behind. -/
structure Written (sel : ι → α → Bool) (content : β → α → Prop) (H : List (ι × β)) (t t' : Table α) :
    Prop where
  found : ∀ i v, Dict.latest H i = some v → ∃ r, t'.first? (sel i) = some r ∧ content v r
  others : ∀ i, Dict.latest H i = none → t'.first? (sel i) = t.first? (sel i)
  stable : ∀ i a, t.first? (sel i) = some a → ∃ r, t'.first? (sel i) = some r ∧ key r = key a
  touched : ∀ r ∈ t', r ∈ t ∨ ∃ i v, Dict.latest H i = some v ∧ t'.first? (sel i) = some r
  kept : ∀ a ∈ t, a ∈ t' ∨
    ∃ i v r, Dict.latest H i = some v ∧ t'.first? (sel i) = some r ∧ key r = key a

namespace Written

variable {sel : ι → α → Bool} {content : β → α → Prop} {H : List (ι × β)} {t t' t'' : Table α}

theorem refl (t : Table α) : Written sel content [] t t where
  found i v h := by simp at h
  others i _ := rfl
  stable i a h := ⟨a, h, rfl⟩
  touched r hr := Or.inl hr
  kept a ha := Or.inl ha

/-- **One more write.** -/
theorem write (hsel : Disjoint sel) (h : Written sel content H t t') {i : ι} {v : β} {r : α}
    (hw : Writes (sel i) t' t'' r) (hr : content v r) :
    Written sel content (H ++ [(i, v)]) t t'' := by
  have hother : ∀ j, i ≠ j → t''.first? (sel j) = t'.first? (sel j) := fun j hij =>
    hw.first?_of_disjoint fun a ha => hsel.eq_false hij a ha
  have hlatest : ∀ j, i ≠ j → Dict.latest (H ++ [(i, v)]) j = Dict.latest H j := fun j hij =>
    Dict.latest_append_of_ne H hij v
  refine ⟨?_, ?_, ?_, ?_, ?_⟩
  · intro j w hj
    by_cases hij : i = j
    · subst hij
      rw [Dict.latest_append_self, Option.some_inj] at hj
      exact ⟨r, hw.first?, hj ▸ hr⟩
    · rw [hlatest j hij] at hj
      rw [hother j hij]
      exact h.found j w hj
  · intro j hj
    have hij : i ≠ j := by
      rintro rfl
      rw [Dict.latest_append_self] at hj
      exact absurd hj (Option.some_ne_none v)
    rw [hlatest j hij] at hj
    rw [hother j hij, h.others j hj]
  · intro j a ha
    obtain ⟨b, hb, hkb⟩ := h.stable j a ha
    by_cases hij : i = j
    · subst hij
      refine ⟨r, hw.first?, ?_⟩
      rcases hw.origin with ⟨c, hc, hkc⟩ | ⟨hnone, -⟩
      · rw [hb, Option.some_inj] at hc
        rw [← hkc, ← hc, hkb]
      · rw [hb] at hnone
        exact absurd hnone (Option.some_ne_none b)
    · exact ⟨b, by rw [hother j hij, hb], hkb⟩
  · intro b hb
    rcases (hw.mem b).mp hb with rfl | ⟨hbt, hk⟩
    · exact Or.inr ⟨i, v, Dict.latest_append_self H i v, hw.first?⟩
    · rcases h.touched b hbt with hbt₀ | ⟨j, w, hj, hjb⟩
      · exact Or.inl hbt₀
      · have hij : i ≠ j := by
          rintro rfl
          rcases hw.origin with ⟨c, hc, hkc⟩ | ⟨hnone, -⟩
          · rw [hjb, Option.some_inj] at hc
            exact hk (by rw [hc, hkc])
          · rw [hjb] at hnone
            exact Option.some_ne_none b hnone
        exact Or.inr ⟨j, w, by rw [hlatest j hij, hj], by rw [hother j hij, hjb]⟩
  · intro a ha
    rcases h.kept a ha with hat | ⟨j, w, b, hj, hjb, hkb⟩
    · by_cases hk : key a = key r
      · exact Or.inr ⟨i, v, r, Dict.latest_append_self H i v, hw.first?, hk.symm⟩
      · exact Or.inl ((hw.mem a).mpr (Or.inr ⟨hat, hk⟩))
    · by_cases hij : i = j
      · subst hij
        refine Or.inr ⟨i, v, r, Dict.latest_append_self H i v, hw.first?, ?_⟩
        rcases hw.origin with ⟨c, hc, hkc⟩ | ⟨hnone, -⟩
        · rw [hjb, Option.some_inj] at hc
          rw [← hkc, ← hc, hkb]
        · rw [hjb] at hnone
          exact absurd hnone (Option.some_ne_none b)
      · exact Or.inr ⟨j, w, b, by rw [hlatest j hij, hj], by rw [hother j hij, hjb], hkb⟩

/-- An index with at most one row before has at most one row afterwards. -/
theorem unique (h : Written sel content H t t') (hsel : Disjoint sel) {i : ι}
    (ht : ∀ a ∈ t, ∀ b ∈ t, sel i a = true → sel i b = true → a = b) {a b : α} (ha : a ∈ t')
    (hb : b ∈ t') (hia : sel i a = true) (hib : sel i b = true) : a = b := by
  have hfirst : ∀ c ∈ t', sel i c = true → t'.first? (sel i) = some c := by
    intro c hc hic
    rcases h.touched c hc with hct | ⟨j, v, -, hjc⟩
    · have hbefore : t.first? (sel i) = some c := by
        rw [first?_eq_some_iff]
        exact ⟨hct, hic, fun d hd hid => by rw [ht c hct d hd hic hid]⟩
      obtain ⟨r, hr, hk⟩ := h.stable i c hbefore
      rw [hr, eq_of_key_eq (mem_of_first? hr) hc hk]
    · rwa [hsel i j c hic (pred_of_first? hjc)]
  have hsame := hfirst a ha hia
  rw [hfirst b hb hib, Option.some_inj] at hsame
  exact hsame.symm

/-- A row of an index that was not written is a row of the table before. -/
theorem mem_of_unwritten (h : Written sel content H t t') (hsel : Disjoint sel) {i : ι} {r : α}
    (hr : r ∈ t') (hi : sel i r = true) (hunwritten : Dict.latest H i = none) : r ∈ t := by
  rcases h.touched r hr with ht | ⟨j, v, hj, hjr⟩
  · exact ht
  · rw [hsel i j r hi (pred_of_first? hjr)] at hunwritten
    rw [hj] at hunwritten
    exact absurd hunwritten (Option.some_ne_none v)

end Written

end Sequence

end Table

end KeyedTable
