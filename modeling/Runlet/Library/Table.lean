import Mathlib.Data.List.Sort
import Mathlib.Data.List.Nodup

/-!
# Tables with a primary key

A relational table is a list of rows, in the order in which they were inserted, whose primary
keys are pairwise distinct.  The distinctness is a field, so every operation has to re-establish
it and no later proof has to assume it.

* `Table.insert`: append a row under a key that is not in use.  Where the key comes from is a
  parameter (`KeySource`): any function that answers a list of used keys with an unused one.
* `Table.update`: rewrite the selected rows in place, keys unchanged.
* `Table.updateListed`: rewrite the selected rows among those under listed keys.
* `Table.delete`, `Table.deleteListed`: take selected rows out, or those under listed keys.
* `Table.select`, `Table.first?`, `Table.last?`: the selected rows by increasing key, the one
  with the least key, the one with the greatest key.
* `Table.get?`: the row under a key.
* `Table.upsert`: rewrite the first selected row, or a new row when none is selected.

`Table.Evolves R N t t'` says that `t'` came from `t` by rewriting rows within `R` and inserting
rows within `N`.  It is closed under composition when `R` is, so it is what a long sequence of
writes is summarised by.
-/

namespace KeyedTable

universe u v

/-- A type of rows with a primary key. -/
class Keyed (κ : outParam (Type u)) (α : Type v) where
  key : α → κ

export Keyed (key)

/-- Where fresh keys come from: a function that answers the keys in use with one that is not. -/
structure KeySource (κ : Type u) where
  draw : List κ → κ
  draw_notMem : ∀ used, draw used ∉ used

/-- Rows in insertion order, with pairwise distinct keys. -/
structure Table (α : Type v) {κ : Type u} [Keyed κ α] where
  rows : List α
  nodup : (rows.map key).Nodup

namespace Table

variable {κ : Type u} {α : Type v} [Keyed κ α]

instance : Membership α (Table α) where
  mem t a := a ∈ t.rows

instance [DecidableEq α] (a : α) (t : Table α) : Decidable (a ∈ t) :=
  inferInstanceAs (Decidable (a ∈ t.rows))

/-- The table with no row. -/
def empty : Table α := ⟨[], List.nodup_nil⟩

instance : Inhabited (Table α) := ⟨empty⟩

/-- The table with one row. -/
def single (a : α) : Table α := ⟨[a], List.nodup_singleton (key a)⟩

theorem mem_def {t : Table α} {a : α} : a ∈ t ↔ a ∈ t.rows := Iff.rfl

instance {t : Table α} {p : α → Prop} [DecidablePred p] : Decidable (∀ a ∈ t, p a) :=
  inferInstanceAs (Decidable (∀ a ∈ t.rows, p a))

instance {t : Table α} {p : α → Prop} [DecidablePred p] : Decidable (∃ a ∈ t, p a) :=
  inferInstanceAs (Decidable (∃ a ∈ t.rows, p a))

@[simp] theorem notMem_empty (a : α) : a ∉ (empty : Table α) := List.not_mem_nil

theorem ext_rows {t t' : Table α} (h : t.rows = t'.rows) : t = t' := by
  cases t
  cases t'
  cases h
  rfl

/-- The key identifies the row. -/
theorem eq_of_key_eq {t : Table α} {a b : α} (ha : a ∈ t) (hb : b ∈ t) (h : key a = key b) :
    a = b :=
  List.inj_on_of_nodup_map t.nodup ha hb h

/-! ## Writing -/

section Update

variable (t : Table α) (p : α → Bool) (f : α → α)

/-- The row map of an update. -/
def rewrite (a : α) : α :=
  if p a then f a else a

theorem key_rewrite {p : α → Bool} {f : α → α} (hf : ∀ a, key (f a) = key a) (a : α) :
    key (rewrite p f a) = key a := by
  unfold rewrite
  split
  · exact hf a
  · rfl

theorem rewrite_of_pos {a : α} (h : p a = true) : rewrite p f a = f a := by
  simp [rewrite, h]

theorem rewrite_of_neg {a : α} (h : p a = false) : rewrite p f a = a := by
  simp [rewrite, h]

/-- Rewrite the rows that satisfy `p` by `f`, which must keep the key. -/
def update (hf : ∀ a, key (f a) = key a := by intro _; rfl) : Table α :=
  ⟨t.rows.map (rewrite p f), by
    have h : (t.rows.map (rewrite p f)).map key = t.rows.map key := by
      rw [List.map_map]
      exact List.map_congr_left fun a _ => key_rewrite hf a
    rw [h]
    exact t.nodup⟩

variable {t p f} {hf : ∀ a, key (f a) = key a}

@[simp] theorem rows_update : (t.update p f hf).rows = t.rows.map (rewrite p f) := rfl

theorem mem_update {a : α} : a ∈ t.update p f hf ↔ ∃ b ∈ t, rewrite p f b = a :=
  List.mem_map

theorem rewrite_mem_update {b : α} (hb : b ∈ t) : rewrite p f b ∈ t.update p f hf :=
  mem_update.mpr ⟨b, hb, rfl⟩

/-- An update that selects nothing changes nothing. -/
theorem update_eq_self (h : ∀ a ∈ t, p a = false) : t.update p f hf = t := by
  refine ext_rows ?_
  rw [rows_update]
  conv_rhs => rw [← List.map_id t.rows]
  exact List.map_congr_left fun a ha => rewrite_of_neg p f (h a ha)

/-- The rows of a kind that an update does not select stay, when no other row becomes one. -/
theorem mem_update_of_neg {q : α → Prop} (hq : ∀ b ∈ t, q b → p b = false)
    (hback : ∀ b, q (f b) → q b) {a : α} (ha : q a) : a ∈ t.update p f hf ↔ a ∈ t := by
  rw [mem_update]
  constructor
  · rintro ⟨b, hb, rfl⟩
    have hqb : q b := by
      unfold rewrite at ha
      split at ha
      · exact hback b ha
      · exact ha
    rw [rewrite_of_neg p f (hq b hb hqb)]
    exact hb
  · exact fun hmem => ⟨a, hmem, rewrite_of_neg p f (hq a hmem ha)⟩

end Update

section UpdateListed

variable [DecidableEq κ] (t : Table α) (ks : List κ) (p : α → Bool) (f : α → α)

/-- Rewrite by `f` the rows under listed keys that satisfy `p`. -/
def updateListed (hf : ∀ a, key (f a) = key a := by intro _; rfl) : Table α :=
  t.update (fun a => key a ∈ ks && p a) f hf

/-- The number of rows under listed keys that satisfy `p`. -/
def countListed : ℕ :=
  (t.rows.filter fun a => key a ∈ ks && p a).length

variable {t ks p f} {hf : ∀ a, key (f a) = key a}

theorem mem_updateListed {a : α} :
    a ∈ t.updateListed ks p f hf ↔
      ∃ b ∈ t, a = if key b ∈ ks ∧ p b = true then f b else b := by
  rw [updateListed, mem_update]
  refine exists_congr fun b => and_congr_right fun _ => ?_
  unfold rewrite
  simp only [Bool.and_eq_true, decide_eq_true_eq]
  exact eq_comm

theorem updateListed_eq_self (h : ∀ a ∈ t, key a ∈ ks → p a = false) :
    t.updateListed ks p f hf = t := by
  refine update_eq_self fun a ha => ?_
  by_cases hk : key a ∈ ks
  · simp [h a ha hk]
  · simp [hk]

theorem updateListed_of_countListed_eq_zero (h : t.countListed ks p = 0) :
    t.updateListed ks p f hf = t := by
  refine updateListed_eq_self fun a ha hk => ?_
  have hnil := List.filter_eq_nil_iff.mp (List.length_eq_zero_iff.mp h) a ha
  simpa [hk] using hnil

@[simp] theorem updateListed_nil : t.updateListed [] p f hf = t :=
  updateListed_eq_self fun _ _ h => absurd h List.not_mem_nil

end UpdateListed

section Delete

variable {t : Table α} {p : α → Bool}

/-- The rows that do not satisfy `p`. -/
def delete (t : Table α) (p : α → Bool) : Table α where
  rows := t.rows.filter fun a => !p a
  nodup := t.nodup.sublist (List.filter_sublist.map key)

theorem mem_delete {a : α} : a ∈ t.delete p ↔ a ∈ t ∧ p a = false := by
  rw [mem_def, delete, List.mem_filter, Bool.not_eq_true']
  exact Iff.rfl

theorem delete_eq_self (h : ∀ a ∈ t, p a = false) : t.delete p = t := by
  refine ext_rows (List.filter_eq_self.mpr fun a ha => ?_)
  rw [h a ha]
  rfl

/-- Delete the rows under listed keys. -/
def deleteListed [DecidableEq κ] (t : Table α) (ks : List κ) : Table α :=
  t.delete fun a => key a ∈ ks

theorem mem_deleteListed [DecidableEq κ] {ks : List κ} {a : α} :
    a ∈ t.deleteListed ks ↔ a ∈ t ∧ key a ∉ ks := by
  rw [deleteListed, mem_delete, decide_eq_false_iff_not]

@[simp] theorem deleteListed_nil [DecidableEq κ] (t : Table α) : t.deleteListed [] = t :=
  delete_eq_self fun _ _ => rfl

end Delete

section Insert

variable (t : Table α) (source : KeySource κ) (mk : κ → α)

/-- The key the next inserted row gets. -/
def nextKey : κ :=
  source.draw (t.rows.map key)

theorem key_ne_nextKey {a : α} (ha : a ∈ t) : key a ≠ t.nextKey source := fun h =>
  source.draw_notMem (t.rows.map key) (List.mem_map.mpr ⟨a, ha, h⟩)

/-- Append the row `mk k` for a fresh key `k`. -/
def insert (hmk : ∀ k, key (mk k) = k := by intro _; rfl) : Table α :=
  ⟨t.rows ++ [mk (t.nextKey source)], by
    rw [List.map_append, List.nodup_append]
    refine ⟨t.nodup, List.nodup_singleton _, ?_⟩
    intro a ha b hb hab
    obtain ⟨c, hc, rfl⟩ := List.mem_map.mp ha
    rw [List.map_singleton, List.mem_singleton, hmk] at hb
    exact t.key_ne_nextKey source hc (hab.trans hb)⟩

variable {t source mk} {hmk : ∀ k, key (mk k) = k}

@[simp] theorem rows_insert :
    (t.insert source mk hmk).rows = t.rows ++ [mk (t.nextKey source)] := rfl

theorem mem_insert {a : α} : a ∈ t.insert source mk hmk ↔ a ∈ t ∨ a = mk (t.nextKey source) := by
  rw [mem_def, rows_insert, List.mem_append, List.mem_singleton]
  rfl

theorem mem_insert_of_mem {a : α} (ha : a ∈ t) : a ∈ t.insert source mk hmk :=
  mem_insert.mpr (Or.inl ha)

theorem mem_insert_self : mk (t.nextKey source) ∈ t.insert source mk hmk :=
  mem_insert.mpr (Or.inr rfl)

end Insert

/-! ## Copying rows -/

section Copy

variable {β : Type*} {t : Table α} {source : KeySource κ} {R : β → α → Prop}

/-- `t'` is `t` with one further row for each of `rows`, related to it by `R`. -/
def Copies (R : β → α → Prop) (rows : List β) (t t' : Table α) : Prop :=
  ∃ copied added, copied.Perm rows ∧ t'.rows = t.rows ++ added ∧ List.Forall₂ R copied added

theorem Copies.initial {rows : List β} {t' : Table α} (h : Copies R rows t t') :
    t.rows <+: t'.rows := by
  obtain ⟨copied, added, -, hrows, -⟩ := h
  exact ⟨added, hrows.symm⟩

theorem Copies.of_perm {rows rows' : List β} {t' : Table α} (h : Copies R rows t t')
    (hperm : rows.Perm rows') : Copies R rows' t t' := by
  obtain ⟨copied, added, hcopied, hrows, hadded⟩ := h
  exact ⟨copied, added, hcopied.trans hperm, hrows, hadded⟩

/-- Inserting a row for each entry of a list, one after the other. -/
theorem copies_foldl_insert {mk : β → κ → α} {hmk : ∀ b k, key (mk b k) = k}
    (hR : ∀ b k, R b (mk b k)) (rows : List β) (t : Table α) :
    Copies R rows t (rows.foldl (fun t b => t.insert source (mk b) (hmk b)) t) := by
  induction rows generalizing t with
  | nil => exact ⟨[], [], List.Perm.nil, (List.append_nil _).symm, List.Forall₂.nil⟩
  | cons b rows ih =>
    obtain ⟨copied, added, hcopied, hrows, hadded⟩ := ih (t.insert source (mk b) (hmk b))
    refine ⟨b :: copied, mk b (t.nextKey source) :: added, hcopied.cons b, ?_,
      List.Forall₂.cons (hR b _) hadded⟩
    rw [List.foldl_cons, hrows, rows_insert, List.append_assoc, List.singleton_append]

end Copy

/-! ## Reading by key -/

section Get

variable [DecidableEq κ]

/-- The row under a key. -/
def get? (t : Table α) (k : κ) : Option α :=
  t.rows.find? fun a => key a = k

theorem get?_eq_some_iff {t : Table α} {k : κ} {a : α} :
    t.get? k = some a ↔ a ∈ t ∧ key a = k := by
  constructor
  · intro h
    exact ⟨List.mem_of_find?_eq_some h, by simpa using List.find?_some h⟩
  · rintro ⟨ha, hk⟩
    cases hget : t.get? k with
    | none =>
      have hno := List.find?_eq_none.mp hget a ha
      exact absurd hk (by simpa using hno)
    | some b =>
      have hb : b ∈ t := List.mem_of_find?_eq_some hget
      have hbk : key b = k := by simpa using List.find?_some hget
      rw [eq_of_key_eq hb ha (hbk.trans hk.symm)]

theorem get?_key {t : Table α} {a : α} (ha : a ∈ t) : t.get? (key a) = some a :=
  get?_eq_some_iff.mpr ⟨ha, rfl⟩

theorem mem_of_get? {t : Table α} {k : κ} {a : α} (h : t.get? k = some a) : a ∈ t :=
  (get?_eq_some_iff.mp h).1

theorem key_of_get? {t : Table α} {k : κ} {a : α} (h : t.get? k = some a) : key a = k :=
  (get?_eq_some_iff.mp h).2

theorem get?_eq_none_iff {t : Table α} {k : κ} : t.get? k = none ↔ ∀ a ∈ t, key a ≠ k := by
  unfold get?
  rw [List.find?_eq_none]
  simp only [decide_eq_true_eq]
  rfl

theorem get?_update {t : Table α} {p : α → Bool} {f : α → α} {hf : ∀ a, key (f a) = key a}
    (k : κ) : (t.update p f hf).get? k = (t.get? k).map (rewrite p f) := by
  cases h : t.get? k with
  | none =>
    rw [get?_eq_none_iff] at h
    rw [Option.map_none, get?_eq_none_iff]
    intro a ha
    obtain ⟨b, hb, rfl⟩ := mem_update.mp ha
    rw [key_rewrite hf]
    exact h b hb
  | some a =>
    rw [Option.map_some, get?_eq_some_iff, key_rewrite hf]
    exact ⟨rewrite_mem_update (mem_of_get? h), key_of_get? h⟩

/-- Two rows of one table under one key are the row that `get?` finds. -/
theorem get?_insert_of_mem {t : Table α} {source : KeySource κ} {mk : κ → α}
    {hmk : ∀ k, key (mk k) = k} {a : α} (ha : a ∈ t) :
    (t.insert source mk hmk).get? (key a) = some a :=
  get?_key (mem_insert_of_mem ha)

end Get

/-! ## Reading by a predicate -/

section Select

variable [LinearOrder κ]

/-- Rows by increasing key. -/
def KeyLE (a b : α) : Prop :=
  key a ≤ key b

instance : DecidableRel (KeyLE (α := α)) := fun a b => inferInstanceAs (Decidable (key a ≤ key b))

instance : Std.Total (KeyLE (α := α)) := ⟨fun a b => le_total (key a) (key b)⟩

instance : IsTrans α KeyLE := ⟨fun _ _ _ => le_trans⟩

/-- The rows that satisfy `p`, by increasing key. -/
def select (t : Table α) (p : α → Bool) : List α :=
  (t.rows.filter p).insertionSort KeyLE

theorem mem_select {t : Table α} {p : α → Bool} {a : α} :
    a ∈ t.select p ↔ a ∈ t ∧ p a = true := by
  rw [select, List.mem_insertionSort, List.mem_filter]
  rfl

theorem nodup_select (t : Table α) (p : α → Bool) : (t.select p).Nodup := by
  rw [select, (List.perm_insertionSort _ _).nodup_iff]
  exact (List.Nodup.of_map _ t.nodup).filter _

theorem nodup_map_key_select (t : Table α) (p : α → Bool) : ((t.select p).map key).Nodup := by
  rw [List.nodup_map_iff_inj_on (nodup_select t p)]
  intro a ha b hb h
  exact eq_of_key_eq (mem_select.mp ha).1 (mem_select.mp hb).1 h

/-- The row with the least key among those that satisfy `p`. -/
def first? (t : Table α) (p : α → Bool) : Option α :=
  (t.select p).head?

/-- The row with the greatest key among those that satisfy `p`. -/
def last? (t : Table α) (p : α → Bool) : Option α :=
  (t.select p).getLast?

theorem pairwise_select (t : Table α) (p : α → Bool) : (t.select p).Pairwise KeyLE :=
  List.pairwise_insertionSort _ _

theorem first?_eq_some_iff {t : Table α} {p : α → Bool} {a : α} :
    t.first? p = some a ↔ a ∈ t ∧ p a = true ∧ ∀ b ∈ t, p b = true → key a ≤ key b := by
  unfold first?
  constructor
  · intro h
    have ha := mem_select.mp (List.mem_of_mem_head? h)
    refine ⟨ha.1, ha.2, ?_⟩
    intro b hb hpb
    have hmem : b ∈ t.select p := mem_select.mpr ⟨hb, hpb⟩
    have hsorted := pairwise_select t p
    cases hl : t.select p with
    | nil =>
      rw [hl] at hmem
      exact absurd hmem List.not_mem_nil
    | cons c l =>
      rw [hl] at h hmem hsorted
      rw [List.head?_cons, Option.some_inj] at h
      rw [← h]
      rcases List.mem_cons.mp hmem with rfl | hbl
      · exact le_refl _
      · exact (List.pairwise_cons.mp hsorted).1 b hbl
  · rintro ⟨ha, hpa, hmin⟩
    have hmem : a ∈ t.select p := mem_select.mpr ⟨ha, hpa⟩
    have hsorted := pairwise_select t p
    cases hl : t.select p with
    | nil =>
      rw [hl] at hmem
      exact absurd hmem List.not_mem_nil
    | cons c l =>
      rw [List.head?_cons, Option.some_inj]
      have hc : c ∈ t.select p := by rw [hl]; exact List.mem_cons_self
      rw [hl] at hmem hsorted
      rcases List.mem_cons.mp hmem with rfl | hal
      · rfl
      · have hca : key c ≤ key a := (List.pairwise_cons.mp hsorted).1 a hal
        have hac : key a ≤ key c := hmin c (mem_select.mp hc).1 (mem_select.mp hc).2
        exact eq_of_key_eq (mem_select.mp hc).1 ha (le_antisymm hca hac)

theorem last?_eq_some_iff {t : Table α} {p : α → Bool} {a : α} :
    t.last? p = some a ↔ a ∈ t ∧ p a = true ∧ ∀ b ∈ t, p b = true → key b ≤ key a := by
  unfold last?
  have hsorted := pairwise_select t p
  constructor
  · intro h
    obtain ⟨l, hl⟩ := List.getLast?_eq_some_iff.mp h
    have ha := mem_select.mp (List.mem_of_getLast? h)
    refine ⟨ha.1, ha.2, ?_⟩
    intro b hb hpb
    have hmem : b ∈ t.select p := mem_select.mpr ⟨hb, hpb⟩
    rw [hl] at hmem hsorted
    rcases List.mem_append.mp hmem with hbl | hba
    · exact (List.pairwise_append.mp hsorted).2.2 b hbl a List.mem_cons_self
    · rw [List.mem_singleton.mp hba]
  · rintro ⟨ha, hpa, hmax⟩
    have hmem : a ∈ t.select p := mem_select.mpr ⟨ha, hpa⟩
    have hne : t.select p ≠ [] := List.ne_nil_of_mem hmem
    obtain ⟨c, hc⟩ := Option.ne_none_iff_exists'.mp
      (fun h => hne (List.getLast?_eq_none_iff.mp h))
    obtain ⟨l, hl⟩ := List.getLast?_eq_some_iff.mp hc
    have hcs := mem_select.mp (List.mem_of_getLast? hc)
    have hca : key c ≤ key a := hmax c hcs.1 hcs.2
    have hac : key a ≤ key c := by
      rw [hl] at hmem hsorted
      rcases List.mem_append.mp hmem with h | h
      · exact (List.pairwise_append.mp hsorted).2.2 a h c List.mem_cons_self
      · rw [List.mem_singleton.mp h]
    rw [hc, eq_of_key_eq hcs.1 ha (le_antisymm hca hac)]

theorem first?_eq_none_iff {t : Table α} {p : α → Bool} :
    t.first? p = none ↔ ∀ a ∈ t, p a = false := by
  unfold first?
  rw [List.head?_eq_none_iff, List.eq_nil_iff_forall_not_mem]
  refine forall_congr' fun a => ?_
  rw [mem_select, not_and, Bool.not_eq_true]

theorem last?_eq_none_iff {t : Table α} {p : α → Bool} :
    t.last? p = none ↔ ∀ a ∈ t, p a = false := by
  unfold last?
  rw [List.getLast?_eq_none_iff, List.eq_nil_iff_forall_not_mem]
  refine forall_congr' fun a => ?_
  rw [mem_select, not_and, Bool.not_eq_true]

theorem mem_of_first? {t : Table α} {p : α → Bool} {a : α} (h : t.first? p = some a) : a ∈ t :=
  (first?_eq_some_iff.mp h).1

theorem pred_of_first? {t : Table α} {p : α → Bool} {a : α} (h : t.first? p = some a) :
    p a = true :=
  (first?_eq_some_iff.mp h).2.1

/-- An update that keeps the predicate keeps the choice. -/
theorem first?_update {t : Table α} {p q : α → Bool} {f : α → α} {hf : ∀ a, key (f a) = key a}
    (hq : ∀ a, q (f a) = q a) :
    (t.update p f hf).first? q = (t.first? q).map (rewrite p f) := by
  have hqr : ∀ a, q (rewrite p f a) = q a := by
    intro a
    unfold rewrite
    split
    · exact hq a
    · rfl
  cases h : t.first? q with
  | none =>
    rw [first?_eq_none_iff] at h
    rw [Option.map_none, first?_eq_none_iff]
    intro a ha
    obtain ⟨b, hb, rfl⟩ := mem_update.mp ha
    rw [hqr]
    exact h b hb
  | some a =>
    obtain ⟨ha, hqa, hmin⟩ := first?_eq_some_iff.mp h
    rw [Option.map_some, first?_eq_some_iff, key_rewrite hf, hqr]
    refine ⟨rewrite_mem_update ha, hqa, ?_⟩
    intro b hb hqb
    obtain ⟨c, hc, rfl⟩ := mem_update.mp hb
    rw [key_rewrite hf]
    exact hmin c hc (by rw [← hqr]; exact hqb)

/-- A row outside the predicate does not affect the choice. -/
theorem first?_insert_of_neg {t : Table α} {source : KeySource κ} {mk : κ → α}
    {hmk : ∀ k, key (mk k) = k} {q : α → Bool} (hq : q (mk (t.nextKey source)) = false) :
    (t.insert source mk hmk).first? q = t.first? q := by
  cases h : t.first? q with
  | none =>
    rw [first?_eq_none_iff] at h ⊢
    intro a ha
    rcases mem_insert.mp ha with ha | rfl
    · exact h a ha
    · exact hq
  | some a =>
    obtain ⟨ha, hqa, hmin⟩ := first?_eq_some_iff.mp h
    rw [first?_eq_some_iff]
    refine ⟨mem_insert_of_mem ha, hqa, ?_⟩
    intro b hb hqb
    rcases mem_insert.mp hb with hb | rfl
    · exact hmin b hb hqb
    · rw [hq] at hqb
      exact absurd hqb Bool.false_ne_true

/-- The only row inside the predicate is the choice. -/
theorem first?_insert_of_none {t : Table α} {source : KeySource κ} {mk : κ → α}
    {hmk : ∀ k, key (mk k) = k} {q : α → Bool} (hnone : t.first? q = none)
    (hq : q (mk (t.nextKey source)) = true) :
    (t.insert source mk hmk).first? q = some (mk (t.nextKey source)) := by
  rw [first?_eq_none_iff] at hnone
  rw [first?_eq_some_iff]
  refine ⟨mem_insert_self, hq, ?_⟩
  intro b hb hqb
  rcases mem_insert.mp hb with hb | rfl
  · rw [hnone b hb] at hqb
    exact absurd hqb Bool.false_ne_true
  · exact le_refl _

/-! ## Find or create -/

section Upsert

variable (t : Table α) (source : KeySource κ) (p : α → Bool) (mk : κ → α) (f : α → α)

/-- Rewrite by `f` the row with the least key among those that satisfy `p`, after inserting the row
`mk k` when there is none.  The second component is the row as it is afterwards. -/
def upsert (hmk : ∀ k, key (mk k) = k := by intro _; rfl)
    (hf : ∀ a, key (f a) = key a := by intro _; rfl) : Table α × α :=
  match t.first? p with
  | some a => (t.update (fun b => key b = key a) f hf, f a)
  | none =>
    (t.insert source (fun k => f (mk k)) (fun k => (hf _).trans (hmk k)),
      f (mk (t.nextKey source)))

variable {t source p mk f} {hmk : ∀ k, key (mk k) = k} {hf : ∀ a, key (f a) = key a}

theorem upsert_of_some {a : α} (h : t.first? p = some a) :
    t.upsert source p mk f hmk hf = (t.update (fun b => key b = key a) f hf, f a) := by
  unfold upsert
  rw [h]

theorem upsert_of_none (h : t.first? p = none) :
    t.upsert source p mk f hmk hf =
      (t.insert source (fun k => f (mk k)) (fun k => (hf _).trans (hmk k)),
        f (mk (t.nextKey source))) := by
  unfold upsert
  rw [h]

/-- **The rows after a find-or-create**: the written row, and the rows under other keys. -/
theorem mem_upsert {b : α} :
    b ∈ (t.upsert source p mk f hmk hf).1 ↔
      b = (t.upsert source p mk f hmk hf).2 ∨
        (b ∈ t ∧ key b ≠ key (t.upsert source p mk f hmk hf).2) := by
  cases h : t.first? p with
  | some a =>
    have ha := mem_of_first? h
    rw [upsert_of_some h, mem_update]
    constructor
    · rintro ⟨c, hc, rfl⟩
      by_cases hk : key c = key a
      · left
        rw [rewrite_of_pos _ _ (by simpa using hk), eq_of_key_eq hc ha hk]
      · right
        rw [rewrite_of_neg _ _ (by simpa using hk)]
        exact ⟨hc, by rwa [hf]⟩
    · rintro (rfl | ⟨hb, hk⟩)
      · exact ⟨a, ha, rewrite_of_pos _ _ (by simp)⟩
      · rw [hf] at hk
        exact ⟨b, hb, rewrite_of_neg _ _ (by simpa using hk)⟩
  | none =>
    rw [upsert_of_none h, mem_insert]
    constructor
    · rintro (hb | rfl)
      · refine Or.inr ⟨hb, ?_⟩
        rw [hf, hmk]
        exact t.key_ne_nextKey source hb
      · exact Or.inl rfl
    · rintro (rfl | ⟨hb, -⟩)
      · exact Or.inr rfl
      · exact Or.inl hb

theorem mem_upsert_self :
    (t.upsert source p mk f hmk hf).2 ∈ (t.upsert source p mk f hmk hf).1 :=
  mem_upsert.mpr (Or.inl rfl)

variable (t source p mk f hmk hf) in
/-- The written row is the rewriting of a row of the table or of a new row. -/
theorem upsert_snd_cases :
    (∃ a ∈ t, t.first? p = some a ∧ p a = true ∧ (t.upsert source p mk f hmk hf).2 = f a) ∨
      (t.first? p = none ∧
        (t.upsert source p mk f hmk hf).2 = f (mk (t.nextKey source))) := by
  cases h : t.first? p with
  | some a =>
    refine Or.inl ⟨a, mem_of_first? h, rfl, pred_of_first? h, ?_⟩
    rw [upsert_of_some h]
  | none =>
    refine Or.inr ⟨rfl, ?_⟩
    rw [upsert_of_none h]

theorem exists_upsert_snd : ∃ b, (t.upsert source p mk f hmk hf).2 = f b := by
  rcases upsert_snd_cases t source p mk f hmk hf with ⟨a, -, -, -, h⟩ | ⟨-, h⟩
  · exact ⟨a, h⟩
  · exact ⟨mk (t.nextKey source), h⟩

end Upsert

end Select

/-! ## What a sequence of writes does to a table -/

/-- `t'` came from `t` by rewriting rows within `R` and inserting rows within `N`. -/
structure Evolves (R : α → α → Prop) (N : α → Prop) (t t' : Table α) : Prop where
  kept : ∀ a ∈ t, ∃ a' ∈ t', key a' = key a ∧ R a a'
  source : ∀ a' ∈ t', (∃ a ∈ t, key a = key a' ∧ R a a') ∨ ((∀ a ∈ t, key a ≠ key a') ∧ N a')

namespace Evolves

variable {R : α → α → Prop} {N : α → Prop} {t t' t'' : Table α}

theorem refl (hR : ∀ a, R a a) (t : Table α) : Evolves R N t t where
  kept a ha := ⟨a, ha, rfl, hR a⟩
  source a ha := Or.inl ⟨a, ha, rfl, hR a⟩

/-- One change after another. -/
theorem comp {R' R'' : α → α → Prop} {N' N'' : α → Prop} (h : Evolves R N t t')
    (h' : Evolves R' N' t' t'') (hR : ∀ a ∈ t, ∀ b ∈ t', ∀ c, R a b → R' b c → R'' a c)
    (hN : ∀ b ∈ t', ∀ c, N b → R' b c → N'' c) (hN' : ∀ c, N' c → N'' c) :
    Evolves R'' N'' t t'' where
  kept a ha := by
    obtain ⟨b, hb, hkb, hab⟩ := h.kept a ha
    obtain ⟨c, hc, hkc, hbc⟩ := h'.kept b hb
    exact ⟨c, hc, hkc.trans hkb, hR a ha b hb c hab hbc⟩
  source c hc := by
    rcases h'.source c hc with ⟨b, hb, hkb, hbc⟩ | ⟨hnew, hNc⟩
    · rcases h.source b hb with ⟨a, ha, hka, hab⟩ | ⟨hnew, hNb⟩
      · exact Or.inl ⟨a, ha, hka.trans hkb, hR a ha b hb c hab hbc⟩
      · exact Or.inr ⟨fun a ha hac => hnew a ha (hac.trans hkb.symm), hN b hb c hNb hbc⟩
    · refine Or.inr ⟨fun a ha hac => ?_, hN' c hNc⟩
      obtain ⟨b, hb, hkb, -⟩ := h.kept a ha
      exact hnew b hb (hkb.trans hac)

theorem trans (hR : ∀ a b c, R a b → R b c → R a c) (hN : ∀ a b, N a → R a b → N b)
    (h : Evolves R N t t') (h' : Evolves R N t' t'') : Evolves R N t t'' :=
  h.comp h' (fun a _ b _ c => hR a b c) (fun b _ c => hN b c) fun _ => id

theorem mono {R' : α → α → Prop} {N' : α → Prop} (hR : ∀ a b, R a b → R' a b)
    (hN : ∀ a, N a → N' a) (h : Evolves R N t t') : Evolves R' N' t t' where
  kept a ha := by
    obtain ⟨b, hb, hk, hab⟩ := h.kept a ha
    exact ⟨b, hb, hk, hR a b hab⟩
  source b hb := by
    rcases h.source b hb with ⟨a, ha, hk, hab⟩ | ⟨hnew, hNb⟩
    · exact Or.inl ⟨a, ha, hk, hR a b hab⟩
    · exact Or.inr ⟨hnew, hN b hNb⟩

theorem update {p : α → Bool} {f : α → α} (hf : ∀ a, key (f a) = key a)
    (hR : ∀ a ∈ t, R a (rewrite p f a)) : Evolves R N t (t.update p f hf) where
  kept a ha := ⟨_, rewrite_mem_update ha, key_rewrite hf a, hR a ha⟩
  source a' ha' := by
    obtain ⟨a, ha, rfl⟩ := mem_update.mp ha'
    exact Or.inl ⟨a, ha, (key_rewrite hf a).symm, hR a ha⟩

theorem insert {source : KeySource κ} {mk : κ → α} (hmk : ∀ k, key (mk k) = k)
    (hR : ∀ a, R a a) (hN : N (mk (t.nextKey source))) :
    Evolves R N t (t.insert source mk hmk) where
  kept a ha := ⟨a, mem_insert_of_mem ha, rfl, hR a⟩
  source a' ha' := by
    rcases mem_insert.mp ha' with ha | rfl
    · exact Or.inl ⟨a', ha, rfl, hR a'⟩
    · refine Or.inr ⟨fun a ha h => ?_, hN⟩
      exact t.key_ne_nextKey source ha (h.trans (hmk _))

/-- The rows of a table under a map that keeps their keys. -/
theorem of_map {f : α → α} (hf : ∀ a, key (f a) = key a) (hmem : ∀ b, b ∈ t' ↔ ∃ a ∈ t, b = f a)
    (hR : ∀ a ∈ t, R a (f a)) : Evolves R N t t' where
  kept a ha := ⟨f a, (hmem _).mpr ⟨a, ha, rfl⟩, hf a, hR a ha⟩
  source b hb := by
    obtain ⟨a, ha, rfl⟩ := (hmem b).mp hb
    exact Or.inl ⟨a, ha, (hf a).symm, hR a ha⟩

/-- The version of a given row in the later table. -/
theorem of_mem (h : Evolves R N t t') {a a' : α} (ha : a ∈ t) (ha' : a' ∈ t')
    (hk : key a' = key a) : R a a' := by
  obtain ⟨b, hb, hkb, hab⟩ := h.kept a ha
  rwa [eq_of_key_eq ha' hb (hk.trans hkb.symm)]

section First

variable [LinearOrder κ] {q : α → Bool}

/-- Where rows stay selected, and no new one is, the choice falls on the same row. -/
theorem exists_first? (h : Evolves R N t t') (hR : ∀ a b, R a b → q b = q a)
    (hN : ∀ b, N b → q b = false) {a : α} (ha : t.first? q = some a) :
    ∃ b, t'.first? q = some b ∧ key b = key a ∧ R a b := by
  obtain ⟨hmem, hqa, hmin⟩ := first?_eq_some_iff.mp ha
  obtain ⟨b, hb, hkb, hab⟩ := h.kept a hmem
  refine ⟨b, first?_eq_some_iff.mpr ⟨hb, (hR a b hab).trans hqa, fun c hc hqc => ?_⟩, hkb, hab⟩
  rcases h.source c hc with ⟨d, hd, hkd, hdc⟩ | ⟨-, hnew⟩
  · rw [hkb, ← hkd]
    exact hmin d hd ((hR d c hdc).symm.trans hqc)
  · rw [hN c hnew] at hqc
    exact absurd hqc Bool.false_ne_true

theorem exists_first?_before (h : Evolves R N t t') (hR : ∀ a b, R a b → q b = q a)
    (hN : ∀ b, N b → q b = false) {b : α} (hb : t'.first? q = some b) :
    ∃ a, t.first? q = some a ∧ key b = key a ∧ R a b := by
  cases ha : t.first? q with
  | some a =>
    obtain ⟨c, hc, hkc, hac⟩ := h.exists_first? hR hN ha
    rw [hb, Option.some_inj] at hc
    subst hc
    exact ⟨a, rfl, hkc, hac⟩
  | none =>
    rw [first?_eq_none_iff] at ha
    have hqb := pred_of_first? hb
    rcases h.source b (mem_of_first? hb) with ⟨a, hmem, -, hab⟩ | ⟨-, hnew⟩
    · rw [hR a b hab, ha a hmem] at hqb
      exact absurd hqb Bool.false_ne_true
    · rw [hN b hnew] at hqb
      exact absurd hqb Bool.false_ne_true

end First

end Evolves

end Table

end KeyedTable
