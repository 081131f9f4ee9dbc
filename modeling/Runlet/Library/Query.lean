import Mathlib.Data.List.Sort
import Mathlib.Data.List.Dedup
import Mathlib.Data.List.Nodup
import Mathlib.Data.String.Basic

/-!
# Queries over lists of rows

What a select statement does with the rows it reads, on plain lists.

* `SortOrder`: which of two rows comes strictly before the other, with the two laws that make it a
  sort order.  Orders are built from linear orders by `ascending` and `descending`, from a flag by
  `flagged`, and chained by `andThen`.
* `orderBy`, `firstBy`: the rows in an order, and the first of them.  Rows that tie keep their
  places.
* `dedupeBy`: the rows whose key was not seen before.
* `leftJoin`: every row with its matches, or with none when it has no match.
* `groupBy`, `rankedFirst`: the rows by a key, and the first row of every group.

`firstBy_eq_some_iff` reads a first row off as the row that no row comes before, where the order
tells the rows apart; `dedupeBy_eq_singleton_iff` says when one row is left.
-/

namespace RowQuery

universe u v w

variable {α : Type u} {β : Type v} {κ : Type w}

/-- Which of two rows comes strictly before the other. -/
structure SortOrder (α : Type u) where
  before : α → α → Bool
  asymm : ∀ a b, before a b = true → before b a = false
  cotrans : ∀ a b c, before a c = true → before a b = true ∨ before b c = true

namespace SortOrder

/-- By increasing value. -/
def ascending [LinearOrder κ] (f : α → κ) : SortOrder α where
  before a b := decide (f a < f b)
  asymm a b h := by
    rw [decide_eq_true_eq] at h
    exact decide_eq_false (lt_asymm h)
  cotrans a b c h := by
    simp only [decide_eq_true_eq] at h ⊢
    exact lt_or_lt_of_lt (f b) h
where
  lt_or_lt_of_lt {x z : κ} (y : κ) (h : x < z) : x < y ∨ y < z :=
    (lt_or_ge x y).imp id fun hyx => lt_of_le_of_lt hyx h

/-- The other way round. -/
def reverse (o : SortOrder α) : SortOrder α where
  before a b := o.before b a
  asymm a b h := o.asymm b a h
  cotrans a b c h := (o.cotrans c b a h).symm

/-- By decreasing value. -/
def descending [LinearOrder κ] (f : α → κ) : SortOrder α :=
  (ascending f).reverse

/-- The rows with the flag first. -/
def flagged (f : α → Bool) : SortOrder α where
  before a b := f a && !f b
  asymm a b h := by
    rw [Bool.and_eq_true, Bool.not_eq_true'] at h
    rw [h.2, Bool.false_and]
  cotrans a b c h := by
    rw [Bool.and_eq_true, Bool.not_eq_true'] at h
    cases hb : f b with
    | false => exact Or.inl (by rw [h.1]; rfl)
    | true => exact Or.inr (by rw [h.2]; rfl)

/-- The order of a column of the rows. -/
def on (o : SortOrder β) (f : α → β) : SortOrder α where
  before a b := o.before (f a) (f b)
  asymm _ _ h := o.asymm _ _ h
  cotrans _ b _ h := o.cotrans _ (f b) _ h

/-- By the first order, and by the second where the first has a tie. -/
def andThen (o o' : SortOrder α) : SortOrder α where
  before a b := o.before a b || (!o.before b a && o'.before a b)
  asymm a b h := by
    rw [Bool.or_eq_true, Bool.and_eq_true, Bool.not_eq_true'] at h
    rcases h with h | ⟨hba, h⟩
    · rw [o.asymm a b h, h]
      rfl
    · rw [hba, o'.asymm a b h, Bool.and_false]
      rfl
  cotrans a b c h := by
    simp only [Bool.or_eq_true, Bool.and_eq_true, Bool.not_eq_true'] at h ⊢
    rcases h with h | ⟨hca, h⟩
    · exact (o.cotrans a b c h).imp Or.inl Or.inl
    · rcases o'.cotrans a b c h with hab | hbc
      · cases hba : o.before b a with
        | false => exact Or.inl (Or.inr ⟨rfl, hab⟩)
        | true =>
          -- the first order already decides between the second row and the third
          rcases o.cotrans b c a hba with hbc | hca'
          · exact Or.inr (Or.inl hbc)
          · rw [hca] at hca'
            exact absurd hca' Bool.false_ne_true
      · cases hcb : o.before c b with
        | false => exact Or.inr (Or.inr ⟨rfl, hbc⟩)
        | true =>
          rcases o.cotrans c a b hcb with hca' | hab
          · rw [hca] at hca'
            exact absurd hca' Bool.false_ne_true
          · exact Or.inl (Or.inl hab)

variable {o o' : SortOrder α} {a b : α}

@[simp] theorem before_ascending [LinearOrder κ] {f : α → κ} :
    (ascending f).before a b = true ↔ f a < f b :=
  decide_eq_true_iff

theorem eq_of_ascending [LinearOrder κ] {f : α → κ} (h : (ascending f).before a b = false)
    (h' : (ascending f).before b a = false) : f a = f b := by
  have hle : f b ≤ f a := not_lt.mp (of_decide_eq_false h)
  have hge : f a ≤ f b := not_lt.mp (of_decide_eq_false h')
  exact le_antisymm hge hle

theorem before_andThen :
    (o.andThen o').before a b = true ↔
      o.before a b = true ∨ (o.before b a = false ∧ o'.before a b = true) := by
  simp only [andThen, Bool.or_eq_true, Bool.and_eq_true, Bool.not_eq_true']

/-- What ties in a chain of orders ties in the first of them. -/
theorem tie_fst_of_andThen (h : (o.andThen o').before a b = false)
    (h' : (o.andThen o').before b a = false) :
    o.before a b = false ∧ o.before b a = false := by
  simp only [andThen, Bool.or_eq_false_iff] at h h'
  exact ⟨h.1, h'.1⟩

/-- What ties in a chain of orders ties in the rest of them. -/
theorem tie_of_andThen (h : (o.andThen o').before a b = false)
    (h' : (o.andThen o').before b a = false) :
    o'.before a b = false ∧ o'.before b a = false := by
  simp only [andThen, Bool.or_eq_false_iff, Bool.and_eq_false_iff, Bool.not_eq_false'] at h h'
  obtain ⟨hab, hba | hab'⟩ := h
  · rw [h'.1] at hba
    exact absurd hba Bool.false_ne_true
  · obtain ⟨hba, h | hba'⟩ := h'
    · rw [hab] at h
      exact absurd h Bool.false_ne_true
    · exact ⟨hab', hba'⟩

/-- One row does not come after the other. -/
def NotAfter (o : SortOrder α) (a b : α) : Prop :=
  o.before b a = false

instance (o : SortOrder α) : DecidableRel o.NotAfter := fun a b =>
  inferInstanceAs (Decidable (o.before b a = false))

instance (o : SortOrder α) : Std.Total o.NotAfter where
  total a b := by
    cases h : o.before b a with
    | false => exact Or.inl h
    | true => exact Or.inr (o.asymm b a h)

instance (o : SortOrder α) : IsTrans α o.NotAfter where
  trans a b c hab hbc := by
    cases h : o.before c a with
    | false => exact h
    | true =>
      rcases o.cotrans c b a h with hcb | hba
      · rw [show o.before c b = false from hbc] at hcb
        exact absurd hcb Bool.false_ne_true
      · rw [show o.before b a = false from hab] at hba
        exact absurd hba Bool.false_ne_true

end SortOrder

/-! ## Rows and their keys -/

section Keys

/-- Rows read from rows under the same keys, one at most from each. -/
theorem sublist_map_filterMap {l : List α} {f : α → Option β} {g : β → κ} {k : α → κ}
    (h : ∀ a ∈ l, ∀ b, f a = some b → g b = k a) :
    ((l.filterMap f).map g).Sublist (l.map k) := by
  induction l with
  | nil => exact List.Sublist.slnil
  | cons a l ih =>
    have hrest := ih fun b hb => h b (List.mem_cons_of_mem _ hb)
    rw [List.map_cons, List.filterMap_cons]
    cases hfa : f a with
    | none => exact hrest.cons _
    | some b =>
      rw [List.map_cons, h a List.mem_cons_self b hfa]
      exact hrest.cons_cons _

/-- Among rows with distinct keys, the ones under the key of a row are that row. -/
theorem filter_eq_singleton {f : α → κ} {l : List α} {p : α → Bool} {a : α}
    (hkeys : (l.map f).Nodup) (ha : a ∈ l) (hp : ∀ b ∈ l, p b = true ↔ f b = f a) :
    l.filter p = [a] := by
  induction l with
  | nil => exact absurd ha List.not_mem_nil
  | cons b l ih =>
    rw [List.map_cons, List.nodup_cons] at hkeys
    have hpl : ∀ c ∈ l, p c = true ↔ f c = f a := fun c hc => hp c (List.mem_cons_of_mem _ hc)
    rcases List.mem_cons.mp ha with rfl | hal
    · rw [List.filter_cons_of_pos ((hp a List.mem_cons_self).mpr rfl)]
      congr 1
      refine List.filter_eq_nil_iff.mpr fun c hc hpc => hkeys.1 ?_
      rw [← (hpl c hc).mp hpc]
      exact List.mem_map_of_mem hc
    · have hb : ¬ p b = true := by
        intro hpb
        refine hkeys.1 ?_
        rw [(hp b List.mem_cons_self).mp hpb]
        exact List.mem_map_of_mem hal
      rw [List.filter_cons_of_neg hb]
      exact ih hkeys.2 hal hpl

theorem length_filter_key_le_one [DecidableEq κ] {f : α → κ} {l : List α}
    (hkeys : (l.map f).Nodup) (k : κ) : (l.filter fun a => f a = k).length ≤ 1 := by
  cases hl : l.filter fun a => f a = k with
  | nil => exact Nat.zero_le 1
  | cons a rest =>
    have ha := List.mem_filter.mp (by rw [hl]; exact List.mem_cons_self :
      a ∈ l.filter fun a => f a = k)
    have hone := filter_eq_singleton (p := fun b => f b = k) hkeys ha.1 fun b _ => by
      rw [decide_eq_true_eq, of_decide_eq_true ha.2]
    rw [← hl, hone]
    exact le_refl 1

end Keys

/-! ## Order and limit -/

section OrderBy

variable (o : SortOrder α) {l : List α} {a : α}

/-- The rows in an order; rows that tie keep their places. -/
def orderBy (l : List α) : List α :=
  l.insertionSort o.NotAfter

/-- The first row in an order. -/
def firstBy (l : List α) : Option α :=
  (orderBy o l).head?

variable {o}

theorem perm_orderBy (l : List α) : (orderBy o l).Perm l :=
  List.perm_insertionSort _ _

@[simp] theorem mem_orderBy : a ∈ orderBy o l ↔ a ∈ l :=
  (perm_orderBy l).mem_iff

theorem firstBy_eq_none_iff : firstBy o l = none ↔ l = [] := by
  unfold firstBy
  rw [List.head?_eq_none_iff, ← List.length_eq_zero_iff, (perm_orderBy l).length_eq,
    List.length_eq_zero_iff]

theorem mem_of_firstBy (h : firstBy o l = some a) : a ∈ l :=
  mem_orderBy.mp (List.mem_of_mem_head? h)

/-- No row comes before the first one. -/
theorem before_firstBy (h : firstBy o l = some a) : ∀ b ∈ l, o.before b a = false := by
  intro b hb
  have hsorted : (orderBy o l).Pairwise o.NotAfter := List.pairwise_insertionSort _ _
  have hmem : b ∈ orderBy o l := mem_orderBy.mpr hb
  obtain ⟨tail, htail⟩ := List.head?_eq_some_iff.mp h
  rw [htail] at hsorted hmem
  rcases List.mem_cons.mp hmem with rfl | hmem
  · cases hbb : o.before b b with
    | false => rfl
    | true => exact hbb.symm.trans (o.asymm b b hbb)
  · exact (List.pairwise_cons.mp hsorted).1 b hmem

variable (o l) in
/-- No row comes before this one. -/
def IsFirst (a : α) : Prop :=
  a ∈ l ∧ ∀ b ∈ l, o.before b a = false

/-- Where the order tells the rows apart, the first row is the one no row comes before. -/
theorem firstBy_eq_some_iff
    (htie : ∀ a ∈ l, ∀ b ∈ l, o.before a b = false → o.before b a = false → a = b) :
    firstBy o l = some a ↔ IsFirst o l a := by
  constructor
  · exact fun h => ⟨mem_of_firstBy h, before_firstBy h⟩
  · rintro ⟨ha, hfirst⟩
    cases h : firstBy o l with
    | none =>
      rw [firstBy_eq_none_iff.mp h] at ha
      exact absurd ha List.not_mem_nil
    | some b =>
      have hb := mem_of_firstBy h
      rw [htie a ha b hb (before_firstBy h a ha) (hfirst b hb)]

end OrderBy

/-! ## Distinct rows -/

section DedupeBy

variable [DecidableEq κ] (f : α → κ)

/-- The rows whose key was not seen before. -/
def dedupeBy : List κ → List α → List α
  | _, [] => []
  | seen, a :: l => if f a ∈ seen then dedupeBy seen l else a :: dedupeBy (f a :: seen) l

variable {f}

theorem mem_of_mem_dedupeBy {l : List α} {seen : List κ} {a : α} (h : a ∈ dedupeBy f seen l) :
    a ∈ l ∧ f a ∉ seen := by
  induction l generalizing seen with
  | nil => exact absurd h List.not_mem_nil
  | cons b l ih =>
    rw [dedupeBy] at h
    split at h
    · exact ⟨List.mem_cons_of_mem b (ih h).1, (ih h).2⟩
    · rename_i hb
      rcases List.mem_cons.mp h with rfl | h
      · exact ⟨List.mem_cons_self, hb⟩
      · exact ⟨List.mem_cons_of_mem b (ih h).1, fun hseen =>
          (ih h).2 (List.mem_cons_of_mem _ hseen)⟩

theorem nodup_map_dedupeBy (seen : List κ) (l : List α) : ((dedupeBy f seen l).map f).Nodup := by
  induction l generalizing seen with
  | nil => exact List.nodup_nil
  | cons b l ih =>
    rw [dedupeBy]
    split
    · exact ih seen
    · rw [List.map_cons, List.nodup_cons]
      refine ⟨fun h => ?_, ih _⟩
      obtain ⟨c, hc, hcb⟩ := List.mem_map.mp h
      exact (mem_of_mem_dedupeBy hc).2 (hcb ▸ List.mem_cons_self)

/-- Every key that was not seen keeps a row. -/
theorem exists_mem_dedupeBy {l : List α} {seen : List κ} {a : α} (ha : a ∈ l) (hseen : f a ∉ seen) :
    ∃ b ∈ dedupeBy f seen l, f b = f a := by
  induction l generalizing seen with
  | nil => exact absurd ha List.not_mem_nil
  | cons c l ih =>
    rw [dedupeBy]
    rcases List.mem_cons.mp ha with rfl | ha
    · rw [if_neg hseen]
      exact ⟨a, List.mem_cons_self, rfl⟩
    · split
      · exact ih ha hseen
      · by_cases hac : f a = f c
        · exact ⟨c, List.mem_cons_self, hac.symm⟩
        · have hnew : f a ∉ f c :: seen := by
            rw [List.mem_cons, not_or]
            exact ⟨hac, hseen⟩
          obtain ⟨b, hb, hba⟩ := ih ha hnew
          exact ⟨b, List.mem_cons_of_mem _ hb, hba⟩

theorem dedupeBy_eq_nil_iff {l : List α} : dedupeBy f [] l = [] ↔ l = [] := by
  constructor
  · intro h
    rw [List.eq_nil_iff_forall_not_mem]
    intro a ha
    obtain ⟨b, hb, -⟩ := exists_mem_dedupeBy (f := f) ha List.not_mem_nil
    rw [h] at hb
    exact absurd hb List.not_mem_nil
  · rintro rfl
    rfl

/-- One row is left exactly when all rows have one key. -/
theorem dedupeBy_eq_singleton_iff {l : List α} :
    (∃ a, dedupeBy f [] l = [a]) ↔ l ≠ [] ∧ ∀ a ∈ l, ∀ b ∈ l, f a = f b := by
  constructor
  · rintro ⟨c, hc⟩
    have hone : ∀ a ∈ l, f c = f a := by
      intro a ha
      obtain ⟨b, hb, hba⟩ := exists_mem_dedupeBy (f := f) ha List.not_mem_nil
      rw [hc, List.mem_singleton] at hb
      rwa [hb] at hba
    refine ⟨?_, fun a ha b hb => (hone a ha).symm.trans (hone b hb)⟩
    rintro rfl
    exact absurd hc (List.cons_ne_nil c []).symm
  · rintro ⟨hne, hone⟩
    have hkeys := nodup_map_dedupeBy (f := f) [] l
    cases hd : dedupeBy f [] l with
    | nil => exact absurd (dedupeBy_eq_nil_iff.mp hd) hne
    | cons a rest =>
      cases rest with
      | nil => exact ⟨a, rfl⟩
      | cons b rest =>
        have ha : a ∈ dedupeBy f [] l := by rw [hd]; exact List.mem_cons_self
        have hb : b ∈ dedupeBy f [] l := by
          rw [hd]
          exact List.mem_cons_of_mem _ List.mem_cons_self
        have hab := hone a (mem_of_mem_dedupeBy ha).1 b (mem_of_mem_dedupeBy hb).1
        rw [hd, List.map_cons, List.map_cons, List.nodup_cons] at hkeys
        exact absurd (hab ▸ List.mem_cons_self) hkeys.1

end DedupeBy

/-! ## Outer joins -/

section LeftJoin

/-- Every row with each of its matches, and with none when it has no match. -/
def leftJoin (found : α → List β) (l : List α) : List (α × Option β) :=
  l.flatMap fun a =>
    match found a with
    | [] => [(a, none)]
    | b :: rest => (b :: rest).map fun c => (a, some c)

variable {found : α → List β} {l : List α}

theorem mem_leftJoin {p : α × Option β} :
    p ∈ leftJoin found l ↔
      p.1 ∈ l ∧ ((p.2 = none ∧ found p.1 = []) ∨ ∃ b ∈ found p.1, p.2 = some b) := by
  obtain ⟨a, o⟩ := p
  unfold leftJoin
  rw [List.mem_flatMap]
  constructor
  · rintro ⟨c, hc, hp⟩
    cases hfound : found c with
    | nil =>
      rw [hfound, List.mem_singleton, Prod.mk.injEq] at hp
      obtain ⟨rfl, rfl⟩ := hp
      exact ⟨hc, Or.inl ⟨rfl, hfound⟩⟩
    | cons b rest =>
      rw [hfound] at hp
      obtain ⟨d, hd, hp⟩ := List.mem_map.mp hp
      rw [Prod.mk.injEq] at hp
      obtain ⟨rfl, rfl⟩ := hp
      exact ⟨hc, Or.inr ⟨d, by rwa [hfound], rfl⟩⟩
  · rintro ⟨ha, ⟨ho, hfound⟩ | ⟨b, hb, ho⟩⟩
    · refine ⟨a, ha, ?_⟩
      simp only at ho hfound
      rw [hfound, ho]
      exact List.mem_singleton.mpr rfl
    · refine ⟨a, ha, ?_⟩
      simp only at ho hb
      cases hfound : found a with
      | nil =>
        rw [hfound] at hb
        exact absurd hb List.not_mem_nil
      | cons c rest =>
        rw [ho]
        exact List.mem_map.mpr ⟨b, hfound ▸ hb, rfl⟩

variable (found) in
/-- The left rows of an outer join are the rows joined. -/
theorem exists_mem_leftJoin {a : α} (ha : a ∈ l) : ∃ o, (a, o) ∈ leftJoin found l := by
  cases hfound : found a with
  | nil => exact ⟨none, mem_leftJoin.mpr ⟨ha, Or.inl ⟨rfl, hfound⟩⟩⟩
  | cons b rest =>
    refine ⟨some b, mem_leftJoin.mpr ⟨ha, Or.inr ⟨b, ?_, rfl⟩⟩⟩
    rw [hfound]
    exact List.mem_cons_self

/-- Where no row has two matches, the join has a row for each row joined. -/
theorem leftJoin_eq_map (h : ∀ a ∈ l, (found a).length ≤ 1) :
    leftJoin found l = l.map fun a => (a, (found a).head?) := by
  induction l with
  | nil => rfl
  | cons a l ih =>
    have hrest := ih fun b hb => h b (List.mem_cons_of_mem _ hb)
    have ha := h a List.mem_cons_self
    unfold leftJoin at hrest ⊢
    rw [List.flatMap_cons, hrest, List.map_cons]
    cases hfound : found a with
    | nil => rfl
    | cons b rest =>
      rw [hfound, List.length_cons] at ha
      have hnil : rest = [] := List.length_eq_zero_iff.mp (by omega)
      rw [hnil]
      rfl

/-- A condition on the left rows can be taken before the join. -/
theorem filter_leftJoin {p : α → Bool} :
    (leftJoin found l).filter (fun row => p row.1) = leftJoin found (l.filter p) := by
  induction l with
  | nil => rfl
  | cons a l ih =>
    unfold leftJoin at ih ⊢
    rw [List.flatMap_cons, List.filter_append, ih]
    cases hp : p a with
    | true =>
      rw [List.filter_cons_of_pos hp, List.flatMap_cons]
      congr 1
      refine List.filter_eq_self.mpr fun row hrow => ?_
      split at hrow
      · rw [List.mem_singleton.mp hrow]
        exact hp
      · obtain ⟨c, -, rfl⟩ := List.mem_map.mp hrow
        exact hp
    | false =>
      rw [List.filter_cons_of_neg (by rw [hp]; exact Bool.false_ne_true)]
      have hnone : ∀ row ∈ (match found a with
          | [] => [(a, none)]
          | b :: rest => (b :: rest).map fun c => (a, some c)), ¬ p row.1 = true := by
        intro row hrow
        split at hrow
        · rw [List.mem_singleton.mp hrow, hp]
          exact Bool.false_ne_true
        · obtain ⟨c, -, rfl⟩ := List.mem_map.mp hrow
          rw [hp]
          exact Bool.false_ne_true
      rw [List.filter_eq_nil_iff.mpr hnone, List.nil_append]

/-- The matches of an outer join, in their order. -/
theorem filterMap_leftJoin :
    (leftJoin found l).filterMap (fun p => p.2) = l.flatMap found := by
  induction l with
  | nil => rfl
  | cons a l ih =>
    unfold leftJoin at ih ⊢
    rw [List.flatMap_cons, List.filterMap_append, ih, List.flatMap_cons]
    congr 1
    cases hfound : found a with
    | nil => rfl
    | cons b rest =>
      rw [List.filterMap_map]
      exact List.filterMap_some

end LeftJoin

/-! ## Groups -/

section GroupBy

variable [DecidableEq κ] (f : α → κ)

/-- The rows under each of the keys that occur. -/
def groupBy (l : List α) : List (κ × List α) :=
  (l.map f).dedup.map fun k => (k, l.filter fun a => f a = k)

/-- The first row of each group: the rows ranked first in their partition. -/
def rankedFirst (o : SortOrder α) (l : List α) : List α :=
  (groupBy f l).filterMap fun g => firstBy o g.2

variable {f} {l : List α}

theorem nodup_keys_groupBy (l : List α) : ((groupBy f l).map Prod.fst).Nodup := by
  unfold groupBy
  rw [List.map_map]
  exact (List.map_id _).symm ▸ List.nodup_dedup _

theorem mem_groupBy {g : κ × List α} :
    g ∈ groupBy f l ↔ (∃ a ∈ l, f a = g.1) ∧ g.2 = l.filter fun a => f a = g.1 := by
  unfold groupBy
  rw [List.mem_map]
  constructor
  · rintro ⟨k, hk, rfl⟩
    rw [List.mem_dedup, List.mem_map] at hk
    exact ⟨hk, rfl⟩
  · rintro ⟨hk, hrows⟩
    refine ⟨g.1, List.mem_dedup.mpr (List.mem_map.mpr hk), ?_⟩
    rw [← hrows]

theorem mem_rankedFirst {o : SortOrder α} {a : α} (h : a ∈ rankedFirst f o l) :
    a ∈ l := by
  obtain ⟨g, hg, ha⟩ := List.mem_filterMap.mp h
  have hmem := mem_of_firstBy ha
  rw [(mem_groupBy.mp hg).2, List.mem_filter] at hmem
  exact hmem.1

theorem group_mem_groupBy {a : α} (ha : a ∈ l) :
    (f a, l.filter fun b => f b = f a) ∈ groupBy f l :=
  mem_groupBy.mpr ⟨⟨a, ha, rfl⟩, rfl⟩

/-- A group that occurs has a first row. -/
theorem exists_firstBy_group {o : SortOrder α} {a : α} (ha : a ∈ l) :
    ∃ b, firstBy o (l.filter fun b => f b = f a) = some b ∧ f b = f a := by
  cases hfirst : firstBy o (l.filter fun b => f b = f a) with
  | none =>
    have hmem : a ∈ l.filter fun b => f b = f a :=
      List.mem_filter.mpr ⟨ha, decide_eq_true rfl⟩
    rw [firstBy_eq_none_iff.mp hfirst] at hmem
    exact absurd hmem List.not_mem_nil
  | some b =>
    exact ⟨b, rfl, of_decide_eq_true (List.mem_filter.mp (mem_of_firstBy hfirst)).2⟩

/-- Every key that occurs has a first row. -/
theorem exists_mem_rankedFirst {o : SortOrder α} {a : α} (ha : a ∈ l) :
    ∃ b ∈ rankedFirst f o l, f b = f a := by
  obtain ⟨b, hfirst, hb⟩ := exists_firstBy_group (f := f) (o := o) ha
  exact ⟨b, List.mem_filterMap.mpr ⟨_, group_mem_groupBy ha, hfirst⟩, hb⟩

/-- One row at most is ranked first under a key. -/
theorem nodup_keys_rankedFirst (o : SortOrder α) (l : List α) :
    ((rankedFirst f o l).map f).Nodup := by
  refine (sublist_map_filterMap fun g hg a ha => ?_).nodup (nodup_keys_groupBy l)
  have hmem := mem_of_firstBy ha
  rw [(mem_groupBy.mp hg).2, List.mem_filter] at hmem
  exact of_decide_eq_true hmem.2

end GroupBy

end RowQuery
