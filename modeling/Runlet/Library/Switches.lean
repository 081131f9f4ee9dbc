import Runlet.Library.Table

/-!
# Rows that are switched off and on

A `Switch` is a pair of opposite updates of a table: `off` rewrites rows that are on, `on` rewrites
rows that are off.  A row can be neither.  `Switch.apply` switches off the rows under some keys and
then on the rows under others.

Where the keys were chosen among the rows that are on, and among the rows that are off
(`Switch.Chosen`), no row is switched twice, and `Switch.apply` is one row map: `mem_apply`,
`get?_apply`.
-/

namespace KeyedTable

universe u v

/-- Two opposite updates of the rows of a table. -/
structure Switch (α : Type v) {κ : outParam (Type u)} [Keyed κ α] where
  isOn : α → Bool
  isOff : α → Bool
  off : α → α
  on : α → α
  key_off : ∀ a, key (off a) = key a
  key_on : ∀ a, key (on a) = key a
  exclusive : ∀ a, isOn a = true → isOff a = false

namespace Switch

variable {κ : Type u} {α : Type v} [Keyed κ α] [DecidableEq κ]

/-- Switch off the rows under some keys, then on the rows under others. -/
def apply (sw : Switch α) (offKeys onKeys : List κ) (t : Table α) : Table α :=
  (t.updateListed offKeys sw.isOn sw.off sw.key_off).updateListed onKeys sw.isOff sw.on sw.key_on

/-- The keys were chosen among the rows that are on, and among those that are off. -/
structure Chosen (sw : Switch α) (offKeys onKeys : List κ) (t : Table α) : Prop where
  off : ∀ a ∈ t, key a ∈ offKeys → sw.isOn a = true
  on : ∀ a ∈ t, key a ∈ onKeys → sw.isOff a = true

/-- The row map of a switch. -/
def row (sw : Switch α) (offKeys onKeys : List κ) (a : α) : α :=
  if key a ∈ offKeys then sw.off a else if key a ∈ onKeys then sw.on a else a

variable {sw : Switch α} {offKeys onKeys : List κ} {t : Table α}

theorem key_row (a : α) : key (sw.row offKeys onKeys a) = key a := by
  unfold row
  split
  · exact sw.key_off a
  · split
    · exact sw.key_on a
    · rfl

/-- A switch neither adds nor removes a row. -/
theorem map_key_apply : (sw.apply offKeys onKeys t).rows.map key = t.rows.map key :=
  (map_key_update sw.key_on).trans (map_key_update sw.key_off)
where
  map_key_update {t : Table α} {p : α → Bool} {f : α → α} (hf : ∀ a, key (f a) = key a) :
      (t.update p f hf).rows.map key = t.rows.map key := by
    rw [Table.rows_update, List.map_map]
    exact List.map_congr_left fun a _ => Table.key_rewrite hf a

theorem row_of_off {a : α} (h : key a ∈ offKeys) : sw.row offKeys onKeys a = sw.off a := by
  unfold row
  rw [if_pos h]

theorem row_of_on {a : α} (hoff : key a ∉ offKeys) (h : key a ∈ onKeys) :
    sw.row offKeys onKeys a = sw.on a := by
  unfold row
  rw [if_neg hoff, if_pos h]

theorem row_of_notMem {a : α} (hoff : key a ∉ offKeys) (hon : key a ∉ onKeys) :
    sw.row offKeys onKeys a = a := by
  unfold row
  rw [if_neg hoff, if_neg hon]

omit [DecidableEq κ] in
/-- No key is chosen for both. -/
theorem Chosen.notMem_on (h : sw.Chosen offKeys onKeys t) {a : α} (ha : a ∈ t)
    (hoff : key a ∈ offKeys) : key a ∉ onKeys := by
  intro hon
  have hfalse := sw.exclusive a (h.off a ha hoff)
  rw [h.on a ha hon] at hfalse
  exact Bool.false_ne_true hfalse.symm

omit [DecidableEq κ] in
theorem Chosen.notMem_off (h : sw.Chosen offKeys onKeys t) {a : α} (ha : a ∈ t)
    (hon : key a ∈ onKeys) : key a ∉ offKeys := fun hoff => h.notMem_on ha hoff hon

/-- The row that the first update leaves. -/
def rowOff (sw : Switch α) (offKeys : List κ) (a : α) : α :=
  if key a ∈ offKeys ∧ sw.isOn a = true then sw.off a else a

/-- The two updates, on one row. -/
theorem Chosen.row_eq (h : sw.Chosen offKeys onKeys t) {a : α} (ha : a ∈ t) :
    (if key (sw.rowOff offKeys a) ∈ onKeys ∧ sw.isOff (sw.rowOff offKeys a) = true then
        sw.on (sw.rowOff offKeys a)
      else sw.rowOff offKeys a) = sw.row offKeys onKeys a := by
  by_cases hoff : key a ∈ offKeys
  · have hrow : sw.rowOff offKeys a = sw.off a := if_pos ⟨hoff, h.off a ha hoff⟩
    rw [hrow, sw.key_off, if_neg fun hon => h.notMem_on ha hoff hon.1, row_of_off hoff]
  · have hrow : sw.rowOff offKeys a = a := if_neg fun hcond => hoff hcond.1
    rw [hrow]
    by_cases hon : key a ∈ onKeys
    · rw [if_pos ⟨hon, h.on a ha hon⟩, row_of_on hoff hon]
    · rw [if_neg fun hcond => hon hcond.1, row_of_notMem hoff hon]

/-- **Switching the chosen rows is one row map.** -/
theorem mem_apply (h : sw.Chosen offKeys onKeys t) {b : α} :
    b ∈ sw.apply offKeys onKeys t ↔ ∃ a ∈ t, b = sw.row offKeys onKeys a := by
  unfold apply
  rw [Table.mem_updateListed]
  constructor
  · rintro ⟨c, hc, rfl⟩
    obtain ⟨a, ha, rfl⟩ := Table.mem_updateListed.mp hc
    exact ⟨a, ha, h.row_eq ha⟩
  · rintro ⟨a, ha, rfl⟩
    exact ⟨_, Table.mem_updateListed.mpr ⟨a, ha, rfl⟩, (h.row_eq ha).symm⟩

theorem get?_apply (h : sw.Chosen offKeys onKeys t) (k : κ) :
    (sw.apply offKeys onKeys t).get? k = (t.get? k).map (sw.row offKeys onKeys) := by
  cases hget : t.get? k with
  | none =>
    rw [Table.get?_eq_none_iff] at hget
    rw [Option.map_none, Table.get?_eq_none_iff]
    intro b hb
    obtain ⟨a, ha, rfl⟩ := (mem_apply h).mp hb
    rw [key_row]
    exact hget a ha
  | some a =>
    obtain ⟨ha, hk⟩ := Table.get?_eq_some_iff.mp hget
    rw [Option.map_some, Table.get?_eq_some_iff, key_row]
    exact ⟨(mem_apply h).mpr ⟨a, ha, rfl⟩, hk⟩

/-- A row that is not on and not chosen to be switched on stays as it is. -/
theorem row_eq_self (h : sw.Chosen offKeys onKeys t) {a : α} (ha : a ∈ t)
    (hoff : sw.isOn a = false) (hon : key a ∉ onKeys) : sw.row offKeys onKeys a = a := by
  refine row_of_notMem (fun hkey => ?_) hon
  rw [h.off a ha hkey] at hoff
  exact Bool.false_ne_true hoff.symm

/-- Switching changes nothing when no listed row is in the state to be switched. -/
theorem apply_eq_self (hoff : ∀ a ∈ t, key a ∈ offKeys → sw.isOn a = false)
    (hon : ∀ a ∈ t, key a ∈ onKeys → sw.isOff a = false) : sw.apply offKeys onKeys t = t := by
  unfold apply
  rw [Table.updateListed_eq_self hoff, Table.updateListed_eq_self hon]

/-- Where a row that was switched off is no longer on and a row that was switched on no longer off,
switching the same rows again changes nothing, unless a key is listed for both.  The second time
may be another switch of the same rows. -/
theorem apply_apply (hoff : ∀ a, sw.isOn (sw.off a) = false) (hon : ∀ a, sw.isOff (sw.on a) = false)
    (hdisjoint : offKeys.Disjoint onKeys) (sw' : Switch α) (hisOn : sw'.isOn = sw.isOn)
    (hisOff : sw'.isOff = sw.isOff) :
    sw'.apply offKeys onKeys (sw.apply offKeys onKeys t) = sw.apply offKeys onKeys t := by
  refine apply_eq_self (fun c hc hkey => ?_) fun c hc hkey => ?_
  · rw [hisOn]
    obtain ⟨b, hb, rfl⟩ := Table.mem_updateListed.mp hc
    obtain ⟨a, ha, rfl⟩ := Table.mem_updateListed.mp hb
    -- a row that is listed to be switched off is not switched on
    have hkey' : key (if key a ∈ offKeys ∧ sw.isOn a = true then sw.off a else a) ∈ offKeys := by
      rw [apply_ite key, sw.key_on, ite_self] at hkey
      exact hkey
    rw [if_neg fun h => hdisjoint hkey' h.1]
    rw [apply_ite key, sw.key_off, ite_self] at hkey'
    by_cases hisOn : sw.isOn a = true
    · rw [if_pos ⟨hkey', hisOn⟩]
      exact hoff a
    · rw [if_neg fun h => hisOn h.2]
      exact Bool.eq_false_iff.mpr hisOn
  · rw [hisOff]
    obtain ⟨b, hb, rfl⟩ := Table.mem_updateListed.mp hc
    rw [apply_ite key, sw.key_on, ite_self] at hkey
    by_cases hisOff : sw.isOff b = true
    · rw [if_pos ⟨hkey, hisOff⟩]
      exact hon b
    · rw [if_neg fun h => hisOff h.2]
      exact Bool.eq_false_iff.mpr hisOff

/-- A row that is not listed stays. -/
theorem get?_apply_of_notMem {k : κ} (hoff : k ∉ offKeys) (hon : k ∉ onKeys) :
    (sw.apply offKeys onKeys t).get? k = t.get? k := by
  unfold apply
  rw [Table.updateListed, Table.get?_update, Table.updateListed, Table.get?_update]
  cases hget : t.get? k with
  | none => rfl
  | some a =>
    have hk := Table.key_of_get? hget
    have hfirst : Table.rewrite (fun a => key a ∈ offKeys && sw.isOn a) sw.off a = a :=
      Table.rewrite_of_neg _ _ (by simp [hk, hoff])
    have hsecond : Table.rewrite (fun a => key a ∈ onKeys && sw.isOff a) sw.on a = a :=
      Table.rewrite_of_neg _ _ (by simp [hk, hon])
    simp only [Option.map_some, hfirst, hsecond]

end Switch

end KeyedTable
