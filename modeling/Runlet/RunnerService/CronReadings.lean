import Runlet.Library.Cron
import Runlet.RunnerService.Scheduler

/-!
# Two readings of a cron field

A field of a schedule is read twice: by the scheduling package, as a field of its cron language,
and by `cronFieldMatches`, which knows `*`, `*/n` and a number.  `shape` is the way the second
reader sees a field.  `Reading` says, for each shape, which values either reader accepts:

* of `*` and of a number they accept the same values;
* of `*/n` the package accepts the values at a distance divisible by `n` from the least one, and
  `cronFieldMatches` the values divisible by `n`;
* of everything else `cronFieldMatches` accepts nothing.
-/

namespace Runlet

open Scheduler

namespace CronReadings

/-- What `cronFieldMatches` sees in a field. -/
inductive Shape where
  | any
  | every (n : ℕ)
  | value (n : ℕ)
  | unreadable
  deriving DecidableEq

def shape (field : String) : Shape :=
  if field = "*" then .any
  else if Text.startsWith "*/" field then
    match Text.parseInt (Text.dropChars 2 field) with
    | none => .unreadable
    | some interval => .every interval.toNat
  else
    match Text.parseInt field with
    | none => .unreadable
    | some expected => .value expected.toNat

/-- The values the two readers accept of a field. -/
inductive Reading {lo hi : ℕ} (code : ℕ → Bool) (field : Cron.Field lo hi) : Shape → Prop
  | any (hcode : ∀ v, code v = true) (hfield : ∀ v, field.matches v ↔ lo ≤ v ∧ v ≤ hi) :
      Reading code field .any
  | every {n : ℕ} (hn : 0 < n) (hcode : ∀ v, code v ↔ v % n = 0)
      (hfield : ∀ v, field.matches v ↔ lo ≤ v ∧ v ≤ hi ∧ (v - lo) % n = 0) :
      Reading code field (.every n)
  | value {n : ℕ} (hlo : lo ≤ n) (hhi : n ≤ hi) (hcode : ∀ v, code v ↔ v = n)
      (hfield : ∀ v, field.matches v ↔ v = n) : Reading code field (.value n)
  | unreadable (hcode : ∀ v, code v = false) : Reading code field .unreadable

/-! ## Every accepted field has a reading -/

variable {lo hi : ℕ} {names : List String} {field : String} {parsed : Cron.Field lo hi}

theorem shape_eq_any_iff : shape field = .any ↔ field = "*" := by
  unfold shape
  split
  · rename_i h
    simp [h]
  · rename_i h
    simp only [h, iff_false]
    split
    · split <;> exact Shape.noConfusion
    · split <;> exact Shape.noConfusion

theorem toList_of_startsWith (h : Text.startsWith "*/" field = true) :
    field.toList = '*' :: '/' :: (Text.dropChars 2 field).toList := by
  have hinitial : ['*', '/'] <+: field.toList := List.isPrefixOf_iff_prefix.mp h
  obtain ⟨rest, hrest⟩ := hinitial
  rw [Text.dropChars, String.toList_ofList, ← hrest]
  rfl

/-- The digits of a step: what `int` reads after `*/`, the package reads as a number. -/
theorem parseDigits_of_step {k : ℤ} (hword : Text.IsWord field)
    (hstart : Text.startsWith "*/" field = true)
    (hint : Text.parseInt (Text.dropChars 2 field) = some k)
    (h : Cron.parseField lo hi names field = some parsed) :
    ∃ n : ℕ, k = n ∧ Text.parseDigits (Text.dropChars 2 field).toList = some n := by
  have hlist := toList_of_startsWith hstart
  have hno : ∀ c : Char, c.isDigit = false ∧ c ≠ '_' ∧ c ≠ '-' ∧ c ≠ '+' →
      c ∉ (Text.dropChars 2 field).toList :=
    fun c hc => Text.notMem_of_parseInt (hword.dropChars 2) hint hc
  have hcomma : ',' ∉ field.toList := by
    rw [hlist]
    simp [hno ',' (by decide)]
  have hsplit : field.toList.splitOn '/' = [['*'], (Text.dropChars 2 field).toList] := by
    have happend : field.toList = ['*'] ++ '/' :: (Text.dropChars 2 field).toList := hlist
    rw [happend, List.splitOn_append_cons_self_of_not_mem (by decide),
      List.splitOn_eq_singleton (hno '/' (by decide))]
  rw [Cron.parseField_of_notMem hcomma, Cron.parseTerm, hsplit] at h
  obtain ⟨term, hterm, -⟩ := Option.map_eq_some_iff.mp h
  obtain ⟨n, hn, -⟩ := Option.bind_eq_some_iff.mp hterm
  have hk := Text.parseInt_of_parseDigits hn
  rw [hint] at hk
  exact ⟨n, Option.some.inj hk, hn⟩

/-- **Every accepted field has a reading.** -/
theorem reading (hnames : Cron.AreNames names) (hword : Text.IsWord field)
    (h : Cron.parseField lo hi names field = some parsed) :
    Reading (cronFieldMatches field) parsed (shape field) := by
  unfold shape
  split
  · rename_i hany
    subst hany
    exact .any (fun _ => rfl) (Cron.parseField_any h)
  rename_i hany
  split
  · rename_i hstart
    split
    · rename_i hint
      refine .unreadable fun v => ?_
      rw [cronFieldMatches, if_neg hany, if_pos hstart, hint]
    · rename_i k hint
      obtain ⟨n, rfl, hn⟩ := parseDigits_of_step hword hstart hint h
      obtain ⟨hpos, hfield⟩ := Cron.parseField_every (toList_of_startsWith hstart) hn h
      refine .every (by simpa using hpos) (fun v => ?_) (by simpa using hfield)
      rw [cronFieldMatches, if_neg hany, if_pos hstart, hint]
      simp [hpos]
      omega
  · rename_i hstart
    split
    · rename_i hint
      refine .unreadable fun v => ?_
      rw [cronFieldMatches, if_neg hany, if_neg hstart, hint]
    · rename_i k hint
      obtain ⟨n, rfl, hn⟩ := Cron.parseDigits_of_parseInt hnames hword hint h
      obtain ⟨hlo, hhi, hfield⟩ := Cron.parseField_value hn h
      refine .value (by simpa using hlo) (by simpa using hhi) (fun v => ?_) (by simpa using hfield)
      rw [cronFieldMatches, if_neg hany, if_neg hstart, hint]
      simp
      omega

/-- Of the days of the week the package accepts, `cronWeekdayMatches` reads what
`cronFieldMatches` reads: the number `7` is not among them. -/
theorem cronWeekdayMatches_eq (hnames : Cron.AreNames names) (hword : Text.IsWord field)
    {parsed : Cron.Field 0 6} (h : Cron.parseField 0 6 names field = some parsed) (v : ℕ) :
    cronWeekdayMatches field v = cronFieldMatches field v := by
  unfold cronWeekdayMatches cronFieldMatches
  split
  · rfl
  split
  · rfl
  cases hint : Text.parseInt field with
  | none => rfl
  | some k =>
    obtain ⟨n, rfl, hn⟩ := Cron.parseDigits_of_parseInt hnames hword hint h
    obtain ⟨-, hhi, -⟩ := Cron.parseField_value hn h
    have hseven : ¬ (n : ℤ) = 7 := by omega
    have hrange : ¬ ((n : ℤ) < 0 ∨ 6 < (n : ℤ)) := by omega
    simp [hseven]
    omega

/-! ## Comparing the two readings -/

variable {code : ℕ → Bool} {s : Shape}

/-- The shapes of which both readers accept the same values, whatever the least value is. -/
def Shape.Plain : Shape → Prop
  | .any => True
  | .every n => n = 1
  | .value _ => True
  | .unreadable => False

instance (s : Shape) : Decidable s.Plain := by
  unfold Shape.Plain
  split <;> infer_instance

theorem Reading.same_of_plain (h : Reading code parsed s) (hs : s.Plain) {v : ℕ} (hlo : lo ≤ v)
    (hhi : v ≤ hi) : code v = true ↔ parsed.matches v = true := by
  cases h with
  | any hcode hfield => simp [hcode, hfield, hlo, hhi]
  | every hn hcode hfield =>
    obtain rfl : _ = 1 := hs
    rw [hcode, hfield, Nat.mod_one, Nat.mod_one]
    simp [hlo, hhi]
  | value _ _ hcode hfield => rw [hcode, hfield]
  | unreadable => exact absurd hs id

/-- A field whose least value is `0` is read the same when it is read at all. -/
theorem Reading.same_of_readable {parsed : Cron.Field 0 hi} (h : Reading code parsed s)
    (hs : s ≠ .unreadable) {v : ℕ} (hhi : v ≤ hi) : code v = true ↔ parsed.matches v = true := by
  cases h with
  | any hcode hfield => simp [hcode, hfield, hhi]
  | every hn hcode hfield =>
    rw [hcode, hfield, Nat.sub_zero]
    simp [hhi]
  | value _ _ hcode hfield => rw [hcode, hfield]
  | unreadable => exact absurd rfl hs

theorem Reading.readable_of_code (h : Reading code parsed s) {v : ℕ} (hv : code v = true) :
    s ≠ .unreadable := by
  rintro rfl
  cases h with
  | unreadable hcode =>
    rw [hcode] at hv
    exact Bool.noConfusion hv

theorem Reading.code_eq_false (h : Reading code parsed .unreadable) (v : ℕ) : code v = false := by
  cases h with
  | unreadable hcode => exact hcode v

/-- A readable field with the least value `1` that both readers find `1` in, or neither, is plain. -/
theorem Reading.plain_of_one {parsed : Cron.Field 1 hi} (h : Reading code parsed s)
    (hhi : 1 ≤ hi) (hs : s ≠ .unreadable) (hone : parsed.matches 1 = true → code 1 = true) :
    s.Plain := by
  cases h with
  | any => trivial
  | every hn hcode hfield =>
    have hmem := (hcode 1).mp (hone ((hfield 1).mpr ⟨le_rfl, hhi, by simp⟩))
    exact Nat.dvd_one.mp (Nat.dvd_of_mod_eq_zero hmem)
  | value => trivial
  | unreadable => exact absurd rfl hs

end CronReadings

end Runlet
