import Mathlib.Data.List.Basic
import Mathlib.Algebra.Ring.Nat

/-!
# The calendar

The proleptic Gregorian calendar, read off an instant.  Days count from 1 January of year 1, a
Monday; instants count microseconds from the epoch, 1 January 1970.

A `Minute` holds the fields of a UTC minute: the minute, the hour, the day of the month, the month
and the day of the week.  It carries the proof that they are fields of some minute, so that the
ranges never have to be proved again.

* `Calendar.minute`: the minute an instant lies in.
* `Calendar.exists_minute`: every combination of a time of day, a date of a leap year and a day of
  the week occurs.
-/

namespace Calendar

/-! ## Dates -/

/-- The lengths of the months of a year. -/
def monthLengths (leap : Bool) : List ℕ :=
  [31, if leap then 29 else 28, 31, 30, 31, 30, 31, 31, 30, 31, 30, 31]

/-- The month and the day of the month of day `n` of a year, counted from `0`.  The months in the
list are the ones from month `month` on. -/
def monthDay : List ℕ → ℕ → ℕ → ℕ × ℕ
  | [], month, n => (month, n + 1)
  | length :: lengths, month, n =>
    if n < length then (month, n + 1) else monthDay lengths (month + 1) (n - length)

/-- Whether the year of a day is a leap year, and the number of days before it in that year. -/
def dayOfYear (day : ℕ) : Bool × ℕ :=
  let inCycle := day % 146097
  let century := inCycle / 36524
  let inCentury := inCycle % 36524
  let fourYears := inCentury / 1461
  let inFourYears := inCentury % 1461
  let year := inFourYears / 365
  -- the last day of a leap year that closes four years, or four centuries
  if century = 4 || year = 4 then (true, 365)
  else (year = 3 && (fourYears ≠ 24 || century = 3), inFourYears % 365)

/-- The month and the day of the month of a day. -/
def date (day : ℕ) : ℕ × ℕ :=
  monthDay (monthLengths (dayOfYear day).1) 1 (dayOfYear day).2

/-- The days a month can have, 29 in February. -/
def monthLength (month : ℕ) : ℕ :=
  (monthLengths true).getD (month - 1) 0

/-- A month and a day of it, in a leap year. -/
def IsDate (month day : ℕ) : Prop :=
  1 ≤ month ∧ month ≤ 12 ∧ 1 ≤ day ∧ day ≤ monthLength month

instance (month day : ℕ) : Decidable (IsDate month day) :=
  inferInstanceAs (Decidable (_ ∧ _))

theorem monthDay_spec (lengths : List ℕ) (month n : ℕ) (h : n < lengths.sum) :
    ∃ i, (monthDay lengths month n).1 = month + i ∧ i < lengths.length ∧
      1 ≤ (monthDay lengths month n).2 ∧ (monthDay lengths month n).2 ≤ lengths.getD i 0 := by
  induction lengths generalizing month n with
  | nil => simp at h
  | cons length lengths ih =>
    rw [List.sum_cons] at h
    by_cases hn : n < length
    · refine ⟨0, ?_⟩
      simp only [monthDay, if_pos hn]
      simp
      omega
    · obtain ⟨i, hmonth, hi, hone, hle⟩ := ih (month + 1) (n - length) (by omega)
      refine ⟨i + 1, ?_⟩
      simp only [monthDay, if_neg hn, List.getD_cons_succ, List.length_cons]
      exact ⟨by omega, by omega, hone, hle⟩

/-- A day of a month is reached by skipping the months before it. -/
theorem monthDay_of_lt (lengths : List ℕ) (month i d : ℕ) (hi : i < lengths.length)
    (hd : d < lengths.getD i 0) :
    monthDay lengths month ((lengths.take i).sum + d) = (month + i, d + 1) := by
  induction lengths generalizing month i with
  | nil => simp at hi
  | cons length lengths ih =>
    cases i with
    | zero =>
      rw [List.getD_cons_zero] at hd
      simp [monthDay, hd]
    | succ i =>
      rw [List.getD_cons_succ] at hd
      rw [List.length_cons] at hi
      have hrest := ih (month + 1) i (by omega) hd
      have hnot : ¬ ((List.take (i + 1) (length :: lengths)).sum + d < length) := by
        rw [List.take_succ_cons, List.sum_cons]
        omega
      have hsub : (List.take (i + 1) (length :: lengths)).sum + d - length =
          (lengths.take i).sum + d := by
        rw [List.take_succ_cons, List.sum_cons]
        omega
      rw [monthDay, if_neg hnot, hsub, hrest]
      congr 1
      omega

theorem dayOfYear_lt (day : ℕ) : (dayOfYear day).2 < (monthLengths (dayOfYear day).1).sum := by
  have hlong : (monthLengths true).sum = 366 := by decide
  have hshort : ∀ leap, 365 ≤ (monthLengths leap).sum := by decide
  simp only [dayOfYear]
  split
  · rw [hlong]
    exact Nat.lt_succ_self 365
  · exact lt_of_lt_of_le (Nat.mod_lt _ (by decide)) (hshort _)

theorem getD_monthLengths_le (leap : Bool) (i : ℕ) (hi : i < 12) :
    (monthLengths leap).getD i 0 ≤ (monthLengths true).getD i 0 := by
  revert i leap
  decide

theorem isDate_date (day : ℕ) : IsDate (date day).1 (date day).2 := by
  obtain ⟨i, hmonth, hi, hone, hle⟩ :=
    monthDay_spec (monthLengths (dayOfYear day).1) 1 (dayOfYear day).2 (dayOfYear_lt day)
  have hlength : (monthLengths (dayOfYear day).1).length = 12 := rfl
  have hlast : (date day).2 ≤ (monthLengths true).getD i 0 :=
    le_trans hle (getD_monthLengths_le _ i (by omega))
  have hindex : (date day).1 - 1 = i := by
    unfold date
    omega
  refine ⟨?_, ?_, hone, ?_⟩
  · unfold date
    omega
  · unfold date
    omega
  · rw [monthLength, hindex]
    exact hlast

/-! ## Minutes -/

/-- The fields of a UTC minute; `weekday` counts from Monday. -/
structure Minute where
  minute : ℕ
  hour : ℕ
  day : ℕ
  month : ℕ
  weekday : ℕ
  minute_lt : minute < 60
  hour_lt : hour < 24
  isDate : IsDate month day
  weekday_lt : weekday < 7

/-- The length of a minute, in microseconds. -/
def microseconds : ℕ := 60000000

/-- The days before the epoch. -/
def epoch : ℕ := 719162

/-- The day of an instant. -/
def dayOf (instant : ℕ) : ℕ :=
  epoch + instant / microseconds / 1440

/-- The minute an instant lies in. -/
def minute (instant : ℕ) : Minute where
  minute := instant / microseconds % 60
  hour := instant / microseconds / 60 % 24
  day := (date (dayOf instant)).2
  month := (date (dayOf instant)).1
  weekday := dayOf instant % 7
  minute_lt := Nat.mod_lt _ (by decide)
  hour_lt := Nat.mod_lt _ (by decide)
  isDate := isDate_date _
  weekday_lt := Nat.mod_lt _ (by decide)

theorem minute_minute (instant : ℕ) :
    (minute instant).minute = instant / microseconds % 60 := rfl

theorem minute_hour (instant : ℕ) :
    (minute instant).hour = instant / microseconds / 60 % 24 := rfl

theorem minute_day (instant : ℕ) : (minute instant).day = (date (dayOf instant)).2 := rfl

theorem minute_month (instant : ℕ) : (minute instant).month = (date (dayOf instant)).1 := rfl

theorem minute_weekday (instant : ℕ) : (minute instant).weekday = dayOf instant % 7 := rfl

/-- The start of the minute an instant lies in. -/
def startOfMinute (instant : ℕ) : ℕ :=
  instant - instant % microseconds

theorem startOfMinute_div (instant : ℕ) :
    startOfMinute instant / microseconds = instant / microseconds := by
  unfold startOfMinute microseconds
  omega

@[simp] theorem minute_startOfMinute (instant : ℕ) :
    minute (startOfMinute instant) = minute instant := by
  simp only [minute, dayOf, startOfMinute_div]

theorem startOfMinute_mono {s t : ℕ} (h : s ≤ t) : startOfMinute s ≤ startOfMinute t := by
  unfold startOfMinute microseconds
  omega

theorem startOfMinute_eq_iff {s t : ℕ} :
    startOfMinute s = startOfMinute t ↔ s / microseconds = t / microseconds := by
  constructor
  · intro h
    rw [← startOfMinute_div s, ← startOfMinute_div t, h]
  · intro h
    have hs := Nat.div_add_mod s microseconds
    have ht := Nat.div_add_mod t microseconds
    unfold startOfMinute
    rw [h] at hs
    omega

/-! ## Every combination occurs -/

/-- The calendar repeats after 400 years. -/
theorem date_add_cycles (day c : ℕ) : date (day + 146097 * c) = date day := by
  have hcycle : dayOfYear (day + 146097 * c) = dayOfYear day := by
    simp only [dayOfYear, Nat.add_mul_mod_self_left]
  rw [date, date, hcycle]

/-- The leap years of 28 years start on the seven days of the week. -/
theorem exists_leapYear (weekday offset : ℕ) (hw : weekday < 7) :
    ∃ k < 7, (1461 * k + 1095 + offset) % 7 = weekday :=
  -- 1461 is 5 modulo 7, and 3 inverts 5
  ⟨3 * (weekday + 7 - (1095 + offset) % 7) % 7, Nat.mod_lt _ (by decide), by omega⟩

theorem dayOfYear_leapYear (k offset : ℕ) (hk : k < 7) (h : offset < 366) :
    dayOfYear (1461 * k + 1095 + offset) = (true, offset) := by
  have hday : (1461 * k + 1095 + offset) % 146097 = 1461 * k + (1095 + offset) := by omega
  have hcentury : (1461 * k + (1095 + offset)) / 36524 = 0 := by omega
  have hrest : (1461 * k + (1095 + offset)) % 36524 = 1461 * k + (1095 + offset) := by omega
  have hfour : (1461 * k + (1095 + offset)) / 1461 = k := by omega
  have hin : (1461 * k + (1095 + offset)) % 1461 = 1095 + offset := by omega
  simp only [dayOfYear, hday, hcentury, hrest, hfour, hin]
  rcases Nat.lt_or_ge offset 365 with hlt | hge
  · have hyear : (1095 + offset) / 365 = 3 := by omega
    have hoffset : (1095 + offset) % 365 = offset := by omega
    simp [hyear, hoffset]
    omega
  · obtain rfl : offset = 365 := by omega
    simp

theorem date_leapYear (k month day : ℕ) (hk : k < 7) (h : IsDate month day) :
    date (1461 * k + 1095 + (((monthLengths true).take (month - 1)).sum + (day - 1))) =
      (month, day) := by
  obtain ⟨hm, hm', hd, hd'⟩ := h
  have hoffset : ((monthLengths true).take (month - 1)).sum + (day - 1) < 366 := by
    have hsum : ∀ i < 12, ((monthLengths true).take i).sum + (monthLengths true).getD i 0 ≤ 366 := by
      decide
    have hle := hsum (month - 1) (by omega)
    unfold monthLength at hd'
    omega
  have hlength : month - 1 < (monthLengths true).length := by
    have h12 : (monthLengths true).length = 12 := rfl
    omega
  have hlast : day - 1 < (monthLengths true).getD (month - 1) 0 := by
    unfold monthLength at hd'
    omega
  rw [date, dayOfYear_leapYear k _ hk hoffset, monthDay_of_lt _ _ _ _ hlength hlast]
  congr 1
  · omega
  · omega

/-- Every date falls on every day of the week, after the epoch. -/
theorem exists_day {month day weekday : ℕ} (hdate : IsDate month day) (hw : weekday < 7) :
    ∃ d, date (epoch + d) = (month, day) ∧ (epoch + d) % 7 = weekday := by
  obtain ⟨k, hk, hkw⟩ :=
    exists_leapYear weekday (((monthLengths true).take (month - 1)).sum + (day - 1)) hw
  have hdates := date_leapYear k month day hk hdate
  generalize 1461 * k + 1095 + (((monthLengths true).take (month - 1)).sum + (day - 1)) = d
    at hkw hdates
  -- five cycles of 400 years take the day past the epoch
  have hpast : epoch + (d + 146097 * 5 - epoch) = d + 146097 * 5 := by
    unfold epoch
    omega
  refine ⟨d + 146097 * 5 - epoch, ?_, ?_⟩
  · rw [hpast, date_add_cycles, hdates]
  · rw [hpast]
    omega

/-- **Every combination of fields occurs.** -/
theorem exists_minute {m h day month weekday : ℕ} (hm : m < 60) (hh : h < 24)
    (hdate : IsDate month day) (hw : weekday < 7) :
    ∃ instant, (minute instant).minute = m ∧ (minute instant).hour = h ∧
      (minute instant).day = day ∧ (minute instant).month = month ∧
      (minute instant).weekday = weekday := by
  obtain ⟨d, hdates, hdw⟩ := exists_day hdate hw
  have hmicro : (d * 1440 + h * 60 + m) * microseconds / microseconds = d * 1440 + h * 60 + m :=
    Nat.mul_div_cancel _ (by decide)
  have hday : dayOf ((d * 1440 + h * 60 + m) * microseconds) = epoch + d := by
    rw [dayOf, hmicro]
    omega
  refine ⟨(d * 1440 + h * 60 + m) * microseconds, ?_, ?_, ?_, ?_, ?_⟩
  · rw [minute_minute, hmicro]
    omega
  · rw [minute_hour, hmicro]
    omega
  · rw [minute_day, hday, hdates]
  · rw [minute_month, hday, hdates]
  · rw [minute_weekday, hday, hdw]

/-- 2 April 2026 is a Thursday. -/
example : date 739707 = (4, 2) ∧ 739707 % 7 = 3 := by decide

end Calendar
