import Runlet.RunnerService.CronReadings

/-!
# When the two cron engines agree

A schedule is accepted when the scheduling package can read it, and it is the package that fires;
whether a fire starts a run is then decided by `cronMatches`.  The two agree on a schedule when
every minute at which the trigger fires matches, and no other minute does.

They part over more than a detail.  `cronMatches` knows no ranges, lists and names, counts steps of
days and months from zero, numbers the days of the week from Sunday, and joins a day of the month
and a day of the week by "or".  `Schedule.SameOnDates` is what is left of the language when the
trigger fires at all; when it never does, because no date has the day and the month of the
schedule, `Schedule.NeverRead` says that `cronMatches` accepts nothing either.

The package is a parameter, with its documented meaning as a hypothesis: `Documented`.
-/

namespace Runlet

open Scheduler CronReadings Calendar

namespace CronAgreement

/-- The documented meaning of the package: it accepts cron expressions only, and a trigger in UTC
fires at the minutes that match its expression. -/
def Documented (fromCrontab : FromCrontab) : Prop :=
  ∀ scheduleExpr trigger, fromCrontab scheduleExpr "UTC" = some trigger →
    ∃ expr, Cron.parse scheduleExpr = some expr ∧
      ∀ t, trigger.fires t = expr.matches (Calendar.minute t)

/-- An accepted schedule: its five fields, as text and as the package reads them. -/
structure Schedule where
  minute : String
  hour : String
  day : String
  month : String
  weekday : String
  expr : Cron.Expr
  minuteReading : Reading (cronFieldMatches minute) expr.minute (shape minute)
  hourReading : Reading (cronFieldMatches hour) expr.hour (shape hour)
  dayReading : Reading (cronFieldMatches day) expr.day (shape day)
  monthReading : Reading (cronFieldMatches month) expr.month (shape month)
  weekdayReading : Reading (cronFieldMatches weekday) expr.dayOfWeek (shape weekday)

namespace Schedule

variable (s : Schedule)

/-! ## The condition -/

/-- Some date has the day and the month of the schedule. -/
def HasDate : Prop :=
  ∃ month day, IsDate month day ∧ s.expr.month.matches month = true ∧
    s.expr.day.matches day = true

/-- Every date of the months of the schedule has a day of the schedule. -/
def EveryDate : Prop :=
  ∀ month day, IsDate month day → s.expr.month.matches month = true →
    s.expr.day.matches day = true

/-- The schedule names every day of the week. -/
def EveryWeekday : Prop :=
  ∀ w, w < 7 → s.expr.dayOfWeek.matches w = true

/-- The schedules that fire at the minutes they match. -/
def SameOnDates : Prop :=
  shape s.minute ≠ .unreadable ∧ shape s.hour ≠ .unreadable ∧ (shape s.month).Plain ∧
    ((shape s.weekday = .any ∧ (shape s.day).Plain) ∨
      (shape s.weekday = .every 1 ∧ (shape s.day = .any ∨ s.EveryDate)) ∨
      (shape s.weekday = .unreadable ∧ shape s.day ≠ .any ∧ (shape s.day).Plain ∧ s.EveryWeekday))

/-- The schedules without a date that match no minute. -/
def NeverRead : Prop :=
  shape s.minute = .unreadable ∨ shape s.hour = .unreadable ∨ shape s.month = .unreadable ∨
    shape s.weekday = .any ∨ shape s.weekday = .unreadable

/-- The two engines read the schedule alike. -/
def EnginesAgree : Prop :=
  (s.HasDate ∧ s.SameOnDates) ∨ (¬ s.HasDate ∧ s.NeverRead)

/-! ## The two engines, field by field -/

/-- The package's answer at a minute. -/
structure Fires (m h day month w : ℕ) : Prop where
  minute : s.expr.minute.matches m = true
  hour : s.expr.hour.matches h = true
  day : s.expr.day.matches day = true
  month : s.expr.month.matches month = true
  weekday : s.expr.dayOfWeek.matches w = true

/-- The day matches, by the day of the month and the day of the week. -/
def dayMatches (day w : ℕ) : Bool :=
  cronDayMatches s.day (cronFieldMatches s.day day) s.weekday
    (cronFieldMatches s.weekday ((w + 1) % 7))

/-- The answer of `cronMatches` at a minute. -/
structure Matches (m h day month w : ℕ) : Prop where
  minute : cronFieldMatches s.minute m = true
  hour : cronFieldMatches s.hour h = true
  month : cronFieldMatches s.month month = true
  day : s.dayMatches day w = true

/-- The engines give one answer at every minute of the calendar. -/
def Agrees : Prop :=
  ∀ m h day month w, m < 60 → h < 24 → IsDate month day → w < 7 →
    (s.Fires m h day month w ↔ s.Matches m h day month w)

variable {s}

/-- With any day of the week, the day of the month decides. -/
theorem dayMatches_of_any (hw : shape s.weekday = .any) (day w : ℕ) :
    s.dayMatches day w = cronFieldMatches s.day day := by
  have hstar := shape_eq_any_iff.mp hw
  unfold dayMatches cronDayMatches
  by_cases hday : s.day = "*"
  · simp [hday, hstar, cronFieldMatches]
  · simp [hday, hstar]

/-- With any day of the month, the day of the week decides. -/
theorem dayMatches_of_day_any (hday : shape s.day = .any) (day w : ℕ) :
    s.dayMatches day w = cronFieldMatches s.weekday ((w + 1) % 7) := by
  have hstar := shape_eq_any_iff.mp hday
  unfold dayMatches cronDayMatches
  by_cases hw : s.weekday = "*"
  · simp [hw, hstar, cronFieldMatches]
  · simp [hw, hstar]

/-- Of two restricted days, either may match. -/
theorem dayMatches_of_ne (hday : shape s.day ≠ .any) (hw : shape s.weekday ≠ .any) (day w : ℕ) :
    s.dayMatches day w =
      (cronFieldMatches s.day day || cronFieldMatches s.weekday ((w + 1) % 7)) := by
  have hday' : s.day ≠ "*" := fun h => hday (shape_eq_any_iff.mpr h)
  have hw' : s.weekday ≠ "*" := fun h => hw (shape_eq_any_iff.mpr h)
  simp [dayMatches, cronDayMatches, hday', hw']

/-- A day of the week that matches is enough. -/
theorem dayMatches_of_weekday (hw : shape s.weekday ≠ .any) {w : ℕ}
    (hmatch : cronFieldMatches s.weekday ((w + 1) % 7) = true) (day : ℕ) :
    s.dayMatches day w = true := by
  by_cases hday : shape s.day = .any
  · rw [dayMatches_of_day_any hday, hmatch]
  · rw [dayMatches_of_ne hday hw, hmatch, Bool.or_true]

/-- A day of the week that cannot be read leaves the decision to the day of the month. -/
theorem dayMatches_of_unreadable (hw : shape s.weekday = .unreadable) (day w : ℕ) :
    s.dayMatches day w = true ↔ shape s.day ≠ .any ∧ cronFieldMatches s.day day = true := by
  have hread := s.weekdayReading
  rw [hw] at hread
  have hfalse := hread.code_eq_false ((w + 1) % 7)
  have hne : shape s.weekday ≠ .any := by
    rw [hw]
    exact Shape.noConfusion
  by_cases hday : shape s.day = .any
  · simp [dayMatches_of_day_any hday, hfalse, hday]
  · simp [dayMatches_of_ne hday hne, hfalse, hday]

theorem isDate_one {month : ℕ} (h : 1 ≤ month) (h' : month ≤ 12) : IsDate month 1 := by
  have hlength : ∀ i < 12, 1 ≤ (monthLengths true).getD i 0 := by decide
  exact ⟨h, h', le_rfl, hlength (month - 1) (by omega)⟩

theorem isDate_january {day : ℕ} (h : 1 ≤ day) (h' : day ≤ 31) : IsDate 1 day :=
  ⟨le_rfl, by decide, h, h'⟩

theorem day_le {month day : ℕ} (h : IsDate month day) : day ≤ 31 := by
  obtain ⟨hm, hm', -, hle⟩ := h
  have hlength : ∀ i < 12, (monthLengths true).getD i 0 ≤ 31 := by decide
  exact hle.trans (hlength (month - 1) (by omega))

/-! ## Agreement gives the condition -/

section Forward

variable (hagree : s.Agrees) {m h day month w : ℕ} (hfires : s.Fires m h day month w)
  (hm : m < 60) (hh : h < 24) (hdate : IsDate month day) (hw : w < 7)

include hagree hfires hm hh hdate hw

theorem minute_readable : shape s.minute ≠ .unreadable :=
  s.minuteReading.readable_of_code ((hagree m h day month w hm hh hdate hw).mp hfires).minute

theorem hour_readable : shape s.hour ≠ .unreadable :=
  s.hourReading.readable_of_code ((hagree m h day month w hm hh hdate hw).mp hfires).hour

/-- A trigger that fires in January fires there on the same day. -/
theorem month_plain : (shape s.month).Plain := by
  have hmatches := (hagree m h day month w hm hh hdate hw).mp hfires
  refine s.monthReading.plain_of_one (by decide)
    (s.monthReading.readable_of_code hmatches.month) fun hone => ?_
  have hjanuary : s.Fires m h day 1 w := { hfires with month := hone }
  exact ((hagree m h day 1 w hm hh (isDate_january hdate.2.2.1 (day_le hdate)) hw).mp
    hjanuary).month

/-- Where the day of the month decides, it is read alike: a trigger that fires on the first of a
month matches there. -/
theorem day_plain
    (hdecides : ∀ day', s.dayMatches day' w = true → cronFieldMatches s.day day' = true) :
    (shape s.day).Plain := by
  have hmatches := (hagree m h day month w hm hh hdate hw).mp hfires
  refine s.dayReading.plain_of_one (by decide)
    (s.dayReading.readable_of_code (hdecides day hmatches.day)) fun hone => ?_
  have hfirst : s.Fires m h 1 month w := { hfires with day := hone }
  exact hdecides 1 ((hagree m h 1 month w hm hh (isDate_one hdate.1 hdate.2.1) hw).mp hfirst).day

/-- A day of the week on which `cronMatches` accepts the date, the trigger fires on as well. -/
theorem weekday_matches {w' : ℕ} (hw' : w' < 7) (hday : s.dayMatches day w' = true) :
    s.expr.dayOfWeek.matches w' = true := by
  have hmatches := (hagree m h day month w hm hh hdate hw).mp hfires
  exact ((hagree m h day month w' hm hh hdate hw').mpr { hmatches with day := hday }).weekday

/-- **The days of an agreeing schedule that fires.** -/
theorem days_agree :
    (shape s.weekday = .any ∧ (shape s.day).Plain) ∨
      (shape s.weekday = .every 1 ∧ (shape s.day = .any ∨ s.EveryDate)) ∨
      (shape s.weekday = .unreadable ∧ shape s.day ≠ .any ∧ (shape s.day).Plain ∧
        s.EveryWeekday) := by
  have hmatches := (hagree m h day month w hm hh hdate hw).mp hfires
  have hread := s.weekdayReading
  have hsame : ∀ w', w' < 7 → s.dayMatches day w' = true → s.expr.dayOfWeek.matches w' = true :=
    fun w' hw' => weekday_matches hagree hfires hm hh hdate hw hw'
  cases hshape : shape s.weekday with
  | any =>
    refine Or.inl ⟨rfl, day_plain hagree hfires hm hh hdate hw fun day' hday' => ?_⟩
    rwa [dayMatches_of_any hshape] at hday'
  | every n =>
    have hne : shape s.weekday ≠ .any := by
      rw [hshape]
      exact Shape.noConfusion
    rw [hshape] at hread
    cases hread with
    | every hn hcode hfield =>
      by_cases hone : n = 1
      · subst hone
        refine Or.inr (Or.inl ⟨rfl, or_iff_not_imp_left.mpr fun _ month' day' hdate' hmonth => ?_⟩)
        have hplain := month_plain hagree hfires hm hh hdate hw
        have hcodeMonth := (s.monthReading.same_of_plain hplain hdate'.1 hdate'.2.1).mpr hmonth
        have hall := dayMatches_of_weekday hne ((hcode ((w + 1) % 7)).mpr (Nat.mod_one _)) day'
        exact ((hagree m h day' month' w hm hh hdate' hw).mpr
          ⟨hmatches.minute, hmatches.hour, hcodeMonth, hall⟩).day
      · -- steps from Monday and steps from Sunday
        by_cases hsix : n ≤ 6
        · have hcron : (n - 1 + 1) % 7 = n := by
            rw [Nat.sub_add_cancel hn]
            omega
          have hday : s.dayMatches day (n - 1) = true :=
            dayMatches_of_weekday hne ((hcode _).mpr (by rw [hcron, Nat.mod_self])) day
          have hmod := ((hfield (n - 1)).mp (hsame (n - 1) (by omega) hday)).2.2
          rw [Nat.sub_zero, Nat.mod_eq_of_lt (by omega)] at hmod
          omega
        · have hday : s.dayMatches day 6 = true :=
            dayMatches_of_weekday hne ((hcode _).mpr (Nat.zero_mod n)) day
          have hmod := ((hfield 6).mp (hsame 6 (by decide) hday)).2.2
          rw [Nat.sub_zero, Nat.mod_eq_of_lt (by omega)] at hmod
          omega
  | value n =>
    have hne : shape s.weekday ≠ .any := by
      rw [hshape]
      exact Shape.noConfusion
    rw [hshape] at hread
    cases hread with
    | value hlo hhi hcode hfield =>
      -- the day before, in the package's numbering
      have hcron : ((n + 6) % 7 + 1) % 7 = n := by omega
      have hday : s.dayMatches day ((n + 6) % 7) = true :=
        dayMatches_of_weekday hne ((hcode _).mpr hcron) day
      have heq := (hfield ((n + 6) % 7)).mp (hsame _ (by omega) hday)
      omega
  | unreadable =>
    have hdecides := (dayMatches_of_unreadable hshape day w).mp hmatches.day
    refine Or.inr (Or.inr ⟨rfl, hdecides.1,
      day_plain hagree hfires hm hh hdate hw fun day' hday' => ?_, fun w' hw' => ?_⟩)
    · exact ((dayMatches_of_unreadable hshape day' w).mp hday').2
    · exact hsame w' hw' ((dayMatches_of_unreadable hshape day w').mpr hdecides)

end Forward

/-- A readable step in the day or the month field has a date in January. -/
theorem hasDate_of_month_one (hone : s.expr.month.matches 1 = true) : s.HasDate := by
  obtain ⟨day, hlo, hhi, hday⟩ := s.expr.day.exists_matches
  exact ⟨1, day, isDate_january hlo hhi, hone, hday⟩

/-- Without a date, a month that can be read is a number. -/
theorem month_eq_value (hnone : ¬ s.HasDate) (hread : shape s.month ≠ .unreadable) :
    ∃ month, 1 ≤ month ∧ month ≤ 12 ∧ (∀ v, cronFieldMatches s.month v = true ↔ v = month) ∧
      s.expr.month.matches month = true := by
  have hreading := s.monthReading
  generalize shape s.month = sh at hread hreading
  cases hreading with
  | any hcode hfield =>
    exact absurd (hasDate_of_month_one ((hfield 1).mpr (by decide))) hnone
  | every hn hcode hfield =>
    exact absurd (hasDate_of_month_one ((hfield 1).mpr ⟨le_rfl, by decide, Nat.zero_mod _⟩)) hnone
  | value hlo hhi hcode hfield => exact ⟨_, hlo, hhi, hcode, (hfield _).mpr rfl⟩
  | unreadable => exact absurd rfl hread

/-- A day of the week that can be read occurs. -/
theorem exists_weekday (hread : shape s.weekday ≠ .unreadable) :
    ∃ w, w < 7 ∧ cronFieldMatches s.weekday ((w + 1) % 7) = true := by
  have hreading := s.weekdayReading
  generalize shape s.weekday = sh at hread hreading
  cases hreading with
  | any hcode => exact ⟨0, by decide, hcode _⟩
  | every hn hcode => exact ⟨6, by decide, (hcode _).mpr (Nat.zero_mod _)⟩
  | @value n hlo hhi hcode => exact ⟨(n + 6) % 7, by omega, (hcode _).mpr (by omega)⟩
  | unreadable => exact absurd rfl hread

/-- A field with the least value `0` that can be read has a value. -/
theorem exists_code {hi : ℕ} {code : ℕ → Bool} {field : Cron.Field 0 hi} {sh : Shape}
    (hreading : Reading code field sh) (hread : sh ≠ .unreadable) :
    ∃ v, v ≤ hi ∧ code v = true := by
  cases hreading with
  | any hcode => exact ⟨0, Nat.zero_le _, hcode 0⟩
  | every hn hcode => exact ⟨0, Nat.zero_le _, (hcode 0).mpr (Nat.zero_mod _)⟩
  | value hlo hhi hcode => exact ⟨_, hhi, (hcode _).mpr rfl⟩
  | unreadable => exact absurd rfl hread

theorem Agrees.enginesAgree (hagree : s.Agrees) : s.EnginesAgree := by
  by_cases hdates : s.HasDate
  · -- the trigger fires on the date
    obtain ⟨month, day, hdate, hmonth, hday⟩ := hdates
    obtain ⟨m, -, hm, hminute⟩ := s.expr.minute.exists_matches
    obtain ⟨h, -, hh, hhour⟩ := s.expr.hour.exists_matches
    obtain ⟨w, -, hw, hweekday⟩ := s.expr.dayOfWeek.exists_matches
    have hfires : s.Fires m h day month w := ⟨hminute, hhour, hday, hmonth, hweekday⟩
    have hm' : m < 60 := by omega
    have hh' : h < 24 := by omega
    have hw' : w < 7 := by omega
    exact Or.inl ⟨⟨month, day, hdate, hmonth, hday⟩,
      minute_readable hagree hfires hm' hh' hdate hw',
      hour_readable hagree hfires hm' hh' hdate hw',
      month_plain hagree hfires hm' hh' hdate hw',
      days_agree hagree hfires hm' hh' hdate hw'⟩
  · refine Or.inr ⟨hdates, ?_⟩
    by_contra hread
    simp only [NeverRead, not_or] at hread
    obtain ⟨hminute, hhour, hmonth, hany, hweekday⟩ := hread
    obtain ⟨m, hm, hcodeMinute⟩ := exists_code s.minuteReading hminute
    obtain ⟨h, hh, hcodeHour⟩ := exists_code s.hourReading hhour
    obtain ⟨month, hlo, hhi, hcodeMonth, hmatches⟩ := month_eq_value hdates hmonth
    obtain ⟨w, hw, hcodeWeekday⟩ := exists_weekday hweekday
    -- the day of the week alone makes the first of the month match
    have hall : s.Matches m h 1 month w :=
      ⟨hcodeMinute, hcodeHour, (hcodeMonth month).mpr rfl,
        dayMatches_of_weekday hany hcodeWeekday 1⟩
    have hfires := (hagree m h 1 month w (by omega) (by omega) (isDate_one hlo hhi) hw).mpr hall
    exact hdates ⟨month, 1, isDate_one hlo hhi, hmatches, hfires.day⟩

/-! ## The condition gives agreement -/

theorem SameOnDates.agrees (hsame : s.SameOnDates) : s.Agrees := by
  obtain ⟨hminute, hhour, hmonth, hdays⟩ := hsame
  intro m h day month w hm hh hdate hw
  have hm' := s.minuteReading.same_of_readable hminute (v := m) (by omega)
  have hh' := s.hourReading.same_of_readable hhour (v := h) (by omega)
  have hmonth' := s.monthReading.same_of_plain hmonth hdate.1 hdate.2.1
  have hread := s.weekdayReading
  have hdayLo := hdate.2.2.1
  have hdayHi := day_le hdate
  -- given the month, the days of the two engines are the same
  have hday : s.expr.month.matches month = true →
      (s.dayMatches day w = true ↔
        s.expr.day.matches day = true ∧ s.expr.dayOfWeek.matches w = true) := by
    intro hmatches
    rcases hdays with ⟨hany, hplain⟩ | ⟨hevery, hcover⟩ | ⟨hunreadable, hne, hplain, hall⟩
    · rw [hany] at hread
      cases hread with
      | any hcode hfield =>
        have hweek : s.expr.dayOfWeek.matches w = true := (hfield w).mpr (by omega)
        rw [dayMatches_of_any hany, s.dayReading.same_of_plain hplain hdayLo hdayHi]
        simp [hweek]
    · have hnotAny : shape s.weekday ≠ .any := by
        rw [hevery]
        exact Shape.noConfusion
      rw [hevery] at hread
      cases hread with
      | every hn hcode hfield =>
        have hweek : s.expr.dayOfWeek.matches w = true :=
          (hfield w).mpr ⟨Nat.zero_le _, by omega, Nat.mod_one _⟩
        have hmonthDay : s.expr.day.matches day = true := by
          rcases hcover with hstar | hcover
          · have hplain : (shape s.day).Plain := by
              rw [hstar]
              trivial
            have hcodeDay : cronFieldMatches s.day day = true := by
              rw [shape_eq_any_iff.mp hstar]
              rfl
            exact (s.dayReading.same_of_plain hplain hdayLo hdayHi).mp hcodeDay
          · exact hcover month day hdate hmatches
        have hcodeDay := dayMatches_of_weekday hnotAny ((hcode ((w + 1) % 7)).mpr (Nat.mod_one _)) day
        simp [hcodeDay, hmonthDay, hweek]
    · rw [dayMatches_of_unreadable hunreadable,
        s.dayReading.same_of_plain hplain hdayLo hdayHi]
      simp [hne, hall w hw]
  constructor
  · intro hfires
    exact ⟨hm'.mpr hfires.minute, hh'.mpr hfires.hour, hmonth'.mpr hfires.month,
      (hday hfires.month).mpr ⟨hfires.day, hfires.weekday⟩⟩
  · intro hmatches
    have hmonth := hmonth'.mp hmatches.month
    obtain ⟨hd, hw⟩ := (hday hmonth).mp hmatches.day
    exact ⟨hm'.mp hmatches.minute, hh'.mp hmatches.hour, hd, hmonth, hw⟩

/-- Without a date, a day of the month that `cronMatches` accepts would be a date. -/
theorem not_code_day (hnone : ¬ s.HasDate) {month day : ℕ} (hdate : IsDate month day)
    (hmonth : s.expr.month.matches month = true) : cronFieldMatches s.day day = false := by
  refine Bool.eq_false_iff.mpr fun hcode => hnone ?_
  have hreading := s.dayReading
  have hread := hreading.readable_of_code hcode
  generalize shape s.day = sh at hread hreading
  cases hreading with
  | any _ hfield =>
    exact ⟨month, day, hdate, hmonth, (hfield day).mpr ⟨hdate.2.2.1, day_le hdate⟩⟩
  | every hn _ hfield =>
    exact ⟨month, 1, isDate_one hdate.1 hdate.2.1, hmonth,
      (hfield 1).mpr ⟨le_rfl, by decide, Nat.zero_mod _⟩⟩
  | value _ _ hcodeDay hfield =>
    exact ⟨month, day, hdate, hmonth, (hfield day).mpr ((hcodeDay day).mp hcode)⟩
  | unreadable => exact absurd rfl hread

theorem NeverRead.agrees (hnone : ¬ s.HasDate) (hnever : s.NeverRead) : s.Agrees := by
  intro m h day month w hm hh hdate hw
  constructor
  · intro hfires
    exact absurd ⟨month, day, hdate, hfires.month, hfires.day⟩ hnone
  · intro hmatches
    exfalso
    obtain ⟨month', -, -, hcodeMonth, hmonth⟩ :=
      month_eq_value hnone (s.monthReading.readable_of_code hmatches.month)
    obtain rfl := (hcodeMonth month).mp hmatches.month
    have hday := not_code_day hnone hdate hmonth
    rcases hnever with hminute | hhour | hmonth | hany | hunreadable
    · exact s.minuteReading.readable_of_code hmatches.minute hminute
    · exact s.hourReading.readable_of_code hmatches.hour hhour
    · exact s.monthReading.readable_of_code hmatches.month hmonth
    · have hcode := hmatches.day
      rw [dayMatches_of_any hany, hday] at hcode
      exact Bool.noConfusion hcode
    · have hcode := ((dayMatches_of_unreadable hunreadable day w).mp hmatches.day).2
      rw [hday] at hcode
      exact Bool.noConfusion hcode

/-- **The engines agree on a schedule** under exactly this condition. -/
theorem agrees_iff : s.Agrees ↔ s.EnginesAgree := by
  constructor
  · exact Agrees.enginesAgree
  · rintro (⟨-, hsame⟩ | ⟨hnone, hnever⟩)
    · exact hsame.agrees
    · exact hnever.agrees hnone

end Schedule

/-! ## Whole expressions -/

/-- The schedule an expression spells. -/
def Spells (scheduleExpr : String) (s : Schedule) : Prop :=
  Text.splitWords scheduleExpr = [s.minute, s.hour, s.day, s.month, s.weekday] ∧
    Cron.parse scheduleExpr = some s.expr

variable {scheduleExpr : String}

/-- An expression the package accepts spells a schedule, and `cronMatches` answers for it as
`Schedule.Matches` does. -/
theorem exists_schedule {expr : Cron.Expr} (h : Cron.parse scheduleExpr = some expr) :
    ∃ s : Schedule, s.expr = expr ∧ Spells scheduleExpr s ∧
      ∀ t, cronMatches scheduleExpr t = true ↔
        s.Matches (Calendar.minute t).minute (Calendar.minute t).hour (Calendar.minute t).day
          (Calendar.minute t).month (Calendar.minute t).weekday := by
  have hparse := h
  unfold Cron.parse at h
  split at h
  · rename_i minute hour day month weekday hwords
    have hword : ∀ word ∈ Text.splitWords scheduleExpr, Text.IsWord word :=
      fun word hmem => Text.isWord_of_mem_splitWords hmem
    simp only [hwords, List.forall_mem_cons] at hword
    obtain ⟨hminute, hhour, hday, hmonth, hweekday, -⟩ := hword
    simp only [Option.bind_eq_bind, Option.bind_eq_some_iff, Option.pure_def,
      Option.some.injEq] at h
    obtain ⟨fminute, hfminute, fhour, hfhour, fday, hfday, fmonth, hfmonth, fweekday, hfweekday,
      rfl⟩ := h
    refine ⟨⟨minute, hour, day, month, weekday, _, reading Cron.areNames_nil hminute hfminute,
      reading Cron.areNames_nil hhour hfhour, reading Cron.areNames_nil hday hfday,
      reading Cron.areNames_monthNames hmonth hfmonth,
      reading Cron.areNames_dayNames hweekday hfweekday⟩,
      rfl, ⟨hwords, hparse⟩, fun t => ?_⟩
    have hcron := cronWeekdayMatches_eq Cron.areNames_dayNames hweekday hfweekday
    simp only [cronMatches, hwords, minuteKey, Calendar.minute_startOfMinute, cronWeekday, hcron,
      Bool.and_eq_true]
    constructor
    · rintro ⟨⟨⟨hm, hh⟩, hmo⟩, hd⟩
      exact ⟨hm, hh, hmo, hd⟩
    · rintro ⟨hm, hh, hmo, hd⟩
      exact ⟨⟨⟨hm, hh⟩, hmo⟩, hd⟩
  · exact absurd h (by simp)

theorem matches_iff_fires (s : Schedule) (m : Calendar.Minute) :
    s.expr.matches m = true ↔ s.Fires m.minute m.hour m.day m.month m.weekday := by
  simp only [Cron.Expr.matches, Bool.and_eq_true]
  constructor
  · rintro ⟨⟨⟨⟨hm, hh⟩, hd⟩, hmo⟩, hw⟩
    exact ⟨hm, hh, hd, hmo, hw⟩
  · rintro ⟨hm, hh, hd, hmo, hw⟩
    exact ⟨⟨⟨⟨hm, hh⟩, hd⟩, hmo⟩, hw⟩

/-- **The two cron engines agree on an expression** in exactly the cases of
`Schedule.EnginesAgree`: for every expression the package accepts, its trigger fires at the
minutes `cronMatches` accepts, and no others, if and only if the schedule it spells is one of
these. -/
theorem engines_agree_iff (fromCrontab : FromCrontab) (hdoc : Documented fromCrontab)
    (scheduleExpr : String) (trigger : CronTrigger)
    (haccepts : fromCrontab scheduleExpr "UTC" = some trigger) :
    ∃ s : Schedule, Spells scheduleExpr s ∧
      ((∀ t, trigger.fires t = true ↔ cronMatches scheduleExpr t = true) ↔ s.EnginesAgree) := by
  obtain ⟨expr, hparse, hfires⟩ := hdoc scheduleExpr trigger haccepts
  obtain ⟨s, rfl, hspells, hmatches⟩ := exists_schedule hparse
  refine ⟨s, hspells, ?_⟩
  rw [← Schedule.agrees_iff]
  constructor
  · intro hall m h day month w hm hh hdate hw
    obtain ⟨t, rfl, rfl, rfl, rfl, rfl⟩ := Calendar.exists_minute hm hh hdate hw
    rw [← matches_iff_fires, ← hmatches, ← hfires]
    exact hall t
  · intro hagree t
    rw [hfires, matches_iff_fires, hmatches]
    exact hagree _ _ _ _ _ (Calendar.minute t).minute_lt (Calendar.minute t).hour_lt
      (Calendar.minute t).isDate (Calendar.minute t).weekday_lt

/-- A package that behaves as documented. -/
def documentedCrontab : FromCrontab := fun scheduleExpr _ =>
  (Cron.parse scheduleExpr).map fun expr => ⟨fun t => expr.matches (Calendar.minute t)⟩

theorem documented_documentedCrontab : Documented documentedCrontab := by
  intro scheduleExpr trigger h
  obtain ⟨expr, hparse, rfl⟩ := Option.map_eq_some_iff.mp h
  exact ⟨expr, hparse, fun _ => rfl⟩

/-- Every five minutes of one hour. -/
theorem engines_agree_iff_sample :
    ∃ trigger, documentedCrontab "*/5 8 * * *" "UTC" = some trigger ∧
      ∃ s : Schedule, Spells "*/5 8 * * *" s ∧
        ((∀ t, trigger.fires t = true ↔ cronMatches "*/5 8 * * *" t = true) ↔ s.EnginesAgree) := by
  have hsome : (documentedCrontab "*/5 8 * * *" "UTC").isSome = true := by decide +kernel
  obtain ⟨trigger, htrigger⟩ := Option.isSome_iff_exists.mp hsome
  exact ⟨trigger, htrigger,
    engines_agree_iff documentedCrontab documented_documentedCrontab _ trigger htrigger⟩

/-- Of a schedule for day `4` of the week the trigger fires on Fridays, and `cronMatches` accepts
Thursdays: 2 April 2026, 08:00, was one. -/
theorem engines_agree_fails :
    ¬ ∀ fromCrontab, Documented fromCrontab → ∀ scheduleExpr trigger,
      fromCrontab scheduleExpr "UTC" = some trigger →
        ∀ t, trigger.fires t = true ↔ cronMatches scheduleExpr t = true := by
  intro h
  have hsome : (documentedCrontab "0 8 * * 4" "UTC").isSome = true := by decide +kernel
  obtain ⟨trigger, htrigger⟩ := Option.isSome_iff_exists.mp hsome
  have hall := h documentedCrontab documented_documentedCrontab "0 8 * * 4" trigger htrigger
  have hmatch : cronMatches "0 8 * * 4" 1775116800000000 = true := by decide +kernel
  have hfires := (hall 1775116800000000).mpr hmatch
  have hnot : (documentedCrontab "0 8 * * 4" "UTC").all
      (fun trigger => !trigger.fires 1775116800000000) = true := by decide +kernel
  rw [htrigger] at hnot
  simp [hfires] at hnot

end CronAgreement

end Runlet
