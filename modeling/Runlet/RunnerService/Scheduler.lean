import Runlet.Jobs.PublishedJobTrigger
import Runlet.Library.Calendar
import Runlet.Library.Words
import Runlet.RunnerService.PublishedJobs

/-!
# Scheduled and manual runs

`runner_service/scheduler.py`: the two entry points that start a run of a published job, the check
of its schedule against the minute of the call, and the guard against a second run in a minute.

Whether an expression is valid is asked of a third-party package, `CronTrigger.from_crontab`; the
answer, a trigger and the minutes at which it fires, is a parameter.  Whether a call of the
scheduler comes at the right minute is decided here, by `cronMatches`.
-/

namespace Runlet

open KeyedTable

/-- A trigger of the scheduling package: whether it fires in the minute of an instant. -/
structure CronTrigger where
  fires : DateTime → Bool

/-- `CronTrigger.from_crontab` by the expression and the time zone; `none` is an exception. -/
abbrev FromCrontab := String → String → Option CronTrigger

namespace Scheduler

/-- `_validate_cron_expr`. -/
def validateCronExpr (fromCrontab : FromCrontab) (scheduleExpr : String) : Except String Unit :=
  match fromCrontab scheduleExpr "UTC" with
  | none => .error s!"invalid schedule expression: {scheduleExpr}"
  | some _ => .ok ()

/-! ## The schedule of a job -/

def minuteKey (value : DateTime) : DateTime :=
  Calendar.startOfMinute value

/-- Days of the week from Sunday, where the calendar counts from Monday. -/
def cronWeekday (value : Calendar.Minute) : ℕ :=
  (value.weekday + 1) % 7

def cronFieldMatches (field : String) (value : ℕ) : Bool :=
  if field = "*" then true
  else if Text.startsWith "*/" field then
    match Text.parseInt (Text.dropChars 2 field) with
    | none => false
    | some interval => 0 < interval && (value : ℤ) % interval = 0
  else
    match Text.parseInt field with
    | none => false
    | some expected => expected = value

def cronWeekdayMatches (field : String) (value : ℕ) : Bool :=
  if field = "*" then true
  else if Text.startsWith "*/" field then
    match Text.parseInt (Text.dropChars 2 field) with
    | none => false
    | some interval => 0 < interval && (value : ℤ) % interval = 0
  else
    match Text.parseInt field with
    | none => false
    | some expected =>
      let expected := if expected = 7 then 0 else expected
      if expected < 0 || 6 < expected then false else expected = value

/-- When both the day of the month and the day of the week are restricted, either may match. -/
def cronDayMatches (dayOfMonth : String) (dayOfMonthMatches : Bool) (weekday : String)
    (weekdayMatches : Bool) : Bool :=
  if dayOfMonth = "*" && weekday = "*" then true
  else if dayOfMonth = "*" then weekdayMatches
  else if weekday = "*" then dayOfMonthMatches
  else dayOfMonthMatches || weekdayMatches

def cronMatches (scheduleExpr : String) (scheduledAt : DateTime) : Bool :=
  match Text.splitWords scheduleExpr with
  | [minute, hour, dayOfMonth, month, weekday] =>
    let triggerTime := Calendar.minute (minuteKey scheduledAt)
    let minuteMatches := cronFieldMatches minute triggerTime.minute
    let hourMatches := cronFieldMatches hour triggerTime.hour
    let monthMatches := cronFieldMatches month triggerTime.month
    let dayOfMonthMatches := cronFieldMatches dayOfMonth triggerTime.day
    let weekdayMatches := cronWeekdayMatches weekday (cronWeekday triggerTime)
    let dayMatches := cronDayMatches dayOfMonth dayOfMonthMatches weekday weekdayMatches
    minuteMatches && hourMatches && monthMatches && dayMatches
  | _ => false

/-! ## Runs -/

/-- `ORDER BY scheduled_at DESC, id DESC`. -/
def Later (a b : JobRun) : Prop :=
  (toLex (b.scheduledAt, b.id) : DateTime ×ₗ UUID) ≤ toLex (a.scheduledAt, a.id)

instance : DecidableRel Later := fun a b =>
  inferInstanceAs (Decidable (toLex (b.scheduledAt, b.id) ≤ toLex (a.scheduledAt, a.id)))

/-- The run that is scheduled last. -/
def latestRun (publishedJobId : UUID) (db : Db) : Option JobRun :=
  ((db.jobRuns.select fun run => run.publishedJobId = publishedJobId).insertionSort Later).head?

/-- `_already_triggered_for_minute`. -/
def alreadyTriggeredForMinute (publishedJobId : UUID) (scheduledAt : DateTime) (db : Db) : Bool :=
  match latestRun publishedJobId db with
  | none => false
  | some latest => minuteKey latest.scheduledAt = minuteKey scheduledAt

/-- `trigger_scheduled_job`, and whether it started a run.  The row lock makes the calls for one
job follow one another. -/
def triggerScheduledJob (ids : IdSource) (publishedJobId : UUID) (scheduledAt : DateTime)
    (db : Db) : Db × Bool :=
  match db.publishedJobs.get? publishedJobId with
  | none => (db, false)
  | some lockedJob =>
    if lockedJob.state ≠ .active then (db, false)
    else if !cronMatches lockedJob.scheduleExpr scheduledAt then (db, false)
    else if alreadyTriggeredForMinute lockedJob.id scheduledAt db then (db, false)
    else
      ((PublishedJobTrigger.trigger ids scheduledAt lockedJob "scheduler" (some scheduledAt) db).1,
        true)

/-- `trigger_published_job`: the run and the queued job, when the job exists. -/
def triggerPublishedJob (ids : IdSource) (now : DateTime) (publishedJobId : UUID)
    (triggerSource : String) (db : Db) : Transacted (UUID × UUID) :=
  match db.publishedJobs.get? publishedJobId with
  | none => (db, .error s!"published job {UUID.text publishedJobId} not found")
  | some job =>
    let (db', ids') := PublishedJobTrigger.trigger ids now job triggerSource none db
    (db', .ok ids')

end Scheduler

end Runlet
