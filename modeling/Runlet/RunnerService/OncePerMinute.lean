import Runlet.Library.Run
import Runlet.RunnerService.Scheduler

/-!
# One scheduled run a minute

A call of the scheduler for an active job whose schedule matches the minute is meant to start a
run unless the scheduler has already started one for that job and that minute.  What the guard
asks is another question: whether the run that is scheduled last, by whatever source, lies in the
minute of the call.

The two questions part in two ways.  A call that comes late, after a run of a later minute, starts
a second run for its own minute; and a manual run, while it is the last one, keeps the scheduled
run of its minute from being started.

* `alreadyTriggeredForMinute_iff`: what the guard sees.
* `GuardSeesMinute`: the two ways are excluded.
* `scheduled_exactly_once_iff`: then, and only then, every call does what it is meant to do.
-/

namespace Runlet

open KeyedTable Scheduler

namespace OncePerMinute

/-! ## What the guard sees -/

theorem minuteKey_mono {s t : DateTime} (h : s ≤ t) : minuteKey s ≤ minuteKey t :=
  Calendar.startOfMinute_mono h

instance : Std.Total Later := ⟨fun _ _ => le_total _ _⟩

instance : IsTrans JobRun Later := ⟨fun _ _ _ hab hbc => le_trans hbc hab⟩

theorem scheduledAt_le_of_later {a b : JobRun} (h : Later a b) : b.scheduledAt ≤ a.scheduledAt := by
  rcases (Prod.Lex.le_iff).mp h with hlt | ⟨heq, -⟩
  · exact le_of_lt hlt
  · exact le_of_eq heq

/-- The latest run is a run of the job, and no run of the job is scheduled after it. -/
theorem latestRun_spec {publishedJobId : UUID} {db : Db} {latest : JobRun}
    (h : latestRun publishedJobId db = some latest) :
    latest ∈ db.jobRuns ∧ latest.publishedJobId = publishedJobId ∧
      ∀ run ∈ db.jobRuns, run.publishedJobId = publishedJobId →
        run.scheduledAt ≤ latest.scheduledAt := by
  unfold latestRun at h
  have hmem := List.mem_of_mem_head? h
  rw [List.mem_insertionSort, Table.mem_select] at hmem
  refine ⟨hmem.1, by simpa using hmem.2, ?_⟩
  intro run hrun hjob
  have hsorted := List.pairwise_insertionSort Later
    (db.jobRuns.select fun run => run.publishedJobId = publishedJobId)
  have hin : run ∈ (db.jobRuns.select fun run =>
      run.publishedJobId = publishedJobId).insertionSort Later := by
    rw [List.mem_insertionSort, Table.mem_select]
    exact ⟨hrun, by simpa using hjob⟩
  obtain ⟨rest, hrest⟩ := List.head?_eq_some_iff.mp h
  rw [hrest] at hin hsorted
  rcases List.mem_cons.mp hin with rfl | hin
  · exact le_rfl
  · exact scheduledAt_le_of_later ((List.pairwise_cons.mp hsorted).1 run hin)

theorem latestRun_eq_none {publishedJobId : UUID} {db : Db}
    (h : latestRun publishedJobId db = none) :
    ∀ run ∈ db.jobRuns, run.publishedJobId ≠ publishedJobId := by
  unfold latestRun at h
  rw [List.head?_eq_none_iff] at h
  intro run hrun hjob
  have hin : run ∈ (db.jobRuns.select fun run =>
      run.publishedJobId = publishedJobId).insertionSort Later := by
    rw [List.mem_insertionSort, Table.mem_select]
    exact ⟨hrun, by simpa using hjob⟩
  rw [h] at hin
  exact absurd hin List.not_mem_nil

/-! ## The calls -/

/-- What happens to the published jobs: the scheduler calls for one, somebody starts one by hand,
or the jobs are changed (created, edited, paused, resumed). -/
inductive JobCall where
  | scheduled (publishedJobId : UUID) (scheduledAt : DateTime)
  | manual (publishedJobId : UUID) (now : DateTime)
  | edit (publishedJobs : Table PublishedJob)

variable (ids : IdSource)

def step (db : Db) : JobCall → Db
  | .scheduled publishedJobId scheduledAt =>
    (triggerScheduledJob ids publishedJobId scheduledAt db).1
  | .manual publishedJobId now => (triggerPublishedJob ids now publishedJobId "manual" db).1
  | .edit publishedJobs => { db with publishedJobs := publishedJobs }

/-- The job is active and its schedule matches the minute. -/
def Due (publishedJobId : UUID) (scheduledAt : DateTime) (db : Db) : Prop :=
  ∃ job ∈ db.publishedJobs.get? publishedJobId, job.state = .active ∧
    cronMatches job.scheduleExpr scheduledAt = true

/-- A run of the job that the scheduler started, for the minute of an instant. -/
def IsSchedulerRun (publishedJobId : UUID) (scheduledAt : DateTime) (run : JobRun) : Prop :=
  run.publishedJobId = publishedJobId ∧ run.triggerSource = "scheduler" ∧
    minuteKey run.scheduledAt = minuteKey scheduledAt

instance (publishedJobId : UUID) (scheduledAt : DateTime) (run : JobRun) :
    Decidable (IsSchedulerRun publishedJobId scheduledAt run) :=
  inferInstanceAs (Decidable (_ ∧ _))

/-- The call adds a run. -/
def Creates (db : Db) (call : JobCall) : Prop :=
  ∃ run ∈ (step ids db call).jobRuns, run ∉ db.jobRuns

/-- The scheduler has served the minute. -/
def Served (publishedJobId : UUID) (scheduledAt : DateTime) (db : Db) : Prop :=
  ∃ run ∈ db.jobRuns, IsSchedulerRun publishedJobId scheduledAt run

/-- Some run of the job lies in the minute. -/
def HasRun (publishedJobId : UUID) (scheduledAt : DateTime) (db : Db) : Prop :=
  ∃ run ∈ db.jobRuns, run.publishedJobId = publishedJobId ∧
    minuteKey run.scheduledAt = minuteKey scheduledAt

/-- Some run of the job lies in a later minute. -/
def HasLaterRun (publishedJobId : UUID) (scheduledAt : DateTime) (db : Db) : Prop :=
  ∃ run ∈ db.jobRuns, run.publishedJobId = publishedJobId ∧
    minuteKey scheduledAt < minuteKey run.scheduledAt

instance (publishedJobId : UUID) (scheduledAt : DateTime) (db : Db) :
    Decidable (Served publishedJobId scheduledAt db) :=
  inferInstanceAs (Decidable (∃ run ∈ db.jobRuns, _))

instance (publishedJobId : UUID) (scheduledAt : DateTime) (db : Db) :
    Decidable (HasRun publishedJobId scheduledAt db) :=
  inferInstanceAs (Decidable (∃ run ∈ db.jobRuns, _))

instance (publishedJobId : UUID) (scheduledAt : DateTime) (db : Db) :
    Decidable (HasLaterRun publishedJobId scheduledAt db) :=
  inferInstanceAs (Decidable (∃ run ∈ db.jobRuns, _))

/-- What a scheduled call is meant to do. -/
def ScheduledOnce (publishedJobId : UUID) (scheduledAt : DateTime) (db : Db) : Prop :=
  Creates ids db (.scheduled publishedJobId scheduledAt) ↔
    Due publishedJobId scheduledAt db ∧ ¬ Served publishedJobId scheduledAt db

def ExactlyOnce (db : Db) : JobCall → Prop
  | .scheduled publishedJobId scheduledAt => ScheduledOnce ids publishedJobId scheduledAt db
  | _ => True

/-- A call that is due finds its minute as the guard sees it: a minute the scheduler has served is
not followed by a run in a later one, and a minute it has not served has no run of the job, or one
that was followed by a run in a later minute. -/
def SeesMinute (publishedJobId : UUID) (scheduledAt : DateTime) (db : Db) : Prop :=
  Due publishedJobId scheduledAt db →
    (Served publishedJobId scheduledAt db → ¬ HasLaterRun publishedJobId scheduledAt db) ∧
    (¬ Served publishedJobId scheduledAt db →
      ¬ HasRun publishedJobId scheduledAt db ∨ HasLaterRun publishedJobId scheduledAt db)

def GuardSeesMinute (db : Db) : JobCall → Prop
  | .scheduled publishedJobId scheduledAt => SeesMinute publishedJobId scheduledAt db
  | _ => True

/-- At most one scheduler run for a job and a minute. -/
def OneRunPerMinute (db : Db) : Prop :=
  ∀ run ∈ db.jobRuns, ∀ run' ∈ db.jobRuns, run.triggerSource = "scheduler" →
    IsSchedulerRun run.publishedJobId run.scheduledAt run' → run = run'

instance (db : Db) : Decidable (OneRunPerMinute db) :=
  inferInstanceAs (Decidable (∀ run ∈ db.jobRuns, ∀ run' ∈ db.jobRuns, _ → _ → _))

/-! ## One call -/

variable {ids} {publishedJobId : UUID} {scheduledAt : DateTime} {db : Db}

/-- **What the guard sees**: a run of the job in the minute, and none in a later one. -/
theorem alreadyTriggeredForMinute_iff :
    alreadyTriggeredForMinute publishedJobId scheduledAt db = true ↔
      HasRun publishedJobId scheduledAt db ∧ ¬ HasLaterRun publishedJobId scheduledAt db := by
  unfold alreadyTriggeredForMinute
  cases hlatest : latestRun publishedJobId db with
  | none =>
    have hnone := latestRun_eq_none hlatest
    simp only [Bool.false_eq_true, false_iff]
    rintro ⟨⟨run, hrun, hjob, -⟩, -⟩
    exact hnone run hrun hjob
  | some latest =>
    obtain ⟨hmem, hjob, hmax⟩ := latestRun_spec hlatest
    simp only [decide_eq_true_eq]
    constructor
    · intro hminute
      refine ⟨⟨latest, hmem, hjob, hminute⟩, ?_⟩
      rintro ⟨run, hrun, hrunJob, hlt⟩
      have hle := minuteKey_mono (hmax run hrun hrunJob)
      rw [hminute] at hle
      exact absurd hlt (not_lt.mpr hle)
    · rintro ⟨⟨run, hrun, hrunJob, hminute⟩, hnot⟩
      have hge := minuteKey_mono (hmax run hrun hrunJob)
      rw [hminute] at hge
      exact le_antisymm (not_lt.mp fun hlt => hnot ⟨latest, hmem, hjob, hlt⟩) hge

/-- What a scheduled call does: nothing, or a run for its minute when the job is due and the guard
lets it through. -/
theorem triggerScheduledJob_cases (ids : IdSource) (publishedJobId : UUID)
    (scheduledAt : DateTime) (db : Db) :
    ((triggerScheduledJob ids publishedJobId scheduledAt db).1 = db ∧
      (Due publishedJobId scheduledAt db →
        alreadyTriggeredForMinute publishedJobId scheduledAt db = true)) ∨
    (Due publishedJobId scheduledAt db ∧
      alreadyTriggeredForMinute publishedJobId scheduledAt db = false ∧
      ∃ new : JobRun, IsSchedulerRun publishedJobId scheduledAt new ∧ new ∉ db.jobRuns ∧
        ∀ run, run ∈ (triggerScheduledJob ids publishedJobId scheduledAt db).1.jobRuns ↔
          run ∈ db.jobRuns ∨ run = new) := by
  unfold triggerScheduledJob
  cases hjob : db.publishedJobs.get? publishedJobId with
  | none =>
    refine Or.inl ⟨rfl, ?_⟩
    rintro ⟨job, hget, -⟩
    rw [hjob] at hget
    exact absurd hget (Option.not_mem_none job)
  | some job =>
    have hid : job.id = publishedJobId := Table.key_of_get? hjob
    have hdue : Due publishedJobId scheduledAt db ↔
        job.state = .active ∧ cronMatches job.scheduleExpr scheduledAt = true := by
      rw [Due, hjob]
      simp
    simp only [hid]
    split
    · rename_i hstate
      exact Or.inl ⟨rfl, fun h => absurd (hdue.mp h).1 hstate⟩
    split
    · rename_i hcron
      refine Or.inl ⟨rfl, fun h => ?_⟩
      rw [(hdue.mp h).2] at hcron
      exact absurd hcron (by decide)
    split
    · rename_i hguard
      exact Or.inl ⟨rfl, fun _ => hguard⟩
    · rename_i hstate hcron hguard
      refine Or.inr ⟨hdue.mpr ⟨not_not.mp hstate, by simpa using hcron⟩,
        Bool.eq_false_iff.mpr hguard, _, ⟨hid, rfl, rfl⟩, ?_, fun run =>
        PublishedJobTrigger.mem_jobRuns_trigger⟩
      intro hmem
      exact Table.key_ne_nextKey _ _ hmem rfl

theorem creates_scheduled_iff :
    Creates ids db (.scheduled publishedJobId scheduledAt) ↔
      Due publishedJobId scheduledAt db ∧
        alreadyTriggeredForMinute publishedJobId scheduledAt db = false := by
  rcases triggerScheduledJob_cases ids publishedJobId scheduledAt db with
    ⟨heq, hguard⟩ | ⟨hdue, hguard, new, -, hnew, hmem⟩
  · constructor
    · rintro ⟨run, hrun, hnot⟩
      rw [step, heq] at hrun
      exact absurd hrun hnot
    · rintro ⟨hdue, hfalse⟩
      rw [hguard hdue] at hfalse
      exact Bool.noConfusion hfalse
  · exact ⟨fun _ => ⟨hdue, hguard⟩, fun _ => ⟨new, (hmem new).mpr (Or.inr rfl), hnew⟩⟩

theorem Served.hasRun (h : Served publishedJobId scheduledAt db) :
    HasRun publishedJobId scheduledAt db :=
  let ⟨run, hrun, hjob, _, hminute⟩ := h
  ⟨run, hrun, hjob, hminute⟩

/-- **One call** does what it is meant to do exactly when it finds its minute as the guard
sees it. -/
theorem scheduledOnce_iff :
    ScheduledOnce ids publishedJobId scheduledAt db ↔ SeesMinute publishedJobId scheduledAt db := by
  unfold ScheduledOnce SeesMinute
  rw [creates_scheduled_iff, ← Bool.not_eq_true, alreadyTriggeredForMinute_iff]
  by_cases hdue : Due publishedJobId scheduledAt db
  · have hrun : Served publishedJobId scheduledAt db → HasRun publishedJobId scheduledAt db :=
      Served.hasRun
    simp only [hdue, true_and, true_imp_iff]
    tauto
  · simp only [hdue, false_and, false_imp_iff]

theorem exactlyOnce_iff (call : JobCall) : ExactlyOnce ids db call ↔ GuardSeesMinute db call := by
  cases call with
  | scheduled => exact scheduledOnce_iff
  | manual => exact Iff.rfl
  | edit => exact Iff.rfl

/-- A manual call adds at most a run that is not the scheduler's. -/
theorem mem_jobRuns_triggerPublishedJob {now : DateTime} {run : JobRun}
    (h : run ∈ (triggerPublishedJob ids now publishedJobId "manual" db).1.jobRuns) :
    run ∈ db.jobRuns ∨ run.triggerSource ≠ "scheduler" := by
  unfold triggerPublishedJob at h
  cases hjob : db.publishedJobs.get? publishedJobId with
  | none =>
    rw [hjob] at h
    exact Or.inl h
  | some job =>
    rw [hjob] at h
    rcases PublishedJobTrigger.mem_jobRuns_trigger.mp h with hold | rfl
    · exact Or.inl hold
    · exact Or.inr (by simp [PublishedJobTrigger.jobRunRow])

theorem OneRunPerMinute.step {call : JobCall} (h : OneRunPerMinute db)
    (hsees : GuardSeesMinute db call) : OneRunPerMinute (step ids db call) := by
  cases call with
  | edit => exact h
  | manual publishedJobId now =>
    intro run hrun run' hrun' hsource hminute
    have hold := (mem_jobRuns_triggerPublishedJob hrun).resolve_right (not_not.mpr hsource)
    have hold' := (mem_jobRuns_triggerPublishedJob hrun').resolve_right (not_not.mpr hminute.2.1)
    exact h run hold run' hold' hsource hminute
  | scheduled publishedJobId scheduledAt =>
    rcases triggerScheduledJob_cases ids publishedJobId scheduledAt db with
      ⟨heq, -⟩ | ⟨hdue, hguard, new, hnew, -, hmem⟩
    · rw [OncePerMinute.step, heq]
      exact h
    · have honce : ScheduledOnce ids publishedJobId scheduledAt db := scheduledOnce_iff.mpr hsees
      have hnone : ¬ Served publishedJobId scheduledAt db :=
        (honce.mp (creates_scheduled_iff.mpr ⟨hdue, hguard⟩)).2
      intro run hrun run' hrun' hsource hminute
      rcases (hmem run).mp hrun with hold | rfl
      · rcases (hmem run').mp hrun' with hold' | rfl
        · exact h run hold run' hold' hsource hminute
        · exact absurd ⟨run, hold, hminute.1.symm.trans hnew.1, hsource,
            hminute.2.2.symm.trans hnew.2.2⟩ hnone
      · rcases (hmem run').mp hrun' with hold' | rfl
        · exact absurd ⟨run', hold', hminute.1.trans hnew.1, hminute.2.1,
            hminute.2.2.trans hnew.2.2⟩ hnone
        · rfl

/-! ## Whole runs -/

/-- **Exactly one scheduled run for a matching minute.**  In any sequence of calls, every scheduled
call does what it is meant to do if and only if each of them finds its minute as the guard sees it;
and then no job ever has two scheduler runs for one minute. -/
theorem scheduled_exactly_once_iff (ids : IdSource) (db : Db) (calls : List JobCall) :
    (Run.Along (step ids) (ExactlyOnce ids) db calls ↔
      Run.Along (step ids) GuardSeesMinute db calls) ∧
    (OneRunPerMinute db → Run.Along (step ids) GuardSeesMinute db calls →
      OneRunPerMinute (Run.final (step ids) db calls)) := by
  refine ⟨?_, fun h hsees => ?_⟩
  · exact Run.along_congr (I := fun _ => True) (fun _ _ _ => trivial)
      (fun db call _ => exactlyOnce_iff call) trivial
  · exact Run.invariant_of_along (fun db call => OneRunPerMinute.step) h hsees

/-- A job that is to run every minute. -/
def sampleJob : PublishedJob where
  id := 1
  jobKey := "erp_users_table_render"
  pageCheckId := 1
  scheduleExpr := "* * * * *"

def sampleDb : Db where
  publishedJobs := .single sampleJob

/-- The scheduler calls for the first minute, for the second, and late for the first again. -/
def lateCalls : List JobCall :=
  [.scheduled 1 0, .scheduled 1 Calendar.microseconds, .scheduled 1 0]

/-- The job is started by hand at 30 s, and called for at 45 s of the same minute. -/
def manualCalls : List JobCall := [.manual 1 30000000, .scheduled 1 45000000]

/-- When a job is called for, or started. -/
def JobCall.time : JobCall → Option DateTime
  | .scheduled _ scheduledAt => some scheduledAt
  | .manual _ now => some now
  | .edit _ => none

theorem scheduled_exactly_once_sample :
    OneRunPerMinute (Run.final (step .ascending) sampleDb [.scheduled 1 0, .scheduled 1 0]) := by
  refine (scheduled_exactly_once_iff _ _ _).2 (by decide) ?_
  refine ⟨fun _ => ⟨?_, ?_⟩, fun _ => ⟨?_, ?_⟩, trivial⟩
  all_goals decide +kernel

/-- The minute of a late call gets a second run.  Also when no call is late, a manual run takes the
place of the scheduled one. -/
theorem scheduled_exactly_once_fails :
    ¬ OneRunPerMinute (Run.final (step .ascending) sampleDb lateCalls) ∧
    ¬ ∀ (ids : IdSource) (db : Db) (calls : List JobCall), OneRunPerMinute db →
      (calls.filterMap JobCall.time).Pairwise (· ≤ ·) →
        Run.Along (step ids) (ExactlyOnce ids) db calls := by
  refine ⟨by decide +kernel, fun h => ?_⟩
  have hmanual := h .ascending sampleDb manualCalls (by decide) (by decide)
  have honce := hmanual.2.1
  have hcreates : ¬ Creates .ascending (step .ascending sampleDb (.manual 1 30000000))
      (.scheduled 1 45000000) := by
    rw [creates_scheduled_iff]
    exact fun hguard => absurd hguard.2 (by decide +kernel)
  refine hcreates (honce.mpr ⟨⟨sampleJob, rfl, rfl, by decide +kernel⟩, by decide +kernel⟩)

end OncePerMinute

end Runlet
