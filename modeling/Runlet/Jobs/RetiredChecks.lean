import Runlet.Jobs.JobRuns
import Runlet.Jobs.RetryBookkeeping
import Runlet.RunnerService.PageChecks

/-!
# Retired checks

A precompiled check job looks at its check and its page asset before it starts, and every attempt
looks again.  Other sessions may retire or reactivate them at any time in between: before the look
of the job, before an attempt, and between the two reads of an attempt (`AttemptWorld`).

* `ReadsActive`, `FindsRetired`: what an attempt reads.
* `attemptsOf`: the outcomes of the attempts that the handler makes for a job.
* `retired_never_executed`: the steps are only ever carried out on what was read as active, and a
  look that finds something retired is the last one.
* `run_of_raise`: an exception that leaves the handler changes nothing of this.
-/

namespace Runlet

open KeyedTable RunCheckJob PageChecks

namespace RetiredChecks

/-! ## One attempt -/

section Attempt

variable (world : AttemptWorld) (checkId : Option UUID) (db : Db)

/-- The database when the attempt reads the check. -/
def checkDb : Db := world.beforeCheck.apply db

/-- The database when the attempt reads the asset. -/
def assetDb : Db := world.beforeAsset.apply (checkDb world db)

/-- The check and the asset are active when the attempt reads them. -/
def ReadsActive : Prop :=
  ∃ check asset, checkId.bind (checkDb world db).pageChecks.get? = some check ∧
    check.lifecycleStatus = .active ∧
    (assetDb world db).pageAssets.get? check.pageAssetId = some asset ∧
    asset.lifecycleStatus = .active

/-- The attempt finds the check or the asset retired. -/
inductive FindsRetired : Prop
  | check (check : PageCheck)
    (hread : checkId.bind (checkDb world db).pageChecks.get? = some check)
    (hretired : check.lifecycleStatus ≠ .active)
  | asset (check : PageCheck) (modulePlan : ModulePlan) (asset : PageAsset)
    (hcheck : readCheck checkId (checkDb world db) = .ok (check, modulePlan))
    (hread : (assetDb world db).pageAssets.get? check.pageAssetId = some asset)
    (hretired : asset.lifecycleStatus ≠ .active)

end Attempt

section

variable {ids : IdSource} {now : DateTime} {world : AttemptWorld}
  {checkId executionPlanId : Option UUID} {inputs : Option Json} {db : Db}

theorem retirementFailureMessage_eq_none_iff {status : AssetLifecycleStatus} :
    PageChecks.retirementFailureMessage status = none ↔ status = .active := by
  by_cases h : status = .active
  · exact iff_of_true (if_pos h) h
  · exact iff_of_false (fun hnone => nomatch (if_neg h).symm.trans hnone) h

/-- A check that was read to the end is active. -/
theorem readCheck_ok {check : PageCheck} {modulePlan : ModulePlan}
    (h : readCheck checkId db = .ok (check, modulePlan)) :
    checkId.bind db.pageChecks.get? = some check ∧ check.lifecycleStatus = .active := by
  unfold readCheck at h
  dsimp only at h
  split at h
  · cases h
  · rename_i found hfound
    split at h
    · cases h
    · rename_i hactive
      split at h
      · cases h
      · split at h
        · cases h
        · obtain rfl : found = check := (Prod.mk.inj (Except.ok.inj h)).1
          exact ⟨hfound, retirementFailureMessage_eq_none_iff.mp hactive⟩

/-- A read of the check that blocks the call found it retired. -/
theorem readCheck_blocked_iff :
    (∃ reason, readCheck checkId db = .error (.blocked reason)) ↔
      ∃ check, checkId.bind db.pageChecks.get? = some check ∧ check.lifecycleStatus ≠ .active := by
  unfold readCheck
  dsimp only
  cases hread : checkId.bind db.pageChecks.get? with
  | none =>
    exact iff_of_false (fun ⟨_, h⟩ => nomatch h) fun ⟨_, h, _⟩ => nomatch h
  | some check =>
    dsimp only
    cases hmessage : PageChecks.retirementFailureMessage check.lifecycleStatus with
    | some reason =>
      refine iff_of_true ⟨reason, rfl⟩ ⟨check, rfl, fun hactive => ?_⟩
      exact nomatch hmessage.symm.trans (retirementFailureMessage_eq_none_iff.mpr hactive)
    | none =>
      refine iff_of_false ?_ ?_
      · rintro ⟨reason, h⟩
        dsimp only at h
        split at h
        · exact nomatch h
        · split at h <;> exact nomatch h
      · rintro ⟨check', hcheck, hretired⟩
        rw [← Option.some.inj hcheck] at hretired
        exact hretired (retirementFailureMessage_eq_none_iff.mp hmessage)

theorem readAsset_ok {check : PageCheck} {asset : PageAsset} (h : readAsset check db = .ok asset) :
    db.pageAssets.get? check.pageAssetId = some asset ∧ asset.lifecycleStatus = .active := by
  unfold readAsset at h
  split at h
  · cases h
  · rename_i found hfound
    split at h
    · cases h
    · rename_i hactive
      obtain rfl : found = asset := Except.ok.inj h
      exact ⟨hfound, retirementFailureMessage_eq_none_iff.mp hactive⟩

theorem readAsset_blocked_iff {check : PageCheck} :
    (∃ reason, readAsset check db = .error (.blocked reason)) ↔
      ∃ asset, db.pageAssets.get? check.pageAssetId = some asset ∧
        asset.lifecycleStatus ≠ .active := by
  unfold readAsset
  cases hread : db.pageAssets.get? check.pageAssetId with
  | none => exact iff_of_false (fun ⟨_, h⟩ => nomatch h) fun ⟨_, h, _⟩ => nomatch h
  | some asset =>
    dsimp only
    cases hmessage : PageChecks.retirementFailureMessage asset.lifecycleStatus with
    | some reason =>
      refine iff_of_true ⟨reason, rfl⟩ ⟨asset, rfl, fun hactive => ?_⟩
      exact nomatch hmessage.symm.trans (retirementFailureMessage_eq_none_iff.mpr hactive)
    | none =>
      refine iff_of_false (fun ⟨_, h⟩ => nomatch h) ?_
      rintro ⟨asset', hasset, hretired⟩
      rw [← Option.some.inj hasset] at hretired
      exact hretired (retirementFailureMessage_eq_none_iff.mp hmessage)

/-- The steps are carried out only on what was read as active. -/
theorem readsActive_of_execution
    (h : (runPageCheck ids now world checkId executionPlanId inputs db).execution ≠ none) :
    ReadsActive world checkId db := by
  unfold runPageCheck at h
  dsimp only at h
  split at h
  · exact absurd rfl h
  · rename_i check modulePlan hcheck
    unfold runRead at h
    split at h
    · exact absurd rfl h
    · rename_i asset hasset
      obtain ⟨hread, hactive⟩ := readCheck_ok hcheck
      exact ⟨check, asset, hread, hactive, readAsset_ok hasset⟩

theorem execute_not_blocked {check : PageCheck} {asset : PageAsset} {modulePlan : ModulePlan}
    {planId : UUID} {session committed : Db} {reason : String} :
    (PageChecks.execute ids now world inputs check asset modulePlan planId session
      committed).called.outcome ≠ .blocked reason := by
  unfold PageChecks.execute
  dsimp only
  split
  · exact fun h => by cases h
  · split <;> exact fun h => by cases h

theorem readSystem_not_blocked {asset : PageAsset} {reason : String} :
    readSystem asset db ≠ .error (.blocked reason) := by
  unfold readSystem
  intro h
  split at h
  · exact nomatch h
  · split at h
    · exact nomatch h
    · split at h <;> exact nomatch h

/-- A call is blocked exactly when it finds something retired. -/
theorem blocked_iff :
    (∃ reason, (runPageCheck ids now world checkId executionPlanId inputs db).called.outcome =
        .blocked reason) ↔ FindsRetired world checkId db := by
  unfold runPageCheck
  dsimp only
  cases hcheck : readCheck checkId (world.beforeCheck.apply db) with
  | error outcome =>
    constructor
    · rintro ⟨reason, h⟩
      obtain ⟨check, hread, hretired⟩ :=
        readCheck_blocked_iff.mp ⟨reason, hcheck.trans (congrArg Except.error h)⟩
      exact .check check hread hretired
    · rintro (⟨check, hread, hretired⟩ | ⟨check, modulePlan, asset, hok, -, -⟩)
      · obtain ⟨reason, hblocked⟩ := readCheck_blocked_iff.mpr ⟨check, hread, hretired⟩
        exact ⟨reason, Except.error.inj (hcheck.symm.trans hblocked)⟩
      · exact nomatch hcheck.symm.trans hok
  | ok read =>
    obtain ⟨check, modulePlan⟩ := read
    dsimp only
    have hactive := (readCheck_ok hcheck).2
    have hread := (readCheck_ok hcheck).1
    have hasset_iff : FindsRetired world checkId db ↔
        ∃ asset, (assetDb world db).pageAssets.get? check.pageAssetId = some asset ∧
          asset.lifecycleStatus ≠ .active := by
      constructor
      · rintro (⟨check', hread', hretired⟩ | ⟨check', modulePlan', asset, hok, hread', hretired⟩)
        · rw [← Option.some.inj (hread.symm.trans hread')] at hretired
          exact absurd hactive hretired
        · obtain ⟨rfl, -⟩ := Prod.mk.inj (Except.ok.inj (hcheck.symm.trans hok))
          exact ⟨asset, hread', hretired⟩
      · rintro ⟨asset, hread', hretired⟩
        exact .asset check modulePlan asset hcheck hread' hretired
    rw [hasset_iff, ← readAsset_blocked_iff]
    unfold runRead
    change _ ↔ ∃ reason, readAsset check (world.beforeAsset.apply (world.beforeCheck.apply db)) = _
    cases hasset : readAsset check (world.beforeAsset.apply (world.beforeCheck.apply db)) with
    | error outcome =>
      exact exists_congr fun reason => ⟨fun h => congrArg Except.error h, fun h => Except.error.inj h⟩
    | ok asset =>
      refine iff_of_false ?_ fun ⟨_, h⟩ => nomatch h
      rintro ⟨reason, h⟩
      dsimp only at h
      split at h
      · rename_i outcome hsystem
        have houtcome : outcome = .blocked reason := h
        exact readSystem_not_blocked (hsystem.trans (congrArg Except.error houtcome))
      · split at h
        · exact nomatch h
        · exact execute_not_blocked h

/-- A blocked call carries nothing out and writes no run. -/
theorem blocked_writes_nothing {reason : String}
    (h : (runPageCheck ids now world checkId executionPlanId inputs db).called.outcome =
      .blocked reason) :
    (runPageCheck ids now world checkId executionPlanId inputs db).execution = none ∧
      (runPageCheck ids now world checkId executionPlanId inputs db).called.session.executionRuns =
        db.executionRuns := by
  have hcheckRuns : (world.beforeCheck.apply db).executionRuns = db.executionRuns :=
    (world.beforeCheck.sameWork db).executionRuns
  have hassetRuns : (world.beforeAsset.apply (world.beforeCheck.apply db)).executionRuns =
      db.executionRuns := (world.beforeAsset.sameWork _).executionRuns.trans hcheckRuns
  unfold runPageCheck at h ⊢
  dsimp only at h ⊢
  split at h
  · exact ⟨rfl, hcheckRuns⟩
  · unfold runRead at h ⊢
    split at h
    · exact ⟨rfl, hassetRuns⟩
    · split at h
      · exact ⟨rfl, hassetRuns⟩
      · dsimp only at h
        split at h
        · exact nomatch h
        · exact absurd h execute_not_blocked

end

/-! ## The run of a job -/

section Run

variable (base : RunCheckJobHandler) (ids : IdSource) (now : DateTime) (world : ℕ → AttemptWorld)
  (job : QueuedJob) (runId : Option UUID) (db : Db)

/-- The database that the job is running in, before its first attempt. -/
def runningDb : Db := markRunning now job.id runId db

/-- The outcomes of the attempts that the handler makes for a job that reached the guard. -/
def attemptsOf : List (CallEnd RunPageCheckResult) :=
  match skipReason job.payload db with
  | some _ => []
  | none =>
    Bounded.outcomes precompiledMaxAttempts (checkHandler base ids now world) now
      (parsed job.payload.pageCheckId) (parsed job.payload.executionPlanId)
      (runtimeInputs job.payload db) (Bounded.attemptNumbers precompiledMaxAttempts) {}
      (runningDb now job runId db)

/-- The record and the database before the attempt in a place of that list. -/
def stateBefore (i : ℕ) : Attempts × Db :=
  EarlyExit.reached (Bounded.round precompiledMaxAttempts (checkHandler base ids now world) now
    (parsed job.payload.pageCheckId) (parsed job.payload.executionPlanId)
    (runtimeInputs job.payload db)) ({}, runningDb now job runId db)
    ((Bounded.attemptNumbers precompiledMaxAttempts).take i)

def dbBefore (i : ℕ) : Db :=
  (stateBefore base ids now world job runId db i).2

/-- The call of that attempt. -/
def attemptRun (i : ℕ) : PageCheckRun :=
  runPageCheck ids now (world (i + 1)) (parsed job.payload.pageCheckId)
    (parsed job.payload.executionPlanId) (runtimeInputs job.payload db)
    (dbBefore base ids now world job runId db i)

end Run

/-- The guard of the job finds the check or its asset retired. -/
def GuardFindsRetired (payload : JobPayload) (db : Db) : Prop :=
  ∃ checkId check, parsed payload.pageCheckId = some checkId ∧
    db.pageChecks.get? checkId = some check ∧
    (check.lifecycleStatus ≠ .active ∨ ∃ asset,
      db.pageAssets.get? check.pageAssetId = some asset ∧ asset.lifecycleStatus ≠ .active)

/-- Both rows end as skipped, with a record of attempts. -/
structure EndsSkipped (jobId : UUID) (runId : Option UUID) (retry : Option RetryPayload)
    (db : Db) : Prop where
  job : ∃ job ∈ db.queuedJobs, job.id = jobId ∧ job.status = .skipped ∧
    ∃ payload, job.resultPayload = some (.runCheck payload) ∧ payload.retry = retry
  run : ∀ id, runId = some id → ∃ run ∈ db.jobRuns, run.id = id ∧ run.runStatus = .skipped

/-- What the run of a job owes a retired check. -/
structure NeverExecuted (base : RunCheckJobHandler) (ids : IdSource) (now : DateTime)
    (world : ℕ → AttemptWorld) (job : QueuedJob) (runId : Option UUID) (db final : Db) : Prop where
  /-- An attempt that carries out the steps has read both as active. -/
  executes : ∀ i, i < (attemptsOf base ids now world job runId db).length →
    (attemptRun base ids now world job runId db i).execution ≠ none →
      ReadsActive (world (i + 1)) (parsed job.payload.pageCheckId)
        (dbBefore base ids now world job runId db i)
  /-- What the guard finds retired is not attempted. -/
  guarded : GuardFindsRetired job.payload db →
    attemptsOf base ids now world job runId db = [] ∧
      EndsSkipped job.id runId none final ∧ final.executionRuns = db.executionRuns
  /-- What an attempt finds retired is not carried out, and not attempted again. -/
  blocked : ∀ i, i < (attemptsOf base ids now world job runId db).length →
    FindsRetired (world (i + 1)) (parsed job.payload.pageCheckId)
      (dbBefore base ids now world job runId db i) →
      (attemptsOf base ids now world job runId db).length = i + 1 ∧
        (attemptRun base ids now world job runId db i).execution = none ∧
        final.executionRuns = (dbBefore base ids now world job runId db i).executionRuns ∧
        ∃ retry, EndsSkipped job.id runId retry final ∧ (retry = none ↔ i = 0) ∧
          ∀ payload, retry = some payload →
            Bounded.ExactRecord precompiledMaxAttempts
              (attemptsOf base ids now world job runId db) payload

/-! ## The rows at the end -/

section Rows

variable {jobId : UUID} {runId : Option UUID} {db : Db}

/-- The rows of a job are there. -/
structure HasRows (jobId : UUID) (runId : Option UUID) (db : Db) : Prop where
  job : ∃ job ∈ db.queuedJobs, job.id = jobId
  run : ∀ id, runId = some id → ∃ run ∈ db.jobRuns, run.id = id

theorem HasRows.sameJobs {db' : Db} (h : HasRows jobId runId db)
    (hsame : JobRuns.SameJobs db db') : HasRows jobId runId db' := by
  refine ⟨?_, ?_⟩
  · rw [hsame.queuedJobs]
    exact h.job
  · rw [hsame.jobRuns]
    exact h.run

/-- Writing both rows keeps them, and leaves on them what was written. -/
theorem exists_job_writeBoth (h : HasRows jobId runId db) {f : QueuedJob → QueuedJob}
    (hf : ∀ j, key (f j) = key j) {g : JobRun → JobRun} (hg : ∀ r, key (g r) = key r) :
    ∃ job ∈ db.queuedJobs, f job ∈ (writeBoth jobId runId f hf g hg db).queuedJobs ∧
      (f job).id = jobId := by
  obtain ⟨job, hmem, hid⟩ := h.job
  have hrow := @Table.rewrite_mem_update _ _ _ _ (fun job : QueuedJob => decide (job.id = jobId))
    f hf _ hmem
  rw [Table.rewrite_of_pos (fun job : QueuedJob => decide (job.id = jobId)) f
    (decide_eq_true hid)] at hrow
  exact ⟨job, hmem, hrow, (hf job).trans hid⟩

theorem exists_run_writeBoth (h : HasRows jobId runId db) {f : QueuedJob → QueuedJob}
    (hf : ∀ j, key (f j) = key j) {g : JobRun → JobRun} (hg : ∀ r, key (g r) = key r) {id : UUID}
    (hrunId : runId = some id) :
    ∃ run ∈ db.jobRuns, g run ∈ (writeBoth jobId runId f hf g hg db).jobRuns ∧
      (g run).id = id := by
  obtain ⟨run, hmem, hid⟩ := h.run id hrunId
  have hrow := @Table.rewrite_mem_update _ _ _ _ (fun run : JobRun => decide (runId = some run.id))
    g hg _ hmem
  rw [Table.rewrite_of_pos (fun run : JobRun => decide (runId = some run.id)) g
    (decide_eq_true (hrunId.trans (congrArg some hid.symm)))] at hrow
  exact ⟨run, hmem, hrow, (hg run).trans hid⟩

theorem HasRows.writeBoth (h : HasRows jobId runId db) {f : QueuedJob → QueuedJob}
    (hf : ∀ j, key (f j) = key j) {g : JobRun → JobRun} (hg : ∀ r, key (g r) = key r) :
    HasRows jobId runId (writeBoth jobId runId f hf g hg db) := by
  refine ⟨?_, fun id hrunId => ?_⟩
  · obtain ⟨job, -, hrow, hid⟩ := exists_job_writeBoth h hf hg
    exact ⟨f job, hrow, hid⟩
  · obtain ⟨run, -, hrow, hid⟩ := exists_run_writeBoth h hf hg hrunId
    exact ⟨g run, hrow, hid⟩

theorem endsSkipped_markSkipped (now : DateTime) (message : String) (retry : Option RetryPayload)
    (h : HasRows jobId runId db) :
    EndsSkipped jobId runId retry (markSkipped now jobId message runId retry db) := by
  refine ⟨?_, fun id hrunId => ?_⟩
  · obtain ⟨job, -, hrow, hid⟩ := exists_job_writeBoth h
      (f := endedJob now .skipped "skipped" message retry) (fun _ => rfl)
      (g := endedRun now .skipped message) (fun _ => rfl)
    exact ⟨_, hrow, hid, rfl, _, rfl, rfl⟩
  · obtain ⟨run, -, hrow, hid⟩ := exists_run_writeBoth h
      (f := endedJob now .skipped "skipped" message retry) (fun _ => rfl)
      (g := endedRun now .skipped message) (fun _ => rfl) hrunId
    exact ⟨_, hrow, hid, rfl⟩

/-- The rows that the handler found. -/
theorem hasRows_of_found {job : QueuedJob} (hjob : db.queuedJobs.get? jobId = some job)
    (hrun : findJobRun job.payload db = .ok runId) : HasRows job.id runId db := by
  refine ⟨⟨job, Table.mem_of_get? hjob, rfl⟩, fun id hid => ?_⟩
  subst hid
  unfold findJobRun at hrun
  split_ifs at hrun
  · cases Except.ok.inj hrun
  · split at hrun
    · cases hrun
    · split at hrun
      · cases hrun
      · rename_i run hfound
        have hmem := Table.mem_of_get? hfound
        split at hrun
        · exact ⟨run, hmem, Option.some.inj (Except.ok.inj hrun)⟩
        · split_ifs at hrun
          exact ⟨run, hmem, Option.some.inj (Except.ok.inj hrun)⟩

end Rows

/-! ## The guard -/

section Guard

variable {payload : JobPayload} {db : Db}

theorem retirementFailureMessage_of_retired {status : AssetLifecycleStatus} (h : status ≠ .active) :
    RunCheckJob.retirementFailureMessage status = some assetRetiredFailureMessage := by
  cases status with
  | active => exact absurd rfl h
  | retiredMissing => rfl
  | retiredReplaced => rfl
  | retiredManual => rfl

theorem skipReason_of_retired (htrack : executionTrack payload = "precompiled")
    (h : GuardFindsRetired payload db) : ∃ reason, skipReason payload db = some reason := by
  obtain ⟨checkId, check, hparsed, hcheck, hretired⟩ := h
  have hprobe : ¬executionTrack payload = "realtime_probe" := by
    rw [htrack]
    decide
  unfold skipReason
  rw [if_neg hprobe, hparsed]
  dsimp only
  unfold resolveRetirementSkipReason
  rw [hcheck]
  dsimp only
  rcases hretired with hretired | ⟨asset, hasset, hretired⟩
  · rw [retirementFailureMessage_of_retired hretired]
    exact ⟨_, rfl⟩
  · split
    · exact ⟨_, rfl⟩
    · rw [hasset]
      dsimp only
      rw [retirementFailureMessage_of_retired hretired]
      exact ⟨_, rfl⟩

end Guard

/-! ## The attempts -/

section Attempts

variable {base : RunCheckJobHandler} {ids : IdSource} {now : DateTime} {world : ℕ → AttemptWorld}
  {job : QueuedJob} {runId : Option UUID} {db : Db}

/-- The loop of a job that passed the guard. -/
theorem attemptsOf_eq (hskip : skipReason job.payload db = none) :
    attemptsOf base ids now world job runId db =
      Bounded.outcomes precompiledMaxAttempts (checkHandler base ids now world) now
        (parsed job.payload.pageCheckId) (parsed job.payload.executionPlanId)
        (runtimeInputs job.payload db) (Bounded.attemptNumbers precompiledMaxAttempts) {}
        (runningDb now job runId db) := by
  unfold attemptsOf
  rw [hskip]

theorem attemptNumbers_getElem? {maxAttempts i number : ℕ}
    (h : (Bounded.attemptNumbers maxAttempts)[i]? = some number) : number = i + 1 := by
  unfold Bounded.attemptNumbers at h
  rw [List.getElem?_map] at h
  obtain ⟨k, hk, rfl⟩ := Option.map_eq_some_iff.mp h
  obtain ⟨hi, hget⟩ := List.getElem?_eq_some_iff.mp hk
  rw [List.getElem_range] at hget
  rw [← hget]

/-- The round in a place of the list, and the call it made. -/
theorem round_at (hskip : skipReason job.payload db = none) {i : ℕ}
    {outcome : CallEnd RunPageCheckResult}
    (h : (attemptsOf base ids now world job runId db)[i]? = some outcome) :
    (attemptRun base ids now world job runId db i).called.outcome = outcome ∧
      ∃ attempts, (EarlyExit.run (Bounded.round precompiledMaxAttempts
        (checkHandler base ids now world) now (parsed job.payload.pageCheckId)
        (parsed job.payload.executionPlanId) (runtimeInputs job.payload db)) Bounded.isStop
        ({}, runningDb now job runId db) (Bounded.attemptNumbers precompiledMaxAttempts)).2[i]? =
          some (outcome,
            Bounded.judgeAttempt precompiledMaxAttempts now (i + 1) attempts outcome) := by
  rw [attemptsOf_eq hskip] at h
  unfold Bounded.outcomes at h
  rw [List.getElem?_map] at h
  obtain ⟨output, houtput, hfst⟩ := Option.map_eq_some_iff.mp h
  obtain ⟨number, hnumber, heq⟩ := EarlyExit.getElem?_run _ _ houtput
  rw [attemptNumbers_getElem? hnumber] at heq
  have houtcome : (attemptRun base ids now world job runId db i).called.outcome = outcome := by
    rw [← hfst, heq]
    rfl
  refine ⟨houtcome, (stateBefore base ids now world job runId db i).1,
    houtput.trans (congrArg some ?_)⟩
  rw [heq, ← houtcome]
  rfl

theorem judgeAttempt_blocked (maxAttempts : ℕ) (now : DateTime) (attemptNo : ℕ)
    (attempts : Attempts) (reason : String) :
    ∃ retry, Bounded.judgeAttempt maxAttempts now attemptNo attempts (.blocked reason) =
      .stop (.blocked retry) := by
  unfold Bounded.judgeAttempt
  by_cases h : attempts.entries = []
  · exact ⟨_, if_pos h⟩
  · exact ⟨_, if_neg h⟩

/-- The books of the loop. -/
theorem exact_attemptsOf (hskip : skipReason job.payload db = none) :
    Bounded.Exact precompiledMaxAttempts (attemptsOf base ids now world job runId db)
      (runPrecompiledWithRetry (checkHandler base ids now world) now
        (parsed job.payload.pageCheckId) (parsed job.payload.executionPlanId)
        (runtimeInputs job.payload db) (Bounded.attemptNumbers precompiledMaxAttempts) {}
        (runningDb now job runId db)).1 := by
  rw [attemptsOf_eq hskip, ← Bounded.runPrecompiledWithRetry_three, Bounded.attemptNumbers_eq]
  exact Bounded.exact_from Bounded.recorded_nil (Nat.zero_add precompiledMaxAttempts)
    (runningDb now job runId db)

theorem attemptDb_of_blocked {called : Called RunPageCheckResult} {reason : String}
    (h : called.outcome = .blocked reason) : Bounded.attemptDb called = called.session := by
  unfold Bounded.attemptDb
  rw [h]

/-- A blocked attempt is the last one, and the loop ends with its database. -/
theorem loop_of_blocked (hskip : skipReason job.payload db = none) {i : ℕ} {reason : String}
    (h : (attemptsOf base ids now world job runId db)[i]? = some (.blocked reason)) :
    (attemptsOf base ids now world job runId db).length = i + 1 ∧
      ∃ retry, runPrecompiledWithRetry (checkHandler base ids now world) now
          (parsed job.payload.pageCheckId) (parsed job.payload.executionPlanId)
          (runtimeInputs job.payload db) (Bounded.attemptNumbers precompiledMaxAttempts) {}
          (runningDb now job runId db) =
        (.blocked retry, (attemptRun base ids now world job runId db i).called.session) := by
  obtain ⟨houtcome, attempts, hround⟩ := round_at hskip h
  obtain ⟨retry, hjudge⟩ := judgeAttempt_blocked precompiledMaxAttempts now (i + 1) attempts reason
  rw [hjudge] at hround
  refine ⟨?_, retry, ?_⟩
  · have hlt : i < (attemptsOf base ids now world job runId db).length :=
      (List.getElem?_eq_some_iff.mp h).1
    by_contra hne
    have hretryable := (exact_attemptsOf hskip).retryable_of_lt i _ (by omega) h
    exact nomatch hretryable
  · rw [← Bounded.runPrecompiledWithRetry_three]
    obtain ⟨number, hnumber, hloop⟩ := Bounded.loop_eq_of_stop hround
    rw [attemptNumbers_getElem? hnumber] at hloop
    exact hloop.trans (congrArg (Prod.mk _) (attemptDb_of_blocked houtcome))

/-- A job that passed the guard ends as its loop does. -/
theorem handle_eq (htrack : executionTrack job.payload = "precompiled")
    (hadmitted : refused job.payload db = none) (hrun : findJobRun job.payload db = .ok runId)
    (hskip : skipReason job.payload db = none) :
    let loop := runPrecompiledWithRetry (checkHandler base ids now world) now
      (parsed job.payload.pageCheckId) (parsed job.payload.executionPlanId)
      (runtimeInputs job.payload db) (Bounded.attemptNumbers precompiledMaxAttempts) {}
      (runningDb now job runId db)
    handle (checkHandler base ids now world) now none job db =
      (markEnding now job.id runId loop.1 loop.2, .ok ()) := by
  unfold handle
  rw [hadmitted]
  dsimp only
  rw [hrun]
  dsimp only
  rw [hskip]
  dsimp only
  unfold finish RunCheckJob.execute
  dsimp only
  rw [htrack]
  rfl

/-- A job that the guard finds retired. -/
theorem handle_eq_of_skip (hadmitted : refused job.payload db = none)
    (hrun : findJobRun job.payload db = .ok runId) {reason : String}
    (hskip : skipReason job.payload db = some reason) :
    handle (checkHandler base ids now world) now none job db =
      (markSkipped now job.id reason runId none db, .ok ()) := by
  unfold handle
  rw [hadmitted]
  dsimp only
  rw [hrun]
  dsimp only
  rw [hskip]

/-- The record is left out exactly when the first attempt was blocked. -/
theorem unrecorded_iff {ending : Ending} {i : ℕ} {reason : String}
    {outcomes : List (CallEnd RunPageCheckResult)}
    (hexact : Bounded.Exact precompiledMaxAttempts outcomes ending)
    (hlength : outcomes.length = i + 1) (h : outcomes[i]? = some (.blocked reason)) :
    ending.retry = none ↔ i = 0 := by
  rw [hexact.unrecorded_iff]
  constructor
  · rintro ⟨outcome, houtcomes, -⟩
    rw [houtcomes, List.length_singleton] at hlength
    omega
  · rintro rfl
    obtain ⟨outcome, houtcomes⟩ := List.length_eq_one_iff.mp hlength
    refine ⟨outcome, houtcomes, ?_⟩
    rw [houtcomes] at h
    rw [Option.some.inj h]
    rfl

end Attempts

/-! ## A run that is broken off -/

theorem executionRuns_markEnding (now : DateTime) (jobId : UUID) (runId : Option UUID)
    (ending : Ending) (db : Db) :
    (markEnding now jobId runId ending db).executionRuns = db.executionRuns := by
  cases ending <;> rfl

/-- An exception that leaves the handler either comes before everything, or makes no difference to
the execution runs. -/
theorem run_of_raise (handler : RunCheckJobHandler) (now : DateTime) (raise : Raise) (jobId : UUID)
    (db : Db) :
    (RunCheckJob.run handler now (some raise) jobId db).1 = db ∨
      (RunCheckJob.run handler now (some raise) jobId db).1.executionRuns =
        (RunCheckJob.run handler now none jobId db).1.executionRuns := by
  unfold RunCheckJob.run
  cases db.queuedJobs.get? jobId with
  | none => exact Or.inl rfl
  | some job =>
    cases raise with
    | early message => exact Or.inl rfl
    | late message =>
      refine Or.inr ?_
      dsimp only
      unfold handle
      cases refused job.payload db with
      | some refusal => rfl
      | none =>
        dsimp only
        cases findJobRun job.payload db with
        | error refusal => rfl
        | ok runId =>
          dsimp only
          cases skipReason job.payload db with
          | some reason => rfl
          | none =>
            -- Only the two rows of the queue are written after the attempts.
            dsimp only
            unfold finish
            dsimp only
            generalize RunCheckJob.execute handler now job.payload _ _ = executed
            exact (executionRuns_markEnding now job.id runId executed.1 executed.2).symm

/-- **A retired check is never executed.** -/
theorem retired_never_executed (base : RunCheckJobHandler) (ids : IdSource) (now : DateTime)
    (world : ℕ → AttemptWorld) (jobId : UUID) (job : QueuedJob) (runId : Option UUID) (db : Db)
    (hjob : db.queuedJobs.get? jobId = some job)
    (htrack : executionTrack job.payload = "precompiled")
    (hadmitted : refused job.payload db = none) (hrun : findJobRun job.payload db = .ok runId) :
    NeverExecuted base ids now world job runId db
      (RunCheckJob.run (checkHandler base ids now world) now none jobId db).1 := by
  have hhandle : RunCheckJob.run (checkHandler base ids now world) now none jobId db =
      handle (checkHandler base ids now world) now none job db := by
    unfold RunCheckJob.run
    rw [hjob]
  have hrows := hasRows_of_found hjob hrun
  have hrunning : HasRows job.id runId (runningDb now job runId db) :=
    hrows.writeBoth (f := runningJob now) (fun _ => rfl) (g := runningRun now) fun _ => rfl
  rw [hhandle]
  refine ⟨fun i _ h => readsActive_of_execution h, fun h => ?_, fun i hi h => ?_⟩
  · obtain ⟨reason, hskip⟩ := skipReason_of_retired htrack h
    rw [handle_eq_of_skip hadmitted hrun hskip]
    refine ⟨?_, endsSkipped_markSkipped now reason none hrows, rfl⟩
    unfold attemptsOf
    rw [hskip]
  · cases hskip : skipReason job.payload db with
    | some reason =>
      unfold attemptsOf at hi
      rw [hskip] at hi
      exact absurd hi (Nat.not_lt_zero i)
    | none =>
      have hget := List.getElem?_eq_getElem hi
      obtain ⟨houtcome, -⟩ := round_at hskip hget
      obtain ⟨reason, hblocked⟩ := blocked_iff.mpr h
      have hreason := houtcome.symm.trans hblocked
      rw [hreason] at hget
      obtain ⟨hlength, retry, hloop⟩ := loop_of_blocked hskip hget
      have hexact : Bounded.Exact precompiledMaxAttempts
          (attemptsOf base ids now world job runId db) _ := exact_attemptsOf hskip
      rw [handle_eq htrack hadmitted hrun hskip]
      rw [hloop] at hexact ⊢
      have hnothing := blocked_writes_nothing hblocked
      have hsame : JobRuns.SameJobs (runningDb now job runId db)
          (attemptRun base ids now world job runId db i).called.session := by
        have hretry := JobRuns.sameJobs_retry (checkHandler base ids now world) now
          (parsed job.payload.pageCheckId) (parsed job.payload.executionPlanId)
          (runtimeInputs job.payload db) (Bounded.attemptNumbers precompiledMaxAttempts) {}
          (runningDb now job runId db)
        rwa [hloop] at hretry
      exact ⟨hlength, hnothing.1, hnothing.2, retry,
        endsSkipped_markSkipped now assetRetiredFailureMessage retry (hrunning.sameJobs hsame),
        unrecorded_iff hexact hlength hget, fun payload hpayload =>
          hexact.recorded payload hpayload⟩

/-! ## A check that is retired between two attempts -/

namespace RetiredChecksSample

/-- Another session retires the check. -/
def retirement : OtherCommit where
  apply db :=
    { db with
      pageChecks := db.pageChecks.update (fun check => check.id = 3)
        fun check => { check with lifecycleStatus := .retiredMissing } }
  sameWork _ := ⟨rfl, rfl, rfl⟩

/-- The browser does what it is told and cannot be closed in time; the check is retired before the
second attempt. -/
def world (attemptNo : ℕ) : AttemptWorld where
  runtime _ _ := .ok (.bool true)
  close := .error "Timeout 30000ms exceeded."
  beforeCheck := if attemptNo = 2 then retirement else .none

def job : QueuedJob :=
  JobRuns.JobRunsSample.job .absent

/-- A queued job with its run, and the planned check it is for. -/
def db : Db where
  queuedJobs := .single job
  jobRuns := .single JobRuns.JobRunsSample.jobRun
  systems := .single { id := 7, code := "ERP", name := "ERP", baseUrl := "https://erp" }
  pages := .single { id := 8, systemId := 7, snapshotId := some 5, routePath := "/users" }
  pageAssets := .single { id := 6, systemId := 7, pageId := 8, assetKey := "a", assetVersion := "v" }
  pageChecks := .single
    { id := 3, pageAssetId := 6, checkCode := "page_open", goal := "page_open"
      modulePlanId := some 4 }
  modulePlans := .single
    { id := 4, pageAssetId := 6, checkCode := "page_open"
      stepsJson :=
        [ModulePlanBuilder.step "auth.inject_state" [("policy", .str "server_injected")]] }
  authStates := .single
    { id := 2, systemId := 7, status := "valid", storageState := some (.obj []),
      authMode := "captcha_ocr", isValid := true }

def attempts : List (CallEnd RunPageCheckResult) :=
  attemptsOf JobRuns.JobRunsSample.handler .ascending 5 world job (some 2) db

/-- Two attempts are made; the first one carries out the steps. -/
theorem attempts_made : attempts.length = 2 ∧
    (attemptRun JobRuns.JobRunsSample.handler .ascending 5 world job (some 2) db
      0).execution.isSome = true := by
  decide +kernel

/-- What the second attempt reads of the check. -/
theorem read_retired : ((some 3).bind (checkDb (world 2)
    (dbBefore JobRuns.JobRunsSample.handler .ascending 5 world job (some 2) db
      1)).pageChecks.get?).map (·.lifecycleStatus) = some .retiredMissing := by
  decide +kernel

end RetiredChecksSample

open RetiredChecksSample in
/-- The first attempt carries the steps out, and finds the check active; the second finds it retired,
and is the last. -/
theorem retired_never_executed_sample :
    let final := (RunCheckJob.run (checkHandler JobRuns.JobRunsSample.handler .ascending 5 world) 5
      none 1 db).1
    NeverExecuted JobRuns.JobRunsSample.handler .ascending 5 world job (some 2) db final ∧
      ReadsActive (world 1) (some 3)
        (dbBefore JobRuns.JobRunsSample.handler .ascending 5 world job (some 2) db 0) ∧
      FindsRetired (world 2) (some 3)
        (dbBefore JobRuns.JobRunsSample.handler .ascending 5 world job (some 2) db 1) ∧
      ∃ payload, EndsSkipped 1 (some 2) (some payload) final := by
  intro final
  obtain ⟨hlength, hexecution⟩ := attempts_made
  have hnever : NeverExecuted JobRuns.JobRunsSample.handler .ascending 5 world job (some 2) db
      final :=
    retired_never_executed JobRuns.JobRunsSample.handler .ascending 5 world 1 job (some 2) db rfl
      (by decide) rfl rfl
  obtain ⟨check, hread, hstatus⟩ := Option.map_eq_some_iff.mp read_retired
  have hretired : FindsRetired (world 2) (some 3)
      (dbBefore JobRuns.JobRunsSample.handler .ascending 5 world job (some 2) db 1) :=
    .check check hread (by rw [hstatus]; decide)
  obtain ⟨-, -, -, retry, hskipped, hretry, -⟩ := hnever.blocked 1
    (hlength.symm ▸ Nat.one_lt_two) hretired
  refine ⟨hnever, ?_, hretired, ?_⟩
  · exact hnever.executes 0 (hlength.symm ▸ Nat.two_pos) fun hnone => by
      rw [hnone] at hexecution
      cases hexecution
  · cases retry with
    | none => exact absurd (hretry.mp rfl) Nat.one_ne_zero
    | some payload => exact ⟨payload, hskipped⟩

end RetiredChecks

end Runlet
