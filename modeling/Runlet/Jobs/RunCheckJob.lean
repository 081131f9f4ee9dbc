import Runlet.RunnerService.ScriptRenderer

/-!
# The check job

`jobs/run_check_job.py` with `jobs/run_check_retry.py`.  A run admits its payload, looks up the run
of the published job it belongs to, marks both rows as running, calls the runner, and marks both
rows with the way the call ended.

The runner service and the feedback of the control plane are parameters (`RunCheckJobHandler`).
Where an exception leaves the handler is an input (`Raise`): a raise before the first commit leaves
both rows as they were, wherever it happens, and one after the call of the runner leaves them
running.
-/

namespace Runlet

open KeyedTable

/-! ## What the runner answers -/

structure StepResult where
  status : Option String
  detail : Option String

/-- The result of an execution, by what the handler reads of it. -/
structure RunPageCheckResult where
  pageCheckId : Option UUID
  executionRunId : UUID
  status : String
  authStatus : String
  artifactIds : List UUID
  stepResults : List StepResult := []
  failureCategory : Option String := none

inductive CallEnd (ρ : Type) where
  | returned (result : ρ)
  /-- `ExecutionBlockedError`. -/
  | blocked (reason : String)
  | raised (message : String)

/-- How a call ended, what the session shows then, and what of it was committed. -/
structure Called (ρ : Type) where
  outcome : CallEnd ρ
  session : Db
  committed : Db

/-- A call that leaves the rows of the queue and of the job runs alone. -/
structure Called.KeepsJobs {ρ : Type} (called : Called ρ) (db : Db) : Prop where
  queuedJobs : called.session.queuedJobs = db.queuedJobs
  jobRuns : called.session.jobRuns = db.jobRuns
  queuedJobs_committed : called.committed.queuedJobs = db.queuedJobs
  jobRuns_committed : called.committed.jobRuns = db.jobRuns

/-- `RunCheckJobHandler`, by the services it was given; the first argument of a check is the number
of the attempt. -/
structure RunCheckJobHandler where
  runPageCheck : ℕ → Option UUID → Option UUID → Option Json → Db →
    Called RunPageCheckResult
  runRealtimeProbe : UUID → Db → Called RunPageCheckResult
  /-- `persist_realtime_probe_feedback`, when there is a control plane. -/
  persistFeedback : Option (UUID → UUID → Db → Called Unit)
  runPageCheck_keepsJobs : ∀ attemptNo checkId planId inputs db,
    (runPageCheck attemptNo checkId planId inputs db).KeepsJobs db
  runRealtimeProbe_keepsJobs : ∀ planId db, (runRealtimeProbe planId db).KeepsJobs db
  persistFeedback_keepsJobs : ∀ persist ∈ persistFeedback, ∀ planId runId db,
    (persist planId runId db).KeepsJobs db

/-- An exception that leaves the handler. -/
inductive Raise where
  /-- Before its first commit. -/
  | early (message : String)
  /-- After the call of the runner, outside of the `try`. -/
  | late (message : String)

namespace RunCheckJob

/-! ## Retries -/

def precompiledMaxAttempts : ℕ := 3

def precompiledBaseBackoffMs : ℕ := 100

def precompiledJitterMs : ℕ := 0

def assetRetiredFailureMessage : String := "asset_retired_missing"

def retryableFailureCategories : List String := ["navigation_failed", "page_not_ready"]

def nonRetryableStepFailures : List String :=
  ["context_mismatch", "ambiguous_match", "locator_all_failed", "element_became_hidden",
    "state_not_reached"]

def transientErrorPatterns : List String :=
  ["timeout", "net::", "connection reset", "target closed", "temporarily unavailable"]

def normalizeFailureCategory : Option String → Option String
  | none => none
  | some category => if category = "" then none else some (Text.lower (Text.strip category))

def containsTransientPattern (haystack : String) (patterns : List String) : Bool :=
  patterns.any fun pattern => Text.containsText pattern (Text.lower haystack)

def isRetryableFailure (failureCategory errorMessage : Option String) : Bool :=
  let category := (normalizeFailureCategory failureCategory).getD ""
  if category ≠ "" ∧ category ∈ retryableFailureCategories then true
  else if category ≠ "" ∧ category ∈ nonRetryableStepFailures then false
  else category = "runtime_error" && errorMessage.getD "" ≠ "" &&
    containsTransientPattern (errorMessage.getD "") transientErrorPatterns

def computeBackoffMs (attemptNo baseBackoffMs jitterMs : ℕ) : ℕ :=
  baseBackoffMs * 2 ^ (attemptNo - 1) + jitterMs

/-- `_enum_value` of a text. -/
def enumValue (value : Option String) : Option String :=
  match value with
  | none => none
  | some text =>
    let normalized := Text.lower (Text.strip text)
    if normalized = "" then none else some normalized

/-- The first detail of a failed step that is not blank. -/
def extractErrorMessage (result : RunPageCheckResult) : Option String :=
  result.stepResults.findSome? fun step =>
    if enumValue step.status ≠ some "failed" then none
    else
      match step.detail with
      | none => none
      | some detail => if Text.strip detail = "" then none else some (Text.strip detail)

def retryPayload (attemptCount : ℕ) (flaky retryExhausted : Bool) (attempts : List AttemptEntry)
    (finalFailureCategory finalErrorMessage : Option String) : RetryPayload where
  attemptCount := attemptCount
  retryExhausted := retryExhausted
  flaky := flaky
  maxAttempts := precompiledMaxAttempts
  baseBackoffMs := precompiledBaseBackoffMs
  jitterMs := precompiledJitterMs
  attempts := attempts
  finalFailureCategory := finalFailureCategory
  finalErrorMessage := finalErrorMessage

/-- How the `try` around the runner ends. -/
inductive Ending where
  | completed (result : RunPageCheckResult) (retry : Option RetryPayload)
  | blocked (retry : Option RetryPayload)
  | failed (message : String) (retry : Option RetryPayload)

/-- The attempts made so far, and the last failure among them. -/
structure Attempts where
  entries : List AttemptEntry := []
  lastResult : Option RunPageCheckResult := none
  failureCategory : Option String := none
  errorMessage : Option String := none
  retryable : Bool := false

def attemptEntry (now : DateTime) (attemptNo : ℕ) (status : String)
    (failureCategory : Option String) (retryable : Bool) (backoffMs : ℕ) : AttemptEntry where
  attemptNo := attemptNo
  startedAt := now
  finishedAt := now
  status := status
  failureCategory := failureCategory
  retryable := retryable
  backoffMs := backoffMs

/-- Another attempt follows. -/
def shouldRetry (attemptNo : ℕ) (failureCategory errorMessage : Option String) : Bool :=
  isRetryableFailure failureCategory errorMessage && attemptNo < precompiledMaxAttempts

/-- A failed attempt is put on record. -/
def recordFailure (now : DateTime) (attemptNo : ℕ) (failureCategory errorMessage : Option String)
    (attempts : Attempts) : Attempts :=
  let retryable := isRetryableFailure failureCategory errorMessage
  let backoffMs :=
    if shouldRetry attemptNo failureCategory errorMessage then
      computeBackoffMs attemptNo precompiledBaseBackoffMs precompiledJitterMs
    else 0
  { attempts with
    entries := attempts.entries ++
      [attemptEntry now attemptNo "failed" failureCategory retryable backoffMs]
    failureCategory := failureCategory
    errorMessage := errorMessage
    retryable := retryable }

/-- The record of attempts that ended with a failure. -/
def failurePayload (attemptNo : ℕ) (attempts : Attempts) : RetryPayload :=
  retryPayload attemptNo false (attempts.retryable && precompiledMaxAttempts ≤ attemptNo)
    attempts.entries attempts.failureCategory attempts.errorMessage

/-- How one attempt ends: the attempts are over, or go on. -/
inductive AttemptEnd where
  | stop (ending : Ending)
  | again (attempts : Attempts)

/-- One round of the loop, with the database it leaves; an attempt that raises is rolled back. -/
def runAttempt (handler : RunCheckJobHandler) (now : DateTime)
    (pageCheckId executionPlanId : Option UUID) (runtimeInputs : Option Json) (attemptNo : ℕ)
    (attempts : Attempts) (db : Db) : AttemptEnd × Db :=
  let called := handler.runPageCheck attemptNo pageCheckId executionPlanId runtimeInputs db
  match called.outcome with
  | .blocked _ =>
    if attempts.entries = [] then (.stop (.blocked none), called.session)
    else
      (.stop (.blocked (some (retryPayload attempts.entries.length false false attempts.entries
        attempts.failureCategory attempts.errorMessage))), called.session)
  | .raised message =>
    let failed := recordFailure now attemptNo (some "runtime_error") (some message) attempts
    if shouldRetry attemptNo (some "runtime_error") (some message) then
      (.again failed, called.committed)
    else (.stop (.failed message (some (failurePayload attemptNo failed))), called.committed)
  | .returned result =>
    if enumValue (some result.status) = some "passed" then
      (.stop (.completed result (some (retryPayload attemptNo (1 < attemptNo) false
        (attempts.entries ++ [attemptEntry now attemptNo "passed" none false 0]) none none))),
        called.session)
    else
      let category := enumValue result.failureCategory
      let message := extractErrorMessage result
      let failed :=
        { recordFailure now attemptNo category message attempts with lastResult := some result }
      if shouldRetry attemptNo category message then (.again failed, called.session)
      else
        (.stop (.completed result (some (failurePayload attemptNo failed))), called.session)

/-- `_run_precompiled_with_retry`, for the attempts that are left. -/
def runPrecompiledWithRetry (handler : RunCheckJobHandler) (now : DateTime)
    (pageCheckId executionPlanId : Option UUID) (runtimeInputs : Option Json) :
    List ℕ → Attempts → Db → Ending × Db
  -- Not reached: the last attempt is not followed by another one.
  | [], attempts, db =>
    match attempts.lastResult with
    | none => (.failed "" none, db)
    | some result =>
      (.completed result (some (failurePayload precompiledMaxAttempts attempts)), db)
  | attemptNo :: rest, attempts, db =>
    match runAttempt handler now pageCheckId executionPlanId runtimeInputs attemptNo attempts db with
    | (.stop ending, db) => (ending, db)
    | (.again attempts, db) =>
      runPrecompiledWithRetry handler now pageCheckId executionPlanId runtimeInputs rest attempts db

/-! ## Admitting a payload -/

/-- The field is missing or null. -/
def isNull (payload : JobPayload) (name : String) (field : IdField) : Bool :=
  field = .absent && (payload.notTexts.lookup name).isNone

def parsed : IdField → Option UUID
  | .uuid id => some id
  | _ => none

def isMalformed : IdField → Bool
  | .malformed _ => true
  | _ => false

def executionTrack (payload : JobPayload) : String :=
  Text.lower (Text.strip (payload.executionTrack.getD ""))

/-- An end of the run before it touches the row of the job run. -/
structure Refusal where
  status : QueuedJobStatus
  message : String
  deriving DecidableEq

/-- The checks on the identifiers of the payload, in the order in which they are made; what the
refusal of the first one that fails says. -/
def refusedIds (payload : JobPayload) : Option Refusal :=
  let track := executionTrack payload
  if !isNull payload "published_job_id" payload.publishedJobId &&
      (parsed payload.publishedJobId).isNone then
    some ⟨.failed, "invalid published_job_id in run_check job payload"⟩
  else if isNull payload "page_check_id" payload.pageCheckId && track = "realtime" then
    some ⟨.skipped, "realtime execution track is not supported by run_check worker"⟩
  else if isMalformed payload.executionPlanId then
    some ⟨.failed, "invalid execution_plan_id in run_check job payload"⟩
  else if track = "realtime_probe" && (parsed payload.executionPlanId).isNone then
    some ⟨.failed, "missing execution_plan_id in run_check job payload"⟩
  else if track = "realtime_probe" && !isNull payload "page_check_id" payload.pageCheckId &&
      (parsed payload.pageCheckId).isNone then
    some ⟨.failed, "invalid page_check_id in run_check job payload"⟩
  else if track ≠ "realtime_probe" && payload.pageCheckId = .absent then
    some ⟨.failed, "missing page_check_id in run_check job payload"⟩
  else if track ≠ "realtime_probe" && isMalformed payload.pageCheckId then
    some ⟨.failed, "invalid page_check_id in run_check job payload"⟩
  else if isMalformed payload.executionRequestId then
    some ⟨.failed, "invalid execution_request_id in run_check job payload"⟩
  else none

/-- All checks made before the job run is looked up. -/
def refused (payload : JobPayload) (db : Db) : Option Refusal :=
  match refusedIds payload with
  | some refusal => some refusal
  | none =>
    match payload.executionRequestId with
    | .uuid id =>
      if (db.executionRequests.get? id).isNone then
        some ⟨.failed, s!"execution request {UUID.text id} not found"⟩
      else none
    | _ => none

/-- `template_params` of the request, when they are an object. -/
def runtimeInputs (payload : JobPayload) (db : Db) : Option Json :=
  match (parsed payload.executionRequestId).bind db.executionRequests.get? with
  | none => none
  | some request =>
    match request.templateParams with
    | some (.obj params) => some (.obj params)
    | _ => none

/-- The job run the payload names; a failure comes with the row it is written to as well. -/
def findJobRun (payload : JobPayload) (db : Db) :
    Except (String × Option UUID) (Option UUID) :=
  if isNull payload "job_run_id" payload.jobRunId then .ok none
  else
    match parsed payload.jobRunId with
    | none => .error ("invalid job_run_id in run_check job payload", none)
    | some id =>
      match db.jobRuns.get? id with
      | none => .error (s!"job run {UUID.text id} not found", none)
      | some run =>
        match parsed payload.publishedJobId with
        | none => .ok (some run.id)
        | some publishedJobId =>
          if run.publishedJobId ≠ publishedJobId then
            .error ("published_job_id does not match job_run linkage", some run.id)
          else .ok (some run.id)

/-- `_retirement_failure_message`. -/
def retirementFailureMessage (status : AssetLifecycleStatus) : Option String :=
  if status.retired then some assetRetiredFailureMessage else none

def isRetiredPauseMarker (job : PublishedJob) : Bool :=
  Text.containsText "retired" (Text.lower (Text.strip (job.pauseReason.getD ""))) &&
    (job.pausedBySnapshotId.isSome || job.pausedByAssetId.isSome || job.pausedByPageCheckId.isSome)

def resolveRetirementSkipReason (pageCheckId : UUID) (publishedJobId : Option UUID) (db : Db) :
    Option String :=
  match db.pageChecks.get? pageCheckId with
  | none => some "asset_retired_missing"
  | some check =>
    match retirementFailureMessage check.lifecycleStatus with
    | some reason => some reason
    | none =>
      match db.pageAssets.get? check.pageAssetId with
      | none => some "asset_retired_missing"
      | some asset =>
        match retirementFailureMessage asset.lifecycleStatus with
        | some reason => some reason
        | none =>
          match publishedJobId.bind db.publishedJobs.get? with
          | none => none
          | some job =>
            if job.state = .paused && isRetiredPauseMarker job then some assetRetiredFailureMessage
            else none

/-- Why the run is skipped; a probe is never looked at. -/
def skipReason (payload : JobPayload) (db : Db) : Option String :=
  if executionTrack payload = "realtime_probe" then none
  else
    match parsed payload.pageCheckId with
    | none => none
    | some pageCheckId =>
      resolveRetirementSkipReason pageCheckId (parsed payload.publishedJobId) db

/-! ## The rows -/

def nonBlank (text : String) : Option String :=
  if Text.strip text = "" then none else some (Text.strip text)

/-- `_optional_string` of an identifier field. -/
def optionalId (payload : JobPayload) (name : String) : IdField → Option String
  | .absent => (payload.notTexts.lookup name).bind nonBlank
  | .malformed text => nonBlank text
  | .uuid id => some (UUID.text id)

/-- `_build_result_payload`, for an end without an execution. -/
def buildResultPayload (job : QueuedJob) (queueStatus : QueuedJobStatus) (executionStatus : String)
    (errorMessage : Option String) (retry : Option RetryPayload) : RunCheckResultPayload :=
  let payload := job.payload
  { queuedJobId := job.id
    queueStatus := queueStatus
    status := executionStatus
    pageCheckId := optionalId payload "page_check_id" payload.pageCheckId
    executionTrack := payload.executionTrack.bind nonBlank
    executionRequestId := optionalId payload "execution_request_id" payload.executionRequestId
    executionPlanId := optionalId payload "execution_plan_id" payload.executionPlanId
    executionRunId := none
    publishedJobId := optionalId payload "published_job_id" payload.publishedJobId
    jobRunId := optionalId payload "job_run_id" payload.jobRunId
    scriptRenderId := optionalId payload "script_render_id" payload.scriptRenderId
    assetVersion := payload.assetVersion.bind nonBlank
    runtimePolicy := payload.runtimePolicy.bind nonBlank
    scheduleExpr := payload.scheduleExpr.bind nonBlank
    triggerSource := payload.triggerSource.bind nonBlank
    scheduledAt := payload.scheduledAt
    authStatus := none
    artifactIds := []
    errorMessage := errorMessage
    retry := retry }

/-- The same, for an execution that came to an end. -/
def completedResultPayload (job : QueuedJob) (result : RunPageCheckResult)
    (retry : Option RetryPayload) : RunCheckResultPayload :=
  { buildResultPayload job .completed result.status none retry with
    pageCheckId := result.pageCheckId.map UUID.text
    executionRunId := some (UUID.text result.executionRunId)
    authStatus := some result.authStatus
    artifactIds := result.artifactIds.map UUID.text }

def runningJob (now : DateTime) (job : QueuedJob) : QueuedJob :=
  { job with status := .running, startedAt := some (job.startedAt.getD now) }

def runningRun (now : DateTime) (run : JobRun) : JobRun :=
  { run with runStatus := .running, startedAt := some (run.startedAt.getD now) }

/-- A job that ended without an execution. -/
def endedJob (now : DateTime) (status : QueuedJobStatus) (executionStatus message : String)
    (retry : Option RetryPayload) (job : QueuedJob) : QueuedJob :=
  { job with
    status := status
    startedAt := some (job.startedAt.getD now)
    finishedAt := some now
    failureMessage := some message
    resultPayload :=
      some (.runCheck (buildResultPayload job status executionStatus (some message) retry)) }

def endedRun (now : DateTime) (status : QueuedJobStatus) (message : String) (run : JobRun) :
    JobRun :=
  { run with
    runStatus := status
    startedAt := some (run.startedAt.getD now)
    finishedAt := some now
    failureMessage := some message }

def completedJob (now : DateTime) (result : RunPageCheckResult) (retry : Option RetryPayload)
    (job : QueuedJob) : QueuedJob :=
  { job with
    status := .completed
    finishedAt := some now
    failureMessage := none
    resultPayload := some (.runCheck (completedResultPayload job result retry)) }

def completedRun (now : DateTime) (result : RunPageCheckResult) (run : JobRun) : JobRun :=
  { run with
    executionRunId := some result.executionRunId
    runStatus := .completed
    finishedAt := some now
    failureMessage := none }

/-- Write the row of the job, and the row of its run when there is one. -/
def writeBoth (jobId : UUID) (runId : Option UUID) (f : QueuedJob → QueuedJob)
    (hf : ∀ j, key (f j) = key j) (g : JobRun → JobRun) (hg : ∀ r, key (g r) = key r) (db : Db) :
    Db :=
  { db with
    queuedJobs := db.queuedJobs.update (fun job => job.id = jobId) f hf
    jobRuns := db.jobRuns.update (fun run => runId = some run.id) g hg }

def markRunning (now : DateTime) (jobId : UUID) (runId : Option UUID) (db : Db) : Db :=
  writeBoth jobId runId (runningJob now) (fun _ => rfl) (runningRun now) (fun _ => rfl) db

/-- The common part of `_mark_failed` and `_mark_skipped`. -/
def markEnded (status : QueuedJobStatus) (executionStatus : String) (now : DateTime) (jobId : UUID)
    (message : String) (runId : Option UUID) (retry : Option RetryPayload) (db : Db) : Db :=
  writeBoth jobId runId (endedJob now status executionStatus message retry) (fun _ => rfl)
    (endedRun now status message) (fun _ => rfl) db

def markFailed : DateTime → UUID → String → Option UUID → Option RetryPayload → Db → Db :=
  markEnded .failed "failed"

def markSkipped : DateTime → UUID → String → Option UUID → Option RetryPayload → Db → Db :=
  markEnded .skipped "skipped"

def markCompleted (now : DateTime) (jobId : UUID) (runId : Option UUID)
    (result : RunPageCheckResult) (retry : Option RetryPayload) (db : Db) : Db :=
  writeBoth jobId runId (completedJob now result retry) (fun _ => rfl) (completedRun now result)
    (fun _ => rfl) db

/-! ## The run -/

/-- The result of one call, as the `try` sees it. -/
def callEnding (called : Called RunPageCheckResult) : Ending × Db :=
  match called.outcome with
  | .returned result => (.completed result none, called.session)
  | .blocked _ => (.blocked none, called.session)
  | .raised message => (.failed message none, called.session)

/-- A probe, and the feedback of one that passed. -/
def runRealtimeProbe (handler : RunCheckJobHandler) (executionPlanId : UUID) (db : Db) :
    Ending × Db :=
  let called := handler.runRealtimeProbe executionPlanId db
  match called.outcome, handler.persistFeedback with
  | .returned result, some persist =>
    if result.status = "passed" then
      let feedback := persist executionPlanId result.executionRunId called.session
      match feedback.outcome with
      | .returned () => (.completed result none, feedback.session)
      | .blocked _ => (.blocked none, feedback.session)
      | .raised message => (.failed message none, feedback.session)
    else (.completed result none, called.session)
  | _, _ => callEnding called

/-- The body of the `try`. -/
def execute (handler : RunCheckJobHandler) (now : DateTime) (payload : JobPayload)
    (inputs : Option Json) (db : Db) : Ending × Db :=
  let pageCheckId := parsed payload.pageCheckId
  let executionPlanId := parsed payload.executionPlanId
  match executionTrack payload, executionPlanId with
  | "realtime_probe", some planId => runRealtimeProbe handler planId db
  | "precompiled", _ =>
    runPrecompiledWithRetry handler now pageCheckId executionPlanId inputs
      ((List.range precompiledMaxAttempts).map (· + 1)) {} db
  | _, _ => callEnding (handler.runPageCheck 1 pageCheckId executionPlanId inputs db)

/-- Both rows, by the way the `try` ended. -/
def markEnding (now : DateTime) (jobId : UUID) (runId : Option UUID) : Ending → Db → Db
  | .completed result retry => markCompleted now jobId runId result retry
  | .blocked retry => markSkipped now jobId assetRetiredFailureMessage runId retry
  | .failed message retry => markFailed now jobId message runId retry

/-- What follows the commit of the running job. -/
def finish (handler : RunCheckJobHandler) (now : DateTime) (raises : Option Raise)
    (job : QueuedJob) (runId : Option UUID) (inputs : Option Json) (running : Db) :
    Transacted Unit :=
  let executed := execute handler now job.payload inputs running
  match raises with
  | some (.late message) => (executed.2, .error message)
  | _ => (markEnding now job.id runId executed.1 executed.2, .ok ())

/-- The end of a refused job; only the realtime track without a check is skipped. -/
def refuse (now : DateTime) (jobId : UUID) (refusal : Refusal) (db : Db) : Db :=
  match refusal.status with
  | .skipped => markSkipped now jobId refusal.message none none db
  | _ => markFailed now jobId refusal.message none none db

/-- The run of a job that was loaded. -/
def handle (handler : RunCheckJobHandler) (now : DateTime) (raises : Option Raise)
    (job : QueuedJob) (db : Db) : Transacted Unit :=
  match refused job.payload db with
  | some refusal => (refuse now job.id refusal db, .ok ())
  | none =>
    match findJobRun job.payload db with
    | .error (message, runId) => (markFailed now job.id message runId none db, .ok ())
    | .ok runId =>
      match skipReason job.payload db with
      | some reason => (markSkipped now job.id reason runId none db, .ok ())
      | none =>
        finish handler now raises job runId (runtimeInputs job.payload db)
          (markRunning now job.id runId db)

/-- `RunCheckJobHandler.run`. -/
def run (handler : RunCheckJobHandler) (now : DateTime) (raises : Option Raise) (jobId : UUID)
    (db : Db) : Transacted Unit :=
  match db.queuedJobs.get? jobId with
  | none => (db, .error s!"queued job {UUID.text jobId} not found")
  | some job =>
    match raises with
    | some (.early message) => (db, .error message)
    | raises => handle handler now raises job db

end RunCheckJob

end Runlet
