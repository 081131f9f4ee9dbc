import Runlet.Infrastructure.Assets

/-!
# Job rows

The rows of `db/models/jobs.py`, and the scripts of `db/models/execution.py`, that the modelled
functions read or write.  The payload of a queued job is a JSON object; the fields the handlers read are typed, an
identifier field being absent (or not a text), a text that is no identifier, or an identifier.
-/

namespace Runlet

open KeyedTable

/-- An identifier field of a job payload. -/
inductive IdField where
  | absent
  | malformed (text : String)
  | uuid (id : UUID)
  deriving DecidableEq, Inhabited

structure JobPayload where
  snapshotId : IdField := .absent
  compileScope : Option String := none
  systemId : IdField := .absent
  crawlScope : Option String := none
  policyId : IdField := .absent
  pageCheckId : IdField := .absent
  executionTrack : Option String := none
  publishedJobId : IdField := .absent
  jobRunId : IdField := .absent
  scriptRenderId : IdField := .absent
  assetVersion : Option String := none
  runtimePolicy : Option String := none
  scheduleExpr : Option String := none
  triggerSource : Option String := none
  scheduledAt : Option DateTime := none
  queuedJobId : IdField := .absent
  executionPlanId : IdField := .absent
  executionRequestId : IdField := .absent
  /-- The names of the identifier fields that hold a value which is neither null nor a text, each
  with the text of that value. -/
  notTexts : List (String × String) := []
  deriving DecidableEq

/-- One attempt of a precompiled check (`build_attempt_entry`). -/
structure AttemptEntry where
  attemptNo : ℕ
  startedAt : DateTime
  finishedAt : DateTime
  status : String
  failureCategory : Option String
  retryable : Bool
  backoffMs : ℕ
  deriving DecidableEq

/-- What the attempts of a precompiled check add to the result of its job. -/
structure RetryPayload where
  attemptCount : ℕ
  retryExhausted : Bool
  flaky : Bool
  maxAttempts : ℕ
  baseBackoffMs : ℕ
  jitterMs : ℕ
  attempts : List AttemptEntry
  finalFailureCategory : Option String
  finalErrorMessage : Option String
  deriving DecidableEq

/-- The result of a `run_check` job (`_build_result_payload`). -/
structure RunCheckResultPayload where
  queuedJobId : UUID
  queueStatus : QueuedJobStatus
  status : String
  pageCheckId : Option String
  executionTrack : Option String
  executionRequestId : Option String
  executionPlanId : Option String
  executionRunId : Option String
  publishedJobId : Option String
  jobRunId : Option String
  scriptRenderId : Option String
  assetVersion : Option String
  runtimePolicy : Option String
  scheduleExpr : Option String
  triggerSource : Option String
  scheduledAt : Option DateTime
  authStatus : Option String
  artifactIds : List String
  errorMessage : Option String
  retry : Option RetryPayload
  deriving DecidableEq

/-- `result_payload` of a finished job. -/
inductive ResultPayload where
  | compile (result : CompileSnapshotResult) (aliasesDisabled aliasesEnabled publishedJobsPaused
      publishedJobsResumed : Option ℕ)
  | crawl (snapshotId : UUID)
  | runCheck (result : RunCheckResultPayload)
  deriving DecidableEq

structure QueuedJob where
  id : UUID
  jobType : String
  payload : JobPayload
  resultPayload : Option ResultPayload := none
  policyId : Option UUID := none
  triggerSource : Option String := none
  scheduledAt : Option DateTime := none
  status : QueuedJobStatus := .accepted
  createdAt : DateTime := 0
  startedAt : Option DateTime := none
  finishedAt : Option DateTime := none
  failureMessage : Option String := none
  deriving DecidableEq

instance : Keyed UUID QueuedJob := ⟨QueuedJob.id⟩

structure PublishedJob where
  id : UUID
  jobKey : String
  pageCheckId : UUID
  scriptRenderId : Option UUID := none
  assetVersion : Option String := none
  runtimePolicy : String := "default"
  scheduleExpr : String
  timezone : String := "UTC"
  state : PublishedJobState := .active
  pauseReason : Option String := none
  pausedBySnapshotId : Option UUID := none
  pausedByAssetId : Option UUID := none
  pausedByPageCheckId : Option UUID := none
  deriving DecidableEq

instance : Keyed UUID PublishedJob := ⟨PublishedJob.id⟩

structure JobRun where
  id : UUID
  publishedJobId : UUID
  queuedJobId : Option UUID := none
  executionRunId : Option UUID := none
  scriptRenderId : Option UUID := none
  assetVersion : Option String := none
  policyId : Option UUID := none
  runtimePolicy : String := "default"
  scheduleExpr : Option String := none
  triggerSource : String := "scheduler"
  runStatus : QueuedJobStatus := .accepted
  scheduledAt : DateTime
  startedAt : Option DateTime := none
  finishedAt : Option DateTime := none
  failureMessage : Option String := none
  deriving DecidableEq

instance : Keyed UUID JobRun := ⟨JobRun.id⟩

/-- The `render_metadata` of a script, by the fields the renderer writes. -/
structure RenderMetadata where
  pageCheckId : Option UUID := none
  pageAssetId : Option UUID := none
  assetKey : Option String := none
  assetVersion : Option String := none
  systemId : Option UUID := none
  baseUrl : Option String := none
  modulePlanId : Option UUID := none
  planVersion : Option String := none
  runtimePolicy : Option String := none
  authPolicy : Option String := none
  checkCode : Option String := none
  deriving DecidableEq

structure ScriptRender where
  id : UUID
  executionArtifactId : Option UUID := none
  executionPlanId : Option UUID := none
  renderMode : String
  renderMetadata : Option RenderMetadata := none
  createdAt : DateTime := 0
  deriving DecidableEq

instance : Keyed UUID ScriptRender := ⟨ScriptRender.id⟩

end Runlet
