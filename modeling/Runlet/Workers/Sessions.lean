import Runlet.Jobs.PublishedJobTrigger
import Runlet.Jobs.RunCheckJob
import Runlet.Library.SkipLocked
import Runlet.Runtime.SchedulerRuntime
import Runlet.Workers.Runner

/-!
# What a worker's session does with a job

Several workers share the queue, each with a session of its own.  `_next_accepted_job` locks the
accepted jobs until the transaction of the claim ends, so what matters of a handler is in which
order it writes its job and ends its transactions: a script for `Library/SkipLocked`.

A script follows the source of the handler; how the services behave, and where an exception leaves
the handler, is an input (`Behaviour`).  Each handler is a function of that input and of the job it
was handed.
-/

namespace Runlet

open KeyedTable

/-- How the services a handler calls end. -/
inductive ServiceEnd where
  /-- A result, by its `status`, its `message`, and whether it names a snapshot. -/
  | returned (status : String) (message : String) (snapshot : Bool)
  | blocked
  | raised (message : String)

/-- What happens during a run that its job does not determine. -/
structure Behaviour where
  now : DateTime
  /-- What the look-ups of the handler find. -/
  seen : Db
  /-- The exception that leaves the handler before its first commit. -/
  raisesEarly : Option String := none
  /-- How many transactions the services end while the job is running. -/
  transactions : ℕ := 0
  serviceEnd : ServiceEnd
  /-- The exception that leaves the handler after the services have ended. -/
  raisesLate : Option String := none

/-- The handlers a worker was built with (`build_worker_handlers`). -/
structure WorkerHandlers where
  authRefresh : Bool := true
  crawl : Bool := true
  assetCompile : Bool := true
  runCheck : Bool := true

namespace Sessions

open SkipLocked (Op)

abbrev Script := List (Op QueuedJob)

/-- A job is marked as running. -/
def runningJob (now : DateTime) (job : QueuedJob) : QueuedJob :=
  { job with status := .running, startedAt := some (job.startedAt.getD now) }

/-- A job is marked as completed. -/
def completedJob (now : DateTime) (job : QueuedJob) : QueuedJob :=
  { job with status := .completed, finishedAt := some now, failureMessage := none }

def running (now : DateTime) : Op QueuedJob :=
  .write (runningJob now) fun _ => rfl

def completed (now : DateTime) : Op QueuedJob :=
  .write (completedJob now) fun _ => rfl

/-- A job ends without success: `_mark_failed`, `_mark_skipped`, and the ends the worker itself
writes. -/
def ended (now : DateTime) (status : QueuedJobStatus) (message : String) : Op QueuedJob :=
  .write (Worker.endedJob now status message) (Worker.key_endedJob now status message)

variable (b : Behaviour)

/-- An exception that leaves the handler is committed by the worker. -/
def crashed (message : String) : Script :=
  [ended b.now .failed ("handler crashed: " ++ message)]

/-- The job is committed as running, and the services end some transactions before the handler goes
on with `rest`, unless an exception leaves it then. -/
def whileRunning (rest : Script) : Script :=
  running b.now :: (List.replicate b.transactions .release ++ b.raisesLate.elim rest (crashed b))

/-- `AuthRefreshJobHandler.run`. -/
def authRefresh (job : QueuedJob) : Script :=
  match job.payload.systemId with
  | .absent => [ended b.now .failed "missing system_id in auth refresh job payload"]
  | .malformed _ =>
    [running b.now, ended b.now .failed "badly formed hexadecimal UUID string"]
  | .uuid _ =>
    whileRunning b <|
      match b.serviceEnd with
      | .returned "success" _ _ => [completed b.now]
      | .returned "retryable_failed" message _ => [ended b.now .retryableFailed message]
      | .returned _ message _ => [ended b.now .failed message]
      | .blocked => [ended b.now .failed ""]
      | .raised message => [ended b.now .failed message]

/-- `CrawlJobHandler.run`. -/
def crawl (job : QueuedJob) : Script :=
  match job.payload.systemId with
  | .absent => [ended b.now .failed "missing system_id in crawl job payload"]
  | systemId =>
    if Text.strip (job.payload.crawlScope.getD "full") = "" then
      [ended b.now .failed "missing crawl_scope in crawl job payload"]
    else
      match systemId with
      | .uuid _ =>
        whileRunning b <|
          match b.serviceEnd with
          | .returned status message snapshot =>
            if status = "success" ∧ snapshot = true then [completed b.now]
            else [ended b.now .failed (if message = "" then status else message)]
          | .blocked => [ended b.now .failed ""]
          | .raised message => [ended b.now .failed message]
      | _ => [running b.now, ended b.now .failed "badly formed hexadecimal UUID string"]

/-- `AssetCompileJobHandler.run`: its `_mark_failed` rolls the session back first. -/
def assetCompile (job : QueuedJob) : Script :=
  match job.payload.snapshotId with
  | .absent => [.release, ended b.now .failed "missing snapshot_id in asset compile job payload"]
  | .malformed _ =>
    [running b.now, .release, ended b.now .failed "badly formed hexadecimal UUID string"]
  | .uuid _ =>
    whileRunning b <|
      match b.serviceEnd with
      | .returned _ _ _ => [completed b.now]
      | .blocked => [.release, ended b.now .failed ""]
      | .raised message => [.release, ended b.now .failed message]

/-- `RunCheckJobHandler.run`. -/
def runCheck (job : QueuedJob) : Script :=
  match RunCheckJob.refused job.payload b.seen with
  | some refusal =>
    [ended b.now (if refusal.status = .skipped then .skipped else .failed) refusal.message]
  | none =>
    match RunCheckJob.findJobRun job.payload b.seen with
    | .error (message, _) => [ended b.now .failed message]
    | .ok _ =>
      match RunCheckJob.skipReason job.payload b.seen with
      | some reason => [ended b.now .skipped reason]
      | none =>
        whileRunning b <|
          match b.serviceEnd with
          | .returned _ _ _ => [completed b.now]
          | .blocked => [ended b.now .skipped RunCheckJob.assetRetiredFailureMessage]
          | .raised message => [ended b.now .failed message]

/-- The handler for a job type. -/
def handlerOf (handlers : WorkerHandlers) (jobType : String) :
    Option (Behaviour → QueuedJob → Script) :=
  if jobType = SchedulerRuntime.authRefreshJobType then
    if handlers.authRefresh then some authRefresh else none
  else if jobType = ControlPlane.crawlJobType then
    if handlers.crawl then some crawl else none
  else if jobType = ControlPlane.assetCompileJobType then
    if handlers.assetCompile then some assetCompile else none
  else if jobType = runCheckJobType then
    if handlers.runCheck then some runCheck else none
  else none

/-- `run_once`, from the claim on. -/
def script (handlers : WorkerHandlers) (job : QueuedJob) : Script :=
  match handlerOf handlers job.jobType with
  | none => [ended b.now .skipped ("no handler registered for job type: " ++ job.jobType)]
  | some handler => b.raisesEarly.elim (handler b job) (crashed b)

end Sessions

end Runlet
