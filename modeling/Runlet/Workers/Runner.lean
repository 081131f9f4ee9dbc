import Runlet.Jobs.AssetCompileJob

/-!
# The worker

`workers/runner.py`: one round of a worker, and how the handlers of a worker process are wired.
-/

namespace Runlet

open KeyedTable

/-- A status in which a job stays. -/
def QueuedJobStatus.terminal : QueuedJobStatus → Bool
  | .accepted => false
  | .running => false
  | _ => true

namespace Worker

/-! ## One round -/

/-- `ORDER BY created_at, id`. -/
def older (job job' : QueuedJob) : Bool :=
  job.createdAt < job'.createdAt || (job.createdAt = job'.createdAt && job.id ≤ job'.id)

def oldest : List QueuedJob → Option QueuedJob
  | [] => none
  | job :: jobs =>
    match oldest jobs with
    | none => some job
    | some job' => if older job job' then some job else some job'

theorem mem_of_oldest {jobs : List QueuedJob} {job : QueuedJob} (h : oldest jobs = some job) :
    job ∈ jobs := by
  induction jobs generalizing job with
  | nil => cases h
  | cons a jobs ih =>
    rw [oldest] at h
    split at h
    · rw [← Option.some_inj.mp h]
      exact List.mem_cons_self
    · next b hb =>
      split at h
      · rw [← Option.some_inj.mp h]
        exact List.mem_cons_self
      · rw [← Option.some_inj.mp h]
        exact List.mem_cons_of_mem _ (ih hb)

/-- `_next_accepted_job`, of a worker that is alone. -/
def nextAcceptedJob (db : Db) : Option QueuedJob :=
  oldest (db.queuedJobs.rows.filter fun job => job.status = .accepted)

/-- A job that the worker itself ends. -/
def endedJob (now : DateTime) (status : QueuedJobStatus) (message : String) (job : QueuedJob) :
    QueuedJob :=
  { job with
    status := status
    startedAt := some (job.startedAt.getD now)
    finishedAt := some now
    failureMessage := some message }

theorem key_endedJob (now : DateTime) (status : QueuedJobStatus) (message : String)
    (job : QueuedJob) : key (endedJob now status message job) = key job := rfl

def endJob (now : DateTime) (status : QueuedJobStatus) (message : String) (jobId : UUID) (db : Db) :
    Db :=
  { db with
    queuedJobs := db.queuedJobs.update (fun job => job.id = jobId) (endedJob now status message)
      (key_endedJob now status message) }

/-- `run_once`: whether a job was handled.  An exception of the handler is committed as the job's
failure, together with whatever the session holds. -/
def runOnce (handlers : String → Option (UUID → Db → Transacted Unit)) (now : DateTime) (db : Db) :
    Db × Bool :=
  match nextAcceptedJob db with
  | none => (db, false)
  | some job =>
    match handlers job.jobType with
    | none =>
      (endJob now .skipped ("no handler registered for job type: " ++ job.jobType) job.id db, true)
    | some run =>
      match run job.id db with
      | (db, .ok ()) => (db, true)
      | (db, .error message) => (endJob now .failed ("handler crashed: " ++ message) job.id db, true)

/-! ## Wiring -/

/-- The part of `build_worker_handlers` that concerns compile jobs. -/
def buildAssetCompileHandler
    (assetCompilerService : UUID → Db → Except String (Db × CompileSnapshotResult))
    (controlPlaneService : Option ControlPlaneService) : AssetCompileJobHandler where
  compileSnapshot := assetCompilerService
  controlPlaneService := controlPlaneService

/-- `build_worker_runner`: a control plane with a published-job service is built first, and then
the name is bound to a second one without it, which is the one the handlers get. -/
def buildWorkerRunner (publishedJobService : PublishedJobService)
    (assetCompilerService : UUID → Db → Except String (Db × CompileSnapshotResult)) :
    AssetCompileJobHandler :=
  let _controlPlaneService : ControlPlaneService :=
    { publishedJobService := some publishedJobService }
  let controlPlaneService : ControlPlaneService := {}
  buildAssetCompileHandler assetCompilerService (some controlPlaneService)

end Worker

end Runlet
