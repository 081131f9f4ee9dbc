import Runlet.AssetCompiler.Service
import Runlet.ControlPlane.Service

/-!
# The asset compile job

`jobs/asset_compile_job.py`.  A run marks its job as running, compiles, applies the cascades and
marks the job as completed; each of these is committed on its own.  Where a run can raise is an
input (`Faults`): a raise between two commits loses what was written after the first of them.
-/

namespace Runlet

open KeyedTable

/-- The stretches of a run between two commits, in which it may raise. -/
inductive RaisePoint where
  /-- Before the job is marked as running. -/
  | claim
  /-- During the compile, before its commit. -/
  | compile
  /-- After the commit of the compile, before the commit of the cascades. -/
  | cascade
  /-- After the commit of the cascades, before the job is marked as completed. -/
  | complete
  /-- While the job is marked as failed. -/
  | markFailed
  deriving DecidableEq

/-- Where a run raises, and with what message. -/
structure Faults where
  points : List RaisePoint := []
  message : String := ""

/-- `AssetCompileJobHandler`, by the services it was given. -/
structure AssetCompileJobHandler where
  compileSnapshot : UUID → Db → Except String (Db × CompileSnapshotResult)
  controlPlaneService : Option ControlPlaneService := none

namespace AssetCompileJob

/-- Write a job row. -/
def writeJob (jobId : UUID) (f : QueuedJob → QueuedJob) (hf : ∀ j, key (f j) = key j) (db : Db) :
    Db :=
  { db with queuedJobs := db.queuedJobs.update (fun job => job.id = jobId) f hf }

def markRunning (now : DateTime) (jobId : UUID) (db : Db) : Db :=
  writeJob jobId
    (fun job => { job with status := .running, startedAt := some (job.startedAt.getD now) })
    (fun _ => rfl) db

def markFailed (faults : Faults) (now : DateTime) (jobId : UUID) (message : String) (db : Db) :
    Transacted Unit :=
  if .markFailed ∈ faults.points then (db, .error faults.message)
  else
    (writeJob jobId
        (fun job =>
          { job with
            status := .failed
            startedAt := some (job.startedAt.getD now)
            finishedAt := some now
            failureMessage := some message })
        (fun _ => rfl) db,
      .ok ())

def markCompleted (now : DateTime) (jobId : UUID) (result : CompileSnapshotResult)
    (applied : Option ReconciliationCascadeApplied) (db : Db) : Db :=
  writeJob jobId
    (fun job =>
      { job with
        status := .completed
        finishedAt := some now
        failureMessage := none
        resultPayload := some (.compile result (applied.map (·.aliasesDisabled))
          (applied.map (·.aliasesEnabled)) (applied.map (·.publishedJobsPaused))
          (applied.map (·.publishedJobsResumed))) })
    (fun _ => rfl) db

/-- `UUID(snapshot_id)`. -/
def parseSnapshotId : IdField → Except String UUID
  | .uuid id => .ok id
  | _ => .error "badly formed hexadecimal UUID string"

/-- The cascades of a compile, when there is a control plane to apply them. -/
def cascade (service : Option ControlPlaneService) (now : DateTime) (faults : Faults)
    (result : CompileSnapshotResult) (db : Db) :
    Except String (Db × Option ReconciliationCascadeApplied) :=
  if .cascade ∈ faults.points then .error faults.message
  else
    match service with
    | none => .ok (db, none)
    | some controlPlane =>
      match ControlPlane.applyReconciliationCascades controlPlane now result db with
      | .error e => .error e
      | .ok (db, applied) => .ok (db, some applied)

/-- The body of the `try`: what is committed by the end of it. -/
def attempt (handler : AssetCompileJobHandler) (now : DateTime) (faults : Faults)
    (snapshotId : IdField) (db : Db) :
    Transacted (CompileSnapshotResult × Option ReconciliationCascadeApplied) :=
  match parseSnapshotId snapshotId with
  | .error e => (db, .error e)
  | .ok id =>
    if .compile ∈ faults.points then (db, .error faults.message)
    else
      match handler.compileSnapshot id db with
      | .error e => (db, .error e)
      | .ok (compiled, result) =>
        match cascade handler.controlPlaneService now faults result compiled with
        | .error e => (compiled, .error e)
        | .ok (cascaded, applied) => (cascaded, .ok (result, applied))

/-- `AssetCompileJobHandler.run`: what the run commits, and whether it returns. -/
def run (handler : AssetCompileJobHandler) (now : DateTime) (faults : Faults) (jobId : UUID)
    (db : Db) : Transacted Unit :=
  match db.queuedJobs.get? jobId with
  | none => (db, .error s!"queued job {UUID.text jobId} not found")
  | some job =>
    if job.payload.snapshotId = .absent then
      markFailed faults now job.id "missing snapshot_id in asset compile job payload" db
    else if .claim ∈ faults.points then (db, .error faults.message)
    else
      match attempt handler now faults job.payload.snapshotId (markRunning now job.id db) with
      | (db, .error message) => markFailed faults now job.id message db
      | (db, .ok (result, applied)) =>
        if .complete ∈ faults.points then (db, .error faults.message)
        else (markCompleted now job.id result applied db, .ok ())

end AssetCompileJob

end Runlet
