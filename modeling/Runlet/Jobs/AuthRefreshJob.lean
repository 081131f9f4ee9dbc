import Runlet.Jobs.CrawlJob

/-!
# The auth refresh job

`jobs/auth_refresh_job.py`.  The job asks the auth service for a new login of its system and records
how that ended.  The service is a parameter: it adds a login state, and writes nothing else.  The
auth policies, in which the job notes its last success or failure, have no such columns here.
-/

namespace Runlet

open KeyedTable

structure AuthRefreshResult where
  status : String
  message : Option String := none

/-- `AuthService`: the login states after a refresh for a system, and how the refresh ends. -/
structure AuthService where
  refreshAuthState : UUID → Db → Table AuthState × Except String AuthRefreshResult

namespace AuthRefreshJob

open CrawlJob (writeJob markRunning markFailed)

/-- The status of a job whose refresh ended with a status. -/
def queuedJobStatus (status : String) : QueuedJobStatus :=
  if status = "success" then .completed
  else if status = "retryable_failed" then .retryableFailed
  else .failed

/-- The end of a refresh that returned. -/
def markEnded (now : DateTime) (jobId : UUID) (result : AuthRefreshResult) (db : Db) : Db :=
  writeJob jobId
    (fun job =>
      { job with
        status := queuedJobStatus result.status
        finishedAt := some now
        failureMessage := if result.status = "success" then none else result.message })
    (fun _ => rfl) db

/-- The job that is running asks for the login. -/
def refresh (service : AuthService) (now : DateTime) (jobId systemId : UUID) (running : Db) : Db :=
  match service.refreshAuthState systemId running with
  | (authStates, .error message) =>
    markFailed now jobId message { running with authStates := authStates }
  | (authStates, .ok result) => markEnded now jobId result { running with authStates := authStates }

/-- `AuthRefreshJobHandler.run`. -/
def run (service : AuthService) (now : DateTime) (jobId : UUID) (db : Db) : Transacted Unit :=
  match db.queuedJobs.get? jobId with
  | none => (db, .error s!"queued job {UUID.text jobId} not found")
  | some job =>
    match job.payload.systemId with
    | .absent => (markFailed now job.id "missing system_id in auth refresh job payload" db, .ok ())
    | .malformed _ =>
      (markFailed now job.id "badly formed hexadecimal UUID string" (markRunning now job.id db),
        .ok ())
    | .uuid systemId => (refresh service now job.id systemId (markRunning now job.id db), .ok ())

/-- A database without the tables an auth refresh writes. -/
def outsideRefresh (db : Db) : Db :=
  { db with
    queuedJobs := .empty
    authStates := .empty }

/-- **A refresh writes login states and jobs.** -/
theorem outsideRefresh_run (service : AuthService) (now : DateTime) (jobId : UUID) (db : Db) :
    outsideRefresh (run service now jobId db).1 = outsideRefresh db := by
  unfold run
  split
  · rfl
  · split
    · rfl
    · rfl
    · unfold refresh
      split <;> rfl

end AuthRefreshJob

end Runlet
