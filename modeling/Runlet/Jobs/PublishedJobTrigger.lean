import Runlet.Infrastructure.Database

/-!
# Triggering a published job

`PublishedJobTrigger.trigger` of `jobs/published_job_trigger.py`: a run row and the queued
`run_check` job that carries it, written in one transaction.
-/

namespace Runlet

open KeyedTable

def runCheckJobType : String := "run_check"

namespace PublishedJobTrigger

variable (job : PublishedJob) (triggerSource : String) (scheduledAt : DateTime)

/-- The run of a job, with the queued job that carries it. -/
def jobRunRow (queuedJobId : UUID) (id : UUID) : JobRun where
  id := id
  publishedJobId := job.id
  queuedJobId := some queuedJobId
  scriptRenderId := job.scriptRenderId
  assetVersion := job.assetVersion
  runtimePolicy := job.runtimePolicy
  scheduleExpr := some job.scheduleExpr
  triggerSource := triggerSource
  runStatus := .accepted
  scheduledAt := scheduledAt

theorem key_jobRunRow (queuedJobId id : UUID) :
    key (jobRunRow job triggerSource scheduledAt queuedJobId id) = id := rfl

/-- The payload of the queued job; its own identifier is added once the row has one. -/
def payload (jobRunId queuedJobId : UUID) : JobPayload where
  pageCheckId := .uuid job.pageCheckId
  executionTrack := some "precompiled"
  publishedJobId := .uuid job.id
  jobRunId := .uuid jobRunId
  scriptRenderId := job.scriptRenderId.elim .absent .uuid
  assetVersion := job.assetVersion
  runtimePolicy := some job.runtimePolicy
  scheduleExpr := some job.scheduleExpr
  triggerSource := some triggerSource
  scheduledAt := some scheduledAt
  queuedJobId := .uuid queuedJobId

def queuedJobRow (jobRunId : UUID) (id : UUID) : QueuedJob where
  id := id
  jobType := runCheckJobType
  payload := payload job triggerSource scheduledAt jobRunId id
  triggerSource := some triggerSource
  scheduledAt := some scheduledAt

/-- The two rows, and their identifiers; a call without a time takes the clock's. -/
def trigger (ids : IdSource) (now : DateTime) (job : PublishedJob) (triggerSource : String)
    (scheduledAt : Option DateTime) (db : Db) : Db × (UUID × UUID) :=
  let runScheduledAt := scheduledAt.getD now
  let jobRunId := db.jobRuns.nextKey ids
  let queuedJobId := db.queuedJobs.nextKey ids
  ({ db with
      jobRuns := db.jobRuns.insert ids (jobRunRow job triggerSource runScheduledAt queuedJobId)
      queuedJobs := db.queuedJobs.insert ids
        (queuedJobRow job triggerSource runScheduledAt jobRunId) },
    (jobRunId, queuedJobId))

theorem mem_jobRuns_trigger {ids : IdSource} {now : DateTime} {job : PublishedJob}
    {triggerSource : String} {scheduledAt : Option DateTime} {db : Db} {run : JobRun} :
    run ∈ (trigger ids now job triggerSource scheduledAt db).1.jobRuns ↔ run ∈ db.jobRuns ∨
      run = jobRunRow job triggerSource (scheduledAt.getD now) (db.queuedJobs.nextKey ids)
        (db.jobRuns.nextKey ids) :=
  @Table.mem_insert _ _ _ _ _ _ (key_jobRunRow job triggerSource _ _) _

end PublishedJobTrigger

end Runlet
