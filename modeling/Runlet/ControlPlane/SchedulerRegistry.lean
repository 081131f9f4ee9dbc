import Runlet.RunnerService.Scheduler
import Runlet.Library.Loading

/-!
# The scheduler registry

`control_plane/scheduler_registry.py`: the jobs of the process-local scheduler, kept in step with
the published jobs and the policies of the database.

The scheduler is a map from job identifiers to jobs: adding a job replaces the one with its
identifier, and removing an absent one is no error here.  The registry's own identifiers are texts
made of the kind and an identifier, so they are told apart by these two; the scheduler may hold
other jobs as well.

An expression that the scheduling package refuses raises out of the loop.  The jobs added and
removed before stay as they are, so a raised error carries the scheduler it leaves behind.
-/

namespace Runlet

open KeyedTable

/-- The identifier of a scheduler job. -/
inductive SchedulerJobId where
  | publishedJob (publishedJobId : UUID)
  | authPolicy (systemId : UUID)
  | crawlPolicy (systemId : UUID)
  | other (name : String)
  deriving DecidableEq

/-- The identifiers the registry makes. -/
def SchedulerJobId.Managed : SchedulerJobId → Prop
  | other _ => False
  | _ => True

/-- A scheduler job: when it fires, and what it is for. -/
structure SchedulerJob where
  trigger : CronTrigger
  kind : String
  entityId : UUID

/-- The jobs of a scheduler. -/
abbrev SchedulerJobs := SchedulerJobId → Option SchedulerJob

/-- What an operation leaves of the scheduler, whether it returns or raises. -/
abbrev Registering := Except SchedulerJobs SchedulerJobs

def Registering.jobs : Registering → SchedulerJobs :=
  Loading.left

namespace SchedulerRegistry

variable (fromCrontab : FromCrontab) (db : Db)

def removeJob (jobId : SchedulerJobId) (jobs : SchedulerJobs) : SchedulerJobs :=
  Function.update jobs jobId none

/-- `_upsert_job`. -/
def upsertJob (jobId : SchedulerJobId) (scheduleExpr timezone kind : String) (entityId : UUID)
    (jobs : SchedulerJobs) : Registering :=
  match fromCrontab scheduleExpr timezone with
  | none => .error jobs
  | some trigger =>
    .ok (Function.update jobs jobId
      (some { trigger := trigger, kind := kind, entityId := entityId }))

def upsertPublishedJob (publishedJobId : UUID) (jobs : SchedulerJobs) : Registering :=
  let jobId := .publishedJob publishedJobId
  match db.publishedJobs.get? publishedJobId with
  | none => .ok (removeJob jobId jobs)
  | some publishedJob =>
    if publishedJob.state ≠ .active then .ok (removeJob jobId jobs)
    else
      upsertJob fromCrontab jobId publishedJob.scheduleExpr publishedJob.timezone "published_job"
        publishedJob.id jobs

def upsertAuthPolicy (policyId : UUID) (jobs : SchedulerJobs) : Registering :=
  match db.systemAuthPolicies.get? policyId with
  | none => .ok jobs
  | some policy =>
    let jobId := .authPolicy policy.systemId
    if !policy.isActive then .ok (removeJob jobId jobs)
    else upsertJob fromCrontab jobId policy.scheduleExpr "UTC" "auth_policy" policy.id jobs

def upsertCrawlPolicy (policyId : UUID) (jobs : SchedulerJobs) : Registering :=
  match db.systemCrawlPolicies.get? policyId with
  | none => .ok jobs
  | some policy =>
    let jobId := .crawlPolicy policy.systemId
    if !policy.isActive then .ok (removeJob jobId jobs)
    else upsertJob fromCrontab jobId policy.scheduleExpr "UTC" "crawl_policy" policy.id jobs

/-- The three loops, each over the identifiers of a table. -/
def loadAllFromDb (jobs : SchedulerJobs) : Registering := do
  let jobs ← (db.publishedJobs.rows.map key).foldlM
    (fun jobs publishedJobId => upsertPublishedJob fromCrontab db publishedJobId jobs) jobs
  let jobs ← (db.systemAuthPolicies.rows.map key).foldlM
    (fun jobs policyId => upsertAuthPolicy fromCrontab db policyId jobs) jobs
  (db.systemCrawlPolicies.rows.map key).foldlM
    (fun jobs policyId => upsertCrawlPolicy fromCrontab db policyId jobs) jobs

end SchedulerRegistry

end Runlet
