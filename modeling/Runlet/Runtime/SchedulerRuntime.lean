import Runlet.ControlPlane.Service
import Runlet.Library.Calendar

/-!
# Triggering policies

The policy half of `runtime/scheduler_runtime.py`: a fire of an auth or a crawl policy enqueues the
job of the policy, unless the policy is off or was last triggered in the same minute.

A call works in a session of its own.  Between its statements other calls may run; what it has
read it keeps, and what it writes the others see when it commits.  `Phase` is the point a call has
reached, and `advance` its next statement.  A call that nobody interrupts is `triggerPolicyNow`.
-/

namespace Runlet

open KeyedTable

namespace SchedulerRuntime

def authRefreshJobType : String := "auth_refresh"

inductive PolicyKind where
  | auth
  | crawl
  deriving DecidableEq

def PolicyKind.jobType : PolicyKind → String
  | .auth => authRefreshJobType
  | .crawl => ControlPlane.crawlJobType

/-- The row a call has loaded. -/
inductive LoadedPolicy where
  | auth (policy : SystemAuthPolicy)
  | crawl (policy : SystemCrawlPolicy)
  deriving DecidableEq

namespace LoadedPolicy

def kind : LoadedPolicy → PolicyKind
  | auth _ => .auth
  | crawl _ => .crawl

def row : LoadedPolicy → RuntimePolicy
  | auth policy => policy.toRuntimePolicy
  | crawl policy => policy.toRuntimePolicy

def payload (runTime : DateTime) : LoadedPolicy → JobPayload
  | auth policy =>
    { systemId := .uuid policy.systemId
      policyId := .uuid policy.id
      triggerSource := some "scheduler"
      scheduledAt := some runTime }
  | crawl policy =>
    { systemId := .uuid policy.systemId
      crawlScope := some policy.crawlScope
      policyId := .uuid policy.id
      triggerSource := some "scheduler"
      scheduledAt := some runTime }

end LoadedPolicy

/-- A policy by its identifier, or else by the identifier of its system. -/
def loadAuthPolicy (identifier : UUID) (db : Db) : Option SystemAuthPolicy :=
  match db.systemAuthPolicies.get? identifier with
  | some policy => some policy
  | none => db.systemAuthPolicies.first? fun policy => policy.systemId = identifier

def loadCrawlPolicy (identifier : UUID) (db : Db) : Option SystemCrawlPolicy :=
  match db.systemCrawlPolicies.get? identifier with
  | some policy => some policy
  | none => db.systemCrawlPolicies.first? fun policy => policy.systemId = identifier

def loadPolicy (kind : PolicyKind) (identifier : UUID) (db : Db) : Option LoadedPolicy :=
  match kind with
  | .auth => (loadAuthPolicy identifier db).map .auth
  | .crawl => (loadCrawlPolicy identifier db).map .crawl

def minuteKey (value : DateTime) : DateTime :=
  Calendar.startOfMinute value

/-- The policy is off, or was last triggered in the minute. -/
def rejects (policy : RuntimePolicy) (runTime : DateTime) : Bool :=
  !policy.isActive || policy.lastTriggeredAt.map minuteKey = some (minuteKey runTime)

/-- The queued job of a fire. -/
def policyJob (policy : LoadedPolicy) (runTime : DateTime) (id : UUID) : QueuedJob where
  id := id
  jobType := policy.kind.jobType
  payload := policy.payload runTime
  policyId := some policy.row.id
  triggerSource := some "scheduler"
  scheduledAt := some runTime

def touchAuthPolicy (runTime : DateTime) (policy : SystemAuthPolicy) : SystemAuthPolicy :=
  { policy with lastTriggeredAt := some runTime }

def touchCrawlPolicy (runTime : DateTime) (policy : SystemCrawlPolicy) : SystemCrawlPolicy :=
  { policy with lastTriggeredAt := some runTime }

theorem key_touchAuthPolicy (runTime : DateTime) (policy : SystemAuthPolicy) :
    key (touchAuthPolicy runTime policy) = key policy := rfl

theorem key_touchCrawlPolicy (runTime : DateTime) (policy : SystemCrawlPolicy) :
    key (touchCrawlPolicy runTime policy) = key policy := rfl

/-- The time of the fire, written to the policy. -/
def touchPolicy (policy : LoadedPolicy) (runTime : DateTime) (db : Db) : Db :=
  match policy with
  | .auth policy =>
    { db with
      systemAuthPolicies := db.systemAuthPolicies.update (fun row => row.id = policy.id)
        (touchAuthPolicy runTime) (key_touchAuthPolicy runTime) }
  | .crawl policy =>
    { db with
      systemCrawlPolicies := db.systemCrawlPolicies.update (fun row => row.id = policy.id)
        (touchCrawlPolicy runTime) (key_touchCrawlPolicy runTime) }

/-- What a call commits: the job and the time of the fire. -/
def commitTrigger (ids : IdSource) (policy : LoadedPolicy) (runTime : DateTime) (db : Db) : Db :=
  touchPolicy policy runTime
    { db with queuedJobs := db.queuedJobs.insert ids (policyJob policy runTime) }

/-! ## A call, statement by statement -/

structure Request where
  kind : PolicyKind
  identifier : UUID
  runTime : DateTime

/-- How far a call has come, and the row it holds. -/
inductive Phase where
  | started
  | loaded (policy : Option LoadedPolicy)
  | passed (policy : LoadedPolicy)
  | enqueued (policy : LoadedPolicy)
  | written (policy : LoadedPolicy)
  | returned (triggered : Bool)
  deriving DecidableEq

/-- The next statement of a call.  The inserted job and the changed policy stay in the session
until the commit. -/
def advance (ids : IdSource) (request : Request) (phase : Phase) (db : Db) : Phase × Db :=
  match phase with
  | .started => (.loaded (loadPolicy request.kind request.identifier db), db)
  | .loaded none => (.returned false, db)
  | .loaded (some policy) =>
    if rejects policy.row request.runTime then (.returned false, db) else (.passed policy, db)
  | .passed policy => (.enqueued policy, db)
  | .enqueued policy => (.written policy, db)
  | .written policy => (.returned true, commitTrigger ids policy request.runTime db)
  | .returned triggered => (.returned triggered, db)

/-! ## A call on its own -/

def triggerPolicyNow (kind : PolicyKind) (ids : IdSource) (policyId : UUID) (scheduledAt : DateTime)
    (db : Db) : Db × Bool :=
  match loadPolicy kind policyId db with
  | none => (db, false)
  | some policy =>
    if rejects policy.row scheduledAt then (db, false)
    else (commitTrigger ids policy scheduledAt db, true)

def triggerAuthPolicyNow (ids : IdSource) (policyId : UUID) (scheduledAt : DateTime) (db : Db) :
    Db × Bool :=
  triggerPolicyNow .auth ids policyId scheduledAt db

def triggerCrawlPolicyNow (ids : IdSource) (policyId : UUID) (scheduledAt : DateTime) (db : Db) :
    Db × Bool :=
  triggerPolicyNow .crawl ids policyId scheduledAt db

/-- Five statements, uninterrupted, are the call. -/
theorem advance_uninterrupted (ids : IdSource) (request : Request) (db : Db) :
    (fun s : Phase × Db => advance ids request s.1 s.2)^[5] (.started, db) =
      (.returned (triggerPolicyNow request.kind ids request.identifier request.runTime db).2,
        (triggerPolicyNow request.kind ids request.identifier request.runTime db).1) := by
  simp only [Function.iterate_succ, Function.iterate_zero, Function.comp_apply, id_eq,
    triggerPolicyNow]
  cases hload : loadPolicy request.kind request.identifier db with
  | none => simp [advance, hload]
  | some policy =>
    cases hrejects : rejects policy.row request.runTime with
    | true => simp [advance, hload, hrejects]
    | false => simp [advance, hload, hrejects]

end SchedulerRuntime

end Runlet
