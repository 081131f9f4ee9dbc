import Runlet.Infrastructure.Jobs
import Runlet.RunnerService.PublishedJobs

/-!
# The control plane

The operations of `control_plane/service.py` around compiled assets, with the repository functions
they call: applying the decisions of a compile to aliases and published jobs, rendering and
publishing checks, and requesting compiles.

A control plane is built with or without a published-job service and a script renderer; an absent
published-job service makes `apply_reconciliation_cascades` skip the jobs.
-/

namespace Runlet

open KeyedTable

/-- `ControlPlaneService`, by the collaborators it was given. -/
structure ControlPlaneService where
  publishedJobService : Option PublishedJobService := none
  scriptRenderer : Bool := false

structure ReconciliationCascadeApplied where
  aliasesDisabled : ℕ
  aliasesEnabled : ℕ
  publishedJobsPaused : ℕ
  publishedJobsResumed : ℕ
  deriving DecidableEq

/-- What `get_check_request_result_view` shows of a check request. -/
structure CheckResultView where
  planId : Option UUID
  pageCheckId : Option UUID
  executionStatus : Option String

structure PublishCheckRequest where
  scheduleExpr : String
  triggerSource : String := "platform"
  enabled : Bool := true

namespace ControlPlane

def assetCompileJobType : String := "asset_compile"

def crawlJobType : String := "crawl"

/-! ## Reconciliation cascades -/

def disableAlias (now : DateTime) (snapshotId : UUID) (reason : String) (row : IntentAlias) :
    IntentAlias :=
  { row with
    isActive := false
    disabledReason := some reason
    disabledAt := some now
    disabledBySnapshotId := some snapshotId }

def enableAlias (row : IntentAlias) : IntentAlias :=
  { row with
    isActive := true
    disabledReason := none
    disabledAt := none
    disabledBySnapshotId := none }

theorem key_disableAlias (now : DateTime) (snapshotId : UUID) (reason : String)
    (row : IntentAlias) : key (disableAlias now snapshotId reason row) = key row := rfl

theorem key_enableAlias (row : IntentAlias) : key (enableAlias row) = key row := rfl

/-- The aliases disabled and their number; a blank reason is refused when an alias is listed. -/
def disableAliasesFromCompilerDecisions (now : DateTime) (aliasIds : List UUID) (snapshotId : UUID)
    (reason : String) (db : Db) : Except String (Db × ℕ) :=
  if aliasIds = [] then .ok (db, 0)
  else if Text.strip reason = "" then .error "reason must not be empty"
  else .ok
    ({ db with
        intentAliases := db.intentAliases.updateListed aliasIds (fun row => row.isActive)
          (disableAlias now snapshotId (Text.strip reason))
          (key_disableAlias now snapshotId (Text.strip reason)) },
      db.intentAliases.countListed aliasIds fun row => row.isActive)

def enableAliasesFromCompilerDecisions (aliasIds : List UUID) (db : Db) : Db × ℕ :=
  ({ db with
      intentAliases := db.intentAliases.updateListed aliasIds (fun row => !row.isActive)
        enableAlias key_enableAlias },
    db.intentAliases.countListed aliasIds fun row => !row.isActive)

/-- The two steps on published jobs, when there is a service for them. -/
def cascadePublishedJobs (service : Option PublishedJobService) (result : CompileSnapshotResult)
    (db : Db) : Except String (Db × ℕ × ℕ) :=
  match service with
  | none => .ok (db, 0, 0)
  | some _ => do
    let (db, paused) ← PublishedJobs.pausePublishedJobsByIds result.publishedJobIdsToPause
      result.snapshotId "asset_retired_missing" db
    let (db, resumed) := PublishedJobs.resumePublishedJobsByIds result.publishedJobIdsToResume db
    pure (db, paused, resumed)

/-- One transaction: the database it commits, or none of it. -/
def applyReconciliationCascades (service : ControlPlaneService) (now : DateTime)
    (result : CompileSnapshotResult) (db : Db) : Except String (Db × ReconciliationCascadeApplied) := do
  let (db, disabled) ← disableAliasesFromCompilerDecisions now result.aliasIdsToDisable
    result.snapshotId "retired_missing" db
  let (db, enabled) := enableAliasesFromCompilerDecisions result.aliasIdsToEnable db
  let (db, paused, resumed) ← cascadePublishedJobs service.publishedJobService result db
  pure (db, ⟨disabled, enabled, paused, resumed⟩)

/-! ## Rendering and publishing -/

/-- `get_page_check_run_target`: the check, when it and its asset can be run. -/
def getPageCheckRunTarget (pageCheckId : UUID) (db : Db) : Option PageCheck :=
  match db.pageChecks.get? pageCheckId with
  | none => none
  | some check =>
    match db.pageAssets.get? check.pageAssetId with
    | none => none
    | some asset =>
      if (db.systems.get? asset.systemId).isSome && asset.status = .safe &&
          asset.lifecycleStatus = .active && check.lifecycleStatus = .active then
        some check
      else none

def renderPageCheckScript (service : ControlPlaneService) (ids : IdSource) (now : DateTime)
    (pageCheckId : UUID) (renderMode : String) (db : Db) : Transacted UUID :=
  if !service.scriptRenderer then (db, .error "script renderer is not configured")
  else
    match getPageCheckRunTarget pageCheckId db with
    | none => (db, .error "page check not found")
    | some check => ScriptRenderer.renderPageCheck ids now check.id renderMode db

def createPublishedJob (service : ControlPlaneService) (ids : IdSource)
    (payload : CreatePublishedJobRequest) (db : Db) : Transacted PublishedJobCreated :=
  match service.publishedJobService with
  | none => (db, .error "published job service is not configured")
  | some jobs => PublishedJobs.createPublishedJob jobs ids payload db

/-- `publish_check_request`, for the view the repository has of the request. -/
def publishCheckRequest (service : ControlPlaneService) (ids : IdSource) (now : DateTime)
    (view : Option CheckResultView) (payload : PublishCheckRequest) (db : Db) :
    Transacted PublishedJobCreated :=
  if !service.scriptRenderer then (db, .error "script renderer is not configured")
  else
    match service.publishedJobService with
    | none => (db, .error "published job service is not configured")
    | some jobs =>
      match view with
      | none => (db, .error "check request not found")
      | some result =>
        match result.planId, result.executionStatus with
        | some planId, some status =>
          if status ≠ "passed" then (db, .error "check request has no successful execution")
          else
            match result.pageCheckId with
            | none => (db, .error "check request has no publishable page_check")
            | some pageCheckId =>
              PublishedJobs.createPublishedJobFromExecution jobs ids now planId pageCheckId
                payload.scheduleExpr payload.triggerSource payload.enabled db
        | _, _ => (db, .error "check request has no successful execution")

/-! ## Requesting jobs -/

/-- `_enqueue_job`. -/
def enqueueJob (ids : IdSource) (now : DateTime) (jobType : String) (payload : JobPayload)
    (db : Db) : Db :=
  { db with
    queuedJobs := db.queuedJobs.insert ids fun id =>
      { id := id, jobType := jobType, payload := payload, createdAt := now } }

def compileAssets (ids : IdSource) (now : DateTime) (snapshotId : UUID) (compileScope : String)
    (db : Db) : Transacted UUID :=
  match db.crawlSnapshots.get? snapshotId with
  | none => (db, .error "snapshot not found")
  | some snapshot =>
    (enqueueJob ids now assetCompileJobType
        { snapshotId := .uuid snapshot.id, compileScope := some compileScope } db,
      .ok (db.queuedJobs.nextKey ids))

def triggerCrawl (ids : IdSource) (now : DateTime) (systemId : UUID) (crawlScope : String)
    (db : Db) : Transacted UUID :=
  match db.systems.get? systemId with
  | none => (db, .error "system not found")
  | some system =>
    (enqueueJob ids now crawlJobType
        { systemId := .uuid system.id, crawlScope := some crawlScope } db,
      .ok (db.queuedJobs.nextKey ids))

end ControlPlane

end Runlet
