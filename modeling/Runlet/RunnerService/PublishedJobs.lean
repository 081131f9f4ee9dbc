import Runlet.RunnerService.ScriptRenderer
import Mathlib.Data.Prod.Lex

/-!
# Published jobs

`runner_service/scheduler.py`: creating a published job from a script, or from an execution with
the script rendered on the way, and the pausing and resuming of jobs a compile decides on.

Whether a schedule can be parsed is decided by a third-party package; the answer is a parameter.
Constraints the database enforces (a job belongs to a check that exists, job keys are unique) fail
the transaction that breaks them.
-/

namespace Runlet

open KeyedTable

/-- `PublishedJobService`, by what it is built with. -/
structure PublishedJobService where
  cronParses : String → Bool

/-- A request after its texts were validated: none of them is blank. -/
structure CreatePublishedJobRequest where
  scriptRenderId : UUID
  pageCheckId : UUID
  scheduleType : String
  scheduleExpr : String
  triggerSource : String
  enabled : Bool
  scheduleType_ne : scheduleType ≠ ""
  scheduleExpr_ne : scheduleExpr ≠ ""
  triggerSource_ne : triggerSource ≠ ""

structure PublishedJobCreated where
  publishedJobId : UUID
  pageCheckId : UUID
  scriptRenderId : UUID
  scheduleExpr : String
  state : PublishedJobState
  assetVersion : Option String
  deriving DecidableEq

namespace PublishedJobs

/-- `_validate_required_text`. -/
def validateRequiredText (value : String) : Except String String :=
  if Text.strip value = "" then .error "value must not be empty" else .ok (Text.strip value)

/-- The constructor of a request. -/
def buildRequest (scriptRenderId pageCheckId : UUID)
    (scheduleType scheduleExpr triggerSource : String) (enabled : Bool) :
    Except String CreatePublishedJobRequest :=
  if hType : Text.strip scheduleType = "" then .error "value must not be empty"
  else if hExpr : Text.strip scheduleExpr = "" then .error "value must not be empty"
  else if hSource : Text.strip triggerSource = "" then .error "value must not be empty"
  else .ok
    { scriptRenderId := scriptRenderId
      pageCheckId := pageCheckId
      scheduleType := Text.strip scheduleType
      scheduleExpr := Text.strip scheduleExpr
      triggerSource := Text.strip triggerSource
      enabled := enabled
      scheduleType_ne := hType
      scheduleExpr_ne := hExpr
      triggerSource_ne := hSource }

/-- `_optional_text`. -/
def optionalText (value : Option String) : Option String :=
  match value with
  | none => none
  | some v => if Text.strip v = "" then none else some (Text.strip v)

def buildJobKey (pageCheckId scriptRenderId : UUID) : String :=
  String.ofList ((UUID.hex pageCheckId).take 12 ++ ['_'] ++ (UUID.hex scriptRenderId).take 12)

/-- `_matches_page_check`. -/
def matchesPageCheck (script : ScriptRender) (pageCheckId : UUID) : Bool :=
  (script.renderMetadata.bind (·.pageCheckId)) = some pageCheckId

/-! ## Creating -/

/-- The row a request asks for. -/
def publishedJobRow (payload : CreatePublishedJobRequest) (script : ScriptRender) (id : UUID) :
    PublishedJob where
  id := id
  jobKey := buildJobKey payload.pageCheckId payload.scriptRenderId
  pageCheckId := payload.pageCheckId
  scriptRenderId := some payload.scriptRenderId
  assetVersion := optionalText (script.renderMetadata.bind (·.assetVersion))
  runtimePolicy :=
    (optionalText (script.renderMetadata.bind (·.runtimePolicy))).getD payload.scheduleType
  scheduleExpr := payload.scheduleExpr
  state := if payload.enabled then .active else .paused

/-- What the database checks when a job is inserted. -/
def insertable (payload : CreatePublishedJobRequest) (db : Db) : Bool :=
  (db.pageChecks.get? payload.pageCheckId).isSome &&
    db.publishedJobs.rows.all fun job =>
      job.jobKey ≠ buildJobKey payload.pageCheckId payload.scriptRenderId

def createPublishedJob (service : PublishedJobService) (ids : IdSource)
    (payload : CreatePublishedJobRequest) (db : Db) : Transacted PublishedJobCreated :=
  if !service.cronParses payload.scheduleExpr then
    (db, .error s!"invalid schedule expression: {payload.scheduleExpr}")
  else
    match db.scriptRenders.get? payload.scriptRenderId with
    | none => (db, .error s!"script render {UUID.text payload.scriptRenderId} not found")
    | some script =>
      if !insertable payload db then (db, .error "integrity error")
      else
        let job := publishedJobRow payload script (db.publishedJobs.nextKey ids)
        ({ db with publishedJobs := db.publishedJobs.insert ids (publishedJobRow payload script) },
          .ok
            { publishedJobId := job.id
              pageCheckId := job.pageCheckId
              scriptRenderId := payload.scriptRenderId
              scheduleExpr := job.scheduleExpr
              state := job.state
              assetVersion := job.assetVersion })

/-- The published script of an execution plan that was made last. -/
def latestPublishedScript (executionPlanId : UUID) (db : Db) : Option ScriptRender :=
  ((db.scriptRenders.select fun script =>
    script.executionPlanId = some executionPlanId && script.renderMode = "published").insertionSort
      fun a b => (toLex (b.createdAt, b.id) : DateTime ×ₗ UUID) ≤ toLex (a.createdAt, a.id)).head?

/-- `_get_or_render_published_script`; the result is the identifier of the script. -/
def getOrRenderPublishedScript (ids : IdSource) (now : DateTime)
    (executionPlanId pageCheckId : UUID) (db : Db) : Transacted UUID :=
  match (latestPublishedScript executionPlanId db).filter fun script =>
      matchesPageCheck script pageCheckId with
  | some script => (db, .ok script.id)
  | none =>
    match ScriptRenderer.renderPageCheck ids now pageCheckId "published" db with
    | (db, .error e) => (db, .error e)
    | (db, .ok scriptRenderId) =>
      ({ db with
          scriptRenders := db.scriptRenders.update (fun script => script.id = scriptRenderId)
            fun script => { script with executionPlanId := some executionPlanId } },
        .ok scriptRenderId)

def createPublishedJobFromExecution (service : PublishedJobService) (ids : IdSource)
    (now : DateTime) (executionPlanId pageCheckId : UUID) (scheduleExpr triggerSource : String)
    (enabled : Bool) (db : Db) : Transacted PublishedJobCreated :=
  match getOrRenderPublishedScript ids now executionPlanId pageCheckId db with
  | (db, .error e) => (db, .error e)
  | (db, .ok scriptRenderId) =>
    match buildRequest scriptRenderId pageCheckId "cron" scheduleExpr triggerSource enabled with
    | .error e => (db, .error e)
    | .ok payload => createPublishedJob service ids payload db

/-! ## Pausing and resuming -/

def pauseJob (snapshotId : UUID) (reason : String) (job : PublishedJob) : PublishedJob :=
  { job with
    state := .paused
    pauseReason := some reason
    pausedBySnapshotId := some snapshotId
    pausedByPageCheckId := some job.pageCheckId }

def resumeJob (job : PublishedJob) : PublishedJob :=
  { job with
    state := .active
    pauseReason := none
    pausedBySnapshotId := none
    pausedByAssetId := none
    pausedByPageCheckId := none }

theorem key_pauseJob (snapshotId : UUID) (reason : String) (job : PublishedJob) :
    key (pauseJob snapshotId reason job) = key job := rfl

theorem key_resumeJob (job : PublishedJob) : key (resumeJob job) = key job := rfl

/-- The jobs paused and their number; a blank reason is refused even when no job is listed. -/
def pausePublishedJobsByIds (publishedJobIds : List UUID) (snapshotId : UUID) (reason : String)
    (db : Db) : Except String (Db × ℕ) := do
  let normalizedReason ← validateRequiredText reason
  pure
    ({ db with
        publishedJobs := db.publishedJobs.updateListed publishedJobIds
          (fun job => job.state = .active) (pauseJob snapshotId normalizedReason)
          (key_pauseJob snapshotId normalizedReason) },
      db.publishedJobs.countListed publishedJobIds fun job => job.state = .active)

def resumePublishedJobsByIds (publishedJobIds : List UUID) (db : Db) : Db × ℕ :=
  ({ db with
      publishedJobs := db.publishedJobs.updateListed publishedJobIds
        (fun job => job.state = .paused) resumeJob key_resumeJob },
    db.publishedJobs.countListed publishedJobIds fun job => job.state = .paused)

end PublishedJobs

end Runlet
