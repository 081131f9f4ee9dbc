import Runlet.ControlPlane.PolicyUpserts
import Runlet.Library.Query
import Runlet.Library.Stages

/-!
# Onboarding a system

`system_admin_service.py` and `system_admin_repository.py`: the manifest of a system, and the chain
of separately committed stages by which it is onboarded (register, set both policies to disabled,
refresh the login, crawl, compile, publish a check, set the policies as the manifest says) with the
handler that disables the policies again when a stage raises.

Where a stage raises for reasons outside the program is an input, for the stages and for the
handler.  A stage is what happens up to a commit, so a raise before its commit leaves nothing of it;
what happens between the commit of the published job and the end of its call is a stage of its own.
The jobs are run by an executor, which is a parameter together with what it leaves alone.
-/

namespace Runlet

open KeyedTable

/-! ## Manifests -/

structure SystemManifestSection where
  code : RequiredText
  name : RequiredText
  baseUrl : RequiredText
  frameworkType : RequiredText

structure CredentialManifestSection where
  loginUrl : RequiredText
  username : RequiredText
  password : RequiredText
  authType : RequiredText
  selectors : List (String × String) := []

structure AuthPolicyManifestSection where
  enabled : Bool := true
  scheduleExpr : RequiredText
  authMode : RequiredText
  captchaProvider : String := "ddddocr"

structure CrawlPolicyManifestSection where
  enabled : Bool := true
  scheduleExpr : RequiredText
  crawlScope : String := "full"

structure PublishManifestSection where
  checkGoal : RequiredText
  scheduleExpr : RequiredText
  enabled : Bool := true

structure WebSystemManifest where
  system : SystemManifestSection
  credential : CredentialManifestSection
  authPolicy : AuthPolicyManifestSection
  crawlPolicy : CrawlPolicyManifestSection
  publish : PublishManifestSection

/-! ## The repository -/

structure PublishTarget where
  pageAsset : PageAsset
  pageCheck : PageCheck

/-- The stored text of a job status. -/
def QueuedJobStatus.value : QueuedJobStatus → String
  | .accepted => "accepted"
  | .running => "running"
  | .completed => "completed"
  | .failed => "failed"
  | .retryableFailed => "retryable_failed"
  | .skipped => "skipped"

namespace SystemAdmin

open RowQuery (SortOrder firstBy)
open Stages (Stage)

def hasCode (code : String) (system : System) : Bool :=
  system.code = code

def isCredentialOf (systemId : UUID) (credential : SystemCredential) : Bool :=
  credential.systemId = systemId

/-- `upsert_system`. -/
def upsertSystem (ids : IdSource) (manifest : SystemManifestSection) (systems : Table System) :
    Table System × System :=
  systems.upsert ids (hasCode manifest.code.text)
    (fun id => { id := id, code := manifest.code.text, name := "", baseUrl := "" })
    fun system =>
      { system with
        name := manifest.name.text
        baseUrl := manifest.baseUrl.text
        frameworkType := manifest.frameworkType.text }

/-- The credential of a system, with the columns of a manifest. -/
def setCredential (encrypt : String → String) (manifest : CredentialManifestSection)
    (credential : SystemCredential) : SystemCredential :=
  { credential with
    loginUrl := manifest.loginUrl.text
    loginUsernameEncrypted := encrypt manifest.username.text
    loginPasswordEncrypted := encrypt manifest.password.text
    loginAuthType := manifest.authType.text
    loginSelectors := some (.obj (manifest.selectors.map fun entry => (entry.1, .str entry.2)))
    secretRef := some "local/system-admin" }

/-- A new credential, before it is given its columns. -/
def newCredential (systemId id : UUID) : SystemCredential where
  id := id
  systemId := systemId
  loginUrl := ""
  loginUsernameEncrypted := ""
  loginPasswordEncrypted := ""
  loginAuthType := ""

/-- `upsert_system_credentials`. -/
def upsertSystemCredentials (ids : IdSource) (encrypt : String → String) (systemId : UUID)
    (manifest : CredentialManifestSection) (credentials : Table SystemCredential) :
    Except String (Table SystemCredential) :=
  if 1 < (credentials.select (isCredentialOf systemId)).length then
    .error "multiple system credentials found"
  else
    .ok (credentials.upsert ids (isCredentialOf systemId) (newCredential systemId)
      (setCredential encrypt manifest)).1

def getSuccessfulCrawlSnapshotId (jobId : UUID) (db : Db) : Except String UUID :=
  match (db.queuedJobs.get? jobId).filter (·.jobType = ControlPlane.crawlJobType) with
  | none => .error s!"crawl job {UUID.text jobId} not found"
  | some job =>
    match job.resultPayload with
    | some (.crawl snapshotId) => .ok snapshotId
    | _ => .error s!"crawl job {UUID.text jobId} did not complete successfully"

/-- The first compile job of a snapshot. -/
def getCompileJobForSnapshot (snapshotId : UUID) (db : Db) : Except String QueuedJob :=
  let jobs := db.queuedJobs.rows.filter fun job =>
    job.jobType = ControlPlane.assetCompileJobType && job.payload.snapshotId = .uuid snapshotId
  match firstBy ((SortOrder.ascending QueuedJob.createdAt).andThen
      (SortOrder.ascending QueuedJob.id)) jobs with
  | some job => .ok job
  | none => .error s!"asset_compile job for snapshot {UUID.text snapshotId} not found"

/-- The active checks of the active assets of a system, with the goal. -/
def publishTargets (systemId : UUID) (checkGoal : String) (db : Db) : List PublishTarget :=
  (db.pageAssets.rows.filter fun asset =>
      asset.systemId = systemId && asset.lifecycleStatus = .active).flatMap fun asset =>
    (db.pageChecks.rows.filter fun check =>
      check.pageAssetId = asset.id && check.lifecycleStatus = .active && check.goal = checkGoal).map
        (PublishTarget.mk asset)

def publishTargetOrder : SortOrder PublishTarget :=
  (SortOrder.descending fun target : PublishTarget => target.pageAsset.assetVersion).andThen
    ((SortOrder.ascending fun target : PublishTarget => target.pageAsset.id).andThen
      (SortOrder.ascending fun target : PublishTarget => target.pageCheck.id))

def getPublishTarget (systemId : UUID) (checkGoal : String) (db : Db) : Option PublishTarget :=
  firstBy publishTargetOrder (publishTargets systemId checkGoal db)

end SystemAdmin

/-! ## The service -/

/-- What the jobs of the pipeline leave alone: the systems, their credentials and policies, and which
published jobs there are. -/
structure LeavesAdministration (db db' : Db) : Prop where
  systems : db'.systems = db.systems
  systemCredentials : db'.systemCredentials = db.systemCredentials
  systemAuthPolicies : db'.systemAuthPolicies = db.systemAuthPolicies
  systemCrawlPolicies : db'.systemCrawlPolicies = db.systemCrawlPolicies
  publishedJobs : db'.publishedJobs.rows.map key = db.publishedJobs.rows.map key

/-- `FormalJobExecutor`: what running a job commits, and whether it returns. -/
structure FormalJobExecutor where
  runAuthRefresh : UUID → Db → Transacted Unit
  runCrawl : UUID → Db → Transacted Unit
  runAssetCompile : UUID → Db → Transacted Unit
  leaves_runAuthRefresh : ∀ jobId db, LeavesAdministration db (runAuthRefresh jobId db).1
  leaves_runCrawl : ∀ jobId db, LeavesAdministration db (runCrawl jobId db).1
  leaves_runAssetCompile : ∀ jobId db, LeavesAdministration db (runAssetCompile jobId db).1

/-- `SystemAdminService`, by what it is built with. -/
structure SystemAdminService where
  controlPlaneService : ControlPlaneService
  jobExecutor : FormalJobExecutor
  encrypt : String → String
  cronParses : String → Bool

/-- What an onboarding does up to one of its commits. -/
inductive OnboardStage where
  | register
  | disableAuth
  | disableCrawl
  | refreshAuth
  | runAuthRefresh
  | ensureAuthRefresh
  | triggerCrawl
  | runCrawl
  | findSnapshot
  | findCompileJob
  | runAssetCompile
  | ensureAssetCompile
  | findPublishTarget
  | renderScript
  | createPublishedJob
  | refreshPublishedJob
  | enableAuth
  | enableCrawl
  deriving DecidableEq

/-- One call of `onboard_system`: where it draws its keys from, when it is made, and where its
stages and its handler raise. -/
structure OnboardCall where
  ids : IdSource
  now : DateTime
  raises : OnboardStage → Option String := fun _ => none
  handlerRaises : OnboardStage → Option String := fun _ => none

/-- The values the stages pass on; each is read only after the stage that finds it. -/
structure OnboardContext where
  authJobId : UUID := 0
  crawlJobId : UUID := 0
  snapshotId : UUID := 0
  compileJobId : UUID := 0
  pageCheckId : UUID := 0
  scriptRenderId : UUID := 0
  publishedJobId : UUID := 0

structure OnboardSystemResult where
  systemId : UUID
  systemCode : String
  pageCheckId : UUID
  publishedJobId : UUID
  deriving DecidableEq

namespace SystemAdmin

open Stages (Stage)

section Pipeline

variable (service : SystemAdminService) (call : OnboardCall) (manifest : WebSystemManifest)
  (systemId : UUID)

/-- What a call of the service does, and how its result is passed on. -/
def calling {α : Type} (name : OnboardStage) (act : OnboardContext → Db → Transacted α)
    (pass : OnboardContext → α → OnboardContext) : Stage OnboardStage OnboardContext Db String where
  name := name
  act c db := ((act c db).1, (act c db).2.map (pass c))

/-- What is read from the database, and how it is passed on. -/
def reading {α : Type} (name : OnboardStage) (find : OnboardContext → Db → Except String α)
    (pass : OnboardContext → α → OnboardContext) : Stage OnboardStage OnboardContext Db String :=
  calling name (fun c db => (db, find c db)) pass

def upsertAuthPolicy (enabled : Bool) (db : Db) : Transacted SystemAuthPolicy :=
  match UpdateSystemAuthPolicy.ofArguments enabled manifest.authPolicy.scheduleExpr.text
      manifest.authPolicy.authMode.text manifest.authPolicy.captchaProvider with
  | .error e => (db, .error e)
  | .ok payload =>
    ControlPlane.upsertSystemAuthPolicy service.cronParses call.ids systemId payload db

def upsertCrawlPolicy (enabled : Bool) (db : Db) : Transacted SystemCrawlPolicy :=
  match UpdateSystemCrawlPolicy.ofArguments enabled manifest.crawlPolicy.scheduleExpr.text
      manifest.crawlPolicy.crawlScope with
  | .error e => (db, .error e)
  | .ok payload =>
    ControlPlane.upsertSystemCrawlPolicy service.cronParses call.ids systemId payload db

/-- `_upsert_runtime_policies`. -/
def upsertRuntimePolicies (authName crawlName : OnboardStage) (authEnabled crawlEnabled : Bool) :
    List (Stage OnboardStage OnboardContext Db String) :=
  [calling authName (fun _ => upsertAuthPolicy service call manifest systemId authEnabled)
      fun c _ => c,
    calling crawlName (fun _ => upsertCrawlPolicy service call manifest systemId crawlEnabled)
      fun c _ => c]

/-- `trigger_crawl`, with the validation of its payload. -/
def triggerCrawl (db : Db) : Transacted UUID :=
  match validateRequiredText manifest.crawlPolicy.crawlScope with
  | .error e => (db, .error e)
  | .ok crawlScope => ControlPlane.triggerCrawl call.ids call.now systemId crawlScope.text db

/-- `_ensure_job_completed_successfully`. -/
def ensureJobCompletedSuccessfully (jobLabel : String) (jobId : UUID) (db : Db) :
    Except String Unit :=
  match db.queuedJobs.get? jobId with
  | none => .error s!"{jobLabel} {UUID.text jobId} not found"
  | some job =>
    if job.status = .completed then .ok ()
    else
      let failure := job.failureMessage.getD ""
      let detail := if failure = "" then job.status.value else s!"{job.status.value}: {failure}"
      .error s!"{jobLabel} {UUID.text jobId} did not complete successfully: {detail}"

def findPublishTarget (db : Db) : Except String PublishTarget :=
  match getPublishTarget systemId manifest.publish.checkGoal.text db with
  | none => .error s!"page_check for goal {manifest.publish.checkGoal.text} not found"
  | some target => .ok target

def createPublishedJob (pageCheckId scriptRenderId : UUID) (db : Db) :
    Transacted PublishedJobCreated :=
  match PublishedJobs.buildRequest scriptRenderId pageCheckId "cron"
      manifest.publish.scheduleExpr.text "system_admin" manifest.publish.enabled with
  | .error e => (db, .error e)
  | .ok payload => ControlPlane.createPublishedJob service.controlPlaneService call.ids payload db

/-- The stages of an onboarding that find or make what is to be published. -/
def preparing : List (Stage OnboardStage OnboardContext Db String) :=
  upsertRuntimePolicies service call manifest systemId .disableAuth .disableCrawl false false ++
    [calling .refreshAuth (fun _ => ControlPlane.refreshAuth call.ids call.now systemId)
        fun c jobId => { c with authJobId := jobId },
      calling .runAuthRefresh (fun c => service.jobExecutor.runAuthRefresh c.authJobId) fun c _ => c,
      reading .ensureAuthRefresh
        (fun c => ensureJobCompletedSuccessfully "auth refresh job" c.authJobId) fun c _ => c,
      calling .triggerCrawl (fun _ => triggerCrawl call manifest systemId)
        fun c jobId => { c with crawlJobId := jobId },
      calling .runCrawl (fun c => service.jobExecutor.runCrawl c.crawlJobId) fun c _ => c,
      reading .findSnapshot (fun c => getSuccessfulCrawlSnapshotId c.crawlJobId)
        fun c snapshotId => { c with snapshotId := snapshotId },
      reading .findCompileJob (fun c => getCompileJobForSnapshot c.snapshotId)
        fun c job => { c with compileJobId := job.id },
      calling .runAssetCompile (fun c => service.jobExecutor.runAssetCompile c.compileJobId)
        fun c _ => c,
      reading .ensureAssetCompile
        (fun c => ensureJobCompletedSuccessfully "asset compile job" c.compileJobId) fun c _ => c,
      reading .findPublishTarget (fun _ => findPublishTarget manifest systemId)
        fun c target => { c with pageCheckId := target.pageCheck.id },
      calling .renderScript
        (fun c => ControlPlane.renderPageCheckScript service.controlPlaneService call.ids call.now
          c.pageCheckId "published")
        fun c scriptRenderId => { c with scriptRenderId := scriptRenderId }]

/-- The stages from the publishing on. -/
def publishing : List (Stage OnboardStage OnboardContext Db String) :=
  [calling .createPublishedJob
      (fun c => createPublishedJob service call manifest c.pageCheckId c.scriptRenderId)
      fun c created => { c with publishedJobId := created.publishedJobId },
    reading .refreshPublishedJob (fun _ _ => .ok ()) fun c _ => c] ++
    upsertRuntimePolicies service call manifest systemId .enableAuth .enableCrawl
      manifest.authPolicy.enabled manifest.crawlPolicy.enabled

/-- Stages that raise where they are made to. -/
def raisingAt (raises : OnboardStage → Option String)
    (stages : List (Stage OnboardStage OnboardContext Db String)) :
    List (Stage OnboardStage OnboardContext Db String) :=
  stages.map fun stage => stage.raising (raises stage.name)

/-- `_disable_runtime_policies`. -/
def disableRuntimePolicies (db : Db) : Db × Except String Unit :=
  match Stages.run (raisingAt call.handlerRaises (upsertRuntimePolicies service call manifest
      systemId .disableAuth .disableCrawl false false)) {} db with
  | (db, .ok _) => (db, .ok ())
  | (db, .error (_, e)) => (db, .error e)

/-- What is committed first: the system and its credential. -/
def registerSystem (db : Db) : Except String (Db × System) :=
  let registered := upsertSystem call.ids manifest.system db.systems
  match upsertSystemCredentials call.ids service.encrypt registered.2.id manifest.credential
      db.systemCredentials with
  | .error e => .error e
  | .ok credentials =>
    .ok ({ db with systems := registered.1, systemCredentials := credentials }, registered.2)

/-- The body of the `try`, with its handler. -/
def onboardRegistered (system : System) (db : Db) :
    Db × Except (OnboardStage × String) OnboardContext :=
  Stages.compensate
    (raisingAt call.raises
      (preparing service call manifest system.id ++ publishing service call manifest system.id))
    (disableRuntimePolicies service call manifest system.id) {} db

def onboardResult (system : System) (c : OnboardContext) : OnboardSystemResult where
  systemId := system.id
  systemCode := system.code
  pageCheckId := c.pageCheckId
  publishedJobId := c.publishedJobId

/-- `onboard_system`; a raise carries the stage it came from. -/
def onboardSystem (db : Db) : Db × Except (OnboardStage × String) OnboardSystemResult :=
  match registerSystem service call manifest db with
  | .error e => (db, .error (.register, e))
  | .ok (registered, system) =>
    ((onboardRegistered service call manifest system registered).1,
      (onboardRegistered service call manifest system registered).2.map (onboardResult system))

end Pipeline

end SystemAdmin

end Runlet
