import Runlet.RunnerService.ModuleExecutor

/-!
# Running a page check

`RunnerService.run_page_check` of `runner_service/service.py`: the check and its module plan are
read, then the page asset with its page, its system and a login state; a retired check or asset ends
the call before anything is written.  A run is recorded, the module executor carries out the plan,
and the run is closed with the category of the first failed step.

Other sessions commit while the call is under way (`AttemptWorld`): before the check is read, before
the asset is read, and while the steps are carried out.
-/

namespace Runlet

open KeyedTable

/-- The rows that a session at work on a job relies on. -/
structure SameWork (db db' : Db) : Prop where
  queuedJobs : db'.queuedJobs = db.queuedJobs
  jobRuns : db'.jobRuns = db.jobRuns
  executionRuns : db'.executionRuns = db.executionRuns

/-- What other sessions commit: assets and checks may be retired or reactivated, the rows of the
queue, of the job runs and of the execution runs are left alone. -/
structure OtherCommit where
  apply : Db → Db
  sameWork : ∀ db, SameWork db (apply db)

def OtherCommit.none : OtherCommit where
  apply := id
  sameWork := fun _ => ⟨rfl, rfl, rfl⟩

/-- What an attempt meets: the browser, and the other sessions. -/
structure AttemptWorld where
  runtime : RunnerRuntime
  /-- `set_base_url` and `close` of the runtime may raise. -/
  configure : Except String Unit := .ok ()
  close : Except String Unit := .ok ()
  screenshotSaved : Bool := false
  beforeCheck : OtherCommit := .none
  beforeAsset : OtherCommit := .none
  beforeWrite : OtherCommit := .none

/-- A call: how it ended, and the execution when the module executor was started. -/
structure PageCheckRun where
  called : Called RunPageCheckResult
  execution : Option (List RuntimeCall × ModuleExecutionResult)

namespace PageChecks

/-! ## Reading -/

/-- `_retirement_failure_message` of the runner. -/
def retirementFailureMessage (status : AssetLifecycleStatus) : Option String :=
  if status = .active then none else some "asset_retired_missing"

/-- The check and its module plan. -/
def readCheck (checkId : Option UUID) (db : Db) :
    Except (CallEnd RunPageCheckResult) (PageCheck × ModulePlan) :=
  let shown := (checkId.map UUID.text).getD "None"
  match checkId.bind db.pageChecks.get? with
  | none => .error (.raised ("page check " ++ shown ++ " not found"))
  | some check =>
    match retirementFailureMessage check.lifecycleStatus with
    | some reason => .error (.blocked reason)
    | none =>
      match check.modulePlanId with
      | none => .error (.raised ("page check " ++ shown ++ " has no module plan"))
      | some planId =>
        match db.modulePlans.get? planId with
        | none => .error (.raised ("module plan " ++ UUID.text planId ++ " not found"))
        | some plan => .ok (check, plan)

/-- The asset of a check. -/
def readAsset (check : PageCheck) (db : Db) :
    Except (CallEnd RunPageCheckResult) PageAsset :=
  match db.pageAssets.get? check.pageAssetId with
  | none => .error (.raised ("page asset " ++ UUID.text check.pageAssetId ++ " not found"))
  | some asset =>
    match retirementFailureMessage asset.lifecycleStatus with
    | some reason => .error (.blocked reason)
    | none => .ok asset

/-- The system of an asset whose page is there, and the login state to run under. -/
def readSystem (asset : PageAsset) (db : Db) :
    Except (CallEnd RunPageCheckResult) (System × Json) :=
  match db.pages.get? asset.pageId with
  | none => .error (.raised ("page " ++ UUID.text asset.pageId ++ " not found"))
  | some _ =>
    match db.systems.get? asset.systemId with
    | none => .error (.raised ("system " ++ UUID.text asset.systemId ++ " not found"))
    | some system =>
      match (RealtimeProbe.loadValidAuthState system.id db).bind AuthState.storageState with
      | none =>
        .error (.raised ("valid auth state not found for system " ++ UUID.text system.id))
      | some storageState => .ok (system, storageState)

/-! ## Writing -/

section

variable (ids : IdSource) (now : DateTime)

def requestRow (check : PageCheck) (asset : PageAsset) (system : System) (id : UUID) :
    ExecutionRequest where
  id := id
  requestSource := "runner_service"
  systemHint := system.code
  pageHint := some asset.assetKey
  checkGoal := check.goal

def planRow (check : PageCheck) (asset : PageAsset) (system : System) (modulePlan : ModulePlan)
    (requestId id : UUID) : ExecutionPlan where
  id := id
  executionRequestId := requestId
  resolvedSystemId := some system.id
  resolvedPageAssetId := some asset.id
  resolvedPageCheckId := some check.id
  executionTrack := "precompiled"
  authPolicy := "server_injected"
  modulePlanId := some modulePlan.id

/-- `_resolve_execution_plan`: the plan that was named, or a new one. -/
def resolveExecutionPlan (planId : Option UUID) (check : PageCheck) (asset : PageAsset)
    (system : System) (modulePlan : ModulePlan) (db : Db) : Except String (UUID × Db) :=
  match planId with
  | some planId =>
    match db.executionPlans.get? planId with
    | none => .error ("execution plan " ++ UUID.text planId ++ " not found")
    | some plan => .ok (plan.id, db)
  | none =>
    let requestId := db.executionRequests.nextKey ids
    .ok (db.executionPlans.nextKey ids,
      { db with
        executionRequests := db.executionRequests.insert ids (requestRow check asset system)
        executionPlans :=
          db.executionPlans.insert ids (planRow check asset system modulePlan requestId) })

/-- The result of a check, by the result of the executor. -/
def resultOf (check : PageCheck) (runId : UUID) (artifactIds : List UUID)
    (result : ModuleExecutionResult) : RunPageCheckResult where
  pageCheckId := some check.id
  executionRunId := runId
  status := result.status.value
  authStatus := result.authStatus.value
  artifactIds := artifactIds
  stepResults := result.stepResults.map RealtimeProbe.stepView
  failureCategory := (RealtimeProbe.resolveFailureCategory result).map FailureCategory.value

/-- The run with the result of the execution, and its artifacts. -/
def recordExecution (check : PageCheck) (runId : UUID) (result : ModuleExecutionResult)
    (screenshotSaved : Bool) (db : Db) : Called RunPageCheckResult :=
  let recorded := RealtimeProbe.recordArtifacts ids runId screenshotSaved
    (RealtimeProbe.finishRun runId result db)
  { outcome := .returned (resultOf check runId recorded.2 result)
    session := recorded.1
    committed := recorded.1 }

/-! ## The call -/

/-- A call that ended before anything was written. -/
def ended (outcome : CallEnd RunPageCheckResult) (db : Db) : PageCheckRun where
  called := { outcome := outcome, session := db, committed := db }
  execution := none

/-- A call that raised with rows that are not committed. -/
def raisedAfter (message : String) (session committed : Db) : Called RunPageCheckResult where
  outcome := .raised message
  session := session
  committed := committed

/-- The steps are carried out, and the run is recorded. -/
def execute (world : AttemptWorld) (inputs : Option Json) (check : PageCheck) (asset : PageAsset)
    (modulePlan : ModulePlan) (planId : UUID) (session committed : Db) : PageCheckRun :=
  let runId := session.executionRuns.nextKey ids
  let started :=
    { session with
      executionRuns := session.executionRuns.insert ids
        (RealtimeProbe.runningRunRow now planId asset.assetVersion) }
  match world.configure with
  | .error message => ⟨raisedAfter message started committed, none⟩
  | .ok () =>
    let execution := ModuleExecutor.execute world.runtime (ModuleExecutor.coerceParams inputs)
      modulePlan.stepsJson
    match world.close with
    | .error message => ⟨raisedAfter message started committed, some execution⟩
    | .ok () =>
      ⟨recordExecution ids check runId execution.2 world.screenshotSaved started, some execution⟩

/-- After the check was read: the asset, the system, the plan. -/
def runRead (world : AttemptWorld) (executionPlanId : Option UUID) (inputs : Option Json)
    (check : PageCheck) (modulePlan : ModulePlan) (db : Db) : PageCheckRun :=
  match readAsset check db with
  | .error outcome => ended outcome db
  | .ok asset =>
    match readSystem asset db with
    | .error outcome => ended outcome db
    | .ok (system, _) =>
      let db := world.beforeWrite.apply db
      match resolveExecutionPlan ids executionPlanId check asset system modulePlan db with
      | .error message => ended (.raised message) db
      | .ok (planId, session) =>
        execute ids now world inputs check asset modulePlan planId session db

/-- `run_page_check`. -/
def runPageCheck (world : AttemptWorld) (checkId executionPlanId : Option UUID)
    (inputs : Option Json) (db : Db) : PageCheckRun :=
  let db := world.beforeCheck.apply db
  match readCheck checkId db with
  | .error outcome => ended outcome db
  | .ok (check, modulePlan) =>
    runRead ids now world executionPlanId inputs check modulePlan (world.beforeAsset.apply db)

end

/-! ## The rows of the job -/

/-- The rows of the jobs are those of a database. -/
structure JobsOf (db session : Db) : Prop where
  queuedJobs : session.queuedJobs = db.queuedJobs
  jobRuns : session.jobRuns = db.jobRuns

theorem OtherCommit.jobsOf (commit : OtherCommit) {db db' : Db} (h : JobsOf db db') :
    JobsOf db (commit.apply db') :=
  ⟨(commit.sameWork db').queuedJobs.trans h.queuedJobs,
    (commit.sameWork db').jobRuns.trans h.jobRuns⟩

theorem keepsJobs_of_jobsOf {called : Called RunPageCheckResult} {db : Db}
    (hsession : JobsOf db called.session) (hcommitted : JobsOf db called.committed) :
    called.KeepsJobs db :=
  ⟨hsession.queuedJobs, hsession.jobRuns, hcommitted.queuedJobs, hcommitted.jobRuns⟩

section

variable {ids : IdSource} {now : DateTime} {world : AttemptWorld} {inputs : Option Json}
  {check : PageCheck} {asset : PageAsset} {modulePlan : ModulePlan}

theorem keepsJobs_ended {outcome : CallEnd RunPageCheckResult} {db db' : Db} (h : JobsOf db db') :
    (ended outcome db').called.KeepsJobs db :=
  keepsJobs_of_jobsOf h h

theorem jobsOf_recordExecution {runId : UUID} {result : ModuleExecutionResult}
    {screenshotSaved : Bool} {db db' : Db} (h : JobsOf db db') :
    (recordExecution ids check runId result screenshotSaved db').KeepsJobs db := by
  unfold recordExecution RealtimeProbe.recordArtifacts
  cases screenshotSaved <;> exact keepsJobs_of_jobsOf ⟨h.1, h.2⟩ ⟨h.1, h.2⟩

theorem keepsJobs_execute {planId : UUID} {db session committed : Db} (hsession : JobsOf db session)
    (hcommitted : JobsOf db committed) :
    (execute ids now world inputs check asset modulePlan planId session
      committed).called.KeepsJobs db := by
  unfold execute
  dsimp only
  split
  · exact keepsJobs_of_jobsOf ⟨hsession.1, hsession.2⟩ hcommitted
  · split
    · exact keepsJobs_of_jobsOf ⟨hsession.1, hsession.2⟩ hcommitted
    · exact jobsOf_recordExecution ⟨hsession.1, hsession.2⟩

theorem jobsOf_resolveExecutionPlan {executionPlanId : Option UUID} {system : System} {db db' : Db}
    {planId : UUID} {session : Db} (hdb : JobsOf db db')
    (h : resolveExecutionPlan ids executionPlanId check asset system modulePlan db' =
      .ok (planId, session)) : JobsOf db session := by
  unfold resolveExecutionPlan at h
  split at h
  · split at h
    · exact nomatch h
    · rw [← (Prod.mk.inj (Except.ok.inj h)).2]
      exact hdb
  · rw [← (Prod.mk.inj (Except.ok.inj h)).2]
    exact ⟨hdb.1, hdb.2⟩

/-- A call leaves the rows of the queue and of the job runs alone. -/
theorem runPageCheck_keepsJobs (ids : IdSource) (now : DateTime) (world : AttemptWorld)
    (checkId executionPlanId : Option UUID) (inputs : Option Json) (db : Db) :
    (runPageCheck ids now world checkId executionPlanId inputs db).called.KeepsJobs db := by
  have hcheck : JobsOf db (world.beforeCheck.apply db) :=
    OtherCommit.jobsOf _ ⟨rfl, rfl⟩
  have hasset := OtherCommit.jobsOf world.beforeAsset hcheck
  have hwrite := OtherCommit.jobsOf world.beforeWrite hasset
  unfold runPageCheck
  dsimp only
  split
  · exact keepsJobs_ended hcheck
  · unfold runRead
    split
    · exact keepsJobs_ended hasset
    · split
      · exact keepsJobs_ended hasset
      · dsimp only
        split
        · exact keepsJobs_ended hwrite
        · rename_i hplan
          exact keepsJobs_execute (jobsOf_resolveExecutionPlan hwrite hplan) hwrite

end

/-- The handler of check jobs whose runner is the one above; every attempt meets a world of its
own. -/
def checkHandler (base : RunCheckJobHandler) (ids : IdSource) (now : DateTime)
    (world : ℕ → AttemptWorld) : RunCheckJobHandler :=
  { base with
    runPageCheck := fun attemptNo checkId planId inputs db =>
      (runPageCheck ids now (world attemptNo) checkId planId inputs db).called
    runPageCheck_keepsJobs := fun attemptNo checkId planId inputs db =>
      runPageCheck_keepsJobs ids now (world attemptNo) checkId planId inputs db }

end PageChecks

end Runlet
