import Runlet.Jobs.RunCheckJob
import Runlet.Library.Query

/-!
# Realtime probes

`RunnerService.run_realtime_probe` of `runner_service/service.py`: the plan of a probe is read, its
system, a login state and its page asset are looked up, and the four steps of the page probe are
executed.  A plan without a system or without a page asset ends in a resolution failure: a failed
run is recorded, and nothing is executed.

The module executor, with the browser behind it, is a parameter (`ProbeRuntime`).
-/

namespace Runlet

open KeyedTable RowQuery

inductive FailureCategory where
  | systemNotFound
  | pageOrMenuNotResolved
  | elementAssetMissing
  | authBlocked
  | navigationFailed
  | pageNotReady
  | assertionFailed
  | runtimeError
  deriving DecidableEq, Repr

def FailureCategory.value : FailureCategory → String
  | .systemNotFound => "system_not_found"
  | .pageOrMenuNotResolved => "page_or_menu_not_resolved"
  | .elementAssetMissing => "element_asset_missing"
  | .authBlocked => "auth_blocked"
  | .navigationFailed => "navigation_failed"
  | .pageNotReady => "page_not_ready"
  | .assertionFailed => "assertion_failed"
  | .runtimeError => "runtime_error"

def FailureCategory.all : List FailureCategory :=
  [.systemNotFound, .pageOrMenuNotResolved, .elementAssetMissing, .authBlocked, .navigationFailed,
    .pageNotReady, .assertionFailed, .runtimeError]

/-- `FailureCategory(text)`. -/
def FailureCategory.ofValue (text : String) : Option FailureCategory :=
  FailureCategory.all.find? fun category => category.value = text

inductive RunnerRunStatus where
  | running
  | passed
  | failed
  deriving DecidableEq, Repr

def RunnerRunStatus.value : RunnerRunStatus → String
  | .running => "running"
  | .passed => "passed"
  | .failed => "failed"

inductive AuthInjectStatus where
  | reused
  | refreshed
  | blocked
  deriving DecidableEq, Repr

def AuthInjectStatus.value : AuthInjectStatus → String
  | .reused => "reused"
  | .refreshed => "refreshed"
  | .blocked => "blocked"

structure StepExecutionResult where
  module : String
  status : RunnerRunStatus
  detail : Option String := none
  output : Option Json := none

structure ModuleExecutionResult where
  status : RunnerRunStatus
  authStatus : AuthInjectStatus
  stepResults : List StepExecutionResult

/-- How the module executor ends: with a result, or with an exception after some steps. -/
inductive ModuleExecution where
  | finished (result : ModuleExecutionResult)
  | raised (message : String) (stepResults : List StepExecutionResult)

/-- The steps that were performed. -/
def ModuleExecution.performed : ModuleExecution → List StepExecutionResult
  | .finished result => result.stepResults
  | .raised _ steps => steps

/-- The executor of steps under a login state, and whether a screenshot was taken and saved. -/
structure ProbeRuntime where
  execute : List Json → Json → ModuleExecution
  screenshotSaved : Bool

/-- A probe: how the call ended, and the steps performed against the system. -/
structure ProbeRun where
  called : Called RunPageCheckResult
  performed : List StepExecutionResult

namespace RealtimeProbe

/-! ## Failure categories -/

def failureCategoryForModule (module : String) : FailureCategory :=
  if module = "nav.menu_chain" then .navigationFailed
  else if module = "page.wait_ready" then .pageNotReady
  else if module = "locator.assert" then .assertionFailed
  else if Text.startsWith "assert." module then .assertionFailed
  else .runtimeError

/-- The category that a failed step names itself. -/
def namedCategory (step : StepExecutionResult) : Option FailureCategory :=
  match step.output.bind fun output => output.get? "failure_category" with
  | some (.str text) => FailureCategory.ofValue text
  | _ => none

/-- `_resolve_failure_category`. -/
def resolveFailureCategory (result : ModuleExecutionResult) : Option FailureCategory :=
  if result.status = .passed then none
  else
    match result.stepResults.find? fun step => step.status = .failed with
    | some step => some ((namedCategory step).getD (failureCategoryForModule step.module))
    | none => if result.authStatus = .blocked then some .authBlocked else some .runtimeError

/-! ## The steps of a probe -/

def probeStep (module : String) (params : List (String × Json)) : Json :=
  .obj [("module", .str module), ("params", .obj params)]

/-- `_build_page_probe_plan`. -/
def buildPageProbePlan (routePath : String) : List Json :=
  [probeStep "auth.inject_state" [("policy", .str "server_injected")],
    probeStep "nav.menu_chain" [("menu_chain", .arr []), ("route_path", .str routePath)],
    probeStep "assert.page_open" [("route_path", .str routePath)],
    probeStep "page.wait_ready" [("route_path", .str routePath)]]

/-! ## Login states -/

/-- The latest validation first; a state that was never validated comes before them. -/
def authStateOrder : SortOrder AuthState :=
  (SortOrder.flagged fun state => state.validatedAt.isNone).andThen
    ((SortOrder.descending fun state => state.validatedAt.getD 0).andThen
      (SortOrder.descending fun state => state.id))

/-- `_load_valid_auth_state`. -/
def loadValidAuthState (systemId : UUID) (db : Db) : Option AuthState :=
  firstBy authStateOrder
    (db.authStates.select fun state =>
      state.systemId = systemId && state.status = "valid" && state.isValid)

/-! ## Recording -/

section Record

variable (ids : IdSource) (now : DateTime)

def stepView (step : StepExecutionResult) : StepResult where
  status := some step.status.value
  detail := step.detail

def moduleExecutionRow (runId id : UUID) : ExecutionArtifact where
  id := id
  executionRunId := runId
  artifactKind := "module_execution"

def screenshotRow (runId id : UUID) : ExecutionArtifact where
  id := id
  executionRunId := runId
  artifactKind := "screenshot"

/-- A failed run of a plan that could not be resolved. -/
def failedRunRow (planId : UUID) (category : FailureCategory) (assetVersion : Option String)
    (id : UUID) : ExecutionRun where
  id := id
  executionPlanId := planId
  status := RunnerRunStatus.failed.value
  authStatus := some AuthInjectStatus.blocked.value
  failureCategory := some category.value
  assetVersion := assetVersion
  createdAt := now

/-- The database with a run and an artifact of it. -/
def recordFailure (planId : UUID) (category : FailureCategory) (assetVersion : Option String)
    (db : Db) : Db :=
  { db with
    executionRuns := db.executionRuns.insert ids (failedRunRow now planId category assetVersion)
    executionArtifacts :=
      db.executionArtifacts.insert ids (moduleExecutionRow (db.executionRuns.nextKey ids)) }

/-- `_create_realtime_probe_resolution_failure`. -/
def createResolutionFailure (plan : ExecutionPlan) (category : FailureCategory) (detail : String)
    (assetVersion : Option String) (db : Db) : ProbeRun :=
  let recorded := recordFailure ids now plan.id category assetVersion db
  { called :=
      { outcome := .returned
          { pageCheckId := plan.resolvedPageCheckId
            executionRunId := db.executionRuns.nextKey ids
            status := RunnerRunStatus.failed.value
            authStatus := AuthInjectStatus.blocked.value
            artifactIds := [db.executionArtifacts.nextKey ids]
            stepResults := [⟨some RunnerRunStatus.failed.value, some detail⟩]
            failureCategory := some category.value }
        session := recorded
        committed := recorded }
    performed := [] }

/-- The run of a probe, while it is under way. -/
def runningRunRow (planId : UUID) (assetVersion : String) (id : UUID) : ExecutionRun where
  id := id
  executionPlanId := planId
  status := RunnerRunStatus.running.value
  assetVersion := some assetVersion
  createdAt := now

def finishedRun (result : ModuleExecutionResult) (run : ExecutionRun) : ExecutionRun :=
  { run with
    status := result.status.value
    authStatus := some result.authStatus.value
    failureCategory := (resolveFailureCategory result).map FailureCategory.value }

/-- The row of a run after its execution. -/
def finishRun (runId : UUID) (result : ModuleExecutionResult) (db : Db) : Db :=
  { db with
    executionRuns := db.executionRuns.update (fun run => run.id = runId) (finishedRun result) }

/-- The artifacts of an execution: the module execution, and the screenshot when there is one. -/
def recordArtifacts (runId : UUID) (screenshotSaved : Bool) (db : Db) : Db × List UUID :=
  let first := db.executionArtifacts.nextKey ids
  let recorded :=
    { db with
      executionArtifacts := db.executionArtifacts.insert ids (moduleExecutionRow runId) }
  if screenshotSaved then
    ({ recorded with
        executionArtifacts := recorded.executionArtifacts.insert ids (screenshotRow runId) },
      [first, recorded.executionArtifacts.nextKey ids])
  else (recorded, [first])

/-- The run row with the result of the execution, and its artifacts. -/
def recordExecution (plan : ExecutionPlan) (runId : UUID) (result : ModuleExecutionResult)
    (screenshotSaved : Bool) (db : Db) : ProbeRun :=
  let (recorded, artifactIds) :=
    recordArtifacts ids runId screenshotSaved (finishRun runId result db)
  { called :=
      { outcome := .returned
          { pageCheckId := plan.resolvedPageCheckId
            executionRunId := runId
            status := result.status.value
            authStatus := result.authStatus.value
            artifactIds := artifactIds
            stepResults := result.stepResults.map stepView
            failureCategory := (resolveFailureCategory result).map FailureCategory.value }
        session := recorded
        committed := recorded }
    performed := result.stepResults }

/-- A call that raised before it wrote anything. -/
def raisedRun (message : String) (db : Db) : ProbeRun where
  called := { outcome := .raised message, session := db, committed := db }
  performed := []

end Record

/-! ## The probe -/

section Probe

variable (runtime : ProbeRuntime) (ids : IdSource) (now : DateTime)

/-- Execute the steps on a page; a raise of the executor leaves the run uncommitted. -/
def probePage (plan : ExecutionPlan) (asset : PageAsset) (page : Page) (storageState : Json)
    (db : Db) : ProbeRun :=
  let runId := db.executionRuns.nextKey ids
  let started :=
    { db with
      executionRuns := db.executionRuns.insert ids (runningRunRow now plan.id asset.assetVersion) }
  match runtime.execute (buildPageProbePlan page.routePath) storageState with
  | .finished result => recordExecution ids plan runId result runtime.screenshotSaved started
  | .raised message steps =>
    { called := { outcome := .raised message, session := started, committed := db }
      performed := steps }

/-- The page of a plan whose system has a login state. -/
def probeAsset (plan : ExecutionPlan) (storageState : Json) (db : Db) : ProbeRun :=
  match plan.resolvedPageAssetId with
  | none =>
    createResolutionFailure ids now plan .pageOrMenuNotResolved
      "page asset is not resolved in realtime probe execution plan" none db
  | some assetId =>
    match db.pageAssets.get? assetId with
    | none =>
      createResolutionFailure ids now plan .pageOrMenuNotResolved
        s!"page asset {UUID.text assetId} not found" none db
    | some asset =>
      match db.pages.get? asset.pageId with
      | none =>
        createResolutionFailure ids now plan .pageOrMenuNotResolved
          s!"page {UUID.text asset.pageId} not found" (some asset.assetVersion) db
      | some page => probePage runtime ids now plan asset page storageState db

/-- The system of a plan. -/
def probeSystem (plan : ExecutionPlan) (db : Db) : ProbeRun :=
  match plan.resolvedSystemId with
  | none =>
    createResolutionFailure ids now plan .systemNotFound
      "system is not resolved in realtime probe execution plan" none db
  | some systemId =>
    match db.systems.get? systemId with
    | none =>
      createResolutionFailure ids now plan .systemNotFound
        s!"system {UUID.text systemId} not found" none db
    | some system =>
      match (loadValidAuthState system.id db).bind AuthState.storageState with
      | none => raisedRun s!"valid auth state not found for system {UUID.text system.id}" db
      | some storageState => probeAsset runtime ids now plan storageState db

/-- `run_realtime_probe`. -/
def runRealtimeProbe (planId : UUID) (db : Db) : ProbeRun :=
  match db.executionPlans.get? planId with
  | none => raisedRun s!"execution plan {UUID.text planId} not found" db
  | some plan =>
    if plan.executionTrack ≠ "realtime_probe" then
      raisedRun s!"execution plan {UUID.text planId} is not realtime_probe" db
    else
      match db.executionRequests.get? plan.executionRequestId with
      | none => raisedRun s!"execution request {UUID.text plan.executionRequestId} not found" db
      | some _ => probeSystem runtime ids now plan db

variable {runtime ids now}

/-- A plan without a page asset ends in a failure, and nothing is performed. -/
theorem probeAsset_of_unresolved {plan : ExecutionPlan} (h : plan.resolvedPageAssetId = none)
    (storageState : Json) (db : Db) :
    probeAsset runtime ids now plan storageState db =
      createResolutionFailure ids now plan .pageOrMenuNotResolved
        "page asset is not resolved in realtime probe execution plan" none db := by
  unfold probeAsset
  rw [h]

variable (runtime ids now) in
/-- Where the plan, its request, its system and a login state are there, the page asset decides. -/
theorem runRealtimeProbe_eq {plan : ExecutionPlan} {request : ExecutionRequest} {system : System}
    {storageState : Json} {db : Db} (hplan : plan ∈ db.executionPlans)
    (htrack : plan.executionTrack = "realtime_probe") (hrequest : request ∈ db.executionRequests)
    (hrequestId : plan.executionRequestId = request.id) (hsystem : system ∈ db.systems)
    (hsystemId : plan.resolvedSystemId = some system.id)
    (hauth : (loadValidAuthState system.id db).bind AuthState.storageState = some storageState) :
    runRealtimeProbe runtime ids now plan.id db =
      probeAsset runtime ids now plan storageState db := by
  have hplan' : db.executionPlans.get? plan.id = some plan := Table.get?_key hplan
  have hrequest' : db.executionRequests.get? plan.executionRequestId = some request := by
    rw [hrequestId]
    exact Table.get?_key hrequest
  have hsystem' : db.systems.get? system.id = some system := Table.get?_key hsystem
  unfold runRealtimeProbe
  rw [hplan']
  simp only
  rw [if_neg (not_not.mpr htrack), hrequest']
  simp only
  unfold probeSystem
  rw [hsystemId]
  simp only
  rw [hsystem']
  simp only
  rw [hauth]

/-- A probe leaves the rows of the queue and of the job runs alone. -/
theorem runRealtimeProbe_keepsJobs (planId : UUID) (db : Db) :
    (runRealtimeProbe runtime ids now planId db).called.KeepsJobs db := by
  have hfailure : ∀ plan category detail assetVersion,
      (createResolutionFailure ids now plan category detail assetVersion db).called.KeepsJobs db :=
    fun _ _ _ _ => ⟨rfl, rfl, rfl, rfl⟩
  have hraised : ∀ message, (raisedRun message db).called.KeepsJobs db :=
    fun _ => ⟨rfl, rfl, rfl, rfl⟩
  unfold runRealtimeProbe
  split
  · exact hraised _
  · split
    · exact hraised _
    · split
      · exact hraised _
      · unfold probeSystem
        split
        · exact hfailure _ _ _ _
        · split
          · exact hfailure _ _ _ _
          · split
            · exact hraised _
            · unfold probeAsset
              split
              · exact hfailure _ _ _ _
              · split
                · exact hfailure _ _ _ _
                · split
                  · exact hfailure _ _ _ _
                  · unfold probePage
                    simp only
                    split
                    · unfold recordExecution recordArtifacts
                      cases runtime.screenshotSaved <;> exact ⟨rfl, rfl, rfl, rfl⟩
                    · exact ⟨rfl, rfl, rfl, rfl⟩

end Probe

end RealtimeProbe

end Runlet
