import Runlet.ControlPlane.SystemAdmin
import Runlet.Jobs.AssetCompileJobSpec
import Runlet.Jobs.AuthRefreshJob
import Runlet.Workers.Runner

/-!
# The in-process executor

`system_admin_bootstrap.py`: the service an operator gets runs its jobs by the handlers of the
worker, in its own process.  The handlers of the three jobs leave the administration of the systems
alone, so the in-process executor is one.
-/

namespace Runlet

open KeyedTable

namespace LeavesAdministration

variable {db db' : Db}

theorem refl (db : Db) : LeavesAdministration db db :=
  ⟨rfl, rfl, rfl, rfl, rfl⟩

theorem trans {db'' : Db} (h : LeavesAdministration db db')
    (h' : LeavesAdministration db' db'') : LeavesAdministration db db'' :=
  ⟨h'.systems.trans h.systems, h'.systemCredentials.trans h.systemCredentials,
    h'.systemAuthPolicies.trans h.systemAuthPolicies,
    h'.systemCrawlPolicies.trans h.systemCrawlPolicies, h'.publishedJobs.trans h.publishedJobs⟩

/-- Tables that are left as they are. -/
theorem of_tables (hsystems : db'.systems = db.systems)
    (hcredentials : db'.systemCredentials = db.systemCredentials)
    (hauth : db'.systemAuthPolicies = db.systemAuthPolicies)
    (hcrawl : db'.systemCrawlPolicies = db.systemCrawlPolicies)
    (hjobs : db'.publishedJobs = db.publishedJobs) : LeavesAdministration db db' :=
  ⟨hsystems, hcredentials, hauth, hcrawl, by rw [hjobs]⟩

end LeavesAdministration

/-! ## The handlers -/

section Handlers

variable (ids : IdSource) (now : DateTime) (jobId : UUID) (db : Db)

theorem leavesAdministration_authRefresh (authService : AuthService) :
    LeavesAdministration db (AuthRefreshJob.run authService now jobId db).1 := by
  have houtside := AuthRefreshJob.outsideRefresh_run authService now jobId db
  have hsystems := congrArg Db.systems houtside
  have hcredentials := congrArg Db.systemCredentials houtside
  have hauth := congrArg Db.systemAuthPolicies houtside
  have hcrawl := congrArg Db.systemCrawlPolicies houtside
  have hjobs := congrArg Db.publishedJobs houtside
  exact .of_tables hsystems hcredentials hauth hcrawl hjobs

theorem leavesAdministration_crawl (attempt : CrawlAttempt) :
    LeavesAdministration db (CrawlJob.run attempt ids now jobId db).1 := by
  have houtside := CrawlJob.outsideCrawl_run ids now jobId db attempt
  have hsystems := congrArg Db.systems houtside
  have hcredentials := congrArg Db.systemCredentials houtside
  have hauth := congrArg Db.systemAuthPolicies houtside
  have hcrawl := congrArg Db.systemCrawlPolicies houtside
  have hjobs := congrArg Db.publishedJobs houtside
  exact .of_tables hsystems hcredentials hauth hcrawl hjobs

theorem leavesAdministration_compileSnapshot {snapshotId : UUID} {compiled : Db}
    {result : CompileSnapshotResult}
    (h : AssetCompiler.compileSnapshot ids now snapshotId db = .ok (compiled, result)) :
    LeavesAdministration db compiled := by
  obtain ⟨snapshot, system, -, -, hcase⟩ := AssetCompiler.compileSnapshot_cases h
  have hswitched : ∀ switched, CurrentStateSwitch.SwitchCase ids now db snapshot switched →
      LeavesAdministration db switched.db := by
    intro switched hswitch
    have houtside := hswitch.outsideSwitch_eq hswitch.db_mem
    have hsystems := congrArg Db.systems houtside
    have hcredentials := congrArg Db.systemCredentials houtside
    have hauth := congrArg Db.systemAuthPolicies houtside
    have hcrawl := congrArg Db.systemCrawlPolicies houtside
    have hjobs := congrArg Db.publishedJobs houtside
    exact .of_tables hsystems hcredentials hauth hcrawl hjobs
  cases hcase with
  | skipped switched hswitch => exact hswitched switched hswitch
  | promoted switched hswitch =>
    have houtside := AssetCompiler.outsideCompile_compilePromoted
      (AssetCompiler.compileContext ids now system snapshot switched.db) .promoted switched.db
    have hsystems := congrArg Db.systems houtside
    have hcredentials := congrArg Db.systemCredentials houtside
    have hauth := congrArg Db.systemAuthPolicies houtside
    have hcrawl := congrArg Db.systemCrawlPolicies houtside
    have hjobs := congrArg Db.publishedJobs houtside
    exact (hswitched switched hswitch).trans (.of_tables hsystems hcredentials hauth hcrawl hjobs)

/-- The cascades pause and resume jobs; they neither add nor remove one. -/
theorem leavesAdministration_cascadedDb (service : ControlPlaneService)
    (result : CompileSnapshotResult) :
    LeavesAdministration db (ControlPlane.cascadedDb service now result db) where
  systems := rfl
  systemCredentials := rfl
  systemAuthPolicies := rfl
  systemCrawlPolicies := rfl
  publishedJobs := by
    change (ControlPlane.cascadedJobs service result db).rows.map key = _
    unfold ControlPlane.cascadedJobs
    split
    · rfl
    · exact Switch.map_key_apply

theorem leavesAdministration_assetCompile (service : Option ControlPlaneService) (faults : Faults) :
    LeavesAdministration db
      (AssetCompileJob.run (Worker.buildAssetCompileHandler (AssetCompiler.compileSnapshot ids now)
        service) now faults jobId db).1 := by
  have hjobs : ∀ {d d' : Db}, AssetCompileJob.outsideJobs d' = AssetCompileJob.outsideJobs d →
      LeavesAdministration d d' := by
    intro d d' houtside
    have hsystems := congrArg Db.systems houtside
    have hcredentials := congrArg Db.systemCredentials houtside
    have hauth := congrArg Db.systemAuthPolicies houtside
    have hcrawl := congrArg Db.systemCrawlPolicies houtside
    have hpublished := congrArg Db.publishedJobs houtside
    exact .of_tables hsystems hcredentials hauth hcrawl hpublished
  have hrunning : LeavesAdministration db (AssetCompileJob.markRunning now jobId db) :=
    .of_tables rfl rfl rfl rfl rfl
  cases AssetCompileJob.runCase
    (Worker.buildAssetCompileHandler (AssetCompiler.compileSnapshot ids now) service) now faults
    jobId db with
  | untouched hdb => exact hjobs hdb
  | compiled snapshotId hclaims compiled result hcompile e hcascade hdb =>
    exact (hrunning.trans (leavesAdministration_compileSnapshot ids now _ hcompile)).trans (hjobs hdb)
  | cascaded snapshotId hclaims compiled result hcompile cascaded applied hcascade hdb =>
    have hcompiled := hrunning.trans (leavesAdministration_compileSnapshot ids now _ hcompile)
    rcases (AssetCompileJob.cascade_eq_ok hcascade).2 with ⟨-, rfl⟩ | ⟨controlPlane, -, rfl⟩
    · exact hcompiled.trans (hjobs hdb)
    · exact (hcompiled.trans (leavesAdministration_cascadedDb now compiled controlPlane
        result)).trans (hjobs hdb)

end Handlers

/-! ## The service -/

/-- What the handlers meet outside the program: the logins, the crawl, and where a compile raises. -/
structure JobEnvironment where
  authService : AuthService
  crawl : UUID → CrawlAttempt
  faults : UUID → Faults := fun _ => {}

/-- `InProcessFormalJobExecutor`, with the handlers of `build_worker_handlers`. -/
def inProcessFormalJobExecutor (env : JobEnvironment) (ids : IdSource) (now : DateTime)
    (controlPlaneService : ControlPlaneService) : FormalJobExecutor where
  runAuthRefresh := AuthRefreshJob.run env.authService now
  runCrawl jobId := CrawlJob.run (env.crawl jobId) ids now jobId
  runAssetCompile jobId :=
    AssetCompileJob.run (Worker.buildAssetCompileHandler (AssetCompiler.compileSnapshot ids now)
      (some controlPlaneService)) now (env.faults jobId) jobId
  leaves_runAuthRefresh jobId db := leavesAdministration_authRefresh now jobId db env.authService
  leaves_runCrawl jobId db := leavesAdministration_crawl ids now jobId db (env.crawl jobId)
  leaves_runAssetCompile jobId db :=
    leavesAdministration_assetCompile ids now jobId db (some controlPlaneService) (env.faults jobId)

/-- `build_system_admin_service`. -/
def buildSystemAdminService (env : JobEnvironment) (ids : IdSource) (now : DateTime)
    (encrypt : String → String) (cronParses : String → Bool) : SystemAdminService :=
  let controlPlaneService : ControlPlaneService :=
    { publishedJobService := some ⟨cronParses⟩, scriptRenderer := true }
  { controlPlaneService := controlPlaneService
    jobExecutor := inProcessFormalJobExecutor env ids now controlPlaneService
    encrypt := encrypt
    cronParses := cronParses }

/-! ## A system to onboard -/

namespace OnboardingSample

theorem hourly_nonempty : "0 * * * *" ≠ "" := by decide +kernel

theorem strip_pageOpen : Text.strip "page_open" = "page_open" := by decide +kernel

theorem pageOpen_nonempty : "page_open" ≠ "" := by decide +kernel

def manifest : WebSystemManifest where
  system :=
    { code := ⟨"erp", by decide +kernel, by decide +kernel⟩
      name := ⟨"ERP", by decide +kernel, by decide +kernel⟩
      baseUrl := ⟨"https://erp.example.com", by decide +kernel, by decide +kernel⟩
      frameworkType := ⟨"vue", by decide +kernel, by decide +kernel⟩ }
  credential :=
    { loginUrl := ⟨"https://erp.example.com/login", by decide +kernel, by decide +kernel⟩
      username := ⟨"admin", by decide +kernel, by decide +kernel⟩
      password := ⟨"secret", by decide +kernel, by decide +kernel⟩
      authType := ⟨"none", by decide +kernel, by decide +kernel⟩ }
  authPolicy :=
    { scheduleExpr := ⟨"0 * * * *", by decide +kernel, hourly_nonempty⟩
      authMode := ⟨"none", by decide +kernel, by decide +kernel⟩ }
  crawlPolicy := { scheduleExpr := ⟨"0 2 * * *", by decide +kernel, by decide +kernel⟩ }
  publish :=
    { checkGoal := ⟨"page_open", strip_pageOpen, pageOpen_nonempty⟩
      scheduleExpr := ⟨"*/5 * * * *", by decide +kernel, by decide +kernel⟩ }

/-- Every login succeeds, and every crawl finds one page. -/
def environment : JobEnvironment where
  authService := ⟨fun _ db => (db.authStates, .ok { status := "success" })⟩
  crawl _ :=
    .extracted
      { qualityScore := some 1
        pages := [{ routePath := "/orders", pageTitle := some "Orders" }] }
      none

/-- Keys with different first digits, of which the key of a published job is made. -/
def ids : IdSource where
  draw used := IdSource.ascending.draw (used.map (· / 16 ^ 20)) * 16 ^ 20
  draw_notMem used h :=
    IdSource.ascending.draw_notMem (used.map (· / 16 ^ 20))
      (List.mem_map.mpr ⟨_, h, Nat.mul_div_cancel _ (by decide)⟩)

def service : SystemAdminService :=
  buildSystemAdminService environment ids 0 id fun _ => true

/-- A call in which nothing raises. -/
def undisturbed : OnboardCall where
  ids := ids
  now := 0

/-- A call that raises in a stage. -/
def raisingIn (stage : OnboardStage) : OnboardCall where
  ids := ids
  now := 0
  raises other := if other = stage then some "connection lost" else none

end OnboardingSample

end Runlet
