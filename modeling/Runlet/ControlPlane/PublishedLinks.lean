import Runlet.AssetCompiler.LifecycleInvariant
import Runlet.ControlPlane.Cascades

/-!
# What published jobs point at

An active published job should point at a live check (an active check of an active asset), and at a
script that was rendered for that check.  Publishing the check of an execution makes sure of the
script but not of the check, and creating a job from a script makes sure of neither.  Rendering and
reconciling keep the links.

So the links hold along every run in which the two creations are asked for a live check, and the
second one for a script of that check, whenever they are going to write an active job (`Grounded`).
The invariant behind it says a little more than the links do: a job that the program paused, and
may resume, points at a script of its check too.
-/

namespace Runlet

open KeyedTable

namespace ControlPlane

open AssetCompiler
open PublishedJobs (matchesPageCheck insertable)

/-! ## The links -/

/-- The check is active, and so is its asset. -/
def IsLive (db : Db) (pageCheckId : UUID) : Prop :=
  ∃ check ∈ db.pageChecks, check.id = pageCheckId ∧ check.lifecycleStatus = .active ∧
    ∃ asset ∈ db.pageAssets, asset.id = check.pageAssetId ∧ asset.lifecycleStatus = .active

/-- The script of the job was rendered for the check of the job. -/
def HasOwnScript (db : Db) (job : PublishedJob) : Prop :=
  ∃ script ∈ db.scriptRenders, job.scriptRenderId = some script.id ∧
    matchesPageCheck script job.pageCheckId = true

/-- Every active job points at a live check and at a script of that check. -/
def JobsLinked (db : Db) : Prop :=
  ∀ job ∈ db.publishedJobs, job.state = .active →
    IsLive db job.pageCheckId ∧ HasOwnScript db job

/-- The links, and what is needed to keep them: a job that the program may resume has a script of
its check. -/
structure LinkInv (db : Db) : Prop extends LifecycleInv db where
  live : ∀ job ∈ db.publishedJobs, job.state = .active → IsLive db job.pageCheckId
  scripts : ∀ job ∈ db.publishedJobs, job.state = .active ∨ isSystemPausedJob job = true →
    HasOwnScript db job

theorem LinkInv.jobsLinked {db : Db} (h : LinkInv db) : JobsLinked db :=
  fun job hjob hactive => ⟨h.live job hjob hactive, h.scripts job hjob (Or.inl hactive)⟩

/-- A database without published jobs has all its links. -/
theorem LinkInv.of_no_jobs {db : Db} (h : LifecycleInv db) (hjobs : db.publishedJobs = .empty) :
    LinkInv db := by
  have hnone : ∀ job, job ∉ db.publishedJobs := fun job => by
    rw [hjobs]
    exact Table.notMem_empty job
  exact ⟨h, fun job hjob => absurd hjob (hnone job), fun job hjob => absurd hjob (hnone job)⟩

/-- A check that is active is live. -/
theorem isLive_of_active {db : Db} (h : LifecycleInv db) {check : PageCheck}
    (hcheck : check ∈ db.pageChecks) (hactive : check.lifecycleStatus = .active) :
    IsLive db check.id :=
  ⟨check, hcheck, rfl, hactive, h.under check hcheck hactive⟩

/-! ## Rendering -/

/-- A database without its scripts and published jobs. -/
def outsidePublishing (db : Db) : Db :=
  { db with scriptRenders := .empty, publishedJobs := .empty }

def SameMetadata (script script' : ScriptRender) : Prop :=
  script'.renderMetadata = script.renderMetadata

theorem SameMetadata.refl (script : ScriptRender) : SameMetadata script script := rfl

/-- No script is lost, and none changes its metadata. -/
def ScriptsEvolve (db db' : Db) : Prop :=
  Table.Evolves SameMetadata (fun _ => True) db.scriptRenders db'.scriptRenders

/-- What rendering does: scripts are added. -/
structure Renders (db db' : Db) : Prop where
  outside : outsidePublishing db' = outsidePublishing db
  publishedJobs : db'.publishedJobs = db.publishedJobs
  scripts : ScriptsEvolve db db'

theorem ScriptsEvolve.refl (db : Db) : ScriptsEvolve db db :=
  Table.Evolves.refl SameMetadata.refl _

theorem Renders.refl (db : Db) : Renders db db := ⟨rfl, rfl, ScriptsEvolve.refl db⟩

theorem Renders.trans {db db' db'' : Db} (h : Renders db db') (h' : Renders db' db'') :
    Renders db db'' where
  outside := h'.outside.trans h.outside
  publishedJobs := h'.publishedJobs.trans h.publishedJobs
  scripts := Table.Evolves.trans (fun _ _ _ hab hbc => hbc.trans hab) (fun _ _ _ _ => trivial)
    h.scripts h'.scripts

/-- A script of the check is found under an identifier. -/
def IsScriptOf (db : Db) (scriptRenderId pageCheckId : UUID) : Prop :=
  ∃ script ∈ db.scriptRenders, script.id = scriptRenderId ∧
    matchesPageCheck script pageCheckId = true

theorem matchesPageCheck_congr {script script' : ScriptRender} (h : SameMetadata script script')
    (pageCheckId : UUID) :
    matchesPageCheck script' pageCheckId = matchesPageCheck script pageCheckId := by
  unfold SameMetadata at h
  unfold matchesPageCheck
  rw [h]

theorem ScriptsEvolve.isScriptOf {db db' : Db} (h : ScriptsEvolve db db')
    {scriptRenderId pageCheckId : UUID} (hscript : IsScriptOf db scriptRenderId pageCheckId) :
    IsScriptOf db' scriptRenderId pageCheckId := by
  obtain ⟨script, hmem, hid, hmatches⟩ := hscript
  obtain ⟨script', hmem', hid', hmetadata⟩ := h.kept script hmem
  exact ⟨script', hmem', hid'.trans hid, (matchesPageCheck_congr hmetadata _).trans hmatches⟩

theorem hasOwnScript_iff {db : Db} {job : PublishedJob} :
    HasOwnScript db job ↔
      ∃ scriptRenderId, job.scriptRenderId = some scriptRenderId ∧
        IsScriptOf db scriptRenderId job.pageCheckId := by
  constructor
  · rintro ⟨script, hscript, hid, hmatches⟩
    exact ⟨script.id, hid, script, hscript, rfl, hmatches⟩
  · rintro ⟨scriptRenderId, hjob, script, hscript, rfl, hmatches⟩
    exact ⟨script, hscript, hjob, hmatches⟩

/-- A script of the check that is rendered. -/
theorem matchesPageCheck_renderMetadata {script : ScriptRender} {check : PageCheck}
    {asset : PageAsset} {system : System} {plan : ModulePlan} {mode : String}
    (h : script.renderMetadata =
      some (ScriptRenderer.renderMetadata check asset system plan mode)) :
    matchesPageCheck script check.id = true := by
  unfold matchesPageCheck
  rw [h]
  exact decide_eq_true rfl

theorem renderTarget_id {pageCheckId : UUID} {db : Db}
    {target : PageCheck × PageAsset × System × ModulePlan}
    (h : ScriptRenderer.renderTarget pageCheckId db = .ok target) : target.1.id = pageCheckId := by
  unfold ScriptRenderer.renderTarget at h
  cases hcheck : db.pageChecks.get? pageCheckId with
  | none =>
    rw [hcheck] at h
    cases h
  | some check =>
    rw [hcheck] at h
    dsimp only at h
    -- Whatever row is missing, the call fails; else the check is the one that was found.
    repeat' split at h
    all_goals first
      | (rw [← Except.ok.inj h]; exact Table.key_of_get? hcheck)
      | cases h

/-- **What rendering a check does.** -/
theorem renders_renderPageCheck (ids : IdSource) (now : DateTime) (pageCheckId : UUID)
    (renderMode : String) (db : Db) :
    Renders db (ScriptRenderer.renderPageCheck ids now pageCheckId renderMode db).1 ∧
      ∀ scriptRenderId,
        (ScriptRenderer.renderPageCheck ids now pageCheckId renderMode db).2 = .ok scriptRenderId →
          IsScriptOf (ScriptRenderer.renderPageCheck ids now pageCheckId renderMode db).1
            scriptRenderId pageCheckId := by
  unfold ScriptRenderer.renderPageCheck
  cases hmode : ScriptRenderer.validateRenderMode renderMode with
  | error e => exact ⟨Renders.refl db, fun _ h => by cases h⟩
  | ok mode =>
    dsimp only
    cases htarget : ScriptRenderer.renderTarget pageCheckId db with
    | error e => exact ⟨Renders.refl db, fun _ h => by cases h⟩
    | ok target =>
      obtain ⟨check, asset, system, plan⟩ := target
      have hcheck : check.id = pageCheckId := renderTarget_id htarget
      dsimp only
      refine ⟨⟨rfl, rfl, ?_⟩, ?_⟩
      · unfold ScriptsEvolve
        dsimp only
        refine Table.Evolves.insert (fun _ => rfl) SameMetadata.refl ?_
        exact trivial
      intro scriptRenderId h
      refine ⟨_, Table.mem_insert_self, Except.ok.inj h, ?_⟩
      rw [← hcheck]
      exact matchesPageCheck_renderMetadata rfl

/-- **What getting the script of an execution does**: the script is one of the check. -/
theorem renders_getOrRenderPublishedScript (ids : IdSource) (now : DateTime)
    (executionPlanId pageCheckId : UUID) (db : Db) :
    Renders db
        (PublishedJobs.getOrRenderPublishedScript ids now executionPlanId pageCheckId db).1 ∧
      ∀ scriptRenderId,
        (PublishedJobs.getOrRenderPublishedScript ids now executionPlanId pageCheckId db).2 =
            .ok scriptRenderId →
          IsScriptOf
            (PublishedJobs.getOrRenderPublishedScript ids now executionPlanId pageCheckId db).1
            scriptRenderId pageCheckId := by
  unfold PublishedJobs.getOrRenderPublishedScript
  split
  · rename_i script hscript
    refine ⟨Renders.refl db, fun scriptRenderId h => ?_⟩
    obtain ⟨hlatest, hmatches⟩ := Option.filter_eq_some_iff.mp hscript
    refine ⟨script, ?_, Except.ok.inj h, hmatches⟩
    have hmem := List.mem_of_head? hlatest
    rw [List.mem_insertionSort] at hmem
    exact (Table.mem_select.mp hmem).1
  · obtain ⟨hrenders, hok⟩ := renders_renderPageCheck ids now pageCheckId "published" db
    split
    · rename_i db' e hrender
      rw [hrender] at hrenders
      exact ⟨hrenders, fun _ h => by cases h⟩
    · rename_i db' scriptRenderId hrender
      rw [hrender] at hrenders hok
      -- The script is given its plan; its metadata stays.
      have hplan : Renders db'
          { db' with
            scriptRenders := db'.scriptRenders.update (fun script => script.id = scriptRenderId)
              fun script => { script with executionPlanId := some executionPlanId } } := by
        refine ⟨rfl, rfl, ?_⟩
        unfold ScriptsEvolve
        refine Table.Evolves.update (by intro _; rfl) fun script _ => ?_
        unfold SameMetadata Table.rewrite
        split
        · rfl
        · rfl
      refine ⟨hrenders.trans hplan, fun scriptRenderId' h => ?_⟩
      rw [← Except.ok.inj h]
      exact hplan.scripts.isScriptOf (hok scriptRenderId rfl)

/-! ## Creating -/

/-- The request is not refused, and its job is written. -/
structure IsCreated (jobs : PublishedJobService) (payload : CreatePublishedJobRequest)
    (script : ScriptRender) (db : Db) : Prop where
  cronParses : jobs.cronParses payload.scheduleExpr = true
  script_eq : db.scriptRenders.get? payload.scriptRenderId = some script
  insertable : insertable payload db = true

/-- **What creating a job does**: nothing, or the row that was asked for is written. -/
theorem createPublishedJob_cases (jobs : PublishedJobService) (ids : IdSource)
    (payload : CreatePublishedJobRequest) (db : Db) :
    (PublishedJobs.createPublishedJob jobs ids payload db).1 = db ∨
      ∃ script, IsCreated jobs payload script db ∧
        (PublishedJobs.createPublishedJob jobs ids payload db).1 =
          { db with
            publishedJobs := db.publishedJobs.insert ids
              (PublishedJobs.publishedJobRow payload script) } := by
  unfold PublishedJobs.createPublishedJob
  split
  · exact Or.inl rfl
  · rename_i hcron
    rw [Bool.not_eq_true, Bool.not_eq_false'] at hcron
    split
    · exact Or.inl rfl
    · rename_i script hscript
      split
      · exact Or.inl rfl
      · rename_i hinsert
        rw [Bool.not_eq_true, Bool.not_eq_false'] at hinsert
        exact Or.inr ⟨script, ⟨hcron, hscript, hinsert⟩, rfl⟩

section Created

variable {db : Db}

/-- Publishing leaves the assets, the checks and the snapshots. -/
theorem compiled_of_outsidePublishing {db' : Db}
    (houtside : outsidePublishing db' = outsidePublishing db) :
    db'.crawlSnapshots = db.crawlSnapshots ∧ db'.pageAssets = db.pageAssets ∧
      db'.pageChecks = db.pageChecks := by
  have hsnapshots := congrArg Db.crawlSnapshots houtside
  have hassets := congrArg Db.pageAssets houtside
  have hchecks := congrArg Db.pageChecks houtside
  exact ⟨hsnapshots, hassets, hchecks⟩

theorem lifecycleInv_of_outsidePublishing {db' : Db} (h : LifecycleInv db)
    (houtside : outsidePublishing db' = outsidePublishing db) : LifecycleInv db' := by
  obtain ⟨hsnapshots, hassets, hchecks⟩ := compiled_of_outsidePublishing houtside
  refine ⟨⟨?_, ?_⟩, hassets ▸ h.assets, hchecks ▸ h.checks, ?_⟩
  · unfold NoneRetiredUnderPoor
    rw [hassets, hsnapshots]
    exact h.poor
  · unfold CurrentStateSwitch.AtMostOneActive
    rw [hsnapshots]
    exact h.atMostOneActive
  · unfold ChecksUnderActive
    rw [hassets, hchecks]
    exact h.under

theorem isLive_congr {db' : Db} (houtside : outsidePublishing db' = outsidePublishing db)
    (pageCheckId : UUID) : IsLive db' pageCheckId ↔ IsLive db pageCheckId := by
  obtain ⟨-, hassets, hchecks⟩ := compiled_of_outsidePublishing houtside
  unfold IsLive
  rw [hassets, hchecks]

/-- Rendering keeps the links. -/
theorem LinkInv.renders {db' : Db} (h : LinkInv db) (hrenders : Renders db db') :
    LinkInv db' := by
  refine ⟨lifecycleInv_of_outsidePublishing h.toLifecycleInv hrenders.outside, ?_, ?_⟩
  · intro job hjob hactive
    rw [hrenders.publishedJobs] at hjob
    exact (isLive_congr hrenders.outside _).mpr (h.live job hjob hactive)
  · intro job hjob hcase
    rw [hrenders.publishedJobs] at hjob
    obtain ⟨scriptRenderId, hid, hscript⟩ := hasOwnScript_iff.mp (h.scripts job hjob hcase)
    exact hasOwnScript_iff.mpr ⟨scriptRenderId, hid, hrenders.scripts.isScriptOf hscript⟩

/-- A row that is written is active when it was asked to be, and no snapshot paused it. -/
theorem publishedJobRow_state (payload : CreatePublishedJobRequest) (script : ScriptRender)
    (id : UUID) :
    ((PublishedJobs.publishedJobRow payload script id).state = .active ↔
        payload.enabled = true) ∧
      isSystemPausedJob (PublishedJobs.publishedJobRow payload script id) = false := by
  constructor
  · unfold PublishedJobs.publishedJobRow
    cases payload.enabled with
    | true => simp
    | false => simp
  · unfold isSystemPausedJob
    rw [show (PublishedJobs.publishedJobRow payload script id).pausedBySnapshotId = none from rfl,
      show (PublishedJobs.publishedJobRow payload script id).pausedByAssetId = none from rfl,
      show (PublishedJobs.publishedJobRow payload script id).pausedByPageCheckId = none from rfl]
    simp

/-- **Creating a job keeps the links**, when an active job is asked for with a live check and a
script of it. -/
theorem LinkInv.createPublishedJob (h : LinkInv db) (jobs : PublishedJobService) (ids : IdSource)
    (payload : CreatePublishedJobRequest)
    (hlinked : ∀ script, IsCreated jobs payload script db → payload.enabled = true →
      IsLive db payload.pageCheckId ∧ matchesPageCheck script payload.pageCheckId = true) :
    LinkInv (PublishedJobs.createPublishedJob jobs ids payload db).1 := by
  rcases createPublishedJob_cases jobs ids payload db with heq | ⟨script, hcreated, heq⟩
  · rw [heq]
    exact h
  · rw [heq]
    have hrow := publishedJobRow_state payload script (db.publishedJobs.nextKey ids)
    have hjobs : ∀ job ∈ db.publishedJobs.insert ids
        (PublishedJobs.publishedJobRow payload script), job ∈ db.publishedJobs ∨
          job = PublishedJobs.publishedJobRow payload script (db.publishedJobs.nextKey ids) :=
      fun job hjob => Table.mem_insert.mp hjob
    refine ⟨lifecycleInv_of_outsidePublishing h.toLifecycleInv rfl, ?_, ?_⟩
    · intro job hjob hactive
      rcases hjobs job hjob with hmem | rfl
      · exact h.live job hmem hactive
      · exact (hlinked script hcreated (hrow.1.mp hactive)).1
    · intro job hjob hcase
      rcases hjobs job hjob with hmem | rfl
      · exact h.scripts job hmem hcase
      · rcases hcase with hactive | hpaused
        · have hmatches := (hlinked script hcreated (hrow.1.mp hactive)).2
          refine ⟨script, Table.mem_of_get? hcreated.script_eq, ?_, hmatches⟩
          exact congrArg some (Table.key_of_get? hcreated.script_eq).symm
        · rw [hrow.2] at hpaused
          exact absurd hpaused Bool.false_ne_true

end Created

/-! ## Reconciling -/

section Reconcile

variable {cx : CompileContext} {service : ControlPlaneService} {now : DateTime} {db : Db}

/-- A check that is active after the loop and is not retired is active after the compile. -/
theorem exists_active_compilePromoted {c : PageCheck}
    (hc : c ∈ (compilePages cx db).db.pageChecks) (hactive : c.lifecycleStatus = .active)
    (hkept : c.id ∉ (retirement cx db).retiredCheckIds) (outcome : SwitchOutcome) :
    ∃ c' ∈ (compilePromoted cx outcome db).1.pageChecks,
      c'.id = c.id ∧ c'.lifecycleStatus = .active := by
  obtain ⟨c', hc', hid, hsettled⟩ := (pageChecks_compilePromoted cx outcome db).kept c hc
  refine ⟨c', hc', hid, ?_⟩
  rcases hsettled.lifecycle with ⟨-, heq⟩ | ⟨hretired, -⟩
  · exact (congrArg Lifecycle.status heq).trans hactive
  · exact absurd hretired hkept

variable (cx) in
/-- A check that was active is active after the loop. -/
theorem exists_activeCheck_compilePages {c : PageCheck} (hc : c ∈ db.pageChecks)
    (hactive : c.lifecycleStatus = .active) :
    ∃ c' ∈ (compilePages cx db).db.pageChecks, c'.id = c.id ∧ c'.lifecycleStatus = .active := by
  obtain ⟨H, -, hinv⟩ := compilePages_inv cx db
  obtain ⟨c', hc', hid, hkept⟩ := hinv.checks.evolves.kept c hc
  have hlife := LifecycleKept.of_active cx hkept.lifecycle hactive
  exact ⟨c', hc', hid, (congrArg Lifecycle.status hlife).trans hactive⟩

/-- A check that was brought back is active after the loop. -/
theorem exists_activeCheck_of_reactivated {id : UUID}
    (hid : id ∈ (compilePages cx db).reactivatedCheckIds) :
    ∃ c ∈ (compilePages cx db).db.pageChecks, c.id = id ∧ c.lifecycleStatus = .active := by
  obtain ⟨H, -, hinv⟩ := compilePages_inv cx db
  obtain ⟨-, -, i, w, c, hwritten, hcid⟩ := hinv.checks.reactivated id hid
  have hc := Table.mem_of_first? hwritten.2
  exact ⟨c, hc, hcid, active_of_reactivated hid hc hcid⟩

/-- A check that stays, or comes back, is live after the compile and its cascades. -/
theorem isLive_reconciledDb
    (h : LifecycleInv (reconciledDb cx service now db)) {pageCheckId : UUID}
    (hloop : ∃ c ∈ (compilePages cx db).db.pageChecks,
      c.id = pageCheckId ∧ c.lifecycleStatus = .active)
    (hkept : pageCheckId ∉ (retirement cx db).retiredCheckIds) :
    IsLive (reconciledDb cx service now db) pageCheckId := by
  obtain ⟨c, hc, rfl, hactive⟩ := hloop
  obtain ⟨c', hc', hid, hactive'⟩ := exists_active_compilePromoted hc hactive hkept .promoted
  rw [← hid]
  exact isLive_of_active h hc' hactive'

variable (service now) in
theorem lifecycleInv_reconciledDb (h : LifecycleInv db) (hpromoted : Promoted cx db) :
    LifecycleInv (reconciledDb cx service now db) := by
  have hcompiled := h.compilePromoted hpromoted .promoted
  exact ⟨⟨hcompiled.poor, hcompiled.atMostOneActive⟩, hcompiled.assets, hcompiled.checks,
    hcompiled.under⟩

theorem scriptRenders_reconciledDb :
    (reconciledDb cx service now db).scriptRenders = db.scriptRenders := by
  have hscripts := congrArg Db.scriptRenders (outsideCompile_compilePromoted cx .promoted db)
  exact hscripts

/-- A job after the cascades, by what became of it. -/
inductive JobFate (cx : CompileContext) (db : Db) (job job' : PublishedJob) : Prop where
  | paused (hactive : job.state = .active)
      (heq : job' = PublishedJobs.pauseJob cx.snapshot.id "asset_retired_missing" job)
  | resumed (hsystem : isSystemPausedJob job = true)
      (hcheck : IsResumed (compilePages cx db).reactivatedCheckIds (retirement cx db)
        job.pageCheckId)
      (heq : job' = PublishedJobs.resumeJob job)
  | kept (hcheck : job.state = .active →
        job.pageCheckId ∉ (retirement cx db).retiredCheckIds)
      (heq : job' = job)

/-- **What becomes of a job.** -/
theorem jobFate_of_mem {jobs : PublishedJobService}
    (hservice : service.publishedJobService = some jobs) {job' : PublishedJob}
    (hjob' : job' ∈ (reconciledDb cx service now db).publishedJobs) :
    ∃ job ∈ db.publishedJobs, JobFate cx db job job' := by
  obtain ⟨job, hjob, rfl⟩ := (mem_jobs_reconciledDb hservice).mp hjob'
  refine ⟨job, hjob, ?_⟩
  have hsame : ∀ b ∈ (retirement cx db).db.publishedJobs, b.id = job.id → b = job := by
    intro b hb hid
    rw [publishedJobs_retirement] at hb
    exact Table.eq_of_key_eq hb hjob hid
  by_cases hpause : key job ∈ (compileDecisions cx db).publishedJobIdsToPause
  · obtain ⟨b, hb, -, hactive, hid⟩ := mem_publishedJobIdsToPause.mp hpause
    rw [hsame b hb hid] at hactive
    exact .paused hactive (Switch.row_of_off hpause)
  · by_cases hresume : key job ∈ (compileDecisions cx db).publishedJobIdsToResume
    · obtain ⟨b, hb, hresumed, -, hsystem, hid⟩ := mem_publishedJobIdsToResume.mp hresume
      rw [hsame b hb hid] at hresumed hsystem
      exact .resumed hsystem hresumed (Switch.row_of_on hpause hresume)
    · refine .kept (fun hactive hretired => hpause ?_) (Switch.row_of_notMem hpause hresume)
      refine mem_publishedJobIdsToPause.mpr ⟨job, ?_, hretired, hactive, rfl⟩
      rw [publishedJobs_retirement]
      exact hjob

/-- **A compile and its cascades keep the links.** -/
theorem LinkInv.reconciledDb (h : LinkInv db) (hpromoted : Promoted cx db)
    {jobs : PublishedJobService} (hservice : service.publishedJobService = some jobs) :
    LinkInv (ControlPlane.reconciledDb cx service now db) := by
  have hlife := lifecycleInv_reconciledDb service now h.toLifecycleInv hpromoted
  have hscript : ∀ job ∈ db.publishedJobs,
      job.state = .active ∨ isSystemPausedJob job = true → ∀ job' : PublishedJob,
        job'.scriptRenderId = job.scriptRenderId → job'.pageCheckId = job.pageCheckId →
          HasOwnScript (ControlPlane.reconciledDb cx service now db) job' := by
    intro job hjob hcase job' hid hcheck
    obtain ⟨script, hmem, hjobid, hmatches⟩ := h.scripts job hjob hcase
    refine ⟨script, ?_, hid.trans hjobid, ?_⟩
    · rw [scriptRenders_reconciledDb]
      exact hmem
    · rw [hcheck]
      exact hmatches
  refine ⟨hlife, ?_, ?_⟩
  · intro job' hjob' hactive'
    obtain ⟨job, hjob, hfate⟩ := jobFate_of_mem hservice hjob'
    cases hfate with
    | paused _ heq =>
      rw [heq] at hactive'
      exact PublishedJobState.noConfusion hactive'
    | resumed _ hcheck heq =>
      rw [heq]
      exact isLive_reconciledDb hlife (exists_activeCheck_of_reactivated hcheck.1) hcheck.2
    | kept hcheck heq =>
      rw [heq] at hactive' ⊢
      obtain ⟨c, hc, hid, hactive, -⟩ := h.live job hjob hactive'
      obtain ⟨c', hc', hid', hloop⟩ := exists_activeCheck_compilePages cx hc hactive
      exact isLive_reconciledDb hlife ⟨c', hc', hid'.trans hid, hloop⟩ (hcheck hactive')
  · intro job' hjob' hcase
    obtain ⟨job, hjob, hfate⟩ := jobFate_of_mem hservice hjob'
    cases hfate with
    | paused hactive heq =>
      rw [heq]
      exact hscript job hjob (Or.inl hactive) _ rfl rfl
    | resumed hsystem _ heq =>
      rw [heq]
      exact hscript job hjob (Or.inr hsystem) _ rfl rfl
    | kept _ heq =>
      rw [heq] at hcase ⊢
      exact hscript job hjob hcase _ rfl rfl

end Reconcile

theorem LinkInv.reconcile {db : Db} (h : LinkInv db) (call : ReconcileCall)
    (hservice : call.service.publishedJobService.isSome = true) :
    LinkInv (ControlPlane.reconcile db call) := by
  rcases reconcile_cases db call with
    ⟨hdb, -⟩ | ⟨snapshot, system, switched, hsnapshot, hsystem, hswitch, hcase⟩
  · rw [hdb]
    exact h
  · -- The switch changes neither jobs nor scripts nor what was compiled.
    have hlife := h.toLifecycleInv.switch (Table.mem_of_get? hsnapshot) hswitch
    have hjobs : switched.db.publishedJobs = db.publishedJobs := by
      have hsame := congrArg Db.publishedJobs (hswitch.outsideSwitch_eq hswitch.db_mem)
      exact hsame
    have hscripts : switched.db.scriptRenders = db.scriptRenders := by
      have hsame := congrArg Db.scriptRenders (hswitch.outsideSwitch_eq hswitch.db_mem)
      exact hsame
    have hswitched : LinkInv switched.db := by
      refine ⟨hlife, ?_, ?_⟩
      · unfold IsLive
        rw [hjobs, pageAssets_switch hswitch, pageChecks_switch hswitch]
        exact h.live
      · unfold HasOwnScript
        rw [hjobs, hscripts]
        exact h.scripts
    rcases hcase with ⟨-, hdb⟩ | ⟨houtcome, hdb⟩
    · rw [hdb]
      exact hswitched
    · obtain ⟨jobs, hsome⟩ := Option.isSome_iff_exists.mp hservice
      rw [hdb]
      exact hswitched.reconciledDb
        (Promoted.of_switch (Table.mem_of_get? hsnapshot) hsystem hswitch houtcome) hsome

/-! ## Publishing -/

/-- The request was executed with success, for the check. -/
structure IsPublishable (result : CheckResultView) (pageCheckId : UUID) : Prop where
  planId : result.planId.isSome = true
  executionStatus : result.executionStatus = some "passed"
  pageCheckId_eq : result.pageCheckId = some pageCheckId

theorem LinkInv.createPublishedJobFromExecution {db : Db} (h : LinkInv db)
    (jobs : PublishedJobService) (ids : IdSource) (now : DateTime)
    (executionPlanId pageCheckId : UUID) (scheduleExpr triggerSource : String) (enabled : Bool)
    (hlive : enabled = true → jobs.cronParses (Text.strip scheduleExpr) = true →
      IsLive db pageCheckId) :
    LinkInv (PublishedJobs.createPublishedJobFromExecution jobs ids now executionPlanId pageCheckId
      scheduleExpr triggerSource enabled db).1 := by
  obtain ⟨hrenders, hok⟩ :=
    renders_getOrRenderPublishedScript ids now executionPlanId pageCheckId db
  unfold PublishedJobs.createPublishedJobFromExecution
  split
  · rename_i db' e hscript
    rw [hscript] at hrenders
    exact h.renders hrenders
  · rename_i db' scriptRenderId hscript
    rw [hscript] at hrenders hok
    have hrendered := h.renders hrenders
    split
    · exact hrendered
    · rename_i payload hrequest
      refine hrendered.createPublishedJob jobs ids payload fun script hcreated henabled => ?_
      -- The request is for the check of the execution and the script that was got for it.
      have hpayload : payload.pageCheckId = pageCheckId ∧
          payload.scriptRenderId = scriptRenderId ∧ payload.enabled = enabled ∧
            payload.scheduleExpr = Text.strip scheduleExpr := by
        unfold PublishedJobs.buildRequest at hrequest
        repeat' split at hrequest
        all_goals first
          | (rw [← Except.ok.inj hrequest]; exact ⟨rfl, rfl, rfl, rfl⟩)
          | cases hrequest
      obtain ⟨hcheck, hid, hsame, hexpr⟩ := hpayload
      rw [hcheck]
      refine ⟨(isLive_congr hrenders.outside _).mpr (hlive (hsame.symm.trans henabled) ?_), ?_⟩
      · rw [← hexpr]
        exact hcreated.cronParses
      · obtain ⟨script', hscript', hid', hmatches⟩ := hok scriptRenderId rfl
        have hscriptid : script.id = payload.scriptRenderId :=
          Table.key_of_get? hcreated.script_eq
        have hsame' : script' = script :=
          Table.eq_of_key_eq hscript' (Table.mem_of_get? hcreated.script_eq)
            (hid'.trans (hid.symm.trans hscriptid.symm))
        rw [← hsame']
        exact hmatches

theorem LinkInv.publishCheckRequest {db : Db} (h : LinkInv db) (service : ControlPlaneService)
    (ids : IdSource) (now : DateTime) (view : Option CheckResultView)
    (payload : PublishCheckRequest)
    (hlive : payload.enabled = true → ∀ jobs result pageCheckId,
      service.publishedJobService = some jobs → view = some result →
        IsPublishable result pageCheckId →
          jobs.cronParses (Text.strip payload.scheduleExpr) = true → IsLive db pageCheckId) :
    LinkInv (ControlPlane.publishCheckRequest service ids now view payload db).1 := by
  unfold ControlPlane.publishCheckRequest
  split
  · exact h
  · split
    · exact h
    · rename_i jobs hjobs
      split
      · exact h
      · rename_i result
        split
        · rename_i planId status hplan hstatus
          split
          · exact h
          · rename_i hpassed
            split
            · exact h
            · rename_i pageCheckId hcheck
              rw [not_not] at hpassed
              refine h.createPublishedJobFromExecution jobs ids now planId pageCheckId _ _ _
                fun henabled hcron => ?_
              refine hlive henabled jobs result pageCheckId hjobs rfl ⟨?_, ?_, hcheck⟩ hcron
              · rw [hplan]
                rfl
              · rw [hstatus, hpassed]
        · exact h

/-! ## Runs -/

/-- The operations that write published jobs or what they point at. -/
inductive PublishingCall where
  | renderPageCheckScript (service : ControlPlaneService) (ids : IdSource) (now : DateTime)
      (pageCheckId : UUID) (renderMode : String)
  | createPublishedJob (service : ControlPlaneService) (ids : IdSource)
      (payload : CreatePublishedJobRequest)
  | publishCheckRequest (service : ControlPlaneService) (ids : IdSource) (now : DateTime)
      (view : Option CheckResultView) (payload : PublishCheckRequest)
  | reconcile (call : ReconcileCall) (hservice : call.service.publishedJobService.isSome = true)

namespace PublishingCall

/-- What a call commits. -/
def step (db : Db) : PublishingCall → Db
  | .renderPageCheckScript service ids now pageCheckId renderMode =>
    (ControlPlane.renderPageCheckScript service ids now pageCheckId renderMode db).1
  | .createPublishedJob service ids payload =>
    (ControlPlane.createPublishedJob service ids payload db).1
  | .publishCheckRequest service ids now view payload =>
    (ControlPlane.publishCheckRequest service ids now view payload db).1
  | .reconcile call _ => ControlPlane.reconcile db call

/-- A call that is going to write an active job is asked for a live check and, when it names the
script, for a script of that check. -/
def Grounded (db : Db) : PublishingCall → Prop
  | .createPublishedJob service _ payload =>
    payload.enabled = true → ∀ jobs script, service.publishedJobService = some jobs →
      IsCreated jobs payload script db →
        IsLive db payload.pageCheckId ∧ matchesPageCheck script payload.pageCheckId = true
  | .publishCheckRequest service _ _ view payload =>
    payload.enabled = true → ∀ jobs result pageCheckId,
      service.publishedJobService = some jobs → view = some result →
        IsPublishable result pageCheckId →
          jobs.cronParses (Text.strip payload.scheduleExpr) = true → IsLive db pageCheckId
  | _ => True

end PublishingCall

/-- **One call keeps the links.** -/
theorem LinkInv.step {db : Db} (h : LinkInv db) {call : PublishingCall}
    (hgrounded : call.Grounded db) : LinkInv (call.step db) := by
  cases call with
  | renderPageCheckScript service ids now pageCheckId renderMode =>
    change LinkInv (ControlPlane.renderPageCheckScript service ids now pageCheckId renderMode db).1
    unfold ControlPlane.renderPageCheckScript
    split
    · exact h
    · split
      · exact h
      · rename_i check _
        exact h.renders (renders_renderPageCheck ids now check.id renderMode db).1
  | createPublishedJob service ids payload =>
    change LinkInv (ControlPlane.createPublishedJob service ids payload db).1
    unfold ControlPlane.createPublishedJob
    split
    · exact h
    · rename_i jobs hjobs
      exact h.createPublishedJob jobs ids payload fun script hcreated henabled =>
        hgrounded henabled jobs script hjobs hcreated
  | publishCheckRequest service ids now view payload =>
    exact h.publishCheckRequest service ids now view payload hgrounded
  | reconcile call hservice => exact h.reconcile call hservice

/-- **Published jobs stay tied to a live check and to its script**, in every run whose calls are
grounded.  The run starts from a database that has its links, as one without jobs has
(`LinkInv.of_no_jobs`, `LifecycleInv.of_empty`). -/
theorem jobs_linked_of_grounded {db : Db} (h : LinkInv db) {calls : List PublishingCall}
    (hgrounded : Run.Along PublishingCall.step (fun d call => call.Grounded d) db calls) :
    JobsLinked (Run.final PublishingCall.step db calls) := by
  have hinv : LinkInv (Run.final PublishingCall.step db calls) :=
    Run.invariant_of_along (fun _ _ hd hcall => hd.step hcall) h hgrounded
  exact hinv.jobsLinked

/-! ## A job on the script of another check -/

namespace LinkSample

def asset : PageAsset where
  id := 1
  systemId := 1
  pageId := 20
  assetKey := "erp.a"
  assetVersion := "v1"

def check (id : UUID) (checkCode : String) : PageCheck where
  id := id
  pageAssetId := 1
  checkCode := checkCode
  goal := checkCode
  modulePlanId := some 40

/-- An asset with two checks, and no job yet. -/
def db : Db :=
  { systems := .single { id := 1, code := "erp", name := "ERP", baseUrl := "/" }
    pages := .single { id := 20, systemId := 1, routePath := "/a" }
    pageAssets := .single asset
    pageChecks := ⟨[check 2 "page_open", check 3 "table_render"], by decide⟩
    modulePlans := .single { id := 40, pageAssetId := 1, checkCode := "page_open" } }

def jobs : PublishedJobService := ⟨fun _ => true⟩

def service : ControlPlaneService :=
  { publishedJobService := some jobs, scriptRenderer := true }

def request (pageCheckId : UUID) : CreatePublishedJobRequest where
  scriptRenderId := 1
  pageCheckId := pageCheckId
  scheduleType := "cron"
  scheduleExpr := "0 * * * *"
  triggerSource := "platform"
  enabled := true
  scheduleType_ne := by decide
  scheduleExpr_ne := by decide
  triggerSource_ne := by decide

/-- The first check is rendered, and a job is made from its script. -/
def calls (pageCheckId : UUID) : List PublishingCall :=
  [.renderPageCheckScript service .ascending 1 2 "published",
    .createPublishedJob service .ascending (request pageCheckId)]

theorem linkInv_db : LinkInv db := by
  refine LinkInv.of_no_jobs ⟨⟨?_, ?_⟩, ?_, ?_, ?_⟩ rfl
  · exact fun s hs => absurd hs (Table.notMem_empty s)
  · exact fun s hs => absurd hs (Table.notMem_empty s)
  · intro a ha
    rw [show a = asset from List.mem_singleton.mp ha]
    exact Lifecycle.wellFormed_alive
  · intro c hc
    rcases List.mem_cons.mp hc with rfl | hc
    · exact Lifecycle.wellFormed_alive
    · rw [List.mem_singleton.mp hc]
      exact Lifecycle.wellFormed_alive
  · intro c hc _
    refine ⟨asset, List.mem_singleton.mpr rfl, ?_, rfl⟩
    rcases List.mem_cons.mp hc with rfl | hc
    · rfl
    · rw [List.mem_singleton.mp hc]
      rfl

end LinkSample

theorem jobs_linked_of_grounded_sample :
    LinkInv LinkSample.db ∧
      JobsLinked (Run.final PublishingCall.step LinkSample.db (LinkSample.calls 2)) := by
  refine ⟨LinkSample.linkInv_db, jobs_linked_of_grounded LinkSample.linkInv_db ⟨trivial, ?_, trivial⟩⟩
  intro _ jobs script _ hcreated
  refine ⟨⟨LinkSample.check 2 "page_open", List.mem_cons_self, rfl, rfl, LinkSample.asset,
    List.mem_cons_self, rfl, rfl⟩, ?_⟩
  rw [← Option.some_inj.mp hcreated.script_eq]
  rfl

/-- A job is made active on the second check with the script of the first one. -/
theorem jobs_linked_fails :
    ¬ ∀ (db : Db) (calls : List PublishingCall), LinkInv db →
      JobsLinked (Run.final PublishingCall.step db calls) := by
  intro h
  have hlinked := h LinkSample.db (LinkSample.calls 3) LinkSample.linkInv_db
  obtain ⟨job, hjob, hactive, hnot⟩ : ∃ job ∈ (Run.final PublishingCall.step LinkSample.db
      (LinkSample.calls 3)).publishedJobs, job.state = .active ∧
        ¬ ∃ script ∈ (Run.final PublishingCall.step LinkSample.db
          (LinkSample.calls 3)).scriptRenders, job.scriptRenderId = some script.id ∧
            matchesPageCheck script job.pageCheckId = true := by
    decide +kernel
  exact hnot (hlinked job hjob hactive).2

end ControlPlane

end Runlet
