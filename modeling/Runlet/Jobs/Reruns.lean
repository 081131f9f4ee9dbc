import Runlet.ControlPlane.Settled
import Runlet.Jobs.Freshness

/-!
# Reruns of the asset compile job

A run of the job commits twice, the compile and then the cascades.  A run that raises in between
leaves rows that are retired and aliases and jobs that are still on, and no later run finds them:
its decisions are about the checks that are active when it starts.

`settled_after_runs`: the cascades of a snapshot are settled after every run, in every sequence of
runs for the snapshots of a system in which the runs for this snapshot apply their cascades.
-/

namespace Runlet

open KeyedTable

namespace Reruns

open AssetCompiler ControlPlane
open Freshness (compileHandler)
open AssetCompileJob (Claims Completes outsideJobs)
open CurrentStateSwitch (SwitchCase)

/-! ## Runs -/

/-- A run of the job: the services the handler was given, and where the run raises. -/
structure CompileRun where
  service : Option ControlPlaneService
  ids : IdSource
  now : DateTime
  faults : Faults
  jobId : UUID

namespace CompileRun

variable (run : CompileRun) (db : Db)

def handler : AssetCompileJobHandler :=
  compileHandler run.service run.ids run.now

/-- What a run commits. -/
def step (db : Db) (run : CompileRun) : Db :=
  (AssetCompileJob.run run.handler run.now run.faults run.jobId db).1

/-- The run is for a job of this snapshot. -/
def IsFor (snapshotId : UUID) : Prop :=
  ∃ job, db.queuedJobs.get? run.jobId = some job ∧ job.payload.snapshotId = .uuid snapshotId

/-- The run is for a snapshot of this system, if it is for any. -/
def IsForSystem (systemId : UUID) : Prop :=
  ∀ snapshotId, run.IsFor db snapshotId →
    ∀ snapshot, db.crawlSnapshots.get? snapshotId = some snapshot → snapshot.systemId = systemId

/-- The run does not raise between the two commits, and it can switch aliases and jobs. -/
def AppliesCascades : Prop :=
  .cascade ∉ run.faults.points ∧
    ∃ service, run.service = some service ∧ service.publishedJobService.isSome = true

/-- The run ends as completed. -/
def EndsCompleted : Prop :=
  Completes run.handler run.now run.faults run.jobId db

end CompileRun

/-! ## The invariant -/

variable {systemId snapshotId : UUID}

/-- The cascades of the snapshot are settled. -/
structure Settled (systemId snapshotId : UUID) (db : Db) : Prop where
  jobs : JobsSettled snapshotId db
  aliases : AliasesSettled systemId snapshotId db

/-- What a run needs of the rows of the system. -/
structure Sound (systemId : UUID) (db : Db) : Prop extends CurrentInv db, KeysSound systemId db

theorem Settled.of_eq {db db' : Db} (h : Settled systemId snapshotId db)
    (hjobs : db'.publishedJobs = db.publishedJobs) (hchecks : db'.pageChecks = db.pageChecks)
    (haliases : db'.intentAliases = db.intentAliases)
    (hassets : db'.pageAssets = db.pageAssets) : Settled systemId snapshotId db' := by
  constructor
  · unfold JobsSettled
    rw [hjobs, hchecks]
    exact h.jobs
  · unfold AliasesSettled
    rw [haliases, hassets]
    exact h.aliases

theorem KeysSound.of_eq {db db' : Db} (h : KeysSound systemId db)
    (hassets : db'.pageAssets = db.pageAssets) : KeysSound systemId db' := by
  constructor
  · rw [hassets]
    exact h.ne_empty
  · rw [hassets]
    exact h.unique

/-- What a run leaves to be shown, besides the table of jobs. -/
structure RunInv (systemId snapshotId : UUID) (db : Db) : Prop extends Sound systemId db,
  Settled systemId snapshotId db

theorem RunInv.of_outsideJobs {db db' : Db} (h : RunInv systemId snapshotId db)
    (hdb : outsideJobs db' = outsideJobs db) : RunInv systemId snapshotId db' := by
  have hassets := congrArg Db.pageAssets hdb
  have hsnapshots := congrArg Db.crawlSnapshots hdb
  have hjobs := congrArg Db.publishedJobs hdb
  have hchecks := congrArg Db.pageChecks hdb
  have haliases := congrArg Db.intentAliases hdb
  change db'.pageAssets = db.pageAssets at hassets
  change db'.crawlSnapshots = db.crawlSnapshots at hsnapshots
  refine ⟨⟨⟨?_, ?_⟩, KeysSound.of_eq h.toKeysSound hassets⟩,
    h.toSettled.of_eq hjobs hchecks haliases hassets⟩
  · unfold NoneRetiredUnderPoor
    rw [hassets, hsnapshots]
    exact h.poor
  · have hone := h.atMostOneActive
    intro a ha b hb
    rw [hsnapshots] at ha hb
    exact hone a ha b hb

theorem RunInv.switch {ids : IdSource} {now : DateTime} {db : Db} {draft : CrawlSnapshot}
    {switched : Switched} (h : RunInv systemId snapshotId db)
    (hdraft : draft ∈ db.crawlSnapshots) (hcase : SwitchCase ids now db draft switched) :
    RunInv systemId snapshotId switched.db := by
  have houtside := hcase.outsideSwitch_eq hcase.db_mem
  have hjobs := congrArg Db.publishedJobs houtside
  have haliases := congrArg Db.intentAliases houtside
  exact ⟨⟨h.toCurrentInv.switch hdraft hcase,
      KeysSound.of_eq h.toKeysSound (pageAssets_switch hcase)⟩,
    h.toSettled.of_eq hjobs (pageChecks_switch hcase) haliases (pageAssets_switch hcase)⟩

section Step

variable {cx : CompileContext} {db : Db}

/-- A compile of another snapshot, without its cascades. -/
theorem RunInv.compiled (h : RunInv cx.system.id snapshotId db) (hpromoted : Promoted cx db)
    (hne : cx.snapshot.id ≠ snapshotId) :
    RunInv cx.system.id snapshotId (compilePromoted cx .promoted db).1 :=
  ⟨⟨h.toCurrentInv.compilePromoted hpromoted .promoted, h.toKeysSound.compilePromoted .promoted⟩,
    h.jobs.compiled .promoted hne,
    h.aliases.compiled h.toKeysSound h.toCurrentInv hpromoted .promoted hne⟩

/-- A compile with its cascades; for the snapshot itself, there has to be a service for the jobs. -/
theorem RunInv.cascaded {service : ControlPlaneService} {now : DateTime}
    (h : RunInv cx.system.id snapshotId db) (hpromoted : Promoted cx db)
    (hservice : cx.snapshot.id = snapshotId → service.publishedJobService.isSome = true) :
    RunInv cx.system.id snapshotId (reconciledDb cx service now db) := by
  have hcurrent := h.toCurrentInv.compilePromoted hpromoted .promoted
  have hkeys := h.toKeysSound.compilePromoted .promoted
  refine ⟨⟨⟨hcurrent.poor, hcurrent.atMostOneActive⟩, hkeys.ne_empty, hkeys.unique⟩, ?_,
    h.aliases.cascaded h.toKeysSound h.toCurrentInv hpromoted⟩
  by_cases hsome : service.publishedJobService.isSome = true
  · exact h.jobs.cascaded hsome
  · have hne : cx.snapshot.id ≠ snapshotId := fun heq => hsome (hservice heq)
    have hjobs := h.jobs.compiled .promoted hne
    unfold JobsSettled
    rw [Option.not_isSome_iff_eq_none] at hsome
    rw [jobs_reconciledDb_of_none hsome]
    rw [← publishedJobs_compilePromoted cx .promoted db]
    exact hjobs

end Step

/-- **One run.** -/
theorem RunInv.step {db : Db} (h : RunInv systemId snapshotId db) {run : CompileRun}
    (hsystem : run.IsForSystem db systemId)
    (happlies : run.IsFor db snapshotId → run.AppliesCascades) :
    RunInv systemId snapshotId (run.step db) := by
  have hrunning : RunInv systemId snapshotId (AssetCompileJob.markRunning run.now run.jobId db) :=
    h.of_outsideJobs rfl
  -- What a compile of a snapshot starts from, when it gets past the switch.
  have hpromotes : ∀ {id : UUID} {snapshot : CrawlSnapshot} {system : System}
      {switched : Switched}, Claims run.faults run.jobId db id →
      (AssetCompileJob.markRunning run.now run.jobId db).crawlSnapshots.get? id = some snapshot →
      (AssetCompileJob.markRunning run.now run.jobId db).systems.get? snapshot.systemId =
        some system →
      SwitchCase run.ids run.now (AssetCompileJob.markRunning run.now run.jobId db) snapshot
        switched → switched.result.outcome = .promoted →
      system.id = systemId ∧ snapshot.id = id ∧
        Promoted (compileContext run.ids run.now system snapshot switched.db) switched.db := by
    intro id snapshot system switched hclaims hsnapshot hsys hswitch houtcome
    refine ⟨?_, Table.key_of_get? hsnapshot, Promoted.of_switch (Table.mem_of_get? hsnapshot) hsys
      hswitch houtcome⟩
    exact (Table.key_of_get? hsys).trans (hsystem id hclaims.job snapshot hsnapshot)
  rcases AssetCompileJob.runCase run.handler run.now run.faults run.jobId db with
    ⟨hdb, -⟩ | ⟨id, hclaims, compiled, result, hcompile, e, hcascade, hdb⟩ |
    ⟨id, hclaims, compiled, result, hcompile, cascaded, applied, hcascade, hdb⟩
  · exact h.of_outsideJobs hdb
  · refine RunInv.of_outsideJobs ?_ hdb
    obtain ⟨snapshot, system, hsnapshot, hsys, hcase⟩ := compileSnapshot_cases hcompile
    cases hcase with
    | skipped switched hswitch houtcome =>
      exact hrunning.switch (Table.mem_of_get? hsnapshot) hswitch
    | promoted switched hswitch houtcome =>
      obtain ⟨rfl, rfl, hpromoted⟩ := hpromotes hclaims hsnapshot hsys hswitch houtcome
      refine RunInv.compiled (hrunning.switch (Table.mem_of_get? hsnapshot) hswitch) hpromoted ?_
      rintro rfl
      exact (happlies hclaims.job).1 (AssetCompileJob.cascade_eq_error hcascade)
  · refine RunInv.of_outsideJobs ?_ hdb
    obtain ⟨snapshot, system, hsnapshot, hsys, hcase⟩ := compileSnapshot_cases hcompile
    obtain ⟨-, hcascaded⟩ := AssetCompileJob.cascade_eq_ok hcascade
    cases hcase with
    | skipped switched hswitch houtcome =>
      have hswitched := hrunning.switch (Table.mem_of_get? hsnapshot) hswitch
      rcases hcascaded with ⟨-, rfl⟩ | ⟨controlPlane, -, rfl⟩
      · exact hswitched
      · rw [cascadedDb_skipped]
        exact hswitched
    | promoted switched hswitch houtcome =>
      obtain ⟨rfl, rfl, hpromoted⟩ := hpromotes hclaims hsnapshot hsys hswitch houtcome
      have hswitched := hrunning.switch (Table.mem_of_get? hsnapshot) hswitch
      rcases hcascaded with ⟨hnone, rfl⟩ | ⟨controlPlane, hsome, rfl⟩
      · refine RunInv.compiled hswitched hpromoted ?_
        rintro rfl
        obtain ⟨-, service, hservice, -⟩ := happlies hclaims.job
        have hnone' : run.service = none := hnone
        rw [hservice] at hnone'
        exact Option.some_ne_none service hnone'
      · refine RunInv.cascaded hswitched hpromoted ?_
        rintro rfl
        obtain ⟨-, service, hservice, hjobs⟩ := happlies hclaims.job
        have hsome' : run.service = some controlPlane := hsome
        rw [hservice, Option.some_inj] at hsome'
        rw [← hsome']
        exact hjobs

/-- **The cascades of a snapshot are settled after every run**, in every sequence of runs for the
snapshots of its system in which each run for the snapshot itself applies its cascades. -/
theorem settled_after_runs {db : Db} (hsound : Sound systemId db)
    (hsettled : Settled systemId snapshotId db) {runs : List CompileRun}
    (hruns : Run.Along CompileRun.step (fun db run => run.IsForSystem db systemId ∧
      (run.IsFor db snapshotId → run.AppliesCascades)) db runs) :
    Run.Along CompileRun.step (fun db run => Settled systemId snapshotId (run.step db)) db runs :=
  Run.along_of_along (I := RunInv systemId snapshotId)
    (fun _ _ hinv hrun => hinv.step hrun.1 hrun.2)
    (fun _ _ hinv hrun => (hinv.step hrun.1 hrun.2).toSettled) ⟨hsound, hsettled⟩ hruns

/-! ## A run that raises before its cascades, and a run after it -/

namespace RerunSample

def snapshot (id : UUID) (state : SnapshotState) : CrawlSnapshot where
  id := id
  systemId := 1
  crawlType := "full"
  qualityScore := some 1
  state := state
  startedAt := 0

def page (id snapshotId : UUID) (routePath : String) : Page where
  id := id
  systemId := 1
  snapshotId := some snapshotId
  routePath := routePath

def asset (id pageId : UUID) (assetKey : String) : PageAsset where
  id := id
  systemId := 1
  pageId := pageId
  assetKey := assetKey
  assetVersion := "v"

def check : PageCheck where
  id := 40
  pageAssetId := 31
  checkCode := "page_open"
  goal := "page_open"

def intentAlias : IntentAlias where
  id := 50
  systemAlias := "erp"
  pageAlias := some "B"
  checkAlias := "page_open"
  routeHint := none
  assetKey := "erp.b"
  source := "asset_compiler"

def publishedJob : PublishedJob where
  id := 60
  jobKey := "k"
  pageCheckId := 40
  scheduleExpr := "0 * * * *"

def compileJob (id : UUID) : QueuedJob where
  id := id
  jobType := "asset_compile"
  payload := { snapshotId := .uuid 11 }

/-- The page `/b` of the active snapshot is not in the draft. -/
def db : Db :=
  { systems := .single { id := 1, code := "erp", name := "ERP", baseUrl := "/" }
    crawlSnapshots := ⟨[snapshot 10 .active, snapshot 11 .draft], by decide⟩
    pages := ⟨[page 20 10 "/a", page 21 10 "/b", page 22 11 "/a"], by decide⟩
    pageAssets := ⟨[asset 30 20 "erp.a", asset 31 21 "erp.b"], by decide⟩
    pageChecks := .single check
    intentAliases := .single intentAlias
    publishedJobs := .single publishedJob
    queuedJobs := ⟨[compileJob 70, compileJob 71], by decide⟩ }

def controlPlane : ControlPlaneService where
  publishedJobService := some ⟨fun _ => true⟩

def failing : CompileRun where
  service := some controlPlane
  ids := .ascending
  now := 1
  faults := { points := [.cascade], message := "connection lost" }
  jobId := 70

def later : CompileRun where
  service := some controlPlane
  ids := .ascending
  now := 2
  faults := {}
  jobId := 71

theorem sound : Sound 1 db := by
  refine ⟨⟨?_, by decide⟩, ⟨by decide, by decide⟩⟩
  unfold NoneRetiredUnderPoor
  decide +kernel

theorem settled : Settled 1 11 db :=
  ⟨by decide, by decide⟩

/-- Every run is for the one system there is. -/
theorem isForSystem {d : Db} (h : ∀ s ∈ d.crawlSnapshots, s.systemId = 1) (run : CompileRun) :
    run.IsForSystem d 1 :=
  fun _ _ snapshot hsnapshot => h snapshot (Table.mem_of_get? hsnapshot)

theorem appliesCascades : later.AppliesCascades :=
  ⟨by decide, controlPlane, rfl, rfl⟩

theorem endsCompleted : later.EndsCompleted (failing.step db) := by
  refine ⟨by decide +kernel, ?_⟩
  have hjob : ((AssetCompileJob.run later.handler later.now later.faults later.jobId
      (failing.step db)).1.queuedJobs.get? later.jobId).any
        (fun job => job.status = .completed) = true := by decide +kernel
  rw [Option.any_eq_true] at hjob
  obtain ⟨job, hget, hstatus⟩ := hjob
  exact ⟨job, hget, by simpa using hstatus⟩

end RerunSample

theorem settled_after_runs_sample :
    Run.Along CompileRun.step (fun db run => Settled 1 11 (run.step db)) RerunSample.db
      [RerunSample.later] :=
  settled_after_runs RerunSample.sound RerunSample.settled
    ⟨⟨RerunSample.isForSystem (by decide) _, fun _ => RerunSample.appliesCascades⟩, trivial⟩

/-- The run that completes finds nothing to switch off: what the first run retired is not active any
more.  The job stays active on a retired check, and the alias on a retired asset. -/
theorem settled_after_runs_fails :
    ¬ ∀ (systemId snapshotId : UUID) (db : Db) (runs : List CompileRun) (run : CompileRun),
      Sound systemId db → Settled systemId snapshotId db →
        Run.Along CompileRun.step (fun db run => run.IsForSystem db systemId) db (runs ++ [run]) →
          run.IsFor (Run.final CompileRun.step db runs) snapshotId → run.AppliesCascades →
            run.EndsCompleted (Run.final CompileRun.step db runs) →
              Settled systemId snapshotId (run.step (Run.final CompileRun.step db runs)) := by
  intro h
  have hsettled := h 1 11 RerunSample.db [RerunSample.failing] RerunSample.later RerunSample.sound
    RerunSample.settled
    ⟨RerunSample.isForSystem (by decide) _, RerunSample.isForSystem (by decide +kernel) _, trivial⟩
    ⟨RerunSample.compileJob 71, by decide +kernel, rfl⟩ RerunSample.appliesCascades
    RerunSample.endsCompleted
  exact absurd hsettled.jobs (by decide +kernel)

end Reruns

end Runlet
