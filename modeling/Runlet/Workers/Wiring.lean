import Runlet.Workers.Runner
import Runlet.Jobs.AssetCompileJobSpec

/-!
# What the worker's wiring leaves out

`build_worker_runner` hands its compile handler a control plane without a published-job service,
and a control plane without one skips the published jobs.  So a run of the worker applies the
decisions of a compile exactly when there is nothing to apply to a published job:
`worker_applies_iff`.
-/

namespace Runlet

open KeyedTable

namespace Worker

open AssetCompileJob (Claims Completes)

section Runs

variable (publishedJobService : PublishedJobService)
  (compile : UUID → Db → Except String (Db × CompileSnapshotResult)) (now : DateTime)
  (faults : Faults) (jobId : UUID) (db : Db)

/-- The handler of the worker, with the control plane that was built first. -/
def fullHandler : AssetCompileJobHandler :=
  buildAssetCompileHandler compile (some { publishedJobService := some publishedJobService })

/-- The compile a run makes: the database it commits, and its result. -/
def Compiles (compiled : Db) (result : CompileSnapshotResult) : Prop :=
  ∃ snapshotId, Claims faults jobId db snapshotId ∧
    compile snapshotId (AssetCompileJob.markRunning now jobId db) = .ok (compiled, result)

/-- What a run of the worker commits. -/
def workerDb : Db :=
  (AssetCompileJob.run (buildWorkerRunner publishedJobService compile) now faults jobId db).1

/-- What the same run commits with a published-job service. -/
def fullDb : Db :=
  (AssetCompileJob.run (fullHandler publishedJobService compile) now faults jobId db).1

/-- Every decision about published jobs is applied, as it is with a published-job service. -/
structure AppliesDecisions : Prop where
  paused : ∀ compiled result, Compiles compile now faults jobId db compiled result →
    ∀ job ∈ compiled.publishedJobs, job.id ∈ result.publishedJobIdsToPause →
      job.state = .active →
        ∃ job' ∈ (workerDb publishedJobService compile now faults jobId db).publishedJobs,
          job'.id = job.id ∧ job'.state = .paused ∧
            job'.pauseReason = some "asset_retired_missing"
  resumed : ∀ compiled result, Compiles compile now faults jobId db compiled result →
    ∀ job ∈ compiled.publishedJobs, job.id ∈ result.publishedJobIdsToResume →
      job.state = .paused →
        ∃ job' ∈ (workerDb publishedJobService compile now faults jobId db).publishedJobs,
          job'.id = job.id ∧ job'.state = .active
  jobs : (workerDb publishedJobService compile now faults jobId db).publishedJobs =
    (fullDb publishedJobService compile now faults jobId db).publishedJobs
  aliases : (workerDb publishedJobService compile now faults jobId db).intentAliases =
    (fullDb publishedJobService compile now faults jobId db).intentAliases

/-- The compile lists no active job to be paused and no paused job to be resumed. -/
def NothingToApply : Prop :=
  ∀ compiled result, Compiles compile now faults jobId db compiled result →
    ∀ job ∈ compiled.publishedJobs,
      (job.id ∈ result.publishedJobIdsToPause → job.state ≠ .active) ∧
        (job.id ∈ result.publishedJobIdsToResume → job.state ≠ .paused)

variable {publishedJobService compile now faults jobId db}

/-- A run makes one compile. -/
theorem Compiles.unique {compiled compiled' : Db} {result result' : CompileSnapshotResult}
    (h : Compiles compile now faults jobId db compiled result)
    (h' : Compiles compile now faults jobId db compiled' result') :
    compiled = compiled' ∧ result = result' := by
  obtain ⟨id, hclaims, hcompile⟩ := h
  obtain ⟨id', hclaims', hcompile'⟩ := h'
  obtain ⟨job, hjob, hpayload⟩ := hclaims.job
  obtain ⟨job', hjob', hpayload'⟩ := hclaims'.job
  rw [hjob, Option.some_inj] at hjob'
  rw [← hjob', hpayload, IdField.uuid.injEq] at hpayload'
  rw [← hpayload', hcompile, Except.ok.injEq] at hcompile'
  exact Prod.mk.inj hcompile'

/-- Both runs end with cascades from the database the compile committed. -/
theorem worker_and_full
    (h : Completes (buildWorkerRunner publishedJobService compile) now faults jobId db) :
    ∃ compiled result, Compiles compile now faults jobId db compiled result ∧
      AssetCompileJob.outsideJobs (workerDb publishedJobService compile now faults jobId db) =
        AssetCompileJob.outsideJobs (ControlPlane.cascadedDb {} now result compiled) ∧
      AssetCompileJob.outsideJobs (fullDb publishedJobService compile now faults jobId db) =
        AssetCompileJob.outsideJobs (ControlPlane.cascadedDb
          { publishedJobService := some publishedJobService } now result compiled) := by
  obtain ⟨snapshotId, compiled, result, cascaded, applied, hclaims, hcompile, hcascade, hdb⟩ :=
    h.cascaded
  have hcompiles : Compiles compile now faults jobId db compiled result :=
    ⟨snapshotId, hclaims, hcompile⟩
  obtain ⟨huncut, hcases⟩ := AssetCompileJob.cascade_eq_ok hcascade
  refine ⟨compiled, result, hcompiles, ?_, ?_⟩
  · rcases hcases with ⟨hnone, -⟩ | ⟨controlPlane, hsome, rfl⟩
    · exact absurd hnone (Option.some_ne_none _)
    · rw [← Option.some_inj.mp hsome] at hdb
      exact hdb
  · rcases AssetCompileJob.runCase (fullHandler publishedJobService compile) now faults jobId db
      with ⟨-, hno⟩ | ⟨id, hclaims', compiled', result', hcompile', e, hcut, -⟩ |
        ⟨id, hclaims', compiled', result', hcompile', cascaded', applied', hcascade', hdb'⟩
    · obtain ⟨e, herror⟩ := hno snapshotId hclaims
      have herror' := Eq.trans hcompile.symm herror
      exact absurd herror' (by simp)
    · exact absurd (AssetCompileJob.cascade_eq_error hcut) huncut
    · obtain ⟨rfl, rfl⟩ := hcompiles.unique ⟨id, hclaims', hcompile'⟩
      rcases (AssetCompileJob.cascade_eq_ok hcascade').2 with
        ⟨hnone, -⟩ | ⟨controlPlane, hsome, rfl⟩
      · exact absurd hnone (Option.some_ne_none _)
      · rw [← Option.some_inj.mp hsome] at hdb'
        exact hdb'

variable (publishedJobService compile now faults jobId db) in
/-- **When the worker applies the decisions of a compile.**  A run of the worker's compile handler
that ends as completed does with published jobs and aliases what the same handler does with a
published-job service exactly when the compile listed no active job to be paused and no paused job
to be resumed. -/
theorem worker_applies_iff
    (h : Completes (buildWorkerRunner publishedJobService compile) now faults jobId db) :
    AppliesDecisions publishedJobService compile now faults jobId db ↔
      NothingToApply compile now faults jobId db := by
  obtain ⟨compiled, result, hcompiles, hworker, hfull⟩ := worker_and_full h
  have hworkerJobs : (workerDb publishedJobService compile now faults jobId db).publishedJobs =
      compiled.publishedJobs := by
    have hjobs := congrArg Db.publishedJobs hworker
    exact hjobs
  have hfullJobs : (fullDb publishedJobService compile now faults jobId db).publishedJobs =
      (ControlPlane.jobSwitch result.snapshotId).apply result.publishedJobIdsToPause
        result.publishedJobIdsToResume compiled.publishedJobs := by
    have hjobs := congrArg Db.publishedJobs hfull
    exact hjobs
  constructor
  · intro happlies compiled' result' hcompiles' job hjob
    obtain ⟨rfl, rfl⟩ := hcompiles.unique hcompiles'
    constructor
    · intro hlisted hactive
      obtain ⟨job', hjob', hid, hpaused, -⟩ :=
        happlies.paused compiled result hcompiles job hjob hlisted hactive
      rw [hworkerJobs] at hjob'
      rw [Table.eq_of_key_eq hjob' hjob hid, hactive] at hpaused
      exact PublishedJobState.noConfusion hpaused
    · intro hlisted hpaused
      obtain ⟨job', hjob', hid, hactive⟩ :=
        happlies.resumed compiled result hcompiles job hjob hlisted hpaused
      rw [hworkerJobs] at hjob'
      rw [Table.eq_of_key_eq hjob' hjob hid, hpaused] at hactive
      exact PublishedJobState.noConfusion hactive
  · intro hnothing
    refine ⟨?_, ?_, ?_, ?_⟩
    · intro compiled' result' hcompiles' job hjob hlisted hactive
      exact absurd hactive ((hnothing compiled' result' hcompiles' job hjob).1 hlisted)
    · intro compiled' result' hcompiles' job hjob hlisted hpaused
      exact absurd hpaused ((hnothing compiled' result' hcompiles' job hjob).2 hlisted)
    · rw [hworkerJobs, hfullJobs]
      refine (Switch.apply_eq_self ?_ ?_).symm
      · intro job hjob hlisted
        exact decide_eq_false ((hnothing compiled result hcompiles job hjob).1 hlisted)
      · intro job hjob hlisted
        exact decide_eq_false ((hnothing compiled result hcompiles job hjob).2 hlisted)
    · have hworkerAliases := congrArg Db.intentAliases hworker
      have hfullAliases := congrArg Db.intentAliases hfull
      exact Eq.trans hworkerAliases hfullAliases.symm

end Runs

/-! ## A compile that pauses a job -/

namespace WiringSample

/-- A compile job, and a published job in some state. -/
def db (state : PublishedJobState) : Db :=
  { queuedJobs := ⟨[{ id := 1, jobType := "asset_compile", payload := { snapshotId := .uuid 10 } }],
      List.nodup_singleton _⟩
    publishedJobs := ⟨[{ id := 2, jobKey := "k", pageCheckId := 30, scheduleExpr := "", state := state }],
      List.nodup_singleton _⟩ }

/-- A compile that retired a check and lists its job. -/
def compile (snapshotId : UUID) (db : Db) : Except String (Db × CompileSnapshotResult) :=
  .ok (db,
    { snapshotId := snapshotId
      status := "success"
      assetsCreated := 0
      checksCreated := 0
      driftState := .safe
      publishedJobIdsToPause := [2] })

def service : PublishedJobService := ⟨fun _ => true⟩

theorem completes (state : PublishedJobState) :
    Completes (buildWorkerRunner service compile) 5 {} 1 (db state) :=
  ⟨rfl, _, rfl, rfl⟩

end WiringSample

/-- The job is archived, so there is nothing to pause. -/
theorem worker_applies_archived :
    Completes (buildWorkerRunner WiringSample.service WiringSample.compile) 5 {} 1
        (WiringSample.db .archived) ∧
      (AppliesDecisions WiringSample.service WiringSample.compile 5 {} 1
          (WiringSample.db .archived) ↔
        NothingToApply WiringSample.compile 5 {} 1 (WiringSample.db .archived)) :=
  ⟨WiringSample.completes .archived, worker_applies_iff _ _ 5 {} 1 _
    (WiringSample.completes .archived)⟩

/-- The job is active, the compile lists it to be paused, and the worker leaves it active. -/
theorem worker_applies_fails :
    ¬ ∀ (publishedJobService : PublishedJobService)
        (compile : UUID → Db → Except String (Db × CompileSnapshotResult)) (now : DateTime)
        (faults : Faults) (jobId : UUID) (db : Db),
      Completes (buildWorkerRunner publishedJobService compile) now faults jobId db →
        AppliesDecisions publishedJobService compile now faults jobId db := by
  intro h
  have happlies := h WiringSample.service WiringSample.compile 5 {} 1 (WiringSample.db .active)
    (WiringSample.completes .active)
  have hcompiles : Compiles WiringSample.compile 5 {} 1 (WiringSample.db .active) _ _ :=
    ⟨10, ⟨by decide, by decide, _, rfl, rfl⟩, rfl⟩
  obtain ⟨job', hjob', -, hpaused, -⟩ :=
    happlies.paused _ _ hcompiles _ List.mem_cons_self (by decide) rfl
  rw [List.mem_singleton.mp hjob'] at hpaused
  exact PublishedJobState.noConfusion hpaused

end Worker

end Runlet
