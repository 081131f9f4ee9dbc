import Runlet.Jobs.AssetCompileJob
import Runlet.ControlPlane.Cascades

/-!
# What a run of the asset compile job commits

Outside the table of jobs, a run commits nothing, or what the compile wrote, or what the compile and
the cascades wrote (`RunCase`), and only in the last case can it end as completed.
-/

namespace Runlet

open KeyedTable

namespace AssetCompileJob

/-- A database without its queued jobs. -/
def outsideJobs (db : Db) : Db :=
  { db with queuedJobs := .empty }

/-- The step of the cascades fails only when the run raises there. -/
theorem cascade_eq_ok {service : Option ControlPlaneService} {now : DateTime} {faults : Faults}
    {result : CompileSnapshotResult} {db cascaded : Db}
    {applied : Option ReconciliationCascadeApplied}
    (h : cascade service now faults result db = .ok (cascaded, applied)) :
    .cascade ∉ faults.points ∧
      ((service = none ∧ cascaded = db) ∨ ∃ controlPlane, service = some controlPlane ∧
        cascaded = ControlPlane.cascadedDb controlPlane now result db) := by
  unfold cascade at h
  split at h
  · exact absurd h (by simp)
  · rename_i hfault
    refine ⟨hfault, ?_⟩
    cases service with
    | none =>
      have hdb := congrArg Prod.fst (Except.ok.inj h)
      exact Or.inl ⟨rfl, hdb.symm⟩
    | some controlPlane =>
      obtain ⟨applied', happlied⟩ :=
        ControlPlane.applyReconciliationCascades_eq controlPlane now result db
      dsimp only at h
      rw [happlied] at h
      have hdb := congrArg Prod.fst (Except.ok.inj h)
      exact Or.inr ⟨controlPlane, rfl, hdb.symm⟩

theorem cascade_eq_error {service : Option ControlPlaneService} {now : DateTime}
    {faults : Faults} {result : CompileSnapshotResult} {db : Db} {e : String}
    (h : cascade service now faults result db = .error e) : .cascade ∈ faults.points := by
  by_contra hfault
  unfold cascade at h
  rw [if_neg hfault] at h
  cases service with
  | none => exact absurd h (by simp)
  | some controlPlane =>
    obtain ⟨applied, happlied⟩ :=
      ControlPlane.applyReconciliationCascades_eq controlPlane now result db
    dsimp only at h
    rw [happlied] at h
    exact absurd h (by simp)

section Run

variable (handler : AssetCompileJobHandler) (now : DateTime) (faults : Faults) (jobId : UUID)
  (db : Db)

/-- The job of a run and the snapshot it names. -/
structure Claims (snapshotId : UUID) : Prop where
  claimed : .claim ∉ faults.points
  uncut : .compile ∉ faults.points
  job : ∃ job, db.queuedJobs.get? jobId = some job ∧ job.payload.snapshotId = .uuid snapshotId

/-- What a run commits. -/
inductive RunCase (db' : Db) : Prop where
  /-- The run did not get past the compile. -/
  | untouched (hdb : outsideJobs db' = outsideJobs db)
      (hno : ∀ snapshotId, Claims faults jobId db snapshotId →
        ∃ e, handler.compileSnapshot snapshotId (markRunning now jobId db) = .error e)
  /-- The run raised between the commit of the compile and the commit of the cascades. -/
  | compiled (snapshotId : UUID) (hclaims : Claims faults jobId db snapshotId) (compiled : Db)
      (result : CompileSnapshotResult)
      (hcompile : handler.compileSnapshot snapshotId (markRunning now jobId db) =
        .ok (compiled, result))
      (e : String)
      (hcascade : cascade handler.controlPlaneService now faults result compiled = .error e)
      (hdb : outsideJobs db' = outsideJobs compiled)
  /-- The cascades were committed as well. -/
  | cascaded (snapshotId : UUID) (hclaims : Claims faults jobId db snapshotId) (compiled : Db)
      (result : CompileSnapshotResult)
      (hcompile : handler.compileSnapshot snapshotId (markRunning now jobId db) =
        .ok (compiled, result))
      (cascaded : Db) (applied : Option ReconciliationCascadeApplied)
      (hcascade : cascade handler.controlPlaneService now faults result compiled =
        .ok (cascaded, applied))
      (hdb : outsideJobs db' = outsideJobs cascaded)

/-- A run ends as completed. -/
def Completes : Prop :=
  (run handler now faults jobId db).2 = .ok () ∧
    ∃ job, (run handler now faults jobId db).1.queuedJobs.get? jobId = some job ∧
      job.status = .completed

variable {handler now faults jobId db}

theorem outsideJobs_markFailed (message : String) :
    outsideJobs (markFailed faults now jobId message db).1 = outsideJobs db := by
  unfold markFailed
  split <;> rfl

theorem get?_writeJob {f : QueuedJob → QueuedJob} {hf : ∀ j, key (f j) = key j} :
    (writeJob jobId f hf db).queuedJobs.get? jobId = (db.queuedJobs.get? jobId).map f := by
  change (db.queuedJobs.update _ f hf).get? jobId = _
  rw [Table.get?_update]
  refine Option.map_congr fun job hjob => ?_
  have hid : job.id = jobId := Table.key_of_get? hjob
  exact Table.rewrite_of_pos _ _ (by simpa using hid)

/-- A job that is marked as failed is not completed. -/
theorem status_markFailed {id : UUID} {message : String} {job : QueuedJob}
    (hok : (markFailed faults now id message db).2 = .ok ())
    (hjob : (markFailed faults now id message db).1.queuedJobs.get? id = some job) :
    job.status = .failed := by
  unfold markFailed at hok hjob
  split at hok
  · exact absurd hok (by simp)
  · rename_i hfault
    rw [if_neg hfault, get?_writeJob] at hjob
    obtain ⟨old, -, rfl⟩ := Option.map_eq_some_iff.mp hjob
    rfl

variable (handler now faults) in
/-- The body of the `try`: it does not compile, or it does and the cascades fail or not. -/
theorem attempt_cases (field : IdField) (dbRunning : Db) :
    (∃ e, attempt handler now faults field dbRunning = (dbRunning, .error e) ∧
      ∀ snapshotId, field = .uuid snapshotId → .compile ∉ faults.points →
        ∃ e, handler.compileSnapshot snapshotId dbRunning = .error e) ∨
    ∃ snapshotId compiled result, field = .uuid snapshotId ∧ .compile ∉ faults.points ∧
      handler.compileSnapshot snapshotId dbRunning = .ok (compiled, result) ∧
      ((∃ e, cascade handler.controlPlaneService now faults result compiled = .error e ∧
          attempt handler now faults field dbRunning = (compiled, .error e)) ∨
        ∃ cascaded applied,
          cascade handler.controlPlaneService now faults result compiled = .ok (cascaded, applied) ∧
          attempt handler now faults field dbRunning = (cascaded, .ok (result, applied))) := by
  cases field with
  | absent =>
    exact Or.inl ⟨_, rfl, fun _ h => IdField.noConfusion h⟩
  | malformed text =>
    exact Or.inl ⟨_, rfl, fun _ h => IdField.noConfusion h⟩
  | uuid snapshotId =>
    unfold attempt parseSnapshotId
    dsimp only
    by_cases hfault : RaisePoint.compile ∈ faults.points
    · rw [if_pos hfault]
      exact Or.inl ⟨_, rfl, fun _ _ h => absurd hfault h⟩
    · rw [if_neg hfault]
      cases hcompile : handler.compileSnapshot snapshotId dbRunning with
      | error e =>
        refine Or.inl ⟨e, rfl, fun id hid _ => ⟨e, ?_⟩⟩
        rw [← IdField.uuid.inj hid, hcompile]
      | ok committed =>
        obtain ⟨compiled, result⟩ := committed
        refine Or.inr ⟨snapshotId, compiled, result, rfl, hfault, hcompile, ?_⟩
        dsimp only
        cases hcascade : cascade handler.controlPlaneService now faults result compiled with
        | error e => exact Or.inl ⟨e, rfl, rfl⟩
        | ok cascaded => exact Or.inr ⟨cascaded.1, cascaded.2, rfl, rfl⟩

variable (handler now faults jobId db) in
/-- **What a run commits**, outside the table of jobs. -/
theorem runCase : RunCase handler now faults jobId db (run handler now faults jobId db).1 := by
  unfold run
  cases hget : db.queuedJobs.get? jobId with
  | none =>
    refine .untouched rfl fun snapshotId hclaims => ?_
    obtain ⟨job, hjob, -⟩ := hclaims.job
    rw [hget] at hjob
    exact absurd hjob.symm (Option.some_ne_none job)
  | some job =>
    have hid : job.id = jobId := Table.key_of_get? hget
    have hfield : ∀ snapshotId, Claims faults jobId db snapshotId →
        job.payload.snapshotId = .uuid snapshotId := by
      intro snapshotId hclaims
      obtain ⟨job', hjob', hpayload⟩ := hclaims.job
      rw [hget, Option.some_inj] at hjob'
      rw [hjob', hpayload]
    dsimp only
    rw [hid]
    split
    · rename_i habsent
      refine .untouched (outsideJobs_markFailed _) fun snapshotId hclaims => ?_
      rw [hfield snapshotId hclaims] at habsent
      exact IdField.noConfusion habsent
    · split
      · rename_i hclaim
        exact .untouched rfl fun snapshotId hclaims => absurd hclaim hclaims.claimed
      · rename_i hclaim
        rcases attempt_cases handler now faults job.payload.snapshotId
            (markRunning now jobId db) with
          ⟨e, hattempt, hno⟩ | ⟨snapshotId, compiled, result, hpayload, huncut, hcompile, hrest⟩
        · rw [hattempt]
          refine .untouched (outsideJobs_markFailed _) fun snapshotId hclaims => ?_
          exact hno snapshotId (hfield snapshotId hclaims) hclaims.uncut
        · have hclaims : Claims faults jobId db snapshotId := ⟨hclaim, huncut, job, hget, hpayload⟩
          rcases hrest with ⟨e, hcascade, hattempt⟩ | ⟨cascaded, applied, hcascade, hattempt⟩
          · rw [hattempt]
            exact .compiled snapshotId hclaims compiled result hcompile e hcascade
              (outsideJobs_markFailed _)
          · rw [hattempt]
            refine .cascaded snapshotId hclaims compiled result hcompile cascaded applied hcascade ?_
            dsimp only
            split <;> rfl

/-- **A run that ends as completed** has committed a compile and its cascades. -/
theorem Completes.cascaded (h : Completes handler now faults jobId db) :
    ∃ snapshotId compiled result cascaded applied, Claims faults jobId db snapshotId ∧
      handler.compileSnapshot snapshotId (markRunning now jobId db) = .ok (compiled, result) ∧
      cascade handler.controlPlaneService now faults result compiled = .ok (cascaded, applied) ∧
      outsideJobs (run handler now faults jobId db).1 = outsideJobs cascaded := by
  obtain ⟨hok, job', hjob', hcompleted⟩ := h
  have hnot : ∀ (message : String) (d : Db),
      (markFailed faults now jobId message d).2 = .ok () →
        (markFailed faults now jobId message d).1.queuedJobs.get? jobId = some job' → False := by
    intro message d hd hget
    rw [status_markFailed hd hget] at hcompleted
    exact QueuedJobStatus.noConfusion hcompleted
  unfold run at hok hjob' ⊢
  cases hget : db.queuedJobs.get? jobId with
  | none =>
    rw [hget] at hok
    exact absurd hok (by simp)
  | some job =>
    have hid : job.id = jobId := Table.key_of_get? hget
    rw [hget] at hok hjob'
    dsimp only at hok hjob' ⊢
    rw [hid] at hok hjob' ⊢
    split at hok
    · rename_i habsent
      rw [if_pos habsent] at hjob'
      exact (hnot _ _ hok hjob').elim
    · rename_i hpresent
      rw [if_neg hpresent] at hjob'
      split at hok
      · exact absurd hok (by simp)
      · rename_i hclaim
        rw [if_neg hpresent, if_neg hclaim]
        rw [if_neg hclaim] at hjob'
        rcases attempt_cases handler now faults job.payload.snapshotId
            (markRunning now jobId db) with
          ⟨e, hattempt, -⟩ | ⟨snapshotId, compiled, result, hpayload, huncut, hcompile, hrest⟩
        · rw [hattempt] at hok hjob'
          exact (hnot _ _ hok hjob').elim
        · rcases hrest with ⟨e, hcascade, hattempt⟩ | ⟨cascaded, applied, hcascade, hattempt⟩
          · rw [hattempt] at hok hjob'
            exact (hnot _ _ hok hjob').elim
          · rw [hattempt]
            refine ⟨snapshotId, compiled, result, cascaded, applied,
              ⟨hclaim, huncut, job, hget, hpayload⟩, hcompile, hcascade, ?_⟩
            dsimp only
            split <;> rfl

end Run

end AssetCompileJob

end Runlet
