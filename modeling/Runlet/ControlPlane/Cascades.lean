import Runlet.ControlPlane.Service
import Runlet.Library.Switches
import Runlet.AssetCompiler.CompileSpec

/-!
# What the cascades do

`apply_reconciliation_cascades` switches rows off and on: aliases always, published jobs when there
is a service for them.  It cannot fail, and it touches nothing else (`applyReconciliationCascades_eq`).
The lists a compile hands over were chosen among the rows that are on, and among those that are
off (`aliases_chosen`, `jobs_chosen`), so the cascades of a compile are one row map for each of
the two tables.
-/

namespace Runlet

open KeyedTable

namespace ControlPlane

open AssetCompiler

/-! ## The two switches -/

/-- Aliases are disabled by a snapshot, and enabled. -/
def aliasSwitch (now : DateTime) (snapshotId : UUID) : Switch IntentAlias where
  isOn row := row.isActive
  isOff row := !row.isActive
  off := disableAlias now snapshotId "retired_missing"
  on := enableAlias
  key_off := key_disableAlias now snapshotId "retired_missing"
  key_on := key_enableAlias
  exclusive row h := by simp [h]

/-- Published jobs are paused by a snapshot, and resumed. -/
def jobSwitch (snapshotId : UUID) : Switch PublishedJob where
  isOn job := job.state = .active
  isOff job := job.state = .paused
  off := PublishedJobs.pauseJob snapshotId "asset_retired_missing"
  on := PublishedJobs.resumeJob
  key_off := PublishedJobs.key_pauseJob snapshotId "asset_retired_missing"
  key_on := PublishedJobs.key_resumeJob
  exclusive job h := by
    rw [decide_eq_true_eq] at h
    rw [h]
    rfl

section Cascades

variable (service : ControlPlaneService) (now : DateTime) (result : CompileSnapshotResult)
  (db : Db)

def cascadedAliases : Table IntentAlias :=
  (aliasSwitch now result.snapshotId).apply result.aliasIdsToDisable result.aliasIdsToEnable
    db.intentAliases

def cascadedJobs : Table PublishedJob :=
  match service.publishedJobService with
  | none => db.publishedJobs
  | some _ =>
    (jobSwitch result.snapshotId).apply result.publishedJobIdsToPause
      result.publishedJobIdsToResume db.publishedJobs

/-- The database the cascades commit. -/
def cascadedDb : Db :=
  { db with
    intentAliases := cascadedAliases now result db
    publishedJobs := cascadedJobs service result db }

theorem disableAliasesFromCompilerDecisions_eq (aliasIds : List UUID) (snapshotId : UUID) :
    ∃ n, disableAliasesFromCompilerDecisions now aliasIds snapshotId "retired_missing" db = .ok
      ({ db with
          intentAliases := db.intentAliases.updateListed aliasIds (fun row => row.isActive)
            (disableAlias now snapshotId "retired_missing")
            (key_disableAlias now snapshotId "retired_missing") }, n) := by
  unfold disableAliasesFromCompilerDecisions
  split
  · rename_i hnil
    rw [hnil, Table.updateListed_nil]
    exact ⟨0, rfl⟩
  · exact ⟨_, rfl⟩

theorem cascadePublishedJobs_eq :
    ∃ paused resumed, cascadePublishedJobs service.publishedJobService result db =
      .ok ({ db with publishedJobs := cascadedJobs service result db }, paused, resumed) := by
  unfold cascadePublishedJobs cascadedJobs
  cases service.publishedJobService with
  | none => exact ⟨0, 0, rfl⟩
  | some jobs => exact ⟨_, _, rfl⟩

/-- **The cascades cannot fail.** -/
theorem applyReconciliationCascades_eq :
    ∃ applied, applyReconciliationCascades service now result db =
      .ok (cascadedDb service now result db, applied) := by
  obtain ⟨n, hdisable⟩ := disableAliasesFromCompilerDecisions_eq now db result.aliasIdsToDisable
    result.snapshotId
  unfold applyReconciliationCascades
  rw [hdisable]
  simp only [bind, Except.bind, pure, Except.pure]
  obtain ⟨paused, resumed, hjobs⟩ := cascadePublishedJobs_eq service result
    { db with intentAliases := cascadedAliases now result db }
  have henable : (enableAliasesFromCompilerDecisions result.aliasIdsToEnable
      { db with
        intentAliases := db.intentAliases.updateListed result.aliasIdsToDisable
          (fun row => row.isActive) (disableAlias now result.snapshotId "retired_missing")
          (key_disableAlias now result.snapshotId "retired_missing") }).1 =
      { db with intentAliases := cascadedAliases now result db } := rfl
  simp only [henable, hjobs]
  exact ⟨_, rfl⟩

end Cascades

/-! ## The cascades of a compile -/

section Compiled

variable (cx : CompileContext) (outcome : SwitchOutcome) (db : Db) (now : DateTime)

/-- The decisions name aliases that are on to be disabled, and aliases that are off to be enabled. -/
theorem aliases_chosen :
    (aliasSwitch now cx.snapshot.id).Chosen (compileDecisions cx db).aliasIdsToDisable
      (compileDecisions cx db).aliasIdsToEnable (compilePages cx db).db.intentAliases := by
  rw [← intentAliases_retirement]
  constructor
  · intro row hrow hid
    obtain ⟨row', hrow', hactive, -, hid'⟩ := mem_aliasIdsToDisable.mp hid
    rw [Table.eq_of_key_eq hrow hrow' hid'.symm]
    exact hactive
  · intro row hrow hid
    obtain ⟨row', hrow', hactive, -, -, hid'⟩ := mem_aliasIdsToEnable.mp hid
    rw [Table.eq_of_key_eq hrow hrow' hid'.symm]
    change (!row'.isActive) = true
    rw [hactive]
    rfl

/-- The decisions name jobs that are active to be paused, and jobs that are paused to be resumed. -/
theorem jobs_chosen :
    (jobSwitch cx.snapshot.id).Chosen (compileDecisions cx db).publishedJobIdsToPause
      (compileDecisions cx db).publishedJobIdsToResume db.publishedJobs := by
  rw [← publishedJobs_retirement cx]
  constructor
  · intro job hjob hid
    obtain ⟨job', hjob', -, hstate, hid'⟩ := mem_publishedJobIdsToPause.mp hid
    rw [Table.eq_of_key_eq hjob hjob' hid'.symm]
    exact decide_eq_true hstate
  · intro job hjob hid
    obtain ⟨job', hjob', -, hstate, -, hid'⟩ := mem_publishedJobIdsToResume.mp hid
    rw [Table.eq_of_key_eq hjob hjob' hid'.symm]
    exact decide_eq_true hstate

end Compiled

/-! ## A compile and its cascades -/

section Reconciled

variable (cx : CompileContext) (service : ControlPlaneService) (now : DateTime) (db : Db)

/-- A compile of a promoted snapshot and its cascades. -/
def reconciledDb : Db :=
  cascadedDb service now (compilePromoted cx .promoted db).2 (compilePromoted cx .promoted db).1

variable {cx service now db}

/-- **What becomes of the aliases.** -/
theorem mem_aliases_reconciledDb {row : IntentAlias} :
    row ∈ (reconciledDb cx service now db).intentAliases ↔
      ∃ row' ∈ (compilePages cx db).db.intentAliases,
        row = (aliasSwitch now cx.snapshot.id).row (compileDecisions cx db).aliasIdsToDisable
          (compileDecisions cx db).aliasIdsToEnable row' := by
  change row ∈ (aliasSwitch now cx.snapshot.id).apply (compileDecisions cx db).aliasIdsToDisable
    (compileDecisions cx db).aliasIdsToEnable (compilePromoted cx .promoted db).1.intentAliases ↔ _
  rw [intentAliases_compilePromoted]
  exact Switch.mem_apply (aliases_chosen cx db now)

/-- **What becomes of the jobs**, when there is a service for them. -/
theorem mem_jobs_reconciledDb {publishedJobService : PublishedJobService}
    (hservice : service.publishedJobService = some publishedJobService) {job : PublishedJob} :
    job ∈ (reconciledDb cx service now db).publishedJobs ↔
      ∃ job' ∈ db.publishedJobs,
        job = (jobSwitch cx.snapshot.id).row (compileDecisions cx db).publishedJobIdsToPause
          (compileDecisions cx db).publishedJobIdsToResume job' := by
  have hjobs : (reconciledDb cx service now db).publishedJobs =
      (jobSwitch cx.snapshot.id).apply (compileDecisions cx db).publishedJobIdsToPause
        (compileDecisions cx db).publishedJobIdsToResume db.publishedJobs := by
    change cascadedJobs service _ _ = _
    unfold cascadedJobs
    rw [hservice, publishedJobs_compilePromoted]
    rfl
  rw [hjobs]
  exact Switch.mem_apply (jobs_chosen cx db)

/-- Without a service, the jobs stay. -/
theorem jobs_reconciledDb_of_none (hservice : service.publishedJobService = none) :
    (reconciledDb cx service now db).publishedJobs = db.publishedJobs := by
  change cascadedJobs service _ _ = _
  unfold cascadedJobs
  rw [hservice, publishedJobs_compilePromoted]

end Reconciled

/-- A compile that is followed by its cascades. -/
structure ReconcileCall extends CompileCall where
  service : ControlPlaneService
  cascadedAt : DateTime

/-- What the two calls commit. -/
def reconcile (db : Db) (call : ReconcileCall) : Db :=
  match compileSnapshot call.ids call.now call.snapshotId db with
  | .error _ => db
  | .ok (compiled, result) =>
    match applyReconciliationCascades call.service call.cascadedAt result compiled with
    | .error _ => compiled
    | .ok (cascaded, _) => cascaded

theorem cascadedDb_skipped (service : ControlPlaneService) (now : DateTime)
    (snapshot : CrawlSnapshot) (outcome : SwitchOutcome) (db : Db) :
    cascadedDb service now (skippedResult snapshot outcome) db = db := by
  have hnil : ∀ {α : Type} [Keyed UUID α] (sw : Switch α) (t : Table α), sw.apply [] [] t = t := by
    intro α _ sw t
    exact Switch.apply_eq_self (fun _ _ h => absurd h List.not_mem_nil)
      fun _ _ h => absurd h List.not_mem_nil
  have hjobs : cascadedJobs service (skippedResult snapshot outcome) db = db.publishedJobs := by
    unfold cascadedJobs
    split
    · rfl
    · exact hnil _ _
  have haliases : cascadedAliases now (skippedResult snapshot outcome) db = db.intentAliases :=
    hnil _ _
  unfold cascadedDb
  rw [hjobs, haliases]

/-- A promoted snapshot is compiled, and the decisions are applied. -/
theorem reconcile_of_promotedContext {db db' : Db} {cx : CompileContext} {call : ReconcileCall}
    (h : call.toCompileCall.promotedContext db = some (cx, db')) :
    reconcile db call = reconciledDb cx call.service call.cascadedAt db' := by
  obtain ⟨applied, happlied⟩ := applyReconciliationCascades_eq call.service call.cascadedAt
    (compilePromoted cx .promoted db').2 (compilePromoted cx .promoted db').1
  unfold reconcile
  rw [call.toCompileCall.compileSnapshot_of_promotedContext h]
  dsimp only
  rw [happlied]
  rfl

/-- Where no snapshot is promoted, nothing is applied. -/
theorem reconcile_of_promotedContext_none {db : Db} {call : ReconcileCall}
    (h : call.toCompileCall.promotedContext db = none) :
    reconcile db call = db ∨ ∃ snapshot switched,
      CurrentStateSwitch.SwitchCase call.ids call.now db snapshot switched ∧
        reconcile db call = switched.db := by
  unfold reconcile
  rcases call.toCompileCall.compileSnapshot_of_promotedContext_none h with
    ⟨e, hcompile⟩ | ⟨snapshot, switched, hswitch, hcompile⟩
  · rw [hcompile]
    exact Or.inl rfl
  · obtain ⟨applied, happlied⟩ := applyReconciliationCascades_eq call.service call.cascadedAt
      (skippedResult snapshot switched.result.outcome) switched.db
    refine Or.inr ⟨snapshot, switched, hswitch, ?_⟩
    rw [hcompile]
    dsimp only
    rw [happlied]
    exact cascadedDb_skipped _ _ _ _ _

/-- **What a compile and its cascades commit**: nothing, the switch of a snapshot that is set aside,
or a compile with its cascades. -/
theorem reconcile_cases (db : Db) (call : ReconcileCall) :
    (reconcile db call = db ∧
        ∃ e, compileSnapshot call.ids call.now call.snapshotId db = .error e) ∨
      ∃ snapshot system switched, db.crawlSnapshots.get? call.snapshotId = some snapshot ∧
        db.systems.get? snapshot.systemId = some system ∧
        CurrentStateSwitch.SwitchCase call.ids call.now db snapshot switched ∧
        ((switched.result.outcome ≠ .promoted ∧ reconcile db call = switched.db) ∨
          (switched.result.outcome = .promoted ∧ reconcile db call =
            reconciledDb (compileContext call.ids call.now system snapshot switched.db)
              call.service call.cascadedAt switched.db)) := by
  unfold reconcile
  cases hcompile : compileSnapshot call.ids call.now call.snapshotId db with
  | error e => exact Or.inl ⟨rfl, e, rfl⟩
  | ok returned =>
    obtain ⟨snapshot, system, hsnapshot, hsystem, hcase⟩ := compileSnapshot_cases hcompile
    obtain ⟨applied, happlied⟩ := applyReconciliationCascades_eq call.service call.cascadedAt
      returned.2 returned.1
    obtain ⟨compiled, result⟩ := returned
    dsimp only at happlied ⊢
    rw [happlied]
    cases hcase with
    | skipped switched hswitch houtcome =>
      refine Or.inr ⟨snapshot, system, switched, hsnapshot, hsystem, hswitch,
        Or.inl ⟨houtcome, ?_⟩⟩
      exact cascadedDb_skipped _ _ _ _ _
    | promoted switched hswitch houtcome =>
      refine Or.inr ⟨snapshot, system, switched, hsnapshot, hsystem, hswitch,
        Or.inr ⟨houtcome, rfl⟩⟩

end ControlPlane

end Runlet
