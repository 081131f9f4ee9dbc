import Runlet.ControlPlane.Cascades
import Runlet.Library.Transactions

/-!
# The cascades, statement by statement

`apply_reconciliation_cascades` runs four groups of statements on one session, with a flush at the
end of each group, and one commit.  Any of the statements may raise, the commit and the rollback
included (`CascadeFaults`); a flush that raises may have sent some of its updates.

`cascadeBody_eq_ok` leads back to the cascades as one step: statements that do not raise write what
`applyReconciliationCascades` says.
-/

namespace Runlet

open KeyedTable
open Transactions (Action Fault Session statement)

namespace ControlPlane

/-- The statements that raise, and how. -/
structure CascadeFaults where
  selectActiveAliases : Option (Fault Db String) := none
  flushDisabled : Option (Fault Db String) := none
  selectInactiveAliases : Option (Fault Db String) := none
  flushEnabled : Option (Fault Db String) := none
  selectActiveJobs : Option (Fault Db String) := none
  flushPaused : Option (Fault Db String) := none
  selectPausedJobs : Option (Fault Db String) := none
  flushResumed : Option (Fault Db String) := none
  commit : Option (Fault Db String) := none
  rollback : Option (Fault Db String) := none

/-- Select rows, rewrite them and flush; without a row there is nothing to flush. -/
def rewriteSelected (selectFault flushFault : Option (Fault Db String)) (selected : Db → ℕ)
    (write : Db → Db) : Action Db String ℕ := do
  let n ← statement selectFault fun db => (db, selected db)
  if n = 0 then return 0
  else
    statement flushFault fun db => (write db, ())
    return n

section Statements

variable (faults : CascadeFaults) (now : DateTime)

/-- The active ones of some aliases, disabled for a reason. -/
def disableActive (aliasIds : List UUID) (snapshotId : UUID) (reason : String) (db : Db) : Db :=
  { db with
    intentAliases := db.intentAliases.updateListed aliasIds (fun row => row.isActive)
      (disableAlias now snapshotId reason) (key_disableAlias now snapshotId reason) }

def disableAliasesStatements (aliasIds : List UUID) (snapshotId : UUID) (reason : String) :
    Action Db String ℕ :=
  if aliasIds = [] then pure 0
  else if Text.strip reason = "" then Transactions.raise "reason must not be empty"
  else
    rewriteSelected faults.selectActiveAliases faults.flushDisabled
      (fun db => db.intentAliases.countListed aliasIds fun row => row.isActive)
      (disableActive now aliasIds snapshotId (Text.strip reason))

def enableAliasesStatements (aliasIds : List UUID) : Action Db String ℕ :=
  if aliasIds = [] then pure 0
  else
    rewriteSelected faults.selectInactiveAliases faults.flushEnabled
      (fun db => db.intentAliases.countListed aliasIds fun row => !row.isActive)
      fun db =>
        { db with
          intentAliases := db.intentAliases.updateListed aliasIds (fun row => !row.isActive)
            enableAlias key_enableAlias }

def pausePublishedJobsStatements (publishedJobIds : List UUID) (snapshotId : UUID)
    (reason : String) : Action Db String ℕ :=
  match PublishedJobs.validateRequiredText reason with
  | .error e => Transactions.raise e
  | .ok normalizedReason =>
    if publishedJobIds = [] then pure 0
    else
      rewriteSelected faults.selectActiveJobs faults.flushPaused
        (fun db => db.publishedJobs.countListed publishedJobIds fun job => job.state = .active)
        fun db =>
          { db with
            publishedJobs := db.publishedJobs.updateListed publishedJobIds
              (fun job => job.state = .active) (PublishedJobs.pauseJob snapshotId normalizedReason)
              (PublishedJobs.key_pauseJob snapshotId normalizedReason) }

def resumePublishedJobsStatements (publishedJobIds : List UUID) : Action Db String ℕ :=
  if publishedJobIds = [] then pure 0
  else
    rewriteSelected faults.selectPausedJobs faults.flushResumed
      (fun db => db.publishedJobs.countListed publishedJobIds fun job => job.state = .paused)
      fun db =>
        { db with
          publishedJobs := db.publishedJobs.updateListed publishedJobIds
            (fun job => job.state = .paused) PublishedJobs.resumeJob PublishedJobs.key_resumeJob }

def publishedJobStatements (service : Option PublishedJobService) (result : CompileSnapshotResult) :
    Action Db String (ℕ × ℕ) :=
  match service with
  | none => pure (0, 0)
  | some _ => do
    let paused ← pausePublishedJobsStatements faults result.publishedJobIdsToPause
      result.snapshotId "asset_retired_missing"
    let resumed ← resumePublishedJobsStatements faults result.publishedJobIdsToResume
    return (paused, resumed)

/-- The body of the `try`, up to the commit. -/
def cascadeBody (service : ControlPlaneService) (result : CompileSnapshotResult) :
    Action Db String ReconciliationCascadeApplied := do
  let disabled ← disableAliasesStatements faults now result.aliasIdsToDisable result.snapshotId
    "retired_missing"
  let enabled ← enableAliasesStatements faults result.aliasIdsToEnable
  let jobs ← publishedJobStatements faults service.publishedJobService result
  return ⟨disabled, enabled, jobs.1, jobs.2⟩

/-- `apply_reconciliation_cascades`. -/
def applyReconciliationCascadesIn (service : ControlPlaneService) (result : CompileSnapshotResult) :
    Action Db String ReconciliationCascadeApplied :=
  Transactions.transaction (cascadeBody faults now service result) faults.commit faults.rollback

end Statements

/-! ## Nothing is committed before the end -/

section Keeps

open Transactions

variable {faults : CascadeFaults} {now : DateTime}

theorem keepsCommitted_rewriteSelected (selectFault flushFault : Option (Fault Db String))
    (selected : Db → ℕ) (write : Db → Db) :
    KeepsCommitted (rewriteSelected selectFault flushFault selected write) :=
  (keepsCommitted_statement selectFault _).bind fun n =>
    KeepsCommitted.ite (keepsCommitted_pure 0)
      ((keepsCommitted_statement flushFault _).bind fun _ => keepsCommitted_pure n)

theorem keepsCommitted_publishedJobStatements (service : Option PublishedJobService)
    (result : CompileSnapshotResult) :
    KeepsCommitted (publishedJobStatements faults service result) := by
  unfold publishedJobStatements
  split
  · exact keepsCommitted_pure _
  · refine KeepsCommitted.bind ?_ fun paused => KeepsCommitted.bind ?_ fun resumed =>
      keepsCommitted_pure _
    · unfold pausePublishedJobsStatements
      split
      · exact keepsCommitted_raise _
      · exact (keepsCommitted_pure 0).ite (keepsCommitted_rewriteSelected _ _ _ _)
    · exact (keepsCommitted_pure 0).ite (keepsCommitted_rewriteSelected _ _ _ _)

theorem keepsCommitted_cascadeBody (service : ControlPlaneService)
    (result : CompileSnapshotResult) :
    KeepsCommitted (cascadeBody faults now service result) := by
  refine KeepsCommitted.bind ?_ fun disabled => KeepsCommitted.bind ?_ fun enabled =>
    (keepsCommitted_publishedJobStatements _ result).bind fun jobs => keepsCommitted_pure _
  · exact (keepsCommitted_pure 0).ite
      ((keepsCommitted_raise _).ite (keepsCommitted_rewriteSelected _ _ _ _))
  · exact (keepsCommitted_pure 0).ite (keepsCommitted_rewriteSelected _ _ _ _)

end Keeps

/-! ## What is written -/

section Written

open Transactions (bind_eq_ok_iff statement_eq_ok_iff pure_eq_ok_iff)

variable {faults : CascadeFaults} {now : DateTime} {s s' : Session Db}

theorem rewriteSelected_eq_ok {selectFault flushFault : Option (Fault Db String)}
    {selected : Db → ℕ} {write : Db → Db} {n : ℕ}
    (hnone : ∀ db, selected db = 0 → write db = db)
    (h : rewriteSelected selectFault flushFault selected write s = (s', .ok n)) :
    s'.pending = write s.pending ∧ n = selected s.pending := by
  obtain ⟨s₁, m, hselect, hrest⟩ := bind_eq_ok_iff.mp h
  obtain ⟨-, rfl, rfl⟩ := statement_eq_ok_iff.mp hselect
  dsimp only at hrest
  split at hrest
  next hzero =>
    obtain ⟨rfl, rfl⟩ := pure_eq_ok_iff.mp hrest
    exact ⟨(hnone s.pending hzero).symm, hzero.symm⟩
  next =>
    obtain ⟨s₂, u, hflush, hpure⟩ := bind_eq_ok_iff.mp hrest
    obtain ⟨-, rfl, -⟩ := statement_eq_ok_iff.mp hflush
    obtain ⟨rfl, rfl⟩ := pure_eq_ok_iff.mp hpure
    exact ⟨rfl, rfl⟩

theorem disableAliasesStatements_eq_ok {aliasIds : List UUID} {snapshotId : UUID} {reason : String}
    {n : ℕ} (h : disableAliasesStatements faults now aliasIds snapshotId reason s = (s', .ok n)) :
    disableAliasesFromCompilerDecisions now aliasIds snapshotId reason s.pending =
      .ok (s'.pending, n) := by
  unfold disableAliasesStatements at h
  unfold disableAliasesFromCompilerDecisions
  split at h
  next hnil =>
    obtain ⟨rfl, rfl⟩ := pure_eq_ok_iff.mp h
    rw [if_pos hnil]
  next hne =>
    split at h
    next => cases h
    next hreason =>
      obtain ⟨hpending, rfl⟩ := rewriteSelected_eq_ok (fun db hzero => by
        rw [disableActive, Table.updateListed_of_countListed_eq_zero hzero]) h
      rw [if_neg hne, if_neg hreason, hpending, disableActive]

theorem enableAliasesStatements_eq_ok {aliasIds : List UUID} {n : ℕ}
    (h : enableAliasesStatements faults aliasIds s = (s', .ok n)) :
    enableAliasesFromCompilerDecisions aliasIds s.pending = (s'.pending, n) := by
  unfold enableAliasesStatements at h
  unfold enableAliasesFromCompilerDecisions
  split at h
  next hnil =>
    obtain ⟨rfl, rfl⟩ := pure_eq_ok_iff.mp h
    rw [hnil, Table.updateListed_nil]
    simp [Table.countListed]
  next hne =>
    obtain ⟨hpending, rfl⟩ := rewriteSelected_eq_ok (fun db hzero => by
      rw [Table.updateListed_of_countListed_eq_zero hzero]) h
    rw [hpending]

theorem pausePublishedJobsStatements_eq_ok {publishedJobIds : List UUID} {snapshotId : UUID}
    {reason : String} {n : ℕ}
    (h : pausePublishedJobsStatements faults publishedJobIds snapshotId reason s = (s', .ok n)) :
    PublishedJobs.pausePublishedJobsByIds publishedJobIds snapshotId reason s.pending =
      .ok (s'.pending, n) := by
  unfold pausePublishedJobsStatements at h
  unfold PublishedJobs.pausePublishedJobsByIds
  cases hreason : PublishedJobs.validateRequiredText reason with
  | error e =>
    rw [hreason] at h
    cases h
  | ok normalizedReason =>
    rw [hreason] at h
    dsimp only at h
    split at h
    next hnil =>
      obtain ⟨rfl, rfl⟩ := pure_eq_ok_iff.mp h
      simp [hnil, Table.countListed, bind, Except.bind, pure, Except.pure]
    next hne =>
      obtain ⟨hpending, rfl⟩ := rewriteSelected_eq_ok (fun db hzero => by
        rw [Table.updateListed_of_countListed_eq_zero hzero]) h
      rw [hpending]
      rfl

theorem resumePublishedJobsStatements_eq_ok {publishedJobIds : List UUID} {n : ℕ}
    (h : resumePublishedJobsStatements faults publishedJobIds s = (s', .ok n)) :
    PublishedJobs.resumePublishedJobsByIds publishedJobIds s.pending = (s'.pending, n) := by
  unfold resumePublishedJobsStatements at h
  unfold PublishedJobs.resumePublishedJobsByIds
  split at h
  next hnil =>
    obtain ⟨rfl, rfl⟩ := pure_eq_ok_iff.mp h
    rw [hnil, Table.updateListed_nil]
    simp [Table.countListed]
  next hne =>
    obtain ⟨hpending, rfl⟩ := rewriteSelected_eq_ok (fun db hzero => by
      rw [Table.updateListed_of_countListed_eq_zero hzero]) h
    rw [hpending]

theorem publishedJobStatements_eq_ok {service : Option PublishedJobService}
    {result : CompileSnapshotResult} {jobs : ℕ × ℕ}
    (h : publishedJobStatements faults service result s = (s', .ok jobs)) :
    cascadePublishedJobs service result s.pending = .ok (s'.pending, jobs.1, jobs.2) := by
  unfold publishedJobStatements at h
  unfold cascadePublishedJobs
  split at h
  next =>
    obtain ⟨rfl, rfl⟩ := pure_eq_ok_iff.mp h
    rfl
  next =>
    obtain ⟨s₁, paused, hpause, hrest⟩ := bind_eq_ok_iff.mp h
    obtain ⟨s₂, resumed, hresume, hpure⟩ := bind_eq_ok_iff.mp hrest
    obtain ⟨rfl, rfl⟩ := pure_eq_ok_iff.mp hpure
    dsimp only
    rw [pausePublishedJobsStatements_eq_ok hpause]
    dsimp only [bind, Except.bind]
    rw [resumePublishedJobsStatements_eq_ok hresume]
    rfl

/-- **Statements that do not raise write what the cascades as one step write.** -/
theorem cascadeBody_eq_ok {service : ControlPlaneService} {result : CompileSnapshotResult}
    {applied : ReconciliationCascadeApplied}
    (h : cascadeBody faults now service result s = (s', .ok applied)) :
    applyReconciliationCascades service now result s.pending = .ok (s'.pending, applied) := by
  obtain ⟨s₁, disabled, hdisable, hrest⟩ := bind_eq_ok_iff.mp h
  obtain ⟨s₂, enabled, henable, hrest⟩ := bind_eq_ok_iff.mp hrest
  obtain ⟨s₃, jobs, hjobs, hpure⟩ := bind_eq_ok_iff.mp hrest
  obtain ⟨rfl, rfl⟩ := pure_eq_ok_iff.mp hpure
  unfold applyReconciliationCascades
  rw [disableAliasesStatements_eq_ok hdisable]
  dsimp only [bind, Except.bind]
  rw [enableAliasesStatements_eq_ok henable]
  dsimp only
  rw [publishedJobStatements_eq_ok hjobs]
  rfl

/-- A run that returns commits the cascades. -/
theorem applyReconciliationCascadesIn_eq_ok {service : ControlPlaneService}
    {result : CompileSnapshotResult} {applied : ReconciliationCascadeApplied}
    (h : applyReconciliationCascadesIn faults now service result s = (s', .ok applied)) :
    s' = Session.opened (cascadedDb service now result s.pending) := by
  obtain ⟨s₁, hbody, rfl⟩ := Transactions.transaction_eq_ok h
  obtain ⟨applied', happlied⟩ := applyReconciliationCascades_eq service now result s.pending
  rw [cascadeBody_eq_ok hbody] at happlied
  rw [(Prod.mk.inj (Except.ok.inj happlied)).1]

end Written

/-! ## Without a fault -/

section Returns

variable {now : DateTime}

theorem rewriteSelected_returns (selected : Db → ℕ) (write : Db → Db) (s : Session Db) :
    ∃ s' n, rewriteSelected none none selected write s = (s', .ok n) := by
  by_cases hzero : selected s.pending = 0
  · refine ⟨s, 0, Transactions.bind_eq_ok_iff.mpr ⟨s, selected s.pending, rfl, ?_⟩⟩
    rw [if_pos hzero]
    rfl
  · refine ⟨{ s with pending := write s.pending }, selected s.pending,
      Transactions.bind_eq_ok_iff.mpr ⟨s, selected s.pending, rfl, ?_⟩⟩
    rw [if_neg hzero]
    rfl

theorem publishedJobStatements_returns (service : Option PublishedJobService)
    (result : CompileSnapshotResult) (s : Session Db) :
    ∃ s' jobs, publishedJobStatements {} service result s = (s', .ok jobs) := by
  cases service with
  | none => exact ⟨s, (0, 0), rfl⟩
  | some service =>
    obtain ⟨s₁, paused, hpause⟩ : ∃ s₁ n, pausePublishedJobsStatements {}
        result.publishedJobIdsToPause result.snapshotId "asset_retired_missing" s = (s₁, .ok n) := by
      change ∃ s₁ n, (if result.publishedJobIdsToPause = [] then (pure 0 : Action Db String ℕ)
        else rewriteSelected none none _ _) s = (s₁, .ok n)
      split
      · exact ⟨s, 0, rfl⟩
      · exact rewriteSelected_returns _ _ s
    obtain ⟨s₂, resumed, hresume⟩ : ∃ s₂ n, resumePublishedJobsStatements {}
        result.publishedJobIdsToResume s₁ = (s₂, .ok n) := by
      unfold resumePublishedJobsStatements
      split
      · exact ⟨s₁, 0, rfl⟩
      · exact rewriteSelected_returns _ _ s₁
    exact ⟨s₂, (paused, resumed), Transactions.bind_eq_ok_iff.mpr ⟨s₁, paused, hpause,
      Transactions.bind_eq_ok_iff.mpr ⟨s₂, resumed, hresume, rfl⟩⟩⟩

/-- The cascades return when no statement raises. -/
theorem returns_of_no_faults (service : ControlPlaneService) (result : CompileSnapshotResult)
    (s : Session Db) :
    ∃ s' applied, applyReconciliationCascadesIn {} now service result s = (s', .ok applied) := by
  obtain ⟨s₁, disabled, hdisable⟩ : ∃ s₁ n, disableAliasesStatements {} now
      result.aliasIdsToDisable result.snapshotId "retired_missing" s = (s₁, .ok n) := by
    unfold disableAliasesStatements
    split
    · exact ⟨s, 0, rfl⟩
    · exact rewriteSelected_returns _ _ s
  obtain ⟨s₂, enabled, henable⟩ : ∃ s₂ n, enableAliasesStatements {} result.aliasIdsToEnable s₁ =
      (s₂, .ok n) := by
    unfold enableAliasesStatements
    split
    · exact ⟨s₁, 0, rfl⟩
    · exact rewriteSelected_returns _ _ s₁
  obtain ⟨s₃, jobs, hjobs⟩ := publishedJobStatements_returns service.publishedJobService result s₂
  have hbody : cascadeBody {} now service result s =
      (s₃, .ok ⟨disabled, enabled, jobs.1, jobs.2⟩) :=
    Transactions.bind_eq_ok_iff.mpr ⟨s₁, disabled, hdisable,
      Transactions.bind_eq_ok_iff.mpr ⟨s₂, enabled, henable,
        Transactions.bind_eq_ok_iff.mpr ⟨s₃, jobs, hjobs, rfl⟩⟩⟩
  exact ⟨_, _, Transactions.transaction_of_ok hbody⟩

end Returns

/-! ## Atomic, idempotent, local -/

section Sound

variable {service : ControlPlaneService} {now now' : DateTime} {result : CompileSnapshotResult}
  {db : Db}

/-- Cascading the same decisions again changes nothing. -/
theorem cascadedDb_cascadedDb
    (haliases : result.aliasIdsToDisable.Disjoint result.aliasIdsToEnable)
    (hjobs : result.publishedJobIdsToPause.Disjoint result.publishedJobIdsToResume) :
    cascadedDb service now' result (cascadedDb service now result db) =
      cascadedDb service now result db := by
  have haliases' : cascadedAliases now' result (cascadedDb service now result db) =
      cascadedAliases now result db :=
    Switch.apply_apply (fun _ => rfl) (fun _ => rfl) haliases
      (aliasSwitch now' result.snapshotId) rfl rfl
  have hjobs' : cascadedJobs service result (cascadedDb service now result db) =
      cascadedJobs service result db := by
    unfold cascadedDb cascadedJobs
    cases service.publishedJobService with
    | none => rfl
    | some jobs =>
      exact Switch.apply_apply (fun _ => rfl) (fun _ => rfl) hjobs (jobSwitch result.snapshotId)
        rfl rfl
  calc cascadedDb service now' result (cascadedDb service now result db)
      = { cascadedDb service now result db with
          intentAliases := cascadedAliases now' result (cascadedDb service now result db)
          publishedJobs := cascadedJobs service result (cascadedDb service now result db) } := rfl
    _ = cascadedDb service now result db := by
      rw [haliases', hjobs']
      rfl

/-- Of a table, only rows under listed keys differ, and no row comes or goes. -/
structure OnlyListed {α : Type} [Keyed UUID α] (ids : List UUID) (t t' : Table α) : Prop where
  keys : t'.rows.map key = t.rows.map key
  rows : ∀ id, id ∉ ids → t'.get? id = t.get? id

theorem onlyListed_cascadedAliases :
    OnlyListed (result.aliasIdsToDisable ++ result.aliasIdsToEnable) db.intentAliases
      (cascadedAliases now result db) where
  keys := Switch.map_key_apply
  rows id hid := by
    rw [List.mem_append, not_or] at hid
    exact Switch.get?_apply_of_notMem hid.1 hid.2

theorem onlyListed_cascadedJobs :
    OnlyListed (result.publishedJobIdsToPause ++ result.publishedJobIdsToResume) db.publishedJobs
      (cascadedJobs service result db) := by
  unfold cascadedJobs
  split
  · exact ⟨rfl, fun _ _ => rfl⟩
  · refine ⟨Switch.map_key_apply, fun id hid => ?_⟩
    rw [List.mem_append, not_or] at hid
    exact Switch.get?_apply_of_notMem hid.1 hid.2

variable (service result db) in
/-- What the cascades of some decisions do to a database, whatever raises. -/
structure CascadesSound : Prop where
  atomic : ∀ faults now s' e,
    applyReconciliationCascadesIn faults now service result (Session.opened db) = (s', .error e) →
      s'.committed = db
  idempotent : result.aliasIdsToDisable.Disjoint result.aliasIdsToEnable →
    result.publishedJobIdsToPause.Disjoint result.publishedJobIdsToResume →
      ∀ faults now s' applied,
        applyReconciliationCascadesIn faults now service result (Session.opened db) =
            (s', .ok applied) →
          ∀ faults' now',
            (applyReconciliationCascadesIn faults' now' service result s').1.committed =
              s'.committed
  onlyAliases : ∀ faults now,
    OnlyListed (result.aliasIdsToDisable ++ result.aliasIdsToEnable) db.intentAliases
      (applyReconciliationCascadesIn faults now service result
        (Session.opened db)).1.committed.intentAliases
  onlyJobs : ∀ faults now,
    OnlyListed (result.publishedJobIdsToPause ++ result.publishedJobIdsToResume) db.publishedJobs
      (applyReconciliationCascadesIn faults now service result
        (Session.opened db)).1.committed.publishedJobs
  outside : ∀ faults now,
    { (applyReconciliationCascadesIn faults now service result (Session.opened db)).1.committed with
      intentAliases := db.intentAliases
      publishedJobs := db.publishedJobs } = db

variable (service result) in
/-- A run commits the cascades, or nothing. -/
theorem committed_cases (faults : CascadeFaults) (now : DateTime) (s : Session Db) :
    (∃ applied s', applyReconciliationCascadesIn faults now service result s = (s', .ok applied) ∧
        s'.committed = cascadedDb service now result s.pending) ∨
      ∃ e s', applyReconciliationCascadesIn faults now service result s = (s', .error e) ∧
        s'.committed = s.committed := by
  rcases hrun : applyReconciliationCascadesIn faults now service result s with ⟨s', e | applied⟩
  · exact Or.inr ⟨_, s', rfl,
      Transactions.committed_of_error (keepsCommitted_cascadeBody service result) hrun⟩
  · refine Or.inl ⟨_, s', rfl, ?_⟩
    rw [applyReconciliationCascadesIn_eq_ok hrun]
    rfl

/-- **The cascades are atomic, idempotent and local.** -/
theorem cascades_sound (service : ControlPlaneService) (result : CompileSnapshotResult) (db : Db) :
    CascadesSound service result db where
  atomic faults now s' e h :=
    Transactions.committed_of_error (keepsCommitted_cascadeBody service result) h
  idempotent haliases hjobs faults now s' applied h faults' now' := by
    rw [applyReconciliationCascadesIn_eq_ok h]
    rcases committed_cases service result faults' now'
      (Session.opened (cascadedDb service now result db)) with ⟨_, s₂, hrun, hs₂⟩ | ⟨_, s₂, hrun, hs₂⟩
    · rw [show (Session.opened db).pending = db from rfl, hrun]
      exact hs₂.trans (cascadedDb_cascadedDb haliases hjobs)
    · rw [show (Session.opened db).pending = db from rfl, hrun]
      exact hs₂
  onlyAliases faults now := by
    rcases committed_cases service result faults now (Session.opened db)
      with ⟨_, s', hrun, hs'⟩ | ⟨_, s', hrun, hs'⟩
    · rw [hrun, hs']
      exact onlyListed_cascadedAliases
    · rw [hrun, hs']
      exact ⟨rfl, fun _ _ => rfl⟩
  onlyJobs faults now := by
    rcases committed_cases service result faults now (Session.opened db)
      with ⟨_, s', hrun, hs'⟩ | ⟨_, s', hrun, hs'⟩
    · rw [hrun, hs']
      exact onlyListed_cascadedJobs
    · rw [hrun, hs']
      exact ⟨rfl, fun _ _ => rfl⟩
  outside faults now := by
    rcases committed_cases service result faults now (Session.opened db)
      with ⟨_, s', hrun, hs'⟩ | ⟨_, s', hrun, hs'⟩
    · rw [hrun, hs']
      rfl
    · rw [hrun, hs']
      rfl

end Sound

end ControlPlane

end Runlet
