import Runlet.ControlPlane.Cascades

/-!
# Reconciliation undoes only its own work

An alias that is inactive and carries no mark of a snapshot, and a job that is not active and was
not paused by the program, are never switched on by a compile and its cascades, however many of
them follow each other: `undoes_own_work`.
-/

namespace Runlet

open KeyedTable

namespace ControlPlane

open AssetCompiler

/-! ## Rows that were switched off by hand -/

/-- The alias is inactive, and no snapshot disabled it. -/
def IsDisabledByHand (row : IntentAlias) : Prop :=
  row.isActive = false ∧ row.disabledBySnapshotId = none

/-- The job is not active, and the program did not pause it. -/
def IsStoppedByHand (job : PublishedJob) : Prop :=
  job.state ≠ .active ∧ isSystemPausedJob job = false

theorem IsDisabledByHand.not_systemDisabled {row : IntentAlias} (h : IsDisabledByHand row) :
    isSystemDisabledAlias row = false := by
  unfold isSystemDisabledAlias
  rw [h.2]
  rfl

theorem IsDisabledByHand.of_aliasCore {row row' : IntentAlias} (h : IsDisabledByHand row)
    (hcore : aliasCore row' = aliasCore row) : IsDisabledByHand row' := by
  have hactive := congrArg IntentAlias.isActive hcore
  have hmark := congrArg IntentAlias.disabledBySnapshotId hcore
  exact ⟨Eq.trans hactive h.1, Eq.trans hmark h.2⟩

/-! ## One compile -/

section Step

variable {cx : CompileContext} {service : ControlPlaneService} {now : DateTime} {db : Db}

theorem alias_reconciledDb {row : IntentAlias} (hrow : row ∈ db.intentAliases)
    (h : IsDisabledByHand row) :
    ∃ row' ∈ (reconciledDb cx service now db).intentAliases, row'.id = row.id ∧
      IsDisabledByHand row' := by
  obtain ⟨H, -, hinv⟩ := compilePages_inv cx db
  obtain ⟨row', hrow', hid, hcore⟩ := hinv.aliases.evolves.kept row hrow
  have hhand := h.of_aliasCore hcore
  refine ⟨row', mem_aliases_reconciledDb.mpr ⟨row', hrow', ?_⟩, hid, hhand⟩
  refine (Switch.row_eq_self (aliases_chosen cx db now) hrow' hhand.1 fun henable => ?_).symm
  -- What is enabled carries the mark of a snapshot.
  obtain ⟨b, hb, -, hsystem, -, hbid⟩ := mem_aliasIdsToEnable.mp henable
  rw [intentAliases_retirement] at hb
  rw [Table.eq_of_key_eq hb hrow' hbid, hhand.not_systemDisabled] at hsystem
  exact Bool.false_ne_true hsystem

theorem job_reconciledDb {job : PublishedJob} (hjob : job ∈ db.publishedJobs)
    (h : IsStoppedByHand job) : job ∈ (reconciledDb cx service now db).publishedJobs := by
  cases hservice : service.publishedJobService with
  | none =>
    rw [jobs_reconciledDb_of_none hservice]
    exact hjob
  | some publishedJobService =>
    rw [mem_jobs_reconciledDb hservice]
    refine ⟨job, hjob, ?_⟩
    refine (Switch.row_eq_self (jobs_chosen cx db) hjob (decide_eq_false h.1) fun hresume => ?_).symm
    -- What is resumed was paused by the program.
    obtain ⟨b, hb, -, -, hsystem, hbid⟩ := mem_publishedJobIdsToResume.mp hresume
    rw [publishedJobs_retirement] at hb
    rw [Table.eq_of_key_eq hb hjob hbid, h.2] at hsystem
    exact Bool.false_ne_true hsystem

end Step

theorem alias_reconcile {db : Db} (call : ReconcileCall) {row : IntentAlias}
    (hrow : row ∈ db.intentAliases) (h : IsDisabledByHand row) :
    ∃ row' ∈ (reconcile db call).intentAliases, row'.id = row.id ∧ IsDisabledByHand row' := by
  rcases reconcile_cases db call with
    ⟨hdb, -⟩ | ⟨snapshot, system, switched, -, -, hswitch, ⟨-, hdb⟩ | ⟨-, hdb⟩⟩
  · rw [hdb]
    exact ⟨row, hrow, rfl, h⟩
  · have hsame := congrArg Db.intentAliases (hswitch.outsideSwitch_eq hswitch.db_mem)
    refine ⟨row, ?_, rfl, h⟩
    rw [hdb, show switched.db.intentAliases = db.intentAliases from hsame]
    exact hrow
  · have hsame := congrArg Db.intentAliases (hswitch.outsideSwitch_eq hswitch.db_mem)
    rw [hdb]
    refine alias_reconciledDb ?_ h
    rw [show switched.db.intentAliases = db.intentAliases from hsame]
    exact hrow

theorem job_reconcile {db : Db} (call : ReconcileCall) {job : PublishedJob}
    (hjob : job ∈ db.publishedJobs) (h : IsStoppedByHand job) :
    job ∈ (reconcile db call).publishedJobs := by
  rcases reconcile_cases db call with
    ⟨hdb, -⟩ | ⟨snapshot, system, switched, -, -, hswitch, ⟨-, hdb⟩ | ⟨-, hdb⟩⟩
  · rw [hdb]
    exact hjob
  · have hsame := congrArg Db.publishedJobs (hswitch.outsideSwitch_eq hswitch.db_mem)
    rw [hdb, show switched.db.publishedJobs = db.publishedJobs from hsame]
    exact hjob
  · have hsame := congrArg Db.publishedJobs (hswitch.outsideSwitch_eq hswitch.db_mem)
    rw [hdb]
    refine job_reconciledDb ?_ h
    rw [show switched.db.publishedJobs = db.publishedJobs from hsame]
    exact hjob

/-! ## Runs -/

/-- **Reconciliation undoes only its own work**, over runs of compiles with their cascades: an
alias that is inactive without the mark of a snapshot stays inactive, and a job that is not active
and was not paused by the program stays as it is. -/
theorem undoes_own_work (db : Db) (calls : List ReconcileCall) :
    (∀ row ∈ db.intentAliases, row.isActive = false → row.disabledBySnapshotId = none →
        ∃ row' ∈ (Run.final reconcile db calls).intentAliases, row'.id = row.id ∧
          row'.isActive = false ∧ row'.disabledBySnapshotId = none) ∧
      ∀ job ∈ db.publishedJobs, job.state ≠ .active → isSystemPausedJob job = false →
        job ∈ (Run.final reconcile db calls).publishedJobs := by
  constructor
  · intro row hrow hinactive hmark
    refine Run.invariant (I := fun d : Db => ∃ row' ∈ d.intentAliases, row'.id = row.id ∧
      IsDisabledByHand row') (fun d call hd => ?_) calls ⟨row, hrow, rfl, hinactive, hmark⟩
    obtain ⟨row', hrow', hid, hhand⟩ := hd
    obtain ⟨row'', hrow'', hid', hhand'⟩ := alias_reconcile call hrow' hhand
    exact ⟨row'', hrow'', hid'.trans hid, hhand'⟩
  · intro job hjob hstate hsystem
    exact Run.invariant (I := fun d : Db => job ∈ d.publishedJobs)
      (fun d call hd => job_reconcile call hd ⟨hstate, hsystem⟩) calls hjob

/-! ## Two compiles of a page -/

namespace OwnWorkSample

/-- An alias of the page that a user disabled. -/
def row : IntentAlias where
  id := 50
  systemAlias := "erp"
  pageAlias := some "A"
  checkAlias := "page_open"
  routeHint := none
  assetKey := "erp.a"
  source := "user"
  isActive := false
  disabledReason := some "noise"

/-- A job that a user paused. -/
def job : PublishedJob where
  id := 60
  jobKey := "k"
  pageCheckId := 1
  scheduleExpr := "0 * * * *"
  state := .paused
  pauseReason := some "holiday"

def snapshot : CrawlSnapshot where
  id := 10
  systemId := 1
  crawlType := "full"
  qualityScore := some 1
  startedAt := 0

def page : Page where
  id := 20
  systemId := 1
  snapshotId := some 10
  routePath := "/a"
  pageTitle := some "A"

def db : Db :=
  { systems := .single { id := 1, code := "erp", name := "ERP", baseUrl := "/" }
    crawlSnapshots := ⟨[snapshot], by decide⟩
    pages := ⟨[page], by decide⟩
    intentAliases := ⟨[row], by decide⟩
    publishedJobs := ⟨[job], by decide⟩ }

def calls : List ReconcileCall :=
  let service : ControlPlaneService := { publishedJobService := some ⟨fun _ => true⟩ }
  [{ ids := .ascending, now := 1, snapshotId := 10, service := service, cascadedAt := 2 },
    { ids := .ascending, now := 3, snapshotId := 10, service := service, cascadedAt := 4 }]

end OwnWorkSample

theorem undoes_own_work_sample :
    (∃ row' ∈ (Run.final reconcile OwnWorkSample.db OwnWorkSample.calls).intentAliases,
        row'.id = 50 ∧ row'.isActive = false ∧ row'.disabledBySnapshotId = none) ∧
      OwnWorkSample.job ∈ (Run.final reconcile OwnWorkSample.db OwnWorkSample.calls).publishedJobs :=
  ⟨(undoes_own_work OwnWorkSample.db OwnWorkSample.calls).1 OwnWorkSample.row
      List.mem_cons_self rfl rfl,
    (undoes_own_work OwnWorkSample.db OwnWorkSample.calls).2 OwnWorkSample.job
      List.mem_cons_self (by decide) (by decide)⟩

end ControlPlane

end Runlet
