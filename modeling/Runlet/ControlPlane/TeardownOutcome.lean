import Runlet.ControlPlane.TeardownSpec
import Runlet.ControlPlane.RepeatedOnboarding

/-!
# What a teardown comes to

A teardown that the database does not refuse takes the rows that were collected and no others, and
the check that follows finds nothing left.  One that it refuses leaves the database as it was, but
not the scheduler: its jobs were removed before.
-/

namespace Runlet

open KeyedTable
open References (Consistent Intact goneInAny)
open RowQuery (leftJoin)

namespace SystemAdmin

/-! ## Nothing is left -/

section Left

variable {system : System} {db : PlatformDb}

/-- The database without the rows that were collected for the system. -/
def leftBy (system : System) (db : PlatformDb) : PlatformDb :=
  withoutTaken (collectSystemTeardownIds system db.toDb) db

theorem currentIds_of_false {α : Type} [Keyed UUID α] (t : Table α) {p : α → Bool}
    (h : ∀ row, p row = false) : currentIds t p = [] := by
  rw [currentIds, List.map_eq_nil_iff, List.filter_eq_nil_iff]
  exact fun row _ => Bool.eq_false_iff.mp (h row)

@[simp] theorem isIn_nil (column : Option UUID) : isIn [] column = false :=
  isIn_eq_false_iff.mpr fun _ _ => List.not_mem_nil

@[simp] theorem currentAssetIds_left :
    currentAssetIds (collectSystemTeardownIds system db.toDb) (leftBy system db).toDb = [] :=
  currentIds_deleteListed fun _ hrow hp => (mem_selectIds hrow).mpr hp

@[simp] theorem ofCurrentAsset_left (pageAssetId : UUID) :
    ofCurrentAsset (collectSystemTeardownIds system db.toDb) (leftBy system db).toDb pageAssetId =
      false := by
  refine any_deleteListed fun row hrow hstays => ?_
  have hno := ne_of_notMem hrow hstays
  rw [List.mem_singleton] at hno
  exact Bool.and_eq_false_iff.mpr (Or.inr (decide_eq_false hno))

@[simp] theorem currentCheckIds_left :
    currentCheckIds (collectSystemTeardownIds system db.toDb) (leftBy system db).toDb = [] :=
  currentIds_of_false _ fun _ => ofCurrentAsset_left _

@[simp] theorem currentModulePlanIds_left :
    currentModulePlanIds (collectSystemTeardownIds system db.toDb) (leftBy system db).toDb = [] :=
  currentIds_of_false _ fun _ => ofCurrentAsset_left _

@[simp] theorem currentSnapshotIds_left :
    currentSnapshotIds (collectSystemTeardownIds system db.toDb) (leftBy system db).toDb = [] :=
  currentIds_deleteListed fun _ hrow hp => (mem_selectIds hrow).mpr hp

@[simp] theorem currentPolicyIds_left :
    currentPolicyIds (collectSystemTeardownIds system db.toDb) (leftBy system db).toDb = [] := by
  refine List.append_eq_nil_iff.mpr ⟨currentIds_deleteListed ?_, currentIds_deleteListed ?_⟩
  · exact fun _ hrow hp => (mem_selectIds hrow).mpr hp
  · exact fun _ hrow hp => (mem_selectIds hrow).mpr hp

theorem mem_executionRequestIds_of_hinted {id : UUID} (h : id ∈ hintedRequestIds system db.toDb) :
    id ∈ executionRequestIds system db.toDb := by
  unfold executionRequestIds
  split
  · exact h
  · exact mem_sortedUnique.mpr (List.mem_append_left _ h)

@[simp] theorem currentRequestIds_left :
    currentRequestIds (collectSystemTeardownIds system db.toDb) (leftBy system db).toDb = [] :=
  currentIds_deleteListed fun _ hrow hp =>
    mem_executionRequestIds_of_hinted ((mem_selectIds hrow).mpr hp)

@[simp] theorem currentPlanIds_left :
    currentPlanIds (collectSystemTeardownIds system db.toDb) (leftBy system db).toDb = [] := by
  refine currentIds_deleteListed fun row hrow hp => (mem_selectIds hrow).mpr ?_
  simp only [currentAssetIds_left, currentCheckIds_left, currentModulePlanIds_left,
    currentRequestIds_left, isIn_nil, List.not_mem_nil, decide_false, Bool.or_false] at hp
  simp only [Bool.or_eq_true]
  exact Or.inl (Or.inl (Or.inl (Or.inl hp)))

@[simp] theorem currentRunIds_left :
    currentRunIds (collectSystemTeardownIds system db.toDb) (leftBy system db).toDb = [] :=
  currentIds_of_false _ fun _ => by simp

@[simp] theorem currentArtifactIds_left :
    currentArtifactIds (collectSystemTeardownIds system db.toDb) (leftBy system db).toDb = [] :=
  currentIds_of_false _ fun _ => by simp

@[simp] theorem currentPublishedJobIds_left :
    currentPublishedJobIds (collectSystemTeardownIds system db.toDb) (leftBy system db).toDb =
      [] :=
  currentIds_of_false _ fun _ => by simp

@[simp] theorem currentRenderIds_left :
    currentRenderIds (collectSystemTeardownIds system db.toDb) (leftBy system db).toDb = [] :=
  currentIds_of_false _ fun _ => by simp

@[simp] theorem currentAliasIds_left :
    currentAliasIds (collectSystemTeardownIds system db.toDb) (leftBy system db).toDb = [] := by
  refine currentIds_deleteListed fun row hrow hp => (mem_selectIds hrow).mpr ?_
  simp only [currentAssetIds_left, List.not_mem_nil, decide_false, Bool.or_false] at hp
  exact Bool.or_eq_true_iff.mpr (Or.inl hp)

/-- No row that was taken is left. -/
theorem any_taken {α : Type} [Keyed UUID α] (t : Table α) (ids : List UUID) :
    ((t.deleteListed ids).rows.any fun row => key row ∈ ids) = false :=
  any_deleteListed fun _ _ hstays => decide_eq_false hstays

/-- No row of the system is left, where those were taken. -/
theorem any_ofSystem {α : Type} [Keyed UUID α] {t : Table α} {systemId : α → UUID} :
    ((t.deleteListed (selectIds t fun row => systemId row = system.id)).rows.any fun row =>
      systemId row = system.id || key row ∈ selectIds t fun row => systemId row = system.id) =
        false := by
  refine any_deleteListed fun row hrow hstays => ?_
  have hno := ne_of_notMem hrow hstays
  rw [List.mem_singleton] at hno
  exact Bool.or_eq_false_iff.mpr ⟨decide_eq_false hno, decide_eq_false hstays⟩

theorem hasRemainingQueuedJobs_left :
    hasRemainingQueuedJobs (collectSystemTeardownIds system db.toDb) (leftBy system db).toDb =
      false := by
  refine any_deleteListed fun job hjob hstays => ?_
  have hno : job.id ∉ namedJobIds system db.toDb := fun hmem =>
    hstays (mem_sortedUnique.mpr (List.mem_append_left _ hmem))
  have hno := eq_false_of_notMem hjob hno
  simp only [Bool.or_eq_false_iff] at hno
  obtain ⟨⟨⟨⟨⟨⟨hpolicy, hsystem⟩, hsnapshot⟩, hresult⟩, hplan⟩, hrequest⟩, hcheck⟩ := hno
  simp only [currentPolicyIds_left, currentRequestIds_left, currentPlanIds_left,
    currentCheckIds_left, currentSnapshotIds_left, List.nil_append, Bool.or_eq_false_iff]
  exact ⟨⟨⟨⟨⟨⟨hsystem, hpolicy⟩, hrequest⟩, hplan⟩, hcheck⟩, hsnapshot⟩, hresult⟩

theorem any_jobRuns_left
    (h : Unshared system (collectSystemTeardownIds system db.toDb) db) :
    ((db.jobRuns.deleteListed (collectSystemTeardownIds system db.toDb).jobRunIds).rows.any
      fun row =>
        row.publishedJobId ∈ (collectSystemTeardownIds system db.toDb).publishedJobIds ||
          isIn (collectSystemTeardownIds system db.toDb).executionRunIds row.executionRunId ||
          isIn (collectSystemTeardownIds system db.toDb).scriptRenderIds row.scriptRenderId ||
          isIn (collectSystemTeardownIds system db.toDb).queuedJobIds row.queuedJobId ||
          isIn ((collectSystemTeardownIds system db.toDb).authPolicyIds ++
            (collectSystemTeardownIds system db.toDb).crawlPolicyIds) row.policyId) = false := by
  refine any_deleteListed fun row hrow hstays => ?_
  obtain ⟨hqueued, hrun, hrender⟩ := h.jobRuns row hrow hstays
  obtain ⟨hpublished, hpolicy⟩ := follows_jobRuns hrow hstays
  simp only [Bool.or_eq_false_iff]
  exact ⟨⟨⟨⟨decide_eq_false hpublished, hrun⟩, hrender⟩, hqueued⟩, hpolicy⟩

theorem any_intentAliases_left :
    ((leftJoin (fun row : IntentAlias =>
        (leftBy system db).pageAssets.rows.filter fun asset => row.assetKey = asset.assetKey)
      (leftBy system db).intentAliases.rows).any fun joined =>
        (joined.2.any fun asset => asset.systemId = system.id) ||
          joined.1.systemAlias = system.code ||
            joined.1.id ∈ (collectSystemTeardownIds system db.toDb).intentAliasIds) = false := by
  rw [List.any_eq_false]
  intro joined hjoined
  obtain ⟨hrow, hasset⟩ := RowQuery.mem_leftJoin.mp hjoined
  obtain ⟨hmem, hstays⟩ := Table.mem_deleteListed.mp hrow
  have hcode : joined.1.systemAlias ≠ system.code := by
    intro hcode
    refine hstays (mem_sortedUnique.mpr ?_)
    obtain ⟨asset, hjoin⟩ := RowQuery.exists_mem_leftJoin (fun row : IntentAlias =>
      db.pageAssets.rows.filter fun asset => row.assetKey = asset.assetKey) hmem
    refine List.mem_map.mpr ⟨_, List.mem_filter.mpr ⟨hjoin, ?_⟩, rfl⟩
    exact Bool.or_eq_true_iff.mpr (Or.inr (decide_eq_true hcode))
  have hother : (joined.2.any fun asset => asset.systemId = system.id) = false := by
    rcases hasset with ⟨hnone, -⟩ | ⟨asset, hfound, hsome⟩
    · rw [hnone]
      rfl
    · obtain ⟨hmem, hkept⟩ := Table.mem_deleteListed.mp (List.mem_of_mem_filter hfound)
      have hno := ne_of_notMem hmem hkept
      rw [List.mem_singleton] at hno
      rw [hsome, Option.any_some]
      exact decide_eq_false hno
  rw [hother, decide_eq_false hcode, Bool.false_or, Bool.false_or, decide_eq_true_eq]
  exact hstays

/-- **After a teardown that went through, nothing is left.** -/
theorem listRemainingReferenceTables_left
    (h : Unshared system (collectSystemTeardownIds system db.toDb) db)
    (hcode : ∀ row ∈ db.systems, row.code = system.code → row.id = system.id) :
    listRemainingReferenceTables (collectSystemTeardownIds system db.toDb)
      (leftBy system db).toDb = [] := by
  rw [listRemainingReferenceTables, List.map_eq_nil_iff, List.filter_eq_nil_iff]
  simp only [remainingChecks, List.forall_mem_cons, currentAssetIds_left, currentAliasIds_left,
    currentSnapshotIds_left, currentPlanIds_left, currentRunIds_left, currentArtifactIds_left,
    currentPublishedJobIds_left, currentRenderIds_left, isIn_nil, List.not_mem_nil, decide_false,
    Bool.false_or, hasRemainingQueuedJobs_left, Bool.not_eq_true]
  refine ⟨any_jobRuns_left h, any_taken _ _, trivial, any_taken _ _, any_taken _ _, any_taken _ _,
    any_taken _ _, ?_, any_taken _ _, any_taken _ _, any_taken _ _, any_intentAliases_left,
    any_taken _ _, any_taken _ _, any_ofSystem, any_ofSystem, any_ofSystem, any_ofSystem,
    any_ofSystem, any_ofSystem, any_ofSystem, any_ofSystem, any_ofSystem, ?_, ?_⟩
  · refine any_deleteListed fun row hrow hstays => Bool.or_eq_false_iff.mpr ⟨?_, ?_⟩
    · exact decide_eq_false fun hhint => hstays
        (mem_executionRequestIds_of_hinted ((mem_selectIds hrow).mpr (decide_eq_true hhint)))
    · exact decide_eq_false hstays
  · refine any_deleteListed fun row hrow hstays => ?_
    have hother : row.id ≠ system.id := fun heq => hstays (List.mem_singleton.mpr heq)
    exact Bool.or_eq_false_iff.mpr ⟨decide_eq_false hother,
      decide_eq_false fun heq => hother (hcode row hrow heq)⟩
  · exact fun check hcheck => hcheck.elim

end Left

/-! ## The scheduler -/

theorem foldl_removeJob (removed : List SchedulerJobId) (jobs : SchedulerJobs)
    (jobId : SchedulerJobId) :
    removed.foldl (fun jobs jobId => SchedulerRegistry.removeJob jobId jobs) jobs jobId =
      if jobId ∈ removed then none else jobs jobId := by
  induction removed generalizing jobs with
  | nil => rfl
  | cons first removed ih =>
    rw [List.foldl_cons, ih, SchedulerRegistry.removeJob, Function.update_apply]
    by_cases hrest : jobId ∈ removed
    · rw [if_pos hrest, if_pos (List.mem_cons_of_mem _ hrest)]
    · rw [if_neg hrest]
      refine if_congr ?_ rfl rfl
      rw [List.mem_cons, or_iff_left hrest]

/-- The jobs of a system are removed, and no others. -/
theorem removeSchedulerJobs_apply (ids : SystemTeardownIds) (jobs : SchedulerJobs)
    (jobId : SchedulerJobId) : removeSchedulerJobs ids jobs jobId =
      if jobId ∈ schedulerJobIds ids then none else jobs jobId :=
  foldl_removeJob _ _ _

theorem remainingSchedulerJobIds_removeSchedulerJobs (ids : SystemTeardownIds)
    (jobs : SchedulerJobs) : remainingSchedulerJobIds ids (removeSchedulerJobs ids jobs) = [] := by
  refine List.filter_eq_nil_iff.mpr fun jobId hjobId => ?_
  rw [removeSchedulerJobs_apply, if_pos hjobId]
  exact Bool.false_ne_true

/-! ## The outcome -/

section Outcome

variable {systemCode : String} {system : System} {db : PlatformDb}

theorem deleteAll_deletes :
    db.deleteAll (collectSystemTeardownIds system db.toDb).deletes =
      if Intact (goneInAny ((collectSystemTeardownIds system db.toDb).deletes.map
        PlatformDb.takes)) db.entries then some (leftBy system db) else none := by
  rw [PlatformDb.deleteAll_eq (noneGoAlong_deletes system db) (ordered_deletes _ db),
    deleteAllRows_deletes]
  rfl

theorem intact_iff_unshared (hconsistent : Consistent db.entries) :
    Intact (goneInAny ((collectSystemTeardownIds system db.toDb).deletes.map PlatformDb.takes))
      db.entries ↔ Unshared system (collectSystemTeardownIds system db.toDb) db :=
  (intact_iff_stays hconsistent).trans ⟨unshared_of_stays rfl, stays_of_unshared⟩

/-- What a teardown of a system comes to, for a scheduler with these jobs. -/
structure TeardownOutcome (systemCode : String) (system : System) (db : PlatformDb)
    (jobs : SchedulerJobs) : Prop where
  goesThrough : Unshared system (collectSystemTeardownIds system db.toDb) db →
    teardownSystem systemCode db (some jobs) =
      (.ok { systemFound := true }, leftBy system db,
        some (removeSchedulerJobs (collectSystemTeardownIds system db.toDb) jobs))
  refused : ¬ Unshared system (collectSystemTeardownIds system db.toDb) db →
    teardownSystem systemCode db (some jobs) =
      (.error .integrityError, db,
        some (removeSchedulerJobs (collectSystemTeardownIds system db.toDb) jobs))

/-- **A teardown takes exactly the rows that were collected, when none of them is shared; else it
raises, and only the scheduler has changed.** -/
theorem teardownSystem_outcome (hconsistent : Consistent db.entries)
    (hcodes : Table.AtMostOne hasCode db.systems)
    (hfound : db.systems.first? (hasCode systemCode) = some system) (jobs : SchedulerJobs) :
    TeardownOutcome systemCode system db jobs := by
  have hsystem : system ∈ db.systems := Table.mem_of_first? hfound
  have hcode : ∀ row ∈ db.systems, row.code = system.code → row.id = system.id := by
    intro row hrow heq
    rw [hcodes system.code row hrow system hsystem (decide_eq_true heq) (decide_eq_true rfl)]
  constructor
  · intro h
    unfold teardownSystem
    rw [hfound]
    dsimp only
    rw [deleteAll_deletes, if_pos ((intact_iff_unshared hconsistent).mpr h)]
    dsimp only
    rw [listRemainingReferenceTables_left h hcode, remainingSchedulerJobIds_removeSchedulerJobs,
      if_neg (by simp)]
  · intro h
    unfold teardownSystem
    rw [hfound]
    dsimp only
    rw [deleteAll_deletes, if_neg (mt (intact_iff_unshared hconsistent).mp h)]

end Outcome

/-- A system with a page that is checked on a schedule. -/
def checkedDb : PlatformDb where
  systems := .single { id := 1, code := "erp", name := "ERP", baseUrl := "https://erp.example" }
  crawlSnapshots := .single
    { id := 2, systemId := 1, crawlType := "full", state := .active, startedAt := 0 }
  pages := .single { id := 3, systemId := 1, snapshotId := some 2, routePath := "/users" }
  pageAssets := .single
    { id := 4, systemId := 1, pageId := 3, assetKey := "erp.users", assetVersion := "v1",
      compiledFromSnapshotId := some 2 }
  pageChecks := .single { id := 5, pageAssetId := 4, checkCode := "page_open", goal := "page_open" }
  publishedJobs := .single
    { id := 6, jobKey := "erp:page_open", pageCheckId := 5, scheduleExpr := "*/5 * * * *" }

theorem teardownSystem_outcome_checked : TeardownOutcome "erp"
    { id := 1, code := "erp", name := "ERP", baseUrl := "https://erp.example" } checkedDb
    fun _ => none :=
  teardownSystem_outcome (by decide +kernel)
    (fun _ a ha b hb _ _ => (List.mem_singleton.mp ha).trans (List.mem_singleton.mp hb).symm)
    (by rfl) fun _ => none

end SystemAdmin

end Runlet
