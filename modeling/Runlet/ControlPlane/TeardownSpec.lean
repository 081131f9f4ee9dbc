import Runlet.ControlPlane.Teardown

/-!
# When a system can be torn down

The collection follows most foreign keys, but not all: a job run, a published job, a plan or an
alias of another system may name a row that is taken, and the history and the access log of a system
are not taken at all.  `Unshared` says that none of these names a row of the system, column by
column.  A teardown goes through exactly then, and nothing it should have taken is left
(`teardownSystem_of_unshared`, `teardownSystem_of_not_unshared`).
-/

namespace Runlet

open KeyedTable
open References (Consistent Intact goneInAny)
open ForeignKeys (mem_optional)

namespace SystemAdmin

/-! ## Selected identifiers -/

@[simp] theorem mem_sortedUnique {ids : List UUID} {id : UUID} :
    id ∈ sortedUnique ids ↔ id ∈ ids := by
  rw [sortedUnique, List.mem_mergeSort, List.mem_dedup]

section Select

variable {α : Type} [Keyed UUID α] {t : Table α} {p : α → Bool} {row : α}

/-- The identifier of a row is selected exactly when the row is. -/
theorem mem_selectIds (h : row ∈ t) : key row ∈ selectIds t p ↔ p row = true := by
  rw [selectIds, mem_sortedUnique, List.mem_map]
  constructor
  · rintro ⟨other, hother, hkey⟩
    obtain ⟨hmem, hp⟩ := List.mem_filter.mp hother
    rwa [← Table.eq_of_key_eq hmem h hkey]
  · exact fun hp => ⟨row, List.mem_filter.mpr ⟨h, hp⟩, rfl⟩

theorem eq_false_of_notMem (h : row ∈ t) (hstays : key row ∉ selectIds t p) : p row = false :=
  Bool.eq_false_iff.mpr fun hp => hstays ((mem_selectIds h).mpr hp)

theorem notMem_of_notMem_selectIds {column : α → UUID} {ids : List UUID} (h : row ∈ t)
    (hstays : key row ∉ selectIds t fun row => column row ∈ ids) : column row ∉ ids := by
  have hno := eq_false_of_notMem h hstays
  exact of_decide_eq_false hno

/-- Nothing that is left is selected, when all that is selected was taken. -/
theorem currentIds_deleteListed {ids : List UUID}
    (h : ∀ row ∈ t, p row = true → key row ∈ ids) : currentIds (t.deleteListed ids) p = [] := by
  rw [currentIds, List.map_eq_nil_iff, List.filter_eq_nil_iff]
  intro row hrow hp
  obtain ⟨hmem, hstays⟩ := Table.mem_deleteListed.mp hrow
  exact hstays (h row hmem hp)

theorem any_deleteListed {ids : List UUID} (h : ∀ row ∈ t, key row ∉ ids → p row = false) :
    (t.deleteListed ids).rows.any p = false := by
  rw [List.any_eq_false]
  intro row hrow
  obtain ⟨hmem, hstays⟩ := Table.mem_deleteListed.mp hrow
  rw [h row hmem hstays]
  exact Bool.false_ne_true

end Select

theorem isIn_eq_false_iff {ids : List UUID} {column : Option UUID} :
    isIn ids column = false ↔ ∀ id, column = some id → id ∉ ids := by
  cases column with
  | none => exact iff_of_true rfl fun id h => absurd h (Option.some_ne_none id).symm
  | some id =>
    rw [isIn, Option.any_some, decide_eq_false_iff_not]
    exact ⟨fun h other hother => Option.some.inj hother ▸ h, fun h => h id rfl⟩

/-! ## What is taken -/

/-- The identifiers that are taken from a table. -/
def SystemTeardownIds.taken (ids : SystemTeardownIds) : TableName → List UUID
  | .jobRuns => ids.jobRunIds
  | .publishedJobs => ids.publishedJobIds
  | .queuedJobs => ids.queuedJobIds
  | .scriptRenders => ids.scriptRenderIds
  | .executionArtifacts => ids.executionArtifactIds
  | .executionRuns => ids.executionRunIds
  | .executionPlans => ids.executionPlanIds
  | .executionRequests => ids.executionRequestIds
  | .assetReconciliationAudits => ids.reconciliationAuditIds
  | .assetSnapshots => ids.assetSnapshotIds
  | .modulePlans => ids.modulePlanIds
  | .intentAliases => ids.intentAliasIds
  | .pageNavigationAliases => ids.navigationAliasIds
  | .pageChecks => ids.pageCheckIds
  | .pageAssets => ids.pageAssetIds
  | .pageElements => ids.pageElementIds
  | .menuNodes => ids.menuNodeIds
  | .pages => ids.pageIds
  | .crawlSnapshots => ids.crawlSnapshotIds
  | .authStates => ids.authStateIds
  | .systemCredentials => ids.systemCredentialIds
  | .systemAuthPolicies => ids.authPolicyIds
  | .systemCrawlPolicies => ids.crawlPolicyIds
  | .systems => [ids.systemId]
  | _ => []

theorem goneInAny_deletes {ids : SystemTeardownIds} {k : RowKey} :
    goneInAny (ids.deletes.map PlatformDb.takes) k = false ↔ k.2 ∉ ids.taken k.1 := by
  obtain ⟨table, id⟩ := k
  cases table <;> simp [goneInAny, SystemTeardownIds.deletes, PlatformDb.takes,
    SystemTeardownIds.taken]

theorem ordered_deletes (ids : SystemTeardownIds) (db : PlatformDb) :
    References.Ordered (ids.deletes.map PlatformDb.takes) db.entries := by
  refine PlatformDb.ordered_of_referenced ?_
  have hpairwise : [TableName.jobRuns, .publishedJobs, .queuedJobs, .scriptRenders,
      .executionArtifacts, .executionRuns, .executionPlans, .executionRequests,
      .assetReconciliationAudits, .assetSnapshots, .modulePlans, .intentAliases,
      .pageNavigationAliases, .pageChecks, .pageAssets, .pageElements, .menuNodes, .pages,
      .crawlSnapshots, .authStates, .systemCredentials, .systemAuthPolicies, .systemCrawlPolicies,
      .systems].Pairwise fun earlier later => earlier ∉ later.referenced := by
    decide
  exact hpairwise

/-- The aliases of the assets that are taken are taken as well. -/
theorem pageAssetId_notMem_of_left {system : System} {db : Db} {row : PageNavigationAlias}
    (h : row ∈ db.pageNavigationAliases.deleteListed
      (collectSystemTeardownIds system db).navigationAliasIds) :
    row.pageAssetId ∉ (collectSystemTeardownIds system db).pageAssetIds := by
  obtain ⟨hmem, hstays⟩ := Table.mem_deleteListed.mp h
  exact fun hnamed => hstays ((mem_selectIds hmem).mpr
    (Bool.or_eq_true_iff.mpr (Or.inr (decide_eq_true hnamed))))

theorem noneGoAlong_deletes (system : System) (db : PlatformDb) :
    db.NoneGoAlong (collectSystemTeardownIds system db.toDb).deletes := by
  unfold SystemTeardownIds.deletes
  simp only [PlatformDb.NoneGoAlong, PlatformDb.NoneGoesAlong, reduceCtorEq, false_implies,
    true_implies, true_and, and_true]
  simp only [PlatformDb.pageNavigationAliases_deleteRows,
    PlatformDb.pageNavigationAliases_deleteRows_self, ne_eq, reduceCtorEq, not_false_eq_true]
  exact fun row hrow => pageAssetId_notMem_of_left hrow

/-- The database without the rows that are taken. -/
def withoutTaken (ids : SystemTeardownIds) (db : PlatformDb) : PlatformDb :=
  { db with
    jobRuns := db.jobRuns.deleteListed ids.jobRunIds
    publishedJobs := db.publishedJobs.deleteListed ids.publishedJobIds
    queuedJobs := db.queuedJobs.deleteListed ids.queuedJobIds
    scriptRenders := db.scriptRenders.deleteListed ids.scriptRenderIds
    executionArtifacts := db.executionArtifacts.deleteListed ids.executionArtifactIds
    executionRuns := db.executionRuns.deleteListed ids.executionRunIds
    executionPlans := db.executionPlans.deleteListed ids.executionPlanIds
    executionRequests := db.executionRequests.deleteListed ids.executionRequestIds
    audits := db.audits.deleteListed ids.reconciliationAuditIds
    assetSnapshots := db.assetSnapshots.deleteListed ids.assetSnapshotIds
    modulePlans := db.modulePlans.deleteListed ids.modulePlanIds
    intentAliases := db.intentAliases.deleteListed ids.intentAliasIds
    pageNavigationAliases := db.pageNavigationAliases.deleteListed ids.navigationAliasIds
    pageChecks := db.pageChecks.deleteListed ids.pageCheckIds
    pageAssets := db.pageAssets.deleteListed ids.pageAssetIds
    pageElements := db.pageElements.deleteListed ids.pageElementIds
    menuNodes := db.menuNodes.deleteListed ids.menuNodeIds
    pages := db.pages.deleteListed ids.pageIds
    crawlSnapshots := db.crawlSnapshots.deleteListed ids.crawlSnapshotIds
    authStates := db.authStates.deleteListed ids.authStateIds
    systemCredentials := db.systemCredentials.deleteListed ids.systemCredentialIds
    systemAuthPolicies := db.systemAuthPolicies.deleteListed ids.authPolicyIds
    systemCrawlPolicies := db.systemCrawlPolicies.deleteListed ids.crawlPolicyIds
    systems := db.systems.deleteListed [ids.systemId] }

theorem deleteAllRows_deletes (system : System) (db : PlatformDb) :
    db.deleteAllRows (collectSystemTeardownIds system db.toDb).deletes =
      withoutTaken (collectSystemTeardownIds system db.toDb) db := by
  have hkept : (db.pageNavigationAliases.deleteListed
      (collectSystemTeardownIds system db.toDb).navigationAliasIds).delete (fun row =>
        row.pageAssetId ∈ (collectSystemTeardownIds system db.toDb).pageAssetIds &&
          (db.pageAssets.get? row.pageAssetId).isSome) =
      db.pageNavigationAliases.deleteListed
        (collectSystemTeardownIds system db.toDb).navigationAliasIds := by
    refine Table.delete_eq_self fun row hrow => ?_
    rw [decide_eq_false (pageAssetId_notMem_of_left hrow), Bool.false_and]
  unfold SystemTeardownIds.deletes PlatformDb.deleteAllRows
  simp only [List.foldl_cons, List.foldl_nil]
  dsimp only [PlatformDb.deleteRows]
  rw [hkept]
  rfl

/-! ## What the collection does not follow -/

/-- None of the columns that the collection does not follow names a row that is taken, in a row that
stays; and no history or access log is there. -/
structure Unshared (system : System) (ids : SystemTeardownIds) (db : PlatformDb) : Prop where
  jobRuns : ∀ row ∈ db.jobRuns, row.id ∉ ids.jobRunIds →
    isIn ids.queuedJobIds row.queuedJobId = false ∧
      isIn ids.executionRunIds row.executionRunId = false ∧
      isIn ids.scriptRenderIds row.scriptRenderId = false
  publishedJobs : ∀ row ∈ db.publishedJobs, row.id ∉ ids.publishedJobIds →
    isIn ids.scriptRenderIds row.scriptRenderId = false
  executionPlans : ∀ row ∈ db.executionPlans, row.id ∉ ids.executionPlanIds →
    row.executionRequestId ∉ ids.executionRequestIds
  assetSnapshots : ∀ row ∈ db.assetSnapshots, row.id ∉ ids.assetSnapshotIds →
    row.crawlSnapshotId ∉ ids.crawlSnapshotIds
  intentAliases : ∀ row ∈ db.intentAliases, row.id ∉ ids.intentAliasIds →
    isIn ids.crawlSnapshotIds row.disabledBySnapshotId = false
  pageNavigationAliases : ∀ row ∈ db.pageNavigationAliases, row.id ∉ ids.navigationAliasIds →
    isIn ids.crawlSnapshotIds row.disabledBySnapshotId = false
  pageChecks : ∀ row ∈ db.pageChecks, row.id ∉ ids.pageCheckIds →
    isIn ids.crawlSnapshotIds row.retiredBySnapshotId = false
  pageAssets : ∀ row ∈ db.pageAssets, row.id ∉ ids.pageAssetIds →
    row.pageId ∉ ids.pageIds ∧ isIn ids.crawlSnapshotIds row.retiredBySnapshotId = false ∧
      isIn ids.crawlSnapshotIds row.compiledFromSnapshotId = false
  pageElements : ∀ row ∈ db.pageElements, row.id ∉ ids.pageElementIds →
    row.snapshotId ∉ ids.crawlSnapshotIds ∧ row.pageId ∉ ids.pageIds
  menuNodes : ∀ row ∈ db.menuNodes, row.id ∉ ids.menuNodeIds →
    row.snapshotId ∉ ids.crawlSnapshotIds ∧ isIn ids.menuNodeIds row.parentId = false ∧
      isIn ids.pageIds row.pageId = false
  pages : ∀ row ∈ db.pages, row.id ∉ ids.pageIds →
    isIn ids.crawlSnapshotIds row.snapshotId = false
  crawlSnapshotsHist : ∀ row ∈ db.crawlSnapshotsHist, row.systemId ≠ system.id
  pagesHist : ∀ row ∈ db.pagesHist, row.systemId ≠ system.id
  menuNodesHist : ∀ row ∈ db.menuNodesHist, row.systemId ≠ system.id
  pageElementsHist : ∀ row ∈ db.pageElementsHist, row.systemId ≠ system.id
  authAuditLogs : ∀ row ∈ db.authAuditLogs, row.systemId ≠ some system.id

/-- No row of the table that stays refers to a row that is taken. -/
def Stays (ids : SystemTeardownIds) (db : PlatformDb) (table : TableName) : Prop :=
  ∀ row ∈ db.rowsOf table, row.1 ∉ ids.taken table → ∀ k ∈ row.2, k.2 ∉ ids.taken k.1

theorem intact_iff_stays {ids : SystemTeardownIds} {db : PlatformDb}
    (h : Consistent db.entries) :
    Intact (goneInAny (ids.deletes.map PlatformDb.takes)) db.entries ↔
      ∀ table, Stays ids db table := by
  simp only [Intact, goneInAny_deletes]
  constructor
  · intro hintact table row hrow hstays k hk
    have hentry : { key := (table, row.1), refs := row.2 } ∈ db.entries :=
      PlatformDb.mem_entries.mpr hrow
    exact hintact _ hentry hstays k hk (h _ hentry k hk)
  · exact fun hstays e he hkept k hk _ =>
      hstays e.key.1 _ (PlatformDb.mem_entries.mp he) hkept k hk

section Stays

variable {ids : SystemTeardownIds} {db : PlatformDb}

theorem stays_listed {α : Type} [Keyed UUID α] {table : TableName} {t : Table α}
    {references : α → List RowKey} (h : db.rowsOf table = ForeignKeys.listed t references) :
    Stays ids db table ↔ ∀ row ∈ t, key row ∉ ids.taken table →
      ∀ k ∈ references row, k.2 ∉ ids.taken k.1 := by
  rw [Stays, h, ForeignKeys.listed, List.forall_mem_map]
  rfl

theorem forall_mem_optional {table : TableName} {column : Option UUID} :
    (∀ k ∈ ForeignKeys.optional table column, k.2 ∉ ids.taken k.1) ↔
      isIn (ids.taken table) column = false := by
  rw [isIn_eq_false_iff]
  constructor
  · exact fun h id hid => h (table, id) (mem_optional.mpr ⟨rfl, hid⟩)
  · rintro h ⟨name, id⟩ hk
    obtain ⟨rfl, hid⟩ := mem_optional.mp hk
    exact h id hid

end Stays

theorem unshared_of_stays {system : System} {db : PlatformDb} {ids : SystemTeardownIds}
    (hsystem : ids.systemId = system.id) (h : ∀ table, Stays ids db table) :
    Unshared system ids db where
  jobRuns row hrow hstays := by
    have hrefs := (stays_listed rfl).mp (h .jobRuns) row hrow hstays
    simp only [ForeignKeys.ofJobRun, List.forall_mem_cons, List.forall_mem_append,
      forall_mem_optional] at hrefs
    exact ⟨hrefs.2.1.1, hrefs.2.1.2, hrefs.2.2⟩
  publishedJobs row hrow hstays := by
    have hrefs := (stays_listed rfl).mp (h .publishedJobs) row hrow hstays
    simp only [ForeignKeys.ofPublishedJob, List.forall_mem_cons, List.forall_mem_append,
      forall_mem_optional] at hrefs
    exact hrefs.2.1.1.1
  executionPlans row hrow hstays := by
    have hrefs := (stays_listed rfl).mp (h .executionPlans) row hrow hstays
    simp only [ForeignKeys.ofExecutionPlan, List.forall_mem_cons] at hrefs
    exact hrefs.1
  assetSnapshots row hrow hstays := by
    have hrefs := (stays_listed rfl).mp (h .assetSnapshots) row hrow hstays
    simp only [List.forall_mem_cons] at hrefs
    exact hrefs.2.1
  intentAliases row hrow hstays := by
    have hrefs := (stays_listed rfl).mp (h .intentAliases) row hrow hstays
    rw [forall_mem_optional] at hrefs
    exact hrefs
  pageNavigationAliases row hrow hstays := by
    have hrefs := (stays_listed rfl).mp (h .pageNavigationAliases) row hrow hstays
    simp only [ForeignKeys.ofPageNavigationAlias, List.forall_mem_append,
      forall_mem_optional] at hrefs
    exact hrefs.2
  pageChecks row hrow hstays := by
    have hrefs := (stays_listed rfl).mp (h .pageChecks) row hrow hstays
    simp only [ForeignKeys.ofPageCheck, List.forall_mem_cons, forall_mem_optional] at hrefs
    exact hrefs.2
  pageAssets row hrow hstays := by
    have hrefs := (stays_listed rfl).mp (h .pageAssets) row hrow hstays
    simp only [ForeignKeys.ofPageAsset, List.forall_mem_cons, List.forall_mem_append,
      forall_mem_optional] at hrefs
    exact ⟨hrefs.1.1.2.1, hrefs.1.2, hrefs.2⟩
  pageElements row hrow hstays := by
    have hrefs := (stays_listed rfl).mp (h .pageElements) row hrow hstays
    simp only [List.forall_mem_cons] at hrefs
    exact ⟨hrefs.2.1, hrefs.2.2.1⟩
  menuNodes row hrow hstays := by
    have hrefs := (stays_listed rfl).mp (h .menuNodes) row hrow hstays
    simp only [ForeignKeys.ofMenuNode, List.forall_mem_cons, List.forall_mem_append,
      forall_mem_optional] at hrefs
    exact ⟨hrefs.1.1.2.1, hrefs.1.2, hrefs.2⟩
  pages row hrow hstays := by
    have hrefs := (stays_listed rfl).mp (h .pages) row hrow hstays
    simp only [List.forall_mem_cons, forall_mem_optional] at hrefs
    exact hrefs.2
  crawlSnapshotsHist row hrow heq := by
    have hrefs := (stays_listed rfl).mp (h .crawlSnapshotsHist) row hrow List.not_mem_nil
    rw [List.forall_mem_singleton] at hrefs
    exact hrefs (List.mem_singleton.mpr (heq.trans hsystem.symm))
  pagesHist row hrow heq := by
    have hrefs := (stays_listed rfl).mp (h .pagesHist) row hrow List.not_mem_nil
    rw [List.forall_mem_singleton] at hrefs
    exact hrefs (List.mem_singleton.mpr (heq.trans hsystem.symm))
  menuNodesHist row hrow heq := by
    have hrefs := (stays_listed rfl).mp (h .menuNodesHist) row hrow List.not_mem_nil
    rw [List.forall_mem_singleton] at hrefs
    exact hrefs (List.mem_singleton.mpr (heq.trans hsystem.symm))
  pageElementsHist row hrow heq := by
    have hrefs := (stays_listed rfl).mp (h .pageElementsHist) row hrow List.not_mem_nil
    rw [List.forall_mem_singleton] at hrefs
    exact hrefs (List.mem_singleton.mpr (heq.trans hsystem.symm))
  authAuditLogs row hrow heq := by
    have hrefs := forall_mem_optional.mp
      ((stays_listed rfl).mp (h .authAuditLogs) row hrow List.not_mem_nil)
    exact isIn_eq_false_iff.mp hrefs system.id heq (List.mem_singleton.mpr hsystem.symm)

section Follows

variable {system : System} {db : PlatformDb}

/-- The plans of a system that stays name neither the system nor a row of it. -/
theorem follows_executionPlans {row : ExecutionPlan} (h : row ∈ db.executionPlans)
    (hstays : row.id ∉ executionPlanIds system db.toDb) :
    row.resolvedSystemId ≠ some system.id ∧
      isIn (pageAssetIds system db.toDb) row.resolvedPageAssetId = false ∧
      isIn (pageCheckIds system db.toDb) row.resolvedPageCheckId = false := by
  have hno := eq_false_of_notMem h hstays
  simp only [Bool.or_eq_false_iff, decide_eq_false_iff_not] at hno
  exact ⟨hno.1.1.1.1, hno.1.1.1.2, hno.1.1.2⟩

theorem follows_publishedJobs {row : PublishedJob} (h : row ∈ db.publishedJobs)
    (hstays : row.id ∉ publishedJobIds system db.toDb) :
    row.pageCheckId ∉ pageCheckIds system db.toDb ∧
      isIn (pageCheckIds system db.toDb) row.pausedByPageCheckId = false ∧
      isIn (pageAssetIds system db.toDb) row.pausedByAssetId = false ∧
      isIn (crawlSnapshotIds system db.toDb) row.pausedBySnapshotId = false := by
  have hno := eq_false_of_notMem h hstays
  simp only [Bool.or_eq_false_iff, decide_eq_false_iff_not] at hno
  exact ⟨hno.1.1.1, hno.1.1.2, hno.1.2, hno.2⟩

theorem follows_jobRuns {row : JobRun} (h : row ∈ db.jobRuns)
    (hstays : row.id ∉ (collectSystemTeardownIds system db.toDb).jobRunIds) :
    row.publishedJobId ∉ publishedJobIds system db.toDb ∧
      isIn (authPolicyIds system db.toDb ++ crawlPolicyIds system db.toDb) row.policyId =
        false := by
  have hno : row ∉ collectJobRuns system db.toDb := fun hmem =>
    hstays (mem_sortedUnique.mpr (List.mem_map_of_mem hmem))
  rw [collectJobRuns, List.mem_filter, not_and, Bool.not_eq_true] at hno
  have hno := hno h
  simp only [Bool.or_eq_false_iff, decide_eq_false_iff_not] at hno
  exact ⟨hno.1.1.1.1, hno.2⟩

theorem follows_scriptRenders {row : ScriptRender} (h : row ∈ db.scriptRenders)
    (hstays : row.id ∉ (collectSystemTeardownIds system db.toDb).scriptRenderIds) :
    isIn (executionArtifactIds system db.toDb) row.executionArtifactId = false ∧
      isIn (executionPlanIds system db.toDb) row.executionPlanId = false := by
  have hno : row.id ∉ renderIdsOf system db.toDb (executionArtifactIds system db.toDb) :=
    fun hmem => hstays (mem_sortedUnique.mpr (List.mem_append_right _ hmem))
  have hno := eq_false_of_notMem h hno
  exact Bool.or_eq_false_iff.mp hno

theorem follows_executionArtifacts {row : ExecutionArtifact} (h : row ∈ db.executionArtifacts)
    (hstays : row.id ∉ executionArtifactIds system db.toDb) :
    row.executionRunId ∉ executionRunIds system db.toDb := by
  have hno : row.id ∉ artifactIdsOf db.toDb (executionRunIds system db.toDb) :=
    fun hmem => hstays (mem_sortedUnique.mpr (List.mem_append_right _ hmem))
  exact notMem_of_notMem_selectIds h hno

theorem follows_executionRuns {row : ExecutionRun} (h : row ∈ db.executionRuns)
    (hstays : row.id ∉ executionRunIds system db.toDb) :
    row.executionPlanId ∉ executionPlanIds system db.toDb := by
  have hno : row.id ∉ plannedRunIds system db.toDb :=
    fun hmem => hstays (mem_sortedUnique.mpr (List.mem_append_left _ hmem))
  exact notMem_of_notMem_selectIds h hno

theorem follows_pageNavigationAliases {row : PageNavigationAlias}
    (h : row ∈ db.pageNavigationAliases)
    (hstays : row.id ∉ navigationAliasIds system db.toDb) :
    row.systemId ≠ system.id ∧ row.pageAssetId ∉ pageAssetIds system db.toDb := by
  have hno := eq_false_of_notMem h hstays
  simpa only [Bool.or_eq_false_iff, decide_eq_false_iff_not] using hno

/-- A row of a table of the system that stays is a row of another system. -/
theorem ne_of_notMem {α : Type} [Keyed UUID α] {t : Table α} {systemId : α → UUID} {row : α}
    (h : row ∈ t) (hstays : key row ∉ selectIds t fun row => systemId row = system.id) :
    systemId row ∉ [system.id] := by
  have hno := eq_false_of_notMem h hstays
  rw [List.mem_singleton]
  exact of_decide_eq_false hno

/-- **The collection follows every foreign key but those of `Unshared`.** -/
theorem stays_of_unshared
    (h : Unshared system (collectSystemTeardownIds system db.toDb) db) (table : TableName) :
    Stays (collectSystemTeardownIds system db.toDb) db table := by
  cases table with
  | jobRuns =>
    refine (stays_listed rfl).mpr fun row hrow hstays => ?_
    obtain ⟨hqueued, hrun, hrender⟩ := h.jobRuns row hrow hstays
    simp only [ForeignKeys.ofJobRun, List.forall_mem_cons, List.forall_mem_append,
      forall_mem_optional]
    exact ⟨(follows_jobRuns hrow hstays).1, ⟨hqueued, hrun⟩, hrender⟩
  | publishedJobs =>
    refine (stays_listed rfl).mpr fun row hrow hstays => ?_
    obtain ⟨hcheck, hpausedCheck, hasset, hsnapshot⟩ := follows_publishedJobs hrow hstays
    simp only [ForeignKeys.ofPublishedJob, List.forall_mem_cons, List.forall_mem_append,
      forall_mem_optional]
    exact ⟨hcheck, ⟨⟨h.publishedJobs row hrow hstays, hsnapshot⟩, hasset⟩, hpausedCheck⟩
  | queuedJobs => exact (stays_listed rfl).mpr fun row _ _ k hk => absurd hk List.not_mem_nil
  | scriptRenders =>
    refine (stays_listed rfl).mpr fun row hrow hstays => ?_
    simp only [ForeignKeys.ofScriptRender, List.forall_mem_append, forall_mem_optional]
    exact follows_scriptRenders hrow hstays
  | executionArtifacts =>
    refine (stays_listed rfl).mpr fun row hrow hstays => ?_
    rw [List.forall_mem_singleton]
    exact follows_executionArtifacts hrow hstays
  | executionRuns =>
    refine (stays_listed rfl).mpr fun row hrow hstays => ?_
    rw [List.forall_mem_singleton]
    exact follows_executionRuns hrow hstays
  | executionPlans =>
    refine (stays_listed rfl).mpr fun row hrow hstays => ?_
    obtain ⟨hsystem, hasset, hcheck⟩ := follows_executionPlans hrow hstays
    simp only [ForeignKeys.ofExecutionPlan, List.forall_mem_cons, List.forall_mem_append,
      forall_mem_optional]
    refine ⟨h.executionPlans row hrow hstays, ⟨isIn_eq_false_iff.mpr ?_, hasset⟩, hcheck⟩
    rintro id hid hmem
    exact hsystem (hid.trans (congrArg some (List.mem_singleton.mp hmem)))
  | executionRequests =>
    exact (stays_listed rfl).mpr fun row _ _ k hk => absurd hk List.not_mem_nil
  | assetReconciliationAudits =>
    refine (stays_listed rfl).mpr fun row hrow hstays => ?_
    have hno := notMem_of_notMem_selectIds hrow hstays
    rw [List.forall_mem_singleton]
    exact hno
  | assetSnapshots =>
    refine (stays_listed rfl).mpr fun row hrow hstays => ?_
    have hasset := notMem_of_notMem_selectIds hrow hstays
    rw [List.forall_mem_cons, List.forall_mem_singleton]
    exact ⟨hasset, h.assetSnapshots row hrow hstays⟩
  | modulePlans =>
    refine (stays_listed rfl).mpr fun row hrow hstays => ?_
    have hno := notMem_of_notMem_selectIds hrow hstays
    rw [List.forall_mem_singleton]
    exact hno
  | intentAliases =>
    refine (stays_listed rfl).mpr fun row hrow hstays => ?_
    rw [forall_mem_optional]
    exact h.intentAliases row hrow hstays
  | pageNavigationAliases =>
    refine (stays_listed rfl).mpr fun row hrow hstays => ?_
    obtain ⟨hsystem, hasset⟩ := follows_pageNavigationAliases hrow hstays
    simp only [ForeignKeys.ofPageNavigationAlias, List.forall_mem_append, List.forall_mem_cons,
      forall_mem_optional]
    exact ⟨⟨fun hmem => hsystem (List.mem_singleton.mp hmem), hasset,
      fun k hk => absurd hk List.not_mem_nil⟩, h.pageNavigationAliases row hrow hstays⟩
  | pageChecks =>
    refine (stays_listed rfl).mpr fun row hrow hstays => ?_
    have hasset := notMem_of_notMem_selectIds hrow hstays
    simp only [ForeignKeys.ofPageCheck, List.forall_mem_cons, forall_mem_optional]
    exact ⟨hasset, h.pageChecks row hrow hstays⟩
  | pageAssets =>
    refine (stays_listed rfl).mpr fun row hrow hstays => ?_
    obtain ⟨hpage, hretired, hcompiled⟩ := h.pageAssets row hrow hstays
    simp only [ForeignKeys.ofPageAsset, List.forall_mem_append, List.forall_mem_cons,
      forall_mem_optional]
    exact ⟨⟨⟨ne_of_notMem hrow hstays, hpage, fun k hk => absurd hk List.not_mem_nil⟩, hretired⟩,
      hcompiled⟩
  | pageElements =>
    refine (stays_listed rfl).mpr fun row hrow hstays => ?_
    obtain ⟨hsnapshot, hpage⟩ := h.pageElements row hrow hstays
    simp only [List.forall_mem_cons]
    exact ⟨ne_of_notMem hrow hstays, hsnapshot, hpage, fun k hk => absurd hk List.not_mem_nil⟩
  | menuNodes =>
    refine (stays_listed rfl).mpr fun row hrow hstays => ?_
    obtain ⟨hsnapshot, hparent, hpage⟩ := h.menuNodes row hrow hstays
    simp only [ForeignKeys.ofMenuNode, List.forall_mem_append, List.forall_mem_cons,
      forall_mem_optional]
    exact ⟨⟨⟨ne_of_notMem hrow hstays, hsnapshot, fun k hk => absurd hk List.not_mem_nil⟩,
      hparent⟩, hpage⟩
  | pages =>
    refine (stays_listed rfl).mpr fun row hrow hstays => ?_
    simp only [List.forall_mem_cons, forall_mem_optional]
    exact ⟨ne_of_notMem hrow hstays, h.pages row hrow hstays⟩
  | systems => exact (stays_listed rfl).mpr fun row _ _ k hk => absurd hk List.not_mem_nil
  | crawlSnapshotsHist =>
    refine (stays_listed rfl).mpr fun row hrow _ => ?_
    rw [List.forall_mem_singleton]
    exact fun hmem => h.crawlSnapshotsHist row hrow (List.mem_singleton.mp hmem)
  | pagesHist =>
    refine (stays_listed rfl).mpr fun row hrow _ => ?_
    rw [List.forall_mem_singleton]
    exact fun hmem => h.pagesHist row hrow (List.mem_singleton.mp hmem)
  | menuNodesHist =>
    refine (stays_listed rfl).mpr fun row hrow _ => ?_
    rw [List.forall_mem_singleton]
    exact fun hmem => h.menuNodesHist row hrow (List.mem_singleton.mp hmem)
  | pageElementsHist =>
    refine (stays_listed rfl).mpr fun row hrow _ => ?_
    rw [List.forall_mem_singleton]
    exact fun hmem => h.pageElementsHist row hrow (List.mem_singleton.mp hmem)
  | authAuditLogs =>
    refine (stays_listed rfl).mpr fun row hrow _ => ?_
    rw [forall_mem_optional, isIn_eq_false_iff]
    rintro id hid hmem
    exact h.authAuditLogs row hrow (hid.trans (congrArg some (List.mem_singleton.mp hmem)))
  | _ =>
    -- the other tables refer to the system only
    refine (stays_listed rfl).mpr fun row hrow hstays => ?_
    have hsystem := ne_of_notMem hrow hstays
    rw [List.forall_mem_singleton]
    exact hsystem

end Follows

end SystemAdmin

end Runlet
