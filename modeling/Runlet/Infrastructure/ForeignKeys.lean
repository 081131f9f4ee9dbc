import Runlet.Infrastructure.Database
import Runlet.Library.References

/-!
# Foreign keys

The foreign keys of `db/models` and of the migrations.  The database refuses to delete a row that
another row refers to, with one exception: an alias goes with the page asset it names.

`deleteByIds` is a delete as the database carries it out.  Where no alias goes with an asset, it is
a delete of `References`, on the rows and their references (`deleteAll_eq`).
-/

namespace Runlet

open KeyedTable
open References (Entry Intact Ordered goneInAny remaining)

/-- A row of `auth_audit_logs`, as far as it names a system. -/
structure AuthAuditLog where
  id : UUID
  systemId : Option UUID := none

instance : Keyed UUID AuthAuditLog := ⟨AuthAuditLog.id⟩

/-- The database with the log of the access decisions. -/
structure PlatformDb extends Db where
  authAuditLogs : Table AuthAuditLog := .empty

inductive TableName where
  | jobRuns
  | publishedJobs
  | queuedJobs
  | scriptRenders
  | executionArtifacts
  | executionRuns
  | executionPlans
  | executionRequests
  | assetReconciliationAudits
  | assetSnapshots
  | modulePlans
  | intentAliases
  | pageNavigationAliases
  | pageChecks
  | pageAssets
  | pageElements
  | menuNodes
  | pages
  | crawlSnapshots
  | authStates
  | systemCredentials
  | systemAuthPolicies
  | systemCrawlPolicies
  | systems
  | crawlSnapshotsHist
  | pagesHist
  | menuNodesHist
  | pageElementsHist
  | authAuditLogs
  deriving DecidableEq

/-- A row is known by its table and its key. -/
abbrev RowKey := TableName × UUID

namespace ForeignKeys

/-- A column that may be null. -/
def optional (table : TableName) (id : Option UUID) : List RowKey :=
  (id.map fun id => (table, id)).toList

theorem mem_optional {table : TableName} {id : Option UUID} {k : RowKey} :
    k ∈ optional table id ↔ k.1 = table ∧ id = some k.2 := by
  obtain ⟨name, k⟩ := k
  cases id with
  | none => exact iff_of_false List.not_mem_nil fun h => Option.some_ne_none _ h.2.symm
  | some id =>
    simp only [optional, Option.map_some, Option.toList_some, List.mem_singleton, Prod.mk.injEq,
      Option.some.injEq]
    exact and_congr_right fun _ => eq_comm

def ofJobRun (row : JobRun) : List RowKey :=
  (.publishedJobs, row.publishedJobId) :: (optional .queuedJobs row.queuedJobId ++
    optional .executionRuns row.executionRunId ++ optional .scriptRenders row.scriptRenderId)

def ofPublishedJob (row : PublishedJob) : List RowKey :=
  (.pageChecks, row.pageCheckId) :: (optional .scriptRenders row.scriptRenderId ++
    optional .crawlSnapshots row.pausedBySnapshotId ++ optional .pageAssets row.pausedByAssetId ++
    optional .pageChecks row.pausedByPageCheckId)

def ofScriptRender (row : ScriptRender) : List RowKey :=
  optional .executionArtifacts row.executionArtifactId ++
    optional .executionPlans row.executionPlanId

def ofExecutionPlan (row : ExecutionPlan) : List RowKey :=
  (.executionRequests, row.executionRequestId) :: (optional .systems row.resolvedSystemId ++
    optional .pageAssets row.resolvedPageAssetId ++ optional .pageChecks row.resolvedPageCheckId)

def ofPageNavigationAlias (row : PageNavigationAlias) : List RowKey :=
  [(.systems, row.systemId), (.pageAssets, row.pageAssetId)] ++
    optional .crawlSnapshots row.disabledBySnapshotId

def ofPageCheck (row : PageCheck) : List RowKey :=
  (.pageAssets, row.pageAssetId) :: optional .crawlSnapshots row.retiredBySnapshotId

def ofPageAsset (row : PageAsset) : List RowKey :=
  [(.systems, row.systemId), (.pages, row.pageId)] ++
    optional .crawlSnapshots row.retiredBySnapshotId ++
    optional .crawlSnapshots row.compiledFromSnapshotId

def ofMenuNode (row : MenuNode) : List RowKey :=
  [(.systems, row.systemId), (.crawlSnapshots, row.snapshotId)] ++
    optional .menuNodes row.parentId ++ optional .pages row.pageId

/-- The rows of a table, each with what it refers to. -/
def listed {α : Type} [Keyed UUID α] (t : Table α) (references : α → List RowKey) :
    List (UUID × List RowKey) :=
  t.rows.map fun row => (key row, references row)

theorem listed_deleteListed {α : Type} [Keyed UUID α] (t : Table α)
    (references : α → List RowKey) (ids : List UUID) :
    listed (t.deleteListed ids) references =
      (listed t references).filter fun row => !decide (row.1 ∈ ids) := by
  rw [listed, listed, List.filter_map]
  rfl

end ForeignKeys

open ForeignKeys

/-- The rows of each table, with their foreign keys. -/
def PlatformDb.rowsOf (db : PlatformDb) : TableName → List (UUID × List RowKey)
  | .jobRuns => listed db.jobRuns ofJobRun
  | .publishedJobs => listed db.publishedJobs ofPublishedJob
  | .queuedJobs => listed db.queuedJobs fun _ => []
  | .scriptRenders => listed db.scriptRenders ofScriptRender
  | .executionArtifacts =>
    listed db.executionArtifacts fun row => [(.executionRuns, row.executionRunId)]
  | .executionRuns => listed db.executionRuns fun row => [(.executionPlans, row.executionPlanId)]
  | .executionPlans => listed db.executionPlans ofExecutionPlan
  | .executionRequests => listed db.executionRequests fun _ => []
  | .assetReconciliationAudits =>
    listed db.audits fun row => [(.crawlSnapshots, row.snapshotId)]
  | .assetSnapshots => listed db.assetSnapshots fun row =>
    [(.pageAssets, row.pageAssetId), (.crawlSnapshots, row.crawlSnapshotId)]
  | .modulePlans => listed db.modulePlans fun row => [(.pageAssets, row.pageAssetId)]
  | .intentAliases =>
    listed db.intentAliases fun row => optional .crawlSnapshots row.disabledBySnapshotId
  | .pageNavigationAliases => listed db.pageNavigationAliases ofPageNavigationAlias
  | .pageChecks => listed db.pageChecks ofPageCheck
  | .pageAssets => listed db.pageAssets ofPageAsset
  | .pageElements => listed db.pageElements fun row =>
    [(.systems, row.systemId), (.crawlSnapshots, row.snapshotId), (.pages, row.pageId)]
  | .menuNodes => listed db.menuNodes ofMenuNode
  | .pages => listed db.pages fun row =>
    (.systems, row.systemId) :: optional .crawlSnapshots row.snapshotId
  | .crawlSnapshots => listed db.crawlSnapshots fun row => [(.systems, row.systemId)]
  | .authStates => listed db.authStates fun row => [(.systems, row.systemId)]
  | .systemCredentials => listed db.systemCredentials fun row => [(.systems, row.systemId)]
  | .systemAuthPolicies => listed db.systemAuthPolicies fun row => [(.systems, row.systemId)]
  | .systemCrawlPolicies => listed db.systemCrawlPolicies fun row => [(.systems, row.systemId)]
  | .systems => listed db.systems fun _ => []
  | .crawlSnapshotsHist => listed db.crawlSnapshotsHist fun row => [(.systems, row.systemId)]
  | .pagesHist => listed db.pagesHist fun row => [(.systems, row.systemId)]
  | .menuNodesHist => listed db.menuNodesHist fun row => [(.systems, row.systemId)]
  | .pageElementsHist => listed db.pageElementsHist fun row => [(.systems, row.systemId)]
  | .authAuditLogs => listed db.authAuditLogs fun row => optional .systems row.systemId

/-- The tables that the foreign keys of a table name. -/
def TableName.referenced : TableName → List TableName
  | .jobRuns => [.publishedJobs, .queuedJobs, .executionRuns, .scriptRenders]
  | .publishedJobs => [.pageChecks, .scriptRenders, .crawlSnapshots, .pageAssets]
  | .scriptRenders => [.executionArtifacts, .executionPlans]
  | .executionArtifacts => [.executionRuns]
  | .executionRuns => [.executionPlans]
  | .executionPlans => [.executionRequests, .systems, .pageAssets, .pageChecks]
  | .assetReconciliationAudits | .intentAliases => [.crawlSnapshots]
  | .assetSnapshots => [.pageAssets, .crawlSnapshots]
  | .modulePlans => [.pageAssets]
  | .pageNavigationAliases => [.systems, .pageAssets, .crawlSnapshots]
  | .pageChecks => [.pageAssets, .crawlSnapshots]
  | .pageAssets => [.systems, .pages, .crawlSnapshots]
  | .pageElements => [.systems, .crawlSnapshots, .pages]
  | .menuNodes => [.systems, .crawlSnapshots, .menuNodes, .pages]
  | .pages => [.systems, .crawlSnapshots]
  | .queuedJobs | .executionRequests | .systems => []
  | _ => [.systems]

def TableName.all : List TableName :=
  [.jobRuns, .publishedJobs, .queuedJobs, .scriptRenders, .executionArtifacts, .executionRuns,
    .executionPlans, .executionRequests, .assetReconciliationAudits, .assetSnapshots,
    .modulePlans, .intentAliases, .pageNavigationAliases, .pageChecks, .pageAssets, .pageElements,
    .menuNodes, .pages, .crawlSnapshots, .authStates, .systemCredentials, .systemAuthPolicies,
    .systemCrawlPolicies, .systems, .crawlSnapshotsHist, .pagesHist, .menuNodesHist,
    .pageElementsHist, .authAuditLogs]

theorem TableName.mem_all (table : TableName) : table ∈ TableName.all := by
  cases table <;> decide

namespace PlatformDb

variable {db : PlatformDb}

/-- All rows, as far as references go. -/
def entries (db : PlatformDb) : List (Entry RowKey) :=
  TableName.all.flatMap fun table =>
    (db.rowsOf table).map fun row => { key := (table, row.1), refs := row.2 }

theorem mem_entries {e : Entry RowKey} :
    e ∈ db.entries ↔ (e.key.2, e.refs) ∈ db.rowsOf e.key.1 := by
  simp only [entries, List.mem_flatMap, List.mem_map]
  constructor
  · rintro ⟨table, -, row, hrow, rfl⟩
    exact hrow
  · exact fun h => ⟨e.key.1, TableName.mem_all _, _, h, rfl⟩

/-- A row refers to rows of the tables that its foreign keys name. -/
theorem fst_mem_referenced {table : TableName} {row : UUID × List RowKey}
    (h : row ∈ db.rowsOf table) {k : RowKey} (hk : k ∈ row.2) : k.1 ∈ table.referenced := by
  cases table <;> obtain ⟨r, -, rfl⟩ := List.mem_map.mp h <;>
    simp only [ofJobRun, ofPublishedJob, ofScriptRender, ofExecutionPlan, ofPageNavigationAlias,
      ofPageCheck, ofPageAsset, ofMenuNode, List.mem_cons, List.mem_append, mem_optional,
      List.not_mem_nil, or_false, TableName.referenced, Prod.ext_iff] at hk ⊢ <;>
    tauto

/-! ## Deletes -/

/-- The rows that are left.  An alias goes with the page asset it names. -/
def deleteRows (db : PlatformDb) (ids : List UUID) : TableName → PlatformDb
  | .jobRuns => { db with jobRuns := db.jobRuns.deleteListed ids }
  | .publishedJobs => { db with publishedJobs := db.publishedJobs.deleteListed ids }
  | .queuedJobs => { db with queuedJobs := db.queuedJobs.deleteListed ids }
  | .scriptRenders => { db with scriptRenders := db.scriptRenders.deleteListed ids }
  | .executionArtifacts =>
    { db with executionArtifacts := db.executionArtifacts.deleteListed ids }
  | .executionRuns => { db with executionRuns := db.executionRuns.deleteListed ids }
  | .executionPlans => { db with executionPlans := db.executionPlans.deleteListed ids }
  | .executionRequests => { db with executionRequests := db.executionRequests.deleteListed ids }
  | .assetReconciliationAudits => { db with audits := db.audits.deleteListed ids }
  | .assetSnapshots => { db with assetSnapshots := db.assetSnapshots.deleteListed ids }
  | .modulePlans => { db with modulePlans := db.modulePlans.deleteListed ids }
  | .intentAliases => { db with intentAliases := db.intentAliases.deleteListed ids }
  | .pageNavigationAliases =>
    { db with pageNavigationAliases := db.pageNavigationAliases.deleteListed ids }
  | .pageChecks => { db with pageChecks := db.pageChecks.deleteListed ids }
  | .pageAssets =>
    { db with
      pageNavigationAliases := db.pageNavigationAliases.delete fun row =>
        row.pageAssetId ∈ ids && (db.pageAssets.get? row.pageAssetId).isSome
      pageAssets := db.pageAssets.deleteListed ids }
  | .pageElements => { db with pageElements := db.pageElements.deleteListed ids }
  | .menuNodes => { db with menuNodes := db.menuNodes.deleteListed ids }
  | .pages => { db with pages := db.pages.deleteListed ids }
  | .crawlSnapshots => { db with crawlSnapshots := db.crawlSnapshots.deleteListed ids }
  | .authStates => { db with authStates := db.authStates.deleteListed ids }
  | .systemCredentials => { db with systemCredentials := db.systemCredentials.deleteListed ids }
  | .systemAuthPolicies => { db with systemAuthPolicies := db.systemAuthPolicies.deleteListed ids }
  | .systemCrawlPolicies =>
    { db with systemCrawlPolicies := db.systemCrawlPolicies.deleteListed ids }
  | .systems => { db with systems := db.systems.deleteListed ids }
  | .crawlSnapshotsHist => { db with crawlSnapshotsHist := db.crawlSnapshotsHist.deleteListed ids }
  | .pagesHist => { db with pagesHist := db.pagesHist.deleteListed ids }
  | .menuNodesHist => { db with menuNodesHist := db.menuNodesHist.deleteListed ids }
  | .pageElementsHist => { db with pageElementsHist := db.pageElementsHist.deleteListed ids }
  | .authAuditLogs => { db with authAuditLogs := db.authAuditLogs.deleteListed ids }

/-- The keys that a delete takes. -/
def takes (d : TableName × List UUID) (k : RowKey) : Bool :=
  k.1 = d.1 && k.2 ∈ d.2

/-- The rows that are left refer to none that were taken. -/
def Accepts (db left : PlatformDb) (d : TableName × List UUID) : Prop :=
  ∀ e ∈ left.entries, ∀ k ∈ e.refs, k ∈ db.entries.map Entry.key → takes d k = false

instance (db left : PlatformDb) (d : TableName × List UUID) : Decidable (Accepts db left d) :=
  inferInstanceAs (Decidable (∀ e ∈ left.entries, _))

/-- `delete_by_ids`, which the database refuses when a row that is left refers to one it takes. -/
def deleteByIds (db : PlatformDb) (d : TableName × List UUID) : Option PlatformDb :=
  if d.2.isEmpty then some db
  else
    let left := db.deleteRows d.2 d.1
    if Accepts db left d then some left else none

/-- One delete after the other. -/
def deleteAll (db : PlatformDb) (ds : List (TableName × List UUID)) : Option PlatformDb :=
  ds.foldlM deleteByIds db

/-- The rows that are left after all of them. -/
def deleteAllRows (db : PlatformDb) (ds : List (TableName × List UUID)) : PlatformDb :=
  ds.foldl (fun db d => db.deleteRows d.2 d.1) db

/-- No alias goes with an asset. -/
def NoneGoesAlong (db : PlatformDb) (d : TableName × List UUID) : Prop :=
  d.1 = .pageAssets → ∀ row ∈ db.pageNavigationAliases, row.pageAssetId ∉ d.2

theorem deleteRows_nil (table : TableName) : db.deleteRows [] table = db := by
  have hnone : db.pageNavigationAliases.delete
      (fun row => row.pageAssetId ∈ [] && (db.pageAssets.get? row.pageAssetId).isSome) =
        db.pageNavigationAliases := Table.delete_eq_self fun _ _ => rfl
  cases table <;> simp only [deleteRows, Table.deleteListed_nil, hnone]

theorem pageNavigationAliases_deleteRows {table : TableName} {ids : List UUID}
    (haliases : table ≠ .pageNavigationAliases) (hassets : table ≠ .pageAssets) :
    (db.deleteRows ids table).pageNavigationAliases = db.pageNavigationAliases := by
  cases table <;> first | rfl | exact absurd rfl haliases | exact absurd rfl hassets

theorem pageNavigationAliases_deleteRows_self (ids : List UUID) :
    (db.deleteRows ids .pageNavigationAliases).pageNavigationAliases =
      db.pageNavigationAliases.deleteListed ids := rfl

theorem rowsOf_deleteRows_of_ne {table other : TableName} {ids : List UUID}
    (h : db.NoneGoesAlong (table, ids)) (hne : other ≠ table) :
    (db.deleteRows ids table).rowsOf other = db.rowsOf other := by
  by_cases hassets : table = .pageAssets
  · subst hassets
    have hnone : db.pageNavigationAliases.delete (fun row =>
        row.pageAssetId ∈ ids && (db.pageAssets.get? row.pageAssetId).isSome) =
          db.pageNavigationAliases := by
      refine Table.delete_eq_self fun row hrow => ?_
      rw [decide_eq_false (h rfl row hrow), Bool.false_and]
    rw [deleteRows, hnone]
    cases other <;> first | rfl | exact absurd rfl hne
  · cases table <;> first
      | exact absurd rfl hassets
      | (cases other <;> first | rfl | exact absurd rfl hne)

theorem rowsOf_deleteRows_self (table : TableName) (ids : List UUID) :
    (db.deleteRows ids table).rowsOf table =
      (db.rowsOf table).filter fun row => !decide (row.1 ∈ ids) := by
  cases table <;> exact listed_deleteListed _ _ _

/-- **On the rows and their references, the rows that are left are those of `References`.** -/
theorem entries_deleteRows {d : TableName × List UUID} (h : db.NoneGoesAlong d) :
    (db.deleteRows d.2 d.1).entries = remaining (takes d) db.entries := by
  rw [entries, remaining, entries, List.filter_flatMap]
  refine List.flatMap_congr fun table _ => ?_
  rw [List.filter_map]
  by_cases htable : table = d.1
  · rw [htable, rowsOf_deleteRows_self]
    refine congrArg _ (List.filter_congr fun row _ => ?_)
    rw [Function.comp_apply, takes, decide_eq_true rfl, Bool.true_and]
  · rw [rowsOf_deleteRows_of_ne h htable]
    refine congrArg _ (List.filter_eq_self.mpr fun row _ => ?_).symm
    rw [Function.comp_apply, takes, decide_eq_false htable, Bool.false_and]
    rfl

theorem deleteByIds_eq {d : TableName × List UUID} (h : db.NoneGoesAlong d) :
    db.deleteByIds d =
      if Intact (takes d) db.entries then some (db.deleteRows d.2 d.1) else none := by
  obtain ⟨table, ids⟩ := d
  cases ids with
  | nil =>
    have hintact : Intact (takes (table, [])) db.entries := fun _ _ _ k _ _ => Bool.and_false _
    rw [if_pos hintact, deleteRows_nil]
    rfl
  | cons id ids =>
    have hiff : Accepts db (db.deleteRows (id :: ids) table) (table, id :: ids) ↔
        Intact (takes (table, id :: ids)) db.entries := by
      have hleft := entries_deleteRows h
      dsimp only at hleft
      rw [Accepts, hleft]
      constructor
      · exact fun haccepts e he hstays k hk hkey =>
          haccepts e (References.mem_remaining.mpr ⟨he, hstays⟩) k hk hkey
      · intro hintact e he k hk hkey
        obtain ⟨hmem, hstays⟩ := References.mem_remaining.mp he
        exact hintact e hmem hstays k hk hkey
    rw [deleteByIds, List.isEmpty_cons, if_neg Bool.false_ne_true]
    exact if_congr hiff rfl rfl

/-- No alias goes with an asset at any of the deletes. -/
def NoneGoAlong : PlatformDb → List (TableName × List UUID) → Prop
  | _, [] => True
  | db, d :: ds => db.NoneGoesAlong d ∧ NoneGoAlong (db.deleteRows d.2 d.1) ds

/-- **The deletes of the database are refused when those of `References` are.** -/
theorem deleteAll_refines {ds : List (TableName × List UUID)} (h : NoneGoAlong db ds) :
    db.deleteAll ds =
      (References.deleteAll (ds.map takes) db.entries).map fun _ => db.deleteAllRows ds := by
  induction ds generalizing db with
  | nil => rfl
  | cons d ds ih =>
    rw [deleteAll, List.foldlM_cons, deleteByIds_eq h.1, References.deleteAll, List.map_cons,
      List.foldlM_cons, References.delete]
    by_cases hintact : Intact (takes d) db.entries
    · rw [if_pos hintact, if_pos hintact, ← entries_deleteRows h.1]
      exact ih h.2
    · rw [if_neg hintact, if_neg hintact]
      rfl

/-- **Deletes in a good order go through exactly when no row that is left refers to a row that is
taken by any of them.** -/
theorem deleteAll_eq {ds : List (TableName × List UUID)} (h : NoneGoAlong db ds)
    (hordered : Ordered (ds.map takes) db.entries) :
    db.deleteAll ds =
      if Intact (goneInAny (ds.map takes)) db.entries then some (db.deleteAllRows ds)
      else none := by
  rw [deleteAll_refines h, References.deleteAll_eq hordered, References.delete]
  split
  · rfl
  · rfl

/-- Tables in an order in which no table is referred to by a later one. -/
theorem ordered_of_referenced {ds : List (TableName × List UUID)}
    (h : (ds.map Prod.fst).Pairwise fun earlier later => earlier ∉ later.referenced) :
    Ordered (ds.map takes) db.entries := by
  rw [Ordered, List.pairwise_map]
  refine (List.pairwise_map.mp h).imp fun {earlier later} hnot e he htakes k hk => ?_
  have htable : e.key.1 = later.1 := of_decide_eq_true ((Bool.and_eq_true _ _).mp htakes).1
  have hreferenced := fst_mem_referenced (mem_entries.mp he) hk
  rw [htable] at hreferenced
  have hother : k.1 ≠ earlier.1 := fun heq => hnot (heq ▸ hreferenced)
  rw [takes, decide_eq_false hother, Bool.false_and]

end PlatformDb

end Runlet
