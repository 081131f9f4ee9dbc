import Runlet.Infrastructure.Execution
import Runlet.Infrastructure.RuntimePolicies

/-!
# The database

One table for each row type.  A transaction is a function from databases to databases: the rows a
session has changed are visible to its own queries, so a session's view is the database its writes
produce, and a rollback is a return to the database the transaction started from.

Three sources of values lie outside the program and are parameters: `uuid4`, which draws the key of
a new row; the instant at which a call reads the clock; and, where a claim is about failures, the
point at which a call raises.
-/

namespace Runlet

open KeyedTable

structure Db where
  systems : Table System := .empty
  crawlSnapshots : Table CrawlSnapshot := .empty
  pages : Table Page := .empty
  menuNodes : Table MenuNode := .empty
  pageElements : Table PageElement := .empty
  crawlSnapshotsHist : Table CrawlSnapshotHist := .empty
  pagesHist : Table PageHist := .empty
  menuNodesHist : Table MenuNodeHist := .empty
  pageElementsHist : Table PageElementHist := .empty
  pageAssets : Table PageAsset := .empty
  pageChecks : Table PageCheck := .empty
  intentAliases : Table IntentAlias := .empty
  pageNavigationAliases : Table PageNavigationAlias := .empty
  modulePlans : Table ModulePlan := .empty
  assetSnapshots : Table AssetSnapshot := .empty
  audits : Table AssetReconciliationAudit := .empty
  queuedJobs : Table QueuedJob := .empty
  publishedJobs : Table PublishedJob := .empty
  scriptRenders : Table ScriptRender := .empty
  jobRuns : Table JobRun := .empty
  systemAuthPolicies : Table SystemAuthPolicy := .empty
  systemCrawlPolicies : Table SystemCrawlPolicy := .empty
  executionRequests : Table ExecutionRequest := .empty
  executionPlans : Table ExecutionPlan := .empty
  executionRuns : Table ExecutionRun := .empty
  executionArtifacts : Table ExecutionArtifact := .empty
  systemCredentials : Table SystemCredential := .empty
  authStates : Table AuthState := .empty

/-- The source of primary keys. -/
abbrev IdSource := KeySource UUID

/-- Keys counted upwards: the next number after the ones in use. -/
def IdSource.ascending : IdSource where
  draw used := used.foldr max 0 + 1
  draw_notMem used h := by
    have hle : ∀ (l : List UUID) (k : UUID), k ∈ l → k ≤ l.foldr max 0 := by
      intro l
      induction l with
      | nil => intro k hk; exact absurd hk List.not_mem_nil
      | cons a l ih =>
        intro k hk
        rw [List.foldr_cons]
        rcases List.mem_cons.mp hk with rfl | hk
        · exact le_max_left _ _
        · exact le_trans (ih k hk) (le_max_right _ _)
    exact Nat.not_succ_le_self _ (hle used _ h)

/-- A key that is asked for, while it is free. -/
def IdSource.preferring (id : UUID) : IdSource where
  draw used := if id ∉ used then id else IdSource.ascending.draw used
  draw_notMem used := by
    split
    · assumption
    · exact IdSource.ascending.draw_notMem used

end Runlet
