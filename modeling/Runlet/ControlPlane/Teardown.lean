import Runlet.ControlPlane.SchedulerRegistry
import Runlet.ControlPlane.SystemAdmin
import Runlet.Infrastructure.ForeignKeys

/-!
# Tearing a system down

`teardown_system` of `system_admin_service.py`, with what it takes from
`system_admin_repository.py`: the rows of a system are collected table by table, its scheduler jobs
are removed, the rows are deleted in one transaction, and what is left is looked at once more.

The collection follows references both ways.  From the assets, checks and snapshots of the system
it comes to the plans, runs and published jobs that use them; from these to their job runs; and from
the job runs back to the queued jobs, runs and scripts these name.
-/

namespace Runlet

open KeyedTable
open RowQuery (leftJoin)

/-- The snapshot that a stored result names. -/
def ResultPayload.snapshotId : ResultPayload → Option UUID
  | .compile result _ _ _ _ => some result.snapshotId
  | .crawl snapshotId => some snapshotId
  | .runCheck _ => none

/-- The field holds one of the identifiers. -/
def IdField.isIn (ids : List UUID) : IdField → Bool
  | .uuid id => id ∈ ids
  | _ => false

namespace SystemAdmin

/-- `_sorted_unique`. -/
def sortedUnique (ids : List UUID) : List UUID :=
  ids.dedup.mergeSort

/-- `_select_ids`, of the rows that satisfy `p`. -/
def selectIds {α : Type} [Keyed UUID α] (t : Table α) (p : α → Bool) : List UUID :=
  sortedUnique ((t.rows.filter p).map key)

/-- A column that may be null is one of the identifiers. -/
def isIn (ids : List UUID) (column : Option UUID) : Bool :=
  column.any fun id => id ∈ ids

structure SystemTeardownIds where
  systemId : UUID
  systemCode : String
  jobRunIds : List UUID
  publishedJobIds : List UUID
  pageCheckIds : List UUID
  pageAssetIds : List UUID
  navigationAliasIds : List UUID
  intentAliasIds : List UUID
  modulePlanIds : List UUID
  assetSnapshotIds : List UUID
  reconciliationAuditIds : List UUID
  pageIds : List UUID
  menuNodeIds : List UUID
  pageElementIds : List UUID
  crawlSnapshotIds : List UUID
  authStateIds : List UUID
  systemCredentialIds : List UUID
  authPolicyIds : List UUID
  crawlPolicyIds : List UUID
  executionPlanIds : List UUID
  executionRunIds : List UUID
  executionArtifactIds : List UUID
  executionRequestIds : List UUID
  scriptRenderIds : List UUID
  queuedJobIds : List UUID

/-! ## What is collected -/

section Collect

variable (system : System) (db : Db)

def authPolicyIds : List UUID :=
  selectIds db.systemAuthPolicies fun row => row.systemId = system.id

def crawlPolicyIds : List UUID :=
  selectIds db.systemCrawlPolicies fun row => row.systemId = system.id

def crawlSnapshotIds : List UUID :=
  selectIds db.crawlSnapshots fun row => row.systemId = system.id

def pageAssetIds : List UUID :=
  selectIds db.pageAssets fun row => row.systemId = system.id

def navigationAliasIds : List UUID :=
  selectIds db.pageNavigationAliases fun row =>
    row.systemId = system.id || row.pageAssetId ∈ pageAssetIds system db

def pageCheckIds : List UUID :=
  selectIds db.pageChecks fun row => row.pageAssetId ∈ pageAssetIds system db

def modulePlanIds : List UUID :=
  selectIds db.modulePlans fun row => row.pageAssetId ∈ pageAssetIds system db

/-- The aliases of the assets of the system, by their key, and those under its code. -/
def intentAliasIds : List UUID :=
  sortedUnique (((leftJoin (fun row : IntentAlias =>
      db.pageAssets.rows.filter fun asset => row.assetKey = asset.assetKey)
    db.intentAliases.rows).filter fun joined =>
      (joined.2.any fun asset => asset.systemId = system.id) ||
        joined.1.systemAlias = system.code).map fun joined => joined.1.id)

/-- The requests that name the code of the system. -/
def hintedRequestIds : List UUID :=
  selectIds db.executionRequests fun row => row.systemHint = system.code

/-- `_build_execution_plan_id_statement`. -/
def executionPlanIds : List UUID :=
  selectIds db.executionPlans fun row =>
    row.resolvedSystemId = some system.id ||
      isIn (pageAssetIds system db) row.resolvedPageAssetId ||
      isIn (pageCheckIds system db) row.resolvedPageCheckId ||
      isIn (modulePlanIds system db) row.modulePlanId ||
      row.executionRequestId ∈ hintedRequestIds system db

def executionRequestIds : List UUID :=
  if (executionPlanIds system db).isEmpty then hintedRequestIds system db
  else sortedUnique (hintedRequestIds system db ++
    sortedUnique ((db.executionPlans.rows.filter fun row =>
      row.id ∈ executionPlanIds system db).map (·.executionRequestId)))

/-- The runs of the plans, and the artifacts of runs. -/
def plannedRunIds : List UUID :=
  selectIds db.executionRuns fun row => row.executionPlanId ∈ executionPlanIds system db

def artifactIdsOf (executionRunIds : List UUID) : List UUID :=
  selectIds db.executionArtifacts fun row => row.executionRunId ∈ executionRunIds

/-- `_build_published_job_id_statement`. -/
def publishedJobIds : List UUID :=
  selectIds db.publishedJobs fun row =>
    row.pageCheckId ∈ pageCheckIds system db ||
      isIn (pageCheckIds system db) row.pausedByPageCheckId ||
      isIn (pageAssetIds system db) row.pausedByAssetId ||
      isIn (crawlSnapshotIds system db) row.pausedBySnapshotId

/-- `_build_script_render_id_statement`. -/
def renderIdsOf (executionArtifactIds : List UUID) : List UUID :=
  selectIds db.scriptRenders fun row =>
    isIn executionArtifactIds row.executionArtifactId ||
      isIn (executionPlanIds system db) row.executionPlanId

/-- The scripts of the published jobs, the plans and the artifacts. -/
def plannedRenderIds : List UUID :=
  sortedUnique (sortedUnique ((db.publishedJobs.rows.filter fun row =>
      row.id ∈ publishedJobIds system db).filterMap (·.scriptRenderId)) ++
    renderIdsOf system db (artifactIdsOf db (plannedRunIds system db)))

/-- `_collect_queued_job_ids`. -/
def namedJobIds : List UUID :=
  selectIds db.queuedJobs fun job =>
    isIn (authPolicyIds system db ++ crawlPolicyIds system db) job.policyId ||
      job.payload.systemId = .uuid system.id ||
      job.payload.snapshotId.isIn (crawlSnapshotIds system db) ||
      isIn (crawlSnapshotIds system db) (job.resultPayload.bind ResultPayload.snapshotId) ||
      job.payload.executionPlanId.isIn (executionPlanIds system db) ||
      job.payload.executionRequestId.isIn (executionRequestIds system db) ||
      job.payload.pageCheckId.isIn (pageCheckIds system db)

/-- `_collect_job_runs`. -/
def collectJobRuns : List JobRun :=
  db.jobRuns.rows.filter fun row =>
    row.publishedJobId ∈ publishedJobIds system db ||
      isIn (namedJobIds system db) row.queuedJobId ||
      isIn (plannedRunIds system db) row.executionRunId ||
      isIn (plannedRenderIds system db) row.scriptRenderId ||
      isIn (authPolicyIds system db ++ crawlPolicyIds system db) row.policyId

def executionRunIds : List UUID :=
  sortedUnique (plannedRunIds system db ++
    (collectJobRuns system db).filterMap (·.executionRunId))

def executionArtifactIds : List UUID :=
  sortedUnique (artifactIdsOf db (plannedRunIds system db) ++
    artifactIdsOf db (executionRunIds system db))

/-- `collect_system_teardown_ids`. -/
def collectSystemTeardownIds : SystemTeardownIds where
  systemId := system.id
  systemCode := system.code
  jobRunIds := sortedUnique ((collectJobRuns system db).map (·.id))
  publishedJobIds := publishedJobIds system db
  pageCheckIds := pageCheckIds system db
  pageAssetIds := pageAssetIds system db
  navigationAliasIds := navigationAliasIds system db
  intentAliasIds := intentAliasIds system db
  modulePlanIds := modulePlanIds system db
  assetSnapshotIds :=
    selectIds db.assetSnapshots fun row => row.pageAssetId ∈ pageAssetIds system db
  reconciliationAuditIds :=
    selectIds db.audits fun row => row.snapshotId ∈ crawlSnapshotIds system db
  pageIds := selectIds db.pages fun row => row.systemId = system.id
  menuNodeIds := selectIds db.menuNodes fun row => row.systemId = system.id
  pageElementIds := selectIds db.pageElements fun row => row.systemId = system.id
  crawlSnapshotIds := crawlSnapshotIds system db
  authStateIds := selectIds db.authStates fun row => row.systemId = system.id
  systemCredentialIds := selectIds db.systemCredentials fun row => row.systemId = system.id
  authPolicyIds := authPolicyIds system db
  crawlPolicyIds := crawlPolicyIds system db
  executionPlanIds := executionPlanIds system db
  executionRunIds := executionRunIds system db
  executionArtifactIds := executionArtifactIds system db
  executionRequestIds := executionRequestIds system db
  scriptRenderIds := sortedUnique (sortedUnique (plannedRenderIds system db ++
      (collectJobRuns system db).filterMap (·.scriptRenderId)) ++
    renderIdsOf system db (executionArtifactIds system db))
  queuedJobIds := sortedUnique (namedJobIds system db ++
    (collectJobRuns system db).filterMap (·.queuedJobId))

end Collect

/-- The deletes, in their order. -/
def SystemTeardownIds.deletes (ids : SystemTeardownIds) : List (TableName × List UUID) :=
  [(.jobRuns, ids.jobRunIds), (.publishedJobs, ids.publishedJobIds),
    (.queuedJobs, ids.queuedJobIds), (.scriptRenders, ids.scriptRenderIds),
    (.executionArtifacts, ids.executionArtifactIds), (.executionRuns, ids.executionRunIds),
    (.executionPlans, ids.executionPlanIds), (.executionRequests, ids.executionRequestIds),
    (.assetReconciliationAudits, ids.reconciliationAuditIds),
    (.assetSnapshots, ids.assetSnapshotIds), (.modulePlans, ids.modulePlanIds),
    (.intentAliases, ids.intentAliasIds), (.pageNavigationAliases, ids.navigationAliasIds),
    (.pageChecks, ids.pageCheckIds), (.pageAssets, ids.pageAssetIds),
    (.pageElements, ids.pageElementIds), (.menuNodes, ids.menuNodeIds), (.pages, ids.pageIds),
    (.crawlSnapshots, ids.crawlSnapshotIds), (.authStates, ids.authStateIds),
    (.systemCredentials, ids.systemCredentialIds), (.systemAuthPolicies, ids.authPolicyIds),
    (.systemCrawlPolicies, ids.crawlPolicyIds), (.systems, [ids.systemId])]

/-! ## What is left -/

section Remaining

variable (ids : SystemTeardownIds) (db : Db)

/-- The identifiers that a subquery finds now. -/
def currentIds {α : Type} [Keyed UUID α] (t : Table α) (p : α → Bool) : List UUID :=
  (t.rows.filter p).map key

def currentAssetIds : List UUID :=
  currentIds db.pageAssets fun row => row.systemId = ids.systemId

def ofCurrentAsset (pageAssetId : UUID) : Bool :=
  db.pageAssets.rows.any fun asset => asset.id = pageAssetId && asset.systemId = ids.systemId

def currentCheckIds : List UUID :=
  currentIds db.pageChecks fun row => ofCurrentAsset ids db row.pageAssetId

def currentModulePlanIds : List UUID :=
  currentIds db.modulePlans fun row => ofCurrentAsset ids db row.pageAssetId

def currentAliasIds : List UUID :=
  currentIds db.pageNavigationAliases fun row =>
    row.systemId = ids.systemId || row.pageAssetId ∈ currentAssetIds ids db

def currentSnapshotIds : List UUID :=
  currentIds db.crawlSnapshots fun row => row.systemId = ids.systemId

def currentPolicyIds : List UUID :=
  currentIds db.systemAuthPolicies (fun row => row.systemId = ids.systemId) ++
    currentIds db.systemCrawlPolicies fun row => row.systemId = ids.systemId

def currentRequestIds : List UUID :=
  currentIds db.executionRequests fun row => row.systemHint = ids.systemCode

def currentPlanIds : List UUID :=
  currentIds db.executionPlans fun row =>
    row.resolvedSystemId = some ids.systemId ||
      isIn (currentAssetIds ids db) row.resolvedPageAssetId ||
      isIn (currentCheckIds ids db) row.resolvedPageCheckId ||
      isIn (currentModulePlanIds ids db) row.modulePlanId ||
      row.executionRequestId ∈ currentRequestIds ids db

def currentRunIds : List UUID :=
  currentIds db.executionRuns fun row => row.executionPlanId ∈ currentPlanIds ids db

def currentArtifactIds : List UUID :=
  currentIds db.executionArtifacts fun row => row.executionRunId ∈ currentRunIds ids db

def currentPublishedJobIds : List UUID :=
  currentIds db.publishedJobs fun row =>
    row.pageCheckId ∈ currentCheckIds ids db ||
      isIn (currentCheckIds ids db) row.pausedByPageCheckId ||
      isIn (currentAssetIds ids db) row.pausedByAssetId ||
      isIn (currentSnapshotIds ids db) row.pausedBySnapshotId

def currentRenderIds : List UUID :=
  currentIds db.scriptRenders fun row =>
    isIn (currentPlanIds ids db) row.executionPlanId ||
      isIn (currentArtifactIds ids db) row.executionArtifactId ||
      row.id ∈ (db.publishedJobs.rows.filter fun job =>
        job.id ∈ currentPublishedJobIds ids db).filterMap (·.scriptRenderId)

/-- `_has_remaining_queued_jobs`. -/
def hasRemainingQueuedJobs : Bool :=
  db.queuedJobs.rows.any fun job =>
    job.payload.systemId = .uuid ids.systemId ||
      isIn (currentPolicyIds ids db ++ (ids.authPolicyIds ++ ids.crawlPolicyIds)) job.policyId ||
      job.payload.executionRequestId.isIn
        (currentRequestIds ids db ++ ids.executionRequestIds) ||
      job.payload.executionPlanId.isIn (currentPlanIds ids db ++ ids.executionPlanIds) ||
      job.payload.pageCheckId.isIn (currentCheckIds ids db ++ ids.pageCheckIds) ||
      job.payload.snapshotId.isIn (currentSnapshotIds ids db ++ ids.crawlSnapshotIds) ||
      isIn (currentSnapshotIds ids db ++ ids.crawlSnapshotIds)
        (job.resultPayload.bind ResultPayload.snapshotId)

/-- Whether a table still has rows that a teardown should have taken. -/
def remainingChecks : List (TableName × Bool) :=
  [ (.jobRuns, db.jobRuns.rows.any fun row =>
      row.publishedJobId ∈ currentPublishedJobIds ids db ||
        isIn (currentRunIds ids db) row.executionRunId ||
        isIn (currentRenderIds ids db) row.scriptRenderId ||
        row.publishedJobId ∈ ids.publishedJobIds || isIn ids.executionRunIds row.executionRunId ||
        isIn ids.scriptRenderIds row.scriptRenderId || isIn ids.queuedJobIds row.queuedJobId ||
        isIn (ids.authPolicyIds ++ ids.crawlPolicyIds) row.policyId),
    (.publishedJobs, db.publishedJobs.rows.any fun row =>
      row.id ∈ currentPublishedJobIds ids db || row.id ∈ ids.publishedJobIds),
    (.queuedJobs, hasRemainingQueuedJobs ids db),
    (.executionArtifacts, db.executionArtifacts.rows.any fun row =>
      row.id ∈ currentArtifactIds ids db || row.id ∈ ids.executionArtifactIds),
    (.scriptRenders, db.scriptRenders.rows.any fun row =>
      row.id ∈ currentRenderIds ids db || row.id ∈ ids.scriptRenderIds),
    (.executionRuns, db.executionRuns.rows.any fun row =>
      row.id ∈ currentRunIds ids db || row.id ∈ ids.executionRunIds),
    (.executionPlans, db.executionPlans.rows.any fun row =>
      row.id ∈ currentPlanIds ids db || row.id ∈ ids.executionPlanIds),
    (.executionRequests, db.executionRequests.rows.any fun row =>
      row.systemHint = ids.systemCode || row.id ∈ ids.executionRequestIds),
    (.assetReconciliationAudits, db.audits.rows.any fun row =>
      row.snapshotId ∈ currentSnapshotIds ids db || row.id ∈ ids.reconciliationAuditIds),
    (.assetSnapshots, db.assetSnapshots.rows.any fun row =>
      row.pageAssetId ∈ currentAssetIds ids db || row.id ∈ ids.assetSnapshotIds),
    (.modulePlans, db.modulePlans.rows.any fun row =>
      row.pageAssetId ∈ currentAssetIds ids db || row.id ∈ ids.modulePlanIds),
    (.intentAliases, (leftJoin (fun row : IntentAlias =>
        db.pageAssets.rows.filter fun asset => row.assetKey = asset.assetKey)
      db.intentAliases.rows).any fun joined =>
        (joined.2.any fun asset => asset.systemId = ids.systemId) ||
          joined.1.systemAlias = ids.systemCode || joined.1.id ∈ ids.intentAliasIds),
    (.pageNavigationAliases, db.pageNavigationAliases.rows.any fun row =>
      row.id ∈ currentAliasIds ids db || row.id ∈ ids.navigationAliasIds),
    (.pageChecks, db.pageChecks.rows.any fun row =>
      row.pageAssetId ∈ currentAssetIds ids db || row.id ∈ ids.pageCheckIds),
    (.pageAssets, db.pageAssets.rows.any fun row =>
      row.systemId = ids.systemId || row.id ∈ ids.pageAssetIds),
    (.pageElements, db.pageElements.rows.any fun row =>
      row.systemId = ids.systemId || row.id ∈ ids.pageElementIds),
    (.menuNodes, db.menuNodes.rows.any fun row =>
      row.systemId = ids.systemId || row.id ∈ ids.menuNodeIds),
    (.pages, db.pages.rows.any fun row => row.systemId = ids.systemId || row.id ∈ ids.pageIds),
    (.crawlSnapshots, db.crawlSnapshots.rows.any fun row =>
      row.systemId = ids.systemId || row.id ∈ ids.crawlSnapshotIds),
    (.authStates, db.authStates.rows.any fun row =>
      row.systemId = ids.systemId || row.id ∈ ids.authStateIds),
    (.systemCredentials, db.systemCredentials.rows.any fun row =>
      row.systemId = ids.systemId || row.id ∈ ids.systemCredentialIds),
    (.systemAuthPolicies, db.systemAuthPolicies.rows.any fun row =>
      row.systemId = ids.systemId || row.id ∈ ids.authPolicyIds),
    (.systemCrawlPolicies, db.systemCrawlPolicies.rows.any fun row =>
      row.systemId = ids.systemId || row.id ∈ ids.crawlPolicyIds),
    (.systems, db.systems.rows.any fun row =>
      row.id = ids.systemId || row.code = ids.systemCode) ]

/-- `list_remaining_reference_tables`. -/
def listRemainingReferenceTables : List TableName :=
  ((remainingChecks ids db).filter (·.2)).map (·.1)

end Remaining

/-! ## The service -/

structure TeardownSystemResult where
  systemFound : Bool
  remainingSchedulerJobIds : List SchedulerJobId := []
  remainingReferenceTables : List TableName := []
  deriving DecidableEq

/-- What a teardown raises: a message, what the database refuses, or what was left. -/
inductive TeardownError where
  | runtimeError (message : String)
  | integrityError
  | residue (tables : List TableName) (schedulerJobs : List SchedulerJobId)
  deriving DecidableEq

/-- The scheduler jobs of the policies and the published jobs. -/
def schedulerJobIds (ids : SystemTeardownIds) : List SchedulerJobId :=
  .authPolicy ids.systemId :: .crawlPolicy ids.systemId ::
    ids.publishedJobIds.map SchedulerJobId.publishedJob

/-- `_remove_scheduler_jobs`. -/
def removeSchedulerJobs (ids : SystemTeardownIds) (jobs : SchedulerJobs) : SchedulerJobs :=
  (schedulerJobIds ids).foldl (fun jobs jobId => SchedulerRegistry.removeJob jobId jobs) jobs

/-- `_remaining_scheduler_job_ids`. -/
def remainingSchedulerJobIds (ids : SystemTeardownIds) (jobs : SchedulerJobs) :
    List SchedulerJobId :=
  (schedulerJobIds ids).filter fun jobId => (jobs jobId).isSome

/-- What a teardown returns or raises, and the database and the scheduler it leaves. -/
abbrev Teardown :=
  Except TeardownError TeardownSystemResult × PlatformDb × Option SchedulerJobs

/-- `teardown_system`.  The scheduler is there when the service has a registry. -/
def teardownSystem (systemCode : String) (db : PlatformDb) (scheduler : Option SchedulerJobs) :
    Teardown :=
  match db.systems.first? (hasCode systemCode) with
  | none => (.ok { systemFound := false }, db, scheduler)
  | some system =>
    match scheduler with
    | none =>
      (.error (.runtimeError "scheduler_registry is required for teardown"), db, none)
    | some jobs =>
      let ids := collectSystemTeardownIds system db.toDb
      let removed := removeSchedulerJobs ids jobs
      match db.deleteAll ids.deletes with
      | none => (.error .integrityError, db, some removed)
      | some left =>
        let tables := listRemainingReferenceTables ids left.toDb
        let schedulerJobs := remainingSchedulerJobIds ids removed
        if tables ≠ [] ∨ schedulerJobs ≠ [] then
          (.error (.residue tables schedulerJobs), left, some removed)
        else (.ok { systemFound := true }, left, some removed)

end SystemAdmin

end Runlet
