import Runlet.AssetCompiler.CurrentStateSwitch
import Runlet.AssetCompiler.Retirement

/-!
# Compiling a snapshot

`AssetCompilerService.compile_snapshot`: switch the current state, compile the pages, retire what
the snapshot no longer shows, and write an audit row.  The call commits once, at its end: a
successful call is the database it commits and its result, and a call that fails has no effect.
-/

namespace Runlet

open KeyedTable

namespace AssetCompiler

/-- The rows of a snapshot, in the orders in which they are read. -/
def compileContext (ids : IdSource) (now : DateTime) (system : System) (snapshot : CrawlSnapshot)
    (db : Db) : CompileContext where
  ids := ids
  now := now
  system := system
  snapshot := snapshot
  pages := CurrentStateSwitch.snapshotPages snapshot.id db
  menus := (db.menuNodes.select fun menu => menu.snapshotId = snapshot.id).insertionSort
    fun a b => (toLex (a.depth, toLex (a.sortOrder, a.id)) : Int ×ₗ Int ×ₗ UUID) ≤
      toLex (b.depth, toLex (b.sortOrder, b.id))
  elements := (db.pageElements.select fun element => element.snapshotId = snapshot.id).insertionSort
    fun a b => (toLex (a.pageId, a.id) : UUID ×ₗ UUID) ≤ toLex (b.pageId, b.id)

def snapshotTruth (cx : CompileContext) : SnapshotTruth :=
  Reconciliation.buildCurrentSnapshotTruth cx.pages cx.menus cx.elements

/-- The gate, as it stands before the loop over the pages. -/
def qualityGate (cx : CompileContext) (db : Db) : QualityGateDecision :=
  Reconciliation.evaluateRetirementQualityGate cx.snapshot.crawlType cx.snapshot.degraded
    cx.snapshot.qualityScore (snapshotTruth cx).routePaths.length
    (previousActivePageCount cx.system.id db)

/-- The decisions a compile takes after its loop over the pages. -/
def retirementDecisions (cx : CompileContext) (gate : QualityGateDecision) (db : Db) :
    List RetirementDecision :=
  let active := activeTruth cx.system.id db
  Reconciliation.reconcileRetirementDecisions active.pages active.checkTruths (snapshotTruth cx)
    gate

/-- The database after the retirement, with the identifiers that were retired. -/
def retireMissing (cx : CompileContext) (gate : QualityGateDecision) (db : Db) : RetireState :=
  let active := activeTruth cx.system.id db
  applyDecisions cx active (retirementDecisions cx gate db) (recordDependencies active.checks db)

def maxDriftState (states : List AssetStatus) : AssetStatus :=
  if .stale ∈ states then .stale
  else if .suspect ∈ states then .suspect
  else .safe

/-- The audit row of a compile. -/
def writeAudit (cx : CompileContext) (retired : RetireState) (decisions : CascadeDecisions) : Db :=
  { retired.db with
    audits := retired.db.audits.insert cx.ids fun id =>
      { id := id
        snapshotId := cx.snapshot.id
        retiredAssetIds := retired.retiredAssetIds.eraseDups
        retiredCheckIds := retired.retiredCheckIds.eraseDups
        disabledAliasIds := decisions.aliasIdsToDisable
        enabledAliasIds := decisions.aliasIdsToEnable
        retireReasons := decisions.retireReasons
        pausedPublishedJobIds := decisions.publishedJobIdsToPause
        resumedPublishedJobIds := decisions.publishedJobIdsToResume
        createdAt := cx.now } }

def compileResult (cx : CompileContext) (outcome : SwitchOutcome) (compiled : CompileState)
    (retired : RetireState) (decisions : CascadeDecisions) : CompileSnapshotResult where
  snapshotId := cx.snapshot.id
  status := "success"
  assetsCreated := compiled.assetsCreated
  assetsUpdated := compiled.assetsUpdated
  assetsRetired := retired.retiredAssetIds.eraseDups.length
  checksCreated := compiled.checksCreated
  checksUpdated := compiled.checksUpdated
  checksRetired := retired.retiredCheckIds.eraseDups.length
  driftState := maxDriftState compiled.driftStates
  switchOutcome := outcome
  assetIds := compiled.pageAssetIds
  checkIds := compiled.pageCheckIds
  aliasDisableDecisionCount := decisions.aliasIdsToDisable.length
  aliasEnableDecisionCount := decisions.aliasIdsToEnable.length
  publishedJobPauseDecisionCount := decisions.publishedJobIdsToPause.length
  publishedJobResumeDecisionCount := decisions.publishedJobIdsToResume.length
  aliasIdsToDisable := decisions.aliasIdsToDisable
  aliasIdsToEnable := decisions.aliasIdsToEnable
  publishedJobIdsToPause := decisions.publishedJobIdsToPause
  publishedJobIdsToResume := decisions.publishedJobIdsToResume
  retireReasons := decisions.retireReasons

/-- A compile after its snapshot was promoted. -/
def compilePromoted (cx : CompileContext) (outcome : SwitchOutcome) (db : Db) :
    Db × CompileSnapshotResult :=
  let gate := qualityGate cx db
  let compiled := compilePages cx db
  let retired := retireMissing cx gate compiled.db
  let decisions := cascadeDecisions (activeTruth cx.system.id compiled.db) gate
    compiled.reactivatedCheckIds retired
  (writeAudit cx retired decisions, compileResult cx outcome compiled retired decisions)

/-- The result of a compile whose snapshot was set aside. -/
def skippedResult (snapshot : CrawlSnapshot) (outcome : SwitchOutcome) : CompileSnapshotResult where
  snapshotId := snapshot.id
  status := "success"
  assetsCreated := 0
  checksCreated := 0
  driftState := .safe
  switchOutcome := outcome
  message := some s!"snapshot {UUID.text snapshot.id} {outcome.value}"

def compileSnapshot (ids : IdSource) (now : DateTime) (snapshotId : UUID) (db : Db) :
    Except String (Db × CompileSnapshotResult) :=
  match db.crawlSnapshots.get? snapshotId with
  | none => .error s!"crawl snapshot {UUID.text snapshotId} not found"
  | some snapshot =>
    match db.systems.get? snapshot.systemId with
    | none => .error s!"system {UUID.text snapshot.systemId} not found"
    | some system => do
      let switched ← CurrentStateSwitch.applyCurrentStateSwitch ids now snapshot.id db
      if switched.result.outcome ≠ .promoted then
        pure (switched.db, skippedResult snapshot switched.result.outcome)
      else
        pure (compilePromoted (compileContext ids now system snapshot switched.db)
          switched.result.outcome switched.db)

end AssetCompiler

end Runlet
