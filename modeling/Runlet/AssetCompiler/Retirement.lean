import Runlet.AssetCompiler.PageLoop

/-!
# Retiring what a snapshot no longer shows

The second half of `AssetCompilerService.compile_snapshot`: read the active assets and checks of
the system, decide which of them are missing from the snapshot, retire those, and work out which
aliases and published jobs have to follow.
-/

namespace Runlet

open KeyedTable

/-- What is read between the loop over the pages and the decisions. -/
structure ActiveTruth where
  assets : List PageAsset
  pages : List ActivePageTruth
  checks : List PageCheck
  checkTruths : List ActiveCheckTruth

/-- The variables of the loop over the decisions. -/
structure RetireState where
  db : Db
  retiredAssetIds : List UUID := []
  retiredCheckIds : List UUID := []
  retireReasons : List RetireReasonPayload := []

namespace AssetCompiler

/-! ## Reading the active rows -/

def loadActivePageAssets (systemId : UUID) (db : Db) : List PageAsset :=
  db.pageAssets.select fun asset => asset.systemId = systemId && asset.lifecycleStatus = .active

def loadActivePageChecks (pageAssetIds : List UUID) (db : Db) : List PageCheck :=
  db.pageChecks.select fun check =>
    check.pageAssetId ∈ pageAssetIds && check.lifecycleStatus = .active

/-- The number of routes that the active assets were compiled from. -/
def previousActivePageCount (systemId : UUID) (db : Db) : ℕ :=
  ((loadActivePageAssets systemId db).filterMap fun asset =>
    (db.pages.get? asset.pageId).map fun page => Text.strip page.routePath).eraseDups.length

/-- The route an active asset stands for, when there is one. -/
def activePageTruth (db : Db) (asset : PageAsset) : Option ActivePageTruth :=
  match db.pages.get? asset.pageId with
  | none => none
  | some page =>
    if Text.strip page.routePath = "" then none
    else some { pageAssetId := asset.id, routePath := Text.strip page.routePath }

/-- The entries of an assertion schema that is an object. -/
def schemaEntries : Option Json → Option (List (String × Json))
  | some (.obj l) => some l
  | _ => none

/-- The dependencies of a check that has none recorded. -/
def derivedDependencies (db : Db) (check : PageCheck) : BlockingDependency :=
  Reconciliation.buildBlockingDependencyJson
    (((check.modulePlanId.bind db.modulePlans.get?).map (·.stepsJson)).getD [])
    (schemaEntries check.assertionSchema)

def dependenciesOf (db : Db) (check : PageCheck) : BlockingDependency :=
  check.blockingDependencyJson.getD (derivedDependencies db check)

def activeTruth (systemId : UUID) (db : Db) : ActiveTruth :=
  let assets := loadActivePageAssets systemId db
  let checks := loadActivePageChecks (assets.map (·.id)) db
  { assets := assets
    pages := assets.filterMap (activePageTruth db)
    checks := checks
    checkTruths := checks.map fun check =>
      { pageCheckId := check.id
        pageAssetId := check.pageAssetId
        blockingDependencyJson := dependenciesOf db check } }

def recordDerivedDependencies (db : Db) (check : PageCheck) : PageCheck :=
  { check with blockingDependencyJson := some (derivedDependencies db check) }

theorem key_recordDerivedDependencies (db : Db) (check : PageCheck) :
    key (recordDerivedDependencies db check) = key check := rfl

/-- The dependencies that were derived are recorded. -/
def recordDependencies (checks : List PageCheck) (db : Db) : Db :=
  { db with
    pageChecks := db.pageChecks.update
      (fun check => check.id ∈ checks.map (·.id) && check.blockingDependencyJson.isNone)
      (recordDerivedDependencies db) (key_recordDerivedDependencies db) }

/-! ## Retiring -/

section Retire

variable (cx : CompileContext) (active : ActiveTruth)

def retireAsset (asset : PageAsset) : PageAsset :=
  { asset with
    lifecycleStatus := .retiredMissing
    retiredReason := some "missing_page"
    retiredAt := some cx.now
    retiredBySnapshotId := some cx.snapshot.id }

def retireCheck (reason : String) (check : PageCheck) : PageCheck :=
  { check with
    lifecycleStatus := .retiredMissing
    retiredReason := some reason
    retiredAt := some cx.now
    retiredBySnapshotId := some cx.snapshot.id }

theorem key_retireAsset (asset : PageAsset) : key (retireAsset cx asset) = key asset := rfl

theorem key_retireCheck (reason : String) (check : PageCheck) :
    key (retireCheck cx reason check) = key check := rfl

/-- `active_assets_by_id.get(id)`, as the row is now, when it is still active. -/
def isActiveAsset (db : Db) (id : UUID) : Bool :=
  active.assets.any (fun asset => asset.id = id) &&
    (db.pageAssets.get? id).any fun asset => asset.lifecycleStatus = .active

/-- `active_checks_by_id.get(id)`, as the row is now, when it is still active. -/
def isActiveCheck (db : Db) (id : UUID) : Bool :=
  active.checks.any (fun check => check.id = id) &&
    (db.pageChecks.get? id).any fun check => check.lifecycleStatus = .active

/-- One turn of the loop over the checks of a decision. -/
def applyCheckDecision (reason : String) (acc : Db × List UUID) (checkId : UUID) : Db × List UUID :=
  if isActiveCheck active acc.1 checkId then
    ({ acc.1 with
        pageChecks := acc.1.pageChecks.update (fun check => check.id = checkId)
          (retireCheck cx reason) (key_retireCheck cx reason) },
      acc.2 ++ [checkId])
  else acc

/-- One turn of the loop over the decisions. -/
def applyDecision (st : RetireState) (decision : RetirementDecision) : RetireState :=
  let retired := decision.reason = "missing_page" && isActiveAsset active st.db decision.pageAssetId
  let db :=
    if retired then
      { st.db with
        pageAssets := st.db.pageAssets.update (fun asset => asset.id = decision.pageAssetId)
          (retireAsset cx) (key_retireAsset cx) }
    else st.db
  let (db, checkIds) :=
    decision.pageCheckIds.foldl (applyCheckDecision cx active decision.reason) (db, [])
  { db := db
    retiredAssetIds :=
      if retired then st.retiredAssetIds ++ [decision.pageAssetId] else st.retiredAssetIds
    retiredCheckIds := st.retiredCheckIds ++ checkIds
    retireReasons := st.retireReasons ++
      [{ reason := decision.reason
         pageAssetId := some decision.pageAssetId
         pageCheckIds := checkIds
         publishedJobIds := [] }] }

def applyDecisions (decisions : List RetirementDecision) (db : Db) : RetireState :=
  decisions.foldl (applyDecision cx active) { db := db }

end Retire

/-! ## What has to follow -/

/-- The asset key of an active asset. -/
def activeAssetKey (active : ActiveTruth) (assetId : UUID) : Option String :=
  (active.assets.find? fun asset => asset.id = assetId).map (·.assetKey)

/-- The asset key and the code of an active check. -/
def checkTarget (active : ActiveTruth) (checkId : UUID) : Option (String × String) :=
  (active.checks.find? fun check => check.id = checkId).bind fun check =>
    (activeAssetKey active check.pageAssetId).map fun assetKey => (assetKey, check.checkCode)

/-- The targets both of whose parts are set. -/
def checkTargetSet (targets : List (String × String)) : List (String × String) :=
  targets.filter fun target => target.1 ≠ "" && target.2 ≠ ""

def queryAliasIdsToDisable (retiredAssetKeys : List String)
    (retiredCheckTargets : List (String × String)) (db : Db) : List UUID :=
  let targets := checkTargetSet retiredCheckTargets
  let candidates := retiredAssetKeys ++ targets.map Prod.fst
  let aliases := db.intentAliases.select fun row => row.assetKey ∈ candidates && row.isActive
  (aliases.filter fun row =>
    row.assetKey ∈ retiredAssetKeys.filter (fun assetKey => assetKey ≠ "") ||
      (row.assetKey, row.checkAlias) ∈ targets).map (·.id)

def isSystemDisabledAlias (row : IntentAlias) : Bool :=
  let reason := Text.lower (Text.strip (row.disabledReason.getD ""))
  row.disabledBySnapshotId.isSome && reason ≠ "" &&
    (Text.startsWith "retired_" reason || Text.startsWith "asset_retired" reason ||
      Text.containsText "retired" reason)

def queryAliasIdsToEnable (reactivatedCheckTargets : List (String × String)) (db : Db) :
    List UUID :=
  let targets := checkTargetSet reactivatedCheckTargets
  let aliases := db.intentAliases.select fun row =>
    row.assetKey ∈ targets.map Prod.fst && !row.isActive
  (aliases.filter fun row =>
    (row.assetKey, row.checkAlias) ∈ targets && isSystemDisabledAlias row).map (·.id)

def queryPublishedJobsToPause (pageCheckIds : List UUID) (db : Db) : List PublishedJob :=
  db.publishedJobs.select fun job => job.pageCheckId ∈ pageCheckIds && job.state = .active

def isSystemPausedJob (job : PublishedJob) : Bool :=
  Text.containsText "retired" (Text.lower (Text.strip (job.pauseReason.getD ""))) &&
    (job.pausedBySnapshotId.isSome || job.pausedByAssetId.isSome || job.pausedByPageCheckId.isSome)

def queryPublishedJobsToResume (pageCheckIds : List UUID) (db : Db) : List PublishedJob :=
  (db.publishedJobs.select fun job =>
    job.pageCheckId ∈ pageCheckIds && job.state = .paused).filter isSystemPausedJob

/-- The jobs a reason pauses are those of the checks it retires. -/
def withPublishedJobs (jobs : List PublishedJob) (payload : RetireReasonPayload) :
    RetireReasonPayload :=
  { payload with
    publishedJobIds := Reconciliation.sortedSet
      ((jobs.filter fun job => job.pageCheckId ∈ payload.pageCheckIds).map (·.id)) }

/-- What a compile decides about aliases and published jobs. -/
structure CascadeDecisions where
  aliasIdsToDisable : List UUID
  aliasIdsToEnable : List UUID
  publishedJobIdsToPause : List UUID
  publishedJobIdsToResume : List UUID
  retireReasons : List RetireReasonPayload

def cascadeDecisions (active : ActiveTruth) (gate : QualityGateDecision)
    (reactivatedCheckIds : List UUID) (st : RetireState) : CascadeDecisions :=
  let retiredAssetKeys := st.retiredAssetIds.eraseDups.filterMap (activeAssetKey active)
  let retiredCheckIds := st.retiredCheckIds.eraseDups
  let resumeCheckIds := reactivatedCheckIds.eraseDups.filter fun id => id ∉ retiredCheckIds
  let jobsToPause := queryPublishedJobsToPause retiredCheckIds st.db
  { aliasIdsToDisable := queryAliasIdsToDisable retiredAssetKeys
      (retiredCheckIds.filterMap (checkTarget active)) st.db
    aliasIdsToEnable := queryAliasIdsToEnable
      (resumeCheckIds.filterMap (checkTarget active)) st.db
    publishedJobIdsToPause := jobsToPause.map (·.id)
    publishedJobIdsToResume := (queryPublishedJobsToResume resumeCheckIds st.db).map (·.id)
    retireReasons := st.retireReasons.map (withPublishedJobs jobsToPause) ++
      match gate.warningPayload with
      | none => []
      | some warning =>
        [{ reason := "quality_gate_blocked"
           pageAssetId := none
           pageCheckIds := []
           publishedJobIds := []
           warning := some warning }] }

end AssetCompiler

end Runlet
