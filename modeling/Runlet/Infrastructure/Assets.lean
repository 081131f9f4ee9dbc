import Runlet.Infrastructure.Crawl

/-!
# Asset rows

The rows of `db/models/assets.py` that the modelled functions read or write.  Columns that hold
data the program itself builds with a fixed shape are typed: the blocking dependencies of a check
are a `BlockingDependency`, the identifier lists of an audit row are lists of identifiers.
-/

namespace Runlet

open KeyedTable

structure PageAsset where
  id : UUID
  systemId : UUID
  pageId : UUID
  assetKey : String
  assetVersion : String
  status : AssetStatus := .safe
  driftStatus : AssetStatus := .safe
  lifecycleStatus : AssetLifecycleStatus := .active
  retiredReason : Option String := none
  retiredAt : Option DateTime := none
  retiredBySnapshotId : Option UUID := none
  compiledFromSnapshotId : Option UUID := none
  deriving DecidableEq

instance : Keyed UUID PageAsset := ⟨PageAsset.id⟩

/-- An element a check cannot do without, by the columns it is recognised by. -/
structure ElementDescriptor where
  kind : Option String := none
  role : Option String := none
  text : Option String := none
  deriving DecidableEq

/-- What a check depends on: a chain of menu labels and elements of its page. -/
structure BlockingDependency where
  menuChain : List String
  requiredElements : List ElementDescriptor
  deriving DecidableEq

structure PageCheck where
  id : UUID
  pageAssetId : UUID
  checkCode : String
  goal : String
  lifecycleStatus : AssetLifecycleStatus := .active
  retiredReason : Option String := none
  retiredAt : Option DateTime := none
  retiredBySnapshotId : Option UUID := none
  inputSchema : Option Json := none
  assertionSchema : Option Json := none
  modulePlanId : Option UUID := none
  blockingDependencyJson : Option BlockingDependency := none
  successRate : Option Rat := none

instance : Keyed UUID PageCheck := ⟨PageCheck.id⟩

structure IntentAlias where
  id : UUID
  systemAlias : String
  pageAlias : Option String
  checkAlias : String
  routeHint : Option String
  assetKey : String
  confidence : Rat := 1
  source : String
  isActive : Bool := true
  disabledReason : Option String := none
  disabledAt : Option DateTime := none
  disabledBySnapshotId : Option UUID := none
  deriving DecidableEq

instance : Keyed UUID IntentAlias := ⟨IntentAlias.id⟩

structure PageNavigationAlias where
  id : UUID
  systemId : UUID
  pageAssetId : UUID
  aliasType : String
  aliasText : String
  leafText : Option String
  displayChain : Option String
  chainComplete : Bool := false
  source : String
  isActive : Bool := true
  disabledReason : Option String := none
  disabledAt : Option DateTime := none
  disabledBySnapshotId : Option UUID := none
  deriving DecidableEq

instance : Keyed UUID PageNavigationAlias := ⟨PageNavigationAlias.id⟩

structure ModulePlan where
  id : UUID
  pageAssetId : UUID
  checkCode : String
  planVersion : String := "v1"
  stepsJson : List Json := []

instance : Keyed UUID ModulePlan := ⟨ModulePlan.id⟩

structure AssetSnapshot where
  id : UUID
  pageAssetId : UUID
  crawlSnapshotId : UUID
  assetVersion : String
  structureHash : String
  navigationHash : String
  keyLocatorHash : String
  semanticSummaryHash : String
  diffScoreVsPrevious : Rat := 0
  status : AssetStatus := .safe
  deriving DecidableEq

instance : Keyed UUID AssetSnapshot := ⟨AssetSnapshot.id⟩

/-- The warning a closed quality gate leaves behind. -/
structure CollapseWarning where
  reason : String
  currentPageCount : ℕ
  previousActivePageCount : ℕ
  collapseRatio : Rat
  collapseRatioThreshold : Rat
  deriving DecidableEq

/-- One entry of the `retire_reasons` of a compile. -/
structure RetireReasonPayload where
  reason : String
  pageAssetId : Option UUID
  pageCheckIds : List UUID
  publishedJobIds : List UUID
  warning : Option CollapseWarning := none
  deriving DecidableEq

structure AssetReconciliationAudit where
  id : UUID
  snapshotId : UUID
  retiredAssetIds : List UUID := []
  retiredCheckIds : List UUID := []
  disabledAliasIds : List UUID := []
  enabledAliasIds : List UUID := []
  retireReasons : List RetireReasonPayload := []
  pausedPublishedJobIds : List UUID := []
  resumedPublishedJobIds : List UUID := []
  createdAt : DateTime
  deriving DecidableEq

instance : Keyed UUID AssetReconciliationAudit := ⟨AssetReconciliationAudit.id⟩

/-- `asset_compiler/schemas.py`: the result of a compile. -/
structure CompileSnapshotResult where
  snapshotId : UUID
  status : String
  assetsCreated : ℕ
  checksCreated : ℕ
  driftState : AssetStatus
  switchOutcome : SwitchOutcome := .promoted
  assetsUpdated : ℕ := 0
  assetsRetired : ℕ := 0
  checksUpdated : ℕ := 0
  checksRetired : ℕ := 0
  aliasDisableDecisionCount : ℕ := 0
  aliasEnableDecisionCount : ℕ := 0
  publishedJobPauseDecisionCount : ℕ := 0
  publishedJobResumeDecisionCount : ℕ := 0
  assetIds : List UUID := []
  checkIds : List UUID := []
  aliasIdsToDisable : List UUID := []
  aliasIdsToEnable : List UUID := []
  publishedJobIdsToPause : List UUID := []
  publishedJobIdsToResume : List UUID := []
  retireReasons : List RetireReasonPayload := []
  message : Option String := none
  deriving DecidableEq

end Runlet
