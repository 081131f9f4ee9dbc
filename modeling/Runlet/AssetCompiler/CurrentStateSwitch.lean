import Runlet.AssetCompiler.CurrentStateDiff
import Runlet.Infrastructure.Database
import Mathlib.Data.Prod.Lex

/-!
# The switch of the current state

`asset_compiler/current_state_switch.py`.  A draft snapshot is set aside when its quality is low or
when it shows nothing new; otherwise it becomes the active snapshot of its system, and the one it
replaces is archived and discarded.

A successful call is its list of flushes (the databases the session wrote, one after the other),
the database after the last of them, and the result.  A call that fails has no effect.
-/

namespace Runlet

open KeyedTable
open AssetCompiler (normalizeText)

structure CurrentStateSwitchResult where
  outcome : SwitchOutcome
  activeSnapshotId : Option UUID := none
  archivedSnapshotId : Option UUID := none
  deriving DecidableEq

/-- A successful call. -/
structure Switched where
  flushes : List Db
  db : Db
  result : CurrentStateSwitchResult

namespace CurrentStateSwitch

/-- `_is_high_quality_snapshot`. -/
def isHighQualitySnapshot (snapshot : CrawlSnapshot) : Bool :=
  snapshot.crawlType = "full" && !snapshot.degraded &&
    snapshot.qualityScore.any fun score => (9 / 10 : Rat) ≤ score

/-- The order in which active snapshots are preferred: activated last, started last. -/
def activationKey (s : CrawlSnapshot) : ℕ ×ₗ DateTime ×ₗ DateTime ×ₗ UUID :=
  toLex (if s.activatedAt = none then 1 else 0,
    toLex (s.activatedAt.getD 0, toLex (s.startedAt, s.id)))

def loadActiveSnapshot (systemId excludeSnapshotId : UUID) (db : Db) : Option CrawlSnapshot :=
  ((db.crawlSnapshots.select fun s =>
    s.systemId = systemId && s.state = .active && s.id ≠ excludeSnapshotId).insertionSort
      fun a b => activationKey b ≤ activationKey a).head?

/-! ## What two snapshots are compared by -/

/-- `_normalize_state_context`. -/
def normalizeStateContext : Option Json → String
  | some (.obj (e :: l)) => Json.dumps true (.obj (e :: l))
  | _ => ""

def buildElementSemanticText (element : PageElement) : String :=
  s!"{normalizeText element.elementText}|state={normalizeText element.stateSignature}|context={normalizeStateContext element.stateContext}"

/-- The pages of a snapshot by route. -/
def snapshotPages (snapshotId : UUID) (db : Db) : List Page :=
  (db.pages.select fun page => page.snapshotId = some snapshotId).insertionSort fun a b =>
    (toLex (a.routePath, a.id) : String ×ₗ UUID) ≤ toLex (b.routePath, b.id)

/-- The menus of a page by depth and position. -/
def pageMenus (snapshotId pageId : UUID) (db : Db) : List MenuNode :=
  (db.menuNodes.select fun menu =>
    menu.snapshotId = snapshotId && menu.pageId = some pageId).insertionSort fun a b =>
      (toLex (a.depth, toLex (a.sortOrder, a.id)) : Int ×ₗ Int ×ₗ UUID) ≤
        toLex (b.depth, toLex (b.sortOrder, b.id))

/-- The elements of a page by type. -/
def pageElements (snapshotId pageId : UUID) (db : Db) : List PageElement :=
  (db.pageElements.select fun element =>
    element.snapshotId = snapshotId && element.pageId = pageId).insertionSort fun a b =>
      (toLex (a.elementType, a.id) : String ×ₗ UUID) ≤ toLex (b.elementType, b.id)

def pageFingerprint (snapshotId : UUID) (db : Db) (page : Page) : PageSemanticFingerprint :=
  CurrentStateDiff.buildFingerprint page.routePath page.pageTitle
    (((pageMenus snapshotId page.id db).map (·.label)).filter fun label => Text.strip label ≠ "")
    ((pageElements snapshotId page.id db).map fun element =>
      (some element.elementType, element.elementRole, some (buildElementSemanticText element)))

def loadSnapshotSemanticState (snapshotId : UUID) (db : Db) : List PageSemanticFingerprint :=
  (snapshotPages snapshotId db).map (pageFingerprint snapshotId db)

/-! ## Archiving -/

/-- The row that archives the snapshot `activeSnapshot`, replaced by the snapshot `draftId`. -/
def archivedSnapshot (activeSnapshot : CrawlSnapshot) (draftId id : UUID) : CrawlSnapshotHist where
  id := id
  snapshotId := activeSnapshot.id
  systemId := activeSnapshot.systemId
  crawlType := activeSnapshot.crawlType
  frameworkDetected := activeSnapshot.frameworkDetected
  qualityScore := activeSnapshot.qualityScore
  degraded := activeSnapshot.degraded
  state := activeSnapshot.state
  sourceActiveSnapshotId := some activeSnapshot.id
  replacedBySnapshotId := some draftId
  archiveReason := some "semantic_change"
  activatedAt := activeSnapshot.activatedAt
  discardedAt := activeSnapshot.discardedAt
  failureReason := activeSnapshot.failureReason
  warningMessages := activeSnapshot.warningMessages
  structureHash := activeSnapshot.structureHash
  startedAt := activeSnapshot.startedAt
  finishedAt := activeSnapshot.finishedAt

def archivedPage (page : Page) (id : UUID) : PageHist where
  id := id
  pageId := page.id
  systemId := page.systemId
  snapshotId := page.snapshotId
  routePath := page.routePath
  pageTitle := page.pageTitle
  pageSummary := page.pageSummary
  keywords := page.keywords
  discoverySources := page.discoverySources
  entryCandidates := page.entryCandidates
  contextConstraints := page.contextConstraints
  navigationDiagnostics := page.navigationDiagnostics
  crawledAt := page.crawledAt

def archivedMenuNode (menuNode : MenuNode) (id : UUID) : MenuNodeHist where
  id := id
  menuNodeId := menuNode.id
  systemId := menuNode.systemId
  snapshotId := menuNode.snapshotId
  parentId := menuNode.parentId
  pageId := menuNode.pageId
  label := menuNode.label
  routePath := menuNode.routePath
  depth := menuNode.depth
  sortOrder := menuNode.sortOrder
  playwrightLocator := menuNode.playwrightLocator
  discoverySources := menuNode.discoverySources
  entryCandidates := menuNode.entryCandidates
  contextConstraints := menuNode.contextConstraints

def archivedPageElement (pageElement : PageElement) (id : UUID) : PageElementHist where
  id := id
  pageElementId := pageElement.id
  systemId := pageElement.systemId
  snapshotId := pageElement.snapshotId
  pageId := pageElement.pageId
  elementType := pageElement.elementType
  elementRole := pageElement.elementRole
  elementText := pageElement.elementText
  attributes := pageElement.attributes
  playwrightLocator := pageElement.playwrightLocator
  stateSignature := pageElement.stateSignature
  stateContext := pageElement.stateContext
  locatorCandidates := pageElement.locatorCandidates
  materializedBy := pageElement.materializedBy
  navigationDiagnostics := pageElement.navigationDiagnostics
  stabilityScore := pageElement.stabilityScore
  usageDescription := pageElement.usageDescription

/-- The archived snapshot and its new row. -/
def archiveSnapshot (ids : IdSource) (activeSnapshot : CrawlSnapshot) (draftId : UUID) (db : Db) :
    Db :=
  { db with
    crawlSnapshotsHist := db.crawlSnapshotsHist.insert ids (archivedSnapshot activeSnapshot draftId) }

/-- The rows of a snapshot that a query selects, in the order of their keys. -/
def byId {α : Type} [Keyed UUID α] (rows : List α) : List α :=
  rows.insertionSort fun a b => (key a : UUID) ≤ key b

/-- `_archive_active_snapshot_facts`. -/
def archiveActiveSnapshotFacts (ids : IdSource) (activeSnapshotId : UUID) (db : Db) : Db :=
  { db with
    pagesHist := (byId (db.pages.select fun page => page.snapshotId = some activeSnapshotId)).foldl
      (fun hist page => hist.insert ids (archivedPage page)) db.pagesHist
    menuNodesHist :=
      (byId (db.menuNodes.select fun menu => menu.snapshotId = activeSnapshotId)).foldl
        (fun hist menu => hist.insert ids (archivedMenuNode menu)) db.menuNodesHist
    pageElementsHist :=
      (byId (db.pageElements.select fun element => element.snapshotId = activeSnapshotId)).foldl
        (fun hist element => hist.insert ids (archivedPageElement element)) db.pageElementsHist }

/-! ## State changes -/

/-- Write a snapshot row. -/
def writeSnapshot (id : UUID) (f : CrawlSnapshot → CrawlSnapshot) (hf : ∀ s, key (f s) = key s)
    (db : Db) : Db :=
  { db with crawlSnapshots := db.crawlSnapshots.update (fun s => s.id = id) f hf }

def discard (now : DateTime) (id : UUID) (db : Db) : Db :=
  writeSnapshot id (fun s => { s with state := .discarded, discardedAt := some now })
    (fun _ => rfl) db

def activate (now : DateTime) (id : UUID) (db : Db) : Db :=
  writeSnapshot id
    (fun s => { s with state := .active, activatedAt := some now, discardedAt := none })
    (fun _ => rfl) db

/-- The last part of a call: the draft shows changes. -/
def replaceActive (ids : IdSource) (now : DateTime) (activeSnapshot draft : CrawlSnapshot)
    (db : Db) : Switched :=
  let archivedId := db.crawlSnapshotsHist.nextKey ids
  -- The first query of the archive writes the pending row before the facts are added.
  let pending := archiveSnapshot ids activeSnapshot draft.id db
  let archived := archiveActiveSnapshotFacts ids activeSnapshot.id pending
  let discarded := discard now activeSnapshot.id archived
  let activated := activate now draft.id discarded
  { flushes := [pending, archived, discarded, activated]
    db := activated
    result :=
      { outcome := .promoted
        activeSnapshotId := some draft.id
        archivedSnapshotId := some archivedId } }

def applyCurrentStateSwitch (ids : IdSource) (now : DateTime) (draftSnapshotId : UUID) (db : Db) :
    Except String Switched :=
  match db.crawlSnapshots.get? draftSnapshotId with
  | none => .error s!"crawl snapshot {UUID.text draftSnapshotId} not found"
  | some draft =>
    if draft.state = .active then
      .ok
        { flushes := []
          db := db
          result := { outcome := .promoted, activeSnapshotId := some draft.id } }
    else if draft.state ≠ .draft then
      .error s!"crawl snapshot {UUID.text draftSnapshotId} must be draft or active, got {draft.state.value}"
    else if !isHighQualitySnapshot draft then
      let discarded := discard now draft.id db
      .ok
        { flushes := [discarded]
          db := discarded
          result := { outcome := .discardedLowQuality } }
    else
      match loadActiveSnapshot draft.systemId draft.id db with
      | none =>
        let activated := activate now draft.id db
        .ok
          { flushes := [activated]
            db := activated
            result := { outcome := .promoted, activeSnapshotId := some draft.id } }
      | some activeSnapshot => do
        let diff ← CurrentStateDiff.compareSemanticStates
          (loadSnapshotSemanticState activeSnapshot.id db) (loadSnapshotSemanticState draft.id db)
        if !diff.hasChanges then
          let discarded := discard now draft.id db
          pure
            { flushes := [discarded]
              db := discarded
              result :=
                { outcome := .discardedNoChange, activeSnapshotId := some activeSnapshot.id } }
        else
          pure (replaceActive ids now activeSnapshot draft db)

end CurrentStateSwitch

end Runlet
