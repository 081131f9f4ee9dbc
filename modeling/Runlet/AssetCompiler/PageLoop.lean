import Runlet.AssetCompiler.ModulePlanBuilder
import Runlet.AssetCompiler.Fingerprints
import Runlet.AssetCompiler.NavigationAliases
import Runlet.AssetCompiler.Reconciliation
import Runlet.Infrastructure.Database

/-!
# The page loop of a compile

The first half of `AssetCompilerService.compile_snapshot`: for each page of the snapshot, find or
create its asset, judge its drift, and find or create its checks, their plans and their aliases.

What a page contributes is a function of the snapshot alone (`PageFacts`); what the loop does with
it is a sequence of find-or-create writes (`compilePage`, `compileCheck`).
-/

namespace Runlet

open KeyedTable

/-- What is fixed during a compile. -/
structure CompileContext where
  ids : IdSource
  now : DateTime
  system : System
  snapshot : CrawlSnapshot
  pages : List Page
  menus : List MenuNode
  elements : List PageElement

/-- The variables of the loop. -/
structure CompileState where
  db : Db
  assetsCreated : ℕ := 0
  assetsUpdated : ℕ := 0
  checksCreated : ℕ := 0
  checksUpdated : ℕ := 0
  pageAssetIds : List UUID := []
  pageCheckIds : List UUID := []
  driftStates : List AssetStatus := []
  reactivatedCheckIds : List UUID := []

namespace AssetCompiler

/-! ## Keys and versions -/

def isHighQualityFullSnapshot (snapshot : CrawlSnapshot) : Bool :=
  snapshot.crawlType = "full" && !snapshot.degraded &&
    snapshot.qualityScore.any fun score => Reconciliation.qualityGateMinScore ≤ score

def buildAssetKey (systemCode routePath : String) (pageTitle : Option String) : String :=
  if routeSegments routePath ≠ [] then
    Text.replaceChar '-' '_'
      (Text.joinWith "." (Text.lower systemCode :: routeSegments routePath))
  else
    let title := match pageTitle with
      | none => "page"
      | some t => if t = "" then "page" else t
    Text.joinWith "."
      [Text.lower systemCode, Text.lower (Text.replaceChar ' ' '_' (Text.strip title))]

/-- The day of the civil calendar, from the number of days since the epoch. -/
def civilDate (days : ℕ) : ℕ × ℕ × ℕ :=
  let z := days + 719468
  let era := z / 146097
  let dayOfEra := z % 146097
  let yearOfEra := (dayOfEra - dayOfEra / 1460 + dayOfEra / 36524 - dayOfEra / 146096) / 365
  let dayOfYear := dayOfEra - (365 * yearOfEra + yearOfEra / 4 - yearOfEra / 100)
  let m := (5 * dayOfYear + 2) / 153
  let month := if m < 10 then m + 3 else m - 9
  let year := yearOfEra + era * 400
  (if month ≤ 2 then year + 1 else year, month, dayOfYear - (153 * m + 2) / 5 + 1)

/-- Decimal digits, padded with zeros. -/
def padded (width n : ℕ) : String :=
  String.ofList ((List.range width).map fun i => Nat.digitChar (n / 10 ^ (width - 1 - i) % 10))

/-- `strftime("%Y%m%d%H%M%S")`. -/
def timestamp (t : DateTime) : String :=
  let seconds := t / 1000000
  let (year, month, day) := civilDate (seconds / 86400)
  padded 4 year ++ padded 2 month ++ padded 2 day ++ padded 2 (seconds / 3600 % 24) ++
    padded 2 (seconds / 60 % 60) ++ padded 2 (seconds % 60)

example : timestamp 1775433599000000 = "20260405235959" := by decide

/-- The start of a snapshot is never absent, so the version is always a time. -/
@[irreducible] def buildAssetVersion (snapshot : CrawlSnapshot) : String :=
  timestamp snapshot.startedAt

/-! ## What a page contributes -/

section PageFacts

variable (cx : CompileContext) (page : Page)

@[irreducible] def assetKeyOf : String :=
  buildAssetKey cx.system.code page.routePath page.pageTitle

def defaultStateSignature : String :=
  buildDefaultStateSignature page.routePath

def menusOfPage : List MenuNode :=
  cx.menus.filter fun menu => menu.pageId = some page.id

def elementsOfPage : List PageElement :=
  cx.elements.filter fun element => element.pageId = page.id

def normalizedElements : List NormalizedElement :=
  (elementsOfPage cx page).map fun element =>
    buildNormalizedElement element (defaultStateSignature page)

def pagePayload : PagePayload where
  routePath := page.routePath
  pageTitle := page.pageTitle
  pageSummary := page.pageSummary
  menus := (menusOfPage cx page).map fun menu =>
    { label := menu.label
      routePath := menu.routePath
      depth := menu.depth
      sortOrder := menu.sortOrder }
  elements := normalizedElements cx page

@[irreducible] def pageFingerprint : PageFingerprint :=
  Fingerprints.buildPageFingerprint (pagePayload cx page)

def hasTable : Bool :=
  (normalizedElements cx page).any fun element => Text.strip element.elementType = "table"

def hasCreateAction : Bool :=
  (normalizedElements cx page).any fun element =>
    suggestsCreateAction (Text.strip element.elementText)

def pageContext : PageContext where
  systemCode := cx.system.code
  pageTitle := page.pageTitle
  routePath := page.routePath
  menuChain := ((menusOfPage cx page).map (·.label)).filter fun label => label ≠ ""
  hasTable := hasTable cx page
  defaultStateSignature := defaultStateSignature page

@[irreducible] def standardChecks : List StandardCheckDefinition :=
  CheckTemplates.buildStandardChecks page.pageSummary (hasTable cx page) (hasCreateAction cx page)
    (collectRepresentativeStates (normalizedElements cx page)) (some (defaultStateSignature page))

variable (definition : StandardCheckDefinition)

/-- `check_definition.state_signature or default_state_signature`. -/
def checkStateSignature : String :=
  if definition.stateSignature.getD "" = "" then defaultStateSignature page
  else definition.stateSignature.getD ""

@[irreducible] def modulePlanDraft : ModulePlanDraft :=
  ModulePlanBuilder.buildModulePlan definition.checkCode (pageContext cx page)
    (checkStateSignature page definition)
    (selectLocatorBundleForCheck definition.checkCode (checkStateSignature page definition)
      (defaultStateSignature page) (normalizedElements cx page))

def checkInputSchema : List (String × Json) :=
  Json.put (definition.inputSchema.getD []) "state_signature"
    (.str (checkStateSignature page definition))

@[irreducible] def blockingDependencies : BlockingDependency :=
  Reconciliation.buildBlockingDependencyJson (modulePlanDraft cx page definition).stepsJson
    definition.assertionSchema

end PageFacts

/-! ## Intent aliases -/

/-- The columns by which an alias of a check is recognised. -/
def isAliasFor (systemAlias pageAlias checkCode assetKey : String) (row : IntentAlias) : Bool :=
  row.systemAlias = systemAlias && row.pageAlias = some pageAlias &&
    row.checkAlias = checkCode && row.assetKey = assetKey

def pageAliasOf (page : Page) : String :=
  if page.pageTitle.getD "" = "" then page.routePath else page.pageTitle.getD ""

def newIntentAlias (page : Page) (assetKey checkCode systemAlias : String) (id : UUID) :
    IntentAlias where
  id := id
  systemAlias := systemAlias
  pageAlias := some (pageAliasOf page)
  checkAlias := checkCode
  routeHint := some page.routePath
  assetKey := assetKey
  confidence := 1
  source := "asset_compiler"

def refreshIntentAlias (page : Page) (row : IntentAlias) : IntentAlias :=
  { row with routeHint := some page.routePath, confidence := 1, source := "asset_compiler" }

theorem key_newIntentAlias (page : Page) (assetKey checkCode systemAlias : String) (id : UUID) :
    key (newIntentAlias page assetKey checkCode systemAlias id) = id := rfl

theorem key_refreshIntentAlias (page : Page) (row : IntentAlias) :
    key (refreshIntentAlias page row) = key row := rfl

/-- One turn of `_ensure_intent_aliases`.  The query gives no order; the least key is taken. -/
def ensureIntentAlias (ids : IdSource) (page : Page) (assetKey checkCode systemAlias : String)
    (aliases : Table IntentAlias) : Table IntentAlias × IntentAlias :=
  aliases.upsert ids (isAliasFor systemAlias (pageAliasOf page) checkCode assetKey)
    (newIntentAlias page assetKey checkCode systemAlias) (refreshIntentAlias page)
    (key_newIntentAlias page assetKey checkCode systemAlias) (key_refreshIntentAlias page)

def ensureIntentAliases (ids : IdSource) (system : System) (page : Page)
    (assetKey checkCode : String) (aliases : Table IntentAlias) : Table IntentAlias :=
  (ensureIntentAlias ids page assetKey checkCode system.name
    (ensureIntentAlias ids page assetKey checkCode system.code aliases).1).1

/-! ## Navigation aliases -/

def replaceNavigationAliases (cx : CompileContext) (pageAssetId : UUID)
    (drafts : List NavigationAliasDraft) (aliases : Table PageNavigationAlias) :
    Table PageNavigationAlias :=
  drafts.foldl
    (fun aliases draft => aliases.insert cx.ids fun id =>
      { id := id
        systemId := cx.system.id
        pageAssetId := pageAssetId
        aliasType := draft.aliasType
        aliasText := draft.aliasText
        leafText := draft.leafText
        displayChain := draft.displayChain
        chainComplete := draft.chainComplete
        source := "asset_compiler" })
    (aliases.update (fun row => row.pageAssetId = pageAssetId && row.isActive)
      fun row =>
        { row with
          isActive := false
          disabledReason := some "recompiled"
          disabledAt := some cx.now
          disabledBySnapshotId := some cx.snapshot.id })

/-! ## Checks -/

/-- The row of a check after its definition was read again. -/
def refreshCheck (cx : CompileContext) (page : Page) (definition : StandardCheckDefinition)
    (modulePlanId : UUID) (check : PageCheck) : PageCheck :=
  let refreshed : PageCheck :=
    { check with
      goal := definition.goal
      inputSchema := some (.obj (checkInputSchema page definition))
      assertionSchema := definition.assertionSchema.map .obj
      modulePlanId := some modulePlanId
      blockingDependencyJson := some (blockingDependencies cx page definition) }
  if isHighQualityFullSnapshot cx.snapshot && check.lifecycleStatus.retired then
    { refreshed with
      lifecycleStatus := .active
      retiredReason := none
      retiredAt := none
      retiredBySnapshotId := none }
  else refreshed

theorem key_refreshCheck (cx : CompileContext) (page : Page)
    (definition : StandardCheckDefinition) (modulePlanId : UUID) (check : PageCheck) :
    key (refreshCheck cx page definition modulePlanId check) = key check := by
  unfold refreshCheck
  split <;> rfl

/-- The columns by which a check is found. -/
def isCheckFor (pageAssetId : UUID) (checkCode : String) (check : PageCheck) : Bool :=
  check.pageAssetId = pageAssetId && check.checkCode = checkCode

def newPageCheck (pageAssetId : UUID) (definition : StandardCheckDefinition) (id : UUID) :
    PageCheck where
  id := id
  pageAssetId := pageAssetId
  checkCode := definition.checkCode
  goal := definition.goal

theorem key_newPageCheck (pageAssetId : UUID) (definition : StandardCheckDefinition) (id : UUID) :
    key (newPageCheck pageAssetId definition id) = id := rfl

/-- Find or create the row of a check. -/
def upsertPageCheck (cx : CompileContext) (page : Page) (pageAssetId : UUID)
    (definition : StandardCheckDefinition) (modulePlanId : UUID) (checks : Table PageCheck) :
    Table PageCheck × PageCheck :=
  checks.upsert cx.ids (isCheckFor pageAssetId definition.checkCode)
    (newPageCheck pageAssetId definition) (refreshCheck cx page definition modulePlanId)
    (key_newPageCheck pageAssetId definition) (key_refreshCheck cx page definition modulePlanId)

/-- One turn of the loop over the checks of a page. -/
def compileCheck (cx : CompileContext) (page : Page) (pageAsset : PageAsset) (st : CompileState)
    (definition : StandardCheckDefinition) : CompileState :=
  let draft := modulePlanDraft cx page definition
  let modulePlanId := st.db.modulePlans.nextKey cx.ids
  let existing := st.db.pageChecks.first? (isCheckFor pageAsset.id definition.checkCode)
  let (pageChecks, check) :=
    upsertPageCheck cx page pageAsset.id definition modulePlanId st.db.pageChecks
  let reactivated := isHighQualityFullSnapshot cx.snapshot &&
    existing.any fun check => check.lifecycleStatus.retired
  { st with
    db :=
      { st.db with
        modulePlans := st.db.modulePlans.insert cx.ids fun id =>
          { id := id
            pageAssetId := pageAsset.id
            checkCode := definition.checkCode
            planVersion := draft.planVersion
            stepsJson := draft.stepsJson }
        pageChecks := pageChecks
        intentAliases := ensureIntentAliases cx.ids cx.system page pageAsset.assetKey
          definition.checkCode st.db.intentAliases }
    checksCreated := if existing.isNone then st.checksCreated + 1 else st.checksCreated
    checksUpdated := if existing.isNone then st.checksUpdated else st.checksUpdated + 1
    pageCheckIds := st.pageCheckIds ++ [check.id]
    reactivatedCheckIds :=
      if reactivated then st.reactivatedCheckIds ++ [check.id] else st.reactivatedCheckIds }

/-! ## Assets -/

/-- The columns by which an asset is found. -/
def isAssetFor (systemId : UUID) (assetKey : String) (asset : PageAsset) : Bool :=
  asset.systemId = systemId && asset.assetKey = assetKey

/-- The row of an asset that is seen for the first time. -/
def newPageAsset (cx : CompileContext) (page : Page) (id : UUID) : PageAsset where
  id := id
  systemId := cx.system.id
  pageId := page.id
  assetKey := assetKeyOf cx page
  assetVersion := buildAssetVersion cx.snapshot
  compiledFromSnapshotId := some cx.snapshot.id

/-- The row of an asset that is seen again. -/
def refreshPageAsset (cx : CompileContext) (page : Page) (asset : PageAsset) : PageAsset :=
  { asset with
    pageId := page.id
    assetVersion := buildAssetVersion cx.snapshot
    compiledFromSnapshotId := some cx.snapshot.id }

theorem key_newPageAsset (cx : CompileContext) (page : Page) (id : UUID) :
    key (newPageAsset cx page id) = id := rfl

theorem key_refreshPageAsset (cx : CompileContext) (page : Page) (asset : PageAsset) :
    key (refreshPageAsset cx page asset) = key asset := rfl

/-- Find or create the row of an asset; a new row is refreshed to itself. -/
def upsertPageAsset (cx : CompileContext) (page : Page) (assets : Table PageAsset) :
    Table PageAsset × PageAsset :=
  assets.upsert cx.ids (isAssetFor cx.system.id (assetKeyOf cx page)) (newPageAsset cx page)
    (refreshPageAsset cx page) (key_newPageAsset cx page) (key_refreshPageAsset cx page)

/-- The hashes of an asset snapshot: `previous_snapshot_to_dict`. -/
def previousSnapshotToDict (snapshot : AssetSnapshot) : StoredFingerprint :=
  ⟨snapshot.navigationHash, snapshot.keyLocatorHash, snapshot.semanticSummaryHash,
    snapshot.structureHash⟩

/-- The asset snapshot with the greatest key. -/
def findLatestAssetSnapshot (pageAssetId : UUID) (db : Db) : Option AssetSnapshot :=
  db.assetSnapshots.last? fun snapshot => snapshot.pageAssetId = pageAssetId

/-- How a page has drifted from what its asset was last compiled from. -/
@[irreducible] def pageDiff (cx : CompileContext) (page : Page) (pageAssetId : UUID) (db : Db) : FingerprintDiff :=
  Fingerprints.compareFingerprints
    ((findLatestAssetSnapshot pageAssetId db).map previousSnapshotToDict) (pageFingerprint cx page)

/-- The row of an asset after its drift was judged. -/
def recordDrift (cx : CompileContext) (diff : FingerprintDiff) (asset : PageAsset) : PageAsset :=
  let judged := { asset with status := diff.status, driftStatus := diff.status }
  if isHighQualityFullSnapshot cx.snapshot && asset.lifecycleStatus.retired then
    { judged with
      lifecycleStatus := .active
      retiredReason := none
      retiredAt := none
      retiredBySnapshotId := none }
  else judged

theorem key_recordDrift (cx : CompileContext) (diff : FingerprintDiff) (asset : PageAsset) :
    key (recordDrift cx diff asset) = key asset := by
  unfold recordDrift
  split <;> rfl

/-- The first part of a turn: the asset and its new fingerprint. -/
def compileAsset (cx : CompileContext) (page : Page) (db : Db) : Db × PageAsset × FingerprintDiff :=
  let (pageAssets, found) := upsertPageAsset cx page db.pageAssets
  let diff := pageDiff cx page found.id db
  let pageAsset := recordDrift cx diff found
  let fingerprint := pageFingerprint cx page
  ({ db with
      pageAssets := pageAssets.update (fun asset => asset.id = found.id) (recordDrift cx diff)
        (key_recordDrift cx diff)
      assetSnapshots := db.assetSnapshots.insert cx.ids fun id =>
        { id := id
          pageAssetId := pageAsset.id
          crawlSnapshotId := cx.snapshot.id
          assetVersion := pageAsset.assetVersion
          structureHash := fingerprint.structureHash
          navigationHash := fingerprint.navigationHash
          keyLocatorHash := fingerprint.keyLocatorHash
          semanticSummaryHash := fingerprint.semanticSummaryHash
          diffScoreVsPrevious := diff.score
          status := diff.status } },
    pageAsset, diff)

@[irreducible] def navigationAliasDrafts (cx : CompileContext) (page : Page) : List NavigationAliasDraft :=
  NavigationAliases.buildNavigationAliases page.pageTitle (Text.strip page.routePath)
    (NavigationAliases.buildNavigationMenuTopology page.id cx.menus)

/-- One turn of the loop over the pages of a snapshot. -/
def compilePage (cx : CompileContext) (st : CompileState) (page : Page) : CompileState :=
  let existing := st.db.pageAssets.first? (isAssetFor cx.system.id (assetKeyOf cx page))
  let (db, pageAsset, diff) := compileAsset cx page st.db
  let checked := (standardChecks cx page).foldl (compileCheck cx page pageAsset)
    { st with
      db := db
      assetsUpdated := if existing.isNone then st.assetsUpdated else st.assetsUpdated + 1
      driftStates := st.driftStates ++ [diff.status] }
  { checked with
    db :=
      { checked.db with
        pageNavigationAliases := replaceNavigationAliases cx pageAsset.id
          (navigationAliasDrafts cx page) checked.db.pageNavigationAliases }
    pageAssetIds := checked.pageAssetIds ++ [pageAsset.id]
    assetsCreated :=
      if existing.isNone then checked.assetsCreated + 1 else checked.assetsCreated }

/-- The loop. -/
def compilePages (cx : CompileContext) (db : Db) : CompileState :=
  cx.pages.foldl (compilePage cx) { db := db }

end AssetCompiler

end Runlet
