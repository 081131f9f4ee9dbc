import Runlet.Library.Sha256
import Runlet.AssetCompiler.Elements
import Mathlib.Data.Prod.Lex
import Mathlib.Tactic.NormNum

/-!
# Page fingerprints

`asset_compiler/fingerprints.py`: four hashes of the content of a page, each with a weight, and the
drift status that the weights of the hashes that changed add up to.
-/

namespace Runlet

/-- A menu row, as it enters a fingerprint. -/
structure MenuPayload where
  label : String
  routePath : Option String
  depth : Int
  sortOrder : Int

/-- What a fingerprint is taken of. -/
structure PagePayload where
  routePath : String
  pageTitle : Option String
  pageSummary : Option String
  menus : List MenuPayload
  elements : List NormalizedElement

structure PageFingerprint where
  navigationHash : String
  keyLocatorHash : String
  semanticSummaryHash : String
  structureHash : String
  legacyKeyLocatorHash : String
  legacyStructureHash : String
  deriving DecidableEq

/-- The hashes of an earlier compile. -/
structure StoredFingerprint where
  navigationHash : String
  keyLocatorHash : String
  semanticSummaryHash : String
  structureHash : String
  deriving DecidableEq

structure FingerprintDiff where
  score : Rat
  status : AssetStatus
  deriving DecidableEq

namespace Fingerprints

open AssetCompiler (normalizeText)

def stableHash (value : Json) : String :=
  Sha256.hexdigest (Json.dumps false value)

/-- A menu after cleaning. -/
structure CleanMenu where
  label : String
  routePath : String
  depth : Int
  sortOrder : Int

def CleanMenu.sortKey (m : CleanMenu) : Int ×ₗ Int ×ₗ String ×ₗ String :=
  toLex (m.depth, toLex (m.sortOrder, toLex (m.label, m.routePath)))

def CleanMenu.json (m : CleanMenu) : Json :=
  .obj
    [("label", .str m.label), ("route_path", .str m.routePath), ("depth", .int m.depth),
      ("sort_order", .int m.sortOrder)]

def normalizeMenus (menus : List MenuPayload) : List CleanMenu :=
  (menus.map fun m =>
    ({ label := Text.strip m.label
       routePath := normalizeText m.routePath
       depth := m.depth
       sortOrder := m.sortOrder } : CleanMenu)).insertionSort fun a b => a.sortKey ≤ b.sortKey

/-- An element after cleaning, with the summary of its locators. -/
structure CleanElement where
  elementType : String
  elementRole : String
  elementText : String
  playwrightLocator : String
  stateSignature : String
  usageDescription : String
  attributes : List (String × Json)
  locatorBundleSummary : Json

def normalizeLocatorBundleSummary (bundle : LocatorBundle) : Json :=
  let kept := (bundle.candidates.map fun c => (Text.strip c.strategyType, Text.strip c.selector)
    ).filter fun c => !(c.1 = "" && c.2 = "")
  .obj
    [("candidate_count", .int kept.length),
      ("strategies", .arr (kept.map fun c => .str c.1)),
      ("selectors", .arr (kept.map fun c => .str c.2))]

def cleanElement (e : NormalizedElement) : CleanElement where
  elementType := Text.strip e.elementType
  elementRole := Text.strip e.elementRole
  elementText := Text.strip e.elementText
  playwrightLocator := Text.strip e.playwrightLocator
  stateSignature := Text.strip e.stateSignature
  usageDescription := Text.strip e.usageDescription
  attributes := e.attributes
  locatorBundleSummary := normalizeLocatorBundleSummary e.locatorBundle

def CleanElement.sortKey (e : CleanElement) : List String :=
  [e.elementType, e.elementRole, e.elementText, e.stateSignature,
    stableHash e.locatorBundleSummary]

def CleanElement.legacySortKey (e : CleanElement) : List String :=
  [e.elementType, e.elementRole, e.elementText, e.playwrightLocator]

def normalizeElements (elements : List NormalizedElement) : List CleanElement :=
  (elements.map cleanElement).insertionSort fun a b => a.sortKey ≤ b.sortKey

def legacyElementsProjection (elements : List CleanElement) : List CleanElement :=
  elements.insertionSort fun a b => a.legacySortKey ≤ b.legacySortKey

def CleanElement.json (e : CleanElement) : Json :=
  .obj
    [("element_type", .str e.elementType), ("element_role", .str e.elementRole),
      ("element_text", .str e.elementText), ("playwright_locator", .str e.playwrightLocator),
      ("state_signature", .str e.stateSignature),
      ("usage_description", .str e.usageDescription), ("attributes", .obj e.attributes),
      ("locator_bundle_summary", e.locatorBundleSummary)]

def CleanElement.legacyJson (e : CleanElement) : Json :=
  .obj
    [("element_type", .str e.elementType), ("element_role", .str e.elementRole),
      ("element_text", .str e.elementText), ("playwright_locator", .str e.playwrightLocator),
      ("usage_description", .str e.usageDescription), ("attributes", .obj e.attributes)]

def CleanElement.keyLocatorJson (e : CleanElement) : Json :=
  .obj
    [("element_type", .str e.elementType), ("element_role", .str e.elementRole),
      ("state_signature", .str e.stateSignature),
      ("locator_bundle_summary", e.locatorBundleSummary), ("attributes", .obj e.attributes)]

def CleanElement.legacyKeyLocatorJson (e : CleanElement) : Json :=
  .obj
    [("element_type", .str e.elementType), ("element_role", .str e.elementRole),
      ("playwright_locator", .str e.playwrightLocator), ("attributes", .obj e.attributes)]

def pageJson (p : PagePayload) : Json :=
  .obj
    [("route_path", .str (Text.strip p.routePath)), ("page_title", .str (normalizeText p.pageTitle)),
      ("page_summary", .str (normalizeText p.pageSummary))]

def buildPageFingerprint (p : PagePayload) : PageFingerprint :=
  let menus : Json := .arr ((normalizeMenus p.menus).map CleanMenu.json)
  let elements := normalizeElements p.elements
  let legacyElements := legacyElementsProjection elements
  { navigationHash := stableHash (.obj
      [("page", .obj
          [("route_path", .str (Text.strip p.routePath)),
            ("page_title", .str (normalizeText p.pageTitle))]),
        ("menus", menus)])
    keyLocatorHash := stableHash (.arr (elements.map CleanElement.keyLocatorJson))
    semanticSummaryHash := stableHash (.obj
      [("page_title", .str (normalizeText p.pageTitle)),
        ("page_summary", .str (normalizeText p.pageSummary)),
        ("usage_descriptions", .arr (elements.map fun e => .str e.usageDescription)),
        ("texts", .arr (elements.map fun e => .str e.elementText))])
    structureHash := stableHash (.obj
      [("page", pageJson p), ("menus", menus), ("elements", .arr (elements.map CleanElement.json))])
    legacyKeyLocatorHash :=
      stableHash (.arr (legacyElements.map CleanElement.legacyKeyLocatorJson))
    legacyStructureHash := stableHash (.obj
      [("page", pageJson p), ("menus", menus),
        ("elements", .arr (legacyElements.map CleanElement.legacyJson))]) }

/-! ## Drift -/

def safeMaxDiffScore : Rat := 1 / 5

def suspectMaxDiffScore : Rat := 3 / 5

def mapDiffScoreToStatus (score : Rat) : AssetStatus :=
  if score ≤ safeMaxDiffScore then .safe
  else if score ≤ suspectMaxDiffScore then .suspect
  else .stale

/-- The weight of a component that changed: neither its hash nor its older form is the old one. -/
def changedWeight (weight : Rat) (old new : String) (legacy : Option String) : Rat :=
  if Text.strip old = Text.strip new || legacy.any fun l => Text.strip old = Text.strip l then 0
  else weight

def compareFingerprints (old : Option StoredFingerprint) (new : PageFingerprint) :
    FingerprintDiff :=
  match old with
  | none => ⟨0, .safe⟩
  | some o =>
    let score :=
      changedWeight (1 / 5) o.navigationHash new.navigationHash none +
      changedWeight (9 / 20) o.keyLocatorHash new.keyLocatorHash (some new.legacyKeyLocatorHash) +
      changedWeight (3 / 20) o.semanticSummaryHash new.semanticSummaryHash none +
      changedWeight (1 / 5) o.structureHash new.structureHash (some new.legacyStructureHash)
    ⟨score, mapDiffScoreToStatus score⟩

/-- The four hashes a compile stores. -/
def PageFingerprint.stored (f : PageFingerprint) : StoredFingerprint :=
  ⟨f.navigationHash, f.keyLocatorHash, f.semanticSummaryHash, f.structureHash⟩

theorem changedWeight_self (weight : Rat) (s : String) (legacy : Option String) :
    changedWeight weight s s legacy = 0 := by
  simp [changedWeight]

/-- **Equal content shows no drift.** -/
theorem compareFingerprints_stored (f : PageFingerprint) :
    compareFingerprints (some (PageFingerprint.stored f)) f = ⟨0, .safe⟩ := by
  simp only [compareFingerprints, PageFingerprint.stored, changedWeight_self, add_zero]
  rw [mapDiffScoreToStatus, if_pos (by norm_num [safeMaxDiffScore])]

end Fingerprints

end Runlet
