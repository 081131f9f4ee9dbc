import Runlet.Infrastructure.Crawl
import Runlet.AssetCompiler.CheckTemplates
import Runlet.AssetCompiler.LocatorBundles

/-!
# Elements as the compiler sees them

The part of `asset_compiler/service.py` that reads page elements: cleaning a row, collecting the
representative states of a page, and choosing the locators of a check.
-/

namespace Runlet

/-- An element row after cleaning: no absent text, a state signature, ranked locators. -/
structure NormalizedElement where
  elementType : String
  elementRole : String
  elementText : String
  attributes : List (String × Json)
  playwrightLocator : String
  usageDescription : String
  stateSignature : String
  stateContext : List (String × Json)
  locatorCandidates : List Json
  materializedBy : String
  navigationDiagnostics : List (String × Json)
  locatorBundle : LocatorBundle

namespace AssetCompiler

/-- `_normalize_text` of a text column: absent text is empty. -/
def normalizeText : Option String → String
  | none => ""
  | some s => Text.strip s

@[simp] theorem normalizeText_none : normalizeText none = "" := rfl

@[simp] theorem normalizeText_some (s : String) : normalizeText (some s) = Text.strip s := rfl

/-- The entries of a column that holds an object, `{}` when there is none. -/
def entriesOf : Option Json → List (String × Json)
  | some (.obj l) => l
  | _ => []

/-- The segments of a route. -/
def routeSegments (routePath : String) : List String :=
  (Text.splitChar '/' (Text.stripChar '/' routePath)).filter fun segment => segment ≠ ""

def buildDefaultStateSignature (routePath : String) : String :=
  (routeSegments routePath).getLast?.getD "page" ++ ":default"

def inferStrategyType (playwrightLocator : String) : String :=
  let locator := Text.lower (Text.strip playwrightLocator)
  if Text.containsText "get_by_role" locator || Text.startsWith "role=" locator then "semantic"
  else if Text.containsText "get_by_label" locator || Text.startsWith "label=" locator then "label"
  else if Text.containsText "testid" locator || Text.containsText "data-testid" locator then
    "testid"
  else if Text.containsText "get_by_text" locator || Text.startsWith "text=" locator then
    "text_anchor"
  else "css"

/-- The locators of a row, or the one its recorded locator stands for. -/
def rawCandidates (element : PageElement) : List Json :=
  match element.locatorCandidates.getD [], element.playwrightLocator with
  | [], some locator =>
    if locator = "" then []
    else
      [.obj [("strategy_type", .str (inferStrategyType locator)), ("selector", .str locator)]]
  | raw, _ => raw

def buildNormalizedElement (element : PageElement) (defaultStateSignature : String) :
    NormalizedElement where
  elementType := Text.strip element.elementType
  elementRole := normalizeText element.elementRole
  elementText := normalizeText element.elementText
  attributes := entriesOf element.attributes
  playwrightLocator := normalizeText element.playwrightLocator
  usageDescription := normalizeText element.usageDescription
  stateSignature :=
    if normalizeText element.stateSignature = "" then defaultStateSignature
    else normalizeText element.stateSignature
  stateContext := entriesOf element.stateContext
  locatorCandidates := rawCandidates element
  materializedBy := normalizeText element.materializedBy
  navigationDiagnostics := entriesOf element.navigationDiagnostics
  locatorBundle :=
    LocatorBundles.buildLocatorBundle (rawCandidates element) (entriesOf element.stateContext)

def suggestsCreateAction (label : String) : Bool :=
  label != "" && ["新增", "新建", "创建"].any fun keyword => Text.containsText keyword label

/-- The state an element was seen in, when it was entered by a known action. -/
def representativeState? (element : NormalizedElement) : Option RepresentativeState :=
  let stateSignature := Text.strip element.stateSignature
  let entryType := LocatorBundles.cleanText ((Json.obj element.stateContext).get? "entry_type")
  if stateSignature = "" || entryType = "" then none else some ⟨stateSignature, entryType⟩

def collectRepresentativeStates (elements : List NormalizedElement) : List RepresentativeState :=
  (elements.filterMap representativeState?).eraseDups

/-! ## Choosing the locators of a check -/

def expectedElementTypeForCheck (checkCode : String) : Option String :=
  match checkCode with
  | "table_render" => some "table"
  | "tab_switch_render" => some "table"
  | "open_create_modal" => some "button"
  | "open_create_modal_state" => some "dialog"
  | _ => none

def normalizeLocatorCandidate (candidate : LocatorCandidate) : LocatorCandidate :=
  { candidate with
    strategyType := Text.strip candidate.strategyType
    selector := Text.strip candidate.selector }

/-- The locators of the first element of the type and state that has any. -/
def findElementBundle (elements : List NormalizedElement) (elementType : Option String)
    (stateSignature : String) : Option LocatorBundle :=
  (elements.find? fun element =>
    (stateSignature = "" || Text.strip element.stateSignature = stateSignature) &&
    (elementType.getD "" = "" || Text.strip element.elementType = elementType.getD "") &&
    !element.locatorBundle.candidates.isEmpty).map fun element =>
      ⟨element.locatorBundle.candidates.map normalizeLocatorCandidate⟩

def selectLocatorBundleForCheck (checkCode stateSignature defaultStateSignature : String)
    (elements : List NormalizedElement) : LocatorBundle :=
  let expected := expectedElementTypeForCheck checkCode
  let preferredStates :=
    if stateSignature = defaultStateSignature then [stateSignature]
    else [stateSignature, defaultStateSignature]
  ((preferredStates.findSome? (findElementBundle elements expected)).or
    (findElementBundle elements expected "")).getD ⟨[]⟩

end AssetCompiler

end Runlet
