import Runlet.CrawlerService.Extractors.PageVisitTargets
import Runlet.CrawlerService.Extractors.StateSignatures

/-!
# The elements of a state

`_collect_state_elements` of `crawler_service/extractors/state_probe.py`: the elements of a state
are collected under the signature of the state, and a state whose signature was collected before is
passed over.  A state without elements leaves no signature.
-/

namespace Runlet
namespace StateProbe

open NavigationTargets (normalizeText entries)

/-! ## Cleaning -/

/-- `_clean_text`. -/
def cleanText (value : Option Json) : Option String :=
  value.bind normalizeText

/-- `_normalize_route_path`, which is that of page discovery. -/
def normalizeRoutePath : Json → Option String :=
  PageDiscovery.normalizeRoutePath

/-- The route of a value that may be missing. -/
def routePathOf (value : Option Json) : Option String :=
  value.bind normalizeRoutePath

/-- `_to_state_context`. -/
def toStateContext (value : Option Json) : List (String × Json) :=
  NavigationTargets.normalizeStateContext (value.getD .null)

/-- `_normalize_locator_candidates`. -/
def normalizeLocatorCandidates (value : Option Json) : List Json :=
  NavigationTargets.normalizeLocatorCandidates (value.getD .null)

/-- `_escape_quote`. -/
def escapeQuote (value : String) : String :=
  String.ofList (value.toList.flatMap fun c => if c = '\'' then ['\\', '\''] else [c])

/-- `_build_locator`. -/
def buildLocator (role text : Option String) (fallbackTag : String) : String :=
  match role, text with
  | some role, some text => "role=" ++ role ++ "[name='" ++ escapeQuote text ++ "']"
  | none, some text => "text='" ++ escapeQuote text ++ "'"
  | _, none => "css=" ++ fallbackTag

/-- `_append_warning`. -/
def appendWarning (warnings : List String) (reason : String) : List String :=
  if reason ∈ warnings then warnings else warnings ++ [reason]

/-- `isinstance(value, dict)`. -/
def isObject : Json → Bool
  | .obj _ => true
  | _ => false

/-- `value if isinstance(value, dict) else None`. -/
def objectOrNone (value : Option Json) : Option Json :=
  value.filter isObject

/-- `d.setdefault(name, v)`. -/
def setDefault (d : List (String × Json)) (name : String) (v : Json) : List (String × Json) :=
  if d.any fun e => e.1 == name then d else d ++ [(name, v)]

/-! ## Elements -/

/-- `_build_navigation_diagnostics`. -/
def buildNavigationDiagnostics (routePath : String) (rawElement : Json)
    (materializedBy : Option String) : List (String × Json) :=
  let diagnostics := entries ((rawElement.get? "navigation_diagnostics").getD .null)
  let materialized :=
    match materializedBy with
    | some kind =>
      setDefault (setDefault diagnostics "target_kind" (.str kind)) "materialization_status"
        (.str "applied")
    | none => diagnostics
  setDefault materialized "route_path" (.str routePath)

/-- `_to_element_candidate`. -/
def toElementCandidate (routePath stateSignature : String) (stateContext : List (String × Json))
    (navigationState rawElement : Json) : Option ElementCandidate :=
  (cleanText (Json.orElse (rawElement.get? "element_type") (rawElement.get? "tag_name"))).map
    fun elementType =>
      let elementRole :=
        cleanText (Json.orElse (rawElement.get? "role") (rawElement.get? "element_role"))
      let elementText :=
        cleanText (Json.orElse (rawElement.get? "text") (rawElement.get? "element_text"))
      let locatorCandidates := normalizeLocatorCandidates (rawElement.get? "locator_candidates")
      let playwrightLocator := (cleanText (Json.orElse (rawElement.get? "playwright_locator")
        (Json.orElse (rawElement.get? "locator")
          (locatorCandidates.head?.bind fun c => c.get? "selector")))).getD
            (buildLocator elementRole elementText elementType)
      let strategyType :=
        if elementRole.isSome && elementText.isSome then "semantic" else "css"
      let materializedBy := cleanText (Json.orElse (rawElement.get? "materialized_by")
        (Json.orElse (navigationState.get? "entry_type")
          (navigationState.get? "interaction_type")))
      { pageRoutePath := routePath
        elementType := elementType
        stateSignature := some stateSignature
        stateContext := if stateContext.isEmpty then none else some (.obj stateContext)
        locatorCandidates :=
          if locatorCandidates.isEmpty then
            [.obj [("strategy_type", .str strategyType), ("selector", .str playwrightLocator)]]
          else locatorCandidates
        elementRole := elementRole
        elementText := elementText
        attributes := objectOrNone (rawElement.get? "attributes")
        playwrightLocator := some playwrightLocator
        materializedBy := materializedBy
        navigationDiagnostics :=
          some (.obj (buildNavigationDiagnostics routePath rawElement materializedBy))
        usageDescription := cleanText (rawElement.get? "usage_description") }

/-! ## States -/

/-- The route and the context a state is named by; a state without a route is not collected. -/
def identityOf (state : Json) : Option (String × List (String × Json)) :=
  (routePathOf (state.get? "route_path")).map fun routePath =>
    (routePath, toStateContext (state.get? "state_context"))

/-- The elements of a state. -/
def stateElements (routePath : String) (stateContext : List (String × Json)) (state : Json) :
    List ElementCandidate :=
  (((state.get? "elements").getD .null).items.filter isObject).filterMap
    (toElementCandidate routePath (buildStateSignature routePath stateContext) stateContext state)

/-- What an extraction has collected. -/
structure Collected where
  elements : List ElementCandidate := []
  warnings : List String := []
  visitedSignatures : List String := []

namespace Collected

def warn (collected : Collected) (reason : String) : Collected :=
  { collected with warnings := appendWarning collected.warnings reason }

/-- `_collect_state_elements`. -/
def collectStateElements (collected : Collected) (state : Json) : Collected :=
  match identityOf state with
  | none => collected
  | some (routePath, stateContext) =>
    let stateSignature := buildStateSignature routePath stateContext
    if stateSignature ∈ collected.visitedSignatures then
      collected.warn "state_signature_duplicate"
    else if (stateElements routePath stateContext state).isEmpty then collected
    else
      { collected with
        elements := collected.elements ++ stateElements routePath stateContext state
        visitedSignatures := collected.visitedSignatures ++ [stateSignature] }

end Collected

end StateProbe
end Runlet
