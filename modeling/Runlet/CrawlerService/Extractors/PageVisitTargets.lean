import Runlet.CrawlerService.Persistence
import Runlet.CrawlerService.Schemas

/-!
# Which pages a state probe visits

`build_page_visit_targets` of `crawler_service/extractors/page_discovery.py`: the navigation
targets that lead to a page go into one budgeted registry, and then the pages themselves, each under
its route.  All targets are of one kind, so the budget of the kind is a budget on all of them; it is
derived from the number of pages, but the navigation targets are served first.
-/

namespace Runlet

open NavigationTargets

namespace PageDiscovery

/-- `_normalize_route_path`. -/
def normalizeRoutePath : Json → Option String
  | .str s =>
    let routePath := Text.strip s
    if routePath = "" || !Text.startsWith "/" routePath then none
    else
      let trimmed := Text.rstripChar '/' routePath
      if trimmed = "" then some "/" else some trimmed
  | _ => none

/-- What a list of page metadata keeps. -/
def isScalar : Json → Bool
  | .str _ => true
  | .int _ => true
  | .float _ _ => true
  | .bool _ => true
  | _ => false

/-- What the metadata of a page keeps of a value. -/
def pageTargetValue : Json → Option Json
  | .arr l => if (l.filter isScalar).isEmpty then none else some (.arr (l.filter isScalar))
  | v => stateValue v

/-- `_normalize_page_target_metadata`. -/
def normalizePageTargetMetadata (value : Json) : Json :=
  .obj ((entries value).foldl (fun metadata e =>
    match normalizeText (.str e.1), pageTargetValue e.2 with
    | some key, some v => Json.put metadata key v
    | _, _ => metadata) [])

/-- The target a record of a page route asks for. -/
def navigationVisit (record : Json) : Option NavigationTarget :=
  match record.get? "target_kind" with
  | some (.str "page_route") =>
    (normalizeRoutePath ((Json.orElse (record.get? "route_hint")
      (record.get? "route_path")).getD .null)).map fun routeHint =>
      NavigationTarget.ofFields
        { targetKind := .str "page_route"
          routeHint := .str routeHint
          locatorCandidates := .arr (normalizeLocatorCandidates
            ((record.get? "locator_candidates").getD .null))
          stateContext := .obj (normalizeStateContext ((record.get? "state_context").getD .null))
          discoverySource := NavigationTarget.optionJson
            (normalizeText ((record.get? "discovery_source").getD .null))
          metadata := normalizePageTargetMetadata ((record.get? "metadata").getD .null) }
  | _ => none

/-- The target a page asks for. -/
def pageVisit (page : PageCandidate) : Option NavigationTarget :=
  (normalizeRoutePath (.str page.routePath)).map fun routePath =>
    NavigationTarget.ofFields
      { targetKind := .str "page_route"
        routeHint := .str routePath
        discoverySource := NavigationTarget.optionJson page.discoverySources.head?
        metadata := normalizePageTargetMetadata (.obj
          [("page_title", NavigationTarget.optionJson page.pageTitle),
            ("discovery_sources", .arr (page.discoverySources.map .str))]) }

/-- The targets in the order in which they are added. -/
def visits (pages : List PageCandidate) (navigationTargets : List Json) : List NavigationTarget :=
  navigationTargets.filterMap navigationVisit ++ pages.filterMap pageVisit

/-- The registry they are added to. -/
def visitRegistry (pages : List PageCandidate) (navigationTargets : List Json) :
    NavigationTargetRegistry :=
  NavigationTargetRegistry.new (max 8 (pages.length + navigationTargets.length + 4)) 4
    (max 8 (pages.length + 4)) (max 8 (pages.length + 4))

def buildPageVisitTargets (pages : List PageCandidate) (navigationTargets : List Json) :
    List NavigationTarget :=
  ((visitRegistry pages navigationTargets).addAll (visits pages navigationTargets)).1.targets

/-- `NavigationTargetResult.model_dump()`. -/
def modelDump (record : NavigationTargetResult) : Json :=
  .obj
    [("target_key", .str record.targetKey), ("target_kind", .str record.targetKind.text),
      ("route_hint", NavigationTarget.optionJson record.routeHint),
      ("locator_candidates", .arr record.locatorCandidates),
      ("state_context", .obj record.stateContext),
      ("parent_target_key", NavigationTarget.optionJson record.parentTargetKey),
      ("discovery_source", NavigationTarget.optionJson record.discoverySource),
      ("safety_level", .str record.safetyLevel),
      ("materialization_status", .str record.materializationStatus.text),
      ("rejection_reason", NavigationTarget.optionJson (record.rejectionReason.map (·.text))),
      ("rejection_detail", NavigationTarget.optionJson record.rejectionDetail),
      ("metadata", .obj record.metadata)]

/-- `_serialize_navigation_targets`: the targets that were taken, and those a budget refused. -/
def serializeNavigationTargets (registry : NavigationTargetRegistry) :
    Except NavigationTargetError (List NavigationTargetResult) :=
  (registry.targets ++ registry.rejectedTargets.filter fun target =>
    target.materializationStatus = "blocked").mapM NavigationTargetResult.modelValidate

end PageDiscovery

end Runlet
