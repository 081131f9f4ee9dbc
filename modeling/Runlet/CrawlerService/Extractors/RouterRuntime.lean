import Runlet.CrawlerService.Extractors.RouteResolution
import Runlet.CrawlerService.NavigationTargets

/-!
# Routes that the running application tells

`RuntimeRouteHintExtractor.collect_route_signals` of `crawler_service/extractors/router_runtime.py`:
the routes the application's router lists become signals, one for each route, and the route at which
the application stands now is added to them.  The last hint on a route is the one that counts; the
snapshot never replaces a hint, it only adds to it.
-/

namespace Runlet

open Dict (Entries)

/-- A route signal, before it is a record. -/
structure RouteSignal where
  routePath : String
  discoverySources : List String
  pageTitle : Option String := none
  contextConstraints : Option (List (String × Json)) := none
  navigationDiagnostics : Option (List (String × Json)) := none

/-- The entry of a field that is there. -/
def optionalField (name : String) (value : Option Json) : List (String × Json) :=
  (value.map fun v => (name, v)).toList

def RouteSignal.record (signal : RouteSignal) : Json :=
  .obj ([("route_path", .str signal.routePath),
      ("discovery_sources", .arr (signal.discoverySources.map .str))] ++
    optionalField "page_title" (signal.pageTitle.map .str) ++
    optionalField "context_constraints" (signal.contextConstraints.map .obj) ++
    optionalField "navigation_diagnostics" (signal.navigationDiagnostics.map .obj))

namespace RouterRuntime

/-- `_to_clean_text`. -/
def toCleanText (value : Option Json) : Option String :=
  value.bind NavigationTargets.normalizeText

/-- `_normalize_path`, which is that of the route resolution. -/
def normalizePath (value : Option Json) : Option String :=
  value.bind RouteResolution.normalizeRoute

/-- `value if isinstance(value, dict) else None`, as entries. -/
def entriesOrNone : Option Json → Option (List (String × Json))
  | some (.obj l) => some l
  | _ => none

/-- `_ensure_dict_list`. -/
def ensureDictList (value : Json) : List Json :=
  value.items.filter fun item => (entriesOrNone (some item)).isSome

/-- The signal of a hint. -/
def hintSignal (routePath : String) (hint : Json) : RouteSignal where
  routePath := routePath
  discoverySources := ["runtime_route_hints"]
  pageTitle := toCleanText
    (Json.orElse (hint.get? "title") (Json.orElse (hint.get? "label") (hint.get? "name")))
  contextConstraints := entriesOrNone (hint.get? "context_constraints")

/-- One turn of the loop over the hints. -/
def addHint (mergedByRoute : Entries String RouteSignal) (hint : Json) :
    Entries String RouteSignal :=
  match normalizePath (Json.orElse (hint.get? "path") (hint.get? "route_path")) with
  | none => mergedByRoute
  | some routePath => mergedByRoute.set routePath (hintSignal routePath hint)

/-- The route of the snapshot; the root says nothing when the hints know other routes. -/
def resolvedRouteOf (mergedByRoute : Entries String RouteSignal) (routeSnapshot : Json) :
    Option String :=
  (normalizePath (routeSnapshot.get? "resolved_route")).filter fun route =>
    !(route = "/" && mergedByRoute.any fun e => e.1 ≠ "/")

/-- The signal of the snapshot. -/
def snapshotSignal (resolvedRoute : String) (routeSnapshot : Json) : RouteSignal :=
  let routeSource :=
    (toCleanText (routeSnapshot.get? "route_source")).getD "runtime_snapshot"
  { routePath := resolvedRoute
    discoverySources := ["runtime_route_snapshot"]
    contextConstraints := some [("route_source", .str routeSource)]
    navigationDiagnostics :=
      some [("resolved_route", .str resolvedRoute), ("route_source", .str routeSource)] }

/-- A hint with what the snapshot adds. -/
def joinSnapshot (existing snapshot : RouteSignal) : RouteSignal :=
  { existing with
    discoverySources := existing.discoverySources ++
      snapshot.discoverySources.filter fun source => source ∉ existing.discoverySources
    contextConstraints := some ((existing.contextConstraints.getD []).foldl
      (fun d e => Json.put d e.1 e.2) (snapshot.contextConstraints.getD []))
    navigationDiagnostics := existing.navigationDiagnostics.or snapshot.navigationDiagnostics }

/-- The snapshot after the hints. -/
def addSnapshot (mergedByRoute : Entries String RouteSignal) (routeSnapshot : Json) :
    Entries String RouteSignal :=
  match resolvedRouteOf mergedByRoute routeSnapshot with
  | none => mergedByRoute
  | some resolvedRoute =>
    let snapshot := snapshotSignal resolvedRoute routeSnapshot
    mergedByRoute.set resolvedRoute
      (match mergedByRoute.get? resolvedRoute with
      | none => snapshot
      | some existing => joinSnapshot existing snapshot)

/-- `collect_route_signals`. -/
def collectRouteSignals (routeHints : List Json) (routeSnapshot : Json) : List Json :=
  (addSnapshot (routeHints.foldl addHint []) routeSnapshot).map (·.2.record)

end RouterRuntime

end Runlet
