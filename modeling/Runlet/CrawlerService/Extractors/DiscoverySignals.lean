import Runlet.CrawlerService.Extractors.DomMenu
import Runlet.CrawlerService.Extractors.RouterRuntime
import Runlet.CrawlerService.Schemas
import Runlet.Library.Digits

/-!
# Signals and what they ask for

The first half of `PageDiscoveryExtractor` (`crawler_service/extractors/page_discovery.py`): the
collectors and the targets their signals ask for.  A signal is whatever a collector found, a record
of any shape.  It asks for the page it names, unless it only tells how to press something there, and
for one target for each way in that it knows.

Reading a route may raise, and so may reading the number of a page: a label of digits is not always
a number.
-/

namespace Runlet

namespace PageDiscovery

open NavigationTargets (normalizeText sourcePriority)
open RouterRuntime (ensureDictList)

/-! ## Reading a signal -/

/-- `_clean_text`. -/
def cleanText (value : Option Json) : Option String :=
  value.bind normalizeText

/-- `_ENTRY_TYPES`. -/
def entryTypes : List String :=
  allowedStateProbeActions ++ ["filter_expand"]

/-- `_normalize_entry_type`: the names that menus know them by, and no other than the known ones. -/
def normalizeEntryType (value : Option Json) : Option String :=
  (DomMenu.normalizeEntryType value).filter fun entryType => entryType ∈ entryTypes

/-- `_extract_sources`, each source once. -/
def extractSources (signal : Json) : List String :=
  (((signal.get? "discovery_sources").getD .null).items.filterMap normalizeText ++
    (cleanText (signal.get? "source")).toList).eraseDups

/-- The best source first, and those of one priority by name. -/
def sortBySource (sources : List String) : List String :=
  sources.insertionSort fun a b =>
    sourcePriority a < sourcePriority b ∨ sourcePriority a = sourcePriority b ∧ a ≤ b

/-- `_primary_source`. -/
def primarySource (signal : Json) : Option String :=
  (sortBySource (extractSources signal)).head?

/-- `metadata={"discovery_sources": sorted(...)}`. -/
def sourcesMetadata (signal : Json) : Json :=
  .obj [("discovery_sources", .arr (((extractSources signal).insertionSort (· ≤ ·)).map .str))]

section Routes

variable (acceptsNetloc : String → Bool)

/-- `_normalize_path` of a value that may be missing. -/
def pathOf : Option Json → Except String (Option String)
  | some (.str value) => normalizePath acceptsNetloc value
  | _ => .ok none

/-- What `_extract_route_path` reads: the first field that is not empty, or else the URL. -/
def routeField (signal : Json) : Option Json :=
  match Json.orElse (signal.get? "route_path")
      (Json.orElse (signal.get? "page_route_path") (signal.get? "path")) with
  | none => signal.get? "url"
  | some .null => signal.get? "url"
  | some value => some value

/-- `_extract_route_path`. -/
def extractRoutePath (signal : Json) : Except String (Option String) :=
  pathOf acceptsNetloc (routeField signal)

/-- The route of the page a signal is about, if it names one. -/
def pageRoutePath (signal : Json) : Except String (Option String) :=
  pathOf acceptsNetloc (signal.get? "page_route_path")

/-! ## Ways in -/

/-- The ways in that a signal lists. -/
def listedEntryCandidates (signal : Json) : List Json :=
  ((signal.get? "entry_candidates").getD .null).items.filterMap fun candidate =>
    match candidate with
    | .obj entries =>
      (normalizeEntryType (candidate.get? "entry_type")).map fun entryType =>
        .obj (Json.put entries "entry_type" (.str entryType))
    | _ => none

/-- The way in that a signal is itself. -/
def ownEntryCandidate (signal : Json) : Option Json :=
  (normalizeEntryType (Json.orElse (signal.get? "entry_type")
    (Json.orElse (signal.get? "interaction_type")
      (Json.orElse (signal.get? "interaction") (signal.get? "role"))))).map fun entryType =>
    .obj (("entry_type", .str entryType) ::
      optionalField "label" ((cleanText (Json.orElse (signal.get? "label")
        (Json.orElse (signal.get? "text")
          (Json.orElse (signal.get? "name") (signal.get? "title"))))).map .str))

/-- `_to_entry_candidates`. -/
def toEntryCandidates (signal : Json) : List Json :=
  if (listedEntryCandidates signal).isEmpty then (ownEntryCandidate signal).toList
  else listedEntryCandidates signal

/-- `_is_interaction_only_signal`. -/
def isInteractionOnlySignal (signal : Json) (entryCandidates : List Json) : Except String Bool := do
  if entryCandidates.isEmpty then return false
  if (normalizeEntryType
      (Json.orElse (signal.get? "entry_type") (signal.get? "interaction_type"))).isSome then
    return true
  if (normalizeEntryType (signal.get? "interaction")).isSome then return true
  let page ← pageRoutePath acceptsNetloc signal
  let route ← pathOf acceptsNetloc (Json.orElse (signal.get? "route_path") (signal.get? "path"))
  return page.isSome && route.isSome && page != route

/-! ## Targets -/

/-- The name under which a label stands in the context of a state. -/
def contextName : String → Option String
  | "tab_switch" => some "active_tab"
  | "open_modal" => some "modal_title"
  | "open_drawer" => some "drawer_title"
  | "filter_expand" => some "panel_title"
  | "expand_panel" => some "panel_title"
  | "toggle_view" => some "view_mode"
  | "tree_expand" => some "tree_node"
  | _ => none

/-- What a label says about a state. -/
def labelContext (entryType : Option String) (label : String) :
    Except String (List (String × Json)) :=
  match entryType.bind contextName with
  | some name => .ok [(name, .str label)]
  | none =>
    if entryType = some "paginate_probe" && Digits.isDigits label then
      (Digits.read label).map fun n => [("page_number", .int n)]
    else .ok []

/-- `_build_state_context`. -/
def buildStateContext (signal entryCandidate : Json) : Except String (List (String × Json)) := do
  let entryType := normalizeEntryType (entryCandidate.get? "entry_type")
  let label := cleanText (Json.orElse (entryCandidate.get? "label")
    (Json.orElse (signal.get? "label") (Json.orElse (signal.get? "text")
      (Json.orElse (signal.get? "name") (signal.get? "title")))))
  let stateContext ← match label with
    | some label => labelContext entryType label
    | none => .ok []
  let targetRoute ← extractRoutePath acceptsNetloc signal
  let pageRoute ← pageRoutePath acceptsNetloc signal
  match targetRoute, pageRoute with
  | some targetRoute, some pageRoute =>
    if targetRoute = pageRoute then return stateContext
    else return stateContext ++ [("target_route", .str targetRoute)]
  | _, _ => return stateContext

/-- `_build_locator_candidates`. -/
def buildLocatorCandidates (signal entryCandidate : Json) : List Json :=
  ensureDictList ((entryCandidate.get? "locator_candidates").getD .null) ++
    ensureDictList ((signal.get? "locator_candidates").getD .null) ++
    ((cleanText (Json.orElse (entryCandidate.get? "playwright_locator")
      (signal.get? "playwright_locator"))).map fun playwrightLocator =>
        .obj [("strategy_type", .str "playwright"), ("selector", .str playwrightLocator)]).toList

/-- `_build_interaction_target`. -/
def buildInteractionTarget (signal entryCandidate : Json) (defaultRoute : Option String) :
    Except String (Option NavigationTarget) := do
  match normalizeEntryType (entryCandidate.get? "entry_type") with
  | none => return none
  | some entryType =>
    match (← pageRoutePath acceptsNetloc signal).or defaultRoute with
    | none => return none
    | some pageRoute =>
      let stateContext ← buildStateContext acceptsNetloc signal entryCandidate
      return some (NavigationTarget.ofFields
        { targetKind := .str entryType
          routeHint := .str pageRoute
          locatorCandidates := .arr (buildLocatorCandidates signal entryCandidate)
          stateContext := .obj stateContext
          parentTargetKey := .str ("page:" ++ pageRoute)
          discoverySource := NavigationTarget.optionJson (primarySource signal)
          metadata := sourcesMetadata signal })

/-- The target of a page. -/
def pageTarget (signal : Json) (routePath : String) : NavigationTarget :=
  NavigationTarget.ofFields
    { targetKind := .str "page_route"
      routeHint := .str routePath
      discoverySource := NavigationTarget.optionJson (primarySource signal)
      metadata := sourcesMetadata signal }

/-- `_NavigationTargetSeed`. -/
structure NavigationTargetSeed where
  target : NavigationTarget
  signal : Json
  entryCandidate : Option Json
  includeLabelAsTitle : Bool

/-- The seed of one way in. -/
def interactionSeed (signal : Json) (defaultRoute : Option String) (entryCandidate : Json) :
    Except String (Option NavigationTargetSeed) :=
  (buildInteractionTarget acceptsNetloc signal entryCandidate defaultRoute).map fun target? =>
    target?.map fun target =>
      { target := target
        signal := signal
        entryCandidate := some entryCandidate
        includeLabelAsTitle := false }

/-- `_build_target_seeds`. -/
def buildTargetSeeds (signal : Json) : Except String (List NavigationTargetSeed) := do
  let entryCandidates := toEntryCandidates signal
  let interactionOnly ← isInteractionOnlySignal acceptsNetloc signal entryCandidates
  let routePath ← extractRoutePath acceptsNetloc signal
  let pageSeeds := (if interactionOnly then none else routePath).toList.map fun routePath =>
    ({ target := pageTarget signal routePath
       signal := signal
       entryCandidate := none
       includeLabelAsTitle := true } : NavigationTargetSeed)
  let seeds ← entryCandidates.mapM (interactionSeed acceptsNetloc signal routePath)
  return pageSeeds ++ seeds.filterMap id

end Routes

/-! ## Collectors -/

/-- What the session and the menu extractor answer; an error is the text of what is raised. -/
structure SessionFacts where
  routeHints : Except String Json := .ok (.arr [])
  routeSnapshot : Except String Json := .ok .null
  menuItems : Except String (List Json) := .ok []
  networkRouteConfigs : Except String Json := .ok (.arr [])
  networkResourceHints : Except String Json := .ok (.arr [])
  networkRequests : Except String Json := .ok (.arr [])
  pageMetadata : Except String Json := .ok (.arr [])
  frameworkHint : Option Json := none

/-- A record with one more source. -/
def tagSource (source : String) (entries : List (String × Json)) : Json :=
  let sources := extractSources (.obj entries)
  let tagged := if source ∈ sources then sources else sources ++ [source]
  .obj (Json.put entries "discovery_sources" (.arr ((tagged.insertionSort (· ≤ ·)).map .str)))

/-- `_collect_session_facts`: the records of an answer, each with the source it came from. -/
def collectSessionFacts (source : String) (rawValue : Json) : List Json :=
  (rawValue.items.filterMap fun item => RouterRuntime.entriesOrNone (some item)).map
    (tagSource source)

/-- `_collect_with_degrade`: the records, and the warning when the collector raised. -/
def collectWithDegrade (label : String) : Except String (List Json) → List Json × List String
  | .ok records => (records, [])
  | .error message => ([], [label ++ " degraded: " ++ message])

namespace SessionFacts

variable (facts : SessionFacts)

/-- `_collect_route_signals`.  A snapshot that raises is no snapshot. -/
def routeSignals : List Json × List String :=
  collectWithDegrade "route signals" (facts.routeHints.map fun hints =>
    RouterRuntime.collectRouteSignals (ensureDictList hints)
      (match facts.routeSnapshot with
      | .ok snapshot => snapshot
      | .error _ => .null))

/-- `_collect_navigation_signals`. -/
def navigationSignals : List Json × List String :=
  collectWithDegrade "navigation signals" (facts.menuItems.map DomMenu.collectNavigationSignals)

/-- One of the three collectors of `_collect_network_signals`. -/
def taggedSignals (label source : String) (answer : Except String Json) :
    List Json × List String :=
  collectWithDegrade label (answer.map (collectSessionFacts source))

/-- `_collect_page_metadata_signals`. -/
def metadataSignals : List Json × List String :=
  taggedSignals "page metadata validation" "reachability_probe" facts.pageMetadata

/-- The collectors of the signals, in their order. -/
def collectors : List (List Json × List String) :=
  [facts.routeSignals, facts.navigationSignals,
    taggedSignals "network route config signals" "network_route_config" facts.networkRouteConfigs,
    taggedSignals "network resource signals" "network_resource" facts.networkResourceHints,
    taggedSignals "network request signals" "network_request" facts.networkRequests]

/-- `merged_signals`. -/
def mergedSignals : List Json :=
  facts.collectors.flatMap Prod.fst

def warnings : List String :=
  facts.collectors.flatMap Prod.snd ++ facts.metadataSignals.2

end SessionFacts

end PageDiscovery

end Runlet
