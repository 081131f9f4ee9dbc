import Runlet.CrawlerService.Extractors.StateElements
import Runlet.Library.Digits

/-!
# Probing states

`ControlledStateProbeExtractor` of `crawler_service/extractors/state_probe.py`.  The extractor hands
actions to a browser session and collects the elements of the states they lead to.

On the older path the session is asked for its actions, and each of them is looked at before it is
performed.  On the other path pages are visited first, and the actions are made of the navigation
targets that were discovered before and of the elements of the visited page.

The session is a parameter: what it answers may depend on all calls before.
-/

namespace Runlet
namespace StateProbe

open NavigationTargets (normalizeText stateValue entries)

/-! ## Values -/

/-- `base.update(other)`. -/
def update (base other : List (String × Json)) : List (String × Json) :=
  other.foldl (fun d e => Json.put d e.1 e.2) base

/-- One argument of `merge_state_context`. -/
def mergeContext (merged : List (String × Json)) (value : Option Json) : List (String × Json) :=
  (entries (value.getD .null)).foldl (fun context e =>
    match normalizeText (.str e.1), stateValue e.2 with
    | some key, some v => Json.put context key v
    | _, _ => context) merged

/-- `merge_state_context`. -/
def mergeStateContext (contexts : List (Option Json)) : List (String × Json) :=
  contexts.foldl mergeContext []

/-- `_ensure_dict_list`. -/
def ensureDictList (value : Option Json) : List Json :=
  (value.getD .null).items.filter isObject

/-- `_normalize_entry_type`, and `_normalize_action_name`. -/
def normalizeEntryType (value : Option Json) : Option String :=
  (cleanText value).map fun text => Text.replaceChar '-' '_' (Text.lower text)

/-- `_append_warnings`. -/
def appendWarnings (warnings : List String) (reasons : Option Json) : List String :=
  ((reasons.getD .null).items.filterMap normalizeText).foldl appendWarning warnings

/-- `_is_permission_blocked`. -/
def isPermissionBlocked (action : Json) : Bool :=
  match action.get? "blocked_by_permission" with
  | some (.bool blocked) => blocked
  | _ =>
    (cleanText (action.get? "permission_result")).any fun permissionResult =>
      Text.lower permissionResult ∈ ["blocked", "denied", "forbidden"]

/-- `_action_payload_applied`. -/
def actionPayloadApplied (payload : Json) : Bool :=
  match (payload.get? "probe_applied").or (payload.get? "applied") with
  | some (.bool applied) => applied
  | _ => true

/-- `_action_payload_rejection_reason`. -/
def actionPayloadRejectionReason (payload : Json) : String :=
  match (cleanText (payload.get? "probe_apply_reason")).or (cleanText (payload.get? "reason")) with
  | some value => Text.replaceChar '-' '_' (Text.lower value)
  | none => "state_transition_not_applied"

/-! ## Navigation targets -/

/-- `_build_navigation_target`. -/
def buildNavigationTarget (action : Json) (routePath targetKind status : String)
    (reason : Option String) : NavigationTarget :=
  let target := NavigationTarget.ofFields
    { targetKind := .str targetKind
      routeHint := .str routePath
      locatorCandidates := .arr (normalizeLocatorCandidates (action.get? "locator_candidates"))
      stateContext := .obj (toStateContext (action.get? "state_context"))
      parentTargetKey := .str ("page:" ++ routePath)
      discoverySource := .str "state_probe_action"
      materializationStatus := .str status
      rejectionReason := NavigationTarget.optionJson reason }
  match reason with
  | some reason =>
    if status = "blocked" then target.markBlocked reason
    else if status = "not_applied" then target.markNotApplied reason .null
    else target
  | none => target

/-- `NavigationTarget.to_record`. -/
def toRecord (target : NavigationTarget) : List (String × Json) :=
  [ ("target_key", .str target.targetKey), ("target_kind", .str target.targetKind),
    ("route_hint", NavigationTarget.optionJson target.routeHint),
    ("locator_candidates", .arr target.locatorCandidates),
    ("state_context", .obj target.stateContext),
    ("parent_target_key", NavigationTarget.optionJson target.parentTargetKey),
    ("discovery_source", NavigationTarget.optionJson target.discoverySource),
    ("safety_level", .str target.safetyLevel),
    ("materialization_status", .str target.materializationStatus),
    ("rejection_reason", NavigationTarget.optionJson target.rejectionReason),
    ("rejection_detail", NavigationTarget.optionJson target.rejectionDetail),
    ("metadata", .obj target.metadata) ]

/-- The record with the route on which its action is performed. -/
def routedRecord (record : List (String × Json)) : Option String → List (String × Json)
  | some route => update record
      [("route_path", .str route), ("page_route_path", .str route), ("route_hint", .str route)]
  | none => record

/-- The record with the type of its action. -/
def typedRecord (record : List (String × Json)) : Option String → List (String × Json)
  | some entryType => update record
      [("entry_type", .str entryType), ("interaction_type", .str entryType)]
  | none => record

/-- `build_navigation_action_payload`, for the record of a target. -/
def buildNavigationActionPayload (record : List (String × Json)) (routePath : Option Json)
    (baseStateContext : Option Json) : Json :=
  let field := fun name => (Json.obj record).get? name
  let entryType := normalizeEntryType
    (Json.orElse (field "entry_type") (Json.orElse (field "interaction_type") (field "target_kind")))
  let normalizedRoute := routePathOf
    (Json.orElse routePath (Json.orElse (field "route_path") (field "route_hint")))
  let payload := typedRecord (routedRecord record normalizedRoute) entryType
  .obj (Json.put payload "state_context"
    (.obj (mergeStateContext [baseStateContext, (Json.obj payload).get? "state_context"])))

/-! ## States -/

def keyActionContextFields : List String :=
  ["active_tab", "modal_title", "drawer_title", "view_mode", "panel_title", "tree_node"]

def numericContextFields : List String :=
  ["page_number", "page_index", "page", "tree_level"]

/-- A number of an action, as a whole number when it is one. -/
def numericValue : Option Json → Option Json
  | some (.int n) => some (.int n)
  | some (.float literal q) => some (if q.den = 1 then .int q.num else .float literal q)
  | _ => none

/-- The context of an action that comes without one. -/
def contextOfFields (merged : Json) : List (String × Json) :=
  update
    (keyActionContextFields.filterMap fun key =>
      (cleanText (merged.get? key)).map fun value => (key, .str value))
    (numericContextFields.filterMap fun key =>
      (numericValue (merged.get? key)).map fun value => (key, value))

/-- `_to_state_payload`. -/
def toStatePayload (defaultRoute action payload : Json) (pageContext : Option Json) : Json :=
  let merged := update (update (entries (pageContext.getD .null)) (entries action)) (entries payload)
  let field := fun name => (Json.obj merged).get? name
  let routePath := routePathOf
    (Json.orElse (field "route_path") (Json.orElse (field "page_route_path") (some defaultRoute)))
  let routed := Json.put merged "route_path" ((routePath.map Json.str).getD defaultRoute)
  let context := mergeStateContext
    [pageContext.bind fun page => page.get? "state_context", action.get? "state_context",
      payload.get? "state_context", (Json.obj routed).get? "state_context"]
  let stateContext := if context.isEmpty then contextOfFields (.obj routed) else context
  .obj (update routed
    [("state_context", .obj stateContext), ("elements", .arr (ensureDictList (field "elements")))])

/-- `_to_page_context_state`. -/
def toPageContextState (pageContext : Json) (defaultRoute : Option String) : Json :=
  let hint := NavigationTarget.optionJson defaultRoute
  let routePath := routePathOf
    (Json.orElse (pageContext.get? "resolved_route")
      (Json.orElse (pageContext.get? "route_path") (some hint)))
  .obj
    [ ("route_path", .str ((routePath.or defaultRoute).getD "/")),
      ("state_context", .obj (mergeStateContext
        [some (.obj [("active_tab", .str "default")]), pageContext.get? "state_context"])),
      ("elements", .arr (ensureDictList (pageContext.get? "elements"))) ]

/-! ## The session -/

/-- A permission that is missing, or anything else that is raised. -/
inductive SessionError where
  | permission
  | other

/-- What the extractor asks the session for. -/
inductive SessionCall where
  | collectBaseline
  | collectDomElements
  | collectActions
  | visitPage (pageTarget : Json)
  | performAction (action : Json)
  | performNavigation (target pageContext : Json)

/-- The action that a call hands over. -/
def SessionCall.handed : SessionCall → Option Json
  | .performAction action => some action
  | .performNavigation target _ => some target
  | _ => none

/-- The methods a session has, and its list of actions.  A method sees the calls before. -/
structure BrowserSession where
  collectStateProbeBaseline : Option (List SessionCall → Except SessionError Json) := none
  collectDomElements : Option (List SessionCall → Except SessionError Json) := none
  collectStateProbeActions : Option (List SessionCall → Except SessionError Json) := none
  stateProbeActions : Json := .arr []
  visitPageTarget : Option (List SessionCall → Json → Except SessionError Json) := none
  performStateProbeAction : Option (List SessionCall → Json → Except SessionError Json) := none
  performNavigationTarget :
    Option (List SessionCall → Json → Json → Except SessionError Json) := none
  frameworkHint : Option Json := none

/-- A target the older path lists: one of the registry, by its place, or one that it refused. -/
inductive ListedTarget where
  | taken (place : ℕ)
  | refused (target : NavigationTarget)

structure ProbeState where
  calls : List SessionCall := []
  collected : Collected := {}
  registry : NavigationTargetRegistry
  navigationTargets : List ListedTarget := []

namespace ProbeState

def warn (st : ProbeState) (reason : String) : ProbeState :=
  { st with collected := st.collected.warn reason }

def call (st : ProbeState) (c : SessionCall) : ProbeState :=
  { st with calls := st.calls ++ [c] }

def list (st : ProbeState) (target : ListedTarget) : ProbeState :=
  { st with navigationTargets := st.navigationTargets ++ [target] }

/-- A new status for the target at a place of the registry. -/
def mark (st : ProbeState) (place : ℕ) (f : NavigationTarget → NavigationTarget) : ProbeState :=
  { st with registry := { st.registry with targets := st.registry.targets.modify place f } }

def collect (st : ProbeState) (state : Json) : ProbeState :=
  { st with collected := st.collected.collectStateElements state }

/-- The warnings about a target that the registry refused. -/
def warnRefused (st : ProbeState) (reason : Option String) : ProbeState :=
  match reason with
  | some "duplicate_target" => st.warn "navigation_target_duplicate"
  | some reason =>
    if "budget_exhausted".toList.isSuffixOf reason.toList then
      (st.warn "interaction_budget_exhausted").warn reason
    else st
  | none => st

end ProbeState

/-- What is taken of an answer that should be an object. -/
def objectOrEmpty (answer : Json) : Json :=
  if isObject answer then answer else .obj []

section Session

variable (session : BrowserSession)

/-- `_perform_action`. -/
def performAction (st : ProbeState) (action : Json) : Except SessionError Json × ProbeState :=
  match session.performStateProbeAction with
  | some executor =>
    ((executor st.calls action).map objectOrEmpty, st.call (.performAction action))
  | none => (.ok action, st)

/-- `_perform_navigation_target`. -/
def performNavigationTarget (st : ProbeState) (target pageContext : Json) :
    Except SessionError Json × ProbeState :=
  match session.performNavigationTarget with
  | some executor =>
    ((executor st.calls target pageContext).map objectOrEmpty,
      st.call (.performNavigation target pageContext))
  | none => performAction session st target

/-! ## The older path -/

/-- The elements of a page by their routes, each as a state. -/
def groupedStates (rawElements : List Json) : List Json :=
  let routed := rawElements.filterMap fun element =>
    (routePathOf (Json.orElse (element.get? "page_route_path")
      (element.get? "route_path"))).map fun routePath => (routePath, element)
  (routed.map (·.1)).eraseDups.map fun routePath =>
    .obj
      [ ("route_path", .str routePath),
        ("state_context", .obj [("active_tab", .str "default")]),
        ("elements", .arr ((routed.filter fun e => e.1 = routePath).map (·.2))) ]

/-- `_collect_baseline_states`. -/
def collectBaselineStates (st : ProbeState) : Except SessionError (List Json) × ProbeState :=
  match session.collectStateProbeBaseline with
  | some collector =>
    ((collector st.calls).map fun answer => ensureDictList (some answer),
      st.call .collectBaseline)
  | none =>
    match session.collectDomElements with
    | some collector =>
      ((collector st.calls).map fun answer => groupedStates (ensureDictList (some answer)),
        st.call .collectDomElements)
    | none => (.ok [], st)

/-- `_collect_actions`. -/
def collectActions (st : ProbeState) : Except SessionError (List Json) × ProbeState :=
  match session.collectStateProbeActions with
  | some collector =>
    ((collector st.calls).map fun answer => ensureDictList (some answer), st.call .collectActions)
  | none => (.ok (ensureDictList (some session.stateProbeActions)), st)

/-- What is done after an action was performed, or was refused by the session. -/
def settleAction (place : ℕ) (routePath : String) (action : Json) :
    Except SessionError Json × ProbeState → ProbeState
  | (.error .permission, st) =>
    ((st.mark place (·.markBlocked "blocked_by_permission")).list (.taken place)).warn
      "blocked_by_permission"
  | (.error .other, st) =>
    ((st.mark place (·.markBlocked "unsafe_action_rejected")).list (.taken place)).warn
      "unsafe_action_rejected"
  | (.ok payload, st) =>
    if !actionPayloadApplied payload then
      ((st.mark place (·.markNotApplied "state_transition_not_applied"
        (.str (actionPayloadRejectionReason payload)))).list (.taken place)).warn
          "state_transition_not_applied"
    else
      ((st.mark place (·.markApplied)).list (.taken place)).collect
        (toStatePayload (.str routePath) action payload none)

/-- One turn of the loop over the actions. -/
def probeAction (st : ProbeState) (action : Json) : ProbeState :=
  match routePathOf
      (Json.orElse (action.get? "route_path") (action.get? "page_route_path")) with
  | none => st
  | some routePath =>
    match normalizeEntryType
        (Json.orElse (action.get? "entry_type") (action.get? "interaction_type")) with
    | none => st.warn "unsafe_action_rejected"
    | some entryType =>
      if entryType ∉ allowedStateProbeActions then st.warn "unsafe_action_rejected"
      else if isPermissionBlocked action then
        (st.list (.refused (buildNavigationTarget action routePath entryType "blocked"
          (some "blocked_by_permission")))).warn "blocked_by_permission"
      else
        let (registry, decision) := st.registry.add
          (buildNavigationTarget action routePath entryType "discovered" none)
        let added := { st with registry := registry }
        if !decision.accepted then
          (added.list (.refused decision.target)).warnRefused decision.reason
        else
          settleAction st.registry.targets.length routePath action
            (performAction session added action)

/-- The registry of an extraction. -/
def newRegistry (maxActionsPerPage : Int) : NavigationTargetRegistry :=
  let limit := max 1 maxActionsPerPage
  NavigationTargetRegistry.new (max 8 (limit * 8)) limit (max 4 (limit * 4)) (max 4 (limit * 4))

/-- The states the session has without any action. -/
def probeBaseline (st : ProbeState) : ProbeState :=
  match collectBaselineStates session st with
  | (.ok states, collected) => states.foldl ProbeState.collect collected
  | (.error _, collected) => collected.warn "state_probe_baseline_degraded"

/-- `_extract_legacy`, up to its result. -/
def probeLegacy (maxActionsPerPage : Int) : ProbeState :=
  match collectActions session
      (probeBaseline session { registry := newRegistry maxActionsPerPage }) with
  | (.ok actions, st) => actions.foldl (probeAction session) st
  | (.error _, st) => st.warn "state_probe_actions_degraded"

/-! ## The path that visits pages first -/

/-- `_visit_page_target`. -/
def visitPageTarget (st : ProbeState) (pageTarget : NavigationTarget) :
    Except SessionError Json × ProbeState :=
  let unvisited : Json := .obj
    [ ("route_path", NavigationTarget.optionJson pageTarget.routeHint),
      ("resolved_route", NavigationTarget.optionJson pageTarget.routeHint),
      ("state_context", .obj [("active_tab", .str "default")]), ("elements", .arr []) ]
  match session.visitPageTarget with
  | some visitor =>
    ((visitor st.calls (.obj (toRecord pageTarget))).map fun answer =>
      if isObject answer then answer else unvisited,
      st.call (.visitPage (.obj (toRecord pageTarget))))
  | none => (.ok unvisited, st)

/-- One turn of `_normalize_discovered_state_targets`. -/
def discoveredTarget (routePath : String) (record : Json) : Option NavigationTarget :=
  match normalizeEntryType (record.get? "target_kind") with
  | none => none
  | some targetKind =>
    if targetKind = "page_route" then none
    else if routePathOf (Json.orElse (record.get? "route_hint")
          (record.get? "route_path")) ≠ some routePath &&
        cleanText (record.get? "parent_target_key") ≠ some ("page:" ++ routePath) then none
    else some (NavigationTarget.ofFields
      { targetKind := .str targetKind
        routeHint := .str routePath
        locatorCandidates := .arr (normalizeLocatorCandidates (record.get? "locator_candidates"))
        stateContext := .obj (toStateContext (record.get? "state_context"))
        parentTargetKey := .str ("page:" ++ routePath)
        discoverySource :=
          .str ((cleanText (record.get? "discovery_source")).getD "page_discovery")
        metadata := (objectOrNone (record.get? "metadata")).getD (.obj []) })

/-- The text of an element. -/
def elementLabel (rawElement : Json) : Option String :=
  cleanText (Json.orElse (rawElement.get? "text") (rawElement.get? "element_text"))

/-- `_infer_entry_type_from_element`. -/
def inferEntryTypeFromElement (rawElement : Json) : Option String :=
  let role := cleanText (Json.orElse (rawElement.get? "role") (rawElement.get? "element_role"))
  let elementType :=
    cleanText (Json.orElse (rawElement.get? "element_type") (rawElement.get? "tag_name"))
  let text := (elementLabel rawElement).getD ""
  let mentions := fun keywords : List String =>
    keywords.any fun keyword => Text.containsText keyword (Text.lower text)
  if role = some "tab" && text ≠ "" then some "tab_switch"
  else if elementType = some "button" &&
      mentions ["新增", "新建", "创建", "添加", "add", "new", "create"] then some "open_modal"
  else if Digits.isDigits text then some "paginate_probe"
  else if elementType = some "button" &&
      mentions ["列表", "卡片", "视图", "table", "grid", "list", "card"] then some "toggle_view"
  else none

/-- `_infer_state_context_from_element`. -/
def inferStateContextFromElement (entryType : String) (rawElement : Json) :
    Except String (List (String × Json)) :=
  match elementLabel rawElement with
  | none => .ok []
  | some label =>
    if entryType = "tab_switch" then .ok [("active_tab", .str label)]
    else if entryType = "open_modal" then .ok [("modal_title", .str label)]
    else if entryType = "paginate_probe" && Digits.isDigits label then
      (Digits.read label).map fun number => [("page_number", .int number)]
    else if entryType = "toggle_view" then .ok [("view_mode", .str label)]
    else .ok []

/-- One turn of `_derive_state_targets_from_page_context`. -/
def derivedTarget (routePath : String) (rawElement : Json) :
    Except String (Option NavigationTarget) :=
  match inferEntryTypeFromElement rawElement with
  | none => .ok none
  | some entryType =>
    if entryType ∉ allowedStateProbeActions then .ok none
    else
      (inferStateContextFromElement entryType rawElement).map fun stateContext =>
        if stateContext.isEmpty then none
        else some (NavigationTarget.ofFields
          { targetKind := .str entryType
            routeHint := .str routePath
            locatorCandidates :=
              .arr (normalizeLocatorCandidates (rawElement.get? "locator_candidates"))
            stateContext := .obj stateContext
            parentTargetKey := .str ("page:" ++ routePath)
            discoverySource := .str "page_context" })

/-- `_derive_state_targets_from_page_context`. -/
def deriveStateTargets (routePath : String) : List Json → Except String (List NavigationTarget)
  | [] => .ok []
  | rawElement :: rawElements =>
    match derivedTarget routePath rawElement with
    | .error message => .error message
    | .ok target? =>
      (deriveStateTargets routePath rawElements).map fun targets => target?.toList ++ targets

/-- The route a page was found on. -/
def pageRoute (pageContext : Json) : Option String :=
  routePathOf
    (Json.orElse (pageContext.get? "resolved_route") (pageContext.get? "route_path"))

/-- `_build_state_targets_for_page`. -/
def buildStateTargetsForPage (pageContext : Json) (navigationTargets : List Json) :
    Except String (List NavigationTarget) :=
  match pageRoute pageContext with
  | none => .ok []
  | some routePath =>
    (deriveStateTargets routePath (ensureDictList (pageContext.get? "elements"))).map
      fun derived => navigationTargets.filterMap (discoveredTarget routePath) ++ derived

/-- The same for the action of a state target. -/
def settleTarget (place : ℕ) (defaultRoute action pageContext : Json) :
    Except SessionError Json × ProbeState → ProbeState
  | (.error .permission, st) =>
    (st.mark place (·.markBlocked "blocked_by_permission")).warn "blocked_by_permission"
  | (.error .other, st) =>
    (st.mark place (·.markBlocked "unsafe_action_rejected")).warn "unsafe_action_rejected"
  | (.ok payload, st) =>
    if !actionPayloadApplied payload then
      let detail := actionPayloadRejectionReason payload
      let refused := (st.mark place (·.markNotApplied "state_transition_not_applied"
        (.str detail))).warn "state_transition_not_applied"
      if detail ∈ ["state_transition_not_applied", "blocked_by_permission",
          "unsafe_action_rejected"] then refused
      else refused.warn detail
    else
      (st.mark place (·.markApplied)).collect
        (toStatePayload defaultRoute action payload (some pageContext))

/-- The action of a state target. -/
def targetAction (target : NavigationTarget) (baseStateContext : Option Json) : Json :=
  buildNavigationActionPayload (toRecord target)
    (some (NavigationTarget.optionJson target.routeHint)) baseStateContext

/-- One turn of the loop over the state targets of a page. -/
def probeTarget (pageTarget : NavigationTarget) (pageContext baselineState : Json)
    (st : ProbeState) (target : NavigationTarget) : ProbeState :=
  let (registry, decision) := st.registry.add target
  let added := { st with registry := registry }
  if !decision.accepted then added.warnRefused decision.reason
  else
    let action := targetAction decision.target (baselineState.get? "state_context")
    let defaultRoute := (Json.orElse (some (NavigationTarget.optionJson pageTarget.routeHint))
      (Json.orElse (pageContext.get? "route_path") (some (.str "/")))).getD (.str "/")
    settleTarget st.registry.targets.length defaultRoute action pageContext
      (performNavigationTarget session added action pageContext)

/-- One turn of the loop over the pages. -/
def probePage (navigationTargets : List Json) (st : ProbeState) (pageTarget : NavigationTarget) :
    Except String Unit × ProbeState :=
  match visitPageTarget session st pageTarget with
  | (.error _, visited) => (.ok (), visited.warn "state_probe_baseline_degraded")
  | (.ok pageContext, visited) =>
    let warned := { visited with
      collected := { visited.collected with
        warnings := appendWarnings visited.collected.warnings
          (pageContext.get? "warning_messages") } }
    let baselineState := toPageContextState pageContext pageTarget.routeHint
    let based := warned.collect baselineState
    match buildStateTargetsForPage pageContext navigationTargets with
    | .error message => (.error message, based)
    | .ok targets =>
      (.ok (), targets.foldl (probeTarget session pageTarget pageContext baselineState) based)

/-- The loop over the pages, which a number that cannot be read ends. -/
def probePages (navigationTargets : List Json) :
    List NavigationTarget → ProbeState → Except String Unit × ProbeState
  | [], st => (.ok (), st)
  | pageTarget :: pageTargets, st =>
    match probePage session navigationTargets st pageTarget with
    | (.error message, probed) => (.error message, probed)
    | (.ok (), probed) => probePages navigationTargets pageTargets probed

/-! ## The result -/

/-- What an extraction may raise. -/
inductive ProbeFailure where
  | value (message : String)
  | record (error : NavigationTargetError)

/-- The listed targets, those of the registry as they are in the end. -/
def listedTargets (st : ProbeState) : List NavigationTarget :=
  st.navigationTargets.filterMap fun listed =>
    match listed with
    | .taken place => st.registry.targets[place]?
    | .refused target => some target

/-- `min(1.0, 0.35 + (0.06 * len(visited_signatures)) + (0.03 * len(elements)))`. -/
def qualityScore (collected : Collected) : Rat :=
  if collected.elements.isEmpty then 0
  else min 1 (35 / 100 + 6 / 100 * collected.visitedSignatures.length +
    3 / 100 * collected.elements.length)

def extractionResult (st : ProbeState) (targets : List NavigationTarget) :
    Except ProbeFailure (CrawlExtractionResult × List NavigationTargetResult) :=
  match targets.mapM NavigationTargetResult.modelValidate with
  | .error error => .error (.record error)
  | .ok records => .ok
    ({ frameworkDetected := cleanText session.frameworkHint
       qualityScore := some (qualityScore st.collected)
       elements := st.collected.elements
       warningMessages := st.collected.warnings }, records)

/-- `extract`: what it returns or raises, and what it asked the session for. -/
def extract (maxActionsPerPage : Int) (pageCandidates : List PageCandidate)
    (navigationTargets : List Json) :
    Except ProbeFailure (CrawlExtractionResult × List NavigationTargetResult) × List SessionCall :=
  let pageVisitTargets := PageDiscovery.buildPageVisitTargets pageCandidates navigationTargets
  if pageVisitTargets.isEmpty || session.visitPageTarget.isNone then
    let st := probeLegacy session maxActionsPerPage
    (extractionResult session st (listedTargets st), st.calls)
  else
    match probePages session navigationTargets pageVisitTargets
        { registry := newRegistry maxActionsPerPage } with
    | (.error message, st) => (.error (.value message), st.calls)
    | (.ok (), st) =>
      (extractionResult session st (st.registry.targets ++ st.registry.rejectedTargets), st.calls)

end Session

end StateProbe
end Runlet
