import Runlet.CrawlerService.Extractors.MenuMerge
import Runlet.Library.Attempts
import Runlet.Library.Query

/-!
# The traversal of the DOM

`DomMenuTraversalExtractor` of `crawler_service/extractors/dom_menu.py`.  The menu items are the
nodes the session gives, or a skeleton together with the nodes that come up when the items that can
be expanded are expanded.  Whatever is raised while items are collected leaves an extraction without
any, and a warning.

The session is a parameter, and so is the reading of a number with a point.
-/

namespace Runlet

namespace DomMenu

/-! ## Items that can be expanded -/

/-- What the session is asked to expand. -/
structure ExpandTarget where
  targetKind : String
  label : String
  parentLabel : Option String
  depth : Int
  siblingIndex : Option Int
  order : Int
  role : Option String
  ariaLabel : Option String
  routePath : Option String
  pageRoutePath : Option String
  locatorCandidates : List Json

/-- The fields of `dedupe_key`. -/
def ExpandTarget.dedupeKey (target : ExpandTarget) :
    String × MenuIdentity × Option String × Option String :=
  (target.targetKind,
    { label := target.label
      parentLabel := target.parentLabel
      depth := target.depth
      role := target.role
      ariaLabel := target.ariaLabel
      siblingIndex := target.siblingIndex },
    target.routePath, target.pageRoutePath)

def locatorCandidate (strategyType selector : String) : Json :=
  .obj [("strategy_type", .str strategyType), ("selector", .str selector)]

/-- `_build_menu_locator_candidates`, of numbers that were read before. -/
def buildMenuLocatorCandidates (item : MenuItem) (label : String) (siblingIndex : Option Int)
    (order : Int) : List Json :=
  let routePath :=
    normalizePath (Json.orElse (item.get? "route_path") (item.get? "page_route_path"))
  [locatorCandidate "text" label] ++
    ((roleOf item).map fun role => Json.obj
      [("strategy_type", .str "role"), ("selector", .str role), ("label", .str label)]).toList ++
    ((ariaLabelOf item).map (locatorCandidate "aria_label")).toList ++
    (routePath.map (locatorCandidate "route_path")).toList ++
    (siblingIndex.map fun n => locatorCandidate "sibling_index" (toString n)).toList ++
    [locatorCandidate "order" (toString order)]

/-- The item can be expanded. -/
def isExpandable (item : MenuItem) (entryType : Option String) : Bool :=
  entryType ∈ [some "menu_expand", some "tree_expand", some "expand_panel"] ||
    cleanText (item.get? "aria_expanded") = some "false"

/-- One turn of `build_menu_expand_targets`, up to the test for duplicates. -/
def expandTarget (item : MenuItem) : Except String (Option ExpandTarget) :=
  match labelOf (.obj item) with
  | none => .ok none
  | some label =>
    let entryType :=
      normalizeEntryType (Json.orElse (item.get? "entry_type") (item.get? "interaction_type"))
    if !isExpandable item entryType then .ok none
    else do
      let depth ← toIntValue (item.get? "depth")
      let siblingIndex ← toOptionalInt (item.get? "sibling_index")
      let order ← toIntValue (Json.orElse (item.get? "order") (item.get? "sort_order"))
      return some
        { targetKind := if entryType = some "tree_expand" then "tree_expand" else "menu_expand"
          label := label
          parentLabel := cleanText (item.get? "parent_label")
          depth := depth
          siblingIndex := siblingIndex
          order := order
          role := roleOf item
          ariaLabel := ariaLabelOf item
          routePath := routePathOf item
          pageRoutePath := pageRoutePathOf item
          locatorCandidates := buildMenuLocatorCandidates item label siblingIndex order }

/-- `build_menu_expand_targets`. -/
def buildMenuExpandTargets (skeleton : List MenuItem) : Except String (List ExpandTarget) :=
  (skeleton.mapM expandTarget).map fun targets =>
    RowQuery.dedupeBy ExpandTarget.dedupeKey [] (targets.filterMap id)

/-! ## The session -/

/-- The methods a session has for the DOM, and its attributes. -/
structure DomSession where
  collectDomMenuNodes : Option (Except String Json) := none
  collectDomMenuSkeleton : Option (Except String Json) := none
  materializeNavigationTargets : Option (List ExpandTarget → Except String Json) := none
  domMenuNodes : Json := .arr []
  collectDomElements : Option (Except String Json) := none
  domElements : Json := .arr []

/-- `_ensure_dict_list`. -/
def ensureDictList (value : Json) : List MenuItem :=
  value.items.filterMap fun item =>
    match item with
    | .obj entries => some entries
    | _ => none

/-- A node as it is handed on. -/
def MenuNode.toItem (node : MenuNode) : MenuItem :=
  [ ("label", .str node.label), ("route_path", NavigationTarget.optionJson node.routePath),
    ("page_route_path", NavigationTarget.optionJson node.pageRoutePath),
    ("depth", .int node.depth), ("order", .int node.order),
    ("role", NavigationTarget.optionJson node.role),
    ("aria_label", NavigationTarget.optionJson node.ariaLabel),
    ("sibling_index", (node.siblingIndex.map Json.int).getD .null),
    ("parent_label", NavigationTarget.optionJson node.parentLabel),
    ("entry_type", NavigationTarget.optionJson node.entryType),
    ("aria_expanded", NavigationTarget.optionJson node.ariaExpanded),
    ("navigation_identity", node.navigationIdentity.getD .null),
    ("parent_navigation_identity", node.parentNavigationIdentity.getD .null) ]

/-- `_collect_menu_items`. -/
def collectMenuItems (session : DomSession) : Except String (List MenuItem) :=
  match session.collectDomMenuNodes, session.collectDomMenuSkeleton with
  | some answer, _ => answer.map ensureDictList
  | none, some answer => do
    let skeleton ← answer.map ensureDictList
    match session.materializeNavigationTargets with
    | none => return skeleton
    | some materializer =>
      let materialized ← materializer (← buildMenuExpandTargets skeleton)
      let nodes ← mergeMenuSkeletonAndMaterializedNodes skeleton (ensureDictList materialized)
      return nodes.map MenuNode.toItem
  | none, none => .ok (ensureDictList session.domMenuNodes)

/-- `_collect_element_items`. -/
def collectElementItems (session : DomSession) : Except String (List MenuItem) :=
  match session.collectDomElements with
  | some answer => answer.map ensureDictList
  | none => .ok (ensureDictList session.domElements)

/-! ## Elements -/

def tableClassMarkers : List String :=
  ["el-table", "vxe-table", "ant-table", "ivu-table", "n-data-table", "ag-root", "ag-theme"]

section Element

variable (readFloat : String → Option Rat) (item : MenuItem)

/-- `_is_visible`. -/
def isVisible : Bool :=
  match item.get? "visible" with
  | some (.bool visible) => visible
  | _ => true

def elementRoleOf : Option String :=
  cleanText (Json.orElse (item.get? "role") (item.get? "element_role"))

/-- `_normalize_element_type`. -/
def normalizeElementType : Option String :=
  let rawType := cleanText (Json.orElse (item.get? "element_type") (item.get? "tag_name"))
  if rawType = some "table" then some "table"
  else if elementRoleOf item ∈ [some "grid", some "table"] then some "table"
  else if (cleanText (item.get? "class_name")).any fun className =>
      tableClassMarkers.any fun marker => Text.containsText marker className then some "table"
  else rawType

/-- `_to_float`. -/
def toFloat : Option Json → Option Rat
  | some (.int n) => some n
  | some (.float _ q) => some q
  | some (.str s) => readFloat (Text.strip s)
  | _ => none

/-- `_to_dict_or_none`. -/
def toDictOrNone : Option Json → Option Json
  | some (.obj entries) => some (.obj entries)
  | _ => none

/-- `_to_element_candidate`. -/
def toElementCandidate : Option ElementCandidate :=
  (normalizePath (Json.orElse (item.get? "page_route_path") (item.get? "route_path"))).bind
    fun pageRoutePath =>
      if !isVisible item then none
      else (normalizeElementType item).map fun elementType =>
        let role := elementRoleOf item
        let text := cleanText (Json.orElse (item.get? "text")
          (Json.orElse (item.get? "element_text") (item.get? "name")))
        let stabilityScore : Option Rat := toFloat readFloat (item.get? "stability_score")
        { pageRoutePath := pageRoutePath
          elementType := elementType
          elementRole := role
          elementText := text
          attributes := toDictOrNone (item.get? "attributes")
          playwrightLocator := some (buildLocator role text (ariaLabelOf item) elementType)
          stabilityScore :=
            some (if stabilityScore.getD 0 = 0 then 7 / 10 else stabilityScore.getD 0)
          usageDescription := cleanText (item.get? "usage_description") }

end Element

/-! ## The extraction -/

/-- The items, both lists or neither. -/
def collectItems (session : DomSession) : Except String (List MenuItem × List MenuItem) := do
  let menuItems ← collectMenuItems session
  let elementItems ← collectElementItems session
  return (menuItems, elementItems)

/-- What is made of the items. -/
def toExtraction (readFloat : String → Option Rat) (menuItems elementItems : List MenuItem) :
    Except String CrawlExtractionResult := do
  let candidates ← menuItems.mapM fun item => toMenuCandidate (.obj item)
  let menus := candidates.filterMap id
  let elements := elementItems.filterMap (toElementCandidate readFloat)
  return { qualityScore := some (min 1 (4 / 10 + 8 / 100 * menus.length + 4 / 100 * elements.length))
           menus := menus
           elements := elements
           degraded := menus.isEmpty && elements.isEmpty }

/-- `extract`.  What is raised while the items are collected is caught, what their numbers raise
afterwards is not. -/
def extract (readFloat : String → Option Rat) (session : DomSession) :
    Except String CrawlExtractionResult :=
  match collectItems session with
  | .ok (menuItems, elementItems) => toExtraction readFloat menuItems elementItems
  | .error message => do
    let extraction ← toExtraction readFloat [] []
    return { extraction with
             failureReason := some ("dom traversal extraction failed: " ++ message)
             warningMessages := ["dom traversal degraded: " ++ message] }

end DomMenu

end Runlet
