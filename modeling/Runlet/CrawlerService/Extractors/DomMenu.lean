import Runlet.CrawlerService.Persistence
import Runlet.CrawlerService.NavigationTargets

/-!
# Menus read from the DOM

`crawler_service/extractors/dom_menu.py`: the menu candidate of a DOM item.  Its routes are kept as
they stand in the item, up to blanks at the ends: `DomMenu.normalizePath` asks for a leading slash
and changes nothing else.

A number may stand in an item as text.  The test for it is `isdigit`, which `int` does not go by:
a superscript passes the test and `int` raises.
-/

namespace Runlet

namespace DomMenu

open CrawlerService (wholeNumber)

/-- An item as the page shows it: an object. -/
abbrev MenuItem :=
  List (String × Json)

def MenuItem.get? (item : MenuItem) (name : String) : Option Json :=
  (Json.obj item).get? name

/-- `_clean_text`. -/
def cleanText : Option Json → Option String
  | some (.str s) => if Text.strip s = "" then none else some (Text.strip s)
  | _ => none

/-- `_normalize_path`. -/
def normalizePath : Option Json → Option String
  | some (.str s) => if Text.startsWith "/" (Text.strip s) then some (Text.strip s) else none
  | _ => none

/-- `_to_optional_int_value`. -/
def toOptionalInt (value : Option Json) : Except String (Option Int) :=
  wholeNumber value

/-- `_to_int_value`. -/
def toIntValue (value : Option Json) : Except String Int :=
  (toOptionalInt value).map fun n => n.getD 0

/-- `_to_int`. -/
def toInt (value : Option Json) : Except String Int :=
  toIntValue value

/-- `_normalize_entry_type_value`. -/
def normalizeEntryType (value : Option Json) : Option String :=
  (cleanText value).map fun clean =>
    let normalized := Text.replaceChar '-' '_' (Text.lower clean)
    if normalized ∈ ["tab", "switch_tab"] then "tab_switch"
    else if normalized ∈ ["modal", "show_modal"] then "open_modal"
    else if normalized ∈ ["drawer", "show_drawer"] then "open_drawer"
    else if normalized ∈ ["expand_filter", "open_filter", "toggle_filter"] then "filter_expand"
    else normalized

/-- `value if isinstance(value, dict) else fallback`. -/
def rawIdentity (value fallback : Option Json) : Option Json :=
  match value with
  | some (.obj entries) => some (.obj entries)
  | _ => fallback

/-- `_normalize_navigation_identity_value`. -/
def normalizeNavigationIdentityValue (value fallback : Option Json) :
    Except String (Option Json) :=
  match rawIdentity value fallback with
  | some (.obj entries) =>
    match cleanText (MenuItem.get? entries "label") with
    | none => .ok none
    | some label => do
      let depth ← toIntValue (MenuItem.get? entries "depth")
      let siblingIndex ← toOptionalInt (MenuItem.get? entries "sibling_index")
      return some (.obj ([("label", .str label), ("depth", .int depth)] ++
        ((cleanText (MenuItem.get? entries "role")).map fun role =>
          ("role", Json.str role)).toList ++
        ((cleanText (MenuItem.get? entries "aria_label")).map fun ariaLabel =>
          ("aria_label", Json.str ariaLabel)).toList ++
        (siblingIndex.map fun n => ("sibling_index", Json.int n)).toList))
  | _ => .ok none

/-- `_escape_quote`. -/
def escapeQuote (value : String) : String :=
  String.ofList (value.toList.flatMap fun c => if c = '\'' then ['\\', '\''] else [c])

def buildLocator (role text ariaLabel : Option String) (fallbackTag : String) : String :=
  match role, text, ariaLabel with
  | some role, some text, _ => s!"role={role}[name='{escapeQuote text}']"
  | some role, none, some aria => s!"role={role}[name='{escapeQuote aria}']"
  | none, some text, _ => s!"text='{escapeQuote text}'"
  | none, none, some aria => s!"css=[aria-label='{escapeQuote aria}']"
  | _, none, none => s!"css={fallbackTag}"

/-- `item.get("label") or item.get("text") or item.get("name")`, cleaned. -/
def labelOf (item : Json) : Option String :=
  cleanText (Json.orElse (item.get? "label") (Json.orElse (item.get? "text") (item.get? "name")))

/-- `_to_menu_candidate`. -/
def toMenuCandidate (item : Json) : Except String (Option MenuCandidate) :=
  match labelOf item with
  | none => .ok none
  | some label => do
    let routePath := normalizePath (Json.orElse (item.get? "route_path") (item.get? "path"))
    let depth ← toInt (item.get? "depth")
    let sortOrder ← toInt (Json.orElse (item.get? "order") (item.get? "sort_order"))
    let navigationIdentity ← normalizeNavigationIdentityValue (item.get? "navigation_identity") none
    let parentNavigationIdentity ←
      normalizeNavigationIdentityValue (item.get? "parent_navigation_identity") none
    return some
      { label := label
        routePath := routePath
        depth := depth
        sortOrder := sortOrder
        playwrightLocator := some (buildLocator (cleanText (item.get? "role")) (some label)
          (cleanText (item.get? "aria_label")) "li")
        parentLabel := cleanText (item.get? "parent_label")
        pageRoutePath :=
          normalizePath (Json.orElse (item.get? "page_route_path") (routePath.map .str))
        discoverySources := ["dom_menu_tree"]
        entryCandidates :=
          ((normalizeEntryType (Json.orElse (item.get? "entry_type")
            (item.get? "interaction_type"))).map fun entryType =>
              Json.obj [("entry_type", .str entryType), ("label", .str label)]).toList
        navigationIdentity := navigationIdentity
        parentNavigationIdentity := parentNavigationIdentity }

/-- The navigation signal of a menu item; an item without a route gives none. -/
def navigationSignal (item : Json) : Option Json :=
  let routePath := normalizePath (Json.orElse (item.get? "route_path") (item.get? "path"))
  let pageRoutePath :=
    normalizePath (Json.orElse (item.get? "page_route_path") (routePath.map .str))
  if routePath = none ∧ pageRoutePath = none then none
  else
    let entryType :=
      normalizeEntryType (Json.orElse (item.get? "entry_type") (item.get? "interaction_type"))
    let contextConstraints :=
      match item.get? "context_constraints" with
      | some (.obj l) => [("context_constraints", Json.obj l)]
      | _ => []
    some (.obj
      ([("route_path", NavigationTarget.optionJson routePath),
          ("page_route_path", NavigationTarget.optionJson pageRoutePath),
          ("label", NavigationTarget.optionJson (labelOf item)),
          ("discovery_sources", .arr [.str "dom_menu_tree"])] ++
        (entryType.map fun entryType => ("entry_type", Json.str entryType)).toList ++
        contextConstraints))

/-- `collect_navigation_signals`, of the menu items there are. -/
def collectNavigationSignals (menuItems : List Json) : List Json :=
  menuItems.filterMap navigationSignal

/-- A route that is accepted is the route of the item, query, hash and trailing slash included. -/
theorem normalizePath_eq {s path : String} (h : normalizePath (some (.str s)) = some path) :
    path = Text.strip s := by
  rw [normalizePath] at h
  split at h
  · exact (Option.some.inj h).symm
  · cases h

end DomMenu

end Runlet
