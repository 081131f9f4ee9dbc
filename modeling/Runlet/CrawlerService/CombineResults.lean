import Runlet.CrawlerService.Persistence
import Runlet.Library.Dict

/-!
# Combining the extractions of a crawl

`CrawlerService._combine_results`: what page discovery, the DOM traversal and the state probe found
becomes one extraction.  Page candidates are merged under their route as it stands, a menu without
a route gets the route of the page with its title, and a route that only a menu or an element
mentions gets a page candidate of its own.
-/

namespace Runlet

namespace CrawlerService

open Dict (Entries)

/-- `a or b` of two texts. -/
def orElseText (a b : Option String) : Option String :=
  if a.getD "" = "" then b else a

/-- The first text that is not empty, or else the last one. -/
def firstText : List (Option String) → Option String
  | [] => none
  | [a] => a
  | a :: l => orElseText a (firstText l)

/-- `max(scores) if scores else None`. -/
def maxScore : List Rat → Option Rat
  | [] => none
  | score :: scores => some (scores.foldl (fun a b => if a ≤ b then b else a) score)

/-- The entries of an object; no other value has entries. -/
def entriesOf : Option Json → List (String × Json)
  | some (.obj entries) => entries
  | _ => []

/-- `_merge_dict`. -/
def mergeDict (base incoming : Option Json) : Option Json :=
  if base.any Json.truthy || incoming.any Json.truthy then
    some (.obj ((entriesOf incoming).foldl (fun d e => Json.put d e.1 e.2) (entriesOf base)))
  else none

/-- `_merge_entry_candidates`: the objects, each once. -/
def mergeEntryCandidates (base incoming : List Json) : List Json :=
  (base ++ incoming).foldl (fun merged candidate =>
    match candidate with
    | .obj _ =>
      if merged.any fun seen => Json.dumps false seen = Json.dumps false candidate then merged
      else merged ++ [candidate]
    | _ => merged) []

/-- The strategy and the selector of a locator candidate, when both are there. -/
def locatorOf (candidate : Json) : Option (String × String) :=
  (textField candidate "selector").bind fun selector =>
    (textField candidate "strategy_type").map fun strategyType => (strategyType, selector)

/-- `_merge_locator_candidates`: strategy and selector of the candidates, each pair once. -/
def mergeLocatorCandidates (base incoming : List Json) : List Json :=
  ((base ++ incoming).filterMap locatorOf).eraseDups.map fun l =>
    .obj [("strategy_type", .str l.1), ("selector", .str l.2)]

/-! ## Pages -/

/-- `_merge_page_candidate`. -/
def mergePageCandidate (existing incoming : PageCandidate) : PageCandidate :=
  { existing with
    pageTitle := orElseText existing.pageTitle incoming.pageTitle
    pageSummary := orElseText existing.pageSummary incoming.pageSummary
    keywords := mergeDict existing.keywords incoming.keywords
    discoverySources :=
      (existing.discoverySources ++ incoming.discoverySources).eraseDups.insertionSort (· ≤ ·)
    entryCandidates := mergeEntryCandidates existing.entryCandidates incoming.entryCandidates
    contextConstraints := mergeDict existing.contextConstraints incoming.contextConstraints
    navigationDiagnostics :=
      mergeDict existing.navigationDiagnostics incoming.navigationDiagnostics }

/-- One turn of the loop over the page candidates. -/
def addPageCandidate (candidates : Entries String PageCandidate) (candidate : PageCandidate) :
    Entries String PageCandidate :=
  candidates.set candidate.routePath
    (match candidates.get? candidate.routePath with
    | none => candidate
    | some existing => mergePageCandidate existing candidate)

/-! ## Titles -/

/-- The part of a title before a separator, when the separator is there. -/
def cutTitle (title : String) (separator : Char) : String :=
  if separator ∈ title.toList then Text.strip (Text.before separator title) else title

/-- `_normalize_title_key`. -/
def normalizeTitleKey (value : Option String) : Option String :=
  value.bind fun title =>
    if Text.strip title = "" then none
    else
      let cut := ['_', '|', '-', '—'].foldl cutTitle (Text.strip title)
      if cut = "" then none else some cut

/-- `_build_title_route_map`. -/
def buildTitleRouteMap (pages : List PageCandidate) : Entries String String :=
  pages.foldl (fun d page =>
    match normalizeTitleKey page.pageTitle with
    | none => d
    | some title => d.setDefault title page.routePath) []

/-! ## Menus -/

/-- A DOM menu with the routes it lacks. -/
def resolveMenu (titleRoutes : Entries String String) (menu : MenuCandidate) : MenuCandidate :=
  let routePath := menu.routePath.or ((normalizeTitleKey (some menu.label)).bind titleRoutes.get?)
  { menu with
    routePath := routePath
    pageRoutePath := menu.pageRoutePath.or routePath }

/-- One turn of the loop over the menus. -/
def addMenuPage (candidates : Entries String PageCandidate) (menu : MenuCandidate) :
    Entries String PageCandidate :=
  let routePath := orText menu.pageRoutePath menu.routePath
  if routePath = "" then candidates
  else candidates.setDefault routePath { routePath := routePath, pageTitle := some menu.label }

/-! ## Elements -/

/-- The fields `_build_representative_element_key` serializes. -/
structure ElementKey where
  pageRoutePath : String
  stateSignature : Option String
  elementType : String
  elementRole : Option String
  elementText : Option String
  playwrightLocatorFallback : Option String
  deriving DecidableEq

def buildRepresentativeElementKey (candidate : ElementCandidate) : ElementKey where
  pageRoutePath := candidate.pageRoutePath
  stateSignature := candidate.stateSignature
  elementType := candidate.elementType
  elementRole := candidate.elementRole
  elementText := candidate.elementText
  playwrightLocatorFallback :=
    if candidate.elementRole.getD "" = "" ∧ candidate.elementText.getD "" = "" then
      candidate.playwrightLocator
    else none

def mergeElementCandidate (existing candidate : ElementCandidate) : ElementCandidate :=
  { existing with
    elementType :=
      if candidate.elementType = "" then existing.elementType else candidate.elementType
    elementRole := orElseText candidate.elementRole existing.elementRole
    elementText := orElseText candidate.elementText existing.elementText
    attributes := mergeDict existing.attributes candidate.attributes
    playwrightLocator := orElseText candidate.playwrightLocator existing.playwrightLocator
    stateContext := mergeDict existing.stateContext candidate.stateContext
    locatorCandidates :=
      mergeLocatorCandidates existing.locatorCandidates candidate.locatorCandidates
    stabilityScore := candidate.stabilityScore.or existing.stabilityScore
    usageDescription := orElseText candidate.usageDescription existing.usageDescription
    materializedBy := orElseText candidate.materializedBy existing.materializedBy
    navigationDiagnostics :=
      mergeDict existing.navigationDiagnostics candidate.navigationDiagnostics }

/-- An element that was seen in a state. -/
def hasState (candidate : ElementCandidate) : Bool :=
  candidate.stateSignature.getD "" ≠ ""

def addElementCandidate (merged : Entries ElementKey ElementCandidate)
    (candidate : ElementCandidate) : Entries ElementKey ElementCandidate :=
  let key := buildRepresentativeElementKey candidate
  merged.set key
    (match merged.get? key with
    | none => candidate
    | some existing => mergeElementCandidate existing candidate)

/-- `_merge_representative_elements`. -/
def mergeRepresentativeElements (domElements probeElements : List ElementCandidate) :
    List ElementCandidate :=
  (((domElements ++ probeElements).filter hasState).foldl addElementCandidate []).map Prod.snd

/-- One turn of the loop over the elements. -/
def addElementPage (candidates : Entries String PageCandidate) (element : ElementCandidate) :
    Entries String PageCandidate :=
  candidates.setDefault element.pageRoutePath { routePath := element.pageRoutePath }

/-! ## The combination -/

section Combine

variable (discovery dom probe : CrawlExtractionResult)

def discoveredPages : Entries String PageCandidate :=
  (discovery.pages ++ dom.pages ++ probe.pages).foldl addPageCandidate []

def resolvedMenus : List MenuCandidate :=
  dom.menus.map
    (resolveMenu (buildTitleRouteMap ((discoveredPages discovery dom probe).map Prod.snd)))

def pageCandidates : Entries String PageCandidate :=
  (mergeRepresentativeElements dom.elements probe.elements).foldl addElementPage
    ((resolvedMenus discovery dom probe).foldl addMenuPage (discoveredPages discovery dom probe))

def combineResults (system : System) : CrawlExtractionResult :=
  let noPages := (pageCandidates discovery dom probe).isEmpty
  let failureReason := orElseText discovery.failureReason dom.failureReason
  { frameworkDetected := firstText [discovery.frameworkDetected, probe.frameworkDetected,
      dom.frameworkDetected, some system.frameworkType]
    qualityScore :=
      maxScore ([discovery.qualityScore, dom.qualityScore, probe.qualityScore].filterMap id)
    pages := (pageCandidates discovery dom probe).map Prod.snd
    menus := resolvedMenus discovery dom probe
    elements := mergeRepresentativeElements dom.elements probe.elements
    failureReason :=
      if failureReason = none ∧ noPages = true then probe.failureReason else failureReason
    warningMessages :=
      discovery.warningMessages ++ dom.warningMessages ++ probe.warningMessages
    degraded := discovery.degraded || dom.degraded || noPages }

end Combine

end CrawlerService

end Runlet
