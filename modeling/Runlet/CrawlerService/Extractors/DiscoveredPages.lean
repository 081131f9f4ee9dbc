import Runlet.CrawlerService.Extractors.DiscoverySignals
import Runlet.CrawlerService.Extractors.PageVisitTargets
import Runlet.CrawlerService.CombineResults

/-!
# The pages of page discovery

`PageDiscoveryExtractor.extract` of `crawler_service/extractors/page_discovery.py`: the seeds of the
signals go into one budgeted registry, each seed is grouped under the target that took it in, and
each route of a target becomes a page made of the groups of its targets.
-/

namespace Runlet

namespace PageDiscovery

open Dict (Entries Groups)

/-! ## Seeds and targets -/

/-- The registry, and under the key of each target the seeds that went into it. -/
structure Gathered where
  registry : NavigationTargetRegistry
  groupedTargets : Groups String NavigationTargetSeed := []

/-- `get_by_dedupe_key`. -/
def getByDedupeKey (registry : NavigationTargetRegistry) (key : String) :
    Option NavigationTarget :=
  (registry.targetsByKey.get? key).bind fun place => registry.targets[place]?

/-- One turn of the loop over the seeds. -/
def gather (gathered : Gathered) (seed : NavigationTargetSeed) : Gathered :=
  let (registry, decision) := gathered.registry.add seed.target
  let acceptedTarget :=
    if decision.accepted then some decision.target
    else getByDedupeKey registry seed.target.dedupeKey
  match acceptedTarget with
  | none => { gathered with registry := registry }
  | some target =>
    { registry := registry
      groupedTargets := gathered.groupedTargets.append target.dedupeKey seed }

/-! ## Pages -/

/-- `_PageStore`; the keys of the entry candidates are their texts. -/
structure PageStore where
  title : Option String := none
  sources : List String := []
  entryCandidates : List Json := []
  contextConstraints : List (String × Json) := []
  navigationDiagnostics : List (String × Json) := []

/-- `d.update(value)` for an object. -/
def updated (d : List (String × Json)) (value : Option Json) : List (String × Json) :=
  (CrawlerService.entriesOf value).foldl (fun d e => Json.put d e.1 e.2) d

/-- An entry candidate that was not seen yet. -/
def addEntryCandidate (entryCandidates : List Json) (candidate : Json) : List Json :=
  if entryCandidates.any fun seen =>
      Json.dumpsSpaced false seen = Json.dumpsSpaced false candidate then entryCandidates
  else entryCandidates ++ [candidate]

namespace NavigationTargetSeed

/-- The title a seed brings. -/
def titleCandidate (seed : NavigationTargetSeed) : Option String :=
  (cleanText (Json.orElse (seed.signal.get? "page_title")
    (Json.orElse (seed.signal.get? "title") (seed.signal.get? "name")))).or
      (if seed.includeLabelAsTitle then cleanText (seed.signal.get? "label") else none)

/-- `_collect_extraction_hints`, the quality. -/
def qualityHint (seed : NavigationTargetSeed) : Option Rat :=
  match seed.signal.get? "quality_score_hint" with
  | some (.int n) => some n
  | some (.float _ value) => some value
  | some (.bool b) => some (if b then 1 else 0)
  | _ => none

/-- `_collect_extraction_hints`, the framework. -/
def frameworkHint (seed : NavigationTargetSeed) : Option String :=
  cleanText (seed.signal.get? "framework_hint")

end NavigationTargetSeed

/-- `_merge_signal_to_page`, with the entry candidate of the seed. -/
def mergeSignalToPage (page : PageStore) (seed : NavigationTargetSeed) : PageStore where
  title := page.title.or seed.titleCandidate
  sources := (page.sources ++ extractSources seed.signal).eraseDups
  entryCandidates := seed.entryCandidate.toList.foldl addEntryCandidate page.entryCandidates
  contextConstraints :=
    updated page.contextConstraints (seed.signal.get? "context_constraints")
  navigationDiagnostics :=
    updated page.navigationDiagnostics (seed.signal.get? "navigation_diagnostics")

/-- The seeds of the targets with a route, target by target. -/
def pageSeeds (gathered : Gathered) : List (String × List NavigationTargetSeed) :=
  gathered.registry.targets.filterMap fun target =>
    target.routeHint.bind fun routePath =>
      if (gathered.groupedTargets.getD target.dedupeKey).isEmpty then none
      else some (routePath, gathered.groupedTargets.getD target.dedupeKey)

/-- One turn of the loop over the targets. -/
def addGroup (pageStore : Entries String PageStore)
    (group : String × List NavigationTargetSeed) : Entries String PageStore :=
  pageStore.set group.1
    (group.2.foldl mergeSignalToPage ((pageStore.get? group.1).getD {}))

/-! ## Metadata -/

/-- `d.setdefault(name, value)`. -/
def setDefault (d : List (String × Json)) (name : String) (value : Option Json) :
    List (String × Json) :=
  match value with
  | none => d
  | some v => if d.any fun e => e.1 == name then d else d ++ [(name, v)]

/-- A truth value, which is what `reachable` must be. -/
def reachableOf (metadata : Json) : Option Json :=
  (metadata.get? "reachable").filter fun value =>
    match value with
    | .bool _ => true
    | _ => false

/-- A whole number; a truth value passes for one. -/
def statusCodeOf (metadata : Json) : Option Json :=
  (metadata.get? "status_code").filter fun value =>
    match value with
    | .int _ => true
    | .bool _ => true
    | _ => false

/-- The title a visit found. -/
def metadataTitle (metadata : Json) : Option String :=
  cleanText (Json.orElse (metadata.get? "page_title") (metadata.get? "title"))

/-- A page with what a visit told about it. -/
def addMetadata (page : PageStore) (metadata : Json) : PageStore :=
  { page with
    title := page.title.or (metadataTitle metadata)
    contextConstraints :=
      setDefault (setDefault page.contextConstraints "reachable" (reachableOf metadata))
        "status_code" (statusCodeOf metadata) }

/-- One turn of the loop over the metadata. -/
def applyMetadata (acceptsNetloc : String → Bool) (pageStore : Entries String PageStore)
    (metadata : Json) : Except String (Entries String PageStore) :=
  (extractRoutePath acceptsNetloc metadata).map fun routePath? =>
    match routePath? with
    | none => pageStore
    | some routePath =>
      match pageStore.get? routePath with
      | none => pageStore
      | some page => pageStore.set routePath (addMetadata page metadata)

/-! ## The extraction -/

/-- `value or None` for an object. -/
def objectOrNone (entries : List (String × Json)) : Option Json :=
  if entries.isEmpty then none else some (.obj entries)

def toPageCandidate (entry : String × PageStore) : PageCandidate where
  routePath := entry.1
  pageTitle := entry.2.title
  discoverySources := sortBySource entry.2.sources
  entryCandidates := entry.2.entryCandidates
  contextConstraints := objectOrNone entry.2.contextConstraints
  navigationDiagnostics := objectOrNone entry.2.navigationDiagnostics

/-- The pages in the order of their routes. -/
def sortedPages (pageStore : Entries String PageStore) : List PageCandidate :=
  (pageStore.insertionSort fun a b => a.1 ≤ b.1).map toPageCandidate

/-- The quality of an extraction: by the number of pages and of sources, and at least the best
hint. -/
def qualityScore (pages : List PageCandidate) (qualityHints : List Rat) : Rat :=
  if pages.isEmpty then 0
  else
    let allSources := (pages.flatMap (·.discoverySources)).eraseDups
    let score : Rat := min 1 (2 / 5 + 2 / 25 * pages.length + 3 / 100 * allSources.length)
    match CrawlerService.maxScore qualityHints with
    | none => score
    | some best => max score best

/-- What a discovery raises: a text that cannot be read, or a target that cannot be recorded. -/
inductive DiscoveryError where
  | reading (message : String)
  | recording (error : NavigationTargetError)

/-- The extraction with the records of its targets. -/
structure Discovery where
  extraction : CrawlExtractionResult
  navigationTargets : List NavigationTargetResult

/-- The budgets of the registry. -/
structure Budgets where
  maxTotalTargets : Int := 128
  maxTargetsPerRoute : Int := 16
  maxTargetsPerKind : Int := 64
  maxChildrenPerParent : Int := 32

def Budgets.registry (budgets : Budgets) : NavigationTargetRegistry :=
  NavigationTargetRegistry.new budgets.maxTotalTargets budgets.maxTargetsPerRoute
    budgets.maxTargetsPerKind budgets.maxChildrenPerParent

section Extract

variable (acceptsNetloc : String → Bool) (budgets : Budgets) (facts : SessionFacts)

/-- The seeds of all signals, in order.  Nothing is kept of an extraction that raises, so all seeds
may be built before the first one is added. -/
def buildSeeds : Except String (List NavigationTargetSeed) :=
  (facts.mergedSignals.mapM (buildTargetSeeds acceptsNetloc)).map List.flatten

/-- The registry and the groups after the seeds. -/
def gatherAll (seeds : List NavigationTargetSeed) : Gathered :=
  seeds.foldl gather { registry := budgets.registry }

/-- The page store after the signals. -/
def pagesOf (gathered : Gathered) : Entries String PageStore :=
  (pageSeeds gathered).foldl addGroup []

/-- The page store after the metadata. -/
def withMetadata (pageStore : Entries String PageStore) :
    Except String (Entries String PageStore) :=
  facts.metadataSignals.1.foldlM (applyMetadata acceptsNetloc) pageStore

/-- The extraction of a page store. -/
def toExtraction (gathered : Gathered) (pageStore : Entries String PageStore) :
    CrawlExtractionResult :=
  let pages := sortedPages pageStore
  let seeds := (pageSeeds gathered).flatMap Prod.snd
  { frameworkDetected :=
      (cleanText facts.frameworkHint).or (seeds.filterMap (·.frameworkHint)).head?
    qualityScore := some (qualityScore pages (seeds.filterMap (·.qualityHint)))
    pages := pages
    failureReason :=
      if pages.isEmpty then
        some (facts.warnings.head?.getD "page discovery produced no usable page candidates")
      else none
    warningMessages := facts.warnings
    degraded := pages.isEmpty }

/-- `extract`. -/
def extract : Except DiscoveryError Discovery := do
  let seeds ← (buildSeeds acceptsNetloc facts).mapError .reading
  let gathered := gatherAll budgets seeds
  let pageStore ← (withMetadata acceptsNetloc facts (pagesOf gathered)).mapError .reading
  let navigationTargets ← (serializeNavigationTargets gathered.registry).mapError .recording
  return { extraction := toExtraction facts gathered pageStore
           navigationTargets := navigationTargets }

end Extract

end PageDiscovery

end Runlet
