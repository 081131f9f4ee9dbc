import Runlet.Library.Json
import Runlet.Library.Dict
import Mathlib.Data.Prod.Lex

/-!
# Navigation targets and their registry

`crawler_service/navigation_targets.py`: what a crawl may visit or press.  A target is cleaned when
it is built; two targets with the same `dedupeKey` are one, and a registry takes targets as long as
none of its four budgets is spent.  The registry refers to the targets it took by their place in
its list, so that a merge is seen by all who hold one.
-/

namespace Runlet

open Dict (Entries)

namespace NavigationTargets

/-! ## Cleaning -/

/-- `_normalize_text`. -/
def normalizeText : Json → Option String
  | .str s => if Text.strip s = "" then none else some (Text.strip s)
  | _ => none

/-- `_normalize_route`. -/
def normalizeRoute : Json → Option String
  | .str s =>
    let route := Text.strip s
    if route = "" || !Text.startsWith "/" route then none
    else
      let normalized := Text.rstripChar '/' (Text.before '#' (Text.before '?' route))
      if normalized = "" then some "/" else some normalized
  | _ => none

/-- The entries of an object; no other value has entries. -/
def entries : Json → List (String × Json)
  | .obj l => l
  | _ => []

/-- What a state context keeps of a value: text that is not empty, numbers and truth values. -/
def stateValue : Json → Option Json
  | .str s => if Text.strip s = "" then none else some (.str (Text.strip s))
  | .int n => some (.int n)
  | .float literal value => some (.float literal value)
  | .bool b => some (.bool b)
  | _ => none

/-- `_normalize_state_context`. -/
def normalizeStateContext (value : Json) : List (String × Json) :=
  (entries value).foldl (fun context e =>
    match normalizeText (.str e.1), stateValue e.2 with
    | some key, some v => Json.put context key v
    | _, _ => context) []

/-- Strategy and selector of a candidate, when both are there. -/
def normalizeLocator (candidate : Json) : Option Json :=
  match candidate with
  | .obj _ =>
    (normalizeText ((candidate.get? "strategy_type").getD .null)).bind fun strategyType =>
      (normalizeText ((candidate.get? "selector").getD .null)).map fun selector =>
        .obj [("strategy_type", .str strategyType), ("selector", .str selector)]
  | _ => none

/-- Each candidate once, compared by its text. -/
def dedupeSerialized (items : List Json) : List Json :=
  items.foldl (fun seen item =>
    if seen.any fun s => Json.dumpsSpaced false s = Json.dumpsSpaced false item then seen
    else seen ++ [item]) []

/-- `_normalize_locator_candidates`. -/
def normalizeLocatorCandidates (value : Json) : List Json :=
  dedupeSerialized (value.items.filterMap normalizeLocator)

/-- What a list of the metadata keeps. -/
def isMetadataItem : Json → Bool
  | .null => false
  | .arr _ => false
  | _ => true

mutual

/-- `_normalize_metadata`, the loop over the entries. -/
def normalizeMetadataEntries :
    List (String × Json) → List (String × Json) → List (String × Json)
  | metadata, [] => metadata
  | metadata, (key, value) :: l =>
    normalizeMetadataEntries
      (match normalizeText (.str key), normalizeMetadataValue value with
      | some k, some v => Json.put metadata k v
      | _, _ => metadata) l

/-- What the metadata keeps of a value. -/
def normalizeMetadataValue : Json → Option Json
  | .null => none
  | .bool b => some (.bool b)
  | .int n => some (.int n)
  | .float literal value => some (.float literal value)
  | .str s => if Text.strip s = "" then none else some (.str (Text.strip s))
  | .arr l => if (l.filter isMetadataItem).isEmpty then none else some (.arr (l.filter isMetadataItem))
  | .obj l =>
    let nested := normalizeMetadataEntries [] l
    if nested.isEmpty then none else some (.obj nested)

end

/-- `_normalize_metadata`. -/
def normalizeMetadata (value : Json) : List (String × Json) :=
  normalizeMetadataEntries [] (entries value)

/-- `existing in (None, "", [], {})`. -/
def isBlank : Option Json → Bool
  | none => true
  | some .null => true
  | some (.str s) => s = ""
  | some (.arr l) => l.isEmpty
  | some (.obj l) => l.isEmpty
  | _ => false

mutual

/-- `_merge_metadata`. -/
def mergeMetadata : List (String × Json) → List (String × Json) → List (String × Json)
  | merged, [] => merged
  | merged, (key, value) :: l =>
    mergeMetadata (Json.put merged key (mergeMetadataValue ((Json.obj merged).get? key) value)) l

/-- The value under a key after a merge: objects are merged, lists are joined, and any other value
stays unless it is blank. -/
def mergeMetadataValue (existing : Option Json) : Json → Json
  | .obj l =>
    match existing with
    | some (.obj l₀) => .obj (mergeMetadata l₀ l)
    | some v => if isBlank (some v) then .obj l else v
    | none => .obj l
  | .arr l =>
    match existing with
    | some (.arr l₀) => .arr (dedupeSerialized (l₀ ++ l))
    | some v => if isBlank (some v) then .arr l else v
    | none => .arr l
  | .null => if isBlank existing then .null else existing.getD .null
  | .bool b => if isBlank existing then .bool b else existing.getD .null
  | .int n => if isBlank existing then .int n else existing.getD .null
  | .float literal value =>
    if isBlank existing then .float literal value else existing.getD .null
  | .str s => if isBlank existing then .str s else existing.getD .null

end

/-- `_DISCOVERY_SOURCE_PRIORITY`. -/
def discoverySourcePriority : Entries String ℕ :=
  [("runtime_route_hints", 0), ("dom_menu_tree", 1), ("network_route_config", 2),
    ("network_resource", 3), ("network_request", 4), ("reachability_probe", 5)]

/-- `_DISCOVERY_SOURCE_PRIORITY.get(source, 100)`. -/
def sourcePriority (source : String) : ℕ :=
  (discoverySourcePriority.get? source).getD 100

/-- `_prefer_discovery_source`. -/
def preferDiscoverySource : Option String → Option String → Option String
  | none, incoming => incoming
  | some existing, none => some existing
  | some existing, some incoming =>
    if sourcePriority incoming < sourcePriority existing then some incoming
    else if sourcePriority existing < sourcePriority incoming then some existing
    else some (min existing incoming)

end NavigationTargets

open NavigationTargets

/-! ## Targets -/

structure NavigationTarget where
  targetKind : String
  routeHint : Option String
  locatorCandidates : List Json := []
  stateContext : List (String × Json) := []
  parentTargetKey : Option String := none
  discoverySource : Option String := none
  safetyLevel : String := "readonly"
  materializationStatus : String := "discovered"
  rejectionReason : Option String := none
  rejectionDetail : Option String := none
  metadata : List (String × Json) := []

/-- The arguments of a target, before they are cleaned. -/
structure NavigationTargetFields where
  targetKind : Json
  routeHint : Json
  locatorCandidates : Json := .arr []
  stateContext : Json := .obj []
  parentTargetKey : Json := .null
  discoverySource : Json := .null
  safetyLevel : Json := .str "readonly"
  materializationStatus : Json := .str "discovered"
  rejectionReason : Json := .null
  rejectionDetail : Json := .null
  metadata : Json := .obj []

namespace NavigationTarget

/-- `__post_init__`. -/
def ofFields (fields : NavigationTargetFields) : NavigationTarget where
  targetKind := (normalizeText fields.targetKind).getD "unknown"
  routeHint := normalizeRoute fields.routeHint
  locatorCandidates := normalizeLocatorCandidates fields.locatorCandidates
  stateContext := normalizeStateContext fields.stateContext
  parentTargetKey := normalizeText fields.parentTargetKey
  discoverySource := normalizeText fields.discoverySource
  safetyLevel := (normalizeText fields.safetyLevel).getD "readonly"
  materializationStatus := (normalizeText fields.materializationStatus).getD "discovered"
  rejectionReason := normalizeText fields.rejectionReason
  rejectionDetail := normalizeText fields.rejectionDetail
  metadata := normalizeMetadata fields.metadata

/-- `null` for a text that is missing. -/
def optionJson (text : Option String) : Json :=
  (text.map Json.str).getD .null

def dedupeKey (target : NavigationTarget) : String :=
  Json.dumpsSpaced false (.obj
    [("target_kind", .str target.targetKind), ("route_hint", optionJson target.routeHint),
      ("state_context", .obj target.stateContext),
      ("parent_target_key", optionJson target.parentTargetKey)])

def targetKey (target : NavigationTarget) : String :=
  match target.routeHint with
  | some route =>
    if target.targetKind = "page_route" then "page:" ++ route else target.dedupeKey
  | none => target.dedupeKey

/-- A new status, with the reason and the detail of a refusal. -/
def mark (target : NavigationTarget) (status : String) (reason detail : Option String) :
    NavigationTarget :=
  { target with
    materializationStatus := status
    rejectionReason := reason
    rejectionDetail := detail }

def markQueued (target : NavigationTarget) : NavigationTarget :=
  target.mark "queued" none none

def markApplied (target : NavigationTarget) : NavigationTarget :=
  target.mark "applied" none none

def markDuplicate (target : NavigationTarget) : NavigationTarget :=
  target.mark "duplicate" (some "duplicate_target") none

def markBlocked (target : NavigationTarget) (reason : String) : NavigationTarget :=
  target.mark "blocked" (some reason) none

def markNotApplied (target : NavigationTarget) (reason : String) (detail : Json) :
    NavigationTarget :=
  target.mark "not_applied" (some reason) (normalizeText detail)

def mergeFrom (target other : NavigationTarget) : NavigationTarget :=
  { target with
    locatorCandidates :=
      normalizeLocatorCandidates (.arr (target.locatorCandidates ++ other.locatorCandidates))
    discoverySource := preferDiscoverySource target.discoverySource other.discoverySource
    metadata := mergeMetadata target.metadata other.metadata }

@[simp] theorem dedupeKey_mark (target : NavigationTarget) (status : String)
    (reason detail : Option String) : (target.mark status reason detail).dedupeKey =
      target.dedupeKey := rfl

@[simp] theorem dedupeKey_mergeFrom (target other : NavigationTarget) :
    (target.mergeFrom other).dedupeKey = target.dedupeKey := rfl

end NavigationTarget

/-! ## The registry -/

structure NavigationTargetDecision where
  accepted : Bool
  target : NavigationTarget
  reason : Option String := none

structure NavigationTargetRegistry where
  maxTotalTargets : ℕ
  maxTargetsPerRoute : ℕ
  maxTargetsPerKind : ℕ
  maxChildrenPerParent : ℕ
  targets : List NavigationTarget := []
  rejectedTargets : List NavigationTarget := []
  targetsByKey : Entries String ℕ := []
  targetsByRoute : Entries String ℕ := []
  targetsByKind : Entries String ℕ := []
  targetsByParent : Entries String ℕ := []

namespace NavigationTargetRegistry

/-- An empty registry; every budget is at least one. -/
def new (maxTotalTargets maxTargetsPerRoute maxTargetsPerKind maxChildrenPerParent : Int) :
    NavigationTargetRegistry where
  maxTotalTargets := (max 1 maxTotalTargets).toNat
  maxTargetsPerRoute := (max 1 maxTargetsPerRoute).toNat
  maxTargetsPerKind := (max 1 maxTargetsPerKind).toNat
  maxChildrenPerParent := (max 1 maxChildrenPerParent).toNat

/-- `counts.get(key, 0)`. -/
def countOf (counts : Entries String ℕ) (key : String) : ℕ :=
  (counts.get? key).getD 0

/-- `counts[key] = counts.get(key, 0) + 1`, unless the key is missing. -/
def bump (counts : Entries String ℕ) : Option String → Entries String ℕ
  | none => counts
  | some key => counts.set key (countOf counts key + 1)

def budgetRejectionReason (registry : NavigationTargetRegistry) (target : NavigationTarget) :
    Option String :=
  if registry.maxTotalTargets ≤ registry.targets.length then some "total_budget_exhausted"
  else if target.routeHint.any fun route =>
      registry.maxTargetsPerRoute ≤ countOf registry.targetsByRoute route then
    some "route_budget_exhausted"
  else if registry.maxTargetsPerKind ≤ countOf registry.targetsByKind target.targetKind then
    some "kind_budget_exhausted"
  else if target.parentTargetKey.any fun parent =>
      registry.maxChildrenPerParent ≤ countOf registry.targetsByParent parent then
    some "parent_budget_exhausted"
  else none

/-- The registry with one more refused target. -/
def refuse (registry : NavigationTargetRegistry) (target : NavigationTarget) :
    NavigationTargetRegistry :=
  { registry with rejectedTargets := registry.rejectedTargets ++ [target] }

/-- The registry with one more target. -/
def accept (registry : NavigationTargetRegistry) (target : NavigationTarget) :
    NavigationTargetRegistry :=
  { registry with
    targets := registry.targets ++ [target]
    targetsByKey := registry.targetsByKey.set target.dedupeKey registry.targets.length
    targetsByRoute := bump registry.targetsByRoute target.routeHint
    targetsByKind := bump registry.targetsByKind (some target.targetKind)
    targetsByParent := bump registry.targetsByParent target.parentTargetKey }

/-- The registry after the target at a place took over what a duplicate brings. -/
def merge (registry : NavigationTargetRegistry) (place : ℕ) (target : NavigationTarget) :
    NavigationTargetRegistry :=
  { registry with targets := registry.targets.modify place fun existing => existing.mergeFrom target }

def add (registry : NavigationTargetRegistry) (target : NavigationTarget) :
    NavigationTargetRegistry × NavigationTargetDecision :=
  match registry.targetsByKey.get? target.dedupeKey with
  | some place =>
    ((registry.merge place target).refuse target.markDuplicate,
      { accepted := false, target := target.markDuplicate, reason := some "duplicate_target" })
  | none =>
    match registry.budgetRejectionReason target with
    | some reason =>
      (registry.refuse (target.markBlocked reason),
        { accepted := false, target := target.markBlocked reason, reason := some reason })
    | none =>
      (registry.accept target.markQueued, { accepted := true, target := target.markQueued })

/-- One `add` after the other, and the decisions in order. -/
def addAll : NavigationTargetRegistry → List NavigationTarget →
    NavigationTargetRegistry × List NavigationTargetDecision
  | registry, [] => (registry, [])
  | registry, target :: targets =>
    let (registry, decision) := registry.add target
    let (registry, decisions) := addAll registry targets
    (registry, decision :: decisions)

end NavigationTargetRegistry

end Runlet
