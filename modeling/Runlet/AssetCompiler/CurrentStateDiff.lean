import Runlet.AssetCompiler.Elements

/-!
# Comparing two states of a system

`asset_compiler/current_state_diff.py`: a page is reduced to its route, its title, the labels of
its menus and the set of its key elements, and two states differ in the routes that were added,
deleted or changed.  Indexing a state by route fails on a page without a route and on two pages
with one route.
-/

namespace Runlet

open AssetCompiler (normalizeText)

/-- A key element after cleaning. -/
structure KeyElementDescriptor where
  kind : String
  role : String
  text : String
  deriving DecidableEq

/-- The order of the dataclass: by `kind`, then `role`, then `text`. -/
def KeyElementDescriptor.sortKey (d : KeyElementDescriptor) : List String :=
  [d.kind, d.role, d.text]

structure PageSemanticFingerprint where
  routePath : String
  pageTitle : String
  menuChain : List String
  keyElements : List KeyElementDescriptor
  deriving DecidableEq

structure SemanticStateDiff where
  addedRoutes : List String
  deletedRoutes : List String
  changedRoutes : List String
  deriving DecidableEq

def SemanticStateDiff.hasChanges (d : SemanticStateDiff) : Bool :=
  !d.addedRoutes.isEmpty || !d.deletedRoutes.isEmpty || !d.changedRoutes.isEmpty

namespace CurrentStateDiff

/-- A descriptor after cleaning, unless all three columns are empty. -/
def buildKeyElementDescriptor (kind role text : Option String) : Option KeyElementDescriptor :=
  let d : KeyElementDescriptor := ⟨normalizeText kind, normalizeText role, normalizeText text⟩
  if d.kind = "" ∧ d.role = "" ∧ d.text = "" then none else some d

/-- `tuple(sorted(seen))`. -/
def normalizeKeyElements (descriptors : List KeyElementDescriptor) : List KeyElementDescriptor :=
  descriptors.eraseDups.insertionSort fun a b => a.sortKey ≤ b.sortKey

/-- The constructor of a fingerprint. -/
def buildFingerprint (routePath : String) (pageTitle : Option String) (menuChain : List String)
    (keyElements : List (Option String × Option String × Option String)) :
    PageSemanticFingerprint where
  routePath := Text.strip routePath
  pageTitle := normalizeText pageTitle
  menuChain := (menuChain.map Text.strip).filter fun label => label ≠ ""
  keyElements := normalizeKeyElements
    (keyElements.filterMap fun e => buildKeyElementDescriptor e.1 e.2.1 e.2.2)

/-- `_index_by_route`: the fingerprints again, when their routes can serve as an index. -/
def indexByRoute : List PageSemanticFingerprint → List PageSemanticFingerprint →
    Except String (List PageSemanticFingerprint)
  | index, [] => .ok index
  | index, fingerprint :: rest =>
    if fingerprint.routePath = "" then
      .error "route_path must be non-empty for all fingerprints"
    else if index.any fun seen => seen.routePath = fingerprint.routePath then
      .error s!"duplicate fingerprint for route_path {fingerprint.routePath}"
    else indexByRoute (index ++ [fingerprint]) rest

/-- The fingerprint indexed under a route. -/
def lookup (index : List PageSemanticFingerprint) (routePath : String) :
    Option PageSemanticFingerprint :=
  index.find? fun fingerprint => fingerprint.routePath = routePath

def compareSemanticStates (active draft : List PageSemanticFingerprint) :
    Except String SemanticStateDiff := do
  let activeByRoute ← indexByRoute [] active
  let draftByRoute ← indexByRoute [] draft
  pure
    { addedRoutes := (draftByRoute.map (·.routePath)).filter fun route =>
        (lookup activeByRoute route).isNone
      deletedRoutes := (activeByRoute.map (·.routePath)).filter fun route =>
        (lookup draftByRoute route).isNone
      changedRoutes := (activeByRoute.map (·.routePath)).filter fun route =>
        (lookup draftByRoute route).isSome &&
          lookup activeByRoute route ≠ lookup draftByRoute route }

end CurrentStateDiff

end Runlet
