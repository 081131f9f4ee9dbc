import Runlet.Infrastructure.Crawl
import Mathlib.Data.Prod.Lex

/-!
# Navigation aliases

`asset_compiler/navigation_aliases.py` and the topology functions of `asset_compiler/service.py`:
the menus of a page together with their ancestors, the chain of labels that leads to the page when
the menus agree on one, and the names under which the page can be found.

The walks up the parent links carry the nodes already visited; the fuel they recurse on is the
number of menus, and a walk never visits a node twice.
-/

namespace Runlet

structure NavigationAliasDraft where
  aliasType : String
  aliasText : String
  leafText : Option String
  displayChain : Option String
  chainComplete : Bool
  deriving DecidableEq

namespace NavigationAliases

/-- `{menu.id: menu for menu in menus}.get(id)`. -/
def menuById (menus : List MenuNode) (id : UUID) : Option MenuNode :=
  menus.reverse.find? fun menu => menu.id = id

/-! ## The topology of a page -/

/-- The menu and its ancestors, from the menu upwards, up to the first repetition. -/
def menuLineage (menus : List MenuNode) : ℕ → List UUID → MenuNode → List MenuNode
  | 0, _, _ => []
  | fuel + 1, visited, current =>
    if current.id ∈ visited then []
    else
      current ::
        match current.parentId with
        | none => []
        | some parentId =>
          match menuById menus parentId with
          | none => []
          | some parent => menuLineage menus fuel (current.id :: visited) parent

def appendMenuWithAncestors (menus : List MenuNode) (topology : List MenuNode) (menu : MenuNode) :
    List MenuNode :=
  (menuLineage menus (menus.length + 1) [] menu).reverse.foldl
    (fun topology node =>
      if topology.any fun seen => seen.id = node.id then topology else topology ++ [node])
    topology

def buildNavigationMenuTopology (pageId : UUID) (menus : List MenuNode) : List MenuNode :=
  (menus.filter fun menu => menu.pageId = some pageId).foldl (appendMenuWithAncestors menus) []

/-! ## The chain of a page -/

/-- The walk from a candidate to its root: the lineage from the root down, or `none` when a parent
is missing or repeats. -/
def candidateLineage (nodes : List MenuNode) :
    ℕ → List UUID → MenuNode → List MenuNode → Option (List MenuNode)
  | 0, _, _, _ => none
  | fuel + 1, visited, current, lineage =>
    match current.parentId with
    | none => some lineage
    | some parentId =>
      match menuById nodes parentId with
      | none => none
      | some parent =>
        if parent.id ∈ visited then none
        else candidateLineage nodes fuel (parent.id :: visited) parent (parent :: lineage)

/-- Every depth is one more than the one before. -/
def depthContinuous : List MenuNode → Bool
  | parent :: child :: rest =>
    child.depth = parent.depth + 1 && depthContinuous (child :: rest)
  | _ => true

def startsFromRoot : List MenuNode → Bool
  | [] => false
  | root :: _ => root.depth = 0

/-- The chain of a candidate and whether it is complete; the leaf alone when it is not. -/
def deriveChainForCandidate (candidate : MenuNode) (nodes : List MenuNode) :
    List String × Bool :=
  match candidateLineage nodes (nodes.length + 1) [candidate.id] candidate [candidate] with
  | none => ([Text.strip candidate.label], false)
  | some lineage =>
    if startsFromRoot lineage && depthContinuous lineage then
      (lineage.map fun node => Text.strip node.label, true)
    else ([Text.strip candidate.label], false)

def routeMatches (nodeRoutePath : Option String) (targetRoutePath : String) : Bool :=
  nodeRoutePath.getD "" ≠ "" && nodeRoutePath.getD "" = targetRoutePath

def candidateKey (routePath : String) (node : MenuNode) : ℕ ×ₗ Int ×ₗ Int ×ₗ String ×ₗ UUID :=
  toLex (if routeMatches node.routePath routePath then 0 else 1,
    toLex (-node.depth, toLex (node.sortOrder, toLex (Text.strip node.label, node.id))))

/-- The menus with a label. -/
def labeledNodes (menus : List MenuNode) : List MenuNode :=
  menus.filter fun node => Text.strip node.label ≠ ""

def leafCandidates (nodes : List MenuNode) : List MenuNode :=
  let leaves := nodes.filter fun node => !nodes.any fun child => child.parentId = some node.id
  if leaves.isEmpty then nodes else leaves

def deriveMenuChain (menus : List MenuNode) (routePath : String) : List String × Bool :=
  let nodes := labeledNodes menus
  if nodes.isEmpty then ([], false)
  else
    let matching := nodes.filter fun node => routeMatches node.routePath routePath
    let leaves := leafCandidates nodes
    let routeSignatures := ((matching.map fun node => deriveChainForCandidate node nodes).filter
      fun chain => !chain.1.isEmpty).eraseDups
    let leafSignatures := ((leaves.map fun node =>
      (Text.strip node.label, deriveChainForCandidate node nodes)).filter
        fun entry => !entry.2.1.isEmpty).eraseDups
    if matching ≠ [] ∧ 1 < routeSignatures.length then ([], false)
    else if matching = [] ∧ 1 < leafSignatures.length then ([], false)
    else
      let pool := if matching = [] then leaves else matching
      let ordered := pool.insertionSort fun a b =>
        candidateKey routePath a ≤ candidateKey routePath b
      ((ordered.map fun node => deriveChainForCandidate node nodes).find?
        fun chain => !chain.1.isEmpty).getD ([], false)

def formatChain (chain : List String) : Option String :=
  if chain.isEmpty then none else some (Text.joinWith " -> " chain)

def buildNavigationAliases (pageTitle : Option String) (routePath : String)
    (menuTopology : List MenuNode) : List NavigationAliasDraft :=
  let (chain, complete) := deriveMenuChain menuTopology routePath
  let title := match pageTitle with
    | some t =>
      if t = "" then []
      else [(⟨"page_title", t, chain.getLast?, formatChain chain, complete⟩ : NavigationAliasDraft)]
    | none => []
  let leaf := match chain.getLast? with
    | some l => [(⟨"menu_leaf", l, some l, formatChain chain, complete⟩ : NavigationAliasDraft)]
    | none => []
  let full := match formatChain chain with
    | some text =>
      if complete && text ≠ "" then
        [(⟨"menu_chain", text, chain.getLast?, some text, true⟩ : NavigationAliasDraft)]
      else []
    | none => []
  (title ++ leaf ++ full).eraseDups

end NavigationAliases

end Runlet
