import Runlet.CrawlerService.Extractors.DomMenu
import Runlet.Library.KeyedMerge

/-!
# Merging menus

`merge_menu_skeleton_and_materialized_nodes` of `dom_menu.py`: the items of the skeleton and those
that expanding the menus brought up become one list, with one node for each identity.  An item
without a label is dropped.

The merge raises where `int` does (`merges_iff`).  The scripts that build the items of a page write
numbers as numbers, and of such items the merge loses nothing (`merge_loses_nothing`).
-/

namespace Runlet

namespace DomMenu

open CrawlerService (IsRefused exists_wholeNumber_iff)
open Attempt (exists_bind_eq_ok_iff)
open KeyedMerge (Indexed lastKnown)

/-! ## Nodes -/

/-- `_menu_identity_fields`. -/
structure MenuIdentity where
  label : String
  parentLabel : Option String
  depth : Int
  role : Option String
  ariaLabel : Option String
  siblingIndex : Option Int
  deriving DecidableEq

structure MenuNode where
  label : String
  routePath : Option String
  pageRoutePath : Option String
  depth : Int
  order : Int
  role : Option String
  ariaLabel : Option String
  siblingIndex : Option Int
  parentLabel : Option String
  entryType : Option String
  ariaExpanded : Option String
  navigationIdentity : Option Json
  parentNavigationIdentity : Option Json

def MenuNode.identity (node : MenuNode) : MenuIdentity where
  label := node.label
  parentLabel := node.parentLabel
  depth := node.depth
  role := node.role
  ariaLabel := node.ariaLabel
  siblingIndex := node.siblingIndex

section Item

variable (item : MenuItem)

def roleOf : Option String :=
  cleanText (item.get? "role")

def ariaLabelOf : Option String :=
  cleanText (item.get? "aria_label")

def parentLabelOf : Option String :=
  cleanText (Json.orElse (item.get? "parent_label")
    (Json.orElse (item.get? "materialized_parent_label") (item.get? "parent")))

def routePathOf : Option String :=
  normalizePath (Json.orElse (item.get? "route_path") (item.get? "path"))

def pageRoutePathOf : Option String :=
  normalizePath (Json.orElse (item.get? "page_route_path") (item.get? "route_path"))

/-- The identity an item has when it carries none itself. -/
def fallbackIdentity (label : String) (depth : Int) (siblingIndex : Option Int) : Json :=
  .obj [("label", .str label), ("depth", .int depth),
    ("role", ((roleOf item).map Json.str).getD .null),
    ("aria_label", ((ariaLabelOf item).map Json.str).getD .null),
    ("sibling_index", (siblingIndex.map Json.int).getD .null)]

/-- `_normalize_menu_node`. -/
def normalizeMenuNode : Except String (Option MenuNode) :=
  match labelOf (.obj item) with
  | none => .ok none
  | some label => do
    let siblingIndex ← toOptionalInt (item.get? "sibling_index")
    let depth ← toIntValue (item.get? "depth")
    let order ← toIntValue (Json.orElse (item.get? "order") (item.get? "sort_order"))
    let navigationIdentity ← normalizeNavigationIdentityValue (item.get? "navigation_identity")
      (some (fallbackIdentity item label depth siblingIndex))
    let parentNavigationIdentity ← normalizeNavigationIdentityValue
      (Json.orElse (item.get? "parent_navigation_identity")
        (item.get? "materialized_parent_identity")) none
    return some
      { label := label
        routePath := routePathOf item
        pageRoutePath := pageRoutePathOf item
        depth := depth
        order := order
        role := roleOf item
        ariaLabel := ariaLabelOf item
        siblingIndex := siblingIndex
        parentLabel := parentLabelOf item
        entryType :=
          normalizeEntryType (Json.orElse (item.get? "entry_type") (item.get? "interaction_type"))
        ariaExpanded := cleanText (item.get? "aria_expanded")
        navigationIdentity := navigationIdentity
        parentNavigationIdentity := parentNavigationIdentity }

end Item

/-! ## The merge -/

/-- `_prefer_menu_route_fact`. -/
def preferMenuRouteFact (existingValue incomingValue : Option String) : Option String :=
  let existing := normalizePath (existingValue.map .str)
  let incoming := normalizePath (incomingValue.map .str)
  if incoming = none then existing
  else if existing = none then incoming
  else if existing ≠ incoming then incoming
  else existing

/-- The node there is, with what another node of its identity knows. -/
def mergeMenuNode (existing normalized : MenuNode) : MenuNode :=
  { existing with
    role := existing.role.or normalized.role
    ariaLabel := existing.ariaLabel.or normalized.ariaLabel
    entryType := existing.entryType.or normalized.entryType
    ariaExpanded := existing.ariaExpanded.or normalized.ariaExpanded
    routePath := preferMenuRouteFact existing.routePath normalized.routePath
    pageRoutePath := preferMenuRouteFact existing.pageRoutePath normalized.pageRoutePath
    parentLabel := existing.parentLabel.or normalized.parentLabel
    navigationIdentity := existing.navigationIdentity.or normalized.navigationIdentity
    parentNavigationIdentity :=
      existing.parentNavigationIdentity.or normalized.parentNavigationIdentity }

/-- One turn of the loop; a node always has an order, so none is given to it here. -/
def addMenuItem (merged : Indexed MenuIdentity MenuNode) (rawItem : MenuItem) :
    Except String (Indexed MenuIdentity MenuNode) :=
  (normalizeMenuNode rawItem).map fun normalized =>
    normalized.elim merged (merged.add MenuNode.identity mergeMenuNode)

def mergeMenuSkeletonAndMaterializedNodes (skeleton materialized : List MenuItem) :
    Except String (List MenuNode) :=
  ((skeleton ++ materialized).foldlM addMenuItem {}).map Indexed.items

/-! ## Numbers that are read -/

theorem exists_toOptionalInt_iff {value : Option Json} :
    (∃ n, toOptionalInt value = .ok n) ↔ ¬ IsRefused value :=
  exists_wholeNumber_iff

theorem exists_toIntValue_iff {value : Option Json} :
    (∃ n, toIntValue value = .ok n) ↔ ¬ IsRefused value := by
  rw [← exists_toOptionalInt_iff, toIntValue]
  cases toOptionalInt value with
  | ok n => exact ⟨fun _ => ⟨n, rfl⟩, fun _ => ⟨n.getD 0, rfl⟩⟩
  | error e => exact ⟨fun h => (nomatch h), fun h => (nomatch h)⟩

/-- The numbers of a navigation identity. -/
def identityNumbers : Option Json → List (Option Json)
  | some (.obj entries) =>
    if cleanText (MenuItem.get? entries "label") = none then []
    else [MenuItem.get? entries "depth", MenuItem.get? entries "sibling_index"]
  | _ => []

/-- The numbers that are read from an item with a label. -/
def numbersOf (item : MenuItem) : List (Option Json) :=
  if labelOf (.obj item) = none then []
  else
    [item.get? "sibling_index", item.get? "depth",
      Json.orElse (item.get? "order") (item.get? "sort_order")] ++
    identityNumbers (item.get? "navigation_identity") ++
    identityNumbers (Json.orElse (item.get? "parent_navigation_identity")
      (item.get? "materialized_parent_identity"))

theorem exists_normalizeNavigationIdentityValue_iff {value fallback : Option Json} :
    (∃ r, normalizeNavigationIdentityValue value fallback = .ok r) ↔
      ∀ v ∈ identityNumbers (rawIdentity value fallback), ¬ IsRefused v := by
  unfold normalizeNavigationIdentityValue
  split
  next entries heq =>
    rw [heq, identityNumbers]
    cases hlabel : cleanText (MenuItem.get? entries "label") with
    | none => exact ⟨fun _ v hv => absurd hv (by simp), fun _ => ⟨none, rfl⟩⟩
    | some label =>
      rw [if_neg (by simp)]
      constructor
      · intro h
        obtain ⟨depth, hdepth, h⟩ := exists_bind_eq_ok_iff.mp h
        obtain ⟨siblingIndex, hsibling, -⟩ := exists_bind_eq_ok_iff.mp h
        simp only [List.forall_mem_cons]
        exact ⟨exists_toIntValue_iff.mp ⟨depth, hdepth⟩,
          exists_toOptionalInt_iff.mp ⟨siblingIndex, hsibling⟩, fun v hv => by simp at hv⟩
      · intro h
        simp only [List.forall_mem_cons] at h
        obtain ⟨depth, hdepth⟩ := exists_toIntValue_iff.mpr h.1
        obtain ⟨siblingIndex, hsibling⟩ := exists_toOptionalInt_iff.mpr h.2.1
        dsimp only
        rw [hdepth, hsibling]
        exact ⟨_, rfl⟩
  next hne =>
    have hnone : identityNumbers (rawIdentity value fallback) = [] := by
      unfold identityNumbers
      split
      next entries heq => exact absurd heq (hne entries)
      next => rfl
    rw [hnone]
    exact ⟨fun _ v hv => absurd hv List.not_mem_nil, fun _ => ⟨none, rfl⟩⟩

theorem exists_parentIdentity_iff {value : Option Json} :
    (∃ r, normalizeNavigationIdentityValue value none = .ok r) ↔
      ∀ v ∈ identityNumbers value, ¬ IsRefused v := by
  rw [exists_normalizeNavigationIdentityValue_iff]
  unfold rawIdentity
  split
  next => exact Iff.rfl
  next hne =>
    unfold identityNumbers
    exact ⟨fun _ v hv => absurd hv (by simp), fun _ v hv => absurd hv List.not_mem_nil⟩

/-- The fallback is built from numbers, so it is never what `int` refuses. -/
theorem exists_ownIdentity_iff (value : Option Json) (item : MenuItem) (label : String)
    (depth : Int) (siblingIndex : Option Int) :
    (∃ r, normalizeNavigationIdentityValue value
      (some (fallbackIdentity item label depth siblingIndex)) = .ok r) ↔
      ∀ v ∈ identityNumbers value, ¬ IsRefused v := by
  rw [exists_normalizeNavigationIdentityValue_iff]
  unfold rawIdentity
  split
  next => exact Iff.rfl
  next hne =>
    have hvalue : identityNumbers value = [] := by
      unfold identityNumbers
      split
      next entries => exact absurd rfl (hne entries)
      next => rfl
    rw [hvalue]
    refine ⟨fun _ v hv => absurd hv List.not_mem_nil, fun _ v hv => ?_⟩
    have hv : v = some (.int depth) ∨ v = some ((siblingIndex.map Json.int).getD .null) := by
      unfold identityNumbers fallbackIdentity at hv
      dsimp only at hv
      split at hv
      · cases hv
      · exact List.mem_pair.mp hv
    rcases hv with rfl | rfl
    · exact not_false
    · cases siblingIndex <;> exact not_false

/-! ## What an item says -/

/-- A number, where there is one. -/
def numberOf (value : Option Json) : Option Int :=
  (toOptionalInt value).toOption.join

/-- The identity of a valid item. -/
def identityOf (item : MenuItem) : Option MenuIdentity :=
  (labelOf (.obj item)).map fun label =>
    { label := label
      parentLabel := parentLabelOf item
      depth := (numberOf (item.get? "depth")).getD 0
      role := roleOf item
      ariaLabel := ariaLabelOf item
      siblingIndex := numberOf (item.get? "sibling_index") }

theorem numberOf_eq {value : Option Json} {n : Option Int} (h : toOptionalInt value = .ok n) :
    numberOf value = n := by
  rw [numberOf, h]
  rfl

theorem numberOf_getD {value : Option Json} {n : Int} (h : toIntValue value = .ok n) :
    (numberOf value).getD 0 = n := by
  unfold toIntValue at h
  cases hvalue : toOptionalInt value with
  | ok m =>
    rw [hvalue] at h
    rw [numberOf_eq hvalue]
    exact Except.ok.inj h
  | error e => rw [hvalue] at h; cases h

/-- What a node has of an item. -/
structure NodeOf (item : MenuItem) (node : Option MenuNode) : Prop where
  identity : node.map MenuNode.identity = identityOf item
  routePath : ∀ n ∈ node, n.routePath = routePathOf item
  pageRoutePath : ∀ n ∈ node, n.pageRoutePath = pageRoutePathOf item

theorem normalizeMenuNode_of_readable {item : MenuItem}
    (h : ∀ v ∈ numbersOf item, ¬ IsRefused v) :
    ∃ node, normalizeMenuNode item = .ok node ∧ NodeOf item node := by
  cases hlabel : labelOf (.obj item) with
  | none =>
    have hidentity : identityOf item = none := by rw [identityOf, hlabel]; rfl
    refine ⟨none, by rw [normalizeMenuNode, hlabel], hidentity.symm, ?_, ?_⟩
    · exact fun n hn => (nomatch hn)
    · exact fun n hn => (nomatch hn)
  | some label =>
    rw [numbersOf, if_neg (by rw [hlabel]; exact Option.some_ne_none label)] at h
    simp only [List.forall_mem_append, List.forall_mem_cons] at h
    obtain ⟨⟨⟨hsibling, hdepth, horder, -⟩, hown⟩, hparent⟩ := h
    obtain ⟨siblingIndex, hsibling⟩ := exists_toOptionalInt_iff.mpr hsibling
    obtain ⟨depth, hdepth⟩ := exists_toIntValue_iff.mpr hdepth
    obtain ⟨order, horder⟩ := exists_toIntValue_iff.mpr horder
    obtain ⟨own, hown⟩ :=
      (exists_ownIdentity_iff _ item label depth siblingIndex).mpr hown
    obtain ⟨parent, hparent⟩ := exists_parentIdentity_iff.mpr hparent
    unfold normalizeMenuNode
    rw [hlabel]
    dsimp only
    rw [hsibling, hdepth, horder]
    dsimp only [bind, Except.bind]
    rw [hown, hparent]
    refine ⟨_, rfl, ?_, ?_, ?_⟩
    · rw [identityOf, hlabel, numberOf_eq hsibling, numberOf_getD hdepth]
      rfl
    · rintro n ⟨⟩
      rfl
    · rintro n ⟨⟩
      rfl

/-- A number that `int` refuses makes the item fail. -/
theorem readable_of_normalizeMenuNode {item : MenuItem} {node : Option MenuNode}
    (h : normalizeMenuNode item = .ok node) : ∀ v ∈ numbersOf item, ¬ IsRefused v := by
  unfold normalizeMenuNode at h
  unfold numbersOf
  cases hlabel : labelOf (.obj item) with
  | none => exact fun v hv => absurd hv (by simp)
  | some label =>
    rw [hlabel] at h
    obtain ⟨siblingIndex, hsibling, h⟩ := exists_bind_eq_ok_iff.mp ⟨node, h⟩
    obtain ⟨depth, hdepth, h⟩ := exists_bind_eq_ok_iff.mp h
    obtain ⟨order, horder, h⟩ := exists_bind_eq_ok_iff.mp h
    obtain ⟨own, hown, h⟩ := exists_bind_eq_ok_iff.mp h
    obtain ⟨parent, hparent, -⟩ := exists_bind_eq_ok_iff.mp h
    rw [if_neg (Option.some_ne_none label)]
    simp only [List.forall_mem_append, List.forall_mem_cons]
    exact ⟨⟨⟨exists_toOptionalInt_iff.mp ⟨_, hsibling⟩, exists_toIntValue_iff.mp ⟨_, hdepth⟩,
      exists_toIntValue_iff.mp ⟨_, horder⟩, fun v hv => absurd hv List.not_mem_nil⟩,
      (exists_ownIdentity_iff _ item label depth siblingIndex).mp ⟨_, hown⟩⟩,
      exists_parentIdentity_iff.mp ⟨_, hparent⟩⟩

/-! ## The loop -/

/-- The node of an item that can be read. -/
def nodeOf (item : MenuItem) : Option MenuNode :=
  (normalizeMenuNode item).toOption.join

theorem nodeOf_spec {item : MenuItem} (h : ∀ v ∈ numbersOf item, ¬ IsRefused v) :
    normalizeMenuNode item = .ok (nodeOf item) ∧ NodeOf item (nodeOf item) := by
  obtain ⟨node, hnode, hspec⟩ := normalizeMenuNode_of_readable h
  have heq : nodeOf item = node := by rw [nodeOf, hnode]; rfl
  rw [heq]
  exact ⟨hnode, hspec⟩

theorem foldlM_addMenuItem {items : List MenuItem}
    (h : ∀ item ∈ items, normalizeMenuNode item = .ok (nodeOf item))
    (merged : Indexed MenuIdentity MenuNode) :
    items.foldlM addMenuItem merged =
      .ok ((items.filterMap nodeOf).foldl (Indexed.add MenuNode.identity mergeMenuNode) merged) := by
  induction items generalizing merged with
  | nil => rfl
  | cons item items ih =>
    have ih := ih fun other hother => h other (List.mem_cons_of_mem item hother)
    rw [List.foldlM_cons, addMenuItem, h item List.mem_cons_self]
    cases hnode : nodeOf item with
    | none =>
      rw [List.filterMap_cons_none hnode]
      exact ih merged
    | some node =>
      rw [List.filterMap_cons_some hnode, List.foldl_cons]
      exact ih _

/-- Every item of a run that ends can be read. -/
theorem readable_of_foldlM {items : List MenuItem} {merged result : Indexed MenuIdentity MenuNode}
    (h : items.foldlM addMenuItem merged = .ok result) :
    ∀ item ∈ items, ∀ v ∈ numbersOf item, ¬ IsRefused v := by
  induction items generalizing merged result with
  | nil => exact fun item hitem => absurd hitem List.not_mem_nil
  | cons item items ih =>
    rw [List.foldlM_cons] at h
    obtain ⟨next, hnext, hrest⟩ := exists_bind_eq_ok_iff.mp ⟨result, h⟩
    obtain ⟨result, hrest⟩ := hrest
    intro other hother
    rcases List.mem_cons.mp hother with rfl | hother
    · cases hnode : normalizeMenuNode other with
      | ok node => exact readable_of_normalizeMenuNode hnode
      | error e =>
        rw [addMenuItem, hnode] at hnext
        cases hnext
    · exact ih hrest other hother

/-! ## Identities and routes -/

theorem identity_mergeMenuNode {existing normalized : MenuNode}
    (h : existing.identity = normalized.identity) :
    (mergeMenuNode existing normalized).identity = existing.identity := by
  have hrole : existing.role = normalized.role := congrArg MenuIdentity.role h
  have haria : existing.ariaLabel = normalized.ariaLabel := congrArg MenuIdentity.ariaLabel h
  have hparent : existing.parentLabel = normalized.parentLabel :=
    congrArg MenuIdentity.parentLabel h
  unfold mergeMenuNode MenuNode.identity
  simp only [← hrole, ← haria, ← hparent, Option.or_self]

theorem normalizePath_of_normalizePath {value : Option Json} :
    normalizePath ((normalizePath value).map .str) = normalizePath value := by
  cases h : normalizePath value with
  | none => rfl
  | some path =>
    unfold normalizePath at h
    split at h
    next s =>
      split at h
      next hslash =>
        obtain rfl := Option.some.inj h
        change (if Text.startsWith "/" (Text.strip (Text.strip s)) = true
          then some (Text.strip (Text.strip s)) else none) = some (Text.strip s)
        rw [Text.strip_strip, if_pos hslash]
      next => cases h
    next => cases h

/-- The route of an item is kept in its normal form. -/
def IsNormal (path : Option String) : Prop :=
  normalizePath (path.map .str) = path

theorem preferMenuRouteFact_eq (existingValue incomingValue : Option String) :
    preferMenuRouteFact existingValue incomingValue =
      (normalizePath (incomingValue.map .str)).or (normalizePath (existingValue.map .str)) := by
  unfold preferMenuRouteFact
  cases hincoming : normalizePath (incomingValue.map .str) with
  | none => rfl
  | some incoming =>
    cases hexisting : normalizePath (existingValue.map .str) with
    | none => rfl
    | some existing =>
      by_cases hne : some existing = some incoming
      · simp [hne]
      · simp [hne]

theorem isNormal_preferMenuRouteFact (existingValue incomingValue : Option String) :
    IsNormal (preferMenuRouteFact existingValue incomingValue) := by
  rw [preferMenuRouteFact_eq, IsNormal]
  cases hincoming : normalizePath (incomingValue.map .str) with
  | none => exact normalizePath_of_normalizePath
  | some incoming =>
    change normalizePath ((some incoming).map .str) = some incoming
    rw [← hincoming]
    exact normalizePath_of_normalizePath

/-- A route of the merged nodes is the last one known among the items with that identity. -/
theorem path_of_mem_merge {items : List MenuItem} (hnode : ∀ item ∈ items, NodeOf item (nodeOf item))
    {path : MenuNode → Option String} {pathOf : MenuItem → Option String}
    (hmerge : ∀ a b, path (mergeMenuNode a b) = preferMenuRouteFact (path a) (path b))
    (hpath : ∀ item ∈ items, ∀ n ∈ nodeOf item, path n = pathOf item)
    (hnormal : ∀ item, IsNormal (pathOf item)) {node : MenuNode}
    (hmem : node ∈ KeyedMerge.merge MenuNode.identity mergeMenuNode (items.filterMap nodeOf)) :
    path node = lastKnown identityOf pathOf items (some node.identity) := by
  have hitems : ∀ n ∈ items.filterMap nodeOf, IsNormal (path n) := by
    intro n hn
    obtain ⟨item, hitem, hn⟩ := List.mem_filterMap.mp hn
    rw [hpath item hitem n hn]
    exact hnormal item
  have hclean : IsNormal (path node) :=
    KeyedMerge.forall_mem_merge (p := fun n => IsNormal (path n))
      (fun a b _ _ => hmerge a b ▸ isNormal_preferMenuRouteFact _ _) hitems node hmem
  have hfact := KeyedMerge.fact_of_mem_merge (f := fun n => normalizePath ((path n).map .str))
    (fun a b => identity_mergeMenuNode) (fun a b => ?_) _ node hmem
  · rw [← hclean, hfact]
    refine KeyedMerge.lastKnown_filterMap _ _ (fun item hitem => (hnode item hitem).identity)
      (fun item hitem n hn => ?_) node.identity
    rw [hpath item hitem n hn]
    exact hnormal item
  · rw [hmerge, ← preferMenuRouteFact_eq]
    exact isNormal_preferMenuRouteFact _ _

/-! ## The result -/

/-- The nodes that stand for some items: one for each identity, in the order of the first
occurrences, with the last routes that are known. -/
structure MergedFrom (items : List MenuItem) (nodes : List MenuNode) : Prop where
  distinct : (nodes.map MenuNode.identity).Nodup
  identities : nodes.map MenuNode.identity = (items.filterMap identityOf).eraseDups
  routePath : ∀ node ∈ nodes,
    node.routePath = lastKnown identityOf routePathOf items (some node.identity)
  pageRoutePath : ∀ node ∈ nodes,
    node.pageRoutePath = lastKnown identityOf pageRoutePathOf items (some node.identity)

theorem mergedFrom_merge {items : List MenuItem} (h : ∀ item ∈ items, NodeOf item (nodeOf item)) :
    MergedFrom items
      (KeyedMerge.merge MenuNode.identity mergeMenuNode (items.filterMap nodeOf)) := by
  have hkeys : (KeyedMerge.merge MenuNode.identity mergeMenuNode
      (items.filterMap nodeOf)).map MenuNode.identity = (items.filterMap identityOf).eraseDups := by
    rw [KeyedMerge.map_key_merge fun a b => identity_mergeMenuNode, List.map_filterMap]
    exact congrArg List.eraseDups (List.filterMap_congr fun item hitem => (h item hitem).identity)
  refine ⟨?_, hkeys, fun node hnode => ?_, fun node hnode => ?_⟩
  · rw [hkeys]
    exact Dict.nodup_eraseDups _
  · exact path_of_mem_merge h (fun _ _ => rfl) (fun item hitem => (h item hitem).routePath)
      (fun _ => normalizePath_of_normalizePath) hnode
  · exact path_of_mem_merge h (fun _ _ => rfl) (fun item hitem => (h item hitem).pageRoutePath)
      (fun _ => normalizePath_of_normalizePath) hnode

/-- **The merge loses nothing exactly when `int` reads every number.** -/
theorem merges_iff (skeleton materialized : List MenuItem) :
    (∃ nodes, mergeMenuSkeletonAndMaterializedNodes skeleton materialized = .ok nodes ∧
        MergedFrom (skeleton ++ materialized) nodes) ↔
      ∀ item ∈ skeleton ++ materialized, ∀ v ∈ numbersOf item, ¬ IsRefused v := by
  unfold mergeMenuSkeletonAndMaterializedNodes
  constructor
  · rintro ⟨nodes, hnodes, -⟩
    cases hrun : (skeleton ++ materialized).foldlM addMenuItem {} with
    | ok merged => exact readable_of_foldlM hrun
    | error e => rw [hrun] at hnodes; cases hnodes
  · intro h
    have hspec := fun item hitem => nodeOf_spec (h item hitem)
    refine ⟨_, ?_, mergedFrom_merge fun item hitem => (hspec item hitem).2⟩
    rw [foldlM_addMenuItem fun item hitem => (hspec item hitem).1]
    exact congrArg Except.ok
      (KeyedMerge.Indexed.items_addAll (fun a b => identity_mergeMenuNode) _).1

/-- A superscript is a digit, but not for `int`. -/
example : mergeMenuSkeletonAndMaterializedNodes
      [[("label", .str "Users"), ("sibling_index", .str "²")]] [] matches
    .error "invalid literal for int() with base 10: '²'" := by
  decide +kernel

/-! ## The items of a page -/

/-- A number, or nothing. -/
def IsNumber : Option Json → Prop
  | none | some .null | some (.int _) | some (.float _ _) => True
  | _ => False

/-- An item as the scripts on a page build it, with any fields missing: what stands where a number is
read was counted by the script, and is no text. -/
structure PageItem where
  item : MenuItem
  numbers : ∀ name ∈ ["depth", "sibling_index", "order", "sort_order"], IsNumber (item.get? name)
  identities : ∀ name ∈ ["navigation_identity", "parent_navigation_identity",
      "materialized_parent_identity"], ∀ identity, item.get? name = some (.obj identity) →
    ∀ field ∈ ["depth", "sibling_index"], IsNumber (MenuItem.get? identity field)

theorem not_isRefused_of_isNumber {value : Option Json} (h : IsNumber value) :
    ¬ IsRefused value := by
  intro hrefused
  match value with
  | some (.str _) => exact h

theorem isNumber_orElse {a b : Option Json} (ha : IsNumber a) (hb : IsNumber b) :
    IsNumber (Json.orElse a b) := by
  unfold Json.orElse
  split_ifs
  · exact ha
  · exact hb

theorem isNumber_of_mem_identityNumbers {value : Option Json}
    (h : ∀ identity, value = some (.obj identity) →
      ∀ field ∈ ["depth", "sibling_index"], IsNumber (MenuItem.get? identity field)) :
    ∀ v ∈ identityNumbers value, IsNumber v := by
  unfold identityNumbers
  split
  next identity =>
    have hfields := h identity rfl
    split_ifs
    · exact fun v hv => absurd hv List.not_mem_nil
    · simp only [List.forall_mem_cons] at hfields ⊢
      exact ⟨hfields.1, hfields.2.1, fun v hv => absurd hv List.not_mem_nil⟩
  next => exact fun v hv => absurd hv List.not_mem_nil

/-- Every number of an item of a page is one. -/
theorem PageItem.isNumber_of_mem_numbersOf (pageItem : PageItem) :
    ∀ v ∈ numbersOf pageItem.item, IsNumber v := by
  obtain ⟨item, hnumbers, hidentities⟩ := pageItem
  unfold numbersOf
  split_ifs
  · exact fun v hv => absurd hv List.not_mem_nil
  · simp only [List.forall_mem_append, List.forall_mem_cons]
    refine ⟨⟨⟨hnumbers _ (by decide), hnumbers _ (by decide),
      isNumber_orElse (hnumbers _ (by decide)) (hnumbers _ (by decide)),
      fun v hv => absurd hv List.not_mem_nil⟩,
      isNumber_of_mem_identityNumbers (hidentities _ (by decide))⟩,
      isNumber_of_mem_identityNumbers fun identity hidentity => ?_⟩
    unfold Json.orElse at hidentity
    split_ifs at hidentity
    · exact hidentities _ (by decide) identity hidentity
    · exact hidentities _ (by decide) identity hidentity

/-- **Merging the menus of a page loses nothing.** -/
theorem merge_loses_nothing (skeleton materialized : List PageItem) :
    ∃ nodes,
      mergeMenuSkeletonAndMaterializedNodes (skeleton.map PageItem.item)
          (materialized.map PageItem.item) = .ok nodes ∧
        MergedFrom ((skeleton ++ materialized).map PageItem.item) nodes := by
  rw [List.map_append]
  refine (merges_iff _ _).mpr fun item hitem v hv => ?_
  rw [← List.map_append] at hitem
  obtain ⟨pageItem, -, rfl⟩ := List.mem_map.mp hitem
  exact not_isRefused_of_isNumber (pageItem.isNumber_of_mem_numbersOf v hv)

/-- What the script says of a menu that it opened. -/
example : PageItem where
  item := [("label", .str "Users"), ("depth", .int 1), ("order", .int 4), ("sibling_index", .int 0),
    ("materialized_parent_identity", .obj [("label", .str "Admin"), ("depth", .int 0)])]
  numbers := by simp [MenuItem.get?, Json.get?, IsNumber]
  identities := by simp [MenuItem.get?, Json.get?, IsNumber]

end DomMenu

end Runlet
