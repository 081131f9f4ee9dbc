import Runlet.AssetCompiler.NavigationAliases
import Runlet.Library.Climb
import Runlet.Library.Dict

/-!
# The menus of a page and the chain of labels that leads to it

Both walks up the parent links are climbs along `parentOf`, and their fuel is enough:
`climbsTo_menuLineage`, `candidateLineage_eq`.  From the climbs:

* `topology_spec`: the topology of a page holds its menus and what is above them, once each.
* `deriveMenuChain_of_mem_pool`: when the candidates for a route agree, the chain of the page is
  the chain of any of them; when they do not there is none.
* `exists_genuineChain`: a complete chain is read along real parent links from a root down, with
  depths counted from nought.

Labels decide which menus are candidates.  A menu without a label is passed over, and so the
complete chain of a page need not end at a menu of the page: `unlabelled_leaf`.
-/

namespace Runlet

open Dict

namespace NavigationAliases

/-! ## Parent links -/

/-- The menu a menu hangs from, if there is one. -/
def parentOf (menus : List MenuNode) (menu : MenuNode) : Option MenuNode :=
  menu.parentId.bind (menuById menus)

section Links

variable {menus menus' : List MenuNode} {menu parent : MenuNode} {id : UUID}

theorem menuById_eq_some (h : menuById menus id = some menu) : menu ∈ menus ∧ menu.id = id :=
  ⟨List.mem_reverse.mp (List.mem_of_find?_eq_some h), by simpa using List.find?_some h⟩

theorem menuById_of_mem (hids : (menus.map (·.id)).Nodup) (hmenu : menu ∈ menus) :
    menuById menus menu.id = some menu := by
  obtain ⟨found, hfound⟩ : ∃ found, menuById menus menu.id = some found :=
    Option.isSome_iff_exists.mp
      (List.find?_isSome.mpr ⟨menu, List.mem_reverse.mpr hmenu, decide_eq_true rfl⟩)
  obtain ⟨hmem, hid⟩ := menuById_eq_some hfound
  rw [hfound, List.inj_on_of_nodup_map hids hmem hmenu hid]

/-- With distinct ids, the menu of an id does not depend on the order. -/
theorem menuById_congr (hids : (menus.map (·.id)).Nodup) (hids' : (menus'.map (·.id)).Nodup)
    (hmem : ∀ menu, menu ∈ menus ↔ menu ∈ menus') : menuById menus = menuById menus' := by
  funext id
  cases h : menuById menus id with
  | some menu =>
    obtain ⟨hmenu, rfl⟩ := menuById_eq_some h
    exact (menuById_of_mem hids' ((hmem menu).mp hmenu)).symm
  | none =>
    cases h' : menuById menus' id with
    | none => rfl
    | some menu =>
      obtain ⟨hmenu, rfl⟩ := menuById_eq_some h'
      rw [menuById_of_mem hids ((hmem menu).mpr hmenu)] at h
      exact absurd h (Option.some_ne_none menu)

theorem parentOf_eq_some (h : parentOf menus menu = some parent) :
    parent ∈ menus ∧ menu.parentId = some parent.id := by
  obtain ⟨id, hid, hparent⟩ := Option.bind_eq_some_iff.mp h
  obtain ⟨hmem, rfl⟩ := menuById_eq_some hparent
  exact ⟨hmem, hid⟩

theorem mem_ids_of_parentOf (a b : MenuNode) (h : parentOf menus a = some b) :
    b.id ∈ menus.map (·.id) :=
  List.mem_map_of_mem (parentOf_eq_some h).1

/-- What is above a menu of the list is in the list. -/
theorem mem_of_reachable (hmenu : menu ∈ menus)
    (h : Relation.ReflTransGen (fun a b => parentOf menus a = some b) menu parent) :
    parent ∈ menus := by
  induction h with
  | refl => exact hmenu
  | tail _ hstep _ => exact (parentOf_eq_some hstep).1

end Links

/-! ## The two walks -/

section Walks

variable {menus nodes : List MenuNode} {seen : List UUID} {x : MenuNode} {l : List MenuNode}

/-- The climb from a menu, not longer than there are menus above it. -/
theorem exists_climb (menus : List MenuNode) (menu : MenuNode) :
    ∃ l, ClimbsTo (parentOf menus) (·.id) [] menu l ∧ l.length ≤ menus.length + 1 := by
  obtain ⟨l, hl⟩ : ∃ l, ClimbsTo (parentOf menus) (·.id) [] menu l :=
    exists_climbsTo (@mem_ids_of_parentOf menus) [] menu
  have hlength := hl.length_le (@mem_ids_of_parentOf menus)
  rw [List.length_map] at hlength
  exact ⟨l, hl, hlength⟩

theorem menuLineage_succ (fuel : ℕ) : menuLineage menus (fuel + 1) seen x =
    if x.id ∈ seen then [] else x :: (match parentOf menus x with
      | none => []
      | some parent => menuLineage menus fuel (x.id :: seen) parent) := by
  rw [menuLineage, parentOf]
  cases x.parentId with
  | none => rfl
  | some parentId => rfl

theorem menuLineage_eq_nil_of_mem {fuel : ℕ} (h : x.id ∈ seen) :
    menuLineage menus fuel seen x = [] := by
  cases fuel with
  | zero => rfl
  | succ fuel => rw [menuLineage_succ, if_pos h]

theorem menuLineage_eq_of_climbsTo (h : ClimbsTo (parentOf menus) (·.id) seen x l)
    (hfresh : x.id ∉ seen) {fuel : ℕ} (hfuel : l.length ≤ fuel) :
    menuLineage menus fuel seen x = l := by
  induction h generalizing fuel with
  | top htop =>
    obtain ⟨fuel, rfl⟩ := Nat.exists_eq_add_of_le' hfuel
    rw [List.length_singleton, menuLineage_succ, if_neg hfresh, htop]
  | loop hnext hseen =>
    obtain ⟨fuel, rfl⟩ := Nat.exists_eq_add_of_le' hfuel
    rw [List.length_singleton, menuLineage_succ, if_neg hfresh, hnext]
    exact congrArg _ (menuLineage_eq_nil_of_mem hseen)
  | step hnext hunseen hclimb ih =>
    rw [List.length_cons] at hfuel
    obtain ⟨fuel, rfl⟩ := Nat.exists_eq_add_of_le' (Nat.le_of_add_left_le hfuel)
    rw [menuLineage_succ, if_neg hfresh, hnext]
    exact congrArg _ (ih hunseen (Nat.le_of_succ_le_succ hfuel))

/-- **The walk of the topology ends**, and its fuel is enough. -/
theorem climbsTo_menuLineage (menus : List MenuNode) (menu : MenuNode) :
    ClimbsTo (parentOf menus) (·.id) [] menu
      (menuLineage menus (menus.length + 1) [] menu) := by
  obtain ⟨l, hl, hlength⟩ := exists_climb menus menu
  rwa [menuLineage_eq_of_climbsTo hl List.not_mem_nil hlength]

/-- The last menu of a climb hangs from nothing. -/
def endsAtRoot (l : List MenuNode) : Bool :=
  l.getLast?.any fun menu => menu.parentId = none

theorem endsAtRoot_cons (x : MenuNode) {l : List MenuNode} (h : l ≠ []) :
    endsAtRoot (x :: l) = endsAtRoot l := by
  obtain ⟨y, t, rfl⟩ := List.exists_cons_of_ne_nil h
  rw [endsAtRoot, List.getLast?_cons_cons, endsAtRoot]

theorem candidateLineage_of_climbsTo (h : ClimbsTo (parentOf nodes) (·.id) seen x l)
    {fuel : ℕ} (hfuel : l.length ≤ fuel) (lineage : List MenuNode) :
    candidateLineage nodes fuel (x.id :: seen) x lineage =
      if endsAtRoot l then some (l.tail.reverse ++ lineage) else none := by
  induction h generalizing fuel lineage with
  | @top seen x htop =>
    obtain ⟨fuel, rfl⟩ := Nat.exists_eq_add_of_le' hfuel
    rw [List.length_singleton, candidateLineage]
    cases hparent : x.parentId with
    | none => rw [if_pos (by simp [endsAtRoot, hparent])]; rfl
    | some parentId =>
      have hmissing : menuById nodes parentId = none := by
        rwa [parentOf, hparent] at htop
      dsimp only
      rw [hmissing, if_neg (by simp [endsAtRoot, hparent])]
  | @loop seen x y hnext hseen =>
    obtain ⟨fuel, rfl⟩ := Nat.exists_eq_add_of_le' hfuel
    obtain ⟨parentId, hparent, hfound⟩ := Option.bind_eq_some_iff.mp hnext
    rw [List.length_singleton, candidateLineage, hparent]
    dsimp only
    rw [hfound, if_neg (by simp [endsAtRoot, hparent])]
    exact if_pos hseen
  | @step seen x y l hnext hunseen hclimb ih =>
    rw [List.length_cons] at hfuel
    obtain ⟨fuel, rfl⟩ := Nat.exists_eq_add_of_le' (Nat.le_of_add_left_le hfuel)
    obtain ⟨parentId, hparent, hfound⟩ := Option.bind_eq_some_iff.mp hnext
    rw [candidateLineage, hparent]
    dsimp only
    rw [hfound]
    dsimp only
    rw [if_neg hunseen, ih (Nat.le_of_succ_le_succ hfuel), endsAtRoot_cons x hclimb.ne_nil]
    obtain ⟨t, rfl⟩ := hclimb.exists_cons
    rw [List.tail_cons, List.tail_cons, List.reverse_cons, List.append_assoc,
      List.singleton_append]

/-- **The walk of a candidate ends**, and its fuel is enough: the lineage is the climb, read from
the top, when the climb ends at a root. -/
theorem candidateLineage_eq (nodes : List MenuNode) (candidate : MenuNode) :
    ∃ l, ClimbsTo (parentOf nodes) (·.id) [] candidate l ∧
      candidateLineage nodes (nodes.length + 1) [candidate.id] candidate [candidate] =
        if endsAtRoot l then some l.reverse else none := by
  obtain ⟨l, hl, hlength⟩ := exists_climb nodes candidate
  refine ⟨l, hl, ?_⟩
  rw [candidateLineage_of_climbsTo hl hlength]
  obtain ⟨t, rfl⟩ := hl.exists_cons
  rw [List.tail_cons, List.reverse_cons]

end Walks

/-! ## The topology of a page -/

section Topology

variable {menus menus' topology nodes : List MenuNode} {pageId : UUID}

/-- Append the nodes whose id is not there yet. -/
def appendNew (topology nodes : List MenuNode) : List MenuNode :=
  nodes.foldl (fun topology node =>
    if topology.any fun seen => seen.id = node.id then topology else topology ++ [node]) topology

theorem appendNew_cons (node : MenuNode) (nodes : List MenuNode) :
    appendNew topology (node :: nodes) =
      appendNew (if node.id ∈ topology.map (·.id) then topology else topology ++ [node]) nodes := by
  have hiff : (topology.any fun seen => seen.id = node.id) = true ↔
      node.id ∈ topology.map (·.id) := by
    rw [List.any_eq_true, List.mem_map]
    exact exists_congr fun seen => and_congr_right fun _ => decide_eq_true_iff
  rw [appendNew, List.foldl_cons, ← appendNew]
  congr 1
  exact if_congr hiff rfl rfl

theorem subset_appendNew : topology ⊆ appendNew topology nodes := by
  induction nodes generalizing topology with
  | nil => exact List.Subset.refl _
  | cons node nodes ih =>
    rw [appendNew_cons]
    refine List.Subset.trans ?_ ih
    split
    · exact List.Subset.refl _
    · exact List.subset_append_left _ _

theorem mem_of_mem_appendNew {menu : MenuNode} (h : menu ∈ appendNew topology nodes) :
    menu ∈ topology ∨ menu ∈ nodes := by
  induction nodes generalizing topology with
  | nil => exact Or.inl h
  | cons node nodes ih =>
    rw [appendNew_cons] at h
    rcases ih h with h | h
    · split at h
      · exact Or.inl h
      · exact (List.mem_append.mp h).imp_right fun h =>
          List.mem_cons.mpr (Or.inl (List.mem_singleton.mp h))
    · exact Or.inr (List.mem_cons_of_mem _ h)

theorem id_mem_appendNew {menu : MenuNode} (h : menu ∈ nodes) :
    menu.id ∈ (appendNew topology nodes).map (·.id) := by
  induction nodes generalizing topology with
  | nil => exact absurd h List.not_mem_nil
  | cons node nodes ih =>
    rw [appendNew_cons]
    rcases List.mem_cons.mp h with rfl | h
    · refine List.map_subset _ subset_appendNew ?_
      split
      · assumption
      · exact List.mem_map_of_mem (List.mem_append_right _ List.mem_cons_self)
    · exact ih h

theorem nodup_appendNew (h : (topology.map (·.id)).Nodup) :
    ((appendNew topology nodes).map (·.id)).Nodup := by
  induction nodes generalizing topology with
  | nil => exact h
  | cons node nodes ih =>
    rw [appendNew_cons]
    refine ih ?_
    split
    · exact h
    · rename_i hnew
      rw [List.map_append]
      refine List.nodup_append.mpr ⟨h, List.nodup_singleton _, ?_⟩
      rintro _ ha _ hb rfl
      rw [List.mem_singleton.mp hb] at ha
      exact hnew ha

/-- Above a menu of the page, or the menu itself. -/
def AbovePage (menus : List MenuNode) (pageId : UUID) (menu : MenuNode) : Prop :=
  ∃ leaf ∈ menus, leaf.pageId = some pageId ∧
    Relation.ReflTransGen (fun a b => parentOf menus a = some b) leaf menu

/-- No menu occurs twice, what a menu hangs from is there too, and nothing else is. -/
structure ClosedUpwards (menus : List MenuNode) (pageId : UUID) (topology : List MenuNode) :
    Prop where
  nodup : (topology.map (·.id)).Nodup
  parents : ∀ menu ∈ topology, ∀ parent, parentOf menus menu = some parent →
    parent.id ∈ topology.map (·.id)
  above : ∀ menu ∈ topology, AbovePage menus pageId menu

theorem ClosedUpwards.append (h : ClosedUpwards menus pageId topology) {leaf : MenuNode}
    (hleaf : leaf ∈ menus) (hpage : leaf.pageId = some pageId) :
    ClosedUpwards menus pageId (appendMenuWithAncestors menus topology leaf) := by
  have hclimb := climbsTo_menuLineage menus leaf
  change ClosedUpwards menus pageId (appendNew topology
    (menuLineage menus (menus.length + 1) [] leaf).reverse)
  refine ⟨nodup_appendNew h.nodup, ?_, ?_⟩
  · intro menu hmenu parent hparent
    rcases mem_of_mem_appendNew hmenu with hold | hnew
    · exact List.map_subset _ subset_appendNew (h.parents menu hold parent hparent)
    · obtain ⟨above, habove, hid⟩ := List.mem_map.mp
        ((hclimb.closed menu (List.mem_reverse.mp hnew) parent hparent).resolve_right
          List.not_mem_nil)
      rw [← hid]
      exact id_mem_appendNew (List.mem_reverse.mpr habove)
  · intro menu hmenu
    rcases mem_of_mem_appendNew hmenu with hold | hnew
    · exact h.above menu hold
    · exact ⟨leaf, hleaf, hpage, hclimb.reachable menu (List.mem_reverse.mp hnew)⟩

theorem closedUpwards_foldl {leaves : List MenuNode}
    (hleaves : ∀ leaf ∈ leaves, leaf ∈ menus ∧ leaf.pageId = some pageId)
    (h : ClosedUpwards menus pageId topology) :
    ClosedUpwards menus pageId (leaves.foldl (appendMenuWithAncestors menus) topology) ∧
      topology ⊆ leaves.foldl (appendMenuWithAncestors menus) topology ∧
      ∀ leaf ∈ leaves,
        leaf.id ∈ (leaves.foldl (appendMenuWithAncestors menus) topology).map (·.id) := by
  induction leaves generalizing topology with
  | nil => exact ⟨h, List.Subset.refl _, fun _ hleaf => absurd hleaf List.not_mem_nil⟩
  | cons leaf leaves ih =>
    obtain ⟨hleaf, hrest⟩ := List.forall_mem_cons.mp hleaves
    obtain ⟨hclosed, hsubset, hids⟩ := ih hrest (h.append hleaf.1 hleaf.2)
    rw [List.foldl_cons]
    refine ⟨hclosed, List.Subset.trans subset_appendNew hsubset, ?_⟩
    rw [List.forall_mem_cons]
    refine ⟨List.map_subset _ hsubset (id_mem_appendNew (List.mem_reverse.mpr ?_)), hids⟩
    exact (climbsTo_menuLineage menus leaf).start_mem

theorem mem_pageMenus {leaf : MenuNode} :
    leaf ∈ menus.filter (fun menu => menu.pageId = some pageId) ↔
      leaf ∈ menus ∧ leaf.pageId = some pageId := by
  rw [List.mem_filter, decide_eq_true_iff]

/-- **The topology of a page** is closed upwards and holds the menus of the page. -/
theorem topology_spec (menus : List MenuNode) (pageId : UUID) :
    ClosedUpwards menus pageId (buildNavigationMenuTopology pageId menus) ∧
      ∀ leaf ∈ menus, leaf.pageId = some pageId →
        leaf.id ∈ (buildNavigationMenuTopology pageId menus).map (·.id) := by
  have hnil : ClosedUpwards menus pageId [] :=
    ⟨List.nodup_nil, fun _ hmenu => absurd hmenu List.not_mem_nil,
      fun _ hmenu => absurd hmenu List.not_mem_nil⟩
  obtain ⟨hclosed, -, hids⟩ := closedUpwards_foldl (fun _ => mem_pageMenus.mp) hnil
  exact ⟨hclosed, fun leaf hleaf hpage => hids leaf (mem_pageMenus.mpr ⟨hleaf, hpage⟩)⟩

/-- **With distinct ids the topology is what is above the menus of the page.** -/
theorem mem_topology_iff (hids : (menus.map (·.id)).Nodup) {menu : MenuNode} :
    menu ∈ buildNavigationMenuTopology pageId menus ↔ AbovePage menus pageId menu := by
  obtain ⟨hclosed, hleaves⟩ := topology_spec menus pageId
  refine ⟨hclosed.above menu, ?_⟩
  have hmenus : ∀ menu ∈ buildNavigationMenuTopology pageId menus, menu ∈ menus := by
    intro menu hmenu
    obtain ⟨leaf, hleaf, -, hreach⟩ := hclosed.above menu hmenu
    exact mem_of_reachable hleaf hreach
  have hnames : ∀ menu ∈ menus, menu.id ∈ (buildNavigationMenuTopology pageId menus).map (·.id) →
      menu ∈ buildNavigationMenuTopology pageId menus := by
    intro menu hmenu hid
    obtain ⟨same, hsame, heq⟩ := List.mem_map.mp hid
    rwa [← List.inj_on_of_nodup_map hids (hmenus same hsame) hmenu heq]
  rintro ⟨leaf, hleaf, hpage, hreach⟩
  induction hreach with
  | refl => exact hnames leaf hleaf (hleaves leaf hleaf hpage)
  | tail _ hstep ih =>
    exact hnames _ (parentOf_eq_some hstep).1 (hclosed.parents _ ih _ hstep)

theorem parentOf_congr (hids : (menus.map (·.id)).Nodup) (hids' : (menus'.map (·.id)).Nodup)
    (hmem : ∀ menu, menu ∈ menus ↔ menu ∈ menus') : parentOf menus = parentOf menus' := by
  funext menu
  rw [parentOf, parentOf, menuById_congr hids hids' hmem]

/-- **The topology is the same for all orders of the menus**, up to its own order. -/
theorem topology_perm (hids : (menus.map (·.id)).Nodup) (h : menus.Perm menus') :
    (buildNavigationMenuTopology pageId menus).Perm
      (buildNavigationMenuTopology pageId menus') := by
  have hids' : (menus'.map (·.id)).Nodup := (h.map _).nodup_iff.mp hids
  refine (List.perm_ext_iff_of_nodup (List.Nodup.of_map _ (topology_spec menus pageId).1.nodup)
    (List.Nodup.of_map _ (topology_spec menus' pageId).1.nodup)).mpr fun menu => ?_
  rw [mem_topology_iff hids, mem_topology_iff hids', AbovePage, AbovePage,
    parentOf_congr hids hids' fun _ => h.mem_iff]
  exact exists_congr fun leaf => and_congr_left fun _ => h.mem_iff

end Topology

/-! ## A complete chain -/

section Chains

variable {menus menus' nodes : List MenuNode} {candidate : MenuNode} {routePath : String}
  {chain : List String} {complete : Bool}

/-- A lineage from a root down to a leaf: real parent links, depths counted from nought. -/
structure GenuineLineage (nodes : List MenuNode) (leaf : MenuNode) (lineage : List MenuNode) :
    Prop where
  mem : ∀ menu ∈ lineage, menu ∈ nodes
  root : ∀ menu ∈ lineage.head?, menu.parentId = none
  links : lineage.IsChain fun parent child => child.parentId = some parent.id
  depths : lineage.map (·.depth) = (List.range lineage.length).map Int.ofNat
  leaf : lineage.getLast? = some leaf

theorem map_depth_of_depthContinuous {d : ℕ} :
    ∀ {lineage : List MenuNode}, depthContinuous lineage = true →
      (∀ menu ∈ lineage.head?, menu.depth = d) →
      lineage.map (·.depth) = (List.range' d lineage.length).map Int.ofNat
  | [], _, _ => rfl
  | [root], _, hroot => by
    rw [List.map_singleton, hroot root rfl]
    rfl
  | root :: child :: rest, hcont, hroot => by
    have hd := hroot root rfl
    rw [depthContinuous, Bool.and_eq_true, decide_eq_true_iff] at hcont
    have hchild : ∀ menu ∈ (child :: rest).head?, menu.depth = ((d + 1 : ℕ) : Int) := by
      intro menu hmenu
      rw [← Option.some_inj.mp hmenu, hcont.1, hd]
      rfl
    have ih := map_depth_of_depthContinuous hcont.2 hchild
    rw [List.map_cons, ih, hd, List.length_cons, List.range'_succ, List.map_cons]
    rfl

/-- **A complete chain is the labels of a genuine lineage.** -/
theorem exists_genuineLineage (hcandidate : candidate ∈ nodes)
    (h : deriveChainForCandidate candidate nodes = (chain, true)) :
    ∃ lineage, GenuineLineage nodes candidate lineage ∧
      chain = lineage.map fun node => Text.strip node.label := by
  obtain ⟨l, hclimb, heq⟩ := candidateLineage_eq nodes candidate
  unfold deriveChainForCandidate at h
  rw [heq] at h
  cases hroot : endsAtRoot l with
  | false =>
    rw [hroot] at h
    exact absurd (congrArg Prod.snd h) Bool.false_ne_true
  | true =>
    rw [hroot, if_pos rfl] at h
    dsimp only at h
    split at h
    · rename_i hdepths
      rw [Bool.and_eq_true] at hdepths
      refine ⟨l.reverse, ⟨?_, ?_, ?_, ?_, ?_⟩, (congrArg Prod.fst h).symm⟩
      · exact fun menu hmenu => mem_of_reachable hcandidate
          (hclimb.reachable menu (List.mem_reverse.mp hmenu))
      · intro menu hmenu
        rw [List.head?_reverse] at hmenu
        rw [endsAtRoot, hmenu] at hroot
        exact of_decide_eq_true hroot
      · rw [List.isChain_reverse]
        exact hclimb.isChain.imp fun child parent hparent => (parentOf_eq_some hparent).2
      · rw [List.range_eq_range']
        refine map_depth_of_depthContinuous hdepths.2 fun menu hmenu => ?_
        have hstart := hdepths.1
        cases hlineage : l.reverse with
        | nil =>
          rw [hlineage] at hmenu
          exact absurd hmenu (Option.not_mem_none menu)
        | cons root rest =>
          rw [hlineage] at hstart hmenu
          rw [← Option.some_inj.mp hmenu]
          exact of_decide_eq_true hstart
      · obtain ⟨t, rfl⟩ := hclimb.exists_cons
        rw [List.getLast?_reverse]
        rfl
    · exact absurd (congrArg Prod.snd h) Bool.false_ne_true

theorem deriveChainForCandidate_ne_nil :
    (deriveChainForCandidate candidate nodes).1 ≠ [] := by
  obtain ⟨l, hclimb, heq⟩ := candidateLineage_eq nodes candidate
  unfold deriveChainForCandidate
  rw [heq]
  split
  · exact List.cons_ne_nil _ _
  · rename_i lineage hlineage
    split at hlineage
    · rw [← Option.some_inj.mp hlineage]
      split
      · exact fun hnil => hclimb.ne_nil (List.reverse_eq_nil_iff.mp (List.map_eq_nil_iff.mp hnil))
      · exact List.cons_ne_nil _ _
    · exact absurd hlineage.symm (Option.some_ne_none lineage)

/-- The chain of a candidate depends on the menus by their ids only. -/
theorem deriveChainForCandidate_congr {nodes' : List MenuNode}
    (h : parentOf nodes = parentOf nodes') (candidate : MenuNode) :
    deriveChainForCandidate candidate nodes = deriveChainForCandidate candidate nodes' := by
  obtain ⟨l, hclimb, heq⟩ := candidateLineage_eq nodes candidate
  obtain ⟨l', hclimb', heq'⟩ := candidateLineage_eq nodes' candidate
  rw [h] at hclimb
  obtain rfl := hclimb.unique hclimb'
  unfold deriveChainForCandidate
  rw [heq, heq']

/-! ## The candidates for a route -/

/-- The labelled menus that carry the route. -/
def matchingNodes (menus : List MenuNode) (routePath : String) : List MenuNode :=
  (labeledNodes menus).filter fun node => routeMatches node.routePath routePath

/-- The menus the chain is looked for at. -/
def candidatePool (menus : List MenuNode) (routePath : String) : List MenuNode :=
  if matchingNodes menus routePath = [] then leafCandidates (labeledNodes menus)
  else matchingNodes menus routePath

/-- The candidates lead to one chain; where none carries the route, also under one name. -/
def Agree (menus : List MenuNode) (routePath : String) : Prop :=
  ∀ a ∈ candidatePool menus routePath, ∀ b ∈ candidatePool menus routePath,
    deriveChainForCandidate a (labeledNodes menus) =
        deriveChainForCandidate b (labeledNodes menus) ∧
      (matchingNodes menus routePath = [] → Text.strip a.label = Text.strip b.label)

/-- More than one reading of a list, when none is empty. -/
theorem one_lt_readings_iff {β : Type} [inst : BEq β] [LawfulBEq β] {l : List MenuNode}
    {f : MenuNode → β} (isEmpty : β → Bool) (hne : ∀ node, isEmpty (f node) = false) :
    1 < (((l.map f).filter fun b => !isEmpty b).eraseDups).length ↔
      ¬ ∀ a ∈ l, ∀ b ∈ l, f a = f b := by
  classical
  obtain rfl : inst = instBEqOfDecidableEq := lawful_beq_subsingleton _ _
  have hfilter : ((l.map f).filter fun b => !isEmpty b) = l.map f := by
    refine List.filter_eq_self.mpr fun b hb => ?_
    obtain ⟨node, -, rfl⟩ := List.mem_map.mp hb
    rw [hne, Bool.not_false]
  rw [hfilter, one_lt_length_eraseDups_iff]
  push Not
  constructor
  · rintro ⟨_, hfa, _, hfb, hne⟩
    obtain ⟨a, ha, rfl⟩ := List.mem_map.mp hfa
    obtain ⟨b, hb, rfl⟩ := List.mem_map.mp hfb
    exact ⟨a, ha, b, hb, hne⟩
  · rintro ⟨a, ha, b, hb, hne⟩
    exact ⟨f a, List.mem_map_of_mem ha, f b, List.mem_map_of_mem hb, hne⟩

theorem leafCandidates_ne_nil (h : nodes ≠ []) : leafCandidates nodes ≠ [] := by
  unfold leafCandidates
  dsimp only
  split
  · exact h
  · rename_i hleaves
    exact fun hnil => hleaves (List.isEmpty_iff.mpr hnil)

theorem mem_leafCandidates_nodes (h : candidate ∈ leafCandidates nodes) : candidate ∈ nodes := by
  unfold leafCandidates at h
  dsimp only at h
  split at h
  · exact h
  · exact (List.mem_filter.mp h).1

theorem mem_nodes_of_mem_pool (h : candidate ∈ candidatePool menus routePath) :
    candidate ∈ labeledNodes menus := by
  unfold candidatePool at h
  split at h
  · exact mem_leafCandidates_nodes h
  · exact (List.mem_filter.mp h).1

theorem agree_iff_of_matching (h : matchingNodes menus routePath ≠ []) :
    Agree menus routePath ↔
      ∀ a ∈ matchingNodes menus routePath, ∀ b ∈ matchingNodes menus routePath,
        deriveChainForCandidate a (labeledNodes menus) =
          deriveChainForCandidate b (labeledNodes menus) := by
  unfold Agree candidatePool
  rw [if_neg h]
  exact forall_congr' fun a => forall_congr' fun _ => forall_congr' fun b => forall_congr' fun _ =>
    and_iff_left fun hnil => absurd hnil h

theorem agree_iff_of_no_matching (h : matchingNodes menus routePath = []) :
    Agree menus routePath ↔
      ∀ a ∈ leafCandidates (labeledNodes menus), ∀ b ∈ leafCandidates (labeledNodes menus),
        (Text.strip a.label, deriveChainForCandidate a (labeledNodes menus)) =
          (Text.strip b.label, deriveChainForCandidate b (labeledNodes menus)) := by
  unfold Agree candidatePool
  rw [if_pos h]
  refine forall_congr' fun a => forall_congr' fun _ => forall_congr' fun b =>
    forall_congr' fun _ => ?_
  rw [imp_iff_right h, and_comm]
  exact Prod.mk_inj.symm

theorem isEmpty_chain (node : MenuNode) :
    (deriveChainForCandidate node nodes).1.isEmpty = false :=
  List.isEmpty_eq_false_iff.mpr deriveChainForCandidate_ne_nil

/-- The two tests of the source together: the candidates for the route disagree. -/
theorem not_agree_iff :
    ¬ Agree menus routePath ↔
      (matchingNodes menus routePath ≠ [] ∧
        1 < ((((matchingNodes menus routePath).map fun node =>
          deriveChainForCandidate node (labeledNodes menus)).filter fun chain =>
            !chain.1.isEmpty).eraseDups).length) ∨
      (matchingNodes menus routePath = [] ∧
        1 < ((((leafCandidates (labeledNodes menus)).map fun node =>
          (Text.strip node.label, deriveChainForCandidate node (labeledNodes menus))).filter
            fun entry => !entry.2.1.isEmpty).eraseDups).length) := by
  by_cases h : matchingNodes menus routePath = []
  · rw [agree_iff_of_no_matching h, or_iff_right fun hne => hne.1 h, and_iff_right h]
    exact (one_lt_readings_iff (fun entry : String × List String × Bool => entry.2.1.isEmpty)
      isEmpty_chain).symm
  · rw [agree_iff_of_matching h, or_iff_left fun hnil => h hnil.1, and_iff_right h]
    exact (one_lt_readings_iff (fun chain : List String × Bool => chain.1.isEmpty)
      isEmpty_chain).symm

/-- **Candidates that do not agree lead nowhere.** -/
theorem deriveMenuChain_of_not_agree (h : ¬ Agree menus routePath) :
    deriveMenuChain menus routePath = ([], false) := by
  unfold deriveMenuChain
  dsimp only
  split
  · rfl
  · split
    · rfl
    · split
      · rfl
      · rename_i hroute hleaf
        exact absurd (not_agree_iff.mp h) (not_or.mpr ⟨hroute, hleaf⟩)

/-- **Candidates that agree lead where any of them leads.** -/
theorem deriveMenuChain_of_mem_pool (h : Agree menus routePath)
    (hcandidate : candidate ∈ candidatePool menus routePath) :
    deriveMenuChain menus routePath =
      deriveChainForCandidate candidate (labeledNodes menus) := by
  have hfirst : ((((candidatePool menus routePath).insertionSort fun a b =>
      candidateKey routePath a ≤ candidateKey routePath b).map fun node =>
        deriveChainForCandidate node (labeledNodes menus)).find?
          fun chain => !chain.1.isEmpty) =
      some (deriveChainForCandidate candidate (labeledNodes menus)) := by
    have hsome : ((((candidatePool menus routePath).insertionSort fun a b =>
        candidateKey routePath a ≤ candidateKey routePath b).map fun node =>
          deriveChainForCandidate node (labeledNodes menus)).find?
            fun chain => !chain.1.isEmpty).isSome = true :=
      List.find?_isSome.mpr ⟨deriveChainForCandidate candidate (labeledNodes menus),
        List.mem_map_of_mem ((List.mem_insertionSort _).mpr hcandidate),
        by rw [isEmpty_chain, Bool.not_false]⟩
    obtain ⟨found, hfound⟩ := Option.isSome_iff_exists.mp hsome
    obtain ⟨node, hnode, rfl⟩ := List.mem_map.mp (List.mem_of_find?_eq_some hfound)
    rw [hfound, (h node ((List.mem_insertionSort _).mp hnode) candidate hcandidate).1]
  obtain ⟨hroute, hleaf⟩ := not_or.mp (not_agree_iff.not.mp (not_not.mpr h))
  unfold deriveMenuChain
  dsimp only
  split
  · rename_i hnone
    have hmem := mem_nodes_of_mem_pool hcandidate
    rw [List.isEmpty_iff.mp hnone] at hmem
    exact absurd hmem List.not_mem_nil
  · split
    · rename_i hconflict
      exact absurd hconflict hroute
    · split
      · rename_i hconflict
        exact absurd hconflict hleaf
      · exact congrArg (fun chain => Option.getD chain ([], false)) hfirst

theorem deriveMenuChain_of_pool_nil (h : candidatePool menus routePath = []) :
    deriveMenuChain menus routePath = ([], false) := by
  have hnodes : labeledNodes menus = [] := by
    by_contra hne
    unfold candidatePool at h
    split at h
    · exact leafCandidates_ne_nil hne h
    · rename_i hmatch
      exact hmatch h
  unfold deriveMenuChain
  exact if_pos (List.isEmpty_iff.mpr hnodes)

/-! ## What does not depend on the order -/

theorem mem_labeledNodes {menu : MenuNode} :
    menu ∈ labeledNodes menus ↔ menu ∈ menus ∧ Text.strip menu.label ≠ "" := by
  rw [labeledNodes, List.mem_filter, decide_eq_true_iff]

theorem mem_leafCandidates_congr {nodes' : List MenuNode}
    (hmem : ∀ menu, menu ∈ nodes ↔ menu ∈ nodes') :
    candidate ∈ leafCandidates nodes ↔ candidate ∈ leafCandidates nodes' := by
  have hleaf : ∀ menu, menu ∈ nodes.filter (fun node =>
        !nodes.any fun child => child.parentId = some node.id) ↔
      menu ∈ nodes'.filter (fun node =>
        !nodes'.any fun child => child.parentId = some node.id) := by
    intro menu
    rw [List.mem_filter, List.mem_filter, hmem, Bool.not_eq_true', Bool.not_eq_true',
      List.any_eq_false, List.any_eq_false]
    exact and_congr_right fun _ => forall_congr' fun child => imp_congr_left (hmem child)
  have hnil : ∀ {l l' : List MenuNode}, (∀ menu, menu ∈ l ↔ menu ∈ l') → (l = [] ↔ l' = []) := by
    intro l l' h
    rw [List.eq_nil_iff_forall_not_mem, List.eq_nil_iff_forall_not_mem]
    exact forall_congr' fun menu => not_congr (h menu)
  unfold leafCandidates
  dsimp only
  split
  · rename_i h
    rw [if_pos (List.isEmpty_iff.mpr ((hnil hleaf).mp (List.isEmpty_iff.mp h)))]
    exact hmem candidate
  · rename_i h
    rw [if_neg fun h' => h (List.isEmpty_iff.mpr ((hnil hleaf).mpr (List.isEmpty_iff.mp h')))]
    exact hleaf candidate

section Order

variable (hmem : ∀ menu, menu ∈ menus ↔ menu ∈ menus')
include hmem

theorem mem_labeledNodes_congr (menu : MenuNode) :
    menu ∈ labeledNodes menus ↔ menu ∈ labeledNodes menus' := by
  rw [mem_labeledNodes, mem_labeledNodes, hmem]

theorem matchingNodes_nil_congr :
    matchingNodes menus routePath = [] ↔ matchingNodes menus' routePath = [] := by
  unfold matchingNodes
  rw [List.filter_eq_nil_iff, List.filter_eq_nil_iff]
  exact forall_congr' fun menu => imp_congr_left (mem_labeledNodes_congr hmem menu)

theorem mem_candidatePool_congr :
    candidate ∈ candidatePool menus routePath ↔ candidate ∈ candidatePool menus' routePath := by
  unfold candidatePool
  by_cases h : matchingNodes menus routePath = []
  · rw [if_pos h, if_pos ((matchingNodes_nil_congr hmem).mp h)]
    exact mem_leafCandidates_congr (mem_labeledNodes_congr hmem)
  · rw [if_neg h, if_neg ((matchingNodes_nil_congr hmem).not.mp h), matchingNodes, matchingNodes,
      List.mem_filter, List.mem_filter, mem_labeledNodes_congr hmem]

variable (hparents : parentOf (labeledNodes menus) = parentOf (labeledNodes menus'))
include hparents

theorem agree_congr : Agree menus routePath ↔ Agree menus' routePath := by
  unfold Agree
  refine forall_congr' fun a => imp_congr (mem_candidatePool_congr hmem) (forall_congr' fun b =>
    imp_congr (mem_candidatePool_congr hmem) ?_)
  rw [deriveChainForCandidate_congr hparents, deriveChainForCandidate_congr hparents,
    matchingNodes_nil_congr hmem]

/-- The chain depends on the menus as a set, looked up by id. -/
theorem deriveMenuChain_congr :
    deriveMenuChain menus routePath = deriveMenuChain menus' routePath := by
  by_cases hagree : Agree menus routePath
  · by_cases hpool : candidatePool menus routePath = []
    · have hpool' : candidatePool menus' routePath = [] :=
        List.eq_nil_iff_forall_not_mem.mpr fun menu hmenu => by
          rw [← mem_candidatePool_congr hmem, hpool] at hmenu
          exact List.not_mem_nil hmenu
      rw [deriveMenuChain_of_pool_nil hpool, deriveMenuChain_of_pool_nil hpool']
    · obtain ⟨candidate, hcandidate⟩ := List.exists_mem_of_ne_nil _ hpool
      rw [deriveMenuChain_of_mem_pool hagree hcandidate,
        deriveMenuChain_of_mem_pool ((agree_congr hmem hparents).mp hagree)
          ((mem_candidatePool_congr hmem).mp hcandidate),
        deriveChainForCandidate_congr hparents]
  · rw [deriveMenuChain_of_not_agree hagree,
      deriveMenuChain_of_not_agree ((agree_congr hmem hparents).not.mp hagree)]

end Order

/-- **With distinct ids the chain of a page does not depend on the order of its menus.** -/
theorem deriveMenuChain_perm (hids : (menus.map (·.id)).Nodup) (h : menus.Perm menus') :
    deriveMenuChain menus routePath = deriveMenuChain menus' routePath := by
  have hlabeled : ((labeledNodes menus).map (·.id)).Nodup :=
    hids.sublist (List.filter_sublist.map _)
  have hlabeled' : ((labeledNodes menus').map (·.id)).Nodup :=
    ((h.map _).nodup_iff.mp hids).sublist (List.filter_sublist.map _)
  exact deriveMenuChain_congr (fun _ => h.mem_iff)
    (parentOf_congr hlabeled hlabeled' (mem_labeledNodes_congr fun _ => h.mem_iff))

/-! ## Where a chain ends -/

/-- The depth of a leaf counts the menus above it. -/
theorem GenuineLineage.depth_leaf {leaf : MenuNode} {lineage : List MenuNode}
    (h : GenuineLineage nodes leaf lineage) : leaf.depth + 1 = lineage.length := by
  obtain ⟨n, hn⟩ : ∃ n, lineage.length = n + 1 := by
    refine Nat.exists_eq_succ_of_ne_zero fun hzero => ?_
    have hleaf := h.leaf
    rw [List.length_eq_zero_iff.mp hzero] at hleaf
    exact Option.some_ne_none leaf hleaf.symm
  have hlast := congrArg List.getLast? h.depths
  rw [List.getLast?_map, h.leaf, hn, List.range_succ, List.map_append, List.map_singleton,
    List.getLast?_concat] at hlast
  rw [hn, show leaf.depth = Int.ofNat n from Option.some_inj.mp hlast]
  rfl

/-- Above a leaf that hangs from something, the lineage is that of its parent. -/
theorem GenuineLineage.exists_parent {leaf : MenuNode} {lineage : List MenuNode}
    (h : GenuineLineage nodes leaf lineage) (hparent : leaf.parentId ≠ none) :
    ∃ parent ∈ nodes, parent.depth + 2 = lineage.length := by
  obtain ⟨above, rfl⟩ : ∃ above, lineage = above ++ [leaf] :=
    List.getLast?_eq_some_iff.mp h.leaf
  rcases List.eq_nil_or_concat above with rfl | ⟨top, parent, rfl⟩
  · exact absurd (h.root leaf rfl) hparent
  · refine ⟨parent, h.mem parent (by simp), ?_⟩
    have hdepths := h.depths
    have hlength : (top.concat parent ++ [leaf]).length = top.length + 1 + 1 := by
      rw [List.length_append, List.length_concat, List.length_singleton]
    rw [hlength, List.range_succ, List.map_append, List.map_append, List.range_succ,
      List.map_append] at hdepths
    have hinitial := (List.append_inj' hdepths rfl).1
    rw [List.concat_eq_append, List.map_append] at hinitial
    have hdepth : [parent.depth] = [Int.ofNat top.length] := (List.append_inj' hinitial rfl).2
    rw [hlength, List.singleton_inj.mp hdepth]
    rfl

/-- The end of a chain: a labelled menu with the route, or, where there is none, one with no
labelled menu below it. -/
def EndsAt (menus : List MenuNode) (routePath : String) (leaf : MenuNode) : Prop :=
  leaf ∈ labeledNodes menus ∧ (routeMatches leaf.routePath routePath = true ∨
    (matchingNodes menus routePath = [] ∧
      ∀ child ∈ labeledNodes menus, child.parentId ≠ some leaf.id))

theorem endsAt_of_mem_pool (hagree : Agree menus routePath)
    (hcandidate : candidate ∈ candidatePool menus routePath)
    (hcomplete : deriveChainForCandidate candidate (labeledNodes menus) = (chain, true)) :
    EndsAt menus routePath candidate := by
  refine ⟨mem_nodes_of_mem_pool hcandidate, ?_⟩
  by_cases hmatch : matchingNodes menus routePath = []
  · refine Or.inr ⟨hmatch, fun child hchild hparent => ?_⟩
    rw [candidatePool, if_pos hmatch] at hcandidate
    by_cases hleaf : candidate ∈ (labeledNodes menus).filter fun node =>
        !(labeledNodes menus).any fun child => child.parentId = some node.id
    · have hany := (List.mem_filter.mp hleaf).2
      rw [Bool.not_eq_true', List.any_eq_false] at hany
      exact hany child hchild (decide_eq_true hparent)
    · -- Every labelled menu is a candidate, and so all of them stand at one depth.
      have hall : leafCandidates (labeledNodes menus) = labeledNodes menus := by
        unfold leafCandidates at hcandidate ⊢
        dsimp only at hcandidate ⊢
        split
        · rfl
        · rename_i hleaves
          rw [if_neg hleaves] at hcandidate
          exact absurd hcandidate hleaf
      have hpool : candidatePool menus routePath = labeledNodes menus := by
        rw [candidatePool, if_pos hmatch, hall]
      rw [hall] at hcandidate
      have hlength : ∀ node ∈ labeledNodes menus, ∃ lineage,
          GenuineLineage (labeledNodes menus) node lineage ∧ lineage.length = chain.length := by
        intro node hnode
        have hsame := (hagree node (hpool ▸ hnode) candidate (hpool ▸ hcandidate)).1
        obtain ⟨lineage, hgenuine, rfl⟩ := exists_genuineLineage hnode (hsame.trans hcomplete)
        exact ⟨lineage, hgenuine, (List.length_map _).symm⟩
      obtain ⟨lineage, hgenuine, hchain⟩ := hlength child hchild
      have hhangs : child.parentId ≠ none := by
        rw [hparent]
        exact Option.some_ne_none _
      obtain ⟨above, habove, hdepth⟩ := hgenuine.exists_parent hhangs
      obtain ⟨lineage', hgenuine', hchain'⟩ := hlength above habove
      have hdepth' := hgenuine'.depth_leaf
      omega
  · rw [candidatePool, if_neg hmatch] at hcandidate
    exact Or.inl (List.mem_filter.mp hcandidate).2

/-- **A chain that is not empty is the one all candidates agree on.** -/
theorem agree_of_deriveMenuChain (h : deriveMenuChain menus routePath = (chain, complete))
    (hchain : chain ≠ []) :
    Agree menus routePath ∧ candidatePool menus routePath ≠ [] ∧
      ∀ candidate ∈ candidatePool menus routePath,
        deriveChainForCandidate candidate (labeledNodes menus) = (chain, complete) := by
  have hagree : Agree menus routePath := by
    by_contra hne
    rw [deriveMenuChain_of_not_agree hne] at h
    exact hchain (congrArg Prod.fst h).symm
  refine ⟨hagree, fun hnil => ?_, fun candidate hcandidate => ?_⟩
  · rw [deriveMenuChain_of_pool_nil hnil] at h
    exact hchain (congrArg Prod.fst h).symm
  · rw [← deriveMenuChain_of_mem_pool hagree hcandidate, h]

/-- **A complete chain is read from a root down to where the route ends.** -/
theorem exists_lineage_of_complete (h : deriveMenuChain menus routePath = (chain, true)) :
    ∃ leaf lineage, EndsAt menus routePath leaf ∧
      GenuineLineage (labeledNodes menus) leaf lineage ∧
      chain = lineage.map fun node => Text.strip node.label := by
  have hchain : chain ≠ [] := by
    rintro rfl
    by_cases hagree : Agree menus routePath
    · rcases Decidable.eq_or_ne (candidatePool menus routePath) [] with hnil | hne
      · rw [deriveMenuChain_of_pool_nil hnil] at h
        exact Bool.false_ne_true (congrArg Prod.snd h)
      · obtain ⟨candidate, hcandidate⟩ := List.exists_mem_of_ne_nil _ hne
        rw [deriveMenuChain_of_mem_pool hagree hcandidate] at h
        exact deriveChainForCandidate_ne_nil (congrArg Prod.fst h)
    · rw [deriveMenuChain_of_not_agree hagree] at h
      exact Bool.false_ne_true (congrArg Prod.snd h)
  obtain ⟨hagree, hpool, hall⟩ := agree_of_deriveMenuChain h hchain
  obtain ⟨candidate, hcandidate⟩ := List.exists_mem_of_ne_nil _ hpool
  obtain ⟨lineage, hgenuine, hlabels⟩ :=
    exists_genuineLineage (mem_nodes_of_mem_pool hcandidate) (hall candidate hcandidate)
  exact ⟨candidate, lineage, endsAt_of_mem_pool hagree hcandidate (hall candidate hcandidate),
    hgenuine, hlabels⟩

end Chains

/-! ## The chains of a page, together -/

/-- **Navigation chains follow real parent links.** -/
theorem navigation_chains (menus : List MenuNode) (pageId : UUID) (routePath : String)
    (pageTitle : Option String) :
    (∀ menu, ClimbsTo (parentOf menus) (·.id) [] menu
      (menuLineage menus (menus.length + 1) [] menu)) ∧
    (∀ nodes candidate, ∃ l, ClimbsTo (parentOf nodes) (·.id) [] candidate l ∧
      candidateLineage nodes (nodes.length + 1) [candidate.id] candidate [candidate] =
        if endsAtRoot l then some l.reverse else none) ∧
    ClosedUpwards menus pageId (buildNavigationMenuTopology pageId menus) ∧
    (∀ chain, deriveMenuChain menus routePath = (chain, true) →
      ∃ leaf lineage, EndsAt menus routePath leaf ∧
        GenuineLineage (labeledNodes menus) leaf lineage ∧
        chain = lineage.map fun node => Text.strip node.label) ∧
    (∀ chain complete, deriveMenuChain menus routePath = (chain, complete) → chain ≠ [] →
      Agree menus routePath ∧ ∀ candidate ∈ candidatePool menus routePath,
        deriveChainForCandidate candidate (labeledNodes menus) = (chain, complete)) ∧
    ((menus.map (·.id)).Nodup → ∀ menus', menus.Perm menus' →
      deriveMenuChain menus routePath = deriveMenuChain menus' routePath ∧
      (buildNavigationMenuTopology pageId menus).Perm
        (buildNavigationMenuTopology pageId menus') ∧
      buildNavigationAliases pageTitle routePath (buildNavigationMenuTopology pageId menus) =
        buildNavigationAliases pageTitle routePath (buildNavigationMenuTopology pageId menus')) := by
  refine ⟨climbsTo_menuLineage menus, candidateLineage_eq, (topology_spec menus pageId).1,
    fun chain => exists_lineage_of_complete, fun chain complete h hchain => ?_,
    fun hids menus' hperm => ?_⟩
  · obtain ⟨hagree, -, hall⟩ := agree_of_deriveMenuChain h hchain
    exact ⟨hagree, hall⟩
  · have htopology : (buildNavigationMenuTopology pageId menus).Perm
        (buildNavigationMenuTopology pageId menus') := topology_perm hids hperm
    refine ⟨deriveMenuChain_perm hids hperm, htopology, ?_⟩
    unfold buildNavigationAliases
    rw [deriveMenuChain_perm (topology_spec menus pageId).1.nodup htopology]

namespace ChainSample

/-- A page whose one menu has no label. -/
def menus : List MenuNode :=
  [{ id := 1, systemId := 5, snapshotId := 6, label := "Sales" },
    { id := 2, systemId := 5, snapshotId := 6, parentId := some 1, pageId := some 7, label := "",
      routePath := some "/orders", depth := 1 }]

/-- **The chain of the page is complete, and it ends above its menu.** -/
theorem unlabelled_leaf :
    deriveMenuChain (buildNavigationMenuTopology 7 menus) "/orders" = (["Sales"], true) ∧
      ¬ ∃ leaf ∈ menus, leaf.pageId = some 7 ∧ ∃ lineage,
        GenuineLineage (buildNavigationMenuTopology 7 menus) leaf lineage ∧
        ["Sales"] = lineage.map fun node => Text.strip node.label := by
  refine ⟨by decide +kernel, ?_⟩
  rintro ⟨leaf, hleaf, hpage, lineage, hgenuine, hlabels⟩
  have hlast := congrArg List.getLast? hlabels
  rw [List.getLast?_map, hgenuine.leaf] at hlast
  have hlabel : "Sales" = Text.strip leaf.label := Option.some_inj.mp hlast
  rcases List.mem_pair.mp hleaf with rfl | rfl
  · exact absurd hpage (by decide)
  · exact absurd hlabel (by decide)

end ChainSample

end NavigationAliases

end Runlet
