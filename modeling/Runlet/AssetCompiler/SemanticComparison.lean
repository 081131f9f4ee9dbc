import Runlet.AssetCompiler.Compiled
import Mathlib.Logic.Equiv.Basic

/-!
# What the semantic comparison depends on

Two snapshots have the same content when their rows correspond to each other: one renames the
identifiers of the pages, the menus and the elements, and the references between them follow
(`SameContent`).  The loader orders the rows of a snapshot by their columns and then by their
identifiers, so the comparison of two such snapshots is that of one list with a rearrangement of it.

## Where the identifiers show

* A state in which a route is empty, or stands twice, is not compared at all: `indexByRoute` fails.
* The elements of a page are a sorted set, so their order is lost.
* The menus of a page are a list.  Two of them at one depth and one position are in the order of
  their identifiers, which shows when their labels differ (`MenusOrdered` excludes it).

`reports_no_change` is the statement for all other snapshots.
-/

namespace Runlet

open KeyedTable

namespace CurrentStateDiff

/-! ## Indexing a state by route -/

/-- A state that can be indexed by route. -/
def Indexable (state : List PageSemanticFingerprint) : Prop :=
  (∀ f ∈ state, f.routePath ≠ "") ∧ (state.map (·.routePath)).Nodup

instance : DecidablePred Indexable := fun state =>
  inferInstanceAs (Decidable ((∀ f ∈ state, f.routePath ≠ "") ∧ (state.map (·.routePath)).Nodup))

theorem indexByRoute_of_indexable {index state : List PageSemanticFingerprint}
    (h : Indexable (index ++ state)) : indexByRoute index state = .ok (index ++ state) := by
  induction state generalizing index with
  | nil => rw [List.append_nil, indexByRoute]
  | cons f l ih =>
    have happend : index ++ f :: l = (index ++ [f]) ++ l := by simp
    have hne : f.routePath ≠ "" := h.1 f (List.mem_append_right _ List.mem_cons_self)
    have hfresh : ¬ (index.any fun seen => seen.routePath = f.routePath) = true := by
      intro hany
      obtain ⟨seen, hseen, hroute⟩ := List.any_eq_true.mp hany
      have hnodup := h.2
      rw [List.map_append, List.map_cons, List.nodup_append] at hnodup
      exact hnodup.2.2 seen.routePath (List.mem_map_of_mem hseen) f.routePath List.mem_cons_self
        (of_decide_eq_true hroute)
    rw [happend] at h ⊢
    rw [indexByRoute, if_neg hne, if_neg hfresh]
    exact ih h

theorem indexByRoute_of_not_indexable {index state : List PageSemanticFingerprint}
    (hindex : Indexable index) (h : ¬ Indexable (index ++ state)) :
    ∃ e, indexByRoute index state = .error e := by
  induction state generalizing index with
  | nil =>
    rw [List.append_nil] at h
    exact absurd hindex h
  | cons f l ih =>
    rw [indexByRoute]
    split
    · exact ⟨_, rfl⟩
    · rename_i hne
      split
      · exact ⟨_, rfl⟩
      · rename_i hfresh
        refine ih ⟨?_, ?_⟩ ?_
        · intro g hg
          rcases List.mem_append.mp hg with hg | hg
          · exact hindex.1 g hg
          · rw [List.mem_singleton.mp hg]
            exact hne
        · rw [List.map_append, List.nodup_append]
          refine ⟨hindex.2, List.nodup_singleton _, ?_⟩
          intro route hroute route' hroute' heq
          obtain ⟨g, hg, rfl⟩ := List.mem_map.mp hroute
          rw [List.map_singleton, List.mem_singleton] at hroute'
          exact hfresh (List.any_eq_true.mpr ⟨g, hg, decide_eq_true (heq.trans hroute')⟩)
        · rw [List.append_assoc, List.singleton_append]
          exact h

theorem lookup_eq_some_iff {state : List PageSemanticFingerprint} (h : Indexable state)
    {route : String} {f : PageSemanticFingerprint} :
    lookup state route = some f ↔ f ∈ state ∧ f.routePath = route := by
  unfold lookup
  constructor
  · intro hfind
    exact ⟨List.mem_of_find?_eq_some hfind, by simpa using List.find?_some hfind⟩
  · rintro ⟨hf, rfl⟩
    cases hfind : state.find? fun g => g.routePath = f.routePath with
    | none => simpa using List.find?_eq_none.mp hfind f hf
    | some g =>
      have hg : g ∈ state := List.mem_of_find?_eq_some hfind
      have hroute : g.routePath = f.routePath := by simpa using List.find?_some hfind
      rw [List.inj_on_of_nodup_map h.2 hg hf hroute]

/-- **Rearranging a state changes nothing.** -/
theorem compareSemanticStates_of_perm {active draft : List PageSemanticFingerprint}
    (hperm : draft.Perm active) (h : Indexable active) :
    ∃ diff, compareSemanticStates active draft = .ok diff ∧ diff.hasChanges = false := by
  have hdraft : Indexable draft :=
    ⟨fun f hf => h.1 f (hperm.mem_iff.mp hf), (hperm.map _).nodup_iff.mpr h.2⟩
  have hlookup : ∀ route, lookup draft route = lookup active route := by
    intro route
    refine Option.ext fun f => ?_
    rw [lookup_eq_some_iff h, lookup_eq_some_iff hdraft, hperm.mem_iff]
  have hsome : ∀ state, Indexable state → ∀ f ∈ state, (lookup state f.routePath).isSome := by
    intro state hstate f hf
    rw [(lookup_eq_some_iff hstate).mpr ⟨hf, rfl⟩]
    rfl
  refine ⟨⟨[], [], []⟩, ?_, rfl⟩
  unfold compareSemanticStates
  rw [@indexByRoute_of_indexable [] _ h, @indexByRoute_of_indexable [] _ hdraft]
  simp only [List.nil_append, bind, Except.bind, pure, Except.pure, hlookup]
  refine congrArg Except.ok (SemanticStateDiff.mk.injEq .. |>.mpr ⟨?_, ?_, ?_⟩)
  · rw [List.filter_eq_nil_iff]
    intro route hroute
    obtain ⟨f, hf, rfl⟩ := List.mem_map.mp hroute
    have := hsome draft hdraft f hf
    rw [hlookup] at this
    simp [Option.isSome_iff_ne_none.mp this]
  · rw [List.filter_eq_nil_iff]
    intro route hroute
    obtain ⟨f, hf, rfl⟩ := List.mem_map.mp hroute
    simp [Option.isSome_iff_ne_none.mp (hsome active h f hf)]
  · simp

/-- A state that cannot be indexed is not compared. -/
theorem compareSemanticStates_of_not_indexable {active d : List PageSemanticFingerprint}
    (h : ¬ Indexable active) : ∃ e, compareSemanticStates active d = .error e := by
  obtain ⟨e, he⟩ := @indexByRoute_of_not_indexable [] _ ⟨by simp, by simp⟩ h
  refine ⟨e, ?_⟩
  unfold compareSemanticStates
  rw [he]
  rfl

/-! ## The elements of a page are a set -/

instance : Std.Total fun a b : KeyElementDescriptor => a.sortKey ≤ b.sortKey :=
  ⟨fun a b => le_total a.sortKey b.sortKey⟩

instance : IsTrans KeyElementDescriptor fun a b => a.sortKey ≤ b.sortKey :=
  ⟨fun _ _ _ => le_trans⟩

theorem sortKey_injective : Function.Injective KeyElementDescriptor.sortKey := by
  rintro ⟨k, r, t⟩ ⟨k', r', t'⟩ h
  simpa [KeyElementDescriptor.sortKey] using h

theorem normalizeKeyElements_perm {l l' : List KeyElementDescriptor} (h : l'.Perm l) :
    normalizeKeyElements l' = normalizeKeyElements l := by
  have hdups : l'.eraseDups.Perm l.eraseDups := by
    refine (List.perm_ext_iff_of_nodup (Dict.nodup_eraseDups l') (Dict.nodup_eraseDups l)).mpr fun d => ?_
    rw [List.mem_eraseDups, List.mem_eraseDups, h.mem_iff]
  have hsorted := (List.perm_insertionSort (fun a b : KeyElementDescriptor =>
    a.sortKey ≤ b.sortKey) l'.eraseDups).trans (hdups.trans (List.perm_insertionSort
      (fun a b : KeyElementDescriptor => a.sortKey ≤ b.sortKey) l.eraseDups).symm)
  refine List.Perm.eq_of_pairwise (fun a b _ _ hab hba => sortKey_injective (le_antisymm hab hba))
    (List.pairwise_insertionSort _ _) (List.pairwise_insertionSort _ _) hsorted

end CurrentStateDiff

namespace CurrentStateSwitch

open CurrentStateDiff

/-! ## Two snapshots of one content -/

/-- New identifiers for the rows of a snapshot. -/
structure Renaming where
  page : Equiv.Perm UUID
  menu : Equiv.Perm UUID
  element : Equiv.Perm UUID

namespace Renaming

variable (ρ : Renaming) (snapshotId : UUID)

def onPage (page : Page) : Page :=
  { page with id := ρ.page page.id, snapshotId := some snapshotId }

def onMenu (menu : MenuNode) : MenuNode :=
  { menu with
    id := ρ.menu menu.id
    snapshotId := snapshotId
    pageId := menu.pageId.map ρ.page
    parentId := menu.parentId.map ρ.menu }

def onElement (element : PageElement) : PageElement :=
  { element with
    id := ρ.element element.id
    snapshotId := snapshotId
    pageId := ρ.page element.pageId }

end Renaming

/-- The rows of the second snapshot are those of the first, under the new identifiers. -/
structure SameContent (ρ : Renaming) (activeId draftId : UUID) (db db' : Db) : Prop where
  pages : ∀ page', page' ∈ db'.pages ∧ page'.snapshotId = some draftId ↔
    ∃ page ∈ db.pages, page.snapshotId = some activeId ∧ ρ.onPage draftId page = page'
  menus : ∀ menu', menu' ∈ db'.menuNodes ∧ menu'.snapshotId = draftId ↔
    ∃ menu ∈ db.menuNodes, menu.snapshotId = activeId ∧ ρ.onMenu draftId menu = menu'
  elements : ∀ element', element' ∈ db'.pageElements ∧ element'.snapshotId = draftId ↔
    ∃ element ∈ db.pageElements, element.snapshotId = activeId ∧
      ρ.onElement draftId element = element'

/-- If they stand at one depth and one position, two menus with a label have one label. -/
def OrderedByPlace (m m' : MenuNode) : Prop :=
  m.depth = m'.depth ∧ m.sortOrder = m'.sortOrder →
    Text.strip m.label ≠ "" ∧ Text.strip m'.label ≠ "" → Text.strip m.label = Text.strip m'.label

instance (m m' : MenuNode) : Decidable (OrderedByPlace m m') := by
  unfold OrderedByPlace
  infer_instance

/-- The menus of each page are ordered by their places. -/
def MenusOrdered (snapshotId : UUID) (db : Db) : Prop :=
  ∀ page ∈ db.pages, page.snapshotId = some snapshotId →
    ∀ m ∈ pageMenus snapshotId page.id db, ∀ m' ∈ pageMenus snapshotId page.id db,
      OrderedByPlace m m'

section Loaded

variable {ρ : Renaming} {activeId draftId : UUID} {db db' : Db}

theorem mem_pageMenus {snapshotId pageId : UUID} {m : MenuNode} :
    m ∈ pageMenus snapshotId pageId db ↔
      m ∈ db.menuNodes ∧ m.snapshotId = snapshotId ∧ m.pageId = some pageId := by
  unfold pageMenus
  rw [List.mem_insertionSort, Table.mem_select, Bool.and_eq_true, decide_eq_true_eq,
    decide_eq_true_eq]

theorem mem_pageElements {snapshotId pageId : UUID} {e : PageElement} :
    e ∈ pageElements snapshotId pageId db ↔
      e ∈ db.pageElements ∧ e.snapshotId = snapshotId ∧ e.pageId = pageId := by
  unfold pageElements
  rw [List.mem_insertionSort, Table.mem_select, Bool.and_eq_true, decide_eq_true_eq,
    decide_eq_true_eq]

theorem nodup_pageMenus (snapshotId pageId : UUID) : (pageMenus snapshotId pageId db).Nodup := by
  unfold pageMenus
  exact (List.perm_insertionSort _ _).nodup_iff.mpr (Table.nodup_select _ _)

theorem nodup_pageElements (snapshotId pageId : UUID) :
    (pageElements snapshotId pageId db).Nodup := by
  unfold pageElements
  exact (List.perm_insertionSort _ _).nodup_iff.mpr (Table.nodup_select _ _)

theorem nodup_snapshotPages (snapshotId : UUID) : (snapshotPages snapshotId db).Nodup := by
  unfold snapshotPages
  exact (List.perm_insertionSort _ _).nodup_iff.mpr (Table.nodup_select _ _)

/-- Rows under new identifiers are as many as before. -/
theorem perm_map_of_mem_iff {α : Type*} {l l' : List α} {f : α → α} (id : α → UUID)
    {σ : Equiv.Perm UUID} (hl : l.Nodup) (hl' : l'.Nodup) (hid : ∀ a, id (f a) = σ (id a))
    (hinj : ∀ a ∈ l, ∀ b ∈ l, id a = id b → a = b) (hmem : ∀ b, b ∈ l' ↔ ∃ a ∈ l, f a = b) :
    l'.Perm (l.map f) := by
  have hmap : (l.map f).Nodup := by
    refine List.Nodup.map_on (fun a ha b hb hab => hinj a ha b hb ?_) hl
    have := congrArg id hab
    rwa [hid, hid, σ.apply_eq_iff_eq] at this
  refine (List.perm_ext_iff_of_nodup hl' hmap).mpr fun b => ?_
  rw [hmem, List.mem_map]

theorem snapshotPages_perm (h : SameContent ρ activeId draftId db db') :
    (snapshotPages draftId db').Perm ((snapshotPages activeId db).map (ρ.onPage draftId)) := by
  refine perm_map_of_mem_iff Page.id (σ := ρ.page) (nodup_snapshotPages _)
    (nodup_snapshotPages _) (fun _ => rfl) ?_ ?_
  · intro p hp q hq hid
    exact Table.eq_of_key_eq (AssetCompiler.mem_snapshotPages.mp hp).1 (AssetCompiler.mem_snapshotPages.mp hq).1 hid
  · intro page'
    rw [AssetCompiler.mem_snapshotPages, h.pages]
    simp only [AssetCompiler.mem_snapshotPages, and_assoc]

theorem pageMenus_perm (h : SameContent ρ activeId draftId db db') (pageId : UUID) :
    (pageMenus draftId (ρ.page pageId) db').Perm
      ((pageMenus activeId pageId db).map (ρ.onMenu draftId)) := by
  refine perm_map_of_mem_iff MenuNode.id (σ := ρ.menu) (nodup_pageMenus _ _)
    (nodup_pageMenus _ _) (fun _ => rfl) ?_ ?_
  · intro m hm m' hm' hid
    exact Table.eq_of_key_eq (mem_pageMenus.mp hm).1 (mem_pageMenus.mp hm').1 hid
  · intro menu'
    rw [mem_pageMenus, ← and_assoc, h.menus]
    constructor
    · rintro ⟨⟨m, hm, hsnapshot, rfl⟩, hpage⟩
      obtain ⟨q, hq, hqid⟩ := Option.map_eq_some_iff.mp hpage
      rw [ρ.page.apply_eq_iff_eq] at hqid
      exact ⟨m, mem_pageMenus.mpr ⟨hm, hsnapshot, hqid ▸ hq⟩, rfl⟩
    · rintro ⟨m, hm, rfl⟩
      obtain ⟨hmem, hsnapshot, hpage⟩ := mem_pageMenus.mp hm
      refine ⟨⟨m, hmem, hsnapshot, rfl⟩, ?_⟩
      change m.pageId.map ρ.page = _
      rw [hpage]
      rfl

theorem pageElements_perm (h : SameContent ρ activeId draftId db db') (pageId : UUID) :
    (pageElements draftId (ρ.page pageId) db').Perm
      ((pageElements activeId pageId db).map (ρ.onElement draftId)) := by
  refine perm_map_of_mem_iff PageElement.id (σ := ρ.element) (nodup_pageElements _ _)
    (nodup_pageElements _ _) (fun _ => rfl) ?_ ?_
  · intro e he e' he' hid
    exact Table.eq_of_key_eq (mem_pageElements.mp he).1 (mem_pageElements.mp he').1 hid
  · intro element'
    rw [mem_pageElements, ← and_assoc, h.elements]
    constructor
    · rintro ⟨⟨e, he, hsnapshot, rfl⟩, hpage⟩
      exact ⟨e, mem_pageElements.mpr ⟨he, hsnapshot, ρ.page.apply_eq_iff_eq.mp hpage⟩, rfl⟩
    · rintro ⟨e, he, rfl⟩
      obtain ⟨hmem, hsnapshot, hpage⟩ := mem_pageElements.mp he
      exact ⟨⟨e, hmem, hsnapshot, rfl⟩, congrArg ρ.page hpage⟩

/-! ## The fingerprints of two snapshots of one content -/

/-- The place of a menu in its page, and its label. -/
def placedLabel (m : MenuNode) : (Int ×ₗ Int) × String :=
  (toLex (m.depth, m.sortOrder), Text.strip m.label)

/-- The labels of a list of menus, with their places. -/
def placedLabels (menus : List MenuNode) : List ((Int ×ₗ Int) × String) :=
  (menus.map placedLabel).filter fun placed => placed.2 ≠ ""

/-- The menu chain of a fingerprint. -/
theorem menuChain_eq (menus : List MenuNode) :
    ((((menus.map (·.label)).filter fun label => Text.strip label ≠ "").map Text.strip).filter
        fun label => label ≠ "") = (placedLabels menus).map Prod.snd := by
  unfold placedLabels
  induction menus with
  | nil => rfl
  | cons m l ih =>
    by_cases hlabel : Text.strip m.label = ""
    · simpa [placedLabel, hlabel] using ih
    · simpa [placedLabel, hlabel] using ih

theorem pairwise_pageMenus (snapshotId pageId : UUID) :
    (placedLabels (pageMenus snapshotId pageId db)).Pairwise fun a b => a.1 ≤ b.1 := by
  have htotal : Std.Total fun a b : MenuNode =>
      (toLex (a.depth, toLex (a.sortOrder, a.id)) : Int ×ₗ Int ×ₗ UUID) ≤
        toLex (b.depth, toLex (b.sortOrder, b.id)) := ⟨fun _ _ => le_total _ _⟩
  have htrans : IsTrans MenuNode fun a b : MenuNode =>
      (toLex (a.depth, toLex (a.sortOrder, a.id)) : Int ×ₗ Int ×ₗ UUID) ≤
        toLex (b.depth, toLex (b.sortOrder, b.id)) := ⟨fun _ _ _ => le_trans⟩
  refine List.Pairwise.filter _ (List.Pairwise.map _ ?_ (List.pairwise_insertionSort _ _))
  intro a b hab
  -- The identifier is the last part of the key, so the places are in order without it.
  change toLex (a.depth, a.sortOrder) ≤ toLex (b.depth, b.sortOrder)
  rw [Prod.Lex.toLex_le_toLex] at hab ⊢
  rcases hab with hlt | ⟨heq, hrest⟩
  · exact Or.inl hlt
  · rw [Prod.Lex.toLex_le_toLex] at hrest
    exact Or.inr ⟨heq, hrest.elim le_of_lt fun h => h.1.le⟩

theorem placedLabels_perm (h : SameContent ρ activeId draftId db db') (pageId : UUID) :
    (placedLabels (pageMenus draftId (ρ.page pageId) db')).Perm
      (placedLabels (pageMenus activeId pageId db)) := by
  have hmap := ((pageMenus_perm h pageId).map placedLabel).filter fun placed => placed.2 ≠ ""
  rwa [List.map_map] at hmap

/-- Menus that are ordered by their places show no identifiers. -/
theorem placedLabels_eq (h : SameContent ρ activeId draftId db db')
    (hmenus : MenusOrdered activeId db) {page : Page} (hpage : page ∈ db.pages)
    (hsnapshot : page.snapshotId = some activeId) :
    placedLabels (pageMenus draftId (ρ.page page.id) db') =
      placedLabels (pageMenus activeId page.id db) := by
  refine (placedLabels_perm h page.id).eq_of_pairwise ?_ (pairwise_pageMenus _ _)
    (pairwise_pageMenus _ _)
  intro a b ha hb hab hba
  rw [(placedLabels_perm h page.id).mem_iff] at ha
  obtain ⟨hamem, halabel⟩ := List.mem_filter.mp ha
  obtain ⟨hbmem, hblabel⟩ := List.mem_filter.mp hb
  obtain ⟨m, hm, rfl⟩ := List.mem_map.mp hamem
  obtain ⟨m', hm', rfl⟩ := List.mem_map.mp hbmem
  have hplace : (placedLabel m).1 = (placedLabel m').1 := le_antisymm hab hba
  have hpair := Prod.mk.inj (toLex.injective hplace)
  exact Prod.ext hplace (hmenus page hpage hsnapshot m hm m' hm' hpair
    ⟨of_decide_eq_true halabel, of_decide_eq_true hblabel⟩)

/-- **A page under a new identifier has its old fingerprint.** -/
theorem pageFingerprint_eq (h : SameContent ρ activeId draftId db db')
    (hmenus : MenusOrdered activeId db) {page : Page} (hpage : page ∈ db.pages)
    (hsnapshot : page.snapshotId = some activeId) :
    pageFingerprint draftId db' (ρ.onPage draftId page) = pageFingerprint activeId db page := by
  unfold pageFingerprint buildFingerprint
  refine PageSemanticFingerprint.mk.injEq .. |>.mpr ⟨rfl, rfl, ?_, ?_⟩
  · rw [menuChain_eq, menuChain_eq]
    exact congrArg (List.map Prod.snd) (placedLabels_eq h hmenus hpage hsnapshot)
  · refine normalizeKeyElements_perm (List.Perm.filterMap _ ?_)
    have hmap := (pageElements_perm h page.id).map fun element =>
      (some element.elementType, element.elementRole, some (buildElementSemanticText element))
    rwa [List.map_map] at hmap

/-- **The state of the second snapshot is that of the first, rearranged.** -/
theorem loadSnapshotSemanticState_perm (h : SameContent ρ activeId draftId db db')
    (hmenus : MenusOrdered activeId db) :
    (loadSnapshotSemanticState draftId db').Perm (loadSnapshotSemanticState activeId db) := by
  have hmap := (snapshotPages_perm h).map (pageFingerprint draftId db')
  rw [List.map_map] at hmap
  refine hmap.trans (List.Perm.of_eq (List.map_congr_left fun page hpage => ?_))
  obtain ⟨hmem, hsnapshot⟩ := AssetCompiler.mem_snapshotPages.mp hpage
  exact pageFingerprint_eq h hmenus hmem hsnapshot

end Loaded

/-! ## The comparison -/

/-- The comparison of two loaded states succeeds and shows nothing new. -/
def ReportsNoChange (activeId draftId : UUID) (db db' : Db) : Prop :=
  ∃ diff, compareSemanticStates (loadSnapshotSemanticState activeId db)
    (loadSnapshotSemanticState draftId db') = .ok diff ∧ diff.hasChanges = false

/-- **Two snapshots of one content show no change**, when their routes can be indexed and the menus
of each page are ordered by their places; when their routes cannot be indexed they are not
compared. -/
theorem reports_no_change {ρ : Renaming} {activeId draftId : UUID} {db db' : Db}
    (h : SameContent ρ activeId draftId db db') :
    (Indexable (loadSnapshotSemanticState activeId db) → MenusOrdered activeId db →
        ReportsNoChange activeId draftId db db') ∧
      (¬ Indexable (loadSnapshotSemanticState activeId db) →
        ∃ e, compareSemanticStates (loadSnapshotSemanticState activeId db)
          (loadSnapshotSemanticState draftId db') = .error e) :=
  ⟨fun hindexable hmenus =>
      compareSemanticStates_of_perm (loadSnapshotSemanticState_perm h hmenus) hindexable,
    fun hindexable => compareSemanticStates_of_not_indexable hindexable⟩

/-! ## A route that stands twice, and two menus at one place -/

namespace SemanticSample

def page (id snapshotId : UUID) : Page where
  id := id
  systemId := 1
  snapshotId := some snapshotId
  routePath := "/a"

def menu (id snapshotId pageId : UUID) (label : String) (depth : Int) : MenuNode where
  id := id
  systemId := 1
  snapshotId := snapshotId
  pageId := some pageId
  label := label
  depth := depth

/-- Two snapshots with one page each; the two menus of the page were inserted in either order, and
the second one lies at a given depth. -/
def inserted (depth : Int) : Db :=
  { pages := ⟨[page 20 10, page 21 11], by decide⟩
    menuNodes := ⟨[menu 40 10 20 "A" 0, menu 41 10 20 "B" depth, menu 42 11 21 "B" depth,
      menu 43 11 21 "A" 0], by simp [menu, key]⟩ }

def newIds : Renaming where
  page := Equiv.swap 20 21
  menu := (Equiv.swap 40 43).trans (Equiv.swap 41 42)
  element := Equiv.refl UUID

theorem sameContent (depth : Int) :
    SameContent newIds 10 11 (inserted depth) (inserted depth) where
  pages := by
    intro page'
    constructor
    · rintro ⟨hmem, hsnapshot⟩
      rcases List.mem_cons.mp hmem with rfl | hmem
      · exact absurd hsnapshot (by decide)
      · rw [List.mem_singleton.mp hmem]
        exact ⟨page 20 10, List.mem_cons_self, rfl, rfl⟩
    · rintro ⟨p, hmem, hsnapshot, rfl⟩
      rcases List.mem_cons.mp hmem with rfl | hmem
      · exact ⟨List.mem_cons_of_mem _ List.mem_cons_self, rfl⟩
      · rw [List.mem_singleton.mp hmem] at hsnapshot
        exact absurd hsnapshot (by decide)
  menus := by
    intro menu'
    constructor
    · rintro ⟨hmem, hsnapshot⟩
      rcases List.mem_cons.mp hmem with rfl | hmem
      · exact absurd hsnapshot (by simp [menu])
      rcases List.mem_cons.mp hmem with rfl | hmem
      · exact absurd hsnapshot (by simp [menu])
      rcases List.mem_cons.mp hmem with rfl | hmem
      · exact ⟨menu 41 10 20 "B" depth, List.mem_cons_of_mem _ List.mem_cons_self, rfl, rfl⟩
      · rw [List.mem_singleton.mp hmem]
        exact ⟨menu 40 10 20 "A" 0, List.mem_cons_self, rfl, rfl⟩
    · rintro ⟨m, hmem, hsnapshot, rfl⟩
      rcases List.mem_cons.mp hmem with rfl | hmem
      · exact ⟨List.mem_cons_of_mem _ (List.mem_cons_of_mem _ (List.mem_cons_of_mem _
          List.mem_cons_self)), rfl⟩
      rcases List.mem_cons.mp hmem with rfl | hmem
      · exact ⟨List.mem_cons_of_mem _ (List.mem_cons_of_mem _ List.mem_cons_self), rfl⟩
      rcases List.mem_cons.mp hmem with rfl | hmem
      · exact absurd hsnapshot (by simp [menu])
      · rw [List.mem_singleton.mp hmem] at hsnapshot
        exact absurd hsnapshot (by simp [menu])
  elements := by
    intro element'
    constructor
    · rintro ⟨hmem, -⟩
      exact absurd hmem List.not_mem_nil
    · rintro ⟨e, hmem, -, -⟩
      exact absurd hmem List.not_mem_nil

/-- Two snapshots, each with two pages of one route. -/
def repeated : Db :=
  { pages := ⟨[page 20 10, page 21 10, page 22 11, page 23 11], by decide⟩ }

def newPageIds : Renaming where
  page := (Equiv.swap 20 22).trans (Equiv.swap 21 23)
  menu := Equiv.refl UUID
  element := Equiv.refl UUID

theorem sameContent_repeated : SameContent newPageIds 10 11 repeated repeated where
  pages := by
    intro page'
    constructor
    · rintro ⟨hmem, hsnapshot⟩
      rcases List.mem_cons.mp hmem with rfl | hmem
      · exact absurd hsnapshot (by decide)
      rcases List.mem_cons.mp hmem with rfl | hmem
      · exact absurd hsnapshot (by decide)
      rcases List.mem_cons.mp hmem with rfl | hmem
      · exact ⟨page 20 10, List.mem_cons_self, rfl, rfl⟩
      · rw [List.mem_singleton.mp hmem]
        exact ⟨page 21 10, List.mem_cons_of_mem _ List.mem_cons_self, rfl, rfl⟩
    · rintro ⟨p, hmem, hsnapshot, rfl⟩
      rcases List.mem_cons.mp hmem with rfl | hmem
      · exact ⟨List.mem_cons_of_mem _ (List.mem_cons_of_mem _ List.mem_cons_self), rfl⟩
      rcases List.mem_cons.mp hmem with rfl | hmem
      · exact ⟨List.mem_cons_of_mem _ (List.mem_cons_of_mem _ (List.mem_cons_of_mem _
          List.mem_cons_self)), rfl⟩
      rcases List.mem_cons.mp hmem with rfl | hmem
      · exact absurd hsnapshot (by decide)
      · rw [List.mem_singleton.mp hmem] at hsnapshot
        exact absurd hsnapshot (by decide)
  menus := by
    intro menu'
    constructor
    · rintro ⟨hmem, -⟩
      exact absurd hmem List.not_mem_nil
    · rintro ⟨m, hmem, -, -⟩
      exact absurd hmem List.not_mem_nil
  elements := by
    intro element'
    constructor
    · rintro ⟨hmem, -⟩
      exact absurd hmem List.not_mem_nil
    · rintro ⟨e, hmem, -, -⟩
      exact absurd hmem List.not_mem_nil

end SemanticSample

instance (snapshotId : UUID) (db : Db) : Decidable (MenusOrdered snapshotId db) := by
  unfold MenusOrdered
  infer_instance

theorem reports_no_change_sample :
    ReportsNoChange 10 11 (SemanticSample.inserted 1) (SemanticSample.inserted 1) ∧
      ∃ e, compareSemanticStates (loadSnapshotSemanticState 10 SemanticSample.repeated)
        (loadSnapshotSemanticState 11 SemanticSample.repeated) = .error e :=
  ⟨(reports_no_change (SemanticSample.sameContent 1)).1 (by decide +kernel) (by decide +kernel),
    (reports_no_change SemanticSample.sameContent_repeated).2 (by decide +kernel)⟩

/-- Snapshots with a repeated route cannot be compared.  With both menus at one depth, the two
snapshots of the other sample show a change: their chains of menus are `A`, `B` and `B`, `A`. -/
theorem reports_no_change_fails :
    (¬ ∀ (ρ : Renaming) (activeId draftId : UUID) (db : Db),
        SameContent ρ activeId draftId db db → ReportsNoChange activeId draftId db db) ∧
      ¬ ∀ (ρ : Renaming) (activeId draftId : UUID) (db : Db),
        SameContent ρ activeId draftId db db →
          Indexable (loadSnapshotSemanticState activeId db) →
            ReportsNoChange activeId draftId db db := by
  constructor
  · intro h
    obtain ⟨diff, hdiff, -⟩ := h SemanticSample.newPageIds 10 11 SemanticSample.repeated
      SemanticSample.sameContent_repeated
    have hrepeated : ¬ Indexable (loadSnapshotSemanticState 10 SemanticSample.repeated) := by
      decide +kernel
    obtain ⟨e, he⟩ := compareSemanticStates_of_not_indexable
      (d := loadSnapshotSemanticState 11 SemanticSample.repeated) hrepeated
    rw [he] at hdiff
    cases hdiff
  · intro h
    obtain ⟨diff, hdiff, hnone⟩ := h SemanticSample.newIds 10 11 (SemanticSample.inserted 0)
      (SemanticSample.sameContent 0) (by decide +kernel)
    have hchanged : compareSemanticStates (loadSnapshotSemanticState 10 (SemanticSample.inserted 0))
        (loadSnapshotSemanticState 11 (SemanticSample.inserted 0)) = .ok ⟨[], [], ["/a"]⟩ := by
      decide +kernel
    rw [hchanged] at hdiff
    obtain rfl := Except.ok.inj hdiff
    exact absurd hnone (by decide)

end CurrentStateSwitch

end Runlet
