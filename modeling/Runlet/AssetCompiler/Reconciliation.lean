import Runlet.Infrastructure.Assets
import Runlet.Library.Dict
import Runlet.AssetCompiler.Elements
import Mathlib.Data.Prod.Lex

/-!
# Reconciliation: what a snapshot retires

`asset_compiler/reconciliation.py`.  A snapshot is read as a truth about the system (its routes,
the menu labels and the elements of each route); a check is read as the list of what it depends on
(a chain of labels, some elements); and a check is retired when its route or one of these is
missing from the truth, provided the snapshot is good enough to be believed.

The claims about retirement rest on `mem_reconcile`, which says which check is retired for which
reason.
-/

namespace Runlet

open Dict

structure RetirementDecision where
  pageAssetId : UUID
  pageCheckIds : List UUID
  reason : String
  deriving DecidableEq

structure QualityGateDecision where
  allowRetirement : Bool
  warningPayload : Option CollapseWarning := none
  deriving DecidableEq

structure ActivePageTruth where
  pageAssetId : UUID
  routePath : String
  deriving DecidableEq

structure ActiveCheckTruth where
  pageCheckId : UUID
  pageAssetId : UUID
  blockingDependencyJson : BlockingDependency
  deriving DecidableEq

/-- An element of a route, by the columns a dependency can name. -/
structure ElementTruth where
  kind : String
  role : String
  text : String
  deriving DecidableEq

structure SnapshotTruth where
  routePaths : List String
  menuChainByRoute : Groups String String
  elementsByRoute : Groups String ElementTruth

namespace Reconciliation

open AssetCompiler (normalizeText)

def qualityGateMinScore : Rat := 7 / 10

def activePageCountCollapseRatio : Rat := 1 / 2

/-! ## The quality gate -/

/-- `round(q, 4)`, ties to even. -/
def round4 (q : Rat) : Rat :=
  let scaled := q * 10000
  let below := scaled.floor
  let half := scaled - below
  let n := if half < 1 / 2 then below
    else if 1 / 2 < half then below + 1
    else if below % 2 = 0 then below else below + 1
  n / 10000

def evaluateRetirementQualityGate (crawlType : String) (degraded : Bool)
    (qualityScore : Option Rat) (currentPageCount previousActivePageCount : ℕ) :
    QualityGateDecision :=
  if crawlType ≠ "full" then { allowRetirement := false }
  else if degraded then { allowRetirement := false }
  else if qualityScore.all fun score => score < qualityGateMinScore then
    { allowRetirement := false }
  else if previousActivePageCount = 0 then { allowRetirement := true }
  else
    let collapseRatio : Rat := currentPageCount / previousActivePageCount
    if collapseRatio < activePageCountCollapseRatio then
      { allowRetirement := false
        warningPayload := some
          { reason := "page_count_collapse"
            currentPageCount := currentPageCount
            previousActivePageCount := previousActivePageCount
            collapseRatio := round4 collapseRatio
            collapseRatioThreshold := activePageCountCollapseRatio } }
    else { allowRetirement := true }

/-! ## The truth of a snapshot -/

/-- `page_route_by_id.get(id, "")`. -/
def pageRoute (pages : List Page) (id : Option UUID) : String :=
  match pages.reverse.find? fun page => some page.id = id with
  | some page => Text.strip page.routePath
  | none => ""

/-- The order in which menus are read: menus of no page last, then by page, depth, position. -/
def menuKey (menu : MenuNode) : ℕ ×ₗ UUID ×ₗ Int ×ₗ Int ×ₗ UUID :=
  toLex (if menu.pageId = none then 1 else 0,
    toLex (menu.pageId.getD 0, toLex (menu.depth, toLex (menu.sortOrder, menu.id))))

/-- The route and label a menu contributes. -/
def menuEntry (pages : List Page) (menu : MenuNode) : Option (String × String) :=
  let routePath := pageRoute pages menu.pageId
  let label := Text.strip menu.label
  if routePath = "" || label = "" then none else some (routePath, label)

/-- The route and the columns an element contributes. -/
def elementEntry (pages : List Page) (element : PageElement) : Option (String × ElementTruth) :=
  let routePath := pageRoute pages (some element.pageId)
  if routePath = "" then none
  else some (routePath,
    { kind := Text.strip element.elementType
      role := normalizeText element.elementRole
      text := normalizeText element.elementText })

def buildCurrentSnapshotTruth (pages : List Page) (menus : List MenuNode)
    (elements : List PageElement) : SnapshotTruth where
  routePaths := ((pages.map fun page => Text.strip page.routePath).filter fun r => r ≠ "").eraseDups
  menuChainByRoute := groupPairs
    ((menus.insertionSort fun a b => menuKey a ≤ menuKey b).filterMap (menuEntry pages))
  elementsByRoute := groupPairs (elements.filterMap (elementEntry pages))

/-! ## The dependencies of a check -/

/-- Drop the columns that are empty after cleaning, and the descriptor when none is left. -/
def compactDescriptor (kind role text : String) : Option ElementDescriptor :=
  let column (s : String) : Option String := if Text.strip s = "" then none else some (Text.strip s)
  if column kind = none && column role = none && column text = none then none
  else some ⟨column kind, column role, column text⟩

def tableDescriptor : ElementDescriptor := { kind := some "table", role := some "table" }

def dialogDescriptor : ElementDescriptor := { kind := some "dialog", role := some "dialog" }

/-- The labels that are not empty after cleaning. -/
def cleanLabels (labels : List String) : List String :=
  (labels.map Text.strip).filter fun label => label ≠ ""

/-- `_normalize_text(step.get("module"))`. -/
def stepModule (step : Json) : String :=
  LocatorBundles.cleanText (step.get? "module")

/-- The menu chain a step asks for, when it is a navigation step. -/
def stepMenuChain? (step : Json) : Option (List String) :=
  match step.get? "params" with
  | some (.obj params) =>
    if stepModule step = "nav.menu_chain" then
      some (cleanLabels ((((Json.obj params).get? "menu_chain").getD (.arr [])).items.map fun v =>
        LocatorBundles.cleanText (some v)))
    else none
  | _ => none

/-- The element an assertion name stands for. -/
def assertionDescriptors (assertionName : String) : List ElementDescriptor :=
  if assertionName = "table_visible" then [tableDescriptor]
  else if assertionName = "modal_visible" then [dialogDescriptor]
  else []

/-- The elements an assertion names explicitly. -/
def namedDescriptors (assertionSchema : Json) : List ElementDescriptor :=
  ((assertionSchema.get? "required_elements").getD (.arr [])).items.filterMap fun item =>
    match item with
    | .obj l =>
      compactDescriptor (LocatorBundles.cleanText ((Json.obj l).get? "kind"))
        (LocatorBundles.cleanText ((Json.obj l).get? "role"))
        (LocatorBundles.cleanText ((Json.obj l).get? "text"))
    | _ => none

def buildBlockingDependencyJson (stepsJson : List Json)
    (assertionSchema : Option (List (String × Json))) : BlockingDependency :=
  let fromSteps := (stepsJson.filter fun step => stepModule step = "assert.table_visible").map
    fun _ => tableDescriptor
  let schema := assertionSchema.map Json.obj
  let named := (schema.map namedDescriptors).getD []
  let asserted := (schema.map fun s =>
    assertionDescriptors (LocatorBundles.cleanText (s.get? "assertion"))).getD []
  { menuChain := (stepsJson.filterMap stepMenuChain?).getLast?.getD []
    requiredElements := (named ++ (fromSteps ++ asserted)).eraseDups }

/-- `_normalize_dependency_json`. -/
def normalizeDependencyJson (value : BlockingDependency) : BlockingDependency where
  menuChain := cleanLabels value.menuChain
  requiredElements := value.requiredElements.filterMap fun d =>
    compactDescriptor (d.kind.getD "") (d.role.getD "") (d.text.getD "")

/-! ## Matching -/

/-- The greedy walk of `_menu_chain_satisfied`: the expected labels that are left. -/
def menuChainSatisfied : List String → List String → Bool
  | [], _ => true
  | _ :: _, [] => false
  | e :: expected, c :: current =>
    if c = e then menuChainSatisfied expected current
    else menuChainSatisfied (e :: expected) current

/-- One column of a descriptor: an empty one matches everything. -/
def columnMatches (expected : Option String) (current : String) : Bool :=
  normalizeText expected = "" || Text.strip current = normalizeText expected

def elementMatches (descriptor : ElementDescriptor) (current : ElementTruth) : Bool :=
  columnMatches descriptor.kind current.kind && columnMatches descriptor.role current.role &&
    columnMatches descriptor.text current.text

def requiredElementsSatisfied (expected : List ElementDescriptor) (current : List ElementTruth) :
    Bool :=
  expected.all fun descriptor => current.any fun row => elementMatches descriptor row

/-! ## Decisions -/

/-- Why a check on a route that is in the truth is retired, if it is. -/
def checkRetireReason (truth : SnapshotTruth) (routePath : String)
    (dependencies : BlockingDependency) : Option String :=
  let d := normalizeDependencyJson dependencies
  if d.menuChain ≠ [] ∧
      menuChainSatisfied d.menuChain (truth.menuChainByRoute.getD routePath) = false then
    some "missing_menu_chain"
  else if d.requiredElements ≠ [] ∧
      requiredElementsSatisfied d.requiredElements (truth.elementsByRoute.getD routePath) = false
    then some "missing_key_element"
  else none

/-- `route_path_by_asset_id.get(id, "")`. -/
def routePathByAssetId (activePages : List ActivePageTruth) (id : UUID) : String :=
  ((activePages.reverse.find? fun row => row.pageAssetId = id).map (·.routePath)).getD ""

def missingAssetIds (activePages : List ActivePageTruth) (truth : SnapshotTruth) : List UUID :=
  (activePages.filter fun row =>
    row.routePath ≠ "" && row.routePath ∉ truth.routePaths).map (·.pageAssetId)

/-- The group a check falls into when it is retired while its page is kept. -/
def checkGroup (activePages : List ActivePageTruth) (truth : SnapshotTruth)
    (row : ActiveCheckTruth) : Option ((UUID × String) × UUID) :=
  let routePath := routePathByAssetId activePages row.pageAssetId
  if row.pageAssetId ∈ missingAssetIds activePages truth then none
  else if routePath = "" || routePath ∉ truth.routePaths then none
  else (checkRetireReason truth routePath row.blockingDependencyJson).map fun reason =>
    ((row.pageAssetId, reason), row.pageCheckId)

/-- `sorted(set(ids), key=str)`. -/
def sortedSet (ids : List UUID) : List UUID :=
  ids.eraseDups.insertionSort (· ≤ ·)

def reconcileRetirementDecisions (activePages : List ActivePageTruth)
    (activeChecks : List ActiveCheckTruth) (truth : SnapshotTruth)
    (qualityGate : QualityGateDecision) : List RetirementDecision :=
  if qualityGate.allowRetirement = false then []
  else
    let checksByAssetId := groupPairs (activeChecks.map fun row => (row.pageAssetId, row.pageCheckId))
    let missing := (missingAssetIds activePages truth).map fun pageAssetId =>
      ({ pageAssetId := pageAssetId
         pageCheckIds := checksByAssetId.getD pageAssetId
         reason := "missing_page" } : RetirementDecision)
    let groups := groupPairs (activeChecks.filterMap (checkGroup activePages truth))
    missing ++ groups.map fun entry =>
      { pageAssetId := entry.1.1
        pageCheckIds := sortedSet entry.2
        reason := entry.1.2 }

/-! ## Which rows a decision names -/

section Membership

variable {activePages : List ActivePageTruth} {activeChecks : List ActiveCheckTruth}
  {truth : SnapshotTruth} {gate : QualityGateDecision}

theorem checkRetireReason_ne_missing_page {routePath : String} {d : BlockingDependency}
    {reason : String} (h : checkRetireReason truth routePath d = some reason) :
    reason ≠ "missing_page" := by
  unfold checkRetireReason at h
  dsimp only at h
  split at h
  · rw [← Option.some_inj.mp h]
    decide
  · split at h
    · rw [← Option.some_inj.mp h]
      decide
    · exact absurd h.symm (Option.some_ne_none reason)

theorem checkGroup_eq_some {row : ActiveCheckTruth} {k : UUID × String} {id : UUID}
    (h : checkGroup activePages truth row = some (k, id)) :
    k.1 = row.pageAssetId ∧ id = row.pageCheckId ∧ k.2 ≠ "missing_page" := by
  unfold checkGroup at h
  dsimp only at h
  split at h
  · exact absurd h.symm (Option.some_ne_none _)
  · split at h
    · exact absurd h.symm (Option.some_ne_none _)
    · obtain ⟨reason, hreason, heq⟩ := Option.map_eq_some_iff.mp h
      obtain ⟨rfl, rfl⟩ := Prod.mk.inj heq
      exact ⟨rfl, rfl, checkRetireReason_ne_missing_page hreason⟩

theorem mem_sortedSet {ids : List UUID} {id : UUID} : id ∈ sortedSet ids ↔ id ∈ ids := by
  rw [sortedSet, List.mem_insertionSort, List.mem_eraseDups]

/-- The assets that a decision retires. -/
theorem exists_missing_page_iff {id : UUID} :
    (∃ d ∈ reconcileRetirementDecisions activePages activeChecks truth gate,
        d.reason = "missing_page" ∧ d.pageAssetId = id) ↔
      gate.allowRetirement = true ∧ id ∈ missingAssetIds activePages truth := by
  unfold reconcileRetirementDecisions
  split
  · rename_i hgate
    simp [hgate]
  · rename_i hgate
    rw [Bool.not_eq_false] at hgate
    dsimp only
    rw [and_iff_right hgate]
    constructor
    · rintro ⟨d, hd, hreason, rfl⟩
      rcases List.mem_append.mp hd with hd | hd
      · obtain ⟨id, hid, rfl⟩ := List.mem_map.mp hd
        exact hid
      · obtain ⟨⟨k, ids⟩, he, rfl⟩ := List.mem_map.mp hd
        obtain ⟨hne, hids⟩ := mem_groupPairs.mp he
        obtain ⟨v, hv⟩ := List.exists_mem_of_ne_nil ids hne
        rw [hids] at hv
        obtain ⟨⟨k', v'⟩, hkv, -⟩ := List.mem_map.mp hv
        obtain ⟨hmem, hk⟩ := List.mem_filter.mp hkv
        obtain ⟨row, -, hrow⟩ := List.mem_filterMap.mp hmem
        have hne' := (checkGroup_eq_some hrow).2.2
        rw [show k' = k from by simpa using hk] at hne'
        exact absurd hreason hne'
    · intro hid
      exact ⟨_, List.mem_append_left _ (List.mem_map.mpr ⟨id, hid, rfl⟩), rfl, rfl⟩

/-- **The checks that a decision retires**: those of an asset whose page is missing, and those that
miss something on a page that is there. -/
theorem mem_reconcile {id : UUID} :
    (∃ d ∈ reconcileRetirementDecisions activePages activeChecks truth gate,
        id ∈ d.pageCheckIds) ↔
      gate.allowRetirement = true ∧ ∃ row ∈ activeChecks, row.pageCheckId = id ∧
        (row.pageAssetId ∈ missingAssetIds activePages truth ∨
          (checkGroup activePages truth row).isSome = true) := by
  unfold reconcileRetirementDecisions
  split
  · rename_i hgate
    simp [hgate]
  · rename_i hgate
    rw [Bool.not_eq_false] at hgate
    dsimp only
    rw [and_iff_right hgate]
    constructor
    · rintro ⟨d, hd, hid⟩
      rcases List.mem_append.mp hd with hd | hd
      · obtain ⟨assetId, hasset, rfl⟩ := List.mem_map.mp hd
        rw [getD_groupPairs] at hid
        obtain ⟨⟨k, v⟩, hkv, rfl⟩ := List.mem_map.mp hid
        obtain ⟨hmem, hk⟩ := List.mem_filter.mp hkv
        obtain ⟨row, hrow, heq⟩ := List.mem_map.mp hmem
        obtain ⟨rfl, rfl⟩ := Prod.mk.inj heq
        refine ⟨row, hrow, rfl, Or.inl ?_⟩
        rw [show row.pageAssetId = assetId from by simpa using hk]
        exact hasset
      · obtain ⟨⟨k, ids⟩, he, rfl⟩ := List.mem_map.mp hd
        rw [mem_sortedSet, (mem_groupPairs.mp he).2] at hid
        obtain ⟨⟨k', v⟩, hkv, rfl⟩ := List.mem_map.mp hid
        obtain ⟨row, hrow, hgroup⟩ := List.mem_filterMap.mp (List.mem_filter.mp hkv).1
        refine ⟨row, hrow, (checkGroup_eq_some hgroup).2.1.symm, Or.inr ?_⟩
        rw [hgroup]
        rfl
    · rintro ⟨row, hrow, rfl, hcase⟩
      rcases hcase with hmissing | hgroup
      · refine ⟨_, List.mem_append_left _ (List.mem_map.mpr ⟨_, hmissing, rfl⟩), ?_⟩
        rw [getD_groupPairs]
        refine List.mem_map.mpr ⟨(row.pageAssetId, row.pageCheckId), ?_, rfl⟩
        exact List.mem_filter.mpr ⟨List.mem_map.mpr ⟨row, hrow, rfl⟩, by simp⟩
      · obtain ⟨⟨k, id⟩, hkid⟩ := Option.isSome_iff_exists.mp hgroup
        have hid := (checkGroup_eq_some hkid).2.1
        have hpair : (k, id) ∈ activeChecks.filterMap (checkGroup activePages truth) :=
          List.mem_filterMap.mpr ⟨row, hrow, hkid⟩
        have hin : id ∈ (groupPairs (activeChecks.filterMap (checkGroup activePages truth))).getD k := by
          rw [getD_groupPairs]
          exact List.mem_map.mpr ⟨(k, id), List.mem_filter.mpr ⟨hpair, by simp⟩, rfl⟩
        refine ⟨_, List.mem_append_right _ (List.mem_map.mpr
          ⟨_, Groups.mem_of_getD_ne_nil (List.ne_nil_of_mem hin), rfl⟩), ?_⟩
        rw [mem_sortedSet, ← hid]
        exact hin

end Membership

end Reconciliation

end Runlet
