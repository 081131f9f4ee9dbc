import Runlet.AssetCompiler.Service

/-!
# What a check depends on

The page loop derives the dependencies of a check from the steps of its plan and from its
assertion; the retirement looks for them in the truth of a snapshot.  Both sides are reduced here
to what the snapshot holds:

* `blockingDependencies_eq`: a check depends on the labels of the menus of its page, and on an
  element for each of its `requiredKinds`.
* `checkRetireReason_isSome_iff`: a check has a reason to go when it does not stand on its route.
* `checkRetireReason_eq_none_iff`: nothing is missing on a route when the labels appear there in
  this order (`List.Sublist`), and the elements are there.
-/

namespace Runlet

open Dict

namespace Reconciliation

open AssetCompiler (normalizeText)

/-! ## Labels -/

theorem menuChainSatisfied_eq_isSublist (expected current : List String) :
    menuChainSatisfied expected current = expected.isSublist current := by
  induction current generalizing expected with
  | nil => cases expected <;> rfl
  | cons c current ih =>
    cases expected with
    | nil => rfl
    | cons e expected =>
      rw [menuChainSatisfied, List.isSublist, ih, ih]
      by_cases h : c = e
      · rw [if_pos h, if_pos (by rw [h, beq_self_eq_true])]
      · rw [if_neg h, if_neg (by rw [beq_iff_eq]; exact fun he => h he.symm)]

/-- **The greedy walk finds a sublist.** -/
theorem menuChainSatisfied_iff {expected current : List String} :
    menuChainSatisfied expected current = true ↔ expected.Sublist current := by
  rw [menuChainSatisfied_eq_isSublist, List.isSublist_iff_sublist]

theorem cleanLabels_map_strip (labels : List String) :
    cleanLabels (labels.map Text.strip) = cleanLabels labels := by
  have hstrip : Text.strip ∘ Text.strip = Text.strip := funext Text.strip_strip
  unfold cleanLabels
  rw [List.map_map, hstrip]

theorem cleanLabels_filter (labels : List String) :
    cleanLabels (labels.filter fun label => label ≠ "") = cleanLabels labels := by
  induction labels with
  | nil => rfl
  | cons label labels ih =>
    by_cases h : label = ""
    · subst h
      rw [List.filter_cons_of_neg (by simp), ih]
      unfold cleanLabels
      rw [List.map_cons, Text.strip_empty, List.filter_cons_of_neg (by simp)]
    · rw [List.filter_cons_of_pos (by simpa using h)]
      unfold cleanLabels at ih ⊢
      rw [List.map_cons, List.map_cons, List.filter_cons, List.filter_cons, ih]

@[simp] theorem cleanLabels_cleanLabels (labels : List String) :
    cleanLabels (cleanLabels labels) = cleanLabels labels := by
  have hstrip : (cleanLabels labels).map Text.strip = cleanLabels labels := by
    conv_rhs => rw [← List.map_id (cleanLabels labels)]
    refine List.map_congr_left fun label hlabel => ?_
    obtain ⟨raw, -, rfl⟩ := List.mem_map.mp (List.mem_filter.mp hlabel).1
    exact Text.strip_strip raw
  change ((cleanLabels labels).map Text.strip).filter _ = _
  rw [hstrip]
  exact List.filter_eq_self.mpr fun label hlabel => (List.mem_filter.mp hlabel).2

/-! ## Elements -/

/-- A column that is asked for is found, up to blanks around it. -/
def Agrees (expected : Option String) (current : String) : Prop :=
  normalizeText expected ≠ "" → Text.strip current = normalizeText expected

/-- The element shows all that the descriptor asks for. -/
def Describes (descriptor : ElementDescriptor) (current : ElementTruth) : Prop :=
  Agrees descriptor.kind current.kind ∧ Agrees descriptor.role current.role ∧
    Agrees descriptor.text current.text

theorem columnMatches_iff {expected : Option String} {current : String} :
    columnMatches expected current = true ↔ Agrees expected current := by
  rw [columnMatches, Bool.or_eq_true, decide_eq_true_iff, decide_eq_true_iff, Agrees]
  exact Decidable.or_iff_not_imp_left

theorem elementMatches_iff {descriptor : ElementDescriptor} {current : ElementTruth} :
    elementMatches descriptor current = true ↔ Describes descriptor current := by
  rw [elementMatches, Bool.and_eq_true, Bool.and_eq_true, columnMatches_iff, columnMatches_iff,
    columnMatches_iff, and_assoc, Describes]

/-- An element that is recognised by its kind and a role of the same name. -/
def kindDescriptor (kind : String) : ElementDescriptor :=
  { kind := some kind, role := some kind }

/-- The kinds of element a standard check cannot do without, by its code. -/
def requiredKinds (checkCode : String) : List String :=
  match checkCode with
  | "table_render" => ["table"]
  | "tab_switch_render" => ["table"]
  | "open_create_modal" => ["button"]
  | "open_create_modal_state" => ["dialog"]
  | _ => []

theorem mem_requiredKinds {checkCode kind : String} (h : kind ∈ requiredKinds checkCode) :
    kind ∈ ["table", "button", "dialog"] := by
  unfold requiredKinds at h
  split at h <;> simp_all

/-- What a check asks for survives its cleaning. -/
theorem normalizeDependencyJson_eq (labels : List String) (checkCode : String) :
    normalizeDependencyJson
        { menuChain := cleanLabels labels
          requiredElements := (requiredKinds checkCode).map kindDescriptor } =
      { menuChain := cleanLabels labels
        requiredElements := (requiredKinds checkCode).map kindDescriptor } := by
  unfold normalizeDependencyJson
  dsimp only
  rw [cleanLabels_cleanLabels]
  congr 1
  unfold requiredKinds
  split <;> decide

theorem describes_kindDescriptor_iff {kind : String} (h : kind ∈ ["table", "button", "dialog"])
    (current : ElementTruth) :
    Describes (kindDescriptor kind) current ↔
      Text.strip current.kind = kind ∧ Text.strip current.role = kind := by
  have hstrip : normalizeText (some kind) = kind ∧ kind ≠ "" := by
    revert h
    revert kind
    decide
  have htext : Agrees none current.text := fun hne => absurd (by decide) hne
  unfold Describes kindDescriptor
  dsimp only
  rw [and_iff_left htext, Agrees, Agrees, hstrip.1, imp_iff_right hstrip.2, imp_iff_right hstrip.2]

/-! ## Why a check is retired -/

/-- The chain a check asks for, cleaned. -/
def requiredChain (d : BlockingDependency) : List String :=
  (normalizeDependencyJson d).menuChain

/-- The elements a check asks for, cleaned. -/
def requiredElements (d : BlockingDependency) : List ElementDescriptor :=
  (normalizeDependencyJson d).requiredElements

/-- Nothing a check asks for is missing on a route. -/
def Stands (truth : SnapshotTruth) (routePath : String) (d : BlockingDependency) : Prop :=
  (requiredChain d).Sublist (truth.menuChainByRoute.getD routePath) ∧
    ∀ descriptor ∈ requiredElements d, ∃ current ∈ truth.elementsByRoute.getD routePath,
      Describes descriptor current

theorem requiredElementsSatisfied_eq_true_iff {expected : List ElementDescriptor}
    {current : List ElementTruth} :
    requiredElementsSatisfied expected current = true ↔
      ∀ descriptor ∈ expected, ∃ element ∈ current, Describes descriptor element := by
  unfold requiredElementsSatisfied
  rw [List.all_eq_true]
  refine forall_congr' fun descriptor => forall_congr' fun _ => ?_
  rw [List.any_eq_true]
  exact exists_congr fun element => and_congr_right fun _ => elementMatches_iff

/-- **A check on a route that is there has a reason to go iff it does not stand.** -/
theorem checkRetireReason_isSome_iff {truth : SnapshotTruth} {routePath : String}
    {d : BlockingDependency} :
    (checkRetireReason truth routePath d).isSome = true ↔
      ¬ Stands truth routePath d := by
  -- An empty requirement is met, so the two guards against one decide nothing.
  have hchain : (requiredChain d ≠ [] ∧
      menuChainSatisfied (requiredChain d) (truth.menuChainByRoute.getD routePath) = false) ↔
        ¬ (requiredChain d).Sublist (truth.menuChainByRoute.getD routePath) := by
    rw [← menuChainSatisfied_iff, Bool.not_eq_true]
    refine and_iff_right_of_imp fun hfalse hnil => ?_
    rw [hnil, menuChainSatisfied] at hfalse
    exact Bool.noConfusion hfalse
  have helements : (requiredElements d ≠ [] ∧
      requiredElementsSatisfied (requiredElements d)
        (truth.elementsByRoute.getD routePath) = false) ↔
        ¬ ∀ descriptor ∈ requiredElements d, ∃ current ∈ truth.elementsByRoute.getD routePath,
          Describes descriptor current := by
    rw [← requiredElementsSatisfied_eq_true_iff, Bool.not_eq_true]
    refine and_iff_right_of_imp fun hfalse hnil => ?_
    rw [hnil] at hfalse
    exact Bool.noConfusion hfalse
  unfold checkRetireReason
  dsimp only
  rw [← requiredChain, ← requiredElements]
  by_cases hsub : (requiredChain d).Sublist (truth.menuChainByRoute.getD routePath)
  · rw [if_neg (fun h => hchain.mp h hsub)]
    by_cases hrows : ∀ descriptor ∈ requiredElements d,
        ∃ current ∈ truth.elementsByRoute.getD routePath, Describes descriptor current
    · rw [if_neg (fun h => helements.mp h hrows)]
      exact iff_of_false Bool.false_ne_true fun h => h ⟨hsub, hrows⟩
    · rw [if_pos (helements.mpr hrows)]
      exact iff_of_true rfl fun h => hrows h.2
  · rw [if_pos (hchain.mpr hsub)]
    exact iff_of_true rfl fun h => hsub h.1

/-- **Nothing is missing on a route.** -/
theorem checkRetireReason_eq_none_iff {truth : SnapshotTruth} {routePath : String}
    {labels : List String} {checkCode : String} :
    checkRetireReason truth routePath
        { menuChain := cleanLabels labels
          requiredElements := (requiredKinds checkCode).map kindDescriptor } = none ↔
      (cleanLabels labels).Sublist (truth.menuChainByRoute.getD routePath) ∧
        ∀ kind ∈ requiredKinds checkCode, ∃ row ∈ truth.elementsByRoute.getD routePath,
          Text.strip row.kind = kind ∧ Text.strip row.role = kind := by
  rw [← Option.not_isSome_iff_eq_none, checkRetireReason_isSome_iff, not_not, Stands,
    requiredChain, requiredElements, normalizeDependencyJson_eq, List.forall_mem_map]
  refine and_congr_right fun _ => forall_congr' fun kind => forall_congr' fun hkind => ?_
  exact exists_congr fun row => and_congr_right fun _ =>
    describes_kindDescriptor_iff (mem_requiredKinds hkind) row

/-! ## The steps of a plan -/

theorem stepModule_step (module : String) (params : List (String × Json)) :
    stepModule (ModulePlanBuilder.step module params) = Text.strip module := rfl

theorem stepMenuChain?_step (module : String) (params : List (String × Json)) :
    stepMenuChain? (ModulePlanBuilder.step module params) =
      if Text.strip module = "nav.menu_chain" then
        some (cleanLabels ((((Json.obj params).get? "menu_chain").getD (.arr [])).items.map fun v =>
          LocatorBundles.cleanText (some v)))
      else none := rfl

/-- A step that asks for no menus and shows no table. -/
def IsQuiet (step : Json) : Prop :=
  stepMenuChain? step = none ∧ stepModule step ≠ "assert.table_visible"

theorem isQuiet_step {module : String} {params : List (String × Json)}
    (h : Text.strip module ∉ ["nav.menu_chain", "assert.table_visible"]) :
    IsQuiet (ModulePlanBuilder.step module params) := by
  rw [List.mem_cons, List.mem_singleton, not_or] at h
  refine ⟨?_, ?_⟩
  · rw [stepMenuChain?_step, if_neg h.1]
  · rw [stepModule_step]
    exact h.2

theorem isQuiet_stateSteps {stateSignature : String} {pageContext : PageContext} :
    ∀ step ∈ ModulePlanBuilder.stateSteps stateSignature pageContext, IsQuiet step := by
  intro step hstep
  unfold ModulePlanBuilder.stateSteps at hstep
  split at hstep
  · rw [List.mem_singleton.mp hstep]
    exact isQuiet_step (by decide)
  · exact absurd hstep List.not_mem_nil

theorem isQuiet_buildTemplateChainSteps {template : TemplateDefinition}
    (htemplate : template ∈ templateDefinitions) {pageContext : PageContext} :
    ∀ step ∈ ModulePlanBuilder.buildTemplateChainSteps template pageContext, IsQuiet step := by
  have hmodules : ∀ t ∈ templateDefinitions,
      ∀ m ∈ t.compileStrategy.assertModule :: t.compileStrategy.actionChain,
        Text.strip m ∉ ["nav.menu_chain", "assert.table_visible"] := by decide
  have hquiet := hmodules template htemplate
  have hactions : ∀ f : String → Json, (∀ m, ∃ params, f m = ModulePlanBuilder.step m params) →
      ∀ step ∈ template.compileStrategy.actionChain.map f, IsQuiet step := by
    intro f hf step hstep
    obtain ⟨module, hmodule, rfl⟩ := List.mem_map.mp hstep
    obtain ⟨params, heq⟩ := hf module
    rw [heq]
    exact isQuiet_step (hquiet module (List.mem_cons_of_mem _ hmodule))
  intro step hstep
  unfold ModulePlanBuilder.buildTemplateChainSteps at hstep
  dsimp only at hstep
  split at hstep
  · refine hactions _ (fun m => ?_) step hstep
    split <;> exact ⟨_, rfl⟩
  · rcases List.mem_append.mp hstep with hstep | hstep
    · refine hactions _ (fun m => ?_) step hstep
      split <;> exact ⟨_, rfl⟩
    · rw [List.mem_singleton.mp hstep]
      exact isQuiet_step (hquiet _ List.mem_cons_self)

theorem isQuiet_checkSteps {checkCode stateSignature : String} {pageContext : PageContext}
    {locatorBundle : LocatorBundle} :
    ∀ step ∈ ModulePlanBuilder.checkSteps checkCode pageContext stateSignature locatorBundle,
      IsQuiet step := by
  have hlocator : IsQuiet (ModulePlanBuilder.locatorAssertStep checkCode locatorBundle) :=
    isQuiet_step (by decide)
  have haction : IsQuiet (ModulePlanBuilder.step "action.open_create_modal" []) :=
    isQuiet_step (by decide)
  intro step hstep
  unfold ModulePlanBuilder.checkSteps at hstep
  split at hstep
  · rename_i template htemplate
    exact isQuiet_buildTemplateChainSteps (List.mem_of_find?_eq_some htemplate) step hstep
  · split at hstep
    · rcases List.mem_cons.mp hstep with rfl | hstep
      · exact hlocator
      · rwa [List.mem_singleton.mp hstep]
    · rwa [List.mem_singleton.mp hstep]

/-- The labels of the navigation step. -/
theorem stepMenuChain?_navigation (labels : List String) (routePath : String) :
    stepMenuChain? (ModulePlanBuilder.step "nav.menu_chain"
        [("menu_chain", .arr (labels.map .str)), ("route_path", .str routePath)]) =
      some (cleanLabels labels) := by
  rw [stepMenuChain?_step, if_pos (by decide), ← cleanLabels_map_strip labels]
  change some (cleanLabels ((labels.map Json.str).map _)) = _
  rw [List.map_map]
  rfl

/-- **The dependencies of a plan**: the labels it follows, and what its assertion asks for. -/
theorem buildBlockingDependencyJson_plan (checkCode : String) (pageContext : PageContext)
    (stateSignature : String) (locatorBundle : LocatorBundle)
    (assertionSchema : Option (List (String × Json))) :
    buildBlockingDependencyJson
        (ModulePlanBuilder.buildModulePlan checkCode pageContext stateSignature
          locatorBundle).stepsJson assertionSchema =
      { menuChain := cleanLabels pageContext.menuChain
        requiredElements := (buildBlockingDependencyJson [] assertionSchema).requiredElements } := by
  have hquiet : ∀ step ∈ ModulePlanBuilder.stateSteps stateSignature pageContext ++
      ModulePlanBuilder.checkSteps checkCode pageContext stateSignature locatorBundle,
      IsQuiet step := by
    intro step hstep
    rcases List.mem_append.mp hstep with hstep | hstep
    · exact isQuiet_stateSteps step hstep
    · exact isQuiet_checkSteps step hstep
  have hauth : IsQuiet (ModulePlanBuilder.step "auth.inject_state"
      [("policy", .str "server_injected")]) := isQuiet_step (by decide)
  have hwait : IsQuiet (ModulePlanBuilder.step "page.wait_ready"
      [("route_path", .str pageContext.routePath)]) := isQuiet_step (by decide)
  have hnav : stepModule (ModulePlanBuilder.step "nav.menu_chain"
      [("menu_chain", .arr (pageContext.menuChain.map .str)),
        ("route_path", .str pageContext.routePath)]) ≠ "assert.table_visible" := by
    rw [stepModule_step]
    decide
  have hsteps : (ModulePlanBuilder.buildModulePlan checkCode pageContext stateSignature
      locatorBundle).stepsJson = ModulePlanBuilder.navigationSteps pageContext ++
        (ModulePlanBuilder.stateSteps stateSignature pageContext ++
          ModulePlanBuilder.checkSteps checkCode pageContext stateSignature locatorBundle) :=
    List.append_assoc _ _ _
  have hchain : ((ModulePlanBuilder.buildModulePlan checkCode pageContext stateSignature
      locatorBundle).stepsJson.filterMap stepMenuChain?) = [cleanLabels pageContext.menuChain] := by
    rw [hsteps, List.filterMap_append, List.filterMap_eq_nil_iff.mpr fun s hs => (hquiet s hs).1,
      List.append_nil]
    unfold ModulePlanBuilder.navigationSteps
    rw [List.filterMap_cons_none hauth.1, List.filterMap_cons_some (stepMenuChain?_navigation _ _),
      List.filterMap_cons_none hwait.1, List.filterMap_nil]
  have htables : ((ModulePlanBuilder.buildModulePlan checkCode pageContext stateSignature
      locatorBundle).stepsJson.filter fun step => stepModule step = "assert.table_visible") = [] := by
    rw [hsteps, List.filter_eq_nil_iff]
    intro step hstep
    rw [decide_eq_true_eq]
    rcases List.mem_append.mp hstep with hstep | hstep
    · simp only [ModulePlanBuilder.navigationSteps, List.mem_cons, List.not_mem_nil, or_false] at hstep
      rcases hstep with rfl | rfl | rfl
      · exact hauth.2
      · exact hnav
      · exact hwait.2
    · exact (hquiet step hstep).2
  unfold buildBlockingDependencyJson
  dsimp only
  rw [hchain, htables]
  rfl

end Reconciliation

/-! ## The standard checks -/

namespace CheckTemplates

open Reconciliation (buildBlockingDependencyJson requiredKinds kindDescriptor)

theorem mem_selectByCode {signature : Option String} {selected : List StandardCheckDefinition}
    {check d : StandardCheckDefinition} (h : d ∈ selectByCode signature selected check) :
    d ∈ selected ∨ d = check := by
  induction selected with
  | nil => exact Or.inr (List.mem_singleton.mp h)
  | cons existing selected ih =>
    unfold selectByCode at h
    split at h
    · rcases List.mem_cons.mp h with rfl | h
      · split
        · exact Or.inr rfl
        · exact Or.inl List.mem_cons_self
      · exact Or.inl (List.mem_cons_of_mem _ h)
    · rcases List.mem_cons.mp h with rfl | h
      · exact Or.inl List.mem_cons_self
      · exact (ih h).imp_left (List.mem_cons_of_mem _)

theorem mem_foldl_selectByCode {signature : Option String} {d : StandardCheckDefinition}
    (checks selected : List StandardCheckDefinition)
    (h : d ∈ checks.foldl (selectByCode signature) selected) : d ∈ selected ∨ d ∈ checks := by
  induction checks generalizing selected with
  | nil => exact Or.inl h
  | cons check checks ih =>
    rcases ih _ h with h | h
    · exact (mem_selectByCode h).imp_right fun heq => List.mem_cons.mpr (Or.inl heq)
    · exact Or.inr (List.mem_cons_of_mem _ h)

/-- The assertion of a check asks for the kinds that go with its code. -/
def AssertsKinds (d : StandardCheckDefinition) : Prop :=
  (buildBlockingDependencyJson [] d.assertionSchema).requiredElements =
    (requiredKinds d.checkCode).map kindDescriptor

theorem assertsKinds_of_eq {d : StandardCheckDefinition} {checkCode : String}
    {schema : Option (List (String × Json))} (hcode : d.checkCode = checkCode)
    (hschema : d.assertionSchema = schema)
    (h : (buildBlockingDependencyJson [] schema).requiredElements =
      (requiredKinds checkCode).map kindDescriptor) : AssertsKinds d := by
  unfold AssertsKinds
  rw [hcode, hschema]
  exact h

theorem assertsKinds_of_template {template : TemplateDefinition}
    (h : template ∈ templateDefinitions) {d : StandardCheckDefinition}
    (hcode : d.checkCode = template.templateCode)
    (hschema : d.assertionSchema = some template.assertionContract) : AssertsKinds d := by
  have htemplates : ∀ t ∈ templateDefinitions,
      (buildBlockingDependencyJson [] (some t.assertionContract)).requiredElements =
        (requiredKinds t.templateCode).map kindDescriptor := by decide
  exact assertsKinds_of_eq hcode hschema (htemplates template h)

theorem assertsKinds_of_state {states : List RepresentativeState} {signature : Option String} :
    ∀ d ∈ buildRepresentativeStateChecks states signature, AssertsKinds d := by
  intro d hd
  obtain ⟨state, -, hstate⟩ := List.mem_filterMap.mp hd
  dsimp only at hstate
  split at hstate
  · exact absurd hstate (Option.some_ne_none d).symm
  · split at hstate
    · rw [← Option.some_inj.mp hstate]
      exact assertsKinds_of_eq rfl rfl rfl
    · split at hstate
      · rw [← Option.some_inj.mp hstate]
        exact assertsKinds_of_eq rfl rfl rfl
      · exact absurd hstate (Option.some_ne_none d).symm

/-- **The assertion of a standard check asks for the kinds that go with its code.** -/
theorem assertsKinds_of_mem {pageSummary : Option String} {hasTable hasCreateAction : Bool}
    {states : List RepresentativeState} {signature : Option String} {d : StandardCheckDefinition}
    (hd : d ∈ buildStandardChecks pageSummary hasTable hasCreateAction states signature) :
    AssertsKinds d := by
  have hcandidate : ∀ d ∈ candidateChecks pageSummary hasTable hasCreateAction states signature,
      AssertsKinds d := by
    intro d hd
    unfold candidateChecks at hd
    rcases List.mem_append.mp hd with hd | hd
    · rcases List.mem_append.mp hd with hd | hd
      · rcases List.mem_append.mp hd with hd | hd
        · rw [List.mem_singleton.mp hd]
          exact assertsKinds_of_eq rfl rfl rfl
        · split at hd
          · rcases List.mem_cons.mp hd with rfl | hd
            · exact assertsKinds_of_eq rfl rfl rfl
            · obtain ⟨template, htemplate, rfl⟩ := List.mem_map.mp hd
              rw [TemplateRegistry.listTemplates_v1] at htemplate
              exact assertsKinds_of_template htemplate rfl rfl
          · exact absurd hd List.not_mem_nil
      · split at hd
        · rw [List.mem_singleton.mp hd]
          exact assertsKinds_of_eq rfl rfl rfl
        · exact absurd hd List.not_mem_nil
    · exact assertsKinds_of_state d hd
  rcases mem_foldl_selectByCode _ _ hd with hd | hd
  · exact absurd hd List.not_mem_nil
  · exact hcandidate d hd

end CheckTemplates

namespace AssetCompiler

open Reconciliation (cleanLabels requiredKinds kindDescriptor)

section Needs

variable (cx : CompileContext)

/-- The labels of the menus of a page. -/
def menuLabels (page : Page) : List String :=
  cleanLabels ((menusOfPage cx page).map (·.label))

/-- **What a check depends on.** -/
theorem blockingDependencies_eq {page : Page} {d : StandardCheckDefinition}
    (hd : d ∈ standardChecks cx page) :
    blockingDependencies cx page d =
      { menuChain := menuLabels cx page
        requiredElements := (requiredKinds d.checkCode).map kindDescriptor } := by
  have hasserts : CheckTemplates.AssertsKinds d := by
    unfold standardChecks at hd
    exact CheckTemplates.assertsKinds_of_mem hd
  unfold blockingDependencies modulePlanDraft
  rw [Reconciliation.buildBlockingDependencyJson_plan, hasserts]
  unfold menuLabels pageContext
  dsimp only
  rw [Reconciliation.cleanLabels_filter]

/-! ## What the snapshot shows -/

/-- The labels of the menus of the pages of a route, in the order of the truth. -/
def shownLabels (routePath : String) : List String :=
  cleanLabels (((cx.menus.insertionSort fun a b =>
    Reconciliation.menuKey a ≤ Reconciliation.menuKey b).filter fun menu =>
      Reconciliation.pageRoute cx.pages menu.pageId = routePath).map (·.label))

/-- An element of a kind, with a role of the same name, on a page of a route. -/
def ShowsKind (routePath kind : String) : Prop :=
  ∃ element ∈ cx.elements,
    Reconciliation.pageRoute cx.pages (some element.pageId) = routePath ∧
      Text.strip element.elementType = kind ∧ normalizeText element.elementRole = kind

/-- The route shows what a check of a page needs: its menu labels in their order, and an element of
each kind. -/
def ShowsNeeds (page : Page) (checkCode routePath : String) : Prop :=
  (menuLabels cx page).Sublist (shownLabels cx routePath) ∧
    ∀ kind ∈ requiredKinds checkCode, ShowsKind cx routePath kind

variable {cx} {routePath : String}

theorem menuChainByRoute_eq (hroute : routePath ≠ "") :
    (snapshotTruth cx).menuChainByRoute.getD routePath = shownLabels cx routePath := by
  change (groupPairs _).getD routePath = _
  rw [getD_groupPairs]
  unfold shownLabels
  induction cx.menus.insertionSort fun a b =>
      Reconciliation.menuKey a ≤ Reconciliation.menuKey b with
  | nil => rfl
  | cons menu menus ih =>
    have hcons : ∀ label labels, cleanLabels (label :: labels) =
        if Text.strip label = "" then cleanLabels labels
        else Text.strip label :: cleanLabels labels := by
      intro label labels
      unfold cleanLabels
      rw [List.map_cons]
      by_cases h : Text.strip label = ""
      · rw [if_pos h, List.filter_cons_of_neg (by simpa using h)]
      · rw [if_neg h, List.filter_cons_of_pos (by simpa using h)]
    by_cases hpage : Reconciliation.pageRoute cx.pages menu.pageId = routePath
    · rw [List.filter_cons_of_pos (by simpa using hpage), List.map_cons, hcons]
      by_cases hlabel : Text.strip menu.label = ""
      · have hentry : Reconciliation.menuEntry cx.pages menu = none := by
          unfold Reconciliation.menuEntry
          simp [hlabel]
        rw [if_pos hlabel, List.filterMap_cons_none hentry, ih]
      · have hentry : Reconciliation.menuEntry cx.pages menu =
            some (routePath, Text.strip menu.label) := by
          unfold Reconciliation.menuEntry
          simp [hlabel, hpage, hroute]
        rw [if_neg hlabel, List.filterMap_cons_some hentry,
          List.filter_cons_of_pos (by simp), List.map_cons, ih]
    · rw [List.filter_cons_of_neg (by simpa using hpage), ← ih]
      cases hentry : Reconciliation.menuEntry cx.pages menu with
      | none => rw [List.filterMap_cons_none hentry]
      | some entry =>
        have hfst : entry.1 ≠ routePath := by
          unfold Reconciliation.menuEntry at hentry
          dsimp only at hentry
          split at hentry
          · exact absurd hentry (Option.some_ne_none entry).symm
          · rw [← Option.some_inj.mp hentry]
            exact hpage
        rw [List.filterMap_cons_some hentry, List.filter_cons_of_neg (by simpa using hfst)]

theorem mem_elementsByRoute (hroute : routePath ≠ "") {row : ElementTruth} :
    row ∈ (snapshotTruth cx).elementsByRoute.getD routePath ↔
      ∃ element ∈ cx.elements,
        Reconciliation.pageRoute cx.pages (some element.pageId) = routePath ∧
          row = { kind := Text.strip element.elementType
                  role := normalizeText element.elementRole
                  text := normalizeText element.elementText } := by
  change row ∈ (groupPairs _).getD routePath ↔ _
  rw [getD_groupPairs, List.mem_map]
  constructor
  · rintro ⟨entry, hentry, rfl⟩
    obtain ⟨hmem, hfst⟩ := List.mem_filter.mp hentry
    obtain ⟨element, helement, heq⟩ := List.mem_filterMap.mp hmem
    unfold Reconciliation.elementEntry at heq
    dsimp only at heq
    split at heq
    · exact absurd heq (Option.some_ne_none entry).symm
    · rw [← Option.some_inj.mp heq] at hfst ⊢
      exact ⟨element, helement, by simpa using hfst, rfl⟩
  · rintro ⟨element, helement, hpage, rfl⟩
    refine ⟨(routePath, _), List.mem_filter.mpr ⟨List.mem_filterMap.mpr ⟨element, helement, ?_⟩,
      by simp⟩, rfl⟩
    unfold Reconciliation.elementEntry
    dsimp only
    rw [hpage, if_neg hroute]

theorem strip_normalizeText (text : Option String) :
    Text.strip (normalizeText text) = normalizeText text := by
  cases text with
  | none => exact Text.strip_empty
  | some s => exact Text.strip_strip s

/-- **Nothing that a check needs is missing on a route.** -/
theorem checkRetireReason_iff_showsNeeds {page : Page} {d : StandardCheckDefinition}
    (hd : d ∈ standardChecks cx page) (hroute : routePath ≠ "") :
    Reconciliation.checkRetireReason (snapshotTruth cx) routePath
        (blockingDependencies cx page d) = none ↔ ShowsNeeds cx page d.checkCode routePath := by
  rw [blockingDependencies_eq cx hd, menuLabels, Reconciliation.checkRetireReason_eq_none_iff,
    menuChainByRoute_eq hroute]
  refine and_congr_right fun _ => forall_congr' fun kind => forall_congr' fun _ => ?_
  constructor
  · rintro ⟨row, hrow, hkind, hrole⟩
    obtain ⟨element, helement, hpage, rfl⟩ := (mem_elementsByRoute hroute).mp hrow
    exact ⟨element, helement, hpage, (Text.strip_strip _).symm.trans hkind,
      (strip_normalizeText _).symm.trans hrole⟩
  · rintro ⟨element, helement, hpage, hkind, hrole⟩
    exact ⟨_, (mem_elementsByRoute hroute).mpr ⟨element, helement, hpage, rfl⟩,
      (Text.strip_strip _).trans hkind, (strip_normalizeText _).trans hrole⟩

end Needs

end AssetCompiler

end Runlet
