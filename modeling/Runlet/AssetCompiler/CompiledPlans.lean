import Runlet.AssetCompiler.DefaultStates
import Runlet.AssetCompiler.OwnChecks
import Runlet.AssetCompiler.References

/-!
# The locators of a compiled plan

A check without a template looks for an element of the page, and its plan carries the locators of
the first element of the right type that has any.  When no element has one, the plan carries an
empty list on purpose, and the runtime reports the check as failed.

* `IsPlanned`: the plan a check names was built from one of the checks of a page of the snapshot.
* `isPlanned_compilePages`: so it is for each check that the loop writes.
* `compiled_plan_has_locators_iff`: the plan has locators exactly when the check has a template, or
  an element of the page is of the type that is looked for and has a locator that is not forbidden.
-/

namespace Runlet

open KeyedTable

namespace AssetCompiler

open ModulePlanBuilder DefaultStates

/-! ## Locators in steps -/

/-- The step looks for an element of the page. -/
def isLocatorAssert (planStep : Json) : Bool :=
  match planStep.get? "module" with
  | some (.str module) => module = "locator.assert"
  | _ => false

/-- The locators a step carries. -/
def locatorsOf (planStep : Json) : List Json :=
  (((planStep.get? "params").bind fun params => params.get? "locator_bundle").bind
    fun locatorBundle => locatorBundle.get? "candidates").elim [] Json.items

/-- Each step that looks for an element carries a locator. -/
def HasLocators (stepsJson : List Json) : Prop :=
  ∀ planStep ∈ stepsJson, isLocatorAssert planStep = true → (locatorsOf planStep).isEmpty = false

instance (stepsJson : List Json) : Decidable (HasLocators stepsJson) :=
  inferInstanceAs (Decidable (∀ planStep ∈ stepsJson, _))

theorem hasLocators_append {l l' : List Json} :
    HasLocators (l ++ l') ↔ HasLocators l ∧ HasLocators l' :=
  List.forall_mem_append

theorem isLocatorAssert_step (module : String) (params : List (String × Json)) :
    isLocatorAssert (step module params) = decide (module = "locator.assert") :=
  rfl

/-- A step of another module carries nothing to look for. -/
theorem hasLocators_step {module : String} (h : module ≠ "locator.assert")
    (params : List (String × Json)) : HasLocators [step module params] := by
  intro planStep hmem hassert
  rw [List.mem_singleton.mp hmem, isLocatorAssert_step, decide_eq_true_eq] at hassert
  exact absurd hassert h

theorem hasLocators_locatorAssertStep (checkCode : String) (locatorBundle : LocatorBundle) :
    HasLocators [locatorAssertStep checkCode locatorBundle] ↔ locatorBundle.candidates ≠ [] := by
  have hlocators : locatorsOf (locatorAssertStep checkCode locatorBundle) =
      locatorBundle.candidates.map LocatorBundles.candidateJson := rfl
  have hassert : isLocatorAssert (locatorAssertStep checkCode locatorBundle) = true := rfl
  unfold HasLocators
  rw [List.forall_mem_singleton, hlocators, imp_iff_right hassert, List.isEmpty_eq_false_iff,
    Ne, List.map_eq_nil_iff]

/-! ## Locators in plans -/

section Plans

variable (checkCode : String) (pageContext : PageContext) (stateSignature : String)
  (locatorBundle : LocatorBundle)

/-- No template looks for an element. -/
theorem hasLocators_buildTemplateChainSteps {template : TemplateDefinition}
    (h : template ∈ templateDefinitions) :
    HasLocators (buildTemplateChainSteps template pageContext) := by
  have hmodules : ∀ template ∈ templateDefinitions,
      ∀ module ∈ template.compileStrategy.assertModule :: template.compileStrategy.actionChain,
        module ≠ "locator.assert" := by
    decide
  intro planStep hmem
  obtain ⟨module, hmodule, params, rfl⟩ := exists_module_of_mem_chain hmem
  exact hasLocators_step (hmodules template h module hmodule) params _ (List.mem_singleton_self _)

theorem hasLocators_checkSteps :
    HasLocators (checkSteps checkCode pageContext stateSignature locatorBundle) ↔
      (TemplateRegistry.getTemplate checkCode "v1").isSome = true ∨
        locatorBundle.candidates ≠ [] := by
  unfold checkSteps
  cases htemplate : TemplateRegistry.getTemplate checkCode "v1" with
  | some template =>
    exact iff_of_true (hasLocators_buildTemplateChainSteps pageContext
      (List.mem_of_find?_eq_some htemplate)) (Or.inl rfl)
  | none =>
    have hassert := hasLocators_locatorAssertStep checkCode locatorBundle
    rw [Option.isSome_none, or_iff_right Bool.false_ne_true]
    dsimp only
    split
    · rw [← List.singleton_append, hasLocators_append, hassert]
      exact and_iff_left (hasLocators_step (by decide) _)
    · exact hassert

/-- **When a plan has locators.** -/
theorem hasLocators_buildModulePlan :
    HasLocators (buildModulePlan checkCode pageContext stateSignature locatorBundle).stepsJson ↔
      (TemplateRegistry.getTemplate checkCode "v1").isSome = true ∨
        locatorBundle.candidates ≠ [] := by
  have hnavigation : HasLocators (navigationSteps pageContext) := by
    intro planStep hmem
    simp only [navigationSteps, List.mem_cons, List.not_mem_nil, or_false] at hmem
    rcases hmem with rfl | rfl | rfl
    · exact hasLocators_step (by decide) _ _ (List.mem_singleton_self _)
    · exact hasLocators_step (by decide) _ _ (List.mem_singleton_self _)
    · exact hasLocators_step (by decide) _ _ (List.mem_singleton_self _)
  have hstate : HasLocators (stateSteps stateSignature pageContext) := by
    unfold stateSteps
    split
    · exact hasLocators_step (by decide) _
    · exact fun planStep hmem => absurd hmem List.not_mem_nil
  change HasLocators (navigationSteps pageContext ++ stateSteps stateSignature pageContext ++
    checkSteps checkCode pageContext stateSignature locatorBundle) ↔ _
  rw [hasLocators_append, hasLocators_append, hasLocators_checkSteps]
  exact and_iff_right ⟨hnavigation, hstate⟩

end Plans

/-! ## The selection -/

section Selection

variable {rows : List PageElement} {checkCode : String}

/-- A row has a locator when one of the seen ones is not forbidden. -/
theorem candidates_bundleOf_ne_nil (row : PageElement) :
    (bundleOf row).candidates ≠ [] ↔
      ∃ candidate ∈ rawCandidates row, LocatorBundles.isForbiddenLocator candidate = false := by
  unfold bundleOf
  rw [LocatorBundles.candidates_buildLocatorBundle, Ne, List.map_eq_nil_iff, List.zipIdx_eq_nil_iff,
    ← List.length_eq_zero_iff, LocatorBundles.rankedCandidates, List.length_insertionSort,
    List.length_eq_zero_iff, List.filter_eq_nil_iff]
  push Not
  simp only [Bool.not_eq_true']

/-- What is found has a locator, and is of the wanted type. -/
theorem exists_isWanted_of_findElementBundle {signature wanted : String} {bundle : LocatorBundle}
    (h : findElementBundle (rows.map fun row => buildNormalizedElement row signature)
      (expectedElementTypeForCheck checkCode) wanted = some bundle) :
    bundle.candidates ≠ [] ∧ ∃ row ∈ rows, IsWanted checkCode row := by
  obtain ⟨element, hfind, rfl⟩ := Option.map_eq_some_iff.mp h
  obtain ⟨row, hrow, rfl⟩ := List.mem_map.mp (List.mem_of_find?_eq_some hfind)
  have hpred := List.find?_some hfind
  rw [Bool.and_eq_true, Bool.and_eq_true, and_assoc, isWanted_iff] at hpred
  refine ⟨fun hnil => hpred.2.2 (List.map_eq_nil_iff.mp hnil), row, hrow, hpred.2⟩

/-- The fallback looks at the elements of all states. -/
theorem exists_findElementBundle_empty {signature : String} {row : PageElement} (hrow : row ∈ rows)
    (hwanted : IsWanted checkCode row) :
    ∃ bundle, findElementBundle (rows.map fun row => buildNormalizedElement row signature)
      (expectedElementTypeForCheck checkCode) "" = some bundle := by
  refine Option.isSome_iff_exists.mp ?_
  rw [findElementBundle, Option.isSome_map, List.find?_isSome]
  refine ⟨_, List.mem_map_of_mem hrow, ?_⟩
  rw [Bool.and_eq_true, Bool.and_eq_true, and_assoc, isWanted_iff]
  exact ⟨rfl, hwanted⟩

/-- **The selection finds a locator** exactly when some element of the wanted type has one. -/
theorem candidates_selectLocatorBundle_ne_nil
    (stateSignature defaultStateSignature signature : String) :
    (selectLocatorBundleForCheck checkCode stateSignature defaultStateSignature
      (rows.map fun row => buildNormalizedElement row signature)).candidates ≠ [] ↔
      ∃ row ∈ rows, IsWanted checkCode row := by
  unfold selectLocatorBundleForCheck
  dsimp only
  generalize (if stateSignature = defaultStateSignature then [stateSignature]
    else [stateSignature, defaultStateSignature]) = preferredStates
  cases hpreferred : preferredStates.findSome? (findElementBundle
      (rows.map fun row => buildNormalizedElement row signature)
      (expectedElementTypeForCheck checkCode)) with
  | some bundle =>
    obtain ⟨state, -, hfind⟩ := List.exists_of_findSome?_eq_some hpreferred
    exact iff_of_true (exists_isWanted_of_findElementBundle hfind).1
      (exists_isWanted_of_findElementBundle hfind).2
  | none =>
    rw [Option.none_or]
    constructor
    · intro hne
      cases hfallback : findElementBundle
          (rows.map fun row => buildNormalizedElement row signature)
          (expectedElementTypeForCheck checkCode) "" with
      | none =>
        rw [hfallback] at hne
        exact absurd rfl hne
      | some bundle => exact (exists_isWanted_of_findElementBundle hfallback).2
    · rintro ⟨row, hrow, hwanted⟩
      obtain ⟨bundle, hfind⟩ := @exists_findElementBundle_empty _ _ signature row hrow hwanted
      rw [hfind, Option.getD_some]
      exact (exists_isWanted_of_findElementBundle hfind).1

end Selection

/-! ## The plan of a check -/

section Planned

variable (cx : CompileContext)

/-- The check names a plan that is stored, and that was built for a check with its code of a page
of the snapshot.  The asset of the check is the one of the page. -/
structure PlannedFrom (db : Db) (c : PageCheck) (page : Page)
    (definition : StandardCheckDefinition) (plan : ModulePlan) : Prop where
  page_mem : page ∈ cx.pages
  asset : ∃ asset ∈ db.pageAssets, asset.id = c.pageAssetId ∧
    isAssetFor cx.system.id (assetKeyOf cx page) asset = true
  definition_mem : definition ∈ standardChecks cx page
  plan_mem : plan ∈ db.modulePlans
  modulePlanId : c.modulePlanId = some plan.id
  pageAssetId : plan.pageAssetId = c.pageAssetId
  checkCode : c.checkCode = definition.checkCode
  stepsJson : plan.stepsJson = (modulePlanDraft cx page definition).stepsJson

def IsPlanned (db : Db) (c : PageCheck) : Prop :=
  ∃ page definition plan, PlannedFrom cx db c page definition plan

/-- Each check that was written has its plan. -/
def ChecksPlanned (st : CompileState) : Prop :=
  ∀ c ∈ st.db.pageChecks, c.id ∈ st.pageCheckIds → IsPlanned cx st.db c

/-- The assets stay under their keys. -/
def KeepsAssetKeys (db db' : Db) : Prop :=
  ∀ a ∈ db.pageAssets, ∃ b ∈ db'.pageAssets, b.id = a.id ∧
    ∀ systemId assetKey, isAssetFor systemId assetKey b = isAssetFor systemId assetKey a

theorem KeepsAssetKeys.of_eq {db db' : Db} (h : db'.pageAssets = db.pageAssets) :
    KeepsAssetKeys db db' :=
  fun a ha => ⟨a, h.symm ▸ ha, rfl, fun _ _ => rfl⟩

variable {cx}

/-- A row that is written over is the row of the page. -/
theorem keepsAssetKeys_compileAsset (page : Page) (db : Db) :
    KeepsAssetKeys db (compileAsset cx page db).1 := by
  have hwrites := writes_compileAsset cx page db
  intro a ha
  by_cases hk : key a = key (compileAsset cx page db).2.1
  · have hold := assetSel_iff.mp (Table.pred_of_first? (hwrites.selected_of_key ha hk))
    have hnew := assetSel_iff.mp hwrites.selected
    refine ⟨_, hwrites.self_mem, hk.symm, fun systemId assetKey => ?_⟩
    unfold isAssetFor
    rw [hnew.1, hnew.2, hold.1, hold.2]
  · exact ⟨a, (hwrites.mem a).mpr (Or.inr ⟨ha, hk⟩), rfl, fun _ _ => rfl⟩

/-- Retiring an asset changes no key. -/
theorem keepsAssetKeys_compilePromoted (outcome : SwitchOutcome) (db : Db) :
    KeepsAssetKeys (compilePages cx db).db (compilePromoted cx outcome db).1 := by
  intro a ha
  have hget := get?_pageAssets_compilePromoted cx outcome db a.id
  rw [show (compilePages cx db).db.pageAssets.get? a.id = some a from Table.get?_key ha,
    Option.map_some] at hget
  refine ⟨_, Table.mem_of_get? hget, Table.key_of_get? hget, fun systemId assetKey => ?_⟩
  split
  · rfl
  · rfl

/-- A plan stays when plans are added, the assets stay under their keys, and the check keeps its
asset, its code and its plan. -/
theorem IsPlanned.of_kept {db db' : Db} {c c' : PageCheck} (h : IsPlanned cx db c)
    (hassets : KeepsAssetKeys db db') (hplans : ∀ plan ∈ db.modulePlans, plan ∈ db'.modulePlans)
    (hasset : c'.pageAssetId = c.pageAssetId) (hcode : c'.checkCode = c.checkCode)
    (hplan : c'.modulePlanId = c.modulePlanId) :
    IsPlanned cx db' c' := by
  obtain ⟨page, definition, plan, h⟩ := h
  obtain ⟨a, ha, hid, hkey⟩ := h.asset
  obtain ⟨b, hb, hba, hsame⟩ := hassets a ha
  exact ⟨page, definition, plan, h.page_mem,
    ⟨b, hb, (hba.trans hid).trans hasset.symm, (hsame _ _).trans hkey⟩, h.definition_mem,
    hplans plan h.plan_mem, hplan.trans h.modulePlanId, h.pageAssetId.trans hasset.symm,
    hcode.trans h.checkCode, h.stepsJson⟩

theorem ChecksPlanned.compileCheck {st : CompileState} (h : ChecksPlanned cx st) {page : Page}
    (hpage : page ∈ cx.pages) {asset : PageAsset} (hasset : asset ∈ st.db.pageAssets)
    (hkey : isAssetFor cx.system.id (assetKeyOf cx page) asset = true)
    {definition : StandardCheckDefinition} (hdefinition : definition ∈ standardChecks cx page) :
    ChecksPlanned cx (AssetCompiler.compileCheck cx page asset st definition) := by
  have hwrites := writes_compileCheck cx page asset st definition
  intro c hc hid
  rcases (hwrites.mem c).mp hc with rfl | ⟨hmem, hkey⟩
  · exact ⟨page, definition, _, hpage,
      ⟨asset, hasset, (checkRow_compileCheck cx page asset st definition).pageAssetId.symm, hkey⟩,
      hdefinition, Table.mem_insert_self, modulePlanId_compiledCheck asset st definition,
      (checkRow_compileCheck cx page asset st definition).pageAssetId.symm,
      (checkRow_compileCheck cx page asset st definition).checkCode, rfl⟩
  · -- Another check, whose plan was there before.
    have hold : c.id ∈ st.pageCheckIds :=
      (List.mem_append.mp hid).resolve_right fun hnew => hkey (List.mem_singleton.mp hnew)
    exact (h c hmem hold).of_kept (.of_eq rfl) (fun _ hplan => Table.mem_insert_of_mem hplan)
      rfl rfl rfl

theorem ChecksPlanned.foldl_compileCheck {page : Page} (hpage : page ∈ cx.pages)
    {asset : PageAsset} (hkey : isAssetFor cx.system.id (assetKeyOf cx page) asset = true)
    (l : List StandardCheckDefinition) (hl : ∀ d ∈ l, d ∈ standardChecks cx page)
    (st : CompileState) (hasset : asset ∈ st.db.pageAssets) (h : ChecksPlanned cx st) :
    ChecksPlanned cx (l.foldl (AssetCompiler.compileCheck cx page asset) st) := by
  induction l generalizing st with
  | nil => exact h
  | cons d l ih =>
    exact ih (fun e he => hl e (List.mem_cons_of_mem _ he)) _ hasset
      (h.compileCheck hpage hasset hkey (hl d List.mem_cons_self))

theorem ChecksPlanned.compilePage {st : CompileState} (h : ChecksPlanned cx st) {page : Page}
    (hpage : page ∈ cx.pages) : ChecksPlanned cx (AssetCompiler.compilePage cx st page) := by
  have hwrites := writes_compileAsset cx page st.db
  have hchecks := ChecksPlanned.foldl_compileCheck hpage hwrites.selected (standardChecks cx page)
    (fun _ hd => hd)
    { st with
      db := (AssetCompiler.compileAsset cx page st.db).1
      assetsUpdated :=
        if (st.db.pageAssets.first? (isAssetFor cx.system.id (assetKeyOf cx page))).isNone
        then st.assetsUpdated else st.assetsUpdated + 1
      driftStates := st.driftStates ++
        [(AssetCompiler.compileAsset cx page st.db).2.2.status] }
    hwrites.self_mem
    -- Writing the asset touches neither checks nor plans.
    fun c hc hid => (h c hc hid).of_kept (keepsAssetKeys_compileAsset page st.db)
      (fun _ hplan => hplan) rfl rfl rfl
  -- Nor do the navigation aliases.
  exact fun c hc hid => (hchecks c hc hid).of_kept (.of_eq rfl) (fun _ hplan => hplan) rfl rfl rfl

/-- **The loop writes no check without its plan.** -/
theorem checksPlanned_compilePages (db : Db) :
    ChecksPlanned cx (AssetCompiler.compilePages cx db) := by
  have hloop : ∀ l : List Page, (∀ page ∈ l, page ∈ cx.pages) → ∀ st, ChecksPlanned cx st →
      ChecksPlanned cx (l.foldl (AssetCompiler.compilePage cx) st) := by
    intro l
    induction l with
    | nil => exact fun _ _ h => h
    | cons page l ih =>
      exact fun hl st h => ih (fun q hq => hl q (List.mem_cons_of_mem _ hq)) _
        (h.compilePage (hl page List.mem_cons_self))
  exact hloop cx.pages (fun _ hpage => hpage) { db := db } fun c _ hid =>
    absurd hid List.not_mem_nil

/-- The retirement leaves the plans, and what a check says of them. -/
theorem isPlanned_compilePromoted {db : Db} (outcome : SwitchOutcome) {c : PageCheck}
    (hc : c ∈ (compilePromoted cx outcome db).1.pageChecks)
    (hid : c.id ∈ (compilePages cx db).pageCheckIds) :
    IsPlanned cx (compilePromoted cx outcome db).1 c := by
  have hplans := congrArg Db.modulePlans (outsideRetirement_retirement cx db)
  obtain ⟨b, hb, hbid, hcode, hasset, hplan⟩ := exists_of_mem_retireMissing (qualityGate cx db) hc
  refine (checksPlanned_compilePages db b hb (hbid ▸ hid)).of_kept
    (keepsAssetKeys_compilePromoted outcome db) (fun plan hmem => ?_) hasset.symm hcode.symm
    hplan.symm
  change plan ∈ (retirement cx db).db.modulePlans
  rw [show (retirement cx db).db.modulePlans = (compilePages cx db).db.modulePlans from hplans]
  exact hmem

end Planned

/-! ## Checks without locators -/

/-- An element of the page is of the type that the check looks for, and has a locator that is not
forbidden. -/
def HasElement (cx : CompileContext) (page : Page) (checkCode : String) : Prop :=
  ∃ row ∈ elementsOfPage cx page,
    (∀ elementType ∈ expectedElementTypeForCheck checkCode,
      Text.strip row.elementType = elementType) ∧
    ∃ candidate ∈ rawCandidates row, LocatorBundles.isForbiddenLocator candidate = false

theorem hasLocators_modulePlanDraft (cx : CompileContext) (page : Page)
    (definition : StandardCheckDefinition) :
    HasLocators (modulePlanDraft cx page definition).stepsJson ↔
      (TemplateRegistry.getTemplate definition.checkCode "v1").isSome = true ∨
        HasElement cx page definition.checkCode := by
  unfold modulePlanDraft normalizedElements HasElement
  rw [hasLocators_buildModulePlan, candidates_selectLocatorBundle_ne_nil]
  simp only [IsWanted, candidates_bundleOf_ne_nil]

/-- **Which checks of a compile have locators.** -/
theorem compiled_plan_has_locators_iff {call : CompileCall} {db db' : Db} {cx : CompileContext}
    (hcontext : call.promotedContext db = some (cx, db')) :
    ∀ c ∈ (CompileCall.step db call).pageChecks, c.id ∈ (compilePages cx db').pageCheckIds →
      ∃ page definition plan, PlannedFrom cx (CompileCall.step db call) c page definition plan ∧
        (HasLocators plan.stepsJson ↔
          (TemplateRegistry.getTemplate c.checkCode "v1").isSome = true ∨
            HasElement cx page c.checkCode) := by
  rw [call.step_of_promotedContext hcontext]
  intro c hc hid
  obtain ⟨page, definition, plan, hplanned⟩ := isPlanned_compilePromoted .promoted hc hid
  refine ⟨page, definition, plan, hplanned, ?_⟩
  rw [hplanned.stepsJson, hplanned.checkCode, hasLocators_modulePlanDraft]

/-! ## Pages with and without elements -/

namespace PlanSample

/-- A table with a locator. -/
def element : PageElement where
  id := 30
  systemId := 1
  snapshotId := 10
  pageId := 20
  elementType := "table"
  elementRole := some "grid"
  playwrightLocator := some "css=table"

/-- A page with the table, and a page on which no element was seen. -/
def db : Db :=
  { OwnCheckSample.db with
    pages := ⟨[{ id := 20, systemId := 1, snapshotId := some 10, routePath := "/a" },
      { id := 21, systemId := 1, snapshotId := some 10, routePath := "/b" }], by decide⟩
    pageElements := ⟨[element], by decide⟩ }

def context : CompileContext :=
  compileContext .ascending 1 OwnCheckSample.system OwnCheckSample.snapshot db

/-- Which of the stored plans have locators. -/
def plansWithLocators (db : Db) : List Bool :=
  db.modulePlans.rows.map fun plan => decide (HasLocators plan.stepsJson)

end PlanSample

/-- The plan of the second page is the last one. -/
theorem compiled_plan_has_locators_iff_sample :
    PlanSample.plansWithLocators (CompileCall.step PlanSample.db OwnCheckSample.call) =
        [true, true, true, true, true, true, true, false] ∧
      ∀ c ∈ (CompileCall.step PlanSample.db OwnCheckSample.call).pageChecks,
        ∃ page definition plan,
          PlannedFrom PlanSample.context (CompileCall.step PlanSample.db OwnCheckSample.call) c page
              definition plan ∧
            (HasLocators plan.stepsJson ↔
              (TemplateRegistry.getTemplate c.checkCode "v1").isSome = true ∨
                HasElement PlanSample.context page c.checkCode) := by
  have hwritten : ∀ c ∈ (CompileCall.step PlanSample.db OwnCheckSample.call).pageChecks,
      c.id ∈ (compilePages PlanSample.context PlanSample.db).pageCheckIds := by
    decide +kernel
  have hcontext : OwnCheckSample.call.promotedContext PlanSample.db =
    some (PlanSample.context, PlanSample.db) := rfl
  exact ⟨by decide +kernel,
    fun c hc => compiled_plan_has_locators_iff hcontext c hc (hwritten c hc)⟩

/-- The check that opens the page is active, and has nothing to look for. -/
theorem compiled_plan_without_locators :
    ¬ ∀ (call : CompileCall) (db db' : Db) (cx : CompileContext),
      call.promotedContext db = some (cx, db') →
        ∀ c ∈ (CompileCall.step db call).pageChecks, c.id ∈ (compilePages cx db').pageCheckIds →
          c.lifecycleStatus = .active →
            ∀ plan ∈ (CompileCall.step db call).modulePlans, c.modulePlanId = some plan.id →
              HasLocators plan.stepsJson := by
  intro h
  have hall := h OwnCheckSample.call PlanSample.db PlanSample.db PlanSample.context rfl
  exact absurd hall (by decide +kernel)

end AssetCompiler

end Runlet
