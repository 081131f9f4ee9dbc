import Runlet.AssetCompiler.ModulePlanBuilder
import Runlet.RunnerService.ScriptText

/-!
# The script of a plan against its execution

The same steps are carried out by the executor, which asks one call of the runtime for each, and
rendered to a script, which has one line for each.  A script stands for the execution when the lines
are statements that do what the calls do (`Faithful`).  The renderer knows six modules; the check
that a plan ends with is not among them (`exists_comment`), so no script stands for its plan.
-/

namespace Runlet
namespace RenderedSteps

open ModuleExecutor (moduleOf paramsOf plannedCall)
open ModulePlanBuilder

/-! ## Steps and lines -/

/-- The statement does what the call asks for. -/
def Performs : ScriptStatement → RuntimeCall → Prop
  | .navigateMenuChain menuChain routePath, .navigateMenuChain menuChain' routePath' =>
    menuChain = menuChain' ∧ routePath = routePath'
  | .waitForUrl routePath, .waitPageReady routePath' => routePath = routePath'
  | .expectTableVisible, .assertTableVisible _ => True
  | .expectUrl routePath, .assertPageOpen routePath' => routePath = routePath'
  | .clickCreate, .openCreateModal => True
  | _, _ => False

/-- The statement does what the executor does for the step. -/
def StandsFor (runtimeInputs : List (String × Json)) (step : Json) (statement : ScriptStatement) :
    Prop :=
  ∃ call, plannedCall (paramsOf runtimeInputs step) (moduleOf step) = .ok call ∧
    Performs statement call

/-- The steps that a script has lines for. -/
def scriptSteps (stepsJson : List Json) : List Json :=
  stepsJson.filter fun step => moduleOf step ≠ "auth.inject_state"

/-- The script has a statement for each step, in their order. -/
def Faithful (runtimeInputs : List (String × Json)) (stepsJson : List Json) : Prop :=
  ∃ statements : List ScriptStatement,
    ScriptText.stepLines stepsJson = .ok (statements.map .statement) ∧
      List.Forall₂ (StandsFor runtimeInputs) (scriptSteps stepsJson) statements

/-- The step is a comment in the script, while the executor asks `call` for it. -/
def Skipped (runtimeInputs : List (String × Json)) (step : Json) : Prop :=
  (∃ module, ScriptText.stepLine step = .ok (some (.comment module))) ∧
    ∃ call, plannedCall (paramsOf runtimeInputs step) (moduleOf step) = .ok call

theorem mapM_mem {l : List Json} {lines : List (Option ScriptLine)} {step : Json}
    {line : Option ScriptLine} (h : l.mapM ScriptText.stepLine = .ok lines) (hs : step ∈ l)
    (hl : ScriptText.stepLine step = .ok line) : line ∈ lines := by
  induction l generalizing lines with
  | nil => cases hs
  | cons a l ih =>
    rw [List.mapM_cons] at h
    cases ha : ScriptText.stepLine a with
    | error e =>
      rw [ha] at h
      exact nomatch h
    | ok first =>
      rw [ha] at h
      cases hm : l.mapM ScriptText.stepLine with
      | error e =>
        rw [hm] at h
        exact nomatch h
      | ok rest =>
        rw [hm] at h
        obtain rfl : first :: rest = lines := Except.ok.inj h
        rcases List.mem_cons.mp hs with rfl | hs
        · obtain rfl : first = line := Except.ok.inj (ha.symm.trans hl)
          exact List.mem_cons_self
        · exact List.mem_cons_of_mem _ (ih hm hs)

/-- The line of a step is one of the script. -/
theorem stepLines_mem {stepsJson : List Json} {lines : List ScriptLine} {step : Json}
    {line : ScriptLine} (h : ScriptText.stepLines stepsJson = .ok lines) (hs : step ∈ stepsJson)
    (hl : ScriptText.stepLine step = .ok (some line)) : line ∈ lines := by
  unfold ScriptText.stepLines at h
  cases hm : stepsJson.mapM ScriptText.stepLine with
  | error e =>
    rw [hm] at h
    exact nomatch h
  | ok drawn =>
    rw [hm] at h
    obtain rfl : drawn.filterMap id = lines := Except.ok.inj h
    exact List.mem_filterMap.mpr ⟨some line, mapM_mem hm hs hl, rfl⟩

/-- A skipped step is missing from every script. -/
theorem not_faithful_of_skipped {runtimeInputs : List (String × Json)} {stepsJson : List Json}
    {step : Json} (hs : step ∈ stepsJson) (h : Skipped runtimeInputs step) :
    ¬Faithful runtimeInputs stepsJson := by
  rintro ⟨statements, hlines, -⟩
  obtain ⟨⟨module, hcomment⟩, -⟩ := h
  obtain ⟨statement, -, hstatement⟩ :=
    List.mem_map.mp (stepLines_mem hlines hs hcomment)
  exact nomatch hstatement

/-! ## The plans -/

theorem skipped_locatorAssertStep (runtimeInputs : List (String × Json)) (checkCode : String)
    (locatorBundle : LocatorBundle) :
    Skipped runtimeInputs (locatorAssertStep checkCode locatorBundle) :=
  ⟨⟨"locator.assert", rfl⟩, _, rfl⟩

theorem skipped_submitQuery (runtimeInputs params : List (String × Json)) :
    Skipped runtimeInputs (step "action.submit_query" params) :=
  ⟨⟨"action.submit_query", rfl⟩, _, rfl⟩

/-- Every template submits a query. -/
theorem submitQuery_mem_actionChain {template : TemplateDefinition}
    (h : template ∈ templateDefinitions) :
    "action.submit_query" ∈ template.compileStrategy.actionChain := by
  simp only [templateDefinitions, List.mem_cons, List.not_mem_nil, or_false] at h
  rcases h with rfl | rfl | rfl | rfl | rfl <;> decide

theorem exists_submitQuery {template : TemplateDefinition} (h : template ∈ templateDefinitions)
    (pageContext : PageContext) :
    ∃ params, step "action.submit_query" params ∈ buildTemplateChainSteps template pageContext := by
  obtain ⟨params, hparams⟩ := exists_actionStep_eq template pageContext "action.submit_query"
  exact ⟨params, mem_buildTemplateChainSteps.mpr
    (Or.inl ⟨_, submitQuery_mem_actionChain h, hparams⟩)⟩

/-- The steps of a check have one that is a comment in the script. -/
theorem exists_comment (runtimeInputs : List (String × Json)) (checkCode : String)
    (pageContext : PageContext) (stateSignature : String) (locatorBundle : LocatorBundle) :
    ∃ s ∈ checkSteps checkCode pageContext stateSignature locatorBundle,
      Skipped runtimeInputs s := by
  unfold checkSteps
  split
  · rename_i template htemplate
    obtain ⟨params, hparams⟩ :=
      exists_submitQuery (List.mem_of_find?_eq_some htemplate) pageContext
    exact ⟨_, hparams, skipped_submitQuery runtimeInputs params⟩
  · have hassert := skipped_locatorAssertStep runtimeInputs checkCode locatorBundle
    split_ifs
    · exact ⟨_, List.mem_cons_self, hassert⟩
    · exact ⟨_, List.mem_cons_self, hassert⟩

/-- No script does all that the executor does for its plan. -/
theorem plan_not_faithful (runtimeInputs : List (String × Json)) (checkCode : String)
    (pageContext : PageContext) (stateSignature : String) (locatorBundle : LocatorBundle) :
    ¬Faithful runtimeInputs
      (buildModulePlan checkCode pageContext stateSignature locatorBundle).stepsJson := by
  obtain ⟨s, hs, hskipped⟩ :=
    exists_comment runtimeInputs checkCode pageContext stateSignature locatorBundle
  exact not_faithful_of_skipped (List.mem_append_right _ hs) hskipped

/-! ## A script that checks nothing -/

namespace RenderedSample

def usersPage : PageContext where
  systemCode := "ERP"
  pageTitle := some "Users"
  routePath := "/users"
  menuChain := ["Users"]
  hasTable := true
  defaultStateSignature := "users:default"

def hasDataPlan : ModulePlanDraft :=
  buildModulePlan "has_data" usersPage "users:default" ⟨[]⟩

/-- The query and the count of the rows are comments. -/
theorem has_data_unchecked :
    ScriptText.stepLines hasDataPlan.stepsJson =
        .ok [.statement (.navigateMenuChain ["Users"] "/users"), .statement (.waitForUrl "/users"),
          .comment "action.submit_query", .comment "assert.data_count"] ∧
      ¬Faithful [] hasDataPlan.stepsJson := by
  have hlines : ScriptText.stepLines hasDataPlan.stepsJson =
      .ok [.statement (.navigateMenuChain ["Users"] "/users"), .statement (.waitForUrl "/users"),
        .comment "action.submit_query", .comment "assert.data_count"] := by decide +kernel
  refine ⟨hlines, ?_⟩
  rintro ⟨statements, hstatements, -⟩
  have hcomment : ScriptLine.comment "action.submit_query" ∈
      statements.map ScriptLine.statement := by
    have := Except.ok.inj (hlines.symm.trans hstatements)
    rw [← this]
    decide
  obtain ⟨statement, -, hstatement⟩ := List.mem_map.mp hcomment
  exact nomatch hstatement

end RenderedSample

end RenderedSteps
end Runlet
