import Runlet.AssetCompiler.TemplateRegistry
import Runlet.AssetCompiler.LocatorBundles

/-!
# Module plans

`asset_compiler/module_plan_builder.py`: the steps that carry out a check.  A step is a JSON object
with a module name and parameters.
-/

namespace Runlet

/-- The page a plan is built for. -/
structure PageContext where
  systemCode : String
  pageTitle : Option String
  routePath : String
  menuChain : List String
  hasTable : Bool
  defaultStateSignature : String
  carrierHint : Option String := none

structure ModulePlanDraft where
  checkCode : String
  planVersion : String
  stepsJson : List Json

namespace ModulePlanBuilder

/-- A step. -/
def step (module : String) (params : List (String × Json)) : Json :=
  .obj [("module", .str module), ("params", .obj params)]

def assertionName (checkCode : String) : String :=
  match checkCode with
  | "table_render" => "table_visible"
  | "tab_switch_render" => "table_visible"
  | "open_create_modal" => "page_ready"
  | "open_create_modal_state" => "modal_visible"
  | _ => "page_ready"

def expectedElementType (checkCode : String) : String :=
  match checkCode with
  | "table_render" => "table"
  | "tab_switch_render" => "table"
  | "open_create_modal" => "button"
  | "open_create_modal_state" => "dialog"
  | _ => "page"

def usesLegacyOpenCreateAction (checkCode stateSignature defaultStateSignature : String) : Bool :=
  checkCode = "open_create_modal" &&
    (stateSignature = "" || stateSignature = defaultStateSignature)

def resolveCarrierHint (pageContext : PageContext) : String :=
  let carrierHint := Text.lower (Text.strip (pageContext.carrierHint.getD ""))
  if carrierHint = "table" || carrierHint = "list" then carrierHint
  else if pageContext.hasTable then "table"
  else "list"

/-- `params.update(other)`. -/
def updateParams (params other : List (String × Json)) : List (String × Json) :=
  other.foldl (fun acc e => Json.put acc e.1 e.2) params

def buildTemplateChainSteps (template : TemplateDefinition) (pageContext : PageContext) :
    List Json :=
  let carrier : List (String × Json) := [("carrier", .str (resolveCarrierHint pageContext))]
  let strategy := template.compileStrategy
  let actions := strategy.actionChain.map fun module =>
    match strategy.actionParams.find? fun e => e.1 = module with
    | some e => step module (updateParams carrier e.2)
    | none => step module carrier
  if strategy.assertModule = "" then actions
  else actions ++ [step strategy.assertModule (updateParams carrier strategy.assertParams)]

/-- The steps every plan starts with: log in, follow the menus, wait for the page. -/
def navigationSteps (pageContext : PageContext) : List Json :=
  [ step "auth.inject_state" [("policy", .str "server_injected")],
    step "nav.menu_chain"
      [("menu_chain", .arr (pageContext.menuChain.map .str)),
        ("route_path", .str pageContext.routePath)],
    step "page.wait_ready" [("route_path", .str pageContext.routePath)] ]

/-- The step that enters a state other than the default one. -/
def stateSteps (stateSignature : String) (pageContext : PageContext) : List Json :=
  if stateSignature ≠ "" && stateSignature ≠ pageContext.defaultStateSignature then
    [step "state.enter" [("state_signature", .str stateSignature)]]
  else []

def locatorAssertStep (checkCode : String) (locatorBundle : LocatorBundle) : Json :=
  step "locator.assert"
    [("assertion", .str (assertionName checkCode)),
      ("expected_element_type", .str (expectedElementType checkCode)),
      ("locator_bundle",
        .obj [("candidates", .arr (locatorBundle.candidates.map LocatorBundles.candidateJson))])]

/-- The steps after the navigation, by the kind of the check. -/
def checkSteps (checkCode : String) (pageContext : PageContext) (stateSignature : String)
    (locatorBundle : LocatorBundle) : List Json :=
  match TemplateRegistry.getTemplate checkCode "v1" with
  | some template => buildTemplateChainSteps template pageContext
  | none =>
    if usesLegacyOpenCreateAction checkCode stateSignature pageContext.defaultStateSignature then
      [locatorAssertStep checkCode locatorBundle, step "action.open_create_modal" []]
    else [locatorAssertStep checkCode locatorBundle]

def buildModulePlan (checkCode : String) (pageContext : PageContext) (stateSignature : String)
    (locatorBundle : LocatorBundle) : ModulePlanDraft where
  checkCode := checkCode
  planVersion := "v1"
  stepsJson :=
    navigationSteps pageContext ++ stateSteps stateSignature pageContext ++
      checkSteps checkCode pageContext stateSignature locatorBundle

/-! ## The steps of a template -/

/-- The step of an action of a template. -/
def actionStep (template : TemplateDefinition) (pageContext : PageContext) (module : String) :
    Json :=
  match template.compileStrategy.actionParams.find? fun e => e.1 = module with
  | some e => step module (updateParams [("carrier", .str (resolveCarrierHint pageContext))] e.2)
  | none => step module [("carrier", .str (resolveCarrierHint pageContext))]

theorem exists_actionStep_eq (template : TemplateDefinition) (pageContext : PageContext)
    (module : String) : ∃ params, actionStep template pageContext module = step module params := by
  unfold actionStep
  split
  · exact ⟨_, rfl⟩
  · exact ⟨_, rfl⟩

theorem mem_buildTemplateChainSteps {template : TemplateDefinition} {pageContext : PageContext}
    {planStep : Json} :
    planStep ∈ buildTemplateChainSteps template pageContext ↔
      (∃ module ∈ template.compileStrategy.actionChain,
        actionStep template pageContext module = planStep) ∨
      (template.compileStrategy.assertModule ≠ "" ∧
        planStep = step template.compileStrategy.assertModule
          (updateParams [("carrier", .str (resolveCarrierHint pageContext))]
            template.compileStrategy.assertParams)) := by
  have hactions : planStep ∈ template.compileStrategy.actionChain.map
        (actionStep template pageContext) ↔
      ∃ module ∈ template.compileStrategy.actionChain,
        actionStep template pageContext module = planStep := List.mem_map
  rw [← hactions]
  change planStep ∈ (if template.compileStrategy.assertModule = "" then
      template.compileStrategy.actionChain.map (actionStep template pageContext)
    else template.compileStrategy.actionChain.map (actionStep template pageContext) ++ _) ↔ _
  split_ifs with hnone
  · exact (or_iff_left fun h => h.1 hnone).symm
  · rw [List.mem_append, List.mem_singleton, and_iff_right hnone]

/-- A step of a template is that of one of its modules. -/
theorem exists_module_of_mem_chain {template : TemplateDefinition} {pageContext : PageContext}
    {planStep : Json} (h : planStep ∈ buildTemplateChainSteps template pageContext) :
    ∃ module ∈ template.compileStrategy.assertModule :: template.compileStrategy.actionChain,
      ∃ params, planStep = step module params := by
  rcases mem_buildTemplateChainSteps.mp h with ⟨module, hmodule, rfl⟩ | ⟨-, rfl⟩
  · obtain ⟨params, hparams⟩ := exists_actionStep_eq template pageContext module
    exact ⟨module, List.mem_cons_of_mem _ hmodule, params, hparams⟩
  · exact ⟨_, List.mem_cons_self, _, rfl⟩

end ModulePlanBuilder

end Runlet
