import Runlet.AssetCompiler.ModulePlanBuilder
import Runlet.RunnerService.ExecutionTrace

/-!
# The slots of a check template

A template names the inputs it needs (`requiredSlots`); the steps of its plan refer to them by
placeholders, which the executor replaces by the inputs of the run.  An input that is missing leaves
its placeholder where it is, and the runtime is called with it, or a default takes its place.

* `isValid`, `isRefused`: the values a slot may have, and the values that make a step fail.
* `Safe`: no call carries a placeholder, and no step passes without its slots.
* `safe_iff`: every run of the plan is safe exactly when all slots are valid or one is refused.
-/

namespace Runlet
namespace TemplateSlots

open ModuleExecutor ModulePlanBuilder

/-! ## Slots -/

/-- A text that says something, and is no placeholder. -/
def isProperText (s : String) : Bool :=
  Text.strip s ≠ "" && (placeholderName s).isNone && (placeholderName (Text.strip s)).isNone

def isProperTextValue : Json → Bool
  | .str s => isProperText s
  | _ => false

/-- A value to compare with: a text, a number or a truth value. -/
def isOperand : Json → Bool
  | .str s => isProperText s
  | .int _ => true
  | .float _ _ => true
  | .bool _ => true
  | _ => false

/-- A number of rows. -/
def isCount (v : Json) : Bool :=
  match coerceOptionalInt (some v) with
  | .ok (some n) => 0 ≤ n
  | _ => false

/-- The values a slot may have. -/
def isValid (slot : String) (v : Json) : Bool :=
  if slot = "min_count" then isCount v
  else if slot = "value" ∨ slot = "status" then isOperand v
  else isProperTextValue v

/-- The values that the executor refuses: an empty field, no value, digits that are no number. -/
def isRefused (slot : String) (v : Json) : Bool :=
  if slot = "min_count" then
    match coerceOptionalInt (some v) with
    | .error _ => true
    | .ok _ => false
  else if slot = "value" ∨ slot = "status" then isNull v
  else if slot = "field" then (optionalText (some v)).isNone
  else false

def inputOf (runtimeInputs : List (String × Json)) (slot : String) : Option Json :=
  (Json.obj runtimeInputs).get? slot

/-- The parameters that a template gives to a module. -/
def slotParams (template : TemplateDefinition) (module : String) : List (String × Json) :=
  if module = template.compileStrategy.assertModule then template.compileStrategy.assertParams
  else
    match template.compileStrategy.actionParams.find? fun e => e.1 = module with
    | some e => e.2
    | none => []

def isSlot (slot : String) : Json → Bool
  | .str s => placeholderName s = some slot
  | _ => false

/-- The required slots that a module of a template uses. -/
def slotsOf (template : TemplateDefinition) (module : String) : List String :=
  template.requiredSlots.filter fun slot =>
    (slotParams template module).any fun e => isSlot slot e.2

/-! ## Safety -/

def IsPlaceholder (s : String) : Prop :=
  placeholderName s ≠ none

/-- An argument of the call is a placeholder. -/
def CarriesPlaceholder : RuntimeCall → Prop
  | .applyFilter field operator value _ =>
    IsPlaceholder field ∨ IsPlaceholder operator ∨ ∃ s, value = .str s ∧ IsPlaceholder s
  | .rowExistsByField _ field operator value =>
    IsPlaceholder field ∨ IsPlaceholder operator ∨ ∃ s, value = .str s ∧ IsPlaceholder s
  | _ => False

/-- An execution of a plan of the template that relies on no missing slot. -/
structure Safe (template : TemplateDefinition) (runtimeInputs : List (String × Json))
    (calls : List RuntimeCall) (result : ModuleExecutionResult) : Prop where
  no_placeholder : ∀ call ∈ calls, ¬CarriesPlaceholder call
  slots_valid : ∀ stepResult ∈ result.stepResults, stepResult.status = .passed →
    ∀ slot ∈ slotsOf template stepResult.module,
      (inputOf runtimeInputs slot).any (isValid slot) = true

/-- No behaviour of the runtime makes an execution of the steps rely on a missing slot. -/
def AlwaysSafe (template : TemplateDefinition) (runtimeInputs : List (String × Json))
    (stepsJson : List Json) : Prop :=
  ∀ runtime, Safe template runtimeInputs (execute runtime runtimeInputs stepsJson).1
    (execute runtime runtimeInputs stepsJson).2

/-- The slots are all valid, or one of them makes its step fail. -/
def Settled (template : TemplateDefinition) (runtimeInputs : List (String × Json)) : Prop :=
  (∃ slot ∈ template.requiredSlots, (inputOf runtimeInputs slot).any (isRefused slot) = true) ∨
    ∀ slot ∈ template.requiredSlots, (inputOf runtimeInputs slot).any (isValid slot) = true

/-! ## Calls and results of an execution -/

section

variable {runtime : RunnerRuntime} {runtimeInputs : List (String × Json)} {stepsJson : List Json}

theorem calls_progressAfter (stepsJson : List Json) :
    ∀ call ∈ (progressAfter runtime runtimeInputs stepsJson).1, ∃ step ∈ stepsJson,
      plannedCall (paramsOf runtimeInputs step) (moduleOf step) = .ok call := by
  induction stepsJson using List.reverseRecOn with
  | nil => exact fun call h => nomatch h
  | append_singleton steps step ih =>
    intro call hcall
    unfold progressAfter at hcall
    rw [EarlyExit.reached_concat] at hcall
    change call ∈ (runStep runtime runtimeInputs (progressAfter runtime runtimeInputs steps).1
      (progressAfter runtime runtimeInputs steps).2 step).calls at hcall
    rw [calls_runStep] at hcall
    rcases List.mem_append.mp hcall with hcall | hcall
    · obtain ⟨step', hmem, hplanned⟩ := ih call hcall
      exact ⟨step', List.mem_append_left _ hmem, hplanned⟩
    · refine ⟨step, List.mem_append_right _ (List.mem_singleton_self step), ?_⟩
      cases hplanned : plannedCall (paramsOf runtimeInputs step) (moduleOf step) with
      | error e =>
        rw [hplanned] at hcall
        exact nomatch hcall
      | ok call' =>
        rw [hplanned] at hcall
        exact congrArg Except.ok (List.mem_singleton.mp hcall).symm

/-- A call of an execution is the one of a step of the plan. -/
theorem exists_step_of_call {call : RuntimeCall}
    (h : call ∈ (execute runtime runtimeInputs stepsJson).1) : ∃ step ∈ stepsJson,
      plannedCall (paramsOf runtimeInputs step) (moduleOf step) = .ok call := by
  rw [execute_eq] at h
  dsimp only at h
  rw [EarlyExit.run_fst] at h
  obtain ⟨step, hstep, hplanned⟩ := calls_progressAfter _ call h
  exact ⟨step, List.mem_of_mem_take hstep, hplanned⟩

/-- A result of an execution is the one of a step of the plan. -/
theorem exists_step_of_result {stepResult : StepExecutionResult}
    (h : stepResult ∈ (execute runtime runtimeInputs stepsJson).2.stepResults) :
    ∃ step ∈ stepsJson, ∃ calls status,
      stepResult = (runStep runtime runtimeInputs calls status step).result := by
  rw [execute_eq] at h
  obtain ⟨i, hi⟩ := List.getElem?_of_mem h
  obtain ⟨step, hstep, rfl⟩ := EarlyExit.getElem?_run _ _ hi
  exact ⟨step, List.mem_of_getElem? hstep, _, _, rfl⟩

/-- Steps that all pass are all carried out. -/
theorem exists_result_of_step
    (h : ∀ step ∈ stepsJson, ∀ calls status,
      (runStep runtime runtimeInputs calls status step).result.status = .passed)
    {step : Json} (hstep : step ∈ stepsJson) :
    ∃ stepResult ∈ (execute runtime runtimeInputs stepsJson).2.stepResults,
      stepResult.module = moduleOf step ∧ stepResult.status = .passed := by
  obtain ⟨i, hi⟩ := List.getElem?_of_mem hstep
  have hgo : ∀ progress, ∀ step' ∈ stepsJson.take i,
      isFailed (advance runtime runtimeInputs progress step').2 = false := by
    intro progress step' hmem
    have hpassed := h step' (List.mem_of_mem_take hmem) progress.1 progress.2
    exact decide_eq_false fun hfailed => nomatch hpassed.symm.trans hfailed
  have hresult := List.mem_of_getElem?
    (EarlyExit.getElem?_run_of_not_stops ([], .blocked) stepsJson hi hgo)
  rw [execute_eq]
  exact ⟨_, hresult, (judged_runStep _ _ step).module_eq, h step hstep _ _⟩

end

/-! ## One step -/

/-- Whatever the runtime does, the step relies on no missing slot. -/
structure StepSafe (template : TemplateDefinition) (runtimeInputs : List (String × Json))
    (step : Json) : Prop where
  no_placeholder : ∀ call,
    plannedCall (paramsOf runtimeInputs step) (moduleOf step) = .ok call → ¬CarriesPlaceholder call
  slots_valid : ∀ runtime calls status,
    (runStep runtime runtimeInputs calls status step).result.status = .passed →
      ∀ slot ∈ slotsOf template (moduleOf step),
        (inputOf runtimeInputs slot).any (isValid slot) = true

section

variable {template : TemplateDefinition} {runtimeInputs : List (String × Json)}

theorem alwaysSafe_of_stepSafe {stepsJson : List Json}
    (h : ∀ step ∈ stepsJson, StepSafe template runtimeInputs step) :
    AlwaysSafe template runtimeInputs stepsJson := by
  intro runtime
  constructor
  · intro call hcall
    obtain ⟨step, hstep, hplanned⟩ := exists_step_of_call hcall
    exact (h step hstep).no_placeholder call hplanned
  · intro stepResult hresult hpassed
    obtain ⟨step, hstep, calls, status, rfl⟩ := exists_step_of_result hresult
    rw [(judged_runStep calls status step).module_eq]
    exact (h step hstep).slots_valid runtime calls status hpassed

/-- A step that is refused asks nothing of the runtime, and fails. -/
theorem stepSafe_of_error {step : Json} {e : String}
    (h : plannedCall (paramsOf runtimeInputs step) (moduleOf step) = .error e) :
    StepSafe template runtimeInputs step := by
  constructor
  · intro call hcall
    exact nomatch h.symm.trans hcall
  · intro runtime calls status hpassed
    unfold runStep at hpassed
    simp only [h] at hpassed
    exact nomatch hpassed

/-- A step that uses no slot, and hands on no placeholder. -/
theorem stepSafe_of_call {step : Json} {call : RuntimeCall}
    (hslots : slotsOf template (moduleOf step) = [])
    (hcall : plannedCall (paramsOf runtimeInputs step) (moduleOf step) = .ok call)
    (h : ¬CarriesPlaceholder call) : StepSafe template runtimeInputs step := by
  constructor
  · intro call' hcall'
    rw [← Except.ok.inj (hcall.symm.trans hcall')]
    exact h
  · intro runtime calls status _ slot hslot
    rw [hslots] at hslot
    exact nomatch hslot

/-! ## Resolved parameters -/

section

variable {F O V C : Json} {message : String}

/-- The parameters of a step that looks for rows. -/
def rowParams (C F O V : Json) : List (String × Json) :=
  [("carrier", C), ("field", F), ("operator", O), ("value", V)]

theorem param_field : param (rowParams C F O V) "field" = some F := rfl

theorem param_operator : param (rowParams C F O V) "operator" = some O := rfl

theorem param_value : param (rowParams C F O V) "value" = some V := rfl

theorem operatorOf_rowParams :
    operatorOf (rowParams C F O V) = (optionalText (some O)).getD "equals" := by
  rw [operatorOf, param_operator]

theorem fieldAndValue_of_refused (h : (optionalText (some F)).isNone ∨ isNull V) :
    fieldAndValue (rowParams C F O V) message = .error message := by
  rw [fieldAndValue, param_field, param_value]
  cases hfield : optionalText (some F) with
  | none => rfl
  | some field => exact if_pos (h.resolve_left fun h => nomatch hfield ▸ h)

theorem fieldAndValue_of_given (message : String) {field : String}
    (hfield : optionalText (some F) = some field) (hvalue : isNull V = false) :
    fieldAndValue (rowParams C F O V) message = .ok (field, V) := by
  rw [fieldAndValue, param_field, param_value, hfield]
  exact if_neg (Bool.eq_false_iff.mp hvalue)

/-- A proper text is taken without the blanks around it. -/
theorem optionalText_of_isProperText {s : String} (h : isProperText s = true) :
    optionalText (some (.str s)) = some (Text.strip s) ∧ ¬IsPlaceholder (Text.strip s) := by
  unfold isProperText at h
  simp only [Bool.and_eq_true, decide_eq_true_eq, Option.isNone_iff_eq_none] at h
  obtain ⟨⟨hne, -⟩, hnone⟩ := h
  refine ⟨?_, fun h' => h' hnone⟩
  unfold optionalText
  simp only [isNull, Bool.false_or, Json.text]
  exact if_neg fun hs => hne (of_decide_eq_true hs)

end

/-- The input of a slot, or the placeholder itself. -/
theorem resolveValue_slot {slot text : String} (h : placeholderName text = some slot) :
    resolveValue runtimeInputs (.str text) = (inputOf runtimeInputs slot).getD (.str text) := by
  simp only [resolveValue, h]
  rfl

/-! ## Steps that look for rows -/

/-- Field or value are missing. -/
def RowRefused (F V : Json) : Prop :=
  (optionalText (some F)).isNone = true ∨ isNull V = true

/-- Field, operator and value are no placeholders. -/
structure RowProper (F O V : Json) : Prop where
  field : ∃ s, optionalText (some F) = some s ∧ ¬IsPlaceholder s
  operator : ∃ s, optionalText (some O) = some s ∧ ¬IsPlaceholder s
  value : ∀ s, V = .str s → ¬IsPlaceholder s

/-- The modules of the steps that look for rows. -/
def rowModules : List String :=
  ["action.apply_filter", "assert.row_exists_by_field"]

section

variable {F O V C : Json} {module : String}

theorem plannedCall_of_refused (hmodule : module ∈ rowModules) (h : RowRefused F V) :
    ∃ e, plannedCall (rowParams C F O V) module = .error e := by
  simp only [rowModules, List.mem_cons, List.not_mem_nil, or_false] at hmodule
  rcases hmodule with rfl | rfl
  · exact ⟨_, congrArg (Except.map _) (fieldAndValue_of_refused h)⟩
  · exact ⟨_, congrArg (Except.map _) (fieldAndValue_of_refused h)⟩

/-- The calls of the steps that look for rows, when field and value are given. -/
theorem plannedCall_of_given (hmodule : module ∈ rowModules) {field : String}
    (hfield : optionalText (some F) = some field) (hvalue : isNull V = false) :
    plannedCall (rowParams C F O V) module = .ok
        (.applyFilter field (operatorOf (rowParams C F O V)) V (carrierOf (rowParams C F O V))) ∨
      plannedCall (rowParams C F O V) module = .ok
        (.rowExistsByField (carrierOf (rowParams C F O V)) field
          (operatorOf (rowParams C F O V)) V) := by
  simp only [rowModules, List.mem_cons, List.not_mem_nil, or_false] at hmodule
  rcases hmodule with rfl | rfl
  · exact .inl (congrArg (Except.map _) (fieldAndValue_of_given _ hfield hvalue))
  · exact .inr (congrArg (Except.map _) (fieldAndValue_of_given _ hfield hvalue))

/-- A call of a step that looks for rows has the field, the operator and the value of the step. -/
theorem not_carriesPlaceholder_of_rowProper (hmodule : module ∈ rowModules) (h : RowProper F O V)
    {call : RuntimeCall} (hcall : plannedCall (rowParams C F O V) module = .ok call) :
    ¬CarriesPlaceholder call := by
  obtain ⟨field, hfield, hfieldProper⟩ := h.field
  obtain ⟨operator, hoperator, hoperatorProper⟩ := h.operator
  have hvalue : isNull V = false := by
    by_contra hnull
    obtain ⟨e, he⟩ := plannedCall_of_refused (C := C) (O := O) hmodule
      (.inr (Bool.not_eq_false _ ▸ hnull) : RowRefused F V)
    exact nomatch he.symm.trans hcall
  have hop : operatorOf (rowParams C F O V) = operator := by
    rw [operatorOf_rowParams, hoperator]
    rfl
  have hproper : ¬(IsPlaceholder field ∨ IsPlaceholder (operatorOf (rowParams C F O V)) ∨
      ∃ s, V = .str s ∧ IsPlaceholder s) := by
    rintro (hf | ho | ⟨s, hs, hv⟩)
    · exact hfieldProper hf
    · exact hoperatorProper (hop ▸ ho)
    · exact h.value s hs hv
  rcases plannedCall_of_given (C := C) (O := O) hmodule hfield hvalue with hplanned | hplanned
  · rw [← Except.ok.inj (hplanned.symm.trans hcall)]
    exact hproper
  · rw [← Except.ok.inj (hplanned.symm.trans hcall)]
    exact hproper

end

theorem paramsOf_rowStep (module : String) (C F O V : Json) :
    paramsOf runtimeInputs (step module (rowParams C F O V)) =
      rowParams (resolveValue runtimeInputs C) (resolveValue runtimeInputs F)
        (resolveValue runtimeInputs O) (resolveValue runtimeInputs V) :=
  rfl

theorem textOrEmpty_str {s : String} (h : s ≠ "") : textOrEmpty (some (.str s)) = s := by
  simp only [textOrEmpty, Json.truthy, Json.text]
  exact if_pos (by simpa using h)

theorem moduleOf_step {module : String} (h : module ≠ "") (params : List (String × Json)) :
    moduleOf (step module params) = module :=
  textOrEmpty_str h

theorem stepSafe_rowStep {module : String} (hmodule : module ∈ rowModules) {C F O V : Json}
    (h : RowRefused (resolveValue runtimeInputs F) (resolveValue runtimeInputs V) ∨
      RowProper (resolveValue runtimeInputs F) (resolveValue runtimeInputs O)
          (resolveValue runtimeInputs V) ∧
        ∀ slot ∈ template.requiredSlots, (inputOf runtimeInputs slot).any (isValid slot) = true) :
    StepSafe template runtimeInputs (step module (rowParams C F O V)) := by
  have hne : module ≠ "" := by
    rintro rfl
    exact absurd hmodule (by decide)
  have hname := moduleOf_step hne (rowParams C F O V)
  rcases h with h | ⟨h, hvalid⟩
  · obtain ⟨e, he⟩ := plannedCall_of_refused hmodule h
    refine @stepSafe_of_error _ _ _ e ?_
    rw [hname, paramsOf_rowStep]
    exact he
  · constructor
    · intro call hcall
      rw [hname, paramsOf_rowStep] at hcall
      exact not_carriesPlaceholder_of_rowProper hmodule h hcall
    · intro runtime calls status _ slot hslot
      exact hvalid slot (List.mem_of_mem_filter hslot)

/-! ## A runtime that agrees to everything -/

/-- It finds one row, and says yes to every other call. -/
def agreeing : RunnerRuntime
  | _, .readDataCount _ => .ok (.int 1)
  | _, _ => .ok (.bool true)

def Passes (runtimeInputs : List (String × Json)) (step : Json) : Prop :=
  ∀ calls status, (runStep agreeing runtimeInputs calls status step).result.status = .passed

theorem passes_of_ok {step : Json} {call : RuntimeCall}
    (hplanned : plannedCall (paramsOf runtimeInputs step) (moduleOf step) = .ok call)
    (hresult : ∀ calls, (stepResult (paramsOf runtimeInputs step) (moduleOf step) call
      (agreeing calls call)).status = .passed) : Passes runtimeInputs step := by
  intro calls status
  unfold runStep
  simp only [hplanned]
  exact hresult calls

theorem passes_rowStep {module : String} (hmodule : module ∈ rowModules) {C F O V : Json}
    (h : ¬RowRefused (resolveValue runtimeInputs F) (resolveValue runtimeInputs V)) :
    Passes runtimeInputs (step module (rowParams C F O V)) := by
  have hne : module ≠ "" := by
    rintro rfl
    exact absurd hmodule (by decide)
  obtain ⟨hfield, hvalue⟩ := not_or.mp h
  obtain ⟨field, hfield⟩ := Option.ne_none_iff_exists'.mp
    fun hnone => hfield (Option.isNone_iff_eq_none.mpr hnone)
  have hname := moduleOf_step hne (rowParams C F O V)
  rcases plannedCall_of_given (C := resolveValue runtimeInputs C)
    (O := resolveValue runtimeInputs O) hmodule hfield (Bool.eq_false_iff.mpr hvalue) with
    hplanned | hplanned
  · rw [← hname, ← paramsOf_rowStep] at hplanned
    exact passes_of_ok hplanned fun calls => rfl
  · rw [← hname, ← paramsOf_rowStep] at hplanned
    exact passes_of_ok hplanned fun calls => rfl

/-- The steps before the checks ask for things that this runtime agrees to. -/
theorem passes_navigationSteps (pageContext : PageContext) (stateSignature : String) :
    ∀ step ∈ navigationSteps pageContext ++ stateSteps stateSignature pageContext,
      Passes runtimeInputs step := by
  intro step hstep
  rcases List.mem_append.mp hstep with hstep | hstep
  · simp only [navigationSteps, List.mem_cons, List.not_mem_nil, or_false] at hstep
    rcases hstep with rfl | rfl | rfl
    · exact fun calls status => rfl
    · exact fun calls status => rfl
    · exact fun calls status => rfl
  · unfold stateSteps at hstep
    split_ifs at hstep
    · rw [List.mem_singleton.mp hstep]
      exact fun calls status => rfl
    · exact nomatch hstep

/-! ## Steps that count rows -/

/-- The parameters of a step that counts at least so many rows. -/
def countParams (C E : Json) : List (String × Json) :=
  [("carrier", C), ("expected_min", E)]

theorem paramsOf_countStep (C E : Json) :
    paramsOf runtimeInputs (step "assert.data_count" (countParams C E)) =
      countParams (resolveValue runtimeInputs C) (resolveValue runtimeInputs E) :=
  rfl

theorem moduleOf_countStep (C E : Json) :
    moduleOf (step "assert.data_count" (countParams C E)) = "assert.data_count" :=
  rfl

theorem plannedCall_countStep (params : List (String × Json)) :
    plannedCall params "assert.data_count" = .ok (.readDataCount (carrierOf params)) :=
  rfl

/-- A bound that is no number ends the step. -/
theorem judgeDataCount_of_error {C E answer : Json} {e : String} (module : String)
    (h : coerceOptionalInt (some E) = .error e) :
    ∃ e', judgeDataCount (countParams C E) module answer = .error e' := by
  have hmin : param (countParams C E) "expected_min" = some E := rfl
  unfold judgeDataCount
  split
  · split_ifs
    · exact ⟨_, rfl⟩
    · rw [hmin, h]
      exact ⟨_, rfl⟩
  · exact ⟨_, rfl⟩

theorem stepResult_readDataCount (params : List (String × Json)) (module carrier : String)
    (answer : Json) :
    stepResult params module (.readDataCount carrier) (.ok answer) =
      match judgeDataCount params module answer with
      | .error e => raised module e
      | .ok result => result := by
  rfl

theorem validateDataCount_of_le {count : Int} {expectedMin : Option Int}
    (h : ∀ n ∈ expectedMin, n ≤ count) : validateDataCount count expectedMin none = .ok () := by
  have hnone : expectedMin.filter (fun n => decide (count < n)) = none := by
    rw [Option.filter_eq_none_iff]
    exact fun n hn hlt => absurd (of_decide_eq_true hlt) (not_lt.mpr (h n hn))
  unfold validateDataCount
  rw [hnone]
  rfl

/-- One row is enough when the bound is no number, or not above one. -/
theorem judgeDataCount_one {C E : Json} {expectedMin : Option Int} (module : String)
    (h : coerceOptionalInt (some E) = .ok expectedMin) (hle : ∀ n ∈ expectedMin, n ≤ 1) :
    ∃ output, judgeDataCount (countParams C E) module (.int 1) =
      .ok (passedStep module output) := by
  have hmin : param (countParams C E) "expected_min" = some E := rfl
  have hmax : param (countParams C E) "expected_max" = none := rfl
  have hnone : coerceOptionalInt none = .ok none := rfl
  have hvalid : validateDataCount 1
      (if expectedMin.isNone && (none : Option Int).isNone then some 1 else expectedMin) none =
        .ok () := by
    refine validateDataCount_of_le fun n hn => ?_
    cases expectedMin with
    | none => exact (Option.some.inj hn).ge
    | some m => exact hle n hn
  unfold judgeDataCount
  rw [hmin, hmax, h, hnone]
  simp only [if_neg (show ¬(1 : Int) < 0 by decide), bind, Except.bind]
  rw [hvalid]
  exact ⟨_, rfl⟩

/-- Whatever the runtime counts, a bound that is no number makes the step fail. -/
theorem status_stepResult_of_error {C E : Json} {e : String} (module carrier : String)
    (answer : Except String Json) (h : coerceOptionalInt (some E) = .error e) :
    (stepResult (countParams C E) module (.readDataCount carrier) answer).status = .failed := by
  cases answer with
  | error e => rfl
  | ok answer =>
    obtain ⟨e', he'⟩ := @judgeDataCount_of_error C E answer e module h
    rw [stepResult_readDataCount, he']
    rfl

theorem stepSafe_countStep {C E : Json}
    (h : (∃ e, coerceOptionalInt (some (resolveValue runtimeInputs E)) = .error e) ∨
      ∀ slot ∈ template.requiredSlots, (inputOf runtimeInputs slot).any (isValid slot) = true) :
    StepSafe template runtimeInputs (step "assert.data_count" (countParams C E)) := by
  constructor
  · intro call hcall
    rw [moduleOf_countStep, plannedCall_countStep] at hcall
    rw [← Except.ok.inj hcall]
    exact fun hcarries => hcarries
  · intro runtime calls status hpassed slot hslot
    rcases h with ⟨e, he⟩ | h
    · have hfailed := status_stepResult_of_error (C := resolveValue runtimeInputs C)
        "assert.data_count" (carrierOf (paramsOf runtimeInputs
          (step "assert.data_count" (countParams C E))))
        (runtime calls (.readDataCount (carrierOf (paramsOf runtimeInputs
          (step "assert.data_count" (countParams C E)))))) he
      exact nomatch hfailed.symm.trans hpassed
    · exact h slot (List.mem_of_mem_filter hslot)

theorem passes_countStep {C E : Json} {expectedMin : Option Int}
    (h : coerceOptionalInt (some (resolveValue runtimeInputs E)) = .ok expectedMin)
    (hle : ∀ n ∈ expectedMin, n ≤ 1) :
    Passes runtimeInputs (step "assert.data_count" (countParams C E)) := by
  obtain ⟨output, houtput⟩ := judgeDataCount_one (C := resolveValue runtimeInputs C)
    "assert.data_count" h hle
  refine passes_of_ok (plannedCall_countStep _) fun calls => ?_
  have hanswer : agreeing calls (.readDataCount (carrierOf (paramsOf runtimeInputs
      (step "assert.data_count" (countParams C E))))) = .ok (.int 1) := rfl
  rw [moduleOf_countStep, hanswer, paramsOf_countStep, stepResult_readDataCount, houtput]
  rfl

/-! ## The plans of the templates -/

/-- The modules of the steps before the checks. -/
def navigationModules : List String :=
  ["auth.inject_state", "nav.menu_chain", "page.wait_ready", "state.enter"]

/-- The steps before the checks, and the submission of the query, use no slot. -/
theorem slotsOf_eq_nil : ∀ template ∈ templateDefinitions,
    ∀ module ∈ "action.submit_query" :: navigationModules, slotsOf template module = [] := by
  decide +kernel

theorem stepSafe_navigationSteps (hmem : template ∈ templateDefinitions)
    (pageContext : PageContext) (stateSignature : String) :
    ∀ step ∈ navigationSteps pageContext ++ stateSteps stateSignature pageContext,
      StepSafe template runtimeInputs step := by
  have hslots := slotsOf_eq_nil template hmem
  intro step hstep
  rcases List.mem_append.mp hstep with hstep | hstep
  · simp only [navigationSteps, List.mem_cons, List.not_mem_nil, or_false] at hstep
    rcases hstep with rfl | rfl | rfl
    · exact stepSafe_of_call (hslots "auth.inject_state" (by decide)) rfl fun h => h
    · exact stepSafe_of_call (hslots "nav.menu_chain" (by decide)) rfl fun h => h
    · exact stepSafe_of_call (hslots "page.wait_ready" (by decide)) rfl fun h => h
  · unfold stateSteps at hstep
    split_ifs at hstep
    · rw [List.mem_singleton.mp hstep]
      exact stepSafe_of_call (hslots "state.enter" (by decide)) rfl fun h => h
    · exact nomatch hstep

/-- The submission of the query passes, and uses no slot. -/
theorem stepSafe_submitQuery (hmem : template ∈ templateDefinitions) (C : Json) :
    StepSafe template runtimeInputs (step "action.submit_query" [("carrier", C)]) :=
  stepSafe_of_call (slotsOf_eq_nil template hmem "action.submit_query" (by decide)) rfl fun h => h

theorem passes_submitQuery (C : Json) :
    Passes runtimeInputs (step "action.submit_query" [("carrier", C)]) :=
  fun _ _ => rfl

section

variable {pageContext : PageContext} {C F O V E : Json}

/-- The checks of a plan decide. -/
theorem safe_iff_of (stateSignature : String) (hmem : template ∈ templateDefinitions)
    (hsafe : Settled template runtimeInputs → ∀ step ∈ buildTemplateChainSteps template pageContext,
      StepSafe template runtimeInputs step)
    (hpasses : ¬Settled template runtimeInputs →
      ∀ step ∈ buildTemplateChainSteps template pageContext, Passes runtimeInputs step)
    (hslots : ∃ step ∈ buildTemplateChainSteps template pageContext,
      slotsOf template (moduleOf step) = template.requiredSlots) :
    AlwaysSafe template runtimeInputs (navigationSteps pageContext ++
        stateSteps stateSignature pageContext ++ buildTemplateChainSteps template pageContext) ↔
      Settled template runtimeInputs := by
  constructor
  · intro h
    by_contra hsettled
    obtain ⟨last, hlast, hlastSlots⟩ := hslots
    have hall : ∀ step ∈ navigationSteps pageContext ++ stateSteps stateSignature pageContext ++
        buildTemplateChainSteps template pageContext, Passes runtimeInputs step := by
      intro step hstep
      rcases List.mem_append.mp hstep with hstep | hstep
      · exact passes_navigationSteps pageContext stateSignature step hstep
      · exact hpasses hsettled step hstep
    obtain ⟨stepResult, hresult, hmodule, hpassed⟩ :=
      exists_result_of_step hall (List.mem_append_right _ hlast)
    refine hsettled (.inr fun slot hslot => ?_)
    refine (h agreeing).slots_valid stepResult hresult hpassed slot ?_
    rw [hmodule, hlastSlots]
    exact hslot
  · intro hsettled
    refine alwaysSafe_of_stepSafe fun step hstep => ?_
    rcases List.mem_append.mp hstep with hstep | hstep
    · exact stepSafe_navigationSteps hmem pageContext stateSignature step hstep
    · exact hsafe hsettled step hstep

/-- A template that looks for rows. -/
theorem safe_iff_of_rows (stateSignature : String) (hmem : template ∈ templateDefinitions)
    (hchain : buildTemplateChainSteps template pageContext =
      [step "action.apply_filter" (rowParams C F O V), step "action.submit_query" [("carrier", C)],
        step "assert.row_exists_by_field" (rowParams C F O V)])
    (hslots : slotsOf template "assert.row_exists_by_field" = template.requiredSlots)
    (hrefused : (∃ slot ∈ template.requiredSlots,
        (inputOf runtimeInputs slot).any (isRefused slot) = true) ↔
      RowRefused (resolveValue runtimeInputs F) (resolveValue runtimeInputs V))
    (hproper : (∀ slot ∈ template.requiredSlots,
        (inputOf runtimeInputs slot).any (isValid slot) = true) →
      RowProper (resolveValue runtimeInputs F) (resolveValue runtimeInputs O)
        (resolveValue runtimeInputs V)) :
    AlwaysSafe template runtimeInputs (navigationSteps pageContext ++
        stateSteps stateSignature pageContext ++ buildTemplateChainSteps template pageContext) ↔
      Settled template runtimeInputs := by
  refine safe_iff_of stateSignature hmem (fun hsettled step hstep => ?_)
    (fun hsettled step hstep => ?_) ?_
  · have hrow := hsettled.imp hrefused.mp fun hvalid => And.intro (hproper hvalid) hvalid
    simp only [hchain, List.mem_cons, List.not_mem_nil, or_false] at hstep
    rcases hstep with rfl | rfl | rfl
    · exact stepSafe_rowStep (by decide) hrow
    · exact stepSafe_submitQuery hmem C
    · exact stepSafe_rowStep (by decide) hrow
  · have hrow := fun h => hsettled (.inl (hrefused.mpr h))
    simp only [hchain, List.mem_cons, List.not_mem_nil, or_false] at hstep
    rcases hstep with rfl | rfl | rfl
    · exact passes_rowStep (by decide) hrow
    · exact passes_submitQuery C
    · exact passes_rowStep (by decide) hrow
  · refine ⟨step "assert.row_exists_by_field" (rowParams C F O V), ?_, hslots⟩
    simp only [hchain, List.mem_cons, true_or, or_true]

/-- A template without slots. -/
theorem safe_iff_of_no_slots (stateSignature : String) (hmem : template ∈ templateDefinitions)
    (hempty : template.requiredSlots = [])
    {bounds : List (String × Json)} (hchain : buildTemplateChainSteps template pageContext =
      [step "action.submit_query" [("carrier", C)], step "assert.data_count" bounds]) :
    AlwaysSafe template runtimeInputs (navigationSteps pageContext ++
        stateSteps stateSignature pageContext ++ buildTemplateChainSteps template pageContext) ↔
      Settled template runtimeInputs := by
  have hslots : ∀ module, slotsOf template module = [] := by
    intro module
    rw [slotsOf, hempty]
    rfl
  have hsettled : Settled template runtimeInputs := by
    refine .inr fun slot hslot => ?_
    rw [hempty] at hslot
    exact nomatch hslot
  refine safe_iff_of stateSignature hmem (fun _ step hstep => ?_)
    (fun hnot => absurd hsettled hnot) ?_
  · simp only [hchain, List.mem_cons, List.not_mem_nil, or_false] at hstep
    rcases hstep with rfl | rfl
    · exact stepSafe_submitQuery hmem C
    · exact stepSafe_of_call (hslots _) rfl fun h => h
  · refine ⟨step "assert.data_count" bounds, ?_, ?_⟩
    · simp only [hchain, List.mem_cons, true_or, or_true]
    · rw [hslots, hempty]

/-- A template that counts the rows. -/
theorem safe_iff_of_count (stateSignature : String) (hmem : template ∈ templateDefinitions)
    (hchain : buildTemplateChainSteps template pageContext =
      [step "action.submit_query" [("carrier", C)], step "assert.data_count" (countParams C E)])
    (hslots : slotsOf template "assert.data_count" = template.requiredSlots)
    (hrefused : (∃ slot ∈ template.requiredSlots,
        (inputOf runtimeInputs slot).any (isRefused slot) = true) →
      ∃ e, coerceOptionalInt (some (resolveValue runtimeInputs E)) = .error e)
    (hone : ¬Settled template runtimeInputs → ∃ expectedMin,
      coerceOptionalInt (some (resolveValue runtimeInputs E)) = .ok expectedMin ∧
        ∀ n ∈ expectedMin, n ≤ 1) :
    AlwaysSafe template runtimeInputs (navigationSteps pageContext ++
        stateSteps stateSignature pageContext ++ buildTemplateChainSteps template pageContext) ↔
      Settled template runtimeInputs := by
  refine safe_iff_of stateSignature hmem (fun hsettled step hstep => ?_)
    (fun hsettled step hstep => ?_) ?_
  · simp only [hchain, List.mem_cons, List.not_mem_nil, or_false] at hstep
    rcases hstep with rfl | rfl
    · exact stepSafe_submitQuery hmem C
    · exact stepSafe_countStep (hsettled.imp_left hrefused)
  · obtain ⟨expectedMin, hmin, hle⟩ := hone hsettled
    simp only [hchain, List.mem_cons, List.not_mem_nil, or_false] at hstep
    rcases hstep with rfl | rfl
    · exact passes_submitQuery C
    · exact passes_countStep hmin hle
  · refine ⟨step "assert.data_count" (countParams C E), ?_, hslots⟩
    simp only [hchain, List.mem_cons, true_or, or_true]

end

/-! ## The slots of the templates -/

theorem optionalText_of_isProperTextValue {v : Json} (h : isProperTextValue v = true) :
    ∃ s, optionalText (some v) = some s ∧ ¬IsPlaceholder s := by
  cases v with
  | str s => exact ⟨_, optionalText_of_isProperText h⟩
  | _ => exact nomatch h

theorem not_isPlaceholder_of_isOperand {v : Json} (h : isOperand v = true) (s : String)
    (hs : v = .str s) : ¬IsPlaceholder s := by
  subst hs
  unfold isOperand isProperText at h
  simp only [Bool.and_eq_true, decide_eq_true_eq, Option.isNone_iff_eq_none] at h
  exact fun h' => h' h.1.2

/-- A property that the placeholder does not have is one of the input. -/
theorem any_inputOf_iff {slot : String} (text : String) (htext : placeholderName text = some slot)
    {p : Json → Bool} (hp : p (.str text) = false) :
    (inputOf runtimeInputs slot).any p = true ↔
      p (resolveValue runtimeInputs (.str text)) = true := by
  rw [resolveValue_slot htext]
  cases inputOf runtimeInputs slot with
  | none =>
    change false = true ↔ p (.str text) = true
    rw [hp]
  | some v => exact Iff.rfl

theorem rowRefused_iff_field_value :
    (∃ slot ∈ ["field", "operator", "value"],
        (inputOf runtimeInputs slot).any (isRefused slot) = true) ↔
      RowRefused (resolveValue runtimeInputs (.str "{{field}}"))
        (resolveValue runtimeInputs (.str "{{value}}")) := by
  have hfield : (inputOf runtimeInputs "field").any (isRefused "field") = true ↔ _ :=
    any_inputOf_iff "\x7b\x7bfield\x7d\x7d" (by decide) (by decide)
  have hvalue : (inputOf runtimeInputs "value").any (isRefused "value") = true ↔ _ :=
    any_inputOf_iff "\x7b\x7bvalue\x7d\x7d" (by decide) (by decide)
  have hoperator : (inputOf runtimeInputs "operator").any (isRefused "operator") = false := by
    cases inputOf runtimeInputs "operator" <;> rfl
  simp only [List.mem_cons, List.not_mem_nil, or_false, exists_eq_or_imp, exists_eq_left, hfield,
    hvalue, hoperator, Bool.false_eq_true, false_or]
  exact Iff.rfl

theorem rowProper_of_field_operator_value
    (h : ∀ slot ∈ ["field", "operator", "value"],
      (inputOf runtimeInputs slot).any (isValid slot) = true) :
    RowProper (resolveValue runtimeInputs (.str "{{field}}"))
      (resolveValue runtimeInputs (.str "{{operator}}"))
      (resolveValue runtimeInputs (.str "{{value}}")) where
  field := optionalText_of_isProperTextValue
    ((any_inputOf_iff _ (by decide) (by decide)).mp (h "field" (by decide)))
  operator := optionalText_of_isProperTextValue
    ((any_inputOf_iff _ (by decide) (by decide)).mp (h "operator" (by decide)))
  value := not_isPlaceholder_of_isOperand
    ((any_inputOf_iff _ (by decide) (by decide)).mp (h "value" (by decide)))

theorem rowRefused_iff_status :
    (∃ slot ∈ ["status"], (inputOf runtimeInputs slot).any (isRefused slot) = true) ↔
      RowRefused (.str "status") (resolveValue runtimeInputs (.str "{{status}}")) := by
  have hstatus : (inputOf runtimeInputs "status").any (isRefused "status") = true ↔ _ :=
    any_inputOf_iff "\x7b\x7bstatus\x7d\x7d" (by decide) (by decide)
  have hfield : ¬(optionalText (some (.str "status"))).isNone = true := by decide
  simp only [List.mem_singleton, exists_eq_left, hstatus]
  exact ⟨.inr, fun h => h.resolve_left hfield⟩

theorem rowProper_of_status
    (h : ∀ slot ∈ ["status"], (inputOf runtimeInputs slot).any (isValid slot) = true) :
    RowProper (.str "status") (.str "equals")
      (resolveValue runtimeInputs (.str "{{status}}")) where
  field := optionalText_of_isProperTextValue (by decide)
  operator := optionalText_of_isProperTextValue (by decide)
  value := not_isPlaceholder_of_isOperand
    ((any_inputOf_iff _ (by decide) (by decide)).mp (h "status" (by decide)))

theorem exists_error_of_isRefused {v : Json} (h : isRefused "min_count" v = true) :
    ∃ e, coerceOptionalInt (some v) = .error e := by
  cases hv : coerceOptionalInt (some v) with
  | error e => exact ⟨e, rfl⟩
  | ok expectedMin =>
    change (match coerceOptionalInt (some v) with
      | .error _ => true
      | .ok _ => false) = true at h
    rw [hv] at h
    exact nomatch h

/-- A bound that is neither refused nor a number of rows is no number, or below zero. -/
theorem le_one_of_not_isCount {v : Json} (hrefused : ¬isRefused "min_count" v = true)
    (hcount : ¬isCount v = true) : ∃ expectedMin,
      coerceOptionalInt (some v) = .ok expectedMin ∧ ∀ n ∈ expectedMin, n ≤ 1 := by
  cases hv : coerceOptionalInt (some v) with
  | error e =>
    refine absurd ?_ hrefused
    change (match coerceOptionalInt (some v) with
      | .error _ => true
      | .ok _ => false) = true
    rw [hv]
  | ok expectedMin =>
    refine ⟨expectedMin, rfl, ?_⟩
    rintro n rfl
    unfold isCount at hcount
    rw [hv] at hcount
    have hneg : ¬0 ≤ n := fun h => hcount (decide_eq_true h)
    omega

end

/-! ## Every plan of a template -/

/-- Exactly when its slots are settled, no execution of a plan of a template relies on a slot that
is missing. -/
theorem safe_iff (checkCode : String) (template : TemplateDefinition)
    (htemplate : TemplateRegistry.getTemplate checkCode "v1" = some template)
    (pageContext : PageContext) (stateSignature : String) (locatorBundle : LocatorBundle)
    (runtimeInputs : List (String × Json)) :
    AlwaysSafe template runtimeInputs
        (buildModulePlan checkCode pageContext stateSignature locatorBundle).stepsJson ↔
      Settled template runtimeInputs := by
  have hmem : template ∈ templateDefinitions := List.mem_of_find?_eq_some htemplate
  have hplan : (buildModulePlan checkCode pageContext stateSignature locatorBundle).stepsJson =
      navigationSteps pageContext ++ stateSteps stateSignature pageContext ++
        buildTemplateChainSteps template pageContext := by
    simp only [buildModulePlan, checkSteps, htemplate]
  rw [hplan]
  have hcases := hmem
  simp only [templateDefinitions, List.mem_cons, List.not_mem_nil, or_false] at hcases
  rcases hcases with rfl | rfl | rfl | rfl | rfl
  · exact safe_iff_of_no_slots stateSignature hmem rfl rfl
  · exact safe_iff_of_no_slots stateSignature hmem rfl rfl
  · exact safe_iff_of_rows stateSignature hmem rfl (by decide +kernel) rowRefused_iff_field_value
      rowProper_of_field_operator_value
  · exact safe_iff_of_rows stateSignature hmem rfl (by decide +kernel) rowRefused_iff_status
      rowProper_of_status
  · have hrefused : (inputOf runtimeInputs "min_count").any (isRefused "min_count") = true ↔ _ :=
      any_inputOf_iff "\x7b\x7bmin_count\x7d\x7d" (by decide) (by decide)
    have hvalid : (inputOf runtimeInputs "min_count").any (isValid "min_count") = true ↔ _ :=
      any_inputOf_iff "\x7b\x7bmin_count\x7d\x7d" (by decide) (by decide)
    refine safe_iff_of_count stateSignature hmem rfl (by decide +kernel) ?_ ?_
    · rintro ⟨slot, hslot, hany⟩
      rw [List.mem_singleton.mp hslot] at hany
      exact exists_error_of_isRefused (hrefused.mp hany)
    · intro h
      refine le_one_of_not_isCount (fun hbound => ?_) fun hcount => ?_
      · exact h (.inl ⟨"min_count", List.mem_singleton_self _, hrefused.mpr hbound⟩)
      · refine h (.inr fun slot hslot => ?_)
        rw [List.mem_singleton.mp hslot]
        exact hvalid.mpr hcount

namespace SlotSample

def pageContext : PageContext where
  systemCode := "erp"
  pageTitle := some "Users"
  routePath := "/users"
  menuChain := ["Users"]
  hasTable := true
  defaultStateSignature := "users:default"

def fieldPlan : ModulePlanDraft :=
  buildModulePlan "field_equals_exists" pageContext "users:default" ⟨[]⟩

def fieldInputs : List (String × Json) :=
  [("field", .str "name"), ("operator", .str "equals"), ("value", .str "Ann")]

/-- With all its slots, the plan relies on none that is missing. -/
theorem safe_field_equals_exists :
    ∃ template, TemplateRegistry.getTemplate "field_equals_exists" "v1" = some template ∧
      AlwaysSafe template fieldInputs fieldPlan.stepsJson := by
  refine ⟨_, rfl, ?_⟩
  refine (safe_iff "field_equals_exists" _ rfl pageContext "users:default" ⟨[]⟩ fieldInputs).mpr ?_
  exact .inr (by decide +kernel)

/-- Without inputs the runtime is to filter by the placeholder of the field, and says that it
did. -/
theorem not_safe_field_equals_exists :
    ∃ template, TemplateRegistry.getTemplate "field_equals_exists" "v1" = some template ∧
      (inputOf [] "field").any (isValid "field") = false ∧ "field" ∈ template.requiredSlots ∧
      ¬AlwaysSafe template [] fieldPlan.stepsJson := by
  refine ⟨_, rfl, rfl, by decide, fun h => ?_⟩
  have hcall : (execute agreeing [] fieldPlan.stepsJson).1[3]? = some (.applyFilter
      "\x7b\x7bfield\x7d\x7d" "\x7b\x7boperator\x7d\x7d" (.str "\x7b\x7bvalue\x7d\x7d")
      "table") := rfl
  exact (h agreeing).no_placeholder _ (List.mem_of_getElem? hcall)
    (.inl (by unfold IsPlaceholder; decide))

end SlotSample

end TemplateSlots
end Runlet
