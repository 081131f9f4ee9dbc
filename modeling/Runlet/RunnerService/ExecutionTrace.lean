import Runlet.Library.EarlyExit
import Runlet.RunnerService.ModuleExecutor

/-!
# The trace of an execution

The executor runs a loop with an early exit: a step is carried out after the calls and with the
login status that the steps before it left, and the first result that is not passed ends the loop.
So the results are those of the first steps of the plan, in their order, and the calls are the calls
of these steps and no others (`Traced`).
-/

namespace Runlet
namespace ModuleExecutor

section

variable (runtime : RunnerRuntime) (runtimeInputs : List (String × Json))

/-- What the steps before a step left: the calls made, and the login status. -/
abbrev Progress := List RuntimeCall × AuthInjectStatus

/-- One step of the loop. -/
def advance (progress : Progress) (step : Json) : Progress × StepExecutionResult :=
  let run := runStep runtime runtimeInputs progress.1 progress.2 step
  ((run.calls, run.authStatus), run.result)

def isFailed (result : StepExecutionResult) : Bool :=
  result.status = .failed

/-- After steps that were all carried out. -/
def progressAfter (steps : List Json) : Progress :=
  EarlyExit.reached (advance runtime runtimeInputs) ([], .blocked) steps

/-- The calls and the result of an execution are those of the first steps of a plan. -/
structure Traced (stepsJson : List Json) (calls : List RuntimeCall)
    (result : ModuleExecutionResult) : Prop where
  /-- The results are the results of a part of the steps at the start, in their order. -/
  length_le : result.stepResults.length ≤ stepsJson.length
  modules : result.stepResults.map (·.module) =
    (stepsJson.take result.stepResults.length).map moduleOf
  result_eq : ∀ i stepResult, result.stepResults[i]? = some stepResult →
    ∃ step, stepsJson[i]? = some step ∧ stepResult =
      (advance runtime runtimeInputs
        (progressAfter runtime runtimeInputs (stepsJson.take i)) step).2
  /-- All but the last are passed. -/
  passed_of_lt : ∀ i stepResult, i + 1 < result.stepResults.length →
    result.stepResults[i]? = some stepResult → stepResult.status = .passed
  /-- The whole is passed when every step was carried out and passed. -/
  passed_iff : result.status = .passed ↔
    result.stepResults.length = stepsJson.length ∧
      ∀ stepResult ∈ result.stepResults, stepResult.status = .passed
  /-- The calls are those of the steps that have a result. -/
  calls_eq : calls =
    (progressAfter runtime runtimeInputs (stepsJson.take result.stepResults.length)).1
  /-- After a step that did not pass, no call is made. -/
  calls_of_not_passed : ∀ i stepResult, result.stepResults[i]? = some stepResult →
    stepResult.status ≠ .passed →
      calls = (progressAfter runtime runtimeInputs (stepsJson.take (i + 1))).1

end

variable {runtime : RunnerRuntime} {runtimeInputs : List (String × Json)}

/-! ## One step -/

/-- A result is one of the module of its step, passed or failed. -/
structure Judged (module : String) (result : StepExecutionResult) : Prop where
  module_eq : result.module = module
  decided : result.status = .passed ∨ result.status = .failed

theorem judged_raised (module detail : String) : Judged module (raised module detail) :=
  ⟨rfl, .inr rfl⟩

theorem judged_passedStep (module : String) (output : Option (List (String × Json))) :
    Judged module (passedStep module output) :=
  ⟨rfl, .inl rfl⟩

theorem judged_notReached (module detail stateSignature : String) :
    Judged module (notReached module detail stateSignature) :=
  ⟨rfl, .inr rfl⟩

theorem judged_injected (module : String) (status : AuthInjectStatus) :
    Judged module (injected module status) := by
  refine ⟨rfl, ?_⟩
  unfold injected
  dsimp only
  split_ifs
  · exact .inr rfl
  · exact .inl rfl

theorem judged_judgeLocator (params : List (String × Json)) (module : String) (answer : Json) :
    Judged module (judgeLocator params module answer) := by
  refine ⟨rfl, ?_⟩
  unfold judgeLocator
  dsimp only
  split_ifs
  · exact .inl rfl
  · exact .inr rfl

theorem judged_expectTruthy {module : String} {answer : Json}
    {output : Option (List (String × Json))} {result : StepExecutionResult}
    (h : expectTruthy module answer output = .ok result) : Judged module result := by
  unfold expectTruthy at h
  split_ifs at h
  · rw [← Except.ok.inj h]
    exact judged_passedStep module output

/-- A count that is judged at all has passed. -/
theorem eq_passedStep_of_judgeDataCount {params : List (String × Json)} {module : String}
    {answer : Json} {result : StepExecutionResult}
    (h : judgeDataCount params module answer = .ok result) :
    ∃ output, result = passedStep module output := by
  unfold judgeDataCount at h
  split at h
  · split_ifs at h
    · simp only [bind, Except.bind] at h
      split at h
      · exact nomatch h
      · split at h
        · exact nomatch h
        · split at h
          · exact nomatch h
          · exact ⟨_, (Except.ok.inj h).symm⟩
  · exact nomatch h

/-- Every judgement is one of the module of the step. -/
theorem judged_judge {params : List (String × Json)} {module : String} {call : RuntimeCall}
    {answer : Json} {result : StepExecutionResult}
    (h : judge params module call answer = .ok result) : Judged module result := by
  cases call with
  | injectAuthState =>
    cases hstatus : authStatusOf answer with
    | error e =>
      simp only [judge, hstatus, Except.map] at h
      exact nomatch h
    | ok status =>
      simp only [judge, hstatus, Except.map] at h
      rw [← Except.ok.inj h]
      exact judged_injected module status
  | navigateMenuChain menuChain routePath => exact judged_expectTruthy h
  | waitPageReady routePath => exact judged_expectTruthy h
  | assertTableVisible routePath => exact judged_expectTruthy h
  | assertPageOpen routePath => exact judged_expectTruthy h
  | openCreateModal => exact judged_expectTruthy h
  | applyFilter field operator value carrier => exact judged_expectTruthy h
  | submitQuery carrier => exact judged_expectTruthy h
  | readDataCount carrier =>
    obtain ⟨output, rfl⟩ := eq_passedStep_of_judgeDataCount h
    exact judged_passedStep module output
  | rowExistsByField carrier field operator value =>
    simp only [judge] at h
    split_ifs at h
    · rw [← Except.ok.inj h]
      exact judged_passedStep module _
  | enterState stateSignature =>
    simp only [judge] at h
    rw [← Except.ok.inj h]
    split_ifs
    · exact judged_passedStep module _
    · exact judged_notReached module _ _
  | resolveLocatorBundle locatorBundle contextConstraints =>
    simp only [judge] at h
    rw [← Except.ok.inj h]
    exact judged_judgeLocator params module answer

theorem judged_judgeRaised (module : String) (call : RuntimeCall) (error : String) :
    Judged module (judgeRaised module call error) := by
  cases call <;> first | exact judged_notReached module _ _ | exact judged_raised module _

theorem judged_stepResult (params : List (String × Json)) (module : String) (call : RuntimeCall)
    (answer : Except String Json) : Judged module (stepResult params module call answer) := by
  cases answer with
  | error e => exact judged_judgeRaised module call e
  | ok answer =>
    unfold stepResult
    dsimp only
    split
    · exact judged_raised module _
    · rename_i result hresult
      exact judged_judge hresult

theorem judged_runStep (calls : List RuntimeCall) (status : AuthInjectStatus) (step : Json) :
    Judged (moduleOf step) (runStep runtime runtimeInputs calls status step).result := by
  unfold runStep
  dsimp only
  split
  · exact judged_raised _ _
  · exact judged_stepResult _ _ _ _

/-- A step makes one call, or none when its parameters are refused. -/
theorem calls_runStep (calls : List RuntimeCall) (status : AuthInjectStatus) (step : Json) :
    (runStep runtime runtimeInputs calls status step).calls =
      calls ++ (plannedCall (paramsOf runtimeInputs step) (moduleOf step)).toOption.toList := by
  unfold runStep
  dsimp only
  split
  · rename_i e he
    rw [he]
    exact (List.append_nil calls).symm
  · rename_i call hcall
    rw [hcall]
    rfl

theorem status_of_not_isFailed {calls : List RuntimeCall} {status : AuthInjectStatus} {step : Json}
    (h : isFailed (runStep runtime runtimeInputs calls status step).result = false) :
    (runStep runtime runtimeInputs calls status step).result.status = .passed :=
  (judged_runStep calls status step).decided.resolve_right (of_decide_eq_false h)

/-! ## The run -/

/-- The executor runs the loop, behind the results it was given. -/
theorem executeFrom_eq (calls : List RuntimeCall) (status : AuthInjectStatus)
    (results : List StepExecutionResult) (steps : List Json) :
    let run := EarlyExit.run (advance runtime runtimeInputs) isFailed (calls, status) steps
    executeFrom runtime runtimeInputs calls status results steps =
      (run.1.1,
        ⟨if run.2.any isFailed then .failed else .passed, run.1.2, results ++ run.2⟩) := by
  induction steps generalizing calls status results with
  | nil =>
    simp only [EarlyExit.run, List.any_nil, List.append_nil]
    rfl
  | cons step steps ih =>
    by_cases h : isFailed (advance runtime runtimeInputs (calls, status) step).2 = true
    · simp only [EarlyExit.run_cons_of_stops h, List.any_cons, h, Bool.true_or, if_true]
      exact if_pos (of_decide_eq_true h)
    · simp only [EarlyExit.run_cons_of_not_stops h, List.any_cons, Bool.eq_false_iff.mpr h,
        Bool.false_or]
      refine (if_neg fun hs => h (decide_eq_true hs)).trans ?_
      refine (ih _ _ _).trans ?_
      simp only [List.append_assoc, List.singleton_append]
      rfl

/-- The loop of the executor. -/
theorem execute_eq (steps : List Json) :
    let run := EarlyExit.run (advance runtime runtimeInputs) isFailed ([], .blocked) steps
    execute runtime runtimeInputs steps =
      (run.1.1, ⟨if run.2.any isFailed then .failed else .passed, run.1.2, run.2⟩) :=
  executeFrom_eq [] .blocked [] steps

theorem modules_run (progress : Progress) (steps : List Json) :
    let results := (EarlyExit.run (advance runtime runtimeInputs) isFailed progress steps).2
    results.map (·.module) = (steps.take results.length).map moduleOf := by
  intro results
  refine List.ext_getElem? fun i => ?_
  rw [List.getElem?_map, List.getElem?_map]
  cases hi : results[i]? with
  | none =>
    rw [List.getElem?_take_eq_none (List.getElem?_eq_none_iff.mp hi)]
    rfl
  | some result =>
    obtain ⟨step, hstep, rfl⟩ := EarlyExit.getElem?_run _ _ hi
    have hlt : i < results.length := (List.getElem?_eq_some_iff.mp hi).1
    rw [List.getElem?_take_of_lt hlt, hstep]
    exact congrArg some (judged_runStep _ _ _).module_eq

/-- An execution is passed when no result of it is a failure. -/
theorem passed_iff_any (results : List StepExecutionResult) :
    (if results.any isFailed then RunnerRunStatus.failed else .passed) = .passed ↔
      ∀ result ∈ results, isFailed result = false := by
  cases h : results.any isFailed with
  | false =>
    simp only [List.any_eq_false] at h
    exact iff_of_true rfl fun result hmem => Bool.eq_false_iff.mpr (h result hmem)
  | true =>
    obtain ⟨result, hmem, hfailed⟩ := List.any_eq_true.mp h
    exact iff_of_false (fun h => nomatch h) fun hall => nomatch hfailed.symm.trans (hall _ hmem)

/-- The loop leaves the trace of the steps it took. -/
theorem traced_run (runtime : RunnerRuntime) (runtimeInputs : List (String × Json))
    (stepsJson : List Json) :
    let run := EarlyExit.run (advance runtime runtimeInputs) isFailed ([], .blocked) stepsJson
    Traced runtime runtimeInputs stepsJson run.1.1
      ⟨if run.2.any isFailed then .failed else .passed, run.1.2, run.2⟩ := by
  intro run
  set results := run.2 with hresults
  have hcalls := congrArg Prod.fst
    (@EarlyExit.run_fst _ _ _ (advance runtime runtimeInputs) isFailed ([], .blocked) stepsJson)
  -- A result that does not stop the loop is one that passed.
  have hpassed : ∀ result ∈ results, isFailed result = false → result.status = .passed := by
    intro result hmem hnot
    obtain ⟨i, hi, rfl⟩ := List.getElem_of_mem hmem
    obtain ⟨step, -, heq⟩ := EarlyExit.getElem?_run _ _ (List.getElem?_eq_getElem hi)
    rw [heq] at hnot ⊢
    exact status_of_not_isFailed hnot
  have hlt : ∀ i stepResult, i + 1 < results.length → results[i]? = some stepResult →
      stepResult.status = .passed := fun i stepResult hi h =>
    hpassed _ (List.mem_of_getElem? h) (EarlyExit.not_stops_of_lt _ _ hi h)
  refine ⟨EarlyExit.length_run_le _ _, modules_run _ _, fun i stepResult h =>
    EarlyExit.getElem?_run _ _ h, hlt, ?_, hcalls, ?_⟩
  · rw [passed_iff_any]
    constructor
    · intro h
      exact ⟨EarlyExit.length_run_of_not_stops _ _ h,
        fun result hmem => hpassed result hmem (h result hmem)⟩
    · rintro ⟨-, h⟩ result hmem
      exact decide_eq_false fun hfailed => nomatch (h result hmem).symm.trans hfailed
  · intro i stepResult h hnot
    have hlast : results.length = i + 1 := by
      have hi : i < results.length := (List.getElem?_eq_some_iff.mp h).1
      have hge : ¬i + 1 < results.length := fun hi' => hnot (hlt i stepResult hi' h)
      omega
    rw [← hlast]
    exact hcalls

/-- Every execution leaves the trace of the first steps of its plan. -/
theorem execute_traced (runtime : RunnerRuntime) (runtimeInputs : List (String × Json))
    (stepsJson : List Json) :
    Traced runtime runtimeInputs stepsJson (execute runtime runtimeInputs stepsJson).1
      (execute runtime runtimeInputs stepsJson).2 := by
  rw [execute_eq]
  exact traced_run runtime runtimeInputs stepsJson

end ModuleExecutor
end Runlet
