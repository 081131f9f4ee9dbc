import Runlet.AssetCompiler.ModulePlanBuilder
import Runlet.Jobs.RetryBookkeeping
import Runlet.RunnerService.ExecutionTrace
import Runlet.RunnerService.PageChecks

/-!
# Step failures and retries

A failed step names its failure; the runner maps the name to a category of the run, and the job
decides by the category and the text of the failure whether to try again.  Five step failures are
not to be retried.  None of them is a category of a run, so the mapping goes by the module of the
step: a locator assertion becomes a failed assertion, which is never retried, while a state that was
not reached becomes a runtime error, which is retried when its text looks like a transient one
(`not_retried_iff`).
-/

namespace Runlet
namespace StepFailures

open ModuleExecutor RunCheckJob PageChecks

/-! ## The first failed step -/

/-- `_first_failed_step`. -/
def firstFailedStep (result : ModuleExecutionResult) : Option StepExecutionResult :=
  result.stepResults.find? fun step => step.status = .failed

/-- `failure_category` in the output of a step. -/
def stepFailure (step : StepExecutionResult) : Option Json :=
  step.output.bind fun output => output.get? "failure_category"

/-- The step failed in a way that must not be retried. -/
def NotToBeRetried (step : StepExecutionResult) : Prop :=
  ∃ category ∈ nonRetryableStepFailures, stepFailure step = some (.str category)

/-- Texts that the retry rules take for a transient error. -/
def Transient (text : String) : Prop :=
  containsTransientPattern text transientErrorPatterns = true

/-- Only the last step of an execution can fail. -/
theorem exists_concat {runtime : RunnerRuntime} {runtimeInputs : List (String × Json)}
    {stepsJson : List Json} {calls : List RuntimeCall} {result : ModuleExecutionResult}
    (h : Traced runtime runtimeInputs stepsJson calls result) {step : StepExecutionResult}
    (hfirst : firstFailedStep result = some step) :
    ∃ before, result.stepResults = before ++ [step] ∧ ∀ r ∈ before, r.status = .passed := by
  unfold firstFailedStep at hfirst
  have hmem := List.mem_of_find?_eq_some hfirst
  have hfound := List.find?_some hfirst
  have hfailed : step.status = .failed := of_decide_eq_true hfound
  obtain ⟨i, hi, hstep⟩ := List.getElem_of_mem hmem
  have hlast : result.stepResults.length = i + 1 := by
    have hge : ¬i + 1 < result.stepResults.length := by
      intro hlt
      have hpassed := h.passed_of_lt i step hlt (hstep ▸ List.getElem?_eq_getElem hi)
      exact nomatch hfailed.symm.trans hpassed
    omega
  have hne : result.stepResults ≠ [] := List.ne_nil_of_mem hmem
  have hget : result.stepResults.getLast hne = step := by
    rw [List.getLast_eq_getElem]
    simpa only [hlast, Nat.add_sub_cancel] using hstep
  refine ⟨result.stepResults.dropLast, ?_, fun r hr => ?_⟩
  · rw [← hget]
    exact (List.dropLast_append_getLast hne).symm
  · obtain ⟨j, hj, rfl⟩ := List.getElem_of_mem hr
    rw [List.length_dropLast] at hj
    refine h.passed_of_lt j _ (by omega) ?_
    rw [List.getElem_dropLast]
    exact List.getElem?_eq_getElem _

/-! ## The modules of the failures -/

section

variable {params : List (String × Json)} {module : String} {result : StepExecutionResult}

/-- A run category is not one of the step failures. -/
theorem not_notToBeRetried_raised (module detail : String) :
    ¬NotToBeRetried (raised module detail) := by
  rintro ⟨category, hmem, hcategory⟩
  have hvalue : (RealtimeProbe.failureCategoryForModule module).value = category :=
    Json.str.inj (Option.some.inj hcategory)
  rw [← hvalue] at hmem
  revert hmem
  cases RealtimeProbe.failureCategoryForModule module <;> decide

theorem not_notToBeRetried_injected (module : String) :
    ¬NotToBeRetried (injected module .blocked) := by
  rintro ⟨category, hmem, hcategory⟩
  have hvalue : FailureCategory.authBlocked.value = category :=
    Json.str.inj (Option.some.inj hcategory)
  rw [← hvalue] at hmem
  exact absurd hmem (by decide)

theorem exists_of_map_ok {α β : Type} {x : Except String α} {f : α → β} {b : β}
    (h : x.map f = .ok b) : ∃ a, f a = b := by
  cases x with
  | error e => exact nomatch h
  | ok a => exact ⟨a, Except.ok.inj h⟩

theorem module_of_enterState {stateSignature : String}
    (h : plannedCall params module = .ok (.enterState stateSignature)) :
    module = "state.enter" := by
  unfold plannedCall at h
  split at h <;> first
    | rfl
    | cases h
    | (obtain ⟨fv, hfv⟩ := exists_of_map_ok h; cases hfv)

theorem module_of_resolveLocatorBundle {locatorBundle : List (String × Json)}
    {contextConstraints : Option (List (String × Json))}
    (h : plannedCall params module =
      .ok (.resolveLocatorBundle locatorBundle contextConstraints)) :
    module = "locator.assert" := by
  unfold plannedCall at h
  split at h <;> first
    | rfl
    | cases h
    | (obtain ⟨fv, hfv⟩ := exists_of_map_ok h; cases hfv)

/-- A judgement that fails otherwise than by a raise is one of these. -/
theorem notToBeRetried_judge {call : RuntimeCall} {answer : Json}
    (hcall : plannedCall params module = .ok call)
    (h : judge params module call answer = .ok result) (hfailed : result.status = .failed)
    (hnot : NotToBeRetried result) : module = "state.enter" ∨ module = "locator.assert" := by
  have htruthy : ∀ output, expectTruthy module answer output = .ok result → False := by
    intro output hresult
    unfold expectTruthy at hresult
    split_ifs at hresult
    rw [← Except.ok.inj hresult] at hfailed
    cases hfailed
  cases call with
  | injectAuthState =>
    cases hstatus : authStatusOf answer with
    | error e =>
      simp only [judge, hstatus, Except.map] at h
      cases h
    | ok status =>
      simp only [judge, hstatus, Except.map] at h
      rw [← Except.ok.inj h] at hfailed hnot
      have hblocked : status = .blocked := by
        by_contra hopen
        rw [injected, if_neg hopen] at hfailed
        cases hfailed
      rw [hblocked] at hnot
      exact absurd hnot (not_notToBeRetried_injected module)
  | navigateMenuChain menuChain routePath => exact (htruthy _ h).elim
  | waitPageReady routePath => exact (htruthy _ h).elim
  | assertTableVisible routePath => exact (htruthy _ h).elim
  | assertPageOpen routePath => exact (htruthy _ h).elim
  | openCreateModal => exact (htruthy _ h).elim
  | applyFilter field operator value carrier => exact (htruthy _ h).elim
  | submitQuery carrier => exact (htruthy _ h).elim
  | readDataCount carrier =>
    obtain ⟨output, rfl⟩ := eq_passedStep_of_judgeDataCount h
    cases hfailed
  | rowExistsByField carrier field operator value =>
    simp only [judge] at h
    split_ifs at h
    rw [← Except.ok.inj h] at hfailed
    cases hfailed
  | enterState stateSignature => exact .inl (module_of_enterState hcall)
  | resolveLocatorBundle locatorBundle contextConstraints =>
    exact .inr (module_of_resolveLocatorBundle hcall)

/-- The step failures that are not to be retried are those of two modules. -/
theorem module_of_notToBeRetried {runtime : RunnerRuntime} {runtimeInputs : List (String × Json)}
    {calls : List RuntimeCall} {status : AuthInjectStatus} {step : Json}
    (hfailed : (runStep runtime runtimeInputs calls status step).result.status = .failed)
    (hnot : NotToBeRetried (runStep runtime runtimeInputs calls status step).result) :
    moduleOf step = "state.enter" ∨ moduleOf step = "locator.assert" := by
  unfold runStep at hfailed hnot
  dsimp only at hfailed hnot
  cases hcall : plannedCall (paramsOf runtimeInputs step) (moduleOf step) with
  | error e =>
    rw [hcall] at hnot
    exact absurd hnot (not_notToBeRetried_raised _ _)
  | ok call =>
    rw [hcall] at hfailed hnot
    dsimp only at hfailed hnot
    unfold stepResult at hfailed hnot
    cases hanswer : runtime calls call with
    | error e =>
      rw [hanswer] at hnot
      dsimp only at hnot
      cases call with
      | enterState stateSignature => exact .inl (module_of_enterState hcall)
      | _ => exact absurd hnot (not_notToBeRetried_raised _ _)
    | ok answer =>
      rw [hanswer] at hfailed hnot
      dsimp only at hfailed hnot
      cases hjudge : judge (paramsOf runtimeInputs step) (moduleOf step) call answer with
      | error e =>
        rw [hjudge] at hnot
        exact absurd hnot (not_notToBeRetried_raised _ _)
      | ok result =>
        rw [hjudge] at hfailed hnot
        exact notToBeRetried_judge hcall hjudge hfailed hnot

end

/-! ## The category of the run -/

/-- A failure that is not to be retried is no category of a run. -/
theorem namedCategory_eq_none {step : StepExecutionResult} (h : NotToBeRetried step) :
    RealtimeProbe.namedCategory step = none := by
  obtain ⟨category, hmem, hcategory⟩ := h
  unfold RealtimeProbe.namedCategory
  rw [show (step.output.bind fun output => output.get? "failure_category") = some (.str category)
    from hcategory]
  dsimp only
  revert hmem
  simp only [nonRetryableStepFailures, List.mem_cons, List.not_mem_nil, or_false]
  rintro (rfl | rfl | rfl | rfl | rfl) <;> decide

/-- So the category goes by the module of the step. -/
theorem resolveFailureCategory_eq {result : ModuleExecutionResult} {step : StepExecutionResult}
    (hfailed : result.status ≠ .passed) (hfirst : firstFailedStep result = some step)
    (hnot : NotToBeRetried step) :
    RealtimeProbe.resolveFailureCategory result =
      some (RealtimeProbe.failureCategoryForModule step.module) := by
  unfold firstFailedStep at hfirst
  unfold RealtimeProbe.resolveFailureCategory
  rw [if_neg hfailed, hfirst]
  dsimp only
  rw [namedCategory_eq_none hnot, Option.getD_none]

/-- The detail of the failed step is the text of the failure. -/
theorem extractErrorMessage_resultOf {check : PageCheck} {runId : UUID} {artifactIds : List UUID}
    {result : ModuleExecutionResult} {before : List StepExecutionResult}
    {step : StepExecutionResult} (hresults : result.stepResults = before ++ [step])
    (hbefore : ∀ r ∈ before, r.status = .passed) (hstep : step.status = .failed) :
    extractErrorMessage (resultOf check runId artifactIds result) =
      step.detail.bind fun detail =>
        if Text.strip detail = "" then none else some (Text.strip detail) := by
  have hpassed : enumValue (some RunnerRunStatus.passed.value) ≠ some "failed" := by decide
  have hfailed : enumValue (some RunnerRunStatus.failed.value) = some "failed" := by decide
  unfold extractErrorMessage resultOf
  dsimp only
  rw [hresults, List.map_append, List.findSome?_append, List.findSome?_eq_none_iff.mpr ?_]
  · rw [Option.none_or, List.map_singleton, List.findSome?_singleton]
    unfold RealtimeProbe.stepView
    rw [hstep, if_neg (not_not.mpr hfailed)]
    cases step.detail <;> rfl
  · intro view hview
    obtain ⟨r, hr, rfl⟩ := List.mem_map.mp hview
    unfold RealtimeProbe.stepView
    rw [hbefore r hr]
    exact if_pos hpassed

/-! ## The attempt -/

/-- What comes of a call whose module executor was started. -/
inductive Outcome (close : Except String Unit) (result : ModuleExecutionResult) :
    CallEnd RunPageCheckResult → Prop
  | closed (check : PageCheck) (runId : UUID) (artifactIds : List UUID) (h : close = .ok ()) :
    Outcome close result (.returned (resultOf check runId artifactIds result))
  | raised (message : String) (h : close = .error message) :
    Outcome close result (.raised message)

section

variable {ids : IdSource} {now : DateTime} {world : AttemptWorld}
  {checkId executionPlanId : Option UUID} {inputs : Option Json} {db : Db}
  {calls : List RuntimeCall} {result : ModuleExecutionResult}

theorem outcome_execute {check : PageCheck} {asset : PageAsset} {modulePlan : ModulePlan}
    {planId : UUID} {session committed : Db}
    (h : (PageChecks.execute ids now world inputs check asset modulePlan planId session
      committed).execution = some (calls, result)) :
    (calls, result) = ModuleExecutor.execute world.runtime (coerceParams inputs)
        modulePlan.stepsJson ∧
      Outcome world.close result (PageChecks.execute ids now world inputs check asset modulePlan
        planId session committed).called.outcome := by
  unfold PageChecks.execute at h ⊢
  dsimp only at h ⊢
  cases hconfigure : world.configure with
  | error message =>
    rw [hconfigure] at h
    exact nomatch h
  | ok u =>
    rw [hconfigure] at h
    dsimp only at h ⊢
    cases hclose : world.close with
    | error message =>
      rw [hclose] at h
      exact ⟨(Option.some.inj h).symm, .raised message rfl⟩
    | ok v =>
      rw [hclose] at h
      have hresult := Option.some.inj h
      rw [hresult]
      exact ⟨rfl, .closed check _ _ rfl⟩

/-- The execution of a call is one of a plan, and decides with the close how the call ends. -/
theorem outcome_of_execution
    (h : (runPageCheck ids now world checkId executionPlanId inputs db).execution =
      some (calls, result)) :
    (∃ stepsJson, (calls, result) =
      ModuleExecutor.execute world.runtime (coerceParams inputs) stepsJson) ∧
      Outcome world.close result
        (runPageCheck ids now world checkId executionPlanId inputs db).called.outcome := by
  unfold runPageCheck at h ⊢
  dsimp only at h ⊢
  split at h
  · exact nomatch h
  · rename_i check modulePlan hcheck
    unfold runRead at h ⊢
    split at h
    · exact nomatch h
    · split at h
      · exact nomatch h
      · dsimp only at h ⊢
        split at h
        · exact nomatch h
        · obtain ⟨hexecute, houtcome⟩ := outcome_execute h
          exact ⟨⟨_, hexecute⟩, houtcome⟩

end

/-! ## The retry -/

theorem isRetryableFailure_runtimeError (message : Option String) :
    isRetryableFailure (some "runtime_error") message = true ↔
      ∃ text, message = some text ∧ Transient text := by
  have hcategory : (normalizeFailureCategory (some "runtime_error")).getD "" = "runtime_error" := by
    decide
  have hretryable : ¬("runtime_error" ≠ "" ∧ "runtime_error" ∈ retryableFailureCategories) := by
    decide
  have hnot : ¬("runtime_error" ≠ "" ∧ "runtime_error" ∈ nonRetryableStepFailures) := by decide
  unfold isRetryableFailure
  rw [hcategory, if_neg hretryable, if_neg hnot, decide_eq_true rfl, Bool.true_and,
    Bool.and_eq_true, decide_eq_true_iff]
  cases message with
  | none => exact iff_of_false (fun h => h.1 rfl) fun ⟨text, h, _⟩ => nomatch h
  | some text =>
    rw [Option.getD_some]
    constructor
    · rintro ⟨-, htext⟩
      exact ⟨text, rfl, htext⟩
    · rintro ⟨text', heq, htext⟩
      rw [Option.some.inj heq]
      refine ⟨fun hempty => ?_, htext⟩
      rw [hempty] at htext
      have hblank : containsTransientPattern "" transientErrorPatterns = false := by decide
      exact nomatch hblank.symm.trans htext

theorem isRetryableFailure_assertionFailed (message : Option String) :
    isRetryableFailure (some "assertion_failed") message = false := by
  have hcategory : (normalizeFailureCategory (some "assertion_failed")).getD "" =
      "assertion_failed" := by decide
  unfold isRetryableFailure
  rw [hcategory]
  rfl

/-- An attempt that failed is followed by another one when the retry rules say so. -/
theorem again_iff {handler : RunCheckJobHandler} {now : DateTime}
    {pageCheckId executionPlanId : Option UUID} {inputs : Option Json} {attemptNo : ℕ}
    {attempts : Attempts} {db : Db} {outcome : CallEnd RunPageCheckResult}
    (houtcome : (handler.runPageCheck attemptNo pageCheckId executionPlanId inputs db).outcome =
      outcome) (hblocked : isBlocked outcome = false) (hpassed : isPassed outcome = false) :
    (∃ attempts', (RunCheckJob.runAttempt handler now pageCheckId executionPlanId inputs attemptNo
        attempts db).1 = .again attempts') ↔
      attemptNo < precompiledMaxAttempts ∧
        isRetryableFailure (outcomeCategory outcome) (outcomeMessage outcome) = true := by
  rw [← Bounded.runAttempt_three]
  unfold Bounded.runAttempt Bounded.attemptCall
  dsimp only
  rw [houtcome, Bounded.judgeAttempt_failed hblocked hpassed]
  have hretry : Bounded.shouldRetry precompiledMaxAttempts attemptNo (outcomeCategory outcome)
      (outcomeMessage outcome) = true ↔ attemptNo < precompiledMaxAttempts ∧
        isRetryableFailure (outcomeCategory outcome) (outcomeMessage outcome) = true := by
    unfold Bounded.shouldRetry
    rw [Bool.and_eq_true, decide_eq_true_iff, and_comm]
  by_cases h : Bounded.shouldRetry precompiledMaxAttempts attemptNo (outcomeCategory outcome)
      (outcomeMessage outcome) = true
  · rw [if_pos h]
    exact iff_of_true ⟨_, rfl⟩ (hretry.mp h)
  · rw [if_neg h]
    exact iff_of_false (fun ⟨_, hagain⟩ => nomatch hagain) (mt hretry.mpr h)

/-- The failure of a step looks like a transient error to the retry rules: a state that was not
reached, with such a text; or the browser raised such a text when it was closed. -/
def LooksTransient (close : Except String Unit) (step : StepExecutionResult) : Prop :=
  match close with
  | .error message => Transient message
  | .ok () =>
    step.module = "state.enter" ∧ ∃ detail, step.detail = some detail ∧
      Transient (Text.strip detail)

theorem isPassed_resultOf (check : PageCheck) (runId : UUID) (artifactIds : List UUID)
    (result : ModuleExecutionResult) :
    isPassed (.returned (resultOf check runId artifactIds result)) = true ↔
      result.status = .passed := by
  rw [Bounded.isPassed_returned]
  unfold resultOf
  dsimp only
  cases result.status <;> decide

/-- A failed step that is not to be retried, as a result of the executor has it. -/
theorem module_of_firstFailedStep {runtime : RunnerRuntime} {runtimeInputs : List (String × Json)}
    {stepsJson : List Json} {calls : List RuntimeCall} {result : ModuleExecutionResult}
    (h : Traced runtime runtimeInputs stepsJson calls result) {step : StepExecutionResult}
    (hmem : step ∈ result.stepResults) (hfailed : step.status = .failed)
    (hnot : NotToBeRetried step) :
    step.module = "state.enter" ∨ step.module = "locator.assert" := by
  obtain ⟨i, hi, hstep⟩ := List.getElem_of_mem hmem
  obtain ⟨stepJson, -, heq⟩ := h.result_eq i step (hstep ▸ List.getElem?_eq_getElem hi)
  rw [heq] at hfailed hnot ⊢
  have hmodule := module_of_notToBeRetried hfailed hnot
  rwa [← (judged_runStep _ _ _).module_eq] at hmodule

/-- The rules on a returned result, by the module of the failed step. -/
theorem retryable_resultOf_iff {check : PageCheck} {runId : UUID} {artifactIds : List UUID}
    {result : ModuleExecutionResult} {step : StepExecutionResult}
    (hcategory : RealtimeProbe.resolveFailureCategory result =
      some (RealtimeProbe.failureCategoryForModule step.module))
    (hmessage : extractErrorMessage (resultOf check runId artifactIds result) =
      step.detail.bind fun detail =>
        if Text.strip detail = "" then none else some (Text.strip detail))
    (hmodule : step.module = "state.enter" ∨ step.module = "locator.assert") :
    isRetryableFailure (enumValue (resultOf check runId artifactIds result).failureCategory)
        (extractErrorMessage (resultOf check runId artifactIds result)) = true ↔
      step.module = "state.enter" ∧ ∃ detail, step.detail = some detail ∧
        Transient (Text.strip detail) := by
  have hvalue : (resultOf check runId artifactIds result).failureCategory =
      some (RealtimeProbe.failureCategoryForModule step.module).value := by
    unfold resultOf
    rw [hcategory]
    rfl
  rw [hvalue, hmessage]
  rcases hmodule with hmodule | hmodule
  · have henum : enumValue (some (RealtimeProbe.failureCategoryForModule "state.enter").value) =
        some "runtime_error" := by decide
    rw [hmodule, henum, isRetryableFailure_runtimeError]
    refine Iff.trans ?_ (and_iff_right rfl).symm
    cases step.detail with
    | none => exact iff_of_false (fun ⟨_, h, _⟩ => nomatch h) fun ⟨_, h, _⟩ => nomatch h
    | some detail =>
      rw [Option.bind_some]
      constructor
      · rintro ⟨text, htext, htransient⟩
        split_ifs at htext
        rw [← Option.some.inj htext] at htransient
        exact ⟨detail, rfl, htransient⟩
      · rintro ⟨detail', hdetail, htransient⟩
        rw [← Option.some.inj hdetail] at htransient
        refine ⟨Text.strip detail, if_neg fun hblank => ?_, htransient⟩
        rw [hblank] at htransient
        have hempty : containsTransientPattern "" transientErrorPatterns = false := by decide
        exact nomatch hempty.symm.trans htransient
  · have henum : enumValue (some (RealtimeProbe.failureCategoryForModule "locator.assert").value) =
        some "assertion_failed" := by decide
    rw [hmodule, henum, isRetryableFailure_assertionFailed]
    exact iff_of_false Bool.false_ne_true fun h => absurd h.1 (by decide)

/-- A failure that must not be retried is left alone unless it looks like a transient error. -/
theorem not_retried_iff (base : RunCheckJobHandler) (ids : IdSource) (now : DateTime)
    (world : ℕ → AttemptWorld) (checkId executionPlanId : Option UUID) (inputs : Option Json)
    (attemptNo : ℕ) (attempts : Attempts) (db : Db) (calls : List RuntimeCall)
    (result : ModuleExecutionResult) (step : StepExecutionResult)
    (hexecution : (runPageCheck ids now (world attemptNo) checkId executionPlanId inputs
      db).execution = some (calls, result))
    (hfirst : firstFailedStep result = some step) (hnot : NotToBeRetried step) :
    (¬∃ attempts', (RunCheckJob.runAttempt (checkHandler base ids now world) now checkId
        executionPlanId inputs attemptNo attempts db).1 = .again attempts') ↔
      (attemptNo < precompiledMaxAttempts → ¬LooksTransient (world attemptNo).close step) := by
  obtain ⟨⟨stepsJson, hsteps⟩, houtcome⟩ := outcome_of_execution hexecution
  have htraced : Traced (world attemptNo).runtime (coerceParams inputs) stepsJson calls result := by
    obtain ⟨hcalls, hresult⟩ := Prod.mk.inj (hsteps.trans (execute_eq stepsJson))
    rw [hcalls, hresult]
    exact traced_run _ _ stepsJson
  obtain ⟨before, hresults, hbefore⟩ := exists_concat htraced hfirst
  have hmem : step ∈ result.stepResults := List.mem_of_find?_eq_some hfirst
  have hfound := List.find?_some hfirst
  have hfailed : step.status = .failed := of_decide_eq_true hfound
  have hstatus : result.status ≠ .passed := fun hpassed =>
    nomatch hfailed.symm.trans ((htraced.passed_iff.mp hpassed).2 step hmem)
  generalize hcalled : (runPageCheck ids now (world attemptNo) checkId executionPlanId inputs
    db).called.outcome = outcome at houtcome
  rw [← not_and]
  unfold LooksTransient
  cases houtcome with
  | raised message hclose =>
    rw [again_iff hcalled rfl rfl, hclose]
    refine not_congr (and_congr_right fun _ => ?_)
    refine (isRetryableFailure_runtimeError (some message)).trans ⟨?_, fun h => ⟨message, rfl, h⟩⟩
    rintro ⟨text, htext, htransient⟩
    rwa [Option.some.inj htext]
  | closed check runId artifactIds hclose =>
    have hunpassed : isPassed (.returned (resultOf check runId artifactIds result)) = false := by
      exact Bool.eq_false_iff.mpr (mt (isPassed_resultOf _ _ _ _).mp hstatus)
    rw [again_iff hcalled rfl hunpassed, hclose]
    refine not_congr (and_congr_right fun _ => ?_)
    exact retryable_resultOf_iff (resolveFailureCategory_eq hstatus hfirst hnot)
      (extractErrorMessage_resultOf hresults hbefore hfailed)
      (module_of_firstFailedStep htraced hmem hfailed hnot)

/-! ## A state that is tried again -/

namespace StepFailuresSample

/-- Nothing appears within the time limit of the browser. -/
def runtime : RunnerRuntime := fun _ call =>
  match call with
  | .enterState _ => .error "Locator.wait_for: Timeout 30000ms exceeded."
  | _ => .ok (.bool true)

def world (_ : ℕ) : AttemptWorld where
  runtime := runtime

def stepsJson : List Json :=
  [ModulePlanBuilder.step "auth.inject_state" [("policy", .str "server_injected")],
    ModulePlanBuilder.step "state.enter" [("state_signature", .str "users:modal=create")]]

/-- A live check with its plan, its asset and a login state. -/
def db : Db where
  systems := .single { id := 7, code := "ERP", name := "ERP", baseUrl := "https://erp" }
  pages := .single { id := 8, systemId := 7, snapshotId := some 5, routePath := "/users" }
  pageAssets := .single { id := 6, systemId := 7, pageId := 8, assetKey := "a", assetVersion := "v" }
  pageChecks := .single
    { id := 3, pageAssetId := 6, checkCode := "open_create_modal_state", goal := "g",
      modulePlanId := some 4 }
  modulePlans := .single
    { id := 4, pageAssetId := 6, checkCode := "open_create_modal_state", stepsJson := stepsJson }
  authStates := .single
    { id := 2, systemId := 7, status := "valid", storageState := some (.obj []),
      authMode := "captcha_ocr", isValid := true }

def handler : RunCheckJobHandler where
  runPageCheck _ _ _ _ db := ⟨.raised "", db, db⟩
  runRealtimeProbe _ db := ⟨.raised "", db, db⟩
  persistFeedback := none
  runPageCheck_keepsJobs _ _ _ _ _ := ⟨rfl, rfl, rfl, rfl⟩
  runRealtimeProbe_keepsJobs _ _ := ⟨rfl, rfl, rfl, rfl⟩
  persistFeedback_keepsJobs _ h := absurd h (Option.not_mem_none _)

def failedStep : StepExecutionResult :=
  notReached "state.enter" "Locator.wait_for: Timeout 30000ms exceeded." "users:modal=create"

def attempt : PageCheckRun :=
  runPageCheck .ascending 1 (world 1) (some 3) none none db

def executed : List RuntimeCall × ModuleExecutionResult :=
  ModuleExecutor.execute runtime [] stepsJson

theorem execution_eq : attempt.execution = some executed := rfl

theorem firstFailedStep_eq : firstFailedStep executed.2 = some failedStep := rfl

theorem notToBeRetried : NotToBeRetried failedStep :=
  ⟨"state_not_reached", by decide, rfl⟩

def isAgain : AttemptEnd → Bool
  | .again _ => true
  | .stop _ => false

theorem tried_again : isAgain (RunCheckJob.runAttempt (checkHandler handler .ascending 1 world) 1
    (some 3) none none 1 {} db).1 = true := by
  decide +kernel

end StepFailuresSample

theorem not_retried_iff_timeout :
    (¬∃ attempts', (RunCheckJob.runAttempt (checkHandler StepFailuresSample.handler .ascending 1
        StepFailuresSample.world) 1 (some 3) none none 1 {} StepFailuresSample.db).1 =
          .again attempts') ↔
      (1 < precompiledMaxAttempts → ¬LooksTransient (.ok ()) StepFailuresSample.failedStep) :=
  not_retried_iff StepFailuresSample.handler .ascending 1 StepFailuresSample.world (some 3) none
    none 1 {} StepFailuresSample.db _ _ StepFailuresSample.failedStep
    StepFailuresSample.execution_eq StepFailuresSample.firstFailedStep_eq
    StepFailuresSample.notToBeRetried

/-- A state that was not reached within the time limit of the browser is tried again. -/
theorem not_retried_fails :
    ¬∀ (base : RunCheckJobHandler) (ids : IdSource) (now : DateTime) (world : ℕ → AttemptWorld)
        (checkId executionPlanId : Option UUID) (inputs : Option Json) (attemptNo : ℕ)
        (attempts : Attempts) (db : Db) (calls : List RuntimeCall)
        (result : ModuleExecutionResult) (step : StepExecutionResult),
      (runPageCheck ids now (world attemptNo) checkId executionPlanId inputs db).execution =
          some (calls, result) →
        firstFailedStep result = some step → NotToBeRetried step →
          ¬∃ attempts', (RunCheckJob.runAttempt (checkHandler base ids now world) now checkId
            executionPlanId inputs attemptNo attempts db).1 = .again attempts' := by
  intro h
  have hstop := h StepFailuresSample.handler .ascending 1 StepFailuresSample.world (some 3) none
    none 1 {} StepFailuresSample.db _ _ StepFailuresSample.failedStep
    StepFailuresSample.execution_eq StepFailuresSample.firstFailedStep_eq
    StepFailuresSample.notToBeRetried
  have hagain := StepFailuresSample.tried_again
  cases hend : (RunCheckJob.runAttempt (checkHandler StepFailuresSample.handler .ascending 1
      StepFailuresSample.world) 1 (some 3) none none 1 {} StepFailuresSample.db).1 with
  | again attempts' => exact hstop ⟨attempts', hend⟩
  | stop ending =>
    rw [hend] at hagain
    exact nomatch hagain

end StepFailures
end Runlet
