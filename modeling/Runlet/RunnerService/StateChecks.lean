import Runlet.Library.LowerCase
import Runlet.RunnerService.ModalTargets
import Runlet.RunnerService.TemplateSlots

/-!
# Checks in a state

A plan for a state other than the default one has a step that enters it.  The runtime knows one kind
of state, a modal: it looks for the dialog, and opens the one for a new record when it is not there.
For any other state it says at once that it was entered.

* `Verified`: the events on the page show the state.
* `enterState_eq_ok_true`: what the runtime saw when it says that a modal is open.
* `verifies_iff`: a step that enters a state passes only in the state exactly when the state is a
  modal and nothing else, and its title can be read from the signature.
-/

namespace Runlet
namespace StateChecks

open ModuleExecutor ModulePlanBuilder PlaywrightRuntime StateProbe ModalTargets

/-! ## States on the page -/

/-- A dialog with the title was to be seen. -/
def SawDialog (events : List PageEvent) (title : String) : Prop :=
  ∃ name ∈ dialogNames title, .sawVisible (.dialog name) true ∈ events

/-- An entry of a context that a signature has. -/
def IsWritten (key : String) : Prop :=
  key ∈ labelledKeys.map (·.1) ∨ extraKey key ≠ ""

/-- Each entry of a state, but for the default tab, was seen on the page. -/
def Verified (stateContext : List (String × Json)) (events : List PageEvent) : Prop :=
  ∀ key value, contextValue stateContext key = some value → IsWritten key →
    key = "active_tab" ∧ value = "default" ∨ key = "modal_title" ∧ SawDialog events value

/-- The runtime in a browser.  The page may be another one after each call, and there may be none;
what it answers to the other calls is not looked into. -/
def browserRuntime (page : List RuntimeCall → Option BrowserPage) (other : RunnerRuntime) :
    RunnerRuntime
  | calls, .enterState stateSignature =>
    (enterState (page calls) stateSignature []).1.map Json.bool
  | calls, call => other calls call

/-- A step that enters the state passes only when the state was seen, whatever the page does. -/
def PassesOnlyVerified (runtimeInputs : List (String × Json)) (stepsJson : List Json)
    (stateContext : List (String × Json)) (stateSignature : String) : Prop :=
  ∀ (page : List RuntimeCall → Option BrowserPage) (other : RunnerRuntime) (i : ℕ)
    (stepResult : StepExecutionResult),
    (execute (browserRuntime page other) runtimeInputs stepsJson).2.stepResults[i]? =
        some stepResult →
      stepResult.module = "state.enter" → stepResult.status = .passed →
        Verified stateContext (enterState
          (page (progressAfter (browserRuntime page other) runtimeInputs (stepsJson.take i)).1)
          stateSignature []).2

/-- The first mark before a title names the dialog of the title, or there is none and the title is
not cut. -/
structure Legible (title : String) (mark? : Option (List Char)) : Prop where
  of_mark : ∀ mark, mark? = some mark → Text.strip (String.ofList mark) ≠ "" ∧
    dialogNames (Text.strip (String.ofList mark)) = dialogNames title
  of_no_mark : mark? = none → ':' ∉ title.toList

/-- The state is the default one, or a modal with a title that can be read. -/
def IsEntered (routePath : String) (stateContext : List (String × Json)) : Prop :=
  (∀ key value, contextValue stateContext key = some value → IsWritten key →
      key = "active_tab" ∧ value = "default" ∨ key = "modal_title") ∧
    ∀ title, contextValue stateContext "modal_title" = some title →
      Legible title (markBefore routePath stateContext)

/-! ## What the runtime saw -/

section

variable {page : BrowserPage} {modalTarget : String} {events events' : List PageEvent}

theorem mem_of_askVisible {locator : PageLocator}
    (h : page.askVisible locator events = (.ok true, events')) :
    .sawVisible locator true ∈ events' := by
  rw [(Recording.ask_eq_ok_iff.mp h).2]
  exact List.mem_append_right _ (List.mem_singleton_self _)

/-- A dialog is visible only when the page said so. -/
theorem sawDialog_of_isTargetModalVisible
    (h : isTargetModalVisible page modalTarget events = (.ok true, events'))
    (hstrip : Text.strip modalTarget = modalTarget) : SawDialog events' modalTarget := by
  have hfalse : ∀ {a b : List PageEvent},
      ¬(pure false : Recording PageEvent Bool) a = (.ok true, b) := fun h =>
    absurd (Recording.pure_eq_ok_iff.mp h).1 Bool.false_ne_true
  unfold isTargetModalVisible at h
  unfold SawDialog dialogNames
  simp only [hstrip] at h
  split_ifs at h with hempty hcreate
  · exact absurd h hfalse
  · rw [if_pos hcreate]
    obtain ⟨count, between, -, h⟩ := Recording.bind_eq_ok_iff.mp h
    split_ifs at h
    · exact absurd h hfalse
    · exact ⟨.creating, List.mem_singleton_self _, mem_of_askVisible h⟩
  · rw [if_neg hcreate]
    obtain ⟨count, between, -, h⟩ := Recording.bind_eq_ok_iff.mp h
    split_ifs at h
    · exact ⟨.exact modalTarget, List.mem_cons_self, mem_of_askVisible h⟩
    · obtain ⟨count', between', -, h⟩ := Recording.bind_eq_ok_iff.mp h
      split_ifs at h
      · exact ⟨.containing modalTarget, List.mem_cons_of_mem _ (List.mem_singleton_self _),
          mem_of_askVisible h⟩
      · exact absurd h hfalse

/-- The runtime says that a modal is open only when it saw the dialog. -/
theorem sawDialog_of_enterState {page : Option BrowserPage} {stateSignature : String}
    (htarget : extractModalTarget stateSignature = some modalTarget)
    (hstrip : Text.strip modalTarget = modalTarget)
    (h : enterState page stateSignature events = (.ok true, events')) :
    SawDialog events' modalTarget := by
  unfold enterState at h
  rw [htarget] at h
  dsimp only at h
  cases page with
  | none => exact nomatch h
  | some page =>
    obtain ⟨visible, between, hvisible, h⟩ := Recording.bind_eq_ok_iff.mp h
    cases visible with
    | true =>
      obtain ⟨-, rfl⟩ := Recording.pure_eq_ok_iff.mp h
      exact sawDialog_of_isTargetModalVisible hvisible hstrip
    | false =>
      obtain ⟨-, opened, -, h⟩ := Recording.bind_eq_ok_iff.mp h
      obtain ⟨visible, seen, hvisible, h⟩ := Recording.bind_eq_ok_iff.mp h
      cases visible with
      | true =>
        obtain ⟨-, rfl⟩ := Recording.pure_eq_ok_iff.mp h
        exact sawDialog_of_isTargetModalVisible hvisible hstrip
      | false => exact nomatch h

end

/-! ## A page that shows everything -/

/-- There is one element for each locator, and it is visible. -/
def openPage : BrowserPage where
  count _ _ := .ok 1
  isVisible _ _ := .ok true
  waitVisible _ _ := .ok ()
  click _ _ := .ok ()

/-- The first way to ask for a dialog finds it. -/
theorem isTargetModalVisible_openPage {modalTarget : String} (hne : modalTarget ≠ "")
    (hstrip : Text.strip modalTarget = modalTarget) : ∃ name ∈ (dialogNames modalTarget).head?,
      isTargetModalVisible openPage modalTarget [] =
        (.ok true, [.counted (.dialog name) 1, .sawVisible (.dialog name) true]) := by
  unfold isTargetModalVisible dialogNames
  simp only [hstrip, if_neg hne]
  split_ifs
  · exact ⟨.creating, rfl, rfl⟩
  · exact ⟨.exact modalTarget, rfl, rfl⟩

theorem enterState_openPage_of_none {stateSignature : String}
    (h : extractModalTarget stateSignature = none) :
    enterState (some openPage) stateSignature [] = (.ok true, []) := by
  unfold enterState
  rw [h]
  rfl

theorem enterState_openPage_of_some {stateSignature modalTarget : String}
    (h : extractModalTarget stateSignature = some modalTarget) (hne : modalTarget ≠ "")
    (hstrip : Text.strip modalTarget = modalTarget) : ∃ name ∈ (dialogNames modalTarget).head?,
      enterState (some openPage) stateSignature [] =
        (.ok true, [.counted (.dialog name) 1, .sawVisible (.dialog name) true]) := by
  obtain ⟨name, hname, hvisible⟩ := isTargetModalVisible_openPage hne hstrip
  refine ⟨name, hname, ?_⟩
  unfold enterState
  rw [h]
  exact Recording.bind_eq_ok_iff.mpr ⟨true, _, hvisible, rfl⟩

/-- A state that nothing was seen of is not a modal. -/
theorem sawDialog_singleton_iff {name : DialogName} {title : String} :
    SawDialog [.counted (.dialog name) 1, .sawVisible (.dialog name) true] title ↔
      name ∈ dialogNames title := by
  constructor
  · rintro ⟨name', hname', hmem⟩
    rcases List.mem_cons.mp hmem with h | h
    · exact nomatch h
    · injection List.mem_singleton.mp h with hlocator
      injection hlocator with hsame
      exact hsame ▸ hname'
  · intro h
    exact ⟨name, h, List.mem_cons_of_mem _ (List.mem_singleton_self _)⟩

/-- Two titles that are asked for alike are one, or both stand for the dialog of a new record. -/
theorem dialogNames_eq_of_mem {modalTarget title : String} {name : DialogName}
    (hhead : name ∈ (dialogNames modalTarget).head?) (h : name ∈ dialogNames title) :
    dialogNames modalTarget = dialogNames title := by
  unfold dialogNames at hhead h ⊢
  split_ifs at hhead h ⊢
  · rfl
  · obtain rfl : DialogName.creating = name := Option.some.inj hhead
    rcases List.mem_cons.mp h with h | h
    · exact nomatch h
    · exact nomatch List.mem_singleton.mp h
  · obtain rfl : DialogName.exact modalTarget = name := Option.some.inj hhead
    exact nomatch List.mem_singleton.mp h
  · obtain rfl : DialogName.exact modalTarget = name := Option.some.inj hhead
    rcases List.mem_cons.mp h with h | h
    · injection h with hsame
      rw [hsame]
    · exact nomatch List.mem_singleton.mp h

/-- A target without a colon names the dialog of no title with one. -/
theorem notMem_of_dialogNames_eq {modalTarget title : String} (hcolon : ':' ∉ modalTarget.toList)
    (h : dialogNames modalTarget = dialogNames title) : ':' ∉ title.toList := by
  by_cases htitle : Text.lower title ∈ ["create", "new", "add"]
  · intro hmem
    have hlower : ':' ∈ (Text.lower title).toList := Text.mem_lower (by decide) hmem
    have hwords : ∀ word ∈ ["create", "new", "add"], ':' ∉ word.toList := by decide
    exact hwords _ htitle hlower
  · unfold dialogNames at h
    rw [if_neg htitle] at h
    split_ifs at h
    · cases (List.cons.inj h).1
    · injection (List.cons.inj h).1 with hsame
      exact hsame ▸ hcolon

/-! ## The step of the plan -/

/-- The step that enters a state. -/
def enterStep (stateSignature : String) : Json :=
  step "state.enter" [("state_signature", .str stateSignature)]

theorem notMem_colon_of_placeholderName {s name : String} (h : placeholderName s = some name) :
    ':' ∉ (Text.strip s).toList := by
  unfold placeholderName at h
  dsimp only at h
  generalize (Text.strip s).toList = l at h ⊢
  split_ifs at h with hrefused
  simp only [Bool.or_eq_true, not_or, decide_eq_true_eq, bne_iff_ne, ne_eq, not_not,
    Bool.not_eq_true', Bool.not_eq_false] at hrefused
  obtain ⟨⟨⟨⟨hlength, hopen⟩, hclose⟩, -⟩, hname⟩ := hrefused
  obtain ⟨lead, trail, hmiddle, hlead, htrail⟩ :=
    Text.exists_stripList Text.isSpace ((l.drop 2).take (l.length - 4))
  have hparts : l = l.take 2 ++ (l.drop 2).take (l.length - 4) ++ l.drop (l.length - 2) := by
    have hrest : (l.drop 2).drop (l.length - 4) = l.drop (l.length - 2) := by
      rw [List.drop_drop, show 2 + (l.length - 4) = l.length - 2 by omega]
    rw [List.append_assoc, ← hrest, List.take_append_drop, List.take_append_drop]
  rw [hparts, hopen, hclose, hmiddle]
  intro hmem
  simp only [List.mem_append] at hmem
  rcases hmem with (hmem | (hmem | hmem) | hmem) | hmem
  · exact absurd hmem (by decide)
  · exact absurd (hlead _ hmem) (by decide)
  · exact absurd (List.all_eq_true.mp hname _ hmem) (by decide)
  · exact absurd (htrail _ hmem) (by decide)
  · exact absurd hmem (by decide)

theorem paramsOf_enterStep (runtimeInputs : List (String × Json)) (routePath : String)
    (stateContext : List (String × Json)) :
    paramsOf runtimeInputs (enterStep (buildStateSignature routePath stateContext)) =
      [("state_signature", .str (buildStateSignature routePath stateContext))] := by
  have hnone : placeholderName (buildStateSignature routePath stateContext) = none := by
    refine Option.eq_none_iff_forall_ne_some.mpr fun name hname => ?_
    exact notMem_colon_of_placeholderName hname (mem_colon_signature routePath stateContext)
  have hvalue : resolveValue runtimeInputs (.str (buildStateSignature routePath stateContext)) =
      .str (buildStateSignature routePath stateContext) := by
    simp only [resolveValue, hnone]
  change [("state_signature", resolveValue runtimeInputs _)] = _
  rw [hvalue]

theorem plannedCall_enterStep (runtimeInputs : List (String × Json)) (routePath : String)
    (stateContext : List (String × Json)) :
    plannedCall (paramsOf runtimeInputs (enterStep (buildStateSignature routePath stateContext)))
        "state.enter" =
      .ok (.enterState (buildStateSignature routePath stateContext)) := by
  rw [paramsOf_enterStep]
  exact congrArg (fun text => Except.ok (RuntimeCall.enterState text))
    (TemplateSlots.textOrEmpty_str (buildStateSignature_ne_empty routePath stateContext))

/-- Only the step that enters the state has its module. -/
theorem eq_enterStep_of_mem_plan {checkCode stateSignature : String} {pageContext : PageContext}
    {locatorBundle : LocatorBundle} {planStep : Json}
    (hmem : planStep ∈
      (buildModulePlan checkCode pageContext stateSignature locatorBundle).stepsJson)
    (hmodule : moduleOf planStep = "state.enter") : planStep = enterStep stateSignature := by
  have hother : ∀ (module : String) (params : List (String × Json)), module ≠ "" →
      module ≠ "state.enter" → planStep ≠ step module params := by
    rintro module params hempty hne rfl
    exact hne ((TemplateSlots.moduleOf_step hempty params).symm.trans hmodule)
  have hmodules : ∀ template ∈ templateDefinitions,
      ∀ module ∈ template.compileStrategy.assertModule :: template.compileStrategy.actionChain,
        module ≠ "" ∧ module ≠ "state.enter" := by
    decide
  change planStep ∈ navigationSteps pageContext ++ stateSteps stateSignature pageContext ++
    checkSteps checkCode pageContext stateSignature locatorBundle at hmem
  rcases List.mem_append.mp hmem with hmem | hmem
  · rcases List.mem_append.mp hmem with hmem | hmem
    · simp only [navigationSteps, List.mem_cons, List.not_mem_nil, or_false] at hmem
      rcases hmem with h | h | h
      · exact absurd h (hother _ _ (by decide) (by decide))
      · exact absurd h (hother _ _ (by decide) (by decide))
      · exact absurd h (hother _ _ (by decide) (by decide))
    · unfold stateSteps at hmem
      split_ifs at hmem
      · exact List.mem_singleton.mp hmem
      · cases hmem
  · unfold checkSteps at hmem
    cases htemplate : TemplateRegistry.getTemplate checkCode "v1" with
    | none =>
      rw [htemplate] at hmem
      dsimp only at hmem
      split_ifs at hmem
      · simp only [List.mem_cons, List.not_mem_nil, or_false] at hmem
        rcases hmem with h | h
        · exact absurd h (hother _ _ (by decide) (by decide))
        · exact absurd h (hother _ _ (by decide) (by decide))
      · exact absurd (List.mem_singleton.mp hmem) (hother _ _ (by decide) (by decide))
    | some template =>
      rw [htemplate] at hmem
      have hchain := hmodules template (List.mem_of_find?_eq_some htemplate)
      obtain ⟨module, hused, params, rfl⟩ := exists_module_of_mem_chain hmem
      obtain ⟨hempty, hne⟩ := hchain module hused
      exact absurd rfl (hother module params hempty hne)

/-! ## States that are entered -/

section

variable {routePath : String} {stateContext : List (String × Json)} {title : String}

theorem isWritten_of_mem {key : String} (h : key ∈ labelledKeys.map (·.1)) : IsWritten key :=
  .inl h

/-- The target of a title that can be read is asked for like the title. -/
theorem exists_target_of_legible (h : contextValue stateContext "modal_title" = some title)
    (hlegible : Legible title (markBefore routePath stateContext)) : ∃ modalTarget,
      extractModalTarget (buildStateSignature routePath stateContext) = some modalTarget ∧
        Text.strip modalTarget = modalTarget ∧ dialogNames modalTarget = dialogNames title := by
  cases hmark : markBefore routePath stateContext with
  | some mark =>
    obtain ⟨hne, hnames⟩ := hlegible.of_mark mark hmark
    refine ⟨Text.strip (String.ofList mark), ?_, Text.strip_strip _, hnames⟩
    rw [extractModalTarget_buildStateSignature, findSome?_of_title h, hmark, Option.some_or,
      Option.bind_some, targetOf_eq_some_iff]
    exact ⟨rfl, hne⟩
  | none =>
    refine ⟨title, ?_, strip_of_contextValue h, rfl⟩
    rw [decodes_of_title h, hmark]
    exact hlegible.of_no_mark hmark

/-- The target that is read from a signature is a stripped text. -/
theorem strip_of_extractModalTarget {modalTarget : String}
    (h : extractModalTarget (buildStateSignature routePath stateContext) = some modalTarget) :
    Text.strip modalTarget = modalTarget ∧ modalTarget ≠ "" := by
  rw [extractModalTarget_buildStateSignature] at h
  obtain ⟨mark, -, htarget⟩ := Option.bind_eq_some_iff.mp h
  obtain ⟨hstrip, hne⟩ := targetOf_eq_some_iff.mp htarget
  refine ⟨?_, hne⟩
  rw [← hstrip, Text.strip_strip]

/-- A target that is asked for like the title can be read. -/
theorem legible_of_target (h : contextValue stateContext "modal_title" = some title)
    {modalTarget : String}
    (htarget : extractModalTarget (buildStateSignature routePath stateContext) = some modalTarget)
    (hnames : dialogNames modalTarget = dialogNames title) :
    Legible title (markBefore routePath stateContext) := by
  rw [extractModalTarget_buildStateSignature, findSome?_of_title h] at htarget
  constructor
  · intro mark hmark
    rw [hmark, Option.some_or, Option.bind_some, targetOf_eq_some_iff] at htarget
    obtain ⟨hread, hne⟩ := htarget
    rw [hread]
    exact ⟨hne, hnames⟩
  · intro hmark
    rw [hmark, Option.none_or] at htarget
    obtain ⟨mark, hfound, hmarked⟩ := Option.bind_eq_some_iff.mp htarget
    obtain ⟨l, -, hl⟩ := List.exists_of_findSome?_eq_some hfound
    exact notMem_of_dialogNames_eq
      (notMem_of_extractModalTarget (notMem_of_firstMark hl) hmarked) hnames

/-- The runtime says that such a state was entered only when it was seen. -/
theorem verified_of_isEntered (h : IsEntered routePath stateContext)
    {page : Option BrowserPage} {events : List PageEvent}
    (hpassed : enterState page (buildStateSignature routePath stateContext) [] =
      (.ok true, events)) : Verified stateContext events := by
  intro key value hvalue hwritten
  rcases h.1 key value hvalue hwritten with hdefault | rfl
  · exact .inl hdefault
  · obtain ⟨modalTarget, htarget, hstrip, hnames⟩ :=
      exists_target_of_legible hvalue (h.2 value hvalue)
    obtain ⟨name, hname, hsaw⟩ := sawDialog_of_enterState htarget hstrip hpassed
    rw [hnames] at hname
    exact .inr ⟨rfl, name, hname, hsaw⟩

/-- A state that is seen on the page that shows everything is such a state. -/
theorem isEntered_of_verified {events : List PageEvent} (h : Verified stateContext events)
    (hevents : enterState (some openPage) (buildStateSignature routePath stateContext) [] =
      (.ok true, events)) : IsEntered routePath stateContext := by
  refine ⟨fun key value hvalue hwritten => (h key value hvalue hwritten).imp_right And.left,
    fun title htitle => ?_⟩
  have hsaw := ((h "modal_title" title htitle (isWritten_of_mem (by decide))).resolve_left
    fun hdefault => absurd hdefault.1 (by decide)).2
  cases htarget : extractModalTarget (buildStateSignature routePath stateContext) with
  | none =>
    rw [enterState_openPage_of_none htarget] at hevents
    obtain ⟨name, -, hmem⟩ := hsaw
    rw [← (Prod.mk.inj hevents).2] at hmem
    exact nomatch hmem
  | some modalTarget =>
    obtain ⟨hstrip, hne⟩ := strip_of_extractModalTarget htarget
    obtain ⟨name, hname, hopen⟩ := enterState_openPage_of_some htarget hne hstrip
    rw [← (Prod.mk.inj (hopen.symm.trans hevents)).2, sawDialog_singleton_iff] at hsaw
    exact legible_of_target htitle htarget (dialogNames_eq_of_mem hname hsaw)

end

/-! ## Steps that pass -/

theorem judged_advance (runtime : RunnerRuntime) (runtimeInputs : List (String × Json))
    (progress : Progress) (planStep : Json) :
    Judged (moduleOf planStep) (advance runtime runtimeInputs progress planStep).2 :=
  judged_runStep _ _ _

/-- The step passes when the runtime says that the state was entered. -/
theorem exists_truthy_of_passed {params : List (String × Json)} {module stateSignature : String}
    {answer : Except String Json}
    (h : (stepResult params module (.enterState stateSignature) answer).status = .passed) :
    ∃ v, answer = .ok v ∧ v.truthy = true := by
  cases answer with
  | error e => exact nomatch h
  | ok v =>
    refine ⟨v, rfl, ?_⟩
    by_contra hfalse
    unfold stepResult judge at h
    dsimp only at h
    rw [if_neg hfalse] at h
    exact nomatch h

theorem eq_ok_true_of_truthy {run : Except String Bool × List PageEvent} {v : Json}
    (h : run.1.map Json.bool = .ok v) (htrue : v.truthy = true) : run = (.ok true, run.2) := by
  rcases run with ⟨e | entered, events⟩
  · exact nomatch h
  · obtain rfl : Json.bool entered = v := Except.ok.inj h
    rw [show entered = true from htrue]

/-- On the page that shows everything, every state is entered. -/
theorem exists_events_openPage (stateSignature : String)
    (hstrip : ∀ modalTarget, extractModalTarget stateSignature = some modalTarget →
      Text.strip modalTarget = modalTarget ∧ modalTarget ≠ "") :
    ∃ events, enterState (some openPage) stateSignature [] = (.ok true, events) := by
  cases htarget : extractModalTarget stateSignature with
  | none => exact ⟨[], enterState_openPage_of_none htarget⟩
  | some modalTarget =>
    obtain ⟨hstripped, hne⟩ := hstrip modalTarget htarget
    obtain ⟨name, -, h⟩ := enterState_openPage_of_some htarget hne hstripped
    exact ⟨_, h⟩

section

variable {routePath : String} {stateContext : List (String × Json)}
  {page : List RuntimeCall → Option BrowserPage} {other : RunnerRuntime}
  {runtimeInputs : List (String × Json)}

theorem result_runStep_enterStep (calls : List RuntimeCall) (status : AuthInjectStatus) :
    (runStep (browserRuntime page other) runtimeInputs calls status
        (enterStep (buildStateSignature routePath stateContext))).result =
      stepResult (paramsOf runtimeInputs (enterStep (buildStateSignature routePath stateContext)))
        "state.enter" (.enterState (buildStateSignature routePath stateContext))
        ((enterState (page calls) (buildStateSignature routePath stateContext) []).1.map
          Json.bool) := by
  have hmodule : moduleOf (enterStep (buildStateSignature routePath stateContext)) =
      "state.enter" := TemplateSlots.moduleOf_step (by decide) _
  unfold runStep
  simp only [hmodule, plannedCall_enterStep]
  rfl

/-- When the step passes, the runtime said that the state was entered. -/
theorem enterState_eq_of_passed {calls : List RuntimeCall} {status : AuthInjectStatus}
    (h : (runStep (browserRuntime page other) runtimeInputs calls status
      (enterStep (buildStateSignature routePath stateContext))).result.status = .passed) :
    ∃ events, enterState (page calls) (buildStateSignature routePath stateContext) [] =
      (.ok true, events) := by
  rw [result_runStep_enterStep] at h
  obtain ⟨v, hv, htrue⟩ := exists_truthy_of_passed h
  exact ⟨_, eq_ok_true_of_truthy hv htrue⟩

/-- The step passes only in the state. -/
theorem verified_of_advance (h : IsEntered routePath stateContext) {progress : Progress}
    (hpassed : (advance (browserRuntime page other) runtimeInputs progress
      (enterStep (buildStateSignature routePath stateContext))).2.status = .passed) :
    Verified stateContext
      (enterState (page progress.1) (buildStateSignature routePath stateContext) []).2 := by
  obtain ⟨events, hevents⟩ := enterState_eq_of_passed hpassed
  rw [hevents]
  exact verified_of_isEntered h hevents

/-- On the page that shows everything the step passes. -/
theorem passed_of_openPage (hpage : ∀ calls, page calls = some openPage) (progress : Progress) :
    (advance (browserRuntime page other) runtimeInputs progress
      (enterStep (buildStateSignature routePath stateContext))).2.status = .passed := by
  obtain ⟨events, hevents⟩ := exists_events_openPage
    (buildStateSignature routePath stateContext) fun _ => strip_of_extractModalTarget
  unfold advance
  dsimp only
  rw [result_runStep_enterStep, hpage, hevents]
  rfl

theorem not_isFailed_of_agrees (hother : ∀ calls call, other calls call = .ok (.bool true))
    (pageContext : PageContext) (progress : Progress) :
    ∀ planStep ∈ navigationSteps pageContext,
      isFailed (advance (browserRuntime page other) runtimeInputs progress planStep).2 =
        false := by
  intro planStep hmem
  simp only [navigationSteps, List.mem_cons, List.not_mem_nil, or_false] at hmem
  rcases hmem with rfl | rfl | rfl
  · change isFailed (stepResult _ _ .injectAuthState (other progress.1 _)) = false
    rw [hother]
    rfl
  · change isFailed (stepResult _ _ (.navigateMenuChain _ _) (other progress.1 _)) = false
    rw [hother]
    rfl
  · change isFailed (stepResult _ _ (.waitPageReady _) (other progress.1 _)) = false
    rw [hother]
    rfl

/-- After a navigation that does not fail, the step is carried out. -/
theorem exists_result (hother : ∀ calls call, other calls call = .ok (.bool true))
    (pageContext : PageContext) (planned : List Json) :
    ∃ progress, (execute (browserRuntime page other) runtimeInputs (navigationSteps pageContext ++
        enterStep (buildStateSignature routePath stateContext) :: planned)).2.stepResults[3]? =
      some (advance (browserRuntime page other) runtimeInputs progress
        (enterStep (buildStateSignature routePath stateContext))).2 := by
  have hresult := @EarlyExit.getElem?_run_of_not_stops _ _ _
    (advance (browserRuntime page other) runtimeInputs) isFailed ([], .blocked)
    (navigationSteps pageContext ++
      enterStep (buildStateSignature routePath stateContext) :: planned) 3 _ rfl
    (not_isFailed_of_agrees hother pageContext)
  rw [execute_eq]
  exact ⟨_, hresult⟩

end

section

variable {checkCode : String} {pageContext : PageContext} {locatorBundle : LocatorBundle}
  {runtimeInputs : List (String × Json)} {routePath : String} {stateContext : List (String × Json)}

/-- The step of a state that is not the default one stands behind the navigation. -/
theorem stepsJson_eq
    (hne : buildStateSignature routePath stateContext ≠ pageContext.defaultStateSignature) :
    (buildModulePlan checkCode pageContext (buildStateSignature routePath stateContext)
      locatorBundle).stepsJson = navigationSteps pageContext ++
        enterStep (buildStateSignature routePath stateContext) ::
          checkSteps checkCode pageContext (buildStateSignature routePath stateContext)
            locatorBundle := by
  have hstate : stateSteps (buildStateSignature routePath stateContext) pageContext =
      [enterStep (buildStateSignature routePath stateContext)] :=
    if_pos (by simp [buildStateSignature_ne_empty, hne])
  simp only [buildModulePlan, hstate, List.append_assoc, List.singleton_append]

theorem isEntered_of_passesOnlyVerified
    (hne : buildStateSignature routePath stateContext ≠ pageContext.defaultStateSignature)
    (h : PassesOnlyVerified runtimeInputs
      (buildModulePlan checkCode pageContext (buildStateSignature routePath stateContext)
        locatorBundle).stepsJson
      stateContext (buildStateSignature routePath stateContext)) :
    IsEntered routePath stateContext := by
  rw [stepsJson_eq hne] at h
  obtain ⟨page, hpage⟩ : ∃ page : List RuntimeCall → Option BrowserPage,
      ∀ calls, page calls = some openPage := ⟨fun _ => some openPage, fun _ => rfl⟩
  obtain ⟨other, hother⟩ : ∃ other : RunnerRuntime,
      ∀ calls call, other calls call = .ok (.bool true) :=
    ⟨fun _ _ => .ok (.bool true), fun _ _ => rfl⟩
  obtain ⟨progress, hresult⟩ := @exists_result routePath stateContext page other
    runtimeInputs hother pageContext (checkSteps checkCode pageContext
      (buildStateSignature routePath stateContext) locatorBundle)
  have hmodule := (judged_advance (browserRuntime page other) runtimeInputs progress
    (enterStep (buildStateSignature routePath stateContext))).module_eq.trans
      (TemplateSlots.moduleOf_step (by decide) _)
  have hverified := h page other 3 _ hresult hmodule (passed_of_openPage hpage progress)
  rw [hpage] at hverified
  obtain ⟨events, hevents⟩ := exists_events_openPage
    (buildStateSignature routePath stateContext) fun _ => strip_of_extractModalTarget
  rw [hevents] at hverified
  exact isEntered_of_verified hverified hevents

theorem passesOnlyVerified_of_isEntered (h : IsEntered routePath stateContext) :
    PassesOnlyVerified runtimeInputs
      (buildModulePlan checkCode pageContext (buildStateSignature routePath stateContext)
        locatorBundle).stepsJson
      stateContext (buildStateSignature routePath stateContext) := by
  intro page other i stepResult hi hmodule hpassed
  rw [execute_eq] at hi
  obtain ⟨planStep, hstep, rfl⟩ := EarlyExit.getElem?_run _ _ hi
  have hmoduleOf := (judged_advance _ _ _ planStep).module_eq.symm.trans hmodule
  obtain rfl := eq_enterStep_of_mem_plan (List.mem_of_getElem? hstep) hmoduleOf
  exact verified_of_advance h hpassed

end

/-- **A step that enters a state passes only in the state exactly when the state is the default one
or a modal whose title can be read.** -/
theorem verifies_iff (checkCode : String) (pageContext : PageContext)
    (locatorBundle : LocatorBundle) (runtimeInputs : List (String × Json)) (routePath : String)
    (stateContext : List (String × Json))
    (hne : buildStateSignature routePath stateContext ≠ pageContext.defaultStateSignature) :
    PassesOnlyVerified runtimeInputs
        (buildModulePlan checkCode pageContext (buildStateSignature routePath stateContext)
          locatorBundle).stepsJson
        stateContext (buildStateSignature routePath stateContext) ↔
      IsEntered routePath stateContext :=
  ⟨isEntered_of_passesOnlyVerified hne, passesOnlyVerified_of_isEntered⟩

namespace StateSample

open TemplateSlots.SlotSample (pageContext)

def modalContext : List (String × Json) :=
  [("modal_title", .str "New User")]

theorem isEntered_modalContext : IsEntered "/users" modalContext := by
  constructor
  · intro key value hvalue _
    refine .inr ?_
    by_contra hkey
    have hnone : contextValue modalContext key = none := by
      simp [contextValue, modalContext, Json.get?, Ne.symm hkey]
    exact nomatch hnone.symm.trans hvalue
  · intro title htitle
    have hsame : contextValue modalContext "modal_title" = some "new_user" := by decide +kernel
    obtain rfl : "new_user" = title := Option.some.inj (hsame.symm.trans htitle)
    have hmark : markBefore "/users" modalContext = none := by decide +kernel
    exact ⟨fun mark h => (nomatch hmark.symm.trans h), fun _ => by decide⟩

/-- The dialog for a new user. -/
theorem verifies_modal : PassesOnlyVerified []
    (buildModulePlan "open_create_modal_state" pageContext
      (buildStateSignature "/users" modalContext) ⟨[]⟩).stepsJson
    modalContext (buildStateSignature "/users" modalContext) :=
  (verifies_iff "open_create_modal_state" pageContext ⟨[]⟩ [] "/users" modalContext
    (by decide +kernel)).mpr isEntered_modalContext

def tabContext : List (String × Json) :=
  [("active_tab", .str "Archive")]

/-- The step for the tab of the archive passes on every page. -/
theorem tab_not_verified :
    buildStateSignature "/users" tabContext ≠ pageContext.defaultStateSignature ∧
      ¬PassesOnlyVerified []
        (buildModulePlan "tab_switch_render" pageContext
          (buildStateSignature "/users" tabContext) ⟨[]⟩).stepsJson
        tabContext (buildStateSignature "/users" tabContext) := by
  have hne : buildStateSignature "/users" tabContext ≠ pageContext.defaultStateSignature := by
    decide +kernel
  refine ⟨hne, fun h => ?_⟩
  have hvalue : contextValue tabContext "active_tab" = some "archive" := by decide +kernel
  rcases (isEntered_of_passesOnlyVerified hne h).1 "active_tab" "archive" hvalue
    (.inl (by decide)) with ⟨-, hdefault⟩ | hkey
  · exact absurd hdefault (by decide)
  · exact absurd hkey (by decide)

end StateSample

end StateChecks
end Runlet
