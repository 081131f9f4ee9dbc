import Runlet.CrawlerService.Extractors.DisallowedProbes

/-!
# What an extraction says of its actions

The targets that found a place in the registry of an extraction stand there in the order in which
their actions were handed over, and each ends with the status that the answer of the session calls
for.  `Traced` is what the calls and the registry have to do with each other; one turn of either
loop keeps it, and so does an extraction (`extraction_traced`).

As the registry is sound, the budgets of the registry are budgets of the actions.
-/

namespace Runlet

/-! ## Lists side by side -/

section Beside

variable {α β : Type} {R : α → β → Prop}

theorem forall₂_concat {l : List α} {l' : List β} (h : List.Forall₂ R l l') {a : α} {b : β}
    (hab : R a b) : List.Forall₂ R (l ++ [a]) (l' ++ [b]) :=
  List.rel_append h (.cons hab .nil)

/-- A change that the relation does not see, at one place. -/
theorem forall₂_modify {f : β → β} (hf : ∀ a b, R a b → R a (f b)) {l : List α} {l' : List β}
    (h : List.Forall₂ R l l') (place : ℕ) : List.Forall₂ R l (l'.modify place f) := by
  induction h generalizing place with
  | nil =>
    cases place with
    | zero => exact .nil
    | succ place => exact .nil
  | cons hab h ih =>
    cases place with
    | zero => exact .cons (hf _ _ hab) h
    | succ place => exact .cons hab (ih place)

theorem filterMap_range_getElem? (l : List α) :
    (List.range l.length).filterMap (fun i => l[i]?) = l := by
  have hmap : (List.range l.length).map (fun i => l[i]?) = l.map some :=
    List.ext_getElem (by simp) fun i _ _ => by simp
  have hid : (List.range l.length).filterMap (fun i => l[i]?) =
      ((List.range l.length).map fun i => l[i]?).filterMap id := by
    rw [List.filterMap_map]
    rfl
  rw [hid, hmap, List.filterMap_map]
  exact List.filterMap_some

theorem modify_length_concat {f : β → β} (l : List β) (b : β) :
    (l ++ [b]).modify l.length f = l ++ [f b] := by
  induction l with
  | nil => rfl
  | cons c l ih => exact congrArg (c :: ·) ih

end Beside

namespace StateProbe

open NavigationTargetRegistry (Sound)
open NavigationTargets (normalizeText)

/-! ## Answers -/

/-- What the session answers to a call that hands over an action. -/
def answerOf (session : BrowserSession) (before : List SessionCall) :
    SessionCall → Option (Json × Except SessionError Json)
  | .performAction action => session.performStateProbeAction.map fun executor =>
      (action, (executor before action).map objectOrEmpty)
  | .performNavigation target pageContext => session.performNavigationTarget.map fun executor =>
      (target, (executor before target pageContext).map objectOrEmpty)
  | _ => none

/-- The actions that were handed over, each with the answer. -/
def answersFrom (session : BrowserSession) :
    List SessionCall → List SessionCall → List (Json × Except SessionError Json)
  | _, [] => []
  | before, c :: calls =>
    (answerOf session before c).toList ++ answersFrom session (before ++ [c]) calls

def answers (session : BrowserSession) (calls : List SessionCall) :
    List (Json × Except SessionError Json) :=
  answersFrom session [] calls

theorem answersFrom_concat (session : BrowserSession) (before calls : List SessionCall)
    (c : SessionCall) : answersFrom session before (calls ++ [c]) =
      answersFrom session before calls ++ (answerOf session (before ++ calls) c).toList := by
  induction calls generalizing before with
  | nil =>
    rw [List.nil_append, answersFrom, answersFrom, answersFrom, List.append_nil, List.append_nil,
      List.nil_append]
  | cons d calls ih =>
    rw [List.cons_append, answersFrom, answersFrom, ih, List.append_assoc, List.append_assoc,
      List.singleton_append]

theorem answers_concat (session : BrowserSession) (calls : List SessionCall) (c : SessionCall) :
    answers session (calls ++ [c]) =
      answers session calls ++ (answerOf session calls c).toList :=
  answersFrom_concat session [] calls c

/-- The status, the reason and the detail that an answer calls for. -/
def outcomeOf : Except SessionError Json → String × Option String × Option String
  | .error .permission => ("blocked", some "blocked_by_permission", none)
  | .error .other => ("blocked", some "unsafe_action_rejected", none)
  | .ok payload =>
    if actionPayloadApplied payload then ("applied", none, none)
    else ("not_applied", some "state_transition_not_applied",
      normalizeText (.str (actionPayloadRejectionReason payload)))

/-- The target with what the answer calls for. -/
def settled (target : NavigationTarget) (answer : Except SessionError Json) : NavigationTarget :=
  target.mark (outcomeOf answer).1 (outcomeOf answer).2.1 (outcomeOf answer).2.2

theorem passesValidator_settled (target : NavigationTarget) (answer : Except SessionError Json) :
    (settled target answer).PassesValidator := by
  unfold settled outcomeOf
  split
  · exact ⟨.blocked, some .blockedByPermission, rfl, rfl, rfl⟩
  · exact ⟨.blocked, some .unsafeActionRejected, rfl, rfl, rfl⟩
  · split_ifs
    · exact ⟨.applied, none, rfl, rfl, rfl⟩
    · exact ⟨.notApplied, some .stateTransitionNotApplied, rfl, rfl, rfl⟩


/-! ## The calls and the registry -/

/-- The key of an action whose target is a state target of a page. -/
def targetKeyOf (action : Json) : Option String :=
  match action.get? "target_key" with
  | some (.str key) => some key
  | _ => none

/-- The key of the target that is made of an action on the older path. -/
def legacyKeyOf (action : Json) : Option String :=
  (routePathOf (Json.orElse (action.get? "route_path") (action.get? "page_route_path"))).bind
    fun routePath =>
      (normalizeEntryType
        (Json.orElse (action.get? "entry_type") (action.get? "interaction_type"))).map
          fun entryType => (buildNavigationTarget action routePath entryType "discovered" none).targetKey

/-- The target is the one of the action, and says what the answer calls for. -/
structure Recorded (key : Json → Option String) (answered : Json × Except SessionError Json)
    (target : NavigationTarget) : Prop where
  key : key answered.1 = some target.targetKey
  outcome : (target.materializationStatus, target.rejectionReason, target.rejectionDetail) =
    outcomeOf answered.2

/-- A target that was refused says so. -/
def IsRefused (target : NavigationTarget) : Prop :=
  target.materializationStatus = "blocked" ∨ target.materializationStatus = "duplicate"

/-- What the calls of a run and its registry have to do with each other. -/
structure Traced (session : BrowserSession) (key : Json → Option String)
    (budgets : ℕ × ℕ × ℕ × ℕ) (registry : NavigationTargetRegistry) (calls : List SessionCall) :
    Prop where
  sound : ∃ history, Sound registry history
  budgets : registry.budgets = budgets
  recorded : List.Forall₂ (Recorded key) (answers session calls) registry.targets
  refused : ∀ target ∈ registry.rejectedTargets, IsRefused target

section Traced

variable {session : BrowserSession} {key : Json → Option String} {budgets : ℕ × ℕ × ℕ × ℕ}
  {registry : NavigationTargetRegistry} {calls : List SessionCall} {st : ProbeState}
  {target : NavigationTarget}

/-- Another call than one that hands over an action changes nothing. -/
theorem Traced.call (h : Traced session key budgets registry calls) {c : SessionCall}
    (hc : answerOf session calls c = none) :
    Traced session key budgets registry (calls ++ [c]) := by
  refine ⟨h.sound, h.budgets, ?_, h.refused⟩
  rw [answers_concat, hc, Option.toList_none, List.append_nil]
  exact h.recorded

/-- What an addition that is refused does to the lists. -/
theorem lists_add_of_refused (h : (registry.add target).2.accepted = false) :
    ((registry.add target).1.targets = registry.targets ∨
      ∃ place, (registry.add target).1.targets =
        registry.targets.modify place (·.mergeFrom target)) ∧
      ∃ refused, IsRefused refused ∧
        (registry.add target).1.rejectedTargets = registry.rejectedTargets ++ [refused] := by
  unfold NavigationTargetRegistry.add at h ⊢
  cases hkey : registry.targetsByKey.get? target.dedupeKey with
  | some place => exact ⟨Or.inr ⟨place, rfl⟩, _, Or.inr rfl, rfl⟩
  | none =>
    rw [hkey] at h
    dsimp only at h ⊢
    cases hbudget : registry.budgetRejectionReason target with
    | some reason => exact ⟨Or.inl rfl, _, Or.inl rfl, rfl⟩
    | none =>
      rw [hbudget] at h
      cases h

/-- What an addition that is accepted does to the lists. -/
theorem lists_add_of_accepted (h : (registry.add target).2.accepted = true) :
    (registry.add target).1.targets = registry.targets ++ [target.markQueued] ∧
      (registry.add target).1.rejectedTargets = registry.rejectedTargets := by
  unfold NavigationTargetRegistry.add at h ⊢
  cases hkey : registry.targetsByKey.get? target.dedupeKey with
  | some place =>
    rw [hkey] at h
    cases h
  | none =>
    rw [hkey] at h
    dsimp only at h ⊢
    cases hbudget : registry.budgetRejectionReason target with
    | some reason =>
      rw [hbudget] at h
      cases h
    | none => exact ⟨rfl, rfl⟩

theorem Traced.add_refused (h : Traced session key budgets registry calls)
    (hrefused : (registry.add target).2.accepted = false) :
    Traced session key budgets (registry.add target).1 calls := by
  obtain ⟨history, hsound⟩ := h.sound
  obtain ⟨htargets, refused, hstatus, hrejected⟩ := lists_add_of_refused hrefused
  refine ⟨⟨_, hsound.add target⟩,
    (NavigationTargetRegistry.budgets_add registry target).trans h.budgets, ?_, ?_⟩
  · rcases htargets with htargets | ⟨place, htargets⟩
    · rw [htargets]
      exact h.recorded
    · rw [htargets]
      exact forall₂_modify (fun _ _ hab => ⟨hab.key, hab.outcome⟩) h.recorded place
  · rw [hrejected, List.forall_mem_append, List.forall_mem_singleton]
    exact ⟨h.refused, hstatus⟩

/-- **A target that finds a place, with the action that is handed over for it.** -/
theorem Traced.add_accepted (h : Traced session key budgets registry calls)
    (haccepted : (registry.add target).2.accepted = true) {c : SessionCall} {action : Json}
    {answer : Except SessionError Json} (hanswer : answerOf session calls c = some (action, answer))
    (hkey : key action = some target.targetKey) :
    Traced session key budgets
      { (registry.add target).1 with targets :=
          (registry.add target).1.targets.modify registry.targets.length (settled · answer) }
      (calls ++ [c]) := by
  obtain ⟨history, hsound⟩ := h.sound
  obtain ⟨htargets, hrejected⟩ := lists_add_of_accepted haccepted
  refine ⟨⟨_, (hsound.add target).marked _ fun t => passesValidator_settled t answer⟩,
    (NavigationTargetRegistry.budgets_add registry target).trans h.budgets, ?_, ?_⟩
  · dsimp only
    rw [htargets, modify_length_concat, answers_concat, hanswer]
    exact forall₂_concat h.recorded ⟨hkey, rfl⟩
  · dsimp only
    rw [hrejected]
    exact h.refused

/-! ## The turns of the loops -/

@[simp] theorem registry_warnRefused (reason : Option String) :
    (st.warnRefused reason).registry = st.registry := by
  unfold ProbeState.warnRefused
  split
  · rfl
  · split_ifs <;> rfl
  · rfl

theorem registry_settleTarget (place : ℕ) (defaultRoute action pageContext : Json)
    (answer : Except SessionError Json) (st : ProbeState) :
    (settleTarget place defaultRoute action pageContext (answer, st)).registry =
      { st.registry with targets := st.registry.targets.modify place (settled · answer) } := by
  unfold settleTarget settled outcomeOf
  cases answer with
  | error error =>
    cases error with
    | permission => rfl
    | other => rfl
  | ok payload =>
    cases happlied : actionPayloadApplied payload with
    | true =>
      simp only [happlied, Bool.not_true, Bool.false_eq_true, if_false, if_true]
      rfl
    | false =>
      simp only [happlied, Bool.not_false, Bool.false_eq_true, if_false, if_true]
      split_ifs <;> rfl

theorem registry_settleAction (place : ℕ) (routePath : String) (action : Json)
    (answer : Except SessionError Json) (st : ProbeState) :
    (settleAction place routePath action (answer, st)).registry =
      { st.registry with targets := st.registry.targets.modify place (settled · answer) } := by
  unfold settleAction settled outcomeOf
  cases answer with
  | error error =>
    cases error with
    | permission => rfl
    | other => rfl
  | ok payload =>
    cases happlied : actionPayloadApplied payload with
    | true =>
      simp only [happlied, Bool.not_true, Bool.false_eq_true, if_false, if_true]
      rfl
    | false =>
      simp only [happlied, Bool.not_false, Bool.false_eq_true, if_false, if_true]
      rfl

theorem performAction_spec (h : session.performStateProbeAction ≠ none) (action : Json) :
    ∃ answer, performAction session st action = (answer, st.call (.performAction action)) ∧
      answerOf session st.calls (.performAction action) = some (action, answer) := by
  obtain ⟨executor, hexecutor⟩ := Option.ne_none_iff_exists'.mp h
  unfold performAction answerOf
  rw [hexecutor]
  exact ⟨_, rfl, rfl⟩

theorem performNavigationTarget_spec (h : session.performStateProbeAction ≠ none)
    (target pageContext : Json) :
    ∃ c answer, performNavigationTarget session st target pageContext = (answer, st.call c) ∧
      answerOf session st.calls c = some (target, answer) := by
  unfold performNavigationTarget
  cases hexecutor : session.performNavigationTarget with
  | none =>
    obtain ⟨answer, hperformed, hanswer⟩ := @performAction_spec session st h target
    exact ⟨_, answer, hperformed, hanswer⟩
  | some executor =>
    refine ⟨.performNavigation target pageContext, _, rfl, ?_⟩
    unfold answerOf
    rw [hexecutor]
    rfl

theorem targetKeyOf_targetAction (target : NavigationTarget) (baseStateContext : Option Json) :
    targetKeyOf (targetAction target baseStateContext) = some target.targetKey := by
  have hwritten : "target_key" ∉ writtenFields := by decide
  have hkey : (targetAction target baseStateContext).get? "target_key" =
      some (.str target.targetKey) :=
    get?_buildNavigationActionPayload hwritten _ _ _
  rw [targetKeyOf, hkey]

theorem traced_probeTarget (hperforms : session.performStateProbeAction ≠ none)
    (h : Traced session targetKeyOf budgets st.registry st.calls) (pageTarget : NavigationTarget)
    (pageContext baselineState : Json) (target : NavigationTarget) :
    Traced session targetKeyOf budgets
      (probeTarget session pageTarget pageContext baselineState st target).registry
      (probeTarget session pageTarget pageContext baselineState st target).calls := by
  unfold probeTarget
  cases haccepted : (st.registry.add target).2.accepted with
  | false =>
    dsimp only
    rw [if_pos (by rw [haccepted]; decide), registry_warnRefused, calls_warnRefused]
    exact h.add_refused haccepted
  | true =>
    dsimp only
    rw [if_neg (by rw [haccepted]; decide), target_add_of_accepted haccepted]
    obtain ⟨c, answer, hperformed, hanswer⟩ := @performNavigationTarget_spec session
      { st with registry := (st.registry.add target).1 } hperforms
      (targetAction target.markQueued (baselineState.get? "state_context")) pageContext
    rw [hperformed, registry_settleTarget, calls_settleTarget]
    exact h.add_accepted haccepted hanswer (targetKeyOf_targetAction target.markQueued _)

theorem traced_foldl_probeTarget (hperforms : session.performStateProbeAction ≠ none)
    (pageTarget : NavigationTarget) (pageContext baselineState : Json)
    (targets : List NavigationTarget) (st : ProbeState)
    (h : Traced session targetKeyOf budgets st.registry st.calls) :
    Traced session targetKeyOf budgets
      (targets.foldl (probeTarget session pageTarget pageContext baselineState) st).registry
      (targets.foldl (probeTarget session pageTarget pageContext baselineState) st).calls := by
  induction targets generalizing st with
  | nil => exact h
  | cons target targets ih => exact ih _ (traced_probeTarget hperforms h _ _ _ target)

theorem traced_visitPageTarget (h : Traced session key budgets st.registry st.calls)
    (pageTarget : NavigationTarget) :
    Traced session key budgets (visitPageTarget session st pageTarget).2.registry
      (visitPageTarget session st pageTarget).2.calls := by
  unfold visitPageTarget
  cases session.visitPageTarget with
  | none => exact h
  | some visitor => exact h.call rfl

theorem traced_probePage (hperforms : session.performStateProbeAction ≠ none)
    (h : Traced session targetKeyOf budgets st.registry st.calls)
    (navigationTargets : List Json) (pageTarget : NavigationTarget) :
    Traced session targetKeyOf budgets
      (probePage session navigationTargets st pageTarget).2.registry
      (probePage session navigationTargets st pageTarget).2.calls := by
  have hvisited := traced_visitPageTarget h pageTarget
  unfold probePage
  split
  · rename_i error visited heq
    rw [heq] at hvisited
    exact hvisited
  · rename_i pageContext visited heq
    rw [heq] at hvisited
    dsimp only
    split
    · exact hvisited
    · exact traced_foldl_probeTarget hperforms _ _ _ _ _ hvisited

theorem traced_probePages (hperforms : session.performStateProbeAction ≠ none)
    (navigationTargets : List Json) (pageTargets : List NavigationTarget) (st : ProbeState)
    (h : Traced session targetKeyOf budgets st.registry st.calls) :
    Traced session targetKeyOf budgets
      (probePages session navigationTargets pageTargets st).2.registry
      (probePages session navigationTargets pageTargets st).2.calls := by
  induction pageTargets generalizing st with
  | nil => exact h
  | cons pageTarget pageTargets ih =>
    have hprobed := traced_probePage hperforms h navigationTargets pageTarget
    unfold probePages
    split
    · rename_i message probed heq
      rw [heq] at hprobed
      exact hprobed
    · rename_i probed heq
      rw [heq] at hprobed
      exact ih probed hprobed

end Traced

/-! ## The older path -/

def ListedTarget.place? : ListedTarget → Option ℕ
  | .taken place => some place
  | .refused _ => none

def ListedTarget.refused? : ListedTarget → Option NavigationTarget
  | .taken _ => none
  | .refused target => some target

/-- The older path lists each target of the registry once, in order, and refused ones between. -/
structure Listed (st : ProbeState) : Prop where
  places : st.navigationTargets.filterMap ListedTarget.place? =
    List.range st.registry.targets.length
  refused : ∀ target ∈ st.navigationTargets.filterMap ListedTarget.refused?, IsRefused target

section Legacy

variable {session : BrowserSession} {budgets : ℕ × ℕ × ℕ × ℕ} {st st' : ProbeState}
  {target : NavigationTarget}

theorem Listed.congr (h : Listed st) (hlisted : st'.navigationTargets = st.navigationTargets)
    (hlength : st'.registry.targets.length = st.registry.targets.length) : Listed st' := by
  constructor
  · rw [hlisted, hlength]
    exact h.places
  · rw [hlisted]
    exact h.refused

theorem Listed.list_refused (h : Listed st) (htarget : IsRefused target)
    (hlisted : st'.navigationTargets = st.navigationTargets ++ [.refused target])
    (hlength : st'.registry.targets.length = st.registry.targets.length) : Listed st' := by
  constructor
  · rw [hlisted, hlength, List.filterMap_append]
    exact (List.append_nil _).trans h.places
  · rw [hlisted, List.filterMap_append, List.forall_mem_append]
    exact ⟨h.refused, List.forall_mem_singleton.mpr htarget⟩

theorem Listed.list_taken (h : Listed st)
    (hlisted : st'.navigationTargets =
      st.navigationTargets ++ [.taken st.registry.targets.length])
    (hlength : st'.registry.targets.length = st.registry.targets.length + 1) : Listed st' := by
  constructor
  · rw [hlisted, hlength, List.filterMap_append, List.range_succ, h.places]
    rfl
  · rw [hlisted, List.filterMap_append, List.forall_mem_append]
    exact ⟨h.refused, fun _ htarget => absurd htarget List.not_mem_nil⟩

theorem isRefused_add {registry : NavigationTargetRegistry}
    (h : (registry.add target).2.accepted = false) : IsRefused (registry.add target).2.target := by
  unfold NavigationTargetRegistry.add at h ⊢
  cases hkey : registry.targetsByKey.get? target.dedupeKey with
  | some place => exact Or.inr rfl
  | none =>
    rw [hkey] at h
    dsimp only at h ⊢
    cases hbudget : registry.budgetRejectionReason target with
    | some reason => exact Or.inl rfl
    | none =>
      rw [hbudget] at h
      cases h

@[simp] theorem navigationTargets_warnRefused (reason : Option String) :
    (st.warnRefused reason).navigationTargets = st.navigationTargets := by
  unfold ProbeState.warnRefused
  split
  · rfl
  · split_ifs <;> rfl
  · rfl

theorem navigationTargets_settleAction (place : ℕ) (routePath : String) (action : Json)
    (performed : Except SessionError Json × ProbeState) :
    (settleAction place routePath action performed).navigationTargets =
      performed.2.navigationTargets ++ [.taken place] := by
  unfold settleAction
  split
  · rfl
  · rfl
  · split_ifs
    · rfl
    · rfl

theorem length_targets_add_of_refused {registry : NavigationTargetRegistry}
    (h : (registry.add target).2.accepted = false) :
    (registry.add target).1.targets.length = registry.targets.length := by
  rcases (lists_add_of_refused h).1 with htargets | ⟨place, htargets⟩
  · rw [htargets]
  · rw [htargets, List.length_modify]

/-- **One turn of the older path.** -/
theorem traced_probeAction (hperforms : session.performStateProbeAction ≠ none)
    (h : Traced session legacyKeyOf budgets st.registry st.calls) (hlisted : Listed st)
    (action : Json) :
    Traced session legacyKeyOf budgets (probeAction session st action).registry
        (probeAction session st action).calls ∧
      Listed (probeAction session st action) := by
  unfold probeAction
  cases hroute : routePathOf
      (Json.orElse (action.get? "route_path") (action.get? "page_route_path")) with
  | none => exact ⟨h, hlisted⟩
  | some routePath =>
    cases htype : normalizeEntryType
        (Json.orElse (action.get? "entry_type") (action.get? "interaction_type")) with
    | none => exact ⟨h, hlisted.congr rfl rfl⟩
    | some entryType =>
      dsimp only
      split_ifs with hallowed hblocked hrefused
      · exact ⟨h, hlisted.list_refused (Or.inl rfl) rfl rfl⟩
      · have hrefused : (st.registry.add (buildNavigationTarget action routePath entryType
            "discovered" none)).2.accepted = false := by
          simpa using hrefused
        refine ⟨?_, hlisted.list_refused (isRefused_add hrefused) ?_ ?_⟩
        · rw [registry_warnRefused, calls_warnRefused]
          exact h.add_refused hrefused
        · rw [navigationTargets_warnRefused]
          rfl
        · rw [registry_warnRefused]
          exact length_targets_add_of_refused hrefused
      · have haccepted : (st.registry.add (buildNavigationTarget action routePath entryType
            "discovered" none)).2.accepted = true := by
          simpa using hrefused
        have hkey : legacyKeyOf action = some (buildNavigationTarget action routePath entryType
            "discovered" none).targetKey := by
          rw [legacyKeyOf, hroute, htype]
          rfl
        obtain ⟨answer, hperformed, hanswer⟩ := @performAction_spec session
          { st with registry := (st.registry.add (buildNavigationTarget action routePath entryType
            "discovered" none)).1 } hperforms action
        rw [hperformed]
        constructor
        · rw [registry_settleAction, calls_settleAction]
          exact h.add_accepted haccepted hanswer hkey
        · refine hlisted.list_taken ?_ ?_
          · rw [navigationTargets_settleAction]
            rfl
          · rw [registry_settleAction]
            dsimp only [ProbeState.call]
            rw [List.length_modify, (lists_add_of_accepted haccepted).1, List.length_append,
              List.length_singleton]
      · exact ⟨h, hlisted.congr rfl rfl⟩

theorem traced_foldl_probeAction (hperforms : session.performStateProbeAction ≠ none)
    (actions : List Json) (st : ProbeState)
    (h : Traced session legacyKeyOf budgets st.registry st.calls) (hlisted : Listed st) :
    Traced session legacyKeyOf budgets (actions.foldl (probeAction session) st).registry
        (actions.foldl (probeAction session) st).calls ∧
      Listed (actions.foldl (probeAction session) st) := by
  induction actions generalizing st with
  | nil => exact ⟨h, hlisted⟩
  | cons action actions ih =>
    obtain ⟨htraced, hlisted⟩ := traced_probeAction hperforms h hlisted action
    exact ih _ htraced hlisted

/-- Collecting states changes neither the registry nor the lists. -/
theorem foldl_collect_eq (states : List Json) (st : ProbeState) :
    (states.foldl ProbeState.collect st).registry = st.registry ∧
      (states.foldl ProbeState.collect st).navigationTargets = st.navigationTargets := by
  induction states generalizing st with
  | nil => exact ⟨rfl, rfl⟩
  | cons state states ih => exact ih (st.collect state)

theorem collectBaselineStates_spec (session : BrowserSession) (st : ProbeState) :
    (collectBaselineStates session st).2 = st ∨
      ∃ c, answerOf session st.calls c = none ∧
        (collectBaselineStates session st).2 = st.call c := by
  unfold collectBaselineStates
  cases session.collectStateProbeBaseline with
  | some collector => exact Or.inr ⟨.collectBaseline, rfl, rfl⟩
  | none =>
    cases session.collectDomElements with
    | some collector => exact Or.inr ⟨.collectDomElements, rfl, rfl⟩
    | none => exact Or.inl rfl

theorem collectActions_spec (session : BrowserSession) (st : ProbeState) :
    (collectActions session st).2 = st ∨
      ∃ c, answerOf session st.calls c = none ∧ (collectActions session st).2 = st.call c := by
  unfold collectActions
  cases session.collectStateProbeActions with
  | some collector => exact Or.inr ⟨.collectActions, rfl, rfl⟩
  | none => exact Or.inl rfl

/-- A state that differs from another by a call that hands over nothing. -/
theorem traced_of_spec (h : Traced session legacyKeyOf budgets st.registry st.calls)
    (hlisted : Listed st)
    (hspec : st' = st ∨ ∃ c, answerOf session st.calls c = none ∧ st' = st.call c) :
    Traced session legacyKeyOf budgets st'.registry st'.calls ∧ Listed st' := by
  rcases hspec with rfl | ⟨c, hc, rfl⟩
  · exact ⟨h, hlisted⟩
  · exact ⟨h.call hc, hlisted.congr rfl rfl⟩

theorem traced_probeBaseline (h : Traced session legacyKeyOf budgets st.registry st.calls)
    (hlisted : Listed st) :
    Traced session legacyKeyOf budgets (probeBaseline session st).registry
        (probeBaseline session st).calls ∧ Listed (probeBaseline session st) := by
  have hcollected := traced_of_spec h hlisted (collectBaselineStates_spec session st)
  unfold probeBaseline
  split
  · rename_i states collected heq
    rw [heq] at hcollected
    obtain ⟨hregistry, hnavigation⟩ := foldl_collect_eq states collected
    rw [hregistry, calls_foldl_collect]
    exact ⟨hcollected.1, hcollected.2.congr hnavigation (by rw [hregistry])⟩
  · rename_i error collected heq
    rw [heq] at hcollected
    exact ⟨hcollected.1, hcollected.2.congr rfl rfl⟩

/-- Nothing was handed over, and the registry is new. -/
theorem traced_new (session : BrowserSession) (key : Json → Option String)
    (maxActionsPerPage : Int) :
    Traced session key (newRegistry maxActionsPerPage).budgets (newRegistry maxActionsPerPage) [] :=
  ⟨⟨[], NavigationTargetRegistry.sound_new _ _ _ _⟩, rfl, .nil,
    fun _ htarget => absurd htarget List.not_mem_nil⟩

theorem listed_new (maxActionsPerPage : Int) :
    Listed { registry := newRegistry maxActionsPerPage } :=
  ⟨rfl, fun _ htarget => absurd htarget List.not_mem_nil⟩

theorem traced_probeLegacy (hperforms : session.performStateProbeAction ≠ none)
    (maxActionsPerPage : Int) :
    Traced session legacyKeyOf (newRegistry maxActionsPerPage).budgets
        (probeLegacy session maxActionsPerPage).registry
        (probeLegacy session maxActionsPerPage).calls ∧
      Listed (probeLegacy session maxActionsPerPage) := by
  have hbaseline := traced_probeBaseline
    (@traced_new session legacyKeyOf maxActionsPerPage : Traced session legacyKeyOf _
      ({ registry := newRegistry maxActionsPerPage } : ProbeState).registry
      ({ registry := newRegistry maxActionsPerPage } : ProbeState).calls)
    (listed_new maxActionsPerPage)
  have hcollected := traced_of_spec hbaseline.1 hbaseline.2 (collectActions_spec session _)
  unfold probeLegacy
  split
  · rename_i actions st heq
    rw [heq] at hcollected
    exact traced_foldl_probeAction hperforms actions st hcollected.1 hcollected.2
  · rename_i error st heq
    rw [heq] at hcollected
    exact ⟨hcollected.1, hcollected.2.congr rfl rfl⟩

theorem perm_filterMap_listed (targets : List NavigationTarget) (l : List ListedTarget) :
    (l.filterMap fun listed =>
      match listed with
      | .taken place => targets[place]?
      | .refused target => some target).Perm
      ((l.filterMap ListedTarget.place?).filterMap (fun place => targets[place]?) ++
        l.filterMap ListedTarget.refused?) := by
  induction l with
  | nil => exact List.Perm.refl _
  | cons listed l ih =>
    cases listed with
    | taken place =>
      simp only [List.filterMap_cons, ListedTarget.place?, ListedTarget.refused?]
      cases targets[place]? with
      | none => exact ih
      | some target => exact ih.cons target
    | refused target =>
      simp only [List.filterMap_cons, ListedTarget.place?, ListedTarget.refused?]
      exact (ih.cons target).trans List.perm_middle.symm

/-- The listed targets are those of the registry and the refused ones. -/
theorem Listed.perm (h : Listed st) : (listedTargets st).Perm
    (st.registry.targets ++ st.navigationTargets.filterMap ListedTarget.refused?) := by
  have hperm := perm_filterMap_listed st.registry.targets st.navigationTargets
  rw [h.places, filterMap_range_getElem?] at hperm
  exact hperm

end Legacy

/-! ## Every extraction -/

/-- The budgets of the targets of an extraction, whose actions are budgeted with them. -/
structure WithinBudgets (maxActionsPerPage : Int) (targets : List NavigationTarget) : Prop where
  once : (targets.map (·.dedupeKey)).Nodup
  total : (targets.length : Int) ≤ max 8 (max 1 maxActionsPerPage * 8)
  perRoute : ∀ route, ((targets.filterMap (·.routeHint)).count route : Int) ≤
    max 1 maxActionsPerPage
  perKind : ∀ kind, ((targets.map (·.targetKind)).count kind : Int) ≤
    max 4 (max 1 maxActionsPerPage * 4)
  perParent : ∀ parent, ((targets.filterMap (·.parentTargetKey)).count parent : Int) ≤
    max 4 (max 1 maxActionsPerPage * 4)

theorem Traced.withinBudgets {session : BrowserSession} {key : Json → Option String}
    {maxActionsPerPage : Int} {registry : NavigationTargetRegistry} {calls : List SessionCall}
    (h : Traced session key (newRegistry maxActionsPerPage).budgets registry calls) :
    WithinBudgets maxActionsPerPage registry.targets := by
  obtain ⟨history, hsound⟩ := h.sound
  obtain ⟨htotal, hbudgets⟩ := Prod.mk.inj h.budgets
  obtain ⟨hroute, hbudgets⟩ := Prod.mk.inj hbudgets
  obtain ⟨hkind, hparent⟩ := Prod.mk.inj hbudgets
  have htotal' := hsound.total
  have hroute' := hsound.perRoute
  have hkind' := hsound.perKind
  have hparent' := hsound.perParent
  rw [htotal] at htotal'
  rw [hroute] at hroute'
  rw [hkind] at hkind'
  rw [hparent] at hparent'
  simp only [newRegistry, NavigationTargetRegistry.new] at htotal' hroute' hkind' hparent'
  refine ⟨hsound.keysNodup, by omega, fun route => ?_, fun kind => ?_, fun parent => ?_⟩
  · have hle := hroute' route
    unfold NavigationTargetRegistry.routes at hle
    omega
  · have hle := hkind' kind
    unfold NavigationTargetRegistry.kinds at hle
    omega
  · have hle := hparent' parent
    unfold NavigationTargetRegistry.parents at hle
    omega

/-- The key of an action: on the older path that of the target made of it. -/
def actionKey (session : BrowserSession) (pageCandidates : List PageCandidate)
    (navigationTargets : List Json) : Json → Option String :=
  if (PageDiscovery.buildPageVisitTargets pageCandidates navigationTargets).isEmpty ||
      session.visitPageTarget.isNone then
    legacyKeyOf
  else targetKeyOf

theorem listed_of_extractionResult {session : BrowserSession} {st : ProbeState}
    {targets : List NavigationTarget} {result : CrawlExtractionResult}
    {records : List NavigationTargetResult}
    (h : extractionResult session st targets = .ok (result, records)) :
    targets.mapM NavigationTargetResult.modelValidate = .ok records := by
  unfold extractionResult at h
  cases hrecords : targets.mapM NavigationTargetResult.modelValidate with
  | error error =>
    rw [hrecords] at h
    cases h
  | ok read =>
    rw [hrecords] at h
    rw [(Prod.mk.inj (Except.ok.inj h)).2]

/-- What the outcome of an extraction has to do with its session: the targets that were taken stand
beside the answers and keep the budgets, and the result lists them with refused ones only. -/
structure ExtractionTrace (session : BrowserSession) (maxActionsPerPage : Int)
    (pageCandidates : List PageCandidate) (navigationTargets : List Json)
    (taken refused : List NavigationTarget) : Prop where
  recorded : List.Forall₂ (Recorded (actionKey session pageCandidates navigationTargets))
    (answers session (extract session maxActionsPerPage pageCandidates navigationTargets).2) taken
  budgets : WithinBudgets maxActionsPerPage taken
  refusals : ∀ target ∈ refused, IsRefused target
  listed : ∀ result records,
    (extract session maxActionsPerPage pageCandidates navigationTargets).1 =
        .ok (result, records) →
      ∃ listed : List NavigationTarget, listed.Perm (taken ++ refused) ∧
        listed.mapM NavigationTargetResult.modelValidate = .ok records

/-- **An extraction says of each action what the session answered.** -/
theorem exists_extractionTrace {session : BrowserSession}
    (hperforms : session.performStateProbeAction ≠ none) (maxActionsPerPage : Int)
    (pageCandidates : List PageCandidate) (navigationTargets : List Json) :
    ∃ taken refused, ExtractionTrace session maxActionsPerPage pageCandidates navigationTargets
      taken refused := by
  by_cases hpath : ((PageDiscovery.buildPageVisitTargets pageCandidates navigationTargets).isEmpty ||
      session.visitPageTarget.isNone) = true
  · have hkey : actionKey session pageCandidates navigationTargets = legacyKeyOf := if_pos hpath
    have hextract : extract session maxActionsPerPage pageCandidates navigationTargets =
        (extractionResult session (probeLegacy session maxActionsPerPage)
          (listedTargets (probeLegacy session maxActionsPerPage)),
            (probeLegacy session maxActionsPerPage).calls) := if_pos hpath
    obtain ⟨htraced, hlisted⟩ := traced_probeLegacy hperforms maxActionsPerPage
    refine ⟨_, _, ?_, htraced.withinBudgets, hlisted.refused, ?_⟩
    · rw [hkey, hextract]
      exact htraced.recorded
    · rw [hextract]
      exact fun result records h => ⟨_, hlisted.perm, listed_of_extractionResult h⟩
  · have hkey : actionKey session pageCandidates navigationTargets = targetKeyOf := if_neg hpath
    have htraced := traced_probePages hperforms navigationTargets
      (PageDiscovery.buildPageVisitTargets pageCandidates navigationTargets)
      { registry := newRegistry maxActionsPerPage }
      (traced_new session targetKeyOf maxActionsPerPage)
    cases hprobed : probePages session navigationTargets
        (PageDiscovery.buildPageVisitTargets pageCandidates navigationTargets)
        { registry := newRegistry maxActionsPerPage } with
    | mk outcome st =>
      rw [hprobed] at htraced
      refine ⟨st.registry.targets, st.registry.rejectedTargets, ?_, htraced.withinBudgets,
        htraced.refused, ?_⟩
      · have hcalls : (extract session maxActionsPerPage pageCandidates navigationTargets).2 =
            st.calls := by
          rw [extract, if_neg hpath, hprobed]
          cases outcome <;> rfl
        rw [hkey, hcalls]
        exact htraced.recorded
      · intro result records h
        rw [extract, if_neg hpath, hprobed] at h
        cases outcome with
        | error message => cases h
        | ok _ => exact ⟨_, List.Perm.refl _, listed_of_extractionResult h⟩

/-- A session that shows the users and performs everything. -/
def performing : BrowserSession :=
  { showing (.str "/users") with performStateProbeAction := some fun _ _ => .ok (.obj []) }

theorem exists_extractionTrace_filters : ∃ taken refused,
    ExtractionTrace performing 6 [{ routePath := "/users" }] [filterRecord] taken refused :=
  exists_extractionTrace (Option.some_ne_none _) 6 _ _

end StateProbe
end Runlet
