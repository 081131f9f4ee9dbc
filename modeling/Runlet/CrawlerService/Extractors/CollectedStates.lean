import Runlet.CrawlerService.Extractors.ProbeTrace
import Runlet.CrawlerService.Extractors.StateSeparation

/-!
# The states an extraction collects

An extraction of the state probe keeps elements and signatures, not states.  `CollectedOf` tells of
which states they are: states that answers of the session show, with elements and with different
signatures, whose elements are kept one state after the other.  Collecting one more state keeps it,
and so does every turn of either loop (`collects_probeLegacy`, `collects_probePages`).
-/

namespace Runlet
namespace StateProbe

/-! ## What the session shows -/

/-- The signature of a state, when it is named. -/
def signatureOf (state : Json) : Option String :=
  (identityOf state).map fun identity => buildStateSignature identity.1 identity.2

/-- A state that the answer to a call shows: one of the states without any action, the page that is
visited, or what an action led to. -/
inductive ShownBy (session : BrowserSession) (before : List SessionCall) :
    SessionCall → Json → Prop
  | baseline {st : ProbeState} {c : SessionCall} {states : List Json} {state : Json}
      (hcalls : st.calls = before)
      (hanswer : collectBaselineStates session st = (.ok states, st.call c))
      (hstate : state ∈ states) : ShownBy session before c state
  | page {st : ProbeState} {c : SessionCall} {pageTarget : NavigationTarget} {pageContext : Json}
      (hcalls : st.calls = before)
      (hanswer : visitPageTarget session st pageTarget = (.ok pageContext, st.call c)) :
      ShownBy session before c (toPageContextState pageContext pageTarget.routeHint)
  | action {c : SessionCall} {action payload : Json}
      (hanswer : answerOf session before c = some (action, .ok payload))
      (happlied : actionPayloadApplied payload = true) (defaultRoute : Json)
      (pageContext : Option Json) :
      ShownBy session before c (toStatePayload defaultRoute action payload pageContext)

/-- A state that an answer shows.  To a session that performs no actions an action stands for what
it leads to. -/
def Shown (session : BrowserSession) (calls : List SessionCall) (state : Json) : Prop :=
  (∃ before c after, calls = before ++ c :: after ∧ ShownBy session before c state) ∨
    session.performStateProbeAction = none ∧ ∃ defaultRoute action pageContext,
      state = toStatePayload defaultRoute action action pageContext

/-- The states of which something was collected, in order. -/
structure CollectedOf (session : BrowserSession) (calls : List SessionCall) (states : List Json)
    (collected : Collected) : Prop where
  shown : ∀ state ∈ states, Shown session calls state
  signatures : states.map signatureOf = collected.visitedSignatures.map some
  nodup : collected.visitedSignatures.Nodup
  elements : collected.elements = states.flatMap elementsOf
  nonempty : ∀ state ∈ states, elementsOf state ≠ []

theorem CollectedOf.nodup_signatures {session : BrowserSession} {calls : List SessionCall}
    {states : List Json} {collected : Collected}
    (h : CollectedOf session calls states collected) : (states.map signatureOf).Nodup := by
  rw [h.signatures]
  exact h.nodup.map (Option.some_injective _)

/-- What was collected so far is of states that were shown so far. -/
def Collects (session : BrowserSession) (st : ProbeState) : Prop :=
  ∃ states, CollectedOf session st.calls states st.collected

section Steps

variable {session : BrowserSession} {st st' : ProbeState} {calls calls' : List SessionCall}
  {state : Json}

theorem Shown.append (h : Shown session calls state) : Shown session (calls ++ calls') state := by
  rcases h with ⟨before, c, after, rfl, hshown⟩ | hself
  · refine Or.inl ⟨before, c, after ++ calls', ?_, hshown⟩
    rw [List.append_assoc, List.cons_append]
  · exact Or.inr hself

theorem Shown.last {c : SessionCall} (h : ShownBy session calls c state) :
    Shown session (calls ++ [c]) state :=
  Or.inl ⟨calls, c, [], rfl, h⟩

/-- Calls alone, and warnings, take nothing away. -/
theorem Collects.mono (h : Collects session st) (hcalls : st.calls <+: st'.calls)
    (helements : st'.collected.elements = st.collected.elements)
    (hvisited : st'.collected.visitedSignatures = st.collected.visitedSignatures) :
    Collects session st' := by
  obtain ⟨states, hstates⟩ := h
  obtain ⟨later, hlater⟩ := hcalls
  refine ⟨states, fun state hstate => ?_, ?_, ?_, ?_, hstates.nonempty⟩
  · rw [← hlater]
    exact (hstates.shown state hstate).append
  · rw [hvisited]
    exact hstates.signatures
  · rw [hvisited]
    exact hstates.nodup
  · rw [helements]
    exact hstates.elements

theorem Collects.call (h : Collects session st) (c : SessionCall) : Collects session (st.call c) :=
  h.mono (List.prefix_append _ _) rfl rfl

theorem Collects.withRegistry (h : Collects session st) (registry : NavigationTargetRegistry) :
    Collects session { st with registry := registry } :=
  h.mono List.prefix_rfl rfl rfl

theorem Collects.list (h : Collects session st) (target : ListedTarget) :
    Collects session (st.list target) :=
  h.mono List.prefix_rfl rfl rfl

theorem Collects.warn (h : Collects session st) (reason : String) :
    Collects session (st.warn reason) :=
  h.mono List.prefix_rfl rfl rfl

theorem Collects.warnRefused (h : Collects session st) (reason : Option String) :
    Collects session (st.warnRefused reason) := by
  unfold ProbeState.warnRefused
  split
  · exact h.warn _
  · split_ifs
    · exact (h.warn _).warn _
    · exact h
  · exact h

/-- **One more state.**  It is passed over when its signature was collected before, or when it has
no elements. -/
theorem Collects.collect (h : Collects session st) (hshown : Shown session st.calls state) :
    Collects session (st.collect state) := by
  obtain ⟨states, hstates⟩ := h
  unfold ProbeState.collect Collected.collectStateElements
  cases hidentity : identityOf state with
  | none => exact ⟨states, hstates⟩
  | some identity =>
    obtain ⟨routePath, stateContext⟩ := identity
    dsimp only
    have helements : elementsOf state = stateElements routePath stateContext state := by
      rw [elementsOf, hidentity]
    split_ifs with hvisited hempty
    · exact ⟨states, hstates.shown, hstates.signatures, hstates.nodup, hstates.elements,
        hstates.nonempty⟩
    · exact ⟨states, hstates⟩
    · refine ⟨states ++ [state], ?_, ?_, ?_, ?_, ?_⟩
      · rw [List.forall_mem_append, List.forall_mem_singleton]
        exact ⟨hstates.shown, hshown⟩
      · rw [List.map_append, List.map_append, hstates.signatures, List.map_singleton,
          List.map_singleton, signatureOf, hidentity, Option.map_some]
      · rw [← List.concat_eq_append]
        exact hstates.nodup.concat hvisited
      · dsimp only
        rw [hstates.elements, List.flatMap_append, List.flatMap_singleton, helements]
      · rw [List.forall_mem_append, List.forall_mem_singleton, helements]
        exact ⟨hstates.nonempty, fun hnil => hempty (List.isEmpty_iff.mpr hnil)⟩

theorem Collects.foldl_collect (states : List Json) (h : Collects session st)
    (hshown : ∀ state ∈ states, Shown session st.calls state) :
    Collects session (states.foldl ProbeState.collect st) := by
  induction states generalizing st with
  | nil => exact h
  | cons state states ih =>
    obtain ⟨hstate, hstates⟩ := List.forall_mem_cons.mp hshown
    exact ih (h.collect hstate) hstates

end Steps

/-! ## The turns of the loops -/

section Turns

variable {session : BrowserSession} {st : ProbeState}

/-- What an action leads to is shown, if it is performed at all. -/
def Answered (session : BrowserSession) (action : Json)
    (performed : Except SessionError Json × ProbeState) : Prop :=
  Collects session performed.2 ∧ ∀ payload, performed.1 = .ok payload →
    actionPayloadApplied payload = true → ∀ defaultRoute pageContext,
      Shown session performed.2.calls (toStatePayload defaultRoute action payload pageContext)

theorem answered_call (h : Collects session st) {c : SessionCall} {action : Json}
    {answer : Except SessionError Json}
    (hanswer : answerOf session st.calls c = some (action, answer)) :
    Answered session action (answer, st.call c) := by
  refine ⟨h.call c, ?_⟩
  rintro payload rfl happlied defaultRoute pageContext
  exact Shown.last (.action hanswer happlied defaultRoute pageContext)

theorem answered_performAction (h : Collects session st) (action : Json) :
    Answered session action (performAction session st action) := by
  cases hexecutor : session.performStateProbeAction with
  | some executor =>
    obtain ⟨answer, hperformed, hanswer⟩ := @performAction_spec session st (by simp [hexecutor])
      action
    rw [hperformed]
    exact answered_call h hanswer
  | none =>
    unfold performAction
    rw [hexecutor]
    refine ⟨h, ?_⟩
    rintro payload ⟨⟩ - defaultRoute pageContext
    exact Or.inr ⟨hexecutor, defaultRoute, action, pageContext, rfl⟩

theorem answered_performNavigationTarget (h : Collects session st) (target pageContext : Json) :
    Answered session target (performNavigationTarget session st target pageContext) := by
  unfold performNavigationTarget
  cases hexecutor : session.performNavigationTarget with
  | none => exact answered_performAction h target
  | some executor =>
    refine answered_call h (c := .performNavigation target pageContext) ?_
    rw [answerOf, hexecutor]
    rfl

theorem collects_settleAction (place : ℕ) (routePath : String) {action : Json}
    {performed : Except SessionError Json × ProbeState}
    (h : Answered session action performed) :
    Collects session (settleAction place routePath action performed) := by
  obtain ⟨answer, performed⟩ := performed
  obtain ⟨hcollects, hshown⟩ := h
  unfold settleAction
  cases answer with
  | error error =>
    cases error with
    | permission => exact hcollects.mono List.prefix_rfl rfl rfl
    | other => exact hcollects.mono List.prefix_rfl rfl rfl
  | ok payload =>
    dsimp only
    split_ifs with happlied
    · exact hcollects.mono List.prefix_rfl rfl rfl
    · refine Collects.collect (hcollects.mono List.prefix_rfl rfl rfl) ?_
      exact hshown payload rfl (by simpa using happlied) _ _

theorem collects_settleTarget (place : ℕ) (defaultRoute : Json) {action : Json} (pageContext : Json)
    {performed : Except SessionError Json × ProbeState}
    (h : Answered session action performed) :
    Collects session (settleTarget place defaultRoute action pageContext performed) := by
  obtain ⟨answer, performed⟩ := performed
  obtain ⟨hcollects, hshown⟩ := h
  unfold settleTarget
  cases answer with
  | error error =>
    cases error with
    | permission => exact hcollects.mono List.prefix_rfl rfl rfl
    | other => exact hcollects.mono List.prefix_rfl rfl rfl
  | ok payload =>
    dsimp only
    split_ifs with happlied hdetail
    · exact hcollects.mono List.prefix_rfl rfl rfl
    · exact hcollects.mono List.prefix_rfl rfl rfl
    · refine Collects.collect (hcollects.mono List.prefix_rfl rfl rfl) ?_
      exact hshown payload rfl (by simpa using happlied) _ _

/-- **One turn of the older path.** -/
theorem collects_probeAction (h : Collects session st) (action : Json) :
    Collects session (probeAction session st action) := by
  unfold probeAction
  split
  · exact h
  · split
    · exact h.warn _
    · dsimp only
      split_ifs
      · exact (h.list _).warn _
      · exact ((h.withRegistry _).list _).warnRefused _
      · exact collects_settleAction _ _ (answered_performAction (h.withRegistry _) action)
      · exact h.warn _

theorem collects_foldl_probeAction (actions : List Json) (h : Collects session st) :
    Collects session (actions.foldl (probeAction session) st) :=
  List.foldlRecOn actions _ h fun _ hst action _ => collects_probeAction hst action

theorem collectBaselineStates_eq (session : BrowserSession) (st : ProbeState) :
    collectBaselineStates session st = (.ok [], st) ∨
      ∃ c answer, collectBaselineStates session st = (answer, st.call c) := by
  unfold collectBaselineStates
  cases session.collectStateProbeBaseline with
  | some collector => exact Or.inr ⟨_, _, rfl⟩
  | none =>
    cases session.collectDomElements with
    | some collector => exact Or.inr ⟨_, _, rfl⟩
    | none => exact Or.inl rfl

theorem collects_probeBaseline (h : Collects session st) :
    Collects session (probeBaseline session st) := by
  unfold probeBaseline
  rcases collectBaselineStates_eq session st with heq | ⟨c, answer, heq⟩
  · rw [heq]
    exact h
  · rw [heq]
    cases answer with
    | error error => exact (h.call c).warn _
    | ok states =>
      exact Collects.foldl_collect states (h.call c) fun state hstate =>
        Shown.last (.baseline rfl heq hstate)

theorem collects_collectActions (h : Collects session st) :
    Collects session (collectActions session st).2 := by
  rcases collectActions_spec session st with heq | ⟨c, -, heq⟩
  · rw [heq]
    exact h
  · rw [heq]
    exact h.call c

/-- Nothing was collected. -/
theorem collects_new (session : BrowserSession) (registry : NavigationTargetRegistry) :
    Collects session { registry := registry } :=
  ⟨[], fun _ hstate => absurd hstate List.not_mem_nil, rfl, List.nodup_nil, rfl,
    fun _ hstate => absurd hstate List.not_mem_nil⟩

/-- **The older path.** -/
theorem collects_probeLegacy (session : BrowserSession) (maxActionsPerPage : Int) :
    Collects session (probeLegacy session maxActionsPerPage) := by
  have hactions := collects_collectActions
    (collects_probeBaseline (collects_new session (newRegistry maxActionsPerPage)))
  unfold probeLegacy
  split
  · rename_i actions st heq
    rw [heq] at hactions
    exact collects_foldl_probeAction actions hactions
  · rename_i error st heq
    rw [heq] at hactions
    exact hactions.warn _

/-- **One turn of the loop over the state targets.** -/
theorem collects_probeTarget (h : Collects session st) (pageTarget : NavigationTarget)
    (pageContext baselineState : Json) (target : NavigationTarget) :
    Collects session (probeTarget session pageTarget pageContext baselineState st target) := by
  unfold probeTarget
  dsimp only
  split_ifs
  · exact (h.withRegistry _).warnRefused _
  · exact collects_settleTarget _ _ _ (answered_performNavigationTarget (h.withRegistry _) _ _)

theorem collects_foldl_probeTarget (pageTarget : NavigationTarget)
    (pageContext baselineState : Json) (targets : List NavigationTarget)
    (h : Collects session st) :
    Collects session
      (targets.foldl (probeTarget session pageTarget pageContext baselineState) st) :=
  List.foldlRecOn targets _ h fun _ hst target _ => collects_probeTarget hst _ _ _ target

theorem visitPageTarget_eq (hvisits : session.visitPageTarget ≠ none) (st : ProbeState)
    (pageTarget : NavigationTarget) :
    ∃ c answer, visitPageTarget session st pageTarget = (answer, st.call c) := by
  obtain ⟨visitor, hvisitor⟩ := Option.ne_none_iff_exists'.mp hvisits
  unfold visitPageTarget
  rw [hvisitor]
  exact ⟨_, _, rfl⟩

/-- **One turn of the loop over the pages.** -/
theorem collects_probePage (hvisits : session.visitPageTarget ≠ none) (h : Collects session st)
    (navigationTargets : List Json) (pageTarget : NavigationTarget) :
    Collects session (probePage session navigationTargets st pageTarget).2 := by
  obtain ⟨c, answer, heq⟩ := visitPageTarget_eq hvisits st pageTarget
  unfold probePage
  rw [heq]
  cases answer with
  | error error => exact (h.call c).warn _
  | ok pageContext =>
    dsimp only
    have hpage : Collects session (ProbeState.collect
        { st.call c with
          collected := { (st.call c).collected with
            warnings := appendWarnings (st.call c).collected.warnings
              (pageContext.get? "warning_messages") } }
        (toPageContextState pageContext pageTarget.routeHint)) :=
      Collects.collect ((h.call c).mono List.prefix_rfl rfl rfl) (Shown.last (.page rfl heq))
    split
    · exact hpage
    · exact collects_foldl_probeTarget _ _ _ _ hpage

theorem collects_probePages (hvisits : session.visitPageTarget ≠ none)
    (navigationTargets : List Json) (pageTargets : List NavigationTarget)
    (h : Collects session st) :
    Collects session (probePages session navigationTargets pageTargets st).2 := by
  induction pageTargets generalizing st with
  | nil => exact h
  | cons pageTarget pageTargets ih =>
    have hprobed := collects_probePage hvisits h navigationTargets pageTarget
    unfold probePages
    split
    · rename_i message probed heq
      rw [heq] at hprobed
      exact hprobed
    · rename_i probed heq
      rw [heq] at hprobed
      exact ih hprobed

end Turns

/-! ## A whole extraction -/

section Extraction

variable {session : BrowserSession} {maxActionsPerPage : Int} {pageCandidates : List PageCandidate}
  {navigationTargets : List Json} {result : CrawlExtractionResult}
  {records : List NavigationTargetResult}

/-- What an extraction returns is made of the state in which its loop ends. -/
theorem exists_extractionResult
    (h : (extract session maxActionsPerPage pageCandidates navigationTargets).1 =
      .ok (result, records)) :
    ∃ st targets, Collects session st ∧
      (extract session maxActionsPerPage pageCandidates navigationTargets).2 = st.calls ∧
      extractionResult session st targets = .ok (result, records) := by
  unfold extract at h ⊢
  dsimp only at h ⊢
  split_ifs at h ⊢ with hpath
  · exact ⟨_, _, collects_probeLegacy session maxActionsPerPage, rfl, h⟩
  · have hvisits : session.visitPageTarget ≠ none := fun hnone => hpath (by simp [hnone])
    have hcollects := collects_probePages hvisits navigationTargets
      (PageDiscovery.buildPageVisitTargets pageCandidates navigationTargets)
      (collects_new session (newRegistry maxActionsPerPage))
    split at h
    · cases h
    · rename_i st heq
      rw [heq] at hcollects
      exact ⟨_, _, hcollects, rfl, h⟩

/-- **The elements of an extraction are those of the states it collected.** -/
theorem exists_collectedOf
    (h : (extract session maxActionsPerPage pageCandidates navigationTargets).1 =
      .ok (result, records)) :
    ∃ states visited, CollectedOf session
      (extract session maxActionsPerPage pageCandidates navigationTargets).2 states
      { elements := result.elements
        warnings := result.warningMessages
        visitedSignatures := visited } := by
  obtain ⟨st, targets, ⟨states, hstates⟩, hcalls, hresult⟩ := exists_extractionResult h
  unfold extractionResult at hresult
  split at hresult
  · cases hresult
  · cases hresult
    rw [hcalls]
    exact ⟨states, st.collected.visitedSignatures, hstates⟩

/-- The state probe finds no pages of its own. -/
theorem pages_of_extract
    (h : (extract session maxActionsPerPage pageCandidates navigationTargets).1 =
      .ok (result, records)) : result.pages = [] := by
  obtain ⟨st, targets, -, -, hresult⟩ := exists_extractionResult h
  unfold extractionResult at hresult
  split at hresult
  · cases hresult
  · cases hresult
    rfl

end Extraction

/-! ## The elements of a state -/

/-- The context of a state, as its elements carry it. -/
def contextJson (stateContext : List (String × Json)) : Option Json :=
  if stateContext.isEmpty then none else some (.obj stateContext)

/-- An element carries the route, the signature and the context of its state. -/
theorem element_of_state {state : Json} {routePath : String} {stateContext : List (String × Json)}
    (hidentity : identityOf state = some (routePath, stateContext)) {element : ElementCandidate}
    (h : element ∈ elementsOf state) :
    element.pageRoutePath = routePath ∧
      element.stateSignature = some (buildStateSignature routePath stateContext) ∧
      element.stateContext = contextJson stateContext := by
  rw [elementsOf, hidentity] at h
  obtain ⟨rawElement, -, helement⟩ := List.mem_filterMap.mp h
  obtain ⟨elementType, -, rfl⟩ := Option.map_eq_some_iff.mp helement
  exact ⟨rfl, rfl, rfl⟩

theorem exists_identityOf {state : Json} {element : ElementCandidate}
    (h : element ∈ elementsOf state) :
    ∃ routePath stateContext, identityOf state = some (routePath, stateContext) := by
  cases hidentity : identityOf state with
  | none =>
    rw [elementsOf, hidentity] at h
    exact absurd h List.not_mem_nil
  | some identity => exact ⟨identity.1, identity.2, rfl⟩

/-- The names of a context are different. -/
theorem nodup_names_normalizeStateContext (value : Json) :
    ((NavigationTargets.normalizeStateContext value).map Prod.fst).Nodup := by
  unfold NavigationTargets.normalizeStateContext
  refine List.foldlRecOn _ _ (motive := fun context : List (String × Json) =>
    (context.map Prod.fst).Nodup) List.nodup_nil fun context hcontext e _ => ?_
  split
  · exact Json.nodup_names_put hcontext _ _
  · exact hcontext

theorem nodup_names_of_identityOf {state : Json} {routePath : String}
    {stateContext : List (String × Json)}
    (h : identityOf state = some (routePath, stateContext)) :
    (stateContext.map Prod.fst).Nodup := by
  obtain ⟨route, -, heq⟩ := Option.map_eq_some_iff.mp h
  rw [← (Prod.mk.inj heq).2]
  exact nodup_names_normalizeStateContext _

end StateProbe
end Runlet
