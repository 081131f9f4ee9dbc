import Runlet.CrawlerService.Extractors.StateProbe
import Runlet.Library.JsonReading
import Runlet.Library.LowerCase

/-!
# What a probe hands over

Which actions an extraction hands to the session.  On the older path each action has passed the
check of its kind and of its mark.  On the other path an action is made of a state target, and is
permitted when the kind of the target is allowed; the kinds of navigation targets are not looked at.
-/

namespace Runlet
namespace StateProbe

open NavigationTargets (normalizeText)

/-! ## What is handed over -/

/-- Each action that was handed over is of a kind. -/
def HandedOnly (P : Json → Prop) (calls : List SessionCall) : Prop :=
  ∀ c ∈ calls, ∀ action ∈ c.handed, P action

section Calls

variable {P : Json → Prop} {session : BrowserSession} {st : ProbeState}

theorem HandedOnly.append {calls : List SessionCall} (h : HandedOnly P calls) {c : SessionCall}
    (hc : ∀ action ∈ c.handed, P action) : HandedOnly P (calls ++ [c]) := by
  intro d hd
  rcases List.mem_append.mp hd with hd | hd
  · exact h d hd
  · rw [List.mem_singleton.mp hd]
    exact hc

theorem HandedOnly.append_none {calls : List SessionCall} (h : HandedOnly P calls)
    {c : SessionCall} (hc : c.handed = none) : HandedOnly P (calls ++ [c]) := by
  refine h.append fun action haction => ?_
  rw [hc] at haction
  cases haction

@[simp] theorem calls_warnRefused (reason : Option String) :
    (st.warnRefused reason).calls = st.calls := by
  unfold ProbeState.warnRefused
  split
  · rfl
  · split_ifs <;> rfl
  · rfl

theorem handedOnly_performAction {action : Json} (h : HandedOnly P st.calls) (haction : P action) :
    HandedOnly P (performAction session st action).2.calls := by
  unfold performAction
  cases session.performStateProbeAction with
  | none => exact h
  | some executor =>
    refine h.append fun handed hhanded => ?_
    rw [← Option.some.inj hhanded]
    exact haction

theorem handedOnly_performNavigationTarget {target pageContext : Json}
    (h : HandedOnly P st.calls) (htarget : P target) :
    HandedOnly P (performNavigationTarget session st target pageContext).2.calls := by
  unfold performNavigationTarget
  cases session.performNavigationTarget with
  | none => exact handedOnly_performAction h htarget
  | some executor =>
    refine h.append fun handed hhanded => ?_
    rw [← Option.some.inj hhanded]
    exact htarget

/-! ## The older path -/

/-- The action is of a kind that may be performed, and is not marked as blocked. -/
structure IsPermitted (action : Json) : Prop where
  allowed : ∃ entryType ∈ normalizeEntryType
    (Json.orElse (action.get? "entry_type") (action.get? "interaction_type")),
      entryType ∈ allowedStateProbeActions
  unblocked : isPermissionBlocked action = false

theorem calls_settleAction (place : ℕ) (routePath : String) (action : Json)
    (performed : Except SessionError Json × ProbeState) :
    (settleAction place routePath action performed).calls = performed.2.calls := by
  unfold settleAction
  split
  · rfl
  · rfl
  · split_ifs
    · rfl
    · rfl

/-- **An action is looked at before it is performed.** -/
theorem handedOnly_probeAction {action : Json} (h : HandedOnly P st.calls)
    (haction : IsPermitted action → P action) :
    HandedOnly P (probeAction session st action).calls := by
  unfold probeAction
  cases routePathOf
      (Json.orElse (action.get? "route_path") (action.get? "page_route_path")) with
  | none => exact h
  | some routePath =>
    cases htype : normalizeEntryType
        (Json.orElse (action.get? "entry_type") (action.get? "interaction_type")) with
    | none => exact h
    | some entryType =>
      dsimp only
      split_ifs with hallowed hblocked hrefused
      · exact h
      · rw [calls_warnRefused]
        exact h
      · rw [calls_settleAction]
        refine handedOnly_performAction h (haction ⟨⟨entryType, htype, hallowed⟩, ?_⟩)
        exact Bool.eq_false_iff.mpr hblocked
      · exact h

theorem handedOnly_collectBaselineStates (h : HandedOnly P st.calls) :
    HandedOnly P (collectBaselineStates session st).2.calls := by
  unfold collectBaselineStates
  cases session.collectStateProbeBaseline with
  | some collector => exact h.append_none rfl
  | none =>
    cases session.collectDomElements with
    | some collector => exact h.append_none rfl
    | none => exact h

theorem calls_foldl_collect (states : List Json) (st : ProbeState) :
    (states.foldl ProbeState.collect st).calls = st.calls := by
  induction states generalizing st with
  | nil => rfl
  | cons state states ih => exact ih (st.collect state)

theorem handedOnly_probeBaseline (h : HandedOnly P st.calls) :
    HandedOnly P (probeBaseline session st).calls := by
  have hcollected := @handedOnly_collectBaselineStates P session st h
  unfold probeBaseline
  split
  · rename_i states collected heq
    rw [heq] at hcollected
    rw [calls_foldl_collect]
    exact hcollected
  · rename_i error collected heq
    rw [heq] at hcollected
    exact hcollected

theorem handedOnly_collectActions (h : HandedOnly P st.calls) :
    HandedOnly P (collectActions session st).2.calls := by
  unfold collectActions
  cases session.collectStateProbeActions with
  | some collector => exact h.append_none rfl
  | none => exact h

theorem handedOnly_foldl_probeAction (actions : List Json) (st : ProbeState)
    (h : HandedOnly IsPermitted st.calls) :
    HandedOnly IsPermitted (actions.foldl (probeAction session) st).calls := by
  induction actions generalizing st with
  | nil => exact h
  | cons action actions ih => exact ih _ (handedOnly_probeAction h id)

/-- **The older path performs permitted actions only.** -/
theorem handedOnly_probeLegacy (session : BrowserSession) (maxActionsPerPage : Int) :
    HandedOnly IsPermitted (probeLegacy session maxActionsPerPage).calls := by
  have hstart : HandedOnly IsPermitted (probeBaseline session
      { registry := newRegistry maxActionsPerPage }).calls :=
    handedOnly_probeBaseline fun c hc => absurd hc List.not_mem_nil
  have hcollected := @handedOnly_collectActions IsPermitted session _ hstart
  unfold probeLegacy
  split
  · rename_i actions st heq
    rw [heq] at hcollected
    exact handedOnly_foldl_probeAction actions st hcollected
  · rename_i error st heq
    rw [heq] at hcollected
    exact hcollected

end Calls

/-! ## The kinds of state targets -/

/-- The navigation targets that become state targets on some route are of a kind that may be
performed. -/
def KindsAllowed (navigationTargets : List Json) : Prop :=
  ∀ value routePath, PageDiscovery.normalizeRoutePath value = some routePath →
    ∀ record ∈ navigationTargets, ∀ target ∈ discoveredTarget routePath record,
      target.targetKind ∈ allowedStateProbeActions

/-! ## Normal entry types -/

/-- Lower case with underscores is not changed by being made so again. -/
theorem replaceChar_lower_self (text : String) :
    Text.replaceChar '-' '_' (Text.lower (Text.replaceChar '-' '_' (Text.lower text))) =
      Text.replaceChar '-' '_' (Text.lower text) := by
  have hchars : ∀ c ∈ (Text.replaceChar '-' '_' (Text.lower text)).toList,
      Text.lowerChar c = [c] ∧ c ≠ '-' := by
    intro c hc
    rw [Text.toList_replaceChar, List.mem_map] at hc
    obtain ⟨d, hd, rfl⟩ := hc
    split_ifs with hdash
    · exact ⟨by decide, by decide⟩
    · exact ⟨Text.lowerChar_of_mem_lower hd, hdash⟩
  rw [Text.lower_eq_self fun c hc => (hchars c hc).1]
  exact Text.replaceChar_of_notMem fun hmem => (hchars '-' hmem).2 rfl

/-- **A normal entry type is normal.** -/
theorem normalizeEntryType_self {value : Option Json} {entryType : String}
    (h : normalizeEntryType value = some entryType) :
    normalizeText (.str entryType) = some entryType ∧
      normalizeEntryType (some (.str entryType)) = some entryType := by
  obtain ⟨text, htext, rfl⟩ := Option.map_eq_some_iff.mp h
  obtain ⟨v, -, hv⟩ := Option.bind_eq_some_iff.mp htext
  have hclean : Text.strip text = text ∧ text ≠ "" := by
    unfold normalizeText at hv
    split at hv
    · split_ifs at hv with hne
      rw [← Option.some.inj hv]
      exact ⟨Text.strip_strip _, hne⟩
    · cases hv
  have hstrip : Text.strip (Text.replaceChar '-' '_' (Text.lower text)) =
      Text.replaceChar '-' '_' (Text.lower text) :=
    Text.strip_replaceChar (fun _ => by decide) (Text.strip_lower hclean.1)
  have hne : Text.replaceChar '-' '_' (Text.lower text) ≠ "" :=
    Text.replaceChar_ne_empty (Text.lower_ne_empty hclean.2)
  have hnormal : normalizeText (.str (Text.replaceChar '-' '_' (Text.lower text))) =
      some (Text.replaceChar '-' '_' (Text.lower text)) := by
    rw [normalizeText, hstrip, if_neg hne]
  refine ⟨hnormal, ?_⟩
  rw [normalizeEntryType, cleanText, Option.bind_some, hnormal, Option.map_some,
    replaceChar_lower_self]

/-! ## The action of a target -/

/-- The entries that are not updated stay. -/
theorem get?_update_of_notMem {name : String} {other : List (String × Json)}
    (h : name ∉ other.map (·.1)) (base : List (String × Json)) :
    (Json.obj (update base other)).get? name = (Json.obj base).get? name := by
  induction other generalizing base with
  | nil => rfl
  | cons e other ih =>
    obtain ⟨hname, hother⟩ := not_or.mp (mt List.mem_cons.mpr h)
    exact (ih hother (Json.put base e.1 e.2)).trans (Json.get?_put_of_ne hname e.2)

/-- A typed record keeps the other fields of its record. -/
theorem get?_typedRecord {name : String} (h : name ∉ ["entry_type", "interaction_type"])
    (record : List (String × Json)) (entryType : Option String) :
    (Json.obj (typedRecord record entryType)).get? name = (Json.obj record).get? name := by
  cases entryType with
  | none => rfl
  | some entryType => exact get?_update_of_notMem h record

/-- The type of a typed record. -/
theorem get?_typedRecord_entryType (record : List (String × Json)) (entryType : String) :
    (Json.obj (typedRecord record (some entryType))).get? "entry_type" = some (.str entryType) := by
  have hne : ("entry_type" : String) ≠ "interaction_type" := by decide
  exact (Json.get?_put_of_ne hne _).trans (Json.get?_put_self record "entry_type" _)

theorem get?_typedRecord_interactionType (record : List (String × Json)) (entryType : String) :
    (Json.obj (typedRecord record (some entryType))).get? "interaction_type" =
      some (.str entryType) :=
  Json.get?_put_self _ "interaction_type" _

theorem get?_routedRecord {name : String}
    (h : name ∉ ["route_path", "page_route_path", "route_hint"]) (record : List (String × Json))
    (route : Option String) :
    (Json.obj (routedRecord record route)).get? name = (Json.obj record).get? name := by
  cases route with
  | none => rfl
  | some route => exact get?_update_of_notMem h record

/-- What is written into the record of a target to make an action of it. -/
def writtenFields : List String :=
  ["route_path", "page_route_path", "route_hint", "entry_type", "interaction_type",
    "state_context"]

theorem get?_buildNavigationActionPayload {name : String} (h : name ∉ writtenFields)
    (record : List (String × Json)) (routePath baseStateContext : Option Json) :
    (buildNavigationActionPayload record routePath baseStateContext).get? name =
      (Json.obj record).get? name := by
  have hroute : name ∉ ["route_path", "page_route_path", "route_hint"] :=
    fun hname => h (List.mem_append_left ["entry_type", "interaction_type", "state_context"] hname)
  have htype : name ∉ ["entry_type", "interaction_type"] := fun hname =>
    h (List.mem_append_right ["route_path", "page_route_path", "route_hint"]
      (List.mem_append_left ["state_context"] hname))
  have hcontext : name ≠ "state_context" := fun hname =>
    h (List.mem_append_right
      ["route_path", "page_route_path", "route_hint", "entry_type", "interaction_type"]
      (List.mem_singleton.mpr hname))
  exact (Json.get?_put_of_ne hcontext _).trans
    ((get?_typedRecord htype _ _).trans (get?_routedRecord hroute _ _))

/-- The fields of a record that the action of a target is looked at by. -/
theorem get?_toRecord (target : NavigationTarget) : ∀ name ∈ ["entry_type", "interaction_type",
    "blocked_by_permission", "permission_result"], (Json.obj (toRecord target)).get? name = none := by
  simp [toRecord, Json.get?]

/-- The action of a target has no mark, whatever the target was made of. -/
theorem isPermissionBlocked_targetAction (target : NavigationTarget)
    (baseStateContext : Option Json) :
    isPermissionBlocked (targetAction target baseStateContext) = false := by
  have hfree : ∀ name ∈ ["blocked_by_permission", "permission_result"], name ∉ writtenFields ∧
      name ∈ ["entry_type", "interaction_type", "blocked_by_permission", "permission_result"] := by
    decide
  have hnone : ∀ name ∈ ["blocked_by_permission", "permission_result"],
      (targetAction target baseStateContext).get? name = none := fun name hname =>
    (get?_buildNavigationActionPayload (hfree name hname).1 _ _ _).trans
      (get?_toRecord target name (hfree name hname).2)
  rw [isPermissionBlocked, hnone _ List.mem_cons_self,
    hnone _ (List.mem_cons_of_mem _ List.mem_cons_self)]
  rfl

/-- The type of the action of a target is its kind, when that is normal. -/
theorem actionType_targetAction {target : NavigationTarget}
    (h : normalizeEntryType (some (.str target.targetKind)) = some target.targetKind)
    (baseStateContext : Option Json) :
    normalizeEntryType (Json.orElse ((targetAction target baseStateContext).get? "entry_type")
      ((targetAction target baseStateContext).get? "interaction_type")) =
        some target.targetKind := by
  have hkind : (Json.obj (toRecord target)).get? "target_kind" = some (.str target.targetKind) := by
    simp [toRecord, Json.get?]
  have htype : normalizeEntryType (Json.orElse ((Json.obj (toRecord target)).get? "entry_type")
      (Json.orElse ((Json.obj (toRecord target)).get? "interaction_type")
        ((Json.obj (toRecord target)).get? "target_kind"))) = some target.targetKind := by
    rw [get?_toRecord target _ (by decide), get?_toRecord target _ (by decide), hkind]
    exact h
  have hentry : ("entry_type" : String) ≠ "state_context" := by decide
  have hinteraction : ("interaction_type" : String) ≠ "state_context" := by decide
  have hsame : ∀ value : Option Json, Json.orElse value value = value := fun value => ite_self value
  unfold targetAction buildNavigationActionPayload
  dsimp only
  rw [htype, Json.get?_put_of_ne hentry, Json.get?_put_of_ne hinteraction,
    get?_typedRecord_entryType, get?_typedRecord_interactionType, hsame]
  exact h

/-- **The action of a target is permitted exactly when its kind is allowed.** -/
theorem isPermitted_targetAction_iff {target : NavigationTarget}
    (h : normalizeEntryType (some (.str target.targetKind)) = some target.targetKind)
    (baseStateContext : Option Json) :
    IsPermitted (targetAction target baseStateContext) ↔
      target.targetKind ∈ allowedStateProbeActions := by
  have htype := actionType_targetAction h baseStateContext
  constructor
  · rintro ⟨⟨entryType, hentryType, hallowed⟩, -⟩
    rw [Option.mem_def, htype] at hentryType
    rw [Option.some.inj hentryType]
    exact hallowed
  · exact fun hallowed => ⟨⟨target.targetKind, htype, hallowed⟩,
      isPermissionBlocked_targetAction target baseStateContext⟩

theorem isPermitted_targetAction {target : NavigationTarget}
    (h : target.targetKind ∈ allowedStateProbeActions) (baseStateContext : Option Json) :
    IsPermitted (targetAction target baseStateContext) := by
  have hnormal : ∀ entryType ∈ allowedStateProbeActions,
      normalizeEntryType (some (.str entryType)) = some entryType := by
    decide +kernel
  exact (isPermitted_targetAction_iff (hnormal _ h) baseStateContext).mpr h

section Pages

variable {session : BrowserSession} {navigationTargets : List Json} {st : ProbeState}

theorem targetKind_of_derivedTarget {routePath : String} {rawElement : Json}
    {target : NavigationTarget} (h : derivedTarget routePath rawElement = .ok (some target)) :
    target.targetKind ∈ allowedStateProbeActions := by
  have hkept : ∀ entryType ∈ allowedStateProbeActions,
      (normalizeText (.str entryType)).getD "unknown" = entryType := by
    decide +kernel
  unfold derivedTarget at h
  split at h
  · cases h
  · rename_i entryType htype
    split_ifs at h with hallowed
    · cases hcontext : inferStateContextFromElement entryType rawElement with
      | error message =>
        rw [hcontext] at h
        cases h
      | ok stateContext =>
        rw [hcontext] at h
        have htarget := Except.ok.inj h
        dsimp only at htarget
        split_ifs at htarget
        rw [← Option.some.inj htarget]
        change (normalizeText (.str entryType)).getD "unknown" ∈ allowedStateProbeActions
        rw [hkept entryType hallowed]
        exact hallowed
    · cases h

/-! ## The path that visits pages first -/

theorem target_add_of_accepted {registry : NavigationTargetRegistry} {target : NavigationTarget}
    (h : (registry.add target).2.accepted = true) :
    (registry.add target).2.target = target.markQueued := by
  unfold NavigationTargetRegistry.add at h ⊢
  cases hkey : registry.targetsByKey.get? target.dedupeKey with
  | some place =>
    rw [hkey] at h
    cases h
  | none =>
    rw [hkey] at h
    dsimp only at h ⊢
    cases hbudget : registry.budgetRejectionReason target with
    | some reason =>
      rw [hbudget] at h
      cases h
    | none => rfl

theorem calls_settleTarget (place : ℕ) (defaultRoute action pageContext : Json)
    (performed : Except SessionError Json × ProbeState) :
    (settleTarget place defaultRoute action pageContext performed).calls = performed.2.calls := by
  unfold settleTarget
  split
  · rfl
  · rfl
  · dsimp only
    split_ifs
    · rfl
    · rfl
    · rfl

theorem handedOnly_probeTarget {P : Json → Prop} {pageTarget target : NavigationTarget}
    {pageContext baselineState : Json} (h : HandedOnly P st.calls)
    (htarget : ∀ baseStateContext, P (targetAction target.markQueued baseStateContext)) :
    HandedOnly P (probeTarget session pageTarget pageContext baselineState st target).calls := by
  unfold probeTarget
  dsimp only
  split_ifs with hrefused
  · rw [calls_warnRefused]
    exact h
  · have haccepted : (st.registry.add target).2.accepted = true := by
      simpa using hrefused
    rw [calls_settleTarget, target_add_of_accepted haccepted]
    exact handedOnly_performNavigationTarget h (htarget _)

theorem handedOnly_foldl_probeTarget {P : Json → Prop} (pageTarget : NavigationTarget)
    (pageContext baselineState : Json) (targets : List NavigationTarget)
    (htargets : ∀ target ∈ targets, ∀ baseStateContext,
      P (targetAction target.markQueued baseStateContext))
    (st : ProbeState) (h : HandedOnly P st.calls) : HandedOnly P
      (targets.foldl (probeTarget session pageTarget pageContext baselineState) st).calls := by
  induction targets generalizing st with
  | nil => exact h
  | cons target targets ih =>
    exact ih (fun other hother => htargets other (List.mem_cons_of_mem _ hother)) _
      (handedOnly_probeTarget h (htargets target List.mem_cons_self))

/-- A target derived from a list of elements is derived from one of them. -/
theorem exists_derivedTarget {routePath : String} {rawElements : List Json}
    {targets : List NavigationTarget} (h : deriveStateTargets routePath rawElements = .ok targets) :
    ∀ target ∈ targets, ∃ rawElement ∈ rawElements,
      derivedTarget routePath rawElement = .ok (some target) := by
  induction rawElements generalizing targets with
  | nil =>
    rw [← Except.ok.inj h]
    exact fun target htarget => absurd htarget List.not_mem_nil
  | cons rawElement rawElements ih =>
    unfold deriveStateTargets at h
    cases hfirst : derivedTarget routePath rawElement with
    | error message =>
      rw [hfirst] at h
      cases h
    | ok target? =>
      rw [hfirst] at h
      dsimp only at h
      cases hrest : deriveStateTargets routePath rawElements with
      | error message =>
        rw [hrest] at h
        cases h
      | ok rest =>
        rw [hrest] at h
        rw [← Except.ok.inj h]
        intro target htarget
        rcases List.mem_append.mp htarget with htarget | htarget
        · rw [Option.mem_toList] at htarget
          exact ⟨rawElement, List.mem_cons_self, by rw [hfirst, Option.mem_def.mp htarget]⟩
        · obtain ⟨other, hother, hderived⟩ := ih hrest target htarget
          exact ⟨other, List.mem_cons_of_mem _ hother, hderived⟩

/-- The state targets of a page are of a kind that may be performed. -/
theorem KindsAllowed.targetKind (h : KindsAllowed navigationTargets) {pageContext : Json}
    {targets : List NavigationTarget}
    (htargets : buildStateTargetsForPage pageContext navigationTargets = .ok targets) :
    ∀ target ∈ targets, target.targetKind ∈ allowedStateProbeActions := by
  unfold buildStateTargetsForPage at htargets
  cases hroute : pageRoute pageContext with
  | none =>
    rw [hroute] at htargets
    rw [← Except.ok.inj htargets]
    exact fun target htarget => absurd htarget List.not_mem_nil
  | some routePath =>
    rw [hroute] at htargets
    dsimp only at htargets
    cases hderived : deriveStateTargets routePath
        (ensureDictList (pageContext.get? "elements")) with
    | error message =>
      rw [hderived] at htargets
      cases htargets
    | ok derived =>
      rw [hderived] at htargets
      rw [← Except.ok.inj htargets]
      obtain ⟨value, -, hvalue⟩ := Option.bind_eq_some_iff.mp hroute
      intro target htarget
      rcases List.mem_append.mp htarget with htarget | htarget
      · obtain ⟨record, hrecord, hdiscovered⟩ := List.mem_filterMap.mp htarget
        exact h value routePath hvalue record hrecord target hdiscovered
      · obtain ⟨rawElement, -, hfrom⟩ := exists_derivedTarget hderived target htarget
        exact targetKind_of_derivedTarget hfrom

theorem handedOnly_visitPageTarget {P : Json → Prop} (h : HandedOnly P st.calls)
    (pageTarget : NavigationTarget) :
    HandedOnly P (visitPageTarget session st pageTarget).2.calls := by
  unfold visitPageTarget
  cases session.visitPageTarget with
  | none => exact h
  | some visitor => exact h.append_none rfl

/-- **The visit of a page hands over permitted actions only**, when all kinds are allowed. -/
theorem handedOnly_probePage (hkinds : KindsAllowed navigationTargets)
    (pageTarget : NavigationTarget) (h : HandedOnly IsPermitted st.calls) :
    HandedOnly IsPermitted (probePage session navigationTargets st pageTarget).2.calls := by
  have hvisited := @handedOnly_visitPageTarget session st _ h pageTarget
  unfold probePage
  split
  · rename_i error visited heq
    rw [heq] at hvisited
    exact hvisited
  · rename_i pageContext visited heq
    rw [heq] at hvisited
    dsimp only
    split
    · exact hvisited
    · rename_i targets htargets
      refine handedOnly_foldl_probeTarget _ _ _ targets (fun target htarget base => ?_) _ hvisited
      have hkind := hkinds.targetKind htargets target htarget
      exact @isPermitted_targetAction target.markQueued hkind base

theorem handedOnly_probePages (hkinds : KindsAllowed navigationTargets)
    (pageTargets : List NavigationTarget) (st : ProbeState)
    (h : HandedOnly IsPermitted st.calls) :
    HandedOnly IsPermitted (probePages session navigationTargets pageTargets st).2.calls := by
  induction pageTargets generalizing st with
  | nil => exact h
  | cons pageTarget pageTargets ih =>
    have hprobed := @handedOnly_probePage session _ _ hkinds pageTarget h
    unfold probePages
    split
    · rename_i message probed heq
      rw [heq] at hprobed
      exact hprobed
    · rename_i probed heq
      rw [heq] at hprobed
      exact ih probed hprobed

end Pages

/-! ## The calls of an extraction -/

section Extraction

variable {session : BrowserSession} {maxActionsPerPage : Int}
  {pageCandidates : List PageCandidate} {navigationTargets : List Json}

/-- The extraction takes the older path when there is no page to visit, or no way to visit one. -/
theorem calls_extract_older
    (h : PageDiscovery.buildPageVisitTargets pageCandidates navigationTargets = [] ∨
      session.visitPageTarget = none) :
    (extract session maxActionsPerPage pageCandidates navigationTargets).2 =
      (probeLegacy session maxActionsPerPage).calls := by
  have hpath : ((PageDiscovery.buildPageVisitTargets pageCandidates navigationTargets).isEmpty ||
      session.visitPageTarget.isNone) = true := by
    rw [Bool.or_eq_true, List.isEmpty_iff, Option.isNone_iff_eq_none]
    exact h
  unfold extract
  dsimp only
  rw [if_pos hpath]

theorem calls_extract_visits
    (hpages : PageDiscovery.buildPageVisitTargets pageCandidates navigationTargets ≠ [])
    (hvisitor : session.visitPageTarget ≠ none) :
    (extract session maxActionsPerPage pageCandidates navigationTargets).2 =
      (probePages session navigationTargets
        (PageDiscovery.buildPageVisitTargets pageCandidates navigationTargets)
        { registry := newRegistry maxActionsPerPage }).2.calls := by
  have hpath : ¬ ((PageDiscovery.buildPageVisitTargets pageCandidates navigationTargets).isEmpty ||
      session.visitPageTarget.isNone) = true := by
    rw [Bool.or_eq_true, List.isEmpty_iff, Option.isNone_iff_eq_none]
    exact not_or.mpr ⟨hpages, hvisitor⟩
  unfold extract
  dsimp only
  rw [if_neg hpath]
  split
  · rename_i message st heq
    rw [heq]
  · rename_i st heq
    rw [heq]

/-- **Without a page to visit, and when all kinds are allowed, every action is permitted.** -/
theorem handedOnly_extract
    (h : PageDiscovery.buildPageVisitTargets pageCandidates navigationTargets = [] ∨
      KindsAllowed navigationTargets) :
    HandedOnly IsPermitted
      (extract session maxActionsPerPage pageCandidates navigationTargets).2 := by
  by_cases hpath : PageDiscovery.buildPageVisitTargets pageCandidates navigationTargets = [] ∨
      session.visitPageTarget = none
  · rw [calls_extract_older hpath]
    exact handedOnly_probeLegacy session maxActionsPerPage
  · obtain ⟨hpages, hvisitor⟩ := not_or.mp hpath
    rw [calls_extract_visits hpages hvisitor]
    exact handedOnly_probePages (h.resolve_left hpages) _ _
      fun c hc => absurd hc List.not_mem_nil

end Extraction

end StateProbe
end Runlet
