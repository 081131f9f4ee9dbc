import Runlet.CrawlerService.Extractors.ProbeSafety
import Runlet.CrawlerService.PageVisits

/-!
# When a kind that is not allowed is handed over

The older path of the state probe and the targets made of elements have their kinds checked, those
made of navigation targets have not.  A session can show any route; with enough budget the first
state target whose kind is not allowed finds a place in the registry, and its action is handed over.
So `handed_actions_permitted_iff` is exact: whatever the session, only permitted actions are handed
over when there is no page to visit, or when all kinds are allowed.
-/

namespace Runlet

open NavigationTargetRegistry (Sound)

/-! ## A registry whose targets were applied -/

namespace NavigationTargetRegistry

variable {registry : NavigationTargetRegistry} {history : List AddRecord}
  {target : NavigationTarget}

/-- Applying a target changes nothing that a registry is sound by. -/
theorem Sound.applied (h : Sound registry history) (place : ℕ) :
    Sound { registry with targets := registry.targets.modify place (·.markApplied) } history :=
  h.marked place fun _ => ⟨.applied, none, rfl, rfl, rfl⟩

/-- A registry that has taken fewer targets than each budget has room. -/
theorem room_of_length_lt {n : ℕ} (hlength : registry.targets.length ≤ n)
    (htotal : n < registry.maxTotalTargets) (hroute : n < registry.maxTargetsPerRoute)
    (hkind : n < registry.maxTargetsPerKind) (hparent : n < registry.maxChildrenPerParent) :
    registry.Room target := by
  have hroutes : registry.routes.length ≤ registry.targets.length := List.length_filterMap_le _ _
  have hparents : registry.parents.length ≤ registry.targets.length :=
    List.length_filterMap_le _ _
  have hkinds : registry.kinds.length = registry.targets.length := List.length_map _
  refine ⟨hlength.trans_lt htotal, fun route _ => ?_, ?_, fun parent _ => ?_⟩
  · exact ((List.count_le_length.trans hroutes).trans hlength).trans_lt hroute
  · exact ((List.count_le_length.trans hkinds.le).trans hlength).trans_lt hkind
  · exact ((List.count_le_length.trans hparents).trans hlength).trans_lt hparent

/-- No more targets were taken than were added. -/
theorem Sound.length_targets_le (h : Sound registry history) :
    registry.targets.length ≤ history.length := by
  have hkeys := congrArg List.length h.accepted
  rw [NavigationTargetRegistry.keys, List.length_map, List.length_map] at hkeys
  rw [hkeys]
  exact List.length_filter_le _ _

end NavigationTargetRegistry

namespace StateProbe

/-! ## What was handed over stays handed over -/

section Calls

variable {session : BrowserSession} {st : ProbeState}

theorem subset_calls_performAction (action : Json) :
    st.calls ⊆ (performAction session st action).2.calls := by
  unfold performAction
  cases session.performStateProbeAction with
  | none => exact List.Subset.refl _
  | some executor => exact List.subset_append_left _ _

theorem subset_calls_performNavigationTarget (target pageContext : Json) :
    st.calls ⊆ (performNavigationTarget session st target pageContext).2.calls := by
  unfold performNavigationTarget
  cases session.performNavigationTarget with
  | none => exact subset_calls_performAction target
  | some executor => exact List.subset_append_left _ _

theorem subset_calls_probeTarget (pageTarget : NavigationTarget)
    (pageContext baselineState : Json) (target : NavigationTarget) :
    st.calls ⊆ (probeTarget session pageTarget pageContext baselineState st target).calls := by
  unfold probeTarget
  dsimp only
  split_ifs
  · rw [calls_warnRefused]
    exact List.Subset.refl _
  · rw [calls_settleTarget]
    exact @subset_calls_performNavigationTarget session
      { st with registry := (st.registry.add target).1 } _ _

theorem subset_calls_foldl (pageTarget : NavigationTarget) (pageContext baselineState : Json)
    (targets : List NavigationTarget) (st : ProbeState) : st.calls ⊆
      (targets.foldl (probeTarget session pageTarget pageContext baselineState) st).calls := by
  induction targets generalizing st with
  | nil => exact List.Subset.refl _
  | cons target targets ih =>
    exact List.Subset.trans
      (subset_calls_probeTarget pageTarget pageContext baselineState target) (ih _)

theorem subset_calls_visitPageTarget (pageTarget : NavigationTarget) :
    st.calls ⊆ (visitPageTarget session st pageTarget).2.calls := by
  unfold visitPageTarget
  cases session.visitPageTarget with
  | none => exact List.Subset.refl _
  | some visitor => exact List.subset_append_left _ _

theorem subset_calls_probePage (navigationTargets : List Json) (pageTarget : NavigationTarget) :
    st.calls ⊆ (probePage session navigationTargets st pageTarget).2.calls := by
  have hvisited := @subset_calls_visitPageTarget session st pageTarget
  unfold probePage
  split
  · rename_i error visited heq
    rw [heq] at hvisited
    exact hvisited
  · rename_i pageContext visited heq
    rw [heq] at hvisited
    dsimp only
    split
    · exact hvisited
    · refine List.Subset.trans ?_ (subset_calls_foldl _ _ _ _ _)
      exact hvisited

theorem subset_calls_probePages (navigationTargets : List Json)
    (pageTargets : List NavigationTarget) (st : ProbeState) :
    st.calls ⊆ (probePages session navigationTargets pageTargets st).2.calls := by
  induction pageTargets generalizing st with
  | nil => exact List.Subset.refl _
  | cons pageTarget pageTargets ih =>
    have hprobed := @subset_calls_probePage session st navigationTargets pageTarget
    unfold probePages
    split
    · rename_i message probed heq
      rw [heq] at hprobed
      exact hprobed
    · rename_i probed heq
      rw [heq] at hprobed
      exact List.Subset.trans hprobed (ih probed)

end Calls

/-! ## A session that shows a route and performs everything -/

/-- The page of a route, without elements. -/
def bareRoute (value : Json) : Json :=
  .obj [("resolved_route", value)]

def showing (value : Json) : BrowserSession where
  visitPageTarget := some fun _ _ => .ok (bareRoute value)
  performNavigationTarget := some fun _ _ _ => .ok (.obj [])

section Showing

variable {value : Json} {st : ProbeState} {history : List AddRecord}
  {pageTarget target : NavigationTarget} {pageContext baselineState : Json}

/-- A target that finds a place is applied there, and its action was handed over. -/
theorem probeTarget_showing_of_accepted (h : (st.registry.add target).2.accepted = true) :
    (probeTarget (showing value) pageTarget pageContext baselineState st target).registry =
        { (st.registry.add target).1 with
          targets := (st.registry.add target).1.targets.modify st.registry.targets.length
            (·.markApplied) } ∧
      (probeTarget (showing value) pageTarget pageContext baselineState st target).calls =
        st.calls ++ [.performNavigation
          (targetAction target.markQueued (baselineState.get? "state_context")) pageContext] := by
  have happlied : (!actionPayloadApplied (objectOrEmpty (.obj []))) = false := by decide
  unfold probeTarget
  dsimp only
  rw [if_neg (by rw [h]; decide), target_add_of_accepted h]
  unfold settleTarget performNavigationTarget showing
  dsimp only [Except.map]
  rw [if_neg (by rw [happlied]; decide)]
  exact ⟨rfl, rfl⟩

theorem registry_probeTarget_of_refused (session : BrowserSession)
    (h : (st.registry.add target).2.accepted = false) :
    (probeTarget session pageTarget pageContext baselineState st target).registry =
      (st.registry.add target).1 := by
  unfold probeTarget
  dsimp only
  rw [if_pos (by rw [h]; decide)]
  unfold ProbeState.warnRefused
  split
  · rfl
  · split_ifs <;> rfl
  · rfl

theorem sound_probeTarget_showing (h : Sound st.registry history) :
    Sound (probeTarget (showing value) pageTarget pageContext baselineState st target).registry
      (history ++ [(target, (st.registry.add target).2)]) := by
  cases haccepted : (st.registry.add target).2.accepted with
  | true =>
    rw [(probeTarget_showing_of_accepted haccepted).1]
    exact (h.add target).applied _
  | false =>
    rw [registry_probeTarget_of_refused _ haccepted]
    exact h.add target

theorem budgets_probeTarget_showing :
    (probeTarget (showing value) pageTarget pageContext baselineState st target).registry.budgets =
      st.registry.budgets := by
  cases haccepted : (st.registry.add target).2.accepted with
  | true =>
    rw [(probeTarget_showing_of_accepted haccepted).1]
    exact NavigationTargetRegistry.budgets_add _ _
  | false =>
    rw [registry_probeTarget_of_refused _ haccepted]
    exact NavigationTargetRegistry.budgets_add _ _

/-- **The first target of a kind that is not allowed is handed over**, when there is room. -/
theorem exists_handed_of_disallowed {n : ℕ} (targets : List NavigationTarget)
    (hsound : Sound st.registry history) (hbudgets : ∀ room ∈ [st.registry.maxTotalTargets,
      st.registry.maxTargetsPerRoute, st.registry.maxTargetsPerKind,
      st.registry.maxChildrenPerParent], n < room)
    (hroom : history.length + targets.length ≤ n)
    (hbefore : ∀ e ∈ history, e.1.targetKind ∈ allowedStateProbeActions)
    (hnormal : ∀ target ∈ targets,
      normalizeEntryType (some (.str target.targetKind)) = some target.targetKind)
    (h : ∃ target ∈ targets, target.targetKind ∉ allowedStateProbeActions) :
    ∃ c ∈ (targets.foldl (probeTarget (showing value) pageTarget pageContext baselineState)
      st).calls, ∃ action ∈ c.handed, ¬ IsPermitted action := by
  induction targets generalizing st history with
  | nil =>
    obtain ⟨target, htarget, -⟩ := h
    exact absurd htarget List.not_mem_nil
  | cons target targets ih =>
    rw [List.length_cons] at hroom
    obtain ⟨htype, hnormal⟩ := List.forall_mem_cons.mp hnormal
    by_cases hkind : target.targetKind ∈ allowedStateProbeActions
    · -- an allowed target: the search goes on in the registry it leaves
      obtain ⟨other, hother, hdisallowed⟩ := h
      have hne : other ≠ target := fun heq => hdisallowed (heq ▸ hkind)
      have hrest : other ∈ targets := List.mem_of_ne_of_mem hne hother
      refine ih (sound_probeTarget_showing hsound) ?_ ?_ ?_ hnormal ⟨other, hrest, hdisallowed⟩
      · have hkept := @budgets_probeTarget_showing value st pageTarget target pageContext
          baselineState
        obtain ⟨htotal, hkept⟩ := Prod.mk.inj hkept
        obtain ⟨hperRoute, hkept⟩ := Prod.mk.inj hkept
        obtain ⟨hperKind, hperParent⟩ := Prod.mk.inj hkept
        rw [htotal, hperRoute, hperKind, hperParent]
        exact hbudgets
      · rw [List.length_append, List.length_singleton]
        omega
      · rw [List.forall_mem_append, List.forall_mem_singleton]
        exact ⟨hbefore, hkind⟩
    · -- the first one that is not: its key is new, because a key has one kind
      have hkey : target.dedupeKey ∉ st.registry.keys := by
        rw [hsound.accepted]
        intro hmem
        obtain ⟨e, he, hsame⟩ := List.mem_map.mp hmem
        refine hkind ?_
        rw [← NavigationTarget.targetKind_of_dedupeKey_eq hsame]
        exact hbefore e (List.mem_filter.mp he).1
      have hsize : st.registry.targets.length ≤ n :=
        hsound.length_targets_le.trans (by omega)
      simp only [List.forall_mem_cons] at hbudgets
      obtain ⟨htotal, hroute, hperKind, hparent, -⟩ := hbudgets
      have haccepted : (st.registry.add target).2.accepted = true :=
        hsound.accepted_add_iff.mpr ⟨hkey, NavigationTargetRegistry.room_of_length_lt hsize htotal
          hroute hperKind hparent⟩
      refine ⟨.performNavigation (targetAction target.markQueued
        (baselineState.get? "state_context")) pageContext, ?_, _, rfl, ?_⟩
      · rw [List.foldl_cons]
        refine subset_calls_foldl pageTarget pageContext baselineState targets _ ?_
        rw [(probeTarget_showing_of_accepted haccepted).2]
        exact List.mem_append_right _ List.mem_cons_self
      · exact fun hpermitted => hkind
          ((@isPermitted_targetAction_iff target.markQueued htype _).mp hpermitted)

end Showing

/-! ## Every extraction -/

/-- The kind of a target that was made of a navigation target is normal. -/
theorem normalizeEntryType_of_discoveredTarget {routePath : String} {record : Json}
    {target : NavigationTarget} (h : discoveredTarget routePath record = some target) :
    normalizeEntryType (some (.str target.targetKind)) = some target.targetKind := by
  unfold discoveredTarget at h
  cases htype : normalizeEntryType (record.get? "target_kind") with
  | none =>
    rw [htype] at h
    cases h
  | some targetKind =>
    rw [htype] at h
    dsimp only at h
    obtain ⟨htext, hnormal⟩ := normalizeEntryType_self htype
    split_ifs at h
    rw [← Option.some.inj h]
    change normalizeEntryType
      (some (.str ((NavigationTargets.normalizeText (.str targetKind)).getD "unknown"))) =
        some ((NavigationTargets.normalizeText (.str targetKind)).getD "unknown")
    rw [htext]
    exact hnormal

/-- The page that is shown is on its route. -/
theorem pageRoute_bareRoute {value : Json} {routePath : String}
    (h : PageDiscovery.normalizeRoutePath value = some routePath) :
    pageRoute (bareRoute value) = some routePath := by
  have htruthy : Json.truthy value = true := by
    cases value with
    | str s =>
      have hne : s ≠ "" := by
        rintro rfl
        cases h
      simpa [Json.truthy] using hne
    | null => cases h
    | bool b => cases h
    | int n => cases h
    | float literal q => cases h
    | arr l => cases h
    | obj l => cases h
  have hfound : (bareRoute value).get? "resolved_route" = some value := rfl
  rw [pageRoute, hfound, Json.orElse, Option.any_some, htruthy, if_pos rfl]
  exact h

theorem buildStateTargetsForPage_bareRoute {value : Json} {routePath : String}
    (h : PageDiscovery.normalizeRoutePath value = some routePath)
    (navigationTargets : List Json) :
    buildStateTargetsForPage (bareRoute value) navigationTargets =
      .ok (navigationTargets.filterMap (discoveredTarget routePath)) := by
  have helements : ensureDictList ((bareRoute value).get? "elements") = [] := rfl
  rw [buildStateTargetsForPage, pageRoute_bareRoute h]
  dsimp only
  rw [helements, deriveStateTargets, Except.map, List.append_nil]

/-- The visit of a page that is shown without elements. -/
theorem probePage_showing {value : Json} {routePath : String}
    (h : PageDiscovery.normalizeRoutePath value = some routePath)
    (navigationTargets : List Json) (pageTarget : NavigationTarget) (st : ProbeState) :
    ∃ based baselineState, based.registry = st.registry ∧
      (probePage (showing value) navigationTargets st pageTarget).2 =
        (navigationTargets.filterMap (discoveredTarget routePath)).foldl
          (probeTarget (showing value) pageTarget (bareRoute value) baselineState) based := by
  have hvisit : visitPageTarget (showing value) st pageTarget = (.ok (bareRoute value),
      st.call (.visitPage (.obj (toRecord pageTarget)))) := rfl
  unfold probePage
  rw [hvisit]
  dsimp only
  rw [buildStateTargetsForPage_bareRoute h]
  dsimp only
  refine ⟨_, _, ?_, rfl⟩
  rfl

/-- What the first page hands over is handed over. -/
theorem subset_calls_head (session : BrowserSession) (navigationTargets : List Json)
    (pageTarget : NavigationTarget) (pageTargets : List NavigationTarget) {st : ProbeState} :
    (probePage session navigationTargets st pageTarget).2.calls ⊆
      (probePages session navigationTargets (pageTarget :: pageTargets) st).2.calls := by
  rw [probePages]
  split
  · rename_i message probed heq
    rw [heq]
    exact List.Subset.refl _
  · rename_i probed heq
    rw [heq]
    exact subset_calls_probePages navigationTargets pageTargets probed

/-- The budgets of a registry are above the number of actions a page may have. -/
theorem lt_newRegistry {n : ℕ} : ∀ room ∈ [(newRegistry (n + 1)).maxTotalTargets,
    (newRegistry (n + 1)).maxTargetsPerRoute, (newRegistry (n + 1)).maxTargetsPerKind,
    (newRegistry (n + 1)).maxChildrenPerParent], n < room := by
  simp only [newRegistry, NavigationTargetRegistry.new, List.forall_mem_cons]
  refine ⟨by omega, by omega, by omega, by omega, fun room hroom => ?_⟩
  exact absurd hroom List.not_mem_nil

/-- **A kind that is not allowed is handed over by some extraction.** -/
theorem exists_handed_of_not_kindsAllowed {pageCandidates : List PageCandidate}
    {navigationTargets : List Json}
    (hpages : PageDiscovery.buildPageVisitTargets pageCandidates navigationTargets ≠ [])
    (h : ¬ KindsAllowed navigationTargets) :
    ∃ (session : BrowserSession) (maxActionsPerPage : Int),
      ∃ c ∈ (extract session maxActionsPerPage pageCandidates navigationTargets).2,
        ∃ action ∈ c.handed, ¬ IsPermitted action := by
  simp only [KindsAllowed, not_forall] at h
  obtain ⟨value, routePath, hroute, record, hrecord, target, htarget, hdisallowed⟩ := h
  refine ⟨showing value, navigationTargets.length + 1, ?_⟩
  have hvisitor : (showing value).visitPageTarget ≠ none := Option.some_ne_none _
  rw [calls_extract_visits hpages hvisitor]
  cases hvisits : PageDiscovery.buildPageVisitTargets pageCandidates navigationTargets with
  | nil => exact absurd hvisits hpages
  | cons pageTarget pageTargets =>
    obtain ⟨based, baselineState, hregistry, hprobed⟩ := probePage_showing hroute
      navigationTargets pageTarget { registry := newRegistry (navigationTargets.length + 1) }
    have hsound : Sound based.registry [] := by
      rw [hregistry]
      exact NavigationTargetRegistry.sound_new _ _ _ _
    have hdiscovered : ∃ target ∈ navigationTargets.filterMap (discoveredTarget routePath),
        target.targetKind ∉ allowedStateProbeActions :=
      ⟨target, List.mem_filterMap.mpr ⟨record, hrecord, htarget⟩, hdisallowed⟩
    have hlength : ([] : List AddRecord).length +
        (navigationTargets.filterMap (discoveredTarget routePath)).length ≤
          navigationTargets.length := by
      rw [List.length_nil, Nat.zero_add]
      exact List.length_filterMap_le _ _
    have hnormal : ∀ target ∈ navigationTargets.filterMap (discoveredTarget routePath),
        normalizeEntryType (some (.str target.targetKind)) = some target.targetKind := by
      intro target htarget
      obtain ⟨record, -, hfrom⟩ := List.mem_filterMap.mp htarget
      exact normalizeEntryType_of_discoveredTarget hfrom
    obtain ⟨c, hc, hforbidden⟩ := exists_handed_of_disallowed _ hsound
      (hregistry ▸ lt_newRegistry) hlength (fun e he => absurd he List.not_mem_nil) hnormal
      hdiscovered
    rw [← hprobed] at hc
    exact ⟨c, subset_calls_head _ _ _ _ hc, hforbidden⟩

/-- **Only permitted actions are handed to every session exactly when there is no page to visit, or
all kinds are allowed.** -/
theorem handed_actions_permitted_iff (pageCandidates : List PageCandidate)
    (navigationTargets : List Json) :
    (∀ (session : BrowserSession) (maxActionsPerPage : Int),
      ∀ c ∈ (extract session maxActionsPerPage pageCandidates navigationTargets).2,
        ∀ action ∈ c.handed, IsPermitted action) ↔
      PageDiscovery.buildPageVisitTargets pageCandidates navigationTargets = [] ∨
        KindsAllowed navigationTargets := by
  constructor
  · intro h
    by_contra hnot
    obtain ⟨hpages, hkinds⟩ := not_or.mp hnot
    obtain ⟨session, maxActionsPerPage, c, hc, action, haction, hforbidden⟩ :=
      exists_handed_of_not_kindsAllowed hpages hkinds
    exact hforbidden (h session maxActionsPerPage c hc action haction)
  · exact fun h session maxActionsPerPage c hc action haction =>
      handedOnly_extract h c hc action haction

/-- A navigation target that opens the filters of a page, as page discovery finds them. -/
def filterRecord : Json :=
  .obj [("target_kind", .str "filter_expand"), ("route_hint", .str "/users"),
    ("state_context", .obj [("panel_title", .str "filters")])]

/-- The filters of a visited page are handed over, and they are of no kind that may be. -/
theorem filters_handed_over :
    ¬ ∀ c ∈ (extract (showing (.str "/users")) 6 [{ routePath := "/users" }] [filterRecord]).2,
      ∀ action ∈ c.handed, IsPermitted action := by
  have hsome : (((extract (showing (.str "/users")) 6 [{ routePath := "/users" }]
      [filterRecord]).2.filterMap SessionCall.handed).any fun action =>
        normalizeEntryType (Json.orElse (action.get? "entry_type")
          (action.get? "interaction_type")) = some "filter_expand") = true := by
    decide +kernel
  obtain ⟨action, haction, htype⟩ := List.any_eq_true.mp hsome
  obtain ⟨c, hc, hhanded⟩ := List.mem_filterMap.mp haction
  intro h
  obtain ⟨⟨entryType, hentryType, hallowed⟩, -⟩ := h c hc action hhanded
  rw [Option.mem_def, of_decide_eq_true htype] at hentryType
  rw [← Option.some.inj hentryType] at hallowed
  exact absurd hallowed (by decide)

end StateProbe
end Runlet
