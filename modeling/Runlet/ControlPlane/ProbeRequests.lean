import Runlet.ControlPlane.RetiredTargets
import Runlet.RunnerService.RealtimeProbe

/-!
# What becomes of a request for a probe

A request without a check is accepted on the realtime track, where a probe is to be made of its
page.  But a request is only accepted there when no page asset was found: one that was found without
a check is refused, as an element asset that is missing.  So the plan of such a request has no page
asset, and the probe of such a plan ends before its first step.

`probe_performs_nothing` says so of every accepted request with a system, and of every database in
which its job may run later.
-/

namespace Runlet

open KeyedTable RowQuery

namespace ControlPlane

open Resolution
open RealtimeProbe (runRealtimeProbe loadValidAuthState)

/-! ## The job of a request -/

section Handler

/-- The check job of a worker whose runner service makes the probes. -/
def probing (handler : RunCheckJobHandler) (runtime : ProbeRuntime) (ids : IdSource)
    (now : DateTime) : RunCheckJobHandler :=
  { handler with
    runRealtimeProbe := fun planId db => (runRealtimeProbe runtime ids now planId db).called
    runRealtimeProbe_keepsJobs := RealtimeProbe.runRealtimeProbe_keepsJobs }

/-- The result of a probe that could not be resolved. -/
def unresolvedResult (ids : IdSource) (db : Db) : RunPageCheckResult where
  pageCheckId := none
  executionRunId := db.executionRuns.nextKey ids
  status := "failed"
  authStatus := "blocked"
  artifactIds := [db.executionArtifacts.nextKey ids]
  stepResults :=
    [⟨some "failed", some "page asset is not resolved in realtime probe execution plan"⟩]
  failureCategory := some "page_or_menu_not_resolved"

/-- The rows that a resolution failure records. -/
def unresolvedDb (ids : IdSource) (now : DateTime) (planId : UUID) (db : Db) : Db :=
  RealtimeProbe.recordFailure ids now planId .pageOrMenuNotResolved none db

theorem executionTrack_runCheckPayload (requestId planId : UUID) (pageCheckId : Option UUID) :
    RunCheckJob.executionTrack
      (runCheckPayload requestId planId pageCheckId realtimeProbeTrack) = "realtime_probe" := by
  have h : Text.lower (Text.strip "realtime_probe") = "realtime_probe" := by decide +kernel
  exact h

/-- A probe that ended in a resolution failure is a finished job. -/
theorem execute_of_unresolved {handler : RunCheckJobHandler} {runtime : ProbeRuntime}
    {ids : IdSource} {now : DateTime} {requestId planId : UUID} {pageCheckId : Option UUID}
    {db recorded : Db} {result : RunPageCheckResult}
    (hcalled : (runRealtimeProbe runtime ids now planId db).called =
      ⟨.returned result, recorded, recorded⟩)
    (hfailed : result.status ≠ "passed") (inputs : Option Json) :
    RunCheckJob.execute (probing handler runtime ids now) now
        (runCheckPayload requestId planId pageCheckId realtimeProbeTrack) inputs db =
      (.completed result none, recorded) := by
  unfold RunCheckJob.execute
  rw [executionTrack_runCheckPayload]
  simp only [runCheckPayload, RunCheckJob.parsed]
  unfold RunCheckJob.runRealtimeProbe
  simp only [probing, hcalled]
  cases handler.persistFeedback with
  | none => rfl
  | some persist =>
    simp only
    rw [if_neg hfailed]

end Handler

/-! ## The plan of an accepted request -/

section Accepted

variable {db : Db} {payload : CreateCheckRequest}

/-- A resolution without a check has a page asset only when an element asset is missing. -/
theorem pageAsset_eq_none [AliasTies] {systemHint : String} {pageHint : Option String} {checkGoal : String}
    (hcheck : (resolvePageAssetAndCheck systemHint pageHint checkGoal db).pageCheck = none)
    (hreason : (resolvePageAssetAndCheck systemHint pageHint checkGoal db).missReason ≠
      some .elementAssetMissing) :
    (resolvePageAssetAndCheck systemHint pageHint checkGoal db).pageAsset = none := by
  have hof : ∀ (system : System) goal asset,
      (resolveCheckOf db system goal asset).pageCheck = none →
        (resolveCheckOf db system goal asset).missReason = some .elementAssetMissing := by
    intro system goal asset h
    unfold resolveCheckOf at h ⊢
    split at h
    · rfl
    · exact absurd h (Option.some_ne_none _)
  unfold resolvePageAssetAndCheck at hcheck hreason ⊢
  split
  · rfl
  · rename_i system hsystem
    rw [hsystem] at hcheck hreason
    cases pageHint with
    | none => rfl
    | some hint =>
      simp only at hcheck hreason ⊢
      unfold resolveInSystem at hcheck hreason ⊢
      split
      · rename_i hmatches
        rw [hmatches] at hcheck hreason
        simp only at hcheck hreason
        unfold resolveByAliasOrPage at hcheck hreason ⊢
        split
        · rename_i asset halias
          rw [halias] at hcheck hreason
          exact absurd (hof _ _ _ hcheck) hreason
        · rename_i halias
          rw [halias] at hcheck hreason
          simp only at hcheck hreason
          split
          · rename_i asset hpage
            rw [hpage] at hcheck hreason
            exact absurd (hof _ _ _ hcheck) hreason
          · rfl
      · rename_i m hmatches
        rw [hmatches] at hcheck
        exact absurd hcheck (Option.some_ne_none _)
      · rfl

/-- What an accepted request was resolved to, and what it leaves behind. -/
theorem acceptResolved_of_ok [AliasTies] {ids : IdSource} {now : DateTime} {db' : Db}
    {accepted : CheckRequestAccepted}
    (h : submitPayload ids now payload db = (db', .ok accepted)) :
    (resolutionOf payload db).missReason ≠ some .elementAssetMissing ∧
      acceptResolved ids now payload (resolutionOf payload db) db = (db', accepted) := by
  unfold submitPayload at h
  cases hrefusal : refusal payload db with
  | some error =>
    rw [hrefusal] at h
    simp at h
  | none =>
    rw [hrefusal] at h
    simp only [Prod.mk.injEq, Except.ok.injEq] at h
    refine ⟨fun hmissing => ?_, Prod.ext h.1 h.2⟩
    unfold refusal at hrefusal
    split at hrefusal
    · exact absurd hrefusal (Option.some_ne_none _)
    · split at hrefusal
      · exact absurd hrefusal (Option.some_ne_none _)
      · exact absurd hrefusal (Option.some_ne_none _)

/-- A probe is asked for where no check was found. -/
theorem pageCheck_eq_none_of_track {resolution : CheckResolution}
    (h : executionTrackOf resolution = realtimeProbeTrack) : resolution.pageCheck = none := by
  unfold executionTrackOf at h
  split at h
  · exact absurd h (by decide)
  · rename_i hnone
    exact Option.not_isSome_iff_eq_none.mp hnone

end Accepted

/-- The database still has the plans, requests and systems. -/
structure KeepsRequested (db later : Db) : Prop where
  plans : ∀ plan ∈ db.executionPlans, plan ∈ later.executionPlans
  requests : ∀ request ∈ db.executionRequests, ∃ request' ∈ later.executionRequests,
    request'.id = request.id
  systems : ∀ system ∈ db.systems, ∃ system' ∈ later.systems, system'.id = system.id

section Performs

variable {ids : IdSource} {now : DateTime} {payload : CreateCheckRequest} {db db' : Db}
  {accepted : CheckRequestAccepted} {system : System}

/-- The request was accepted for a probe of a system. -/
structure AcceptedForProbe [AliasTies] (ids : IdSource) (now : DateTime) (payload : CreateCheckRequest)
    (db db' : Db) (accepted : CheckRequestAccepted) (system : System) : Prop where
  submitted : submitPayload ids now payload db = (db', .ok accepted)
  track : accepted.executionTrack = realtimeProbeTrack
  resolved : resolveSystem payload.systemHint.text db = some system

/-- The job can run: no row it needs was deleted, and the system has a valid login state. -/
structure CanRun (db' later : Db) (system : System) : Prop extends KeepsRequested db' later where
  login : ((loadValidAuthState system.id later).bind AuthState.storageState).isSome = true

theorem resolved_of_accepted [AliasTies] (h : AcceptedForProbe ids now payload db db' accepted system) :
    (resolutionOf payload db).pageCheck = none ∧ (resolutionOf payload db).pageAsset = none ∧
      (resolutionOf payload db).system = some system := by
  obtain ⟨hreason, haccept⟩ := acceptResolved_of_ok h.submitted
  have htrack : executionTrackOf (resolutionOf payload db) = realtimeProbeTrack := by
    have hsame := congrArg (fun r => r.2.executionTrack) haccept
    exact hsame.trans h.track
  have hcheck := pageCheck_eq_none_of_track htrack
  refine ⟨hcheck, pageAsset_eq_none hcheck hreason, ?_⟩
  unfold resolutionOf resolvePageAssetAndCheck
  rw [h.resolved]
  cases payload.pageHintText with
  | none => rfl
  | some hint => exact system_resolveInSystem

theorem mem_append_singleton {α : Type} (rows : List α) (row : α) : row ∈ rows ++ [row] :=
  List.mem_append_right rows List.mem_cons_self

/-- The rows of an accepted request: its request, its plan without a page asset, and its job. -/
theorem rows_of_accepted [AliasTies] (h : AcceptedForProbe ids now payload db db' accepted system) :
    (∃ request ∈ db'.executionRequests, request.id = accepted.requestId) ∧
      planRow accepted.requestId (some system.id) none none none realtimeProbeTrack
        accepted.planId ∈ db'.executionPlans ∧
      (∃ job ∈ db'.queuedJobs, job.id = accepted.jobId ∧ job.jobType = runCheckJobType ∧
        job.payload =
          runCheckPayload accepted.requestId accepted.planId none realtimeProbeTrack) ∧
      db'.systems = db.systems := by
  obtain ⟨-, haccept⟩ := acceptResolved_of_ok h.submitted
  obtain ⟨hcheck, hasset, hsystem⟩ := resolved_of_accepted h
  have htrack : executionTrackOf (resolutionOf payload db) = realtimeProbeTrack := by
    unfold executionTrackOf
    rw [hcheck]
    rfl
  unfold acceptResolved at haccept
  rw [hcheck, hasset, hsystem, htrack] at haccept
  obtain ⟨rfl, rfl⟩ := Prod.mk.inj haccept
  exact ⟨⟨_, mem_append_singleton _ _, rfl⟩, mem_append_singleton _ _,
    ⟨_, mem_append_singleton _ _, rfl, rfl, rfl⟩, rfl⟩

/-- The probe of the plan, in a later database. -/
theorem runRealtimeProbe_of_accepted [AliasTies]
    (h : AcceptedForProbe ids now payload db db' accepted system) {later : Db}
    (hlater : CanRun db' later system) (runtime : ProbeRuntime) (ids' : IdSource)
    (now' : DateTime) :
    runRealtimeProbe runtime ids' now' accepted.planId later =
      ⟨⟨.returned (unresolvedResult ids' later), unresolvedDb ids' now' accepted.planId later,
        unresolvedDb ids' now' accepted.planId later⟩, []⟩ := by
  obtain ⟨⟨request, hrequest, hrequestId⟩, hplan, -, hsystems⟩ := rows_of_accepted h
  obtain ⟨request', hrequest', hid⟩ := hlater.requests request hrequest
  have hsystem : system ∈ db'.systems := by
    rw [hsystems]
    exact Table.mem_of_first? h.resolved
  obtain ⟨system', hsystem', hsystemId⟩ := hlater.systems system hsystem
  obtain ⟨storageState, hlogin⟩ := Option.isSome_iff_exists.mp hlater.login
  rw [← hsystemId] at hlogin
  have hrun := RealtimeProbe.runRealtimeProbe_eq runtime ids' now' (hlater.plans _ hplan) rfl
    hrequest' (hrequestId.symm.trans hid.symm) hsystem' (congrArg some hsystemId.symm) hlogin
  rw [RealtimeProbe.probeAsset_of_unresolved rfl] at hrun
  exact hrun

/-- **No probe is performed.**  The job of every request that was accepted for a probe of a system
finishes, wherever it can run later, with a run that failed because its plan has no page asset; not
one step is performed. -/
theorem probe_performs_nothing [AliasTies] (h : AcceptedForProbe ids now payload db db' accepted system) :
    (∃ job ∈ db'.queuedJobs, job.id = accepted.jobId ∧ job.jobType = runCheckJobType ∧
      job.payload = runCheckPayload accepted.requestId accepted.planId none realtimeProbeTrack) ∧
    ∀ later, CanRun db' later system → ∀ (handler : RunCheckJobHandler) (runtime : ProbeRuntime)
      (ids' : IdSource) (now' : DateTime) (inputs : Option Json),
        (runRealtimeProbe runtime ids' now' accepted.planId later).performed = [] ∧
          RunCheckJob.execute (probing handler runtime ids' now') now'
              (runCheckPayload accepted.requestId accepted.planId none realtimeProbeTrack) inputs
              later =
            (.completed (unresolvedResult ids' later) none,
              unresolvedDb ids' now' accepted.planId later) := by
  refine ⟨(rows_of_accepted h).2.2.1, fun later hlater handler runtime ids' now' inputs => ?_⟩
  have hrun := runRealtimeProbe_of_accepted h hlater runtime ids' now'
  refine ⟨congrArg ProbeRun.performed hrun, ?_⟩
  exact execute_of_unresolved (congrArg ProbeRun.called hrun)
    (by simp only [unresolvedResult]; decide) inputs

end Performs

/-! ## A page that is not known -/

section Sample

local instance : AliasTies := AliasTies.byKeys

def probedSystem : System :=
  { id := 1, code := "crm", name := "CRM", baseUrl := "https://crm" }

/-- A system without assets. -/
def probeDb : Db where
  systems := .single probedSystem

/-- What the request leaves behind. -/
def probeSubmitted : Db × CheckRequestAccepted :=
  acceptResolved .ascending 0 usersRequest (resolutionOf usersRequest probeDb) probeDb

/-- The database in which its job runs, with a login state. -/
def probeLater : Db :=
  { probeSubmitted.1 with
    authStates := .single
      { id := 9, systemId := 1, status := "valid", storageState := some (.obj []),
        authMode := "none", isValid := true, validatedAt := some 5 } }

theorem resolveSystem_probe : resolveSystem "crm" probeDb = some probedSystem := by
  refine Table.first?_eq_some_iff.mpr ⟨List.mem_singleton.mpr rfl, by decide +kernel, ?_⟩
  intro row hrow _
  rw [List.mem_singleton.mp hrow]

theorem acceptedForProbe_sample :
    AcceptedForProbe .ascending 0 usersRequest probeDb probeSubmitted.1 probeSubmitted.2
      probedSystem where
  submitted := by
    have hrefusal : refusal usersRequest probeDb = none := by decide +kernel
    unfold submitPayload
    rw [hrefusal]
    rfl
  track := by decide +kernel
  resolved := resolveSystem_probe

theorem canRun_sample : CanRun probeSubmitted.1 probeLater probedSystem where
  plans _ h := h
  requests request h := ⟨request, h, rfl⟩
  systems system h := ⟨system, h, rfl⟩
  login := by decide +kernel

/-- A browser in which every step passes. -/
def passingRuntime : ProbeRuntime where
  execute _ _ := .finished ⟨.passed, .reused, [⟨"auth.inject_state", .passed, none, none⟩]⟩
  screenshotSaved := true

theorem probe_performs_nothing_sample :
    (runRealtimeProbe passingRuntime .ascending 7 probeSubmitted.2.planId probeLater).performed =
      [] :=
  have handler : RunCheckJobHandler :=
    { runPageCheck := fun _ _ _ _ db => ⟨.raised "", db, db⟩
      runRealtimeProbe := fun _ db => ⟨.raised "", db, db⟩
      persistFeedback := none
      runPageCheck_keepsJobs := fun _ _ _ _ _ => ⟨rfl, rfl, rfl, rfl⟩
      runRealtimeProbe_keepsJobs := fun _ _ => ⟨rfl, rfl, rfl, rfl⟩
      persistFeedback_keepsJobs := fun _ h => nomatch h }
  ((probe_performs_nothing acceptedForProbe_sample).2 probeLater canRun_sample handler
    passingRuntime .ascending 7 none).1

/-- An accepted probe is not executed. -/
theorem probe_performs_nothing_fails :
    ¬ ∀ (ids : IdSource) (now : DateTime) (payload : CreateCheckRequest) (db db' : Db)
        (accepted : CheckRequestAccepted) (system : System),
      AcceptedForProbe ids now payload db db' accepted system →
        ∀ later, CanRun db' later system → ∀ (runtime : ProbeRuntime) (ids' : IdSource)
          (now' : DateTime),
            (runRealtimeProbe runtime ids' now' accepted.planId later).performed ≠ [] := by
  intro h
  refine h _ _ _ _ _ _ _ acceptedForProbe_sample probeLater canRun_sample passingRuntime
    .ascending 7 ?_
  exact congrArg ProbeRun.performed
    (runRealtimeProbe_of_accepted acceptedForProbe_sample canRun_sample passingRuntime _ _)

end Sample

end ControlPlane

end Runlet
