import Runlet.ControlPlane.OnboardedPolicies
import Runlet.ControlPlane.SystemAdminBootstrap

/-!
# Repeated onboardings

Registering a system and setting its policies are find-or-create writes, so however often a manifest
is onboarded there is one row of each.  Publishing is not: an onboarding renders the check it selects
anew and creates a job for the new script, whatever jobs the check has.  `idempotent_iff`: a further
onboarding adds no active job exactly when the manifest does not ask for one.
-/

namespace Runlet

open KeyedTable

namespace SystemAdmin

/-- The unique columns: the code of a system, and the system of a policy. -/
structure Constrained (db : Db) : Prop where
  systems : Table.AtMostOne hasCode db.systems
  policies : OnePolicyEach db

/-- The databases that successful onboardings of a manifest lead to, with the checks that they
selected. -/
inductive Onboarded (manifest : WebSystemManifest) (start : Db) : List UUID → Db → Prop where
  | start : Onboarded manifest start [] start
  | again {checks : List UUID} {before after : Db} (service : SystemAdminService)
      (call : OnboardCall) (result : OnboardSystemResult)
      (h : Onboarded manifest start checks before)
      (hrun : onboardSystem service call manifest before = (after, .ok result)) :
      Onboarded manifest start (result.pageCheckId :: checks) after

/-- A further onboarding leaves one row of each kind for the system, and adds no active job for the
check and the schedule. -/
structure Idempotent (manifest : WebSystemManifest) (before after : Db)
    (result : OnboardSystemResult) : Prop where
  system : ∃! system, system ∈ after.systems ∧ system.code = manifest.system.code.text
  credential : ∃! credential, credential ∈ after.systemCredentials ∧
    credential.systemId = result.systemId
  authPolicy : ∃! policy, policy ∈ after.systemAuthPolicies ∧ policy.systemId = result.systemId
  crawlPolicy : ∃! policy, policy ∈ after.systemCrawlPolicies ∧ policy.systemId = result.systemId
  publishedJobs : ∀ job ∈ after.publishedJobs, (∀ old ∈ before.publishedJobs, old.id ≠ job.id) →
    job.pageCheckId = result.pageCheckId →
      job.scheduleExpr = manifest.publish.scheduleExpr.text → job.state ≠ .active

section Successful

variable {service : SystemAdminService} {call : OnboardCall} {manifest : WebSystemManifest}
  {before registered after : Db} {system : System} {result : OnboardSystemResult}
  {c : OnboardContext}

/-- A call that succeeded registered the system, and its chain ended. -/
theorem onboardSystem_ok
    (hrun : onboardSystem service call manifest before = (after, .ok result)) :
    ∃ registered system c,
      registerSystem service call manifest before = .ok (registered, system) ∧
        Stages.run (raisingAt call.raises (preparing service call manifest system.id ++
          publishing service call manifest system.id)) {} registered = (after, .ok c) ∧
        result = onboardResult system c := by
  unfold onboardSystem at hrun
  cases hregister : registerSystem service call manifest before with
  | error e =>
    rw [hregister] at hrun
    exact nomatch hrun
  | ok registered =>
    rw [hregister] at hrun
    dsimp only at hrun
    obtain ⟨hdb, hresult⟩ := Prod.mk.inj hrun
    cases hended : (onboardRegistered service call manifest registered.2 registered.1).2 with
    | error raised =>
      rw [hended] at hresult
      exact nomatch hresult
    | ok c =>
      rw [hended] at hresult
      exact ⟨registered.1, registered.2, c, rfl,
        Stages.run_of_compensate_ok (Prod.ext hdb hended), (Except.ok.inj hresult).symm⟩

/-- What a successful chain keeps of what was registered. -/
theorem undisturbed_of_ok (hpolicies : OnePolicyEach before)
    (hregisters : Registers manifest before registered system)
    (hrun : Stages.run (raisingAt call.raises (preparing service call manifest system.id ++
      publishing service call manifest system.id)) {} registered = (after, .ok c)) :
    Undisturbed registered after := by
  have hbefore : Undisturbed registered registered :=
    ⟨rfl, rfl, hregisters.systemAuthPolicies ▸ hpolicies.auth,
      hregisters.systemCrawlPolicies ▸ hpolicies.crawl⟩
  have hkept := Stages.run_keeps (c := {})
    (@keeps_undisturbed service call manifest system.id registered call.raises) hbefore
  rw [hrun] at hkept
  exact hkept

theorem disjoint_hasCode : Table.Disjoint hasCode := fun _ _ _ h h' =>
  (of_decide_eq_true h).symm.trans (of_decide_eq_true h')

/-- **The constraints hold however often a manifest is onboarded.** -/
theorem Onboarded.constrained {start : Db} {checks : List UUID}
    (h : Onboarded manifest start checks before) (hstart : Constrained start) :
    Constrained before := by
  induction h with
  | start => exact hstart
  | again service call result h hrun ih =>
    obtain ⟨registered, system, c, hregister, hchain, -⟩ := onboardSystem_ok hrun
    have hregisters := registers_of_registerSystem hregister
    have hundisturbed := undisturbed_of_ok ih.policies hregisters hchain
    refine ⟨?_, hundisturbed.policies⟩
    rw [hundisturbed.systems]
    exact hregisters.systems.atMostOne disjoint_hasCode ih.systems

/-- Two credentials of a system would be two in the list of them. -/
theorem credential_eq (hregisters : Registers manifest before registered system) :
    ∀ a ∈ before.systemCredentials, ∀ b ∈ before.systemCredentials,
      isCredentialOf system.id a = true → isCredentialOf system.id b = true → a = b := by
  intro a ha b hb hof hof'
  have hmem := Table.mem_select.mpr ⟨ha, hof⟩
  have hmem' := Table.mem_select.mpr ⟨hb, hof'⟩
  have hcount := hregisters.oneCredential
  cases hlist : before.systemCredentials.select (isCredentialOf system.id) with
  | nil =>
    rw [hlist] at hmem
    exact absurd hmem List.not_mem_nil
  | cons first rest =>
    rw [hlist, List.length_cons] at hcount
    obtain rfl : rest = [] := List.eq_nil_of_length_eq_zero (by omega)
    rw [hlist, List.mem_singleton] at hmem hmem'
    rw [hmem, hmem']

/-- **One row of each kind**, whatever was there before. -/
theorem existsUnique_rows (hbefore : Constrained before)
    (hregisters : Registers manifest before registered system)
    (hrun : Stages.run (raisingAt call.raises (preparing service call manifest system.id ++
      publishing service call manifest system.id)) {} registered = (after, .ok c)) :
    (∃! row, row ∈ after.systems ∧ row.code = manifest.system.code.text) ∧
      (∃! row, row ∈ after.systemCredentials ∧ row.systemId = system.id) ∧
        (∃! row, row ∈ after.systemAuthPolicies ∧ row.systemId = system.id) ∧
          ∃! row, row ∈ after.systemCrawlPolicies ∧ row.systemId = system.id := by
  have hundisturbed := undisturbed_of_ok hbefore.policies hregisters hrun
  have hflags := policyFlags_of_ok hrun
  refine ⟨?_, ?_, ?_, ?_⟩
  · rw [hundisturbed.systems]
    refine ⟨system, ⟨hregisters.systems.self_mem, of_decide_eq_true hregisters.systems.selected⟩,
      fun row hrow => ?_⟩
    exact hregisters.systems.eq_of_selected (hbefore.systems _) hrow.1 (decide_eq_true hrow.2)
  · obtain ⟨credential, hwrites⟩ := hregisters.systemCredentials
    rw [hundisturbed.systemCredentials]
    refine ⟨credential, ⟨hwrites.self_mem, of_decide_eq_true hwrites.selected⟩, fun row hrow => ?_⟩
    exact hwrites.eq_of_selected (credential_eq hregisters) hrow.1 (decide_eq_true hrow.2)
  · obtain ⟨policy, hfirst, -⟩ := Option.map_eq_some_iff.mp (congrArg PolicyFlags.auth hflags)
    have hunique := hundisturbed.policies.auth.existsUnique hfirst
    simpa only [ControlPlane.ofSystem, decide_eq_true_eq] using hunique
  · obtain ⟨policy, hfirst, -⟩ := Option.map_eq_some_iff.mp (congrArg PolicyFlags.crawl hflags)
    have hunique := hundisturbed.policies.crawl.existsUnique hfirst
    simpa only [ControlPlane.ofSystem, decide_eq_true_eq] using hunique

/-- **The job of a successful chain**: the only new one, and active when the manifest says so. -/
theorem newJobs_of_ok
    (hrun : Stages.run (raisingAt call.raises (preparing service call manifest system.id ++
      publishing service call manifest system.id)) {} registered = (after, .ok c)) :
    (∀ job ∈ after.publishedJobs, (∀ old ∈ registered.publishedJobs, old.id ≠ job.id) →
        job.pageCheckId = c.pageCheckId →
          job.scheduleExpr = manifest.publish.scheduleExpr.text → job.state ≠ .active) ↔
      manifest.publish.enabled = false := by
  have hjobs := @jobsCase_run service call manifest system.id call.raises {} registered
  rw [hrun] at hjobs
  cases hjobs with
  | published result job pageCheckId hmem hnew honly hjob hraised hcheck =>
    constructor
    · intro hnone
      have hpaused := hnone job hmem hnew (hjob.pageCheckId.trans (hcheck c rfl).symm)
        hjob.scheduleExpr
      exact Bool.eq_false_of_not_eq_true fun henabled => hpaused (hjob.state.mpr henabled)
    · intro hdisabled other hother hfresh _ _ hactive
      obtain rfl := honly other hother hfresh
      rw [hjob.state.mp hactive] at hdisabled
      exact Bool.false_ne_true hdisabled.symm

end Successful

/-- **When a further onboarding changes nothing that is scheduled**: exactly when the manifest asks
for a job that is not enabled, however many onboardings came before. -/
theorem idempotent_iff (service : SystemAdminService) (call : OnboardCall)
    (manifest : WebSystemManifest) (start before after : Db) (checks : List UUID)
    (result : OnboardSystemResult) (hstart : Constrained start)
    (hreached : Onboarded manifest start checks before)
    (hrun : onboardSystem service call manifest before = (after, .ok result)) :
    Idempotent manifest before after result ↔ manifest.publish.enabled = false := by
  obtain ⟨registered, system, c, hregister, hchain, rfl⟩ := onboardSystem_ok hrun
  have hregisters := registers_of_registerSystem hregister
  have hrows := existsUnique_rows (hreached.constrained hstart) hregisters hchain
  have hjobs := newJobs_of_ok hchain
  rw [hregisters.publishedJobs] at hjobs
  exact ⟨fun h => hjobs.mp h.publishedJobs,
    fun h => ⟨hrows.1, hrows.2.1, hrows.2.2.1, hrows.2.2.2, hjobs.mpr h⟩⟩

/-! ## The second onboarding -/

section Sample

open OnboardingSample

theorem constrained_empty : Constrained {} :=
  ⟨fun _ _ h => absurd h (Table.notMem_empty _), fun _ _ h => absurd h (Table.notMem_empty _),
    fun _ _ h => absurd h (Table.notMem_empty _)⟩

/-- What the onboardings return: the keys are `16 ^ 20` times a number. -/
def onboarding (publishedJob : ℕ) : OnboardSystemResult where
  systemId := 16 ^ 20
  systemCode := "erp"
  pageCheckId := 16 ^ 20
  publishedJobId := publishedJob * 16 ^ 20

/-- The database after one onboarding. -/
def onboardedOnce : Db :=
  (onboardSystem service undisturbed manifest {}).1

/-- The database after two. -/
def onboardedTwice : Db :=
  (onboardSystem service undisturbed manifest onboardedOnce).1

theorem onboards_once : onboardSystem service undisturbed manifest {} =
    (onboardedOnce, .ok (onboarding 1)) :=
  Prod.ext rfl (by decide +kernel)

theorem onboards_twice : onboardSystem service undisturbed manifest onboardedOnce =
    (onboardedTwice, .ok (onboarding 2)) :=
  Prod.ext rfl (by decide +kernel)

theorem onboarded_once : Onboarded manifest {} [16 ^ 20] onboardedOnce :=
  .again service undisturbed _ .start onboards_once

/-- The second onboarding of a manifest that asks for an active job. -/
theorem idempotent_second_iff :
    Idempotent manifest onboardedOnce onboardedTwice (onboarding 2) ↔
      manifest.publish.enabled = false :=
  idempotent_iff service undisturbed manifest {} onboardedOnce onboardedTwice [16 ^ 20]
    (onboarding 2) constrained_empty onboarded_once onboards_twice

theorem second_job_is_active :
    ∃ job ∈ onboardedTwice.publishedJobs, (∀ old ∈ onboardedOnce.publishedJobs, old.id ≠ job.id) ∧
      job.pageCheckId = (onboarding 2).pageCheckId ∧ job.scheduleExpr = manifest.publish.scheduleExpr.text ∧
        job.state = .active := by
  decide +kernel

/-- The second onboarding publishes the check once more. -/
theorem idempotent_fails :
    ¬ ∀ (service : SystemAdminService) (call : OnboardCall) (manifest : WebSystemManifest)
      (start before after : Db) (checks : List UUID) (result : OnboardSystemResult),
      Constrained start → Onboarded manifest start checks before →
        onboardSystem service call manifest before = (after, .ok result) →
          result.pageCheckId ∈ checks → Idempotent manifest before after result := by
  intro h
  obtain ⟨job, hjob, hnew, hcheck, hexpr, hactive⟩ := second_job_is_active
  have hidempotent := h service undisturbed manifest {} onboardedOnce onboardedTwice [16 ^ 20]
    (onboarding 2) constrained_empty onboarded_once onboards_twice List.mem_cons_self
  exact hidempotent.publishedJobs job hjob hnew hcheck hexpr hactive

end Sample

end SystemAdmin

end Runlet
