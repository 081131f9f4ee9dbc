import Runlet.ControlPlane.OnboardedPolicies
import Runlet.ControlPlane.SystemAdminBootstrap

/-!
# What a failed onboarding leaves scheduled

The handler of `onboard_system` disables both policies again.  It says nothing of the published job,
which is committed before the policies are set as the manifest says; and it disables a policy by
the request that set it, so a policy that the manifest describes badly, or a raise of the handler
itself, leaves the policy of an earlier onboarding enabled.

`nothing_scheduled_iff` says exactly when a failed onboarding leaves nothing scheduled.
-/

namespace Runlet

open KeyedTable

namespace SystemAdmin

open Stages (Stage)

/-- Both policies of a system are disabled, and no job that was not there before is active. -/
structure NothingScheduled (systemId : UUID) (before after : Db) : Prop where
  authPolicies : ∀ policy ∈ after.systemAuthPolicies, policy.systemId = systemId →
    policy.enabled = false
  crawlPolicies : ∀ policy ∈ after.systemCrawlPolicies, policy.systemId = systemId →
    policy.enabled = false
  publishedJobs : ∀ job ∈ after.publishedJobs, (∀ old ∈ before.publishedJobs, old.id ≠ job.id) →
    job.state ≠ .active

section Conditions

variable (service : SystemAdminService) (call : OnboardCall) (manifest : WebSystemManifest)

/-- The handler gets to disable the auth policy. -/
def UndoesAuth : Prop :=
  call.handlerRaises .disableAuth = none ∧ AcceptsAuthPolicy service manifest

/-- The handler gets to disable the crawl policy, which it does after the auth policy. -/
def UndoesCrawl : Prop :=
  UndoesAuth service call manifest ∧ call.handlerRaises .disableCrawl = none ∧
    AcceptsCrawlPolicy service manifest

/-- A raise in the stage finds no policy enabled that the handler does not disable, and no active
job: `flags` tells which policies were enabled before the call. -/
structure RaisesHarmlessly (flags : PolicyFlags) (stage : OnboardStage) : Prop where
  auth : UndoesAuth service call manifest ∨
    (stage = .disableAuth → flags.auth ≠ some true) ∧
      (stage = .enableCrawl → manifest.authPolicy.enabled = false)
  crawl : UndoesCrawl service call manifest ∨
    (stage = .disableAuth ∨ stage = .disableCrawl → flags.crawl ≠ some true)
  job : manifest.publish.enabled = true → stage ∉ afterPublishing

end Conditions

/-! ## The handler -/

section Handler

variable (service : SystemAdminService) (call : OnboardCall) (manifest : WebSystemManifest)
  (systemId : UUID) (db : Db)

/-- The first stage of the handler. -/
def disablingAuth : Stage OnboardStage OnboardContext Db String :=
  (calling .disableAuth (fun _ => upsertAuthPolicy service call manifest systemId false)
    fun c _ => c).raising (call.handlerRaises .disableAuth)

/-- The second stage of the handler. -/
def disablingCrawl : Stage OnboardStage OnboardContext Db String :=
  (calling .disableCrawl (fun _ => upsertCrawlPolicy service call manifest systemId false)
    fun c _ => c).raising (call.handlerRaises .disableCrawl)

theorem disableRuntimePolicies_fst :
    (disableRuntimePolicies service call manifest systemId db).1 =
      (Stages.run [disablingAuth service call manifest systemId,
        disablingCrawl service call manifest systemId] {} db).1 := by
  unfold disableRuntimePolicies
  split
  · rename_i hrun
    exact (congrArg Prod.fst hrun).symm
  · rename_i hrun
    exact (congrArg Prod.fst hrun).symm

/-- What setting the two policies keeps, the handler keeps. -/
theorem keeps_disableRuntimePolicies {P : Db → Prop}
    (hauth : ∀ db, P db → P (upsertAuthPolicy service call manifest systemId false db).1)
    (hcrawl : ∀ db, P db → P (upsertCrawlPolicy service call manifest systemId false db).1)
    (hdb : P db) : P (disableRuntimePolicies service call manifest systemId db).1 := by
  rw [disableRuntimePolicies_fst]
  refine Stages.run_keeps (fun stage hstage => ?_) hdb
  simp only [List.mem_cons, List.not_mem_nil, or_false] at hstage
  rcases hstage with rfl | rfl
  · exact (keeps_calling fun _ => hauth).raising _
  · exact (keeps_calling fun _ => hcrawl).raising _

/-- The first stage, where the system exists. -/
theorem disablingAuth_cases (hsystem : (db.systems.get? systemId).isSome = true) :
    (¬ UndoesAuth service call manifest ∧
        ∃ e, (disablingAuth service call manifest systemId).act {} db = (db, .error e)) ∨
      UndoesAuth service call manifest ∧
        ∃ db₁ c₁, (disablingAuth service call manifest systemId).act {} db = (db₁, .ok c₁) ∧
          db₁.systems = db.systems ∧
            policyFlags systemId db₁ = { policyFlags systemId db with auth := some false } := by
  refine Stages.Stage.act_raising_cases ?_
  unfold calling
  dsimp only
  rcases upsertAuthPolicy_cases service call manifest systemId false db with
    ⟨hrefused, e, he⟩ | ⟨haccepts, policies, policy, hok, hwrites, henabled⟩
  · rw [he]
    exact Or.inl ⟨fun h => hrefused ⟨h, hsystem⟩, e, rfl⟩
  · rw [hok]
    refine Or.inr ⟨haccepts.1, { db with systemAuthPolicies := policies }, {}, rfl, rfl, ?_⟩
    unfold policyFlags
    dsimp only
    rw [hwrites.first?, Option.map_some, henabled]

/-- The second stage, where the system exists. -/
theorem disablingCrawl_cases (c : OnboardContext)
    (hsystem : (db.systems.get? systemId).isSome = true) :
    (¬ (call.handlerRaises .disableCrawl = none ∧ AcceptsCrawlPolicy service manifest) ∧
        ∃ e, (disablingCrawl service call manifest systemId).act c db = (db, .error e)) ∨
      (call.handlerRaises .disableCrawl = none ∧ AcceptsCrawlPolicy service manifest) ∧
        ∃ db₁ c₁, (disablingCrawl service call manifest systemId).act c db = (db₁, .ok c₁) ∧
          policyFlags systemId db₁ = { policyFlags systemId db with crawl := some false } := by
  refine Stages.Stage.act_raising_cases ?_
  unfold calling
  dsimp only
  rcases upsertCrawlPolicy_cases service call manifest systemId false db with
    ⟨hrefused, e, he⟩ | ⟨haccepts, policies, policy, hok, hwrites, henabled⟩
  · rw [he]
    exact Or.inl ⟨fun h => hrefused ⟨h, hsystem⟩, e, rfl⟩
  · rw [hok]
    refine Or.inr ⟨haccepts.1, { db with systemCrawlPolicies := policies }, c, rfl, ?_⟩
    unfold policyFlags
    dsimp only
    rw [hwrites.first?, Option.map_some, henabled]

/-- **What the handler does to the policies**: it disables the auth policy, and then the crawl
policy, as far as it gets. -/
theorem policyFlags_disableRuntimePolicies (hsystem : (db.systems.get? systemId).isSome = true) :
    ((policyFlags systemId (disableRuntimePolicies service call manifest systemId db).1).auth ≠
          some true ↔
        UndoesAuth service call manifest ∨ (policyFlags systemId db).auth ≠ some true) ∧
      ((policyFlags systemId (disableRuntimePolicies service call manifest systemId db).1).crawl ≠
          some true ↔
        UndoesCrawl service call manifest ∨ (policyFlags systemId db).crawl ≠ some true) := by
  have hoff : some false ≠ some true := by decide
  rw [disableRuntimePolicies_fst]
  unfold UndoesCrawl
  rcases disablingAuth_cases service call manifest systemId db hsystem with
    ⟨hauth, e, hact⟩ | ⟨hauth, db₁, c₁, hact, hsystems, hflags⟩
  · rw [Stages.run_cons_error hact]
    simp only [hauth, false_and, false_or, iff_self, and_self]
  · rw [Stages.run_cons_ok hact]
    rw [← hsystems] at hsystem
    rcases disablingCrawl_cases service call manifest systemId db₁ c₁ hsystem with
      ⟨hcrawl, e, hact'⟩ | ⟨hcrawl, db₂, c₂, hact', hflags'⟩
    · rw [Stages.run_cons_error hact', hflags]
      simp only [hauth, hcrawl, hoff, ne_eq, not_false_eq_true, and_false, true_or, false_or,
        iff_self, and_self]
    · rw [Stages.run_cons_ok hact', Stages.run, hflags', hflags]
      simp only [hauth, hcrawl, hoff, ne_eq, not_false_eq_true, true_or, and_self]

end Handler

/-! ## Failed onboardings -/

section Failed

variable {service : SystemAdminService} {call : OnboardCall} {manifest : WebSystemManifest}

/-- A call that raised after its first commit: the chain raised, and the handler followed. -/
theorem onboardSystem_error {db registered db' : Db} {system : System}
    {raised : OnboardStage × String}
    (hregister : registerSystem service call manifest db = .ok (registered, system))
    (hrun : onboardSystem service call manifest db = (db', .error raised)) :
    ∃ reached e, Stages.run (raisingAt call.raises (preparing service call manifest system.id ++
        publishing service call manifest system.id)) {} registered =
          (reached, .error (raised.1, e)) ∧
      db' = (disableRuntimePolicies service call manifest system.id reached).1 := by
  unfold onboardSystem at hrun
  rw [hregister] at hrun
  dsimp only at hrun
  obtain ⟨hdb, hresult⟩ := Prod.mk.inj hrun
  cases hraised : (onboardRegistered service call manifest system registered).2 with
  | ok c =>
    rw [hraised] at hresult
    exact nomatch hresult
  | error raised' =>
    rw [hraised] at hresult
    obtain rfl : raised' = raised := Except.error.inj hresult
    exact Stages.run_of_compensate_error (Prod.ext hdb hraised)

/-- Among the jobs a chain that raised left, there is an active one that was not there before exactly
when it raised after the publishing of an enabled job. -/
theorem newJobs_iff {before after : Db} {raised : OnboardStage × String}
    (h : JobsCase manifest before after (.error raised)) :
    (∀ job ∈ after.publishedJobs, (∀ old ∈ before.publishedJobs, old.id ≠ job.id) →
        job.state ≠ .active) ↔
      (manifest.publish.enabled = true → raised.1 ∉ afterPublishing) := by
  cases h with
  | unpublished raised hstage hsame =>
    refine iff_of_true (fun job hjob hnew => ?_) fun _ => hstage
    obtain ⟨old, hold, hid⟩ := hsame.exists_old hjob
    exact absurd hid (hnew old hold)
  | published result job pageCheckId hmem hnew honly hjob hraised hcheck =>
    have hlate := hraised raised rfl
    constructor
    · intro hactive henabled
      exact absurd (hjob.state.mpr henabled) (hactive job hmem hnew)
    · intro hdisabled other hother hfresh hactive
      obtain rfl := honly other hother hfresh
      exact hdisabled (hjob.state.mp hactive) hlate

/-- The auth policy is disabled in the middle of the chain. -/
theorem authLeft_iff {flag : Option Bool} {enabled : Bool} {stage : OnboardStage} :
    (if stage = .disableAuth then flag else some (stage = .enableCrawl && enabled)) ≠ some true ↔
      (stage = .disableAuth → flag ≠ some true) ∧ (stage = .enableCrawl → enabled = false) := by
  by_cases hfirst : stage = .disableAuth
  · simp [hfirst]
  · by_cases hlast : stage = .enableCrawl <;> simp [hfirst, hlast]

theorem crawlLeft_iff {flag : Option Bool} {stage : OnboardStage} :
    (if stage = .disableAuth ∨ stage = .disableCrawl then flag else some false) ≠ some true ↔
      (stage = .disableAuth ∨ stage = .disableCrawl → flag ≠ some true) := by
  split <;> simp [*]

variable (service call manifest) in
/-- **When a failed onboarding leaves nothing scheduled**: exactly when it raised where the handler,
as far as it gets, leaves no policy enabled, and before the publishing of an enabled job. -/
theorem nothing_scheduled_iff (db registered db' : Db) (system : System) (stage : OnboardStage)
    (message : String) (hpolicies : OnePolicyEach db)
    (hregister : registerSystem service call manifest db = .ok (registered, system))
    (hrun : onboardSystem service call manifest db = (db', .error (stage, message))) :
    NothingScheduled system.id db db' ↔
      RaisesHarmlessly service call manifest (policyFlags system.id db) stage := by
  obtain ⟨reached, e, hreached, rfl⟩ := onboardSystem_error hregister hrun
  have hregisters := registers_of_registerSystem hregister
  have hbefore : Undisturbed registered registered :=
    ⟨rfl, rfl, hregisters.systemAuthPolicies ▸ hpolicies.auth,
      hregisters.systemCrawlPolicies ▸ hpolicies.crawl⟩
  have hundisturbed : Undisturbed registered reached := by
    have hkept := Stages.run_keeps (c := {})
      (@keeps_undisturbed service call manifest system.id registered call.raises) hbefore
    rw [hreached] at hkept
    exact hkept
  have hsystem : (reached.systems.get? system.id).isSome = true := by
    rw [hundisturbed.systems]
    exact hregisters.get?
  -- the policies: what the chain left of them, and what the handler made of that
  have hflags := policyFlags_of_error hreached
  rw [policyFlags_congr hregisters.systemAuthPolicies hregisters.systemCrawlPolicies] at hflags
  have hhandler := policyFlags_disableRuntimePolicies service call manifest system.id reached hsystem
  have hafter := keeps_disableRuntimePolicies service call manifest system.id reached
    (P := Undisturbed registered) (fun _ h => h.upsertAuthPolicy false)
    (fun _ h => h.upsertCrawlPolicy false) hundisturbed
  -- the jobs: the handler leaves them
  have hjobsCase := @jobsCase_run service call manifest system.id call.raises {} registered
  rw [hreached] at hjobsCase
  have hjobs := newJobs_iff hjobsCase
  have hleft := keeps_disableRuntimePolicies service call manifest system.id reached
    (P := fun d => d.publishedJobs = reached.publishedJobs)
    (fun db h => (publishedJobs_upsertAuthPolicy false db).trans h)
    (fun db h => (publishedJobs_upsertCrawlPolicy false db).trans h) rfl
  rw [← hleft, hregisters.publishedJobs] at hjobs
  have hauth := (policyFlags_auth_iff system.id hafter.policies).symm.trans hhandler.1
  have hcrawl := (policyFlags_crawl_iff system.id hafter.policies).symm.trans hhandler.2
  rw [hflags, authLeft_iff] at hauth
  rw [hflags, crawlLeft_iff] at hcrawl
  exact ⟨fun h => ⟨hauth.mp h.authPolicies, hcrawl.mp h.crawlPolicies, hjobs.mp h.publishedJobs⟩,
    fun h => ⟨hauth.mpr h.auth, hcrawl.mpr h.crawl, hjobs.mpr h.job⟩⟩

end Failed

/-! ## A raise in the last stage -/

section Sample

open OnboardingSample

theorem onePolicyEach_empty : OnePolicyEach {} :=
  ⟨fun _ _ h => absurd h (Table.notMem_empty _), fun _ _ h => absurd h (Table.notMem_empty _)⟩

/-- A raise of the login, in an onboarding that found no policy enabled. -/
theorem nothing_scheduled_after_failed_login :
    ∃ registered system db',
      registerSystem service (raisingIn .runAuthRefresh) manifest {} = .ok (registered, system) ∧
        (NothingScheduled system.id {} db' ↔
          RaisesHarmlessly service (raisingIn .runAuthRefresh) manifest (policyFlags system.id {})
            .runAuthRefresh) :=
  ⟨_, _, _, rfl, nothing_scheduled_iff service (raisingIn .runAuthRefresh) manifest {} _ _ _
    .runAuthRefresh "connection lost" onePolicyEach_empty rfl rfl⟩

/-- The raise of the last stage leaves an active job. -/
theorem active_after_last_raise :
    ∃ job ∈ (onboardSystem service (raisingIn .enableCrawl) manifest {}).1.publishedJobs,
      job.state = .active := by
  decide +kernel

theorem raises_in_last_stage :
    (onboardSystem service (raisingIn .enableCrawl) manifest {}).2 =
      .error (.enableCrawl, "connection lost") := by
  decide +kernel

/-- When setting the crawl policy fails in the end, the job that was published goes on. -/
theorem nothing_scheduled_fails :
    ¬ ∀ (service : SystemAdminService) (call : OnboardCall) (manifest : WebSystemManifest)
      (db registered db' : Db) (system : System) (stage : OnboardStage) (message : String),
      OnePolicyEach db → registerSystem service call manifest db = .ok (registered, system) →
        onboardSystem service call manifest db = (db', .error (stage, message)) →
          NothingScheduled system.id db db' := by
  intro h
  obtain ⟨job, hjob, hactive⟩ := active_after_last_raise
  have hscheduled := h service (raisingIn .enableCrawl) manifest {} _ _ _ .enableCrawl
    "connection lost" onePolicyEach_empty rfl (Prod.ext rfl raises_in_last_stage)
  exact hscheduled.publishedJobs job hjob (fun _ hold => absurd hold (Table.notMem_empty _)) hactive

end Sample

end SystemAdmin

end Runlet
