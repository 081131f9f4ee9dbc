import Runlet.ControlPlane.SystemAdmin

/-!
# What the stages of an onboarding do

A stage sets a policy, creates the published job, or is quiet: it leaves the administration of the
systems alone (`Quiet`).  `forall_mem_preparing` and `forall_mem_publishing` say which stages are
which, so that what a whole chain does follows from three facts.

Setting a policy is a find-or-create of the row of the system, or nothing (`upsertAuthPolicy_cases`,
`upsertCrawlPolicy_cases`), and it is not refused when the manifest's policy is well formed
(`AcceptsAuthPolicy`, `AcceptsCrawlPolicy`).
-/

namespace Runlet

open KeyedTable

namespace SystemAdmin

open Stages (Stage)

section Policies

variable (service : SystemAdminService) (call : OnboardCall) (manifest : WebSystemManifest)
  (systemId : UUID)

/-- The manifest's auth policy passes its checks. -/
structure AcceptsAuthPolicy : Prop where
  authMode : Text.lower manifest.authPolicy.authMode.text ∈ allowedAuthModes
  captchaProvider : Text.strip manifest.authPolicy.captchaProvider ≠ ""
  scheduleExpr : service.cronParses manifest.authPolicy.scheduleExpr.text = true

/-- The manifest's crawl policy passes its checks. -/
structure AcceptsCrawlPolicy : Prop where
  crawlScope : Text.lower (Text.strip manifest.crawlPolicy.crawlScope) ∈ crawlScopes
  scheduleExpr : service.cronParses manifest.crawlPolicy.scheduleExpr.text = true

variable {service call manifest systemId} {enabled : Bool} {db : Db}

/-- The checks of an auth policy but for its schedule. -/
theorem authPolicy_ofArguments_cases (enabled : Bool) (scheduleExpr authMode : RequiredText)
    (captchaProvider : String) :
    (¬ (Text.lower authMode.text ∈ allowedAuthModes ∧ Text.strip captchaProvider ≠ "") ∧
        ∃ e, UpdateSystemAuthPolicy.ofArguments enabled scheduleExpr.text authMode.text
          captchaProvider = .error e) ∨
      ((Text.lower authMode.text ∈ allowedAuthModes ∧ Text.strip captchaProvider ≠ "") ∧
        ∃ payload, UpdateSystemAuthPolicy.ofArguments enabled scheduleExpr.text authMode.text
            captchaProvider = .ok payload ∧
          payload.enabled = enabled ∧ payload.scheduleExpr = scheduleExpr) := by
  unfold UpdateSystemAuthPolicy.ofArguments validateAllowedText
  rw [validateRequiredText_text, validateRequiredText_text]
  simp only [bind, Except.bind, pure, Except.pure]
  by_cases hmode : Text.lower authMode.text ∈ allowedAuthModes
  · rw [dif_pos hmode]
    unfold validateRequiredText
    by_cases hprovider : Text.strip captchaProvider = ""
    · rw [dif_pos hprovider]
      exact Or.inl ⟨fun h => h.2 hprovider, _, rfl⟩
    · rw [dif_neg hprovider]
      exact Or.inr ⟨⟨hmode, hprovider⟩, _, rfl, rfl, rfl⟩
  · rw [dif_neg hmode]
    exact Or.inl ⟨fun h => hmode h.1, _, rfl⟩

/-- No scope is blank. -/
theorem strip_ne_of_lower_mem {text : String} (h : Text.lower (Text.strip text) ∈ crawlScopes) :
    Text.strip text ≠ "" := by
  intro hblank
  rw [hblank] at h
  revert h
  decide

/-- The checks of a crawl policy but for its schedule. -/
theorem crawlPolicy_ofArguments_cases (enabled : Bool) (scheduleExpr : RequiredText)
    (crawlScope : String) :
    (Text.lower (Text.strip crawlScope) ∉ crawlScopes ∧
        ∃ e, UpdateSystemCrawlPolicy.ofArguments enabled scheduleExpr.text crawlScope = .error e) ∨
      (Text.lower (Text.strip crawlScope) ∈ crawlScopes ∧
        ∃ payload, UpdateSystemCrawlPolicy.ofArguments enabled scheduleExpr.text crawlScope =
            .ok payload ∧
          payload.enabled = enabled ∧ payload.scheduleExpr = scheduleExpr) := by
  unfold UpdateSystemCrawlPolicy.ofArguments validateAllowedText
  rw [validateRequiredText_text]
  simp only [bind, Except.bind, pure, Except.pure]
  unfold validateRequiredText
  by_cases hscope : Text.lower (Text.strip crawlScope) ∈ crawlScopes
  · rw [dif_neg (strip_ne_of_lower_mem hscope)]
    dsimp only
    rw [dif_pos hscope]
    exact Or.inr ⟨hscope, _, rfl, rfl, rfl⟩
  · refine Or.inl ⟨hscope, ?_⟩
    by_cases hblank : Text.strip crawlScope = ""
    · rw [dif_pos hblank]
      exact ⟨_, rfl⟩
    · rw [dif_neg hblank]
      dsimp only
      rw [dif_neg hscope]
      exact ⟨_, rfl⟩

variable (service call manifest systemId enabled db) in
/-- **Setting the auth policy** is refused, or writes the row of the system. -/
theorem upsertAuthPolicy_cases :
    (¬ (AcceptsAuthPolicy service manifest ∧ (db.systems.get? systemId).isSome = true) ∧
        ∃ e, upsertAuthPolicy service call manifest systemId enabled db = (db, .error e)) ∨
      (AcceptsAuthPolicy service manifest ∧ (db.systems.get? systemId).isSome = true) ∧
        ∃ policies policy, upsertAuthPolicy service call manifest systemId enabled db =
            ({ db with systemAuthPolicies := policies }, .ok policy) ∧
          Table.Writes (fun policy => ControlPlane.ofSystem systemId policy.toRuntimePolicy)
            db.systemAuthPolicies policies policy ∧ policy.enabled = enabled := by
  unfold upsertAuthPolicy
  rcases authPolicy_ofArguments_cases enabled manifest.authPolicy.scheduleExpr
    manifest.authPolicy.authMode manifest.authPolicy.captchaProvider with
    ⟨hrefused, e, he⟩ | ⟨hvalid, payload, hpayload, henabled, hexpr⟩
  · rw [he]
    exact Or.inl ⟨fun h => hrefused ⟨h.1.authMode, h.1.captchaProvider⟩, e, rfl⟩
  · rw [hpayload]
    dsimp only
    unfold ControlPlane.upsertSystemAuthPolicy ControlPlane.validatePolicyScheduleExpr
    rw [hexpr]
    cases hsystem : db.systems.get? systemId with
    | none => exact Or.inl ⟨fun h => Bool.false_ne_true h.2, _, rfl⟩
    | some system =>
      cases hcron : service.cronParses manifest.authPolicy.scheduleExpr.text with
      | false => exact Or.inl ⟨fun h => Bool.false_ne_true (hcron.symm.trans h.1.scheduleExpr), _, rfl⟩
      | true =>
        have hwrites := ControlPlane.writes_upsertAuthPolicyRow call.ids systemId payload
          db.systemAuthPolicies
        exact Or.inr ⟨⟨⟨hvalid.1, hvalid.2, hcron⟩, rfl⟩, _, _, rfl, hwrites.1,
          hwrites.2.trans henabled⟩

variable (service call manifest systemId enabled db) in
/-- **Setting the crawl policy** is refused, or writes the row of the system. -/
theorem upsertCrawlPolicy_cases :
    (¬ (AcceptsCrawlPolicy service manifest ∧ (db.systems.get? systemId).isSome = true) ∧
        ∃ e, upsertCrawlPolicy service call manifest systemId enabled db = (db, .error e)) ∨
      (AcceptsCrawlPolicy service manifest ∧ (db.systems.get? systemId).isSome = true) ∧
        ∃ policies policy, upsertCrawlPolicy service call manifest systemId enabled db =
            ({ db with systemCrawlPolicies := policies }, .ok policy) ∧
          Table.Writes (fun policy => ControlPlane.ofSystem systemId policy.toRuntimePolicy)
            db.systemCrawlPolicies policies policy ∧ policy.enabled = enabled := by
  unfold upsertCrawlPolicy
  rcases crawlPolicy_ofArguments_cases enabled manifest.crawlPolicy.scheduleExpr
    manifest.crawlPolicy.crawlScope with
    ⟨hrefused, e, he⟩ | ⟨hvalid, payload, hpayload, henabled, hexpr⟩
  · rw [he]
    exact Or.inl ⟨fun h => hrefused h.1.crawlScope, e, rfl⟩
  · rw [hpayload]
    dsimp only
    unfold ControlPlane.upsertSystemCrawlPolicy ControlPlane.validatePolicyScheduleExpr
    rw [hexpr]
    cases hsystem : db.systems.get? systemId with
    | none => exact Or.inl ⟨fun h => Bool.false_ne_true h.2, _, rfl⟩
    | some system =>
      cases hcron : service.cronParses manifest.crawlPolicy.scheduleExpr.text with
      | false => exact Or.inl ⟨fun h => Bool.false_ne_true (hcron.symm.trans h.1.scheduleExpr), _, rfl⟩
      | true =>
        have hwrites := ControlPlane.writes_upsertCrawlPolicyRow call.ids systemId payload
          db.systemCrawlPolicies
        exact Or.inr ⟨⟨⟨hvalid, hcron⟩, rfl⟩, _, _, rfl, hwrites.1, hwrites.2.trans henabled⟩

end Policies

/-! ## The other stages -/

section Quiet

/-- The stages that set a policy or create the published job. -/
def changing : List OnboardStage :=
  [.disableAuth, .disableCrawl, .createPublishedJob, .enableAuth, .enableCrawl]

/-- A stage that leaves the administration of the systems alone, whether it raises or not. -/
structure Quiet (stage : Stage OnboardStage OnboardContext Db String) : Prop where
  leaves : ∀ c db, LeavesAdministration db (stage.act c db).1
  name : stage.name ∉ changing

variable {service : SystemAdminService} {call : OnboardCall} {manifest : WebSystemManifest}
  {systemId : UUID} {P : Stage OnboardStage OnboardContext Db String → Prop}

theorem leavesAdministration_refreshAuth (db : Db) :
    LeavesAdministration db (ControlPlane.refreshAuth call.ids call.now systemId db).1 := by
  unfold ControlPlane.refreshAuth
  split <;> exact ⟨rfl, rfl, rfl, rfl, rfl⟩

theorem leavesAdministration_triggerCrawl (db : Db) :
    LeavesAdministration db (triggerCrawl call manifest systemId db).1 := by
  unfold triggerCrawl
  split
  · exact ⟨rfl, rfl, rfl, rfl, rfl⟩
  · unfold ControlPlane.triggerCrawl
    split <;> exact ⟨rfl, rfl, rfl, rfl, rfl⟩

theorem leavesAdministration_renderPageCheckScript (controlPlaneService : ControlPlaneService)
    (pageCheckId : UUID) (renderMode : String) (db : Db) :
    LeavesAdministration db (ControlPlane.renderPageCheckScript controlPlaneService call.ids call.now
      pageCheckId renderMode db).1 := by
  unfold ControlPlane.renderPageCheckScript
  split
  · exact ⟨rfl, rfl, rfl, rfl, rfl⟩
  · split
    · exact ⟨rfl, rfl, rfl, rfl, rfl⟩
    · unfold ScriptRenderer.renderPageCheck
      split
      · exact ⟨rfl, rfl, rfl, rfl, rfl⟩
      · split <;> exact ⟨rfl, rfl, rfl, rfl, rfl⟩

/-- **The stages before the publishing**: both policies are set to disabled, and the rest is
quiet. -/
theorem forall_mem_preparing
    (hauth : P (calling .disableAuth
      (fun _ => upsertAuthPolicy service call manifest systemId false) fun c _ => c))
    (hcrawl : P (calling .disableCrawl
      (fun _ => upsertCrawlPolicy service call manifest systemId false) fun c _ => c))
    (hquiet : ∀ stage, Quiet stage → P stage) :
    ∀ stage ∈ preparing service call manifest systemId, P stage := by
  have hcall : ∀ {α : Type} (name : OnboardStage) (act : OnboardContext → Db → Transacted α)
      (pass : OnboardContext → α → OnboardContext), name ∉ changing →
      (∀ c db, LeavesAdministration db (act c db).1) → P (calling name act pass) :=
    fun name act pass hname hleaves => hquiet _ ⟨hleaves, hname⟩
  have hread : ∀ {α : Type} (name : OnboardStage) (find : OnboardContext → Db → Except String α)
      (pass : OnboardContext → α → OnboardContext), name ∉ changing → P (reading name find pass) :=
    fun name find pass hname => hcall name _ pass hname fun _ _ => ⟨rfl, rfl, rfl, rfl, rfl⟩
  intro stage hstage
  simp only [preparing, upsertRuntimePolicies, List.cons_append, List.nil_append, List.mem_cons,
    List.not_mem_nil, or_false] at hstage
  rcases hstage with rfl | rfl | rfl | rfl | rfl | rfl | rfl | rfl | rfl | rfl | rfl | rfl | rfl
  · exact hauth
  · exact hcrawl
  · exact hcall _ _ _ (by decide) fun _ => leavesAdministration_refreshAuth
  · exact hcall _ _ _ (by decide) fun c => service.jobExecutor.leaves_runAuthRefresh c.authJobId
  · exact hread _ _ _ (by decide)
  · exact hcall _ _ _ (by decide) fun _ => leavesAdministration_triggerCrawl
  · exact hcall _ _ _ (by decide) fun c => service.jobExecutor.leaves_runCrawl c.crawlJobId
  · exact hread _ _ _ (by decide)
  · exact hread _ _ _ (by decide)
  · exact hcall _ _ _ (by decide) fun c => service.jobExecutor.leaves_runAssetCompile c.compileJobId
  · exact hread _ _ _ (by decide)
  · exact hread _ _ _ (by decide)
  · exact hcall _ _ _ (by decide) fun c =>
      leavesAdministration_renderPageCheckScript _ c.pageCheckId "published"

/-- **The stages from the publishing on**: the job is created, a quiet stage follows, and both
policies are set as the manifest says. -/
theorem forall_mem_publishing
    (hpublish : P (calling .createPublishedJob
      (fun c => createPublishedJob service call manifest c.pageCheckId c.scriptRenderId)
      fun c created => { c with publishedJobId := created.publishedJobId }))
    (hquiet : ∀ stage, Quiet stage → P stage)
    (hauth : P (calling .enableAuth
      (fun _ => upsertAuthPolicy service call manifest systemId manifest.authPolicy.enabled)
      fun c _ => c))
    (hcrawl : P (calling .enableCrawl
      (fun _ => upsertCrawlPolicy service call manifest systemId manifest.crawlPolicy.enabled)
      fun c _ => c)) :
    ∀ stage ∈ publishing service call manifest systemId, P stage := by
  intro stage hstage
  simp only [publishing, upsertRuntimePolicies, List.cons_append, List.nil_append, List.mem_cons,
    List.not_mem_nil, or_false] at hstage
  rcases hstage with rfl | rfl | rfl | rfl
  · exact hpublish
  · exact hquiet _ ⟨fun _ _ => ⟨rfl, rfl, rfl, rfl, rfl⟩, by decide⟩
  · exact hauth
  · exact hcrawl

end Quiet

/-! ## How a stage ends -/

section Calling

variable {α : Type} {name : OnboardStage} {act : OnboardContext → Db → Transacted α}
  {pass : OnboardContext → α → OnboardContext} {c c' : OnboardContext} {db db' : Db} {e : String}

theorem act_calling_ok (h : (calling name act pass).act c db = (db', .ok c')) :
    ∃ a, act c db = (db', .ok a) ∧ pass c a = c' := by
  obtain ⟨hdb, hresult⟩ := Prod.mk.inj h
  cases hact : (act c db).2 with
  | error e =>
    rw [hact] at hresult
    exact nomatch hresult
  | ok a =>
    rw [hact] at hresult
    exact ⟨a, Prod.ext hdb hact, Except.ok.inj hresult⟩

theorem act_calling_error (h : (calling name act pass).act c db = (db', .error e)) :
    act c db = (db', .error e) := by
  obtain ⟨hdb, hresult⟩ := Prod.mk.inj h
  cases hact : (act c db).2 with
  | error e' =>
    rw [hact] at hresult
    exact Prod.ext hdb (hact.trans (congrArg Except.error (Except.error.inj hresult)))
  | ok a =>
    rw [hact] at hresult
    exact nomatch hresult

/-- What the call keeps, its stage keeps. -/
theorem keeps_calling {P : Db → Prop} (h : ∀ c db, P db → P (act c db).1) :
    (calling name act pass).Keeps P := h

theorem passes_calling {Q : OnboardContext → Prop} (h : ∀ c a, Q c → Q (pass c a)) :
    (calling name act pass).Passes Q := by
  intro c db db' c' hc hact
  obtain ⟨a, -, rfl⟩ := act_calling_ok hact
  exact h c a hc

end Calling

theorem map_name_raisingAt (raises : OnboardStage → Option String)
    (stages : List (Stage OnboardStage OnboardContext Db String)) :
    (raisingAt raises stages).map Stage.name = stages.map Stage.name := by
  unfold raisingAt
  rw [List.map_map]
  exact List.map_congr_left fun stage _ => Stages.Stage.name_raising _ _

/-- What holds of the stages, raised or not, holds of the stages of a call. -/
theorem forall_mem_raisingAt {P : Stage OnboardStage OnboardContext Db String → Prop}
    {stages : List (Stage OnboardStage OnboardContext Db String)}
    {raises : OnboardStage → Option String}
    (hraising : ∀ stage raised, P stage → P (stage.raising raised)) (h : ∀ stage ∈ stages, P stage) :
    ∀ stage ∈ raisingAt raises stages, P stage := by
  intro stage hstage
  obtain ⟨stage', hstage', rfl⟩ := List.mem_map.mp hstage
  exact hraising stage' _ (h stage' hstage')

/-! ## The published job -/

section Publish

variable {service : SystemAdminService} {call : OnboardCall} {manifest : WebSystemManifest}
  {pageCheckId scriptRenderId : UUID} {db : Db}

/-- The row is the job that the manifest asks for with a check. -/
structure IsAskedFor (manifest : WebSystemManifest) (pageCheckId : UUID) (job : PublishedJob) :
    Prop where
  pageCheckId : job.pageCheckId = pageCheckId
  scheduleExpr : job.scheduleExpr = manifest.publish.scheduleExpr.text
  state : job.state = .active ↔ manifest.publish.enabled = true

/-- **Creating the published job** is refused, or adds the row that is asked for. -/
theorem createPublishedJob_cases :
    (∃ e, createPublishedJob service call manifest pageCheckId scriptRenderId db =
        (db, .error e)) ∨
      ∃ jobs created job, createPublishedJob service call manifest pageCheckId scriptRenderId db =
          ({ db with publishedJobs := jobs }, .ok created) ∧
        jobs.rows = db.publishedJobs.rows ++ [job] ∧ (∀ old ∈ db.publishedJobs, old.id ≠ job.id) ∧
        IsAskedFor manifest pageCheckId job := by
  unfold createPublishedJob PublishedJobs.buildRequest
  rw [dif_neg (by decide), manifest.publish.scheduleExpr.stripped,
    dif_neg manifest.publish.scheduleExpr.nonempty, dif_neg (by decide)]
  dsimp only
  unfold ControlPlane.createPublishedJob
  split
  · exact Or.inl ⟨_, rfl⟩
  · unfold PublishedJobs.createPublishedJob
    split
    · exact Or.inl ⟨_, rfl⟩
    · split
      · exact Or.inl ⟨_, rfl⟩
      · split
        · exact Or.inl ⟨_, rfl⟩
        · refine Or.inr ⟨_, _, _, rfl, rfl, ?_, rfl, rfl, ?_⟩
          · intro old hold
            exact Table.key_ne_nextKey db.publishedJobs call.ids hold
          · unfold PublishedJobs.publishedJobRow
            cases manifest.publish.enabled <;> simp

end Publish

/-! ## What a chain keeps -/

/-- A system has at most one policy of each kind, as the unique columns of the two tables say. -/
structure OnePolicyEach (db : Db) : Prop where
  auth : Table.AtMostOne (fun systemId (policy : SystemAuthPolicy) =>
    ControlPlane.ofSystem systemId policy.toRuntimePolicy) db.systemAuthPolicies
  crawl : Table.AtMostOne (fun systemId (policy : SystemCrawlPolicy) =>
    ControlPlane.ofSystem systemId policy.toRuntimePolicy) db.systemCrawlPolicies

/-- The systems and their credentials are the ones there were, and each system has at most one
policy of each kind. -/
structure Undisturbed (before db : Db) : Prop where
  systems : db.systems = before.systems
  systemCredentials : db.systemCredentials = before.systemCredentials
  policies : OnePolicyEach db

/-- The published jobs are the ones there were, in whatever state. -/
def SameJobs (before db : Db) : Prop :=
  db.publishedJobs.rows.map key = before.publishedJobs.rows.map key

/-- The stages that come after the commit of the published job. -/
def afterPublishing : List OnboardStage :=
  [.refreshPublishedJob, .enableAuth, .enableCrawl]

section Chain

variable {service : SystemAdminService} {call : OnboardCall} {manifest : WebSystemManifest}
  {systemId : UUID} {before : Db} {raises : OnboardStage → Option String}

theorem disjoint_ofSystem {α : Type} (row : α → RuntimePolicy) :
    Table.Disjoint fun systemId (policy : α) => ControlPlane.ofSystem systemId (row policy) := by
  intro systemId systemId' policy h h'
  exact (of_decide_eq_true h).symm.trans (of_decide_eq_true h')

theorem Undisturbed.upsertAuthPolicy {db : Db} (h : Undisturbed before db) (enabled : Bool) :
    Undisturbed before
      (SystemAdmin.upsertAuthPolicy service call manifest systemId enabled db).1 := by
  rcases upsertAuthPolicy_cases service call manifest systemId enabled db with
    ⟨-, e, he⟩ | ⟨-, policies, policy, hok, hwrites, -⟩
  · rw [he]
    exact h
  · rw [hok]
    exact ⟨h.systems, h.systemCredentials,
      hwrites.atMostOne (disjoint_ofSystem _) h.policies.auth, h.policies.crawl⟩

theorem Undisturbed.upsertCrawlPolicy {db : Db} (h : Undisturbed before db) (enabled : Bool) :
    Undisturbed before
      (SystemAdmin.upsertCrawlPolicy service call manifest systemId enabled db).1 := by
  rcases upsertCrawlPolicy_cases service call manifest systemId enabled db with
    ⟨-, e, he⟩ | ⟨-, policies, policy, hok, hwrites, -⟩
  · rw [he]
    exact h
  · rw [hok]
    exact ⟨h.systems, h.systemCredentials, h.policies.auth,
      hwrites.atMostOne (disjoint_ofSystem _) h.policies.crawl⟩

theorem Undisturbed.of_leaves {db db' : Db} (h : Undisturbed before db)
    (hleaves : LeavesAdministration db db') : Undisturbed before db' where
  systems := hleaves.systems.trans h.systems
  systemCredentials := hleaves.systemCredentials.trans h.systemCredentials
  policies := ⟨hleaves.systemAuthPolicies ▸ h.policies.auth,
    hleaves.systemCrawlPolicies ▸ h.policies.crawl⟩

/-- Every stage keeps the administration in order, whether it raises or not. -/
theorem keeps_undisturbed :
    ∀ stage ∈ raisingAt raises
      (preparing service call manifest systemId ++ publishing service call manifest systemId),
      stage.Keeps (Undisturbed before) := by
  have hquiet : ∀ stage, Quiet stage → stage.Keeps (Undisturbed before) := fun stage h c db hdb =>
    hdb.of_leaves (h.leaves c db)
  refine forall_mem_raisingAt (P := fun stage => stage.Keeps (Undisturbed before))
    (fun stage raised h => h.raising raised) fun stage hstage => ?_
  rcases List.mem_append.mp hstage with hmem | hmem
  · exact forall_mem_preparing (P := fun stage => stage.Keeps (Undisturbed before))
      (keeps_calling fun _ _ h => h.upsertAuthPolicy false)
      (keeps_calling fun _ _ h => h.upsertCrawlPolicy false) hquiet stage hmem
  · refine forall_mem_publishing (P := fun stage => stage.Keeps (Undisturbed before)) ?_ hquiet
      (keeps_calling fun _ _ h => h.upsertAuthPolicy manifest.authPolicy.enabled)
      (keeps_calling fun _ _ h => h.upsertCrawlPolicy manifest.crawlPolicy.enabled) stage hmem
    refine keeps_calling fun c db h => ?_
    rcases @createPublishedJob_cases service call manifest _ _ db with ⟨e, he⟩ | ⟨jobs, created, job, hok, -⟩
    · rw [he]
      exact h
    · rw [hok]
      exact ⟨h.systems, h.systemCredentials, ⟨h.policies.auth, h.policies.crawl⟩⟩

/-- Setting a policy leaves the published jobs. -/
theorem publishedJobs_upsertAuthPolicy (enabled : Bool) (db : Db) :
    (upsertAuthPolicy service call manifest systemId enabled db).1.publishedJobs =
      db.publishedJobs := by
  rcases upsertAuthPolicy_cases service call manifest systemId enabled db with
    ⟨-, e, he⟩ | ⟨-, policies, policy, hok, -⟩
  · rw [he]
  · rw [hok]

theorem publishedJobs_upsertCrawlPolicy (enabled : Bool) (db : Db) :
    (upsertCrawlPolicy service call manifest systemId enabled db).1.publishedJobs =
      db.publishedJobs := by
  rcases upsertCrawlPolicy_cases service call manifest systemId enabled db with
    ⟨-, e, he⟩ | ⟨-, policies, policy, hok, -⟩
  · rw [he]
  · rw [hok]

theorem SameJobs.of_eq {db db' : Db} (h : SameJobs before db)
    (hjobs : db'.publishedJobs = db.publishedJobs) : SameJobs before db' := by
  unfold SameJobs
  rw [hjobs]
  exact h

/-- Where the jobs are the same, no job is new. -/
theorem SameJobs.exists_old {db : Db} (h : SameJobs before db) {job : PublishedJob}
    (hjob : job ∈ db.publishedJobs) : ∃ old ∈ before.publishedJobs, old.id = job.id := by
  have hkey : key job ∈ before.publishedJobs.rows.map key := by
    rw [← h]
    exact List.mem_map_of_mem hjob
  exact List.mem_map.mp hkey

/-- Up to the publishing no job is added. -/
theorem keeps_sameJobs :
    ∀ stage ∈ raisingAt raises (preparing service call manifest systemId),
      stage.Keeps (SameJobs before) := by
  refine forall_mem_raisingAt (P := fun stage => stage.Keeps (SameJobs before))
    (fun stage raised h => h.raising raised)
    (forall_mem_preparing (P := fun stage => stage.Keeps (SameJobs before)) ?_ ?_ ?_)
  · exact keeps_calling fun c db h => h.of_eq (publishedJobs_upsertAuthPolicy false db)
  · exact keeps_calling fun c db h => h.of_eq (publishedJobs_upsertCrawlPolicy false db)
  · intro stage hquiet c db h
    exact (hquiet.leaves c db).publishedJobs.trans h

/-- The stages after the publishing. -/
def finishing (service : SystemAdminService) (call : OnboardCall) (manifest : WebSystemManifest)
    (systemId : UUID) : List (Stage OnboardStage OnboardContext Db String) :=
  (publishing service call manifest systemId).tail

/-- After the publishing the jobs and the check that was published stay. -/
theorem keeps_finishing (jobs : Table PublishedJob) (pageCheckId : UUID) :
    ∀ stage ∈ raisingAt raises (finishing service call manifest systemId),
      stage.Keeps (fun db : Db => db.publishedJobs = jobs) ∧
        stage.Passes (fun c : OnboardContext => c.pageCheckId = pageCheckId) ∧
          stage.name ∈ afterPublishing := by
  refine forall_mem_raisingAt (P := fun stage =>
      stage.Keeps (fun db : Db => db.publishedJobs = jobs) ∧
        stage.Passes (fun c : OnboardContext => c.pageCheckId = pageCheckId) ∧
          stage.name ∈ afterPublishing)
    (fun stage raised h => ⟨h.1.raising raised, h.2.1.raising raised, h.2.2⟩) fun stage hstage => ?_
  simp only [finishing, publishing, upsertRuntimePolicies, List.cons_append, List.nil_append,
    List.tail_cons, List.mem_cons, List.not_mem_nil, or_false] at hstage
  rcases hstage with rfl | rfl | rfl
  · exact ⟨keeps_calling fun _ _ h => h, passes_calling fun _ _ h => h, List.mem_cons_self⟩
  · exact ⟨keeps_calling fun _ db h =>
        (publishedJobs_upsertAuthPolicy manifest.authPolicy.enabled db).trans h,
      passes_calling fun _ _ h => h, List.mem_cons_of_mem _ List.mem_cons_self⟩
  · exact ⟨keeps_calling fun _ db h =>
        (publishedJobs_upsertCrawlPolicy manifest.crawlPolicy.enabled db).trans h,
      passes_calling fun _ _ h => h,
      List.mem_cons_of_mem _ (List.mem_cons_of_mem _ List.mem_cons_self)⟩

/-- What a chain leaves of the published jobs: it raised before the publishing was committed and
added none, or it added the job that is asked for with the check that was selected. -/
inductive JobsCase (manifest : WebSystemManifest) (before after : Db) :
    Except (OnboardStage × String) OnboardContext → Prop where
  | unpublished (raised : OnboardStage × String) (hstage : raised.1 ∉ afterPublishing)
      (hsame : SameJobs before after) : JobsCase manifest before after (.error raised)
  | published (result : Except (OnboardStage × String) OnboardContext) (job : PublishedJob)
      (pageCheckId : UUID) (hmem : job ∈ after.publishedJobs)
      (hnew : ∀ old ∈ before.publishedJobs, old.id ≠ job.id)
      (honly : ∀ other ∈ after.publishedJobs,
        (∀ old ∈ before.publishedJobs, old.id ≠ other.id) → other = job)
      (hjob : IsAskedFor manifest pageCheckId job)
      (hraised : ∀ raised, result = .error raised → raised.1 ∈ afterPublishing)
      (hcheck : ∀ c, result = .ok c → c.pageCheckId = pageCheckId) :
      JobsCase manifest before after result

/-- The names of the stages before the publishing. -/
theorem name_notMem_of_preparing :
    ∀ stage ∈ raisingAt raises (preparing service call manifest systemId),
      stage.name ∉ afterPublishing := by
  intro stage hstage
  have hname : stage.name ∈
      (raisingAt raises (preparing service call manifest systemId)).map Stage.name :=
    List.mem_map_of_mem hstage
  rw [map_name_raisingAt] at hname
  simp only [preparing, upsertRuntimePolicies, calling, reading, List.cons_append, List.nil_append,
    List.map_cons, List.map_nil] at hname
  revert hname
  cases stage.name <;> decide

/-- What the stages from the publishing on leave of the published jobs. -/
theorem jobsCase_publishing {c : OnboardContext} {db : Db} (h : SameJobs before db) :
    JobsCase manifest before
      (Stages.run (raisingAt raises (publishing service call manifest systemId)) c db).1
      (Stages.run (raisingAt raises (publishing service call manifest systemId)) c db).2 := by
  let create : Stage OnboardStage OnboardContext Db String := calling .createPublishedJob
    (fun c => createPublishedJob service call manifest c.pageCheckId c.scriptRenderId)
    fun c created => { c with publishedJobId := created.publishedJobId }
  have hsplit : raisingAt raises (publishing service call manifest systemId) =
      create.raising (raises create.name) ::
        raisingAt raises (finishing service call manifest systemId) := rfl
  rw [hsplit]
  cases hact : (create.raising (raises create.name)).act c db with
  | mk db₁ result =>
    cases result with
    | error e =>
      rw [Stages.run_cons_error hact]
      have hsame : db₁ = db := by
        rcases Stages.Stage.act_of_raising_error hact with hown | hsame
        · have hcreate := act_calling_error hown
          rcases @createPublishedJob_cases service call manifest _ _ db with ⟨e', he⟩ | ⟨jobs, created, job, hok, -⟩
          · rw [he] at hcreate
            exact (Prod.mk.inj hcreate).1.symm
          · rw [hok] at hcreate
            exact nomatch hcreate
        · exact hsame
      have hname : OnboardStage.createPublishedJob ∉ afterPublishing := by decide
      exact .unpublished (.createPublishedJob, e) hname (hsame ▸ h)
    | ok c₁ =>
      rw [Stages.run_cons_ok hact]
      obtain ⟨created', hcreate, rfl⟩ := act_calling_ok (Stages.Stage.act_of_raising_ok hact)
      rcases @createPublishedJob_cases service call manifest _ _ db with
        ⟨e', he⟩ | ⟨jobs, created, job, hok, hrows, hnew, hjob⟩
      · rw [he] at hcreate
        exact nomatch hcreate
      · rw [hok] at hcreate
        have hdb₁ : db₁.publishedJobs = jobs := congrArg Db.publishedJobs (Prod.mk.inj hcreate).1.symm
        have hfinish := @keeps_finishing service call manifest systemId raises jobs c.pageCheckId
        generalize hrun : Stages.run _ _ db₁ = ran
        have hjobs : ran.1.publishedJobs = jobs := by
          rw [← hrun]
          exact Stages.run_keeps (fun stage hstage => (hfinish stage hstage).1) hdb₁
        have hmem : ∀ other, other ∈ ran.1.publishedJobs ↔ other ∈ db.publishedJobs ∨ other = job := by
          intro other
          rw [hjobs, Table.mem_def, hrows, List.mem_append, List.mem_singleton, Table.mem_def]
        refine .published _ job c.pageCheckId ((hmem job).mpr (Or.inr rfl)) ?_ ?_ hjob ?_ ?_
        · intro old hold heq
          obtain ⟨old', hold', hid⟩ := @SameJobs.exists_old db before h.symm _ hold
          exact hnew old' hold' (hid.trans heq)
        · intro other hother hfresh
          rcases (hmem other).mp hother with hold | hother
          · obtain ⟨old', hold', hid⟩ := h.exists_old hold
            exact absurd hid (hfresh old' hold')
          · exact hother
        · intro raised hraised
          obtain ⟨stage, hstage, hname⟩ := Stages.name_mem_of_error
            (hrun.trans (Prod.ext rfl hraised))
          exact hname ▸ (hfinish stage hstage).2.2
        · intro c' hc'
          have hended := hrun.trans (Prod.ext rfl hc' : ran = (ran.1, .ok c'))
          have hpassed : c'.pageCheckId = c.pageCheckId := Stages.run_passes
            (fun stage hstage => (hfinish stage hstage).2.1)
            (c := { c with publishedJobId := created'.publishedJobId }) rfl hended
          exact hpassed

/-- **What a chain leaves of the published jobs.** -/
theorem jobsCase_run (c : OnboardContext) (before : Db) :
    JobsCase manifest before
      (Stages.run (raisingAt raises (preparing service call manifest systemId ++
        publishing service call manifest systemId)) c before).1
      (Stages.run (raisingAt raises (preparing service call manifest systemId ++
        publishing service call manifest systemId)) c before).2 := by
  have hsplit : raisingAt raises (preparing service call manifest systemId ++
      publishing service call manifest systemId) =
      raisingAt raises (preparing service call manifest systemId) ++
        raisingAt raises (publishing service call manifest systemId) := List.map_append
  have hsame := Stages.run_keeps (c := c) (@keeps_sameJobs service call manifest systemId before raises)
    (rfl : SameJobs before before)
  rw [hsplit, Stages.run_append]
  cases hrun : Stages.run (raisingAt raises (preparing service call manifest systemId)) c before with
  | mk db₁ result =>
    rw [hrun] at hsame
    cases result with
    | error raised =>
      obtain ⟨stage, hstage, hname⟩ := Stages.name_mem_of_error hrun
      exact .unpublished raised (hname ▸ name_notMem_of_preparing stage hstage) hsame
    | ok c₁ => exact jobsCase_publishing hsame

end Chain

/-! ## Registering -/

section Register

variable {service : SystemAdminService} {call : OnboardCall} {manifest : WebSystemManifest}

/-- What is committed first: the row of the system and the row of its credential are written. -/
structure Registers (manifest : WebSystemManifest) (db registered : Db) (system : System) : Prop where
  systems : Table.Writes (hasCode manifest.system.code.text) db.systems registered.systems system
  systemCredentials : ∃ credential, Table.Writes (isCredentialOf system.id) db.systemCredentials
    registered.systemCredentials credential
  oneCredential : (db.systemCredentials.select (isCredentialOf system.id)).length ≤ 1
  systemAuthPolicies : registered.systemAuthPolicies = db.systemAuthPolicies
  systemCrawlPolicies : registered.systemCrawlPolicies = db.systemCrawlPolicies
  publishedJobs : registered.publishedJobs = db.publishedJobs

theorem registers_of_registerSystem {db registered : Db} {system : System}
    (h : registerSystem service call manifest db = .ok (registered, system)) :
    Registers manifest db registered system := by
  unfold registerSystem upsertSystemCredentials at h
  dsimp only at h
  split at h
  · exact nomatch h
  · rename_i credentials hcredentials
    obtain ⟨rfl, rfl⟩ := Prod.mk.inj (Except.ok.inj h)
    split at hcredentials
    · exact nomatch hcredentials
    · rename_i hcount
      refine ⟨Table.writes_upsert (fun _ hcode => hcode) fun id => decide_eq_true rfl, ?_,
        Nat.le_of_not_lt hcount, rfl, rfl, rfl⟩
      rw [← Except.ok.inj hcredentials]
      exact ⟨_, Table.writes_upsert (fun _ hof => hof) fun id => decide_eq_true rfl⟩

/-- The system that was registered can be found. -/
theorem Registers.get? {db registered : Db} {system : System}
    (h : Registers manifest db registered system) :
    (registered.systems.get? system.id).isSome = true := by
  rw [Option.isSome_iff_exists]
  exact ⟨system, Table.get?_key h.systems.self_mem⟩

end Register

end SystemAdmin

end Runlet
