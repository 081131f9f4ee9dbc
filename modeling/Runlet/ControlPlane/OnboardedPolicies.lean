import Runlet.ControlPlane.SystemAdminSpec

/-!
# What an onboarding makes of the policies

`PolicyFlags` is the part of the database that the policies of a system make up: whether there is
one of each kind, and whether it is enabled.  Each stage of the chain acts on it in its own way
(`effect`), so what a chain leaves of it is read off the stage that raised
(`policyFlags_of_error`), or off the manifest (`policyFlags_of_ok`).
-/

namespace Runlet

open KeyedTable

namespace SystemAdmin

open Stages (Stage)

/-- The policies of a system, by whether they are enabled. -/
structure PolicyFlags where
  auth : Option Bool
  crawl : Option Bool

def policyFlags (systemId : UUID) (db : Db) : PolicyFlags where
  auth := (db.systemAuthPolicies.first? fun policy =>
    ControlPlane.ofSystem systemId policy.toRuntimePolicy).map fun policy => policy.enabled
  crawl := (db.systemCrawlPolicies.first? fun policy =>
    ControlPlane.ofSystem systemId policy.toRuntimePolicy).map fun policy => policy.enabled

section Flags

variable {service : SystemAdminService} {call : OnboardCall} {manifest : WebSystemManifest}
  {systemId : UUID}

/-- What the stages do to the policies. -/
def effect (manifest : WebSystemManifest) : OnboardStage → PolicyFlags → PolicyFlags
  | .disableAuth, flags => { flags with auth := some false }
  | .disableCrawl, flags => { flags with crawl := some false }
  | .enableAuth, flags => { flags with auth := some manifest.authPolicy.enabled }
  | .enableCrawl, flags => { flags with crawl := some manifest.crawlPolicy.enabled }
  | _, flags => flags

/-- The stage does to the policies what its name says, unless it raises. -/
def ActsAsNamed (manifest : WebSystemManifest) (systemId : UUID)
    (stage : Stage OnboardStage OnboardContext Db String) : Prop :=
  stage.Follows (policyFlags systemId) (effect manifest stage.name)

theorem follows_upsertAuthPolicy (name : OnboardStage) (enabled : Bool) :
    (calling name (fun _ => upsertAuthPolicy service call manifest systemId enabled)
      fun c _ => c).Follows (policyFlags systemId) fun flags => { flags with auth := some enabled } where
  ok c db db' c' hact := by
    obtain ⟨policy', hupsert, -⟩ := act_calling_ok hact
    rcases upsertAuthPolicy_cases service call manifest systemId enabled db with ⟨-, e, he⟩ | ⟨-, policies, policy, hok, hwrites, henabled⟩
    · rw [he] at hupsert
      exact nomatch hupsert
    · rw [hok] at hupsert
      rw [← (Prod.mk.inj hupsert).1]
      unfold policyFlags
      rw [hwrites.first?, Option.map_some, henabled]
  error c db db' e hact := by
    have hupsert := act_calling_error hact
    rcases upsertAuthPolicy_cases service call manifest systemId enabled db with ⟨-, e', he⟩ | ⟨-, policies, policy, hok, -⟩
    · rw [he] at hupsert
      rw [← (Prod.mk.inj hupsert).1]
    · rw [hok] at hupsert
      exact nomatch hupsert

theorem follows_upsertCrawlPolicy (name : OnboardStage) (enabled : Bool) :
    (calling name (fun _ => upsertCrawlPolicy service call manifest systemId enabled)
      fun c _ => c).Follows (policyFlags systemId) fun flags => { flags with crawl := some enabled } where
  ok c db db' c' hact := by
    obtain ⟨policy', hupsert, -⟩ := act_calling_ok hact
    rcases upsertCrawlPolicy_cases service call manifest systemId enabled db with ⟨-, e, he⟩ | ⟨-, policies, policy, hok, hwrites, henabled⟩
    · rw [he] at hupsert
      exact nomatch hupsert
    · rw [hok] at hupsert
      rw [← (Prod.mk.inj hupsert).1]
      unfold policyFlags
      rw [hwrites.first?, Option.map_some, henabled]
  error c db db' e hact := by
    have hupsert := act_calling_error hact
    rcases upsertCrawlPolicy_cases service call manifest systemId enabled db with ⟨-, e', he⟩ | ⟨-, policies, policy, hok, -⟩
    · rw [he] at hupsert
      rw [← (Prod.mk.inj hupsert).1]
    · rw [hok] at hupsert
      exact nomatch hupsert

theorem policyFlags_congr {db db' : Db} (h : db'.systemAuthPolicies = db.systemAuthPolicies)
    (h' : db'.systemCrawlPolicies = db.systemCrawlPolicies) :
    policyFlags systemId db' = policyFlags systemId db := by
  unfold policyFlags
  rw [h, h']

/-- A stage that leaves both tables of policies alone. -/
theorem actsAsNamed_of_tables {stage : Stage OnboardStage OnboardContext Db String}
    (hname : effect manifest stage.name = id)
    (h : ∀ c db, (stage.act c db).1.systemAuthPolicies = db.systemAuthPolicies ∧
      (stage.act c db).1.systemCrawlPolicies = db.systemCrawlPolicies) :
    ActsAsNamed manifest systemId stage := by
  have hview : ∀ c db, policyFlags systemId (stage.act c db).1 = policyFlags systemId db :=
    fun c db => policyFlags_congr (h c db).1 (h c db).2
  unfold ActsAsNamed
  rw [hname]
  refine ⟨fun c db db' c' hact => ?_, fun c db db' e hact => ?_⟩
  · have hdb := hview c db
    rw [hact] at hdb
    exact hdb
  · have hdb := hview c db
    rw [hact] at hdb
    exact hdb

theorem actsAsNamed_of_quiet (stage : Stage OnboardStage OnboardContext Db String)
    (h : Quiet stage) : ActsAsNamed manifest systemId stage := by
  refine actsAsNamed_of_tables ?_ fun c db =>
    ⟨(h.leaves c db).systemAuthPolicies, (h.leaves c db).systemCrawlPolicies⟩
  have hname := h.name
  cases hcase : stage.name <;> first | rfl | exact absurd (by rw [hcase]; decide) hname

theorem actsAsNamed_createPublishedJob :
    ActsAsNamed manifest systemId (calling .createPublishedJob
      (fun c => createPublishedJob service call manifest c.pageCheckId c.scriptRenderId)
      fun c created => { c with publishedJobId := created.publishedJobId }) := by
  refine actsAsNamed_of_tables rfl fun c db => ?_
  unfold calling
  dsimp only
  rcases @createPublishedJob_cases service call manifest _ _ db with ⟨e, he⟩ | ⟨jobs, created, job, hok, -⟩
  · rw [he]
    exact ⟨rfl, rfl⟩
  · rw [hok]
    exact ⟨rfl, rfl⟩

/-- Every stage of the chain, made to raise or not, acts on the policies as its name says. -/
theorem actsAsNamed_stages (raises : OnboardStage → Option String) :
    ∀ stage ∈ raisingAt raises
      (preparing service call manifest systemId ++ publishing service call manifest systemId),
      ActsAsNamed manifest systemId stage := by
  refine forall_mem_raisingAt (P := ActsAsNamed manifest systemId)
    (fun stage raised h => h.raising raised) fun stage hstage => ?_
  rcases List.mem_append.mp hstage with hmem | hmem
  · exact forall_mem_preparing (P := ActsAsNamed manifest systemId)
      (follows_upsertAuthPolicy _ _) (follows_upsertCrawlPolicy _ _) actsAsNamed_of_quiet stage hmem
  · exact forall_mem_publishing (P := ActsAsNamed manifest systemId)
      actsAsNamed_createPublishedJob actsAsNamed_of_quiet (follows_upsertAuthPolicy _ _)
      (follows_upsertCrawlPolicy _ _) stage hmem

/-- The names of the stages, in order. -/
theorem map_name_stages (raises : OnboardStage → Option String) :
    (raisingAt raises (preparing service call manifest systemId ++
        publishing service call manifest systemId)).map Stage.name =
      [.disableAuth, .disableCrawl, .refreshAuth, .runAuthRefresh, .ensureAuthRefresh,
        .triggerCrawl, .runCrawl, .findSnapshot, .findCompileJob, .runAssetCompile,
        .ensureAssetCompile, .findPublishTarget, .renderScript, .createPublishedJob,
        .refreshPublishedJob, .enableAuth, .enableCrawl] :=
  map_name_raisingAt raises _

/-- **What is left of the policies when a stage raises.** -/
theorem policyFlags_of_error {raises : OnboardStage → Option String} {c : OnboardContext}
    {db db' : Db} {raised : OnboardStage × String}
    (hrun : Stages.run (raisingAt raises (preparing service call manifest systemId ++
      publishing service call manifest systemId)) c db = (db', .error raised)) :
    policyFlags systemId db' =
      { auth := if raised.1 = .disableAuth then (policyFlags systemId db).auth
          else some (raised.1 = .enableCrawl && manifest.authPolicy.enabled)
        crawl := if raised.1 = .disableAuth ∨ raised.1 = .disableCrawl then
          (policyFlags systemId db).crawl else some false } := by
  have hview := Stages.view_of_run_error (actsAsNamed_stages raises)
    (by rw [map_name_stages]; decide) hrun
  obtain ⟨stage, hstage, hname⟩ := Stages.name_mem_of_error hrun
  have hmem : raised.1 ∈ (raisingAt raises (preparing service call manifest systemId ++
      publishing service call manifest systemId)).map Stage.name :=
    hname ▸ List.mem_map_of_mem hstage
  rw [map_name_stages] at hmem hview
  rw [hview]
  cases hcase : raised.1 <;> first | rfl | exact absurd (hcase ▸ hmem) (by decide)

/-- **What is left of the policies when no stage raises**: they are as the manifest says. -/
theorem policyFlags_of_ok {raises : OnboardStage → Option String} {c c' : OnboardContext}
    {db db' : Db}
    (hrun : Stages.run (raisingAt raises (preparing service call manifest systemId ++
      publishing service call manifest systemId)) c db = (db', .ok c')) :
    policyFlags systemId db' =
      { auth := some manifest.authPolicy.enabled
        crawl := some manifest.crawlPolicy.enabled } := by
  rw [Stages.view_of_run_ok (actsAsNamed_stages raises) hrun, map_name_stages]
  rfl

variable (systemId) in
/-- With one policy each, the flags tell of all policies of the system. -/
theorem policyFlags_auth_iff {db : Db} (h : OnePolicyEach db) :
    (policyFlags systemId db).auth ≠ some true ↔
      ∀ policy ∈ db.systemAuthPolicies, policy.systemId = systemId → policy.enabled = false := by
  refine h.auth.map_first?_ne.trans (forall₂_congr fun policy _ => ?_)
  rw [ControlPlane.ofSystem, decide_eq_true_eq]

variable (systemId) in
theorem policyFlags_crawl_iff {db : Db} (h : OnePolicyEach db) :
    (policyFlags systemId db).crawl ≠ some true ↔
      ∀ policy ∈ db.systemCrawlPolicies, policy.systemId = systemId → policy.enabled = false := by
  refine h.crawl.map_first?_ne.trans (forall₂_congr fun policy _ => ?_)
  rw [ControlPlane.ofSystem, decide_eq_true_eq]

end Flags

end SystemAdmin

end Runlet
