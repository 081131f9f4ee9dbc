import Runlet.ControlPlane.SchedulerRegistry

/-!
# Reloading the scheduler

After a reload the registry's jobs are meant to be the image of the tables: one for every active
published job and for every enabled policy, with the trigger of its current expression, and none
for anything else.

The reload visits the rows that are there, one after the other.  A job whose row is gone is not
visited, and stays; and an expression the package refuses ends the loop, so that the rows after it
are not visited either.

* `Row`: what the three loops visit, as one list of rows.
* `loadAllFromDb_eq`: the three loops load this list.
* `reload_converges_iff`: the reload converges exactly when the jobs it does not get to were right
  before.
-/

namespace Runlet

open KeyedTable SchedulerRegistry

namespace Reload

variable (fromCrontab : FromCrontab) (db : Db)

/-! ## The image of the tables -/

/-- A row of one of the three tables. -/
inductive Row where
  | publishedJob (job : PublishedJob)
  | authPolicy (policy : SystemAuthPolicy)
  | crawlPolicy (policy : SystemCrawlPolicy)

namespace Row

def jobId : Row → SchedulerJobId
  | publishedJob job => .publishedJob job.id
  | authPolicy policy => .authPolicy policy.systemId
  | crawlPolicy policy => .crawlPolicy policy.systemId

/-- An active published job, or an enabled policy. -/
def isActive : Row → Bool
  | publishedJob job => job.state = .active
  | authPolicy policy => policy.isActive
  | crawlPolicy policy => policy.isActive

/-- The scheduler job with the current expression of the row, if the package takes it. -/
def job : Row → Option SchedulerJob
  | publishedJob job => (fromCrontab job.scheduleExpr job.timezone).map
      fun trigger => ⟨trigger, "published_job", job.id⟩
  | authPolicy policy => (fromCrontab policy.scheduleExpr "UTC").map
      fun trigger => ⟨trigger, "auth_policy", policy.id⟩
  | crawlPolicy policy => (fromCrontab policy.scheduleExpr "UTC").map
      fun trigger => ⟨trigger, "crawl_policy", policy.id⟩

/-- The job the scheduler is meant to have for the row. -/
def wanted (row : Row) : Option SchedulerJob :=
  if row.isActive then row.job fromCrontab else none

/-- The row is inactive, or its expression is one the package takes. -/
def Usable (row : Row) : Prop :=
  row.isActive = true → (row.job fromCrontab).isSome = true

instance (row : Row) : Decidable (row.Usable fromCrontab) :=
  inferInstanceAs (Decidable (_ → _))

/-- What the loop writes for the row, if it can. -/
def value (row : Row) : Option (Option SchedulerJob) :=
  if row.Usable fromCrontab then some (row.wanted fromCrontab) else none

end Row

/-- The rows in the order of the loops. -/
def rows : List Row :=
  db.publishedJobs.rows.map .publishedJob ++ db.systemAuthPolicies.rows.map .authPolicy ++
    db.systemCrawlPolicies.rows.map .crawlPolicy

/-- The jobs are the image of the tables: the job of every row is the wanted one, and there is no
job without a row. -/
def Converged (jobs : SchedulerJobs) : Prop :=
  (∀ row ∈ rows db, jobs row.jobId = row.wanted fromCrontab) ∧
    ∀ jobId, jobId.Managed → (∀ row ∈ rows db, row.jobId ≠ jobId) → jobs jobId = none

/-- The jobs a reload does not get to are right: the job of each row from the first one on whose
expression the package refuses, and every job without a row. -/
def RightBeyond (jobs : SchedulerJobs) : Prop :=
  (∀ row ∈ (rows db).dropWhile fun row => row.Usable fromCrontab,
    jobs row.jobId = row.wanted fromCrontab) ∧
    ∀ jobId, jobId.Managed → (∀ row ∈ rows db, row.jobId ≠ jobId) → jobs jobId = none

/-- The unique constraints on `system_id`. -/
structure OnePolicyPerSystem : Prop where
  auth : ∀ p ∈ db.systemAuthPolicies, ∀ q ∈ db.systemAuthPolicies, p.systemId = q.systemId → p = q
  crawl : ∀ p ∈ db.systemCrawlPolicies, ∀ q ∈ db.systemCrawlPolicies,
    p.systemId = q.systemId → p = q

/-! ## The loops load the rows -/

variable {fromCrontab db}

/-- An inactive row has its job removed. -/
theorem removeJob_eq {r : Row} (h : r.isActive = false) (jobs : SchedulerJobs) :
    .ok (removeJob r.jobId jobs) = Loading.put Row.jobId (Row.value fromCrontab) jobs r := by
  simp [Loading.put, Row.value, Row.Usable, Row.wanted, h, removeJob]

/-- An active row has its job added, or raises. -/
theorem upsertJob_eq {r : Row} {scheduleExpr timezone kind : String} {entityId : UUID}
    (h : r.isActive = true)
    (hjob : r.job fromCrontab =
      (fromCrontab scheduleExpr timezone).map fun trigger => ⟨trigger, kind, entityId⟩)
    (jobs : SchedulerJobs) :
    upsertJob fromCrontab r.jobId scheduleExpr timezone kind entityId jobs =
      Loading.put Row.jobId (Row.value fromCrontab) jobs r := by
  rw [upsertJob]
  cases htrigger : fromCrontab scheduleExpr timezone with
  | none =>
    rw [htrigger, Option.map_none] at hjob
    simp [Loading.put, Row.value, Row.Usable, h, hjob]
  | some trigger =>
    rw [htrigger, Option.map_some] at hjob
    simp [Loading.put, Row.value, Row.Usable, Row.wanted, h, hjob]

theorem upsertPublishedJob_eq {job : PublishedJob} (h : job ∈ db.publishedJobs)
    (jobs : SchedulerJobs) :
    upsertPublishedJob fromCrontab db (key job) jobs =
      Loading.put Row.jobId (Row.value fromCrontab) jobs (.publishedJob job) := by
  simp only [upsertPublishedJob, Table.get?_key h]
  by_cases hactive : job.state = .active
  · rw [if_neg (not_not.mpr hactive)]
    exact upsertJob_eq (r := .publishedJob job) (by simp [Row.isActive, hactive]) rfl jobs
  · rw [if_pos hactive]
    exact removeJob_eq (r := .publishedJob job) (by simp [Row.isActive, hactive]) jobs

theorem upsertAuthPolicy_eq {policy : SystemAuthPolicy} (h : policy ∈ db.systemAuthPolicies)
    (jobs : SchedulerJobs) :
    upsertAuthPolicy fromCrontab db (key policy) jobs =
      Loading.put Row.jobId (Row.value fromCrontab) jobs (.authPolicy policy) := by
  simp only [upsertAuthPolicy, Table.get?_key h]
  cases hactive : policy.isActive with
  | true => exact upsertJob_eq (r := .authPolicy policy) hactive rfl jobs
  | false => exact removeJob_eq (r := .authPolicy policy) hactive jobs

theorem upsertCrawlPolicy_eq {policy : SystemCrawlPolicy} (h : policy ∈ db.systemCrawlPolicies)
    (jobs : SchedulerJobs) :
    upsertCrawlPolicy fromCrontab db (key policy) jobs =
      Loading.put Row.jobId (Row.value fromCrontab) jobs (.crawlPolicy policy) := by
  simp only [upsertCrawlPolicy, Table.get?_key h]
  cases hactive : policy.isActive with
  | true => exact upsertJob_eq (r := .crawlPolicy policy) hactive rfl jobs
  | false => exact removeJob_eq (r := .crawlPolicy policy) hactive jobs

/-- A loop over the keys of a table, by what it does with each row. -/
theorem foldlM_keys {α : Type} [Keyed UUID α] {t : Table α} {mk : α → Row}
    {upsert : UUID → SchedulerJobs → Registering}
    (h : ∀ a ∈ t, ∀ jobs, upsert (key a) jobs =
      Loading.put Row.jobId (Row.value fromCrontab) jobs (mk a)) (jobs : SchedulerJobs) :
    (t.rows.map key).foldlM (fun jobs id => upsert id jobs) jobs =
      Loading.load Row.jobId (Row.value fromCrontab) (t.rows.map mk) jobs := by
  have hrows : ∀ l : List α, (∀ a ∈ l, a ∈ t) → ∀ jobs : SchedulerJobs,
      (l.map key).foldlM (fun jobs id => upsert id jobs) jobs =
        Loading.load Row.jobId (Row.value fromCrontab) (l.map mk) jobs := by
    intro l
    induction l with
    | nil => intro _ jobs; rfl
    | cons a l ih =>
      intro hl jobs
      have hrest := ih fun b hb => hl b (List.mem_cons_of_mem _ hb)
      rw [List.map_cons, List.map_cons, List.foldlM_cons, Loading.load, List.foldlM_cons,
        h a (hl a List.mem_cons_self)]
      exact bind_congr hrest
  exact hrows t.rows (fun _ ha => ha) jobs

/-- **The three loops load the rows.** -/
theorem loadAllFromDb_eq (jobs : SchedulerJobs) :
    loadAllFromDb fromCrontab db jobs =
      Loading.load Row.jobId (Row.value fromCrontab) (rows db) jobs := by
  rw [loadAllFromDb, foldlM_keys fun a ha => upsertPublishedJob_eq ha]
  simp only [foldlM_keys fun a ha => upsertAuthPolicy_eq ha,
    foldlM_keys fun a ha => upsertCrawlPolicy_eq ha]
  rw [rows, List.append_assoc]
  simp only [Loading.load, List.foldlM_append]

/-! ## Convergence -/

theorem nodup_jobId (h : OnePolicyPerSystem db) : ((rows db).map Row.jobId).Nodup := by
  have hpublished : ((db.publishedJobs.rows.map Row.publishedJob).map Row.jobId).Nodup := by
    have hkeys := db.publishedJobs.nodup.map fun _ _ heq => SchedulerJobId.publishedJob.inj heq
    rwa [List.map_map] at hkeys ⊢
  have hauth : ((db.systemAuthPolicies.rows.map Row.authPolicy).map Row.jobId).Nodup := by
    rw [List.map_map]
    exact (List.Nodup.of_map _ db.systemAuthPolicies.nodup).map_on fun p hp q hq heq =>
      h.auth p hp q hq (SchedulerJobId.authPolicy.inj heq)
  have hcrawl : ((db.systemCrawlPolicies.rows.map Row.crawlPolicy).map Row.jobId).Nodup := by
    rw [List.map_map]
    exact (List.Nodup.of_map _ db.systemCrawlPolicies.nodup).map_on fun p hp q hq heq =>
      h.crawl p hp q hq (SchedulerJobId.crawlPolicy.inj heq)
  rw [rows, List.map_append, List.map_append, List.nodup_append, List.nodup_append]
  refine ⟨⟨hpublished, hauth, ?_⟩, hcrawl, ?_⟩
  · simp [Row.jobId]
  · simp only [List.mem_append, List.mem_map]
    rintro _ (⟨_, ⟨_, _, rfl⟩, rfl⟩ | ⟨_, ⟨_, _, rfl⟩, rfl⟩) _ ⟨_, ⟨_, _, rfl⟩, rfl⟩
    · exact SchedulerJobId.noConfusion
    · exact SchedulerJobId.noConfusion

/-- **The reload converges** to the image of the tables, from any earlier jobs, if and only if the
jobs it does not get to were right before. -/
theorem reload_converges_iff (fromCrontab : FromCrontab) (db : Db) (h : OnePolicyPerSystem db)
    (jobs : SchedulerJobs) :
    Converged fromCrontab db (loadAllFromDb fromCrontab db jobs).jobs ↔
      RightBeyond fromCrontab db jobs := by
  have hskipped : Loading.skipped (Row.value fromCrontab) (rows db) =
      (rows db).dropWhile fun row => row.Usable fromCrontab := by
    unfold Loading.skipped
    congr 1
    funext row
    unfold Row.value
    by_cases husable : row.Usable fromCrontab <;> simp [husable]
  have hwanted : ∀ row ∈ rows db, ∀ v, row.value fromCrontab = some v →
      v = row.wanted fromCrontab := by
    intro row _ v hv
    unfold Row.value at hv
    split at hv
    · exact (Option.some.inj hv).symm
    · exact absurd hv (by simp)
  have hload := Loading.load_eq_iff (m := jobs) (nodup_jobId h) hwanted
  rw [hskipped] at hload
  rw [loadAllFromDb_eq]
  refine and_congr hload (forall_congr' fun jobId => forall_congr' fun _ => forall_congr' ?_)
  intro hnone
  have hkeeps : Registering.jobs (Loading.load Row.jobId (Row.value fromCrontab) (rows db) jobs)
      jobId = jobs jobId :=
    Loading.load_of_notMem fun row hrow => hnone row (List.takeWhile_subset _ hrow)
  rw [hkeeps]

/-- A package that takes one expression. -/
def sampleCrontab : FromCrontab := fun scheduleExpr _ =>
  if scheduleExpr = "* * * * *" then some ⟨fun _ => true⟩ else none

def sampleJob (scheduleExpr : String) : PublishedJob where
  id := 1
  jobKey := ""
  pageCheckId := 1
  scheduleExpr := scheduleExpr

def samplePolicy : SystemCrawlPolicy where
  id := 3
  systemId := 1
  scheduleExpr := "* * * * *"

/-- A crawl policy, and the given published jobs. -/
def sampleDb (publishedJobs : Table PublishedJob) : Db where
  publishedJobs := publishedJobs
  systemCrawlPolicies := .single samplePolicy

theorem onePolicyPerSystem_sampleDb (publishedJobs : Table PublishedJob) :
    OnePolicyPerSystem (sampleDb publishedJobs) where
  auth _ h := absurd h (Table.notMem_empty _)
  crawl := by
    intro p hp q hq _
    rw [List.mem_singleton.mp hp, List.mem_singleton.mp hq]

/-- The scheduler after a first load of one published job and the policy. -/
def sampleJobs : SchedulerJobs :=
  (loadAllFromDb sampleCrontab (sampleDb (.single (sampleJob "* * * * *"))) fun _ => none).jobs

theorem reload_converges_sample :
    Converged sampleCrontab (sampleDb .empty)
        (loadAllFromDb sampleCrontab (sampleDb .empty) sampleJobs).jobs ↔
      RightBeyond sampleCrontab (sampleDb .empty) sampleJobs :=
  reload_converges_iff sampleCrontab (sampleDb .empty) (onePolicyPerSystem_sampleDb .empty)
    sampleJobs

/-- The job of a row that was deleted stays; and a row with an expression the package refuses keeps
the policy after it from being loaded. -/
theorem reload_converges_fails :
    ¬ Converged sampleCrontab (sampleDb .empty)
        (loadAllFromDb sampleCrontab (sampleDb .empty) sampleJobs).jobs ∧
    ¬ Converged sampleCrontab (sampleDb (.single (sampleJob "@daily")))
        (loadAllFromDb sampleCrontab (sampleDb (.single (sampleJob "@daily"))) fun _ => none).jobs := by
  constructor
  · intro h
    have hnone := congrArg Option.isSome (h.2 (.publishedJob 1) trivial (by decide))
    exact absurd hnone (by decide +kernel)
  · intro h
    have hrow : Row.crawlPolicy samplePolicy ∈ rows (sampleDb (.single (sampleJob "@daily"))) :=
      List.mem_append_right _ List.mem_cons_self
    have hpolicy := congrArg Option.isSome (h.1 _ hrow)
    exact absurd hpolicy (by decide +kernel)

end Reload

end Runlet
