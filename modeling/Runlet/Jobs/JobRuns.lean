import Runlet.Jobs.PublishedJobTrigger
import Runlet.Jobs.RunCheckJob
import Runlet.Workers.Runner

/-!
# Job runs and their queued jobs

A check job that belongs to a run of a published job has two rows to end, its own and the row of
the run.  The handler looks up the run last: whatever is wrong with the payload before that ends
the queued job alone, and so does an exception that leaves the handler.

* `Stand`: the status of the two rows, all that matters here.
* `Admissible`: nothing is wrong with the payload before the run is looked up.
* `ends_together_iff`: when the two rows end together.
-/

namespace Runlet

open KeyedTable RunCheckJob

namespace JobRuns

/-- The status of a queued job and the status of a job run. -/
structure Stand (jobId runId : UUID) (db : Db) (jobStatus runStatus : QueuedJobStatus) : Prop where
  job : ∃ job ∈ db.queuedJobs, job.id = jobId ∧ job.status = jobStatus
  run : ∃ run ∈ db.jobRuns, run.id = runId ∧ run.runStatus = runStatus

/-- **The run ends as its queued job ends.** -/
def EndsTogether (jobId runId : UUID) (db : Db) : Prop :=
  ∀ job ∈ db.queuedJobs, job.id = jobId → job.status.terminal = true →
    ∀ run ∈ db.jobRuns, run.id = runId → run.runStatus = job.status

/-- The `published_job_id` of a payload is no obstacle. -/
def PublishedJobAdmissible (payload : JobPayload) : Prop :=
  isNull payload "published_job_id" payload.publishedJobId = true ∨
    ∃ id, payload.publishedJobId = .uuid id

instance (payload : JobPayload) : Decidable (PublishedJobAdmissible payload) :=
  decidable_of_iff (isNull payload "published_job_id" payload.publishedJobId = true ∨
    (parsed payload.publishedJobId).isSome = true) <| by
    refine or_congr Iff.rfl ?_
    cases payload.publishedJobId <;> simp [parsed]

/-- A payload of the realtime track without a check, which the worker does not support. -/
def Unsupported (payload : JobPayload) : Prop :=
  isNull payload "page_check_id" payload.pageCheckId = true ∧ executionTrack payload = "realtime"

instance (payload : JobPayload) : Decidable (Unsupported payload) :=
  inferInstanceAs (Decidable (_ ∧ _))

/-- Nothing is wrong with the payload before its job run is looked up. -/
structure Admissible (payload : JobPayload) (db : Db) : Prop where
  publishedJob : PublishedJobAdmissible payload
  supported : ¬ Unsupported payload
  plan : ∀ text, payload.executionPlanId ≠ .malformed text
  probePlan : executionTrack payload = "realtime_probe" → ∃ id, payload.executionPlanId = .uuid id
  pageCheck : (executionTrack payload = "realtime_probe" ∧
    isNull payload "page_check_id" payload.pageCheckId = true) ∨
      ∃ id, payload.pageCheckId = .uuid id
  request : ∀ text, payload.executionRequestId ≠ .malformed text
  requestFound : ∀ id, payload.executionRequestId = .uuid id →
    ∃ request ∈ db.executionRequests, request.id = id

/-- The status with which a job ends whose payload is not admissible. -/
def refusalStatus (payload : JobPayload) : QueuedJobStatus :=
  if PublishedJobAdmissible payload ∧ Unsupported payload then .skipped else .failed

/-- The payload names a published job, and the run belongs to another one. -/
def Mismatched (payload : JobPayload) (run : JobRun) : Prop :=
  ∃ id, payload.publishedJobId = .uuid id ∧ run.publishedJobId ≠ id

/-- When the run is ended with its job. -/
def TakesRunAlong (raises : Option Raise) (payload : JobPayload) (run : JobRun) (db : Db) : Prop :=
  match raises with
  | some (.early _) => run.runStatus = .failed
  | some (.late _) => (¬ Admissible payload db → run.runStatus = refusalStatus payload) ∧
      (Admissible payload db → Mismatched payload run ∨ skipReason payload db ≠ none)
  | none => ¬ Admissible payload db → run.runStatus = refusalStatus payload

/-! ## Two statuses -/

section Stand

variable {jobId runId : UUID} {db db' : Db} {s t : QueuedJobStatus}

theorem Stand.endsTogether_iff (h : Stand jobId runId db s t) :
    EndsTogether jobId runId db ↔ (s.terminal = true → t = s) := by
  obtain ⟨job, hjob, hjobId, rfl⟩ := h.job
  obtain ⟨run, hrun, hrunId, rfl⟩ := h.run
  constructor
  · intro hends hterminal
    exact hends job hjob hjobId hterminal run hrun hrunId
  · intro heq job' hjob' hjobId' hterminal run' hrun' hrunId'
    have hsameJob := Table.eq_of_key_eq hjob' hjob (hjobId'.trans hjobId.symm)
    have hsameRun := Table.eq_of_key_eq hrun' hrun (hrunId'.trans hrunId.symm)
    rw [hsameJob] at hterminal ⊢
    rw [hsameRun]
    exact heq hterminal

theorem Stand.of_eq (h : Stand jobId runId db s t) (hjobs : db'.queuedJobs = db.queuedJobs)
    (hruns : db'.jobRuns = db.jobRuns) : Stand jobId runId db' s t where
  job := by
    rw [hjobs]
    exact h.job
  run := by
    rw [hruns]
    exact h.run

/-- The job is written, whatever is done with other rows. -/
theorem exists_job_update (h : ∃ job ∈ db.queuedJobs, job.id = jobId ∧ job.status = s)
    {f : QueuedJob → QueuedJob} (hf : ∀ j, key (f j) = key j) {s' : QueuedJobStatus}
    (hs : ∀ j, (f j).status = s') :
    ∃ job ∈ db.queuedJobs.update (fun job => job.id = jobId) f hf,
      job.id = jobId ∧ job.status = s' := by
  obtain ⟨job, hjob, hid, -⟩ := h
  refine ⟨_, Table.rewrite_mem_update hjob, ?_⟩
  rw [Table.rewrite_of_pos (fun job : QueuedJob => decide (job.id = jobId)) f (decide_eq_true hid)]
  exact ⟨(hf job).trans hid, hs job⟩

/-- Both rows are written. -/
theorem Stand.both (h : Stand jobId runId db s t) {f : QueuedJob → QueuedJob}
    {g : JobRun → JobRun} (hf : ∀ j, key (f j) = key j) (hg : ∀ r, key (g r) = key r)
    {s' t' : QueuedJobStatus} (hs : ∀ j, (f j).status = s') (ht : ∀ r, (g r).runStatus = t') :
    Stand jobId runId (writeBoth jobId (some runId) f hf g hg db) s' t' where
  job := exists_job_update h.job hf hs
  run := by
    obtain ⟨run, hrun, hid, -⟩ := h.run
    refine ⟨_, @Table.rewrite_mem_update _ _ _ _ _ _ hg _ hrun, ?_⟩
    rw [Table.rewrite_of_pos (fun run : JobRun => decide (some runId = some run.id)) g
      (decide_eq_true (congrArg some hid.symm))]
    exact ⟨(hg run).trans hid, ht run⟩

/-- The job is written alone. -/
theorem Stand.jobAlone (h : Stand jobId runId db s t) {f : QueuedJob → QueuedJob}
    {g : JobRun → JobRun} (hf : ∀ j, key (f j) = key j) (hg : ∀ r, key (g r) = key r)
    {s' : QueuedJobStatus} (hs : ∀ j, (f j).status = s') :
    Stand jobId runId (writeBoth jobId none f hf g hg db) s' t where
  job := exists_job_update h.job hf hs
  run := by
    obtain ⟨run, hrun, hrest⟩ := h.run
    refine ⟨run, ?_, hrest⟩
    have hnone : ∀ r ∈ db.jobRuns, (fun run : JobRun => decide (none = some run.id)) r = false :=
      fun r _ => decide_eq_false (Option.some_ne_none _).symm
    change run ∈ db.jobRuns.update (fun run => decide (none = some run.id)) g hg
    rw [Table.update_eq_self hnone]
    exact hrun

theorem Stand.endJob (h : Stand jobId runId db s t) (now : DateTime) (status : QueuedJobStatus)
    (message : String) : Stand jobId runId (Worker.endJob now status message jobId db) status t where
  job := exists_job_update h.job (Worker.key_endedJob now status message) fun _ => rfl
  run := h.run

end Stand

/-! ## Admission -/

section Admission

variable {payload : JobPayload} {db : Db}

theorem isNone_parsed_iff {field : IdField} :
    (parsed field).isNone = true ↔ ¬ ∃ id, field = .uuid id := by
  cases field <;> simp [parsed]

theorem isMalformed_iff {field : IdField} :
    isMalformed field = true ↔ ∃ text, field = .malformed text := by
  cases field <;> simp [isMalformed]

theorem publishedJob_refused_iff :
    (!isNull payload "published_job_id" payload.publishedJobId &&
        (parsed payload.publishedJobId).isNone) = true ↔ ¬ PublishedJobAdmissible payload := by
  rw [Bool.and_eq_true, Bool.not_eq_true', isNone_parsed_iff, PublishedJobAdmissible, not_or,
    Bool.not_eq_true]

theorem unsupported_iff :
    (isNull payload "page_check_id" payload.pageCheckId && executionTrack payload = "realtime") =
      true ↔ Unsupported payload := by
  rw [Bool.and_eq_true, decide_eq_true_iff, Unsupported]

/-- What the three guards on the check of a payload leave. -/
theorem pageCheck_admitted_iff :
    (¬ (executionTrack payload = "realtime_probe" && !isNull payload "page_check_id"
          payload.pageCheckId && (parsed payload.pageCheckId).isNone) = true ∧
      ¬ (executionTrack payload ≠ "realtime_probe" && payload.pageCheckId = .absent) = true ∧
      ¬ (executionTrack payload ≠ "realtime_probe" && isMalformed payload.pageCheckId) = true) ↔
    ((executionTrack payload = "realtime_probe" ∧
        isNull payload "page_check_id" payload.pageCheckId = true) ∨
      ∃ id, payload.pageCheckId = .uuid id) := by
  by_cases htrack : executionTrack payload = "realtime_probe" <;>
    cases hcheck : payload.pageCheckId <;> simp [htrack, parsed, isMalformed]

/-- A guard that refuses, in front of the rest. -/
theorem refuse_or_iff {c : Prop} [Decidable c] {refusal : Refusal} {rest : Option Refusal} :
    (if c then some refusal else rest) = none ↔ ¬ c ∧ rest = none := by
  by_cases hc : c
  · rw [if_pos hc]
    exact iff_of_false (Option.some_ne_none _) fun h => h.1 hc
  · rw [if_neg hc]
    exact (and_iff_right hc).symm

theorem notMalformed_iff {field : IdField} :
    ¬ isMalformed field = true ↔ ∀ text, field ≠ .malformed text := by
  rw [isMalformed_iff, not_exists]

theorem probePlan_admitted_iff :
    ¬ (executionTrack payload = "realtime_probe" && (parsed payload.executionPlanId).isNone) = true ↔
      (executionTrack payload = "realtime_probe" → ∃ id, payload.executionPlanId = .uuid id) := by
  rw [Bool.and_eq_true, decide_eq_true_iff, isNone_parsed_iff, not_and, not_not]

/-- **Nothing is refused exactly when the payload is admissible.** -/
theorem refused_eq_none_iff : refused payload db = none ↔ Admissible payload db := by
  have hids : refusedIds payload = none ↔ PublishedJobAdmissible payload ∧ ¬ Unsupported payload ∧
      (∀ text, payload.executionPlanId ≠ .malformed text) ∧
      (executionTrack payload = "realtime_probe" → ∃ id, payload.executionPlanId = .uuid id) ∧
      ((executionTrack payload = "realtime_probe" ∧
          isNull payload "page_check_id" payload.pageCheckId = true) ∨
        ∃ id, payload.pageCheckId = .uuid id) ∧
      (∀ text, payload.executionRequestId ≠ .malformed text) := by
    rw [← pageCheck_admitted_iff]
    simp only [refusedIds, refuse_or_iff]
    rw [publishedJob_refused_iff, unsupported_iff, notMalformed_iff, probePlan_admitted_iff,
      notMalformed_iff, not_not]
    simp only [and_true, and_assoc]
  have hrequest : (∀ id, payload.executionRequestId = .uuid id →
      (db.executionRequests.get? id).isNone = false) ↔ ∀ id, payload.executionRequestId = .uuid id →
        ∃ request ∈ db.executionRequests, request.id = id := by
    refine forall₂_congr fun id _ => ?_
    rw [Option.isNone_eq_false_iff, Option.isSome_iff_exists]
    exact exists_congr fun request => Table.get?_eq_some_iff
  constructor
  · intro h
    rw [refused] at h
    split at h
    · cases h
    · next hnone =>
      obtain ⟨h₁, h₂, h₃, h₄, h₅, h₆⟩ := hids.mp hnone
      refine ⟨h₁, h₂, h₃, h₄, h₅, h₆, hrequest.mp fun id hid => ?_⟩
      simp only [hid] at h
      split at h
      · cases h
      · next hsome => exact eq_false_of_ne_true hsome
  · rintro ⟨h₁, h₂, h₃, h₄, h₅, h₆, h₇⟩
    rw [refused, hids.mpr ⟨h₁, h₂, h₃, h₄, h₅, h₆⟩]
    cases hid : payload.executionRequestId with
    | absent => rfl
    | malformed text => rfl
    | uuid id =>
      simp only [hrequest.mpr h₇ id hid]
      rfl

/-- The status a refusal ends the job with. -/
theorem status_of_refused {refusal : Refusal} (h : refused payload db = some refusal) :
    refusal.status = refusalStatus payload := by
  by_cases hpublished : PublishedJobAdmissible payload
  · by_cases hunsupported : Unsupported payload
    · have hids : refusedIds payload =
          some ⟨.skipped, "realtime execution track is not supported by run_check worker"⟩ := by
        rw [refusedIds, if_neg (mt publishedJob_refused_iff.mp (not_not.mpr hpublished)),
          if_pos (unsupported_iff.mpr hunsupported)]
      rw [refused, hids] at h
      rw [← Option.some_inj.mp h, refusalStatus, if_pos ⟨hpublished, hunsupported⟩]
    · rw [refusalStatus, if_neg fun h => hunsupported h.2]
      rw [refused, refusedIds, if_neg (mt publishedJob_refused_iff.mp (not_not.mpr hpublished)),
        if_neg (mt unsupported_iff.mp hunsupported)] at h
      split at h
      · next r hr =>
        rw [← Option.some_inj.mp h]
        split_ifs at hr <;> rw [← Option.some_inj.mp hr]
      · split at h
        · split at h
          · rw [← Option.some_inj.mp h]
          · cases h
        · cases h
  · rw [refused, refusedIds, if_pos (publishedJob_refused_iff.mpr hpublished)] at h
    rw [← Option.some_inj.mp h, refusalStatus, if_neg fun h => hpublished h.1]

/-- A refusal ends its job as skipped or as failed. -/
theorem refusalStatus_eq (payload : JobPayload) :
    refusalStatus payload = .skipped ∨ refusalStatus payload = .failed := by
  unfold refusalStatus
  split
  · exact Or.inl rfl
  · exact Or.inr rfl

end Admission

/-! ## The execution leaves both rows alone -/

section Execution

variable (handler : RunCheckJobHandler) (now : DateTime)

/-- A database with the same queue and the same job runs. -/
structure SameJobs (db db' : Db) : Prop where
  queuedJobs : db'.queuedJobs = db.queuedJobs
  jobRuns : db'.jobRuns = db.jobRuns

theorem SameJobs.trans {db db' db'' : Db} (h : SameJobs db db') (h' : SameJobs db' db'') :
    SameJobs db db'' where
  queuedJobs := h'.queuedJobs.trans h.queuedJobs
  jobRuns := h'.jobRuns.trans h.jobRuns

theorem sameJobs_session {ρ : Type} {called : Called ρ} {db : Db} (h : called.KeepsJobs db) :
    SameJobs db called.session := ⟨h.queuedJobs, h.jobRuns⟩

theorem sameJobs_committed {ρ : Type} {called : Called ρ} {db : Db} (h : called.KeepsJobs db) :
    SameJobs db called.committed := ⟨h.queuedJobs_committed, h.jobRuns_committed⟩

theorem sameJobs_callEnding {called : Called RunPageCheckResult} {db : Db}
    (h : called.KeepsJobs db) : SameJobs db (callEnding called).2 := by
  unfold callEnding
  split <;> exact sameJobs_session h

theorem sameJobs_attempt (pageCheckId executionPlanId : Option UUID) (inputs : Option Json)
    (attemptNo : ℕ) (attempts : Attempts) (db : Db) :
    SameJobs db (runAttempt handler now pageCheckId executionPlanId inputs attemptNo attempts db).2 := by
  have hcall := handler.runPageCheck_keepsJobs attemptNo pageCheckId executionPlanId inputs db
  unfold runAttempt
  simp only
  split
  · split <;> exact sameJobs_session hcall
  · split <;> exact sameJobs_committed hcall
  · split
    · exact sameJobs_session hcall
    · split <;> exact sameJobs_session hcall

theorem sameJobs_retry (pageCheckId executionPlanId : Option UUID) (inputs : Option Json)
    (rest : List ℕ) (attempts : Attempts) (db : Db) :
    SameJobs db (runPrecompiledWithRetry handler now pageCheckId executionPlanId inputs rest
      attempts db).2 := by
  induction rest generalizing attempts db with
  | nil =>
    rw [runPrecompiledWithRetry]
    split <;> exact ⟨rfl, rfl⟩
  | cons attemptNo rest ih =>
    have hattempt := sameJobs_attempt handler now pageCheckId executionPlanId inputs attemptNo
      attempts db
    rw [runPrecompiledWithRetry]
    split
    · next heq =>
      rw [heq] at hattempt
      exact hattempt
    · next heq =>
      rw [heq] at hattempt
      exact hattempt.trans (ih _ _)

theorem sameJobs_probe (planId : UUID) (db : Db) :
    SameJobs db (runRealtimeProbe handler planId db).2 := by
  have hprobe := handler.runRealtimeProbe_keepsJobs planId db
  unfold runRealtimeProbe
  simp only
  split
  · next result persist _ hpersist =>
    have hfeedback := handler.persistFeedback_keepsJobs persist hpersist planId
      result.executionRunId (handler.runRealtimeProbe planId db).session
    split
    · split <;> exact (sameJobs_session hprobe).trans (sameJobs_session hfeedback)
    · exact sameJobs_session hprobe
  · exact sameJobs_callEnding hprobe

theorem sameJobs_execute (payload : JobPayload) (inputs : Option Json) (db : Db) :
    SameJobs db (execute handler now payload inputs db).2 := by
  unfold execute
  simp only
  split
  · exact sameJobs_probe handler _ db
  · exact sameJobs_retry handler now _ _ inputs _ _ db
  · exact sameJobs_callEnding (handler.runPageCheck_keepsJobs _ _ _ _ _)

end Execution

/-! ## One round of the worker -/

section Round

variable {handlers : String → Option (UUID → Db → Transacted Unit)} {handler : RunCheckJobHandler}
  {now : DateTime} {raises : Option Raise} {db : Db} {job : QueuedJob} {run : JobRun}

/-- What the look-up finds, when the payload names a run that exists. -/
theorem findJobRun_eq {payload : JobPayload} (hrun : run ∈ db.jobRuns)
    (hnamed : payload.jobRunId = .uuid run.id) :
    (Mismatched payload run ∧ findJobRun payload db =
        .error ("published_job_id does not match job_run linkage", some run.id)) ∨
      (¬ Mismatched payload run ∧ findJobRun payload db = .ok (some run.id)) := by
  have hget : db.jobRuns.get? run.id = some run := Table.get?_key hrun
  simp only [findJobRun, hnamed, isNull, parsed, hget, reduceCtorEq, decide_false, Bool.false_and,
    Bool.false_eq_true, if_false]
  cases hpublished : payload.publishedJobId with
  | absent => exact Or.inr ⟨by rintro ⟨id, hid, -⟩; simp [hpublished] at hid, rfl⟩
  | malformed text => exact Or.inr ⟨by rintro ⟨id, hid, -⟩; simp [hpublished] at hid, rfl⟩
  | uuid id =>
    by_cases hne : run.publishedJobId ≠ id
    · exact Or.inl ⟨⟨id, hpublished, hne⟩, if_pos hne⟩
    · refine Or.inr ⟨?_, if_neg hne⟩
      rintro ⟨id', hid', hne'⟩
      rw [hpublished, IdField.uuid.injEq] at hid'
      exact hne (hid' ▸ hne')

variable (now) in
theorem stand_markEnding {runId : UUID} {s t : QueuedJobStatus} (h : Stand job.id runId db s t)
    (ending : Ending) : ∃ status, status.terminal = true ∧
      Stand job.id runId (markEnding now job.id (some runId) ending db) status status := by
  cases ending with
  | completed result retry => exact ⟨.completed, rfl, h.both _ _ (fun _ => rfl) fun _ => rfl⟩
  | blocked retry => exact ⟨.skipped, rfl, h.both _ _ (fun _ => rfl) fun _ => rfl⟩
  | failed message retry => exact ⟨.failed, rfl, h.both _ _ (fun _ => rfl) fun _ => rfl⟩

/-- Where the handler ends by itself, the queue is as it left it. -/
theorem runOnce_eq_of_ok (hnext : Worker.nextAcceptedJob db = some job)
    {handle : UUID → Db → Transacted Unit} (hhandler : handlers job.jobType = some handle)
    {db' : Db} (h : handle job.id db = (db', .ok ())) :
    (Worker.runOnce handlers now db).1 = db' := by
  simp only [Worker.runOnce, hnext, hhandler, h]

/-- Where an exception leaves the handler, the worker ends the job. -/
theorem runOnce_eq_of_error (hnext : Worker.nextAcceptedJob db = some job)
    {handle : UUID → Db → Transacted Unit} (hhandler : handlers job.jobType = some handle)
    {db' : Db} {message : String} (h : handle job.id db = (db', .error message)) :
    (Worker.runOnce handlers now db).1 =
      Worker.endJob now .failed ("handler crashed: " ++ message) job.id db' := by
  simp only [Worker.runOnce, hnext, hhandler, h]

theorem mem_of_nextAcceptedJob (h : Worker.nextAcceptedJob db = some job) :
    job ∈ db.queuedJobs ∧ job.status = .accepted := by
  have hmem := Worker.mem_of_oldest h
  rw [List.mem_filter, decide_eq_true_iff] at hmem
  exact hmem

/-- A refusal ends the job alone, with the status of the refusal. -/
theorem stand_refuse {runId : UUID} {s t : QueuedJobStatus} (h : Stand job.id runId db s t)
    {refusal : Refusal} (hrefused : refused job.payload db = some refusal) :
    Stand job.id runId (refuse now job.id refusal db) (refusalStatus job.payload) t := by
  rw [← status_of_refused hrefused, refuse]
  rcases refusalStatus_eq job.payload with hstatus | hstatus
  · rw [status_of_refused hrefused, hstatus]
    exact h.jobAlone _ _ fun _ => rfl
  · rw [status_of_refused hrefused, hstatus]
    exact h.jobAlone _ _ fun _ => rfl

variable (handler now raises) in
/-- What the handler does with a loaded job, and whether the run ends with it. -/
theorem stand_handle {s t : QueuedJobStatus} (h : Stand job.id run.id db s t)
    (hrun : run ∈ db.jobRuns) (hnamed : job.payload.jobRunId = .uuid run.id) :
    (¬ Admissible job.payload db ∧ ∃ db', handle handler now raises job db = (db', .ok ()) ∧
        Stand job.id run.id db' (refusalStatus job.payload) t) ∨
      (Admissible job.payload db ∧ ((∀ message, raises = some (.late message) →
          Mismatched job.payload run ∨ skipReason job.payload db ≠ none) ∧
        ∃ db' status, handle handler now raises job db = (db', .ok ()) ∧ status.terminal = true ∧
          Stand job.id run.id db' status status)) ∨
      (Admissible job.payload db ∧ ¬ Mismatched job.payload run ∧ skipReason job.payload db = none ∧
        ∃ message db', raises = some (.late message) ∧
          handle handler now raises job db = (db', .error message) ∧
          Stand job.id run.id db' .running .running) := by
  cases hrefused : refused job.payload db with
  | some refusal =>
    have hnot : ¬ Admissible job.payload db := by
      rw [← refused_eq_none_iff, hrefused]
      exact Option.some_ne_none refusal
    refine Or.inl ⟨hnot, refuse now job.id refusal db, ?_, stand_refuse h hrefused⟩
    simp only [handle, hrefused]
  | none =>
    have hadmissible := refused_eq_none_iff.mp hrefused
    rcases findJobRun_eq hrun hnamed with ⟨hmismatched, hfind⟩ | ⟨hmatched, hfind⟩
    · refine Or.inr (Or.inl ⟨hadmissible, fun _ _ => Or.inl hmismatched,
        markFailed now job.id "published_job_id does not match job_run linkage" (some run.id) none db,
        .failed, ?_, rfl, h.both _ _ (fun _ => rfl) fun _ => rfl⟩)
      simp only [handle, hrefused, hfind]
    · cases hskip : skipReason job.payload db with
      | some reason =>
        refine Or.inr (Or.inl ⟨hadmissible, fun _ _ => Or.inr (Option.some_ne_none reason),
          markSkipped now job.id reason (some run.id) none db, .skipped, ?_, rfl,
          h.both _ _ (fun _ => rfl) fun _ => rfl⟩)
        simp only [handle, hrefused, hfind, hskip]
      | none =>
        have hrunning : Stand job.id run.id (markRunning now job.id (some run.id) db) .running
            .running := h.both _ _ (fun _ => rfl) fun _ => rfl
        have hsame := sameJobs_execute handler now job.payload (runtimeInputs job.payload db)
          (markRunning now job.id (some run.id) db)
        have hexecuted := hrunning.of_eq hsame.queuedJobs hsame.jobRuns
        by_cases hlate : ∃ message, raises = some (.late message)
        · obtain ⟨message, rfl⟩ := hlate
          refine Or.inr (Or.inr ⟨hadmissible, hmatched, rfl, message, _, rfl, ?_, hexecuted⟩)
          simp only [handle, hrefused, hfind, hskip, finish]
        · obtain ⟨status, hterminal, hended⟩ := stand_markEnding now hexecuted
            (execute handler now job.payload (runtimeInputs job.payload db)
              (markRunning now job.id (some run.id) db)).1
          refine Or.inr (Or.inl ⟨hadmissible, fun message hmessage => absurd ⟨message, hmessage⟩ hlate,
            _, status, ?_, hterminal, hended⟩)
          simp only [handle, hrefused, hfind, hskip, finish]
          split
          · next message => exact absurd ⟨message, rfl⟩ hlate
          · rfl

variable (handler raises job run) in
/-- **When a run ends with its queued job.** -/
theorem ends_together_iff (hnext : Worker.nextAcceptedJob db = some job)
    (hhandler : handlers job.jobType = some (RunCheckJob.run handler now raises))
    (hrun : run ∈ db.jobRuns) (hnamed : job.payload.jobRunId = .uuid run.id) :
    EndsTogether job.id run.id (Worker.runOnce handlers now db).1 ↔
      TakesRunAlong raises job.payload run db := by
  obtain ⟨hjob, -⟩ := mem_of_nextAcceptedJob hnext
  have hstart : Stand job.id run.id db job.status run.runStatus :=
    ⟨⟨job, hjob, rfl, rfl⟩, run, hrun, rfl, rfl⟩
  have hget : db.queuedJobs.get? job.id = some job := Table.get?_key hjob
  by_cases hearly : ∃ message, raises = some (.early message)
  · -- The handler wrote nothing.
    obtain ⟨message, rfl⟩ := hearly
    have hraised : RunCheckJob.run handler now (some (.early message)) job.id db =
        (db, .error message) := by
      simp only [RunCheckJob.run, hget]
    rw [runOnce_eq_of_error hnext hhandler hraised, (hstart.endJob now .failed _).endsTogether_iff]
    exact ⟨fun h => h rfl, fun h _ => h⟩
  have hhandle : RunCheckJob.run handler now raises job.id db = handle handler now raises job db := by
    simp only [RunCheckJob.run, hget]
    split
    · next message => exact absurd ⟨message, rfl⟩ hearly
    · rfl
  have hcondition : TakesRunAlong raises job.payload run db ↔
      (¬ Admissible job.payload db → run.runStatus = refusalStatus job.payload) ∧
        ∀ message, raises = some (.late message) → Admissible job.payload db →
          Mismatched job.payload run ∨ skipReason job.payload db ≠ none := by
    rcases raises with _ | message | message
    · exact ⟨fun h => ⟨h, fun _ h => by cases h⟩, fun h => h.1⟩
    · exact absurd ⟨message, rfl⟩ hearly
    · exact ⟨fun h => ⟨h.1, fun _ _ => h.2⟩, fun h => ⟨h.1, h.2 message rfl⟩⟩
  rw [hcondition]
  rcases stand_handle handler now raises hstart hrun hnamed with
    ⟨hnot, db', heq, hstand⟩ | ⟨hadmissible, hlate, db', status, heq, hterminal, hstand⟩ |
      ⟨hadmissible, hmatched, hskip, message, db', hraises, heq, hstand⟩
  · rw [runOnce_eq_of_ok hnext hhandler (hhandle.trans heq), hstand.endsTogether_iff]
    have hterminal : (refusalStatus job.payload).terminal = true := by
      rcases refusalStatus_eq job.payload with h | h <;> rw [h] <;> rfl
    exact ⟨fun h => ⟨fun _ => h hterminal, fun _ _ hadmissible => absurd hadmissible hnot⟩,
      fun h _ => h.1 hnot⟩
  · rw [runOnce_eq_of_ok hnext hhandler (hhandle.trans heq), hstand.endsTogether_iff]
    exact ⟨fun _ => ⟨fun hnot => absurd hadmissible hnot, fun message hmessage _ =>
      hlate message hmessage⟩, fun _ _ => rfl⟩
  · rw [runOnce_eq_of_error hnext hhandler (hhandle.trans heq),
      (hstand.endJob now .failed _).endsTogether_iff]
    refine ⟨fun h => QueuedJobStatus.noConfusion (h rfl), fun h => ?_⟩
    rcases h.2 message hraises hadmissible with h | h
    · exact absurd h hmatched
    · exact absurd hskip h

end Round

/-! ## Two payloads -/

namespace JobRunsSample

def result (checkId : Option UUID) : RunPageCheckResult where
  pageCheckId := checkId
  executionRunId := 9
  status := "passed"
  authStatus := "injected"
  artifactIds := []

/-- A probe that raises writes nothing. -/
theorem keepsJobs_probe (_ : UUID) (db : Db) :
    (⟨.raised "", db, db⟩ : Called RunPageCheckResult).KeepsJobs db :=
  ⟨rfl, rfl, rfl, rfl⟩

theorem keepsJobs_feedback (persist : UUID → UUID → Db → Called Unit)
    (h : persist ∈ (none : Option (UUID → UUID → Db → Called Unit))) (planId runId : UUID)
    (db : Db) : (persist planId runId db).KeepsJobs db :=
  absurd h (Option.not_mem_none _)

/-- A check passes, and writes nothing. -/
def handler : RunCheckJobHandler where
  runPageCheck _ checkId _ _ db := ⟨.returned (result checkId), db, db⟩
  runRealtimeProbe _ db := ⟨.raised "", db, db⟩
  persistFeedback := none
  runPageCheck_keepsJobs _ _ _ _ _ := ⟨rfl, rfl, rfl, rfl⟩
  runRealtimeProbe_keepsJobs := keepsJobs_probe
  persistFeedback_keepsJobs := keepsJobs_feedback

def handlers (jobType : String) : Option (UUID → Db → Transacted Unit) :=
  if jobType = "run_check" then some (RunCheckJob.run handler 5 none) else none

def job (plan : IdField) : QueuedJob where
  id := 1
  jobType := "run_check"
  payload :=
    { pageCheckId := .uuid 3
      executionTrack := some "precompiled"
      publishedJobId := .uuid 4
      jobRunId := .uuid 2
      executionPlanId := plan }

def jobRun : JobRun where
  id := 2
  publishedJobId := 4
  scheduledAt := 0

/-- A queued job with its run, and the live check it is for. -/
def db (plan : IdField) : Db where
  queuedJobs := .single (job plan)
  jobRuns := .single jobRun
  pageChecks := .single { id := 3, pageAssetId := 6, checkCode := "page_open", goal := "page_open" }
  pageAssets := .single { id := 6, systemId := 7, pageId := 8, assetKey := "a", assetVersion := "v" }

end JobRunsSample

theorem ends_together_iff_sample :
    EndsTogether 1 2 (Worker.runOnce JobRunsSample.handlers 5 (JobRunsSample.db .absent)).1 ↔
      TakesRunAlong none (JobRunsSample.job .absent).payload JobRunsSample.jobRun
        (JobRunsSample.db .absent) :=
  ends_together_iff JobRunsSample.handler none (JobRunsSample.job .absent) JobRunsSample.jobRun
    rfl rfl List.mem_cons_self rfl

/-- A job whose `execution_plan_id` is no identifier ends as failed, and its run stays accepted. -/
theorem ends_together_fails :
    ¬ ∀ (handlers : String → Option (UUID → Db → Transacted Unit)) (handler : RunCheckJobHandler)
        (now : DateTime) (raises : Option Raise) (db : Db) (job : QueuedJob) (run : JobRun),
      Worker.nextAcceptedJob db = some job →
        handlers job.jobType = some (RunCheckJob.run handler now raises) → run ∈ db.jobRuns →
          job.payload.jobRunId = .uuid run.id →
            EndsTogether job.id run.id (Worker.runOnce handlers now db).1 := by
  intro h
  have hends := h JobRunsSample.handlers JobRunsSample.handler 5 none
    (JobRunsSample.db (.malformed "x")) (JobRunsSample.job (.malformed "x")) JobRunsSample.jobRun
    rfl rfl List.mem_cons_self rfl
  have hstand : Stand 1 2
      (Worker.runOnce JobRunsSample.handlers 5 (JobRunsSample.db (.malformed "x"))).1 .failed
      .accepted := ⟨by decide +kernel, by decide +kernel⟩
  exact QueuedJobStatus.noConfusion (hstand.endsTogether_iff.mp hends rfl)

end JobRuns

end Runlet
