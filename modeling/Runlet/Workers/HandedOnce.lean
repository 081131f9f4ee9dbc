import Runlet.Workers.Sessions

/-!
# Each queued job is handed out once

The workers of a queue keep off each other's jobs by row locks, which last until the transaction of
the claim ends.  Every handler ends that transaction with the commit of the job's new status, but
for one: the compile handler rolls back before it marks a job without a snapshot as failed, and
the locks are gone while the job is still accepted.

* `Forward`: the order of the statuses.
* `KeepsClaim`: an event that ends no claim in a rollback.
* `follows_script`: every other script follows the discipline of `Library/SkipLocked`.
* `handed_once`: what the runs without such events guarantee.
-/

namespace Runlet

open KeyedTable SkipLocked

namespace HandedOnce

/-- `WHERE status = 'accepted' ORDER BY created_at, id`, first row. -/
def claims : Claims QueuedJob where
  isOpen job := job.status = .accepted
  pick := Worker.oldest
  mem_of_pick := Worker.mem_of_oldest

/-- The queue, the locks, and what each worker is about to do. -/
abbrev State (ω : Type) := Queue ω QueuedJob

/-- What can happen next. -/
inductive Step (ω : Type) where
  /-- Some other process enqueues a job. -/
  | enqueue (ids : IdSource) (job : UUID → QueuedJob) (hjob : ∀ id, key (job id) = id)
  | claim (worker : ω) (behaviour : Behaviour)
  | advance (worker : ω)
  | crash (worker : ω)

/-- The order of the statuses: accepted, running, and one of the terminal ones. -/
def Forward (job job' : QueuedJob) : Prop :=
  (job.status = .accepted ∧ job'.status ≠ .accepted) ∨
    (job.status = .running ∧ job'.status.terminal = true)

section Model

variable {ω : Type} [DecidableEq ω] (handlers : WorkerHandlers)

def Step.event : Step ω → Event ω QueuedJob
  | .enqueue ids job hjob => .insert ids job hjob
  | .claim worker behaviour => .claim worker (Sessions.script behaviour handlers)
  | .advance worker => .advance worker
  | .crash worker => .crash worker

def step (s : State ω) (i : Step ω) : State ω :=
  s.step claims (i.event handlers)

/-- A compile job that names no snapshot, and is handed to the compile handler. -/
def LosesClaim (behaviour : Behaviour) (job : QueuedJob) : Prop :=
  job.jobType = ControlPlane.assetCompileJobType ∧ handlers.assetCompile = true ∧
    job.payload.snapshotId = .absent ∧ behaviour.raisesEarly = none

/-- No claim is rolled back: neither by the compile handler, nor by the death of a worker. -/
def KeepsClaim (s : State ω) : Step ω → Prop
  | .claim _ behaviour => ∀ job, s.next claims = some job → ¬ LosesClaim handlers behaviour job
  | .crash worker => ∀ id rest, s.work worker = some (id, rest) →
      ∀ job ∈ s.rows, job.id = id → job.status ≠ .accepted
  | _ => True

/-- **One step of the queue.**  Every job stays as it is or goes forward, one in a terminal status
stays as it is, and only an accepted job is handed out. -/
structure Moves (s : State ω) (i : Step ω) : Prop where
  forward : ∀ job ∈ s.rows, ∃ job' ∈ (step handlers s i).rows,
    job'.id = job.id ∧ (job' = job ∨ Forward job job')
  terminal : ∀ job ∈ s.rows, job.status.terminal = true → job ∈ (step handlers s i).rows
  claimed : ∀ id ∈ (step handlers s i).claimed, id ∉ s.claimed →
    ∃ job ∈ s.rows, job.id = id ∧ job.status = .accepted

end Model

/-! ## The scripts -/

section Scripts

variable {b : Behaviour} {job : QueuedJob}

theorem isOpen_eq_false_iff : claims.isOpen job = false ↔ job.status ≠ .accepted :=
  decide_eq_false_iff_not

/-- A job ends at once. -/
theorem follows_ended (hjob : job.status = .accepted ∨ job.status = .running) {now : DateTime}
    {status : QueuedJobStatus} (hstatus : status.terminal = true) (message : String) :
    Follows claims Forward job [Sessions.ended now status message] := by
  have hclosed : status ≠ .accepted := by
    rintro rfl
    exact Bool.false_ne_true hstatus
  refine ⟨?_, isOpen_eq_false_iff.mpr hclosed, isOpen_eq_false_iff.mpr hclosed⟩
  rcases hjob with hjob | hjob
  · exact Or.inl ⟨hjob, hclosed⟩
  · exact Or.inr ⟨hjob, hstatus⟩

theorem follows_completed (hjob : job.status = .running) (now : DateTime) :
    Follows claims Forward job [Sessions.completed now] :=
  ⟨Or.inr ⟨hjob, rfl⟩, rfl, rfl⟩

/-- Transactions that leave the job alone. -/
theorem follows_replicate (hjob : job.status ≠ .accepted) {rest : Sessions.Script} (n : ℕ)
    (hrest : Follows claims Forward job rest) :
    Follows claims Forward job (List.replicate n .release ++ rest) := by
  induction n with
  | zero => exact hrest
  | succ n ih => exact ⟨isOpen_eq_false_iff.mpr hjob, ih⟩

theorem follows_running (hjob : job.status = .accepted) {now : DateTime} {rest : Sessions.Script}
    (hrest : Follows claims Forward (Sessions.runningJob now job) rest) :
    Follows claims Forward job (Sessions.running now :: rest) :=
  ⟨Or.inl ⟨hjob, QueuedJobStatus.noConfusion⟩, rfl, hrest⟩

theorem follows_crashed (hjob : job.status = .accepted ∨ job.status = .running)
    (message : String) : Follows claims Forward job (Sessions.crashed b message) :=
  follows_ended hjob rfl _

theorem follows_whileRunning (hjob : job.status = .accepted) {rest : Sessions.Script}
    (hrest : Follows claims Forward (Sessions.runningJob b.now job) rest) :
    Follows claims Forward job (Sessions.whileRunning b rest) := by
  refine follows_running hjob (follows_replicate QueuedJobStatus.noConfusion _ ?_)
  cases b.raisesLate with
  | none => exact hrest
  | some message => exact follows_crashed (Or.inr rfl) message

/-- A rollback, while the job is running, and the end. -/
theorem follows_release_ended (hjob : job.status = .running) {now : DateTime} (message : String) :
    Follows claims Forward job [.release, Sessions.ended now .failed message] :=
  ⟨isOpen_eq_false_iff.mpr (by rw [hjob]; exact QueuedJobStatus.noConfusion),
    follows_ended (Or.inr hjob) rfl message⟩

theorem follows_authRefresh (hjob : job.status = .accepted) :
    Follows claims Forward job (Sessions.authRefresh b job) := by
  unfold Sessions.authRefresh
  split
  · exact follows_ended (Or.inl hjob) rfl _
  · exact follows_running hjob (follows_ended (Or.inr rfl) rfl _)
  · refine follows_whileRunning hjob ?_
    split
    · exact follows_completed rfl _
    all_goals exact follows_ended (Or.inr rfl) rfl _

theorem follows_crawl (hjob : job.status = .accepted) :
    Follows claims Forward job (Sessions.crawl b job) := by
  unfold Sessions.crawl
  split
  · exact follows_ended (Or.inl hjob) rfl _
  · split
    · exact follows_ended (Or.inl hjob) rfl _
    · split
      · refine follows_whileRunning hjob ?_
        split
        · split
          · exact follows_completed rfl _
          · exact follows_ended (Or.inr rfl) rfl _
        all_goals exact follows_ended (Or.inr rfl) rfl _
      · exact follows_running hjob (follows_ended (Or.inr rfl) rfl _)

theorem follows_assetCompile (hjob : job.status = .accepted)
    (hsnapshot : job.payload.snapshotId ≠ .absent) :
    Follows claims Forward job (Sessions.assetCompile b job) := by
  unfold Sessions.assetCompile
  split
  · next hnone => exact absurd hnone hsnapshot
  · exact follows_running hjob (follows_release_ended rfl _)
  · refine follows_whileRunning hjob ?_
    split
    · exact follows_completed rfl _
    all_goals exact follows_release_ended rfl _

theorem follows_runCheck (hjob : job.status = .accepted) :
    Follows claims Forward job (Sessions.runCheck b job) := by
  unfold Sessions.runCheck
  split
  · refine follows_ended (Or.inl hjob) ?_ _
    split <;> rfl
  · split
    · exact follows_ended (Or.inl hjob) rfl _
    · split
      · exact follows_ended (Or.inl hjob) rfl _
      · refine follows_whileRunning hjob ?_
        split
        · exact follows_completed rfl _
        all_goals exact follows_ended (Or.inr rfl) rfl _

/-- **What a worker does with a job it claims**, unless the claim is lost. -/
theorem follows_script {handlers : WorkerHandlers} (hjob : job.status = .accepted)
    (hkeeps : ¬ LosesClaim handlers b job) :
    Follows claims Forward job (Sessions.script b handlers job) := by
  unfold Sessions.script
  split
  · exact follows_ended (Or.inl hjob) rfl _
  · next handler hhandler =>
    cases hearly : b.raisesEarly with
    | some message => exact follows_crashed (Or.inl hjob) message
    | none =>
      rw [Option.elim_none]
      unfold Sessions.handlerOf at hhandler
      split_ifs at hhandler with _ _ _ _ hcompile hservice
      · rw [← Option.some_inj.mp hhandler]
        exact follows_authRefresh hjob
      · rw [← Option.some_inj.mp hhandler]
        exact follows_crawl hjob
      · rw [← Option.some_inj.mp hhandler]
        exact follows_assetCompile hjob fun hnone => hkeeps ⟨hcompile, hservice, hnone, hearly⟩
      · rw [← Option.some_inj.mp hhandler]
        exact follows_runCheck hjob

end Scripts

/-! ## Runs -/

section Runs

variable {ω : Type} [DecidableEq ω] {handlers : WorkerHandlers} {s : State ω}

omit [DecidableEq ω] in
theorem disciplined {i : Step ω} (h : KeepsClaim handlers s i) :
    Disciplined claims Forward s (i.event handlers) := by
  cases i with
  | enqueue ids job hjob => trivial
  | claim worker behaviour =>
    intro job hnext
    obtain ⟨-, hopen, -⟩ := next_spec hnext
    exact follows_script (of_decide_eq_true hopen) (h job hnext)
  | advance worker => trivial
  | crash worker =>
    intro id rest hwork job hjob hid
    exact isOpen_eq_false_iff.mpr (h id rest hwork job hjob hid)

theorem settled_step {i : Step ω} (hs : Settled claims Forward s) (h : KeepsClaim handlers s i) :
    Settled claims Forward (step handlers s i) :=
  hs.step _ (disciplined h)

/-- A job in a terminal status does not move. -/
theorem not_forward {job job' : QueuedJob} (h : job.status.terminal = true) :
    ¬ Forward job job' := by
  rintro (⟨hstatus, -⟩ | ⟨hstatus, -⟩) <;> rw [hstatus] at h <;> exact Bool.false_ne_true h

theorem moves {i : Step ω} (hs : Settled claims Forward s) : Moves handlers s i := by
  have hevolves := hs.evolves_step (i.event handlers)
  have hforward : ∀ job ∈ s.rows, ∃ job' ∈ (step handlers s i).rows,
      job'.id = job.id ∧ (job' = job ∨ Forward job job') := hevolves.kept
  refine ⟨hforward, fun job hjob hterminal => ?_, fun id hid hnew => ?_⟩
  · obtain ⟨job', hjob', -, rfl | hmoved⟩ := hforward job hjob
    · exact hjob'
    · exact absurd hmoved (not_forward hterminal)
  · have hstep := hid
    cases i with
    | enqueue ids job hjob => exact absurd hstep hnew
    | claim worker behaviour =>
      simp only [step, Step.event, Queue.step] at hstep
      split at hstep
      · next job _ hnext =>
        rcases List.mem_append.mp hstep with hold | hself
        · exact absurd hold hnew
        · obtain ⟨hjob, hopen, -⟩ := next_spec hnext
          exact ⟨job, hjob, (List.mem_singleton.mp hself).symm, of_decide_eq_true hopen⟩
      · exact absurd hstep hnew
    | advance worker =>
      simp only [step, Step.event, Queue.step] at hstep
      split at hstep
      case h_4 => split at hstep <;> exact absurd hstep hnew
      all_goals exact absurd hstep hnew
    | crash worker => exact absurd hstep hnew

variable (handlers) in
/-- **Each job is handed out at most once, and its status only goes forward**, in every run in which
no claim ends in a rollback. -/
theorem handed_once (h : Untouched s) (steps : List (Step ω))
    (hsteps : Run.Along (step handlers) (KeepsClaim handlers) s steps) :
    (Run.final (step handlers) s steps).claimed.Nodup ∧
      Run.Along (step handlers) (Moves handlers) s steps := by
  have hpreserved : ∀ (s : State ω) (i : Step ω), Settled claims Forward s →
      KeepsClaim handlers s i → Settled claims Forward (step handlers s i) :=
    fun s i hs hi => settled_step hs hi
  constructor
  · exact (Run.invariant_of_along hpreserved h.settled hsteps).once
  · exact Run.along_of_along hpreserved (fun s i hs _ => moves hs) h.settled hsteps

end Runs

/-! ## Two workers -/

namespace TwoWorkers

/-- A queue with one job, and workers that are about to start. -/
def start (job : QueuedJob) : State Bool where
  rows := .single job
  locks := []
  work _ := none
  claimed := []

theorem untouched (job : QueuedJob) : Untouched (start job) := ⟨rfl, fun _ => rfl, rfl⟩

def compileJob (snapshotId : IdField) : QueuedJob where
  id := 1
  jobType := "asset_compile"
  payload := { snapshotId := snapshotId }

def behaviour : Behaviour where
  now := 5
  seen := {}
  serviceEnd := .returned "success" "" true

/-- One worker claims the job and ends a transaction, and the other one asks for a job. -/
def steps : List (Step Bool) := [.claim false behaviour, .advance false, .claim true behaviour]

end TwoWorkers

/-- The job names a snapshot: the first transaction marks it as running. -/
theorem handed_once_sample :
    (Run.final (step {}) (TwoWorkers.start (TwoWorkers.compileJob (.uuid 7)))
        TwoWorkers.steps).claimed.Nodup ∧
      Run.Along (step {}) (Moves {}) (TwoWorkers.start (TwoWorkers.compileJob (.uuid 7)))
        TwoWorkers.steps := by
  refine handed_once {} (TwoWorkers.untouched _) TwoWorkers.steps ⟨?_, trivial, ?_, trivial⟩
  · rintro job hnext ⟨-, -, hnone, -⟩
    rw [← Option.some_inj.mp hnext] at hnone
    cases hnone
  · intro job hnext
    cases hnext

/-- The job names no snapshot: the first transaction is the rollback, and both workers get it. -/
theorem handed_once_fails :
    ¬ ∀ (handlers : WorkerHandlers) (s : State Bool), Untouched s → ∀ steps : List (Step Bool),
      (Run.final (step handlers) s steps).claimed.Nodup ∧
        Run.Along (step handlers) (Moves handlers) s steps := by
  intro h
  have hnodup := (h {} _ (TwoWorkers.untouched (TwoWorkers.compileJob .absent))
    TwoWorkers.steps).1
  have htwice : (Run.final (step {}) (TwoWorkers.start (TwoWorkers.compileJob .absent))
      TwoWorkers.steps).claimed = [1, 1] := rfl
  rw [htwice] at hnodup
  exact absurd hnodup (by decide)

end HandedOnce

end Runlet
