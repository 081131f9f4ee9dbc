import Runlet.Library.Run
import Runlet.Runtime.SchedulerRuntime

/-!
# Concurrent triggers of a policy

Any number of calls trigger policies, each in a session of its own, and their statements
interleave.  The guard against a second job in a minute compares the time of the last trigger, read
at the start of a call without a lock, with the time of the call.  So it misses a call that is
between its read and its commit, and it misses every served minute but the last.

* `ReadsAlone`: a call that passes the guard finds its minute unserved, and no other call under
  way for it.
* `Settled`: the invariant of the runs in which every read is alone.
* `policies_trigger_once_iff`: these are exactly the runs in which, however the calls under way go
  on, no policy ever gets two jobs for a minute.
-/

namespace Runlet

open KeyedTable SchedulerRuntime

namespace PolicyInterleavings

/-- The shared database, and how far each call has come. -/
structure State where
  db : Db
  phases : ℕ → Phase

/-- A call executes its next statement, or fails and is rolled back. -/
inductive Step where
  | advance (call : ℕ)
  | fail (call : ℕ)

section Model

variable (ids : IdSource) (requests : ℕ → Request)

def step (s : State) : Step → State
  | .advance call =>
    let next := SchedulerRuntime.advance ids (requests call) (s.phases call) s.db
    { db := next.2, phases := Function.update s.phases call next.1 }
  | .fail call => { s with phases := Function.update s.phases call (.returned false) }

/-- What at most one job is enqueued for. -/
structure Slot where
  kind : PolicyKind
  policyId : UUID
  minute : DateTime
  deriving DecidableEq

def slotOf (policy : LoadedPolicy) (runTime : DateTime) : Slot :=
  ⟨policy.kind, policy.row.id, minuteKey runTime⟩

/-- A job that a fire of the policy enqueued for the minute. -/
def IsJobOf (slot : Slot) (job : QueuedJob) : Prop :=
  job.jobType = slot.kind.jobType ∧ job.policyId = some slot.policyId ∧
    job.triggerSource = some "scheduler" ∧ job.scheduledAt.map minuteKey = some slot.minute

instance (slot : Slot) (job : QueuedJob) : Decidable (IsJobOf slot job) :=
  inferInstanceAs (Decidable (_ ∧ _))

def Served (slot : Slot) (db : Db) : Prop :=
  ∃ job ∈ db.queuedJobs, IsJobOf slot job

/-- **At most one job** for a policy and a minute. -/
def OneJobPerMinute (db : Db) : Prop :=
  ∀ slot, ∀ job ∈ db.queuedJobs, ∀ job' ∈ db.queuedJobs,
    IsJobOf slot job → IsJobOf slot job' → job = job'

/-- The slot for which a call holds a policy that has passed the guard, or will pass it. -/
def pendingSlot (request : Request) : Phase → Option Slot
  | .loaded (some policy) =>
    if rejects policy.row request.runTime then none else some (slotOf policy request.runTime)
  | .passed policy => some (slotOf policy request.runTime)
  | .enqueued policy => some (slotOf policy request.runTime)
  | .written policy => some (slotOf policy request.runTime)
  | _ => none

/-- The slot for which the call is under way. -/
def State.slot (s : State) (call : ℕ) : Option Slot :=
  pendingSlot (requests call) (s.phases call)

/-- The slot a call is going to serve if it reads now. -/
def readSlot (s : State) (call : ℕ) : Option Slot :=
  pendingSlot (requests call)
    (.loaded (loadPolicy (requests call).kind (requests call).identifier s.db))

/-- A call that reads its policy and passes the guard finds the minute unserved, and no other call
under way for it. -/
def ReadsAlone (s : State) : Step → Prop
  | .advance call => s.phases call = .started → ∀ slot, readSlot requests s call = some slot →
      ¬ Served slot s.db ∧ ∀ other, other ≠ call → s.slot requests other ≠ some slot
  | .fail _ => True

/-- The calls that have read go on; no other call starts. -/
def GoesOn (s : State) : Step → Prop
  | .advance call => s.phases call ≠ .started
  | .fail _ => True

/-- Every way in which the calls under way go on keeps the jobs apart. -/
def SafelyGoesOn (s : State) (i : Step) : Prop :=
  ∀ rest, Run.Along (step ids requests) GoesOn (step ids requests s i) rest →
    OneJobPerMinute (Run.final (step ids requests) (step ids requests s i) rest).db

/-- The jobs are apart, and the calls under way are going to keep them apart. -/
structure Settled (s : State) : Prop where
  once : OneJobPerMinute s.db
  unserved : ∀ call slot, s.slot requests call = some slot → ¬ Served slot s.db
  alone : ∀ call other slot, s.slot requests call = some slot →
    s.slot requests other = some slot → other = call

end Model

/-! ## Jobs and slots -/

theorem jobType_inj {k k' : PolicyKind} (h : k.jobType = k'.jobType) : k = k' := by
  revert h
  cases k <;> cases k' <;> decide

theorem isJobOf_policyJob_iff {slot : Slot} {policy : LoadedPolicy} {runTime : DateTime}
    {id : UUID} : IsJobOf slot (policyJob policy runTime id) ↔ slot = slotOf policy runTime := by
  constructor
  · rintro ⟨htype, hpolicy, -, hminute⟩
    have hkind : slot.kind = policy.kind := (jobType_inj htype).symm
    have hid : slot.policyId = policy.row.id := (Option.some.inj hpolicy).symm
    have hmin : slot.minute = minuteKey runTime := (Option.some.inj hminute).symm
    cases slot
    simp_all [slotOf]
  · rintro rfl
    exact ⟨rfl, rfl, rfl, rfl⟩

theorem key_policyJob (policy : LoadedPolicy) (runTime : DateTime) (id : UUID) :
    key (policyJob policy runTime id) = id := rfl

theorem mem_queuedJobs_commitTrigger {ids : IdSource} {policy : LoadedPolicy}
    {runTime : DateTime} {db : Db} {job : QueuedJob} :
    job ∈ (commitTrigger ids policy runTime db).queuedJobs ↔
      job ∈ db.queuedJobs ∨ job = policyJob policy runTime (db.queuedJobs.nextKey ids) := by
  have hinsert := @Table.mem_insert _ _ _ db.queuedJobs ids _ (key_policyJob policy runTime) job
  cases policy <;> exact hinsert

/-! ## One statement -/

variable {ids : IdSource} {requests : ℕ → Request} {s : State} {call : ℕ}

theorem slot_update_self {db : Db} {phase : Phase} :
    State.slot requests ⟨db, Function.update s.phases call phase⟩ call =
      pendingSlot (requests call) phase := by
  simp only [State.slot, Function.update_self]

theorem slot_update_of_ne {db : Db} {phase : Phase} {other : ℕ} (h : other ≠ call) :
    State.slot requests ⟨db, Function.update s.phases call phase⟩ other = s.slot requests other := by
  simp only [State.slot, Function.update_of_ne h]

/-- Between its read and its commit a call leaves the database alone, and at most gives up its
slot. -/
theorem advance_keeps (ids : IdSource) (request : Request) {phase : Phase} (db : Db)
    (hread : phase ≠ .started)
    (hcommit : ∀ policy, phase ≠ .written policy) :
    (SchedulerRuntime.advance ids request phase db).2 = db ∧
      ∀ slot, pendingSlot request (SchedulerRuntime.advance ids request phase db).1 = some slot →
        pendingSlot request phase = some slot := by
  cases phase with
  | started => exact absurd rfl hread
  | written policy => exact absurd rfl (hcommit policy)
  | passed policy => exact ⟨rfl, fun _ h => h⟩
  | enqueued policy => exact ⟨rfl, fun _ h => h⟩
  | returned triggered => exact ⟨rfl, fun _ h => h⟩
  | loaded policy =>
    cases policy with
    | none => exact ⟨rfl, fun _ h => h⟩
    | some policy =>
      cases hrejects : rejects policy.row request.runTime with
      | true => simp [SchedulerRuntime.advance, hrejects, pendingSlot]
      | false => simp [SchedulerRuntime.advance, hrejects, pendingSlot]

/-- **What one step does**: a call reads; a call commits; or the database stays, and at most a
call gives up its slot. -/
theorem step_cases (ids : IdSource) (requests : ℕ → Request) (s : State) (i : Step) :
    (∃ call, i = .advance call ∧ s.phases call = .started ∧
      (step ids requests s i).db = s.db ∧
      (step ids requests s i).slot requests call = readSlot requests s call ∧
      ∀ other, other ≠ call →
        (step ids requests s i).slot requests other = s.slot requests other) ∨
    (∃ call policy, i = .advance call ∧ s.phases call = .written policy ∧
      (step ids requests s i).db = commitTrigger ids policy (requests call).runTime s.db ∧
      (step ids requests s i).slot requests call = none ∧
      ∀ other, other ≠ call →
        (step ids requests s i).slot requests other = s.slot requests other) ∨
    ((step ids requests s i).db = s.db ∧
      ∀ other slot, (step ids requests s i).slot requests other = some slot →
        s.slot requests other = some slot) := by
  cases i with
  | fail call =>
    refine Or.inr (Or.inr ⟨rfl, fun other slot h => ?_⟩)
    by_cases hother : other = call
    · subst hother
      rw [step, slot_update_self] at h
      exact absurd h (by simp [pendingSlot])
    · rwa [step, slot_update_of_ne hother] at h
  | advance call =>
    by_cases hread : s.phases call = .started
    · refine Or.inl ⟨call, rfl, hread, ?_, ?_, fun other hother => ?_⟩
      · simp only [step, hread]
        rfl
      · simp only [step, slot_update_self, hread]
        rfl
      · simp only [step, slot_update_of_ne hother]
    by_cases hcommit : ∃ policy, s.phases call = .written policy
    · obtain ⟨policy, hphase⟩ := hcommit
      refine Or.inr (Or.inl ⟨call, policy, rfl, hphase, ?_, ?_, fun other hother => ?_⟩)
      · simp only [step, hphase]
        rfl
      · simp only [step, slot_update_self, hphase]
        rfl
      · simp only [step, slot_update_of_ne hother]
    · have hkeeps := advance_keeps ids (requests call) s.db hread
        fun policy h => hcommit ⟨policy, h⟩
      refine Or.inr (Or.inr ⟨hkeeps.1, fun other slot h => ?_⟩)
      by_cases hother : other = call
      · subst hother
        rw [step, slot_update_self] at h
        exact hkeeps.2 slot h
      · rwa [step, slot_update_of_ne hother] at h

/-! ## Reads that are alone -/

/-- **A step keeps the jobs apart** when it reads alone. -/
theorem Settled.step {i : Step} (h : Settled requests s) (halone : ReadsAlone requests s i) :
    Settled requests (step ids requests s i) := by
  rcases step_cases ids requests s i with
    ⟨call, rfl, hphase, hdb, hslot, hothers⟩ | ⟨call, policy, rfl, hphase, hdb, hnone, hothers⟩ |
      ⟨hdb, hslots⟩
  · -- the slot of the call that reads is unserved, and nobody else has it
    have hread := halone hphase
    refine ⟨hdb ▸ h.once, fun other slot hother => ?_, fun first second slot hfirst hsecond => ?_⟩
    · rw [hdb]
      by_cases heq : other = call
      · subst heq
        exact (hread slot (hslot ▸ hother)).1
      · exact h.unserved other slot (hothers other heq ▸ hother)
    · by_cases hfc : first = call
      · subst hfc
        by_contra hne
        exact (hread slot (hslot ▸ hfirst)).2 second hne (hothers second hne ▸ hsecond)
      · by_cases hsc : second = call
        · subst hsc
          exact absurd (hothers first hfc ▸ hfirst) ((hread slot (hslot ▸ hsecond)).2 first hfc)
        · exact h.alone first second slot (hothers first hfc ▸ hfirst) (hothers second hsc ▸ hsecond)
  · -- the slot that is served now was held by this call alone
    have hheld : s.slot requests call = some (slotOf policy (requests call).runTime) := by
      rw [State.slot, hphase]
      rfl
    have hunserved := h.unserved call _ hheld
    refine ⟨?_, fun other slot hother => ?_, fun first second slot hfirst hsecond => ?_⟩
    · rw [hdb]
      intro slot job hjob job' hjob' his his'
      rcases mem_queuedJobs_commitTrigger.mp hjob with hold | rfl
      · rcases mem_queuedJobs_commitTrigger.mp hjob' with hold' | rfl
        · exact h.once slot job hold job' hold' his his'
        · obtain rfl := isJobOf_policyJob_iff.mp his'
          exact absurd ⟨job, hold, his⟩ hunserved
      · rcases mem_queuedJobs_commitTrigger.mp hjob' with hold' | rfl
        · obtain rfl := isJobOf_policyJob_iff.mp his
          exact absurd ⟨job', hold', his'⟩ hunserved
        · rfl
    · have hne : other ≠ call := by
        rintro rfl
        rw [hnone] at hother
        cases hother
      rw [hothers other hne] at hother
      rw [hdb]
      rintro ⟨job, hjob, his⟩
      rcases mem_queuedJobs_commitTrigger.mp hjob with hold | rfl
      · exact h.unserved other slot hother ⟨job, hold, his⟩
      · obtain rfl := isJobOf_policyJob_iff.mp his
        exact hne (h.alone call other _ hheld hother)
    · have hne : ∀ other, (PolicyInterleavings.step ids requests s (.advance call)).slot requests
          other = some slot → other ≠ call := by
        rintro other hother rfl
        rw [hnone] at hother
        cases hother
      exact h.alone first second slot (hothers first (hne first hfirst) ▸ hfirst)
        (hothers second (hne second hsecond) ▸ hsecond)
  · refine ⟨hdb ▸ h.once, fun other slot hother => ?_, fun first second slot hfirst hsecond => ?_⟩
    · rw [hdb]
      exact h.unserved other slot (hslots other slot hother)
    · exact h.alone first second slot (hslots first slot hfirst) (hslots second slot hsecond)

theorem ReadsAlone.of_goesOn {i : Step} (h : GoesOn s i) : ReadsAlone requests s i := by
  cases i with
  | advance call => exact fun hstarted => absurd hstarted h
  | fail call => trivial

/-- The calls under way keep the jobs apart. -/
theorem Settled.safelyGoesOn {i : Step} (h : Settled requests s)
    (halone : ReadsAlone requests s i) : SafelyGoesOn ids requests s i := by
  intro rest hrest
  have hsettled := Run.invariant_of_along
    (fun _ _ hs hgoes => Settled.step hs (ReadsAlone.of_goesOn hgoes)) (h.step halone) hrest
  exact hsettled.once

/-! ## Reads that are not alone -/

/-- A call that is under way can commit its job, without any other call. -/
structure Completes (ids : IdSource) (requests : ℕ → Request) (s : State) (call : ℕ) (slot : Slot)
    (rest : List Step) : Prop where
  goesOn : Run.Along (step ids requests) GoesOn s rest
  job : ∃ job ∈ (Run.final (step ids requests) s rest).db.queuedJobs,
    job ∉ s.db.queuedJobs ∧ IsJobOf slot job
  jobs : ∀ job ∈ s.db.queuedJobs, job ∈ (Run.final (step ids requests) s rest).db.queuedJobs
  others : ∀ other, other ≠ call →
    (Run.final (step ids requests) s rest).phases other = s.phases other

theorem completes_written {policy : LoadedPolicy} (h : s.phases call = .written policy) :
    Completes ids requests s call (slotOf policy (requests call).runTime) [.advance call] := by
  have hdb : (step ids requests s (.advance call)).db =
      commitTrigger ids policy (requests call).runTime s.db := by
    simp only [step, h]
    rfl
  refine ⟨⟨?_, trivial⟩, ?_, fun job hjob => ?_, fun other hother => ?_⟩
  · rw [GoesOn, h]
    exact Phase.noConfusion
  · refine ⟨policyJob policy (requests call).runTime (s.db.queuedJobs.nextKey ids), ?_, ?_,
      isJobOf_policyJob_iff.mpr rfl⟩
    · rw [Run.final_cons, Run.final_nil, hdb]
      exact mem_queuedJobs_commitTrigger.mpr (Or.inr rfl)
    · exact fun hmem => Table.key_ne_nextKey _ _ hmem rfl
  · rw [Run.final_cons, Run.final_nil, hdb]
    exact mem_queuedJobs_commitTrigger.mpr (Or.inl hjob)
  · simp only [Run.final_cons, Run.final_nil, step, Function.update_of_ne hother]

/-- A statement before the commit leads to a call that completes. -/
theorem Completes.cons {slot : Slot} {rest : List Step} (hgoes : s.phases call ≠ .started)
    (hdb : (step ids requests s (.advance call)).db = s.db)
    (h : Completes ids requests (step ids requests s (.advance call)) call slot rest) :
    Completes ids requests s call slot (.advance call :: rest) := by
  refine ⟨⟨hgoes, h.goesOn⟩, ?_, ?_, fun other hother => ?_⟩
  · have hjob := h.job
    rwa [hdb] at hjob
  · have hjobs := h.jobs
    rwa [hdb] at hjobs
  · rw [Run.final_cons, h.others other hother]
    simp only [step, Function.update_of_ne hother]

theorem completes_enqueued {policy : LoadedPolicy} (h : s.phases call = .enqueued policy) :
    Completes ids requests s call (slotOf policy (requests call).runTime)
      [.advance call, .advance call] := by
  refine Completes.cons (by rw [h]; exact Phase.noConfusion) (by simp only [step, h]; rfl)
    (completes_written ?_)
  simp only [step, Function.update_self, h]
  rfl

theorem completes_passed {policy : LoadedPolicy} (h : s.phases call = .passed policy) :
    Completes ids requests s call (slotOf policy (requests call).runTime)
      [.advance call, .advance call, .advance call] := by
  refine Completes.cons (by rw [h]; exact Phase.noConfusion) (by simp only [step, h]; rfl)
    (completes_enqueued ?_)
  simp only [step, Function.update_self, h]
  rfl

/-- **A call with a slot can serve it.** -/
theorem exists_completes (ids : IdSource) {slot : Slot} (h : s.slot requests call = some slot) :
    ∃ rest, Completes ids requests s call slot rest := by
  unfold State.slot at h
  cases hphase : s.phases call with
  | started => rw [hphase] at h; cases h
  | returned triggered => rw [hphase] at h; cases h
  | passed policy =>
    rw [hphase] at h
    obtain rfl := Option.some.inj h
    exact ⟨_, completes_passed hphase⟩
  | enqueued policy =>
    rw [hphase] at h
    obtain rfl := Option.some.inj h
    exact ⟨_, completes_enqueued hphase⟩
  | written policy =>
    rw [hphase] at h
    obtain rfl := Option.some.inj h
    exact ⟨_, completes_written hphase⟩
  | loaded policy =>
    rw [hphase] at h
    cases policy with
    | none => cases h
    | some policy =>
      cases hrejects : rejects policy.row (requests call).runTime with
      | true => simp [pendingSlot, hrejects] at h
      | false =>
        obtain rfl : slotOf policy (requests call).runTime = slot := by
          simpa [pendingSlot, hrejects] using h
        refine ⟨_, Completes.cons (by rw [hphase]; exact Phase.noConfusion) ?_
          (completes_passed ?_)⟩
        · simp [step, hphase, SchedulerRuntime.advance, hrejects]
        · simp [step, hphase, SchedulerRuntime.advance, hrejects]

/-- **A read that is not alone** lets a slot be served twice. -/
theorem readsAlone_of_safelyGoesOn {i : Step} (h : SafelyGoesOn ids requests s i) :
    ReadsAlone requests s i := by
  cases i with
  | fail call => trivial
  | advance call =>
    intro hphase slot hslot
    have hdb : (step ids requests s (.advance call)).db = s.db := by
      simp only [step, hphase]
      rfl
    have hread : (step ids requests s (.advance call)).slot requests call = some slot := by
      rw [← hslot]
      simp only [step, slot_update_self, hphase]
      rfl
    constructor
    · rintro ⟨job, hjob, his⟩
      obtain ⟨rest, hrest⟩ := exists_completes ids hread
      obtain ⟨new, hnew, hnotIn, hisNew⟩ := hrest.job
      have honce := h rest hrest.goesOn slot new hnew job (hrest.jobs job (hdb ▸ hjob)) hisNew his
      exact hnotIn (honce ▸ hdb ▸ hjob)
    · intro other hother hslotOther
      have hpending : (step ids requests s (.advance call)).slot requests other = some slot := by
        rw [step, slot_update_of_ne hother]
        exact hslotOther
      obtain ⟨rest, hrest⟩ := exists_completes ids hpending
      obtain ⟨job, hjob, -, his⟩ := hrest.job
      -- the first call still has its slot when the other one has served it
      have hstill : (Run.final (step ids requests) (step ids requests s (.advance call)) rest).slot
          requests call = some slot := by
        rw [State.slot, hrest.others call (Ne.symm hother)]
        exact hread
      obtain ⟨rest', hrest'⟩ := exists_completes ids hstill
      obtain ⟨new, hnew, hnotIn, hisNew⟩ := hrest'.job
      have hfinal := h (rest ++ rest') (Run.along_append.mpr ⟨hrest.goesOn, hrest'.goesOn⟩)
      rw [Run.final_append] at hfinal
      have honce := hfinal slot new hnew job (hrest'.jobs job hjob) hisNew his
      exact hnotIn (honce ▸ hjob)

/-! ## Whole runs -/

/-- No call is under way. -/
def Idle (requests : ℕ → Request) (s : State) : Prop :=
  ∀ call, s.slot requests call = none

/-- **At most one job for a policy and a minute.**  Of any number of calls, at any times and in any
interleaving: at every step, the calls under way can only go on so that no policy gets two jobs for
one minute, if and only if every read that passes the guard is alone. -/
theorem policies_trigger_once_iff (ids : IdSource) (requests : ℕ → Request) (s : State)
    (steps : List Step) (honce : OneJobPerMinute s.db) (hidle : Idle requests s) :
    Run.Along (step ids requests) (SafelyGoesOn ids requests) s steps ↔
      Run.Along (step ids requests) (ReadsAlone requests) s steps := by
  have hsettled : Settled requests s := by
    refine ⟨honce, fun call slot h => ?_, fun call other slot h => ?_⟩
    · rw [hidle call] at h
      cases h
    · rw [hidle call] at h
      cases h
  clear honce hidle
  induction steps generalizing s with
  | nil => exact Iff.rfl
  | cons i steps ih =>
    rw [Run.along_cons, Run.along_cons]
    constructor
    · rintro ⟨hsafe, hrest⟩
      have halone := readsAlone_of_safelyGoesOn hsafe
      exact ⟨halone, (ih _ (hsettled.step halone)).mp hrest⟩
    · rintro ⟨halone, hrest⟩
      exact ⟨hsettled.safelyGoesOn halone, (ih _ (hsettled.step halone)).mpr hrest⟩

/-- A crawl policy, and calls for it at the given times. -/
def samplePolicy : SystemCrawlPolicy where
  id := 1
  systemId := 1
  scheduleExpr := "* * * * *"

def sampleRequests (times : List DateTime) (call : ℕ) : Request where
  kind := .crawl
  identifier := 1
  runTime := times.getD call 0

def sampleState : State where
  db := { systemCrawlPolicies := .single samplePolicy }
  phases := fun _ => .started

theorem idle_sampleState (requests : ℕ → Request) : Idle requests sampleState := fun _ => rfl

theorem once_sampleState : OneJobPerMinute sampleState.db :=
  fun _ _ h => absurd h (Table.notMem_empty _)

/-- Every statement of a call, uninterrupted. -/
def uninterrupted (call : ℕ) : List Step :=
  List.replicate 5 (.advance call)

/-- Two calls for one minute, one after the other. -/
theorem policies_trigger_once_sample :
    Run.Along (step .ascending (sampleRequests [0, 0]))
        (SafelyGoesOn .ascending (sampleRequests [0, 0])) sampleState
        (uninterrupted 0 ++ uninterrupted 1) ↔
      Run.Along (step .ascending (sampleRequests [0, 0])) (ReadsAlone (sampleRequests [0, 0]))
        sampleState (uninterrupted 0 ++ uninterrupted 1) :=
  policies_trigger_once_iff .ascending (sampleRequests [0, 0]) sampleState _ once_sampleState
    (idle_sampleState _)

/-- Two calls that read before either commits enqueue two jobs for their minute; and so do, without
any interleaving, a call for a minute, one for the next minute, and a late one for the first. -/
theorem policies_trigger_once_fails :
    ¬ OneJobPerMinute (Run.final (step .ascending (sampleRequests [0, 0])) sampleState
        ([.advance 0] ++ uninterrupted 1 ++ uninterrupted 0)).db ∧
    ¬ OneJobPerMinute (Run.final (step .ascending (sampleRequests [0, 60000000, 0])) sampleState
        (uninterrupted 0 ++ uninterrupted 1 ++ uninterrupted 2)).db := by
  constructor
  · exact fun h => absurd (h ⟨.crawl, 1, 0⟩) (by decide +kernel)
  · exact fun h => absurd (h ⟨.crawl, 1, 0⟩) (by decide +kernel)

end PolicyInterleavings

end Runlet
