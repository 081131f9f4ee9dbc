import Mathlib.Data.PNat.Defs
import Runlet.Jobs.RunCheckJob
import Runlet.Library.EarlyExit

/-!
# The bookkeeping of retries

`_run_precompiled_with_retry` for any number of attempts.  The loop of `RunCheckJob` is the one with
three (`runPrecompiledWithRetry_three`).  Every attempt calls the runner once; the outcomes of the
calls are kept here beside the record that the job makes of them, so that the record can be compared
with them at every exit of the loop (`Exact`).
-/

namespace Runlet
namespace RunCheckJob

/-- The record of the attempts that an ending carries. -/
def Ending.retry : Ending → Option RetryPayload
  | .completed _ retry => retry
  | .blocked retry => retry
  | .failed _ retry => retry

/-! ## Outcomes -/

def isBlocked : CallEnd RunPageCheckResult → Bool
  | .blocked _ => true
  | _ => false

def isPassed : CallEnd RunPageCheckResult → Bool
  | .returned result => enumValue (some result.status) = some "passed"
  | _ => false

/-- The category a failed attempt is recorded with. -/
def outcomeCategory : CallEnd RunPageCheckResult → Option String
  | .returned result => enumValue result.failureCategory
  | _ => some "runtime_error"

def outcomeMessage : CallEnd RunPageCheckResult → Option String
  | .returned result => extractErrorMessage result
  | .raised message => some message
  | .blocked _ => none

/-- The attempt failed, and the failure may be retried. -/
def isRetryable (outcome : CallEnd RunPageCheckResult) : Bool :=
  !isBlocked outcome && !isPassed outcome &&
    isRetryableFailure (outcomeCategory outcome) (outcomeMessage outcome)

/-- What an attempt is recorded as. -/
structure Records (outcome : CallEnd RunPageCheckResult) (entry : AttemptEntry) : Prop where
  status_eq : entry.status = if isPassed outcome then "passed" else "failed"
  category_eq : entry.failureCategory =
    if isPassed outcome then none else outcomeCategory outcome
  retryable_eq : entry.retryable = isRetryable outcome

namespace Bounded

section

variable (maxAttempts : ℕ)

/-! ## The loop -/

def retryPayload (attemptCount : ℕ) (flaky retryExhausted : Bool) (attempts : List AttemptEntry)
    (finalFailureCategory finalErrorMessage : Option String) : RetryPayload :=
  { RunCheckJob.retryPayload attemptCount flaky retryExhausted attempts finalFailureCategory
      finalErrorMessage with
    maxAttempts := maxAttempts }

def shouldRetry (attemptNo : ℕ) (failureCategory errorMessage : Option String) : Bool :=
  isRetryableFailure failureCategory errorMessage && attemptNo < maxAttempts

def recordFailure (now : DateTime) (attemptNo : ℕ) (failureCategory errorMessage : Option String)
    (attempts : Attempts) : Attempts :=
  let retryable := isRetryableFailure failureCategory errorMessage
  let backoffMs :=
    if shouldRetry maxAttempts attemptNo failureCategory errorMessage then
      computeBackoffMs attemptNo precompiledBaseBackoffMs precompiledJitterMs
    else 0
  { attempts with
    entries := attempts.entries ++
      [attemptEntry now attemptNo "failed" failureCategory retryable backoffMs]
    failureCategory := failureCategory
    errorMessage := errorMessage
    retryable := retryable }

def failurePayload (attemptNo : ℕ) (attempts : Attempts) : RetryPayload :=
  retryPayload maxAttempts attemptNo false (attempts.retryable && maxAttempts ≤ attemptNo)
    attempts.entries attempts.failureCategory attempts.errorMessage

variable (handler : RunCheckJobHandler) (now : DateTime) (pageCheckId executionPlanId : Option UUID)
  (runtimeInputs : Option Json)

/-- One round, by the outcome of its attempt. -/
def judgeAttempt (attemptNo : ℕ) (attempts : Attempts) : CallEnd RunPageCheckResult → AttemptEnd
  | .blocked _ =>
    if attempts.entries = [] then .stop (.blocked none)
    else
      .stop (.blocked (some (retryPayload maxAttempts attempts.entries.length false false
        attempts.entries attempts.failureCategory attempts.errorMessage)))
  | .raised message =>
    let failed :=
      recordFailure maxAttempts now attemptNo (some "runtime_error") (some message) attempts
    if shouldRetry maxAttempts attemptNo (some "runtime_error") (some message) then .again failed
    else .stop (.failed message (some (failurePayload maxAttempts attemptNo failed)))
  | .returned result =>
    if enumValue (some result.status) = some "passed" then
      .stop (.completed result (some (retryPayload maxAttempts attemptNo (1 < attemptNo) false
        (attempts.entries ++ [attemptEntry now attemptNo "passed" none false 0]) none none)))
    else
      let category := enumValue result.failureCategory
      let message := extractErrorMessage result
      let failed :=
        { recordFailure maxAttempts now attemptNo category message attempts with
          lastResult := some result }
      if shouldRetry maxAttempts attemptNo category message then .again failed
      else .stop (.completed result (some (failurePayload maxAttempts attemptNo failed)))

/-- The call of an attempt. -/
def attemptCall (attemptNo : ℕ) (db : Db) : Called RunPageCheckResult :=
  handler.runPageCheck attemptNo pageCheckId executionPlanId runtimeInputs db

/-- The database after an attempt: one that raises is rolled back. -/
def attemptDb (called : Called RunPageCheckResult) : Db :=
  match called.outcome with
  | .raised _ => called.committed
  | _ => called.session

def runAttempt (attemptNo : ℕ) (attempts : Attempts) (db : Db) : AttemptEnd × Db :=
  let called := attemptCall handler pageCheckId executionPlanId runtimeInputs attemptNo db
  (judgeAttempt maxAttempts now attemptNo attempts called.outcome, attemptDb called)

def runPrecompiledWithRetry : List ℕ → Attempts → Db → Ending × Db
  | [], attempts, db =>
    match attempts.lastResult with
    | none => (.failed "" none, db)
    | some result =>
      (.completed result (some (failurePayload maxAttempts maxAttempts attempts)), db)
  | attemptNo :: rest, attempts, db =>
    match runAttempt maxAttempts handler now pageCheckId executionPlanId runtimeInputs attemptNo
      attempts db with
    | (.stop ending, db) => (ending, db)
    | (.again attempts, db) => runPrecompiledWithRetry rest attempts db

/-- The numbers of the attempts. -/
def attemptNumbers : List ℕ :=
  (List.range maxAttempts).map (· + 1)

end

theorem retryPayload_three (attemptCount : ℕ) (flaky retryExhausted : Bool)
    (attempts : List AttemptEntry) (category message : Option String) :
    retryPayload precompiledMaxAttempts attemptCount flaky retryExhausted attempts category message =
      RunCheckJob.retryPayload attemptCount flaky retryExhausted attempts category message :=
  rfl

theorem recordFailure_three (now : DateTime) (attemptNo : ℕ) (category message : Option String)
    (attempts : Attempts) :
    recordFailure precompiledMaxAttempts now attemptNo category message attempts =
      RunCheckJob.recordFailure now attemptNo category message attempts :=
  rfl

theorem shouldRetry_three (attemptNo : ℕ) (category message : Option String) :
    shouldRetry precompiledMaxAttempts attemptNo category message =
      RunCheckJob.shouldRetry attemptNo category message :=
  rfl

theorem failurePayload_three (attemptNo : ℕ) (attempts : Attempts) :
    failurePayload precompiledMaxAttempts attemptNo attempts =
      RunCheckJob.failurePayload attemptNo attempts :=
  rfl

/-- With three attempts, this is the loop of the job. -/
theorem runAttempt_three (handler : RunCheckJobHandler) (now : DateTime)
    (pageCheckId executionPlanId : Option UUID) (runtimeInputs : Option Json) (attemptNo : ℕ)
    (attempts : Attempts) (db : Db) :
    runAttempt precompiledMaxAttempts handler now pageCheckId executionPlanId runtimeInputs
        attemptNo attempts db =
      RunCheckJob.runAttempt handler now pageCheckId executionPlanId runtimeInputs attemptNo
        attempts db := by
  unfold runAttempt RunCheckJob.runAttempt attemptCall attemptDb judgeAttempt
  simp only [retryPayload_three, recordFailure_three, failurePayload_three]
  cases (handler.runPageCheck attemptNo pageCheckId executionPlanId runtimeInputs db).outcome with
  | blocked reason =>
    by_cases hnone : attempts.entries = []
    · simp only [if_pos hnone]
    · simp only [if_neg hnone]
  | raised message =>
    dsimp only
    by_cases hretry :
        RunCheckJob.shouldRetry attemptNo (some "runtime_error") (some message) = true
    · rw [if_pos hretry, if_pos ((shouldRetry_three _ _ _).trans hretry)]
    · rw [if_neg hretry, if_neg (mt (shouldRetry_three _ _ _).symm.trans hretry)]
  | returned result =>
    dsimp only
    by_cases hpassed : enumValue (some result.status) = some "passed"
    · simp only [if_pos hpassed]
    · by_cases hretry : RunCheckJob.shouldRetry attemptNo (enumValue result.failureCategory)
          (extractErrorMessage result) = true
      · rw [if_neg hpassed, if_neg hpassed, if_pos hretry,
          if_pos ((shouldRetry_three _ _ _).trans hretry)]
      · rw [if_neg hpassed, if_neg hpassed, if_neg hretry,
          if_neg (mt (shouldRetry_three _ _ _).symm.trans hretry)]

theorem runPrecompiledWithRetry_three (handler : RunCheckJobHandler) (now : DateTime)
    (pageCheckId executionPlanId : Option UUID) (runtimeInputs : Option Json) (numbers : List ℕ)
    (attempts : Attempts) (db : Db) :
    runPrecompiledWithRetry precompiledMaxAttempts handler now pageCheckId executionPlanId
        runtimeInputs numbers attempts db =
      RunCheckJob.runPrecompiledWithRetry handler now pageCheckId executionPlanId runtimeInputs
        numbers attempts db := by
  induction numbers generalizing attempts db with
  | nil => rfl
  | cons attemptNo rest ih =>
    rw [runPrecompiledWithRetry, RunCheckJob.runPrecompiledWithRetry, runAttempt_three]
    cases RunCheckJob.runAttempt handler now pageCheckId executionPlanId runtimeInputs attemptNo
      attempts db with
    | mk last db' =>
      cases last with
      | stop ending => rfl
      | again attempts' => exact ih attempts' db'

/-! ## One round -/

variable {maxAttempts : ℕ} {now : DateTime} {attemptNo : ℕ} {attempts attempts' : Attempts}
  {outcome : CallEnd RunPageCheckResult} {ending : Ending}

theorem isPassed_of_isRetryable (h : isRetryable outcome = true) : isPassed outcome = false := by
  unfold isRetryable at h
  rw [Bool.and_eq_true, Bool.and_eq_true] at h
  exact Bool.not_eq_true' _ ▸ h.1.2

theorem isBlocked_of_isRetryable (h : isRetryable outcome = true) : isBlocked outcome = false := by
  unfold isRetryable at h
  rw [Bool.and_eq_true, Bool.and_eq_true] at h
  exact Bool.not_eq_true' _ ▸ h.1.1

theorem exists_blocked (h : isBlocked outcome = true) : ∃ reason, outcome = .blocked reason := by
  cases outcome with
  | blocked reason => exact ⟨reason, rfl⟩
  | raised message => exact nomatch h
  | returned result => exact nomatch h

theorem exists_returned (h : isPassed outcome = true) : ∃ result, outcome = .returned result := by
  cases outcome with
  | blocked reason => exact nomatch h
  | raised message => exact nomatch h
  | returned result => exact ⟨result, rfl⟩

theorem isPassed_returned (result : RunPageCheckResult) :
    isPassed (.returned result) = true ↔ enumValue (some result.status) = some "passed" := by
  unfold isPassed
  exact decide_eq_true_iff

/-- The record of a failed attempt. -/
theorem records_failed (hblocked : isBlocked outcome = false) (hpassed : isPassed outcome = false)
    (backoffMs : ℕ) :
    Records outcome (attemptEntry now attemptNo "failed" (outcomeCategory outcome)
      (isRetryableFailure (outcomeCategory outcome) (outcomeMessage outcome)) backoffMs) := by
  refine ⟨?_, ?_, ?_⟩
  · rw [hpassed]
    rfl
  · rw [hpassed]
    rfl
  · unfold isRetryable
    rw [hblocked, hpassed]
    rfl

/-- The attempts after a failed one. -/
def afterFailure (maxAttempts : ℕ) (now : DateTime) (attemptNo : ℕ) (attempts : Attempts)
    (outcome : CallEnd RunPageCheckResult) : Attempts :=
  { recordFailure maxAttempts now attemptNo (outcomeCategory outcome) (outcomeMessage outcome)
      attempts with
    lastResult :=
      match outcome with
      | .returned result => some result
      | _ => attempts.lastResult }

/-- The ending of a loop whose last attempt failed. -/
def failureEnding (retry : RetryPayload) : CallEnd RunPageCheckResult → Ending
  | .returned result => .completed result (some retry)
  | .raised message => .failed message (some retry)
  | .blocked _ => .blocked (some retry)

theorem failureEnding_retry (retry : RetryPayload) (outcome : CallEnd RunPageCheckResult) :
    (failureEnding retry outcome).retry = some retry := by
  cases outcome <;> rfl

/-- A failed attempt, whether it raised or returned. -/
theorem judgeAttempt_failed (hblocked : isBlocked outcome = false)
    (hpassed : isPassed outcome = false) :
    judgeAttempt maxAttempts now attemptNo attempts outcome =
      if shouldRetry maxAttempts attemptNo (outcomeCategory outcome) (outcomeMessage outcome) then
        .again (afterFailure maxAttempts now attemptNo attempts outcome)
      else
        .stop (failureEnding (failurePayload maxAttempts attemptNo
          (afterFailure maxAttempts now attemptNo attempts outcome)) outcome) := by
  cases outcome with
  | blocked reason => exact nomatch hblocked
  | raised message => rfl
  | returned result =>
    have hstatus := mt (isPassed_returned result).mpr (Bool.eq_false_iff.mp hpassed)
    unfold judgeAttempt
    dsimp only
    rw [if_neg hstatus]
    rfl

/-- The record of an attempt that failed. -/
theorem afterFailure_entries (hblocked : isBlocked outcome = false)
    (hpassed : isPassed outcome = false) :
    ∃ entry, (afterFailure maxAttempts now attemptNo attempts outcome).entries =
        attempts.entries ++ [entry] ∧ entry.attemptNo = attemptNo ∧ Records outcome entry :=
  ⟨_, rfl, rfl, records_failed hblocked hpassed _⟩

theorem isRetryable_eq (hblocked : isBlocked outcome = false) (hpassed : isPassed outcome = false) :
    isRetryable outcome =
      isRetryableFailure (outcomeCategory outcome) (outcomeMessage outcome) := by
  unfold isRetryable
  rw [hblocked, hpassed]
  rfl

/-- A round after which the loop goes on. -/
theorem again_spec (h : judgeAttempt maxAttempts now attemptNo attempts outcome = .again attempts') :
    isRetryable outcome = true ∧ attemptNo < maxAttempts ∧
      ∃ entry, attempts'.entries = attempts.entries ++ [entry] ∧ entry.attemptNo = attemptNo ∧
        Records outcome entry := by
  cases hblocked : isBlocked outcome with
  | true =>
    obtain ⟨reason, rfl⟩ := exists_blocked hblocked
    unfold judgeAttempt at h
    split_ifs at h
  | false =>
    cases hpassed : isPassed outcome with
    | true =>
      obtain ⟨result, rfl⟩ := exists_returned hpassed
      unfold judgeAttempt at h
      dsimp only at h
      rw [if_pos ((isPassed_returned result).mp hpassed)] at h
      exact nomatch h
    | false =>
      rw [judgeAttempt_failed hblocked hpassed] at h
      split_ifs at h with hretry
      obtain ⟨hfailure, hlt⟩ := (Bool.and_eq_true _ _).mp hretry
      rw [← AttemptEnd.again.inj h, isRetryable_eq hblocked hpassed]
      exact ⟨hfailure, of_decide_eq_true hlt, afterFailure_entries hblocked hpassed⟩

/-- The payload of a loop that ended with an attempt on record. -/
structure Closed (maxAttempts attemptNo : ℕ) (entries : List AttemptEntry)
    (outcome : CallEnd RunPageCheckResult) (retry : RetryPayload) : Prop where
  exists_entry : ∃ entry, retry.attempts = entries ++ [entry] ∧ entry.attemptNo = attemptNo ∧
    Records outcome entry
  attemptCount_eq : retry.attemptCount = attemptNo
  flaky_iff : retry.flaky = true ↔ isPassed outcome = true ∧ 1 < attemptNo
  exhausted_iff : retry.retryExhausted = true ↔
    isRetryable outcome = true ∧ maxAttempts ≤ attemptNo

theorem closed_failed (hblocked : isBlocked outcome = false) (hpassed : isPassed outcome = false) :
    Closed maxAttempts attemptNo attempts.entries outcome
      (failurePayload maxAttempts attemptNo
        (afterFailure maxAttempts now attemptNo attempts outcome)) := by
  refine ⟨afterFailure_entries hblocked hpassed, rfl, ?_, ?_⟩
  · rw [hpassed]
    exact iff_of_false (fun h => nomatch h) fun h => nomatch h.1
  · rw [isRetryable_eq hblocked hpassed]
    exact (Bool.and_eq_true _ _).to_iff.trans (and_congr_right fun _ => decide_eq_true_iff)

theorem closed_passed {result : RunPageCheckResult} (hpassed : isPassed (.returned result) = true) :
    Closed maxAttempts attemptNo attempts.entries (.returned result)
      (retryPayload maxAttempts attemptNo (1 < attemptNo) false
        (attempts.entries ++ [attemptEntry now attemptNo "passed" none false 0]) none none) := by
  have hretryable : isRetryable (.returned result) = false := by
    unfold isRetryable
    rw [hpassed]
    rfl
  refine ⟨⟨_, rfl, rfl, ?_, ?_, hretryable.symm⟩, rfl, ?_, ?_⟩
  · rw [hpassed]
    rfl
  · rw [hpassed]
    rfl
  · rw [hpassed]
    exact decide_eq_true_iff.trans (and_iff_right rfl).symm
  · rw [hretryable]
    exact iff_of_false (fun h => nomatch h) fun h => nomatch h.1

/-- The round that ends the loop. -/
theorem stop_spec (h : judgeAttempt maxAttempts now attemptNo attempts outcome = .stop ending) :
    (isBlocked outcome = true ∧ attempts.entries = [] ∧ ending.retry = none) ∨
    (isBlocked outcome = true ∧ attempts.entries ≠ [] ∧ ∃ retry, ending.retry = some retry ∧
      retry.attempts = attempts.entries ∧ retry.attemptCount = attempts.entries.length ∧
      retry.flaky = false ∧ retry.retryExhausted = false) ∨
    (isBlocked outcome = false ∧ ∃ retry, ending.retry = some retry ∧
      Closed maxAttempts attemptNo attempts.entries outcome retry) := by
  cases hblocked : isBlocked outcome with
  | true =>
    obtain ⟨reason, rfl⟩ := exists_blocked hblocked
    unfold judgeAttempt at h
    split_ifs at h with hnone
    · rw [← AttemptEnd.stop.inj h]
      exact .inl ⟨rfl, hnone, rfl⟩
    · rw [← AttemptEnd.stop.inj h]
      exact .inr (.inl ⟨rfl, hnone, _, rfl, rfl, rfl, rfl, rfl⟩)
  | false =>
    cases hpassed : isPassed outcome with
    | true =>
      obtain ⟨result, rfl⟩ := exists_returned hpassed
      unfold judgeAttempt at h
      dsimp only at h
      rw [if_pos ((isPassed_returned result).mp hpassed)] at h
      rw [← AttemptEnd.stop.inj h]
      exact .inr (.inr ⟨rfl, _, rfl, closed_passed hpassed⟩)
    | false =>
      rw [judgeAttempt_failed hblocked hpassed] at h
      split_ifs at h
      rw [← AttemptEnd.stop.inj h]
      exact .inr (.inr ⟨rfl, _, failureEnding_retry _ _, closed_failed hblocked hpassed⟩)

/-! ## The whole loop -/

section

variable (maxAttempts : ℕ) (handler : RunCheckJobHandler) (now : DateTime)
  (pageCheckId executionPlanId : Option UUID) (runtimeInputs : Option Json)

def attemptsAfter (attempts : Attempts) : AttemptEnd → Attempts
  | .again attempts => attempts
  | .stop _ => attempts

/-- A round with the outcome of its call. -/
def round (state : Attempts × Db) (attemptNo : ℕ) :
    (Attempts × Db) × CallEnd RunPageCheckResult × AttemptEnd :=
  let called := attemptCall handler pageCheckId executionPlanId runtimeInputs attemptNo state.2
  let last := judgeAttempt maxAttempts now attemptNo state.1 called.outcome
  ((attemptsAfter state.1 last, attemptDb called), called.outcome, last)

def isStop (output : CallEnd RunPageCheckResult × AttemptEnd) : Bool :=
  match output.2 with
  | .stop _ => true
  | .again _ => false

/-- The outcomes of the calls that the loop makes, in their order. -/
def outcomes (numbers : List ℕ) (attempts : Attempts) (db : Db) :
    List (CallEnd RunPageCheckResult) :=
  (EarlyExit.run (round maxAttempts handler now pageCheckId executionPlanId runtimeInputs) isStop
    (attempts, db) numbers).2.map (·.1)

end

/-- The record agrees with the outcomes of the attempts. -/
structure ExactRecord (maxAttempts : ℕ) (outcomes : List (CallEnd RunPageCheckResult))
    (retry : RetryPayload) : Prop where
  /-- A blocked attempt is not recorded, every other one is. -/
  records : List.Forall₂ Records (outcomes.filter fun outcome => !isBlocked outcome) retry.attempts
  numbered : retry.attempts.map (·.attemptNo) = List.range' 1 retry.attemptCount
  count_le : retry.attemptCount ≤ maxAttempts
  retryable_of_lt : ∀ i entry, i + 1 < retry.attemptCount → retry.attempts[i]? = some entry →
    entry.status = "failed" ∧ entry.retryable = true
  flaky_iff : retry.flaky = true ↔
    1 < retry.attemptCount ∧ ∃ entry, retry.attempts.getLast? = some entry ∧
      entry.status = "passed"
  exhausted_iff : retry.retryExhausted = true ↔
    retry.attemptCount = maxAttempts ∧ ∃ entry, retry.attempts.getLast? = some entry ∧
      entry.status = "failed" ∧ entry.retryable = true

/-- The bookkeeping of a loop over attempts. -/
structure Exact (maxAttempts : ℕ) (outcomes : List (CallEnd RunPageCheckResult))
    (ending : Ending) : Prop where
  length_le : outcomes.length ≤ maxAttempts
  /-- Only a failure that may be retried is followed by another attempt. -/
  retryable_of_lt : ∀ i outcome, i + 1 < outcomes.length → outcomes[i]? = some outcome →
    isRetryable outcome = true
  /-- There is a record, unless the first attempt was blocked. -/
  unrecorded_iff : ending.retry = none ↔ ∃ outcome, outcomes = [outcome] ∧ isBlocked outcome = true
  recorded : ∀ retry, ending.retry = some retry → ExactRecord maxAttempts outcomes retry

/-- The record of attempts that were all failures to be retried. -/
structure Recorded (done : List (CallEnd RunPageCheckResult)) (attempts : Attempts) : Prop where
  retryable : ∀ outcome ∈ done, isRetryable outcome = true
  records : List.Forall₂ Records done attempts.entries
  numbered : attempts.entries.map (·.attemptNo) = List.range' 1 done.length

section

variable {done : List (CallEnd RunPageCheckResult)}

theorem recorded_nil : Recorded [] {} where
  retryable := fun _ h => nomatch h
  records := .nil
  numbered := rfl

theorem Recorded.length_eq (h : Recorded done attempts) :
    attempts.entries.length = done.length :=
  h.records.length_eq.symm

theorem Recorded.filter_eq (h : Recorded done attempts) :
    (done.filter fun outcome => !isBlocked outcome) = done :=
  List.filter_eq_self.mpr fun outcome hmem =>
    (Bool.not_eq_true' _).symm ▸ isBlocked_of_isRetryable (h.retryable outcome hmem)

/-- Every entry is that of a failure to be retried. -/
theorem Recorded.entry (h : Recorded done attempts) {entry : AttemptEntry}
    (hmem : entry ∈ attempts.entries) : entry.status = "failed" ∧ entry.retryable = true := by
  obtain ⟨i, hi, rfl⟩ := List.getElem_of_mem hmem
  have hlt : i < done.length := h.length_eq ▸ hi
  have hrecords := h.records.get hlt hi
  have hretryable := h.retryable done[i] (List.getElem_mem hlt)
  rw [List.get_eq_getElem, List.get_eq_getElem] at hrecords
  refine ⟨?_, hrecords.retryable_eq.trans hretryable⟩
  rw [hrecords.status_eq, isPassed_of_isRetryable hretryable]
  rfl

/-- The record with one more attempt. -/
theorem forall₂_concat {entry : AttemptEntry} {entries : List AttemptEntry}
    (h : List.Forall₂ Records done entries) (hentry : Records outcome entry) :
    List.Forall₂ Records (done ++ [outcome]) (entries ++ [entry]) :=
  List.rel_append h (.cons hentry .nil)

theorem Recorded.numbered_concat (h : Recorded done attempts) {entry : AttemptEntry}
    (hentry : entry.attemptNo = done.length + 1) :
    (attempts.entries ++ [entry]).map (·.attemptNo) = List.range' 1 (done.length + 1) := by
  rw [List.map_append, h.numbered, List.range'_concat, List.map_singleton, hentry]
  congr 2
  omega

theorem Recorded.concat (h : Recorded done attempts)
    (hagain : judgeAttempt maxAttempts now (done.length + 1) attempts outcome = .again attempts') :
    Recorded (done ++ [outcome]) attempts' := by
  obtain ⟨hretryable, -, entry, hentries, hno, hentry⟩ := again_spec hagain
  refine ⟨fun o ho => ?_, hentries ▸ forall₂_concat h.records hentry, ?_⟩
  · rcases List.mem_append.mp ho with ho | ho
    · exact h.retryable o ho
    · rw [List.mem_singleton.mp ho]
      exact hretryable
  · rw [hentries, h.numbered_concat hno, List.length_append]
    rfl

/-- A loop blocked on a later attempt keeps the record of the attempts before. -/
theorem exactRecord_blocked (h : Recorded done attempts) (hlt : done.length < maxAttempts)
    (hblocked : isBlocked outcome = true) {retry : RetryPayload}
    (hattempts : retry.attempts = attempts.entries)
    (hcount : retry.attemptCount = attempts.entries.length) (hflaky : retry.flaky = false)
    (hexhausted : retry.retryExhausted = false) :
    ExactRecord maxAttempts (done ++ [outcome]) retry := by
  have hcount' : retry.attemptCount = done.length := hcount.trans h.length_eq
  refine ⟨?_, ?_, ?_, ?_, ?_, ?_⟩
  · rw [List.filter_append, h.filter_eq, List.filter_singleton, hblocked, hattempts]
    exact (List.append_nil done).symm ▸ h.records
  · rw [hattempts, h.numbered, hcount']
  · exact hcount'.trans_le hlt.le
  · intro i entry _ hentry
    exact h.entry (List.mem_of_getElem? (hattempts ▸ hentry))
  · refine iff_of_false (fun hf => nomatch hflaky.symm.trans hf) ?_
    rintro ⟨-, entry, hlast, hpassed⟩
    have hfailed := (h.entry (List.mem_of_getLast? (hattempts ▸ hlast))).1
    exact absurd (hfailed.symm.trans hpassed) (by decide)
  · refine iff_of_false (fun he => nomatch hexhausted.symm.trans he) ?_
    rintro ⟨hmax, -⟩
    exact absurd (hcount'.symm.trans hmax) (Nat.ne_of_lt hlt)

/-- A loop that ends with an attempt on record. -/
theorem exactRecord_closed (h : Recorded done attempts) (hle : done.length < maxAttempts)
    (hblocked : isBlocked outcome = false) {retry : RetryPayload}
    (hclosed : Closed maxAttempts (done.length + 1) attempts.entries outcome retry) :
    ExactRecord maxAttempts (done ++ [outcome]) retry := by
  obtain ⟨⟨entry, hattempts, hno, hentry⟩, hcount, hflaky, hexhausted⟩ := hclosed
  have hlast : retry.attempts.getLast? = some entry := by
    rw [hattempts, List.getLast?_concat]
  refine ⟨?_, ?_, ?_, ?_, ?_, ?_⟩
  · rw [List.filter_append, h.filter_eq, List.filter_singleton, hblocked, hattempts]
    exact forall₂_concat h.records hentry
  · rw [hattempts, h.numbered_concat hno, hcount]
  · rw [hcount]
    exact hle
  · intro i other hi hother
    have hi' : i < attempts.entries.length := by
      rw [h.length_eq]
      omega
    rw [hattempts, List.getElem?_append_left hi'] at hother
    exact h.entry (List.mem_of_getElem? hother)
  · rw [hflaky, hcount]
    constructor
    · rintro ⟨hpassed, hlt⟩
      exact ⟨hlt, entry, hlast, hentry.status_eq.trans (if_pos hpassed)⟩
    · rintro ⟨hlt, other, hother, hpassed⟩
      obtain rfl : entry = other := Option.some.inj (hlast.symm.trans hother)
      refine ⟨by_contra fun hnot => ?_, hlt⟩
      exact absurd (hpassed.symm.trans (hentry.status_eq.trans (if_neg hnot))) (by decide)
  · rw [hexhausted, hcount]
    constructor
    · rintro ⟨hretryable, hmax⟩
      refine ⟨Nat.le_antisymm hle hmax, entry, hlast, ?_, hentry.retryable_eq.trans hretryable⟩
      rw [hentry.status_eq, isPassed_of_isRetryable hretryable]
      rfl
    · rintro ⟨hmax, other, hother, -, hretryable⟩
      obtain rfl : entry = other := Option.some.inj (hlast.symm.trans hother)
      exact ⟨hentry.retryable_eq.symm.trans hretryable, hmax.symm.le⟩

theorem retryable_concat (h : Recorded done attempts) {i : ℕ} {o : CallEnd RunPageCheckResult}
    (hi : i + 1 < (done ++ [outcome]).length) (ho : (done ++ [outcome])[i]? = some o) :
    isRetryable o = true := by
  have hi' : i < done.length := by
    rw [List.length_append, List.length_singleton] at hi
    exact Nat.lt_of_succ_lt_succ hi
  rw [List.getElem?_append_left hi'] at ho
  exact h.retryable o (List.mem_of_getElem? ho)

/-- The round that ends the loop closes the books. -/
theorem exact_of_stop (h : Recorded done attempts) (hlt : done.length < maxAttempts)
    (hstop : judgeAttempt maxAttempts now (done.length + 1) attempts outcome = .stop ending) :
    Exact maxAttempts (done ++ [outcome]) ending := by
  have hlength : (done ++ [outcome]).length ≤ maxAttempts := by
    rw [List.length_append, List.length_singleton]
    exact hlt
  have hretryable : ∀ i o, i + 1 < (done ++ [outcome]).length →
      (done ++ [outcome])[i]? = some o → isRetryable o = true :=
    fun _ _ => retryable_concat h
  have hsingle : ∀ o, done ++ [outcome] = [o] → done = [] ∧ outcome = o := by
    intro o ho
    have hnil : done = [] := List.length_eq_zero_iff.mp (by simpa using congrArg List.length ho)
    subst hnil
    exact ⟨rfl, List.singleton_inj.mp ho⟩
  rcases stop_spec hstop with ⟨hblocked, hnone, hretry⟩ | ⟨hblocked, hsome, retry, hretry, hrest⟩ |
    ⟨hblocked, retry, hretry, hclosed⟩
  · have hdone : done = [] := List.length_eq_zero_iff.mp (h.length_eq ▸ hnone ▸ rfl)
    refine ⟨hlength, hretryable, iff_of_true hretry ⟨outcome, ?_, hblocked⟩, fun retry hr => ?_⟩
    · rw [hdone]
      rfl
    · exact nomatch hretry.symm.trans hr
  · refine ⟨hlength, hretryable, iff_of_false (fun hn => nomatch hretry.symm.trans hn) ?_, ?_⟩
    · rintro ⟨o, ho, -⟩
      exact hsome (List.length_eq_zero_iff.mp (h.length_eq.trans ((hsingle o ho).1 ▸ rfl)))
    · rintro retry' hr
      obtain rfl : retry = retry' := Option.some.inj (hretry.symm.trans hr)
      exact exactRecord_blocked h hlt hblocked hrest.1 hrest.2.1 hrest.2.2.1 hrest.2.2.2
  · refine ⟨hlength, hretryable, iff_of_false (fun hn => nomatch hretry.symm.trans hn) ?_, ?_⟩
    · rintro ⟨o, ho, hb⟩
      rw [← (hsingle o ho).2, hblocked] at hb
      exact nomatch hb
    · rintro retry' hr
      obtain rfl : retry = retry' := Option.some.inj (hretry.symm.trans hr)
      exact exactRecord_closed h hlt hblocked hclosed

end

section

variable {handler : RunCheckJobHandler} {pageCheckId executionPlanId : Option UUID}
  {runtimeInputs : Option Json}

/-- The call of an attempt in a loop. -/
abbrev callOf (handler : RunCheckJobHandler) (pageCheckId executionPlanId : Option UUID)
    (runtimeInputs : Option Json) (attemptNo : ℕ) (db : Db) : Called RunPageCheckResult :=
  attemptCall handler pageCheckId executionPlanId runtimeInputs attemptNo db

/-- A round, by what becomes of its attempt. -/
theorem round_eq {db : Db} {last : AttemptEnd}
    (h : judgeAttempt maxAttempts now attemptNo attempts
      (callOf handler pageCheckId executionPlanId runtimeInputs attemptNo db).outcome = last) :
    round maxAttempts handler now pageCheckId executionPlanId runtimeInputs (attempts, db)
        attemptNo =
      ((attemptsAfter attempts last,
          attemptDb (callOf handler pageCheckId executionPlanId runtimeInputs attemptNo db)),
        (callOf handler pageCheckId executionPlanId runtimeInputs attemptNo db).outcome, last) := by
  rw [← h]
  rfl

theorem loop_of_stop {db : Db} {ending : Ending}
    (h : judgeAttempt maxAttempts now attemptNo attempts
      (callOf handler pageCheckId executionPlanId runtimeInputs attemptNo db).outcome =
        .stop ending) (rest : List ℕ) :
    outcomes maxAttempts handler now pageCheckId executionPlanId runtimeInputs (attemptNo :: rest)
        attempts db =
        [(callOf handler pageCheckId executionPlanId runtimeInputs attemptNo db).outcome] ∧
      (runPrecompiledWithRetry maxAttempts handler now pageCheckId executionPlanId runtimeInputs
        (attemptNo :: rest) attempts db).1 = ending := by
  have hstops : isStop (round maxAttempts handler now pageCheckId executionPlanId runtimeInputs
      (attempts, db) attemptNo).2 = true := by
    rw [round_eq h]
    rfl
  refine ⟨?_, ?_⟩
  · unfold outcomes
    rw [EarlyExit.run_cons_of_stops hstops]
    rfl
  · rw [runPrecompiledWithRetry]
    unfold runAttempt
    dsimp only
    rw [h]

theorem loop_of_again {db : Db} {attempts' : Attempts}
    (h : judgeAttempt maxAttempts now attemptNo attempts
      (callOf handler pageCheckId executionPlanId runtimeInputs attemptNo db).outcome =
        .again attempts') (rest : List ℕ) :
    let called := callOf handler pageCheckId executionPlanId runtimeInputs attemptNo db
    outcomes maxAttempts handler now pageCheckId executionPlanId runtimeInputs (attemptNo :: rest)
        attempts db =
        called.outcome :: outcomes maxAttempts handler now pageCheckId executionPlanId runtimeInputs
          rest attempts' (attemptDb called) ∧
      runPrecompiledWithRetry maxAttempts handler now pageCheckId executionPlanId runtimeInputs
          (attemptNo :: rest) attempts db =
        runPrecompiledWithRetry maxAttempts handler now pageCheckId executionPlanId runtimeInputs
          rest attempts' (attemptDb called) := by
  intro called
  have hgoes : ¬isStop (round maxAttempts handler now pageCheckId executionPlanId runtimeInputs
      (attempts, db) attemptNo).2 = true := by
    rw [round_eq h]
    exact Bool.false_ne_true
  refine ⟨?_, ?_⟩
  · unfold outcomes
    rw [EarlyExit.run_cons_of_not_stops hgoes, round_eq h]
    rfl
  · rw [runPrecompiledWithRetry]
    unfold runAttempt
    dsimp only
    rw [h]

/-- The round that stopped the loop decides how it ends. -/
theorem loop_eq_of_stop {numbers : List ℕ} {db : Db} {i : ℕ} {ending : Ending}
    (h : (EarlyExit.run (round maxAttempts handler now pageCheckId executionPlanId runtimeInputs)
      isStop (attempts, db) numbers).2[i]? = some (outcome, .stop ending)) :
    ∃ number, numbers[i]? = some number ∧
      runPrecompiledWithRetry maxAttempts handler now pageCheckId executionPlanId runtimeInputs
          numbers attempts db =
        (ending, attemptDb (callOf handler pageCheckId executionPlanId runtimeInputs number
          (EarlyExit.reached (round maxAttempts handler now pageCheckId executionPlanId
            runtimeInputs) (attempts, db) (numbers.take i)).2)) := by
  induction numbers generalizing attempts db i with
  | nil => exact nomatch h
  | cons number numbers ih =>
    cases hjudge : judgeAttempt maxAttempts now number attempts
        (callOf handler pageCheckId executionPlanId runtimeInputs number db).outcome with
    | stop ending' =>
      have hround := round_eq hjudge
      rw [EarlyExit.run_cons_of_stops (by rw [hround]; rfl), hround] at h
      cases i with
      | zero =>
        obtain rfl : ending' = ending := AttemptEnd.stop.inj (Prod.mk.inj (Option.some.inj h)).2
        refine ⟨number, rfl, ?_⟩
        rw [runPrecompiledWithRetry]
        unfold runAttempt
        dsimp only
        rw [hjudge]
        rfl
      | succ i => exact nomatch h
    | again attempts' =>
      have hround := round_eq hjudge
      rw [EarlyExit.run_cons_of_not_stops (by rw [hround]; exact Bool.false_ne_true), hround] at h
      cases i with
      | zero => exact nomatch (Prod.mk.inj (Option.some.inj h)).2
      | succ i =>
        obtain ⟨number', hnumber, hloop⟩ := ih h
        refine ⟨number', hnumber, (loop_of_again hjudge numbers).2.trans (hloop.trans ?_)⟩
        rw [List.take_succ_cons, EarlyExit.reached_cons, hround]

/-- The rest of a loop, after attempts that are on record. -/
theorem exact_from {done : List (CallEnd RunPageCheckResult)} {left : ℕ}
    (h : Recorded done attempts) (hleft : done.length + (left + 1) = maxAttempts) (db : Db) :
    Exact maxAttempts
      (done ++ outcomes maxAttempts handler now pageCheckId executionPlanId runtimeInputs
        (List.range' (done.length + 1) (left + 1)) attempts db)
      (runPrecompiledWithRetry maxAttempts handler now pageCheckId executionPlanId runtimeInputs
        (List.range' (done.length + 1) (left + 1)) attempts db).1 := by
  induction left generalizing done attempts db with
  | zero =>
    rw [List.range'_succ]
    cases hjudge : judgeAttempt maxAttempts now (done.length + 1) attempts
        (callOf handler pageCheckId executionPlanId runtimeInputs (done.length + 1) db).outcome with
    | stop ending =>
      obtain ⟨houtcomes, hending⟩ := loop_of_stop hjudge []
      rw [List.range'_zero, houtcomes, hending]
      exact exact_of_stop h (by omega) hjudge
    | again attempts' =>
      -- The last attempt is not followed by another one.
      have hlt := (again_spec hjudge).2.1
      omega
  | succ left ih =>
    rw [List.range'_succ]
    cases hjudge : judgeAttempt maxAttempts now (done.length + 1) attempts
        (callOf handler pageCheckId executionPlanId runtimeInputs (done.length + 1) db).outcome with
    | stop ending =>
      obtain ⟨houtcomes, hending⟩ :=
        loop_of_stop hjudge (List.range' (done.length + 1 + 1) (left + 1))
      rw [houtcomes, hending]
      exact exact_of_stop h (by omega) hjudge
    | again attempts' =>
      obtain ⟨houtcomes, hloop⟩ :=
        loop_of_again hjudge (List.range' (done.length + 1 + 1) (left + 1))
      rw [houtcomes, hloop, List.append_cons]
      have hrest := ih (h.concat hjudge) (by
        rw [List.length_append, List.length_singleton]
        omega) (attemptDb (callOf handler pageCheckId executionPlanId runtimeInputs
          (done.length + 1) db))
      rw [List.length_append, List.length_singleton] at hrest
      exact hrest

end

theorem attemptNumbers_eq (maxAttempts : ℕ) :
    attemptNumbers maxAttempts = List.range' 1 maxAttempts := by
  rw [List.range'_eq_map_range]
  exact List.map_congr_left fun n _ => Nat.add_comm n 1

/-- The books are exact at every exit of the loop, for any number of attempts. -/
theorem bookkeeping_exact (maxAttempts : ℕ+) (handler : RunCheckJobHandler) (now : DateTime)
    (pageCheckId executionPlanId : Option UUID) (runtimeInputs : Option Json) (db : Db) :
    Exact maxAttempts
      (outcomes maxAttempts handler now pageCheckId executionPlanId runtimeInputs
        (attemptNumbers maxAttempts) {} db)
      (runPrecompiledWithRetry maxAttempts handler now pageCheckId executionPlanId runtimeInputs
        (attemptNumbers maxAttempts) {} db).1 := by
  obtain ⟨left, hleft⟩ := Nat.exists_eq_succ_of_ne_zero maxAttempts.pos.ne'
  rw [attemptNumbers_eq, hleft]
  exact exact_from recorded_nil (Nat.zero_add _) db

end Bounded
end RunCheckJob
end Runlet
