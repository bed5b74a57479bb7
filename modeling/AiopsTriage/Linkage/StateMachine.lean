import AiopsTriage.Linkage.Schema
import AiopsTriage.Outbox.StateMachine

/-!
# ServiceNow linkage state machine

The pure transitions of one linkage record: `SEARCHING` before an attempt, `LINKED`
after one that succeeded, `FAILED_TEMP` or `FAILED_FINAL` after one that failed. A
transient failure is retried while the next attempt still falls into the window of the
record; the delay is that of the outbox, or longer when ServiceNow asked for it.

A transition is a `model_copy`, which does not validate what it sets.
-/

namespace AiopsTriage

/-- `instant + timedelta`, which overflows outside the range of `datetime`. -/
def addDelta (t : Instant) (delta : Int) : Except Failure Instant :=
  if minInstant ≤ t + delta ∧ t + delta ≤ maxInstant then .ok (t + delta)
  else .error .overflowError

/-- The retry knobs of `ServiceNowLinkageContractV1`, with their validators. -/
structure LinkageRetryPolicy where
  /-- how long attempts are made -/
  retryWindowMinutes : Nat := 120
  /-- the first delay -/
  retryBaseSeconds : Nat := 30
  /-- the longest delay -/
  retryMaxSeconds : Nat := 900
  /-- the share of a delay that varies -/
  retryJitterRatio : ℚ := 1 / 5
  /-- the codes of errors that are worth another attempt -/
  transientErrorClassifications : List String :=
    ["timeout", "connection_error", "http_429", "http_5xx"]
  /-- `ge=1, le=720` -/
  window_ok : 1 ≤ retryWindowMinutes ∧ retryWindowMinutes ≤ 720 := by decide
  /-- `ge=1, le=3600` -/
  base_ok : 1 ≤ retryBaseSeconds ∧ retryBaseSeconds ≤ 3600 := by decide
  /-- `ge=1, le=86400` -/
  max_ok : 1 ≤ retryMaxSeconds ∧ retryMaxSeconds ≤ 86400 := by decide
  /-- `retry_base_seconds must be <= retry_max_seconds` -/
  base_le_max : retryBaseSeconds ≤ retryMaxSeconds := by decide
  /-- `ge=0.0, le=1.0` -/
  jitter_ok : 0 ≤ retryJitterRatio ∧ retryJitterRatio ≤ 1 := by norm_num
  /-- no blank classification -/
  transient_ne : transientErrorClassifications.all (fun c => !PyText.isBlank c) = true := by decide
  /-- no classification twice -/
  transient_nodup : transientErrorClassifications.Nodup := by decide

/-- `create_pending_linkage_retry_record`. -/
def createPendingLinkageRetryRecord (caseId pdIncidentId : String) (incidentSysId : Option String)
    (retryWindowMinutes : Int) (now : DateTime) : Except Failure LinkageRetryRecord := do
  let resolvedNow ← resolveNow now
  let deadlineAt ← addDelta resolvedNow (60000000 * retryWindowMinutes)
  LinkageRetryRecord.validate
    { caseId := caseId
      pdIncidentId := pdIncidentId
      incidentSysId := incidentSysId
      state := .pending
      attemptCount := 0
      retryWindowMinutes := retryWindowMinutes
      firstAttemptAt := resolvedNow
      updatedAt := resolvedNow
      deadlineAt := deadlineAt
      nextAttemptAt := none
      requestId := none
      lastErrorCode := none
      lastErrorMessage := none
      lastRetryAfterSeconds := none
      lastReasonMetadata := Dict.empty }

/-- `is_retry_due`. -/
def isRetryDue (record : LinkageRetryRecord) (now : DateTime) : Except Failure Bool := do
  let resolvedNow ← resolveNow now
  return if record.state = .failedTemp then record.nextAttemptAt.all (· ≤ resolvedNow)
    else record.state = .pending || record.state = .searching

/-- `_resolve_transition_now`: a clock behind the record counts as the record's own
time. -/
def resolveLinkageTransitionNow (record : LinkageRetryRecord) (now : DateTime) :
    Except Failure Instant := do
  let resolvedNow ← resolveNow now
  return if resolvedNow < record.updatedAt then record.updatedAt else resolvedNow

/-! ## Transitions -/

/-- A record moved to `SEARCHING` at `t`. -/
def searchingRecord (record : LinkageRetryRecord) (t : Instant) : LinkageRetryRecord :=
  { record with
    state := .searching
    updatedAt := t
    nextAttemptAt := none }

/-- `mark_linkage_searching`: every state that is not terminal is admitted. -/
def markLinkageSearching (record : LinkageRetryRecord) (now : DateTime) :
    Except Failure LinkageRetryRecord := do
  raiseIf (record.state = .linked ∨ record.state = .failedFinal)
    (.invariantViolation s!"cannot enter SEARCHING from state={record.state.value}")
  let resolvedNow ← resolveLinkageTransitionNow record now
  return searchingRecord record resolvedNow

/-- `a or b` on optional texts. -/
def orText (a b : Option String) : Option String := (a.filter (· ≠ "")).or b

/-- A record moved to `LINKED` at `t`. -/
def linkedRecord (record : LinkageRetryRecord) (requestId incidentSysId : Option String)
    (metadata : Dict String Json) (t : Instant) : LinkageRetryRecord :=
  { record with
    state := .linked
    attemptCount := record.attemptCount + 1
    updatedAt := t
    incidentSysId := orText incidentSysId record.incidentSysId
    requestId := requestId
    nextAttemptAt := none
    lastErrorCode := none
    lastErrorMessage := none
    lastRetryAfterSeconds := none
    lastReasonMetadata := metadata }

/-- `mark_linkage_success`. -/
def markLinkageSuccess (record : LinkageRetryRecord) (requestId incidentSysId : Option String)
    (metadata : Dict String Json) (now : DateTime) : Except Failure LinkageRetryRecord := do
  raiseIf (record.state ≠ .searching)
    (.invariantViolation s!"cannot mark linkage success from state={record.state.value}")
  let resolvedNow ← resolveLinkageTransitionNow record now
  return linkedRecord record requestId incidentSysId metadata resolvedNow

/-- A failed attempt as the state machine is told of it. -/
structure LinkageFailure where
  /-- whether another attempt is worth while -/
  transient : Bool
  /-- the code of the error -/
  errorCode : String
  /-- the text of the error -/
  errorMessage : String
  /-- the request that failed -/
  requestId : Option String
  /-- the wait ServiceNow asked for -/
  retryAfterSeconds : Option Int
  /-- what else is known of it -/
  reasonMetadata : Dict String Json
  deriving DecidableEq, Repr

/-- A record with a failed outcome at `t`. -/
def failedRecord (record : LinkageRetryRecord) (failure : LinkageFailure)
    (state : LinkageRetryState) (t : Instant) (nextAttemptAt : Option Instant)
    (errorCode errorMessage : String) (retryAfterSeconds : Option Int)
    (metadata : Dict String Json) : LinkageRetryRecord :=
  { record with
    state := state
    attemptCount := record.attemptCount + 1
    updatedAt := t
    requestId := failure.requestId
    nextAttemptAt := nextAttemptAt
    lastErrorCode := some errorCode
    lastErrorMessage := some errorMessage
    lastRetryAfterSeconds := retryAfterSeconds
    lastReasonMetadata := metadata }

/-- The outcome of an attempt that the window leaves no time to repeat. -/
def exhaustedRecord (record : LinkageRetryRecord) (failure : LinkageFailure) (t : Instant)
    (retryAfterSeconds : Option Int) (metadata : Dict String Json) : LinkageRetryRecord :=
  failedRecord record failure .failedFinal t none "retry_window_exhausted"
    "retry window exhausted before scheduling next attempt" retryAfterSeconds metadata

/-- The wait ServiceNow asked for, as far as the policy goes along. -/
def boundedRetryAfter (policy : LinkageRetryPolicy) (failure : LinkageFailure) : Option Int :=
  (failure.retryAfterSeconds.filter (0 < ·)).map (min · policy.retryMaxSeconds)

/-- `mark_linkage_failure`. -/
def markLinkageFailure [Platform] (policy : LinkageRetryPolicy) (record : LinkageRetryRecord)
    (failure : LinkageFailure) (now : DateTime) : Except Failure LinkageRetryRecord := do
  raiseIf (record.state ≠ .searching)
    (.invariantViolation s!"cannot mark linkage failure from state={record.state.value}")
  let resolvedNow ← resolveLinkageTransitionNow record now
  let sourced := failure.reasonMetadata.set "source_error_code" (.str failure.errorCode)
  if failure.transient = false then
    return failedRecord record failure .failedFinal resolvedNow none failure.errorCode
      failure.errorMessage failure.retryAfterSeconds failure.reasonMetadata
  else if record.deadlineAt ≤ resolvedNow then
    return exhaustedRecord record failure resolvedNow failure.retryAfterSeconds sourced
  else
    let computed ← computeRetryDelaySeconds record.caseId (record.attemptCount + 1)
      policy.retryBaseSeconds policy.retryMaxSeconds policy.retryJitterRatio
    let retryDelaySeconds : Int := (boundedRetryAfter policy failure).elim computed (max computed)
    let nextAttemptAt ← addDelta resolvedNow (1000000 * retryDelaySeconds)
    if record.deadlineAt < nextAttemptAt then
      return exhaustedRecord record failure resolvedNow (boundedRetryAfter policy failure)
        (sourced.set "source_retry_delay_seconds" (.int retryDelaySeconds))
    else
      return failedRecord record failure .failedTemp resolvedNow (some nextAttemptAt)
        failure.errorCode failure.errorMessage (boundedRetryAfter policy failure)
        failure.reasonMetadata

/-! ## What each transition can do -/

/-- A returned search left a state that is not terminal. -/
theorem markLinkageSearching_ok {record next : LinkageRetryRecord} {now : DateTime}
    (h : markLinkageSearching record now = .ok next) :
    (record.state ≠ .linked ∧ record.state ≠ .failedFinal) ∧
      ∃ t, next = searchingRecord record t := by
  obtain ⟨_, hguard, h⟩ := Except.bind_eq_ok.mp h
  obtain ⟨t, -, h⟩ := Except.bind_eq_ok.mp h
  rw [raiseIf_eq_ok, not_or] at hguard
  rw [Except.pure_eq_ok] at h
  exact ⟨hguard, t, h.symm⟩

/-- A returned success counts one outcome of a searching record. -/
theorem markLinkageSuccess_ok {record next : LinkageRetryRecord}
    {requestId incidentSysId : Option String} {metadata : Dict String Json} {now : DateTime}
    (h : markLinkageSuccess record requestId incidentSysId metadata now = .ok next) :
    record.state = .searching ∧
      ∃ t, next = linkedRecord record requestId incidentSysId metadata t := by
  obtain ⟨_, hguard, h⟩ := Except.bind_eq_ok.mp h
  obtain ⟨t, -, h⟩ := Except.bind_eq_ok.mp h
  rw [raiseIf_eq_ok, not_not] at hguard
  rw [Except.pure_eq_ok] at h
  exact ⟨hguard, t, h.symm⟩

/-- A returned failure counts one outcome of a searching record, which is then
`FAILED_TEMP` or `FAILED_FINAL`. -/
theorem markLinkageFailure_ok [Platform] {policy : LinkageRetryPolicy}
    {record next : LinkageRetryRecord} {failure : LinkageFailure} {now : DateTime}
    (h : markLinkageFailure policy record failure now = .ok next) :
    record.state = .searching ∧ ∃ state t nextAttemptAt errorCode errorMessage retryAfter metadata,
      (state = .failedTemp ∨ state = .failedFinal) ∧
        next = failedRecord record failure state t nextAttemptAt errorCode errorMessage
          retryAfter metadata := by
  obtain ⟨_, hguard, h⟩ := Except.bind_eq_ok.mp h
  obtain ⟨t, -, h⟩ := Except.bind_eq_ok.mp h
  rw [raiseIf_eq_ok, not_not] at hguard
  refine ⟨hguard, ?_⟩
  split at h
  · rw [Except.pure_eq_ok] at h
    exact ⟨_, _, _, _, _, _, _, .inr rfl, h.symm⟩
  · split at h
    · rw [Except.pure_eq_ok] at h
      exact ⟨_, _, _, _, _, _, _, .inr rfl, h.symm⟩
    · obtain ⟨computed, -, h⟩ := Except.bind_eq_ok.mp h
      obtain ⟨due, -, h⟩ := Except.bind_eq_ok.mp h
      split at h
      · rw [Except.pure_eq_ok] at h
        exact ⟨_, _, _, _, _, _, _, .inr rfl, h.symm⟩
      · rw [Except.pure_eq_ok] at h
        exact ⟨_, _, _, _, _, _, _, .inl rfl, h.symm⟩

end AiopsTriage
