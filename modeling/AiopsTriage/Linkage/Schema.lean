import AiopsTriage.Lib.Dict
import AiopsTriage.Lib.Fallible
import AiopsTriage.Outbox.Schema

/-!
# ServiceNow linkage schema

The linkage of a case to ServiceNow is retried over a window, so its progress is kept
in one row a case (`LinkageRetryRecord`). `validate` is the validation of
`LinkageRetryRecordV1`, which every row goes through when it leaves the database; it
also strips the optional texts. The column of the metadata holds JSON text, which is
read back as the mapping it was written from.
-/

namespace AiopsTriage

/-- `LinkageRetryState`. -/
inductive LinkageRetryState where
  /-- nothing attempted yet -/
  | pending
  /-- an attempt is under way -/
  | searching
  /-- an attempt failed, another one is due later -/
  | failedTemp
  /-- linked -/
  | linked
  /-- given up -/
  | failedFinal
  deriving DecidableEq, Repr

/-- The text of a state in the database. -/
def LinkageRetryState.value : LinkageRetryState → String
  | .pending => "PENDING"
  | .searching => "SEARCHING"
  | .failedTemp => "FAILED_TEMP"
  | .linked => "LINKED"
  | .failedFinal => "FAILED_FINAL"

/-- The states that are never left. -/
def LinkageRetryState.isTerminal (s : LinkageRetryState) : Bool :=
  s = .linked || s = .failedFinal

/-- A row of the `sn_linkage_retry` table, and `LinkageRetryRecordV1`, which has the same
fields. -/
structure LinkageRetryRecord where
  /-- the case, unique in the table -/
  caseId : String
  /-- the PagerDuty incident -/
  pdIncidentId : String
  /-- the ServiceNow incident -/
  incidentSysId : Option String
  /-- where the row is in its life -/
  state : LinkageRetryState
  /-- outcomes so far -/
  attemptCount : Nat
  /-- how long attempts are made -/
  retryWindowMinutes : Int
  /-- when the row was inserted -/
  firstAttemptAt : Instant
  /-- when the row last changed -/
  updatedAt : Instant
  /-- when the window closes -/
  deadlineAt : Instant
  /-- when a FAILED_TEMP row is due again -/
  nextAttemptAt : Option Instant
  /-- the request of the last outcome -/
  requestId : Option String
  /-- the code of the last error -/
  lastErrorCode : Option String
  /-- the text of the last error -/
  lastErrorMessage : Option String
  /-- the wait ServiceNow asked for -/
  lastRetryAfterSeconds : Option Int
  /-- what else is known of the last outcome -/
  lastReasonMetadata : Dict String Json
  deriving DecidableEq, Repr

/-- The error of a field of `LinkageRetryRecordV1`. -/
def linkageRecordError (field : String) : Failure :=
  .validationError "LinkageRetryRecordV1" [field]

/-- `_validate_optional_non_empty`. -/
def optionalNonEmpty (error : Failure) : Option String → Except Failure (Option String)
  | none => .ok none
  | some value => if PyText.isBlank value then .error error else .ok (some (PyText.strip value))

/-- The validation of `LinkageRetryRecordV1`. -/
def LinkageRetryRecord.validate (r : LinkageRetryRecord) : Except Failure LinkageRetryRecord := do
  raiseIf (PyText.isBlank r.caseId) (linkageRecordError "case_id")
  raiseIf (PyText.isBlank r.pdIncidentId) (linkageRecordError "pd_incident_id")
  let incidentSysId ← optionalNonEmpty (linkageRecordError "incident_sys_id") r.incidentSysId
  raiseIf (r.retryWindowMinutes < 1) (linkageRecordError "retry_window_minutes")
  raiseIf (r.updatedAt < r.firstAttemptAt) (linkageRecordError "updated_at")
  raiseIf (r.deadlineAt < r.firstAttemptAt) (linkageRecordError "deadline_at")
  let requestId ← optionalNonEmpty (linkageRecordError "request_id") r.requestId
  let lastErrorCode ← optionalNonEmpty (linkageRecordError "last_error_code") r.lastErrorCode
  let lastErrorMessage ←
    optionalNonEmpty (linkageRecordError "last_error_message") r.lastErrorMessage
  raiseIf (r.lastRetryAfterSeconds.any (· < 1)) (linkageRecordError "last_retry_after_seconds")
  return { r with
    incidentSysId := incidentSysId
    requestId := requestId
    lastErrorCode := lastErrorCode
    lastErrorMessage := lastErrorMessage }

/-- A number PostgreSQL accepts in an `INTEGER` column. -/
def fitsInteger (n : Int) : Bool := -2147483648 ≤ n && n ≤ 2147483647

/-- The column types of `sn_linkage_retry_table`. The JSON text of the metadata always
fits: its column is unbounded and the text escapes the null character. -/
def linkageColumnsFit (row : LinkageRetryRecord) : Bool :=
  fitsVarchar 255 row.caseId && fitsVarchar 255 row.pdIncidentId &&
    row.incidentSysId.all (fitsVarchar 255) && fitsInteger row.attemptCount &&
    fitsInteger row.retryWindowMinutes && row.requestId.all (fitsVarchar 64) &&
    row.lastErrorCode.all (fitsVarchar 255) &&
    (row.lastErrorMessage.all fun m => !m.toList.contains '\x00') &&
    row.lastRetryAfterSeconds.all fitsInteger

/-- What a validated record keeps of the row it was read from: everything but the
whitespace around its optional texts. -/
theorem LinkageRetryRecord.validate_ok {row r : LinkageRetryRecord}
    (h : row.validate = .ok r) :
    ∃ incidentSysId requestId lastErrorCode lastErrorMessage,
      r = { row with
        incidentSysId := incidentSysId
        requestId := requestId
        lastErrorCode := lastErrorCode
        lastErrorMessage := lastErrorMessage } := by
  obtain ⟨_, -, h⟩ := Except.bind_eq_ok.mp h
  obtain ⟨_, -, h⟩ := Except.bind_eq_ok.mp h
  obtain ⟨incidentSysId, -, h⟩ := Except.bind_eq_ok.mp h
  obtain ⟨_, -, h⟩ := Except.bind_eq_ok.mp h
  obtain ⟨_, -, h⟩ := Except.bind_eq_ok.mp h
  obtain ⟨_, -, h⟩ := Except.bind_eq_ok.mp h
  obtain ⟨requestId, -, h⟩ := Except.bind_eq_ok.mp h
  obtain ⟨lastErrorCode, -, h⟩ := Except.bind_eq_ok.mp h
  obtain ⟨lastErrorMessage, -, h⟩ := Except.bind_eq_ok.mp h
  obtain ⟨_, -, h⟩ := Except.bind_eq_ok.mp h
  rw [Except.pure_eq_ok] at h
  exact ⟨incidentSysId, requestId, lastErrorCode, lastErrorMessage, h.symm⟩

/-- A value that passes is not blank, and is stripped. -/
theorem optionalNonEmpty_ok {error : Failure} {value value' : Option String}
    (h : optionalNonEmpty error value = .ok value') :
    (∀ s, value = some s → PyText.isBlank s = false) ∧ value' = value.map PyText.strip := by
  cases value with
  | none =>
    cases h
    exact ⟨nofun, rfl⟩
  | some s =>
    rcases hblank : PyText.isBlank s with _ | _
    · simp only [optionalNonEmpty, hblank, Bool.false_eq_true, if_false] at h
      cases h
      refine ⟨fun s' hs => ?_, rfl⟩
      cases hs
      exact hblank
    · simp only [optionalNonEmpty, hblank, if_true] at h
      cases h

/-- The incident of a validated record is that of the row, stripped, and not blank. -/
theorem LinkageRetryRecord.validate_incident {row r : LinkageRetryRecord}
    (h : row.validate = .ok r) :
    (∀ s, row.incidentSysId = some s → PyText.isBlank s = false) ∧
      r.incidentSysId = row.incidentSysId.map PyText.strip := by
  obtain ⟨_, -, h⟩ := Except.bind_eq_ok.mp h
  obtain ⟨_, -, h⟩ := Except.bind_eq_ok.mp h
  obtain ⟨incidentSysId, hincident, h⟩ := Except.bind_eq_ok.mp h
  obtain ⟨_, -, h⟩ := Except.bind_eq_ok.mp h
  obtain ⟨_, -, h⟩ := Except.bind_eq_ok.mp h
  obtain ⟨_, -, h⟩ := Except.bind_eq_ok.mp h
  obtain ⟨requestId, -, h⟩ := Except.bind_eq_ok.mp h
  obtain ⟨lastErrorCode, -, h⟩ := Except.bind_eq_ok.mp h
  obtain ⟨lastErrorMessage, -, h⟩ := Except.bind_eq_ok.mp h
  obtain ⟨_, -, h⟩ := Except.bind_eq_ok.mp h
  rw [Except.pure_eq_ok] at h
  subst h
  exact optionalNonEmpty_ok hincident

/-- The incident of a validated record is stripped already. -/
theorem LinkageRetryRecord.strip_incident {row r : LinkageRetryRecord}
    (h : row.validate = .ok r) : r.incidentSysId.map PyText.strip = r.incidentSysId := by
  rw [(validate_incident h).2, Option.map_map]
  exact congrArg (Option.map · _) (funext PyText.strip_strip)

/-- The incident of a validated record is a name. -/
theorem LinkageRetryRecord.incident_named {row r : LinkageRetryRecord} (h : row.validate = .ok r)
    {s : String} (hs : r.incidentSysId = some s) :
    PyText.isBlank s = false ∧ PyText.strip s = s := by
  obtain ⟨hnamed, hstripped⟩ := validate_incident h
  obtain ⟨t, ht, rfl⟩ := Option.map_eq_some_iff.mp (hstripped.symm.trans hs)
  exact ⟨(PyText.isBlank_strip t).trans (hnamed t ht), PyText.strip_strip t⟩

/-- The fields of a validated record that a transition is decided on. -/
theorem LinkageRetryRecord.validate_state {row r : LinkageRetryRecord}
    (h : row.validate = .ok r) :
    r.caseId = row.caseId ∧ r.state = row.state ∧ r.attemptCount = row.attemptCount := by
  obtain ⟨incidentSysId, requestId, lastErrorCode, lastErrorMessage, rfl⟩ := validate_ok h
  exact ⟨rfl, rfl, rfl⟩

end AiopsTriage
