import AiopsTriage.Lib.Dict
import AiopsTriage.Platform

/-!
# Outbox schema

The outbox holds one row a case. A row starts when the case's triage file is
confirmed in the object store (`OutboxReadyCasefileV1`) and carries the file's path
and hash, so that whoever publishes the case can read the file back.

`rowToRecord` is the validation every row goes through when it leaves the
database, and `columnsFit` the checks the database makes when a row comes in.
-/

namespace AiopsTriage

/-- `OutboxState`. -/
inductive OutboxState where
  /-- the file is confirmed, the row is not yet handed to the publisher -/
  | pendingObject
  /-- waiting for its first publish attempt -/
  | ready
  /-- published -/
  | sent
  /-- a publish attempt failed, another one is due later -/
  | retry
  /-- given up -/
  | dead
  deriving DecidableEq, Repr

/-- The text of a state in the database. -/
def OutboxState.value : OutboxState → String
  | .pendingObject => "PENDING_OBJECT"
  | .ready => "READY"
  | .sent => "SENT"
  | .retry => "RETRY"
  | .dead => "DEAD"

/-- The field pattern `^cases/.+/triage\.json$`, whose dot excludes the line feed. -/
def isTriageObjectPath (path : String) : Bool :=
  "cases/".toList.isPrefixOf path.toList && "/triage.json".toList.isSuffixOf path.toList &&
    19 ≤ path.toList.length && !path.toList.contains '\n'

/-- `OutboxReadyCasefileV1`: confirmed-write metadata, with its validators. -/
structure OutboxReadyCasefileV1 where
  /-- the case -/
  caseId : String
  /-- the key of the stored triage file -/
  objectPath : String
  /-- the hash of the stored triage file -/
  triageHash : String
  /-- `min_length=1` -/
  caseId_ne : caseId ≠ ""
  /-- the pattern of `object_path` -/
  objectPath_ok : isTriageObjectPath objectPath = true
  /-- `_validate_triage_hash` -/
  triageHash_ok : isHex64 triageHash = true

/-- The validation of `OutboxReadyCasefileV1(case_id, object_path, triage_hash)`. -/
def OutboxReadyCasefileV1.validate (caseId objectPath triageHash : String) :
    Except Failure OutboxReadyCasefileV1 :=
  if hid : caseId ≠ "" then
    if hpath : isTriageObjectPath objectPath = true then
      if hhash : isHex64 triageHash = true then
        .ok ⟨caseId, objectPath, triageHash, hid, hpath, hhash⟩
      else .error (.validationError "OutboxReadyCasefileV1" ["triage_hash"])
    else .error (.validationError "OutboxReadyCasefileV1" ["object_path"])
  else .error (.validationError "OutboxReadyCasefileV1" ["case_id"])

/-- A row of the `outbox` table, and `OutboxRecordV1`, which has the same fields. -/
structure OutboxRecord where
  /-- the case, unique in the table -/
  caseId : String
  /-- where the row is in its life -/
  status : OutboxState
  /-- the key of the triage file -/
  casefileObjectPath : String
  /-- the hash of the triage file -/
  triageHash : String
  /-- when the row was inserted -/
  createdAt : Instant
  /-- when the row last changed -/
  updatedAt : Instant
  /-- publish outcomes so far -/
  deliveryAttempts : Nat
  /-- when a RETRY row is due again -/
  nextAttemptAt : Option Instant
  /-- the code of the last publish error -/
  lastErrorCode : Option String
  /-- the text of the last publish error -/
  lastErrorMessage : Option String
  deriving DecidableEq, Repr

/-- `_row_to_record`: the validators of `OutboxRecordV1` on a stored row. -/
def rowToRecord (row : OutboxRecord) : Except Failure OutboxRecord :=
  if row.caseId = "" then .error (.validationError "OutboxRecordV1" ["case_id"])
  else if !isTriageObjectPath row.casefileObjectPath then
    .error (.validationError "OutboxRecordV1" ["casefile_object_path"])
  else if !isHex64 row.triageHash then .error (.validationError "OutboxRecordV1" ["triage_hash"])
  else if row.updatedAt < row.createdAt then
    .error (.validationError "OutboxRecordV1" ["updated_at"])
  else .ok row

/-- A text PostgreSQL accepts in a column of at most `n` characters. -/
def fitsVarchar (n : Nat) (s : String) : Bool :=
  s.toList.length ≤ n && !s.toList.contains '\x00'

/-- The column types of `outbox_table`: what does not fit is refused by the
database and the statement fails. -/
def columnsFit (row : OutboxRecord) : Bool :=
  fitsVarchar 255 row.caseId && fitsVarchar 1024 row.casefileObjectPath &&
    fitsVarchar 64 row.triageHash && row.deliveryAttempts ≤ 2147483647 &&
    row.lastErrorCode.all (fitsVarchar 255) &&
    row.lastErrorMessage.all fun m => !m.toList.contains '\x00'

/-- `OutboxRetentionPolicy`, as far as the retry bound reads it. -/
structure OutboxRetentionPolicy where
  /-- failed attempts a row survives -/
  maxRetryAttempts : Int
  deriving DecidableEq, Repr

/-- `OutboxPolicyV1`, with the check that every required environment is there. -/
structure OutboxPolicyV1 where
  /-- the limits of each environment -/
  retentionByEnv : Dict String OutboxRetentionPolicy
  /-- `_require_all_envs` -/
  requireAllEnvs : ["local", "dev", "uat", "prod"].all fun env => (retentionByEnv.get? env).isSome

/-- `config/policies/outbox-policy-v1.yaml`. -/
def outboxPolicyV1 : OutboxPolicyV1 where
  retentionByEnv := ⟨[("local", ⟨3⟩), ("dev", ⟨3⟩), ("uat", ⟨5⟩), ("prod", ⟨5⟩)], by decide⟩
  requireAllEnvs := by decide

/-- A validated record is the row itself. -/
theorem rowToRecord_eq_ok {row r : OutboxRecord} (h : rowToRecord row = .ok r) : r = row := by
  unfold rowToRecord at h
  split at h
  · cases h
  split at h
  · cases h
  split at h
  · cases h
  split at h
  · cases h
  cases h
  rfl

/-- A row reads back exactly when every validator accepts it. -/
theorem rowToRecord_returns {row : OutboxRecord} :
    rowToRecord row = .ok row ↔ row.caseId ≠ "" ∧ isTriageObjectPath row.casefileObjectPath = true ∧
      isHex64 row.triageHash = true ∧ row.createdAt ≤ row.updatedAt := by
  unfold rowToRecord
  split
  · next hid => exact iff_of_false (fun h => by cases h) fun h => h.1 hid
  split
  · next hpath => exact iff_of_false (fun h => by cases h) fun h => by simp [h.2.1] at hpath
  split
  · next hhash => exact iff_of_false (fun h => by cases h) fun h => by simp [h.2.2.1] at hhash
  split
  · next htime => exact iff_of_false (fun h => by cases h) fun h => not_lt.mpr h.2.2.2 htime
  next hid hpath hhash htime =>
  rw [Bool.not_eq_true', Bool.not_eq_false] at hpath hhash
  exact iff_of_true rfl ⟨hid, hpath, hhash, not_lt.mp htime⟩

end AiopsTriage
