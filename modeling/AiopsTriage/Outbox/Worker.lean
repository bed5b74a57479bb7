import AiopsTriage.Outbox.Lifecycle

/-!
# Outbox worker

`run_once` selects the publishable rows and takes them one after the other: it publishes a
record and moves its row to `SENT`, and when either raises it records the failure. Other
workers may change the table at any time, so each transition may find another row than the
one that was selected.

Recording a failure is itself a guarded transition, made inside the `except` branch. When it
raises, the loop is left: the exception reaches the caller and the later records of the batch
are not attempted. So a batch is isolated exactly when every failure in it can be recorded
(`run_once_isolated_iff`), which it cannot be on a row that another worker has moved to `SENT`
(`not_admits_failure`).
-/

namespace AiopsTriage

/-! ## One iteration -/

/-- `type(exc).__name__`. -/
def Failure.className : Failure → String
  | valueError _ => "ValueError"
  | keyError _ => "KeyError"
  | indexError _ => "IndexError"
  | overflowError => "OverflowError"
  | validationError _ _ => "ValidationError"
  | databaseError _ => "DataError"
  | invariantViolation _ => "InvariantViolation"
  | integrationError _ => "IntegrationError"
  | objectNotFound _ => "ObjectNotFoundError"
  | criticalDependency _ _ => "CriticalDependencyError"
  | clientError _ => "Exception"

/-- What comes of publishing the events of a record. -/
inductive PublishOutcome where
  /-- all events are acknowledged -/
  | published
  /-- an exception, with its text and the code that is recorded for it -/
  | raised (error : PublishError)
  deriving DecidableEq, Repr

/-- What happens around one record while the worker has it. -/
structure Turn where
  /-- what comes of publishing it -/
  outcome : PublishOutcome
  /-- what other workers make of the table up to the first transition -/
  meanwhile : OutboxTable → OutboxTable
  /-- and between a refused `SENT` and the recording of that failure -/
  afterRefusal : OutboxTable → OutboxTable

/-- An `OutboxPublisherWorker`, with the text of each exception. -/
structure OutboxWorker where
  /-- the policy -/
  policy : OutboxPolicyV1
  /-- the environment -/
  appEnv : String
  /-- how many records an iteration takes -/
  batchSize : Nat := 100
  /-- `str(exc)` -/
  str : Failure → String
  /-- `batch_size must be > 0` -/
  batchSize_pos : 0 < batchSize := by decide

/-- `OutboxWorkerIterationResult`. -/
structure OutboxWorkerIterationResult where
  /-- records selected -/
  scannedCount : Nat
  /-- records sent -/
  sentCount : Nat
  /-- failures recorded -/
  failedCount : Nat
  deriving DecidableEq, Repr

/-- Where the loop over a batch ends. -/
structure BatchEnd where
  /-- the records whose publishing was attempted -/
  attempted : List OutboxRecord
  /-- how many were sent -/
  sentCount : Nat
  /-- how many failures were recorded -/
  failedCount : Nat
  /-- the exception that left the loop -/
  raised : Option Failure
  /-- the table then -/
  table : OutboxTable

namespace OutboxWorker

variable [Platform] (w : OutboxWorker) (now : Instant) (turnOf : OutboxRecord → Turn)

/-- The error that is recorded when the transition to `SENT` raises. -/
def refusal (e : Failure) : PublishError := ⟨w.str e, some e.className⟩

/-- The `except` branch; `false` for a failed record. -/
def recordFailure (table : OutboxTable) (record : OutboxRecord) (error : PublishError) :
    Except Failure Bool × OutboxTable :=
  match transitionPublishFailure table record.caseId w.policy w.appEnv error (.aware now) with
  | (.ok _, table') => (.ok false, table')
  | (.error e, table') => (.error e, table')

/-- One turn of the loop: whether the record was sent. -/
def processRecord (table : OutboxTable) (record : OutboxRecord) :
    Except Failure Bool × OutboxTable :=
  let turn := turnOf record
  let table := turn.meanwhile table
  match turn.outcome with
  | .published =>
    match transitionToSent table record.caseId (.aware now) with
    | (.ok _, table') => (.ok true, table')
    | (.error e, table') =>
      w.recordFailure now (turn.afterRefusal table') record (w.refusal e)
  | .raised error => w.recordFailure now table record error

/-- The loop over the batch. -/
def processBatch : OutboxTable → List OutboxRecord → BatchEnd
  | table, [] => ⟨[], 0, 0, none, table⟩
  | table, record :: records =>
    match w.processRecord now turnOf table record with
    | (.ok sent, table') =>
      let rest := processBatch table' records
      { rest with
        attempted := record :: rest.attempted
        sentCount := rest.sentCount + if sent then 1 else 0
        failedCount := rest.failedCount + if sent then 0 else 1 }
    | (.error e, table') => ⟨[record], 0, 0, some e, table'⟩

/-- `run_once`, with the records it has attempted. The logs and metrics read the table only. -/
def runOnce (table : OutboxTable) :
    Except Failure OutboxWorkerIterationResult × List OutboxRecord :=
  match selectPublishable table (.aware now) w.batchSize with
  | .error e => (.error e, [])
  | .ok publishable =>
    let finish := w.processBatch now turnOf table publishable
    match finish.raised with
    | some e => (.error e, finish.attempted)
    | none =>
      (.ok ⟨publishable.length, finish.sentCount, finish.failedCount⟩, finish.attempted)

/-! ## What a turn can do -/

/-- The failure of a record can be recorded: its row is `DEAD`, or is waiting for a publish and
the next record can be computed and stored. -/
def CanRecord (table : OutboxTable) (record : OutboxRecord) (error : PublishError) : Prop :=
  Admits table record.caseId .dead fun row =>
    markOutboxRecordPublishFailure row w.policy w.appEnv error (.aware now)

/-- The record can be moved to `SENT`: its row is `SENT`, or is waiting for a publish and the
sent record can be stored. -/
def CanSend (table : OutboxTable) (record : OutboxRecord) : Prop :=
  Admits table record.caseId .sent fun row => markOutboxRecordSent row (.aware now)

/-- What keeps one record from stopping the batch: it is published and can be moved to `SENT`, or
else its failure can be recorded. -/
def Isolates (table : OutboxTable) (record : OutboxRecord) : Prop :=
  let table := (turnOf record).meanwhile table
  match (turnOf record).outcome with
  | .published => CanSend now table record ∨
      ∀ e, (transitionToSent table record.caseId (.aware now)).1 = .error e →
        w.CanRecord now ((turnOf record).afterRefusal table) record (w.refusal e)
  | .raised error => w.CanRecord now table record error

/-- Every record of the batch does, on the table it is taken from. -/
def AllIsolate : OutboxTable → List OutboxRecord → Prop
  | _, [] => True
  | table, record :: records => w.Isolates now turnOf table record ∧
      AllIsolate (w.processRecord now turnOf table record).2 records

variable {w now turnOf} {table : OutboxTable} {record : OutboxRecord}

theorem recordFailure_returns {error : PublishError} :
    (w.recordFailure now table record error).1.Returns ↔ w.CanRecord now table record error := by
  have hreturns : (transitionPublishFailure table record.caseId w.policy w.appEnv error
      (.aware now)).1.Returns ↔ w.CanRecord now table record error := by
    exact transition_returns fun _ _ _ _ => List.mem_singleton.mpr rfl
  rw [← hreturns, recordFailure]
  split
  · next a table' h =>
    rw [h]
    exact iff_of_true ⟨false, rfl⟩ ⟨a, rfl⟩
  · next e table' h =>
    rw [h]
    refine iff_of_false ?_ ?_
    · rintro ⟨a, ha⟩
      cases ha
    · rintro ⟨a, ha⟩
      cases ha

omit [Platform] in
theorem transitionToSent_returns :
    (transitionToSent table record.caseId (.aware now)).1.Returns ↔
      CanSend now table record :=
  transition_returns fun _ _ _ _ => List.mem_singleton.mpr rfl

omit [Platform] in
/-- A refused `SENT` leaves the table alone. -/
theorem transitionToSent_error {e : Failure} {table' : OutboxTable}
    (h : transitionToSent table record.caseId (.aware now) = (.error e, table')) :
    table' = table := by
  rcases transition_cases (fun current => [current.status]) markOutboxRecordSent
    (fun _ _ _ _ => List.mem_singleton.mpr rfl) table record.caseId (.aware now) .sent with
    ⟨e', hcall⟩ | ⟨row, -, -, hcall⟩ | ⟨row, next, t, -, -, -, hcall⟩
  · cases hcall.symm.trans h
    rfl
  · cases hcall.symm.trans h
  · cases hcall.symm.trans h

/-- **One record**: its turn raises exactly when the record does not isolate. -/
theorem processRecord_returns :
    (w.processRecord now turnOf table record).1.Returns ↔ w.Isolates now turnOf table record := by
  unfold processRecord Isolates
  cases houtcome : (turnOf record).outcome with
  | raised error =>
    simp only [houtcome]
    exact recordFailure_returns
  | published =>
    simp only [houtcome]
    rw [← transitionToSent_returns]
    rcases hsent : transitionToSent ((turnOf record).meanwhile table) record.caseId (.aware now)
      with ⟨e | sent, table'⟩
    · -- the refusal is recorded, or leaves the loop
      obtain rfl := transitionToSent_error hsent
      simp only
      rw [recordFailure_returns]
      constructor
      · intro h
        refine .inr fun e' he' => ?_
        cases he'
        exact h
      · rintro (⟨a, ha⟩ | h)
        · cases ha
        · exact h e rfl
    · exact iff_of_true ⟨true, rfl⟩ (.inl ⟨sent, rfl⟩)

variable (w now turnOf) in
/-- **A batch**: the loop is left by an exception exactly when some record does not isolate; else
every record was attempted, and was sent or had its failure recorded. -/
theorem processBatch_raised (table : OutboxTable) (batch : List OutboxRecord) :
    ((w.processBatch now turnOf table batch).raised = none ↔
        w.AllIsolate now turnOf table batch) ∧
      ((w.processBatch now turnOf table batch).raised = none →
        (w.processBatch now turnOf table batch).attempted = batch ∧
          (w.processBatch now turnOf table batch).sentCount +
            (w.processBatch now turnOf table batch).failedCount = batch.length) := by
  induction batch generalizing table with
  | nil => exact ⟨iff_of_true rfl trivial, fun _ => ⟨rfl, rfl⟩⟩
  | cons record records ih =>
    rw [processBatch, AllIsolate, ← processRecord_returns]
    rcases w.processRecord now turnOf table record with ⟨e | sent, table'⟩
    · refine ⟨iff_of_false (fun h => (by cases h)) ?_, fun h => (by cases h)⟩
      rintro ⟨⟨a, ha⟩, -⟩
      cases ha
    · obtain ⟨hraised, hcounts⟩ := ih table'
      refine ⟨?_, fun h => ?_⟩
      · exact hraised.trans ⟨fun h => ⟨⟨sent, rfl⟩, h⟩, fun h => h.2⟩
      · obtain ⟨hattempted, hcount⟩ := hcounts h
        refine ⟨congrArg (record :: ·) hattempted, ?_⟩
        cases sent
        · simp only [Bool.false_eq_true, if_false, List.length_cons]
          omega
        · simp only [if_true, List.length_cons]
          omega

/-- **Batch isolation**: `run_once` attempts every record it has selected and returns a result
whose counts add up exactly when every record isolates. -/
theorem run_once_isolated_iff {batch : List OutboxRecord}
    (hbatch : selectPublishable table (.aware now) w.batchSize = .ok batch) :
    ((w.runOnce now turnOf table).2 = batch ∧
        ∃ result, (w.runOnce now turnOf table).1 = .ok result ∧
          result.scannedCount = batch.length ∧
          result.scannedCount = result.sentCount + result.failedCount) ↔
      w.AllIsolate now turnOf table batch := by
  obtain ⟨hraised, hcounts⟩ := processBatch_raised w now turnOf table batch
  rw [← hraised, runOnce, hbatch]
  simp only
  cases hfinish : (w.processBatch now turnOf table batch).raised with
  | some e =>
    refine iff_of_false ?_ (fun h => (by cases h))
    rintro ⟨-, result, hresult, -⟩
    cases hresult
  | none =>
    obtain ⟨hattempted, hcount⟩ := hcounts hfinish
    exact iff_of_true ⟨hattempted, _, rfl, rfl, hcount.symm⟩ rfl

/-- A failure cannot be recorded on a row that is `SENT` or `PENDING_OBJECT`, or on none. -/
theorem not_admits_failure {error : PublishError}
    (h : ∀ row, table.get? record.caseId = some row →
      row.status = .sent ∨ row.status = .pendingObject) : ¬ w.CanRecord now table record error := by
  rintro ⟨row, hrow, -, hdead | ⟨next, hmark, -⟩⟩
  · rcases h row hrow with h | h <;> cases h.symm.trans hdead
  · obtain ⟨hstatus, -⟩ := markOutboxRecordPublishFailure_ok hmark
    rcases h row hrow with h | h <;> rcases hstatus with hstatus | hstatus <;>
      cases h.symm.trans hstatus

/-! ## Two records -/

/-- A casefile that is ready since New Year. -/
def readySince (caseId path : String) : OutboxRecord where
  caseId := caseId
  status := .ready
  casefileObjectPath := path
  triageHash := String.ofList (List.replicate 64 '0')
  createdAt := newYear2026
  updatedAt := newYear2026
  deliveryAttempts := 0
  nextAttemptAt := none
  lastErrorCode := none
  lastErrorMessage := none

/-- Two of them. -/
def twoReady : OutboxTable :=
  .ofPairs [("case-1", readySince "case-1" "cases/case-1/triage.json"),
    ("case-2", readySince "case-2" "cases/case-2/triage.json")]

/-- The batch they make. -/
def twoReadyBatch : List OutboxRecord := twoReady.entries.map Prod.snd

/-- A worker in production. -/
def prodWorker : OutboxWorker where
  policy := outboxPolicyV1
  appEnv := "prod"
  str _ := "outbox transition refused"

/-- Publishing `case-1` times out while other workers change the table. -/
def firstTimesOut (meanwhile : OutboxTable → OutboxTable) (record : OutboxRecord) : Turn :=
  if record.caseId = "case-1" then ⟨.raised ⟨"timed out", some "TimeoutError"⟩, meanwhile, id⟩
  else ⟨.published, id, id⟩

omit [Platform] in
/-- When nobody else is at work, both records are attempted. -/
theorem run_once_isolated_two :
    let := asciiPlatform []
    (prodWorker.runOnce newYear2026 (firstTimesOut id) twoReady).2 = twoReadyBatch ∧
      ∃ result, (prodWorker.runOnce newYear2026 (firstTimesOut id) twoReady).1 = .ok result ∧
        result.scannedCount = twoReadyBatch.length ∧
        result.scannedCount = result.sentCount + result.failedCount := by
  intro _
  have hbatch : selectPublishable twoReady (.aware newYear2026) prodWorker.batchSize =
      .ok twoReadyBatch := by
    decide +kernel
  refine (run_once_isolated_iff hbatch).mpr ⟨processRecord_returns.mp ?_,
    processRecord_returns.mp ?_, trivial⟩
  · decide +kernel
  · decide +kernel

omit [Platform] in
/-- When another worker sends `case-1` meanwhile, the exception leaves the loop, and `case-2` is
not attempted. -/
theorem sent_meanwhile_stops_batch :
    let := asciiPlatform []
    selectPublishable twoReady (.aware newYear2026) prodWorker.batchSize = .ok twoReadyBatch ∧
      (prodWorker.runOnce newYear2026 (firstTimesOut fun table =>
        (transitionToSent table "case-1" (.aware newYear2026)).2) twoReady) =
          (.error (.invariantViolation "cannot mark publish failure from status=SENT"),
            [readySince "case-1" "cases/case-1/triage.json"]) ∧
      readySince "case-2" "cases/case-2/triage.json" ∈ twoReadyBatch := by
  intro _
  exact ⟨by decide +kernel, by decide +kernel, by decide +kernel⟩

end OutboxWorker

end AiopsTriage
