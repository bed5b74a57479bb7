import AiopsTriage.Outbox.StateMachine

/-!
# Outbox repository

The rows live in one table with a unique case id. Every repository call is one
transaction: it reads the row (`requireByCaseId`), decides on it (`planFrom`) and,
unless the row is already where the call would bring it, writes with a guard on the
status it expects (`writeTransition`). A call that raises leaves the table as it
was (`runTx`).

The three transitions share this shape and differ in the status that makes the call
a no-op and in the record they build, so their effect on the table is one lemma
(`transition_cases`).
-/

namespace AiopsTriage

/-- The `outbox` table, by case id. -/
abbrev OutboxTable := Dict String OutboxRecord

/-! ## Transactions -/

/-- `_wrap_repo_exc`, with the two kinds of exception that pass unwrapped. -/
def wrapRepo (failure : Failure) : Failure :=
  if failure.passesRepository then failure
  else .criticalDependency "outbox repository operation failed" failure

/-- A transaction commits what its body leaves, or rolls back and raises. -/
def runTx {α : Type} (table : OutboxTable) (body : Except Failure (α × OutboxTable)) :
    Except Failure α × OutboxTable :=
  match body with
  | .ok (a, table') => (.ok a, table')
  | .error e => (.error (wrapRepo e), table)

/-- A call that resolves its `now` before it opens the transaction. -/
def callAt {α : Type} (table : OutboxTable) (now : DateTime)
    (body : Instant → Except Failure (α × OutboxTable)) : Except Failure α × OutboxTable :=
  match resolveNow now with
  | .ok resolvedNow => runTx table (body resolvedNow)
  | .error e => (.error e, table)

/-- A call raises and leaves the table alone, or returns and commits its body. -/
theorem callAt_cases {α : Type} (table : OutboxTable) (now : DateTime)
    (body : Instant → Except Failure (α × OutboxTable)) :
    (∃ e, callAt table now body = (.error e, table)) ∨
      ∃ t a table', resolveNow now = .ok t ∧ body t = .ok (a, table') ∧
        callAt table now body = (.ok a, table') := by
  unfold callAt
  rcases hnow : resolveNow now with e | t
  · exact .inl ⟨e, rfl⟩
  · rcases hbody : body t with e | ⟨a, table'⟩
    · exact .inl ⟨wrapRepo e, by simp only [runTx, hbody]⟩
    · exact .inr ⟨t, a, table', rfl, hbody, by simp only [runTx, hbody]⟩

/-! ## Rows -/

/-- `_get_by_case_id`. -/
def getByCaseId (table : OutboxTable) (caseId : String) : Except Failure (Option OutboxRecord) :=
  match table.get? caseId with
  | none => .ok none
  | some row => some <$> rowToRecord row

/-- `_require_by_case_id`. -/
def requireByCaseId (table : OutboxTable) (caseId : String) : Except Failure OutboxRecord :=
  match table.get? caseId with
  | none => .error (.invariantViolation s!"outbox record not found for case_id={caseId}")
  | some row => rowToRecord row

theorem requireByCaseId_ok {table : OutboxTable} {caseId : String} {r : OutboxRecord}
    (h : requireByCaseId table caseId = .ok r) : table.get? caseId = some r := by
  unfold requireByCaseId at h
  split at h
  · cases h
  · next row hrow => rw [hrow, rowToRecord_eq_ok h]

/-- `_assert_casefile_payload_match`. -/
def assertCasefilePayloadMatch (existing : OutboxRecord) (confirmed : OutboxReadyCasefileV1) :
    Except Failure Unit := do
  raiseIf (existing.casefileObjectPath ≠ confirmed.objectPath)
    (.invariantViolation "existing outbox case_id has different casefile_object_path")
  raiseIf (existing.triageHash ≠ confirmed.triageHash)
    (.invariantViolation "existing outbox case_id has different triage_hash")

/-- `insert_pending_object`. An insert that loses a race needs a second writer, so
one call at a time never reaches the `IntegrityError` branch. -/
def insertPendingObject (table : OutboxTable) (confirmed : OutboxReadyCasefileV1)
    (now : DateTime) : Except Failure OutboxRecord × OutboxTable :=
  callAt table now fun resolvedNow => do
    match ← getByCaseId table confirmed.caseId with
    | some existing =>
      assertCasefilePayloadMatch existing confirmed
      return (existing, table)
    | none =>
      let row := createPendingOutboxRecord confirmed resolvedNow
      raiseIf (columnsFit row = false) (.databaseError "outbox")
      let record ← rowToRecord row
      return (record, table.set confirmed.caseId row)

/-! ## Guarded writes -/

/-- The columns `_write_transition` sets. -/
def OutboxRecord.update (row next : OutboxRecord) : OutboxRecord :=
  { row with
    status := next.status
    updatedAt := next.updatedAt
    deliveryAttempts := next.deliveryAttempts
    nextAttemptAt := next.nextAttemptAt
    lastErrorCode := next.lastErrorCode
    lastErrorMessage := next.lastErrorMessage }

/-- `_write_transition`: an `UPDATE` that only touches a row in one of the expected
states. When it touches none, a row that already has the target status is accepted. -/
def writeTransition (table : OutboxTable) (caseId : String) (next : OutboxRecord)
    (expectedSourceStatuses : List OutboxState) : Except Failure (OutboxRecord × OutboxTable) :=
  match (table.get? caseId).filter fun row => row.status ∈ expectedSourceStatuses with
  | some row => do
    raiseIf (columnsFit (row.update next) = false) (.databaseError "outbox")
    let record ← rowToRecord (row.update next)
    return (record, table.set caseId (row.update next))
  | none => do
    let latest ← requireByCaseId table caseId
    if latest.status = next.status then
      return (latest, table)
    else
      throw (.invariantViolation
        (s!"outbox transition source-state guard failed for case_id={caseId}; expected one of " ++
          s!"{reprSorted (expectedSourceStatuses.map OutboxState.value)} but found {latest.status.value}"))

/-- What a call means to do with the record it read: nothing, or a guarded write. -/
inductive Plan where
  /-- the record is already in the target status -/
  | settled (current : OutboxRecord)
  /-- write `next` if the row is still in one of the expected states -/
  | write (expected : List OutboxState) (next : OutboxRecord)
  deriving DecidableEq, Repr

/-- The decision of a transition on the record it read. -/
def planFrom (target : OutboxState) (expected : OutboxRecord → List OutboxState)
    (mark : OutboxRecord → Except Failure OutboxRecord) (current : OutboxRecord) :
    Except Failure Plan :=
  if current.status = target then .ok (.settled current)
  else do
    let next ← mark current
    return .write (expected current) next

/-- The write half of a transition. -/
def applyPlan (table : OutboxTable) (caseId : String) :
    Plan → Except Failure (OutboxRecord × OutboxTable)
  | .settled current => .ok (current, table)
  | .write expected next => writeTransition table caseId next expected

/-- One transition call with nothing in between its read and its write. -/
def transition (table : OutboxTable) (caseId : String) (now : DateTime) (target : OutboxState)
    (expected : OutboxRecord → List OutboxState)
    (mark : OutboxRecord → DateTime → Except Failure OutboxRecord) :
    Except Failure OutboxRecord × OutboxTable :=
  callAt table now fun resolvedNow => do
    let current ← requireByCaseId table caseId
    let plan ← planFrom target expected (mark · (.aware resolvedNow)) current
    applyPlan table caseId plan

/-- `transition_to_ready`. -/
def transitionToReady (table : OutboxTable) (caseId : String) (now : DateTime) :
    Except Failure OutboxRecord × OutboxTable :=
  transition table caseId now .ready (fun _ => [.pendingObject]) markOutboxRecordReady

/-- `transition_to_sent`. -/
def transitionToSent (table : OutboxTable) (caseId : String) (now : DateTime) :
    Except Failure OutboxRecord × OutboxTable :=
  transition table caseId now .sent (fun current => [current.status]) markOutboxRecordSent

/-- `transition_publish_failure`. -/
def transitionPublishFailure [Platform] (table : OutboxTable) (caseId : String)
    (policy : OutboxPolicyV1) (appEnv : String) (error : PublishError) (now : DateTime) :
    Except Failure OutboxRecord × OutboxTable :=
  transition table caseId now .dead (fun current => [current.status])
    fun record now => markOutboxRecordPublishFailure record policy appEnv error now

/-- The rows the publisher may take: `READY`, and `RETRY` that is due. -/
def isPublishable (now : Instant) (row : OutboxRecord) : Bool :=
  row.status = .ready || (row.status = .retry && row.nextAttemptAt.all (· ≤ now))

/-- `select_publishable`: publishable rows, the longest unchanged first. -/
def selectPublishable (table : OutboxTable) (now : DateTime) (limit : Nat := 100) :
    Except Failure (List OutboxRecord) := do
  let resolvedNow ← resolveNow now
  let rows := (table.entries.map Prod.snd).filter (isPublishable resolvedNow)
  let oldestFirst := rows.insertionSort fun a b => a.updatedAt ≤ b.updatedAt
  match (oldestFirst.take limit).mapM rowToRecord with
  | .ok records => .ok records
  | .error e => .error (wrapRepo e)

/-- What is selected is in the table, and not pending. -/
theorem mem_of_selectPublishable {table : OutboxTable} {now : DateTime} {limit : Nat}
    {rows : List OutboxRecord} (h : selectPublishable table now limit = .ok rows) :
    ∀ row ∈ rows, (∃ caseId, table.get? caseId = some row) ∧ row.status ≠ .pendingObject := by
  intro row hrow
  obtain ⟨t, -, h⟩ := Except.bind_eq_ok.mp h
  simp only at h
  split at h
  · next records hrecords =>
    cases h
    obtain ⟨stored, hstored, hrecord⟩ := (Except.mapM_eq_ok.mp hrecords).exists_of_mem_right hrow
    obtain rfl := rowToRecord_eq_ok hrecord
    have hmem := (List.mem_insertionSort _).mp (List.mem_of_mem_take hstored)
    obtain ⟨hmem, hpublishable⟩ := List.mem_filter.mp hmem
    obtain ⟨e, hentry, rfl⟩ := List.mem_map.mp hmem
    refine ⟨⟨e.1, Dict.get?_eq_some.mpr hentry⟩, fun hpending => ?_⟩
    simp [isPublishable, hpending] at hpublishable
  · cases h

/-! ## What a call can do to the table -/

/-- A guarded write that found its row expected wrote it, and else changed nothing. -/
theorem writeTransition_ok {table table' : OutboxTable} {caseId : String}
    {next r : OutboxRecord} {expected : List OutboxState}
    (h : writeTransition table caseId next expected = .ok (r, table')) :
    (∃ row, table.get? caseId = some row ∧ row.status ∈ expected ∧
        r = row.update next ∧ table' = table.set caseId (row.update next)) ∨
      (table.get? caseId = some r ∧ r.status ∉ expected ∧ r.status = next.status ∧
        table' = table) := by
  unfold writeTransition at h
  split at h
  · next row hrow =>
    obtain ⟨hget, hmem⟩ := Option.filter_eq_some_iff.mp hrow
    obtain ⟨_, -, h⟩ := Except.bind_eq_ok.mp h
    obtain ⟨record, hrecord, h⟩ := Except.bind_eq_ok.mp h
    rw [Except.pure_eq_ok, Prod.mk.injEq] at h
    obtain ⟨rfl, rfl⟩ := h
    exact .inl ⟨row, hget, of_decide_eq_true hmem, rowToRecord_eq_ok hrecord, rfl⟩
  · next hnone =>
    obtain ⟨latest, hlatest, h⟩ := Except.bind_eq_ok.mp h
    split at h
    · next hstatus =>
      rw [Except.pure_eq_ok, Prod.mk.injEq] at h
      obtain ⟨rfl, rfl⟩ := h
      have hget := requireByCaseId_ok hlatest
      refine .inr ⟨hget, ?_, hstatus, rfl⟩
      intro hmem
      rw [hget, Option.filter_some, if_pos (decide_eq_true hmem)] at hnone
      cases hnone
    · cases h

/-- **Transition lemma**: a transition call raises, finds the row where it would
bring it, or replaces the row by the record its state machine built from it. -/
theorem transition_cases (expected : OutboxRecord → List OutboxState)
    (mark : OutboxRecord → DateTime → Except Failure OutboxRecord)
    (hexpected : ∀ row now next, mark row now = .ok next → row.status ∈ expected row)
    (table : OutboxTable) (caseId : String) (now : DateTime) (target : OutboxState) :
    (∃ e, transition table caseId now target expected mark = (.error e, table)) ∨
      (∃ row, table.get? caseId = some row ∧ row.status = target ∧
        transition table caseId now target expected mark = (.ok row, table)) ∨
      ∃ row next t, table.get? caseId = some row ∧ row.status ≠ target ∧
        mark row (.aware t) = .ok next ∧
        transition table caseId now target expected mark =
          (.ok (row.update next), table.set caseId (row.update next)) := by
  rcases callAt_cases table now fun resolvedNow => do
    let current ← requireByCaseId table caseId
    let plan ← planFrom target expected (mark · (.aware resolvedNow)) current
    applyPlan table caseId plan with herror | ⟨t, r, table', -, hbody, hcall⟩
  · exact .inl herror
  · obtain ⟨row, hrow, hbody⟩ := Except.bind_eq_ok.mp hbody
    obtain ⟨plan, hplan, hbody⟩ := Except.bind_eq_ok.mp hbody
    have hget := requireByCaseId_ok hrow
    unfold planFrom at hplan
    split at hplan
    · next htarget =>
      cases hplan
      cases hbody
      exact .inr (.inl ⟨_, hget, htarget, hcall⟩)
    · next hne =>
      obtain ⟨next, hmark, hplan⟩ := Except.bind_eq_ok.mp hplan
      cases hplan
      right
      right
      refine ⟨row, next, t, hget, hne, hmark, ?_⟩
      rcases writeTransition_ok hbody with ⟨row', hget', -, hr, htable⟩ | ⟨hget', hguard, -, -⟩
      · obtain rfl := Option.some.inj (hget.symm.trans hget')
        rw [hr, htable] at hcall
        exact hcall
      · obtain rfl := Option.some.inj (hget.symm.trans hget')
        exact absurd (hexpected _ _ next hmark) hguard

/-- The row of a case **admits** a transition: it reads back, and it is already where the
transition would bring it, or the next record can be computed and stored. -/
def Admits (table : OutboxTable) (caseId : String) (target : OutboxState)
    (mark : OutboxRecord → Except Failure OutboxRecord) : Prop :=
  ∃ row, table.get? caseId = some row ∧ rowToRecord row = .ok row ∧
    (row.status = target ∨ ∃ next, mark row = .ok next ∧ columnsFit (row.update next) = true ∧
      rowToRecord (row.update next) = .ok (row.update next))

/-- A transition call returns exactly when the row admits it. -/
theorem transition_returns {expected : OutboxRecord → List OutboxState}
    {mark : OutboxRecord → DateTime → Except Failure OutboxRecord}
    (hexpected : ∀ row now next, mark row now = .ok next → row.status ∈ expected row)
    {table : OutboxTable} {caseId : String} {t : Instant} {target : OutboxState} :
    Except.Returns (transition table caseId (.aware t) target expected mark).1 ↔
      Admits table caseId target fun row => mark row (.aware t) := by
  have hrun : Except.Returns (transition table caseId (.aware t) target expected mark).1 ↔
      Except.Returns (do
        let current ← requireByCaseId table caseId
        let plan ← planFrom target expected (mark · (.aware t)) current
        applyPlan table caseId plan) := by
    simp only [transition, callAt, resolveNow, runTx]
    split
    · next a table' hbody => exact iff_of_true ⟨a, rfl⟩ ⟨_, hbody⟩
    · next e hbody =>
      refine iff_of_false ?_ ?_
      · rintro ⟨a, ha⟩
        cases ha
      · rintro ⟨a, ha⟩
        cases hbody.symm.trans ha
  rw [hrun]
  constructor
  · rintro ⟨⟨r, table'⟩, hbody⟩
    obtain ⟨row, hrow, hbody⟩ := Except.bind_eq_ok.mp hbody
    obtain ⟨plan, hplan, hbody⟩ := Except.bind_eq_ok.mp hbody
    have hget := requireByCaseId_ok hrow
    have hread : rowToRecord row = .ok row := by
      rwa [requireByCaseId, hget] at hrow
    refine ⟨row, hget, hread, ?_⟩
    unfold planFrom at hplan
    split at hplan
    · next htarget => exact .inl htarget
    · obtain ⟨next, hmark, hplan⟩ := Except.bind_eq_ok.mp hplan
      cases hplan
      have hguard : (table.get? caseId).filter (fun row' => row'.status ∈ expected row) =
          some row := by
        rw [hget, Option.filter_some, if_pos (decide_eq_true (hexpected _ _ _ hmark))]
      simp only [applyPlan, writeTransition, hguard] at hbody
      obtain ⟨_, hfit, hbody⟩ := Except.bind_eq_ok.mp hbody
      obtain ⟨record, hrecord, hbody⟩ := Except.bind_eq_ok.mp hbody
      rw [raiseIf_eq_ok, Bool.not_eq_false] at hfit
      obtain rfl := rowToRecord_eq_ok hrecord
      exact .inr ⟨next, hmark, hfit, hrecord⟩
  · rintro ⟨row, hget, hread, hplan⟩
    have hrow : requireByCaseId table caseId = .ok row := by
      rw [requireByCaseId, hget]
      exact hread
    by_cases htarget : row.status = target
    · exact ⟨_, Except.bind_eq_ok.mpr ⟨row, hrow, Except.bind_eq_ok.mpr ⟨.settled row,
        if_pos htarget, rfl⟩⟩⟩
    · obtain ⟨next, hmark, hfit, hvalid⟩ := hplan.resolve_left htarget
      have hmark : mark row (.aware t) = .ok next := hmark
      refine ⟨(row.update next, table.set caseId (row.update next)),
        Except.bind_eq_ok.mpr ⟨row, hrow, Except.bind_eq_ok.mpr
          ⟨.write (expected row) next, ?_, ?_⟩⟩⟩
      · rw [planFrom, if_neg htarget, hmark]
        rfl
      · have hguard : (table.get? caseId).filter (fun row' => row'.status ∈ expected row) =
            some row := by
          rw [hget, Option.filter_some, if_pos (decide_eq_true (hexpected _ _ _ hmark))]
        simp [applyPlan, writeTransition, hguard, raiseIf, hfit, hvalid, pure, Except.pure]

/-- **Insert lemma**: an insert raises, finds the row of the same casefile, or adds
the pending row of a case that had none. -/
theorem insertPendingObject_cases (table : OutboxTable) (confirmed : OutboxReadyCasefileV1)
    (now : DateTime) :
    (∃ e, insertPendingObject table confirmed now = (.error e, table)) ∨
      (∃ row, table.get? confirmed.caseId = some row ∧
        row.casefileObjectPath = confirmed.objectPath ∧ row.triageHash = confirmed.triageHash ∧
        insertPendingObject table confirmed now = (.ok row, table)) ∨
      ∃ t, table.get? confirmed.caseId = none ∧ resolveNow now = .ok t ∧
        insertPendingObject table confirmed now =
          (.ok (createPendingOutboxRecord confirmed t),
            table.set confirmed.caseId (createPendingOutboxRecord confirmed t)) := by
  unfold insertPendingObject
  rcases callAt_cases table now _ with herror | ⟨t, r, table', hnow, hbody, hcall⟩
  · exact .inl herror
  · right
    rw [hcall]
    obtain ⟨found, hfound, hbody⟩ := Except.bind_eq_ok.mp hbody
    unfold getByCaseId at hfound
    rcases hget : table.get? confirmed.caseId with _ | row
    · right
      rw [hget] at hfound
      cases hfound
      obtain ⟨_, -, hbody⟩ := Except.bind_eq_ok.mp hbody
      obtain ⟨record, hrecord, hbody⟩ := Except.bind_eq_ok.mp hbody
      cases hbody
      exact ⟨t, rfl, hnow, by rw [rowToRecord_eq_ok hrecord]⟩
    · left
      rw [hget] at hfound
      obtain ⟨existing, hexisting, hsome⟩ := Except.bind_eq_ok.mp hfound
      cases hsome
      obtain rfl := rowToRecord_eq_ok hexisting
      obtain ⟨_, hmatch, hbody⟩ := Except.bind_eq_ok.mp hbody
      cases hbody
      obtain ⟨_, hpath, hhash⟩ := Except.bind_eq_ok.mp hmatch
      rw [raiseIf_eq_ok, not_not] at hpath hhash
      exact ⟨_, rfl, hpath, hhash, rfl⟩

/-- After an insert that returns, the row it returned is there. -/
theorem insertPendingObject_get? {table table' : OutboxTable} {confirmed : OutboxReadyCasefileV1}
    {now : DateTime} {r : OutboxRecord}
    (h : insertPendingObject table confirmed now = (.ok r, table')) :
    table'.get? confirmed.caseId = some r := by
  rcases insertPendingObject_cases table confirmed now with
    ⟨e, herror⟩ | ⟨row, hrow, -, -, hfound⟩ | ⟨t, -, -, hnew⟩
  · rw [herror] at h
    cases h
  · rw [hfound] at h
    cases h
    exact hrow
  · rw [hnew] at h
    cases h
    rw [Dict.get?_set, if_pos rfl]

/-- The table **takes** a casefile: its case has no row and the new one fits, or it has the
row of the same file. -/
structure TakesRow (table : OutboxTable) (confirmed : OutboxReadyCasefileV1) (t : Instant) :
    Prop where
  /-- a new row fits the columns -/
  fresh : table.get? confirmed.caseId = none →
    columnsFit (createPendingOutboxRecord confirmed t) = true
  /-- an old one is of the same file -/
  known : ∀ row, table.get? confirmed.caseId = some row →
    rowToRecord row = .ok row ∧ row.casefileObjectPath = confirmed.objectPath ∧
      row.triageHash = confirmed.triageHash

/-- The row of a confirmed casefile is valid. -/
theorem rowToRecord_pending (confirmed : OutboxReadyCasefileV1) (t : Instant) :
    rowToRecord (createPendingOutboxRecord confirmed t) =
      .ok (createPendingOutboxRecord confirmed t) := by
  simp [rowToRecord, createPendingOutboxRecord, confirmed.caseId_ne, confirmed.objectPath_ok,
    confirmed.triageHash_ok]

/-- The insert of a case without a row. -/
theorem insertPendingObject_of_none {table : OutboxTable} {confirmed : OutboxReadyCasefileV1}
    (t : Instant) (h : table.get? confirmed.caseId = none) :
    insertPendingObject table confirmed (.aware t) =
      if columnsFit (createPendingOutboxRecord confirmed t) then
        (.ok (createPendingOutboxRecord confirmed t),
          table.set confirmed.caseId (createPendingOutboxRecord confirmed t))
      else (.error (wrapRepo (.databaseError "outbox")), table) := by
  have hbody : getByCaseId table confirmed.caseId = .ok none := by rw [getByCaseId, h]
  simp only [insertPendingObject, callAt, resolveNow, hbody, Except.ok_bind]
  split
  · next hfit => simp [raiseIf, hfit, rowToRecord_pending, runTx, pure, Except.pure]
  · next hfit => simp [raiseIf, Bool.eq_false_iff.mpr hfit, runTx]

/-- The insert of a case that has a row. -/
theorem insertPendingObject_of_some {table : OutboxTable} {confirmed : OutboxReadyCasefileV1}
    (t : Instant) {row : OutboxRecord} (h : table.get? confirmed.caseId = some row) :
    insertPendingObject table confirmed (.aware t) =
      runTx table (do
        let existing ← rowToRecord row
        assertCasefilePayloadMatch existing confirmed
        return (existing, table)) := by
  have hbody : getByCaseId table confirmed.caseId = some <$> rowToRecord row := by
    rw [getByCaseId, h]
  simp only [insertPendingObject, callAt, resolveNow, hbody]
  rcases rowToRecord row with e | existing
  · rfl
  · rfl

/-- An insert returns exactly when the table takes the casefile. -/
theorem insertPendingObject_returns {table : OutboxTable} {confirmed : OutboxReadyCasefileV1}
    {t : Instant} :
    (∃ r table', insertPendingObject table confirmed (.aware t) = (.ok r, table')) ↔
      TakesRow table confirmed t := by
  rcases hget : table.get? confirmed.caseId with _ | row
  · rw [insertPendingObject_of_none t hget]
    constructor
    · rintro ⟨r, table', h⟩
      split at h
      · next hfit => exact ⟨fun _ => hfit, fun row hrow => (by rw [hget] at hrow; cases hrow)⟩
      · cases h
    · rintro ⟨hfresh, -⟩
      exact ⟨_, _, by rw [if_pos (hfresh hget)]⟩
  · rw [insertPendingObject_of_some t hget]
    constructor
    · rintro ⟨r, table', h⟩
      refine ⟨fun hnone => (by rw [hget] at hnone; cases hnone), fun row' hrow' => ?_⟩
      obtain rfl := Option.some.inj (hget.symm.trans hrow')
      rcases hrecord : rowToRecord row with e | record
      · rw [hrecord] at h
        cases h
      · obtain rfl := rowToRecord_eq_ok hrecord
        rcases hmatch : assertCasefilePayloadMatch record confirmed with e | u
        · simp only [hrecord, Except.ok_bind, hmatch, Except.error_bind, runTx] at h
          cases h
        · obtain ⟨_, hpath, hhash⟩ := Except.bind_eq_ok.mp hmatch
          rw [raiseIf_eq_ok, not_not] at hpath hhash
          exact ⟨rfl, hpath, hhash⟩
    · rintro ⟨-, hknown⟩
      obtain ⟨hrecord, hpath, hhash⟩ := hknown row hget
      refine ⟨row, table, ?_⟩
      simp [hrecord, assertCasefilePayloadMatch, raiseIf, hpath, hhash, runTx, pure, Except.pure]

end AiopsTriage
