import AiopsTriage.Linkage.StateMachine

/-!
# ServiceNow linkage repository

The rows live in one table with a unique case id. `getOrCreatePending` reads the row of
a case or inserts a pending one; `persistTransition` replaces the whole row under a
guard on its state alone (`updateGuarded`), and when the guard fails it looks at the
row again and accepts one that already has the target state (`acceptLatest`).

The two statements of a transition are separate, because the row may change between
them; `persistTransition` is the two with nothing in between.
-/

namespace AiopsTriage

/-- The `sn_linkage_retry` table, by case id. -/
abbrev LinkageTable := Dict String LinkageRetryRecord

/-! ## Transactions -/

/-- `_wrap_repo_exc`, with the two kinds of exception that pass unwrapped. -/
def wrapLinkageRepo (failure : Failure) : Failure :=
  if failure.passesRepository then failure
  else .criticalDependency "sn linkage retry repository operation failed" failure

/-- A transaction commits what its body leaves, or rolls back and raises. -/
def runLinkageTx {α : Type} (table : LinkageTable) (body : Except Failure (α × LinkageTable)) :
    Except Failure α × LinkageTable :=
  match body with
  | .ok (a, table') => (.ok a, table')
  | .error e => (.error (wrapLinkageRepo e), table)

/-- A transaction raises and leaves the table alone, or returns and commits its body. -/
theorem runLinkageTx_cases {α : Type} (table : LinkageTable)
    (body : Except Failure (α × LinkageTable)) :
    (∃ e, runLinkageTx table body = (.error e, table)) ∨
      ∃ a table', body = .ok (a, table') ∧ runLinkageTx table body = (.ok a, table') := by
  rcases body with e | ⟨a, table'⟩
  · exact .inl ⟨wrapLinkageRepo e, rfl⟩
  · exact .inr ⟨a, table', rfl, rfl⟩

/-! ## Rows -/

/-- `_get_by_case_id`. -/
def getLinkageByCaseId (table : LinkageTable) (caseId : String) :
    Except Failure (Option LinkageRetryRecord) :=
  match table.get? caseId with
  | none => .ok none
  | some row => some <$> row.validate

/-- `_require_by_case_id`. -/
def requireLinkageByCaseId (table : LinkageTable) (caseId : String) :
    Except Failure LinkageRetryRecord :=
  match table.get? caseId with
  | none => .error (.invariantViolation s!"sn linkage retry record not found for case_id={caseId}")
  | some row => row.validate

theorem requireLinkageByCaseId_ok {table : LinkageTable} {caseId : String}
    {r : LinkageRetryRecord} (h : requireLinkageByCaseId table caseId = .ok r) :
    ∃ row, table.get? caseId = some row ∧ row.validate = .ok r := by
  unfold requireLinkageByCaseId at h
  split at h
  · cases h
  · next row hrow => exact ⟨row, hrow, h⟩

/-- `_assert_linkage_identity`. -/
def assertLinkageIdentity (existing : LinkageRetryRecord) (pdIncidentId : String) :
    Except Failure Unit :=
  raiseIf (existing.pdIncidentId ≠ pdIncidentId)
    (.invariantViolation "existing sn linkage retry case_id has different pd_incident_id")

/-- The transaction of `get_or_create_pending`. An insert that loses a race needs a second
writer, so one call at a time never reaches the `IntegrityError` branch. -/
def findOrInsert (table : LinkageTable) (caseId pdIncidentId : String)
    (pending : LinkageRetryRecord) : Except Failure (LinkageRetryRecord × LinkageTable) := do
  match ← getLinkageByCaseId table caseId with
  | some existing =>
    assertLinkageIdentity existing pdIncidentId
    return (existing, table)
  | none =>
    raiseIf (linkageColumnsFit pending = false) (.databaseError "sn_linkage_retry")
    let record ← pending.validate
    return (record, table.set caseId pending)

/-- `get_or_create_pending`. -/
def getOrCreatePending (table : LinkageTable) (caseId pdIncidentId : String)
    (incidentSysId : Option String) (retryWindowMinutes : Int) (now : DateTime) :
    Except Failure LinkageRetryRecord × LinkageTable :=
  match createPendingLinkageRetryRecord caseId pdIncidentId incidentSysId retryWindowMinutes now with
  | .error e => (.error e, table)
  | .ok pending => runLinkageTx table (findOrInsert table caseId pdIncidentId pending)

/-! ## Guarded writes -/

/-- The `UPDATE` of `persist_transition`: it sets every column of a row in one of the
expected states, and answers that row. `none` when it touches no row. -/
def updateGuarded (table : LinkageTable) (caseId : String) (next : LinkageRetryRecord)
    (expectedSourceStatuses : List LinkageRetryState) :
    Except Failure (Option (LinkageRetryRecord × LinkageTable)) :=
  match (table.get? caseId).filter fun row => row.state ∈ expectedSourceStatuses with
  | some _ => do
    raiseIf (linkageColumnsFit next = false) (.databaseError "sn_linkage_retry")
    let record ← next.validate
    return some (record, table.set caseId next)
  | none => return none

/-- The rest of `persist_transition` when the `UPDATE` touched no row: a row that already
has the target state is accepted. -/
def acceptLatest (table : LinkageTable) (caseId : String) (next : LinkageRetryRecord)
    (expectedSourceStatuses : List LinkageRetryState) : Except Failure LinkageRetryRecord := do
  let latest ← requireLinkageByCaseId table caseId
  if latest.state = next.state then
    return latest
  else
    throw (.invariantViolation
      (s!"sn linkage retry transition source-state guard failed for case_id={caseId}; expected one of " ++
        s!"{reprSorted (expectedSourceStatuses.map LinkageRetryState.value)} but found {latest.state.value}"))

/-- `persist_transition` with nothing in between its statements. -/
def persistTransition (table : LinkageTable) (caseId : String) (next : LinkageRetryRecord)
    (expectedSourceStatuses : List LinkageRetryState) :
    Except Failure LinkageRetryRecord × LinkageTable :=
  runLinkageTx table do
    match ← updateGuarded table caseId next expectedSourceStatuses with
    | some (record, table') => return (record, table')
    | none =>
      let latest ← acceptLatest table caseId next expectedSourceStatuses
      return (latest, table)

/-! ## What a call can do to the table -/

/-- An `UPDATE` that returned replaced a row in an expected state, or found none. -/
theorem updateGuarded_ok {table : LinkageTable} {caseId : String} {next : LinkageRetryRecord}
    {expected : List LinkageRetryState} {answer : Option (LinkageRetryRecord × LinkageTable)}
    (h : updateGuarded table caseId next expected = .ok answer) :
    (∃ row record, table.get? caseId = some row ∧ row.state ∈ expected ∧
        next.validate = .ok record ∧ answer = some (record, table.set caseId next)) ∨
      ((∀ row, table.get? caseId = some row → row.state ∉ expected) ∧ answer = none) := by
  unfold updateGuarded at h
  split at h
  · next row hrow =>
    obtain ⟨hget, hmem⟩ := Option.filter_eq_some_iff.mp hrow
    obtain ⟨_, -, h⟩ := Except.bind_eq_ok.mp h
    obtain ⟨record, hrecord, h⟩ := Except.bind_eq_ok.mp h
    rw [Except.pure_eq_ok] at h
    exact .inl ⟨row, record, hget, of_decide_eq_true hmem, hrecord, h.symm⟩
  · next hnone =>
    rw [Except.pure_eq_ok] at h
    refine .inr ⟨fun row hrow hmem => ?_, h.symm⟩
    rw [hrow, Option.filter_some, if_pos (decide_eq_true hmem)] at hnone
    cases hnone

/-- An accepted row has the target state. -/
theorem acceptLatest_ok {table : LinkageTable} {caseId : String} {next r : LinkageRetryRecord}
    {expected : List LinkageRetryState} (h : acceptLatest table caseId next expected = .ok r) :
    ∃ row, table.get? caseId = some row ∧ row.validate = .ok r ∧ r.state = next.state := by
  obtain ⟨latest, hlatest, h⟩ := Except.bind_eq_ok.mp h
  obtain ⟨row, hrow, hvalid⟩ := requireLinkageByCaseId_ok hlatest
  split at h
  · next hstate =>
    rw [Except.pure_eq_ok] at h
    subst h
    exact ⟨row, hrow, hvalid, hstate⟩
  · cases h

/-- A transition that returned replaced a row in an expected state, or found another that has the
target state already. -/
theorem persistTransition_ok {table table' : LinkageTable} {caseId : String}
    {next r : LinkageRetryRecord} {expected : List LinkageRetryState}
    (h : persistTransition table caseId next expected = (.ok r, table')) :
    (∃ row, table.get? caseId = some row ∧ row.state ∈ expected ∧ next.validate = .ok r ∧
        table' = table.set caseId next) ∨
      ((∀ row, table.get? caseId = some row → row.state ∉ expected) ∧ r.state = next.state ∧
        table' = table) := by
  unfold persistTransition at h
  rcases runLinkageTx_cases table _ with ⟨e, herror⟩ | ⟨a, after, hbody, hcall⟩
  · cases herror.symm.trans h
  · cases hcall.symm.trans h
    obtain ⟨answer, hanswer, hbody⟩ := Except.bind_eq_ok.mp hbody
    rcases updateGuarded_ok hanswer with ⟨row, record, hrow, hmem, hrecord, rfl⟩ | ⟨hnone, rfl⟩
    · cases hbody
      exact .inl ⟨row, hrow, hmem, hrecord, rfl⟩
    · obtain ⟨latest, hlatest, hbody⟩ := Except.bind_eq_ok.mp hbody
      cases hbody
      obtain ⟨-, -, -, hstate⟩ := acceptLatest_ok hlatest
      exact .inr ⟨hnone, hstate, rfl⟩

/-- The transaction finds the row of the same incident, or adds the pending one to a case
that had none. -/
theorem findOrInsert_ok {table table' : LinkageTable} {caseId pdIncidentId : String}
    {pending r : LinkageRetryRecord}
    (h : findOrInsert table caseId pdIncidentId pending = .ok (r, table')) :
    (∃ row, table.get? caseId = some row ∧ row.validate = .ok r ∧
        r.pdIncidentId = pdIncidentId ∧ table' = table) ∨
      (table.get? caseId = none ∧ linkageColumnsFit pending = true ∧
        pending.validate = .ok r ∧ table' = table.set caseId pending) := by
  obtain ⟨found, hfound, h⟩ := Except.bind_eq_ok.mp h
  unfold getLinkageByCaseId at hfound
  rcases hget : table.get? caseId with _ | row
  · right
    rw [hget] at hfound
    cases hfound
    obtain ⟨_, hfit, h⟩ := Except.bind_eq_ok.mp h
    obtain ⟨record, hrecord, h⟩ := Except.bind_eq_ok.mp h
    cases h
    rw [raiseIf_eq_ok, Bool.not_eq_false] at hfit
    exact ⟨rfl, hfit, hrecord, rfl⟩
  · left
    rw [hget] at hfound
    obtain ⟨existing, hexisting, hsome⟩ := Except.bind_eq_ok.mp hfound
    cases hsome
    obtain ⟨_, hmatch, h⟩ := Except.bind_eq_ok.mp h
    cases h
    rw [assertLinkageIdentity, raiseIf_eq_ok, not_not] at hmatch
    exact ⟨row, rfl, hexisting, hmatch, rfl⟩

/-- **Read lemma**: a call raises, finds the row of the same incident, or adds the
pending row of a case that had none. -/
theorem getOrCreatePending_cases (table : LinkageTable) (caseId pdIncidentId : String)
    (incidentSysId : Option String) (window : Int) (now : DateTime) :
    (∃ e, getOrCreatePending table caseId pdIncidentId incidentSysId window now =
        (.error e, table)) ∨
      (∃ row r, table.get? caseId = some row ∧ row.validate = .ok r ∧
        r.pdIncidentId = pdIncidentId ∧
        getOrCreatePending table caseId pdIncidentId incidentSysId window now = (.ok r, table)) ∨
      ∃ pending r, table.get? caseId = none ∧
        createPendingLinkageRetryRecord caseId pdIncidentId incidentSysId window now =
          .ok pending ∧
        pending.validate = .ok r ∧
        getOrCreatePending table caseId pdIncidentId incidentSysId window now =
          (.ok r, table.set caseId pending) := by
  unfold getOrCreatePending
  rcases hpending : createPendingLinkageRetryRecord caseId pdIncidentId incidentSysId window now
    with e | pending
  · exact .inl ⟨e, rfl⟩
  · rcases runLinkageTx_cases table (findOrInsert table caseId pdIncidentId pending) with
      herror | ⟨r, table', hbody, hcall⟩
    · exact .inl herror
    · right
      simp only [hcall]
      rcases findOrInsert_ok hbody with ⟨row, hget, hrow, hmatch, rfl⟩ | ⟨hnone, -, hr, rfl⟩
      · exact .inl ⟨row, r, hget, hrow, hmatch, rfl⟩
      · exact .inr ⟨pending, r, hnone, rfl, hr, rfl⟩

end AiopsTriage
