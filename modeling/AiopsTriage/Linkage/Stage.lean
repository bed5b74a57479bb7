import AiopsTriage.CaseFile.Chain
import AiopsTriage.Linkage.Attempt
import AiopsTriage.Linkage.Repository

/-!
# The linkage stage

`execute_servicenow_linkage_and_persist`: the retry record is read or created, an attempt that is
due is made between two transitions of the record, and a terminal outcome is written to
`linkage.json`.

The transitions and the file are in two stores, and a process may stop between them
(`settleLinkage` is the call up to there). A call that then finds the record terminal builds the
outcome again from the record (`buildTerminalLinkageResultFromRetryState`) and writes the file if
it is not there.

What ServiceNow answers to the attempt is an argument.
-/

namespace AiopsTriage

/-! ## Arguments and answer -/

/-- The arguments that say what is linked. -/
structure LinkageArguments where
  /-- the case -/
  caseId : String
  /-- the PagerDuty incident -/
  pdIncidentId : String
  /-- the ServiceNow incident -/
  incidentSysId : Option String
  /-- the hash of the triage file -/
  triageHash : String
  /-- the hash of the diagnosis file -/
  diagnosisHash : Option String := none
  deriving DecidableEq, Repr

/-- `now`, as each of the functions called with it resolves it: the argument every time, or a
reading of the clock each. -/
structure LinkageTimes where
  /-- in `get_or_create_pending` -/
  created : DateTime
  /-- in `is_retry_due` -/
  due : DateTime
  /-- in `mark_linkage_searching` -/
  searching : DateTime
  /-- in `mark_linkage_success` or `mark_linkage_failure` -/
  outcome : DateTime
  deriving DecidableEq, Repr

/-- How the calls to the object store go. -/
structure LinkageFaults where
  /-- the read of an existing `linkage.json` -/
  existing : Remote := .answered
  /-- the reads of the checks -/
  reads : ReadFaults := {}
  /-- the write -/
  writes : WriteFaults := {}
  deriving DecidableEq, Repr

/-- `ServiceNowLinkagePersistResult`. -/
structure ServiceNowLinkagePersistResult where
  /-- what came of the linkage -/
  linkageResult : ServiceNowLinkageWriteResult
  /-- the retry record -/
  linkageRetryState : Option LinkageRetryRecord := none
  /-- the linkage file -/
  linkageCasefile : Option CaseFileLinkageV1 := none
  /-- where it is -/
  linkageObjectPath : Option String := none
  deriving DecidableEq

/-! ## The linkage file of a result -/

/-- The `ValidationError` of a field of `CaseFileLinkageV1`. -/
def linkageFileError (field : String) : Failure := .validationError "CaseFileLinkageV1" [field]

/-- The validator of a hash. -/
def requireHex64 (field : String) (value : String) : Except Failure Hex64 :=
  if h : isHex64 value = true then .ok ⟨value, h⟩ else .error (linkageFileError field)

/-- The validator of an optional hash. -/
def requireOptHex64 (field : String) : Option String → Except Failure (Option Hex64)
  | none => .ok none
  | some value => some <$> requireHex64 field value

/-- The validator of an optional identifier. -/
def requireIdentifier (field : String) : Option String → Except Failure (Option Identifier)
  | none => .ok none
  | some value =>
    match identifier? value with
    | some identifier => .ok (some identifier)
    | none => .error (linkageFileError field)

/-- The validator of a collection of identifiers. -/
def requireIdentifiers (field : String) (values : List String) : Except Failure (List Identifier) :=
  match values.mapM identifier? with
  | some identifiers => .ok identifiers
  | none => .error (linkageFileError field)

/-- The file of a result, before it is sealed. -/
def linkagePlaceholder (args : LinkageArguments) (result : ServiceNowLinkageWriteResult) :
    Except Failure CaseFileLinkageV1 := do
  let incidentSysId ← requireIdentifier "incident_sys_id"
    (orText result.incidentSysId args.incidentSysId)
  let problemSysId ← requireIdentifier "problem_sys_id" result.problemSysId
  let problemExternalId ← requireIdentifier "problem_external_id" result.problemExternalId
  let pirTaskSysIds ← requireIdentifiers "pir_task_sys_ids" result.pirTaskSysIds
  let pirTaskExternalIds ← requireIdentifiers "pir_task_external_ids" result.pirTaskExternalIds
  let triageHash ← requireHex64 "triage_hash" args.triageHash
  let diagnosisHash ← requireOptHex64 "diagnosis_hash" args.diagnosisHash
  return {
    caseId := args.caseId
    linkageStatus := result.linkageStatus
    linkageReason := result.linkageReason
    incidentSysId := incidentSysId
    problemSysId := problemSysId
    problemExternalId := problemExternalId
    pirTaskSysIds := pirTaskSysIds
    pirTaskExternalIds := pirTaskExternalIds
    triageHash := triageHash
    diagnosisHash := diagnosisHash
    linkageHash := hashPlaceholder }

/-! ## What a file says of its result -/

/-- The identifier of a text is the stripped text. -/
theorem identifier?_eq_some {s : String} {i : Identifier} :
    identifier? s = some i ↔ PyText.strip s = i.val := by
  unfold identifier?
  constructor
  · intro h
    split at h
    · cases h
      rfl
    · cases h
  · intro h
    have hblank : PyText.isBlank s = false := by
      rw [← PyText.isBlank_strip, h]
      exact i.property.2
    rw [dif_pos hblank]
    exact congrArg some (Subtype.ext h)

theorem requireIdentifier_eq_ok {field : String} {value : Option String} {i : Option Identifier} :
    requireIdentifier field value = .ok i ↔ value.map PyText.strip = i.map Subtype.val := by
  cases value with
  | none => cases i <;> simp [requireIdentifier]
  | some s =>
    cases hs : identifier? s with
    | none =>
      cases i with
      | none => simp [requireIdentifier, hs]
      | some i =>
        have hne : PyText.strip s ≠ i.val := fun h => by
          cases hs.symm.trans (identifier?_eq_some.mpr h)
        simp [requireIdentifier, hs, hne]
    | some j =>
      have hval := identifier?_eq_some.mp hs
      cases i with
      | none => simp [requireIdentifier, hs]
      | some i => simp [requireIdentifier, hs, hval, Subtype.ext_iff]

theorem mapM_identifier? {values : List String} {is : List Identifier} :
    values.mapM identifier? = some is ↔ values.map PyText.strip = is.map Subtype.val := by
  induction values generalizing is with
  | nil => cases is <;> simp
  | cons s values ih =>
    cases is with
    | nil => simp [List.mapM_cons, Option.bind_eq_some_iff]
    | cons i is =>
      simp only [List.mapM_cons, Option.bind_eq_bind, Option.bind_eq_some_iff, List.map_cons,
        List.cons.injEq, ← ih, ← identifier?_eq_some]
      simp

theorem requireIdentifiers_eq_ok {field : String} {values : List String} {is : List Identifier} :
    requireIdentifiers field values = .ok is ↔
      values.map PyText.strip = is.map Subtype.val := by
  rw [← mapM_identifier?, requireIdentifiers]
  cases values.mapM identifier? <;> simp

theorem requireHex64_ok {field value : String} {h : Hex64} (hok : requireHex64 field value = .ok h) :
    h.val = value := by
  unfold requireHex64 at hok
  split at hok
  · cases hok
    rfl
  · cases hok

theorem requireOptHex64_ok {field : String} {value : Option String} {h : Option Hex64}
    (hok : requireOptHex64 field value = .ok h) : h.map Subtype.val = value := by
  cases value with
  | none =>
    cases hok
    rfl
  | some s =>
    obtain ⟨hash, hhash, hsome⟩ := Except.bind_eq_ok.mp hok
    cases hsome
    exact congrArg some (requireHex64_ok hhash)

/-- A result says what a file says, up to the whitespace around its identifiers. -/
structure Says (result : ServiceNowLinkageWriteResult) (incident : Option String)
    (p : CaseFileLinkageV1) : Prop where
  /-- the status -/
  status : result.linkageStatus = p.linkageStatus
  /-- the reason -/
  reason : result.linkageReason = p.linkageReason
  /-- the incident, of the result or of the arguments -/
  incident : (orText result.incidentSysId incident).map PyText.strip =
    p.incidentSysId.map Subtype.val
  /-- the Problem -/
  problem : result.problemSysId.map PyText.strip = p.problemSysId.map Subtype.val
  /-- its key -/
  problemKey : result.problemExternalId.map PyText.strip = p.problemExternalId.map Subtype.val
  /-- the PIR tasks -/
  tasks : result.pirTaskSysIds.map PyText.strip = p.pirTaskSysIds.map Subtype.val
  /-- their keys -/
  taskKeys : result.pirTaskExternalIds.map PyText.strip = p.pirTaskExternalIds.map Subtype.val

/-- The file of a result says what the result says. -/
theorem linkagePlaceholder_ok {args : LinkageArguments} {result : ServiceNowLinkageWriteResult}
    {p : CaseFileLinkageV1} (h : linkagePlaceholder args result = .ok p) :
    p.caseId = args.caseId ∧ p.triageHash.val = args.triageHash ∧
      p.diagnosisHash.map Subtype.val = args.diagnosisHash ∧ Says result args.incidentSysId p := by
  obtain ⟨incident, hincident, h⟩ := Except.bind_eq_ok.mp h
  obtain ⟨problem, hproblem, h⟩ := Except.bind_eq_ok.mp h
  obtain ⟨problemKey, hproblemKey, h⟩ := Except.bind_eq_ok.mp h
  obtain ⟨tasks, htasks, h⟩ := Except.bind_eq_ok.mp h
  obtain ⟨taskKeys, htaskKeys, h⟩ := Except.bind_eq_ok.mp h
  obtain ⟨triageHash, htriage, h⟩ := Except.bind_eq_ok.mp h
  obtain ⟨diagnosisHash, hdiagnosis, h⟩ := Except.bind_eq_ok.mp h
  rw [Except.pure_eq_ok] at h
  subst h
  refine ⟨rfl, requireHex64_ok htriage, requireOptHex64_ok hdiagnosis, ?_⟩
  exact ⟨rfl, rfl, requireIdentifier_eq_ok.mp hincident, requireIdentifier_eq_ok.mp hproblem,
    requireIdentifier_eq_ok.mp hproblemKey, requireIdentifiers_eq_ok.mp htasks,
    requireIdentifiers_eq_ok.mp htaskKeys⟩

/-- Two results have the same file exactly when they say the same. -/
theorem linkagePlaceholder_saying {args : LinkageArguments}
    {result result' : ServiceNowLinkageWriteResult} {p : CaseFileLinkageV1}
    (h : linkagePlaceholder args result = .ok p) :
    linkagePlaceholder args result' = .ok p ↔ Says result' args.incidentSysId p := by
  refine ⟨fun h' => (linkagePlaceholder_ok h').2.2.2, fun hsaid => ?_⟩
  obtain ⟨incident, -, h⟩ := Except.bind_eq_ok.mp h
  obtain ⟨problem, -, h⟩ := Except.bind_eq_ok.mp h
  obtain ⟨problemKey, -, h⟩ := Except.bind_eq_ok.mp h
  obtain ⟨tasks, -, h⟩ := Except.bind_eq_ok.mp h
  obtain ⟨taskKeys, -, h⟩ := Except.bind_eq_ok.mp h
  obtain ⟨triageHash, htriage, h⟩ := Except.bind_eq_ok.mp h
  obtain ⟨diagnosisHash, hdiagnosis, h⟩ := Except.bind_eq_ok.mp h
  rw [Except.pure_eq_ok] at h
  subst h
  rw [linkagePlaceholder, requireIdentifier_eq_ok.mpr hsaid.incident,
    requireIdentifier_eq_ok.mpr hsaid.problem, requireIdentifier_eq_ok.mpr hsaid.problemKey,
    requireIdentifiers_eq_ok.mpr hsaid.tasks, requireIdentifiers_eq_ok.mpr hsaid.taskKeys, htriage,
    hdiagnosis, hsaid.status, hsaid.reason]
  rfl

/-! ## Files -/

section Stage

variable [Platform]

/-- `_persist_terminal_linkage_stage`. -/
def persistTerminalLinkageStage (args : LinkageArguments) (objects : ObjectStore)
    (result : ServiceNowLinkageWriteResult) (faults : LinkageFaults) :
    Except Failure (CaseFileLinkageV1 × String) × ObjectStore :=
  match linkagePlaceholder args result with
  | .error e => (.error e, objects)
  | .ok placeholder =>
    let casefile := linkageModel.finalize placeholder
    match persistCasefileLinkageStage objects casefile faults.reads faults.writes with
    | (.error e, objects) => (.error e, objects)
    | (.ok objectPath, objects) => (.ok (casefile, objectPath), objects)

/-- `_ensure_terminal_linkage_stage`. -/
def ensureTerminalLinkageStage (args : LinkageArguments) (objects : ObjectStore)
    (result : ServiceNowLinkageWriteResult) (faults : LinkageFaults) :
    Except Failure (CaseFileLinkageV1 × String) × ObjectStore :=
  match readCasefileStageJsonOrNone linkageModel objects args.caseId .linkage faults.existing with
  | .error e => (.error e, objects)
  | .ok (some existing) => (.ok (existing, s!"cases/{args.caseId}/linkage.json"), objects)
  | .ok none => persistTerminalLinkageStage args objects result faults

/-! ## The result of a terminal record -/

/-- The result of a terminal record with a status; the reason is for a record that has none. -/
def terminalResult (retryState : LinkageRetryRecord) (fallbackIncidentSysId : Option String)
    (status : LinkageStatus) (reason : String) (state : LinkageRetryState) :
    ServiceNowLinkageWriteResult :=
  let metadata := retryState.lastReasonMetadata
  { linkageStatus := status
    linkageReason := (asNonEmptyString (metadata.get? "linkage_reason")).getD reason
    requestId := (retryState.requestId.filter (· ≠ "")).getD "unknown"
    incidentSysId := orText retryState.incidentSysId fallbackIncidentSysId
    problemSysId := asNonEmptyString (metadata.get? "problem_sys_id")
    problemExternalId := asNonEmptyString (metadata.get? "problem_external_id")
    pirTaskSysIds := asStringTuple (metadata.get? "pir_task_sys_ids")
    pirTaskExternalIds := asStringTuple (metadata.get? "pir_task_external_ids")
    linkageState := some state
    retryable := some false
    nextAttemptAt := none
    reasonMetadata := metadata }

/-- `_build_terminal_linkage_result_from_retry_state`: of a `LINKED` record the result is linked,
of a `FAILED_FINAL` one it has the status its metadata gives. -/
def buildTerminalLinkageResultFromRetryState (retryState : LinkageRetryRecord)
    (fallbackIncidentSysId : Option String) : Except Failure ServiceNowLinkageWriteResult :=
  if retryState.state = .linked then
    .ok (terminalResult retryState fallbackIncidentSysId .linked "already_linked" .linked)
  else
    match StrEnum.ofValue? ((asNonEmptyString
      (retryState.lastReasonMetadata.get? "linkage_status")).getD "failed") with
    | none => .error (.validationError "ServiceNowLinkageWriteResult" ["linkage_status"])
    | some status => .ok (terminalResult retryState fallbackIncidentSysId status
        "failed_final_terminal" .failedFinal)

/-! ## The call up to its file -/

/-- What a call has left to do when the record is as it leaves it. -/
inductive LinkageRest where
  /-- nothing but to return -/
  | returns (result : ServiceNowLinkagePersistResult)
  /-- the outcome of its attempt is terminal, and is to be written -/
  | persist (result : ServiceNowLinkageWriteResult) (retryState : LinkageRetryRecord)
  /-- the record was terminal, and its outcome is to be there -/
  | ensure (result : ServiceNowLinkageWriteResult) (retryState : LinkageRetryRecord)
  deriving DecidableEq

/-- What is left after an outcome. -/
def restOfOutcome (result : ServiceNowLinkageWriteResult) (retryState : LinkageRetryRecord) :
    LinkageRest :=
  if result.isLinked then
    .persist { result with
      linkageState := some .linked
      retryable := some false
      nextAttemptAt := none } retryState
  else if retryState.state = .failedTemp then
    .returns
      { linkageResult := { result with
          linkageState := some .failedTemp
          retryable := some true
          nextAttemptAt := retryState.nextAttemptAt
          reasonMetadata := retryState.lastReasonMetadata }
        linkageRetryState := some retryState }
  else
    .persist { result with
      linkageState := some .failedFinal
      retryable := some false
      nextAttemptAt := none
      reasonMetadata := retryState.lastReasonMetadata } retryState

/-- What is returned of a record whose next attempt is not due. -/
def retryScheduledResult (retryState : LinkageRetryRecord) : ServiceNowLinkagePersistResult where
  linkageResult :=
    { linkageStatus := .failed
      linkageReason := "retry_scheduled"
      requestId := (retryState.requestId.filter (· ≠ "")).getD "retry-scheduled"
      incidentSysId := retryState.incidentSysId
      linkageState := some .failedTemp
      retryable := some true
      nextAttemptAt := retryState.nextAttemptAt
      reasonMetadata := retryState.lastReasonMetadata }
  linkageRetryState := some retryState

variable (policy : LinkageRetryPolicy) (args : LinkageArguments)
  (attempt : Except Failure ServiceNowLinkageWriteResult)

/-- The attempt on a record, between its two transitions. -/
def attemptLinkage (table : LinkageTable) (retryState : LinkageRetryRecord) (now : LinkageTimes) :
    Except Failure LinkageRest × LinkageTable :=
  match markLinkageSearching retryState now.searching with
  | .error e => (.error e, table)
  | .ok searchingState =>
    match persistTransition table args.caseId searchingState [retryState.state] with
    | (.error e, table) => (.error e, table)
    | (.ok retryState, table) =>
      match attempt with
      | .error e => (.error e, table)
      | .ok result =>
        match outcomeTransition policy retryState args.incidentSysId result now.outcome with
        | .error e => (.error e, table)
        | .ok outcomeState =>
          match persistTransition table args.caseId outcomeState [.searching] with
          | (.error e, table) => (.error e, table)
          | (.ok retryState, table) => (.ok (restOfOutcome result retryState), table)

/-- `execute_servicenow_linkage_and_persist` up to the file: every transition of the record is
persisted, and `linkage.json` is not written yet. -/
def settleLinkage (table : LinkageTable) (now : LinkageTimes) :
    Except Failure LinkageRest × LinkageTable :=
  match getOrCreatePending table args.caseId args.pdIncidentId args.incidentSysId
    policy.retryWindowMinutes now.created with
  | (.error e, table) => (.error e, table)
  | (.ok retryState, table) =>
    if retryState.state.isTerminal then
      ((LinkageRest.ensure · retryState) <$>
        buildTerminalLinkageResultFromRetryState retryState args.incidentSysId, table)
    else if retryState.state = .failedTemp then
      match isRetryDue retryState now.due with
      | .error e => (.error e, table)
      | .ok false => (.ok (.returns (retryScheduledResult retryState)), table)
      | .ok true => attemptLinkage policy args attempt table retryState now
    else attemptLinkage policy args attempt table retryState now

/-! ## The call -/

/-- What the call returns of a file. -/
def persistedResult (result : ServiceNowLinkageWriteResult) (retryState : Option LinkageRetryRecord)
    (file : CaseFileLinkageV1 × String) : ServiceNowLinkagePersistResult where
  linkageResult := result
  linkageRetryState := retryState
  linkageCasefile := some file.1
  linkageObjectPath := some file.2

/-- The rest of a call. -/
def LinkageRest.run (rest : LinkageRest) (objects : ObjectStore) (faults : LinkageFaults) :
    Except Failure ServiceNowLinkagePersistResult × ObjectStore :=
  match rest with
  | .returns result => (.ok result, objects)
  | .persist result retryState =>
    let (file, objects) := persistTerminalLinkageStage args objects result faults
    (persistedResult result (some retryState) <$> file, objects)
  | .ensure result retryState =>
    let (file, objects) := ensureTerminalLinkageStage args objects result faults
    (persistedResult result (some retryState) <$> file, objects)

/-- The store after a file that is to be written. -/
theorem LinkageRest.run_persist {result : ServiceNowLinkageWriteResult}
    {retryState : LinkageRetryRecord} {objects : ObjectStore} {faults : LinkageFaults} :
    ((LinkageRest.persist result retryState).run args objects faults).2 =
      (persistTerminalLinkageStage args objects result faults).2 := rfl

/-- The store after a file that is to be there. -/
theorem LinkageRest.run_ensure {result : ServiceNowLinkageWriteResult}
    {retryState : LinkageRetryRecord} {objects : ObjectStore} {faults : LinkageFaults} :
    ((LinkageRest.ensure result retryState).run args objects faults).2 =
      (ensureTerminalLinkageStage args objects result faults).2 := rfl

/-- `execute_servicenow_linkage_and_persist` without a repository: one attempt, and its outcome is
terminal. -/
def executeLinkageOnce (objects : ObjectStore) (faults : LinkageFaults) :
    Except Failure ServiceNowLinkagePersistResult × ObjectStore :=
  match attempt with
  | .error e => (.error e, objects)
  | .ok result =>
    let resolved := { result with
      linkageState := some (if result.isLinked then .linked else .failedFinal)
      retryable := some false
      nextAttemptAt := none }
    let (file, objects) := persistTerminalLinkageStage args objects resolved faults
    (persistedResult resolved none <$> file, objects)

/-- `execute_servicenow_linkage_and_persist`. -/
def executeServicenowLinkageAndPersist (repository : Option LinkageTable) (objects : ObjectStore)
    (now : LinkageTimes) (faults : LinkageFaults) :
    Except Failure ServiceNowLinkagePersistResult × Option LinkageTable × ObjectStore :=
  match repository with
  | none =>
    let (answer, objects) := executeLinkageOnce args attempt objects faults
    (answer, none, objects)
  | some table =>
    match settleLinkage policy args attempt table now with
    | (.error e, table) => (.error e, some table, objects)
    | (.ok rest, table) =>
      let (answer, objects) := rest.run args objects faults
      (answer, some table, objects)

end Stage

end AiopsTriage
