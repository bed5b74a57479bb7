import AiopsTriage.Diagnosis.Chain
import AiopsTriage.Linkage.Stage

/-!
# Recovery of a linkage outcome

A process may stop after the outcome of an attempt is in the retry record and before it is in
`linkage.json`. The next call rebuilds the outcome from the record, and the record keeps only part
of it: of a linked result the reason and the identifiers, of a failed one the metadata. What the
rebuilt file says is therefore that of the uninterrupted run only when the result is one of those
that the record keeps (`Recoverable`, `linkage_recovered_iff`).
-/

namespace AiopsTriage

section Recovery

variable [Platform]

/-! ## What the record keeps -/

/-- A linked result that the record keeps. -/
structure LinkedRecoverable (result : ServiceNowLinkageWriteResult)
    (incident recorded : Option String) : Prop where
  /-- it is not merely `skipped` -/
  status : result.linkageStatus = .linked
  /-- its reason is a text without whitespace around it -/
  reason : PyText.isBlank result.linkageReason = false ∧
    PyText.strip result.linkageReason = result.linkageReason
  /-- when neither it nor the arguments name an incident, the record names none either -/
  incident : orText result.incidentSysId incident = none → recorded = none

/-- A failed result that the record keeps: its own metadata repeats what it says. -/
structure FailureRecoverable (result : ServiceNowLinkageWriteResult)
    (incident recorded : Option String) : Prop where
  /-- the status -/
  status : (asNonEmptyString (result.reasonMetadata.get? "linkage_status")).getD "failed" =
    result.linkageStatus.value
  /-- the reason -/
  reason : (asNonEmptyString (result.reasonMetadata.get? "linkage_reason")).getD
    "failed_final_terminal" = result.linkageReason
  /-- the incident, which is that of the record -/
  incident : (orText recorded incident).map PyText.strip =
    (orText result.incidentSysId incident).map PyText.strip
  /-- the Problem -/
  problem : asNonEmptyString (result.reasonMetadata.get? "problem_sys_id") =
    result.problemSysId.map PyText.strip
  /-- the key of the Problem -/
  problemKey : asNonEmptyString (result.reasonMetadata.get? "problem_external_id") =
    result.problemExternalId.map PyText.strip
  /-- the PIR tasks -/
  tasks : (asStringTuple (result.reasonMetadata.get? "pir_task_sys_ids")).map PyText.strip =
    result.pirTaskSysIds.map PyText.strip
  /-- the keys of the PIR tasks -/
  taskKeys : (asStringTuple (result.reasonMetadata.get? "pir_task_external_ids")).map
    PyText.strip = result.pirTaskExternalIds.map PyText.strip

/-- A result that the record keeps, given the incident of the arguments and that of the record
before the attempt. -/
def Recoverable (result : ServiceNowLinkageWriteResult) (incident recorded : Option String) :
    Prop :=
  if result.isLinked then LinkedRecoverable result incident recorded
  else FailureRecoverable result incident recorded

/-! ## What the transitions leave in the record -/

variable {policy : LinkageRetryPolicy} {args : LinkageArguments}
  {result : ServiceNowLinkageWriteResult}

/-- The keys of the metadata that the stage sets itself. -/
def stageKeys : List String :=
  ["error_code", "retry_after_seconds", "source_error_code", "source_retry_delay_seconds"]

/-- The classification keeps the other entries of the metadata. -/
theorem classifyFailure_get? {codes : List String} {failure : LinkageFailure} {k : String}
    (h : classifyFailureFromLinkageResult result codes = .ok failure) (hk : k ∉ stageKeys) :
    failure.reasonMetadata.get? k = result.reasonMetadata.get? k := by
  obtain ⟨retryAfter, -, h⟩ := Except.bind_eq_ok.mp h
  rw [Except.pure_eq_ok] at h
  subst h
  have hcode : "error_code" ≠ k := fun heq => hk (heq ▸ by decide)
  have hafter : "retry_after_seconds" ≠ k := fun heq => hk (heq ▸ by decide)
  simp only
  split
  · rw [Dict.get?_set, if_neg hafter, Dict.get?_set, if_neg hcode]
  · rw [Dict.get?_set, if_neg hcode]

/-- A failed transition keeps them too, and the incident and the identity of the record. -/
theorem markLinkageFailure_keeps {record next : LinkageRetryRecord} {failure : LinkageFailure}
    {now : DateTime} (h : markLinkageFailure policy record failure now = .ok next) :
    (next.state = .failedTemp ∨ next.state = .failedFinal) ∧
      next.pdIncidentId = record.pdIncidentId ∧ next.incidentSysId = record.incidentSysId ∧
      ∀ k, k ∉ stageKeys → next.lastReasonMetadata.get? k = failure.reasonMetadata.get? k := by
  obtain ⟨_, -, h⟩ := Except.bind_eq_ok.mp h
  obtain ⟨t, -, h⟩ := Except.bind_eq_ok.mp h
  have hsource : ∀ k, k ∉ stageKeys → "source_error_code" ≠ k := by
    rintro k hk rfl
    exact hk (by decide)
  have hdelay : ∀ k, k ∉ stageKeys → "source_retry_delay_seconds" ≠ k := by
    rintro k hk rfl
    exact hk (by decide)
  split at h
  · rw [Except.pure_eq_ok] at h
    subst h
    exact ⟨.inr rfl, rfl, rfl, fun _ _ => rfl⟩
  · split at h
    · rw [Except.pure_eq_ok] at h
      subst h
      refine ⟨.inr rfl, rfl, rfl, fun k hk => ?_⟩
      exact Dict.get?_set.trans (if_neg (hsource k hk))
    · obtain ⟨computed, -, h⟩ := Except.bind_eq_ok.mp h
      obtain ⟨due, -, h⟩ := Except.bind_eq_ok.mp h
      split at h
      · rw [Except.pure_eq_ok] at h
        subst h
        refine ⟨.inr rfl, rfl, rfl, fun k hk => ?_⟩
        refine (Dict.get?_set.trans (if_neg (hdelay k hk))).trans ?_
        exact Dict.get?_set.trans (if_neg (hsource k hk))
      · rw [Except.pure_eq_ok] at h
        subst h
        exact ⟨.inl rfl, rfl, rfl, fun _ _ => rfl⟩

/-- What the record of a terminal outcome says of it. -/
structure RecordKeeps (result : ServiceNowLinkageWriteResult) (incident recorded : Option String)
    (r : LinkageRetryRecord) : Prop where
  /-- of a linked result: its projection, and the incident -/
  linked : result.isLinked = true → r.state = .linked ∧
    r.lastReasonMetadata = buildLinkedRetryReasonMetadata result ∧
    r.incidentSysId = (orText (orText result.incidentSysId incident) recorded).map PyText.strip
  /-- of a failed one: its metadata -/
  failed : result.isLinked = false → (r.state = .failedTemp ∨ r.state = .failedFinal) ∧
    r.incidentSysId = recorded ∧
    ∀ k, k ∉ stageKeys → r.lastReasonMetadata.get? k = result.reasonMetadata.get? k

/-- The record of an outcome, once it has gone through the table. -/
theorem keeps_of_outcome {record next r : LinkageRetryRecord} {now : DateTime}
    (hnext : outcomeTransition policy record args.incidentSysId result now = .ok next)
    (hstripped : record.incidentSysId.map PyText.strip = record.incidentSysId)
    (hvalid : next.validate = .ok r) :
    RecordKeeps result args.incidentSysId record.incidentSysId r ∧
      r.pdIncidentId = record.pdIncidentId := by
  have hincident := (LinkageRetryRecord.validate_incident hvalid).2
  obtain ⟨incidentSysId, requestId, lastErrorCode, lastErrorMessage, rfl⟩ :=
    LinkageRetryRecord.validate_ok hvalid
  unfold outcomeTransition at hnext
  split at hnext
  · next hlinked =>
    obtain ⟨-, t, rfl⟩ := markLinkageSuccess_ok hnext
    refine ⟨⟨fun _ => ⟨rfl, rfl, hincident⟩, fun hfailed => ?_⟩, rfl⟩
    cases hlinked.symm.trans hfailed
  · next hlinked =>
    obtain ⟨failure, hfailure, hnext⟩ := Except.bind_eq_ok.mp hnext
    obtain ⟨hstate, hpd, hkept, hmetadata⟩ := markLinkageFailure_keeps hnext
    refine ⟨⟨fun h => absurd h hlinked, fun _ => ⟨hstate, ?_, fun k hk => ?_⟩⟩, hpd⟩
    · rw [hincident, hkept, hstripped]
    · exact (hmetadata k hk).trans (classifyFailure_get? hfailure hk)

/-! ## The call that is stopped -/

/-- The attempt of a call that has its file left to write: the outcome is in the record. -/
theorem attemptLinkage_persists {table table' : LinkageTable} {row record r : LinkageRetryRecord}
    {resolved : ServiceNowLinkageWriteResult} {now : LinkageTimes}
    (hrow : table.get? args.caseId = some row) (hvalid : row.validate = .ok record)
    (h : attemptLinkage policy args (.ok result) table record now =
      (.ok (.persist resolved r), table')) :
    restOfOutcome result r = .persist resolved r ∧
      RecordKeeps result args.incidentSysId record.incidentSysId r ∧
      r.pdIncidentId = record.pdIncidentId ∧
      ∃ next, table'.get? args.caseId = some next ∧ next.validate = .ok r := by
  unfold attemptLinkage at h
  split at h
  · cases h
  next searchingState hsearching =>
  obtain ⟨-, t, rfl⟩ := markLinkageSearching_ok hsearching
  split at h
  · cases h
  next searching table₁ hfirst =>
  -- the row is in the state it was read in, so the first transition replaces it
  have hstate : row.state = record.state := (LinkageRetryRecord.validate_state hvalid).2.1.symm
  obtain ⟨hentered, rfl⟩ : (searchingRecord record t).validate = .ok searching ∧
      table₁ = table.set args.caseId (searchingRecord record t) := by
    rcases persistTransition_ok hfirst with ⟨_, -, -, hentered, htable⟩ | ⟨hnone, -⟩
    · exact ⟨hentered, htable⟩
    · exact absurd (List.mem_singleton.mpr hstate) (hnone row hrow)
  have hstripped : record.incidentSysId.map PyText.strip = record.incidentSysId :=
    LinkageRetryRecord.strip_incident hvalid
  have hincident : searching.incidentSysId = record.incidentSysId :=
    (LinkageRetryRecord.validate_incident hentered).2.trans hstripped
  have hpd : searching.pdIncidentId = record.pdIncidentId := by
    obtain ⟨_, _, _, _, rfl⟩ := LinkageRetryRecord.validate_ok hentered
    rfl
  simp only at h
  split at h
  · cases h
  next next hnext =>
  split at h
  · cases h
  next r' table₂ hsecond =>
  obtain ⟨hr, rfl⟩ : next.validate = .ok r' ∧
      table₂ = (table.set args.caseId (searchingRecord record t)).set args.caseId next := by
    rcases persistTransition_ok hsecond with ⟨_, -, -, hr, htable⟩ | ⟨hnone, -⟩
    · exact ⟨hr, htable⟩
    · exact absurd (List.mem_singleton.mpr rfl)
        (hnone (searchingRecord record t) (Dict.get?_set.trans (if_pos rfl)))
  obtain ⟨hrest, rfl⟩ := Prod.ext_iff.mp h
  have hrest : restOfOutcome result r' = .persist resolved r := Except.ok.inj hrest
  obtain rfl : r' = r := by
    unfold restOfOutcome at hrest
    split at hrest
    · cases hrest
      rfl
    · split at hrest
      · cases hrest
      · cases hrest
        rfl
  obtain ⟨hkeeps, hsame⟩ := keeps_of_outcome hnext
    (by rw [hincident, hstripped]) hr
  exact ⟨hrest, hincident ▸ hkeeps, hsame.trans hpd, next, Dict.get?_set.trans (if_pos rfl), hr⟩

/-- An attempt leaves no file to look for. -/
theorem attemptLinkage_ne_ensure {table table' : LinkageTable} {record r : LinkageRetryRecord}
    {resolved : ServiceNowLinkageWriteResult} {now : LinkageTimes}
    {attempt : Except Failure ServiceNowLinkageWriteResult} :
    attemptLinkage policy args attempt table record now ≠ (.ok (.ensure resolved r), table') := by
  intro h
  unfold attemptLinkage at h
  split at h
  · cases h
  split at h
  · cases h
  split at h
  · cases h
  split at h
  · cases h
  split at h
  · cases h
  have hrest := Except.ok.inj (congrArg Prod.fst h)
  unfold restOfOutcome at hrest
  split at hrest
  · cases hrest
  · split at hrest
    · cases hrest
    · cases hrest

omit [Platform] in
/-- A record that is created for a case is of the incident it was created for. -/
theorem createPending_pdIncidentId {caseId pdIncidentId : String} {incidentSysId : Option String}
    {window : Int} {now : DateTime} {pending : LinkageRetryRecord}
    (h : createPendingLinkageRetryRecord caseId pdIncidentId incidentSysId window now =
      .ok pending) : pending.pdIncidentId = pdIncidentId := by
  obtain ⟨t, -, h⟩ := Except.bind_eq_ok.mp h
  obtain ⟨deadline, -, h⟩ := Except.bind_eq_ok.mp h
  obtain ⟨_, _, _, _, rfl⟩ := LinkageRetryRecord.validate_ok h
  rfl

omit [Platform] in
/-- A record that is read or created is in the table, and of the incident asked for. -/
theorem getOrCreatePending_ok {table table' : LinkageTable} {caseId pdIncidentId : String}
    {incidentSysId : Option String} {window : Int} {now : DateTime} {record : LinkageRetryRecord}
    (h : getOrCreatePending table caseId pdIncidentId incidentSysId window now =
      (.ok record, table')) :
    record.pdIncidentId = pdIncidentId ∧
      ∃ row, table'.get? caseId = some row ∧ row.validate = .ok record := by
  rcases getOrCreatePending_cases table caseId pdIncidentId incidentSysId window now with
    ⟨e, herror⟩ | ⟨row, r, hrow, hr, hpd, hcall⟩ | ⟨pending, r, -, hpending, hr, hcall⟩
  · cases herror.symm.trans h
  · cases hcall.symm.trans h
    exact ⟨hpd, row, hrow, hr⟩
  · cases hcall.symm.trans h
    have hpd := createPending_pdIncidentId hpending
    refine ⟨?_, pending, Dict.get?_set.trans (if_pos rfl), hr⟩
    obtain ⟨_, _, _, _, rfl⟩ := LinkageRetryRecord.validate_ok hr
    exact hpd

/-- A call on an open record that has its file left to write. -/
theorem settleLinkage_persists {table table' : LinkageTable} {record : LinkageRetryRecord}
    {rest : LinkageRest} {now : LinkageTimes}
    (hrecord : (getOrCreatePending table args.caseId args.pdIncidentId args.incidentSysId
      policy.retryWindowMinutes now.created).1 = .ok record)
    (hopen : record.state.isTerminal = false)
    (h : settleLinkage policy args (.ok result) table now = (.ok rest, table')) :
    (∃ answer, rest = .returns answer) ∨
      ∃ resolved r, rest = .persist resolved r ∧ restOfOutcome result r = .persist resolved r ∧
        RecordKeeps result args.incidentSysId record.incidentSysId r ∧
        r.pdIncidentId = args.pdIncidentId ∧
        ∃ next, table'.get? args.caseId = some next ∧ next.validate = .ok r := by
  unfold settleLinkage at h
  rcases hread : getOrCreatePending table args.caseId args.pdIncidentId args.incidentSysId
    policy.retryWindowMinutes now.created with ⟨answer, table₁⟩
  rw [hread] at hrecord h
  obtain rfl : answer = .ok record := hrecord
  obtain ⟨hpd, row, hrow, hvalid⟩ := getOrCreatePending_ok hread
  simp only [hopen, Bool.false_eq_true, if_false] at h
  -- whichever way the attempt is reached
  have hattempt : attemptLinkage policy args (.ok result) table₁ record now = (.ok rest, table') →
      (∃ answer, rest = .returns answer) ∨
        ∃ resolved r, rest = .persist resolved r ∧ restOfOutcome result r = .persist resolved r ∧
          RecordKeeps result args.incidentSysId record.incidentSysId r ∧
          r.pdIncidentId = args.pdIncidentId ∧
          ∃ next, table'.get? args.caseId = some next ∧ next.validate = .ok r := by
    intro hattempt
    cases rest with
    | returns answer => exact .inl ⟨answer, rfl⟩
    | persist resolved r =>
      obtain ⟨hrest, hkeeps, hsame, hstored⟩ := attemptLinkage_persists hrow hvalid hattempt
      exact .inr ⟨resolved, r, rfl, hrest, hkeeps, hsame.trans hpd, hstored⟩
    | ensure resolved r => exact absurd hattempt attemptLinkage_ne_ensure
  split at h
  · split at h
    · cases h
    · cases h
      exact .inl ⟨_, rfl⟩
    · exact hattempt h
  · exact hattempt h

/-! ## The result that is built again -/

omit [Platform] in
/-- The entries of a linked result's metadata that the recovery reads. -/
theorem get?_linkedMetadata (result : ServiceNowLinkageWriteResult) :
    (buildLinkedRetryReasonMetadata result).get? "linkage_reason" =
        some (.str result.linkageReason) ∧
      (buildLinkedRetryReasonMetadata result).get? "problem_sys_id" =
        result.problemSysId.map .str ∧
      (buildLinkedRetryReasonMetadata result).get? "problem_external_id" =
        result.problemExternalId.map .str ∧
      (buildLinkedRetryReasonMetadata result).get? "pir_task_sys_ids" =
        (if result.pirTaskSysIds = [] then none else some (.arr (result.pirTaskSysIds.map .str))) ∧
      (buildLinkedRetryReasonMetadata result).get? "pir_task_external_ids" =
        (if result.pirTaskExternalIds = [] then none
          else some (.arr (result.pirTaskExternalIds.map .str))) := by
  unfold buildLinkedRetryReasonMetadata
  have hnodup : ([("linkage_status", Json.str result.linkageStatus.value),
      ("linkage_reason", .str result.linkageReason)] ++
    textEntry "problem_sys_id" result.problemSysId ++
    textEntry "problem_external_id" result.problemExternalId ++
    textsEntry "pir_task_sys_ids" result.pirTaskSysIds ++
    textsEntry "pir_task_external_ids" result.pirTaskExternalIds).map Prod.fst |>.Nodup := by
    unfold textEntry textsEntry
    cases result.problemSysId <;> cases result.problemExternalId <;> split <;> split <;> simp
  simp only [Dict.get?_ofPairs hnodup]
  unfold textEntry textsEntry
  cases result.problemSysId <;> cases result.problemExternalId <;> split <;> split <;> simp

omit [Platform] in
/-- A text that names an identifier is not blank. -/
theorem named_of_map_strip {value : Option String} {i : Option Identifier}
    (h : value.map PyText.strip = i.map Subtype.val) {s : String} (hs : value = some s) :
    PyText.isBlank s = false := by
  subst hs
  cases i with
  | none => cases h
  | some i =>
    have hval : PyText.strip s = i.val := Option.some.inj h
    rw [← PyText.isBlank_strip, hval]
    exact i.property.2

omit [Platform] in
/-- Texts that name identifiers are not blank. -/
theorem named_of_map_strips {values : List String} {is : List Identifier}
    (h : values.map PyText.strip = is.map Subtype.val) {s : String} (hs : s ∈ values) :
    PyText.isBlank s = false := by
  have hmem : PyText.strip s ∈ is.map Subtype.val := h ▸ List.mem_map_of_mem hs
  obtain ⟨i, -, hval⟩ := List.mem_map.mp hmem
  rw [← PyText.isBlank_strip, ← hval]
  exact i.property.2

/-- What is read of an optional text that is not blank. -/
theorem asNonEmptyString_map_str {value : Option String}
    (h : ∀ s, value = some s → PyText.isBlank s = false) :
    asNonEmptyString (value.map .str) = value.map PyText.strip := by
  cases value with
  | none => rfl
  | some s => simp [asNonEmptyString, pyStr, h s rfl]

/-- What is read is stripped. -/
theorem strip_asNonEmptyString (value : Option Json) :
    (asNonEmptyString value).map PyText.strip = asNonEmptyString value := by
  unfold asNonEmptyString
  split
  · rfl
  · rfl
  · split
    · rfl
    · exact congrArg some (PyText.strip_strip _)

/-- What is read of texts that are not blank. -/
theorem asStringTuple_texts {values : List String} (h : ∀ s ∈ values, PyText.isBlank s = false) :
    asStringTuple (if values = [] then none else some (.arr (values.map .str))) = values := by
  split
  · next hnil =>
    rw [hnil]
    rfl
  · have hid : values.map (pyStr ∘ Json.str) = values := List.map_id values
    simp only [asStringTuple, List.map_map, hid]
    exact List.filter_eq_self.mpr fun s hs => by simp [h s hs]

omit [Platform] in
/-- A text that is there goes before the other. -/
theorem orText_some {s : String} {b : Option String} (h : PyText.isBlank s = false) :
    orText (some s) b = some s := by
  have hne : s ≠ "" := by
    rintro rfl
    cases h
  simp [orText, hne]

omit [Platform] in
/-- The other text is tried once. -/
theorem orText_orText (a b : Option String) : orText (orText a b) b = orText a b := by
  have hnone : ∀ o : Option String, orText o o = o := by
    intro o
    cases o with
    | none => rfl
    | some s => by_cases hs : s = "" <;> simp [orText, Option.filter, hs]
  cases a with
  | none => exact hnone b
  | some s =>
    by_cases hs : s = ""
    · subst hs
      exact hnone b
    · simp [orText, Option.filter, hs]

variable {recorded incident : Option String} {r : LinkageRetryRecord} {p : CaseFileLinkageV1}

/-- A linked result is rebuilt as its file has it exactly when the record keeps it. -/
theorem linked_says_iff (hlinked : result.isLinked = true)
    (hkeeps : RecordKeeps result incident recorded r)
    (hrecorded : ∀ s, recorded = some s → PyText.isBlank s = false ∧ PyText.strip s = s)
    (hsaid : Says result incident p) :
    Says (terminalResult r incident .linked "already_linked" .linked) incident p ↔
      LinkedRecoverable result incident recorded := by
  obtain ⟨-, hmetadata, hincident⟩ := hkeeps.linked hlinked
  obtain ⟨hreason, hproblem, hproblemKey, htasks, htaskKeys⟩ := get?_linkedMetadata result
  rw [← hmetadata] at hreason hproblem hproblemKey htasks htaskKeys
  constructor
  · intro h
    refine ⟨hsaid.status.trans h.status.symm, ?_, fun hnone => ?_⟩
    · have hkept : (asNonEmptyString (some (.str result.linkageReason))).getD "already_linked" =
          result.linkageReason := by
        rw [← hreason]
        exact h.reason.trans hsaid.reason.symm
      rcases hblank : PyText.isBlank result.linkageReason with _ | _
      · simp only [asNonEmptyString, pyStr, hblank, Bool.false_eq_true, if_false,
          Option.getD_some] at hkept
        exact ⟨rfl, hkept⟩
      · -- a blank reason is replaced
        simp only [asNonEmptyString, pyStr, hblank, if_true, Option.getD_none] at hkept
        rw [← hkept] at hblank
        exact absurd hblank (by decide)
    · have harg : incident = none := by
        unfold orText at hnone
        exact (Option.or_eq_none_iff.mp hnone).2
      subst harg
      cases recorded with
      | none => rfl
      | some s =>
        obtain ⟨hblank, hstrip⟩ := hrecorded s rfl
        have hfile := h.incident.trans (hsaid.incident.symm.trans (congrArg _ hnone))
        have hback : r.incidentSysId = some s := by
          rw [hincident, hnone]
          simp [orText, hstrip]
        simp [terminalResult, hback, orText_some hblank] at hfile
  · rintro ⟨hstatus, ⟨hblank, hstrip⟩, hnames⟩
    have hproblemNamed := fun s => named_of_map_strip (s := s) hsaid.problem
    have hproblemKeyNamed := fun s => named_of_map_strip (s := s) hsaid.problemKey
    refine ⟨hstatus.symm.trans hsaid.status, ?_, ?_, ?_, ?_, ?_, ?_⟩
    · refine Eq.trans ?_ hsaid.reason
      simp [terminalResult, hreason, asNonEmptyString, pyStr, hblank, hstrip]
    · refine Eq.trans ?_ hsaid.incident
      simp only [terminalResult, orText_orText]
      cases hx : orText result.incidentSysId incident with
      | none =>
        have harg : incident = none := by
          unfold orText at hx
          exact (Option.or_eq_none_iff.mp hx).2
        rw [hincident, hx, hnames hx, harg]
        rfl
      | some x =>
        have hnamed : PyText.isBlank x = false := named_of_map_strip hsaid.incident hx
        rw [hincident, hx, orText_some hnamed, Option.map_some,
          orText_some ((PyText.isBlank_strip x).trans hnamed), Option.map_some, PyText.strip_strip]
    · refine Eq.trans ?_ hsaid.problem
      simp only [terminalResult, hproblem, asNonEmptyString_map_str hproblemNamed,
        Option.map_map, Function.comp_def, PyText.strip_strip]
    · refine Eq.trans ?_ hsaid.problemKey
      simp only [terminalResult, hproblemKey, asNonEmptyString_map_str hproblemKeyNamed,
        Option.map_map, Function.comp_def, PyText.strip_strip]
    · refine Eq.trans ?_ hsaid.tasks
      simp only [terminalResult, htasks,
        asStringTuple_texts fun s hs => named_of_map_strips hsaid.tasks hs]
    · refine Eq.trans ?_ hsaid.taskKeys
      simp only [terminalResult, htaskKeys,
        asStringTuple_texts fun s hs => named_of_map_strips hsaid.taskKeys hs]

/-- A failed result is rebuilt as its file has it exactly when the record keeps it. -/
theorem failure_says_iff (hfailed : result.isLinked = false)
    (hkeeps : RecordKeeps result incident recorded r) (hsaid : Says result incident p) :
    ((asNonEmptyString (r.lastReasonMetadata.get? "linkage_status")).getD "failed" =
        p.linkageStatus.value ∧
      Says (terminalResult r incident p.linkageStatus "failed_final_terminal" .failedFinal)
        incident p) ↔ FailureRecoverable result incident recorded := by
  obtain ⟨-, hincident, hmetadata⟩ := hkeeps.failed hfailed
  have hstatus := hmetadata "linkage_status" (by decide)
  have hreason := hmetadata "linkage_reason" (by decide)
  have hproblem := hmetadata "problem_sys_id" (by decide)
  have hproblemKey := hmetadata "problem_external_id" (by decide)
  have htasks := hmetadata "pir_task_sys_ids" (by decide)
  have htaskKeys := hmetadata "pir_task_external_ids" (by decide)
  constructor
  · rintro ⟨hkept, h⟩
    refine ⟨?_, ?_, ?_, ?_, ?_, ?_, ?_⟩
    · rw [← hstatus, hkept, hsaid.status]
    · rw [← hreason, hsaid.reason]
      exact h.reason
    · rw [hsaid.incident, ← h.incident]
      simp only [terminalResult, orText_orText, hincident]
    · rw [hsaid.problem, ← h.problem, ← hproblem]
      exact (strip_asNonEmptyString _).symm
    · rw [hsaid.problemKey, ← h.problemKey, ← hproblemKey]
      exact (strip_asNonEmptyString _).symm
    · rw [hsaid.tasks, ← h.tasks, ← htasks]
      rfl
    · rw [hsaid.taskKeys, ← h.taskKeys, ← htaskKeys]
      rfl
  · intro h
    refine ⟨?_, rfl, ?_, ?_, ?_, ?_, ?_, ?_⟩
    · rw [hstatus, h.status, hsaid.status]
    · rw [← hsaid.reason, ← h.reason, ← hreason]
      rfl
    · rw [← hsaid.incident, ← h.incident]
      simp only [terminalResult, orText_orText, hincident]
    · rw [← hsaid.problem, ← h.problem, ← hproblem]
      exact strip_asNonEmptyString _
    · rw [← hsaid.problemKey, ← h.problemKey, ← hproblemKey]
      exact strip_asNonEmptyString _
    · rw [← hsaid.tasks, ← h.tasks, ← htasks]
      rfl
    · rw [← hsaid.taskKeys, ← h.taskKeys, ← htaskKeys]
      rfl

/-! ## The file -/

variable {objects : ObjectStore} {c : CaseFileLinkageV1}

/-- A file that was not there is written when its result has one, its links are there and the case
has a name. -/
theorem stored_persistTerminal_iff
    (hfree : objects.get? (stageKey args.caseId .linkage) = none) :
    Stored linkageModel (persistTerminalLinkageStage args objects result {}).2 args.caseId .linkage
        c ↔
      ∃ p, linkagePlaceholder args result = .ok p ∧ c = linkageModel.finalize p ∧
        validateStageHashes .linkage objects c {} = .ok () ∧
        PyText.isBlank args.caseId = false := by
  have hunchanged : ¬Stored linkageModel objects args.caseId .linkage c := by
    rintro ⟨body, hbody, -⟩
    cases hfree.symm.trans hbody
  rcases hplaceholder : linkagePlaceholder args result with e | p
  · refine iff_of_false ?_ ?_
    · simpa only [persistTerminalLinkageStage, hplaceholder] using hunchanged
    · rintro ⟨p, hp, -⟩
      cases hp
  have hcase : (linkageModel.finalize p).caseId = args.caseId :=
    (linkagePlaceholder_ok hplaceholder).1
  rcases hchecks : validateStageHashes .linkage objects (linkageModel.finalize p) {} with e | ⟨⟩
  · refine iff_of_false ?_ ?_
    · simpa only [persistTerminalLinkageStage, hplaceholder, persistCasefileLinkageStage,
        persistCasefileStage, hchecks] using hunchanged
    · rintro ⟨p', hp', rfl, hlinks, -⟩
      cases hp'
      cases hchecks.symm.trans hlinks
  -- the checks pass, so the store is that of the write
  have hstore : (persistTerminalLinkageStage args objects result {}).2 =
      (persistWriteOnce linkageModel objects args.caseId .linkage (linkageModel.finalize p) {}).2 := by
    rw [← hcase]
    change _ = (persistWriteOnce AppendedStage.linkage.model objects
      (AppendedStage.linkage.caseId (linkageModel.finalize p)) AppendedStage.linkage.name
      (linkageModel.finalize p) {}).2
    simp only [persistTerminalLinkageStage, hplaceholder, persistCasefileLinkageStage,
      persistCasefileStage, hchecks, persistAppended]
    rcases persistWriteOnce AppendedStage.linkage.model objects
      (AppendedStage.linkage.caseId (linkageModel.finalize p)) AppendedStage.linkage.name
      (linkageModel.finalize p) {} with ⟨_ | _, _⟩ <;> rfl
  have hsealed := StageModel.stageHash_finalize (M := linkageModel) p
  rw [hstore]
  by_cases hcreates : CreatesFile linkageModel objects args.caseId .linkage
    (linkageModel.finalize p) {}
  · rw [persistWriteOnce_of_creates hcreates]
    constructor
    · rintro ⟨body, hbody, hread⟩
      rw [Dict.get?_set, if_pos rfl] at hbody
      cases hbody
      cases (validateJson_serialize (s := .linkage) hsealed).symm.trans hread
      exact ⟨p, rfl, rfl, hchecks, hcreates.named⟩
    · rintro ⟨p', hp', rfl, -, -⟩
      cases hp'
      exact ⟨_, Dict.get?_set.trans (if_pos rfl), validateJson_serialize (s := .linkage) hsealed⟩
  · rw [persistWriteOnce_of_not_creates hcreates]
    refine iff_of_false hunchanged ?_
    rintro ⟨p', hp', rfl, -, hnamed⟩
    cases hp'
    exact hcreates ⟨hsealed, hnamed, hfree, rfl⟩

/-- A file that was not there is looked for, and then written. -/
theorem ensureTerminal_eq_persist
    (hfree : objects.get? (stageKey args.caseId .linkage) = none)
    (hnamed : PyText.isBlank args.caseId = false) :
    ensureTerminalLinkageStage args objects result {} =
      persistTerminalLinkageStage args objects result {} := by
  simp [ensureTerminalLinkageStage, readCasefileStageJsonOrNone, buildCasefileStageObjectKey,
    hnamed, getObjectBytes, hfree]

/-! ## The next call -/

omit [Platform] in
/-- A record in the table is found again, by the incident it is of. -/
theorem getOrCreatePending_found {table : LinkageTable} {caseId pdIncidentId : String}
    {incidentSysId : Option String} {window : Int} {now : DateTime}
    {row r pending : LinkageRetryRecord} (hrow : table.get? caseId = some row)
    (hvalid : row.validate = .ok r) (hpd : r.pdIncidentId = pdIncidentId)
    (hclock : createPendingLinkageRetryRecord caseId pdIncidentId incidentSysId window now =
      .ok pending) :
    getOrCreatePending table caseId pdIncidentId incidentSysId window now = (.ok r, table) := by
  have hfound : findOrInsert table caseId pdIncidentId pending = .ok (r, table) := by
    simp only [findOrInsert, getLinkageByCaseId, hrow, hvalid]
    simp [assertLinkageIdentity, hpd, raiseIf]
  simp only [getOrCreatePending, hclock, hfound, runLinkageTx]

/-- The call on a terminal record, when its file is not there. -/
theorem executeLinkage_terminal {table : LinkageTable} {row pending : LinkageRetryRecord}
    {attempt : Except Failure ServiceNowLinkageWriteResult} {now : LinkageTimes}
    (hrow : table.get? args.caseId = some row) (hvalid : row.validate = .ok r)
    (hpd : r.pdIncidentId = args.pdIncidentId) (hterminal : r.state.isTerminal = true)
    (hclock : createPendingLinkageRetryRecord args.caseId args.pdIncidentId args.incidentSysId
      policy.retryWindowMinutes now.created = .ok pending)
    (hfree : objects.get? (stageKey args.caseId .linkage) = none)
    (hnamed : PyText.isBlank args.caseId = false) :
    Stored linkageModel (executeServicenowLinkageAndPersist policy args attempt (some table) objects
        now {}).2.2 args.caseId .linkage c ↔
      ∃ rebuilt, buildTerminalLinkageResultFromRetryState r args.incidentSysId = .ok rebuilt ∧
        Stored linkageModel (persistTerminalLinkageStage args objects rebuilt {}).2 args.caseId
          .linkage c := by
  have hsettle : settleLinkage policy args attempt table now =
      ((LinkageRest.ensure · r) <$>
        buildTerminalLinkageResultFromRetryState r args.incidentSysId, table) := by
    simp only [settleLinkage, getOrCreatePending_found hrow hvalid hpd hclock, hterminal, if_true]
  rcases hbuild : buildTerminalLinkageResultFromRetryState r args.incidentSysId with e | rebuilt
  · refine iff_of_false ?_ ?_
    · simp only [executeServicenowLinkageAndPersist, hsettle, hbuild]
      rintro ⟨body, hbody, -⟩
      cases hfree.symm.trans hbody
    · rintro ⟨rebuilt, hrebuilt, -⟩
      cases hrebuilt
  · have hrest : settleLinkage policy args attempt table now =
        (.ok (.ensure rebuilt r), table) := by
      rw [hsettle, hbuild]
      rfl
    simp only [executeServicenowLinkageAndPersist, hrest]
    rw [LinkageRest.run_ensure, ensureTerminal_eq_persist hfree hnamed]
    constructor
    · exact fun h => ⟨rebuilt, rfl, h⟩
    · rintro ⟨_, hrebuilt, h⟩
      cases hrebuilt
      exact h

/-- The seal says nothing of the result. -/
theorem says_finalize : Says result incident (linkageModel.finalize p) ↔ Says result incident p :=
  ⟨fun ⟨h₁, h₂, h₃, h₄, h₅, h₆, h₇⟩ => ⟨h₁, h₂, h₃, h₄, h₅, h₆, h₇⟩,
    fun ⟨h₁, h₂, h₃, h₄, h₅, h₆, h₇⟩ => ⟨h₁, h₂, h₃, h₄, h₅, h₆, h₇⟩⟩

omit [Platform] in
/-- What is left to write is the result of the attempt. -/
theorem restOfOutcome_persist {resolved : ServiceNowLinkageWriteResult}
    (h : restOfOutcome result r = .persist resolved r) :
    (result.isLinked = false → r.state ≠ .failedTemp) ∧
      ∀ {incident p}, Says resolved incident p → Says result incident p := by
  unfold restOfOutcome at h
  split at h
  · next hlinked =>
    cases h
    exact ⟨fun hfailed => absurd hlinked (hfailed ▸ Bool.noConfusion),
      fun ⟨h₁, h₂, h₃, h₄, h₅, h₆, h₇⟩ => ⟨h₁, h₂, h₃, h₄, h₅, h₆, h₇⟩⟩
  · split at h
    · cases h
    · next hstate =>
      cases h
      exact ⟨fun _ => hstate,
        fun ⟨h₁, h₂, h₃, h₄, h₅, h₆, h₇⟩ => ⟨h₁, h₂, h₃, h₄, h₅, h₆, h₇⟩⟩

/-- The result of a terminal record says what the file of the attempt says exactly when the record
keeps it. -/
theorem rebuilt_says_iff (hkeeps : RecordKeeps result incident recorded r)
    (hfinal : result.isLinked = false → r.state ≠ .failedTemp)
    (hrecorded : ∀ s, recorded = some s → PyText.isBlank s = false ∧ PyText.strip s = s)
    (hsaid : Says result incident c) :
    (∃ rebuilt, buildTerminalLinkageResultFromRetryState r incident = .ok rebuilt ∧
      Says rebuilt incident c) ↔ Recoverable result incident recorded := by
  unfold Recoverable buildTerminalLinkageResultFromRetryState
  rcases hlinked : result.isLinked with _ | _
  · have hstate : r.state = .failedFinal :=
      (hkeeps.failed hlinked).1.resolve_left (hfinal hlinked)
    simp only [hstate, reduceCtorEq, if_false, Bool.false_eq_true]
    rw [← failure_says_iff hlinked hkeeps hsaid]
    constructor
    · rintro ⟨rebuilt, hrebuilt, h⟩
      split at hrebuilt
      · cases hrebuilt
      · next status hvalue =>
        cases hrebuilt
        obtain rfl : status = c.linkageStatus := h.status
        exact ⟨(StrEnum.ofValue?_eq_some.mp hvalue).symm, h⟩
    · rintro ⟨hstatus, h⟩
      refine ⟨_, ?_, h⟩
      rw [hstatus, show StrEnum.ofValue? c.linkageStatus.value = some c.linkageStatus from
        StrEnum.ofValue?_value c.linkageStatus]
  · have hstate : r.state = .linked := (hkeeps.linked hlinked).1
    simp only [hstate, if_true]
    rw [← linked_says_iff hlinked hkeeps hrecorded hsaid]
    constructor
    · rintro ⟨rebuilt, hrebuilt, h⟩
      cases hrebuilt
      exact h
    · exact fun h => ⟨_, rfl, h⟩

/-- **Recovery**: a process stops when the outcome of its attempt is in the record and its file is
not written. The next call with the same arguments writes the file that the uninterrupted run
writes if and only if the record keeps the result. -/
theorem linkage_recovered_iff {table : LinkageTable} {record pending : LinkageRetryRecord}
    {attempt : Except Failure ServiceNowLinkageWriteResult} {now later : LinkageTimes}
    (hrecord : (getOrCreatePending table args.caseId args.pdIncidentId args.incidentSysId
      policy.retryWindowMinutes now.created).1 = .ok record)
    (hopen : record.state.isTerminal = false)
    (hfree : objects.get? (stageKey args.caseId .linkage) = none)
    (hwritten : Stored linkageModel (executeServicenowLinkageAndPersist policy args (.ok result)
      (some table) objects now {}).2.2 args.caseId .linkage c)
    (hclock : createPendingLinkageRetryRecord args.caseId args.pdIncidentId args.incidentSysId
      policy.retryWindowMinutes later.created = .ok pending) :
    Stored linkageModel (executeServicenowLinkageAndPersist policy args attempt
        (some (settleLinkage policy args (.ok result) table now).2) objects later {}).2.2
        args.caseId .linkage c ↔
      Recoverable result args.incidentSysId record.incidentSysId := by
  have hunchanged : ¬Stored linkageModel objects args.caseId .linkage c := by
    rintro ⟨body, hbody, -⟩
    cases hfree.symm.trans hbody
  rcases hsettle : settleLinkage policy args (.ok result) table now with ⟨answer, table'⟩
  simp only [executeServicenowLinkageAndPersist, hsettle] at hwritten
  cases answer with
  | error e => exact absurd hwritten hunchanged
  | ok rest =>
    rcases settleLinkage_persists hrecord hopen hsettle with
      ⟨answer, rfl⟩ | ⟨resolved, r, rfl, hrest, hkeeps, hpd, next, hrow, hvalid⟩
    · exact absurd hwritten hunchanged
    · -- the uninterrupted run writes what its result says
      rw [LinkageRest.run_persist] at hwritten
      obtain ⟨p, hp, rfl, hlinks, hnamed⟩ := (stored_persistTerminal_iff hfree).mp hwritten
      have hsaid : Says result args.incidentSysId (linkageModel.finalize p) :=
        says_finalize.mpr ((restOfOutcome_persist hrest).2 (linkagePlaceholder_ok hp).2.2.2)
      have hfinal := (restOfOutcome_persist hrest).1
      have hterminal : r.state.isTerminal = true := by
        rcases hlinked : result.isLinked with _ | _
        · rw [(hkeeps.failed hlinked).1.resolve_left (hfinal hlinked)]
          rfl
        · rw [(hkeeps.linked hlinked).1]
          rfl
      have hrecorded : ∀ s, record.incidentSysId = some s →
          PyText.isBlank s = false ∧ PyText.strip s = s := by
        obtain ⟨-, row, -, hread⟩ := getOrCreatePending_ok (Prod.ext hrecord rfl)
        exact fun s hs => LinkageRetryRecord.incident_named hread hs
      rw [executeLinkage_terminal hrow hvalid hpd hterminal hclock hfree hnamed,
        ← rebuilt_says_iff hkeeps hfinal hrecorded hsaid]
      refine exists_congr fun rebuilt => and_congr_right fun _ => ?_
      rw [stored_persistTerminal_iff hfree]
      constructor
      · rintro ⟨p', hp', hsame, -, -⟩
        rw [hsame]
        exact says_finalize.mpr (linkagePlaceholder_ok hp').2.2.2
      · intro h
        exact ⟨p, (linkagePlaceholder_saying hp).mpr (says_finalize.mp h), rfl, hlinks, hnamed⟩

/-! ## One case -/

/-- The linkage of the orders case. -/
def ordersLinkage : LinkageArguments where
  caseId := ordersTriage.caseId
  pdIncidentId := "pd-1"
  incidentSysId := some "inc-1"
  triageHash := ordersHash.val

omit [Platform] in
/-- The contract of ServiceNow with its defaults. -/
def defaultLinkagePolicy : LinkageRetryPolicy := {}

omit [Platform] in
/-- Every reading of the clock. -/
def atNewYear : LinkageTimes :=
  ⟨.aware newYear2026, .aware newYear2026, .aware newYear2026, .aware newYear2026⟩

omit [Platform] in
/-- The record of the orders case before its attempt. -/
def pendingOrders : LinkageRetryRecord where
  caseId := ordersTriage.caseId
  pdIncidentId := "pd-1"
  incidentSysId := some "inc-1"
  state := .pending
  attemptCount := 0
  retryWindowMinutes := 120
  firstAttemptAt := newYear2026
  updatedAt := newYear2026
  deadlineAt := newYear2026 + 7200000000
  nextAttemptAt := none
  requestId := none
  lastErrorCode := none
  lastErrorMessage := none
  lastRetryAfterSeconds := none
  lastReasonMetadata := Dict.empty

omit [Platform] in
/-- The record after a result that counts as linked. -/
def settledOrders (result : ServiceNowLinkageWriteResult) : LinkageRetryRecord :=
  linkedRecord pendingOrders (some result.requestId) (some "inc-1")
    (buildLinkedRetryReasonMetadata result) newYear2026

/-- The store after a call with an empty table. -/
def ordersUninterrupted (result : ServiceNowLinkageWriteResult) : ObjectStore :=
  (executeServicenowLinkageAndPersist defaultLinkagePolicy ordersLinkage (.ok result) (some .empty)
    ordersStore atNewYear {}).2.2

/-- The store after a call that stopped before the file, and the next call. -/
def ordersRecovered (result : ServiceNowLinkageWriteResult) : ObjectStore :=
  (executeServicenowLinkageAndPersist defaultLinkagePolicy ordersLinkage (.ok result)
    (some (settleLinkage defaultLinkagePolicy ordersLinkage (.ok result) .empty atNewYear).2)
    ordersStore atNewYear {}).2.2

theorem ordersStore_free : ordersStore.get? (stageKey ordersLinkage.caseId .linkage) = none := by
  rw [ordersStore, Dict.get?_set, if_neg]
  · rfl
  · intro hkey
    cases (stageKey_inj hkey).1

/-- The file of a result of the orders case is written. -/
theorem ordersFile_stored (h : (linkagePlaceholder ordersLinkage result).isOk = true) :
    ∃ c, Stored linkageModel (persistTerminalLinkageStage ordersLinkage ordersStore result {}).2
      ordersLinkage.caseId .linkage c ∧ Says result ordersLinkage.incidentSysId c := by
  rcases hp : linkagePlaceholder ordersLinkage result with e | p
  · rw [hp] at h
    cases h
  obtain ⟨hcase, htriage, hdiagnosis, hsaid⟩ := linkagePlaceholder_ok hp
  have hnamed : PyText.isBlank ordersTriage.caseId = false := by decide
  have hid : AppendedStage.linkage.caseId (linkageModel.finalize p) = ordersTriage.caseId := hcase
  have hhash : AppendedStage.linkage.triageHash (linkageModel.finalize p) =
      (triageModel.wired (triageModel.finalize ordersTriage)).triageHash := Subtype.ext htriage
  have hnone : AppendedStage.linkage.namedDiagnosis (linkageModel.finalize p) = none :=
    Option.map_eq_none_iff.mp hdiagnosis
  have hlinks : validateStageHashes .linkage ordersStore (linkageModel.finalize p) {} = .ok () :=
    validateStageHashes_returns (StageModel.stageHash_finalize p) (hid ▸ hnamed)
      (hid ▸ ordersStore_stored) hhash hnone
  exact ⟨_, (stored_persistTerminal_iff ordersStore_free).mpr ⟨p, hp, rfl, hlinks, hnamed⟩,
    says_finalize.mpr hsaid⟩

/-- The uninterrupted run writes the file of its result. -/
theorem ordersUninterrupted_eq {resolved : ServiceNowLinkageWriteResult}
    (h : (settleLinkage defaultLinkagePolicy ordersLinkage (.ok result) .empty atNewYear).1 =
      .ok (.persist resolved r)) :
    ordersUninterrupted result =
      (persistTerminalLinkageStage ordersLinkage ordersStore resolved {}).2 := by
  unfold ordersUninterrupted
  rcases hsettle : settleLinkage defaultLinkagePolicy ordersLinkage (.ok result) .empty atNewYear
    with ⟨answer, table⟩
  rw [hsettle] at h
  obtain rfl : answer = .ok (.persist resolved r) := h
  simp only [executeServicenowLinkageAndPersist, hsettle]
  exact LinkageRest.run_persist ordersLinkage

/-- The next call writes the file of the result that is built again. -/
theorem ordersRecovered_stored {resolved rebuilt : ServiceNowLinkageWriteResult}
    (hrecord : (getOrCreatePending .empty ordersLinkage.caseId ordersLinkage.pdIncidentId
      ordersLinkage.incidentSysId defaultLinkagePolicy.retryWindowMinutes atNewYear.created).1 =
      .ok pendingOrders)
    (hclock : createPendingLinkageRetryRecord ordersLinkage.caseId ordersLinkage.pdIncidentId
      ordersLinkage.incidentSysId defaultLinkagePolicy.retryWindowMinutes atNewYear.created =
      .ok pendingOrders)
    (hsettle : (settleLinkage defaultLinkagePolicy ordersLinkage (.ok result) .empty atNewYear).1 =
      .ok (.persist resolved r))
    (hterminal : r.state.isTerminal = true)
    (hbuild : buildTerminalLinkageResultFromRetryState r ordersLinkage.incidentSysId = .ok rebuilt)
    (hc : Stored linkageModel (persistTerminalLinkageStage ordersLinkage ordersStore rebuilt {}).2
      ordersLinkage.caseId .linkage c) :
    Stored linkageModel (ordersRecovered result) ordersLinkage.caseId .linkage c := by
  have hnamed : PyText.isBlank ordersTriage.caseId = false := by decide
  unfold ordersRecovered
  rcases hcall : settleLinkage defaultLinkagePolicy ordersLinkage (.ok result) .empty atNewYear
    with ⟨answer, table⟩
  rw [hcall] at hsettle
  obtain rfl : answer = .ok (.persist resolved r) := hsettle
  rcases settleLinkage_persists hrecord rfl hcall with
    ⟨answer, hreturns⟩ | ⟨_, _, hpersist, -, -, hpd, next, hrow, hvalid⟩
  · cases hreturns
  · cases hpersist
    rw [executeLinkage_terminal hrow hvalid hpd hterminal hclock ordersStore_free hnamed]
    exact ⟨rebuilt, hbuild, hc⟩

end Recovery

/-- What a client that is off answers. -/
def modeOff : ServiceNowLinkageWriteResult where
  linkageStatus := .skipped
  linkageReason := "mode_off"
  requestId := "req-1"
  incidentSysId := some "inc-1"
  problemExternalId := some "aiops:problem:case-orders:pd-1:000000000000"

/-- The uninterrupted run writes that the linkage was skipped, the next call that it is there. -/
theorem skipped_recovered_as_linked :
    let := asciiPlatform []
    ∃ c c', Stored linkageModel (ordersUninterrupted modeOff) ordersLinkage.caseId .linkage c ∧
      Stored linkageModel (ordersRecovered modeOff) ordersLinkage.caseId .linkage c' ∧
      c.linkageStatus = .skipped ∧ c'.linkageStatus = .linked := by
  intro _
  have hsettle : (settleLinkage defaultLinkagePolicy ordersLinkage (.ok modeOff) .empty
      atNewYear).1 = .ok (.persist { modeOff with
        linkageState := some .linked
        retryable := some false } (settledOrders modeOff)) := by decide +kernel
  have hrecord : (getOrCreatePending .empty ordersLinkage.caseId ordersLinkage.pdIncidentId
      ordersLinkage.incidentSysId defaultLinkagePolicy.retryWindowMinutes atNewYear.created).1 =
      .ok pendingOrders := by decide +kernel
  have hclock : createPendingLinkageRetryRecord ordersLinkage.caseId ordersLinkage.pdIncidentId
      ordersLinkage.incidentSysId defaultLinkagePolicy.retryWindowMinutes atNewYear.created =
      .ok pendingOrders := by decide +kernel
  have hlinked : (settledOrders modeOff).state = .linked := rfl
  have hbuild : buildTerminalLinkageResultFromRetryState (settledOrders modeOff)
      ordersLinkage.incidentSysId = .ok (terminalResult (settledOrders modeOff)
        ordersLinkage.incidentSysId .linked "already_linked" .linked) := if_pos hlinked
  -- the file of the result, and that of the result which is built again
  have hfile : (linkagePlaceholder ordersLinkage { modeOff with
      linkageState := some .linked
      retryable := some false }).isOk = true := by decide +kernel
  have hfile' : (linkagePlaceholder ordersLinkage (terminalResult (settledOrders modeOff)
      ordersLinkage.incidentSysId .linked "already_linked" .linked)).isOk = true := by
    decide +kernel
  obtain ⟨c, hc, hsaid⟩ := ordersFile_stored hfile
  obtain ⟨c', hc', hsaid'⟩ := ordersFile_stored hfile'
  refine ⟨c, c', ?_, ?_, hsaid.status.symm, hsaid'.status.symm⟩
  · rw [ordersUninterrupted_eq hsettle]
    exact hc
  · exact ordersRecovered_stored hrecord hclock hsettle rfl hbuild hc'

/-- What a client answers that has linked the case. -/
def linkedOrders : ServiceNowLinkageWriteResult where
  linkageStatus := .linked
  linkageReason := "linked"
  requestId := "req-1"
  incidentSysId := some "inc-1"
  problemSysId := some "prb-1"
  problemExternalId := some "aiops:problem:case-orders:pd-1:000000000000"
  pirTaskSysIds := ["ptsk-1"]
  pirTaskExternalIds := ["aiops:pir-task:case-orders:pd-1:000000000000:pir"]

/-- A linked result is recovered. -/
theorem linkage_recovered_orders :
    let := asciiPlatform []
    ∃ c, Stored linkageModel (ordersUninterrupted linkedOrders) ordersLinkage.caseId .linkage c ∧
      Stored linkageModel (ordersRecovered linkedOrders) ordersLinkage.caseId .linkage c ∧
      c.pirTaskSysIds.map Subtype.val = ["ptsk-1"] := by
  intro _
  have hsettle : (settleLinkage defaultLinkagePolicy ordersLinkage (.ok linkedOrders) .empty
      atNewYear).1 = .ok (.persist { linkedOrders with
        linkageState := some .linked
        retryable := some false } (settledOrders linkedOrders)) := by decide +kernel
  have hrecord : (getOrCreatePending .empty ordersLinkage.caseId ordersLinkage.pdIncidentId
      ordersLinkage.incidentSysId defaultLinkagePolicy.retryWindowMinutes atNewYear.created).1 =
      .ok pendingOrders := by decide +kernel
  have hclock : createPendingLinkageRetryRecord ordersLinkage.caseId ordersLinkage.pdIncidentId
      ordersLinkage.incidentSysId defaultLinkagePolicy.retryWindowMinutes atNewYear.created =
      .ok pendingOrders := by decide +kernel
  have hopen : pendingOrders.state.isTerminal = false := rfl
  have hkept : Recoverable linkedOrders ordersLinkage.incidentSysId
      pendingOrders.incidentSysId := by
    have hlinked : linkedOrders.isLinked = true := rfl
    rw [Recoverable, if_pos hlinked]
    exact ⟨rfl, by decide, fun hnone => by cases hnone⟩
  have hfile : (linkagePlaceholder ordersLinkage { linkedOrders with
      linkageState := some .linked
      retryable := some false }).isOk = true := by decide +kernel
  obtain ⟨c, hc, hsaid⟩ := ordersFile_stored hfile
  have htasks : linkedOrders.pirTaskSysIds.map PyText.strip = ["ptsk-1"] := by decide
  rw [← ordersUninterrupted_eq hsettle] at hc
  refine ⟨c, hc, ?_, ?_⟩
  · rw [ordersUninterrupted] at hc
    rw [ordersRecovered, linkage_recovered_iff hrecord hopen ordersStore_free hc hclock]
    exact hkept
  · rw [← hsaid.tasks]
    exact htasks

end AiopsTriage
