import AiopsTriage.Linkage.Attempt

/-!
# ServiceNow upserts

A Problem or PIR task is keyed by an `external_id` built from the case
(`UpsertKey.externalId`). An upsert looks the id up, and then creates a record or
updates the one it found. The query language separates its clauses by `^`, so the
client takes that character out of the id it looks up (`escapeQueryValue`); the record
is posted with the id as it is.

The two halves, the `GET` and the write, are separate, because other requests may come
between them. What the network does to a request is an input.
-/

namespace AiopsTriage

/-! ## Errors -/

section Errors

variable [Platform]

/-- `_extract_error_code`. -/
def extractErrorCode (error : String) : Option String :=
  errorCodeOf ["connection refused", "connection reset", "connection aborted"] error

/-- `_extract_retry_after_seconds`. -/
def extractRetryAfterSeconds (error : String) : Option Int := do
  let rest ← PyText.afterChars "retry_after_seconds=".toList error.toList
  let parsed ← PyText.parseInt (String.ofList (PyText.beforeChar ';' rest))
  if 0 < parsed then some parsed else none

/-- `_build_error_metadata`. -/
def buildErrorMetadata (error : String) : Dict String Json :=
  if error = "" then Dict.empty
  else Dict.ofPairs ([("error", .str error)] ++ textEntry "error_code" (extractErrorCode error) ++
    (extractRetryAfterSeconds error).toList.map fun n => ("retry_after_seconds", .int n))

/-- What the client and the linkage stage both take for a failed connection. -/
def sharedConnectionMarkers : List String :=
  ["connection refused", "connection reset", "connection aborted"]

/-- One more marker of a failed connection matters to a text in which no other marker is. -/
theorem errorCodeOf_append_eq_iff {markers : List String} {marker errorMessage : String} :
    errorCodeOf markers errorMessage = errorCodeOf (markers ++ [marker]) errorMessage ↔
      PyText.contains marker (Platform.lower errorMessage) = false ∨
        ∃ m ∈ rateLimitMarkers ++ serverErrorMarkers ++ ["timed out", "timeout"] ++ markers,
          PyText.contains m (Platform.lower errorMessage) = true := by
  simp only [errorCodeOf, List.any_append, List.mem_append, or_and_right, exists_or,
    ← List.any_eq_true]
  by_cases hrate : rateLimitMarkers.any (PyText.contains · (Platform.lower errorMessage))
  · simp [hrate]
  by_cases hserver : serverErrorMarkers.any (PyText.contains · (Platform.lower errorMessage))
  · simp [hrate, hserver]
  by_cases htimeout : ["timed out", "timeout"].any (PyText.contains · (Platform.lower errorMessage))
  · simp only [if_neg hrate, if_neg hserver, if_pos htimeout, true_iff]
    exact .inr (.inl (.inr htimeout))
  by_cases hconnection : markers.any (PyText.contains · (Platform.lower errorMessage))
  · simp [hrate, hserver, hconnection]
  -- none of the markers that both have is in the text
  · have hnone : ¬ (((rateLimitMarkers.any (PyText.contains · (Platform.lower errorMessage)) ∨
        serverErrorMarkers.any (PyText.contains · (Platform.lower errorMessage))) ∨
        ["timed out", "timeout"].any (PyText.contains · (Platform.lower errorMessage))) ∨
        markers.any (PyText.contains · (Platform.lower errorMessage))) := by
      rintro (((h | h) | h) | h)
      · exact hrate h
      · exact hserver h
      · exact htimeout h
      · exact hconnection h
    rw [or_iff_left hnone]
    cases hmarker : PyText.contains marker (Platform.lower errorMessage) with
    | false => simp [hrate, hserver, htimeout, hconnection, hmarker]
    | true => simp [hrate, hserver, htimeout, hconnection, hmarker]

/-- **The two classifiers** of error texts agree exactly on the texts that do not say
`temporarily unavailable`, or that have a marker both know. -/
theorem errorClassifiers_agree_iff (error : String) :
    (extractErrorCode error = inferErrorCode error ∧
      extractRetryAfterSeconds error = inferRetryAfterSeconds error) ↔
      PyText.contains "temporarily unavailable" (Platform.lower error) = false ∨
        ∃ m ∈ rateLimitMarkers ++ serverErrorMarkers ++ ["timed out", "timeout"] ++
            sharedConnectionMarkers, PyText.contains m (Platform.lower error) = true := by
  have hretry : extractRetryAfterSeconds error = inferRetryAfterSeconds error := rfl
  rw [and_iff_left hretry]
  exact errorCodeOf_append_eq_iff

omit [Platform] in
theorem errorClassifiers_differ :
    let _ := asciiPlatform []
    extractErrorCode "reason=Service Temporarily Unavailable" = none ∧
      inferErrorCode "reason=Service Temporarily Unavailable" = some "connection_error" ∧
      ¬ ∀ error : String, extractErrorCode error = inferErrorCode error ∧
        extractRetryAfterSeconds error = inferRetryAfterSeconds error := by
  intro _
  have hclient : extractErrorCode "reason=Service Temporarily Unavailable" = none := by
    decide +kernel
  have hstage : inferErrorCode "reason=Service Temporarily Unavailable" =
      some "connection_error" := by decide +kernel
  refine ⟨hclient, hstage, fun h => ?_⟩
  have hsame := (h "reason=Service Temporarily Unavailable").1
  rw [hclient, hstage] at hsame
  cases hsame

end Errors

/-! ## External ids -/

/-- What an upsert is for. -/
inductive UpsertKey where
  /-- the Problem of a case and incident -/
  | problem (caseId pdIncidentId : String)
  /-- a PIR task of a case and incident -/
  | pirTask (caseId pdIncidentId taskType : String)
  deriving DecidableEq, Repr

/-- The table names of `ServiceNowLinkageContractV1` and its bound on a lookup. -/
structure UpsertContract where
  /-- where Problems are -/
  problemTable : String := "problem"
  /-- where PIR tasks are -/
  pirTaskTable : String := "problem_task"
  /-- how many records a lookup asks for -/
  maxUpsertLookupResults : Nat := 5
  /-- `ge=1, le=100` -/
  lookup_ok : 1 ≤ maxUpsertLookupResults ∧ maxUpsertLookupResults ≤ 100 := by decide

/-- The table an upsert writes to. -/
def UpsertKey.table (contract : UpsertContract) : UpsertKey → String
  | .problem _ _ => contract.problemTable
  | .pirTask _ _ _ => contract.pirTaskTable

/-- `_build_external_id`. -/
def buildExternalId [Platform] (kind caseId pdIncidentId : String) (taskType : Option String) :
    String :=
  let normalizedCaseId := PyText.strip caseId
  let normalizedPdIncidentId := PyText.strip pdIncidentId
  let normalizedTaskType := (taskType.map PyText.strip).filter (· ≠ "")
  let baseParts := [normalizedCaseId, normalizedPdIncidentId] ++ normalizedTaskType.toList
  let digest := String.ofList
    ((sha256Hex (.utf8 (PyText.join "|" baseParts))).val.toList.take 12)
  match normalizedTaskType with
  | some task =>
    s!"aiops:{kind}:{normalizedCaseId}:{normalizedPdIncidentId}:{digest}:{task}"
  | none => s!"aiops:{kind}:{normalizedCaseId}:{normalizedPdIncidentId}:{digest}"

/-- `build_problem_external_id`, `build_pir_task_external_id`. -/
def UpsertKey.externalId [Platform] : UpsertKey → String
  | .problem caseId pdIncidentId => buildExternalId "problem" caseId pdIncidentId none
  | .pirTask caseId pdIncidentId taskType =>
    buildExternalId "pir-task" caseId pdIncidentId (some taskType)

/-- `_escape_query_value`. -/
def escapeQueryValue (value : String) : String :=
  String.ofList (value.toList.filter (· ≠ '^'))

/-- Escaping leaves a text alone exactly when it holds no separator. -/
theorem escapeQueryValue_eq_self {value : String} :
    escapeQueryValue value = value ↔ '^' ∉ value.toList := by
  rw [escapeQueryValue, ← String.toList_inj, String.toList_ofList, List.filter_eq_self]
  constructor
  · intro h hmem
    exact absurd (h _ hmem) (by decide)
  · intro h c hc
    rw [decide_eq_true_eq]
    rintro rfl
    exact h hc

/-- The digest in an id is hexadecimal. -/
theorem caret_notMem_digest [Platform] (payload : Bytes) :
    '^' ∉ (sha256Hex payload).val.toList.take 12 := by
  intro hmem
  have hhex := (sha256Hex payload).property
  rw [isHex64, Bool.and_eq_true, List.all_eq_true] at hhex
  exact absurd (hhex.2 '^' (List.mem_of_mem_take hmem)) (by decide)

/-- The separator comes into the id of a Problem with the case or the incident. -/
theorem caret_mem_problem [Platform] {caseId pdIncidentId : String} :
    '^' ∈ (UpsertKey.problem caseId pdIncidentId).externalId.toList ↔
      '^' ∈ (PyText.strip caseId).toList ∨ '^' ∈ (PyText.strip pdIncidentId).toList := by
  have hdigest := caret_notMem_digest
    (.utf8 (PyText.join "|" [PyText.strip caseId, PyText.strip pdIncidentId]))
  have htext : ∀ s : String, toString s = s := fun _ => rfl
  simp [UpsertKey.externalId, buildExternalId, htext, hdigest]

/-! ## Tables -/

/-- A `sys_id`, which ServiceNow never leaves blank. -/
abbrev SysId := { s : String // s ≠ "" }

/-- A table of ServiceNow, as far as upserts read it: the external id of each record. -/
abbrev SnTable := Dict SysId String

/-- The records that carry an external id. -/
abbrev carriers (id : String) (table : SnTable) : List SysId := table.keysOf id

/-- How ServiceNow names a new record: by a `sys_id` that no record has. -/
structure SysIdSource where
  /-- the next `sys_id` -/
  next : SnTable → SysId
  /-- which is new -/
  fresh : ∀ table : SnTable, table.get? (next table) = none

/-! ## One upsert -/

/-- What becomes of a `POST` or `PATCH`. -/
inductive WriteFate where
  /-- it did not take effect, and the client sees this error -/
  | refused (error : String)
  /-- it took effect, but the client sees this error -/
  | lost (error : String)
  /-- it took effect, and this is the `sys_id` in the answer -/
  | answered (sysId : Option String)
  deriving DecidableEq, Repr

/-- Whether the write took effect. -/
def WriteFate.tookEffect : WriteFate → Bool
  | .refused _ => false
  | .lost _ => true
  | .answered _ => true

/-- The error `_request_record_mutation` returns; an empty text is none. -/
def WriteFate.error : WriteFate → String
  | .refused error => error
  | .lost error => error
  | .answered _ => ""

/-- The `sys_id` in the result `_request_record_mutation` returns. -/
def WriteFate.sysId : WriteFate → Option String
  | .answered sysId => sysId
  | _ => none

/-- One call of `_upsert_record`: its request id, and what becomes of its requests. -/
structure UpsertCall where
  /-- the request id of the caller -/
  requestId : String
  /-- the error of the `GET`, when it fails -/
  lookupError : Option String
  /-- the fate of the write -/
  fate : WriteFate
  deriving DecidableEq, Repr

/-- `_UpsertOutcome`, in the mode that sends requests. -/
inductive UpsertOutcome where
  /-- a record was created -/
  | created
  /-- a record was updated -/
  | updated
  /-- a request failed -/
  | failed
  deriving DecidableEq, Repr

/-- `ServiceNowUpsertResult`. -/
structure ServiceNowUpsertResult where
  /-- the table -/
  table : String
  /-- the id -/
  externalId : String
  /-- what came of the upsert -/
  outcome : UpsertOutcome
  /-- why -/
  reason : String
  /-- the request id of the caller -/
  requestId : String
  /-- the record -/
  sysId : Option String
  /-- what is known of an error -/
  reasonMetadata : Dict String Json
  deriving DecidableEq, Repr

/-- The records that a lookup of an id finds: those that carry the escaped id, as many as
the contract asks for. -/
def upsertLookup (contract : UpsertContract) (id : String) (table : SnTable) : List SysId :=
  (carriers (escapeQueryValue id) table).take contract.maxUpsertLookupResults

/-- The `GET` of `_upsert_record`. A failed one returns no records, and its error counts
only when it has a text. -/
def upsertGet (contract : UpsertContract) (id : String) (call : UpsertCall) (table : SnTable) :
    Except String (List SysId) :=
  match call.lookupError with
  | none => .ok (upsertLookup contract id table)
  | some error => if error = "" then .ok [] else .error error

/-- `_extract_existing_sys_id`. -/
def extractExistingSysId : List SysId → Except String (Option SysId)
  | [] => .ok none
  | [sysId] => .ok (some sysId)
  | sysIds => .error ("multiple existing records found for external_id: " ++
      PyText.join "," ((sysIds.map Subtype.val).insertionSort (· ≤ ·)))

/-- The answer of a failed upsert. -/
def failedUpsert [Platform] (contract : UpsertContract) (key : UpsertKey) (call : UpsertCall)
    (reason error : String) : ServiceNowUpsertResult where
  table := key.table contract
  externalId := key.externalId
  outcome := .failed
  reason := reason
  requestId := call.requestId
  sysId := none
  reasonMetadata := buildErrorMetadata error

/-- The answer of an upsert that wrote. -/
def writtenUpsert [Platform] (contract : UpsertContract) (key : UpsertKey) (call : UpsertCall)
    (outcome : UpsertOutcome) (reason sysId : String) : ServiceNowUpsertResult where
  table := key.table contract
  externalId := key.externalId
  outcome := outcome
  reason := reason
  requestId := call.requestId
  sysId := some sysId
  reasonMetadata := Dict.empty

/-- The table after a write that may not have taken effect. -/
def WriteFate.apply (fate : WriteFate) (table written : SnTable) : SnTable :=
  if fate.tookEffect then written else table

/-- The table after the write of `_upsert_record`: a `POST` with the id as it is when there
was no record, else a `PATCH` of the record. -/
def upsertTable (server : SysIdSource) (id : String) (fate : WriteFate)
    (existing : Except String (Option SysId)) (table : SnTable) : SnTable :=
  match existing with
  | .error _ => table
  | .ok none => fate.apply table (table.set (server.next table) id)
  | .ok (some sysId) =>
    fate.apply table (if (table.get? sysId).isSome then table.set sysId id else table)

/-- The answer of `_upsert_record`. -/
def upsertAnswer [Platform] (contract : UpsertContract) (key : UpsertKey) (call : UpsertCall)
    (existing : Except String (Option SysId)) : ServiceNowUpsertResult :=
  match existing with
  | .error error => failedUpsert contract key call "lookup_error" error
  | .ok none =>
    if call.fate.error ≠ "" then failedUpsert contract key call "create_error" call.fate.error
    else
      match call.fate.sysId with
      | none => failedUpsert contract key call "create_error" "missing_sys_id"
      | some sysId => writtenUpsert contract key call .created "created" sysId
  | .ok (some sysId) =>
    if call.fate.error ≠ "" then failedUpsert contract key call "update_error" call.fate.error
    else writtenUpsert contract key call .updated "updated"
      ((call.fate.sysId.filter (· ≠ "")).getD sysId.val)

end AiopsTriage
