import AiopsTriage.Linkage.StateMachine

/-!
# Outcome of a linkage attempt

What the ServiceNow client answers to an attempt (`ServiceNowLinkageWriteResult`), and
the transition the linkage stage makes of it: a linked or skipped case is `LINKED`, and
every other answer is classified by its error code or, without one, by the text of its
error (`classifyFailureFromLinkageResult`).
-/

namespace AiopsTriage

/-- `_LinkageStatus`, also that of `CaseFileLinkageV1`. -/
inductive LinkageStatus where
  /-- the Problem and the tasks are there -/
  | linked
  /-- there is no incident to link to -/
  | notLinked
  /-- the client does not write in its mode -/
  | skipped
  /-- a request failed -/
  | failed
  deriving DecidableEq, Repr

/-- The text of a status. -/
def LinkageStatus.value : LinkageStatus → String
  | .linked => "linked"
  | .notLinked => "not-linked"
  | .skipped => "skipped"
  | .failed => "failed"

/-- `ServiceNowLinkageWriteResult`. -/
structure ServiceNowLinkageWriteResult where
  /-- what came of the attempt -/
  linkageStatus : LinkageStatus
  /-- why -/
  linkageReason : String
  /-- the request -/
  requestId : String
  /-- the incident -/
  incidentSysId : Option String := none
  /-- the Problem -/
  problemSysId : Option String := none
  /-- the key of the Problem -/
  problemExternalId : Option String := none
  /-- the PIR tasks -/
  pirTaskSysIds : List String := []
  /-- the keys of the PIR tasks -/
  pirTaskExternalIds : List String := []
  /-- the state of the retry record -/
  linkageState : Option LinkageRetryState := none
  /-- whether another attempt is due -/
  retryable : Option Bool := none
  /-- when -/
  nextAttemptAt : Option Instant := none
  /-- what else is known -/
  reasonMetadata : Dict String Json := Dict.empty
  deriving DecidableEq, Repr

/-! ## Reading metadata -/

/-- `bool(value)`. -/
def pyTruthy : Json → Bool
  | .null => false
  | .bool b => b
  | .int n => n ≠ 0
  | .float x => x ≠ .finite 0
  | .str s => s ≠ ""
  | .arr items => !items.isEmpty
  | .obj fields => !fields.isEmpty

/-- `_as_non_empty_string`. -/
def asNonEmptyString [Platform] : Option Json → Option String
  | none => none
  | some .null => none
  | some value =>
    if PyText.isBlank (pyStr value) then none else some (PyText.strip (pyStr value))

/-- `int(value)`: `none` for a `TypeError` or a `ValueError`; an infinite float raises an
`OverflowError`. -/
def pyInt : Json → Except Failure (Option Int)
  | .null => .ok none
  | .bool b => .ok (some (if b then 1 else 0))
  | .int n => .ok (some n)
  | .float (.finite q) => .ok (some (if q < 0 then -⌊-q⌋ else ⌊q⌋))
  | .float .nan => .ok none
  | .float .posInf => .error .overflowError
  | .float .negInf => .error .overflowError
  | .str s => .ok (PyText.parseInt s)
  | .arr _ => .ok none
  | .obj _ => .ok none

/-- `_as_positive_int`. -/
def asPositiveInt : Option Json → Except Failure (Option Int)
  | none => .ok none
  | some value => (Option.filter (0 < ·)) <$> pyInt value

/-- `_as_string_tuple`. -/
def asStringTuple [Platform] : Option Json → List String
  | some (.arr items) => (items.map pyStr).filter fun s => !PyText.isBlank s
  | some (.str s) => if PyText.isBlank s then [] else [PyText.strip s]
  | _ => []

/-! ## Classifying errors -/

/-- The markers of a rate limit in an error text. -/
def rateLimitMarkers : List String := ["http_status=429", "http error 429"]

/-- The markers of a server error in an error text. -/
def serverErrorMarkers : List String :=
  ["http_status=500", "http_status=502", "http_status=503", "http_status=504",
    "http error 500", "http error 502", "http error 503", "http error 504"]

/-- The code of an error text, given the markers of a connection error. -/
def errorCodeOf [Platform] (connectionMarkers : List String) (errorMessage : String) :
    Option String :=
  let normalized := Platform.lower errorMessage
  if rateLimitMarkers.any (PyText.contains · normalized) then some "http_429"
  else if serverErrorMarkers.any (PyText.contains · normalized) then some "http_5xx"
  else if ["timed out", "timeout"].any (PyText.contains · normalized) then some "timeout"
  else if connectionMarkers.any (PyText.contains · normalized) then some "connection_error"
  else none

/-- `_infer_error_code`. -/
def inferErrorCode [Platform] (errorMessage : String) : Option String :=
  errorCodeOf ["connection refused", "connection reset", "connection aborted",
    "temporarily unavailable"] errorMessage

/-- `_infer_retry_after_seconds`. -/
def inferRetryAfterSeconds (errorMessage : String) : Option Int := do
  let rest ← PyText.afterChars "retry_after_seconds=".toList errorMessage.toList
  let parsed ← PyText.parseInt (String.ofList (PyText.beforeChar ';' rest))
  if 0 < parsed then some parsed else none

/-- `_classify_failure_from_linkage_result`, with the request of the result, which the
stage passes on beside it. -/
def classifyFailureFromLinkageResult [Platform] (result : ServiceNowLinkageWriteResult)
    (transientErrorClassifications : List String) : Except Failure LinkageFailure := do
  let metadata := result.reasonMetadata
  let errorMessage :=
    match (metadata.get? "error").filter pyTruthy with
    | some error => pyStr error
    | none => result.linkageReason
  let errorCode := ((asNonEmptyString (metadata.get? "error_code")).or
    (inferErrorCode errorMessage)).getD result.linkageReason
  let retryAfter ← asPositiveInt (metadata.get? "retry_after_seconds")
  let retryAfterSeconds := retryAfter.or (inferRetryAfterSeconds errorMessage)
  let coded := metadata.set "error_code" (.str errorCode)
  return {
    transient := errorCode ∈ transientErrorClassifications
    errorCode := errorCode
    errorMessage := errorMessage
    requestId := some result.requestId
    retryAfterSeconds := retryAfterSeconds
    reasonMetadata :=
      match retryAfterSeconds with
      | some n => coded.set "retry_after_seconds" (.int n)
      | none => coded }

/-! ## The transition of an outcome -/

/-- A text as a JSON entry, absent when there is none. -/
def textEntry (key : String) (value : Option String) : List (String × Json) :=
  value.toList.map fun s => (key, .str s)

/-- A list of texts as a JSON entry, absent when it is empty. -/
def textsEntry (key : String) (values : List String) : List (String × Json) :=
  if values = [] then [] else [(key, .arr (values.map .str))]

/-- `_build_linked_retry_reason_metadata`. -/
def buildLinkedRetryReasonMetadata (result : ServiceNowLinkageWriteResult) : Dict String Json :=
  Dict.ofPairs ([("linkage_status", .str result.linkageStatus.value),
      ("linkage_reason", .str result.linkageReason)] ++
    textEntry "problem_sys_id" result.problemSysId ++
    textEntry "problem_external_id" result.problemExternalId ++
    textsEntry "pir_task_sys_ids" result.pirTaskSysIds ++
    textsEntry "pir_task_external_ids" result.pirTaskExternalIds)

/-- Whether a result counts as linked: `linkage_status in {"linked", "skipped"}`. -/
def ServiceNowLinkageWriteResult.isLinked (result : ServiceNowLinkageWriteResult) : Bool :=
  result.linkageStatus = .linked || result.linkageStatus = .skipped

/-- The transition that the stage computes from the result of an attempt. -/
def outcomeTransition [Platform] (policy : LinkageRetryPolicy) (record : LinkageRetryRecord)
    (incidentSysId : Option String) (result : ServiceNowLinkageWriteResult) (now : DateTime) :
    Except Failure LinkageRetryRecord :=
  if result.isLinked then
    markLinkageSuccess record (some result.requestId) (orText result.incidentSysId incidentSysId)
      (buildLinkedRetryReasonMetadata result) now
  else do
    let failure ← classifyFailureFromLinkageResult result policy.transientErrorClassifications
    markLinkageFailure policy record failure now

/-- A computed outcome counts one attempt of a searching record. -/
theorem outcomeTransition_ok [Platform] {policy : LinkageRetryPolicy}
    {record next : LinkageRetryRecord} {incidentSysId : Option String}
    {result : ServiceNowLinkageWriteResult} {now : DateTime}
    (h : outcomeTransition policy record incidentSysId result now = .ok next) :
    record.state = .searching ∧ next.attemptCount = record.attemptCount + 1 ∧
      (next.state = .linked ∨ next.state = .failedTemp ∨ next.state = .failedFinal) := by
  unfold outcomeTransition at h
  split at h
  · obtain ⟨hstate, t, rfl⟩ := markLinkageSuccess_ok h
    exact ⟨hstate, rfl, .inl rfl⟩
  · obtain ⟨failure, -, h⟩ := Except.bind_eq_ok.mp h
    obtain ⟨hstate, state, t, due, code, message, retryAfter, metadata, hto, rfl⟩ :=
      markLinkageFailure_ok h
    exact ⟨hstate, rfl, .inr hto⟩

end AiopsTriage
