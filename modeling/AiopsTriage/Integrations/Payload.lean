import AiopsTriage.Denylist.Values
import AiopsTriage.Integrations.ServiceNow

/-!
# Bodies of ServiceNow writes

The body of a Problem or a PIR task is built in three passes over the same values. The
description sanitises its tree and is written as JSON text (`buildDescription`); the
body is sanitised as a mapping of texts; and then the fields the table cannot do without
are put back as they were (`sanitizePayloadForWrite`), and a text that was removed is
replaced by a fixed one.

So the denylist does not hold on a whole body: the fields that are put back, and the
fixed texts, are sent whatever it says. Nowhere else is a denied name or text sent, not
inside the description either, as far as the tree is one of mappings and lists
(`body_exposes_only`).
-/

namespace AiopsTriage

/-- The part of `ServiceNowLinkageContractV1` that the body of a write depends on. -/
structure WriteContract extends UpsertContract where
  /-- where incidents are, which are never written -/
  incidentTable : String := "incident"
  /-- the field of the external id -/
  externalIdField : String := "external_id"
  /-- whether major incidents may be written -/
  miCreationAllowed : Bool := false

/-- A text in a body: as it stands, or the JSON text of a value. -/
inductive BodyText where
  /-- a text of its own -/
  | plain (text : String)
  /-- the JSON text of a value -/
  | json (value : PyValue) (text : String)
  deriving Repr

/-- The text that is sent. -/
def BodyText.text : BodyText → String
  | .plain text => text
  | .json _ text => text

/-- The body of a write. -/
abbrev Body := Dict String BodyText

/-- The body as a Python value. -/
def Body.value (body : Body) : PyValue :=
  .dict (body.entries.map fun e => (.str e.1, .str e.2.text))

section Payload

variable [Platform]

/-- `apply_denylist` on a body. -/
def sanitizeBody (d : DenylistV1) (body : Body) : Body :=
  body.filterEntries fun field value => !d.deniesName field && !d.deniesText value.text

/-- Sanitising a body is sanitising its value. -/
theorem sanitizePyValue_body (d : DenylistV1) (body : Body) :
    sanitizePyValue d body.value = .ok (some (sanitizeBody d body).value) := by
  have hentries : ∀ es : List (String × BodyText),
      sanitizePyMapping d (es.map fun e => (.str e.1, .str e.2.text)) =
        .ok ((es.filter fun e => !d.deniesName e.1 && !d.deniesText e.2.text).map
          fun e => (.str e.1, .str e.2.text)) := by
    intro es
    induction es with
    | nil => rfl
    | cons e es ih =>
      rw [List.map_cons, sanitizePyMapping_str, ih, List.filter_cons, sanitizePyValue]
      by_cases hname : d.deniesName e.1 = true
      · rw [if_pos hname, hname]
        rfl
      · rw [if_neg hname, Bool.eq_false_iff.mpr hname]
        by_cases htext : d.deniesText e.2.text = true
        · rw [if_pos htext, htext]
          rfl
        · rw [if_neg htext, Bool.eq_false_iff.mpr htext]
          rfl
  rw [Body.value, sanitizePyValue, hentries]
  rfl

variable (dumps : PyValue → Except PyException String) (contract : WriteContract) (d : DenylistV1)

/-- `_assert_write_scope`. -/
def assertWriteScope (table : String) : Except PyException Unit := do
  raiseIf (table ≠ contract.problemTable ∧ table ≠ contract.pirTaskTable)
    (.valueError "write scope violation: only Problem/PIR task tables are allowed")
  raiseIf (table = contract.incidentTable)
    (.valueError "write scope violation: incident table is read-only")

/-- `_assert_mi_guardrails`. -/
def assertMiGuardrails (table : String) (payload : Body) : Except PyException Unit := do
  if contract.miCreationAllowed then return ()
  raiseIf (PyText.contains "major_incident" (Platform.lower table))
    (.valueError "MI-1 posture violation: major incident table writes are disallowed")
  let loweredPayload := Platform.lower (← dumps payload.value)
  raiseIf (PyText.contains "major incident" loweredPayload ∨
      PyText.contains "major_incident" loweredPayload)
    (.valueError "MI-1 posture violation: major incident fields are disallowed")

/-- The fixed text of a description that was removed. -/
def sourceOnly : PyValue := .dict [(.str "source", .str "aiops")]

/-- The required fields of `payload`, put back into what is left of it. -/
def putBack (payload : Body) (requiredFields : List String) (sanitized : Body) : Body :=
  requiredFields.foldl (fun body field => (payload.get? field).elim body (body.set field)) sanitized

/-- A body with a text in its short description, unless it has one there. -/
def withShortDescription (body : Body) : Body :=
  if (body.get? "short_description").isSome then body
  else body.set "short_description" (.plain "AIOps linkage update")

/-- A body with a text in its description, unless it has one there. -/
def withDescription (body : Body) : Except PyException Body :=
  if (body.get? "description").isSome then return body
  else return body.set "description" (.json sourceOnly (← dumps sourceOnly))

/-- `_sanitize_payload_for_write`. -/
def sanitizePayloadForWrite (table : String) (payload : Body) (requiredFields : List String) :
    Except PyException Body := do
  let sanitized := putBack payload requiredFields (sanitizeBody d payload)
  let sanitized ← withDescription dumps (withShortDescription sanitized)
  assertWriteScope contract table
  assertMiGuardrails dumps contract table sanitized
  return sanitized

/-- An entry of a description for an id that is not blank. -/
def idEntry (key : String) (id : Option String) : List (PyScalar × PyValue) :=
  ((id.filter fun s => !PyText.isBlank s).map fun s => (.str key, .str s)).toList

/-- `_build_description`. -/
def buildDescription (caseId pdIncidentId : String) (incidentSysId problemSysId : Option String)
    (context : List (PyScalar × PyValue)) : Except PyException BodyText := do
  let sanitized ← sanitizePyMapping d
    ([(.str "case_id", .str caseId), (.str "pd_incident_id", .str pdIncidentId),
      (.str "context", .dict context)] ++ idEntry "incident_sys_id" incidentSysId ++
        idEntry "problem_sys_id" problemSysId)
  return .json (.dict sanitized) (← dumps (.dict sanitized))

/-- The `payload` of `_build_problem_payload`. -/
def problemFields (externalId caseId pdIncidentId incidentSysId summary : String)
    (context : List (PyScalar × PyValue)) : Except PyException Body := do
  let summary := if PyText.isBlank summary then s!"AIOps case {caseId}" else PyText.strip summary
  let description ← buildDescription dumps d caseId pdIncidentId (some incidentSysId) none context
  return Dict.ofPairs [(contract.externalIdField, .plain externalId),
    ("short_description", .plain summary), ("description", description)]

/-- `_build_problem_payload`. -/
def buildProblemPayload (externalId caseId pdIncidentId incidentSysId summary : String)
    (context : List (PyScalar × PyValue)) : Except PyException Body := do
  let payload ← problemFields dumps contract d externalId caseId pdIncidentId incidentSysId summary
    context
  sanitizePayloadForWrite dumps contract d contract.problemTable payload
    [contract.externalIdField]

/-- The `payload` of `_build_pir_task_payload`. -/
def pirTaskFields (externalId caseId pdIncidentId problemSysId taskType summary : String)
    (context : List (PyScalar × PyValue)) : Except PyException Body := do
  let description ← buildDescription dumps d caseId pdIncidentId none (some problemSysId)
    (Dict.ofPairs ((.str "task_type", .str taskType) :: context)).entries
  return Dict.ofPairs [(contract.externalIdField, .plain externalId),
    ("problem", .plain problemSysId),
    ("short_description", .plain s!"{taskType}: {PyText.strip summary}"),
    ("description", description)]

/-- `_build_pir_task_payload`. -/
def buildPirTaskPayload (externalId caseId pdIncidentId problemSysId taskType summary : String)
    (context : List (PyScalar × PyValue)) : Except PyException Body := do
  let payload ← pirTaskFields dumps contract d externalId caseId pdIncidentId problemSysId taskType
    summary context
  sanitizePayloadForWrite dumps contract d contract.pirTaskTable payload
    [contract.externalIdField, "problem"]

/-- The body of an upsert: of a Problem under an incident, or of a PIR task under a Problem. -/
def UpsertKey.payload (key : UpsertKey) (parentSysId summary : String)
    (context : List (PyScalar × PyValue)) : Except PyException Body :=
  match key with
  | .problem caseId pdIncidentId =>
    buildProblemPayload dumps contract d key.externalId caseId pdIncidentId parentSysId summary
      context
  | .pirTask caseId pdIncidentId taskType =>
    buildPirTaskPayload dumps contract d key.externalId caseId pdIncidentId parentSysId taskType
      summary context

/-- The body before it is sanitised. -/
def UpsertKey.fields (key : UpsertKey) (parentSysId summary : String)
    (context : List (PyScalar × PyValue)) : Except PyException Body :=
  match key with
  | .problem caseId pdIncidentId =>
    problemFields dumps contract d key.externalId caseId pdIncidentId parentSysId summary context
  | .pirTask caseId pdIncidentId taskType =>
    pirTaskFields dumps contract d key.externalId caseId pdIncidentId parentSysId taskType summary
      context

/-- The fields that are put back. -/
def UpsertKey.requiredFields (key : UpsertKey) : List String :=
  match key with
  | .problem _ _ => [contract.externalIdField]
  | .pirTask _ _ _ => [contract.externalIdField, "problem"]

/-! ## What a body exposes -/

/-- No denied name or text is in the body, at any depth of it. -/
def Body.Clean (body : Body) : Prop :=
  ∀ field value, body.get? field = some value →
    d.deniesName field = false ∧ d.deniesText value.text = false ∧
      ∀ tree text, value = .json tree text → exposes d tree = false

/-- A text of a payload: the description is the JSON text of a tree that exposes nothing. -/
def CleanText (field : String) (value : BodyText) : Prop :=
  (field = "description" → ∃ tree text, value = .json tree text) ∧
    ∀ tree text, value = .json tree text → dumps tree = .ok text ∧ exposes d tree = false

/-- The text that a field of a body falls back to when its own is removed. -/
def FixedText (field : String) (value : BodyText) : Prop :=
  (field = "short_description" ∧ value = .plain "AIOps linkage update") ∨
    (field = "description" ∧ ∃ text, dumps sourceOnly = .ok text ∧ value = .json sourceOnly text)

/-- A body that is left of a payload: the required fields are there as they were, and of the others
none has a denied name or text, but for the fixed texts. -/
structure Body.CleanBut (requiredFields : List String) (payload body : Body) : Prop where
  /-- a required field is put back as it was -/
  putBack : ∀ field ∈ requiredFields, ∀ value, payload.get? field = some value →
    body.get? field = some value
  /-- a field has a fixed text, or that of the payload, and then it is required or not denied -/
  texts : ∀ field value, body.get? field = some value →
    FixedText dumps field value ∨
      payload.get? field = some value ∧ CleanText dumps d field value ∧
        (field ∈ requiredFields ∨ d.deniesName field = false ∧ d.deniesText value.text = false)

variable {dumps contract d}

omit [Platform] in
/-- A field of a body into which others were put back was put back, or was there. -/
theorem get?_putBack {payload sanitized : Body} {requiredFields : List String} {field : String}
    {value : BodyText} (h : (putBack payload requiredFields sanitized).get? field = some value) :
    (field ∈ requiredFields ∧ payload.get? field = some value) ∨
      sanitized.get? field = some value := by
  induction requiredFields generalizing sanitized with
  | nil => exact .inr h
  | cons name names ih =>
    rcases ih h with ⟨hmem, hvalue⟩ | hset
    · exact .inl ⟨List.mem_cons_of_mem name hmem, hvalue⟩
    · beta_reduce at hset
      cases hname : payload.get? name with
      | none =>
        rw [hname] at hset
        exact .inr hset
      | some v =>
        rw [hname, Option.elim_some, Dict.get?_set] at hset
        split at hset
        · next heq =>
          cases hset
          subst heq
          exact .inl ⟨List.mem_cons_self, hname⟩
        · exact .inr hset

omit [Platform] in
/-- A required field is put back, and what else is there stays. -/
theorem get?_putBack_of_mem {payload sanitized : Body} {requiredFields : List String}
    {field : String} {value : BodyText} (hvalue : payload.get? field = some value)
    (h : field ∈ requiredFields ∨ sanitized.get? field = some value) :
    (putBack payload requiredFields sanitized).get? field = some value := by
  induction requiredFields generalizing sanitized with
  | nil => exact h.resolve_left List.not_mem_nil
  | cons name names ih =>
    refine ih ?_
    beta_reduce
    by_cases hname : name = field
    · right
      rw [hname, hvalue, Option.elim_some, Dict.get?_set, if_pos rfl]
    · rcases h with hmem | hthere
      · exact .inl ((List.mem_cons.mp hmem).resolve_left (Ne.symm hname))
      · right
        cases payload.get? name with
        | none => exact hthere
        | some v => rw [Option.elim_some, Dict.get?_set, if_neg hname, hthere]

omit [Platform] in
/-- Where a body has a text it keeps it, whatever is supplied. -/
theorem get?_supplied {body body' : Body}
    (hbody : withDescription dumps (withShortDescription body) = .ok body') {field : String}
    {value : BodyText} (h : body.get? field = some value) : body'.get? field = some value := by
  have hkept : ∀ {b : Body} {name : String} {text : BodyText}, b.get? field = some value →
      ¬(b.get? name).isSome → (b.set name text).get? field = some value := by
    intro b name text hfield hname
    rw [Dict.get?_set, if_neg]
    · exact hfield
    · rintro rfl
      exact hname (Option.isSome_of_eq_some hfield)
  have hshort : (withShortDescription body).get? field = some value := by
    unfold withShortDescription
    split
    · exact h
    · next hnone => exact hkept h hnone
  unfold withDescription at hbody
  split at hbody
  · cases hbody
    exact hshort
  · next hnone =>
    obtain ⟨text, -, hbody⟩ := Except.bind_eq_ok.mp hbody
    cases hbody
    exact hkept hshort hnone

omit [Platform] in
/-- A short description was there, or is the fixed one. -/
theorem get?_withShortDescription {body : Body} {field : String} {value : BodyText}
    (h : (withShortDescription body).get? field = some value) :
    FixedText dumps field value ∨ body.get? field = some value := by
  unfold withShortDescription at h
  split at h
  · exact .inr h
  · rw [Dict.get?_set] at h
    split at h
    · next heq =>
      cases h
      exact .inl (.inl ⟨heq.symm, rfl⟩)
    · exact .inr h

omit [Platform] in
/-- A description was there, or is the fixed one. -/
theorem get?_withDescription {body body' : Body} (hbody : withDescription dumps body = .ok body')
    {field : String} {value : BodyText} (h : body'.get? field = some value) :
    FixedText dumps field value ∨ body.get? field = some value := by
  unfold withDescription at hbody
  split at hbody
  · cases hbody
    exact .inr h
  · obtain ⟨text, htext, hbody⟩ := Except.bind_eq_ok.mp hbody
    cases hbody
    rw [Dict.get?_set] at h
    split at h
    · next heq =>
      cases h
      exact .inl (.inr ⟨heq.symm, text, htext, rfl⟩)
    · exact .inr h

/-- The tree of a description is sanitised before it is written. -/
theorem buildDescription_clean {caseId pdIncidentId : String}
    {incidentSysId problemSysId : Option String} {context : List (PyScalar × PyValue)}
    {description : BodyText}
    (h : buildDescription dumps d caseId pdIncidentId incidentSysId problemSysId context =
      .ok description) (field : String) : CleanText dumps d field description := by
  obtain ⟨sanitized, hsanitized, h⟩ := Except.bind_eq_ok.mp h
  obtain ⟨text, htext, h⟩ := Except.bind_eq_ok.mp h
  cases h
  refine ⟨fun _ => ⟨_, _, rfl⟩, ?_⟩
  rintro tree text' heq
  cases heq
  exact ⟨htext, exposesEntries_sanitizePyMapping hsanitized⟩

/-- A text that is no description. -/
theorem cleanText_plain {field text : String} (h : field ≠ "description") :
    CleanText dumps d field (.plain text) :=
  ⟨fun heq => absurd heq h, nofun⟩

/-- The body of a payload of clean texts. -/
theorem sanitizePayloadForWrite_cleanBut {table : String} {payload body : Body}
    {requiredFields : List String}
    (h : sanitizePayloadForWrite dumps contract d table payload requiredFields = .ok body)
    (hpayload : ∀ field value, payload.get? field = some value → CleanText dumps d field value) :
    Body.CleanBut dumps d requiredFields payload body := by
  obtain ⟨body', hbody, h⟩ := Except.bind_eq_ok.mp h
  obtain ⟨_, -, h⟩ := Except.bind_eq_ok.mp h
  obtain ⟨_, -, h⟩ := Except.bind_eq_ok.mp h
  cases h
  refine ⟨fun field hrequired value hvalue => ?_, fun field value hvalue => ?_⟩
  · exact get?_supplied hbody (get?_putBack_of_mem hvalue (.inl hrequired))
  · rcases get?_withDescription hbody hvalue with hfixed | hvalue
    · exact .inl hfixed
    rcases get?_withShortDescription hvalue with hfixed | hvalue
    · exact .inl hfixed
    right
    rcases get?_putBack hvalue with ⟨hrequired, hvalue⟩ | hvalue
    · exact ⟨hvalue, hpayload _ _ hvalue, .inl hrequired⟩
    · obtain ⟨hvalue, hkept⟩ := Dict.get?_filterEntries.mp hvalue
      rw [Bool.and_eq_true, Bool.not_eq_true', Bool.not_eq_true'] at hkept
      exact ⟨hvalue, hpayload _ _ hvalue, .inr hkept⟩

/-- A text of a payload that ends with a clean description: a later entry of a field overwrites
an earlier one, so no other text is the description. -/
theorem cleanText_of_payload (texts : List (String × String)) {description : BodyText}
    (hdescription : ∀ field, CleanText dumps d field description) {field : String}
    {value : BodyText}
    (h : (Dict.ofPairs (texts.map (fun e => (e.1, BodyText.plain e.2)) ++
      [("description", description)])).get? field = some value) :
    CleanText dumps d field value := by
  rw [Dict.ofPairs, List.foldl_append] at h
  have hlast := Dict.get?_set.symm.trans h
  rcases ite_eq_iff.mp hlast with ⟨rfl, hvalue⟩ | ⟨hne, hvalue⟩
  · cases hvalue
    exact hdescription _
  · obtain ⟨e, -, heq⟩ := List.mem_map.mp (Dict.mem_of_get?_ofPairs hvalue)
    cases heq
    exact cleanText_plain (Ne.symm hne)

/-- **Exposure at the ServiceNow boundary**: the body of a write exposes nothing the denylist
denies, at any depth and inside the description too, but for the required fields, which are put
back as they were, and the fixed texts that replace removed ones. What stands inside a tuple is
left out. -/
theorem body_exposes_only {key : UpsertKey} {parentSysId summary : String}
    {context : List (PyScalar × PyValue)} {body : Body}
    (h : key.payload dumps contract d parentSysId summary context = .ok body) :
    ∃ payload, key.fields dumps contract d parentSysId summary context = .ok payload ∧
      Body.CleanBut dumps d (key.requiredFields contract) payload body := by
  cases key with
  | problem caseId pdIncidentId =>
    obtain ⟨payload, hpayload, h⟩ := Except.bind_eq_ok.mp h
    refine ⟨payload, hpayload, sanitizePayloadForWrite_cleanBut h fun field value hvalue => ?_⟩
    obtain ⟨description, hdescription, hpayload⟩ := Except.bind_eq_ok.mp hpayload
    cases hpayload
    exact cleanText_of_payload [(_, _), (_, _)] (buildDescription_clean hdescription) hvalue
  | pirTask caseId pdIncidentId taskType =>
    obtain ⟨payload, hpayload, h⟩ := Except.bind_eq_ok.mp h
    refine ⟨payload, hpayload, sanitizePayloadForWrite_cleanBut h fun field value hvalue => ?_⟩
    obtain ⟨description, hdescription, hpayload⟩ := Except.bind_eq_ok.mp hpayload
    cases hpayload
    exact cleanText_of_payload [(_, _), (_, _), (_, _)] (buildDescription_clean hdescription)
      hvalue

end Payload

/-- A denylist that denies the name of the external id, and secrets. -/
def denylistExternalId : DenylistV1 where
  denylistVersion := "v1"
  deniedFieldNames := ["external_id"]
  deniedValuePatterns := ["secret"]
  version_ne := v1_ne

/-- A text in quotes. -/
def quoted (text : String) : String :=
  "\"" ++ String.ofList (text.toList.flatMap fun c =>
    if c = '"' || c = '\\' then ['\\', c] else [c]) ++ "\""

mutual

/-- `json.dumps(value, sort_keys=True)`, of printable ASCII texts and no floats. -/
def plainDumps : PyValue → String
  | .scalar .none => "null"
  | .scalar (.bool b) => if b then "true" else "false"
  | .scalar (.int n) => toString n
  | .scalar (.str text) => quoted text
  | .scalar _ => ""
  | .list items => "[" ++ PyText.join ", " (plainDumpsItems items) ++ "]"
  | .tuple items => "[" ++ PyText.join ", " (plainDumpsItems items) ++ "]"
  | .dict entries =>
    "\x7b" ++ PyText.join ", " (((plainDumpsEntries entries).insertionSort
      fun a b => a.1 ≤ b.1).map fun e => quoted e.1 ++ ": " ++ e.2) ++ "\x7d"

/-- The items of a list. -/
def plainDumpsItems : List PyValue → List String
  | [] => []
  | item :: rest => plainDumps item :: plainDumpsItems rest

/-- The entries of a mapping, by their keys. -/
def plainDumpsEntries : List (PyScalar × PyValue) → List (String × String)
  | [] => []
  | (.str key, value) :: rest => (key, plainDumps value) :: plainDumpsEntries rest
  | _ :: rest => plainDumpsEntries rest

end

/-- `json.dumps` on the values of `case-1`. -/
def dumpsCase1 (value : PyValue) : Except PyException String := .ok (plainDumps value)

/-- SHA-256 on what the external id of `case-1` is a digest of. -/
@[reducible] def platformCase1 : Platform :=
  asciiPlatform [(.utf8 "case-1|pd-1",
    "ea81003871d5a236c7d9a496b3c5e3b92dea286439120efcb689d788dfadea59")]

/-- A contract that does not ask the body for major incidents. -/
def contractCase1 : WriteContract := { miCreationAllowed := true }

/-- A context with a denied name and a denied text inside a mapping and a list. -/
def contextCase1 : List (PyScalar × PyValue) :=
  [(.str "owner", .dict [(.str "external_id", .list [.str "x"]),
    (.str "notes", .list [.str "secret-1", .dict [(.str "text", .str "lag")]])])]

/-- The body of the Problem of `case-1`. -/
def bodyCase1 : Except PyException Body :=
  @UpsertKey.payload platformCase1 dumpsCase1 contractCase1 denylistExternalId
    (.problem "case-1" "pd-1") "inc-1" "consumer lag" contextCase1

/-- The texts of the body of `case-1`. -/
def textsCase1 : List (String × String) :=
  [("short_description", "consumer lag"),
    ("description", "\x7b\"case_id\": \"case-1\", \"context\": \x7b\"owner\": " ++
      "\x7b\"notes\": [\x7b\"text\": \"lag\"\x7d]\x7d\x7d, " ++
      "\"incident_sys_id\": \"inc-1\", \"pd_incident_id\": \"pd-1\"\x7d"),
    ("external_id", "aiops:problem:case-1:pd-1:ea81003871d5")]

theorem bodyCase1_sent : ∃ body, bodyCase1 = .ok body ∧
    body.entries.map (fun e => (e.1, e.2.text)) = textsCase1 := by
  have hsent : bodyCase1.toOption.map (fun body => body.entries.map fun e => (e.1, e.2.text)) =
      some textsCase1 := by
    decide +kernel
  obtain ⟨body, hbody, htexts⟩ := Option.map_eq_some_iff.mp hsent
  exact ⟨body, Except.toOption_eq_some.mp hbody, htexts⟩

/-- Nothing else that is denied is in the body of the Problem of `case-1`: what the description
has of the context is left without the secret and the other id. -/
theorem body_exposes_only_case1 : ∃ payload body, bodyCase1 = .ok body ∧
    @UpsertKey.fields platformCase1 dumpsCase1 contractCase1 denylistExternalId
      (.problem "case-1" "pd-1") "inc-1" "consumer lag" contextCase1 = .ok payload ∧
    @Body.CleanBut platformCase1 dumpsCase1 denylistExternalId
      (UpsertKey.requiredFields contractCase1 (.problem "case-1" "pd-1")) payload body ∧
    body.entries.map (fun e => (e.1, e.2.text)) = textsCase1 := by
  obtain ⟨body, hbody, htexts⟩ := bodyCase1_sent
  obtain ⟨payload, hpayload, hclean⟩ := @body_exposes_only platformCase1 dumpsCase1 contractCase1
    denylistExternalId (.problem "case-1" "pd-1") "inc-1" "consumer lag" contextCase1 body hbody
  exact ⟨payload, body, hbody, hpayload, hclean, htexts⟩

/-- The external id of `case-1` is sent under a name that is denied. -/
theorem body_exposes_external_id : ∃ body, bodyCase1 = .ok body ∧
    ¬ @Body.Clean platformCase1 denylistExternalId body := by
  obtain ⟨body, hbody, htexts⟩ := bodyCase1_sent
  refine ⟨body, hbody, fun hclean => ?_⟩
  have hdenied : @DenylistV1.deniesName platformCase1 denylistExternalId "external_id" = true := by
    decide +kernel
  have hmem : ("external_id", "aiops:problem:case-1:pd-1:ea81003871d5") ∈
      body.entries.map fun e => (e.1, e.2.text) := by
    rw [htexts]
    exact List.mem_cons_of_mem _ (List.mem_cons_of_mem _ (List.mem_singleton_self _))
  obtain ⟨⟨field, value⟩, hentry, hfield⟩ := List.mem_map.mp hmem
  obtain rfl : field = "external_id" := congrArg Prod.fst hfield
  exact absurd hdenied (Bool.eq_false_iff.mp (hclean _ _ (Dict.get?_eq_some.mpr hentry)).1)

end AiopsTriage
