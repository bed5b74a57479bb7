import AiopsTriage.CaseFile.Triage
import AiopsTriage.Linkage.Attempt

/-!
# Diagnosis, linkage and labels files

The files that are appended to a case after its triage file. Each names the triage file
it belongs to by `triage_hash`, and a linkage or labels file may name the diagnosis file
by `diagnosis_hash`; each is sealed by a hash of its own.

None of them holds a float, so each is read back as it was written (`StageModel.ofPlain`).
-/

namespace AiopsTriage

open Json

/-- A stage file whose fields all survive JSON text. -/
def StageModel.ofPlain {α : Type} (name : String) (codec : Codec α) (plain : codec.Plain)
    (stageHash : α → Hex64) (withHash : α → Hex64 → α)
    (stageHash_withHash : ∀ a h, stageHash (withHash a h) = h)
    (withHash_withHash : ∀ a h h', withHash (withHash a h) h' = withHash a h')
    (withHash_stageHash : ∀ a, withHash a (stageHash a) = a) : StageModel α where
  name := name
  codec := codec
  stageHash := stageHash
  withHash := withHash
  sound _ := true
  wired a := a
  stageHash_withHash := stageHash_withHash
  withHash_withHash := withHash_withHash
  withHash_stageHash := withHash_stageHash
  sound_withHash _ _ := rfl
  wired_withHash _ _ := rfl
  wire_enc a _ := plain a
  sound_of_dec _ _ _ := rfl

/-- An optional hash. -/
def optHex64 : Codec (Option Hex64) := hex64.nullable fun _ => Json.noConfusion

theorem plain_optHex64 : optHex64.Plain := plain_hex64.nullable _

/-! ## The diagnosis file -/

/-- `DiagnosisConfidence`. -/
inductive DiagnosisConfidence where
  /-- a guess, also of every fallback -/
  | low
  /-- likely -/
  | medium
  /-- sure -/
  | high
  deriving DecidableEq, Repr

instance : StrEnum DiagnosisConfidence where
  members := [.low, .medium, .high]
  value
    | .low => "LOW"
    | .medium => "MEDIUM"
    | .high => "HIGH"
  complete a := by cases a <;> decide
  injective a b := by cases a <;> cases b <;> decide

/-- `EvidencePack`. -/
structure EvidencePack where
  /-- what the diagnosis rests on -/
  facts : List String
  /-- what it would have needed -/
  missingEvidence : List String
  /-- the rules that matched -/
  matchedRules : List String
  deriving DecidableEq

/-- The evidence in a report. -/
def evidencePackCodec : Codec EvidencePack where
  enc e := .obj
    [("facts", texts.enc e.facts),
      ("missing_evidence", texts.enc e.missingEvidence),
      ("matched_rules", texts.enc e.matchedRules)]
  dec j := do
    let fs ← asFields j
    let facts ← field fs "facts" texts.dec
    let missingEvidence ← field fs "missing_evidence" texts.dec
    let matchedRules ← field fs "matched_rules" texts.dec
    return ⟨facts, missingEvidence, matchedRules⟩
  dec_enc e := by simp [asFields, field, pure, Except.pure]

/-- `DiagnosisReportV1`. -/
structure DiagnosisReportV1 where
  /-- the case -/
  caseId : Option String := none
  /-- what is wrong -/
  verdict : NonEmpty
  /-- where -/
  faultDomain : Option String := none
  /-- how sure that is -/
  confidence : DiagnosisConfidence
  /-- what it rests on -/
  evidencePack : EvidencePack
  /-- what to look at next -/
  nextChecks : List String := []
  /-- what could not be told -/
  gaps : List String := []
  /-- why there is no better report -/
  reasonCodes : List String := []
  /-- the triage file it is about -/
  triageHash : Option String := none
  deriving DecidableEq

namespace DiagnosisReportV1

/-- The entries of `DiagnosisReportV1.model_dump(mode="json")`. -/
def fields (r : DiagnosisReportV1) : List (String × Json) :=
  [("schema_version", (Codec.literal "v1").enc ()),
    ("case_id", optText.enc r.caseId),
    ("verdict", nonEmpty.enc r.verdict),
    ("fault_domain", optText.enc r.faultDomain),
    ("confidence", Codec.enum.enc r.confidence),
    ("evidence_pack", evidencePackCodec.enc r.evidencePack),
    ("next_checks", texts.enc r.nextChecks),
    ("gaps", texts.enc r.gaps),
    ("reason_codes", texts.enc r.reasonCodes),
    ("triage_hash", optText.enc r.triageHash)]

/-- `DiagnosisReportV1.model_validate`. -/
def validate : Decoder DiagnosisReportV1 := fun j => do
  let fs ← asFields j
  let _ ← fieldOr fs "schema_version" () (Codec.literal "v1").dec
  let caseId ← fieldOr fs "case_id" none optText.dec
  let verdict ← field fs "verdict" nonEmpty.dec
  let faultDomain ← fieldOr fs "fault_domain" none optText.dec
  let confidence ← field fs "confidence" Codec.enum.dec
  let evidencePack ← field fs "evidence_pack" evidencePackCodec.dec
  let nextChecks ← fieldOr fs "next_checks" [] texts.dec
  let gaps ← fieldOr fs "gaps" [] texts.dec
  let reasonCodes ← fieldOr fs "reason_codes" [] texts.dec
  let triageHash ← fieldOr fs "triage_hash" none optText.dec
  return ⟨caseId, verdict, faultDomain, confidence, evidencePack, nextChecks, gaps, reasonCodes,
    triageHash⟩

theorem validate_fields (r : DiagnosisReportV1) : validate (.obj r.fields) = .ok r := by
  simp [validate, fields, asFields, field, fieldOr, pure, Except.pure]

/-- The codec of a report. -/
def codec : Codec DiagnosisReportV1 := ⟨fun r => .obj r.fields, validate, validate_fields⟩

end DiagnosisReportV1

/-- `CaseFileDiagnosisV1`. -/
structure CaseFileDiagnosisV1 where
  /-- the case -/
  caseId : String
  /-- the report -/
  diagnosisReport : DiagnosisReportV1
  /-- the triage file it is about -/
  triageHash : Hex64
  /-- the seal -/
  diagnosisHash : Hex64
  deriving DecidableEq

/-- The codec of a diagnosis file. -/
def CaseFileDiagnosisV1.codec : Codec CaseFileDiagnosisV1 where
  enc c := .obj
    [("schema_version", (Codec.literal "v1").enc ()),
      ("case_id", Codec.text.enc c.caseId),
      ("diagnosis_report", DiagnosisReportV1.codec.enc c.diagnosisReport),
      ("triage_hash", hex64.enc c.triageHash),
      ("diagnosis_hash", hex64.enc c.diagnosisHash)]
  dec j := do
    let fs ← asFields j
    let _ ← fieldOr fs "schema_version" () (Codec.literal "v1").dec
    let caseId ← field fs "case_id" Codec.text.dec
    let diagnosisReport ← field fs "diagnosis_report" DiagnosisReportV1.codec.dec
    let triageHash ← field fs "triage_hash" hex64.dec
    let diagnosisHash ← field fs "diagnosis_hash" hex64.dec
    return ⟨caseId, diagnosisReport, triageHash, diagnosisHash⟩
  dec_enc c := by simp [asFields, field, fieldOr, pure, Except.pure]

/-! ## The linkage file -/

instance : StrEnum LinkageStatus where
  members := [.linked, .notLinked, .skipped, .failed]
  value := LinkageStatus.value
  complete a := by cases a <;> decide
  injective a b := by cases a <;> cases b <;> decide

/-- An identifier of ServiceNow, stripped and not blank. -/
abbrev Identifier := { s : String // PyText.strip s = s ∧ PyText.isBlank s = false }

/-- The identifier of a text: the text is stripped, and refused when it is blank. -/
def identifier? (s : String) : Option Identifier :=
  if h : PyText.isBlank s = false then
    some ⟨PyText.strip s, PyText.strip_strip s, (PyText.isBlank_strip s).trans h⟩
  else none

/-- An identifier is its own. -/
theorem identifier?_val (i : Identifier) : identifier? i.val = some i := by
  obtain ⟨s, hstrip, hblank⟩ := i
  simp only [identifier?, dif_pos hblank, hstrip]

/-- The codec of an identifier. -/
def identifierCodec : Codec Identifier where
  enc i := .str i.val
  dec
    | .str s =>
      match identifier? s with
      | some i => .ok i
      | none => .error []
    | _ => .error []
  dec_enc i := by simp [identifier?_val]

/-- An optional identifier. -/
def optIdentifier : Codec (Option Identifier) :=
  identifierCodec.nullable fun _ => Json.noConfusion

/-- `CaseFileLinkageV1`. -/
structure CaseFileLinkageV1 where
  /-- the case -/
  caseId : String
  /-- what came of the linkage -/
  linkageStatus : LinkageStatus
  /-- why -/
  linkageReason : String
  /-- the incident -/
  incidentSysId : Option Identifier := none
  /-- the Problem -/
  problemSysId : Option Identifier := none
  /-- the key of the Problem -/
  problemExternalId : Option Identifier := none
  /-- the PIR tasks -/
  pirTaskSysIds : List Identifier := []
  /-- the keys of the PIR tasks -/
  pirTaskExternalIds : List Identifier := []
  /-- the triage file it is about -/
  triageHash : Hex64
  /-- the diagnosis file it is about -/
  diagnosisHash : Option Hex64 := none
  /-- the seal -/
  linkageHash : Hex64
  deriving DecidableEq

/-- The codec of a linkage file. -/
def CaseFileLinkageV1.codec : Codec CaseFileLinkageV1 where
  enc c := .obj
    [("schema_version", (Codec.literal "v1").enc ()),
      ("case_id", Codec.text.enc c.caseId),
      ("linkage_status", Codec.enum.enc c.linkageStatus),
      ("linkage_reason", Codec.text.enc c.linkageReason),
      ("incident_sys_id", optIdentifier.enc c.incidentSysId),
      ("problem_sys_id", optIdentifier.enc c.problemSysId),
      ("problem_external_id", optIdentifier.enc c.problemExternalId),
      ("pir_task_sys_ids", identifierCodec.list.enc c.pirTaskSysIds),
      ("pir_task_external_ids", identifierCodec.list.enc c.pirTaskExternalIds),
      ("triage_hash", hex64.enc c.triageHash),
      ("diagnosis_hash", optHex64.enc c.diagnosisHash),
      ("linkage_hash", hex64.enc c.linkageHash)]
  dec j := do
    let fs ← asFields j
    let _ ← fieldOr fs "schema_version" () (Codec.literal "v1").dec
    let caseId ← field fs "case_id" Codec.text.dec
    let linkageStatus ← field fs "linkage_status" Codec.enum.dec
    let linkageReason ← field fs "linkage_reason" Codec.text.dec
    let incidentSysId ← fieldOr fs "incident_sys_id" none optIdentifier.dec
    let problemSysId ← fieldOr fs "problem_sys_id" none optIdentifier.dec
    let problemExternalId ← fieldOr fs "problem_external_id" none optIdentifier.dec
    let pirTaskSysIds ← fieldOr fs "pir_task_sys_ids" [] identifierCodec.list.dec
    let pirTaskExternalIds ← fieldOr fs "pir_task_external_ids" [] identifierCodec.list.dec
    let triageHash ← field fs "triage_hash" hex64.dec
    let diagnosisHash ← fieldOr fs "diagnosis_hash" none optHex64.dec
    let linkageHash ← field fs "linkage_hash" hex64.dec
    return ⟨caseId, linkageStatus, linkageReason, incidentSysId, problemSysId, problemExternalId,
      pirTaskSysIds, pirTaskExternalIds, triageHash, diagnosisHash, linkageHash⟩
  dec_enc c := by simp [asFields, field, fieldOr, pure, Except.pure]

/-! ## The labels file -/

/-- `CaseFileLabelDataV1`. -/
structure CaseFileLabelDataV1 where
  /-- whether the owner agreed -/
  ownerConfirmed : Option Bool := none
  /-- how the case was resolved -/
  resolutionCategory : Option String := none
  /-- whether there was nothing wrong -/
  falsePositive : Option Bool := none
  /-- why evidence was missing -/
  missingEvidenceReason : Option String := none
  deriving DecidableEq

/-- The label data in a labels file. -/
def labelDataCodec : Codec CaseFileLabelDataV1 where
  enc l := .obj
    [("owner_confirmed", optBool.enc l.ownerConfirmed),
      ("resolution_category", optText.enc l.resolutionCategory),
      ("false_positive", optBool.enc l.falsePositive),
      ("missing_evidence_reason", optText.enc l.missingEvidenceReason)]
  dec j := do
    let fs ← asFields j
    let ownerConfirmed ← fieldOr fs "owner_confirmed" none optBool.dec
    let resolutionCategory ← fieldOr fs "resolution_category" none optText.dec
    let falsePositive ← fieldOr fs "false_positive" none optBool.dec
    let missingEvidenceReason ← fieldOr fs "missing_evidence_reason" none optText.dec
    return ⟨ownerConfirmed, resolutionCategory, falsePositive, missingEvidenceReason⟩
  dec_enc l := by simp [asFields, fieldOr, pure, Except.pure]

/-- `CaseFileLabelsV1`. -/
structure CaseFileLabelsV1 where
  /-- the case -/
  caseId : String
  /-- the labels -/
  labelData : CaseFileLabelDataV1
  /-- the triage file they are about -/
  triageHash : Hex64
  /-- the diagnosis file they are about -/
  diagnosisHash : Option Hex64 := none
  /-- the seal -/
  labelsHash : Hex64
  deriving DecidableEq

/-- The codec of a labels file. -/
def CaseFileLabelsV1.codec : Codec CaseFileLabelsV1 where
  enc c := .obj
    [("schema_version", (Codec.literal "v1").enc ()),
      ("case_id", Codec.text.enc c.caseId),
      ("label_data", labelDataCodec.enc c.labelData),
      ("triage_hash", hex64.enc c.triageHash),
      ("diagnosis_hash", optHex64.enc c.diagnosisHash),
      ("labels_hash", hex64.enc c.labelsHash)]
  dec j := do
    let fs ← asFields j
    let _ ← fieldOr fs "schema_version" () (Codec.literal "v1").dec
    let caseId ← field fs "case_id" Codec.text.dec
    let labelData ← field fs "label_data" labelDataCodec.dec
    let triageHash ← field fs "triage_hash" hex64.dec
    let diagnosisHash ← fieldOr fs "diagnosis_hash" none optHex64.dec
    let labelsHash ← field fs "labels_hash" hex64.dec
    return ⟨caseId, labelData, triageHash, diagnosisHash, labelsHash⟩
  dec_enc c := by simp [asFields, field, fieldOr, pure, Except.pure]

/-! ## The files as sealed files -/

theorem plain_report : DiagnosisReportV1.codec.Plain := by
  have hpack : evidencePackCodec.Plain := by
    intro e
    simp only [evidencePackCodec, wire, wireFields, plain_texts _]
  intro r
  simp only [DiagnosisReportV1.codec, DiagnosisReportV1.fields, wire, wireFields,
    Codec.plain_literal _ _, plain_optText _, plain_nonEmpty _, Codec.plain_enum _, hpack _,
    plain_texts _]

/-- The diagnosis file as a sealed file. -/
def diagnosisModel : StageModel CaseFileDiagnosisV1 :=
  .ofPlain "CaseFileDiagnosisV1" CaseFileDiagnosisV1.codec
    (by
      intro c
      simp only [CaseFileDiagnosisV1.codec, wire, wireFields, Codec.plain_literal _ _,
        Codec.plain_text _, plain_report _, plain_hex64 _])
    CaseFileDiagnosisV1.diagnosisHash (fun c h => { c with diagnosisHash := h })
    (fun _ _ => rfl) (fun _ _ _ => rfl) (fun _ => rfl)

/-- The linkage file as a sealed file. -/
def linkageModel : StageModel CaseFileLinkageV1 :=
  .ofPlain "CaseFileLinkageV1" CaseFileLinkageV1.codec
    (by
      have hid : identifierCodec.Plain := fun _ => rfl
      have hopt : optIdentifier.Plain := hid.nullable _
      intro c
      simp only [CaseFileLinkageV1.codec, wire, wireFields, Codec.plain_literal _ _,
        Codec.plain_text _, Codec.plain_enum _, hopt _, hid.list _, plain_hex64 _,
        plain_optHex64 _])
    CaseFileLinkageV1.linkageHash (fun c h => { c with linkageHash := h })
    (fun _ _ => rfl) (fun _ _ _ => rfl) (fun _ => rfl)

/-- The labels file as a sealed file. -/
def labelsModel : StageModel CaseFileLabelsV1 :=
  .ofPlain "CaseFileLabelsV1" CaseFileLabelsV1.codec
    (by
      have hdata : labelDataCodec.Plain := by
        intro l
        simp only [labelDataCodec, wire, wireFields, plain_optBool _, plain_optText _]
      intro c
      simp only [CaseFileLabelsV1.codec, wire, wireFields, Codec.plain_literal _ _,
        Codec.plain_text _, hdata _, plain_hex64 _, plain_optHex64 _])
    CaseFileLabelsV1.labelsHash (fun c h => { c with labelsHash := h })
    (fun _ _ => rfl) (fun _ _ _ => rfl) (fun _ => rfl)

end AiopsTriage
