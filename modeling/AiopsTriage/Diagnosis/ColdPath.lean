import AiopsTriage.CaseFile.Chain
import AiopsTriage.Events

/-!
# The cold path

`run_cold_path_diagnosis` asks the language model for a report on a case, or makes a
fallback report when the model fails in one of the known ways, and writes the report as the
diagnosis file of the case. It is called with the `triage_hash` of the case, which it puts
into the report and the file.

Whatever the model answers, the file names the hash of the call (`coldPathCasefile_ok`), and
the write does not go through the checks of `persist_casefile_diagnosis_stage`.
-/

namespace AiopsTriage

open Json

/-- What becomes of `graph.ainvoke` under `asyncio.wait_for`. -/
inductive LlmAnswer where
  /-- `asyncio.TimeoutError` -/
  | timeout
  /-- `pydantic.ValidationError` -/
  | validationError
  /-- `httpx.TransportError` -/
  | transportError
  /-- any other exception -/
  | otherError
  /-- the report of the final state, `None` when no node set it -/
  | answered (rawReport : Option Json)

/-- The arguments of a call that its file depends on, and the answer of the model. -/
structure ColdPathCall where
  /-- the case -/
  caseId : String
  /-- the excerpt the prompt is made of -/
  triageExcerpt : TriageExcerptV1
  /-- the exposure denylist -/
  denylist : DenylistV1
  /-- the hash of the triage file, as the caller has it -/
  triageHash : String
  /-- what the model says -/
  answer : LlmAnswer

/-- `build_fallback_report`. -/
def buildFallbackReport (reasonCodes : List String) (caseId : Option String) :
    DiagnosisReportV1 where
  caseId := caseId
  verdict := ⟨"UNKNOWN", by decide⟩
  confidence := .low
  evidencePack := ⟨[], [], []⟩
  reasonCodes := reasonCodes

/-- The report of `_make_and_persist_fallback`. -/
def fallbackReport (reasonCodes : List String) (caseId triageHash : String)
    (gaps : List String := []) : Except Failure DiagnosisReportV1 :=
  let raw := buildFallbackReport reasonCodes (some caseId)
  let fields := Dict.setEntries "gaps" (texts.enc gaps)
    (Dict.setEntries "case_id" (.str caseId) (Dict.setEntries "triage_hash" (.str triageHash)
      raw.fields))
  match DiagnosisReportV1.validate (.obj fields) with
  | .ok report => .ok report
  | .error path => .error (.validationError "DiagnosisReportV1" path)

/-- The fallback for an answer that is no report. -/
def schemaInvalidReport (caseId triageHash : String) : Except Failure DiagnosisReportV1 :=
  fallbackReport ["LLM_SCHEMA_INVALID"] caseId triageHash ["LLM output failed schema validation"]

section ColdPath

variable [Platform]

/-- The report `run_cold_path_diagnosis` makes of the answer of the model. -/
def coldPathReport (call : ColdPathCall) : Except Failure DiagnosisReportV1 :=
  match call.answer with
  | .timeout => fallbackReport ["LLM_TIMEOUT"] call.caseId call.triageHash
  | .validationError => schemaInvalidReport call.caseId call.triageHash
  | .transportError => fallbackReport ["LLM_UNAVAILABLE"] call.caseId call.triageHash
  | .otherError => fallbackReport ["LLM_ERROR"] call.caseId call.triageHash
  | .answered none => fallbackReport ["LLM_ERROR"] call.caseId call.triageHash
  | .answered (some rawReport) =>
    match DiagnosisReportV1.validate rawReport with
    | .error _ => schemaInvalidReport call.caseId call.triageHash
    | .ok validated =>
      let fields := Dict.setEntries "case_id" (.str call.caseId)
        (Dict.setEntries "triage_hash" (.str call.triageHash)
          (applyDenylist call.denylist validated.fields))
      match DiagnosisReportV1.validate (.obj fields) with
      -- the denylist took a field the report cannot do without
      | .error _ => schemaInvalidReport call.caseId call.triageHash
      | .ok report => .ok report

/-- The sealed diagnosis file of a report. -/
def diagnosisCasefile (caseId : String) (report : DiagnosisReportV1) (triageHash : String) :
    Except Failure CaseFileDiagnosisV1 :=
  if h : isHex64 triageHash = true then
    .ok (diagnosisModel.finalize
      { caseId := caseId
        diagnosisReport := report
        triageHash := ⟨triageHash, h⟩
        diagnosisHash := hashPlaceholder })
  else .error (.validationError "CaseFileDiagnosisV1" ["triage_hash"])

/-- `run_cold_path_diagnosis` up to the file it writes. -/
def coldPathCasefile (call : ColdPathCall) : Except Failure CaseFileDiagnosisV1 :=
  match call.triageExcerpt.sanitize call.denylist with
  | .error path => .error (.validationError "TriageExcerptV1" path)
  | .ok _ => do
    let report ← coldPathReport call
    diagnosisCasefile call.caseId report call.triageHash

/-- The write of the cold path: `persist_casefile_diagnosis_write_once`, without the checks of
the stage function. -/
def persistColdPath (objects : ObjectStore) (casefile : CaseFileDiagnosisV1)
    (faults : WriteFaults) : Except Failure DiagnosisReportV1 × ObjectStore :=
  match persistWriteOnce diagnosisModel objects casefile.caseId .diagnosis casefile faults with
  | (.error e, objects) => (.error e, objects)
  | (.ok _, objects) => (.ok casefile.diagnosisReport, objects)

/-- `run_cold_path_diagnosis`. -/
def runColdPathDiagnosis (objects : ObjectStore) (call : ColdPathCall) (faults : WriteFaults) :
    Except Failure DiagnosisReportV1 × ObjectStore :=
  match coldPathCasefile call with
  | .error e => (.error e, objects)
  | .ok casefile => persistColdPath objects casefile faults

/-! ## What is written -/

omit [Platform] in
/-- There is always a fallback report. -/
theorem fallbackReport_ok (reasonCodes : List String) (caseId triageHash : String)
    (gaps : List String) :
    fallbackReport reasonCodes caseId triageHash gaps =
      .ok { buildFallbackReport reasonCodes (some caseId) with
            triageHash := some triageHash
            gaps := gaps } := by
  have hfields : Dict.setEntries "gaps" (texts.enc gaps)
      (Dict.setEntries "case_id" (.str caseId) (Dict.setEntries "triage_hash" (.str triageHash)
        (buildFallbackReport reasonCodes (some caseId)).fields)) =
      DiagnosisReportV1.fields { buildFallbackReport reasonCodes (some caseId) with
        triageHash := some triageHash
        gaps := gaps } := rfl
  rw [fallbackReport, hfields, DiagnosisReportV1.validate_fields]

/-- So there is a report on every answer. -/
theorem coldPathReport_returns (call : ColdPathCall) :
    ∃ report, coldPathReport call = .ok report := by
  have hinvalid : ∃ report, schemaInvalidReport call.caseId call.triageHash = .ok report :=
    ⟨_, fallbackReport_ok _ _ _ _⟩
  unfold coldPathReport
  split
  · exact ⟨_, fallbackReport_ok _ _ _ _⟩
  · exact hinvalid
  · exact ⟨_, fallbackReport_ok _ _ _ _⟩
  · exact ⟨_, fallbackReport_ok _ _ _ _⟩
  · exact ⟨_, fallbackReport_ok _ _ _ _⟩
  · split
    · exact hinvalid
    · simp only
      split
      · exact hinvalid
      · exact ⟨_, rfl⟩

/-- **The file of a call** is sealed, and about the case and the triage file the call names. -/
theorem coldPathCasefile_ok {call : ColdPathCall} {casefile : CaseFileDiagnosisV1}
    (h : coldPathCasefile call = .ok casefile) :
    casefile.caseId = call.caseId ∧ casefile.triageHash.val = call.triageHash ∧
      diagnosisModel.stageHash casefile = diagnosisModel.computeHash casefile := by
  unfold coldPathCasefile at h
  split at h
  · cases h
  obtain ⟨report, -, h⟩ := Except.bind_eq_ok.mp h
  unfold diagnosisCasefile at h
  split at h
  · cases h
    exact ⟨rfl, rfl, StageModel.stageHash_finalize _⟩
  · cases h

/-- A call makes a file exactly when its excerpt survives the denylist and its hash has the
form of one, whatever the model says. -/
theorem coldPathCasefile_returns {call : ColdPathCall} :
    (∃ casefile, coldPathCasefile call = .ok casefile) ↔
      (∃ excerpt, call.triageExcerpt.sanitize call.denylist = .ok excerpt) ∧
        isHex64 call.triageHash = true := by
  obtain ⟨report, hreport⟩ := coldPathReport_returns call
  unfold coldPathCasefile
  split
  · next hexcerpt =>
    refine iff_of_false ?_ ?_
    · rintro ⟨_, h⟩
      cases h
    · rintro ⟨⟨_, h⟩, -⟩
      rw [hexcerpt] at h
      cases h
  · next excerpt hexcerpt =>
    rw [hreport, Except.ok_bind, diagnosisCasefile]
    split
    · next hhex => exact ⟨fun _ => ⟨⟨excerpt, hexcerpt⟩, hhex⟩, fun _ => ⟨_, rfl⟩⟩
    · next hhex =>
      refine iff_of_false ?_ fun h => hhex h.2
      rintro ⟨_, h⟩
      cases h

end ColdPath

end AiopsTriage
