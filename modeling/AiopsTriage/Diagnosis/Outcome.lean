import AiopsTriage.Diagnosis.Chain
import AiopsTriage.Health.Registry
import AiopsTriage.Outbox.Worker

/-!
# The outcome of a diagnosis

`run_cold_path_diagnosis` with all it leaves behind: beside the diagnosis file these are the
status of the model in the health registry, the number of calls in flight and what is recorded
of the call (`ColdPathWorld`). Its exits are many, but each but the last falls back: it marks the
model degraded, records the failure and writes a fallback report (`fallBack`). The last one
writes the report of the model, in which the denylist may leave too little for a report
(`llmReport`); then it falls back too.

Recording is guarded by a flag, so that the outermost handler records nothing a second time.
Whatever happens, a call records once and leaves the number in flight as it was
(`runColdPath_balanced`), and with a store that takes the file it returns the report that is in
it (`cold_path_outcome`).
-/

namespace AiopsTriage

open Json

/-! ## What a call leaves behind -/

/-- `result` of a call of the model. -/
inductive LlmResult where
  /-- the report of the model is stored -/
  | success
  /-- a fallback report is -/
  | fallback
  /-- the call raised -/
  | error
  deriving DecidableEq, Repr

/-- What `_record_llm_completion` records. -/
structure LlmCompletion where
  /-- how it went -/
  result : LlmResult
  /-- why there is a fallback -/
  fallbackReason : Option String := none
  /-- `type(exc).__name__` -/
  errorType : Option String := none
  /-- whether the time was up -/
  timeout : Bool := false
  deriving DecidableEq, Repr

/-- What calls share. -/
structure ColdPathWorld where
  /-- the object store -/
  objects : ObjectStore
  /-- the health registry -/
  health : HealthRegistry := {}
  /-- the in-flight gauge -/
  inflight : Int := 0
  /-- what is recorded of calls, in order -/
  completions : List LlmCompletion := []

/-- The state of one call. -/
structure ColdPathRun extends ColdPathWorld where
  /-- `llm_metrics_recorded` -/
  llmMetricsRecorded : Bool := false

namespace ColdPathRun

/-- `health_registry.update("llm", …)`. -/
def updateLlm (s : ColdPathRun) (status : HealthStatus) (reason : Option String := none) :
    ColdPathRun :=
  { s with health := s.health.update "llm" status reason }

/-- `_record_llm_completion`. -/
def record (s : ColdPathRun) (completion : LlmCompletion) : ColdPathRun :=
  if s.llmMetricsRecorded then s
  else { s with llmMetricsRecorded := true, completions := s.completions ++ [completion] }

end ColdPathRun

/-- What a part of the call returns or raises, and the state it leaves. -/
abbrev ColdPathExit := Except Failure DiagnosisReportV1 × ColdPathRun

section Call

variable [Platform] (call : ColdPathCall) (faults : WriteFaults)

/-- The writing of `diagnosis.json`. -/
def persistReport (report : DiagnosisReportV1) (s : ColdPathRun) : ColdPathExit :=
  match diagnosisCasefile call.caseId report call.triageHash with
  | .error e => (.error e, s)
  | .ok casefile =>
    match persistColdPath s.objects casefile faults with
    | (result, objects) => (result, { s with objects })

/-- `_make_and_persist_fallback`. -/
def makeAndPersistFallback (reasonCodes gaps : List String) (s : ColdPathRun) : ColdPathExit :=
  match fallbackReport reasonCodes call.caseId call.triageHash gaps with
  | .error e => (.error e, s)
  | .ok report => persistReport call faults report s

/-- The handlers of a failed call: the model is marked degraded, the failure is recorded and the
fallback report is stored. -/
def fallBack (healthReason reasonCode errorType : String) (s : ColdPathRun)
    (gaps : List String := []) (timeout : Bool := false) : ColdPathExit :=
  makeAndPersistFallback call faults [reasonCode] gaps
    ((s.updateLlm .degraded healthReason).record
      { result := .fallback, fallbackReason := reasonCode, errorType := errorType, timeout })

/-- The handler of `pydantic.ValidationError`, at both places. -/
def schemaInvalid (s : ColdPathRun) : ColdPathExit :=
  fallBack call faults "cold_path_schema_invalid" "LLM_SCHEMA_INVALID" "ValidationError" s
    ["LLM output failed schema validation"]

/-- The report of the model after the denylist, with the case and the hash of the call; none when
the answer is no report or the denylist leaves none. -/
def llmReport (rawReport : Json) : Option DiagnosisReportV1 :=
  match DiagnosisReportV1.validate rawReport with
  | .error _ => none
  | .ok validated =>
    match DiagnosisReportV1.validate (.obj (Dict.setEntries "case_id" (.str call.caseId)
        (Dict.setEntries "triage_hash" (.str call.triageHash)
          (applyDenylist call.denylist validated.fields)))) with
    | .error _ => none
    | .ok report => some report

/-- The last part of the call: the report of the model is stored. -/
def storeOwn (report : DiagnosisReportV1) (s : ColdPathRun) : ColdPathExit :=
  match persistReport call faults report s with
  | (.error e, s) => (.error e, (s.updateLlm .degraded "cold_path_invocation_failed").record
      { result := .error, errorType := some e.className })
  | (.ok report, s) => (.ok report, (s.updateLlm .healthy).record { result := .success })

/-- The body of the outermost `try`, with the class of an exception of the model. -/
def invoke (exceptionClass : String) (s : ColdPathRun) : ColdPathExit :=
  match call.answer with
  | .timeout => fallBack call faults "cold_path_timeout" "LLM_TIMEOUT" "TimeoutError" s [] true
  | .validationError => schemaInvalid call faults s
  | .transportError =>
    fallBack call faults "cold_path_unavailable" "LLM_UNAVAILABLE" exceptionClass s
  | .otherError =>
    fallBack call faults "cold_path_invocation_failed" "LLM_ERROR" exceptionClass s
  | .answered none =>
    fallBack call faults "cold_path_invocation_failed" "LLM_ERROR" "RuntimeError" s
  | .answered (some rawReport) =>
    match llmReport call rawReport with
    | none => schemaInvalid call faults s
    | some report => storeOwn call faults report s

/-- The start of a call. -/
def ColdPathWorld.start (w : ColdPathWorld) : ColdPathRun :=
  let started : ColdPathRun := { w with inflight := w.inflight + 1 }
  started.updateLlm .healthy "cold_path_invocation_started"

/-- The outermost handler, and `finally`. -/
def finish : ColdPathExit → Except Failure DiagnosisReportV1 × ColdPathWorld
  | (.error e, s) =>
    let s := s.record { result := .error, errorType := some e.className }
    (.error e, { s.toColdPathWorld with inflight := s.inflight - 1 })
  | (.ok report, s) => (.ok report, { s.toColdPathWorld with inflight := s.inflight - 1 })

/-- `run_cold_path_diagnosis`. -/
def runColdPath (exceptionClass : String) (w : ColdPathWorld) :
    Except Failure DiagnosisReportV1 × ColdPathWorld :=
  match call.triageExcerpt.sanitize call.denylist with
  | .error path => (.error (.validationError "TriageExcerptV1" path), w)
  | .ok _ => finish (invoke call faults exceptionClass w.start)

end Call

/-! ## One record, one flight -/

/-- What an exit of the body leaves: one record more, and the gauge where it was. -/
structure Settles (s s' : ColdPathRun) : Prop where
  /-- the call is recorded -/
  recorded : s'.llmMetricsRecorded = true
  /-- once -/
  once : ∃ completion, s'.completions = s.completions ++ [completion]
  /-- the gauge is not touched -/
  inflight : s'.inflight = s.inflight

/-- An update of the registry followed by the first record settles the call. -/
theorem settles_record {s : ColdPathRun} (h : s.llmMetricsRecorded = false) (status : HealthStatus)
    (reason : Option String) (completion : LlmCompletion) :
    Settles s ((s.updateLlm status reason).record completion) := by
  have hfresh : (s.updateLlm status reason).llmMetricsRecorded = false := h
  rw [ColdPathRun.record, hfresh]
  exact ⟨rfl, ⟨completion, rfl⟩, rfl⟩

/-- A recorded call is not recorded again. -/
theorem record_of_recorded {s : ColdPathRun} (h : s.llmMetricsRecorded = true)
    (completion : LlmCompletion) : s.record completion = s := if_pos h

section Call

variable [Platform] {call : ColdPathCall} {faults : WriteFaults}

/-- Writing the file touches the store only. -/
theorem persistReport_state (report : DiagnosisReportV1) (s : ColdPathRun) :
    ∃ objects, (persistReport call faults report s).2 = { s with objects } := by
  unfold persistReport
  split
  · exact ⟨s.objects, rfl⟩
  · exact ⟨_, rfl⟩

theorem makeAndPersistFallback_state (reasonCodes gaps : List String) (s : ColdPathRun) :
    ∃ objects, (makeAndPersistFallback call faults reasonCodes gaps s).2 = { s with objects } := by
  unfold makeAndPersistFallback
  split
  · exact ⟨s.objects, rfl⟩
  · exact persistReport_state _ s

/-- A fallback settles the call, with the model marked degraded. -/
theorem settles_fallBack {s : ColdPathRun} (h : s.llmMetricsRecorded = false)
    (healthReason reasonCode errorType : String) (gaps : List String) (timeout : Bool) :
    Settles s (fallBack call faults healthReason reasonCode errorType s gaps timeout).2 ∧
      (fallBack call faults healthReason reasonCode errorType s gaps timeout).2.health.get "llm" =
        some .degraded := by
  obtain ⟨hrecorded, honce, hinflight⟩ := settles_record h .degraded (some healthReason)
    { result := .fallback, fallbackReason := reasonCode, errorType := errorType, timeout }
  have hhealth : (((s.updateLlm .degraded (some healthReason)).record
      { result := .fallback, fallbackReason := reasonCode, errorType := errorType,
        timeout }).health.get "llm") = some .degraded := by
    rw [ColdPathRun.record]
    split
    · exact (HealthRegistry.get_update _ _ _ _ _).trans (if_pos rfl)
    · exact (HealthRegistry.get_update _ _ _ _ _).trans (if_pos rfl)
  obtain ⟨objects, hstate⟩ := @makeAndPersistFallback_state _ call faults
    [reasonCode] gaps ((s.updateLlm .degraded (some healthReason)).record
      { result := .fallback, fallbackReason := reasonCode, errorType := errorType, timeout })
  rw [fallBack, hstate]
  exact ⟨⟨hrecorded, honce, hinflight⟩, hhealth⟩

/-- Storing the report of the model settles the call. -/
theorem settles_storeOwn {s : ColdPathRun} (h : s.llmMetricsRecorded = false)
    (report : DiagnosisReportV1) : Settles s (storeOwn call faults report s).2 := by
  obtain ⟨objects, hstate⟩ := @persistReport_state _ call faults report s
  unfold storeOwn
  split
  · next e after heq =>
    rw [heq] at hstate
    obtain rfl : after = { s with objects } := hstate
    obtain ⟨hrecorded, honce, hinflight⟩ := settles_record (s := { s with objects }) h .degraded
      "cold_path_invocation_failed" { result := .error, errorType := some e.className }
    exact ⟨hrecorded, honce, hinflight⟩
  · next stored after heq =>
    rw [heq] at hstate
    obtain rfl : after = { s with objects } := hstate
    obtain ⟨hrecorded, honce, hinflight⟩ := settles_record (s := { s with objects }) h .healthy none
      { result := .success }
    exact ⟨hrecorded, honce, hinflight⟩

/-- So does the whole body. -/
theorem settles_invoke {s : ColdPathRun} (h : s.llmMetricsRecorded = false)
    (exceptionClass : String) : Settles s (invoke call faults exceptionClass s).2 := by
  unfold invoke
  split
  · exact (settles_fallBack h _ _ _ _ _).1
  · exact (settles_fallBack h _ _ _ _ _).1
  · exact (settles_fallBack h _ _ _ _ _).1
  · exact (settles_fallBack h _ _ _ _ _).1
  · exact (settles_fallBack h _ _ _ _ _).1
  · split
    · exact (settles_fallBack h _ _ _ _ _).1
    · exact settles_storeOwn h _

omit [Platform] in
/-- Of a settled call the outermost handler changes the gauge only. -/
theorem finish_of_settles {s : ColdPathRun} {e : ColdPathExit} (h : Settles s e.2) :
    finish e = (e.1, { e.2.toColdPathWorld with inflight := s.inflight - 1 }) := by
  obtain ⟨result, after⟩ := e
  rw [← h.inflight]
  cases result with
  | error e =>
    rw [finish]
    simp only [record_of_recorded h.recorded]
  | ok report => rfl

/-- A call whose excerpt survives the denylist is its body, which is settled. -/
theorem runColdPath_of_excerpt {excerpt : TriageExcerptV1}
    (hexcerpt : call.triageExcerpt.sanitize call.denylist = .ok excerpt) (exceptionClass : String)
    (w : ColdPathWorld) :
    Settles w.start (invoke call faults exceptionClass w.start).2 ∧
      runColdPath call faults exceptionClass w =
        ((invoke call faults exceptionClass w.start).1,
          { (invoke call faults exceptionClass w.start).2.toColdPathWorld with
            inflight := w.inflight }) := by
  have hsettles : Settles w.start (invoke call faults exceptionClass w.start).2 :=
    settles_invoke rfl exceptionClass
  refine ⟨hsettles, ?_⟩
  unfold runColdPath
  rw [hexcerpt]
  have hinflight : w.start.inflight - 1 = w.inflight := by
    show w.inflight + 1 - 1 = w.inflight
    omega
  simp only [finish_of_settles hsettles, hinflight]

/-- **Balance.** Whatever the model answers and whatever the store does, a call whose excerpt
survives the denylist is recorded once and leaves the number in flight as it was. -/
theorem runColdPath_balanced {excerpt : TriageExcerptV1}
    (hexcerpt : call.triageExcerpt.sanitize call.denylist = .ok excerpt) (exceptionClass : String)
    (w : ColdPathWorld) :
    (runColdPath call faults exceptionClass w).2.inflight = w.inflight ∧
      ∃ completion, (runColdPath call faults exceptionClass w).2.completions =
        w.completions ++ [completion] := by
  obtain ⟨hsettles, hrun⟩ := @runColdPath_of_excerpt _ _ faults _ hexcerpt exceptionClass w
  rw [hrun]
  exact ⟨rfl, hsettles.once⟩

/-! ## One report -/

/-- The report of the model, when the answer is one and the denylist leaves one. -/
def ColdPathCall.ownReport (call : ColdPathCall) : Option DiagnosisReportV1 :=
  match call.answer with
  | .answered (some rawReport) => llmReport call rawReport
  | _ => none

/-- The report of a call is the model's own, when there is one. -/
theorem coldPathReport_answered {rawReport : Json} (h : call.answer = .answered (some rawReport)) :
    coldPathReport call = match llmReport call rawReport with
      | none => schemaInvalidReport call.caseId call.triageHash
      | some report => .ok report := by
  cases hanswer : DiagnosisReportV1.validate rawReport with
  | error e => simp only [coldPathReport, llmReport, h, hanswer]
  | ok validated =>
    cases hreport : DiagnosisReportV1.validate (.obj (Dict.setEntries "case_id" (.str call.caseId)
        (Dict.setEntries "triage_hash" (.str call.triageHash)
          (applyDenylist call.denylist validated.fields)))) with
    | error e => simp only [coldPathReport, llmReport, h, hanswer, hreport]
    | ok report => simp only [coldPathReport, llmReport, h, hanswer, hreport]

/-- Storing a report, as far as the result and the store are concerned. -/
def storeReport (call : ColdPathCall) (faults : WriteFaults) (report : DiagnosisReportV1)
    (objects : ObjectStore) : Except Failure DiagnosisReportV1 × ObjectStore :=
  match diagnosisCasefile call.caseId report call.triageHash with
  | .error e => (.error e, objects)
  | .ok casefile => persistColdPath objects casefile faults

theorem persistReport_eq (report : DiagnosisReportV1) (s : ColdPathRun) :
    persistReport call faults report s =
      ((storeReport call faults report s.objects).1,
        { s with objects := (storeReport call faults report s.objects).2 }) := by
  unfold persistReport storeReport
  split
  · rfl
  · rfl

/-- A fallback stores its report. -/
theorem fallBack_stores {reasonCode : String} {gaps : List String} {report : DiagnosisReportV1}
    (h : fallbackReport [reasonCode] call.caseId call.triageHash gaps = .ok report)
    (healthReason errorType : String) (timeout : Bool) (s : ColdPathRun) :
    (fallBack call faults healthReason reasonCode errorType s gaps timeout).1 =
        (storeReport call faults report s.objects).1 ∧
      (fallBack call faults healthReason reasonCode errorType s gaps timeout).2.objects =
        (storeReport call faults report s.objects).2 := by
  have hobjects : ∀ status reason completion,
      ((s.updateLlm status reason).record completion).objects = s.objects := by
    intro status reason completion
    rw [ColdPathRun.record]
    split
    · rfl
    · rfl
  simp only [fallBack, makeAndPersistFallback, h, persistReport_eq, hobjects, and_self]

/-- The body of a call stores the report of the call. -/
theorem invoke_stores {report : DiagnosisReportV1} (hreport : coldPathReport call = .ok report)
    (exceptionClass : String) (s : ColdPathRun) :
    (invoke call faults exceptionClass s).1 = (storeReport call faults report s.objects).1 ∧
      (invoke call faults exceptionClass s).2.objects =
        (storeReport call faults report s.objects).2 := by
  unfold invoke
  cases hanswer : call.answer with
  | answered rawReport =>
    cases rawReport with
    | none =>
      rw [coldPathReport, hanswer] at hreport
      exact fallBack_stores hreport _ _ _ s
    | some rawReport =>
      rw [coldPathReport_answered hanswer] at hreport
      simp only
      cases hown : llmReport call rawReport with
      | none =>
        rw [hown] at hreport
        exact fallBack_stores hreport _ _ _ s
      | some own =>
        rw [hown] at hreport
        obtain rfl : own = report := Except.ok.inj hreport
        have hrecord : ∀ (t : ColdPathRun) completion,
            (t.record completion).objects = t.objects := by
          intro t completion
          rw [ColdPathRun.record]
          split
          · rfl
          · rfl
        simp only [storeOwn, persistReport_eq]
        cases (storeReport call faults own s.objects).1 with
        | error e => exact ⟨rfl, hrecord _ _⟩
        | ok stored => exact ⟨rfl, hrecord _ _⟩
  | _ =>
    rw [coldPathReport, hanswer] at hreport
    exact fallBack_stores hreport _ _ _ s

/-- **Refinement**: of what a call leaves behind, the result and the store are those of
`runColdPathDiagnosis`. -/
theorem runColdPath_refines (exceptionClass : String) (w : ColdPathWorld) :
    (runColdPath call faults exceptionClass w).1 =
        (runColdPathDiagnosis w.objects call faults).1 ∧
      (runColdPath call faults exceptionClass w).2.objects =
        (runColdPathDiagnosis w.objects call faults).2 := by
  cases hexcerpt : call.triageExcerpt.sanitize call.denylist with
  | error path =>
    simp only [runColdPath, runColdPathDiagnosis, coldPathCasefile, hexcerpt, and_self]
  | ok excerpt =>
    obtain ⟨report, hreport⟩ := coldPathReport_returns call
    obtain ⟨-, hrun⟩ := @runColdPath_of_excerpt _ _ faults _ hexcerpt exceptionClass w
    have hplain : runColdPathDiagnosis w.objects call faults =
        storeReport call faults report w.objects := by
      cases hfile : diagnosisCasefile call.caseId report call.triageHash with
      | error e => simp only [runColdPathDiagnosis, coldPathCasefile, hexcerpt, hreport,
          Except.ok_bind, storeReport, hfile]
      | ok casefile => simp only [runColdPathDiagnosis, coldPathCasefile, hexcerpt, hreport,
          Except.ok_bind, storeReport, hfile]
    rw [hrun, hplain]
    exact invoke_stores hreport exceptionClass w.start

/-- A store that has no diagnosis file of the case takes the one of the report. -/
theorem storeReport_of_free (report : DiagnosisReportV1) {objects : ObjectStore}
    (hhash : isHex64 call.triageHash = true) (hcase : PyText.isBlank call.caseId = false)
    (hfree : objects.get? (stageKey call.caseId .diagnosis) = none) :
    ∃ casefile : CaseFileDiagnosisV1,
      storeReport call {} report objects =
        (.ok report, objects.set (stageKey call.caseId .diagnosis)
          (diagnosisModel.serialize casefile)) ∧
      diagnosisModel.validateJson (diagnosisModel.serialize casefile) = .ok casefile ∧
      casefile.caseId = call.caseId ∧ casefile.triageHash.val = call.triageHash ∧
      casefile.diagnosisReport = report := by
  let draft : CaseFileDiagnosisV1 :=
    ⟨call.caseId, report, ⟨call.triageHash, hhash⟩, hashPlaceholder⟩
  have hcasefile : diagnosisCasefile call.caseId report call.triageHash =
      .ok (diagnosisModel.finalize draft) := dif_pos hhash
  obtain ⟨result, hwrite⟩ := @persistWriteOnce_of_takes _ diagnosisModel _ _ _ _ _ {}
    (StageModel.stageHash_finalize draft) rfl
    ⟨hcase, rfl, .inl hfree⟩
  refine ⟨diagnosisModel.finalize draft, ?_, ?_, rfl, rfl, rfl⟩
  · rw [storeReport, hcasefile]
    show persistColdPath objects (diagnosisModel.finalize draft) {} = _
    rw [persistColdPath]
    have hkey : (diagnosisModel.finalize draft).caseId = call.caseId := rfl
    rw [hkey, hwrite]
    rfl
  · exact (StageModel.validateJson_finalize _ _).mpr ⟨rfl, rfl⟩

/-- The report of the model is the report of the call. -/
theorem coldPathReport_of_own {own : DiagnosisReportV1} (h : call.ownReport = some own) :
    coldPathReport call = .ok own := by
  unfold ColdPathCall.ownReport at h
  split at h
  · next rawReport hanswer => rw [coldPathReport_answered hanswer, h]
  · cases h

/-- When every report can be stored, the model ends healthy exactly when it gave one. -/
theorem health_invoke {s : ColdPathRun} (h : s.llmMetricsRecorded = false)
    (hstore : ∀ report, (storeReport call faults report s.objects).1 = .ok report)
    (exceptionClass : String) :
    (invoke call faults exceptionClass s).2.health.get "llm" = some .healthy ↔
      ∃ own, call.ownReport = some own := by
  have hdegraded : ∀ healthReason reasonCode errorType gaps timeout,
      (fallBack call faults healthReason reasonCode errorType s gaps timeout).2.health.get "llm" ≠
        some .healthy := by
    intro healthReason reasonCode errorType gaps timeout heq
    rw [(settles_fallBack h _ _ _ _ _).2] at heq
    cases heq
  unfold invoke ColdPathCall.ownReport
  cases call.answer with
  | answered rawReport =>
    cases rawReport with
    | none => exact iff_of_false (hdegraded _ _ _ _ _) (by rintro ⟨_, ⟨⟩⟩)
    | some rawReport =>
      simp only
      cases llmReport call rawReport with
      | none => exact iff_of_false (hdegraded _ _ _ _ _) (by rintro ⟨_, ⟨⟩⟩)
      | some own =>
        refine iff_of_true ?_ ⟨own, rfl⟩
        simp only [storeOwn, persistReport_eq, hstore, ColdPathRun.record]
        split
        · exact (HealthRegistry.get_update _ _ _ _ _).trans (if_pos rfl)
        · exact (HealthRegistry.get_update _ _ _ _ _).trans (if_pos rfl)
  | _ => exact iff_of_false (hdegraded _ _ _ _ _) (by rintro ⟨_, ⟨⟩⟩)

/-- **One outcome.** A call whose excerpt survives the denylist, on a store without a diagnosis
file of its case, returns a report whatever the model answers. The file it stores is sealed and
has this report, the case and the triage hash of the call; one completion is recorded, the number
in flight is what it was, and the model ends healthy exactly when its own report was stored. -/
theorem cold_path_outcome {w : ColdPathWorld}
    (hexcerpt : ∃ excerpt, call.triageExcerpt.sanitize call.denylist = .ok excerpt)
    (hcase : PyText.isBlank call.caseId = false) (hhash : isHex64 call.triageHash = true)
    (hfree : w.objects.get? (stageKey call.caseId .diagnosis) = none) (exceptionClass : String) :
    ∃ (report : DiagnosisReportV1) (w' : ColdPathWorld) (body : Bytes)
      (casefile : CaseFileDiagnosisV1) (completion : LlmCompletion),
      runColdPath call {} exceptionClass w = (.ok report, w') ∧
      w'.objects = w.objects.set (stageKey call.caseId .diagnosis) body ∧
      diagnosisModel.validateJson body = .ok casefile ∧ casefile.diagnosisReport = report ∧
      casefile.caseId = call.caseId ∧ casefile.triageHash.val = call.triageHash ∧
      diagnosisModel.stageHash casefile = diagnosisModel.computeHash casefile ∧
      w'.completions = w.completions ++ [completion] ∧ w'.inflight = w.inflight ∧
      (w'.health.get "llm" = some .healthy ↔ call.ownReport = some report) := by
  obtain ⟨excerpt, hexcerpt⟩ := hexcerpt
  obtain ⟨report, hreport⟩ := coldPathReport_returns call
  obtain ⟨casefile, hstore, hread, hid, hname, hcontent⟩ :=
    storeReport_of_free report hhash hcase hfree
  obtain ⟨hsettles, hrun⟩ := @runColdPath_of_excerpt _ _ {} _ hexcerpt exceptionClass w
  obtain ⟨hresult, hobjects⟩ := @invoke_stores _ _ {} _ hreport exceptionClass w.start
  have hfree' : w.start.objects = w.objects := rfl
  rw [hfree', hstore] at hresult hobjects
  obtain ⟨completion, honce⟩ := hsettles.once
  refine ⟨report, { (invoke call {} exceptionClass w.start).2.toColdPathWorld with
    inflight := w.inflight }, _, casefile, completion, ?_, hobjects, hread, hcontent, hid, hname,
    StageModel.sealed_of_validateJson hread, honce, rfl, ?_⟩
  · rw [hrun, hresult]
  · have hstores : ∀ r, (storeReport call {} r w.start.objects).1 = .ok r := by
      intro r
      obtain ⟨_, hr, -⟩ := storeReport_of_free r hhash hcase hfree
      rw [hfree', hr]
    rw [@health_invoke _ _ {} w.start rfl hstores]
    constructor
    · rintro ⟨own, hown⟩
      rw [coldPathReport_of_own hown] at hreport
      rw [hown, Except.ok.inj hreport]
    · exact fun h => ⟨report, h⟩

end Call

/-- The orders case, whose model does not answer in time: the report is a fallback. -/
theorem cold_path_outcome_timeout :
    let := asciiPlatform []
    ∃ (report : DiagnosisReportV1) (w' : ColdPathWorld) (body : Bytes)
      (casefile : CaseFileDiagnosisV1) (completion : LlmCompletion),
      runColdPath (ordersCall hashPlaceholder) {} "" { objects := .empty } = (.ok report, w') ∧
      w'.objects = Dict.empty.set (stageKey ordersTriage.caseId .diagnosis) body ∧
      diagnosisModel.validateJson body = .ok casefile ∧ casefile.diagnosisReport = report ∧
      casefile.caseId = ordersTriage.caseId ∧ casefile.triageHash.val = hashPlaceholder.val ∧
      diagnosisModel.stageHash casefile = diagnosisModel.computeHash casefile ∧
      w'.completions = [completion] ∧ w'.inflight = 0 ∧
      (w'.health.get "llm" = some .healthy ↔ none = some report) :=
  @cold_path_outcome (asciiPlatform []) (ordersCall hashPlaceholder) { objects := .empty }
    ⟨_, @TriageExcerptV1.sanitize_of_removesNothing (asciiPlatform []) _
      (@ordersConfig_removesNothing (asciiPlatform [])) (ordersCall hashPlaceholder).triageExcerpt⟩
    (by decide) hashPlaceholder.2 rfl ""

end AiopsTriage
