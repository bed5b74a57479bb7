import AiopsTriage.CaseFile.Triage
import AiopsTriage.Denylist
import AiopsTriage.Gating.Evaluate

/-!
# Assembling a triage file

`assembleCasefileTriageStage` puts the stage outputs and the decision together
(`draftCasefile`), sanitises the dump with the denylist and validates what is left,
seals it and reads its bytes back.

Under a denylist that removes nothing, a triage file is assembled exactly when its draft
is there and its typed floats are finite, and it is then the sealed draft after JSON
text (`assemble_eq_ok`).
-/

namespace AiopsTriage

open Json

/-! ## Drafts -/

/-- The policies a case is stamped with. -/
structure TriagePolicies where
  /-- the rulebook -/
  rulebook : RulebookV1
  /-- `PeakPolicyV1.schema_version` -/
  peakPolicyVersion : String := "v1"
  /-- `PrometheusMetricsContractV1.version` -/
  prometheusMetricsContractVersion : String
  /-- the exposure denylist -/
  denylist : DenylistV1
  /-- the version of the diagnosis policy -/
  diagnosisPolicyVersion : String := "v1"

/-- What the stages before hand over for one case. -/
structure StageOutputs where
  /-- the evidence stage -/
  evidenceOutput : EvidenceStageOutput
  /-- the peak stage -/
  peakOutput : PeakStageOutput
  /-- the topology stage -/
  topologyOutput : TopologyStageOutput

/-- `_build_topology_context`. -/
def buildTopologyContext (scope : Scope) (topologyOutput : TopologyStageOutput) :
    Except Failure CaseFileTopologyContext :=
  match resolveScopeMapping scope topologyOutput.contextByScope,
    resolveScopeMapping scope topologyOutput.impactByScope,
    resolveScopeMapping scope topologyOutput.routingByScope with
  | some context, some impact, some routing => .ok
      { streamId := context.streamId
        topicRole := context.topicRole
        criticalityTier := context.criticalityTier
        sourceSystem := context.sourceSystem
        blastRadius := impact.blastRadius
        downstreamImpacts := impact.downstreamImpacts
        routing }
  | _, _, _ => .error (.keyError
      s!"Missing topology context required for casefile scope={reprTuple scope}")

/-- `_build_evidence_snapshot`. -/
def buildEvidenceSnapshot (scope : Scope) (evidenceOutput : EvidenceStageOutput)
    (peakOutput : PeakStageOutput) (gateInput : GateInputV1) : CaseFileEvidenceSnapshot :=
  let statusMap := (evidenceOutput.evidenceStatusMapByScope.get? scope).getD .empty
  { scope := some scope
    rows := evidenceOutput.rows.filter fun row => row.scope == scope
    evidenceStatusMap := if statusMap.entries.isEmpty then gateInput.evidenceStatusMap else statusMap
    telemetryDegradedActive := evidenceOutput.telemetryDegradedActive
    maxSafeAction := evidenceOutput.maxSafeAction
    peakContext := peakOutput.peakContextByScope.get?
      [StrEnum.value gateInput.env, gateInput.clusterId, gateInput.topic] }

/-- A version stamp, `Field(min_length=1)`. -/
def versionStamp (name version : String) : Except Failure NonEmpty :=
  if h : version ≠ "" then .ok ⟨version, h⟩
  else .error (.validationError "CaseFilePolicyVersions" [name])

/-- The version stamps of a case. -/
def TriagePolicies.versions (policies : TriagePolicies) : Except Failure CaseFilePolicyVersions := do
  let rulebookVersion ← versionStamp "rulebook_version" (toString policies.rulebook.version)
  let peakPolicyVersion ← versionStamp "peak_policy_version" policies.peakPolicyVersion
  let metricsVersion ← versionStamp "prometheus_metrics_contract_version"
    policies.prometheusMetricsContractVersion
  let denylistVersion ← versionStamp "exposure_denylist_version" policies.denylist.denylistVersion
  let diagnosisVersion ← versionStamp "diagnosis_policy_version" policies.diagnosisPolicyVersion
  return ⟨rulebookVersion, peakPolicyVersion, metricsVersion, denylistVersion, diagnosisVersion⟩

/-- `x or y` on an optional text. -/
def orElseText (x : Option String) (y : String) : String := (x.filter (· ≠ "")).getD y

/-- Every policy of a case has a version to stamp; the rulebook and the denylist always do. -/
structure TriagePolicies.Stamped (policies : TriagePolicies) : Prop where
  /-- the peak policy -/
  peak : policies.peakPolicyVersion ≠ ""
  /-- the metrics contract -/
  metrics : policies.prometheusMetricsContractVersion ≠ ""
  /-- the diagnosis policy -/
  diagnosis : policies.diagnosisPolicyVersion ≠ ""

theorem versionStamp_returns {name version : String} :
    (∃ v, versionStamp name version = .ok v) ↔ version ≠ "" := by
  unfold versionStamp
  split
  · next h => exact ⟨fun _ => h, fun _ => ⟨_, rfl⟩⟩
  · next h => exact ⟨fun ⟨_, hv⟩ => (by cases hv), fun hv => absurd hv h⟩

theorem versionOfInt_ne (n : Int) : toString n ≠ "" := by
  cases n with
  | ofNat n => exact Nat.repr_ne_empty
  | negSucc n =>
    intro h
    have hlength := congrArg String.length h
    simp [toString, Int.repr] at hlength

/-- The stamps are there exactly when every policy has a version. -/
theorem versions_returns {policies : TriagePolicies} :
    (∃ v, policies.versions = .ok v) ↔ policies.Stamped := by
  constructor
  · rintro ⟨v, h⟩
    obtain ⟨_, -, h⟩ := Except.bind_eq_ok.mp h
    obtain ⟨_, hpeak, h⟩ := Except.bind_eq_ok.mp h
    obtain ⟨_, hmetrics, h⟩ := Except.bind_eq_ok.mp h
    obtain ⟨_, -, h⟩ := Except.bind_eq_ok.mp h
    obtain ⟨_, hdiagnosis, -⟩ := Except.bind_eq_ok.mp h
    exact ⟨versionStamp_returns.mp ⟨_, hpeak⟩, versionStamp_returns.mp ⟨_, hmetrics⟩,
      versionStamp_returns.mp ⟨_, hdiagnosis⟩⟩
  · rintro ⟨hpeak, hmetrics, hdiagnosis⟩
    unfold TriagePolicies.versions
    simp only [versionStamp, dif_pos hpeak, dif_pos hmetrics, dif_pos hdiagnosis,
      dif_pos (versionOfInt_ne policies.rulebook.version), dif_pos policies.denylist.version_ne]
    exact ⟨_, rfl⟩

section Assembly

variable [Platform]

/-- `_derive_case_id`: the same for every anomaly with the same fingerprint. -/
def deriveCaseId (gateInput : GateInputV1) : String :=
  let digestPrefix := String.ofList
    ((sha256Hex (.utf8 gateInput.actionFingerprint)).val.toList.take 12)
  s!"case-{StrEnum.value gateInput.env}-{gateInput.clusterId}-{gateInput.topic}-{digestPrefix}"

/-- The case id of a gate input, when the caller gives none. -/
def caseIdOf (gateInput : GateInputV1) : String :=
  orElseText gateInput.caseId (deriveCaseId gateInput)

/-- `assemble_casefile_triage_stage` up to the record that is sanitised. -/
def draftCasefile (scope : Scope) (outputs : StageOutputs) (policies : TriagePolicies)
    (gateInput : GateInputV1) (actionDecision : ActionDecisionV1) (triageTimestamp : DateTime)
    (caseId : Option String := none) : Except Failure CaseFileTriageV1 := do
  raiseIf (gateInput.actionFingerprint ≠ actionDecision.actionFingerprint)
    (.valueError "gate_input/action_decision action_fingerprint mismatch")
  raiseIf (¬(scope.length = 3 ∨ scope.length = 4))
    (.valueError s!"Unsupported scope shape for casefile assembly: {reprTuple scope}")
  raiseIf (PyText.isBlank policies.diagnosisPolicyVersion = true)
    (.valueError "diagnosis_policy_version must not be empty")
  let triageTimestamp ← (
    match triageTimestamp with
    | .aware t => .ok t
    | .naive _ => .error (.valueError "triage_timestamp must be timezone-aware"))
  let topologyContext ← buildTopologyContext scope outputs.topologyOutput
  let policyVersions ← policies.versions
  return {
    caseId := orElseText caseId (caseIdOf gateInput)
    evidenceSnapshot :=
      buildEvidenceSnapshot scope outputs.evidenceOutput outputs.peakOutput gateInput
    triageHash := hashPlaceholder
    scope, triageTimestamp, topologyContext, gateInput, actionDecision, policyVersions }

/-- `_sanitize_casefile`. -/
def sanitizeCasefile (casefile : CaseFileTriageV1) (denylist : DenylistV1) :
    Except Failure CaseFileTriageV1 :=
  match CaseFileTriageV1.validate (.obj (applyDenylist denylist casefile.fields)) with
  | .ok sanitized => .ok sanitized
  | .error path => .error (.validationError "CaseFileTriageV1" path)

/-- `assemble_casefile_triage_stage`. -/
def assembleCasefileTriageStage (scope : Scope) (outputs : StageOutputs)
    (policies : TriagePolicies) (gateInput : GateInputV1) (actionDecision : ActionDecisionV1)
    (triageTimestamp : DateTime) (caseId : Option String := none) :
    Except Failure CaseFileTriageV1 := do
  let casefile ← draftCasefile scope outputs policies gateInput actionDecision triageTimestamp caseId
  let sanitized ← sanitizeCasefile casefile policies.denylist
  triageModel.validateJson (triageModel.serialize (triageModel.finalize sanitized))

/-! ## What is assembled -/

variable {scope : Scope} {outputs : StageOutputs} {policies : TriagePolicies}
  {gateInput : GateInputV1} {actionDecision : ActionDecisionV1} {triageTimestamp : DateTime}
  {caseId : Option String}

/-- What a draft is made of. -/
theorem draftCasefile_ok {draft : CaseFileTriageV1}
    (h : draftCasefile scope outputs policies gateInput actionDecision triageTimestamp caseId =
      .ok draft) :
    policies.Stamped ∧ draft.caseId = orElseText caseId (caseIdOf gateInput) ∧
      draft.gateInput = gateInput ∧ draft.actionDecision = actionDecision ∧
      draft.evidenceSnapshot =
        buildEvidenceSnapshot scope outputs.evidenceOutput outputs.peakOutput gateInput ∧
      draft.scope = scope := by
  obtain ⟨_, -, h⟩ := Except.bind_eq_ok.mp h
  obtain ⟨_, -, h⟩ := Except.bind_eq_ok.mp h
  obtain ⟨_, -, h⟩ := Except.bind_eq_ok.mp h
  obtain ⟨t, -, h⟩ := Except.bind_eq_ok.mp h
  obtain ⟨topologyContext, -, h⟩ := Except.bind_eq_ok.mp h
  obtain ⟨policyVersions, hversions, h⟩ := Except.bind_eq_ok.mp h
  cases h
  exact ⟨versions_returns.mp ⟨_, hversions⟩, rfl, rfl, rfl, rfl, rfl⟩

/-- The version of the rulebook is stamped as its text. -/
theorem draftCasefile_rulebookVersion {draft : CaseFileTriageV1}
    (h : draftCasefile scope outputs policies gateInput actionDecision triageTimestamp caseId =
      .ok draft) :
    draft.policyVersions.rulebookVersion.val = toString policies.rulebook.version := by
  obtain ⟨_, -, h⟩ := Except.bind_eq_ok.mp h
  obtain ⟨_, -, h⟩ := Except.bind_eq_ok.mp h
  obtain ⟨_, -, h⟩ := Except.bind_eq_ok.mp h
  obtain ⟨t, -, h⟩ := Except.bind_eq_ok.mp h
  obtain ⟨topologyContext, -, h⟩ := Except.bind_eq_ok.mp h
  obtain ⟨policyVersions, hversions, h⟩ := Except.bind_eq_ok.mp h
  cases h
  obtain ⟨rulebookVersion, hrulebook, hversions⟩ := Except.bind_eq_ok.mp hversions
  obtain ⟨_, -, hversions⟩ := Except.bind_eq_ok.mp hversions
  obtain ⟨_, -, hversions⟩ := Except.bind_eq_ok.mp hversions
  obtain ⟨_, -, hversions⟩ := Except.bind_eq_ok.mp hversions
  obtain ⟨_, -, hversions⟩ := Except.bind_eq_ok.mp hversions
  cases hversions
  unfold versionStamp at hrulebook
  rw [dif_pos (versionOfInt_ne _)] at hrulebook
  cases hrulebook
  rfl

/-- What it takes to make one. -/
theorem draftCasefile_returns {t : Instant}
    (hsame : gateInput.actionFingerprint = actionDecision.actionFingerprint)
    (hshape : scope.length = 3 ∨ scope.length = 4)
    (hdiagnosis : PyText.isBlank policies.diagnosisPolicyVersion = false)
    (hcontext : (resolveScopeMapping scope outputs.topologyOutput.contextByScope).isSome)
    (haligned : outputs.topologyOutput.Aligned) (hstamped : policies.Stamped) :
    ∃ draft, draftCasefile scope outputs policies gateInput actionDecision (.aware t) caseId =
      .ok draft := by
  -- the topology has all three values
  obtain ⟨context, hcontext'⟩ := Option.isSome_iff_exists.mp hcontext
  obtain ⟨impact, himpact⟩ := Option.isSome_iff_exists.mp
    ((resolveScopeMapping_isSome_congr haligned.impact scope).symm.trans hcontext)
  obtain ⟨routing, hrouting⟩ := Option.isSome_iff_exists.mp
    ((resolveScopeMapping_isSome_congr haligned.routing scope).symm.trans hcontext)
  obtain ⟨versions, hversions⟩ := versions_returns.mpr hstamped
  simp [draftCasefile, raiseIf, hsame, hshape, hdiagnosis, buildTopologyContext, hcontext', himpact,
    hrouting, hversions, pure, Except.pure]

/-- Under a denylist that removes nothing, sanitising changes nothing. -/
theorem sanitizeCasefile_of_removesNothing {denylist : DenylistV1} (h : denylist.RemovesNothing)
    (casefile : CaseFileTriageV1) : sanitizeCasefile casefile denylist = .ok casefile := by
  rw [sanitizeCasefile, h, CaseFileTriageV1.validate_fields]

/-- A field that is read after sanitising was kept, and its value is what is left of it. -/
theorem field_applyDenylist {α : Type} {denylist : DenylistV1} {fs : List (String × Json)}
    {key : String} {dec : Decoder α} {v : α} (hnodup : (fs.map Prod.fst).Nodup)
    (h : field (applyDenylist denylist fs) key dec = .ok v) :
    ∃ j kept, lookup key fs = some j ∧ sanitized denylist j = some kept ∧ dec kept = .ok v := by
  unfold field at h
  rw [lookup_applyDenylist hnodup] at h
  by_cases hname : denylist.deniesName key = true
  · rw [if_pos hname] at h
    cases h
  · rw [if_neg hname] at h
    rcases hj : lookup key fs with _ | j
    · rw [hj] at h
      cases h
    · rcases hkept : sanitized denylist j with _ | kept
      · simp [hj, hkept] at h
      · simp only [hj, Option.bind_some, hkept, within_eq_ok] at h
        exact ⟨j, kept, rfl, hkept, h⟩

/-- `a'` is read from what the denylist leaves of `a`, when it leaves anything. -/
def ReadFrom {α : Type} (denylist : DenylistV1) (c : Codec α) (a a' : α) : Prop :=
  ∃ kept, sanitized denylist (c.enc a) = some kept ∧ c.dec kept = .ok a'

/-- A required field of a record is read from what is left of it. -/
theorem readFrom_field {α : Type} {denylist : DenylistV1} {fs : List (String × Json)}
    {key : String} {c : Codec α} {a a' : α} (hnodup : (fs.map Prod.fst).Nodup)
    (h : field (applyDenylist denylist fs) key c.dec = .ok a')
    (hkey : lookup key fs = some (c.enc a)) : ReadFrom denylist c a a' := by
  obtain ⟨j, kept, hj, hkept, hdec⟩ := field_applyDenylist hnodup h
  obtain rfl := Option.some.inj (hkey.symm.trans hj)
  exact ⟨kept, hkept, hdec⟩

/-- What is written as one text is kept as it is, or not at all. -/
theorem ReadFrom.eq_of_str {α : Type} {denylist : DenylistV1} {c : Codec α} {a a' : α} {s : String}
    (h : ReadFrom denylist c a a') (hs : c.enc a = .str s) : a' = a := by
  obtain ⟨kept, hkept, hdec⟩ := h
  rw [hs, sanitized_str] at hkept
  split at hkept
  · cases hkept
  · cases hkept
    rw [← hs, c.dec_enc] at hdec
    exact (Except.ok.inj hdec).symm

/-- Texts that are read after sanitising are the ones that are not denied. -/
theorem ReadFrom.texts_eq {denylist : DenylistV1} {ts ts' : List String}
    (h : ReadFrom denylist texts ts ts') :
    ts' = ts.filter fun text => !denylist.deniesText text := by
  obtain ⟨kept, hkept, hdec⟩ := h
  have hitems : (ts.map Json.str).filterMap (sanitized denylist) =
      (ts.filter fun text => !denylist.deniesText text).map Json.str := by
    rw [List.filterMap_map, ← List.filterMap_eq_map, List.filterMap_filter]
    refine List.filterMap_congr fun text _ => ?_
    rw [Function.comp_apply, sanitized_str]
    cases denylist.deniesText text <;> rfl
  rw [show texts.enc ts = .arr (ts.map Json.str) from rfl, sanitized_arr, hitems,
    Option.some.injEq] at hkept
  subst hkept
  exact Except.ok.inj (hdec.symm.trans (texts.dec_enc _))

/-- A version that is read after sanitising is the one that was written. -/
theorem ReadFrom.rulebookVersion_eq {denylist : DenylistV1} {v v' : CaseFilePolicyVersions}
    (h : ReadFrom denylist versionsCodec v v') : v'.rulebookVersion = v.rulebookVersion := by
  obtain ⟨kept, hkept, h⟩ := h
  rw [versionsCodec, sanitized_obj, Option.some.injEq] at hkept
  subst hkept
  obtain ⟨fs, hfs, h⟩ := Except.bind_eq_ok.mp h
  cases hfs
  obtain ⟨version, hversion, h⟩ := Except.bind_eq_ok.mp h
  obtain ⟨_, -, h⟩ := Except.bind_eq_ok.mp h
  obtain ⟨_, -, h⟩ := Except.bind_eq_ok.mp h
  obtain ⟨_, -, h⟩ := Except.bind_eq_ok.mp h
  obtain ⟨_, -, h⟩ := Except.bind_eq_ok.mp h
  cases h
  exact (readFrom_field (by simp) hversion rfl).eq_of_str rfl

/-- What a sanitised decision has of the decision it was written from. -/
structure DecisionKept (denylist : DenylistV1) (decision decision' : ActionDecisionV1) : Prop where
  /-- the gates that are not denied -/
  gateRuleIds : decision'.gateRuleIds =
    decision.gateRuleIds.filter fun text => !denylist.deniesText text
  /-- the reason codes that are not denied -/
  gateReasonCodes : decision'.gateReasonCodes =
    decision.gateReasonCodes.filter fun text => !denylist.deniesText text

theorem ReadFrom.decisionKept {denylist : DenylistV1} {decision decision' : ActionDecisionV1}
    (h : ReadFrom denylist ActionDecisionV1.codec decision decision') :
    DecisionKept denylist decision decision' := by
  obtain ⟨kept, hkept, hdec⟩ := h
  rw [show ActionDecisionV1.codec.enc decision = decision.dump from rfl, ActionDecisionV1.dump,
    sanitized_obj, Option.some.injEq] at hkept
  subst hkept
  obtain ⟨fs, hfs, hdec⟩ := Except.bind_eq_ok.mp hdec
  cases hfs
  obtain ⟨_, -, hdec⟩ := Except.bind_eq_ok.mp hdec
  obtain ⟨_, -, hdec⟩ := Except.bind_eq_ok.mp hdec
  obtain ⟨_, -, hdec⟩ := Except.bind_eq_ok.mp hdec
  obtain ⟨ids, hids, hdec⟩ := Except.bind_eq_ok.mp hdec
  obtain ⟨codes, hcodes, hdec⟩ := Except.bind_eq_ok.mp hdec
  obtain ⟨_, -, hdec⟩ := Except.bind_eq_ok.mp hdec
  obtain ⟨_, -, hdec⟩ := Except.bind_eq_ok.mp hdec
  obtain ⟨_, -, hdec⟩ := Except.bind_eq_ok.mp hdec
  obtain ⟨_, -, hdec⟩ := Except.bind_eq_ok.mp hdec
  rw [Except.pure_eq_ok] at hdec
  rw [← hdec]
  exact ⟨(readFrom_field (by simp) hids rfl).texts_eq,
    (readFrom_field (by simp) hcodes rfl).texts_eq⟩

/-- The parts of a sanitised casefile are read each from what is left of it. -/
structure SanitizedReads (denylist : DenylistV1) (casefile sanitised : CaseFileTriageV1) :
    Prop where
  /-- the scope -/
  scope : ReadFrom denylist texts casefile.scope sanitised.scope
  /-- the evidence -/
  evidenceSnapshot :
    ReadFrom denylist snapshotCodec casefile.evidenceSnapshot sanitised.evidenceSnapshot
  /-- the gate input -/
  gateInput : ReadFrom denylist GateInputV1.codec casefile.gateInput sanitised.gateInput
  /-- the decision -/
  actionDecision :
    ReadFrom denylist ActionDecisionV1.codec casefile.actionDecision sanitised.actionDecision
  /-- the stamps -/
  policyVersions : ReadFrom denylist versionsCodec casefile.policyVersions sanitised.policyVersions

theorem sanitizeCasefile_reads {denylist : DenylistV1} {casefile sanitised : CaseFileTriageV1}
    (h : sanitizeCasefile casefile denylist = .ok sanitised) :
    SanitizedReads denylist casefile sanitised := by
  unfold sanitizeCasefile at h
  split at h
  · next s hvalid =>
    cases h
    obtain ⟨fs, hfs, hvalid⟩ := Except.bind_eq_ok.mp hvalid
    cases hfs
    obtain ⟨_, -, hvalid⟩ := Except.bind_eq_ok.mp hvalid
    obtain ⟨_, -, hvalid⟩ := Except.bind_eq_ok.mp hvalid
    obtain ⟨scope, hscope, hvalid⟩ := Except.bind_eq_ok.mp hvalid
    obtain ⟨_, -, hvalid⟩ := Except.bind_eq_ok.mp hvalid
    obtain ⟨snapshot, hsnapshot, hvalid⟩ := Except.bind_eq_ok.mp hvalid
    obtain ⟨_, -, hvalid⟩ := Except.bind_eq_ok.mp hvalid
    obtain ⟨gateInput, hinput, hvalid⟩ := Except.bind_eq_ok.mp hvalid
    obtain ⟨decision, hdecision, hvalid⟩ := Except.bind_eq_ok.mp hvalid
    obtain ⟨versions, hversions, hvalid⟩ := Except.bind_eq_ok.mp hvalid
    obtain ⟨_, -, hvalid⟩ := Except.bind_eq_ok.mp hvalid
    cases hvalid
    have hnodup : (casefile.fields.map Prod.fst).Nodup := by simp [CaseFileTriageV1.fields]
    exact ⟨readFrom_field hnodup hscope rfl, readFrom_field hnodup hsnapshot rfl,
      readFrom_field hnodup hinput rfl, readFrom_field hnodup hdecision rfl,
      readFrom_field hnodup hversions rfl⟩
  · cases h

/-- Sanitising leaves the version of the rulebook, or nothing of the case. -/
theorem sanitizeCasefile_rulebookVersion {denylist : DenylistV1}
    {casefile sanitised : CaseFileTriageV1}
    (h : sanitizeCasefile casefile denylist = .ok sanitised) :
    sanitised.policyVersions.rulebookVersion = casefile.policyVersions.rulebookVersion :=
  (sanitizeCasefile_reads h).policyVersions.rulebookVersion_eq

/-- Sanitising leaves of the decision's reason codes those that are not denied. -/
theorem sanitizeCasefile_gateReasonCodes {denylist : DenylistV1}
    {casefile sanitised : CaseFileTriageV1}
    (h : sanitizeCasefile casefile denylist = .ok sanitised) :
    sanitised.actionDecision.gateReasonCodes =
      casefile.actionDecision.gateReasonCodes.filter fun code => !denylist.deniesText code :=
  (sanitizeCasefile_reads h).actionDecision.decisionKept.gateReasonCodes

/-- **Assembly**: what it takes for a triage file to be assembled, and what it then is. -/
theorem assemble_eq_ok {c : CaseFileTriageV1} :
    assembleCasefileTriageStage scope outputs policies gateInput actionDecision triageTimestamp
        caseId = .ok c ↔
      ∃ draft sanitized,
        draftCasefile scope outputs policies gateInput actionDecision triageTimestamp caseId =
          .ok draft ∧
        sanitizeCasefile draft policies.denylist = .ok sanitized ∧
        sanitized.evidenceSnapshot.finite = true ∧
        c = triageModel.wired (triageModel.finalize sanitized) := by
  unfold assembleCasefileTriageStage
  rw [Except.bind_eq_ok]
  refine exists_congr fun draft => ?_
  rw [Except.bind_eq_ok]
  constructor
  · rintro ⟨hdraft, sanitized, hsanitized, hread⟩
    obtain ⟨hsound, rfl⟩ := (triageModel.validateJson_finalize sanitized c).mp hread
    exact ⟨sanitized, hdraft, hsanitized, hsound, rfl⟩
  · rintro ⟨sanitized, hdraft, hsanitized, hsound, rfl⟩
    have hread := (triageModel.validateJson_finalize sanitized _).mpr ⟨hsound, rfl⟩
    exact ⟨hdraft, sanitized, hsanitized, hread⟩

/-- What it takes for a file to be assembled under a denylist that removes nothing. -/
theorem assembleCasefileTriageStage_returns {t : Instant}
    (hdenylist : policies.denylist.RemovesNothing)
    (hsame : gateInput.actionFingerprint = actionDecision.actionFingerprint)
    (hshape : scope.length = 3 ∨ scope.length = 4)
    (hdiagnosis : PyText.isBlank policies.diagnosisPolicyVersion = false)
    (hcontext : (resolveScopeMapping scope outputs.topologyOutput.contextByScope).isSome)
    (haligned : outputs.topologyOutput.Aligned) (hstamped : policies.Stamped)
    (hfinite : (buildEvidenceSnapshot scope outputs.evidenceOutput outputs.peakOutput
      gateInput).finite = true) :
    ∃ c, assembleCasefileTriageStage scope outputs policies gateInput actionDecision (.aware t)
      caseId = .ok c := by
  obtain ⟨draft, hdraft⟩ := draftCasefile_returns (t := t) hsame hshape hdiagnosis hcontext
    haligned hstamped
  obtain ⟨-, -, -, -, hsnapshot, -⟩ := draftCasefile_ok hdraft
  exact ⟨_, assemble_eq_ok.mpr ⟨draft, draft, hdraft,
    sanitizeCasefile_of_removesNothing hdenylist draft, hsnapshot ▸ hfinite, rfl⟩⟩

end Assembly

end AiopsTriage
