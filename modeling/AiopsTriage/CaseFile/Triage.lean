import AiopsTriage.CaseFile.Sealed
import AiopsTriage.Topology.Stage

/-!
# The triage file

`CaseFileTriageV1` records everything a decision rested on: the evidence, the topology,
the gate input, the decision itself and the versions of the policies. It is sealed by
`triage_hash`.

Its typed floats are the values of the evidence rows and the confidence of the peak
context, so these decide whether it can be read back (`CaseFileTriageV1.sound`). The
decision basis is plain data, in which JSON text turns such a float into `null`
(`CaseFileTriageV1.wired`).
-/

namespace AiopsTriage

open Json

/-! ## Parts of the file -/

/-- `dict[str, str]`. -/
def textMap : Codec (Dict String String) := Codec.text.dict

/-- An optional action. -/
def optAction : Codec (Option Action) := Codec.enum.nullable fun _ => Json.noConfusion

/-- An optional scope. -/
def optScope : Codec (Option Scope) := texts.nullable fun _ => Json.noConfusion

/-- `CaseFileEvidenceRow`, with the fields of the evidence row. -/
def rowCodec : Codec EvidenceRow where
  enc r := .obj
    [("metric_key", Codec.text.enc r.metricKey),
      ("value", Codec.float.enc r.value),
      ("labels", textMap.enc r.labels),
      ("scope", texts.enc r.scope)]
  dec j := do
    let fs ← asFields j
    let metricKey ← field fs "metric_key" Codec.text.dec
    let value ← field fs "value" Codec.float.dec
    let labels ← field fs "labels" textMap.dec
    let scope ← field fs "scope" texts.dec
    return ⟨metricKey, value, labels, scope⟩
  dec_enc r := by simp [asFields, field, pure, Except.pure]

/-- `PeakWindowContext` in a stage file. -/
def peakCodec : Codec PeakWindowContext where
  enc p := .obj
    [("classification", Codec.enum.enc p.classification),
      ("is_peak_window", Codec.bool.enc p.isPeakWindow),
      ("is_near_peak_window", Codec.bool.enc p.isNearPeakWindow),
      ("confidence", Codec.float.enc p.confidence),
      ("reason_codes", texts.enc p.reasonCodes)]
  dec j := do
    let fs ← asFields j
    let classification ← field fs "classification" Codec.enum.dec
    let isPeakWindow ← field fs "is_peak_window" Codec.bool.dec
    let isNearPeakWindow ← field fs "is_near_peak_window" Codec.bool.dec
    let confidence ← field fs "confidence" Codec.float.dec
    let reasonCodes ← field fs "reason_codes" texts.dec
    return ⟨classification, isPeakWindow, isNearPeakWindow, confidence, reasonCodes⟩
  dec_enc p := by simp [asFields, field, pure, Except.pure]

/-- An optional peak context. -/
def optPeak : Codec (Option PeakWindowContext) := peakCodec.nullable fun _ => Json.noConfusion

/-- `CaseFileEvidenceSnapshot`. -/
structure CaseFileEvidenceSnapshot where
  /-- the scope -/
  scope : Option Scope
  /-- its rows -/
  rows : List EvidenceRow
  /-- the status of each piece of evidence -/
  evidenceStatusMap : Dict String EvidenceStatus
  /-- whether the whole telemetry was down -/
  telemetryDegradedActive : Bool
  /-- the most urgent action that was safe then -/
  maxSafeAction : Option Action
  /-- whether it was peak time -/
  peakContext : Option PeakWindowContext
  deriving DecidableEq

/-- The snapshot in a stage file. -/
def snapshotCodec : Codec CaseFileEvidenceSnapshot where
  enc s := .obj
    [("scope", optScope.enc s.scope),
      ("rows", rowCodec.list.enc s.rows),
      ("evidence_status_map", statusMap.enc s.evidenceStatusMap),
      ("telemetry_degraded_active", Codec.bool.enc s.telemetryDegradedActive),
      ("max_safe_action", optAction.enc s.maxSafeAction),
      ("peak_context", optPeak.enc s.peakContext)]
  dec j := do
    let fs ← asFields j
    let scope ← fieldOr fs "scope" none optScope.dec
    let rows ← fieldOr fs "rows" [] rowCodec.list.dec
    let evidenceStatusMap ← fieldOr fs "evidence_status_map" .empty statusMap.dec
    let telemetryDegradedActive ← fieldOr fs "telemetry_degraded_active" false Codec.bool.dec
    let maxSafeAction ← fieldOr fs "max_safe_action" none optAction.dec
    let peakContext ← fieldOr fs "peak_context" none optPeak.dec
    return ⟨scope, rows, evidenceStatusMap, telemetryDegradedActive, maxSafeAction, peakContext⟩
  dec_enc s := by simp [asFields, fieldOr, pure, Except.pure]

/-- `CaseFileDownstreamImpact`. -/
def impactCodec : Codec DownstreamImpact where
  enc i := .obj
    [("component_type", Codec.enum.enc i.componentType),
      ("component_id", Codec.text.enc i.componentId),
      ("exposure_type", Codec.enum.enc i.exposureType),
      ("risk_status", (Codec.literal "AT_RISK").enc ())]
  dec j := do
    let fs ← asFields j
    let componentType ← field fs "component_type" Codec.enum.dec
    let componentId ← field fs "component_id" Codec.text.dec
    let exposureType ← field fs "exposure_type" Codec.enum.dec
    let _ ← fieldOr fs "risk_status" () (Codec.literal "AT_RISK").dec
    return ⟨componentType, componentId, exposureType⟩
  dec_enc i := by simp [asFields, field, fieldOr, pure, Except.pure]

/-- `CaseFileRoutingContext`, with the fields of the topology stage's routing. -/
def routingCodec : Codec TopologyRoutingContext where
  enc r := .obj
    [("lookup_level", Codec.enum.enc r.lookupLevel),
      ("routing_key", Codec.text.enc r.routingKey),
      ("owning_team_id", Codec.text.enc r.owningTeamId),
      ("owning_team_name", Codec.text.enc r.owningTeamName),
      ("support_channel", optText.enc r.supportChannel),
      ("escalation_policy_ref", optText.enc r.escalationPolicyRef),
      ("service_now_assignment_group", optText.enc r.serviceNowAssignmentGroup)]
  dec j := do
    let fs ← asFields j
    let lookupLevel ← field fs "lookup_level" Codec.enum.dec
    let routingKey ← field fs "routing_key" Codec.text.dec
    let owningTeamId ← field fs "owning_team_id" Codec.text.dec
    let owningTeamName ← field fs "owning_team_name" Codec.text.dec
    let supportChannel ← fieldOr fs "support_channel" none optText.dec
    let escalationPolicyRef ← fieldOr fs "escalation_policy_ref" none optText.dec
    let serviceNowAssignmentGroup ← fieldOr fs "service_now_assignment_group" none optText.dec
    return ⟨lookupLevel, routingKey, owningTeamId, owningTeamName, supportChannel,
      escalationPolicyRef, serviceNowAssignmentGroup⟩
  dec_enc r := by simp [asFields, field, fieldOr, pure, Except.pure]

/-- `CaseFileTopologyContext`. -/
structure CaseFileTopologyContext where
  /-- the stream -/
  streamId : String
  /-- the role of the topic -/
  topicRole : TopicRole
  /-- the tier of the stream -/
  criticalityTier : CriticalityTier
  /-- the system the topic is fed by -/
  sourceSystem : Option String
  /-- how far the anomaly reaches -/
  blastRadius : BlastRadius
  /-- the components it reaches -/
  downstreamImpacts : List DownstreamImpact
  /-- who owns it -/
  routing : TopologyRoutingContext
  deriving DecidableEq

/-- The topology context in a stage file. -/
def topologyCodec : Codec CaseFileTopologyContext where
  enc t := .obj
    [("stream_id", Codec.text.enc t.streamId),
      ("topic_role", Codec.enum.enc t.topicRole),
      ("criticality_tier", Codec.enum.enc t.criticalityTier),
      ("source_system", optText.enc t.sourceSystem),
      ("blast_radius", Codec.enum.enc t.blastRadius),
      ("downstream_impacts", impactCodec.list.enc t.downstreamImpacts),
      ("routing", routingCodec.enc t.routing)]
  dec j := do
    let fs ← asFields j
    let streamId ← field fs "stream_id" Codec.text.dec
    let topicRole ← field fs "topic_role" Codec.enum.dec
    let criticalityTier ← field fs "criticality_tier" Codec.enum.dec
    let sourceSystem ← fieldOr fs "source_system" none optText.dec
    let blastRadius ← field fs "blast_radius" Codec.enum.dec
    let downstreamImpacts ← fieldOr fs "downstream_impacts" [] impactCodec.list.dec
    let routing ← field fs "routing" routingCodec.dec
    return ⟨streamId, topicRole, criticalityTier, sourceSystem, blastRadius, downstreamImpacts,
      routing⟩
  dec_enc t := by simp [asFields, field, fieldOr, pure, Except.pure]

/-- A text that is not empty, `Field(min_length=1)`. -/
abbrev NonEmpty := { s : String // s ≠ "" }

/-- The codec of such a text. -/
def nonEmpty : Codec NonEmpty where
  enc s := .str s.val
  dec
    | .str s => if h : s ≠ "" then .ok ⟨s, h⟩ else .error []
    | _ => .error []
  dec_enc s := dif_pos s.property

/-- `CaseFilePolicyVersions`. -/
structure CaseFilePolicyVersions where
  /-- of the rulebook -/
  rulebookVersion : NonEmpty
  /-- of the peak policy -/
  peakPolicyVersion : NonEmpty
  /-- of the metrics contract -/
  prometheusMetricsContractVersion : NonEmpty
  /-- of the denylist -/
  exposureDenylistVersion : NonEmpty
  /-- of the diagnosis policy -/
  diagnosisPolicyVersion : NonEmpty
  deriving DecidableEq

/-- The versions in a stage file. -/
def versionsCodec : Codec CaseFilePolicyVersions where
  enc v := .obj
    [("rulebook_version", nonEmpty.enc v.rulebookVersion),
      ("peak_policy_version", nonEmpty.enc v.peakPolicyVersion),
      ("prometheus_metrics_contract_version", nonEmpty.enc v.prometheusMetricsContractVersion),
      ("exposure_denylist_version", nonEmpty.enc v.exposureDenylistVersion),
      ("diagnosis_policy_version", nonEmpty.enc v.diagnosisPolicyVersion)]
  dec j := do
    let fs ← asFields j
    let rulebookVersion ← field fs "rulebook_version" nonEmpty.dec
    let peakPolicyVersion ← field fs "peak_policy_version" nonEmpty.dec
    let metricsVersion ← field fs "prometheus_metrics_contract_version" nonEmpty.dec
    let denylistVersion ← field fs "exposure_denylist_version" nonEmpty.dec
    let diagnosisPolicyVersion ← field fs "diagnosis_policy_version" nonEmpty.dec
    return ⟨rulebookVersion, peakPolicyVersion, metricsVersion, denylistVersion,
      diagnosisPolicyVersion⟩
  dec_enc v := by simp [asFields, field, pure, Except.pure]

/-- A hash in a stage file. -/
def hex64 : Codec Hex64 where
  enc h := .str h.val
  dec
    | .str s => if h : isHex64 s = true then .ok ⟨s, h⟩ else .error []
    | _ => .error []
  dec_enc h := dif_pos h.property

/-! ## The file -/

/-- `CaseFileTriageV1`. -/
structure CaseFileTriageV1 where
  /-- the case -/
  caseId : String
  /-- the scope -/
  scope : Scope
  /-- when it was assembled -/
  triageTimestamp : Instant
  /-- the evidence -/
  evidenceSnapshot : CaseFileEvidenceSnapshot
  /-- the topology -/
  topologyContext : CaseFileTopologyContext
  /-- what the gates decided on -/
  gateInput : GateInputV1
  /-- what they decided -/
  actionDecision : ActionDecisionV1
  /-- the versions of the policies -/
  policyVersions : CaseFilePolicyVersions
  /-- the seal -/
  triageHash : Hex64
  deriving DecidableEq

section Codecs

variable [Platform]

/-- `AwareDatetime`. -/
def timestamp : Codec Instant where
  enc t := .str (Platform.isoformat t)
  dec
    | .str s =>
      match Platform.parseIso s with
      | some t => .ok t
      | none => .error []
    | _ => .error []
  dec_enc t := by simp [Platform.parseIso_isoformat]

namespace CaseFileTriageV1

/-- The entries of `CaseFileTriageV1.model_dump(mode="json")`. -/
def fields (c : CaseFileTriageV1) : List (String × Json) :=
  [("schema_version", (Codec.literal "v1").enc ()),
    ("case_id", Codec.text.enc c.caseId),
    ("scope", texts.enc c.scope),
    ("triage_timestamp", timestamp.enc c.triageTimestamp),
    ("evidence_snapshot", snapshotCodec.enc c.evidenceSnapshot),
    ("topology_context", topologyCodec.enc c.topologyContext),
    ("gate_input", GateInputV1.codec.enc c.gateInput),
    ("action_decision", ActionDecisionV1.codec.enc c.actionDecision),
    ("policy_versions", versionsCodec.enc c.policyVersions),
    ("triage_hash", hex64.enc c.triageHash)]

/-- `CaseFileTriageV1.model_validate`. -/
def validate : Decoder CaseFileTriageV1 := fun j => do
  let fs ← asFields j
  let _ ← fieldOr fs "schema_version" () (Codec.literal "v1").dec
  let caseId ← field fs "case_id" Codec.text.dec
  let scope ← field fs "scope" texts.dec
  let triageTimestamp ← field fs "triage_timestamp" timestamp.dec
  let evidenceSnapshot ← field fs "evidence_snapshot" snapshotCodec.dec
  let topologyContext ← field fs "topology_context" topologyCodec.dec
  let gateInput ← field fs "gate_input" GateInputV1.codec.dec
  let actionDecision ← field fs "action_decision" ActionDecisionV1.codec.dec
  let policyVersions ← field fs "policy_versions" versionsCodec.dec
  let triageHash ← field fs "triage_hash" hex64.dec
  return ⟨caseId, scope, triageTimestamp, evidenceSnapshot, topologyContext, gateInput,
    actionDecision, policyVersions, triageHash⟩

theorem validate_fields (c : CaseFileTriageV1) : validate (.obj c.fields) = .ok c := by
  simp [validate, fields, asFields, field, fieldOr, pure, Except.pure]

/-- The codec of a triage file. -/
def codec : Codec CaseFileTriageV1 := ⟨fun c => .obj c.fields, validate, validate_fields⟩

end CaseFileTriageV1

end Codecs

/-! ## Through JSON text -/

/-- Every typed float of the snapshot is finite. -/
def CaseFileEvidenceSnapshot.finite (s : CaseFileEvidenceSnapshot) : Bool :=
  (s.rows.all fun r => r.value.isFinite) && s.peakContext.all fun p => p.confidence.isFinite

/-- The gate input after JSON text. -/
def GateInputV1.wired (g : GateInputV1) : GateInputV1 :=
  { g with decisionBasis := g.decisionBasis.map fun b => b.mapValues fun _ => wire }

theorem plain_texts : texts.Plain := Codec.plain_text.list

theorem plain_optText : optText.Plain := Codec.plain_text.nullable _

theorem plain_optBool : optBool.Plain := Codec.plain_bool.nullable _

theorem plain_optInt : optInt.Plain := Codec.plain_int.nullable _

theorem plain_statusMap : statusMap.Plain := Codec.plain_enum.dict

theorem plain_confidence : confidence.Plain := fun _ => rfl

theorem plain_textMap : textMap.Plain := Codec.plain_text.dict

theorem plain_optAction : optAction.Plain := Codec.plain_enum.nullable _

theorem plain_optScope : optScope.Plain := plain_texts.nullable _

theorem plain_nonEmpty : nonEmpty.Plain := fun _ => rfl

theorem plain_hex64 : hex64.Plain := fun _ => rfl

theorem plain_timestamp [Platform] : timestamp.Plain := fun _ => rfl

theorem plain_allowances : (Codec.enum.list.dict : Codec (Dict String (List EvidenceStatus))).Plain :=
  Codec.plain_enum.list.dict

theorem plain_finding : Finding.codec.Plain := by
  intro f
  simp only [Finding.codec, Finding.dump, wire, wireFields, Codec.plain_text _, Codec.plain_bool _,
    plain_texts _, plain_allowances _, plain_optBool _, plain_optText _]

theorem plain_decision : ActionDecisionV1.codec.Plain := by
  intro d
  simp only [ActionDecisionV1.codec, ActionDecisionV1.dump, wire, wireFields,
    Codec.plain_literal _ _, Codec.plain_enum _, Codec.plain_bool _, plain_texts _,
    Codec.plain_text _, plain_optText _]

theorem plain_impact : impactCodec.Plain := by
  intro i
  simp only [impactCodec, wire, wireFields, Codec.plain_enum _, Codec.plain_text _,
    Codec.plain_literal _ _]

theorem plain_routing : routingCodec.Plain := by
  intro r
  simp only [routingCodec, wire, wireFields, Codec.plain_enum _, Codec.plain_text _,
    plain_optText _]

theorem plain_topology : topologyCodec.Plain := by
  intro t
  simp only [topologyCodec, wire, wireFields, Codec.plain_text _, Codec.plain_enum _,
    plain_optText _, plain_impact.list _, plain_routing _]

theorem plain_versions : versionsCodec.Plain := by
  intro v
  simp only [versionsCodec, wire, wireFields, plain_nonEmpty _]

/-- The decision basis after JSON text. -/
theorem wire_optBasis (b : Option (Dict String Json)) :
    wire (optBasis.enc b) = optBasis.enc (b.map fun d => d.mapValues fun _ => wire) := by
  cases b with
  | none => rfl
  | some d =>
    show wire (.obj (d.entries.map fun p => (p.1, p.2))) =
      .obj ((d.mapValues fun _ => wire).entries.map fun p => (p.1, p.2))
    rw [wire, Codec.wireFields_map fun j => j]
    simp [Dict.mapValues]

/-- The gate input after JSON text is the wired one. -/
theorem wire_gateInput (g : GateInputV1) :
    wire (GateInputV1.codec.enc g) = GateInputV1.codec.enc g.wired := by
  simp only [GateInputV1.codec, GateInputV1.dump, GateInputV1.wired, wire, wireFields,
    Codec.plain_literal _ _, Codec.plain_enum _, Codec.plain_text _, plain_confidence _,
    Codec.plain_bool _, plain_finding.list _, plain_statusMap _, plain_optText _, plain_optInt _,
    plain_optBool _, wire_optBasis]

/-- A row with a finite value survives JSON text. -/
theorem wire_row {r : EvidenceRow} (h : r.value.isFinite = true) :
    wire (rowCodec.enc r) = rowCodec.enc r := by
  have hvalue : wire (Codec.float.enc r.value) = Codec.float.enc r.value := if_pos h
  simp only [rowCodec, wire, wireFields, Codec.plain_text _, hvalue, plain_textMap _, plain_texts _]

/-- A peak context with a finite confidence survives JSON text. -/
theorem wire_peak {p : PeakWindowContext} (h : p.confidence.isFinite = true) :
    wire (peakCodec.enc p) = peakCodec.enc p := by
  have hconfidence : wire (Codec.float.enc p.confidence) = Codec.float.enc p.confidence := if_pos h
  simp only [peakCodec, wire, wireFields, Codec.plain_enum _, Codec.plain_bool _, hconfidence,
    plain_texts _]

/-- A finite snapshot survives JSON text. -/
theorem wire_snapshot {s : CaseFileEvidenceSnapshot} (h : s.finite = true) :
    wire (snapshotCodec.enc s) = snapshotCodec.enc s := by
  rw [CaseFileEvidenceSnapshot.finite, Bool.and_eq_true, List.all_eq_true] at h
  have hrows : wire (rowCodec.list.enc s.rows) = rowCodec.list.enc s.rows := by
    show wire (.arr (s.rows.map rowCodec.enc)) = .arr (s.rows.map rowCodec.enc)
    rw [wire, Codec.wireItems_map]
    exact congrArg Json.arr (List.map_congr_left fun r hr => wire_row (h.1 r hr))
  have hpeak : wire (optPeak.enc s.peakContext) = optPeak.enc s.peakContext := by
    cases hp : s.peakContext with
    | none => rfl
    | some p =>
      rw [hp] at h
      exact wire_peak h.2
  simp only [snapshotCodec, wire, wireFields, plain_optScope _, hrows, plain_statusMap _,
    Codec.plain_bool _, plain_optAction _, hpeak]

/-- Only a finite row is read back after JSON text. -/
theorem row_finite {r r' : EvidenceRow} (h : rowCodec.dec (wire (rowCodec.enc r)) = .ok r') :
    r.value.isFinite = true := by
  obtain ⟨fs, hfs, h⟩ := Except.bind_eq_ok.mp h
  cases hfs
  obtain ⟨_, -, h⟩ := Except.bind_eq_ok.mp h
  obtain ⟨value, hvalue, -⟩ := Except.bind_eq_ok.mp h
  exact Codec.float_dec_wire (field_wire hvalue rfl)

/-- Only a finite peak context is read back after JSON text. -/
theorem peak_finite {p p' : PeakWindowContext}
    (h : peakCodec.dec (wire (peakCodec.enc p)) = .ok p') : p.confidence.isFinite = true := by
  obtain ⟨fs, hfs, h⟩ := Except.bind_eq_ok.mp h
  cases hfs
  obtain ⟨_, -, h⟩ := Except.bind_eq_ok.mp h
  obtain ⟨_, -, h⟩ := Except.bind_eq_ok.mp h
  obtain ⟨_, -, h⟩ := Except.bind_eq_ok.mp h
  obtain ⟨confidence, hconfidence, -⟩ := Except.bind_eq_ok.mp h
  exact Codec.float_dec_wire (field_wire hconfidence rfl)

/-- Only a finite snapshot is read back after JSON text. -/
theorem snapshot_finite {s s' : CaseFileEvidenceSnapshot}
    (h : snapshotCodec.dec (wire (snapshotCodec.enc s)) = .ok s') : s.finite = true := by
  obtain ⟨fs, hfs, h⟩ := Except.bind_eq_ok.mp h
  cases hfs
  obtain ⟨_, -, h⟩ := Except.bind_eq_ok.mp h
  obtain ⟨rows, hrows, h⟩ := Except.bind_eq_ok.mp h
  obtain ⟨_, -, h⟩ := Except.bind_eq_ok.mp h
  obtain ⟨_, -, h⟩ := Except.bind_eq_ok.mp h
  obtain ⟨_, -, h⟩ := Except.bind_eq_ok.mp h
  obtain ⟨peak, hpeak, -⟩ := Except.bind_eq_ok.mp h
  rw [CaseFileEvidenceSnapshot.finite, Bool.and_eq_true, List.all_eq_true]
  constructor
  · intro r hr
    obtain ⟨r', hr'⟩ := Codec.list_dec_wire (fieldOr_wire hrows rfl) r hr
    exact row_finite hr'
  · cases hp : s.peakContext with
    | none => rfl
    | some p =>
      have hdec := fieldOr_wire hpeak rfl
      rw [hp] at hdec
      obtain ⟨p', hp'⟩ := Codec.nullable_dec_wire Json.noConfusion hdec
      exact peak_finite hp'

/-- The triage file as a sealed stage file. -/
def triageModel [Platform] : StageModel CaseFileTriageV1 where
  name := "CaseFileTriageV1"
  codec := CaseFileTriageV1.codec
  stageHash := CaseFileTriageV1.triageHash
  withHash c h := { c with triageHash := h }
  sound c := c.evidenceSnapshot.finite
  wired c := { c with gateInput := c.gateInput.wired }
  stageHash_withHash _ _ := rfl
  withHash_withHash _ _ _ := rfl
  withHash_stageHash _ := rfl
  sound_withHash _ _ := rfl
  wired_withHash _ _ := rfl
  wire_enc c h := by
    simp only [CaseFileTriageV1.codec, CaseFileTriageV1.fields, wire, wireFields,
      Codec.plain_literal _ _, Codec.plain_text _, plain_texts _, plain_timestamp _,
      wire_snapshot h, plain_topology _, wire_gateInput, plain_decision _, plain_versions _,
      plain_hex64 _]
  sound_of_dec c c' h := by
    obtain ⟨fs, hfs, h⟩ := Except.bind_eq_ok.mp h
    cases hfs
    obtain ⟨_, -, h⟩ := Except.bind_eq_ok.mp h
    obtain ⟨_, -, h⟩ := Except.bind_eq_ok.mp h
    obtain ⟨_, -, h⟩ := Except.bind_eq_ok.mp h
    obtain ⟨_, -, h⟩ := Except.bind_eq_ok.mp h
    obtain ⟨snapshot, hsnapshot, -⟩ := Except.bind_eq_ok.mp h
    exact snapshot_finite (field_wire hsnapshot rfl)

end AiopsTriage
