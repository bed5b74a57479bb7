import AiopsTriage.Lib.Codec
import AiopsTriage.Platform
import Mathlib.Order.Lattice
import Mathlib.Data.Rat.Defs
import Mathlib.Algebra.Order.Ring.Rat

/-!
# Contracts

The records that pass between the stages: the gate input, with the findings that
justify it, and the action decision. What a pydantic validator refuses cannot be
built here: the checks are fields of the structures.

Actions are ordered by urgency. Each record has a **codec**, the model dump and the
validation that reads it back, with the fields in their declared order.
-/

namespace AiopsTriage

open Json

/-! ## Enumerations -/

/-- `Environment`. -/
inductive Environment where
  /-- a developer's machine -/
  | localEnv
  /-- the test harness -/
  | harness
  /-- development -/
  | dev
  /-- acceptance -/
  | uat
  /-- production -/
  | prod
  deriving DecidableEq, Repr

instance : StrEnum Environment where
  members := [.localEnv, .harness, .dev, .uat, .prod]
  value
    | .localEnv => "local"
    | .harness => "harness"
    | .dev => "dev"
    | .uat => "uat"
    | .prod => "prod"
  complete a := by cases a <;> decide
  injective a b := by cases a <;> cases b <;> decide

/-- `CriticalityTier`. -/
inductive CriticalityTier where
  /-- the most critical streams -/
  | tier0
  /-- the second tier -/
  | tier1
  /-- the third tier -/
  | tier2
  /-- not classified -/
  | unknown
  deriving DecidableEq, Repr

instance : StrEnum CriticalityTier where
  members := [.tier0, .tier1, .tier2, .unknown]
  value
    | .tier0 => "TIER_0"
    | .tier1 => "TIER_1"
    | .tier2 => "TIER_2"
    | .unknown => "UNKNOWN"
  complete a := by cases a <;> decide
  injective a b := by cases a <;> cases b <;> decide

/-- `Action`, from the least to the most urgent. -/
inductive Action where
  /-- record only -/
  | observe
  /-- tell a channel -/
  | notify
  /-- open a ticket -/
  | ticket
  /-- page somebody -/
  | page
  deriving DecidableEq, Repr

instance : StrEnum Action where
  members := [.observe, .notify, .ticket, .page]
  value
    | .observe => "OBSERVE"
    | .notify => "NOTIFY"
    | .ticket => "TICKET"
    | .page => "PAGE"
  complete a := by cases a <;> decide
  injective a b := by cases a <;> cases b <;> decide

/-- `_ACTION_PRIORITY`. -/
def Action.priority : Action → Nat
  | .observe => 0
  | .notify => 1
  | .ticket => 2
  | .page => 3

/-- Actions are ordered by urgency. -/
instance : LinearOrder Action :=
  LinearOrder.lift' Action.priority fun a b => by cases a <;> cases b <;> decide

/-- `OBSERVE` is the least urgent action. -/
theorem Action.observe_le (a : Action) : Action.observe ≤ a := Nat.zero_le _

/-- `EvidenceStatus`. -/
inductive EvidenceStatus where
  /-- the series was there -/
  | present
  /-- the series is missing; never read as zero -/
  | unknown
  /-- known not to exist -/
  | absent
  /-- too old -/
  | stale
  deriving DecidableEq, Repr

instance : StrEnum EvidenceStatus where
  members := [.present, .unknown, .absent, .stale]
  value
    | .present => "PRESENT"
    | .unknown => "UNKNOWN"
    | .absent => "ABSENT"
    | .stale => "STALE"
  complete a := by cases a <;> decide
  injective a b := by cases a <;> cases b <;> decide

/-- The literal type of `topic_role`. -/
inductive TopicRole where
  /-- `SOURCE_TOPIC` -/
  | source
  /-- `SHARED_TOPIC` -/
  | shared
  /-- `SINK_TOPIC` -/
  | sink
  deriving DecidableEq, Repr

instance : StrEnum TopicRole where
  members := [.source, .shared, .sink]
  value
    | .source => "SOURCE_TOPIC"
    | .shared => "SHARED_TOPIC"
    | .sink => "SINK_TOPIC"
  complete a := by cases a <;> decide
  injective a b := by cases a <;> cases b <;> decide

/-- The literal type of `anomaly_family`. -/
inductive AnomalyFamily where
  /-- `CONSUMER_LAG` -/
  | consumerLag
  /-- `VOLUME_DROP` -/
  | volumeDrop
  /-- `THROUGHPUT_CONSTRAINED_PROXY` -/
  | throughputConstrainedProxy
  deriving DecidableEq, Repr

instance : StrEnum AnomalyFamily where
  members := [.consumerLag, .volumeDrop, .throughputConstrainedProxy]
  value
    | .consumerLag => "CONSUMER_LAG"
    | .volumeDrop => "VOLUME_DROP"
    | .throughputConstrainedProxy => "THROUGHPUT_CONSTRAINED_PROXY"
  complete a := by cases a <;> decide
  injective a b := by cases a <;> cases b <;> decide

/-! ## Findings -/

/-- `_validate_and_freeze_allowed_non_present_statuses` on one entry: the key is
required evidence, and the statuses are some, none of them `PRESENT`. The model
keeps each of them once. -/
def allowanceOk (evidenceRequired : List String) (entry : String × List EvidenceStatus) : Bool :=
  evidenceRequired.contains entry.1 && !entry.2.isEmpty && !entry.2.contains .present &&
    decide entry.2.Nodup

/-- No allowances are accepted. -/
theorem allowances_empty (evidenceRequired : List String) :
    (Dict.empty : Dict String (List EvidenceStatus)).entries.all (allowanceOk evidenceRequired) =
      true := rfl

/-- Accepted allowances are free of repetitions. -/
theorem unique_of_allowanceOk {allowed : Dict String (List EvidenceStatus)}
    {evidenceRequired : List String} (h : allowed.entries.all (allowanceOk evidenceRequired)) :
    (allowed.mapValues fun _ statuses => uniqueInOrder statuses) = allowed := by
  refine Dict.ext_entries ?_
  refine (List.map_congr_left fun e he => ?_).trans (List.map_id _)
  have hok := List.all_eq_true.mp h e he
  simp only [allowanceOk, Bool.and_eq_true, decide_eq_true_eq] at hok
  exact congrArg (e.1, ·) (uniqueInOrder_eq_self hok.2)

/-- `Finding`. -/
structure Finding where
  /-- the finding's id -/
  findingId : String
  /-- its name, from which the anomaly family is read -/
  name : String
  /-- whether it reports an anomaly -/
  isAnomalous : Bool
  /-- the evidence it rests on -/
  evidenceRequired : List String
  /-- statuses other than `PRESENT` that it tolerates, by evidence -/
  allowedNonPresentStatusesByEvidence : Dict String (List EvidenceStatus)
  /-- whether the evidence gate prefers its requirements -/
  isPrimary : Option Bool
  /-- its severity -/
  severity : Option String
  /-- its reason codes -/
  reasonCodes : List String
  /-- every allowance is one the validator accepts -/
  allowances_ok : allowedNonPresentStatusesByEvidence.entries.all (allowanceOk evidenceRequired)
  deriving DecidableEq

/-! ## Codecs of optional values -/

/-- An optional text. -/
def optText : Codec (Option String) := Codec.text.nullable fun _ => Json.noConfusion

/-- An optional boolean. -/
def optBool : Codec (Option Bool) := Codec.bool.nullable fun _ => Json.noConfusion

/-- An optional integer. -/
def optInt : Codec (Option Int) := Codec.int.nullable fun _ => Json.noConfusion

/-- A list of texts. -/
def texts : Codec (List String) := Codec.text.list

/-- `dict[str, EvidenceStatus]`. -/
def statusMap : Codec (Dict String EvidenceStatus) := Codec.enum.dict

namespace Finding

/-- `Finding.model_dump(mode="json")`. -/
def dump (f : Finding) : Json :=
  .obj
    [("finding_id", Codec.text.enc f.findingId),
      ("name", Codec.text.enc f.name),
      ("is_anomalous", Codec.bool.enc f.isAnomalous),
      ("evidence_required", texts.enc f.evidenceRequired),
      ("allowed_non_present_statuses_by_evidence",
        (Codec.enum.list.dict).enc f.allowedNonPresentStatusesByEvidence),
      ("is_primary", optBool.enc f.isPrimary),
      ("severity", optText.enc f.severity),
      ("reason_codes", texts.enc f.reasonCodes)]

/-- The validator on the allowances: each status once, and every entry accepted. -/
def build (findingId name : String) (isAnomalous : Bool) (evidenceRequired : List String)
    (allowed : Dict String (List EvidenceStatus)) (isPrimary : Option Bool)
    (severity : Option String) (reasonCodes : List String) : Except (List String) Finding :=
  let normalized := allowed.mapValues fun _ statuses => uniqueInOrder statuses
  if h : normalized.entries.all (allowanceOk evidenceRequired) then
    .ok ⟨findingId, name, isAnomalous, evidenceRequired, normalized, isPrimary, severity,
      reasonCodes, h⟩
  else .error ["allowed_non_present_statuses_by_evidence"]

/-- `Finding.model_validate`. -/
def validate : Decoder Finding := fun j => do
  let fs ← asFields j
  let findingId ← field fs "finding_id" Codec.text.dec
  let name ← field fs "name" Codec.text.dec
  let isAnomalous ← field fs "is_anomalous" Codec.bool.dec
  let evidenceRequired ← field fs "evidence_required" texts.dec
  let allowed ← fieldOr fs "allowed_non_present_statuses_by_evidence" .empty
    (Codec.enum.list.dict).dec
  let isPrimary ← fieldOr fs "is_primary" none optBool.dec
  let severity ← fieldOr fs "severity" none optText.dec
  let reasonCodes ← fieldOr fs "reason_codes" [] texts.dec
  build findingId name isAnomalous evidenceRequired allowed isPrimary severity reasonCodes

/-- The allowances of a finding are already free of repetitions. -/
theorem unique_allowances (f : Finding) :
    (f.allowedNonPresentStatusesByEvidence.mapValues fun _ statuses => uniqueInOrder statuses) =
      f.allowedNonPresentStatusesByEvidence :=
  unique_of_allowanceOk f.allowances_ok

theorem validate_dump (f : Finding) : validate f.dump = .ok f := by
  have hbuild : build f.findingId f.name f.isAnomalous f.evidenceRequired
      f.allowedNonPresentStatusesByEvidence f.isPrimary f.severity f.reasonCodes = .ok f := by
    unfold build
    simp only [unique_allowances]
    rw [dif_pos f.allowances_ok]
  simp [validate, dump, asFields, field, fieldOr, hbuild]

/-- The codec of a finding. -/
def codec : Codec Finding := ⟨dump, validate, validate_dump⟩

end Finding

/-! ## Gate input -/

/-- `Annotated[float, Field(ge=0.0, le=1.0)]`: a rational between zero and one. -/
abbrev Confidence := { q : ℚ // 0 ≤ q ∧ q ≤ 1 }

/-- The codec of a confidence. -/
def confidence : Codec Confidence where
  enc c := .float (.finite c.val)
  dec j := do
    match ← Codec.float.dec j with
    | .finite q => if h : 0 ≤ q ∧ q ≤ 1 then .ok ⟨q, h⟩ else .error []
    | _ => .error []
  dec_enc c := by
    simp only [Codec.float, Except.ok_bind]
    rw [dif_pos c.property]

/-- `GateInputV1`: what the gates decide on. -/
structure GateInputV1 where
  /-- the environment of the anomaly -/
  env : Environment
  /-- the cluster -/
  clusterId : String
  /-- the stream the topic belongs to -/
  streamId : String
  /-- the topic -/
  topic : String
  /-- the role of the topic in its stream -/
  topicRole : TopicRole
  /-- the kind of anomaly -/
  anomalyFamily : AnomalyFamily
  /-- the tier of the stream -/
  criticalityTier : CriticalityTier
  /-- the action before the gates -/
  proposedAction : Action
  /-- how sure the diagnosis is -/
  diagnosisConfidence : Confidence
  /-- whether the anomaly lasted long enough -/
  sustained : Bool
  /-- the findings behind it -/
  findings : List Finding
  /-- the status of each piece of evidence -/
  evidenceStatusMap : Dict String EvidenceStatus
  /-- the identity of the action -/
  actionFingerprint : String
  /-- the consumer group of a lag anomaly -/
  consumerGroup : Option String
  /-- partitions seen -/
  partitionCountObserved : Option Int
  /-- whether it is peak time, if that is known -/
  peak : Option Bool
  /-- a case id fixed by the caller -/
  caseId : Option String
  /-- how the diagnosis was reached, as plain data -/
  decisionBasis : Option (Dict String Json)
  deriving DecidableEq

/-- `dict[str, Any] | None`. -/
def optBasis : Codec (Option (Dict String Json)) := Codec.any.dict.nullable fun _ => Json.noConfusion

namespace GateInputV1

/-- `GateInputV1.model_dump(mode="json")`. -/
def dump (g : GateInputV1) : Json :=
  .obj
    [("schema_version", (Codec.literal "v1").enc ()),
      ("env", Codec.enum.enc g.env),
      ("cluster_id", Codec.text.enc g.clusterId),
      ("stream_id", Codec.text.enc g.streamId),
      ("topic", Codec.text.enc g.topic),
      ("topic_role", Codec.enum.enc g.topicRole),
      ("anomaly_family", Codec.enum.enc g.anomalyFamily),
      ("criticality_tier", Codec.enum.enc g.criticalityTier),
      ("proposed_action", Codec.enum.enc g.proposedAction),
      ("diagnosis_confidence", confidence.enc g.diagnosisConfidence),
      ("sustained", Codec.bool.enc g.sustained),
      ("findings", Finding.codec.list.enc g.findings),
      ("evidence_status_map", statusMap.enc g.evidenceStatusMap),
      ("action_fingerprint", Codec.text.enc g.actionFingerprint),
      ("consumer_group", optText.enc g.consumerGroup),
      ("partition_count_observed", optInt.enc g.partitionCountObserved),
      ("peak", optBool.enc g.peak),
      ("case_id", optText.enc g.caseId),
      ("decision_basis", optBasis.enc g.decisionBasis)]

/-- `GateInputV1.model_validate`. -/
def validate : Decoder GateInputV1 := fun j => do
  let fs ← asFields j
  let _ ← fieldOr fs "schema_version" () (Codec.literal "v1").dec
  let env ← field fs "env" Codec.enum.dec
  let clusterId ← field fs "cluster_id" Codec.text.dec
  let streamId ← field fs "stream_id" Codec.text.dec
  let topic ← field fs "topic" Codec.text.dec
  let topicRole ← field fs "topic_role" Codec.enum.dec
  let anomalyFamily ← field fs "anomaly_family" Codec.enum.dec
  let criticalityTier ← field fs "criticality_tier" Codec.enum.dec
  let proposedAction ← field fs "proposed_action" Codec.enum.dec
  let diagnosisConfidence ← field fs "diagnosis_confidence" confidence.dec
  let sustained ← field fs "sustained" Codec.bool.dec
  let findings ← field fs "findings" Finding.codec.list.dec
  let evidenceStatusMap ← field fs "evidence_status_map" statusMap.dec
  let actionFingerprint ← field fs "action_fingerprint" Codec.text.dec
  let consumerGroup ← fieldOr fs "consumer_group" none optText.dec
  let partitionCountObserved ← fieldOr fs "partition_count_observed" none optInt.dec
  let peak ← fieldOr fs "peak" none optBool.dec
  let caseId ← fieldOr fs "case_id" none optText.dec
  let decisionBasis ← fieldOr fs "decision_basis" none optBasis.dec
  return {
    env, clusterId, streamId, topic, topicRole, anomalyFamily, criticalityTier, proposedAction
    diagnosisConfidence, sustained, findings, evidenceStatusMap, actionFingerprint
    consumerGroup, partitionCountObserved, peak, caseId, decisionBasis }

theorem validate_dump (g : GateInputV1) : validate g.dump = .ok g := by
  simp [validate, dump, asFields, field, fieldOr, pure, Except.pure]

/-- The codec of a gate input. -/
def codec : Codec GateInputV1 := ⟨dump, validate, validate_dump⟩

end GateInputV1

/-! ## Action decision -/

/-- `ActionDecisionV1`: what the gates decided. -/
structure ActionDecisionV1 where
  /-- the action after all gates -/
  finalAction : Action
  /-- whether the environment cap reduced the action -/
  envCapApplied : Bool
  /-- the gates that were evaluated -/
  gateRuleIds : List String
  /-- the reason codes they set -/
  gateReasonCodes : List String
  /-- the identity of the action -/
  actionFingerprint : String
  /-- whether a postmortem is required -/
  postmortemRequired : Bool
  /-- the mode of the postmortem -/
  postmortemMode : Option String
  /-- why it is required -/
  postmortemReasonCodes : List String
  deriving DecidableEq, Repr

namespace ActionDecisionV1

/-- `ActionDecisionV1.model_dump(mode="json")`. -/
def dump (d : ActionDecisionV1) : Json :=
  .obj
    [("schema_version", (Codec.literal "v1").enc ()),
      ("final_action", Codec.enum.enc d.finalAction),
      ("env_cap_applied", Codec.bool.enc d.envCapApplied),
      ("gate_rule_ids", texts.enc d.gateRuleIds),
      ("gate_reason_codes", texts.enc d.gateReasonCodes),
      ("action_fingerprint", Codec.text.enc d.actionFingerprint),
      ("postmortem_required", Codec.bool.enc d.postmortemRequired),
      ("postmortem_mode", optText.enc d.postmortemMode),
      ("postmortem_reason_codes", texts.enc d.postmortemReasonCodes)]

/-- `ActionDecisionV1.model_validate`. -/
def validate : Decoder ActionDecisionV1 := fun j => do
  let fs ← asFields j
  let _ ← fieldOr fs "schema_version" () (Codec.literal "v1").dec
  let finalAction ← field fs "final_action" Codec.enum.dec
  let envCapApplied ← field fs "env_cap_applied" Codec.bool.dec
  let gateRuleIds ← field fs "gate_rule_ids" texts.dec
  let gateReasonCodes ← field fs "gate_reason_codes" texts.dec
  let actionFingerprint ← field fs "action_fingerprint" Codec.text.dec
  let postmortemRequired ← field fs "postmortem_required" Codec.bool.dec
  let postmortemMode ← fieldOr fs "postmortem_mode" none optText.dec
  let postmortemReasonCodes ← fieldOr fs "postmortem_reason_codes" [] texts.dec
  return {
    finalAction, envCapApplied, gateRuleIds, gateReasonCodes, actionFingerprint
    postmortemRequired, postmortemMode, postmortemReasonCodes }

theorem validate_dump (d : ActionDecisionV1) : validate d.dump = .ok d := by
  simp [validate, dump, asFields, field, fieldOr, pure, Except.pure]

/-- The codec of a decision. -/
def codec : Codec ActionDecisionV1 := ⟨dump, validate, validate_dump⟩

end ActionDecisionV1

end AiopsTriage
