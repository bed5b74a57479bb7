import AiopsTriage.CaseFile.Triage
import AiopsTriage.Denylist

/-!
# Case events

The two events of a case: `CaseHeaderEventV1`, which names the decision, and
`TriageExcerptV1`, which also goes to the cold path. Before an excerpt leaves the process
the denylist is applied to it, and what is left must still be an excerpt.
-/

namespace AiopsTriage

open Json

/-- `CaseHeaderEventV1`. -/
structure CaseHeaderEventV1 where
  /-- the case -/
  caseId : String
  /-- the environment of the anomaly -/
  env : Environment
  /-- the cluster -/
  clusterId : String
  /-- the stream the topic belongs to -/
  streamId : String
  /-- the topic -/
  topic : String
  /-- the kind of anomaly -/
  anomalyFamily : AnomalyFamily
  /-- the tier of the stream -/
  criticalityTier : CriticalityTier
  /-- what the gates decided -/
  finalAction : Action
  /-- the team -/
  routingKey : String
  /-- when the case was evaluated -/
  evaluationTs : Instant
  deriving DecidableEq

/-- `TriageExcerptV1`. -/
structure TriageExcerptV1 where
  /-- the case -/
  caseId : String
  /-- the environment of the anomaly -/
  env : Environment
  /-- the cluster -/
  clusterId : String
  /-- the stream the topic belongs to -/
  streamId : String
  /-- the topic -/
  topic : String
  /-- the kind of anomaly -/
  anomalyFamily : AnomalyFamily
  /-- the role of the topic in its stream -/
  topicRole : TopicRole
  /-- the tier of the stream -/
  criticalityTier : CriticalityTier
  /-- the team -/
  routingKey : String
  /-- whether the anomaly lasted long enough -/
  sustained : Bool
  /-- whether it was peak time, if that is known -/
  peak : Option Bool := none
  /-- the status of each piece of evidence -/
  evidenceStatusMap : Dict String EvidenceStatus
  /-- the findings -/
  findings : List Finding
  /-- when the case was assembled -/
  triageTimestamp : Instant
  deriving DecidableEq

section Excerpt

variable [Platform]

namespace TriageExcerptV1

/-- The entries of `TriageExcerptV1.model_dump(mode="json")`. -/
def fields (e : TriageExcerptV1) : List (String × Json) :=
  [("schema_version", (Codec.literal "v1").enc ()),
    ("case_id", Codec.text.enc e.caseId),
    ("env", Codec.enum.enc e.env),
    ("cluster_id", Codec.text.enc e.clusterId),
    ("stream_id", Codec.text.enc e.streamId),
    ("topic", Codec.text.enc e.topic),
    ("anomaly_family", Codec.enum.enc e.anomalyFamily),
    ("topic_role", Codec.enum.enc e.topicRole),
    ("criticality_tier", Codec.enum.enc e.criticalityTier),
    ("routing_key", Codec.text.enc e.routingKey),
    ("sustained", Codec.bool.enc e.sustained),
    ("peak", optBool.enc e.peak),
    ("evidence_status_map", statusMap.enc e.evidenceStatusMap),
    ("findings", Finding.codec.list.enc e.findings),
    ("triage_timestamp", timestamp.enc e.triageTimestamp)]

/-- `TriageExcerptV1.model_validate`. -/
def validate : Decoder TriageExcerptV1 := fun j => do
  let fs ← asFields j
  let _ ← fieldOr fs "schema_version" () (Codec.literal "v1").dec
  let caseId ← field fs "case_id" Codec.text.dec
  let env ← field fs "env" Codec.enum.dec
  let clusterId ← field fs "cluster_id" Codec.text.dec
  let streamId ← field fs "stream_id" Codec.text.dec
  let topic ← field fs "topic" Codec.text.dec
  let anomalyFamily ← field fs "anomaly_family" Codec.enum.dec
  let topicRole ← field fs "topic_role" Codec.enum.dec
  let criticalityTier ← field fs "criticality_tier" Codec.enum.dec
  let routingKey ← field fs "routing_key" Codec.text.dec
  let sustained ← field fs "sustained" Codec.bool.dec
  let peak ← fieldOr fs "peak" none optBool.dec
  let evidenceStatusMap ← field fs "evidence_status_map" statusMap.dec
  let findings ← field fs "findings" Finding.codec.list.dec
  let triageTimestamp ← field fs "triage_timestamp" timestamp.dec
  return {
    caseId, env, clusterId, streamId, topic, anomalyFamily, topicRole, criticalityTier, routingKey
    sustained, peak, evidenceStatusMap, findings, triageTimestamp }

theorem validate_fields (e : TriageExcerptV1) : validate (.obj e.fields) = .ok e := by
  simp [validate, fields, asFields, field, fieldOr, pure, Except.pure]

/-- `TriageExcerptV1.model_validate(apply_denylist(...))`, with the path of the field that is
missing then. -/
def sanitize (e : TriageExcerptV1) (denylist : DenylistV1) :
    Except (List String) TriageExcerptV1 :=
  validate (.obj (applyDenylist denylist e.fields))

/-- A denylist that removes nothing leaves an excerpt as it is. -/
theorem sanitize_of_removesNothing {denylist : DenylistV1} (h : denylist.RemovesNothing)
    (e : TriageExcerptV1) : e.sanitize denylist = .ok e := by
  rw [sanitize, h, validate_fields]

end TriageExcerptV1

end Excerpt

end AiopsTriage
