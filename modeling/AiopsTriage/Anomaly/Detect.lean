import AiopsTriage.Stages.Outputs

/-!
# Anomaly detection

The detectors look at the samples of one scope: a consumer group that falls behind, a
topic whose producers fail under load, and a topic that used to have traffic and has none
any more (`computeScopeFindings`). A finding carries the scope it is about.

Comparisons of floats are exact, with `nan` below and above nothing. The one difference and
the one ratio that the detectors compute are rounded by the interpreter, so both are a
parameter (`FloatArithmetic`).
-/

namespace PyFloat

/-- `x < y` on floats. -/
def lt : PyFloat → PyFloat → Bool
  | finite p, finite q => p < q
  | finite _, posInf => true
  | negInf, finite _ => true
  | negInf, posInf => true
  | _, _ => false

/-- `x <= y` on floats. -/
def le (x y : PyFloat) : Bool := x.lt y || (x == y && x != nan)

/-- `max` of a list with a first item. -/
def max (first : PyFloat) (rest : List PyFloat) : PyFloat :=
  rest.foldl (fun m x => if m.lt x then x else m) first

/-- `min` of a list with a first item. -/
def min (first : PyFloat) (rest : List PyFloat) : PyFloat :=
  rest.foldl (fun m x => if x.lt m then x else m) first

end PyFloat

namespace AiopsTriage

open Json

/-- What the interpreter rounds. -/
class FloatArithmetic where
  /-- `x - y` -/
  sub : PyFloat → PyFloat → PyFloat
  /-- `x / y` for a nonzero `y` -/
  div : PyFloat → PyFloat → PyFloat

/-! ## Findings -/

/-- `AnomalySeverity`. -/
inductive AnomalySeverity where
  /-- `LOW` -/
  | low
  /-- `MEDIUM` -/
  | medium
  /-- `HIGH` -/
  | high
  deriving DecidableEq, Repr

instance : StrEnum AnomalySeverity where
  members := [.low, .medium, .high]
  value
    | .low => "LOW"
    | .medium => "MEDIUM"
    | .high => "HIGH"
  complete a := by cases a <;> decide
  injective a b := by cases a <;> cases b <;> decide

/-- `AnomalyFinding`, with all its fields. -/
structure DetectedFinding where
  /-- the finding's id -/
  findingId : String
  /-- the kind of anomaly -/
  anomalyFamily : AnomalyFamily
  /-- the scope it is about -/
  scope : Scope
  /-- how severe it is -/
  severity : AnomalySeverity
  /-- its reason codes -/
  reasonCodes : List String
  /-- the evidence it rests on -/
  evidenceRequired : List String
  /-- statuses other than `PRESENT` that it tolerates, by evidence -/
  allowedNonPresentStatusesByEvidence : Dict String (List EvidenceStatus) := .empty
  /-- whether the evidence gate prefers its requirements -/
  isPrimary : Option Bool := none
  /-- every allowance is one the validator accepts -/
  allowances_ok : allowedNonPresentStatusesByEvidence.entries.all (allowanceOk evidenceRequired)

instance : DecidableEq DetectedFinding := fun a b =>
  decidable_of_iff (a.findingId = b.findingId ∧ a.anomalyFamily = b.anomalyFamily ∧
      a.scope = b.scope ∧ a.severity = b.severity ∧ a.reasonCodes = b.reasonCodes ∧
      a.evidenceRequired = b.evidenceRequired ∧
      a.allowedNonPresentStatusesByEvidence = b.allowedNonPresentStatusesByEvidence ∧
      a.isPrimary = b.isPrimary) <| by
    cases a
    cases b
    simp only [DetectedFinding.mk.injEq]

namespace DetectedFinding

/-- `AnomalyFinding.model_dump(mode="json")`. -/
def dump (f : DetectedFinding) : Json :=
  .obj
    [("finding_id", Codec.text.enc f.findingId),
      ("anomaly_family", Codec.enum.enc f.anomalyFamily),
      ("scope", texts.enc f.scope),
      ("severity", Codec.enum.enc f.severity),
      ("reason_codes", texts.enc f.reasonCodes),
      ("evidence_required", texts.enc f.evidenceRequired),
      ("allowed_non_present_statuses_by_evidence",
        (Codec.enum.list.dict).enc f.allowedNonPresentStatusesByEvidence),
      ("is_primary", optBool.enc f.isPrimary)]

/-- The validator on the allowances: each status once, and every entry accepted. -/
def build (findingId : String) (anomalyFamily : AnomalyFamily) (scope : Scope)
    (severity : AnomalySeverity) (reasonCodes evidenceRequired : List String)
    (allowed : Dict String (List EvidenceStatus)) (isPrimary : Option Bool) :
    Except (List String) DetectedFinding :=
  let normalized := allowed.mapValues fun _ statuses => uniqueInOrder statuses
  if h : normalized.entries.all (allowanceOk evidenceRequired) then
    .ok ⟨findingId, anomalyFamily, scope, severity, reasonCodes, evidenceRequired, normalized,
      isPrimary, h⟩
  else .error ["allowed_non_present_statuses_by_evidence"]

/-- `AnomalyFinding.model_validate`. -/
def validate : Decoder DetectedFinding := fun j => do
  let fs ← asFields j
  let findingId ← field fs "finding_id" Codec.text.dec
  let anomalyFamily ← field fs "anomaly_family" Codec.enum.dec
  let scope ← field fs "scope" texts.dec
  let severity ← field fs "severity" Codec.enum.dec
  let reasonCodes ← field fs "reason_codes" texts.dec
  let evidenceRequired ← field fs "evidence_required" texts.dec
  let allowed ← fieldOr fs "allowed_non_present_statuses_by_evidence" .empty
    (Codec.enum.list.dict).dec
  let isPrimary ← fieldOr fs "is_primary" none optBool.dec
  build findingId anomalyFamily scope severity reasonCodes evidenceRequired allowed isPrimary

theorem validate_dump (f : DetectedFinding) : validate f.dump = .ok f := by
  have hbuild : build f.findingId f.anomalyFamily f.scope f.severity f.reasonCodes
      f.evidenceRequired f.allowedNonPresentStatusesByEvidence f.isPrimary = .ok f := by
    unfold build
    simp only [unique_of_allowanceOk f.allowances_ok]
    rw [dif_pos f.allowances_ok]
  simp [validate, dump, asFields, field, fieldOr, hbuild]

/-- The codec of an anomaly finding. -/
def codec : Codec DetectedFinding := ⟨dump, validate, validate_dump⟩

end DetectedFinding

/-- `group_findings_by_scope`: the findings of each scope, in order. -/
def groupFindingsByScope (findings : List DetectedFinding) : Dict Scope (List DetectedFinding) :=
  findings.foldl (fun grouped finding =>
    grouped.set finding.scope ((grouped.get? finding.scope).getD [] ++ [finding])) .empty

/-- `AnomalyDetectionResult`. -/
structure AnomalyDetectionResult where
  /-- all findings -/
  findings : List DetectedFinding
  deriving DecidableEq

/-- `AnomalyDetectionResult.findings_by_scope`, which the validator derives. -/
def AnomalyDetectionResult.findingsByScope (result : AnomalyDetectionResult) :
    Dict Scope (List DetectedFinding) := groupFindingsByScope result.findings

/-! ## Detectors -/

/-- The samples of a scope, by metric. -/
abbrev ScopeMetrics := Dict String (List PyFloat)

section Detectors

variable [FloatArithmetic]

/-- `_detect_consumer_lag_buildup`. -/
def detectConsumerLagBuildup (scope : Scope) (scopeMetrics : ScopeMetrics) :
    Option DetectedFinding :=
  match scopeMetrics.get? "consumer_group_lag", scopeMetrics.get? "consumer_group_offset" with
  | some (lagStart :: lags), some (offset :: offsets) =>
    let lagEnd := PyFloat.max lagStart lags
    -- a single sample counts as growth from zero
    let lagGrowth :=
      match lags.getLast? with
      | some lagLast => FloatArithmetic.sub lagLast lagStart
      | none => lagEnd
    let offsetProgress :=
      FloatArithmetic.sub (PyFloat.max offset offsets) (PyFloat.min offset offsets)
    if lagEnd.lt (.finite 100) then none
    else if lagGrowth.lt (.finite 25) then none
    else if (PyFloat.finite 10).lt offsetProgress then none
    else some
      { findingId := "CONSUMER_LAG:" ++ PyText.join "|" scope
        anomalyFamily := .consumerLag
        scope
        severity := .high
        reasonCodes := ["LAG_BUILDUP_DETECTED", "LAG_HIGH", "OFFSET_PROGRESS_LOW"]
        evidenceRequired := ["consumer_group_lag", "consumer_group_offset"]
        isPrimary := some true
        allowances_ok := rfl }
  | _, _ => none

/-- `_THROUGHPUT_FAILURE_RATIO_MIN`: the double 0.05. -/
def throughputFailureRatioMin : PyFloat := .finite (3602879701896397 / 72057594037927936)

/-- `_detect_throughput_constrained_proxy`. -/
def detectThroughputConstrainedProxy (scope : Scope) (scopeMetrics : ScopeMetrics) :
    Option DetectedFinding :=
  match scopeMetrics.get? "topic_messages_in_per_sec",
    scopeMetrics.get? "total_produce_requests_per_sec",
    scopeMetrics.get? "failed_produce_requests_per_sec" with
  | some (message :: messages), some (total :: totals), some (failed :: faileds) =>
    let throughput := PyFloat.max message messages
    let totalProduce := PyFloat.max total totals
    let failedProduce := PyFloat.max failed faileds
    if throughput.lt (.finite 1000) then none
    else if totalProduce.lt (.finite 100) then none
    else if totalProduce.le (.finite 0) then none
    else if (FloatArithmetic.div failedProduce totalProduce).lt throughputFailureRatioMin then none
    else some
      { findingId := "THROUGHPUT_CONSTRAINED_PROXY:" ++ PyText.join "|" scope
        anomalyFamily := .throughputConstrainedProxy
        scope
        severity := .high
        reasonCodes := ["HIGH_THROUGHPUT", "PRODUCE_FAILURE_RATIO_HIGH"]
        evidenceRequired := ["topic_messages_in_per_sec", "total_produce_requests_per_sec",
          "failed_produce_requests_per_sec"]
        isPrimary := some true
        allowances_ok := rfl }
  | _, _, _ => none

/-- `_detect_volume_drop`. -/
def detectVolumeDrop (scope : Scope) (scopeMetrics : ScopeMetrics) : Option DetectedFinding :=
  match scopeMetrics.get? "topic_messages_in_per_sec",
    scopeMetrics.get? "total_produce_requests_per_sec" with
  | some (message :: messages), some (total :: totals) =>
    let baselineMessagesIn := PyFloat.max message messages
    let currentMessagesIn := PyFloat.min message messages
    let expectedRequests := PyFloat.max total totals
    if baselineMessagesIn.lt (.finite 50) then none
    else if expectedRequests.lt (.finite 150) then none
    else if (PyFloat.finite 1).lt currentMessagesIn then none
    else some
      { findingId := "VOLUME_DROP:" ++ PyText.join "|" scope
        anomalyFamily := .volumeDrop
        scope
        severity := .medium
        reasonCodes := ["EXPECTED_INGRESS_BUT_LOW_TRAFFIC", "VOLUME_DROP_VS_BASELINE"]
        evidenceRequired := ["topic_messages_in_per_sec", "total_produce_requests_per_sec"]
        isPrimary := some true
        allowances_ok := rfl }
  | _, _ => none

/-- `_compute_scope_findings`. -/
def computeScopeFindings (scope : Scope) (scopeMetrics : ScopeMetrics) : List DetectedFinding :=
  (detectConsumerLagBuildup scope scopeMetrics).toList ++
    (detectThroughputConstrainedProxy scope scopeMetrics).toList ++
    (detectVolumeDrop scope scopeMetrics).toList

end Detectors

/-! ## Samples by scope -/

/-- One more sample of a metric. -/
def ScopeMetrics.add (scopeMetrics : ScopeMetrics) (sample : String × PyFloat) : ScopeMetrics :=
  scopeMetrics.set sample.1 ((scopeMetrics.get? sample.1).getD [] ++ [sample.2])

/-- The samples of the rows, by scope and metric. -/
def metricsByScope (rows : List EvidenceRow) : Dict Scope ScopeMetrics :=
  rows.foldl (fun metrics row => metrics.set row.scope
    (((metrics.get? row.scope).getD .empty).add (row.metricKey, row.value))) .empty

/-- The samples of one scope, in order. -/
def samplesOf (rows : List EvidenceRow) (scope : Scope) : List (String × PyFloat) :=
  (rows.filter fun row => row.scope == scope).map fun row => (row.metricKey, row.value)

/-- The metrics of a scope are made of its samples. -/
def metricsOf (samples : List (String × PyFloat)) : ScopeMetrics :=
  samples.foldl ScopeMetrics.add .empty

theorem metricsOf_append {samples : List (String × PyFloat)} {sample : String × PyFloat} :
    metricsOf (samples ++ [sample]) = (metricsOf samples).add sample := by
  rw [metricsOf, List.foldl_append]
  rfl

/-- A scope has metrics if it has rows, and then they are made of its own samples. -/
theorem get?_metricsByScope {rows : List EvidenceRow} {scope : Scope} :
    (metricsByScope rows).get? scope =
      if samplesOf rows scope = [] then none else some (metricsOf (samplesOf rows scope)) := by
  induction rows using List.reverseRecOn with
  | nil => rfl
  | append_singleton rows row ih =>
    have hsamples : samplesOf (rows ++ [row]) scope = if row.scope = scope
        then samplesOf rows scope ++ [(row.metricKey, row.value)] else samplesOf rows scope := by
      by_cases h : row.scope = scope <;> simp [samplesOf, h]
    rw [metricsByScope, List.foldl_append, List.foldl_cons, List.foldl_nil, ← metricsByScope,
      Dict.get?_set, hsamples]
    by_cases h : row.scope = scope
    · subst h
      have hmetrics : ((metricsByScope rows).get? row.scope).getD .empty =
          metricsOf (samplesOf rows row.scope) := by
        rw [ih]
        split
        · next hnone => rw [hnone]; rfl
        · rfl
      rw [if_pos rfl, if_pos rfl, hmetrics, if_neg (List.append_ne_nil_of_right_ne_nil _ (by simp)),
        metricsOf_append]
    · rw [if_neg (by simpa using h), if_neg h, ih]

end AiopsTriage
