import AiopsTriage.Gating.Inputs
import AiopsTriage.Peak.Sustained
import Mathlib.Data.Rat.Floor

/-!
# Peak classification

The peak stage compares the present traffic of every topic it knows with the topic's own
history: a baseline profile holds two thresholds, the nearest-rank percentiles of the history
(`buildPeakProfile`), and the maximum of the current values is classified against them
(`classifyScope`). What it cannot compare it classifies UNKNOWN: a topic without a finite
current value, or without a finite value in its history (`classifyScope_unknown_iff`).

The stage hands on three dictionaries by topic, and the sustained statuses
(`collectPeakStageOutput`). What it knows of one topic is read off its inputs at this topic
(`collectPeakStageOutput_get?`).
-/

namespace AiopsTriage

/-! ## Doubles -/

/-- The double nearest to a rational, within the range of the normal ones. -/
def nearestDouble (q : ℚ) : ℚ :=
  let n := q.num.natAbs
  let d := q.den
  -- the exponent of the leading bit, which `log2` gives up to one
  let above : Int := (Nat.log2 n : Int) - Nat.log2 d
  let leading := if n * 2 ^ (-above).toNat < d * 2 ^ above.toNat then above - 1 else above
  let shift := 52 - leading
  let mantissa := roundHalfEven (n * 2 ^ shift.toNat) (d * 2 ^ (-shift).toNat)
  let size : ℚ := (mantissa * 2 ^ (-shift).toNat : ℕ) / (2 ^ shift.toNat : ℕ)
  if 0 ≤ q.num then size else -size

/-- `_nearest_rank_percentile`, with the rounding of its two operations. -/
def nearestRankPercentile (values : List ℚ) (percentile : Int) (round : ℚ → ℚ := nearestDouble) :
    Except Failure ℚ :=
  let rank := max 1 (round (round (percentile / 100) * values.length)).ceil
  match values[(rank - 1).toNat]? with
  | some value => .ok value
  | none => .error (.indexError "list index out of range")

/-! ## Policy -/

/-- `PeakThresholdPolicy`, as far as the stage reads it. -/
structure PeakThresholdPolicy where
  /-- where the near-peak zone begins -/
  peakPercentile : Int := 90
  /-- where the peak zone begins -/
  nearPeakPercentile : Int := 95
  /-- how many samples make a sufficient history -/
  minBaselineWindows : Int := 4
  deriving DecidableEq, Repr

/-- How often profiles are computed anew. -/
inductive RecomputeFrequency where
  /-- `daily` -/
  | daily
  /-- `weekly` -/
  | weekly
  /-- `monthly` -/
  | monthly
  deriving DecidableEq, Repr

/-- `PeakPolicyV1`, as far as the stage reads it. -/
structure PeakPolicyV1 where
  /-- the metric profiles are of -/
  metric : String
  /-- how often they are computed -/
  recomputeFrequency : RecomputeFrequency
  /-- the thresholds -/
  defaults : PeakThresholdPolicy
  deriving DecidableEq, Repr

/-- `config/policies/peak-policy-v1.yaml`. -/
def peakPolicyV1 : PeakPolicyV1 where
  metric := "kafka_server_brokertopicmetrics_messagesinpersec"
  recomputeFrequency := .weekly
  defaults := {}

/-! ## Profiles and classifications -/

/-- `PeakProfile`. -/
structure PeakProfile where
  /-- the topic -/
  scope : Scope
  /-- the metric it is of -/
  sourceMetric : String
  /-- where the peak begins -/
  peakThresholdValue : ℚ
  /-- where the near peak begins -/
  nearPeakThresholdValue : ℚ
  /-- how many samples the history has -/
  historySamplesCount : Int
  /-- whether these are enough -/
  hasSufficientHistory : Bool
  /-- how often it is computed -/
  recomputeFrequency : RecomputeFrequency
  /-- when it was computed -/
  computedAt : Instant
  /-- how many days it should span -/
  historyDaysTarget : Int := 7
  deriving DecidableEq, Repr

/-- `PeakClassification`. -/
structure PeakClassification where
  /-- the topic -/
  scope : Scope
  /-- the classification -/
  state : PeakState
  /-- what was classified -/
  currentValue : Option ℚ
  /-- how sure that is -/
  confidence : ℚ
  /-- why -/
  reasonCodes : List String
  /-- whether it is peak time -/
  isPeakWindow : Bool
  /-- whether it is almost -/
  isNearPeakWindow : Bool
  /-- where the peak begins -/
  peakThresholdValue : Option ℚ
  /-- where the near peak begins -/
  nearPeakThresholdValue : Option ℚ
  deriving DecidableEq, Repr

/-- `_build_peak_profile`. -/
def buildPeakProfile (scope : Scope) (historyValues : List PyFloat) (policy : PeakPolicyV1)
    (evaluationTime : Instant) (round : ℚ → ℚ := nearestDouble) :
    Except Failure (Option PeakProfile) :=
  let finiteValues := (historyValues.filterMap finiteValue).insertionSort (· ≤ ·)
  if finiteValues = [] then .ok none
  else do
    -- the names are crossed: the higher percentile is the near-peak one
    let peakThresholdValue ←
      nearestRankPercentile finiteValues policy.defaults.nearPeakPercentile round
    let nearPeakThresholdValue ←
      nearestRankPercentile finiteValues policy.defaults.peakPercentile round
    return some {
      scope, peakThresholdValue, nearPeakThresholdValue
      sourceMetric := policy.metric
      historySamplesCount := finiteValues.length
      hasSufficientHistory := decide (policy.defaults.minBaselineWindows ≤ finiteValues.length)
      recomputeFrequency := policy.recomputeFrequency
      computedAt := evaluationTime }

/-- The reason for a missing current value, by the status of its series. -/
def missingSeriesReason : Option EvidenceStatus → String
  | some .unknown => "REQUIRED_EVIDENCE_UNKNOWN"
  | some .absent => "REQUIRED_EVIDENCE_ABSENT"
  | some .stale => "REQUIRED_EVIDENCE_STALE"
  | _ => "MISSING_REQUIRED_SERIES"

/-- `_classify_scope`. -/
def classifyScope (scope : Scope) (currentValue : Option ℚ) (profile : Option PeakProfile)
    (requiredSeriesStatus : Option EvidenceStatus) : PeakClassification :=
  match currentValue, profile with
  | none, _ =>
    { scope := (profile.map PeakProfile.scope).getD scope
      state := .unknown
      currentValue := none
      confidence := 0
      reasonCodes := [missingSeriesReason requiredSeriesStatus]
      isPeakWindow := false
      isNearPeakWindow := false
      peakThresholdValue := profile.map PeakProfile.peakThresholdValue
      nearPeakThresholdValue := profile.map PeakProfile.nearPeakThresholdValue }
  | some value, none =>
    { scope
      state := .unknown
      currentValue := some value
      confidence := nearestDouble (1 / 5)
      reasonCodes := ["INSUFFICIENT_HISTORY"]
      isPeakWindow := false
      isNearPeakWindow := false
      peakThresholdValue := none
      nearPeakThresholdValue := none }
  | some value, some profile =>
    let isPeak := decide (profile.peakThresholdValue ≤ value)
    let isNearPeak := isPeak || decide (profile.nearPeakThresholdValue ≤ value)
    { scope := profile.scope
      state := if isPeak then .peak else if isNearPeak then .nearPeak else .offPeak
      currentValue := some value
      confidence := if profile.hasSufficientHistory then 1 else 1 / 2
      reasonCodes := if profile.hasSufficientHistory then ["CLASSIFIED_FROM_BASELINE"]
        else ["CLASSIFIED_FROM_BASELINE", "INSUFFICIENT_HISTORY"]
      isPeakWindow := isPeak
      isNearPeakWindow := isNearPeak
      peakThresholdValue := some profile.peakThresholdValue
      nearPeakThresholdValue := some profile.nearPeakThresholdValue }

/-- What is handed on of a classification. -/
def PeakClassification.context (c : PeakClassification) : PeakWindowContext where
  classification := c.state
  isPeakWindow := c.isPeakWindow
  isNearPeakWindow := c.isNearPeakWindow
  confidence := .finite c.confidence
  reasonCodes := c.reasonCodes

/-! ## The stage -/

/-- `_TOPIC_MESSAGES_METRIC_KEY`. -/
def topicMessagesMetricKey : String := "topic_messages_in_per_sec"

/-- `_to_topic_scope`. -/
def toTopicScope : Scope → Option Scope
  | [env, clusterId, topic] => some [env, clusterId, topic]
  | [env, clusterId, _, topic] => some [env, clusterId, topic]
  | _ => none

/-- `_required_metric_status_for_peak_scope`. -/
def requiredMetricStatusForPeakScope (scope : Scope)
    (evidenceStatusMapByScope : Option EvidenceByScope) : Option EvidenceStatus :=
  evidenceStatusMapByScope.map fun byScope =>
    match byScope.get? scope with
    | none => .unknown
    | some scopeStatusMap => (scopeStatusMap.get? topicMessagesMetricKey).getD .unknown

/-- What the stage is given, apart from the policies. -/
structure PeakStageInputs extends SustainedCycle where
  /-- the evidence rows -/
  rows : List EvidenceRow
  /-- the history of each topic -/
  historicalWindowsByScope : Dict Scope (List PyFloat)
  /-- the streaks so far -/
  priorSustainedWindowStateByKey : Dict SustainedIdentityKey SustainedWindowState := .empty

/-- `known_scopes`. -/
def PeakStageInputs.knownScopes (inputs : PeakStageInputs) : List Scope :=
  uniqueInOrder (inputs.historicalWindowsByScope.keys ++
    inputs.rows.filterMap fun row => toTopicScope row.scope)

/-- `current_values_by_scope.get(scope, ())`: non-finite values are only logged. -/
def PeakStageInputs.currentValues (inputs : PeakStageInputs) (scope : Scope) : List ℚ :=
  inputs.rows.filterMap fun row =>
    if toTopicScope row.scope = some scope ∧ row.metricKey = topicMessagesMetricKey
    then finiteValue row.value else none

/-- `historical_windows_by_scope.get(scope, ())`. -/
def PeakStageInputs.history (inputs : PeakStageInputs) (scope : Scope) : List PyFloat :=
  (inputs.historicalWindowsByScope.get? scope).getD []

/-- `PeakStageOutput` with all its fields. -/
structure PeakStageResult extends PeakStageOutput where
  /-- profiles by topic -/
  profilesByScope : Dict Scope PeakProfile
  /-- classifications by topic -/
  classificationsByScope : Dict Scope PeakClassification
  /-- the evidence the stage was given -/
  evidenceStatusMapByScope : EvidenceByScope
  /-- the sustained statuses, with their streaks -/
  statusesByKey : SustainedByKey

/-- What the stage computes for one topic. -/
structure ScopePeak where
  /-- the topic -/
  scope : Scope
  /-- its profile -/
  profile : Option PeakProfile
  /-- its classification -/
  classification : PeakClassification

/-- One turn of the loop over the known topics. -/
def peakOfScope (policy : PeakPolicyV1) (inputs : PeakStageInputs) (scope : Scope) :
    Except Failure ScopePeak := do
  let profile ← buildPeakProfile scope (inputs.history scope) policy inputs.evaluationTime
  return ⟨scope, profile, classifyScope scope (inputs.currentValues scope).max? profile
    (requiredMetricStatusForPeakScope scope inputs.evidenceStatusMapByScope)⟩

/-- `collect_peak_stage_output`. -/
def collectPeakStageOutput (policy : PeakPolicyV1) (rulebook : RulebookV1)
    (inputs : PeakStageInputs) : Except Failure PeakStageResult := do
  let peaks ← (inputs.knownScopes.insertionSort (· ≤ ·)).mapM (peakOfScope policy inputs)
  let statuses ← computeSustainedStatusByKey inputs.toSustainedCycle
    inputs.priorSustainedWindowStateByKey rulebook.sustainedIntervalsRequired
    rulebook.evaluationIntervalMinutes
  return {
    profilesByScope := .ofPairs (peaks.filterMap fun p => p.profile.map fun q => (p.scope, q))
    classificationsByScope := .ofPairs (peaks.map fun p => (p.scope, p.classification))
    peakContextByScope := .ofPairs (peaks.map fun p => (p.scope, p.classification.context))
    evidenceStatusMapByScope := inputs.evidenceStatusMapByScope.getD .empty
    sustainedByKey :=
      .ofPairs (statuses.entries.map fun e => (e.1.tuple, e.2.toSustainedStatus))
    statusesByKey := statuses }

/-! ## What it knows of one topic -/

variable {scope : Scope} {policy : PeakPolicyV1} {rulebook : RulebookV1}
  {inputs : PeakStageInputs} {output : PeakStageResult}

/-- UNKNOWN is what cannot be compared. -/
theorem classifyScope_unknown_iff {value : Option ℚ} {profile : Option PeakProfile}
    {status : Option EvidenceStatus} :
    (classifyScope scope value profile status).state = .unknown ↔
      value = none ∨ profile = none := by
  rcases value with _ | value
  · exact iff_of_true rfl (.inl rfl)
  · rcases profile with _ | profile
    · exact iff_of_true rfl (.inr rfl)
    · refine iff_of_false ?_ (by rintro (h | h) <;> cases h)
      simp only [classifyScope]
      split
      · exact PeakState.noConfusion
      · split <;> exact PeakState.noConfusion

/-- The flag holds exactly of PEAK. -/
theorem isPeakWindow_classifyScope {value : Option ℚ} {profile : Option PeakProfile}
    {status : Option EvidenceStatus} :
    (classifyScope scope value profile status).isPeakWindow =
      decide ((classifyScope scope value profile status).state = .peak) := by
  rcases value with _ | value
  · rfl
  · rcases profile with _ | profile
    · rfl
    · simp only [classifyScope]
      by_cases hpeak : profile.peakThresholdValue ≤ value
      · simp [hpeak]
      · by_cases hnear : profile.nearPeakThresholdValue ≤ value <;> simp [hpeak, hnear]

/-- There is no profile exactly when no value of the history is finite. -/
theorem buildPeakProfile_ok {historyValues : List PyFloat} {t : Instant}
    {profile : Option PeakProfile} (h : buildPeakProfile scope historyValues policy t = .ok profile) :
    profile = none ↔ ∀ x ∈ historyValues, x.isFinite = false := by
  have hempty : (historyValues.filterMap finiteValue).insertionSort (· ≤ ·) = [] ↔
      ∀ x ∈ historyValues, x.isFinite = false := by
    rw [← List.length_eq_zero_iff, List.length_insertionSort, List.length_eq_zero_iff,
      List.filterMap_eq_nil_iff]
    refine forall₂_congr fun x _ => ?_
    rw [← isSome_finiteValue, Option.isSome_eq_false_iff, Option.isNone_iff_eq_none]
  rw [← hempty]
  unfold buildPeakProfile at h
  simp only at h
  split at h
  · next hnone =>
    cases h
    exact iff_of_true rfl hnone
  · next hsome =>
    obtain ⟨peakThreshold, -, h⟩ := Except.bind_eq_ok.mp h
    obtain ⟨nearPeakThreshold, -, h⟩ := Except.bind_eq_ok.mp h
    rw [Except.pure_eq_ok] at h
    subst h
    exact iff_of_false (by rintro ⟨⟩) hsome

/-- A topic with a finite current value of its traffic. -/
def PeakStageInputs.HasCurrentValue (inputs : PeakStageInputs) (scope : Scope) : Prop :=
  ∃ row ∈ inputs.rows, toTopicScope row.scope = some scope ∧
    row.metricKey = topicMessagesMetricKey ∧ row.value.isFinite = true

/-- A topic with a finite value in its history. -/
def PeakStageInputs.HasHistory (inputs : PeakStageInputs) (scope : Scope) : Prop :=
  ∃ x ∈ inputs.history scope, x.isFinite = true

/-- A topic the stage knows: of a row, or with a history. -/
def PeakStageInputs.Knows (inputs : PeakStageInputs) (scope : Scope) : Prop :=
  (inputs.historicalWindowsByScope.get? scope).isSome ∨
    ∃ row ∈ inputs.rows, toTopicScope row.scope = some scope

theorem mem_knownScopes : scope ∈ inputs.knownScopes ↔ inputs.Knows scope := by
  have hkeys : scope ∈ inputs.historicalWindowsByScope.keys ↔
      (inputs.historicalWindowsByScope.get? scope).isSome := by
    rw [← not_iff_not, Option.not_isSome_iff_eq_none]
    exact Dict.find_eq_none.symm
  rw [PeakStageInputs.knownScopes, mem_uniqueInOrder, List.mem_append, hkeys, List.mem_filterMap]
  rfl

theorem max?_currentValues_eq_none :
    (inputs.currentValues scope).max? = none ↔ ¬ inputs.HasCurrentValue scope := by
  rw [List.max?_eq_none_iff, PeakStageInputs.currentValues, List.filterMap_eq_nil_iff]
  unfold PeakStageInputs.HasCurrentValue
  rw [not_exists]
  refine forall_congr' fun row => ?_
  rw [not_and]
  refine forall_congr' fun _ => ?_
  rw [← isSome_finiteValue]
  split
  · next h => simp [h.1, h.2]
  · next h =>
    refine iff_of_true rfl ?_
    rintro ⟨hscope, hmetric, -⟩
    exact h ⟨hscope, hmetric⟩

/-- **One topic**: a topic the stage knows has the classification and the context that its own
inputs lead to; another has none. -/
theorem collectPeakStageOutput_get? (h : collectPeakStageOutput policy rulebook inputs = .ok output)
    (scope : Scope) :
    (inputs.Knows scope → ∃ peak, peakOfScope policy inputs scope = .ok peak ∧
      output.classificationsByScope.get? scope = some peak.classification ∧
      output.peakContextByScope.get? scope = some peak.classification.context) ∧
    (¬ inputs.Knows scope → output.classificationsByScope.get? scope = none ∧
      output.peakContextByScope.get? scope = none) := by
  obtain ⟨peaks, hpeaks, h⟩ := Except.bind_eq_ok.mp h
  obtain ⟨statuses, -, h⟩ := Except.bind_eq_ok.mp h
  rw [Except.pure_eq_ok] at h
  subst h
  have hall := Except.mapM_eq_ok.mp hpeaks
  have hname : ∀ s p, peakOfScope policy inputs s = .ok p → p.scope = s := by
    intro s p hp
    obtain ⟨profile, -, hp⟩ := Except.bind_eq_ok.mp hp
    rw [Except.pure_eq_ok] at hp
    subst hp
    rfl
  have hmem : scope ∈ inputs.knownScopes.insertionSort (· ≤ ·) ↔ inputs.Knows scope :=
    (List.mem_insertionSort _).trans mem_knownScopes
  have hkeys := Dict.keys_of_forall₂ hall hname
  have hnodup : (inputs.knownScopes.insertionSort (· ≤ ·)).Nodup :=
    (List.perm_insertionSort _ _).nodup_iff.mpr (nodup_uniqueInOrder _)
  -- both dictionaries list the same topics
  have hget : ∀ {ν : Type} (f : PeakClassification → ν),
      (Dict.ofPairs (peaks.map fun p => (p.scope, f p.classification))).get? scope =
        (Dict.find scope (peaks.map fun p => (p.scope, p))).map fun p => f p.classification := by
    intro ν f
    let value : Scope → ScopePeak → ν := fun _ p => f p.classification
    have hpairs : (peaks.map fun p => (p.scope, f p.classification)) =
        (peaks.map fun p => (p.scope, p)).map fun e => (e.1, value e.1 e.2) := by
      rw [List.map_map]
      rfl
    rw [hpairs, Dict.get?_ofPairs, Dict.find_map]
    rw [List.map_map]
    exact hkeys ▸ hnodup
  obtain ⟨hfound, hnone⟩ := Dict.find_of_forall₂ hall hname scope
  refine ⟨fun hknown => ?_, fun hunknown => ?_⟩
  · obtain ⟨peak, hpeak, hfind⟩ := hfound (hmem.mpr hknown)
    refine ⟨peak, hpeak, ?_, ?_⟩
    · exact (hget id).trans (by rw [hfind]; rfl)
    · exact (hget PeakClassification.context).trans (by rw [hfind]; rfl)
  · have hfind := hnone (mt hmem.mp hunknown)
    exact ⟨(hget id).trans (by rw [hfind]; rfl),
      (hget PeakClassification.context).trans (by rw [hfind]; rfl)⟩

/-- The classification of a topic the stage knows is UNKNOWN exactly when it has no finite
current value or no finite history, and the flag of its context holds exactly of PEAK. -/
theorem peakOfScope_ok {peak : ScopePeak} (h : peakOfScope policy inputs scope = .ok peak) :
    (peak.classification.state = .unknown ↔
      ¬ (inputs.HasCurrentValue scope ∧ inputs.HasHistory scope)) ∧
      peak.classification.isPeakWindow = decide (peak.classification.state = .peak) := by
  obtain ⟨profile, hprofile, h⟩ := Except.bind_eq_ok.mp h
  rw [Except.pure_eq_ok] at h
  subst h
  refine ⟨?_, isPeakWindow_classifyScope⟩
  rw [classifyScope_unknown_iff, max?_currentValues_eq_none, buildPeakProfile_ok hprofile,
    not_and_or]
  refine or_congr_right ?_
  simp only [PeakStageInputs.HasHistory, not_exists, not_and, Bool.not_eq_true]

end AiopsTriage
