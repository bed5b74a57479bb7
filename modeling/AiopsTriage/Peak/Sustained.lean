import AiopsTriage.Lib.Fallible
import AiopsTriage.Lib.Streak
import AiopsTriage.Stages.Outputs

/-!
# Sustained anomalies

The peak stage counts for every identity key in how many successive evaluation buckets an
anomaly was seen. A cycle computes a status for every key it knows from before or finds
anomalous now (`computeSustainedStatusByKey`), and what the next cycle is given is read off
these statuses (`buildSustainedWindowStateByKey`).

`computeSustainedStatusByKey_get?` says what one cycle makes of one key: its status comes
from the state of this key alone.
-/

namespace AiopsTriage

/-! ## Buckets -/

/-- Division to the nearest integer, halves to the even one. -/
def roundHalfEven (n d : Nat) : Nat :=
  if 2 * (n % d) < d ∨ (2 * (n % d) = d ∧ n / d % 2 = 0) then n / d else n / d + 1

/-- `int(t.timestamp())`: the seconds as the nearest double, whose spacing is a power of two,
without the fraction. -/
def timestampSeconds (t : Instant) : Int :=
  let micros := t.natAbs
  let fractionBits := 52 - Nat.log2 (micros / 1000000)
  let seconds := roundHalfEven (micros * 2 ^ fractionBits) 1000000 / 2 ^ fractionBits
  if 0 ≤ t then seconds else -seconds

/-- The evaluation bucket of a time. -/
def bucketOf (evaluationIntervalMinutes : Int) (t : Instant) : Int :=
  (timestampSeconds t).fdiv (evaluationIntervalMinutes * 60)

/-- `_is_consecutive_interval`. -/
def isConsecutiveInterval (previousEvaluation currentEvaluation : Instant)
    (evaluationIntervalMinutes : Int) : Except Failure Bool :=
  if evaluationIntervalMinutes ≤ 0 then .error (.valueError
    s!"evaluation_interval_minutes must be a positive integer, got {evaluationIntervalMinutes}")
  else .ok (bucketOf evaluationIntervalMinutes currentEvaluation -
    bucketOf evaluationIntervalMinutes previousEvaluation == 1)

/-! ## Keys and states -/

/-- `SustainedIdentityKey`. -/
structure SustainedIdentityKey where
  /-- the environment -/
  env : String
  /-- the cluster -/
  clusterId : String
  /-- `topic:` and the topic, or `group:` and the consumer group -/
  topicOrGroup : String
  /-- the anomaly family -/
  anomalyFamily : String
  deriving DecidableEq, Repr

/-- The key as the tuple it is in Python. -/
def SustainedIdentityKey.tuple (key : SustainedIdentityKey) : List String :=
  [key.env, key.clusterId, key.topicOrGroup, key.anomalyFamily]

/-- `sorted(keys)`. -/
def sortKeys (keys : List SustainedIdentityKey) : List SustainedIdentityKey :=
  keys.insertionSort (fun a b => a.tuple ≤ b.tuple)

/-- `SustainedWindowState`. -/
structure SustainedWindowState where
  /-- the key -/
  identityKey : SustainedIdentityKey
  /-- the streak so far -/
  consecutiveAnomalousBuckets : Int
  /-- when it was computed -/
  lastEvaluatedAt : Instant
  deriving DecidableEq, Repr

/-- `SustainedStatus`, with what the streak is kept in. -/
structure SustainedStreakStatus extends SustainedStatus where
  /-- the key -/
  identityKey : SustainedIdentityKey
  /-- the streak -/
  consecutiveAnomalousBuckets : Int
  /-- the streak it takes to be sustained -/
  requiredBuckets : Int
  /-- when it was computed -/
  lastEvaluatedAt : Instant
  /-- why -/
  reasonCodes : List String
  deriving DecidableEq, Repr

/-- `AnomalyFinding`, as far as the peak stage reads it. -/
structure AnomalyFinding where
  /-- the anomaly family -/
  anomalyFamily : AnomalyFamily
  /-- the scope -/
  scope : Scope
  deriving DecidableEq, Repr

/-- `_to_sustained_identity_key`; other scopes are only logged. -/
def toSustainedIdentityKey (finding : AnomalyFinding) : Option SustainedIdentityKey :=
  match finding.scope with
  | [env, clusterId, topic] =>
    some ⟨env, clusterId, "topic:" ++ topic, StrEnum.value finding.anomalyFamily⟩
  | [env, clusterId, group, _] =>
    some ⟨env, clusterId, "group:" ++ group, StrEnum.value finding.anomalyFamily⟩
  | _ => none

/-! ## Evidence -/

/-- What the peak stage knows of the evidence. -/
abbrev EvidenceByScope := Dict Scope (Dict String EvidenceStatus)

/-- `_REQUIRED_METRICS_BY_ANOMALY_FAMILY`. -/
def requiredMetricsByAnomalyFamily : List (String × List String) :=
  [("CONSUMER_LAG", ["consumer_group_lag", "consumer_group_offset"]),
    ("VOLUME_DROP", ["topic_messages_in_per_sec", "total_produce_requests_per_sec"]),
    ("THROUGHPUT_CONSTRAINED_PROXY",
      ["topic_messages_in_per_sec", "total_produce_requests_per_sec",
        "failed_produce_requests_per_sec"])]

/-- `s.split(tag, maxsplit=1)[1]` for a text that starts with the tag. -/
def afterTag (tag s : String) : Option String :=
  if tag.toList.isPrefixOf s.toList then some (String.ofList (s.toList.drop tag.length)) else none

/-- `_candidate_scope_status_maps_for_sustained_key`. -/
def candidateScopeStatusMapsForSustainedKey (key : SustainedIdentityKey)
    (evidenceStatusMapByScope : EvidenceByScope) : List (Dict String EvidenceStatus) :=
  match afterTag "topic:" key.topicOrGroup with
  | some topic => (evidenceStatusMapByScope.get? [key.env, key.clusterId, topic]).toList
  | none =>
    match afterTag "group:" key.topicOrGroup with
    | some group => (evidenceStatusMapByScope.entries.filter fun entry =>
        entry.1.length == 4 && entry.1.take 3 == [key.env, key.clusterId, group]).map Prod.snd
    | none => []

/-- `_has_insufficient_evidence_for_sustained_key`. -/
def hasInsufficientEvidenceForSustainedKey (key : SustainedIdentityKey)
    (evidenceStatusMapByScope : Option EvidenceByScope) : Bool :=
  match evidenceStatusMapByScope with
  | none => false
  | some byScope =>
    match Dict.find key.anomalyFamily requiredMetricsByAnomalyFamily with
    | none => false
    | some requiredMetrics =>
      !(candidateScopeStatusMapsForSustainedKey key byScope).any fun scopeStatusMap =>
        requiredMetrics.all fun metric => (scopeStatusMap.get? metric).getD .unknown == .present

/-! ## One key -/

/-- `_next_streak_count`. -/
def nextStreakCount (priorState : Option SustainedWindowState)
    (currentKeyIsAnomalous evidenceInsufficient : Bool) (evaluationTime : Instant)
    (evaluationIntervalMinutes : Int) : Except Failure Int :=
  if evidenceInsufficient then
    match priorState with
    | none => .ok 0
    | some prior => do
      let consecutive ←
        isConsecutiveInterval prior.lastEvaluatedAt evaluationTime evaluationIntervalMinutes
      return if consecutive then prior.consecutiveAnomalousBuckets else 0
  else if !currentKeyIsAnomalous then .ok 0
  else
    match priorState with
    | none => .ok 1
    | some prior => do
      let consecutive ←
        isConsecutiveInterval prior.lastEvaluatedAt evaluationTime evaluationIntervalMinutes
      return if consecutive then prior.consecutiveAnomalousBuckets + 1 else 1

/-- `_reason_codes`. -/
def sustainedReasonCodes (priorState : Option SustainedWindowState) (streak : Int)
    (isSustained isAnomalous evidenceInsufficient : Bool) (evaluationTime : Instant)
    (evaluationIntervalMinutes : Int) : Except Failure (List String) := do
  let base ← (
    if evidenceInsufficient then
      match priorState with
      | none => .ok ["INSUFFICIENT_EVIDENCE"]
      | some prior => do
        let consecutive ←
          isConsecutiveInterval prior.lastEvaluatedAt evaluationTime evaluationIntervalMinutes
        return ["INSUFFICIENT_EVIDENCE",
          if consecutive then
            if 0 < prior.consecutiveAnomalousBuckets then "STREAK_HELD" else "STREAK_INACTIVE"
          else "STREAK_RESET_GAP"]
    else if !isAnomalous then
      match priorState with
      | some prior =>
        .ok (if 0 < prior.consecutiveAnomalousBuckets then
          ["NON_ANOMALOUS_INTERVAL", "STREAK_RESET"] else ["NON_ANOMALOUS_INTERVAL"])
      | none => .ok ["NON_ANOMALOUS_INTERVAL"]
    else
      match priorState with
      | none => .ok ["ANOMALOUS_INTERVAL", "STREAK_STARTED"]
      | some prior => do
        let consecutive ←
          isConsecutiveInterval prior.lastEvaluatedAt evaluationTime evaluationIntervalMinutes
        return ["ANOMALOUS_INTERVAL",
          if consecutive then
            if prior.consecutiveAnomalousBuckets = 0 then "STREAK_STARTED" else "STREAK_CONTINUES"
          else "STREAK_RESET_GAP"])
  return base ++ [
    if evidenceInsufficient then "SUSTAINED_UNCERTAIN"
    else if isSustained then "SUSTAINED_THRESHOLD_MET"
    else if streak = 0 then "SUSTAINED_INACTIVE"
    else "SUSTAINED_THRESHOLD_NOT_MET"]

/-- The status of one key in the loop of `compute_sustained_status_by_key`. -/
def sustainedStatusOf (key : SustainedIdentityKey) (priorState : Option SustainedWindowState)
    (isAnomalous evidenceInsufficient : Bool) (requiredBuckets evaluationIntervalMinutes : Int)
    (evaluationTime : Instant) : Except Failure SustainedStreakStatus := do
  let streak ← nextStreakCount priorState isAnomalous evidenceInsufficient evaluationTime
    evaluationIntervalMinutes
  let isSustained := decide (requiredBuckets ≤ streak) && !evidenceInsufficient
  let reasonCodes ← sustainedReasonCodes priorState streak isSustained isAnomalous
    evidenceInsufficient evaluationTime evaluationIntervalMinutes
  return {
    isSustained, requiredBuckets, reasonCodes
    identityKey := key
    consecutiveAnomalousBuckets := streak
    lastEvaluatedAt := evaluationTime }

/-! ## One cycle -/

/-- What one cycle of the peak stage is given of the anomalies. -/
structure SustainedCycle where
  /-- the findings -/
  anomalyFindings : List AnomalyFinding
  /-- the evidence -/
  evidenceStatusMapByScope : Option EvidenceByScope
  /-- when it is evaluated -/
  evaluationTime : Instant

/-- The keys that are anomalous in a cycle. -/
def SustainedCycle.anomalousKeys (cycle : SustainedCycle) : List SustainedIdentityKey :=
  cycle.anomalyFindings.filterMap toSustainedIdentityKey

/-- Whether a key is anomalous in a cycle. -/
def SustainedCycle.isAnomalous (cycle : SustainedCycle) (key : SustainedIdentityKey) : Bool :=
  cycle.anomalousKeys.contains key

/-- Whether the evidence for a key is insufficient in a cycle. -/
def SustainedCycle.insufficient (cycle : SustainedCycle) (key : SustainedIdentityKey) : Bool :=
  hasInsufficientEvidenceForSustainedKey key cycle.evidenceStatusMapByScope

/-- The statuses of a cycle. -/
abbrev SustainedByKey := Dict SustainedIdentityKey SustainedStreakStatus

/-- `build_sustained_window_state_by_key`. -/
def buildSustainedWindowStateByKey (sustainedByKey : SustainedByKey) :
    Dict SustainedIdentityKey SustainedWindowState :=
  .ofPairs ((sortKeys sustainedByKey.keys).filterMap fun key =>
    (sustainedByKey.get? key).map fun status =>
      (key, ⟨status.identityKey, status.consecutiveAnomalousBuckets, status.lastEvaluatedAt⟩))

/-- `compute_sustained_status_by_key`. -/
def computeSustainedStatusByKey (cycle : SustainedCycle)
    (priorWindowStateByKey : Dict SustainedIdentityKey SustainedWindowState)
    (requiredBuckets evaluationIntervalMinutes : Int) : Except Failure SustainedByKey := do
  let keysToEvaluate := sortKeys (uniqueInOrder (priorWindowStateByKey.keys ++ cycle.anomalousKeys))
  let statuses ← keysToEvaluate.mapM fun key => sustainedStatusOf key
    (priorWindowStateByKey.get? key) (cycle.isAnomalous key) (cycle.insufficient key)
    requiredBuckets evaluationIntervalMinutes cycle.evaluationTime
  return .ofPairs (statuses.map fun status => (status.identityKey, status))

/-! ## What a cycle makes of one key -/

theorem mem_sortKeys {key : SustainedIdentityKey} {keys : List SustainedIdentityKey} :
    key ∈ sortKeys keys ↔ key ∈ keys := List.mem_insertionSort _

theorem nodup_sortKeys {keys : List SustainedIdentityKey} (h : keys.Nodup) :
    (sortKeys keys).Nodup := (List.perm_insertionSort _ keys).nodup_iff.mpr h

theorem isAnomalous_iff {cycle : SustainedCycle} {key : SustainedIdentityKey} :
    cycle.isAnomalous key = true ↔ key ∈ cycle.anomalousKeys := List.contains_iff_mem

/-- What the next cycle is given for a key, from its status. -/
def SustainedStreakStatus.windowState (status : SustainedStreakStatus) : SustainedWindowState :=
  ⟨status.identityKey, status.consecutiveAnomalousBuckets, status.lastEvaluatedAt⟩

/-- A key is carried over with its streak and its time. -/
theorem buildSustainedWindowStateByKey_get? (statuses : SustainedByKey)
    (key : SustainedIdentityKey) :
    (buildSustainedWindowStateByKey statuses).get? key =
      (statuses.get? key).map SustainedStreakStatus.windowState := by
  have hpairs : buildSustainedWindowStateByKey statuses =
      .ofPairs ((sortKeys statuses.keys).filterMap fun key =>
        ((statuses.get? key).map SustainedStreakStatus.windowState).map fun state =>
          (key, state)) := by
    simp only [Option.map_map]
    rfl
  have hkeys : statuses.keys.Nodup := statuses.nodup
  rw [hpairs, Dict.get?_ofPairs, Dict.find_filterMap]
  · split
    · rfl
    · next hunknown =>
      rw [mem_sortKeys] at hunknown
      rw [Dict.get?, Dict.find_eq_none.mpr hunknown]
      rfl
  · exact Dict.nodup_filterMap (nodup_sortKeys hkeys)

variable {cycle : SustainedCycle} {prior : Dict SustainedIdentityKey SustainedWindowState}
  {requiredBuckets evaluationIntervalMinutes : Int} {statuses : SustainedByKey}

theorem sustainedStatusOf_identityKey {key : SustainedIdentityKey}
    {priorState : Option SustainedWindowState} {isAnomalous evidenceInsufficient : Bool}
    {t : Instant} {status : SustainedStreakStatus}
    (h : sustainedStatusOf key priorState isAnomalous evidenceInsufficient requiredBuckets
      evaluationIntervalMinutes t = .ok status) : status.identityKey = key := by
  obtain ⟨streak, -, h⟩ := Except.bind_eq_ok.mp h
  obtain ⟨codes, -, h⟩ := Except.bind_eq_ok.mp h
  cases h
  rfl

/-- **One cycle, one key**: a key that was known or is anomalous gets the status that its own
state leads to; another gets none. -/
theorem computeSustainedStatusByKey_get?
    (h : computeSustainedStatusByKey cycle prior requiredBuckets evaluationIntervalMinutes =
      .ok statuses) (key : SustainedIdentityKey) :
    ((prior.get? key).isSome ∨ cycle.isAnomalous key = true →
      ∃ status, sustainedStatusOf key (prior.get? key) (cycle.isAnomalous key)
          (cycle.insufficient key) requiredBuckets evaluationIntervalMinutes
          cycle.evaluationTime = .ok status ∧ statuses.get? key = some status) ∧
      (prior.get? key = none → cycle.isAnomalous key = false → statuses.get? key = none) := by
  obtain ⟨values, hvalues, h⟩ := Except.bind_eq_ok.mp h
  rw [Except.pure_eq_ok] at h
  have hall := Except.mapM_eq_ok.mp hvalues
  have hname : ∀ k v, sustainedStatusOf k (prior.get? k) (cycle.isAnomalous k)
      (cycle.insufficient k) requiredBuckets evaluationIntervalMinutes cycle.evaluationTime =
        .ok v → v.identityKey = k := fun k v => sustainedStatusOf_identityKey
  have hmem : key ∈ sortKeys (uniqueInOrder (prior.keys ++ cycle.anomalousKeys)) ↔
      (prior.get? key).isSome ∨ cycle.isAnomalous key = true := by
    rw [mem_sortKeys, mem_uniqueInOrder, List.mem_append, isAnomalous_iff]
    refine or_congr_left ?_
    rw [← not_iff_not, Option.not_isSome_iff_eq_none]
    exact Dict.find_eq_none.symm
  -- each key is computed once
  have hnodup : ((values.map fun status => (status.identityKey, status)).map Prod.fst).Nodup := by
    rw [Dict.keys_of_forall₂ hall hname]
    exact nodup_sortKeys (nodup_uniqueInOrder _)
  obtain ⟨hfound, hnone⟩ := Dict.find_of_forall₂ hall hname key
  rw [← h, Dict.get?_ofPairs hnodup]
  refine ⟨fun hknown => hfound (hmem.mpr hknown), fun hprior hanomalous => hnone ?_⟩
  rw [hmem, hprior, hanomalous]
  simp

end AiopsTriage
