import AiopsTriage.Health.Alerts
import AiopsTriage.Lib.Ranks
import Mathlib.Algebra.Order.Floor.Ring
import Mathlib.Data.Rat.Floor
import Mathlib.Tactic.Linarith
import Mathlib.Tactic.NormNum

/-!
# Delivery SLO of the outbox

The worker keeps the latencies of its last thousand deliveries and, after each delivery, holds two
nearest-rank percentiles of them against the targets of the policy. Sorting and ranks aside, that
is a count: the 95th percentile is above its target exactly when fewer than 95 of a hundred
deliveries were within it (`lt_nearestRankPercentile`). `delivery_slo_exact` says so of every
delivery of a run.

Latencies are exact, and so is the rank. The product of the code is rounded to a double, which for
a window of this size does not move it across an integer.
-/

namespace AiopsTriage

/-- `_DELIVERY_LATENCY_SAMPLE_WINDOW`. -/
def deliveryLatencySampleWindow : ℕ := 1000

/-- `OutboxDeliverySLOThresholds`, with its validators. -/
structure OutboxDeliverySLOThresholds where
  /-- what 95 of a hundred deliveries should be within -/
  p95TargetSeconds : ℚ
  /-- what 99 of a hundred should be within -/
  p99TargetSeconds : ℚ
  /-- beyond this it is critical -/
  p99CriticalSeconds : ℚ
  /-- `gt=0` -/
  p95_pos : 0 < p95TargetSeconds
  /-- `p95_target_seconds must be <= p99_target_seconds` -/
  p95_le_p99 : p95TargetSeconds ≤ p99TargetSeconds
  /-- `p99_target_seconds must be <= p99_critical_seconds` -/
  p99_le_critical : p99TargetSeconds ≤ p99CriticalSeconds

/-- `outbox_health_threshold_breach` of a quantile. -/
structure SloBreach where
  /-- the quantile -/
  quantile : String
  /-- how bad it is -/
  severity : AlertSeverity
  /-- the percentile -/
  actualValue : ℚ
  /-- the target it is above -/
  thresholdValue : ℚ
  deriving DecidableEq, Repr

/-- `_nearest_rank_percentile`, for a percentile between 0 and 1. -/
def outboxNearestRankPercentile (values : List ℚ) (percentile : ℚ) : ℚ :=
  let ordered := values.insertionSort (· ≤ ·)
  let rank := ⌈percentile * ordered.length⌉
  let index := min (max (rank - 1) 0) ((ordered.length : ℤ) - 1)
  ordered.getD index.toNat 0

/-- `_record_delivery_latency_sample`. -/
def recordDeliveryLatencySample (samples : List ℚ) (seconds : ℚ) : List ℚ :=
  let samples := samples ++ [max seconds 0]
  if deliveryLatencySampleWindow < samples.length then samples.rtake deliveryLatencySampleWindow
  else samples

/-- The breach of the 95th percentile. -/
def p95Breach (slo : OutboxDeliverySLOThresholds) (samples : List ℚ) : Option SloBreach :=
  let p95Seconds := outboxNearestRankPercentile samples (95 / 100)
  if slo.p95TargetSeconds < p95Seconds then
    some ⟨"p95", .warning, p95Seconds, slo.p95TargetSeconds⟩
  else none

/-- The breach of the 99th percentile. -/
def p99Breach (slo : OutboxDeliverySLOThresholds) (samples : List ℚ) : Option SloBreach :=
  let p99Seconds := outboxNearestRankPercentile samples (99 / 100)
  if slo.p99CriticalSeconds < p99Seconds then
    some ⟨"p99", .critical, p99Seconds, slo.p99CriticalSeconds⟩
  else if slo.p99TargetSeconds < p99Seconds then
    some ⟨"p99", .warning, p99Seconds, slo.p99TargetSeconds⟩
  else none

/-- `_evaluate_delivery_slo`. -/
def evaluateDeliverySlo (slo : OutboxDeliverySLOThresholds) (samples : List ℚ) : List SloBreach :=
  if samples = [] then []
  else (p95Breach slo samples).toList ++ (p99Breach slo samples).toList

/-- What the worker does after a delivery: record its latency and evaluate. -/
def afterDelivery (slo : OutboxDeliverySLOThresholds) (samples : List ℚ) (seconds : ℚ) :
    List SloBreach × List ℚ :=
  let samples := recordDeliveryLatencySample samples seconds
  (evaluateDeliverySlo slo samples, samples)

/-! ## Percentiles and counts -/

/-- Fewer values than the rank of a percentile are within a bound. -/
def FewWithin (values : List ℚ) (percentile bound : ℚ) : Prop :=
  (values.countP fun v => decide (v ≤ bound) : ℤ) < ⌈percentile * values.length⌉

instance (values : List ℚ) (percentile bound : ℚ) : Decidable (FewWithin values percentile bound) :=
  inferInstanceAs (Decidable (_ < _))

/-- **Percentiles** are above a bound exactly when few values are within it. -/
theorem lt_outboxNearestRankPercentile {values : List ℚ} (hvalues : values ≠ []) {percentile bound : ℚ}
    (hpos : 0 < percentile) (hle : percentile ≤ 1) :
    bound < outboxNearestRankPercentile values percentile ↔ FewWithin values percentile bound := by
  have hlength : (values.insertionSort (· ≤ ·)).length = values.length := List.length_insertionSort _ _
  have hn : 0 < values.length := List.length_pos_of_ne_nil hvalues
  have hnq : (0 : ℚ) < values.length := Nat.cast_pos.mpr hn
  -- the rank is between one and the number of values
  have hrank : 1 ≤ ⌈percentile * values.length⌉ ∧ ⌈percentile * values.length⌉ ≤ values.length := by
    constructor
    · exact Int.one_le_ceil_iff.mpr (mul_pos hpos hnq)
    · refine Int.ceil_le.mpr ?_
      rw [Int.cast_natCast]
      exact mul_le_of_le_one_left hnq.le hle
  simp only [outboxNearestRankPercentile, FewWithin, hlength]
  generalize ⌈percentile * values.length⌉ = rank at hrank ⊢
  have hindex : min (max (rank - 1) 0) ((values.length : ℤ) - 1) = rank - 1 := by omega
  have hlt : (rank - 1).toNat < (values.insertionSort (· ≤ ·)).length := by omega
  rw [hindex, List.getD_eq_getElem?_getD, List.getElem?_eq_getElem hlt, Option.getD_some,
    List.lt_getElem_sort hlt]
  omega

/-! ## Runs -/

/-- The latencies that count after some deliveries. -/
def recentLatencies (latencies : List ℚ) : List ℚ :=
  (latencies.map fun seconds => max seconds 0).rtake deliveryLatencySampleWindow

theorem recentLatencies_nil : recentLatencies [] = [] := by
  rw [recentLatencies, List.map_nil, List.rtake_nil]

/-- **Step lemma**: the samples are the latencies that count. -/
theorem recordDeliveryLatencySample_eq (past : List ℚ) (seconds : ℚ) :
    recordDeliveryLatencySample (recentLatencies past) seconds =
      recentLatencies (past ++ [seconds]) := by
  have hall : (recentLatencies past ++ [max seconds 0]).rtake deliveryLatencySampleWindow =
      recentLatencies (past ++ [seconds]) := by
    rw [recentLatencies, OperationalAlertEvaluator.rtake_rtake_concat (by decide), recentLatencies,
      List.map_append]
    rfl
  simp only [recordDeliveryLatencySample]
  split
  · exact hall
  · next hshort =>
    have hzero : (recentLatencies past ++ [max seconds 0]).length - deliveryLatencySampleWindow = 0 := by
      omega
    rw [← hall, List.rtake, hzero, List.drop_zero]

/-- What the breaches after a delivery say of the latencies that count. -/
structure SloExact (slo : OutboxDeliverySLOThresholds) (latencies : List ℚ)
    (breaches : List SloBreach) : Prop where
  /-- the 95th percentile -/
  p95 : (∃ b ∈ breaches, b.quantile = "p95") ↔ FewWithin latencies (95 / 100) slo.p95TargetSeconds
  /-- the 99th percentile -/
  p99 : (∃ b ∈ breaches, b.quantile = "p99") ↔ FewWithin latencies (99 / 100) slo.p99TargetSeconds
  /-- it is critical -/
  critical : (∃ b ∈ breaches, b.severity = .critical) ↔
    FewWithin latencies (99 / 100) slo.p99CriticalSeconds
  /-- a breach shows a value above its target -/
  above : ∀ b ∈ breaches, b.thresholdValue < b.actualValue

/-- Few values within a bound are few within a lower one. -/
theorem FewWithin.mono {values : List ℚ} {percentile bound bound' : ℚ}
    (h : FewWithin values percentile bound) (hle : bound' ≤ bound) :
    FewWithin values percentile bound' := by
  refine lt_of_le_of_lt (Nat.cast_le.mpr (List.countP_mono_left fun v _ hv => ?_)) h
  exact decide_eq_true ((of_decide_eq_true hv).trans hle)

/-- One evaluation. -/
theorem evaluateDeliverySlo_exact (slo : OutboxDeliverySLOThresholds) {samples : List ℚ}
    (hsamples : samples ≠ []) : SloExact slo samples (evaluateDeliverySlo slo samples) := by
  have h95 : ∀ {bound}, bound < outboxNearestRankPercentile samples (95 / 100) ↔
      FewWithin samples (95 / 100) bound :=
    lt_outboxNearestRankPercentile hsamples (by norm_num) (by norm_num)
  have h99 : ∀ {bound}, bound < outboxNearestRankPercentile samples (99 / 100) ↔
      FewWithin samples (99 / 100) bound :=
    lt_outboxNearestRankPercentile hsamples (by norm_num) (by norm_num)
  have hcritical : FewWithin samples (99 / 100) slo.p99CriticalSeconds →
      FewWithin samples (99 / 100) slo.p99TargetSeconds := fun h => h.mono slo.p99_le_critical
  have hp95 : p95Breach slo samples = if FewWithin samples (95 / 100) slo.p95TargetSeconds then
      some ⟨"p95", .warning, outboxNearestRankPercentile samples (95 / 100), slo.p95TargetSeconds⟩
      else none := by
    simp only [p95Breach, h95]
  have hp99 : p99Breach slo samples = if FewWithin samples (99 / 100) slo.p99CriticalSeconds then
      some ⟨"p99", .critical, outboxNearestRankPercentile samples (99 / 100), slo.p99CriticalSeconds⟩
      else if FewWithin samples (99 / 100) slo.p99TargetSeconds then
      some ⟨"p99", .warning, outboxNearestRankPercentile samples (99 / 100), slo.p99TargetSeconds⟩
      else none := by
    simp only [p99Breach, h99]
  rw [evaluateDeliverySlo, if_neg hsamples, hp95, hp99]
  by_cases hw : FewWithin samples (95 / 100) slo.p95TargetSeconds
  · have hlt95 := h95.mpr hw
    by_cases hc : FewWithin samples (99 / 100) slo.p99CriticalSeconds
    · have hlt := h99.mpr hc
      constructor <;> simp [hw, hc, hlt95, hlt, hcritical hc]
    · by_cases ht : FewWithin samples (99 / 100) slo.p99TargetSeconds
      · have hlt := h99.mpr ht
        constructor <;> simp [hw, hc, ht, hlt95, hlt]
      · constructor <;> simp [hw, hc, ht, hlt95]
  · by_cases hc : FewWithin samples (99 / 100) slo.p99CriticalSeconds
    · have hlt := h99.mpr hc
      constructor <;> simp [hw, hc, hlt, hcritical hc]
    · by_cases ht : FewWithin samples (99 / 100) slo.p99TargetSeconds
      · have hlt := h99.mpr ht
        constructor <;> simp [hw, hc, ht, hlt]
      · constructor <;> simp [hw, hc, ht]

/-- The breaches after each of some deliveries, the first by a new worker. -/
def deliveryBreaches (slo : OutboxDeliverySLOThresholds) (latencies : List ℚ) :
    List (List SloBreach) :=
  (Runs.trace (afterDelivery slo) [] latencies).1

/-- **Delivery SLO**: after each delivery of any run, a breach of a quantile is reported exactly when
too few of the last thousand deliveries were within its target, and it is critical exactly when too
few were within the critical bound. -/
theorem delivery_slo_exact (slo : OutboxDeliverySLOThresholds) (latencies : List ℚ) :
    List.Forall₂ (fun i breaches => SloExact slo (recentLatencies (latencies.take (i + 1))) breaches)
      (List.range latencies.length) (deliveryBreaches slo latencies) := by
  have hbreaches : deliveryBreaches slo latencies = (List.range latencies.length).map fun i =>
      evaluateDeliverySlo slo (recentLatencies (latencies.take (i + 1))) :=
    Runs.trace_eq_map (afterDelivery slo) (I := fun past samples => samples = recentLatencies past)
      (fun _ now => evaluateDeliverySlo slo (recentLatencies now)) recentLatencies_nil.symm
      (fun past samples l h => by rw [h, afterDelivery, recordDeliveryLatencySample_eq])
      (fun past samples l h => by
        rw [h, afterDelivery, recordDeliveryLatencySample_eq]) latencies
  rw [hbreaches, List.forall₂_map_right_iff, List.forall₂_same]
  intro i hi
  refine evaluateDeliverySlo_exact slo fun hnil => ?_
  have hlength := congrArg List.length hnil
  rw [recentLatencies, RollingWindow.length_rtake, List.length_map, List.length_take,
    List.length_nil, deliveryLatencySampleWindow] at hlength
  have := List.mem_range.mp hi
  omega

end AiopsTriage
