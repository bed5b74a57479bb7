import AiopsTriage.Health.Alerts
import AiopsTriage.Health.Metrics
import AiopsTriage.Integrations.Correlation

/-!
# Alerts about fallbacks

Every correlation ends in the metrics, whatever its mode and its result: the tier it matched in is
counted, and the evaluator compares the share of the last correlations that fell back to the
second or third tier with the thresholds of its environment. The linkages of the same process are
counted in between and leave that share alone.

So after any steps of a process a correlation is answered with its result, and with the alert of the
exact share, if there is one (`fallback_alerts_exact`). In particular a tier is never refused by the
metrics, and the evaluator never raises.
-/

namespace AiopsTriage

/-- The tier that is reported. -/
def matchedTierText (matchedTier : Option CorrelationTier) : String :=
  matchedTier.elim "none" CorrelationTier.value

/-- A step of a process that uses ServiceNow. -/
inductive ServiceNowStep where
  /-- `correlate_incident` -/
  | correlate (call : CorrelationCall)
  /-- a linkage is reported -/
  | pageLinkageSlo (linkageState : String) (withinRetryWindow : Bool)

/-- A correlation and the alert it gave. -/
abbrev CorrelationReport := ServiceNowCorrelationResult × Option OperationalAlertEvaluation

/-- `_finalize_correlation_result`; the alert is logged. -/
def finalizeCorrelationResult (evaluator : Option (OperationalAlertPolicyV1 × AlertEnv))
    (result : ServiceNowCorrelationResult) (m : ServiceNowMetrics) :
    Except Failure CorrelationReport × ServiceNowMetrics :=
  match recordSnCorrelationTier (matchedTierText result.matchedTier) m with
  | (.error e, m) => (.error e, m)
  | (.ok snapshot, m) =>
    match evaluator with
    | none => (.ok (result, none), m)
    | some (policy, appEnv) =>
      (do
        let alert ← OperationalAlertEvaluator.evaluateSnCorrelationFallbackRate policy appEnv
          snapshot.fallbackRate snapshot.fallbackTiers (some snapshot.sampleSize)
        return (result, alert), m)

section Steps

variable [Platform] (reader : DatetimeReader) (client : CorrelationClient)
  (evaluator : Option (OperationalAlertPolicyV1 × AlertEnv))

/-- One step: what it returns, and the metrics after it. -/
def serviceNowStep (m : ServiceNowMetrics) :
    ServiceNowStep → Except Failure (Option CorrelationReport) × ServiceNowMetrics
  | .correlate call =>
    match (client.correlateIncident reader call).2 with
    | .error e => (.error e, m)
    | .ok result =>
      let (report, m) := finalizeCorrelationResult evaluator result m
      (some <$> report, m)
  | .pageLinkageSlo linkageState withinRetryWindow =>
    let (answer, m) := recordSnPageLinkageSlo linkageState withinRetryWindow m
    ((fun _ => none) <$> answer, m)

/-- What the steps of a new process return. -/
def serviceNowAnswers (steps : List ServiceNowStep) :
    List (Except Failure (Option CorrelationReport)) :=
  (Runs.trace (serviceNowStep reader client evaluator) .start steps).1

/-! ## The share of fallbacks -/

/-- The tier of a correlation that returned. -/
def ServiceNowStep.tier? : ServiceNowStep → Option (Option CorrelationTier)
  | .correlate call =>
    (client.correlateIncident reader call).2.toOption.map (·.matchedTier)
  | .pageLinkageSlo _ _ => none

/-- Whether a tier is a fallback. -/
def isFallback (matchedTier : Option CorrelationTier) : Bool :=
  matchedTier == some .tier2 || matchedTier == some .tier3

/-- The tiers of the last correlations. -/
def recentTiers (steps : List ServiceNowStep) : List (Option CorrelationTier) :=
  (steps.filterMap (ServiceNowStep.tier? reader client)).rtake snCorrelationRateWindowSize

/-- The share of fallbacks among them. -/
def fallbackShare (steps : List ServiceNowStep) : ℚ :=
  (recentTiers reader client steps).countP isFallback / (recentTiers reader client steps).length

/-- The alert of that share. -/
def fallbackAlert (steps : List ServiceNowStep) : Option OperationalAlertEvaluation := do
  let (policy, appEnv) ← evaluator
  let thresholds := policy.snCorrelationFallbackRate.thresholdsByEnv.get appEnv
  let severity ← thresholds.resolveSeverity (fallbackShare reader client steps)
  let rule ← policy.snCorrelationFallbackRate.rules.ruleForSeverity severity
  some (rule.evaluation (fallbackShare reader client steps) (thresholds.forSeverity severity)
    [("fallback_tiers", .texts ["tier2", "tier3"]),
      ("sample_size", .number (some (recentTiers reader client steps).length))])

/-! ## Metrics of a process -/

/-- What a step tells the metrics. -/
def ServiceNowStep.call? : ServiceNowStep → Option MetricsCall
  | .correlate call =>
    (client.correlateIncident reader call).2.toOption.map fun result =>
      .correlationTier (matchedTierText result.matchedTier)
  | .pageLinkageSlo linkageState withinRetryWindow =>
    some (.pageLinkageSlo linkageState withinRetryWindow)

omit [Platform] in
/-- The flag that the metrics make of a tier. -/
theorem fallbackFlag_matchedTierText (matchedTier : Option CorrelationTier) :
    MetricsCall.fallbackFlag (.correlationTier (matchedTierText matchedTier)) =
      some (if isFallback matchedTier then 1 else 0) := by
  rcases matchedTier with _ | tier
  · rfl
  · cases tier <;> rfl

/-- The flags of the metrics are those of the tiers. -/
theorem filterMap_fallbackFlag (steps : List ServiceNowStep) :
    (steps.filterMap (ServiceNowStep.call? reader client)).filterMap MetricsCall.fallbackFlag =
      (steps.filterMap (ServiceNowStep.tier? reader client)).map fun tier =>
        if isFallback tier then 1 else 0 := by
  rw [List.filterMap_filterMap, List.map_filterMap]
  refine List.filterMap_congr fun step _ => ?_
  cases step with
  | pageLinkageSlo linkageState withinRetryWindow => rfl
  | correlate call =>
    cases h : (client.correlateIncident reader call).2 with
    | error e => simp [ServiceNowStep.call?, ServiceNowStep.tier?, h, Except.toOption]
    | ok result =>
      simp [ServiceNowStep.call?, ServiceNowStep.tier?, h, Except.toOption,
        fallbackFlag_matchedTierText]

omit [Platform] in
theorem sum_flags (tiers : List (Option CorrelationTier)) :
    (tiers.map fun tier => if isFallback tier then (1 : ℤ) else 0).sum = tiers.countP isFallback := by
  induction tiers with
  | nil => rfl
  | cons tier tiers ih =>
    rw [List.map_cons, List.sum_cons, ih, List.countP_cons]
    split <;> push_cast <;> ring

variable {reader client evaluator}

/-- The rate of the metrics is the share. -/
theorem rateValue_eq {steps : List ServiceNowStep} {m : ServiceNowMetrics}
    (h : ServiceNowMetrics.Exact (steps.filterMap (ServiceNowStep.call? reader client)) m) :
    m.correlation.rateValue = fallbackShare reader client steps ∧
      m.correlation.items.length = (recentTiers reader client steps).length := by
  have hwindow := h.correlation.window
  have hsum := h.correlation.sum
  rw [filterMap_fallbackFlag, List.rtake, List.length_map, ← List.map_drop] at hwindow hsum
  have hlength : m.correlation.items.length = (recentTiers reader client steps).length := by
    rw [hwindow, List.length_map]
    rfl
  refine ⟨?_, hlength⟩
  rw [h.correlation.rate, hlength, hsum, sum_flags, fallbackShare]
  rfl

/-- A tier that a correlation reports is counted. -/
theorem recordSnCorrelationTier_returns {steps : List ServiceNowStep} {m : ServiceNowMetrics}
    (h : ServiceNowMetrics.Exact (steps.filterMap (ServiceNowStep.call? reader client)) m)
    (matchedTier : Option CorrelationTier) :
    (recordSnCorrelationTier (matchedTierText matchedTier) m).1 =
      .ok ⟨(recordSnCorrelationTier (matchedTierText matchedTier) m).2.correlation.rateValue,
        (recordSnCorrelationTier (matchedTierText matchedTier) m).2.correlation.items.length,
        ["tier2", "tier3"]⟩ := by
  have hmem : matchedTierText matchedTier ∈ m.correlationTierCounts.keys := by
    rw [h.tiers]
    rcases matchedTier with _ | tier
    · decide
    · cases tier <;> decide
  have hcount : m.correlationTierCounts.get? (matchedTierText matchedTier) ≠ none :=
    fun hnone => Dict.find_eq_none.mp hnone hmem
  obtain ⟨count, hcount⟩ := Option.ne_none_iff_exists'.mp hcount
  simp only [recordSnCorrelationTier, hcount]
  rfl

/-- **Step lemma**: the metrics follow the steps. -/
theorem exact_serviceNowStep {past : List ServiceNowStep} {m : ServiceNowMetrics}
    (h : ServiceNowMetrics.Exact (past.filterMap (ServiceNowStep.call? reader client)) m)
    (step : ServiceNowStep) :
    ServiceNowMetrics.Exact ((past ++ [step]).filterMap (ServiceNowStep.call? reader client))
      (serviceNowStep reader client evaluator m step).2 := by
  rw [List.filterMap_append]
  cases step with
  | pageLinkageSlo linkageState withinRetryWindow => exact h.pageLinkageSlo _ _
  | correlate call =>
    cases hresult : (client.correlateIncident reader call).2 with
    | error e =>
      simpa [serviceNowStep, ServiceNowStep.call?, hresult, Except.toOption] using h
    | ok result =>
      have hnext := h.correlationTier (matchedTierText result.matchedTier)
      have hstate : (serviceNowStep reader client evaluator m (.correlate call)).2 =
          (recordSnCorrelationTier (matchedTierText result.matchedTier) m).2 := by
        simp only [serviceNowStep, hresult, finalizeCorrelationResult]
        rcases hrecord : recordSnCorrelationTier (matchedTierText result.matchedTier) m with
          ⟨_ | snapshot, m'⟩
        · rfl
        · rcases evaluator with _ | ⟨policy, appEnv⟩
          · rfl
          · rfl
      rw [hstate]
      simpa [ServiceNowStep.call?, hresult, Except.toOption] using hnext

/-- **Fallback alerts**: after any steps of a process, a correlation that returns is answered with
its result and the alert of the share of fallbacks among the last correlations, this one included.
A correlation fails only where the search itself does. -/
theorem fallback_alerts_exact (steps : List ServiceNowStep) {i : ℕ} {call : CorrelationCall}
    (hcall : steps[i]? = some (.correlate call)) :
    (serviceNowAnswers reader client evaluator steps)[i]? =
      some ((client.correlateIncident reader call).2.map fun result =>
        some (result, fallbackAlert reader client evaluator (steps.take (i + 1)))) := by
  obtain ⟨m, hm, hanswer⟩ := Runs.trace_history (serviceNowStep reader client evaluator)
    (I := fun past m =>
      ServiceNowMetrics.Exact (past.filterMap (ServiceNowStep.call? reader client)) m)
    ServiceNowMetrics.exact_start (fun _ _ step h => exact_serviceNowStep h step) hcall
  rw [serviceNowAnswers, hanswer]
  have htake : steps.take (i + 1) = steps.take i ++ [.correlate call] := by
    rw [List.take_add_one, hcall]
    rfl
  cases hresult : (client.correlateIncident reader call).2 with
  | error e => simp [serviceNowStep, hresult, Except.map]
  | ok result =>
    have hnext : ServiceNowMetrics.Exact ((steps.take (i + 1)).filterMap
        (ServiceNowStep.call? reader client))
        (recordSnCorrelationTier (matchedTierText result.matchedTier) m).2 := by
      rw [htake, List.filterMap_append]
      simpa [ServiceNowStep.call?, hresult, Except.toOption] using
        hm.correlationTier (matchedTierText result.matchedTier)
    obtain ⟨hrate, hlength⟩ := rateValue_eq hnext
    have hbounds := hnext.correlation.bounds
    have hrecord := recordSnCorrelationTier_returns hm result.matchedTier
    rw [hrate, hlength] at hrecord
    rw [hrate] at hbounds
    generalize hpair : recordSnCorrelationTier (matchedTierText result.matchedTier) m = pair
      at hrecord
    obtain ⟨answer, m'⟩ := pair
    obtain rfl : answer = _ := hrecord
    simp only [serviceNowStep, hresult, finalizeCorrelationResult, hpair, fallbackAlert]
    rcases evaluator with _ | ⟨policy, appEnv⟩
    · rfl
    · -- the rate is a rate, so bounding it changes nothing
      have hsame : min (max (fallbackShare reader client (steps.take (i + 1))) 0) 1 =
          fallbackShare reader client (steps.take (i + 1)) := by
        rw [max_eq_left hbounds.1, min_eq_left hbounds.2]
      simp only [OperationalAlertEvaluator.evaluateSnCorrelationFallbackRate, hsame,
        RuleBySeverity.evaluate_eq]
      rfl

end Steps

/-! ## A correlation that falls back -/

/-- A call that finds its incidents in a tier, and nothing in the others. -/
def foundIn (matchedTier : CorrelationTier) : CorrelationCall where
  requestId := "req-1"
  caseId := "case-1"
  pdIncidentId := "pd-1"
  routingKey := "routing-1"
  keywords := []
  caseTimestamp := some newYear2026
  now := newYear2026
  ask tier _ := .ok (if tier = matchedTier then CorrelationClient.twoIncidents else [])

/-- Two correlations find their incidents in the first tier, and the two after a linkage only in the
second. -/
def fallingBack : List ServiceNowStep :=
  [.correlate (foundIn .tier1), .correlate (foundIn .tier1), .pageLinkageSlo "LINKED" true,
    .correlate (foundIn .tier2), .correlate (foundIn .tier2)]

open CorrelationClient in
/-- Under the shipped policy, in development, the first fallback is a warning, one of three, and the
second one is critical, one of two. -/
theorem fallback_alerts_exact_case1 :
    let := asciiPlatform []
    ∃ first second warning critical,
      (serviceNowAnswers minuteReader liveClient (some (operationalAlertPolicyV1, .dev))
        fallingBack)[3]? = some (.ok (some (first, some warning))) ∧
      (serviceNowAnswers minuteReader liveClient (some (operationalAlertPolicyV1, .dev))
        fallingBack)[4]? = some (.ok (some (second, some critical))) ∧
      (warning.ruleId, warning.observedValue) =
        ("ALERT_SN_CORRELATION_FALLBACK_RATE_WARNING", 1 / 3) ∧
      (critical.ruleId, critical.observedValue) =
        ("ALERT_SN_CORRELATION_FALLBACK_RATE_CRITICAL", 1 / 2) := by
  let := asciiPlatform []
  have hresult : (liveClient.correlateIncident minuteReader (foundIn .tier2)).2.toOption.isSome := by
    decide +kernel
  have hwarning : (fallbackAlert minuteReader liveClient (some (operationalAlertPolicyV1, .dev))
      (fallingBack.take 4)).map (fun alert => (alert.ruleId, alert.observedValue)) =
        some ("ALERT_SN_CORRELATION_FALLBACK_RATE_WARNING", 1 / 3) := by
    decide +kernel
  have hcritical : (fallbackAlert minuteReader liveClient (some (operationalAlertPolicyV1, .dev))
      (fallingBack.take 5)).map (fun alert => (alert.ruleId, alert.observedValue)) =
        some ("ALERT_SN_CORRELATION_FALLBACK_RATE_CRITICAL", 1 / 2) := by
    decide +kernel
  obtain ⟨result, hresult⟩ := Option.isSome_iff_exists.mp hresult
  obtain ⟨warning, halert, hwarning⟩ := Option.map_eq_some_iff.mp hwarning
  obtain ⟨critical, halert', hcritical⟩ := Option.map_eq_some_iff.mp hcritical
  refine ⟨result, result, warning, critical, ?_, ?_, hwarning, hcritical⟩
  · rw [@fallback_alerts_exact _ minuteReader liveClient (some (operationalAlertPolicyV1, .dev))
      fallingBack 3 (foundIn .tier2) rfl, Except.toOption_eq_some.mp hresult, ← halert]
    rfl
  · rw [@fallback_alerts_exact _ minuteReader liveClient (some (operationalAlertPolicyV1, .dev))
      fallingBack 4 (foundIn .tier2) rfl, Except.toOption_eq_some.mp hresult, ← halert']
    rfl

end AiopsTriage
