import AiopsTriage.Diagnosis.Outcome
import AiopsTriage.Lib.Activation
import AiopsTriage.Lib.RollingWindow
import Mathlib.Algebra.Order.Field.Basic

/-!
# Operational alerts

The evaluator compares what it is told with the thresholds of its environment and answers with an
alert, built from the rule of the severity that is reached. Most evaluations look at one value.
Two keep state: the cycles in a row without Prometheus, and the last results of the model with
the severity that was last alerted.

* `prometheus_outage_alerts` — the outage alert is given once for each maximal run of outage cycles
  that reaches the activation count, at the cycle that reaches it, and never otherwise.
* `llm_error_rate_alerts` — the error-rate alert is given exactly when the severity of the last
  `window_size` results differs from that of the results before, and is the severity of the exact
  error rate.

The policy contract checks the severities of the rules that come in pairs. The outage rule and the
Redis rule stand alone and are not checked, so `buildEvaluation` may refuse them.
-/

namespace AiopsTriage

/-! ## The policy -/

/-- The severities of an alert. -/
inductive AlertSeverity where
  /-- `warning` -/
  | warning
  /-- `critical` -/
  | critical
  deriving DecidableEq, Repr

/-- The text of a severity. -/
def AlertSeverity.value : AlertSeverity → String
  | warning => "warning"
  | critical => "critical"

/-- `AlertRuleDescriptor`. -/
structure AlertRuleDescriptor where
  /-- the rule -/
  ruleId : String
  /-- what it is about -/
  component : String
  /-- its severity -/
  severity : AlertSeverity
  /-- when it applies -/
  condition : String
  /-- what to do then -/
  recommendedAction : String
  deriving DecidableEq, Repr

/-- `RuleBySeverity`, with its validator. -/
structure RuleBySeverity where
  /-- the rule of a warning, if there is one -/
  warning : Option AlertRuleDescriptor
  /-- the rule of a critical alert -/
  critical : AlertRuleDescriptor
  /-- `warning rule severity must be 'warning'` -/
  warning_severity : ∀ rule ∈ warning, rule.severity = .warning
  /-- `critical rule severity must be 'critical'` -/
  critical_severity : critical.severity = .critical

/-- `ThresholdBySeverity`, with its validator. -/
structure ThresholdBySeverity where
  /-- above it is a warning -/
  warning : Option ℚ
  /-- above it is critical -/
  critical : ℚ
  /-- `ge=0` -/
  warning_nonneg : ∀ w ∈ warning, 0 ≤ w
  /-- `ge=0` -/
  critical_nonneg : 0 ≤ critical
  /-- `warning must be less than critical` -/
  order : ∀ w ∈ warning, w < critical

/-- Two thresholds in order. -/
def ThresholdBySeverity.pair (warning critical : ℚ) (h : 0 ≤ warning ∧ warning < critical) :
    ThresholdBySeverity where
  warning := some warning
  critical := critical
  warning_nonneg _ hw := Option.some.inj hw ▸ h.1
  critical_nonneg := h.1.trans h.2.le
  order _ hw := Option.some.inj hw ▸ h.2

/-- A critical threshold alone. -/
def ThresholdBySeverity.criticalOnly (critical : ℚ) (h : 0 ≤ critical) : ThresholdBySeverity where
  warning := none
  critical := critical
  warning_nonneg w hw := by cases hw
  critical_nonneg := h
  order w hw := by cases hw

/-- The environments an evaluator may run in. -/
inductive AlertEnv where
  /-- a developer's machine -/
  | localEnv
  /-- development -/
  | dev
  /-- acceptance -/
  | uat
  /-- production -/
  | prod
  deriving DecidableEq, Repr

/-- `app_env not in _SUPPORTED_ENVS`. -/
def AlertEnv.ofText : String → Except Failure AlertEnv
  | "local" => .ok .localEnv
  | "dev" => .ok .dev
  | "uat" => .ok .uat
  | "prod" => .ok .prod
  | appEnv => .error (.valueError s!"Unsupported app_env for operational alerts: {reprText appEnv}")

/-- A value for each environment: `ThresholdsByEnv` and `ActivationCyclesByEnv`. -/
structure ByEnv (α : Type) where
  /-- on a developer's machine -/
  localEnv : α
  /-- in development -/
  dev : α
  /-- in acceptance -/
  uat : α
  /-- in production -/
  prod : α

/-- `getattr(values, app_env)`. -/
def ByEnv.get {α : Type} (values : ByEnv α) : AlertEnv → α
  | .localEnv => values.localEnv
  | .dev => values.dev
  | .uat => values.uat
  | .prod => values.prod

/-- `OutboxAlertRules`. -/
structure OutboxAlertRules where
  /-- the age of pending rows -/
  pendingObjectAge : RuleBySeverity
  /-- the age of ready rows -/
  readyAge : RuleBySeverity
  /-- the age of rows that are retried -/
  retryAge : RuleBySeverity
  /-- how many rows are dead -/
  deadCount : RuleBySeverity

/-- `PrometheusUnavailabilityAlertRule`. -/
structure PrometheusUnavailabilityAlertRule where
  /-- the rule -/
  rule : AlertRuleDescriptor
  /-- how many cycles in a row, at least one -/
  activationCyclesByEnv : ByEnv { n : ℕ // 1 ≤ n }

/-- `ThresholdedAlertRule`. -/
structure ThresholdedAlertRule where
  /-- the thresholds -/
  thresholdsByEnv : ByEnv ThresholdBySeverity
  /-- the rules -/
  rules : RuleBySeverity

/-- `LlmErrorRateAlertRule`. -/
structure LlmErrorRateAlertRule extends ThresholdedAlertRule where
  /-- how many results the rate is of -/
  windowSize : ℕ
  /-- `ge=1` -/
  windowSize_pos : 1 ≤ windowSize

/-- `OperationalAlertPolicyV1`. -/
structure OperationalAlertPolicyV1 where
  /-- the outbox -/
  outbox : OutboxAlertRules
  /-- the dedupe store -/
  redisConnectionLoss : AlertRuleDescriptor
  /-- the telemetry -/
  prometheusUnavailability : PrometheusUnavailabilityAlertRule
  /-- the model -/
  llmErrorRate : LlmErrorRateAlertRule
  /-- correlations that fall back -/
  snCorrelationFallbackRate : ThresholdedAlertRule
  /-- the drift of the scheduler -/
  schedulerIntervalDriftSeconds : ThresholdedAlertRule
  /-- the time of a stage -/
  pipelineStageLatencySeconds : ThresholdedAlertRule

/-! ## Evaluations -/

/-- What an alert may say besides. -/
inductive AlertDetail where
  /-- a text -/
  | text (s : String)
  /-- some texts -/
  | texts (ss : List String)
  /-- a number, if there is one -/
  | number (n : Option ℕ)
  deriving DecidableEq, Repr

/-- `OperationalAlertEvaluation`. -/
structure OperationalAlertEvaluation where
  /-- the rule -/
  ruleId : String
  /-- what it is about -/
  component : String
  /-- the severity -/
  severity : AlertSeverity
  /-- when the rule applies -/
  condition : String
  /-- what to do then -/
  recommendedAction : String
  /-- the value that was seen -/
  observedValue : ℚ
  /-- the threshold it is above; a warning has one whenever it is given -/
  thresholdValue : Option ℚ
  /-- what else is said -/
  metadata : List (String × AlertDetail)
  deriving DecidableEq, Repr

/-- `_rule_for_severity`. -/
def RuleBySeverity.ruleForSeverity (rules : RuleBySeverity) :
    AlertSeverity → Option AlertRuleDescriptor
  | .warning => rules.warning
  | .critical => some rules.critical

/-- `_resolve_severity`. -/
def ThresholdBySeverity.resolveSeverity (thresholds : ThresholdBySeverity) (observedValue : ℚ) :
    Option AlertSeverity :=
  if thresholds.critical < observedValue then some .critical
  else if thresholds.warning.any (· < observedValue) then some .warning
  else none

/-- The threshold of a severity. -/
def ThresholdBySeverity.forSeverity (thresholds : ThresholdBySeverity) : AlertSeverity → Option ℚ
  | .critical => some thresholds.critical
  | .warning => thresholds.warning

/-- `_build_evaluation`. -/
def buildEvaluation (rule : AlertRuleDescriptor) (severity : AlertSeverity) (observedValue : ℚ)
    (thresholdValue : Option ℚ) (metadata : List (String × AlertDetail)) :
    Except Failure OperationalAlertEvaluation :=
  if rule.severity ≠ severity then
    .error (.valueError
      s!"Alert rule severity mismatch for {rule.ruleId}: policy='{rule.severity.value}', evaluation='{severity.value}'")
  else
    .ok {
      ruleId := rule.ruleId
      component := rule.component
      severity := rule.severity
      condition := rule.condition
      recommendedAction := rule.recommendedAction
      observedValue
      thresholdValue
      metadata }

/-- What the evaluations by thresholds have in common: the severity, its rule if there is one, and
the alert. -/
def RuleBySeverity.evaluate (rules : RuleBySeverity) (thresholds : ThresholdBySeverity)
    (observedValue : ℚ) (metadata : List (String × AlertDetail)) :
    Except Failure (Option OperationalAlertEvaluation) :=
  match thresholds.resolveSeverity observedValue with
  | none => .ok none
  | some severity =>
    match rules.ruleForSeverity severity with
    | none => .ok none
    | some rule =>
      some <$> buildEvaluation rule severity observedValue (thresholds.forSeverity severity) metadata

/-- `OperationalAlertEvaluator`: its state, for a policy and an environment. -/
structure OperationalAlertEvaluator where
  /-- `_prometheus_outage_streak` -/
  prometheusOutageStreak : ℕ
  /-- `_llm_recent_failures`, oldest first -/
  llmRecentFailures : List Bool
  /-- `_llm_last_alert_severity` -/
  llmLastAlertSeverity : Option AlertSeverity
  deriving DecidableEq, Repr

namespace OperationalAlertEvaluator

/-- A new evaluator. -/
def start : OperationalAlertEvaluator := ⟨0, [], none⟩

variable (policy : OperationalAlertPolicyV1) (appEnv : AlertEnv)

/-- `evaluate_redis_connection`. -/
def evaluateRedisConnection (healthy : Bool) : Except Failure (Option OperationalAlertEvaluation) :=
  if healthy then .ok none
  else some <$> buildEvaluation policy.redisConnectionLoss .critical 0 (some 1) []

/-- `evaluate_scheduler_drift`. -/
def evaluateSchedulerDrift (driftSeconds : ℤ) :
    Except Failure (Option OperationalAlertEvaluation) :=
  let rule := policy.schedulerIntervalDriftSeconds
  rule.rules.evaluate (rule.thresholdsByEnv.get appEnv) driftSeconds []

/-- `evaluate_pipeline_stage_latency`. -/
def evaluatePipelineStageLatency (seconds : ℚ) (stage : String) :
    Except Failure (Option OperationalAlertEvaluation) :=
  let rule := policy.pipelineStageLatencySeconds
  rule.rules.evaluate (rule.thresholdsByEnv.get appEnv) seconds [("stage", .text stage)]

/-- `evaluate_sn_correlation_fallback_rate`. -/
def evaluateSnCorrelationFallbackRate (fallbackRate : ℚ) (fallbackTiers : List String)
    (sampleSize : Option ℕ) : Except Failure (Option OperationalAlertEvaluation) :=
  let rule := policy.snCorrelationFallbackRate
  let boundedRate := min (max fallbackRate 0) 1
  rule.rules.evaluate (rule.thresholdsByEnv.get appEnv) boundedRate
    [("fallback_tiers", .texts fallbackTiers), ("sample_size", .number sampleSize)]

/-- `record_prometheus_unavailability`. -/
def recordPrometheusUnavailability (evaluator : OperationalAlertEvaluator)
    (isTotalOutage : Bool) :
    Except Failure (Option OperationalAlertEvaluation) × OperationalAlertEvaluator :=
  if isTotalOutage then
    let evaluator :=
      { evaluator with prometheusOutageStreak := evaluator.prometheusOutageStreak + 1 }
    let activationCycles := (policy.prometheusUnavailability.activationCyclesByEnv.get appEnv).val
    if evaluator.prometheusOutageStreak ≠ activationCycles then (.ok none, evaluator)
    else
      (some <$> buildEvaluation policy.prometheusUnavailability.rule .warning
        evaluator.prometheusOutageStreak (some activationCycles) [], evaluator)
  else (.ok none, { evaluator with prometheusOutageStreak := 0 })

/-- `record_llm_invocation_result`. The deque drops its oldest result when it is full. -/
def recordLlmInvocationResult (evaluator : OperationalAlertEvaluator) (result : LlmResult) :
    Except Failure (Option OperationalAlertEvaluation) × OperationalAlertEvaluator :=
  let rule := policy.llmErrorRate
  let recent := (evaluator.llmRecentFailures ++ [decide (result ≠ .success)]).rtake rule.windowSize
  let evaluator := { evaluator with llmRecentFailures := recent }
  if recent.length < rule.windowSize then (.ok none, evaluator)
  else
    let errorCount := recent.count true
    let errorRate : ℚ := errorCount / recent.length
    let thresholds := rule.thresholdsByEnv.get appEnv
    match thresholds.resolveSeverity errorRate with
    | none => (.ok none, { evaluator with llmLastAlertSeverity := none })
    | some severity =>
      if evaluator.llmLastAlertSeverity = some severity then (.ok none, evaluator)
      else
        let evaluator := { evaluator with llmLastAlertSeverity := some severity }
        match rule.rules.ruleForSeverity severity with
        | none => (.ok none, evaluator)
        | some descriptor =>
          (some <$> buildEvaluation descriptor severity errorRate (thresholds.forSeverity severity)
            [("window_size", .number (some recent.length)), ("error_count", .number (some errorCount))],
            evaluator)

end OperationalAlertEvaluator

/-! ## Severities -/

/-- A value is critical above the critical threshold. -/
theorem ThresholdBySeverity.resolveSeverity_critical {thresholds : ThresholdBySeverity}
    {observed : ℚ} : thresholds.resolveSeverity observed = some .critical ↔
      thresholds.critical < observed := by
  unfold resolveSeverity
  split
  · next h => exact iff_of_true rfl h
  · next h =>
    refine iff_of_false (fun heq => ?_) h
    split at heq <;> cases heq

/-- A value is of no severity when it is above no threshold. -/
theorem ThresholdBySeverity.resolveSeverity_none {thresholds : ThresholdBySeverity}
    {observed : ℚ} : thresholds.resolveSeverity observed = none ↔
      ∀ w, w = thresholds.critical ∨ thresholds.warning = some w → observed ≤ w := by
  unfold resolveSeverity
  split
  · next h => exact iff_of_false (fun heq => by cases heq) fun hall => absurd h (hall _ (.inl rfl)).not_gt
  · next h =>
    rw [not_lt] at h
    cases hw : thresholds.warning with
    | none => simpa using h
    | some w =>
      have horder := thresholds.order w hw
      by_cases hwarn : w < observed
      · simp [hwarn]
      · rw [not_lt] at hwarn
        have hall : ∀ v, v = thresholds.critical ∨ w = v → observed ≤ v := by
          rintro v (rfl | rfl)
          · exact h
          · exact hwarn
        simpa [hwarn] using hall

/-- A rule of a severity has this severity. -/
theorem RuleBySeverity.severity_of_ruleForSeverity {rules : RuleBySeverity}
    {severity : AlertSeverity} {rule : AlertRuleDescriptor}
    (h : rules.ruleForSeverity severity = some rule) : rule.severity = severity := by
  cases severity with
  | warning => exact rules.warning_severity rule h
  | critical =>
    obtain rfl := Option.some.inj h
    exact rules.critical_severity

/-- The alert that a rule of the right severity makes. -/
def AlertRuleDescriptor.evaluation (rule : AlertRuleDescriptor) (observedValue : ℚ)
    (thresholdValue : Option ℚ) (metadata : List (String × AlertDetail)) :
    OperationalAlertEvaluation where
  ruleId := rule.ruleId
  component := rule.component
  severity := rule.severity
  condition := rule.condition
  recommendedAction := rule.recommendedAction
  observedValue
  thresholdValue
  metadata

theorem buildEvaluation_eq_ok {rule : AlertRuleDescriptor} {severity : AlertSeverity}
    (h : rule.severity = severity) (observed : ℚ) (threshold : Option ℚ)
    (metadata : List (String × AlertDetail)) :
    buildEvaluation rule severity observed threshold metadata =
      .ok (rule.evaluation observed threshold metadata) :=
  if_neg (not_not.mpr h)

/-- **Thresholds**: an evaluation by thresholds never raises, and gives the alert of the severity
that is reached when that has a rule. -/
theorem RuleBySeverity.evaluate_eq (rules : RuleBySeverity) (thresholds : ThresholdBySeverity)
    (observed : ℚ) (metadata : List (String × AlertDetail)) :
    rules.evaluate thresholds observed metadata = .ok (do
      let severity ← thresholds.resolveSeverity observed
      let rule ← rules.ruleForSeverity severity
      some (rule.evaluation observed (thresholds.forSeverity severity) metadata)) := by
  unfold evaluate
  cases thresholds.resolveSeverity observed with
  | none => rfl
  | some severity =>
    simp only [Option.bind_eq_bind, Option.bind_some]
    cases hrule : rules.ruleForSeverity severity with
    | none => rfl
    | some rule =>
      simp only [buildEvaluation_eq_ok (severity_of_ruleForSeverity hrule)]
      rfl

/-! ## Prometheus outages -/

namespace OperationalAlertEvaluator

open Latch

variable (policy : OperationalAlertPolicyV1) (appEnv : AlertEnv)

/-- The answers of a new evaluator to the cycles it is told of, whether each is a total outage. -/
def outageAnswers (cycles : List Bool) :
    List (Except Failure (Option OperationalAlertEvaluation)) :=
  (Runs.trace (recordPrometheusUnavailability policy appEnv) start cycles).1

/-- The streak counts the outage cycles. -/
theorem counts_recordPrometheusUnavailability {past : List Bool}
    {evaluator : OperationalAlertEvaluator} (isTotalOutage : Bool)
    (h : Activation.Counts (· = true) past evaluator.prometheusOutageStreak) :
    Activation.Counts (· = true) (past ++ [isTotalOutage])
      (recordPrometheusUnavailability policy appEnv evaluator isTotalOutage).2.prometheusOutageStreak := by
  cases isTotalOutage with
  | false => exact Activation.counts_zero Bool.false_ne_true
  | true =>
    have hstreak : (recordPrometheusUnavailability policy appEnv evaluator
        true).2.prometheusOutageStreak = evaluator.prometheusOutageStreak + 1 := by
      simp only [recordPrometheusUnavailability, if_true]
      split
      · rfl
      · rfl
    rw [hstreak]
    exact h.succ rfl

/-- How many outage cycles in a row get an alert. -/
def activationCycles : ℕ := (policy.prometheusUnavailability.activationCyclesByEnv.get appEnv).val

/-- The alert of an outage, or the refusal of the lone rule. -/
def outageAlert : Except Failure (Option OperationalAlertEvaluation) :=
  some <$> buildEvaluation policy.prometheusUnavailability.rule .warning
    (activationCycles policy appEnv) (some (activationCycles policy appEnv)) []

/-- **Outage alerts**: over any cycles, each maximal run of outages that is long enough gets one
alert, at the cycle that makes it so; no other cycle gets one, and none raises. When the lone rule
is not a warning, the policy is accepted and these very cycles raise instead. -/
theorem prometheus_outage_alerts (cycles : List Bool) :
    (∀ start stop, MaximalRun (· = true) cycles start stop →
        start + activationCycles policy appEnv ≤ stop →
        (outageAnswers policy appEnv cycles)[start + activationCycles policy appEnv - 1]? =
          some (outageAlert policy appEnv)) ∧
      ∀ i < cycles.length, (¬ ∃ start stop, MaximalRun (· = true) cycles start stop ∧ i < stop ∧
          start + activationCycles policy appEnv = i + 1) →
        (outageAnswers policy appEnv cycles)[i]? = some (.ok none) := by
  have hactivation : 1 ≤ activationCycles policy appEnv :=
    (policy.prometheusUnavailability.activationCyclesByEnv.get appEnv).property
  -- the cycle with number `i` meets the streak of those before
  have hmeets : ∀ i l, cycles[i]? = some l → ∃ t : OperationalAlertEvaluator,
      Activation.Counts (· = true) (cycles.take i) t.prometheusOutageStreak ∧
        (outageAnswers policy appEnv cycles)[i]? =
          some (recordPrometheusUnavailability policy appEnv t l).1 := by
    intro i l hl
    exact Runs.trace_history (recordPrometheusUnavailability policy appEnv)
      (I := fun past t => Activation.Counts (· = true) past t.prometheusOutageStreak)
      Activation.counts_nil (fun past t l h => counts_recordPrometheusUnavailability policy appEnv l h)
      hl
  constructor
  · intro first stop hrun hle
    have hlt : first + activationCycles policy appEnv - 1 < cycles.length := by
      have := hrun.le
      omega
    have hl := List.getElem?_eq_getElem hlt
    have hp := hrun.holds _ _ (by omega) (by omega) hl
    obtain ⟨t, hcounts, hanswer⟩ := hmeets _ _ hl
    have hstreak := (Activation.counts_iff hl hp hcounts (activationCycles policy appEnv)).mpr
      ⟨first, stop, hrun, by omega, by omega⟩
    rw [hanswer, hp]
    simp only [recordPrometheusUnavailability, if_true, hstreak]
    exact congrArg some (congrArg Prod.fst (if_neg (not_not.mpr rfl)))
  · intro i hi hnone
    have hl := List.getElem?_eq_getElem hi
    obtain ⟨t, hcounts, hanswer⟩ := hmeets _ _ hl
    rw [hanswer]
    cases hp : cycles[i] with
    | false => rfl
    | true =>
      rw [hp] at hl
      have hstreak : t.prometheusOutageStreak + 1 ≠ activationCycles policy appEnv := fun h =>
        hnone ((Activation.counts_iff (p := (· = true)) hl rfl hcounts (activationCycles policy appEnv)).mp h)
      simp only [recordPrometheusUnavailability, if_true]
      exact congrArg some (congrArg Prod.fst (if_pos hstreak))

/-! ## Error rates of the model -/

/-- Whether a result counts as an error. -/
def failed (result : LlmResult) : Bool := decide (result ≠ .success)

/-- How many of the last results are errors. -/
def recentErrors (past : List LlmResult) : ℕ :=
  ((past.map failed).rtake policy.llmErrorRate.windowSize).count true

/-- The error rate of the last results. -/
def recentErrorRate (past : List LlmResult) : ℚ :=
  recentErrors policy past / policy.llmErrorRate.windowSize

/-- The severity of the last results, once there are enough. -/
def errorSeverity (past : List LlmResult) : Option AlertSeverity :=
  if past.length < policy.llmErrorRate.windowSize then none
  else (policy.llmErrorRate.thresholdsByEnv.get appEnv).resolveSeverity (recentErrorRate policy past)

/-- The alert of a severity. -/
def errorRateAlert (past : List LlmResult) : Option OperationalAlertEvaluation := do
  let severity ← errorSeverity policy appEnv past
  let rule ← policy.llmErrorRate.rules.ruleForSeverity severity
  some (rule.evaluation (recentErrorRate policy past)
    ((policy.llmErrorRate.thresholdsByEnv.get appEnv).forSeverity severity)
    [("window_size", .number (some policy.llmErrorRate.windowSize)),
      ("error_count", .number (some (recentErrors policy past)))])

/-- What the evaluator keeps of the results so far. -/
structure KeepsResults (past : List LlmResult) (evaluator : OperationalAlertEvaluator) : Prop where
  /-- the last results -/
  recent : evaluator.llmRecentFailures = (past.map failed).rtake policy.llmErrorRate.windowSize
  /-- and their severity -/
  last : evaluator.llmLastAlertSeverity = errorSeverity policy appEnv past

/-- The last items of the last items and one more. -/
theorem rtake_rtake_concat {α : Type} {n : ℕ} (hn : 1 ≤ n) (xs : List α) (x : α) :
    (xs.rtake n ++ [x]).rtake n = (xs ++ [x]).rtake n := by
  obtain ⟨m, rfl⟩ : ∃ m, n = m + 1 := ⟨n - 1, by omega⟩
  rw [List.rtake_concat_succ, List.rtake_concat_succ]
  congr 1
  rw [List.rtake, List.rtake, List.drop_drop, List.rtake, List.length_drop]
  congr 1
  omega

variable {policy appEnv}

/-- **Step lemma**: one more result. -/
theorem recordLlmInvocationResult_spec {past : List LlmResult}
    {evaluator : OperationalAlertEvaluator} (h : KeepsResults policy appEnv past evaluator)
    (result : LlmResult) :
    KeepsResults policy appEnv (past ++ [result])
        (recordLlmInvocationResult policy appEnv evaluator result).2 ∧
      (recordLlmInvocationResult policy appEnv evaluator result).1 =
        .ok (if errorSeverity policy appEnv (past ++ [result]) = errorSeverity policy appEnv past
          then none else errorRateAlert policy appEnv (past ++ [result])) := by
  have hrecent : (evaluator.llmRecentFailures ++ [decide (result ≠ .success)]).rtake
      policy.llmErrorRate.windowSize =
        ((past ++ [result]).map failed).rtake policy.llmErrorRate.windowSize := by
    rw [h.recent, rtake_rtake_concat policy.llmErrorRate.windowSize_pos, List.map_append]
    rfl
  have hlength : (((past ++ [result]).map failed).rtake policy.llmErrorRate.windowSize).length =
      min (past ++ [result]).length policy.llmErrorRate.windowSize := by
    rw [RollingWindow.length_rtake, List.length_map]
  simp only [recordLlmInvocationResult, hrecent]
  by_cases hshort : (past ++ [result]).length < policy.llmErrorRate.windowSize
  · -- too few results: neither they nor those before have a severity
    have hnow : errorSeverity policy appEnv (past ++ [result]) = none := if_pos hshort
    have hbefore : errorSeverity policy appEnv past = none := by
      rw [List.length_append] at hshort
      exact if_pos (by omega)
    rw [if_pos (by omega)]
    refine ⟨⟨rfl, ?_⟩, ?_⟩
    · rw [h.last, hnow, hbefore]
    · rw [hnow, hbefore, if_pos rfl]
  · have hfull : (((past ++ [result]).map failed).rtake policy.llmErrorRate.windowSize).length =
        policy.llmErrorRate.windowSize := by omega
    have hnow : errorSeverity policy appEnv (past ++ [result]) =
        (policy.llmErrorRate.thresholdsByEnv.get appEnv).resolveSeverity
          (recentErrorRate policy (past ++ [result])) := if_neg hshort
    have hrate : ((((past ++ [result]).map failed).rtake policy.llmErrorRate.windowSize).count
        true : ℚ) / policy.llmErrorRate.windowSize = recentErrorRate policy (past ++ [result]) := rfl
    rw [if_neg (by omega), hfull, hrate, ← hnow, h.last]
    cases hseverity : errorSeverity policy appEnv (past ++ [result]) with
    | none =>
      refine ⟨⟨rfl, hseverity.symm⟩, ?_⟩
      simp only [errorRateAlert, hseverity, Option.bind_eq_bind, Option.bind_none, ite_self]
    | some severity =>
      simp only
      by_cases hsame : errorSeverity policy appEnv past = some severity
      · rw [if_pos hsame, if_pos hsame.symm]
        exact ⟨⟨rfl, hsame.trans hseverity.symm⟩, rfl⟩
      · rw [if_neg hsame, if_neg (Ne.symm hsame), errorRateAlert, hseverity]
        simp only [Option.bind_eq_bind, Option.bind_some]
        cases hrule : policy.llmErrorRate.rules.ruleForSeverity severity with
        | none => exact ⟨⟨rfl, hseverity.symm⟩, rfl⟩
        | some rule =>
          simp only [buildEvaluation_eq_ok (RuleBySeverity.severity_of_ruleForSeverity hrule)]
          exact ⟨⟨rfl, hseverity.symm⟩, rfl⟩

variable (policy appEnv)

/-- The answers of a new evaluator to the results it is told of. -/
def resultAnswers (results : List LlmResult) :
    List (Except Failure (Option OperationalAlertEvaluation)) :=
  (Runs.trace (recordLlmInvocationResult policy appEnv) start results).1

/-- **Error-rate alerts**: over any results, an alert is given exactly when the severity of the last
`window_size` results is not that of the `window_size` results before, and then it has the exact
rate and severity of the last ones, when the policy has a rule for it. No result raises. -/
theorem llm_error_rate_alerts (results : List LlmResult) :
    resultAnswers policy appEnv results = (List.range results.length).map fun i =>
      .ok (if errorSeverity policy appEnv (results.take (i + 1)) =
          errorSeverity policy appEnv (results.take i) then none
        else errorRateAlert policy appEnv (results.take (i + 1))) := by
  refine Runs.trace_eq_map (recordLlmInvocationResult policy appEnv)
    (I := KeepsResults policy appEnv) (fun past now =>
      .ok (if errorSeverity policy appEnv now = errorSeverity policy appEnv past then none
        else errorRateAlert policy appEnv now)) ?_ ?_ ?_ results
  · exact ⟨(List.rtake_nil _).symm, (if_pos policy.llmErrorRate.windowSize_pos).symm⟩
  · exact fun past t l h => (recordLlmInvocationResult_spec h l).1
  · exact fun past t l h => (recordLlmInvocationResult_spec h l).2

end OperationalAlertEvaluator

/-! ## The policy that is shipped -/

/-- A rule of a component: its id, its condition and what to do. -/
abbrev RuleTexts := String × String × String

/-- The rule of a severity. -/
def RuleTexts.rule (texts : RuleTexts) (component : String) (severity : AlertSeverity) :
    AlertRuleDescriptor :=
  ⟨texts.1, component, severity, texts.2.1, texts.2.2⟩

/-- A rule for critical alerts, and perhaps one for warnings. -/
def RuleBySeverity.ofTexts (component : String) (warning : Option RuleTexts) (critical : RuleTexts) :
    RuleBySeverity where
  warning := warning.map fun texts => texts.rule component .warning
  critical := critical.rule component .critical
  warning_severity rule hrule := by
    obtain ⟨texts, -, rfl⟩ := Option.map_eq_some_iff.mp hrule
    rfl
  critical_severity := rfl

/-- `config/policies/operational-alert-policy-v1.yaml`. -/
def operationalAlertPolicyV1 : OperationalAlertPolicyV1 where
  outbox := {
    pendingObjectAge := .ofTexts "outbox"
      (some ("ALERT_OUTBOX_PENDING_OBJECT_AGE_WARNING",
        "oldest_pending_object_age_seconds > outbox_policy.state_age_thresholds.pending_object.warning_seconds",
        "Investigate outbox backlog growth and ensure object storage confirms writes."))
      ("ALERT_OUTBOX_PENDING_OBJECT_AGE_CRITICAL",
        "oldest_pending_object_age_seconds > outbox_policy.state_age_thresholds.pending_object.critical_seconds",
        "Page on-call and restore outbox processing throughput.")
    readyAge := .ofTexts "outbox"
      (some ("ALERT_OUTBOX_READY_AGE_WARNING",
        "oldest_ready_age_seconds > outbox_policy.state_age_thresholds.ready.warning_seconds",
        "Investigate publish lag and Kafka connectivity."))
      ("ALERT_OUTBOX_READY_AGE_CRITICAL",
        "oldest_ready_age_seconds > outbox_policy.state_age_thresholds.ready.critical_seconds",
        "Page on-call and remediate stalled outbox publishing immediately.")
    retryAge := .ofTexts "outbox" none
      ("ALERT_OUTBOX_RETRY_AGE_CRITICAL",
        "oldest_retry_age_seconds > outbox_policy.state_age_thresholds.retry.critical_seconds",
        "Investigate repeated publish failures and resolve dependency faults.")
    deadCount := .ofTexts "outbox"
      (some ("ALERT_OUTBOX_DEAD_COUNT_WARNING",
        "dead_count > outbox_policy.dead_count_critical_threshold[app_env] (non-prod posture)",
        "Open an operational ticket and start manual replay investigation."))
      ("ALERT_OUTBOX_DEAD_COUNT_CRITICAL",
        "dead_count > outbox_policy.dead_count_critical_threshold[app_env] (prod posture)",
        "Page on-call and start immediate dead-letter investigation/recovery.") }
  redisConnectionLoss := RuleTexts.rule
    ("ALERT_REDIS_CONNECTION_LOSS", "redis_connection_status == 0",
      "Restore Redis connectivity and validate dedupe-store health.") "redis" .critical
  prometheusUnavailability := {
    rule := RuleTexts.rule
      ("ALERT_PROMETHEUS_UNAVAILABLE", "telemetry_degraded_active == true",
        "Investigate Prometheus availability and restore telemetry ingestion.") "prometheus" .warning
    activationCyclesByEnv := ⟨⟨2, by decide⟩, ⟨2, by decide⟩, ⟨2, by decide⟩, ⟨1, by decide⟩⟩ }
  llmErrorRate := {
    windowSize := 20
    windowSize_pos := by decide
    thresholdsByEnv := ⟨.pair (1 / 4) (1 / 2) (by norm_num), .pair (1 / 5) (2 / 5) (by norm_num),
      .pair (3 / 20) (3 / 10) (by norm_num), .pair (1 / 10) (1 / 5) (by norm_num)⟩
    rules := .ofTexts "llm"
      (some ("ALERT_LLM_ERROR_RATE_SPIKE_WARNING", "llm_error_rate > warning_threshold",
        "Investigate cold-path LLM dependency failures and fallback growth."))
      ("ALERT_LLM_ERROR_RATE_SPIKE_CRITICAL", "llm_error_rate > critical_threshold",
        "Engage incident response and failover diagnostics path if needed.") }
  snCorrelationFallbackRate := {
    thresholdsByEnv := ⟨.pair (3 / 20) (7 / 20) (by norm_num), .pair (3 / 10) (9 / 20) (by norm_num),
      .pair (1 / 4) (2 / 5) (by norm_num), .pair (1 / 10) (1 / 5) (by norm_num)⟩
    rules := .ofTexts "servicenow"
      (some ("ALERT_SN_CORRELATION_FALLBACK_RATE_WARNING",
        "sn_correlation_fallback_rate > warning_threshold",
        "Investigate Tier2/Tier3 fallback growth and PD->SN field population."))
      ("ALERT_SN_CORRELATION_FALLBACK_RATE_CRITICAL",
        "sn_correlation_fallback_rate > critical_threshold",
        "Escalate to PD/SN integration team and restore primary correlation fidelity.") }
  schedulerIntervalDriftSeconds := {
    thresholdsByEnv := ⟨.pair 45 90 (by norm_num), .pair 40 75 (by norm_num),
      .pair 30 60 (by norm_num), .pair 20 45 (by norm_num)⟩
    rules := .ofTexts "scheduler"
      (some ("ALERT_SCHEDULER_INTERVAL_DRIFT_WARNING", "scheduler_drift_seconds > warning_threshold",
        "Inspect scheduler load, clock sync, and event-loop contention."))
      ("ALERT_SCHEDULER_INTERVAL_DRIFT_CRITICAL", "scheduler_drift_seconds > critical_threshold",
        "Page platform on-call and restore scheduler cadence.") }
  pipelineStageLatencySeconds := {
    thresholdsByEnv := ⟨.pair 2 5 (by norm_num), .pair (3 / 2) 4 (by norm_num),
      .pair 1 3 (by norm_num), .pair (3 / 4) 2 (by norm_num)⟩
    rules := .ofTexts "pipeline"
      (some ("ALERT_PIPELINE_STAGE_LATENCY_WARNING",
        "pipeline_stage_latency_seconds > warning_threshold",
        "Inspect slow stage dependencies and queue pressure."))
      ("ALERT_PIPELINE_STAGE_LATENCY_CRITICAL", "pipeline_stage_latency_seconds > critical_threshold",
        "Engage incident response and restore pipeline SLO compliance.") }

end AiopsTriage
