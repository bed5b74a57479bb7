import AiopsTriage.Health.Alerts
import AiopsTriage.Outbox.Worker
import AiopsTriage.Scheduler.DegradedMode

/-!
# Backlog of the outbox

Every poll reads how many rows stand in each status and how old the oldest one is, and from that
draws three things: one severity for the log line, a breach event for each threshold that is
crossed, and an alert for each breach. The severity is computed by a walk of its own that leaves
early, and the breaches by another.

`backlog_severity_exact` says that they agree, and what they say of the table: the severity is that
of the worst breach, there is a breach of a status exactly when some row of it is older than the
threshold, and one of the dead rows exactly when there are more than allowed.

Ages are exact numbers of seconds.
-/

namespace AiopsTriage

/-! ## Policy -/

/-- `OutboxStateAgeThreshold`, which has the fields and the validator of a threshold pair. -/
abbrev OutboxStateAgeThreshold := ThresholdBySeverity

/-- `OutboxStateAgeThresholds`. -/
structure OutboxStateAgeThresholds where
  /-- for rows whose file is confirmed -/
  pendingObject : OutboxStateAgeThreshold
  /-- for rows that wait for their first attempt -/
  ready : OutboxStateAgeThreshold
  /-- for rows that wait for another -/
  retry : OutboxStateAgeThreshold

/-- What `OutboxPolicyV1` says of the backlog. -/
structure OutboxBacklogPolicy where
  /-- `state_age_thresholds` -/
  stateAgeThresholds : OutboxStateAgeThresholds
  /-- `dead_count_critical_threshold` -/
  deadCountCriticalThreshold : Dict String ℕ

/-! ## The snapshot -/

/-- `OutboxHealthSnapshot`. -/
structure OutboxHealthSnapshot where
  /-- rows in `PENDING_OBJECT` -/
  pendingObjectCount : ℕ
  /-- rows in `READY` -/
  readyCount : ℕ
  /-- rows in `RETRY` -/
  retryCount : ℕ
  /-- rows in `DEAD` -/
  deadCount : ℕ
  /-- rows in `SENT` -/
  sentCount : ℕ
  /-- the age of the oldest `PENDING_OBJECT` row -/
  oldestPendingObjectAgeSeconds : ℚ
  /-- the age of the oldest `READY` row -/
  oldestReadyAgeSeconds : ℚ
  /-- the age of the oldest `RETRY` row -/
  oldestRetryAgeSeconds : ℚ
  /-- the age of the oldest `DEAD` row -/
  oldestDeadAgeSeconds : ℚ
  deriving DecidableEq, Repr

namespace OutboxHealthSnapshot

/-- No row. -/
def empty : OutboxHealthSnapshot := ⟨0, 0, 0, 0, 0, 0, 0, 0, 0⟩

/-- The count of a status. -/
def count (s : OutboxHealthSnapshot) : OutboxState → ℕ
  | .pendingObject => s.pendingObjectCount
  | .ready => s.readyCount
  | .retry => s.retryCount
  | .dead => s.deadCount
  | .sent => s.sentCount

/-- The age of the oldest row of a status; that of sent rows is not watched. -/
def oldestAge (s : OutboxHealthSnapshot) : OutboxState → ℚ
  | .pendingObject => s.oldestPendingObjectAgeSeconds
  | .ready => s.oldestReadyAgeSeconds
  | .retry => s.oldestRetryAgeSeconds
  | .dead => s.oldestDeadAgeSeconds
  | .sent => 0

end OutboxHealthSnapshot

/-- `max((now - updated_at).total_seconds(), 0.0)`. -/
def OutboxRecord.ageSeconds (row : OutboxRecord) (now : Instant) : ℚ :=
  max ((now - row.updatedAt : Int) / 1000000) 0

/-- One row more. -/
def OutboxHealthSnapshot.observe (now : Instant) (s : OutboxHealthSnapshot) (row : OutboxRecord) :
    OutboxHealthSnapshot :=
  let age := row.ageSeconds now
  match row.status with
  | .pendingObject =>
    { s with
      pendingObjectCount := s.pendingObjectCount + 1
      oldestPendingObjectAgeSeconds := max s.oldestPendingObjectAgeSeconds age }
  | .ready =>
    { s with
      readyCount := s.readyCount + 1
      oldestReadyAgeSeconds := max s.oldestReadyAgeSeconds age }
  | .retry =>
    { s with
      retryCount := s.retryCount + 1
      oldestRetryAgeSeconds := max s.oldestRetryAgeSeconds age }
  | .dead =>
    { s with
      deadCount := s.deadCount + 1
      oldestDeadAgeSeconds := max s.oldestDeadAgeSeconds age }
  | .sent => { s with sentCount := s.sentCount + 1 }

/-- `select_backlog_health`. -/
def selectBacklogHealth (table : OutboxTable) (now : DateTime) :
    Except Failure OutboxHealthSnapshot := do
  let resolvedNow ← resolveNow now
  return (table.entries.map Prod.snd).foldl (OutboxHealthSnapshot.observe resolvedNow) .empty

/-! ## What the snapshot says -/

/-- The snapshot of some rows: exact counts, and the greatest age of each watched status. -/
structure OutboxHealthSnapshot.Of (now : Instant) (rows : List OutboxRecord)
    (s : OutboxHealthSnapshot) : Prop where
  /-- the counts are exact -/
  count : ∀ status, s.count status = rows.countP fun row => decide (row.status = status)
  /-- no row of a watched status is older -/
  oldest_le : ∀ row ∈ rows, row.status ≠ .sent → row.ageSeconds now ≤ s.oldestAge row.status
  /-- some row is that old, unless the age is 0 -/
  oldest_eq : ∀ status, s.oldestAge status = 0 ∨
    ∃ row ∈ rows, row.status = status ∧ row.ageSeconds now = s.oldestAge status

namespace OutboxHealthSnapshot

variable {now : Instant} {rows : List OutboxRecord} {s : OutboxHealthSnapshot}

theorem count_observe (now : Instant) (s : OutboxHealthSnapshot) (row : OutboxRecord)
    (status : OutboxState) : (s.observe now row).count status =
      s.count status + if row.status = status then 1 else 0 := by
  unfold observe
  cases row.status <;> cases status <;> simp [count]

theorem oldestAge_observe (now : Instant) (s : OutboxHealthSnapshot) (row : OutboxRecord)
    (status : OutboxState) : (s.observe now row).oldestAge status =
      if row.status = status ∧ status ≠ .sent then max (s.oldestAge status) (row.ageSeconds now)
      else s.oldestAge status := by
  unfold observe
  cases row.status <;> cases status <;> simp [oldestAge]

theorem of_nil (now : Instant) : Of now [] empty where
  count status := by cases status <;> rfl
  oldest_le row h := by cases h
  oldest_eq status := .inl (by cases status <;> rfl)

/-- **Step lemma**: one row more. -/
theorem Of.observe (h : Of now rows s) (row : OutboxRecord) :
    Of now (rows ++ [row]) (s.observe now row) where
  count status := by
    rw [count_observe, h.count, List.countP_append, List.countP_singleton]
    simp only [decide_eq_true_eq]
  oldest_le row' hrow' hwatched := by
    rw [oldestAge_observe]
    rcases List.mem_append.mp hrow' with hold | hnew
    · have hle := h.oldest_le row' hold hwatched
      split
      · exact hle.trans (le_max_left _ _)
      · exact hle
    · obtain rfl := List.mem_singleton.mp hnew
      rw [if_pos ⟨rfl, hwatched⟩]
      exact le_max_right _ _
  oldest_eq status := by
    rw [oldestAge_observe]
    have hold : s.oldestAge status = 0 ∨
        ∃ row' ∈ rows ++ [row], row'.status = status ∧ row'.ageSeconds now = s.oldestAge status := by
      refine (h.oldest_eq status).imp id ?_
      rintro ⟨row', hmem, hrow'⟩
      exact ⟨row', List.mem_append_left _ hmem, hrow'⟩
    split
    · next hsame =>
      rcases le_total (row.ageSeconds now) (s.oldestAge status) with hle | hle
      · rw [max_eq_left hle]
        exact hold
      · rw [max_eq_right hle]
        exact .inr ⟨row, by simp, hsame.1, rfl⟩
    · exact hold

/-- **Snapshot**: what `select_backlog_health` returns is exact. -/
theorem of_selectBacklogHealth {table : OutboxTable}
    (h : selectBacklogHealth table (.aware now) = .ok s) : Of now (table.entries.map Prod.snd) s := by
  have hall : ∀ (rows past : List OutboxRecord) (s : OutboxHealthSnapshot), Of now past s →
      Of now (past ++ rows) (rows.foldl (OutboxHealthSnapshot.observe now) s) := by
    intro rows
    induction rows with
    | nil =>
      intro past s hs
      rwa [List.append_nil]
    | cons row rows ih =>
      intro past s hs
      have hrest := ih (past ++ [row]) (s.observe now row) (hs.observe row)
      rwa [List.append_assoc] at hrest
  obtain ⟨t, ht, h⟩ := Except.bind_eq_ok.mp h
  cases ht
  rw [Except.pure_eq_ok] at h
  exact h ▸ hall _ [] empty (of_nil now)

/-- Some row of a watched status is older than a bound exactly when the oldest one is. -/
theorem Of.lt_oldestAge_iff (h : Of now rows s) {status : OutboxState} (hwatched : status ≠ .sent)
    {bound : ℚ} (hbound : 0 ≤ bound) : bound < s.oldestAge status ↔
      ∃ row ∈ rows, row.status = status ∧ bound < row.ageSeconds now := by
  constructor
  · intro hlt
    rcases h.oldest_eq status with hzero | ⟨row, hmem, hstatus, hage⟩
    · rw [hzero] at hlt
      exact absurd hbound (not_le.mpr hlt)
    · exact ⟨row, hmem, hstatus, hage ▸ hlt⟩
  · rintro ⟨row, hmem, rfl, hlt⟩
    exact hlt.trans_le (h.oldest_le row hmem hwatched)

end OutboxHealthSnapshot

/-! ## Alerts of the outbox -/

namespace OperationalAlertEvaluator

variable (policy : OperationalAlertPolicyV1) (appEnv : AlertEnv)

/-- `_outbox_rule_group_for_state`. -/
def outboxRuleGroupForState : OutboxState → Except Failure RuleBySeverity
  | .pendingObject => .ok policy.outbox.pendingObjectAge
  | .ready => .ok policy.outbox.readyAge
  | .retry => .ok policy.outbox.retryAge
  | state => .error (.valueError
      s!"Unsupported outbox state for alert evaluation: {reprText state.value}")

/-- `evaluate_outbox_state_age`. The rule group is looked up when a severity is reached. -/
def evaluateOutboxStateAge (state : OutboxState) (actualAgeSeconds : ℚ)
    (thresholds : ThresholdBySeverity) : Except Failure (Option OperationalAlertEvaluation) :=
  match thresholds.resolveSeverity actualAgeSeconds with
  | none => .ok none
  | some severity => do
    let ruleGroup ← outboxRuleGroupForState policy state
    match ruleGroup.ruleForSeverity severity with
    | none => return none
    | some rule =>
      some <$> buildEvaluation rule severity actualAgeSeconds (thresholds.forSeverity severity)
        [("state", .text state.value)]

/-- `evaluate_outbox_dead_count`. -/
def evaluateOutboxDeadCount (deadCount criticalThreshold : ℕ) :
    Except Failure (Option OperationalAlertEvaluation) :=
  if deadCount ≤ criticalThreshold then .ok none
  else
    let severity := if appEnv = .prod then AlertSeverity.critical else .warning
    match policy.outbox.deadCount.ruleForSeverity severity with
    | none => .ok none
    | some rule =>
      some <$> buildEvaluation rule severity deadCount (some criticalThreshold)
        [("state", .text "DEAD")]

end OperationalAlertEvaluator

/-! ## What a poll says -/

/-- `outbox_health_threshold_breach`. -/
structure ThresholdBreach where
  /-- the status -/
  state : OutboxState
  /-- how bad it is -/
  severity : AlertSeverity
  /-- what was seen -/
  actualValue : ℚ
  /-- the threshold it is above -/
  thresholdValue : ℚ
  deriving DecidableEq, Repr

/-- A log event of the backlog. -/
inductive BacklogEvent where
  /-- `outbox_health_threshold_breach` -/
  | thresholdBreach (breach : ThresholdBreach)
  /-- `outbox_dead_manual_resolution_required` -/
  | deadManualResolutionRequired (deadCount : ℕ)
  /-- `operational_alert_rule_triggered`, with the breach it is for -/
  | operationalAlert (alert : OperationalAlertEvaluation) (breach : ThresholdBreach)
  deriving DecidableEq, Repr

/-- The breach an event is of. -/
def BacklogEvent.breach? : BacklogEvent → Option ThresholdBreach
  | thresholdBreach breach => some breach
  | deadManualResolutionRequired _ => none
  | operationalAlert _ _ => none

/-- What an event tells: of a breach its status and severity, and of an alert its rule. -/
def BacklogEvent.headline : BacklogEvent → String × Option OutboxState × Option AlertSeverity
  | .thresholdBreach breach => ("breach", some breach.state, some breach.severity)
  | .deadManualResolutionRequired _ => ("manual", none, none)
  | .operationalAlert alert _ => (alert.ruleId, none, some alert.severity)

/-- An `OutboxPublisherWorker`, as far as it watches the backlog. -/
structure BacklogMonitor where
  /-- the policy -/
  policy : OutboxBacklogPolicy
  /-- the environment -/
  appEnv : String
  /-- the policy and the environment of its evaluator, if it has one -/
  alertEvaluator : Option (OperationalAlertPolicyV1 × AlertEnv)

namespace BacklogMonitor

variable (monitor : BacklogMonitor) (health : OutboxHealthSnapshot)

/-- `threshold_by_state`. -/
def thresholdByState : List (OutboxState × ℚ × OutboxStateAgeThreshold) :=
  let thresholds := monitor.policy.stateAgeThresholds
  [(.pendingObject, health.oldestPendingObjectAgeSeconds, thresholds.pendingObject),
    (.ready, health.oldestReadyAgeSeconds, thresholds.ready),
    (.retry, health.oldestRetryAgeSeconds, thresholds.retry)]

/-- `dead_count_critical_threshold.get(app_env, 0)`. -/
def deadThreshold : ℕ := (monitor.policy.deadCountCriticalThreshold.get? monitor.appEnv).getD 0

/-- The walk over the ages; `none` when it leaves with `critical`. -/
def walkAges : EventSeverity → List (OutboxState × ℚ × OutboxStateAgeThreshold) →
    Option EventSeverity
  | severity, [] => some severity
  | severity, (_, actualAge, threshold) :: rest =>
    if threshold.critical < actualAge then none
    else walkAges (if threshold.warning.any (· < actualAge) then .warning else severity) rest

/-- `_resolve_backlog_health_severity`. -/
def resolveBacklogHealthSeverity : EventSeverity :=
  match walkAges .info (monitor.thresholdByState health) with
  | none => .critical
  | some severity =>
    if monitor.deadThreshold < health.deadCount then
      if monitor.appEnv = "prod" then .critical else .warning
    else severity

/-- The breach of one age. -/
def ageBreach (state : OutboxState) (actualAge : ℚ) (threshold : OutboxStateAgeThreshold) :
    Option ThresholdBreach :=
  if threshold.critical < actualAge then some ⟨state, .critical, actualAge, threshold.critical⟩
  else
    match threshold.warning with
    | none => none
    | some warning =>
      if warning < actualAge then some ⟨state, .warning, actualAge, warning⟩ else none

/-- `_emit_state_age_threshold_breaches`, one age. -/
def emitStateAge (state : OutboxState) (actualAge : ℚ) (threshold : OutboxStateAgeThreshold) :
    Except Failure (List BacklogEvent) :=
  match ageBreach state actualAge threshold with
  | none => .ok []
  | some breach =>
    match monitor.alertEvaluator with
    | none => .ok [.thresholdBreach breach]
    | some (policy, _) => do
      let alert ← OperationalAlertEvaluator.evaluateOutboxStateAge policy state actualAge threshold
      return .thresholdBreach breach :: (alert.map (.operationalAlert · breach)).toList

/-- `_emit_state_age_threshold_breaches`. -/
def emitStateAgeThresholdBreaches : Except Failure (List BacklogEvent) := do
  let events ← (monitor.thresholdByState health).mapM fun (state, actualAge, threshold) =>
    monitor.emitStateAge state actualAge threshold
  return events.flatten

/-- The breach of the dead rows. -/
def deadBreach : Option ThresholdBreach :=
  if health.deadCount ≤ monitor.deadThreshold then none
  else
    let severity := if monitor.appEnv = "prod" then AlertSeverity.critical else .warning
    some ⟨.dead, severity, health.deadCount, monitor.deadThreshold⟩

/-- `_emit_dead_count_threshold_breach`. -/
def emitDeadCountThresholdBreach : Except Failure (List BacklogEvent) :=
  match monitor.deadBreach health with
  | none => .ok []
  | some breach =>
    let events := [.thresholdBreach breach, .deadManualResolutionRequired health.deadCount]
    match monitor.alertEvaluator with
    | none => .ok events
    | some (policy, appEnv) => do
      let alert ← OperationalAlertEvaluator.evaluateOutboxDeadCount policy appEnv health.deadCount
        monitor.deadThreshold
      return events ++ (alert.map (.operationalAlert · breach)).toList

/-- `_emit_backlog_health_logs`: the severity of the log line, and the events after it. -/
def emitBacklogHealthLogs (table : OutboxTable) (now : DateTime) :
    Except Failure (EventSeverity × List BacklogEvent) := do
  let health ← selectBacklogHealth table now
  let ages ← monitor.emitStateAgeThresholdBreaches health
  let dead ← monitor.emitDeadCountThresholdBreach health
  return (monitor.resolveBacklogHealthSeverity health, ages ++ dead)

/-! ## The breaches -/

/-- The breaches of a snapshot: of the ages, and of the dead rows. -/
def breaches : List ThresholdBreach :=
  (monitor.thresholdByState health).filterMap (fun (state, actualAge, threshold) =>
    ageBreach state actualAge threshold) ++ (monitor.deadBreach health).toList

/-- The age is above the critical threshold. -/
def isCritical (e : OutboxState × ℚ × OutboxStateAgeThreshold) : Bool :=
  decide (e.2.2.critical < e.2.1)

/-- The age is above the warning threshold. -/
def isWarning (e : OutboxState × ℚ × OutboxStateAgeThreshold) : Bool :=
  e.2.2.warning.any (· < e.2.1)

/-- The walk leaves at a critical age, and else remembers a warning. -/
theorem walkAges_eq (severity : EventSeverity)
    (ages : List (OutboxState × ℚ × OutboxStateAgeThreshold)) :
    walkAges severity ages = if ages.any isCritical then none
      else some (if ages.any isWarning then .warning else severity) := by
  induction ages generalizing severity with
  | nil => rfl
  | cons e ages ih =>
    obtain ⟨state, actualAge, threshold⟩ := e
    rw [walkAges, List.any_cons, List.any_cons]
    by_cases hcritical : threshold.critical < actualAge
    · rw [if_pos hcritical, if_pos]
      simp [isCritical, hcritical]
    · rw [if_neg hcritical, ih]
      have hnot : isCritical (state, actualAge, threshold) = false := by
        simp [isCritical, not_lt.mp hcritical]
      rw [hnot, Bool.false_or]
      split
      · rfl
      · cases hwarning : isWarning (state, actualAge, threshold) with
        | false =>
          have hoff : ¬ threshold.warning.any (· < actualAge) = true := by
            rw [Bool.not_eq_true]
            exact hwarning
          rw [if_neg hoff, Bool.false_or]
        | true =>
          have hon : threshold.warning.any (· < actualAge) = true := hwarning
          rw [if_pos hon, Bool.true_or, ite_self, if_pos rfl]

/-- The breach of an age has the severity that is reached, and its threshold. -/
theorem ageBreach_eq (state : OutboxState) (actualAge : ℚ) (threshold : OutboxStateAgeThreshold) :
    ageBreach state actualAge threshold =
      (threshold.resolveSeverity actualAge).bind fun severity =>
        (threshold.forSeverity severity).map fun value => ⟨state, severity, actualAge, value⟩ := by
  unfold ageBreach ThresholdBySeverity.resolveSeverity
  split
  · rfl
  · cases hwarning : threshold.warning with
    | none => rfl
    | some warning =>
      by_cases hlt : warning < actualAge
      · simp [hlt, ThresholdBySeverity.forSeverity, hwarning]
      · simp [hlt]

/-- There is a critical breach exactly of a critical age. -/
theorem ageBreach_critical_iff (e : OutboxState × ℚ × OutboxStateAgeThreshold) :
    (∃ b, ageBreach e.1 e.2.1 e.2.2 = some b ∧ b.severity = .critical) ↔ isCritical e = true := by
  unfold ageBreach isCritical
  split
  · next h => exact iff_of_true ⟨_, rfl, rfl⟩ (decide_eq_true h)
  · next h =>
    refine iff_of_false ?_ (by simpa using h)
    rintro ⟨b, hb, hcritical⟩
    cases hwarning : e.2.2.warning with
    | none =>
      rw [hwarning] at hb
      cases hb
    | some warning =>
      simp only [hwarning] at hb
      split at hb
      · cases hb
        cases hcritical
      · cases hb

/-- There is a breach exactly of an age above some threshold. -/
theorem ageBreach_isSome_iff (e : OutboxState × ℚ × OutboxStateAgeThreshold) :
    (∃ b, ageBreach e.1 e.2.1 e.2.2 = some b) ↔ isCritical e = true ∨ isWarning e = true := by
  unfold ageBreach isCritical isWarning
  split
  · next h => exact iff_of_true ⟨_, rfl⟩ (.inl (decide_eq_true h))
  · next h =>
    cases hwarning : e.2.2.warning with
    | none => simpa using h
    | some warning =>
      by_cases hlt : warning < e.2.1
      · simp [hlt]
      · simp [hlt, h]

theorem mem_breaches {b : ThresholdBreach} : b ∈ monitor.breaches health ↔
    (∃ e ∈ monitor.thresholdByState health, ageBreach e.1 e.2.1 e.2.2 = some b) ∨
      monitor.deadBreach health = some b := by
  rw [breaches, List.mem_append, List.mem_filterMap, Option.mem_toList]

/-- The dead rows breach when there are more than allowed, as badly as the environment makes it. -/
theorem deadBreach_iff {b : ThresholdBreach} : monitor.deadBreach health = some b ↔
    monitor.deadThreshold < health.deadCount ∧
      b = ⟨.dead, if monitor.appEnv = "prod" then .critical else .warning, health.deadCount,
        monitor.deadThreshold⟩ := by
  unfold deadBreach
  split
  · next h => exact iff_of_false (fun hb => by cases hb) fun hb => absurd hb.1 (not_lt.mpr h)
  · next h =>
    rw [Option.some.injEq, and_iff_right (not_le.mp h)]
    exact eq_comm

/-- **Agreement**: the severity of the log line is that of the worst breach. -/
theorem resolveBacklogHealthSeverity_iff :
    (monitor.resolveBacklogHealthSeverity health = .critical ↔
        ∃ b ∈ monitor.breaches health, b.severity = .critical) ∧
      (monitor.resolveBacklogHealthSeverity health = .info ↔ monitor.breaches health = []) := by
  have hages : (∃ b ∈ monitor.breaches health, b.severity = .critical) ↔
      (monitor.thresholdByState health).any isCritical = true ∨
        monitor.deadThreshold < health.deadCount ∧ monitor.appEnv = "prod" := by
    rw [List.any_eq_true]
    constructor
    · rintro ⟨b, hb, hcritical⟩
      rcases (monitor.mem_breaches health).mp hb with ⟨e, he, hbreach⟩ | hdead
      · exact .inl ⟨e, he, (ageBreach_critical_iff e).mp ⟨b, hbreach, hcritical⟩⟩
      · obtain ⟨hmore, rfl⟩ := (monitor.deadBreach_iff health).mp hdead
        refine .inr ⟨hmore, ?_⟩
        by_contra hprod
        simp [hprod] at hcritical
    · rintro (⟨e, he, hcritical⟩ | ⟨hmore, hprod⟩)
      · obtain ⟨b, hbreach, hb⟩ := (ageBreach_critical_iff e).mpr hcritical
        exact ⟨b, (monitor.mem_breaches health).mpr (.inl ⟨e, he, hbreach⟩), hb⟩
      · exact ⟨_, (monitor.mem_breaches health).mpr (.inr ((monitor.deadBreach_iff health).mpr
          ⟨hmore, rfl⟩)), if_pos hprod⟩
  have hnone : monitor.breaches health = [] ↔
      (monitor.thresholdByState health).any isCritical = false ∧
        (monitor.thresholdByState health).any isWarning = false ∧
        ¬ monitor.deadThreshold < health.deadCount := by
    rw [List.any_eq_false, List.any_eq_false, List.eq_nil_iff_forall_not_mem]
    constructor
    · intro hempty
      refine ⟨fun e he hcritical => ?_, fun e he hwarning => ?_, fun hmore => ?_⟩
      · obtain ⟨b, hb⟩ := (ageBreach_isSome_iff e).mpr (.inl hcritical)
        exact hempty b ((monitor.mem_breaches health).mpr (.inl ⟨e, he, hb⟩))
      · obtain ⟨b, hb⟩ := (ageBreach_isSome_iff e).mpr (.inr hwarning)
        exact hempty b ((monitor.mem_breaches health).mpr (.inl ⟨e, he, hb⟩))
      · exact hempty _ ((monitor.mem_breaches health).mpr (.inr ((monitor.deadBreach_iff health).mpr
          ⟨hmore, rfl⟩)))
    · rintro ⟨hcritical, hwarning, hless⟩ b hb
      rcases (monitor.mem_breaches health).mp hb with ⟨e, he, hbreach⟩ | hdead
      · rcases (ageBreach_isSome_iff e).mp ⟨b, hbreach⟩ with h | h
        · exact hcritical e he h
        · exact hwarning e he h
      · exact hless ((monitor.deadBreach_iff health).mp hdead).1
  rw [hages, hnone, resolveBacklogHealthSeverity, walkAges_eq]
  cases hcritical : (monitor.thresholdByState health).any isCritical with
  | true => simp
  | false =>
    cases hwarning : (monitor.thresholdByState health).any isWarning with
    | true =>
      by_cases hmore : monitor.deadThreshold < health.deadCount
      · by_cases hprod : monitor.appEnv = "prod" <;> simp [hmore, hprod]
      · simp [hmore]
    | false =>
      by_cases hmore : monitor.deadThreshold < health.deadCount
      · by_cases hprod : monitor.appEnv = "prod" <;> simp [hmore, hprod]
      · simp [hmore]

/-! ## The events -/

variable {monitor health}

/-- An alert says what its breach says. -/
structure ForBreach (alert : OperationalAlertEvaluation) (breach : ThresholdBreach) : Prop where
  /-- the severity is the same -/
  severity : alert.severity = breach.severity
  /-- and the value -/
  observed : alert.observedValue = breach.actualValue
  /-- and the threshold -/
  threshold : alert.thresholdValue = some breach.thresholdValue

/-- What some events say: these breaches, and alerts of no others. -/
structure Reports (events : List BacklogEvent) (breaches : List ThresholdBreach) : Prop where
  /-- the breaches, in order -/
  inOrder : events.filterMap BacklogEvent.breach? = breaches
  /-- an alert is for one of them -/
  alerts : ∀ alert breach, .operationalAlert alert breach ∈ events →
    breach ∈ breaches ∧ ForBreach alert breach

theorem Reports.nil : Reports [] [] := ⟨rfl, fun _ _ h => by cases h⟩

theorem Reports.append {events events' : List BacklogEvent} {breaches breaches' : List ThresholdBreach}
    (h : Reports events breaches) (h' : Reports events' breaches') :
    Reports (events ++ events') (breaches ++ breaches') where
  inOrder := by rw [List.filterMap_append, h.inOrder, h'.inOrder]
  alerts alert breach hmem := by
    rcases List.mem_append.mp hmem with hmem | hmem
    · obtain ⟨hbreach, hfor⟩ := h.alerts alert breach hmem
      exact ⟨List.mem_append_left _ hbreach, hfor⟩
    · obtain ⟨hbreach, hfor⟩ := h'.alerts alert breach hmem
      exact ⟨List.mem_append_right _ hbreach, hfor⟩

/-- An event of a breach, and the alert for it if there is one. -/
theorem Reports.single {breach : ThresholdBreach} (alert : Option OperationalAlertEvaluation)
    (h : ∀ a ∈ alert, ForBreach a breach) :
    Reports (.thresholdBreach breach :: (alert.map (.operationalAlert · breach)).toList) [breach] where
  inOrder := by
    cases alert with
    | none => rfl
    | some a => rfl
  alerts a b hmem := by
    cases alert with
    | none => simp at hmem
    | some a' =>
      simp only [Option.map_some, Option.toList_some, List.mem_cons, List.not_mem_nil, or_false,
        reduceCtorEq, false_or, BacklogEvent.operationalAlert.injEq] at hmem
      obtain ⟨rfl, rfl⟩ := hmem
      exact ⟨List.mem_singleton_self _, h a rfl⟩

/-- One age, of a status that has rules: its breach, and the alert of that. -/
theorem emitStateAge_reports {state : OutboxState} (hstate : state = .pendingObject ∨ state = .ready ∨
    state = .retry) (actualAge : ℚ) (threshold : OutboxStateAgeThreshold) :
    ∃ events, monitor.emitStateAge state actualAge threshold = .ok events ∧
      Reports events (ageBreach state actualAge threshold).toList := by
  have hgroup : ∀ policy, ∃ rules, OperationalAlertEvaluator.outboxRuleGroupForState policy state =
      .ok rules := by
    rcases hstate with rfl | rfl | rfl
    · exact fun policy => ⟨_, rfl⟩
    · exact fun policy => ⟨_, rfl⟩
    · exact fun policy => ⟨_, rfl⟩
  have heq := ageBreach_eq state actualAge threshold
  unfold emitStateAge
  cases hbreach : ageBreach state actualAge threshold with
  | none => exact ⟨[], rfl, .nil⟩
  | some breach =>
    cases monitor.alertEvaluator with
    | none => exact ⟨_, rfl, Reports.single none fun a h => by cases h⟩
    | some evaluator =>
      obtain ⟨policy, appEnv⟩ := evaluator
      obtain ⟨rules, hrules⟩ := hgroup policy
      rw [hbreach] at heq
      obtain ⟨severity, hseverity, hmap⟩ := Option.bind_eq_some_iff.mp heq.symm
      obtain ⟨value, hvalue, rfl⟩ := Option.map_eq_some_iff.mp hmap
      simp only [OperationalAlertEvaluator.evaluateOutboxStateAge, hseverity, hrules,
        Except.ok_bind]
      cases hrule : rules.ruleForSeverity severity with
      | none => exact ⟨_, rfl, Reports.single none fun a h => by cases h⟩
      | some rule =>
        have hsame := RuleBySeverity.severity_of_ruleForSeverity hrule
        simp only [buildEvaluation_eq_ok hsame]
        refine ⟨_, rfl, Reports.single (some _) fun a h => ?_⟩
        obtain rfl := Option.some.inj h
        exact ⟨hsame, rfl, hvalue⟩

/-- The dead rows: their breach, and the alert of that. -/
theorem emitDead_reports (henv : ∀ policy env, monitor.alertEvaluator = some (policy, env) →
    (env = .prod ↔ monitor.appEnv = "prod")) :
    ∃ events, monitor.emitDeadCountThresholdBreach health = .ok events ∧
      Reports events (monitor.deadBreach health).toList := by
  unfold emitDeadCountThresholdBreach
  cases hbreach : monitor.deadBreach health with
  | none => exact ⟨[], rfl, .nil⟩
  | some breach =>
    obtain ⟨hmore, rfl⟩ := (monitor.deadBreach_iff health).mp hbreach
    have hmanual : ∀ alert : Option OperationalAlertEvaluation, ∀ breach : ThresholdBreach,
        (∀ a ∈ alert, ForBreach a breach) →
        Reports ([.thresholdBreach breach, .deadManualResolutionRequired health.deadCount] ++
          (alert.map (.operationalAlert · breach)).toList) [breach] := by
      intro alert breach hfor
      obtain ⟨hbreaches, halerts⟩ := Reports.single alert hfor
      refine ⟨hbreaches, fun a b hmem => halerts a b ?_⟩
      simpa using hmem
    cases hevaluator : monitor.alertEvaluator with
    | none =>
      refine ⟨_, rfl, ?_⟩
      simpa using hmanual none _ (fun a h => by cases h)
    | some evaluator =>
      obtain ⟨policy, appEnv⟩ := evaluator
      have hprod := henv policy appEnv hevaluator
      simp only [OperationalAlertEvaluator.evaluateOutboxDeadCount, if_neg (not_le.mpr hmore)]
      cases hrule : policy.outbox.deadCount.ruleForSeverity
        (if appEnv = .prod then AlertSeverity.critical else .warning) with
      | none => exact ⟨_, rfl, hmanual none _ fun a h => by cases h⟩
      | some rule =>
        have hsame := RuleBySeverity.severity_of_ruleForSeverity hrule
        simp only [buildEvaluation_eq_ok hsame]
        refine ⟨_, rfl, hmanual (some _) _ fun a h => ?_⟩
        obtain rfl := Option.some.inj h
        refine ⟨?_, rfl, rfl⟩
        simp only [AlertRuleDescriptor.evaluation, hsame, hprod]

/-- All ages. -/
theorem emitStateAges_reports : ∃ events, monitor.emitStateAgeThresholdBreaches health = .ok events ∧
    Reports events ((monitor.thresholdByState health).filterMap fun (state, actualAge, threshold) =>
      ageBreach state actualAge threshold) := by
  have hstates : ∀ e ∈ monitor.thresholdByState health,
      e.1 = .pendingObject ∨ e.1 = .ready ∨ e.1 = .retry := by
    simp [thresholdByState]
  unfold emitStateAgeThresholdBreaches
  generalize monitor.thresholdByState health = ages at hstates ⊢
  induction ages with
  | nil => exact ⟨[], rfl, .nil⟩
  | cons e ages ih =>
    obtain ⟨events, hevents, hreports⟩ := @emitStateAge_reports monitor e.1
      (hstates e List.mem_cons_self) e.2.1 e.2.2
    obtain ⟨rest, hrest, hreportsRest⟩ := ih fun e' he' => hstates e' (List.mem_cons_of_mem e he')
    obtain ⟨lists, hlists, hpure⟩ := Except.bind_eq_ok.mp hrest
    obtain rfl := Except.pure_eq_ok.mp hpure
    refine ⟨events ++ lists.flatten, ?_, ?_⟩
    · simp [hevents, hlists, pure, Except.pure]
    · have hall := hreports.append hreportsRest
      rw [List.filterMap_cons]
      cases hbreach : ageBreach e.1 e.2.1 e.2.2 with
      | none => simpa [hbreach] using hall
      | some b => simpa [hbreach] using hall

/-! ## The backlog -/

/-- The thresholds of a status, if its age is watched. -/
def thresholdsOf (monitor : BacklogMonitor) : OutboxState → Option OutboxStateAgeThreshold
  | .pendingObject => some monitor.policy.stateAgeThresholds.pendingObject
  | .ready => some monitor.policy.stateAgeThresholds.ready
  | .retry => some monitor.policy.stateAgeThresholds.retry
  | .sent => none
  | .dead => none

/-- The ages that are compared are those of the statuses that are watched. -/
theorem mem_thresholdByState {e : OutboxState × ℚ × OutboxStateAgeThreshold} :
    e ∈ monitor.thresholdByState health ↔
      monitor.thresholdsOf e.1 = some e.2.2 ∧ e.2.1 = health.oldestAge e.1 := by
  obtain ⟨state, actualAge, threshold⟩ := e
  cases state <;>
    simp [thresholdByState, thresholdsOf, OutboxHealthSnapshot.oldestAge, and_comm, eq_comm]

theorem state_of_ageBreach {e : OutboxState × ℚ × OutboxStateAgeThreshold} {b : ThresholdBreach}
    (h : ageBreach e.1 e.2.1 e.2.2 = some b) : b.state = e.1 := by
  rw [ageBreach_eq] at h
  obtain ⟨severity, -, h⟩ := Option.bind_eq_some_iff.mp h
  obtain ⟨value, -, rfl⟩ := Option.map_eq_some_iff.mp h
  rfl

/-- A breach of a watched status is the breach of its age. -/
theorem mem_breaches_of_watched {state : OutboxState} {thresholds : OutboxStateAgeThreshold}
    (hwatched : monitor.thresholdsOf state = some thresholds) {b : ThresholdBreach} :
    (b ∈ monitor.breaches health ∧ b.state = state) ↔
      ageBreach state (health.oldestAge state) thresholds = some b := by
  rw [mem_breaches]
  constructor
  · rintro ⟨⟨e, he, hbreach⟩ | hdead, hstate⟩
    · obtain ⟨hthresholds, hage⟩ := mem_thresholdByState.mp he
      obtain rfl := (state_of_ageBreach hbreach).symm.trans hstate
      rw [hwatched] at hthresholds
      rwa [hage, ← Option.some.inj hthresholds] at hbreach
    · obtain ⟨-, rfl⟩ := (monitor.deadBreach_iff health).mp hdead
      obtain rfl : OutboxState.dead = state := hstate
      cases hwatched
  · intro h
    refine ⟨.inl ⟨(state, health.oldestAge state, thresholds), ?_, h⟩,
      @state_of_ageBreach (state, health.oldestAge state, thresholds) b h⟩
    exact mem_thresholdByState.mpr ⟨hwatched, rfl⟩

/-- What the breaches of a poll say of the table. -/
structure Exact (monitor : BacklogMonitor) (rows : List OutboxRecord) (now : Instant)
    (breaches : List ThresholdBreach) : Prop where
  /-- a critical breach of a status: some row of it is older than the critical threshold -/
  critical : ∀ state thresholds, monitor.thresholdsOf state = some thresholds →
    ((∃ b ∈ breaches, b.state = state ∧ b.severity = .critical) ↔
      ∃ row ∈ rows, row.status = state ∧ thresholds.critical < row.ageSeconds now)
  /-- any breach of a status: some row of it is older than one of the thresholds -/
  any : ∀ state thresholds, monitor.thresholdsOf state = some thresholds →
    ((∃ b ∈ breaches, b.state = state) ↔
      ∃ row ∈ rows, row.status = state ∧ ∃ bound,
        (bound = thresholds.critical ∨ thresholds.warning = some bound) ∧
          bound < row.ageSeconds now)
  /-- a breach of the dead rows: there are more than allowed -/
  dead : (∃ b ∈ breaches, b.state = .dead) ↔
    monitor.deadThreshold < rows.countP fun row => decide (row.status = .dead)

/-- The breaches of a snapshot say what the table holds. -/
theorem exact_breaches {rows : List OutboxRecord} {now : Instant} (h : health.Of now rows) :
    Exact monitor rows now (monitor.breaches health) where
  critical state thresholds hwatched := by
    have hsent : state ≠ .sent := by
      rintro rfl
      cases hwatched
    rw [← h.lt_oldestAge_iff hsent thresholds.critical_nonneg]
    have hage := ageBreach_critical_iff (state, health.oldestAge state, thresholds)
    rw [isCritical, decide_eq_true_iff] at hage
    rw [← hage]
    constructor
    · rintro ⟨b, hb, hstate, hcritical⟩
      exact ⟨b, (mem_breaches_of_watched hwatched).mp ⟨hb, hstate⟩, hcritical⟩
    · rintro ⟨b, hb, hcritical⟩
      obtain ⟨hmem, hstate⟩ := (mem_breaches_of_watched hwatched).mpr hb
      exact ⟨b, hmem, hstate, hcritical⟩
  any state thresholds hwatched := by
    have hsent : state ≠ .sent := by
      rintro rfl
      cases hwatched
    have hage := ageBreach_isSome_iff (state, health.oldestAge state, thresholds)
    constructor
    · rintro ⟨b, hb, hstate⟩
      rcases hage.mp ⟨b, (mem_breaches_of_watched hwatched).mp ⟨hb, hstate⟩⟩ with hlt | hlt
      · rw [isCritical, decide_eq_true_iff] at hlt
        obtain ⟨row, hrow, hstatus, hlt⟩ := (h.lt_oldestAge_iff hsent thresholds.critical_nonneg).mp hlt
        exact ⟨row, hrow, hstatus, _, .inl rfl, hlt⟩
      · obtain ⟨bound, hbound, hlt⟩ := (Option.any_eq_true _ _).mp hlt
        obtain ⟨row, hrow, hstatus, hlt⟩ := (h.lt_oldestAge_iff hsent
          (thresholds.warning_nonneg bound hbound)).mp (of_decide_eq_true hlt)
        exact ⟨row, hrow, hstatus, bound, .inr hbound, hlt⟩
    · rintro ⟨row, hrow, hstatus, bound, rfl | hbound, hlt⟩
      · obtain ⟨b, hb⟩ := hage.mpr (.inl (decide_eq_true
          ((h.lt_oldestAge_iff hsent thresholds.critical_nonneg).mpr ⟨row, hrow, hstatus, hlt⟩)))
        exact ⟨b, (mem_breaches_of_watched hwatched).mpr hb⟩
      · obtain ⟨b, hb⟩ := hage.mpr (.inr ((Option.any_eq_true _ _).mpr ⟨bound, hbound, decide_eq_true
          ((h.lt_oldestAge_iff hsent (thresholds.warning_nonneg bound hbound)).mpr
            ⟨row, hrow, hstatus, hlt⟩)⟩))
        exact ⟨b, (mem_breaches_of_watched hwatched).mpr hb⟩
  dead := by
    rw [← h.count .dead]
    constructor
    · rintro ⟨b, hb, hstate⟩
      rcases (monitor.mem_breaches health).mp hb with ⟨e, he, hbreach⟩ | hdead
      · obtain ⟨hthresholds, -⟩ := mem_thresholdByState.mp he
        rw [← state_of_ageBreach hbreach, hstate] at hthresholds
        cases hthresholds
      · exact ((monitor.deadBreach_iff health).mp hdead).1
    · intro hmore
      exact ⟨_, (monitor.mem_breaches health).mpr (.inr ((monitor.deadBreach_iff health).mpr
        ⟨hmore, rfl⟩)), rfl⟩

/-- **Backlog**: a poll never raises over the backlog, whatever the table holds. Its breach events
say exactly which statuses hold rows older than their thresholds and whether there are too many dead
rows; the severity of its log line is that of the worst breach, and every alert is for one of the
breaches and says the same. -/
theorem backlog_severity_exact (monitor : BacklogMonitor) (table : OutboxTable) (now : Instant)
    (henv : ∀ policy env, monitor.alertEvaluator = some (policy, env) →
      (env = .prod ↔ monitor.appEnv = "prod")) :
    ∃ severity events breaches,
      monitor.emitBacklogHealthLogs table (.aware now) = .ok (severity, events) ∧
      Reports events breaches ∧ Exact monitor (table.entries.map Prod.snd) now breaches ∧
      (severity = .critical ↔ ∃ b ∈ breaches, b.severity = .critical) ∧
      (severity = .info ↔ breaches = []) := by
  obtain ⟨health, hhealth⟩ : ∃ health, selectBacklogHealth table (.aware now) = .ok health :=
    ⟨_, rfl⟩
  obtain ⟨ages, hages, hagesReport⟩ := @emitStateAges_reports monitor health
  obtain ⟨dead, hdead, hdeadReport⟩ := @emitDead_reports monitor health henv
  obtain ⟨hcritical, hinfo⟩ := monitor.resolveBacklogHealthSeverity_iff health
  refine ⟨monitor.resolveBacklogHealthSeverity health, ages ++ dead, monitor.breaches health, ?_,
    hagesReport.append hdeadReport, exact_breaches (OutboxHealthSnapshot.of_selectBacklogHealth hhealth), hcritical,
    hinfo⟩
  simp [emitBacklogHealthLogs, hhealth, hages, hdead, pure, Except.pure]

/-! ## A backlog -/

/-- The numbers of `config/policies/outbox-policy-v1.yaml` are in order. -/
theorem outboxThresholds_ordered : ((0 : ℚ) ≤ 300 ∧ (300 : ℚ) < 900) ∧
    ((0 : ℚ) ≤ 120 ∧ (120 : ℚ) < 600) ∧ (0 : ℚ) ≤ 1800 := by norm_num

/-- The thresholds of that policy. -/
def outboxBacklogPolicy : OutboxBacklogPolicy where
  stateAgeThresholds := {
    pendingObject := .pair 300 900 outboxThresholds_ordered.1
    ready := .pair 120 600 outboxThresholds_ordered.2.1
    retry := .criticalOnly 1800 outboxThresholds_ordered.2.2 }
  deadCountCriticalThreshold := .ofPairs [("local", 0), ("dev", 0), ("uat", 0), ("prod", 0)]

/-- A worker in production, with an evaluator. -/
def prodMonitor : BacklogMonitor :=
  ⟨outboxBacklogPolicy, "prod", some (operationalAlertPolicyV1, .prod)⟩

/-- Two rows that are ready since New Year, and one that is dead. -/
def twoReadyOneDead : OutboxTable :=
  OutboxWorker.twoReady.set "case-3"
    { OutboxWorker.readySince "case-3" "cases/case-3/triage.json" with status := .dead }

/-- What is said of them. -/
def twoReadyOneDeadHeadlines : List (String × Option OutboxState × Option AlertSeverity) :=
  [("breach", some .ready, some .critical),
    ("ALERT_OUTBOX_READY_AGE_CRITICAL", none, some .critical),
    ("breach", some .dead, some .critical), ("manual", none, none),
    ("ALERT_OUTBOX_DEAD_COUNT_CRITICAL", none, some .critical)]

/-- Ten minutes and a second after New Year the ready rows and the dead one are critical, and both
have their alerts. -/
theorem backlog_severity_exact_two :
    ∃ events breaches,
      prodMonitor.emitBacklogHealthLogs twoReadyOneDead (.aware (newYear2026 + 601000000)) =
        .ok (.critical, events) ∧
      Reports events breaches ∧
      Exact prodMonitor (twoReadyOneDead.entries.map Prod.snd) (newYear2026 + 601000000) breaches ∧
      events.map BacklogEvent.headline = twoReadyOneDeadHeadlines := by
  have hlogs : (prodMonitor.emitBacklogHealthLogs twoReadyOneDead
      (.aware (newYear2026 + 601000000))).toOption.map
        (fun logs => (logs.1, logs.2.map BacklogEvent.headline)) =
      some (.critical, twoReadyOneDeadHeadlines) := by
    decide +kernel
  obtain ⟨severity, events, breaches, hrun, hreports, hexact, -, -⟩ :=
    backlog_severity_exact prodMonitor twoReadyOneDead (newYear2026 + 601000000) fun policy env h => by
      cases h
      exact iff_of_true rfl rfl
  rw [hrun] at hlogs
  obtain ⟨rfl, hevents⟩ := Prod.mk.inj (Option.some.inj hlogs)
  exact ⟨events, breaches, hrun, hreports, hexact, hevents⟩

end BacklogMonitor

end AiopsTriage
