import AiopsTriage.Health.Registry
import AiopsTriage.Lib.Latch
import AiopsTriage.Stages.Outputs

/-!
# Degraded mode

An evidence cycle asks Prometheus for every metric. When every query fails, Prometheus itself is
down (`EvidenceCycle.TotalOutage`): the cycle marks it unavailable in the health registry, and the
next cycle in which a query is answered marks it healthy again. The redis status follows the health
of the dedupe store in the same way.

So the registry latches what was last seen, and events are emitted where it changes: one at the
start of each maximal outage and one after it, and for redis one at the start of each maximal
unhealthy run, unless the registry had it degraded before the first observation
(`degraded_events_edge_triggered`).
-/

namespace AiopsTriage

/-! ## Collecting samples -/

/-- What comes of the query of a metric. -/
inductive QueryOutcome where
  /-- samples -/
  | samples (items : List Json)
  /-- one of `_PROMETHEUS_SOURCE_FAILURES`, with its class and text -/
  | sourceFailure (errorClass message : String)
  /-- a `ValueError`, with its class and text -/
  | valueError (errorClass message : String)
  /-- any other exception -/
  | raised (e : Failure)

/-- `_is_prometheus_non_success_api_error`. -/
def isPrometheusNonSuccessApiError (message : String) : Bool :=
  "Prometheus query failed for ".toList.isPrefixOf message.toList

/-- A query counts as failed when the source does not answer, or answers with no success. -/
def QueryOutcome.isOutage : QueryOutcome → Bool
  | .sourceFailure _ _ => true
  | .valueError _ message => isPrometheusNonSuccessApiError message
  | _ => false

/-- What the loop over the queries has collected. -/
structure CollectedSamples where
  /-- `collected` -/
  samplesByMetric : Dict String (List Json) := .empty
  /-- `failed_metric_keys`, each with its entry in `failure_reasons_by_metric` -/
  failures : List (String × String) := []

/-- One turn of the loop. -/
def CollectedSamples.add (collected : CollectedSamples) (metricKey : String) :
    QueryOutcome → Except Failure CollectedSamples
  | .samples items =>
    .ok { collected with samplesByMetric := collected.samplesByMetric.set metricKey items }
  | .sourceFailure errorClass message =>
    .ok { samplesByMetric := collected.samplesByMetric.set metricKey []
          failures := collected.failures ++ [(metricKey, s!"{errorClass}: {message}")] }
  | .valueError errorClass message =>
    .ok { samplesByMetric := collected.samplesByMetric.set metricKey []
          failures := if isPrometheusNonSuccessApiError message
            then collected.failures ++ [(metricKey, s!"{errorClass}: {message}")]
            else collected.failures }
  | .raised e => .error e

/-- `PrometheusCollectionDiagnostics`. -/
structure PrometheusCollectionDiagnostics where
  /-- the samples, none of a metric whose query failed -/
  samplesByMetric : Dict String (List Json)
  /-- the metrics whose query failed -/
  failedMetricKeys : List String
  /-- whether every query failed -/
  isTotalOutage : Bool
  /-- why -/
  outageReason : Option String

/-- The reason of a total outage: the number of metrics, and the first of them with its failure. -/
def outageText (metrics : ℕ) (metricKey reason : String) : String :=
  PyText.join "" ["Prometheus source unavailable across all ", toString metrics,
    " configured metrics; first failure [", metricKey, "]: ", reason]

/-- `collect_prometheus_samples_with_diagnostics`. -/
def collectPrometheusSamplesWithDiagnostics (metricQueries : Dict String QueryOutcome) :
    Except Failure PrometheusCollectionDiagnostics := do
  let collected ← metricQueries.entries.foldlM (fun (c : CollectedSamples) e => c.add e.1 e.2) {}
  let isTotalOutage := !metricQueries.entries.isEmpty &&
    collected.failures.length == metricQueries.entries.length
  return {
    isTotalOutage
    samplesByMetric := collected.samplesByMetric
    failedMetricKeys := collected.failures.map Prod.fst
    outageReason := if isTotalOutage
      then collected.failures.head?.map fun first =>
        outageText metricQueries.entries.length first.1 first.2
      else none }

/-! ## Evidence cycles -/

/-- `recovery_status`. -/
inductive RecoveryStatus where
  /-- the outage goes on -/
  | pending
  /-- it is over -/
  | resolved
  deriving DecidableEq, Repr

/-- `severity` of an event. -/
inductive EventSeverity where
  /-- for information -/
  | info
  /-- a warning -/
  | warning
  /-- critical -/
  | critical
  deriving DecidableEq, Repr

/-- `TelemetryDegradedEvent`. -/
structure TelemetryDegradedEvent where
  /-- who emits it -/
  component : String := "scheduler"
  /-- how serious it is -/
  severity : EventSeverity
  /-- what it is about -/
  affectedScope : String := "prometheus"
  /-- why -/
  reason : String
  /-- whether the outage goes on -/
  recoveryStatus : RecoveryStatus
  /-- when -/
  timestamp : Instant
  deriving DecidableEq, Repr

/-- One scheduled cycle: the queries with what comes of them, and when it runs. -/
structure EvidenceCycle where
  /-- the queries by metric key -/
  metricQueries : Dict String QueryOutcome
  /-- when the cycle runs -/
  evaluationTime : Instant

/-- Every query of the cycle fails, and there is one. -/
def EvidenceCycle.TotalOutage (cycle : EvidenceCycle) : Prop :=
  cycle.metricQueries.entries ≠ [] ∧ ∀ e ∈ cycle.metricQueries.entries, e.2.isOutage = true

/-- `text or default`. -/
def textOr (text : Option String) (default : String) : String :=
  match text with
  | some s => if s = "" then default else s
  | none => default

/-- The event at the start of an outage. -/
def pendingEvent (outageReason : Option String) (evaluationTime : Instant) :
    TelemetryDegradedEvent where
  severity := .warning
  reason := textOr outageReason "Prometheus source unavailable across the full query set"
  recoveryStatus := .pending
  timestamp := evaluationTime

/-- The event after an outage. -/
def resolvedEvent (evaluationTime : Instant) : TelemetryDegradedEvent where
  severity := .info
  reason := "Prometheus connectivity restored; resuming normal evaluation"
  recoveryStatus := .resolved
  timestamp := evaluationTime

/-- `EvidenceStageOutput` with its events. -/
structure EvidenceStageResult extends EvidenceStageOutput where
  /-- what the cycle emits -/
  telemetryDegradedEvents : List TelemetryDegradedEvent

/-- What the stage makes of samples at a time: rows, findings and statuses. -/
abbrev DeriveEvidence := Dict String (List Json) → Instant → Except Failure EvidenceStageOutput

/-- `run_evidence_stage_cycle`. -/
def runEvidenceStageCycle (derive : DeriveEvidence) (registry : HealthRegistry)
    (cycle : EvidenceCycle) : Except Failure EvidenceStageResult × HealthRegistry :=
  match collectPrometheusSamplesWithDiagnostics cycle.metricQueries with
  | .error e => (.error e, registry)
  | .ok diagnostics =>
    let previous := registry.get "prometheus"
    let (registry, events) :=
      if diagnostics.isTotalOutage then
        if previous ≠ some .unavailable then
          (registry.update "prometheus" .unavailable diagnostics.outageReason,
            [pendingEvent diagnostics.outageReason cycle.evaluationTime])
        else (registry, [])
      else if previous = some .unavailable then
        (registry.update "prometheus" .healthy, [resolvedEvent cycle.evaluationTime])
      else (registry, [])
    -- whatever `collect_evidence_stage_output` then does, the registry is updated
    (do
      let output ← derive diagnostics.samplesByMetric cycle.evaluationTime
      return {
        output with
        telemetryDegradedActive := diagnostics.isTotalOutage
        telemetryDegradedEvents := events
        maxSafeAction := if diagnostics.isTotalOutage then some .notify else none }, registry)

/-! ## Redis -/

/-- What is seen of a dedupe store: `is_healthy` and `last_error`, and when. -/
structure RedisObservation where
  /-- whether the store works -/
  isHealthy : Bool
  /-- its last error -/
  lastError : Option String
  /-- when it is looked at -/
  evaluationTime : Instant
  deriving DecidableEq, Repr

/-- `DegradedModeEvent`. -/
structure DegradedModeEvent where
  /-- what degraded -/
  affectedScope : String
  /-- why -/
  reason : String
  /-- the most that is done then -/
  cappedActionLevel : String
  /-- how long it may last -/
  estimatedImpactWindow : Option String
  /-- when -/
  timestamp : Instant
  deriving DecidableEq, Repr

/-- The event of an unhealthy store. -/
def redisDegradedEvent (observation : RedisObservation) : DegradedModeEvent where
  affectedScope := "redis"
  reason := textOr observation.lastError "Redis dedupe store unavailable"
  cappedActionLevel := "NOTIFY-only"
  estimatedImpactWindow := some "unknown"
  timestamp := observation.evaluationTime

/-- `is_degraded`. -/
def HealthRegistry.IsDegraded (registry : HealthRegistry) (component : String) : Prop :=
  registry.get component = some .degraded ∨ registry.get component = some .unavailable

instance (registry : HealthRegistry) (component : String) :
    Decidable (registry.IsDegraded component) :=
  inferInstanceAs (Decidable (_ ∨ _))

/-- `emit_redis_degraded_mode_events`, without an observation when the store tells none. -/
def emitRedisDegradedModeEvents (registry : HealthRegistry)
    (dedupeStore : Option RedisObservation) : List DegradedModeEvent × HealthRegistry :=
  match dedupeStore with
  | none => ([], registry)
  | some observation =>
    if observation.isHealthy = false then
      if ¬ registry.IsDegraded "redis" then
        ([redisDegradedEvent observation],
          registry.update "redis" .degraded observation.lastError)
      else ([], registry)
    else if registry.IsDegraded "redis" then ([], registry.update "redis" .healthy)
    else ([], registry)

/-! ## One step -/

theorem add_failures {c c' : CollectedSamples} {metricKey : String} {outcome : QueryOutcome}
    (h : c.add metricKey outcome = .ok c') :
    c'.failures.length = c.failures.length + if outcome.isOutage then 1 else 0 := by
  cases outcome with
  | samples items => cases h; rfl
  | sourceFailure errorClass message => cases h; simp [QueryOutcome.isOutage]
  | valueError errorClass message =>
    cases h
    simp only [QueryOutcome.isOutage]
    split
    · next houtage => simp [houtage]
    · next hanswer => simp [hanswer]
  | raised e => cases h

/-- The loop counts the queries that fail. -/
theorem foldlM_add_failures {entries : List (String × QueryOutcome)} {c c' : CollectedSamples}
    (h : entries.foldlM (fun (c : CollectedSamples) e => c.add e.1 e.2) c = .ok c') :
    c'.failures.length = c.failures.length + (entries.filter fun e => e.2.isOutage).length := by
  induction entries generalizing c with
  | nil =>
    cases h
    rfl
  | cons e entries ih =>
    rw [List.foldlM_cons] at h
    obtain ⟨next, hnext, hrest⟩ := Except.bind_eq_ok.mp h
    rw [ih hrest, add_failures hnext, List.filter_cons]
    split
    · rw [List.length_cons]
      omega
    · rfl

/-- A total outage is one in which every query fails. -/
theorem isTotalOutage_iff {cycle : EvidenceCycle} {diagnostics : PrometheusCollectionDiagnostics}
    (h : collectPrometheusSamplesWithDiagnostics cycle.metricQueries = .ok diagnostics) :
    diagnostics.isTotalOutage = true ↔ cycle.TotalOutage := by
  obtain ⟨collected, hcollected, h⟩ := Except.bind_eq_ok.mp h
  rw [Except.pure_eq_ok] at h
  subst h
  have hcount := foldlM_add_failures hcollected
  rw [Bool.and_eq_true, Bool.not_eq_true', List.isEmpty_eq_false_iff, beq_iff_eq, hcount]
  refine and_congr_right fun _ => ?_
  rw [show ({} : CollectedSamples).failures.length = 0 from rfl, Nat.zero_add,
    List.length_filter_eq_length_iff]

/-- **One evidence cycle** that completes: it marks Prometheus unavailable in the registry exactly
in an outage, and emits the event of the change, if there is one. -/
theorem runEvidenceStageCycle_spec {derive : DeriveEvidence} {registry : HealthRegistry}
    {cycle : EvidenceCycle} {result : EvidenceStageResult}
    (h : (runEvidenceStageCycle derive registry cycle).1 = .ok result) :
    ((runEvidenceStageCycle derive registry cycle).2.get "prometheus" = some .unavailable ↔
        cycle.TotalOutage) ∧
      ∃ diagnostics, collectPrometheusSamplesWithDiagnostics cycle.metricQueries = .ok diagnostics ∧
        (cycle.TotalOutage → registry.get "prometheus" ≠ some .unavailable →
          result.telemetryDegradedEvents =
            [pendingEvent diagnostics.outageReason cycle.evaluationTime]) ∧
        (¬ cycle.TotalOutage → registry.get "prometheus" = some .unavailable →
          result.telemetryDegradedEvents = [resolvedEvent cycle.evaluationTime]) ∧
        ((cycle.TotalOutage ↔ registry.get "prometheus" = some .unavailable) →
          result.telemetryDegradedEvents = []) := by
  unfold runEvidenceStageCycle at h ⊢
  cases hcollect : collectPrometheusSamplesWithDiagnostics cycle.metricQueries with
  | error e =>
    rw [hcollect] at h
    cases h
  | ok diagnostics =>
    rw [hcollect] at h
    have houtage := isTotalOutage_iff hcollect
    simp only at h ⊢
    obtain ⟨output, -, h⟩ := Except.bind_eq_ok.mp h
    rw [Except.pure_eq_ok] at h
    subst h
    rw [← houtage]
    simp only [Except.ok.injEq, exists_eq_left']
    by_cases hdown : diagnostics.isTotalOutage = true
    · by_cases hprevious : registry.get "prometheus" = some .unavailable
      · simp [hdown, hprevious]
      · simp [hdown, hprevious]
    · by_cases hprevious : registry.get "prometheus" = some .unavailable
      · simp [hdown, hprevious]
      · simp [hdown, hprevious]

@[simp] theorem isDegraded_update (registry : HealthRegistry) (component : String)
    (status : HealthStatus) (reason : Option String) :
    (registry.update component status reason).IsDegraded component ↔ status ≠ .healthy := by
  rw [HealthRegistry.IsDegraded, HealthRegistry.get_update, if_pos rfl]
  cases status <;> simp

/-- **One redis observation**: the registry has redis degraded afterwards exactly when the store
is unhealthy, and there is an event exactly when this is new. -/
theorem emitRedisDegradedModeEvents_spec (registry : HealthRegistry)
    (observation : RedisObservation) :
    ((emitRedisDegradedModeEvents registry (some observation)).2.IsDegraded "redis" ↔
        observation.isHealthy = false) ∧
      (observation.isHealthy = false → ¬ registry.IsDegraded "redis" →
        (emitRedisDegradedModeEvents registry (some observation)).1 =
          [redisDegradedEvent observation]) ∧
      (observation.isHealthy = true ∨ registry.IsDegraded "redis" →
        (emitRedisDegradedModeEvents registry (some observation)).1 = []) := by
  by_cases hhealthy : observation.isHealthy = false
  · by_cases hprevious : registry.IsDegraded "redis"
    · simp [emitRedisDegradedModeEvents, hhealthy, hprevious]
    · simp [emitRedisDegradedModeEvents, hhealthy, hprevious]
  · by_cases hprevious : registry.IsDegraded "redis"
    · simp [emitRedisDegradedModeEvents, hhealthy, hprevious]
    · simp [emitRedisDegradedModeEvents, hhealthy, hprevious]

/-! ## Runs -/

/-- The store is unhealthy. -/
def RedisObservation.Unhealthy (observation : RedisObservation) : Prop :=
  observation.isHealthy = false

/-- The answers of a run of evidence cycles on one registry. -/
def evidenceRun (derive : DeriveEvidence) (registry : HealthRegistry)
    (cycles : List EvidenceCycle) : List (Except Failure EvidenceStageResult) :=
  (Runs.trace (runEvidenceStageCycle derive) registry cycles).1

/-- The events of a run of redis observations on one registry. -/
def redisRun (registry : HealthRegistry) (observations : List RedisObservation) :
    List (List DegradedModeEvent) :=
  (Runs.trace (fun r o => emitRedisDegradedModeEvents r (some o)) registry observations).1

/-- The events of a run of completing cycles: a pending one at the start of each maximal outage,
a resolved one after it, and no other. -/
theorem evidenceRun_events {derive : DeriveEvidence} {registry : HealthRegistry}
    {cycles : List EvidenceCycle} (hstart : registry.get "prometheus" ≠ some .unavailable)
    (hcomplete : ∀ answer ∈ evidenceRun derive registry cycles, ∃ result, answer = .ok result)
    {i : ℕ} {cycle : EvidenceCycle} (hcycle : cycles[i]? = some cycle) :
    ∃ result diagnostics, (evidenceRun derive registry cycles)[i]? = some (.ok result) ∧
      collectPrometheusSamplesWithDiagnostics cycle.metricQueries = .ok diagnostics ∧
      ((∃ stop, Latch.MaximalRun EvidenceCycle.TotalOutage cycles i stop) →
        result.telemetryDegradedEvents =
          [pendingEvent diagnostics.outageReason cycle.evaluationTime]) ∧
      ((∃ start, Latch.MaximalRun EvidenceCycle.TotalOutage cycles start i) →
        result.telemetryDegradedEvents = [resolvedEvent cycle.evaluationTime]) ∧
      ((¬ ∃ stop, Latch.MaximalRun EvidenceCycle.TotalOutage cycles i stop) →
        (¬ ∃ start, Latch.MaximalRun EvidenceCycle.TotalOutage cycles start i) →
        result.telemetryDegradedEvents = []) := by
  obtain ⟨before, hanswer, hlatched⟩ := @Latch.trace_latch _ _ _ _ _ (runEvidenceStageCycle derive)
    (fun r : HealthRegistry => r.get "prometheus" = some .unavailable)
    (fun answer => ∃ result, answer = .ok result)
    (fun r c hgood => by
      obtain ⟨result, hresult⟩ := hgood
      exact (runEvidenceStageCycle_spec hresult).1)
    registry hcomplete _ _ hcycle
  obtain ⟨result, hresult⟩ := hcomplete _ (List.mem_of_getElem? hanswer)
  obtain ⟨-, diagnostics, hcollect, hpending, hresolved, hquiet⟩ :=
    runEvidenceStageCycle_spec hresult
  have hbefore : before.get "prometheus" = some .unavailable ↔
      Latch.Before EvidenceCycle.TotalOutage cycles i :=
    hlatched.trans (or_iff_right fun h => hstart h.2)
  rw [hresult] at hanswer
  refine ⟨result, diagnostics, hanswer, hcollect, ?_, ?_, ?_⟩
  · intro hstarts
    obtain ⟨hdown, hup⟩ := (Latch.starts_iff hcycle).mp hstarts
    exact hpending hdown fun h => hup (hbefore.mp h)
  · intro hfollows
    obtain ⟨hup, hdown⟩ := (Latch.follows_iff hcycle).mp hfollows
    exact hresolved hup (hbefore.mpr hdown)
  · rw [Latch.starts_iff hcycle, Latch.follows_iff hcycle, ← hbefore]
    intro hstarts hfollows
    refine hquiet ⟨fun h => ?_, fun h => ?_⟩
    · by_contra hnot
      exact hstarts ⟨h, hnot⟩
    · by_contra hnot
      exact hfollows ⟨hnot, h⟩

/-- The events of a run of redis observations: one at the start of each maximal unhealthy run that
does not go on from before, and no other. -/
theorem redisRun_events {registry : HealthRegistry} {observations : List RedisObservation} {i : ℕ}
    {observation : RedisObservation} (hobservation : observations[i]? = some observation) :
    ∃ events, (redisRun registry observations)[i]? = some events ∧
      ((∃ stop, Latch.MaximalRun RedisObservation.Unhealthy observations i stop) →
        ¬ (i = 0 ∧ registry.IsDegraded "redis") → events = [redisDegradedEvent observation]) ∧
      ((¬ ∃ stop, Latch.MaximalRun RedisObservation.Unhealthy observations i stop) ∨
        (i = 0 ∧ registry.IsDegraded "redis") → events = []) := by
  obtain ⟨before, hanswer, hlatched⟩ := @Latch.trace_latch _ _ _ _ _
    (fun r o => emitRedisDegradedModeEvents r (some o))
    (fun r : HealthRegistry => r.IsDegraded "redis") (fun _ => True)
    (fun r o _ => (emitRedisDegradedModeEvents_spec r o).1) registry (fun _ _ => trivial)
    _ _ hobservation
  obtain ⟨-, hevent, hquiet⟩ := emitRedisDegradedModeEvents_spec before observation
  refine ⟨_, hanswer, ?_, ?_⟩
  · intro hstarts hfresh
    obtain ⟨hdown, hup⟩ := (Latch.starts_iff hobservation).mp hstarts
    exact hevent hdown fun h => (hlatched.mp h).elim hfresh hup
  · rintro (hnot | hgoes)
    · refine hquiet ?_
      rw [Latch.starts_iff hobservation, not_and_or, not_not] at hnot
      rcases hnot with hhealthy | hdown
      · exact .inl (Bool.not_eq_false _ ▸ hhealthy)
      · exact .inr (hlatched.mpr (.inr hdown))
    · exact hquiet (.inr (hlatched.mpr (.inl hgoes)))

/-- **Degraded-mode events** are emitted at edges. A run of completing evidence cycles that does
not start with Prometheus unavailable emits one pending event at the start of each maximal outage,
one resolved event at the first cycle after it and none otherwise. A run of redis observations
emits one event at the start of each maximal unhealthy run, unless this is the start of the whole
run and the registry has redis degraded already, and none otherwise. -/
theorem degraded_events_edge_triggered :
    (∀ (derive : DeriveEvidence) (registry : HealthRegistry) (cycles : List EvidenceCycle),
      registry.get "prometheus" ≠ some .unavailable →
      (∀ answer ∈ evidenceRun derive registry cycles, ∃ result, answer = .ok result) →
      ∀ (i : ℕ) (cycle : EvidenceCycle), cycles[i]? = some cycle →
        ∃ result diagnostics, (evidenceRun derive registry cycles)[i]? = some (.ok result) ∧
          collectPrometheusSamplesWithDiagnostics cycle.metricQueries = .ok diagnostics ∧
          ((∃ stop, Latch.MaximalRun EvidenceCycle.TotalOutage cycles i stop) →
            result.telemetryDegradedEvents =
              [pendingEvent diagnostics.outageReason cycle.evaluationTime]) ∧
          ((∃ start, Latch.MaximalRun EvidenceCycle.TotalOutage cycles start i) →
            result.telemetryDegradedEvents = [resolvedEvent cycle.evaluationTime]) ∧
          ((¬ ∃ stop, Latch.MaximalRun EvidenceCycle.TotalOutage cycles i stop) →
            (¬ ∃ start, Latch.MaximalRun EvidenceCycle.TotalOutage cycles start i) →
            result.telemetryDegradedEvents = [])) ∧
    ∀ (registry : HealthRegistry) (observations : List RedisObservation) (i : ℕ)
      (observation : RedisObservation), observations[i]? = some observation →
        ∃ events, (redisRun registry observations)[i]? = some events ∧
          ((∃ stop, Latch.MaximalRun RedisObservation.Unhealthy observations i stop) →
            ¬ (i = 0 ∧ registry.IsDegraded "redis") → events = [redisDegradedEvent observation]) ∧
          ((¬ ∃ stop, Latch.MaximalRun RedisObservation.Unhealthy observations i stop) ∨
            (i = 0 ∧ registry.IsDegraded "redis") → events = []) :=
  ⟨fun _ _ _ hstart hcomplete _ _ hcycle => evidenceRun_events hstart hcomplete hcycle,
    fun _ _ _ _ hobservation => redisRun_events hobservation⟩

/-- A cycle whose only query times out. -/
def downCycle (evaluationTime : Instant) : EvidenceCycle :=
  ⟨.ofPairs [("consumer_group_lag", .sourceFailure "TimeoutError" "timed out")], evaluationTime⟩

/-- A cycle whose only query is answered. -/
def upCycle (evaluationTime : Instant) : EvidenceCycle :=
  ⟨.ofPairs [("consumer_group_lag", .samples [])], evaluationTime⟩

/-- A stage that finds nothing. -/
def deriveNothing : DeriveEvidence := fun _ _ => .ok { rows := [], gateFindingsByScope := .empty }

/-- Two cycles without Prometheus, and one with it. -/
theorem degraded_events_edge_triggered_twice :
    (∃ result, (evidenceRun deriveNothing {} [downCycle 0, downCycle 1, upCycle 2])[2]? =
        some (.ok result) ∧ result.telemetryDegradedEvents = [resolvedEvent 2]) ∧
      ∃ events, (redisRun {} [⟨true, none, 0⟩, ⟨false, some "refused", 1⟩])[1]? = some events ∧
        events = [redisDegradedEvent ⟨false, some "refused", 1⟩] := by
  obtain ⟨hevidence, hredis⟩ := degraded_events_edge_triggered
  constructor
  · have hdown : (downCycle 1).TotalOutage := by
      refine ⟨List.cons_ne_nil _ _, fun e he => ?_⟩
      cases List.mem_singleton.mp he
      rfl
    have hup : ¬ (upCycle 2).TotalOutage := fun h => by
      cases h.2 ("consumer_group_lag", .samples []) (List.mem_singleton_self _)
    have hcomplete : ∀ answer ∈ evidenceRun deriveNothing {} [downCycle 0, downCycle 1, upCycle 2],
        ∃ result, answer = .ok result := by
      obtain ⟨a, b, c, hrun⟩ : ∃ a b c,
          evidenceRun deriveNothing {} [downCycle 0, downCycle 1, upCycle 2] =
            [.ok a, .ok b, .ok c] := ⟨_, _, _, rfl⟩
      intro answer hanswer
      rw [hrun] at hanswer
      simp only [List.mem_cons, List.not_mem_nil, or_false] at hanswer
      rcases hanswer with rfl | rfl | rfl
      · exact ⟨a, rfl⟩
      · exact ⟨b, rfl⟩
      · exact ⟨c, rfl⟩
    obtain ⟨result, -, hanswer, -, -, hresolved, -⟩ := hevidence deriveNothing {}
      [downCycle 0, downCycle 1, upCycle 2] (by decide) hcomplete 2 (upCycle 2) rfl
    exact ⟨result, hanswer, hresolved ((Latch.follows_iff rfl).mpr
      ⟨hup, by decide, downCycle 1, rfl, hdown⟩)⟩
  · obtain ⟨events, hanswer, hevent, -⟩ := hredis {}
      [⟨true, none, 0⟩, ⟨false, some "refused", 1⟩] 1 ⟨false, some "refused", 1⟩ rfl
    refine ⟨events, hanswer, hevent ((Latch.starts_iff rfl).mpr ⟨?_, ?_⟩) (by simp)⟩
    · rfl
    · rintro ⟨-, before, hbefore, hunhealthy⟩
      cases hbefore
      cases hunhealthy

/-- A run of observations that starts with redis unhealthy emits nothing when the registry has it
degraded from before. -/
theorem redis_run_continued :
    Latch.MaximalRun RedisObservation.Unhealthy [⟨false, some "refused", 1⟩] 0 1 ∧
      redisRun (HealthRegistry.update {} "redis" .degraded (some "refused"))
        [⟨false, some "refused", 1⟩] = [[]] := by
  refine ⟨⟨by decide, by decide, ?_, fun l h => by omega, fun l h => by cases h⟩, rfl⟩
  intro i l hi hlt hl
  obtain rfl : i = 0 := by omega
  cases hl
  rfl

end AiopsTriage
