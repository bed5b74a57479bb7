import AiopsTriage.Anomaly.SampleOrder
import AiopsTriage.Gating.Isolation

/-!
# The evidence stage

The samples of a cycle become rows: a sample whose labels do not name its scope is skipped with a
warning (`collectEvidenceRows`). From the rows come the findings, and for every scope with a row
the status of each metric of the cycle, which is `PRESENT` or `UNKNOWN`.

* `evidence_gate_passes` — no finding of the stage ever lacks evidence, with the findings cache or
  without it: what a finding rests on has samples in its own scope. So the evidence gate fails no
  gate input that the hot path makes of its own samples.
* `evidence_isolated` — what a scope is given depends on the good samples of this scope only. Bad
  samples and other scopes make no difference to it.
-/

namespace AiopsTriage

/-! ## Rows -/

/-- A sample, by what `sample["labels"]` and `float(sample["value"])` give. -/
structure RawSample where
  /-- the labels -/
  labels : Except Failure (Dict String String)
  /-- the value -/
  value : Except Failure PyFloat

/-- `_LAG_METRIC_KEYS`. -/
def lagMetricKeys : List String := ["consumer_group_lag", "consumer_group_offset"]

/-- `_IDENTITY_IGNORE_LABELS`. -/
def identityIgnoreLabels : List String :=
  ["instance", "job", "nodes_group", "client_id", "consumer_id", "member_host", "partition"]

/-- `normalize_labels`. -/
def normalizeLabels (labels : Dict String String) : Except Failure (Dict String String) :=
  match labels.get? "cluster_name" with
  | none => .error (.valueError
      "Prometheus label 'cluster_name' is required for cluster_id normalization")
  | some clusterName => .ok (labels.set "cluster_id" clusterName)

/-- `build_evidence_scope_key`. -/
def buildEvidenceScopeKey (labels : Dict String String) (metricKey : String) :
    Except Failure Scope := do
  let normalized ← normalizeLabels labels
  match normalized.get? "env" with
  | none => .error (.valueError s!"Required label 'env' missing for metric '{metricKey}'")
  | some env =>
    -- `normalize_labels` has just set it
    let clusterId := (normalized.get? "cluster_id").getD ""
    if lagMetricKeys.contains metricKey then
      match normalized.get? "group", normalized.get? "topic" with
      | some group, some topic => .ok [env, clusterId, group, topic]
      | _, _ => .error (.valueError
          s!"Required labels 'group' and 'topic' missing for lag metric '{metricKey}'")
    else
      match normalized.get? "topic" with
      | some topic => .ok [env, clusterId, topic]
      | none => .error (.valueError s!"Required label 'topic' missing for metric '{metricKey}'")

/-- The row of a sample. -/
def toEvidenceRow (metricKey : String) (sample : RawSample) : Except Failure EvidenceRow := do
  let normalizedRaw ← normalizeLabels (← sample.labels)
  let value ← sample.value
  let scope ← buildEvidenceScopeKey normalizedRaw metricKey
  return {
    metricKey, value, scope
    labels := normalizedRaw.filterKeys fun k => !identityIgnoreLabels.contains k }

/-- `isinstance(exc, (ValueError, KeyError))`: the exceptions that only skip a sample. A pydantic
error is a `ValueError`. -/
def Failure.skipsSample : Failure → Bool
  | .valueError _ => true
  | .keyError _ => true
  | .validationError _ _ => true
  | _ => false

/-- What the loop over the samples has collected. -/
structure CollectedRows where
  /-- `rows` -/
  rows : List EvidenceRow := []
  /-- the warnings: the metric, and the exception -/
  warnings : List (String × Failure) := []

/-- One turn of the loop. -/
def CollectedRows.add (collected : CollectedRows) (sample : String × RawSample) :
    Except Failure CollectedRows :=
  match toEvidenceRow sample.1 sample.2 with
  | .ok row => .ok { collected with rows := collected.rows ++ [row] }
  | .error e =>
    if e.skipsSample then .ok { collected with warnings := collected.warnings ++ [(sample.1, e)] }
    else .error e

/-- The samples of a cycle, metric by metric. -/
def samplesInOrder (samplesByMetric : Dict String (List RawSample)) : List (String × RawSample) :=
  samplesByMetric.entries.flatMap fun e => e.2.map (e.1, ·)

/-- `collect_evidence_rows`. -/
def collectEvidenceRows (samplesByMetric : Dict String (List RawSample)) :
    Except Failure CollectedRows :=
  (samplesInOrder samplesByMetric).foldlM CollectedRows.add {}

/-! ## Statuses and findings -/

/-- The status of a metric in a scope. -/
def evidenceStatus (rows : List EvidenceRow) (scope : Scope) (metricKey : String) :
    EvidenceStatus :=
  if rows.any fun row => row.scope == scope && row.metricKey == metricKey then .present else .unknown

/-- The statuses of a scope. -/
def evidenceStatuses (metricKeys : List String) (rows : List EvidenceRow) (scope : Scope) :
    Dict String EvidenceStatus :=
  .ofPairs (metricKeys.map fun metricKey => (metricKey, evidenceStatus rows scope metricKey))

/-- The scopes with a row, sorted. -/
def evidenceScopes (rows : List EvidenceRow) : List Scope :=
  (uniqueInOrder (rows.map EvidenceRow.scope)).insertionSort (· ≤ ·)

/-- `build_evidence_status_map_by_scope`. -/
def buildEvidenceStatusMapByScope (metricKeys : List String) (rows : List EvidenceRow) :
    Dict Scope (Dict String EvidenceStatus) :=
  .ofPairs ((evidenceScopes rows).map fun scope => (scope, evidenceStatuses metricKeys rows scope))

section Stage

variable [Platform]

/-- `_to_gate_finding`. -/
def toGateFinding (finding : DetectedFinding) : Finding where
  findingId := finding.findingId
  name := Platform.lower (StrEnum.value finding.anomalyFamily)
  isAnomalous := true
  evidenceRequired := finding.evidenceRequired
  allowedNonPresentStatusesByEvidence := finding.allowedNonPresentStatusesByEvidence
  isPrimary := finding.isPrimary
  severity := some (StrEnum.value finding.severity)
  reasonCodes := finding.reasonCodes
  allowances_ok := finding.allowances_ok

/-- `build_gate_findings_by_scope`. -/
def buildGateFindingsByScope (result : AnomalyDetectionResult) : Dict Scope (List Finding) :=
  result.findingsByScope.mapValues fun _ findings => findings.map toGateFinding

variable [FloatArithmetic]

/-- `collect_evidence_stage_output`. -/
def collectEvidenceStageOutput (samplesByMetric : Dict String (List RawSample))
    (findingsCacheClient : Option (Scope → CacheClock)) (redisTtlPolicy : Option RedisTtlPolicyV1)
    (evaluationTime : Option Instant) (telemetryDegradedActive : Bool)
    (maxSafeAction : Option Action) (cache : FindingsCache) :
    Except Failure EvidenceStageOutput × FindingsCache :=
  match collectEvidenceRows samplesByMetric with
  | .error e => (.error e, cache)
  | .ok collected =>
    let detected := detectAnomalyFindings collected.rows findingsCacheClient redisTtlPolicy
      evaluationTime cache
    (.ok {
      rows := collected.rows
      gateFindingsByScope := buildGateFindingsByScope detected.1
      evidenceStatusMapByScope := buildEvidenceStatusMapByScope samplesByMetric.keys collected.rows
      telemetryDegradedActive, maxSafeAction }, detected.2)

/-- A cycle of the stage. -/
structure EvidenceCall where
  /-- the samples -/
  samplesByMetric : Dict String (List RawSample)
  /-- the clock of the cache -/
  clocks : Scope → CacheClock
  /-- the policy -/
  redisTtlPolicy : RedisTtlPolicyV1
  /-- the evaluation time -/
  evaluationTime : Instant
  /-- whether the whole telemetry is down -/
  telemetryDegradedActive : Bool := false
  /-- the most urgent action that is safe then -/
  maxSafeAction : Option Action := none

namespace EvidenceCall

/-- The cycle with a cache. -/
def withCache (c : EvidenceCall) (cache : FindingsCache) :
    Except Failure EvidenceStageOutput × FindingsCache :=
  collectEvidenceStageOutput c.samplesByMetric (some c.clocks) (some c.redisTtlPolicy)
    (some c.evaluationTime) c.telemetryDegradedActive c.maxSafeAction cache

/-- The cycle without one. -/
def withoutCache (c : EvidenceCall) : Except Failure EvidenceStageOutput :=
  (collectEvidenceStageOutput c.samplesByMetric none none none c.telemetryDegradedActive
    c.maxSafeAction .empty).1

/-- The detection of the cycle, when its samples can be collected. -/
def detection? (c : EvidenceCall) : Option DetectCall :=
  (collectEvidenceRows c.samplesByMetric).toOption.map fun collected =>
    ⟨collected.rows, c.clocks, c.redisTtlPolicy, c.evaluationTime⟩

end EvidenceCall

/-- Cycles that share a cache, one after the other. -/
def evidenceCycles : List EvidenceCall → FindingsCache → List (Except Failure EvidenceStageOutput)
  | [], _ => []
  | c :: calls, cache => (c.withCache cache).1 :: evidenceCycles calls (c.withCache cache).2

end Stage

/-! ## What is collected -/

/-- The row of a sample, unless it is skipped. -/
def rowOf (sample : String × RawSample) : Option EvidenceRow :=
  (toEvidenceRow sample.1 sample.2).toOption

theorem add_rows {c c' : CollectedRows} {sample : String × RawSample} (h : c.add sample = .ok c') :
    c'.rows = c.rows ++ (rowOf sample).toList := by
  unfold CollectedRows.add at h
  rw [rowOf]
  cases hrow : toEvidenceRow sample.1 sample.2 with
  | ok row =>
    rw [hrow] at h
    cases h
    rfl
  | error e =>
    rw [hrow] at h
    simp only at h
    split at h
    · cases h
      exact (List.append_nil _).symm
    · cases h

theorem foldlM_add_rows {samples : List (String × RawSample)} {c c' : CollectedRows}
    (h : samples.foldlM CollectedRows.add c = .ok c') :
    c'.rows = c.rows ++ samples.filterMap rowOf := by
  induction samples generalizing c with
  | nil =>
    cases h
    exact (List.append_nil _).symm
  | cons sample samples ih =>
    rw [List.foldlM_cons] at h
    obtain ⟨next, hnext, hrest⟩ := Except.bind_eq_ok.mp h
    rw [ih hrest, add_rows hnext, List.append_assoc, List.filterMap_cons]
    cases rowOf sample <;> rfl

/-- **Rows**: those of the good samples, in order. -/
theorem collectEvidenceRows_rows {samplesByMetric : Dict String (List RawSample)}
    {collected : CollectedRows} (h : collectEvidenceRows samplesByMetric = .ok collected) :
    collected.rows = (samplesInOrder samplesByMetric).filterMap rowOf :=
  (foldlM_add_rows h).trans (List.nil_append _)

/-- A row has the metric of its sample. -/
theorem rowOf_metricKey {sample : String × RawSample} {row : EvidenceRow}
    (h : rowOf sample = some row) : row.metricKey = sample.1 := by
  obtain ⟨labels, -, h⟩ := Except.bind_eq_ok.mp (Except.toOption_eq_some.mp h)
  obtain ⟨normalized, -, h⟩ := Except.bind_eq_ok.mp h
  obtain ⟨value, -, h⟩ := Except.bind_eq_ok.mp h
  obtain ⟨scope, -, h⟩ := Except.bind_eq_ok.mp h
  cases h
  rfl

/-- The metric of a row is one of the cycle. -/
theorem metricKey_mem_keys {samplesByMetric : Dict String (List RawSample)}
    {collected : CollectedRows} (h : collectEvidenceRows samplesByMetric = .ok collected)
    {row : EvidenceRow} (hrow : row ∈ collected.rows) : row.metricKey ∈ samplesByMetric.keys := by
  rw [collectEvidenceRows_rows h] at hrow
  obtain ⟨sample, hsample, hrow⟩ := List.mem_filterMap.mp hrow
  obtain ⟨e, he, hmem⟩ := List.mem_flatMap.mp hsample
  obtain ⟨raw, -, rfl⟩ := List.mem_map.mp hmem
  rw [rowOf_metricKey hrow]
  exact List.mem_map_of_mem he

/-! ## What the statuses say -/

theorem get?_evidenceStatuses {metricKeys : List String} (hnodup : metricKeys.Nodup)
    {rows : List EvidenceRow} {scope : Scope} {metricKey : String} :
    (evidenceStatuses metricKeys rows scope).get? metricKey =
      if metricKey ∈ metricKeys then some (evidenceStatus rows scope metricKey) else none :=
  Dict.get?_ofPairs_map hnodup

theorem mem_evidenceScopes {rows : List EvidenceRow} {scope : Scope} :
    scope ∈ evidenceScopes rows ↔ ∃ row ∈ rows, row.scope = scope := by
  rw [evidenceScopes, List.mem_insertionSort, mem_uniqueInOrder, List.mem_map]

theorem get?_buildEvidenceStatusMapByScope {metricKeys : List String} {rows : List EvidenceRow}
    {scope : Scope} :
    (buildEvidenceStatusMapByScope metricKeys rows).get? scope =
      if scope ∈ evidenceScopes rows then some (evidenceStatuses metricKeys rows scope)
      else none := by
  have hnodup : (evidenceScopes rows).Nodup :=
    (List.perm_insertionSort _ _).nodup_iff.mpr (nodup_uniqueInOrder _)
  rw [buildEvidenceStatusMapByScope, Dict.get?_ofPairs_map hnodup]
  by_cases h : scope ∈ evidenceScopes rows
  · rw [if_pos h, if_pos h]
  · rw [if_neg h, if_neg h]

/-- A metric with a row in a scope is present there. -/
theorem evidenceStatus_present {rows : List EvidenceRow} {row : EvidenceRow} (h : row ∈ rows) :
    evidenceStatus rows row.scope row.metricKey = .present :=
  if_pos (List.any_eq_true.mpr ⟨row, h, by rw [beq_self_eq_true, beq_self_eq_true]; rfl⟩)

/-! ## What findings rest on -/

/-- A metric with samples. -/
def Sampled (metrics : ScopeMetrics) (metricKey : String) : Prop :=
  ∃ value values, metrics.get? metricKey = some (value :: values)

section Detectors

variable [FloatArithmetic] {scope : Scope} {metrics : ScopeMetrics} {finding : DetectedFinding}

omit [FloatArithmetic] in
/-- What a detector finds is what stands behind its guards. -/
theorem eq_of_guards {α : Type} {x y : α} {p q r : Bool}
    (h : (if p then none else if q then none else if r then none else some x) = some y) : x = y := by
  cases p <;> cases q <;> cases r <;> cases h
  rfl

theorem sampled_of_lag (h : detectConsumerLagBuildup scope metrics = some finding) :
    ∀ key ∈ finding.evidenceRequired, Sampled metrics key := by
  unfold detectConsumerLagBuildup at h
  split at h
  · next hlag hoffset =>
    obtain rfl := eq_of_guards h
    intro key hkey
    rcases List.mem_pair.mp hkey with rfl | rfl
    · exact ⟨_, _, hlag⟩
    · exact ⟨_, _, hoffset⟩
  · cases h

omit [FloatArithmetic] in
theorem sampled_of_volume (h : detectVolumeDrop scope metrics = some finding) :
    ∀ key ∈ finding.evidenceRequired, Sampled metrics key := by
  unfold detectVolumeDrop at h
  split at h
  · next hmessages htotal =>
    obtain rfl := eq_of_guards h
    intro key hkey
    rcases List.mem_pair.mp hkey with rfl | rfl
    · exact ⟨_, _, hmessages⟩
    · exact ⟨_, _, htotal⟩
  · cases h

theorem sampled_of_throughput (h : detectThroughputConstrainedProxy scope metrics = some finding) :
    ∀ key ∈ finding.evidenceRequired, Sampled metrics key := by
  unfold detectThroughputConstrainedProxy at h
  split at h
  · next hmessages htotal hfailed =>
    simp only at h
    -- a fourth guard
    split at h
    · cases h
    · obtain rfl := eq_of_guards h
      intro key hkey
      simp only [List.mem_cons, List.not_mem_nil, or_false] at hkey
      rcases hkey with rfl | rfl | rfl
      · exact ⟨_, _, hmessages⟩
      · exact ⟨_, _, htotal⟩
      · exact ⟨_, _, hfailed⟩
  · cases h

/-- **Findings**: each rests on metrics that have samples. -/
theorem sampled_of_mem_computeScopeFindings (h : finding ∈ computeScopeFindings scope metrics) :
    ∀ key ∈ finding.evidenceRequired, Sampled metrics key := by
  rw [computeScopeFindings, List.mem_append, List.mem_append] at h
  rcases h with (hlag | hthroughput) | hvolume
  · exact sampled_of_lag (Option.mem_toList.mp hlag)
  · exact sampled_of_throughput (Option.mem_toList.mp hthroughput)
  · exact sampled_of_volume (Option.mem_toList.mp hvolume)

/-- So there is a row of the scope for everything that a finding of the scope rests on. -/
theorem exists_row_of_computedFindings {rows : List EvidenceRow}
    (h : finding ∈ computedFindings rows scope) {key : String}
    (hkey : key ∈ finding.evidenceRequired) :
    ∃ row ∈ rows, row.scope = scope ∧ row.metricKey = key := by
  obtain ⟨value, values, hsampled⟩ := sampled_of_mem_computeScopeFindings h key hkey
  rw [get?_metricsByScope] at hsampled
  split at hsampled
  · cases hsampled
  · rw [Option.getD_some, get?_metricsOf] at hsampled
    split at hsampled
    · cases hsampled
    · next hne =>
      obtain ⟨sample, hsample⟩ := List.exists_mem_of_ne_nil _ hne
      obtain ⟨hsample, hmetric⟩ := List.mem_filter.mp hsample
      obtain ⟨row, hrow, rfl⟩ := List.mem_map.mp hsample
      obtain ⟨hrow, hscope⟩ := List.mem_filter.mp hrow
      exact ⟨row, hrow, by simpa using hscope, by simpa using hmetric⟩

end Detectors

/-! ## The evidence gate -/

/-- Whatever a finding for the gates rests on is present in its scope. -/
def EvidenceStageOutput.Backed (output : EvidenceStageOutput) : Prop :=
  ∀ scope findings, output.gateFindingsByScope.get? scope = some findings →
    ∀ finding ∈ findings, ∀ key ∈ finding.evidenceRequired,
      ∃ statuses, output.evidenceStatusMapByScope.get? scope = some statuses ∧
        statuses.get? key = some .present

section Gate

variable [Platform] {peakOutput : PeakStageOutput} {contextByScope : Dict Scope GateInputContext}

/-- The gate inputs of a scope have its findings and its statuses. -/
theorem collectScopeGateInputs_evidence {evidenceOutput : EvidenceStageOutput}
    {maxSafeAction : Option Action} {entry : Scope × List Finding}
    {result : Scope × List GateInputV1}
    (h : collectScopeGateInputs evidenceOutput peakOutput contextByScope maxSafeAction entry =
      .ok result) {g : GateInputV1} (hg : g ∈ result.2) :
    g.findings = entry.2 ∧
      g.evidenceStatusMap = (evidenceOutput.evidenceStatusMapByScope.get? entry.1).getD .empty := by
  obtain ⟨scope, findings⟩ := entry
  unfold collectScopeGateInputs at h
  simp only at h
  split at h
  · cases h
  · obtain ⟨topic, -, h⟩ := Except.bind_eq_ok.mp h
    obtain ⟨env, -, h⟩ := Except.bind_eq_ok.mp h
    obtain ⟨gateInputs, hinputs, h⟩ := Except.bind_eq_ok.mp h
    cases h
    obtain ⟨finding, -, hfinding⟩ := (Except.mapM_eq_ok.mp hinputs).exists_of_mem_right hg
    obtain ⟨family, -, hfinding⟩ := Except.bind_eq_ok.mp hfinding
    obtain ⟨key, -, hfinding⟩ := Except.bind_eq_ok.mp hfinding
    obtain ⟨confidence, -, hfinding⟩ := Except.bind_eq_ok.mp hfinding
    cases hfinding
    exact ⟨rfl, rfl⟩

/-- **The evidence gate** fails no gate input of findings whose evidence is present. -/
theorem sufficient_of_backed {output : EvidenceStageOutput} (hbacked : output.Backed)
    {result : List (Scope × List GateInputV1)}
    (h : runGateInputStageCycle output peakOutput contextByScope = .ok result)
    {entry : Scope × List GateInputV1} (hentry : entry ∈ result) {g : GateInputV1}
    (hg : g ∈ entry.2) : ag2HasInsufficientEvidence g = false := by
  obtain ⟨collected, hcollected, h⟩ := Except.bind_eq_ok.mp h
  cases h
  obtain ⟨source, hsource, hinputs⟩ :=
    (Except.mapM_eq_ok.mp hcollected).exists_of_mem_right (List.mem_filter.mp hentry).1
  obtain ⟨hfindings, hstatuses⟩ := collectScopeGateInputs_evidence hinputs hg
  have hkept := Dict.get?_eq_some.mpr ((List.mem_insertionSort _).mp hsource)
  have hfound := (Dict.get?_filterKeys.mp hkept).1
  rw [Dict.get?_mapValues, hkept] at hstatuses
  rw [← Bool.not_eq_true, ag2HasInsufficientEvidence, hfindings, hstatuses]
  intro hfails
  obtain ⟨finding, hfinding, hfails⟩ := List.any_eq_true.mp hfails
  obtain ⟨key, hkey, hfails⟩ := List.any_eq_true.mp hfails
  -- the finding is one of the scope, in whichever way the gate chose it
  have hmem : finding ∈ source.2 := by
    split at hfinding
    · exact (List.mem_filter.mp hfinding).1
    · exact (List.mem_filter.mp (List.mem_filter.mp hfinding).1).1
  obtain ⟨statuses, hscope, hpresent⟩ := hbacked source.1 source.2 hfound finding hmem key hkey
  simp only [hscope, Option.map_some, Option.getD_some, hpresent] at hfails
  cases hfails

variable [FloatArithmetic]

/-- What the stage finds in its rows is backed by them. -/
theorem backed_of_computed {samplesByMetric : Dict String (List RawSample)}
    {collected : CollectedRows} (h : collectEvidenceRows samplesByMetric = .ok collected)
    {output : EvidenceStageOutput}
    (hfindings : output.gateFindingsByScope =
      buildGateFindingsByScope (detectWithoutCache collected.rows))
    (hstatuses : output.evidenceStatusMapByScope =
      buildEvidenceStatusMapByScope samplesByMetric.keys collected.rows) : output.Backed := by
  intro scope findings hget finding hfinding key hkey
  rw [hfindings, buildGateFindingsByScope, Dict.get?_mapValues,
    findingsByScope_detectWithoutCache] at hget
  split at hget
  · cases hget
  · cases hget
    obtain ⟨detected, hdetected, rfl⟩ := List.mem_map.mp hfinding
    obtain ⟨row, hrow, rfl, rfl⟩ := exists_row_of_computedFindings hdetected hkey
    refine ⟨evidenceStatuses samplesByMetric.keys collected.rows row.scope, ?_, ?_⟩
    · rw [hstatuses, get?_buildEvidenceStatusMapByScope,
        if_pos (mem_evidenceScopes.mpr ⟨row, hrow, rfl⟩)]
    · have hnodup : samplesByMetric.keys.Nodup := samplesByMetric.nodup
      rw [get?_evidenceStatuses hnodup, if_pos (metricKey_mem_keys h hrow),
        evidenceStatus_present hrow]

/-- What a cycle without a cache gives, when its samples can be collected. -/
theorem EvidenceCall.withoutCache_ok {c : EvidenceCall} {output : EvidenceStageOutput}
    (h : c.withoutCache = .ok output) :
    ∃ collected, collectEvidenceRows c.samplesByMetric = .ok collected ∧
      output.rows = collected.rows ∧
      output.gateFindingsByScope = buildGateFindingsByScope (detectWithoutCache collected.rows) ∧
      output.evidenceStatusMapByScope =
        buildEvidenceStatusMapByScope c.samplesByMetric.keys collected.rows := by
  unfold EvidenceCall.withoutCache collectEvidenceStageOutput at h
  cases hrows : collectEvidenceRows c.samplesByMetric with
  | error e =>
    rw [hrows] at h
    cases h
  | ok collected =>
    rw [hrows] at h
    cases h
    exact ⟨collected, rfl, rfl, rfl, rfl⟩

/-- It is backed. -/
theorem EvidenceCall.backed_withoutCache {c : EvidenceCall} {output : EvidenceStageOutput}
    (h : c.withoutCache = .ok output) : output.Backed := by
  obtain ⟨collected, hcollected, -, hfindings, hstatuses⟩ := EvidenceCall.withoutCache_ok h
  exact backed_of_computed hcollected hfindings hstatuses

/-- **Run lemma**: with a sound cache, cycles have the outputs that they have without it. -/
theorem evidenceCycles_eq {calls : List DetectCall}
    (hconsistent : ReadThrough.Consistent requestKey requestFindings (Cacheable calls))
    {cs : List EvidenceCall} (hcs : ∀ c ∈ cs, ∀ d, c.detection? = some d → d ∈ calls)
    {cache : FindingsCache}
    (hsound : ReadThrough.Sound requestKey requestFindings (Cacheable calls) (Holds cache)) :
    evidenceCycles cs cache = cs.map EvidenceCall.withoutCache := by
  induction cs generalizing cache with
  | nil => rfl
  | cons c cs ih =>
    have hrest := fun d hd => hcs d (List.mem_cons_of_mem c hd)
    rw [evidenceCycles, List.map_cons]
    cases hrows : collectEvidenceRows c.samplesByMetric with
    | error e =>
      simp only [EvidenceCall.withCache, EvidenceCall.withoutCache, collectEvidenceStageOutput, hrows]
      rw [ih hrest hsound]
    | ok collected =>
      have hd : c.detection? =
          some ⟨collected.rows, c.clocks, c.redisTtlPolicy, c.evaluationTime⟩ := by
        rw [EvidenceCall.detection?, hrows]
        rfl
      obtain ⟨hresult, hsound'⟩ := withCache_eq (hcs c List.mem_cons_self _ hd) hconsistent hsound
      simp only [DetectCall.withCache] at hresult hsound'
      simp only [EvidenceCall.withCache, EvidenceCall.withoutCache, collectEvidenceStageOutput, hrows,
        hresult]
      rw [ih hrest hsound']
      rfl

/-- The evidence gate fails no gate input that is made of an output, whatever the peak stage and the
contexts are. -/
def EvidenceGatePasses (output : EvidenceStageOutput) : Prop :=
  ∀ peakOutput contextByScope result,
    runGateInputStageCycle output peakOutput contextByScope = .ok result →
      ∀ entry ∈ result, ∀ g ∈ entry.2, ag2HasInsufficientEvidence g = false

/-- **Evidence is sufficient**: the evidence gate passes the output of every cycle without the
findings cache, whatever the samples are, and over any cycles that share the cache, where no two of
its keys are mixed up, the output of every one of them. -/
theorem evidence_gate_passes (cs : List EvidenceCall) :
    (∀ output, .ok output ∈ cs.map EvidenceCall.withoutCache → EvidenceGatePasses output) ∧
      (RowsKept (cs.filterMap EvidenceCall.detection?) →
        NamesApart (cs.filterMap EvidenceCall.detection?) →
          ∀ output, .ok output ∈ evidenceCycles cs .empty → EvidenceGatePasses output) := by
  have hplain : ∀ output, .ok output ∈ cs.map EvidenceCall.withoutCache →
      EvidenceGatePasses output := by
    intro output houtput peakOutput contextByScope result hresult entry hentry g hg
    obtain ⟨c, -, hc⟩ := List.mem_map.mp houtput
    exact sufficient_of_backed (EvidenceCall.backed_withoutCache hc) hresult hentry hg
  refine ⟨hplain, fun hrows hnames output houtput => hplain output ?_⟩
  have hrun : evidenceCycles cs .empty = cs.map EvidenceCall.withoutCache :=
    evidenceCycles_eq (consistent_of_apart hrows hnames)
      (fun c hc d hd => List.mem_filterMap.mpr ⟨c, hc, hd⟩)
      (ReadThrough.sound_nothing fun _ _ ⟨_, hheld, _⟩ => by cases hheld)
  rwa [hrun] at houtput

end Gate

/-! ## Scopes apart -/

/-- The rows of a scope in what a metric has of samples. -/
def goodRows (scope : Scope) (samplesByMetric : Dict String (List RawSample)) (metricKey : String) :
    List EvidenceRow :=
  (((samplesByMetric.get? metricKey).getD []).filterMap fun raw => rowOf (metricKey, raw)).filter
    fun row => row.scope == scope

/-- The rows of a scope, metric by metric. -/
theorem filter_rows {samplesByMetric : Dict String (List RawSample)} {collected : CollectedRows}
    (h : collectEvidenceRows samplesByMetric = .ok collected) (scope : Scope) :
    (collected.rows.filter fun row => row.scope == scope) =
      samplesByMetric.keys.flatMap (goodRows scope samplesByMetric) := by
  rw [collectEvidenceRows_rows h, samplesInOrder, List.filterMap_flatMap, List.filter_flatMap,
    Dict.keys, List.flatMap_map]
  refine List.flatMap_congr fun e he => ?_
  rw [goodRows, Dict.get?_eq_some.mpr he, Option.getD_some, List.filterMap_map]
  rfl

section Apart

variable {rows rows' : List EvidenceRow} {scope : Scope}

/-- The samples of a scope are those of its rows. -/
theorem samplesOf_congr
    (h : (rows.filter fun row => row.scope == scope) = rows'.filter fun row => row.scope == scope) :
    samplesOf rows scope = samplesOf rows' scope := by
  rw [samplesOf, samplesOf, h]

/-- So is whether it has any. -/
theorem mem_evidenceScopes_congr
    (h : (rows.filter fun row => row.scope == scope) = rows'.filter fun row => row.scope == scope) :
    scope ∈ evidenceScopes rows ↔ scope ∈ evidenceScopes rows' := by
  have hrow : ∀ row, (row ∈ rows ∧ row.scope = scope) ↔ (row ∈ rows' ∧ row.scope = scope) := by
    intro row
    have hmem := Iff.of_eq (congrArg (row ∈ ·) h)
    simpa [List.mem_filter] using hmem
  rw [mem_evidenceScopes, mem_evidenceScopes]
  exact exists_congr hrow

/-- And the status of each metric. -/
theorem evidenceStatus_congr
    (h : (rows.filter fun row => row.scope == scope) = rows'.filter fun row => row.scope == scope)
    (metricKey : String) : evidenceStatus rows scope metricKey =
      evidenceStatus rows' scope metricKey := by
  rw [evidenceStatus, evidenceStatus, ← List.any_filter, ← List.any_filter, h]

end Apart

section Isolation

variable [Platform] [FloatArithmetic] {c c' : EvidenceCall} {output output' : EvidenceStageOutput}

/-- **Isolation**: two cycles with the same metrics and the same good samples of a scope give this
scope the same rows, the same findings and the same statuses. Samples that are skipped and samples
of other scopes make no difference to it. -/
theorem evidence_isolated (h : c.withoutCache = .ok output) (h' : c'.withoutCache = .ok output')
    (hkeys : c.samplesByMetric.keys = c'.samplesByMetric.keys) (scope : Scope)
    (hgood : ∀ metricKey ∈ c.samplesByMetric.keys,
      goodRows scope c.samplesByMetric metricKey = goodRows scope c'.samplesByMetric metricKey) :
    (output.rows.filter fun row => row.scope == scope) =
        (output'.rows.filter fun row => row.scope == scope) ∧
      output.gateFindingsByScope.get? scope = output'.gateFindingsByScope.get? scope ∧
      output.evidenceStatusMapByScope.get? scope = output'.evidenceStatusMapByScope.get? scope := by
  obtain ⟨collected, hcollected, hrows, hfindings, hstatuses⟩ := EvidenceCall.withoutCache_ok h
  obtain ⟨collected', hcollected', hrows', hfindings', hstatuses'⟩ :=
    EvidenceCall.withoutCache_ok h'
  have hsame : (collected.rows.filter fun row => row.scope == scope) =
      collected'.rows.filter fun row => row.scope == scope := by
    rw [filter_rows hcollected, filter_rows hcollected', ← hkeys]
    exact List.flatMap_congr hgood
  refine ⟨by rw [hrows, hrows', hsame], ?_, ?_⟩
  · rw [hfindings, hfindings', buildGateFindingsByScope, buildGateFindingsByScope,
      Dict.get?_mapValues, Dict.get?_mapValues, findingsByScope_detectWithoutCache,
      findingsByScope_detectWithoutCache, computedFindings_congr (samplesOf_congr hsame)]
  · have hvalues : evidenceStatuses c.samplesByMetric.keys collected.rows scope =
        evidenceStatuses c.samplesByMetric.keys collected'.rows scope := by
      rw [evidenceStatuses, evidenceStatuses]
      simp only [evidenceStatus_congr hsame]
    rw [hstatuses, hstatuses', ← hkeys]
    simp only [get?_buildEvidenceStatusMapByScope, mem_evidenceScopes_congr hsame, hvalues]

end Isolation

/-! ## A consumer group that falls behind -/

/-- The labels of a group's series. -/
def groupLabels (group : String) : Dict String String :=
  .ofPairs [("env", "prod"), ("cluster_name", "eu"), ("group", group), ("topic", "orders")]

/-- Its lag and its offset. -/
def groupSamples (group : String) (lag : ℚ) : List (String × RawSample) :=
  [("consumer_group_lag", ⟨.ok (groupLabels group), .ok (.finite lag)⟩),
    ("consumer_group_offset", ⟨.ok (groupLabels group), .ok (.finite 0)⟩)]

/-- A cycle with samples of the two metrics. -/
def groupCall (samples : List (String × RawSample)) : EvidenceCall where
  samplesByMetric := .ofPairs (lagMetricKeys.map fun key =>
    (key, (samples.filter fun sample => sample.1 == key).map Prod.snd))
  clocks _ := ⟨0, 0, 0⟩
  redisTtlPolicy := tenMinutes
  evaluationTime := 0

/-- The group on its own. -/
def westCall : EvidenceCall := groupCall (groupSamples "west" 500)

/-- The group beside another one, and beside a sample without labels. -/
def busyCall : EvidenceCall :=
  groupCall (groupSamples "east" 7 ++
    [("consumer_group_lag", ⟨.error (.keyError "'labels'"), .ok (.finite 9)⟩)] ++
    groupSamples "west" 500)

theorem scopes_busyCall : (busyCall.detection?.map fun c => scopesOf c.rows) =
    some [["prod", "eu", "east", "orders"], ["prod", "eu", "west", "orders"]] := by
  decide +kernel

theorem evidence_gate_passes_busy :
    let := asciiPlatform []
    let := exactArithmetic
    ∀ output, .ok output ∈ evidenceCycles [busyCall] .empty → EvidenceGatePasses output := by
  let := asciiPlatform []
  let := exactArithmetic
  have hone : ∀ c ∈ [busyCall].filterMap EvidenceCall.detection?, busyCall.detection? = some c := by
    intro c hc
    obtain ⟨call, hcall, hc⟩ := List.mem_filterMap.mp hc
    rwa [List.mem_singleton.mp hcall] at hc
  refine (evidence_gate_passes [busyCall]).2 ?_ ?_
  · intro c hc c' hc' _ scope _ _
    rw [Option.some.inj ((hone c hc).symm.trans (hone c' hc'))]
  · intro c hc c' hc' _ scope hscope scope' hscope' _ _ hjoin
    have hscopes := scopes_busyCall
    rw [hone c hc, Option.map_some, Option.some.injEq] at hscopes
    rw [← Option.some.inj ((hone c hc).symm.trans (hone c' hc')), hscopes] at hscope'
    rw [hscopes] at hscope
    rcases List.mem_pair.mp hscope with rfl | rfl <;>
      rcases List.mem_pair.mp hscope' with rfl | rfl
    · rfl
    · exact absurd hjoin (by decide)
    · exact absurd hjoin (by decide)
    · rfl

theorem evidence_isolated_west :
    let := asciiPlatform []
    let := exactArithmetic
    ∃ output output', westCall.withoutCache = .ok output ∧ busyCall.withoutCache = .ok output' ∧
      output.gateFindingsByScope.get? ["prod", "eu", "west", "orders"] =
        output'.gateFindingsByScope.get? ["prod", "eu", "west", "orders"] := by
  let := asciiPlatform []
  let := exactArithmetic
  obtain ⟨output, houtput⟩ : westCall.withoutCache.Returns := by decide +kernel
  obtain ⟨output', houtput'⟩ : busyCall.withoutCache.Returns := by decide +kernel
  have hapart := evidence_isolated houtput houtput' (by decide +kernel)
    ["prod", "eu", "west", "orders"] (by decide +kernel)
  exact ⟨output, output', houtput, houtput', hapart.2.1⟩

end AiopsTriage
