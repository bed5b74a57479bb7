import AiopsTriage.Anomaly.FindingsCache

/-!
# Detection and the order of samples

The samples of a scope come from the series of one instant, in no order of time. Two of the
three detectors look at the largest and the smallest sample only (`Alike`), and so does the
third one, but for the growth of the lag: the last sample less the first
(`isSome_detectConsumerLagBuildup`). So detection depends on the order of the rows exactly when
the lags of a scope with a high lag and still offsets are far enough apart for the one order
to show a growth and the other none (`detection_order_iff`).

Values are finite and computed with exactly, so comparisons are those of rationals.
-/

namespace AiopsTriage

/-! ## Extremes of finite samples -/

@[simp] theorem lt_finite {x y : ℚ} : (PyFloat.finite x).lt (.finite y) = decide (x < y) := rfl

/-- The largest of finite floats. -/
theorem max_finite (x : ℚ) (xs : List ℚ) :
    PyFloat.max (.finite x) (xs.map .finite) = .finite (xs.foldl max x) := by
  induction xs generalizing x with
  | nil => rfl
  | cons y ys ih =>
    rw [List.map_cons, PyFloat.max, List.foldl_cons, List.foldl_cons, ← ih (max x y)]
    have hstep : (if (PyFloat.finite x).lt (.finite y) then PyFloat.finite y else .finite x) =
        .finite (max x y) := by
      rw [lt_finite]
      by_cases hlt : x < y
      · rw [if_pos (decide_eq_true hlt), max_eq_right hlt.le]
      · rw [if_neg (by simpa using hlt), max_eq_left (not_lt.mp hlt)]
    rw [hstep]
    rfl

/-- The smallest of finite floats. -/
theorem min_finite (x : ℚ) (xs : List ℚ) :
    PyFloat.min (.finite x) (xs.map .finite) = .finite (xs.foldl min x) := by
  induction xs generalizing x with
  | nil => rfl
  | cons y ys ih =>
    rw [List.map_cons, PyFloat.min, List.foldl_cons, List.foldl_cons, ← ih (min x y)]
    have hstep : (if (PyFloat.finite y).lt (.finite x) then PyFloat.finite y else .finite x) =
        .finite (min x y) := by
      rw [lt_finite]
      by_cases hlt : y < x
      · rw [if_pos (decide_eq_true hlt), min_eq_right hlt.le]
      · rw [if_neg (by simpa using hlt), min_eq_left (not_lt.mp hlt)]
    rw [hstep]
    rfl

/-- The largest item of a list does not depend on its order. -/
theorem max?_of_perm {xs ys : List ℚ} (h : xs.Perm ys) : xs.max? = ys.max? := by
  cases hy : ys.max? with
  | none =>
    rw [List.max?_eq_none_iff] at hy ⊢
    exact (hy ▸ h).eq_nil
  | some m =>
    rw [List.max?_eq_some_iff] at hy ⊢
    exact ⟨h.mem_iff.mpr hy.1, fun b hb => hy.2 b (h.mem_iff.mp hb)⟩

/-- Nor does the smallest. -/
theorem min?_of_perm {xs ys : List ℚ} (h : xs.Perm ys) : xs.min? = ys.min? := by
  cases hy : ys.min? with
  | none =>
    rw [List.min?_eq_none_iff] at hy ⊢
    exact (hy ▸ h).eq_nil
  | some m =>
    rw [List.min?_eq_some_iff] at hy ⊢
    exact ⟨h.mem_iff.mpr hy.1, fun b hb => hy.2 b (h.mem_iff.mp hb)⟩

/-- Two samplings of a metric with the same extremes. -/
def Alike : Option (List PyFloat) → Option (List PyFloat) → Prop
  | some (x :: xs), some (y :: ys) =>
    PyFloat.max x xs = PyFloat.max y ys ∧ PyFloat.min x xs = PyFloat.min y ys
  | some [], some [] => True
  | none, none => True
  | _, _ => False

/-! ## Samples of a scope -/

/-- The values of a metric in a scope, in the order of the rows. -/
def valuesOf (rows : List EvidenceRow) (scope : Scope) (metric : String) : List ℚ :=
  rows.filterMap fun row =>
    if row.scope = scope ∧ row.metricKey = metric then finiteValue row.value else none

/-- Rows as an instant query gives them: without infinities and not-a-number. -/
def FiniteRows (rows : List EvidenceRow) : Prop := ∀ row ∈ rows, row.value.isFinite = true

instance (rows : List EvidenceRow) : Decidable (FiniteRows rows) :=
  inferInstanceAs (Decidable (∀ row ∈ rows, row.value.isFinite = true))

/-- What the detectors are given of a metric. -/
def samplesIn (rows : List EvidenceRow) (scope : Scope) (metric : String) : Option (List PyFloat) :=
  (((metricsByScope rows).get? scope).getD .empty).get? metric

/-- The samples of a metric, by the metric of each sample. -/
theorem get?_metricsOf {samples : List (String × PyFloat)} {metric : String} :
    (metricsOf samples).get? metric =
      if (samples.filter fun s => s.1 = metric) = [] then none
      else some ((samples.filter fun s => s.1 = metric).map Prod.snd) := by
  induction samples using List.reverseRecOn with
  | nil => rfl
  | append_singleton samples sample ih =>
    rw [metricsOf_append, ScopeMetrics.add, Dict.get?_set, List.filter_append]
    by_cases h : sample.1 = metric
    · subst h
      have hone : [sample].filter (fun s => s.1 = sample.1) = [sample] := by simp
      rw [if_pos rfl, ih, hone, if_neg (List.append_ne_nil_of_right_ne_nil _ (List.cons_ne_nil _ _)),
        List.map_append]
      split
      · next hnone => rw [hnone]; rfl
      · rfl
    · have hnone : [sample].filter (fun s => s.1 = metric) = [] := by simp [h]
      rw [if_neg h, ih, hnone, List.append_nil]

/-- In finite rows the detectors are given the values of the metric. -/
theorem samplesIn_eq {rows : List EvidenceRow} (hfinite : FiniteRows rows) (scope : Scope)
    (metric : String) :
    samplesIn rows scope metric = if valuesOf rows scope metric = [] then none
      else some ((valuesOf rows scope metric).map .finite) := by
  have hvalues : ((samplesOf rows scope).filter fun s => s.1 = metric).map Prod.snd =
      (valuesOf rows scope metric).map .finite := by
    induction rows with
    | nil => rfl
    | cons row rows ih =>
      have ih := ih fun r hr => hfinite r (List.mem_cons_of_mem _ hr)
      obtain ⟨q, hq⟩ : ∃ q, row.value = .finite q := by
        cases hv : row.value with
        | finite q => exact ⟨q, rfl⟩
        | _ =>
          have hrow := hfinite row List.mem_cons_self
          rw [hv] at hrow
          cases hrow
      simp only [samplesOf, valuesOf] at ih ⊢
      by_cases hscope : row.scope = scope
      · by_cases hmetric : row.metricKey = metric
        · simp [hscope, hmetric, hq, finiteValue, ih]
        · simp [hscope, hmetric, ih]
      · simp [hscope, ih]
  have hempty : ((samplesOf rows scope).filter fun s => s.1 = metric) = [] ↔
      valuesOf rows scope metric = [] := by
    rw [← List.map_eq_nil_iff (f := Prod.snd), hvalues, List.map_eq_nil_iff]
  rw [samplesIn, get?_metricsByScope]
  split
  · next hnone =>
    rw [hnone] at hempty
    rw [if_pos (hempty.mp rfl)]
    rfl
  · rw [Option.getD_some, get?_metricsOf, hvalues]
    simp only [hempty]

/-- Rows in another order have the same samples, but for their order. -/
theorem alike_of_perm {rows rows' : List EvidenceRow} (hfinite : FiniteRows rows)
    (hperm : rows'.Perm rows) (scope : Scope) (metric : String) :
    Alike (samplesIn rows' scope metric) (samplesIn rows scope metric) := by
  have hfinite' : FiniteRows rows' := fun row hrow => hfinite row (hperm.mem_iff.mp hrow)
  have hvalues : (valuesOf rows' scope metric).Perm (valuesOf rows scope metric) :=
    hperm.filterMap _
  rw [samplesIn_eq hfinite', samplesIn_eq hfinite]
  revert hvalues
  cases valuesOf rows' scope metric with
  | nil =>
    intro hvalues
    rw [if_pos rfl, if_pos hvalues.nil_eq.symm]
    trivial
  | cons x xs =>
    cases valuesOf rows scope metric with
    | nil =>
      intro hvalues
      exact absurd hvalues.eq_nil (List.cons_ne_nil x xs)
    | cons y ys =>
      intro hvalues
      have hmax := max?_of_perm hvalues
      have hmin := min?_of_perm hvalues
      rw [List.max?_cons', List.max?_cons', Option.some.injEq] at hmax
      rw [List.min?_cons', List.min?_cons', Option.some.injEq] at hmin
      rw [if_neg (List.cons_ne_nil x xs), if_neg (List.cons_ne_nil y ys)]
      refine ⟨?_, ?_⟩
      · rw [max_finite, max_finite, hmax]
      · rw [min_finite, min_finite, hmin]

/-! ## Detectors -/

section Detectors

variable [FloatArithmetic] {scope : Scope} {metrics metrics' : ScopeMetrics}

/-- The throughput detector looks at extremes only. -/
theorem detectThroughputConstrainedProxy_congr
    (h : ∀ metric, Alike (metrics.get? metric) (metrics'.get? metric)) :
    detectThroughputConstrainedProxy scope metrics =
      detectThroughputConstrainedProxy scope metrics' := by
  have hmessages := h "topic_messages_in_per_sec"
  have htotal := h "total_produce_requests_per_sec"
  have hfailed := h "failed_produce_requests_per_sec"
  unfold detectThroughputConstrainedProxy
  revert hmessages htotal hfailed
  rcases metrics.get? "topic_messages_in_per_sec" with _ | _ | ⟨x, xs⟩ <;>
    rcases metrics'.get? "topic_messages_in_per_sec" with _ | _ | ⟨x', xs'⟩ <;>
    try exact fun hmessages => hmessages.elim
  · exact fun _ _ _ => rfl
  · exact fun _ _ _ => rfl
  rcases metrics.get? "total_produce_requests_per_sec" with _ | _ | ⟨y, ys⟩ <;>
    rcases metrics'.get? "total_produce_requests_per_sec" with _ | _ | ⟨y', ys'⟩ <;>
    try exact fun _ htotal => htotal.elim
  · exact fun _ _ _ => rfl
  · exact fun _ _ _ => rfl
  rcases metrics.get? "failed_produce_requests_per_sec" with _ | _ | ⟨z, zs⟩ <;>
    rcases metrics'.get? "failed_produce_requests_per_sec" with _ | _ | ⟨z', zs'⟩ <;>
    try exact fun _ _ hfailed => hfailed.elim
  · exact fun _ _ _ => rfl
  · exact fun _ _ _ => rfl
  rintro ⟨hx, -⟩ ⟨hy, -⟩ ⟨hz, -⟩
  simp only [hx, hy, hz]

omit [FloatArithmetic] in
/-- So does the volume detector. -/
theorem detectVolumeDrop_congr
    (h : ∀ metric, Alike (metrics.get? metric) (metrics'.get? metric)) :
    detectVolumeDrop scope metrics = detectVolumeDrop scope metrics' := by
  have hmessages := h "topic_messages_in_per_sec"
  have htotal := h "total_produce_requests_per_sec"
  unfold detectVolumeDrop
  revert hmessages htotal
  rcases metrics.get? "topic_messages_in_per_sec" with _ | _ | ⟨x, xs⟩ <;>
    rcases metrics'.get? "topic_messages_in_per_sec" with _ | _ | ⟨x', xs'⟩ <;>
    try exact fun hmessages => hmessages.elim
  · exact fun _ _ => rfl
  · exact fun _ _ => rfl
  rcases metrics.get? "total_produce_requests_per_sec" with _ | _ | ⟨y, ys⟩ <;>
    rcases metrics'.get? "total_produce_requests_per_sec" with _ | _ | ⟨y', ys'⟩ <;>
    try exact fun _ htotal => htotal.elim
  · exact fun _ _ => rfl
  · exact fun _ _ => rfl
  rintro ⟨hx, hx'⟩ ⟨hy, -⟩
  simp only [hx, hx', hy]

omit [FloatArithmetic] in
/-- What three guards let through. -/
theorem isSome_guards {α : Type} {x : α} {p q r : Bool} :
    (if p then none else if q then none else if r then none else some x).isSome = true ↔
      p = false ∧ q = false ∧ r = false := by
  cases p <;> cases q <;> cases r <;> simp

omit [FloatArithmetic] in
/-- It is the one thing behind them. -/
theorem guards_eq {α : Type} {x : α} {p q r : Bool} :
    (if p then none else if q then none else if r then none else some x) =
      if (if p then none else if q then none else if r then none else some x).isSome then some x
      else none := by
  cases p <;> cases q <;> cases r <;> rfl

/-- The finding of a scope whose lag builds up. -/
def lagBuildup (scope : Scope) : DetectedFinding where
  findingId := "CONSUMER_LAG:" ++ PyText.join "|" scope
  anomalyFamily := .consumerLag
  scope
  severity := .high
  reasonCodes := ["LAG_BUILDUP_DETECTED", "LAG_HIGH", "OFFSET_PROGRESS_LOW"]
  evidenceRequired := ["consumer_group_lag", "consumer_group_offset"]
  isPrimary := some true
  allowances_ok := allowances_empty _

/-- The lag detector finds nothing, or always the same of a scope. -/
theorem detectConsumerLagBuildup_eq :
    detectConsumerLagBuildup scope metrics =
      if (detectConsumerLagBuildup scope metrics).isSome then some (lagBuildup scope) else none := by
  unfold detectConsumerLagBuildup
  split
  · exact guards_eq
  · rfl

end Detectors

/-! ## The lag detector on finite samples -/

/-- The growth of a lag: the last sample less the first, or the only one. -/
def lagGrowth : List ℚ → ℚ
  | [] => 0
  | [x] => x
  | x :: y :: rest => (y :: rest).getLast (List.cons_ne_nil y rest) - x

/-- What the lag detector looks for, apart from growth: a high lag, and offsets that hardly
move. -/
def HighLag (lags offsets : List ℚ) : Prop :=
  (∃ lagEnd, lags.max? = some lagEnd ∧ 100 ≤ lagEnd) ∧
    ∃ highest lowest, offsets.max? = some highest ∧ offsets.min? = some lowest ∧
      highest - lowest ≤ 10

/-- The detector finds a high lag that grows. -/
theorem isSome_detectConsumerLagBuildup {scope : Scope} {metrics : ScopeMetrics}
    {lags offsets : List ℚ}
    (hlags : metrics.get? "consumer_group_lag" =
      if lags = [] then none else some (lags.map .finite))
    (hoffsets : metrics.get? "consumer_group_offset" =
      if offsets = [] then none else some (offsets.map .finite)) :
    (@detectConsumerLagBuildup exactArithmetic scope metrics).isSome = true ↔
      HighLag lags offsets ∧ 25 ≤ lagGrowth lags := by
  unfold detectConsumerLagBuildup
  rw [hlags, hoffsets]
  cases lags with
  | nil => simp [HighLag]
  | cons x xs =>
    cases offsets with
    | nil => simp [HighLag]
    | cons y ys =>
      rw [if_neg (List.cons_ne_nil x xs), if_neg (List.cons_ne_nil y ys), List.map_cons, List.map_cons]
      refine isSome_guards.trans ?_
      rw [max_finite, max_finite, min_finite, HighLag, List.max?_cons', List.max?_cons',
        List.min?_cons']
      cases xs with
      | nil =>
        simp [lt_finite, lagGrowth, FloatArithmetic.sub]
        tauto
      | cons z zs =>
        rw [List.getLast?_map, List.getLast?_eq_getLast_of_ne_nil (List.cons_ne_nil z zs)]
        simp [lt_finite, lagGrowth, FloatArithmetic.sub]
        tauto

/-! ## Findings of a scope -/

/-- The findings of a scope in a list of findings. -/
theorem get?_groupFindingsByScope {findings : List DetectedFinding} {scope : Scope} :
    (groupFindingsByScope findings).get? scope =
      if (findings.filter fun f => f.scope = scope) = [] then none
      else some (findings.filter fun f => f.scope = scope) := by
  induction findings using List.reverseRecOn with
  | nil => rfl
  | append_singleton findings finding ih =>
    rw [groupFindingsByScope, List.foldl_append, List.foldl_cons, List.foldl_nil,
      ← groupFindingsByScope, Dict.get?_set, List.filter_append]
    by_cases h : finding.scope = scope
    · subst h
      have hone : [finding].filter (fun f => f.scope = finding.scope) = [finding] := by simp
      rw [if_pos rfl, ih, hone,
        if_neg (List.append_ne_nil_of_right_ne_nil _ (List.cons_ne_nil _ _))]
      split
      · next hnone => rw [hnone]; rfl
      · rfl
    · have hnone : [finding].filter (fun f => f.scope = scope) = [] := by simp [h]
      rw [if_neg h, ih, hnone, List.append_nil]

/-- A value that is wanted of one of several keys. -/
theorem filter_flatMap_of_nodup {α β : Type} [DecidableEq α] {keys : List α} {f : α → List β}
    {key : β → α} (hnodup : keys.Nodup) (hkey : ∀ a, ∀ b ∈ f a, key b = a) (a : α) :
    ((keys.flatMap f).filter fun b => key b = a) = if a ∈ keys then f a else [] := by
  induction keys with
  | nil => rfl
  | cons c keys ih =>
    obtain ⟨hc, hnodup⟩ := List.nodup_cons.mp hnodup
    rw [List.flatMap_cons, List.filter_append, ih hnodup]
    by_cases h : c = a
    · subst h
      have hall : (f c).filter (fun b => key b = c) = f c :=
        List.filter_eq_self.mpr fun b hb => decide_eq_true (hkey c b hb)
      rw [hall, if_neg hc, if_pos List.mem_cons_self, List.append_nil]
    · have hnone : (f c).filter (fun b => key b = a) = [] :=
        List.filter_eq_nil_iff.mpr fun b hb => by simp [hkey c b hb, h]
      rw [hnone, List.nil_append]
      simp [Ne.symm h]

section Findings

variable [FloatArithmetic]

/-- `detect_anomaly_findings` without a cache. -/
def detectWithoutCache (rows : List EvidenceRow) : AnomalyDetectionResult :=
  (detectAnomalyFindings rows none none none .empty).1

/-- Every finding is about the scope it is computed for. -/
theorem scope_of_mem_computeScopeFindings {scope : Scope} {metrics : ScopeMetrics}
    {finding : DetectedFinding} (h : finding ∈ computeScopeFindings scope metrics) :
    finding.scope = scope := by
  rw [computeScopeFindings, List.mem_append, List.mem_append] at h
  rcases h with (hlag | hthroughput) | hvolume
  · rw [detectConsumerLagBuildup_eq] at hlag
    split at hlag
    · rw [List.mem_singleton.mp hlag]
      rfl
    · cases hlag
  · unfold detectThroughputConstrainedProxy at hthroughput
    split at hthroughput
    · simp only at hthroughput
      split_ifs at hthroughput <;> simp_all
    · cases hthroughput
  · unfold detectVolumeDrop at hvolume
    split at hvolume
    · simp only at hvolume
      split_ifs at hvolume <;> simp_all
    · cases hvolume

/-- A scope without rows has no findings. -/
theorem computedFindings_of_notMem {rows : List EvidenceRow} {scope : Scope}
    (h : scope ∉ scopesOf rows) : computedFindings rows scope = [] := by
  have hnone : (metricsByScope rows).get? scope = none :=
    Dict.find_eq_none.mpr fun hmem => h ((List.mem_insertionSort _).mpr hmem)
  rw [computedFindings, hnone]
  rfl

/-- **Findings by scope**: those computed for the scope. -/
theorem findingsByScope_detectWithoutCache (rows : List EvidenceRow) (scope : Scope) :
    (detectWithoutCache rows).findingsByScope.get? scope =
      if computedFindings rows scope = [] then none else some (computedFindings rows scope) := by
  have hnodup : (scopesOf rows).Nodup :=
    (List.perm_insertionSort _ _).nodup_iff.mpr (metricsByScope rows).nodup
  have hfilter := @filter_flatMap_of_nodup _ _ _ _ (computedFindings rows) DetectedFinding.scope
    hnodup (fun _ _ => scope_of_mem_computeScopeFindings) scope
  have hfound : ((detectWithoutCache rows).findings.filter fun f => f.scope = scope) =
      computedFindings rows scope := by
    refine hfilter.trans ?_
    by_cases h : scope ∈ scopesOf rows
    · rw [if_pos h]
    · rw [if_neg h, computedFindings_of_notMem h]
  rw [AnomalyDetectionResult.findingsByScope, get?_groupFindingsByScope, hfound]

/-- The order of the rows matters to the lag detector at most. -/
theorem computedFindings_of_perm {rows rows' : List EvidenceRow} {scope : Scope}
    (hfinite : FiniteRows rows) (hperm : rows'.Perm rows) :
    computedFindings rows' scope = computedFindings rows scope ↔
      (detectConsumerLagBuildup scope (((metricsByScope rows').get? scope).getD .empty)).isSome =
        (detectConsumerLagBuildup scope (((metricsByScope rows).get? scope).getD .empty)).isSome := by
  have halike := alike_of_perm hfinite hperm scope
  rw [computedFindings, computedFindings, computeScopeFindings, computeScopeFindings,
    detectThroughputConstrainedProxy_congr halike, detectVolumeDrop_congr halike,
    List.append_left_inj, List.append_left_inj]
  constructor
  · intro h
    have hlength := congrArg List.length h
    rw [Option.length_toList, Option.length_toList] at hlength
    revert hlength
    generalize (detectConsumerLagBuildup scope
      (((metricsByScope rows').get? scope).getD .empty)).isSome = found'
    generalize (detectConsumerLagBuildup scope
      (((metricsByScope rows).get? scope).getD .empty)).isSome = found
    cases found' <;> cases found <;> decide
  · intro h
    rw [detectConsumerLagBuildup_eq, h, ← detectConsumerLagBuildup_eq]

end Findings

/-! ## Order -/

/-- A scope of which the order of its samples decides: a high lag, still offsets, and two lags
that are a growth apart. -/
def OrderSensitive (rows : List EvidenceRow) (scope : Scope) : Prop :=
  HighLag (valuesOf rows scope "consumer_group_lag") (valuesOf rows scope "consumer_group_offset") ∧
    ∃ highest ∈ valuesOf rows scope "consumer_group_lag",
      ∃ lowest ∈ valuesOf rows scope "consumer_group_lag", 25 ≤ highest - lowest

/-- A high lag is one in any order. -/
theorem highLag_of_perm {lags lags' offsets offsets' : List ℚ} (hlags : lags'.Perm lags)
    (hoffsets : offsets'.Perm offsets) : HighLag lags' offsets' ↔ HighLag lags offsets := by
  rw [HighLag, HighLag, max?_of_perm hlags, max?_of_perm hoffsets, min?_of_perm hoffsets]

/-- The growth from a first sample to a last one. -/
theorem lagGrowth_cons_concat (x y : ℚ) (xs : List ℚ) : lagGrowth (x :: (xs ++ [y])) = y - x := by
  cases xs with
  | nil => rfl
  | cons z zs =>
    rw [List.cons_append, lagGrowth]
    congr 1
    exact List.getLast_concat (l := z :: zs)

/-- The growth of two samples or more is a difference of two of them. -/
theorem lagGrowth_eq_sub {lags : List ℚ} (h : 2 ≤ lags.length) :
    ∃ highest ∈ lags, ∃ lowest ∈ lags, lagGrowth lags = highest - lowest := by
  match lags, h with
  | x :: y :: rest, _ =>
    exact ⟨_, List.mem_cons_of_mem x (List.getLast_mem (List.cons_ne_nil y rest)), x,
      List.mem_cons_self, rfl⟩

section Order

variable {rows rows' : List EvidenceRow} {scope : Scope}

/-- Two orders of the rows show the same findings of a scope exactly when both show a growing
high lag, or neither does. -/
theorem findings_eq_iff_of_perm (hfinite : FiniteRows rows) (hperm : rows'.Perm rows) :
    (@detectWithoutCache exactArithmetic rows').findingsByScope.get? scope =
        (@detectWithoutCache exactArithmetic rows).findingsByScope.get? scope ↔
      (HighLag (valuesOf rows scope "consumer_group_lag")
          (valuesOf rows scope "consumer_group_offset") →
        (25 ≤ lagGrowth (valuesOf rows' scope "consumer_group_lag") ↔
          25 ≤ lagGrowth (valuesOf rows scope "consumer_group_lag"))) := by
  have hfinite' : FiniteRows rows' := fun row hrow => hfinite row (hperm.mem_iff.mp hrow)
  have hgroups : ∀ a b : List DetectedFinding,
      (if a = [] then none else some a) = (if b = [] then none else some b) ↔ a = b := by
    intro a b
    cases a <;> cases b <;> simp
  have hhigh := highLag_of_perm (hperm.filterMap fun row =>
      if row.scope = scope ∧ row.metricKey = "consumer_group_lag" then finiteValue row.value else none)
    (hperm.filterMap fun row =>
      if row.scope = scope ∧ row.metricKey = "consumer_group_offset" then finiteValue row.value
      else none)
  have hlag := @isSome_detectConsumerLagBuildup scope _ _ _
    (samplesIn_eq hfinite scope "consumer_group_lag") (samplesIn_eq hfinite scope "consumer_group_offset")
  have hlag' := @isSome_detectConsumerLagBuildup scope _ _ _
    (samplesIn_eq hfinite' scope "consumer_group_lag")
    (samplesIn_eq hfinite' scope "consumer_group_offset")
  rw [@findingsByScope_detectWithoutCache exactArithmetic,
    @findingsByScope_detectWithoutCache exactArithmetic, hgroups,
    @computedFindings_of_perm exactArithmetic rows rows' scope hfinite hperm, Bool.eq_iff_iff, hlag,
    hlag']
  change HighLag (valuesOf rows' scope _) (valuesOf rows' scope _) ↔ _ at hhigh
  rw [hhigh]
  tauto

/-- **Detection and order.** Detection gives the same findings of every scope for every order of
the rows exactly when no scope is sensitive to order. -/
theorem detection_order_iff (hfinite : FiniteRows rows) :
    (∀ rows', rows'.Perm rows → ∀ scope,
        (@detectWithoutCache exactArithmetic rows').findingsByScope.get? scope =
          (@detectWithoutCache exactArithmetic rows).findingsByScope.get? scope) ↔
      ∀ scope, ¬ OrderSensitive rows scope := by
  constructor
  · rintro h scope ⟨hhigh, highest, hhighest, lowest, hlowest, hapart⟩
    obtain ⟨top, htop, hhighest⟩ := List.mem_filterMap.mp hhighest
    obtain ⟨bottom, hbottom, hlowest⟩ := List.mem_filterMap.mp hlowest
    have hne : top ≠ bottom := by
      rintro rfl
      rw [hhighest] at hlowest
      cases hlowest
      linarith
    -- the highest lag last, and the lowest last
    obtain ⟨rest, hrest⟩ : ∃ rest, rows.Perm (bottom :: top :: rest) :=
      ⟨_, (List.perm_cons_erase hbottom).trans
        ((List.perm_cons_erase ((List.mem_erase_of_ne hne).mpr htop)).cons bottom)⟩
    have hrising : (bottom :: (rest ++ [top])).Perm rows :=
      (((List.perm_append_singleton top rest).cons bottom).trans hrest.symm)
    have hfalling : (top :: (rest ++ [bottom])).Perm rows :=
      ((List.perm_append_singleton bottom rest).cons top).trans
        ((List.Perm.swap bottom top rest).trans hrest.symm)
    have hgrowth : ∀ {first last : EvidenceRow} {x y : ℚ},
        (if first.scope = scope ∧ first.metricKey = "consumer_group_lag"
          then finiteValue first.value else none) = some x →
        (if last.scope = scope ∧ last.metricKey = "consumer_group_lag"
          then finiteValue last.value else none) = some y →
        lagGrowth (valuesOf (first :: (rest ++ [last])) scope "consumer_group_lag") = y - x := by
      intro first last x y hfirst hlast
      rw [valuesOf, List.filterMap_cons, hfirst, List.filterMap_append, List.filterMap_cons, hlast]
      exact lagGrowth_cons_concat x y _
    have hup := (findings_eq_iff_of_perm hfinite hrising).mp (h _ hrising scope) hhigh
    have hdown := (findings_eq_iff_of_perm hfinite hfalling).mp (h _ hfalling scope) hhigh
    rw [hgrowth hlowest hhighest] at hup
    rw [hgrowth hhighest hlowest] at hdown
    have hcontra := hdown.mpr (hup.mp hapart)
    linarith
  · intro h rows' hperm scope
    refine (findings_eq_iff_of_perm hfinite hperm).mpr fun hhigh => ?_
    have hlags : (valuesOf rows' scope "consumer_group_lag").Perm
        (valuesOf rows scope "consumer_group_lag") := hperm.filterMap _
    rcases Nat.lt_or_ge (valuesOf rows scope "consumer_group_lag").length 2 with hone | htwo
    · -- one sample has one order
      have hsame : valuesOf rows' scope "consumer_group_lag" =
          valuesOf rows scope "consumer_group_lag" := by
        revert hlags hone
        rcases valuesOf rows scope "consumer_group_lag" with _ | ⟨x, _ | ⟨y, ys⟩⟩
        · exact fun hlags _ => hlags.eq_nil
        · exact fun hlags _ => List.perm_singleton.mp hlags
        · intro _ hone
          simp at hone
      rw [hsame]
    · have hsmall : ∀ {x}, (∃ highest ∈ valuesOf rows scope "consumer_group_lag",
          ∃ lowest ∈ valuesOf rows scope "consumer_group_lag", x = highest - lowest) → ¬ 25 ≤ x := by
        rintro x ⟨highest, hhighest, lowest, hlowest, rfl⟩ hapart
        exact h scope ⟨hhigh, highest, hhighest, lowest, hlowest, hapart⟩
      refine iff_of_false (hsmall ?_) (hsmall (lagGrowth_eq_sub htwo))
      obtain ⟨highest, hhighest, lowest, hlowest, hgrowth⟩ :=
        lagGrowth_eq_sub (hlags.length_eq.symm ▸ htwo)
      exact ⟨highest, hlags.mem_iff.mp hhighest, lowest, hlags.mem_iff.mp hlowest, hgrowth⟩

end Order

/-- The partitions of a consumer group, one of which lags. -/
def twoPartitions (first second : ℚ) : List EvidenceRow :=
  [⟨"consumer_group_lag", .finite first, .empty, ["prod", "eu", "west", "orders"]⟩,
    ⟨"consumer_group_lag", .finite second, .empty, ["prod", "eu", "west", "orders"]⟩,
    ⟨"consumer_group_offset", .finite 7, .empty, ["prod", "eu", "west", "orders"]⟩]

/-- Two partitions that lag equally. -/
theorem detection_order_iff_equal :
    (@detectWithoutCache exactArithmetic (twoPartitions 500 500).reverse).findingsByScope.get?
        ["prod", "eu", "west", "orders"] =
      (@detectWithoutCache exactArithmetic (twoPartitions 500 500)).findingsByScope.get?
        ["prod", "eu", "west", "orders"] := by
  refine (detection_order_iff ?_).mpr ?_ _ (List.reverse_perm _) _
  · decide
  · rintro scope ⟨-, highest, hhighest, lowest, hlowest, hapart⟩
    have hlags : ∀ x ∈ valuesOf (twoPartitions 500 500) scope "consumer_group_lag", x = 500 := by
      intro x hx
      obtain ⟨row, hrow, hvalue⟩ := List.mem_filterMap.mp hx
      simp only [twoPartitions, List.mem_cons, List.not_mem_nil, or_false] at hrow
      rcases hrow with rfl | rfl | rfl <;> simp_all [finiteValue]
    rw [hlags highest hhighest, hlags lowest hlowest] at hapart
    norm_num at hapart

/-- Two partitions, one of which lags: whether the group builds up a lag is a matter of which
series comes last. -/
theorem detection_depends_on_order :
    ∃ rows rows' : List EvidenceRow, FiniteRows rows ∧ rows'.Perm rows ∧
      (@detectWithoutCache exactArithmetic rows).findingsByScope.get? ["prod", "eu", "west", "orders"] =
        some [lagBuildup ["prod", "eu", "west", "orders"]] ∧
      (@detectWithoutCache exactArithmetic rows').findingsByScope.get?
        ["prod", "eu", "west", "orders"] = none :=
  ⟨twoPartitions 10 500, twoPartitions 500 10, by decide, by
    exact List.Perm.swap _ _ _, by decide +kernel, by decide +kernel⟩

end AiopsTriage
