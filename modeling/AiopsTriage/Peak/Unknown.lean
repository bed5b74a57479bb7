import AiopsTriage.Gating.Version1
import AiopsTriage.Peak.Classify
import AiopsTriage.Peak.Streak

/-!
# UNKNOWN is not zero

Missing evidence is to stay UNKNOWN on its way through the stages. Two places let it turn
into a plain value.

The streak of a consumer group is kept for all of its topics together, and the evidence
counts as sufficient as soon as one topic has all of it. So the streak that the finding on
one topic built up is taken to zero when this topic's evidence gets lost, unless no other
topic of the group has its evidence either (`group_streak_held_iff`).

The peak context has a flag that holds exactly of PEAK, and the gate input is given the flag:
an UNKNOWN classification arrives there as off-peak (`gate_peak_meaning_iff`).
-/

namespace AiopsTriage

/-! ## Evidence of a consumer group -/

/-- The status of a piece of evidence; what is not there is UNKNOWN. -/
def evidenceStatusOf (evidence : Option EvidenceByScope) (scope : Scope) (metric : String) :
    EvidenceStatus :=
  ((evidence.bind fun byScope => byScope.get? scope).bind fun status => status.get? metric).getD
    .unknown

/-- The evidence for lag on one topic of a consumer group: lag and offset are PRESENT. -/
def LagEvidencePresent (evidence : Option EvidenceByScope) (env clusterId group topic : String) :
    Prop :=
  evidenceStatusOf evidence [env, clusterId, group, topic] "consumer_group_lag" = .present ∧
    evidenceStatusOf evidence [env, clusterId, group, topic] "consumer_group_offset" = .present

/-- The key of a lagging consumer group. -/
def groupLagKey (env clusterId group : String) : SustainedIdentityKey :=
  ⟨env, clusterId, "group:" ++ group, StrEnum.value AnomalyFamily.consumerLag⟩

theorem afterTag_append (tag s : String) : afterTag tag (tag ++ s) = some s := by
  have hinitial : tag.toList.isPrefixOf (tag ++ s).toList = true := by
    rw [String.toList_append, List.isPrefixOf_iff_prefix]
    exact List.prefix_append _ _
  rw [afterTag, if_pos hinitial, String.toList_append, ← String.length_toList, List.drop_left,
    String.ofList_toList]

theorem afterTag_topic_group (group : String) : afterTag "topic:" ("group:" ++ group) = none := by
  refine if_neg ?_
  rw [String.toList_append, List.isPrefixOf_iff_prefix]
  intro h
  obtain ⟨rest, hrest⟩ := h
  have hhead : some 't' = some 'g' := congrArg List.head? hrest
  exact absurd hhead (by decide)

/-- A scope of a consumer group is one of its topics. -/
theorem eq_of_group_scope {scope : Scope} {env clusterId group : String}
    (hlength : scope.length = 4) (htake : scope.take 3 = [env, clusterId, group]) :
    ∃ topic, scope = [env, clusterId, group, topic] := by
  obtain ⟨a, b, c, d, rfl⟩ := List.length_eq_four.mp hlength
  cases htake
  exact ⟨d, rfl⟩

/-- **Evidence for a group**: it is insufficient exactly when a status map is given and no
topic of the group has its lag and its offset PRESENT. -/
theorem insufficient_group_iff {evidence : Option EvidenceByScope} {env clusterId group : String} :
    hasInsufficientEvidenceForSustainedKey (groupLagKey env clusterId group) evidence = true ↔
      evidence.isSome ∧ ∀ topic, ¬ LagEvidencePresent evidence env clusterId group topic := by
  cases evidence with
  | none => exact iff_of_false Bool.false_ne_true fun h => Bool.false_ne_true h.1
  | some byScope =>
    have hrequired : Dict.find (groupLagKey env clusterId group).anomalyFamily
        requiredMetricsByAnomalyFamily =
          some ["consumer_group_lag", "consumer_group_offset"] := rfl
    have hcandidates : candidateScopeStatusMapsForSustainedKey (groupLagKey env clusterId group)
        byScope = (byScope.entries.filter fun entry =>
          entry.1.length == 4 && entry.1.take 3 == [env, clusterId, group]).map Prod.snd := by
      simp only [candidateScopeStatusMapsForSustainedKey, groupLagKey, afterTag_topic_group,
        afterTag_append]
    simp only [hasInsufficientEvidenceForSustainedKey, hrequired, hcandidates]
    simp only [Option.isSome_some, true_and, Bool.not_eq_true', List.any_eq_false, List.all_cons,
      List.all_nil, Bool.and_true, Bool.and_eq_true, beq_iff_eq]
    constructor
    · rintro h topic ⟨hlag, hoffset⟩
      simp only [evidenceStatusOf, Option.bind_some] at hlag hoffset
      cases hmap : byScope.get? [env, clusterId, group, topic] with
      | none =>
        rw [hmap] at hlag
        cases hlag
      | some status =>
        rw [hmap, Option.bind_some] at hlag hoffset
        refine h status (List.mem_map.mpr ⟨_, List.mem_filter.mpr ⟨Dict.get?_eq_some.mp hmap, ?_⟩,
          rfl⟩) ⟨hlag, hoffset⟩
        simp
    · rintro h status hstatus ⟨hlag, hoffset⟩
      obtain ⟨⟨scope, _⟩, hentry, rfl⟩ := List.mem_map.mp hstatus
      obtain ⟨hentry, hscope⟩ := List.mem_filter.mp hentry
      rw [Bool.and_eq_true, beq_iff_eq, beq_iff_eq] at hscope
      obtain ⟨topic, rfl⟩ := eq_of_group_scope hscope.1 hscope.2
      refine h topic ⟨?_, ?_⟩
      · rw [evidenceStatusOf, Option.bind_some, Dict.get?_eq_some.mpr hentry]
        exact hlag
      · rw [evidenceStatusOf, Option.bind_some, Dict.get?_eq_some.mpr hentry]
        exact hoffset

/-! ## Holding a streak -/

variable {requiredBuckets m : Int} {prior : Dict SustainedIdentityKey SustainedWindowState}
  {first second : SustainedCycle} {firstStatuses secondStatuses : SustainedByKey}

/-- The streak a window state holds for a key. -/
def priorStreak (prior : Dict SustainedIdentityKey SustainedWindowState)
    (key : SustainedIdentityKey) : Int :=
  ((prior.get? key).map SustainedWindowState.consecutiveAnomalousBuckets).getD 0

/-- **Holding the streak of a group**: take two cycles in successive buckets, in the first of
which the streak of a group grew by a finding on one of its topics, and in the second of which
the group has no finding and the topic lacks evidence. The streak is held exactly when the
second cycle is given a status map in which no other topic of the group has its lag and its
offset PRESENT. -/
theorem group_streak_held_iff {env clusterId group topic : String}
    (hprior : ∀ key state, prior.get? key = some state → 0 ≤ state.consecutiveAnomalousBuckets)
    (hfirst : computeSustainedStatusByKey first prior requiredBuckets m = .ok firstStatuses)
    (hsecond : computeSustainedStatusByKey second
      (buildSustainedWindowStateByKey firstStatuses) requiredBuckets m = .ok secondStatuses)
    (hsuccessive : SustainedCycle.Successive m first second)
    (hfinding : ⟨.consumerLag, [env, clusterId, group, topic]⟩ ∈ first.anomalyFindings)
    (hgrew : priorStreak prior (groupLagKey env clusterId group) <
      storedStreak firstStatuses (groupLagKey env clusterId group))
    (hhealthy : second.isAnomalous (groupLagKey env clusterId group) = false)
    (hlost : ¬ LagEvidencePresent second.evidenceStatusMapByScope env clusterId group topic) :
    storedStreak secondStatuses (groupLagKey env clusterId group) =
        storedStreak firstStatuses (groupLagKey env clusterId group) ↔
      second.evidenceStatusMapByScope.isSome ∧ ∀ other, other ≠ topic →
        ¬ LagEvidencePresent second.evidenceStatusMapByScope env clusterId group other := by
  have hothers : (∀ other, other ≠ topic →
        ¬ LagEvidencePresent second.evidenceStatusMapByScope env clusterId group other) ↔
      ∀ other, ¬ LagEvidencePresent second.evidenceStatusMapByScope env clusterId group other := by
    refine ⟨fun h other => ?_, fun h other _ => h other⟩
    by_cases hother : other = topic
    · exact hother ▸ hlost
    · exact h other hother
  generalize hkey : groupLagKey env clusterId group = key at *
  have hanomalous : first.isAnomalous key = true := by
    rw [isAnomalous_iff, ← hkey]
    exact List.mem_filterMap.mpr ⟨_, hfinding, rfl⟩
  obtain ⟨hstored, -⟩ := stored_eq hfirst key
  obtain ⟨hstored', -⟩ := stored_eq hsecond key
  -- the first cycle hands on what it stored
  have hnext : (buildSustainedWindowStateByKey firstStatuses).get? key =
      some ⟨key, storedStreak firstStatuses key, first.evaluationTime⟩ := by
    rcases computeSustainedStatusByKey_spec hfirst key with ⟨-, hstreak, -, hnext⟩ | ⟨-, hnone, -⟩
    · rw [hnext, hstreak]
    · rw [hanomalous] at hnone
      cases hnone
  have hpositive : 0 < storedStreak firstStatuses key := by
    refine lt_of_le_of_lt ?_ hgrew
    rw [priorStreak]
    cases hstate : prior.get? key with
    | none => exact le_refl _
    | some state => exact hprior key state hstate
  have hcarried : carriedStreak m ((buildSustainedWindowStateByKey firstStatuses).get? key)
      second.evaluationTime = storedStreak firstStatuses key := by
    rw [hnext]
    exact if_pos hsuccessive
  rw [hothers, ← insufficient_group_iff, hkey, hstored', streakOf, hcarried, hhealthy]
  change _ ↔ second.insufficient key = true
  cases second.insufficient key with
  | true => exact iff_of_true rfl rfl
  | false =>
    rw [if_neg Bool.false_ne_true, if_neg Bool.false_ne_true]
    exact iff_of_false hpositive.ne Bool.false_ne_true

/-- Lag and offset of a topic of the payments workers, both of one status. -/
def lagEvidence (topic : String) (status : EvidenceStatus) : Scope × Dict String EvidenceStatus :=
  (["prod", "cluster-a", "payments-worker", topic],
    .ofPairs [("consumer_group_lag", status), ("consumer_group_offset", status)])

/-- A cycle that sees the payments workers lag on the orders topic. -/
def lagOnOrders : SustainedCycle where
  anomalyFindings := [⟨.consumerLag, ["prod", "cluster-a", "payments-worker", "orders"]⟩]
  evidenceStatusMapByScope := some (.ofPairs [lagEvidence "orders" .present])
  evaluationTime := 0

/-- The next cycle: the series of the orders topic are missing, those of another topic have
some status. -/
def ordersLost (status : EvidenceStatus) : SustainedCycle where
  anomalyFindings := []
  evidenceStatusMapByScope :=
    some (.ofPairs [lagEvidence "orders" .unknown, lagEvidence "refunds" status])
  evaluationTime := 5 * 60000000

/-- The streaks of the payments workers after both cycles. -/
def streaksOverLoss (status : EvidenceStatus) : Except Failure (Int × Int) := do
  let firstStatuses ← computeSustainedStatusByKey lagOnOrders .empty 3 5
  let secondStatuses ← computeSustainedStatusByKey (ordersLost status)
    (buildSustainedWindowStateByKey firstStatuses) 3 5
  return (storedStreak firstStatuses (groupLagKey "prod" "cluster-a" "payments-worker"),
    storedStreak secondStatuses (groupLagKey "prod" "cluster-a" "payments-worker"))

theorem streaksOverLoss_ok {status : EvidenceStatus} {streaks : Int × Int}
    (h : streaksOverLoss status = .ok streaks) : ∃ firstStatuses secondStatuses,
      computeSustainedStatusByKey lagOnOrders .empty 3 5 = .ok firstStatuses ∧
      computeSustainedStatusByKey (ordersLost status)
        (buildSustainedWindowStateByKey firstStatuses) 3 5 = .ok secondStatuses ∧
      storedStreak firstStatuses (groupLagKey "prod" "cluster-a" "payments-worker") = streaks.1 ∧
      storedStreak secondStatuses (groupLagKey "prod" "cluster-a" "payments-worker") =
        streaks.2 := by
  obtain ⟨firstStatuses, hfirst, h⟩ := Except.bind_eq_ok.mp h
  obtain ⟨secondStatuses, hsecond, h⟩ := Except.bind_eq_ok.mp h
  rw [Except.pure_eq_ok] at h
  subst h
  exact ⟨firstStatuses, secondStatuses, hfirst, hsecond, rfl, rfl⟩

/-- The finding of the first cycle. -/
theorem mem_lagOnOrders :
    ⟨.consumerLag, ["prod", "cluster-a", "payments-worker", "orders"]⟩ ∈
      lagOnOrders.anomalyFindings := List.mem_cons_self

theorem lag_unknown (topic : String) :
    evidenceStatusOf (ordersLost .unknown).evidenceStatusMapByScope
      ["prod", "cluster-a", "payments-worker", topic] "consumer_group_lag" = .unknown := by
  rw [evidenceStatusOf, ordersLost, Option.bind_some, Dict.get?_ofPairs (by decide), lagEvidence,
    lagEvidence, Dict.find_cons, Dict.find_cons]
  split
  · rfl
  · split <;> rfl

/-- When the other topic is UNKNOWN too, the streak is held. -/
theorem group_streak_held_refunds : ∃ firstStatuses secondStatuses,
    computeSustainedStatusByKey lagOnOrders .empty 3 5 = .ok firstStatuses ∧
    computeSustainedStatusByKey (ordersLost .unknown)
      (buildSustainedWindowStateByKey firstStatuses) 3 5 = .ok secondStatuses ∧
    storedStreak secondStatuses (groupLagKey "prod" "cluster-a" "payments-worker") =
      storedStreak firstStatuses (groupLagKey "prod" "cluster-a" "payments-worker") := by
  have hstreaks : streaksOverLoss .unknown = .ok (1, 1) := by decide +kernel
  obtain ⟨firstStatuses, secondStatuses, hfirst, hsecond, hgrew, -⟩ := streaksOverLoss_ok hstreaks
  have hlost : ∀ topic, ¬ LagEvidencePresent (ordersLost .unknown).evidenceStatusMapByScope "prod"
      "cluster-a" "payments-worker" topic := by
    rintro topic ⟨hlag, -⟩
    rw [lag_unknown] at hlag
    cases hlag
  refine ⟨firstStatuses, secondStatuses, hfirst, hsecond,
    (group_streak_held_iff (fun key state h => ?_) hfirst hsecond (by decide +kernel)
      mem_lagOnOrders ?_ (by decide +kernel) (hlost "orders")).mpr
      ⟨rfl, fun other _ => hlost other⟩⟩
  · cases h
  · rw [hgrew]
    decide

/-- When the other topic is PRESENT, the streak is lost. -/
theorem present_topic_resets_streak : ∃ firstStatuses secondStatuses,
    computeSustainedStatusByKey lagOnOrders .empty 3 5 = .ok firstStatuses ∧
    computeSustainedStatusByKey (ordersLost .present)
      (buildSustainedWindowStateByKey firstStatuses) 3 5 = .ok secondStatuses ∧
    SustainedCycle.Successive 5 lagOnOrders (ordersLost .present) ∧
    ⟨.consumerLag, ["prod", "cluster-a", "payments-worker", "orders"]⟩ ∈
      lagOnOrders.anomalyFindings ∧
    (ordersLost .present).isAnomalous (groupLagKey "prod" "cluster-a" "payments-worker") =
      false ∧
    evidenceStatusOf (ordersLost .present).evidenceStatusMapByScope
      ["prod", "cluster-a", "payments-worker", "orders"] "consumer_group_lag" = .unknown ∧
    storedStreak firstStatuses (groupLagKey "prod" "cluster-a" "payments-worker") = 1 ∧
    storedStreak secondStatuses (groupLagKey "prod" "cluster-a" "payments-worker") = 0 := by
  have hstreaks : streaksOverLoss .present = .ok (1, 0) := by decide +kernel
  obtain ⟨firstStatuses, secondStatuses, hfirst, hsecond, hgrew, hreset⟩ :=
    streaksOverLoss_ok hstreaks
  exact ⟨firstStatuses, secondStatuses, hfirst, hsecond, by decide +kernel, List.mem_cons_self,
    by decide +kernel, by decide +kernel, hgrew, hreset⟩

/-! ## The peak flag of a gate input -/

section Gate

variable [Platform] {evidenceOutput : EvidenceStageOutput} {peakOutput : PeakStageOutput}
  {contextByScope : Dict Scope GateInputContext} {maxSafeAction : Option Action}
  {policy : PeakPolicyV1} {rulebook : RulebookV1} {inputs : PeakStageInputs}
  {output : PeakStageResult}

/-- What the flag of a gate input is to say: nothing of a topic without a classification or with
an UNKNOWN one, else whether it is PEAK. -/
def peakMeaning : Option PeakState → Option Bool
  | none => none
  | some .unknown => none
  | some .peak => some true
  | some .nearPeak => some false
  | some .offPeak => some false

/-- A gate input is given the flag of the context of its scope's topic. -/
theorem collectScopeGateInputs_peak {entry : Scope × List Finding}
    {result : Scope × List GateInputV1}
    (h : collectScopeGateInputs evidenceOutput peakOutput contextByScope maxSafeAction entry =
      .ok result) {g : GateInputV1} (hg : g ∈ result.2) :
    ∃ topicScope, toTopicScope result.1 = some topicScope ∧
      g.peak = (peakOutput.peakContextByScope.get? topicScope).map
        PeakWindowContext.isPeakWindow := by
  obtain ⟨scope, findings⟩ := entry
  unfold collectScopeGateInputs at h
  simp only at h
  split at h
  · cases h
  · obtain ⟨topic, htopic, h⟩ := Except.bind_eq_ok.mp h
    obtain ⟨env, henv, h⟩ := Except.bind_eq_ok.mp h
    obtain ⟨gateInputs, hinputs, h⟩ := Except.bind_eq_ok.mp h
    rw [Except.pure_eq_ok] at h
    subst h
    obtain ⟨finding, -, hfinding⟩ := (Except.mapM_eq_ok.mp hinputs).exists_of_mem_right hg
    obtain ⟨family, -, hfinding⟩ := Except.bind_eq_ok.mp hfinding
    obtain ⟨key, -, hfinding⟩ := Except.bind_eq_ok.mp hfinding
    obtain ⟨confidence, -, hfinding⟩ := Except.bind_eq_ok.mp hfinding
    rw [Except.pure_eq_ok] at hfinding
    subst hfinding
    refine ⟨[StrEnum.value env, scope.getD 1 "", topic], ?_, rfl⟩
    -- the environment of the scope is one of the enumeration
    have henv : StrEnum.value env = scope.headD "" := by
      unfold environmentOf at henv
      split at henv
      · next member hmember =>
        cases henv
        exact StrEnum.ofValue?_eq_some.mp hmember
      · cases henv
    rw [henv]
    unfold topicFromScope at htopic
    split at htopic
    · cases htopic
      rfl
    · cases htopic
      rfl
    · cases htopic

theorem collectGateInputsByScope_peak {result : List (Scope × List GateInputV1)}
    (h : collectGateInputsByScope evidenceOutput peakOutput contextByScope maxSafeAction =
      .ok result) {entry : Scope × List GateInputV1} (hentry : entry ∈ result) {g : GateInputV1}
    (hg : g ∈ entry.2) :
    ∃ topicScope, toTopicScope entry.1 = some topicScope ∧
      g.peak = (peakOutput.peakContextByScope.get? topicScope).map
        PeakWindowContext.isPeakWindow := by
  obtain ⟨collected, hcollected, h⟩ := Except.bind_eq_ok.mp h
  cases h
  obtain ⟨source, -, hsource⟩ :=
    (Except.mapM_eq_ok.mp hcollected).exists_of_mem_right (List.mem_filter.mp hentry).1
  exact collectScopeGateInputs_peak hsource hg

/-- **The peak flag**: whatever the two stages were given, the flag of a gate input says what
the classification of its scope's topic means exactly when the topic is unknown to the peak
stage, or has both a finite current value and a finite value in its history. -/
theorem gate_peak_meaning_iff (hpeak : collectPeakStageOutput policy rulebook inputs = .ok output)
    {result : List (Scope × List GateInputV1)}
    (h : collectGateInputsByScope evidenceOutput output.toPeakStageOutput contextByScope
      maxSafeAction = .ok result) {entry : Scope × List GateInputV1} (hentry : entry ∈ result)
    {g : GateInputV1} (hg : g ∈ entry.2) {topicScope : Scope}
    (htopic : toTopicScope entry.1 = some topicScope) :
    g.peak = peakMeaning
        ((output.classificationsByScope.get? topicScope).map PeakClassification.state) ↔
      ¬ inputs.Knows topicScope ∨
        (inputs.HasCurrentValue topicScope ∧ inputs.HasHistory topicScope) := by
  obtain ⟨found, hfound, hflag⟩ := collectGateInputsByScope_peak h hentry hg
  obtain rfl := Option.some.inj (htopic.symm.trans hfound)
  obtain ⟨hknown, hunknown⟩ := collectPeakStageOutput_get? hpeak topicScope
  by_cases hknows : inputs.Knows topicScope
  · obtain ⟨peak, hok, hclassification, hcontext⟩ := hknown hknows
    obtain ⟨hstate, hwindow⟩ := peakOfScope_ok hok
    rw [hflag, hcontext, hclassification, or_iff_right (not_not.mpr hknows), ← not_iff_not,
      ← hstate]
    simp only [Option.map_some, PeakClassification.context, hwindow]
    cases peak.classification.state <;> decide
  · obtain ⟨hclassification, hcontext⟩ := hunknown hknows
    rw [hflag, hcontext, hclassification]
    exact iff_of_true rfl (.inl hknows)

end Gate

/-- The scope of the orders topic. -/
def ordersTopic : Scope := ["prod", "cluster-a", "orders"]

/-- A cycle in which the orders topic has five messages a second and some history. -/
def ordersTraffic (history : List PyFloat) : PeakStageInputs where
  anomalyFindings := []
  evidenceStatusMapByScope := none
  evaluationTime := 0
  rows := [⟨topicMessagesMetricKey, .finite 5, .empty, ordersTopic⟩]
  historicalWindowsByScope := .ofPairs [(ordersTopic, history)]

/-- A finding on the orders topic. -/
def ordersDrop : EvidenceStageOutput where
  rows := []
  gateFindingsByScope := .ofPairs [(ordersTopic, [volumeFinding])]

/-- The topology context of the orders topic. -/
def ordersContexts : Dict Scope GateInputContext :=
  .ofPairs [(ordersTopic,
    { streamId := "stream-orders", topicRole := .sink, criticalityTier := .tier0 })]

/-- The peak flags the gate inputs of the orders topic get, and its classification. -/
def ordersFlags [Platform] (history : List PyFloat) :
    Except Failure (List (Scope × List (Option Bool)) × Option PeakState) := do
  let output ← collectPeakStageOutput peakPolicyV1 RulebookV1.v1 (ordersTraffic history)
  let inputs ← collectGateInputsByScope ordersDrop output.toPeakStageOutput ordersContexts none
  return (inputs.map fun entry => (entry.1, entry.2.map GateInputV1.peak),
    (output.classificationsByScope.get? ordersTopic).map PeakClassification.state)

theorem ordersFlags_ok [Platform] {history : List PyFloat} {flag : Option Bool}
    {state : Option PeakState} (h : ordersFlags history = .ok ([(ordersTopic, [flag])], state)) :
    ∃ output g, collectPeakStageOutput peakPolicyV1 RulebookV1.v1 (ordersTraffic history) =
        .ok output ∧
      collectGateInputsByScope ordersDrop output.toPeakStageOutput ordersContexts none =
        .ok [(ordersTopic, [g])] ∧ g.peak = flag ∧
      (output.classificationsByScope.get? ordersTopic).map PeakClassification.state = state := by
  obtain ⟨output, houtput, h⟩ := Except.bind_eq_ok.mp h
  obtain ⟨inputs, hinputs, h⟩ := Except.bind_eq_ok.mp h
  rw [Except.pure_eq_ok, Prod.mk.injEq] at h
  obtain ⟨hflags, hstate⟩ := h
  -- one scope with one gate input
  obtain ⟨⟨scope, gs⟩, rfl, hentry⟩ := List.map_eq_singleton_iff.mp hflags
  obtain ⟨rfl, hgs⟩ := Prod.mk.inj hentry
  obtain ⟨g, rfl, hflag⟩ := List.map_eq_singleton_iff.mp hgs
  exact ⟨output, g, houtput, hinputs, hflag, hstate⟩

/-- With a finite history the flag says what the classification means, here PEAK. -/
theorem gate_peak_meaning_orders : ∃ output g,
    collectPeakStageOutput peakPolicyV1 RulebookV1.v1 (ordersTraffic [.finite 3, .finite 4]) =
      .ok output ∧
    @collectGateInputsByScope (asciiPlatform []) ordersDrop output.toPeakStageOutput ordersContexts
      none = .ok [(ordersTopic, [g])] ∧
    g.peak = peakMeaning
      ((output.classificationsByScope.get? ordersTopic).map PeakClassification.state) := by
  have hflags : @ordersFlags (asciiPlatform []) [.finite 3, .finite 4] =
      .ok ([(ordersTopic, [some true])], some .peak) := by
    decide +kernel
  obtain ⟨output, g, houtput, hinputs, -, -⟩ := @ordersFlags_ok (asciiPlatform []) _ _ _ hflags
  refine ⟨output, g, houtput, hinputs, (@gate_peak_meaning_iff (asciiPlatform []) _ _ _ _ _ _ _
    houtput _ hinputs _ List.mem_cons_self g List.mem_cons_self _ rfl).mpr (.inr ⟨?_, ?_⟩)⟩
  · exact ⟨_, List.mem_cons_self, rfl, rfl, rfl⟩
  · exact ⟨.finite 3, by decide +kernel, rfl⟩

/-- Without history the classification is UNKNOWN and the flag says off-peak. -/
theorem unknown_arrives_as_off_peak : ∃ output g,
    collectPeakStageOutput peakPolicyV1 RulebookV1.v1 (ordersTraffic []) = .ok output ∧
    @collectGateInputsByScope (asciiPlatform []) ordersDrop output.toPeakStageOutput ordersContexts
      none = .ok [(ordersTopic, [g])] ∧
    (output.classificationsByScope.get? ordersTopic).map PeakClassification.state =
      some .unknown ∧
    g.peak = some false := by
  have hflags : @ordersFlags (asciiPlatform []) [] =
      .ok ([(ordersTopic, [some false])], some .unknown) := by
    decide +kernel
  obtain ⟨output, g, houtput, hinputs, hflag, hstate⟩ :=
    @ordersFlags_ok (asciiPlatform []) _ _ _ hflags
  exact ⟨output, g, houtput, hinputs, hstate, hflag⟩

end AiopsTriage
