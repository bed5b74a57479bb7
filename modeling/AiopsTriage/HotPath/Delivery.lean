import AiopsTriage.HotPath.Orders

/-!
# Decisions that are not dispatched

Every decision of a cycle has a round, but not every round gets to its dispatch: a triage
file is written once under an id derived from the fingerprint alone, and the file of a
later anomaly with the same fingerprint has another timestamp.

While the stores answer and the denylist removes nothing, a cycle dispatches all its
decisions exactly when each of its rounds has a case that can be assembled and for which
the stores have room (`decisions_dispatched_iff`).
-/

namespace AiopsTriage

section Delivery

variable [Platform] {config : HotPathConfig} {round : Round}

/-- What a round needs to get to its dispatch: a version of the metrics contract to stamp,
finite floats in the evidence, and room for its case in the stores. -/
structure Round.Accepted (config : HotPathConfig) (round : Round) : Prop where
  /-- the metrics contract has a version -/
  stamped : config.metricsContractVersion ≠ ""
  /-- the evidence has finite floats -/
  finite : ∀ g, round.gateInput = some g →
    (buildEvidenceSnapshot round.scope round.cycle.outputs.evidenceOutput
      round.cycle.outputs.peakOutput g).finite = true
  /-- the stores take the case -/
  storable : ∀ g casefile, round.gateInput = some g →
    assembleCasefileTriageStage round.scope round.cycle.outputs config.policies g round.decision
        (.aware round.env.triageTimestamp) = .ok casefile →
      Storable casefile round.env round.before

/-- What the stages hand to every round: a gate input with the decision's fingerprint, a
scope of one of the two shapes, and its topology. -/
structure Round.Staged (round : Round) : Prop where
  /-- the gate input is found -/
  found : ∃ g, round.gateInput = some g ∧ g.actionFingerprint = round.decision.actionFingerprint
  /-- the shape of the scope -/
  shape : round.scope.length = 3 ∨ round.scope.length = 4
  /-- its context is there -/
  context : (resolveScopeMapping round.scope round.cycle.outputs.topologyOutput.contextByScope).isSome
  /-- and so is the rest of its topology -/
  aligned : round.cycle.outputs.topologyOutput.Aligned

/-- A staged round dispatches exactly when it is accepted. -/
theorem Round.Staged.dispatches_iff (hstaged : round.Staged) (h : round.Performed config)
    (hdenylist : config.denylist.RemovesNothing) :
    round.Dispatches ↔ round.Accepted config := by
  obtain ⟨g, hfound, hsame⟩ := hstaged.found
  rw [h.dispatches_iff]
  constructor
  · rintro ⟨g', casefile, hfound', hcase, hstore⟩
    obtain rfl := Option.some.inj (hfound.symm.trans hfound')
    obtain ⟨draft, sanitized, hdraft, hsanitized, hsound, -⟩ := assemble_eq_ok.mp hcase
    obtain ⟨hstamped, -, -, -, hsnapshot, -⟩ := draftCasefile_ok hdraft
    obtain rfl := Except.ok.inj ((sanitizeCasefile_of_removesNothing hdenylist draft).symm.trans hsanitized)
    refine ⟨hstamped.metrics, ?_, ?_⟩
    · intro g' hg'
      obtain rfl := Option.some.inj (hfound.symm.trans hg')
      exact hsnapshot ▸ hsound
    · intro g' casefile' hg' hcase'
      obtain rfl := Option.some.inj (hfound.symm.trans hg')
      obtain rfl := Except.ok.inj (hcase.symm.trans hcase')
      exact hstore
  · rintro ⟨hversion, hfinite, hstorable⟩
    have hstamped : config.policies.Stamped := HotPathConfig.stamped_iff.mpr hversion
    have hdiagnosis : PyText.isBlank "v1" = false := by decide
    obtain ⟨casefile, hcase⟩ : ∃ casefile, assembleCasefileTriageStage round.scope
        round.cycle.outputs config.policies g round.decision (.aware round.env.triageTimestamp) =
          .ok casefile :=
      assembleCasefileTriageStage_returns hdenylist hsame hstaged.shape hdiagnosis hstaged.context
        hstaged.aligned hstamped (hfinite g hfound)
    exact ⟨g, casefile, hfound, hcase, hstorable g casefile hfound hcase⟩

/-- The rounds of a scheduler cycle are staged and performed. -/
theorem staged_of_mem {s : HotPathState} {feed : StageFeed}
    (h : round ∈ (schedulerCycle config s feed).1.rounds) :
    round.Staged ∧ round.Performed config := by
  unfold schedulerCycle at h
  split at h
  · cases h
  next cycle hcycle =>
  obtain ⟨gateInputs, g, hget, hfound, hsame⟩ := gateInput_of_mem h
  obtain ⟨rfl, hperformed⟩ := performed_of_mem h
  obtain ⟨stage, hstage, hcycle⟩ := Except.bind_eq_ok.mp hcycle
  rw [Except.pure_eq_ok] at hcycle
  rw [← hcycle] at hget
  obtain ⟨hcontext, hshape⟩ :=
    runGateInputStageCycle_scope hstage (Dict.mem_of_get?_ofPairs hget)
  have houtputs : round.cycle.outputs = feed.outputs := by rw [← hcycle]
  refine ⟨⟨⟨g, hfound, hsame⟩, hshape, ?_, ?_⟩, hperformed⟩
  · rw [houtputs]
    exact hcontext
  · rw [houtputs]
    exact feed.aligned

/-- A scheduler cycle dispatches all its decisions exactly when all its rounds dispatch. -/
theorem schedulerCycle_allDispatched_iff (s : HotPathState) (feed : StageFeed) :
    (schedulerCycle config s feed).1.AllDispatched ↔
      ∀ round ∈ (schedulerCycle config s feed).1.rounds, round.Dispatches := by
  unfold schedulerCycle
  split
  · exact iff_of_true .nil (by simp)
  · exact allDispatched_iff

/-- A scheduler cycle dispatches all its decisions exactly when all its rounds are accepted. -/
theorem schedulerCycle_accepted_iff (hdenylist : config.denylist.RemovesNothing)
    (s : HotPathState) (feed : StageFeed) :
    (schedulerCycle config s feed).1.AllDispatched ↔
      ∀ round ∈ (schedulerCycle config s feed).1.rounds, round.Accepted config := by
  rw [schedulerCycle_allDispatched_iff]
  refine forall₂_congr fun round hround => ?_
  obtain ⟨hstaged, hperformed⟩ := staged_of_mem hround
  exact hstaged.dispatches_iff hperformed hdenylist

/-- **Which decisions are dispatched**: a run of the scheduler loop dispatches every decision
in its cycle exactly when every round is accepted. -/
theorem decisions_dispatched_iff (hdenylist : config.denylist.RemovesNothing) (s : HotPathState)
    (feeds : List StageFeed) :
    (∀ report ∈ (schedulerRun config s feeds).1, report.AllDispatched) ↔
      ∀ report ∈ (schedulerRun config s feeds).1, ∀ round ∈ report.rounds, round.Accepted config := by
  refine forall₂_congr fun report hreport => ?_
  obtain ⟨feed, -, t, rfl⟩ :=
    (Runs.trace_forall₂ (schedulerCycle config) s feeds).exists_of_mem_right hreport
  exact schedulerCycle_accepted_iff hdenylist t feed

end Delivery

/-- SHA-256 on the two fingerprints below. -/
@[reducible] def platformMoved : Platform :=
  asciiPlatform
    [(.utf8 "prod/cluster-a/stream-orders/SINK_TOPIC/orders/VOLUME_DROP/TIER_0",
        "e1da927509a2313f0be7ac515507cbf82bc3c6458ab5d27799292dc329a84d09"),
      (.utf8 "prod/cluster-a/stream-archive/SINK_TOPIC/orders/VOLUME_DROP/TIER_0",
        "dd01eee2f61f5372be91e248802359c2ae43a38ef33325624f35552d0480c39e")]

/-- The cycles on an anomaly that is back after three hours, when the topic is on another stream. -/
def movedAnomaly : List StageFeed :=
  [ordersFeed newYear2026 (healthyAt newYear2026),
    feedOn "stream-archive" (newYear2026 + minutes 180) (healthyAt (newYear2026 + minutes 180))]

/-- Both cycles page, and both rounds are accepted. -/
theorem decisions_dispatched_orders :
    let _ := platformMoved
    let reports := (schedulerRun ordersConfig {} movedAnomaly).1
    reports.map (fun report => report.rounds.map fun round => round.decision.finalAction) =
        [[.page], [.page]] ∧
      (∀ report ∈ reports, report.AllDispatched) ∧
      ∀ report ∈ reports, ∀ round ∈ report.rounds, round.Accepted ordersConfig := by
  intro _ reports
  have hcheck : reports.map (fun report => report.rounds.map fun round =>
      (round.decision.finalAction, decide round.Dispatches)) = [[(.page, true)], [(.page, true)]] := by
    decide +kernel
  have hdispatched : ∀ report ∈ reports, report.AllDispatched := by
    intro report hreport
    obtain ⟨feed, -, t, rfl⟩ :=
      (Runs.trace_forall₂ (schedulerCycle ordersConfig) {} movedAnomaly).exists_of_mem_right hreport
    refine (schedulerCycle_allDispatched_iff t feed).mpr fun round hround => ?_
    have hmem := hcheck ▸ List.mem_map_of_mem hreport
    rw [List.mem_pair, or_self] at hmem
    have hpair := List.mem_singleton.mp (hmem ▸ List.mem_map_of_mem hround)
    exact of_decide_eq_true (congrArg Prod.snd hpair)
  refine ⟨?_, hdispatched, ?_⟩
  · have hactions := congrArg (List.map (List.map Prod.fst)) hcheck
    rw [List.map_map] at hactions
    refine Eq.trans (List.map_congr_left fun report _ => ?_) hactions
    rw [Function.comp, List.map_map]
    rfl
  · exact (decisions_dispatched_iff ordersConfig_removesNothing {} movedAnomaly).mp hdispatched

/-- The cycles on an anomaly that is back after three hours. -/
def laterAnomaly : List StageFeed :=
  [ordersFeed newYear2026 (healthyAt newYear2026),
    ordersFeed (newYear2026 + minutes 180) (healthyAt (newYear2026 + minutes 180))]

/-- The stores are empty and every call is answered, and the page on the later anomaly is
not dispatched. -/
theorem later_anomaly_not_dispatched :
    @DenylistV1.RemovesNothing (asciiPlatform []) ordersConfig.denylist ∧
      (∀ feed ∈ laterAnomaly, ∀ i, (feed.roundEnv i).healthy = true) ∧
      ¬ ∀ report ∈ (@schedulerRun (asciiPlatform []) ordersConfig {} laterAnomaly).1,
        report.AllDispatched := by
  refine ⟨@ordersConfig_removesNothing (asciiPlatform []), ?_, ?_⟩
  · intro feed hfeed i
    rcases List.mem_cons.mp hfeed with rfl | hfeed
    · rfl
    · obtain rfl := List.mem_singleton.mp hfeed
      rfl
  · have hlost : ∃ report ∈ (@schedulerRun (asciiPlatform []) ordersConfig {} laterAnomaly).1,
        ∃ round ∈ report.rounds, round.decision.finalAction = .page ∧ ¬ round.Dispatches := by
      decide +kernel
    obtain ⟨report, hreport, round, hround, -, hlost⟩ := hlost
    exact fun h => hlost ((h report hreport).dispatches hround)

end AiopsTriage
