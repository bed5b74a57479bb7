import AiopsTriage.Gating.Dedupe
import AiopsTriage.Gating.Inputs

/-!
# What the wired stages decide

`hotPathDecisions` is the part of a hot-path cycle that leads from the stage outputs to
the decisions: topology, gate inputs, gates. What is proposed to the gates is what the
topology context proposes, at most (`runGateInputStageCycle_proposed_le`), and what is
decided is no more urgent (`evaluateRulebookGateInputsByScope_le`).

The topology stage builds its contexts without a proposed action and without a
confidence, and nothing after it fills them in, so the wired pipeline never decides
anything but `OBSERVE` (`hot_path_observes`), whatever is anomalous.
-/

namespace AiopsTriage

section Wiring

variable [Platform] {σ : Type}

/-- The decisions of a cycle: topology, gate inputs and gates, as the scheduler loop
runs them. -/
def hotPathDecisions (snapshot : TopologyRegistrySnapshot) (evidenceOutput : EvidenceStageOutput)
    (peakOutput : PeakStageOutput) (rulebook : RulebookV1)
    (storeAt : Nat → Option (DedupeStore σ)) (s : σ) :
    Except Failure (List (Scope × List ActionDecisionV1)) × σ :=
  let topologyOutput := runTopologyStageCycle snapshot evidenceOutput
  match runGateInputStageCycle evidenceOutput peakOutput topologyOutput.contextByScope with
  | .error e => (.error e, s)
  | .ok gateInputs => evaluateRulebookGateInputsByScope rulebook storeAt 0 gateInputs s

/-! ## What is proposed -/

variable {evidenceOutput : EvidenceStageOutput} {peakOutput : PeakStageOutput}
  {contextByScope : Dict Scope GateInputContext} {maxSafeAction : Option Action}

/-- A gate input proposes what its context does, capped. -/
theorem gateInputOf_ok {scope : Scope} {findings : List Finding} {context : GateInputContext}
    {env : Environment} {topic : String} {finding : Finding} {g : GateInputV1}
    (h : gateInputOf scope findings context env topic evidenceOutput peakOutput maxSafeAction
      finding = .ok g) :
    g.proposedAction = capActionToMaxSafe context.proposedAction maxSafeAction := by
  obtain ⟨family, -, h⟩ := Except.bind_eq_ok.mp h
  obtain ⟨key, -, h⟩ := Except.bind_eq_ok.mp h
  obtain ⟨confidence, -, h⟩ := Except.bind_eq_ok.mp h
  cases h
  rfl

/-- The gate inputs of a scope all come from its one context. -/
theorem collectScopeGateInputs_ok {entry : Scope × List Finding}
    {result : Scope × List GateInputV1}
    (h : collectScopeGateInputs evidenceOutput peakOutput contextByScope maxSafeAction entry =
      .ok result) :
    ∃ context, resolveContextForScope entry.1 contextByScope = some context ∧
      ∀ g ∈ result.2, g.proposedAction = capActionToMaxSafe context.proposedAction maxSafeAction := by
  obtain ⟨scope, findings⟩ := entry
  unfold collectScopeGateInputs at h
  simp only at h
  split at h
  · cases h
  · next context hcontext =>
    refine ⟨context, hcontext, ?_⟩
    obtain ⟨topic, -, h⟩ := Except.bind_eq_ok.mp h
    obtain ⟨env, -, h⟩ := Except.bind_eq_ok.mp h
    obtain ⟨gateInputs, hinputs, h⟩ := Except.bind_eq_ok.mp h
    cases h
    intro g hg
    obtain ⟨finding, -, hfinding⟩ := (Except.mapM_eq_ok.mp hinputs).exists_of_mem_right hg
    exact gateInputOf_ok hfinding

/-- **What is proposed**: every gate input of the cycle proposes at most what some
context does. -/
theorem runGateInputStageCycle_proposed_le {result : List (Scope × List GateInputV1)}
    (h : runGateInputStageCycle evidenceOutput peakOutput contextByScope = .ok result) :
    ∀ entry ∈ result, ∀ g ∈ entry.2, ∃ scope context,
      contextByScope.get? scope = some context ∧ g.proposedAction ≤ context.proposedAction := by
  obtain ⟨collected, hcollected, h⟩ := Except.bind_eq_ok.mp h
  cases h
  intro entry hentry g hg
  obtain ⟨source, -, hsource⟩ :=
    (Except.mapM_eq_ok.mp hcollected).exists_of_mem_right (List.mem_filter.mp hentry).1
  obtain ⟨context, hcontext, hproposed⟩ := collectScopeGateInputs_ok hsource
  have hle : g.proposedAction ≤ context.proposedAction := by
    rw [hproposed g hg]
    exact capActionToMaxSafe_le _ _
  -- the context is that of the scope, or of its topic
  obtain ⟨key, hkey⟩ := resolveScopeMapping_eq_some hcontext
  exact ⟨key, context, hkey, hle⟩

/-! ## What is decided -/

variable {rulebook : RulebookV1} {storeAt : Nat → Option (DedupeStore σ)}

/-- A decision on a gate input is no more urgent than what the input proposes. -/
theorem evaluateRulebookGates_le {g : GateInputV1} {store : Option (DedupeStore σ)} {s : σ}
    {decision : ActionDecisionV1} (h : (evaluateRulebookGates g rulebook store s).1 = .ok decision) :
    decision.finalAction ≤ g.proposedAction := by
  obtain ⟨answer, hanswer⟩ := evaluateRulebookGates_decideWith store s
  exact finalAction_le_proposed (hanswer ▸ h)

/-- **What is decided**: every decision of the cycle is on a gate input of its scope,
and no more urgent than that proposes. -/
theorem evaluateRulebookGateInputsByScope_le {i : Nat} {inputs : List (Scope × List GateInputV1)}
    {s : σ} {decisions : List (Scope × List ActionDecisionV1)}
    (h : (evaluateRulebookGateInputsByScope rulebook storeAt i inputs s).1 = .ok decisions) :
    List.Forall₂ (fun ins ds => ins.1 = ds.1 ∧
      List.Forall₂ (fun g d => d.finalAction ≤ g.proposedAction) ins.2 ds.2) inputs decisions :=
  evaluateRulebookGateInputsByScope_forall₂ (fun _ _ _ _ => evaluateRulebookGates_le) h

/-- **Everything is observed**: whatever the snapshot, the stage outputs, the rulebook
and the store, every decision of a cycle is `OBSERVE`. -/
theorem hotPathDecisions_observe {snapshot : TopologyRegistrySnapshot} {s : σ}
    {decisions : List (Scope × List ActionDecisionV1)}
    (h : (hotPathDecisions snapshot evidenceOutput peakOutput rulebook storeAt s).1 = .ok decisions) :
    ∀ entry ∈ decisions, ∀ d ∈ entry.2, d.finalAction = .observe := by
  unfold hotPathDecisions at h
  rcases hinputs : runGateInputStageCycle evidenceOutput peakOutput
    (runTopologyStageCycle snapshot evidenceOutput).contextByScope with e | inputs
  · simp only [hinputs] at h
    cases h
  · simp only [hinputs] at h
    intro entry hentry d hd
    obtain ⟨ins, hins, -, hdecided⟩ :=
      (evaluateRulebookGateInputsByScope_le h).exists_of_mem_right hentry
    obtain ⟨g, hg, hle⟩ := hdecided.exists_of_mem_right hd
    obtain ⟨scope, context, hcontext, hproposed⟩ :=
      runGateInputStageCycle_proposed_le hinputs ins hins g hg
    obtain ⟨fields, rfl⟩ := contextByScope_resolved hcontext
    exact le_antisymm (hle.trans hproposed) (Action.observe_le _)

/-- The gate inputs of a scope are as many as its findings. -/
theorem collectScopeGateInputs_length {entry : Scope × List Finding}
    {result : Scope × List GateInputV1}
    (h : collectScopeGateInputs evidenceOutput peakOutput contextByScope maxSafeAction entry =
      .ok result) :
    result.1 = entry.1 ∧ result.2.length = entry.2.length := by
  obtain ⟨scope, findings⟩ := entry
  unfold collectScopeGateInputs at h
  simp only at h
  split at h
  · cases h
  · obtain ⟨topic, -, h⟩ := Except.bind_eq_ok.mp h
    obtain ⟨env, -, h⟩ := Except.bind_eq_ok.mp h
    obtain ⟨gateInputs, hinputs, h⟩ := Except.bind_eq_ok.mp h
    cases h
    exact ⟨rfl, (Except.mapM_eq_ok.mp hinputs).length_eq.symm⟩

/-- A scope with findings and a context gets a gate input a finding. -/
theorem runGateInputStageCycle_covers {result : List (Scope × List GateInputV1)}
    (h : runGateInputStageCycle evidenceOutput peakOutput contextByScope = .ok result)
    {scope : Scope} {findings : List Finding}
    (hfindings : evidenceOutput.gateFindingsByScope.get? scope = some findings)
    (hne : findings ≠ []) (hcontext : hasGateInputContext contextByScope scope = true) :
    ∃ gateInputs, (scope, gateInputs) ∈ result ∧ gateInputs.length = findings.length := by
  obtain ⟨collected, hcollected, h⟩ := Except.bind_eq_ok.mp h
  cases h
  have hkept : (scope, findings) ∈
      (evidenceOutput.gateFindingsByScope.filterKeys (hasGateInputContext contextByScope)).entries :=
    List.mem_filter.mpr ⟨Dict.get?_eq_some.mp hfindings, hcontext⟩
  obtain ⟨⟨scope', gateInputs⟩, hmem, hcollect⟩ :=
    (Except.mapM_eq_ok.mp hcollected).exists_of_mem_left
      ((List.mem_insertionSort _).mpr hkept)
  obtain ⟨hscope, hlength⟩ := collectScopeGateInputs_length hcollect
  simp only at hscope hlength
  subst hscope
  refine ⟨gateInputs, List.mem_filter.mpr ⟨hmem, ?_⟩, hlength⟩
  -- one gate input at least
  cases gateInputs with
  | nil => exact absurd (List.length_eq_zero_iff.mp hlength.symm) hne
  | cons g gs => rfl

/-- **The wired pipeline observes**: whatever the registry, the stage outputs and the
store, a cycle that returns decides `OBSERVE` on every finding of a scope with a
topology context. -/
theorem hot_path_observes {snapshot : TopologyRegistrySnapshot} {s : σ}
    {decisions : List (Scope × List ActionDecisionV1)} {scope : Scope} {findings : List Finding}
    (h : (hotPathDecisions snapshot evidenceOutput peakOutput RulebookV1.v1 storeAt s).1 =
      .ok decisions)
    (hfindings : evidenceOutput.gateFindingsByScope.get? scope = some findings)
    (hne : findings ≠ [])
    (hcontext : hasGateInputContext (runTopologyStageCycle snapshot evidenceOutput).contextByScope
      scope = true) :
    ∃ ds, (scope, ds) ∈ decisions ∧ ds.length = findings.length ∧
      ∀ d ∈ ds, d.finalAction = .observe := by
  have hobserve := hotPathDecisions_observe h
  unfold hotPathDecisions at h
  rcases hinputs : runGateInputStageCycle evidenceOutput peakOutput
    (runTopologyStageCycle snapshot evidenceOutput).contextByScope with e | inputs
  · simp only [hinputs] at h
    cases h
  · simp only [hinputs] at h
    obtain ⟨gateInputs, hmem, hlength⟩ :=
      runGateInputStageCycle_covers hinputs hfindings hne hcontext
    obtain ⟨⟨scope', ds⟩, hds, hscope, hdecided⟩ :=
      (evaluateRulebookGateInputsByScope_le h).exists_of_mem_left hmem
    simp only at hscope hdecided
    subst hscope
    exact ⟨ds, hds, hdecided.length_eq.symm.trans hlength, hobserve _ hds⟩

/-- Everything the gates ask of a page: a tier 0 scope in production that is no source,
a finding whose evidence is all there, and which is sustained. -/
structure MayEscalate (snapshot : TopologyRegistrySnapshot) (evidenceOutput : EvidenceStageOutput)
    (peakOutput : PeakStageOutput) (scope : Scope) (i : Nat) : Prop where
  /-- the environment -/
  prod : environmentOf scope = .ok .prod
  /-- tier and role -/
  resolved : ∃ context,
    (runTopologyStageCycle snapshot evidenceOutput).contextByScope.get? scope = some context ∧
      context.criticalityTier = .tier0 ∧ context.topicRole ≠ .source
  /-- evidence and duration -/
  sustained : ∃ findings finding family key statuses,
    evidenceOutput.gateFindingsByScope.get? scope = some findings ∧ findings[i]? = some finding ∧
      evidenceOutput.evidenceStatusMapByScope.get? scope = some statuses ∧
      (∀ e ∈ finding.evidenceRequired, statuses.get? e = some .present) ∧
      anomalyFamilyFromGateFindingName finding.name = .ok family ∧
      sustainedIdentityKey family scope = .ok key ∧
      peakOutput.sustainedByKey.get? key = some ⟨true⟩

end Wiring

/-! ## A sustained volume drop on a tier 0 sink -/

/-- The scope of the topic. -/
def ordersScope : Scope := ["prod", "cluster-a", "orders"]

/-- A registry that knows the topic as a tier 0 sink. -/
def ordersSnapshot : TopologyRegistrySnapshot where
  streamsById := .ofPairs [("stream-orders",
    { streamId := "stream-orders"
      criticalityTier := some "TIER_0"
      instances := [⟨"prod", "cluster-a", .empty, [], []⟩] })]
  topicIndexByScope := .ofPairs [(("prod", "cluster-a"),
    .ofPairs [("orders", ⟨"SINK_TOPIC", "stream-orders", none⟩)])]
  routingDirectory := .ofPairs [("platform", ⟨"platform", "team-1", "Platform", none, none, none⟩)]
  ownershipMap := ⟨[], [], [], some "platform"⟩

/-- The evidence of the drop. -/
def ordersEvidence : EvidenceStageOutput where
  rows := []
  gateFindingsByScope := .ofPairs [(ordersScope, [volumeFinding])]
  evidenceStatusMapByScope :=
    .ofPairs [(ordersScope, .ofPairs [("topic_messages_in_per_sec", .present)])]

/-- It is sustained. -/
def ordersPeak : PeakStageOutput where
  sustainedByKey := .ofPairs [(["prod", "cluster-a", "topic:orders", "VOLUME_DROP"], ⟨true⟩)]

/-- What is decided on it. -/
def ordersDecision : ActionDecisionV1 where
  finalAction := .observe
  envCapApplied := false
  gateRuleIds := expectedGateOrder
  gateReasonCodes := []
  actionFingerprint := "prod/cluster-a/stream-orders/SINK_TOPIC/orders/VOLUME_DROP/TIER_0"
  postmortemRequired := false
  postmortemMode := none
  postmortemReasonCodes := []

/-- The drop has everything a page needs, the store is empty, and it is only observed. -/
theorem orders_not_escalated :
    @MayEscalate (asciiPlatform []) ordersSnapshot ordersEvidence ordersPeak ordersScope 0 ∧
      (@hotPathDecisions (asciiPlatform []) _ ordersSnapshot ordersEvidence ordersPeak
        RulebookV1.v1 (fun _ => some (redisStore none newYear2026)) .empty).1 =
          .ok [(ordersScope, [ordersDecision])] ∧
      ¬ .observe < ordersDecision.finalAction := by
  refine ⟨@MayEscalate.mk (asciiPlatform []) _ _ _ _ _ (by decide) ?_ ?_, ?_, by decide⟩
  · refine ⟨{ streamId := "stream-orders", topicRole := .sink, criticalityTier := .tier0 }, ?_, rfl, ?_⟩
    · decide +kernel
    · decide
  · refine ⟨[volumeFinding], volumeFinding, .volumeDrop, _, _, rfl, rfl, rfl, ?_, ?_, rfl, rfl⟩
    · decide +kernel
    · decide +kernel
  · decide +kernel

/-- The general result on that cycle. -/
theorem hot_path_observes_orders :
    ∃ ds, (ordersScope, ds) ∈ [(ordersScope, [ordersDecision])] ∧ ds.length = 1 ∧
      ∀ d ∈ ds, d.finalAction = .observe := by
  have hreturns : (@hotPathDecisions (asciiPlatform []) _ ordersSnapshot ordersEvidence ordersPeak
      RulebookV1.v1 (fun _ => some (redisStore none newYear2026)) .empty).1 =
        .ok [(ordersScope, [ordersDecision])] := by
    decide +kernel
  exact @hot_path_observes (asciiPlatform []) _ _ _ _ _ _ _ ordersScope [volumeFinding] hreturns rfl
    (by decide) (by decide +kernel)

end AiopsTriage
