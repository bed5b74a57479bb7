import AiopsTriage.Gating.Reduce
import AiopsTriage.Topology.Stage

/-!
# From stage outputs to decisions

The hot path assembles a gate input for every finding of a scope whose topology is
known (`runGateInputStageCycle`), and evaluates the rulebook on each, scope by scope in
sorted order (`runGateDecisionStageCycle`). The store is given by position, since its
time moves on from one evaluation to the next.

What is proposed to the gates comes from the topology context and is capped by the
evidence stage (`capActionToMaxSafe_le`).
-/

namespace AiopsTriage

/-! ## Gate inputs -/

/-- `_resolve_context_for_scope`. -/
def resolveContextForScope (scope : Scope) (contextByScope : Dict Scope GateInputContext) :
    Option GateInputContext := resolveScopeMapping scope contextByScope

/-- `_has_gate_input_context`. -/
def hasGateInputContext (contextByScope : Dict Scope GateInputContext) (scope : Scope) : Bool :=
  (resolveContextForScope scope contextByScope).isSome

/-- `_topic_from_scope`. -/
def topicFromScope : Scope → Except Failure String
  | [_, _, topic] => .ok topic
  | [_, _, _, topic] => .ok topic
  | scope => .error (.valueError s!"Unsupported scope shape for topic extraction: {reprTuple scope}")

/-- `_consumer_group_from_scope`. -/
def consumerGroupFromScope : Scope → Option String
  | [_, _, group, _] => some group
  | _ => none

/-- `_sustained_identity_key`. -/
def sustainedIdentityKey (anomalyFamily : AnomalyFamily) : Scope → Except Failure (List String)
  | [env, clusterId, topic] =>
    .ok [env, clusterId, s!"topic:{topic}", StrEnum.value anomalyFamily]
  | [env, clusterId, group, _] =>
    .ok [env, clusterId, s!"group:{group}", StrEnum.value anomalyFamily]
  | scope =>
    .error (.valueError s!"Unsupported scope shape for sustained identity key: {reprTuple scope}")

/-- `Environment(value)` for the environment of a scope. -/
def environmentOf (scope : Scope) : Except Failure Environment :=
  match StrEnum.ofValue? (scope.headD "") with
  | some env => .ok env
  | none => .error (.valueError (reprText (scope.headD "") ++ " is not a valid Environment"))

/-- `_cap_action_to_max_safe`. -/
def capActionToMaxSafe (proposedAction : Action) (maxSafeAction : Option Action) : Action :=
  match maxSafeAction with
  | none => proposedAction
  | some maxSafe => reduceAction proposedAction maxSafe

theorem capActionToMaxSafe_le (proposedAction : Action) (maxSafeAction : Option Action) :
    capActionToMaxSafe proposedAction maxSafeAction ≤ proposedAction := by
  cases maxSafeAction with
  | none => exact le_refl _
  | some maxSafe => exact reduceAction_le _ _

/-- `_action_fingerprint`. -/
def actionFingerprint (env clusterId : String) (context : GateInputContext) (topic : String)
    (anomalyFamily : AnomalyFamily) (consumerGroup : Option String) : String :=
  PyText.join "/"
    ([env, clusterId, context.streamId, StrEnum.value context.topicRole, topic,
        StrEnum.value anomalyFamily, StrEnum.value context.criticalityTier] ++
      (consumerGroup.map fun group => s!"group:{group}").toList)

/-- The validator of `diagnosis_confidence`, whose bounds refuse a NaN. -/
def validateConfidence : PyFloat → Except Failure Confidence
  | .finite q =>
    if h : 0 ≤ q ∧ q ≤ 1 then .ok ⟨q, h⟩
    else .error (.validationError "GateInputV1" ["diagnosis_confidence"])
  | _ => .error (.validationError "GateInputV1" ["diagnosis_confidence"])

section Inputs

variable [Platform]

/-- `_anomaly_family_from_gate_finding_name`. -/
def anomalyFamilyFromGateFindingName (findingName : String) : Except Failure AnomalyFamily :=
  match StrEnum.ofValue? (Platform.upper (PyText.strip findingName)) with
  | some family => .ok family
  | none => .error
      (.valueError s!"Unsupported finding name for anomaly family mapping: {reprText findingName}")

theorem anomalyFamilyFromGateFindingName_eq_ok {name : String} {family : AnomalyFamily} :
    anomalyFamilyFromGateFindingName name = .ok family ↔
      StrEnum.value family = Platform.upper (PyText.strip name) := by
  rw [← StrEnum.ofValue?_eq_some, anomalyFamilyFromGateFindingName]
  cases (StrEnum.ofValue? (Platform.upper (PyText.strip name)) : Option AnomalyFamily) <;> simp

/-- The families are named in capitals. -/
theorem upper_strip_family (family : AnomalyFamily) :
    Platform.upper (PyText.strip (StrEnum.value family)) = StrEnum.value family := by
  have hstrip : PyText.strip (StrEnum.value family) = StrEnum.value family := by
    cases family <;> decide
  rw [hstrip, Platform.upper_ascii _ (by cases family <;> decide), ← String.toList_inj,
    String.toList_map]
  cases family <;> decide

/-- The gate input of one finding of a scope. -/
def gateInputOf (scope : Scope) (findings : List Finding) (context : GateInputContext)
    (env : Environment) (topic : String) (evidenceOutput : EvidenceStageOutput)
    (peakOutput : PeakStageOutput) (maxSafeAction : Option Action) (finding : Finding) :
    Except Failure GateInputV1 := do
  let clusterId := scope.getD 1 ""
  let consumerGroup := consumerGroupFromScope scope
  let anomalyFamily ← anomalyFamilyFromGateFindingName finding.name
  let sustainedKey ← sustainedIdentityKey anomalyFamily scope
  let diagnosisConfidence ← validateConfidence context.diagnosisConfidence
  return {
    env, clusterId, topic, anomalyFamily, diagnosisConfidence, findings, consumerGroup
    streamId := context.streamId
    topicRole := context.topicRole
    criticalityTier := context.criticalityTier
    proposedAction := capActionToMaxSafe context.proposedAction maxSafeAction
    -- an anomaly without a status is not sustained
    sustained := (peakOutput.sustainedByKey.get? sustainedKey).any SustainedStatus.isSustained
    evidenceStatusMap := (evidenceOutput.evidenceStatusMapByScope.get? scope).getD .empty
    actionFingerprint := actionFingerprint (StrEnum.value env) clusterId context topic anomalyFamily
      consumerGroup
    partitionCountObserved := context.partitionCountObserved
    peak := (peakOutput.peakContextByScope.get? [StrEnum.value env, clusterId, topic]).map
      PeakWindowContext.isPeakWindow
    caseId := context.caseId
    decisionBasis := context.decisionBasis }

/-- The gate inputs of one scope, one a finding. -/
def collectScopeGateInputs (evidenceOutput : EvidenceStageOutput) (peakOutput : PeakStageOutput)
    (contextByScope : Dict Scope GateInputContext) (maxSafeAction : Option Action)
    (entry : Scope × List Finding) : Except Failure (Scope × List GateInputV1) :=
  let (scope, findings) := entry
  match resolveContextForScope scope contextByScope with
  | none => .error (.keyError
      s!"Missing gate-input context for scope={reprTuple scope} (or topic scope fallback for group-based scope)")
  | some context => do
    let topic ← topicFromScope scope
    let env ← environmentOf scope
    let gateInputs ← findings.mapM
      (gateInputOf scope findings context env topic evidenceOutput peakOutput maxSafeAction)
    return (scope, gateInputs)

/-- `collect_gate_inputs_by_scope`: a scope without findings is left out. -/
def collectGateInputsByScope (evidenceOutput : EvidenceStageOutput) (peakOutput : PeakStageOutput)
    (contextByScope : Dict Scope GateInputContext) (maxSafeAction : Option Action) :
    Except Failure (List (Scope × List GateInputV1)) := do
  let collected ←
    (evidenceOutput.gateFindingsByScope.entries.insertionSort fun a b => a.1 ≤ b.1).mapM
      (collectScopeGateInputs evidenceOutput peakOutput contextByScope maxSafeAction)
  return collected.filter fun e => !e.2.isEmpty

/-- `run_gate_input_stage_cycle`: scopes without a context are skipped. -/
def runGateInputStageCycle (evidenceOutput : EvidenceStageOutput) (peakOutput : PeakStageOutput)
    (contextByScope : Dict Scope GateInputContext) :
    Except Failure (List (Scope × List GateInputV1)) :=
  let kept := evidenceOutput.gateFindingsByScope.filterKeys (hasGateInputContext contextByScope)
  let filtered := { evidenceOutput with
    gateFindingsByScope := kept
    evidenceStatusMapByScope := kept.mapValues fun scope _ =>
      (evidenceOutput.evidenceStatusMapByScope.get? scope).getD .empty }
  collectGateInputsByScope filtered peakOutput contextByScope filtered.maxSafeAction

variable {evidenceOutput : EvidenceStageOutput} {peakOutput : PeakStageOutput}
  {contextByScope : Dict Scope GateInputContext} {maxSafeAction : Option Action}

/-- A scope that gets gate inputs keeps its name, has a context and one of the two shapes. -/
theorem collectScopeGateInputs_scope {entry : Scope × List Finding}
    {result : Scope × List GateInputV1}
    (h : collectScopeGateInputs evidenceOutput peakOutput contextByScope maxSafeAction entry =
      .ok result) :
    result.1 = entry.1 ∧ (resolveScopeMapping entry.1 contextByScope).isSome ∧
      (entry.1.length = 3 ∨ entry.1.length = 4) := by
  obtain ⟨scope, findings⟩ := entry
  unfold collectScopeGateInputs at h
  simp only at h
  split at h
  · cases h
  · next context hcontext =>
    obtain ⟨topic, htopic, h⟩ := Except.bind_eq_ok.mp h
    obtain ⟨env, -, h⟩ := Except.bind_eq_ok.mp h
    obtain ⟨gateInputs, -, h⟩ := Except.bind_eq_ok.mp h
    cases h
    refine ⟨rfl, Option.isSome_iff_exists.mpr ⟨context, hcontext⟩, ?_⟩
    unfold topicFromScope at htopic
    split at htopic
    · exact .inl rfl
    · exact .inr rfl
    · cases htopic

/-- So does every scope of the stage's output. -/
theorem runGateInputStageCycle_scope {result : List (Scope × List GateInputV1)}
    (h : runGateInputStageCycle evidenceOutput peakOutput contextByScope = .ok result)
    {entry : Scope × List GateInputV1} (hentry : entry ∈ result) :
    (resolveScopeMapping entry.1 contextByScope).isSome ∧
      (entry.1.length = 3 ∨ entry.1.length = 4) := by
  obtain ⟨collected, hcollected, h⟩ := Except.bind_eq_ok.mp h
  cases h
  obtain ⟨source, -, hsource⟩ :=
    (Except.mapM_eq_ok.mp hcollected).exists_of_mem_right (List.mem_filter.mp hentry).1
  obtain ⟨hscope, hresolved⟩ := collectScopeGateInputs_scope hsource
  exact hscope ▸ hresolved

end Inputs

/-! ## Decisions -/

section Decisions

variable [Platform] {σ : Type}

/-- The decisions on the gate inputs of one scope, the first of which is number `i`. -/
def evaluateScope (rulebook : RulebookV1) (storeAt : Nat → Option (DedupeStore σ)) :
    Nat → List GateInputV1 → σ → Except Failure (List ActionDecisionV1) × σ
  | _, [], s => (.ok [], s)
  | i, g :: gs, s =>
    match evaluateRulebookGates g rulebook (storeAt i) s with
    | (.error e, s) => (.error e, s)
    | (.ok decision, s) =>
      match evaluateScope rulebook storeAt (i + 1) gs s with
      | (.error e, s) => (.error e, s)
      | (.ok decisions, s) => (.ok (decision :: decisions), s)

/-- `evaluate_rulebook_gate_inputs_by_scope`, which `run_gate_decision_stage_cycle`
returns, on scopes in sorted order. -/
def evaluateRulebookGateInputsByScope (rulebook : RulebookV1)
    (storeAt : Nat → Option (DedupeStore σ)) :
    Nat → List (Scope × List GateInputV1) → σ →
      Except Failure (List (Scope × List ActionDecisionV1)) × σ
  | _, [], s => (.ok [], s)
  | i, (scope, gateInputs) :: rest, s =>
    match evaluateScope rulebook storeAt i gateInputs s with
    | (.error e, s) => (.error e, s)
    | (.ok decisions, s) =>
      match evaluateRulebookGateInputsByScope rulebook storeAt (i + gateInputs.length) rest s with
      | (.error e, s) => (.error e, s)
      | (.ok others, s) => (.ok ((scope, decisions) :: others), s)

variable {rulebook : RulebookV1} {storeAt : Nat → Option (DedupeStore σ)}
  {R : GateInputV1 → ActionDecisionV1 → Prop}

/-- The decisions of a scope are on its gate inputs, in order: what holds of every single
evaluation holds of the pairs. -/
theorem evaluateScope_forall₂
    (hR : ∀ g store s d, (evaluateRulebookGates (σ := σ) g rulebook store s).1 = .ok d → R g d)
    {i : Nat} {gateInputs : List GateInputV1} {s : σ} {decisions : List ActionDecisionV1}
    (h : (evaluateScope rulebook storeAt i gateInputs s).1 = .ok decisions) :
    List.Forall₂ R gateInputs decisions := by
  induction gateInputs generalizing i s decisions with
  | nil =>
    cases h
    exact .nil
  | cons g gs ih =>
    rw [evaluateScope] at h
    rcases hd : evaluateRulebookGates g rulebook (storeAt i) s with ⟨e | decision, t⟩
    · rw [hd] at h
      cases h
    · rw [hd] at h
      rcases hds : evaluateScope rulebook storeAt (i + 1) gs t with ⟨e | rest, u⟩
      · simp only [hds] at h
        cases h
      · simp only [hds] at h
        cases h
        exact .cons (hR g _ s decision (congrArg Prod.fst hd)) (ih (congrArg Prod.fst hds))

/-- The same of the scopes of a cycle. -/
theorem evaluateRulebookGateInputsByScope_forall₂
    (hR : ∀ g store s d, (evaluateRulebookGates (σ := σ) g rulebook store s).1 = .ok d → R g d)
    {i : Nat} {inputs : List (Scope × List GateInputV1)} {s : σ}
    {decisions : List (Scope × List ActionDecisionV1)}
    (h : (evaluateRulebookGateInputsByScope rulebook storeAt i inputs s).1 = .ok decisions) :
    List.Forall₂ (fun ins ds => ins.1 = ds.1 ∧ List.Forall₂ R ins.2 ds.2) inputs decisions := by
  induction inputs generalizing i s decisions with
  | nil =>
    cases h
    exact .nil
  | cons entry rest ih =>
    obtain ⟨scope, gateInputs⟩ := entry
    rw [evaluateRulebookGateInputsByScope] at h
    rcases hd : evaluateScope rulebook storeAt i gateInputs s with ⟨e | ds, t⟩
    · rw [hd] at h
      cases h
    · rw [hd] at h
      rcases hds : evaluateRulebookGateInputsByScope rulebook storeAt (i + gateInputs.length) rest t
        with ⟨e | others, u⟩
      · simp only [hds] at h
        cases h
      · simp only [hds] at h
        cases h
        exact .cons ⟨rfl, evaluateScope_forall₂ hR (congrArg Prod.fst hd)⟩
          (ih (congrArg Prod.fst hds))

end Decisions

end AiopsTriage
