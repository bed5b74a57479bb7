import AiopsTriage.Gating.Reduce

/-!
# Evaluation under rulebook-v1

Under rulebook-v1 the evaluation always returns, and what it does to the action is a
composition of five reductions (`v1Action`): AG0 to `OBSERVE`, AG1 to the caps, AG2 to
`NOTIFY`, AG3 from `PAGE` to `TICKET`, AG4 from `TICKET` and up to `OBSERVE`. The
store is asked exactly when something is left (`ag5Action_v1`), and its answer decides
the final action (`decideWith_v1`).
-/

namespace AiopsTriage

namespace RulebookV1

/-- The gates of rulebook-v1. -/
def v1Gates : OrderedGates := ⟨v1Ag0, v1Ag1, v1Ag2, v1Ag3, v1Ag4, v1Ag5, v1Ag6⟩

theorem orderedGates_v1 : validateRulebookGateOrder v1.gates = .ok v1Gates := rfl

/-- The environment caps of rulebook-v1. -/
def v1EnvCap : Environment → Action
  | .localEnv => .observe
  | .harness => .observe
  | .dev => .notify
  | .uat => .ticket
  | .prod => .page

/-- The tier caps of rulebook-v1. -/
def v1TierCap : CriticalityTier → Action
  | .tier0 => .page
  | .tier1 => .ticket
  | .tier2 => .notify
  | .unknown => .notify

theorem envCap_v1 (env : Environment) : envCap v1Caps env = .ok (v1EnvCap env) := by
  cases env <;> decide

theorem prodTierCap_v1 (tier : CriticalityTier) :
    prodTierCap v1Caps tier = .ok (v1TierCap tier) := by
  cases tier <;> decide

/-! ## The action gate by gate -/

/-- AG0: an invalid input is only observed. -/
def v1AfterAg0 (g : GateInputV1) : Action :=
  if ag0IsValid g then g.proposedAction else .observe

/-- AG1: the caps of the environment and, in production, of the tier. -/
def v1AfterAg1 (g : GateInputV1) : Action :=
  min (min (v1AfterAg0 g) (v1EnvCap g.env))
    (if g.env = .prod then v1TierCap g.criticalityTier else .page)

/-- AG2: without the evidence at most `NOTIFY`. -/
def v1AfterAg2 (g : GateInputV1) : Action :=
  if ag2HasInsufficientEvidence g then min (v1AfterAg1 g) .notify else v1AfterAg1 g

/-- AG3: a source topic is not paged. -/
def v1AfterAg3 (g : GateInputV1) : Action :=
  if g.topicRole = .source ∧ v1AfterAg2 g = .page then .ticket else v1AfterAg2 g

/-- Whether AG4 holds the input to be too weak for a ticket. -/
def v1Ag4Fails (g : GateInputV1) : Bool :=
  decide (g.diagnosisConfidence.val < double06) || !g.sustained

/-- AG4: a ticket or a page needs confidence and duration. -/
def v1Action (g : GateInputV1) : Action :=
  if .ticket ≤ v1AfterAg3 g ∧ v1Ag4Fails g then .observe else v1AfterAg3 g

end RulebookV1

open RulebookV1

/-- The reason code of a suppressed duplicate. -/
def duplicateCode : String := "AG5_DUPLICATE_SUPPRESSED"

/-- The reason code of a store that is missing or raises. -/
def storeErrorCode : String := "AG5_DEDUPE_STORE_ERROR"

/-- The reason codes only AG5 sets. -/
def ag5Codes : List String := [duplicateCode, storeErrorCode]

/-- What a gate before AG5 keeps of the state besides the action: AG5's own codes are
not set yet. -/
def CodesFree (state : EvaluationState) : Prop := ∀ code ∈ ag5Codes, code ∉ state.gateReasonCodes

variable [Platform] {state : EvaluationState} {g : GateInputV1}

/-- An effect with a cap that names an action caps to it. -/
theorem applyGateEffect_of_cap {e : GateEffect} {cap gateId : String} (capAction : Action)
    (hcap : e.cap? = some cap) (hvalue : StrEnum.ofValue? cap = some capAction) (mark : Bool) :
    applyGateEffect state (some e) gateId true mark =
      .ok ((state.capTo capAction mark).record e) := by
  simp only [applyGateEffect, hcap, actionFromPolicyValue, hvalue]
  rfl

/-- An effect without a cap only records. -/
theorem applyGateEffect_of_noCap {e : GateEffect} {gateId : String} (hcap : e.cap? = none)
    (allow mark : Bool) :
    applyGateEffect state (some e) gateId allow mark = .ok (state.record e) := by
  simp only [applyGateEffect, hcap]

/-- An effect that may not change the action only records. -/
theorem applyGateEffect_of_fixed {e : GateEffect} {gateId : String} (mark : Bool) :
    applyGateEffect state (some e) gateId false mark = .ok (state.record e) := by
  simp only [applyGateEffect]
  split
  · next h => cases h
  · rfl

theorem CodesFree.record {e : GateEffect} (h : CodesFree state)
    (he : ∀ code ∈ ag5Codes, code ∉ e.setReasonCodes) : CodesFree (state.record e) := by
  intro code hcode
  simp only [EvaluationState.record, List.mem_append, not_or]
  exact ⟨h code hcode, he code hcode⟩

/-- AG0 under rulebook-v1. -/
theorem evaluateAg0_v1 (h : CodesFree state) :
    ∃ state', evaluateAg0 v1Ag0 g state = .ok state' ∧ CodesFree state' ∧
      state'.currentAction = if ag0IsValid g then state.currentAction else .observe := by
  unfold evaluateAg0
  by_cases hvalid : ag0IsValid g
  · exact ⟨state, by rw [if_pos hvalid], h, by rw [if_pos hvalid]⟩
  · rw [if_neg hvalid, if_neg hvalid]
    refine ⟨_, applyGateEffect_of_cap .observe rfl (by decide) false, ?_, ?_⟩
    · exact CodesFree.record h (by decide)
    · show reduceAction state.currentAction .observe = .observe
      rw [reduceAction_eq_min]
      exact min_eq_right (Action.observe_le _)

/-- AG1 under rulebook-v1. -/
theorem evaluateAg1_v1 (h : CodesFree state) :
    ∃ state', evaluateAg1 v1Ag1 v1Caps g state = .ok state' ∧ CodesFree state' ∧
      state'.currentAction = min (min state.currentAction (v1EnvCap g.env))
        (if g.env = .prod then v1TierCap g.criticalityTier else .page) := by
  have htop : ∀ a : Action, min a .page = a := fun a => by cases a <;> rfl
  have hcapped : (if g.env = .prod then
        reduceAction (reduceAction state.currentAction (v1EnvCap g.env)) <$>
          prodTierCap v1Caps g.criticalityTier
      else .ok (reduceAction state.currentAction (v1EnvCap g.env))) =
      .ok (min (min state.currentAction (v1EnvCap g.env))
        (if g.env = .prod then v1TierCap g.criticalityTier else .page)) := by
    split
    · rw [prodTierCap_v1, reduceAction_eq_min, ← reduceAction_eq_min (min _ _)]
      rfl
    · rw [reduceAction_eq_min, htop]
  unfold evaluateAg1
  simp only [envCap_v1, Except.ok_bind, hcapped]
  generalize min (min state.currentAction (v1EnvCap g.env))
    (if g.env = .prod then v1TierCap g.criticalityTier else .page) = capped
  by_cases hsame : capped = state.currentAction
  · exact ⟨state, by rw [if_pos hsame]; rfl, h, hsame.symm⟩
  · rw [if_neg hsame]
    refine ⟨_, applyGateEffect_of_noCap rfl _ _, ?_, rfl⟩
    exact CodesFree.record h (by decide)

/-- AG2 under rulebook-v1. -/
theorem evaluateAg2_v1 (h : CodesFree state) :
    ∃ state', evaluateAg2 v1Ag2 g state = .ok state' ∧ CodesFree state' ∧
      state'.currentAction =
        if ag2HasInsufficientEvidence g then min state.currentAction .notify
        else state.currentAction := by
  unfold evaluateAg2
  by_cases hfails : ag2HasInsufficientEvidence g
  · rw [if_pos hfails, if_pos hfails]
    refine ⟨_, applyGateEffect_of_cap .notify rfl (by decide) false, ?_, ?_⟩
    · exact CodesFree.record h (by decide)
    · exact reduceAction_eq_min _ _
  · exact ⟨state, by rw [if_neg hfails], h, by rw [if_neg hfails]⟩

/-- AG3 under rulebook-v1. -/
theorem evaluateAg3_v1 (h : CodesFree state) :
    ∃ state', evaluateAg3 v1Ag3 v1Caps g state = .ok state' ∧ CodesFree state' ∧
      state'.currentAction =
        if g.topicRole = .source ∧ state.currentAction = .page then .ticket
        else state.currentAction := by
  have hrole : v1Caps.pagingDeniedTopicRoles.contains (StrEnum.value g.topicRole) = true ↔
      g.topicRole = .source := by
    cases g.topicRole <;> decide
  unfold evaluateAg3
  simp only [hrole]
  by_cases hfires : g.topicRole = .source ∧ state.currentAction = .page
  · rw [if_pos hfires, if_pos hfires]
    refine ⟨_, applyGateEffect_of_cap .ticket rfl (by decide) false, ?_, ?_⟩
    · exact CodesFree.record h (by decide)
    · show reduceAction state.currentAction .ticket = .ticket
      rw [hfires.2]
      rfl
  · exact ⟨state, by rw [if_neg hfires], h, by rw [if_neg hfires]⟩

/-- The reason codes AG4 of rulebook-v1 sets. -/
def v1Ag4Codes (g : GateInputV1) : List String :=
  uniqueInOrder
    ((if g.diagnosisConfidence.val < double06 then ["LOW_CONFIDENCE"] else []) ++
      if g.sustained ≠ true then ["NOT_SUSTAINED"] else [])

omit [Platform] in
theorem ag4FailureReasonCodes_v1 : ag4FailureReasonCodes v1Ag4 g = .ok (v1Ag4Codes g) := by
  have hlow : ag4ReasonCodeFromCheck
      ⟨[("field", .str "diagnosis_confidence"), ("min", .float (.finite double06)),
        ("reason_code_on_fail", .str "LOW_CONFIDENCE")], by decide⟩ "LOW_CONFIDENCE" =
      "LOW_CONFIDENCE" := by decide
  have hshort : ag4ReasonCodeFromCheck
      ⟨[("field", .str "sustained"), ("value", .bool true),
        ("reason_code_on_fail", .str "NOT_SUSTAINED")], by decide⟩ "NOT_SUSTAINED" =
      "NOT_SUSTAINED" := by decide
  simp [ag4FailureReasonCodes, v1Ag4Codes, v1Ag4, Ag4Scan.check, numericMin, Dict.get?,
    confidenceBelow, hlow, hshort, raiseIf, pure, Except.pure, -ne_eq]

omit [Platform] in
/-- AG4 of rulebook-v1 has a code to set exactly when it fails, and never one of AG5's. -/
theorem v1Ag4Codes_spec :
    (v1Ag4Codes g = [] ↔ v1Ag4Fails g = false) ∧ ∀ code ∈ ag5Codes, code ∉ v1Ag4Codes g := by
  unfold v1Ag4Codes v1Ag4Fails
  by_cases hlow : g.diagnosisConfidence.val < double06
  · cases g.sustained
    · simp only [hlow]
      decide
    · simp only [hlow]
      decide
  · cases g.sustained
    · simp only [hlow]
      decide
    · simp only [hlow]
      decide

/-- AG4 under rulebook-v1. -/
theorem evaluateAg4_v1 (h : CodesFree state) :
    ∃ state', evaluateAg4 v1Ag4 g state = .ok state' ∧ CodesFree state' ∧
      state'.currentAction =
        if .ticket ≤ state.currentAction ∧ v1Ag4Fails g then .observe else state.currentAction := by
  obtain ⟨hempty, hfree⟩ := v1Ag4Codes_spec (g := g)
  unfold evaluateAg4
  by_cases hlow : state.currentAction < .ticket
  · exact ⟨state, by rw [if_pos hlow], h, by rw [if_neg fun hc => absurd hc.1 (not_le.mpr hlow)]⟩
  · rw [if_neg hlow, ag4FailureReasonCodes_v1]
    simp only [Except.ok_bind]
    by_cases hcodes : v1Ag4Codes g = []
    · refine ⟨state, by rw [if_pos hcodes]; rfl, h, ?_⟩
      rw [if_neg fun hc => by rw [hempty.mp hcodes] at hc; cases hc.2]
    · have hfails : v1Ag4Fails g = true := by
        cases hf : v1Ag4Fails g
        · exact absurd (hempty.mpr hf) hcodes
        · rfl
      rw [if_neg hcodes, if_pos ⟨not_lt.mp hlow, hfails⟩]
      rw [show v1Ag4.effect.onFail = some { capActionTo := some "OBSERVE" } from rfl,
        applyGateEffect_of_cap .observe rfl (by decide) false]
      refine ⟨_, rfl, ?_, ?_⟩
      · intro code hcode
        simp only [List.mem_append, not_or]
        exact ⟨CodesFree.record h (by decide) code hcode, hfree code hcode⟩
      · show reduceAction state.currentAction .observe = .observe
        rw [reduceAction_eq_min]
        exact min_eq_right (Action.observe_le _)

/-- **Before AG5** under rulebook-v1: the evaluation gets there, with `v1Action`. -/
theorem beforeAg5_v1 (g : GateInputV1) :
    ∃ state, beforeAg5 v1Gates v1Caps g = .ok state ∧ CodesFree state ∧
      state.currentAction = v1Action g := by
  have hstart : CodesFree { currentAction := g.proposedAction } := by
    simp [CodesFree]
  obtain ⟨s0, h0, hf0, ha0⟩ := evaluateAg0_v1 (g := g) hstart
  obtain ⟨s1, h1, hf1, ha1⟩ := evaluateAg1_v1 (g := g) hf0
  obtain ⟨s2, h2, hf2, ha2⟩ := evaluateAg2_v1 (g := g) hf1
  obtain ⟨s3, h3, hf3, ha3⟩ := evaluateAg3_v1 (g := g) hf2
  obtain ⟨s4, h4, hf4, ha4⟩ := evaluateAg4_v1 (g := g) hf3
  refine ⟨s4, ?_, hf4, ?_⟩
  · simp only [beforeAg5, v1Gates, h0, Except.ok_bind, h1, h2, h3, h4]
  · rw [ha4, ha3, ha2, ha1, ha0]
    rfl

/-- AG5 of rulebook-v1 asks the store exactly when an action is left. -/
theorem ag5Action_v1 (g : GateInputV1) :
    ag5Action v1 g = if v1Action g ≤ .observe then none else some (v1Action g) := by
  obtain ⟨state, hstate, -, haction⟩ := beforeAg5_v1 g
  simp only [ag5Action, orderedGates_v1, show v1.caps = v1Caps from rfl, hstate, haction]

/-! ## The decision -/

/-- The final action under rulebook-v1, by the answer of the store. -/
def v1Final (g : GateInputV1) (answer : Ag5Answer) : Action :=
  match answer with
  | .registered => v1Action g
  | .duplicate => .observe
  | .noStore | .storeError => min (v1Action g) .notify

/-- AG6 of rulebook-v1 returns, and touches neither the action nor the reason codes. -/
theorem evaluateAg6_v1 (g : GateInputV1) (state : EvaluationState) :
    ∃ state', evaluateAg6 v1Ag6 g state = .ok state' ∧
      state'.currentAction = state.currentAction ∧
      state'.gateReasonCodes = state.gateReasonCodes := by
  unfold evaluateAg6
  split
  · split
    · exact ⟨_, applyGateEffect_of_fixed false, rfl, List.append_nil _⟩
    · exact ⟨_, applyGateEffect_of_fixed false, rfl, List.append_nil _⟩
  · exact ⟨state, rfl, rfl, rfl⟩

/-- AG5 of rulebook-v1 returns, and sets each of its codes on the answers it is for. -/
theorem evaluateAg5_v1 (h : CodesFree state) (answer : Ag5Answer) :
    ∃ state', evaluateAg5 v1Ag5 answer state = .ok state' ∧
      (state'.currentAction =
        match answer with
        | .registered => state.currentAction
        | .duplicate => .observe
        | .noStore | .storeError => min state.currentAction .notify) ∧
      (duplicateCode ∈ state'.gateReasonCodes ↔ answer = .duplicate) ∧
      (storeErrorCode ∈ state'.gateReasonCodes ↔ answer = .noStore ∨ answer = .storeError) := by
  have herror : applyGateEffect state v1Ag5.effect.onStoreError "AG5" = .ok _ :=
    applyGateEffect_of_cap .notify rfl (by decide) false
  have hduplicate : applyGateEffect state v1Ag5.effect.onDuplicate "AG5" = .ok _ :=
    applyGateEffect_of_cap .observe rfl (by decide) false
  have hfree : duplicateCode ∉ state.gateReasonCodes := h duplicateCode (by decide)
  have hfree' : storeErrorCode ∉ state.gateReasonCodes := h storeErrorCode (by decide)
  have hcode : duplicateCode ∉ state.gateReasonCodes ++ [storeErrorCode] := by
    rw [List.mem_append, not_or]
    exact ⟨hfree, by decide⟩
  have hset : storeErrorCode ∈ state.gateReasonCodes ++ [storeErrorCode] :=
    List.mem_append_right _ (List.mem_singleton_self _)
  unfold evaluateAg5
  cases answer with
  | noStore =>
    exact ⟨_, herror, reduceAction_eq_min _ _, iff_of_false hcode (by simp),
      iff_of_true hset (by simp)⟩
  | storeError =>
    exact ⟨_, herror, reduceAction_eq_min _ _, iff_of_false hcode (by simp),
      iff_of_true hset (by simp)⟩
  | registered =>
    exact ⟨state, rfl, rfl, iff_of_false hfree (by simp), iff_of_false hfree' (by simp)⟩
  | duplicate =>
    simp only [hduplicate]
    refine ⟨_, rfl, ?_, ?_, ?_⟩
    · show reduceAction state.currentAction .observe = .observe
      rw [reduceAction_eq_min]
      exact min_eq_right (Action.observe_le _)
    · simp [EvaluationState.record, EvaluationState.capTo, duplicateCode]
    · refine iff_of_false (fun hmem => ?_) (by simp)
      rcases List.mem_append.mp hmem with hmem | hmem
      · exact hfree' hmem
      · revert hmem
        decide

/-- **Rulebook-v1 decides**: the evaluation returns whatever the answer; the final
action is `v1Final`, and a code of AG5 is set exactly when an action was left and the
answer was one it is for. -/
theorem decideWith_v1 (g : GateInputV1) (answer : Ag5Answer) :
    ∃ d, decideWith v1 g answer = .ok d ∧ d.actionFingerprint = g.actionFingerprint ∧
      d.finalAction = v1Final g answer ∧
      (duplicateCode ∈ d.gateReasonCodes ↔ .observe < v1Action g ∧ answer = .duplicate) ∧
      (storeErrorCode ∈ d.gateReasonCodes ↔
        .observe < v1Action g ∧ (answer = .noStore ∨ answer = .storeError)) := by
  obtain ⟨state, hstate, hfree, haction⟩ := beforeAg5_v1 g
  by_cases hleft : v1Action g ≤ .observe
  · have hobserve : v1Action g = .observe := le_antisymm hleft (Action.observe_le _)
    obtain ⟨s6, h6, ha6, hc6⟩ := evaluateAg6_v1 g state
    have hcodes : ∀ code ∈ ag5Codes, code ∉ (decisionOf g s6).gateReasonCodes :=
      fun code hcode hmem => hfree code hcode (hc6 ▸ mem_uniqueInOrder.mp hmem)
    refine ⟨decisionOf g s6, ?_, rfl, ?_, ?_, ?_⟩
    · simp only [decideWith, orderedGates_v1, Except.ok_bind, show v1.caps = v1Caps from rfl,
        hstate, afterAg5, haction, if_pos hleft]
      rw [show v1Gates.ag6 = v1Ag6 from rfl, h6]
      rfl
    · show s6.currentAction = v1Final g answer
      rw [ha6, haction, hobserve]
      cases answer <;> simp only [v1Final, hobserve] <;> rfl
    · exact iff_of_false (hcodes duplicateCode (by decide)) fun h => not_lt.mpr hleft h.1
    · exact iff_of_false (hcodes storeErrorCode (by decide)) fun h => not_lt.mpr hleft h.1
  · obtain ⟨s5, h5, ha5, hc5, hc5'⟩ := evaluateAg5_v1 hfree answer
    obtain ⟨s6, h6, ha6, hc6⟩ := evaluateAg6_v1 g s5
    refine ⟨decisionOf g s6, ?_, rfl, ?_, ?_, ?_⟩
    · simp only [decideWith, orderedGates_v1, Except.ok_bind, show v1.caps = v1Caps from rfl,
        hstate, afterAg5, haction, if_neg hleft]
      rw [show v1Gates.ag5 = v1Ag5 from rfl, h5]
      simp only [Except.ok_bind]
      rw [show v1Gates.ag6 = v1Ag6 from rfl, h6]
      rfl
    · show s6.currentAction = v1Final g answer
      rw [ha6, ha5, haction]
      cases answer <;> rfl
    · show duplicateCode ∈ uniqueInOrder s6.gateReasonCodes ↔ _
      rw [mem_uniqueInOrder, hc6, hc5]
      exact ⟨fun hd => ⟨not_le.mp hleft, hd⟩, fun hd => hd.2⟩
    · show storeErrorCode ∈ uniqueInOrder s6.gateReasonCodes ↔ _
      rw [mem_uniqueInOrder, hc6, hc5']
      exact ⟨fun hd => ⟨not_le.mp hleft, hd⟩, fun hd => hd.2⟩

/-! ## An input that pages -/

/-- The finding of a falling volume on a topic. -/
def volumeFinding : Finding where
  findingId := "VOLUME_DROP:prod|cluster-a|orders"
  name := "volume_drop"
  isAnomalous := true
  evidenceRequired := ["topic_messages_in_per_sec"]
  allowedNonPresentStatusesByEvidence := .empty
  isPrimary := none
  severity := some "HIGH"
  reasonCodes := ["VOLUME_DROP_VS_BASELINE"]
  allowances_ok := rfl

/-- A sustained volume drop on a tier 0 sink in production, with the evidence for it. -/
def pageInput : GateInputV1 where
  env := .prod
  clusterId := "cluster-a"
  streamId := "stream-orders"
  topic := "orders"
  topicRole := .sink
  anomalyFamily := .volumeDrop
  criticalityTier := .tier0
  proposedAction := .page
  diagnosisConfidence := ⟨1, by decide, by decide⟩
  sustained := true
  findings := [volumeFinding]
  evidenceStatusMap := .ofPairs [("topic_messages_in_per_sec", .present)]
  actionFingerprint := "prod/cluster-a/stream-orders/SINK_TOPIC/orders/VOLUME_DROP/TIER_0"
  consumerGroup := none
  partitionCountObserved := none
  peak := none
  caseId := none
  decisionBasis := none

omit [Platform] in
example : v1Action pageInput = .page := by decide +kernel

end AiopsTriage
