import AiopsTriage.Gating.Evaluate

/-!
# Gates only reduce

Whatever a rulebook says, a gate never makes the action more urgent: an effect caps it
(`applyGateEffect_le`), and AG1 takes it to the caps of the rulebook (`evaluateAg1_spec`).
By composition the final action is no more urgent than the proposed one
(`finalAction_le_proposed`).
-/

namespace AiopsTriage

theorem reduceAction_le (a c : Action) : reduceAction a c ≤ a :=
  (reduceAction_eq_min a c).le.trans (min_le_left a c)

variable [Platform] {gate : GateSpec} {gateInput : GateInputV1} {state state' : EvaluationState}

/-- What an effect can do to the state: record its codes, after capping the action if
it names a cap and may. -/
theorem applyGateEffect_ok {effect : Option GateEffect} {gateId : String} {allow mark : Bool}
    (h : applyGateEffect state effect gateId allow mark = .ok state') :
    (effect = none ∧ state' = state) ∨
      ∃ e, effect = some e ∧
        (state' = state.record e ∨
          ∃ cap capAction, e.cap? = some cap ∧ allow = true ∧
            StrEnum.ofValue? cap = some capAction ∧
            state' = (state.capTo capAction mark).record e) := by
  unfold applyGateEffect at h
  split at h
  · cases h
    exact .inl ⟨rfl, rfl⟩
  · next e =>
    right
    refine ⟨e, rfl, ?_⟩
    split at h
    · next cap hcap =>
      obtain ⟨capAction, haction, h⟩ := Except.bind_eq_ok.mp h
      cases h
      unfold actionFromPolicyValue at haction
      split at haction
      · next action hvalue =>
        cases haction
        exact .inr ⟨cap, _, hcap, rfl, hvalue, rfl⟩
      · cases haction
    · cases h
      exact .inl rfl

/-- What every gate but AG1 does at most: make the action less urgent. Only AG1 says that
the environment did it. -/
structure Reduces (state state' : EvaluationState) : Prop where
  /-- the action is no more urgent -/
  le : state'.currentAction ≤ state.currentAction
  /-- the flag is as it was -/
  flag : state'.envCapApplied = state.envCapApplied

omit [Platform] in
theorem Reduces.refl (state : EvaluationState) : Reduces state state := ⟨le_refl _, rfl⟩

omit [Platform] in
theorem Reduces.trans {state'' : EvaluationState} (h : Reduces state state')
    (h' : Reduces state' state'') : Reduces state state'' :=
  ⟨h'.le.trans h.le, h'.flag.trans h.flag⟩

/-- An effect never makes the action more urgent. -/
theorem applyGateEffect_le {effect : Option GateEffect} {gateId : String} {allow mark : Bool}
    (h : applyGateEffect state effect gateId allow mark = .ok state') :
    state'.currentAction ≤ state.currentAction := by
  rcases applyGateEffect_ok h with ⟨-, rfl⟩ | ⟨e, -, rfl | ⟨cap, capAction, -, -, -, rfl⟩⟩
  · exact le_refl _
  · exact le_refl _
  · exact reduceAction_le _ _

/-- An effect sets the flag only when it is told to mark the environment cap. -/
theorem applyGateEffect_flag {effect : Option GateEffect} {gateId : String} {allow mark : Bool}
    (h : applyGateEffect state effect gateId allow mark = .ok state') :
    ∃ capped : Bool, state'.envCapApplied = (state.envCapApplied || (mark && capped)) := by
  rcases applyGateEffect_ok h with ⟨-, rfl⟩ | ⟨e, -, rfl | ⟨cap, capAction, -, -, -, rfl⟩⟩
  · exact ⟨false, by simp⟩
  · exact ⟨false, by simp [EvaluationState.record]⟩
  · exact ⟨_, rfl⟩

/-- An effect that is not told to do so only reduces. -/
theorem applyGateEffect_reduces {effect : Option GateEffect} {gateId : String} {allow : Bool}
    (h : applyGateEffect state effect gateId allow false = .ok state') : Reduces state state' := by
  obtain ⟨capped, hflag⟩ := applyGateEffect_flag h
  rw [Bool.false_and, Bool.or_false] at hflag
  exact ⟨applyGateEffect_le h, hflag⟩

/-- An effect that may not change the action does not. -/
theorem applyGateEffect_action_eq {effect : Option GateEffect} {gateId : String} {mark : Bool}
    (h : applyGateEffect state effect gateId false mark = .ok state') :
    state'.currentAction = state.currentAction := by
  rcases applyGateEffect_ok h with ⟨-, rfl⟩ | ⟨e, -, rfl | ⟨cap, capAction, -, hallow, -, -⟩⟩
  · rfl
  · rfl
  · cases hallow

theorem evaluateAg0_reduces (h : evaluateAg0 gate gateInput state = .ok state') :
    Reduces state state' := by
  unfold evaluateAg0 at h
  split at h
  · cases h
    exact .refl _
  · have hreduces := applyGateEffect_reduces h
    exact ⟨hreduces.le, hreduces.flag⟩

/-- AG1 takes the action to the cap of the environment and, in production, to the cap of
the tier, and says so when the first is below the action it was given. -/
theorem evaluateAg1_spec {caps : RulebookCaps}
    (h : evaluateAg1 gate caps gateInput state = .ok state') :
    state'.currentAction ≤ state.currentAction ∧
      (∃ cap, envCap caps gateInput.env = .ok cap ∧ state'.currentAction ≤ cap ∧
        state'.envCapApplied = (state.envCapApplied || decide (cap < state.currentAction))) ∧
      (gateInput.env = .prod → ∃ cap, prodTierCap caps gateInput.criticalityTier = .ok cap ∧
        state'.currentAction ≤ cap) := by
  obtain ⟨cap, hcap, h⟩ := Except.bind_eq_ok.mp h
  obtain ⟨capped, hcapped, h⟩ := Except.bind_eq_ok.mp h
  -- what the caps leave of the action
  obtain ⟨hle, htier⟩ : capped ≤ min state.currentAction cap ∧
      (gateInput.env = .prod → ∃ tierCap, prodTierCap caps gateInput.criticalityTier = .ok tierCap ∧
        capped ≤ tierCap) := by
    split at hcapped
    · obtain ⟨tierCap, htier, heq⟩ := Except.bind_eq_ok.mp hcapped
      cases heq
      rw [reduceAction_eq_min, reduceAction_eq_min]
      exact ⟨min_le_left _ _, fun _ => ⟨tierCap, htier, min_le_right _ _⟩⟩
    · next hprod =>
      cases hcapped
      exact ⟨(reduceAction_eq_min _ _).le, fun h => absurd h hprod⟩
  have hreduced : reduceAction state.currentAction cap ≠ state.currentAction ↔
      cap < state.currentAction := by
    rw [reduceAction_eq_min, ne_eq, min_eq_left_iff, not_le]
  split at h
  · next hsame =>
    -- nothing was capped, so neither cap is below the action
    cases h
    rw [hsame] at hle htier
    refine ⟨le_refl _, ⟨cap, hcap, hle.trans (min_le_right _ _), ?_⟩, htier⟩
    rw [decide_eq_false (not_lt.mpr (hle.trans (min_le_right _ _))), Bool.or_false]
  · have hcap' := applyGateEffect_le h
    refine ⟨hcap'.trans (hle.trans (min_le_left _ _)),
      ⟨cap, hcap, hcap'.trans (hle.trans (min_le_right _ _)), ?_⟩,
      fun hprod => (htier hprod).imp fun _ ht => ⟨ht.1, hcap'.trans ht.2⟩⟩
    -- the effect may mark the cap once more
    obtain ⟨again, hflag⟩ := applyGateEffect_flag h
    rw [hflag, ← decide_eq_decide.mpr hreduced]
    cases decide (reduceAction state.currentAction cap ≠ state.currentAction)
    · simp
    · simp

theorem evaluateAg2_reduces (h : evaluateAg2 gate gateInput state = .ok state') :
    Reduces state state' := by
  unfold evaluateAg2 at h
  split at h
  · exact applyGateEffect_reduces h
  · cases h
    exact .refl _

theorem evaluateAg3_reduces {caps : RulebookCaps}
    (h : evaluateAg3 gate caps gateInput state = .ok state') : Reduces state state' := by
  unfold evaluateAg3 at h
  split at h
  · exact applyGateEffect_reduces h
  · cases h
    exact .refl _

theorem evaluateAg4_reduces (h : evaluateAg4 gate gateInput state = .ok state') :
    Reduces state state' := by
  unfold evaluateAg4 at h
  split at h
  · cases h
    exact .refl _
  · obtain ⟨codes, -, h⟩ := Except.bind_eq_ok.mp h
    split at h
    · cases h
      exact .refl _
    · obtain ⟨state₁, heffect, h⟩ := Except.bind_eq_ok.mp h
      cases h
      have hreduces := applyGateEffect_reduces heffect
      exact ⟨hreduces.le, hreduces.flag⟩

/-- The gates before AG5: what AG0 leaves, what AG1 makes of it, and reductions. -/
theorem beforeAg5_ok {gates : OrderedGates} {caps : RulebookCaps}
    (h : beforeAg5 gates caps gateInput = .ok state) :
    ∃ s0 s1, evaluateAg0 gates.ag0 gateInput { currentAction := gateInput.proposedAction } = .ok s0 ∧
      evaluateAg1 gates.ag1 caps gateInput s0 = .ok s1 ∧ Reduces s1 state := by
  obtain ⟨s0, h0, h⟩ := Except.bind_eq_ok.mp h
  obtain ⟨s1, h1, h⟩ := Except.bind_eq_ok.mp h
  obtain ⟨s2, h2, h⟩ := Except.bind_eq_ok.mp h
  obtain ⟨s3, h3, h⟩ := Except.bind_eq_ok.mp h
  have h23 := (evaluateAg2_reduces h2).trans (evaluateAg3_reduces h3)
  exact ⟨s0, s1, h0, h1, h23.trans (evaluateAg4_reduces h)⟩

/-- The gates before AG5 only reduce. -/
theorem beforeAg5_le {gates : OrderedGates} {caps : RulebookCaps}
    (h : beforeAg5 gates caps gateInput = .ok state) :
    state.currentAction ≤ gateInput.proposedAction := by
  obtain ⟨s0, s1, h0, h1, hreduces⟩ := beforeAg5_ok h
  calc state.currentAction ≤ s1.currentAction := hreduces.le
    _ ≤ s0.currentAction := (evaluateAg1_spec h1).1
    _ ≤ gateInput.proposedAction := (evaluateAg0_reduces h0).le

theorem evaluateAg5_reduces {answer : Ag5Answer} (h : evaluateAg5 gate answer state = .ok state') :
    Reduces state state' := by
  unfold evaluateAg5 at h
  split at h
  · exact applyGateEffect_reduces h
  · exact applyGateEffect_reduces h
  · cases h
    exact .refl _
  · split at h
    · next heffect =>
      cases h
      exact applyGateEffect_reduces heffect
    · exact applyGateEffect_reduces h

/-- AG6 never changes the action, nor the flag. -/
theorem evaluateAg6_keeps (h : evaluateAg6 gate gateInput state = .ok state') :
    state'.currentAction = state.currentAction ∧ state'.envCapApplied = state.envCapApplied := by
  unfold evaluateAg6 at h
  split at h
  · split at h
    · exact ⟨applyGateEffect_action_eq h, (applyGateEffect_reduces h).flag⟩
    · exact ⟨applyGateEffect_action_eq h, (applyGateEffect_reduces h).flag⟩
  · cases h
    exact ⟨rfl, rfl⟩

/-- The last two gates only reduce, and the decision is read off the state they leave. -/
theorem afterAg5_ok {gates : OrderedGates} {answer : Ag5Answer} {decision : ActionDecisionV1}
    (h : afterAg5 gates gateInput answer state = .ok decision) :
    ∃ state', Reduces state state' ∧ decision = decisionOf gateInput state' := by
  obtain ⟨s5, h5, h⟩ := Except.bind_eq_ok.mp h
  obtain ⟨s6, h6, h⟩ := Except.bind_eq_ok.mp h
  cases h
  have hreduces : Reduces state s5 := by
    split at h5
    · cases h5
      exact .refl _
    · exact evaluateAg5_reduces h5
  obtain ⟨haction, hflag⟩ := evaluateAg6_keeps h6
  exact ⟨s6, hreduces.trans ⟨haction.le, hflag⟩, rfl⟩

/-- **Gates only reduce**: under any rulebook and any answer of the store, the final
action is no more urgent than the proposed one. -/
theorem finalAction_le_proposed {rulebook : RulebookV1} {answer : Ag5Answer}
    {decision : ActionDecisionV1} (h : decideWith rulebook gateInput answer = .ok decision) :
    decision.finalAction ≤ gateInput.proposedAction := by
  obtain ⟨gates, -, h⟩ := Except.bind_eq_ok.mp h
  obtain ⟨state, hstate, h⟩ := Except.bind_eq_ok.mp h
  obtain ⟨state', hreduces, rfl⟩ := afterAg5_ok h
  have hbefore := beforeAg5_le hstate
  exact hreduces.le.trans hbefore

/-- The action AG5 sees is no more urgent than the proposed one, and more urgent than
`OBSERVE`. -/
theorem ag5Action_bounds {rulebook : RulebookV1} {action : Action}
    (h : ag5Action rulebook gateInput = some action) :
    .observe < action ∧ action ≤ gateInput.proposedAction := by
  unfold ag5Action at h
  split at h
  · cases h
  · split at h
    · cases h
    · next hstate =>
      split at h
      · cases h
      · next hobserve =>
        cases h
        exact ⟨not_le.mp hobserve, beforeAg5_le hstate⟩

end AiopsTriage
