import AiopsTriage.HotPath.Orders

/-!
# Replaying a decision

`reproduceGateDecision` evaluates the gates again on the gate input a triage file holds,
without a dedupe store. AG5 takes a missing store for one that failed, and applies its
`on_store_error` effect, where the original evaluation had a store that answered.

So a file whose decision is the one the gates take on the input it holds (`Consistent`) is
reproduced exactly when this effect is neutral on that input (`replay_reproduces_iff`). Under
rulebook-v1 it is not when it is applied: it caps to `NOTIFY` and sets a reason code, so only
a case that has no action left for AG5 is reproduced (`storeErrorNeutral_v1`). A file is
consistent when the denylist left in it what the gates read (`Keeps`).
-/

namespace AiopsTriage

/-! ## What the gates read -/

/-- The gate input as far as the gates read it. -/
def GateInputV1.forGates (g : GateInputV1) : GateInputV1 :=
  { g with
    clusterId := ""
    streamId := ""
    topic := ""
    anomalyFamily := .volumeDrop
    consumerGroup := none
    partitionCountObserved := none
    caseId := none
    decisionBasis := none }

/-- The file holds the decision, and what the gates read of the input it was taken on. -/
structure CaseFileTriageV1.Keeps (c : CaseFileTriageV1) (g : GateInputV1) (d : ActionDecisionV1) :
    Prop where
  /-- the input -/
  gateInput : c.gateInput.forGates = g.forGates
  /-- the decision -/
  actionDecision : c.actionDecision = d

section Replay

variable [Platform]

theorem decideWith_forGates (rulebook : RulebookV1) (g : GateInputV1) (answer : Ag5Answer) :
    decideWith rulebook g.forGates answer = decideWith rulebook g answer := rfl

/-- `reproduce_gate_decision`. -/
def reproduceGateDecision (casefile : CaseFileTriageV1) (rulebook : RulebookV1) :
    Except Failure ActionDecisionV1 :=
  let storedVersion := casefile.policyVersions.rulebookVersion.val
  if toString rulebook.version ≠ storedVersion then
    .error (.valueError s!"Rulebook version mismatch: casefile records version {reprText storedVersion} but provided rulebook has version {rulebook.version}. Use the exact rulebook version that produced the original decision.")
  else (evaluateRulebookGates casefile.gateInput rulebook (none : Option (DedupeStore Unit)) ()).1

/-! ## What comes after AG5 -/

/-- The effect AG6 applies, if any. -/
def ag6Effect (gate : GateSpec) (g : GateInputV1) (inputValid : Bool) : Option GateEffect :=
  if inputValid ∧ g.env = .prod ∧ g.criticalityTier = .tier0 then
    if g.peak = some true ∧ g.sustained = true then gate.effect.onPass else gate.effect.onFail
  else none

/-- The state after AG6. -/
def closing (gate : GateSpec) (g : GateInputV1) (state : EvaluationState) : EvaluationState :=
  (ag6Effect gate g state.inputValid).elim state state.record

/-- AG6 never raises, and only records. -/
theorem evaluateAg6_eq (gate : GateSpec) (g : GateInputV1) (state : EvaluationState) :
    evaluateAg6 gate g state = .ok (closing gate g state) := by
  unfold evaluateAg6 closing ag6Effect
  split
  · split
    · cases gate.effect.onPass with
      | none => rfl
      | some e => exact applyGateEffect_of_fixed false
    · cases gate.effect.onFail with
      | none => rfl
      | some e => exact applyGateEffect_of_fixed false
  · rfl

/-- Two states lead to decisions that agree in all but the action and the cap flag. -/
structure SameCodes (a b : EvaluationState) : Prop where
  /-- the reason codes -/
  codes : uniqueInOrder a.gateReasonCodes = uniqueInOrder b.gateReasonCodes
  /-- whether a postmortem is required -/
  required : a.postmortemRequired = b.postmortemRequired
  /-- the mode of a required one -/
  mode : b.postmortemRequired = true →
    a.postmortemMode.getD "SOFT" = b.postmortemMode.getD "SOFT"
  /-- and its reasons -/
  reasons : b.postmortemRequired = true →
    uniqueInOrder a.postmortemReasonCodes = uniqueInOrder b.postmortemReasonCodes

omit [Platform] in
theorem decisionOf_eq_iff {g : GateInputV1} {a b : EvaluationState}
    (hcap : a.envCapApplied = b.envCapApplied) (action : Action) :
    decisionOf g { a with currentAction := action } = decisionOf g b ↔
      action = b.currentAction ∧ SameCodes a b := by
  simp only [decisionOf, ActionDecisionV1.mk.injEq, hcap, true_and]
  constructor
  · rintro ⟨haction, hcodes, hrequired, hmode, hreasons⟩
    refine ⟨haction, hcodes, hrequired, fun hb => ?_, fun hb => ?_⟩
    · rw [if_pos (hrequired.trans hb), if_pos hb] at hmode
      exact Option.some.inj hmode
    · rw [if_pos (hrequired.trans hb), if_pos hb] at hreasons
      exact hreasons
  · rintro ⟨haction, hcodes, hrequired, hmode, hreasons⟩
    refine ⟨haction, hcodes, hrequired, ?_, ?_⟩
    · rw [hrequired]
      split
      · next hb => rw [hmode hb]
      · rfl
    · rw [hrequired]
      split
      · next hb => exact hreasons hb
      · rfl

/-- AG6 looks neither at the action nor at the cap flag. -/
theorem closing_capTo (gate : GateSpec) (g : GateInputV1) (state : EvaluationState) (e : GateEffect)
    (capAction : Action) :
    closing gate g ((state.capTo capAction false).record e) =
      { closing gate g (state.record e) with
        currentAction := reduceAction state.currentAction capAction } := by
  unfold closing
  cases h : ag6Effect gate g state.inputValid with
  | none => simp [EvaluationState.record, EvaluationState.capTo, h]
  | some e6 => simp [EvaluationState.record, EvaluationState.capTo, h]

theorem closing_currentAction (gate : GateSpec) (g : GateInputV1) (state : EvaluationState) :
    (closing gate g state).currentAction = state.currentAction := by
  unfold closing
  cases ag6Effect gate g state.inputValid <;> rfl

theorem closing_envCapApplied (gate : GateSpec) (g : GateInputV1) (state : EvaluationState) :
    (closing gate g state).envCapApplied = state.envCapApplied := by
  unfold closing
  cases ag6Effect gate g state.inputValid <;> rfl

/-- An effect that is applied leaves its codes. -/
theorem applyGateEffect_codes {state state' : EvaluationState} {e : GateEffect} {gateId : String}
    (h : applyGateEffect state (some e) gateId = .ok state') :
    e.setReasonCodes ⊆ state'.gateReasonCodes := by
  cases hcap : e.cap? with
  | none =>
    rw [applyGateEffect_of_noCap hcap, Except.ok.injEq] at h
    rw [← h]
    exact List.subset_append_right _ _
  | some cap =>
    simp only [applyGateEffect, hcap] at h
    obtain ⟨capAction, -, h⟩ := Except.bind_eq_ok.mp h
    rw [Except.pure_eq_ok] at h
    rw [← h]
    exact List.subset_append_right _ _

/-- AG6 keeps the codes. -/
theorem closing_codes_subset {gate : GateSpec} {g : GateInputV1} {state : EvaluationState} :
    state.gateReasonCodes ⊆ (closing gate g state).gateReasonCodes := by
  unfold closing
  cases ag6Effect gate g state.inputValid with
  | none => exact List.Subset.refl _
  | some e => exact List.subset_append_left _ _

/-- An effect of AG5 is **neutral** on a state: it does not cap the action, and the reason
codes and postmortem fields of the decision are the same without it. -/
structure NeutralAt (ag6 : GateSpec) (g : GateInputV1) (state : EvaluationState) (e : GateEffect) :
    Prop where
  /-- its cap names an action that is no less urgent -/
  cap : ∀ cap, e.cap? = some cap → ∃ capAction, StrEnum.ofValue? cap = some capAction ∧
    state.currentAction ≤ capAction
  /-- what it records is there anyway -/
  codes : SameCodes (closing ag6 g (state.record e)) (closing ag6 g state)

/-- AG5's effect for a missing store is neutral on a gate input that gets to AG5 with an
action left. -/
def StoreErrorNeutral (rulebook : RulebookV1) (g : GateInputV1) : Prop :=
  ∀ gates state e, validateRulebookGateOrder rulebook.gates = .ok gates →
    beforeAg5 gates rulebook.caps g = .ok state → .observe < state.currentAction →
    gates.ag5.effect.onStoreError = some e → NeutralAt gates.ag6 g state e

/-- **One effect**: a state decides the same with an effect of AG5 and without it exactly
when the effect is neutral. -/
theorem applyGateEffect_neutral_iff {ag6 : GateSpec} {g : GateInputV1} {state : EvaluationState}
    {e : GateEffect} :
    (applyGateEffect state (some e) "AG5" >>= fun state' =>
        Except.ok (ε := Failure) (decisionOf g (closing ag6 g state'))) =
        .ok (decisionOf g (closing ag6 g state)) ↔ NeutralAt ag6 g state e := by
  have hflag : (closing ag6 g (state.record e)).envCapApplied = (closing ag6 g state).envCapApplied := by
    rw [closing_envCapApplied, closing_envCapApplied]
    rfl
  cases hcap : e.cap? with
  | none =>
    rw [applyGateEffect_of_noCap hcap, Except.ok_bind, Except.ok.injEq]
    refine (decisionOf_eq_iff hflag (closing ag6 g (state.record e)).currentAction).trans ?_
    rw [closing_currentAction, closing_currentAction]
    exact ⟨fun h => ⟨fun cap h' => (by rw [hcap] at h'; cases h'), h.2⟩, fun h => ⟨rfl, h.codes⟩⟩
  | some cap =>
    cases hvalue : (StrEnum.ofValue? cap : Option Action) with
    | none =>
      -- the effect raises, and its cap names no action
      have hraises : ∃ failure, applyGateEffect state (some e) "AG5" = .error failure := by
        simp only [applyGateEffect, hcap, actionFromPolicyValue, hvalue]
        exact ⟨_, rfl⟩
      obtain ⟨failure, hraises⟩ := hraises
      rw [hraises, Except.error_bind]
      refine iff_of_false (fun h => by cases h) fun h => ?_
      obtain ⟨capAction, hvalue', -⟩ := h.cap cap hcap
      rw [hvalue] at hvalue'
      cases hvalue'
    | some capAction =>
      rw [applyGateEffect_of_cap capAction hcap hvalue false, Except.ok_bind, Except.ok.injEq,
        closing_capTo]
      refine (decisionOf_eq_iff hflag _).trans ?_
      rw [closing_currentAction]
      have haction : reduceAction state.currentAction capAction = state.currentAction ↔
          state.currentAction ≤ capAction := by
        rw [reduceAction_eq_min, min_eq_left_iff]
      rw [haction]
      constructor
      · rintro ⟨hle, hcodes⟩
        refine ⟨fun cap' hcap' => ?_, hcodes⟩
        obtain rfl := Option.some.inj (hcap.symm.trans hcap')
        exact ⟨capAction, hvalue, hle⟩
      · rintro ⟨hle, hcodes⟩
        obtain ⟨capAction', hvalue', hle⟩ := hle cap hcap
        obtain rfl := Option.some.inj (hvalue.symm.trans hvalue')
        exact ⟨hle, hcodes⟩

/-- **A missing store**: an evaluation that returns with an AG5 that lets the action pass
returns the same without a store exactly when AG5's effect for that is neutral. -/
theorem decideWith_noStore_iff {rulebook : RulebookV1} {g : GateInputV1} {d : ActionDecisionV1}
    (hd : decideWith rulebook g .registered = .ok d) :
    decideWith rulebook g .noStore = .ok d ↔ StoreErrorNeutral rulebook g := by
  obtain ⟨gates, hgates, hd⟩ := Except.bind_eq_ok.mp hd
  obtain ⟨state, hstate, hd⟩ := Except.bind_eq_ok.mp hd
  have hneutral : StoreErrorNeutral rulebook g ↔ (.observe < state.currentAction →
      ∀ e, gates.ag5.effect.onStoreError = some e → NeutralAt gates.ag6 g state e) := by
    constructor
    · exact fun h hlt e he => h gates state e hgates hstate hlt he
    · intro h gates' state' e hgates' hstate' hlt he
      obtain rfl := Except.ok.inj (hgates.symm.trans hgates')
      obtain rfl := Except.ok.inj (hstate.symm.trans hstate')
      exact h hlt e he
  rw [hneutral]
  simp only [decideWith, hgates, Except.ok_bind, hstate]
  unfold afterAg5 at hd ⊢
  by_cases hle : state.currentAction ≤ .observe
  · rw [if_pos hle] at hd ⊢
    exact iff_of_true hd fun hlt => absurd hle (not_le.mpr hlt)
  · rw [if_neg hle] at hd ⊢
    simp only [evaluateAg5, Except.ok_bind, evaluateAg6_eq] at hd ⊢
    obtain rfl := Except.ok.inj hd
    cases heffect : gates.ag5.effect.onStoreError with
    | none => exact iff_of_true rfl fun _ e he => by cases he
    | some e =>
      refine applyGateEffect_neutral_iff.trans ?_
      constructor
      · intro h _ e' he'
        obtain rfl := Option.some.inj he'
        exact h
      · exact fun h => h (not_le.mp hle) e rfl

/-- Without a store the decision is the one of a store that lets the action pass, or it
holds the codes of AG5's effect. -/
theorem decideWith_noStore_traced {rulebook : RulebookV1} {g : GateInputV1} {d : ActionDecisionV1}
    (h : decideWith rulebook g .noStore = .ok d) :
    decideWith rulebook g .registered = .ok d ∨
      ∃ gates e, validateRulebookGateOrder rulebook.gates = .ok gates ∧
        gates.ag5.effect.onStoreError = some e ∧ e.setReasonCodes ⊆ d.gateReasonCodes := by
  obtain ⟨gates, hgates, h⟩ := Except.bind_eq_ok.mp h
  obtain ⟨state, hstate, h⟩ := Except.bind_eq_ok.mp h
  simp only [decideWith, hgates, Except.ok_bind, hstate]
  unfold afterAg5 at h ⊢
  by_cases hle : state.currentAction ≤ .observe
  · rw [if_pos hle] at h ⊢
    exact .inl h
  rw [if_neg hle] at h ⊢
  simp only [evaluateAg5, Except.ok_bind] at h ⊢
  cases heffect : gates.ag5.effect.onStoreError with
  | none =>
    rw [heffect] at h
    exact .inl h
  | some e =>
    -- the effect is recorded, whether it caps or not
    rw [heffect] at h
    obtain ⟨state', hstate', h⟩ := Except.bind_eq_ok.mp h
    rw [evaluateAg6_eq, Except.ok_bind, Except.pure_eq_ok] at h
    refine .inr ⟨gates, e, rfl, heffect, fun code hcode => ?_⟩
    rw [← h]
    refine mem_uniqueInOrder.mpr (closing_codes_subset ?_)
    exact applyGateEffect_codes hstate' hcode

/-! ## Stored decisions -/

variable {σ : Type} {store : DedupeStore σ} {s : σ} {scope : Scope} {outputs : StageOutputs}
  {policies : TriagePolicies} {g : GateInputV1} {d : ActionDecisionV1} {t : DateTime}
  {caseId : Option String} {c : CaseFileTriageV1} {rulebook : RulebookV1}

/-- Without a store the evaluation decides as if the store had failed. -/
theorem evaluateRulebookGates_of_noStore :
    (evaluateRulebookGates g rulebook (none : Option (DedupeStore Unit)) ()).1 =
      decideWith rulebook g .noStore := by
  cases hag5 : ag5Action rulebook g with
  | none => rw [evaluateRulebookGates_of_none hag5 _ _ .noStore]
  | some action => rw [evaluateRulebookGates_of_some hag5, askStore]

/-- The replay of an assembled file evaluates the input it holds. -/
theorem reproduceGateDecision_eq
    (hc : assembleCasefileTriageStage scope outputs policies g d t caseId = .ok c) :
    reproduceGateDecision c policies.rulebook =
      decideWith policies.rulebook c.gateInput .noStore := by
  obtain ⟨draft, sanitized, hdraft, hsanitized, -, rfl⟩ := assemble_eq_ok.mp hc
  -- the version is the one that was stamped
  have hkept : sanitized.policyVersions.rulebookVersion = draft.policyVersions.rulebookVersion :=
    sanitizeCasefile_rulebookVersion hsanitized
  have hversion : (triageModel.wired
      (triageModel.finalize sanitized)).policyVersions.rulebookVersion.val =
      toString policies.rulebook.version :=
    (congrArg Subtype.val hkept).trans (draftCasefile_rulebookVersion hdraft)
  rw [reproduceGateDecision, if_neg (not_not.mpr hversion.symm), evaluateRulebookGates_of_noStore]

/-- A file holds no reason code that the decision did not have. -/
theorem storedCodes_subset
    (hc : assembleCasefileTriageStage scope outputs policies g d t caseId = .ok c) :
    c.actionDecision.gateReasonCodes ⊆ d.gateReasonCodes := by
  obtain ⟨draft, sanitized, hdraft, hsanitized, -, rfl⟩ := assemble_eq_ok.mp hc
  obtain ⟨-, -, -, hdecision, -⟩ := draftCasefile_ok hdraft
  intro code hcode
  have hcodes : code ∈ sanitized.actionDecision.gateReasonCodes := hcode
  rw [sanitizeCasefile_gateReasonCodes hsanitized, hdecision] at hcodes
  exact (List.mem_filter.mp hcodes).1

/-! ## Consistent files -/

/-- The decision the file holds is the one the gates take on the input it holds, when AG5
lets the action pass. -/
def CaseFileTriageV1.Consistent (c : CaseFileTriageV1) (rulebook : RulebookV1) : Prop :=
  decideWith rulebook c.gateInput .registered = .ok c.actionDecision

/-- A file that keeps what the gates read, and the decision, is consistent. -/
theorem CaseFileTriageV1.Keeps.consistent (h : c.Keeps g d)
    (hd : decideWith rulebook g .registered = .ok d) : c.Consistent rulebook := by
  rw [CaseFileTriageV1.Consistent, ← decideWith_forGates, h.gateInput, decideWith_forGates, hd,
    h.actionDecision]

omit [Platform] in
/-- The action rulebook-v1 leaves before AG5 is the one of the original input. -/
theorem CaseFileTriageV1.Keeps.v1Action (h : c.Keeps g d) :
    RulebookV1.v1Action c.gateInput = RulebookV1.v1Action g := by
  have hsame := congrArg RulebookV1.v1Action h.gateInput
  exact hsame

/-- Under a denylist that removes nothing every assembled file keeps them. -/
theorem keeps_of_removesNothing (hdenylist : policies.denylist.RemovesNothing)
    (hc : assembleCasefileTriageStage scope outputs policies g d t caseId = .ok c) :
    c.Keeps g d := by
  obtain ⟨draft, sanitized, hdraft, hsanitized, -, rfl⟩ := assemble_eq_ok.mp hc
  obtain ⟨-, -, hgate, hdecision, -⟩ := draftCasefile_ok hdraft
  rw [sanitizeCasefile_of_removesNothing hdenylist, Except.ok.injEq] at hsanitized
  subst hsanitized
  refine ⟨?_, hdecision⟩
  rw [← hgate]
  rfl

/-- AG5's effect for a missing store sets a code that the decision does not have. -/
def Announced (rulebook : RulebookV1) (d : ActionDecisionV1) : Prop :=
  ∀ gates e, validateRulebookGateOrder rulebook.gates = .ok gates →
    gates.ag5.effect.onStoreError = some e → ∃ code ∈ e.setReasonCodes, code ∉ d.gateReasonCodes

/-- Rulebook-v1 always announces it. -/
theorem announced_v1 (hd : decideWith RulebookV1.v1 g .registered = .ok d) :
    Announced RulebookV1.v1 d := by
  intro gates e hgates heffect
  obtain rfl := Except.ok.inj (RulebookV1.orderedGates_v1.symm.trans hgates)
  obtain rfl := Option.some.inj heffect
  obtain ⟨d', hd', -, -, -, hcode⟩ := decideWith_v1 g .registered
  obtain rfl := Except.ok.inj (hd.symm.trans hd')
  refine ⟨storeErrorCode, List.mem_singleton_self _, fun hmem => ?_⟩
  rcases (hcode.mp hmem).2 with h | h
  · cases h
  · cases h

/-- Under rulebook-v1 the effect is only neutral on an input that has no action left. -/
theorem storeErrorNeutral_v1 (g : GateInputV1) :
    StoreErrorNeutral RulebookV1.v1 g ↔ RulebookV1.v1Action g = .observe := by
  obtain ⟨d, hd, -, -, -, hcode⟩ := decideWith_v1 g .registered
  obtain ⟨d', hd', -, -, -, hcode'⟩ := decideWith_v1 g .noStore
  constructor
  · intro h
    -- the two decisions would be one, with and without the code of the effect
    have hsame := (decideWith_noStore_iff hd).mpr h
    obtain rfl := Except.ok.inj (hsame.symm.trans hd')
    by_contra hne
    have hlt := lt_of_le_of_ne (Action.observe_le _) (Ne.symm hne)
    rcases (hcode.mp (hcode'.mpr ⟨hlt, .inl rfl⟩)).2 with h | h
    · cases h
    · cases h
  · intro hobserve gates state e hgates hstate hlt
    obtain rfl := Except.ok.inj (RulebookV1.orderedGates_v1.symm.trans hgates)
    obtain ⟨state', hstate', -, haction⟩ := beforeAg5_v1 g
    obtain rfl := Except.ok.inj (hstate'.symm.trans hstate)
    rw [haction, hobserve] at hlt
    cases hlt

/-- A consistent file is reproduced exactly when the effect is neutral on its input. -/
theorem CaseFileTriageV1.Consistent.reproduced_iff (h : c.Consistent policies.rulebook)
    (hc : assembleCasefileTriageStage scope outputs policies g d t caseId = .ok c) :
    reproduceGateDecision c policies.rulebook = .ok c.actionDecision ↔
      StoreErrorNeutral policies.rulebook c.gateInput := by
  rw [reproduceGateDecision_eq hc]
  exact decideWith_noStore_iff h

/-- A file that is reproduced is consistent, when the effect announces itself. -/
theorem consistent_of_reproduced (hannounced : Announced policies.rulebook d)
    (hc : assembleCasefileTriageStage scope outputs policies g d t caseId = .ok c)
    (h : reproduceGateDecision c policies.rulebook = .ok c.actionDecision) :
    c.Consistent policies.rulebook := by
  rw [reproduceGateDecision_eq hc] at h
  rcases decideWith_noStore_traced h with hsame | ⟨gates, e, hgates, heffect, hcodes⟩
  · exact hsame
  · -- the code of the effect is in the file, so it was in the decision
    obtain ⟨code, hcode, hfresh⟩ := hannounced gates e hgates heffect
    exact absurd (storedCodes_subset hc (hcodes hcode)) hfresh

/-- **Replay**: let a triage file be assembled from a decision that a healthy store let pass.
When the file is consistent, or AG5's effect for a missing store announces itself, the replay
gives the stored decision exactly when the file is consistent and that effect is neutral on
its input. Under rulebook-v1 it is neutral exactly when no action gets to AG5. -/
theorem replay_reproduces_iff (hstore : store.Fresh g.actionFingerprint s)
    (hd : (evaluateRulebookGates g policies.rulebook (some store) s).1 = .ok d)
    (hc : assembleCasefileTriageStage scope outputs policies g d t caseId = .ok c) :
    (c.Consistent policies.rulebook ∨ Announced policies.rulebook d →
      (reproduceGateDecision c policies.rulebook = .ok c.actionDecision ↔
        c.Consistent policies.rulebook ∧ StoreErrorNeutral policies.rulebook c.gateInput)) ∧
    (policies.rulebook = RulebookV1.v1 →
      (reproduceGateDecision c policies.rulebook = .ok c.actionDecision ↔
        c.Consistent RulebookV1.v1 ∧ RulebookV1.v1Action c.gateInput = .observe)) := by
  have hiff : c.Consistent policies.rulebook ∨ Announced policies.rulebook d →
      (reproduceGateDecision c policies.rulebook = .ok c.actionDecision ↔
        c.Consistent policies.rulebook ∧ StoreErrorNeutral policies.rulebook c.gateInput) := by
    intro hcovered
    constructor
    · intro h
      have hconsistent : c.Consistent policies.rulebook := by
        rcases hcovered with hconsistent | hannounced
        · exact hconsistent
        · exact consistent_of_reproduced hannounced hc h
      exact ⟨hconsistent, (hconsistent.reproduced_iff hc).mp h⟩
    · rintro ⟨hconsistent, hneutral⟩
      exact (hconsistent.reproduced_iff hc).mpr hneutral
  refine ⟨hiff, fun hv1 => ?_⟩
  rw [evaluateRulebookGates_of_fresh hstore] at hd
  rw [hiff (.inr (by rw [hv1] at hd ⊢; exact announced_v1 hd)), hv1, storeErrorNeutral_v1]

end Replay

/-! ## The orders topic -/

section OrdersReplay

variable [Platform]

/-- What the stages hand over for the orders topic. -/
def ordersOutputs : StageOutputs := ⟨ordersEvidence, ordersPeak, ordersTopology⟩

/-- The decision of such a store under rulebook-v1 on an input of the orders topic, and the
triage file that is assembled from it. -/
theorem orders_assembled (g : GateInputV1)
    (hfinite : (buildEvidenceSnapshot ordersScope ordersEvidence ordersPeak g).finite = true) :
    ∃ d c, (evaluateRulebookGates g RulebookV1.v1 (some (redisStore none newYear2026)) .empty).1 =
        .ok d ∧ d.finalAction = RulebookV1.v1Action g ∧
      assembleCasefileTriageStage ordersScope ordersOutputs ordersConfig.policies g d
        (.aware newYear2026) = .ok c ∧ c.Keeps g d := by
  obtain ⟨d, hd, hsame, hfinal, -⟩ := decideWith_v1 g .registered
  have hstamped : ordersConfig.policies.Stamped := HotPathConfig.stamped_iff.mpr (by decide)
  have hdiagnosis : PyText.isBlank ordersConfig.policies.diagnosisPolicyVersion = false := by decide
  have hcontext : (resolveScopeMapping ordersScope
      ordersOutputs.topologyOutput.contextByScope).isSome := by decide +kernel
  obtain ⟨c, hc⟩ : ∃ c, assembleCasefileTriageStage ordersScope ordersOutputs
      ordersConfig.policies g d (.aware newYear2026) = .ok c :=
    assembleCasefileTriageStage_returns ordersConfig_removesNothing hsame.symm (by decide)
      hdiagnosis hcontext (topologyOn_aligned _) hstamped hfinite
  refine ⟨d, c, ?_, hfinal, hc, keeps_of_removesNothing ordersConfig_removesNothing hc⟩
  rw [evaluateRulebookGates_of_fresh (redisStore_fresh _ _), hd]

end OrdersReplay

/-- The input that pages, of a local environment. -/
def localInput : GateInputV1 := { pageInput with env := .localEnv }

/-- A page that the environment caps to `OBSERVE` before AG5 is reproduced, the code of the cap
included. -/
theorem observe_reproduced :
    localInput.proposedAction = .page ∧
    ∃ d c, (@evaluateRulebookGates (asciiPlatform []) _ localInput RulebookV1.v1
        (some (redisStore none newYear2026)) .empty).1 = .ok d ∧
      d.finalAction = .observe ∧ d.envCapApplied = true ∧
      @assembleCasefileTriageStage (asciiPlatform []) ordersScope ordersOutputs
        ordersConfig.policies localInput d (.aware newYear2026) none = .ok c ∧
      @reproduceGateDecision (asciiPlatform []) c RulebookV1.v1 = .ok c.actionDecision := by
  let := asciiPlatform []
  obtain ⟨d, c, hd, hfinal, hc, hkeeps⟩ := orders_assembled localInput (by decide +kernel)
  have hfresh := redisStore_fresh newYear2026 localInput.actionFingerprint
  have hconsistent : c.Consistent RulebookV1.v1 :=
    hkeeps.consistent ((evaluateRulebookGates_of_fresh hfresh).symm.trans hd)
  have hobserve : RulebookV1.v1Action localInput = .observe := by decide +kernel
  have hcapped : (evaluateRulebookGates localInput RulebookV1.v1
      (some (redisStore none newYear2026)) .empty).1.toOption.map (·.envCapApplied) = some true := by
    decide +kernel
  rw [hd] at hcapped
  exact ⟨rfl, d, c, hd, hfinal.trans hobserve, Option.some.inj hcapped, hc,
    ((replay_reproduces_iff hfresh hd hc).2 rfl).mpr ⟨hconsistent, hkeeps.v1Action.trans hobserve⟩⟩

/-- The store is empty and answers, the denylist removes nothing, and the replay of a page
gives a notification. -/
theorem page_not_reproduced :
    ∃ d c d', (@evaluateRulebookGates (asciiPlatform []) _ pageInput RulebookV1.v1
        (some (redisStore none newYear2026)) .empty).1 = .ok d ∧
      @assembleCasefileTriageStage (asciiPlatform []) ordersScope ordersOutputs
        ordersConfig.policies pageInput d (.aware newYear2026) none = .ok c ∧
      @reproduceGateDecision (asciiPlatform []) c RulebookV1.v1 = .ok d' ∧
      c.actionDecision.finalAction = .page ∧ d'.finalAction = .notify := by
  let := asciiPlatform []
  obtain ⟨d, c, hd, hfinal, hc, hkeeps⟩ := orders_assembled pageInput (by decide +kernel)
  obtain ⟨d', hd', -, hfinal', -⟩ := decideWith_v1 c.gateInput .noStore
  have hreplay : reproduceGateDecision c RulebookV1.v1 = .ok d' :=
    (reproduceGateDecision_eq hc).trans hd'
  have hpage : RulebookV1.v1Action pageInput = .page := by decide +kernel
  refine ⟨d, c, d', hd, hc, hreplay, ?_, ?_⟩
  · rw [hkeeps.actionDecision, hfinal, hpage]
  · rw [hfinal', v1Final, hkeeps.v1Action, hpage]
    decide

end AiopsTriage
