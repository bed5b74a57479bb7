import AiopsTriage.Gating.Rulebook
import AiopsTriage.Lib.Fallible

/-!
# Gate evaluation

`evaluate_rulebook_gates` runs the gates AG0 to AG6 in order over an evaluation
state. Only AG5 talks to the outside: it asks the dedupe store whether the fingerprint
is active and, if it is not, registers it. So an evaluation falls into three parts:
the gates before AG5 (`beforeAg5`), the answer of the store (`Ag5Answer`), and what
AG5 and AG6 make of it (`afterAg5`).

`evaluateRulebookGates_eq` states this: the store acts on the decision only through
its answer.
-/

namespace AiopsTriage

/-! ## Evaluation state -/

/-- `_EvaluationState`. -/
structure EvaluationState where
  /-- the action so far -/
  currentAction : Action
  /-- whether AG0 passed -/
  inputValid : Bool := true
  /-- whether the environment cap reduced the action -/
  envCapApplied : Bool := false
  /-- reason codes so far -/
  gateReasonCodes : List String := []
  /-- whether a postmortem is required -/
  postmortemRequired : Bool := false
  /-- the mode of the postmortem -/
  postmortemMode : Option String := none
  /-- why it is required -/
  postmortemReasonCodes : List String := []
  deriving DecidableEq, Repr

/-- `_reduce_action`. -/
def reduceAction (currentAction capAction : Action) : Action :=
  if currentAction.priority ≤ capAction.priority then currentAction else capAction

/-- Reducing to a cap is taking the less urgent action. -/
theorem reduceAction_eq_min (a c : Action) : reduceAction a c = min a c := by
  rw [min_def]
  rfl

/-- `_action_from_policy_value`. -/
def actionFromPolicyValue (value context : String) : Except Failure Action :=
  match StrEnum.ofValue? value with
  | some action => .ok action
  | none => .error (.valueError s!"Invalid action value {reprText value} in {context}")

/-- `if effect.cap_action_to:`: an empty text is no cap. -/
def GateEffect.cap? (effect : GateEffect) : Option String :=
  effect.capActionTo.filter (· ≠ "")

section Effects

variable [Platform]

/-- `effect.force_postmortem_mode.strip().upper()`, where the empty text and `NONE`
mean no mode. -/
def forcedMode (text : String) : Option String :=
  let mode := Platform.upper (PyText.strip text)
  if mode = "" ∨ mode = "NONE" then none else some mode

/-- The part of `_apply_gate_effect` after the cap: reason codes and postmortem
fields. -/
def EvaluationState.record (state : EvaluationState) (effect : GateEffect) : EvaluationState :=
  { state with
    gateReasonCodes := state.gateReasonCodes ++ effect.setReasonCodes
    postmortemMode :=
      match effect.forcePostmortemMode with
      | some text => forcedMode text
      | none => state.postmortemMode
    postmortemRequired := effect.setPostmortemRequired.getD state.postmortemRequired
    postmortemReasonCodes :=
      (if effect.setPostmortemRequired = some false then [] else state.postmortemReasonCodes) ++
        effect.setPostmortemReasonCodes }

/-- The cap of `_apply_gate_effect`. -/
def EvaluationState.capTo (state : EvaluationState) (capAction : Action)
    (markEnvCapApplied : Bool) : EvaluationState :=
  { state with
    envCapApplied := state.envCapApplied ||
      (markEnvCapApplied && decide (reduceAction state.currentAction capAction ≠ state.currentAction))
    currentAction := reduceAction state.currentAction capAction }

/-- `_apply_gate_effect`. -/
def applyGateEffect (state : EvaluationState) (effect : Option GateEffect) (gateId : String)
    (allowActionChange : Bool := true) (markEnvCapApplied : Bool := false) :
    Except Failure EvaluationState :=
  match effect with
  | none => .ok state
  | some effect =>
    match effect.cap?, allowActionChange with
    | some cap, true => do
      let capAction ← actionFromPolicyValue cap s!"{gateId}.effect.cap_action_to"
      return (state.capTo capAction markEnvCapApplied).record effect
    | _, _ => .ok (state.record effect)

end Effects

/-! ## The gates before AG5 -/

/-- The gates of a rulebook in the expected order. -/
structure OrderedGates where
  /-- schema and invariants -/
  ag0 : GateSpec
  /-- environment and tier caps -/
  ag1 : GateSpec
  /-- evidence sufficiency -/
  ag2 : GateSpec
  /-- roles that are never paged -/
  ag3 : GateSpec
  /-- confidence and duration -/
  ag4 : GateSpec
  /-- storm control -/
  ag5 : GateSpec
  /-- postmortem selection -/
  ag6 : GateSpec
  deriving DecidableEq, Repr

/-- `_validate_rulebook_gate_order`, and the lookup of the gates by id that follows
it. -/
def validateRulebookGateOrder (gates : List GateSpec) : Except Failure OrderedGates :=
  match gates with
  | [g0, g1, g2, g3, g4, g5, g6] =>
    if [g0, g1, g2, g3, g4, g5, g6].map GateSpec.id = expectedGateOrder then
      .ok ⟨g0, g1, g2, g3, g4, g5, g6⟩
    else .error (wrongOrder gates)
  | gates => .error (wrongOrder gates)
where
  /-- the exception on any other order -/
  wrongOrder (gates : List GateSpec) : Failure :=
    .valueError s!"Rulebook gate order must be {reprTuple expectedGateOrder}; got {reprTuple (gates.map GateSpec.id)}"

/-- `_ag0_is_valid`. -/
def ag0IsValid (gateInput : GateInputV1) : Bool :=
  !PyText.isBlank gateInput.actionFingerprint && !gateInput.findings.isEmpty

/-- `_env_policy_fallback_keys`. -/
def envPolicyFallbackKeys (envKey : String) : List String :=
  if envKey = "uat" then ["stage"] else if envKey = "stage" then ["uat"] else []

/-- `_lookup_action_policy_entry`: the first of the keys that has an entry. -/
def lookupActionPolicyEntry (mapping : Dict String String) (key context : String)
    (fallbackKeys : List String) : Except Failure Action :=
  match (key :: fallbackKeys).findSome? fun k => (mapping.get? k).map fun value => (k, value) with
  | some (k, value) => actionFromPolicyValue value s!"{context}[{reprText k}]"
  | none => .error (.valueError s!"Missing policy mapping for {context}[{reprText key}]")

/-- The environment cap `_evaluate_ag1` looks up. -/
def envCap (caps : RulebookCaps) (env : Environment) : Except Failure Action :=
  lookupActionPolicyEntry caps.maxActionByEnv (StrEnum.value env) "caps.max_action_by_env"
    (envPolicyFallbackKeys (StrEnum.value env))

/-- The tier cap `_evaluate_ag1` looks up in production. -/
def prodTierCap (caps : RulebookCaps) (tier : CriticalityTier) : Except Failure Action :=
  lookupActionPolicyEntry caps.maxActionByTierInProd (StrEnum.value tier)
    "caps.max_action_by_tier_in_prod" []

/-- `_ag2_has_insufficient_evidence`. -/
def ag2HasInsufficientEvidence (gateInput : GateInputV1) : Bool :=
  let anomalous := gateInput.findings.filter fun f => f.isAnomalous
  let primary := anomalous.filter fun f => f.isPrimary == some true
  let toCheck := if primary.isEmpty then anomalous else primary
  toCheck.any fun finding => finding.evidenceRequired.any fun key =>
    let status := (gateInput.evidenceStatusMap.get? key).getD .unknown
    let allowed := (finding.allowedNonPresentStatusesByEvidence.get? key).getD []
    !(status == .present || allowed.contains status)

/-- `float(min)` of a value that passes `isinstance(min, int | float)`; a `bool` is an
`int`, and an integer beyond the doubles overflows. -/
def numericMin : Option Json → Except Failure PyFloat
  | some (.int n) =>
    if n.natAbs < 2 ^ 1024 - 2 ^ 970 then .ok (.finite n) else .error .overflowError
  | some (.float x) => .ok x
  | some (.bool b) => .ok (.finite (if b then 1 else 0))
  | _ => .error (.valueError
      "AG4 diagnosis_confidence min_value check is missing numeric min threshold")

/-- `diagnosis_confidence < float(min)`. -/
def confidenceBelow (q : ℚ) : PyFloat → Bool
  | .finite r => decide (q < r)
  | .posInf => true
  | .negInf => false
  | .nan => false

/-- `_ag4_reason_code_from_check`. -/
def ag4ReasonCodeFromCheck (modelExtra : Dict String Json) (defaultCode : String) : String :=
  match modelExtra.get? "reason_code_on_fail" with
  | some (.str code) => if PyText.isBlank code then defaultCode else PyText.strip code
  | _ => defaultCode

/-- What the loop of `_ag4_failure_reason_codes` carries. -/
structure Ag4Scan where
  /-- reason codes of the checks that failed -/
  reasonCodes : List String := []
  /-- whether a confidence check was found -/
  foundConfidenceCheck : Bool := false
  /-- whether a sustained check was found -/
  foundSustainedCheck : Bool := false
  deriving DecidableEq, Repr

/-- One round of the loop of `_ag4_failure_reason_codes`. -/
def Ag4Scan.check (gateInput : GateInputV1) (scan : Ag4Scan) (check : GateCheck) :
    Except Failure Ag4Scan :=
  let fieldName := check.modelExtra.get? "field"
  if check.type = "min_value" ∧ fieldName = some (.str "diagnosis_confidence") then
    match numericMin (check.modelExtra.get? "min") with
    | .error e => .error e
    | .ok minValue => .ok
        { scan with
          foundConfidenceCheck := true
          reasonCodes := scan.reasonCodes ++
            if confidenceBelow gateInput.diagnosisConfidence.val minValue then
              [ag4ReasonCodeFromCheck check.modelExtra "LOW_CONFIDENCE"] else [] }
  else if check.type = "equals" ∧ fieldName = some (.str "sustained") then
    match check.modelExtra.get? "value" with
    | some (.bool expected) => .ok
        { scan with
          foundSustainedCheck := true
          reasonCodes := scan.reasonCodes ++
            if gateInput.sustained ≠ expected then
              [ag4ReasonCodeFromCheck check.modelExtra "NOT_SUSTAINED"] else [] }
    | _ => .error (.valueError "AG4 sustained equals check must define a boolean value")
  else .ok scan

/-- `_ag4_failure_reason_codes`. -/
def ag4FailureReasonCodes (gate : GateSpec) (gateInput : GateInputV1) :
    Except Failure (List String) := do
  let scan ← gate.checks.foldlM (Ag4Scan.check gateInput) {}
  raiseIf (scan.foundConfidenceCheck = false)
    (.valueError "AG4 is missing diagnosis_confidence min_value check configuration")
  raiseIf (scan.foundSustainedCheck = false)
    (.valueError "AG4 is missing sustained equals check configuration")
  return uniqueInOrder scan.reasonCodes

section Gates

variable [Platform]

/-- The AG0 branch. -/
def evaluateAg0 (gate : GateSpec) (gateInput : GateInputV1) (state : EvaluationState) :
    Except Failure EvaluationState :=
  if ag0IsValid gateInput then .ok state
  else applyGateEffect { state with inputValid := false } gate.effect.onFail "AG0"

/-- `_evaluate_ag1`. -/
def evaluateAg1 (gate : GateSpec) (caps : RulebookCaps) (gateInput : GateInputV1)
    (state : EvaluationState) : Except Failure EvaluationState := do
  let cap ← envCap caps gateInput.env
  let envCapped := reduceAction state.currentAction cap
  let capped ← (
    if gateInput.env = .prod then
      reduceAction envCapped <$> prodTierCap caps gateInput.criticalityTier
    else .ok envCapped)
  let envCapReduced := decide (envCapped ≠ state.currentAction)
  if capped = state.currentAction then
    return state
  else
    applyGateEffect
      { state with currentAction := capped, envCapApplied := state.envCapApplied || envCapReduced }
      gate.effect.onCapApplied "AG1" true envCapReduced

/-- The AG2 branch. -/
def evaluateAg2 (gate : GateSpec) (gateInput : GateInputV1) (state : EvaluationState) :
    Except Failure EvaluationState :=
  if ag2HasInsufficientEvidence gateInput then applyGateEffect state gate.effect.onFail "AG2"
  else .ok state

/-- The AG3 branch. -/
def evaluateAg3 (gate : GateSpec) (caps : RulebookCaps) (gateInput : GateInputV1)
    (state : EvaluationState) : Except Failure EvaluationState :=
  if caps.pagingDeniedTopicRoles.contains (StrEnum.value gateInput.topicRole) ∧
      state.currentAction = .page then
    applyGateEffect state gate.effect.onFail "AG3"
  else .ok state

/-- The AG4 branch. -/
def evaluateAg4 (gate : GateSpec) (gateInput : GateInputV1) (state : EvaluationState) :
    Except Failure EvaluationState :=
  if state.currentAction < .ticket then .ok state
  else do
    let codes ← ag4FailureReasonCodes gate gateInput
    if codes = [] then return state
    else
      let state ← applyGateEffect state gate.effect.onFail "AG4"
      return { state with gateReasonCodes := state.gateReasonCodes ++ codes }

/-- The gates AG0 to AG4. -/
def beforeAg5 (gates : OrderedGates) (caps : RulebookCaps) (gateInput : GateInputV1) :
    Except Failure EvaluationState := do
  let state ← evaluateAg0 gates.ag0 gateInput { currentAction := gateInput.proposedAction }
  let state ← evaluateAg1 gates.ag1 caps gateInput state
  let state ← evaluateAg2 gates.ag2 gateInput state
  let state ← evaluateAg3 gates.ag3 caps gateInput state
  evaluateAg4 gates.ag4 gateInput state

/-! ## AG5 and AG6 -/

/-- What AG5 learns from the store. -/
inductive Ag5Answer where
  /-- there is no store -/
  | noStore
  /-- `is_duplicate` returned true -/
  | duplicate
  /-- `is_duplicate` returned false, and `remember` returned -/
  | registered
  /-- one of the two raised -/
  | storeError
  deriving DecidableEq, Repr

/-- The AG5 branch, given the answer of the store. An effect that raises inside the
`try` counts as a store error. -/
def evaluateAg5 (gate : GateSpec) (answer : Ag5Answer) (state : EvaluationState) :
    Except Failure EvaluationState :=
  match answer with
  | .noStore | .storeError => applyGateEffect state gate.effect.onStoreError "AG5"
  | .registered => .ok state
  | .duplicate =>
    match applyGateEffect state gate.effect.onDuplicate "AG5" with
    | .ok state' => .ok state'
    | .error _ => applyGateEffect state gate.effect.onStoreError "AG5"

/-- The AG6 branch. -/
def evaluateAg6 (gate : GateSpec) (gateInput : GateInputV1) (state : EvaluationState) :
    Except Failure EvaluationState :=
  if state.inputValid ∧ gateInput.env = .prod ∧ gateInput.criticalityTier = .tier0 then
    -- only a peak known to be one fires
    if gateInput.peak = some true ∧ gateInput.sustained = true then
      applyGateEffect state gate.effect.onPass "AG6" false
    else applyGateEffect state gate.effect.onFail "AG6" false
  else .ok state

/-- The end of `evaluate_rulebook_gates`: codes without repetitions, and postmortem
fields that agree with each other. -/
def decisionOf (gateInput : GateInputV1) (state : EvaluationState) : ActionDecisionV1 where
  finalAction := state.currentAction
  envCapApplied := state.envCapApplied
  gateRuleIds := expectedGateOrder
  gateReasonCodes := uniqueInOrder state.gateReasonCodes
  actionFingerprint := gateInput.actionFingerprint
  postmortemRequired := state.postmortemRequired
  postmortemMode :=
    if state.postmortemRequired then some (state.postmortemMode.getD "SOFT") else none
  postmortemReasonCodes :=
    if state.postmortemRequired then uniqueInOrder state.postmortemReasonCodes else []

/-- AG5, when the action is still more urgent than `OBSERVE`, AG6 and the decision. -/
def afterAg5 (gates : OrderedGates) (gateInput : GateInputV1) (answer : Ag5Answer)
    (state : EvaluationState) : Except Failure ActionDecisionV1 := do
  let state ← (
    if state.currentAction ≤ .observe then .ok state else evaluateAg5 gates.ag5 answer state)
  let state ← evaluateAg6 gates.ag6 gateInput state
  return decisionOf gateInput state

/-- The whole evaluation, given the answer AG5 gets if it asks. -/
def decideWith (rulebook : RulebookV1) (gateInput : GateInputV1) (answer : Ag5Answer) :
    Except Failure ActionDecisionV1 := do
  let gates ← validateRulebookGateOrder rulebook.gates
  let state ← beforeAg5 gates rulebook.caps gateInput
  afterAg5 gates gateInput answer state

/-! ## With a store -/

/-- `GateDedupeStoreProtocol` over a store state `σ`: both calls may raise. -/
structure DedupeStore (σ : Type) where
  /-- `is_duplicate` -/
  isDuplicate : String → σ → Except Failure Bool × σ
  /-- `remember` -/
  remember : String → Action → σ → Except Failure Bool × σ

/-- The calls of AG5 in their order; what `remember` returns is not looked at. -/
def DedupeStore.ask {σ : Type} (store : DedupeStore σ) (fingerprint : String) (action : Action)
    (s : σ) : Ag5Answer × σ :=
  match store.isDuplicate fingerprint s with
  | (.ok true, s) => (.duplicate, s)
  | (.ok false, s) =>
    match store.remember fingerprint action s with
    | (.ok _, s) => (.registered, s)
    | (.error _, s) => (.storeError, s)
  | (.error _, s) => (.storeError, s)

/-- The answer of a store that may be absent. -/
def askStore {σ : Type} (store : Option (DedupeStore σ)) (fingerprint : String) (action : Action)
    (s : σ) : Ag5Answer × σ :=
  match store with
  | none => (.noStore, s)
  | some store => store.ask fingerprint action s

/-- `evaluate_rulebook_gates`, with the store state before and after. -/
def evaluateRulebookGates {σ : Type} (gateInput : GateInputV1) (rulebook : RulebookV1)
    (store : Option (DedupeStore σ)) (s : σ) : Except Failure ActionDecisionV1 × σ :=
  match validateRulebookGateOrder rulebook.gates with
  | .error e => (.error e, s)
  | .ok gates =>
    match beforeAg5 gates rulebook.caps gateInput with
    | .error e => (.error e, s)
    | .ok state =>
      if state.currentAction ≤ .observe then (afterAg5 gates gateInput .noStore state, s)
      else
        (afterAg5 gates gateInput
            (askStore store gateInput.actionFingerprint state.currentAction s).1 state,
          (askStore store gateInput.actionFingerprint state.currentAction s).2)

/-! ## The store acts through its answer -/

/-- The action AG5 would register, when the evaluation gets there with one more urgent
than `OBSERVE`. -/
def ag5Action (rulebook : RulebookV1) (gateInput : GateInputV1) : Option Action :=
  match validateRulebookGateOrder rulebook.gates with
  | .error _ => none
  | .ok gates =>
    match beforeAg5 gates rulebook.caps gateInput with
    | .error _ => none
    | .ok state => if state.currentAction ≤ .observe then none else some state.currentAction

variable {σ : Type} {rulebook : RulebookV1} {gateInput : GateInputV1}

/-- An evaluation that does not reach the store leaves it alone, and no answer of a
store would change its outcome. -/
theorem evaluateRulebookGates_of_none (h : ag5Action rulebook gateInput = none)
    (store : Option (DedupeStore σ)) (s : σ) (answer : Ag5Answer) :
    evaluateRulebookGates gateInput rulebook store s = (decideWith rulebook gateInput answer, s) := by
  unfold ag5Action at h
  unfold evaluateRulebookGates decideWith
  rcases hgates : validateRulebookGateOrder rulebook.gates with e | gates
  · rfl
  · simp only [hgates] at h
    simp only [Except.ok_bind]
    rcases hstate : beforeAg5 gates rulebook.caps gateInput with e | state
    · rfl
    · simp only [hstate] at h
      by_cases hobserve : state.currentAction ≤ .observe
      · simp only [Except.ok_bind, if_pos hobserve, afterAg5]
      · simp only [if_neg hobserve] at h
        cases h

/-- An evaluation that reaches the store with an action asks it once, and decides with
the answer. -/
theorem evaluateRulebookGates_of_some {action : Action}
    (h : ag5Action rulebook gateInput = some action) (store : Option (DedupeStore σ)) (s : σ) :
    evaluateRulebookGates gateInput rulebook store s =
      (decideWith rulebook gateInput (askStore store gateInput.actionFingerprint action s).1,
        (askStore store gateInput.actionFingerprint action s).2) := by
  unfold ag5Action at h
  unfold evaluateRulebookGates decideWith
  rcases hgates : validateRulebookGateOrder rulebook.gates with e | gates
  · simp only [hgates] at h
    cases h
  · simp only [hgates] at h
    simp only [Except.ok_bind]
    rcases hstate : beforeAg5 gates rulebook.caps gateInput with e | state
    · simp only [hstate] at h
      cases h
    · simp only [hstate] at h
      by_cases hobserve : state.currentAction ≤ .observe
      · simp only [if_pos hobserve] at h
        cases h
      · simp only [if_neg hobserve, Option.some.injEq] at h
        subst h
        simp only [Except.ok_bind, if_neg hobserve]

/-- Whatever the store does, the evaluation decides with some answer of it. -/
theorem evaluateRulebookGates_decideWith (store : Option (DedupeStore σ)) (s : σ) :
    ∃ answer, (evaluateRulebookGates gateInput rulebook store s).1 =
      decideWith rulebook gateInput answer := by
  cases hag5 : ag5Action rulebook gateInput with
  | none => exact ⟨.noStore, by rw [evaluateRulebookGates_of_none hag5 store s .noStore]⟩
  | some action => exact ⟨_, by rw [evaluateRulebookGates_of_some hag5]⟩

/-- The store answers, and does not hold the fingerprint. -/
structure DedupeStore.Fresh {σ : Type} (store : DedupeStore σ) (fingerprint : String) (s : σ) :
    Prop where
  /-- it is no duplicate -/
  isDuplicate : (store.isDuplicate fingerprint s).1 = .ok false
  /-- it can be registered -/
  remember : ∀ action, ∃ added,
    (store.remember fingerprint action (store.isDuplicate fingerprint s).2).1 = .ok added

omit [Platform] in
/-- AG5 lets the action pass. -/
theorem DedupeStore.Fresh.ask {store : DedupeStore σ} {s : σ} {fingerprint : String}
    (h : store.Fresh fingerprint s) (action : Action) :
    (store.ask fingerprint action s).1 = .registered := by
  obtain ⟨added, hadded⟩ := h.remember action
  have hmiss := h.isDuplicate
  unfold DedupeStore.ask
  rcases hcall : store.isDuplicate fingerprint s with ⟨answer, s'⟩
  rw [hcall] at hmiss hadded
  simp only at hmiss hadded
  subst hmiss
  simp only
  rcases hcall' : store.remember fingerprint action s' with ⟨answer', s''⟩
  rw [hcall'] at hadded
  simp only at hadded
  subst hadded
  rfl

/-- With such a store the evaluation decides as if AG5 always let the action pass. -/
theorem evaluateRulebookGates_of_fresh {store : DedupeStore σ} {s : σ}
    (h : store.Fresh gateInput.actionFingerprint s) :
    (evaluateRulebookGates gateInput rulebook (some store) s).1 =
      decideWith rulebook gateInput .registered := by
  cases hag5 : ag5Action rulebook gateInput with
  | none => rw [evaluateRulebookGates_of_none hag5 _ _ .registered]
  | some action => rw [evaluateRulebookGates_of_some hag5, askStore, h.ask action]

/-- A decision carries the fingerprint of its gate input. -/
theorem decideWith_fingerprint {answer : Ag5Answer} {decision : ActionDecisionV1}
    (h : decideWith rulebook gateInput answer = .ok decision) :
    decision.actionFingerprint = gateInput.actionFingerprint := by
  obtain ⟨gates, -, h⟩ := Except.bind_eq_ok.mp h
  obtain ⟨state, -, h⟩ := Except.bind_eq_ok.mp h
  obtain ⟨state5, -, h⟩ := Except.bind_eq_ok.mp h
  obtain ⟨state6, -, h⟩ := Except.bind_eq_ok.mp h
  cases h
  rfl

end Gates

end AiopsTriage
