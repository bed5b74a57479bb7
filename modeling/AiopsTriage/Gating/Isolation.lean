import AiopsTriage.Gating.Inputs

/-!
# Scopes of one batch

The gate inputs of a scope are built from what the stages say of that scope alone
(`collectScopeGateInputs_congr`), and a scope whose topology is unknown is left out of the
batch. A resolved scope whose own labels cannot be read ends the whole stage, though: the
registry accepts any environment label, the gates only five.

So what one scope gets does not depend on the others exactly when the others can be read
(`gate_inputs_isolated_iff`).
-/

namespace AiopsTriage

/-- What `run_gate_input_stage_cycle` is given. -/
structure GateInputBatch where
  /-- by the evidence stage -/
  evidenceOutput : EvidenceStageOutput
  /-- by the peak stage -/
  peakOutput : PeakStageOutput
  /-- by the topology stage -/
  contextByScope : Dict Scope GateInputContext

namespace GateInputBatch

/-- Two batches say the same of a scope. -/
structure AgreeOn (scope : Scope) (b b' : GateInputBatch) : Prop where
  /-- its findings -/
  findings : b'.evidenceOutput.gateFindingsByScope.get? scope =
    b.evidenceOutput.gateFindingsByScope.get? scope
  /-- the status of its evidence -/
  statuses : b'.evidenceOutput.evidenceStatusMapByScope.get? scope =
    b.evidenceOutput.evidenceStatusMapByScope.get? scope
  /-- what is safe for all of them -/
  maxSafeAction : b'.evidenceOutput.maxSafeAction = b.evidenceOutput.maxSafeAction
  /-- its topology -/
  context : resolveContextForScope scope b'.contextByScope =
    resolveContextForScope scope b.contextByScope
  /-- the peak of its topic -/
  peak : ∀ env topic, environmentOf scope = .ok env → topicFromScope scope = .ok topic →
    b'.peakOutput.peakContextByScope.get? [StrEnum.value env, scope.getD 1 "", topic] =
      b.peakOutput.peakContextByScope.get? [StrEnum.value env, scope.getD 1 "", topic]
  /-- and how long its anomalies last -/
  sustained : ∀ family key, sustainedIdentityKey family scope = .ok key →
    b'.peakOutput.sustainedByKey.get? key = b.peakOutput.sustainedByKey.get? key

/-- A resolved scope of the batch. -/
def Resolved (b : GateInputBatch) (scope : Scope) (findings : List Finding)
    (context : GateInputContext) : Prop :=
  b.evidenceOutput.gateFindingsByScope.get? scope = some findings ∧
    resolveContextForScope scope b.contextByScope = some context

section Runs

variable [Platform]

/-- `run_gate_input_stage_cycle` on the batch. -/
def run (b : GateInputBatch) : Except Failure (List (Scope × List GateInputV1)) :=
  runGateInputStageCycle b.evidenceOutput b.peakOutput b.contextByScope

/-- The gate inputs of one of its scopes. -/
def own (b : GateInputBatch) (scope : Scope) (findings : List Finding) :
    Except Failure (Scope × List GateInputV1) :=
  let kept := b.evidenceOutput.gateFindingsByScope.filterKeys
    (hasGateInputContext b.contextByScope)
  collectScopeGateInputs
    { b.evidenceOutput with
      gateFindingsByScope := kept
      evidenceStatusMapByScope := kept.mapValues fun scope _ =>
        (b.evidenceOutput.evidenceStatusMapByScope.get? scope).getD .empty }
    b.peakOutput b.contextByScope b.evidenceOutput.maxSafeAction (scope, findings)

end Runs

end GateInputBatch

/-- The labels of a scope and of its findings can be read. -/
structure Readable [Platform] (scope : Scope) (findings : List Finding)
    (context : GateInputContext) : Prop where
  /-- a topic, or a group of one -/
  shape : scope.length = 3 ∨ scope.length = 4
  /-- an environment the gates know -/
  env : ∃ env : Environment, StrEnum.value env = scope.headD ""
  /-- names of anomaly families -/
  names : ∀ finding ∈ findings, ∃ family : AnomalyFamily,
    StrEnum.value family = Platform.upper (PyText.strip finding.name)
  /-- a confidence between 0 and 1 -/
  confidence : findings ≠ [] → ∃ q : ℚ, context.diagnosisConfidence = .finite q ∧ 0 ≤ q ∧ q ≤ 1

/-! ## Labels -/

section Labels

variable {scope : Scope}

theorem topicFromScope_returns :
    (topicFromScope scope).Returns ↔ scope.length = 3 ∨ scope.length = 4 := by
  match scope with
  | [] | [_] | [_, _] | _ :: _ :: _ :: _ :: _ :: _ => simp [topicFromScope, Except.Returns]
  | [_, _, topic] => simp [topicFromScope, Except.Returns]
  | [_, _, _, topic] => simp [topicFromScope, Except.Returns]

theorem sustainedIdentityKey_returns {family : AnomalyFamily}
    (h : scope.length = 3 ∨ scope.length = 4) : (sustainedIdentityKey family scope).Returns := by
  match scope, h with
  | [_, _, _], _ => exact ⟨_, rfl⟩
  | [_, _, _, _], _ => exact ⟨_, rfl⟩

theorem environmentOf_eq_ok {env : Environment} :
    environmentOf scope = .ok env ↔ StrEnum.value env = scope.headD "" := by
  rw [← StrEnum.ofValue?_eq_some, environmentOf]
  cases (StrEnum.ofValue? (scope.headD "") : Option Environment) <;> simp

theorem validateConfidence_returns {c : PyFloat} :
    (validateConfidence c).Returns ↔ ∃ q : ℚ, c = .finite q ∧ 0 ≤ q ∧ q ≤ 1 := by
  cases c with
  | finite q =>
    by_cases hq : 0 ≤ q ∧ q ≤ 1
    · simp [validateConfidence, Except.Returns, hq]
    · simp [validateConfidence, Except.Returns, hq]
  | _ => simp [validateConfidence, Except.Returns]

end Labels

section Isolation

variable [Platform] {scope : Scope} {findings : List Finding} {context : GateInputContext}

/-! ## What one scope gets -/

section One

variable {env : Environment} {topic : String} {maxSafeAction : Option Action}
  {evidenceOutput evidenceOutput' : EvidenceStageOutput} {peakOutput peakOutput' : PeakStageOutput}
  {finding : Finding}

/-- A gate input is built from a readable name and a valid confidence. -/
theorem gateInputOf_returns (h : scope.length = 3 ∨ scope.length = 4) :
    (gateInputOf scope findings context env topic evidenceOutput peakOutput maxSafeAction
        finding).Returns ↔
      (∃ family : AnomalyFamily,
        StrEnum.value family = Platform.upper (PyText.strip finding.name)) ∧
      ∃ q : ℚ, context.diagnosisConfidence = .finite q ∧ 0 ≤ q ∧ q ≤ 1 := by
  rw [← validateConfidence_returns]
  constructor
  · rintro ⟨g, hg⟩
    obtain ⟨family, hfamily, hg⟩ := Except.bind_eq_ok.mp hg
    obtain ⟨key, -, hg⟩ := Except.bind_eq_ok.mp hg
    obtain ⟨confidence, hconfidence, -⟩ := Except.bind_eq_ok.mp hg
    exact ⟨⟨family, anomalyFamilyFromGateFindingName_eq_ok.mp hfamily⟩, confidence, hconfidence⟩
  · rintro ⟨⟨family, hfamily⟩, confidence, hconfidence⟩
    obtain ⟨key, hkey⟩ := @sustainedIdentityKey_returns scope family h
    exact Except.bind_returns.mpr ⟨family, anomalyFamilyFromGateFindingName_eq_ok.mpr hfamily,
      Except.bind_returns.mpr ⟨key, hkey,
        Except.bind_returns.mpr ⟨confidence, hconfidence, _, rfl⟩⟩⟩

/-- It depends on what the stages say of its scope only. -/
theorem gateInputOf_congr
    (hstatuses : (evidenceOutput'.evidenceStatusMapByScope.get? scope).getD .empty =
      (evidenceOutput.evidenceStatusMapByScope.get? scope).getD .empty)
    (hpeak : peakOutput'.peakContextByScope.get? [StrEnum.value env, scope.getD 1 "", topic] =
      peakOutput.peakContextByScope.get? [StrEnum.value env, scope.getD 1 "", topic])
    (hsustained : ∀ family key, sustainedIdentityKey family scope = .ok key →
      peakOutput'.sustainedByKey.get? key = peakOutput.sustainedByKey.get? key) :
    gateInputOf scope findings context env topic evidenceOutput' peakOutput' maxSafeAction finding =
      gateInputOf scope findings context env topic evidenceOutput peakOutput maxSafeAction
        finding := by
  unfold gateInputOf
  rcases anomalyFamilyFromGateFindingName finding.name with e | family
  · rfl
  rcases hkey : sustainedIdentityKey family scope with e | key
  · simp only [Except.ok_bind, hkey, Except.error_bind]
  · simp only [Except.ok_bind, hkey, hsustained family key hkey, hstatuses, hpeak]

end One

namespace GateInputBatch

variable {b b' : GateInputBatch}

/-- A resolved scope gets its gate inputs exactly when it can be read. -/
theorem own_returns (h : b.Resolved scope findings context) :
    (b.own scope findings).Returns ↔ Readable scope findings context := by
  unfold own collectScopeGateInputs
  simp only [h.2]
  constructor
  · intro hreturns
    obtain ⟨topic, htopic, hreturns⟩ := Except.bind_returns.mp hreturns
    obtain ⟨env, henv, hreturns⟩ := Except.bind_returns.mp hreturns
    obtain ⟨gateInputs, hgateInputs, -⟩ := Except.bind_returns.mp hreturns
    have hshape := topicFromScope_returns.mp ⟨topic, htopic⟩
    have hall := Except.mapM_returns.mp ⟨gateInputs, hgateInputs⟩
    refine ⟨hshape, ⟨env, environmentOf_eq_ok.mp henv⟩, ?_, ?_⟩
    · intro finding hfinding
      exact ((gateInputOf_returns hshape).mp (hall finding hfinding)).1
    · intro hne
      obtain ⟨finding, hfinding⟩ := List.exists_mem_of_ne_nil _ hne
      exact ((gateInputOf_returns hshape).mp (hall finding hfinding)).2
  · rintro ⟨hshape, ⟨env, henv⟩, hnames, hconfidence⟩
    obtain ⟨topic, htopic⟩ := topicFromScope_returns.mpr hshape
    refine Except.bind_returns.mpr ⟨topic, htopic,
      Except.bind_returns.mpr ⟨env, environmentOf_eq_ok.mpr henv, ?_⟩⟩
    obtain ⟨gateInputs, hgateInputs⟩ := Except.mapM_returns.mpr fun finding hfinding =>
      (gateInputOf_returns hshape).mpr
        ⟨hnames finding hfinding, hconfidence (List.ne_nil_of_mem hfinding)⟩
    exact Except.bind_returns.mpr ⟨gateInputs, hgateInputs, _, rfl⟩

omit [Platform] in
/-- The statuses of a resolved scope reach its gate inputs. -/
theorem statuses_kept (h : b.Resolved scope findings context) :
    (((b.evidenceOutput.gateFindingsByScope.filterKeys
      (hasGateInputContext b.contextByScope)).mapValues fun scope _ =>
        (b.evidenceOutput.evidenceStatusMapByScope.get? scope).getD .empty).get? scope) =
      some ((b.evidenceOutput.evidenceStatusMapByScope.get? scope).getD .empty) := by
  have hkept : (b.evidenceOutput.gateFindingsByScope.filterKeys
      (hasGateInputContext b.contextByScope)).get? scope = some findings :=
    Dict.get?_filterKeys.mpr ⟨h.1, Option.isSome_iff_exists.mpr ⟨context, h.2⟩⟩
  rw [Dict.get?_mapValues, hkept]
  rfl

/-- **Frame lemma**: two batches that say the same of a resolved scope give it the same gate
inputs, whatever else is in them. -/
theorem own_congr (h : b.Resolved scope findings context) (hagree : AgreeOn scope b b') :
    b'.own scope findings = b.own scope findings := by
  have h' : b'.Resolved scope findings context :=
    ⟨hagree.findings.trans h.1, hagree.context.trans h.2⟩
  unfold own collectScopeGateInputs
  simp only [h.2, h'.2, hagree.maxSafeAction]
  rcases htopic : topicFromScope scope with e | topic
  · rfl
  rcases henv : environmentOf scope with e | env
  · rfl
  simp only [Except.ok_bind]
  congr 2
  funext finding
  refine gateInputOf_congr ?_ (hagree.peak env topic henv htopic) hagree.sustained
  rw [statuses_kept h, statuses_kept h', hagree.statuses]

/-! ## What the batch gets -/

omit [Platform] in
/-- The resolved scopes are those the stage goes through. -/
theorem mem_kept : (scope, findings) ∈ (b.evidenceOutput.gateFindingsByScope.filterKeys
    (hasGateInputContext b.contextByScope)).entries.insertionSort (fun a b => a.1 ≤ b.1) ↔
      ∃ context, b.Resolved scope findings context := by
  rw [List.mem_insertionSort, ← Dict.get?_eq_some, Dict.get?_filterKeys, hasGateInputContext,
    Option.isSome_iff_exists, ← exists_and_left]
  rfl

/-- The stage returns exactly when every resolved scope can be read. -/
theorem run_returns : b.run.Returns ↔ ∀ scope findings context,
    b.Resolved scope findings context → Readable scope findings context := by
  have hrun : b.run.Returns ↔ ∀ entry ∈ (b.evidenceOutput.gateFindingsByScope.filterKeys
      (hasGateInputContext b.contextByScope)).entries.insertionSort (fun a b => a.1 ≤ b.1),
      (b.own entry.1 entry.2).Returns := by
    refine Except.bind_returns.trans ⟨?_, ?_⟩
    · rintro ⟨collected, hcollected, -⟩
      exact Except.mapM_returns.mp ⟨collected, hcollected⟩
    · intro hall
      obtain ⟨collected, hcollected⟩ := Except.mapM_returns.mpr hall
      exact ⟨collected, hcollected, _, rfl⟩
  rw [hrun]
  constructor
  · intro hall scope findings context h
    exact (own_returns h).mp (hall _ (mem_kept.mpr ⟨context, h⟩))
  · rintro hall ⟨scope, findings⟩ hmem
    obtain ⟨context, h⟩ := mem_kept.mp hmem
    exact (own_returns h).mpr (hall scope findings context h)

/-- It gives a resolved scope its gate inputs, and nothing to a scope without findings. -/
theorem mem_run {result : List (Scope × List GateInputV1)} (hresult : b.run = .ok result)
    (h : b.Resolved scope findings context) {gateInputs : List GateInputV1} :
    (scope, gateInputs) ∈ result ↔
      b.own scope findings = .ok (scope, gateInputs) ∧ gateInputs ≠ [] := by
  obtain ⟨collected, hcollected, hfilter⟩ := Except.bind_eq_ok.mp hresult
  cases hfilter
  have hall := Except.mapM_eq_ok.mp hcollected
  rw [List.mem_filter, Bool.not_eq_true', ← Bool.not_eq_true, List.isEmpty_iff]
  refine and_congr_left fun _ => ⟨?_, ?_⟩
  · intro hmem
    obtain ⟨⟨scope', findings'⟩, hkept, hown⟩ := hall.exists_of_mem_right hmem
    obtain ⟨context', h'⟩ := mem_kept.mp hkept
    obtain rfl : scope = scope' := (collectScopeGateInputs_scope hown).1
    obtain rfl : findings = findings' := Option.some.inj (h.1.symm.trans h'.1)
    exact hown
  · intro hown
    obtain ⟨entry, hmem, hentry⟩ := hall.exists_of_mem_left (mem_kept.mpr ⟨context, h⟩)
    obtain rfl : (scope, gateInputs) = entry := Except.ok.inj (hown.symm.trans hentry)
    exact hmem

end GateInputBatch

/-- **Scope isolation**: the stage returns, and gives a readable resolved scope what it gives
it in every batch that says the same of it, exactly when the other resolved scopes of the
batch can be read as well. -/
theorem gate_inputs_isolated_iff {b : GateInputBatch} (h : b.Resolved scope findings context)
    (hscope : Readable scope findings context) :
    (∃ result, b.run = .ok result ∧ ∀ b' result', GateInputBatch.AgreeOn scope b b' →
      b'.run = .ok result' → ∀ gateInputs,
        ((scope, gateInputs) ∈ result ↔ (scope, gateInputs) ∈ result')) ↔
      ∀ other findings' context', other ≠ scope → b.Resolved other findings' context' →
        Readable other findings' context' := by
  constructor
  · rintro ⟨result, hresult, -⟩ other findings' context' - hother
    exact GateInputBatch.run_returns.mp ⟨result, hresult⟩ other findings' context' hother
  · intro hothers
    have hall : ∀ other findings' context', b.Resolved other findings' context' →
        Readable other findings' context' := by
      intro other findings' context' hother
      by_cases hsame : other = scope
      · subst hsame
        obtain rfl : findings = findings' := Option.some.inj (h.1.symm.trans hother.1)
        obtain rfl : context = context' := Option.some.inj (h.2.symm.trans hother.2)
        exact hscope
      · exact hothers other findings' context' hsame hother
    obtain ⟨result, hresult⟩ := GateInputBatch.run_returns.mpr hall
    refine ⟨result, hresult, fun b' result' hagree hresult' gateInputs => ?_⟩
    have h' : b'.Resolved scope findings context :=
      ⟨hagree.findings.trans h.1, hagree.context.trans h.2⟩
    rw [GateInputBatch.mem_run hresult h, GateInputBatch.mem_run hresult' h',
      GateInputBatch.own_congr h hagree]

end Isolation

/-! ## Two environments -/

/-- A drop in the volume of a topic. -/
def volumeDropSeen : Finding where
  findingId := "f"
  name := "VOLUME_DROP"
  isAnomalous := true
  evidenceRequired := []
  allowedNonPresentStatusesByEvidence := .empty
  isPrimary := none
  severity := none
  reasonCodes := []
  allowances_ok := allowances_empty _

/-- What is known of the topic. -/
def ordersGateContext : GateInputContext where
  streamId := "orders"
  topicRole := .source
  criticalityTier := .tier0

/-- The topic in one environment. -/
def ordersIn (env : String) : Scope := [env, "cluster-a", "orders"]

/-- The topic in another environment and in `uat`, both resolved. -/
def ordersInBoth (env : String) : GateInputBatch where
  evidenceOutput :=
    { rows := []
      gateFindingsByScope := .ofPairs
        [(ordersIn env, [volumeDropSeen]), (ordersIn "uat", [volumeDropSeen])] }
  peakOutput := {}
  contextByScope := .ofPairs [(ordersIn env, ordersGateContext), (ordersIn "uat", ordersGateContext)]

/-- The topic can be read in an environment that the gates know. -/
theorem readable_ordersIn [Platform] (env : Environment) :
    Readable (ordersIn (StrEnum.value env)) [volumeDropSeen] ordersGateContext := by
  refine ⟨.inl rfl, ⟨env, rfl⟩, ?_, fun _ => ⟨0, rfl, le_refl _, zero_le_one⟩⟩
  intro finding hfinding
  obtain rfl := List.mem_singleton.mp hfinding
  exact ⟨.volumeDrop, (upper_strip_family .volumeDrop).symm⟩

theorem gate_inputs_isolated_prod :
    let := asciiPlatform []
    ∃ result, (ordersInBoth "prod").run = .ok result ∧
      ∀ b' result', GateInputBatch.AgreeOn (ordersIn "uat") (ordersInBoth "prod") b' →
        b'.run = .ok result' → ∀ gateInputs, ((ordersIn "uat", gateInputs) ∈ result ↔
          (ordersIn "uat", gateInputs) ∈ result') := by
  let := asciiPlatform []
  refine (gate_inputs_isolated_iff ⟨rfl, rfl⟩ (readable_ordersIn .uat)).mpr ?_
  rintro other findings' context' hne ⟨hfindings, hcontext⟩
  have hmem := Dict.get?_eq_some.mp hfindings
  have hentries : (ordersInBoth "prod").evidenceOutput.gateFindingsByScope.entries =
      [(ordersIn "prod", [volumeDropSeen]), (ordersIn "uat", [volumeDropSeen])] := by decide +kernel
  rw [hentries, List.mem_pair, Prod.mk.injEq, Prod.mk.injEq] at hmem
  rcases hmem with ⟨rfl, rfl⟩ | ⟨rfl, rfl⟩
  · obtain rfl : ordersGateContext = context' := Option.some.inj hcontext
    exact readable_ordersIn .prod
  · exact absurd rfl hne

/-- The gates do not know `stage`, and so neither scope gets gate inputs. -/
theorem stage_ends_the_batch :
    let := asciiPlatform []
    (ordersInBoth "stage").run =
        .error (.valueError "'stage' is not a valid Environment") ∧
      (ordersInBoth "stage").Resolved (ordersIn "uat") [volumeDropSeen] ordersGateContext ∧
      Readable (ordersIn "uat") [volumeDropSeen] ordersGateContext ∧
      (ordersInBoth "uat").run.Returns := by
  let := asciiPlatform []
  refine ⟨by decide +kernel, ⟨rfl, rfl⟩, readable_ordersIn .uat, ?_⟩
  refine GateInputBatch.run_returns.mpr ?_
  rintro scope findings context ⟨hfindings, hcontext⟩
  have hmem := Dict.get?_eq_some.mp hfindings
  have hentries : (ordersInBoth "uat").evidenceOutput.gateFindingsByScope.entries =
      [(ordersIn "uat", [volumeDropSeen])] := by decide +kernel
  rw [hentries, List.mem_singleton, Prod.mk.injEq] at hmem
  obtain ⟨rfl, rfl⟩ := hmem
  obtain rfl : ordersGateContext = context := Option.some.inj hcontext
  exact readable_ordersIn .uat

end AiopsTriage
