import AiopsTriage.Gating.Dedupe

/-!
# What a final action says about its input

Three results about the composed gates. Under any rulebook the final action keeps to the
caps (`finalAction_within_caps`). Under rulebook-v1 a ticket or a page says that every gate
let it through (`urgent_admitted`). And under rulebook-v1 a weaker input is decided no more
urgently, unless the evidence it lacks makes AG2 cap the action before AG4 gets to see it
(`degraded_not_more_urgent`).
-/

namespace AiopsTriage

open RulebookV1

variable [Platform] {σ : Type} {store : Option (DedupeStore σ)} {s : σ} {g g' : GateInputV1}
  {decision decision' : ActionDecisionV1} {answer : Ag5Answer}

/-! ## Under any rulebook -/

/-- **Within the caps**: under any rulebook, and whatever the store does, the final action is
no more urgent than the proposed one, the cap of the environment and, in production, the cap
of the tier; the flag says whether the environment's cap is below what AG0 leaves; and the
codes and postmortem fields agree with each other. -/
theorem finalAction_within_caps {rulebook : RulebookV1}
    (h : (evaluateRulebookGates g rulebook store s).1 = .ok decision) :
    decision.finalAction ≤ g.proposedAction ∧
      (∃ gates s0 cap, validateRulebookGateOrder rulebook.gates = .ok gates ∧
        evaluateAg0 gates.ag0 g { currentAction := g.proposedAction } = .ok s0 ∧
        (ag0IsValid g = true → s0.currentAction = g.proposedAction) ∧
        envCap rulebook.caps g.env = .ok cap ∧ decision.finalAction ≤ cap ∧
        (decision.envCapApplied = true ↔ cap < s0.currentAction)) ∧
      (g.env = .prod → ∃ cap,
        prodTierCap rulebook.caps g.criticalityTier = .ok cap ∧
          decision.finalAction ≤ cap) ∧
      (decision.postmortemRequired = false →
        decision.postmortemMode = none ∧ decision.postmortemReasonCodes = []) ∧
      (decision.postmortemRequired = true → decision.postmortemMode.isSome) ∧
      decision.gateReasonCodes.Nodup := by
  obtain ⟨answer, hanswer⟩ := evaluateRulebookGates_decideWith store s
  rw [hanswer] at h
  refine ⟨finalAction_le_proposed h, ?_⟩
  obtain ⟨gates, hgates, h⟩ := Except.bind_eq_ok.mp h
  obtain ⟨state, hstate, h⟩ := Except.bind_eq_ok.mp h
  obtain ⟨s0, s1, h0, h1, hbefore⟩ := beforeAg5_ok hstate
  obtain ⟨state', hafter, rfl⟩ := afterAg5_ok h
  have hreduces : Reduces s1 state' := hbefore.trans hafter
  obtain ⟨-, ⟨cap, hcap, hle, hflag⟩, htier⟩ := evaluateAg1_spec h1
  refine ⟨⟨gates, s0, cap, hgates, h0, fun hvalid => ?_, hcap, hreduces.le.trans hle, ?_⟩,
    fun hprod => ?_, fun hno => ?_, fun hyes => ?_, nodup_uniqueInOrder _⟩
  · rw [evaluateAg0, if_pos hvalid] at h0
    cases h0
    rfl
  · -- nothing is marked before AG1
    have hstart : s0.envCapApplied = false := (evaluateAg0_reduces h0).flag
    rw [hstart, Bool.false_or] at hflag
    have hmarked : state'.envCapApplied = true ↔ cap < s0.currentAction := by
      rw [hreduces.flag, hflag, decide_eq_true_iff]
    exact hmarked
  · obtain ⟨tierCap, htierCap, hle⟩ := htier hprod
    exact ⟨tierCap, htierCap, hreduces.le.trans hle⟩
  · have hno : state'.postmortemRequired = false := hno
    simp [decisionOf, hno]
  · have hyes : state'.postmortemRequired = true := hyes
    simp [decisionOf, hyes]


/-- What rulebook-v1 decides with a store that has no fingerprint yet. -/
theorem evaluateRulebookGates_v1_fresh (g : GateInputV1) :
    ∃ d, (evaluateRulebookGates g v1 (some (redisStore none 0)) .empty).1 = .ok d ∧
      d.finalAction = v1Action g := by
  obtain ⟨d, hd, -, hfinal, -⟩ := decideWith_v1 g .registered
  rw [evaluateRulebookGates_of_fresh (redisStore_fresh 0 _)]
  exact ⟨d, hd, hfinal⟩

omit [Platform] in
/-- An input that pages keeps to the caps. -/
theorem finalAction_within_caps_page :
    ∃ d, (@evaluateRulebookGates (asciiPlatform []) _ pageInput v1
        (some (redisStore none 0)) .empty).1 = .ok d ∧
      d.finalAction = .page ∧ d.finalAction ≤ pageInput.proposedAction := by
  let := asciiPlatform []
  obtain ⟨d, hd, hfinal⟩ := evaluateRulebookGates_v1_fresh pageInput
  exact ⟨d, hd, hfinal.trans (by decide +kernel), (finalAction_within_caps hd).1⟩

/-! ## Under rulebook-v1 -/

/-- Under rulebook-v1 the evaluation decides with an answer of the store, if it asks. -/
theorem evaluateRulebookGates_v1 (h : (evaluateRulebookGates g v1 store s).1 = .ok decision) :
    ∃ answer, decideWith v1 g answer = .ok decision ∧
      (.observe < v1Action g → answer = (askStore store g.actionFingerprint (v1Action g) s).1) := by
  cases hag5 : ag5Action v1 g with
  | none =>
    rw [evaluateRulebookGates_of_none hag5 _ _ .noStore] at h
    refine ⟨.noStore, h, fun hlt => ?_⟩
    rw [ag5Action_v1, if_neg (not_le.mpr hlt)] at hag5
    cases hag5
  | some action =>
    rw [evaluateRulebookGates_of_some hag5] at h
    refine ⟨_, h, fun hlt => ?_⟩
    rw [ag5Action_v1, if_neg (not_le.mpr hlt), Option.some.injEq] at hag5
    rw [hag5]

/-! ### Postmortems -/

/-- No postmortem is required yet, and the state knows whether AG0 passed. -/
structure Unrequired (g : GateInputV1) (state : EvaluationState) : Prop where
  /-- whether AG0 passed -/
  valid : state.inputValid = ag0IsValid g
  /-- no postmortem is required -/
  required : state.postmortemRequired = false

/-- An effect that says nothing about it requires none. -/
theorem Unrequired.effect {state state' : EvaluationState} {effect : Option GateEffect}
    {gateId : String} {allow mark : Bool} (hstate : Unrequired g state)
    (heffect : ∀ e, effect = some e → e.setPostmortemRequired = none)
    (h : applyGateEffect state effect gateId allow mark = .ok state') : Unrequired g state' := by
  rcases applyGateEffect_ok h with ⟨-, rfl⟩ | ⟨e, he, rfl | ⟨cap, capAction, -, -, -, rfl⟩⟩
  · exact hstate
  · refine ⟨hstate.valid, ?_⟩
    rw [EvaluationState.record, heffect e he]
    exact hstate.required
  · refine ⟨hstate.valid, ?_⟩
    rw [EvaluationState.record, heffect e he]
    exact hstate.required

/-- The gates before AG5 of rulebook-v1 require none. -/
theorem beforeAg5_unrequired {state : EvaluationState}
    (h : beforeAg5 v1Gates v1Caps g = .ok state) : Unrequired g state := by
  obtain ⟨s0, h0, h⟩ := Except.bind_eq_ok.mp h
  obtain ⟨s1, h1, h⟩ := Except.bind_eq_ok.mp h
  obtain ⟨s2, h2, h⟩ := Except.bind_eq_ok.mp h
  obtain ⟨s3, h3, h⟩ := Except.bind_eq_ok.mp h
  have hu0 : Unrequired g s0 := by
    unfold evaluateAg0 at h0
    split at h0
    · next hvalid =>
      cases h0
      exact ⟨hvalid.symm, rfl⟩
    · next hvalid =>
      refine Unrequired.effect ⟨(Bool.eq_false_iff.mpr hvalid).symm, rfl⟩ ?_ h0
      rintro e ⟨⟩
      rfl
  have hu1 : Unrequired g s1 := by
    obtain ⟨cap, -, h1⟩ := Except.bind_eq_ok.mp h1
    obtain ⟨capped, -, h1⟩ := Except.bind_eq_ok.mp h1
    split at h1
    · cases h1
      exact hu0
    · have hcapped : ∀ action flag,
          Unrequired g { s0 with currentAction := action, envCapApplied := flag } :=
        fun _ _ => ⟨hu0.valid, hu0.required⟩
      refine (hcapped _ _).effect ?_ h1
      rintro e ⟨⟩
      rfl
  have hu2 : Unrequired g s2 := by
    unfold evaluateAg2 at h2
    split at h2
    · refine hu1.effect ?_ h2
      rintro e ⟨⟩
      rfl
    · cases h2
      exact hu1
  have hu3 : Unrequired g s3 := by
    unfold evaluateAg3 at h3
    split at h3
    · refine hu2.effect ?_ h3
      rintro e ⟨⟩
      rfl
    · cases h3
      exact hu2
  unfold evaluateAg4 at h
  split at h
  · cases h
    exact hu3
  · obtain ⟨codes, -, h⟩ := Except.bind_eq_ok.mp h
    split at h
    · cases h
      exact hu3
    · obtain ⟨s4, h4, h⟩ := Except.bind_eq_ok.mp h
      cases h
      have hu4 : Unrequired g s4 := by
        refine hu3.effect ?_ h4
        rintro e ⟨⟩
        rfl
      exact ⟨hu4.valid, hu4.required⟩

/-- AG5 of rulebook-v1 requires none. -/
theorem Unrequired.ag5 {state state' : EvaluationState} (hstate : Unrequired g state)
    (h : evaluateAg5 v1Ag5 answer state = .ok state') : Unrequired g state' := by
  have herror : ∀ {state'}, applyGateEffect state v1Ag5.effect.onStoreError "AG5" = .ok state' →
      Unrequired g state' := by
    intro state' h
    refine hstate.effect ?_ h
    rintro e ⟨⟩
    rfl
  unfold evaluateAg5 at h
  split at h
  · exact herror h
  · exact herror h
  · cases h
    exact hstate
  · split at h
    · next hduplicate =>
      cases h
      refine hstate.effect ?_ hduplicate
      rintro e ⟨⟩
      rfl
    · exact herror h

/-- **Postmortems** under rulebook-v1: exactly a sustained peak of tier 0 in production. -/
theorem postmortemRequired_v1 (h : decideWith v1 g answer = .ok decision) :
    decision.postmortemRequired = true ↔
      ag0IsValid g = true ∧ g.env = .prod ∧ g.criticalityTier = .tier0 ∧ g.peak = some true ∧
        g.sustained = true := by
  obtain ⟨gates, hgates, h⟩ := Except.bind_eq_ok.mp h
  obtain ⟨state, hstate, h⟩ := Except.bind_eq_ok.mp h
  obtain rfl := Except.ok.inj (orderedGates_v1.symm.trans hgates)
  obtain ⟨s5, h5, h⟩ := Except.bind_eq_ok.mp h
  obtain ⟨s6, h6, h⟩ := Except.bind_eq_ok.mp h
  cases h
  have hu := beforeAg5_unrequired hstate
  have hu5 : Unrequired g s5 := by
    split at h5
    · cases h5
      exact hu
    · exact hu.ag5 h5
  have hrequired : (decisionOf g s6).postmortemRequired = s6.postmortemRequired := rfl
  rw [hrequired]
  unfold evaluateAg6 at h6
  rw [hu5.valid] at h6
  split at h6
  · next hscope =>
    obtain ⟨hvalid, henv, htier⟩ := hscope
    split at h6
    · next hpeak =>
      rw [show v1Gates.ag6 = v1Ag6 from rfl, show v1Ag6.effect.onPass = some _ from rfl,
        applyGateEffect_of_fixed false] at h6
      cases h6
      exact iff_of_true rfl ⟨hvalid, henv, htier, hpeak⟩
    · next hpeak =>
      rw [show v1Gates.ag6 = v1Ag6 from rfl, show v1Ag6.effect.onFail = some _ from rfl,
        applyGateEffect_of_fixed false] at h6
      cases h6
      exact iff_of_false Bool.false_ne_true fun h => hpeak h.2.2.2
  · next hscope =>
    cases h6
    rw [hu5.required]
    exact iff_of_false Bool.false_ne_true fun h => hscope ⟨h.1, h.2.1, h.2.2.1⟩

/-! ### Urgent actions -/

/-- The findings whose evidence AG2 checks: the primary anomalous ones, or all anomalous ones
when none is primary. -/
def GateInputV1.findingsToCheck (g : GateInputV1) : List Finding :=
  let anomalous := g.findings.filter fun f => f.isAnomalous
  let primary := anomalous.filter fun f => f.isPrimary == some true
  if primary.isEmpty then anomalous else primary

/-- A required evidence is present, or has a status the finding allows for it. -/
def GateInputV1.Suffices (g : GateInputV1) (finding : Finding) (key : String) : Prop :=
  g.evidenceStatusMap.get? key = some .present ∨
    (g.evidenceStatusMap.get? key).getD .unknown ∈
      (finding.allowedNonPresentStatusesByEvidence.get? key).getD []

omit [Platform] in
/-- AG2 passes exactly when all the evidence that is checked suffices. -/
theorem ag2HasInsufficientEvidence_iff : ag2HasInsufficientEvidence g = false ↔
    ∀ finding ∈ g.findingsToCheck, ∀ key ∈ finding.evidenceRequired, g.Suffices finding key := by
  have hpresent : ∀ key, (g.evidenceStatusMap.get? key).getD .unknown = .present ↔
      g.evidenceStatusMap.get? key = some .present := by
    intro key
    cases g.evidenceStatusMap.get? key with
    | none => simp
    | some status => simp
  have hchecked : ag2HasInsufficientEvidence g = g.findingsToCheck.any fun finding =>
      finding.evidenceRequired.any fun key =>
        !((g.evidenceStatusMap.get? key).getD .unknown == .present ||
          ((finding.allowedNonPresentStatusesByEvidence.get? key).getD []).contains
            ((g.evidenceStatusMap.get? key).getD .unknown)) := rfl
  rw [hchecked]
  simp only [List.any_eq_false, Bool.not_eq_true, Bool.not_eq_false', Bool.or_eq_true, beq_iff_eq,
    List.contains_iff_mem, hpresent, GateInputV1.Suffices]

/-- Everything the gates of rulebook-v1 demand for a ticket or a page. -/
structure Admitted (g : GateInputV1) (store : Option (DedupeStore σ)) (s : σ) (action : Action) :
    Prop where
  /-- the fingerprint is not blank -/
  fingerprint : PyText.isBlank g.actionFingerprint = false
  /-- there is a finding -/
  findings : g.findings ≠ []
  /-- the anomaly lasts -/
  sustained : g.sustained = true
  /-- the diagnosis is confident -/
  confidence : double06 ≤ g.diagnosisConfidence.val
  /-- the evidence suffices -/
  evidence : ∀ finding ∈ g.findingsToCheck, ∀ key ∈ finding.evidenceRequired,
    g.Suffices finding key
  /-- there is a store, it did not hold the fingerprint, and it took it -/
  registered : ∃ st added, store = some st ∧
    (st.isDuplicate g.actionFingerprint s).1 = .ok false ∧
      (st.remember g.actionFingerprint action (st.isDuplicate g.actionFingerprint s).2).1 = .ok added

omit [Platform] in
/-- A store that answers `registered` is there, and both its calls returned. -/
theorem askStore_registered {fingerprint : String} {action : Action}
    (h : (askStore store fingerprint action s).1 = .registered) :
    ∃ st added, store = some st ∧ (st.isDuplicate fingerprint s).1 = .ok false ∧
      (st.remember fingerprint action (st.isDuplicate fingerprint s).2).1 = .ok added := by
  cases store with
  | none => cases h
  | some st =>
    simp only [askStore, DedupeStore.ask] at h
    split at h
    · cases h
    · next s' hmiss =>
      split at h
      · next added s'' hadded =>
        exact ⟨st, added, rfl, by rw [hmiss], by rw [hmiss, hadded]⟩
      · cases h
    · cases h

omit [Platform] in
/-- AG1 of rulebook-v1 keeps to the caps, and to AG0. -/
theorem v1AfterAg1_le :
    v1AfterAg1 g ≤ v1AfterAg0 g ∧ v1AfterAg1 g ≤ v1EnvCap g.env ∧
      (g.env = .prod → v1AfterAg1 g ≤ v1TierCap g.criticalityTier) := by
  have hfirst : v1AfterAg1 g ≤ min (v1AfterAg0 g) (v1EnvCap g.env) := min_le_left _ _
  refine ⟨hfirst.trans (min_le_left _ _), hfirst.trans (min_le_right _ _), fun hprod => ?_⟩
  rw [v1AfterAg1, if_pos hprod]
  exact min_le_right _ _

omit [Platform] in
/-- AG2 and AG3 of rulebook-v1 only reduce, and a source topic is not paged. -/
theorem v1AfterAg3_le :
    v1AfterAg3 g ≤ v1AfterAg2 g ∧ v1AfterAg2 g ≤ v1AfterAg1 g ∧
      (g.topicRole = .source → v1AfterAg3 g ≠ .page) := by
  have h2 : v1AfterAg2 g ≤ v1AfterAg1 g := by
    unfold v1AfterAg2
    split
    · exact min_le_left _ _
    · exact le_refl _
  unfold v1AfterAg3
  split
  · next hfires =>
    rw [hfires.2] at h2 ⊢
    exact ⟨by decide, h2, fun _ => by decide⟩
  · next hpass => exact ⟨le_refl _, h2, fun hrole hpage => hpass ⟨hrole, hpage⟩⟩

omit [Platform] in
/-- What the gates before AG5 of rulebook-v1 let through above `NOTIFY`. -/
theorem v1Action_urgent (h : .ticket ≤ v1Action g) :
    ag0IsValid g = true ∧ ag2HasInsufficientEvidence g = false ∧ v1Ag4Fails g = false ∧
      v1Action g ≤ v1EnvCap g.env ∧ (g.env = .prod → v1Action g ≤ v1TierCap g.criticalityTier) ∧
      (g.topicRole = .source → v1Action g ≠ .page) := by
  have hnot : ∀ {a : Action}, a ≤ .notify → ¬ .ticket ≤ a := by
    intro a ha
    exact not_le.mpr (lt_of_le_of_lt ha (by decide))
  -- AG4 left it as it was
  obtain ⟨hfails, haction⟩ : v1Ag4Fails g = false ∧ v1Action g = v1AfterAg3 g := by
    unfold v1Action at h ⊢
    split at h
    · exact absurd h (by decide)
    · next hpass =>
      rw [if_neg hpass]
      cases hfails : v1Ag4Fails g with
      | false => exact ⟨rfl, rfl⟩
      | true => exact absurd ⟨h, hfails⟩ hpass
  rw [haction] at h ⊢
  obtain ⟨h32, h21, hrole⟩ := v1AfterAg3_le (g := g)
  obtain ⟨h10, henv, htier⟩ := v1AfterAg1_le (g := g)
  -- AG2 and AG0 would have taken it lower
  have hevidence : ag2HasInsufficientEvidence g = false := by
    refine Bool.eq_false_iff.mpr fun hfails => hnot ?_ (h.trans h32)
    rw [v1AfterAg2, if_pos hfails]
    exact min_le_right _ _
  have hvalid : ag0IsValid g = true := by
    by_contra hinvalid
    rw [v1AfterAg0, if_neg hinvalid] at h10
    exact hnot (h10.trans (by decide)) (h.trans (h32.trans h21))
  exact ⟨hvalid, hevidence, hfails, (h32.trans h21).trans henv,
    fun hprod => (h32.trans h21).trans (htier hprod), hrole⟩

/-- **Urgent actions** under rulebook-v1: a ticket or a page was admitted by every gate, a
page is only for tier 0 in production and never for a source topic, and a postmortem is
required exactly for a sustained peak of tier 0 in production. -/
theorem urgent_admitted (h : (evaluateRulebookGates g v1 store s).1 = .ok decision) :
    (.ticket ≤ decision.finalAction → Admitted g store s decision.finalAction) ∧
      (decision.finalAction = .page →
        g.env = .prod ∧ g.criticalityTier = .tier0 ∧ g.topicRole ≠ .source) ∧
      (decision.postmortemRequired = true ↔
        ag0IsValid g = true ∧ g.env = .prod ∧ g.criticalityTier = .tier0 ∧ g.peak = some true ∧
          g.sustained = true) := by
  obtain ⟨answer, hanswer, hasked⟩ := evaluateRulebookGates_v1 h
  obtain ⟨d, hd, -, hfinal, -⟩ := decideWith_v1 g answer
  obtain rfl := Except.ok.inj (hanswer.symm.trans hd)
  -- an urgent action was registered
  have hurgent : .ticket ≤ decision.finalAction →
      answer = .registered ∧ decision.finalAction = v1Action g := by
    intro hle
    rw [hfinal] at hle ⊢
    cases answer with
    | registered => exact ⟨rfl, rfl⟩
    | duplicate =>
      have hobserve : ¬ Action.ticket ≤ .observe := by decide
      exact absurd hle hobserve
    | noStore => exact absurd (hle.trans (min_le_right _ _)) (by decide)
    | storeError => exact absurd (hle.trans (min_le_right _ _)) (by decide)
  refine ⟨fun hle => ?_, fun hpage => ?_, postmortemRequired_v1 hanswer⟩
  · obtain ⟨hregistered, haction⟩ := hurgent hle
    have hle' := haction ▸ hle
    obtain ⟨hvalid, hevidence, hfails, -⟩ := v1Action_urgent hle'
    have hlt : .observe < v1Action g := lt_of_lt_of_le (by decide) hle'
    rw [ag0IsValid, Bool.and_eq_true, Bool.not_eq_true', Bool.not_eq_true'] at hvalid
    rw [v1Ag4Fails, Bool.or_eq_false_iff, decide_eq_false_iff_not, not_lt,
      Bool.not_eq_false'] at hfails
    have hstore := askStore_registered ((hasked hlt).symm.trans hregistered)
    rw [haction]
    exact ⟨hvalid.1, List.isEmpty_eq_false_iff.mp hvalid.2, hfails.2, hfails.1,
      ag2HasInsufficientEvidence_iff.mp hevidence, hstore⟩
  · have hle : .ticket ≤ decision.finalAction := by rw [hpage]; decide
    have haction : v1Action g = .page := (hurgent hle).2.symm.trans hpage
    have hticket : .ticket ≤ v1Action g := by rw [haction]; decide
    obtain ⟨-, -, -, henv, htier, hrole⟩ := v1Action_urgent hticket
    rw [haction] at henv htier hrole
    have hprod : g.env = .prod := by
      revert henv
      cases g.env <;> decide
    refine ⟨hprod, ?_, fun hsource => hrole hsource rfl⟩
    have htier := htier hprod
    revert htier
    cases g.criticalityTier <;> decide

omit [Platform] in
/-- An input that pages was admitted. -/
theorem urgent_admitted_page :
    ∃ d, (@evaluateRulebookGates (asciiPlatform []) _ pageInput v1
        (some (redisStore none 0)) .empty).1 = .ok d ∧
      d.finalAction = .page ∧ Admitted pageInput (some (redisStore none 0)) .empty .page := by
  let := asciiPlatform []
  obtain ⟨d, hd, hfinal⟩ := evaluateRulebookGates_v1_fresh pageInput
  have hpage : d.finalAction = .page := hfinal.trans (by decide +kernel)
  have hadmitted := (urgent_admitted hd).1 (by rw [hpage]; decide)
  exact ⟨d, hd, hpage, hpage ▸ hadmitted⟩

/-! ### Weaker inputs -/

/-- The second input is the first with some present evidence lost, less confidence, or
without duration. -/
structure Weaker (g' g : GateInputV1) : Prop where
  /-- the rest is the same -/
  same : g' = { g with
    evidenceStatusMap := g'.evidenceStatusMap
    diagnosisConfidence := g'.diagnosisConfidence
    sustained := g'.sustained }
  /-- evidence is only lost -/
  evidence : ∀ key, g'.evidenceStatusMap.get? key = g.evidenceStatusMap.get? key ∨
    g.evidenceStatusMap.get? key = some .present
  /-- confidence is only lowered -/
  confidence : g'.diagnosisConfidence.val ≤ g.diagnosisConfidence.val
  /-- duration is only lost -/
  sustained : g'.sustained = true → g.sustained = true

omit [Platform] in
/-- Evidence that suffices for the weaker input suffices for the other. -/
theorem Weaker.ag2 (h : Weaker g' g) (hevidence : ag2HasInsufficientEvidence g' = false) :
    ag2HasInsufficientEvidence g = false := by
  have hsame := h.same
  rw [ag2HasInsufficientEvidence_iff] at hevidence ⊢
  have hfindings : g'.findingsToCheck = g.findingsToCheck := by rw [hsame]; rfl
  rw [hfindings] at hevidence
  intro finding hfinding key hkey
  rcases h.evidence key with heq | hpresent
  · have hsuffices := hevidence finding hfinding key hkey
    unfold GateInputV1.Suffices at hsuffices ⊢
    rwa [heq] at hsuffices
  · exact .inl hpresent

omit [Platform] in
/-- An input that AG4 holds to be too weak is not made stronger. -/
theorem Weaker.ag4 (h : Weaker g' g) (hfails : v1Ag4Fails g = true) : v1Ag4Fails g' = true := by
  unfold v1Ag4Fails at hfails ⊢
  rw [Bool.or_eq_true, decide_eq_true_iff, Bool.not_eq_true'] at hfails ⊢
  rcases hfails with hlow | hshort
  · exact .inl (lt_of_le_of_lt h.confidence hlow)
  · exact .inr (Bool.eq_false_iff.mpr fun hlong => by rw [h.sustained hlong] at hshort; cases hshort)

omit [Platform] in
/-- AG2 and AG3 of rulebook-v1 leave no more of the weaker input. -/
theorem Weaker.v1AfterAg3_le (h : Weaker g' g) : v1AfterAg3 g' ≤ v1AfterAg3 g := by
  have hsame := h.same
  have hrole : g'.topicRole = g.topicRole := by rw [hsame]
  have h1 : v1AfterAg1 g' = v1AfterAg1 g := by rw [hsame]; rfl
  have h2 : v1AfterAg2 g' ≤ v1AfterAg2 g := by
    rw [v1AfterAg2, v1AfterAg2, h1]
    cases hevidence : ag2HasInsufficientEvidence g' with
    | false => rw [h.ag2 hevidence]
    | true =>
      rw [if_pos rfl]
      split
      · exact le_refl _
      · exact min_le_left _ _
  -- AG3 is monotone in the action
  have hdeny : ∀ a b : Action, a ≤ b →
      (if g.topicRole = .source ∧ a = .page then Action.ticket else a) ≤
        if g.topicRole = .source ∧ b = .page then Action.ticket else b := by
    intro a b hab
    by_cases hsource : g.topicRole = .source
    · simp only [hsource, true_and]
      revert hab
      cases a <;> cases b <;> decide
    · simpa [hsource] using hab
  rw [v1AfterAg3, v1AfterAg3, hrole]
  exact hdeny _ _ h2

omit [Platform] in
/-- AG4 is the one gate that can spare a weaker input: AG2 takes its action out of AG4's
reach. -/
theorem Weaker.v1Action_le (h : Weaker g' g) : v1Action g' ≤ v1Action g ∨
    (ag2HasInsufficientEvidence g = false ∧ ag2HasInsufficientEvidence g' = true ∧
      v1Ag4Fails g = true ∧ .ticket ≤ v1AfterAg3 g ∧ v1Action g = .observe ∧
      v1Action g' ≤ .notify) := by
  have hle := h.v1AfterAg3_le
  have hbelow : v1Action g' ≤ v1AfterAg3 g' := by
    unfold v1Action
    split
    · exact Action.observe_le _
    · exact le_refl _
  by_cases hcut : .ticket ≤ v1AfterAg3 g ∧ v1Ag4Fails g = true
  · have hobserve : v1Action g = .observe := if_pos hcut
    by_cases hcut' : .ticket ≤ v1AfterAg3 g'
    · -- AG4 cuts both
      have hobserve' : v1Action g' = .observe := if_pos ⟨hcut', h.ag4 hcut.2⟩
      exact .inl (hobserve'.trans hobserve.symm).le
    · -- AG2 must have made the difference
      have hnotify : v1AfterAg3 g' ≤ .notify := by
        revert hcut'
        cases v1AfterAg3 g' <;> decide
      have hfails' : ag2HasInsufficientEvidence g' = true := by
        by_contra hpasses
        have hpasses := Bool.eq_false_iff.mpr hpasses
        have hsame : v1AfterAg3 g' = v1AfterAg3 g := by
          have hsame := h.same
          have h1 : v1AfterAg1 g' = v1AfterAg1 g := by rw [hsame]; rfl
          have hrole : g'.topicRole = g.topicRole := by rw [hsame]
          rw [v1AfterAg3, v1AfterAg3, v1AfterAg2, v1AfterAg2, h1, hrole, hpasses, h.ag2 hpasses]
        exact hcut' (hsame ▸ hcut.1)
      cases hpasses : ag2HasInsufficientEvidence g with
      | false =>
        exact .inr ⟨rfl, hfails', hcut.2, hcut.1, hobserve, hbelow.trans hnotify⟩
      | true =>
        -- with insufficient evidence there is no ticket
        have hcapped : v1AfterAg2 g ≤ .notify := by
          rw [v1AfterAg2, if_pos hpasses]
          exact min_le_right _ _
        have hticket := hcut.1.trans (AiopsTriage.v1AfterAg3_le.1.trans hcapped)
        exact absurd hticket (by decide)
  · have hkept : v1Action g = v1AfterAg3 g := if_neg hcut
    exact .inl (hkept ▸ hbelow.trans hle)

omit [Platform] in
/-- The final action follows the action before AG5. -/
theorem v1Final_mono (h : v1Action g' ≤ v1Action g) : v1Final g' answer ≤ v1Final g answer := by
  cases answer with
  | registered => exact h
  | duplicate => exact le_refl _
  | noStore => exact min_le_min_right _ h
  | storeError => exact min_le_min_right _ h

/-- The final action under rulebook-v1 with a store that answers every call alike. -/
theorem finalAction_v1 (hstore : ∀ action, (askStore store g.actionFingerprint action s).1 = answer)
    (hd : (evaluateRulebookGates g v1 store s).1 = .ok decision) :
    decision.finalAction = v1Final g answer := by
  obtain ⟨asked, hanswer, hasked⟩ := evaluateRulebookGates_v1 hd
  obtain ⟨d, hd', -, hfinal, -⟩ := decideWith_v1 g asked
  obtain rfl := Except.ok.inj (hanswer.symm.trans hd')
  by_cases hlt : .observe < v1Action g
  · rw [hfinal, hasked hlt, hstore]
  · -- nothing is left that an answer could change
    have hobserve : v1Action g = .observe := le_antisymm (not_lt.mp hlt) (Action.observe_le _)
    have hconstant : ∀ a : Ag5Answer, v1Final g a = .observe := by
      intro a
      cases a <;> simp only [v1Final, hobserve] <;> rfl
    rw [hfinal, hconstant, hconstant]

/-- **Weaker inputs** under rulebook-v1: when the stores answer alike, a weaker input is
decided no more urgently, unless AG2 fails on it alone while AG4 cut the other from a ticket
or a page to `OBSERVE`; then it gets at most `NOTIFY`. -/
theorem degraded_not_more_urgent {store' : Option (DedupeStore σ)} {s' : σ} (h : Weaker g' g)
    (hstore : ∀ action, (askStore store g.actionFingerprint action s).1 = answer)
    (hstore' : ∀ action, (askStore store' g'.actionFingerprint action s').1 = answer)
    (hd : (evaluateRulebookGates g v1 store s).1 = .ok decision)
    (hd' : (evaluateRulebookGates g' v1 store' s').1 = .ok decision') :
    decision'.finalAction ≤ decision.finalAction ∨
      (ag2HasInsufficientEvidence g = false ∧ ag2HasInsufficientEvidence g' = true ∧
        v1Ag4Fails g = true ∧ .ticket ≤ v1AfterAg3 g ∧ decision.finalAction = .observe ∧
        decision'.finalAction ≤ .notify) := by
  rw [finalAction_v1 hstore hd, finalAction_v1 hstore' hd']
  rcases h.v1Action_le with hle | ⟨hpasses, hfails, hweak, hticket, hobserve, hnotify⟩
  · exact .inl (v1Final_mono hle)
  · refine .inr ⟨hpasses, hfails, hweak, hticket, ?_, ?_⟩
    · cases answer <;> simp only [v1Final, hobserve] <;> rfl
    · cases answer with
      | registered => exact hnotify
      | duplicate => exact Action.observe_le _
      | noStore => exact min_le_right _ _
      | storeError => exact min_le_right _ _

/-- An input that pages, without the duration. -/
def shortInput : GateInputV1 := { pageInput with sustained := false }

omit [Platform] in
/-- Without the duration, an input that pages is decided less urgently. -/
theorem degraded_not_more_urgent_page :
    ∃ d d', (@evaluateRulebookGates (asciiPlatform []) _ pageInput v1
        (some (redisStore none 0)) .empty).1 = .ok d ∧
      (@evaluateRulebookGates (asciiPlatform []) _ shortInput v1
        (some (redisStore none 0)) .empty).1 = .ok d' ∧ d'.finalAction ≤ d.finalAction := by
  let := asciiPlatform []
  obtain ⟨d, hd, hfinal⟩ := evaluateRulebookGates_v1_fresh pageInput
  obtain ⟨d', hd', hfinal'⟩ := evaluateRulebookGates_v1_fresh shortInput
  have hweaker : Weaker shortInput pageInput :=
    ⟨rfl, fun _ => .inl rfl, le_refl _, fun _ => rfl⟩
  have hstore : ∀ action, (askStore (some (redisStore none 0)) pageInput.actionFingerprint action
      .empty).1 = .registered := (redisStore_fresh 0 _).ask
  refine ⟨d, d', hd, hd', ?_⟩
  rcases degraded_not_more_urgent hweaker hstore hstore hd hd' with hle | ⟨-, hfails, -⟩
  · exact hle
  · have hpasses : ag2HasInsufficientEvidence shortInput = false := by decide +kernel
    rw [hpasses] at hfails
    cases hfails

/-- The same, without its evidence. -/
def unknownInput : GateInputV1 := { shortInput with
  evidenceStatusMap := .ofPairs [("topic_messages_in_per_sec", .unknown)] }

omit [Platform] in
/-- The store answers alike, the second input is the weaker one, and it is decided more
urgently: its lost evidence takes it out of AG4's reach. -/
theorem lost_evidence_more_urgent :
    ∃ d d', Weaker unknownInput shortInput ∧
      (∀ action, (askStore (some (redisStore none 0)) shortInput.actionFingerprint action
        .empty).1 = .registered) ∧
      (@evaluateRulebookGates (asciiPlatform []) _ shortInput v1
        (some (redisStore none 0)) .empty).1 = .ok d ∧
      (@evaluateRulebookGates (asciiPlatform []) _ unknownInput v1
        (some (redisStore none 0)) .empty).1 = .ok d' ∧
      d.finalAction = .observe ∧ d'.finalAction = .notify := by
  let := asciiPlatform []
  obtain ⟨d, hd, hfinal⟩ := evaluateRulebookGates_v1_fresh shortInput
  obtain ⟨d', hd', hfinal'⟩ := evaluateRulebookGates_v1_fresh unknownInput
  refine ⟨d, d', ⟨rfl, fun key => ?_, le_refl _, id⟩, (redisStore_fresh 0 _).ask, hd, hd', ?_, ?_⟩
  · by_cases hkey : key = "topic_messages_in_per_sec"
    · subst hkey
      exact .inr (by decide +kernel)
    · left
      simp [unknownInput, shortInput, pageInput, Dict.ofPairs, Dict.get?_set, Ne.symm hkey]
  · exact hfinal.trans (by decide +kernel)
  · exact hfinal'.trans (by decide +kernel)

end AiopsTriage
