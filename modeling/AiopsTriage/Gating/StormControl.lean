import AiopsTriage.Gating.Dedupe
import AiopsTriage.Lib.CheckThenAct

/-!
# Storm control

AG5 looks a fingerprint up and, when it is not live, registers it: two store
operations, each atomic, with other evaluations free to run between them. Any number
of evaluations of one fingerprint share the store, and the run lasts less than the
windows it opens.

The run lemma (`StormInv`) says what an interleaving can bring about: the fingerprint
is live once an evaluation came out more urgent than `OBSERVE`, and an evaluation that
holds a miss on a live fingerprint is a second one. So one evaluation at most is
urgent exactly when each that missed still finds the fingerprint free when it
registers it (`storm_control_iff`). `remember` would report the lost race, but
the evaluation does not look at its answer: `storm_both_page`.
-/

open CheckThenAct

namespace AiopsTriage

/-- An evaluation, with the server time at one of its store operations. -/
structure Evaluation where
  /-- what is evaluated -/
  gateInput : GateInputV1
  /-- the time at the store -/
  now : Instant
  deriving DecidableEq

/-- What an evaluation holds between its two store operations. -/
structure EvaluationView where
  /-- what is evaluated -/
  gateInput : GateInputV1
  /-- the action AG5 would register and whether the fingerprint was live, `none` for
  an evaluation that has no question to the store -/
  lookup : Option (Action × Bool)
  deriving DecidableEq

/-- Whether the fingerprint was looked up and not found. -/
def EvaluationView.missed (view : EvaluationView) : Bool := view.lookup.any fun l => !l.2

section Protocol

variable [Platform]

/-- `evaluate_rulebook_gates` in two halves: up to the lookup, and from there on. The
second half goes by the gate input of the first. -/
def stormProtocol (rulebook : RulebookV1) (ttlConfig : Option AG5DedupeTtlConfig) :
    Protocol RedisKeys EvaluationView Evaluation (Except Failure ActionDecisionV1) where
  check e keys :=
    { gateInput := e.gateInput
      lookup := (ag5Action rulebook e.gateInput).map fun action =>
        (action, keys.live e.now (dedupeKey e.gateInput.actionFingerprint)) }
  act e view keys :=
    match view.lookup with
    | none => (keys, decideWith rulebook view.gateInput .noStore)
    | some (_, true) => (keys, decideWith rulebook view.gateInput .duplicate)
    | some (action, false) =>
      ((keys.setNxEx e.now (dedupeKey view.gateInput.actionFingerprint)
          (ttlForAction ttlConfig action)).2,
        decideWith rulebook view.gateInput .registered)

/-- With nothing in between, the two halves are the evaluation. -/
theorem stormProtocol_atomic (rulebook : RulebookV1) (ttlConfig : Option AG5DedupeTtlConfig)
    (e : Evaluation) (keys : RedisKeys) :
    (stormProtocol rulebook ttlConfig).act e ((stormProtocol rulebook ttlConfig).check e keys) keys =
      ((evaluateRulebookGates e.gateInput rulebook (some (redisStore ttlConfig e.now)) keys).2,
        (evaluateRulebookGates e.gateInput rulebook (some (redisStore ttlConfig e.now)) keys).1) := by
  cases hag5 : ag5Action rulebook e.gateInput with
  | none =>
    rw [evaluateRulebookGates_of_none hag5 _ _ .noStore]
    simp only [stormProtocol, hag5, Option.map_none]
  | some action =>
    rw [evaluateRulebookGates_of_some hag5]
    simp only [stormProtocol, hag5, Option.map_some, askStore, ask_redis]
    cases hlive : keys.live e.now (dedupeKey e.gateInput.actionFingerprint) with
    | true => rfl
    | false =>
      simp only [RedisKeys.setNxEx_of_not_live hlive]
      rfl

/-! ## One evaluation -/

/-- One finished evaluation. -/
abbrev StormDone := Done RedisKeys EvaluationView Evaluation (Except Failure ActionDecisionV1)

/-- Whether it returned a final action more urgent than `OBSERVE`. -/
def isUrgent (d : StormDone) : Bool :=
  match d.result with
  | .ok decision => decide (.observe < decision.finalAction)
  | .error _ => false

/-- A view some lookup of the fingerprint took. -/
structure TakenView (fingerprint : String) (view : EvaluationView) : Prop where
  /-- it is about the fingerprint -/
  same : view.gateInput.actionFingerprint = fingerprint
  /-- it asked exactly when AG5 does -/
  asked : view.lookup.map Prod.fst = ag5Action RulebookV1.v1 view.gateInput

variable {ttlConfig : Option AG5DedupeTtlConfig} {fingerprint : String} {e : Evaluation}
  {view : EvaluationView} {keys : RedisKeys}

/-- **One evaluation** is urgent exactly when it missed. -/
theorem isUrgent_perform (h : TakenView fingerprint view) :
    isUrgent ((stormProtocol RulebookV1.v1 ttlConfig).perform e view keys) = view.missed := by
  have hasked := h.asked
  rw [ag5Action_v1] at hasked
  have hfinal : ∀ answer, isUrgent
      { before := keys, seen := view, arg := e, after := keys
        result := decideWith RulebookV1.v1 view.gateInput answer } =
      decide (.observe < v1Final view.gateInput answer) := by
    intro answer
    obtain ⟨d, hd, -, hd', -⟩ := decideWith_v1 view.gateInput answer
    simp only [isUrgent, hd, hd']
  unfold EvaluationView.missed
  match hlookup : view.lookup with
  | none =>
    -- nothing is left of the action
    rw [hlookup, Option.map_none] at hasked
    have hle : RulebookV1.v1Action view.gateInput ≤ .observe := by
      by_contra hgt
      rw [if_neg hgt] at hasked
      cases hasked
    refine Eq.trans ?_ ((hfinal .noStore).trans ?_)
    · simp only [Protocol.perform, stormProtocol, hlookup, isUrgent]
    · exact decide_eq_false (not_lt.mpr ((min_le_left _ _).trans hle))
  | some (action, true) =>
    refine Eq.trans ?_ (hfinal .duplicate)
    simp only [Protocol.perform, stormProtocol, hlookup, isUrgent]
  | some (action, false) =>
    rw [hlookup, Option.map_some] at hasked
    have hgt : ¬ RulebookV1.v1Action view.gateInput ≤ .observe := by
      intro hle
      rw [if_pos hle] at hasked
      cases hasked
    refine Eq.trans ?_ ((hfinal .registered).trans ?_)
    · simp only [Protocol.perform, stormProtocol, hlookup, isUrgent]
    · exact decide_eq_true (not_le.mp hgt)

/-- An evaluation that did not miss leaves the store alone. -/
theorem after_of_not_missed (h : view.missed = false) :
    ((stormProtocol RulebookV1.v1 ttlConfig).perform e view keys).after = keys := by
  unfold EvaluationView.missed at h
  match hlookup : view.lookup with
  | none => simp only [Protocol.perform, stormProtocol, hlookup]
  | some (action, true) => simp only [Protocol.perform, stormProtocol, hlookup]
  | some (action, false) =>
    rw [hlookup] at h
    cases h

/-- An evaluation that missed leaves the fingerprint in the store, whether it found it
there or not. -/
theorem after_of_missed (h : view.missed = true) (hsame : view.gateInput.actionFingerprint = fingerprint) :
    (((stormProtocol RulebookV1.v1 ttlConfig).perform e view keys).after.get?
      (dedupeKey fingerprint)).isSome := by
  unfold EvaluationView.missed at h
  match hlookup : view.lookup with
  | none =>
    rw [hlookup] at h
    cases h
  | some (action, true) =>
    rw [hlookup] at h
    cases h
  | some (action, false) =>
    simp only [Protocol.perform, stormProtocol, hlookup, hsame]
    cases hlive : keys.live e.now (dedupeKey fingerprint) with
    | true =>
      rw [RedisKeys.setNxEx_of_live hlive]
      obtain ⟨expiry, hget, -⟩ := RedisKeys.live_iff.mp hlive
      rw [hget]
      rfl
    | false =>
      rw [RedisKeys.setNxEx_of_not_live hlive, Dict.get?_set, if_pos rfl]
      rfl

/-! ## Runs -/

variable {ι : Type} [DecidableEq ι]

/-- The state of a run of evaluations. -/
abbrev StormState (ι : Type) :=
  State RedisKeys EvaluationView Evaluation (Except Failure ActionDecisionV1) ι

/-- The store operation is about the fingerprint, and falls before the end of the
window the fingerprint is in. -/
structure InWindow (fingerprint : String) (s : StormState ι) (l : Label ι Evaluation) : Prop where
  /-- the fingerprint -/
  same : l.arg.gateInput.actionFingerprint = fingerprint
  /-- no expiry yet -/
  unexpired : ∀ expiry, s.cell.get? (dedupeKey fingerprint) = some expiry → l.arg.now < expiry

/-- The evaluation had not missed, or found the fingerprint still free. -/
def ClaimStands (fingerprint : String) (d : StormDone) : Prop :=
  d.seen.missed = true → d.before.live d.arg.now (dedupeKey fingerprint) = false

instance (fingerprint : String) (d : StormDone) : Decidable (ClaimStands fingerprint d) :=
  inferInstanceAs (Decidable (_ → _))

omit [Platform] [DecidableEq ι] in
/-- Within its window a fingerprint is live as soon as it is in the store. -/
theorem InWindow.live_eq {s : StormState ι} {l : Label ι Evaluation} (h : InWindow fingerprint s l) :
    s.cell.live l.arg.now (dedupeKey fingerprint) = (s.cell.get? (dedupeKey fingerprint)).isSome := by
  unfold RedisKeys.live
  cases hget : s.cell.get? (dedupeKey fingerprint) with
  | none => rfl
  | some expiry => exact decide_eq_true (h.unexpired expiry hget)

/-- What holds in every state of a run of evaluations of one fingerprint. -/
structure StormInv (fingerprint : String) (s : StormState ι) : Prop where
  /-- views come from lookups -/
  taken : ∀ i view, s.pending i = some view → TakenView fingerprint view
  /-- a miss on a fingerprint that is there was overtaken by an urgent evaluation -/
  overtaken : ∀ i view, s.pending i = some view → view.missed = true →
    (s.cell.get? (dedupeKey fingerprint)).isSome → 1 ≤ s.log.countP isUrgent
  /-- an urgent evaluation leaves the fingerprint there -/
  present : 1 ≤ s.log.countP isUrgent → (s.cell.get? (dedupeKey fingerprint)).isSome
  /-- at most one is urgent while every claim stands -/
  once : s.log.countP isUrgent ≤ 1 ↔ ∀ d ∈ s.log, ClaimStands fingerprint d

/-- A lookup takes a view; a miss is only taken on a free fingerprint. -/
theorem StormInv.check {s s' : StormState ι} {i : ι} (h : StormInv fingerprint s)
    (hwindow : InWindow fingerprint s (.check i e))
    (hstep : (stormProtocol RulebookV1.v1 ttlConfig).step s (.check i e) = some s') :
    StormInv fingerprint s' := by
  obtain ⟨hcell, hlog, hpending⟩ := Protocol.step_check hstep
  have hsame : e.gateInput.actionFingerprint = fingerprint := hwindow.same
  refine ⟨?_, ?_, by rw [hcell, hlog]; exact h.present, by rw [hlog]; exact h.once⟩
  · intro j view hj
    rw [hpending, Function.update_apply] at hj
    split at hj
    · cases hj
      refine ⟨hsame, ?_⟩
      simp only [stormProtocol, Option.map_map]
      cases ag5Action RulebookV1.v1 e.gateInput <;> rfl
    · exact h.taken j view hj
  · intro j view hj hmissed hthere
    rw [hpending, Function.update_apply] at hj
    rw [hcell] at hthere
    rw [hlog]
    split at hj
    · cases hj
      have hlive := hwindow.live_eq.trans hthere
      simp only [EvaluationView.missed, stormProtocol, hsame] at hmissed
      rw [show s.cell.live e.now (dedupeKey fingerprint) = true from hlive] at hmissed
      cases hag5 : ag5Action RulebookV1.v1 e.gateInput <;> simp [hag5] at hmissed
    · exact h.overtaken j view hj hmissed hthere

/-- The second half of an evaluation keeps the invariant: one that missed is urgent, and
it is the first one exactly when its claim stands. -/
theorem StormInv.act {s s' : StormState ι} {i : ι} (h : StormInv fingerprint s)
    (hwindow : InWindow fingerprint s (.act i e))
    (hstep : (stormProtocol RulebookV1.v1 ttlConfig).step s (.act i e) = some s') :
    StormInv fingerprint s' := by
  obtain ⟨view, hview, hcell, hlog, hpending⟩ := Protocol.step_act hstep
  have htaken := h.taken i view hview
  have hurgent : isUrgent ((stormProtocol RulebookV1.v1 ttlConfig).perform e view s.cell) =
      view.missed := isUrgent_perform htaken
  have hcount : s'.log.countP isUrgent =
      s.log.countP isUrgent + if view.missed = true then 1 else 0 := by
    rw [hlog, List.countP_append, List.countP_singleton, hurgent]
  have hbefore : ∀ j v, s'.pending j = some v → s.pending j = some v := by
    intro j v hj
    rw [hpending, Function.update_apply] at hj
    split at hj
    · cases hj
    · exact hj
  have hstands : (∀ d ∈ s'.log, ClaimStands fingerprint d) ↔
      (∀ d ∈ s.log, ClaimStands fingerprint d) ∧
        (view.missed = true → (s.cell.get? (dedupeKey fingerprint)).isSome = false) := by
    rw [hlog, List.forall_mem_append, List.forall_mem_singleton, ← hwindow.live_eq]
    rfl
  cases hmissed : view.missed with
  | false =>
    rw [hmissed] at hcount
    simp only [Bool.false_eq_true, if_false, Nat.add_zero] at hcount
    rw [after_of_not_missed hmissed] at hcell
    refine ⟨fun j v hj => h.taken j v (hbefore j v hj), ?_, ?_, ?_⟩
    · intro j v hj hm hthere
      rw [hcell] at hthere
      rw [hcount]
      exact h.overtaken j v (hbefore j v hj) hm hthere
    · rw [hcount, hcell]
      exact h.present
    · rw [hcount, hstands, h.once, hmissed]
      simp
  | true =>
    rw [hmissed, if_pos rfl] at hcount
    have hthere : (s'.cell.get? (dedupeKey fingerprint)).isSome := by
      rw [hcell]
      exact after_of_missed hmissed htaken.same
    refine ⟨fun j v hj => h.taken j v (hbefore j v hj), ?_, fun _ => hthere, ?_⟩
    · intro j v hj hm _
      omega
    · rw [hcount, hstands]
      cases hfree : (s.cell.get? (dedupeKey fingerprint)).isSome with
      | true =>
        -- overtaken: this is at least the second
        have hone := h.overtaken i view hview hmissed hfree
        constructor
        · intro hle
          omega
        · rintro ⟨-, hstand⟩
          cases hstand hmissed
      | false =>
        -- nobody was urgent before
        have hzero : s.log.countP isUrgent = 0 := by
          by_contra hne
          have hsome := h.present (Nat.one_le_iff_ne_zero.mpr hne)
          rw [hfree] at hsome
          cases hsome
        have hold := h.once.mp (by omega)
        exact ⟨fun _ => ⟨hold, fun _ => rfl⟩, fun _ => by omega⟩

/-- **Run lemma.** -/
theorem stormInv_run {s : StormState ι} {ls : List (Label ι Evaluation)}
    (hrun : Runs.run (stormProtocol RulebookV1.v1 ttlConfig).step (Protocol.start keys) ls = some s)
    (hwindow : Runs.Along (stormProtocol RulebookV1.v1 ttlConfig).step (InWindow fingerprint)
      (Protocol.start keys) ls) :
    StormInv fingerprint s := by
  refine Runs.run_inv_along ?_ hwindow hrun ?_
  · intro t l t' ht hl hstep
    cases l with
    | check i e => exact ht.check hl hstep
    | act i e => exact ht.act hl hstep
  · refine ⟨?_, ?_, ?_, ?_⟩
    · intro i view hi
      cases hi
    · intro i view hi
      cases hi
    · intro hle
      cases hle
    · simp [Protocol.start]

/-- **Storm control.** In any interleaving of any number of evaluations of one
fingerprint within its window, at most one is more urgent than `OBSERVE` exactly when
each evaluation that missed the fingerprint found it still free when it registered
it. -/
theorem storm_control_iff {s : StormState ι} {ls : List (Label ι Evaluation)}
    (hrun : Runs.run (stormProtocol RulebookV1.v1 ttlConfig).step (Protocol.start keys) ls = some s)
    (hwindow : Runs.Along (stormProtocol RulebookV1.v1 ttlConfig).step (InWindow fingerprint)
      (Protocol.start keys) ls) :
    s.log.countP isUrgent ≤ 1 ↔ ∀ d ∈ s.log, ClaimStands fingerprint d :=
  (stormInv_run hrun hwindow).once

end Protocol

/-! ## Two evaluations of one fingerprint -/

/-- An evaluation of the page at midnight. -/
def pageEvaluation : Evaluation := ⟨pageInput, newYear2026⟩

/-- Both look the fingerprint up before either registers it. -/
def bothLookUpFirst : List (Label Bool Evaluation) :=
  [.check false pageEvaluation, .check true pageEvaluation, .act false pageEvaluation,
    .act true pageEvaluation]

/-- The second evaluation loses the race for the fingerprint and pages all the same. -/
theorem storm_both_page :
    ∃ s, Runs.run (@stormProtocol (asciiPlatform []) RulebookV1.v1 none).step
        (Protocol.start .empty) bothLookUpFirst = some s ∧
      Runs.Along (@stormProtocol (asciiPlatform []) RulebookV1.v1 none).step
        (InWindow pageInput.actionFingerprint) (Protocol.start .empty) bothLookUpFirst ∧
      ¬ s.log.countP isUrgent ≤ 1 := by
  refine ⟨_, rfl, ?_, by decide +kernel⟩
  refine Runs.along_cons ⟨rfl, by decide +kernel⟩ rfl ?_
  refine Runs.along_cons ⟨rfl, by decide +kernel⟩ rfl ?_
  refine Runs.along_cons ⟨rfl, by decide +kernel⟩ rfl ?_
  exact Runs.along_cons ⟨rfl, by decide +kernel⟩ rfl Runs.along_nil

/-- The second looks the fingerprint up when the first is done. -/
def oneEvaluationAfterTheOther : List (Label Bool Evaluation) :=
  [.check false pageEvaluation, .act false pageEvaluation, .check true pageEvaluation,
    .act true pageEvaluation]

/-- The characterisation at that run: the second is suppressed. -/
theorem storm_control_page :
    ∃ s, Runs.run (@stormProtocol (asciiPlatform []) RulebookV1.v1 none).step
        (Protocol.start .empty) oneEvaluationAfterTheOther = some s ∧
      s.log.countP isUrgent ≤ 1 := by
  refine ⟨_, rfl, ?_⟩
  refine (@storm_control_iff (asciiPlatform []) none pageInput.actionFingerprint .empty Bool _ _
    oneEvaluationAfterTheOther rfl ?_).mpr ?_
  · refine Runs.along_cons ⟨rfl, by decide +kernel⟩ rfl ?_
    refine Runs.along_cons ⟨rfl, by decide +kernel⟩ rfl ?_
    refine Runs.along_cons ⟨rfl, by decide +kernel⟩ rfl ?_
    exact Runs.along_cons ⟨rfl, by decide +kernel⟩ rfl Runs.along_nil
  · decide +kernel

end AiopsTriage
