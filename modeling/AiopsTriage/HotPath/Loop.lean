import AiopsTriage.Gating.Dedupe
import AiopsTriage.Gating.Inputs
import AiopsTriage.HotPath.Body
import AiopsTriage.Lib.Runs

/-!
# The scheduler loop

A **cycle** evaluates the gates on all its gate inputs first, and then takes the decisions
one by one through the body of the inner loop. Between the two lies the difference that
matters below: the dedupe store learns of an action when it is decided, the other stores
and the outside world only in its round.

What a cycle did is in its report: the decisions it reached and a round for each
(`rounds_forall₂`). Redis answers throughout; the other remote calls of a round may fail.
-/

namespace AiopsTriage

/-! ## Cycles -/

/-- What a cycle starts from, at the end of the gate-input stage. -/
structure Cycle where
  /-- the outputs of the stages -/
  outputs : StageOutputs
  /-- the gate inputs -/
  gateInputsByScope : Dict Scope (List GateInputV1)
  /-- the time on the Redis server at each evaluation -/
  askedAt : Nat → Instant
  /-- the surroundings of each round -/
  roundEnv : Nat → RoundEnv

/-- How a round ends. -/
inductive RoundResult where
  /-- its gate input was not found -/
  | skipped
  /-- something raised -/
  | failed (error : Failure)
  /-- it got to its dispatch -/
  | dispatched (report : DispatchReport)

/-- What one round of the inner loop did. -/
structure Round where
  /-- its cycle -/
  cycle : Cycle
  /-- its place in the cycle -/
  number : Nat
  /-- the scope of its decision -/
  scope : Scope
  /-- its decision -/
  decision : ActionDecisionV1
  /-- the stores it found -/
  before : Stores
  /-- how it ended -/
  result : RoundResult
  /-- the stores it left -/
  after : Stores

/-- `next((gi for gi in gate_inputs if ...), None)`. -/
def findGateInput (cycle : Cycle) (scope : Scope) (decision : ActionDecisionV1) : Option GateInputV1 :=
  ((cycle.gateInputsByScope.get? scope).getD []).find? fun g =>
    g.actionFingerprint == decision.actionFingerprint

namespace Round

/-- The gate input of the round. -/
def gateInput (round : Round) : Option GateInputV1 :=
  findGateInput round.cycle round.scope round.decision

/-- The surroundings of the round. -/
def env (round : Round) : RoundEnv := round.cycle.roundEnv round.number

/-- When its decision was taken, on the Redis server. -/
def askedAt (round : Round) : Instant := round.cycle.askedAt round.number

/-- `dispatch_action` was called with the decision of the round. -/
def Dispatches (round : Round) : Prop :=
  ∃ report, round.result = .dispatched report ∧ report.decision = round.decision

/-- And its page, if it is one, went out. -/
def Completes (round : Round) : Prop :=
  ∃ report, round.result = .dispatched report ∧ report.decision = round.decision ∧
    report.completed = true

instance (round : Round) : Decidable round.Dispatches :=
  match h : round.result with
  | .skipped => .isFalse fun ⟨_, hr, _⟩ => by rw [h] at hr; cases hr
  | .failed _ => .isFalse fun ⟨_, hr, _⟩ => by rw [h] at hr; cases hr
  | .dispatched report =>
    decidable_of_iff (report.decision = round.decision)
      ⟨fun hd => ⟨report, h, hd⟩, fun ⟨_, hr, hd⟩ => by rw [h] at hr; cases hr; exact hd⟩

instance (round : Round) : Decidable round.Completes :=
  match h : round.result with
  | .skipped => .isFalse fun ⟨_, hr, _⟩ => by rw [h] at hr; cases hr
  | .failed _ => .isFalse fun ⟨_, hr, _⟩ => by rw [h] at hr; cases hr
  | .dispatched report =>
    decidable_of_iff (report.decision = round.decision ∧ report.completed = true)
      ⟨fun hd => ⟨report, h, hd⟩, fun ⟨_, hr, hd⟩ => by rw [h] at hr; cases hr; exact hd⟩

end Round

/-- The state the loop carries from cycle to cycle. -/
structure HotPathState where
  /-- the dedupe store -/
  redis : RedisKeys := .empty
  /-- the other stores -/
  stores : Stores := {}

/-- What a cycle did. -/
structure CycleReport where
  /-- the decisions, with their scopes -/
  decisions : List (Scope × ActionDecisionV1) := []
  /-- the rounds -/
  rounds : List Round := []

/-- Every decision was dispatched, in its round. -/
def CycleReport.AllDispatched (report : CycleReport) : Prop :=
  List.Forall₂ (fun decision round => round.decision = decision.2 ∧ round.Dispatches)
    report.decisions report.rounds

/-- Then every round did dispatch. -/
theorem CycleReport.AllDispatched.dispatches {report : CycleReport} (h : report.AllDispatched)
    {round : Round} (hround : round ∈ report.rounds) : round.Dispatches := by
  obtain ⟨_, -, -, hdispatches⟩ := h.exists_of_mem_right hround
  exact hdispatches

section Loop

variable [Platform]

/-- How a round ends, and the stores it leaves. -/
def roundOutcome (config : HotPathConfig) (cycle : Cycle) (number : Nat) (scope : Scope)
    (decision : ActionDecisionV1) (before : Stores) : RoundResult × Stores :=
  match findGateInput cycle scope decision with
  | none => (.skipped, before)
  | some gateInput =>
    match processCase config cycle.outputs scope gateInput decision (cycle.roundEnv number) before with
    | (.error e, after) => (.failed e, after)
    | (.ok report, after) => (.dispatched report, after)

/-- One round of the inner loop. -/
def performRound (config : HotPathConfig) (cycle : Cycle) (before : Stores)
    (entry : (Scope × ActionDecisionV1) × Nat) : Round × Stores :=
  let ((scope, decision), number) := entry
  let (result, after) := roundOutcome config cycle number scope decision before
  ({ cycle, number, scope, decision, before, result, after }, after)

/-- `run_gate_decision_stage_cycle`, with the Redis store. -/
def decideCycle (cycle : Cycle) (redis : RedisKeys) :
    Except Failure (List (Scope × List ActionDecisionV1)) × RedisKeys :=
  evaluateRulebookGateInputsByScope RulebookV1.v1
    (fun i => some (redisStore none (cycle.askedAt i))) 0
    (cycle.gateInputsByScope.entries.insertionSort fun a b => a.1 ≤ b.1) redis

/-- The decisions in the order of the loops. -/
def decisionsInOrder (decisionsByScope : List (Scope × List ActionDecisionV1)) :
    List (Scope × ActionDecisionV1) :=
  decisionsByScope.flatMap fun entry => entry.2.map fun decision => (entry.1, decision)

/-- A cycle from the gate decisions on. -/
def runCycle (config : HotPathConfig) (s : HotPathState) (cycle : Cycle) :
    CycleReport × HotPathState :=
  match decideCycle cycle s.redis with
  | (.error _, redis) => ({}, { s with redis })
  | (.ok decisionsByScope, redis) =>
    let decisions := decisionsInOrder decisionsByScope
    let (rounds, stores) := Runs.trace (performRound config cycle) s.stores decisions.zipIdx
    ({ decisions, rounds }, { redis, stores })

/-- A run of cycles. -/
def runCycles (config : HotPathConfig) (s : HotPathState) (cycles : List Cycle) :
    List CycleReport × HotPathState := Runs.trace (runCycle config) s cycles

/-- The rounds of a run, in order. -/
def roundsOf (reports : List CycleReport) : List Round := reports.flatMap CycleReport.rounds

/-! ## What the topology stage feeds a cycle -/

/-- What a cycle starts from, at the end of the topology stage. The contexts may propose
any action. -/
structure StageFeed where
  /-- the outputs of the stages -/
  outputs : StageOutputs
  /-- every context comes with its impact and its routing -/
  aligned : outputs.topologyOutput.Aligned
  /-- the time on the Redis server at each evaluation -/
  askedAt : Nat → Instant
  /-- the surroundings of each round -/
  roundEnv : Nat → RoundEnv

/-- The cycle of a feed, when the gate-input stage returns. -/
def StageFeed.cycle (feed : StageFeed) : Except Failure Cycle := do
  let gateInputs ← runGateInputStageCycle feed.outputs.evidenceOutput feed.outputs.peakOutput
    feed.outputs.topologyOutput.contextByScope
  return {
    outputs := feed.outputs
    gateInputsByScope := .ofPairs gateInputs
    askedAt := feed.askedAt
    roundEnv := feed.roundEnv }

/-- A cycle of the scheduler loop from the gate-input stage on. A stage that raises ends
the cycle. -/
def schedulerCycle (config : HotPathConfig) (s : HotPathState) (feed : StageFeed) :
    CycleReport × HotPathState :=
  match feed.cycle with
  | .error _ => ({}, s)
  | .ok cycle => runCycle config s cycle

/-- A run of the scheduler loop. -/
def schedulerRun (config : HotPathConfig) (s : HotPathState) (feeds : List StageFeed) :
    List CycleReport × HotPathState := Runs.trace (schedulerCycle config) s feeds

/-! ## Rounds -/

variable {config : HotPathConfig} {cycle : Cycle} {s : HotPathState}

/-- The round ended as the loop body ends. -/
def Round.Performed (config : HotPathConfig) (round : Round) : Prop :=
  (round.result, round.after) =
    roundOutcome config round.cycle round.number round.scope round.decision round.before

/-- What it takes for a round to dispatch: its gate input is found, its case is assembled,
and the stores take it. -/
theorem Round.Performed.dispatches_iff {round : Round} (h : round.Performed config) :
    round.Dispatches ↔ ∃ g casefile, round.gateInput = some g ∧
      assembleCasefileTriageStage round.scope round.cycle.outputs config.policies g round.decision
        (.aware round.env.triageTimestamp) = .ok casefile ∧
      Storable casefile round.env round.before := by
  unfold Round.Performed roundOutcome at h
  unfold Round.Dispatches
  constructor
  · rintro ⟨report, hresult, -⟩
    rw [hresult] at h
    split at h
    · cases h
    next g hfound =>
    split at h
    · cases h
    next report' after hprocess =>
    obtain ⟨casefile, hcase, hstore⟩ :=
      processCase_dispatches.mp ⟨report', congrArg Prod.fst hprocess⟩
    exact ⟨g, casefile, hfound, hcase, hstore⟩
  · rintro ⟨g, casefile, hfound, hcase, hstore⟩
    obtain ⟨report, hprocess⟩ := processCase_dispatches.mpr ⟨casefile, hcase, hstore⟩
    have hfound : findGateInput round.cycle round.scope round.decision = some g := hfound
    simp only [hfound] at h
    rcases hcall : processCase config round.cycle.outputs round.scope g round.decision
      (round.cycle.roundEnv round.number) round.before with ⟨e | report', after⟩
    · rw [Round.env, hcall] at hprocess
      cases hprocess
    · simp only [hcall, Prod.mk.injEq] at h
      exact ⟨report', h.1, (processCase_decision (congrArg Prod.fst hcall)).1⟩

/-- The case of the round is assembled, the stores take it and its page goes out. -/
def Round.GoesThrough (config : HotPathConfig) (round : Round) : Prop :=
  (∃ g casefile, round.gateInput = some g ∧
      assembleCasefileTriageStage round.scope round.cycle.outputs config.policies g round.decision
        (.aware round.env.triageTimestamp) = .ok casefile ∧
      Storable casefile round.env round.before) ∧
    PageGoesOut config.clients.pagerDuty round.decision.finalAction round.env.page

/-- What it takes for a round to complete. -/
theorem Round.Performed.completes_iff {round : Round} (h : round.Performed config) :
    round.Completes ↔ round.GoesThrough config := by
  have hreport : ∀ report, round.result = .dispatched report →
      (report.completed = true ↔
        PageGoesOut config.clients.pagerDuty round.decision.finalAction round.env.page) := by
    intro report hresult
    unfold Round.Performed roundOutcome at h
    rw [hresult] at h
    split at h
    · cases h
    split at h
    · cases h
    next g _ _ report' after hprocess =>
    cases h
    exact (processCase_decision (congrArg Prod.fst hprocess)).2
  rw [Round.GoesThrough, ← h.dispatches_iff]
  constructor
  · rintro ⟨report, hresult, hdecision, hcompleted⟩
    exact ⟨⟨report, hresult, hdecision⟩, (hreport report hresult).mp hcompleted⟩
  · rintro ⟨⟨report, hresult, hdecision⟩, hpage⟩
    exact ⟨report, hresult, hdecision, (hreport report hresult).mpr hpage⟩

/-- **The rounds of a cycle**: one a decision, in order, each performed in its place. -/
theorem rounds_forall₂ (config : HotPathConfig) (s : HotPathState) (cycle : Cycle) :
    List.Forall₂ (fun entry round => round.cycle = cycle ∧ round.number = entry.2 ∧
        round.scope = entry.1.1 ∧ round.decision = entry.1.2 ∧ round.Performed config)
      (runCycle config s cycle).1.decisions.zipIdx (runCycle config s cycle).1.rounds := by
  unfold runCycle
  rcases decideCycle cycle s.redis with ⟨e | decisionsByScope, redis⟩
  · exact .nil
  · refine (Runs.trace_forall₂ (performRound config cycle) s.stores _).imp ?_
    rintro ⟨⟨scope, decision⟩, number⟩ round ⟨stores, rfl⟩
    exact ⟨rfl, rfl, rfl, rfl, rfl⟩

/-- Every round of a cycle was performed. -/
theorem performed_of_mem {round : Round} (h : round ∈ (runCycle config s cycle).1.rounds) :
    round.cycle = cycle ∧ round.Performed config := by
  obtain ⟨entry, -, hcycle, -, -, -, hperformed⟩ :=
    (rounds_forall₂ config s cycle).exists_of_mem_right h
  exact ⟨hcycle, hperformed⟩

/-- Every round of a run was performed. -/
theorem performed_of_mem_roundsOf {round : Round} {cycles : List Cycle}
    (h : round ∈ roundsOf (runCycles config s cycles).1) : round.Performed config := by
  obtain ⟨report, hreport, hround⟩ := List.mem_flatMap.mp h
  obtain ⟨cycle, -, t, rfl⟩ :=
    (Runs.trace_forall₂ (runCycle config) s cycles).exists_of_mem_right hreport
  exact (performed_of_mem hround).2

/-- A run of the scheduler loop is a run of the cycles whose gate-input stage returns. -/
theorem schedulerRun_eq (config : HotPathConfig) (s : HotPathState) (feeds : List StageFeed) :
    roundsOf (schedulerRun config s feeds).1 =
        roundsOf (runCycles config s (feeds.filterMap fun feed => feed.cycle.toOption)).1 ∧
      (schedulerRun config s feeds).2 =
        (runCycles config s (feeds.filterMap fun feed => feed.cycle.toOption)).2 := by
  induction feeds generalizing s with
  | nil => exact ⟨rfl, rfl⟩
  | cons feed feeds ih =>
    obtain ⟨hrounds, hstate⟩ := ih (schedulerCycle config s feed).2
    cases hcycle : feed.cycle with
    | error e =>
      have hidle : schedulerCycle config s feed = ({}, s) := by rw [schedulerCycle, hcycle]
      rw [List.filterMap_cons_none (by rw [hcycle]; rfl)]
      rw [hidle] at hrounds hstate
      refine ⟨?_, ?_⟩
      · rw [← hrounds, schedulerRun, Runs.trace, hidle]
        rfl
      · rw [← hstate, schedulerRun, Runs.trace, hidle]
        rfl
    | ok cycle =>
      have hrun : schedulerCycle config s feed = runCycle config s cycle := by
        rw [schedulerCycle, hcycle]
      rw [List.filterMap_cons_some (by rw [hcycle]; rfl)]
      rw [hrun] at hrounds hstate
      refine ⟨?_, ?_⟩
      · rw [schedulerRun, runCycles, Runs.trace, Runs.trace, hrun]
        exact congrArg ((runCycle config s cycle).1.rounds ++ ·) hrounds
      · rw [schedulerRun, runCycles, Runs.trace, Runs.trace, hrun]
        exact hstate

/-- The decisions of a cycle are on its gate inputs, scope by scope. -/
theorem decideCycle_forall₂ {redis redis' : RedisKeys}
    {decisionsByScope : List (Scope × List ActionDecisionV1)}
    (h : decideCycle cycle redis = (.ok decisionsByScope, redis')) :
    List.Forall₂ (fun ins ds => ins.1 = ds.1 ∧
        List.Forall₂ (fun g d => d.actionFingerprint = g.actionFingerprint) ins.2 ds.2)
      (cycle.gateInputsByScope.entries.insertionSort fun a b => a.1 ≤ b.1) decisionsByScope := by
  refine evaluateRulebookGateInputsByScope_forall₂ ?_ (congrArg Prod.fst h)
  intro g store redis d hd
  obtain ⟨answer, hanswer⟩ : ∃ answer, (evaluateRulebookGates g RulebookV1.v1 store redis).1 =
      decideWith RulebookV1.v1 g answer := evaluateRulebookGates_decideWith store redis
  exact decideWith_fingerprint (hanswer ▸ hd)

/-- Every round finds its gate input. -/
theorem gateInput_of_mem {round : Round} (h : round ∈ (runCycle config s cycle).1.rounds) :
    ∃ gateInputs g, cycle.gateInputsByScope.get? round.scope = some gateInputs ∧
      round.gateInput = some g ∧ g.actionFingerprint = round.decision.actionFingerprint := by
  obtain ⟨entry, hentry, rfl, -, hscope, hdecision, -⟩ :=
    (rounds_forall₂ config s cycle).exists_of_mem_right h
  have hmem := List.fst_mem_of_mem_zipIdx hentry
  unfold runCycle at hmem
  rcases hdecide : decideCycle round.cycle s.redis with ⟨e | decisionsByScope, redis⟩
  · rw [hdecide] at hmem
    cases hmem
  · rw [hdecide] at hmem
    obtain ⟨⟨scope, decisions⟩, hds, hin⟩ := List.mem_flatMap.mp hmem
    obtain ⟨decision, hd, hpair⟩ := List.mem_map.mp hin
    obtain ⟨⟨scope', gateInputs⟩, hins, hsame, hfingerprints⟩ :=
      (decideCycle_forall₂ hdecide).exists_of_mem_right hds
    simp only at hsame hfingerprints hd
    subst hsame
    rw [← hpair] at hscope hdecision
    simp only at hscope hdecision
    have hget : round.cycle.gateInputsByScope.get? round.scope = some gateInputs := by
      rw [hscope, Dict.get?_eq_some]
      exact (List.mem_insertionSort _).mp hins
    -- the gate input the decision was taken on is one to find
    obtain ⟨g, hg, hfingerprint⟩ := hfingerprints.exists_of_mem_right hd
    have hsome : round.gateInput.isSome := by
      rw [Round.gateInput, findGateInput, hget, Option.getD_some, List.find?_isSome]
      exact ⟨g, hg, by rw [hdecision, hfingerprint, beq_self_eq_true]⟩
    obtain ⟨found, hfound⟩ := Option.isSome_iff_exists.mp hsome
    have hmatch := List.find?_some hfound
    exact ⟨gateInputs, found, hget, hfound, eq_of_beq hmatch⟩

/-- A cycle dispatches all its decisions exactly when all its rounds dispatch. -/
theorem allDispatched_iff :
    (runCycle config s cycle).1.AllDispatched ↔
      ∀ round ∈ (runCycle config s cycle).1.rounds, round.Dispatches := by
  refine ⟨fun h round => h.dispatches, fun h => ?_⟩
  unfold CycleReport.AllDispatched
  have hrounds := rounds_forall₂ config s cycle
  generalize (runCycle config s cycle).1.decisions = decisions at hrounds ⊢
  generalize (runCycle config s cycle).1.rounds = rounds at hrounds h ⊢
  have haligned : List.Forall₂ (fun round decision => round.decision = decision.2)
      rounds decisions := by
    rw [← List.zipIdx_map_fst 0 decisions, List.forall₂_map_right_iff]
    refine hrounds.flip.imp ?_
    rintro round entry ⟨-, -, -, hdecision, -⟩
    exact hdecision
  refine ((List.forall₂_and_left rounds decisions).mpr ⟨h, haligned⟩).flip.imp ?_
  rintro decision round ⟨hdispatches, hdecision⟩
  exact ⟨hdecision, hdispatches⟩

end Loop

end AiopsTriage
