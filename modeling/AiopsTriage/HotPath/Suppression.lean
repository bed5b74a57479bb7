import AiopsTriage.HotPath.Orders
import AiopsTriage.Lib.Windows
import Mathlib.Data.List.Find

/-!
# What AG5 suppresses

The dedupe store learns of an action when it is decided, before its round: whatever then
goes wrong in the round, later decisions on the same fingerprint are suppressed until the
window closes.

Which evaluation opens a window and which falls into one is a matter of the gate inputs and of
the times they are evaluated at (`gateWindows`): the keys of the store are those of the
holders (`Tracks`), and so every decision is known before its round (`Decided`). A round gets
its action out exactly when its remote calls are answered and the stores have room for its case
(`HotPathBody.Served`). So AG5 suppresses only what was sent exactly when nobody falls into the
window of a body that is not served (`suppressed_only_what_was_sent_iff`): bodies may fail, as
long as nobody comes after them in time.
-/

namespace AiopsTriage

/-! ## Evaluations -/

/-- An evaluation of the gates. -/
structure GateEvaluation where
  /-- the gate input -/
  gateInput : GateInputV1
  /-- the time on the Redis server -/
  askedAt : Instant

namespace GateEvaluation

/-- What the gates before AG5 leave of the proposed action. -/
def action (e : GateEvaluation) : Action := RulebookV1.v1Action e.gateInput

/-- When the window closes that it would open. No window is opened for `OBSERVE`. -/
def closes (e : GateEvaluation) : Option Instant :=
  if .observe < e.action then some (windowEnd none e.askedAt e.action) else none

theorem closes_eq_some {e : GateEvaluation} {t : Instant} :
    e.closes = some t ↔ .observe < e.action ∧ windowEnd none e.askedAt e.action = t := by
  rw [closes]
  split
  · next h => rw [Option.some_inj, and_iff_right h]
  · next h => exact iff_of_false (fun hsome => by cases hsome) fun hsome => h hsome.1

theorem isSome_closes {e : GateEvaluation} : e.closes.isSome ↔ .observe < e.action := by
  rw [closes]
  split
  · next h => exact iff_of_true rfl h
  · next h => exact iff_of_false (by decide) h

end GateEvaluation

/-- The windows of the fingerprints. -/
def gateWindows : Windows GateEvaluation String Instant where
  key e := e.gateInput.actionFingerprint
  time := GateEvaluation.askedAt
  closes := GateEvaluation.closes

/-- The evaluations of gate inputs, the first of which is number `i`. -/
def evaluationsAt (askedAt : Nat → Instant) (i : Nat) (gateInputs : List GateInputV1) :
    List GateEvaluation :=
  (gateInputs.zipIdx i).map fun entry => ⟨entry.1, askedAt entry.2⟩

theorem evaluationsAt_append (askedAt : Nat → Instant) (i : Nat) (gs gs' : List GateInputV1) :
    evaluationsAt askedAt i (gs ++ gs') =
      evaluationsAt askedAt i gs ++ evaluationsAt askedAt (i + gs.length) gs' := by
  rw [evaluationsAt, List.zipIdx_append, List.map_append]
  rfl

/-- The evaluations of a cycle, in the order of the loops. -/
def Cycle.evaluations (cycle : Cycle) : List GateEvaluation :=
  evaluationsAt cycle.askedAt 0
    ((cycle.gateInputsByScope.entries.insertionSort fun a b => a.1 ≤ b.1).flatMap Prod.snd)

/-- The evaluations of a run. -/
def evaluationsOf (cycles : List Cycle) : List GateEvaluation := cycles.flatMap Cycle.evaluations

/-! ## What the store knows -/

/-- The keys of the store are those of the holders. -/
def Tracks (evaluations : List GateEvaluation) (keys : RedisKeys) : Prop :=
  ∀ fingerprint, keys.get? (dedupeKey fingerprint) =
    (gateWindows.holder fingerprint evaluations).bind GateEvaluation.closes

/-- A decision is what an evaluation gives after some others. -/
structure Decided [Platform] (earlier : List GateEvaluation) (e : GateEvaluation)
    (decision : ActionDecisionV1) : Prop where
  /-- in a window it is a duplicate -/
  duplicate : (∃ h, gateWindows.FallsInto earlier e h) →
    decideWith RulebookV1.v1 e.gateInput .duplicate = .ok decision
  /-- outside it is not -/
  registered : (¬ ∃ h, gateWindows.FallsInto earlier e h) →
    decideWith RulebookV1.v1 e.gateInput .registered = .ok decision

/-- Decisions are what evaluations give, one after the other. -/
def AllDecided [Platform] : List GateEvaluation → List GateEvaluation → List ActionDecisionV1 → Prop
  | _, [], [] => True
  | earlier, e :: es, decision :: decisions =>
    Decided earlier e decision ∧ AllDecided (earlier ++ [e]) es decisions
  | _, _, _ => False

section Suppression

variable [Platform]

theorem AllDecided.append {earlier es es' : List GateEvaluation} {ds ds' : List ActionDecisionV1}
    (h : AllDecided earlier es ds) (h' : AllDecided (earlier ++ es) es' ds') :
    AllDecided earlier (es ++ es') (ds ++ ds') := by
  induction es generalizing earlier ds with
  | nil =>
    cases ds with
    | nil => rwa [List.append_nil] at h'
    | cons d ds => cases h
  | cons e es ih =>
    cases ds with
    | nil => cases h
    | cons d ds =>
      refine ⟨h.1, ih h.2 ?_⟩
      rwa [List.append_assoc]

omit [Platform] in
/-- A live key is a window to fall into. -/
theorem Tracks.live_iff {evaluations : List GateEvaluation} {keys : RedisKeys}
    (h : Tracks evaluations keys) {e : GateEvaluation} (hurgent : .observe < e.action) :
    keys.live e.askedAt (dedupeKey e.gateInput.actionFingerprint) = true ↔
      ∃ holder, gateWindows.FallsInto evaluations e holder := by
  rw [RedisKeys.live_iff, h]
  constructor
  · rintro ⟨expiry, hexpiry, hopen⟩
    obtain ⟨holder, hheld, hcloses⟩ := Option.bind_eq_some_iff.mp hexpiry
    exact ⟨holder, GateEvaluation.isSome_closes.mpr hurgent, hheld, expiry, hcloses, hopen⟩
  · rintro ⟨holder, -, hheld, expiry, hcloses, hopen⟩
    exact ⟨expiry, Option.bind_eq_some_iff.mpr ⟨holder, hheld, hcloses⟩, hopen⟩

omit [Platform] in
/-- An evaluation that opens no window leaves the holders. -/
theorem Tracks.concat_of_not_opens {evaluations : List GateEvaluation} {keys : RedisKeys}
    (h : Tracks evaluations keys) {e : GateEvaluation} (hopens : ¬ gateWindows.Opens evaluations e) :
    Tracks (evaluations ++ [e]) keys := by
  intro fingerprint
  rw [Windows.holder_concat, if_neg fun hnew => hopens hnew.2]
  exact h fingerprint

/-- **Step lemma**: an evaluation under rulebook-v1 with the Redis store. -/
theorem evaluateRulebookGates_tracks (e : GateEvaluation) {earlier : List GateEvaluation}
    {keys : RedisKeys} (htracks : Tracks earlier keys) :
    ∃ decision keys', evaluateRulebookGates e.gateInput RulebookV1.v1
        (some (redisStore none e.askedAt)) keys = (.ok decision, keys') ∧
      Tracks (earlier ++ [e]) keys' ∧ Decided earlier e decision := by
  by_cases hurgent : .observe < e.action
  · have hag5 : ag5Action RulebookV1.v1 e.gateInput = some e.action :=
      (ag5Action_v1 e.gateInput).trans (if_neg (not_le.mpr hurgent))
    rw [evaluateRulebookGates_of_some hag5, askStore, ask_redis]
    by_cases hfalls : ∃ h, gateWindows.FallsInto earlier e h
    · -- the window is open, and stays whose it is
      obtain ⟨decision, hdecision, -⟩ := decideWith_v1 e.gateInput .duplicate
      refine ⟨decision, keys, ?_, htracks.concat_of_not_opens fun hopens => hopens.2 hfalls,
        fun _ => hdecision, fun hnot => absurd hfalls hnot⟩
      rw [if_pos ((htracks.live_iff hurgent).mpr hfalls), hdecision]
    · -- the fingerprint is registered, and held by this evaluation
      obtain ⟨decision, hdecision, -⟩ := decideWith_v1 e.gateInput .registered
      have hopens : gateWindows.Opens earlier e :=
        ⟨GateEvaluation.isSome_closes.mpr hurgent, hfalls⟩
      refine ⟨decision, keys.set (dedupeKey e.gateInput.actionFingerprint)
        (windowEnd none e.askedAt e.action), ?_, fun fingerprint => ?_,
        fun h => absurd h hfalls, fun _ => hdecision⟩
      · rw [if_neg fun hlive => hfalls ((htracks.live_iff hurgent).mp hlive), hdecision]
      · rw [Dict.get?_set, Windows.holder_concat]
        by_cases hsame : e.gateInput.actionFingerprint = fingerprint
        · rw [if_pos (congrArg dedupeKey hsame), if_pos ⟨hsame, hopens⟩, Option.bind_some,
            GateEvaluation.closes, if_pos hurgent]
        · rw [if_neg fun hkey => hsame (dedupeKey_injective hkey), if_neg fun hnew => hsame hnew.1]
          exact htracks fingerprint
  · have hag5 : ag5Action RulebookV1.v1 e.gateInput = none :=
      (ag5Action_v1 e.gateInput).trans (if_pos (not_lt.mp hurgent))
    have hwants : ¬ e.closes.isSome := fun h => hurgent (GateEvaluation.isSome_closes.mp h)
    obtain ⟨decision, hdecision, -⟩ := decideWith_v1 e.gateInput .registered
    refine ⟨decision, keys, ?_, htracks.concat_of_not_opens fun hopens => hwants hopens.1,
      fun hfalls => hfalls.elim fun _ h => absurd h.wants hwants, fun _ => hdecision⟩
    rw [evaluateRulebookGates_of_none hag5 _ _ .registered, hdecision]

/-- The evaluations of a scope. -/
theorem evaluateScope_tracks (askedAt : Nat → Instant) (i : Nat) (gateInputs : List GateInputV1)
    {earlier : List GateEvaluation} {keys : RedisKeys} (htracks : Tracks earlier keys) :
    ∃ decisions keys', evaluateScope RulebookV1.v1 (fun i => some (redisStore none (askedAt i))) i
        gateInputs keys = (.ok decisions, keys') ∧
      Tracks (earlier ++ evaluationsAt askedAt i gateInputs) keys' ∧
      AllDecided earlier (evaluationsAt askedAt i gateInputs) decisions := by
  induction gateInputs generalizing i earlier keys with
  | nil =>
    refine ⟨[], keys, rfl, ?_, trivial⟩
    rwa [evaluationsAt, List.zipIdx_nil, List.map_nil, List.append_nil]
  | cons g gs ih =>
    obtain ⟨decision, keys₁, heval, htracks₁, hdecided⟩ :=
      evaluateRulebookGates_tracks ⟨g, askedAt i⟩ htracks
    obtain ⟨decisions, keys₂, hrest, htracks₂, hall⟩ := ih (i + 1) htracks₁
    have hsplit : evaluationsAt askedAt i (g :: gs) =
        ⟨g, askedAt i⟩ :: evaluationsAt askedAt (i + 1) gs := rfl
    refine ⟨decision :: decisions, keys₂, ?_, ?_, ?_⟩
    · simp only [evaluateScope, heval, hrest]
    · rw [hsplit, List.append_cons]
      exact htracks₂
    · rw [hsplit]
      exact ⟨hdecided, hall⟩

/-- The evaluations of all scopes. -/
theorem evaluateRulebookGateInputsByScope_tracks (askedAt : Nat → Instant) (i : Nat)
    (inputs : List (Scope × List GateInputV1)) {earlier : List GateEvaluation} {keys : RedisKeys}
    (htracks : Tracks earlier keys) :
    ∃ decisionsByScope keys', evaluateRulebookGateInputsByScope RulebookV1.v1
        (fun i => some (redisStore none (askedAt i))) i inputs keys = (.ok decisionsByScope, keys') ∧
      Tracks (earlier ++ evaluationsAt askedAt i (inputs.flatMap Prod.snd)) keys' ∧
      AllDecided earlier (evaluationsAt askedAt i (inputs.flatMap Prod.snd))
        (decisionsByScope.flatMap Prod.snd) := by
  induction inputs generalizing i earlier keys with
  | nil =>
    refine ⟨[], keys, rfl, ?_, trivial⟩
    rwa [evaluationsAt, List.flatMap_nil, List.zipIdx_nil, List.map_nil, List.append_nil]
  | cons entry rest ih =>
    obtain ⟨scope, gateInputs⟩ := entry
    obtain ⟨decisions, keys₁, heval, htracks₁, hall₁⟩ :=
      evaluateScope_tracks askedAt i gateInputs htracks
    obtain ⟨others, keys₂, hrest, htracks₂, hall₂⟩ := ih (i + gateInputs.length) htracks₁
    have hsplit : evaluationsAt askedAt i (((scope, gateInputs) :: rest).flatMap Prod.snd) =
        evaluationsAt askedAt i gateInputs ++
          evaluationsAt askedAt (i + gateInputs.length) (rest.flatMap Prod.snd) := by
      rw [List.flatMap_cons, evaluationsAt_append]
    refine ⟨(scope, decisions) :: others, keys₂, ?_, ?_, ?_⟩
    · simp only [evaluateRulebookGateInputsByScope, heval, hrest]
    · rw [hsplit, ← List.append_assoc]
      exact htracks₂
    · rw [hsplit, List.flatMap_cons]
      exact hall₁.append hall₂

/-! ## Bodies -/

/-- A body of the loop: the evaluation its decision comes from, and its round. -/
structure HotPathBody where
  /-- the evaluation -/
  evaluation : GateEvaluation
  /-- the round -/
  round : Round

/-- The bodies of a run. -/
def bodiesOf (config : HotPathConfig) (stores : Stores) (cycles : List Cycle) : List HotPathBody :=
  List.zipWith HotPathBody.mk (evaluationsOf cycles)
    (roundsOf (runCycles config ⟨.empty, stores⟩ cycles).1)

/-- The windows the bodies open. -/
def bodyWindows : Windows HotPathBody String Instant := gateWindows.comap HotPathBody.evaluation

namespace HotPathBody

/-- The case of a body whose fingerprint is registered. -/
def HasCase (config : HotPathConfig) (body : HotPathBody) (casefile : CaseFileTriageV1) : Prop :=
  ∃ decision gateInput,
    decideWith RulebookV1.v1 body.evaluation.gateInput .registered = .ok decision ∧
      findGateInput body.round.cycle body.round.scope decision = some gateInput ∧
      assembleCasefileTriageStage body.round.scope body.round.cycle.outputs config.policies gateInput
        decision (.aware body.round.env.triageTimestamp) = .ok casefile

/-- What the calls of a body and the stores before it are like when its case is taken and its
page goes out. -/
structure Served (config : HotPathConfig) (body : HotPathBody) : Prop where
  /-- its calls to the stores are answered, and they have room for its case -/
  stores : ∃ casefile, body.HasCase config casefile ∧
    Storable casefile body.round.env body.round.before
  /-- PagerDuty answers a page -/
  page : PageGoesOut config.clients.pagerDuty body.evaluation.action body.round.env.page

end HotPathBody

/-! ## Runs -/

section Runs

variable {config : HotPathConfig} {cycle : Cycle} {s : HotPathState}

omit [Platform] in
/-- Evaluations ask at the times of their places. -/
theorem evaluationsAt_askedAt (askedAt : Nat → Instant) (i : Nat) (gs : List GateInputV1) :
    (evaluationsAt askedAt i gs).map GateEvaluation.askedAt = (List.range' i gs.length).map askedAt := by
  rw [evaluationsAt, List.map_map, ← List.zipIdx_map_snd i gs, List.map_map]
  rfl

/-- There is a decision for every evaluation. -/
theorem AllDecided.length_eq {earlier es : List GateEvaluation} {ds : List ActionDecisionV1}
    (h : AllDecided earlier es ds) : es.length = ds.length := by
  induction es generalizing earlier ds with
  | nil =>
    cases ds with
    | nil => rfl
    | cons d ds => cases h
  | cons e es ih =>
    cases ds with
    | nil => cases h
    | cons d ds => exact congrArg (· + 1) (ih h.2)

/-- The rounds of a cycle have its decisions, and ask at the times of their places. -/
theorem rounds_map (config : HotPathConfig) {decisionsByScope : List (Scope × List ActionDecisionV1)} {redis : RedisKeys}
    (h : decideCycle cycle s.redis = (.ok decisionsByScope, redis)) :
    (runCycle config s cycle).1.rounds.map Round.decision = decisionsByScope.flatMap Prod.snd ∧
      (runCycle config s cycle).1.rounds.map Round.askedAt =
        (List.range' 0 (decisionsByScope.flatMap Prod.snd).length).map cycle.askedAt := by
  have hdecisions : (runCycle config s cycle).1.decisions = decisionsInOrder decisionsByScope := by
    simp only [runCycle, h]
  have hflat : decisionsByScope.flatMap Prod.snd = (decisionsInOrder decisionsByScope).map Prod.snd := by
    simp [decisionsInOrder, List.map_flatMap]
  have hrounds := rounds_forall₂ config s cycle
  rw [hdecisions] at hrounds
  constructor
  · rw [hflat, ← List.zipIdx_map_fst 0 (decisionsInOrder decisionsByScope), List.map_map,
      eq_comm, ← List.forall₂_eq_eq_eq, List.forall₂_map_left_iff, List.forall₂_map_right_iff]
    exact hrounds.imp fun entry round hround => hround.2.2.2.1.symm
  · rw [hflat, List.length_map, ← List.zipIdx_map_snd 0 (decisionsInOrder decisionsByScope),
      List.map_map, eq_comm, ← List.forall₂_eq_eq_eq, List.forall₂_map_left_iff,
      List.forall₂_map_right_iff]
    refine hrounds.imp ?_
    rintro entry round ⟨hcycle, hnumber, -⟩
    rw [Round.askedAt, hcycle, hnumber]
    rfl

/-- One cycle: the store goes on to track the evaluations, and every round has the decision of
its evaluation. -/
theorem runCycle_tracks (config : HotPathConfig) (cycle : Cycle) {earlier : List GateEvaluation}
    (htracks : Tracks earlier s.redis) :
    Tracks (earlier ++ cycle.evaluations) (runCycle config s cycle).2.redis ∧
      AllDecided earlier cycle.evaluations ((runCycle config s cycle).1.rounds.map Round.decision) ∧
      (runCycle config s cycle).1.rounds.map Round.askedAt =
        cycle.evaluations.map GateEvaluation.askedAt := by
  obtain ⟨decisionsByScope, redis, hdecide, htracks', hall⟩ :=
    evaluateRulebookGateInputsByScope_tracks cycle.askedAt 0
      (cycle.gateInputsByScope.entries.insertionSort fun a b => a.1 ≤ b.1) htracks
  have hdecide : decideCycle cycle s.redis = (.ok decisionsByScope, redis) := hdecide
  have hredis : (runCycle config s cycle).2.redis = redis := by simp only [runCycle, hdecide]
  obtain ⟨hdecisions, haskedAt⟩ := rounds_map config hdecide
  rw [hredis, hdecisions, haskedAt, ← hall.length_eq, evaluationsAt, List.length_map,
    List.length_zipIdx, Cycle.evaluations, evaluationsAt_askedAt]
  exact ⟨htracks', hall, rfl⟩

/-- **Run lemma**: the same of a run. -/
theorem runCycles_tracks (config : HotPathConfig) (cycles : List Cycle) {earlier : List GateEvaluation}
    (htracks : Tracks earlier s.redis) :
    AllDecided earlier (evaluationsOf cycles)
        ((roundsOf (runCycles config s cycles).1).map Round.decision) ∧
      (roundsOf (runCycles config s cycles).1).map Round.askedAt =
        (evaluationsOf cycles).map GateEvaluation.askedAt := by
  induction cycles generalizing s earlier with
  | nil => exact ⟨trivial, rfl⟩
  | cons cycle cycles ih =>
    obtain ⟨htracks', hall, haskedAt⟩ := runCycle_tracks config cycle htracks
    obtain ⟨hall', haskedAt'⟩ := ih htracks'
    have hsplit : roundsOf (runCycles config s (cycle :: cycles)).1 =
        (runCycle config s cycle).1.rounds ++
          roundsOf (runCycles config (runCycle config s cycle).2 cycles).1 := rfl
    rw [hsplit, evaluationsOf, List.flatMap_cons, List.map_append, List.map_append, List.map_append,
      haskedAt, haskedAt']
    exact ⟨hall.append hall', rfl⟩

end Runs

/-! ## Bodies of a run -/

section BodiesOfRun

variable {config : HotPathConfig} {stores : Stores} {cycles : List Cycle}
  {pre post : List HotPathBody} {body : HotPathBody}

/-- A body of a run decides as its evaluation does after the evaluations before it, and performs
its round. -/
structure HotPathBody.Formed (config : HotPathConfig) (pre : List HotPathBody)
    (body : HotPathBody) : Prop where
  /-- its decision -/
  decided : Decided (pre.map HotPathBody.evaluation) body.evaluation body.round.decision
  /-- its time -/
  askedAt : body.round.askedAt = body.evaluation.askedAt
  /-- its round -/
  performed : body.round.Performed config

/-- The decision of a body in a list of them. -/
theorem AllDecided.of_split {earlier es : List GateEvaluation} {rounds : List Round}
    (h : AllDecided earlier es (rounds.map Round.decision))
    (hsplit : List.zipWith HotPathBody.mk es rounds = pre ++ body :: post) :
    Decided (earlier ++ pre.map HotPathBody.evaluation) body.evaluation body.round.decision := by
  induction pre generalizing earlier es rounds with
  | nil =>
    rcases es with _ | ⟨e, es⟩ <;> rcases rounds with _ | ⟨round, rounds⟩ <;> cases hsplit
    rw [List.map_nil, List.append_nil]
    exact h.1
  | cons first pre ih =>
    rcases es with _ | ⟨e, es⟩
    · cases hsplit
    rcases rounds with _ | ⟨round, rounds⟩
    · cases hsplit
    obtain ⟨rfl, hrest⟩ := List.cons_eq_cons.mp hsplit
    rw [List.map_cons, List.append_cons]
    exact ih h.2 hrest

/-- A run starts with an empty store, which tracks no evaluations. -/
theorem allDecided_run (config : HotPathConfig) (stores : Stores) (cycles : List Cycle) :
    AllDecided [] (evaluationsOf cycles)
        ((roundsOf (runCycles config ⟨.empty, stores⟩ cycles).1).map Round.decision) ∧
      (roundsOf (runCycles config ⟨.empty, stores⟩ cycles).1).map Round.askedAt =
        (evaluationsOf cycles).map GateEvaluation.askedAt :=
  runCycles_tracks config cycles fun _ => rfl

/-- Every body of a run is formed. -/
theorem formed_of_split (hsplit : bodiesOf config stores cycles = pre ++ body :: post) :
    body.Formed config pre := by
  obtain ⟨hall, haskedAt⟩ := allDecided_run config stores cycles
  have hmem : body ∈ bodiesOf config stores cycles := by
    rw [hsplit]
    exact List.mem_append_right _ List.mem_cons_self
  refine ⟨hall.of_split hsplit, ?_, ?_⟩
  · have htimes : ∀ b ∈ bodiesOf config stores cycles, b.round.askedAt = b.evaluation.askedAt := by
      rw [← List.forall₂_eq_eq_eq, List.forall₂_map_left_iff, List.forall₂_map_right_iff] at haskedAt
      intro b hb
      obtain ⟨i, hi, rfl⟩ := List.getElem_of_mem hb
      simp only [bodiesOf, List.getElem_zipWith]
      exact haskedAt.get _ _
    exact htimes body hmem
  · have hround : body.round ∈ roundsOf (runCycles config ⟨.empty, stores⟩ cycles).1 := by
      obtain ⟨i, hi, rfl⟩ := List.getElem_of_mem hmem
      simp only [bodiesOf, List.getElem_zipWith]
      exact List.getElem_mem _
    exact performed_of_mem_roundsOf hround

/-- The rounds of the bodies are those of the run. -/
theorem bodiesOf_map_round (config : HotPathConfig) (stores : Stores) (cycles : List Cycle) :
    (bodiesOf config stores cycles).map HotPathBody.round =
      roundsOf (runCycles config ⟨.empty, stores⟩ cycles).1 := by
  obtain ⟨hall, -⟩ := allDecided_run config stores cycles
  have hlength := hall.length_eq
  rw [List.length_map] at hlength
  rw [bodiesOf, ← List.map_uncurry_zip_eq_zipWith, List.map_map]
  exact List.map_snd_zip (ge_of_eq hlength)

/-- The fingerprint of a body. -/
theorem HotPathBody.Formed.fingerprint (h : body.Formed config pre) :
    body.round.decision.actionFingerprint = body.evaluation.gateInput.actionFingerprint := by
  by_cases hfalls : ∃ e, gateWindows.FallsInto (pre.map HotPathBody.evaluation) body.evaluation e
  · exact decideWith_fingerprint (h.decided.duplicate hfalls)
  · exact decideWith_fingerprint (h.decided.registered hfalls)

omit [Platform] in
/-- Whether a body falls into a window. -/
theorem fallsInto_iff : (∃ e, gateWindows.FallsInto (pre.map HotPathBody.evaluation)
    body.evaluation e) ↔ ∃ opener, bodyWindows.FallsInto pre body opener := by
  constructor
  · rintro ⟨e, hfalls⟩
    obtain ⟨opener, hopener, -⟩ := Windows.fallsInto_map.mp hfalls
    exact ⟨opener, hopener⟩
  · rintro ⟨opener, hfalls⟩
    exact ⟨opener.evaluation, Windows.fallsInto_map.mpr ⟨opener, hfalls, rfl⟩⟩

/-- A body is suppressed exactly when it falls into a window. -/
theorem HotPathBody.Formed.suppressed_iff (h : body.Formed config pre) :
    duplicateCode ∈ body.round.decision.gateReasonCodes ↔
      ∃ opener, bodyWindows.FallsInto pre body opener := by
  rw [← fallsInto_iff]
  by_cases hfalls : ∃ e, gateWindows.FallsInto (pre.map HotPathBody.evaluation) body.evaluation e
  · obtain ⟨decision, hdecision, -, -, hcode, -⟩ := decideWith_v1 body.evaluation.gateInput .duplicate
    obtain rfl := Except.ok.inj (hdecision.symm.trans (h.decided.duplicate hfalls))
    have hurgent : .observe < body.evaluation.action :=
      GateEvaluation.isSome_closes.mp hfalls.choose_spec.wants
    exact iff_of_true (hcode.mpr ⟨hurgent, rfl⟩) hfalls
  · obtain ⟨decision, hdecision, -, -, hcode, -⟩ := decideWith_v1 body.evaluation.gateInput .registered
    obtain rfl := Except.ok.inj (hdecision.symm.trans (h.decided.registered hfalls))
    exact iff_of_false (fun hmem => by cases (hcode.mp hmem).2) hfalls

/-- A body opens a window exactly when an action is left to its decision. -/
theorem HotPathBody.Formed.opens_iff (h : body.Formed config pre) :
    .observe < body.round.decision.finalAction ↔ bodyWindows.Opens pre body := by
  have hwants : (bodyWindows.closes body).isSome ↔ .observe < body.evaluation.action :=
    GateEvaluation.isSome_closes
  rw [Windows.Opens, hwants, ← fallsInto_iff]
  by_cases hfalls : ∃ e, gateWindows.FallsInto (pre.map HotPathBody.evaluation) body.evaluation e
  · obtain ⟨decision, hdecision, -, hfinal, -⟩ := decideWith_v1 body.evaluation.gateInput .duplicate
    obtain rfl := Except.ok.inj (hdecision.symm.trans (h.decided.duplicate hfalls))
    rw [hfinal]
    exact iff_of_false (lt_irrefl _) fun hopens => hopens.2 hfalls
  · obtain ⟨decision, hdecision, -, hfinal, -⟩ := decideWith_v1 body.evaluation.gateInput .registered
    obtain rfl := Except.ok.inj (hdecision.symm.trans (h.decided.registered hfalls))
    rw [hfinal, and_iff_left hfalls]
    rfl

/-- A body that opens a window decides for what the gates before AG5 leave. -/
theorem HotPathBody.Formed.finalAction (h : body.Formed config pre)
    (hopens : bodyWindows.Opens pre body) :
    decideWith RulebookV1.v1 body.evaluation.gateInput .registered = .ok body.round.decision ∧
      body.round.decision.finalAction = body.evaluation.action := by
  have hregistered := h.decided.registered fun hfalls => hopens.2 (fallsInto_iff.mp hfalls)
  obtain ⟨decision, hdecision, -, hfinal, -⟩ := decideWith_v1 body.evaluation.gateInput .registered
  obtain rfl := Except.ok.inj (hdecision.symm.trans hregistered)
  exact ⟨hdecision, hfinal⟩

/-- And completes exactly when it is served. -/
theorem HotPathBody.Formed.completes_iff (h : body.Formed config pre)
    (hopens : bodyWindows.Opens pre body) : body.round.Completes ↔ body.Served config := by
  obtain ⟨hdecision, hfinal⟩ := h.finalAction hopens
  rw [h.performed.completes_iff]
  constructor
  · rintro ⟨⟨g, casefile, hfound, hcase, hstorable⟩, hpage⟩
    exact ⟨⟨casefile, ⟨_, g, hdecision, hfound, hcase⟩, hstorable⟩, hfinal ▸ hpage⟩
  · rintro ⟨⟨casefile, ⟨decision, g, hdecision', hfound, hcase⟩, hstorable⟩, hpage⟩
    obtain rfl := Except.ok.inj (hdecision.symm.trans hdecision')
    exact ⟨⟨g, casefile, hfound, hcase, hstorable⟩, hfinal ▸ hpage⟩

end BodiesOfRun

/-! ## What was sent -/

/-- The last round of a fingerprint whose decision kept an action: the one that registered it. -/
def lastRegistered (fingerprint : String) (rounds : List Round) : Option Round :=
  rounds.reverse.find? fun round => decide (round.decision.actionFingerprint = fingerprint) &&
    decide (.observe < round.decision.finalAction)

/-- AG5 suppresses only what was sent: of every suppressed decision, the round that registered
its fingerprint completed, and the window is still open. -/
def SuppressesOnlySent (rounds : List Round) : Prop :=
  ∀ pre round post, rounds = pre ++ round :: post →
    duplicateCode ∈ round.decision.gateReasonCodes →
      ∃ earlier, lastRegistered round.decision.actionFingerprint pre = some earlier ∧
        round.askedAt < windowEnd none earlier.askedAt earlier.decision.finalAction ∧
        earlier.Completes

section Sent

variable {config : HotPathConfig} {stores : Stores} {cycles : List Cycle}

/-- The holder of a fingerprint is the body whose round registered it last. -/
theorem holder_map_round {pre post : List HotPathBody}
    (hsplit : bodiesOf config stores cycles = pre ++ post) (fingerprint : String) :
    (bodyWindows.holder fingerprint pre).map HotPathBody.round =
      lastRegistered fingerprint (pre.map HotPathBody.round) := by
  have hformed : ∀ before b after, pre = before ++ b :: after → b.Formed config before := by
    rintro before b after rfl
    rw [List.append_assoc, List.cons_append] at hsplit
    exact formed_of_split hsplit
  rw [Windows.holder_eq_find? (fun b => decide (.observe < b.round.decision.finalAction))
    fun before b after hb => by rw [decide_eq_true_eq]; exact (hformed before b after hb).opens_iff]
  rw [lastRegistered, ← List.map_reverse, List.find?_map]
  congr 1
  refine List.find?_congr fun b hb => ?_
  obtain ⟨before, after, hb⟩ := List.append_of_mem (List.mem_reverse.mp hb)
  rw [Function.comp, (hformed before b after hb).fingerprint]
  rfl

/-- Whoever holds a fingerprint opened its window. -/
theorem opens_of_holder {pre post : List HotPathBody} {opener : HotPathBody} {fingerprint : String}
    (hsplit : bodiesOf config stores cycles = pre ++ post)
    (h : bodyWindows.holder fingerprint pre = some opener) :
    ∃ before after, pre = before ++ opener :: after ∧ bodyWindows.Opens before opener ∧
      opener.Formed config before := by
  obtain ⟨before, after, rfl, hopens⟩ := Windows.opens_of_holder h
  refine ⟨before, after, rfl, hopens, ?_⟩
  rw [List.append_assoc, List.cons_append] at hsplit
  exact formed_of_split hsplit

/-- **When AG5 suppresses only what was sent**: in a run exactly when no body falls into the window
of one that is not served. -/
theorem suppressed_only_what_was_sent_iff :
    SuppressesOnlySent (roundsOf (runCycles config ⟨.empty, stores⟩ cycles).1) ↔
      ∀ pre body post, bodiesOf config stores cycles = pre ++ body :: post →
        ∀ opener, bodyWindows.FallsInto pre body opener → opener.Served config := by
  constructor
  · intro hsent pre body post hsplit opener hfalls
    have hformed := formed_of_split hsplit
    have hrounds : roundsOf (runCycles config ⟨.empty, stores⟩ cycles).1 =
        pre.map HotPathBody.round ++ body.round :: post.map HotPathBody.round := by
      rw [← bodiesOf_map_round, hsplit, List.map_append, List.map_cons]
    obtain ⟨earlier, hearlier, -, hcompletes⟩ :=
      hsent _ _ _ hrounds (hformed.suppressed_iff.mpr ⟨opener, hfalls⟩)
    -- the round that registered the fingerprint is that of the opener
    have hheld : bodyWindows.holder body.evaluation.gateInput.actionFingerprint pre = some opener :=
      hfalls.held
    rw [hformed.fingerprint, ← holder_map_round hsplit, hheld] at hearlier
    cases hearlier
    obtain ⟨before, after, -, hopens, hopener⟩ := opens_of_holder hsplit hheld
    exact (hopener.completes_iff hopens).mp hcompletes
  · intro hserved preRounds round postRounds hrounds hsuppressed
    rw [← bodiesOf_map_round] at hrounds
    obtain ⟨pre, rest, hsplit, rfl, hrest⟩ := List.map_eq_append_iff.mp hrounds
    obtain ⟨body, post, rfl, rfl, rfl⟩ := List.map_eq_cons_iff.mp hrest
    have hformed := formed_of_split hsplit
    obtain ⟨opener, hfalls⟩ := hformed.suppressed_iff.mp hsuppressed
    have hheld : bodyWindows.holder body.evaluation.gateInput.actionFingerprint pre = some opener :=
      hfalls.held
    obtain ⟨before, after, -, hopens, hopener⟩ := opens_of_holder hsplit hheld
    obtain ⟨t, hcloses, hopen⟩ := hfalls.isOpen
    refine ⟨opener.round, ?_, ?_, (hopener.completes_iff hopens).mpr (hserved _ _ _ hsplit _ hfalls)⟩
    · rw [hformed.fingerprint, ← holder_map_round hsplit, hheld]
      rfl
    · rw [hformed.askedAt, hopener.askedAt, (hopener.finalAction hopens).2,
        (GateEvaluation.closes_eq_some.mp hcloses).2]
      exact hopen

end Sent

end Suppression

/-! ## A page that fails -/

/-- Two cycles on the input that pages, five minutes apart. -/
def twoPages (env : RoundEnv) : List Cycle :=
  [pageCycle newYear2026 env,
    pageCycle (newYear2026 + minutes 5) (healthyAt (newYear2026 + minutes 5))]

/-- The rounds of a run of two. -/
def pairOf : List Round → Option (Round × Round)
  | [first, second] => some (first, second)
  | _ => none

theorem pairOf_eq_some {rounds : List Round} {first second : Round} :
    pairOf rounds = some (first, second) ↔ rounds = [first, second] := by
  rcases rounds with _ | ⟨a, _ | ⟨b, _ | ⟨c, rest⟩⟩⟩ <;> simp [pairOf]

/-- The bodies of a run of three. -/
def tripleOf : List HotPathBody → Option (HotPathBody × HotPathBody × HotPathBody)
  | [first, second, third] => some (first, second, third)
  | _ => none

theorem tripleOf_eq_some {bodies : List HotPathBody} {first second third : HotPathBody} :
    tripleOf bodies = some (first, second, third) ↔ bodies = [first, second, third] := by
  rcases bodies with _ | ⟨a, _ | ⟨b, _ | ⟨c, _ | ⟨d, rest⟩⟩⟩⟩ <;> simp [tripleOf]

/-- Three hours after a page that fails there is another one, and five minutes later a third. -/
def pageAfterFailure : List Cycle :=
  pageCycle newYear2026 { healthyAt newYear2026 with
      write := { put := .fails false (.clientError "timeout") } } ::
    [newYear2026 + minutes 180, newYear2026 + minutes 185].map fun t => pageCycle t (healthyAt t)

/-- The window of the page that fails is over when the second one is sent, and the third one is
suppressed, and rightly so. -/
theorem suppressed_only_what_was_sent_orders :
    ∃ first second third,
      roundsOf (@runCycles (asciiPlatform []) ordersConfig {} pageAfterFailure).1 =
          [first, second, third] ∧
        .observe < first.decision.finalAction ∧ ¬ first.Completes ∧
        duplicateCode ∈ third.decision.gateReasonCodes ∧
        SuppressesOnlySent [first, second, third] := by
  let := asciiPlatform []
  have hcheck : ((tripleOf (bodiesOf ordersConfig {} pageAfterFailure)).any fun bodies =>
      decide (.observe < bodies.1.round.decision.finalAction) &&
        !decide bodies.1.round.Completes &&
        (decide (.observe < bodies.2.1.round.decision.finalAction) &&
          decide bodies.2.1.round.Completes) &&
        (!decide (bodyWindows.OpenFor bodies.1 bodies.2.1) &&
          !decide (bodyWindows.OpenFor bodies.1 bodies.2.2)) &&
        decide (duplicateCode ∈ bodies.2.2.round.decision.gateReasonCodes)) = true := by
    decide +kernel
  obtain ⟨⟨first, second, third⟩, htriple, hfacts⟩ := (Option.any_eq_true _ _).mp hcheck
  simp only [Bool.and_eq_true, Bool.not_eq_true', decide_eq_false_iff_not,
    decide_eq_true_eq] at hfacts
  obtain ⟨⟨⟨⟨hurgent, hfails⟩, hsecond, hcompletes⟩, hover, hover'⟩, hsuppressed⟩ := hfacts
  have hbodies := tripleOf_eq_some.mp htriple
  have hrounds := bodiesOf_map_round ordersConfig {} pageAfterFailure
  rw [hbodies] at hrounds
  refine ⟨first.round, second.round, third.round, hrounds.symm, hurgent, hfails, hsuppressed, ?_⟩
  change SuppressesOnlySent ([first, second, third].map HotPathBody.round)
  rw [hrounds]
  refine suppressed_only_what_was_sent_iff.mpr ?_
  intro pre body post hsplit opener hfalls
  obtain ⟨before, after, hpre, -⟩ := Windows.opens_of_holder hfalls.held
  have hmem : opener ∈ pre := hpre ▸ List.mem_append_right _ List.mem_cons_self
  rw [hbodies] at hsplit
  rcases pre with _ | ⟨a, _ | ⟨b, _ | ⟨c, pre⟩⟩⟩
  · cases hmem
  · -- the second page: the window of the first is over
    cases hsplit
    obtain rfl := List.mem_singleton.mp hmem
    exact absurd hfalls.isOpen hover
  · -- the third: it falls into the window of the second, which was sent
    cases hsplit
    rcases List.mem_pair.mp hmem with rfl | rfl
    · exact absurd hfalls.isOpen hover'
    · have hsecond' : bodiesOf ordersConfig {} pageAfterFailure = [first] ++ opener :: [third] := hbodies
      have hformed := formed_of_split hsecond'
      exact (hformed.completes_iff (hformed.opens_iff.mp hsecond)).mp hcompletes
  · cases pre <;> cases hsplit

/-- When the store refuses the first page's file, the second page is suppressed all the
same, and none is sent. -/
theorem failed_page_suppresses :
    ∃ pre round post,
      roundsOf (@runCycles (asciiPlatform []) ordersConfig {}
          (twoPages { healthyAt newYear2026 with
            write := { put := .fails false (.clientError "timeout") } })).1 = pre ++ round :: post ∧
        duplicateCode ∈ round.decision.gateReasonCodes ∧ ¬ ∃ earlier ∈ pre, earlier.Completes := by
  let := asciiPlatform []
  have hcheck : ((pairOf (roundsOf (runCycles ordersConfig {}
      (twoPages { healthyAt newYear2026 with
        write := { put := .fails false (.clientError "timeout") } })).1)).any fun pair =>
        !decide pair.1.Completes && decide (duplicateCode ∈ pair.2.decision.gateReasonCodes)) =
      true := by
    decide +kernel
  obtain ⟨⟨first, second⟩, hpair, hfacts⟩ := (Option.any_eq_true _ _).mp hcheck
  simp only [Bool.and_eq_true, Bool.not_eq_true', decide_eq_false_iff_not,
    decide_eq_true_eq] at hfacts
  refine ⟨[first], second, [], pairOf_eq_some.mp hpair, hfacts.2, ?_⟩
  rintro ⟨earlier, hearlier, hcompletes⟩
  obtain rfl := List.mem_singleton.mp hearlier
  exact hfacts.1 hcompletes

end AiopsTriage
