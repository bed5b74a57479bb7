import AiopsTriage.HotPath.Orders

/-!
# Rows the loop leaves behind

A round inserts the row of its case as `PENDING_OBJECT`, and only `transition_to_ready`
would hand it to the publisher. The loop never calls it: a row is ready, or later, after
a round exactly when it was so before the run (`completed_case_ready_iff`), and a row that
is still pending is never selected for publishing (`mem_of_selectPublishable`).
-/

namespace AiopsTriage

/-- The row of a case is `READY` or in a later state. -/
def ReadyOrLater (table : OutboxTable) (caseId : String) : Prop :=
  ∃ row, table.get? caseId = some row ∧ row.status ≠ .pendingObject

/-- Two tables have the same rows in `READY` or later. -/
def SameReady (table table' : OutboxTable) : Prop :=
  ∀ caseId, ReadyOrLater table' caseId ↔ ReadyOrLater table caseId

theorem SameReady.refl (table : OutboxTable) : SameReady table table := fun _ => Iff.rfl

theorem SameReady.trans {a b c : OutboxTable} (h : SameReady a b) (h' : SameReady b c) :
    SameReady a c := fun caseId => (h' caseId).trans (h caseId)

/-- An insert makes no row ready. -/
theorem insertPendingObject_sameReady (table : OutboxTable) (confirmed : OutboxReadyCasefileV1)
    (now : DateTime) : SameReady table (insertPendingObject table confirmed now).2 := by
  rcases insertPendingObject_cases table confirmed now with
    ⟨e, h⟩ | ⟨row, -, -, -, h⟩ | ⟨t, hnone, -, h⟩
  · rw [h]
    exact SameReady.refl table
  · rw [h]
    exact SameReady.refl table
  · rw [h]
    intro caseId
    unfold ReadyOrLater
    rw [Dict.get?_set]
    split
    · next hid =>
      subst hid
      refine iff_of_false ?_ ?_
      · rintro ⟨row, hrow, hready⟩
        cases hrow
        exact hready rfl
      · rintro ⟨row, hrow, -⟩
        rw [hnone] at hrow
        cases hrow
    · exact Iff.rfl

/-- Nor does one over a connection that may fail. -/
theorem insertPendingObjectVia_sameReady (table : OutboxTable) (confirmed : OutboxReadyCasefileV1)
    (now : DateTime) (remote : Remote) :
    SameReady table (insertPendingObjectVia table confirmed now remote).2 := by
  cases remote with
  | answered => exact insertPendingObject_sameReady table confirmed now
  | fails applied e =>
    cases applied with
    | true => exact insertPendingObject_sameReady table confirmed now
    | false => exact SameReady.refl table

section Handoff

variable [Platform] (config : HotPathConfig)

/-- Nor does the body of the loop. -/
theorem processCase_sameReady (outputs : StageOutputs) (scope : Scope) (gateInput : GateInputV1)
    (decision : ActionDecisionV1) (env : RoundEnv) (stores : Stores) :
    SameReady stores.outbox
      (processCase config outputs scope gateInput decision env stores).2.outbox := by
  unfold processCase
  split
  · exact SameReady.refl _
  split
  · exact SameReady.refl _
  next ready objects _ =>
  have hinsert := insertPendingObjectVia_sameReady stores.outbox ready (.aware env.insertedAt)
    env.insert
  split
  · next hcall =>
    rw [hcall] at hinsert
    exact hinsert
  · next hcall =>
    rw [hcall] at hinsert
    exact hinsert

/-- **A round makes no row ready.** -/
theorem performRound_sameReady (cycle : Cycle) (before : Stores)
    (entry : (Scope × ActionDecisionV1) × Nat) :
    SameReady before.outbox (performRound config cycle before entry).2.outbox := by
  obtain ⟨⟨scope, decision⟩, number⟩ := entry
  simp only [performRound, roundOutcome]
  split
  · exact SameReady.refl _
  · next gateInput _ =>
    have hprocess := processCase_sameReady config cycle.outputs scope gateInput decision
      (cycle.roundEnv number) before
    split
    · next hcall =>
      rw [hcall] at hprocess
      exact hprocess
    · next hcall =>
      rw [hcall] at hprocess
      exact hprocess

/-- Nor does a cycle, at the end of any of its rounds. -/
theorem runCycle_sameReady (s : HotPathState) (cycle : Cycle) :
    SameReady s.stores.outbox (runCycle config s cycle).2.stores.outbox ∧
      ∀ round ∈ (runCycle config s cycle).1.rounds, SameReady s.stores.outbox round.after.outbox := by
  unfold runCycle
  rcases decideCycle cycle s.redis with ⟨e | decisionsByScope, redis⟩
  · exact ⟨SameReady.refl _, fun _ h => by cases h⟩
  · refine Runs.trace_inv (performRound config cycle) (I := fun rounds stores =>
      SameReady s.stores.outbox stores.outbox ∧
        ∀ round ∈ rounds, SameReady s.stores.outbox round.after.outbox) ⟨SameReady.refl _, ?_⟩ ?_ _
    · intro round hround
      cases hround
    · rintro rounds stores entry ⟨hstores, hrounds⟩
      have hround := hstores.trans (performRound_sameReady config cycle stores entry)
      refine ⟨hround, fun round hmem => ?_⟩
      rcases List.mem_append.mp hmem with hmem | hmem
      · exact hrounds round hmem
      · obtain rfl := List.mem_singleton.mp hmem
        exact hround

/-- Nor does a run. -/
theorem runCycles_sameReady (s : HotPathState) (cycles : List Cycle) :
    SameReady s.stores.outbox (runCycles config s cycles).2.stores.outbox ∧
      ∀ round ∈ roundsOf (runCycles config s cycles).1,
        SameReady s.stores.outbox round.after.outbox := by
  refine Runs.trace_inv (runCycle config) (I := fun reports t =>
    SameReady s.stores.outbox t.stores.outbox ∧
      ∀ round ∈ roundsOf reports, SameReady s.stores.outbox round.after.outbox)
    ⟨SameReady.refl _, ?_⟩ ?_ _
  · intro round hround
    cases hround
  · rintro reports t cycle ⟨hstate, hrounds⟩
    obtain ⟨hcycle, hnew⟩ := runCycle_sameReady config t cycle
    refine ⟨hstate.trans hcycle, fun round hmem => ?_⟩
    rw [roundsOf, List.flatMap_append, List.flatMap_singleton] at hmem
    rcases List.mem_append.mp hmem with hmem | hmem
    · exact hrounds round hmem
    · exact hstate.trans (hnew round hmem)

variable {config} {s : HotPathState} {cycles : List Cycle}

/-- A round that dispatches has inserted the row of its case, or found it. -/
theorem Round.Performed.row_of_dispatched {round : Round} (h : round.Performed config)
    {report : DispatchReport} (hresult : round.result = .dispatched report) :
    ∃ row, round.after.outbox.get? report.caseId = some row := by
  unfold Round.Performed roundOutcome at h
  rw [hresult] at h
  split at h
  · cases h
  split at h
  · cases h
  next g _ _ report' after hprocess =>
  cases h
  obtain ⟨casefile, hcase, hstore⟩ := processCase_dispatches.mp ⟨_, congrArg Prod.fst hprocess⟩
  obtain ⟨row, outbox, hrow, hdone⟩ := processCase_of_storable hcase hstore
  obtain ⟨hreport, hafter⟩ := Prod.mk.inj (hprocess.symm.trans hdone)
  cases hreport
  rw [hafter]
  exact ⟨row, hrow⟩

/-- **Rows are not handed over**: the row of a case that a run of the loop completes is there
at the end of its round; it is ready then, and at the end of the run, exactly when it was so
before the run. -/
theorem completed_case_ready_iff {round : Round}
    (hround : round ∈ roundsOf (runCycles config s cycles).1) {report : DispatchReport}
    (hresult : round.result = .dispatched report) :
    (∃ row, round.after.outbox.get? report.caseId = some row) ∧
      (ReadyOrLater round.after.outbox report.caseId ↔ ReadyOrLater s.stores.outbox report.caseId) ∧
      (ReadyOrLater (runCycles config s cycles).2.stores.outbox report.caseId ↔
        ReadyOrLater s.stores.outbox report.caseId) := by
  obtain ⟨hrun, hrounds⟩ := runCycles_sameReady config s cycles
  exact ⟨(performed_of_mem_roundsOf hround).row_of_dispatched hresult, hrounds round hround _, hrun _⟩

end Handoff

/-! ## A page whose row stays behind -/

/-- A run of one cycle on the input that pages, from empty stores. -/
def pageRun : List CycleReport × HotPathState :=
  @runCycles (asciiPlatform []) ordersConfig {} [pageCycle newYear2026 (healthyAt newYear2026)]

theorem pageRun_dispatches : ∃ round ∈ roundsOf pageRun.1, round.Dispatches := by
  decide +kernel

/-- The page is dispatched, so its row is there, and not ready. -/
theorem completed_case_ready_page :
    ∃ round ∈ roundsOf pageRun.1, ∃ report, round.result = .dispatched report ∧
      (∃ row, round.after.outbox.get? report.caseId = some row) ∧
      (ReadyOrLater round.after.outbox report.caseId ↔ ReadyOrLater .empty report.caseId) ∧
      (ReadyOrLater pageRun.2.stores.outbox report.caseId ↔ ReadyOrLater .empty report.caseId) := by
  obtain ⟨round, hround, report, hresult, -⟩ := pageRun_dispatches
  exact ⟨round, hround, report, hresult,
    @completed_case_ready_iff (asciiPlatform []) _ _ _ _ hround _ hresult⟩

/-- The round of the page finishes, and its row is neither ready then nor after the run. -/
theorem page_left_pending :
    ∃ round ∈ roundsOf pageRun.1, ∃ report, round.result = .dispatched report ∧
      ¬ ReadyOrLater round.after.outbox report.caseId ∧
      ¬ ReadyOrLater pageRun.2.stores.outbox report.caseId := by
  obtain ⟨round, hround, report, hresult, -⟩ := pageRun_dispatches
  obtain ⟨hrun, hrounds⟩ := @runCycles_sameReady (asciiPlatform []) ordersConfig {}
    [pageCycle newYear2026 (healthyAt newYear2026)]
  have hempty : ¬ ReadyOrLater .empty report.caseId := by
    rintro ⟨row, hrow, -⟩
    cases hrow
  exact ⟨round, hround, report, hresult, fun h => hempty ((hrounds round hround _).mp h),
    fun h => hempty ((hrun _).mp h)⟩

end AiopsTriage
