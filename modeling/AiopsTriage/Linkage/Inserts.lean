import AiopsTriage.Linkage.Repository
import AiopsTriage.Outbox.Inserts
import AiopsTriage.Outbox.Lifecycle

/-!
# Racing inserts

`insert_pending_object` and `get_or_create_pending` recover from a lost race by reading
the row again, as a comment in the first says, but they read it in the transaction whose
`INSERT` has just failed. PostgreSQL refuses that statement, so the call raises although
the row is there. Both return in every interleaving in which no `INSERT` comes after
another call's `COMMIT` (`racing_inserts_return_iff`).
-/

namespace AiopsTriage

open InsertRace

/-- What the callers of `get_or_create_pending` for one case and incident may differ in. -/
structure LinkageRequest where
  /-- the ServiceNow incident -/
  incidentSysId : Option String
  /-- how long attempts are made -/
  retryWindowMinutes : Int
  /-- the clock of the caller -/
  now : DateTime
  deriving DecidableEq, Repr

/-- `get_or_create_pending` of a case and incident. -/
def linkageInsertion (caseId pdIncidentId : String) :
    Insertion LinkageRequest LinkageRetryRecord LinkageRetryRecord Failure where
  prepare request := createPendingLinkageRetryRecord caseId pdIncidentId request.incidentSysId
    request.retryWindowMinutes request.now
  view := LinkageRetryRecord.validate
  agree existing := assertLinkageIdentity existing pdIncidentId
  fits row := raiseIf (linkageColumnsFit row = false) (.databaseError "sn_linkage_retry")
  wrap := wrapLinkageRepo
  refused := .databaseError "current transaction is aborted"

/-- With no other statement in between, the statements are the repository call. -/
theorem getOrCreatePending_alone (table : LinkageTable) (caseId pdIncidentId : String)
    (request : LinkageRequest) :
    (linkageInsertion caseId pdIncidentId).alone request (table.get? caseId) =
      ((getOrCreatePending table caseId pdIncidentId request.incidentSysId
          request.retryWindowMinutes request.now).1,
        (getOrCreatePending table caseId pdIncidentId request.incidentSysId
          request.retryWindowMinutes request.now).2.get? caseId) := by
  have hprepare : (linkageInsertion caseId pdIncidentId).prepare request =
      createPendingLinkageRetryRecord caseId pdIncidentId request.incidentSysId
        request.retryWindowMinutes request.now := rfl
  unfold getOrCreatePending
  simp only [Insertion.alone, hprepare]
  rcases createPendingLinkageRetryRecord caseId pdIncidentId request.incidentSysId
    request.retryWindowMinutes request.now with e | pending
  · rfl
  · rcases hget : table.get? caseId with _ | row
    · have hbody : findOrInsert table caseId pdIncidentId pending = (do
          let record ← (linkageInsertion caseId pdIncidentId).place pending
          return (record, table.set caseId pending)) := by
        simp only [findOrInsert, getLinkageByCaseId, hget, Except.ok_bind, Insertion.place,
          linkageInsertion]
        rcases raiseIf (linkageColumnsFit pending = false)
          (Failure.databaseError "sn_linkage_retry") with e | u <;> rfl
      simp only [hbody]
      rcases (linkageInsertion caseId pdIncidentId).place pending with e | record
      · simp only [Except.error_bind, runLinkageTx, hget]
        rfl
      · simp [runLinkageTx, Dict.get?_set, pure, Except.pure]
    · have hbody : findOrInsert table caseId pdIncidentId pending = (do
          let record ← (linkageInsertion caseId pdIncidentId).accept row
          return (record, table)) := by
        simp only [findOrInsert, getLinkageByCaseId, hget, Insertion.accept, linkageInsertion]
        rcases row.validate with e | existing
        · rfl
        · rcases hmatch : assertLinkageIdentity existing pdIncidentId with e | u
          · simp [hmatch]
          · simp [hmatch, pure, Except.pure]
      simp only [hbody]
      rcases (linkageInsertion caseId pdIncidentId).accept row with e | record
      · simp only [Except.error_bind, runLinkageTx, hget, Except.mapError]
        rfl
      · simp [runLinkageTx, hget, pure, Except.pure, Except.mapError]

/-- What is known of every interleaving of calls of one kind on one case: in an undisturbed
run every finished call returned the stored row; once all calls are done, they have all
returned it exactly when the run was undisturbed; and until then some call can go on. -/
def RaceSettled {α ρ : Type} (C : Insertion α ρ ρ Failure) : Prop :=
  ∀ (ι : Type) [DecidableEq ι] (stored : Option ρ) (ls : List (Label ι α))
    (s : State ι ρ ρ Failure), Runs.run C.step (Insertion.start stored) ls = some s →
    (Runs.Along C.step C.Undisturbed (Insertion.start stored) ls → C.AllReturn s) ∧
      (Insertion.Complete s →
        (C.AllReturn s ↔ Runs.Along C.step C.Undisturbed (Insertion.start stored) ls)) ∧
      (¬ Insertion.Complete s → ∃ l, (∀ i a, l ≠ .start i a) ∧ (C.step s l).isSome)

theorem raceSettled {α ρ : Type} (C : Insertion α ρ ρ Failure) : RaceSettled C := by
  intro ι _ stored ls s hrun
  refine ⟨Insertion.all_return_of_along hrun, fun hcomplete => ⟨?_, ?_⟩, Insertion.progress hrun⟩
  · exact Insertion.along_of_all_return hrun hcomplete
  · exact Insertion.all_return_of_along hrun

/-- **Racing inserts.** For the calls of either repository, all calls of a finished
interleaving returned the one stored row exactly when each call could build its row, each
row found was of the same case and each `INSERT` met no committed row and fitted the
columns. -/
theorem racing_inserts_return_iff (confirmed : OutboxReadyCasefileV1)
    (caseId pdIncidentId : String) :
    RaceSettled (outboxInsertion confirmed) ∧
      RaceSettled (linkageInsertion caseId pdIncidentId) :=
  ⟨raceSettled _, raceSettled _⟩

/-- Two calls overlap: the second opens its transaction before the first inserts, and looks for the
row when the first has committed. -/
def secondFinds {α : Type} (a b : α) : List (Label Bool α) :=
  [.start false a, .select false, .start true b, .insert false, .commit false, .select true]

/-- Two such calls of either repository return the row that the first has stored. -/
theorem racing_inserts_return_iff_case1 :
    (∃ s, Runs.run (outboxInsertion confirmedCase1).step (Insertion.start none)
        (secondFinds (.aware newYear2026) (.aware (newYear2026 + 1000000))) = some s ∧
      Insertion.Complete s ∧ (outboxInsertion confirmedCase1).AllReturn s) ∧
    ∃ s, Runs.run (linkageInsertion "case-1" "pd-1").step (Insertion.start none)
        (secondFinds ⟨some "inc-1", 120, .aware newYear2026⟩
          ⟨none, 60, .aware (newYear2026 + 1000000)⟩) = some s ∧
      Insertion.Complete s ∧ (linkageInsertion "case-1" "pd-1").AllReturn s := by
  obtain ⟨houtbox, hlinkage⟩ := racing_inserts_return_iff confirmedCase1 "case-1" "pd-1"
  have hundisturbed : Runs.Along (outboxInsertion confirmedCase1).step
      (outboxInsertion confirmedCase1).Undisturbed (Insertion.start none)
      (secondFinds (.aware newYear2026) (.aware (newYear2026 + 1000000))) := by
    decide +kernel
  have hundisturbed' : Runs.Along (linkageInsertion "case-1" "pd-1").step
      (linkageInsertion "case-1" "pd-1").Undisturbed (Insertion.start none)
      (secondFinds ⟨some "inc-1", 120, .aware newYear2026⟩
        ⟨none, 60, .aware (newYear2026 + 1000000)⟩) := by
    decide +kernel
  refine ⟨⟨_, rfl, ?_, (houtbox Bool none _ _ rfl).1 hundisturbed⟩,
    ⟨_, rfl, ?_, (hlinkage Bool none _ _ rfl).1 hundisturbed'⟩⟩
  · rintro (_ | _) <;> exact .inr ⟨_, rfl⟩
  · rintro (_ | _) <;> exact .inr ⟨_, rfl⟩

/-- Two calls for one casefile: both find no row, and one commits its own before the other
inserts. -/
def bothMissFirst : List (Label Bool DateTime) :=
  [.start false (.aware newYear2026), .start true (.aware newYear2026), .select false,
    .select true, .insert false, .commit false, .insert true, .recover true]

/-- The call that loses raises, although the row it wants is stored. -/
theorem losing_insert_raises :
    ∃ s, Runs.run (outboxInsertion confirmedCase1).step (Insertion.start none) bothMissFirst =
        some s ∧
      s.stored = some (createPendingOutboxRecord confirmedCase1 newYear2026) ∧
      ¬ (outboxInsertion confirmedCase1).AllReturn s := by
  refine ⟨_, rfl, rfl, ?_⟩
  intro hreturn
  obtain ⟨row, record, -, -, hanswer⟩ := hreturn true _ rfl
  cases hanswer

end AiopsTriage
