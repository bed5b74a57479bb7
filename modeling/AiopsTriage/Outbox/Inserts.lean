import AiopsTriage.Lib.InsertRace
import AiopsTriage.Outbox.Repository

/-!
# Inserts of an outbox row, statement by statement

`insert_pending_object` as the statements of its transaction, so that those of several
calls can alternate.
-/

namespace AiopsTriage

open InsertRace

/-- `insert_pending_object` of a confirmed casefile, with the clock of the caller as its
argument. -/
def outboxInsertion (confirmed : OutboxReadyCasefileV1) :
    Insertion DateTime OutboxRecord OutboxRecord Failure where
  prepare now := createPendingOutboxRecord confirmed <$> resolveNow now
  view := rowToRecord
  agree existing := assertCasefilePayloadMatch existing confirmed
  fits row := raiseIf (columnsFit row = false) (.databaseError "outbox")
  wrap := wrapRepo
  refused := .databaseError "current transaction is aborted"

/-- With no other statement in between, the statements are the repository call. -/
theorem insertPendingObject_alone (table : OutboxTable) (confirmed : OutboxReadyCasefileV1)
    (now : DateTime) :
    (outboxInsertion confirmed).alone now (table.get? confirmed.caseId) =
      ((insertPendingObject table confirmed now).1,
        (insertPendingObject table confirmed now).2.get? confirmed.caseId) := by
  cases now with
  | naive t => rfl
  | aware t =>
    have hprepare : (outboxInsertion confirmed).prepare (.aware t) =
        .ok (createPendingOutboxRecord confirmed t) := rfl
    rcases hget : table.get? confirmed.caseId with _ | row
    · rw [insertPendingObject_of_none t hget]
      by_cases hfit : columnsFit (createPendingOutboxRecord confirmed t) = true
      · have hplace : (outboxInsertion confirmed).place (createPendingOutboxRecord confirmed t) =
            .ok (createPendingOutboxRecord confirmed t) := by
          simp [Insertion.place, outboxInsertion, raiseIf, hfit, rowToRecord_pending]
        simp [Insertion.alone, hprepare, hplace, hfit, Dict.get?_set]
      · have hplace : (outboxInsertion confirmed).place (createPendingOutboxRecord confirmed t) =
            .error (.databaseError "outbox") := by
          simp [Insertion.place, outboxInsertion, raiseIf, Bool.eq_false_iff.mpr hfit]
        simp only [Insertion.alone, hprepare, hplace, if_neg hfit, hget]
        rfl
    · rw [insertPendingObject_of_some t hget]
      have haccept : (outboxInsertion confirmed).accept row = (do
          let existing ← rowToRecord row
          assertCasefilePayloadMatch existing confirmed
          return existing) := rfl
      simp only [Insertion.alone, hprepare, haccept]
      rcases rowToRecord row with e | existing
      · simp [runTx, hget, Except.mapError]
        rfl
      · rcases hmatch : assertCasefilePayloadMatch existing confirmed with e | u
        · simp [runTx, hget, hmatch, Except.mapError]
          rfl
        · simp [runTx, hget, hmatch, Except.mapError, pure, Except.pure]

end AiopsTriage
