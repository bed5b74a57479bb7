import AiopsTriage.Outbox.Lifecycle

/-!
# Handing a casefile off to the publisher

`build_outbox_ready_record` inserts the row of a confirmed casefile and moves it to `READY`.
Each half can be repeated: the insert accepts the row of the same file whatever its status,
and the transition accepts a row that is `READY` already. The pair cannot: once the publisher
has moved the row on, the source-state guard of the transition raises, and the caller learns
that the hand-off had been made from the exception only. The row itself is safe either way
(`ready_hand_off_retried`).
-/

namespace AiopsTriage

/-- `create_ready_outbox_record`: the record of a hand-off that is not persisted. -/
def createReadyOutboxRecord (confirmed : OutboxReadyCasefileV1) (now : Instant) :
    OutboxRecord where
  caseId := confirmed.caseId
  status := .ready
  casefileObjectPath := confirmed.objectPath
  triageHash := confirmed.triageHash
  createdAt := now
  updatedAt := now
  deliveryAttempts := 0
  nextAttemptAt := none
  lastErrorCode := none
  lastErrorMessage := none

/-- The two repository calls of `build_outbox_ready_record`, each with its own clock reading. -/
def handOff (table : OutboxTable) (confirmed : OutboxReadyCasefileV1)
    (insertedAt readyAt : Instant) : Except Failure OutboxRecord × OutboxTable :=
  match insertPendingObject table confirmed (.aware insertedAt) with
  | (.error e, table') => (.error e, table')
  | (.ok _, table') => transitionToReady table' confirmed.caseId (.aware readyAt)

/-- `build_outbox_ready_record`, with the table of the repository if there is one. An exception
is logged and raised again. -/
def buildOutboxReadyRecord (confirmed : OutboxReadyCasefileV1)
    (outboxRepository : Option OutboxTable) (insertedAt readyAt : Instant) :
    Except Failure OutboxRecord × Option OutboxTable :=
  match outboxRepository with
  | none => (.ok (createReadyOutboxRecord confirmed insertedAt), none)
  | some table => (handOff table confirmed insertedAt readyAt).map id some

/-- The record is of the case, the path and the hash of the casefile. -/
structure IsOf (record : OutboxRecord) (confirmed : OutboxReadyCasefileV1) : Prop where
  /-- the case -/
  caseId : record.caseId = confirmed.caseId
  /-- the path -/
  objectPath : record.casefileObjectPath = confirmed.objectPath
  /-- the hash -/
  triageHash : record.triageHash = confirmed.triageHash

/-! ## Rows as the repository leaves them -/

/-- What the repository has checked of every row it wrote. -/
structure RowStored (caseId : String) (row : OutboxRecord) : Prop where
  /-- it is the row of its key -/
  own : row.caseId = caseId
  /-- it reads back -/
  reads : rowToRecord row = .ok row
  /-- it fits the columns -/
  fits : columnsFit row = true

/-- The row of the case, if there is one, is as the repository leaves it. -/
def StoredAt (table : OutboxTable) (caseId : String) : Prop :=
  ∀ row, table.get? caseId = some row → RowStored caseId row

theorem StoredAt.set {table : OutboxTable} {caseId : String} {row : OutboxRecord}
    (h : RowStored caseId row) : StoredAt (table.set caseId row) caseId := by
  intro row' hrow'
  rw [Dict.get?_set, if_pos rfl] at hrow'
  cases hrow'
  exact h

/-- A guarded write stores what it has checked. -/
theorem writeTransition_stored {table table' : OutboxTable} {caseId : String}
    {next r : OutboxRecord} {expected : List OutboxState} (hstored : StoredAt table caseId)
    (h : writeTransition table caseId next expected = .ok (r, table')) :
    StoredAt table' caseId := by
  unfold writeTransition at h
  split at h
  · next row hrow =>
    obtain ⟨hget, -⟩ := Option.filter_eq_some_iff.mp hrow
    obtain ⟨_, hfits, h⟩ := Except.bind_eq_ok.mp h
    obtain ⟨record, hrecord, h⟩ := Except.bind_eq_ok.mp h
    rw [raiseIf_eq_ok, Bool.not_eq_false] at hfits
    obtain rfl := rowToRecord_eq_ok hrecord
    cases h
    exact .set ⟨(hstored row hget).own, hrecord, hfits⟩
  · obtain ⟨latest, hlatest, h⟩ := Except.bind_eq_ok.mp h
    split at h
    · cases h
      exact hstored
    · cases h

/-- So does a transition. -/
theorem transition_stored {table : OutboxTable} {caseId : String} {now : DateTime}
    {target : OutboxState} {expected : OutboxRecord → List OutboxState}
    {mark : OutboxRecord → DateTime → Except Failure OutboxRecord}
    (hstored : StoredAt table caseId) :
    StoredAt (transition table caseId now target expected mark).2 caseId := by
  rcases callAt_cases table now fun resolvedNow => do
    let current ← requireByCaseId table caseId
    let plan ← planFrom target expected (mark · (.aware resolvedNow)) current
    applyPlan table caseId plan with ⟨e, hcall⟩ | ⟨t, r, table', -, hbody, hcall⟩
  · rw [transition, hcall]
    exact hstored
  · rw [transition, hcall]
    obtain ⟨row, -, hbody⟩ := Except.bind_eq_ok.mp hbody
    obtain ⟨plan, -, hbody⟩ := Except.bind_eq_ok.mp hbody
    cases plan with
    | settled current =>
      cases hbody
      exact hstored
    | write expected next => exact writeTransition_stored hstored hbody

/-- And an insert. -/
theorem insertPendingObject_stored {table : OutboxTable} {confirmed : OutboxReadyCasefileV1}
    {now : DateTime} (hstored : StoredAt table confirmed.caseId) :
    StoredAt (insertPendingObject table confirmed now).2 confirmed.caseId := by
  rcases insertPendingObject_cases table confirmed now with
    ⟨e, hcall⟩ | ⟨row, -, -, -, hcall⟩ | ⟨t, hnone, hnow, hcall⟩
  · rw [hcall]
    exact hstored
  · rw [hcall]
    exact hstored
  · cases now with
    | naive t' => cases hnow
    | aware t' =>
      cases hnow
      rw [insertPendingObject_of_none t hnone] at hcall ⊢
      split at hcall
      · next hfits =>
        rw [if_pos hfits]
        exact .set ⟨rfl, rowToRecord_pending confirmed t, hfits⟩
      · cases hcall

/-- **Run**: after any calls on a case that had no row, its row is as the repository leaves it. -/
theorem OutboxHistory.stored_after [Platform] {policy : OutboxPolicyV1} {appEnv caseId : String}
    {table : OutboxTable} (habsent : table.get? caseId = none)
    (calls : List (OutboxCall caseId)) :
    StoredAt (OutboxHistory.after policy appEnv table calls).table caseId := by
  induction calls using List.reverseRecOn with
  | nil =>
    intro row hrow
    cases habsent.symm.trans hrow
  | append_singleton calls call ih =>
    rw [OutboxHistory.after, List.foldl_append]
    cases call with
    | insertPendingObject confirmed now =>
      obtain ⟨confirmed, rfl⟩ := confirmed
      exact insertPendingObject_stored ih
    | transitionToReady now => exact transition_stored ih
    | transitionToSent now => exact transition_stored ih
    | transitionPublishFailure error now => exact transition_stored ih

/-! ## The two calls -/

section HandOff

variable {table : OutboxTable} {confirmed : OutboxReadyCasefileV1} {row : OutboxRecord}
  {caseId : String} {t : Instant}

/-- A stored row stays valid when it is moved to `READY` at its own time or later. -/
theorem RowStored.ready (h : RowStored caseId row) {u : Instant} (hle : row.updatedAt ≤ u) :
    RowStored caseId (readyRecord row u) where
  own := h.own
  reads := by
    obtain ⟨hid, hpath, hhash, htime⟩ := rowToRecord_returns.mp h.reads
    exact rowToRecord_returns.mpr ⟨hid, hpath, hhash, htime.trans hle⟩
  fits := by
    have hfits := h.fits
    simp only [columnsFit, readyRecord, Bool.and_eq_true, Option.all_none] at hfits ⊢
    exact ⟨⟨hfits.1.1, trivial⟩, trivial⟩

/-- A pending row is moved to `READY`. -/
theorem transitionToReady_pending (hget : table.get? caseId = some row)
    (hstored : RowStored caseId row) (hstatus : row.status = .pendingObject) :
    ∃ u, transitionToReady table caseId (.aware t) =
      (.ok (readyRecord row u), table.set caseId (readyRecord row u)) := by
  have hreturns : (transitionToReady table caseId (.aware t)).1.Returns := by
    refine (transition_returns fun row now next hmark => ?_).mpr
      ⟨row, hget, hstored.reads, .inr ?_⟩
    · rw [(markOutboxRecordReady_ok hmark).1]
      exact List.mem_singleton_self _
    · have hmark : ∃ next, markOutboxRecordReady row (.aware t) = .ok next := by
        simp [markOutboxRecordReady, raiseIf, hstatus, resolveTransitionNow, resolveNow, pure,
          Except.pure]
      obtain ⟨next, hmark⟩ := hmark
      obtain ⟨-, u, hle, rfl⟩ := markOutboxRecordReady_ok hmark
      exact ⟨_, hmark, (hstored.ready hle).fits, (hstored.ready hle).reads⟩
  obtain ⟨r, hr⟩ := hreturns
  rcases transition_cases (fun _ => [.pendingObject]) markOutboxRecordReady
    (fun row now next hmark => by simp [(markOutboxRecordReady_ok hmark).1])
    table caseId (.aware t) .ready with
    ⟨e, hcall⟩ | ⟨row', hget', hready, -⟩ | ⟨row', next, t', hget', -, hmark, hcall⟩
  · rw [transitionToReady, hcall] at hr
    cases hr
  · obtain rfl := Option.some.inj (hget.symm.trans hget')
    cases hready.symm.trans hstatus
  · obtain rfl := Option.some.inj (hget.symm.trans hget')
    obtain ⟨-, u, -, rfl⟩ := markOutboxRecordReady_ok hmark
    exact ⟨u, hcall⟩

/-- A `READY` row is left as it is. -/
theorem transitionToReady_ready (hget : table.get? caseId = some row)
    (hstored : RowStored caseId row) (hstatus : row.status = .ready) :
    transitionToReady table caseId (.aware t) = (.ok row, table) := by
  simp [transitionToReady, transition, callAt, resolveNow, requireByCaseId, hget, hstored.reads,
    planFrom, hstatus, applyPlan, runTx]

/-- The guard refuses every later status. -/
theorem transitionToReady_later (hget : table.get? caseId = some row)
    (hstored : RowStored caseId row) (hpending : row.status ≠ .pendingObject)
    (hready : row.status ≠ .ready) :
    transitionToReady table caseId (.aware t) =
      (.error (.invariantViolation s!"cannot mark record READY from status={row.status.value}"),
        table) := by
  simp [transitionToReady, transition, callAt, resolveNow, requireByCaseId, hget, hstored.reads,
    planFrom, hready, markOutboxRecordReady, raiseIf, hpending, runTx, wrapRepo,
    Failure.passesRepository]

/-- The insert finds the row of the same file. -/
theorem insertPendingObject_known (hget : table.get? confirmed.caseId = some row)
    (hstored : RowStored confirmed.caseId row) (hof : IsOf row confirmed) :
    insertPendingObject table confirmed (.aware t) = (.ok row, table) := by
  rw [insertPendingObject_of_some t hget]
  simp [hstored.reads, assertCasefilePayloadMatch, raiseIf, hof.objectPath, hof.triageHash, runTx,
    pure, Except.pure]

/-- After an insert that returns, the transition has the answer. -/
theorem handOff_of_insert {table' : OutboxTable} {u : Instant}
    (hinsert : insertPendingObject table confirmed (.aware t) = (.ok row, table')) :
    handOff table confirmed t u = transitionToReady table' confirmed.caseId (.aware u) := by
  rw [handOff, hinsert]

/-- The hand-off of a case without a row. -/
theorem handOff_new {u : Instant} (hnone : table.get? confirmed.caseId = none)
    (hfits : columnsFit (createPendingOutboxRecord confirmed t) = true) :
    ∃ r table', handOff table confirmed t u = (.ok r, table') ∧ r.status = .ready ∧
      IsOf r confirmed := by
  have hinsert := insertPendingObject_of_none t hnone
  rw [if_pos hfits] at hinsert
  have hstored : RowStored confirmed.caseId (createPendingOutboxRecord confirmed t) :=
    ⟨rfl, rowToRecord_pending confirmed t, hfits⟩
  have hget : (table.set confirmed.caseId (createPendingOutboxRecord confirmed t)).get?
      confirmed.caseId = some (createPendingOutboxRecord confirmed t) :=
    Dict.get?_set.trans (if_pos rfl)
  obtain ⟨v, hready⟩ := transitionToReady_pending (t := u) hget hstored rfl
  have hcall := handOff_of_insert (u := u) hinsert
  rw [hready] at hcall
  exact ⟨_, _, hcall, rfl, ⟨rfl, rfl, rfl⟩⟩

/-- It raises when the row does not fit the table. -/
theorem handOff_unfit {u : Instant} (hnone : table.get? confirmed.caseId = none)
    (hfits : ¬columnsFit (createPendingOutboxRecord confirmed t) = true) :
    ∃ e, handOff table confirmed t u = (.error e, table) := by
  have hinsert := insertPendingObject_of_none t hnone
  rw [if_neg hfits] at hinsert
  exact ⟨_, by rw [handOff, hinsert]⟩

/-- The hand-off of a case that has the row of the file is the transition of that row. -/
theorem handOff_known {u : Instant} (hget : table.get? confirmed.caseId = some row)
    (hstored : RowStored confirmed.caseId row) (hof : IsOf row confirmed) :
    handOff table confirmed t u = transitionToReady table confirmed.caseId (.aware u) :=
  handOff_of_insert (insertPendingObject_known hget hstored hof)

end HandOff

/-! ## Retrying it -/

/-- The hand-off of the casefile can be made, or made again: its case has no row and the new one
fits, or the publisher has not touched the row yet. -/
def AwaitsHandOff (table : OutboxTable) (confirmed : OutboxReadyCasefileV1) (t : Instant) : Prop :=
  (table.get? confirmed.caseId = none ∧
      columnsFit (createPendingOutboxRecord confirmed t) = true) ∨
    ∃ row, table.get? confirmed.caseId = some row ∧
      (row.status = .pendingObject ∨ row.status = .ready)

section Retried

variable [Platform] {policy : OutboxPolicyV1} {appEnv : String}

/-- **The hand-off again**, after any calls on the case: it returns a record of the casefile
exactly while the publisher has not touched the row; from then on the guard raises. A row that
is `READY` or later is never changed. -/
theorem ready_hand_off_retried {table : OutboxTable} {confirmed : OutboxReadyCasefileV1}
    (habsent : table.get? confirmed.caseId = none)
    (calls : List (OutboxCall confirmed.caseId))
    (hsame : ∀ row, (OutboxHistory.after policy appEnv table calls).table.get? confirmed.caseId =
      some row → IsOf row confirmed) (insertedAt readyAt : Instant) :
    let reached := (OutboxHistory.after policy appEnv table calls).table
    let call := buildOutboxReadyRecord confirmed (some reached) insertedAt readyAt
    ((∃ r, call.1 = .ok r ∧ IsOf r confirmed) ↔ AwaitsHandOff reached confirmed insertedAt) ∧
      (∀ row, reached.get? confirmed.caseId = some row → row.status ≠ .pendingObject →
        row.status ≠ .ready → call.1 =
          .error (.invariantViolation
            s!"cannot mark record READY from status={row.status.value}")) ∧
      ∀ row, reached.get? confirmed.caseId = some row → row.status ≠ .pendingObject →
        call.2 = some reached := by
  intro reached call
  have hstored : StoredAt reached confirmed.caseId := OutboxHistory.stored_after habsent calls
  have hcall : call = (handOff reached confirmed insertedAt readyAt).map id some := rfl
  rcases hget : reached.get? confirmed.caseId with _ | row
  · -- no row: the insert decides
    refine ⟨?_, fun row hrow => (by cases hrow), fun row hrow => (by cases hrow)⟩
    by_cases hfits : columnsFit (createPendingOutboxRecord confirmed insertedAt) = true
    · obtain ⟨r, table', hnew, -, hof⟩ := handOff_new (u := readyAt) hget hfits
      exact iff_of_true ⟨r, by rw [hcall, hnew]; rfl, hof⟩ (.inl ⟨hget, hfits⟩)
    · obtain ⟨e, hunfit⟩ := handOff_unfit (u := readyAt) hget hfits
      refine iff_of_false ?_ ?_
      · rintro ⟨r, hr, -⟩
        rw [hcall, hunfit] at hr
        cases hr
      · rintro (⟨-, h⟩ | ⟨row, hrow, -⟩)
        · exact hfits h
        · cases hget.symm.trans hrow
  · -- a row: the transition decides, on its status
    have hrow := hstored row hget
    have hof := hsame row hget
    rw [handOff_known hget hrow hof] at hcall
    by_cases hpending : row.status = .pendingObject
    · obtain ⟨u, hready⟩ := transitionToReady_pending (t := readyAt) hget hrow hpending
      rw [hready] at hcall
      refine ⟨iff_of_true ⟨readyRecord row u, by rw [hcall]; rfl, ?_⟩
        (.inr ⟨row, hget, .inl hpending⟩), ?_, ?_⟩
      · exact ⟨hof.caseId, hof.objectPath, hof.triageHash⟩
      · intro row' hrow' hnot
        cases hrow'
        exact absurd hpending hnot
      · intro row' hrow' hnot
        cases hrow'
        exact absurd hpending hnot
    by_cases hready : row.status = .ready
    · rw [transitionToReady_ready hget hrow hready] at hcall
      refine ⟨iff_of_true ⟨row, by rw [hcall]; rfl, hof⟩ (.inr ⟨row, hget, .inr hready⟩), ?_, ?_⟩
      · intro row' hrow' _ hnot
        cases hrow'
        exact absurd hready hnot
      · intro row' _ _
        rw [hcall]
        rfl
    · rw [transitionToReady_later hget hrow hpending hready] at hcall
      refine ⟨iff_of_false ?_ ?_, ?_, ?_⟩
      · rintro ⟨r, hr, -⟩
        rw [hcall] at hr
        cases hr
      · rintro (⟨hnone, -⟩ | ⟨row', hrow', hstatus⟩)
        · cases hget.symm.trans hnone
        · obtain rfl := Option.some.inj (hget.symm.trans hrow')
          exact hstatus.elim hpending hready
      · intro row' hrow' _ _
        cases hrow'
        rw [hcall]
        rfl
      · intro row' _ _
        rw [hcall]
        rfl

end Retried

/-- The calls that bring `case-1` to `SENT`. -/
def callsSentCase1 : List (OutboxCall "case-1") :=
  [.insertPendingObject ⟨confirmedCase1, confirmedCase1_caseId⟩ (.aware newYear2026),
    .transitionToReady (.aware newYear2026), .transitionToSent (.aware newYear2026)]

/-- The table after the first `n` of them. -/
def sentCase1Table (n : Nat) : OutboxTable :=
  (@OutboxHistory.after (asciiPlatform []) outboxPolicyV1 "prod" "case-1" .empty
    (callsSentCase1.take n)).table

/-- After the insert and after the hand-off, the hand-off of `case-1` returns. -/
theorem ready_hand_off_retried_case1 :
    (∃ r, (buildOutboxReadyRecord confirmedCase1 (some (sentCase1Table 1))
      newYear2026 newYear2026).1 = .ok r ∧ IsOf r confirmedCase1) ∧
    (∃ r, (buildOutboxReadyRecord confirmedCase1 (some (sentCase1Table 2))
      newYear2026 newYear2026).1 = .ok r ∧ IsOf r confirmedCase1) := by
  have hpending : (sentCase1Table 1).get? "case-1" =
      some (createPendingOutboxRecord confirmedCase1 newYear2026) := by
    decide +kernel
  have hready : (sentCase1Table 2).get? "case-1" =
      some (readyRecord (createPendingOutboxRecord confirmedCase1 newYear2026) newYear2026) := by
    decide +kernel
  refine ⟨?_, ?_⟩
  · have hsame : ∀ row, (sentCase1Table 1).get? "case-1" = some row → IsOf row confirmedCase1 := by
      intro row hget
      obtain rfl := Option.some.inj (hpending.symm.trans hget)
      exact ⟨rfl, rfl, rfl⟩
    exact (@ready_hand_off_retried (asciiPlatform []) outboxPolicyV1 "prod" .empty confirmedCase1
      rfl (callsSentCase1.take 1) hsame newYear2026 newYear2026).1.mpr
      (.inr ⟨_, hpending, .inl rfl⟩)
  · have hsame : ∀ row, (sentCase1Table 2).get? "case-1" = some row → IsOf row confirmedCase1 := by
      intro row hget
      obtain rfl := Option.some.inj (hready.symm.trans hget)
      exact ⟨rfl, rfl, rfl⟩
    exact (@ready_hand_off_retried (asciiPlatform []) outboxPolicyV1 "prod" .empty confirmedCase1
      rfl (callsSentCase1.take 2) hsame newYear2026 newYear2026).1.mpr
      (.inr ⟨_, hready, .inr rfl⟩)

/-- Once `case-1` is published, the hand-off of the same casefile raises. -/
theorem ready_hand_off_refused_case1 :
    (buildOutboxReadyRecord confirmedCase1 (some (sentCase1Table 3)) newYear2026 newYear2026).1 =
      .error (.invariantViolation "cannot mark record READY from status=SENT") := by
  decide +kernel

end AiopsTriage
