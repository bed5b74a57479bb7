import AiopsTriage.Outbox.Liveness

/-!
# Fairness of the outbox worker

While the hot path goes on inserting casefiles and handing them over between the polls, a row that
waits is not starved: `select_publishable` takes the longest unchanged rows first, and whatever is
written later, by the hot path or by the worker itself, carries a later time. So only the rows that
are `ahead` of it, which waited already and were not changed later, can be taken before it, and
each poll that passes it by takes a full batch of those (`ahead_polled`).

`run_forever_fair` bounds the wait: with `n` rows ahead, the row is attempted within any number
of polls whose batches hold more than `n` rows.
-/

namespace AiopsTriage

/-! ## The hot path -/

/-- A call of the hot path on the outbox, by its reading of the clock. -/
inductive HotPathCall where
  /-- `insert_pending_object` -/
  | insertPendingObject (confirmed : OutboxReadyCasefileV1) (now : Instant)
  /-- `transition_to_ready` -/
  | transitionToReady (caseId : String) (now : Instant)

/-- Its reading of the clock. -/
def HotPathCall.now : HotPathCall → Instant
  | insertPendingObject _ now => now
  | transitionToReady _ now => now

/-- What it makes of the table. -/
def HotPathCall.exec (table : OutboxTable) : HotPathCall → OutboxTable
  | insertPendingObject confirmed now => (AiopsTriage.insertPendingObject table confirmed (.aware now)).2
  | transitionToReady caseId now => (AiopsTriage.transitionToReady table caseId (.aware now)).2

/-- What hot-path calls after `u` make of a table that can be served at `t`: a row that they write
is new or was pending, is later than `u`, and can be served. -/
def Arrivals (m : Nat) (u t : Instant) (table table' : OutboxTable) : Prop :=
  ∀ caseId, table'.get? caseId = table.get? caseId ∨
    ∃ next, table'.get? caseId = some next ∧ Serviceable m t caseId next ∧ u < next.updatedAt ∧
      ∀ row, table.get? caseId = some row → row.status = .pendingObject

namespace Arrivals

variable {m : Nat} {u t : Instant} {a b c table table' : OutboxTable}

theorem refl (m : Nat) (u t : Instant) (table : OutboxTable) : Arrivals m u t table table :=
  fun _ => .inl rfl

theorem trans (hab : Arrivals m u t a b) (hbc : Arrivals m u t b c) : Arrivals m u t a c := by
  intro caseId
  rcases hbc caseId with hsame | ⟨next, hnext, hserved, hlater, hpending⟩
  · rw [hsame]
    exact hab caseId
  · rcases hab caseId with hsame | ⟨row', hrow', -, -, hpending'⟩
    · exact .inr ⟨next, hnext, hserved, hlater, fun row hrow => hpending row (hsame.trans hrow)⟩
    · exact .inr ⟨next, hnext, hserved, hlater, hpending'⟩

/-- A row that is written. -/
theorem set {caseId : String} {next : OutboxRecord} (hserved : Serviceable m t caseId next)
    (hlater : u < next.updatedAt)
    (hpending : ∀ row, table.get? caseId = some row → row.status = .pendingObject) :
    Arrivals m u t table (table.set caseId next) := by
  intro caseId'
  rw [Dict.get?_set]
  by_cases heq : caseId = caseId'
  · subst heq
    rw [if_pos rfl]
    exact .inr ⟨next, rfl, hserved, hlater, hpending⟩
  · rw [if_neg heq]
    exact .inl rfl

/-- The table can still be served. -/
theorem serviceable (h : Arrivals m u t table table') (htable : ServiceableTable m t table) :
    ServiceableTable m t table' := by
  intro caseId row hget
  rcases h caseId with hsame | ⟨next, hnext, hserved, -⟩
  · exact htable caseId row (hsame ▸ hget)
  · obtain rfl := Option.some.inj (hnext.symm.trans hget)
    exact hserved

/-- A row that waits is untouched. -/
theorem get?_waiting (h : Arrivals m u t table table') {caseId : String} {row : OutboxRecord}
    (hget : table.get? caseId = some row) (hwaits : row.status.awaitsPublish = true) :
    table'.get? caseId = some row := by
  rcases h caseId with hsame | ⟨next, hnext, -, -, hpending⟩
  · exact hsame.trans hget
  · rw [hpending row hget] at hwaits
    cases hwaits

end Arrivals

/-- A hand-off leaves the table alone, or moves a pending row. -/
theorem transitionToReady_table (table : OutboxTable) (caseId : String) (now : Instant) :
    (transitionToReady table caseId (.aware now)).2 = table ∨
      ∃ row, table.get? caseId = some row ∧ row.status = .pendingObject ∧
        columnsFit (row.update (readyRecord row (max now row.updatedAt))) = true ∧
        rowToRecord (row.update (readyRecord row (max now row.updatedAt))) =
          .ok (row.update (readyRecord row (max now row.updatedAt))) ∧
        (transitionToReady table caseId (.aware now)).2 =
          table.set caseId (row.update (readyRecord row (max now row.updatedAt))) := by
  have hexpected : ∀ row now next, markOutboxRecordReady row now = .ok next →
      row.status ∈ [OutboxState.pendingObject] := by
    intro row now next hmark
    rw [(markOutboxRecordReady_ok hmark).1]
    exact List.mem_singleton_self _
  rcases transition_cases (fun _ => [.pendingObject]) markOutboxRecordReady hexpected table caseId
    (.aware now) .ready with ⟨e, hcall⟩ | ⟨row, -, -, hcall⟩ | ⟨row, next, t, hget, hopen, -, hcall⟩
  · exact .inl (by rw [transitionToReady, hcall])
  · exact .inl (by rw [transitionToReady, hcall])
  · -- the call returned, so the row admits it at this very time
    obtain ⟨row', hget', hread, hplan⟩ := (transition_returns hexpected).mp ⟨_, by rw [hcall]⟩
    obtain rfl := Option.some.inj (hget.symm.trans hget')
    obtain ⟨next', hmark, hfit, hvalid⟩ := hplan.resolve_left hopen
    have hstatus := (markOutboxRecordReady_ok hmark).1
    have hready : markOutboxRecordReady row (.aware now) =
        .ok (readyRecord row (max now row.updatedAt)) := by
      simp [markOutboxRecordReady, raiseIf, hstatus, resolveTransitionNow_aware, pure, Except.pure]
    obtain rfl := Except.ok.inj (hmark.symm.trans hready)
    refine .inr ⟨row, hget, hstatus, hfit, hvalid, ?_⟩
    have hmember : row.status ∈ [OutboxState.pendingObject] := hexpected row _ _ hmark
    have hreturn : transition table caseId (.aware now) .ready (fun _ => [.pendingObject])
        markOutboxRecordReady = _ :=
      transition_of_mark hget hread hopen hmark hmember hfit hvalid
    rw [transitionToReady, hreturn]

/-- **One call** of the hot path. -/
theorem HotPathCall.arrivals {m : Nat} {u t : Instant} {table : OutboxTable} (call : HotPathCall)
    (htable : ServiceableTable m t table) (hlater : u < call.now) (hnow : call.now ≤ t) :
    Arrivals m u t table (call.exec table) := by
  cases call with
  | insertPendingObject confirmed now =>
    rcases hget : table.get? confirmed.caseId with _ | row
    · simp only [exec, insertPendingObject_of_none now hget]
      split
      · next hfit =>
        refine .set ?_ hlater fun row hrow => (by rw [hget] at hrow; cases hrow)
        exact
          { caseId_eq := rfl
            readable := rowToRecord_pending confirmed now
            fits := hfit
            attempts := fun _ => Nat.zero_le m
            stamped := hnow
            due := fun d hd => by simp [createPendingOutboxRecord] at hd }
      · exact .refl m u t table
    · simp only [exec]
      rcases insertPendingObject_cases table confirmed (.aware now) with
        ⟨e, hcall⟩ | ⟨row', -, -, -, hcall⟩ | ⟨t', hnone, -⟩
      · rw [hcall]
        exact .refl m u t table
      · rw [hcall]
        exact .refl m u t table
      · rw [hget] at hnone
        cases hnone
  | transitionToReady caseId now =>
    simp only [exec]
    rcases transitionToReady_table table caseId now with hsame |
      ⟨row, hget, hpending, hfit, hvalid, hset⟩
    · rw [hsame]
      exact .refl m u t table
    · have hrow := htable caseId row hget
      rw [hset]
      refine .set ?_ (lt_of_lt_of_le hlater (le_max_left _ _)) fun row' hrow' => ?_
      · exact
          { caseId_eq := hrow.caseId_eq
            readable := hvalid
            fits := hfit
            attempts := fun _ => hrow.attempts (by rw [hpending]; rfl)
            stamped := max_le hnow hrow.stamped
            due := fun d hd => by simp [OutboxRecord.update, readyRecord] at hd }
      · obtain rfl := Option.some.inj (hget.symm.trans hrow')
        exact hpending

/-- Some calls of the hot path. -/
theorem HotPathCall.arrivals_foldl {m : Nat} {u t : Instant} {table : OutboxTable}
    {calls : List HotPathCall} (htable : ServiceableTable m t table)
    (hcalls : ∀ call ∈ calls, u < call.now ∧ call.now ≤ t) :
    Arrivals m u t table (calls.foldl HotPathCall.exec table) := by
  induction calls generalizing table with
  | nil => exact .refl m u t table
  | cons call calls ih =>
    obtain ⟨hlater, hnow⟩ := hcalls call List.mem_cons_self
    have hfirst := call.arrivals htable hlater hnow
    exact hfirst.trans (ih (hfirst.serviceable htable) fun call' hcall' =>
      hcalls call' (List.mem_cons_of_mem call hcall'))

/-! ## The rows ahead -/

/-- The other rows that wait and were not changed after `u`. -/
def OutboxTable.ahead (table : OutboxTable) (caseId : String) (u : Instant) : Finset String :=
  ((table.entries.filter fun e =>
    e.1 ≠ caseId ∧ e.2.status.awaitsPublish = true ∧ e.2.updatedAt ≤ u).map Prod.fst).toFinset

section Ahead

variable {m limit : Nat} {u t : Instant} {table table' : OutboxTable} {caseId : String}
  {row : OutboxRecord} {poll : Poll}

theorem mem_ahead {other : String} : other ∈ table.ahead caseId u ↔
    other ≠ caseId ∧ ∃ row, table.get? other = some row ∧ row.status.awaitsPublish = true ∧
      row.updatedAt ≤ u := by
  simp only [OutboxTable.ahead, List.mem_toFinset, List.mem_map, List.mem_filter,
    decide_eq_true_eq]
  constructor
  · rintro ⟨e, ⟨he, hne, hwaits, hle⟩, rfl⟩
    exact ⟨hne, e.2, Dict.get?_eq_some.mpr he, hwaits, hle⟩
  · rintro ⟨hne, row, hget, hwaits, hle⟩
    exact ⟨(other, row), ⟨Dict.get?_eq_some.mp hget, hne, hwaits, hle⟩, rfl⟩

/-- The hot path puts nothing ahead. -/
theorem ahead_arrivals (h : Arrivals m u t table table') :
    table'.ahead caseId u ⊆ table.ahead caseId u := by
  intro other hother
  obtain ⟨hne, row, hget, hwaits, hle⟩ := mem_ahead.mp hother
  rcases h other with hsame | ⟨next, hnext, -, hlater, -⟩
  · exact mem_ahead.mpr ⟨hne, row, hsame ▸ hget, hwaits, hle⟩
  · obtain rfl := Option.some.inj (hnext.symm.trans hget)
    exact absurd hle (not_le.mpr hlater)

/-- **Step lemma**: a poll that passes a due row by takes a full batch of the rows ahead. -/
theorem ahead_polled (h : Polled m limit poll table table') (htable : ServiceableTable m t table)
    (hget : table.get? caseId = some row) (hdue : isPublishable poll.now row = true)
    (hpassed : row ∉ table.dueBatch poll.now limit) (hnow : row.updatedAt < poll.now) :
    (table'.ahead caseId row.updatedAt).card + limit ≤
      (table.ahead caseId row.updatedAt).card := by
  obtain ⟨hlength, holder⟩ := (mem_dueBatch_or hget hdue).resolve_left hpassed
  let taken := ((table.dueBatch poll.now limit).map OutboxRecord.caseId).toFinset
  have hcard : taken.card = limit := by
    rw [List.toFinset_card_of_nodup (nodup_dueBatch htable), List.length_map, hlength]
  have htaken : taken ⊆ table.ahead caseId row.updatedAt := by
    intro other hother
    obtain ⟨record, hrecord, rfl⟩ := List.mem_map.mp (List.mem_toFinset.mp hother)
    obtain ⟨⟨other, hget'⟩, hdue'⟩ := mem_of_mem_dueBatch hrecord
    obtain rfl := (htable other record hget').caseId_eq
    refine mem_ahead.mpr ⟨?_, record, hget', awaitsPublish_of_isPublishable hdue',
      holder record hrecord⟩
    intro heq
    rw [heq, hget] at hget'
    exact hpassed (Option.some.inj hget' ▸ hrecord)
  -- what is left ahead was ahead, and was not taken
  have hleft : ∀ other ∈ table'.ahead caseId row.updatedAt,
      other ∈ table.ahead caseId row.updatedAt ∧ other ∉ taken := by
    intro other hother
    obtain ⟨hne, next, hnext, hwaits, hle⟩ := mem_ahead.mp hother
    have hnot : other ∉ taken := by
      intro hmem
      obtain ⟨record, hrecord, rfl⟩ := List.mem_map.mp (List.mem_toFinset.mp hmem)
      obtain ⟨next', hnext', hattempted⟩ := h.attempted record hrecord
      obtain rfl := Option.some.inj (hnext.symm.trans hnext')
      rw [hattempted.stamped] at hle
      exact absurd ((le_max_left _ _).trans hle) (not_le.mpr hnow)
    have hsame := h.kept other fun hmem => hnot (List.mem_toFinset.mpr hmem)
    exact ⟨mem_ahead.mpr ⟨hne, next, hsame ▸ hnext, hwaits, hle⟩, hnot⟩
  have hdisjoint : Disjoint (table'.ahead caseId row.updatedAt) taken :=
    Finset.disjoint_left.mpr fun other hother => (hleft other hother).2
  rw [← hcard, ← Finset.card_union_of_disjoint hdisjoint]
  exact Finset.card_le_card (Finset.union_subset (fun other hother => (hleft other hother).1) htaken)

end Ahead

/-! ## Runs -/

/-- A poll, and what the hot path has called since the one before. -/
structure BusyPoll extends Poll where
  /-- the calls of the hot path -/
  calls : List HotPathCall

namespace OutboxWorker

variable [Platform] (w : OutboxWorker)

/-- The records that `run_forever` attempts over a number of polls. -/
def attemptedIn : OutboxTable → List BusyPoll → List OutboxRecord
  | _, [] => []
  | table, poll :: polls =>
    let table := poll.calls.foldl HotPathCall.exec table
    match w.runOnce poll.now (quietTurn poll.outcomeOf) table with
    | (.error _, attempted) => attempted
    | (.ok _, attempted) => attempted ++
        attemptedIn (w.tableAfter poll.now (quietTurn poll.outcomeOf) table) polls

variable {w} {m : Nat} {t : Instant} {table : OutboxTable} {caseId : String} {row : OutboxRecord}

/-- **Fairness**: a row that is due is attempted within any polls whose batches hold more rows than
were ahead of it, whatever the hot path writes in between and whatever comes of each publish. -/
theorem run_forever_fair (hw : w.Bounded m) {polls : List BusyPoll}
    (htable : ServiceableTable m t table) (hlast : t + maxRetryDelay ≤ maxInstant)
    (hget : table.get? caseId = some row)
    (hcalls : ∀ poll ∈ polls, ∀ call ∈ poll.calls, row.updatedAt < call.now ∧ call.now ≤ t)
    (hpolls : ∀ poll ∈ polls, row.updatedAt < poll.now ∧ poll.now ≤ t ∧ poll.Storable ∧
      isPublishable poll.now row = true)
    (henough : (table.ahead caseId row.updatedAt).card < polls.length * w.batchSize) :
    row ∈ w.attemptedIn table polls := by
  induction polls generalizing table with
  | nil => simp at henough
  | cons poll polls ih =>
    obtain ⟨hlater, hnow, hstorable, hdue⟩ := hpolls poll List.mem_cons_self
    have harrivals := HotPathCall.arrivals_foldl htable (hcalls poll List.mem_cons_self)
    generalize hmid : poll.calls.foldl HotPathCall.exec table = mid at harrivals
    have hmidTable := harrivals.serviceable htable
    have hmidGet := harrivals.get?_waiting hget (awaitsPublish_of_isPublishable hdue)
    have hmax : max poll.now t + maxRetryDelay ≤ maxInstant := by rwa [max_eq_right hnow]
    obtain ⟨⟨result, hresult⟩, hpolled⟩ := poll_quiet hw hmidTable hstorable hmax
    simp only [attemptedIn, hmid, hresult]
    by_cases hpassed : row ∈ mid.dueBatch poll.now w.batchSize
    · exact List.mem_append_left _ hpassed
    · refine List.mem_append_right _ (ih (serviceableTable_polled hpolled hmidTable hnow) ?_
        (fun poll' h => hcalls poll' (List.mem_cons_of_mem poll h))
        (fun poll' h => hpolls poll' (List.mem_cons_of_mem poll h)) ?_)
      · -- a row that is not in the batch stays
        rw [hpolled.kept caseId, hmidGet]
        intro hmem
        obtain ⟨record, hrecord, hid⟩ := List.mem_map.mp hmem
        obtain ⟨⟨other, hother⟩, -⟩ := mem_of_mem_dueBatch hrecord
        obtain rfl := (hmidTable other record hother).caseId_eq
        rw [hid, hmidGet] at hother
        exact hpassed (Option.some.inj hother ▸ hrecord)
      · have hstep := ahead_polled hpolled hmidTable hmidGet hdue hpassed hlater
        have hahead : (mid.ahead caseId row.updatedAt).card ≤ _ :=
          Finset.card_le_card (ahead_arrivals harrivals)
        rw [List.length_cons, Nat.add_mul, Nat.one_mul] at henough
        omega

/-! ## Two rows, one at a time -/

/-- A worker that takes one record a poll. -/
def singleWorker : OutboxWorker := { prodWorker with batchSize := 1, batchSize_pos := Nat.one_pos }

/-- A confirmed casefile of a third case. -/
def confirmedCase3 : OutboxReadyCasefileV1 where
  caseId := "case-3"
  objectPath := "cases/case-3/triage.json"
  triageHash := confirmedCase1.triageHash
  caseId_ne := by decide
  objectPath_ok := by decide
  triageHash_ok := confirmedCase1.triageHash_ok

/-- Two polls; before the second, the hot path inserts the third case. -/
def twoBusyPolls : List BusyPoll :=
  [⟨⟨newYear2026 + 1000000, firstUnpublishable⟩, []⟩,
    ⟨⟨newYear2026 + 6000000, firstUnpublishable⟩,
      [.insertPendingObject confirmedCase3 (newYear2026 + 2000000)]⟩]

omit [Platform] in
/-- `case-2` is attempted after `case-1`. -/
theorem run_forever_fair_two :
    let := asciiPlatform []
    readySince "case-2" "cases/case-2/triage.json" ∈
      singleWorker.attemptedIn twoReady twoBusyPolls := by
  intro _
  have hle : newYear2026 ≤ newYear2026 + 6000000 := by decide
  refine run_forever_fair ⟨rfl, by decide⟩ (serviceableTable_twoReady.mono hle) (by decide)
    (by decide +kernel : twoReady.get? "case-2" = _) ?_ ?_ (by decide +kernel)
  · simp only [twoBusyPolls, List.mem_cons, List.not_mem_nil, or_false]
    rintro poll (rfl | rfl) call hcall
    · cases hcall
    · obtain rfl := List.mem_singleton.mp hcall
      decide
  · simp only [twoBusyPolls, List.mem_cons, List.not_mem_nil, or_false]
    rintro poll (rfl | rfl)
    · exact ⟨by decide, by decide, firstUnpublishable_storable _, by decide⟩
    · exact ⟨by decide, by decide, firstUnpublishable_storable _, by decide⟩

end OutboxWorker

end AiopsTriage
