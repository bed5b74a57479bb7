import AiopsTriage.Outbox.Repository
import Mathlib.Logic.Relation

/-!
# Life of an outbox row

Whatever calls are made on a case, in whatever order and with whatever clocks, its
row only moves along the edges of `OutboxMoves`, keeps what identifies it, and
counts its publish outcomes.

The **step lemmas** (`rowStep_of_ready`, `rowStep_of_sent`, `rowStep_of_failure`)
say what one replaced record keeps; `RowSound` is the invariant of a row, relative
to the retry bound of the policy and to the number of outcomes recorded so far, and
`OutboxHistory.sound_apply` carries it over one call. The run result is
`outbox_row_lifecycle`.
-/

namespace AiopsTriage

/-- The edges of the status graph. -/
inductive OutboxMoves : OutboxState → OutboxState → Prop where
  /-- the hand-off -/
  | handOff : OutboxMoves .pendingObject .ready
  /-- the first attempt succeeds -/
  | sendReady : OutboxMoves .ready .sent
  /-- the first attempt fails -/
  | failReady : OutboxMoves .ready .retry
  /-- the first attempt fails and the policy allows no other -/
  | dropReady : OutboxMoves .ready .dead
  /-- a later attempt succeeds -/
  | sendRetry : OutboxMoves .retry .sent
  /-- a later attempt fails -/
  | failRetry : OutboxMoves .retry .retry
  /-- the last attempt fails -/
  | dropRetry : OutboxMoves .retry .dead

/-- The statuses a row never leaves. -/
def OutboxState.isFinal : OutboxState → Bool
  | .sent => true
  | .dead => true
  | _ => false

/-- The statuses in which a publish outcome can be recorded. -/
def OutboxState.awaitsPublish : OutboxState → Bool
  | .ready => true
  | .retry => true
  | _ => false

/-! ## Calls -/

/-- A repository call on one case. -/
inductive OutboxCall (caseId : String) where
  /-- `insert_pending_object`, for a confirmed casefile of the case -/
  | insertPendingObject (confirmed : { c : OutboxReadyCasefileV1 // c.caseId = caseId })
      (now : DateTime)
  /-- `transition_to_ready` -/
  | transitionToReady (now : DateTime)
  /-- `transition_to_sent` -/
  | transitionToSent (now : DateTime)
  /-- `transition_publish_failure` -/
  | transitionPublishFailure (error : PublishError) (now : DateTime)

section Calls

variable [Platform] (policy : OutboxPolicyV1) (appEnv : String) {caseId : String}

/-- The answer of a call and the table after it. -/
def OutboxCall.exec (table : OutboxTable) :
    OutboxCall caseId → Except Failure OutboxRecord × OutboxTable
  | .insertPendingObject confirmed now => AiopsTriage.insertPendingObject table confirmed now
  | .transitionToReady now => AiopsTriage.transitionToReady table caseId now
  | .transitionToSent now => AiopsTriage.transitionToSent table caseId now
  | .transitionPublishFailure error now =>
    AiopsTriage.transitionPublishFailure table caseId policy appEnv error now

/-- Whether the call reports a publish outcome. -/
def OutboxCall.isPublishOutcome : OutboxCall caseId → Bool
  | .insertPendingObject _ _ => false
  | .transitionToReady _ => false
  | .transitionToSent _ => true
  | .transitionPublishFailure _ _ => true

/-- Whether a call on the table records a publish outcome: it reports one, returns,
and the row was still waiting for it. A repeated call on a settled row records
nothing. -/
def OutboxCall.records (table : OutboxTable) (call : OutboxCall caseId) : Bool :=
  call.isPublishOutcome && decide (call.exec policy appEnv table).1.Returns &&
    (table.get? caseId).any fun row => row.status.awaitsPublish

/-- The table together with the number of publish outcomes recorded for the case. -/
structure OutboxHistory where
  /-- the rows -/
  table : OutboxTable
  /-- publish outcomes recorded so far -/
  outcomes : Nat

/-- The history after one more call. -/
def OutboxHistory.apply (h : OutboxHistory) (call : OutboxCall caseId) : OutboxHistory where
  table := (call.exec policy appEnv h.table).2
  outcomes := h.outcomes + if call.records policy appEnv h.table then 1 else 0

/-- The history after a sequence of calls, from a table without publish outcomes. -/
def OutboxHistory.after (table : OutboxTable) (calls : List (OutboxCall caseId)) : OutboxHistory :=
  calls.foldl (OutboxHistory.apply policy appEnv) ⟨table, 0⟩

end Calls

/-! ## What one step keeps -/

/-- What a row keeps from one state of the table to a later one. -/
structure RowKept (row row' : OutboxRecord) : Prop where
  /-- the case is the same -/
  caseId : row'.caseId = row.caseId
  /-- the path is the same -/
  objectPath : row'.casefileObjectPath = row.casefileObjectPath
  /-- the hash is the same -/
  triageHash : row'.triageHash = row.triageHash
  /-- the creation time is the same -/
  createdAt : row'.createdAt = row.createdAt
  /-- the update time did not go back -/
  updatedAt : row.updatedAt ≤ row'.updatedAt
  /-- a final row is untouched -/
  final : row.status.isFinal = true → row' = row

/-- One call on a row: nothing, or a move along an edge. -/
structure RowStep (row row' : OutboxRecord) : Prop extends RowKept row row' where
  /-- the row is untouched or moved along an edge -/
  moved : row' = row ∨ OutboxMoves row.status row'.status

theorem RowKept.refl (row : OutboxRecord) : RowKept row row :=
  ⟨rfl, rfl, rfl, rfl, le_refl _, fun _ => rfl⟩

theorem RowStep.refl (row : OutboxRecord) : RowStep row row := ⟨.refl row, .inl rfl⟩

theorem RowKept.trans {a b c : OutboxRecord} (hab : RowKept a b) (hbc : RowKept b c) :
    RowKept a c where
  caseId := hbc.caseId.trans hab.caseId
  objectPath := hbc.objectPath.trans hab.objectPath
  triageHash := hbc.triageHash.trans hab.triageHash
  createdAt := hbc.createdAt.trans hab.createdAt
  updatedAt := hab.updatedAt.trans hbc.updatedAt
  final := by
    intro hfinal
    have hb := hab.final hfinal
    rw [hb] at hbc
    exact hbc.final hfinal

/-- The invariant of a row, relative to the retry bound `m` and to the publish
outcomes recorded for the case. -/
structure RowSound (m outcomes : Nat) (row : OutboxRecord) : Prop where
  /-- the row was updated no earlier than it was created -/
  created_le : row.createdAt ≤ row.updatedAt
  /-- a due time is set exactly for `RETRY` -/
  due_iff : row.nextAttemptAt.isSome = true ↔ row.status = .retry
  /-- a due time lies after the update -/
  due_later : ∀ due, row.nextAttemptAt = some due → row.updatedAt < due
  /-- every attempt is a recorded outcome -/
  attempts : row.deliveryAttempts = outcomes
  /-- nothing was attempted before the row is `RETRY` -/
  fresh : row.status = .pendingObject ∨ row.status = .ready → row.deliveryAttempts = 0
  /-- a `RETRY` row has attempts left -/
  retry_bound : row.status = .retry → 1 ≤ row.deliveryAttempts ∧ row.deliveryAttempts ≤ m
  /-- a `DEAD` row has used them all, and one more -/
  dead_eq : row.status = .dead → row.deliveryAttempts = m + 1

/-- A pending row of a case without outcomes is sound. -/
theorem rowSound_pending (m : Nat) (confirmed : OutboxReadyCasefileV1) (t : Instant) :
    RowSound m 0 (createPendingOutboxRecord confirmed t) where
  created_le := le_refl _
  due_iff := by simp [createPendingOutboxRecord]
  due_later := by simp [createPendingOutboxRecord]
  attempts := rfl
  fresh := fun _ => rfl
  retry_bound := by simp [createPendingOutboxRecord]
  dead_eq := by simp [createPendingOutboxRecord]

/-- The hand-off step. -/
theorem rowStep_of_ready {row next : OutboxRecord} {now : DateTime}
    (h : markOutboxRecordReady row now = .ok next) :
    RowStep row (row.update next) ∧
      ∀ {m n : Nat}, RowSound m n row → RowSound m n (row.update next) := by
  obtain ⟨hstatus, t, hle, rfl⟩ := markOutboxRecordReady_ok h
  refine ⟨⟨⟨rfl, rfl, rfl, rfl, hle, by simp [hstatus, OutboxState.isFinal]⟩, .inr ?_⟩, ?_⟩
  · rw [hstatus]
    exact .handOff
  · intro m n hs
    exact
      { created_le := hs.created_le.trans hle
        due_iff := by simp [OutboxRecord.update, readyRecord]
        due_later := by simp [OutboxRecord.update, readyRecord]
        attempts := hs.attempts
        fresh := fun _ => hs.fresh (.inl hstatus)
        retry_bound := by simp [OutboxRecord.update, readyRecord]
        dead_eq := by simp [OutboxRecord.update, readyRecord] }

/-- The step of a successful publish: one more outcome. -/
theorem rowStep_of_sent {row next : OutboxRecord} {now : DateTime}
    (h : markOutboxRecordSent row now = .ok next) :
    RowStep row (row.update next) ∧ row.status.awaitsPublish = true ∧
      ∀ {m n : Nat}, RowSound m n row → RowSound m (n + 1) (row.update next) := by
  obtain ⟨hstatus, t, hle, rfl⟩ := markOutboxRecordSent_ok h
  have hopen : row.status.isFinal = false ∧ row.status.awaitsPublish = true := by
    rcases hstatus with hstatus | hstatus <;> rw [hstatus] <;> exact ⟨rfl, rfl⟩
  refine ⟨⟨⟨rfl, rfl, rfl, rfl, hle, by simp [hopen.1]⟩, .inr ?_⟩, hopen.2, ?_⟩
  · rcases hstatus with hstatus | hstatus <;> rw [hstatus]
    · exact .sendReady
    · exact .sendRetry
  · intro m n hs
    exact
      { created_le := hs.created_le.trans hle
        due_iff := by simp [OutboxRecord.update, sentRecord]
        due_later := by simp [OutboxRecord.update, sentRecord]
        attempts := congrArg (· + 1) hs.attempts
        fresh := by simp [OutboxRecord.update, sentRecord]
        retry_bound := by simp [OutboxRecord.update, sentRecord]
        dead_eq := by simp [OutboxRecord.update, sentRecord] }

/-- A sound row that waits for a publish has at most the retry bound behind it. -/
theorem RowSound.attempts_le {m n : Nat} {row : OutboxRecord} (hs : RowSound m n row)
    (hstatus : row.status = .ready ∨ row.status = .retry) : row.deliveryAttempts ≤ m := by
  rcases hstatus with hready | hretry
  · rw [hs.fresh (.inr hready)]
    exact Nat.zero_le m
  · exact (hs.retry_bound hretry).2

/-- The step of a failed publish under a policy with retry bound `m`: one more
outcome. -/
theorem rowStep_of_failure [Platform] {row next : OutboxRecord} {now : DateTime}
    {policy : OutboxPolicyV1} {appEnv : String} {error : PublishError} {m : Nat}
    (hlimit : resolveMaxRetryAttempts policy appEnv = .ok (m : Int))
    (h : markOutboxRecordPublishFailure row policy appEnv error now = .ok next) :
    RowStep row (row.update next) ∧ row.status.awaitsPublish = true ∧
      ∀ {n : Nat}, RowSound m n row → RowSound m (n + 1) (row.update next) := by
  obtain ⟨hstatus, t, limit, hle, hlimit', hnext⟩ := markOutboxRecordPublishFailure_ok h
  obtain rfl := Except.ok.inj (hlimit'.symm.trans hlimit)
  have hopen : row.status.isFinal = false ∧ row.status.awaitsPublish = true := by
    rcases hstatus with hstatus | hstatus <;> rw [hstatus] <;> exact ⟨rfl, rfl⟩
  rcases hnext with ⟨hlt, rfl⟩ | ⟨hwithin, due, hdue, rfl⟩
  · -- the policy has no attempt left
    refine ⟨⟨⟨rfl, rfl, rfl, rfl, hle, by simp [hopen.1]⟩, .inr ?_⟩, hopen.2, ?_⟩
    · rcases hstatus with hstatus | hstatus <;> rw [hstatus]
      · exact .dropReady
      · exact .dropRetry
    · intro n hs
      have hbound := hs.attempts_le hstatus
      exact
        { created_le := hs.created_le.trans hle
          due_iff := by simp [OutboxRecord.update, deadRecord]
          due_later := by simp [OutboxRecord.update, deadRecord]
          attempts := congrArg (· + 1) hs.attempts
          fresh := by simp [OutboxRecord.update, deadRecord]
          retry_bound := by simp [OutboxRecord.update, deadRecord]
          dead_eq := fun _ => by
            simp only [OutboxRecord.update, deadRecord]
            omega }
  · -- another attempt is due later
    refine ⟨⟨⟨rfl, rfl, rfl, rfl, hle, by simp [hopen.1]⟩, .inr ?_⟩, hopen.2, ?_⟩
    · rcases hstatus with hstatus | hstatus <;> rw [hstatus]
      · exact .failReady
      · exact .failRetry
    · intro n hs
      exact
        { created_le := hs.created_le.trans hle
          due_iff := by simp [OutboxRecord.update, retryRecord]
          due_later := by
            intro d hd
            cases hd
            exact hdue
          attempts := congrArg (· + 1) hs.attempts
          fresh := by simp [OutboxRecord.update, retryRecord]
          retry_bound := fun _ => by
            simp only [OutboxRecord.update, retryRecord]
            omega
          dead_eq := by simp [OutboxRecord.update, retryRecord] }

/-! ## One call -/

/-- What one call does to the row of its case: a row only appears as
`PENDING_OBJECT`, never disappears, and otherwise takes one step. -/
def CaseStep : Option OutboxRecord → Option OutboxRecord → Prop
  | none, none => True
  | none, some row => row.status = .pendingObject
  | some row, some row' => RowStep row row'
  | some _, none => False

/-- What a run does to the row of its case. -/
def CaseKept : Option OutboxRecord → Option OutboxRecord → Prop
  | none, _ => True
  | some row, some row' =>
    RowKept row row' ∧ Relation.ReflTransGen OutboxMoves row.status row'.status
  | some _, none => False

theorem CaseStep.refl (o : Option OutboxRecord) : CaseStep o o := by
  cases o with
  | none => trivial
  | some row => exact RowStep.refl row

theorem CaseKept.refl (o : Option OutboxRecord) : CaseKept o o := by
  cases o with
  | none => trivial
  | some row => exact ⟨RowKept.refl row, .refl⟩

/-- A run extended by one step. -/
theorem CaseKept.step {a b c : Option OutboxRecord} (hab : CaseKept a b) (hbc : CaseStep b c) :
    CaseKept a c := by
  rcases a with _ | ra
  · trivial
  rcases b with _ | rb
  · exact hab.elim
  rcases c with _ | rc
  · exact hbc.elim
  refine ⟨hab.1.trans hbc.toRowKept, ?_⟩
  rcases hbc.moved with hsame | hmove
  · exact hsame ▸ hab.2
  · exact hab.2.tail hmove

/-- The invariant of a case: its row is sound, and a case without a row has no
outcomes. -/
def OutboxHistory.Sound (m : Nat) (caseId : String) (h : OutboxHistory) : Prop :=
  match h.table.get? caseId with
  | none => h.outcomes = 0
  | some row => RowSound m h.outcomes row

section Runs

variable [Platform] {policy : OutboxPolicyV1} {appEnv : String} {caseId : String} {m : Nat}
  {h : OutboxHistory}

/-- A call that leaves the table alone and records nothing. -/
theorem OutboxHistory.sound_idle {call : OutboxCall caseId}
    (htable : (call.exec policy appEnv h.table).2 = h.table)
    (hrec : call.records policy appEnv h.table = false) (hs : h.Sound m caseId) :
    (h.apply policy appEnv call).Sound m caseId ∧
      CaseStep (h.table.get? caseId) ((h.apply policy appEnv call).table.get? caseId) := by
  simp only [OutboxHistory.Sound, OutboxHistory.apply, htable, hrec] at hs ⊢
  exact ⟨hs, .refl _⟩

/-- A call that replaces the row by one that takes a step. -/
theorem OutboxHistory.sound_replace {call : OutboxCall caseId} {row row' : OutboxRecord}
    (hget : h.table.get? caseId = some row)
    (htable : (call.exec policy appEnv h.table).2 = h.table.set caseId row')
    (hstep : RowStep row row')
    (hsound : RowSound m h.outcomes row →
      RowSound m (h.outcomes + if call.records policy appEnv h.table then 1 else 0) row')
    (hs : h.Sound m caseId) :
    (h.apply policy appEnv call).Sound m caseId ∧
      CaseStep (h.table.get? caseId) ((h.apply policy appEnv call).table.get? caseId) := by
  simp only [OutboxHistory.Sound, hget] at hs
  simp only [OutboxHistory.Sound, OutboxHistory.apply, htable, Dict.get?_set, if_true, hget]
  exact ⟨hsound hs, hstep⟩

/-- A call that raised records nothing. -/
theorem OutboxCall.records_of_error {table : OutboxTable} {call : OutboxCall caseId} {e : Failure}
    (hres : (call.exec policy appEnv table).1 = .error e) :
    call.records policy appEnv table = false := by
  have hno : ¬ (call.exec policy appEnv table).1.Returns := by
    rintro ⟨a, ha⟩
    rw [hres] at ha
    cases ha
  simp [OutboxCall.records, hno]

/-- **One call** keeps the invariant of its case and takes one step of its row. -/
theorem OutboxHistory.sound_apply
    (hlimit : resolveMaxRetryAttempts policy appEnv = .ok (m : Int))
    (call : OutboxCall caseId) (hs : h.Sound m caseId) :
    (h.apply policy appEnv call).Sound m caseId ∧
      CaseStep (h.table.get? caseId) ((h.apply policy appEnv call).table.get? caseId) := by
  cases call with
  | insertPendingObject confirmed now =>
    obtain ⟨confirmed, rfl⟩ := confirmed
    have hrec : OutboxCall.records policy appEnv h.table
        (.insertPendingObject ⟨confirmed, rfl⟩ now) = false := rfl
    rcases insertPendingObject_cases h.table confirmed now with
      ⟨e, hcall⟩ | ⟨row, -, -, -, hcall⟩ | ⟨t, hget, -, hcall⟩
    · exact sound_idle (congrArg Prod.snd hcall) hrec hs
    · exact sound_idle (congrArg Prod.snd hcall) hrec hs
    · -- a new row, before any outcome
      have htable := congrArg Prod.snd hcall
      simp only [OutboxHistory.Sound, hget] at hs
      simp only [OutboxHistory.Sound, OutboxHistory.apply, OutboxCall.exec, htable, hrec,
        Dict.get?_set, if_true, hget, hs]
      exact ⟨rowSound_pending m confirmed t, rfl⟩
  | transitionToReady now =>
    have hrec : OutboxCall.records policy appEnv h.table
        (.transitionToReady now : OutboxCall caseId) = false := rfl
    rcases transition_cases (fun _ => [.pendingObject]) markOutboxRecordReady
      (fun row now next hmark => by simp [(markOutboxRecordReady_ok hmark).1])
      h.table caseId now .ready with ⟨e, hcall⟩ | ⟨row, -, -, hcall⟩ | ⟨row, next, t, hget, -, hmark, hcall⟩
    · exact sound_idle (congrArg Prod.snd hcall) hrec hs
    · exact sound_idle (congrArg Prod.snd hcall) hrec hs
    · obtain ⟨hstep, hsound⟩ := rowStep_of_ready hmark
      exact sound_replace hget (congrArg Prod.snd hcall) hstep (by rw [hrec]; exact hsound) hs
  | transitionToSent now =>
    rcases transition_cases (fun current => [current.status]) markOutboxRecordSent
      (fun row now next _ => List.mem_singleton_self _)
      h.table caseId now .sent with ⟨e, hcall⟩ | ⟨row, hget, htarget, hcall⟩ | ⟨row, next, t, hget, -, hmark, hcall⟩
    · exact sound_idle (congrArg Prod.snd hcall)
        (OutboxCall.records_of_error (congrArg Prod.fst hcall)) hs
    · exact sound_idle (congrArg Prod.snd hcall)
        (by simp [OutboxCall.records, hget, htarget, OutboxState.awaitsPublish]) hs
    · obtain ⟨hstep, hopen, hsound⟩ := rowStep_of_sent hmark
      have hrec : OutboxCall.records policy appEnv h.table
          (.transitionToSent now : OutboxCall caseId) = true := by
        simp [OutboxCall.records, OutboxCall.isPublishOutcome, hget, hopen,
          show ((.transitionToSent now : OutboxCall caseId).exec policy appEnv
            h.table).1.Returns from ⟨_, congrArg Prod.fst hcall⟩]
      exact sound_replace hget (congrArg Prod.snd hcall) hstep (by rw [hrec]; exact hsound) hs
  | transitionPublishFailure error now =>
    rcases transition_cases (fun current => [current.status])
      (fun record now => markOutboxRecordPublishFailure record policy appEnv error now)
      (fun row now next _ => List.mem_singleton_self _)
      h.table caseId now .dead with ⟨e, hcall⟩ | ⟨row, hget, htarget, hcall⟩ | ⟨row, next, t, hget, -, hmark, hcall⟩
    · exact sound_idle (congrArg Prod.snd hcall)
        (OutboxCall.records_of_error (congrArg Prod.fst hcall)) hs
    · exact sound_idle (congrArg Prod.snd hcall)
        (by simp [OutboxCall.records, hget, htarget, OutboxState.awaitsPublish]) hs
    · obtain ⟨hstep, hopen, hsound⟩ := rowStep_of_failure hlimit hmark
      have hrec : OutboxCall.records policy appEnv h.table
          (.transitionPublishFailure error now : OutboxCall caseId) = true := by
        simp [OutboxCall.records, OutboxCall.isPublishOutcome, hget, hopen,
          show ((.transitionPublishFailure error now : OutboxCall caseId).exec policy
            appEnv h.table).1.Returns from ⟨_, congrArg Prod.fst hcall⟩]
      exact sound_replace hget (congrArg Prod.snd hcall) hstep (by rw [hrec]; exact hsound) hs

/-- **Run**: every sequence of calls keeps the invariant of its case and what the
row is identified by. -/
theorem OutboxHistory.sound_after
    (hlimit : resolveMaxRetryAttempts policy appEnv = .ok (m : Int))
    (calls : List (OutboxCall caseId)) (hs : h.Sound m caseId) :
    (calls.foldl (OutboxHistory.apply policy appEnv) h).Sound m caseId ∧
      CaseKept (h.table.get? caseId)
        ((calls.foldl (OutboxHistory.apply policy appEnv) h).table.get? caseId) := by
  induction calls using List.reverseRecOn with
  | nil => exact ⟨hs, .refl _⟩
  | append_singleton calls call ih =>
    rw [List.foldl_append]
    obtain ⟨hsound, hstep⟩ := sound_apply hlimit call ih.1
    exact ⟨hsound, ih.2.step hstep⟩

/-- **Life of an outbox row.** From a table without a row of the case, after any
calls on the case under a policy with `m ≥ 0` retries in the environment: the row is
sound, the next call takes one step of it, and whatever calls follow keep what
identifies it, never set its time back, only move it along the edges and never
change it once it is `SENT` or `DEAD`. -/
theorem outbox_row_lifecycle {retention : OutboxRetentionPolicy}
    (hretention : policy.retentionByEnv.get? appEnv = some retention)
    (hm : retention.maxRetryAttempts = (m : Int)) (table : OutboxTable)
    (habsent : table.get? caseId = none) (calls later : List (OutboxCall caseId))
    (call : OutboxCall caseId) :
    (∀ row, (OutboxHistory.after policy appEnv table calls).table.get? caseId = some row →
        RowSound m (OutboxHistory.after policy appEnv table calls).outcomes row) ∧
      CaseStep ((OutboxHistory.after policy appEnv table calls).table.get? caseId)
        ((OutboxHistory.after policy appEnv table (calls ++ [call])).table.get? caseId) ∧
      CaseKept ((OutboxHistory.after policy appEnv table calls).table.get? caseId)
        ((OutboxHistory.after policy appEnv table (calls ++ later)).table.get? caseId) := by
  have hlimit : resolveMaxRetryAttempts policy appEnv = .ok (m : Int) := by
    rw [resolveMaxRetryAttempts, hretention, ← hm]
  have hstart : OutboxHistory.Sound m caseId ⟨table, 0⟩ := by
    simp only [OutboxHistory.Sound, habsent]
  obtain ⟨hsound, -⟩ := OutboxHistory.sound_after hlimit calls hstart
  refine ⟨?_, ?_, ?_⟩
  · intro row hrow
    simp only [OutboxHistory.Sound] at hsound
    rw [OutboxHistory.after] at hrow ⊢
    rw [hrow] at hsound
    exact hsound
  · rw [OutboxHistory.after, OutboxHistory.after, List.foldl_append]
    exact (OutboxHistory.sound_apply hlimit call hsound).2
  · rw [OutboxHistory.after, OutboxHistory.after, List.foldl_append]
    exact (OutboxHistory.sound_after hlimit later hsound).2

end Runs

/-- A confirmed casefile of the case `case-1`. -/
def confirmedCase1 : OutboxReadyCasefileV1 where
  caseId := "case-1"
  objectPath := "cases/case-1/triage.json"
  triageHash := "f6d304727ae32b352e1b3e1158af3a638532184c9e9f20a9d403ea02d7095072"
  caseId_ne := by decide
  objectPath_ok := by decide
  triageHash_ok := by decide

theorem confirmedCase1_caseId : confirmedCase1.caseId = "case-1" := rfl

/-- A platform with the digest that decides the first retry delay of `case-1`. -/
@[reducible] def case1Platform : Platform := asciiPlatform
  [(.utf8 "case-1:1", "f6d304727ae32b352e1b3e1158af3a638532184c9e9f20a9d403ea02d7095072")]

/-- Inserted, handed off and failed once, `case-1` is `RETRY` with one attempt, due
26 seconds later. -/
def callsCase1 : List (OutboxCall "case-1") :=
  [.insertPendingObject ⟨confirmedCase1, confirmedCase1_caseId⟩ (.aware newYear2026),
    .transitionToReady (.aware (newYear2026 - 5)),
    .transitionPublishFailure ⟨"broker down", none⟩ (.aware newYear2026)]

/-- The row at the end of that run. -/
def retryCase1 : OutboxRecord :=
  retryRecord (readyRecord (createPendingOutboxRecord confirmedCase1 newYear2026) newYear2026)
    ⟨"broker down", none⟩ newYear2026 (newYear2026 + 26000000)

/-- The lifecycle at that run: the row is sound, with one outcome. -/
theorem outbox_row_lifecycle_case1 :
    (@OutboxHistory.after case1Platform outboxPolicyV1 "prod" "case-1" .empty
      callsCase1).table.get? "case-1" = some retryCase1 ∧ RowSound 5 1 retryCase1 := by
  have hend : ∀ h, h = @OutboxHistory.after case1Platform outboxPolicyV1 "prod" "case-1" .empty
      callsCase1 → h.table.get? "case-1" = some retryCase1 ∧ h.outcomes = 1 := by
    rintro h rfl
    decide +kernel
  obtain ⟨hrow, hone⟩ := hend _ rfl
  have hrun := @outbox_row_lifecycle case1Platform outboxPolicyV1 "prod" "case-1" 5 ⟨5⟩ rfl rfl
    .empty rfl callsCase1 [] (.transitionToReady (.aware newYear2026))
  have hsound := hrun.1 retryCase1 hrow
  rw [hone] at hsound
  exact ⟨hrow, hsound⟩

end AiopsTriage
