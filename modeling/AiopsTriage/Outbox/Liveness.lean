import AiopsTriage.Lib.BatchService
import AiopsTriage.Outbox.Worker

/-!
# Outbox liveness

`run_forever` polls the table again and again. While nobody else writes to the table, a poll never
raises, whatever comes of publishing: the row of each record it has selected takes one attempt
(`Attempted`), and the other rows stay as they are (`Polled`).

A failed row is due again after `maxRetryDelay` at most, so a poll that comes this long after
another one finds every row due that waited then, and takes the longest unchanged ones. That makes
a window of polls a fair round of a batch server, whose work are the attempts that the rows have
left: after enough windows every row is `SENT` or `DEAD` (`run_forever_settles`). The polls in
between, their times and their outcomes do not matter.
-/

namespace AiopsTriage

/-! ## Rows that can be served -/

/-- The longest retry delay: 900 s and its jitter window. -/
def maxRetryDelay : Int := 1080 * 1000000

/-- The largest value of an integer column. -/
def maxInteger : Nat := 2147483647

/-- An error that fits its columns. -/
def PublishError.Storable (error : PublishError) : Prop :=
  error.code.all (fitsVarchar 255) = true ∧ error.message.toList.contains '\x00' = false

/-- A row of a case, as the worker needs it at `t`, under the retry bound `m`. -/
structure Serviceable (m : Nat) (t : Instant) (caseId : String) (row : OutboxRecord) : Prop where
  /-- it stands under its own case -/
  caseId_eq : row.caseId = caseId
  /-- it reads back -/
  readable : rowToRecord row = .ok row
  /-- it fits its columns -/
  fits : columnsFit row = true
  /-- a row that is not settled has an attempt left -/
  attempts : row.status.isFinal = false → row.deliveryAttempts ≤ m
  /-- it was not changed later -/
  stamped : row.updatedAt ≤ t
  /-- it is due in time -/
  due : ∀ d ∈ row.nextAttemptAt, d ≤ t + maxRetryDelay

/-- All rows of a table are. -/
def ServiceableTable (m : Nat) (t : Instant) (table : OutboxTable) : Prop :=
  ∀ caseId row, table.get? caseId = some row → Serviceable m t caseId row

theorem Serviceable.mono {m : Nat} {t u : Instant} {caseId : String} {row : OutboxRecord}
    (h : Serviceable m t caseId row) (hle : t ≤ u) : Serviceable m u caseId row where
  caseId_eq := h.caseId_eq
  readable := h.readable
  fits := h.fits
  attempts := h.attempts
  stamped := h.stamped.trans hle
  due d hd := (h.due d hd).trans (add_le_add_left hle maxRetryDelay)

theorem ServiceableTable.mono {m : Nat} {t u : Instant} {table : OutboxTable}
    (h : ServiceableTable m t table) (hle : t ≤ u) : ServiceableTable m u table :=
  fun caseId row hget => (h caseId row hget).mono hle

/-- The attempts that a row may still take. -/
def OutboxRecord.attemptsLeft (m : Nat) (row : OutboxRecord) : Nat :=
  if row.status.awaitsPublish then m + 1 - row.deliveryAttempts else 0

/-- The attempts that the row of a case may still take. -/
def OutboxTable.attemptsLeft (m : Nat) (table : OutboxTable) (caseId : String) : Nat :=
  (table.get? caseId).elim 0 (OutboxRecord.attemptsLeft m)

/-- What one attempt makes of a row at `t`. -/
structure Attempted (m : Nat) (t : Instant) (outcome : PublishOutcome)
    (row next : OutboxRecord) : Prop where
  /-- the row can be served again -/
  serviceable : ∀ u, t ≤ u → Serviceable m u row.caseId row → Serviceable m u row.caseId next
  /-- with an attempt less -/
  less : next.attemptsLeft m < row.attemptsLeft m
  /-- it has the time of the attempt, or its own -/
  stamped : next.updatedAt = max t row.updatedAt
  /-- it is `SENT` exactly when it was published -/
  sent_iff : next.status = .sent ↔ outcome = .published
  /-- it is never handed back -/
  not_pending : next.status ≠ .pendingObject

/-- A row that waits is not settled. -/
theorem OutboxState.isFinal_of_awaitsPublish {status : OutboxState}
    (h : status.awaitsPublish = true) : status.isFinal = false := by
  cases status with
  | ready => rfl
  | retry => rfl
  | pendingObject => cases h
  | sent => cases h
  | dead => cases h

/-- A row that waits has an attempt left. -/
theorem Serviceable.attemptsLeft_pos {m : Nat} {t : Instant} {caseId : String}
    {row : OutboxRecord} (h : Serviceable m t caseId row) :
    0 < row.attemptsLeft m ↔ row.status.awaitsPublish = true := by
  unfold OutboxRecord.attemptsLeft
  by_cases hwaits : row.status.awaitsPublish = true
  · have hattempts := h.attempts (OutboxState.isFinal_of_awaitsPublish hwaits)
    rw [if_pos hwaits]
    exact iff_of_true (by omega) hwaits
  · rw [if_neg hwaits]
    exact iff_of_false (lt_irrefl 0) hwaits

/-- A row with no attempt left does not wait. -/
theorem Serviceable.awaitsPublish_eq_false {m : Nat} {t : Instant} {caseId : String}
    {row : OutboxRecord} (h : Serviceable m t caseId row) (hzero : row.attemptsLeft m = 0) :
    row.status.awaitsPublish = false := by
  rw [← Bool.not_eq_true, ← h.attemptsLeft_pos, hzero]
  exact lt_irrefl 0

/-! ## One attempt -/

/-- The clock of a transition: that of the call, or of the row. -/
theorem resolveTransitionNow_aware (row : OutboxRecord) (t : Instant) :
    resolveTransitionNow row (.aware t) = .ok (max t row.updatedAt) := by
  simp only [resolveTransitionNow, resolveNow, Except.ok_bind, Except.pure_eq_ok]
  split
  · next hlt => rw [max_eq_right hlt.le]
  · next hle => rw [max_eq_left (not_lt.mp hle)]

/-- The default delay is no longer than `maxRetryDelay`. -/
theorem computeRetryDelaySeconds_le [Platform] (caseId : String) {n : Nat} (hn : n ≠ 0) :
    ∃ delay : Nat, computeRetryDelaySeconds caseId n = .ok delay ∧
      (1000000 * delay : Int) ≤ maxRetryDelay := by
  unfold computeRetryDelaySeconds
  rw [if_neg hn]
  refine ⟨_, rfl, ?_⟩
  have hexp : min (30 * 2 ^ (n - 1)) 900 ≤ 900 := min_le_right _ _
  have hfloor : ⌊((min (30 * 2 ^ (n - 1)) 900 : Nat) : ℚ) * (1 / 5)⌋ ≤ 180 := by
    have hcast : ((min (30 * 2 ^ (n - 1)) 900 : Nat) : ℚ) ≤ 900 := by exact_mod_cast hexp
    have hle : ((min (30 * 2 ^ (n - 1)) 900 : Nat) : ℚ) * (1 / 5) ≤ 180 := by linarith
    exact Int.floor_le_iff.mpr (hle.trans_lt (by norm_num))
  generalize ⌊((min (30 * 2 ^ (n - 1)) 900 : Nat) : ℚ) * (1 / 5)⌋ = window at hfloor ⊢
  generalize min (30 * 2 ^ (n - 1)) 900 = exponential at hexp ⊢
  have hmod := Nat.mod_lt (digestPrefixNat (Platform.sha256 (.utf8 s!"{caseId}:{n}")))
    (show 0 < 2 * max 1 window.toNat + 1 by omega)
  simp only [maxRetryDelay]
  omega

/-- A transition call on a row that can make it. -/
theorem transition_of_mark {expected : OutboxRecord → List OutboxState}
    {mark : OutboxRecord → DateTime → Except Failure OutboxRecord} {table : OutboxTable}
    {caseId : String} {row next : OutboxRecord} {t : Instant} {target : OutboxState}
    (hget : table.get? caseId = some row) (hread : rowToRecord row = .ok row)
    (hopen : row.status ≠ target) (hmark : mark row (.aware t) = .ok next)
    (hexpected : row.status ∈ expected row) (hfit : columnsFit (row.update next) = true)
    (hvalid : rowToRecord (row.update next) = .ok (row.update next)) :
    transition table caseId (.aware t) target expected mark =
      (.ok (row.update next), table.set caseId (row.update next)) := by
  have hrow : requireByCaseId table caseId = .ok row := by
    rw [requireByCaseId, hget]
    exact hread
  have hguard : (table.get? caseId).filter (fun row' => row'.status ∈ expected row) =
      some row := by
    rw [hget, Option.filter_some, if_pos (decide_eq_true hexpected)]
  have hplan : planFrom target expected (mark · (.aware t)) row =
      .ok (.write (expected row) next) := by
    rw [planFrom, if_neg hopen, hmark]
    rfl
  simp [transition, callAt, resolveNow, hrow, hplan, applyPlan, writeTransition, hguard, raiseIf,
    hfit, hvalid, runTx, pure, Except.pure]

/-- What a transition writes for one attempt at `now`. -/
structure OutboxRecord.Attempt (m : Nat) (now : Instant) (outcome : PublishOutcome)
    (row next : OutboxRecord) : Prop where
  /-- one more attempt is counted -/
  attempts : next.deliveryAttempts = row.deliveryAttempts + 1
  /-- the error code fits -/
  code : next.lastErrorCode.all (fitsVarchar 255) = true
  /-- the error text fits -/
  message : (next.lastErrorMessage.all fun m => !m.toList.contains '\x00') = true
  /-- it has the time of the attempt -/
  stamped : next.updatedAt = max now row.updatedAt
  /-- a row that is not settled by it has an attempt left -/
  bound : next.status.isFinal = false → row.deliveryAttempts + 1 ≤ m
  /-- it is due in time -/
  due : ∀ d ∈ next.nextAttemptAt, d ≤ max now row.updatedAt + maxRetryDelay
  /-- it is `SENT` exactly when it was published -/
  sent_iff : next.status = .sent ↔ outcome = .published
  /-- it is never handed back -/
  not_pending : next.status ≠ .pendingObject

/-- A row that is rewritten for an attempt fits, reads back, and can be served again. -/
theorem OutboxRecord.Attempt.attempted {m : Nat} {now t : Instant} {outcome : PublishOutcome}
    {row next : OutboxRecord} (h : row.Attempt m now outcome next)
    (hrow : Serviceable m t row.caseId row) (hwaits : row.status.awaitsPublish = true)
    (hm : m + 1 ≤ maxInteger) :
    columnsFit (row.update next) = true ∧ rowToRecord (row.update next) = .ok (row.update next) ∧
      Attempted m now outcome row (row.update next) := by
  obtain ⟨hid, hpath, hhash, htime⟩ := rowToRecord_returns.mp hrow.readable
  have hbound := hrow.attempts (OutboxState.isFinal_of_awaitsPublish hwaits)
  have hinteger : next.deliveryAttempts ≤ 2147483647 := by
    rw [h.attempts]
    exact le_trans (by omega) hm
  have hfit : columnsFit (row.update next) = true := by
    have hfits := hrow.fits
    simp only [columnsFit, OutboxRecord.update, Bool.and_eq_true] at hfits ⊢
    exact ⟨⟨⟨hfits.1.1.1, decide_eq_true hinteger⟩, h.code⟩, h.message⟩
  have hlater : row.updatedAt ≤ next.updatedAt := h.stamped ▸ le_max_right _ _
  have hvalid : rowToRecord (row.update next) = .ok (row.update next) :=
    rowToRecord_returns.mpr ⟨hid, hpath, hhash, htime.trans hlater⟩
  refine ⟨hfit, hvalid, ?_, ?_, h.stamped, h.sent_iff, h.not_pending⟩
  · intro u hu hserviceable
    have hstamped : max now row.updatedAt ≤ u := max_le hu hserviceable.stamped
    exact
      { caseId_eq := rfl
        readable := hvalid
        fits := hfit
        attempts := fun hagain => h.attempts ▸ h.bound hagain
        stamped := h.stamped ▸ hstamped
        due := fun d hd => (h.due d hd).trans (add_le_add_left hstamped maxRetryDelay) }
  · have hnext : (row.update next).attemptsLeft m =
        if next.status.awaitsPublish then m + 1 - next.deliveryAttempts else 0 := rfl
    rw [hnext, OutboxRecord.attemptsLeft, if_pos hwaits, h.attempts]
    split
    · next hagain =>
      have hleft := h.bound (OutboxState.isFinal_of_awaitsPublish hagain)
      omega
    · omega

/-- A row waits for a publish in two statuses. -/
theorem awaitsPublish_iff {status : OutboxState} :
    status.awaitsPublish = true ↔ status = .ready ∨ status = .retry := by
  cases status <;> simp [OutboxState.awaitsPublish]

/-- What is due waits. -/
theorem awaitsPublish_of_isPublishable {now : Instant} {row : OutboxRecord}
    (h : isPublishable now row = true) : row.status.awaitsPublish = true := by
  rw [isPublishable, Bool.or_eq_true, Bool.and_eq_true, decide_eq_true_eq, decide_eq_true_eq] at h
  exact awaitsPublish_iff.mpr (h.imp id And.left)

section Attempt

variable [Platform] {w : OutboxWorker} {m : Nat} {table : OutboxTable} {record : OutboxRecord}
  {now t : Instant}

variable (m now) in
omit [Platform] in
/-- The record of a publish. -/
theorem markOutboxRecordSent_attempt (hwaits : record.status.awaitsPublish = true) :
    ∃ next, markOutboxRecordSent record (.aware now) = .ok next ∧
      record.Attempt m now .published next := by
  refine ⟨sentRecord record (max now record.updatedAt), ?_, ?_⟩
  · rcases awaitsPublish_iff.mp hwaits with h | h <;>
      simp [markOutboxRecordSent, raiseIf, h, resolveTransitionNow_aware, pure, Except.pure]
  · exact
      { attempts := rfl
        code := rfl
        message := rfl
        stamped := rfl
        bound := fun h => by simp [sentRecord, OutboxState.isFinal] at h
        due := fun d hd => by simp [sentRecord] at hd
        sent_iff := iff_of_true rfl rfl
        not_pending := fun h => by cases h }

variable (now) in
/-- The record of a publish that failed. -/
theorem markOutboxRecordPublishFailure_attempt {error : PublishError}
    (hwaits : record.status.awaitsPublish = true)
    (hlimit : resolveMaxRetryAttempts w.policy w.appEnv = .ok (m : Int))
    (hstorable : error.Storable) (hlast : max now record.updatedAt + maxRetryDelay ≤ maxInstant) :
    ∃ next, markOutboxRecordPublishFailure record w.policy w.appEnv error (.aware now) = .ok next ∧
      record.Attempt m now (.raised error) next := by
  have hopen : ¬(record.status ≠ .ready ∧ record.status ≠ .retry) := by
    rcases awaitsPublish_iff.mp hwaits with h | h <;> simp [h]
  have hmessage : ((some error.message).all fun m => !m.toList.contains '\x00') = true := by
    rw [Option.all_some, hstorable.2, Bool.not_false]
  have hnext : record.deliveryAttempts + 1 ≠ 0 := Nat.succ_ne_zero _
  obtain ⟨delay, hdelay, hle⟩ := computeRetryDelaySeconds_le record.caseId hnext
  have hwithin := add_le_add_right hle (max now record.updatedAt)
  have hdue : addSeconds (max now record.updatedAt) delay =
      .ok (max now record.updatedAt + 1000000 * delay) := if_pos (hwithin.trans hlast)
  by_cases hdead : (m : Int) < record.deliveryAttempts + 1
  · refine ⟨deadRecord record error (max now record.updatedAt), ?_, ?_⟩
    · simp only [markOutboxRecordPublishFailure, raiseIf, if_neg hopen, resolveTransitionNow_aware,
        hlimit, if_pos hdead, Except.ok_bind, pure, Except.pure]
    · exact
        { attempts := rfl
          code := hstorable.1
          message := hmessage
          stamped := rfl
          bound := fun h => by simp [deadRecord, OutboxState.isFinal] at h
          due := fun d hd => by simp [deadRecord] at hd
          sent_iff := iff_of_false (fun h => by cases h) (fun h => by cases h)
          not_pending := fun h => by cases h }
  · refine ⟨retryRecord record error (max now record.updatedAt)
      (max now record.updatedAt + 1000000 * delay), ?_, ?_⟩
    · simp only [markOutboxRecordPublishFailure, raiseIf, if_neg hopen, resolveTransitionNow_aware,
        hlimit, if_neg hdead, hdelay, hdue, Except.ok_bind, pure, Except.pure]
    · exact
        { attempts := rfl
          code := hstorable.1
          message := hmessage
          stamped := rfl
          bound := fun _ => by omega
          due := fun d hd => Option.some.inj hd ▸ hwithin
          sent_iff := iff_of_false (fun h => by cases h) (fun h => by cases h)
          not_pending := fun h => by cases h }

/-- The turns of a worker while nobody else writes to the table. -/
def quietTurn (outcomeOf : OutboxRecord → PublishOutcome) (record : OutboxRecord) : Turn :=
  ⟨outcomeOf record, id, id⟩

/-- What the worker is sure of under the retry bound `m`: its policy has this bound, and the
counter of a row can hold it. -/
structure OutboxWorker.Bounded (w : OutboxWorker) (m : Nat) : Prop where
  /-- the bound of the policy -/
  limit : resolveMaxRetryAttempts w.policy w.appEnv = .ok (m : Int)
  /-- it fits the column -/
  fits : m + 1 ≤ maxInteger

/-- **One record**, while nobody else is at work: its row takes one attempt. -/
theorem OutboxWorker.processRecord_quiet (hw : w.Bounded m)
    {outcomeOf : OutboxRecord → PublishOutcome} (hget : table.get? record.caseId = some record)
    (hrow : Serviceable m t record.caseId record) (hwaits : record.status.awaitsPublish = true)
    (hstorable : ∀ error, outcomeOf record = .raised error → error.Storable)
    (hlast : max now record.updatedAt + maxRetryDelay ≤ maxInstant) :
    ∃ sent next, w.processRecord now (quietTurn outcomeOf) table record =
        (.ok sent, table.set record.caseId next) ∧
      Attempted m now (outcomeOf record) record next := by
  have hopen : record.status ≠ .sent ∧ record.status ≠ .dead := by
    rcases awaitsPublish_iff.mp hwaits with h | h <;> rw [h] <;> decide
  cases houtcome : outcomeOf record with
  | published =>
    obtain ⟨next, hmark, hattempt⟩ := markOutboxRecordSent_attempt m now hwaits
    obtain ⟨hfit, hvalid, hattempted⟩ := hattempt.attempted hrow hwaits hw.fits
    have hcall : transitionToSent table record.caseId (.aware now) = _ :=
      transition_of_mark hget hrow.readable hopen.1 hmark (List.mem_singleton_self _) hfit hvalid
    refine ⟨true, _, ?_, hattempted⟩
    simp only [processRecord, quietTurn, houtcome, id_eq, hcall]
  | raised error =>
    obtain ⟨next, hmark, hattempt⟩ := markOutboxRecordPublishFailure_attempt now hwaits
      hw.limit (hstorable error houtcome) hlast
    obtain ⟨hfit, hvalid, hattempted⟩ := hattempt.attempted hrow hwaits hw.fits
    have hcall : transitionPublishFailure table record.caseId w.policy w.appEnv error
        (.aware now) = _ :=
      transition_of_mark hget hrow.readable hopen.2 hmark (List.mem_singleton_self _) hfit hvalid
    refine ⟨false, _, ?_, hattempted⟩
    simp only [processRecord, quietTurn, houtcome, id_eq, recordFailure, hcall]

/-- **A batch** of distinct rows that can be served: no turn raises, each row takes one attempt,
and the others stay. -/
theorem OutboxWorker.processBatch_quiet (hw : w.Bounded m)
    {outcomeOf : OutboxRecord → PublishOutcome} {batch : List OutboxRecord}
    (hnodup : (batch.map OutboxRecord.caseId).Nodup)
    (hbatch : ∀ record ∈ batch, table.get? record.caseId = some record ∧
      Serviceable m t record.caseId record ∧ record.status.awaitsPublish = true)
    (hstorable : ∀ record error, outcomeOf record = .raised error → error.Storable)
    (hlast : max now t + maxRetryDelay ≤ maxInstant) :
    (w.processBatch now (quietTurn outcomeOf) table batch).raised = none ∧
      (∀ record ∈ batch, ∃ next,
        (w.processBatch now (quietTurn outcomeOf) table batch).table.get? record.caseId = some next ∧
          Attempted m now (outcomeOf record) record next) ∧
      ∀ caseId, caseId ∉ batch.map OutboxRecord.caseId →
        (w.processBatch now (quietTurn outcomeOf) table batch).table.get? caseId =
          table.get? caseId := by
  induction batch generalizing table with
  | nil => exact ⟨rfl, fun record hrecord => absurd hrecord List.not_mem_nil, fun _ _ => rfl⟩
  | cons record records ih =>
    obtain ⟨hfresh, hnodup⟩ := List.nodup_cons.mp hnodup
    obtain ⟨hget, hrow, hwaits⟩ := hbatch record List.mem_cons_self
    have hown : max now record.updatedAt + maxRetryDelay ≤ maxInstant :=
      (add_le_add_left (max_le_max_left now hrow.stamped) maxRetryDelay).trans hlast
    obtain ⟨sent, next, hcall, hattempted⟩ :=
      processRecord_quiet hw hget hrow hwaits (hstorable record) hown
    -- the later records still have the rows they were selected with
    have hrest : ∀ later ∈ records, (table.set record.caseId next).get? later.caseId = some later ∧
        Serviceable m t later.caseId later ∧ later.status.awaitsPublish = true := by
      intro later hlater
      have hne : record.caseId ≠ later.caseId := fun heq =>
        hfresh (heq ▸ List.mem_map_of_mem hlater)
      obtain ⟨hget', hrow', hwaits'⟩ := hbatch later (List.mem_cons_of_mem record hlater)
      exact ⟨by rw [Dict.get?_set, if_neg hne, hget'], hrow', hwaits'⟩
    obtain ⟨hraised, hlater, hkept⟩ := ih hnodup hrest
    simp only [processBatch, hcall]
    refine ⟨hraised, fun r hr => ?_, fun caseId hcase => ?_⟩
    · rcases List.mem_cons.mp hr with rfl | hr
      · exact ⟨next, by rw [hkept _ hfresh, Dict.get?_set, if_pos rfl], hattempted⟩
      · exact hlater r hr
    · rw [List.map_cons, List.mem_cons, not_or] at hcase
      rw [hkept caseId hcase.2, Dict.get?_set, if_neg (Ne.symm hcase.1)]

end Attempt

/-! ## One poll -/

/-- The rows a poll takes: those that are due, the longest unchanged first. -/
def OutboxTable.dueBatch (table : OutboxTable) (now : Instant) (limit : Nat) :
    List OutboxRecord :=
  (((table.entries.map Prod.snd).filter (isPublishable now)).sortByKey
    OutboxRecord.updatedAt).take limit

section DueBatch

variable {table : OutboxTable} {now t : Instant} {m limit : Nat}

/-- A row of the batch is in the table, and due. -/
theorem mem_of_mem_dueBatch {row : OutboxRecord} (h : row ∈ table.dueBatch now limit) :
    (∃ caseId, table.get? caseId = some row) ∧ isPublishable now row = true := by
  obtain ⟨hrow, hdue⟩ := List.mem_filter.mp
    ((List.mem_insertionSort _).mp (List.mem_of_mem_take h))
  obtain ⟨e, he, rfl⟩ := List.mem_map.mp hrow
  exact ⟨⟨e.1, Dict.get?_eq_some.mpr he⟩, hdue⟩

/-- A due row that is not in the batch has been left for others that come no later. -/
theorem mem_dueBatch_or {caseId : String} {row : OutboxRecord}
    (hget : table.get? caseId = some row) (hdue : isPublishable now row = true) :
    row ∈ table.dueBatch now limit ∨ (table.dueBatch now limit).length = limit ∧
      ∀ other ∈ table.dueBatch now limit, other.updatedAt ≤ row.updatedAt := by
  have hrow : row ∈ table.entries.map Prod.snd :=
    List.mem_map.mpr ⟨(caseId, row), Dict.get?_eq_some.mp hget, rfl⟩
  exact List.mem_take_sortByKey limit (List.mem_filter.mpr ⟨hrow, hdue⟩)

/-- The cases of a batch are distinct. -/
theorem nodup_dueBatch (htable : ServiceableTable m t table) :
    ((table.dueBatch now limit).map OutboxRecord.caseId).Nodup := by
  have hkeys : (table.entries.map Prod.snd).map OutboxRecord.caseId = table.keys := by
    rw [List.map_map]
    refine List.map_congr_left fun e he => ?_
    exact (htable e.1 e.2 (Dict.get?_eq_some.mpr he)).caseId_eq
  have hall : ((table.entries.map Prod.snd).map OutboxRecord.caseId).Nodup := by
    rw [hkeys]
    exact table.nodup
  have hdue : (((table.entries.map Prod.snd).filter (isPublishable now)).map
      OutboxRecord.caseId).Nodup := hall.sublist (List.filter_sublist.map _)
  have hsorted := (((List.perm_insertionSort (fun a b : OutboxRecord => a.updatedAt ≤ b.updatedAt)
    ((table.entries.map Prod.snd).filter (isPublishable now))).map
      OutboxRecord.caseId).nodup_iff).mpr hdue
  exact hsorted.sublist ((List.take_sublist _ _).map _)

/-- The batch is what `select_publishable` returns. -/
theorem selectPublishable_eq (htable : ServiceableTable m t table) :
    selectPublishable table (.aware now) limit = .ok (table.dueBatch now limit) := by
  have hread : (table.dueBatch now limit).mapM rowToRecord = .ok (table.dueBatch now limit) := by
    refine Except.mapM_eq_ok.mpr (List.forall₂_same.mpr fun row hrow => ?_)
    obtain ⟨⟨caseId, hget⟩, -⟩ := mem_of_mem_dueBatch hrow
    exact (htable caseId row hget).readable
  simp only [OutboxTable.dueBatch] at hread
  simp only [selectPublishable, resolveNow, Except.ok_bind, OutboxTable.dueBatch, hread]

end DueBatch

/-- A poll of `run_forever` while nobody else writes to the table. -/
structure Poll where
  /-- its reading of the clock -/
  now : Instant
  /-- what comes of publishing each record -/
  outcomeOf : OutboxRecord → PublishOutcome

/-- The errors of a poll fit their columns. -/
def Poll.Storable (poll : Poll) : Prop :=
  ∀ record error, poll.outcomeOf record = .raised error → error.Storable

/-- What a poll makes of the table. -/
structure Polled (m limit : Nat) (poll : Poll) (table table' : OutboxTable) : Prop where
  /-- each row of the batch takes one attempt -/
  attempted : ∀ record ∈ table.dueBatch poll.now limit, ∃ next,
    table'.get? record.caseId = some next ∧
      Attempted m poll.now (poll.outcomeOf record) record next
  /-- the other rows stay -/
  kept : ∀ caseId, caseId ∉ (table.dueBatch poll.now limit).map OutboxRecord.caseId →
    table'.get? caseId = table.get? caseId

namespace OutboxWorker

variable [Platform] (w : OutboxWorker)

/-- The table that `run_once` leaves. -/
def tableAfter (now : Instant) (turnOf : OutboxRecord → Turn) (table : OutboxTable) :
    OutboxTable :=
  match selectPublishable table (.aware now) w.batchSize with
  | .error _ => table
  | .ok publishable => (w.processBatch now turnOf table publishable).table

/-- `run_forever`, over a number of polls: an exception of `run_once` leaves the loop. -/
def runForever : OutboxTable → List Poll → Except Failure OutboxTable
  | table, [] => .ok table
  | table, poll :: polls =>
    match (w.runOnce poll.now (quietTurn poll.outcomeOf) table).1 with
    | .error e => .error e
    | .ok _ => runForever (w.tableAfter poll.now (quietTurn poll.outcomeOf) table) polls

variable {w} {m : Nat} {t : Instant} {table table' : OutboxTable} {poll : Poll}

/-- **Step lemma**: a poll returns, and serves its batch. -/
theorem poll_quiet (hw : w.Bounded m) (htable : ServiceableTable m t table)
    (hstorable : poll.Storable) (hlast : max poll.now t + maxRetryDelay ≤ maxInstant) :
    (∃ result, w.runOnce poll.now (quietTurn poll.outcomeOf) table =
        (.ok result, table.dueBatch poll.now w.batchSize)) ∧
      Polled m w.batchSize poll table
        (w.tableAfter poll.now (quietTurn poll.outcomeOf) table) := by
  have hbatch : ∀ record ∈ table.dueBatch poll.now w.batchSize,
      table.get? record.caseId = some record ∧ Serviceable m t record.caseId record ∧
        record.status.awaitsPublish = true := by
    intro record hrecord
    obtain ⟨⟨caseId, hget⟩, hdue⟩ := mem_of_mem_dueBatch hrecord
    have hrow := htable caseId record hget
    obtain rfl := hrow.caseId_eq
    exact ⟨hget, hrow, awaitsPublish_of_isPublishable hdue⟩
  obtain ⟨hraised, hattempted, hkept⟩ :=
    processBatch_quiet hw (nodup_dueBatch htable) hbatch hstorable hlast
  have hall := ((processBatch_raised w poll.now (quietTurn poll.outcomeOf) table
    (table.dueBatch poll.now w.batchSize)).2 hraised).1
  simp only [runOnce, tableAfter, selectPublishable_eq htable, hraised, hall]
  exact ⟨⟨_, rfl⟩, hattempted, hkept⟩

omit [Platform] in
/-- What a poll leaves can be served again. -/
theorem serviceableTable_polled {u : Instant} {limit : Nat} (h : Polled m limit poll table table')
    (htable : ServiceableTable m u table) (hnow : poll.now ≤ u) : ServiceableTable m u table' := by
  intro caseId row hget
  by_cases hcase : caseId ∈ (table.dueBatch poll.now limit).map OutboxRecord.caseId
  · obtain ⟨record, hrecord, rfl⟩ := List.mem_map.mp hcase
    obtain ⟨⟨caseId, hget'⟩, -⟩ := mem_of_mem_dueBatch hrecord
    have hrow := htable caseId record hget'
    obtain ⟨next, hnext, hattempted⟩ := h.attempted record hrecord
    obtain rfl := Option.some.inj (hnext.symm.trans hget)
    obtain rfl := hrow.caseId_eq
    exact hattempted.serviceable u hnow hrow
  · rw [h.kept caseId hcase] at hget
    exact htable caseId row hget

end OutboxWorker

/-! ## Progress -/

/-- What polls make of a table: a row stays, or has fewer attempts left than before. -/
def Progress (m : Nat) (table table' : OutboxTable) : Prop :=
  ∀ caseId, table'.get? caseId = table.get? caseId ∨
    ∃ row next, table.get? caseId = some row ∧ table'.get? caseId = some next ∧
      next.attemptsLeft m < row.attemptsLeft m ∧ next.status ≠ .pendingObject

namespace Progress

variable {m limit : Nat} {t : Instant} {a b c table table' : OutboxTable} {poll : Poll}

theorem refl (m : Nat) (table : OutboxTable) : Progress m table table := fun _ => .inl rfl

theorem trans (hab : Progress m a b) (hbc : Progress m b c) : Progress m a c := by
  intro caseId
  rcases hab caseId with hsame | ⟨row, next, hrow, hnext, hless, hopen⟩
  · rw [← hsame]
    exact hbc caseId
  · rcases hbc caseId with hsame' | ⟨row', next', hrow', hnext', hless', hopen'⟩
    · exact .inr ⟨row, next, hrow, hsame'.trans hnext, hless, hopen⟩
    · obtain rfl := Option.some.inj (hnext.symm.trans hrow')
      exact .inr ⟨row, next', hrow, hnext', hless'.trans hless, hopen'⟩

/-- A poll is progress. -/
theorem of_polled (h : Polled m limit poll table table') (htable : ServiceableTable m t table) :
    Progress m table table' := by
  intro caseId
  by_cases hcase : caseId ∈ (table.dueBatch poll.now limit).map OutboxRecord.caseId
  · obtain ⟨record, hrecord, rfl⟩ := List.mem_map.mp hcase
    obtain ⟨⟨caseId, hget⟩, -⟩ := mem_of_mem_dueBatch hrecord
    obtain ⟨next, hnext, hattempted⟩ := h.attempted record hrecord
    obtain rfl := (htable caseId record hget).caseId_eq
    exact .inr ⟨record, next, hget, hnext, hattempted.less, hattempted.not_pending⟩
  · exact .inl (h.kept caseId hcase)

/-- No case gets more attempts. -/
theorem attemptsLeft_le (h : Progress m table table') (caseId : String) :
    table'.attemptsLeft m caseId ≤ table.attemptsLeft m caseId := by
  rcases h caseId with hsame | ⟨row, next, hrow, hnext, hless, -⟩
  · rw [OutboxTable.attemptsLeft, OutboxTable.attemptsLeft, hsame]
  · rw [OutboxTable.attemptsLeft, OutboxTable.attemptsLeft, hrow, hnext]
    exact hless.le

/-- No case gets a row. -/
theorem get?_of_get? (h : Progress m table table') {caseId : String} {row' : OutboxRecord}
    (hget : table'.get? caseId = some row') : ∃ row, table.get? caseId = some row := by
  rcases h caseId with hsame | ⟨row, -, hrow, -⟩
  · exact ⟨row', hsame ▸ hget⟩
  · exact ⟨row, hrow⟩

end Progress

/-! ## Windows -/

/-- Some polls, and one that closes the window. -/
structure Window where
  /-- the polls before -/
  before : List Poll
  /-- the last one -/
  closing : Poll

/-- The polls of a window. -/
def Window.polls (window : Window) : List Poll := window.before ++ [window.closing]

/-- Each window closes at least `maxRetryDelay` after the one before, and no earlier than its other
polls. -/
def Spaced : Instant → List Window → Prop
  | _, [] => True
  | t, window :: windows => t + maxRetryDelay ≤ window.closing.now ∧
      (∀ poll ∈ window.before, poll.now ≤ window.closing.now) ∧ Spaced window.closing.now windows

namespace OutboxWorker

variable [Platform] {w : OutboxWorker} {m : Nat} {t : Instant} {table : OutboxTable}

theorem runForever_append (polls polls' : List Poll) :
    w.runForever table (polls ++ polls') =
      (w.runForever table polls).bind fun table' => w.runForever table' polls' := by
  induction polls generalizing table with
  | nil => rfl
  | cons poll polls ih =>
    simp only [List.cons_append, runForever]
    split
    · rfl
    · exact ih

/-- Polls that all come before some time. -/
theorem runForever_quiet (hw : w.Bounded m) {polls : List Poll}
    (htable : ServiceableTable m t table) (hpolls : ∀ poll ∈ polls, poll.now ≤ t ∧ poll.Storable)
    (hlast : t + maxRetryDelay ≤ maxInstant) :
    ∃ table', w.runForever table polls = .ok table' ∧ ServiceableTable m t table' ∧
      Progress m table table' := by
  induction polls generalizing table with
  | nil => exact ⟨table, rfl, htable, .refl m table⟩
  | cons poll polls ih =>
    obtain ⟨hnow, hstorable⟩ := hpolls poll List.mem_cons_self
    have hpoll : max poll.now t + maxRetryDelay ≤ maxInstant := by rwa [max_eq_right hnow]
    obtain ⟨⟨result, hresult⟩, hpolled⟩ := poll_quiet hw htable hstorable hpoll
    obtain ⟨table', hrun, htable', hprogress⟩ := ih (serviceableTable_polled hpolled htable hnow)
      fun poll' hpoll' => hpolls poll' (List.mem_cons_of_mem poll hpoll')
    refine ⟨table', ?_, htable', (Progress.of_polled hpolled htable).trans hprogress⟩
    rw [runForever, hresult]
    exact hrun

/-- **A window is a fair round**: when it closes, every row that waited at its start has been
attempted, or as many rows as a batch holds have. -/
theorem runForever_window (hw : w.Bounded m) {window : Window} {jobs : Finset String}
    (htable : ServiceableTable m t table) (hjobs : ∀ caseId row, table.get? caseId = some row →
      caseId ∈ jobs)
    (hstorable : ∀ poll ∈ window.polls, poll.Storable)
    (hspaced : t + maxRetryDelay ≤ window.closing.now)
    (hbefore : ∀ poll ∈ window.before, poll.now ≤ window.closing.now)
    (hlast : window.closing.now + maxRetryDelay ≤ maxInstant) :
    ∃ table' batch, w.runForever table window.polls = .ok table' ∧
      ServiceableTable m window.closing.now table' ∧ Progress m table table' ∧
      BatchService.Round w.batchSize jobs (table.attemptsLeft m) (table'.attemptsLeft m) batch := by
  have hle : t ≤ window.closing.now := le_trans (by simp [maxRetryDelay]) hspaced
  have hstart := htable.mono hle
  obtain ⟨mid, hmid, hmidTable, hfirst⟩ := runForever_quiet hw hstart
    (fun poll hpoll => ⟨hbefore poll hpoll, hstorable poll (List.mem_append_left _ hpoll)⟩) hlast
  have hclosing : window.closing.Storable := hstorable _ (List.mem_append_right _ List.mem_cons_self)
  have hmax : max window.closing.now window.closing.now + maxRetryDelay ≤ maxInstant := by
    rwa [max_self]
  obtain ⟨⟨result, hresult⟩, hpolled⟩ := poll_quiet hw hmidTable hclosing hmax
  generalize hend : w.tableAfter window.closing.now (quietTurn window.closing.outcomeOf) mid =
    table' at hpolled
  have hsecond := Progress.of_polled hpolled hmidTable
  have hall := hfirst.trans hsecond
  refine ⟨table', jobs.filter fun c => table'.attemptsLeft m c < table.attemptsLeft m c, ?_,
    serviceableTable_polled hpolled hmidTable le_rfl, hall, Finset.filter_subset _ _,
    fun c _ => hall.attemptsLeft_le c, fun c hc => (Finset.mem_filter.mp hc).2, ?_⟩
  · rw [Window.polls, runForever_append, hmid]
    simp only [Except.bind, runForever, hresult, hend]
  -- a row of the closing batch has fewer attempts left than at the start
  have hserved : ∀ record ∈ mid.dueBatch window.closing.now w.batchSize,
      record.caseId ∈ jobs.filter fun c => table'.attemptsLeft m c < table.attemptsLeft m c := by
    intro record hrecord
    obtain ⟨⟨caseId, hget⟩, -⟩ := mem_of_mem_dueBatch hrecord
    obtain rfl := (hmidTable caseId record hget).caseId_eq
    obtain ⟨next, hnext, hattempted⟩ := hpolled.attempted record hrecord
    obtain ⟨row, hrow⟩ := hfirst.get?_of_get? hget
    refine Finset.mem_filter.mpr ⟨hjobs _ row hrow, lt_of_lt_of_le ?_
      (hfirst.attemptsLeft_le record.caseId)⟩
    rw [OutboxTable.attemptsLeft, OutboxTable.attemptsLeft, hnext, hget]
    exact hattempted.less
  by_cases hfull : (mid.dueBatch window.closing.now w.batchSize).length = w.batchSize
  · left
    rw [← hfull, ← List.length_map OutboxRecord.caseId,
      ← List.toFinset_card_of_nodup (nodup_dueBatch hmidTable)]
    refine Finset.card_le_card fun c hc => ?_
    obtain ⟨record, hrecord, rfl⟩ := List.mem_map.mp (List.mem_toFinset.mp hc)
    exact hserved record hrecord
  · right
    intro c hc hwaits
    rcases hfirst c with hsame | ⟨row, next, hrow, hnext, hless, -⟩
    · -- not attempted before the window closes, so it is due by then
      rcases hget : table.get? c with _ | row
      · rw [OutboxTable.attemptsLeft, hget] at hwaits
        exact absurd hwaits (lt_irrefl 0)
      · rw [OutboxTable.attemptsLeft, hget] at hwaits
        have hrow := htable c row hget
        have hdue : isPublishable window.closing.now row = true := by
          rcases awaitsPublish_iff.mp (hrow.attemptsLeft_pos.mp hwaits) with hready | hretry
          · simp [isPublishable, hready]
          · cases hd : row.nextAttemptAt with
            | none => simp [isPublishable, hretry, hd]
            | some d =>
              have hnow := (hrow.due d hd).trans hspaced
              simp [isPublishable, hretry, hd, hnow]
        rcases mem_dueBatch_or (hsame.trans hget) hdue with hmem | ⟨hlength, -⟩
        · have hcase := hserved row hmem
          rwa [hrow.caseId_eq] at hcase
        · exact absurd hlength hfull
    · refine Finset.mem_filter.mpr ⟨hc, (hsecond.attemptsLeft_le c).trans_lt ?_⟩
      rw [OutboxTable.attemptsLeft, OutboxTable.attemptsLeft, hrow, hnext]
      exact hless

/-- A run of windows is a run of fair rounds. -/
theorem runForever_windows (hw : w.Bounded m) {windows : List Window} {jobs : Finset String}
    (htable : ServiceableTable m t table) (hjobs : ∀ caseId row, table.get? caseId = some row →
      caseId ∈ jobs)
    (hstorable : ∀ window ∈ windows, ∀ poll ∈ window.polls, poll.Storable)
    (hspaced : Spaced t windows)
    (hlast : ∀ window ∈ windows, window.closing.now + maxRetryDelay ≤ maxInstant) :
    ∃ table' u, w.runForever table (windows.flatMap Window.polls) = .ok table' ∧
      ServiceableTable m u table' ∧ Progress m table table' ∧
      BatchService.Rounds w.batchSize jobs windows.length (table.attemptsLeft m)
        (table'.attemptsLeft m) := by
  induction windows generalizing t table with
  | nil => exact ⟨table, t, rfl, htable, .refl m table, .none _⟩
  | cons window windows ih =>
    obtain ⟨hclose, hbefore, hrest⟩ := hspaced
    obtain ⟨mid, batch, hmid, hmidTable, hfirst, hround⟩ := runForever_window hw htable hjobs
      (hstorable window List.mem_cons_self) hclose hbefore (hlast window List.mem_cons_self)
    have hmidJobs : ∀ caseId row, mid.get? caseId = some row → caseId ∈ jobs := by
      intro caseId row hget
      obtain ⟨row', hrow'⟩ := hfirst.get?_of_get? hget
      exact hjobs caseId row' hrow'
    obtain ⟨table', u, hrun, htable', hsecond, hrounds⟩ := ih hmidTable hmidJobs
      (fun window' h => hstorable window' (List.mem_cons_of_mem window h)) hrest
      fun window' h => hlast window' (List.mem_cons_of_mem window h)
    refine ⟨table', u, ?_, htable', hfirst.trans hsecond, .next hround hrounds⟩
    rw [List.flatMap_cons, runForever_append, hmid]
    exact hrun

/-- **Liveness**: while nobody else writes to the table, `run_forever` never raises, and after
enough windows every row that waited is `SENT` or `DEAD`, whatever comes of each publish. A row
that did not wait is untouched. -/
theorem run_forever_settles (hw : w.Bounded m) {windows : List Window}
    (htable : ServiceableTable m t table)
    (hstorable : ∀ window ∈ windows, ∀ poll ∈ window.polls, poll.Storable)
    (hspaced : Spaced t windows)
    (hlast : ∀ window ∈ windows, window.closing.now + maxRetryDelay ≤ maxInstant)
    (henough : BatchService.potential w.batchSize table.keys.toFinset (table.attemptsLeft m) ≤
      windows.length) :
    ∃ table', w.runForever table (windows.flatMap Window.polls) = .ok table' ∧
      ∀ caseId row, table.get? caseId = some row → ∃ row', table'.get? caseId = some row' ∧
        (row.status.awaitsPublish = true → row'.status = .sent ∨ row'.status = .dead) ∧
        (row.status.awaitsPublish = false → row' = row) := by
  have hjobs : ∀ caseId row, table.get? caseId = some row → caseId ∈ table.keys.toFinset := by
    intro caseId row hget
    exact List.mem_toFinset.mpr (List.mem_map.mpr ⟨_, Dict.get?_eq_some.mp hget, rfl⟩)
  obtain ⟨table', u, hrun, htable', hprogress, hrounds⟩ :=
    runForever_windows hw htable hjobs hstorable hspaced hlast
  refine ⟨table', hrun, fun caseId row hget => ?_⟩
  have hzero := hrounds.done w.batchSize_pos henough caseId (hjobs caseId row hget)
  rcases hprogress caseId with hsame | ⟨row₀, next, hrow₀, hnext, hless, hopen⟩
  · -- a row that stays has no attempt left, so it does not wait
    rw [OutboxTable.attemptsLeft, hsame, hget] at hzero
    have hsettled := (htable caseId row hget).awaitsPublish_eq_false hzero
    exact ⟨row, hsame.trans hget, fun hwaits => (by rw [hsettled] at hwaits; cases hwaits),
      fun _ => rfl⟩
  · obtain rfl := Option.some.inj (hget.symm.trans hrow₀)
    rw [OutboxTable.attemptsLeft, hnext] at hzero
    have hsettled := (htable' caseId next hnext).awaitsPublish_eq_false hzero
    refine ⟨next, hnext, fun _ => ?_, fun hidle => ?_⟩
    · cases hstatus : next.status with
      | pendingObject => exact absurd hstatus hopen
      | ready => simp [hstatus, OutboxState.awaitsPublish] at hsettled
      | retry => simp [hstatus, OutboxState.awaitsPublish] at hsettled
      | sent => exact .inl rfl
      | dead => exact .inr rfl
    · have hwaits := (htable caseId row hget).attemptsLeft_pos.mp (Nat.zero_lt_of_lt hless)
      rw [hidle] at hwaits
      cases hwaits

/-! ## Two rows that settle -/

/-- `case-1` can never be published, `case-2` can. -/
def firstUnpublishable (record : OutboxRecord) : PublishOutcome :=
  if record.caseId = "case-1" then .raised ⟨"timed out", some "TimeoutError"⟩ else .published

/-- Six polls, eighteen minutes apart. -/
def sixWindows : List Window :=
  (List.range 6).map fun (k : Nat) =>
    ⟨[], newYear2026 + (k + 1) * maxRetryDelay, firstUnpublishable⟩

omit [Platform] in
theorem serviceableTable_twoReady : ServiceableTable 5 newYear2026 twoReady := by
  have hentries : twoReady.entries =
      [("case-1", readySince "case-1" "cases/case-1/triage.json"),
        ("case-2", readySince "case-2" "cases/case-2/triage.json")] := by decide +kernel
  intro caseId row hget
  have hrow := Dict.get?_eq_some.mp hget
  rw [hentries] at hrow
  simp only [List.mem_cons, Prod.mk.injEq, List.not_mem_nil, or_false] at hrow
  rcases hrow with ⟨rfl, rfl⟩ | ⟨rfl, rfl⟩
  · exact ⟨rfl, by decide, by decide, fun _ => by decide, le_rfl, fun d hd => by cases hd⟩
  · exact ⟨rfl, by decide, by decide, fun _ => by decide, le_rfl, fun d hd => by cases hd⟩

omit [Platform] in
theorem firstUnpublishable_storable (now : Instant) : Poll.Storable ⟨now, firstUnpublishable⟩ := by
  intro record error hraised
  simp only [firstUnpublishable] at hraised
  split at hraised
  · cases hraised
    exact ⟨by decide, by decide⟩
  · cases hraised

omit [Platform] in
/-- The two rows are settled by then. -/
theorem run_forever_settles_two :
    let := asciiPlatform []
    ∃ table', prodWorker.runForever twoReady (sixWindows.flatMap Window.polls) = .ok table' ∧
      ∀ caseId row, twoReady.get? caseId = some row → ∃ row', table'.get? caseId = some row' ∧
        (row.status.awaitsPublish = true → row'.status = .sent ∨ row'.status = .dead) ∧
        (row.status.awaitsPublish = false → row' = row) := by
  intro _
  refine run_forever_settles ⟨rfl, by decide⟩ serviceableTable_twoReady ?_ ?_ ?_ ?_
  · intro window hwindow poll hpoll
    obtain ⟨k, -, rfl⟩ := List.mem_map.mp hwindow
    obtain rfl := List.mem_singleton.mp hpoll
    exact firstUnpublishable_storable _
  · simp [sixWindows, List.range, List.range.loop, Spaced, maxRetryDelay, newYear2026]
  · intro window hwindow
    obtain ⟨k, hk, rfl⟩ := List.mem_map.mp hwindow
    have hk : (k : Int) ≤ 5 := by
      have := List.mem_range.mp hk
      omega
    simp only [maxRetryDelay, maxInstant, newYear2026]
    linarith
  · decide +kernel

end OutboxWorker

end AiopsTriage
