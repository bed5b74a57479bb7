import AiopsTriage.Lib.CheckThenAct
import AiopsTriage.Outbox.Lifecycle

/-!
# Concurrent publish failures

Several publishers may report a failed attempt on one row at the same time. Each
call reads the row (the **check**) and then writes what it computed from it under a
guard (the **act**); the database runs each half atomically and re-evaluates the
guard on the latest committed row.

The guard compares the status alone. A call whose row moved from `READY` to `RETRY`
in between finds its target status already there and returns without writing; a call
on a `RETRY` row that another call advanced writes the attempt number it computed
from the old one. Either way an outcome is lost. A call counts exactly when the row
it writes on has the status and the attempts it read (`counted_iff`), and a run in
which that is so of every call reaches `DEAD` after the last allowed attempt
(`publish_failures_kept_iff`).
-/

namespace AiopsTriage

open CheckThenAct

/-- What a caller of `transition_publish_failure` passes, its `now` resolved. -/
structure FailureReport where
  /-- the error to record -/
  error : PublishError
  /-- the caller's clock -/
  now : Instant
  deriving DecidableEq, Repr

/-- The row a call has read, or the exception of the read. -/
abbrev FailureView := Except Failure OutboxRecord

/-- One completed call. -/
abbrev FailureDone := Done OutboxTable FailureView FailureReport (Except Failure OutboxRecord)

/-- The state of the calls on one table. -/
abbrev FailureState (ι : Type) :=
  State OutboxTable FailureView FailureReport (Except Failure OutboxRecord) ι

/-- The call read a row waiting for a publish and returned normally. -/
def Reported (d : FailureDone) (current : OutboxRecord) : Prop :=
  d.seen = .ok current ∧ current.status.awaitsPublish = true ∧ d.result.Returns

/-- Whether the call read a row waiting for a publish and returned normally. -/
def isReported (d : FailureDone) : Bool :=
  decide d.result.Returns &&
    match d.seen with
    | .ok current => current.status.awaitsPublish
    | .error _ => false

theorem isReported_iff {d : FailureDone} :
    isReported d = true ↔ ∃ current, Reported d current := by
  unfold isReported Reported
  cases d.seen with
  | error e => simp
  | ok current => simp [and_comm]

/-- The call, if it reported a failure, raised the attempts of the row by one. -/
def Counted (caseId : String) (d : FailureDone) : Prop :=
  ∀ current, Reported d current → ∃ row, d.before.get? caseId = some row ∧
    (d.after.get? caseId).map OutboxRecord.deliveryAttempts = some (row.deliveryAttempts + 1)

/-- The row the call wrote on still had the status and the attempts the call had
read. -/
def ReadCurrent (caseId : String) (d : FailureDone) : Prop :=
  ∀ current, Reported d current → ∃ row, d.before.get? caseId = some row ∧
    row.status = current.status ∧ row.deliveryAttempts = current.deliveryAttempts

/-- The row after `n` counted failures of a row that was `READY` with no attempts. -/
def RowAfter (m n : Nat) (row : OutboxRecord) : Prop :=
  (n = 0 ∧ row.status = .ready ∧ row.deliveryAttempts = 0) ∨
    (1 ≤ n ∧ n ≤ m ∧ row.status = .retry ∧ row.deliveryAttempts = n) ∨
    (n = m + 1 ∧ row.status = .dead ∧ row.deliveryAttempts = n)

/-- One more counted failure. -/
theorem RowAfter.succ {m n : Nat} {row next : OutboxRecord} (h : RowAfter m n row)
    (hopen : row.status.awaitsPublish = true)
    (hattempts : next.deliveryAttempts = row.deliveryAttempts + 1)
    (hstatus : next.status = if m < row.deliveryAttempts + 1 then .dead else .retry) :
    RowAfter m (n + 1) (row.update next) := by
  have hn : row.deliveryAttempts = n ∧ n ≤ m := by
    rcases h with ⟨rfl, -, h⟩ | ⟨-, hm, -, h⟩ | ⟨-, hdead, -⟩
    · exact ⟨h, Nat.zero_le m⟩
    · exact ⟨h, hm⟩
    · rw [hdead] at hopen
      cases hopen
  right
  by_cases hlast : m < row.deliveryAttempts + 1
  · rw [if_pos hlast] at hstatus
    exact .inr ⟨by omega, hstatus, by simp only [OutboxRecord.update]; omega⟩
  · rw [if_neg hlast] at hstatus
    exact .inl ⟨by omega, by omega, hstatus, by simp only [OutboxRecord.update]; omega⟩

section Protocol

variable [Platform]

/-- `transition_publish_failure` in its two halves. A write that finds no row in the
expected status looks at the latest row in the same step. -/
def failureProtocol (policy : OutboxPolicyV1) (appEnv caseId : String) :
    Protocol OutboxTable FailureView FailureReport (Except Failure OutboxRecord) where
  check _ table := requireByCaseId table caseId
  act report view table :=
    let call := runTx table do
      let current ← view
      let plan ← planFrom .dead (fun current => [current.status])
        (markOutboxRecordPublishFailure · policy appEnv report.error (.aware report.now)) current
      applyPlan table caseId plan
    (call.2, call.1)

variable {policy : OutboxPolicyV1} {appEnv caseId : String}

/-- With nothing in between, the two halves are the repository call. -/
theorem failureProtocol_atomic (table : OutboxTable) (report : FailureReport) :
    (failureProtocol policy appEnv caseId).act report
        ((failureProtocol policy appEnv caseId).check report table) table =
      ((transitionPublishFailure table caseId policy appEnv report.error (.aware report.now)).2,
        (transitionPublishFailure table caseId policy appEnv report.error (.aware report.now)).1) :=
  rfl

/-- **Act lemma**: a call that returns leaves the table alone, and then it had read a
`DEAD` row or the row is no longer in the status it had read, or it writes what its
state machine built from the record it had read. -/
theorem perform_cases {table : OutboxTable} {view : FailureView} {report : FailureReport}
    {r : OutboxRecord}
    (h : ((failureProtocol policy appEnv caseId).perform report view table).result = .ok r) :
    ∃ current, view = .ok current ∧
      ((((failureProtocol policy appEnv caseId).perform report view table).after = table ∧
          (current.status = .dead ∨
            ∃ row, table.get? caseId = some row ∧ row.status ≠ current.status)) ∨
        ∃ row next, table.get? caseId = some row ∧ row.status = current.status ∧
          markOutboxRecordPublishFailure current policy appEnv report.error
            (.aware report.now) = .ok next ∧
          ((failureProtocol policy appEnv caseId).perform report view table).after =
            table.set caseId (row.update next)) := by
  simp only [Protocol.perform, failureProtocol] at h ⊢
  set body := (do
    let current ← view
    let plan ← planFrom .dead (fun current => [current.status])
      (markOutboxRecordPublishFailure · policy appEnv report.error (.aware report.now)) current
    applyPlan table caseId plan) with hbodydef
  rcases hbody : body with e | ⟨r', table'⟩
  · rw [hbody, runTx] at h
    cases h
  · simp only [runTx]
    rw [hbodydef] at hbody
    obtain ⟨current, hview, hbody⟩ := Except.bind_eq_ok.mp hbody
    obtain ⟨plan, hplan, hbody⟩ := Except.bind_eq_ok.mp hbody
    refine ⟨current, hview, ?_⟩
    unfold planFrom at hplan
    split at hplan
    · next hdead =>
      cases hplan
      cases hbody
      exact .inl ⟨rfl, .inl hdead⟩
    · obtain ⟨next, hmark, hplan⟩ := Except.bind_eq_ok.mp hplan
      cases hplan
      rcases writeTransition_ok hbody with ⟨row, hget, hmem, -, htable⟩ | ⟨hget, hmem, -, htable⟩
      · exact .inr ⟨row, next, hget, List.mem_singleton.mp hmem, hmark, htable⟩
      · exact .inl ⟨htable, .inr ⟨_, hget, fun hsame => hmem (List.mem_singleton.mpr hsame)⟩⟩

/-- A call that raises leaves the table alone. -/
theorem perform_error {table : OutboxTable} {view : FailureView} {report : FailureReport}
    (h : ¬ ((failureProtocol policy appEnv caseId).perform report view table).result.Returns) :
    ((failureProtocol policy appEnv caseId).perform report view table).after = table := by
  simp only [Protocol.perform, failureProtocol] at h ⊢
  unfold runTx at h ⊢
  split
  · next r table' hbody =>
    rw [hbody] at h
    exact absurd ⟨r, rfl⟩ h
  · rfl

/-- What a failed publish computes from a record: one attempt more, and `DEAD`
exactly when that exceeds the retry bound. -/
theorem failure_next {current next : OutboxRecord} {error : PublishError} {now : DateTime}
    (h : markOutboxRecordPublishFailure current policy appEnv error now = .ok next) :
    current.status.awaitsPublish = true ∧
      next.deliveryAttempts = current.deliveryAttempts + 1 ∧
      ∀ {m : Nat}, resolveMaxRetryAttempts policy appEnv = .ok (m : Int) →
        next.status = if m < current.deliveryAttempts + 1 then .dead else .retry := by
  obtain ⟨hstatus, t, limit, -, hlimit, hnext⟩ := markOutboxRecordPublishFailure_ok h
  have hopen : current.status.awaitsPublish = true := by
    rcases hstatus with hstatus | hstatus <;> rw [hstatus] <;> rfl
  rcases hnext with ⟨hlt, rfl⟩ | ⟨hle, due, -, rfl⟩
  · refine ⟨hopen, rfl, ?_⟩
    intro m hm
    obtain rfl := Except.ok.inj (hlimit.symm.trans hm)
    rw [if_pos (by omega)]
    rfl
  · refine ⟨hopen, rfl, ?_⟩
    intro m hm
    obtain rfl := Except.ok.inj (hlimit.symm.trans hm)
    rw [if_neg (by omega)]
    rfl

/-! ## One call -/

/-- A reported failure writes on the row it finds, or finds it in another status. -/
theorem reported_cases {table : OutboxTable} {view : FailureView} {report : FailureReport}
    {current : OutboxRecord}
    (h : Reported ((failureProtocol policy appEnv caseId).perform report view table) current) :
    ∃ row, table.get? caseId = some row ∧
      ((row.status ≠ current.status ∧
          ((failureProtocol policy appEnv caseId).perform report view table).after = table) ∨
        (row.status = current.status ∧ ∃ next,
          markOutboxRecordPublishFailure current policy appEnv report.error
            (.aware report.now) = .ok next ∧
          ((failureProtocol policy appEnv caseId).perform report view table).after =
            table.set caseId (row.update next))) := by
  obtain ⟨hseen, hopen, r, hr⟩ := h
  obtain ⟨current', hview, hcase⟩ := perform_cases hr
  obtain rfl : current' = current := Except.ok.inj (hview.symm.trans hseen)
  rcases hcase with ⟨hsame, hdead | ⟨row, hget, hne⟩⟩ | ⟨row, next, hget, hstatus, hmark, hset⟩
  · rw [hdead] at hopen
    cases hopen
  · exact ⟨row, hget, .inl ⟨hne, hsame⟩⟩
  · exact ⟨row, hget, .inr ⟨hstatus, next, hmark, hset⟩⟩

/-- **One call** counts exactly when the row it writes on has the status and the
attempts it read. -/
theorem counted_iff {table : OutboxTable} {view : FailureView} {report : FailureReport} :
    Counted caseId ((failureProtocol policy appEnv caseId).perform report view table) ↔
      ReadCurrent caseId ((failureProtocol policy appEnv caseId).perform report view table) := by
  refine forall₂_congr fun current hrep => ?_
  obtain ⟨row, hget, hcase⟩ := reported_cases hrep
  have hbefore : ∀ {Q : OutboxRecord → Prop},
      (∃ row, table.get? caseId = some row ∧ Q row) ↔ Q row := by
    intro Q
    rw [hget]
    simp
  refine Iff.trans hbefore (Iff.trans ?_ hbefore.symm)
  rcases hcase with ⟨hne, hsame⟩ | ⟨hstatus, next, hmark, hset⟩
  · -- nothing was written, so the attempts cannot have grown
    rw [hsame, hget]
    simp [hne]
  · rw [hset, Dict.get?_set, if_pos rfl, Option.map_some, Option.some.injEq]
    simp only [OutboxRecord.update, (failure_next hmark).2.1, hstatus, true_and]
    omega

/-! ## Runs -/

variable {ι : Type} [DecidableEq ι] {m : Nat}

/-- **Run lemma**: while every call counts, the row is where its number of counted
failures puts it. -/
theorem rowAfter_run (hlimit : resolveMaxRetryAttempts policy appEnv = .ok (m : Int))
    {table : OutboxTable} {s : FailureState ι} {ls : List (Label ι FailureReport)}
    (hrun : Runs.run (failureProtocol policy appEnv caseId).step (Protocol.start table) ls = some s)
    (hrow : ∃ row, table.get? caseId = some row ∧ RowAfter m 0 row) :
    (∀ d ∈ s.log, ReadCurrent caseId d) →
      ∃ row, s.cell.get? caseId = some row ∧ RowAfter m (s.log.countP isReported) row := by
  refine Runs.run_inv (I := fun s => (∀ d ∈ s.log, ReadCurrent caseId d) →
    ∃ row, s.cell.get? caseId = some row ∧ RowAfter m (s.log.countP isReported) row)
    ?_ hrun ?_
  · intro t l t' ht hstep
    cases l with
    | check i a =>
      obtain ⟨hcell, hlog, -⟩ := Protocol.step_check hstep
      rw [hcell, hlog]
      exact ht
    | act i a =>
      obtain ⟨v, -, hcell, hlog, -⟩ := Protocol.step_act hstep
      intro hread
      rw [hlog] at hread
      obtain ⟨row, hget, hafter⟩ := ht fun d hd => hread d (List.mem_append_left _ hd)
      have hcur := hread _ (List.mem_append_right _ (List.mem_singleton_self _))
      rw [hcell, hlog, List.countP_append, List.countP_singleton]
      by_cases hrep : isReported ((failureProtocol policy appEnv caseId).perform a v t.cell)
      · -- the call counts: one attempt more
        rw [if_pos hrep]
        obtain ⟨current, hreported⟩ := isReported_iff.mp hrep
        obtain ⟨row', hrow', hstatus, hattempts⟩ := hcur current hreported
        obtain rfl := Option.some.inj (hget.symm.trans hrow')
        obtain ⟨row', hget', hcase⟩ := reported_cases hreported
        obtain rfl := Option.some.inj (hget.symm.trans hget')
        rcases hcase with ⟨hne, -⟩ | ⟨-, next, hmark, hset⟩
        · exact absurd hstatus hne
        · obtain ⟨hopen, hnext, hto⟩ := failure_next hmark
          have hnextStatus := hto hlimit
          rw [← hattempts] at hnext hnextStatus
          rw [← hstatus] at hopen
          exact ⟨row.update next, by rw [hset, Dict.get?_set, if_pos rfl],
            hafter.succ hopen hnext hnextStatus⟩
      · -- the call raised, or it had read a dead row: nothing changes
        rw [if_neg hrep, Nat.add_zero]
        refine ⟨row, ?_, hafter⟩
        by_cases hret : ((failureProtocol policy appEnv caseId).perform a v t.cell).result.Returns
        · obtain ⟨r, hr⟩ := hret
          obtain ⟨current, hview, hcase⟩ := perform_cases hr
          rcases hcase with ⟨hsame, -⟩ | ⟨row', next, -, -, hmark, -⟩
          · rw [hsame]
            exact hget
          · exact absurd (isReported_iff.mpr ⟨current, hview, (failure_next hmark).1, r, hr⟩) hrep
        · rw [perform_error hret]
          exact hget
  · intro _
    exact hrow

/-- No publish failure of the run was lost: every call that read a row waiting for a
publish and returned raised its attempts by one, and `m + 1` such calls on a fresh
`READY` row leave it `DEAD`. -/
def FailuresKept (m : Nat) (caseId : String) (table : OutboxTable) (s : FailureState ι) : Prop :=
  (∀ d ∈ s.log, Counted caseId d) ∧
    ((∃ row, table.get? caseId = some row ∧ row.status = .ready ∧ row.deliveryAttempts = 0) →
      s.log.countP isReported = m + 1 →
      ∃ row, s.cell.get? caseId = some row ∧ row.status = .dead)

/-- **Publish failures.** In any interleaving of any number of calls on a row, no
failure is lost exactly when each call that read a row waiting for a publish and
returned wrote on a row whose status and attempts were still those it had read. -/
theorem publish_failures_kept_iff {retention : OutboxRetentionPolicy}
    (hretention : policy.retentionByEnv.get? appEnv = some retention)
    (hm : retention.maxRetryAttempts = (m : Int)) {table : OutboxTable} {s : FailureState ι}
    {ls : List (Label ι FailureReport)}
    (hrun : Runs.run (failureProtocol policy appEnv caseId).step (Protocol.start table) ls =
      some s) :
    FailuresKept m caseId table s ↔ ∀ d ∈ s.log, ReadCurrent caseId d := by
  have hlimit : resolveMaxRetryAttempts policy appEnv = .ok (m : Int) := by
    rw [resolveMaxRetryAttempts, hretention, ← hm]
  have hperformed := Protocol.log_performed hrun
  have hcounted : ∀ d ∈ s.log, Counted caseId d ↔ ReadCurrent caseId d := by
    intro d hd
    rw [hperformed d hd]
    exact counted_iff
  constructor
  · intro hkept d hd
    exact (hcounted d hd).mp (hkept.1 d hd)
  · intro hread
    refine ⟨fun d hd => (hcounted d hd).mpr (hread d hd), ?_⟩
    rintro ⟨row, hrow, hready, hzero⟩ hcount
    obtain ⟨row', hrow', hafter⟩ :=
      rowAfter_run hlimit hrun ⟨row, hrow, .inl ⟨rfl, hready, hzero⟩⟩ hread
    refine ⟨row', hrow', ?_⟩
    rcases hafter with ⟨h, -⟩ | ⟨-, h, -⟩ | ⟨-, h, -⟩
    · omega
    · omega
    · exact h

end Protocol

/-! ## Two publishers on one row -/

instance (caseId : String) (d : FailureDone) : Decidable (Counted caseId d) :=
  decidable_of_iff
    (isReported d = true → ∃ row ∈ d.before.get? caseId,
      (d.after.get? caseId).map OutboxRecord.deliveryAttempts = some (row.deliveryAttempts + 1))
    ⟨fun h current hrep => h (isReported_iff.mpr ⟨current, hrep⟩),
      fun h hrep => (isReported_iff.mp hrep).elim h⟩

/-- Whether a call wrote on what it had read can be read off its record. -/
theorem readCurrent_iff {caseId : String} {d : FailureDone} : ReadCurrent caseId d ↔
    (isReported d = true → ∃ row ∈ d.before.get? caseId, ∀ current ∈ d.seen.toOption,
      row.status = current.status ∧ row.deliveryAttempts = current.deliveryAttempts) := by
  constructor
  · intro hread hrep
    obtain ⟨current, hreported⟩ := isReported_iff.mp hrep
    obtain ⟨row, hrow, hsame⟩ := hread current hreported
    refine ⟨row, hrow, fun current' hcurrent => ?_⟩
    rw [hreported.1] at hcurrent
    obtain rfl := Option.some.inj hcurrent
    exact hsame
  · intro hread current hreported
    obtain ⟨row, hrow, hsame⟩ := hread (isReported_iff.mpr ⟨current, hreported⟩)
    exact ⟨row, hrow, hsame current (by rw [hreported.1]; rfl)⟩

instance (caseId : String) (d : FailureDone) : Decidable (ReadCurrent caseId d) :=
  decidable_of_iff _ readCurrent_iff.symm

/-- The table with `case-1` handed off. -/
def readyTable : OutboxTable :=
  Dict.empty.set "case-1"
    (readyRecord (createPendingOutboxRecord confirmedCase1 newYear2026) newYear2026)

/-- The report of either publisher. -/
def brokerDown : FailureReport := ⟨⟨"broker down", none⟩, newYear2026⟩

/-- Both publishers read the `READY` row before either writes. -/
def bothReadFirst : List (Label Bool FailureReport) :=
  [.check false brokerDown, .check true brokerDown, .act false brokerDown, .act true brokerDown]

/-- The second publisher finds its target status `RETRY` already there, returns, and
its failure is lost. -/
theorem publish_failure_lost :
    ∃ s, Runs.run (@failureProtocol case1Platform outboxPolicyV1 "prod" "case-1").step
        (Protocol.start readyTable) bothReadFirst = some s ∧
      ¬ FailuresKept 5 "case-1" readyTable s := by
  refine ⟨_, rfl, ?_⟩
  intro hkept
  exact absurd hkept.1 (by decide +kernel)

/-- The publishers take turns: each reads and writes before the other reads. -/
def takingTurns (n : Nat) : List (Label Bool FailureReport) :=
  (List.replicate n [.check false brokerDown, .act false brokerDown,
    .check true brokerDown, .act true brokerDown]).flatten

/-- After three turns each the six failures are kept, and the row is `DEAD`. -/
theorem publish_failures_kept_case1 :
    ∃ s, Runs.run (@failureProtocol case1Platform outboxPolicyV1 "prod" "case-1").step
        (Protocol.start readyTable) (takingTurns 3) = some s ∧
      FailuresKept 5 "case-1" readyTable s ∧ s.log.countP isReported = 6 ∧
      (s.cell.get? "case-1").map OutboxRecord.status = some .dead := by
  refine ⟨_, rfl, ?_, by decide +kernel, by decide +kernel⟩
  refine (@publish_failures_kept_iff case1Platform outboxPolicyV1 "prod" "case-1" Bool _ 5 ⟨5⟩ rfl
    rfl readyTable _ (takingTurns 3) rfl).mpr ?_
  decide +kernel

end AiopsTriage
