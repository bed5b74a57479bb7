import AiopsTriage.Lib.CheckThenAct
import AiopsTriage.Outbox.Lifecycle

/-!
# Transitions of outbox rows, interleaved

A transition reads its row and later writes what it computed from it, under a guard on the status.
When calls of several processes alternate, a call may write from a record that is no longer the
row: publish outcomes get lost, and the times and the attempts of a row may even go back.

What the guard does keep, in every interleaving of any hand-offs and publish outcomes on any
cases, is the status graph (`transitions_interleaved`): a row moves along `OutboxMoves` only, a row
that is `SENT` or `DEAD` never changes again, what identifies a row stays, and every row is sound.
For that, a record that was read is **behind** the row (`Behind`): sound, of the same case and
file, and in a status from which the row has moved on.

Rows only appear by inserts, which never change a row that is there.
-/

namespace AiopsTriage

open CheckThenAct

/-! ## Calls -/

/-- A transition of an outbox row. -/
inductive OutboxTransition where
  /-- `transition_to_ready` -/
  | ready
  /-- `transition_to_sent` -/
  | sent
  /-- `transition_publish_failure` -/
  | publishFailure (error : PublishError)
  deriving DecidableEq, Repr

/-- A call of one, its `now` resolved. -/
structure TransitionCall where
  /-- the case -/
  caseId : String
  /-- the transition -/
  kind : OutboxTransition
  /-- the caller's clock -/
  now : Instant
  deriving DecidableEq, Repr

/-- What a call has read: the call, and the record or the exception of the read. -/
abbrev TransitionView := TransitionCall × Except Failure OutboxRecord

/-- The state of the calls on a table. -/
abbrev TransitionState (ι : Type) :=
  State OutboxTable TransitionView TransitionCall (Except Failure OutboxRecord) ι

namespace OutboxTransition

variable [Platform] (policy : OutboxPolicyV1) (appEnv : String)

/-- The status that makes a call a no-op. -/
def target : OutboxTransition → OutboxState
  | ready => .ready
  | sent => .sent
  | publishFailure _ => .dead

/-- The statuses the guard lets through. -/
def expected : OutboxTransition → OutboxRecord → List OutboxState
  | ready, _ => [.pendingObject]
  | sent, current => [current.status]
  | publishFailure _, current => [current.status]

/-- The state machine's part. -/
def mark (record : OutboxRecord) (now : DateTime) :
    OutboxTransition → Except Failure OutboxRecord
  | ready => markOutboxRecordReady record now
  | sent => markOutboxRecordSent record now
  | publishFailure error => markOutboxRecordPublishFailure record policy appEnv error now

end OutboxTransition

section Protocol

variable [Platform] (policy : OutboxPolicyV1) (appEnv : String)

/-- A transition in its two halves. A write that finds no row in the expected status looks at the
latest row in the same step. -/
def transitionProtocol :
    Protocol OutboxTable TransitionView TransitionCall (Except Failure OutboxRecord) where
  check call table := (call, requireByCaseId table call.caseId)
  act _ view table :=
    let call := view.1
    let done := runTx table do
      let current ← view.2
      let plan ← planFrom call.kind.target call.kind.expected
        (fun record => call.kind.mark policy appEnv record (.aware call.now)) current
      applyPlan table call.caseId plan
    (done.2, done.1)

variable {policy : OutboxPolicyV1} {appEnv : String}

/-- With nothing in between, the two halves are the repository call. -/
theorem transitionProtocol_atomic (table : OutboxTable) (call : TransitionCall) :
    (transitionProtocol policy appEnv).act call
        ((transitionProtocol policy appEnv).check call table) table =
      match call.kind with
      | .ready => (transitionToReady table call.caseId (.aware call.now)).swap
      | .sent => (transitionToSent table call.caseId (.aware call.now)).swap
      | .publishFailure error =>
        (transitionPublishFailure table call.caseId policy appEnv error (.aware call.now)).swap := by
  obtain ⟨caseId, kind, now⟩ := call
  cases kind <;> rfl

variable (policy appEnv) in
/-- **Act lemma**: an act leaves the table alone, or writes what its state machine built from the
record it had read, on a row in one of the expected statuses. -/
theorem transition_act (call : TransitionCall) (view : TransitionView) (table : OutboxTable) :
    ((transitionProtocol policy appEnv).act call view table).1 = table ∨
      ∃ current row next, view.2 = .ok current ∧
        table.get? view.1.caseId = some row ∧ row.status ∈ view.1.kind.expected current ∧
        view.1.kind.mark policy appEnv current (.aware view.1.now) = .ok next ∧
        ((transitionProtocol policy appEnv).act call view table).1 =
          table.set view.1.caseId (row.update next) := by
  simp only [transitionProtocol]
  set body := (do
    let current ← view.2
    let plan ← planFrom view.1.kind.target view.1.kind.expected
      (fun record => view.1.kind.mark policy appEnv record (.aware view.1.now)) current
    applyPlan table view.1.caseId plan) with hbodydef
  rcases hbody : body with e | ⟨r, table'⟩
  · exact .inl rfl
  · simp only [runTx]
    rw [hbodydef] at hbody
    obtain ⟨current, hview, hbody⟩ := Except.bind_eq_ok.mp hbody
    obtain ⟨plan, hplan, hbody⟩ := Except.bind_eq_ok.mp hbody
    unfold planFrom at hplan
    split at hplan
    · cases hplan
      cases hbody
      exact .inl rfl
    · obtain ⟨next, hmark, hplan⟩ := Except.bind_eq_ok.mp hplan
      cases hplan
      rcases writeTransition_ok hbody with ⟨row, hget, hmem, -, htable⟩ | ⟨-, -, -, htable⟩
      · exact .inr ⟨current, row, next, hview, hget, hmem, hmark, htable⟩
      · exact .inl htable

end Protocol

/-! ## Records behind their row -/

/-- A row as it follows from an earlier one: the columns that no transition writes are the same, and
its status was reached along the edges. -/
structure Follows (row row' : OutboxRecord) : Prop where
  /-- the case, the file and the creation time are the same -/
  same : row' = row.update row'
  /-- the status moved along edges -/
  moved : Relation.ReflTransGen OutboxMoves row.status row'.status

theorem Follows.refl (row : OutboxRecord) : Follows row row := ⟨rfl, .refl⟩

theorem Follows.trans {a b c : OutboxRecord} (hab : Follows a b) (hbc : Follows b c) :
    Follows a c where
  same := by
    rw [hbc.same, hab.same]
    rfl
  moved := hab.moved.trans hbc.moved

/-- A sound row, by its own attempts. -/
def OutboxRecord.Sound (m : Nat) (row : OutboxRecord) : Prop :=
  RowSound m row.deliveryAttempts row

/-- A record that was read is sound, and the row follows from it. -/
structure Behind (m : Nat) (current row : OutboxRecord) : Prop where
  /-- it is sound -/
  sound : current.Sound m
  /-- the row follows from it -/
  follows : Follows current row

/-- What one write makes of a row: it is sound and follows by one edge, and was not settled. -/
structure WritesRow (m : Nat) (row row' : OutboxRecord) : Prop where
  /-- the new row is sound -/
  sound : row'.Sound m
  /-- the columns that no transition writes are the same -/
  same : row' = row.update row'
  /-- the status moved along one edge -/
  moved : OutboxMoves row.status row'.status
  /-- a settled row is not written -/
  open_ : row.status.isFinal = false

/-- **Write lemma**: what was computed from a record behind the row, written under the guard. -/
theorem writesRow_of_mark [Platform] {policy : OutboxPolicyV1} {appEnv : String} {m : Nat}
    (hlimit : resolveMaxRetryAttempts policy appEnv = .ok (m : Int)) {kind : OutboxTransition}
    {current row next : OutboxRecord} {now : DateTime} (hbehind : Behind m current row)
    (hguard : row.status ∈ kind.expected current)
    (hmark : kind.mark policy appEnv current now = .ok next) :
    WritesRow m row (row.update next) := by
  have hrow : row.update next = current.update next := by
    rw [hbehind.follows.same]
    rfl
  -- the record was open, the row has its status, and the step from the record is sound
  have hstep : row.status = current.status ∧ current.status.isFinal = false ∧
      OutboxMoves current.status next.status ∧ (current.update next).Sound m := by
    cases kind with
    | ready =>
      obtain ⟨hstatus, t, -, rfl⟩ := markOutboxRecordReady_ok hmark
      have hsound := (rowStep_of_ready hmark).2 hbehind.sound
      refine ⟨(List.mem_singleton.mp hguard).trans hstatus.symm, by rw [hstatus]; rfl, ?_, hsound⟩
      rw [hstatus]
      exact .handOff
    | sent =>
      obtain ⟨hstatus, t, -, rfl⟩ := markOutboxRecordSent_ok hmark
      have hsound := (rowStep_of_sent hmark).2.2 hbehind.sound
      refine ⟨List.mem_singleton.mp hguard, ?_, ?_, hsound⟩
      · rcases hstatus with hstatus | hstatus <;> rw [hstatus] <;> rfl
      · rcases hstatus with hstatus | hstatus <;> rw [hstatus]
        · exact .sendReady
        · exact .sendRetry
    | publishFailure error =>
      have hsound := (rowStep_of_failure hlimit hmark).2.2 hbehind.sound
      obtain ⟨hstatus, t, limit, -, -, ⟨-, rfl⟩ | ⟨-, due, -, rfl⟩⟩ :=
        markOutboxRecordPublishFailure_ok hmark
      · refine ⟨List.mem_singleton.mp hguard, ?_, ?_, hsound⟩
        · rcases hstatus with hstatus | hstatus <;> rw [hstatus] <;> rfl
        · rcases hstatus with hstatus | hstatus <;> rw [hstatus]
          · exact .dropReady
          · exact .dropRetry
      · refine ⟨List.mem_singleton.mp hguard, ?_, ?_, hsound⟩
        · rcases hstatus with hstatus | hstatus <;> rw [hstatus] <;> rfl
        · rcases hstatus with hstatus | hstatus <;> rw [hstatus]
          · exact .failReady
          · exact .failRetry
  obtain ⟨hstatus, hopen, hmoved, hsound⟩ := hstep
  refine ⟨hrow ▸ hsound, rfl, ?_, hstatus ▸ hopen⟩
  rw [hstatus]
  exact hmoved

/-! ## Runs -/

/-- A table as it follows from an earlier one: no row appears or disappears, each row follows from
the earlier one, and a settled row is untouched. -/
structure TableFollows (table table' : OutboxTable) : Prop where
  /-- a row follows from the earlier one -/
  rows : ∀ caseId row, table.get? caseId = some row → ∃ row', table'.get? caseId = some row' ∧
    Follows row row' ∧ (row.status.isFinal = true → row' = row)
  /-- no row appears -/
  none : ∀ caseId, table.get? caseId = none → table'.get? caseId = none

namespace TableFollows

variable {a b c table : OutboxTable}

theorem refl (table : OutboxTable) : TableFollows table table where
  rows _ row hget := ⟨row, hget, .refl row, fun _ => rfl⟩
  none _ h := h

theorem trans (hab : TableFollows a b) (hbc : TableFollows b c) : TableFollows a c where
  rows caseId row hget := by
    obtain ⟨row', hget', hfollows, hfinal⟩ := hab.rows caseId row hget
    obtain ⟨row'', hget'', hfollows', hfinal'⟩ := hbc.rows caseId row' hget'
    refine ⟨row'', hget'', hfollows.trans hfollows', fun hsettled => ?_⟩
    obtain rfl := hfinal hsettled
    exact hfinal' hsettled
  none caseId h := hbc.none caseId (hab.none caseId h)

/-- One written row. -/
theorem set {m : Nat} {caseId : String} {row row' : OutboxRecord}
    (hget : table.get? caseId = some row) (h : WritesRow m row row') :
    TableFollows table (table.set caseId row') where
  rows other row₀ hget₀ := by
    rw [Dict.get?_set]
    by_cases heq : caseId = other
    · subst heq
      obtain rfl := Option.some.inj (hget.symm.trans hget₀)
      rw [if_pos rfl]
      refine ⟨row', rfl, ⟨h.same, .single h.moved⟩, fun hsettled => ?_⟩
      rw [h.open_] at hsettled
      cases hsettled
    · rw [if_neg heq]
      exact ⟨row₀, hget₀, .refl row₀, fun _ => rfl⟩
  none other hnone := by
    rw [Dict.get?_set, if_neg, hnone]
    rintro rfl
    rw [hget] at hnone
    cases hnone

end TableFollows

/-- The invariant of a run: the rows are sound, and each record that a caller holds is behind its
row. -/
structure TransitionsSound {ι : Type} (m : Nat) (s : TransitionState ι) : Prop where
  /-- the rows are sound -/
  rows : ∀ caseId row, s.cell.get? caseId = some row → row.Sound m
  /-- the records are behind them -/
  views : ∀ i call current, s.pending i = some (call, .ok current) →
    ∃ row, s.cell.get? call.caseId = some row ∧ Behind m current row

section Runs

variable [Platform] {policy : OutboxPolicyV1} {appEnv : String} {ι : Type} [DecidableEq ι]
  {m : Nat} {s s' : TransitionState ι}

/-- **Step lemma**: one half of one call. -/
theorem transitionsSound_step (hlimit : resolveMaxRetryAttempts policy appEnv = .ok (m : Int))
    {l : Label ι TransitionCall} (hs : TransitionsSound m s)
    (hstep : (transitionProtocol policy appEnv).step s l = some s') :
    TransitionsSound m s' ∧ TableFollows s.cell s'.cell := by
  cases l with
  | check i call =>
    obtain ⟨hcell, -, hpending⟩ := Protocol.step_check hstep
    rw [hcell]
    refine ⟨⟨by rw [hcell]; exact hs.rows, fun j call' current hj => ?_⟩, .refl _⟩
    rw [hpending, Function.update_apply] at hj
    rw [hcell]
    split at hj
    · -- the record that is read now is the row itself
      simp only [transitionProtocol, Option.some.injEq, Prod.mk.injEq] at hj
      obtain ⟨rfl, hread⟩ := hj
      have hget := requireByCaseId_ok hread
      exact ⟨current, hget, hs.rows _ _ hget, .refl current⟩
    · exact hs.views j call' current hj
  | act i call =>
    obtain ⟨view, hview, hcell, -, hpending⟩ := Protocol.step_act hstep
    have hviews : ∀ j call' current, s'.pending j = some (call', .ok current) →
        ∃ row, s.cell.get? call'.caseId = some row ∧ Behind m current row := by
      intro j call' current hj
      rw [hpending, Function.update_apply] at hj
      split at hj
      · cases hj
      · exact hs.views j call' current hj
    rcases transition_act policy appEnv call view s.cell with
      hsame | ⟨current, row, next, hcurrent, hget, hguard, hmark, hset⟩
    · have hcell : s'.cell = s.cell := hcell.trans hsame
      refine ⟨⟨by rw [hcell]; exact hs.rows, by rw [hcell]; exact hviews⟩, ?_⟩
      rw [hcell]
      exact .refl _
    · have hcell : s'.cell = s.cell.set view.1.caseId (row.update next) := hcell.trans hset
      obtain ⟨row₀, hget₀, hbehind⟩ := hs.views i view.1 current (by rw [hview, ← hcurrent])
      obtain rfl := Option.some.inj (hget.symm.trans hget₀)
      have hwrites := writesRow_of_mark hlimit hbehind hguard hmark
      have hfollows := TableFollows.set hget hwrites
      rw [← hcell] at hfollows
      refine ⟨⟨fun caseId row' hrow' => ?_, fun j call' current' hj => ?_⟩, hfollows⟩
      · rw [hcell, Dict.get?_set] at hrow'
        split at hrow'
        · cases hrow'
          exact hwrites.sound
        · exact hs.rows caseId row' hrow'
      · obtain ⟨row', hget', hbehind'⟩ := hviews j call' current' hj
        obtain ⟨row'', hget'', hfollows', -⟩ := hfollows.rows _ row' hget'
        exact ⟨row'', hget'', hbehind'.sound, hbehind'.follows.trans hfollows'⟩

/-- A run of halves. -/
theorem transitionsSound_run (hlimit : resolveMaxRetryAttempts policy appEnv = .ok (m : Int))
    {ls : List (Label ι TransitionCall)} (hs : TransitionsSound m s)
    (hrun : Runs.run (transitionProtocol policy appEnv).step s ls = some s') :
    TransitionsSound m s' ∧ TableFollows s.cell s'.cell := by
  induction ls generalizing s with
  | nil =>
    cases hrun
    exact ⟨hs, .refl _⟩
  | cons l ls ih =>
    obtain ⟨t, ht, hrest⟩ := Runs.run_cons_eq_some.mp hrun
    obtain ⟨htsound, hfirst⟩ := transitionsSound_step hlimit hs ht
    obtain ⟨hsound, hsecond⟩ := ih htsound hrest
    exact ⟨hsound, hfirst.trans hsecond⟩

/-- **Status graph**: from sound rows, in every interleaving of any transition calls on any cases,
every row is sound at any time, and from then on it only moves along the edges, keeps its case and
its file, and is never changed once it is `SENT` or `DEAD`. -/
theorem transitions_interleaved {retention : OutboxRetentionPolicy}
    (hretention : policy.retentionByEnv.get? appEnv = some retention)
    (hm : retention.maxRetryAttempts = (m : Int)) {table : OutboxTable}
    (htable : ∀ caseId row, table.get? caseId = some row → row.Sound m)
    {ls ls' : List (Label ι TransitionCall)}
    (hrun : Runs.run (transitionProtocol policy appEnv).step (Protocol.start table) ls = some s)
    (hlater : Runs.run (transitionProtocol policy appEnv).step s ls' = some s') :
    (∀ caseId row, s.cell.get? caseId = some row → row.Sound m) ∧
      TableFollows table s.cell ∧ TableFollows s.cell s'.cell := by
  have hlimit : resolveMaxRetryAttempts policy appEnv = .ok (m : Int) := by
    rw [resolveMaxRetryAttempts, hretention, ← hm]
  have hstart : TransitionsSound m (Protocol.start table : TransitionState ι) :=
    ⟨htable, fun i call current h => by cases h⟩
  obtain ⟨hs, hfirst⟩ := transitionsSound_run hlimit hstart hrun
  exact ⟨hs.rows, hfirst, (transitionsSound_run hlimit hs hlater).2⟩

end Runs

/-! ## Two publishers and a late hand-off -/

/-- The table with `case-1` pending. -/
def pendingTable : OutboxTable :=
  Dict.empty.set "case-1" (createPendingOutboxRecord confirmedCase1 newYear2026)

/-- Both publishers read the `READY` row; one sends it, and the failure of the other is refused. -/
def sentAndFailed : List (Label Bool TransitionCall) :=
  let failure := OutboxTransition.publishFailure ⟨"broker down", none⟩
  [.check false ⟨"case-1", .ready, newYear2026⟩, .act false ⟨"case-1", .ready, newYear2026⟩,
    .check false ⟨"case-1", .sent, newYear2026⟩, .check true ⟨"case-1", failure, newYear2026⟩,
    .act false ⟨"case-1", .sent, newYear2026⟩, .act true ⟨"case-1", failure, newYear2026⟩]

/-- The row is sound at the end of that run. -/
theorem transitions_interleaved_case1 :
    ∃ s, Runs.run (@transitionProtocol case1Platform outboxPolicyV1 "prod").step
        (Protocol.start pendingTable) sentAndFailed = some s ∧
      (∀ caseId row, s.cell.get? caseId = some row → row.Sound 5) ∧
      TableFollows pendingTable s.cell := by
  refine ⟨_, rfl, ?_⟩
  have htable : ∀ caseId row, pendingTable.get? caseId = some row → row.Sound 5 := by
    intro caseId row hget
    rw [pendingTable, Dict.get?_set] at hget
    split at hget
    · cases hget
      exact rowSound_pending 5 confirmedCase1 newYear2026
    · cases hget
  have hrun := @transitions_interleaved case1Platform outboxPolicyV1 "prod" Bool _ 5 _ _ ⟨5⟩ rfl
    rfl pendingTable htable sentAndFailed [] rfl rfl
  exact ⟨hrun.1, hrun.2.1⟩

end AiopsTriage
