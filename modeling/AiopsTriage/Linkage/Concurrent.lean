import AiopsTriage.Lib.Runs
import AiopsTriage.Linkage.Attempt
import AiopsTriage.Linkage.Repository
import Mathlib.Logic.Function.Basic

/-!
# Concurrent linkage attempts

Any number of orchestrators may run `execute_servicenow_linkage_and_persist` on one
case. Each invocation reads the record of the case, moves it to `SEARCHING`, asks
ServiceNow and persists the outcome; the steps of several invocations alternate, each
statement on the database atomic.

Nothing reserves the record. A record that is already `SEARCHING` may be entered again,
a transition whose guard fails is accepted when the row already has its target state,
and a transition writes the attempt count of the record that was read. So two attempts
may run at once and one of them is then not counted (`attempts_run_twice`). Attempts are
counted, one at a time, in every run that enters `SEARCHING` only on the count it read
and never beside an attempt that is still under way (`linkage_attempts_counted`).
-/

namespace AiopsTriage

/-- Where an invocation is. -/
inductive LinkagePhase where
  /-- not called yet -/
  | idle
  /-- it has read a record that an attempt is due for -/
  | due (record : LinkageRetryRecord)
  /-- its `UPDATE` to `SEARCHING`, of a row in the state it had read, touched none -/
  | searchMissed (source : LinkageRetryState) (next : LinkageRetryRecord)
  /-- its `SEARCHING` is persisted, ServiceNow is being asked -/
  | searching (record : LinkageRetryRecord)
  /-- the `UPDATE` of its outcome touched no row -/
  | outcomeMissed (next : LinkageRetryRecord)
  /-- it has returned, raised or stopped -/
  | ended
  deriving DecidableEq, Repr

/-- The phase between a persisted `SEARCHING` and a persisted outcome. -/
def LinkagePhase.isAttempting : LinkagePhase → Bool
  | .searching _ => true
  | .outcomeMissed _ => true
  | _ => false

/-- The record a phase has. -/
def LinkagePhase.record? : LinkagePhase → Option LinkageRetryRecord
  | .due record => some record
  | .searchMissed _ next => some next
  | .searching record => some record
  | .outcomeMissed next => some next
  | .idle => none
  | .ended => none

/-- One step of one invocation. Every step has its own clock. -/
inductive LinkageStep (ι : Type) where
  /-- `get_or_create_pending`, and the decision on the record -/
  | read (i : ι) (pdIncidentId : String) (incidentSysId : Option String) (now : DateTime)
  /-- the `UPDATE` to `SEARCHING` -/
  | search (i : ι) (now : DateTime)
  /-- the second look at the row when that touched none -/
  | acceptSearch (i : ι)
  /-- the answer of ServiceNow, and the `UPDATE` of the outcome -/
  | outcome (i : ι) (incidentSysId : Option String) (result : ServiceNowLinkageWriteResult)
      (now : DateTime)
  /-- the second look at the row when that touched none -/
  | acceptOutcome (i : ι)
  /-- the process of the invocation stops -/
  | stop (i : ι)
  deriving DecidableEq, Repr

/-- The table, where the invocations are, and how many outcomes they have reported as
persisted. -/
structure LinkageRun (ι : Type) where
  /-- the rows -/
  table : LinkageTable
  /-- where each invocation is -/
  phase : ι → LinkagePhase
  /-- outcomes whose `persist_transition` has returned -/
  reported : Nat

/-- What an invocation does with the record it has read: a terminal record needs no
attempt, and one that waits for a retry is left alone until it is due. -/
def phaseOfRead (record : LinkageRetryRecord) (now : DateTime) : LinkagePhase :=
  if record.state.isTerminal then .ended
  else if record.state = .failedTemp then
    match isRetryDue record now with
    | .ok true => .due record
    | .ok false => .ended
    | .error _ => .ended
  else .due record

namespace LinkageRun

variable {ι : Type} [DecidableEq ι]

/-- Nobody has called. -/
def start (table : LinkageTable) : LinkageRun ι := ⟨table, fun _ => .idle, 0⟩

/-- The state with invocation `i` moved to a phase. -/
def moved (s : LinkageRun ι) (i : ι) (p : LinkagePhase) : LinkageRun ι :=
  { s with phase := Function.update s.phase i p }

/-- The state with the row replaced. -/
def stored (s : LinkageRun ι) (table : LinkageTable) : LinkageRun ι := { s with table := table }

/-- The state with one more reported outcome. -/
def report (s : LinkageRun ι) : LinkageRun ι := { s with reported := s.reported + 1 }

variable [Platform] (policy : LinkageRetryPolicy) (caseId : String)

/-- One step. -/
def step (s : LinkageRun ι) : LinkageStep ι → Option (LinkageRun ι)
  | .read i pdIncidentId incidentSysId now =>
    match s.phase i with
    | .idle =>
      match getOrCreatePending s.table caseId pdIncidentId incidentSysId
        policy.retryWindowMinutes now with
      | (.ok record, table) => some ((s.stored table).moved i (phaseOfRead record now))
      | (.error _, table) => some ((s.stored table).moved i .ended)
    | _ => none
  | .search i now =>
    match s.phase i with
    | .due record =>
      match markLinkageSearching record now with
      | .error _ => some (s.moved i .ended)
      | .ok next =>
        match updateGuarded s.table caseId next [record.state] with
        | .ok (some (persisted, table)) =>
          some ((s.stored table).moved i (.searching persisted))
        | .ok none => some (s.moved i (.searchMissed record.state next))
        | .error _ => some (s.moved i .ended)
    | _ => none
  | .acceptSearch i =>
    match s.phase i with
    | .searchMissed source next =>
      match acceptLatest s.table caseId next [source] with
      | .ok latest => some (s.moved i (.searching latest))
      | .error _ => some (s.moved i .ended)
    | _ => none
  | .outcome i incidentSysId result now =>
    match s.phase i with
    | .searching record =>
      match outcomeTransition policy record incidentSysId result now with
      | .error _ => some (s.moved i .ended)
      | .ok next =>
        match updateGuarded s.table caseId next [.searching] with
        | .ok (some (_, table)) => some ((s.stored table).moved i .ended).report
        | .ok none => some (s.moved i (.outcomeMissed next))
        | .error _ => some (s.moved i .ended)
    | _ => none
  | .acceptOutcome i =>
    match s.phase i with
    | .outcomeMissed next =>
      match acceptLatest s.table caseId next [.searching] with
      | .ok _ => some (s.moved i .ended).report
      | .error _ => some (s.moved i .ended)
    | _ => none
  | .stop i => some (s.moved i .ended)

/-- The attempts the row of the case has counted. -/
def attempts (s : LinkageRun ι) : Nat :=
  ((s.table.get? caseId).map LinkageRetryRecord.attemptCount).getD 0

/-- No two invocations are between their `SEARCHING` and their outcome. -/
def AtMostOne (s : LinkageRun ι) : Prop :=
  ∀ i j, (s.phase i).isAttempting = true → (s.phase j).isAttempting = true → i = j

/-- No invocation is between its `SEARCHING` and its outcome. -/
def Unattended (s : LinkageRun ι) : Prop := ∀ i, (s.phase i).isAttempting = false

/-- An invocation enters `SEARCHING` on a row that still has the attempt count it read,
and on a row that already is `SEARCHING` only when the attempt that row stands for is
over. -/
def EntersAlone (s : LinkageRun ι) : LinkageStep ι → Prop
  | .search i _ => ∀ record row, s.phase i = .due record → s.table.get? caseId = some row →
      row.state = record.state →
      row.attemptCount = record.attemptCount ∧ (row.state = .searching → s.Unattended)
  | .acceptSearch _ => ∀ row, s.table.get? caseId = some row → row.state = .searching →
      s.Unattended
  | _ => True

instance [Fintype ι] (s : LinkageRun ι) : Decidable s.Unattended :=
  inferInstanceAs (Decidable (∀ _, _))

/-- Whether a step enters alone can be read off the phase and the row. -/
instance [Fintype ι] (s : LinkageRun ι) : (l : LinkageStep ι) → Decidable (s.EntersAlone caseId l)
  | .search i _ =>
    decidable_of_iff (∀ record ∈ (s.phase i).record?, s.phase i = .due record →
        ∀ row ∈ s.table.get? caseId, row.state = record.state →
          row.attemptCount = record.attemptCount ∧ (row.state = .searching → s.Unattended))
      ⟨fun h record row hdue => h record (hdue ▸ rfl) hdue row,
        fun h record _ hdue row => h record row hdue⟩
  | .acceptSearch _ =>
    inferInstanceAs (Decidable (∀ row ∈ s.table.get? caseId, row.state = .searching →
      s.Unattended))
  | .read .. | .outcome .. | .acceptOutcome _ | .stop _ => .isTrue trivial

/-! ## What one step does -/

variable {policy caseId} {s s' : LinkageRun ι} {i : ι}

omit [Platform] in
theorem phase_moved {j : ι} {p : LinkagePhase} :
    (s.moved i p).phase j = if j = i then p else s.phase j :=
  Function.update_apply s.phase i p j

omit [DecidableEq ι] [Platform] in
theorem phaseOfRead_cases (record : LinkageRetryRecord) (now : DateTime) :
    phaseOfRead record now = .ended ∨ phaseOfRead record now = .due record := by
  unfold phaseOfRead
  repeat' split
  all_goals simp

omit [DecidableEq ι] [Platform] in
/-- A new record has counted nothing. -/
theorem createPending_attemptCount {pdIncidentId : String} {incidentSysId : Option String}
    {window : Int} {now : DateTime} {pending : LinkageRetryRecord}
    (h : createPendingLinkageRetryRecord caseId pdIncidentId incidentSysId window now =
      .ok pending) : pending.attemptCount = 0 := by
  obtain ⟨t, -, h⟩ := Except.bind_eq_ok.mp h
  obtain ⟨deadline, -, h⟩ := Except.bind_eq_ok.mp h
  exact (LinkageRetryRecord.validate_state h).2.2

/-- A read ends the invocation or finds an attempt due, and may insert the row of a case
that had none. -/
theorem step_read {pdIncidentId : String} {incidentSysId : Option String} {now : DateTime}
    (h : step policy caseId s (.read i pdIncidentId incidentSysId now) = some s') :
    ∃ p, (p = .ended ∨ ∃ record, p = .due record) ∧
      (s' = s.moved i p ∨ ∃ pending, s.table.get? caseId = none ∧ pending.attemptCount = 0 ∧
        s' = (s.stored (s.table.set caseId pending)).moved i p) := by
  simp only [step] at h
  split at h
  · rcases getOrCreatePending_cases s.table caseId pdIncidentId incidentSysId
      policy.retryWindowMinutes now with
      ⟨e, hcall⟩ | ⟨row, r, -, -, -, hcall⟩ | ⟨pending, r, hnone, hpending, -, hcall⟩
    · rw [hcall] at h
      exact ⟨.ended, .inl rfl, .inl (Option.some.inj h).symm⟩
    · rw [hcall] at h
      refine ⟨phaseOfRead r now, ?_, .inl (Option.some.inj h).symm⟩
      exact (phaseOfRead_cases r now).imp id fun hdue => ⟨r, hdue⟩
    · rw [hcall] at h
      refine ⟨phaseOfRead r now, ?_, .inr ⟨pending, hnone, createPending_attemptCount hpending,
        (Option.some.inj h).symm⟩⟩
      exact (phaseOfRead_cases r now).imp id fun hdue => ⟨r, hdue⟩
  · cases h

/-- A search ends the invocation, writes the record it read as `SEARCHING` over a row in
the same state, or touches no row. -/
theorem step_search {now : DateTime} (h : step policy caseId s (.search i now) = some s') :
    ∃ record, s.phase i = .due record ∧
      (s' = s.moved i .ended ∨
        (∃ row t r, s.table.get? caseId = some row ∧ row.state = record.state ∧
          (searchingRecord record t).validate = .ok r ∧
          s' = (s.stored (s.table.set caseId (searchingRecord record t))).moved i
            (.searching r)) ∨
        ∃ t, s' = s.moved i (.searchMissed record.state (searchingRecord record t))) := by
  simp only [step] at h
  split at h
  · next record hdue =>
    refine ⟨record, hdue, ?_⟩
    split at h
    · exact .inl (Option.some.inj h).symm
    · next next hmark =>
      obtain ⟨-, t, rfl⟩ := markLinkageSearching_ok hmark
      split at h
      · next persisted table hupdate =>
        rcases updateGuarded_ok hupdate with ⟨row, r, hget, hmem, hr, hsome⟩ | ⟨-, hsome⟩
        · cases hsome
          exact .inr (.inl ⟨row, t, _, hget, List.mem_singleton.mp hmem, hr,
            (Option.some.inj h).symm⟩)
        · cases hsome
      · exact .inr (.inr ⟨t, (Option.some.inj h).symm⟩)
      · exact .inl (Option.some.inj h).symm
  · cases h

/-- A second look after a missed search ends the invocation or takes over the row. -/
theorem step_acceptSearch (h : step policy caseId s (.acceptSearch i) = some s') :
    ∃ source next, s.phase i = .searchMissed source next ∧
      (s' = s.moved i .ended ∨ ∃ row r, s.table.get? caseId = some row ∧
        row.validate = .ok r ∧ r.state = next.state ∧ s' = s.moved i (.searching r)) := by
  simp only [step] at h
  split at h
  · next source next hmissed =>
    refine ⟨source, next, hmissed, ?_⟩
    split at h
    · next latest haccept =>
      obtain ⟨row, hget, hvalid, hstate⟩ := acceptLatest_ok haccept
      exact .inr ⟨row, latest, hget, hvalid, hstate, (Option.some.inj h).symm⟩
    · exact .inl (Option.some.inj h).symm
  · cases h

/-- An outcome ends the invocation, is written with one attempt more over a row that is
`SEARCHING`, or touches no row. -/
theorem step_outcome {incidentSysId : Option String} {result : ServiceNowLinkageWriteResult}
    {now : DateTime} (h : step policy caseId s (.outcome i incidentSysId result now) = some s') :
    ∃ record, s.phase i = .searching record ∧
      (s' = s.moved i .ended ∨
        (∃ row next, s.table.get? caseId = some row ∧ row.state = .searching ∧
          next.attemptCount = record.attemptCount + 1 ∧
          s' = ((s.stored (s.table.set caseId next)).moved i .ended).report) ∨
        ((∀ row, s.table.get? caseId = some row → row.state ≠ .searching) ∧
          ∃ next, s' = s.moved i (.outcomeMissed next))) := by
  simp only [step] at h
  split at h
  · next record hsearching =>
    refine ⟨record, hsearching, ?_⟩
    split at h
    · exact .inl (Option.some.inj h).symm
    · next next hnext =>
      obtain ⟨-, hcount, -⟩ := outcomeTransition_ok hnext
      split at h
      · next persisted table hupdate =>
        rcases updateGuarded_ok hupdate with ⟨row, r, hget, hmem, -, hsome⟩ | ⟨-, hsome⟩
        · cases hsome
          exact .inr (.inl ⟨row, next, hget, List.mem_singleton.mp hmem, hcount,
            (Option.some.inj h).symm⟩)
        · cases hsome
      · next hupdate =>
        rcases updateGuarded_ok hupdate with ⟨row, r, -, -, -, hsome⟩ | ⟨hnot, -⟩
        · cases hsome
        · refine .inr (.inr ⟨fun row hrow hstate => ?_, next, (Option.some.inj h).symm⟩)
          exact hnot row hrow (List.mem_singleton.mpr hstate)
      · exact .inl (Option.some.inj h).symm
  · cases h

/-- A second look after a missed outcome only happens after a missed outcome. -/
theorem step_acceptOutcome (h : step policy caseId s (.acceptOutcome i) = some s') :
    ∃ next, s.phase i = .outcomeMissed next := by
  simp only [step] at h
  split at h
  · next next hmissed => exact ⟨next, hmissed⟩
  · cases h

/-! ## Runs that enter alone -/

/-- What holds while every invocation enters alone: one attempt at a time, on the row as
it is, and every reported outcome counted. -/
structure Orderly (caseId : String) (before : Nat) (s : LinkageRun ι) : Prop where
  /-- one attempt at a time -/
  single : s.AtMostOne
  /-- no outcome has missed its row -/
  landed : ∀ i next, s.phase i ≠ .outcomeMissed next
  /-- a missed search meant to enter `SEARCHING` -/
  aimed : ∀ i source next, s.phase i = .searchMissed source next → next.state = .searching
  /-- an attempt holds the row as it is -/
  current : ∀ i r, s.phase i = .searching r → ∃ row, s.table.get? caseId = some row ∧
    row.state = .searching ∧ row.attemptCount = r.attemptCount
  /-- every reported outcome is counted -/
  counted : s.attempts caseId = before + s.reported

omit [DecidableEq ι] [Platform] in
theorem orderly_start (table : LinkageTable) :
    Orderly caseId ((start table : LinkageRun ι).attempts caseId) (start table : LinkageRun ι) := by
  constructor <;> simp [start, AtMostOne, LinkagePhase.isAttempting]

omit [Platform] in
/-- Ending an invocation, or moving it to where it is not attempting, keeps the invariant. -/
theorem Orderly.moved {before : Nat} {p : LinkagePhase} (hs : Orderly caseId before s)
    (hp : p.isAttempting = false)
    (haimed : ∀ source next, p = .searchMissed source next → next.state = .searching) :
    Orderly caseId before (s.moved i p) := by
  refine ⟨fun j k hj hk => ?_, fun j next hj => ?_, fun j source next hj => ?_, fun j r hj => ?_,
    hs.counted⟩
  · rw [phase_moved] at hj hk
    split at hj
    · rw [hp] at hj
      cases hj
    · split at hk
      · rw [hp] at hk
        cases hk
      · exact hs.single j k hj hk
  · rw [phase_moved] at hj
    split at hj
    · rw [hj] at hp
      cases hp
    · exact hs.landed j next hj
  · rw [phase_moved] at hj
    split at hj
    · exact haimed source next hj
    · exact hs.aimed j source next hj
  · rw [phase_moved] at hj
    split at hj
    · rw [hj] at hp
      cases hp
    · exact hs.current j r hj

omit [Platform] in
/-- While no other invocation is attempting, one may go on, start an attempt or end, and
the row may change, as long as an attempt holds the row and the count is right. -/
theorem Orderly.alone {before : Nat} {row : LinkageRetryRecord} {p : LinkagePhase}
    (hs : Orderly caseId before s) (hothers : ∀ j, j ≠ i → (s.phase j).isAttempting = false)
    (hp : p = .ended ∨ (∃ record, p = .due record) ∨ ∃ r, p = .searching r)
    (hphase : s'.phase = (s.moved i p).phase) (hget : s'.table.get? caseId = some row)
    (hcurrent : ∀ r, p = .searching r →
      row.state = .searching ∧ row.attemptCount = r.attemptCount)
    (hcounted : row.attemptCount = before + s'.reported) : Orderly caseId before s' := by
  have hphases : ∀ j, s'.phase j = if j = i then p else s.phase j := by
    intro j
    rw [hphase, phase_moved]
  refine ⟨fun j k hj hk => ?_, fun j next hj => ?_, fun j source next hj => ?_, fun j r hj => ?_, ?_⟩
  · have honly : ∀ j, (s'.phase j).isAttempting = true → j = i := by
      intro j hj
      by_contra hne
      rw [hphases, if_neg hne, hothers j hne] at hj
      cases hj
    rw [honly j hj, honly k hk]
  · rw [hphases] at hj
    split at hj
    · rcases hp with rfl | ⟨record, rfl⟩ | ⟨r, rfl⟩ <;> cases hj
    · exact hs.landed j next hj
  · rw [hphases] at hj
    split at hj
    · rcases hp with rfl | ⟨record, rfl⟩ | ⟨r, rfl⟩ <;> cases hj
    · exact hs.aimed j source next hj
  · rw [hphases] at hj
    split at hj
    · exact ⟨row, hget, hcurrent r hj⟩
    · next hne =>
      have hidle := hothers j hne
      rw [hj] at hidle
      cases hidle
  · rw [attempts, hget, Option.map_some, Option.getD_some]
    exact hcounted

omit [DecidableEq ι] [Platform] in
/-- An invocation that attempts while the invariant holds has its row `SEARCHING`. -/
theorem Orderly.searching_of_attempting {before : Nat} (hs : Orderly caseId before s)
    (h : (s.phase i).isAttempting = true) :
    ∃ row, s.table.get? caseId = some row ∧ row.state = .searching := by
  cases hphase : s.phase i with
  | searching r =>
    obtain ⟨row, hget, hstate, -⟩ := hs.current i r hphase
    exact ⟨row, hget, hstate⟩
  | outcomeMissed next => exact absurd hphase (hs.landed i next)
  | _ =>
    rw [hphase] at h
    cases h

/-- **Step lemma**: a step that enters alone keeps the invariant. -/
theorem Orderly.step {before : Nat} {l : LinkageStep ι} (hs : Orderly caseId before s)
    (hl : s.EntersAlone caseId l) (h : step policy caseId s l = some s') :
    Orderly caseId before s' := by
  cases l with
  | read i pdIncidentId incidentSysId now =>
    obtain ⟨p, hp, hcase⟩ := step_read h
    have hidle : p.isAttempting = false ∧ ∀ source next, p ≠ .searchMissed source next := by
      rcases hp with rfl | ⟨record, rfl⟩
      · exact ⟨rfl, by simp⟩
      · exact ⟨rfl, by simp⟩
    rcases hcase with rfl | ⟨pending, hnone, hzero, rfl⟩
    · exact hs.moved hidle.1 fun source next hnext => absurd hnext (hidle.2 source next)
    · -- a case without a row has no attempt under way
      have hnobody : ∀ j, (s.phase j).isAttempting = false := by
        intro j
        by_contra hj
        obtain ⟨row, hrow, -⟩ := hs.searching_of_attempting (Bool.not_eq_false _ ▸ hj)
        rw [hnone] at hrow
        cases hrow
      refine hs.alone (fun j _ => hnobody j) ?_ rfl (Dict.get?_set.trans (if_pos rfl)) ?_ ?_
      · exact hp.imp id .inl
      · intro r hr
        rw [hr] at hidle
        cases hidle.1
      · have hcounted := hs.counted
        rw [attempts, hnone] at hcounted
        rw [hzero]
        exact hcounted
  | search i now =>
    obtain ⟨record, hdue, rfl | ⟨row, t, r, hget, hstate, hr, rfl⟩ | ⟨t, rfl⟩⟩ := step_search h
    · exact hs.moved rfl (by simp)
    · obtain ⟨hcount, hover⟩ := hl record row hdue hget hstate
      obtain ⟨-, -, hattempts⟩ := LinkageRetryRecord.validate_state hr
      have hnobody : ∀ j, (s.phase j).isAttempting = false := by
        intro j
        by_contra hj
        obtain ⟨row', hrow', hsearching⟩ := hs.searching_of_attempting (Bool.not_eq_false _ ▸ hj)
        obtain rfl := Option.some.inj (hget.symm.trans hrow')
        exact hj (hover hsearching j)
      refine hs.alone (fun j _ => hnobody j) (.inr (.inr ⟨r, rfl⟩)) rfl
        (Dict.get?_set.trans (if_pos rfl)) ?_ ?_
      · intro r' hr'
        cases hr'
        exact ⟨rfl, hattempts.symm⟩
      · have hcounted := hs.counted
        rw [attempts, hget, Option.map_some, Option.getD_some] at hcounted
        exact hcount.symm.trans hcounted
    · refine hs.moved rfl fun source next hnext => ?_
      cases hnext
      rfl
  | acceptSearch i =>
    obtain ⟨source, next, hmissed, rfl | ⟨row, r, hget, hvalid, hstate, rfl⟩⟩ :=
      step_acceptSearch h
    · exact hs.moved rfl (by simp)
    · obtain ⟨-, hsame, hattempts⟩ := LinkageRetryRecord.validate_state hvalid
      have hsearching : row.state = .searching := by
        rw [← hsame, hstate, hs.aimed i source next hmissed]
      have hnobody := hl row hget hsearching
      refine hs.alone (fun j _ => hnobody j) (.inr (.inr ⟨r, rfl⟩)) rfl hget ?_ ?_
      · intro r' hr'
        cases hr'
        exact ⟨hsearching, hattempts.symm⟩
      · have hcounted := hs.counted
        rw [attempts, hget, Option.map_some, Option.getD_some] at hcounted
        exact hcounted
  | outcome i incidentSysId result now =>
    obtain ⟨record, hphase, hcase⟩ := step_outcome h
    obtain ⟨row', hget', hsearching, hsame⟩ := hs.current i record hphase
    rcases hcase with rfl | ⟨row, next, hget, -, hcount, rfl⟩ | ⟨hnot, -⟩
    · exact hs.moved rfl (by simp)
    · obtain rfl := Option.some.inj (hget.symm.trans hget')
      refine hs.alone ?_ (.inl rfl) rfl (Dict.get?_set.trans (if_pos rfl)) (by simp) ?_
      · intro j hj
        by_contra hattempting
        exact hj (hs.single j i (Bool.not_eq_false _ ▸ hattempting) (by rw [hphase]; rfl))
      · have hcounted := hs.counted
        rw [attempts, hget, Option.map_some, Option.getD_some] at hcounted
        rw [hcount, ← hsame, hcounted]
        rfl
    · exact absurd hsearching (hnot row' hget')
  | acceptOutcome i =>
    obtain ⟨next, hmissed⟩ := step_acceptOutcome h
    exact absurd hmissed (hs.landed i next)
  | stop i =>
    cases h
    exact hs.moved rfl (by simp)

/-- A step reports no outcome or one. -/
theorem reported_le_step {l : LinkageStep ι} (h : step policy caseId s l = some s') :
    s.reported ≤ s'.reported := by
  cases l with
  | read i pdIncidentId incidentSysId now =>
    obtain ⟨p, -, rfl | ⟨pending, -, -, rfl⟩⟩ := step_read h
    · exact le_rfl
    · exact le_rfl
  | search i now =>
    obtain ⟨record, -, rfl | ⟨row, t, r, -, -, -, rfl⟩ | ⟨t, rfl⟩⟩ := step_search h
    · exact le_rfl
    · exact le_rfl
    · exact le_rfl
  | acceptSearch i =>
    obtain ⟨source, next, -, rfl | ⟨row, r, -, -, -, rfl⟩⟩ := step_acceptSearch h
    · exact le_rfl
    · exact le_rfl
  | outcome i incidentSysId result now =>
    obtain ⟨record, -, rfl | ⟨row, next, -, -, -, rfl⟩ | ⟨-, next, rfl⟩⟩ := step_outcome h
    · exact le_rfl
    · exact Nat.le_succ _
    · exact le_rfl
  | acceptOutcome i =>
    simp only [step] at h
    split at h
    · split at h
      · cases h
        exact Nat.le_succ _
      · cases h
        exact le_rfl
    · cases h
  | stop i =>
    cases h
    exact le_rfl

/-- **Run lemma**: what a run that enters alone keeps. -/
theorem orderly_run {table : LinkageTable} {ls : List (LinkageStep ι)}
    (hrun : Runs.run (step policy caseId) (start table) ls = some s)
    (hP : Runs.Along (step policy caseId) (EntersAlone caseId) (start table) ls) :
    Orderly caseId ((start table : LinkageRun ι).attempts caseId) s :=
  Runs.run_inv_along (fun _ _ _ hs hl h => Orderly.step hs hl h) hP hrun (orderly_start table)

end LinkageRun

open LinkageRun

/-- **Linkage attempts.** In a run whose every invocation enters alone, at most one
invocation at a time is between its `SEARCHING` and its outcome; and from any state of the
run to any later one the attempt count does not decrease and grows by one for every
outcome that an invocation reports as persisted in between. -/
theorem linkage_attempts_counted [Platform] {policy : LinkageRetryPolicy} {caseId : String}
    {ι : Type} [DecidableEq ι] {table : LinkageTable} {s s' : LinkageRun ι}
    {ls ls' : List (LinkageStep ι)}
    (hP : Runs.Along (step policy caseId) (EntersAlone caseId) (start table) (ls ++ ls'))
    (hrun : Runs.run (step policy caseId) (start table) ls = some s)
    (hrun' : Runs.run (step policy caseId) s ls' = some s') :
    s'.AtMostOne ∧ s.attempts caseId ≤ s'.attempts caseId ∧
      s'.attempts caseId = s.attempts caseId + (s'.reported - s.reported) := by
  have hs := orderly_run hrun ((Runs.along_append hrun).mp hP).1
  have hs' : Orderly caseId ((start table : LinkageRun ι).attempts caseId) s' := by
    refine orderly_run ?_ hP
    rw [Runs.run_append, hrun]
    exact hrun'
  have hle : s.reported ≤ s'.reported :=
    Runs.run_inv (I := fun t => s.reported ≤ t.reported)
      (fun _ _ _ ht h => ht.trans (reported_le_step h)) hrun' le_rfl
  refine ⟨hs'.single, ?_, ?_⟩
  · rw [hs.counted, hs'.counted]
    omega
  · rw [hs.counted, hs'.counted]
    omega

/-! ## Two orchestrators on one case -/

/-- An attempt that timed out. -/
def timedOut : ServiceNowLinkageWriteResult where
  linkageStatus := .failed
  linkageReason := "upsert_error"
  requestId := "req-1"
  reasonMetadata := ⟨[("error", .str "timed out"), ("error_code", .str "timeout")], by decide⟩

/-- Both invocations read the `PENDING` row before either enters `SEARCHING`. -/
def bothReadPending : List (LinkageStep Bool) :=
  [.read false "pd-1" (some "inc-1") (.aware newYear2026),
    .read true "pd-1" (some "inc-1") (.aware newYear2026),
    .search false (.aware newYear2026), .search true (.aware newYear2026), .acceptSearch true]

/-- Both attempts time out. -/
def bothTimeOut : List (LinkageStep Bool) :=
  [.outcome false (some "inc-1") timedOut (.aware newYear2026),
    .outcome true (some "inc-1") timedOut (.aware newYear2026), .acceptOutcome true]

/-- What is seen of two invocations: whether each is attempting, the attempts counted and
the outcomes reported. -/
def glance (s : LinkageRun Bool) : (Bool × Bool) × Nat × Nat :=
  (((s.phase false).isAttempting, (s.phase true).isAttempting), s.attempts "case-1", s.reported)

/-- The second invocation finds the row `SEARCHING`, takes that for its own transition and
asks ServiceNow as well; then it takes the `FAILED_TEMP` of the first for its own, and one
of two reported outcomes is not counted. -/
theorem attempts_run_twice :
    let := asciiPlatform []
    ∃ s s', Runs.run (step {} "case-1") (start Dict.empty) bothReadPending = some s ∧
      Runs.run (step {} "case-1") s bothTimeOut = some s' ∧
      ¬ s.AtMostOne ∧ s.attempts "case-1" = 0 ∧ s.reported = 0 ∧
      s'.attempts "case-1" = 1 ∧ s'.reported = 2 := by
  intro _
  have hboth : (Runs.run (step {} "case-1") (start Dict.empty) bothReadPending).map glance =
      some ((true, true), 0, 0) := by decide +kernel
  have htimeout : (Runs.run (step {} "case-1") (start Dict.empty)
      (bothReadPending ++ bothTimeOut)).map glance = some ((false, false), 1, 2) := by
    decide +kernel
  obtain ⟨s, hs, hglance⟩ := Option.map_eq_some_iff.mp hboth
  rw [Runs.run_append, hs, Option.bind_some] at htimeout
  obtain ⟨s', hs', hglance'⟩ := Option.map_eq_some_iff.mp htimeout
  simp only [glance, Prod.mk.injEq] at hglance hglance'
  obtain ⟨⟨hfalse, htrue⟩, hattempts, hreported⟩ := hglance
  refine ⟨s, s', hs, hs', fun hone => ?_, hattempts, hreported, hglance'.2⟩
  exact absurd (hone false true hfalse htrue) (by decide)

/-- The row of `case-1` before the first attempt. -/
def pendingCase1 : LinkageRetryRecord where
  caseId := "case-1"
  pdIncidentId := "pd-1"
  incidentSysId := some "inc-1"
  state := .pending
  attemptCount := 0
  retryWindowMinutes := 120
  firstAttemptAt := newYear2026
  updatedAt := newYear2026
  deadlineAt := newYear2026 + 7200000000
  nextAttemptAt := none
  requestId := none
  lastErrorCode := none
  lastErrorMessage := none
  lastRetryAfterSeconds := none
  lastReasonMetadata := Dict.empty

/-- The first of three invocations enters `SEARCHING`; the second reads the row while the first is
at it, and the first stops. -/
def stoppedWhileSearching : List (LinkageStep (Fin 3)) :=
  [.read 0 "pd-1" (some "inc-1") (.aware newYear2026), .search 0 (.aware newYear2026),
    .read 1 "pd-1" (some "inc-1") (.aware newYear2026), .stop 0]

/-- The second enters `SEARCHING` again and times out, and so does the third when the retry is
due, an hour later. -/
def reenteredAndRetried : List (LinkageStep (Fin 3)) :=
  [.search 1 (.aware newYear2026), .outcome 1 (some "inc-1") timedOut (.aware newYear2026),
    .read 2 "pd-1" (some "inc-1") (.aware (newYear2026 + 3600000000)),
    .search 2 (.aware (newYear2026 + 3600000000)),
    .outcome 2 (some "inc-1") timedOut (.aware (newYear2026 + 3600000000))]

/-- Each invocation enters alone, the second on a row that is `SEARCHING` already: one attempt at
a time, and both outcomes are counted. -/
theorem linkage_attempts_counted_case1 :
    let := asciiPlatform []
    ∃ s s', Runs.run (step {} "case-1") (start Dict.empty) stoppedWhileSearching = some s ∧
      Runs.run (step {} "case-1") s reenteredAndRetried = some s' ∧
      s'.AtMostOne ∧ s'.attempts "case-1" = s.attempts "case-1" + (s'.reported - s.reported) ∧
      s.reported = 0 ∧ s'.reported = 2 := by
  intro _
  have hstopped : (Runs.run (step {} "case-1") (start Dict.empty) stoppedWhileSearching).map
      LinkageRun.reported = some 0 := by decide +kernel
  have hretried : (Runs.run (step {} "case-1") (start Dict.empty)
      (stoppedWhileSearching ++ reenteredAndRetried)).map LinkageRun.reported = some 2 := by
    decide +kernel
  have halone : Runs.Along (step {} "case-1") (EntersAlone "case-1") (start Dict.empty)
      (stoppedWhileSearching ++ reenteredAndRetried) := by
    decide +kernel
  obtain ⟨s, hs, hreported⟩ := Option.map_eq_some_iff.mp hstopped
  rw [Runs.run_append, hs, Option.bind_some] at hretried
  obtain ⟨s', hs', hreported'⟩ := Option.map_eq_some_iff.mp hretried
  obtain ⟨hone, -, hcount⟩ := linkage_attempts_counted halone hs hs'
  exact ⟨s, s', hs, hs', hone, hcount, hreported, hreported'⟩

end AiopsTriage
