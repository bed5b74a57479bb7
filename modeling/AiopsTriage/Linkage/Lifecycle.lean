import AiopsTriage.Lib.Runs
import AiopsTriage.Linkage.StateMachine

/-!
# Life of a linkage record

One record, taken through the transitions of the state machine one call after the other,
whatever the clocks say and whatever ServiceNow answers; a call that raises leaves the record
as it is. Over every such run the record keeps its identity and its window, counts the
outcomes it was told of, and waits for a time inside the window exactly while it is
`FAILED_TEMP` (`WellKept`). Each call moves it forward in time, never out of a terminal state,
and waits at least as long as it was asked to (`Forward`). The two together are
`linkage_record_kept`.
-/

namespace AiopsTriage

/-! ## Time -/

theorem resolveLinkageTransitionNow_le {record : LinkageRetryRecord} {now : DateTime} {t : Instant}
    (h : resolveLinkageTransitionNow record now = .ok t) : record.updatedAt ≤ t := by
  obtain ⟨u, -, hu⟩ := Except.bind_eq_ok.mp h
  rw [Except.pure_eq_ok] at hu
  split at hu
  · exact hu.le
  · next hle => exact hu ▸ not_lt.mp hle

theorem addDelta_ok {t u : Instant} {delta : Int} (h : addDelta t delta = .ok u) :
    u = t + delta := by
  unfold addDelta at h
  split at h
  · cases h
    rfl
  · cases h

theorem markLinkageSearching_le {record next : LinkageRetryRecord} {now : DateTime}
    (h : markLinkageSearching record now = .ok next) : record.updatedAt ≤ next.updatedAt := by
  obtain ⟨_, -, h⟩ := Except.bind_eq_ok.mp h
  obtain ⟨t, ht, h⟩ := Except.bind_eq_ok.mp h
  rw [Except.pure_eq_ok] at h
  subst h
  exact resolveLinkageTransitionNow_le ht

theorem markLinkageSuccess_le {record next : LinkageRetryRecord}
    {requestId incidentSysId : Option String} {metadata : Dict String Json} {now : DateTime}
    (h : markLinkageSuccess record requestId incidentSysId metadata now = .ok next) :
    record.updatedAt ≤ next.updatedAt := by
  obtain ⟨_, -, h⟩ := Except.bind_eq_ok.mp h
  obtain ⟨t, ht, h⟩ := Except.bind_eq_ok.mp h
  rw [Except.pure_eq_ok] at h
  subst h
  exact resolveLinkageTransitionNow_le ht

/-- The wait that ServiceNow asked for, at most the longest delay of the policy. -/
def hintedWait (policy : LinkageRetryPolicy) (failure : LinkageFailure) : Int :=
  (boundedRetryAfter policy failure).getD 0

/-- A returned failure gives up, or schedules the next attempt inside the window, not before
the wait that was asked for is over. -/
theorem markLinkageFailure_schedule [Platform] {policy : LinkageRetryPolicy}
    {record next : LinkageRetryRecord} {failure : LinkageFailure} {now : DateTime}
    (h : markLinkageFailure policy record failure now = .ok next) :
    record.updatedAt ≤ next.updatedAt ∧
      ((next.state = .failedFinal ∧ next.nextAttemptAt = none) ∨
        (next.state = .failedTemp ∧ ∃ due, next.nextAttemptAt = some due ∧
          next.updatedAt < due ∧ due ≤ record.deadlineAt ∧
          1000000 * hintedWait policy failure ≤ due - next.updatedAt)) := by
  obtain ⟨_, -, h⟩ := Except.bind_eq_ok.mp h
  obtain ⟨t, ht, h⟩ := Except.bind_eq_ok.mp h
  have hle := resolveLinkageTransitionNow_le ht
  split at h
  · rw [Except.pure_eq_ok] at h
    subst h
    exact ⟨hle, .inl ⟨rfl, rfl⟩⟩
  · split at h
    · rw [Except.pure_eq_ok] at h
      subst h
      exact ⟨hle, .inl ⟨rfl, rfl⟩⟩
    · obtain ⟨computed, hcomputed, h⟩ := Except.bind_eq_ok.mp h
      obtain ⟨due, hdue, h⟩ := Except.bind_eq_ok.mp h
      split at h
      · rw [Except.pure_eq_ok] at h
        subst h
        exact ⟨hle, .inl ⟨rfl, rfl⟩⟩
      · next hwindow =>
        rw [Except.pure_eq_ok] at h
        subst h
        have hcomputed := one_le_of_computeRetryDelaySeconds hcomputed
        have hdue := addDelta_ok hdue
        -- the delay is the larger one of the computed and the hinted
        have hdelay : (1 : Int) ≤ (boundedRetryAfter policy failure).elim (computed : Int)
              (max computed) ∧
            hintedWait policy failure ≤ (boundedRetryAfter policy failure).elim (computed : Int)
              (max computed) := by
          unfold hintedWait
          cases boundedRetryAfter policy failure with
          | none =>
            simp only [Option.elim_none, Option.getD_none]
            omega
          | some wait =>
            simp only [Option.elim_some, Option.getD_some]
            omega
        refine ⟨hle, .inr ⟨rfl, due, rfl, ?_, not_lt.mp hwindow, ?_⟩⟩
        · rw [hdue]
          exact lt_add_of_pos_right t (mul_pos (by decide) (lt_of_lt_of_le one_pos hdelay.1))
        · change _ ≤ due - t
          rw [hdue, add_sub_cancel_left]
          exact mul_le_mul_of_nonneg_left hdelay.2 (by decide)

/-! ## Runs -/

/-- A call on the record, with what it is told. -/
inductive LinkageCall where
  /-- `mark_linkage_searching` -/
  | searching (now : DateTime)
  /-- `mark_linkage_success` -/
  | success (requestId incidentSysId : Option String) (metadata : Dict String Json)
      (now : DateTime)
  /-- `mark_linkage_failure` -/
  | failed (failure : LinkageFailure) (now : DateTime)

/-- Whether a call tells of an outcome. -/
def LinkageCall.isOutcome : LinkageCall → Bool
  | .searching _ => false
  | .success _ _ _ _ => true
  | .failed _ _ => true

/-- What a call makes of a record. -/
def LinkageCall.apply [Platform] (policy : LinkageRetryPolicy) (record : LinkageRetryRecord) :
    LinkageCall → Except Failure LinkageRetryRecord
  | .searching now => markLinkageSearching record now
  | .success requestId incidentSysId metadata now =>
    markLinkageSuccess record requestId incidentSysId metadata now
  | .failed failure now => markLinkageFailure policy record failure now

/-- A record, and how many outcomes it has recorded. -/
structure LinkageLife where
  /-- the record -/
  record : LinkageRetryRecord
  /-- the calls with an outcome that returned -/
  outcomes : Nat

namespace LinkageLife

variable [Platform] (policy : LinkageRetryPolicy)

/-- One call; one that raises changes nothing. -/
def step (s : LinkageLife) (c : LinkageCall) : Option LinkageLife :=
  match c.apply policy s.record with
  | .ok next => some ⟨next, s.outcomes + if c.isOutcome then 1 else 0⟩
  | .error _ => some s

/-- What a record keeps over its life. -/
structure WellKept (created : LinkageRetryRecord) (s : LinkageLife) : Prop where
  /-- the case -/
  caseId : s.record.caseId = created.caseId
  /-- the incident -/
  pdIncidentId : s.record.pdIncidentId = created.pdIncidentId
  /-- how long attempts are made -/
  retryWindowMinutes : s.record.retryWindowMinutes = created.retryWindowMinutes
  /-- when the window opened -/
  firstAttemptAt : s.record.firstAttemptAt = created.firstAttemptAt
  /-- when it closes -/
  deadlineAt : s.record.deadlineAt = created.deadlineAt
  /-- every outcome is counted -/
  counted : s.record.attemptCount = s.outcomes
  /-- a `FAILED_TEMP` record waits, and no other does -/
  waiting : s.record.state = .failedTemp ↔ s.record.nextAttemptAt.isSome
  /-- for a time after its last change and inside the window -/
  window : ∀ due, s.record.nextAttemptAt = some due →
    s.record.updatedAt < due ∧ due ≤ s.record.deadlineAt

/-- How a call moves a record on. -/
structure Forward (s : LinkageLife) (c : LinkageCall) (s' : LinkageLife) : Prop where
  /-- a terminal state is never left -/
  terminal : s.record.state = .linked ∨ s.record.state = .failedFinal → s' = s
  /-- time does not run backwards -/
  le : s.record.updatedAt ≤ s'.record.updatedAt
  /-- a failure that is retried waits as long as ServiceNow asked, up to the longest delay of
  the policy -/
  hint : ∀ failure now next due wait, c = .failed failure now →
    c.apply policy s.record = .ok next → next.state = .failedTemp →
    next.nextAttemptAt = some due → failure.retryAfterSeconds = some wait → 0 < wait →
    1000000 * min wait policy.retryMaxSeconds ≤ due - next.updatedAt

variable {policy} {created : LinkageRetryRecord} {s s' : LinkageLife} {c : LinkageCall}

/-- A call raises and changes nothing, or returns the next record. -/
theorem step_cases (h : step policy s c = some s') :
    s' = s ∨ ∃ next, c.apply policy s.record = .ok next ∧
      s' = ⟨next, s.outcomes + if c.isOutcome then 1 else 0⟩ := by
  unfold step at h
  split at h
  · next next hnext => exact .inr ⟨next, hnext, (Option.some.inj h).symm⟩
  · exact .inl (Option.some.inj h).symm

omit [Platform] in
/-- A new record has its identity, nothing counted and nothing to wait for. -/
theorem wellKept_created {caseId pdIncidentId : String} {incidentSysId : Option String}
    {window : Int} {now : DateTime}
    (h : createPendingLinkageRetryRecord caseId pdIncidentId incidentSysId window now =
      .ok created) : WellKept created ⟨created, 0⟩ := by
  obtain ⟨t, -, h⟩ := Except.bind_eq_ok.mp h
  obtain ⟨deadline, -, h⟩ := Except.bind_eq_ok.mp h
  obtain ⟨incidentSysId, requestId, code, message, rfl⟩ := LinkageRetryRecord.validate_ok h
  exact ⟨rfl, rfl, rfl, rfl, rfl, rfl, by simp, fun due hdue => (by cases hdue)⟩

/-- One call keeps it. -/
theorem WellKept.step (h : WellKept created s) (hstep : step policy s c = some s') :
    WellKept created s' := by
  rcases step_cases hstep with rfl | ⟨next, hnext, rfl⟩
  · exact h
  · cases c with
    | searching now =>
      obtain ⟨-, t, rfl⟩ := markLinkageSearching_ok hnext
      exact ⟨h.caseId, h.pdIncidentId, h.retryWindowMinutes, h.firstAttemptAt, h.deadlineAt,
        h.counted, by simp [searchingRecord], fun due hdue => (by cases hdue)⟩
    | success requestId incidentSysId metadata now =>
      obtain ⟨-, t, rfl⟩ := markLinkageSuccess_ok hnext
      exact ⟨h.caseId, h.pdIncidentId, h.retryWindowMinutes, h.firstAttemptAt, h.deadlineAt,
        congrArg (· + 1) h.counted, by simp [linkedRecord], fun due hdue => (by cases hdue)⟩
    | failed failure now =>
      obtain ⟨-, hschedule⟩ := markLinkageFailure_schedule hnext
      obtain ⟨-, state, t, nextAttemptAt, code, message, retryAfter, metadata, -, rfl⟩ :=
        markLinkageFailure_ok hnext
      refine ⟨h.caseId, h.pdIncidentId, h.retryWindowMinutes, h.firstAttemptAt, h.deadlineAt,
        congrArg (· + 1) h.counted, ?_, ?_⟩
      · rcases hschedule with ⟨hstate, hnone⟩ | ⟨hstate, due, hdue, -⟩
        · rw [hstate, hnone]
          decide
        · rw [hstate, hdue]
          exact iff_of_true rfl rfl
      · intro due hdue
        rcases hschedule with ⟨-, hnone⟩ | ⟨-, due', hdue', hlt, hle, -⟩
        · cases hnone.symm.trans hdue
        · cases hdue'.symm.trans hdue
          exact ⟨hlt, hle⟩

/-- A call on a terminal record raises. -/
theorem apply_terminal (h : s.record.state = .linked ∨ s.record.state = .failedFinal)
    {next : LinkageRetryRecord} : c.apply policy s.record ≠ .ok next := by
  intro hnext
  have hsearching : s.record.state ≠ .searching := by
    rcases h with h | h <;> rw [h] <;> decide
  cases c with
  | searching now =>
    obtain ⟨hguard, -⟩ := markLinkageSearching_ok hnext
    exact h.elim hguard.1 hguard.2
  | success requestId incidentSysId metadata now =>
    exact hsearching (markLinkageSuccess_ok hnext).1
  | failed failure now => exact hsearching (markLinkageFailure_ok hnext).1

/-- What each call does. -/
theorem forward_step (hstep : step policy s c = some s') : Forward policy s c s' := by
  refine ⟨fun hterminal => ?_, ?_, ?_⟩
  · rcases step_cases hstep with hs | ⟨next, hnext, -⟩
    · exact hs
    · exact absurd hnext (apply_terminal hterminal)
  · rcases step_cases hstep with rfl | ⟨next, hnext, rfl⟩
    · exact le_refl _
    · cases c with
      | searching now => exact markLinkageSearching_le hnext
      | success requestId incidentSysId metadata now => exact markLinkageSuccess_le hnext
      | failed failure now => exact (markLinkageFailure_schedule hnext).1
  · rintro failure now next due wait rfl hnext hstate hdue hwait hpositive
    have hhint : hintedWait policy failure = min wait policy.retryMaxSeconds := by
      rw [hintedWait, boundedRetryAfter, hwait, Option.filter_some, if_pos (decide_eq_true hpositive)]
      rfl
    rw [← hhint]
    rcases (markLinkageFailure_schedule hnext).2 with ⟨hfinal, -⟩ | ⟨-, due', hdue', -, -, hle⟩
    · cases hfinal.symm.trans hstate
    · cases hdue'.symm.trans hdue
      exact hle

/-- **The life of a linkage record**: in every run from its creation it is well kept, and every
further call moves it forward. -/
theorem linkage_record_kept {caseId pdIncidentId : String} {incidentSysId : Option String}
    {window : Int} {now : DateTime}
    (hcreate : createPendingLinkageRetryRecord caseId pdIncidentId incidentSysId window now =
      .ok created) {calls : List LinkageCall}
    (hrun : Runs.run (step policy) ⟨created, 0⟩ calls = some s) :
    WellKept created s ∧ ∀ c s', step policy s c = some s' → Forward policy s c s' :=
  ⟨Runs.run_inv (fun _ _ _ => WellKept.step) hrun (wellKept_created hcreate),
    fun _ _ => forward_step⟩

end LinkageLife

/-- A record created at New Year for two hours. -/
def createdAtNewYear : LinkageRetryRecord where
  caseId := "case-1"
  pdIncidentId := "PD-1"
  incidentSysId := none
  state := .pending
  attemptCount := 0
  retryWindowMinutes := 120
  firstAttemptAt := newYear2026
  updatedAt := newYear2026
  deadlineAt := newYear2026 + 7200000000
  nextAttemptAt := none
  requestId := none
  lastErrorCode := none
  lastErrorMessage := none
  lastRetryAfterSeconds := none
  lastReasonMetadata := .empty

/-- A rate limit that asks for ten minutes. -/
def rateLimited : LinkageFailure where
  transient := true
  errorCode := "http_429"
  errorMessage := "too many requests"
  requestId := some "request-1"
  retryAfterSeconds := some 600
  reasonMetadata := .empty

/-- One attempt on it that is rate limited, on a clock that runs backwards. -/
theorem linkage_record_kept_new_year :
    ∃ s, Runs.run (@LinkageLife.step (asciiPlatform []) {}) ⟨createdAtNewYear, 0⟩
        [.searching (.aware newYear2026), .failed rateLimited (.aware 0)] = some s ∧
      s.record.nextAttemptAt = some (newYear2026 + 600000000) ∧
      LinkageLife.WellKept createdAtNewYear s := by
  have hread : (Runs.run (@LinkageLife.step (asciiPlatform []) {}) ⟨createdAtNewYear, 0⟩
      [.searching (.aware newYear2026), .failed rateLimited (.aware 0)]).map
        (fun s => s.record.nextAttemptAt) = some (some (newYear2026 + 600000000)) := by
    decide +kernel
  have hcreate : createPendingLinkageRetryRecord "case-1" "PD-1" none 120 (.aware newYear2026) =
      .ok createdAtNewYear := by
    decide +kernel
  obtain ⟨s, hrun, hdue⟩ := Option.map_eq_some_iff.mp hread
  exact ⟨s, hrun, hdue, (@LinkageLife.linkage_record_kept (asciiPlatform []) _ _ _ _ _ _ _ _ hcreate
    _ hrun).1⟩

end AiopsTriage
