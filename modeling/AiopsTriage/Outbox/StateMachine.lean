import AiopsTriage.Lib.Fallible
import AiopsTriage.Outbox.Schema
import Mathlib.Data.Rat.Floor
import Mathlib.Tactic.Tauto

/-!
# Outbox state machine

The pure transitions of one outbox record: `READY` after the hand-off, `SENT`
after a publish, `RETRY` or `DEAD` after a failed one. Timestamps never run
backwards (`resolveTransitionNow`), whatever the caller's clock says, and a retry
is due after an exponential delay with a deterministic jitter
(`computeRetryDelaySeconds`).
-/

namespace AiopsTriage

/-! ## Clock -/

/-- `_resolve_now`: a naive `now` is refused. An absent `now` is the aware reading
of the clock. -/
def resolveNow : DateTime → Except Failure Instant
  | .aware t => .ok t
  | .naive _ => .error (.valueError "now must be timezone-aware")

/-- `_resolve_transition_now`: a clock behind the record counts as the record's own
time. -/
def resolveTransitionNow (record : OutboxRecord) (now : DateTime) : Except Failure Instant := do
  let resolvedNow ← resolveNow now
  return if resolvedNow < record.updatedAt then record.updatedAt else resolvedNow

theorem resolveTransitionNow_le {record : OutboxRecord} {now : DateTime} {t : Instant}
    (h : resolveTransitionNow record now = .ok t) : record.updatedAt ≤ t := by
  obtain ⟨u, -, hu⟩ := Except.bind_eq_ok.mp h
  rw [Except.pure_eq_ok] at hu
  split at hu
  · exact hu.le
  · next hle => exact hu ▸ not_lt.mp hle

/-- `instant + timedelta(seconds=n)`, which overflows past the last `datetime`. -/
def addSeconds (t : Instant) (n : Nat) : Except Failure Instant :=
  if t + 1000000 * n ≤ maxInstant then .ok (t + 1000000 * n) else .error .overflowError

/-! ## Retry policy -/

section Retry

variable [Platform]

/-- `compute_retry_delay_seconds`. The jitter ratio is an exact rational. -/
def computeRetryDelaySeconds (caseId : String) (attemptNumber : Nat) (baseSeconds : Nat := 30)
    (maxSeconds : Nat := 900) (jitterRatio : ℚ := 1 / 5) : Except Failure Nat :=
  if attemptNumber = 0 then .error (.valueError "attempt_number must be >= 1")
  else
    let expSeconds := min (baseSeconds * 2 ^ (attemptNumber - 1)) maxSeconds
    let jitterWindow := max 1 ⌊expSeconds * jitterRatio⌋.toNat
    let digest := Platform.sha256 (.utf8 s!"{caseId}:{attemptNumber}")
    let jitterValue := digestPrefixNat digest % (2 * jitterWindow + 1)
    let signedJitter : Int := jitterValue - jitterWindow
    .ok (max 1 (expSeconds + signedJitter)).toNat

/-- A retry delay is at least a second. -/
theorem one_le_of_computeRetryDelaySeconds {caseId : String} {n base limit delay : Nat}
    {jitter : ℚ} (h : computeRetryDelaySeconds caseId n base limit jitter = .ok delay) :
    1 ≤ delay := by
  unfold computeRetryDelaySeconds at h
  split at h
  · cases h
  · cases h
    omega

/-- **Retry delay bounds**: a delay is at least a second, and differs from the exponential delay,
up to its limit, by no more than the jitter window, whatever the digest is. -/
theorem computeRetryDelaySeconds_bounds (caseId : String) {n base limit : Nat} {jitter : ℚ}
    (hn : 1 ≤ n) (hbase : 1 ≤ base) (hlimit : base ≤ limit) (hjitter : 0 ≤ jitter ∧ jitter ≤ 1) :
    let exponential : Nat := min (base * 2 ^ (n - 1)) limit
    ∃ delay, computeRetryDelaySeconds caseId n base limit jitter = .ok delay ∧ 1 ≤ delay ∧
      |(delay : ℤ) - exponential| ≤ max 1 ⌊exponential * jitter⌋ := by
  intro exponential
  -- the exponential delay is at least a second itself
  have hpow : 1 ≤ base * 2 ^ (n - 1) := Nat.one_le_iff_ne_zero.mpr
    (Nat.mul_ne_zero (Nat.one_le_iff_ne_zero.mp hbase) (pow_ne_zero _ two_ne_zero))
  have hexponential : 1 ≤ exponential := le_min hpow (hbase.trans hlimit)
  have hfloor : 0 ≤ ⌊exponential * jitter⌋ :=
    Int.floor_nonneg.mpr (mul_nonneg (Nat.cast_nonneg _) hjitter.1)
  let jitterWindow : Nat := max 1 ⌊exponential * jitter⌋.toNat
  have hwindow : (jitterWindow : ℤ) = max 1 ⌊exponential * jitter⌋ := by
    rw [Nat.cast_max, Int.toNat_of_nonneg hfloor, Nat.cast_one]
  let digest := Platform.sha256 (.utf8 s!"{caseId}:{n}")
  let jitterValue : Nat := digestPrefixNat digest % (2 * jitterWindow + 1)
  have hvalue : jitterValue < 2 * jitterWindow + 1 := Nat.mod_lt _ (by omega)
  refine ⟨(max 1 (exponential + (jitterValue - jitterWindow : ℤ))).toNat,
    if_neg (Nat.one_le_iff_ne_zero.mp hn), by omega, ?_⟩
  rw [← hwindow, abs_le]
  constructor
  · omega
  · omega

omit [Platform] in
theorem computeRetryDelaySeconds_bounds_default :
    let _ := asciiPlatform []
    ∃ delay, computeRetryDelaySeconds "case-1" 9 = .ok delay ∧ 1 ≤ delay ∧
      |(delay : ℤ) - (min (30 * 2 ^ (9 - 1)) 900 : Nat)| ≤
        max 1 ⌊(min (30 * 2 ^ (9 - 1)) 900 : Nat) * (1 / 5 : ℚ)⌋ :=
  @computeRetryDelaySeconds_bounds (asciiPlatform []) "case-1" 9 30 900 (1 / 5) (by decide)
    (by decide) (by decide) (by norm_num)

end Retry

/-- `resolve_max_retry_attempts`. -/
def resolveMaxRetryAttempts (policy : OutboxPolicyV1) (appEnv : String) : Except Failure Int :=
  match policy.retentionByEnv.get? appEnv with
  | some retention => .ok retention.maxRetryAttempts
  | none => .error (.valueError s!"unsupported app_env for outbox retry policy: {appEnv}")

/-! ## Transitions -/

/-- `create_pending_outbox_record`: the row of a confirmed casefile. -/
def createPendingOutboxRecord (confirmed : OutboxReadyCasefileV1) (now : Instant) :
    OutboxRecord where
  caseId := confirmed.caseId
  status := .pendingObject
  casefileObjectPath := confirmed.objectPath
  triageHash := confirmed.triageHash
  createdAt := now
  updatedAt := now
  deliveryAttempts := 0
  nextAttemptAt := none
  lastErrorCode := none
  lastErrorMessage := none

/-- A record moved to `READY` at `t`. -/
def readyRecord (record : OutboxRecord) (t : Instant) : OutboxRecord :=
  { record with
    status := .ready
    updatedAt := t
    nextAttemptAt := none
    lastErrorCode := none
    lastErrorMessage := none }

/-- A record moved to `SENT` at `t`. -/
def sentRecord (record : OutboxRecord) (t : Instant) : OutboxRecord :=
  { record with
    status := .sent
    updatedAt := t
    deliveryAttempts := record.deliveryAttempts + 1
    nextAttemptAt := none
    lastErrorCode := none
    lastErrorMessage := none }

/-- A publish error as the repository records it. -/
structure PublishError where
  /-- the text of the error -/
  message : String
  /-- its code, if there is one -/
  code : Option String
  deriving DecidableEq, Repr

/-- A record moved to `DEAD` at `t`. -/
def deadRecord (record : OutboxRecord) (error : PublishError) (t : Instant) : OutboxRecord :=
  { record with
    status := .dead
    updatedAt := t
    deliveryAttempts := record.deliveryAttempts + 1
    nextAttemptAt := none
    lastErrorCode := error.code
    lastErrorMessage := some error.message }

/-- A record moved to `RETRY` at `t`, due again at `due`. -/
def retryRecord (record : OutboxRecord) (error : PublishError) (t due : Instant) :
    OutboxRecord :=
  { record with
    status := .retry
    updatedAt := t
    deliveryAttempts := record.deliveryAttempts + 1
    nextAttemptAt := some due
    lastErrorCode := error.code
    lastErrorMessage := some error.message }

/-- `mark_outbox_record_ready`. -/
def markOutboxRecordReady (record : OutboxRecord) (now : DateTime) :
    Except Failure OutboxRecord := do
  raiseIf (record.status ≠ .pendingObject)
    (.invariantViolation s!"cannot mark record READY from status={record.status.value}")
  let resolvedNow ← resolveTransitionNow record now
  return readyRecord record resolvedNow

/-- `mark_outbox_record_sent`. -/
def markOutboxRecordSent (record : OutboxRecord) (now : DateTime) :
    Except Failure OutboxRecord := do
  raiseIf (record.status ≠ .ready ∧ record.status ≠ .retry)
    (.invariantViolation s!"cannot mark record SENT from status={record.status.value}")
  let resolvedNow ← resolveTransitionNow record now
  return sentRecord record resolvedNow

/-- `mark_outbox_record_publish_failure`: `RETRY` while the policy has attempts
left, `DEAD` after that. -/
def markOutboxRecordPublishFailure [Platform] (record : OutboxRecord) (policy : OutboxPolicyV1)
    (appEnv : String) (error : PublishError) (now : DateTime) : Except Failure OutboxRecord := do
  raiseIf (record.status ≠ .ready ∧ record.status ≠ .retry)
    (.invariantViolation s!"cannot mark publish failure from status={record.status.value}")
  let resolvedNow ← resolveTransitionNow record now
  let maxRetryAttempts ← resolveMaxRetryAttempts policy appEnv
  if maxRetryAttempts < record.deliveryAttempts + 1 then
    return deadRecord record error resolvedNow
  else
    let retryDelaySeconds ← computeRetryDelaySeconds record.caseId (record.deliveryAttempts + 1)
    let nextAttemptAt ← addSeconds resolvedNow retryDelaySeconds
    return retryRecord record error resolvedNow nextAttemptAt

/-! ## What each transition can do -/

/-- A returned hand-off moved a pending record to `READY`, at its own time or later. -/
theorem markOutboxRecordReady_ok {record next : OutboxRecord} {now : DateTime}
    (h : markOutboxRecordReady record now = .ok next) :
    record.status = .pendingObject ∧
      ∃ t, record.updatedAt ≤ t ∧ next = readyRecord record t := by
  obtain ⟨_, hguard, h⟩ := Except.bind_eq_ok.mp h
  obtain ⟨t, ht, h⟩ := Except.bind_eq_ok.mp h
  rw [raiseIf_eq_ok, not_not] at hguard
  rw [Except.pure_eq_ok] at h
  exact ⟨hguard, t, resolveTransitionNow_le ht, h.symm⟩

/-- A returned publish success moved a publishable record to `SENT`. -/
theorem markOutboxRecordSent_ok {record next : OutboxRecord} {now : DateTime}
    (h : markOutboxRecordSent record now = .ok next) :
    (record.status = .ready ∨ record.status = .retry) ∧
      ∃ t, record.updatedAt ≤ t ∧ next = sentRecord record t := by
  obtain ⟨_, hguard, h⟩ := Except.bind_eq_ok.mp h
  obtain ⟨t, ht, h⟩ := Except.bind_eq_ok.mp h
  rw [raiseIf_eq_ok] at hguard
  rw [Except.pure_eq_ok] at h
  exact ⟨by tauto, t, resolveTransitionNow_le ht, h.symm⟩

/-- A returned publish failure moved a publishable record to `DEAD` when the policy
has no attempt left and else to `RETRY`, due after the time of the record. -/
theorem markOutboxRecordPublishFailure_ok [Platform] {record next : OutboxRecord} {policy : OutboxPolicyV1}
    {appEnv : String} {error : PublishError} {now : DateTime}
    (h : markOutboxRecordPublishFailure record policy appEnv error now = .ok next) :
    (record.status = .ready ∨ record.status = .retry) ∧
      ∃ t limit, record.updatedAt ≤ t ∧ resolveMaxRetryAttempts policy appEnv = .ok limit ∧
        (limit < record.deliveryAttempts + 1 ∧ next = deadRecord record error t ∨
          record.deliveryAttempts + 1 ≤ limit ∧
            ∃ due, t < due ∧ next = retryRecord record error t due) := by
  obtain ⟨_, hguard, h⟩ := Except.bind_eq_ok.mp h
  obtain ⟨t, ht, h⟩ := Except.bind_eq_ok.mp h
  obtain ⟨limit, hlimit, h⟩ := Except.bind_eq_ok.mp h
  rw [raiseIf_eq_ok] at hguard
  refine ⟨by tauto, t, limit, resolveTransitionNow_le ht, hlimit, ?_⟩
  split at h
  · next hlt =>
    rw [Except.pure_eq_ok] at h
    exact .inl ⟨hlt, h.symm⟩
  · next hle =>
    obtain ⟨delay, hdelay, h⟩ := Except.bind_eq_ok.mp h
    obtain ⟨due, hdue, h⟩ := Except.bind_eq_ok.mp h
    rw [Except.pure_eq_ok] at h
    refine .inr ⟨by omega, due, ?_, h.symm⟩
    have hpos := one_le_of_computeRetryDelaySeconds hdelay
    unfold addSeconds at hdue
    split at hdue
    · cases hdue
      have hdelta : (0 : Int) < 1000000 * delay := by omega
      exact lt_add_of_pos_right t hdelta
    · cases hdue

end AiopsTriage
