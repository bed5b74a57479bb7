import AiopsTriage.Lib.Dict
import AiopsTriage.Lib.Fallible
import AiopsTriage.Platform

/-!
# The retention cutoff

A casefile is kept for a number of calendar months that the retention policy gives for each
environment. The cutoff of a run is its time, that many months earlier: the same day of the
month, or the last one of a month that is shorter.
-/

namespace AiopsTriage

/-! ## The calendar -/

/-- `calendar.isleap`. -/
def isLeapYear (year : Int) : Bool := year % 4 == 0 && (year % 100 != 0 || year % 400 == 0)

/-- The second value of `calendar.monthrange`: the days of a month. -/
def daysInMonth (year month : Int) : Int :=
  if month = 2 then (if isLeapYear year then 29 else 28)
  else if month = 4 ∨ month = 6 ∨ month = 9 ∨ month = 11 then 30
  else 31

/-- The days of the months before one. -/
def daysBeforeMonth (year month : Int) : Int :=
  ((List.range (month - 1).toNat).map fun n => daysInMonth year (n + 1)).sum

/-- The days before a year, from the first of January of the year 1. -/
def daysBeforeYear (year : Int) : Int :=
  (year - 1) * 365 + (year - 1) / 4 - (year - 1) / 100 + (year - 1) / 400

/-- `date.toordinal`: the first of January of the year 1 is day 1. -/
def toOrdinal (year month day : Int) : Int :=
  daysBeforeYear year + daysBeforeMonth year month + day

/-- `date.fromordinal`: year, month and day. -/
def fromOrdinal (ordinal : Int) : Int × Int × Int :=
  let n := ordinal - 1
  let n400 := n / 146097
  let n100 := n % 146097 / 36524
  let n4 := n % 146097 % 36524 / 1461
  let n1 := n % 146097 % 36524 % 1461 / 365
  let year := n400 * 400 + n100 * 100 + n4 * 4 + n1 + 1
  if n1 = 4 ∨ n100 = 4 then (year - 1, 12, 31)
  else
    let dayOfYear := n % 146097 % 36524 % 1461 % 365
    let month := (((List.range 12).filter fun m =>
      daysBeforeMonth year (m + 1) ≤ dayOfYear).length : Int)
    (year, month, dayOfYear - daysBeforeMonth year month + 1)

/-- The microseconds of a day. -/
def microsOfDay : Int := 86400000000

/-- The ordinal of the first of January 1970. -/
def epochOrdinal : Int := 719163

/-- `_subtract_months`. -/
def subtractMonths (dt : Instant) (months : Int) : Except Failure Instant :=
  let (year, month, day) := fromOrdinal (dt / microsOfDay + epochOrdinal)
  let totalMonthIndex := year * 12 + (month - 1) - months
  let earlierYear := totalMonthIndex / 12
  let earlierMonth := totalMonthIndex % 12 + 1
  let earlierDay := min day (daysInMonth earlierYear earlierMonth)
  if earlierYear < 1 ∨ 9999 < earlierYear then .error (.valueError s!"year {earlierYear} is out of range")
  else .ok ((toOrdinal earlierYear earlierMonth earlierDay - epochOrdinal) * microsOfDay + dt % microsOfDay)

/-- Two months before the last day of April 2024 lies the last day of a leap February. -/
example : subtractMonths 1714435200000000 2 = .ok 1709164800000000 := by decide +kernel

/-! ## The policy -/

/-- `CasefileRetentionPolicy`. -/
structure CasefileRetentionPolicy where
  /-- how many months a casefile is kept -/
  retentionMonths : Int
  /-- `ge=1` -/
  retentionMonths_ge : 1 ≤ retentionMonths := by decide
  deriving DecidableEq, Repr

/-- `CasefileRetentionPolicyV1`, with the check that every required environment is there. -/
structure CasefileRetentionPolicyV1 where
  /-- the retention of each environment -/
  retentionByEnv : Dict String CasefileRetentionPolicy
  /-- `_require_all_envs` -/
  requireAllEnvs : ["local", "dev", "uat", "prod"].all fun env => (retentionByEnv.get? env).isSome

/-- `config/policies/casefile-retention-policy-v1.yaml`. -/
def casefileRetentionPolicyV1 : CasefileRetentionPolicyV1 where
  retentionByEnv := ⟨[("local", ⟨1, by decide⟩), ("dev", ⟨6, by decide⟩), ("uat", ⟨18, by decide⟩),
    ("prod", ⟨25, by decide⟩)], by decide⟩
  requireAllEnvs := by decide

/-- `_as_aware_utc`. -/
def asAwareUtc (value : DateTime) (fieldName : String) : Except Failure Instant :=
  match value with
  | .aware t => .ok t
  | .naive _ => .error (.valueError s!"{fieldName} must be timezone-aware")

/-- `resolve_retention_cutoff`. -/
def resolveRetentionCutoff (policy : CasefileRetentionPolicyV1) (appEnv : String)
    (now : DateTime) : Except Failure Instant :=
  match policy.retentionByEnv.get? appEnv with
  | none => .error (.valueError s!"unsupported app_env for casefile retention policy: {appEnv}")
  | some retention => do
    let resolvedNow ← asAwareUtc now "now"
    subtractMonths resolvedNow retention.retentionMonths

/-- In production the cutoff of noon on 6 March 2026 is noon on 6 February 2024. -/
example : resolveRetentionCutoff casefileRetentionPolicyV1 "prod" (.aware 1772798400000000) =
    .ok 1707220800000000 := by
  decide +kernel

end AiopsTriage
