import AiopsTriage.Retention.Cutoff
import Mathlib.Tactic.IntervalCases

/-!
# The cutoff and the calendar

An ordinal is read as a date that has it (`toOrdinal_fromOrdinal`), and dates are in the order
of their ordinals (`toOrdinal_lt_of_month_lt`). So the cutoff of a later time lies on no earlier
day. On the same day it keeps the time of day, and that is where it can go back: a shorter
month cuts two days of a month down to its last one, and the later day may have the earlier time
(`resolveRetentionCutoff_mono_iff`).
-/

namespace AiopsTriage

/-! ## Months -/

/-- The lengths of the months depend on whether the year is a leap year, and on nothing else. -/
theorem daysInMonth_congr {year year' : Int} (h : isLeapYear year = isLeapYear year') (month : Int) :
    daysInMonth year month = daysInMonth year' month := by
  rw [daysInMonth, daysInMonth, h]

theorem daysBeforeMonth_congr {year year' : Int} (h : isLeapYear year = isLeapYear year')
    (month : Int) : daysBeforeMonth year month = daysBeforeMonth year' month := by
  rw [daysBeforeMonth, daysBeforeMonth]
  simp only [daysInMonth_congr h]

theorem isLeapYear_iff {year : Int} :
    isLeapYear year = true ↔ year % 4 = 0 ∧ (year % 100 ≠ 0 ∨ year % 400 = 0) := by
  simp [isLeapYear]

/-- A year is like the year 4 or like the year 1. -/
theorem isLeapYear_cases (year : Int) :
    isLeapYear year = isLeapYear 4 ∨ isLeapYear year = isLeapYear 1 := by
  cases h : isLeapYear year with
  | true => exact .inl (by decide)
  | false => exact .inr (by decide)

/-- The months of a year follow each other. -/
theorem daysBeforeMonth_succ {year month : Int} (h : 1 ≤ month) :
    daysBeforeMonth year (month + 1) = daysBeforeMonth year month + daysInMonth year month := by
  obtain ⟨n, rfl⟩ : ∃ n : Nat, month = n + 1 := ⟨(month - 1).toNat, by omega⟩
  have hn : ((n : Int) + 1 + 1 - 1).toNat = n + 1 := by omega
  have hn' : ((n : Int) + 1 - 1).toNat = n := by omega
  rw [daysBeforeMonth, daysBeforeMonth, hn, hn']
  simp [List.range_succ]

/-- Months have some days. -/
theorem daysInMonth_pos (year month : Int) : 1 ≤ daysInMonth year month := by
  unfold daysInMonth
  split
  · split <;> decide
  · split <;> decide

/-- Earlier months come before. -/
theorem daysBeforeMonth_mono {year month month' : Int} (h : 1 ≤ month) (hle : month ≤ month') :
    daysBeforeMonth year month ≤ daysBeforeMonth year month' := by
  obtain ⟨k, rfl⟩ := Int.le.dest hle
  induction k with
  | zero => simp
  | succ k ih =>
    have hsucc := @daysBeforeMonth_succ year (month + k) (by omega)
    have hpos := daysInMonth_pos year (month + k)
    have ih := ih (by omega)
    push_cast
    rw [← add_assoc, hsucc]
    omega

/-- The days of a year. -/
theorem daysBeforeMonth_thirteen (year : Int) :
    daysBeforeMonth year 13 = if isLeapYear year then 366 else 365 := by
  rcases isLeapYear_cases year with hleap | hleap
  · rw [daysBeforeMonth_congr hleap, hleap]
    decide
  · rw [daysBeforeMonth_congr hleap, hleap]
    decide

/-- The months that have begun by a day of the year. -/
def monthsBegun (year dayOfYear : Int) : Int :=
  (((List.range 12).filter fun m => daysBeforeMonth year (m + 1) ≤ dayOfYear).length : Int)

/-- **The month of a day** is the last one that has begun. -/
theorem monthsBegun_spec {year dayOfYear : Int} (h : 0 ≤ dayOfYear ∧ dayOfYear < 365) :
    (1 ≤ monthsBegun year dayOfYear ∧ monthsBegun year dayOfYear ≤ 12) ∧
      daysBeforeMonth year (monthsBegun year dayOfYear) ≤ dayOfYear ∧
      dayOfYear < daysBeforeMonth year (monthsBegun year dayOfYear + 1) := by
  have hall : ∀ y ∈ [(4 : Int), 1], ∀ n : Nat, n < 365 →
      (1 ≤ monthsBegun y n ∧ monthsBegun y n ≤ 12) ∧
        daysBeforeMonth y (monthsBegun y n) ≤ n ∧ n < daysBeforeMonth y (monthsBegun y n + 1) := by
    decide +kernel
  have hcongr : ∀ {y : Int}, isLeapYear year = isLeapYear y →
      monthsBegun year dayOfYear = monthsBegun y dayOfYear := by
    intro y hleap
    simp only [monthsBegun, daysBeforeMonth_congr hleap]
  obtain ⟨n, rfl⟩ := Int.eq_ofNat_of_zero_le h.1
  have hn : n < 365 := by omega
  rcases isLeapYear_cases year with hleap | hleap
  · rw [hcongr hleap, daysBeforeMonth_congr hleap, daysBeforeMonth_congr hleap]
    exact hall 4 (by decide) n hn
  · rw [hcongr hleap, daysBeforeMonth_congr hleap, daysBeforeMonth_congr hleap]
    exact hall 1 (by decide) n hn

/-! ## Dates -/

/-- A date of the calendar. -/
def IsDate (year month day : Int) : Prop :=
  (1 ≤ month ∧ month ≤ 12) ∧ 1 ≤ day ∧ day ≤ daysInMonth year month

/-- Leap years are longer by a day. -/
theorem daysBeforeYear_succ (year : Int) :
    daysBeforeYear (year + 1) = daysBeforeYear year + daysBeforeMonth year 13 := by
  rw [daysBeforeMonth_thirteen, daysBeforeYear, daysBeforeYear]
  split
  · next h =>
    have h := isLeapYear_iff.mp h
    omega
  · next h =>
    have h := mt isLeapYear_iff.mpr h
    omega

/-- The ordinals of a month. -/
theorem toOrdinal_bounds {year month day : Int} (h : IsDate year month day) :
    daysBeforeYear year + daysBeforeMonth year month < toOrdinal year month day ∧
      toOrdinal year month day ≤ daysBeforeYear year + daysBeforeMonth year (month + 1) := by
  obtain ⟨hmonth, hfirst, hlast⟩ := h
  have hsucc := @daysBeforeMonth_succ year _ hmonth.1
  rw [toOrdinal]
  omega

/-- The years follow each other. -/
theorem daysBeforeYear_mono {year year' : Int} (h : year ≤ year') :
    daysBeforeYear year ≤ daysBeforeYear year' := by
  rw [daysBeforeYear, daysBeforeYear]
  omega

/-- **Order**: a date in an earlier month has the smaller ordinal. -/
theorem toOrdinal_lt_of_month_lt {year month day year' month' day' : Int}
    (h : IsDate year month day) (h' : IsDate year' month' day')
    (hlt : year * 12 + month < year' * 12 + month') :
    toOrdinal year month day < toOrdinal year' month' day' := by
  have hbounds := (toOrdinal_bounds h).2
  have hbounds' := (toOrdinal_bounds h').1
  obtain ⟨hmonth, -⟩ := h
  obtain ⟨hmonth', -⟩ := h'
  have hyear : year ≤ year' := by omega
  rcases hyear.lt_or_eq with hyear | rfl
  · -- the year of the one ends before the year of the other begins
    have hend := @daysBeforeMonth_mono year _ _ (show 1 ≤ month + 1 by omega)
      (show month + 1 ≤ 13 by omega)
    have hnext := daysBeforeYear_mono (show year + 1 ≤ year' by omega)
    have hstart := @daysBeforeMonth_mono year' _ _ (show (1 : Int) ≤ 1 by omega) hmonth'.1
    have hzero : daysBeforeMonth year' 1 = 0 := rfl
    rw [daysBeforeYear_succ] at hnext
    omega
  · have hend := @daysBeforeMonth_mono year _ _ (show 1 ≤ month + 1 by omega)
      (show month + 1 ≤ month' by omega)
    omega

/-- The days before a year, from the blocks of 400, 100 and 4 years that it comes after. -/
theorem daysBeforeYear_blocks {n400 n100 n4 n1 : Int} (h100 : 0 ≤ n100 ∧ n100 ≤ 3)
    (h4 : 0 ≤ n4 ∧ n4 ≤ 24) (h1 : 0 ≤ n1 ∧ n1 ≤ 3) :
    daysBeforeYear (n400 * 400 + n100 * 100 + n4 * 4 + n1 + 1) =
      n400 * 146097 + n100 * 36524 + n4 * 1461 + n1 * 365 := by
  have hfour : (n400 * 400 + n100 * 100 + n4 * 4 + n1) / 4 = n400 * 100 + n100 * 25 + n4 := by omega
  have hhundred : (n400 * 400 + n100 * 100 + n4 * 4 + n1) / 100 = n400 * 4 + n100 := by omega
  have hall : (n400 * 400 + n100 * 100 + n4 * 4 + n1) / 400 = n400 := by omega
  rw [daysBeforeYear, add_sub_cancel_right, hfour, hhundred, hall]
  ring

/-- **Reading an ordinal**: every ordinal is that of a date. -/
theorem fromOrdinal_spec {ordinal year month day : Int}
    (h : fromOrdinal ordinal = (year, month, day)) :
    IsDate year month day ∧ toOrdinal year month day = ordinal := by
  have h100 : 0 ≤ (ordinal - 1) % 146097 / 36524 ∧ (ordinal - 1) % 146097 / 36524 ≤ 4 := by omega
  have h4 : 0 ≤ (ordinal - 1) % 146097 % 36524 / 1461 ∧
      (ordinal - 1) % 146097 % 36524 / 1461 ≤ 24 := by omega
  have h1 : 0 ≤ (ordinal - 1) % 146097 % 36524 % 1461 / 365 ∧
      (ordinal - 1) % 146097 % 36524 % 1461 / 365 ≤ 4 := by omega
  have hday : 0 ≤ (ordinal - 1) % 146097 % 36524 % 1461 % 365 ∧
      (ordinal - 1) % 146097 % 36524 % 1461 % 365 < 365 := by omega
  have hsum : ordinal - 1 = (ordinal - 1) / 146097 * 146097 +
      (ordinal - 1) % 146097 / 36524 * 36524 + (ordinal - 1) % 146097 % 36524 / 1461 * 1461 +
      (ordinal - 1) % 146097 % 36524 % 1461 / 365 * 365 +
      (ordinal - 1) % 146097 % 36524 % 1461 % 365 := by omega
  have hrest : (ordinal - 1) % 146097 / 36524 * 36524 +
      (ordinal - 1) % 146097 % 36524 / 1461 * 1461 +
      (ordinal - 1) % 146097 % 36524 % 1461 / 365 * 365 +
      (ordinal - 1) % 146097 % 36524 % 1461 % 365 < 146097 := by omega
  have hblock : (ordinal - 1) % 146097 % 36524 / 1461 * 1461 +
      (ordinal - 1) % 146097 % 36524 % 1461 / 365 * 365 +
      (ordinal - 1) % 146097 % 36524 % 1461 % 365 < 36524 := by omega
  have hfour : (ordinal - 1) % 146097 % 36524 % 1461 / 365 * 365 +
      (ordinal - 1) % 146097 % 36524 % 1461 % 365 < 1461 := by omega
  unfold fromOrdinal at h
  simp only at h
  generalize (ordinal - 1) % 146097 % 36524 % 1461 % 365 = dayOfYear at *
  generalize (ordinal - 1) % 146097 % 36524 % 1461 / 365 = n1 at *
  generalize (ordinal - 1) % 146097 % 36524 / 1461 = n4 at *
  generalize (ordinal - 1) % 146097 / 36524 = n100 at *
  generalize (ordinal - 1) / 146097 = n400 at *
  split at h
  · -- the last day of a leap year, which the blocks of equal years leave over
    next hlast =>
    obtain ⟨m400, m100, m4, hyear, hm100, hm4, hsize, hleap⟩ : ∃ m400 m100 m4 : Int,
        n400 * 400 + n100 * 100 + n4 * 4 + n1 + 1 - 1 = m400 * 400 + m100 * 100 + m4 * 4 + 3 + 1 ∧
        (0 ≤ m100 ∧ m100 ≤ 3) ∧ (0 ≤ m4 ∧ m4 ≤ 24) ∧
        ordinal = m400 * 146097 + m100 * 36524 + m4 * 1461 + 3 * 365 + 366 ∧
        (m4 < 24 ∨ m100 = 3) := by
      rcases hlast with rfl | rfl
      · exact ⟨n400, n100, n4, by omega, by omega, by omega, by omega, by omega⟩
      · exact ⟨n400, 3, 24, by omega, by omega, by omega, by omega, by omega⟩
    rw [hyear] at h
    cases h
    have hleap : isLeapYear (m400 * 400 + m100 * 100 + m4 * 4 + 3 + 1) = isLeapYear 4 :=
      isLeapYear_iff.mpr (by omega)
    have hdecember : daysBeforeMonth (m400 * 400 + m100 * 100 + m4 * 4 + 3 + 1) 12 = 335 := by
      rw [daysBeforeMonth_congr hleap]
      decide
    refine ⟨⟨by decide, by decide, le_refl _⟩, ?_⟩
    rw [toOrdinal, hdecember, daysBeforeYear_blocks hm100 hm4 (by decide)]
    omega
  · next hlast =>
    cases h
    obtain ⟨hmonth, hbegun, hnext⟩ :=
      @monthsBegun_spec (n400 * 400 + n100 * 100 + n4 * 4 + n1 + 1) _ hday
    rw [daysBeforeMonth_succ hmonth.1] at hnext
    refine ⟨⟨hmonth, ?_, ?_⟩, ?_⟩
    · exact le_add_of_nonneg_left (sub_nonneg.mpr hbegun)
    · exact sub_lt_iff_lt_add'.mpr hnext
    · rw [toOrdinal, daysBeforeYear_blocks (by omega) h4 (by omega), ← monthsBegun]
      omega

/-! ## The order of cutoffs -/

/-- The date of an instant. -/
def dateOf (t : Instant) : Int × Int × Int := fromOrdinal (t / microsOfDay + epochOrdinal)

/-- The length of the month that lies some months before that of a date. -/
def earlierMonthLength (months : Int) (date : Int × Int × Int) : Int :=
  let totalMonthIndex := date.1 * 12 + (date.2.1 - 1) - months
  daysInMonth (totalMonthIndex / 12) (totalMonthIndex % 12 + 1)

/-- Two days of one month that the earlier month is too short to tell apart, the later one at an
earlier time of day. -/
structure GoesBack (months : Int) (now1 now2 : Instant) : Prop where
  /-- they are in the same year -/
  year : (dateOf now1).1 = (dateOf now2).1
  /-- and month -/
  month : (dateOf now1).2.1 = (dateOf now2).2.1
  /-- one day is before the other -/
  day : (dateOf now1).2.2 < (dateOf now2).2.2
  /-- and already the last of the earlier month, or beyond it -/
  clamped : earlierMonthLength months (dateOf now1) ≤ (dateOf now1).2.2
  /-- and the time of day is earlier on the later day -/
  timeOfDay : now2 % microsOfDay < now1 % microsOfDay

instance (months : Int) (now1 now2 : Instant) : Decidable (GoesBack months now1 now2) :=
  decidable_of_iff ((dateOf now1).1 = (dateOf now2).1 ∧ (dateOf now1).2.1 = (dateOf now2).2.1 ∧
      (dateOf now1).2.2 < (dateOf now2).2.2 ∧
      earlierMonthLength months (dateOf now1) ≤ (dateOf now1).2.2 ∧
      now2 % microsOfDay < now1 % microsOfDay)
    ⟨fun ⟨h1, h2, h3, h4, h5⟩ => ⟨h1, h2, h3, h4, h5⟩, fun h => ⟨h.1, h.2, h.3, h.4, h.5⟩⟩

/-- **What subtracting months does**: the date is `months` earlier, cut down to the last day of
its month, and the time of day is kept. -/
theorem subtractMonths_spec {now cutoff months year month day : Int}
    (hdate : dateOf now = (year, month, day)) (h : subtractMonths now months = .ok cutoff) :
    ∃ year' month' day' : Int, IsDate year' month' day' ∧
      year' * 12 + (month' - 1) = year * 12 + (month - 1) - months ∧
      day' = min day (earlierMonthLength months (year, month, day)) ∧
      cutoff / microsOfDay = toOrdinal year' month' day' - epochOrdinal ∧
      cutoff % microsOfDay = now % microsOfDay := by
  have hvalid := (fromOrdinal_spec hdate).1
  unfold subtractMonths at h
  rw [show fromOrdinal (now / microsOfDay + epochOrdinal) = (year, month, day) from hdate] at h
  simp only at h
  split at h
  · cases h
  · cases h
    have hmicros : ∀ days t : Int, (days * microsOfDay + t % microsOfDay) / microsOfDay = days ∧
        (days * microsOfDay + t % microsOfDay) % microsOfDay = t % microsOfDay := by
      intro days t
      rw [microsOfDay]
      omega
    refine ⟨(year * 12 + (month - 1) - months) / 12, (year * 12 + (month - 1) - months) % 12 + 1,
      _, ⟨by omega, ?_, min_le_right _ _⟩, by omega, rfl, (hmicros _ _).1, (hmicros _ _).2⟩
    exact le_min hvalid.2.1 (daysInMonth_pos _ _)

/-- Instants are in the order of their days, and within a day of their times of day. -/
theorem le_iff_day {s t : Int} : s ≤ t ↔ s / microsOfDay < t / microsOfDay ∨
    (s / microsOfDay = t / microsOfDay ∧ s % microsOfDay ≤ t % microsOfDay) := by
  rw [microsOfDay]
  omega

/-- **The order of cutoffs.** The cutoff of a later time lies on no earlier day, and it is no
earlier exactly unless the cutoff goes back within the last day of a month. -/
theorem subtractMonths_mono_iff {months now1 now2 cutoff1 cutoff2 : Int}
    (hle : now1 ≤ now2) (h1 : subtractMonths now1 months = .ok cutoff1)
    (h2 : subtractMonths now2 months = .ok cutoff2) :
    cutoff1 / microsOfDay ≤ cutoff2 / microsOfDay ∧
      (cutoff1 ≤ cutoff2 ↔ ¬ GoesBack months now1 now2) := by
  obtain ⟨⟨y1, m1, d1⟩, hdate1⟩ : ∃ date, dateOf now1 = date := ⟨_, rfl⟩
  obtain ⟨⟨y2, m2, d2⟩, hdate2⟩ : ∃ date, dateOf now2 = date := ⟨_, rfl⟩
  obtain ⟨y1', m1', d1', hvalid1', hmonth1, hday1, hdays1, htime1⟩ := subtractMonths_spec hdate1 h1
  obtain ⟨y2', m2', d2', hvalid2', hmonth2, hday2, hdays2, htime2⟩ := subtractMonths_spec hdate2 h2
  obtain ⟨hvalid1, hordinal1⟩ := fromOrdinal_spec hdate1
  obtain ⟨hvalid2, hordinal2⟩ := fromOrdinal_spec hdate2
  have hgoes : GoesBack months now1 now2 ↔ y1 = y2 ∧ m1 = m2 ∧ d1 < d2 ∧
      earlierMonthLength months (y1, m1, d1) ≤ d1 ∧ now2 % microsOfDay < now1 % microsOfDay := by
    constructor
    · rintro ⟨hyear, hmonth, hday, hclamped, htime⟩
      rw [hdate1, hdate2] at hyear hmonth hday
      rw [hdate1] at hclamped
      exact ⟨hyear, hmonth, hday, hclamped, htime⟩
    · rintro ⟨hyear, hmonth, hday, hclamped, htime⟩
      refine ⟨?_, ?_, ?_, ?_, htime⟩
      · rwa [hdate1, hdate2]
      · rwa [hdate1, hdate2]
      · rwa [hdate1, hdate2]
      · rwa [hdate1]
  rw [le_iff_day] at hle
  rw [le_iff_day (s := cutoff1), htime1, htime2, hgoes]
  generalize now1 % microsOfDay = time1 at *
  generalize now2 % microsOfDay = time2 at *
  have hordered : toOrdinal y1 m1 d1 ≤ toOrdinal y2 m2 d2 := by omega
  rcases lt_trichotomy (y1 * 12 + m1) (y2 * 12 + m2) with hlt | heq | hgt
  · -- different months stay in their order
    have hcutoffs := toOrdinal_lt_of_month_lt hvalid1' hvalid2' (by omega)
    have hdays : cutoff1 / microsOfDay < cutoff2 / microsOfDay := by omega
    refine ⟨hdays.le, iff_of_true (.inl hdays) ?_⟩
    rintro ⟨rfl, rfl, -⟩
    exact lt_irrefl _ hlt
  · -- in one month the days keep their order, or become one
    have hmonths1 := hvalid1.1
    have hmonths2 := hvalid2.1
    have hmonths1' := hvalid1'.1
    have hmonths2' := hvalid2'.1
    obtain ⟨rfl, rfl⟩ : y1 = y2 ∧ m1 = m2 := by omega
    obtain ⟨rfl, rfl⟩ : y1' = y2' ∧ m1' = m2' := by omega
    have hlength : earlierMonthLength months (y1, m1, d2) = earlierMonthLength months (y1, m1, d1) :=
      rfl
    rw [hlength] at hday2
    rw [toOrdinal] at hdays1 hdays2
    rw [toOrdinal, toOrdinal] at hordered
    rw [toOrdinal] at hordinal1 hordinal2
    generalize earlierMonthLength months (y1, m1, d1) = length at *
    omega
  · have hcontra := toOrdinal_lt_of_month_lt hvalid2 hvalid1 hgt
    omega

/-- **Retention cutoffs in time.** For every policy, environment and two times in their order,
the later cutoff lies on no earlier day, so it goes back by less than a day; and it goes back
exactly when the times are on two days of one month that the month of the cutoff is too short
to tell apart, the later day at an earlier time of day. -/
theorem resolveRetentionCutoff_mono_iff {policy : CasefileRetentionPolicyV1} {appEnv : String}
    {retention : CasefileRetentionPolicy} {now1 now2 cutoff1 cutoff2 : Int}
    (hpolicy : policy.retentionByEnv.get? appEnv = some retention) (hle : now1 ≤ now2)
    (h1 : resolveRetentionCutoff policy appEnv (.aware now1) = .ok cutoff1)
    (h2 : resolveRetentionCutoff policy appEnv (.aware now2) = .ok cutoff2) :
    (cutoff1 ≤ cutoff2 ↔ ¬ GoesBack retention.retentionMonths now1 now2) ∧
      cutoff1 / microsOfDay ≤ cutoff2 / microsOfDay ∧ cutoff1 < cutoff2 + microsOfDay := by
  have hcutoff : ∀ {now cutoff : Int}, resolveRetentionCutoff policy appEnv (.aware now) = .ok cutoff →
      subtractMonths now retention.retentionMonths = .ok cutoff := by
    intro now cutoff h
    rw [resolveRetentionCutoff, hpolicy] at h
    exact h
  obtain ⟨hdays, hiff⟩ := subtractMonths_mono_iff hle (hcutoff h1) (hcutoff h2)
  refine ⟨hiff, hdays, ?_⟩
  rw [microsOfDay] at hdays ⊢
  omega

/-- Noon of a day, and noon of the next. -/
theorem resolveRetentionCutoff_mono_noon :
    (1707220800000000 : Int) / microsOfDay ≤ 1707307200000000 / microsOfDay :=
  (@resolveRetentionCutoff_mono_iff casefileRetentionPolicyV1 "prod" ⟨25, by decide⟩
    1772798400000000 1772884800000000 _ _ rfl (by decide) (by decide +kernel)
    (by decide +kernel)).2.1

/-- A cutoff that goes back: a month before ten o'clock on 30 March 2026 lies 28 February, and a
month before nine o'clock on the next day lies an hour before that. -/
theorem retention_cutoff_goes_back :
    ∃ now1 now2 cutoff1 cutoff2 : Instant, now1 ≤ now2 ∧
      resolveRetentionCutoff casefileRetentionPolicyV1 "local" (.aware now1) = .ok cutoff1 ∧
      resolveRetentionCutoff casefileRetentionPolicyV1 "local" (.aware now2) = .ok cutoff2 ∧
      cutoff2 < cutoff1 :=
  ⟨1774864800000000, 1774947600000000, 1772272800000000, 1772269200000000, by decide,
    by decide +kernel, by decide +kernel, by decide⟩

end AiopsTriage
