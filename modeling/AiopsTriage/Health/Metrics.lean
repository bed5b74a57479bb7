import AiopsTriage.Gating.Evaluate
import AiopsTriage.Lib.RollingWindow
import Mathlib.Algebra.Order.Field.Basic

/-!
# Rolling health metrics

Two rates are kept over the last 120 outcomes each: how many ServiceNow correlations fell back
to a weaker tier, and how many terminal page linkages were linked in time. Sum and rate are
kept up to date outcome by outcome, and the gauge of a rate is an up-down counter that is sent
the change (`RollingRate.record`).

After any calls both are what they say they are (`rolling_windows_exact`).
-/

namespace AiopsTriage

/-! ## One rate -/

/-- The flags of a rate, oldest first, with their running sum and the rate itself. -/
structure RollingRate extends RollingWindow ℤ where
  /-- the rate that the gauge shows -/
  rateValue : ℚ

namespace RollingRate

/-- No flags yet. -/
def start : RollingRate := ⟨.empty, 0⟩

/-- One more flag: the new rate, how many flags it is of, and its change. -/
def record (windowSize : ℕ) (r : RollingRate) (flag : ℤ) : RollingRate × ℕ × ℚ :=
  let window := r.push windowSize flag
  let sampleSize := window.items.length
  let newRate : ℚ := if 0 < sampleSize then window.sum / sampleSize else 0
  (⟨window, newRate⟩, sampleSize, newRate - r.rateValue)

end RollingRate

/-! ## The metrics -/

/-- One `add` on an instrument. -/
structure InstrumentAdd where
  /-- the instrument -/
  instrument : String
  /-- by how much -/
  amount : ℚ
  /-- the attributes -/
  attributes : List (String × String)
  deriving DecidableEq, Repr

/-- `_SN_CORRELATION_RATE_WINDOW_SIZE`. -/
def snCorrelationRateWindowSize : ℕ := 120

/-- `_SN_PAGE_LINKAGE_RATE_WINDOW_SIZE`. -/
def snPageLinkageRateWindowSize : ℕ := 120

/-- The ServiceNow part of the module's state, and what its instruments were sent. -/
structure ServiceNowMetrics where
  /-- `_sn_correlation_tier_counts` -/
  correlationTierCounts : Dict String ℕ
  /-- `_sn_correlation_total_count` -/
  correlationTotalCount : ℕ
  /-- the correlations that fell back -/
  correlation : RollingRate
  /-- `_sn_page_linkage_terminal_count` -/
  pageLinkageTerminalCount : ℕ
  /-- `_sn_page_linkage_within_window_count` -/
  pageLinkageWithinWindowCount : ℕ
  /-- the linkages that were in time -/
  pageLinkage : RollingRate
  /-- the calls of `add`, in order -/
  adds : List InstrumentAdd

/-- The tiers of a correlation. -/
def correlationTiers : List String := ["tier1", "tier2", "tier3", "none"]

/-- `ServiceNowCorrelationFallbackSnapshot`. -/
structure ServiceNowCorrelationFallbackSnapshot where
  /-- the rate -/
  fallbackRate : ℚ
  /-- of how many -/
  sampleSize : ℕ
  /-- which tiers count as a fallback -/
  fallbackTiers : List String
  deriving DecidableEq, Repr

namespace ServiceNowMetrics

/-- The state that the module starts with. -/
def start : ServiceNowMetrics where
  correlationTierCounts := .ofPairs (correlationTiers.map fun tier => (tier, 0))
  correlationTotalCount := 0
  correlation := .start
  pageLinkageTerminalCount := 0
  pageLinkageWithinWindowCount := 0
  pageLinkage := .start
  adds := []

/-- What an instrument is sent in some calls of `add`. -/
def sentTo (instrument : String) (adds : List InstrumentAdd) : ℚ :=
  ((adds.filter fun a => a.instrument = instrument).map InstrumentAdd.amount).sum

end ServiceNowMetrics

/-- `add` of a change, unless there is none. -/
def addRateDelta (instrument : String) (delta : ℚ) : List InstrumentAdd :=
  if delta ≠ 0 then [⟨instrument, delta, [("component", "servicenow")]⟩] else []

/-- `record_sn_correlation_tier`. -/
def recordSnCorrelationTier (matchedTier : String) (m : ServiceNowMetrics) :
    Except Failure ServiceNowCorrelationFallbackSnapshot × ServiceNowMetrics :=
  match m.correlationTierCounts.get? matchedTier with
  | none => (.error (.valueError s!"unsupported matched_tier: {reprText matchedTier}"), m)
  | some count =>
    let fallbackFlag := if matchedTier ∈ ["tier2", "tier3"] then 1 else 0
    let (correlation, sampleSize, rateDelta) :=
      m.correlation.record snCorrelationRateWindowSize fallbackFlag
    (.ok ⟨correlation.rateValue, sampleSize, ["tier2", "tier3"]⟩,
      { m with
        correlationTierCounts := m.correlationTierCounts.set matchedTier (count + 1)
        correlationTotalCount := m.correlationTotalCount + 1
        correlation
        adds := m.adds ++
          [⟨"aiops.servicenow.correlation_tier_total", 1,
            [("component", "servicenow"), ("tier", matchedTier)]⟩] ++
          addRateDelta "aiops.servicenow.correlation_fallback_rate" rateDelta })

/-- `record_sn_page_linkage_slo`. -/
def recordSnPageLinkageSlo (linkageState : String) (withinRetryWindow : Bool)
    (m : ServiceNowMetrics) : Except Failure Unit × ServiceNowMetrics :=
  if linkageState ∉ ["LINKED", "FAILED_FINAL"] then
    (.error (.valueError s!"unsupported linkage_state: {reprText linkageState}"), m)
  else
    let incrementWithinWindow := linkageState == "LINKED" && withinRetryWindow
    let withinWindowFlag := if incrementWithinWindow then 1 else 0
    let (pageLinkage, _, rateDelta) :=
      m.pageLinkage.record snPageLinkageRateWindowSize withinWindowFlag
    (.ok (),
      { m with
        pageLinkageTerminalCount := m.pageLinkageTerminalCount + 1
        pageLinkageWithinWindowCount := m.pageLinkageWithinWindowCount +
          if incrementWithinWindow then 1 else 0
        pageLinkage
        adds := m.adds ++
          [⟨"aiops.servicenow.linkage_page_total", 1, [("component", "servicenow")]⟩] ++
          (if incrementWithinWindow then
            [⟨"aiops.servicenow.linkage_page_within_window_total", 1,
              [("component", "servicenow")]⟩]
          else []) ++
          addRateDelta "aiops.servicenow.linkage_page_within_window_rate" rateDelta })

/-- A call of one of the two. -/
inductive MetricsCall where
  /-- `record_sn_correlation_tier` -/
  | correlationTier (matchedTier : String)
  /-- `record_sn_page_linkage_slo` -/
  | pageLinkageSlo (linkageState : String) (withinRetryWindow : Bool)
  deriving DecidableEq, Repr

namespace MetricsCall

/-- The state after a call. -/
def run (m : ServiceNowMetrics) : MetricsCall → ServiceNowMetrics
  | correlationTier matchedTier => (recordSnCorrelationTier matchedTier m).2
  | pageLinkageSlo linkageState withinRetryWindow =>
    (recordSnPageLinkageSlo linkageState withinRetryWindow m).2

/-- The flag of a correlation, if the call is one that is accepted: whether it fell back. -/
def fallbackFlag : MetricsCall → Option ℤ
  | correlationTier matchedTier =>
    if matchedTier ∈ correlationTiers then some (if matchedTier ∈ ["tier2", "tier3"] then 1 else 0)
    else none
  | pageLinkageSlo _ _ => none

/-- The flag of a terminal linkage, if the call is one that is accepted: whether it was linked
in time. -/
def withinWindowFlag : MetricsCall → Option ℤ
  | correlationTier _ => none
  | pageLinkageSlo linkageState withinRetryWindow =>
    if linkageState ∈ ["LINKED", "FAILED_FINAL"] then
      some (if linkageState == "LINKED" && withinRetryWindow then 1 else 0)
    else none

/-- The state after some calls. -/
def runAll (calls : List MetricsCall) : ServiceNowMetrics := calls.foldl run .start

end MetricsCall

/-! ## Exact rates -/

/-- A rate that is the one of the last flags, and a gauge that shows it. -/
structure RollingRate.Exact (windowSize : ℕ) (flags : List ℤ) (r : RollingRate) (gauge : ℚ) :
    Prop where
  /-- the last flags -/
  window : r.items = flags.rtake windowSize
  /-- as many as there are, up to the size of the window -/
  length : r.items.length = min flags.length windowSize
  /-- the running sum is theirs -/
  sum : r.sum = (flags.rtake windowSize).sum
  /-- once there is a flag, there is something to divide by -/
  divisor : flags ≠ [] → 0 < r.items.length
  /-- the rate is their mean -/
  rate : r.rateValue = r.sum / r.items.length
  /-- which is a rate -/
  bounds : 0 ≤ r.rateValue ∧ r.rateValue ≤ 1
  /-- and what the gauge shows -/
  gauge : gauge = r.rateValue

/-- A flag is 0 or 1. -/
def IsFlag (flag : ℤ) : Prop := flag = 0 ∨ flag = 1

theorem isFlag_ite {c : Prop} [Decidable c] : IsFlag (if c then 1 else 0) := by
  by_cases h : c
  · exact .inr (if_pos h)
  · exact .inl (if_neg h)

/-- The sum of flags is at most how many there are. -/
theorem sum_flags_bounds {flags : List ℤ} (h : ∀ f ∈ flags, IsFlag f) :
    0 ≤ flags.sum ∧ flags.sum ≤ flags.length := by
  induction flags with
  | nil => exact ⟨le_rfl, le_rfl⟩
  | cons f fs ih =>
    obtain ⟨hf, hfs⟩ := List.forall_mem_cons.mp h
    obtain ⟨hlo, hhi⟩ := ih hfs
    rw [List.sum_cons, List.length_cons, Nat.cast_succ]
    rcases hf with rfl | rfl
    · exact ⟨by omega, by omega⟩
    · exact ⟨by omega, by omega⟩

namespace RollingRate

theorem exact_start (windowSize : ℕ) : Exact windowSize [] .start 0 where
  window := (List.rtake_nil windowSize).symm
  length := (Nat.zero_min windowSize).symm
  sum := by rw [List.rtake_nil]; rfl
  divisor := fun h => absurd rfl h
  rate := by simp [start, RollingWindow.empty]
  bounds := ⟨le_rfl, zero_le_one⟩
  gauge := rfl

/-- **One more flag** leaves the rate exact, and the gauge when it is sent the change. -/
theorem Exact.record {windowSize : ℕ} {flags : List ℤ} {r : RollingRate} {gauge : ℚ}
    (h : Exact windowSize flags r gauge) (hsize : 0 < windowSize)
    (hflags : ∀ f ∈ flags, IsFlag f) {flag : ℤ} (hflag : IsFlag flag) :
    Exact windowSize (flags ++ [flag]) (r.record windowSize flag).1
      (gauge + (r.record windowSize flag).2.2) := by
  have htracks : RollingWindow.Tracks windowSize flags r.toRollingWindow := ⟨h.window, h.sum⟩
  obtain ⟨hwindow, hsum⟩ := htracks.push hsize flag
  have hlength : (r.push windowSize flag).items.length = min (flags ++ [flag]).length windowSize := by
    rw [hwindow, RollingWindow.length_rtake]
  have hpos : 0 < (r.push windowSize flag).items.length := by
    rw [hlength, List.length_append, List.length_singleton]
    omega
  have hall : ∀ f ∈ (flags ++ [flag]).rtake windowSize, IsFlag f := by
    intro f hf
    rcases List.mem_append.mp (List.mem_of_mem_drop hf) with hold | hnew
    · exact hflags f hold
    · rwa [List.mem_singleton.mp hnew]
  obtain ⟨hlo, hhi⟩ := sum_flags_bounds hall
  rw [← hsum] at hlo hhi
  rw [← hwindow] at hhi
  have hrate : (r.record windowSize flag).1.rateValue =
      (r.push windowSize flag).sum / (r.push windowSize flag).items.length := if_pos hpos
  have hposq : (0 : ℚ) < (r.push windowSize flag).items.length := Nat.cast_pos.mpr hpos
  have hloq : (0 : ℚ) ≤ (r.push windowSize flag).sum := Int.cast_nonneg hlo
  have hhiq : ((r.push windowSize flag).sum : ℚ) ≤ (r.push windowSize flag).items.length := by
    exact_mod_cast hhi
  exact {
    window := hwindow
    length := hlength
    sum := hsum
    divisor := fun _ => hpos
    rate := hrate
    bounds := by
      rw [hrate]
      exact ⟨div_nonneg hloq hposq.le, (div_le_one hposq).mpr hhiq⟩
    gauge := by
      rw [h.gauge]
      exact add_sub_cancel _ _ }

end RollingRate

namespace ServiceNowMetrics

theorem sentTo_append {instrument : String} {xs ys : List InstrumentAdd} :
    sentTo instrument (xs ++ ys) = sentTo instrument xs + sentTo instrument ys := by
  rw [sentTo, List.filter_append, List.map_append, List.sum_append]
  rfl

theorem sentTo_addRateDelta {instrument other : String} {delta : ℚ} :
    sentTo instrument (addRateDelta other delta) = if other = instrument then delta else 0 := by
  unfold addRateDelta
  by_cases hdelta : delta = 0
  · simp [sentTo, hdelta]
  · by_cases hother : other = instrument
    · simp [sentTo, hdelta, hother]
    · simp [sentTo, hdelta, hother]

/-- Both rates are exact after some calls. -/
structure Exact (calls : List MetricsCall) (m : ServiceNowMetrics) : Prop where
  /-- the tiers that are counted -/
  tiers : m.correlationTierCounts.keys = correlationTiers
  /-- the rate of fallbacks -/
  correlation : m.correlation.Exact snCorrelationRateWindowSize
    (calls.filterMap MetricsCall.fallbackFlag)
    (sentTo "aiops.servicenow.correlation_fallback_rate" m.adds)
  /-- the rate of linkages in time -/
  pageLinkage : m.pageLinkage.Exact snPageLinkageRateWindowSize
    (calls.filterMap MetricsCall.withinWindowFlag)
    (sentTo "aiops.servicenow.linkage_page_within_window_rate" m.adds)

theorem exact_start : Exact [] start where
  tiers := rfl
  correlation := RollingRate.exact_start _
  pageLinkage := RollingRate.exact_start _

theorem isFlag_of_mem_fallbackFlags {calls : List MetricsCall} :
    ∀ f ∈ calls.filterMap MetricsCall.fallbackFlag, IsFlag f := by
  intro f hf
  obtain ⟨call, -, hcall⟩ := List.mem_filterMap.mp hf
  cases call with
  | correlationTier matchedTier =>
    rw [MetricsCall.fallbackFlag] at hcall
    split at hcall
    · cases hcall
      exact isFlag_ite
    · cases hcall
  | pageLinkageSlo _ _ => cases hcall

theorem isFlag_of_mem_withinWindowFlags {calls : List MetricsCall} :
    ∀ f ∈ calls.filterMap MetricsCall.withinWindowFlag, IsFlag f := by
  intro f hf
  obtain ⟨call, -, hcall⟩ := List.mem_filterMap.mp hf
  cases call with
  | correlationTier _ => cases hcall
  | pageLinkageSlo linkageState withinRetryWindow =>
    rw [MetricsCall.withinWindowFlag] at hcall
    split at hcall
    · cases hcall
      exact isFlag_ite
    · cases hcall

variable {calls : List MetricsCall} {m : ServiceNowMetrics}

/-- The flags of one more call come last. -/
theorem filterMap_concat (flagOf : MetricsCall → Option ℤ) (call : MetricsCall) :
    (calls ++ [call]).filterMap flagOf = calls.filterMap flagOf ++ (flagOf call).toList := by
  rw [List.filterMap_append]
  cases h : flagOf call with
  | none => simp [h]
  | some flag => simp [h]

/-- A correlation keeps both rates exact. -/
theorem Exact.correlationTier (h : Exact calls m) (matchedTier : String) :
    Exact (calls ++ [.correlationTier matchedTier]) (recordSnCorrelationTier matchedTier m).2 := by
  have hmem : matchedTier ∈ correlationTiers ↔
      (m.correlationTierCounts.get? matchedTier).isSome := by
    rw [← h.tiers, Option.isSome_iff_ne_none, ne_eq, Dict.get?, Dict.find_eq_none, not_not, Dict.keys]
  have hother : MetricsCall.withinWindowFlag (.correlationTier matchedTier) = none := rfl
  unfold recordSnCorrelationTier
  cases hcount : m.correlationTierCounts.get? matchedTier with
  | none =>
    have hrefused : MetricsCall.fallbackFlag (.correlationTier matchedTier) = none :=
      if_neg (by rw [hmem, hcount]; decide)
    refine ⟨h.tiers, ?_, ?_⟩
    · rw [filterMap_concat, hrefused, Option.toList_none, List.append_nil]
      exact h.correlation
    · rw [filterMap_concat, hother, Option.toList_none, List.append_nil]
      exact h.pageLinkage
  | some count =>
    have haccepted : matchedTier ∈ correlationTiers := by rw [hmem, hcount]; rfl
    have hflag : MetricsCall.fallbackFlag (.correlationTier matchedTier) =
        some (if matchedTier ∈ ["tier2", "tier3"] then 1 else 0) := if_pos haccepted
    have hexact := h.correlation.record (by decide) isFlag_of_mem_fallbackFlags
      (isFlag_ite (c := matchedTier ∈ ["tier2", "tier3"]))
    refine ⟨?_, ?_, ?_⟩
    · refine Dict.keys_setEntries.trans ((if_pos ?_).trans h.tiers)
      rw [← h.tiers] at haccepted
      exact haccepted
    · rw [filterMap_concat, hflag]
      simp only [sentTo_append, sentTo_addRateDelta, if_true]
      simpa [sentTo] using hexact
    · rw [filterMap_concat, hother, Option.toList_none, List.append_nil]
      simp only [sentTo_append, sentTo_addRateDelta]
      simpa [sentTo] using h.pageLinkage

/-- A terminal linkage keeps both rates exact. -/
theorem Exact.pageLinkageSlo (h : Exact calls m) (linkageState : String)
    (withinRetryWindow : Bool) :
    Exact (calls ++ [.pageLinkageSlo linkageState withinRetryWindow])
      (recordSnPageLinkageSlo linkageState withinRetryWindow m).2 := by
  have hother : MetricsCall.fallbackFlag (.pageLinkageSlo linkageState withinRetryWindow) = none :=
    rfl
  unfold recordSnPageLinkageSlo
  by_cases hstate : linkageState ∈ ["LINKED", "FAILED_FINAL"]
  · have hflag : MetricsCall.withinWindowFlag (.pageLinkageSlo linkageState withinRetryWindow) =
        some (if linkageState == "LINKED" && withinRetryWindow then 1 else 0) := if_pos hstate
    have hexact := h.pageLinkage.record (by decide) isFlag_of_mem_withinWindowFlags
      (isFlag_ite (c := (linkageState == "LINKED" && withinRetryWindow) = true))
    -- the counter of the linkages in time is another instrument than the gauges
    have hcounter : ∀ gauge : String,
        gauge ≠ "aiops.servicenow.linkage_page_within_window_total" →
        sentTo gauge (if (linkageState == "LINKED" && withinRetryWindow) = true then
          [⟨"aiops.servicenow.linkage_page_within_window_total", 1,
            [("component", "servicenow")]⟩] else []) = 0 := by
      intro gauge hgauge
      split
      · simp [sentTo, Ne.symm hgauge]
      · rfl
    have hfallbacks := hcounter "aiops.servicenow.correlation_fallback_rate" (by decide)
    have hlinkages := hcounter "aiops.servicenow.linkage_page_within_window_rate" (by decide)
    rw [if_neg (not_not.mpr hstate)]
    refine ⟨h.tiers, ?_, ?_⟩
    · rw [filterMap_concat, hother, Option.toList_none, List.append_nil]
      simp only [sentTo_append, sentTo_addRateDelta, hfallbacks]
      simpa [sentTo] using h.correlation
    · rw [filterMap_concat, hflag]
      simp only [sentTo_append, sentTo_addRateDelta, hlinkages, if_true]
      simpa [sentTo] using hexact
  · have hrefused : MetricsCall.withinWindowFlag (.pageLinkageSlo linkageState withinRetryWindow) =
        none := if_neg hstate
    rw [if_pos hstate]
    refine ⟨h.tiers, ?_, ?_⟩
    · rw [filterMap_concat, hother, Option.toList_none, List.append_nil]
      exact h.correlation
    · rw [filterMap_concat, hrefused, Option.toList_none, List.append_nil]
      exact h.pageLinkage

/-- **Rolling health windows**: after any calls of the two functions both rates are exact: the
window has the last flags, as many as there are up to its size, the running sum is theirs, the
rate is their mean and between 0 and 1, with something to divide by as soon as there is a
flag, and the gauge shows it. -/
theorem rolling_windows_exact (calls : List MetricsCall) :
    Exact calls (MetricsCall.runAll calls) := by
  induction calls using List.reverseRecOn with
  | nil => exact exact_start
  | append_singleton calls call ih =>
    rw [MetricsCall.runAll, List.foldl_append]
    cases call with
    | correlationTier matchedTier => exact ih.correlationTier matchedTier
    | pageLinkageSlo linkageState withinRetryWindow =>
      exact ih.pageLinkageSlo linkageState withinRetryWindow

end ServiceNowMetrics

end AiopsTriage
