import AiopsTriage.Peak.Classify

/-!
# Peak profiles

The two thresholds of a profile are nearest-rank percentiles of the sorted history, and nothing
constrains the percentiles a policy may name. The rank of a percentile is within the history
exactly when the percentile is at most a hundred (`rankOf_le_length`), and the two thresholds are
in the order of their ranks, since the history is sorted (`sorted_getElem_le`). So profiles are
well formed exactly for percentiles within range whose ranks do not fall
(`buildPeakProfile_wellFormed_iff`). The classification against any two thresholds is monotone
(`nearness_classifyScope_mono`): the higher zone is tried first.

Percentile positions are computed exactly here (`round` is the identity).
-/

namespace AiopsTriage

/-! ## Ranks -/

/-- The position of a percentile in a sorted history, counted from one. -/
def rankOf (percentile : Int) (samples : ℕ) : Int :=
  max 1 ((percentile : ℚ) / 100 * samples).ceil

/-- The values of a history, from the lowest. -/
def sortedHistory (historyValues : List PyFloat) : List ℚ :=
  (historyValues.filterMap finiteValue).insertionSort (· ≤ ·)

/-- The value at the rank of a percentile. -/
def atRank (values : List ℚ) (percentile : Int) : Option ℚ :=
  values[(rankOf percentile values.length - 1).toNat]?

variable {values : List ℚ} {percentile p q : Int}

theorem one_le_rankOf {n : ℕ} : 1 ≤ rankOf percentile n := le_max_left _ _

/-- A rank is within the history exactly when its percentile is at most a hundred. -/
theorem rankOf_le_length {n : ℕ} (h : 0 < n) : rankOf percentile n ≤ n ↔ percentile ≤ 100 := by
  have hn : (0 : ℚ) < n := by exact_mod_cast h
  rw [rankOf, max_le_iff, Rat.ceil_le_iff, and_iff_right (by exact_mod_cast h), Int.cast_natCast,
    mul_le_iff_le_one_left hn, div_le_one (by norm_num)]
  exact_mod_cast Iff.rfl

/-- There is a value at the rank of a percentile exactly when this is at most a hundred. -/
theorem isSome_atRank (h : values ≠ []) : (atRank values percentile).isSome ↔ percentile ≤ 100 := by
  have hlength : 0 < values.length := List.length_pos_iff.mpr h
  rw [← rankOf_le_length hlength, atRank, isSome_getElem?]
  have := @one_le_rankOf percentile values.length
  omega

theorem nearestRankPercentile_eq_ok {value : ℚ} :
    nearestRankPercentile values percentile id = .ok value ↔
      atRank values percentile = some value := by
  cases h : atRank values percentile with
  | none =>
    have hraises : nearestRankPercentile values percentile id =
        .error (.indexError "list index out of range") := by
      simp only [atRank, rankOf] at h
      simp only [nearestRankPercentile, id_eq, h]
    rw [hraises]
    exact iff_of_false (by rintro ⟨⟩) (by rintro ⟨⟩)
  | some v =>
    have hreturns : nearestRankPercentile values percentile id = .ok v := by
      simp only [atRank, rankOf] at h
      simp only [nearestRankPercentile, id_eq, h]
    rw [hreturns, Option.some.injEq, Except.ok.injEq]

/-- Of a sorted list, the item further up is not the lower one. -/
theorem sorted_getElem_le (hsorted : values.Pairwise (· ≤ ·)) {i j : ℕ} (hij : i ≤ j) {x y : ℚ}
    (hx : values[i]? = some x) (hy : values[j]? = some y) : x ≤ y := by
  obtain ⟨hi, rfl⟩ := List.getElem?_eq_some_iff.mp hx
  obtain ⟨hj, rfl⟩ := List.getElem?_eq_some_iff.mp hy
  rcases hij.lt_or_eq with hlt | rfl
  · exact List.pairwise_iff_getElem.mp hsorted i j hi hj hlt
  · exact le_rfl

/-- The values at two percentiles are in order exactly when their ranks are, or the history does
not change between these. -/
theorem atRank_le_iff (hsorted : values.Pairwise (· ≤ ·)) {x y : ℚ}
    (hx : atRank values p = some x) (hy : atRank values q = some y) :
    x ≤ y ↔ rankOf p values.length ≤ rankOf q values.length ∨
      atRank values p = atRank values q := by
  have hp := @one_le_rankOf p values.length
  have hq := @one_le_rankOf q values.length
  rcases Int.le_total (rankOf p values.length) (rankOf q values.length) with hle | hge
  · exact iff_of_true (sorted_getElem_le hsorted (by omega) hx hy) (.inl hle)
  · have hyx : y ≤ x := sorted_getElem_le hsorted (by omega) hy hx
    constructor
    · intro hxy
      right
      rw [hx, hy, le_antisymm hxy hyx]
    · rintro (hle | heq)
      · exact sorted_getElem_le hsorted (by omega) hx hy
      · rw [hx, hy, Option.some.injEq] at heq
        exact heq.le

/-! ## Well-formed profiles -/

/-- How close to the peak a state is. -/
def PeakState.nearness : PeakState → ℕ
  | .peak => 2
  | .nearPeak => 1
  | .offPeak => 0
  | .unknown => 0

/-- The classification goes up with the current value. -/
theorem nearness_classifyScope_mono (scope : Scope) (profile : PeakProfile)
    (status : Option EvidenceStatus) {value value' : ℚ} (h : value ≤ value') :
    (classifyScope scope (some value) (some profile) status).state.nearness ≤
      (classifyScope scope (some value') (some profile) status).state.nearness := by
  simp only [classifyScope, Bool.or_eq_true, decide_eq_true_eq]
  by_cases hpeak : profile.peakThresholdValue ≤ value
  · simp [hpeak, hpeak.trans h]
  · by_cases hnear : profile.nearPeakThresholdValue ≤ value
    · -- at least near the peak
      simp only [hpeak, hnear, hnear.trans h, or_true, if_true, if_false]
      split <;> decide
    · simp only [hpeak, hnear, or_self, if_false]
      exact Nat.zero_le _

/-- A profile with thresholds from the history, in order, against which classification goes from
OFF_PEAK over NEAR_PEAK to PEAK. -/
structure PeakProfile.WellFormed (profile : PeakProfile) (historyValues : List PyFloat) : Prop where
  /-- the peak threshold is a value of the history -/
  peak_mem : .finite profile.peakThresholdValue ∈ historyValues
  /-- so is the near-peak threshold -/
  near_mem : .finite profile.nearPeakThresholdValue ∈ historyValues
  /-- which is the lower one -/
  near_le_peak : profile.nearPeakThresholdValue ≤ profile.peakThresholdValue
  /-- a current value is classified -/
  known : ∀ scope value status,
    (classifyScope scope (some value) (some profile) status).state ≠ .unknown
  /-- the classification goes up with the current value -/
  monotone : ∀ scope value value' status, value ≤ value' →
    (classifyScope scope (some value) (some profile) status).state.nearness ≤
      (classifyScope scope (some value') (some profile) status).state.nearness

section Build

variable {scope : Scope} {policy : PeakPolicyV1} {historyValues : List PyFloat} {t : Instant}

theorem mem_sortedHistory {x : ℚ} :
    x ∈ sortedHistory historyValues ↔ .finite x ∈ historyValues := by
  rw [sortedHistory, List.mem_insertionSort, List.mem_filterMap]
  constructor
  · rintro ⟨value, hmem, hvalue⟩
    cases value with
    | finite y => cases hvalue; exact hmem
    | _ => cases hvalue
  · exact fun hmem => ⟨_, hmem, rfl⟩

theorem sorted_sortedHistory : (sortedHistory historyValues).Pairwise (· ≤ ·) :=
  List.pairwise_insertionSort _ _

theorem sortedHistory_ne_nil (hfinite : ∀ x ∈ historyValues, x.isFinite = true)
    (hne : historyValues ≠ []) : sortedHistory historyValues ≠ [] := by
  obtain ⟨value, hvalue⟩ := List.exists_mem_of_ne_nil _ hne
  have hsome := hfinite value hvalue
  cases value with
  | finite x => exact List.ne_nil_of_mem (mem_sortedHistory.mpr hvalue)
  | _ => cases hsome

/-- The thresholds are the values at the ranks of the two percentiles. -/
theorem buildPeakProfile_eq_ok (hne : sortedHistory historyValues ≠ []) {profile : PeakProfile} :
    buildPeakProfile scope historyValues policy t id = .ok (some profile) ↔
      ∃ peak near,
        atRank (sortedHistory historyValues) policy.defaults.nearPeakPercentile = some peak ∧
        atRank (sortedHistory historyValues) policy.defaults.peakPercentile = some near ∧
        profile = {
          scope, sourceMetric := policy.metric
          peakThresholdValue := peak, nearPeakThresholdValue := near
          historySamplesCount := (sortedHistory historyValues).length
          hasSufficientHistory :=
            decide (policy.defaults.minBaselineWindows ≤ (sortedHistory historyValues).length)
          recomputeFrequency := policy.recomputeFrequency, computedAt := t } := by
  unfold buildPeakProfile
  simp only
  rw [if_neg (by exact hne), Except.bind_eq_ok]
  refine exists_congr fun peak => ?_
  rw [nearestRankPercentile_eq_ok, Except.bind_eq_ok]
  constructor
  · rintro ⟨hpeak, near, hnear, h⟩
    rw [nearestRankPercentile_eq_ok] at hnear
    exact ⟨near, hpeak, hnear, (Option.some.inj (Except.ok.inj h)).symm⟩
  · rintro ⟨near, hpeak, hnear, rfl⟩
    exact ⟨hpeak, near, nearestRankPercentile_eq_ok.mpr hnear, rfl⟩

/-- **Profiles.** The profile of a non-empty history of finite values is built and well formed
exactly when the policy's two percentiles are at most a hundred and their ranks in the history
are in order, or the sorted history does not change between the two ranks. -/
theorem buildPeakProfile_wellFormed_iff (hfinite : ∀ x ∈ historyValues, x.isFinite = true)
    (hne : historyValues ≠ []) :
    (∃ profile, buildPeakProfile scope historyValues policy t id = .ok (some profile) ∧
        profile.WellFormed historyValues) ↔
      policy.defaults.peakPercentile ≤ 100 ∧ policy.defaults.nearPeakPercentile ≤ 100 ∧
        (rankOf policy.defaults.peakPercentile historyValues.length ≤
            rankOf policy.defaults.nearPeakPercentile historyValues.length ∨
          atRank (sortedHistory historyValues) policy.defaults.peakPercentile =
            atRank (sortedHistory historyValues) policy.defaults.nearPeakPercentile) := by
  have hvalues := sortedHistory_ne_nil hfinite hne
  have hlength : (sortedHistory historyValues).length = historyValues.length := by
    rw [sortedHistory, List.length_insertionSort]
    refine List.filterMap_length_eq_length.mpr fun x hx => ?_
    rw [isSome_finiteValue]
    exact hfinite x hx
  rw [← hlength]
  constructor
  · rintro ⟨profile, hbuild, hwell⟩
    obtain ⟨peak, near, hpeak, hnear, rfl⟩ := (buildPeakProfile_eq_ok hvalues).mp hbuild
    refine ⟨(isSome_atRank hvalues).mp ?_, (isSome_atRank hvalues).mp ?_, ?_⟩
    · rw [hnear]; rfl
    · rw [hpeak]; rfl
    · exact (atRank_le_iff sorted_sortedHistory hnear hpeak).mp hwell.near_le_peak
  · rintro ⟨hp, hq, horder⟩
    obtain ⟨near, hnear⟩ := Option.isSome_iff_exists.mp ((isSome_atRank hvalues).mpr hp)
    obtain ⟨peak, hpeak⟩ := Option.isSome_iff_exists.mp ((isSome_atRank hvalues).mpr hq)
    refine ⟨_, (buildPeakProfile_eq_ok hvalues).mpr ⟨peak, near, hpeak, hnear, rfl⟩, ?_⟩
    refine ⟨?_, ?_, ?_, ?_, ?_⟩
    · exact mem_sortedHistory.mp (List.mem_of_getElem? hpeak)
    · exact mem_sortedHistory.mp (List.mem_of_getElem? hnear)
    · exact (atRank_le_iff sorted_sortedHistory hnear hpeak).mpr horder
    · intro scope value status hunknown
      rcases classifyScope_unknown_iff.mp hunknown with h | h <;> cases h
    · intro scope value value' status hle
      exact nearness_classifyScope_mono scope _ status hle

end Build

/-- The policy that is shipped, on four values. -/
theorem buildPeakProfile_wellFormed_iff_shipped :
    ∃ profile, buildPeakProfile ["prod", "eu", "orders"]
        [.finite 3, .finite 1, .finite 4, .finite 2] peakPolicyV1 0 id = .ok (some profile) ∧
      profile.WellFormed [.finite 3, .finite 1, .finite 4, .finite 2] :=
  (buildPeakProfile_wellFormed_iff (by decide) (by decide)).mpr
    ⟨by decide, by decide, .inl (by decide +kernel)⟩

/-- A policy may name percentiles in the other order: then the near peak begins above the peak.
And it may name one above a hundred: then there is no profile. -/
theorem peak_percentiles_unchecked :
    (¬ ∃ profile, buildPeakProfile ["prod", "eu", "orders"] [.finite 1, .finite 2, .finite 3]
        { peakPolicyV1 with defaults := { peakPercentile := 95, nearPeakPercentile := 50 } } 0 id =
          .ok (some profile) ∧
      profile.WellFormed [.finite 1, .finite 2, .finite 3]) ∧
    buildPeakProfile ["prod", "eu", "orders"] [.finite 1]
        { peakPolicyV1 with defaults := { nearPeakPercentile := 200 } } 0 id =
      .error (.indexError "list index out of range") := by
  refine ⟨?_, by decide +kernel⟩
  rintro ⟨profile, hbuild, hwell⟩
  have hthresholds : (buildPeakProfile ["prod", "eu", "orders"] [.finite 1, .finite 2, .finite 3]
      { peakPolicyV1 with defaults := { peakPercentile := 95, nearPeakPercentile := 50 } } 0 id).map
        (·.map fun p => (p.nearPeakThresholdValue, p.peakThresholdValue)) =
      .ok (some (3, 2)) := by decide +kernel
  rw [hbuild] at hthresholds
  injection hthresholds with hthresholds
  injection hthresholds with hthresholds
  injection hthresholds with hnear hpeak
  have hle := hwell.near_le_peak
  rw [hnear, hpeak] at hle
  norm_num at hle

end AiopsTriage
