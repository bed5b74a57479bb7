import AiopsTriage.Scheduler.Seconds
import AiopsTriage.Lib.Fallible

/-!
# Scheduler ticks

The scheduler fires about once an interval. A tick is assigned to the **boundary** below it, a
whole multiple of the interval since the epoch (`floorToIntervalBoundary`); how late it fires
is its drift, and how many boundaries were passed over since the tick before is its missed
intervals (`evaluateSchedulerTick`). A run hands every tick the boundary of the tick before
(`runTicks`).

One tick says how its boundary lies to its time (`floorToIntervalBoundary_spec`) and what it
counts (`evaluateSchedulerTick_step`); a run is counted tick by tick
(`scheduler_accounting`).
-/

namespace AiopsTriage

/-- `floor_to_interval_boundary`: `datetime.fromtimestamp` refuses what it cannot hold. -/
def floorToIntervalBoundary (timestamp : Instant) (intervalSeconds : Int) :
    Except Failure Instant :=
  let epochSeconds := timestampSeconds timestamp
  let floored := epochSeconds - epochSeconds.fmod intervalSeconds
  if minInstant ≤ floored * 1000000 ∧ floored * 1000000 ≤ maxInstant then .ok (floored * 1000000)
  else .error (.valueError "year is out of range")

/-- `SchedulerTick`. -/
structure SchedulerTick where
  /-- the boundary the tick is for -/
  expectedBoundary : Instant
  /-- when it fired -/
  actualFireTime : Instant
  /-- how late that is -/
  driftSeconds : Int
  /-- how many boundaries had no tick -/
  missedIntervals : Int
  deriving DecidableEq, Repr

/-- `evaluate_scheduler_tick`; it also logs and raises alerts. -/
def evaluateSchedulerTick (actualFireTime : Instant) (previousBoundary : Option Instant)
    (intervalSeconds : Int) : Except Failure SchedulerTick := do
  let expectedBoundary ← floorToIntervalBoundary actualFireTime intervalSeconds
  let missedIntervals :=
    match previousBoundary with
    | none => 0
    | some previous =>
      let gapSeconds := timestampSeconds (expectedBoundary - previous)
      max (gapSeconds.fdiv intervalSeconds - 1) 0
  return {
    expectedBoundary, actualFireTime, missedIntervals
    driftSeconds := timestampSeconds (actualFireTime - expectedBoundary) }

/-- The ticks at the given times, each fed the boundary of the one before. -/
def runTicks (intervalSeconds : Int) (previousBoundary : Option Instant) :
    List Instant → Except Failure (List SchedulerTick)
  | [] => .ok []
  | time :: times => do
    let tick ← evaluateSchedulerTick time previousBoundary intervalSeconds
    let ticks ← runTicks intervalSeconds (some tick.expectedBoundary) times
    return tick :: ticks

/-- A tick every half minute: the third one comes an interval late, and the fourth again in the
interval of the third. -/
example : (runTicks 30 none [7000000, 31500000, 95000000, 96000000]).toOption.map
    (List.map fun tick => (tick.expectedBoundary, tick.driftSeconds, tick.missedIntervals)) =
    some [(0, 7, 0), (30000000, 1, 0), (90000000, 5, 1), (90000000, 6, 0)] := by
  decide +kernel

/-! ## One tick -/

/-- The unit of boundaries: an interval in microseconds. -/
def intervalMicros (interval : Nat) : Nat := interval * 1000000

section Tick

variable {interval time later : Nat} {boundary boundary' : Instant}

/-- **The boundary of a time**: a whole number of intervals, that the seconds of the time reach
and by less than one interval exceed. -/
theorem floorToIntervalBoundary_spec (hinterval : 1 ≤ interval)
    (h : floorToIntervalBoundary time interval = .ok boundary) :
    ∃ n : Nat, boundary = (n * intervalMicros interval : Nat) ∧
      ((n * interval : Nat) : Int) ≤ timestampSeconds time ∧
      timestampSeconds time < ((n + 1) * interval : Nat) := by
  obtain ⟨s, hs⟩ := Int.eq_ofNat_of_zero_le (seconds_nonneg (t := time))
  have hdiv := Nat.div_add_mod s interval
  have hmod := Nat.mod_lt s (show 0 < interval by omega)
  have hfloor : (s : Int) - (s : Int).fmod interval = (s / interval * interval : Nat) := by
    rw [Int.fmod_eq_emod_of_nonneg _ (Int.natCast_nonneg interval), ← Int.natCast_mod,
      Nat.mul_comm]
    omega
  refine ⟨s / interval, ?_, ?_, ?_⟩
  · unfold floorToIntervalBoundary at h
    simp only [hs, hfloor] at h
    split at h
    · cases h
      rw [intervalMicros]
      push_cast
      ring
    · cases h
  · rw [hs, Int.ofNat_le]
    exact Nat.div_mul_le_self s interval
  · rw [hs, Int.ofNat_lt, Nat.add_mul, Nat.one_mul, Nat.mul_comm]
    omega

/-- A time before the last second of the year 9999 has a boundary. -/
theorem floorToIntervalBoundary_returns (hlast : (time : Int) ≤ maxInstant - 999999) :
    (floorToIntervalBoundary time interval).Returns := by
  have hlast : (time : Int) ≤ 253402300799000000 := hlast
  have hupper : timestampSeconds time ≤ (253402300799 : Nat) := seconds_le (by omega)
  obtain ⟨s, hs⟩ := Int.eq_ofNat_of_zero_le (seconds_nonneg (t := time))
  rw [hs, Int.ofNat_le] at hupper
  have hmod := Nat.mod_le s interval
  unfold floorToIntervalBoundary
  simp only [hs, Int.fmod_eq_emod_of_nonneg _ (Int.natCast_nonneg interval), ← Int.natCast_mod]
  rw [if_pos]
  · exact ⟨_, rfl⟩
  · constructor
    · show (-62135596800000000 : Int) ≤ ((s : Int) - (s % interval : Nat)) * 1000000
      omega
    · show ((s : Int) - (s % interval : Nat)) * 1000000 ≤ (253402300799999999 : Int)
      omega

/-- Later times have no earlier boundaries. -/
theorem floorToIntervalBoundary_mono (hle : time ≤ later)
    {n n' : Nat} (hn : ((n * interval : Nat) : Int) ≤ timestampSeconds time)
    (hn' : timestampSeconds later < ((n' + 1) * interval : Nat)) : n ≤ n' := by
  have hlt := (hn.trans (seconds_mono hle)).trans_lt hn'
  rw [Int.ofNat_lt] at hlt
  exact Nat.lt_succ_iff.mp (Nat.lt_of_mul_lt_mul_right hlt)

/-- **Drift**: a tick fires less than an interval after its boundary. -/
theorem drift_bounds (hinterval : 1 ≤ interval) (hrange : (time : Int) ≤ maxInstant) {n : Nat}
    (hlower : ((n * interval : Nat) : Int) ≤ timestampSeconds time)
    (hupper : timestampSeconds time < ((n + 1) * interval : Nat)) :
    0 ≤ timestampSeconds (time - (n * intervalMicros interval : Nat)) ∧
      timestampSeconds (time - (n * intervalMicros interval : Nat)) < interval := by
  have hmicros : n * intervalMicros interval = n * interval * 1000000 := (Nat.mul_assoc _ _ _).symm
  rw [hmicros]
  rcases Nat.lt_or_ge time (n * interval * 1000000) with hbefore | hafter
  · -- the seconds were rounded up to the boundary, over at most half a second
    have hnear := near_of_le_seconds hlower
    have hone := Nat.one_le_two_pow (n := secondBits time)
    obtain ⟨gap, hgap⟩ := Nat.exists_eq_add_of_lt hbefore
    rw [hgap] at hnear ⊢
    have hhalf : gap + 1 ≤ 500000 := by nlinarith
    have hzero : timestampSeconds ((time : Int) - (time + gap + 1 : Nat)) = 0 := by
      have hneg : (time : Int) - (time + gap + 1 : Nat) = -((gap + 1 : Nat) : Int) := by
        push_cast
        ring
      have habs := seconds_half hhalf
      rw [timestampSeconds_ofNat] at habs
      rw [hneg, timestampSeconds_neg, timestampSeconds_ofNat, habs]
      rfl
    rw [hzero]
    omega
  · obtain ⟨drift, hdrift⟩ := Nat.exists_eq_add_of_le hafter
    have hdiff : (time : Int) - (n * interval * 1000000 : Nat) = (drift : Nat) := by
      rw [hdrift]
      push_cast
      ring
    rw [hdiff]
    refine ⟨seconds_nonneg, ?_⟩
    by_contra hge
    -- what is rounded up to an interval here was rounded up to the next boundary before
    have hnext : time < (n + 1) * interval * 1000000 := by
      by_contra hcross
      exact absurd hupper (not_lt.mpr (le_seconds (not_lt.mp hcross)))
    refine absurd hupper (not_lt.mpr (le_seconds_of_near (secondBits_pos hrange) hnext ?_))
    have hnear := near_of_le_seconds (not_lt.mp hge)
    have hpow : 2 ^ secondBits time ≤ 2 ^ secondBits drift :=
      Nat.pow_le_pow_right (by decide) (secondBits_anti (hdrift ▸ Nat.le_add_left _ _))
    obtain ⟨gap, hgap⟩ := Nat.exists_eq_add_of_lt hnext
    have hinterval' : interval * 1000000 = drift + (gap + 1) := by
      have hexpand : (n + 1) * interval * 1000000 = n * interval * 1000000 + interval * 1000000 := by
        ring
      linarith only [hexpand, hgap, hdrift]
    rw [hinterval'] at hnear
    rw [hgap]
    generalize 2 ^ secondBits time = few at hpow ⊢
    generalize 2 ^ secondBits drift = many at hpow hnear
    have hgaps : 2 * (gap + 1) * few ≤ 2 * (gap + 1) * many := Nat.mul_le_mul_left _ hpow
    linarith

/-- A tick after another one: their boundaries are `n` and `n'` intervals, in this order, and
the intervals between them are the missed ones and its own. -/
theorem missedIntervals_eq {n n' : Nat} (hinterval : 1 ≤ interval) (hle : n ≤ n') :
    max ((timestampSeconds ((n' * intervalMicros interval : Nat) -
      (n * intervalMicros interval : Nat))).fdiv interval - 1) 0 = max ((n' : Int) - n - 1) 0 := by
  obtain ⟨k, rfl⟩ := Nat.exists_eq_add_of_le hle
  have hgap : (((n + k) * intervalMicros interval : Nat) : Int) - (n * intervalMicros interval : Nat) =
      (k * interval * 1000000 : Nat) := by
    rw [intervalMicros]
    push_cast
    ring
  rw [hgap, seconds_whole, Int.fdiv_eq_ediv_of_nonneg _ (Int.natCast_nonneg interval)]
  have hdiv : ((k * interval : Nat) : Int) / interval = k := by
    push_cast
    exact Int.mul_ediv_cancel _ (by omega)
  rw [hdiv]
  push_cast
  rw [add_sub_cancel_left]

/-- **One tick**: it is at a whole number of intervals, which the seconds of its time reach, and
fires less than an interval late. After a tick at no more intervals it misses those in between. -/
theorem evaluateSchedulerTick_ok {previousBoundary : Option Instant} {tick : SchedulerTick}
    (hinterval : 1 ≤ interval) (hrange : (time : Int) ≤ maxInstant)
    (h : evaluateSchedulerTick time previousBoundary interval = .ok tick) :
    ∃ n' : Nat, tick.expectedBoundary = (n' * intervalMicros interval : Nat) ∧
      ((n' * interval : Nat) : Int) ≤ timestampSeconds time ∧
      timestampSeconds time < ((n' + 1) * interval : Nat) ∧
      (0 ≤ tick.driftSeconds ∧ tick.driftSeconds < interval) ∧
      ∀ n : Nat, previousBoundary = some ((n * intervalMicros interval : Nat) : Int) → n ≤ n' →
        tick.missedIntervals = max ((n' : Int) - n - 1) 0 := by
  obtain ⟨boundary, hboundary, h⟩ := Except.bind_eq_ok.mp h
  rw [Except.pure_eq_ok] at h
  subst h
  obtain ⟨n', rfl, hlower, hupper⟩ := floorToIntervalBoundary_spec hinterval hboundary
  refine ⟨n', rfl, hlower, hupper, drift_bounds hinterval hrange hlower hupper, ?_⟩
  rintro n rfl hle
  exact missedIntervals_eq hinterval hle

end Tick

/-! ## A run -/

/-- The intervals that the ticks which advance the boundary account for: their own and those
they missed. -/
def advancedIntervals : Option Instant → List SchedulerTick → Int
  | _, [] => 0
  | previousBoundary, tick :: ticks =>
    (match previousBoundary with
      | some previous => if previous < tick.expectedBoundary then tick.missedIntervals + 1 else 0
      | none => 0) + advancedIntervals (some tick.expectedBoundary) ticks

section Run

variable {interval : Nat}

/-- **A run goes on** from the boundary of a time that is not later than those to come: no
boundary lies before it, each lies before the next, and the intervals accounted for are those up
to the last one. -/
theorem runTicks_spec (hinterval : 1 ≤ interval) {times : List Nat} {start n : Nat}
    {ticks : List SchedulerTick} (hsorted : (start :: times).Pairwise (· ≤ ·))
    (hrange : ∀ t ∈ times, (t : Int) ≤ maxInstant)
    (hstart : ((n * interval : Nat) : Int) ≤ timestampSeconds start)
    (h : runTicks interval (some (n * intervalMicros interval : Nat)) (times.map Nat.cast) =
      .ok ticks) :
    ∃ counts : List Nat, ticks.map SchedulerTick.expectedBoundary =
        counts.map (fun k => ((k * intervalMicros interval : Nat) : Int)) ∧
      (n :: counts).Pairwise (· ≤ ·) ∧
      (∀ tick ∈ ticks, 0 ≤ tick.driftSeconds ∧ tick.driftSeconds < interval) ∧
      advancedIntervals (some (n * intervalMicros interval : Nat)) ticks =
        (counts.getLast?.getD n : Int) - n := by
  induction times generalizing start n ticks with
  | nil =>
    cases h
    exact ⟨[], rfl, List.pairwise_singleton _ _, by simp, by simp [advancedIntervals]⟩
  | cons time times ih =>
    obtain ⟨tick, htick, h⟩ := Except.bind_eq_ok.mp h
    obtain ⟨rest, hrest, h⟩ := Except.bind_eq_ok.mp h
    rw [Except.pure_eq_ok] at h
    subst h
    obtain ⟨hfirst, hsorted⟩ := List.pairwise_cons.mp hsorted
    obtain ⟨n', hboundary, hlower, hupper, hdrift, hmissed⟩ :=
      evaluateSchedulerTick_ok hinterval (hrange time List.mem_cons_self) htick
    have hle : n ≤ n' :=
      floorToIntervalBoundary_mono (hfirst time List.mem_cons_self) hstart hupper
    rw [hboundary] at hrest
    obtain ⟨counts, hcounts, hordered, hdrifts, hadvanced⟩ :=
      ih hsorted (fun t ht => hrange t (List.mem_cons_of_mem _ ht)) hlower hrest
    refine ⟨n' :: counts, ?_, ?_, ?_, ?_⟩
    · rw [List.map_cons, List.map_cons, hboundary, hcounts]
    · refine List.pairwise_cons.mpr ⟨?_, hordered⟩
      intro k hk
      rcases List.mem_cons.mp hk with rfl | hk
      · exact hle
      · exact hle.trans ((List.pairwise_cons.mp hordered).1 k hk)
    · exact List.forall_mem_cons.mpr ⟨hdrift, hdrifts⟩
    · rw [List.getLast?_cons, Option.getD_some]
      simp only [advancedIntervals]
      rw [hboundary, hadvanced, hmissed n rfl hle]
      have hlt : ((n * intervalMicros interval : Nat) : Int) < (n' * intervalMicros interval : Nat) ↔
          n < n' := by
        rw [Int.ofNat_lt, intervalMicros]
        exact Nat.mul_lt_mul_right (by omega)
      by_cases hnew : n < n'
      · rw [if_pos (hlt.mpr hnew)]
        omega
      · rw [if_neg (mt hlt.mp hnew)]
        omega

/-- Before the last second of the year 9999 a run has all its ticks. -/
theorem runTicks_returns {times : List Nat} {previousBoundary : Option Instant}
    (hlast : ∀ t ∈ times, (t : Int) ≤ maxInstant - 999999) :
    (runTicks interval previousBoundary (times.map Nat.cast)).Returns := by
  induction times generalizing previousBoundary with
  | nil => exact ⟨[], rfl⟩
  | cons time times ih =>
    obtain ⟨boundary, hboundary⟩ :=
      @floorToIntervalBoundary_returns interval _ (hlast time List.mem_cons_self)
    have htick : ∃ tick, evaluateSchedulerTick time previousBoundary interval = .ok tick :=
      ⟨_, Except.bind_eq_ok.mpr ⟨boundary, hboundary, rfl⟩⟩
    obtain ⟨tick, htick⟩ := htick
    obtain ⟨rest, hrest⟩ := @ih (some tick.expectedBoundary)
      fun t ht => hlast t (List.mem_cons_of_mem _ ht)
    exact ⟨tick :: rest, Except.bind_eq_ok.mpr ⟨tick, htick,
      Except.bind_eq_ok.mpr ⟨rest, hrest, rfl⟩⟩⟩

/-- A run from its first tick on: the boundaries in intervals, the drifts, and the intervals
accounted for. -/
theorem runTicks_none_spec (hinterval : 1 ≤ interval) {times : List Nat} {ticks : List SchedulerTick}
    (hsorted : times.Pairwise (· ≤ ·)) (hrange : ∀ t ∈ times, (t : Int) ≤ maxInstant)
    (h : runTicks interval none (times.map Nat.cast) = .ok ticks) :
    ∃ counts : List Nat, ticks.map SchedulerTick.expectedBoundary =
        counts.map (fun k => ((k * intervalMicros interval : Nat) : Int)) ∧
      counts.Pairwise (· ≤ ·) ∧
      (∀ tick ∈ ticks, 0 ≤ tick.driftSeconds ∧ tick.driftSeconds < interval) ∧
      ∀ first ∈ counts.head?, ∀ last ∈ counts.getLast?,
        advancedIntervals none ticks = (last : Int) - first := by
  cases times with
  | nil =>
    cases h
    exact ⟨[], rfl, .nil, by simp, by simp⟩
  | cons time times =>
    obtain ⟨tick, htick, h⟩ := Except.bind_eq_ok.mp h
    obtain ⟨rest, hrest, h⟩ := Except.bind_eq_ok.mp h
    rw [Except.pure_eq_ok] at h
    subst h
    obtain ⟨n, hboundary, hlower, -, hdrift, -⟩ :=
      evaluateSchedulerTick_ok hinterval (hrange time List.mem_cons_self) htick
    rw [hboundary] at hrest
    obtain ⟨counts, hcounts, hordered, hdrifts, hadvanced⟩ := runTicks_spec hinterval hsorted
      (fun t ht => hrange t (List.mem_cons_of_mem _ ht)) hlower hrest
    refine ⟨n :: counts, ?_, hordered, List.forall_mem_cons.mpr ⟨hdrift, hdrifts⟩, ?_⟩
    · rw [List.map_cons, List.map_cons, hboundary, hcounts]
    · rintro first hfirst last hlast
      cases hfirst
      rw [List.getLast?_cons] at hlast
      cases hlast
      simp only [advancedIntervals]
      rw [hboundary, hadvanced, zero_add]

end Run

/-- **Scheduler accounting.** In a run at times after the epoch that do not go back, drift stays
below the interval, boundaries are multiples of the interval and do not go back, and the
intervals accounted for are those between the first and the last boundary. The run has all its
ticks when it ends before the last second a `datetime` can hold. -/
theorem scheduler_accounting {interval : Int} (hinterval : 1 ≤ interval) {times : List Instant}
    (hsorted : times.Pairwise (· ≤ ·)) (hepoch : ∀ t ∈ times, 0 ≤ t)
    (hrange : ∀ t ∈ times, t ≤ maxInstant) :
    ((∀ t ∈ times, t ≤ maxInstant - 999999) → (runTicks interval none times).Returns) ∧
      ∀ ticks, runTicks interval none times = .ok ticks →
        (∀ tick ∈ ticks, 0 ≤ tick.driftSeconds ∧ tick.driftSeconds < interval) ∧
        (∀ tick ∈ ticks, interval * 1000000 ∣ tick.expectedBoundary) ∧
        (ticks.map SchedulerTick.expectedBoundary).Pairwise (· ≤ ·) ∧
        ∀ first ∈ ticks.head?, ∀ last ∈ ticks.getLast?, advancedIntervals none ticks =
          (last.expectedBoundary - first.expectedBoundary) / (interval * 1000000) := by
  lift interval to Nat using by omega
  lift times to List Nat using hepoch
  have hinterval : 1 ≤ interval := Int.ofNat_le.mp hinterval
  have hsorted : times.Pairwise (· ≤ ·) :=
    (List.pairwise_map.mp hsorted).imp fun hle => Int.ofNat_le.mp hle
  have hcast : ∀ {bound : Int}, (∀ t ∈ times.map Nat.cast, t ≤ bound) →
      ∀ t ∈ times, (t : Int) ≤ bound := fun h t ht => h t (List.mem_map_of_mem ht)
  have hunit : ((intervalMicros interval : Nat) : Int) = interval * 1000000 := by
    rw [intervalMicros]
    push_cast
    rfl
  refine ⟨fun hlast => runTicks_returns (hcast hlast), ?_⟩
  intro ticks h
  obtain ⟨counts, hcounts, hordered, hdrifts, hadvanced⟩ :=
    runTicks_none_spec hinterval hsorted (hcast hrange) h
  refine ⟨hdrifts, ?_, ?_, ?_⟩
  · intro tick htick
    have hmem := List.mem_map_of_mem (f := SchedulerTick.expectedBoundary) htick
    rw [hcounts, List.mem_map] at hmem
    obtain ⟨k, -, hk⟩ := hmem
    rw [← hk, ← hunit]
    push_cast
    exact dvd_mul_left _ _
  · rw [hcounts, List.pairwise_map]
    exact hordered.imp fun hle => Int.ofNat_le.mpr (Nat.mul_le_mul_right _ hle)
  · intro first hfirst last hlast
    have hfirst := congrArg (Option.map SchedulerTick.expectedBoundary) hfirst
    have hlast := congrArg (Option.map SchedulerTick.expectedBoundary) hlast
    rw [← List.head?_map, hcounts, List.head?_map] at hfirst
    rw [← List.getLast?_map, hcounts, List.getLast?_map] at hlast
    obtain ⟨n, hn, hfirst⟩ := Option.map_eq_some_iff.mp hfirst
    obtain ⟨m, hm, hlast⟩ := Option.map_eq_some_iff.mp hlast
    rw [hadvanced n hn m hm, ← hfirst, ← hlast, ← hunit]
    have hdiff : ((m * intervalMicros interval : Nat) : Int) - (n * intervalMicros interval : Nat) =
        ((m : Int) - n) * (intervalMicros interval : Nat) := by
      push_cast
      ring
    have hpos : ((intervalMicros interval : Nat) : Int) ≠ 0 := by
      rw [intervalMicros]
      omega
    rw [hdiff, Int.mul_ediv_cancel _ hpos]

/-- Three ticks, the last two in one interval. -/
theorem scheduler_accounting_halfMinute :
    ∃ ticks, runTicks 30 none [7000000, 95000000, 96000000] = .ok ticks ∧
      advancedIntervals none ticks = (90000000 - 0) / (30 * 1000000) := by
  let ticks : List SchedulerTick :=
    [⟨0, 7000000, 7, 0⟩, ⟨90000000, 95000000, 5, 2⟩, ⟨90000000, 96000000, 6, 0⟩]
  have hrun : runTicks 30 none [7000000, 95000000, 96000000] = .ok ticks := by decide +kernel
  refine ⟨ticks, hrun, ?_⟩
  exact ((@scheduler_accounting 30 (by decide) [7000000, 95000000, 96000000] (by decide)
    (by decide) (by decide)).2 ticks hrun).2.2.2 _ rfl _ rfl

end AiopsTriage
