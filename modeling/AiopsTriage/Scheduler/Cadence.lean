import AiopsTriage.Scheduler.Ticks
import Mathlib.Data.List.Chain

/-!
# The cadence of the hot path

After each cycle the loop of the hot path sleeps until the boundary after the time the cycle was
for. When it wakes late, or a cycle takes long, the next tick comes later, and says how many
intervals had none.

As long as no sleep ends early, no interval gets two ticks, and from one tick to the next the
boundaries move on by exactly the intervals that were missed and one (`hot_path_cadence`).
-/

namespace AiopsTriage

/-- `next_interval_boundary`. -/
def nextIntervalBoundary (timestamp : Instant) (intervalSeconds : Int) : Except Failure Instant := do
  let boundary ← floorToIntervalBoundary timestamp intervalSeconds
  if boundary + intervalSeconds * 1000000 ≤ maxInstant then
    return boundary + intervalSeconds * 1000000
  else .error .overflowError

/-- The clock around a cycle. -/
structure CycleClock where
  /-- when its work is done -/
  finishedAt : Nat
  /-- when the sleep after it ends -/
  wokenAt : Nat
  deriving DecidableEq, Repr

/-- The ticks of the loop from a time on, each with the time it then asks to sleep. -/
def hotPathTicks (intervalSeconds : Int) :
    Option Instant → Nat → List CycleClock → Except Failure (List (SchedulerTick × Int))
  | _, _, [] => .ok []
  | previousBoundary, evaluationTime, clock :: clocks => do
    let tick ← evaluateSchedulerTick evaluationTime previousBoundary intervalSeconds
    let next ← nextIntervalBoundary evaluationTime intervalSeconds
    let ticks ← hotPathTicks intervalSeconds (some tick.expectedBoundary) clock.wokenAt clocks
    return (tick, max 0 (next - clock.finishedAt)) :: ticks

/-- No sleep ends early. -/
def SleepsThrough (clocks : List CycleClock) (ticks : List (SchedulerTick × Int)) : Prop :=
  List.Forall₂ (fun clock tick => (clock.finishedAt : Int) + tick.2 ≤ clock.wokenAt) clocks ticks

section Cadence

variable {interval : Nat}

/-- What a tick says of the one before, which the loop woke from at a time. -/
structure MovesOn (interval : Nat) (tick tick' : SchedulerTick) (wokenAt : Nat) : Prop where
  /-- intervals are missed or not -/
  missed : 0 ≤ tick'.missedIntervals
  /-- the boundaries move on by the intervals in between and one -/
  boundary : tick'.expectedBoundary =
    tick.expectedBoundary + (tick'.missedIntervals + 1) * (intervalMicros interval : Nat)
  /-- none was missed if it woke before the end of the next interval -/
  punctual : tick'.missedIntervals = 0 ↔
    timestampSeconds wokenAt < timestampSeconds tick.expectedBoundary + 2 * interval

theorem MovesOn.lt (hinterval : 1 ≤ interval) {tick tick' : SchedulerTick} {wokenAt : Nat}
    (h : MovesOn interval tick tick' wokenAt) : tick.expectedBoundary < tick'.expectedBoundary := by
  have hpos : 0 < (tick'.missedIntervals + 1) * (intervalMicros interval : Nat) := by
    refine Int.mul_pos (Int.lt_add_one_of_le h.missed) (Int.natCast_pos.mpr ?_)
    exact Nat.mul_pos hinterval (by decide)
  rw [h.boundary]
  exact lt_add_of_pos_right _ hpos

/-- A tick is at or before its time, and the next boundary is one interval later. -/
theorem next_of_tick (hinterval : 1 ≤ interval) {time : Nat} {previousBoundary : Option Instant}
    {tick : SchedulerTick} {next : Instant}
    (htick : evaluateSchedulerTick time previousBoundary interval = .ok tick)
    (hnext : nextIntervalBoundary time interval = .ok next) :
    ∃ n : Nat, tick.expectedBoundary = (n * intervalMicros interval : Nat) ∧
      next = ((n + 1) * intervalMicros interval : Nat) := by
  obtain ⟨boundary, hboundary, htick⟩ := Except.bind_eq_ok.mp htick
  obtain ⟨boundary', hboundary', hnext⟩ := Except.bind_eq_ok.mp hnext
  obtain rfl := Except.ok.inj (hboundary.symm.trans hboundary')
  cases htick
  obtain ⟨n, rfl, -, -⟩ := floorToIntervalBoundary_spec hinterval hboundary
  refine ⟨n, rfl, ?_⟩
  split at hnext
  · cases hnext
    rw [intervalMicros]
    push_cast
    ring
  · cases hnext

/-- **Step lemma**: a tick after a sleep that did not end early. -/
theorem movesOn_of_wokenAt (hinterval : 1 ≤ interval) {time wokenAt : Nat}
    {previousBoundary : Option Instant} {tick tick' : SchedulerTick} {next : Instant}
    (htick : evaluateSchedulerTick time previousBoundary interval = .ok tick)
    (hnext : nextIntervalBoundary time interval = .ok next) (hwoken : next ≤ wokenAt)
    (hrange : (wokenAt : Int) ≤ maxInstant)
    (htick' : evaluateSchedulerTick wokenAt (some tick.expectedBoundary) interval = .ok tick') :
    MovesOn interval tick tick' wokenAt := by
  obtain ⟨n, hboundary, rfl⟩ := next_of_tick hinterval htick hnext
  obtain ⟨n', hboundary', hlower, hupper, -, hmissed⟩ :=
    evaluateSchedulerTick_ok hinterval hrange htick'
  have hwhole : (n + 1) * interval * 1000000 ≤ wokenAt := by
    rw [intervalMicros, ← Nat.mul_assoc, Int.ofNat_le] at hwoken
    exact hwoken
  -- the seconds reach the next boundary, so the tick is not before it
  have hlt := (le_seconds hwhole).trans_lt hupper
  rw [Int.ofNat_lt] at hlt
  have hle : n + 1 ≤ n' := Nat.lt_succ_iff.mp (Nat.lt_of_mul_lt_mul_right hlt)
  have hcount : tick'.missedIntervals = (n' : Int) - n - 1 := by
    rw [hmissed n (congrArg some hboundary) (by omega)]
    omega
  refine ⟨hcount ▸ by omega, ?_, ?_⟩
  · rw [hboundary, hboundary', hcount]
    push_cast
    ring
  · have hseconds : timestampSeconds tick.expectedBoundary = (n * interval : Nat) := by
      rw [hboundary, intervalMicros, ← Nat.mul_assoc]
      exact seconds_whole _
    rw [hcount, hseconds]
    constructor
    · intro hnone
      obtain rfl : n' = n + 1 := by omega
      refine hupper.trans_le (le_of_eq ?_)
      push_cast
      ring
    · intro hpunctual
      by_contra hmore
      have hfar : (n + 2) * interval ≤ n' * interval := Nat.mul_le_mul_right _ (by omega)
      have hreach := (Int.ofNat_le.mpr hfar).trans hlower
      push_cast at hreach hpunctual
      linarith

/-- The first tick of the loop is at the time it starts at. -/
theorem head_hotPathTicks {previousBoundary : Option Instant} {time : Nat}
    {clocks : List CycleClock} {ticks : List (SchedulerTick × Int)} {tick : SchedulerTick × Int}
    (h : hotPathTicks interval previousBoundary time clocks = .ok ticks)
    (hhead : ticks.head? = some tick) :
    evaluateSchedulerTick time previousBoundary interval = .ok tick.1 := by
  cases clocks with
  | nil =>
    cases h
    cases hhead
  | cons clock clocks =>
    obtain ⟨first, hfirst, h⟩ := Except.bind_eq_ok.mp h
    obtain ⟨next, -, h⟩ := Except.bind_eq_ok.mp h
    obtain ⟨rest, -, h⟩ := Except.bind_eq_ok.mp h
    cases h
    cases hhead
    exact hfirst

/-- **Run lemma**: from each tick of the loop to the next. -/
theorem movesOn_hotPathTicks (hinterval : 1 ≤ interval) {start : Nat} {clocks : List CycleClock}
    (hrange : ∀ clock ∈ clocks, (clock.wokenAt : Int) ≤ maxInstant)
    {previousBoundary : Option Instant} {ticks : List (SchedulerTick × Int)}
    (h : hotPathTicks interval previousBoundary start clocks = .ok ticks)
    (hsleeps : SleepsThrough clocks ticks) {i : Nat} {clock : CycleClock}
    {tick tick' : SchedulerTick × Int} (hclock : clocks[i]? = some clock)
    (htick : ticks[i]? = some tick) (htick' : ticks[i + 1]? = some tick') :
    MovesOn interval tick.1 tick'.1 clock.wokenAt := by
  induction clocks generalizing start previousBoundary ticks i with
  | nil => cases hclock
  | cons first clocks ih =>
    obtain ⟨firstTick, hfirst, h⟩ := Except.bind_eq_ok.mp h
    obtain ⟨next, hnext, h⟩ := Except.bind_eq_ok.mp h
    obtain ⟨rest, hrest, h⟩ := Except.bind_eq_ok.mp h
    cases h
    obtain ⟨hsleep, hsleeps⟩ := List.forall₂_cons.mp hsleeps
    cases i with
    | zero =>
      cases hclock
      cases htick
      -- it sleeps until the next boundary at least
      have hwoken : next ≤ clock.wokenAt := by
        have hmax := le_max_right 0 (next - (clock.finishedAt : Int))
        simp only at hsleep
        linarith
      exact movesOn_of_wokenAt hinterval hfirst hnext hwoken (hrange clock List.mem_cons_self)
        (head_hotPathTicks hrest (List.head?_eq_getElem?.trans htick'))
    | succ i =>
      exact ih (fun c hc => hrange c (List.mem_cons_of_mem first hc)) hrest hsleeps hclock htick
        htick'

/-- **Cadence**: over any cycles of the loop, whatever they take, no interval gets two ticks as long
as no sleep ends early. From each tick to the next the boundaries move on by the intervals it
misses and one, and it misses none exactly when the loop woke before the end of the next interval. -/
theorem hot_path_cadence (hinterval : 1 ≤ interval) {start : Nat} {clocks : List CycleClock}
    (hrange : ∀ clock ∈ clocks, (clock.wokenAt : Int) ≤ maxInstant)
    {previousBoundary : Option Instant} {ticks : List (SchedulerTick × Int)}
    (h : hotPathTicks interval previousBoundary start clocks = .ok ticks)
    (hsleeps : SleepsThrough clocks ticks) :
    (∀ i clock tick tick', clocks[i]? = some clock → ticks[i]? = some tick →
        ticks[i + 1]? = some tick' → MovesOn interval tick.1 tick'.1 clock.wokenAt) ∧
      (ticks.map fun tick => tick.1.expectedBoundary).Pairwise (· < ·) := by
  refine ⟨fun i clock tick tick' => movesOn_hotPathTicks hinterval hrange h hsleeps,
    List.isChain_iff_pairwise.mp (List.isChain_iff_getElem.mpr fun i hi => ?_)⟩
  rw [List.length_map] at hi
  rw [List.getElem_map, List.getElem_map]
  have hclock : i < clocks.length := by
    rw [hsleeps.length_eq]
    omega
  have hmoves := movesOn_hotPathTicks hinterval hrange h hsleeps
    (List.getElem?_eq_getElem hclock) (List.getElem?_eq_getElem (by omega))
    (List.getElem?_eq_getElem hi)
  exact hmoves.lt hinterval

end Cadence

/-- A cycle that is done in time, one that overruns, and one more. -/
def overrun : List CycleClock :=
  [⟨8000000, 30500000⟩, ⟨95000000, 95000000⟩, ⟨96000000, 120000000⟩]

theorem hot_path_cadence_overrun :
    ∃ ticks, hotPathTicks 30 none 7000000 overrun = .ok ticks ∧
      ticks.map (fun tick => tick.1.missedIntervals) = [0, 0, 1] ∧
      (ticks.map fun tick => tick.1.expectedBoundary).Pairwise (· < ·) := by
  let ticks : List (SchedulerTick × Int) :=
    [(⟨0, 7000000, 7, 0⟩, 22000000), (⟨30000000, 30500000, 0, 0⟩, 0),
      (⟨90000000, 95000000, 5, 1⟩, 24000000)]
  have hticks : hotPathTicks 30 none 7000000 overrun = .ok ticks := by decide +kernel
  have hsleeps : SleepsThrough overrun ticks := by
    refine List.Forall₂.cons ?_ (.cons ?_ (.cons ?_ .nil)) <;> decide
  exact ⟨ticks, hticks, rfl,
    (@hot_path_cadence 30 (by decide) 7000000 overrun (by decide) none ticks hticks hsleeps).2⟩

end AiopsTriage
