import AiopsTriage.Peak.Sustained

/-!
# What a streak means

The stage keeps a counter for every key and carries it from cycle to cycle. Seen from a
whole run, the counter is a count over the run: of the cycles in which the key was anomalous
on sufficient evidence, in the longest part of the run up to now whose cycles lie in
successive buckets and never found the key healthy (`streak_eq_count`).

Cycles are successive only when their buckets are one apart. So a second cycle in a bucket
starts the streak anew (`reevaluation_keeps_iff`), and an anomaly that is there in every
cycle gets sustained exactly when the buckets after the first have one cycle each
(`sustained_over_buckets_iff`).
-/

namespace AiopsTriage

/-! ## Runs -/

/-- The states after a history of cycles, the newest first. -/
def windowStateAfter (requiredBuckets evaluationIntervalMinutes : Int)
    (prior : Dict SustainedIdentityKey SustainedWindowState) :
    List SustainedCycle → Except Failure (Dict SustainedIdentityKey SustainedWindowState)
  | [] => .ok prior
  | cycle :: past => do
    let before ← windowStateAfter requiredBuckets evaluationIntervalMinutes prior past
    let statuses ←
      computeSustainedStatusByKey cycle before requiredBuckets evaluationIntervalMinutes
    return buildSustainedWindowStateByKey statuses

/-- The statuses of a cycle after a history. -/
def statusesAfter (requiredBuckets evaluationIntervalMinutes : Int)
    (prior : Dict SustainedIdentityKey SustainedWindowState) (cycle : SustainedCycle)
    (past : List SustainedCycle) : Except Failure SustainedByKey := do
  let before ← windowStateAfter requiredBuckets evaluationIntervalMinutes prior past
  computeSustainedStatusByKey cycle before requiredBuckets evaluationIntervalMinutes

/-- The streak the statuses hold for a key. -/
def storedStreak (statuses : SustainedByKey) (key : SustainedIdentityKey) : Int :=
  ((statuses.get? key).map SustainedStreakStatus.consecutiveAnomalousBuckets).getD 0

/-- Whether a key is sustained; one without a status is not. -/
def isSustainedIn (statuses : SustainedByKey) (key : SustainedIdentityKey) : Bool :=
  (statuses.get? key).any fun status => status.isSustained

variable {requiredBuckets m : Int} {cycle : SustainedCycle} {past : List SustainedCycle}
  {prior window : Dict SustainedIdentityKey SustainedWindowState} {statuses : SustainedByKey}
  {key : SustainedIdentityKey}

/-! ## One cycle -/

/-- What a key carries over into a cycle: its streak, when the bucket before was evaluated. -/
def carriedStreak (m : Int) (priorState : Option SustainedWindowState) (t : Instant) : Int :=
  match priorState with
  | none => 0
  | some prior =>
    if bucketOf m t - bucketOf m prior.lastEvaluatedAt = 1 then prior.consecutiveAnomalousBuckets
    else 0

theorem isConsecutiveInterval_ok {previous current : Instant} {b : Bool}
    (h : isConsecutiveInterval previous current m = .ok b) :
    b = decide (bucketOf m current - bucketOf m previous = 1) := by
  unfold isConsecutiveInterval at h
  split at h
  · cases h
  · cases h
    rfl

/-- The next streak: what is carried over, and one more for an anomaly on sufficient
evidence; a healthy cycle takes it to zero. -/
theorem nextStreakCount_ok {priorState : Option SustainedWindowState} {anomalous insufficient : Bool}
    {t : Instant} {streak : Int}
    (h : nextStreakCount priorState anomalous insufficient t m = .ok streak) :
    streak = if insufficient then carriedStreak m priorState t
      else if anomalous then carriedStreak m priorState t + 1 else 0 := by
  unfold nextStreakCount at h
  cases insufficient with
  | true =>
    cases priorState with
    | none =>
      cases h
      rfl
    | some prior =>
      obtain ⟨b, hb, h⟩ := Except.bind_eq_ok.mp h
      obtain rfl := isConsecutiveInterval_ok hb
      cases h
      simp [carriedStreak]
  | false =>
    cases anomalous with
    | false =>
      cases h
      rfl
    | true =>
      cases priorState with
      | none =>
        cases h
        rfl
      | some prior =>
        obtain ⟨b, hb, h⟩ := Except.bind_eq_ok.mp h
        obtain rfl := isConsecutiveInterval_ok hb
        cases h
        simp only [carriedStreak, decide_eq_true_eq, Bool.false_eq_true, if_false, if_true]
        split <;> simp

/-- The streak of a cycle on a window state. -/
def streakOf (m : Int) (window : Dict SustainedIdentityKey SustainedWindowState)
    (cycle : SustainedCycle) (key : SustainedIdentityKey) : Int :=
  if cycle.insufficient key then carriedStreak m (window.get? key) cycle.evaluationTime
  else if cycle.isAnomalous key then carriedStreak m (window.get? key) cycle.evaluationTime + 1
  else 0

/-- **One cycle**: the streak of a key, whether it is sustained, and what is handed on. -/
theorem computeSustainedStatusByKey_spec
    (h : computeSustainedStatusByKey cycle window requiredBuckets m = .ok statuses)
    (key : SustainedIdentityKey) :
    (((window.get? key).isSome ∨ cycle.isAnomalous key = true) ∧
      storedStreak statuses key = streakOf m window cycle key ∧
      (isSustainedIn statuses key = true ↔
        cycle.insufficient key = false ∧ requiredBuckets ≤ streakOf m window cycle key) ∧
      (buildSustainedWindowStateByKey statuses).get? key =
        some ⟨key, streakOf m window cycle key, cycle.evaluationTime⟩) ∨
    (window.get? key = none ∧ cycle.isAnomalous key = false ∧
      storedStreak statuses key = 0 ∧ isSustainedIn statuses key = false ∧
      (buildSustainedWindowStateByKey statuses).get? key = none) := by
  obtain ⟨hknown, hunknown⟩ := computeSustainedStatusByKey_get? h key
  rw [buildSustainedWindowStateByKey_get?]
  by_cases hkey : (window.get? key).isSome ∨ cycle.isAnomalous key = true
  · obtain ⟨status, hstatus, hget⟩ := hknown hkey
    obtain ⟨streak, hstreak, hstatus⟩ := Except.bind_eq_ok.mp hstatus
    obtain ⟨codes, -, hstatus⟩ := Except.bind_eq_ok.mp hstatus
    have hstreak := nextStreakCount_ok hstreak
    rw [Except.pure_eq_ok] at hstatus
    subst hstatus
    refine .inl ⟨hkey, ?_, ?_, ?_⟩
    · rw [storedStreak, hget]
      exact hstreak
    · rw [isSustainedIn, hget]
      simp only [Option.any_some, Bool.and_eq_true, decide_eq_true_eq, Bool.not_eq_true']
      rw [hstreak]
      exact and_comm
    · rw [hget, streakOf, ← hstreak]
      rfl
  · rw [not_or, Option.not_isSome_iff_eq_none, Bool.not_eq_true] at hkey
    have hget := hunknown hkey.1 hkey.2
    refine .inr ⟨hkey.1, hkey.2, ?_, ?_, ?_⟩
    · rw [storedStreak, hget]
      rfl
    · rw [isSustainedIn, hget]
      rfl
    · rw [hget]
      rfl

/-- A key without a state that is healthy has no streak. -/
theorem streakOf_unknown (hwindow : window.get? key = none) (hanomalous : cycle.isAnomalous key = false) :
    streakOf m window cycle key = 0 := by
  rw [streakOf, hwindow, hanomalous]
  split <;> rfl

/-! ## What the counter counts -/

/-- The newer cycle lies in the bucket after the older one's. -/
def SustainedCycle.Successive (m : Int) (older newer : SustainedCycle) : Prop :=
  bucketOf m newer.evaluationTime - bucketOf m older.evaluationTime = 1

/-- The cycle did not find the key healthy. -/
def SustainedCycle.Holds (key : SustainedIdentityKey) (cycle : SustainedCycle) : Prop :=
  cycle.insufficient key = true ∨ cycle.isAnomalous key = true

/-- The cycle found the key anomalous, on sufficient evidence. -/
def SustainedCycle.counts (key : SustainedIdentityKey) (cycle : SustainedCycle) : Bool :=
  cycle.isAnomalous key && !cycle.insufficient key

instance : DecidableRel (SustainedCycle.Successive m) := fun older newer =>
  inferInstanceAs (Decidable
    (bucketOf m newer.evaluationTime - bucketOf m older.evaluationTime = 1))

instance : DecidablePred (SustainedCycle.Holds key) := fun cycle =>
  inferInstanceAs (Decidable (cycle.insufficient key = true ∨ cycle.isAnomalous key = true))

/-- The count over the streak of a history. -/
def streakCount (m : Int) (key : SustainedIdentityKey) (history : List SustainedCycle) : Nat :=
  Streak.countRecent (SustainedCycle.Successive m) (SustainedCycle.Holds key)
    (SustainedCycle.counts key) history

theorem streakCount_cons : streakCount m key (cycle :: past) =
    if SustainedCycle.Holds key cycle then
      (if ∃ newest ∈ past.head?, SustainedCycle.Successive m newest cycle then
        streakCount m key past else 0) + if SustainedCycle.counts key cycle then 1 else 0
    else 0 := Streak.countRecent_cons

/-- The states after a run count its streaks: every state holds the count and the time of the
newest cycle, and a key without a state was never anomalous. -/
def Counts (m : Int) (window : Dict SustainedIdentityKey SustainedWindowState)
    (history : List SustainedCycle) : Prop :=
  ∀ key, (∀ state, window.get? key = some state →
      state.consecutiveAnomalousBuckets = streakCount m key history ∧
        ∃ newest ∈ history.head?, state.lastEvaluatedAt = newest.evaluationTime) ∧
    (window.get? key = none → ∀ cycle ∈ history, cycle.isAnomalous key = false)

theorem streakCount_eq_zero {history : List SustainedCycle}
    (h : ∀ cycle ∈ history, cycle.isAnomalous key = false) : streakCount m key history = 0 := by
  refine Streak.countRecent_eq_zero fun cycle hcycle => ?_
  rw [SustainedCycle.counts, h cycle hcycle, Bool.false_and]

/-- What is carried over is the count of the history, when the cycle is successive to it. -/
theorem Counts.carried (h : Counts m window past) :
    carriedStreak m (window.get? key) cycle.evaluationTime =
      if ∃ newest ∈ past.head?, SustainedCycle.Successive m newest cycle then
        (streakCount m key past : Int) else 0 := by
  obtain ⟨hsome, hnone⟩ := h key
  cases hwindow : window.get? key with
  | none =>
    rw [streakCount_eq_zero (hnone hwindow)]
    split <;> rfl
  | some state =>
    obtain ⟨hstreak, newest, hnewest, htime⟩ := hsome state hwindow
    have hhead : (∃ newest ∈ past.head?, SustainedCycle.Successive m newest cycle) ↔
        bucketOf m cycle.evaluationTime - bucketOf m state.lastEvaluatedAt = 1 := by
      rw [Option.mem_def] at hnewest
      simp only [hnewest, Option.mem_some_iff, exists_eq_left', htime, SustainedCycle.Successive]
    rw [carriedStreak, hstreak]
    by_cases hsuccessive : bucketOf m cycle.evaluationTime - bucketOf m state.lastEvaluatedAt = 1
    · rw [if_pos hsuccessive, if_pos (hhead.mpr hsuccessive)]
    · rw [if_neg hsuccessive, if_neg (mt hhead.mp hsuccessive)]

/-- The streak a cycle computes is the count of the history with it. -/
theorem Counts.streakOf_eq (h : Counts m window past) :
    streakOf m window cycle key = streakCount m key (cycle :: past) := by
  rw [streakOf, h.carried, streakCount_cons]
  -- the cases are the same on both sides
  cases hinsufficient : cycle.insufficient key with
  | true =>
    have hholds : SustainedCycle.Holds key cycle := .inl hinsufficient
    rw [if_pos rfl, if_pos hholds, SustainedCycle.counts, hinsufficient]
    simp
  | false =>
    rw [if_neg Bool.false_ne_true, SustainedCycle.counts, hinsufficient]
    cases hanomalous : cycle.isAnomalous key with
    | true =>
      have hholds : SustainedCycle.Holds key cycle := .inr hanomalous
      rw [if_pos rfl, if_pos hholds]
      simp
    | false =>
      have hbreaks : ¬ SustainedCycle.Holds key cycle := by
        rintro (h | h)
        · rw [hinsufficient] at h
          cases h
        · rw [hanomalous] at h
          cases h
      rw [if_neg Bool.false_ne_true, if_neg hbreaks]
      rfl

/-- One cycle keeps the counts. -/
theorem Counts.step (h : Counts m window past)
    (hcycle : computeSustainedStatusByKey cycle window requiredBuckets m = .ok statuses) :
    Counts m (buildSustainedWindowStateByKey statuses) (cycle :: past) := by
  intro key
  rcases computeSustainedStatusByKey_spec hcycle key with
    ⟨-, -, -, hnext⟩ | ⟨hwindow, hanomalous, -, -, hnext⟩
  · rw [hnext, h.streakOf_eq]
    refine ⟨fun state hstate => ?_, fun hnone => (by cases hnone)⟩
    obtain rfl := Option.some.inj hstate
    exact ⟨rfl, cycle, rfl, rfl⟩
  · rw [hnext]
    refine ⟨fun state hstate => (by cases hstate), fun _ c hc => ?_⟩
    rcases List.mem_cons.mp hc with rfl | hc
    · exact hanomalous
    · exact (h key).2 hwindow c hc

/-- A run that starts without states counts its streaks. -/
theorem counts_windowStateAfter {history : List SustainedCycle}
    (h : windowStateAfter requiredBuckets m .empty history = .ok window) :
    Counts m window history := by
  induction history generalizing window with
  | nil =>
    cases h
    exact fun key => ⟨fun state hstate => (by cases hstate), fun _ c hc => (by cases hc)⟩
  | cons cycle past ih =>
    obtain ⟨before, hbefore, h⟩ := Except.bind_eq_ok.mp h
    obtain ⟨statuses, hstatuses, h⟩ := Except.bind_eq_ok.mp h
    rw [Except.pure_eq_ok] at h
    rw [← h]
    exact (ih hbefore).step hstatuses

/-- **Streaks**: in a run that starts without states, a key is sustained at the newest cycle
exactly when its evidence is sufficient there and enough cycles count in the longest part of
the run up to now whose cycles lie in successive buckets and never found the key healthy. The
stored streak is the number of these cycles. -/
theorem streak_eq_count {part : List SustainedCycle}
    (h : statusesAfter requiredBuckets m .empty cycle past = .ok statuses)
    (hrequired : 1 ≤ requiredBuckets) (key : SustainedIdentityKey)
    (hpart : Streak.Longest (SustainedCycle.Successive m) (SustainedCycle.Holds key) part
      (cycle :: past)) :
    (isSustainedIn statuses key = true ↔ cycle.insufficient key = false ∧
      requiredBuckets ≤ part.countP (SustainedCycle.counts key)) ∧
      storedStreak statuses key = part.countP (SustainedCycle.counts key) := by
  obtain ⟨window, hwindow, hcycle⟩ := Except.bind_eq_ok.mp h
  have hcounts := counts_windowStateAfter hwindow
  have hstreak : streakOf m window cycle key = part.countP (SustainedCycle.counts key) := by
    rw [hcounts.streakOf_eq, Streak.longest_iff.mp hpart]
    rfl
  rw [← hstreak]
  rcases computeSustainedStatusByKey_spec hcycle key with
    ⟨-, hstored, hsustained, -⟩ | ⟨hunknown, hanomalous, hstored, hsustained, -⟩
  · exact ⟨hsustained, hstored⟩
  · rw [streakOf_unknown hunknown hanomalous, hsustained]
    refine ⟨iff_of_false Bool.false_ne_true fun hle => ?_, hstored⟩
    exact absurd (hrequired.trans hle.2) (by decide)

/-- A cycle at some minute that sees a volume drop on the orders topic. -/
def dropAt (minute : Nat) : SustainedCycle where
  anomalyFindings := [⟨.volumeDrop, ["prod", "cluster-a", "orders"]⟩]
  evidenceStatusMapByScope := none
  evaluationTime := minute * 60000000

/-- The key of the orders topic. -/
def ordersKey : SustainedIdentityKey := ⟨"prod", "cluster-a", "topic:orders", "VOLUME_DROP"⟩

/-- Two successive cycles make a streak of two. -/
theorem streak_eq_count_orders :
    ∃ statuses, statusesAfter 2 5 .empty (dropAt 5) [dropAt 0] = .ok statuses ∧
      isSustainedIn statuses ordersKey = true ∧ storedStreak statuses ordersKey = 2 := by
  obtain ⟨statuses, hstatuses⟩ : ∃ statuses,
      statusesAfter 2 5 .empty (dropAt 5) [dropAt 0] = .ok statuses := by
    have hreturns : Except.Returns (statusesAfter 2 5 .empty (dropAt 5) [dropAt 0]) := by
      decide +kernel
    exact hreturns
  obtain ⟨hsustained, hstored⟩ :=
    streak_eq_count hstatuses (by decide) ordersKey (Streak.longest_iff.mpr rfl)
  refine ⟨statuses, hstatuses, hsustained.mpr ?_, hstored.trans ?_⟩
  · decide +kernel
  · decide +kernel

/-! ## More than one cycle in a bucket -/

/-- The state after a cycle carries nothing into the same bucket. -/
theorem carriedStreak_same_bucket {state : SustainedWindowState} {t : Instant}
    (h : bucketOf m t = bucketOf m state.lastEvaluatedAt) : carriedStreak m (some state) t = 0 := by
  rw [carriedStreak, h, Int.sub_self, if_neg (by decide)]

/-- The streak of a cycle after others in its bucket: one for an anomaly, else zero. -/
theorem streakOf_repeated {c : SustainedCycle} {key : SustainedIdentityKey}
    (hwindow : ∀ state, window.get? key = some state →
      bucketOf m c.evaluationTime = bucketOf m state.lastEvaluatedAt) :
    streakOf m window c key = if SustainedCycle.counts key c then 1 else 0 := by
  have hcarried : carriedStreak m (window.get? key) c.evaluationTime = 0 := by
    cases hstate : window.get? key with
    | none => rfl
    | some state => exact carriedStreak_same_bucket (hwindow state hstate)
  rw [streakOf, hcarried, SustainedCycle.counts]
  cases c.insufficient key <;> cases c.isAnomalous key <;> rfl

/-- After a cycle every state of a key is of the cycle's bucket, or the key has none. -/
theorem lastEvaluatedAt_of_windowStateAfter
    (h : windowStateAfter requiredBuckets m prior (cycle :: past) = .ok window)
    {state : SustainedWindowState} (hstate : window.get? key = some state) :
    state.lastEvaluatedAt = cycle.evaluationTime := by
  obtain ⟨before, -, h⟩ := Except.bind_eq_ok.mp h
  obtain ⟨statuses, hstatuses, h⟩ := Except.bind_eq_ok.mp h
  rw [Except.pure_eq_ok] at h
  subst h
  rcases computeSustainedStatusByKey_spec hstatuses key with
    ⟨-, -, -, hnext⟩ | ⟨-, -, -, -, hnext⟩
  · obtain rfl := Option.some.inj (hnext.symm.trans hstate)
    rfl
  · rw [hnext] at hstate
    cases hstate

/-- Whether a cycle gives a key a status. -/
def Evaluated (window : Dict SustainedIdentityKey SustainedWindowState) (cycle : SustainedCycle)
    (key : SustainedIdentityKey) : Prop :=
  (window.get? key).isSome ∨ cycle.isAnomalous key = true

/-- What is stored for a key, whether it has a status or not. -/
theorem stored_eq (h : computeSustainedStatusByKey cycle window requiredBuckets m = .ok statuses)
    (key : SustainedIdentityKey) :
    storedStreak statuses key = streakOf m window cycle key ∧
      (isSustainedIn statuses key = true ↔ Evaluated window cycle key ∧
        cycle.insufficient key = false ∧ requiredBuckets ≤ streakOf m window cycle key) := by
  rcases computeSustainedStatusByKey_spec h key with
    ⟨hevaluated, hstored, hsustained, -⟩ | ⟨hunknown, hanomalous, hstored, hsustained, -⟩
  · exact ⟨hstored, hsustained.trans ⟨fun h => ⟨hevaluated, h⟩, fun h => h.2⟩⟩
  · rw [streakOf_unknown hunknown hanomalous, hstored, hsustained]
    refine ⟨rfl, iff_of_false Bool.false_ne_true ?_⟩
    rintro ⟨hknown | hanomalous', -⟩
    · rw [hunknown] at hknown
      cases hknown
    · rw [hanomalous] at hanomalous'
      cases hanomalous'

/-- Cycles that agree on a key evaluate it all or none. -/
theorem evaluated_windowStateAfter {anomalous : Bool}
    (h : windowStateAfter requiredBuckets m prior past = .ok window)
    (hpast : ∀ c ∈ past, c.isAnomalous key = anomalous) (hcycle : cycle.isAnomalous key = anomalous) :
    Evaluated window cycle key ↔ Evaluated prior cycle key := by
  unfold Evaluated
  rw [hcycle]
  induction past generalizing window with
  | nil =>
    cases h
    exact Iff.rfl
  | cons c rest ih =>
    obtain ⟨before, hbefore, h⟩ := Except.bind_eq_ok.mp h
    obtain ⟨statuses, hstatuses, h⟩ := Except.bind_eq_ok.mp h
    rw [Except.pure_eq_ok] at h
    subst h
    rw [← ih hbefore fun c' hc' => hpast c' (List.mem_cons_of_mem c hc')]
    have hc := hpast c List.mem_cons_self
    rcases computeSustainedStatusByKey_spec hstatuses key with
      ⟨hevaluated, -, -, hnext⟩ | ⟨hunknown, hanomalous, -, -, hnext⟩
    · rw [hc] at hevaluated
      rw [hnext]
      exact iff_of_true (.inl rfl) hevaluated
    · rw [hnext, hunknown]

/-- Cycles that agree on a key and its bucket compute the same from the same states. -/
theorem streakOf_congr {c : SustainedCycle}
    (hanomalous : c.isAnomalous key = cycle.isAnomalous key)
    (hinsufficient : c.insufficient key = cycle.insufficient key)
    (hbucket : bucketOf m c.evaluationTime = bucketOf m cycle.evaluationTime) :
    streakOf m window c key = streakOf m window cycle key := by
  have hcarried : ∀ state, carriedStreak m state c.evaluationTime =
      carriedStreak m state cycle.evaluationTime := by
    intro state
    cases state with
    | none => rfl
    | some state => rw [carriedStreak, carriedStreak, hbucket]
  rw [streakOf, streakOf, hanomalous, hinsufficient, hcarried]

/-- **Evaluating again**: cycles that agree on a key and lie in one bucket leave the streak
that one of them would have left exactly when there is only one, or the key is healthy, or no
streak comes in from the bucket before. -/
theorem reevaluation_keeps_iff {single : SustainedCycle} {many once : SustainedByKey}
    (hsame : ∀ c ∈ cycle :: past, c.isAnomalous key = single.isAnomalous key ∧
      c.insufficient key = single.insufficient key ∧
      bucketOf m c.evaluationTime = bucketOf m single.evaluationTime)
    (hmany : statusesAfter requiredBuckets m prior cycle past = .ok many)
    (honce : computeSustainedStatusByKey single prior requiredBuckets m = .ok once) :
    (storedStreak many key = storedStreak once key ∧
        isSustainedIn many key = isSustainedIn once key) ↔
      past = [] ∨ (single.isAnomalous key = false ∧ single.insufficient key = false) ∨
        carriedStreak m (prior.get? key) single.evaluationTime = 0 := by
  obtain ⟨window, hwindow, hcycle⟩ := Except.bind_eq_ok.mp hmany
  obtain ⟨hanomalous, hinsufficient, hbucket⟩ := hsame cycle List.mem_cons_self
  obtain ⟨hstored, hsustained⟩ := stored_eq hcycle key
  obtain ⟨hstored', hsustained'⟩ := stored_eq honce key
  -- the streaks decide, for the key has a status in both or in none
  have hevaluated : Evaluated window cycle key ↔ Evaluated prior single key := by
    rw [evaluated_windowStateAfter hwindow
      (fun c hc => (hsame c (List.mem_cons_of_mem cycle hc)).1) hanomalous]
    unfold Evaluated
    rw [hanomalous]
  have hstreaks : (storedStreak many key = storedStreak once key ∧
      isSustainedIn many key = isSustainedIn once key) ↔
        streakOf m window cycle key = streakOf m prior single key := by
    rw [hstored, hstored']
    refine ⟨And.left, fun h => ⟨h, Bool.eq_iff_iff.mpr ?_⟩⟩
    rw [hsustained, hsustained', hevaluated, hinsufficient, h]
  rw [hstreaks]
  cases hpast : past with
  | nil =>
    subst hpast
    cases hwindow
    exact iff_of_true (streakOf_congr hanomalous hinsufficient hbucket) (.inl rfl)
  | cons c rest =>
    subst hpast
    have hagain : streakOf m window cycle key = if SustainedCycle.counts key cycle then 1 else 0 := by
      refine streakOf_repeated fun state hstate => ?_
      rw [lastEvaluatedAt_of_windowStateAfter hwindow hstate, hbucket]
      exact ((hsame c (List.mem_cons_of_mem cycle List.mem_cons_self)).2.2).symm
    rw [hagain, streakOf, SustainedCycle.counts, hanomalous, hinsufficient]
    cases single.insufficient key <;> cases single.isAnomalous key <;> simp [eq_comm]

/-! ## Buckets in a row -/

/-- Only the first bucket of a history, the one of its oldest cycle, is evaluated more than
once. -/
def OnceAfterFirst (m : Int) (first : Int) (history : List SustainedCycle) : Prop :=
  history.IsChain fun newer older =>
    bucketOf m newer.evaluationTime = bucketOf m older.evaluationTime →
      bucketOf m older.evaluationTime = first

/-- Every cycle lies in the bucket of the one before, or in the next. -/
def WithoutGap (m : Int) (history : List SustainedCycle) : Prop :=
  history.IsChain fun newer older =>
    bucketOf m newer.evaluationTime = bucketOf m older.evaluationTime ∨
      bucketOf m newer.evaluationTime = bucketOf m older.evaluationTime + 1

/-- The streak of an anomaly that is there in every cycle of a history without gaps is at least
one, and spans the buckets exactly when those after the first were evaluated once. -/
theorem anomalous_streak {first : Int}
    (hprior : ∀ state, prior.get? key = some state → 0 ≤ state.consecutiveAnomalousBuckets)
    (h : windowStateAfter requiredBuckets m prior past = .ok window)
    (hcycle : computeSustainedStatusByKey cycle window requiredBuckets m = .ok statuses)
    (hall : ∀ c ∈ cycle :: past, c.isAnomalous key = true ∧ c.insufficient key = false)
    (hgap : WithoutGap m (cycle :: past))
    (hfirst : ∀ oldest ∈ (cycle :: past).getLast?, bucketOf m oldest.evaluationTime = first) :
    1 ≤ streakOf m window cycle key ∧ first ≤ bucketOf m cycle.evaluationTime ∧
      (OnceAfterFirst m first (cycle :: past) ↔
        bucketOf m cycle.evaluationTime - first + 1 ≤ streakOf m window cycle key) := by
  obtain ⟨hanomalous, hinsufficient⟩ := hall cycle List.mem_cons_self
  have hstreak : streakOf m window cycle key =
      carriedStreak m (window.get? key) cycle.evaluationTime + 1 := by
    rw [streakOf, hinsufficient, hanomalous, if_neg Bool.false_ne_true, if_pos rfl]
  induction past generalizing cycle window statuses with
  | nil =>
    cases h
    have hcarried : 0 ≤ carriedStreak m (prior.get? key) cycle.evaluationTime := by
      unfold carriedStreak
      cases hstate : prior.get? key with
      | none => exact le_refl _
      | some state =>
        simp only
        split
        · exact hprior state hstate
        · exact le_refl _
    have hbucket := hfirst cycle rfl
    refine ⟨by omega, by omega, iff_of_true (.singleton _) (by omega)⟩
  | cons c rest ih =>
    obtain ⟨before, hbefore, h⟩ := Except.bind_eq_ok.mp h
    obtain ⟨statuses', hstatuses', h⟩ := Except.bind_eq_ok.mp h
    rw [Except.pure_eq_ok] at h
    subst h
    have hmem := fun c' hc' => hall c' (List.mem_cons_of_mem cycle hc')
    obtain ⟨hanomalous', hinsufficient'⟩ := hmem c List.mem_cons_self
    have hstreak' : streakOf m before c key =
        carriedStreak m (before.get? key) c.evaluationTime + 1 := by
      rw [streakOf, hinsufficient', hanomalous', if_neg Bool.false_ne_true, if_pos rfl]
    obtain ⟨hone, hle, honce⟩ := ih hbefore hstatuses' hmem hgap.tail
      (fun oldest holdest => hfirst oldest (by rwa [List.getLast?_cons_cons])) hanomalous'
      hinsufficient' hstreak'
    have hnext : (buildSustainedWindowStateByKey statuses').get? key =
        some ⟨key, streakOf m before c key, c.evaluationTime⟩ := by
      rcases computeSustainedStatusByKey_spec hstatuses' key with
        ⟨-, -, -, hnext⟩ | ⟨-, hhealthy, -⟩
      · exact hnext
      · rw [hanomalous'] at hhealthy
        cases hhealthy
    rw [hnext, carriedStreak] at hstreak
    simp only at hstreak
    have hchain : OnceAfterFirst m first (cycle :: c :: rest) ↔
        (bucketOf m cycle.evaluationTime = bucketOf m c.evaluationTime →
          bucketOf m c.evaluationTime = first) ∧ OnceAfterFirst m first (c :: rest) :=
      List.isChain_cons_cons
    rw [hchain, honce, hstreak]
    rcases hgap.rel with hsame | hsuccessive
    · -- a second cycle in the bucket starts anew
      rw [if_neg (by omega)]
      refine ⟨by omega, by omega, ?_⟩
      constructor
      · rintro ⟨hrepeat, -⟩
        have := hrepeat hsame
        omega
      · intro hspan
        exact ⟨fun _ => by omega, by omega⟩
    · rw [if_pos (by omega)]
      refine ⟨by omega, by omega, ?_⟩
      constructor
      · rintro ⟨-, hspan⟩
        omega
      · intro hspan
        exact ⟨fun hsame => by omega, by omega⟩

/-- **Re-evaluation**: cycles on the same findings and evidence in one bucket leave what one of
them would have left exactly when there is only one, or the key is healthy, or no streak comes
in from the bucket before. And an anomaly that is there in every cycle of the required number
of buckets in a row is sustained exactly when those after the first were evaluated once. -/
theorem reevaluation_iff (requiredBuckets m : Int)
    (prior : Dict SustainedIdentityKey SustainedWindowState) (key : SustainedIdentityKey) :
    (∀ cycle past single many once,
      (∀ c ∈ cycle :: past, c.isAnomalous key = single.isAnomalous key ∧
        c.insufficient key = single.insufficient key ∧
        bucketOf m c.evaluationTime = bucketOf m single.evaluationTime) →
      statusesAfter requiredBuckets m prior cycle past = .ok many →
      computeSustainedStatusByKey single prior requiredBuckets m = .ok once →
      ((storedStreak many key = storedStreak once key ∧
          isSustainedIn many key = isSustainedIn once key) ↔
        past = [] ∨ (single.isAnomalous key = false ∧ single.insufficient key = false) ∨
          carriedStreak m (prior.get? key) single.evaluationTime = 0)) ∧
    ∀ cycle past first statuses,
      (∀ state, prior.get? key = some state → 0 ≤ state.consecutiveAnomalousBuckets) →
      (∀ c ∈ cycle :: past, c.isAnomalous key = true ∧ c.insufficient key = false) →
      WithoutGap m (cycle :: past) →
      (∀ oldest ∈ (cycle :: past).getLast?, bucketOf m oldest.evaluationTime = first) →
      bucketOf m cycle.evaluationTime - first + 1 = requiredBuckets →
      statusesAfter requiredBuckets m prior cycle past = .ok statuses →
      (isSustainedIn statuses key = true ↔ OnceAfterFirst m first (cycle :: past)) := by
  constructor
  · intro cycle past single many once hsame hmany honce
    exact reevaluation_keeps_iff hsame hmany honce
  · intro cycle past first statuses hprior hall hgap hfirst hspan h
    obtain ⟨window, hwindow, hcycle⟩ := Except.bind_eq_ok.mp h
    obtain ⟨hanomalous, hinsufficient⟩ := hall cycle List.mem_cons_self
    obtain ⟨-, -, honce⟩ := anomalous_streak hprior hwindow hcycle hall hgap hfirst
    rw [(stored_eq hcycle key).2, honce, hspan]
    exact ⟨fun h => h.2.2, fun h => ⟨.inr hanomalous, hinsufficient, h⟩⟩

/-- The first bucket is evaluated at minutes zero and three: no streak comes in, so both leave what
one would, and with the cycle of minute five the anomaly is sustained over two buckets. -/
theorem reevaluation_iff_orders :
    ∃ many once statuses, statusesAfter 2 5 .empty (dropAt 3) [dropAt 0] = .ok many ∧
      computeSustainedStatusByKey (dropAt 3) .empty 2 5 = .ok once ∧
      storedStreak many ordersKey = storedStreak once ordersKey ∧
      isSustainedIn many ordersKey = isSustainedIn once ordersKey ∧
      statusesAfter 2 5 .empty (dropAt 5) [dropAt 3, dropAt 0] = .ok statuses ∧
      isSustainedIn statuses ordersKey = true := by
  have hmany : Except.Returns (statusesAfter 2 5 .empty (dropAt 3) [dropAt 0]) := by decide +kernel
  have honce : Except.Returns (computeSustainedStatusByKey (dropAt 3) .empty 2 5) := by
    decide +kernel
  have hstatuses : Except.Returns (statusesAfter 2 5 .empty (dropAt 5) [dropAt 3, dropAt 0]) := by
    decide +kernel
  obtain ⟨many, hmany⟩ := hmany
  obtain ⟨once, honce⟩ := honce
  obtain ⟨statuses, hstatuses⟩ := hstatuses
  obtain ⟨hkeeps, hspans⟩ := reevaluation_iff 2 5 .empty ordersKey
  have hsame : ∀ c ∈ [dropAt 3, dropAt 0], c.isAnomalous ordersKey = (dropAt 3).isAnomalous ordersKey ∧
      c.insufficient ordersKey = (dropAt 3).insufficient ordersKey ∧
      bucketOf 5 c.evaluationTime = bucketOf 5 (dropAt 3).evaluationTime := by
    decide +kernel
  have hall : ∀ c ∈ [dropAt 5, dropAt 3, dropAt 0], c.isAnomalous ordersKey = true ∧
      c.insufficient ordersKey = false := by
    decide +kernel
  have hgap : WithoutGap 5 [dropAt 5, dropAt 3, dropAt 0] := by
    unfold WithoutGap
    decide +kernel
  have honceAfter : OnceAfterFirst 5 0 [dropAt 5, dropAt 3, dropAt 0] := by
    unfold OnceAfterFirst
    decide +kernel
  obtain ⟨hstreak, hsustained⟩ :=
    (hkeeps (dropAt 3) [dropAt 0] (dropAt 3) many once hsame hmany honce).mpr (.inr (.inr rfl))
  refine ⟨many, once, statuses, hmany, honce, hstreak, hsustained, hstatuses, ?_⟩
  exact (hspans (dropAt 5) [dropAt 3, dropAt 0] 0 statuses (fun state hstate => by cases hstate) hall
    hgap (by decide +kernel) (by decide +kernel) hstatuses).mpr honceAfter

/-- The cycles of minutes five and six lie in one bucket and see the same; after the first the
anomaly is sustained, after both it is not. -/
theorem repeated_cycle_resets :
    (∀ c ∈ [dropAt 6, dropAt 5], c.isAnomalous ordersKey = true ∧
      c.insufficient ordersKey = false ∧ bucketOf 5 c.evaluationTime = 1) ∧
    ∃ once many, statusesAfter 2 5 .empty (dropAt 5) [dropAt 0] = .ok once ∧
      statusesAfter 2 5 .empty (dropAt 6) [dropAt 5, dropAt 0] = .ok many ∧
      storedStreak once ordersKey = 2 ∧ isSustainedIn once ordersKey = true ∧
      storedStreak many ordersKey = 1 ∧ isSustainedIn many ordersKey = false := by
  have honce : Except.Returns (statusesAfter 2 5 .empty (dropAt 5) [dropAt 0]) := by decide +kernel
  have hmany : Except.Returns (statusesAfter 2 5 .empty (dropAt 6) [dropAt 5, dropAt 0]) := by
    decide +kernel
  obtain ⟨once, honce⟩ := honce
  obtain ⟨many, hmany⟩ := hmany
  have hread : ((statusesAfter 2 5 .empty (dropAt 5) [dropAt 0]).toOption.map fun statuses =>
      (storedStreak statuses ordersKey, isSustainedIn statuses ordersKey)) = some (2, true) := by
    decide +kernel
  have hread' : ((statusesAfter 2 5 .empty (dropAt 6) [dropAt 5, dropAt 0]).toOption.map
      fun statuses => (storedStreak statuses ordersKey, isSustainedIn statuses ordersKey)) =
        some (1, false) := by
    decide +kernel
  rw [honce] at hread
  rw [hmany] at hread'
  obtain ⟨hstreak, hsustained⟩ := Prod.mk.inj (Option.some.inj hread)
  obtain ⟨hstreak', hsustained'⟩ := Prod.mk.inj (Option.some.inj hread')
  exact ⟨by decide +kernel, once, many, honce, hmany, hstreak, hsustained, hstreak', hsustained'⟩

end AiopsTriage
