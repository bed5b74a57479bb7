import AiopsTriage.Lib.Dict
import AiopsTriage.Lib.Fallible
import AiopsTriage.Lib.Runs
import Mathlib.Logic.Function.Basic

/-!
# Writing once under a free key

Several calls write to one store. Each **puts** its body under a key on the condition that the key
is free, in one atomic step; a call whose put is refused **reads** what is there, and accepts it
when it is its own body. No call deletes.

A run is an interleaving of the steps of any number of calls. A put may be refused although the
key is free (the store reports a conflict), and it may raise, applied or not. Whatever happens,
what is stored stays (`run_grows`), a call that returns finds its body stored
(`stored_of_returned`), and of the calls with one key at most one creates (`created_unique`). A
step that changes the store is the put of a call that creates, unless its answer is lost
(`unchanged_of_not_created`).
-/

universe u v w x y

namespace WriteOnce

/-- A call: `κ` are the keys, `β` the bodies, `ρ` what a call returns and `ε` what it raises. -/
structure Write (κ : Type u) (β : Type v) (ρ : Type w) (ε : Type x) where
  /-- its key, or what it raises before it touches the store -/
  target : Except ε κ
  /-- what it writes -/
  body : β
  /-- the answer of a call that created its object -/
  created : ρ
  /-- the answer of a call that found an object -/
  found : β → Except ε ρ
  /-- only its own body is accepted, and that is no creation -/
  found_ok : ∀ b r, found b = .ok r → b = body ∧ r ≠ created

/-- How the store takes a put. -/
inductive Put (ε : Type x) where
  /-- it is answered -/
  | answered
  /-- a conflict is reported, and nothing is written -/
  | refused
  /-- it raises, after it was applied or without -/
  | raises (applied : Bool) (error : ε)
  deriving DecidableEq, Repr

/-- Where a call is. -/
inductive Phase (ρ : Type w) (ε : Type x) where
  /-- nothing is done -/
  | idle
  /-- its put was refused -/
  | reading
  /-- it has returned or raised -/
  | finished (answer : Except ε ρ)
  deriving DecidableEq

/-- One step of one call. -/
inductive Label (ι : Type y) (ε : Type x) where
  /-- the put of call `i` -/
  | put (i : ι) (how : Put ε)
  /-- the read of call `i`, which may raise -/
  | get (i : ι) (raises : Option ε)
  deriving DecidableEq, Repr

/-- Whose step it is. -/
def Label.call {ι : Type y} {ε : Type x} : Label ι ε → ι
  | .put i _ => i
  | .get i _ => i

/-- The step is no put that was applied although it raises. -/
def Label.Atomic {ι : Type y} {ε : Type x} : Label ι ε → Prop
  | .put _ (.raises applied _) => applied = false
  | _ => True

/-- The store, and where the calls are. -/
structure State (ι : Type y) (κ : Type u) (β : Type v) (ρ : Type w) (ε : Type x) where
  /-- what is stored -/
  objects : Dict κ β
  /-- where each call is -/
  phase : ι → Phase ρ ε

variable {ι : Type y} {κ : Type u} {β : Type v} {ρ : Type w} {ε : Type x}

/-- No call has begun. -/
def start (objects : Dict κ β) : State ι κ β ρ ε := ⟨objects, fun _ => .idle⟩

variable [DecidableEq ι]

/-- The state with call `i` moved to a phase. -/
def moved (s : State ι κ β ρ ε) (i : ι) (p : Phase ρ ε) : State ι κ β ρ ε :=
  { s with phase := Function.update s.phase i p }

variable [DecidableEq κ] (W : ι → Write κ β ρ ε) (missing : κ → ε)

/-- The put of call `i` on its key. -/
def putStep (s : State ι κ β ρ ε) (i : ι) (key : κ) : Put ε → State ι κ β ρ ε
  | .answered =>
    match s.objects.get? key with
    | none =>
      { moved s i (.finished (.ok (W i).created)) with objects := s.objects.set key (W i).body }
    | some _ => moved s i .reading
  | .refused => moved s i .reading
  | .raises applied e =>
    match applied, s.objects.get? key with
    | true, none => { moved s i (.finished (.error e)) with objects := s.objects.set key (W i).body }
    | _, _ => moved s i (.finished (.error e))

/-- The answer of call `i` to what it reads under its key. -/
def readAnswer (s : State ι κ β ρ ε) (i : ι) (key : κ) : Option ε → Except ε ρ
  | some e => .error e
  | none =>
    match s.objects.get? key with
    | none => .error (missing key)
    | some b => (W i).found b

/-- One step. A call that is refused before it touches the store finishes with its put. -/
def step (s : State ι κ β ρ ε) : Label ι ε → Option (State ι κ β ρ ε)
  | .put i how =>
    match s.phase i with
    | .idle =>
      match (W i).target with
      | .error e => some (moved s i (.finished (.error e)))
      | .ok key => some (putStep W s i key how)
    | _ => none
  | .get i raises =>
    match s.phase i, (W i).target with
    | .reading, .ok key => some (moved s i (.finished (readAnswer W missing s i key raises)))
    | _, _ => none

/-! ## What a step can do -/

variable {W missing} {s s' : State ι κ β ρ ε} {l : Label ι ε}

section Enabled

variable {i : ι} {how : Put ε} {raises : Option ε} {key : κ} {e : ε}

/-- The put of a call that is refused before it touches the store. -/
theorem step_put_error (hidle : s.phase i = .idle) (htarget : (W i).target = .error e) :
    step W missing s (.put i how) = some (moved s i (.finished (.error e))) := by
  simp only [step, hidle, htarget]

/-- The put of a call with a key. -/
theorem step_put_ok (hidle : s.phase i = .idle) (htarget : (W i).target = .ok key) :
    step W missing s (.put i how) = some (putStep W s i key how) := by
  simp only [step, hidle, htarget]

/-- The read of a call whose put was refused. -/
theorem step_get_ok (hreading : s.phase i = .reading) (htarget : (W i).target = .ok key) :
    step W missing s (.get i raises) =
      some (moved s i (.finished (readAnswer W missing s i key raises))) := by
  simp only [step, hreading, htarget]

end Enabled

/-- A put that is applied: the key was free, and the call has created, or its answer is lost. -/
structure Applies (W : ι → Write κ β ρ ε) (s s' : State ι κ β ρ ε) (l : Label ι ε) (key : κ) :
    Prop where
  /-- the call has the key -/
  target : (W l.call).target = .ok key
  /-- the key was free -/
  free : s.objects.get? key = none
  /-- the body is under it -/
  objects : s'.objects = s.objects.set key (W l.call).body
  /-- the call has created, or raised although the put was applied -/
  answer : s'.phase = Function.update s.phase l.call (.finished (.ok (W l.call).created)) ∨
    ¬l.Atomic ∧ ∃ e, s'.phase = Function.update s.phase l.call (.finished (.error e))

/-- Any other step: the store is as it was, and a call that returns has found its body. -/
structure Keeps (W : ι → Write κ β ρ ε) (s s' : State ι κ β ρ ε) (l : Label ι ε) : Prop where
  /-- the store is as it was -/
  objects : s'.objects = s.objects
  /-- where the call is now -/
  phase : ∃ p, s'.phase = Function.update s.phase l.call p ∧
    ∀ r, p = .finished (.ok r) → r ≠ (W l.call).created ∧ (W l.call).found (W l.call).body = .ok r ∧
      ∃ key, (W l.call).target = .ok key ∧ s.objects.get? key = some (W l.call).body

/-- **Inversion**: an enabled step is of a call that has not finished, and applies a put or keeps
the store. -/
theorem step_cases (h : step W missing s l = some s') :
    (∀ a, s.phase l.call ≠ .finished a) ∧ ((∃ key, Applies W s s' l key) ∨ Keeps W s s' l) := by
  -- a phase that is not a returned one
  have hkeeps : ∀ {i : ι} {p : Phase ρ ε}, l.call = i → (∀ r, p ≠ .finished (.ok r)) →
      s' = moved s i p → Keeps W s s' l := by
    rintro i p rfl hp rfl
    exact ⟨rfl, p, rfl, fun r hr => absurd hr (hp r)⟩
  cases l with
  | put i how =>
    simp only [step] at h
    split at h
    · next hidle =>
      refine ⟨fun a ha => (by cases hidle.symm.trans ha), ?_⟩
      split at h
      · next e _ => exact .inr (hkeeps rfl (fun r hr => by cases hr) (Option.some.inj h).symm)
      · next key hkey =>
        cases h
        cases how with
        | answered =>
          rcases hget : s.objects.get? key with _ | b
          · refine .inl ⟨key, hkey, hget, ?_, .inl ?_⟩
            · simp only [putStep, hget]
              rfl
            · simp only [putStep, hget]
              rfl
          · have hstate : putStep W s i key .answered = moved s i .reading := by
              simp only [putStep, hget]
            exact .inr (hkeeps rfl (fun r hr => by cases hr) hstate)
        | refused => exact .inr (hkeeps rfl (fun r hr => by cases hr) rfl)
        | raises applied e =>
          cases applied with
          | false => exact .inr (hkeeps rfl (fun r hr => by cases hr) rfl)
          | true =>
            rcases hget : s.objects.get? key with _ | b
            · refine .inl ⟨key, hkey, hget, ?_, .inr ⟨Bool.noConfusion, e, ?_⟩⟩
              · simp only [putStep, hget]
                rfl
              · simp only [putStep, hget]
                rfl
            · have hstate : putStep W s i key (.raises true e) =
                  moved s i (.finished (.error e)) := by
                simp only [putStep, hget]
              exact .inr (hkeeps rfl (fun r hr => by cases hr) hstate)
    · cases h
  | get i raises =>
    simp only [step] at h
    split at h
    · next key hreading hkey =>
      cases h
      refine ⟨fun a ha => (by cases hreading.symm.trans ha), .inr ⟨rfl, _, rfl, ?_⟩⟩
      intro r hr
      -- a returned read has found the body under the key
      have hanswer : readAnswer W missing s i key raises = .ok r := by
        injection hr
      unfold readAnswer at hanswer
      split at hanswer
      · cases hanswer
      · split at hanswer
        · cases hanswer
        · next b hb =>
          obtain ⟨rfl, hne⟩ := (W i).found_ok b r hanswer
          exact ⟨hne, hanswer, key, hkey, hb⟩
    · cases h

/-! ## What a run keeps -/

/-- **One step** loses nothing that is stored. -/
theorem step_grows (h : step W missing s l = some s') {key : κ} {b : β}
    (hb : s.objects.get? key = some b) : s'.objects.get? key = some b := by
  obtain ⟨-, ⟨key', happlies⟩ | hkeeps⟩ := step_cases h
  · rw [happlies.objects, Dict.get?_set, if_neg]
    · exact hb
    · rintro rfl
      cases happlies.free.symm.trans hb
  · rw [hkeeps.objects]
    exact hb

/-- **What is stored stays**, over any run. -/
theorem run_grows {ls : List (Label ι ε)} (hrun : Runs.run (step W missing) s ls = some s')
    {key : κ} {b : β} (hb : s.objects.get? key = some b) : s'.objects.get? key = some b :=
  Runs.run_inv (I := fun u => u.objects.get? key = some b) (fun _ _ _ h hstep => step_grows hstep h)
    hrun hb

/-- A call that has finished stays so. -/
theorem run_finished {ls : List (Label ι ε)} (hrun : Runs.run (step W missing) s ls = some s')
    {i : ι} {a : Except ε ρ} (ha : s.phase i = .finished a) : s'.phase i = .finished a := by
  refine Runs.run_inv (I := fun u => u.phase i = .finished a) ?_ hrun ha
  intro u l u' hu hstep
  obtain ⟨hopen, hcases⟩ := step_cases hstep
  have hne : i ≠ l.call := by
    rintro rfl
    exact hopen a hu
  obtain ⟨p, hphase⟩ : ∃ p, u'.phase = Function.update u.phase l.call p := by
    rcases hcases with ⟨key, happlies⟩ | hkeeps
    · rcases happlies.answer with h | ⟨-, e, h⟩
      · exact ⟨_, h⟩
      · exact ⟨_, h⟩
    · obtain ⟨p, h, -⟩ := hkeeps.phase
      exact ⟨p, h⟩
  rw [hphase, Function.update_of_ne hne]
  exact hu

/-- The invariant of a run: what returned is stored, and what was created was created once. -/
structure Sound (W : ι → Write κ β ρ ε) (s : State ι κ β ρ ε) : Prop where
  /-- the body of a call that returned is under its key -/
  stored : ∀ i r, s.phase i = .finished (.ok r) →
    ∃ key, (W i).target = .ok key ∧ s.objects.get? key = some (W i).body
  /-- its answer is that of a creation, or of finding its own body -/
  answer : ∀ i r, s.phase i = .finished (.ok r) →
    r = (W i).created ∨ (W i).found (W i).body = .ok r
  /-- two calls that created have different keys -/
  once : ∀ i j, s.phase i = .finished (.ok (W i).created) →
    s.phase j = .finished (.ok (W j).created) → (W i).target = (W j).target → i = j

omit [DecidableEq ι] in
/-- Before any step it holds. -/
theorem sound_start (objects : Dict κ β) : Sound W (start objects) where
  stored := by
    intro i r hr
    cases hr
  answer := by
    intro i r hr
    cases hr
  once := by
    intro i j hi
    cases hi

/-- **One step** keeps it. -/
theorem sound_step (hs : Sound W s) (h : step W missing s l = some s') : Sound W s' := by
  have hgrows : ∀ {i}, (∃ key, (W i).target = .ok key ∧ s.objects.get? key = some (W i).body) →
      ∃ key, (W i).target = .ok key ∧ s'.objects.get? key = some (W i).body := by
    rintro i ⟨key, hkey, hb⟩
    exact ⟨key, hkey, step_grows h hb⟩
  obtain ⟨-, ⟨key, happlies⟩ | hkeeps⟩ := step_cases h
  · rcases happlies.answer with hphase | ⟨-, e, hphase⟩
    · -- the call creates: its key was free, so no other call has created or found it
      have hbody : s'.objects.get? key = some (W l.call).body := by
        rw [happlies.objects, Dict.get?_set, if_pos rfl]
      have hother : ∀ j, j ≠ l.call → s.phase j = .finished (.ok (W j).created) →
          (W j).target ≠ .ok key := by
        intro j _ hj heq
        obtain ⟨key', hkey', hstored⟩ := hs.stored j _ hj
        cases heq.symm.trans hkey'
        cases happlies.free.symm.trans hstored
      refine ⟨?_, ?_, ?_⟩
      · intro i r hr
        by_cases hi : i = l.call
        · subst hi
          exact ⟨key, happlies.target, hbody⟩
        · rw [hphase, Function.update_of_ne hi] at hr
          exact hgrows (hs.stored i r hr)
      · intro i r hr
        by_cases hi : i = l.call
        · subst hi
          rw [hphase, Function.update_self] at hr
          cases hr
          exact .inl rfl
        · rw [hphase, Function.update_of_ne hi] at hr
          exact hs.answer i r hr
      · intro i j hi hj heq
        by_cases hil : i = l.call
        · by_cases hjl : j = l.call
          · rw [hil, hjl]
          · rw [hphase, Function.update_of_ne hjl] at hj
            exact absurd (heq ▸ hil ▸ happlies.target) (hother j hjl hj)
        · rw [hphase, Function.update_of_ne hil] at hi
          by_cases hjl : j = l.call
          · exact absurd (heq.trans (hjl ▸ happlies.target)) (hother i hil hi)
          · rw [hphase, Function.update_of_ne hjl] at hj
            exact hs.once i j hi hj heq
    · -- the answer is lost: no other call has returned with this step
      have hback : ∀ {i r}, s'.phase i = .finished (.ok r) → s.phase i = .finished (.ok r) := by
        intro i r hr
        by_cases hi : i = l.call
        · subst hi
          rw [hphase, Function.update_self] at hr
          cases hr
        · rwa [hphase, Function.update_of_ne hi] at hr
      exact ⟨fun i r hr => hgrows (hs.stored i r (hback hr)), fun i r hr => hs.answer i r (hback hr),
        fun i j hi hj heq => hs.once i j (hback hi) (hback hj) heq⟩
  · obtain ⟨p, hphase, hreturned⟩ := hkeeps.phase
    refine ⟨?_, ?_, ?_⟩
    · intro i r hr
      by_cases hi : i = l.call
      · subst hi
        rw [hphase, Function.update_self] at hr
        exact hgrows (hreturned r hr).2.2
      · rw [hphase, Function.update_of_ne hi] at hr
        exact hgrows (hs.stored i r hr)
    · intro i r hr
      by_cases hi : i = l.call
      · subst hi
        rw [hphase, Function.update_self] at hr
        exact .inr (hreturned r hr).2.1
      · rw [hphase, Function.update_of_ne hi] at hr
        exact hs.answer i r hr
    · have hback : ∀ {i}, s'.phase i = .finished (.ok (W i).created) →
          s.phase i = .finished (.ok (W i).created) := by
        intro i hi
        by_cases hil : i = l.call
        · subst hil
          rw [hphase, Function.update_self] at hi
          exact absurd rfl (hreturned _ hi).1
        · rwa [hphase, Function.update_of_ne hil] at hi
      exact fun i j hi hj heq => hs.once i j (hback hi) (hback hj) heq

section FromStart

variable {objects : Dict κ β} {ls : List (Label ι ε)}

/-- **Run**: it holds in every state of a run. -/
theorem sound_run (hrun : Runs.run (step W missing) (start objects) ls = some s) : Sound W s :=
  Runs.run_inv (fun _ _ _ => sound_step) hrun (sound_start objects)

/-- A call that returned has created its object or found it, and its body is stored under its
key. -/
theorem stored_of_returned (hrun : Runs.run (step W missing) (start objects) ls = some s) {i : ι}
    {r : ρ} (hr : s.phase i = .finished (.ok r)) :
    (r = (W i).created ∨ (W i).found (W i).body = .ok r) ∧
      ∃ key, (W i).target = .ok key ∧ s.objects.get? key = some (W i).body :=
  ⟨(sound_run hrun).answer i r hr, (sound_run hrun).stored i r hr⟩

/-- Of the calls with one key at most one creates. -/
theorem created_unique (hrun : Runs.run (step W missing) (start objects) ls = some s) {i j : ι}
    (hi : s.phase i = .finished (.ok (W i).created))
    (hj : s.phase j = .finished (.ok (W j).created)) (heq : (W i).target = (W j).target) : i = j :=
  (sound_run hrun).once i j hi hj heq

end FromStart

/-- **Only a creation changes the store**: when the puts of a run are atomic, the steps of a call
that has not created leave the store as it is. -/
theorem unchanged_of_not_created {r t u : State ι κ β ρ ε} {before after : List (Label ι ε)}
    (hrun : Runs.run (step W missing) r (before ++ l :: after) = some t) (hatomic : l.Atomic)
    (hnot : t.phase l.call ≠ .finished (.ok (W l.call).created))
    (hbefore : Runs.run (step W missing) r before = some u) :
    ∃ u', step W missing u l = some u' ∧ u'.objects = u.objects := by
  rw [Runs.run_append, hbefore, Option.bind_some] at hrun
  obtain ⟨u', hu', hafter⟩ := Runs.run_cons_eq_some.mp hrun
  refine ⟨u', hu', ?_⟩
  obtain ⟨-, ⟨key, happlies⟩ | hkeeps⟩ := step_cases hu'
  · rcases happlies.answer with hphase | ⟨hlost, -⟩
    · refine absurd (run_finished hafter ?_) hnot
      rw [hphase, Function.update_self]
    · exact absurd hatomic hlost
  · exact hkeeps.objects

end WriteOnce
