import AiopsTriage.Lib.Fallible
import AiopsTriage.Lib.Runs
import Mathlib.Logic.Function.Basic

/-!
# Racing inserts under a unique key

Several calls want one row to be there. Each opens a transaction, looks for the row
and, when it finds none, inserts its own. The key is unique, so an `INSERT` waits
while another transaction holds an uncommitted row under the key, and fails once such
a row is committed. A call that loses **recovers**: it looks for the row again in the
transaction that has just failed. The database refuses every statement of a failed
transaction until it is rolled back, so the recovery raises.

A run is an interleaving of the statements of any number of calls, each statement
atomic and each seeing what is committed when it runs. Every call of the run returns
the stored row exactly when no `INSERT` meets a committed row, every row that was found
is accepted and every new one fits (`all_return_of_along`, `along_of_all_return`).
-/

universe u v x y

namespace InsertRace

/-- A call that makes sure that a row is there: `α` is its argument, `ρ` the stored row,
`β` the record made of a row and `ε` what it raises. -/
structure Insertion (α : Type u) (ρ : Type v) (β : Type) (ε : Type x) where
  /-- the row it would insert, computed before the transaction opens -/
  prepare : α → Except ε ρ
  /-- the record of a stored row -/
  view : ρ → Except ε β
  /-- the check on a record that was already there -/
  agree : β → Except ε Unit
  /-- the checks of the columns on a new row -/
  fits : ρ → Except ε Unit
  /-- what the repository makes of an exception inside the transaction -/
  wrap : ε → ε
  /-- what the database raises for a statement of a failed transaction -/
  refused : ε

/-- Where a call is. -/
inductive Phase (ρ : Type v) (β : Type) (ε : Type x) where
  /-- not called yet -/
  | idle
  /-- its transaction is open, nothing is read -/
  | begun (row : ρ)
  /-- its `SELECT` found no row -/
  | missed (row : ρ)
  /-- its row is inserted and not committed -/
  | inserted (record : β)
  /-- its `INSERT` violated the key, its transaction has failed -/
  | aborted
  /-- it has returned or raised -/
  | finished (answer : Except ε β)

/-- One statement of one call. -/
inductive Label (ι : Type y) (α : Type u) where
  /-- call `i` is made and opens its transaction -/
  | start (i : ι) (a : α)
  /-- the `SELECT` of call `i` -/
  | select (i : ι)
  /-- the `INSERT` of call `i` -/
  | insert (i : ι)
  /-- the `COMMIT` of call `i` -/
  | commit (i : ι)
  /-- the second `SELECT` of call `i`, after its `INSERT` failed -/
  | recover (i : ι)
  deriving DecidableEq, Repr

/-- What is under the key, and where the calls are. -/
structure State (ι : Type y) (ρ : Type v) (β : Type) (ε : Type x) where
  /-- the committed row -/
  stored : Option ρ
  /-- the row of a transaction that has not committed -/
  uncommitted : Option ρ
  /-- where each call is -/
  phase : ι → Phase ρ β ε

namespace Insertion

variable {α : Type u} {ρ : Type v} {β : Type} {ε : Type x} {ι : Type y} [DecidableEq ι]
variable (C : Insertion α ρ β ε)

/-- The answer from a row that was found. -/
def accept (row : ρ) : Except ε β := do
  let record ← C.view row
  C.agree record
  return record

/-- The answer of an `INSERT` under a free key. -/
def place (row : ρ) : Except ε β := do
  C.fits row
  C.view row

/-- The state with call `i` moved to a phase. -/
def moved (s : State ι ρ β ε) (i : ι) (p : Phase ρ β ε) : State ι ρ β ε :=
  { s with phase := Function.update s.phase i p }

/-- One statement. -/
def step (s : State ι ρ β ε) : Label ι α → Option (State ι ρ β ε)
  | .start i a =>
    match s.phase i with
    | .idle =>
      match C.prepare a with
      | .ok row => some (moved s i (.begun row))
      | .error e => some (moved s i (.finished (.error e)))
    | _ => none
  | .select i =>
    match s.phase i with
    | .begun row =>
      match s.stored with
      | none => some (moved s i (.missed row))
      | some found => some (moved s i (.finished ((C.accept found).mapError C.wrap)))
    | _ => none
  | .insert i =>
    match s.phase i, s.uncommitted with
    | .missed row, none =>
      match s.stored with
      | some _ => some (moved s i .aborted)
      | none =>
        match C.place row with
        | .ok record => some { moved s i (.inserted record) with uncommitted := some row }
        | .error e => some (moved s i (.finished (.error (C.wrap e))))
    | _, _ => none
  | .commit i =>
    match s.phase i with
    | .inserted record =>
      some { moved s i (.finished (.ok record)) with
        stored := s.uncommitted
        uncommitted := none }
    | _ => none
  | .recover i =>
    match s.phase i with
    | .aborted => some (moved s i (.finished (.error (C.wrap C.refused))))
    | _ => none

/-- Nobody has called. -/
def start (stored : Option ρ) : State ι ρ β ε := ⟨stored, none, fun _ => .idle⟩

/-- Every call that has finished returned the record of the one stored row. -/
def AllReturn (s : State ι ρ β ε) : Prop :=
  ∀ i answer, s.phase i = .finished answer →
    ∃ row record, s.stored = some row ∧ C.view row = .ok record ∧ answer = .ok record

/-- No call is under way. -/
def Complete (s : State ι ρ β ε) : Prop :=
  ∀ i, s.phase i = .idle ∨ ∃ answer, s.phase i = .finished answer

/-- The statement does not meet what a call cannot recover from: the call can build its
row, the row a `SELECT` finds is accepted, and an `INSERT` finds no committed row and
its own row fits. -/
def Undisturbed (s : State ι ρ β ε) : Label ι α → Prop
  | .start _ a => (C.prepare a).Returns
  | .select _ => ∀ row, s.stored = some row → (C.accept row).Returns
  | .insert i => s.stored = none ∧ ∀ row, s.phase i = .missed row → (C.place row).Returns
  | .commit _ => True
  | .recover _ => True

/-- Whether a statement meets it can be read off the committed row and the phase. -/
instance (s : State ι ρ β ε) : (l : Label ι α) → Decidable (C.Undisturbed s l)
  | .start _ a => inferInstanceAs (Decidable (C.prepare a).Returns)
  | .select _ => inferInstanceAs (Decidable (∀ row ∈ s.stored, (C.accept row).Returns))
  | .insert i =>
    match hstored : s.stored, hphase : s.phase i with
    | some _, _ => .isFalse fun h => by cases hstored.symm.trans h.1
    | none, .missed row =>
      decidable_of_iff (C.place row).Returns
        ⟨fun h => ⟨hstored, fun _ hmissed => by cases hphase.symm.trans hmissed; exact h⟩,
          fun h => h.2 row hphase⟩
    | none, .idle | none, .begun _ | none, .inserted _ | none, .aborted | none, .finished _ =>
      .isTrue ⟨hstored, fun _ hmissed => by cases hphase.symm.trans hmissed⟩
  | .commit _ => .isTrue trivial
  | .recover _ => .isTrue trivial

/-! ## What one statement does -/

variable {C}

theorem view_of_accept {row : ρ} {record : β} (h : C.accept row = .ok record) :
    C.view row = .ok record := by
  obtain ⟨record', hview, h⟩ := Except.bind_eq_ok.mp h
  obtain ⟨_, -, h⟩ := Except.bind_eq_ok.mp h
  rw [Except.pure_eq_ok] at h
  exact h ▸ hview

theorem view_of_place {row : ρ} {record : β} (h : C.place row = .ok record) :
    C.view row = .ok record := by
  obtain ⟨_, -, h⟩ := Except.bind_eq_ok.mp h
  exact h

theorem phase_moved {s : State ι ρ β ε} {i j : ι} {p : Phase ρ β ε} :
    (moved s i p).phase j = if j = i then p else s.phase j := by
  exact Function.update_apply s.phase i p j

/-- A call that is made opens its transaction, or raises before that. -/
theorem step_start {s s' : State ι ρ β ε} {i : ι} {a : α} (h : C.step s (.start i a) = some s') :
    s.phase i = .idle ∧
      ((∃ row, C.prepare a = .ok row ∧ s' = moved s i (.begun row)) ∨
        ∃ e, C.prepare a = .error e ∧ s' = moved s i (.finished (.error e))) := by
  simp only [step] at h
  split at h
  · next hidle =>
    refine ⟨hidle, ?_⟩
    split at h
    · next row hrow => exact .inl ⟨row, hrow, (Option.some.inj h).symm⟩
    · next e he => exact .inr ⟨e, he, (Option.some.inj h).symm⟩
  · cases h

/-- A `SELECT` misses, or answers from the committed row. -/
theorem step_select {s s' : State ι ρ β ε} {i : ι} (h : C.step s (.select i) = some s') :
    ∃ row, s.phase i = .begun row ∧
      ((s.stored = none ∧ s' = moved s i (.missed row)) ∨
        ∃ found, s.stored = some found ∧
          s' = moved s i (.finished ((C.accept found).mapError C.wrap))) := by
  simp only [step] at h
  split at h
  · next row hbegun =>
    refine ⟨row, hbegun, ?_⟩
    split at h
    · next hnone => exact .inl ⟨hnone, (Option.some.inj h).symm⟩
    · next found hfound => exact .inr ⟨found, hfound, (Option.some.inj h).symm⟩
  · cases h

/-- An `INSERT` that does not have to wait violates the key, holds its row, or fails on
the columns. -/
theorem step_insert {s s' : State ι ρ β ε} {i : ι} (h : C.step s (.insert i) = some s') :
    ∃ row, s.phase i = .missed row ∧ s.uncommitted = none ∧
      ((∃ found, s.stored = some found ∧ s' = moved s i .aborted) ∨
        (s.stored = none ∧ ∃ record, C.place row = .ok record ∧
          s' = { moved s i (.inserted record) with uncommitted := some row }) ∨
        (s.stored = none ∧ ∃ e, C.place row = .error e ∧
          s' = moved s i (.finished (.error (C.wrap e))))) := by
  simp only [step] at h
  split at h
  · next row hmissed hfree =>
    refine ⟨row, hmissed, hfree, ?_⟩
    split at h
    · next found hfound => exact .inl ⟨found, hfound, (Option.some.inj h).symm⟩
    · next hnone =>
      split at h
      · next record hplace =>
        exact .inr (.inl ⟨hnone, record, hplace, (Option.some.inj h).symm⟩)
      · next e hplace => exact .inr (.inr ⟨hnone, e, hplace, (Option.some.inj h).symm⟩)
  · cases h

/-- A `COMMIT` makes the inserted row the stored one. -/
theorem step_commit {s s' : State ι ρ β ε} {i : ι} (h : C.step s (.commit i) = some s') :
    ∃ record, s.phase i = .inserted record ∧
      s' = { moved s i (.finished (.ok record)) with
        stored := s.uncommitted
        uncommitted := none } := by
  simp only [step] at h
  split at h
  · next record hinserted => exact ⟨record, hinserted, (Option.some.inj h).symm⟩
  · cases h

/-- A recovery raises. -/
theorem step_recover {s s' : State ι ρ β ε} {i : ι} (h : C.step s (.recover i) = some s') :
    s.phase i = .aborted ∧ s' = moved s i (.finished (.error (C.wrap C.refused))) := by
  simp only [step] at h
  split at h
  · next haborted => exact ⟨haborted, (Option.some.inj h).symm⟩
  · cases h

/-! ## Undisturbed runs -/

/-- What an undisturbed run keeps: no call has failed, a finished call returned the
stored row, and at most one call holds an uncommitted one, over a free key. -/
structure Sound (C : Insertion α ρ β ε) (s : State ι ρ β ε) : Prop where
  /-- no transaction has failed -/
  alive : ∀ i, s.phase i ≠ .aborted
  /-- finished calls returned the stored row -/
  answered : C.AllReturn s
  /-- an inserted record is that of the uncommitted row -/
  held : ∀ i record, s.phase i = .inserted record →
    ∃ row, s.uncommitted = some row ∧ C.view row = .ok record
  /-- two calls do not both hold one -/
  single : ∀ i j r r', s.phase i = .inserted r → s.phase j = .inserted r' → i = j
  /-- an uncommitted row is over a free key -/
  free : ∀ row, s.uncommitted = some row → s.stored = none

omit [DecidableEq ι] in
theorem sound_start (stored : Option ρ) : C.Sound (start (ι := ι) stored) := by
  constructor <;> simp [start, AllReturn]

/-- Moving a call that holds no row keeps the invariant, when where it goes is neither a
failure nor a held row, and an answer is the stored row. -/
theorem Sound.moved {s : State ι ρ β ε} {i : ι} {p : Phase ρ β ε} (hs : C.Sound s)
    (halive : p ≠ .aborted) (hheld : ∀ record, p ≠ .inserted record)
    (hanswer : ∀ answer, p = .finished answer →
      ∃ row record, s.stored = some row ∧ C.view row = .ok record ∧ answer = .ok record) :
    C.Sound (moved s i p) := by
  refine ⟨fun j => ?_, fun j answer hj => ?_, fun j record hj => ?_, fun j k r r' hj hk => ?_,
    hs.free⟩
  · rw [phase_moved]
    split
    · exact halive
    · exact hs.alive j
  · rw [phase_moved] at hj
    split at hj
    · exact hanswer answer hj
    · exact hs.answered j answer hj
  · rw [phase_moved] at hj
    split at hj
    · exact absurd hj (hheld record)
    · exact hs.held j record hj
  · rw [phase_moved] at hj hk
    split at hj
    · exact absurd hj (hheld r)
    · split at hk
      · exact absurd hk (hheld r')
      · exact hs.single j k r r' hj hk

/-- **Step lemma**: an undisturbed statement keeps the invariant. -/
theorem Sound.step {s s' : State ι ρ β ε} {l : Label ι α} (hs : C.Sound s)
    (hl : C.Undisturbed s l) (h : C.step s l = some s') : C.Sound s' := by
  cases l with
  | start i a =>
    obtain ⟨-, ⟨row, -, rfl⟩ | ⟨e, he, rfl⟩⟩ := step_start h
    · exact hs.moved (by simp) (by simp) (by simp)
    · obtain ⟨row, hrow⟩ := hl
      rw [he] at hrow
      cases hrow
  | select i =>
    obtain ⟨row, -, ⟨-, rfl⟩ | ⟨found, hfound, rfl⟩⟩ := step_select h
    · exact hs.moved (by simp) (by simp) (by simp)
    · obtain ⟨record, hrecord⟩ := hl found hfound
      rw [hrecord]
      refine hs.moved (by simp) (by simp) fun answer hanswer => ?_
      cases hanswer
      exact ⟨found, record, hfound, view_of_accept hrecord, rfl⟩
  | insert i =>
    obtain ⟨row, hmissed, hfree, hcase⟩ := step_insert h
    obtain ⟨hnone, hplace⟩ := hl
    rcases hcase with ⟨found, hfound, -⟩ | ⟨-, record, hrecord, rfl⟩ | ⟨-, e, he, -⟩
    · rw [hnone] at hfound
      cases hfound
    · -- nobody else holds a row, for none is uncommitted
      have hnobody : ∀ j r, s.phase j ≠ .inserted r := by
        intro j r hj
        obtain ⟨row', hrow', -⟩ := hs.held j r hj
        rw [hfree] at hrow'
        cases hrow'
      refine ⟨fun j => ?_, fun j answer hj => ?_, fun j r hj => ?_, fun j k r r' hj hk => ?_,
        fun _ _ => hnone⟩
      · rw [phase_moved]
        split
        · simp
        · exact hs.alive j
      · rw [phase_moved] at hj
        split at hj
        · cases hj
        · exact hs.answered j answer hj
      · rw [phase_moved] at hj
        split at hj
        · cases hj
          exact ⟨row, rfl, view_of_place hrecord⟩
        · exact absurd hj (hnobody j r)
      · rw [phase_moved] at hj hk
        split at hj
        · next hji =>
          split at hk
          · next hki => rw [hji, hki]
          · exact absurd hk (hnobody k r')
        · exact absurd hj (hnobody j r)
    · obtain ⟨record, hrecord⟩ := hplace row hmissed
      rw [he] at hrecord
      cases hrecord
  | commit i =>
    obtain ⟨record, hinserted, rfl⟩ := step_commit h
    obtain ⟨row, hrow, hview⟩ := hs.held i record hinserted
    have hnone := hs.free row hrow
    have hothers : ∀ j r, j ≠ i → s.phase j ≠ .inserted r :=
      fun j r hji hj => hji (hs.single j i r record hj hinserted)
    refine ⟨fun j => ?_, fun j answer hj => ?_, fun j r hj => ?_, fun j k r r' hj hk => ?_,
      fun _ hsome => by cases hsome⟩
    · rw [phase_moved]
      split
      · simp
      · exact hs.alive j
    · rw [phase_moved] at hj
      split at hj
      · cases hj
        exact ⟨row, record, hrow, hview, rfl⟩
      · -- a call that had finished would have found a stored row
        obtain ⟨row', -, hstored, -⟩ := hs.answered j answer hj
        rw [hnone] at hstored
        cases hstored
    · rw [phase_moved] at hj
      split at hj
      · cases hj
      · next hji => exact absurd hj (hothers j r hji)
    · rw [phase_moved] at hj
      split at hj
      · cases hj
      · next hji => exact absurd hj (hothers j r hji)
  | recover i => exact absurd (step_recover h).1 (hs.alive i)

/-- **Undisturbed runs**: every call that has finished returned the stored row. -/
theorem all_return_of_along {stored : Option ρ} {s : State ι ρ β ε} {ls : List (Label ι α)}
    (hrun : Runs.run C.step (start stored) ls = some s)
    (hP : Runs.Along C.step C.Undisturbed (start stored) ls) : C.AllReturn s :=
  (Runs.run_inv_along (fun _ _ _ hs hl h => Sound.step hs hl h) hP hrun
    (sound_start stored)).answered

/-! ## Disturbed runs -/

/-- A call has raised, or is bound to. -/
def Spoiled (s : State ι ρ β ε) : Prop :=
  ∃ i, s.phase i = .aborted ∨ ∃ e, s.phase i = .finished (.error e)

/-- A failed call stays failed while others move. -/
theorem spoiled_moved {s : State ι ρ β ε} {j : ι} {p : Phase ρ β ε} (hs : Spoiled s)
    (hj : s.phase j ≠ .aborted ∧ ∀ e, s.phase j ≠ .finished (.error e)) :
    Spoiled (moved s j p) := by
  obtain ⟨i, hi⟩ := hs
  refine ⟨i, ?_⟩
  rw [phase_moved, if_neg]
  · exact hi
  · rintro rfl
    rcases hi with h | ⟨e, h⟩
    · exact hj.1 h
    · exact hj.2 e h

/-- A state with a failed call is not left. -/
theorem Spoiled.step {s s' : State ι ρ β ε} {l : Label ι α} (hs : Spoiled s)
    (h : C.step s l = some s') : Spoiled s' := by
  cases l with
  | start i a =>
    obtain ⟨hidle, ⟨row, -, rfl⟩ | ⟨e, -, rfl⟩⟩ := step_start h
    · exact spoiled_moved hs (by simp [hidle])
    · exact spoiled_moved hs (by simp [hidle])
  | select i =>
    obtain ⟨row, hbegun, ⟨-, rfl⟩ | ⟨found, -, rfl⟩⟩ := step_select h
    · exact spoiled_moved hs (by simp [hbegun])
    · exact spoiled_moved hs (by simp [hbegun])
  | insert i =>
    obtain ⟨row, hmissed, -, hcase⟩ := step_insert h
    have hmoved : ∀ p, Spoiled (moved s i p) := fun p => spoiled_moved hs (by simp [hmissed])
    rcases hcase with ⟨found, -, rfl⟩ | ⟨-, record, -, rfl⟩ | ⟨-, e, -, rfl⟩
    · exact hmoved _
    · exact hmoved (.inserted record)
    · exact hmoved _
  | commit i =>
    obtain ⟨record, hinserted, rfl⟩ := step_commit h
    exact spoiled_moved (p := .finished (.ok record)) hs (by simp [hinserted])
  | recover i =>
    obtain ⟨haborted, rfl⟩ := step_recover h
    exact ⟨i, .inr ⟨C.wrap C.refused, by rw [phase_moved, if_pos rfl]⟩⟩

/-- A statement that is disturbed leaves a failed call. -/
theorem spoiled_of_disturbed {s s' : State ι ρ β ε} {l : Label ι α}
    (hl : ¬ C.Undisturbed s l) (h : C.step s l = some s') : Spoiled s' := by
  cases l with
  | start i a =>
    obtain ⟨-, ⟨row, hrow, -⟩ | ⟨e, -, rfl⟩⟩ := step_start h
    · exact absurd ⟨row, hrow⟩ hl
    · exact ⟨i, .inr ⟨e, by rw [phase_moved, if_pos rfl]⟩⟩
  | select i =>
    obtain ⟨row, -, ⟨hnone, -⟩ | ⟨found, hfound, rfl⟩⟩ := step_select h
    · refine absurd ?_ hl
      intro row hrow
      rw [hnone] at hrow
      cases hrow
    · rcases haccept : C.accept found with e | record
      · refine ⟨i, .inr ⟨C.wrap e, ?_⟩⟩
        rw [phase_moved, if_pos rfl]
        rfl
      · refine absurd ?_ hl
        intro row hrow
        obtain rfl := Option.some.inj (hfound.symm.trans hrow)
        exact ⟨record, haccept⟩
  | insert i =>
    obtain ⟨row, hmissed, -, hcase⟩ := step_insert h
    rcases hcase with ⟨found, -, rfl⟩ | ⟨hnone, record, hrecord, -⟩ | ⟨-, e, -, rfl⟩
    · exact ⟨i, .inl (by rw [phase_moved, if_pos rfl])⟩
    · refine absurd ⟨hnone, fun row' hrow' => ?_⟩ hl
      cases hmissed.symm.trans hrow'
      exact ⟨record, hrecord⟩
    · exact ⟨i, .inr ⟨C.wrap e, by rw [phase_moved, if_pos rfl]⟩⟩
  | commit i => exact absurd trivial hl
  | recover i => exact absurd trivial hl

/-- **Disturbed runs**: once no call is under way, some call has raised. -/
theorem along_of_all_return {stored : Option ρ} {s : State ι ρ β ε} {ls : List (Label ι α)}
    (hrun : Runs.run C.step (start stored) ls = some s) (hcomplete : Complete s)
    (hreturn : C.AllReturn s) : Runs.Along C.step C.Undisturbed (start stored) ls := by
  have hfine : ¬ Spoiled s := by
    rintro ⟨i, haborted | ⟨e, herror⟩⟩
    · rcases hcomplete i with hidle | ⟨answer, hfinished⟩
      · rw [haborted] at hidle
        cases hidle
      · rw [haborted] at hfinished
        cases hfinished
    · obtain ⟨row, record, -, -, hok⟩ := hreturn i _ herror
      cases hok
  generalize start stored = s₀ at hrun
  induction ls generalizing s₀ with
  | nil => exact Runs.along_nil
  | cons l ls ih =>
    obtain ⟨t, ht, hrest⟩ := Runs.run_cons_eq_some.mp hrun
    refine Runs.along_cons ?_ ht (ih t hrest)
    by_contra hl
    exact hfine (Runs.run_inv (fun _ _ _ hs h => Spoiled.step hs h) hrest
      (spoiled_of_disturbed hl ht))

/-! ## Progress -/

/-- A row that is not committed is held by a call that can commit it. -/
def Owned (s : State ι ρ β ε) : Prop :=
  ∀ row, s.uncommitted = some row → ∃ i record, s.phase i = .inserted record

/-- Moving a call that holds no row keeps the holder. -/
theorem Owned.moved {s : State ι ρ β ε} {i : ι} {p : Phase ρ β ε} (hs : Owned s)
    (hi : ∀ record, s.phase i ≠ .inserted record) : Owned (moved s i p) := by
  intro row hrow
  obtain ⟨j, record, hj⟩ := hs row hrow
  refine ⟨j, record, ?_⟩
  rw [phase_moved, if_neg]
  · exact hj
  · rintro rfl
    exact hi record hj

theorem Owned.step {s s' : State ι ρ β ε} {l : Label ι α} (hs : Owned s)
    (h : C.step s l = some s') : Owned s' := by
  cases l with
  | start i a =>
    obtain ⟨hidle, ⟨row, -, rfl⟩ | ⟨e, -, rfl⟩⟩ := step_start h
    · exact hs.moved (by simp [hidle])
    · exact hs.moved (by simp [hidle])
  | select i =>
    obtain ⟨row, hbegun, ⟨-, rfl⟩ | ⟨found, -, rfl⟩⟩ := step_select h
    · exact hs.moved (by simp [hbegun])
    · exact hs.moved (by simp [hbegun])
  | insert i =>
    obtain ⟨row, hmissed, -, ⟨found, -, rfl⟩ | ⟨-, record, -, rfl⟩ | ⟨-, e, -, rfl⟩⟩ :=
      step_insert h
    · exact hs.moved (by simp [hmissed])
    · exact fun _ _ => ⟨i, record, by rw [phase_moved, if_pos rfl]⟩
    · exact hs.moved (by simp [hmissed])
  | commit i =>
    obtain ⟨record, -, rfl⟩ := step_commit h
    intro row hrow
    cases hrow
  | recover i =>
    obtain ⟨haborted, rfl⟩ := step_recover h
    exact hs.moved (by simp [haborted])

/-- **Progress**: while a call is under way some statement of such a call can run, so no
call waits for ever. -/
theorem progress {stored : Option ρ} {s : State ι ρ β ε} {ls : List (Label ι α)}
    (hrun : Runs.run C.step (start stored) ls = some s) (h : ¬ Complete s) :
    ∃ l, (∀ i a, l ≠ .start i a) ∧ (C.step s l).isSome := by
  have hstart : Owned (start (β := β) (ε := ε) (ι := ι) stored) := by
    intro row hrow
    cases hrow
  have howned : Owned s := Runs.run_inv (fun _ _ _ hs h => Owned.step hs h) hrun hstart
  cases huncommitted : s.uncommitted with
  | some row =>
    obtain ⟨j, record, hj⟩ := howned row huncommitted
    exact ⟨.commit j, by simp, by simp [step, hj]⟩
  | none =>
    obtain ⟨i, hi⟩ := not_forall.mp h
    rw [not_or] at hi
    cases hphase : s.phase i with
    | idle => exact absurd hphase hi.1
    | begun row =>
      refine ⟨.select i, by simp, ?_⟩
      cases hstored : s.stored <;> simp [step, hphase, hstored]
    | missed row =>
      refine ⟨.insert i, by simp, ?_⟩
      cases hstored : s.stored with
      | none => cases hplace : C.place row <;> simp [step, hphase, huncommitted, hstored, hplace]
      | some found => simp [step, hphase, huncommitted, hstored]
    | inserted record => exact ⟨.commit i, by simp, by simp [step, hphase]⟩
    | aborted => exact ⟨.recover i, by simp, by simp [step, hphase]⟩
    | finished answer => exact absurd ⟨answer, hphase⟩ hi.2

/-! ## One call alone -/

/-- The call with no other statement in between: its answer, and the row after it. -/
def alone (C : Insertion α ρ β ε) (a : α) (stored : Option ρ) : Except ε β × Option ρ :=
  match C.prepare a with
  | .error e => (.error e, stored)
  | .ok row =>
    match stored with
    | some found => ((C.accept found).mapError C.wrap, some found)
    | none =>
      match C.place row with
      | .ok record => (.ok record, some row)
      | .error e => (.error (C.wrap e), none)

/-- The statements of one call, one after the other, are the call. -/
theorem run_alone (i : ι) (a : α) (stored : Option ρ) :
    ∃ ls s, Runs.run C.step (start stored) ls = some s ∧
      s.phase i = .finished (C.alone a stored).1 ∧ s.stored = (C.alone a stored).2 := by
  unfold alone
  rcases hprepare : C.prepare a with e | row
  · refine ⟨[.start i a], _, by simp [step, start, hprepare]; rfl, ?_, rfl⟩
    rw [phase_moved, if_pos rfl]
  · rcases stored with _ | found
    · rcases hplace : C.place row with e | record
      · refine ⟨[.start i a, .select i, .insert i], _,
          by simp [step, start, hprepare, moved, hplace]; rfl, ?_, ?_⟩
        · simp [hplace]
        · simp [hplace]
      · refine ⟨[.start i a, .select i, .insert i, .commit i], _,
          by simp [step, start, hprepare, moved, hplace]; rfl, ?_, ?_⟩
        · simp [hplace]
        · simp [hplace]
    · refine ⟨[.start i a, .select i], _, by simp [step, start, hprepare, moved]; rfl, ?_, rfl⟩
      simp

end Insertion

end InsertRace
