import AiopsTriage.Lib.Runs
import Mathlib.Order.Nat
import Mathlib.Tactic.Common

/-!
# Latches

A machine **latches** a property of its labels when its state tells, after each label, whether
the label had it. What it answers may then depend on the label and on the one before. The labels
with the property form **maximal runs** (`MaximalRun`), and a label starts one exactly when it has
the property and the one before has not (`starts_iff`), and comes after one exactly when it has
not and the one before has (`follows_iff`). So a machine that answers to the change of its latch
answers once to each maximal run, and once after it (`trace_latch`).
-/

universe u v w

namespace Latch

variable {ℓ : Type v} {p : ℓ → Prop} {ls : List ℓ}

/-- A run of labels with a property, from `start` up to before `stop`, that no longer one
contains. -/
structure MaximalRun (p : ℓ → Prop) (ls : List ℓ) (start stop : ℕ) : Prop where
  /-- it has a label -/
  lt : start < stop
  /-- it ends with the labels -/
  le : stop ≤ ls.length
  /-- every label of it has the property -/
  holds : ∀ i l, start ≤ i → i < stop → ls[i]? = some l → p l
  /-- the label before has not -/
  before : ∀ l, 0 < start → ls[start - 1]? = some l → ¬ p l
  /-- nor has the label after -/
  after : ∀ l, ls[stop]? = some l → ¬ p l

/-- Whether the label before a position has the property. -/
def Before (p : ℓ → Prop) (ls : List ℓ) (i : ℕ) : Prop :=
  0 < i ∧ ∃ l, ls[i - 1]? = some l ∧ p l

/-- The labels from a position on begin with labels that have the property, and then comes one
that has not. -/
theorem exists_stop (p : ℓ → Prop) (ls : List ℓ) {start : ℕ} (h : start ≤ ls.length) :
    ∃ stop, start ≤ stop ∧ stop ≤ ls.length ∧
      (∀ i l, start ≤ i → i < stop → ls[i]? = some l → p l) ∧ ∀ l, ls[stop]? = some l → ¬ p l := by
  -- by induction on how many labels there are from there
  obtain ⟨n, hn⟩ : ∃ n, ls.length = start + n := ⟨_, (Nat.add_sub_of_le h).symm⟩
  induction n generalizing start with
  | zero =>
    refine ⟨start, le_rfl, h, fun i l hi hlt => by omega, fun l hl => ?_⟩
    rw [List.getElem?_eq_none (by omega)] at hl
    cases hl
  | succ n ih =>
    have hlt : start < ls.length := by omega
    by_cases hp : p ls[start]
    · obtain ⟨stop, hle, hstop, hholds, hafter⟩ := @ih (start + 1) (by omega) (by omega)
      refine ⟨stop, by omega, hstop, fun i l hi hlt' hl => ?_, hafter⟩
      rcases hi.eq_or_lt with rfl | hi
      · rw [List.getElem?_eq_getElem hlt, Option.some.injEq] at hl
        exact hl ▸ hp
      · exact hholds i l hi hlt' hl
    · refine ⟨start, le_rfl, h, fun i l hi hlt => by omega, fun l hl => ?_⟩
      rw [List.getElem?_eq_getElem hlt, Option.some.injEq] at hl
      exact hl ▸ hp

/-- The labels before a position end with labels that have the property, and before them comes
one that has not. -/
theorem exists_start (p : ℓ → Prop) (ls : List ℓ) (stop : ℕ) :
    ∃ start, start ≤ stop ∧ (∀ i l, start ≤ i → i < stop → ls[i]? = some l → p l) ∧
      ∀ l, 0 < start → ls[start - 1]? = some l → ¬ p l := by
  induction stop with
  | zero => exact ⟨0, le_rfl, fun i l _ hi => by omega, fun l h => by omega⟩
  | succ stop ih =>
    by_cases hp : ∃ l, ls[stop]? = some l ∧ ¬ p l
    · obtain ⟨l, hl, hp⟩ := hp
      refine ⟨stop + 1, le_rfl, fun i l hi hlt => by omega, fun l' _ hl' => ?_⟩
      rw [Nat.add_sub_cancel, hl, Option.some.injEq] at hl'
      exact hl' ▸ hp
    · obtain ⟨start, hle, hholds, hbefore⟩ := ih
      refine ⟨start, by omega, fun i l hi hlt hl => ?_, hbefore⟩
      rcases (Nat.lt_succ_iff.mp hlt).eq_or_lt with rfl | hlt
      · by_contra hnot
        exact hp ⟨l, hl, hnot⟩
      · exact hholds i l hi hlt hl

/-- A maximal run starts at the labels that have the property after one that has not. -/
theorem starts_iff {i : ℕ} {l : ℓ} (hl : ls[i]? = some l) :
    (∃ stop, MaximalRun p ls i stop) ↔ p l ∧ ¬ Before p ls i := by
  constructor
  · rintro ⟨stop, hrun⟩
    refine ⟨hrun.holds i l le_rfl hrun.lt hl, ?_⟩
    rintro ⟨hpos, before, hbefore, hp⟩
    exact hrun.before before hpos hbefore hp
  · rintro ⟨hp, hbefore⟩
    have hlt := (List.getElem?_eq_some_iff.mp hl).1
    obtain ⟨stop, hle, hstop, hholds, hafter⟩ := exists_stop p ls hlt.le
    refine ⟨stop, lt_of_le_of_ne hle ?_, hstop, hholds, ?_, hafter⟩
    · rintro rfl
      exact hafter l hl hp
    · exact fun before hpos hb hpb => hbefore ⟨hpos, before, hb, hpb⟩

/-- A maximal run ends before the labels that have not the property after one that has. -/
theorem follows_iff {i : ℕ} {l : ℓ} (hl : ls[i]? = some l) :
    (∃ start, MaximalRun p ls start i) ↔ ¬ p l ∧ Before p ls i := by
  have hlt := (List.getElem?_eq_some_iff.mp hl).1
  constructor
  · rintro ⟨start, hrun⟩
    have hpos : 0 < i := lt_of_le_of_lt (Nat.zero_le _) hrun.lt
    have hprev : ls[i - 1]? = some ls[i - 1] := List.getElem?_eq_getElem (by omega)
    refine ⟨hrun.after l hl, hpos, _, hprev, ?_⟩
    exact hrun.holds (i - 1) _ (Nat.le_sub_one_of_lt hrun.lt) (by omega) hprev
  · rintro ⟨hp, hpos, before, hbefore, hpb⟩
    obtain ⟨start, hle, hholds, hfirst⟩ := exists_start p ls i
    refine ⟨start, lt_of_le_of_ne hle ?_, hlt.le, hholds, hfirst, ?_⟩
    · rintro rfl
      exact hfirst before hpos hbefore hpb
    · intro l' hl'
      rw [hl, Option.some.injEq] at hl'
      exact hl' ▸ hp

/-! ## Machines that latch -/

variable {σ : Type u} {ω : Type w}

/-- The answer to a label is that of a state that latches the label before, if the machine latches
each label it answers well to. -/
theorem trace_latch (machine : σ → ℓ → ω × σ) {latched : σ → Prop} {good : ω → Prop}
    (hlatch : ∀ s l, good (machine s l).1 → (latched (machine s l).2 ↔ p l)) {s : σ}
    (hgood : ∀ o ∈ (Runs.trace machine s ls).1, good o) {i : ℕ} {l : ℓ} (hl : ls[i]? = some l) :
    ∃ t, (Runs.trace machine s ls).1[i]? = some (machine t l).1 ∧
      (latched t ↔ i = 0 ∧ latched s ∨ Before p ls i) := by
  induction ls generalizing s i with
  | nil => cases hl
  | cons k ls ih =>
    rw [Runs.trace] at hgood
    have hfirst := hlatch s k (hgood _ List.mem_cons_self)
    cases i with
    | zero =>
      obtain rfl := Option.some.inj hl
      exact ⟨s, rfl, by simp [Before]⟩
    | succ i =>
      obtain ⟨t, ht, hlatched⟩ := ih (s := (machine s k).2)
        (fun o ho => hgood o (List.mem_cons_of_mem _ ho)) hl
      refine ⟨t, ht, hlatched.trans ?_⟩
      cases i with
      | zero => simp [Before, hfirst]
      | succ i => simp [Before]

end Latch
