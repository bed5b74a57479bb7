import AiopsTriage.Lib.Latch

/-!
# Activation after so many labels in a row

A machine **counts** a property of its labels when its state holds how many labels in a row, up
to now, had it. Such a count belongs to the maximal run it stands in (`counts_iff`): it is `n`
right after the `n`-th label of the run. So a machine that answers when its count becomes `n` does
so once for each maximal run of at least `n` labels, and never otherwise.

What holds of the labels so far and of the state is carried by `Runs.trace_history`, and answers
that follow from it are read off by `Runs.trace_eq_map`.
-/

universe u v w

namespace Runs

variable {σ : Type u} {ℓ : Type v} {ω : Type w}

/-- **History rule**: what one step keeps of the labels so far and of the state holds of the state
that each label meets. -/
theorem trace_history (machine : σ → ℓ → ω × σ) {I : List ℓ → σ → Prop} {s : σ} {ls : List ℓ}
    (hstart : I [] s) (hstep : ∀ past t l, I past t → I (past ++ [l]) (machine t l).2) {i : ℕ}
    {l : ℓ} (hl : ls[i]? = some l) :
    ∃ t, I (ls.take i) t ∧ (trace machine s ls).1[i]? = some (machine t l).1 := by
  have hall : ∀ past, I past s → ∃ t, I (past ++ ls.take i) t ∧
      (trace machine s ls).1[i]? = some (machine t l).1 := by
    clear hstart
    induction ls generalizing s i with
    | nil => cases hl
    | cons k ls ih =>
      intro past hpast
      cases i with
      | zero =>
        obtain rfl := Option.some.inj hl
        exact ⟨s, by rwa [List.take_zero, List.append_nil], rfl⟩
      | succ i =>
        obtain ⟨t, ht, hanswer⟩ := ih hl (past ++ [k]) (hstep past s k hpast)
        refine ⟨t, ?_, hanswer⟩
        rwa [List.take_succ_cons, ← List.singleton_append, ← List.append_assoc]
  exact hall [] hstart

/-- **Answers of a history**: when the answer to a label follows from the labels before and up to
it, so do all answers of a trace. -/
theorem trace_eq_map (machine : σ → ℓ → ω × σ) {I : List ℓ → σ → Prop} {s : σ}
    (answer : List ℓ → List ℓ → ω) (hstart : I [] s)
    (hstep : ∀ past t l, I past t → I (past ++ [l]) (machine t l).2)
    (hanswer : ∀ past t l, I past t → (machine t l).1 = answer past (past ++ [l])) (ls : List ℓ) :
    (trace machine s ls).1 =
      (List.range ls.length).map fun i => answer (ls.take i) (ls.take (i + 1)) := by
  have hlength := (trace_forall₂ machine s ls).length_eq
  refine List.ext_getElem? fun i => ?_
  by_cases hi : i < ls.length
  · obtain ⟨t, ht, hget⟩ := trace_history machine hstart hstep (List.getElem?_eq_getElem hi)
    rw [hget, hanswer _ t _ ht, List.take_append_getElem, List.getElem?_map,
      List.getElem?_range hi, Option.map_some]
  · rw [List.getElem?_eq_none (by omega), List.getElem?_eq_none]
    rw [List.length_map, List.length_range]
    omega

end Runs

namespace Activation

open Latch

variable {ℓ : Type v} {p : ℓ → Prop} {ls past : List ℓ} {i n : ℕ}

/-- The last `n` labels have the property, and the one before them has not. -/
structure Counts (p : ℓ → Prop) (past : List ℓ) (n : ℕ) : Prop where
  /-- there are so many -/
  le : n ≤ past.length
  /-- they have it -/
  holds : ∀ i l, past.length - n ≤ i → past[i]? = some l → p l
  /-- the one before has not -/
  before : ∀ l, n < past.length → past[past.length - n - 1]? = some l → ¬ p l

theorem counts_nil : Counts p [] 0 where
  le := le_rfl
  holds i l _ h := by cases h
  before l h := by cases h

/-- One more label that has the property. -/
theorem Counts.succ {l : ℓ} (h : Counts p past n) (hl : p l) : Counts p (past ++ [l]) (n + 1) where
  le := by
    rw [List.length_append]
    exact Nat.add_le_add_right h.le 1
  holds i k hi hk := by
    rw [List.length_append, List.length_singleton, Nat.add_sub_add_right] at hi
    rcases Nat.lt_trichotomy i past.length with hlt | rfl | hgt
    · rw [List.getElem?_append_left hlt] at hk
      exact h.holds i k hi hk
    · rw [List.getElem?_concat_length, Option.some.injEq] at hk
      exact hk ▸ hl
    · rw [List.getElem?_eq_none (by rw [List.length_append, List.length_singleton]; omega)] at hk
      cases hk
  before k hn hk := by
    rw [List.length_append, List.length_singleton] at hn hk
    rw [Nat.add_sub_add_right, List.getElem?_append_left (by omega)] at hk
    exact h.before k (by omega) hk

/-- One more label that has not. -/
theorem counts_zero {l : ℓ} (hl : ¬ p l) : Counts p (past ++ [l]) 0 where
  le := Nat.zero_le _
  holds i k hi hk := by
    rw [List.getElem?_eq_none hi] at hk
    cases hk
  before k _ hk := by
    rw [Nat.sub_zero, List.length_append, List.length_singleton, Nat.add_sub_cancel,
      List.getElem?_concat_length, Option.some.injEq] at hk
    exact hk ▸ hl

/-- **Activation**: after a label that has the property the count is `n`, where the label is the
`n`-th of the maximal run it is in. -/
theorem counts_iff {l : ℓ} (hl : ls[i]? = some l) (hp : p l) (h : Counts p (ls.take i) n) (k : ℕ) :
    n + 1 = k ↔ ∃ start stop, MaximalRun p ls start stop ∧ i < stop ∧ start + k = i + 1 := by
  have hi : i < ls.length := (List.getElem?_eq_some_iff.mp hl).1
  have hlength : (ls.take i).length = i := List.length_take_of_le hi.le
  have hle := h.le
  have hholds := h.holds
  have hbefore := h.before
  rw [hlength] at hle hholds hbefore
  obtain ⟨stop, hstop, hstopLe, hrest, hafter⟩ := exists_stop p ls hi.le
  have hlt : i < stop := by
    refine lt_of_le_of_ne hstop ?_
    rintro rfl
    exact hafter l hl hp
  -- the run that the label is in starts `n` labels before
  have hrun : MaximalRun p ls (i - n) stop := by
    refine ⟨by omega, hstopLe, fun j k hj hjs hk => ?_, fun k hpos hk => ?_, hafter⟩
    · by_cases hji : j < i
      · refine hholds j k hj ?_
        rwa [List.getElem?_take_of_lt hji]
      · exact hrest j k (by omega) hjs hk
    · refine hbefore k (by omega) ?_
      rwa [List.getElem?_take_of_lt (by omega)]
  constructor
  · rintro rfl
    exact ⟨i - n, stop, hrun, hlt, by omega⟩
  · rintro ⟨start, stop', hrun', hlt', hk⟩
    have hstart : start = i - n := by
      rcases Nat.lt_trichotomy start (i - n) with hless | heq | hmore
      · have hget : ls[i - n - 1]? = some ls[i - n - 1] := List.getElem?_eq_getElem (by omega)
        exact absurd (hrun'.holds _ _ (by omega) (by omega) hget) (hrun.before _ (by omega) hget)
      · exact heq
      · have hget : ls[start - 1]? = some ls[start - 1] := List.getElem?_eq_getElem (by omega)
        exact absurd (hrun.holds _ _ (by omega) (by omega) hget) (hrun'.before _ (by omega) hget)
    omega

end Activation
