import AiopsTriage.Lib.SortByKey
import Mathlib.Algebra.BigOperators.Group.Finset.Piecewise
import Mathlib.Algebra.Order.BigOperators.Group.Finset
import Mathlib.Data.Finset.Lattice.Fold
import Mathlib.Order.Lattice.Nat

/-!
# Service in batches

Jobs wait with some work left, and a server takes at most `b` of them a round. A **round** is
fair when it serves `b` jobs, or else every job that waits (`Round.full`). Nothing is said of
which jobs those are, of when the rounds happen, or of how much work a service takes off.

* `Rounds.done` — after `potential` fair rounds no work is left, where the potential is the
  work of all jobs, divided by `b`, and the work of the longest job.
* `List.mem_take_sortByKey` — a server that takes the `b` first jobs by a key leaves a job
  waiting only when it has taken `b` others that come no later.
-/

universe u v

namespace BatchService

variable {ι : Type u} {b n : ℕ} {jobs batch : Finset ι} {left left' left'' : ι → ℕ}

/-- A fair round: the jobs of `batch` are served. -/
structure Round (b : ℕ) (jobs : Finset ι) (left left' : ι → ℕ) (batch : Finset ι) : Prop where
  /-- only jobs are served -/
  subset : batch ⊆ jobs
  /-- no job gets more work -/
  kept : ∀ i ∈ jobs, left' i ≤ left i
  /-- a job that is served has less work left -/
  served : ∀ i ∈ batch, left' i < left i
  /-- the batch is full, or every job that waits is in it -/
  full : b ≤ batch.card ∨ ∀ i ∈ jobs, 0 < left i → i ∈ batch

/-- A bound on the fair rounds that find a job waiting. -/
def potential (b : ℕ) (jobs : Finset ι) (left : ι → ℕ) : ℕ :=
  (∑ i ∈ jobs, left i) / b + jobs.sup left

namespace Round

variable (h : Round b jobs left left' batch)

include h

/-- The work of all jobs drops by one for each job that is served. -/
theorem sum_add_card_le : ∑ i ∈ jobs, left' i + batch.card ≤ ∑ i ∈ jobs, left i := by
  classical
  have hcard : batch.card = ∑ i ∈ jobs, if i ∈ batch then 1 else 0 := by
    rw [Finset.sum_ite_mem, Finset.inter_eq_right.mpr h.subset, Finset.card_eq_sum_ones]
  rw [hcard, ← Finset.sum_add_distrib]
  refine Finset.sum_le_sum fun i hi => ?_
  by_cases hmem : i ∈ batch
  · rw [if_pos hmem]
    exact h.served i hmem
  · rw [if_neg hmem]
    exact h.kept i hi

/-- The longest job does not get longer. -/
theorem sup_le : jobs.sup left' ≤ jobs.sup left :=
  Finset.sup_mono_fun h.kept

/-- When every waiting job is served, the longest job gets shorter. -/
theorem sup_lt (hall : ∀ i ∈ jobs, 0 < left i → i ∈ batch) {i : ι} (hi : i ∈ jobs)
    (hleft : 0 < left i) : jobs.sup left' < jobs.sup left := by
  have hpos : 0 < jobs.sup left := hleft.trans_le (Finset.le_sup hi)
  refine (Finset.sup_lt_iff hpos).mpr fun j hj => ?_
  rcases Nat.eq_zero_or_pos (left j) with hzero | hwaits
  · exact (h.kept j hj).trans_lt (hzero ▸ hpos)
  · exact (h.served j (hall j hj hwaits)).trans_le (Finset.le_sup hj)

/-- **Step lemma**: a fair round that finds a job waiting takes from the potential. -/
theorem potential_lt (hb : 0 < b) {i : ι} (hi : i ∈ jobs) (hleft : 0 < left i) :
    potential b jobs left' < potential b jobs left := by
  have hsum := h.sum_add_card_le
  rcases h.full with hfull | hall
  · -- a full batch takes `b` off the work of all jobs
    have hquot : (∑ i ∈ jobs, left' i) / b + 1 ≤ (∑ i ∈ jobs, left i) / b := by
      rw [← Nat.add_div_right _ hb]
      exact Nat.div_le_div_right (by omega)
    have hsup := h.sup_le
    simp only [potential]
    omega
  · have hquot : (∑ i ∈ jobs, left' i) / b ≤ (∑ i ∈ jobs, left i) / b :=
      Nat.div_le_div_right (by omega)
    have hsup := h.sup_lt hall hi hleft
    simp only [potential]
    omega

end Round

/-- A run of `n` fair rounds. -/
inductive Rounds (b : ℕ) (jobs : Finset ι) : ℕ → (ι → ℕ) → (ι → ℕ) → Prop where
  /-- no round -/
  | none (left : ι → ℕ) : Rounds b jobs 0 left left
  /-- a round, and the rest of the run -/
  | next {n : ℕ} {left left' left'' : ι → ℕ} {batch : Finset ι}
    (first : Round b jobs left left' batch) (rest : Rounds b jobs n left' left'') :
    Rounds b jobs (n + 1) left left''

/-- Over a run no job gets more work. -/
theorem Rounds.kept (h : Rounds b jobs n left left') : ∀ i ∈ jobs, left' i ≤ left i := by
  induction h with
  | none left => exact fun i _ => le_refl _
  | next first _ ih => exact fun i hi => (ih i hi).trans (first.kept i hi)

/-- **Service**: enough fair rounds leave no work. -/
theorem Rounds.done (hb : 0 < b) (h : Rounds b jobs n left left')
    (hn : potential b jobs left ≤ n) : ∀ i ∈ jobs, left' i = 0 := by
  induction h with
  | none left =>
    intro i hi
    have hsup : left i ≤ jobs.sup left := Finset.le_sup hi
    have hzero : jobs.sup left = 0 := (Nat.add_eq_zero_iff.mp (Nat.le_zero.mp hn)).2
    omega
  | @next n left left' left'' batch first rest ih =>
    by_cases hwaits : ∃ i ∈ jobs, 0 < left i
    · obtain ⟨i, hi, hleft⟩ := hwaits
      have hlt := first.potential_lt hb hi hleft
      exact ih (by omega)
    · intro i hi
      have hkept := ((rest.kept i hi).trans (first.kept i hi))
      have hzero : ¬ 0 < left i := fun hleft => hwaits ⟨i, hi, hleft⟩
      omega

end BatchService

namespace List

variable {α : Type u} {κ : Type v} [LinearOrder κ] {key : α → κ} {xs : List α}

/-- **First come, first served**: an element that is not among the first `b` by the key comes no
earlier than any of those. -/
theorem mem_take_sortByKey (b : ℕ) {x : α} (hx : x ∈ xs) :
    x ∈ (xs.sortByKey key).take b ∨
      ((xs.sortByKey key).take b).length = b ∧
        ∀ y ∈ (xs.sortByKey key).take b, key y ≤ key x := by
  have hmem : x ∈ (xs.sortByKey key).take b ++ (xs.sortByKey key).drop b := by
    rw [take_append_drop]
    exact (mem_insertionSort _).mpr hx
  have hsorted := pairwise_sortByKey key xs
  rw [← take_append_drop b (xs.sortByKey key)] at hsorted
  rcases mem_append.mp hmem with htake | hdrop
  · exact .inl htake
  · refine .inr ⟨?_, fun y hy => (pairwise_append.mp hsorted).2.2 y hy x hdrop⟩
    have hlength := length_pos_of_mem hdrop
    rw [length_drop] at hlength
    rw [length_take]
    omega

end List
