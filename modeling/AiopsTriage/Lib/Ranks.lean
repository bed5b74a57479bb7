import AiopsTriage.Lib.SortByKey

/-!
# Ranks

The value at a rank of a sorted list says how many values are small: it is above a bound exactly
when no more than so many values are within the bound (`lt_getElem_sort`). So a nearest-rank
percentile can be checked against a target by counting.

Sorted in reverse, a list begins with the first of its greatest elements
(`head?_sortByKeyReverse`), which is the same for every order before when keys do not repeat.
-/

universe u

namespace List

variable {α : Type u} [LinearOrder α] {xs : List α} {k : ℕ}

/-- In a list in order, the values within a bound are the first ones. -/
theorem lt_getElem_iff_of_pairwise (h : xs.Pairwise (· ≤ ·)) (hk : k < xs.length) (bound : α) :
    bound < xs[k] ↔ xs.countP (fun x => decide (x ≤ bound)) ≤ k := by
  induction xs generalizing k with
  | nil => cases hk
  | cons x xs ih =>
    obtain ⟨hfirst, hrest⟩ := pairwise_cons.mp h
    rw [countP_cons]
    by_cases hx : x ≤ bound
    · rw [if_pos (decide_eq_true hx)]
      cases k with
      | zero => exact iff_of_false (not_lt.mpr hx) (by omega)
      | succ k =>
        rw [getElem_cons_succ, ih hrest (Nat.lt_of_succ_lt_succ hk)]
        omega
    · -- then all values are above the bound
      have hnone : xs.countP (fun x => decide (x ≤ bound)) = 0 := by
        refine countP_eq_zero.mpr fun y hy => ?_
        have hlt := (not_le.mp hx).trans_le (hfirst y hy)
        simpa using hlt
      have hall : bound < (x :: xs)[k] := by
        rcases mem_cons.mp (getElem_mem hk) with heq | hmem
        · rw [heq]
          exact not_le.mp hx
        · exact (not_le.mp hx).trans_le (hfirst _ hmem)
      rw [if_neg (by simpa using hx), hnone]
      exact iff_of_true hall (Nat.zero_le k)

/-- **Rank lemma**: the value at a rank is above a bound exactly when no more values are within it
than come before the rank. -/
theorem lt_getElem_sort (hk : k < (xs.insertionSort (· ≤ ·)).length) (bound : α) :
    bound < (xs.insertionSort (· ≤ ·))[k] ↔ xs.countP (fun x => decide (x ≤ bound)) ≤ k := by
  rw [lt_getElem_iff_of_pairwise (pairwise_insertionSort _ xs) hk,
    (perm_insertionSort (· ≤ ·) xs).countP_eq]

/-! ## Reverse order -/

section Reverse

universe v

variable {β : Type v} {key : β → α} {ys zs : List β} {y z : β}

/-- `sorted(xs, key=key, reverse=True)`, which leaves equal elements in order. -/
def sortByKeyReverse (key : β → α) (ys : List β) : List β := (ys.reverse.sortByKey key).reverse

/-- The first of the greatest elements. -/
def FirstGreatest (key : β → α) (ys : List β) (y : β) : Prop :=
  ∃ before after, ys = before ++ y :: after ∧ (∀ z ∈ before, key z < key y) ∧
    ∀ z ∈ after, key z ≤ key y

theorem FirstGreatest.mem (h : FirstGreatest key ys y) : y ∈ ys := by
  obtain ⟨before, after, rfl, -⟩ := h
  exact mem_append_right before mem_cons_self

theorem FirstGreatest.le (h : FirstGreatest key ys y) (hz : z ∈ ys) : key z ≤ key y := by
  obtain ⟨before, after, rfl, hbefore, hafter⟩ := h
  rcases mem_append.mp hz with hz | hz
  · exact (hbefore z hz).le
  rcases mem_cons.mp hz with rfl | hz
  · exact le_rfl
  · exact hafter z hz

/-- A list whose keys do not repeat has the same greatest element in every order. -/
theorem FirstGreatest.eq_of_perm (hy : FirstGreatest key ys y) (hz : FirstGreatest key zs z)
    (hnodup : (ys.map key).Nodup) (h : ys.Perm zs) : y = z :=
  inj_on_of_nodup_map hnodup hy.mem (h.mem_iff.mpr hz.mem)
    (le_antisymm (hz.le (h.mem_iff.mp hy.mem)) (hy.le (h.mem_iff.mpr hz.mem)))

/-- **Greatest first**: a list that is sorted in reverse begins with the first of its greatest
elements. -/
theorem head?_sortByKeyReverse (h : (ys.sortByKeyReverse key).head? = some y) :
    FirstGreatest key ys y := by
  rw [sortByKeyReverse, head?_reverse] at h
  obtain ⟨rest, hsorted⟩ := getLast?_eq_some_iff.mp h
  have hpairwise := pairwise_sortByKey key ys.reverse
  rw [hsorted, pairwise_append] at hpairwise
  have hmax : ∀ z ∈ ys, key z ≤ key y := by
    intro z hz
    have hmem : z ∈ ys.reverse.sortByKey key :=
      (mem_insertionSort _).mpr (mem_reverse.mpr hz)
    rw [hsorted] at hmem
    rcases mem_append.mp hmem with hz | hz
    · exact hpairwise.2.2 z hz y (mem_singleton_self y)
    · rw [mem_singleton.mp hz]
  -- the elements with the greatest key keep their order, and `y` is the last of the reversed ones
  let greatest : β → Bool := fun z => decide (key z = key y)
  have hfilter : (ys.filter greatest).reverse = (rest ++ [y]).filter greatest := by
    rw [← filter_reverse, ← hsorted, filter_sortByKey greatest, sortByKey_eq_self]
    refine pairwise_of_forall_mem_list fun a ha b hb => ?_
    rw [of_decide_eq_true (mem_filter.mp ha).2, of_decide_eq_true (mem_filter.mp hb).2]
  have hfind : ys.find? greatest = some y := by
    rw [← head?_filter, ← reverse_reverse (ys.filter greatest), hfilter, head?_reverse,
      filter_append]
    simp [greatest]
  obtain ⟨-, before, after, rfl, hbefore⟩ := find?_eq_some_iff_append.mp hfind
  refine ⟨before, after, rfl, fun z hz => ?_, fun z hz => ?_⟩
  · have hne : key z ≠ key y := by simpa [greatest] using hbefore z hz
    exact (hmax z (mem_append_left _ hz)).lt_of_ne hne
  · exact hmax z (mem_append_right _ (mem_cons_of_mem y hz))

end Reverse

end List
