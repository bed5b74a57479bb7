import Mathlib.Data.List.Lex
import Mathlib.Data.List.Nodup
import Mathlib.Data.List.Sort
import Mathlib.Data.String.Basic

/-!
# Sorting by a key

`sorted(xs, key=...)` is a stable sort, insertion sort for the order of the keys. Sorting by
keys without repetitions does not depend on the order before (`sortByKey_eq_of_perm`), and
leaving elements out commutes with sorting (`filter_sortByKey`).
-/

universe u v

namespace List

variable {α : Type u} {κ : Type v} [LinearOrder κ] (key : α → κ)

/-- `sorted(xs, key=key)`. -/
abbrev sortByKey (xs : List α) : List α := xs.insertionSort fun a b => key a ≤ key b

/-- A sorted list has its keys in order. -/
theorem pairwise_sortByKey (xs : List α) : (xs.sortByKey key).Pairwise fun a b => key a ≤ key b := by
  have : Std.Total fun a b => key a ≤ key b := ⟨fun a b => le_total (key a) (key b)⟩
  have : IsTrans α fun a b => key a ≤ key b := ⟨fun _ _ _ => le_trans⟩
  exact pairwise_insertionSort _ xs

variable {key} {xs ys : List α}

/-- Lists with the same elements are sorted alike when the keys do not repeat. -/
theorem sortByKey_eq_of_perm (hnodup : (xs.map key).Nodup) (h : xs.Perm ys) :
    xs.sortByKey key = ys.sortByKey key := by
  have hperm : (xs.sortByKey key).Perm (ys.sortByKey key) :=
    ((perm_insertionSort _ xs).trans h).trans (perm_insertionSort _ ys).symm
  refine hperm.eq_of_pairwise (fun a b ha hb hab hba => ?_) (pairwise_sortByKey key xs)
    (pairwise_sortByKey key ys)
  have ha : a ∈ xs := (mem_insertionSort _).mp ha
  have hb : b ∈ xs := (h.mem_iff).mpr ((mem_insertionSort _).mp hb)
  exact inj_on_of_nodup_map hnodup ha hb (le_antisymm hab hba)

/-- An element put in its place among those that are left in. -/
theorem filter_orderedInsert {p : α → Bool} {a : α}
    (h : xs.Pairwise fun a b => key a ≤ key b) :
    (xs.orderedInsert (fun a b => key a ≤ key b) a).filter p =
      if p a then (xs.filter p).orderedInsert (fun a b => key a ≤ key b) a else xs.filter p := by
  induction xs with
  | nil => by_cases ha : p a <;> simp [ha]
  | cons b xs ih =>
    obtain ⟨hb, hxs⟩ := pairwise_cons.mp h
    rw [orderedInsert_cons]
    by_cases hab : key a ≤ key b
    · rw [if_pos hab]
      by_cases ha : p a
      · -- `a` comes before all elements that are left in
        have hfirst : ∀ c ∈ (b :: xs).filter p, key a ≤ key c := by
          intro c hc
          rcases mem_cons.mp (mem_filter.mp hc).1 with rfl | hc
          · exact hab
          · exact hab.trans (hb c hc)
        rw [if_pos ha, filter_cons_of_pos ha]
        cases hrest : (b :: xs).filter p with
        | nil => rfl
        | cons c rest =>
          rw [orderedInsert_cons, if_pos (hfirst c (hrest ▸ mem_cons_self))]
      · rw [if_neg ha, filter_cons_of_neg ha]
    · rw [if_neg hab]
      by_cases hpb : p b
      · rw [filter_cons_of_pos hpb, filter_cons_of_pos hpb, ih hxs]
        by_cases ha : p a
        · rw [if_pos ha, if_pos ha, orderedInsert_cons, if_neg hab]
        · rw [if_neg ha, if_neg ha]
      · rw [filter_cons_of_neg hpb, filter_cons_of_neg hpb, ih hxs]

/-- **Stability**: what is left in after sorting is what is left in, sorted. -/
theorem filter_sortByKey (p : α → Bool) (xs : List α) :
    (xs.sortByKey key).filter p = (xs.filter p).sortByKey key := by
  induction xs with
  | nil => rfl
  | cons a xs ih =>
    rw [sortByKey, insertionSort_cons, filter_orderedInsert (pairwise_sortByKey key xs), ih]
    by_cases ha : p a
    · rw [if_pos ha, filter_cons_of_pos ha]
      exact (insertionSort_cons _ a _).symm
    · rw [if_neg ha, filter_cons_of_neg ha]

/-- A sorted list stays as it is. -/
theorem sortByKey_eq_self (h : xs.Pairwise fun a b => key a ≤ key b) : xs.sortByKey key = xs :=
  Pairwise.insertionSort_eq h

end List
