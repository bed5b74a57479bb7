import Mathlib.Algebra.BigOperators.Group.List.Basic
import Mathlib.Algebra.Order.Group.Nat
import Mathlib.Data.List.DropRight

/-!
# Rolling windows

A queue of at most so many items with their sum beside it, kept up to date item by item: a new
item is added, and once the queue is full the oldest one is taken off first. After any number
of items the queue holds the last of them, and the sum is theirs (`Tracks`).
-/

universe u

/-- The last items, and their sum. -/
structure RollingWindow (α : Type u) where
  /-- the items, oldest first -/
  items : List α
  /-- the running sum -/
  sum : α

namespace RollingWindow

variable {α : Type u} [AddCommGroup α]

/-- An empty window. -/
def empty : RollingWindow α := ⟨[], 0⟩

/-- Take the oldest item off a window that is full. -/
def evict (size : ℕ) (w : RollingWindow α) : RollingWindow α :=
  match w.items with
  | [] => w
  | x :: rest => if size ≤ w.items.length then ⟨rest, w.sum - x⟩ else w

/-- Add an item. -/
def push (size : ℕ) (w : RollingWindow α) (x : α) : RollingWindow α where
  items := (w.evict size).items ++ [x]
  sum := (w.evict size).sum + x

/-- The window holds the last of the items that were pushed, with their sum. -/
structure Tracks (size : ℕ) (pushed : List α) (w : RollingWindow α) : Prop where
  /-- the last ones -/
  items : w.items = pushed.rtake size
  /-- and their sum -/
  sum : w.sum = (pushed.rtake size).sum

omit [AddCommGroup α] in
theorem length_rtake (size : ℕ) (pushed : List α) :
    (pushed.rtake size).length = min pushed.length size := by
  rw [List.rtake, List.length_drop]
  omega

omit [AddCommGroup α] in
/-- Leaving one more item at the end takes one off the front of a list that is long enough. -/
theorem rtake_eq (size : ℕ) (pushed : List α) : pushed.rtake size =
    if size + 1 ≤ (pushed.rtake (size + 1)).length then (pushed.rtake (size + 1)).tail
    else pushed.rtake (size + 1) := by
  rw [length_rtake]
  split
  · next h =>
    have hsucc : pushed.length - (size + 1) + 1 = pushed.length - size := by omega
    rw [List.rtake, List.rtake, List.tail_drop, hsucc]
  · next h =>
    have hshort : pushed.length - size = 0 := by omega
    have hshort' : pushed.length - (size + 1) = 0 := by omega
    rw [List.rtake, List.rtake, hshort, hshort']

/-- After an eviction there is room for one more item. -/
theorem tracks_evict {size : ℕ} {pushed : List α} {w : RollingWindow α}
    (h : Tracks (size + 1) pushed w) : Tracks size pushed (w.evict (size + 1)) := by
  obtain ⟨hitems, hsum⟩ := h
  have hlast := rtake_eq size pushed
  rw [← hitems] at hlast hsum
  unfold evict
  cases hcase : w.items with
  | nil =>
    rw [hcase, List.tail_nil, ite_self] at hlast
    exact ⟨hcase.trans hlast.symm, by rw [hlast, hsum, hcase]⟩
  | cons x rest =>
    rw [hcase, List.tail_cons] at hlast
    simp only
    split
    · next hfull =>
      rw [hcase] at hsum
      rw [if_pos hfull] at hlast
      refine ⟨hlast.symm, ?_⟩
      rw [hlast, hsum, List.sum_cons, add_sub_cancel_left]
    · next hroom =>
      rw [if_neg hroom] at hlast
      exact ⟨hcase.trans hlast.symm, by rw [hlast, hsum, hcase]⟩

/-- **One more item**: the window still tracks what was pushed. -/
theorem Tracks.push {size : ℕ} {pushed : List α} {w : RollingWindow α} (hsize : 0 < size)
    (h : Tracks size pushed w) (x : α) : Tracks size (pushed ++ [x]) (w.push size x) := by
  obtain ⟨n, rfl⟩ : ∃ n, size = n + 1 := ⟨size - 1, by omega⟩
  obtain ⟨hitems, hsum⟩ := tracks_evict h
  refine ⟨?_, ?_⟩
  · rw [RollingWindow.push, List.rtake_concat_succ, hitems]
  · rw [RollingWindow.push, List.rtake_concat_succ, hsum, List.sum_append, List.sum_singleton]

end RollingWindow
