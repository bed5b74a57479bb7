import AiopsTriage.Lib.Fallible

/-!
# Loops that raise

A loop over a list whose body can raise, with an accumulator. The state after the items so
far is described by a relation `P` between those items and the accumulator, and what the items
have to satisfy by a predicate `Q` on them.

* `holds_of_foldlM`: what one round keeps, the loop keeps;
* `foldlM_returns`: the loop returns on every list that fits.
-/

universe u v w

namespace Except

variable {ε : Type u} {α : Type v} {β : Type w}

theorem foldlM_nil_eq_ok {f : β → α → Except ε β} {b b' : β} :
    [].foldlM f b = .ok b' ↔ b = b' := pure_eq_ok

theorem foldlM_cons_eq_ok {f : β → α → Except ε β} {x : α} {xs : List α} {b b' : β} :
    (x :: xs).foldlM f b = .ok b' ↔ ∃ c, f b x = .ok c ∧ xs.foldlM f c = .ok b' := by
  rw [List.foldlM_cons]
  exact bind_eq_ok

section Rounds

variable {f : β → α → Except ε β} {P : List α → β → Prop}

/-- What every round keeps holds after the loop. -/
theorem holds_of_foldlM
    (hround : ∀ before x b b', P before b → f b x = .ok b' → P (before ++ [x]) b')
    {before xs : List α} {b b' : β} (h : P before b) (hloop : xs.foldlM f b = .ok b') :
    P (before ++ xs) b' := by
  induction xs generalizing before b with
  | nil =>
    obtain rfl := foldlM_nil_eq_ok.mp hloop
    rwa [List.append_nil]
  | cons x xs ih =>
    obtain ⟨c, hc, hrest⟩ := foldlM_cons_eq_ok.mp hloop
    have hc' := ih (hround before x b c h hc) hrest
    rwa [List.append_assoc, List.singleton_append] at hc'

/-- The loop returns when all items together fit, a part of what fits fits, and a round
returns on an item that fits with those before it. -/
theorem foldlM_returns {Q : List α → Prop}
    (hpart : ∀ before after, Q (before ++ after) → Q before)
    (hround : ∀ before x b, P before b → Q (before ++ [x]) →
      ∃ b', f b x = .ok b' ∧ P (before ++ [x]) b')
    {before xs : List α} {b : β} (h : P before b) (hfits : Q (before ++ xs)) :
    ∃ b', xs.foldlM f b = .ok b' := by
  induction xs generalizing before b with
  | nil => exact ⟨b, rfl⟩
  | cons x xs ih =>
    have happend : before ++ x :: xs = (before ++ [x]) ++ xs := by
      rw [List.append_assoc, List.singleton_append]
    rw [happend] at hfits
    obtain ⟨c, hc, hholds⟩ := hround before x b h (hpart _ _ hfits)
    obtain ⟨b', hb'⟩ := ih hholds hfits
    exact ⟨b', foldlM_cons_eq_ok.mpr ⟨c, hc, hb'⟩⟩

end Rounds

end Except
