import Mathlib.Order.Lattice
import Mathlib.Data.List.Induction

/-!
# Windows

Asks for keys come one after the other. An ask may **open** the window of its key, which then
is open until some time: a later ask for the key, before that time, **falls into** the window
of the one who holds it, and opens none. What is open is a matter of the asks alone.

The **holder** of a key is whoever opened its window last (`holder_concat`). Whatever the asks
are mapped from has the same holders (`holder_map`), and a holder is found by looking back for
the last ask that opened a window (`opens_of_holder`, `holder_eq_find?`).
-/

universe u v w x

/-- How asks open windows. -/
structure Windows (α : Type u) (κ : Type v) (τ : Type w) where
  /-- the key an ask is for -/
  key : α → κ
  /-- when it comes -/
  time : α → τ
  /-- when the window closes that it would open, if it is one to open any -/
  closes : α → Option τ

namespace Windows

variable {α : Type u} {β : Type x} {κ : Type v} {τ : Type w} [DecidableEq κ] [LinearOrder τ]
  (W : Windows α κ τ)

/-- The window of an ask is open when another one comes. -/
def OpenFor (a b : α) : Prop := ∃ t, W.closes a = some t ∧ W.time b < t

instance (a b : α) : Decidable (W.OpenFor a b) :=
  match h : W.closes a with
  | none => .isFalse fun ⟨_, hsome, _⟩ => by rw [h] at hsome; cases hsome
  | some t =>
    decidable_of_iff (W.time b < t)
      ⟨fun hlt => ⟨t, h, hlt⟩, fun ⟨_, hsome, hlt⟩ => by rw [h] at hsome; cases hsome; exact hlt⟩

/-- Who holds the key after one more ask. -/
def next (k : κ) (held : Option α) (a : α) : Option α :=
  if W.key a = k ∧ (W.closes a).isSome ∧ ¬ held.any (fun h => decide (W.OpenFor h a)) then some a
  else held

/-- Who holds a key after some asks. -/
def holder (k : κ) (asks : List α) : Option α := asks.foldl (W.next k) none

/-- An ask, after some others, falls into the window of one of them. -/
structure FallsInto (asks : List α) (a h : α) : Prop where
  /-- it is one to open a window -/
  wants : (W.closes a).isSome
  /-- the other holds the key -/
  held : W.holder (W.key a) asks = some h
  /-- and its window is still open -/
  isOpen : W.OpenFor h a

/-- An ask, after some others, opens the window of its key. -/
def Opens (asks : List α) (a : α) : Prop := (W.closes a).isSome ∧ ¬ ∃ h, W.FallsInto asks a h

variable {W} {k : κ} {asks : List α} {a h : α}

@[simp] theorem holder_nil : W.holder k [] = none := rfl

/-- An ask falls into the window of one holder at most. -/
theorem FallsInto.unique {h' : α} (hfalls : W.FallsInto asks a h) (hfalls' : W.FallsInto asks a h') :
    h = h' :=
  Option.some.inj (hfalls.held.symm.trans hfalls'.held)

theorem opens_iff : W.Opens asks a ↔ (W.closes a).isSome ∧
    ¬ (W.holder (W.key a) asks).any (fun h => decide (W.OpenFor h a)) := by
  refine and_congr_right fun hwants => not_congr ?_
  rw [Option.any_eq_true]
  constructor
  · rintro ⟨h, -, hheld, hopen⟩
    exact ⟨h, hheld, decide_eq_true hopen⟩
  · rintro ⟨h, hheld, hopen⟩
    exact ⟨h, hwants, hheld, of_decide_eq_true hopen⟩

open Classical in
/-- The holder after one more ask. -/
theorem holder_concat :
    W.holder k (asks ++ [a]) = if W.key a = k ∧ W.Opens asks a then some a else W.holder k asks := by
  rw [holder, List.foldl_append, List.foldl_cons, List.foldl_nil, next]
  refine if_congr (and_congr_right fun hkey => ?_) rfl rfl
  rw [opens_iff, hkey]
  rfl

/-- The asks may be mapped from others. -/
def comap (W : Windows α κ τ) (f : β → α) : Windows β κ τ where
  key b := W.key (f b)
  time b := W.time (f b)
  closes b := W.closes (f b)

theorem holder_map {f : β → α} {bs : List β} :
    W.holder k (bs.map f) = ((W.comap f).holder k bs).map f := by
  have hnext : ∀ (held : Option β) (b : β),
      W.next k (held.map f) (f b) = ((W.comap f).next k held b).map f := by
    intro held b
    unfold next
    rw [Option.any_map, apply_ite (Option.map f)]
    rfl
  suffices hfold : ∀ held : Option β,
      (bs.map f).foldl (W.next k) (held.map f) = (bs.foldl ((W.comap f).next k) held).map f from
    hfold none
  induction bs with
  | nil => exact fun held => rfl
  | cons b bs ih =>
    intro held
    rw [List.map_cons, List.foldl_cons, List.foldl_cons, hnext, ih]

theorem fallsInto_map {f : β → α} {bs : List β} {b : β} :
    W.FallsInto (bs.map f) (f b) h ↔ ∃ c, (W.comap f).FallsInto bs b c ∧ f c = h := by
  constructor
  · rintro ⟨hwants, hheld, hopen⟩
    rw [holder_map] at hheld
    obtain ⟨c, hc, rfl⟩ := Option.map_eq_some_iff.mp hheld
    exact ⟨c, ⟨hwants, hc, hopen⟩, rfl⟩
  · rintro ⟨c, ⟨hwants, hheld, hopen⟩, rfl⟩
    have hheld : W.holder (W.key (f b)) (bs.map f) = some (f c) := by
      rw [holder_map]
      exact congrArg (Option.map f) hheld
    exact ⟨hwants, hheld, hopen⟩

/-- **Looking back**: where a mark tells the asks that opened a window, the holder of a key is
the last marked ask for it. -/
theorem holder_eq_find? (mark : α → Bool)
    (hmark : ∀ pre a post, asks = pre ++ a :: post → (mark a = true ↔ W.Opens pre a)) :
    W.holder k asks = asks.reverse.find? fun a => decide (W.key a = k) && mark a := by
  induction asks using List.reverseRecOn with
  | nil => rfl
  | append_singleton asks a ih =>
    have hlast := hmark asks a [] rfl
    rw [holder_concat, List.reverse_concat, List.find?_cons]
    by_cases hnew : W.key a = k ∧ W.Opens asks a
    · rw [if_pos hnew, decide_eq_true hnew.1, hlast.mpr hnew.2]
      rfl
    · have hold : (decide (W.key a = k) && mark a) = false := by
        rw [Bool.and_eq_false_iff, decide_eq_false_iff_not, ← Bool.not_eq_true, hlast]
        exact not_and_or.mp hnew
      rw [if_neg hnew, hold, ih fun pre b post hsplit => hmark pre b (post ++ [a]) ?_]
      rw [hsplit, List.append_assoc, List.cons_append]

/-- Whoever holds a key opened its window. -/
theorem opens_of_holder (hheld : W.holder k asks = some h) :
    ∃ before after, asks = before ++ h :: after ∧ W.Opens before h := by
  induction asks using List.reverseRecOn with
  | nil => cases hheld
  | append_singleton asks a ih =>
    rw [holder_concat] at hheld
    split at hheld
    · next hnew =>
      cases hheld
      exact ⟨asks, [], rfl, hnew.2⟩
    · obtain ⟨before, after, rfl, hopens⟩ := ih hheld
      refine ⟨before, after ++ [a], ?_, hopens⟩
      rw [List.append_assoc, List.cons_append]

end Windows
