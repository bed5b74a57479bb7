import Mathlib.Data.List.Chain
import Mathlib.Tactic.Common

/-!
# Streaks

A history is a list of events, the newest first. Events may be **linked** to their
predecessor, and an event may **keep** a streak or break it. The streak of a history is its
longest part up to now in which every event keeps it and is linked to the one before
(`Longest`). There is always exactly one, `recent`, and how many of its events count for
something follows the history event by event (`countRecent_cons`).
-/

universe u

namespace Streak

variable {α : Type u} (link : α → α → Prop) (keep : α → Prop)

/-- Every event keeps the streak and is linked to the one before. -/
def Unbroken (part : List α) : Prop :=
  part.IsChain (fun newer older => link older newer) ∧ ∀ x ∈ part, keep x

/-- The part is the longest unbroken one up to now. -/
structure Longest (part history : List α) : Prop where
  /-- it goes up to now -/
  upToNow : part <+: history
  /-- it is unbroken -/
  unbroken : Unbroken link keep part
  /-- no other is longer -/
  longest : ∀ other, other <+: history → Unbroken link keep other → other.length ≤ part.length

variable [DecidableRel link] [DecidablePred keep]

/-- The longest unbroken part up to now. -/
def recent : List α → List α
  | [] => []
  | [x] => if keep x then [x] else []
  | x :: y :: past => if keep x then x :: (if link y x then recent (y :: past) else []) else []

variable {link keep}

theorem recent_cons_of_breaks {x : α} {past : List α} (h : ¬ keep x) :
    recent link keep (x :: past) = [] := by
  cases past with
  | nil => exact if_neg h
  | cons y past => exact if_neg h

theorem recent_singleton {x : α} (h : keep x) : recent link keep [x] = [x] := if_pos h

theorem recent_cons_of_linked {x y : α} {past : List α} (h : keep x) (hlink : link y x) :
    recent link keep (x :: y :: past) = x :: recent link keep (y :: past) := by
  rw [recent, if_pos h, if_pos hlink]

theorem recent_cons_of_gap {x y : α} {past : List α} (h : keep x) (hlink : ¬ link y x) :
    recent link keep (x :: y :: past) = [x] := by
  rw [recent, if_pos h, if_neg hlink]

variable (link keep) in
/-- The longest unbroken part is a part up to now, is unbroken, and holds every other. -/
theorem recent_spec (history : List α) :
    recent link keep history <+: history ∧ Unbroken link keep (recent link keep history) ∧
      ∀ other, other <+: history → Unbroken link keep other →
        other <+: recent link keep history := by
  induction history with
  | nil =>
    refine ⟨List.prefix_refl _, ⟨.nil, fun x hx => by cases hx⟩, fun other hother _ => hother⟩
  | cons x past ih =>
    obtain ⟨hpart, ⟨hchain, hkeep⟩, hlongest⟩ := ih
    by_cases hx : keep x
    · cases past with
      | nil =>
        rw [recent_singleton hx]
        exact ⟨List.prefix_refl _, ⟨.singleton x, by simpa using hx⟩, fun _ hother _ => hother⟩
      | cons y past =>
        by_cases hlink : link y x
        · rw [recent_cons_of_linked hx hlink]
          refine ⟨(List.prefix_cons_inj x).mpr hpart, ⟨?_, ?_⟩, ?_⟩
          · -- the newest of the rest, if there is one, is the predecessor
            cases hrest : recent link keep (y :: past) with
            | nil => exact .singleton x
            | cons z rest =>
              rw [hrest] at hpart hchain
              obtain rfl : z = y := ((List.cons_prefix_cons.mp hpart).1)
              exact hchain.cons_cons hlink
          · intro z hz
            rcases List.mem_cons.mp hz with rfl | hz
            · exact hx
            · exact hkeep z hz
          · rintro (_ | ⟨z, rest⟩) hother hunbroken
            · exact List.nil_prefix
            · obtain ⟨rfl, hrest⟩ := List.cons_prefix_cons.mp hother
              refine (List.prefix_cons_inj z).mpr (hlongest rest hrest ⟨hunbroken.1.tail, ?_⟩)
              exact fun w hw => hunbroken.2 w (List.mem_cons_of_mem z hw)
        · rw [recent_cons_of_gap hx hlink]
          refine ⟨⟨y :: past, rfl⟩, ⟨.singleton x, by simpa using hx⟩, ?_⟩
          rintro (_ | ⟨z, _ | ⟨w, rest⟩⟩) hother hunbroken
          · exact List.nil_prefix
          · obtain ⟨rfl, -⟩ := List.cons_prefix_cons.mp hother
            exact List.prefix_refl _
          · -- a second event would have to be linked
            obtain ⟨rfl, hrest⟩ := List.cons_prefix_cons.mp hother
            obtain ⟨rfl, -⟩ := List.cons_prefix_cons.mp hrest
            exact absurd hunbroken.1.rel hlink
    · rw [recent_cons_of_breaks hx]
      refine ⟨List.nil_prefix, ⟨.nil, fun x hx => by cases hx⟩, ?_⟩
      rintro (_ | ⟨z, rest⟩) hother hunbroken
      · exact List.nil_prefix
      · obtain ⟨rfl, -⟩ := List.cons_prefix_cons.mp hother
        exact absurd (hunbroken.2 z List.mem_cons_self) hx

/-- There is exactly one longest unbroken part. -/
theorem longest_iff {part history : List α} :
    Longest link keep part history ↔ part = recent link keep history := by
  obtain ⟨hpart, hunbroken, hlongest⟩ := recent_spec link keep history
  constructor
  · intro h
    have hinside := hlongest part h.upToNow h.unbroken
    exact hinside.eq_of_length (le_antisymm hinside.length_le (h.longest _ hpart hunbroken))
  · rintro rfl
    exact ⟨hpart, hunbroken, fun other hother h => (hlongest other hother h).length_le⟩

/-- How many events of the streak count. -/
def countRecent (link : α → α → Prop) (keep : α → Prop) [DecidableRel link] [DecidablePred keep]
    (counts : α → Bool) (history : List α) : Nat :=
  (recent link keep history).countP counts

variable {counts : α → Bool}

/-- A streak in which nothing counts. -/
theorem countRecent_eq_zero {history : List α} (h : ∀ x ∈ history, counts x = false) :
    countRecent link keep counts history = 0 := by
  refine List.countP_eq_zero.mpr fun x hx => ?_
  rw [h x ((recent_spec link keep history).1.subset hx)]
  exact Bool.false_ne_true

/-- **Counting a streak** event by event: a breaking event takes it to zero; one that keeps it
adds to it when it is linked, and else starts from zero. -/
theorem countRecent_cons {x : α} {past : List α} :
    countRecent link keep counts (x :: past) =
      if keep x then
        (if ∃ y ∈ past.head?, link y x then countRecent link keep counts past else 0) +
          if counts x then 1 else 0
      else 0 := by
  unfold countRecent
  by_cases hx : keep x
  · rw [if_pos hx]
    cases past with
    | nil => simp [recent_singleton hx, List.countP_singleton]
    | cons y past =>
      have hhead : (∃ z ∈ (y :: past).head?, link z x) ↔ link y x := by simp
      by_cases hlink : link y x
      · rw [recent_cons_of_linked hx hlink, List.countP_cons, if_pos (hhead.mpr hlink)]
      · rw [recent_cons_of_gap hx hlink, List.countP_singleton, if_neg (mt hhead.mp hlink),
          Nat.zero_add]
  · rw [if_neg hx, recent_cons_of_breaks hx]
    rfl

end Streak
