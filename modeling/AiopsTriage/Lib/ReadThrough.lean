import Mathlib.Data.List.Forall2
import Mathlib.Tactic.Common

/-!
# Read-through caches

A cache in front of a computation answers a request with what it holds at the key of the
request, or computes the answer and may hold on to it. It may also forget anything at any
time, and leave requests aside.

Nobody can tell such a cache from the computation when requests with the same key have the
same answer (`Run.answers`). What a run keeps is that everything held was computed for some
request (`Sound`).
-/

namespace ReadThrough

variable {ρ κ ν : Type*}

/-- What a cache holds, at which keys. -/
abbrev Held (κ ν : Type*) := κ → ν → Prop

section Caches

variable (key : ρ → κ) (compute : ρ → ν) (cached : ρ → Prop)

/-- Everything held was computed for a request that is cached. -/
def Sound (held : Held κ ν) : Prop :=
  ∀ k v, held k v → ∃ r, cached r ∧ key r = k ∧ compute r = v

/-- Cached requests with the same key have the same answer. -/
def Consistent : Prop := ∀ r r', cached r → cached r' → key r = key r' → compute r = compute r'

/-- One request: its answer, and what is held after it. -/
inductive Step (held : Held κ ν) (r : ρ) : ν → Held κ ν → Prop
  /-- the answer is held -/
  | hit {v : ν} {held' : Held κ ν} (hr : cached r) (hv : held (key r) v)
      (hheld : ∀ k w, held' k w → held k w) : Step held r v held'
  /-- it is computed, and may be held from now on -/
  | miss {held' : Held κ ν} (hr : cached r)
      (hheld : ∀ k w, held' k w → held k w ∨ (k = key r ∧ w = compute r)) :
      Step held r (compute r) held'
  /-- it is computed and left aside -/
  | bypass {held' : Held κ ν} (hheld : ∀ k w, held' k w → held k w) :
      Step held r (compute r) held'

/-- Requests one after the other, with their answers. -/
inductive Run : Held κ ν → List ρ → List ν → Held κ ν → Prop
  /-- none -/
  | nil {held : Held κ ν} : Run held [] [] held
  /-- one more -/
  | cons {held held₁ held₂ : Held κ ν} {r : ρ} {rs : List ρ} {v : ν} {vs : List ν}
      (hstep : Step key compute cached held r v held₁) (hrun : Run held₁ rs vs held₂) :
      Run held (r :: rs) (v :: vs) held₂

variable {key compute cached}

/-- Nothing held is sound. -/
theorem sound_nothing {held : Held κ ν} (h : ∀ k v, ¬ held k v) : Sound key compute cached held :=
  fun k v hv => absurd hv (h k v)

/-- What is left of a sound cache is sound. -/
theorem Sound.forget {held held' : Held κ ν} (h : Sound key compute cached held)
    (hheld : ∀ k w, held' k w → held k w) : Sound key compute cached held' :=
  fun k w hw => h k w (hheld k w hw)

/-- A request is answered with what is computed for it. -/
theorem Step.answer {held held' : Held κ ν} {r : ρ} {v : ν}
    (h : Step key compute cached held r v held') (hsound : Sound key compute cached held)
    (hconsistent : Consistent key compute cached) : v = compute r := by
  cases h with
  | hit hr hv _ =>
    obtain ⟨r', hr', hkey, rfl⟩ := hsound _ _ hv
    exact hconsistent r' r hr' hr hkey
  | miss _ _ => rfl
  | bypass _ => rfl

/-- It leaves the cache sound. -/
theorem Step.sound {held held' : Held κ ν} {r : ρ} {v : ν}
    (h : Step key compute cached held r v held') (hsound : Sound key compute cached held) :
    Sound key compute cached held' := by
  cases h with
  | hit _ _ hheld => exact hsound.forget hheld
  | bypass hheld => exact hsound.forget hheld
  | miss hr hheld =>
    intro k w hw
    rcases hheld k w hw with hold | ⟨rfl, rfl⟩
    · exact hsound k w hold
    · exact ⟨r, hr, rfl, rfl⟩

/-- **Transparency**: in every run from a sound cache the answers are those of the computation,
and the cache stays sound. -/
theorem Run.answers {held held' : Held κ ν} {rs : List ρ} {vs : List ν}
    (h : Run key compute cached held rs vs held') (hsound : Sound key compute cached held)
    (hconsistent : Consistent key compute cached) :
    vs = rs.map compute ∧ Sound key compute cached held' := by
  induction h with
  | nil => exact ⟨rfl, hsound⟩
  | cons hstep _ ih =>
    obtain ⟨hvs, hsound'⟩ := ih (hstep.sound hsound)
    exact ⟨by rw [List.map_cons, ← hstep.answer hsound hconsistent, hvs], hsound'⟩

end Caches

end ReadThrough
