import Mathlib.Data.List.Forall2
import Mathlib.Logic.Basic

/-!
# Fallible computations

`Except` as the model of code that raises: a guard that raises (`raiseIf`), the
choice that tells whether a computation returned (`Returns`), and the inversion
lemmas that take a `do` block apart one statement at a time.
-/

universe u v w

/-- `if c: raise e`. -/
def raiseIf {ε : Type u} (c : Prop) [Decidable c] (e : ε) : Except ε Unit :=
  if c then .error e else .ok ()

@[simp] theorem raiseIf_eq_ok {ε : Type u} {c : Prop} [Decidable c] {e : ε} {u : Unit} :
    raiseIf c e = .ok u ↔ ¬c := by
  unfold raiseIf
  split <;> simp_all

/-- Everything on the right is matched by something on the left. -/
theorem List.Forall₂.exists_of_mem_right {α : Type u} {β : Type v} {R : α → β → Prop}
    {xs : List α} {ys : List β} (h : Forall₂ R xs ys) {y : β} (hy : y ∈ ys) : ∃ x ∈ xs, R x y := by
  induction h with
  | nil => cases hy
  | @cons x y' xs ys hxy _ ih =>
    rcases List.mem_cons.mp hy with rfl | hy
    · exact ⟨x, List.mem_cons_self, hxy⟩
    · obtain ⟨x', hx', hr⟩ := ih hy
      exact ⟨x', List.mem_cons_of_mem x hx', hr⟩

/-- Everything on the left is matched by something on the right. -/
theorem List.Forall₂.exists_of_mem_left {α : Type u} {β : Type v} {R : α → β → Prop}
    {xs : List α} {ys : List β} (h : Forall₂ R xs ys) {x : α} (hx : x ∈ xs) : ∃ y ∈ ys, R x y :=
  h.flip.exists_of_mem_right hx

namespace Except

variable {ε : Type u} {α β : Type v}

/-- A block returns exactly when its first statement does and the rest does from
there. -/
theorem bind_eq_ok {x : Except ε α} {f : α → Except ε β} {b : β} :
    (x >>= f) = .ok b ↔ ∃ a, x = .ok a ∧ f a = .ok b := by
  cases x with
  | error e => simp [bind, Except.bind]
  | ok a => simp [bind, Except.bind]

@[simp] theorem pure_eq_ok {a b : α} : (pure a : Except ε α) = .ok b ↔ a = b := by
  simp [pure, Except.pure]

@[simp] theorem ok_bind {a : α} {f : α → Except ε β} : ((.ok a : Except ε α) >>= f) = f a := rfl

@[simp] theorem error_bind {e : ε} {f : α → Except ε β} :
    ((.error e : Except ε α) >>= f) = .error e := rfl

/-- The value of a computation that returned. -/
theorem toOption_eq_some {x : Except ε α} {a : α} : x.toOption = some a ↔ x = .ok a := by
  cases x with
  | error e => simp [Except.toOption]
  | ok b => simp [Except.toOption]

/-- A loop returns exactly when it returns on every item, and then item by item. -/
theorem mapM_eq_ok {f : α → Except ε β} {xs : List α} {ys : List β} :
    xs.mapM f = .ok ys ↔ List.Forall₂ (fun x y => f x = .ok y) xs ys := by
  induction xs generalizing ys with
  | nil => rw [List.mapM_nil, pure_eq_ok, List.forall₂_nil_left_iff, eq_comm]
  | cons x xs ih =>
    rw [List.mapM_cons, List.forall₂_cons_left_iff, bind_eq_ok]
    constructor
    · rintro ⟨y, hy, hrest⟩
      obtain ⟨rest, hmap, hpure⟩ := bind_eq_ok.mp hrest
      exact ⟨y, rest, hy, ih.mp hmap, (pure_eq_ok.mp hpure).symm⟩
    · rintro ⟨y, rest, hy, hrest, rfl⟩
      exact ⟨y, hy, bind_eq_ok.mpr ⟨rest, ih.mpr hrest, rfl⟩⟩

/-- The computation returned. -/
def Returns (x : Except ε α) : Prop := ∃ a, x = .ok a

/-- A block returns exactly when its first statement does and the rest does from there. -/
theorem bind_returns {x : Except ε α} {f : α → Except ε β} :
    (x >>= f).Returns ↔ ∃ a, x = .ok a ∧ (f a).Returns := by
  cases x with
  | error e => simp [Returns]
  | ok a => simp [Returns]

/-- A loop returns exactly when it returns on every item. -/
theorem mapM_returns {f : α → Except ε β} {xs : List α} :
    (xs.mapM f).Returns ↔ ∀ x ∈ xs, (f x).Returns := by
  constructor
  · rintro ⟨ys, hys⟩ x hx
    obtain ⟨y, -, hy⟩ := (mapM_eq_ok.mp hys).exists_of_mem_left hx
    exact ⟨y, hy⟩
  · intro h
    induction xs with
    | nil => exact ⟨[], mapM_eq_ok.mpr .nil⟩
    | cons x xs ih =>
      obtain ⟨y, hy⟩ := h x List.mem_cons_self
      obtain ⟨ys, hys⟩ := ih fun x' hx' => h x' (List.mem_cons_of_mem _ hx')
      exact ⟨y :: ys, mapM_eq_ok.mpr (.cons hy (mapM_eq_ok.mp hys))⟩

/-- What follows from each error follows when the computation does not return. -/
theorem forall_error_imp {x : Except ε α} {p : Prop} :
    (∀ e, x = .error e → p) ↔ (¬ x.Returns → p) := by
  cases x with
  | error e => simp [Returns]
  | ok a => simp [Returns]

instance (x : Except ε α) : Decidable (Returns x) :=
  match x with
  | .ok a => .isTrue ⟨a, rfl⟩
  | .error _ => .isFalse fun ⟨_, h⟩ => by cases h

end Except
