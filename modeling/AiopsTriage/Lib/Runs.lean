import Mathlib.Data.List.Forall2
import Mathlib.Data.Option.Basic

/-!
# Runs of a labelled partial step

A component is a state type `σ`, a label type `ℓ` and a partial step
`σ → ℓ → Option σ`: the label picks the party and what the environment answers,
and `none` says that the label is not enabled. A **run** is a list of labels
taken one after the other, so an interleaving is just a list in which the labels
of several parties alternate.

What a run preserves follows from what one step preserves (`run_inv`). A
property that only holds while the labels keep some condition on the state
before them is carried by `Along` (`run_inv_along`).

A step that is always enabled and answers something is a **machine** `σ → ℓ → ω × σ`; what
it answers on the way is its **trace**. What holds of the trace so far and of the state is
carried by `trace_inv`.
-/

universe u v w

namespace Runs

variable {σ : Type u} {ℓ : Type v}

/-- The state after a list of labels, `none` when one of them is not enabled. -/
def run (step : σ → ℓ → Option σ) : σ → List ℓ → Option σ
  | s, [] => some s
  | s, l :: ls => (step s l).bind fun s' => run step s' ls

/-- Every label of the run meets `P` in the state it is taken from. -/
def Along (step : σ → ℓ → Option σ) (P : σ → ℓ → Prop) : σ → List ℓ → Prop
  | _, [] => True
  | s, l :: ls => P s l ∧ ∀ s', step s l = some s' → Along step P s' ls

variable {step : σ → ℓ → Option σ}

@[simp] theorem run_nil {s : σ} : run step s [] = some s := rfl

@[simp] theorem run_cons {s : σ} {l : ℓ} {ls : List ℓ} :
    run step s (l :: ls) = (step s l).bind fun s' => run step s' ls := rfl

@[simp] theorem along_nil {P : σ → ℓ → Prop} {s : σ} : Along step P s [] := trivial

/-- The first label meets the condition, and the rest of the run does from the state it
leads to. -/
theorem along_cons {P : σ → ℓ → Prop} {s t : σ} {l : ℓ} {ls : List ℓ} (hl : P s l)
    (ht : step s l = some t) (h : Along step P t ls) : Along step P s (l :: ls) :=
  ⟨hl, fun _ hs => Option.some.inj (ht.symm.trans hs) ▸ h⟩

/-- A condition that can be decided in every state can be decided along a run. -/
instance decidableAlong {P : σ → ℓ → Prop} [∀ s l, Decidable (P s l)] :
    (s : σ) → (ls : List ℓ) → Decidable (Along step P s ls)
  | _, [] => .isTrue along_nil
  | s, l :: ls =>
    match ht : step s l with
    | none => decidable_of_iff (P s l)
        ⟨fun hl => ⟨hl, fun _ hs => by cases ht.symm.trans hs⟩, And.left⟩
    | some t =>
      let _ := decidableAlong (P := P) t ls
      decidable_of_iff (P s l ∧ Along step P t ls)
        ⟨fun h => along_cons h.1 ht h.2, fun h => ⟨h.1, h.2 t ht⟩⟩

/-- A condition that the labels of a run meet in every state holds along it. -/
theorem along_of_mem {P : σ → ℓ → Prop} {s : σ} {ls : List ℓ} (h : ∀ s, ∀ l ∈ ls, P s l) :
    Along step P s ls := by
  induction ls generalizing s with
  | nil => exact along_nil
  | cons l ls ih =>
    exact ⟨h s l List.mem_cons_self, fun s' _ => ih fun s k hk => h s k (List.mem_cons_of_mem l hk)⟩

/-- A condition on a whole run is one on its two parts. -/
theorem along_append {P : σ → ℓ → Prop} {s t : σ} {ls ls' : List ℓ}
    (hrun : run step s ls = some t) :
    Along step P s (ls ++ ls') ↔ Along step P s ls ∧ Along step P t ls' := by
  induction ls generalizing s with
  | nil =>
    cases hrun
    exact (and_iff_right along_nil).symm
  | cons l ls ih =>
    obtain ⟨u, hu, hrest⟩ := Option.bind_eq_some_iff.mp hrun
    constructor
    · rintro ⟨hl, hthen⟩
      obtain ⟨hfirst, hsecond⟩ := (ih hrest).mp (hthen u hu)
      exact ⟨along_cons hl hu hfirst, hsecond⟩
    · rintro ⟨⟨hl, hthen⟩, hsecond⟩
      exact along_cons hl hu ((ih hrest).mpr ⟨hthen u hu, hsecond⟩)

/-- Inversion of a nonempty run: its first step, and the run from there. -/
theorem run_cons_eq_some {s s' : σ} {l : ℓ} {ls : List ℓ} :
    run step s (l :: ls) = some s' ↔ ∃ t, step s l = some t ∧ run step t ls = some s' := by
  simp [Option.bind_eq_some_iff]

/-- A run splits at any point. -/
theorem run_append {s : σ} {ls ls' : List ℓ} :
    run step s (ls ++ ls') = (run step s ls).bind fun t => run step t ls' := by
  induction ls generalizing s with
  | nil => rfl
  | cons l ls ih =>
    cases h : step s l with
    | none => simp [h]
    | some t => simp [h, ih]

/-- **Invariant rule**: what every enabled step preserves, every run preserves. -/
theorem run_inv {I : σ → Prop} (hstep : ∀ s l s', I s → step s l = some s' → I s')
    {s s' : σ} {ls : List ℓ} (hrun : run step s ls = some s') (hs : I s) : I s' := by
  induction ls generalizing s with
  | nil => cases hrun; exact hs
  | cons l ls ih =>
    obtain ⟨t, ht, hrest⟩ := run_cons_eq_some.mp hrun
    exact ih hrest (hstep s l t hs ht)

/-- **Conditional invariant rule**: the step only has to preserve `I` under the
condition that every label of the run meets. -/
theorem run_inv_along {I : σ → Prop} {P : σ → ℓ → Prop}
    (hstep : ∀ s l s', I s → P s l → step s l = some s' → I s')
    {s s' : σ} {ls : List ℓ} (hP : Along step P s ls) (hrun : run step s ls = some s')
    (hs : I s) : I s' := by
  induction ls generalizing s with
  | nil => cases hrun; exact hs
  | cons l ls ih =>
    obtain ⟨t, ht, hrest⟩ := run_cons_eq_some.mp hrun
    exact ih (hP.2 t ht) hrest (hstep s l t hs hP.1 ht)

/-- The property holds in every state the run goes through, the first and the last among
them. -/
def Always (step : σ → ℓ → Option σ) (I : σ → Prop) (s : σ) (ls : List ℓ) : Prop :=
  ∀ ks u, ks <+: ls → run step s ks = some u → I u

/-- **Exactness rule**: when `P` is exactly what a label has to meet for its step to keep `I`,
a run goes through states with `I` only exactly when all its labels meet `P`. What always
holds (`J`) may be used on the way. -/
theorem always_iff_along {I J : σ → Prop} {P : σ → ℓ → Prop}
    (hJ : ∀ s l s', J s → step s l = some s' → J s')
    (hI : ∀ s l s', J s → I s → step s l = some s' → (I s' ↔ P s l))
    {s t : σ} {ls : List ℓ} (hrun : run step s ls = some t) (hj : J s) (hi : I s) :
    Always step I s ls ↔ Along step P s ls := by
  induction ls generalizing s with
  | nil =>
    refine ⟨fun _ => along_nil, fun _ ks u hks hu => ?_⟩
    obtain rfl := List.prefix_nil.mp hks
    cases hu
    exact hi
  | cons l ls ih =>
    obtain ⟨u, hu, hrest⟩ := run_cons_eq_some.mp hrun
    have hstep := hI s l u hj hi hu
    constructor
    · intro h
      have hfirst : I u := h [l] u (List.prefix_append [l] ls) (by simp [hu])
      refine along_cons (hstep.mp hfirst) hu ((ih hrest (hJ s l u hj hu) hfirst).mp ?_)
      intro ks v hks hv
      exact h (l :: ks) v ((List.prefix_cons_inj l).mpr hks) (run_cons_eq_some.mpr ⟨u, hu, hv⟩)
    · rintro ⟨hl, hthen⟩ ks v hks hv
      have hfirst : I u := hstep.mpr hl
      cases ks with
      | nil =>
        cases hv
        exact hi
      | cons k ks =>
        obtain ⟨rfl, htail⟩ := List.cons_prefix_cons.mp hks
        obtain ⟨u', hu', hv⟩ := run_cons_eq_some.mp hv
        obtain rfl := Option.some.inj (hu.symm.trans hu')
        exact (ih hrest (hJ s k u hj hu) hfirst).mpr (hthen u hu) ks v htail hv

/-! ## Machines -/

variable {ω : Type w}

/-- The answers to a list of labels, and the state after them. -/
def trace (machine : σ → ℓ → ω × σ) : σ → List ℓ → List ω × σ
  | s, [] => ([], s)
  | s, l :: ls =>
    ((machine s l).1 :: (trace machine (machine s l).2 ls).1, (trace machine (machine s l).2 ls).2)

/-- **Trace rule**: what one step keeps of the answers so far and of the state, a whole
trace keeps. -/
theorem trace_inv (machine : σ → ℓ → ω × σ) {I : List ω → σ → Prop} {s : σ} (hstart : I [] s)
    (hstep : ∀ os t l, I os t → I (os ++ [(machine t l).1]) (machine t l).2) (ls : List ℓ) :
    I (trace machine s ls).1 (trace machine s ls).2 := by
  have hall : ∀ os, I os s → I (os ++ (trace machine s ls).1) (trace machine s ls).2 := by
    clear hstart
    induction ls generalizing s with
    | nil =>
      intro os h
      rw [trace, List.append_nil]
      exact h
    | cons l ls ih =>
      intro os h
      have hrest := ih (s := (machine s l).2) (os ++ [(machine s l).1]) (hstep os s l h)
      rw [List.append_assoc] at hrest
      exact hrest
  exact hall [] hstart

/-- The answers of a trace are those to its labels, one by one. -/
theorem trace_forall₂ (machine : σ → ℓ → ω × σ) (s : σ) (ls : List ℓ) :
    List.Forall₂ (fun l o => ∃ t, o = (machine t l).1) ls (trace machine s ls).1 := by
  induction ls generalizing s with
  | nil => exact .nil
  | cons l ls ih => exact .cons ⟨s, rfl⟩ (ih _)

end Runs
