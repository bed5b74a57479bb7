import AiopsTriage.Lib.Runs
import Mathlib.Logic.Function.Basic

/-!
# Check-then-act on a shared cell

Many operations of one shape share a cell: each first **checks** (reads the cell
into a private view) and later **acts** (updates the cell and answers, on the
strength of the view it took). Each half is atomic, but other clients' halves may
come between them.

A run is an interleaving of halves. It keeps a log of its acts, each with the cell
before and after it and the view it was taken on, so what a run did is said by what
its log holds: every entry is what its act does (`log_performed`), and every act that
is enabled adds one (`step_act`).
-/

universe u v w x y

namespace CheckThenAct

/-- A check-then-act operation on a cell `σ`, with private view `ν`, argument `α`
and answer `ρ`. -/
structure Protocol (σ : Type u) (ν : Type v) (α : Type w) (ρ : Type x) where
  /-- the view the check takes -/
  check : α → σ → ν
  /-- the update and the answer, from the view taken earlier -/
  act : α → ν → σ → σ × ρ

/-- One half of an operation, taken by client `ι`. -/
inductive Label (ι : Type y) (α : Type w) where
  /-- client `i` takes its view -/
  | check (i : ι) (a : α)
  /-- client `i` acts on the view it took -/
  | act (i : ι) (a : α)
  deriving DecidableEq, Repr

/-- The argument of a half. -/
def Label.arg {ι : Type y} {α : Type w} : Label ι α → α
  | .check _ a => a
  | .act _ a => a

/-- What one act did to the cell. -/
structure Done (σ : Type u) (ν : Type v) (α : Type w) (ρ : Type x) where
  /-- the cell before the act -/
  before : σ
  /-- the view the act was taken on -/
  seen : ν
  /-- the argument of the act -/
  arg : α
  /-- the answer -/
  result : ρ
  /-- the cell after the act -/
  after : σ
  deriving DecidableEq, Repr

/-- The shared cell, the views taken and not yet acted on, and the acts so far. -/
structure State (σ : Type u) (ν : Type v) (α : Type w) (ρ : Type x) (ι : Type y) where
  /-- the shared cell -/
  cell : σ
  /-- the view of each client that is between its two halves -/
  pending : ι → Option ν
  /-- the acts so far, oldest first -/
  log : List (Done σ ν α ρ)

namespace Protocol

variable {σ : Type u} {ν : Type v} {α : Type w} {ρ : Type x} {ι : Type y} [DecidableEq ι]
variable (P : Protocol σ ν α ρ)

/-- What an act with a given view does, as a log entry. -/
def perform (a : α) (v : ν) (c : σ) : Done σ ν α ρ where
  before := c
  seen := v
  arg := a
  result := (P.act a v c).2
  after := (P.act a v c).1

/-- One half of one client's operation. A client that already holds a view acts
before it checks again. -/
def step (s : State σ ν α ρ ι) : Label ι α → Option (State σ ν α ρ ι)
  | .check i a =>
    match s.pending i with
    | none => some { s with pending := Function.update s.pending i (some (P.check a s.cell)) }
    | some _ => none
  | .act i a =>
    match s.pending i with
    | none => none
    | some v => some
        { cell := (P.perform a v s.cell).after
          pending := Function.update s.pending i none
          log := s.log ++ [P.perform a v s.cell] }

/-- Nobody has started. -/
def start (c : σ) : State σ ν α ρ ι := ⟨c, fun _ => none, []⟩

variable {P}

/-- What an enabled check does: its client takes a view, and nothing else changes. -/
theorem step_check {s s' : State σ ν α ρ ι} {i : ι} {a : α}
    (h : P.step s (.check i a) = some s') :
    s'.cell = s.cell ∧ s'.log = s.log ∧
      s'.pending = Function.update s.pending i (some (P.check a s.cell)) := by
  cases hi : s.pending i with
  | some v => simp [step, hi] at h
  | none =>
    simp only [step, hi, Option.some.injEq] at h
    subst h
    exact ⟨rfl, rfl, rfl⟩

/-- What an enabled act does, from the view its client took. -/
theorem step_act {s s' : State σ ν α ρ ι} {i : ι} {a : α} (h : P.step s (.act i a) = some s') :
    ∃ v, s.pending i = some v ∧ s'.cell = (P.perform a v s.cell).after ∧
      s'.log = s.log ++ [P.perform a v s.cell] ∧
      s'.pending = Function.update s.pending i none := by
  cases hi : s.pending i with
  | none => simp [step, hi] at h
  | some v =>
    simp only [step, hi, Option.some.injEq] at h
    subst h
    exact ⟨v, rfl, rfl, rfl, rfl⟩

/-- Every entry of the log is what its act does on the view and the cell it had. -/
theorem log_performed {c : σ} {s : State σ ν α ρ ι} {ls : List (Label ι α)}
    (hrun : Runs.run P.step (start c) ls = some s) :
    ∀ d ∈ s.log, d = P.perform d.arg d.seen d.before := by
  refine Runs.run_inv (I := fun s => ∀ d ∈ s.log, d = P.perform d.arg d.seen d.before) ?_ hrun
    (by simp [start])
  intro t l t' ht hstep
  cases l with
  | check i a =>
    rw [(step_check hstep).2.1]
    exact ht
  | act i a =>
    obtain ⟨v, -, -, hlog, -⟩ := step_act hstep
    intro d hd
    rw [hlog, List.mem_append, List.mem_singleton] at hd
    rcases hd with hd | rfl
    · exact ht d hd
    · rfl

end Protocol

end CheckThenAct
