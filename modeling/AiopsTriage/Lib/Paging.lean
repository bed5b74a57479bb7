import Mathlib.Algebra.BigOperators.Group.List.Basic
import Mathlib.Algebra.Group.Action.Defs
import Mathlib.Algebra.Order.Ring.Nat
import Mathlib.Data.List.Induction

/-!
# Reading in pages, writing in batches

A listing is served page by page: a page names the token of the next one, and the last page
names none. A loop that folds a body over the pages does not end by itself, so it is given fuel,
and it returns once the fuel is enough for a listing that ends (`foldPages_of_pages`).

A batcher cuts a list into batches of a given size, the last of which may be shorter
(`chunked`). Nothing is dropped, repeated or reordered (`flatten_chunked`).
-/

universe u v w

namespace Paging

/-! ## Pages -/

variable {τ : Type u} {α : Type v} {σ : Type w}

/-- A page of a listing. -/
structure Page (τ : Type u) (α : Type v) where
  /-- what is on it -/
  items : List α
  /-- the token of the next page, `none` on the last one -/
  next : Option τ

/-- The pages from a token on, when the listing ends. -/
inductive Pages (serve : Option τ → Page τ α) : Option τ → List (List α) → Prop where
  /-- the last page -/
  | last {token : Option τ} (h : (serve token).next = none) :
    Pages serve token [(serve token).items]
  /-- a page that names the next one -/
  | more {token : Option τ} {t : τ} {pages : List (List α)} (h : (serve token).next = some t)
    (rest : Pages serve (some t) pages) : Pages serve token ((serve token).items :: pages)

/-- A body folded over the pages from a token on; `none` when the fuel is used up before the last
page. -/
def foldPages (serve : Option τ → Page τ α) (body : σ → List α → σ) :
    Nat → σ → Option τ → Option σ
  | 0, _, _ => none
  | fuel + 1, s, token =>
    match (serve token).next with
    | none => some (body s (serve token).items)
    | some t => foldPages serve body fuel (body s (serve token).items) (some t)

/-- **A listing that ends**: with fuel for every page, the loop returns the fold. -/
theorem foldPages_of_pages {serve : Option τ → Page τ α} {body : σ → List α → σ}
    {token : Option τ} {pages : List (List α)} (h : Pages serve token pages) {fuel : Nat} {s : σ}
    (hfuel : pages.length ≤ fuel) : foldPages serve body fuel s token = some (pages.foldl body s) := by
  induction h generalizing fuel s with
  | last hlast =>
    cases fuel with
    | zero => cases hfuel
    | succ fuel =>
      rw [foldPages, hlast]
      rfl
  | more hnext _ ih =>
    cases fuel with
    | zero => cases hfuel
    | succ fuel =>
      rw [foldPages, hnext]
      exact ih (Nat.le_of_succ_le_succ hfuel)

/-! ## Batches -/

/-- One value more: it joins the open batch, which is closed when it is full. -/
def addToChunk (size : Nat) (state : List (List α) × List α) (value : α) :
    List (List α) × List α :=
  let chunk := state.2 ++ [value]
  if size ≤ chunk.length then (state.1 ++ [chunk], []) else (state.1, chunk)

/-- A list in batches of a size. -/
def chunked (values : List α) (size : Nat) : List (List α) :=
  let (chunks, chunk) := values.foldl (addToChunk size) ([], [])
  if chunk = [] then chunks else chunks ++ [chunk]

/-- What holds after some values: they are in the batches in order, the closed ones are full and
the open one is not. -/
structure Chunks (size : Nat) (values : List α) (state : List (List α) × List α) : Prop where
  /-- the values are there in order -/
  flatten : state.1.flatten ++ state.2 = values
  /-- a closed batch is full -/
  full : ∀ chunk ∈ state.1, chunk.length = size
  /-- the open one is not -/
  room : state.2.length < size

/-- One value more keeps it. -/
theorem chunks_addToChunk {size : Nat} {values : List α} {state : List (List α) × List α}
    (h : Chunks size values state) (value : α) :
    Chunks size (values ++ [value]) (addToChunk size state value) := by
  have hroom := h.room
  have hlength : (state.2 ++ [value]).length = state.2.length + 1 := by
    rw [List.length_append, List.length_singleton]
  unfold addToChunk
  simp only
  split
  · next hfull =>
    refine ⟨?_, ?_, (Nat.zero_le _).trans_lt hroom⟩
    · rw [List.flatten_concat, List.append_nil, ← List.append_assoc, h.flatten]
    · intro chunk hchunk
      rcases List.mem_append.mp hchunk with hold | hnew
      · exact h.full chunk hold
      · rw [List.mem_singleton.mp hnew]
        omega
  · next hopen =>
    refine ⟨?_, h.full, not_le.mp hopen⟩
    rw [← List.append_assoc, h.flatten]

/-- All of them do. -/
theorem chunks_foldl {size : Nat} (hsize : 0 < size) (values : List α) :
    Chunks size values (values.foldl (addToChunk size) ([], [])) := by
  induction values using List.reverseRecOn with
  | nil => exact ⟨rfl, fun _ h => (by cases h), hsize⟩
  | append_singleton values value ih =>
    rw [List.foldl_append]
    exact chunks_addToChunk ih value

variable {size : Nat} {values : List α}

/-- **Nothing is dropped, repeated or reordered.** -/
theorem flatten_chunked (hsize : 0 < size) : (chunked values size).flatten = values := by
  have h := chunks_foldl hsize values
  unfold chunked
  split
  next chunks chunk hstate =>
  rw [hstate] at h
  have hflatten := h.flatten
  split
  · next hempty =>
    rw [hempty, List.append_nil] at hflatten
    exact hflatten
  · rw [List.flatten_concat]
    exact hflatten

/-- A batch is not empty and no longer than the size. -/
theorem length_of_mem_chunked (hsize : 0 < size) {chunk : List α}
    (hchunk : chunk ∈ chunked values size) : chunk ≠ [] ∧ chunk.length ≤ size := by
  have h := chunks_foldl hsize values
  unfold chunked at hchunk
  split at hchunk
  next chunks last hstate =>
  rw [hstate] at h
  have hfull : ∀ c ∈ chunks, c ≠ [] ∧ c.length ≤ size := by
    intro c hc
    have hlength : c.length = size := h.full c hc
    refine ⟨?_, hlength.le⟩
    rintro rfl
    exact hsize.ne hlength
  split at hchunk
  · exact hfull chunk hchunk
  · next hopen =>
    rcases List.mem_append.mp hchunk with hclosed | hlast
    · exact hfull chunk hclosed
    · rw [List.mem_singleton.mp hlast]
      exact ⟨hopen, le_of_lt h.room⟩

/-- A batch is the last one exactly when what is cut up ends with it. -/
theorem succ_lt_length_chunked (hsize : 0 < size) {n : Nat} :
    n + 1 < (chunked values size).length ↔ (n + 1) * size < values.length := by
  have h := chunks_foldl hsize values
  unfold chunked
  split
  next chunks chunk hstate =>
  rw [hstate] at h
  have htotal : values.length = chunks.length * size + chunk.length := by
    rw [← h.flatten, List.length_append, List.length_flatten,
      List.map_congr_left (g := fun _ => size) h.full, List.map_const', List.sum_replicate,
      smul_eq_mul]
  have hroom : chunk.length < size := h.room
  rw [htotal]
  split
  · next hempty =>
    rw [hempty, List.length_nil, Nat.add_zero]
    exact (Nat.mul_lt_mul_right hsize).symm
  · next hopen =>
    have hpos : 0 < chunk.length := List.length_pos_of_ne_nil hopen
    rw [List.length_append, List.length_singleton]
    constructor
    · intro hn
      have hle : (n + 1) * size ≤ chunks.length * size := Nat.mul_le_mul_right size (by omega)
      omega
    · intro hn
      by_contra hle
      have hmul : (chunks.length + 1) * size ≤ (n + 1) * size :=
        Nat.mul_le_mul_right size (by omega)
      rw [Nat.succ_mul] at hmul
      omega

end Paging
