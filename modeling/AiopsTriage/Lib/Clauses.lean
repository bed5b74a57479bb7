import AiopsTriage.Lib.Segments

/-!
# Texts of clauses

A search text in disjunctive form: a separator stands between the conditions of a clause, and the
separator with a mark behind it between the clauses (`render`). Its reader splits the text at the
separator and starts a new clause at each segment that begins with the mark (`read`).

The reader finds the clauses that were written, when none of their conditions holds the separator
or begins with the mark (`read_render`).
-/

namespace Clauses

variable {sep : Char} {mark : List Char}

/-- The text of some clauses. -/
def render (sep : Char) (mark : String) (clauses : List (List String)) : String :=
  PyText.join (String.singleton sep ++ mark) (clauses.map (PyText.join (String.singleton sep)))

/-- Segments put together to clauses: one that begins with the mark starts a new clause. -/
def gather (mark : List Char) : List (List Char) → List (List (List Char))
  | [] => [[]]
  | x :: xs =>
    match gather mark xs with
    | [] => [[x]]
    | clause :: clauses =>
      if mark.isPrefixOf x then [] :: (x.drop mark.length :: clause) :: clauses
      else (x :: clause) :: clauses

/-- The clauses of a text. -/
def read (sep : Char) (mark : String) (text : String) : List (List String) :=
  (gather mark.toList (Segments.split sep text)).map (List.map String.ofList)

/-- A clause that can be read back: some conditions, without the separator in them or the mark at
their start. -/
def Readable (sep : Char) (mark : String) (clause : List String) : Prop :=
  clause ≠ [] ∧ ∀ s ∈ clause, sep ∉ s.toList ∧ ¬ mark.toList <+: s.toList

/-! ## Gathering -/

/-- Segments without the mark join the clause behind them. -/
theorem gather_append {xs ys : List (List Char)} {clause : List (List Char)}
    {clauses : List (List (List Char))} (hxs : ∀ x ∈ xs, ¬ mark <+: x)
    (hys : gather mark ys = clause :: clauses) :
    gather mark (xs ++ ys) = (xs ++ clause) :: clauses := by
  induction xs with
  | nil => exact hys
  | cons x xs ih =>
    have hx : mark.isPrefixOf x = false := by
      rw [← Bool.not_eq_true, List.isPrefixOf_iff_prefix]
      exact hxs x List.mem_cons_self
    rw [List.cons_append, gather, ih fun y hy => hxs y (List.mem_cons_of_mem x hy)]
    simp [hx]

/-- A marked clause stands for itself, and closes the one before. -/
theorem gather_marked {x : List Char} {xs ys : List (List Char)} {clause : List (List Char)}
    {clauses : List (List (List Char))} (hxs : ∀ y ∈ xs, ¬ mark <+: y)
    (hys : gather mark ys = clause :: clauses) :
    gather mark ((mark ++ x) :: xs ++ ys) = [] :: (x :: (xs ++ clause)) :: clauses := by
  have hmark : mark.isPrefixOf (mark ++ x) = true :=
    List.isPrefixOf_iff_prefix.mpr (List.prefix_append mark x)
  rw [List.cons_append, gather, gather_append hxs hys]
  simp [hmark]

/-- The segments that some clauses are written in. -/
def segments (mark : List Char) : List (List (List Char)) → List (List Char)
  | [] => []
  | clause :: clauses => clause ++ clauses.flatMap fun c => c.modifyHead (mark ++ ·)

/-- The clauses after the first are read back, behind a clause that is still empty. -/
theorem gather_flatMap {clauses : List (List (List Char))}
    (h : ∀ c ∈ clauses, c ≠ [] ∧ ∀ x ∈ c, ¬ mark <+: x) :
    gather mark (clauses.flatMap fun c => c.modifyHead (mark ++ ·)) = [] :: clauses := by
  induction clauses with
  | nil => rfl
  | cons c clauses ih =>
    obtain ⟨hne, hplain⟩ := h c List.mem_cons_self
    obtain ⟨x, xs, rfl⟩ := List.exists_cons_of_ne_nil hne
    have hrest := ih fun c' hc' => h c' (List.mem_cons_of_mem _ hc')
    rw [List.flatMap_cons, List.modifyHead_cons,
      gather_marked (fun y hy => hplain y (List.mem_cons_of_mem x hy)) hrest, List.append_nil]

/-- Clauses are gathered from their segments. -/
theorem gather_segments {clauses : List (List (List Char))} (hne : clauses ≠ [])
    (h : ∀ c ∈ clauses, c ≠ [] ∧ ∀ x ∈ c, ¬ mark <+: x) :
    gather mark (segments mark clauses) = clauses := by
  obtain ⟨c, clauses, rfl⟩ := List.exists_cons_of_ne_nil hne
  have hrest := gather_flatMap fun c' hc' => h c' (List.mem_cons_of_mem c hc')
  rw [segments, gather_append (h c List.mem_cons_self).2 hrest, List.append_nil]

/-! ## Rendering -/

/-- A text joined with more than the separator is one joined with the separator alone. -/
theorem join_singleton_append {t : String} {part : String} {parts : List String} :
    PyText.join (String.singleton sep ++ t) (part :: parts) =
      PyText.join (String.singleton sep) (part :: parts.map (t ++ ·)) := by
  induction parts generalizing part with
  | nil => rfl
  | cons next parts ih =>
    -- the added text goes to the start of the next part
    have hstart : ∀ s : String, PyText.join (String.singleton sep) ((t ++ s) :: parts.map (t ++ ·)) =
        t ++ PyText.join (String.singleton sep) (s :: parts.map (t ++ ·)) := by
      intro s
      cases parts with
      | nil => rfl
      | cons _ _ => simp only [List.map_cons, PyText.join, String.append_assoc]
    rw [PyText.join, ih, List.map_cons, PyText.join, hstart]
    simp only [String.append_assoc]

/-- The segments of a clause are its conditions. -/
theorem split_join_clause {mark : String} {clause : List String} (h : Readable sep mark clause) :
    Segments.split sep (PyText.join (String.singleton sep) clause) =
      clause.map String.toList := by
  rw [Segments.split_join h.1, List.flatMap_congr fun s hs =>
    Segments.split_of_notMem (h.2 s hs).1, ← List.map_eq_flatMap]

/-- The segments of a text of clauses. -/
theorem split_render {mark : String} {clauses : List (List String)} (hmark : sep ∉ mark.toList)
    (hne : clauses ≠ []) (h : ∀ c ∈ clauses, Readable sep mark c) :
    Segments.split sep (render sep mark clauses) =
      segments mark.toList (clauses.map (List.map String.toList)) := by
  obtain ⟨c, clauses, rfl⟩ := List.exists_cons_of_ne_nil hne
  rw [render, List.map_cons, join_singleton_append, Segments.split_join (List.cons_ne_nil _ _),
    List.flatMap_cons, split_join_clause (h c List.mem_cons_self), List.map_cons, segments,
    List.map_map, List.flatMap_map, List.flatMap_map]
  refine congrArg _ (List.flatMap_congr fun c' hc' => ?_)
  rw [Function.comp_apply, Segments.split_append hmark,
    split_join_clause (h c' (List.mem_cons_of_mem c hc'))]

/-- **Round trip**: a reader finds the clauses that were written. -/
theorem read_render {mark : String} {clauses : List (List String)} (hmark : sep ∉ mark.toList)
    (hne : clauses ≠ []) (h : ∀ c ∈ clauses, Readable sep mark c) :
    read sep mark (render sep mark clauses) = clauses := by
  have hclauses : ∀ c ∈ clauses.map (List.map String.toList), c ≠ [] ∧
      ∀ x ∈ c, ¬ mark.toList <+: x := by
    intro c hc
    obtain ⟨clause, hclause, rfl⟩ := List.mem_map.mp hc
    refine ⟨fun hnil => (h clause hclause).1 (List.map_eq_nil_iff.mp hnil), fun x hx => ?_⟩
    obtain ⟨s, hs, rfl⟩ := List.mem_map.mp hx
    exact ((h clause hclause).2 s hs).2
  rw [read, split_render hmark hne h,
    gather_segments (fun hnil => hne (List.map_eq_nil_iff.mp hnil)) hclauses, List.map_map]
  refine (List.map_congr_left fun c _ => ?_).trans (List.map_id clauses)
  rw [Function.comp_apply, List.map_map]
  refine (List.map_congr_left fun s _ => ?_).trans (List.map_id c)
  exact String.ofList_toList

end Clauses
