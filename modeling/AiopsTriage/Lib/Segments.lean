import AiopsTriage.Lib.PyText

/-!
# Texts joined with a separator

A text that is joined from parts can be taken apart at the separator again, but only into
its **segments**: a part that holds the separator is more than one of them. So two lists of
parts are joined to the same text exactly when they have the same segments
(`join_eq_join_iff`), and a list of parts without the separator is found again.
-/

namespace Segments

variable {c : Char}

/-- The segments of a text, `text.split(c)`. -/
def split (c : Char) (s : String) : List (List Char) := s.toList.splitOn c

/-- The text with the segments, `c.join(segments)`. -/
def glue (c : Char) (segments : List (List Char)) : String :=
  String.ofList ([c].intercalate segments)

/-- Segments as a text can have them: some, and none with the separator in it. -/
def Clean (c : Char) (segments : List (List Char)) : Prop :=
  segments ≠ [] ∧ ∀ x ∈ segments, c ∉ x

@[simp] theorem glue_split (s : String) : glue c (split c s) = s := by
  rw [glue, split, List.intercalate_splitOn, String.ofList_toList]

theorem split_glue {segments : List (List Char)} (h : Clean c segments) :
    split c (glue c segments) = segments := by
  rw [split, glue, String.toList_ofList, List.splitOn_intercalate c h.2 h.1]

/-- No segment of a text holds the separator. -/
theorem clean_split (s : String) : Clean c (split c s) := by
  refine ⟨List.splitOn_ne_nil c s.toList, ?_⟩
  have hfree : ∀ cs : List Char, ∀ x ∈ cs.splitOn c, c ∉ x := by
    intro cs
    induction cs with
    | nil => simp
    | cons d cs ih =>
      rw [List.splitOn_cons_eq_if_modifyHead]
      by_cases hd : d = c
      · simpa [hd] using ih
      · rw [if_neg (by simpa using hd)]
        cases hcs : cs.splitOn c with
        | nil => simp
        | cons y ys =>
          rw [hcs] at ih
          simp only [List.modifyHead_cons, List.mem_cons, forall_eq_or_imp] at ih ⊢
          exact ⟨fun hmem => hmem.elim (fun h => hd h.symm) ih.1, ih.2⟩
  exact hfree s.toList

/-- A text with the same segments is the same text. -/
theorem split_injective {s t : String} (h : split c s = split c t) : s = t := by
  rw [← glue_split (c := c) s, h, glue_split]

/-- A text without the separator is its own segment. -/
theorem split_of_notMem {s : String} (h : c ∉ s.toList) : split c s = [s.toList] :=
  List.splitOn_eq_singleton h

/-- A text with the separator has more than one segment. -/
theorem length_split {s : String} : (split c s).length = 1 ↔ c ∉ s.toList := by
  constructor
  · intro h hmem
    obtain ⟨x, hx⟩ := List.length_eq_one_iff.mp h
    have hclean := (clean_split (c := c) s).2 x (by rw [hx]; exact List.mem_singleton_self x)
    have hs : s.toList = x := by
      have hglue := @List.intercalate_splitOn _ s.toList _ _ c
      rw [show s.toList.splitOn c = [x] from hx, List.intercalate_singleton] at hglue
      exact hglue.symm
    exact hclean (hs ▸ hmem)
  · intro h
    rw [split_of_notMem h]
    rfl

/-! ## Joined parts -/

/-- The segments of a joined text are those of its parts. -/
theorem split_join {parts : List String} (h : parts ≠ []) :
    split c (PyText.join (String.singleton c) parts) = parts.flatMap (split c) := by
  induction parts with
  | nil => exact absurd rfl h
  | cons s parts ih =>
    cases parts with
    | nil => simp [PyText.join]
    | cons t rest =>
      rw [PyText.join, List.flatMap_cons, ← ih (List.cons_ne_nil t rest)]
      simp only [split, String.toList_append, String.toList_singleton, List.append_assoc,
        List.singleton_append]
      exact List.splitOn_append_cons_self _ _

/-- **Joining**: two lists of parts give the same text exactly when they have the same
segments. -/
theorem join_eq_join_iff {parts parts' : List String} (h : parts ≠ []) (h' : parts' ≠ []) :
    PyText.join (String.singleton c) parts = PyText.join (String.singleton c) parts' ↔
      parts.flatMap (split c) = parts'.flatMap (split c) := by
  rw [← split_join h, ← split_join h']
  exact ⟨congrArg _, split_injective⟩

/-- A start without the separator belongs to the first segment. -/
theorem split_append {p s : String} (h : c ∉ p.toList) :
    split c (p ++ s) = (split c s).modifyHead (p.toList ++ ·) := by
  rw [split, String.toList_append]
  generalize p.toList = cs at h ⊢
  induction cs with
  | nil =>
    rw [show (([] : List Char) ++ ·) = id from rfl, List.modifyHead_id]
    rfl
  | cons d cs ih =>
    rw [List.mem_cons, not_or] at h
    rw [List.cons_append, List.splitOn_cons_eq_if_modifyHead, if_neg (by simpa using Ne.symm h.1),
      ih h.2, List.modifyHead_modifyHead]
    rfl

/-! ## Two separators -/

/-- A pair is known from its two joins with different separators, whatever its parts hold. -/
theorem append_cons_inj {α : Type*} {a b : α} (hab : a ≠ b) {x x' y y' : List α}
    (ha : x ++ a :: y = x' ++ a :: y') (hb : x ++ b :: y = x' ++ b :: y') : x = x' ∧ y = y' := by
  induction x generalizing x' with
  | nil =>
    cases x' with
    | nil => exact ⟨rfl, (List.cons.inj ha).2⟩
    | cons d x' =>
      -- both separators would stand where the longer part goes on
      have had : a = d := (List.cons.inj ha).1
      have hbd : b = d := (List.cons.inj hb).1
      exact absurd (had.trans hbd.symm) hab
  | cons c x ih =>
    cases x' with
    | nil =>
      have hca : c = a := (List.cons.inj ha).1
      have hcb : c = b := (List.cons.inj hb).1
      exact absurd (hca.symm.trans hcb) hab
    | cons d x' =>
      obtain ⟨hhead, htail⟩ := List.cons.inj ha
      obtain ⟨hx, hy⟩ := ih htail (List.cons.inj hb).2
      exact ⟨by rw [hhead, hx], hy⟩

end Segments
