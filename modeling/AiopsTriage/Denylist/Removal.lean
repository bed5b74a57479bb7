import AiopsTriage.Denylist

/-!
# What the denylist removes

Three things are true of a sanitised mapping. Nothing denied is left in it at any depth
(`exposesFields`). It is what it was made from without entries that are denied, and the
number that is reported is the number of these (`RemovedFields`); what stands inside a
removed entry is not looked at, and so not counted. And a mapping that exposes nothing is
left as it is, so that sanitising twice is sanitising once.
-/

namespace AiopsTriage

section Removal

variable [Platform] (d : DenylistV1)

/-- `apply_denylist_with_removed_count`. -/
def applyDenylistWithRemovedCount (fields : List (String × Json)) : List (String × Json) × Nat :=
  sanitizeMapping d fields

/-- Whether a value is removed: a text that matches a pattern. -/
def DenylistV1.deniesValue : Json → Bool
  | .str s => d.deniesText s
  | _ => false

/-- Whether an entry is removed, for its name or for its value. -/
def DenylistV1.deniesEntry (entry : String × Json) : Bool :=
  d.deniesName entry.1 || d.deniesValue entry.2

mutual

/-- Whether a denied name or text stands anywhere in the tree. -/
def exposesTree : Json → Bool
  | .str s => d.deniesText s
  | .arr xs => exposesTrees xs
  | .obj fs => exposesFields fs
  | _ => false

/-- `exposesTree` on the items of a list. -/
def exposesTrees : List Json → Bool
  | [] => false
  | x :: xs => exposesTree x || exposesTrees xs

/-- `exposesTree` on the entries of a mapping, and their names. -/
def exposesFields : List (String × Json) → Bool
  | [] => false
  | (key, value) :: fs => d.deniesName key || exposesTree value || exposesFields fs

end

mutual

/-- A tree, what is left of it, and how many denied entries were taken out of it. -/
inductive RemovedTree : Json → Json → Nat → Prop
  /-- nothing was -/
  | same (j : Json) : RemovedTree j j 0
  /-- items of a list -/
  | arr {xs ys : List Json} {n : Nat} : RemovedItems xs ys n → RemovedTree (.arr xs) (.arr ys) n
  /-- entries of a mapping -/
  | obj {fs gs : List (String × Json)} {n : Nat} :
      RemovedFields fs gs n → RemovedTree (.obj fs) (.obj gs) n

/-- `RemovedTree` on the items of a list. -/
inductive RemovedItems : List Json → List Json → Nat → Prop
  /-- the end -/
  | nil : RemovedItems [] [] 0
  /-- an item is kept, with what is left of it -/
  | keep {x y : Json} {xs ys : List Json} {m n : Nat} :
      RemovedTree x y m → RemovedItems xs ys n → RemovedItems (x :: xs) (y :: ys) (n + m)
  /-- a denied item is taken out -/
  | drop {x : Json} {xs ys : List Json} {n : Nat} :
      d.deniesValue x = true → RemovedItems xs ys n → RemovedItems (x :: xs) ys (n + 1)

/-- `RemovedTree` on the entries of a mapping. -/
inductive RemovedFields : List (String × Json) → List (String × Json) → Nat → Prop
  /-- the end -/
  | nil : RemovedFields [] [] 0
  /-- an entry is kept under its name, with what is left of its value -/
  | keep {key : String} {x y : Json} {fs gs : List (String × Json)} {m n : Nat} :
      RemovedTree x y m → RemovedFields fs gs n →
        RemovedFields ((key, x) :: fs) ((key, y) :: gs) (n + m)
  /-- a denied entry is taken out -/
  | drop {entry : String × Json} {fs gs : List (String × Json)} {n : Nat} :
      d.deniesEntry entry = true → RemovedFields fs gs n →
        RemovedFields (entry :: fs) gs (n + 1)

end

variable {d}

/-! ## What becomes of a value -/

/-- What is removed is a denied text, and nothing is counted inside it. -/
theorem sanitizeValue_none {j : Json} {n : Nat} (h : sanitizeValue d j = (none, n)) :
    d.deniesValue j = true ∧ n = 0 := by
  cases j with
  | str s =>
    rw [sanitizeValue] at h
    split at h
    · next hs =>
      cases h
      exact ⟨hs, rfl⟩
    · cases h
  | arr xs => rw [sanitizeValue] at h; cases h
  | obj fs => rw [sanitizeValue] at h; cases h
  | _ => rw [sanitizeValue] at h; cases h

mutual

/-- What is kept of a value exposes nothing, and is the value without its denied entries. -/
theorem sanitizeValue_some :
    ∀ {j kept : Json} {n : Nat}, sanitizeValue d j = (some kept, n) →
      exposesTree d kept = false ∧ RemovedTree d j kept n
  | .str s, kept, n, h => by
    rw [sanitizeValue] at h
    split at h
    · cases h
    · next hs =>
      cases h
      exact ⟨Bool.eq_false_iff.mpr hs, .same _⟩
  | .arr xs, kept, n, h => by
    rw [sanitizeValue] at h
    cases h
    obtain ⟨hclean, hremoved⟩ := sanitizeItems_spec xs
    exact ⟨hclean, .arr hremoved⟩
  | .obj fs, kept, n, h => by
    rw [sanitizeValue] at h
    cases h
    obtain ⟨hclean, hremoved⟩ := sanitizeMapping_spec fs
    exact ⟨hclean, .obj hremoved⟩
  | .null, kept, n, h => by cases h; exact ⟨rfl, .same _⟩
  | .bool _, kept, n, h => by cases h; exact ⟨rfl, .same _⟩
  | .int _, kept, n, h => by cases h; exact ⟨rfl, .same _⟩
  | .float _, kept, n, h => by cases h; exact ⟨rfl, .same _⟩

theorem sanitizeItems_spec :
    ∀ xs : List Json, exposesTrees d (sanitizeItems d xs).1 = false ∧
      RemovedItems d xs (sanitizeItems d xs).1 (sanitizeItems d xs).2
  | [] => ⟨rfl, .nil⟩
  | x :: xs => by
    obtain ⟨hclean, hremoved⟩ := sanitizeItems_spec xs
    rw [sanitizeItems]
    rcases hx : sanitizeValue d x with ⟨_ | kept, n⟩
    · obtain ⟨hdenied, rfl⟩ := sanitizeValue_none hx
      exact ⟨hclean, .drop hdenied hremoved⟩
    · obtain ⟨hkept, htree⟩ := sanitizeValue_some hx
      refine ⟨?_, ?_⟩
      · simp only [exposesTrees, hkept, hclean, Bool.or_self]
      · exact .keep htree hremoved

theorem sanitizeMapping_spec :
    ∀ fs : List (String × Json), exposesFields d (sanitizeMapping d fs).1 = false ∧
      RemovedFields d fs (sanitizeMapping d fs).1 (sanitizeMapping d fs).2
  | [] => ⟨rfl, .nil⟩
  | (key, value) :: fs => by
    obtain ⟨hclean, hremoved⟩ := sanitizeMapping_spec fs
    rw [sanitizeMapping]
    by_cases hkey : d.deniesName key = true
    · rw [if_pos hkey]
      refine ⟨hclean, .drop ?_ hremoved⟩
      rw [DenylistV1.deniesEntry, hkey, Bool.true_or]
    · rw [if_neg hkey]
      rcases hvalue : sanitizeValue d value with ⟨_ | kept, n⟩
      · obtain ⟨hdenied, rfl⟩ := sanitizeValue_none hvalue
        refine ⟨hclean, .drop ?_ hremoved⟩
        rw [DenylistV1.deniesEntry, hdenied, Bool.or_true]
      · obtain ⟨hkept, htree⟩ := sanitizeValue_some hvalue
        refine ⟨?_, ?_⟩
        · simp only [exposesFields, Bool.eq_false_iff.mpr hkey, hkept, hclean, Bool.or_self]
        · exact .keep htree hremoved

end

/-! ## What exposes nothing -/

mutual

/-- A value that exposes nothing is kept as it is, and nothing is counted. -/
theorem sanitizeValue_of_clean :
    ∀ {j : Json}, exposesTree d j = false → sanitizeValue d j = (some j, 0)
  | .str s, h => by
    rw [exposesTree] at h
    rw [sanitizeValue, if_neg (Bool.eq_false_iff.mp h)]
  | .arr xs, h => by rw [sanitizeValue, sanitizeItems_of_clean h]
  | .obj fs, h => by rw [sanitizeValue, sanitizeMapping_of_clean h]
  | .null, _ | .bool _, _ | .int _, _ | .float _, _ => rfl

theorem sanitizeItems_of_clean :
    ∀ {xs : List Json}, exposesTrees d xs = false → sanitizeItems d xs = (xs, 0)
  | [], _ => rfl
  | x :: xs, h => by
    rw [exposesTrees, Bool.or_eq_false_iff] at h
    rw [sanitizeItems, sanitizeValue_of_clean h.1, sanitizeItems_of_clean h.2]

theorem sanitizeMapping_of_clean :
    ∀ {fs : List (String × Json)}, exposesFields d fs = false → sanitizeMapping d fs = (fs, 0)
  | [], _ => rfl
  | (key, value) :: fs, h => by
    rw [exposesFields, Bool.or_eq_false_iff, Bool.or_eq_false_iff] at h
    rw [sanitizeMapping, if_neg (Bool.eq_false_iff.mp h.1.1), sanitizeValue_of_clean h.1.2,
      sanitizeMapping_of_clean h.2]

end

/-- **The law of the denylist.** What is left exposes nothing, is the input without the entries
that are denied, as many as are reported, and is left as it is by another round. -/
theorem applyDenylistWithRemovedCount_spec (d : DenylistV1) (fields : List (String × Json)) :
    let result := applyDenylistWithRemovedCount d fields
    exposesFields d result.1 = false ∧ RemovedFields d fields result.1 result.2 ∧
      applyDenylistWithRemovedCount d result.1 = (result.1, 0) := by
  intro result
  obtain ⟨hclean, hremoved⟩ := sanitizeMapping_spec (d := d) fields
  exact ⟨hclean, hremoved, sanitizeMapping_of_clean hclean⟩

end Removal

end AiopsTriage
