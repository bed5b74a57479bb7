import AiopsTriage.Lib.Codec
import AiopsTriage.Platform

/-!
# Exposure denylist

One function enforces the denylist at every boundary: it walks the tree, drops
entries whose name is denied (whatever the case) and texts that match a denied
pattern, and keeps everything else in order. It also counts what it dropped.

The lookup lemma (`lookup_sanitizeMapping`) says what is left of a field of a record:
nothing, or its value sanitised.
-/

namespace AiopsTriage

/-- `DenylistV1`, as far as enforcement and version stamps read it. -/
structure DenylistV1 where
  /-- the version stamped into every casefile -/
  denylistVersion : String
  /-- names of fields to remove, whatever their case -/
  deniedFieldNames : List String
  /-- patterns of texts to remove -/
  deniedValuePatterns : List String
  /-- `min_length=1` -/
  version_ne : denylistVersion ≠ ""
  deriving DecidableEq, Repr

/-- The version of the denylists that are used as examples. -/
theorem v1_ne : "v1" ≠ "" := by decide

section Sanitize

variable [Platform] (d : DenylistV1)

/-- `key.lower() in denied_names_lower`. -/
def DenylistV1.deniesName (key : String) : Bool :=
  (d.deniedFieldNames.map Platform.lower).contains (Platform.lower key)

/-- `any(pattern.search(value) for pattern in compiled_patterns)`. -/
def DenylistV1.deniesText (value : String) : Bool :=
  d.deniedValuePatterns.any fun pattern => Platform.search pattern value

mutual

/-- `_sanitize_value`: the value to keep, if it is kept, and the entries removed
inside it. -/
def sanitizeValue : Json → Option Json × Nat
  | .obj fs => (some (.obj (sanitizeMapping fs).1), (sanitizeMapping fs).2)
  | .arr xs => (some (.arr (sanitizeItems xs).1), (sanitizeItems xs).2)
  | .str s => if d.deniesText s then (none, 0) else (some (.str s), 0)
  | .null => (some .null, 0)
  | .bool b => (some (.bool b), 0)
  | .int n => (some (.int n), 0)
  | .float x => (some (.float x), 0)

/-- `_sanitize_mapping`: the entries kept, and the number removed. -/
def sanitizeMapping : List (String × Json) → List (String × Json) × Nat
  | [] => ([], 0)
  | (key, value) :: rest =>
    if d.deniesName key then
      ((sanitizeMapping rest).1, (sanitizeMapping rest).2 + 1)
    else
      match sanitizeValue value with
      | (none, nested) => ((sanitizeMapping rest).1, (sanitizeMapping rest).2 + (1 + nested))
      | (some kept, nested) =>
        ((key, kept) :: (sanitizeMapping rest).1, (sanitizeMapping rest).2 + nested)

/-- The list branch of `_sanitize_value`. -/
def sanitizeItems : List Json → List Json × Nat
  | [] => ([], 0)
  | item :: rest =>
    match sanitizeValue item with
    | (none, nested) => ((sanitizeItems rest).1, (sanitizeItems rest).2 + (1 + nested))
    | (some kept, nested) => (kept :: (sanitizeItems rest).1, (sanitizeItems rest).2 + nested)

end

/-- `apply_denylist`. -/
def applyDenylist (fields : List (String × Json)) : List (String × Json) :=
  (sanitizeMapping d fields).1

/-- What is left of a tree that a record holds in a field, when it is left at all. -/
def sanitized (j : Json) : Option Json := (sanitizeValue d j).1

variable {d}

theorem sanitized_obj {fs : List (String × Json)} :
    sanitized d (.obj fs) = some (.obj (applyDenylist d fs)) := by
  rw [sanitized, sanitizeValue]
  rfl

theorem sanitized_arr {xs : List Json} :
    sanitized d (.arr xs) = some (.arr (xs.filterMap (sanitized d))) := by
  have hitems : (sanitizeItems d xs).1 = xs.filterMap (sanitized d) := by
    induction xs with
    | nil => rfl
    | cons x xs ih =>
      rw [sanitizeItems, List.filterMap_cons, ← ih, sanitized]
      rcases sanitizeValue d x with ⟨_ | kept, nested⟩ <;> rfl
  rw [sanitized, sanitizeValue, hitems]

theorem sanitized_str {s : String} :
    sanitized d (.str s) = if d.deniesText s then none else some (.str s) := by
  rw [sanitized, sanitizeValue]
  split <;> rfl

@[simp] theorem sanitized_bool {b : Bool} : sanitized d (.bool b) = some (.bool b) := rfl

@[simp] theorem sanitized_null : sanitized d .null = some .null := rfl

@[simp] theorem sanitized_int {n : Int} : sanitized d (.int n) = some (.int n) := rfl

@[simp] theorem sanitized_float {x : PyFloat} : sanitized d (.float x) = some (.float x) := rfl

/-- The entries that are kept, in order. -/
theorem applyDenylist_eq {fs : List (String × Json)} :
    applyDenylist d fs = fs.filterMap fun f =>
      if d.deniesName f.1 then none else (sanitized d f.2).map (f.1, ·) := by
  induction fs with
  | nil => rfl
  | cons f fs ih =>
    obtain ⟨key, value⟩ := f
    rw [List.filterMap_cons, ← ih, applyDenylist, sanitizeMapping]
    by_cases hkey : d.deniesName key
    · rw [if_pos hkey, if_pos hkey]
      rfl
    · rw [if_neg hkey, if_neg hkey, sanitized]
      rcases sanitizeValue d value with ⟨_ | kept, nested⟩ <;> rfl

/-- **Lookup lemma**: a field of a record without repeated names is gone, or holds
what is left of its value. -/
theorem lookup_applyDenylist {fs : List (String × Json)} (hnodup : (fs.map Prod.fst).Nodup)
    {key : String} :
    Json.lookup key (applyDenylist d fs) =
      if d.deniesName key then none else (Json.lookup key fs).bind (sanitized d) := by
  rw [applyDenylist_eq]
  induction fs with
  | nil => simp
  | cons f fs ih =>
    obtain ⟨k, v⟩ := f
    rw [List.map_cons, List.nodup_cons] at hnodup
    have ih := ih hnodup.2
    rw [List.filterMap_cons]
    by_cases hk : k = key
    · subst hk
      have hgone : Json.lookup k fs = none := Json.lookup_eq_none hnodup.1
      rw [hgone] at ih
      by_cases hdenied : d.deniesName k
      · simpa [hdenied] using ih
      · cases hv : sanitized d v with
        | none => simpa [hdenied, hv] using ih
        | some kept => simp [hdenied, hv]
    · by_cases hdenied : d.deniesName k
      · simpa [hdenied, hk] using ih
      · cases hv : sanitized d v with
        | none => simpa [hdenied, hv, hk] using ih
        | some kept => simpa [hdenied, hv, hk] using ih

/-- A denylist under which nothing is ever removed. -/
def DenylistV1.RemovesNothing (d : DenylistV1) : Prop :=
  ∀ fields, applyDenylist d fields = fields

/-- No name and no text is denied. -/
def DenylistV1.DeniesNothing (d : DenylistV1) : Prop :=
  (∀ key, d.deniesName key = false) ∧ ∀ text, d.deniesText text = false

mutual

theorem sanitizeValue_eq_self (h : d.DeniesNothing) : ∀ j : Json, (sanitizeValue d j).1 = some j
  | .null | .bool _ | .int _ | .float _ => rfl
  | .str s => by rw [sanitizeValue, if_neg (Bool.eq_false_iff.mp (h.2 s))]
  | .arr xs => by rw [sanitizeValue, sanitizeItems_eq_self h xs]
  | .obj fs => by rw [sanitizeValue, sanitizeMapping_eq_self h fs]

theorem sanitizeMapping_eq_self (h : d.DeniesNothing) :
    ∀ fs : List (String × Json), (sanitizeMapping d fs).1 = fs
  | [] => rfl
  | (key, value) :: rest => by
    have hvalue := sanitizeValue_eq_self h value
    rw [sanitizeMapping, if_neg (Bool.eq_false_iff.mp (h.1 key))]
    rcases hkept : sanitizeValue d value with ⟨_ | kept, nested⟩
    · rw [hkept] at hvalue
      cases hvalue
    · rw [hkept] at hvalue
      cases hvalue
      simp only [sanitizeMapping_eq_self h rest]

theorem sanitizeItems_eq_self (h : d.DeniesNothing) :
    ∀ xs : List Json, (sanitizeItems d xs).1 = xs
  | [] => rfl
  | item :: rest => by
    have hitem := sanitizeValue_eq_self h item
    rw [sanitizeItems]
    rcases hkept : sanitizeValue d item with ⟨_ | kept, nested⟩
    · rw [hkept] at hitem
      cases hitem
    · rw [hkept] at hitem
      cases hitem
      simp only [sanitizeItems_eq_self h rest]

end

/-- A denylist removes nothing exactly when it denies nothing. -/
theorem removesNothing_iff : d.RemovesNothing ↔ d.DeniesNothing := by
  constructor
  · intro h
    have hname : ∀ key, d.deniesName key = false := by
      intro key
      have hkey := h [(key, .null)]
      cases hdenied : d.deniesName key with
      | false => rfl
      | true => simp [applyDenylist_eq, hdenied] at hkey
    refine ⟨hname, fun text => ?_⟩
    have htext := h [("", .str text)]
    cases hdenied : d.deniesText text with
    | false => rfl
    | true => simp [applyDenylist_eq, hname, sanitized_str, hdenied] at htext
  · exact fun h fields => sanitizeMapping_eq_self h fields

end Sanitize

end AiopsTriage
