import AiopsTriage.Denylist
import AiopsTriage.Lib.PyValue

/-!
# The denylist on Python values

A stage file reaches the denylist as a JSON tree (`AiopsTriage.Denylist`). What a caller
hands to a client is any Python value, in which the same functions meet two things more:
a key that is no text, on which `key.lower()` raises, and a tuple, which is neither
`dict` nor `list` and is kept as it stands, with all that is in it.

So what the denylist denies is gone from a sanitised value except from its tuples
(`exposes_sanitizePyValue`).
-/

namespace AiopsTriage

section Sanitize

variable [Platform] (d : DenylistV1)

/-- `key.lower()` of a key. -/
def loweredKey : PyScalar → Except PyException String
  | .str s => .ok (Platform.lower s)
  | .none => .error (.attributeError "'NoneType' object has no attribute 'lower'")
  | .bool _ => .error (.attributeError "'bool' object has no attribute 'lower'")
  | .int _ => .error (.attributeError "'int' object has no attribute 'lower'")
  | .float _ => .error (.attributeError "'float' object has no attribute 'lower'")
  | .other kind _ => .error (.attributeError s!"'{kind}' object has no attribute 'lower'")

/-- Whether a key is denied; one that is no text never is. -/
def DenylistV1.deniesKey : PyScalar → Bool
  | .str s => d.deniesName s
  | _ => false

mutual

/-- `_sanitize_value` on any value: what is kept of it, if it is kept. -/
def sanitizePyValue : PyValue → Except PyException (Option PyValue)
  | .dict entries => do return some (.dict (← sanitizePyMapping entries))
  | .list items => do return some (.list (← sanitizePyItems items))
  | .scalar (.str s) => return if d.deniesText s then none else some (.str s)
  | value => return some value

/-- `_sanitize_mapping` on any mapping. -/
def sanitizePyMapping :
    List (PyScalar × PyValue) → Except PyException (List (PyScalar × PyValue))
  | [] => return []
  | (key, value) :: rest => do
    let lowered ← loweredKey key
    if (d.deniedFieldNames.map Platform.lower).contains lowered then sanitizePyMapping rest
    else
      match ← sanitizePyValue value with
      | none => sanitizePyMapping rest
      | some kept => return (key, kept) :: (← sanitizePyMapping rest)

/-- The list branch of `_sanitize_value`. -/
def sanitizePyItems : List PyValue → Except PyException (List PyValue)
  | [] => return []
  | item :: rest => do
    match ← sanitizePyValue item with
    | none => sanitizePyItems rest
    | some kept => return kept :: (← sanitizePyItems rest)

end

mutual

/-- Whether a denied name or text stands in the value, outside of its tuples. -/
def exposes : PyValue → Bool
  | .dict entries => exposesEntries entries
  | .list items => exposesItems items
  | .tuple _ => false
  | .scalar (.str s) => d.deniesText s
  | .scalar _ => false

/-- `exposes` on the entries of a mapping. -/
def exposesEntries : List (PyScalar × PyValue) → Bool
  | [] => false
  | (key, value) :: rest => d.deniesKey key || exposes value || exposesEntries rest

/-- `exposes` on the items of a list. -/
def exposesItems : List PyValue → Bool
  | [] => false
  | item :: rest => exposes item || exposesItems rest

end

variable {d}

/-- A key that is lowered is a text. -/
theorem loweredKey_ok {key : PyScalar} {lowered : String} (h : loweredKey key = .ok lowered) :
    ∃ s, key = .str s ∧ lowered = Platform.lower s := by
  cases key with
  | str s =>
    cases h
    exact ⟨s, rfl, rfl⟩
  | _ => cases h

/-- An entry of a name, as far as it is kept. -/
theorem sanitizePyMapping_str {name : String} {value : PyValue}
    {rest : List (PyScalar × PyValue)} :
    sanitizePyMapping d ((.str name, value) :: rest) =
      if d.deniesName name then sanitizePyMapping d rest
      else do
        match ← sanitizePyValue d value with
        | none => sanitizePyMapping d rest
        | some kept => return (.str name, kept) :: (← sanitizePyMapping d rest) := by
  rw [sanitizePyMapping]
  rfl

mutual

/-- **Sanitising**: what is kept of a value exposes nothing outside of its tuples. -/
theorem exposes_sanitizePyValue :
    ∀ {value kept : PyValue}, sanitizePyValue d value = .ok (some kept) → exposes d kept = false
  | .dict entries, kept, h => by
    obtain ⟨rest, hrest, h⟩ := Except.bind_eq_ok.mp h
    cases h
    exact exposesEntries_sanitizePyMapping hrest
  | .list items, kept, h => by
    obtain ⟨rest, hrest, h⟩ := Except.bind_eq_ok.mp h
    cases h
    exact exposesItems_sanitizePyItems hrest
  | .tuple items, kept, h => by
    cases h
    rfl
  | .scalar (.str s), kept, h => by
    rw [sanitizePyValue, Except.pure_eq_ok] at h
    by_cases hs : d.deniesText s = true
    · rw [if_pos hs] at h
      cases h
    · rw [if_neg hs] at h
      cases h
      exact Bool.eq_false_iff.mpr hs
  | .scalar .none, kept, h => by cases h; rfl
  | .scalar (.bool _), kept, h => by cases h; rfl
  | .scalar (.int _), kept, h => by cases h; rfl
  | .scalar (.float _), kept, h => by cases h; rfl
  | .scalar (.other _ _), kept, h => by cases h; rfl

theorem exposesEntries_sanitizePyMapping :
    ∀ {entries kept : List (PyScalar × PyValue)}, sanitizePyMapping d entries = .ok kept →
      exposesEntries d kept = false
  | [], kept, h => by
    cases h
    rfl
  | (key, value) :: rest, kept, h => by
    obtain ⟨lowered, hlowered, h⟩ := Except.bind_eq_ok.mp h
    obtain ⟨name, rfl, rfl⟩ := loweredKey_ok hlowered
    split at h
    · exact exposesEntries_sanitizePyMapping h
    · next hname =>
      obtain ⟨value', hvalue, h⟩ := Except.bind_eq_ok.mp h
      cases value' with
      | none => exact exposesEntries_sanitizePyMapping h
      | some keptValue =>
        obtain ⟨keptRest, hrest, h⟩ := Except.bind_eq_ok.mp h
        cases h
        have hkey : d.deniesKey (.str name) = false := Bool.eq_false_iff.mpr hname
        rw [exposesEntries, hkey, exposes_sanitizePyValue hvalue,
          exposesEntries_sanitizePyMapping hrest]
        rfl

theorem exposesItems_sanitizePyItems :
    ∀ {items kept : List PyValue}, sanitizePyItems d items = .ok kept → exposesItems d kept = false
  | [], kept, h => by
    cases h
    rfl
  | item :: rest, kept, h => by
    obtain ⟨item', hitem, h⟩ := Except.bind_eq_ok.mp h
    cases item' with
    | none => exact exposesItems_sanitizePyItems h
    | some keptItem =>
      obtain ⟨keptRest, hrest, h⟩ := Except.bind_eq_ok.mp h
      cases h
      rw [exposesItems, exposes_sanitizePyValue hitem, exposesItems_sanitizePyItems hrest]
      rfl

end

/-! ## JSON trees among the values -/

mutual

/-- On a JSON tree both readings of the denylist agree. -/
theorem sanitizePyValue_ofJson :
    ∀ j : Json, sanitizePyValue d (.ofJson j) = .ok ((sanitizeValue d j).1.map .ofJson)
  | .null | .bool _ | .int _ | .float _ => rfl
  | .str s => by
    rw [PyValue.ofJson, sanitizePyValue, sanitizeValue]
    split <;> rfl
  | .arr xs => by
    rw [PyValue.ofJson, sanitizePyValue, sanitizePyItems_ofJson xs]
    rfl
  | .obj fs => by
    rw [PyValue.ofJson, sanitizePyValue, sanitizePyMapping_ofJson fs]
    rfl

theorem sanitizePyMapping_ofJson :
    ∀ fs : List (String × Json), sanitizePyMapping d (PyValue.ofFields fs) =
      .ok (PyValue.ofFields (sanitizeMapping d fs).1)
  | [] => rfl
  | (key, value) :: rest => by
    rw [PyValue.ofFields, sanitizePyMapping_str, sanitizePyValue_ofJson value,
      sanitizePyMapping_ofJson rest, sanitizeMapping]
    by_cases hname : d.deniesName key = true
    · rw [if_pos hname, if_pos hname]
    · rw [if_neg hname, if_neg hname]
      rcases sanitizeValue d value with ⟨_ | kept, nested⟩ <;> rfl

theorem sanitizePyItems_ofJson :
    ∀ xs : List Json, sanitizePyItems d (PyValue.ofItems xs) =
      .ok (PyValue.ofItems (sanitizeItems d xs).1)
  | [] => rfl
  | item :: rest => by
    rw [PyValue.ofItems, sanitizePyItems, sanitizePyValue_ofJson item,
      sanitizePyItems_ofJson rest, sanitizeItems]
    rcases sanitizeValue d item with ⟨_ | kept, nested⟩ <;> rfl

end

end Sanitize

end AiopsTriage
