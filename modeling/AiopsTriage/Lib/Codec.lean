import AiopsTriage.Lib.Dict
import AiopsTriage.Lib.Fallible
import AiopsTriage.Lib.Json

/-!
# Codecs

A **codec** writes a value as a JSON tree and reads it back; that reading undoes
writing is a field of the structure. Records are written field by field in their
declared order and read back by field name (`field` for a field without a default,
`fieldOr` for one with), so the codec of a record is put together from those of its
fields.

An enumeration of texts is a `StrEnum`: a list of its members and the text of each.
-/

universe u

/-- An enumeration whose members are written as texts. -/
class StrEnum (α : Type u) where
  /-- the members, in order -/
  members : List α
  /-- the text of a member -/
  value : α → String
  /-- every value is a member -/
  complete : ∀ a, a ∈ members
  /-- different members have different texts -/
  injective : ∀ a b, value a = value b → a = b

namespace StrEnum

variable {α : Type u} [StrEnum α]

/-- `Enum(text)`: the member with the text. -/
def ofValue? (s : String) : Option α := members.find? fun a => value a == s

theorem ofValue?_eq_some {s : String} {a : α} : ofValue? s = some a ↔ value a = s := by
  constructor
  · intro h
    simpa using List.find?_some h
  · rintro rfl
    cases h : (ofValue? (value a) : Option α) with
    | none =>
      have := List.find?_eq_none.mp h a (complete a)
      simp at this
    | some b =>
      have hb := List.find?_some h
      exact congrArg some (injective b a (by simpa using hb))

@[simp] theorem ofValue?_value (a : α) : ofValue? (value a) = some a :=
  ofValue?_eq_some.mpr rfl

end StrEnum

namespace Json

/-- A decoder reads a tree or names the path of the field it cannot read. -/
abbrev Decoder (α : Type u) := Json → Except (List String) α

/-! ## Fields of a record -/

/-- The entries of an object. -/
def asFields : Decoder (List (String × Json))
  | .obj fs => .ok fs
  | _ => .error []

/-- Put a name before the path of an error. -/
def within {α : Type u} (name : String) : Except (List String) α → Except (List String) α
  | .ok a => .ok a
  | .error path => .error (name :: path)

/-- A field without a default. -/
def field {α : Type u} (fs : List (String × Json)) (name : String) (d : Decoder α) :
    Except (List String) α :=
  match lookup name fs with
  | none => .error [name]
  | some j => within name (d j)

/-- A field with a default. -/
def fieldOr {α : Type u} (fs : List (String × Json)) (name : String) (dflt : α)
    (d : Decoder α) : Except (List String) α :=
  match lookup name fs with
  | none => .ok dflt
  | some j => within name (d j)

@[simp] theorem within_ok {α : Type u} {name : String} {a : α} :
    within name (.ok a) = .ok a := rfl

theorem within_eq_ok {α : Type u} {name : String} {x : Except (List String) α} {a : α} :
    within name x = .ok a ↔ x = .ok a := by
  cases x <;> simp [within]

/-- What it takes for a required field to be read. -/
theorem field_eq_ok {α : Type u} {fs : List (String × Json)} {name : String} {d : Decoder α}
    {a : α} : field fs name d = .ok a ↔ ∃ j, lookup name fs = some j ∧ d j = .ok a := by
  unfold field
  cases h : lookup name fs with
  | none => simp
  | some j => simp [within_eq_ok]

/-- What it takes for a field with a default to be read. -/
theorem fieldOr_eq_ok {α : Type u} {fs : List (String × Json)} {name : String} {dflt : α}
    {d : Decoder α} {a : α} :
    fieldOr fs name dflt d = .ok a ↔
      (lookup name fs = none ∧ dflt = a) ∨ ∃ j, lookup name fs = some j ∧ d j = .ok a := by
  unfold fieldOr
  cases h : lookup name fs with
  | none => simp
  | some j => simp [within_eq_ok]

/-! ## Codecs -/

/-- A way to write values as trees and to read them back. -/
structure Codec (α : Type u) where
  /-- write a value -/
  enc : α → Json
  /-- read a tree -/
  dec : Decoder α
  /-- reading undoes writing -/
  dec_enc : ∀ a, dec (enc a) = .ok a

namespace Codec

attribute [simp] dec_enc

variable {α : Type u}

/-- Texts. -/
def text : Codec String where
  enc := .str
  dec
    | .str s => .ok s
    | _ => .error []
  dec_enc _ := rfl

/-- Booleans. -/
def bool : Codec Bool where
  enc := .bool
  dec
    | .bool b => .ok b
    | _ => .error []
  dec_enc _ := rfl

/-- Integers. -/
def int : Codec Int where
  enc := .int
  dec
    | .int n => .ok n
    | _ => .error []
  dec_enc _ := rfl

/-- Floats; an integer is read as one. -/
def float : Codec PyFloat where
  enc := .float
  dec
    | .float x => .ok x
    | .int n => .ok (.finite n)
    | _ => .error []
  dec_enc _ := rfl

/-- Members of an enumeration. -/
def enum [StrEnum α] : Codec α where
  enc a := .str (StrEnum.value a)
  dec
    | .str s =>
      match StrEnum.ofValue? s with
      | some a => .ok a
      | none => .error []
    | _ => .error []
  dec_enc a := by simp

/-- A literal field: only one text is accepted. -/
def literal (s : String) : Codec Unit where
  enc _ := .str s
  dec
    | .str t => if t = s then .ok () else .error []
    | _ => .error []
  dec_enc _ := by simp

/-- Values that may be `None`; the value itself is never written as `null`. -/
def nullable (c : Codec α) (hnull : ∀ a, c.enc a ≠ .null) : Codec (Option α) where
  enc
    | none => .null
    | some a => c.enc a
  dec
    | .null => .ok none
    | j => some <$> c.dec j
  dec_enc
    | none => rfl
    | some a => by
      have h := hnull a
      split
      · next heq => exact absurd heq h
      · rw [c.dec_enc]
        rfl

/-- Read every item. -/
def decItems (d : Decoder α) : List Json → Except (List String) (List α)
  | [] => .ok []
  | j :: js => do
    let a ← d j
    let as ← decItems d js
    return a :: as

theorem decItems_map {d : Decoder α} {e : α → Json} (h : ∀ a, d (e a) = .ok a) (as : List α) :
    decItems d (as.map e) = .ok as := by
  induction as with
  | nil => rfl
  | cons a as ih =>
    rw [List.map_cons, decItems, h, ih]
    rfl

/-- Lists, and tuples of any length. -/
def list (c : Codec α) : Codec (List α) where
  enc as := .arr (as.map c.enc)
  dec
    | .arr js => decItems c.dec js
    | _ => .error []
  dec_enc as := decItems_map c.dec_enc as

/-- Read the value of every entry. -/
def decFields (d : Decoder α) : List (String × Json) → Except (List String) (List (String × α))
  | [] => .ok []
  | (k, j) :: fs => do
    let a ← within k (d j)
    let rest ← decFields d fs
    return (k, a) :: rest

theorem decFields_map {d : Decoder α} {e : α → Json} (h : ∀ a, d (e a) = .ok a)
    (es : List (String × α)) :
    decFields d (es.map fun p => (p.1, e p.2)) = .ok es := by
  induction es with
  | nil => rfl
  | cons p es ih =>
    rw [List.map_cons, decFields, h, ih]
    rfl

/-- Dictionaries with text keys. -/
def dict (c : Codec α) : Codec (Dict String α) where
  enc d := .obj (d.entries.map fun p => (p.1, c.enc p.2))
  dec
    | .obj fs => Dict.ofPairs <$> decFields c.dec fs
    | _ => .error []
  dec_enc d := by
    have h := congrArg (Dict.ofPairs <$> ·) (decFields_map c.dec_enc d.entries)
    exact h.trans (congrArg Except.ok (Dict.ofPairs_entries d))

/-- Trees, as they are. -/
def any : Codec Json where
  enc j := j
  dec j := .ok j
  dec_enc _ := rfl

/-! ## Codecs and JSON text -/

/-- What the codec writes survives JSON text. -/
def Plain (c : Codec α) : Prop := ∀ a, wire (c.enc a) = c.enc a

theorem plain_text : text.Plain := fun _ => rfl

theorem plain_bool : bool.Plain := fun _ => rfl

theorem plain_int : int.Plain := fun _ => rfl

theorem plain_enum [StrEnum α] : (enum : Codec α).Plain := fun _ => rfl

theorem plain_literal (s : String) : (literal s).Plain := fun _ => rfl

variable {c : Codec α}

theorem Plain.nullable (h : c.Plain) (hnull : ∀ a, c.enc a ≠ .null) : (c.nullable hnull).Plain
  | none => rfl
  | some a => h a

theorem wireItems_map (e : α → Json) (as : List α) :
    wireItems (as.map e) = as.map fun a => wire (e a) := by
  induction as with
  | nil => rfl
  | cons a as ih => rw [List.map_cons, wireItems, ih, List.map_cons]

theorem wireFields_map (e : α → Json) (es : List (String × α)) :
    wireFields (es.map fun p => (p.1, e p.2)) = es.map fun p => (p.1, wire (e p.2)) := by
  induction es with
  | nil => rfl
  | cons p es ih => rw [List.map_cons, wireFields, ih, List.map_cons]

theorem Plain.list (h : c.Plain) : c.list.Plain := by
  intro as
  show wire (.arr (as.map c.enc)) = .arr (as.map c.enc)
  rw [wire, wireItems_map]
  exact congrArg Json.arr (List.map_congr_left fun a _ => h a)

theorem Plain.dict (h : c.Plain) : c.dict.Plain := by
  intro d
  show wire (.obj (d.entries.map fun p => (p.1, c.enc p.2))) = _
  rw [wire, wireFields_map]
  exact congrArg Json.obj (List.map_congr_left fun p _ => congrArg (p.1, ·) (h p.2))

/-- A float survives JSON text when it is finite, and is refused otherwise. -/
theorem float_dec_wire {x y : PyFloat} (h : float.dec (wire (float.enc x)) = .ok y) :
    x.isFinite = true := by
  by_contra hx
  have hnull : wire (float.enc x) = .null := if_neg hx
  rw [hnull] at h
  cases h

/-- A list is read back item by item. -/
theorem decItems_ok {d : Decoder α} {js : List Json} {as : List α} (h : decItems d js = .ok as) :
    List.Forall₂ (fun j a => d j = .ok a) js as := by
  induction js generalizing as with
  | nil =>
    cases h
    exact .nil
  | cons j js ih =>
    obtain ⟨a, ha, h⟩ := Except.bind_eq_ok.mp h
    obtain ⟨rest, hrest, h⟩ := Except.bind_eq_ok.mp h
    cases h
    exact .cons ha (ih hrest)

/-- Every item of a list that is read back after JSON text is. -/
theorem list_dec_wire {as bs : List α} (h : c.list.dec (wire (c.list.enc as)) = .ok bs) :
    ∀ a ∈ as, ∃ b, c.dec (wire (c.enc a)) = .ok b := by
  have hitems : decItems c.dec (as.map fun a => wire (c.enc a)) = .ok bs := by
    rw [← wireItems_map]
    exact h
  intro a ha
  obtain ⟨b, -, hb⟩ :=
    (decItems_ok hitems).exists_of_mem_left (List.mem_map_of_mem ha)
  exact ⟨b, hb⟩

/-- A value that may be `None` is read back after JSON text when it is there. -/
theorem nullable_dec_wire {hnull : ∀ a, c.enc a ≠ .null} {a : α} {b : Option α}
    (hwire : wire (c.enc a) ≠ .null)
    (h : (c.nullable hnull).dec (wire ((c.nullable hnull).enc (some a))) = .ok b) :
    ∃ b', c.dec (wire (c.enc a)) = .ok b' := by
  have hdec : (match wire (c.enc a) with
      | .null => (Except.ok none : Except (List String) (Option α))
      | j => some <$> c.dec j) = .ok b := h
  split at hdec
  · next heq => exact absurd heq hwire
  · obtain ⟨b', hb', -⟩ := Except.bind_eq_ok.mp hdec
    exact ⟨b', hb'⟩

end Codec

/-- A field that is read back after JSON text. -/
theorem field_wire {α : Type u} {fs : List (String × Json)} {name : String} {d : Decoder α}
    {a : α} {j : Json} (h : field (wireFields fs) name d = .ok a) (hj : lookup name fs = some j) :
    d (wire j) = .ok a := by
  obtain ⟨j', hj', hd⟩ := field_eq_ok.mp h
  rw [lookup_wireFields, hj] at hj'
  cases hj'
  exact hd

/-- The same for a field with a default. -/
theorem fieldOr_wire {α : Type u} {fs : List (String × Json)} {name : String} {dflt : α}
    {d : Decoder α} {a : α} {j : Json} (h : fieldOr (wireFields fs) name dflt d = .ok a)
    (hj : lookup name fs = some j) : d (wire j) = .ok a := by
  rcases fieldOr_eq_ok.mp h with ⟨hnone, -⟩ | ⟨j', hj', hd⟩
  · rw [lookup_wireFields, hj] at hnone
    cases hnone
  · rw [lookup_wireFields, hj] at hj'
    cases hj'
    exact hd

end Json
