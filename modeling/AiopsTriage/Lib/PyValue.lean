import AiopsTriage.Lib.Dict
import AiopsTriage.Lib.Json
import AiopsTriage.Lib.PyText

/-!
# Python values

The plain values of Python as they are handed from a caller or a YAML file: scalars,
lists, tuples, and dictionaries whose keys are scalars. A tree of JSON values (`Json`)
has neither tuples nor keys that are no texts, and both matter to code that walks such
a value: `isinstance(value, list)` is false of a tuple, and `key.lower()` raises on a
number.
-/

/-- A hashable scalar of Python. -/
inductive PyScalar where
  /-- `None` -/
  | none
  /-- a `bool` -/
  | bool (b : Bool)
  /-- an `int` -/
  | int (n : Int)
  /-- a `float` -/
  | float (x : PyFloat)
  /-- a `str` -/
  | str (s : String)
  /-- any other scalar, such as a `date`, by its type and text -/
  | other (kind text : String)
  deriving DecidableEq, Repr

/-- A Python value. -/
inductive PyValue where
  /-- a scalar -/
  | scalar (x : PyScalar)
  /-- a `list` -/
  | list (items : List PyValue)
  /-- a `tuple` -/
  | tuple (items : List PyValue)
  /-- a `dict`, in insertion order -/
  | dict (entries : List (PyScalar × PyValue))
  deriving Repr

/-- An exception of Python's own operations. -/
inductive PyException where
  /-- `AttributeError` -/
  | attributeError (message : String)
  /-- `TypeError` -/
  | typeError (message : String)
  /-- `ValueError` -/
  | valueError (message : String)
  /-- `OverflowError` -/
  | overflowError (message : String)
  deriving DecidableEq, Repr

namespace PyValue

/-- A text. -/
abbrev str (s : String) : PyValue := .scalar (.str s)

/-- `None`. -/
abbrev none : PyValue := .scalar .none

/-- The entries of a `dict`, `isinstance(value, Mapping)`. -/
def asMapping : PyValue → Option (List (PyScalar × PyValue))
  | .dict entries => some entries
  | _ => Option.none

/-- The items of a `list`, `isinstance(value, list)`. -/
def asList : PyValue → Option (List PyValue)
  | .list items => some items
  | _ => Option.none

/-- The items of a `list` or `tuple`, `isinstance(value, list | tuple)`. -/
def asSequence : PyValue → Option (List PyValue)
  | .list items => some items
  | .tuple items => some items
  | _ => Option.none

/-! ## JSON trees among the values -/

mutual

/-- A JSON tree as a value. -/
def ofJson : Json → PyValue
  | .null => .none
  | .bool b => .scalar (.bool b)
  | .int n => .scalar (.int n)
  | .float x => .scalar (.float x)
  | .str s => .str s
  | .arr xs => .list (ofItems xs)
  | .obj fs => .dict (ofFields fs)

/-- `ofJson` on the items of a list. -/
def ofItems : List Json → List PyValue
  | [] => []
  | x :: xs => ofJson x :: ofItems xs

/-- `ofJson` on the entries of an object. -/
def ofFields : List (String × Json) → List (PyScalar × PyValue)
  | [] => []
  | (key, value) :: rest => (.str key, ofJson value) :: ofFields rest

end

end PyValue
