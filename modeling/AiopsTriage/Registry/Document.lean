import AiopsTriage.Lib.Dict
import AiopsTriage.Lib.Fallible
import AiopsTriage.Lib.PyValue
import AiopsTriage.Platform

/-!
# Registry documents

A registry document is what a YAML file is read as: mappings whose keys are scalars of any
kind, lists and scalars. The loader takes texts, mappings and lists out of it with a few
coercions, which either refuse a value of the wrong kind or read it as empty.

`str`, `repr` and `float` of values that the model does not look into are parameters
(`Builtins`).
-/

namespace AiopsTriage

namespace Registry

/-! ## Errors -/

/-- `TopologyRegistryValidationError`. -/
structure TopologyRegistryValidationError where
  /-- what is wrong -/
  category : String
  /-- in which file -/
  sourcePath : String
  /-- at which key -/
  offendingKey : Option String := none
  /-- and why -/
  detail : String := ""
  deriving DecidableEq, Repr

/-- What a load can raise. -/
inductive LoadFailure where
  /-- the loader refuses the document -/
  | validation (error : TopologyRegistryValidationError)
  /-- an operation of the interpreter raises -/
  | python (error : PyException)
  deriving DecidableEq, Repr

/-- A part of a load. -/
abbrev Load (α : Type) := Except LoadFailure α

/-- `raise TopologyRegistryValidationError(...)`. -/
def reject {α : Type} (category sourcePath : String) (offendingKey : Option String)
    (detail : String) : Load α :=
  .error (.validation { category, sourcePath, offendingKey, detail })

/-- Refuse a document in which something holds. -/
def rejectIf (c : Prop) [Decidable c] (category sourcePath : String) (offendingKey : Option String)
    (detail : String) : Load Unit :=
  if c then reject category sourcePath offendingKey detail else .ok ()

@[simp] theorem reject_ne_ok {α : Type} {category sourcePath detail : String}
    {offendingKey : Option String} {a : α} :
    (reject category sourcePath offendingKey detail : Load α) ≠ .ok a := nofun

@[simp] theorem rejectIf_eq_ok {c : Prop} [Decidable c] {category sourcePath detail : String}
    {offendingKey : Option String} {u : Unit} :
    rejectIf c category sourcePath offendingKey detail = .ok u ↔ ¬c := by
  unfold rejectIf
  split <;> simp_all

/-! ## Texts of values -/

/-- What the interpreter makes of values as a whole. -/
class Builtins where
  /-- `repr(value)` -/
  repr : PyValue → String
  /-- `str(value)` of a list, a tuple or a dictionary -/
  str : PyValue → String
  /-- `float(value)` -/
  float : PyValue → Except PyException PyFloat

/-- The built-ins on values that are no containers: texts without escapes are quoted, and `float`
takes the integers that a float holds exactly. -/
@[reducible] def plainBuiltins : Builtins where
  repr
    | .scalar (.str s) => PyText.join s ["'", "'"]
    | .scalar (.int n) => toString n
    | _ => ""
  str _ := ""
  float
    | .scalar (.float x) => .ok x
    | .scalar (.int n) => .ok (.finite n)
    | .scalar (.bool b) => .ok (.finite (if b then 1 else 0))
    | _ => .error (.typeError "float() argument must be a string or a real number")

/-- `str(x)` of a scalar. -/
def scalarText [Platform] : PyScalar → String
  | .none => pyStr .null
  | .bool b => pyStr (.bool b)
  | .int n => pyStr (.int n)
  | .float x => pyStr (.float x)
  | .str s => s
  | .other _ text => text

/-- `str(value)`. -/
def valueText [Platform] [Builtins] : PyValue → String
  | .scalar x => scalarText x
  | value => Builtins.str value

/-! ## Coercions -/

/-- The entries of a mapping. -/
abbrev Entries := List (PyScalar × PyValue)

/-- `mapping.get(key)`, with `None` where there is nothing. -/
def get (entries : Entries) (key : String) : PyValue :=
  (Dict.find (.str key) entries).getD .none

/-- `mapping.get(key, default)`. -/
def getOr (entries : Entries) (key : String) (dflt : PyValue) : PyValue :=
  (Dict.find (.str key) entries).getD dflt

/-- `value.strip()`, if that leaves anything. -/
def trimmed (s : String) : Option String := if PyText.isBlank s then none else some (PyText.strip s)

section Coercions

variable (sourcePath category offendingKey : String)

/-- `_require_non_empty_string`. -/
def requireNonEmptyString : PyValue → Load String
  | .scalar (.str s) =>
    match trimmed s with
    | some text => .ok text
    | none => reject category sourcePath (some offendingKey) "expected non-empty string"
  | _ => reject category sourcePath (some offendingKey) "expected non-empty string"

/-- `_optional_string`. -/
def optionalString : PyValue → Load (Option String)
  | .scalar .none => .ok none
  | .scalar (.str s) => .ok (trimmed s)
  | _ => reject category sourcePath (some offendingKey) "expected string-compatible value"

/-- One entry of `_coerce_string_mapping`. -/
def coerceStringEntry : PyScalar × PyValue → Load (String × String)
  | (.str rawKey, rawValue) =>
    match trimmed rawKey with
    | none => reject category sourcePath (some offendingKey)
        "topics mapping keys must be non-empty strings"
    | some key =>
      match rawValue with
      | .scalar (.str s) =>
        match trimmed s with
        | some value => .ok (key, value)
        | none => reject category sourcePath (some s!"{offendingKey}.{rawKey}")
            "topics mapping values must be non-empty strings"
      | _ => reject category sourcePath (some s!"{offendingKey}.{rawKey}")
          "topics mapping values must be non-empty strings"
  | _ => reject category sourcePath (some offendingKey)
      "topics mapping keys must be non-empty strings"

/-- `_coerce_string_mapping`. -/
def coerceStringMapping : PyValue → Load (Dict String String)
  | .scalar .none => .ok .empty
  | .dict entries => do
    let pairs ← entries.mapM (coerceStringEntry sourcePath category offendingKey)
    return .ofPairs pairs
  | _ => reject category sourcePath (some offendingKey)
      "expected mapping of non-empty string keys to non-empty string values"

variable [Platform] [Builtins]

/-- `_coerce_optional_float`. -/
def coerceOptionalFloat : PyValue → Load (Option PyFloat)
  | .scalar .none => .ok none
  | value =>
    match Builtins.float value with
    | .ok x => .ok (some x)
    | .error (.typeError _) | .error (.valueError _) =>
      reject category sourcePath (some offendingKey) "expected float-compatible value"
    | .error e => .error (.python e)

end Coercions

section Lenient

variable [Platform]

/-- `{str(k): v for k, v in value.items()}`. -/
def textKeys (entries : Entries) : Dict String PyValue :=
  .ofPairs (entries.map fun e => (scalarText e.1, e.2))

/-- `_coerce_mapping`. -/
def coerceMapping (value : PyValue) : Dict String PyValue :=
  match value.asMapping with
  | some entries => textKeys entries
  | none => .empty

/-- `_coerce_optional_mapping`. -/
def coerceOptionalMapping (value : PyValue) : Option (Dict String PyValue) :=
  value.asMapping.map textKeys

/-- `_coerce_mapping_list`. -/
def coerceMappingList (value : PyValue) : List (Dict String PyValue) :=
  match value.asSequence with
  | some items => items.filterMap fun item => item.asMapping.map textKeys
  | none => []

/-- `_coerce_string_tuple`. -/
def coerceStringTuple [Builtins] : PyValue → List String
  | .scalar (.str s) => [s]
  | .list items => items.map valueText
  | .tuple items => items.map valueText
  | _ => []

end Lenient

end Registry

end AiopsTriage
