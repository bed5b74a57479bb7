import AiopsTriage.Lib.Json
import AiopsTriage.Lib.PyText
import Mathlib.Data.List.Sort
import Mathlib.Data.Nat.Digits.Lemmas

/-!
# The interpreter the pipeline runs on

What the pipeline takes from outside its own source, as one class: the digest of
`hashlib`, the Unicode case tables, the regular-expression engine and the text of
a timestamp. Every definition and theorem holds for every such **platform**; the
laws a platform keeps are fields of the class.

Beside it stand the two kinds of value that all modules share: exceptions
(`Failure`) and timestamps (`Instant`, `DateTime`).
-/

namespace AiopsTriage

/-! ## Timestamps -/

/-- A point in time: microseconds since the epoch, UTC. -/
abbrev Instant := Int

/-- The first instant a `datetime` can hold, `0001-01-01T00:00:00Z`. -/
def minInstant : Instant := -62135596800000000

/-- The last instant a `datetime` can hold, `9999-12-31T23:59:59.999999Z`. -/
def maxInstant : Instant := 253402300799999999

/-- A `datetime` argument: with a time zone, or naive. -/
inductive DateTime where
  /-- an aware value -/
  | aware (t : Instant)
  /-- a value whose `tzinfo` is `None` -/
  | naive (t : Instant)
  deriving DecidableEq, Repr

/-! ## Python texts in messages -/

/-- `repr` of a text without quotes in it. -/
def reprText (s : String) : String := "'" ++ s ++ "'"

/-- `repr` of a tuple of such texts. -/
def reprTuple : List String → String
  | [] => "()"
  | [s] => "(" ++ reprText s ++ ",)"
  | ss => "(" ++ PyText.join ", " (ss.map reprText) ++ ")"

/-- `sorted` of a set of such texts. -/
def reprSorted (ss : List String) : String :=
  "[" ++ PyText.join ", " ((ss.insertionSort (· ≤ ·)).map reprText) ++ "]"

/-! ## Exceptions -/

/-- The exceptions the modelled code raises or lets through, with their texts. -/
inductive Failure where
  /-- `ValueError` -/
  | valueError (message : String)
  /-- `KeyError` -/
  | keyError (message : String)
  /-- `IndexError` -/
  | indexError (message : String)
  /-- `OverflowError` of `datetime` arithmetic -/
  | overflowError
  /-- a pydantic `ValidationError`, with the model and the path of the field -/
  | validationError (model : String) (path : List String)
  /-- an `SQLAlchemyError`, with the constraint or column it names -/
  | databaseError (what : String)
  /-- `InvariantViolation` -/
  | invariantViolation (message : String)
  /-- `IntegrationError` -/
  | integrationError (message : String)
  /-- `ObjectNotFoundError` of the object store -/
  | objectNotFound (key : String)
  /-- `CriticalDependencyError`, wrapped around its cause -/
  | criticalDependency (context : String) (cause : Failure)
  /-- an exception of a client library, with its text -/
  | clientError (message : String)
  deriving DecidableEq, Repr

namespace Failure

/-- `isinstance(exc, (CriticalDependencyError, InvariantViolation))`: what the
repositories let through as it is. -/
def passesRepository : Failure → Bool
  | criticalDependency _ _ => true
  | invariantViolation _ => true
  | _ => false

end Failure

/-! ## The platform -/

/-- A byte string, by what it encodes: the UTF-8 text of a string, or the JSON text
pydantic writes for a tree. Equal trees are written as equal bytes, and different
trees that JSON text can hold as different bytes. -/
inductive Bytes where
  /-- `text.encode("utf-8")` -/
  | utf8 (text : String)
  /-- `model.model_dump_json().encode("utf-8")` -/
  | json (tree : Json)
  deriving DecidableEq, Repr

/-- A digest of SHA-256: 32 bytes. -/
abbrev Digest := Vector (Fin 256) 32

/-- What the interpreter and its libraries supply. -/
class Platform where
  /-- `hashlib.sha256(payload).digest()` -/
  sha256 : Bytes → Digest
  /-- `str.lower()` -/
  lower : String → String
  /-- `str.upper()` -/
  upper : String → String
  /-- `re.search(pattern, text) is not None` -/
  search : String → String → Bool
  /-- `str(value)` of a float, a list or a dictionary -/
  str : Json → String
  /-- `json.dumps(value, sort_keys=True, separators=(",", ":"), default=str)` -/
  dumps : Json → String
  /-- the text pydantic writes for an aware UTC `datetime` -/
  isoformat : Instant → String
  /-- the instant of an ISO text, `none` when it does not parse -/
  parseIso : String → Option Instant
  /-- on ASCII text `str.lower` is the ASCII one -/
  lower_ascii : ∀ s, PyText.isAscii s → lower s = s.map Char.toLower
  /-- on ASCII text `str.upper` is the ASCII one -/
  upper_ascii : ∀ s, PyText.isAscii s → upper s = s.map Char.toUpper
  /-- a written timestamp parses back -/
  parseIso_isoformat : ∀ t, parseIso (isoformat t) = some t

/-- The two lowercase hex digits of a byte. -/
def hexByte (b : Fin 256) : List Char :=
  [Nat.digitChar (b.val / 16), Nat.digitChar (b.val % 16)]

/-- `digest.hex()`. -/
def hexDigest (d : Digest) : String := String.ofList (d.toList.flatMap hexByte)

/-- `re.compile(r"^[0-9a-f]{64}$").fullmatch(value)`: the shape of a stored hash. -/
def isHex64 (s : String) : Bool :=
  s.toList.length == 64 &&
    s.toList.all fun c => (48 ≤ c.toNat && c.toNat ≤ 57) || (97 ≤ c.toNat && c.toNat ≤ 102)

/-- A hash in a stored record. -/
abbrev Hex64 := { s : String // isHex64 s = true }

theorem isHex64_hexDigest (d : Digest) : isHex64 (hexDigest d) = true := by
  have hlength : ∀ bs : List (Fin 256), (bs.flatMap hexByte).length = 2 * bs.length := by
    intro bs
    induction bs with
    | nil => rfl
    | cons b bs ih =>
      rw [List.flatMap_cons, List.length_append, ih, List.length_cons]
      simp only [hexByte, List.length_cons, List.length_nil]
      omega
  have hdigit : ∀ n < 16, (48 ≤ (Nat.digitChar n).toNat ∧ (Nat.digitChar n).toNat ≤ 57) ∨
      (97 ≤ (Nat.digitChar n).toNat ∧ (Nat.digitChar n).toNat ≤ 102) := by
    decide
  simp only [isHex64, hexDigest, String.toList_ofList, Bool.and_eq_true, beq_iff_eq]
  refine ⟨by rw [hlength, Vector.length_toList], ?_⟩
  rw [List.all_eq_true]
  intro c hc
  obtain ⟨b, -, hb⟩ := List.mem_flatMap.mp hc
  simp only [hexByte, List.mem_cons, List.not_mem_nil, or_false] at hb
  simp only [Bool.or_eq_true, Bool.and_eq_true, decide_eq_true_eq]
  rcases hb with rfl | rfl
  · exact hdigit _ (by omega)
  · exact hdigit _ (by omega)

/-- `hashlib.sha256(payload).hexdigest()`. -/
def sha256Hex [Platform] (payload : Bytes) : Hex64 :=
  ⟨hexDigest (Platform.sha256 payload), isHex64_hexDigest _⟩

/-- `int.from_bytes(digest[:4], "big")`. -/
def digestPrefixNat (d : Digest) : Nat := (d.toList.take 4).foldl (fun n b => n * 256 + b.val) 0

/-- `str(value)` of a plain value. -/
def pyStr [Platform] : Json → String
  | .null => "None"
  | .bool b => if b then "True" else "False"
  | .int n => toString n
  | .str s => s
  | value => Platform.str value

/-! ## A platform for ASCII inputs -/

/-- A sign and the decimal digits, least significant first: a text for every
instant. -/
def digitText (t : Instant) : List Char :=
  (if t < 0 then '-' else '+') :: (Nat.digits 10 t.natAbs).map Nat.digitChar

/-- The instant of such a text. -/
def ofDigitText : List Char → Option Instant
  | '-' :: ds => some (-(Nat.ofDigits 10 (ds.map fun c => c.toNat - 48) : Nat))
  | '+' :: ds => some (Nat.ofDigits 10 (ds.map fun c => c.toNat - 48) : Nat)
  | _ => none

theorem ofDigitText_digitText (t : Instant) : ofDigitText (digitText t) = some t := by
  have hdigits : ((Nat.digits 10 t.natAbs).map Nat.digitChar).map (fun c => c.toNat - 48) =
      Nat.digits 10 t.natAbs := by
    rw [List.map_map]
    refine (List.map_congr_left fun d hd => ?_).trans (List.map_id _)
    have hlt : d < 10 := Nat.digits_lt_base (by omega) hd
    simp [Nat.toNat_digitChar_of_lt_ten hlt]
  by_cases ht : t < 0
  · rw [digitText, if_pos ht, ofDigitText, hdigits, Nat.ofDigits_digits]
    congr 1
    rw [Int.ofNat_natAbs_of_nonpos ht.le, neg_neg]
  · rw [digitText, if_neg ht, ofDigitText, hdigits, Nat.ofDigits_digits]
    congr 1
    exact Int.natAbs_of_nonneg (not_lt.mp ht)

/-- The digest written as 64 hex digits; anything else is read as zeros. -/
def digestOfHex (hex : String) : Digest :=
  Vector.ofFn fun i =>
    Fin.ofNat 256 (((hex.toList.drop (2 * i.val)).take 2).foldl
      (fun n c => 16 * n + if c.toNat < 58 then c.toNat - 48 else c.toNat - 87) 0)

/-- Midnight on the first of January 2026, UTC. -/
def newYear2026 : Instant := 1767225600000000

/-- The platform on ASCII inputs: the case tables are the ASCII ones, a pattern
without special characters is searched for as it stands, and the digests are those
of a given table. It keeps every law, so the laws are consistent. -/
@[reducible] def asciiPlatform (digests : List (Bytes × String)) : Platform where
  sha256 payload := digestOfHex ((digests.lookup payload).getD "")
  lower s := s.map Char.toLower
  upper s := s.map Char.toUpper
  search pattern text := text.toList.tails.any fun tail => pattern.toList.isPrefixOf tail
  str _ := ""
  dumps _ := ""
  isoformat t := if t = newYear2026 then "2026-01-01T00:00:00Z" else String.ofList (digitText t)
  parseIso s := if s = "2026-01-01T00:00:00Z" then some newYear2026 else ofDigitText s.toList
  lower_ascii _ _ := rfl
  upper_ascii _ _ := rfl
  parseIso_isoformat t := by
    by_cases ht : t = newYear2026
    · rw [if_pos ht, if_pos rfl, ht]
    · have hne : String.ofList (digitText t) ≠ "2026-01-01T00:00:00Z" := by
        intro h
        have hchars := congrArg String.toList h
        rw [String.toList_ofList] at hchars
        have hhead := congrArg List.head? hchars
        revert hhead
        simp only [digitText, List.head?_cons]
        split <;> decide
      rw [if_neg ht, if_neg hne, String.toList_ofList]
      exact ofDigitText_digitText t

end AiopsTriage
