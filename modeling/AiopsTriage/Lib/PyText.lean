import Mathlib.Data.List.Basic
import Mathlib.Data.List.DropRight
import Mathlib.Data.String.Basic

/-!
# Python text

The text operations of Python that a model in Lean cannot take over as they are:
`str.strip` removes every character for which `str.isspace` holds, which is a
longer list than Lean's own whitespace.
-/

namespace PyText

/-- `str.isspace` for one character: the bidirectional types WS, B, S and the
category Zs. -/
def isSpace (c : Char) : Bool :=
  let n := c.toNat
  (9 ≤ n && n ≤ 13) || (28 ≤ n && n ≤ 32) || n == 0x85 || n == 0xA0 || n == 0x1680 ||
    (0x2000 ≤ n && n ≤ 0x200A) || n == 0x2028 || n == 0x2029 || n == 0x202F || n == 0x205F ||
    n == 0x3000

/-- A list of characters without its leading and trailing whitespace. -/
def stripChars (cs : List Char) : List Char :=
  ((cs.dropWhile isSpace).reverse.dropWhile isSpace).reverse

/-- `str.strip()`. -/
def strip (s : String) : String := String.ofList (stripChars s.toList)

/-- A text of whitespace only, for which `not s.strip()` holds. -/
def isBlank (s : String) : Bool := strip s == ""

/-- Whether every character is ASCII, `str.isascii()`. -/
def isAscii (s : String) : Bool := s.toList.all fun c => c.toNat < 128

/-- `prefix.join`: the parts with a separator between them. -/
def join (sep : String) : List String → String
  | [] => ""
  | [s] => s
  | s :: t :: rest => s ++ sep ++ join sep (t :: rest)

example : strip " \t a b\u00a0\n" = "a b" := by decide

/-- Nothing is left to strip of stripped characters. -/
theorem stripChars_stripChars (cs : List Char) : stripChars (stripChars cs) = stripChars cs := by
  have hstrip : ∀ l, stripChars l = (l.dropWhile isSpace).rdropWhile isSpace := fun _ => rfl
  -- the first character is kept when the end is stripped
  have hfront : ((cs.dropWhile isSpace).rdropWhile isSpace).dropWhile isSpace =
      (cs.dropWhile isSpace).rdropWhile isSpace := by
    rw [List.dropWhile_eq_self_iff]
    intro hlength
    have hdropped := (List.dropWhile_eq_self_iff.mp
      (List.dropWhile_idempotent (p := isSpace) (l := cs)))
      (hlength.trans_le (List.rdropWhile_prefix isSpace (cs.dropWhile isSpace)).length_le)
    rwa [(List.rdropWhile_prefix isSpace (cs.dropWhile isSpace)).getElem hlength]
  rw [hstrip, hstrip, hfront, List.rdropWhile_idempotent]

/-- Nothing is stripped of characters that neither start nor end with whitespace. -/
theorem stripChars_eq_self {cs : List Char}
    (hfirst : ∀ c, cs.head? = some c → isSpace c = false)
    (hlast : ∀ c, cs.getLast? = some c → isSpace c = false) : stripChars cs = cs := by
  have hdrop : ∀ l : List Char, (∀ c, l.head? = some c → isSpace c = false) →
      l.dropWhile isSpace = l := by
    intro l hl
    cases l with
    | nil => rfl
    | cons c l => exact List.dropWhile_cons_of_neg (by rw [hl c rfl]; decide)
  rw [stripChars, hdrop cs hfirst, hdrop cs.reverse, List.reverse_reverse]
  intro c hc
  rw [List.head?_reverse] at hc
  exact hlast c hc

/-- A last whitespace is stripped. -/
theorem stripChars_concat {cs : List Char} {c : Char} (h : isSpace c = true) :
    stripChars (cs ++ [c]) = stripChars cs := by
  have hdrop : ∀ l : List Char, (l ++ [c]).reverse.dropWhile isSpace = l.reverse.dropWhile isSpace := by
    intro l
    rw [List.reverse_append, List.reverse_singleton, List.singleton_append,
      List.dropWhile_cons_of_pos h]
  rw [stripChars, stripChars, List.dropWhile_append]
  split
  · next hempty =>
    rw [List.isEmpty_iff.mp hempty, List.dropWhile_cons_of_pos h]
    rfl
  · rw [hdrop]

/-- Stripped characters do not end with whitespace. -/
theorem isSpace_of_getLast?_stripChars {cs : List Char} {c : Char}
    (h : (stripChars cs).getLast? = some c) : isSpace c = false := by
  rw [stripChars, List.getLast?_reverse] at h
  have hhead := List.head?_dropWhile_not isSpace (cs.dropWhile isSpace).reverse
  rw [h] at hhead
  exact hhead

/-- Nothing is left to strip of a stripped text. -/
theorem strip_strip (s : String) : strip (strip s) = strip s := by
  rw [strip, strip, String.toList_ofList, stripChars_stripChars]

/-- A stripped text is blank when the text is. -/
theorem isBlank_strip (s : String) : isBlank (strip s) = isBlank s := by
  rw [isBlank, isBlank, strip_strip]

/-! ## Substrings -/

/-- What follows the first occurrence of a marker, `text.split(marker, 1)[1]`; `none` when
there is none. -/
def afterChars (marker : List Char) : List Char → Option (List Char)
  | [] => if marker = [] then some [] else none
  | c :: cs =>
    if marker.isPrefixOf (c :: cs) then some ((c :: cs).drop marker.length)
    else afterChars marker cs

/-- `marker in text`. -/
def contains (marker text : String) : Bool := (afterChars marker.toList text.toList).isSome

/-- `text.split(c, 1)[0]`. -/
def beforeChar (c : Char) (cs : List Char) : List Char := cs.takeWhile (· ≠ c)

/-! ## Numbers -/

/-- The zeros of the decimal digits of Unicode; the other nine of each follow it. -/
def decimalZeros : List Nat :=
  [0x30, 0x660, 0x6F0, 0x7C0, 0x966, 0x9E6, 0xA66, 0xAE6, 0xB66, 0xBE6, 0xC66, 0xCE6, 0xD66,
    0xDE6, 0xE50, 0xED0, 0xF20, 0x1040, 0x1090, 0x17E0, 0x1810, 0x1946, 0x19D0, 0x1A80, 0x1A90,
    0x1B50, 0x1BB0, 0x1C40, 0x1C50, 0xA620, 0xA8D0, 0xA900, 0xA9D0, 0xA9F0, 0xAA50, 0xABF0,
    0xFF10, 0x104A0, 0x10D30, 0x11066, 0x110F0, 0x11136, 0x111D0, 0x112F0, 0x11450, 0x114D0,
    0x11650, 0x116C0, 0x11730, 0x118E0, 0x11950, 0x11C50, 0x11D50, 0x11DA0, 0x11F50, 0x16A60,
    0x16AC0, 0x16B50, 0x1D7CE, 0x1D7D8, 0x1D7E2, 0x1D7EC, 0x1D7F6, 0x1E140, 0x1E2F0, 0x1E4F0,
    0x1E950, 0x1FBF0]

/-- The value of a decimal digit. -/
def digitValue (c : Char) : Option Nat :=
  (decimalZeros.find? fun z => z ≤ c.toNat && c.toNat ≤ z + 9).map (c.toNat - ·)

/-- Digits with single underscores between them; the flag says whether a digit came just
before. -/
def parseDigits : Bool → List Char → Option (List Nat)
  | afterDigit, [] => if afterDigit then some [] else none
  | afterDigit, c :: cs =>
    if c = '_' then if afterDigit then parseDigits false cs else none
    else do
      let d ← digitValue c
      let ds ← parseDigits true cs
      return d :: ds

/-- `int(text)`, `none` for a `ValueError`. A text of more than 4300 digits is refused. -/
def parseInt (s : String) : Option Int := do
  let cs := stripChars s.toList
  let ds ← parseDigits false
    (if cs.head? = some '-' ∨ cs.head? = some '+' then cs.drop 1 else cs)
  if 4300 < ds.length then none
  else
    let n : Int := (ds.foldl (fun n d => 10 * n + d) 0 : Nat)
    some (if cs.head? = some '-' then -n else n)

example : parseInt " +1_0 " = some 10 ∧ parseInt "1__0" = none := by decide

end PyText
