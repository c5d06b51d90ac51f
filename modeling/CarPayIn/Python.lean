import Mathlib.Algebra.Group.Int.Defs
import Mathlib.Algebra.Group.Nat.Defs

/-! # What the services take from Python

The exceptions that some handler tells apart, `str` of an exception, flat JSON
objects, and `uuid.UUID` with the integer syntax it accepts.
-/

namespace CarPayIn

inductive PyError where
  | valueError (message : String)
  | lookupError (message : String)
  | keyError (key : String)
  | runtimeError (message : String)
  | httpError (message : String)
  | integrityError (message : String)
  | dataError (message : String)
  | permissionError (message : String)
  | exception (message : String)
deriving DecidableEq, Repr

def PyError.str : PyError → String
  | .valueError m | .lookupError m | .runtimeError m | .httpError m
  | .integrityError m | .dataError m | .permissionError m | .exception m => m
  | .keyError k => "'" ++ k ++ "'"

/-! ## JSON objects -/

/-- A JSON object whose values are texts or `null`. -/
abbrev Json := List (String × Option String)

namespace Json

def get? (data : Json) (key : String) : Option (Option String) :=
  (data.find? fun p => p.1 = key).map (·.2)

def get (data : Json) (key : String) : Option String := (data.get? key).join

/-- `data.get(key, default)`. -/
def getD (data : Json) (key default : String) : Option String := (data.get? key).getD (some default)

/-- `data[key]`. -/
def index (data : Json) (key : String) : Except PyError (Option String) :=
  match data.get? key with
  | some v => .ok v
  | none => .error (.keyError key)

end Json

/-- A status code and its body; `none` is a body that is no JSON. -/
structure HttpResponse where
  statusCode : Nat
  body : Option Json
deriving DecidableEq, Repr

def HttpResponse.json (r : HttpResponse) : Except PyError Json :=
  match r.body with
  | some data => .ok data
  | none => .error (.valueError "Expecting value: line 1 column 1 (char 0)")

/-! ## Integers in text -/

namespace PyInt

/-- The first digit of every run of ten decimal digits. -/
def decimalZeros : List Nat :=
  [0x660, 0x6F0, 0x7C0, 0x966, 0x9E6, 0xA66, 0xAE6, 0xB66, 0xBE6, 0xC66, 0xCE6, 0xD66, 0xDE6, 0xE50,
    0xED0, 0xF20, 0x1040, 0x1090, 0x17E0, 0x1810, 0x1946, 0x19D0, 0x1A80, 0x1A90, 0x1B50, 0x1BB0,
    0x1C40, 0x1C50, 0xA620, 0xA8D0, 0xA900, 0xA9D0, 0xA9F0, 0xAA50, 0xABF0, 0xFF10, 0x104A0,
    0x10D30, 0x11066, 0x110F0, 0x11136, 0x111D0, 0x112F0, 0x11450, 0x114D0, 0x11650, 0x116C0,
    0x11730, 0x118E0, 0x11950, 0x11C50, 0x11D50, 0x11DA0, 0x11F50, 0x16A60, 0x16AC0, 0x16B50,
    0x1D7CE, 0x1D7D8, 0x1D7E2, 0x1D7EC, 0x1D7F6, 0x1E140, 0x1E2F0, 0x1E4F0, 0x1E950, 0x1FBF0]

/-- The spaces beyond ASCII. -/
def wideSpaces : List Nat :=
  [0x85, 0xA0, 0x1680, 0x2000, 0x2001, 0x2002, 0x2003, 0x2004, 0x2005, 0x2006, 0x2007, 0x2008,
    0x2009, 0x200A, 0x2028, 0x2029, 0x202F, 0x205F, 0x3000]

/-- Decimal digits and spaces of other scripts become their ASCII counterparts,
anything else beyond ASCII becomes a character no integer contains. -/
def toAscii (c : Char) : Char :=
  if c.toNat < 127 then c
  else if wideSpaces.contains c.toNat then ' '
  else match decimalZeros.find? fun z => z ≤ c.toNat ∧ c.toNat < z + 10 with
    | some z => Char.ofNat (48 + (c.toNat - z))
    | none => '?'

/-- A digit of category `Nd`, which is what `\d` matches. -/
def isDecimal (c : Char) : Bool :=
  (48 ≤ c.toNat ∧ c.toNat ≤ 57) || decimalZeros.any fun z => z ≤ c.toNat ∧ c.toNat < z + 10

def isSpace (c : Char) : Bool :=
  c = ' ' || c = '\t' || c = '\n' || c = '\r' || c.toNat = 0x0B || c.toNat = 0x0C

def hexDigit (c : Char) : Option Nat :=
  if 48 ≤ c.toNat ∧ c.toNat ≤ 57 then some (c.toNat - 48)
  else if 97 ≤ c.toNat ∧ c.toNat ≤ 102 then some (c.toNat - 87)
  else if 65 ≤ c.toNat ∧ c.toNat ≤ 70 then some (c.toNat - 55)
  else none

/-- Digits with single underscores between them; `afterDigit` says whether the
last character read was a digit. -/
def hexDigits : Bool → Nat → List Char → Option Nat
  | afterDigit, n, [] => if afterDigit then some n else none
  | afterDigit, n, c :: cs =>
      if c = '_' then if afterDigit then hexDigits false n cs else none
      else match hexDigit c with
        | some d => hexDigits true (16 * n + d) cs
        | none => if afterDigit ∧ isSpace c ∧ cs.all isSpace then some n else none

def dropSign : List Char → Bool × List Char
  | '+' :: cs => (false, cs)
  | '-' :: cs => (true, cs)
  | cs => (false, cs)

def dropHexPrefix : List Char → List Char
  | '0' :: 'x' :: '_' :: cs => cs
  | '0' :: 'X' :: '_' :: cs => cs
  | '0' :: 'x' :: cs => cs
  | '0' :: 'X' :: cs => cs
  | cs => cs

/-- `int(text, 16)`. -/
def parseHex (text : List Char) : Option Int :=
  let (negative, cs) := dropSign ((text.map toAscii).dropWhile isSpace)
  (hexDigits false 0 (dropHexPrefix cs)).map fun n => if negative then -n else n

end PyInt

/-! ## Text -/

/-- `text.replace(old, "")` of one character. -/
def removeChar (old : Char) (text : String) : String := String.ofList (text.toList.filter (· ≠ old))

def isascii (text : String) : Bool := text.toList.all fun c => c.toNat < 128

theorem isascii_iff {text : String} : isascii text = true ↔ ∀ c ∈ text.toList, c.toNat < 128 := by
  simp only [isascii, List.all_eq_true, decide_eq_true_eq]

def isWhitespace (c : Char) : Bool :=
  (9 ≤ c.toNat ∧ c.toNat ≤ 13) || (28 ≤ c.toNat ∧ c.toNat ≤ 32) || PyInt.wideSpaces.contains c.toNat

def strip (text : String) : String :=
  String.ofList ((text.toList.dropWhile isWhitespace).reverse.dropWhile isWhitespace).reverse

/-- Before a final `$` a pattern may leave one newline. -/
def dropFinalNewline (cs : List Char) : List Char :=
  if cs.getLast? = some '\n' then cs.dropLast else cs

/-! ## UUIDs -/

/-- A UUID is the integer it stands for. -/
abbrev Uuid := Nat

namespace Uuid

/-- `text.replace(pattern, "")`; `skip` characters still belong to a match. -/
def removeAll (pattern : List Char) : Nat → List Char → List Char
  | _, [] => []
  | skip + 1, _ :: cs => removeAll pattern skip cs
  | 0, c :: cs =>
      if pattern.isPrefixOf (c :: cs) then removeAll pattern (pattern.length - 1) cs
      else c :: removeAll pattern 0 cs

def isBrace (c : Char) : Bool := c.toNat = 0x7B || c.toNat = 0x7D

/-- `text.strip` of both braces. -/
def stripBraces (text : List Char) : List Char :=
  ((text.dropWhile isBrace).reverse.dropWhile isBrace).reverse

@[irreducible] def parse (text : String) : Except PyError Uuid :=
  let hex := (stripBraces (removeAll "uuid:".toList 0 (removeAll "urn:".toList 0 text.toList))).filter
    (· ≠ '-')
  if hex.length ≠ 32 then .error (.valueError "badly formed hexadecimal UUID string")
  else match PyInt.parseHex hex with
    | none => .error (.valueError "invalid literal for int() with base 16")
    | some n =>
        if 0 ≤ n ∧ n < 2 ^ 128 then .ok n.toNat else .error (.valueError "int is out of range")

end Uuid

end CarPayIn
