import CarPayIn.Encoding.Json

/-! # Reading JSON

`json.loads` as the scanner of its decoder goes: it looks at one character to
know what it is in front of. Nothing is the result of every failure: all of
them are a `ValueError`.
-/

namespace Encoding

variable {F : Type}

def isBlank (c : Nat) : Bool := c = 32 || c = 9 || c = 10 || c = 13

def skipBlanks (t : Text) : Text := t.dropWhile isBlank

/-! ## Strings -/

def hexValue? (c : Nat) : Option Nat :=
  if 48 ≤ c ∧ c ≤ 57 then some (c - 48)
  else if 97 ≤ c ∧ c ≤ 102 then some (c - 87)
  else if 65 ≤ c ∧ c ≤ 70 then some (c - 55)
  else none

def hex4? (a b c d : Nat) : Option Nat :=
  match hexValue? a, hexValue? b, hexValue? c, hexValue? d with
  | some a, some b, some c, some d => some (a * 0x1000 + b * 0x100 + c * 16 + d)
  | _, _, _, _ => none

/-- The character of an escape of two characters. -/
def escaped? (c : Nat) : Option Nat :=
  if c = 34 ∨ c = 92 ∨ c = 47 then some c
  else if c = 98 then some 8
  else if c = 102 then some 12
  else if c = 110 then some 10
  else if c = 114 then some 13
  else if c = 116 then some 9
  else none

/-- The second half of a pair, if it is escaped right after the first one. -/
def lowEscape? (high : Nat) (s : Text) : Option Nat :=
  match s with
  | 92 :: 117 :: a :: b :: c :: d :: _ => (hex4? a b c d).filter fun low => isHigh high && isLow low
  | _ => none

/-- The rest of a string and what comes after its quote; `skip` characters have
been read with an earlier one. -/
def scanString : Nat → Text → Option (Text × Text)
  | _, [] => none
  | skip + 1, _ :: s => scanString skip s
  | 0, c :: s =>
      if c = 34 then some ([], s)
      else if c = 92 then match s with
        | [] => none
        | e :: s =>
            if e = 117 then match s with
              | a :: b :: c :: d :: s => match hex4? a b c d with
                  | none => none
                  | some u => match lowEscape? u s with
                      | some low => (scanString 6 s).map fun x => (joinSurrogates u low :: x.1, x.2)
                      | none => (scanString 0 s).map fun x => (u :: x.1, x.2)
              | _ => none
            else match escaped? e with
              | none => none
              | some c => (scanString 0 s).map fun x => (c :: x.1, x.2)
      else if c < 32 then none
      else (scanString 0 s).map fun x => (c :: x.1, x.2)

/-! ## Numbers and words -/

/-- `(0|[1-9][0-9]*)` after a sign. -/
def matchWhole (sign : Text) : Text → Option (Text × Text)
  | [] => none
  | c :: s =>
      if c = 48 then some (sign ++ [c], s)
      else if isDigit c then some (sign ++ c :: s.takeWhile isDigit, s.dropWhile isDigit)
      else none

def matchInteger (t : Text) : Option (Text × Text) :=
  if t.head? = some 45 then matchWhole [45] t.tail else matchWhole [] t

def matchFraction (t : Text) : Text × Text :=
  match t with
  | 46 :: s =>
      if s.takeWhile isDigit = [] then ([], t) else (46 :: s.takeWhile isDigit, s.dropWhile isDigit)
  | _ => ([], t)

def matchExponent (t : Text) : Text × Text :=
  match t with
  | [] => ([], t)
  | e :: s =>
      if e = 101 ∨ e = 69 then
        let sign := s.take (if s.head? = some 43 ∨ s.head? = some 45 then 1 else 0)
        let s' := s.drop sign.length
        if s'.takeWhile isDigit = [] then ([], t)
        else (e :: (sign ++ s'.takeWhile isDigit), s'.dropWhile isDigit)
      else ([], t)

/-- `int(text)` of a sign and digits. -/
def ofIntText : Text → Int
  | [] => 0
  | c :: ds => if c = 45 then -(ofDecimal ds : Int) else ofDecimal (c :: ds)

def stripWord : Text → Text → Option Text
  | [], t => some t
  | _ :: _, [] => none
  | c :: w, d :: t => if c = d then stripWord w t else none

section
variable (fmt : FloatFormat F)

def scanNumber (t : Text) : Option (Value F × Text) :=
  match matchInteger t with
  | none => none
  | some (integer, r) =>
      let (fraction, r) := matchFraction r
      let (exponent, r) := matchExponent r
      if fraction = [] ∧ exponent = [] then
        if integer.countP isDigit ≤ maxStrDigits then some (.int (ofIntText integer), r) else none
      else some (.float (fmt.float (integer ++ fraction ++ exponent)), r)

def words : List (Text × Value F) :=
  [(nullWord, .null), (trueWord, .bool true), (falseWord, .bool false), (nanWord, .float fmt.nan),
    (infinityWord, .float fmt.infinity), (negInfinityWord, .float fmt.negInfinity)]

def scanWord (t : Text) : Option (Value F × Text) :=
  (words fmt).findSome? fun w => (stripWord w.1 t).map fun r => (w.2, r)

/-! ## Values -/

mutual
def scanOnce : Nat → Text → Option (Value F × Text)
  | 0, _ => none
  | n + 1, t => match t with
      | 34 :: s => (scanString 0 s).map fun x => (.str x.1, x.2)
      | 123 :: s => match skipBlanks s with
          | 125 :: r => some (.dict [], r)
          | s => (scanEntries n s).map fun x => (.dict (dictOf x.1), x.2)
      | 91 :: s => match skipBlanks s with
          | 93 :: r => some (.list [], r)
          | s => (scanItems n s).map fun x => (.list x.1, x.2)
      | t => (scanWord fmt t).or (scanNumber fmt t)

/-- A value, and after a comma the next ones. -/
def scanItems : Nat → Text → Option (List (Value F) × Text)
  | 0, _ => none
  | n + 1, t => match scanOnce n t with
      | none => none
      | some (v, r) => match skipBlanks r with
          | 44 :: r => (scanItems n (skipBlanks r)).map fun x => (v :: x.1, x.2)
          | 93 :: r => some ([v], r)
          | _ => none

/-- A key and its value, and after a comma the next ones. -/
def scanEntries : Nat → Text → Option (List (Text × Value F) × Text)
  | 0, _ => none
  | n + 1, t => match t with
      | 34 :: s => match scanString 0 s with
          | none => none
          | some (key, r) => match skipBlanks r with
              | 58 :: r => match scanOnce n (skipBlanks r) with
                  | none => none
                  | some (v, r) => match skipBlanks r with
                      | 44 :: r =>
                          (scanEntries n (skipBlanks r)).map fun x => ((key, v) :: x.1, x.2)
                      | 125 :: r => some ([(key, v)], r)
                      | _ => none
              | _ => none
      | _ => none
end

def loads (t : Text) : Option (Value F) :=
  match scanOnce fmt (2 * t.length + 1) (skipBlanks t) with
  | none => none
  | some (v, r) => if skipBlanks r = [] then some v else none

theorem loads_nil : loads fmt [] = none := rfl

end

end Encoding
