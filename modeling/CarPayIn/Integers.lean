import CarPayIn.Python

/-! # Integers in decimal notation

`int` of a text, with the spaces, signs, underscores and digits of other scripts
that it accepts, and what it makes of the text of an integer.
-/

namespace CarPayIn.PyInt

/-- Decimal digits as in `hexDigits`. -/
def decDigits : Bool → Nat → List Char → Option Nat
  | afterDigit, n, [] => if afterDigit then some n else none
  | afterDigit, n, c :: cs =>
      if c = '_' then if afterDigit then decDigits false n cs else none
      else if c.isDigit then decDigits true (10 * n + (c.toNat - '0'.toNat)) cs
      else if afterDigit ∧ isSpace c ∧ cs.all isSpace then some n else none

/-- The digits that `int` reads at most, so that reading them cannot take too long. -/
def maxStrDigits : Nat := 4300

/-- `int(text)`, where `none` is a `ValueError`. -/
def parse (text : List Char) : Option Int :=
  let (negative, cs) := dropSign ((text.map toAscii).dropWhile isSpace)
  if maxStrDigits < cs.countP Char.isDigit then none
  else (decDigits false 0 cs).map fun n : Nat => if negative then -(n : Int) else n

theorem decDigits_of_digits {cs : List Char} (h : ∀ c ∈ cs, c.isDigit = true) (n : Nat) :
    decDigits true n cs = some (Nat.ofDigitChars 10 cs n) := by
  induction cs generalizing n with
  | nil => rfl
  | cons c cs ih =>
      have hc := h c List.mem_cons_self
      have hne : c ≠ '_' := by
        rintro rfl
        exact absurd hc (by decide)
      simp only [decDigits, if_neg hne, hc, if_true]
      rw [ih fun c hc => h c (List.mem_cons_of_mem _ hc), Nat.ofDigitChars_cons]

/-- A number that is written out. -/
theorem decDigits_toDigits (n : Nat) : decDigits false 0 (Nat.toDigits 10 n) = some n := by
  have hdigits : ∀ c ∈ Nat.toDigits 10 n, c.isDigit = true := fun c hc =>
    Nat.isDigit_of_mem_toDigits (by decide) (by decide) hc
  cases hcs : Nat.toDigits 10 n with
  | nil => exact absurd hcs Nat.toDigits_ne_nil
  | cons c cs =>
      have hsame : decDigits false 0 (c :: cs) = decDigits true 0 (c :: cs) := by
        have hc := hdigits c (hcs ▸ List.mem_cons_self)
        have hne : c ≠ '_' := by
          rintro rfl
          exact absurd hc (by decide)
        simp only [decDigits, if_neg hne, hc, if_true]
      rw [hsame, decDigits_of_digits (hcs ▸ hdigits), ← hcs, Nat.ofDigitChars_ten_toDigits]

/-! ## The text of an integer -/

theorem isDigit_iff {c : Char} : c.isDigit = true ↔ 48 ≤ c.toNat ∧ c.toNat ≤ 57 := by
  simp only [Char.isDigit, Bool.and_eq_true, decide_eq_true_eq]
  exact Iff.rfl

theorem isSpace_of_digit {c : Char} (h : c.isDigit = true) : isSpace c = false := by
  cases hs : isSpace c with
  | false => rfl
  | true =>
      rw [isDigit_iff] at h
      simp only [isSpace, Bool.or_eq_true, decide_eq_true_eq] at hs
      rcases hs with ((((rfl | rfl) | rfl) | rfl) | hs) | hs
      · exact absurd h (by decide)
      · exact absurd h (by decide)
      · exact absurd h (by decide)
      · exact absurd h (by decide)
      · omega
      · omega

theorem map_toAscii {cs : List Char} (h : ∀ c ∈ cs, c.toNat < 127) : cs.map toAscii = cs := by
  induction cs with
  | nil => rfl
  | cons c cs ih =>
      have hc : toAscii c = c := if_pos (h c List.mem_cons_self)
      rw [List.map_cons, hc, ih fun c hc => h c (List.mem_cons_of_mem _ hc)]

theorem toDigits_isDigit {n : Nat} {c : Char} (h : c ∈ Nat.toDigits 10 n) : c.isDigit = true :=
  Nat.isDigit_of_mem_toDigits (by decide) (by decide) h

/-- What stands after the sign is read as a number when it has no more digits than are allowed. -/
theorem parse_eq {text : List Char} (negative : Bool) {n : Nat} (hn : n < 10 ^ maxStrDigits)
    (hsign : dropSign ((text.map toAscii).dropWhile isSpace) = (negative, Nat.toDigits 10 n)) :
    parse text = some (if negative then -(n : Int) else n) := by
  have hcount : (Nat.toDigits 10 n).countP Char.isDigit ≤ maxStrDigits := by
    apply Nat.le_trans List.countP_le_length
    rw [Nat.length_toDigits_le_iff (by decide) (by decide)]
    exact hn
  unfold parse
  rw [hsign]
  simp only [if_neg (Nat.not_lt.mpr hcount), decDigits_toDigits, Option.map_some]

theorem dropSign_digits {cs : List Char} (h : ∀ c ∈ cs, c.isDigit = true) :
    dropSign cs = (false, cs) := by
  unfold dropSign
  split
  · exact absurd (h '+' List.mem_cons_self) (by decide)
  · exact absurd (h '-' List.mem_cons_self) (by decide)
  · rfl

theorem toDigits_ascii (n : Nat) : ∀ c ∈ Nat.toDigits 10 n, c.toNat < 127 := by
  intro c hc
  have := isDigit_iff.mp (toDigits_isDigit hc)
  omega

theorem dropWhile_toDigits (n : Nat) :
    (Nat.toDigits 10 n).dropWhile isSpace = Nat.toDigits 10 n := by
  cases hcs : Nat.toDigits 10 n with
  | nil => rfl
  | cons c cs =>
      have hc := isSpace_of_digit (toDigits_isDigit (hcs ▸ List.mem_cons_self))
      exact List.dropWhile_cons_of_neg (by simp [hc])

/-- `int(str(n))`. -/
theorem parse_toString {n : Int} (h : n.natAbs < 10 ^ maxStrDigits) :
    parse (toString n).toList = some n := by
  cases n with
  | ofNat n =>
      show parse n.repr.toList = _
      rw [Nat.toList_repr, parse_eq false h]
      · rfl
      · rw [map_toAscii (toDigits_ascii n), dropWhile_toDigits,
          dropSign_digits fun c hc => toDigits_isDigit hc]
        rfl
  | negSucc n =>
      show parse ("-" ++ (n + 1).repr).toList = _
      rw [String.toList_append, Nat.toList_repr, parse_eq true (n := n + 1) h]
      · rfl
      · have hminus : toAscii '-' = '-' := rfl
        have hspace : isSpace '-' = false := rfl
        show dropSign ((toAscii '-' :: (Nat.toDigits 10 (n + 1)).map toAscii).dropWhile isSpace) = _
        rw [map_toAscii (toDigits_ascii _), hminus, List.dropWhile_cons_of_neg (by simp [hspace])]
        rfl

end CarPayIn.PyInt
