import CarPayIn.Encoding.JsonScan

/-! # Scanning what was written: strings and numbers

An escape is read with the one after it when the two are a pair. Numbers have no
end of their own, so what follows them matters.
-/

namespace Encoding

/-! ## Escapes -/

theorem hexValue?_hexDigit : ∀ v < 16, hexValue? (hexDigit v) = some v := by decide

theorem hex4?_hexDigit {c : Nat} (hc : c < 0x10000) :
    hex4? (hexDigit (c / 0x1000 % 16)) (hexDigit (c / 0x100 % 16)) (hexDigit (c / 16 % 16))
      (hexDigit (c % 16)) = some c := by
  unfold hex4?
  rw [hexValue?_hexDigit _ (by omega), hexValue?_hexDigit _ (by omega),
    hexValue?_hexDigit _ (by omega), hexValue?_hexDigit _ (by omega)]
  have hsum : c / 0x1000 % 16 * 0x1000 + c / 0x100 % 16 * 0x100 + c / 16 % 16 * 16 + c % 16 =
      c := by
    omega
  simp only [hsum]

theorem escapeChar_unicode {c : Nat} (hc : 127 ≤ c) (hplane : c < 0x10000) :
    escapeChar c = unicodeEscape c := by
  unfold escapeChar
  repeat rw [if_neg (by omega)]
  rw [if_pos hplane]

theorem escapeChar_wide {c : Nat} (hc : 0x10000 ≤ c) :
    escapeChar c = unicodeEscape (0xD800 + (c - 0x10000) / 0x400 % 0x400) ++
      unicodeEscape (0xDC00 + (c - 0x10000) % 0x400) := by
  unfold escapeChar
  repeat rw [if_neg (by omega)]

/-- What the scanner does after an escape that stands for `c`. -/
def afterChar (c : Nat) (t : Text) : Option (Text × Text) :=
  match lowEscape? c t with
  | some low => (scanString 6 t).map fun x => (joinSurrogates c low :: x.1, x.2)
  | none => (scanString 0 t).map fun x => (c :: x.1, x.2)

theorem scanString_unicodeEscape {c : Nat} (hc : c < 0x10000) (t : Text) :
    scanString 0 (unicodeEscape c ++ t) = afterChar c t := by
  simp only [unicodeEscape, List.cons_append, List.nil_append, scanString, hex4?_hexDigit hc]
  rfl

theorem lowEscape?_unicodeEscape {c : Nat} (hc : c < 0x10000) (high : Nat) (t : Text) :
    lowEscape? high (unicodeEscape c ++ t) = if isHigh high && isLow c then some c else none := by
  simp only [unicodeEscape, List.cons_append, List.nil_append, lowEscape?, hex4?_hexDigit hc,
    Option.filter_some]

theorem lowEscape?_of_not_high {c : Nat} (hc : isHigh c = false) (t : Text) :
    lowEscape? c t = none := by
  unfold lowEscape?
  split
  · simp [hc]
  · rfl

theorem afterChar_of_not_high {c : Nat} (hc : isHigh c = false) (t : Text) :
    afterChar c t = (scanString 0 t).map fun x => (c :: x.1, x.2) := by
  rw [afterChar, lowEscape?_of_not_high hc]

theorem not_high_of_lt {c : Nat} (hc : c < 0xD800) : isHigh c = false := by
  simp [isHigh]
  omega

theorem scanString_skip (c : Nat) (t : Text) :
    scanString 6 (unicodeEscape c ++ t) = scanString 0 t := by
  simp only [unicodeEscape, List.cons_append, List.nil_append, scanString]

/-- A character beyond the first plane is written as a pair and read as one. -/
theorem scanString_pair {c : Nat} (hc : 0x10000 ≤ c ∧ c < 0x110000) (t : Text) :
    scanString 0 (unicodeEscape (0xD800 + (c - 0x10000) / 0x400 % 0x400) ++
      (unicodeEscape (0xDC00 + (c - 0x10000) % 0x400) ++ t)) =
        (scanString 0 t).map fun x => (c :: x.1, x.2) := by
  have hhigh : isHigh (0xD800 + (c - 0x10000) / 0x400 % 0x400) = true := by
    simp [isHigh]
    omega
  have hlow : isLow (0xDC00 + (c - 0x10000) % 0x400) = true := by
    simp [isLow]
    omega
  have hjoin : joinSurrogates (0xD800 + (c - 0x10000) / 0x400 % 0x400)
      (0xDC00 + (c - 0x10000) % 0x400) = c := by
    unfold joinSurrogates
    omega
  rw [scanString_unicodeEscape (by omega), afterChar, lowEscape?_unicodeEscape (by omega), hhigh,
    hlow]
  simp only [Bool.and_self, if_true, hjoin, scanString_skip]

theorem scanString_plain {c : Nat} (hquote : c ≠ 34) (hescape : c ≠ 92) (hc : 32 ≤ c) (t : Text) :
    scanString 0 (c :: t) = (scanString 0 t).map fun x => (c :: x.1, x.2) := by
  rw [scanString.eq_def]
  simp only [if_neg hquote, if_neg hescape, if_neg (Nat.not_lt.mpr hc)]

theorem scanString_escaped {c e : Nat} (he : e ≠ 117) (hc : escaped? e = some c) (t : Text) :
    scanString 0 (92 :: e :: t) = (scanString 0 t).map fun x => (c :: x.1, x.2) := by
  rw [scanString.eq_def]
  simp [he, hc]

theorem scanString_escapeChar {c : Nat} (hc : c < 0x110000) (t : Text) :
    scanString 0 (escapeChar c ++ t) = afterChar c t := by
  by_cases hplane : c < 0x10000
  · by_cases hlow : c < 0xD800
    · unfold escapeChar
      rw [afterChar_of_not_high (not_high_of_lt hlow)]
      split_ifs with h1 h2 h3 h4 h5 h6 h7 h8
      · subst h1
        exact scanString_escaped (by decide) (by decide) t
      · subst h2
        exact scanString_escaped (by decide) (by decide) t
      · subst h3
        exact scanString_escaped (by decide) (by decide) t
      · subst h4
        exact scanString_escaped (by decide) (by decide) t
      · subst h5
        exact scanString_escaped (by decide) (by decide) t
      · subst h6
        exact scanString_escaped (by decide) (by decide) t
      · subst h7
        exact scanString_escaped (by decide) (by decide) t
      · exact scanString_plain h1 h2 h8.1 t
      · rw [scanString_unicodeEscape hplane, afterChar_of_not_high (not_high_of_lt hlow)]
    · rw [escapeChar_unicode (by omega) hplane, scanString_unicodeEscape hplane]
  · have hhigh : isHigh c = false := by
      simp [isHigh]
      omega
    rw [escapeChar_wide (by omega), List.append_assoc, scanString_pair (by omega),
      afterChar_of_not_high hhigh]

/-! ## Strings -/

theorem lowEscape?_of_ne {c : Nat} (hc : c ≠ 92) (high : Nat) (t : Text) :
    lowEscape? high (c :: t) = none := by
  unfold lowEscape?
  split
  · rename_i heq
    cases heq
    exact absurd rfl hc
  · rfl

theorem lowEscape?_of_escaped {e : Nat} (he : e ≠ 117) (high : Nat) (t : Text) :
    lowEscape? high (92 :: e :: t) = none := by
  unfold lowEscape?
  split
  · rename_i heq
    cases heq
    exact absurd rfl he
  · rfl

theorem not_low_of_lt {c : Nat} (hc : c < 0xDC00) : isLow c = false := by
  simp [isLow]
  omega

/-- Only an escaped low half is read together with the half before it. -/
theorem lowEscape?_escapeChar {c : Nat} (hc : c < 0x110000) (high : Nat) (t : Text) :
    lowEscape? high (escapeChar c ++ t) = if isHigh high && isLow c then some c else none := by
  by_cases hplane : c < 0x10000
  · by_cases hlow : c < 0xD800
    · rw [not_low_of_lt (by omega), Bool.and_false, if_neg (by decide)]
      unfold escapeChar
      split_ifs with h1 h2 h3 h4 h5 h6 h7 h8
      · exact lowEscape?_of_escaped (by decide) high t
      · exact lowEscape?_of_escaped (by decide) high t
      · exact lowEscape?_of_escaped (by decide) high t
      · exact lowEscape?_of_escaped (by decide) high t
      · exact lowEscape?_of_escaped (by decide) high t
      · exact lowEscape?_of_escaped (by decide) high t
      · exact lowEscape?_of_escaped (by decide) high t
      · exact lowEscape?_of_ne h2 high t
      · rw [lowEscape?_unicodeEscape hplane, not_low_of_lt (by omega)]
        simp
    · rw [escapeChar_unicode (by omega) hplane, lowEscape?_unicodeEscape hplane]
  · have hwide : isLow c = false := by
      simp [isLow]
      omega
    rw [escapeChar_wide (by omega), List.append_assoc, lowEscape?_unicodeEscape (by omega), hwide,
      not_low_of_lt (by omega)]
    simp

theorem scanString_end (r : Text) : scanString 0 (34 :: r) = some ([], r) := by
  rw [scanString.eq_def]
  rfl

/-- A string is read as what it stands for: pairs of surrogates are one character. -/
theorem scanString_quoted {s : Text} (hs : IsText s) (r : Text) :
    scanString 0 (s.flatMap escapeChar ++ 34 :: r) = some (joinPairs s, r) := by
  fun_induction joinPairs s with
  | case1 => exact scanString_end r
  | case2 c =>
      have hnone : lowEscape? c (34 :: r) = none := lowEscape?_of_ne (by decide) c r
      rw [List.flatMap_singleton, scanString_escapeChar (hs c (by simp)), afterChar, hnone]
      simp only [scanString_end]
      rfl
  | case3 c d s hpair ih =>
      have hd : 127 ≤ d ∧ d < 0x10000 := by
        simp [isHigh, isLow] at hpair
        omega
      have hrest := ih fun e he => hs e (by simp [he])
      rw [List.flatMap_cons, List.append_assoc, scanString_escapeChar (hs c (by simp)), afterChar,
        List.flatMap_cons, List.append_assoc, lowEscape?_escapeChar (hs d (by simp)), hpair]
      simp only [if_true]
      rw [escapeChar_unicode hd.1 hd.2, scanString_skip, hrest]
      rfl
  | case4 c d s hpair ih =>
      have hrest := ih fun e he => hs e (.tail _ he)
      have hnone : lowEscape? c ((d :: s).flatMap escapeChar ++ 34 :: r) = none := by
        rw [List.flatMap_cons, List.append_assoc, lowEscape?_escapeChar (hs d (by simp)),
          if_neg hpair]
      rw [List.flatMap_cons, List.append_assoc, scanString_escapeChar (hs c (by simp)), afterChar,
        hnone, hrest]
      rfl

/-! ## Numbers -/

/-- The text does not go on with a character of this kind. -/
def Apart (kind : Nat → Bool) (t : Text) : Prop := ∀ c ∈ t.head?, kind c = false

def isDot (c : Nat) : Bool := c = 46

def isExponentMark (c : Nat) : Bool := c = 101 || c = 69

theorem takeWhile_digits {ds r : Text} (hds : ∀ d ∈ ds, isDigit d = true) (hr : Apart isDigit r) :
    (ds ++ r).takeWhile isDigit = ds ∧ (ds ++ r).dropWhile isDigit = r := by
  have hstop : r.takeWhile isDigit = [] ∧ r.dropWhile isDigit = r := by
    cases r with
    | nil => exact ⟨rfl, rfl⟩
    | cons c r =>
        have hc := hr c (by simp)
        simp [List.takeWhile, List.dropWhile, hc]
  rw [List.takeWhile_append_of_pos hds, List.dropWhile_append_of_pos hds, hstop.1, hstop.2,
    List.append_nil]
  exact ⟨rfl, rfl⟩

theorem matchWhole_eq {ds r : Text} (h : IsWhole ds) (hr : Apart isDigit r) (sign : Text) :
    matchWhole sign (ds ++ r) = some (sign ++ ds, r) := by
  cases h with
  | zero => rfl
  | @digits c ds hc hds =>
      have hdigit : isDigit c = true := isDigit_iff.mpr (by omega)
      obtain ⟨htake, hdrop⟩ := takeWhile_digits hds hr
      simp only [List.cons_append, matchWhole, htake, hdrop]
      rw [if_neg (by omega), if_pos hdigit]

theorem matchInteger_eq {integer r : Text} (h : IsInteger integer) (hr : Apart isDigit r) :
    matchInteger (integer ++ r) = some (integer, r) := by
  cases h with
  | unsigned hds =>
      have hhead : (integer ++ r).head? ≠ some 45 := by
        cases hds with
        | zero => simp
        | digits hc hds =>
            simp
            omega
      unfold matchInteger
      rw [if_neg hhead]
      exact matchWhole_eq hds hr []
  | negative hds => exact matchWhole_eq hds hr [45]

theorem matchFraction_eq {fraction r : Text} (h : IsFraction fraction) (hr : Apart isDigit r)
    (hdot : Apart isDot r) : matchFraction (fraction ++ r) = (fraction, r) := by
  cases h with
  | none =>
      cases r with
      | nil => rfl
      | cons c r =>
          have hc : c ≠ 46 := by simpa [isDot] using hdot c (by simp)
          rw [List.nil_append, matchFraction.eq_def]
          split
          · rename_i heq
            cases heq
            exact absurd rfl hc
          · rfl
  | some hds =>
      obtain ⟨htake, hdrop⟩ := takeWhile_digits hds.2 hr
      simp only [List.cons_append, matchFraction, htake, hdrop, if_neg hds.1]

theorem matchExponent_eq {exponent r : Text} (h : IsExponent exponent) (hr : Apart isDigit r)
    (hmark : Apart isExponentMark r) : matchExponent (exponent ++ r) = (exponent, r) := by
  cases h with
  | none =>
      cases r with
      | nil => rfl
      | cons c r =>
          have hc : ¬(c = 101 ∨ c = 69) := by simpa [isExponentMark] using hmark c (by simp)
          simp only [List.nil_append, matchExponent, if_neg hc]
  | @unsigned e ds he hds =>
      obtain ⟨htake, hdrop⟩ := takeWhile_digits hds.2 hr
      have hhead : ¬((ds ++ r).head? = some 43 ∨ (ds ++ r).head? = some 45) := by
        cases ds with
        | nil => exact absurd rfl hds.1
        | cons d ds =>
            have hd := isDigit_iff.mp (hds.2 d (by simp))
            simp
            omega
      simp only [List.cons_append, matchExponent, if_pos he, if_neg hhead, List.take_zero,
        List.length_nil, List.drop_zero, htake, hdrop, if_neg hds.1, List.nil_append]
  | @signed e sign ds he hsign hds =>
      obtain ⟨htake, hdrop⟩ := takeWhile_digits hds.2 hr
      have hhead : (sign :: (ds ++ r)).head? = some 43 ∨ (sign :: (ds ++ r)).head? = some 45 := by
        simpa using hsign
      simp only [List.cons_append, matchExponent, if_pos he, if_pos hhead, List.take_succ_cons,
        List.take_zero, List.length_cons, List.length_nil, List.drop_succ_cons, List.drop_zero, htake,
        hdrop, if_neg hds.1, List.nil_append]

/-- The rest of a text after a value: nothing, or the sign that ends it. -/
def Follows (r : Text) : Prop := ∀ c ∈ r.head?, c = 44 ∨ c = 93 ∨ c = 125

theorem Follows.apart {r : Text} (h : Follows r) :
    Apart isDigit r ∧ Apart isDot r ∧ Apart isExponentMark r := by
  refine ⟨?_, ?_, ?_⟩
  · intro c hc
    rcases h c hc with rfl | rfl | rfl <;> decide
  · intro c hc
    rcases h c hc with rfl | rfl | rfl <;> decide
  · intro c hc
    rcases h c hc with rfl | rfl | rfl <;> decide

theorem apart_exponent {exponent r : Text} (h : IsExponent exponent) (hr : Follows r) :
    Apart isDigit (exponent ++ r) ∧ Apart isDot (exponent ++ r) := by
  have hmark : ∀ e, e = 101 ∨ e = 69 → isDigit e = false ∧ isDot e = false := by
    rintro e (rfl | rfl) <;> decide
  cases h with
  | none => exact ⟨hr.apart.1, hr.apart.2.1⟩
  | unsigned he hds =>
      constructor
      · intro c hc
        cases hc
        exact (hmark _ he).1
      · intro c hc
        cases hc
        exact (hmark _ he).2
  | signed he hsign hds =>
      constructor
      · intro c hc
        cases hc
        exact (hmark _ he).1
      · intro c hc
        cases hc
        exact (hmark _ he).2

theorem apart_fraction {fraction r : Text} (h : IsFraction fraction) (hr : Apart isDigit r) :
    Apart isDigit (fraction ++ r) := by
  cases h with
  | none => exact hr
  | some hds =>
      intro c hc
      cases hc
      decide

theorem IsWhole.isDigit {ds : Text} (h : IsWhole ds) : ∀ d ∈ ds, isDigit d = true := by
  cases h with
  | zero => decide
  | digits hc hds =>
      intro d hd
      rcases List.mem_cons.mp hd with rfl | hd
      · exact isDigit_iff.mpr (by omega)
      · exact hds d hd

theorem countP_intText (n : Int) :
    (intText n).countP isDigit = (decimal n.natAbs).length := by
  have hdigits : (decimal n.natAbs).countP isDigit = (decimal n.natAbs).length :=
    List.countP_eq_length.mpr (isWhole_decimal n.natAbs).isDigit
  unfold intText
  by_cases hn : n < 0
  · rw [if_pos hn, List.countP_cons_of_neg (by decide), hdigits]
  · rw [if_neg hn, hdigits]

theorem ofIntText_intText (n : Int) : ofIntText (intText n) = n := by
  unfold intText
  by_cases hn : n < 0
  · rw [if_pos hn]
    simp only [ofIntText, if_true, ofDecimal_decimal]
    omega
  · rw [if_neg hn]
    have hvalue := ofDecimal_decimal n.natAbs
    have hdigits := (isWhole_decimal n.natAbs).isDigit
    generalize decimal n.natAbs = ds at hvalue hdigits ⊢
    cases ds with
    | nil =>
        have hzero : ofDecimal [] = 0 := rfl
        simp only [ofIntText]
        omega
    | cons c ds =>
        have hc := isDigit_iff.mp (hdigits c (by simp))
        simp only [ofIntText]
        rw [if_neg (by omega), hvalue]
        omega

section
variable {F : Type} (fmt : FloatFormat F)

theorem scanNumber_int {n : Int} {r : Text} (hn : (decimal n.natAbs).length ≤ maxStrDigits)
    (hr : Follows r) : scanNumber fmt (intText n ++ r) = some (.int n, r) := by
  have hfraction : matchFraction r = ([], r) := matchFraction_eq .none hr.apart.1 hr.apart.2.1
  have hexponent : matchExponent r = ([], r) := matchExponent_eq .none hr.apart.1 hr.apart.2.2
  unfold scanNumber
  rw [matchInteger_eq (isInteger_intText n) hr.apart.1]
  simp only [hfraction, hexponent, countP_intText, ofIntText_intText, and_self, if_true, if_pos hn]

theorem scanNumber_float {t r : Text} (ht : IsFloatText t) (hr : Follows r) :
    scanNumber fmt (t ++ r) = some (.float (fmt.float t), r) := by
  obtain ⟨integer, fraction, exponent, rfl, hinteger, hfraction, hexponent, hne⟩ := ht
  have happart := apart_exponent hexponent hr
  have hmore : ¬(fraction = [] ∧ exponent = []) := by
    rintro ⟨rfl, rfl⟩
    simp at hne
  unfold scanNumber
  rw [List.append_assoc, List.append_assoc,
    matchInteger_eq hinteger (apart_fraction hfraction happart.1)]
  simp only [matchFraction_eq hfraction happart.1 happart.2,
    matchExponent_eq hexponent hr.apart.1 hr.apart.2.2, if_neg hmore, List.append_assoc]

end

end Encoding
