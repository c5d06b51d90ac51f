import Mathlib.Data.List.Basic

/-! # Text and bytes

A Python string is the list of its code points, which may be halves of a
surrogate pair, and `bytes` is the list of its bytes.
-/

namespace Encoding

abbrev Text := List Nat

abbrev Bytes := List UInt8

def text (s : String) : Text := s.toList.map Char.toNat

def IsText (t : Text) : Prop := ∀ c ∈ t, c < 0x110000

/-- The characters of a `String` are no halves of surrogate pairs. -/
theorem mem_text {s : String} {c : Nat} (hc : c ∈ text s) :
    c < 0xD800 ∨ 0xDFFF < c ∧ c < 0x110000 := by
  obtain ⟨d, -, rfl⟩ := List.mem_map.mp hc
  exact d.valid

theorem text_injective : Function.Injective text := by
  intro s s' h
  have htoNat : Function.Injective Char.toNat := fun c d h => Char.toNat_inj.mp h
  exact String.toList_inj.mp (List.map_injective_iff.mpr htoNat h)

theorem isText_text (s : String) : IsText (text s) := by
  intro c hc
  have hvalid := mem_text hc
  omega

/-- `text.encode("ascii")`, if nothing in the text is beyond ASCII. -/
def encodeAscii (t : Text) : Option Bytes :=
  if t.all (· < 128) then some (t.map UInt8.ofNat) else none

def decodeAscii (b : Bytes) : Text := b.map UInt8.toNat

theorem toNat_ofNat {n : Nat} (h : n < 128) : (UInt8.ofNat n).toNat = n := by
  rw [UInt8.toNat_ofNat']
  omega

theorem decodeAscii_map {t : Text} (h : ∀ c ∈ t, c < 128) :
    decodeAscii (t.map UInt8.ofNat) = t := by
  induction t with
  | nil => rfl
  | cons c t ih =>
      have hc := toNat_ofNat (h c (.head _))
      have ht := ih fun c' hc' => h c' (.tail _ hc')
      simp only [decodeAscii, List.map_cons] at ht ⊢
      rw [hc, ht]

theorem decodeAscii_encodeAscii {t : Text} {b : Bytes} (h : encodeAscii t = some b) :
    decodeAscii b = t := by
  unfold encodeAscii at h
  split at h
  · rename_i hall
    cases h
    exact decodeAscii_map fun c hc => of_decide_eq_true (List.all_eq_true.mp hall c hc)
  · cases h

theorem encodeAscii_decodeAscii {b : Bytes} (h : ∀ c ∈ b, c.toNat < 128) :
    encodeAscii (decodeAscii b) = some b := by
  unfold encodeAscii decodeAscii
  rw [if_pos]
  · rw [List.map_map]
    exact congrArg some (List.map_id'' (fun c => UInt8.ofNat_toNat) b)
  · rw [List.all_map, List.all_eq_true]
    intro c hc
    exact decide_eq_true (h c hc)

/-- The bytes of one character, if it is no half of a surrogate pair. -/
def utf8Char (c : Nat) : Option Bytes :=
  if c < 0x80 then some [.ofNat c]
  else if c < 0x800 then some [.ofNat (0xC0 + c / 0x40), .ofNat (0x80 + c % 0x40)]
  else if 0xD800 ≤ c ∧ c ≤ 0xDFFF then none
  else if c < 0x10000 then
    some [.ofNat (0xE0 + c / 0x1000), .ofNat (0x80 + c / 0x40 % 0x40), .ofNat (0x80 + c % 0x40)]
  else
    some [.ofNat (0xF0 + c / 0x40000), .ofNat (0x80 + c / 0x1000 % 0x40),
      .ofNat (0x80 + c / 0x40 % 0x40), .ofNat (0x80 + c % 0x40)]

/-- `text.encode("utf-8")`. -/
def encodeUtf8 (t : Text) : Option Bytes := (t.mapM utf8Char).map List.flatten

theorem encodeUtf8_ascii {t : Text} (h : ∀ c ∈ t, c < 128) :
    encodeUtf8 t = some (t.map UInt8.ofNat) := by
  unfold encodeUtf8
  induction t with
  | nil => rfl
  | cons c t ih =>
      have hc := h c (.head _)
      have ht := ih fun c' hc' => h c' (.tail _ hc')
      obtain ⟨bs, hbs, hflat⟩ := Option.map_eq_some_iff.mp ht
      have hchar : utf8Char c = some [.ofNat c] := if_pos hc
      rw [List.mapM_cons, hchar, hbs]
      simp [hflat]

/-- `text.split(separator, 1)` where the separator occurs. -/
def splitOnce (separator : Nat) : Text → Option (Text × Text)
  | [] => none
  | c :: t =>
      if c = separator then some ([], t)
      else (splitOnce separator t).map fun (before, after) => (c :: before, after)

theorem splitOnce_eq_some {separator : Nat} {t before after : Text}
    (h : splitOnce separator t = some (before, after)) :
    t = before ++ separator :: after ∧ separator ∉ before := by
  induction t generalizing before with
  | nil => cases h
  | cons c t ih =>
      unfold splitOnce at h
      by_cases hc : c = separator
      · rw [if_pos hc] at h
        cases h
        simp [hc]
      · rw [if_neg hc] at h
        obtain ⟨⟨before', after'⟩, hsplit, hpair⟩ := Option.map_eq_some_iff.mp h
        cases hpair
        obtain ⟨ht, hbefore⟩ := ih hsplit
        constructor
        · rw [ht]
          rfl
        · simp [Ne.symm hc, hbefore]

theorem splitOnce_append {separator : Nat} {before after : Text} (h : separator ∉ before) :
    splitOnce separator (before ++ separator :: after) = some (before, after) := by
  induction before with
  | nil => simp [splitOnce]
  | cons c before ih =>
      simp only [List.mem_cons, not_or] at h
      simp [splitOnce, Ne.symm h.1, ih h.2]

/-! ## Surrogates -/

def isHigh (c : Nat) : Bool := 0xD800 ≤ c && c ≤ 0xDBFF

def isLow (c : Nat) : Bool := 0xDC00 ≤ c && c ≤ 0xDFFF

def joinSurrogates (high low : Nat) : Nat := 0x10000 + (high - 0xD800) * 0x400 + (low - 0xDC00)

/-! ## Decoders

Each lets lone surrogates pass, as the error handler `surrogatepass` does. -/

def isTail (b : Nat) : Bool := 0x80 ≤ b && b ≤ 0xBF

/-- The bytes that may follow the first byte of three, or of four. -/
def isSecond (a b : Nat) : Bool :=
  isTail b && (a ≠ 0xE0 || 0xA0 ≤ b) && (a ≠ 0xF0 || 0x90 ≤ b) && (a ≠ 0xF4 || b ≤ 0x8F)

def decodeUtf8 : List Nat → Option Text
  | [] => some []
  | a :: s =>
      if a < 0x80 then (decodeUtf8 s).map (a :: ·)
      else if a < 0xC2 then none
      else if a < 0xE0 then match s with
        | b :: s =>
            if isTail b then (decodeUtf8 s).map ((a % 0x20 * 0x40 + b % 0x40) :: ·) else none
        | _ => none
      else if a < 0xF0 then match s with
        | b :: c :: s =>
            if isSecond a b && isTail c then
              (decodeUtf8 s).map ((a % 0x10 * 0x1000 + b % 0x40 * 0x40 + c % 0x40) :: ·)
            else none
        | _ => none
      else if a < 0xF5 then match s with
        | b :: c :: d :: s =>
            if isSecond a b && isTail c && isTail d then
              (decodeUtf8 s).map
                ((a % 8 * 0x40000 + b % 0x40 * 0x1000 + c % 0x40 * 0x40 + d % 0x40) :: ·)
            else none
        | _ => none
      else none

/-- The units of two bytes; the last of them must be whole. -/
def units16 (big : Bool) : List Nat → Option (List Nat)
  | [] => some []
  | [_] => none
  | a :: b :: s => (units16 big s).map ((if big then a * 0x100 + b else b * 0x100 + a) :: ·)

/-- Pairs of surrogates become the character they stand for. -/
def joinPairs : List Nat → Text
  | [] => []
  | [c] => [c]
  | c :: d :: s =>
      if isHigh c && isLow d then joinSurrogates c d :: joinPairs s else c :: joinPairs (d :: s)

theorem joinPairs_of_not_high {t : Text} (h : ∀ c ∈ t, isHigh c = false) : joinPairs t = t := by
  fun_induction joinPairs t with
  | case1 => rfl
  | case2 c => rfl
  | case3 c d s hpair ih => simp [h c (by simp)] at hpair
  | case4 c d s hpair ih => rw [ih fun c' hc' => h c' (.tail _ hc')]

/-- Text without surrogates is not changed. -/
theorem joinPairs_text (s : String) : joinPairs (text s) = text s := by
  apply joinPairs_of_not_high
  intro c hc
  have hvalid := mem_text hc
  simp [isHigh]
  omega

/-- Pairs stand for characters beyond the first plane, so where there are none nothing was joined. -/
theorem joinPairs_eq_of_plane {t : Text} (h : ∀ c ∈ joinPairs t, c < 0x10000) : joinPairs t = t := by
  fun_induction joinPairs t with
  | case1 => rfl
  | case2 c => rfl
  | case3 c d s hpair ih =>
      have hwide := h (joinSurrogates c d) List.mem_cons_self
      unfold joinSurrogates at hwide
      omega
  | case4 c d s hpair ih => rw [ih fun c' hc' => h c' (List.mem_cons_of_mem _ hc')]

def decodeUtf16 (big : Bool) (s : List Nat) : Option Text := (units16 big s).map joinPairs

def decodeUtf32 (big : Bool) : List Nat → Option Text
  | [] => some []
  | a :: b :: c :: d :: s =>
      let point := if big then a * 0x1000000 + b * 0x10000 + c * 0x100 + d
        else d * 0x1000000 + c * 0x10000 + b * 0x100 + a
      if point < 0x110000 then (decodeUtf32 big s).map (point :: ·) else none
  | _ => none

/-- The decoder of JSON bytes: `detect_encoding` looks at a byte order mark, and
otherwise at where the first zero bytes are. -/
def decodeDetected (s : List Nat) : Option Text :=
  match s with
  | 0x00 :: 0x00 :: 0xFE :: 0xFF :: rest => decodeUtf32 true rest
  | 0xFF :: 0xFE :: 0x00 :: 0x00 :: rest => decodeUtf32 false rest
  | 0xFE :: 0xFF :: rest => decodeUtf16 true rest
  | 0xFF :: 0xFE :: rest => decodeUtf16 false rest
  | 0xEF :: 0xBB :: 0xBF :: rest => decodeUtf8 rest
  | a :: b :: c :: d :: _ =>
      if a = 0 then if b = 0 then decodeUtf32 true s else decodeUtf16 true s
      else if b = 0 then
        if c = 0 && d = 0 then decodeUtf32 false s else decodeUtf16 false s
      else decodeUtf8 s
  | [a, b] =>
      if a = 0 then decodeUtf16 true s else if b = 0 then decodeUtf16 false s else decodeUtf8 s
  | _ => decodeUtf8 s

theorem decodeUtf8_ascii {t : Text} (h : ∀ c ∈ t, c < 128) : decodeUtf8 t = some t := by
  induction t with
  | nil => rfl
  | cons c t ih =>
      have hc := h c (.head _)
      unfold decodeUtf8
      rw [if_pos hc, ih fun c' hc' => h c' (.tail _ hc')]
      rfl

/-- Text without a zero and without a byte order mark is read as what it is. -/
theorem decodeDetected_ascii {t : Text} (h : ∀ c ∈ t, 0 < c ∧ c < 128) :
    decodeDetected t = some t := by
  have hutf8 : decodeUtf8 t = some t := decodeUtf8_ascii fun c hc => (h c hc).2
  unfold decodeDetected
  split
  · exact absurd (h 0 (by simp)).1 (Nat.lt_irrefl 0)
  · exact absurd (h 0xFF (by simp)).2 (by decide)
  · exact absurd (h 0xFE (by simp)).2 (by decide)
  · exact absurd (h 0xFF (by simp)).2 (by decide)
  · exact absurd (h 0xEF (by simp)).2 (by decide)
  · rename_i a b c d rest _ _ _ _ _
    have ha : a ≠ 0 := Nat.ne_of_gt (h a (by simp)).1
    have hb : b ≠ 0 := Nat.ne_of_gt (h b (by simp)).1
    rw [if_neg ha, if_neg hb, hutf8]
  · rename_i a b _ _
    have ha : a ≠ 0 := Nat.ne_of_gt (h a (by simp)).1
    have hb : b ≠ 0 := Nat.ne_of_gt (h b (by simp)).1
    rw [if_neg ha, if_neg hb, hutf8]
  · exact hutf8

end Encoding
