import CarPayIn.Encoding.Text

/-! # Base64

`binascii.a2b_base64` reads its input character by character, skips what is no
character of the alphabet, and stops at the last padding of a group of four.
-/

namespace Encoding

/-- The padding, `=`. -/
abbrev pad : UInt8 := 61

def base64Char (v : Nat) : UInt8 :=
  if v < 26 then .ofNat (65 + v)
  else if v < 52 then .ofNat (71 + v)
  else if v < 62 then .ofNat (v - 4)
  else if v = 62 then 43
  else 47

def base64Value? (c : UInt8) : Option Nat :=
  let n := c.toNat
  if 65 ≤ n ∧ n ≤ 90 then some (n - 65)
  else if 97 ≤ n ∧ n ≤ 122 then some (n - 71)
  else if 48 ≤ n ∧ n ≤ 57 then some (n + 4)
  else if n = 43 then some 62
  else if n = 47 then some 63
  else none

def b2aBase64 : Bytes → Bytes
  | [] => []
  | [a] => [base64Char (a.toNat / 4), base64Char (a.toNat % 4 * 16), pad, pad]
  | [a, b] =>
      [base64Char (a.toNat / 4), base64Char (a.toNat % 4 * 16 + b.toNat / 16),
        base64Char (b.toNat % 16 * 4), pad]
  | a :: b :: c :: s =>
      base64Char (a.toNat / 4) :: base64Char (a.toNat % 4 * 16 + b.toNat / 16) ::
        base64Char (b.toNat % 16 * 4 + c.toNat / 64) :: base64Char (c.toNat % 64) :: b2aBase64 s

/-- `quad` counts the characters of the group that were read, `left` holds the
bits of the last one that are not yet in a byte. -/
def a2bLoop (quad left pads : Nat) : Bytes → Option Bytes
  | [] => if quad = 0 then some [] else none
  | c :: s =>
      if c = pad then
        if quad < 2 then a2bLoop quad left pads s
        else if 4 ≤ quad + (pads + 1) then some []
        else a2bLoop quad left (pads + 1) s
      else match base64Value? c with
        | none => a2bLoop quad left pads s
        | some v => match quad with
            | 0 => a2bLoop 1 v 0 s
            | 1 => (a2bLoop 2 (v % 16) 0 s).map (.ofNat (left * 4 + v / 16) :: ·)
            | 2 => (a2bLoop 3 (v % 4) 0 s).map (.ofNat (left * 16 + v / 4) :: ·)
            | _ => (a2bLoop 0 0 0 s).map (.ofNat (left * 64 + v) :: ·)

/-- Nothing for `binascii.Error`. -/
def a2bBase64 (s : Bytes) : Option Bytes := a2bLoop 0 0 0 s

/-- `+` and `/` are written as `-` and `_`. -/
def toUrlSafe (c : UInt8) : UInt8 := if c = 43 then 45 else if c = 47 then 95 else c

def ofUrlSafe (c : UInt8) : UInt8 := if c = 45 then 43 else if c = 95 then 47 else c

def urlsafeB64encode (b : Bytes) : Bytes := (b2aBase64 b).map toUrlSafe

def urlsafeB64decode (s : Bytes) : Option Bytes := a2bBase64 (s.map ofUrlSafe)

/-- `s.rstrip(b"=")`. -/
def rstripPad (s : Bytes) : Bytes := (s.reverse.dropWhile (· = pad)).reverse

/-! ## The alphabet -/

theorem base64Value?_base64Char : ∀ v < 64, base64Value? (base64Char v) = some v := by decide

theorem base64Char_ne_pad : ∀ v < 64, base64Char v ≠ pad := by decide

theorem toUrlSafe_base64Char : ∀ v < 64,
    toUrlSafe (base64Char v) ≠ pad ∧ 46 ≠ (toUrlSafe (base64Char v)).toNat ∧
      (toUrlSafe (base64Char v)).toNat < 128 ∧
        ofUrlSafe (toUrlSafe (base64Char v)) = base64Char v := by
  decide

/-! ## Reading what was written -/

section
variable {v quad left pads : Nat} {s : Bytes}

theorem a2bLoop_zero (hv : v < 64) :
    a2bLoop 0 left pads (base64Char v :: s) = a2bLoop 1 v 0 s := by
  simp [a2bLoop, base64Char_ne_pad v hv, base64Value?_base64Char v hv]

theorem a2bLoop_one (hv : v < 64) : a2bLoop 1 left pads (base64Char v :: s) =
    (a2bLoop 2 (v % 16) 0 s).map (.ofNat (left * 4 + v / 16) :: ·) := by
  simp [a2bLoop, base64Char_ne_pad v hv, base64Value?_base64Char v hv]

theorem a2bLoop_two (hv : v < 64) : a2bLoop 2 left pads (base64Char v :: s) =
    (a2bLoop 3 (v % 4) 0 s).map (.ofNat (left * 16 + v / 4) :: ·) := by
  simp [a2bLoop, base64Char_ne_pad v hv, base64Value?_base64Char v hv]

theorem a2bLoop_three (hv : v < 64) : a2bLoop 3 left pads (base64Char v :: s) =
    (a2bLoop 0 0 0 s).map (.ofNat (left * 64 + v) :: ·) := by
  simp [a2bLoop, base64Char_ne_pad v hv, base64Value?_base64Char v hv]

end

theorem ofNat_eq {n : Nat} {a : UInt8} (h : n = a.toNat) : UInt8.ofNat n = a := by
  rw [h, UInt8.ofNat_toNat]

theorem a2bBase64_b2aBase64 (b : Bytes) : a2bBase64 (b2aBase64 b) = some b := by
  unfold a2bBase64
  fun_induction b2aBase64 b with
  | case1 => rfl
  | case2 a =>
      have ha := a.toNat_lt
      rw [a2bLoop_zero (by omega), a2bLoop_one (by omega)]
      have hbyte : UInt8.ofNat (a.toNat / 4 * 4 + a.toNat % 4 * 16 / 16) = a := ofNat_eq (by omega)
      rw [hbyte]
      simp [a2bLoop]
  | case3 a b =>
      have ha := a.toNat_lt
      have hb := b.toNat_lt
      rw [a2bLoop_zero (by omega), a2bLoop_one (by omega), a2bLoop_two (by omega)]
      have hfirst : UInt8.ofNat (a.toNat / 4 * 4 + (a.toNat % 4 * 16 + b.toNat / 16) / 16) = a :=
        ofNat_eq (by omega)
      have hsecond : UInt8.ofNat ((a.toNat % 4 * 16 + b.toNat / 16) % 16 * 16 +
          b.toNat % 16 * 4 / 4) = b := ofNat_eq (by omega)
      rw [hfirst, hsecond]
      simp [a2bLoop]
  | case4 a b c s ih =>
      have ha := a.toNat_lt
      have hb := b.toNat_lt
      have hc := c.toNat_lt
      rw [a2bLoop_zero (by omega), a2bLoop_one (by omega), a2bLoop_two (by omega),
        a2bLoop_three (by omega), ih]
      have hfirst : UInt8.ofNat (a.toNat / 4 * 4 + (a.toNat % 4 * 16 + b.toNat / 16) / 16) = a :=
        ofNat_eq (by omega)
      have hsecond : UInt8.ofNat ((a.toNat % 4 * 16 + b.toNat / 16) % 16 * 16 +
          (b.toNat % 16 * 4 + c.toNat / 64) / 4) = b := ofNat_eq (by omega)
      have hthird : UInt8.ofNat ((b.toNat % 16 * 4 + c.toNat / 64) % 4 * 64 + c.toNat % 64) = c :=
        ofNat_eq (by omega)
      rw [hfirst, hsecond, hthird]
      rfl

/-! ## The padding -/

/-- A character of the URL-safe alphabet. -/
def IsUrlSafe (c : UInt8) : Prop := ∃ v < 64, c = toUrlSafe (base64Char v)

/-- What is written is characters of the alphabet, padded to full groups. -/
theorem urlsafeB64encode_eq (b : Bytes) : ∃ body k,
    urlsafeB64encode b = body ++ List.replicate k pad ∧
    (∀ c ∈ body, IsUrlSafe c) ∧ (4 - body.length % 4) % 4 = k := by
  unfold urlsafeB64encode
  fun_induction b2aBase64 b with
  | case1 => exact ⟨[], 0, rfl, by simp, rfl⟩
  | case2 a =>
      have ha := a.toNat_lt
      refine ⟨[toUrlSafe (base64Char (a.toNat / 4)), toUrlSafe (base64Char (a.toNat % 4 * 16))], 2,
        rfl, ?_, rfl⟩
      simp only [List.mem_cons, List.not_mem_nil, or_false]
      rintro c (rfl | rfl)
      · exact ⟨_, by omega, rfl⟩
      · exact ⟨_, by omega, rfl⟩
  | case3 a b =>
      have ha := a.toNat_lt
      have hb := b.toNat_lt
      refine ⟨[toUrlSafe (base64Char (a.toNat / 4)),
        toUrlSafe (base64Char (a.toNat % 4 * 16 + b.toNat / 16)),
          toUrlSafe (base64Char (b.toNat % 16 * 4))], 1, rfl, ?_, rfl⟩
      simp only [List.mem_cons, List.not_mem_nil, or_false]
      rintro x (rfl | rfl | rfl)
      · exact ⟨_, by omega, rfl⟩
      · exact ⟨_, by omega, rfl⟩
      · exact ⟨_, by omega, rfl⟩
  | case4 a b c s ih =>
      have ha := a.toNat_lt
      have hb := b.toNat_lt
      have hc := c.toNat_lt
      obtain ⟨body, k, hs, hbody, hk⟩ := ih
      refine ⟨toUrlSafe (base64Char (a.toNat / 4)) ::
        toUrlSafe (base64Char (a.toNat % 4 * 16 + b.toNat / 16)) ::
          toUrlSafe (base64Char (b.toNat % 16 * 4 + c.toNat / 64)) ::
            toUrlSafe (base64Char (c.toNat % 64)) :: body, k, ?_, ?_, ?_⟩
      · simp [hs]
      · simp only [List.mem_cons]
        rintro x (rfl | rfl | rfl | rfl | hx)
        · exact ⟨_, by omega, rfl⟩
        · exact ⟨_, by omega, rfl⟩
        · exact ⟨_, by omega, rfl⟩
        · exact ⟨_, by omega, rfl⟩
        · exact hbody x hx
      · simp only [List.length_cons]
        omega

theorem rstripPad_append {body : Bytes} {k : Nat} (h : ∀ c ∈ body, c ≠ pad) :
    rstripPad (body ++ List.replicate k pad) = body := by
  unfold rstripPad
  rw [List.reverse_append, List.reverse_replicate, List.dropWhile_append_of_pos (by simp)]
  cases hbody : body.reverse with
  | nil => simpa using hbody
  | cons c s =>
      have hlast : c ≠ pad := h c (List.mem_reverse.mp (by simp [hbody]))
      rw [List.dropWhile_cons_of_neg (by simpa using hlast), ← hbody, List.reverse_reverse]

theorem map_ofUrlSafe (b : Bytes) : (urlsafeB64encode b).map ofUrlSafe = b2aBase64 b := by
  unfold urlsafeB64encode
  fun_induction b2aBase64 b with
  | case1 => rfl
  | case2 a =>
      have ha := a.toNat_lt
      simp [toUrlSafe_base64Char (a.toNat / 4) (by omega),
        toUrlSafe_base64Char (a.toNat % 4 * 16) (by omega)]
      decide
  | case3 a b =>
      have ha := a.toNat_lt
      have hb := b.toNat_lt
      simp [toUrlSafe_base64Char (a.toNat / 4) (by omega),
        toUrlSafe_base64Char (a.toNat % 4 * 16 + b.toNat / 16) (by omega),
        toUrlSafe_base64Char (b.toNat % 16 * 4) (by omega)]
      decide
  | case4 a b c s ih =>
      have ha := a.toNat_lt
      have hb := b.toNat_lt
      have hc := c.toNat_lt
      simp only [List.map_cons, ih, toUrlSafe_base64Char (a.toNat / 4) (by omega),
        toUrlSafe_base64Char (a.toNat % 4 * 16 + b.toNat / 16) (by omega),
        toUrlSafe_base64Char (b.toNat % 16 * 4 + c.toNat / 64) (by omega),
        toUrlSafe_base64Char (c.toNat % 64) (by omega)]

/-- Text without its padding is read again once the padding is restored. -/
theorem urlsafeB64decode_rstripPad (b : Bytes) : ∃ body, rstripPad (urlsafeB64encode b) = body ∧
    (∀ c ∈ body, IsUrlSafe c) ∧
      urlsafeB64decode (body ++ List.replicate ((4 - body.length % 4) % 4) pad) = some b := by
  obtain ⟨body, k, hencoded, hbody, hk⟩ := urlsafeB64encode_eq b
  refine ⟨body, ?_, hbody, ?_⟩
  · rw [hencoded]
    apply rstripPad_append
    intro c hc
    obtain ⟨v, hv, rfl⟩ := hbody c hc
    exact (toUrlSafe_base64Char v hv).1
  · rw [hk, ← hencoded]
    unfold urlsafeB64decode
    rw [map_ofUrlSafe, a2bBase64_b2aBase64]

end Encoding
