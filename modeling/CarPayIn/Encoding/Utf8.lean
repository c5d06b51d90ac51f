import CarPayIn.Encoding.Text

/-! # UTF-8 there and back

The bytes of a character are read as that character, whatever follows them.
Text that has no halves of surrogate pairs can be encoded, and what was encoded
is decoded to the text it was.
-/

namespace Encoding

theorem isTail_of_lt {n : Nat} (h : n < 0x40) : isTail (0x80 + n) = true := by
  simp [isTail]
  omega

theorem decodeUtf8_two {a n : Nat} (ha : 2 ≤ a ∧ a < 0x20) (hn : n < 0x40) (s : List Nat) :
    decodeUtf8 ((0xC0 + a) :: (0x80 + n) :: s) = (decodeUtf8 s).map ((a * 0x40 + n) :: ·) := by
  rw [decodeUtf8.eq_def]
  have hfirst : (0xC0 + a) % 0x20 = a := by omega
  have hsecond : (0x80 + n) % 0x40 = n := by omega
  simp only [isTail_of_lt hn, hfirst, hsecond, if_true]
  rw [if_neg (by omega), if_neg (by omega), if_pos (by omega)]

/-- Three bytes are read when the second one is in the range of the first. -/
theorem decodeUtf8_three {a n m : Nat} (ha : a < 0x10) (hn : n < 0x40) (hm : m < 0x40)
    (hlong : a = 0 → 0x20 ≤ n) (s : List Nat) :
    decodeUtf8 ((0xE0 + a) :: (0x80 + n) :: (0x80 + m) :: s) =
      (decodeUtf8 s).map ((a * 0x1000 + n * 0x40 + m) :: ·) := by
  have hsecond : isSecond (0xE0 + a) (0x80 + n) = true := by
    simp [isSecond, isTail_of_lt hn]
    omega
  have h₁ : (0xE0 + a) % 0x10 = a := by omega
  have h₂ : (0x80 + n) % 0x40 = n := by omega
  have h₃ : (0x80 + m) % 0x40 = m := by omega
  rw [decodeUtf8.eq_def]
  simp only [hsecond, isTail_of_lt hm, h₁, h₂, h₃, Bool.and_self, if_true]
  rw [if_neg (by omega), if_neg (by omega), if_neg (by omega), if_pos (by omega)]

theorem decodeUtf8_four {a n m k : Nat} (ha : a < 5) (hn : n < 0x40) (hm : m < 0x40) (hk : k < 0x40)
    (hlong : a = 0 → 0x10 ≤ n) (hlast : a = 4 → n < 0x10) (s : List Nat) :
    decodeUtf8 ((0xF0 + a) :: (0x80 + n) :: (0x80 + m) :: (0x80 + k) :: s) =
      (decodeUtf8 s).map ((a * 0x40000 + n * 0x1000 + m * 0x40 + k) :: ·) := by
  have hsecond : isSecond (0xF0 + a) (0x80 + n) = true := by
    simp [isSecond, isTail_of_lt hn]
    omega
  have h₁ : (0xF0 + a) % 8 = a := by omega
  have h₂ : (0x80 + n) % 0x40 = n := by omega
  have h₃ : (0x80 + m) % 0x40 = m := by omega
  have h₄ : (0x80 + k) % 0x40 = k := by omega
  rw [decodeUtf8.eq_def]
  simp only [hsecond, isTail_of_lt hm, isTail_of_lt hk, h₁, h₂, h₃, h₄, Bool.and_self, if_true]
  rw [if_neg (by omega), if_neg (by omega), if_neg (by omega), if_neg (by omega),
    if_pos (by omega)]

theorem toNat_ofNat_byte {n : Nat} (h : n < 0x100) : (UInt8.ofNat n).toNat = n := by
  rw [UInt8.toNat_ofNat']
  exact Nat.mod_eq_of_lt h

/-- The bytes of a character are read as the character. -/
theorem decodeUtf8_utf8Char {c : Nat} {bs : Bytes} (hc : c < 0x110000) (h : utf8Char c = some bs)
    (s : List Nat) : decodeUtf8 (bs.map UInt8.toNat ++ s) = (decodeUtf8 s).map (c :: ·) := by
  unfold utf8Char at h
  split_ifs at h with h₁ h₂ h₃ h₄
  · cases h
    rw [List.map_singleton, toNat_ofNat_byte (by omega), List.singleton_append, decodeUtf8.eq_def]
    simp only [if_pos h₁]
  · cases h
    simp only [List.map_cons, List.map_nil, List.cons_append, List.nil_append]
    rw [toNat_ofNat_byte (by omega), toNat_ofNat_byte (by omega),
      decodeUtf8_two (by omega) (by omega)]
    have hsum : c / 0x40 * 0x40 + c % 0x40 = c := by omega
    rw [hsum]
  · cases h
    simp only [List.map_cons, List.map_nil, List.cons_append, List.nil_append]
    rw [toNat_ofNat_byte (by omega), toNat_ofNat_byte (by omega), toNat_ofNat_byte (by omega),
      decodeUtf8_three (by omega) (by omega) (by omega) (by omega)]
    have hsum : c / 0x1000 * 0x1000 + c / 0x40 % 0x40 * 0x40 + c % 0x40 = c := by omega
    rw [hsum]
  · cases h
    simp only [List.map_cons, List.map_nil, List.cons_append, List.nil_append]
    rw [toNat_ofNat_byte (by omega), toNat_ofNat_byte (by omega), toNat_ofNat_byte (by omega),
      toNat_ofNat_byte (by omega),
      decodeUtf8_four (by omega) (by omega) (by omega) (by omega) (by omega) (by omega)]
    have hsum : c / 0x40000 * 0x40000 + c / 0x1000 % 0x40 * 0x1000 + c / 0x40 % 0x40 * 0x40 +
        c % 0x40 = c := by
      omega
    rw [hsum]

theorem encodeUtf8_cons {c : Nat} {t : Text} {b : Bytes} (h : encodeUtf8 (c :: t) = some b) :
    ∃ bs b', utf8Char c = some bs ∧ encodeUtf8 t = some b' ∧ b = bs ++ b' := by
  obtain ⟨bss, hbss, rfl⟩ := Option.map_eq_some_iff.mp h
  simp only [List.mapM_cons, Option.pure_def, Option.bind_eq_bind, Option.bind_eq_some_iff] at hbss
  obtain ⟨bs, hbs, bss', hrest, hcons⟩ := hbss
  cases hcons
  exact ⟨bs, bss'.flatten, hbs, by simp [encodeUtf8, hrest], List.flatten_cons⟩

/-- Every character stands for itself, and none is half of a surrogate pair. -/
def IsUnicode (t : Text) : Prop := ∀ c ∈ t, c.isValidChar

theorem isUnicode_text (s : String) : IsUnicode (text s) := fun _ hc => mem_text hc

/-- What was encoded is decoded to the text it was. -/
theorem decodeUtf8_encodeUtf8 {t : Text} {b : Bytes} (ht : IsUnicode t) (h : encodeUtf8 t = some b) :
    decodeUtf8 (b.map UInt8.toNat) = some t := by
  induction t generalizing b with
  | nil =>
      cases h
      rfl
  | cons c t ih =>
      obtain ⟨bs, b', hc, hrest, rfl⟩ := encodeUtf8_cons h
      have hrange : c < 0x110000 := by
        have hvalid := ht c (.head _)
        unfold Nat.isValidChar at hvalid
        omega
      rw [List.map_append, decodeUtf8_utf8Char hrange hc,
        ih (fun c' hc' => ht c' (.tail _ hc')) hrest]
      rfl

theorem utf8Char_isSome {c : Nat} (h : c.isValidChar) : ∃ bs, utf8Char c = some bs := by
  unfold Nat.isValidChar at h
  unfold utf8Char
  split
  · exact ⟨_, rfl⟩
  split
  · exact ⟨_, rfl⟩
  rw [if_neg (by omega)]
  split <;> exact ⟨_, rfl⟩

theorem encodeUtf8_isSome {t : Text} (h : IsUnicode t) : ∃ b, encodeUtf8 t = some b := by
  induction t with
  | nil => exact ⟨[], rfl⟩
  | cons c t ih =>
      obtain ⟨bs, hbs⟩ := utf8Char_isSome (h c (.head _))
      obtain ⟨b, hb⟩ := ih fun c' hc' => h c' (.tail _ hc')
      obtain ⟨bss, hbss, rfl⟩ := Option.map_eq_some_iff.mp hb
      exact ⟨bs ++ bss.flatten, by simp [encodeUtf8, hbs, hbss]⟩

/-- Bytes that start with two ASCII characters are decoded as UTF-8. -/
theorem decodeDetected_of_ascii {a b : Nat} (ha : 0 < a ∧ a < 0x80) (hb : 0 < b ∧ b < 0x80)
    (s : List Nat) : decodeDetected (a :: b :: s) = decodeUtf8 (a :: b :: s) := by
  have ha₀ : a ≠ 0 := by omega
  have hb₀ : b ≠ 0 := by omega
  unfold decodeDetected
  split
  · rename_i heq
    cases heq
    exact absurd rfl ha₀
  · rename_i heq
    cases heq
    omega
  · rename_i heq
    cases heq
    omega
  · rename_i heq
    cases heq
    omega
  · rename_i heq
    cases heq
    omega
  · rename_i heq
    cases heq
    rw [if_neg ha₀, if_neg hb₀]
  · rename_i heq
    cases heq
    rw [if_neg ha₀, if_neg hb₀]
  · rfl

end Encoding
