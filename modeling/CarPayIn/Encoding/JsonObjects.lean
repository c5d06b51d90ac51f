import CarPayIn.Encoding.JsonRoundTrip
import CarPayIn.Encoding.Utf8

/-! # Objects that are sent as UTF-8

With `ensure_ascii=False` a text is written as it is, up to the characters that
a string cannot hold. An object of texts and whole numbers that was encoded as
UTF-8 is read with the same fields by whoever parses its bytes.
-/

namespace Encoding

/-- A field of an object that is neither a list nor an object. -/
inductive Scalar where
  | null
  | int (n : Int)
  | str (s : Text)
deriving DecidableEq, Repr

variable {F : Type} {fmt : FloatFormat F} {style : Style}

def Scalar.value : Scalar → Value F
  | .null => .null
  | .int n => .int n
  | .str s => .str s

/-! ## Text -/

/-- `ESCAPE_DCT`, for the characters that `ESCAPE` matches. -/
def escapePlain (c : Nat) : Text :=
  if c = 34 then [92, 34]
  else if c = 92 then [92, 92]
  else if c = 10 then [92, 110]
  else if c = 13 then [92, 114]
  else if c = 9 then [92, 116]
  else if c = 12 then [92, 102]
  else if c = 8 then [92, 98]
  else if c < 32 then unicodeEscape c
  else [c]

def plainQuoted (s : Text) : Text := 34 :: s.flatMap escapePlain ++ [34]

namespace Scalar

def text : Scalar → Text
  | .null => nullWord
  | .int n => intText n
  | .str s => plainQuoted s

def printable : Scalar → Bool
  | .int n => (decimal n.natAbs).length ≤ maxStrDigits
  | _ => true

end Scalar

variable (style) in
def fieldText (e : Text × Scalar) : Text := plainQuoted e.1 ++ 58 :: (style.gap ++ e.2.text)

variable (style) in
/-- `json.dumps(es, ensure_ascii=False)`; an integer may have too many digits. -/
def dumpsObject (es : List (Text × Scalar)) : Option Text :=
  if es.all (·.2.printable) then
    some (123 :: commaJoin style.gap ((style.order es).map (fieldText style)) ++ [125])
  else none

/-! ## Strings -/

theorem scanString_escapePlain (c : Nat) (t : Text) :
    scanString 0 (escapePlain c ++ t) = (scanString 0 t).map fun x => (c :: x.1, x.2) := by
  unfold escapePlain
  split_ifs with h1 h2 h3 h4 h5 h6 h7 h8
  · subst h1
    exact scanString_escaped (by decide) (by decide) t
  · subst h2
    exact scanString_escaped (by decide) (by decide) t
  · subst h3
    exact scanString_escaped (by decide) (by decide) t
  · subst h4
    exact scanString_escaped (by decide) (by decide) t
  · subst h5
    exact scanString_escaped (by decide) (by decide) t
  · subst h6
    exact scanString_escaped (by decide) (by decide) t
  · subst h7
    exact scanString_escaped (by decide) (by decide) t
  · rw [scanString_unicodeEscape (by omega), afterChar_of_not_high (not_high_of_lt (by omega))]
  · exact scanString_plain h1 h2 (by omega) t

/-- Every text is read as it is, also one with halves of surrogate pairs. -/
theorem scanString_plainQuoted (s r : Text) :
    scanString 0 (s.flatMap escapePlain ++ 34 :: r) = some (s, r) := by
  induction s with
  | nil => exact scanString_end r
  | cons c s ih =>
      rw [List.flatMap_cons, List.append_assoc, scanString_escapePlain, ih]
      rfl

theorem plainQuoted_append (s r : Text) :
    plainQuoted s ++ r = 34 :: (s.flatMap escapePlain ++ 34 :: r) := by
  simp [plainQuoted]

/-! ## Fields -/

theorem Scalar.text_start (v : Scalar) : ∃ c s, v.text = c :: s ∧ IsStart c := by
  cases v with
  | null => exact ⟨110, _, rfl, rfl, by decide⟩
  | int n => exact (startsNumber_integer (isInteger_intText n)).isStart
  | str s => exact ⟨34, _, rfl, rfl, by decide⟩

theorem skipBlanks_text (v : Scalar) (t : Text) : skipBlanks (v.text ++ t) = v.text ++ t := by
  obtain ⟨c, s, hstart, hc⟩ := v.text_start
  rw [hstart]
  exact skipBlanks_start hc.1 _

theorem scanOnce_text {v : Scalar} (hprint : v.printable = true) (n : Nat) {r : Text}
    (hr : Follows r) : scanOnce fmt (n + 1) (v.text ++ r) = some (v.value, r) := by
  cases v with
  | null => simp [Scalar.text, Scalar.value, nullWord, scanOnce_other, scanWord, words, stripWord]
  | int k =>
      have hstart := startsNumber_integer (isInteger_intText k)
      rw [Scalar.text, scanOnce_number fmt (hstart.append r)]
      exact scanNumber_int fmt (of_decide_eq_true hprint) hr
  | str s =>
      rw [Scalar.text, plainQuoted_append]
      simp only [scanOnce, scanString_plainQuoted, Option.map_some]
      rfl

variable (style) in
theorem fields_start {es : List (Text × Scalar)} (hne : es ≠ []) (t : Text) :
    ∃ s, commaJoin style.gap (es.map (fieldText style)) ++ t = 34 :: s := by
  have hfields : ∀ t ∈ es.map (fieldText style), ∃ c s, t = c :: s ∧ c = 34 := by
    intro t ht
    obtain ⟨e, -, rfl⟩ := List.mem_map.mp ht
    exact ⟨34, _, rfl, rfl⟩
  obtain ⟨c, s, hstart, rfl⟩ := commaJoin_head style (by simpa using hne) hfields
  exact ⟨s ++ t, by rw [hstart, List.cons_append]⟩

variable (style) in
theorem skipBlanks_fields {es : List (Text × Scalar)} (hne : es ≠ []) (t : Text) :
    skipBlanks (style.gap ++ (commaJoin style.gap (es.map (fieldText style)) ++ t)) =
      commaJoin style.gap (es.map (fieldText style)) ++ t := by
  obtain ⟨s, hstart⟩ := fields_start style hne t
  rw [skipBlanks_gap, hstart]
  exact skipBlanks_start rfl s

variable (style) in
theorem length_le_commaJoin (es : List (Text × Scalar)) :
    es.length ≤ (commaJoin style.gap (es.map (fieldText style))).length := by
  induction es with
  | nil => exact Nat.zero_le _
  | cons e es ih =>
      have hone : 1 ≤ (fieldText style e).length := by simp [fieldText, plainQuoted]
      cases es with
      | nil => simpa [commaJoin] using hone
      | cons f fs =>
          simp only [List.map_cons, commaJoin, List.length_cons, List.length_append] at ih ⊢
          omega

variable (fmt style) in
theorem scanEntries_fields {es : List (Text × Scalar)} (hne : es ≠ [])
    (hprint : ∀ e ∈ es, e.2.printable = true) {n : Nat} (hn : es.length < n) (r : Text) :
    scanEntries fmt n (commaJoin style.gap (es.map (fieldText style)) ++ 125 :: r) =
      some (es.map fun e => (e.1, e.2.value), r) := by
  have hcomma (t : Text) : Follows (44 :: t) := by simp [Follows]
  have hbrace (t : Text) : Follows (125 :: t) := by simp [Follows]
  induction es generalizing n with
  | nil => exact absurd rfl hne
  | cons e es ih =>
      rw [List.length_cons] at hn
      obtain ⟨m, rfl⟩ : ∃ m, n = m + 1 := ⟨n - 1, by omega⟩
      have hread {r : Text} (hr : Follows r) :
          scanOnce fmt m (e.2.text ++ r) = some (e.2.value, r) := by
        obtain ⟨k, rfl⟩ : ∃ k, m = k + 1 := ⟨m - 1, by omega⟩
        exact scanOnce_text (hprint e (by simp)) k hr
      cases es with
      | nil =>
          simp only [List.map_cons, List.map_nil, commaJoin]
          rw [fieldText, List.append_assoc, plainQuoted_append, List.cons_append]
          simp only [scanEntries, scanString_plainQuoted, skipBlanks_start (c := 58) rfl,
            List.append_assoc, skipBlanks_gap, skipBlanks_text, hread (hbrace r),
            skipBlanks_start (c := 125) rfl]
      | cons f fs =>
          have hrest := ih (by simp) (fun e' he' => hprint e' (.tail _ he')) (n := m) (by omega)
          have hskip := skipBlanks_fields style (List.cons_ne_nil f fs) (125 :: r)
          simp only [List.map_cons, commaJoin] at hrest hskip ⊢
          rw [List.append_assoc, List.cons_append, fieldText, List.append_assoc, plainQuoted_append,
            List.cons_append, List.append_assoc, List.append_assoc]
          simp only [scanEntries, scanString_plainQuoted, skipBlanks_start (c := 58) rfl,
            skipBlanks_gap, skipBlanks_text, hread (hcomma _),
            skipBlanks_start (c := 44) rfl, hskip, hrest, Option.map_some]

/-! ## Objects -/

theorem loads_dumpsObject {es : List (Text × Scalar)} {t : Text}
    (hkeys : (es.map Prod.fst).Nodup) (h : dumpsObject style es = some t) :
    loads fmt t = some (.dict ((style.order es).map fun e => (e.1, e.2.value))) := by
  unfold dumpsObject at h
  split at h
  · rename_i hprint
    cases h
    have hprint : ∀ e ∈ style.order es, e.2.printable = true := fun e he =>
      List.all_eq_true.mp hprint e (style.mem_order.mp he)
    have hkeys := style.nodup_order hkeys
    generalize style.order es = fields at hprint hkeys ⊢
    unfold loads
    by_cases hne : fields = []
    · subst hne
      simp [commaJoin, scanOnce, skipBlanks_start (c := 123) rfl, skipBlanks_start (c := 125) rfl]
      rfl
    · have hlength := length_le_commaJoin style fields
      have hentries {n : Nat} (hn : fields.length < n) :=
        scanEntries_fields fmt style hne hprint hn []
      obtain ⟨s, hstart⟩ := fields_start style hne [125]
      have hs := congrArg List.length hstart
      simp only [List.length_append, List.length_cons, List.length_nil] at hs
      rw [hstart] at hentries
      rw [List.cons_append, hstart, skipBlanks_start rfl, scanOnce_entries, hentries,
        Option.map_some, dictOf_of_nodup]
      · rfl
      · rw [List.map_map]
        exact hkeys
      · simp only [List.length_cons]
        omega
  · cases h

/-! ## Bytes -/

theorem IsUnicode.append {s t : Text} (hs : IsUnicode s) (ht : IsUnicode t) : IsUnicode (s ++ t) := by
  intro c hc
  rcases List.mem_append.mp hc with hc | hc
  · exact hs c hc
  · exact ht c hc

theorem AllPlain.isUnicode {t : Text} (h : AllPlain t) : IsUnicode t := by
  intro c hc
  have hplain := h c hc
  exact .inl (by omega)

theorem isUnicode_escapePlain {c : Nat} (hc : c.isValidChar) : IsUnicode (escapePlain c) := by
  unfold escapePlain
  split_ifs with h1 h2 h3 h4 h5 h6 h7 h8
  · exact AllPlain.isUnicode (by decide)
  · exact AllPlain.isUnicode (by decide)
  · exact AllPlain.isUnicode (by decide)
  · exact AllPlain.isUnicode (by decide)
  · exact AllPlain.isUnicode (by decide)
  · exact AllPlain.isUnicode (by decide)
  · exact AllPlain.isUnicode (by decide)
  · exact (plain_unicodeEscape c).isUnicode
  · intro d hd
    rwa [List.mem_singleton.mp hd]

theorem isUnicode_plainQuoted {s : Text} (hs : IsUnicode s) : IsUnicode (plainQuoted s) := by
  have hquote : IsUnicode [34] := AllPlain.isUnicode (by decide)
  refine IsUnicode.append (hquote.append ?_) hquote
  intro d hd
  obtain ⟨c, hc, hd⟩ := List.mem_flatMap.mp hd
  exact isUnicode_escapePlain (hs c hc) d hd

def Scalar.IsUnicode : Scalar → Prop
  | .str s => Encoding.IsUnicode s
  | _ => True

theorem Scalar.IsUnicode.text {v : Scalar} (h : v.IsUnicode) : Encoding.IsUnicode v.text := by
  cases v with
  | null => exact AllPlain.isUnicode (by decide)
  | int n => exact (plain_integer (isInteger_intText n)).isUnicode
  | str s => exact isUnicode_plainQuoted h

/-- Each name occurs once, and all of the text can be encoded. -/
structure Encodable (es : List (Text × Scalar)) : Prop where
  nonempty : es ≠ []
  keys : (es.map Prod.fst).Nodup
  names : ∀ e ∈ es, IsUnicode e.1
  values : ∀ e ∈ es, e.2.IsUnicode

theorem isUnicode_commaJoin {ts : List Text} (h : ∀ t ∈ ts, IsUnicode t) :
    IsUnicode (commaJoin style.gap ts) := by
  have hgap := (plain_gap style).isUnicode
  have hcomma : IsUnicode [44] := AllPlain.isUnicode (by decide)
  induction ts with
  | nil => exact List.forall_mem_nil _
  | cons t ts ih =>
      have ht := h t (by simp)
      cases ts with
      | nil => exact ht
      | cons u us =>
          have hus := ih fun t' ht' => h t' (.tail _ ht')
          exact ht.append (hcomma.append (hgap.append hus))

theorem Encodable.isUnicode {es : List (Text × Scalar)} (hes : Encodable es) {t : Text}
    (h : dumpsObject style es = some t) : IsUnicode t := by
  have hbrace : IsUnicode [123] := AllPlain.isUnicode (by decide)
  have hcolon : IsUnicode [58] := AllPlain.isUnicode (by decide)
  unfold dumpsObject at h
  split at h
  · cases h
    refine IsUnicode.append (hbrace.append (isUnicode_commaJoin ?_)) (AllPlain.isUnicode (by decide))
    intro t ht
    obtain ⟨e, he, rfl⟩ := List.mem_map.mp ht
    have he := style.mem_order.mp he
    have hvalue := (plain_gap style).isUnicode.append (hes.values e he).text
    exact (isUnicode_plainQuoted (hes.names e he)).append (hcolon.append hvalue)
  · cases h

variable (style) in
/-- `json.dumps(es, ensure_ascii=False).encode("utf-8")`. -/
def objectBytes (es : List (Text × Scalar)) : Option Bytes := (dumpsObject style es).bind encodeUtf8

variable (fmt) in
/-- `json.loads(b)`. -/
def loadsBytes (b : Bytes) : Option (Value F) :=
  (decodeDetected (b.map UInt8.toNat)).bind (loads fmt)

theorem objectBytes_isSome {es : List (Text × Scalar)} (hes : Encodable es) :
    (objectBytes style es).isSome = es.all (·.2.printable) := by
  unfold objectBytes
  cases hdumps : dumpsObject style es with
  | none =>
      unfold dumpsObject at hdumps
      split at hdumps
      · cases hdumps
      · rename_i hprint
        exact (Bool.eq_false_iff.mpr hprint).symm
  | some t =>
      obtain ⟨b, hb⟩ := encodeUtf8_isSome (hes.isUnicode hdumps)
      unfold dumpsObject at hdumps
      split at hdumps
      · rename_i hprint
        simp [hb, hprint]
      · cases hdumps

/-- The first bytes are a brace and a quote, so that they are taken for UTF-8. -/
theorem dumpsObject_start {es : List (Text × Scalar)} (hne : es ≠ []) {t : Text}
    (h : dumpsObject style es = some t) : ∃ s, t = 123 :: 34 :: s := by
  have horder : style.order es ≠ [] := by
    intro hnil
    have hperm := style.order_perm es
    rw [hnil] at hperm
    exact hne hperm.nil_eq.symm
  unfold dumpsObject at h
  split at h
  · cases h
    obtain ⟨s, hs⟩ := fields_start style horder [125]
    exact ⟨s, by rw [List.cons_append, hs]⟩
  · cases h

/-- What is read from the bytes of an object are its fields. -/
theorem loadsBytes_objectBytes {es : List (Text × Scalar)} (hes : Encodable es) {b : Bytes}
    (h : objectBytes style es = some b) :
    loadsBytes fmt b = some (.dict ((style.order es).map fun e => (e.1, e.2.value))) := by
  obtain ⟨t, ht, hb⟩ := Option.bind_eq_some_iff.mp h
  have hutf8 := decodeUtf8_encodeUtf8 (hes.isUnicode ht) hb
  have hdetect : decodeDetected (b.map UInt8.toNat) = decodeUtf8 (b.map UInt8.toNat) := by
    obtain ⟨s, rfl⟩ := dumpsObject_start hes.nonempty ht
    obtain ⟨bs, rest, hbrace, hrest, rfl⟩ := encodeUtf8_cons hb
    obtain ⟨bs', rest', hquote, -, rfl⟩ := encodeUtf8_cons hrest
    cases hbrace
    cases hquote
    exact decodeDetected_of_ascii (by decide) (by decide) _
  rw [loadsBytes, hdetect, hutf8, Option.bind_some, loads_dumpsObject hes.keys ht]

variable (style) in
theorem get?_order {es : List (Text × Scalar)} (hkeys : (es.map Prod.fst).Nodup)
    {e : Text × Scalar} (he : e ∈ es) :
    get? ((style.order es).map fun e => (e.1, (e.2.value : Value F))) e.1 = some e.2.value := by
  apply get?_of_mem (e := (e.1, e.2.value))
  · rw [List.map_map]
    exact style.nodup_order hkeys
  · exact List.mem_map.mpr ⟨e, style.mem_order.mpr he, rfl⟩

/-! ## Objects with given names -/

def named (es : List (String × Scalar)) : List (Text × Scalar) := es.map fun e => (text e.1, e.2)

theorem mem_named {es : List (String × Scalar)} {e : String × Scalar} (he : e ∈ es) :
    (text e.1, e.2) ∈ named es := List.mem_map.mpr ⟨e, he, rfl⟩

theorem encodable_named {es : List (String × Scalar)} (hne : es ≠ [])
    (hkeys : (es.map Prod.fst).Nodup) (hvalues : ∀ e ∈ es, e.2.IsUnicode) :
    Encodable (named es) where
  nonempty := by simpa [named] using hne
  keys := by
    have hmap := hkeys.map text_injective
    rw [List.map_map] at hmap
    rw [named, List.map_map]
    exact hmap
  names := by
    intro e he
    obtain ⟨e, -, rfl⟩ := List.mem_map.mp he
    exact isUnicode_text e.1
  values := by
    intro e he
    obtain ⟨e', he', rfl⟩ := List.mem_map.mp he
    exact hvalues e' he'

end Encoding
