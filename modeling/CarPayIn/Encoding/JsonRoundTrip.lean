import CarPayIn.Encoding.JsonForm
import CarPayIn.Encoding.JsonScalars

/-! # Reading back what was written

The text of a value is read as the value it stands for, in front of whatever may
follow a value. The fuel of the scanner is twice the length of the text.
-/

namespace Encoding

variable {F : Type} (fmt : FloatFormat F)

/-! ## How a text starts -/

/-- The start of a value, which is neither a blank nor the end of a list. -/
def IsStart (c : Nat) : Prop := isBlank c = false ∧ c ≠ 93

theorem isStart_of_digit {c : Nat} (hc : isDigit c = true) : IsStart c := by
  have hdigit := isDigit_iff.mp hc
  constructor
  · simp [isBlank]
    omega
  · omega

/-- The text of a number starts with a digit, or with a sign and a digit. -/
def StartsNumber (t : Text) : Prop :=
  ∃ c s, t = c :: s ∧ (isDigit c = true ∨ c = 45 ∧ ∃ d s', s = d :: s' ∧ isDigit d = true)

theorem startsNumber_integer {t : Text} (h : IsInteger t) : StartsNumber t := by
  cases h with
  | unsigned hds =>
      cases hds with
      | zero => exact ⟨48, [], rfl, .inl rfl⟩
      | digits hc hds => exact ⟨_, _, rfl, .inl (isDigit_iff.mpr (by omega))⟩
  | negative hds =>
      cases hds with
      | zero => exact ⟨45, [48], rfl, .inr ⟨rfl, 48, [], rfl, rfl⟩⟩
      | digits hc hds => exact ⟨45, _, rfl, .inr ⟨rfl, _, _, rfl, isDigit_iff.mpr (by omega)⟩⟩

theorem StartsNumber.append {t : Text} (h : StartsNumber t) (r : Text) : StartsNumber (t ++ r) := by
  obtain ⟨c, s, rfl, hc | ⟨rfl, d, s', rfl, hd⟩⟩ := h
  · exact ⟨c, s ++ r, rfl, .inl hc⟩
  · exact ⟨45, d :: s' ++ r, rfl, .inr ⟨rfl, d, s' ++ r, rfl, hd⟩⟩

theorem startsNumber_float {t : Text} (h : IsFloatText t) : StartsNumber t := by
  obtain ⟨integer, fraction, exponent, rfl, hinteger, -⟩ := h
  rw [List.append_assoc]
  exact StartsNumber.append (startsNumber_integer hinteger) _

/-- No word is the start of a number. -/
theorem scanWord_number {t : Text} (h : StartsNumber t) : scanWord fmt t = none := by
  obtain ⟨c, s, rfl, hc | ⟨rfl, d, s', rfl, hd⟩⟩ := h
  · have hdigit := isDigit_iff.mp hc
    have h1 : 110 ≠ c := by omega
    have h2 : 116 ≠ c := by omega
    have h3 : 102 ≠ c := by omega
    have h4 : 78 ≠ c := by omega
    have h5 : 73 ≠ c := by omega
    have h6 : 45 ≠ c := by omega
    simp [scanWord, words, nullWord, trueWord, falseWord, nanWord, infinityWord, negInfinityWord,
      stripWord, h1, h2, h3, h4, h5, h6]
  · have hdigit := isDigit_iff.mp hd
    have h1 : 73 ≠ d := by omega
    simp [scanWord, words, nullWord, trueWord, falseWord, nanWord, infinityWord, negInfinityWord,
      stripWord, h1]

theorem scanOnce_other {c : Nat} (hc : c ≠ 34 ∧ c ≠ 123 ∧ c ≠ 91) (n : Nat) (s : Text) :
    scanOnce fmt (n + 1) (c :: s) = (scanWord fmt (c :: s)).or (scanNumber fmt (c :: s)) := by
  rw [scanOnce.eq_def]
  split
  · rename_i heq
    cases heq
  · rename_i heq
    cases heq
    split
    · rename_i heq
      cases heq
      exact absurd rfl hc.1
    · rename_i heq
      cases heq
      exact absurd rfl hc.2.1
    · rename_i heq
      cases heq
      exact absurd rfl hc.2.2
    · rfl

theorem scanOnce_number {t : Text} (h : StartsNumber t) (n : Nat) :
    scanOnce fmt (n + 1) t = scanNumber fmt t := by
  have hword := scanWord_number fmt h
  obtain ⟨c, s, rfl, hc⟩ := h
  have hother : c ≠ 34 ∧ c ≠ 123 ∧ c ≠ 91 := by
    rcases hc with hc | ⟨rfl, -⟩
    · have hdigit := isDigit_iff.mp hc
      omega
    · decide
  rw [scanOnce_other fmt hother, hword, Option.none_or]

theorem StartsNumber.isStart {t : Text} (h : StartsNumber t) : ∃ c s, t = c :: s ∧ IsStart c := by
  obtain ⟨c, s, rfl, hc | ⟨rfl, -⟩⟩ := h
  · exact ⟨c, s, rfl, isStart_of_digit hc⟩
  · exact ⟨45, s, rfl, rfl, by decide⟩

theorem skipBlanks_start {c : Nat} (hc : isBlank c = false) (s : Text) :
    skipBlanks (c :: s) = c :: s :=
  List.dropWhile_cons_of_neg (by simp [hc])

theorem quoted_append (s r : Text) : quoted s ++ r = 34 :: (s.flatMap escapeChar ++ 34 :: r) := by
  simp [quoted]

theorem scanOnce_quoted {s : Text} (hs : IsText s) (n : Nat) (r : Text) :
    scanOnce fmt (n + 1) (quoted s ++ r) = some (.str (joinPairs s), r) := by
  rw [quoted_append]
  simp only [scanOnce, scanString_quoted hs, Option.map_some]

theorem scanOnce_items {c : Nat} (hc : IsStart c) (n : Nat) (s : Text) :
    scanOnce fmt (n + 1) (91 :: c :: s) =
      (scanItems fmt n (c :: s)).map fun x => (.list x.1, x.2) := by
  simp only [scanOnce, skipBlanks_start hc.1]
  split
  · rename_i heq
    cases heq
    exact absurd rfl hc.2
  · rfl

theorem scanOnce_entries (n : Nat) (s : Text) : scanOnce fmt (n + 1) (123 :: 34 :: s) =
    (scanEntries fmt n (34 :: s)).map fun x => (.dict (dictOf x.1), x.2) := by
  simp only [scanOnce, skipBlanks_start (c := 34) rfl]

section
variable [DecidableEq F] (style : Style)

theorem encode_start (v : Value F) : ∃ c s, encode fmt style v = c :: s ∧ IsStart c := by
  cases v with
  | null => exact ⟨110, _, rfl, rfl, by decide⟩
  | bool b =>
      cases b with
      | false => exact ⟨102, _, rfl, rfl, by decide⟩
      | true => exact ⟨116, _, rfl, rfl, by decide⟩
  | int n => exact (startsNumber_integer (isInteger_intText n)).isStart
  | float x =>
      rw [encode, floatstr]
      split_ifs with hnan hinf hneg
      · exact ⟨78, _, rfl, rfl, by decide⟩
      · exact ⟨73, _, rfl, rfl, by decide⟩
      · exact ⟨45, _, rfl, rfl, by decide⟩
      · rcases fmt.repr_eq x with h | h | h | ⟨h, -⟩
        · exact absurd h hnan
        · exact absurd h hinf
        · exact absurd h hneg
        · exact (startsNumber_float h).isStart
  | str s => exact ⟨34, _, rfl, rfl, by decide⟩
  | list xs => exact ⟨91, _, rfl, rfl, by decide⟩
  | dict es => exact ⟨123, _, rfl, rfl, by decide⟩

/-! ## Scalars -/

theorem scanOnce_float {x : F} {r : Text} (n : Nat) (hr : Follows r) :
    scanOnce fmt (n + 1) (floatstr fmt x ++ r) = some (.float x, r) := by
  unfold floatstr
  split_ifs with hnan hinf hneg
  · rw [hnan]
    simp [nanWord, scanOnce_other, scanWord, words, nullWord, trueWord, falseWord, stripWord]
  · rw [hinf]
    simp [infinityWord, scanOnce_other, scanWord, words, nullWord, trueWord, falseWord, nanWord,
      stripWord]
  · rw [hneg]
    simp [negInfinityWord, infinityWord, scanOnce_other, scanWord, words, nullWord, trueWord,
      falseWord, nanWord, stripWord]
  · rcases fmt.repr_eq x with h | h | h | ⟨h, hfloat⟩
    · exact absurd h hnan
    · exact absurd h hinf
    · exact absurd h hneg
    · rw [scanOnce_number fmt ((startsNumber_float h).append r), scanNumber_float fmt h hr, hfloat]

/-! ## Lists and dictionaries -/

omit [DecidableEq F] in
theorem skipBlanks_gap (t : Text) : skipBlanks (style.gap ++ t) = skipBlanks t := by
  unfold skipBlanks
  apply List.dropWhile_append_of_pos
  intro c hc
  rw [List.eq_of_mem_replicate hc]
  rfl

omit [DecidableEq F] in
theorem commaJoin_head {P : Nat → Prop} {ts : List Text} (hne : ts ≠ [])
    (h : ∀ t ∈ ts, ∃ c s, t = c :: s ∧ P c) : ∃ c s, commaJoin style.gap ts = c :: s ∧ P c := by
  cases ts with
  | nil => exact absurd rfl hne
  | cons t ts =>
      obtain ⟨c, s, rfl, hc⟩ := h t (by simp)
      cases ts with
      | nil => exact ⟨c, s, rfl, hc⟩
      | cons u ts => exact ⟨c, s ++ 44 :: (style.gap ++ commaJoin style.gap (u :: ts)), rfl, hc⟩

/-- In front of whatever may follow it, the text of the value is read as the value. -/
def Reads (v : Value F) : Prop :=
  ∀ (n : Nat) (r : Text), Follows r → 2 * (encode fmt style v).length ≤ n →
    scanOnce fmt n (encode fmt style v ++ r) = some (json style v, r)

theorem items_start {xs : List (Value F)} (hne : xs ≠ []) (t : Text) :
    ∃ c s, commaJoin style.gap (xs.map (encode fmt style)) ++ t = c :: s ∧ IsStart c := by
  have hitems : ∀ t ∈ xs.map (encode fmt style), ∃ c s, t = c :: s ∧ IsStart c := by
    intro t ht
    obtain ⟨v, -, rfl⟩ := List.mem_map.mp ht
    exact encode_start fmt style v
  obtain ⟨c, s, hstart, hc⟩ := commaJoin_head style (by simpa using hne) hitems
  exact ⟨c, s ++ t, by rw [hstart, List.cons_append], hc⟩

theorem skipBlanks_items {xs : List (Value F)} (hne : xs ≠ []) (t : Text) :
    skipBlanks (style.gap ++ (commaJoin style.gap (xs.map (encode fmt style)) ++ t)) =
      commaJoin style.gap (xs.map (encode fmt style)) ++ t := by
  obtain ⟨c, s, hstart, hc⟩ := items_start fmt style hne t
  rw [skipBlanks_gap, hstart]
  exact skipBlanks_start hc.1 s

theorem scanItems_commaJoin {xs : List (Value F)} (hne : xs ≠ [])
    (hxs : ∀ x ∈ xs, Reads fmt style x) {n : Nat} (r : Text) (hn : 2 * (commaJoin style.gap (xs.map (encode fmt style))).length < n) :
    scanItems fmt n (commaJoin style.gap (xs.map (encode fmt style)) ++ 93 :: r) =
      some (xs.map (json style), r) := by
  induction xs generalizing n with
  | nil => exact absurd rfl hne
  | cons x xs ih =>
      obtain ⟨m, rfl⟩ : ∃ m, n = m + 1 := ⟨n - 1, by omega⟩
      have hx := hxs x (by simp)
      cases xs with
      | nil =>
          simp only [List.map_cons, List.map_nil, commaJoin] at hn ⊢
          have hread := hx m (93 :: r) (by simp [Follows]) (by omega)
          simp only [scanItems, hread, skipBlanks_start (c := 93) rfl]
      | cons y ys =>
          have hrest := ih (by simp) (fun x' hx' => hxs x' (.tail _ hx')) (n := m)
          have hskip := skipBlanks_items fmt style (List.cons_ne_nil y ys) (93 :: r)
          simp only [List.map_cons, commaJoin, List.length_append, List.length_cons]
            at hn hrest hskip ⊢
          have hread := hx m (44 :: (style.gap ++
            (commaJoin style.gap (encode fmt style y :: ys.map (encode fmt style)) ++ 93 :: r)))
            (by simp [Follows]) (by omega)
          rw [List.append_assoc, List.cons_append, List.append_assoc]
          simp only [scanItems, hread, skipBlanks_start (c := 44) rfl, hskip, hrest (by omega),
            Option.map_some]

/-- A key and its value. -/
def entryText (e : Text × Value F) : Text :=
  quoted e.1 ++ 58 :: (style.gap ++ encode fmt style e.2)

theorem entries_start {es : List (Text × Value F)} (hne : es ≠ []) (t : Text) :
    ∃ s, commaJoin style.gap (es.map (entryText fmt style)) ++ t = 34 :: s := by
  have hentries : ∀ t ∈ es.map (entryText fmt style), ∃ c s, t = c :: s ∧ c = 34 := by
    intro t ht
    obtain ⟨e, -, rfl⟩ := List.mem_map.mp ht
    exact ⟨34, _, rfl, rfl⟩
  obtain ⟨c, s, hstart, rfl⟩ := commaJoin_head style (by simpa using hne) hentries
  exact ⟨s ++ t, by rw [hstart, List.cons_append]⟩

theorem skipBlanks_entries {es : List (Text × Value F)} (hne : es ≠ []) (t : Text) :
    skipBlanks (style.gap ++ (commaJoin style.gap (es.map (entryText fmt style)) ++ t)) =
      commaJoin style.gap (es.map (entryText fmt style)) ++ t := by
  obtain ⟨s, hstart⟩ := entries_start fmt style hne t
  rw [skipBlanks_gap, hstart]
  exact skipBlanks_start rfl s

theorem skipBlanks_encode (v : Value F) (t : Text) :
    skipBlanks (encode fmt style v ++ t) = encode fmt style v ++ t := by
  obtain ⟨c, s, hstart, hc⟩ := encode_start fmt style v
  rw [hstart]
  exact skipBlanks_start hc.1 _

theorem scanEntries_commaJoin {es : List (Text × Value F)} (hne : es ≠ [])
    (htexts : ∀ e ∈ es, IsText e.1) (hes : ∀ e ∈ es, Reads fmt style e.2) {n : Nat} (r : Text)
    (hn : 2 * (commaJoin style.gap (es.map (entryText fmt style))).length < n) :
    scanEntries fmt n (commaJoin style.gap (es.map (entryText fmt style)) ++ 125 :: r) =
      some (es.map fun e => (joinPairs e.1, json style e.2), r) := by
  induction es generalizing n with
  | nil => exact absurd rfl hne
  | cons e es ih =>
      obtain ⟨m, rfl⟩ : ∃ m, n = m + 1 := ⟨n - 1, by omega⟩
      have hvalue := hes e (by simp)
      have hkey := htexts e (by simp)
      cases es with
      | nil =>
          simp only [List.map_cons, List.map_nil, commaJoin, entryText, List.length_append,
            List.length_cons] at hn ⊢
          have hread := hvalue m (125 :: r) (by simp [Follows]) (by omega)
          rw [List.append_assoc, quoted_append, List.cons_append]
          simp only [scanEntries, scanString_quoted hkey, skipBlanks_start (c := 58) rfl,
            List.append_assoc, skipBlanks_gap, skipBlanks_encode, hread,
            skipBlanks_start (c := 125) rfl]
      | cons f fs =>
          have hrest := ih (by simp) (fun e' he' => htexts e' (.tail _ he'))
            (fun e' he' => hes e' (.tail _ he')) (n := m)
          have hskip := skipBlanks_entries fmt style (List.cons_ne_nil f fs) (125 :: r)
          simp only [List.map_cons, commaJoin, List.length_append, List.length_cons]
            at hn hrest hskip ⊢
          have hlength : (entryText fmt style e).length =
              (quoted e.1).length + (style.gap.length + (encode fmt style e.2).length + 1) := by
            simp [entryText, Nat.add_assoc]
          have hread := hvalue m (44 :: (style.gap ++
            (commaJoin style.gap (entryText fmt style f :: fs.map (entryText fmt style)) ++
              125 :: r))) (by simp [Follows]) (by omega)
          rw [List.append_assoc, List.cons_append, entryText, List.append_assoc, quoted_append,
            List.cons_append, List.append_assoc, List.append_assoc]
          simp only [scanEntries, scanString_quoted hkey, skipBlanks_start (c := 58) rfl,
            skipBlanks_gap, skipBlanks_encode, hread, skipBlanks_start (c := 44) rfl, hskip,
            hrest (by omega), Option.map_some]

/-! ## Values -/

theorem encode_dict (es : List (Text × Value F)) :
    encode fmt style (.dict es) =
      123 :: commaJoin style.gap ((style.order es).map (entryText fmt style)) ++ [125] := by
  rw [encode, encodeEntries_eq, style.order_map, List.map_map]
  rfl

theorem exists_fuel {v : Value F} {n : Nat} (hn : 2 * (encode fmt style v).length ≤ n) :
    ∃ m, n = m + 1 := by
  obtain ⟨c, s, hstart, -⟩ := encode_start fmt style v
  rw [hstart, List.length_cons] at hn
  exact ⟨n - 1, by omega⟩

theorem reads_list {xs : List (Value F)} (hxs : ∀ x ∈ xs, Reads fmt style x) :
    Reads fmt style (.list xs) := by
  intro n r hr hn
  obtain ⟨m, rfl⟩ := exists_fuel fmt style hn
  rw [json, jsonItems_eq]
  by_cases hne : xs = []
  · subst hne
    simp [encode, encodeItems, commaJoin, scanOnce, skipBlanks_start (c := 93) rfl]
  · simp only [encode, encodeItems_eq, List.length_append, List.length_cons] at hn
    obtain ⟨c, s, hstart, hc⟩ := items_start fmt style hne (93 :: r)
    have hitems := scanItems_commaJoin fmt style hne hxs r (n := m) (by omega)
    rw [hstart] at hitems
    rw [encode, encodeItems_eq, List.cons_append, List.cons_append, List.append_assoc,
      List.singleton_append, hstart, scanOnce_items fmt hc, hitems]
    rfl

theorem reads_dict {es : List (Text × Value F)} (htexts : ∀ e ∈ es, IsText e.1)
    (hes : ∀ e ∈ es, Reads fmt style e.2) : Reads fmt style (.dict es) := by
  intro n r hr hn
  obtain ⟨m, rfl⟩ := exists_fuel fmt style hn
  rw [json_dict]
  by_cases hne : es = []
  · subst hne
    simp [encode, encodeEntries, dictOf, commaJoin, scanOnce, skipBlanks_start (c := 125) rfl]
  · have hsorted : style.order es ≠ [] := by
      intro h
      apply hne
      have hperm := style.order_perm es
      rw [h] at hperm
      exact hperm.nil_eq.symm
    simp only [encode_dict, List.length_append, List.length_cons] at hn
    obtain ⟨s, hstart⟩ := entries_start fmt style hsorted (125 :: r)
    have hentries := scanEntries_commaJoin fmt style hsorted
      (fun e he => htexts e (style.mem_order.mp he)) (fun e he => hes e (style.mem_order.mp he)) r
      (n := m) (by omega)
    rw [hstart] at hentries
    rw [encode_dict, List.cons_append, List.cons_append, List.append_assoc, List.singleton_append,
      hstart, scanOnce_entries, hentries]
    rfl

theorem reads_encode {v : Value F} (hv : v.Valid) (hprint : printable v = true) :
    Reads fmt style v := by
  induction v using Value.induction with
  | null =>
      intro n r hr hn
      obtain ⟨m, rfl⟩ := exists_fuel fmt style hn
      simp [encode, json, nullWord, scanOnce_other, scanWord, words, stripWord]
  | bool b =>
      intro n r hr hn
      obtain ⟨m, rfl⟩ := exists_fuel fmt style hn
      cases b with
      | false =>
          simp [encode, json, nullWord, trueWord, falseWord, scanOnce_other, scanWord, words,
            stripWord]
      | true => simp [encode, json, nullWord, trueWord, scanOnce_other, scanWord, words, stripWord]
  | int k =>
      intro n r hr hn
      obtain ⟨m, rfl⟩ := exists_fuel fmt style hn
      have hstart := startsNumber_integer (isInteger_intText k)
      have hdigits : (decimal k.natAbs).length ≤ maxStrDigits := by simpa [printable] using hprint
      rw [encode, json.eq_def, scanOnce_number fmt (hstart.append r)]
      exact scanNumber_int fmt hdigits hr
  | float x =>
      intro n r hr hn
      obtain ⟨m, rfl⟩ := exists_fuel fmt style hn
      exact scanOnce_float fmt m hr
  | str s =>
      intro n r hr hn
      obtain ⟨m, rfl⟩ := exists_fuel fmt style hn
      cases hv with
      | str hs => exact scanOnce_quoted fmt hs m r
  | list xs ih =>
      cases hv with
      | list hxs =>
          have hitems := printableItems_iff.mp hprint
          exact reads_list fmt style fun x hx => ih x hx (hxs x hx) (hitems x hx)
  | dict es ih =>
      cases hv with
      | dict hkeys htexts hes =>
          have hentries := printableEntries_iff.mp hprint
          exact reads_dict fmt style htexts fun e he => ih e he (hes e he) (hentries e he)

/-- `loads` reads what `dumps` has written as the value that it stands for. -/
theorem loads_dumps {v : Value F} {t : Text} (hv : v.Valid) (h : dumps fmt style v = some t) :
    loads fmt t = some (json style v) := by
  unfold dumps at h
  split at h
  · rename_i hprint
    cases h
    have hread := reads_encode fmt style hv hprint (2 * (encode fmt style v).length + 1) []
      (by simp [Follows]) (by omega)
    have hskip := skipBlanks_encode fmt style v []
    rw [List.append_nil] at hread hskip
    unfold loads
    rw [hskip, hread]
    rfl
  · cases h

theorem loads_dumps_stable {v : Value F} {t : Text} (hv : Stable v)
    (h : dumps fmt .default v = some t) : loads fmt t = some v := by
  rw [loads_dumps fmt .default hv.valid h, json_of_whole .default hv.valid hv.whole,
    sorted_default]

end

/-! ## The characters of a text -/

abbrev AllPlain (t : Text) : Prop := ∀ c ∈ t, 32 ≤ c ∧ c < 127

theorem AllPlain.append {s t : Text} (hs : AllPlain s) (ht : AllPlain t) : AllPlain (s ++ t) := by
  intro c hc
  rcases List.mem_append.mp hc with hc | hc
  · exact hs c hc
  · exact ht c hc

theorem AllPlain.cons {c : Nat} {t : Text} (hc : 32 ≤ c ∧ c < 127) (ht : AllPlain t) :
    AllPlain (c :: t) := by
  intro d hd
  rcases List.mem_cons.mp hd with rfl | hd
  · exact hc
  · exact ht d hd

theorem plain_hexDigit : ∀ v < 16, 32 ≤ hexDigit v ∧ hexDigit v < 127 := by decide

theorem plain_unicodeEscape (c : Nat) : AllPlain (unicodeEscape c) := by
  refine .cons (by decide) (.cons (by decide) ?_)
  intro d hd
  simp only [List.mem_cons, List.not_mem_nil, or_false] at hd
  rcases hd with rfl | rfl | rfl | rfl
  · exact plain_hexDigit _ (by omega)
  · exact plain_hexDigit _ (by omega)
  · exact plain_hexDigit _ (by omega)
  · exact plain_hexDigit _ (by omega)

theorem plain_escapeChar (c : Nat) : AllPlain (escapeChar c) := by
  unfold escapeChar
  split_ifs with h1 h2 h3 h4 h5 h6 h7 h8 h9
  · decide
  · decide
  · decide
  · decide
  · decide
  · decide
  · decide
  · intro d hd
    rw [List.mem_singleton.mp hd]
    omega
  · exact plain_unicodeEscape c
  · exact (plain_unicodeEscape _).append (plain_unicodeEscape _)

theorem plain_quoted (s : Text) : AllPlain (quoted s) := by
  refine AllPlain.append (.cons (by decide) ?_) (by decide)
  intro c hc
  obtain ⟨d, -, hd⟩ := List.mem_flatMap.mp hc
  exact plain_escapeChar d c hd

theorem plain_digits {ds : Text} (h : ∀ d ∈ ds, isDigit d = true) : AllPlain ds := by
  intro d hd
  have hdigit := isDigit_iff.mp (h d hd)
  omega

theorem plain_integer {t : Text} (h : IsInteger t) : AllPlain t := by
  cases h with
  | unsigned hds => exact plain_digits hds.isDigit
  | negative hds => exact .cons (by decide) (plain_digits hds.isDigit)

theorem plain_fraction {t : Text} (h : IsFraction t) : AllPlain t := by
  cases h with
  | none => decide
  | some hds => exact .cons (by decide) (plain_digits hds.2)

theorem plain_exponent {t : Text} (h : IsExponent t) : AllPlain t := by
  cases h with
  | none => decide
  | unsigned he hds => exact .cons (by omega) (plain_digits hds.2)
  | signed he hsign hds => exact .cons (by omega) (.cons (by omega) (plain_digits hds.2))

theorem plain_gap (style : Style) : AllPlain style.gap := by
  intro c hc
  rw [List.eq_of_mem_replicate hc]
  decide

theorem plain_commaJoin (style : Style) {ts : List Text} (h : ∀ t ∈ ts, AllPlain t) :
    AllPlain (commaJoin style.gap ts) := by
  induction ts with
  | nil => exact List.forall_mem_nil _
  | cons t ts ih =>
      have ht := h t (by simp)
      cases ts with
      | nil => exact ht
      | cons u us =>
          have hus := ih fun t' ht' => h t' (.tail _ ht')
          exact ht.append (.cons (by decide) ((plain_gap style).append hus))

section
variable [DecidableEq F]

theorem plain_floatstr (x : F) : AllPlain (floatstr fmt x) := by
  unfold floatstr
  split_ifs with hnan hinf hneg
  · decide
  · decide
  · decide
  · rcases fmt.repr_eq x with h | h | h | ⟨h, -⟩
    · exact absurd h hnan
    · exact absurd h hinf
    · exact absurd h hneg
    · obtain ⟨integer, fraction, exponent, ht, hinteger, hfraction, hexponent, -⟩ := h
      rw [ht]
      exact ((plain_integer hinteger).append (plain_fraction hfraction)).append
        (plain_exponent hexponent)

/-- The text of a value is ASCII without control characters. -/
theorem plain_encode (style : Style) (v : Value F) : AllPlain (encode fmt style v) := by
  induction v using Value.induction with
  | null =>
      show AllPlain nullWord
      decide
  | bool b =>
      cases b with
      | false =>
          show AllPlain falseWord
          decide
      | true =>
          show AllPlain trueWord
          decide
  | int n => exact plain_integer (isInteger_intText n)
  | float x => exact plain_floatstr fmt x
  | str s => exact plain_quoted s
  | list xs ih =>
      rw [encode, encodeItems_eq]
      refine AllPlain.append (.cons (by decide) (plain_commaJoin style ?_)) (by decide)
      intro t ht
      obtain ⟨x, hx, rfl⟩ := List.mem_map.mp ht
      exact ih x hx
  | dict es ih =>
      rw [encode_dict]
      refine AllPlain.append (.cons (by decide) (plain_commaJoin style ?_)) (by decide)
      intro t ht
      obtain ⟨e, he, rfl⟩ := List.mem_map.mp ht
      have hvalue := ih e (style.mem_order.mp he)
      exact (plain_quoted e.1).append (.cons (by decide) ((plain_gap style).append hvalue))

end

end Encoding
