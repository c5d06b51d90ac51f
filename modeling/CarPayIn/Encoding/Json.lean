import CarPayIn.Encoding.Text
import Mathlib.Data.List.Sort
import Mathlib.Data.Nat.Digits.Lemmas

/-! # JSON values and their text

`json.dumps` writes ASCII only: any other character becomes an escape, beyond the
first plane a pair of them. The keys may be sorted and the blanks left out.
-/

namespace Encoding

/-! ## Numbers -/

def isDigit (c : Nat) : Bool := 48 ≤ c && c ≤ 57

/-- `int.__repr__` without the sign. -/
def decimal (n : Nat) : Text :=
  if n = 0 then [48] else ((Nat.digits 10 n).map (48 + ·)).reverse

def ofDecimal (ds : Text) : Nat := Nat.ofDigits 10 ((ds.map (· - 48)).reverse)

/-- `int.__repr__`. -/
def intText (n : Int) : Text := if n < 0 then 45 :: decimal n.natAbs else decimal n.natAbs

/-- `sys.int_info.default_max_str_digits`: a text with more digits is no integer,
and an integer with more digits has no text. -/
def maxStrDigits : Nat := 4300

/-- Digits without a leading zero. -/
inductive IsWhole : Text → Prop where
  | zero : IsWhole [48]
  | digits {c : Nat} {ds : Text} (hc : 49 ≤ c ∧ c ≤ 57) (hds : ∀ d ∈ ds, isDigit d = true) :
      IsWhole (c :: ds)

/-- The three parts of a number, the last two of which may be missing. -/
inductive IsInteger : Text → Prop where
  | unsigned {ds : Text} (h : IsWhole ds) : IsInteger ds
  | negative {ds : Text} (h : IsWhole ds) : IsInteger (45 :: ds)

def IsDigits (ds : Text) : Prop := ds ≠ [] ∧ ∀ d ∈ ds, isDigit d = true

inductive IsFraction : Text → Prop where
  | none : IsFraction []
  | some {ds : Text} (h : IsDigits ds) : IsFraction (46 :: ds)

inductive IsExponent : Text → Prop where
  | none : IsExponent []
  | unsigned {e : Nat} {ds : Text} (he : e = 101 ∨ e = 69) (h : IsDigits ds) : IsExponent (e :: ds)
  | signed {e sign : Nat} {ds : Text} (he : e = 101 ∨ e = 69) (hsign : sign = 43 ∨ sign = 45)
      (h : IsDigits ds) : IsExponent (e :: sign :: ds)

/-- The text of a number that is no integer. -/
def IsFloatText (t : Text) : Prop :=
  ∃ integer fraction exponent, t = integer ++ fraction ++ exponent ∧ IsInteger integer ∧
    IsFraction fraction ∧ IsExponent exponent ∧ (fraction ≠ [] ∨ exponent ≠ [])

/-- Floating point numbers: `repr`, `float` and `int` of them, of which only this
is used: what `repr` writes of a finite number is the text of a number that is no
integer, and `float` reads it back. -/
structure FloatFormat (F : Type) where
  nan : F
  infinity : F
  negInfinity : F
  repr : F → Text
  float : Text → F
  int : F → Option Int
  repr_eq : ∀ x, x = nan ∨ x = infinity ∨ x = negInfinity ∨
    IsFloatText (repr x) ∧ float (repr x) = x

/-- For values that have no float in them. -/
def noFloats : FloatFormat Unit where
  nan := ()
  infinity := ()
  negInfinity := ()
  repr _ := []
  float _ := ()
  int _ := none
  repr_eq _ := .inl rfl

theorem isDigit_iff {c : Nat} : isDigit c = true ↔ 48 ≤ c ∧ c ≤ 57 := by
  simp [isDigit]

theorem isDigit_of_digit {d : Nat} (h : d < 10) : isDigit (48 + d) = true := by
  rw [isDigit_iff]
  omega

theorem ofDecimal_decimal (n : Nat) : ofDecimal (decimal n) = n := by
  unfold ofDecimal decimal
  split
  · rename_i hn
    rw [hn]
    rfl
  · have hmap : (Nat.digits 10 n).map ((· - 48) ∘ (48 + ·)) = Nat.digits 10 n := by
      apply List.map_id''
      intro d
      simp
    rw [List.map_reverse, List.reverse_reverse, List.map_map, hmap, Nat.ofDigits_digits]

theorem isWhole_decimal (n : Nat) : IsWhole (decimal n) := by
  unfold decimal
  by_cases hn : n = 0
  · rw [if_pos hn]
    exact .zero
  · rw [if_neg hn]
    have hne : Nat.digits 10 n ≠ [] := Nat.digits_ne_nil_iff_ne_zero.mpr hn
    have hlead : (Nat.digits 10 n).getLast hne ≠ 0 := Nat.getLast_digit_ne_zero 10 hn
    have hlt : ∀ d ∈ Nat.digits 10 n, d < 10 := fun d hd => Nat.digits_lt_base (by decide) hd
    have hsplit := List.dropLast_append_getLast hne
    generalize (Nat.digits 10 n).getLast hne = lead at hlead hsplit
    rw [← hsplit] at hlt ⊢
    have hlead' := hlt lead (by simp)
    rw [List.map_append, List.reverse_append]
    have hdigit : 49 ≤ 48 + lead ∧ 48 + lead ≤ 57 := by omega
    apply IsWhole.digits hdigit
    intro d hd
    obtain ⟨v, hv, rfl⟩ := List.mem_map.mp (List.mem_reverse.mp hd)
    exact isDigit_of_digit (hlt v (List.mem_append_left _ hv))

theorem isInteger_intText (n : Int) : IsInteger (intText n) := by
  unfold intText
  split
  · exact .negative (isWhole_decimal _)
  · exact .unsigned (isWhole_decimal _)

/-! ## Values -/

inductive Value (F : Type) where
  | null
  | bool (b : Bool)
  | int (n : Int)
  | float (x : F)
  | str (s : Text)
  | list (xs : List (Value F))
  | dict (es : List (Text × Value F))

variable {F α β : Type}

/-- The texts are made of code points, and a key has one entry in its dictionary. -/
inductive Value.Valid : Value F → Prop where
  | null : Valid .null
  | bool {b : Bool} : Valid (.bool b)
  | int {n : Int} : Valid (.int n)
  | float {x : F} : Valid (.float x)
  | str {s : Text} (hs : IsText s) : Valid (.str s)
  | list {xs : List (Value F)} (hxs : ∀ x ∈ xs, Valid x) : Valid (.list xs)
  | dict {es : List (Text × Value F)} (hkeys : (es.map Prod.fst).Nodup)
      (htexts : ∀ e ∈ es, IsText e.1) (hes : ∀ e ∈ es, Valid e.2) : Valid (.dict es)

@[elab_as_elim]
theorem Value.induction {motive : Value F → Prop} (null : motive .null)
    (bool : ∀ b, motive (.bool b)) (int : ∀ n, motive (.int n)) (float : ∀ x, motive (.float x))
    (str : ∀ s, motive (.str s)) (list : ∀ xs, (∀ x ∈ xs, motive x) → motive (.list xs))
    (dict : ∀ es, (∀ e ∈ es, motive e.2) → motive (.dict es)) : ∀ v, motive v
  | .null => null
  | .bool b => bool b
  | .int n => int n
  | .float x => float x
  | .str s => str s
  | .list xs => list xs fun x _ => Value.induction null bool int float str list dict x
  | .dict es => dict es fun e _ => Value.induction null bool int float str list dict e.2
decreasing_by
  · rename_i h
    have hlt := List.sizeOf_lt_of_mem h
    simp only [Value.list.sizeOf_spec]
    omega
  · rename_i h
    have hlt := List.sizeOf_lt_of_mem h
    have hpair : sizeOf e = 1 + sizeOf e.1 + sizeOf e.2 := rfl
    simp only [Value.dict.sizeOf_spec]
    omega

/-! ## Dictionaries -/

/-- `d[key] = value`: a new key comes last. -/
def put (d : List (Text × α)) (key : Text) (value : α) : List (Text × α) :=
  match d with
  | [] => [(key, value)]
  | e :: d => if e.1 = key then (key, value) :: d else e :: put d key value

def dictOf (es : List (Text × α)) : List (Text × α) := es.foldl (fun d e => put d e.1 e.2) []

/-- `d.get(key)`. -/
def get? (d : List (Text × α)) (key : Text) : Option α := (d.find? fun e => e.1 = key).map (·.2)

/-- Entries by their keys, in the order of code points. -/
def sortKeys (es : List (Text × α)) : List (Text × α) :=
  es.insertionSort fun a b => a.1 ≤ b.1

theorem sortKeys_map (f : α → β) (es : List (Text × α)) :
    sortKeys (es.map fun e => (e.1, f e.2)) = (sortKeys es).map fun e => (e.1, f e.2) := by
  symm
  apply List.map_insertionSort
  intro a _ b _
  rfl

theorem get?_put (d : List (Text × α)) (key k : Text) (v : α) :
    get? (put d key v) k = if key = k then some v else get? d k := by
  induction d with
  | nil => by_cases hk : key = k <;> simp [put, get?, hk]
  | cons e d ih =>
      unfold put
      by_cases he : e.1 = key
      · rw [if_pos he]
        by_cases hk : key = k <;> simp [get?, he, hk]
      · rw [if_neg he]
        by_cases hek : e.1 = k
        · have hk : key ≠ k := fun h => he (hek.trans h.symm)
          simp [get?, hek, hk]
        · simpa [get?, hek] using ih

theorem dictOf_concat (es : List (Text × α)) (e : Text × α) :
    dictOf (es ++ [e]) = put (dictOf es) e.1 e.2 := by
  simp [dictOf]

/-- A key whose entries all have one value is found with it. -/
theorem get?_dictOf {es : List (Text × α)} {key : Text} {v : α} (hmem : (key, v) ∈ es)
    (honly : ∀ e ∈ es, e.1 = key → e.2 = v) : get? (dictOf es) key = some v := by
  induction es using List.reverseRecOn with
  | nil => cases hmem
  | append_singleton es e ih =>
      rw [dictOf_concat, get?_put]
      by_cases he : e.1 = key
      · rw [if_pos he, honly e (by simp) he]
      · rw [if_neg he]
        apply ih
        · rcases List.mem_append.mp hmem with hmem | hmem
          · exact hmem
          · rw [← List.mem_singleton.mp hmem] at he
            exact absurd rfl he
        · intro e' he'
          exact honly e' (List.mem_append_left _ he')

theorem mem_of_mem_put {d : List (Text × α)} {key : Text} {v : α} {e : Text × α}
    (h : e ∈ put d key v) : e ∈ d ∨ e = (key, v) := by
  induction d with
  | nil => exact .inr (List.mem_singleton.mp h)
  | cons f d ih =>
      unfold put at h
      split at h
      · rcases List.mem_cons.mp h with h | h
        · exact .inr h
        · exact .inl (.tail _ h)
      · rcases List.mem_cons.mp h with h | h
        · exact .inl (h ▸ .head _)
        · exact (ih h).imp_left (.tail _)

theorem put_of_notMem {d : List (Text × α)} {key : Text} (h : key ∉ d.map Prod.fst) (v : α) :
    put d key v = d ++ [(key, v)] := by
  induction d with
  | nil => rfl
  | cons e d ih =>
      simp only [List.map_cons, List.mem_cons, not_or] at h
      unfold put
      rw [if_neg (Ne.symm h.1), ih h.2, List.cons_append]

theorem keys_put (d : List (Text × α)) (key : Text) (v : α) :
    (put d key v).map Prod.fst = if key ∈ d.map Prod.fst then d.map Prod.fst
      else d.map Prod.fst ++ [key] := by
  induction d with
  | nil => rfl
  | cons e d ih =>
      unfold put
      by_cases he : e.1 = key
      · simp [he]
      · simp only [if_neg he, List.map_cons, ih, List.mem_cons, Ne.symm he, false_or]
        split <;> rfl

theorem nodup_put {d : List (Text × α)} (h : (d.map Prod.fst).Nodup) (key : Text) (v : α) :
    ((put d key v).map Prod.fst).Nodup := by
  rw [keys_put]
  split
  · exact h
  · rename_i hnew
    refine List.nodup_append.mpr ⟨h, List.nodup_singleton _, ?_⟩
    intro k hk k' hk' heq
    rw [List.mem_singleton.mp hk'] at heq
    exact hnew (heq ▸ hk)

theorem Value.Valid.put {d : List (Text × Value F)} {key : Text} {v : Value F}
    (hd : (Value.dict d).Valid) (hkey : IsText key) (hv : v.Valid) :
    (Value.dict (put d key v)).Valid := by
  cases hd with
  | dict hkeys htexts hes =>
      apply Value.Valid.dict (nodup_put hkeys key v)
      · intro e he
        rcases mem_of_mem_put he with he | rfl
        · exact htexts e he
        · exact hkey
      · intro e he
        rcases mem_of_mem_put he with he | rfl
        · exact hes e he
        · exact hv

theorem dictOf_of_nodup {es : List (Text × α)} (h : (es.map Prod.fst).Nodup) : dictOf es = es := by
  induction es using List.reverseRecOn with
  | nil => rfl
  | append_singleton es e ih =>
      rw [List.map_append, List.nodup_append] at h
      obtain ⟨hes, -, hdisjoint⟩ := h
      have hnew : e.1 ∉ es.map Prod.fst := by
        intro hmem
        exact hdisjoint e.1 hmem e.1 (by simp) rfl
      rw [dictOf_concat, ih hes, put_of_notMem hnew]

theorem mem_of_get? {d : List (Text × α)} {key : Text} {v : α} (h : get? d key = some v) :
    (key, v) ∈ d := by
  obtain ⟨e, he, rfl⟩ := Option.map_eq_some_iff.mp h
  have hkey : e.1 = key := by simpa using List.find?_some he
  rw [← hkey]
  exact List.mem_of_find?_eq_some he

theorem get?_of_mem {d : List (Text × α)} (h : (d.map Prod.fst).Nodup) {e : Text × α}
    (he : e ∈ d) : get? d e.1 = some e.2 := by
  rw [← dictOf_of_nodup h]
  apply get?_dictOf he
  intro e' he' hkey
  rw [List.inj_on_of_nodup_map h he' he hkey]

/-! ## Text -/

/-- How a value is written: the spaces after a comma and a colon, and `sort_keys`. -/
structure Style where
  spaces : Nat
  sortsKeys : Bool

namespace Style

/-- `separators=(",", ":"), sort_keys=True` -/
def compact : Style := ⟨0, true⟩

/-- What `json.dumps` does unless it is told otherwise. -/
def default : Style := ⟨1, false⟩

variable (style : Style)

def gap : Text := List.replicate style.spaces 32

def order (es : List (Text × α)) : List (Text × α) := if style.sortsKeys then sortKeys es else es

theorem order_perm (es : List (Text × α)) : (style.order es).Perm es := by
  unfold order
  split
  · exact List.perm_insertionSort _ es
  · exact .refl _

@[simp] theorem order_nil : style.order ([] : List (Text × α)) = [] := by
  simp [order, sortKeys]

theorem mem_order {es : List (Text × α)} {e : Text × α} : e ∈ style.order es ↔ e ∈ es :=
  (style.order_perm es).mem_iff

theorem nodup_order {es : List (Text × α)} (h : (es.map Prod.fst).Nodup) :
    ((style.order es).map Prod.fst).Nodup := ((style.order_perm es).map Prod.fst).nodup_iff.mpr h

theorem order_map (f : α → β) (es : List (Text × α)) :
    style.order (es.map fun e => (e.1, f e.2)) = (style.order es).map fun e => (e.1, f e.2) := by
  unfold order
  split
  · exact sortKeys_map f es
  · rfl

end Style

def hexDigit (v : Nat) : Nat := if v < 10 then 48 + v else 87 + v

/-- `\u` and four digits. -/
def unicodeEscape (c : Nat) : Text :=
  [92, 117, hexDigit (c / 0x1000 % 16), hexDigit (c / 0x100 % 16), hexDigit (c / 16 % 16),
    hexDigit (c % 16)]

def escapeChar (c : Nat) : Text :=
  if c = 34 then [92, 34]
  else if c = 92 then [92, 92]
  else if c = 10 then [92, 110]
  else if c = 13 then [92, 114]
  else if c = 9 then [92, 116]
  else if c = 12 then [92, 102]
  else if c = 8 then [92, 98]
  else if 32 ≤ c ∧ c ≤ 126 then [c]
  else if c < 0x10000 then unicodeEscape c
  else unicodeEscape (0xD800 + (c - 0x10000) / 0x400 % 0x400) ++
    unicodeEscape (0xDC00 + (c - 0x10000) % 0x400)

/-- A string in quotes. -/
def quoted (s : Text) : Text := 34 :: s.flatMap escapeChar ++ [34]

def commaJoin (gap : Text) : List Text → Text
  | [] => []
  | [t] => t
  | t :: ts => t ++ 44 :: (gap ++ commaJoin gap ts)

def nullWord : Text := [110, 117, 108, 108]
def trueWord : Text := [116, 114, 117, 101]
def falseWord : Text := [102, 97, 108, 115, 101]
def nanWord : Text := [78, 97, 78]
def infinityWord : Text := [73, 110, 102, 105, 110, 105, 116, 121]
def negInfinityWord : Text := 45 :: infinityWord

mutual
/-- No integer has more digits than may be converted. -/
def printable : Value F → Bool
  | .int n => (decimal n.natAbs).length ≤ maxStrDigits
  | .list xs => printableItems xs
  | .dict es => printableEntries es
  | _ => true

def printableItems : List (Value F) → Bool
  | [] => true
  | v :: vs => printable v && printableItems vs

def printableEntries : List (Text × Value F) → Bool
  | [] => true
  | e :: es => printable e.2 && printableEntries es
end

theorem printableItems_iff {xs : List (Value F)} :
    printableItems xs = true ↔ ∀ x ∈ xs, printable x = true := by
  induction xs with
  | nil => simp [printableItems]
  | cons x xs ih => simp [printableItems, ih]

theorem printableEntries_iff {es : List (Text × Value F)} :
    printableEntries es = true ↔ ∀ e ∈ es, printable e.2 = true := by
  induction es with
  | nil => simp [printableEntries]
  | cons e es ih => simp [printableEntries, ih]

section
variable [DecidableEq F] (fmt : FloatFormat F) (style : Style)

/-- `floatstr` of the encoder. -/
def floatstr (x : F) : Text :=
  if x = fmt.nan then nanWord
  else if x = fmt.infinity then infinityWord
  else if x = fmt.negInfinity then negInfinityWord
  else fmt.repr x

mutual
def encode : Value F → Text
  | .null => nullWord
  | .bool b => if b then trueWord else falseWord
  | .int n => intText n
  | .float x => floatstr fmt x
  | .str s => quoted s
  | .list xs => 91 :: commaJoin style.gap (encodeItems xs) ++ [93]
  | .dict es =>
      123 :: commaJoin style.gap ((style.order (encodeEntries es)).map fun e =>
        quoted e.1 ++ 58 :: (style.gap ++ e.2)) ++ [125]

def encodeItems : List (Value F) → List Text
  | [] => []
  | v :: vs => encode v :: encodeItems vs

def encodeEntries : List (Text × Value F) → List (Text × Text)
  | [] => []
  | (key, v) :: es => (key, encode v) :: encodeEntries es
end

theorem encodeItems_eq (xs : List (Value F)) :
    encodeItems fmt style xs = xs.map (encode fmt style) := by
  induction xs with
  | nil => rfl
  | cons x xs ih => simp [encodeItems, ih]

theorem encodeEntries_eq (es : List (Text × Value F)) :
    encodeEntries fmt style es = es.map fun e => (e.1, encode fmt style e.2) := by
  induction es with
  | nil => rfl
  | cons e es ih => simp [encodeEntries, ih]

/-- `json.dumps(v)`; nothing for the `ValueError` of an integer with too many digits. -/
def dumps (v : Value F) : Option Text := if printable v then some (encode fmt style v) else none

end

end Encoding
