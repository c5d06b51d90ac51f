import CarPayIn.Python
import Mathlib.Data.List.Infix
import Mathlib.Data.List.DropRight

/-! # Texts that name the same UUID

`uuid.UUID` drops the prefixes `urn:` and `uuid:`, outer braces and all hyphens
before it reads what is left. A text that still names a UUID when it is continued
names the same one.
-/

namespace CarPayIn.Uuid

variable {pattern q s t : List Char} {c : Char} {k : Nat}

/-! ## Removing a pattern -/

theorem removeAll_keeps {e : Char} (hlast : pattern.getLast? = some e) (hq : e ∉ q) :
    ∀ {s : List Char} {k : Nat}, k ≤ s.length →
      removeAll pattern k (s ++ q) = removeAll pattern k s ++ q := by
  have hquiet : ∀ q : List Char, e ∉ q → removeAll pattern 0 q = q := by
    intro q hq
    induction q with
    | nil => rfl
    | cons c q ih =>
        have hnot : ¬pattern <+: c :: q := by
          intro hpre
          exact hq (hpre.subset (List.mem_of_getLast? hlast))
        rw [removeAll, if_neg (by simpa using hnot), ih fun h => hq (.tail _ h)]
  intro s
  induction s with
  | nil =>
      intro k hk
      obtain rfl : k = 0 := by simpa using hk
      simp [removeAll, hquiet q hq]
  | cons c s ih =>
      intro k hk
      cases k with
      | succ k => exact ih (by simpa using hk)
      | zero =>
          have hiff : pattern <+: c :: (s ++ q) ↔ pattern <+: c :: s := by
            constructor
            · intro hpre
              rcases List.prefix_or_prefix_of_prefix hpre
                (List.prefix_append (c :: s) q) with h | ⟨r, rfl⟩
              · exact h
              · have hr : r <+: q := (List.prefix_append_right_inj (c :: s)).mp hpre
                cases r with
                | nil => simp
                | cons d r =>
                    rw [List.getLast?_append_of_ne_nil _ (by simp)] at hlast
                    exact (hq (hr.subset (List.mem_of_getLast? hlast))).elim
            · exact fun h => h.trans (List.prefix_append (c :: s) q)
          by_cases hpre : pattern <+: c :: s
          · have hlength : pattern.length - 1 ≤ s.length := by
              have hle := hpre.length_le
              simp only [List.length_cons] at hle
              omega
            simp only [List.cons_append, removeAll, List.isPrefixOf_iff_prefix, hiff, hpre, if_true]
            exact ih hlength
          · simp only [List.cons_append, removeAll, List.isPrefixOf_iff_prefix, hiff, hpre, if_false]
            rw [ih (Nat.zero_le _)]

/-- No occurrence of the pattern begins in `s` and ends after it. -/
def Closed (pattern s : List Char) : Prop := ∀ q, q ≠ [] → q <:+ s → q <+: pattern → q = pattern

theorem removeAll_append (hs : Closed pattern s) (hk : k ≤ s.length) (t : List Char) :
    removeAll pattern k (s ++ t) = removeAll pattern k s ++ removeAll pattern 0 t := by
  induction s generalizing k with
  | nil =>
      obtain rfl : k = 0 := by simpa using hk
      simp [removeAll]
  | cons c s ih =>
      have hs' : Closed pattern s := fun q hne hq => hs q hne (hq.trans (List.suffix_cons c s))
      cases k with
      | succ k => exact ih hs' (by simpa using hk)
      | zero =>
          have hiff : pattern <+: c :: (s ++ t) ↔ pattern <+: c :: s := by
            constructor
            · intro hpre
              rcases List.prefix_or_prefix_of_prefix hpre
                (List.prefix_append (c :: s) t) with h | h
              · exact h
              · rw [hs (c :: s) (by simp) List.suffix_rfl h]
            · exact fun h => h.trans (List.prefix_append (c :: s) t)
          by_cases hpre : pattern <+: c :: s
          · have hlength : pattern.length - 1 ≤ s.length := by
              have hle := hpre.length_le
              simp only [List.length_cons] at hle
              omega
            simp only [List.cons_append, removeAll, List.isPrefixOf_iff_prefix, hiff, hpre, if_true]
            exact ih hs' hlength
          · simp only [List.cons_append, removeAll, List.isPrefixOf_iff_prefix, hiff, hpre, if_false]
            rw [ih hs' (Nat.zero_le _)]

theorem mem_removeAll_or (hne : pattern ≠ []) (hc : c ∈ t.drop k) :
    c ∈ removeAll pattern k t ∨ c ∈ pattern := by
  induction t generalizing k with
  | nil => simp at hc
  | cons d t ih =>
      cases k with
      | succ k => exact ih (by simpa using hc)
      | zero =>
          by_cases hpre : pattern <+: d :: t
          · simp only [removeAll, List.isPrefixOf_iff_prefix, hpre, if_true]
            obtain ⟨r, hr⟩ := hpre
            obtain ⟨e, pattern', rfl⟩ := List.exists_cons_of_ne_nil hne
            obtain ⟨rfl, rfl⟩ := List.cons.inj hr
            rcases List.mem_append.mp (hr ▸ hc : c ∈ (e :: pattern') ++ r) with hc | hc
            · exact .inr hc
            · apply ih
              simpa using hc
          · simp only [removeAll, List.isPrefixOf_iff_prefix, hpre, if_false]
            rcases List.mem_cons.mp hc with rfl | hc
            · exact .inl (.head _)
            · exact (ih (k := 0) hc).imp_left (.tail _)

/-! ## The digits of a UUID -/

def withoutPrefixes (text : List Char) : List Char :=
  removeAll "uuid:".toList 0 (removeAll "urn:".toList 0 text)

def hexText (text : List Char) : List Char :=
  (stripBraces (withoutPrefixes text)).filter (· ≠ '-')

theorem parse_eq {text : String} {id : Uuid} (h : parse text = .ok id) :
    (hexText text.toList).length = 32 ∧ (PyInt.parseHex (hexText text.toList)).isSome := by
  rw [parse] at h
  split at h
  · cases h
  · rename_i hlength
    split at h
    · cases h
    · rename_i n hn
      exact ⟨not_not.mp hlength, by rw [hexText, withoutPrefixes, hn]; rfl⟩

theorem parse_congr {text text' : String} (h : hexText text.toList = hexText text'.toList) :
    parse text = parse text' := by
  simp only [hexText, withoutPrefixes] at h
  rw [parse, parse, h]

theorem hexDigits_chars {cs : List Char} {b : Bool} {n m : Nat}
    (h : PyInt.hexDigits b n cs = some m) (hc : c ∈ cs) :
    c = '_' ∨ (PyInt.hexDigit c).isSome ∨ PyInt.isSpace c := by
  induction cs generalizing b n with
  | nil => cases hc
  | cons d cs ih =>
      unfold PyInt.hexDigits at h
      split at h
      · rename_i hd
        rcases List.mem_cons.mp hc with rfl | hc
        · exact .inl hd
        · split at h
          · exact ih h hc
          · cases h
      · split at h
        · rename_i v hv
          rcases List.mem_cons.mp hc with rfl | hc
          · exact .inr (.inl (by simp [hv]))
          · exact ih h hc
        · split at h
          · rename_i hspace
            rcases List.mem_cons.mp hc with rfl | hc
            · exact .inr (.inr hspace.2.1)
            · exact .inr (.inr (List.all_eq_true.mp hspace.2.2 c hc))
          · cases h

theorem mem_dropWhile {p : Char → Bool} (hc : c ∈ t) (hp : p c = false) : c ∈ t.dropWhile p := by
  rw [← List.takeWhile_append_dropWhile (p := p) (l := t)] at hc
  rcases List.mem_append.mp hc with hc | hc
  · have hall := List.all_eq_true.mp List.all_takeWhile c hc
    rw [hp] at hall
    cases hall
  · exact hc

def isMark (c : Char) : Bool := isBrace c || c = 'u'

theorem isMark_cases (h : isMark c = true) :
    c = Char.ofNat 0x7B ∨ c = Char.ofNat 0x7D ∨ c = 'u' := by
  simp only [isMark, isBrace, Bool.or_eq_true, decide_eq_true_eq] at h
  rcases h with (h | h) | h
  · exact .inl (by rw [← h, Char.ofNat_toNat])
  · exact .inr (.inl (by rw [← h, Char.ofNat_toNat]))
  · exact .inr (.inr h)

/-- What `int` makes of a mark: nothing that stands in front of digits or among them. -/
theorem mark_facts (h : isMark c = true) : PyInt.toAscii c = c ∧ PyInt.isSpace c = false ∧
    c ∉ ['+', '-', '0', 'x', 'X', '_'] ∧ PyInt.hexDigit c = none := by
  rcases isMark_cases h with rfl | rfl | rfl <;> decide

theorem mem_dropSign {cs : List Char} (hc : c ∈ cs) (hplus : c ≠ '+') (hminus : c ≠ '-') :
    c ∈ (PyInt.dropSign cs).2 := by
  unfold PyInt.dropSign
  split
  · exact (List.mem_cons.mp hc).resolve_left hplus
  · exact (List.mem_cons.mp hc).resolve_left hminus
  · exact hc

theorem mem_dropHexPrefix {cs : List Char} (hc : c ∈ cs) (hpre : c ∉ ['0', 'x', 'X', '_']) :
    c ∈ PyInt.dropHexPrefix cs := by
  simp only [List.mem_cons, List.not_mem_nil, or_false, not_or] at hpre
  unfold PyInt.dropHexPrefix
  split <;> simp_all

theorem mark_notMem_parseHex {cs : List Char} (h : (PyInt.parseHex cs).isSome) :
    ∀ c ∈ cs, isMark c = false := by
  intro c hc
  by_contra hmark
  obtain ⟨hascii, hspace, hsigns, hdigit⟩ := mark_facts (by simpa using hmark)
  simp only [List.mem_cons, List.not_mem_nil, or_false, not_or] at hsigns
  have hmap : c ∈ cs.map PyInt.toAscii := List.mem_map.mpr ⟨c, hc, hascii⟩
  have hstripped := mem_dropWhile (p := PyInt.isSpace) hmap hspace
  have hsigned := mem_dropSign hstripped hsigns.1 hsigns.2.1
  have hread := mem_dropHexPrefix hsigned (by simp [hsigns])
  obtain ⟨n, hn⟩ := Option.isSome_iff_exists.mp h
  unfold PyInt.parseHex at hn
  obtain ⟨v, hv, -⟩ := Option.map_eq_some_iff.mp hn
  obtain ⟨m, hm, -⟩ := Option.bind_eq_some_iff.mp hv
  rcases hexDigits_chars hm hread with h | h | h
  · exact hsigns.2.2.2.2.2 h
  · simp [hdigit] at h
  · rw [hspace] at h
    cases h

/-! ## Texts that continue each other -/

/-- A text whose digits are the digits of a UUID. -/
def Named (text : List Char) : Prop :=
  (hexText text).length = 32 ∧ ∀ c ∈ hexText text, isMark c = false

theorem named_of_parse {text : String} {id : Uuid} (h : parse text = .ok id) : Named text.toList :=
  ⟨(parse_eq h).1, mark_notMem_parseHex (parse_eq h).2⟩

theorem mem_stripBraces (hc : c ∈ t) (hbrace : isBrace c = false) : c ∈ stripBraces t := by
  have hfront := mem_dropWhile (p := isBrace) hc hbrace
  exact List.mem_reverse.mpr (mem_dropWhile (List.mem_reverse.mpr hfront) hbrace)

theorem Named.u_notMem (h : Named s) : 'u' ∉ withoutPrefixes s := by
  intro hu
  have hstripped := mem_stripBraces hu (by decide)
  have hfalse := h.2 'u' (List.mem_filter.mpr ⟨hstripped, by decide⟩)
  revert hfalse
  decide

/-- A prefix of a pattern that begins with `u` and ends with a colon. -/
theorem u_mem_of_prefix (hpattern : pattern = "urn:".toList ∨ pattern = "uuid:".toList)
    (hne : q ≠ []) (hq : q <+: pattern) (hproper : q ≠ pattern) : 'u' ∈ q ∧ ':' ∉ q := by
  have hinits : ∀ pattern ∈ ["urn:".toList, "uuid:".toList], ∀ q ∈ pattern.inits,
      q ≠ [] → q ≠ pattern → 'u' ∈ q ∧ ':' ∉ q := by
    decide
  exact hinits pattern (by simpa using hpattern) q ((List.mem_inits _ _).mpr hq) hne hproper

/-- In front of a UUID's digits no prefix is left open. -/
theorem Named.closed (h : Named s) :
    Closed "urn:".toList s ∧ Closed "uuid:".toList (removeAll "urn:".toList 0 s) := by
  constructor
  · intro q hne hsuffix hpre
    by_contra hproper
    obtain ⟨hu, hcolon⟩ := u_mem_of_prefix (.inl rfl) hne hpre hproper
    obtain ⟨a, rfl⟩ := hsuffix
    apply h.u_notMem
    rw [withoutPrefixes, removeAll_keeps (e := ':') rfl hcolon (Nat.zero_le _),
      removeAll_keeps (e := ':') rfl hcolon (Nat.zero_le _)]
    exact List.mem_append_right _ hu
  · intro q hne hsuffix hpre
    by_contra hproper
    obtain ⟨hu, hcolon⟩ := u_mem_of_prefix (.inr rfl) hne hpre hproper
    obtain ⟨a, ha⟩ := hsuffix
    apply h.u_notMem
    rw [withoutPrefixes, ← ha, removeAll_keeps (e := ':') rfl hcolon (Nat.zero_le _)]
    exact List.mem_append_right _ hu

theorem Named.withoutPrefixes_append (h : Named s) (t : List Char) :
    withoutPrefixes (s ++ t) = withoutPrefixes s ++ withoutPrefixes t := by
  unfold withoutPrefixes
  rw [removeAll_append h.closed.1 (Nat.zero_le _), removeAll_append h.closed.2 (Nat.zero_le _)]

theorem stripBraces_of_free (h : ∀ c ∈ s, isBrace c = false) : stripBraces s = s := by
  have hkeep : ∀ l : List Char, (∀ c ∈ l, isBrace c = false) → l.dropWhile isBrace = l := by
    intro l hl
    cases l with
    | nil => rfl
    | cons c l => exact List.dropWhile_cons_of_neg (by simp [hl c (by simp)])
  unfold stripBraces
  rw [hkeep s h, hkeep s.reverse fun c hc => h c (List.mem_reverse.mp hc), List.reverse_reverse]

/-- What follows the digits is stripped, or the digits are followed by hyphens only. -/
theorem stripBraces_append (hne : s.dropWhile isBrace ≠ []) (t : List Char) :
    (stripBraces (s ++ t) = stripBraces s ∧ ∀ c ∈ t, isBrace c = true) ∨
      stripBraces (s ++ t) = s.dropWhile isBrace ++ (t.reverse.dropWhile isBrace).reverse := by
  have hfront : (s ++ t).dropWhile isBrace = s.dropWhile isBrace ++ t := by
    rw [List.dropWhile_append, if_neg (by simpa using hne)]
  unfold stripBraces
  rw [hfront, List.reverse_append, List.dropWhile_append]
  by_cases hall : (t.reverse.dropWhile isBrace).isEmpty = true
  · left
    rw [if_pos hall]
    refine ⟨rfl, fun c hc => ?_⟩
    exact List.dropWhile_eq_nil_iff.mp (List.isEmpty_iff.mp hall) c (List.mem_reverse.mpr hc)
  · right
    rw [if_neg hall, List.reverse_append, List.reverse_reverse]

theorem Named.append (hs : Named s) (hst : Named (s ++ t)) :
    hexText (s ++ t) = hexText s ∧ ∀ c ∈ withoutPrefixes t, c = '-' ∨ isBrace c = true := by
  have hjoin := hs.withoutPrefixes_append t
  generalize hx : withoutPrefixes s = x at hjoin
  generalize withoutPrefixes t = y at hjoin ⊢
  have hhex : hexText s = (stripBraces x).filter (· ≠ '-') := by rw [hexText, hx]
  have hhex' : hexText (s ++ t) = (stripBraces (x ++ y)).filter (· ≠ '-') := by rw [hexText, hjoin]
  have hne : x.dropWhile isBrace ≠ [] := by
    intro h
    have hlength := hs.1
    rw [hhex, stripBraces, h] at hlength
    simp at hlength
  rcases stripBraces_append hne y with ⟨hsame, hbraces⟩ | hmore
  · exact ⟨by rw [hhex', hsame, hhex], fun c hc => .inr (hbraces c hc)⟩
  · have hfree : ∀ c ∈ x.dropWhile isBrace, isBrace c = false := by
      intro c hc
      by_cases hdash : c = '-'
      · rw [hdash]
        decide
      · have hmem : c ∈ hexText (s ++ t) := by
          rw [hhex', hmore]
          exact List.mem_filter.mpr ⟨List.mem_append_left _ hc, by simpa using hdash⟩
        have hmark := hst.2 c hmem
        simp only [isMark, Bool.or_eq_false_iff] at hmark
        exact hmark.1
    have hstrip : stripBraces x = x.dropWhile isBrace := by
      have hagain := stripBraces_of_free hfree
      rwa [stripBraces, List.dropWhile_idempotent] at hagain
    have hlength := hst.1
    rw [hhex', hmore, List.filter_append, List.length_append, ← hstrip, ← hhex, hs.1] at hlength
    have hrest : (y.reverse.dropWhile isBrace).reverse.filter (· ≠ '-') = [] :=
      List.length_eq_zero_iff.mp (by omega)
    refine ⟨by rw [hhex', hmore, List.filter_append, hrest, List.append_nil, ← hstrip, hhex], ?_⟩
    intro c hc
    by_cases hbrace : isBrace c = true
    · exact .inr hbrace
    · left
      have hkept := mem_dropWhile (p := isBrace) (List.mem_reverse.mpr hc) (by simpa using hbrace)
      simpa using List.filter_eq_nil_iff.mp hrest c (List.mem_reverse.mpr hkept)

/-- No digit is taken away. -/
theorem Named.continued (hs : Named s) (hst : Named (s ++ t)) : ∀ c ∈ t, c.isDigit = false := by
  have hmarks : ∀ c ∈ t, c = '-' ∨ isBrace c = true ∨ c ∈ "urn:".toList ∨ c ∈ "uuid:".toList := by
    intro c hc
    rcases mem_removeAll_or (k := 0) (by decide : "urn:".toList ≠ []) hc with hc | hc
    · rcases mem_removeAll_or (k := 0) (by decide : "uuid:".toList ≠ []) hc with hc | hc
      · rcases (hs.append hst).2 c hc with h | h
        · exact .inl h
        · exact .inr (.inl h)
      · exact .inr (.inr (.inr hc))
    · exact .inr (.inr (.inl hc))
  have hall : "urn:uuid:".toList.all (fun c => !c.isDigit) = true := by decide
  have hprefixes : ∀ c ∈ "urn:uuid:".toList, c.isDigit = false := fun c hc => by
    simpa using List.all_eq_true.mp hall c hc
  intro c hc
  rcases hmarks c hc with rfl | h | h | h
  · decide
  · have hmark : isMark c = true := by simp [isMark, h]
    rcases isMark_cases hmark with rfl | rfl | rfl <;> decide
  · exact hprefixes c (List.mem_append_left "uuid:".toList h)
  · exact hprefixes c (List.mem_append_right "urn:".toList h)

end CarPayIn.Uuid
