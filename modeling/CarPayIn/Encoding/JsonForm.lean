import CarPayIn.Encoding.Json

/-! # What the text of a value stands for

JSON does not tell a pair of surrogates from its character, and its keys may be
in order. A value with unpaired characters only is the one its text stands for.
-/

namespace Encoding

variable {F : Type} (style : Style)

mutual
/-- The value that the text of a Python value stands for. -/
def json : Value F → Value F
  | .str s => .str (joinPairs s)
  | .list xs => .list (jsonItems xs)
  | .dict es => .dict (dictOf ((style.order (jsonEntries es)).map fun e => (joinPairs e.1, e.2)))
  | v => v

def jsonItems : List (Value F) → List (Value F)
  | [] => []
  | v :: vs => json v :: jsonItems vs

def jsonEntries : List (Text × Value F) → List (Text × Value F)
  | [] => []
  | (key, v) :: es => (key, json v) :: jsonEntries es
end

theorem jsonItems_eq (xs : List (Value F)) : jsonItems style xs = xs.map (json style) := by
  induction xs with
  | nil => rfl
  | cons x xs ih => simp [jsonItems, ih]

theorem jsonEntries_eq (es : List (Text × Value F)) :
    jsonEntries style es = es.map fun e => (e.1, json style e.2) := by
  induction es with
  | nil => rfl
  | cons e es ih => simp [jsonEntries, ih]

theorem json_dict (es : List (Text × Value F)) :
    json style (.dict es) =
      .dict (dictOf ((style.order es).map fun e => (joinPairs e.1, json style e.2))) := by
  rw [json, jsonEntries_eq, style.order_map, List.map_map]
  rfl

/-! ## Values that their text stands for -/

/-- No half of a pair of surrogates is followed by the other half. -/
inductive Whole : Value F → Prop where
  | null : Whole .null
  | bool {b : Bool} : Whole (.bool b)
  | int {n : Int} : Whole (.int n)
  | float {x : F} : Whole (.float x)
  | str {s : Text} (hs : joinPairs s = s) : Whole (.str s)
  | list {xs : List (Value F)} (hxs : ∀ x ∈ xs, Whole x) : Whole (.list xs)
  | dict {es : List (Text × Value F)} (hkeys : ∀ e ∈ es, joinPairs e.1 = e.1)
      (hes : ∀ e ∈ es, Whole e.2) : Whole (.dict es)

mutual
/-- The same value, with the entries of its dictionaries in the order they are written in. -/
def sorted : Value F → Value F
  | .list xs => .list (sortedItems xs)
  | .dict es => .dict (style.order (sortedEntries es))
  | v => v

def sortedItems : List (Value F) → List (Value F)
  | [] => []
  | v :: vs => sorted v :: sortedItems vs

def sortedEntries : List (Text × Value F) → List (Text × Value F)
  | [] => []
  | (key, v) :: es => (key, sorted v) :: sortedEntries es
end

theorem sortedItems_eq (xs : List (Value F)) : sortedItems style xs = xs.map (sorted style) := by
  induction xs with
  | nil => rfl
  | cons x xs ih => simp [sortedItems, ih]

theorem sortedEntries_eq (es : List (Text × Value F)) :
    sortedEntries style es = es.map fun e => (e.1, sorted style e.2) := by
  induction es with
  | nil => rfl
  | cons e es ih => simp [sortedEntries, ih]

theorem json_of_whole {v : Value F} (hv : v.Valid) (hw : Whole v) :
    json style v = sorted style v := by
  induction v using Value.induction with
  | null => rfl
  | bool b => rfl
  | int n => rfl
  | float x => rfl
  | str s =>
      cases hw with
      | str hs => rw [json, hs, sorted.eq_def]
  | list xs ih =>
      cases hv with
      | list hv => cases hw with
        | list hw =>
            rw [json, sorted, jsonItems_eq, sortedItems_eq]
            congr 1
            exact List.map_congr_left fun x hx => ih x hx (hv x hx) (hw x hx)
  | dict es ih =>
      cases hv with
      | dict hkeys htexts hv => cases hw with
        | dict hjoined hw =>
            have hentries : (style.order es).map (fun e => (joinPairs e.1, json style e.2)) =
                (style.order es).map fun e => (e.1, sorted style e.2) := by
              apply List.map_congr_left
              intro e he
              have he' := style.mem_order.mp he
              rw [hjoined e he', ih e he' (hv e he') (hw e he')]
            rw [json_dict, hentries, sorted, sortedEntries_eq, style.order_map, dictOf_of_nodup]
            rw [List.map_map]
            exact style.nodup_order hkeys

/-- Where the keys are not sorted, nothing is moved. -/
theorem sorted_default (v : Value F) : sorted .default v = v := by
  induction v using Value.induction with
  | null => rfl
  | bool b => rfl
  | int n => rfl
  | float x => rfl
  | str s => rfl
  | list xs ih =>
      rw [sorted, sortedItems_eq, List.map_congr_left ih, List.map_id']
  | dict es ih =>
      have hentries : es.map (fun e => (e.1, sorted .default e.2)) = es := by
        rw [List.map_congr_left fun e he => by rw [ih e he], List.map_id']
      rw [sorted, sortedEntries_eq, hentries]
      rfl

/-! ## Values made of strings -/

def str (s : String) : Value F := .str (text s)

def dict (es : List (String × Value F)) : Value F := .dict (es.map fun e => (text e.1, e.2))

/-- The text of the value stands for the value itself. -/
structure Stable (v : Value F) : Prop where
  valid : v.Valid
  whole : Whole v

theorem stable_null : Stable (.null : Value F) := ⟨.null, .null⟩

theorem stable_int (n : Int) : Stable (.int n : Value F) := ⟨.int, .int⟩

theorem stable_str (s : String) : Stable (str s : Value F) :=
  ⟨.str (isText_text s), .str (joinPairs_text s)⟩

theorem stable_dict {es : List (String × Value F)} (hkeys : (es.map Prod.fst).Nodup)
    (hes : ∀ e ∈ es, Stable e.2) : Stable (dict es) := by
  constructor
  · apply Value.Valid.dict
    · rw [List.map_map]
      have hmap : Prod.fst ∘ (fun e : String × Value F => (text e.1, e.2)) = text ∘ Prod.fst := rfl
      rw [hmap, ← List.map_map]
      exact hkeys.map text_injective
    · intro e he
      obtain ⟨e, -, rfl⟩ := List.mem_map.mp he
      exact isText_text e.1
    · intro e he
      obtain ⟨e, hmem, rfl⟩ := List.mem_map.mp he
      exact (hes e hmem).valid
  · apply Whole.dict
    · intro e he
      obtain ⟨e, -, rfl⟩ := List.mem_map.mp he
      exact joinPairs_text e.1
    · intro e he
      obtain ⟨e, hmem, rfl⟩ := List.mem_map.mp he
      exact (hes e hmem).whole

theorem get?_dict (es : List (String × Value F)) (key : String) :
    get? (es.map fun e => (text e.1, e.2)) (text key) =
      (es.find? fun e => e.1 = key).map (·.2) := by
  induction es with
  | nil => rfl
  | cons e es ih =>
      by_cases he : e.1 = key
      · simp [get?, he]
      · have htext : text e.1 ≠ text key := fun h => he (text_injective h)
        simpa [get?, he, htext] using ih

end Encoding
