import Mathlib.Logic.Function.Basic
import Mathlib.Data.List.Nodup

/-! # Tables as lists of rows

A column is a function of the row. Looking a row up by a column that the
table keeps unique finds the only row with that value; uniqueness is the
business of the insertion that checks it.
-/

namespace Store

variable {ρ κ : Type} [DecidableEq κ]

/-- The first row whose column holds `k`. -/
def get? (col : ρ → κ) (k : κ) (rows : List ρ) : Option ρ := rows.find? fun r => col r = k

/-- Rewrite the rows whose column holds `k`. -/
def modify (col : ρ → κ) (k : κ) (f : ρ → ρ) (rows : List ρ) : List ρ :=
  rows.map fun r => if col r = k then f r else r

section
variable {col : ρ → κ} {rows : List ρ} {k j : κ} {r : ρ}

@[simp] theorem get?_nil : get? col k ([] : List ρ) = none := rfl

theorem get?_cons : get? col k (r :: rows) = if col r = k then some r else get? col k rows := by
  by_cases h : col r = k <;> simp [get?, h]

theorem col_of_get? (h : get? col k rows = some r) : col r = k := by
  simpa using List.find?_some h

theorem mem_of_get? (h : get? col k rows = some r) : r ∈ rows := List.mem_of_find?_eq_some h

theorem get?_eq_none : get? col k rows = none ↔ ∀ r ∈ rows, col r ≠ k := by
  simp [get?]

/-- A rewriting that keeps the column changes only the rows it is meant for. -/
theorem get?_modify (f : ρ → ρ) (hf : ∀ r, col (f r) = col r) :
    get? col j (modify col k f rows) = if j = k then (get? col k rows).map f
      else get? col j rows := by
  induction rows with
  | nil => simp [modify]
  | cons r rows ih =>
      simp only [modify, List.map_cons] at ih ⊢
      rw [get?_cons, ih, get?_cons, get?_cons]
      by_cases hr : col r = k
      · by_cases hj : j = k
        · subst hj; simp [hr, hf]
        · simp [hr, hf, hj, Ne.symm hj]
      · by_cases hj : j = k
        · subst hj; simp [hr]
        · simp [hr, hj]

theorem get?_modify_other {κ' : Type} [DecidableEq κ'] (col' : ρ → κ') (k' : κ') {f : ρ → ρ}
    (hf : ∀ r, col (f r) = col r) : get? col j (modify col' k' f rows) =
      (get? col j rows).map fun r => if col' r = k' then f r else r := by
  have hcol : ∀ r, col (if col' r = k' then f r else r) = col r := by
    intro r
    split
    · exact hf r
    · rfl
  simp only [get?, modify, List.find?_map, Function.comp_def, hcol]

theorem get?_map {f : ρ → ρ} (hf : ∀ r, col (f r) = col r) :
    get? col j (rows.map f) = (get? col j rows).map f := by
  simp only [get?, List.find?_map, Function.comp_def, hf]

theorem map_get?_cons {γ : Type} {g : ρ → γ} : (get? col j (r :: rows)).map g =
    if j = col r then some (g r) else (get? col j rows).map g := by
  rw [get?_cons]
  by_cases h : j = col r
  · simp [h]
  · simp [h, Ne.symm h]

theorem map_get?_modify {γ : Type} {f : ρ → ρ} {g : ρ → γ} {x : γ}
    (hf : ∀ r, col (f r) = col r) (hg : ∀ r, g (f r) = x) (h : get? col k rows = some r) :
    (get? col j (modify col k f rows)).map g =
      if j = k then some x else (get? col j rows).map g := by
  rw [get?_modify f hf, h]
  by_cases hj : j = k
  · simp [hj, hg]
  · simp [hj]

theorem table_cons : (fun j => get? col j (r :: rows)) =
    Function.update (fun j => get? col j rows) (col r) (some r) := by
  funext j
  rw [get?_cons, Function.update_apply]
  by_cases h : col r = j
  · simp [h]
  · rw [if_neg h, if_neg (Ne.symm h)]

theorem table_modify {f : ρ → ρ} (hf : ∀ r, col (f r) = col r) (h : get? col k rows = some r) :
    (fun j => get? col j (modify col k f rows)) =
      Function.update (fun j => get? col j rows) k (some (f r)) := by
  funext j
  rw [get?_modify f hf, h, Function.update_apply]
  rfl

/-! ## Unique columns -/

/-- No two rows share a value of the column. -/
def UniqueBy (col : ρ → κ) (rows : List ρ) : Prop := (rows.map col).Nodup

theorem UniqueBy.cons (h : UniqueBy col rows) (hr : get? col (col r) rows = none) :
    UniqueBy col (r :: rows) := by
  refine List.nodup_cons.mpr ⟨fun hm => ?_, h⟩
  obtain ⟨r', hr', he⟩ := List.mem_map.mp hm
  exact get?_eq_none.mp hr r' hr' he

omit [DecidableEq κ] in
theorem UniqueBy.map {f : ρ → ρ} (h : UniqueBy col rows) (hf : ∀ r, col (f r) = col r) :
    UniqueBy col (rows.map f) := by
  unfold UniqueBy
  rw [List.map_map, show col ∘ f = col from funext hf]
  exact h

theorem UniqueBy.modify {f : ρ → ρ} (h : UniqueBy col rows) (hf : ∀ r, col (f r) = col r) :
    UniqueBy col (modify col k f rows) := by
  apply h.map
  intro r
  split
  · exact hf r
  · rfl

theorem UniqueBy.get?_of_mem (h : UniqueBy col rows) (hr : r ∈ rows) :
    get? col (col r) rows = some r := by
  induction rows with
  | nil => cases hr
  | cons r' rows ih =>
      obtain ⟨hnew, hrest⟩ := List.nodup_cons.mp h
      rw [get?_cons]
      rcases List.mem_cons.mp hr with rfl | hr
      · simp
      · have hne : col r' ≠ col r := fun he => hnew (by rw [he]; exact List.mem_map_of_mem hr)
        rw [if_neg hne]
        exact ih hrest hr

/-- At most one row holds a given value. -/
theorem UniqueBy.length_filter_le (h : UniqueBy col rows) (k : κ) :
    (rows.filter fun r => col r = k).length ≤ 1 := by
  induction rows with
  | nil => simp
  | cons r rows ih =>
      obtain ⟨hnew, hrest⟩ := List.nodup_cons.mp h
      by_cases hr : col r = k
      · have hnone : (rows.filter fun r => col r = k) = [] := by
          rw [List.filter_eq_nil_iff]
          intro r' hr' he
          have heq : col r' = col r := (of_decide_eq_true he).trans hr.symm
          exact hnew (heq ▸ List.mem_map_of_mem hr')
        simp [hr, hnone]
      · simpa [hr] using ih hrest

end

end Store
