import CarPayIn.Process.Rules

/-! # Histories of runs

What an execution has done is not always to be seen in the state it did it to.
A history is a second component of the state that every call which takes effect
adds to. No program reads it, so every run is a run with a history.
-/

namespace Process

universe u

variable {Op : Type → Type u} {ε ρ σ γ Tid Start Env : Type}

/-- A policy on runs with a history judges the state alone. -/
def Policy.withHistory (π : Policy Op ε σ Tid Start Env) : Policy Op ε (σ × γ) Tid Start Env where
  start x s := π.start x s.1
  call t _ op m s := π.call t op m s.1
  crash t s := π.crash t s.1
  environment x s := π.environment x s.1

instance (π : Policy Op ε σ Tid Start Env) [π.Computable] :
    (π.withHistory : Policy Op ε (σ × γ) Tid Start Env).Computable where
  start x s := inferInstanceAs (Decidable (π.start x s.1))
  call t _ op m s := inferInstanceAs (Decidable (π.call t op m s.1))
  crash t s := inferInstanceAs (Decidable (π.crash t s.1))
  environment x s := inferInstanceAs (Decidable (π.environment x s.1))

def Config.withHistory (c : Config Op ε ρ σ Tid) (g : γ) : Config Op ε ρ (σ × γ) Tid :=
  ⟨(c.state, g), c.pool⟩

namespace System

variable (S : System Op ε ρ σ Tid Start Env)
  (record : ∀ (_ : Tid) {β : Type}, Op β → Except ε β → σ → γ → γ)

/-- The system with a record of every call that takes effect. -/
def withHistory : System Op ε ρ (σ × γ) Tid Start Env where
  exec t _ op s := (S.exec t op s.1).map fun o => (o.1, o.2, record t op o.1 s.1 s.2)
  begin x s := (S.begin x s.1).map fun o => (o.1, o.2.1, o.2.2, s.2)
  environment x s := (S.environment x s.1).map fun s' => (s', s.2)

variable {S record} {t : Tid} {β : Type} {op : Op β} {m : Mode ε} {s s' : σ} {g g' : γ}
  {r : Except ε β}

theorem outcome_of_history (h : (S.withHistory record).outcome t op m (s, g) = some (r, s', g')) :
    S.outcome t op m s = some (r, s') := by
  cases m with
  | answered =>
      obtain ⟨o, ho, h⟩ := Option.map_eq_some_iff.mp h
      cases h
      exact ho
  | refused e =>
      cases h
      rfl
  | lost e =>
      obtain ⟨o, ho, h⟩ := Option.map_eq_some_iff.mp h
      obtain ⟨o₀, ho₀, rfl⟩ := Option.map_eq_some_iff.mp ho
      cases h
      simp [outcome, ho₀]

theorem history_cases (h : (S.withHistory record).outcome t op m (s, g) = some (r, s', g')) :
    (m = .answered ∧ S.exec t op s = some (r, s') ∧ g' = record t op r s g) ∨
      (∃ e, m = .refused e ∧ r = .error e ∧ s' = s ∧ g' = g) ∨
      ∃ e r₀, m = .lost e ∧ r = .error e ∧ S.exec t op s = some (r₀, s') ∧
        g' = record t op r₀ s g := by
  cases m with
  | answered =>
      obtain ⟨o, ho, h⟩ := Option.map_eq_some_iff.mp h
      cases h
      exact .inl ⟨rfl, ho, rfl⟩
  | refused e =>
      cases h
      exact .inr (.inl ⟨e, rfl, rfl, rfl, rfl⟩)
  | lost e =>
      obtain ⟨o, ho, h⟩ := Option.map_eq_some_iff.mp h
      obtain ⟨o₀, ho₀, rfl⟩ := Option.map_eq_some_iff.mp ho
      cases h
      exact .inr (.inr ⟨e, o₀.1, rfl, rfl, ho₀, rfl⟩)

/-- Only an answered call returns, and it has been recorded. -/
theorem history_ok {a : β} (h : (S.withHistory record).outcome t op m (s, g) = some (.ok a, s', g')) :
    m = .answered ∧ S.exec t op s = some (.ok a, s') ∧ g' = record t op (.ok a) s g := by
  rcases history_cases h with h | ⟨e, -, h, -⟩ | ⟨e, r₀, -, h, -⟩
  · exact h
  · cases h
  · cases h

variable (record) in
theorem outcome_withHistory (h : S.outcome t op m s = some (r, s')) (g : γ) :
    ∃ g', (S.withHistory record).outcome t op m (s, g) = some (r, s', g') := by
  cases m with
  | answered =>
      have h : S.exec t op s = some (r, s') := h
      exact ⟨record t op r s g, by simp [outcome, withHistory, h]⟩
  | refused e =>
      cases h
      exact ⟨g, rfl⟩
  | lost e =>
      obtain ⟨o, ho, h⟩ := Option.map_eq_some_iff.mp h
      cases h
      exact ⟨record t op o.1 s g, by simp [outcome, withHistory, ho]⟩

variable [DecidableEq Tid] {c c' : Config Op ε ρ σ Tid}

variable (record) in
theorem advance_withHistory {l : Label ε Tid Start Env} (h : S.advance l c = some c') (g : γ) :
    ∃ g', (S.withHistory record).advance l (c.withHistory g) =
      some (c'.withHistory g') := by
  cases l with
  | start x =>
      simp only [advance] at h
      split at h
      · cases h
      · rename_i t₀ p s₁ hb
        split at h
        · rename_i hidle
          cases h
          exact ⟨g, by simp [advance, withHistory, Config.withHistory, hb, hidle]⟩
        · cases h
  | call t₀ m =>
      simp only [advance] at h
      split at h
      · rename_i β op next hlive
        split at h
        · cases h
        · rename_i r s₁ ho
          cases h
          obtain ⟨g', hg⟩ := outcome_withHistory record ho g
          exact ⟨g', by simp [advance, Config.withHistory, hlive, hg]⟩
      · cases h
  | crash t₀ =>
      simp only [advance] at h
      split at h
      · rename_i hlive
        cases h
        exact ⟨g, by simp [advance, Config.withHistory, hlive]⟩
      · cases h
  | environment x =>
      obtain ⟨s₁, he, rfl⟩ := Option.map_eq_some_iff.mp h
      exact ⟨g, by simp [advance, withHistory, Config.withHistory, he]⟩

/-- A call takes effect and adds to the history, or leaves the state and the history. -/
theorem history_of_advance {m : Mode ε} {g g' : γ}
    (h : (S.withHistory record).advance (.call t m : Label ε Tid Start Env) (c.withHistory g) =
      some (c'.withHistory g')) : ∃ (β : Type) (op : Op β) (next : Except ε β → Program Op ε ρ),
    c.pool t = .live (.call op next) ∧
      ((∃ r₀, S.exec t op c.state = some (r₀, c'.state) ∧ g' = record t op r₀ c.state g) ∨
        (c'.state = c.state ∧ g' = g)) := by
  obtain ⟨β, op, next, r, hlive, ho⟩ := (S.withHistory record).advance_call h
  refine ⟨β, op, next, hlive, ?_⟩
  rcases history_cases ho with ⟨-, he, hg⟩ | ⟨e, -, -, hs, hg⟩ | ⟨e, r₀, -, -, he, hg⟩
  · exact .inl ⟨r, he, hg⟩
  · exact .inr ⟨hs, hg⟩
  · exact .inl ⟨r₀, he, hg⟩

omit [DecidableEq Tid] in
theorem permits_withHistory {π : Policy Op ε σ Tid Start Env} {l : Label ε Tid Start Env}
    (h : Permits π l c) (g : γ) : Permits π.withHistory l (c.withHistory g) := by
  cases l with
  | start x => exact h
  | call t₀ m => exact h
  | crash t₀ => exact h
  | environment x => exact h

variable (record) in
theorem Later.withHistory {π : Policy Op ε σ Tid Start Env} (hl : S.Later π c c') (g : γ) :
    ∃ g', (S.withHistory record).Later π.withHistory (c.withHistory g)
      (c'.withHistory g') := by
  induction hl with
  | refl => exact ⟨g, .refl⟩
  | step l _ hp ha ih =>
      obtain ⟨g₁, hg₁⟩ := ih
      obtain ⟨g', ha'⟩ := advance_withHistory record ha g₁
      exact ⟨g', .step l hg₁ (permits_withHistory hp g₁) ha'⟩

variable (record) in
theorem Reachable.withHistory {π : Policy Op ε σ Tid Start Env} {init : σ → Prop}
    (hc : S.Reachable π init c) (g₀ : γ) : ∃ g,
      (S.withHistory record).Reachable π.withHistory (fun s => init s.1 ∧ s.2 = g₀)
        (c.withHistory g) := by
  obtain ⟨s, hs, hl⟩ := hc.later
  obtain ⟨g, hg⟩ := Later.withHistory record hl g₀
  exact ⟨g, Later.reachable _ hg (.boot ⟨hs, rfl⟩)⟩

section
variable {π : Policy Op ε σ Tid Start Env} {d d' : Config Op ε ρ (σ × γ) Tid}

/-- Without the history, an event of the longer run is one of the system. -/
theorem advance_forget {l : Label ε Tid Start Env} (h : (S.withHistory record).advance l d = some d') :
    S.advance l ⟨d.state.1, d.pool⟩ = some ⟨d'.state.1, d'.pool⟩ := by
  cases l with
  | start x =>
      simp only [advance, withHistory] at h ⊢
      cases hb : S.begin x d.state.1 with
      | none => simp [hb] at h
      | some o =>
          simp only [hb, Option.map_some] at h
          cases hidle : d.pool o.1 with
          | idle =>
              simp only [hidle, Option.some.injEq] at h
              cases h
              simp [hidle]
          | _ => simp [hidle] at h
  | call t m =>
      simp only [advance] at h ⊢
      split at h
      · split at h
        · cases h
        · rename_i op _ _ _ r s₁ ho
          cases h
          have ho' : S.outcome t op m d.state.1 = some (r, s₁.1) := outcome_of_history ho
          simp [ho']
      · cases h
  | crash t =>
      simp only [advance] at h ⊢
      split at h
      · cases h
        simp
      · cases h
  | environment x =>
      obtain ⟨s, he, rfl⟩ := Option.map_eq_some_iff.mp h
      obtain ⟨s₁, he₁, rfl⟩ := Option.map_eq_some_iff.mp he
      simp [advance, he₁]

theorem Reachable.forget {init : σ × γ → Prop} {init' : σ → Prop} (h₀ : ∀ s, init s → init' s.1)
    (hd : (S.withHistory record).Reachable π.withHistory init d) :
    S.Reachable π init' ⟨d.state.1, d.pool⟩ := by
  induction hd with
  | boot hs => exact .boot (h₀ _ hs)
  | step l _ hp ha ih =>
      refine .step l ih ?_ (advance_forget ha)
      cases l with
      | start x => exact hp
      | call t m => exact hp
      | crash t => exact hp
      | environment x => exact hp

end

end System

end Process
