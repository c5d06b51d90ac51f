import CarPayIn.Process.System

/-! # A relation that a system follows

Often only a few kinds of calls change the part of the state one asks about, and
the programs make these calls in one way only. When every such call, every start
and every environment step is a step of a relation, a run of the system is a run
of the relation, whatever is refused, lost or cut short on the way.
-/

namespace Process

namespace System

universe u

variable {Op : Type → Type u} {ε ρ σ Tid Start Env : Type}

/-- The programs make calls of kind `K` only, and whatever takes effect is a step of `R`. -/
structure Follows (S : System Op ε ρ σ Tid Start Env) (K : ∀ {β : Type}, Op β → Prop)
    (R : σ → σ → Prop) : Prop where
  begin : ∀ x s t p s', S.begin x s = some (t, p, s') → p.Calls K ∧ R s s'
  exec : ∀ t {β : Type} (op : Op β) s r s', K op → S.exec t op s = some (r, s') → R s s'
  environment : ∀ x s s', S.environment x s = some s' → R s s'

variable {S : System Op ε ρ σ Tid Start Env} {K : ∀ {β : Type}, Op β → Prop} {R : σ → σ → Prop}
  [DecidableEq Tid] {π : Policy Op ε σ Tid Start Env} {init J : σ → Prop}
  {c c' : Config Op ε ρ σ Tid}

theorem Follows.live (h : S.Follows K R) (hc : S.Reachable π init c) {t : Tid}
    {p : Program Op ε ρ} (hp : c.pool t = .live p) : p.Calls K := by
  have hleft := Reachable.left (Φ := fun p => p.Calls K) S (fun _ _ hp => hp.2)
    (fun x s t p s' hb => (h.begin x s t p s' hb).1) hc t
  rcases hleft with hidle | hleft
  · rw [hp] at hidle
    cases hidle
  · exact hleft.2 p hp

theorem Follows.advance (h : S.Follows K R) (hc : S.Reachable π init c)
    {l : Label ε Tid Start Env} (ha : S.advance l c = some c') :
    R c.state c'.state ∨ c'.state = c.state := by
  cases l with
  | start x =>
      simp only [System.advance] at ha
      split at ha
      · cases ha
      · rename_i hb
        split at ha
        · cases ha
          exact .inl (h.begin _ _ _ _ _ hb).2
        · cases ha
  | call t m =>
      obtain ⟨β, op, next, r, hlive, ho⟩ := S.advance_call ha
      have hop : K op := (h.live hc hlive).1
      rcases S.outcome_cases ho with ⟨-, he⟩ | ⟨e, -, -, hs⟩ | ⟨e, r₀, -, -, he⟩
      · exact .inl (h.exec t op _ _ _ hop he)
      · exact .inr hs
      · exact .inl (h.exec t op _ _ _ hop he)
  | crash t =>
      simp only [System.advance] at ha
      split at ha
      · cases ha
        exact .inr rfl
      · cases ha
  | environment x =>
      obtain ⟨s, he, rfl⟩ := Option.map_eq_some_iff.mp ha
      exact .inl (h.environment x _ _ he)

/-- What every step of the relation keeps stays true for the rest of a run. -/
theorem Follows.kept (h : S.Follows K R) (hJ : ∀ s s', R s s' → J s → J s')
    (hc : S.Reachable π init c) (hl : S.Later π c c') (hs : J c.state) : J c'.state := by
  induction hl with
  | refl => exact hs
  | step l hl _ ha ih =>
      rcases h.advance (hl.reachable S hc) ha with hR | heq
      · exact hJ _ _ hR ih
      · rw [heq]
        exact ih

/-- What holds at first and every step of the relation keeps holds in every reachable state. -/
theorem Follows.invariant (h : S.Follows K R) (h₀ : ∀ s, init s → J s)
    (hJ : ∀ s s', R s s' → J s → J s') (hc : S.Reachable π init c) : J c.state := by
  obtain ⟨s, hs, hl⟩ := hc.later
  exact h.kept hJ (.boot hs) hl (h₀ s hs)

end System

end Process
