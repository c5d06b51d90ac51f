import CarPayIn.Process.Rules

/-! # Executions on firm ground

Something may hold from some moment on for the rest of a run. An execution that
begins after that moment finds it at each of its calls, so that its result can be
told from the program alone, without a look at what else goes on.
-/

namespace Process

namespace System

universe u

variable {Op : Type → Type u} {ε ρ σ Tid Start Env : Type}

/-- However its calls go in states that satisfy `P`, the program ends as `Φ` says. -/
def Grounded (S : System Op ε ρ σ Tid Start Env) (t : Tid) (P : σ → Prop) {α : Type}
    (Φ : Except ε α → Prop) : Program Op ε α → Prop
  | .done r => Φ r
  | .call op next => ∀ s m r s', P s → S.outcome t op m s = some (r, s') →
      Grounded S t P Φ (next r)

section
variable {S : System Op ε ρ σ Tid Start Env} {t : Tid} {P : σ → Prop} {α β : Type}

theorem Grounded.perform {Φ : Except ε α → Prop} {op : Op α}
    (h : ∀ s m r s', P s → S.outcome t op m s = some (r, s') → Φ r) :
    S.Grounded t P Φ (.perform op) := h

/-- What raises ends as `Φ` allows, and what returns goes on. -/
theorem Grounded.bind {Φ : Except ε β → Prop} {p : Program Op ε α} {f : α → Program Op ε β}
    (hp : S.Grounded t P (fun r => match r with
      | .ok a => S.Grounded t P Φ (f a)
      | .error e => Φ (.error e)) p) : S.Grounded t P Φ (p.bind f) := by
  induction p with
  | done r =>
      cases r with
      | ok a => exact hp
      | error e => exact hp
  | call op next ih => exact fun s m r s' hs ho => ih r (hp s m r s' hs ho)

theorem Grounded.mono {Φ Ψ : Except ε α → Prop} {p : Program Op ε α} (hp : S.Grounded t P Φ p)
    (h : ∀ r, Φ r → Ψ r) : S.Grounded t P Ψ p := by
  induction p with
  | done r => exact h r hp
  | call op next ih => exact fun s m r s' hs ho => ih r (hp s m r s' hs ho)

theorem Grounded.map {Φ : Except ε β → Prop} {p : Program Op ε α} {f : α → β}
    (hp : S.Grounded t P (fun r => Φ (r.map f)) p) : S.Grounded t P Φ (f <$> p) := by
  apply Grounded.bind (hp.mono ?_)
  intro r h
  cases r with
  | ok a => exact h
  | error e => exact h

end

def Thread.Grounded (S : System Op ε ρ σ Tid Start Env) (t : Tid) (P : σ → Prop)
    (Φ : Except ε ρ → Prop) : Thread Op ε ρ → Prop
  | .live p => S.Grounded t P Φ p
  | .ended r => Φ r
  | _ => True

theorem Thread.Grounded.ofProgram {S : System Op ε ρ σ Tid Start Env} {t : Tid} {P : σ → Prop} {Φ : Except ε ρ → Prop}
    {p : Program Op ε ρ} (h : S.Grounded t P Φ p) :
    Thread.Grounded S t P Φ (Thread.ofProgram p) := by
  cases p with
  | done r => exact h
  | call op next => exact h

variable {S : System Op ε ρ σ Tid Start Env} [DecidableEq Tid] {π : Policy Op ε σ Tid Start Env}
  {R : Contract σ Tid} {init : σ → Prop} {O : Outline ε ρ σ Tid} {c c' : Config Op ε ρ σ Tid}

theorem grounded_advance {P : σ → Prop} {t : Tid} {Φ : Except ε ρ → Prop}
    (hbegin : ∀ x s p s', S.begin x s = some (t, p, s') → S.Grounded t P Φ p)
    (hs : P c.state) (hT : Thread.Grounded S t P Φ (c.pool t)) {l : Label ε Tid Start Env}
    (ha : S.advance l c = some c') : Thread.Grounded S t P Φ (c'.pool t) := by
  cases l with
  | start x =>
      simp only [System.advance] at ha
      split at ha
      · cases ha
      · rename_i t₁ p s₁ hb
        split at ha
        · cases ha
          by_cases he : t = t₁
          · subst he
            simpa using Thread.Grounded.ofProgram (hbegin x _ p s₁ hb)
          · simpa [Function.update_of_ne he] using hT
        · cases ha
  | call t₁ m =>
      simp only [System.advance] at ha
      split at ha
      · rename_i β op next hlive
        split at ha
        · cases ha
        · rename_i r s₁ ho
          cases ha
          by_cases he : t = t₁
          · subst he
            rw [hlive] at hT
            simpa using Thread.Grounded.ofProgram (hT _ _ _ _ hs ho)
          · simpa [Function.update_of_ne he] using hT
      · cases ha
  | crash t₁ =>
      simp only [System.advance] at ha
      split at ha
      · cases ha
        by_cases he : t = t₁
        · subst he
          simp [Thread.Grounded]
        · simpa [Function.update_of_ne he] using hT
      · cases ha
  | environment x =>
      obtain ⟨s, -, rfl⟩ := Option.map_eq_some_iff.mp ha
      exact hT

/-- A request that begins when `P` holds for good ends as `Φ` says. -/
theorem Meets.ended (hM : S.Meets π R init O) {P : σ → Prop}
    (hP : ∀ s s', R.invariant s → R.Moves s s' → P s → P s') {t : Tid} {Φ : Except ε ρ → Prop}
    (hbegin : ∀ x s p s', S.begin x s = some (t, p, s') → S.Grounded t P Φ p)
    (hc : S.Reachable π init c) (hl : S.Later π c c') (hs : P c.state) (hidle : c.pool t = .idle)
    {r : Except ε ρ} (hr : c'.pool t = .ended r) : Φ r := by
  have hT : Thread.Grounded S t P Φ (c'.pool t) := by
    clear hr
    induction hl with
    | refl =>
        rw [hidle]
        trivial
    | step l hl _ ha ih => exact grounded_advance hbegin (hM.kept hP hc hl hs) ih ha
  rw [hr] at hT
  exact hT

end System

end Process
