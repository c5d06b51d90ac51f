import CarPayIn.Process.Program

/-! # Refinement between programs over different calls

Two programs describe one piece of code, over states of different detail. The
detailed one refines the other when, from states that agree, each of its
outcomes is one of the other's, with results and states that agree again.
-/

namespace Process

universe u v

variable {Op : Type → Type u} {Op' : Type → Type v} {ε σ τ α α' β β' : Type}

/-- The same error, or values that agree. -/
inductive ResultsAgree (V : α → β → Prop) : Except ε α → Except ε β → Prop where
  | ok {a : α} {b : β} (h : V a b) : ResultsAgree V (.ok a) (.ok b)
  | error (e : ε) : ResultsAgree V (.error e) (.error e)

namespace Program

/-- `q`, whose calls do what `specC` says, refines `p`, whose calls do what `specA` says. -/
def Refines (specA : CallSpec Op ε σ) (specC : CallSpec Op' ε τ) (R : σ → τ → Prop)
    (V : α → β → Prop) (p : Program Op ε α) (q : Program Op' ε β) : Prop :=
  ∀ s s', R s s' → ∀ post : Except ε β → τ → Prop,
    p.wp specA (fun r s => ∀ r' s', R s s' → ResultsAgree V r r' → post r' s') s → q.wp specC post s'

variable {specA : CallSpec Op ε σ} {specC : CallSpec Op' ε τ} {R : σ → τ → Prop}
  {V : α → β → Prop} {V' : α' → β' → Prop} {p : Program Op ε α} {q : Program Op' ε β}

theorem Refines.done {r : Except ε α} {r' : Except ε β} (h : ResultsAgree V r r') :
    Refines specA specC R V (.done r) (.done r') :=
  fun _ s' hR _ hp => hp r' s' hR h

theorem Refines.bind (hm : CallSpec.Monotone @specA) {f : α → Program Op ε α'}
    {g : β → Program Op' ε β'} (hp : Refines specA specC R V p q)
    (hf : ∀ a b, V a b → Refines specA specC R V' (f a) (g b)) :
    Refines specA specC R V' (p.bind f) (q.bind g) := by
  intro s s' hR post h
  rw [wp_bind] at h ⊢
  refine hp s s' hR _ (wp_mono hm p ?_ s h)
  intro r s₁ hr r' s₁' hR' hagree
  cases hagree with
  | ok hv => exact hf _ _ hv s₁ s₁' hR' post hr
  | error e => exact hr (.error e) s₁' hR' (.error e)

theorem Refines.tryCatch (hm : CallSpec.Monotone @specA) {f : ε → Program Op ε α}
    {g : ε → Program Op' ε β} (hp : Refines specA specC R V p q)
    (hf : ∀ e, Refines specA specC R V (f e) (g e)) :
    Refines specA specC R V (p.tryCatch f) (q.tryCatch g) := by
  intro s s' hR post h
  rw [wp_tryCatch] at h ⊢
  refine hp s s' hR _ (wp_mono hm p ?_ s h)
  intro r s₁ hr r' s₁' hR' hagree
  cases hagree with
  | ok hv => exact hr _ s₁' hR' (.ok hv)
  | error e => exact hf e s₁ s₁' hR' post hr

theorem Refines.attempt (hm : CallSpec.Monotone @specA) (hp : Refines specA specC R V p q) :
    Refines specA specC R (ResultsAgree V) p.attempt q.attempt := by
  intro s s' hR post h
  rw [wp_attempt] at h ⊢
  exact hp s s' hR _ (wp_mono hm p (fun r s₁ hr r' s₁' hR' hv => hr (.ok r') s₁' hR' (.ok hv)) s h)

end Program

end Process
