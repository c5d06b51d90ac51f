import CarPayIn.Process.System

/-! # Rely-guarantee rules for interleaved executions

A contract says what one call of an execution may do to the state, what may
happen besides, and which invariant both keep. A program meets its contract
when, from a state that satisfies its precondition, every call it makes is
within the guarantee, whatever the other executions did in the meantime. The
soundness theorem turns one such proof for each program into a fact about
every run.
-/

namespace Process

universe u v

variable {Op : Type → Type u} {ε ρ σ Tid Start Env α β : Type}

structure Contract (σ Tid : Type) where
  /-- What holds in every state. -/
  invariant : σ → Prop
  /-- What one call of an execution may do to the state. -/
  guarantee : Tid → σ → σ → Prop
  /-- What starts of executions and environment steps may do to it. -/
  environment : σ → σ → Prop
  /-- What is already known of every call, from another contract. -/
  assumed : Tid → σ → σ → Prop := fun _ _ _ => True

namespace Contract

variable (R : Contract σ Tid)

/-- One step that is not a call of execution `t`. -/
def Interferes (t : Tid) (s s' : σ) : Prop :=
  R.invariant s ∧ R.invariant s' ∧ ((∃ t', t' ≠ t ∧ R.guarantee t' s s') ∨ R.environment s s')

/-- Whatever may happen between two calls of execution `t`. -/
def Rely (t : Tid) : σ → σ → Prop := Relation.ReflTransGen (R.Interferes t)

/-- One step of the whole system. -/
def Moves (s s' : σ) : Prop := (∃ t, R.guarantee t s s') ∨ R.environment s s'

/-- An assertion about execution `t` that no other step can falsify. -/
def Stable (t : Tid) (P : σ → Prop) : Prop := ∀ s s', R.Interferes t s s' → P s → P s'

variable {R} {t : Tid} {P Q : σ → Prop}

theorem Stable.rely (h : R.Stable t P) {s s' : σ} (hr : R.Rely t s s') (hp : P s) : P s' := by
  induction hr with
  | refl => exact hp
  | tail _ hi ih => exact h _ _ hi ih

theorem Rely.invariant {s s' : σ} (hr : R.Rely t s s') (hs : R.invariant s) : R.invariant s' := by
  cases hr with
  | refl => exact hs
  | tail _ hi => exact hi.2.1

theorem Stable.and (hP : R.Stable t P) (hQ : R.Stable t Q) : R.Stable t (fun s => P s ∧ Q s) :=
  fun s s' hi h => ⟨hP s s' hi h.1, hQ s s' hi h.2⟩

theorem Stable.or (hP : R.Stable t P) (hQ : R.Stable t Q) : R.Stable t (fun s => P s ∨ Q s) :=
  fun s s' hi h => h.imp (hP s s' hi) (hQ s s' hi)

theorem Stable.exists {ι : Sort*} {P : ι → σ → Prop} (h : ∀ i, R.Stable t (P i)) :
    R.Stable t (fun s => ∃ i, P i s) :=
  fun s s' hi ⟨i, hp⟩ => ⟨i, h i s s' hi hp⟩

theorem Stable.const (p : Prop) : R.Stable t (fun _ => p) := fun _ _ _ h => h

end Contract

/-- What is known of an execution while it is not at a call. -/
structure Outline (ε ρ σ Tid : Type) where
  idle : Tid → σ → Prop
  ended : Tid → Except ε ρ → σ → Prop
  stopped : Tid → σ → Prop

def Outline.unknown : Outline ε ρ σ Tid where
  idle _ _ := True
  ended _ _ _ := True
  stopped _ _ := True

namespace System

variable (S : System Op ε ρ σ Tid Start Env) (π : Policy Op ε σ Tid Start Env)
  (R : Contract σ Tid)

/-- A call of execution `t` is within the guarantee after any interference, and
`Φ` holds of whatever comes of it. -/
def spec (t : Tid) : Program.CallSpec Op ε σ := fun {_} op Φ s =>
  ∀ s₁, R.Rely t s s₁ → R.invariant s₁ →
    (∀ m r s₂, π.call t op m s₁ → S.outcome t op m s₁ = some (r, s₂) → R.assumed t s₁ s₂ →
      R.guarantee t s₁ s₂ ∧ Φ r s₂)

theorem spec_monotone (t : Tid) : Program.CallSpec.Monotone (S.spec π R t) :=
  fun _ _ _ _ h _ hs s₁ hr hi m r s₂ hp ho ha =>
    let ⟨hg, hΦ⟩ := hs s₁ hr hi m r s₂ hp ho ha
    ⟨hg, h r s₂ hΦ⟩

/-- From `P`, every call of `p` keeps the contract, and `Q` holds when `p` is over. -/
def Triple (t : Tid) (P : σ → Prop) (p : Program Op ε α) (Q : Except ε α → σ → Prop) : Prop :=
  ∀ s, P s → p.wp (S.spec π R t) Q s

/-! ## Rules for single programs -/

section Rules
variable {S π R} {t : Tid} {P P' : σ → Prop}

theorem Triple.done {r : Except ε α} {Q : Except ε α → σ → Prop} (h : ∀ s, P s → Q r s) :
    S.Triple π R t P (.done r) Q := h

theorem Triple.conseq {p : Program Op ε α} {Q Q' : Except ε α → σ → Prop}
    (h : S.Triple π R t P p Q) (hP : ∀ s, P' s → P s) (hQ : ∀ r s, Q r s → Q' r s) :
    S.Triple π R t P' p Q' :=
  fun s hs => Program.wp_mono (S.spec_monotone π R t) p hQ s (h s (hP s hs))

theorem Triple.exists {ι : Sort*} {P : ι → σ → Prop} {p : Program Op ε α}
    {Q : Except ε α → σ → Prop} (h : ∀ i, S.Triple π R t (P i) p Q) :
    S.Triple π R t (fun s => ∃ i, P i s) p Q :=
  fun s ⟨i, hs⟩ => h i s hs

theorem Triple.or {p : Program Op ε α} {Q : Except ε α → σ → Prop}
    (h : S.Triple π R t P p Q) (h' : S.Triple π R t P' p Q) :
    S.Triple π R t (fun s => P s ∨ P' s) p Q :=
  fun s hs => hs.elim (h s) (h' s)

/-- The rule for one call of which something is known beforehand. -/
theorem Triple.perform_assuming {op : Op α} {Q : Except ε α → σ → Prop} (hP : R.Stable t P)
    (h : ∀ s m r s', P s → R.invariant s → π.call t op m s → S.outcome t op m s = some (r, s') →
      R.assumed t s s' → R.guarantee t s s' ∧ Q r s') : S.Triple π R t P (.perform op) Q :=
  fun _ hs s₁ hr hi m r s₂ hp ho ha => h s₁ m r s₂ (hP.rely hr hs) hi hp ho ha

/-- The rule for one call: its precondition survives interference, and from it
every outcome the policy admits is within the guarantee. -/
theorem Triple.perform {op : Op α} {Q : Except ε α → σ → Prop} (hP : R.Stable t P)
    (h : ∀ s m r s', P s → R.invariant s → π.call t op m s →
      S.outcome t op m s = some (r, s') → R.guarantee t s s' ∧ Q r s') :
    S.Triple π R t P (.perform op) Q :=
  .perform_assuming hP fun s m r s' hs hi hp ho _ => h s m r s' hs hi hp ho

theorem Triple.bind {p : Program Op ε α} {f : α → Program Op ε β} {M : α → σ → Prop}
    {Q : Except ε β → σ → Prop}
    (hp : S.Triple π R t P p (fun r s => match r with
      | .ok a => M a s
      | .error e => Q (.error e) s))
    (hf : ∀ a, S.Triple π R t (M a) (f a) Q) : S.Triple π R t P (p.bind f) Q := by
  intro s hs
  rw [Program.wp_bind]
  refine Program.wp_mono (S.spec_monotone π R t) p (fun r s' h => ?_) s (hp s hs)
  cases r with
  | ok a => exact hf a s' h
  | error e => exact h

/-- A first part that keeps its precondition, whether it returns or raises. -/
theorem Triple.seq {p : Program Op ε α} {f : α → Program Op ε β} {Q : Except ε β → σ → Prop}
    (hp : S.Triple π R t P p (fun _ => P)) (he : ∀ e s, P s → Q (.error e) s)
    (hf : ∀ a, S.Triple π R t P (f a) Q) : S.Triple π R t P (p.bind f) Q := by
  refine .bind (hp.conseq (fun _ h => h) fun r s h => ?_) hf
  cases r with
  | ok a => exact h
  | error e => exact he e s h

theorem Triple.map {p : Program Op ε α} {f : α → β} {Q : Except ε β → σ → Prop}
    (hp : S.Triple π R t P p (fun r => Q (r.map f))) : S.Triple π R t P (f <$> p) Q := by
  refine .bind (M := fun a => Q (.ok (f a))) (hp.conseq (fun _ h => h) fun r s h => ?_)
    fun a => .done fun _ h => h
  cases r with
  | ok a => exact h
  | error e => exact h

theorem Triple.tryCatch {p : Program Op ε α} {f : ε → Program Op ε α} {M : ε → σ → Prop}
    {Q : Except ε α → σ → Prop}
    (hp : S.Triple π R t P p (fun r s => match r with
      | .ok a => Q (.ok a) s
      | .error e => M e s))
    (hf : ∀ e, S.Triple π R t (M e) (f e) Q) : S.Triple π R t P (p.tryCatch f) Q := by
  intro s hs
  rw [Program.wp_tryCatch]
  refine Program.wp_mono (S.spec_monotone π R t) p (fun r s' h => ?_) s (hp s hs)
  cases r with
  | ok a => exact h
  | error e => exact hf e s' h

theorem Triple.attempt {p : Program Op ε α} {Q : Except ε (Except ε α) → σ → Prop}
    (hp : S.Triple π R t P p (fun r s => Q (.ok r) s)) : S.Triple π R t P p.attempt Q := by
  intro s hs
  rw [Program.wp_attempt]
  exact hp s hs

/-- What no step of the system falsifies is known throughout. -/
theorem Triple.frame {p : Program Op ε α} {Q : Except ε α → σ → Prop} {F : σ → Prop}
    (hF : R.Stable t F) (hg : ∀ s s', R.guarantee t s s' → F s → F s')
    (hp : S.Triple π R t P p Q) :
    S.Triple π R t (fun s => P s ∧ F s) p (fun r s => Q r s ∧ F s) := by
  rintro s ⟨hs, hf⟩
  have hw := hp s hs
  clear hp hs
  induction p generalizing s with
  | done r => exact ⟨hw, hf⟩
  | call op next ih =>
      intro s₁ hr hi m r s₂ hpol ho ha
      obtain ⟨hg', hw'⟩ := hw s₁ hr hi m r s₂ hpol ho ha
      exact ⟨hg', ih r s₂ (hg s₁ s₂ hg' (hF.rely hr hf)) hw'⟩

def Keeps (S : System Op ε ρ σ Tid Start Env) (π : Policy Op ε σ Tid Start Env) (R : Contract σ Tid)
    (t : Tid) (P : σ → Prop) {β : Type} (op : Op β) : Prop :=
  ∀ s m r s', P s → R.invariant s → π.call t op m s → S.outcome t op m s = some (r, s') →
    R.assumed t s s' → R.guarantee t s s' ∧ P s'

theorem Triple.calls_of {K : ∀ {β : Type}, Op β → Prop} {p : Program Op ε α} (hp : p.Calls K)
    (h : ∀ {β : Type} (op : Op β), K op → S.Triple π R t P (.perform op) (fun _ => P)) :
    S.Triple π R t P p (fun _ => P) := by
  induction p with
  | done r => exact fun s hs => hs
  | call op next ih =>
      intro s hs
      apply S.spec_monotone π R t _ _ _ _ s (h op hp.1 s hs)
      intro r s' hs'
      exact ih r (hp.2 r) s' hs'

theorem Triple.calls {p : Program Op ε α} (hp : p.Calls (S.Keeps π R t P)) (hP : R.Stable t P) :
    S.Triple π R t P p (fun _ => P) :=
  .calls_of hp fun _ hk => .perform_assuming hP hk

end Rules

/-! ## Soundness -/

/-- What has to be proved of a system: the contract keeps its invariant, starts
and environment steps are within the contract, and so is every program. -/
structure Meets [DecidableEq Tid] (first : σ → Prop) (O : Outline ε ρ σ Tid) : Prop where
  init : ∀ s, first s → R.invariant s ∧ ∀ t, O.idle t s
  moves : ∀ s s', R.invariant s → R.Moves s s' → R.invariant s'
  idle_stable : ∀ t, R.Stable t (O.idle t)
  ended_stable : ∀ t r, R.Stable t (O.ended t r)
  stopped_stable : ∀ t, R.Stable t (O.stopped t)
  start : ∀ x s t p s', R.invariant s → S.begin x s = some (t, p, s') → π.start x s → O.idle t s →
    R.environment s s' ∧ (R.invariant s' → p.wp (S.spec π R t) (O.ended t) s')
  crash : ∀ t s, π.crash t s → O.stopped t s
  environment : ∀ x s s', S.environment x s = some s' → π.environment x s → R.environment s s'
  assumed : ∀ (c : Config Op ε ρ σ Tid), S.Reachable π first c → ∀ (t : Tid) {β : Type} (op : Op β)
    (next : Except ε β → Program Op ε ρ) m r s, c.pool t = .live (.call op next) →
      π.call t op m c.state → S.outcome t op m c.state = some (r, s) → R.assumed t c.state s := by
    intros; trivial

def Assertion (O : Outline ε ρ σ Tid) (t : Tid) : Thread Op ε ρ → σ → Prop
  | .idle, s => O.idle t s
  | .live p, s => p.wp (S.spec π R t) (O.ended t) s ∧
      ∃ (β : Type) (op : Op β) (next : Except ε β → Program Op ε ρ), p = .call op next
  | .ended r, s => O.ended t r s
  | .stopped, s => O.stopped t s

variable {S π R} {init : σ → Prop} {O : Outline ε ρ σ Tid}

theorem Assertion.ofProgram {t : Tid} {p : Program Op ε ρ} {s : σ}
    (h : p.wp (S.spec π R t) (O.ended t) s) : S.Assertion π R O t (.ofProgram p) s := by
  cases p with
  | done r => exact h
  | call op next => exact ⟨h, _, op, next, rfl⟩

variable [DecidableEq Tid]

/-- What has to be proved when the contract is about the state alone. -/
theorem Meets.of_state (hinit : ∀ s, init s → R.invariant s)
    (hmoves : ∀ s s', R.invariant s → R.Moves s s' → R.invariant s')
    (hstart : ∀ x s t p s', S.begin x s = some (t, p, s') → R.environment s s' ∧
      p.wp (S.spec π R t) (fun _ _ => True) s')
    (henvironment : ∀ x s s', S.environment x s = some s' → R.environment s s')
    (hassumed : ∀ t s s', R.assumed t s s' := by intros; trivial) :
    S.Meets π R init .unknown where
  init s hs := ⟨hinit s hs, fun _ => trivial⟩
  moves := hmoves
  idle_stable _ := .const True
  ended_stable _ _ := .const True
  stopped_stable _ := .const True
  start x s t p s' _ hb _ _ := ⟨(hstart x s t p s' hb).1, fun _ => (hstart x s t p s' hb).2⟩
  crash _ _ _ := trivial
  environment x s s' he _ := henvironment x s s' he
  assumed _ _ _ _ _ _ _ _ _ _ _ _ := hassumed _ _ _

theorem Meets.assertion_stable (hM : S.Meets π R init O) {t : Tid} {T : Thread Op ε ρ} :
    R.Stable t (S.Assertion π R O t T) := by
  intro s s' hi h
  cases T with
  | idle => exact hM.idle_stable t s s' hi h
  | ended r => exact hM.ended_stable t r s s' hi h
  | stopped => exact hM.stopped_stable t s s' hi h
  | live p =>
      obtain ⟨hw, β, op, next, rfl⟩ := h
      exact ⟨fun s₁ hr => hw s₁ (.head hi hr), β, op, next, rfl⟩

/-- One event moves the state as the contract says or not at all, and leaves
every execution with its assertion. -/
theorem Meets.step (hM : S.Meets π R init O) {c c' : Config Op ε ρ σ Tid}
    {l : Label ε Tid Start Env} (hc : S.Reachable π init c) (hi : R.invariant c.state)
    (hA : ∀ t, S.Assertion π R O t (c.pool t) c.state) (hp : Permits π l c)
    (ha : S.advance l c = some c') :
    (R.Moves c.state c'.state ∨ c'.state = c.state) ∧ R.invariant c'.state ∧
      ∀ t, S.Assertion π R O t (c'.pool t) c'.state := by
  cases l with
  | start x =>
      simp only [advance] at ha
      split at ha
      · cases ha
      · rename_i t₀ p s₁ hb
        split at ha
        · rename_i hidle
          cases ha
          have hidle' : O.idle t₀ c.state := by
            have := hA t₀
            rwa [hidle] at this
          obtain ⟨he, hw⟩ := hM.start x c.state t₀ p s₁ hi hb hp hidle'
          have hi' := hM.moves _ _ hi (.inr he)
          refine ⟨.inl (.inr he), hi', fun t => ?_⟩
          by_cases htt : t = t₀
          · subst htt
            simpa using Assertion.ofProgram (hw hi')
          · simpa [htt] using hM.assertion_stable _ _ ⟨hi, hi', .inr he⟩ (hA t)
        · cases ha
  | call t₀ m =>
      simp only [advance] at ha
      split at ha
      · rename_i β op next hlive
        split at ha
        · cases ha
        · rename_i r s₁ ho
          cases ha
          simp only [Permits, hlive] at hp
          have h₀ := hA t₀
          rw [hlive] at h₀
          obtain ⟨hg, hw⟩ := h₀.1 c.state .refl hi m r s₁ hp ho
            (hM.assumed c hc t₀ op next m r s₁ hlive hp ho)
          have hi' := hM.moves _ _ hi (.inl ⟨t₀, hg⟩)
          refine ⟨.inl (.inl ⟨t₀, hg⟩), hi', fun t => ?_⟩
          by_cases htt : t = t₀
          · subst htt
            simpa using Assertion.ofProgram hw
          · simpa [htt] using
              hM.assertion_stable _ _ ⟨hi, hi', .inl ⟨t₀, Ne.symm htt, hg⟩⟩ (hA t)
      · cases ha
  | crash t₀ =>
      simp only [advance] at ha
      split at ha
      · cases ha
        refine ⟨.inr rfl, hi, fun t => ?_⟩
        by_cases htt : t = t₀
        · subst htt
          simpa [Assertion] using hM.crash t c.state hp
        · simpa [htt] using hA t
      · cases ha
  | environment x =>
      simp only [advance, Option.map_eq_some_iff] at ha
      obtain ⟨s₁, he, rfl⟩ := ha
      have he' := hM.environment x c.state s₁ he hp
      have hi' := hM.moves _ _ hi (.inr he')
      exact ⟨.inl (.inr he'), hi', fun t => hM.assertion_stable _ _ ⟨hi, hi', .inr he'⟩ (hA t)⟩

/-- Every reachable configuration satisfies the invariant and every assertion. -/
theorem Meets.sound (hM : S.Meets π R init O) {c : Config Op ε ρ σ Tid}
    (hc : S.Reachable π init c) :
    R.invariant c.state ∧ ∀ t, S.Assertion π R O t (c.pool t) c.state := by
  induction hc with
  | boot hs => exact hM.init _ hs
  | step l hc hp ha ih => exact (hM.step hc ih.1 ih.2 hp ha).2

theorem Meets.guarantee (hM : S.Meets π R init O) {c : Config Op ε ρ σ Tid}
    (hc : S.Reachable π init c) {t : Tid} {op : Op β} {next : Except ε β → Program Op ε ρ}
    (hl : c.pool t = .live (.call op next)) {m : Mode ε} {r : Except ε β} {s : σ}
    (hp : π.call t op m c.state) (ho : S.outcome t op m c.state = some (r, s)) :
    R.guarantee t c.state s := by
  obtain ⟨hi, hA⟩ := hM.sound hc
  have h := hA t
  rw [hl] at h
  exact (h.1 c.state .refl hi m r s hp ho (hM.assumed c hc t op next m r s hl hp ho)).1

theorem Meets.advance_call (hM : S.Meets π R init O) {c c' : Config Op ε ρ σ Tid}
    (hc : S.Reachable π init c) {t : Tid} {m : Mode ε} (hp : Permits π (.call t m) c)
    (ha : S.advance (.call t m) c = some c') : R.guarantee t c.state c'.state := by
  obtain ⟨β, op, next, r, hlive, ho⟩ := S.advance_call ha
  simp only [Permits, hlive] at hp
  exact hM.guarantee hc hlive hp ho

theorem Meets.kept (hM : S.Meets π R init O) {J : σ → Prop}
    (hJ : ∀ s s', R.invariant s → R.Moves s s' → J s → J s') {c c' : Config Op ε ρ σ Tid}
    (hc : S.Reachable π init c) (hl : S.Later π c c') (h : J c.state) : J c'.state := by
  induction hl with
  | refl => exact h
  | step l hl hp ha ih =>
      obtain ⟨hi, hA⟩ := hM.sound (hl.reachable S hc)
      rcases (hM.step (hl.reachable S hc) hi hA hp ha).1 with hm | hm
      · exact hJ _ _ hi hm ih
      · rw [hm]; exact ih

/-- What holds initially and is kept by every move of the contract holds of
every reachable configuration. -/
theorem Meets.invariant (hM : S.Meets π R init O) {J : σ → Prop} (h₀ : ∀ s, init s → J s)
    (hJ : ∀ s s', R.invariant s → R.Moves s s' → J s → J s') {c : Config Op ε ρ σ Tid}
    (hc : S.Reachable π init c) : J c.state := by
  obtain ⟨s, hs, hl⟩ := hc.later
  exact hM.kept hJ (.boot hs) hl (h₀ s hs)

end System

end Process
