/-! # Programs that call out to shared state

A program is a finished result or one call together with what follows every
outcome of that call. Calls are the only points at which other executions may
run, so the syntax tree of a program records exactly where it can be
interleaved, interrupted or made to raise.
-/

namespace Process

universe u v

/-- `Op β` is the type of calls that answer with a `β`. A call may also raise. -/
inductive Program (Op : Type → Type u) (ε α : Type) : Type (max 1 u) where
  | done (result : Except ε α)
  | call {β : Type} (op : Op β) (next : Except ε β → Program Op ε α)

namespace Program

variable {Op : Type → Type u} {ε α β σ : Type}

def bind (p : Program Op ε α) (f : α → Program Op ε β) : Program Op ε β :=
  match p with
  | .done (.ok a) => f a
  | .done (.error e) => .done (.error e)
  | .call op next => .call op (fun r => (next r).bind f)

def tryCatch (p : Program Op ε α) (h : ε → Program Op ε α) : Program Op ε α :=
  match p with
  | .done (.ok a) => .done (.ok a)
  | .done (.error e) => h e
  | .call op next => .call op (fun r => (next r).tryCatch h)

instance : Monad (Program Op ε) where
  pure a := .done (.ok a)
  bind := bind

instance : MonadExceptOf ε (Program Op ε) where
  throw e := .done (.error e)
  tryCatch := tryCatch

def perform (op : Op α) : Program Op ε α := .call op .done

/-- Run `p` and hand its outcome on as a value, so that nothing is raised. -/
def attempt (p : Program Op ε α) : Program Op ε (Except ε α) :=
  match p with
  | .done r => .done (.ok r)
  | .call op next => .call op (fun r => (next r).attempt)

@[simp] theorem pure_eq (a : α) : (pure a : Program Op ε α) = .done (.ok a) := rfl

@[simp] theorem throw_eq (e : ε) : (throw e : Program Op ε α) = .done (.error e) := rfl

@[simp] theorem bind_eq (p : Program Op ε α) (f : α → Program Op ε β) : p >>= f = p.bind f := rfl

@[simp] theorem tryCatch_eq (p : Program Op ε α) (h : ε → Program Op ε α) :
    MonadExcept.tryCatch p h = p.tryCatch h := rfl

/-! ## Weakest preconditions -/

/-- What is required of the state at a call so that `Φ` holds of its outcome. -/
abbrev CallSpec (Op : Type → Type u) (ε σ : Type) : Type (max 1 u) :=
  ∀ {β : Type}, Op β → (Except ε β → σ → Prop) → σ → Prop

/-- Fold a specification of single calls over a whole program. -/
def wp (spec : CallSpec Op ε σ) (p : Program Op ε α) (post : Except ε α → σ → Prop) : σ → Prop :=
  match p with
  | .done r => post r
  | .call op next => spec op (fun r => (next r).wp spec post)

section
variable (spec : CallSpec Op ε σ)

@[simp] theorem wp_done (r : Except ε α) (post : Except ε α → σ → Prop) :
    (done r : Program Op ε α).wp spec post = post r := rfl

@[simp] theorem wp_call (op : Op β) (next : Except ε β → Program Op ε α)
    (post : Except ε α → σ → Prop) :
    (call op next).wp spec post = spec op (fun r => (next r).wp spec post) := rfl

@[simp] theorem wp_perform (op : Op α) (post : Except ε α → σ → Prop) :
    (perform op : Program Op ε α).wp spec post = spec op post := rfl

theorem wp_bind (p : Program Op ε α) (f : α → Program Op ε β) (post : Except ε β → σ → Prop) :
    (p.bind f).wp spec post = p.wp spec (fun r => match r with
      | .ok a => (f a).wp spec post
      | .error e => post (.error e)) := by
  induction p with
  | done r => cases r <;> rfl
  | call op next ih => exact congrArg (spec op) (funext fun r => ih r)

theorem wp_tryCatch (p : Program Op ε α) (h : ε → Program Op ε α)
    (post : Except ε α → σ → Prop) :
    (p.tryCatch h).wp spec post = p.wp spec (fun r => match r with
      | .ok a => post (.ok a)
      | .error e => (h e).wp spec post) := by
  induction p with
  | done r => cases r <;> rfl
  | call op next ih => exact congrArg (spec op) (funext fun r => ih r)

theorem wp_attempt (p : Program Op ε α) (post : Except ε (Except ε α) → σ → Prop) :
    p.attempt.wp spec post = p.wp spec (fun r => post (.ok r)) := by
  induction p with
  | done r => rfl
  | call op next ih => exact congrArg (spec op) (funext fun r => ih r)

/-- A specification is monotone when a weaker demand on the outcome is met by the same state. -/
def CallSpec.Monotone : Prop :=
  ∀ ⦃β : Type⦄ (op : Op β) (Φ Ψ : Except ε β → σ → Prop),
    (∀ r s, Φ r s → Ψ r s) → ∀ s, spec op Φ s → spec op Ψ s

theorem wp_mono {spec : CallSpec Op ε σ} (hm : CallSpec.Monotone @spec) (p : Program Op ε α)
    {Φ Ψ : Except ε α → σ → Prop} (h : ∀ r s, Φ r s → Ψ r s) (s : σ) :
    p.wp spec Φ s → p.wp spec Ψ s := by
  induction p generalizing s with
  | done r => exact h r s
  | call op next ih => exact hm op _ _ (fun r s' => ih r s') s

end

/-! ## The results of a program -/

/-- Whatever its calls return or raise, the program ends in a result that satisfies `Φ`. -/
def Ends (Φ : Except ε α → Prop) : Program Op ε α → Prop
  | .done r => Φ r
  | .call _ next => ∀ r, (next r).Ends Φ

theorem Ends.mono {Φ Ψ : Except ε α → Prop} {p : Program Op ε α} (hp : p.Ends Φ)
    (h : ∀ r, Φ r → Ψ r) : p.Ends Ψ := by
  induction p with
  | done r => exact h r hp
  | call op next ih => exact fun r => ih r (hp r)

theorem Ends.bind {Φ : Except ε β → Prop} {p : Program Op ε α} {f : α → Program Op ε β}
    (hp : p.Ends fun r => match r with
      | .ok a => (f a).Ends Φ
      | .error e => Φ (.error e)) : (p.bind f).Ends Φ := by
  induction p with
  | done r =>
      cases r with
      | ok a => exact hp
      | error e => exact hp
  | call op next ih => exact fun r => ih r (hp r)

/-! ## The calls of a program -/

section
variable (K : ∀ {β : Type}, Op β → Prop)

/-- Every call that the program may come to is of this kind. -/
def Calls : Program Op ε α → Prop
  | .done _ => True
  | .call op next => K op ∧ ∀ r, (next r).Calls

variable {K}

@[simp] theorem calls_done (r : Except ε α) : (done r : Program Op ε α).Calls K := trivial

@[simp] theorem calls_perform (op : Op α) : (perform op : Program Op ε α).Calls K ↔ K op :=
  ⟨fun h => h.1, fun h => ⟨h, fun _ => trivial⟩⟩

theorem Calls.of_forall (h : ∀ {β : Type} (op : Op β), K op) (p : Program Op ε α) : p.Calls K := by
  induction p with
  | done r => trivial
  | call op next ih => exact ⟨h op, ih⟩

theorem Calls.mono {K' : ∀ {β : Type}, Op β → Prop} {p : Program Op ε α} (hp : p.Calls K)
    (h : ∀ {β : Type} (op : Op β), K op → K' op) : p.Calls K' := by
  induction p with
  | done r => trivial
  | call op next ih => exact ⟨h op hp.1, fun r => ih r (hp.2 r)⟩

theorem Calls.and {K' : ∀ {β : Type}, Op β → Prop} {p : Program Op ε α} (hp : p.Calls K)
    (hp' : p.Calls K') : p.Calls fun op => K op ∧ K' op := by
  induction p with
  | done r => trivial
  | call op next ih => exact ⟨⟨hp.1, hp'.1⟩, fun r => ih r (hp.2 r) (hp'.2 r)⟩

theorem Calls.bind {p : Program Op ε α} {f : α → Program Op ε β} (hp : p.Calls K)
    (hf : ∀ a, (f a).Calls K) : (p.bind f).Calls K := by
  induction p with
  | done r =>
      cases r with
      | ok a => exact hf a
      | error e => trivial
  | call op next ih => exact ⟨hp.1, fun r => ih r (hp.2 r)⟩

theorem Calls.tryCatch {p : Program Op ε α} {h : ε → Program Op ε α} (hp : p.Calls K)
    (hh : ∀ e, (h e).Calls K) : (p.tryCatch h).Calls K := by
  induction p with
  | done r =>
      cases r with
      | ok a => trivial
      | error e => exact hh e
  | call op next ih => exact ⟨hp.1, fun r => ih r (hp.2 r)⟩

theorem Calls.attempt {p : Program Op ε α} (hp : p.Calls K) : p.attempt.Calls K := by
  induction p with
  | done r => trivial
  | call op next ih => exact ⟨hp.1, fun r => ih r (hp.2 r)⟩

variable (K) in
/-- On no path does the program make a second call of this kind. -/
def Once : Program Op ε α → Prop
  | .done _ => True
  | .call op next => (∀ r, (next r).Once) ∧ (K op → ∀ r, (next r).Calls fun op => ¬K op)

theorem once_perform (op : Op α) : (perform op : Program Op ε α).Once K :=
  ⟨fun _ => trivial, fun _ _ => trivial⟩

theorem Calls.once {p : Program Op ε α} (hp : p.Calls fun op => ¬K op) : p.Once K := by
  induction p with
  | done r => trivial
  | call op next ih => exact ⟨fun r => ih r (hp.2 r), fun hk => (hp.1 hk).elim⟩

theorem Once.bind {p : Program Op ε α} {f : α → Program Op ε β} (hp : p.Once K)
    (hf : ∀ a, (f a).Calls fun op => ¬K op) : (p.bind f).Once K := by
  induction p with
  | done r =>
      cases r with
      | ok a => exact (hf a).once
      | error e => trivial
  | call op next ih => exact ⟨fun r => ih r (hp.1 r), fun hk r => (hp.2 hk r).bind hf⟩

theorem Calls.bind_once {p : Program Op ε α} {f : α → Program Op ε β}
    (hp : p.Calls fun op => ¬K op) (hf : ∀ a, (f a).Once K) : (p.bind f).Once K := by
  induction p with
  | done r =>
      cases r with
      | ok a => exact hf a
      | error e => trivial
  | call op next ih => exact ⟨fun r => ih r (hp.2 r), fun hk => (hp.1 hk).elim⟩

theorem Once.tryCatch {p : Program Op ε α} {h : ε → Program Op ε α} (hp : p.Once K)
    (hh : ∀ e, (h e).Calls fun op => ¬K op) : (p.tryCatch h).Once K := by
  induction p with
  | done r =>
      cases r with
      | ok a => trivial
      | error e => exact (hh e).once
  | call op next ih => exact ⟨fun r => ih r (hp.1 r), fun hk r => (hp.2 hk r).tryCatch hh⟩

end

/-! ## Programs over some of the calls -/

section
variable {Op₀ : Type → Type v} (f : ∀ {β : Type}, Op₀ β → Op β)

/-- A program whose calls are some of a larger set of calls. -/
def lift : Program Op₀ ε α → Program Op ε α
  | .done r => .done r
  | .call op next => .call (f op) (fun r => (next r).lift)

@[simp] theorem lift_done (r : Except ε α) : (done r : Program Op₀ ε α).lift f = done r := rfl

@[simp] theorem lift_perform (op : Op₀ α) :
    (perform op : Program Op₀ ε α).lift f = perform (f op) := rfl

theorem lift_bind (p : Program Op₀ ε α) (g : α → Program Op₀ ε β) :
    (p.bind g).lift f = (p.lift f).bind (fun a => (g a).lift f) := by
  induction p with
  | done r => cases r <;> rfl
  | call op next ih => exact congrArg (call (f op)) (funext fun r => ih r)

theorem lift_tryCatch (p : Program Op₀ ε α) (h : ε → Program Op₀ ε α) :
    (p.tryCatch h).lift f = (p.lift f).tryCatch (fun e => (h e).lift f) := by
  induction p with
  | done r => cases r <;> rfl
  | call op next ih => exact congrArg (call (f op)) (funext fun r => ih r)

theorem Calls.lift {K : ∀ {β : Type}, Op β → Prop} {p : Program Op₀ ε α}
    (hp : p.Calls fun op => K (f op)) : (p.lift f).Calls K := by
  induction p with
  | done r => trivial
  | call op next ih => exact ⟨hp.1, fun r => ih r (hp.2 r)⟩

theorem calls_lift {K : ∀ {β : Type}, Op β → Prop} (h : ∀ {β : Type} (op : Op₀ β), K (f op))
    (p : Program Op₀ ε α) : (p.lift f).Calls K := Calls.lift f (Calls.of_forall h p)

end

end Program

end Process
