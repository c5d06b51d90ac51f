import CarPayIn.Process.History

/-! # Programs that look before they write

What a program returns, whatever becomes of its exceptions, and the executions
that have found nothing where they looked. An execution that writes later relies
on that: a policy can say whether somebody else was faster.
-/

namespace Process

universe u

variable {Op : Type → Type u} {ε ρ σ Tid Start Env α β : Type}

namespace System

/-! ## Results -/

section
variable (S : System Op ε ρ σ Tid Start Env) (π : Policy Op ε σ Tid Start Env)
  (R : Contract σ Tid)

/-- From `P`, every call of `p` keeps the contract, and whatever it returns satisfies `Q`. -/
def Returns (t : Tid) (P : σ → Prop) (p : Program Op ε α) (Q : α → σ → Prop) : Prop :=
  S.Triple π R t P p fun r s => ∀ a, r = .ok a → Q a s

end

variable {S : System Op ε ρ σ Tid Start Env} {π : Policy Op ε σ Tid Start Env}
  {R : Contract σ Tid} {t : Tid} {P P' : σ → Prop}

theorem Returns.pure {a : α} {Q : α → σ → Prop} (h : ∀ s, P s → Q a s) :
    S.Returns π R t P (.done (.ok a)) Q := by
  intro s hs b hb
  cases hb
  exact h s hs

theorem Returns.throw {e : ε} {Q : α → σ → Prop} : S.Returns π R t P (.done (.error e)) Q := by
  intro s _ a ha
  cases ha

/-- A program that is never come to. -/
theorem Returns.absurd {p : Program Op ε α} {Q : α → σ → Prop} (h : ∀ s, ¬P s) :
    S.Returns π R t P p Q := fun s hs => (h s hs).elim

theorem Returns.conseq {p : Program Op ε α} {Q Q' : α → σ → Prop} (h : S.Returns π R t P p Q)
    (hP : ∀ s, P' s → P s) (hQ : ∀ a s, Q a s → Q' a s) : S.Returns π R t P' p Q' :=
  Triple.conseq h hP fun _ s hr a ha => hQ a s (hr a ha)

theorem Returns.bind {p : Program Op ε α} {f : α → Program Op ε β} {M : α → σ → Prop}
    {Q : β → σ → Prop} (hp : S.Returns π R t P p M) (hf : ∀ a, S.Returns π R t (M a) (f a) Q) :
    S.Returns π R t P (p.bind f) Q := by
  apply Triple.bind (M := M) (Triple.conseq hp (fun _ h => h) ?_) hf
  intro r s hr
  cases r with
  | ok a => exact hr a rfl
  | error e =>
      intro b hb
      cases hb

theorem Returns.map {p : Program Op ε α} {f : α → β} {Q : β → σ → Prop}
    (hp : S.Returns π R t P p fun a => Q (f a)) : S.Returns π R t P (f <$> p) Q :=
  hp.bind fun _ => .pure fun _ h => h

/-- The handler starts from what is left when `p` raises. -/
theorem Returns.tryCatch {p : Program Op ε α} {f : ε → Program Op ε α} {M : ε → σ → Prop}
    {Q : α → σ → Prop}
    (hp : S.Triple π R t P p fun r s => (∀ a, r = .ok a → Q a s) ∧ ∀ e, r = .error e → M e s)
    (hf : ∀ e, S.Returns π R t (M e) (f e) Q) : S.Returns π R t P (p.tryCatch f) Q := by
  apply Triple.tryCatch (M := M) (Triple.conseq hp (fun _ h => h) ?_) hf
  intro r s hr
  cases r with
  | ok a =>
      intro b hb
      cases hb
      exact hr.1 a rfl
  | error e => exact hr.2 e rfl

/-- What holds however `p` ends is known after an attempt at it. -/
theorem Returns.attempt {p : Program Op ε α} (hp : S.Triple π R t P p fun _ => P') :
    S.Returns π R t P p.attempt fun _ => P' :=
  Triple.attempt (Triple.conseq hp (fun _ h => h) fun _ _ h _ _ => h)

theorem Returns.calls {p : Program Op ε α} (hp : p.Calls (S.Keeps π R t P)) (hP : R.Stable t P) :
    S.Returns π R t P p fun _ => P :=
  Triple.conseq (Triple.calls hp hP) (fun _ h => h) fun _ _ h _ _ => h

theorem Returns.perform {op : Op α} {Q : α → σ → Prop} (hP : R.Stable t P)
    (hg : ∀ s m r s', P s → π.call t op m s → S.outcome t op m s = some (r, s') →
      R.guarantee t s s')
    (h : ∀ s a s', P s → π.call t op .answered s → S.exec t op s = some (.ok a, s') → Q a s') :
    S.Returns π R t P (.perform op) Q := by
  apply Triple.perform hP
  intro s m r s' hs _ hp ho
  refine ⟨hg s m r s' hs hp ho, fun a ha => ?_⟩
  subst ha
  rcases S.outcome_cases ho with ⟨rfl, he⟩ | ⟨e, -, he, -⟩ | ⟨e, r₀, -, he, -⟩
  · exact h s a s' hs hp he
  · cases he
  · cases he

end System

/-! ## Lookups that find nothing -/

/-- For a lookup whether it finds anything; `none` for every other call. -/
abbrev Probe (Op : Type → Type u) (σ : Type) : Type (max 1 u) :=
  ∀ β : Type, Op β → σ → Option Bool

/-- The executions that have looked and found nothing. -/
def noteMiss (probe : Probe Op σ) (t : Tid) {β : Type} (op : Op β) (s : σ) (g : List Tid) :
    List Tid :=
  if probe β op s = some false then t :: g else g

/-- A system with a record of the executions that have found nothing. -/
def System.noting (S : System Op ε ρ σ Tid Start Env) (probe : Probe Op σ) :
    System Op ε ρ (σ × List Tid) Tid Start Env :=
  S.withHistory fun t _ op _ s g => noteMiss probe t op s g

/-- An execution that has found nothing finds nothing when it looks again. -/
def unrivalled [DecidableEq Tid] (probe : Probe Op σ) (t : Tid) {β : Type} (op : Op β)
    (m : Mode ε) (s : σ × List Tid) : Bool :=
  match m with
  | .answered => !(s.2.contains t && probe β op s.1 = some true)
  | _ => true

theorem System.exec_of_noting {S : System Op ε ρ σ Tid Start Env} {probe : Probe Op σ} {t : Tid}
    {op : Op β} {s s' : σ × List Tid} {r : Except ε β}
    (h : (S.noting probe).exec t op s = some (r, s')) :
    S.exec t op s.1 = some (r, s'.1) ∧ s'.2 = noteMiss probe t op s.1 s.2 := by
  obtain ⟨o, ho, h⟩ := Option.map_eq_some_iff.mp h
  cases h
  exact ⟨ho, rfl⟩

theorem System.environment_of_noting {S : System Op ε ρ σ Tid Start Env} {probe : Probe Op σ}
    {x : Env} {s s' : σ × List Tid} (h : (S.noting probe).environment x s = some s') :
    S.environment x s.1 = some s'.1 ∧ s'.2 = s.2 := by
  obtain ⟨s₁, hs, rfl⟩ := Option.map_eq_some_iff.mp h
  exact ⟨hs, rfl⟩

section
variable {probe : Probe Op σ} {t t' : Tid} {op : Op β} {s : σ} {g : List Tid}

theorem noteMiss_subset : g ⊆ noteMiss probe t op s g := by
  unfold noteMiss
  split
  · exact List.subset_cons_self t g
  · exact fun _ h => h

theorem mem_noteMiss (h : probe β op s = some false) : t ∈ noteMiss probe t op s g := by
  simp [noteMiss, h]

theorem probe_ne_of_unrivalled [DecidableEq Tid]
    (h : unrivalled probe t op (.answered : Mode ε) (s, g) = true) (ht : t ∈ g) :
    probe β op s ≠ some true := by
  intro hp
  simp [unrivalled, ht, hp] at h

end

end Process
