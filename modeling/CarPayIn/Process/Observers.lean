import CarPayIn.Process.System

/-! # Queries beside a running system

A program that only reads changes nothing, so it need not be an execution of the
system: each of its reads is answered by some later state, or fails. What it
returns was put together from moments that come one after the other.
-/

namespace Process

namespace System

universe u v

variable {Op : Type → Type u} {Query : Type → Type v} {ε ρ σ Tid Start Env α β : Type}

section
variable (S : System Op ε ρ σ Tid Start Env) [DecidableEq Tid] (π : Policy Op ε σ Tid Start Env)
  (answer : ∀ β : Type, Query β → σ → β)

/-- The program begins at `c` and has ended with `r` at `c'`. -/
inductive Observes : Config Op ε ρ σ Tid → Program Query ε α → Except ε α →
    Config Op ε ρ σ Tid → Prop where
  | done {c : Config Op ε ρ σ Tid} {r : Except ε α} : Observes c (.done r) r c
  | answered {c c₁ c' : Config Op ε ρ σ Tid} {β : Type} {q : Query β}
      {next : Except ε β → Program Query ε α} {r : Except ε α} (hl : S.Later π c c₁)
      (h : Observes c₁ (next (.ok (answer β q c₁.state))) r c') : Observes c (.call q next) r c'
  | failed {c c₁ c' : Config Op ε ρ σ Tid} {β : Type} {q : Query β}
      {next : Except ε β → Program Query ε α} {r : Except ε α} (e : ε) (hl : S.Later π c c₁)
      (h : Observes c₁ (next (.error e)) r c') : Observes c (.call q next) r c'

/-- Whatever the program returns when it begins where `P` holds, `Q` holds of it then. -/
structure Sees (P : Config Op ε ρ σ Tid → Prop) (p : Program Query ε α)
    (Q : α → Config Op ε ρ σ Tid → Prop) : Prop where
  holds : ∀ c a c', P c → S.Observes π answer c p (.ok a) c' → Q a c'

end

section
variable {S : System Op ε ρ σ Tid Start Env} [DecidableEq Tid] {π : Policy Op ε σ Tid Start Env}
  {answer : ∀ β : Type, Query β → σ → β} {P : Config Op ε ρ σ Tid → Prop}
  {c c' c'' : Config Op ε ρ σ Tid}

theorem Later.trans (h : S.Later π c c') (h' : S.Later π c' c'') : S.Later π c c'' := by
  induction h' with
  | refl => exact h
  | step l _ hp ha ih => exact .step l ih hp ha

theorem Observes.later {p : Program Query ε α} {r : Except ε α} (h : S.Observes π answer c p r c') :
    S.Later π c c' := by
  induction h with
  | done => exact .refl
  | answered hl _ ih => exact hl.trans ih
  | failed _ hl _ ih => exact hl.trans ih

theorem Observes.bind_inv {p : Program Query ε α} {f : α → Program Query ε β} {b : β}
    (h : S.Observes π answer c (p.bind f) (.ok b) c') :
    ∃ a c₁, S.Observes π answer c p (.ok a) c₁ ∧ S.Observes π answer c₁ (f a) (.ok b) c' := by
  induction p generalizing c with
  | done r =>
      cases r with
      | ok a => exact ⟨a, c, .done, h⟩
      | error e => cases h
  | call q next ih =>
      cases h with
      | answered hl h =>
          obtain ⟨a, c₁, hfirst, hrest⟩ := ih _ h
          exact ⟨a, c₁, .answered hl hfirst, hrest⟩
      | failed e hl h =>
          obtain ⟨a, c₁, hfirst, hrest⟩ := ih _ h
          exact ⟨a, c₁, .failed e hl hfirst, hrest⟩

/-- The result of a program all of whose queries are answered by one state. -/
def Program.askAt (answer : ∀ β : Type, Query β → σ → β) (s : σ) : Program Query ε α → Except ε α
  | .done r => r
  | .call q next => Program.askAt answer s (next (.ok (answer _ q s)))

theorem Observes.atOnce (p : Program Query ε α) :
    S.Observes π answer c p (Program.askAt answer c.state p) c := by
  induction p with
  | done r => exact .done
  | call q next ih => exact .answered .refl (ih _)

/-! ## Rules -/

theorem Sees.pure {a : α} {Q : α → Config Op ε ρ σ Tid → Prop} (h : ∀ c, P c → Q a c) :
    S.Sees π answer P (.done (.ok a)) Q := by
  constructor
  intro c b c' hc hobserved
  cases hobserved
  exact h c hc

theorem Sees.throw {e : ε} {Q : α → Config Op ε ρ σ Tid → Prop} :
    S.Sees π answer P (.done (.error e)) Q := by
  constructor
  intro c b c' _ hobserved
  cases hobserved

theorem Sees.conseq {P' : Config Op ε ρ σ Tid → Prop} {p : Program Query ε α}
    {Q : α → Config Op ε ρ σ Tid → Prop} (hp : S.Sees π answer P p Q) (h : ∀ c, P' c → P c) :
    S.Sees π answer P' p Q := ⟨fun c a c' hc => hp.holds c a c' (h c hc)⟩

theorem Sees.result {r : Except ε α} {Q : α → Config Op ε ρ σ Tid → Prop}
    (h : ∀ a c, r = .ok a → P c → Q a c) : S.Sees π answer P (.done r) Q := by
  cases r with
  | ok a => exact .pure fun c hc => h a c rfl hc
  | error e => exact .throw

theorem Sees.bind {p : Program Query ε α} {f : α → Program Query ε β}
    {M : α → Config Op ε ρ σ Tid → Prop} {Q : β → Config Op ε ρ σ Tid → Prop}
    (hp : S.Sees π answer P p M) (hf : ∀ a, S.Sees π answer (M a) (f a) Q) :
    S.Sees π answer P (p.bind f) Q := by
  constructor
  intro c b c' hc hobserved
  obtain ⟨a, c₁, hfirst, hrest⟩ := hobserved.bind_inv
  exact (hf a).holds c₁ b c' (hp.holds c a c₁ hc hfirst) hrest

theorem Sees.query {q : Query α} {Q : α → Config Op ε ρ σ Tid → Prop}
    (h : ∀ c c', P c → S.Later π c c' → Q (answer α q c'.state) c') :
    S.Sees π answer P (.perform q) Q := by
  constructor
  intro c a c' hc hobserved
  cases hobserved with
  | answered hl hend =>
      cases hend
      exact h c _ hc hl
  | failed e hl hend => cases hend

end

end System

end Process
