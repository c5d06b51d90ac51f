import CarPayIn.Process.Rules

/-! # Executions one after the other

In a serial run every execution comes to its result before the next one starts,
and only the environment acts between its calls. The rules for interleaved
programs carry over: a serial execution is one under a contract in which no
other execution makes a step.
-/

namespace Process

universe u

variable {Op : Type → Type u} {ε ρ σ Tid Start Env α β : Type}

/-- Every call is answered, while the environment acts or not. -/
def Policy.answered (drifting : Prop) : Policy Op ε σ Tid Start Env where
  start _ _ := True
  call _ _ _ m _ := m = .answered
  crash _ _ := False
  environment _ _ := drifting

namespace System

section
variable (S : System Op ε ρ σ Tid Start Env) (π : Policy Op ε σ Tid Start Env)

/-- One admitted step of the environment. -/
def Drifts (s s' : σ) : Prop := ∃ x, π.environment x s ∧ S.environment x s = some s'

/-- An execution from where it stands to its result. -/
inductive Finishes (t : Tid) : Program Op ε α → σ → Except ε α → σ → Prop where
  | done (r : Except ε α) (s : σ) : Finishes t (.done r) s r s
  | drift {β : Type} {op : Op β} {next : Except ε β → Program Op ε α} {s s₁ s' : σ}
      {r : Except ε α} (hd : S.Drifts π s s₁) (hf : Finishes t (.call op next) s₁ r s') :
      Finishes t (.call op next) s r s'
  | call {β : Type} {op : Op β} {next : Except ε β → Program Op ε α} {s s₁ s' : σ}
      {m : Mode ε} {a : Except ε β} {r : Except ε α} (hp : π.call t op m s)
      (ho : S.outcome t op m s = some (a, s₁)) (hf : Finishes t (next a) s₁ r s') :
      Finishes t (.call op next) s r s'

/-- The states between the executions of a serial run. -/
inductive Serial (init : σ → Prop) : σ → Prop where
  | boot {s : σ} (h : init s) : Serial init s
  | drift {s s' : σ} (hs : Serial init s) (hd : S.Drifts π s s') : Serial init s'
  | execute {s s₁ s' : σ} {x : Start} {t : Tid} {p : Program Op ε ρ} {r : Except ε ρ}
      (hs : Serial init s) (hp : π.start x s) (hb : S.begin x s = some (t, p, s₁))
      (hf : Finishes S π t p s₁ r s') : Serial init s'

/-- Nobody but execution `t` makes calls. -/
def solo (t : Tid) : Contract σ Tid where
  invariant _ := True
  guarantee t' _ _ := t' = t
  environment := S.Drifts π

end

variable {S : System Op ε ρ σ Tid Start Env} {π : Policy Op ε σ Tid Start Env} {t : Tid}

/-! ## Rules -/

theorem stable_solo {P : σ → Prop} (h : ∀ s s', S.Drifts π s s' → P s → P s') :
    (S.solo π t).Stable t P := by
  intro s s' hi hp
  rcases hi.2.2 with ⟨t', hne, he⟩ | hd
  · exact (hne he).elim
  · exact h s s' hd hp

/-- A call of a serial execution need not keep any contract. -/
theorem solo_perform {P : σ → Prop} {op : Op α} {Q : Except ε α → σ → Prop}
    (hP : ∀ s s', S.Drifts π s s' → P s → P s')
    (h : ∀ s m r s', P s → π.call t op m s → S.outcome t op m s = some (r, s') → Q r s') :
    S.Triple π (S.solo π t) t P (.perform op) Q :=
  .perform (stable_solo hP) fun s m r s' hs _ hp ho => ⟨rfl, h s m r s' hs hp ho⟩

theorem solo_call {P : σ → Prop} {op : Op α} {M : α → σ → Prop}
    (hP : ∀ s s', S.Drifts π s s' → P s → P s')
    (hkeep : ∀ s r s', P s → S.exec t op s = some (r, s') → P s')
    (h : ∀ s a s', P s → S.exec t op s = some (.ok a, s') → M a s') :
    S.Triple π (S.solo π t) t P (.perform op) (fun r s => P s ∧ ∀ a, r = .ok a → M a s) := by
  apply solo_perform hP
  intro s m r s' hs _ ho
  rcases S.outcome_cases ho with ⟨-, he⟩ | ⟨e, -, rfl, rfl⟩ | ⟨e, r₀, -, rfl, he⟩
  · exact ⟨hkeep s r s' hs he, fun a hr => h s a s' hs (hr ▸ he)⟩
  · exact ⟨hs, fun a hr => by cases hr⟩
  · exact ⟨hkeep s r₀ s' hs he, fun a hr => by cases hr⟩

theorem solo_shows {op : Op α} {M : α → σ → Prop}
    (h : ∀ s a s', S.exec t op s = some (.ok a, s') → M a s') :
    S.Triple π (S.solo π t) t (fun _ => True) (.perform op)
      (fun r s => ∀ a, r = .ok a → M a s) := by
  have hcall : S.Triple π (S.solo π t) t (fun _ => True) (.perform op)
      (fun r s => True ∧ ∀ a, r = .ok a → M a s) := by
    apply solo_call
    · exact fun _ _ _ h => h
    · exact fun _ _ _ _ _ => trivial
    · exact fun s a s' _ he => h s a s' he
  exact Triple.conseq hcall (fun _ h => h) fun r s hr => hr.2

theorem solo_keeps {P : σ → Prop} {p : Program Op ε α}
    (hP : ∀ s s', S.Drifts π s s' → P s → P s')
    (hp : p.Calls fun op => ∀ s r s', P s → S.exec t op s = some (r, s') → P s') :
    S.Triple π (S.solo π t) t P p (fun _ => P) := by
  apply Triple.calls ?_ (stable_solo hP)
  apply hp.mono
  intro β op hkeep s m r s' hs _ _ ho _
  refine ⟨rfl, ?_⟩
  rcases S.outcome_cases ho with ⟨-, he⟩ | ⟨e, -, -, rfl⟩ | ⟨e, r₀, -, -, he⟩
  · exact hkeep s r s' hs he
  · exact hs
  · exact hkeep s r₀ s' hs he

theorem wp_finishes {p : Program Op ε α} {Q : Except ε α → σ → Prop} {s s' : σ} {r : Except ε α}
    (hf : S.Finishes π t p s r s') (h : p.wp (S.spec π (S.solo π t) t) Q s) : Q r s' := by
  induction hf with
  | done r s => exact h
  | drift hd hf ih =>
      have hi : (S.solo π t).Interferes t _ _ := ⟨trivial, trivial, .inr hd⟩
      exact ih fun s₁ hr => h s₁ (.head hi hr)
  | call hp ho hf ih => exact ih (h _ .refl trivial _ _ _ hp ho trivial).2

/-- A program whose calls are all admitted and have something to return gets to a result. -/
theorem exists_finishes {p : Program Op ε α}
    (hp : p.Calls fun op => ∀ s, π.call t op .answered s ∧ (S.exec t op s).isSome = true) (s : σ) :
    ∃ r s', S.Finishes π t p s r s' := by
  induction p generalizing s with
  | done r => exact ⟨r, s, .done r s⟩
  | call op next ih =>
      obtain ⟨hcall, he⟩ := hp.1 s
      obtain ⟨⟨a, s₁⟩, he⟩ := Option.isSome_iff_exists.mp he
      obtain ⟨r, s', hf⟩ := ih a (hp.2 a) s₁
      exact ⟨r, s', .call hcall (m := .answered) he hf⟩

theorem Finishes.bind {p : Program Op ε α} {f : α → Program Op ε β} {s s₁ s' : σ} {a : α}
    {r : Except ε β} (hp : S.Finishes π t p s (.ok a) s₁) (hf : S.Finishes π t (f a) s₁ r s') :
    S.Finishes π t (p.bind f) s r s' := by
  generalize hr : Except.ok a = ra at hp
  induction hp with
  | done _ _ =>
      subst hr
      exact hf
  | drift hd _ ih => exact .drift hd (ih hf hr)
  | call hcall ho _ ih => exact .call hcall ho (ih hf hr)

theorem Finishes.any {p : Program Op ε α} {s s' : σ} {r : Except ε α}
    (hf : S.Finishes π t p s r s') : S.Finishes .any t p s r s' := by
  induction hf with
  | done r s => exact .done r s
  | drift hd _ ih =>
      obtain ⟨x, -, hx⟩ := hd
      exact .drift ⟨x, trivial, hx⟩ ih
  | call _ ho _ ih => exact .call trivial ho ih

/-- What the environment and every whole execution keep holds throughout a serial run. -/
theorem Serial.keeps {init J : σ → Prop} (h₀ : ∀ s, init s → J s)
    (hd : ∀ s s', S.Drifts π s s' → J s → J s')
    (hx : ∀ x s t p s₁, π.start x s → S.begin x s = some (t, p, s₁) → J s →
      p.wp (S.spec π (S.solo π t) t) (fun _ => J) s₁)
    {s : σ} (hs : S.Serial π init s) : J s := by
  induction hs with
  | boot h => exact h₀ _ h
  | drift _ h ih => exact hd _ _ h ih
  | execute _ hp hb hf ih => exact wp_finishes hf (hx _ _ _ _ _ hp hb ih)

theorem Serial.kept {init J : σ → Prop} (h₀ : ∀ s, init s → J s)
    (hd : ∀ s s', S.Drifts π s s' → J s → J s')
    (hb : ∀ x s t p s', S.begin x s = some (t, p, s') → J s → J s')
    (hexec : ∀ (t : Tid) (β : Type) (op : Op β) s r s', J s → S.exec t op s = some (r, s') → J s')
    {s : σ} (hs : S.Serial π init s) : J s := by
  apply hs.keeps h₀ hd
  intro x s t p s₁ _ hbegin hj
  apply solo_keeps hd _ s₁ (hb x s t p s₁ hbegin hj)
  apply Program.Calls.of_forall
  intro β op
  exact hexec t β op

/-! ## Computing serial runs -/

section
variable (S) (π) [π.Computable]

def answer (t : Tid) : Program Op ε α → σ → Option (Except ε α × σ)
  | .done r, s => some (r, s)
  | .call op next, s =>
      if π.call t op .answered s then
        match S.exec t op s with
        | none => none
        | some (a, s₁) => answer t (next a) s₁
      else none

def serve : List (Start ⊕ Env) → σ → Option σ
  | [], s => some s
  | .inl x :: es, s =>
      if π.start x s then
        match S.begin x s with
        | none => none
        | some (t, p, s₁) =>
            match S.answer π t p s₁ with
            | none => none
            | some (_, s') => serve es s'
      else none
  | .inr x :: es, s =>
      if π.environment x s then
        match S.environment x s with
        | none => none
        | some s' => serve es s'
      else none

/-- Whether an execution in a serial run ends as `f` says, with the state before
it, and the same one again after more of the run as `g` says. -/
def repeats (es es' : List (Start ⊕ Env)) (t : Tid) (p : Program Op ε α) (f : Except ε α → σ → Bool)
    (g : σ → σ → Bool) (s : σ) : Bool :=
  (S.serve π es s).any fun s₀ => (S.answer π t p s₀).any fun o =>
    f o.1 s₀ && (S.serve π es' o.2).any fun s₂ => (S.answer π t p s₂).any fun o' => g s₂ o'.2

end

theorem finishes_of_answer [π.Computable] {p : Program Op ε α} {s s' : σ} {r : Except ε α}
    (h : S.answer π t p s = some (r, s')) : S.Finishes π t p s r s' := by
  induction p generalizing s with
  | done r₀ =>
      cases h
      exact .done _ _
  | call op next ih =>
      simp only [answer] at h
      split at h
      · rename_i hp
        split at h
        · cases h
        · rename_i a s₁ he
          exact .call hp (m := .answered) he (ih a h)
      · cases h

theorem serial_of_serve [π.Computable] {init : σ → Prop} {es : List (Start ⊕ Env)} {s s' : σ}
    (hs : S.Serial π init s) (h : S.serve π es s = some s') : S.Serial π init s' := by
  induction es generalizing s with
  | nil =>
      cases h
      exact hs
  | cons e es ih =>
      cases e with
      | inl x =>
          simp only [serve] at h
          split at h
          · rename_i hp
            split at h
            · cases h
            · rename_i t p s₁ hb
              split at h
              · cases h
              · rename_i r s₂ ha
                exact ih (.execute hs hp hb (finishes_of_answer ha)) h
          · cases h
      | inr x =>
          simp only [serve] at h
          split at h
          · rename_i hp
            split at h
            · cases h
            · rename_i s₁ he
              exact ih (.drift hs ⟨x, hp, he⟩) h
          · cases h

theorem exists_of_repeats [π.Computable] {init : σ → Prop} {es es' : List (Start ⊕ Env)}
    {p : Program Op ε α} {f : Except ε α → σ → Bool} {g : σ → σ → Bool} {s : σ}
    (h : S.repeats π es es' t p f g s = true) (h₀ : init s) :
    ∃ s₀ r s₁ s₂ r' s₃, S.Serial π init s₀ ∧ S.Finishes π t p s₀ r s₁ ∧ f r s₀ = true ∧
      S.Serial π (fun s => s = s₁) s₂ ∧ S.Finishes π t p s₂ r' s₃ ∧ g s₂ s₃ = true := by
  obtain ⟨s₀, hs, h⟩ := (Option.any_eq_true ..).mp h
  obtain ⟨⟨r, s₁⟩, ha, h⟩ := (Option.any_eq_true ..).mp h
  obtain ⟨hf, h⟩ := (Bool.and_eq_true ..).mp h
  obtain ⟨s₂, hs', h⟩ := (Option.any_eq_true ..).mp h
  obtain ⟨⟨r', s₃⟩, ha', hg⟩ := (Option.any_eq_true ..).mp h
  exact ⟨s₀, r, s₁, s₂, r', s₃, serial_of_serve (.boot h₀) hs, finishes_of_answer ha, hf,
    serial_of_serve (.boot rfl) hs', finishes_of_answer ha', hg⟩

end System

end Process
