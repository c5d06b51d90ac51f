import CarPayIn.Process.System

/-! # Executions along a run

A run passes through one state after the other. What an execution has still to
do at one moment is what it had to do earlier, less the calls it has made since,
each of which is one event of the run.
-/

namespace Process

universe u

variable {Op : Type → Type u} {ε ρ σ Tid Start Env α β : Type}

/-- What an execution has still to do, if it was started and not stopped. -/
def Thread.left? : Thread Op ε ρ → Option (Program Op ε ρ)
  | .live p => some p
  | .ended r => some (.done r)
  | _ => none

namespace System

section
variable (S : System Op ε ρ σ Tid Start Env)

/-- What one event does to the state. -/
inductive Event : σ → σ → Prop where
  | none {s : σ} : Event s s
  | call {t : Tid} {β : Type} {op : Op β} {r : Except ε β} {s s' : σ}
      (h : S.exec t op s = some (r, s')) : Event s s'
  | start {x : Start} {t : Tid} {p : Program Op ε ρ} {s s' : σ}
      (h : S.begin x s = some (t, p, s')) : Event s s'
  | environment {x : Env} {s s' : σ} (h : S.environment x s = some s') : Event s s'

def Timeline (s : Nat → σ) : Prop := ∀ k, S.Event (s k) (s (k + 1))

/-- The calls between `p` and `q` are made from the `i`-th moment to the `j`-th. -/
inductive Reaches (s : Nat → σ) (t : Tid) :
    Program Op ε α → Nat → Program Op ε α → Nat → Prop where
  | refl {p : Program Op ε α} {i j : Nat} (hij : i ≤ j) : Reaches s t p i p j
  | call {β : Type} {op : Op β} {next : Except ε β → Program Op ε α} {m : Mode ε} {r : Except ε β}
      {q : Program Op ε α} {i j k : Nat} (hik : i ≤ k)
      (ho : S.outcome t op m (s k) = some (r, s (k + 1)))
      (hrest : Reaches s t (next r) (k + 1) q j) : Reaches s t (.call op next) i q j

end

variable {S : System Op ε ρ σ Tid Start Env} {s : Nat → σ} {t : Tid} {i j : Nat}

theorem Timeline.keeps (hs : S.Timeline s) {R : σ → σ → Prop} (hrefl : ∀ s, R s s)
    (htrans : ∀ s s' s'', R s s' → R s' s'' → R s s'') (h : ∀ s s', S.Event s s' → R s s')
    (hij : i ≤ j) : R (s i) (s j) := by
  induction hij with
  | refl => exact hrefl _
  | @step k _ ih => exact htrans _ _ _ ih (h _ _ (hs k))

theorem Reaches.earlier {p q : Program Op ε α} {k : Nat} (h : S.Reaches s t p i q j) (hk : k ≤ i) :
    S.Reaches s t p k q j := by
  cases h with
  | refl hij => exact .refl (Nat.le_trans hk hij)
  | call hik ho hrest => exact .call (Nat.le_trans hk hik) ho hrest

theorem Reaches.later {p q : Program Op ε α} {k : Nat} (h : S.Reaches s t p i q j) (hk : j ≤ k) :
    S.Reaches s t p i q k := by
  induction h with
  | refl hij => exact .refl (Nat.le_trans hij hk)
  | call hik ho _ ih => exact .call hik ho (ih hk)

theorem Reaches.le {p q : Program Op ε α} (h : S.Reaches s t p i q j) : i ≤ j := by
  induction h with
  | refl hij => exact hij
  | call hik _ _ ih => omega

theorem reaches_done {r r' : Except ε α} (h : S.Reaches s t (.done r) i (.done r') j) : r = r' := by
  cases h
  rfl

theorem Reaches.bind {p : Program Op ε α} {f : α → Program Op ε β} {a : α} {q : Program Op ε β}
    {k : Nat} (hp : S.Reaches s t p i (.done (.ok a)) k) (hf : S.Reaches s t (f a) k q j) :
    S.Reaches s t (p.bind f) i q j := by
  generalize hd : Program.done (.ok a) = d at hp
  induction hp with
  | refl hij =>
      subst hd
      exact hf.earlier hij
  | call hik ho _ ih => exact .call hik ho (ih hf hd)

theorem reaches_bind {p : Program Op ε α} {f : α → Program Op ε β} {b : β}
    (h : S.Reaches s t (p.bind f) i (.done (.ok b)) j) :
    ∃ a k, S.Reaches s t p i (.done (.ok a)) k ∧ S.Reaches s t (f a) k (.done (.ok b)) j := by
  induction p generalizing i with
  | done r =>
      cases r with
      | ok a => exact ⟨a, i, .refl (Nat.le_refl i), h⟩
      | error e => cases reaches_done h
  | call op next ih =>
      cases h with
      | call hik ho hrest =>
          obtain ⟨a, k', hp, hf⟩ := ih _ hrest
          exact ⟨a, k', .call hik ho hp, hf⟩

theorem reaches_attempt {op : Op α} {r : Except ε α}
    (h : S.Reaches s t (Program.perform op).attempt i (.done (.ok r)) j) :
    ∃ k m, i ≤ k ∧ k < j ∧ S.outcome t op m (s k) = some (r, s (k + 1)) := by
  cases h with
  | call hik ho hrest =>
      cases reaches_done hrest
      exact ⟨_, _, hik, hrest.le, ho⟩

theorem reaches_perform {op : Op α} {a : α}
    (h : S.Reaches s t (.perform op) i (.done (.ok a)) j) :
    ∃ k, i ≤ k ∧ k < j ∧ S.exec t op (s k) = some (.ok a, s (k + 1)) := by
  cases h with
  | call hik ho hrest =>
      cases reaches_done hrest
      exact ⟨_, hik, hrest.le, (S.outcome_ok ho).2⟩

/-! ## Runs of configurations -/

section
variable [DecidableEq Tid]

theorem advance_event {l : Label ε Tid Start Env} {c c' : Config Op ε ρ σ Tid}
    (h : S.advance l c = some c') : S.Event c.state c'.state := by
  cases l with
  | start x =>
      simp only [advance] at h
      split at h
      · cases h
      · rename_i hb
        split at h
        · cases h
          exact .start hb
        · cases h
  | call t m =>
      obtain ⟨β, op, next, r, -, ho⟩ := S.advance_call h
      rcases S.outcome_cases ho with ⟨-, he⟩ | ⟨e, -, -, hs⟩ | ⟨e, r₀, -, -, he⟩
      · exact .call he
      · rw [hs]
        exact .none
      · exact .call he
  | crash t =>
      simp only [advance] at h
      split at h
      · cases h
        exact .none
      · cases h
  | environment x =>
      obtain ⟨s', he, rfl⟩ := Option.map_eq_some_iff.mp h
      exact .environment he

/-- A run of configurations, one for each moment; at some moments nothing happens. -/
def Run (S : System Op ε ρ σ Tid Start Env) (c : Nat → Config Op ε ρ σ Tid) : Prop :=
  ∀ k, c (k + 1) = c k ∨ ∃ l : Label ε Tid Start Env, S.advance l (c k) = some (c (k + 1))

variable {c : Nat → Config Op ε ρ σ Tid}

theorem Run.timeline (hc : S.Run c) : S.Timeline fun k => (c k).state := by
  intro k
  rcases hc k with h | ⟨l, h⟩
  · simp only [h]
    exact .none
  · exact advance_event h

theorem stopped_of_advance {l : Label ε Tid Start Env} {c c' : Config Op ε ρ σ Tid}
    (h : S.advance l c = some c') (hstopped : c.pool t = .stopped) : c'.pool t = .stopped := by
  have hother : ∀ t', c.pool t' ≠ .stopped → ∀ T : Thread Op ε ρ,
      Function.update c.pool t' T t = .stopped := by
    intro t' ht' T
    have hne : t ≠ t' := by
      rintro rfl
      exact ht' hstopped
    rw [Function.update_of_ne hne, hstopped]
  cases l with
  | start x =>
      simp only [advance] at h
      split at h
      · cases h
      · split at h
        · rename_i hidle
          cases h
          exact hother _ (by simp [hidle]) _
        · cases h
  | call t' m =>
      simp only [advance] at h
      split at h
      · rename_i hlive
        split at h
        · cases h
        · cases h
          exact hother _ (by simp [hlive]) _
      · cases h
  | crash t' =>
      simp only [advance] at h
      split at h
      · rename_i hlive
        cases h
        exact hother _ (by simp [hlive]) _
      · cases h
  | environment x =>
      obtain ⟨s', -, rfl⟩ := Option.map_eq_some_iff.mp h
      exact hstopped

/-- An execution with something to do goes on, makes its next call or is stopped. -/
theorem left_of_advance {l : Label ε Tid Start Env} {c c' : Config Op ε ρ σ Tid}
    {p : Program Op ε ρ} (h : S.advance l c = some c') (hp : (c.pool t).left? = some p) :
    c'.pool t = c.pool t ∨ c'.pool t = .stopped ∨
      ∃ (β : Type) (op : Op β) (next : Except ε β → Program Op ε ρ) (m : Mode ε) (r : Except ε β),
        p = .call op next ∧ S.outcome t op m c.state = some (r, c'.state) ∧
          (c'.pool t).left? = some (next r) := by
  cases l with
  | start x =>
      simp only [advance] at h
      split at h
      · cases h
      · split at h
        · rename_i t' _ _ _ _ hidle
          cases h
          have hne : t ≠ t' := by
            rintro rfl
            simp [hidle, Thread.left?] at hp
          exact .inl (Function.update_of_ne hne _ _)
        · cases h
  | call t' m =>
      simp only [advance] at h
      split at h
      · rename_i β op next hlive
        split at h
        · cases h
        · rename_i r s' ho
          cases h
          by_cases hne : t = t'
          · subst hne
            right; right
            simp only [hlive, Thread.left?, Option.some.injEq] at hp
            refine ⟨β, op, next, m, r, hp.symm, ho, ?_⟩
            simp only [Function.update_self]
            cases next r <;> rfl
          · exact .inl (Function.update_of_ne hne _ _)
      · cases h
  | crash t' =>
      simp only [advance] at h
      split at h
      · cases h
        by_cases hne : t = t'
        · subst hne
          exact .inr (.inl (Function.update_self _ _ _))
        · exact .inl (Function.update_of_ne hne _ _)
      · cases h
  | environment x =>
      obtain ⟨s', -, rfl⟩ := Option.map_eq_some_iff.mp h
      exact .inl rfl

/-- What an execution has to do later in a run is reached from what it has to do now. -/
theorem Run.reaches (hc : S.Run c) {p q : Program Op ε ρ} (hij : i ≤ j)
    (hp : ((c i).pool t).left? = some p) (hq : ((c j).pool t).left? = some q) :
    S.Reaches (fun k => (c k).state) t p i q j := by
  have hstopped : ∀ k, (c k).pool t = .stopped → ∀ n, (c (k + n)).pool t = .stopped := by
    intro k hk n
    induction n with
    | zero => exact hk
    | succ n ih =>
        rcases hc (k + n) with h | ⟨l, h⟩
        · rw [← Nat.add_assoc, h]
          exact ih
        · exact stopped_of_advance h ih
  obtain ⟨n, rfl⟩ := Nat.exists_eq_add_of_le hij
  clear hij
  induction n generalizing i p with
  | zero =>
      rw [Nat.add_zero, hp] at hq
      cases hq
      exact .refl (Nat.le_refl _)
  | succ n ih =>
      have hnext : i + (n + 1) = i + 1 + n := by omega
      rw [hnext] at hq ⊢
      have hsame : (c (i + 1)).pool t = (c i).pool t →
          S.Reaches (fun k => (c k).state) t p i q (i + 1 + n) := by
        intro h
        rw [← h] at hp
        exact (ih hp hq).earlier (Nat.le_succ i)
      rcases hc i with h | ⟨l, h⟩
      · exact hsame (by rw [h])
      · rcases left_of_advance h hp with h | h | ⟨β, op, next, m, r, rfl, ho, hleft⟩
        · exact hsame h
        · rw [hstopped (i + 1) h n] at hq
          cases hq
        · exact .call (Nat.le_refl i) ho (ih hleft hq)

end

end System

end Process
