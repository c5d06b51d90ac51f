import CarPayIn.Process.Rules

/-! # How often a call is made

A run makes a call whether or not the call takes effect, so the calls of a kind
are counted along the run. They are bounded by credits: an execution starts with
none, spends one at each such call, and earns some from the answers it gets.
-/

namespace Process

universe u

variable {Op : Type → Type u} {ε ρ σ Tid Start Env α β : Type}

/-- Spend a credit at a call of the kind, and earn what the answer brings. -/
def credits (K : ∀ β : Type, Op β → Bool) (income : ∀ β : Type, Op β → Except ε β → Nat) :
    Program.CallSpec Op ε Nat := fun {_} op Φ k =>
  (K _ op).toNat ≤ k ∧ ∀ r, Φ r (k - (K _ op).toNat + income _ op r)

theorem wp_credits_of_calls {K : ∀ β : Type, Op β → Bool} {income : ∀ β : Type, Op β → Except ε β → Nat}
    {p : Program Op ε α} (hp : p.Calls fun {β} op => K β op = false ∧ ∀ r, income β op r = 0)
    {post : Except ε α → Nat → Prop} {k : Nat} (hpost : ∀ r, post r k) :
    p.wp (credits K income) post k := by
  induction p with
  | done r => exact hpost r
  | call op next ih =>
      obtain ⟨⟨hcost, hincome⟩, hnext⟩ := hp
      constructor
      · simp [hcost]
      · intro r
        rw [hcost, hincome]
        exact ih r (hnext r)

namespace System

variable [DecidableEq Tid]

def callsOf (K : ∀ β : Type, Op β → Bool) (l : Label ε Tid Start Env)
    (c : Config Op ε ρ σ Tid) : Nat :=
  match l with
  | .call t _ => match c.pool t with
      | .live (.call op _) => (K _ op).toNat
      | _ => 0
  | _ => 0

/-- A run to the configuration makes this many calls of the kind. -/
inductive Counted (S : System Op ε ρ σ Tid Start Env) (K : ∀ β : Type, Op β → Bool) (π : Policy Op ε σ Tid Start Env)
    (init : σ → Prop) : Config Op ε ρ σ Tid → Nat → Prop where
  | boot {s : σ} (h : init s) : Counted S K π init (boot s) 0
  | step {c c' : Config Op ε ρ σ Tid} {n : Nat} (l : Label ε Tid Start Env)
      (hc : Counted S K π init c n) (hp : Permits π l c) (ha : S.advance l c = some c') :
      Counted S K π init c' (n + callsOf K l c)

variable {S : System Op ε ρ σ Tid Start Env} {K : ∀ β : Type, Op β → Bool} {income : ∀ β : Type, Op β → Except ε β → Nat}
  {π : Policy Op ε σ Tid Start Env} {init : σ → Prop} {c c' : Config Op ε ρ σ Tid} {n : Nat}

theorem Counted.reachable (hc : S.Counted K π init c n) : S.Reachable π init c := by
  induction hc with
  | boot h => exact .boot h
  | step l _ hp ha ih => exact .step l ih hp ha

theorem Reachable.counted (hc : S.Reachable π init c) : ∃ n, S.Counted K π init c n := by
  induction hc with
  | boot h => exact ⟨0, .boot h⟩
  | step l _ hp ha ih =>
      obtain ⟨n, hn⟩ := ih
      exact ⟨_, .step l hn hp ha⟩

/-- The credits the executions still have, one for each occurrence, and the calls
made are within what the state has given out. -/
def Solvent (K : ∀ β : Type, Op β → Bool)
    (income : ∀ β : Type, Op β → Except ε β → Nat) (value : σ → Nat)
    (c : Config Op ε ρ σ Tid) (n : Nat) : Prop :=
  ∃ owed : List Tid, n + owed.length ≤ value c.state ∧
    ∀ t p, c.pool t = .live p → p.wp (credits K income) (fun _ _ => True) (owed.count t)

theorem wp_of_ofProgram {p q : Program Op ε ρ} (h : Thread.ofProgram p = .live q) : q = p := by
  cases p with
  | done r => cases h
  | call op next =>
      cases h
      rfl

/-- A call is paid by its execution, and its answer pays the execution. -/
theorem Solvent.call {value : σ → Nat} {t : Tid} {op : Op β} {next : Except ε β → Program Op ε ρ}
    {r : Except ε β} {s : σ} (h : Solvent K income value c n)
    (hlive : c.pool t = .live (.call op next)) (hvalue : value c.state + income _ op r ≤ value s) :
    Solvent K income value ⟨s, Function.update c.pool t (.ofProgram (next r))⟩
      (n + (K _ op).toNat) := by
  obtain ⟨owed, hlen, hwp⟩ := h
  obtain ⟨hcost, hnext⟩ := hwp t _ hlive
  have hspend : ∃ rest : List Tid, rest.length + (K _ op).toNat = owed.length ∧
      rest.count t = owed.count t - (K _ op).toNat ∧ ∀ t', t' ≠ t → rest.count t' = owed.count t' := by
    cases hK : K _ op with
    | false => exact ⟨owed, by simp, by simp, fun _ _ => rfl⟩
    | true =>
        have hmem : t ∈ owed := by
          apply List.count_pos_iff.mp
          simpa [hK] using hcost
        refine ⟨owed.erase t, ?_, ?_, ?_⟩
        · have hpos := List.length_pos_of_mem hmem
          rw [List.length_erase_of_mem hmem]
          simp only [Bool.toNat_true]
          omega
        · simp
        · intro t' hne
          exact List.count_erase_of_ne hne
  obtain ⟨rest, hrest, hcount, hother⟩ := hspend
  refine ⟨List.replicate (income _ op r) t ++ rest, ?_, ?_⟩
  · simp only [List.length_append, List.length_replicate]
    omega
  · intro t' p hp
    by_cases ht : t' = t
    · subst ht
      have hpool : Thread.ofProgram (next r) = .live p := by
        simpa using hp
      rw [wp_of_ofProgram hpool, List.count_append, List.count_replicate_self, hcount]
      rw [Nat.add_comm]
      exact hnext r
    · have hpool : c.pool t' = .live p := by
        simpa [Function.update_of_ne ht] using hp
      have hnone : (List.replicate (income _ op r) t).count t' = 0 :=
        List.count_eq_zero.mpr fun hmem => ht (List.eq_of_mem_replicate hmem)
      rw [List.count_append, hnone, hother t' ht, Nat.zero_add]
      exact hwp t' p hpool

/-- The calls of a run are within the value of its state: a program starts with no
credits, and the state grows in value by what an answer brings. -/
theorem Counted.le_value {J : σ → Prop} (hc : S.Counted K π init c n) (value : σ → Nat)
    (income : ∀ β : Type, Op β → Except ε β → Nat)
    (hJ : ∀ c, S.Reachable π init c → J c.state)
    (hfault : ∀ {β : Type} (op : Op β) e, income _ op (.error e) = 0)
    (hbegin : ∀ x s t p s', S.begin x s = some (t, p, s') →
      p.wp (credits K income) (fun _ _ => True) 0 ∧ value s ≤ value s')
    (hexec : ∀ (t : Tid) {β : Type} (op : Op β) s r s', S.exec t op s = some (r, s') → J s →
      value s + income _ op r ≤ value s')
    (henv : ∀ x s s', S.environment x s = some s' → J s → value s ≤ value s') :
    n ≤ value c.state := by
  have hsolvent : Solvent K income value c n := by
    induction hc with
    | boot h => exact ⟨[], by simp, fun t p hp => by cases hp⟩
    | step l hc hp ha ih =>
        rename_i c₁ c₂ n₁
        have hstate := hJ _ hc.reachable
        cases l with
        | start x =>
            obtain ⟨owed, hlen, hwp⟩ := ih
            simp only [advance] at ha
            split at ha
            · cases ha
            · rename_i t₀ p s hb
              split at ha
              · cases ha
                obtain ⟨hprogram, hle⟩ := hbegin _ _ _ _ _ hb
                refine ⟨owed.filter (· ≠ t₀), ?_, ?_⟩
                · have hfilter := List.length_filter_le (fun t => decide (t ≠ t₀)) owed
                  simp only [callsOf]
                  omega
                · intro t q hq
                  by_cases ht : t = t₀
                  · subst ht
                    have hpool : Thread.ofProgram p = .live q := by
                      simpa using hq
                    rw [wp_of_ofProgram hpool, List.count_eq_zero.mpr (by simp)]
                    exact hprogram
                  · have hpool : c₁.pool t = .live q := by
                      simpa [Function.update_of_ne ht] using hq
                    rw [List.count_filter (by simpa using ht)]
                    exact hwp t q hpool
              · cases ha
        | call t m =>
            obtain ⟨β, op, next, r, hlive, ho⟩ := S.advance_call ha
            have hvalue : value c₁.state + income _ op r ≤ value c₂.state := by
              rcases S.outcome_cases ho with ⟨-, he⟩ | ⟨e, -, rfl, hs⟩ | ⟨e, r₀, -, rfl, he⟩
              · exact hexec t op _ r _ he hstate
              · rw [hs, hfault]
                exact Nat.le_refl _
              · rw [hfault]
                have hle := hexec t op _ r₀ _ he hstate
                omega
            have hcalls : callsOf K (.call t m : Label ε Tid Start Env) c₁ = (K _ op).toNat := by
              simp only [callsOf, hlive]
            have hnext : c₂ = ⟨c₂.state, Function.update c₁.pool t (.ofProgram (next r))⟩ := by
              simp only [advance, hlive, ho] at ha
              exact (Option.some.inj ha).symm
            rw [hcalls, hnext]
            exact ih.call hlive hvalue
        | crash t₀ =>
            obtain ⟨owed, hlen, hwp⟩ := ih
            simp only [advance] at ha
            split at ha
            · cases ha
              refine ⟨owed, hlen, ?_⟩
              intro t q hq
              by_cases ht : t = t₀
              · subst ht
                simp at hq
              · exact hwp t q (by simpa [Function.update_of_ne ht] using hq)
            · cases ha
        | environment x =>
            obtain ⟨owed, hlen, hwp⟩ := ih
            obtain ⟨s, he, rfl⟩ := Option.map_eq_some_iff.mp ha
            have hle := henv x _ _ he hstate
            refine ⟨owed, ?_, hwp⟩
            simp only [callsOf]
            omega
  obtain ⟨owed, hlen, -⟩ := hsolvent
  omega

def runCalls (S : System Op ε ρ σ Tid Start Env) (K : ∀ β : Type, Op β → Bool) :
    List (Label ε Tid Start Env) → Config Op ε ρ σ Tid → Nat
  | [], _ => 0
  | l :: ls, c => callsOf K l c + match S.advance l c with
      | none => 0
      | some c' => runCalls S K ls c'

theorem Counted.run [π.Computable] (ls : List (Label ε Tid Start Env)) (hc : S.Counted K π init c n)
    (h : S.run π ls c = some c') : S.Counted K π init c' (n + S.runCalls K ls c) := by
  induction ls generalizing c n with
  | nil =>
      cases h
      exact hc
  | cons l ls ih =>
      simp only [System.run] at h
      split at h
      · rename_i hp
        cases ha : S.advance l c with
        | none => simp [ha] at h
        | some c₁ =>
            simp only [ha] at h
            have hrest := ih (hc.step l (permits_of_admits hp) ha) h
            simp only [runCalls, ha]
            rwa [← Nat.add_assoc]
      · cases h

theorem exists_of_runCalls [π.Computable] {ls : List (Label ε Tid Start Env)} {s : σ}
    {p : Config Op ε ρ σ Tid → Bool} (h : (S.run π ls (System.boot s)).any p = true) (hs : init s) :
    ∃ c, S.Counted K π init c (S.runCalls K ls (System.boot s)) ∧ p c = true := by
  obtain ⟨c, hr, hp⟩ := (Option.any_eq_true ..).mp h
  refine ⟨c, ?_, hp⟩
  have hcount := Counted.run ls (K := K) (.boot hs) hr
  rwa [Nat.zero_add] at hcount

end System

end Process
