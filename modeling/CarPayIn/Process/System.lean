import CarPayIn.Process.Program
import Mathlib.Logic.Function.Basic
import Mathlib.Logic.Relation

/-! # Interleaved executions over one shared state

A system starts executions of programs and lets them take turns, one call at a
time. A call may be answered, may raise before taking effect, or may take
effect and still raise because its answer is lost. An execution may stop at any
call. A policy says which of these events a run may contain, so that one system
serves every assumption about faults and schedules.
-/

namespace Process

universe u

variable {Op : Type → Type u} {ε ρ σ Tid Start Env : Type}

/-- An execution that was never started, is at a call, has returned or raised,
or was stopped at a call. -/
inductive Thread (Op : Type → Type u) (ε ρ : Type) : Type (max 1 u) where
  | idle
  | live (p : Program Op ε ρ)
  | ended (result : Except ε ρ)
  | stopped

def Thread.result? : Thread Op ε ρ → Option (Except ε ρ)
  | .ended r => some r
  | _ => none

theorem Thread.result?_eq_some {T : Thread Op ε ρ} {r : Except ε ρ} :
    T.result? = some r ↔ T = .ended r := by
  cases T <;> simp [result?]

def Thread.isIdle : Thread Op ε ρ → Bool
  | .idle => true
  | _ => false

theorem Thread.isIdle_iff {T : Thread Op ε ρ} : T.isIdle = true ↔ T = .idle := by
  cases T <;> simp [isIdle]

def Thread.isLive : Thread Op ε ρ → Bool
  | .live _ => true
  | _ => false

/-- A program without a further call is over at once. -/
def Thread.ofProgram : Program Op ε ρ → Thread Op ε ρ
  | .done r => .ended r
  | .call op next => .live (.call op next)

/-- The execution has been started, and what is left of it satisfies `Φ`. -/
def Thread.Left (Φ : Program Op ε ρ → Prop) (T : Thread Op ε ρ) : Prop :=
  T ≠ .idle ∧ ∀ p, T = .live p → Φ p

theorem Thread.Left.ofProgram {Φ : Program Op ε ρ → Prop} {p : Program Op ε ρ} (h : Φ p) :
    (Thread.ofProgram p).Left Φ := by
  cases p with
  | done r => exact ⟨fun he => (nomatch he), fun p he => (nomatch he)⟩
  | call op next =>
      refine ⟨fun he => (nomatch he), fun p he => ?_⟩
      cases he
      exact h

/-- How one call goes. -/
inductive Mode (ε : Type) where
  | answered
  | refused (e : ε)
  | lost (e : ε)
deriving DecidableEq, Repr

def Mode.effective {ε : Type} : Mode ε → Bool
  | .refused _ => false
  | _ => true

structure System (Op : Type → Type u) (ε ρ σ Tid Start Env : Type) : Type (max 1 u) where
  /-- One call of an execution; `none` while the call has nothing to return. -/
  exec : Tid → ∀ {β : Type}, Op β → σ → Option (Except ε β × σ)
  /-- A new execution, its program, and the state with the start recorded. -/
  begin : Start → σ → Option (Tid × Program Op ε ρ × σ)
  /-- A change that no execution makes. -/
  environment : Env → σ → Option σ

structure Config (Op : Type → Type u) (ε ρ σ Tid : Type) : Type (max 1 u) where
  state : σ
  pool : Tid → Thread Op ε ρ

inductive Label (ε Tid Start Env : Type) where
  | start (x : Start)
  | call (t : Tid) (m : Mode ε)
  | crash (t : Tid)
  | environment (x : Env)

/-- The events a run may contain, each judged in the state it starts from. -/
structure Policy (Op : Type → Type u) (ε σ Tid Start Env : Type) : Type (max 1 u) where
  start : Start → σ → Prop
  call : Tid → ∀ {β : Type}, Op β → Mode ε → σ → Prop
  crash : Tid → σ → Prop
  environment : Env → σ → Prop

def Policy.any : Policy Op ε σ Tid Start Env where
  start _ _ := True
  call _ _ _ _ _ := True
  crash _ _ := True
  environment _ _ := True

class Policy.Computable (π : Policy Op ε σ Tid Start Env) : Type (max 1 u) where
  start : ∀ x s, Decidable (π.start x s)
  call : ∀ t {β : Type} (op : Op β) m s, Decidable (π.call t op m s)
  crash : ∀ t s, Decidable (π.crash t s)
  environment : ∀ x s, Decidable (π.environment x s)

attribute [reducible, instance] Policy.Computable.start Policy.Computable.call Policy.Computable.crash
  Policy.Computable.environment

instance : (Policy.any : Policy Op ε σ Tid Start Env).Computable where
  start _ _ := .isTrue trivial
  call _ _ _ _ _ := .isTrue trivial
  crash _ _ := .isTrue trivial
  environment _ _ := .isTrue trivial

namespace System

variable (S : System Op ε ρ σ Tid Start Env)

/-- The outcome of one call under a mode, with the state it leaves. -/
def outcome (t : Tid) {β : Type} (op : Op β) (m : Mode ε) (s : σ) : Option (Except ε β × σ) :=
  match m with
  | .answered => S.exec t op s
  | .refused e => some (.error e, s)
  | .lost e => (S.exec t op s).map fun r => (.error e, r.2)

/-- A call is answered, raises before it takes effect, or takes effect and raises. -/
theorem outcome_cases {t : Tid} {β : Type} {op : Op β} {m : Mode ε} {s s' : σ} {r : Except ε β}
    (h : S.outcome t op m s = some (r, s')) :
    (m = .answered ∧ S.exec t op s = some (r, s')) ∨
      (∃ e, m = .refused e ∧ r = .error e ∧ s' = s) ∨
      ∃ e r₀, m = .lost e ∧ r = .error e ∧ S.exec t op s = some (r₀, s') := by
  cases m with
  | answered => exact .inl ⟨rfl, h⟩
  | refused e => cases h; exact .inr (.inl ⟨e, rfl, rfl, rfl⟩)
  | lost e =>
      simp only [outcome, Option.map_eq_some_iff] at h
      obtain ⟨⟨r₀, s₀⟩, he, h⟩ := h
      cases h
      exact .inr (.inr ⟨e, r₀, rfl, rfl, he⟩)

theorem outcome_ok {t : Tid} {β : Type} {op : Op β} {m : Mode ε} {s s' : σ} {a : β}
    (h : S.outcome t op m s = some (.ok a, s')) :
    m = .answered ∧ S.exec t op s = some (.ok a, s') := by
  rcases S.outcome_cases h with h | ⟨e, -, h, -⟩ | ⟨e, r₀, -, h, -⟩
  · exact h
  · cases h
  · cases h

variable [DecidableEq Tid]

/-- One event of a run; `none` when the event is not enabled. -/
def advance : Label ε Tid Start Env → Config Op ε ρ σ Tid → Option (Config Op ε ρ σ Tid)
  | .start x, c =>
      match S.begin x c.state with
      | none => none
      | some (t, p, s) =>
          match c.pool t with
          | .idle => some ⟨s, Function.update c.pool t (.ofProgram p)⟩
          | _ => none
  | .call t m, c =>
      match c.pool t with
      | .live (.call op next) =>
          match S.outcome t op m c.state with
          | none => none
          | some (r, s) => some ⟨s, Function.update c.pool t (.ofProgram (next r))⟩
      | _ => none
  | .crash t, c =>
      match c.pool t with
      | .live _ => some ⟨c.state, Function.update c.pool t .stopped⟩
      | _ => none
  | .environment x, c => (S.environment x c.state).map fun s => ⟨s, c.pool⟩

theorem advance_call {t : Tid} {m : Mode ε} {c c' : Config Op ε ρ σ Tid}
    (ha : S.advance (.call t m : Label ε Tid Start Env) c = some c') :
    ∃ (β : Type) (op : Op β) (next : Except ε β → Program Op ε ρ) (r : Except ε β),
      c.pool t = .live (.call op next) ∧ S.outcome t op m c.state = some (r, c'.state) := by
  simp only [advance] at ha
  split at ha
  · rename_i β op next hlive
    split at ha
    · cases ha
    · rename_i r s ho
      cases ha
      exact ⟨β, op, next, r, hlive, ho⟩
  · cases ha

def Permits (π : Policy Op ε σ Tid Start Env) : Label ε Tid Start Env → Config Op ε ρ σ Tid → Prop
  | .start x, c => π.start x c.state
  | .call t m, c =>
      match c.pool t with
      | .live (.call op _) => π.call t op m c.state
      | _ => False
  | .crash t, c => π.crash t c.state
  | .environment x, c => π.environment x c.state

def boot (s : σ) : Config Op ε ρ σ Tid := ⟨s, fun _ => .idle⟩

/-- The configurations of the runs from an initial state in which every event
is admitted by the policy. -/
inductive Reachable (π : Policy Op ε σ Tid Start Env) (init : σ → Prop) :
    Config Op ε ρ σ Tid → Prop where
  | boot {s : σ} (h : init s) : Reachable π init (boot s)
  | step {c c' : Config Op ε ρ σ Tid} (l : Label ε Tid Start Env) (hc : Reachable π init c)
      (hp : Permits π l c) (ha : S.advance l c = some c') : Reachable π init c'

theorem Reachable.mono {π π' : Policy Op ε σ Tid Start Env} {init : σ → Prop}
    (h : ∀ l (c : Config Op ε ρ σ Tid), Permits π l c → Permits π' l c)
    {c : Config Op ε ρ σ Tid} (hc : S.Reachable π init c) : S.Reachable π' init c := by
  induction hc with
  | boot hs => exact .boot hs
  | step l _ hp ha ih => exact .step l ih (h l _ hp) ha

theorem Reachable.keeps {π : Policy Op ε σ Tid Start Env} {init J : σ → Prop}
    (h₀ : ∀ s, init s → J s)
    (hexec : ∀ (t : Tid) {β : Type} (op : Op β) (s : σ) (r : Except ε β) (s' : σ),
      S.exec t op s = some (r, s') → J s → J s')
    (hbegin : ∀ x s t p s', S.begin x s = some (t, p, s') → J s → J s')
    (henv : ∀ x s s', S.environment x s = some s' → J s → J s')
    {c : Config Op ε ρ σ Tid} (hc : S.Reachable π init c) : J c.state := by
  induction hc with
  | boot hs => exact h₀ _ hs
  | step l _ _ ha ih =>
      cases l with
      | start x =>
          simp only [advance] at ha
          split at ha
          · cases ha
          · rename_i hb
            split at ha
            · cases ha
              exact hbegin _ _ _ _ _ hb ih
            · cases ha
      | call t m =>
          simp only [advance] at ha
          split at ha
          · split at ha
            · cases ha
            · rename_i ho
              cases ha
              rcases S.outcome_cases ho with ⟨-, h⟩ | ⟨e, -, -, rfl⟩ | ⟨e, r₀, -, -, h⟩
              · exact hexec _ _ _ _ _ h ih
              · exact ih
              · exact hexec _ _ _ _ _ h ih
          · cases ha
      | crash t =>
          simp only [advance] at ha
          split at ha
          · cases ha
            exact ih
          · cases ha
      | environment x =>
          obtain ⟨s, he, rfl⟩ := Option.map_eq_some_iff.mp ha
          exact henv _ _ _ he ih

/-- The configurations a run may still come to. -/
inductive Later (π : Policy Op ε σ Tid Start Env) (c : Config Op ε ρ σ Tid) :
    Config Op ε ρ σ Tid → Prop where
  | refl : Later π c c
  | step {c' c'' : Config Op ε ρ σ Tid} (l : Label ε Tid Start Env) (hc : Later π c c')
      (hp : Permits π l c') (ha : S.advance l c' = some c'') : Later π c c''

theorem Later.head {π : Policy Op ε σ Tid Start Env} {c c' c'' : Config Op ε ρ σ Tid}
    (l : Label ε Tid Start Env) (hp : Permits π l c) (ha : S.advance l c = some c')
    (h : S.Later π c' c'') : S.Later π c c'' := by
  induction h with
  | refl => exact .step l .refl hp ha
  | step l' _ hp' ha' ih => exact .step l' ih hp' ha'

theorem Later.reachable {π : Policy Op ε σ Tid Start Env} {init : σ → Prop}
    {c c' : Config Op ε ρ σ Tid} (h : S.Later π c c') (hc : S.Reachable π init c) :
    S.Reachable π init c' := by
  induction h with
  | refl => exact hc
  | step l _ hp ha ih => exact .step l ih hp ha

theorem Reachable.later {π : Policy Op ε σ Tid Start Env} {init : σ → Prop}
    {c : Config Op ε ρ σ Tid} (hc : S.Reachable π init c) : ∃ s, init s ∧ S.Later π (System.boot s) c := by
  induction hc with
  | boot hs => exact ⟨_, hs, .refl⟩
  | step l _ hp ha ih =>
      obtain ⟨s, hs, hl⟩ := ih
      exact ⟨s, hs, .step l hl hp ha⟩

/-! ## What is left of a program -/

section
variable {Φ : Program Op ε ρ → Prop} {c c' : Config Op ε ρ σ Tid} {l : Label ε Tid Start Env}
  {t : Tid}

theorem idle_advance (hidle : c.pool t = .idle) (ha : S.advance l c = some c') :
    c'.pool t = .idle ∨ ∃ x p s, l = .start x ∧ S.begin x c.state = some (t, p, s) ∧
      c'.pool t = .ofProgram p := by
  have hother : ∀ t₁ p (T : Thread Op ε ρ), c.pool t₁ = .live p →
      Function.update c.pool t₁ T t = .idle := by
    intro t₁ p T hlive
    have hne : t ≠ t₁ := by
      intro he
      rw [← he, hidle] at hlive
      cases hlive
    rw [Function.update_of_ne hne]
    exact hidle
  cases l with
  | start x =>
      simp only [advance] at ha
      split at ha
      · cases ha
      · rename_i t₁ p s hb
        split at ha
        · cases ha
          by_cases he : t = t₁
          · subst he
            exact .inr ⟨x, p, s, rfl, hb, Function.update_self ..⟩
          · exact .inl (by simpa [Function.update_of_ne he] using hidle)
        · cases ha
  | call t₁ m =>
      simp only [advance] at ha
      split at ha
      · rename_i hlive
        split at ha
        · cases ha
        · cases ha
          exact .inl (hother _ _ _ hlive)
      · cases ha
  | crash t₁ =>
      simp only [advance] at ha
      split at ha
      · rename_i hlive
        cases ha
        exact .inl (hother _ _ _ hlive)
      · cases ha
  | environment x =>
      obtain ⟨s, -, rfl⟩ := Option.map_eq_some_iff.mp ha
      exact .inl hidle

theorem left_advance (hnext : ∀ {β : Type} (op : Op β) (next : Except ε β → Program Op ε ρ),
    Φ (.call op next) → ∀ r, Φ (next r)) (h : (c.pool t).Left Φ) (ha : S.advance l c = some c') :
    (c'.pool t).Left Φ := by
  cases l with
  | start x =>
      simp only [advance] at ha
      split at ha
      · cases ha
      · rename_i t₁ p s hb
        split at ha
        · rename_i hidle
          cases ha
          have hne : t ≠ t₁ := fun he => h.1 (he ▸ hidle)
          simpa [Function.update_of_ne hne] using h
        · cases ha
  | call t₁ m =>
      simp only [advance] at ha
      split at ha
      · rename_i β op next hlive
        split at ha
        · cases ha
        · rename_i r s ho
          cases ha
          by_cases he : t = t₁
          · subst he
            simpa using Thread.Left.ofProgram (hnext op next (h.2 _ hlive) r)
          · simpa [Function.update_of_ne he] using h
      · cases ha
  | crash t₁ =>
      simp only [advance] at ha
      split at ha
      · cases ha
        by_cases he : t = t₁
        · subst he
          simp [Thread.Left]
        · simpa [Function.update_of_ne he] using h
      · cases ha
  | environment x =>
      obtain ⟨s, -, rfl⟩ := Option.map_eq_some_iff.mp ha
      exact h

theorem Later.left {π : Policy Op ε σ Tid Start Env}
    (hnext : ∀ {β : Type} (op : Op β) (next : Except ε β → Program Op ε ρ),
      Φ (.call op next) → ∀ r, Φ (next r)) (hl : S.Later π c c') (h : (c.pool t).Left Φ) :
    (c'.pool t).Left Φ := by
  induction hl with
  | refl => exact h
  | step l _ _ ha ih => exact S.left_advance hnext ih ha

/-- What every started program satisfies and leaves is left of every execution. -/
theorem Reachable.left {π : Policy Op ε σ Tid Start Env} {init : σ → Prop}
    (hnext : ∀ {β : Type} (op : Op β) (next : Except ε β → Program Op ε ρ),
      Φ (.call op next) → ∀ r, Φ (next r))
    (hbegin : ∀ x s t p s', S.begin x s = some (t, p, s') → Φ p) (hc : S.Reachable π init c)
    (t : Tid) : c.pool t = .idle ∨ (c.pool t).Left Φ := by
  induction hc with
  | boot hs => exact .inl rfl
  | step l _ _ ha ih =>
      rcases ih with hidle | h
      · rcases S.idle_advance hidle ha with hidle' | ⟨x, p, s, -, hb, hp⟩
        · exact .inl hidle'
        · rw [hp]
          exact .inr (.ofProgram (hbegin _ _ _ _ _ hb))
      · exact .inr (S.left_advance hnext h ha)

end

/-! ## Running a list of events -/

def answers (t : Tid) (n : Nat) : List (Label ε Tid Start Env) := .replicate n (.call t .answered)

/-- Whether the policy admits an event, for policies whose judgements can be computed. -/
def admits (π : Policy Op ε σ Tid Start Env) [π.Computable] :
    Label ε Tid Start Env → Config Op ε ρ σ Tid → Bool
  | .start x, c => decide (π.start x c.state)
  | .call t m, c =>
      match c.pool t with
      | .live (.call op _) => decide (π.call t op m c.state)
      | _ => false
  | .crash t, c => decide (π.crash t c.state)
  | .environment x, c => decide (π.environment x c.state)

omit [DecidableEq Tid] in
theorem permits_of_admits {π : Policy Op ε σ Tid Start Env} [π.Computable]
    {l : Label ε Tid Start Env} {c : Config Op ε ρ σ Tid} (h : admits π l c = true) :
    Permits π l c := by
  cases l with
  | start x => exact (of_decide_eq_true h : π.start x c.state)
  | crash t => exact (of_decide_eq_true h : π.crash t c.state)
  | environment x => exact (of_decide_eq_true h : π.environment x c.state)
  | call t m =>
      simp only [admits] at h
      simp only [Permits]
      split at h
      · exact of_decide_eq_true h
      · cases h

/-- Carry out a list of events that the policy admits. -/
def run (π : Policy Op ε σ Tid Start Env) [π.Computable] :
    List (Label ε Tid Start Env) → Config Op ε ρ σ Tid → Option (Config Op ε ρ σ Tid)
  | [], c => some c
  | l :: ls, c =>
      if admits π l c then
        match S.advance l c with
        | none => none
        | some c' => run π ls c'
      else none

theorem later_of_run {π : Policy Op ε σ Tid Start Env} [π.Computable]
    (ls : List (Label ε Tid Start Env)) {c c' : Config Op ε ρ σ Tid}
    (h : S.run π ls c = some c') : S.Later π c c' := by
  induction ls generalizing c with
  | nil =>
      cases h
      exact .refl
  | cons l ls ih =>
      simp only [run] at h
      split at h
      · rename_i hp
        cases ha : S.advance l c with
        | none => simp [ha] at h
        | some c₁ =>
            simp only [ha] at h
            exact .head S l (permits_of_admits hp) ha (ih h)
      · cases h

/-- A test that the end of such a list passes is passed in a reachable configuration. -/
theorem exists_of_run {π : Policy Op ε σ Tid Start Env} [π.Computable] {init : σ → Prop}
    {ls : List (Label ε Tid Start Env)} {s : σ} {p : Config Op ε ρ σ Tid → Bool}
    (h : (S.run π ls (boot s)).any p = true) (hs : init s) :
    ∃ c, S.Reachable π init c ∧ p c = true := by
  cases hr : S.run π ls (boot s) with
  | none => simp [hr] at h
  | some c => exact ⟨c, (S.later_of_run ls hr).reachable S (.boot hs), by simpa [hr] using h⟩

theorem exists_of_runs {π : Policy Op ε σ Tid Start Env} [π.Computable] {init : σ → Prop}
    {ls ls' : List (Label ε Tid Start Env)} {s : σ} {p q : Config Op ε ρ σ Tid → Bool}
    (h : (S.run π ls (boot s)).any (fun c => p c && (S.run π ls' c).any q) = true) (hs : init s) :
    ∃ c c', S.Reachable π init c ∧ p c = true ∧ S.Later π c c' ∧ q c' = true := by
  obtain ⟨c, hc, h⟩ := S.exists_of_run h hs
  obtain ⟨hp, h⟩ := (Bool.and_eq_true ..).mp h
  obtain ⟨c', hr, hq⟩ := (Option.any_eq_true ..).mp h
  exact ⟨c, c', hc, hp, S.later_of_run ls' hr, hq⟩

/-! ## Which executions a list of events starts -/

def Label.start? : Label ε Tid Start Env → Option Start
  | .start x => some x
  | _ => none

theorem run_idle {π : Policy Op ε σ Tid Start Env} [π.Computable] {ls : List (Label ε Tid Start Env)}
    {c c' : Config Op ε ρ σ Tid} {t : Tid} (h : S.run π ls c = some c')
    (hstart : ∀ x ∈ ls.filterMap Label.start?, ∀ s p s', S.begin x s ≠ some (t, p, s'))
    (hidle : c.pool t = .idle) : c'.pool t = .idle := by
  induction ls generalizing c with
  | nil =>
      cases h
      exact hidle
  | cons l ls ih =>
      simp only [run] at h
      split at h
      · cases ha : S.advance l c with
        | none => simp [ha] at h
        | some c₁ =>
            simp only [ha] at h
            apply ih h
            · intro x hx
              apply hstart x
              rw [List.filterMap_cons]
              split
              · exact hx
              · exact List.mem_cons_of_mem _ hx
            · rcases S.idle_advance hidle ha with hidle' | ⟨x, p, s, rfl, hb, -⟩
              · exact hidle'
              · exact (hstart x (by simp [Label.start?]) _ _ _ hb).elim
      · cases h

/-- A test that is passed where only some executions have been started. -/
theorem exists_of_run_among {π : Policy Op ε σ Tid Start Env} [π.Computable] {init : σ → Prop}
    {ls : List (Label ε Tid Start Env)} {s : σ} {p : Config Op ε ρ σ Tid → Bool} (ts : List Tid)
    (h : (S.run π ls (boot s)).any p = true) (hs : init s)
    (hstart : ∀ x ∈ ls.filterMap Label.start?, ∀ s t p s', S.begin x s = some (t, p, s') → t ∈ ts) :
    ∃ c, S.Reachable π init c ∧ p c = true ∧ ∀ t, t ∉ ts → c.pool t = .idle := by
  obtain ⟨c, hr, hp⟩ := (Option.any_eq_true ..).mp h
  refine ⟨c, (S.later_of_run ls hr).reachable S (.boot hs), hp, fun t ht => ?_⟩
  apply S.run_idle hr
  · intro x hx s₁ p₁ s₁' hb
    exact ht (hstart x hx s₁ t p₁ s₁' hb)
  · rfl

theorem exists_of_runs_among {π : Policy Op ε σ Tid Start Env} [π.Computable] {init : σ → Prop}
    {ls ls' : List (Label ε Tid Start Env)} {s : σ} {p q : Config Op ε ρ σ Tid → Bool} (ts : List Tid)
    (h : (S.run π ls (boot s)).any (fun c => p c && (S.run π ls' c).any q) = true) (hs : init s)
    (hstart : ∀ x ∈ (ls ++ ls').filterMap Label.start?, ∀ s t p s',
      S.begin x s = some (t, p, s') → t ∈ ts) :
    ∃ c c', S.Reachable π init c ∧ p c = true ∧ S.Later π c c' ∧ q c' = true ∧
      ∀ t, t ∉ ts → c'.pool t = .idle := by
  obtain ⟨c, hr, h⟩ := (Option.any_eq_true ..).mp h
  obtain ⟨hp, h⟩ := (Bool.and_eq_true ..).mp h
  obtain ⟨c', hr', hq⟩ := (Option.any_eq_true ..).mp h
  refine ⟨c, c', (S.later_of_run ls hr).reachable S (.boot hs), hp, S.later_of_run ls' hr', hq,
    fun t ht => ?_⟩
  simp only [List.filterMap_append, List.mem_append] at hstart
  apply S.run_idle hr'
  · exact fun x hx s₁ p₁ s₁' hb => ht (hstart x (.inr hx) s₁ t p₁ s₁' hb)
  · apply S.run_idle hr
    · exact fun x hx s₁ p₁ s₁' hb => ht (hstart x (.inl hx) s₁ t p₁ s₁' hb)
    · rfl

end System

end Process
