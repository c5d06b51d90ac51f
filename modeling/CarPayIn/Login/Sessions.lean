import CarPayIn.Login.OwnCars
import CarPayIn.Process.History
import CarPayIn.Store.Rules

/-! # Executions on one login session

A callback checks its state and later marks it used, and a confirmation reads a
login result and later takes it away. In between the execution is inside its
login session, and what another one does there goes unnoticed.
-/

namespace CarPayIn

open Process Process.System Store Service

variable {rt : Runtime} {t t' : Tid} {w w' : World} {α : Type}

/-! ## What happens to a login session -/

/-- A login is completed through a state, or fails; tokens are issued from it,
and its result is marked used. -/
inductive LoginEvent where
  | completed (sessionId state : String)
  | failed (sessionId : String)
  | issued (sessionId : String)
  | used (sessionId : String)
deriving DecidableEq, Repr

def LoginEvent.sessionId : LoginEvent → String
  | .completed sessionId _ | .failed sessionId | .issued sessionId | .used sessionId => sessionId

/-- The random numbers drawn and by whom, the executions that are inside a login
session, and the events, the latest first. -/
structure LoginHistory where
  draws : List (Tid × Nat)
  inside : List (Tid × String)
  events : List LoginEvent

def LoginHistory.empty : LoginHistory := ⟨[], [], []⟩

def BearerToken.subject? : BearerToken → Option String
  | .signed claims => some claims.subject
  | .other _ => none

def Tid.callback? : Tid → Option HandleHyundaiOAuthCallbackCommand
  | .backend _ (.hyundaiOAuthCallback command) => some command
  | _ => none

def Tid.confirmation? : Tid → Option ConfirmVehicleCommand
  | .backend _ (.confirmVehicle command) => some command
  | _ => none

def loginEvent? (t : Tid) {β : Type} (op : Op β) : Option LoginEvent :=
  match op with
  | .base (.oauthResults (.set sessionId _ _)) =>
      t.callback?.map fun command => .completed sessionId command.state
  | .base (.qrSessions (.set sessionId session _)) =>
      if session.status = .failed then some (.failed sessionId) else none
  | .base (.issueToken typ _ _ _) =>
      if typ = .appAccess then
        t.confirmation?.bind fun command => command.tempAccessToken.subject?.map .issued
      else none
  | .base (.loginResults (.delete sessionId)) => t.confirmation?.map fun _ => .used sessionId
  | _ => none

/-- What a store shows of a login, if the car is in it. -/
def showsCar (c : Cache String OAuthResult) (now : Nat) (sessionId carId : String) : Bool :=
  (c.read now sessionId).any fun e => (ConfirmVehicleService.findCar e.value.cars carId).isSome

/-- The session an execution enters by a call: a callback that finds its state
pending, and a confirmation that finds its car. -/
def entered? (t : Tid) {β : Type} (op : Op β) (w : World) : Option String :=
  match t, op with
  | .backend _ (.hyundaiOAuthCallback _), .base (.oauthStates (.get state)) =>
      ((w.base.oauthStates.read w.base.now state).filter fun e => e.value.status = .pending).map
        fun e => e.value.sessionId
  | .backend _ (.confirmVehicle command), .base (.oauthResults (.get sessionId)) =>
      if showsCar w.base.oauthResults w.base.now sessionId command.carId then some sessionId else none
  | .backend _ (.confirmVehicle command), .base (.loginResults (.get sessionId)) =>
      if showsCar w.base.loginResults w.base.now sessionId command.carId then some sessionId else none
  | _, _ => none

/-- The calls by which an execution leaves its session: it has marked the state or
the login, or it is bound to raise. -/
def leaves (t : Tid) {β : Type} (op : Op β) (r : Except PyError β) (w : World) : Bool :=
  match t, op with
  | .backend _ (.hyundaiOAuthCallback _), .base (.oauthStates (.get state)) =>
      !(w.base.oauthStates.read w.base.now state).any fun e => e.value.status = .pending
  | .backend _ (.hyundaiOAuthCallback _), .base (.oauthStates (.set _ s _)) => s.status = .used
  | .backend _ (.hyundaiOAuthCallback _), .base (.qrSessions (.get sessionId)) =>
      (w.base.qrSessions.read w.base.now sessionId).isNone
  | .backend _ (.hyundaiOAuthCallback _), .base (.qrSessions (.set _ s _)) => s.status = .failed
  | .backend _ (.confirmVehicle command), .base (.qrSessions (.get sessionId)) =>
      !(w.base.qrSessions.read w.base.now sessionId).any fun e =>
        e.value.status ≠ .expired && e.value.vinHash = command.vinHash
  | .backend _ (.confirmVehicle _), .base (.upsertVehicle _ _) => !r.isOk
  | .backend _ (.confirmVehicle _), .base (.loginResults (.delete _)) => true
  | _, _ => false

def Op.drawn? {β : Type} (op : Op β) (w : World) : Option Nat :=
  match op with
  | .base .draw => some w.base.drawn
  | _ => none

def loginHistory (t : Tid) {β : Type} (op : Op β) (r : Except PyError β) (w : World)
    (g : LoginHistory) : LoginHistory where
  draws := (op.drawn? w).toList.map (t, ·) ++ g.draws
  inside := if leaves t op r w then g.inside.filter (·.1 ≠ t)
    else (entered? t op w).toList.map (t, ·) ++ g.inside
  events := (loginEvent? t op).toList ++ g.events

abbrev Logged : Type := World × LoginHistory

abbrev logged (rt : Runtime) : System Op PyError Reply Logged Tid Start Env :=
  (carPayIn rt).withHistory loginHistory

/-! ## The condition -/

/-- The session has been completed through another state. -/
def LoginEvent.completedBesides (sessionId state : String) : LoginEvent → Bool
  | .completed sessionId' state' => sessionId' = sessionId && state' ≠ state
  | _ => false

/-- Whoever enters a login session finds nobody else inside. -/
def entersAlone (t : Tid) {β : Type} (op : Op β) (s : Logged) : Bool :=
  (entered? t op s.1).all fun sessionId => s.2.inside.all fun x => x.2 ≠ sessionId || x.1 = t

/-- What a call must not find: a state whose session was completed through another
one, a failed session, or a login whose result has been marked used. -/
def findsOpen (t : Tid) {β : Type} (op : Op β) (s : Logged) : Bool :=
  match t, op with
  | .backend _ (.hyundaiOAuthCallback _), .base (.oauthStates (.get state)) =>
      (entered? t op s.1).all fun sessionId =>
        s.2.events.all fun e => !e.completedBesides sessionId state
  | .backend _ (.hyundaiOAuthCallback _), .base (.qrSessions (.get sessionId)) =>
      (s.1.base.qrSessions.read s.1.base.now sessionId).all fun e => e.value.status ≠ .failed
  | _, .base (.qrSessions (.set sessionId session _)) =>
      session.status ≠ .pending || .failed sessionId ∉ s.2.events
  | .backend _ (.confirmVehicle _), .base (.oauthResults (.get sessionId)) =>
      .used sessionId ∉ s.2.events || (s.1.base.oauthResults.read s.1.base.now sessionId).isNone
  | _, _ => true

def sessionPolicy : Policy Op PyError Logged Tid Start Env where
  start _ _ := True
  call t _ op m s := (!m.effective || entersAlone t op s && findsOpen t op s) = true
  crash _ _ := True
  environment _ _ := True

instance : sessionPolicy.Computable where
  start _ _ := .isTrue trivial
  call _ _ _ _ _ := inferInstanceAs (Decidable (_ = true))
  crash _ _ := .isTrue trivial
  environment _ _ := .isTrue trivial

/-! ## Once -/

/-- The later event does again what the earlier one has done for good. -/
def LoginEvent.Repeats : LoginEvent → LoginEvent → Prop
  | .completed sessionId _, .completed sessionId' _ => sessionId = sessionId'
  | .completed sessionId _, .failed sessionId' => sessionId = sessionId'
  | .issued sessionId, .issued sessionId' => sessionId = sessionId'
  | _, _ => False

instance (e e' : LoginEvent) : Decidable (e.Repeats e') := by
  unfold LoginEvent.Repeats
  split <;> infer_instance

/-- Every session is completed at most once, never after it has failed, and
tokens are issued from it at most once. -/
def LoginHistory.Once (g : LoginHistory) : Prop :=
  g.events.Pairwise fun later earlier => ¬later.Repeats earlier

instance (g : LoginHistory) : Decidable g.Once :=
  inferInstanceAs (Decidable (List.Pairwise _ _))

def LoginHistory.Completed (g : LoginHistory) (sessionId : String) : Prop :=
  ∃ state, .completed sessionId state ∈ g.events

def LoginHistory.Completing (g : LoginHistory) (sessionId state : String) : Prop :=
  ∃ n command, command.state = state ∧
    (.backend n (.hyundaiOAuthCallback command), sessionId) ∈ g.inside

def LoginHistory.Confirming (g : LoginHistory) (sessionId : String) : Prop :=
  ∃ n command, (.backend n (.confirmVehicle command), sessionId) ∈ g.inside

/-- The state is not found pending any more. -/
def World.Closed (w : World) (state : String) : Prop :=
  ∀ e, w.base.oauthStates.read w.base.now state = some e → e.value.status ≠ .pending

def stateText (n : Nat) : String := "state-" ++ toString n

theorem stateText_injective : Function.Injective stateText := randomText_injective "state-"

/-- One execution at a time is inside a session, and what has happened to the
session is still to be seen by the next one. -/
structure LoginsOnce (s : Logged) : Prop where
  exclusive : ∀ t t' k, (t, k) ∈ s.2.inside → (t', k) ∈ s.2.inside → t = t'
  drawn : ∀ t n, (t, n) ∈ s.2.draws → n < s.1.base.drawn
  draws : ∀ t t' n, (t, n) ∈ s.2.draws → (t', n) ∈ s.2.draws → t = t'
  fresh : ∀ n, s.1.base.oauthStates (stateText n) ≠ none → n < s.1.base.drawn
  known : ∀ k state, .completed k state ∈ s.2.events → s.1.base.oauthStates state ≠ none
  closed : ∀ k state, .completed k state ∈ s.2.events → s.1.Closed state ∨ s.2.Completing k state
  stored : ∀ k, s.1.base.oauthResults k ≠ none → s.2.Completed k
  polled : ∀ k, s.1.base.loginResults k ≠ none → s.2.Completed k
  failed : ∀ k e, .failed k ∈ s.2.events → s.1.base.qrSessions k = some e → e.value.status = .failed
  used : ∀ k, .used k ∈ s.2.events → s.2.Completed k ∧ s.1.base.loginResults k = none
  issued : ∀ k, .issued k ∈ s.2.events → .used k ∈ s.2.events ∨ s.2.Confirming k
  once : s.2.Once

/-! ## Elementary steps -/

section
variable {g : LoginHistory} {k state : String}

/-- Time passes, and numbers are drawn by nobody who counts. -/
theorem LoginsOnce.of_same (h : LoginsOnce (w, g)) (hnow : w.base.now ≤ w'.base.now)
    (hdrawn : w.base.drawn ≤ w'.base.drawn) (hstates : w'.base.oauthStates = w.base.oauthStates)
    (hresults : w'.base.oauthResults = w.base.oauthResults)
    (hlogins : w'.base.loginResults = w.base.loginResults)
    (hqr : w'.base.qrSessions = w.base.qrSessions) : LoginsOnce (w', g) where
  exclusive := h.exclusive
  drawn t n hn := Nat.lt_of_lt_of_le (h.drawn t n hn) hdrawn
  draws := h.draws
  fresh n hn := Nat.lt_of_lt_of_le (h.fresh n (hstates ▸ hn)) hdrawn
  known k state he := by
    rw [hstates]
    exact h.known k state he
  closed k state he := by
    rcases h.closed k state he with hclosed | hin
    · left
      intro e hread
      rw [hstates] at hread
      exact hclosed e (read_of_later hnow hread)
    · exact .inr hin
  stored k hk := h.stored k (hresults ▸ hk)
  polled k hk := h.polled k (hlogins ▸ hk)
  failed k e he hk := h.failed k e he (hqr ▸ hk)
  used k he := by
    rw [hlogins]
    exact h.used k he
  issued := h.issued
  once := h.once

theorem LoginsOnce.draw (h : LoginsOnce (w, g)) (t : Tid) : LoginsOnce
    ({ w with base := { w.base with drawn := w.base.drawn + 1 } },
      { g with draws := (t, w.base.drawn) :: g.draws }) :=
  { h with
    drawn := by
      intro t' n hn
      rcases List.mem_cons.mp hn with hnew | hold
      · cases hnew
        exact Nat.lt_succ_self _
      · exact Nat.lt_succ_of_lt (h.drawn t' n hold)
    draws := by
      intro t₁ t₂ n h₁ h₂
      rcases List.mem_cons.mp h₁ with hnew | hold
      · cases hnew
        rcases List.mem_cons.mp h₂ with hnew | hold
        · cases hnew
          rfl
        · exact absurd (h.drawn t₂ _ hold) (Nat.lt_irrefl _)
      · rcases List.mem_cons.mp h₂ with hnew | hold'
        · cases hnew
          exact absurd (h.drawn t₁ _ hold) (Nat.lt_irrefl _)
        · exact h.draws t₁ t₂ n hold hold'
    fresh := fun n hn => Nat.lt_succ_of_lt (h.fresh n hn) }

def LoginHistory.enter (g : LoginHistory) (t : Tid) (k : String) : LoginHistory :=
  { g with inside := (t, k) :: g.inside }

def LoginHistory.leave (g : LoginHistory) (t : Tid) : LoginHistory :=
  { g with inside := g.inside.filter (·.1 ≠ t) }

def LoginHistory.record (g : LoginHistory) (e : LoginEvent) : LoginHistory :=
  { g with events := e :: g.events }

theorem LoginsOnce.enter (h : LoginsOnce (w, g)) {t : Tid}
    (halone : ∀ t', (t', k) ∈ g.inside → t' = t) :
    LoginsOnce (w, g.enter t k) :=
  { h with
    exclusive := by
      intro t₁ t₂ k' h₁ h₂
      rcases List.mem_cons.mp h₁ with hnew | hold
      · cases hnew
        rcases List.mem_cons.mp h₂ with hnew | hold
        · cases hnew
          rfl
        · exact (halone t₂ hold).symm
      · rcases List.mem_cons.mp h₂ with hnew | hold'
        · cases hnew
          exact halone t₁ hold
        · exact h.exclusive t₁ t₂ k' hold hold'
    closed := by
      intro k' state he
      rcases h.closed k' state he with hclosed | ⟨n, command, hstate, hin⟩
      · exact .inl hclosed
      · exact .inr ⟨n, command, hstate, .tail _ hin⟩
    issued := by
      intro k' he
      rcases h.issued k' he with hused | ⟨n, command, hin⟩
      · exact .inl hused
      · exact .inr ⟨n, command, .tail _ hin⟩ }

theorem mem_left {t t' : Tid} {inside : List (Tid × String)} :
    (t', k) ∈ inside.filter (·.1 ≠ t) ↔ (t', k) ∈ inside ∧ t' ≠ t := by
  simp [List.mem_filter]

theorem LoginsOnce.leave (h : LoginsOnce (w, g)) {t : Tid}
    (hcallback : ∀ n command k, t = .backend n (.hyundaiOAuthCallback command) → (t, k) ∈ g.inside →
      .completed k command.state ∈ g.events → w.Closed command.state)
    (hconfirm : ∀ n command k, t = .backend n (.confirmVehicle command) → (t, k) ∈ g.inside →
      .issued k ∈ g.events → .used k ∈ g.events) :
    LoginsOnce (w, g.leave t) :=
  { h with
    exclusive := fun t₁ t₂ k' h₁ h₂ => h.exclusive t₁ t₂ k' (mem_left.mp h₁).1 (mem_left.mp h₂).1
    closed := by
      intro k' state he
      rcases h.closed k' state he with hclosed | ⟨n, command, hstate, hin⟩
      · exact .inl hclosed
      · by_cases ht : (.backend n (.hyundaiOAuthCallback command)) = t
        · subst hstate
          exact .inl (hcallback n command k' ht.symm (ht ▸ hin) he)
        · exact .inr ⟨n, command, hstate, mem_left.mpr ⟨hin, ht⟩⟩
    issued := by
      intro k' he
      rcases h.issued k' he with hused | ⟨n, command, hin⟩
      · exact .inl hused
      · by_cases ht : (.backend n (.confirmVehicle command)) = t
        · exact .inl (hconfirm n command k' ht.symm (ht ▸ hin) he)
        · exact .inr ⟨n, command, mem_left.mpr ⟨hin, ht⟩⟩ }

theorem LoginHistory.Completed.later {g : LoginHistory} (h : g.Completed k) {e : LoginEvent} :
    (g.record e).Completed k := by
  obtain ⟨state, he⟩ := h
  exact ⟨state, .tail _ he⟩

theorem LoginsOnce.record (h : LoginsOnce (w, g)) {e : LoginEvent}
    (hnew : ∀ e' ∈ g.events, ¬e.Repeats e')
    (hcompleted : ∀ k state, e = .completed k state →
      w.base.oauthStates state ≠ none ∧ g.Completing k state)
    (hfailed : ∀ k x, e = .failed k → w.base.qrSessions k = some x → x.value.status = .failed)
    (hused : ∀ k, e = .used k → g.Completed k ∧ w.base.loginResults k = none)
    (hissued : ∀ k, e = .issued k → g.Confirming k) :
    LoginsOnce (w, g.record e) :=
  { h with
    known := by
      intro k state he
      rcases List.mem_cons.mp he with rfl | hold
      · exact (hcompleted k state rfl).1
      · exact h.known k state hold
    closed := by
      intro k state he
      rcases List.mem_cons.mp he with rfl | hold
      · exact .inr (hcompleted k state rfl).2
      · exact h.closed k state hold
    stored := fun k hk => (h.stored k hk).later
    polled := fun k hk => (h.polled k hk).later
    failed := by
      intro k x he hk
      rcases List.mem_cons.mp he with rfl | hold
      · exact hfailed k x rfl hk
      · exact h.failed k x hold hk
    used := by
      intro k he
      rcases List.mem_cons.mp he with rfl | hold
      · exact ⟨(hused k rfl).1.later, (hused k rfl).2⟩
      · exact ⟨(h.used k hold).1.later, (h.used k hold).2⟩
    issued := by
      intro k he
      rcases List.mem_cons.mp he with rfl | hold
      · exact .inr (hissued k rfl)
      · rcases h.issued k hold with hused | hin
        · exact .inl (.tail _ hused)
        · exact .inr hin
    once := List.pairwise_cons.mpr ⟨hnew, h.once⟩ }

theorem LoginsOnce.store (h : LoginsOnce (w, g)) {x : Option (Entry OAuthResult)}
    {completedLogins : List (String × OAuthResult)} (hk : g.Completed k) : LoginsOnce
      ({ w with base := { w.base with
        oauthResults := Function.update w.base.oauthResults k x
        completedLogins := completedLogins } }, g) :=
  { h with
    stored := by
      intro k' hk'
      rcases Cache.update_ne_none hk' with rfl | hold
      · exact hk
      · exact h.stored k' hold }

theorem LoginsOnce.poll (h : LoginsOnce (w, g)) {x : Option (Entry OAuthResult)}
    (hk : g.Completed k) (hused : x ≠ none → .used k ∉ g.events) : LoginsOnce
      ({ w with base := { w.base with
        loginResults := Function.update w.base.loginResults k x } }, g) :=
  { h with
    polled := by
      intro k' hk'
      rcases Cache.update_ne_none hk' with rfl | hold
      · exact hk
      · exact h.polled k' hold
    used := by
      intro k' he
      refine ⟨(h.used k' he).1, ?_⟩
      by_cases hk' : k' = k
      · subst hk'
        show Function.update w.base.loginResults k' x k' = none
        rw [Function.update_self]
        by_contra hx
        exact hused hx he
      · show Function.update w.base.loginResults k x k' = none
        rw [Function.update_of_ne hk']
        exact (h.used k' he).2 }

/-- A session record is written; that of a failed session stays failed. -/
theorem LoginsOnce.qrSession (h : LoginsOnce (w, g)) {x : Entry QrSession}
    (hfailed : .failed k ∈ g.events → x.value.status = .failed) : LoginsOnce
      ({ w with base := { w.base with
        qrSessions := Function.update w.base.qrSessions k (some x) } }, g) :=
  { h with
    failed := by
      intro k' e he hread
      rcases Cache.update_eq_some hread with ⟨rfl, rfl⟩ | ⟨-, hold⟩
      · exact hfailed he
      · exact h.failed k' e he hold }

theorem World.Closed.of_update {x : Entry OAuthState} {state' : String}
    (hx : state' = state → x.value.status ≠ .pending) (h : state' ≠ state → w.Closed state') :
    World.Closed { w with base := { w.base with
      oauthStates := Function.update w.base.oauthStates state (some x) } } state' := by
  intro e hread
  obtain ⟨hget, hlive⟩ := Cache.read_eq_some.mp hread
  rcases Cache.update_eq_some hget with ⟨hs, rfl⟩ | ⟨hs, hold⟩
  · exact hx hs
  · exact h hs e (Cache.read_eq_some.mpr ⟨hold, hlive⟩)

/-- A new state is saved, or an old one is marked used. -/
theorem LoginsOnce.saveState (h : LoginsOnce (w, g)) {x : Entry OAuthState}
    (hfresh : ∀ n, stateText n = state → n < w.base.drawn)
    (hused : w.base.oauthStates state ≠ none → x.value.status ≠ .pending) : LoginsOnce
      ({ w with base := { w.base with
        oauthStates := Function.update w.base.oauthStates state (some x) } }, g) :=
  { h with
    fresh := by
      intro n hn
      rcases Cache.update_ne_none hn with hnew | hold
      · exact hfresh n hnew
      · exact h.fresh n hold
    known := by
      intro k' state' he
      show Function.update w.base.oauthStates state (some x) state' ≠ none
      by_cases hs : state' = state
      · subst hs
        simp
      · rw [Function.update_of_ne hs]
        exact h.known k' state' he
    closed := by
      intro k' state' he
      rcases h.closed k' state' he with hclosed | hin
      · left
        apply World.Closed.of_update
        · rintro rfl
          exact hused (h.known k' _ he)
        · exact fun _ => hclosed
      · exact .inr hin }

end

/-! ## The contract -/

/-- What a call of an execution does to login sessions. -/
structure OnceStep (t : Tid) (s s' : Logged) : Prop where
  backed : LoginsOnce s → LoginsOnce s'
  inside : ∀ t' k, t' ≠ t → ((t', k) ∈ s'.2.inside ↔ (t', k) ∈ s.2.inside)
  draws : s.2.draws ⊆ s'.2.draws
  events : s.2.events ⊆ s'.2.events
  event : ∀ e ∈ s'.2.events, e ∈ s.2.events ∨ (t, e.sessionId) ∈ s.2.inside
  states : ∀ state, s.1.base.oauthStates state ≠ none → s'.1.base.oauthStates state ≠ none
  saved : ∀ state, s.1.base.oauthStates state = none → s'.1.base.oauthStates state = none ∨
    ∃ n, (t, n) ∈ s.2.draws ∧ state = stateText n

variable {s s' : Logged}

theorem OnceStep.refl (t : Tid) (s : Logged) : OnceStep t s s where
  backed h := h
  inside _ _ _ := .rfl
  draws _ h := h
  events _ h := h
  event _ h := .inl h
  states _ h := h
  saved _ h := .inl h

def singleUse : Contract Logged Tid where
  invariant := LoginsOnce
  guarantee := OnceStep
  environment s s' := ∀ t, OnceStep t s s'

theorem singleUse_interferes (h : singleUse.Interferes t s s') :
    ∃ t', t' ≠ t ∧ OnceStep t' s s' := by
  rcases h.2.2 with hother | henv
  · exact hother
  · by_cases ht : t = .pg 0
    · exact ⟨.pg 1, by simp [ht], henv _⟩
    · exact ⟨.pg 0, Ne.symm ht, henv _⟩

/-- Nobody else adds an event to a session that the execution is inside. -/
theorem events_of_interferes {k : String} (h : singleUse.Interferes t s s')
    (hin : (t, k) ∈ s.2.inside) {e : LoginEvent} (he : e.sessionId = k) :
    e ∈ s'.2.events ↔ e ∈ s.2.events := by
  obtain ⟨t', hne, hstep⟩ := singleUse_interferes h
  constructor
  · intro hmem
    rcases hstep.event e hmem with hold | hother
    · exact hold
    · rw [he] at hother
      exact (hne (h.1.exclusive t' t k hother hin)).elim
  · exact fun hmem => hstep.events hmem

theorem inside_of_interferes {k : String} (h : singleUse.Interferes t s s') :
    (t, k) ∈ s'.2.inside ↔ (t, k) ∈ s.2.inside := by
  obtain ⟨t', hne, hstep⟩ := singleUse_interferes h
  exact hstep.inside t k (Ne.symm hne)

/-! ## What an execution knows -/

/-- The login sessions are as they were. -/
structure SameSessions (s s' : Logged) : Prop where
  inside : s'.2.inside = s.2.inside
  events : s'.2.events = s.2.events
  draws : s.2.draws ⊆ s'.2.draws
  states : s'.1.base.oauthStates = s.1.base.oauthStates

/-- Known until the execution itself does something about a session. -/
structure Staying (t : Tid) (P : Logged → Prop) : Prop where
  stable : singleUse.Stable t P
  quiet : ∀ s s', SameSessions s s' → P s → P s'

def Absent (t : Tid) (s : Logged) : Prop := ∀ k, (t, k) ∉ s.2.inside

def Inside (t : Tid) (k : String) (s : Logged) : Prop :=
  (t, k) ∈ s.2.inside ∧ ∀ k', (t, k') ∈ s.2.inside → k' = k

structure Checked (t : Tid) (state k : String) (s : Logged) : Prop where
  inside : Inside t k s
  known : s.1.base.oauthStates state ≠ none
  uncompleted : ¬s.2.Completed k

structure Pending (t : Tid) (state k : String) (s : Logged) : Prop where
  checked : Checked t state k s
  unfailed : .failed k ∉ s.2.events

structure Stored (t : Tid) (state k : String) (s : Logged) : Prop where
  inside : Inside t k s
  known : s.1.base.oauthStates state ≠ none
  completed : .completed k state ∈ s.2.events
  unused : .used k ∉ s.2.events

structure Selected (t : Tid) (k : String) (s : Logged) : Prop where
  inside : Inside t k s
  completed : s.2.Completed k
  unissued : .issued k ∉ s.2.events

structure Issuing (t : Tid) (k : String) (s : Logged) : Prop where
  inside : Inside t k s
  completed : s.2.Completed k

/-- The execution has drawn a number, and no state is saved under it. -/
structure Drew (t : Tid) (n : Nat) (s : Logged) : Prop where
  drawn : (t, n) ∈ s.2.draws
  unsaved : s.1.base.oauthStates (stateText n) = none

theorem staying_true (t : Tid) : Staying t fun _ => True :=
  ⟨.const True, fun _ _ _ h => h⟩

theorem staying_absent (t : Tid) : Staying t (Absent t) where
  stable _ _ hi h k hin := h k ((inside_of_interferes hi).mp hin)
  quiet _ _ hs h k hin := h k (hs.inside ▸ hin)

theorem Inside.interferes {k : String} (h : Inside t k s) (hi : singleUse.Interferes t s s') :
    Inside t k s' :=
  ⟨(inside_of_interferes hi).mpr h.1, fun k' hin => h.2 k' ((inside_of_interferes hi).mp hin)⟩

theorem Inside.same {k : String} (h : Inside t k s) (hs : SameSessions s s') : Inside t k s' := by
  unfold Inside
  rwa [hs.inside]

theorem completed_of_interferes {k : String} (hi : singleUse.Interferes t s s')
    (hin : (t, k) ∈ s.2.inside) : s'.2.Completed k ↔ s.2.Completed k := by
  constructor
  · rintro ⟨state, he⟩
    exact ⟨state, (events_of_interferes hi hin rfl).mp he⟩
  · rintro ⟨state, he⟩
    exact ⟨state, (events_of_interferes hi hin rfl).mpr he⟩

theorem completed_of_same {k : String} (hs : SameSessions s s') :
    s'.2.Completed k ↔ s.2.Completed k := by
  unfold LoginHistory.Completed
  rw [hs.events]

theorem known_of_interferes {state : String} (hi : singleUse.Interferes t s s')
    (h : s.1.base.oauthStates state ≠ none) : s'.1.base.oauthStates state ≠ none := by
  obtain ⟨t', -, hstep⟩ := singleUse_interferes hi
  exact hstep.states state h

theorem staying_checked (t : Tid) (state k : String) : Staying t (Checked t state k) where
  stable s s' hi h := by
    refine ⟨h.inside.interferes hi, known_of_interferes hi h.known, ?_⟩
    rw [completed_of_interferes hi h.inside.1]
    exact h.uncompleted
  quiet s s' hs h := by
    refine ⟨h.inside.same hs, ?_, ?_⟩
    · rw [hs.states]
      exact h.known
    · rw [completed_of_same hs]
      exact h.uncompleted

theorem staying_pending (t : Tid) (state k : String) : Staying t (Pending t state k) where
  stable s s' hi h := by
    refine ⟨(staying_checked t state k).stable s s' hi h.checked, ?_⟩
    rw [events_of_interferes hi h.checked.inside.1 rfl]
    exact h.unfailed
  quiet s s' hs h := by
    refine ⟨(staying_checked t state k).quiet s s' hs h.checked, ?_⟩
    rw [hs.events]
    exact h.unfailed

theorem staying_stored (t : Tid) (state k : String) : Staying t (Stored t state k) where
  stable s s' hi h := by
    refine ⟨h.inside.interferes hi, known_of_interferes hi h.known, ?_, ?_⟩
    · rw [events_of_interferes hi h.inside.1 rfl]
      exact h.completed
    · rw [events_of_interferes hi h.inside.1 rfl]
      exact h.unused
  quiet s s' hs h := by
    refine ⟨h.inside.same hs, ?_, ?_, ?_⟩
    · rw [hs.states]
      exact h.known
    · rw [hs.events]
      exact h.completed
    · rw [hs.events]
      exact h.unused

theorem staying_selected (t : Tid) (k : String) : Staying t (Selected t k) where
  stable s s' hi h := by
    refine ⟨h.inside.interferes hi, ?_, ?_⟩
    · rw [completed_of_interferes hi h.inside.1]
      exact h.completed
    · rw [events_of_interferes hi h.inside.1 rfl]
      exact h.unissued
  quiet s s' hs h := by
    refine ⟨h.inside.same hs, ?_, ?_⟩
    · rw [completed_of_same hs]
      exact h.completed
    · rw [hs.events]
      exact h.unissued

theorem staying_issuing (t : Tid) (k : String) : Staying t (Issuing t k) where
  stable s s' hi h := by
    refine ⟨h.inside.interferes hi, ?_⟩
    rw [completed_of_interferes hi h.inside.1]
    exact h.completed
  quiet s s' hs h := by
    refine ⟨h.inside.same hs, ?_⟩
    rw [completed_of_same hs]
    exact h.completed

/-- Another execution saves its states under numbers of its own. -/
theorem staying_drew (t : Tid) (n : Nat) : Staying t (Drew t n) where
  stable s s' hi h := by
    obtain ⟨t', hne, hstep⟩ := singleUse_interferes hi
    refine ⟨hstep.draws h.drawn, ?_⟩
    rcases hstep.saved _ h.unsaved with hnone | ⟨m, hm, htext⟩
    · exact hnone
    · cases stateText_injective htext
      exact (hne (hi.1.draws t' t n hm h.drawn)).elim
  quiet s s' hs h := by
    refine ⟨hs.draws h.drawn, ?_⟩
    rw [hs.states]
    exact h.unsaved

/-! ## Calls that do nothing to a session -/

/-- The call touches no store of logins, and nobody enters or leaves a session by it. -/
structure SessionFree (t : Tid) {β : Type} (op : Op β) : Prop where
  effect : op.effect ∉ [.qrSession, .oauthState, .oauthResult, .loginResult]
  entered : ∀ w, entered? t op w = none
  leaves : ∀ r w, leaves t op r w = false
  event : loginEvent? t op = none

section
variable {op : Op α} {r : Except PyError α} {g : LoginHistory}

theorem mem_inside_loginHistory {k : String} (h : t' ≠ t) :
    (t', k) ∈ (loginHistory t op r w g).inside ↔ (t', k) ∈ g.inside := by
  unfold loginHistory
  dsimp only
  split
  · rw [mem_left]
    exact and_iff_left h
  · cases entered? t op w with
    | none => simp
    | some k' => simp [h]

theorem OnceStep.of_exec (he : s.1.exec t op = some (r, s'.1))
    (hg : s'.2 = loginHistory t op r s.1 s.2) (hbacked : LoginsOnce s → LoginsOnce s')
    (hevent : ∀ e, loginEvent? t op = some e → (t, e.sessionId) ∈ s.2.inside)
    (hsaved : op.effect = .oauthState → ∃ state x,
      s'.1.base.oauthStates = Function.update s.1.base.oauthStates state (some x) ∧
        (s.1.base.oauthStates state ≠ none ∨ ∃ n, (t, n) ∈ s.2.draws ∧ state = stateText n)) :
    OnceStep t s s' := by
  have hframe := World.exec_frame he
  constructor
  · exact hbacked
  · intro t' k hne
    rw [hg]
    exact mem_inside_loginHistory hne
  · rw [hg]
    exact List.subset_append_right _ _
  · rw [hg]
    exact List.subset_append_right _ _
  · intro e hmem
    rw [hg] at hmem
    rcases List.mem_append.mp hmem with hnew | hold
    · exact .inr (hevent e (by simpa using hnew))
    · exact .inl hold
  · intro state' hknown
    by_cases heffect : op.effect = .oauthState
    · obtain ⟨state, x, hstates, -⟩ := hsaved heffect
      rw [hstates]
      by_cases hs : state' = state
      · simp [hs]
      · rwa [Function.update_of_ne hs]
    · rwa [hframe.oauthStates heffect]
  · intro state' hnone
    by_cases heffect : op.effect = .oauthState
    · obtain ⟨state, x, hstates, hold⟩ := hsaved heffect
      by_cases hs : state' = state
      · subst hs
        rcases hold with hknown | hdrew
        · exact (hknown hnone).elim
        · exact .inr hdrew
      · rw [hstates, Function.update_of_ne hs]
        exact .inl hnone
    · rw [hframe.oauthStates heffect]
      exact .inl hnone

theorem loginHistory_of_free (h : SessionFree t op) :
    loginHistory t op r w g = { g with draws := (op.drawn? w).toList.map (t, ·) ++ g.draws } := by
  simp [loginHistory, h.leaves, h.entered, h.event]

theorem loginHistory_enter {k : String} (hdrawn : op.drawn? w = none)
    (hevent : loginEvent? t op = none) (hleaves : leaves t op r w = false)
    (hentered : entered? t op w = some k) :
    loginHistory t op r w g = g.enter t k := by
  simp [loginHistory, LoginHistory.enter, hdrawn, hevent, hleaves, hentered]

theorem loginHistory_leave (hdrawn : op.drawn? w = none) (hevent : loginEvent? t op = none)
    (hleaves : leaves t op r w = true) :
    loginHistory t op r w g = g.leave t := by
  simp [loginHistory, LoginHistory.leave, hdrawn, hevent, hleaves]

theorem loginHistory_record {e : LoginEvent} (hdrawn : op.drawn? w = none)
    (hevent : loginEvent? t op = some e) (hleaves : leaves t op r w = false)
    (hentered : entered? t op w = none) : loginHistory t op r w g = g.record e := by
  simp [loginHistory, LoginHistory.record, hdrawn, hevent, hleaves, hentered]

/-- The event is the last one of the execution in its session. -/
theorem loginHistory_finish {e : LoginEvent} (hdrawn : op.drawn? w = none)
    (hevent : loginEvent? t op = some e) (hleaves : leaves t op r w = true) :
    loginHistory t op r w g = (g.record e).leave t := by
  simp [loginHistory, LoginHistory.record, LoginHistory.leave, hdrawn, hevent, hleaves]

theorem loginHistory_same (hdrawn : op.drawn? w = none) (hevent : loginEvent? t op = none)
    (hleaves : leaves t op r w = false) (hentered : entered? t op w = none) :
    loginHistory t op r w g = g := by
  simp [loginHistory, hdrawn, hevent, hleaves, hentered]

theorem drawn_of_effect (h : op.effect ≠ .draw) : op.drawn? w = none := by
  unfold Op.drawn?
  split
  · exact absurd rfl h
  · rfl

/-- A number is drawn, or nothing that concerns logins happens. -/
theorem LoginsOnce.of_free (h : SessionFree t op) (he : s.1.exec t op = some (r, s'.1))
    (hg : s'.2 = loginHistory t op r s.1 s.2) (hs : LoginsOnce s) : LoginsOnce s' := by
  have hframe := World.exec_frame he
  have heffect := h.effect
  simp only [List.mem_cons, List.not_mem_nil, or_false, not_or] at heffect
  obtain ⟨hqr, hstate, hresult, hlogin⟩ := heffect
  rw [loginHistory_of_free h] at hg
  have hsame (hdrawn : s.1.base.drawn ≤ s'.1.base.drawn) : LoginsOnce (s'.1, s.2) := by
    apply LoginsOnce.of_same hs (Nat.le_of_eq hframe.now.symm) hdrawn
    · exact hframe.oauthStates hstate
    · exact hframe.oauthResults hresult
    · exact hframe.loginResults hlogin
    · exact hframe.qrSessions hqr
  by_cases hdraw : op.effect = .draw
  · cases op with
    | base op =>
        cases op with
        | draw =>
            obtain ⟨-, hw⟩ := exec_base he
            have hstep : LoginsOnce (s'.1, s'.2) := by
              rw [hw, hg]
              exact LoginsOnce.draw hs t
            exact hstep
        | _ => simp [Op.effect] at hdraw
    | _ => simp [Op.effect] at hdraw
  · rw [drawn_of_effect hdraw] at hg
    have hstep : LoginsOnce (s'.1, s'.2) := by
      rw [hg]
      exact hsame (Nat.le_of_eq (World.exec_drawn he hdraw).symm)
    exact hstep

theorem sessionFree_step (h : SessionFree t op) {m : Mode PyError}
    (ho : (logged rt).outcome t op m s = some (r, s')) : OnceStep t s s' ∧ SameSessions s s' := by
  have hcall : ∀ r₀, s.1.exec t op = some (r₀, s'.1) → s'.2 = loginHistory t op r₀ s.1 s.2 →
      OnceStep t s s' ∧ SameSessions s s' := by
    intro r₀ he hg
    have heffect : op.effect ≠ .oauthState := by
      intro hstate
      have heffect := h.effect
      simp [hstate] at heffect
    constructor
    · apply OnceStep.of_exec he hg (LoginsOnce.of_free h he hg)
      · intro e hsome
        rw [h.event] at hsome
        cases hsome
      · exact fun hstate => (heffect hstate).elim
    · rw [loginHistory_of_free h] at hg
      constructor
      · rw [hg]
      · rw [hg]
      · rw [hg]
        exact List.subset_append_right _ _
      · exact (World.exec_frame he).oauthStates heffect
  rcases history_cases ho with ⟨-, he, hg⟩ | ⟨e, -, -, hw, hg⟩ | ⟨e, r₀, -, -, he, hg⟩
  · exact hcall r he hg
  · have hs : s' = s := Prod.ext hw hg
    rw [hs]
    exact ⟨.refl t s, ⟨rfl, rfl, fun _ h => h, rfl⟩⟩
  · exact hcall r₀ he hg

end

abbrev Using (rt : Runtime) (t : Tid) (P : Logged → Prop) (p : Service α)
    (Q : Except PyError α → Logged → Prop) : Prop :=
  (logged rt).Triple sessionPolicy singleUse t P p Q

theorem sessionFree_program {P : Logged → Prop} {p : Service α} (hp : p.Calls (SessionFree t))
    (hP : Staying t P) : Using rt t P p (fun _ => P) := by
  apply Triple.calls ?_ hP.stable
  apply hp.mono
  intro β op hop s m r s' hs _ _ ho _
  obtain ⟨hstep, hsame⟩ := sessionFree_step hop ho
  exact ⟨hstep, hP.quiet s s' hsame hs⟩

end CarPayIn
