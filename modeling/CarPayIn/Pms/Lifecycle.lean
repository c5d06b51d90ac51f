import CarPayIn.Pms.Recording
import CarPayIn.Process.History

/-! # The lifecycle of a session

The marks write a status without reading the old one. A session moves from
`active` over `paid` to `exited` and is let out once as long as no mark comes
to a session that has left, and a payment marks no record of an unpaid car but
its own: then a record that says `paid` tells the truth.
-/

namespace CarPayIn.Pms

open Process Process.System Store Pms.Service

variable {isIsoFormat : String → Bool} {t : Tid} {α : Type}

/-! ## The condition -/

namespace State

variable (s : State)

def stillHere (id : String) : Bool := (s.getSessionById id).all fun r => r.status ≠ .exited

def settled (id : String) : Bool :=
  (s.getSessionById id).any fun r => r.status = .paid || r.status = .exited

end State

/-- Only sessions that are still here are marked, and a notification finds its own
record or that of a settled session. -/
def inOrder (t : Tid) {β : Type} (op : Op β) (s : State) : Bool :=
  match op with
  | .markPaid id => s.stillHere id
  | .markExited id => s.stillHere id
  | .parkedCars (.get key) =>
      match t.request with
      | .paymentComplete _ c => (s.seen key).all fun car =>
          car.pmsSessionId = c.pmsSessionId || s.settled car.pmsSessionId
      | _ => true
  | _ => true

def orderPolicy : Policy Op PyError State Tid Tid Env where
  start _ _ := True
  call t _ op _ s := inOrder t op s = true
  crash _ _ := True
  environment _ _ := True

instance : orderPolicy.Computable where
  start _ _ := .isTrue trivial
  call _ _ _ _ _ := inferInstanceAs (Decidable (_ = true))
  crash _ _ := .isTrue trivial
  environment _ _ := .isTrue trivial

/-! ## Departures -/

/-- The sessions that were marked as exited, with the executions that did so. -/
abbrev Departures : Type := List (Tid × String)

def departures (t : Tid) {β : Type} (op : Op β) (r : Except PyError β) (_ : State)
    (g : Departures) : Departures :=
  match op, r with
  | .markExited id, .ok _ => (t, id) :: g
  | _, _ => g

abbrev departing (isIsoFormat : String → Bool) :
    System Op PyError Reply (State × Departures) Tid Tid Env :=
  (pms isIsoFormat).withHistory departures

def afterCall (isIsoFormat : String → Bool) (t : Tid) {β : Type} (op : Op β) (s : State × Departures) :
    State × Departures :=
  ((s.1.exec isIsoFormat t op).2, departures t op (s.1.exec isIsoFormat t op).1 s.1 s.2)

/-! ## One step -/

/-- A status and one that may follow it. -/
inductive SessionStatus.Next : SessionStatus → SessionStatus → Prop where
  | same (status : SessionStatus) : Next status status
  | paid : Next .active .paid
  | exited : Next .paid .exited

/-- Sessions stay, with the same status or the next one, and new ones are active. -/
structure Evolves (s s' : State) : Prop where
  sessions : ∀ id r, s.getSessionById id = some r →
    ∃ r', s'.getSessionById id = some r' ∧ r.status.Next r'.status
  created : ∀ id r, s.getSessionById id = none → s'.getSessionById id = some r →
    r.status = .active

def State.Settles (s : State) (id : String) : Prop :=
  ∃ r, s.getSessionById id = some r ∧ State.Settled r.status

structure Orderly (s : State × Departures) : Prop where
  unique : UniqueBy PMSParkingSession.pmsSessionId s.1.sessions
  status : ∀ r ∈ s.1.sessions, r.status ≠ .cancelled
  exitTime : ∀ r ∈ s.1.sessions, r.exitTime.isSome = true ↔ r.status = .exited
  records : ∀ key e, s.1.parkedCars key = some e → e.value.status = .paid →
    s.1.Settles e.value.pmsSessionId
  gone : ∀ t id, (t, id) ∈ s.2 → ∃ r, s.1.getSessionById id = some r ∧ r.status = .exited
  once : UniqueBy Prod.snd s.2

structure Advances (s s' : State × Departures) : Prop where
  evolves : Evolves s.1 s'.1
  orderly : Orderly s'
  departures : s.2 ⊆ s'.2

def lifecycle : Contract (State × Departures) Tid where
  invariant := Orderly
  guarantee _ := Advances
  environment s s' := Orderly s → Advances s s'

/-! ## What survives a step -/

section
variable {s s' : State} {id : String}

theorem SessionStatus.Next.settled {a b : SessionStatus} (h : a.Next b) (ha : State.Settled a) :
    State.Settled b := by
  cases h with
  | same => exact ha
  | paid => exact .inl rfl
  | exited => exact .inr rfl

theorem SessionStatus.Next.exited_final {a b : SessionStatus} (h : a.Next b) (ha : a = .exited) :
    b = .exited := by
  cases h with
  | same => exact ha
  | paid => cases ha
  | exited => rfl

theorem SessionStatus.Next.not_cancelled {a b : SessionStatus} (h : a.Next b)
    (ha : a ≠ .cancelled) : b ≠ .cancelled := by
  cases h with
  | same => exact ha
  | paid => simp
  | exited => simp

theorem Evolves.of_eq (h : s'.sessions = s.sessions) : Evolves s s' := by
  have hget : ∀ id, s'.getSessionById id = s.getSessionById id := fun id => by
    simp only [State.getSessionById, h]
  constructor
  · intro id r hr
    exact ⟨r, (hget id).trans hr, .same r.status⟩
  · intro id r hnone hr
    rw [hget, hnone] at hr
    cases hr

theorem Evolves.settles (h : Evolves s s') (hs : s.Settles id) : s'.Settles id := by
  obtain ⟨r, hr, hst⟩ := hs
  obtain ⟨r', hr', hnext⟩ := h.sessions id r hr
  exact ⟨r', hr', hnext.settled hst⟩

theorem Evolves.gone (h : Evolves s s')
    (hs : ∃ r, s.getSessionById id = some r ∧ r.status = .exited) :
    ∃ r, s'.getSessionById id = some r ∧ r.status = .exited := by
  obtain ⟨r, hr, hst⟩ := hs
  obtain ⟨r', hr', hnext⟩ := h.sessions id r hr
  exact ⟨r', hr', hnext.exited_final hst⟩

theorem State.settles_of_settled (h : s.settled id = true) : s.Settles id := by
  obtain ⟨r, hr, hst⟩ := (Option.any_eq_true ..).mp h
  refine ⟨r, hr, ?_⟩
  simpa [State.Settled] using hst

theorem Evolves.create {row : PMSParkingSession} (hnew : s.getSessionById row.pmsSessionId = none)
    (hrow : row.status = .active) :
    Evolves s { s with sessions := row :: s.sessions } := by
  have hget : ∀ id, ({ s with sessions := row :: s.sessions } : State).getSessionById id =
      if row.pmsSessionId = id then some row else s.getSessionById id := fun _ => get?_cons
  constructor
  · intro id r hr
    have hne : row.pmsSessionId ≠ id := by
      intro he
      rw [he, hr] at hnew
      cases hnew
    exact ⟨r, by rw [hget, if_neg hne, hr], .same r.status⟩
  · intro id r hnone hr
    rw [hget] at hr
    split at hr
    · cases hr
      exact hrow
    · rw [hnone] at hr
      cases hr

theorem State.getSessionById_marked {f : PMSParkingSession → PMSParkingSession}
    {r : PMSParkingSession} (hid : ∀ r, (f r).pmsSessionId = r.pmsSessionId)
    (hr : s.getSessionById id = some r) : (s.setSession id f).getSessionById id = some (f r) := by
  rw [State.getSessionById_setSession hid, if_pos rfl, hr]
  rfl

theorem Evolves.mark {f : PMSParkingSession → PMSParkingSession} {r : PMSParkingSession}
    (hid : ∀ r, (f r).pmsSessionId = r.pmsSessionId) (hr : s.getSessionById id = some r)
    (hnext : r.status.Next (f r).status) : Evolves s (s.setSession id f) := by
  constructor
  · intro id' r' hr'
    rw [State.getSessionById_setSession hid]
    by_cases he : id' = id
    · subst he
      rw [hr] at hr'
      cases hr'
      exact ⟨f r, by simp [hr], hnext⟩
    · exact ⟨r', by simp [he, hr'], .same r'.status⟩
  · intro id' r' hnone hr'
    rw [State.getSessionById_setSession hid] at hr'
    by_cases he : id' = id
    · subst he
      rw [hr] at hnone
      cases hnone
    · rw [if_neg he, hnone] at hr'
      cases hr'

end

/-! ## Calls -/

section
variable {s : State × Departures} {s' : State} {id : String}

/-- The sessions stay, and a new record that says `paid` is of a settled session. -/
theorem Advances.of_sessions (hs : Orderly s) (hsessions : s'.sessions = s.1.sessions)
    (hrecords : ∀ key e, s'.parkedCars key = some e → s.1.parkedCars key = some e ∨
      (e.value.status = .paid → s.1.Settles e.value.pmsSessionId)) :
    Advances s (s', s.2) := by
  have hev : Evolves s.1 s' := .of_eq hsessions
  refine ⟨hev, ⟨?_, ?_, ?_, ?_, ?_, hs.once⟩, fun _ h => h⟩
  · rw [hsessions]
    exact hs.unique
  · rw [hsessions]
    exact hs.status
  · rw [hsessions]
    exact hs.exitTime
  · intro key e he hpaid
    rcases hrecords key e he with hold | hnew
    · exact hev.settles (hs.records key e hold hpaid)
    · exact hev.settles (hnew hpaid)
  · intro t id hid
    exact hev.gone (hs.gone t id hid)

theorem Advances.refl (hs : Orderly s) : Advances s s :=
  .of_sessions hs rfl fun _ _ h => .inl h

theorem Advances.create (hs : Orderly s) {lotId plate entryTime : String}
    (hc : s.1.createSession isIsoFormat id lotId plate entryTime = .ok s') :
    Advances s (s', s.2) := by
  unfold State.createSession at hc
  split_ifs at hc with _ _ hnew _
  cases hc
  have hnone : s.1.getSessionById id = none := by simpa using hnew
  let row : PMSParkingSession := ⟨id, lotId, plate, entryTime, none, .active⟩
  have hev : Evolves s.1 { s.1 with sessions := row :: s.1.sessions } := .create hnone rfl
  refine ⟨hev, ⟨hs.unique.cons hnone, ?_, ?_, ?_, ?_, hs.once⟩, fun _ h => h⟩
  · intro r hr
    rcases List.mem_cons.mp hr with rfl | hr
    · simp
    · exact hs.status r hr
  · intro r hr
    rcases List.mem_cons.mp hr with rfl | hr
    · simp
    · exact hs.exitTime r hr
  · intro key e he hpaid
    exact hev.settles (hs.records key e he hpaid)
  · intro t id hid
    exact hev.gone (hs.gone t id hid)

theorem Orderly.mark (hs : Orderly s) {f : PMSParkingSession → PMSParkingSession}
    {r : PMSParkingSession} (hid : ∀ r, (f r).pmsSessionId = r.pmsSessionId)
    (hr : s.1.getSessionById id = some r) (hnext : r.status.Next (f r).status)
    (hexit : (f r).exitTime.isSome = true ↔ (f r).status = .exited) :
    Orderly (s.1.setSession id f, s.2) := by
  have hev : Evolves s.1 (s.1.setSession id f) := .mark hid hr hnext
  have hrow : ∀ r' ∈ (s.1.setSession id f).sessions, r' = f r ∨ r' ∈ s.1.sessions := by
    intro r' hr'
    obtain ⟨r₀, hr₀, rfl⟩ := List.mem_map.mp hr'
    by_cases he : r₀.pmsSessionId = id
    · have hget := hs.unique.get?_of_mem hr₀
      rw [he] at hget
      have hsame : r₀ = r := Option.some.inj (hget.symm.trans hr)
      exact .inl (by rw [if_pos he, hsame])
    · exact .inr (by rw [if_neg he]; exact hr₀)
  refine ⟨hs.unique.modify hid, ?_, ?_, ?_, ?_, hs.once⟩
  · intro r' hr'
    rcases hrow r' hr' with rfl | hold
    · exact hnext.not_cancelled (hs.status r (mem_of_get? hr))
    · exact hs.status r' hold
  · intro r' hr'
    rcases hrow r' hr' with rfl | hold
    · exact hexit
    · exact hs.exitTime r' hold
  · intro key e he hpaid
    exact hev.settles (hs.records key e he hpaid)
  · intro t id hid
    exact hev.gone (hs.gone t id hid)

theorem Advances.markPaid (hs : Orderly s) (hstill : s.1.stillHere id = true)
    (hm : s.1.markPaid id = .ok s') : Advances s (s', s.2) ∧ s'.Settles id := by
  unfold State.markPaid at hm
  cases hr : s.1.getSessionById id with
  | none => simp [hr] at hm
  | some r =>
      simp only [hr] at hm
      cases hm
      have hne : r.status ≠ .exited := by simpa [State.stillHere, hr] using hstill
      have hnext : r.status.Next .paid := by
        have hlive := hs.status r (mem_of_get? hr)
        cases hst : r.status with
        | active => exact .paid
        | paid => exact .same _
        | exited => exact (hne hst).elim
        | cancelled => exact (hlive hst).elim
      have hexit : r.exitTime.isSome = true ↔ (SessionStatus.paid = .exited) := by
        have hold := hs.exitTime r (mem_of_get? hr)
        simp [hne] at hold
        simp [hold]
      refine ⟨⟨.mark (fun _ => rfl) hr hnext, hs.mark (fun _ => rfl) hr hnext hexit,
        fun _ h => h⟩, ?_⟩
      exact ⟨_, State.getSessionById_marked (fun _ => rfl) hr, .inl rfl⟩

theorem Advances.markExited (hs : Orderly s) (hstill : s.1.stillHere id = true)
    (hsettled : s.1.Settles id) (hm : s.1.markExited id = .ok s') :
    Advances s (s', (t, id) :: s.2) := by
  obtain ⟨r, hr, hst⟩ := hsettled
  simp only [State.markExited, hr] at hm
  cases hm
  have hne : r.status ≠ .exited := by simpa [State.stillHere, hr] using hstill
  have hpaid : r.status = .paid := hst.resolve_right hne
  have hnext : r.status.Next .exited := by
    rw [hpaid]
    exact .exited
  have hev : Evolves s.1 (s.1.setSession id fun r =>
      { r with status := .exited, exitTime := some s.1.now }) := .mark (fun _ => rfl) hr hnext
  have hord := hs.mark (f := fun r => { r with status := .exited, exitTime := some s.1.now })
    (fun _ => rfl) hr hnext (by simp)
  refine ⟨hev, ⟨hord.unique, hord.status, hord.exitTime, hord.records, ?_, ?_⟩,
    List.subset_cons_self _ _⟩
  · intro t' id' hid'
    rcases List.mem_cons.mp hid' with he | hold
    · cases he
      exact ⟨_, State.getSessionById_marked (fun _ => rfl) hr, rfl⟩
    · exact hord.gone t' id' hold
  · apply hs.once.cons
    rw [get?_eq_none]
    intro d hd he
    obtain ⟨r', hr', hst'⟩ := hs.gone d.1 d.2 hd
    rw [show d.2 = id from he, hr] at hr'
    cases hr'
    exact hne hst'

end

def Needs {β : Type} (op : Op β) (s : State) : Prop :=
  match op with
  | .markExited id => s.Settles id
  | .parkedCars (.set _ car _) => car.status = .paid → s.Settles car.pmsSessionId
  | _ => True

theorem needs_quiet {β : Type} {op : Op β} (hq : Quiet op) (s : State) : Needs op s := by
  cases op with
  | markExited id => exact hq.elim
  | parkedCars op =>
      cases op with
      | set => exact hq.elim
      | _ => trivial
  | _ => trivial

theorem advances_exec {s : State × Departures} {β : Type} (op : Op β) (hs : Orderly s)
    (hp : inOrder t op s.1 = true) (hn : Needs op s.1) : Advances s (afterCall isIsoFormat t op s) := by
  cases op with
  | createSession id lotId plate entryTime =>
      unfold afterCall
      simp only [State.exec, departures]
      cases hc : s.1.createSession isIsoFormat id lotId plate entryTime with
      | ok s' => exact .create hs hc
      | error e => exact .refl hs
  | markPaid id =>
      unfold afterCall
      simp only [State.exec, departures]
      cases hm : s.1.markPaid id with
      | ok s' => exact (Advances.markPaid hs hp hm).1
      | error e => exact .refl hs
  | markExited id =>
      unfold afterCall
      simp only [State.exec]
      cases hm : s.1.markExited id with
      | ok s' => exact .markExited hs hp hn hm
      | error e => exact .refl hs
  | insertPaymentRequest row =>
      unfold afterCall
      simp only [State.exec, departures]
      cases hi : s.1.insertPaymentRequest (row t) with
      | error e => exact .refl hs
      | ok s' =>
          unfold State.insertPaymentRequest at hi
          split_ifs at hi
          cases hi
          exact .of_sessions hs rfl fun _ _ h => .inl h
  | parkedCars op =>
      cases op with
      | set key car ex =>
          apply Advances.of_sessions hs
          · rfl
          · intro key' e he
            rcases Cache.update_eq_some he with ⟨-, rfl⟩ | ⟨-, hold⟩
            · exact .inr hn
            · exact .inl hold
      | delete key => exact .of_sessions hs rfl fun _ _ h => .inl (update_none_eq_some h)
      | get key => exact .refl hs
      | ttl key => exact .refl hs
  | _ => exact .of_sessions hs rfl fun _ _ h => .inl h

theorem advances_environment {s : State × Departures} (x : Env) (hs : Orderly s) :
    Advances s (s.1.environment x, s.2) := by
  have hf := fades_environment x s.1
  exact .of_sessions hs hf.sessions fun key e h => .inl (hf.parkedCars key e h)

/-! ## Assertions -/

theorem stable_of_advances {P : State × Departures → Prop}
    (h : ∀ s s', Advances s s' → P s → P s') : lifecycle.Stable t P := by
  intro s s' hi hs
  rcases hi.2.2 with ⟨t', -, ha⟩ | ha
  · exact h s s' ha hs
  · exact h s s' (ha hi.1) hs

theorem stable_settles (id : String) : lifecycle.Stable t fun s => s.1.Settles id :=
  stable_of_advances fun _ _ h hs => h.evolves.settles hs

theorem stable_departed (id : String) : lifecycle.Stable t fun s => (t, id) ∈ s.2 :=
  stable_of_advances fun _ _ h hs => h.departures hs

abbrev Keeping (isIsoFormat : String → Bool) (t : Tid) (P : State × Departures → Prop)
    (p : Service α) (Q : Except PyError α → State × Departures → Prop) : Prop :=
  (departing isIsoFormat).Triple orderPolicy.withHistory lifecycle t P p Q

theorem keeping_call (op : Op α) {P : State × Departures → Prop}
    {Q : Except PyError α → State × Departures → Prop} (hP : lifecycle.Stable t P)
    (hn : ∀ s, P s → Needs op s.1)
    (h : ∀ s, P s → Orderly s → inOrder t op s.1 = true → P (afterCall isIsoFormat t op s) →
      Q (s.1.exec isIsoFormat t op).1 (afterCall isIsoFormat t op s))
    (he : ∀ e s, P s → Q (.error e) s) : Keeping isIsoFormat t P (call op) Q := by
  apply Triple.perform hP
  intro s m r s' hs hi hp ho
  have hadv : Advances s (afterCall isIsoFormat t op s) := advances_exec op hi hp (hn s hs)
  have hP' : P (afterCall isIsoFormat t op s) := hP _ _ ⟨hi, hadv.orderly, .inr fun _ => hadv⟩ hs
  obtain ⟨s₁, g₁⟩ := s'
  rcases history_cases ho with ⟨-, hex, hg⟩ | ⟨e, -, rfl, hex, hg⟩ | ⟨e, r₀, -, rfl, hex, hg⟩
  · have hex : s.1.exec isIsoFormat t op = (r, s₁) := Option.some.inj hex
    have hs' : (s₁, g₁) = afterCall isIsoFormat t op s := by simp [afterCall, hex, hg]
    have hr : r = (s.1.exec isIsoFormat t op).1 := by rw [hex]
    rw [hs', hr]
    exact ⟨hadv, h s hs hi hp hP'⟩
  · have hs' : (s₁, g₁) = s := by simp [hex, hg]
    rw [hs']
    exact ⟨.refl hi, he e s hs⟩
  · have hex : s.1.exec isIsoFormat t op = (r₀, s₁) := Option.some.inj hex
    have hs' : (s₁, g₁) = afterCall isIsoFormat t op s := by simp [afterCall, hex, hg]
    rw [hs']
    exact ⟨hadv, he e _ hP'⟩

/-- A call of which nothing has to be known. -/
theorem keeping_easy (op : Op α) {P : State × Departures → Prop} (hP : lifecycle.Stable t P)
    (hn : ∀ s, Needs op s) : Keeping isIsoFormat t P (call op) (fun _ => P) :=
  keeping_call _ hP (fun s _ => hn s.1) (fun _ _ _ _ h => h) fun _ _ h => h

theorem keeping_bestEffort {op : Op Unit} {P : State × Departures → Prop}
    (hP : lifecycle.Stable t P) (hn : ∀ s, Needs op s) :
    Keeping isIsoFormat t P (bestEffort op) (fun _ => P) := by
  apply Triple.seq
  · exact Triple.attempt (keeping_easy _ hP hn)
  · exact fun _ _ hs => hs
  · exact fun _ => .done fun _ hs => hs

/-! ## Entry -/

theorem notifyEntry_keeping (id : String) (c : HandleLprEntryCommand) :
    Keeping isIsoFormat t (fun _ => True) (HandleLprEntryService.notifyEntry id c)
      (fun _ _ => True) :=
  .calls_of (notifyEntry_quiet id c) fun op hq =>
    keeping_easy op (.const True) fun _ => needs_quiet hq _

/-- The record of a new session does not say `paid`. -/
theorem entry_keeping (c : HandleLprEntryCommand) :
    Keeping isIsoFormat t (fun _ => True) (HandleLprEntryService.execute c) (fun _ _ => True) := by
  have htrue : lifecycle.Stable t fun _ => True := .const True
  apply Triple.seq
  · exact keeping_bestEffort htrue fun _ => trivial
  · exact fun _ _ hs => hs
  intro _
  apply Triple.seq
  · exact keeping_easy _ htrue fun _ => trivial
  · exact fun _ _ hs => hs
  intro existing
  cases existing with
  | some existing => exact .done fun _ hs => hs
  | none =>
      apply Triple.seq
      · exact keeping_easy _ htrue fun _ => trivial
      · exact fun _ _ hs => hs
      intro n
      apply Triple.seq
      · exact keeping_easy _ htrue fun _ => trivial
      · exact fun _ _ hs => hs
      intro _
      apply Triple.seq
      · apply keeping_easy (.parkedCars (.set _ _ _)) htrue
        intro s hpaid
        cases hpaid
      · exact fun _ _ hs => hs
      intro _
      apply Triple.seq
      · exact notifyEntry_keeping _ _
      · exact fun _ _ hs => hs
      · exact fun _ => .done fun _ hs => hs

/-! ## Payment -/

section
variable {signed : Bool} {c : RecordPaymentCompleteCommand}

theorem updateStatus_keeping (ht : t.request = .paymentComplete signed c) (lotId plate : String) :
    Keeping isIsoFormat t (fun s => s.1.Settles c.pmsSessionId)
      (RedisParkingSessionStore.updateStatus lotId plate .paid) (fun _ _ => True) := by
  let key := RedisParkingSessionStore.key lotId plate
  apply Triple.bind (M := fun payload s => ∀ car, payload = some car →
    s.1.Settles car.pmsSessionId)
  · apply keeping_call (.parkedCars (.get key)) (stable_settles _)
    · exact fun _ _ => trivial
    · intro s hs _ hp _ car hcar
      have hcar : s.1.seen key = some car := hcar
      simp only [inOrder, ht] at hp
      have hown := (Option.all_eq_true ..).mp hp car hcar
      rcases (Bool.or_eq_true _ _).mp hown with hid | hsettled
      · rw [of_decide_eq_true hid]
        exact hs
      · exact State.settles_of_settled hsettled
    · exact fun _ _ _ => trivial
  intro payload
  cases payload with
  | none => exact .done fun _ _ => trivial
  | some car =>
      have hcar := stable_settles (t := t) car.pmsSessionId
      apply Triple.bind (M := fun _ s => s.1.Settles car.pmsSessionId)
      · apply Triple.conseq (P := fun s => s.1.Settles car.pmsSessionId) _
          (fun _ hs => hs car rfl) (fun _ _ h => h)
        apply keeping_call (.parkedCars (.ttl key)) hcar
        · exact fun _ _ => trivial
        · exact fun _ _ _ _ hs => hs
        · exact fun _ _ _ => trivial
      intro ttl
      apply keeping_call (.parkedCars (.set _ _ _)) hcar
      · exact fun _ hs _ => hs
      · exact fun _ _ _ _ _ => trivial
      · exact fun _ _ _ => trivial

theorem markSession_keeping (ht : t.request = .paymentComplete signed c) :
    Keeping isIsoFormat t (fun _ => True)
      (RecordPaymentCompleteService.markSession c.pmsSessionId) (fun _ _ => True) := by
  apply Triple.seq
  · exact keeping_easy _ (.const True) fun _ => trivial
  · exact fun _ _ hs => hs
  intro session
  apply Triple.bind (M := fun _ s => s.1.Settles c.pmsSessionId)
  · apply keeping_call _ (.const True)
    · exact fun _ _ => trivial
    · intro s _ hs hp _
      unfold afterCall
      simp only [State.exec]
      cases hm : s.1.markPaid c.pmsSessionId with
      | ok s' => exact (Advances.markPaid hs hp hm).2
      | error e => exact trivial
    · exact fun _ _ _ => trivial
  intro _
  cases session with
  | none => exact .done fun _ _ => trivial
  | some session => exact updateStatus_keeping ht _ _

theorem payment_keeping (ht : t.request = .paymentComplete signed c) :
    Keeping isIsoFormat t (fun _ => True) (RecordPaymentCompleteService.route signed c)
      (fun _ _ => True) := by
  have htrue : lifecycle.Stable t fun _ => True := .const True
  unfold RecordPaymentCompleteService.route
  split
  · exact .done fun _ hs => hs
  apply Triple.seq
  · exact keeping_easy _ htrue fun _ => trivial
  · exact fun _ _ hs => hs
  intro existing
  cases existing with
  | some existing => exact .done fun _ hs => hs
  | none =>
      apply Triple.seq
      · apply Triple.seq
        · exact keeping_easy _ htrue fun _ => trivial
        · exact fun _ _ hs => hs
        · intro existing
          cases existing with
          | some existing => exact .done fun _ hs => hs
          | none =>
              apply Triple.seq
              · exact keeping_easy .now htrue fun _ => trivial
              · exact fun _ _ hs => hs
              · exact fun _ => keeping_easy _ htrue fun _ => trivial
      · exact fun _ _ hs => hs
      intro _
      apply Triple.seq
      · exact ignoreLookupError_triple (markSession_keeping ht)
      · exact fun _ _ hs => hs
      intro _
      apply Triple.seq
      · exact keeping_bestEffort htrue fun _ => trivial
      · exact fun _ _ hs => hs
      · exact fun _ => .done fun _ hs => hs

end

/-! ## Exit -/

/-- Whoever is answered that the gate opened has marked the session. -/
def Departed (t : Tid) (r : Except PyError HandleLprExitResult) (s : State × Departures) : Prop :=
  ∀ id, r = .ok ⟨.opened, some id⟩ → (t, id) ∈ s.2

theorem openAndExit_keeping (c : HandleLprExitCommand) (id : String) (fromRedis : Bool) :
    Keeping isIsoFormat t (fun s => s.1.Settles id)
      (HandleLprExitService.openAndExit id c fromRedis) (Departed t) := by
  have hsettles := stable_settles (t := t) id
  have herror : ∀ e s, Departed t (.error e) s := by
    intro e s id' h
    cases h
  have hexit : Keeping isIsoFormat t (fun s => s.1.Settles id)
      (do call (.markExited id); return (⟨.opened, some id⟩ : HandleLprExitResult))
      (Departed t) := by
    apply Triple.bind (M := fun _ s => (t, id) ∈ s.2)
    · apply keeping_call _ hsettles
      · exact fun _ hs => hs
      · intro s hs _ _ _
        obtain ⟨r, hr, -⟩ := hs
        unfold afterCall
        simp only [State.exec, State.markExited, hr]
        exact List.mem_cons_self
      · exact fun e s _ => herror e s
    · intro _
      apply Triple.done
      intro s hs id' h
      cases h
      exact hs
  apply Triple.seq
  · exact keeping_bestEffort hsettles fun _ => trivial
  · exact fun e s _ => herror e s
  intro _
  cases fromRedis with
  | false => exact hexit
  | true =>
      apply Triple.seq
      · exact keeping_easy (.parkedCars (.delete _)) hsettles fun _ => trivial
      · exact fun e s _ => herror e s
      · exact fun _ => hexit

theorem exit_keeping (c : HandleLprExitCommand) :
    Keeping isIsoFormat t (fun _ => True) (HandleLprExitService.execute c) (Departed t) := by
  have herror : ∀ e s, Departed t (.error e) s := by
    intro e s id' h
    cases h
  apply Triple.bind (M := fun cached s => ∀ car, cached = some car → car.status = .paid →
    s.1.Settles car.pmsSessionId)
  · apply keeping_call (.parkedCars (.get (RedisParkingSessionStore.key c.lotId c.plate)))
      (.const True)
    · exact fun _ _ => trivial
    · intro s _ hs _ _ car hcar hpaid
      obtain ⟨e, he, rfl⟩ := State.seen_eq_some hcar
      exact hs.records _ e he hpaid
    · exact fun e s _ => herror e s
  intro cached
  cases cached with
  | some car =>
      dsimp only
      split
      · rename_i hpaid
        apply Triple.conseq (openAndExit_keeping c car.pmsSessionId true) _ (fun _ _ h => h)
        exact fun s hs => hs car rfl hpaid
      · apply Triple.done
        intro s _ id h
        cases h
  | none =>
      apply Triple.bind (M := fun session s => ∀ r, session = some r →
        s.1.Settles r.pmsSessionId)
      · apply Triple.conseq (P := fun _ => True) _ (fun _ _ => trivial) (fun _ _ h => h)
        apply keeping_call (.getPaidSessionByLotAndPlate c.lotId c.plate) (.const True)
        · exact fun _ _ => trivial
        · intro s _ hs _ _ r hr
          have hfound := List.find?_some hr
          simp only [Bool.and_eq_true, decide_eq_true_eq] at hfound
          have hmem := List.mem_of_find?_eq_some hr
          exact ⟨r, hs.unique.get?_of_mem hmem, .inl hfound.2⟩
        · exact fun e s _ => herror e s
      intro session
      cases session with
      | some r =>
          apply Triple.conseq (openAndExit_keeping c r.pmsSessionId false) _ (fun _ _ h => h)
          exact fun s hs => hs r rfl
      | none =>
          apply Triple.done
          intro s _ id h
          cases h

/-! ## Runs -/

/-- An execution that was answered that the gate opened has marked the session. -/
def leaving : Outline PyError Reply (State × Departures) Tid where
  idle _ _ := True
  ended t r s := ∀ id, r = .ok (.exit ⟨.opened, some id⟩) → (t, id) ∈ s.2
  stopped _ _ := True

theorem program_keeping (isIsoFormat : String → Bool) (t : Tid) :
    Keeping isIsoFormat t (fun _ => True) (program t.request) (leaving.ended t) := by
  cases ht : t.request with
  | preRegister c =>
      apply Triple.map
      have hsave : Keeping isIsoFormat t (fun _ => True) (RegisterPreNotifyService.execute c)
          (fun _ _ => True) := keeping_easy _ (.const True) fun _ => trivial
      apply Triple.conseq hsave (fun _ h => h)
      intro r s _ id h
      cases r <;> cases h
  | lprEntry c =>
      apply Triple.map
      apply Triple.conseq (entry_keeping c) (fun _ h => h)
      intro r s _ id h
      cases r <;> cases h
  | paymentComplete signed c =>
      apply Triple.map
      apply Triple.conseq (payment_keeping ht) (fun _ h => h)
      intro r s _ id h
      cases r <;> cases h
  | lprExit c =>
      apply Triple.map
      apply Triple.conseq (exit_keeping c) (fun _ h => h)
      intro r s hs id h
      cases r with
      | ok a =>
          cases h
          exact hs id rfl
      | error e => cases h

theorem orderly_vacant {s : State} (hv : s.Vacant) : Orderly (s, []) := by
  obtain ⟨hsessions, -, hcars, -⟩ := hv
  refine ⟨?_, ?_, ?_, ?_, ?_, List.nodup_nil⟩
  · show UniqueBy _ s.sessions
    rw [hsessions]
    exact List.nodup_nil
  · simp [hsessions]
  · simp [hsessions]
  · simp [hcars]
  · simp

theorem lifecycle_meets (isIsoFormat : String → Bool) :
    (departing isIsoFormat).Meets orderPolicy.withHistory lifecycle
      (fun s => s.1.Vacant ∧ s.2 = []) leaving where
  init s hs := by
    obtain ⟨s, g⟩ := s
    obtain ⟨hv, rfl⟩ := hs
    exact ⟨orderly_vacant hv, fun _ => trivial⟩
  moves s s' hi hm := by
    rcases hm with ⟨t, ha⟩ | ha
    · exact ha.orderly
    · exact (ha hi).orderly
  idle_stable _ := .const True
  ended_stable t r s s' hi hs := fun id h => stable_departed id s s' hi (hs id h)
  stopped_stable _ := .const True
  start x s t p s' hi hb _ _ := by
    have hb : some (x, program x.request, s) = some (t, p, s') := hb
    cases hb
    exact ⟨.refl, fun _ => program_keeping isIsoFormat x s trivial⟩
  crash _ _ _ := trivial
  environment x s s' hx _ := by
    have hx : some (s.1.environment x, s.2) = some s' := hx
    cases hx
    exact advances_environment x

/-- In such runs every event leaves the sessions with the same status or the next
one, a session has an exit time exactly when it has left, and no two executions
let the same session out. -/
theorem session_lifecycle (isIsoFormat : String → Bool) {c : Config Op PyError Reply State Tid}
    (hc : (pms isIsoFormat).Reachable orderPolicy State.Vacant c) :
    (∀ l c', Permits orderPolicy l c → (pms isIsoFormat).advance l c = some c' →
      Evolves c.state c'.state) ∧
    (∀ r ∈ c.state.sessions, r.exitTime.isSome = true ↔ r.status = .exited) ∧
    ∀ t t' id, c.pool t = .ended (.ok (.exit ⟨.opened, some id⟩)) →
      c.pool t' = .ended (.ok (.exit ⟨.opened, some id⟩)) → t = t' := by
  obtain ⟨g, hg⟩ := Reachable.withHistory departures hc []
  have hM := lifecycle_meets isIsoFormat
  obtain ⟨hi, hA⟩ := hM.sound hg
  refine ⟨?_, hi.exitTime, ?_⟩
  · intro l c' hp ha
    obtain ⟨g', ha'⟩ := advance_withHistory departures ha g
    have hstep := hM.step hg hi hA (permits_withHistory hp g) ha'
    rcases hstep.1 with (⟨t, hadv⟩ | hadv) | hsame
    · exact hadv.evolves
    · exact (hadv hi).evolves
    · have hstate : c'.state = c.state := congrArg Prod.fst hsame
      exact .of_eq (congrArg State.sessions hstate)
  · intro t t' id ht ht'
    have hended : ∀ t, c.pool t = .ended (.ok (.exit ⟨.opened, some id⟩)) → (t, id) ∈ g := by
      intro t ht
      have h := hA t
      rw [show (c.withHistory g).pool t = _ from ht] at h
      exact h id rfl
    exact congrArg Prod.fst (List.inj_on_of_nodup_map hi.once (hended t ht) (hended t' ht') rfl)

/-! ## One car -/

namespace Lot

/-- The `n`-th time the car is seen at the exit. -/
def departure (n : Nat) : Tid := ⟨n, .lprExit ⟨"LOT_GN_01", "12GA3456"⟩⟩

/-- The car comes in, pays and leaves. -/
def visit : List (Label PyError Tid Tid Env) :=
  .start entry :: System.answers entry 6 ++
    .start (payment 1 "key-0") :: System.answers (payment 1 "key-0") 10 ++
    .start (departure 2) :: System.answers (departure 2) 4

def again : List (Label PyError Tid Tid Env) :=
  .start (payment 3 "key-1") :: System.answers (payment 3 "key-1") 8 ++
    .start (departure 4) :: System.answers (departure 4) 4

def letOut (n : Nat) (c : Config Op PyError Reply State Tid) : Bool :=
  (c.pool (departure n)).result? = some (.ok (.exit ⟨.opened, some "pms-sess-0"⟩))

end Lot

theorem session_lifecycle_lot : ∃ c, (pms fun _ => true).Reachable orderPolicy State.Vacant c ∧
    c.pool (Lot.departure 2) = .ended (.ok (.exit ⟨.opened, some "pms-sess-0"⟩)) ∧
    (∀ l c', Permits orderPolicy l c → (pms fun _ => true).advance l c = some c' →
      Evolves c.state c'.state) ∧
    (∀ r ∈ c.state.sessions, r.exitTime.isSome = true ↔ r.status = .exited) ∧
    ∀ t t' id, c.pool t = .ended (.ok (.exit ⟨.opened, some id⟩)) →
      c.pool t' = .ended (.ok (.exit ⟨.opened, some id⟩)) → t = t' := by
  have hrun : ((pms fun _ => true).run orderPolicy Lot.visit (boot emptyLot)).any (Lot.letOut 2) =
      true := by
    decide +kernel
  obtain ⟨c, hc, hout⟩ := (pms fun _ => true).exists_of_run hrun emptyLot_vacant
  exact ⟨c, hc, Thread.result?_eq_some.mp (of_decide_eq_true hout), session_lifecycle _ hc⟩

/-- A second notification makes the session of a car that has left paid again,
and the gate opens for it again. -/
theorem session_let_out_twice : ¬∀ isIsoFormat (c : Config Op PyError Reply State Tid),
    (pms isIsoFormat).Reachable .any State.Vacant c →
    (∀ l c', Permits .any l c → (pms isIsoFormat).advance l c = some c' →
      Evolves c.state c'.state) ∧
    (∀ r ∈ c.state.sessions, r.exitTime.isSome = true ↔ r.status = .exited) ∧
    ∀ t t' id, c.pool t = .ended (.ok (.exit ⟨.opened, some id⟩)) →
      c.pool t' = .ended (.ok (.exit ⟨.opened, some id⟩)) → t = t' := by
  intro h
  have hrun : ((pms fun _ => true).run .any (Lot.visit ++ Lot.again) (boot emptyLot)).any
      (fun c => Lot.letOut 2 c && Lot.letOut 4 c) = true := by
    decide +kernel
  obtain ⟨c, hc, hout⟩ := (pms fun _ => true).exists_of_run hrun emptyLot_vacant
  obtain ⟨hfirst, hsecond⟩ := (Bool.and_eq_true ..).mp hout
  have hfirst := Thread.result?_eq_some.mp (of_decide_eq_true hfirst)
  have hsecond := Thread.result?_eq_some.mp (of_decide_eq_true hsecond)
  have he := (h _ c hc).2.2 _ _ _ hfirst hsecond
  cases he

end CarPayIn.Pms
