import CarPayIn.Pms.ExitGate

/-! # Paid cars leave

A record that a read still sees outranks the tables at the exit. It says `paid`
whenever the newest session of its place is paid, as long as no entry writes a
record over that of another place, and without a record the tables find the
paid session themselves.
-/

namespace CarPayIn.Pms

open Process Process.System Store Pms.Service

variable {isIsoFormat : String → Bool} {t : Tid} {P : State → Prop}

namespace State

variable (s : State)

/-- No lot and plate with a record under this key has a paid newest session. -/
def noPaidNewest (key : String) : Bool :=
  s.sessions.all fun r => RedisParkingSessionStore.key r.lotId r.plate ≠ key ||
    (s.newest r.lotId r.plate).all fun r' => r'.status ≠ .paid

def Known (id : String) : Prop := ∃ r, s.getSessionById id = some r

/-- The records that are still seen name sessions, and outside of a stale key
they say `paid` where the newest session is paid. -/
structure Passable (stale : Option String) : Prop where
  unique : UniqueBy PMSParkingSession.pmsSessionId s.sessions
  known : ∀ key car, s.seen key = some car → s.Known car.pmsSessionId
  paid : ∀ lotId plate r car, s.newest lotId plate = some r → r.status = .paid →
    some (RedisParkingSessionStore.key lotId plate) ≠ stale →
    s.seen (RedisParkingSessionStore.key lotId plate) = some car → car.status = .paid

end State

/-- An entry writes no record over that of a paid car. -/
def keyed (t : Tid) {β : Type} (op : Op β) (s : State) : Bool :=
  match t.request, op with
  | .lprEntry _, .parkedCars (.set key _ _) => s.noPaidNewest key
  | _, _ => true

abbrev keyedPolicy : Policy Op PyError State Tid Tid Env := serialPolicy keyed

abbrev Passes (isIsoFormat : String → Bool) (t : Tid) {α : Type} (P : State → Prop) (p : Service α)
    (Q : Except PyError α → State → Prop) : Prop :=
  (pms isIsoFormat).Triple keyedPolicy ((pms isIsoFormat).solo keyedPolicy t) t P p Q

/-! ## What is seen of the records -/

/-- The sessions are the same, and no other record is seen. -/
structure Dims (s s' : State) : Prop where
  sessions : s'.sessions = s.sessions
  seen : ∀ key car, s'.seen key = some car → s.seen key = some car

/-- An assertion that survives the loss and the expiry of records. -/
def Steady (P : State → Prop) : Prop := ∀ s s', Dims s s' → P s → P s'

theorem Dims.of_fades {s s' : State} (hf : Fades s s') (hn : s.now ≤ s'.now) : Dims s s' where
  sessions := hf.sessions
  seen key _ h := State.seen_of_later hn (hf.parkedCars key) h

theorem dims_environment (x : Env) (s : State) : Dims s (s.environment x) := by
  apply Dims.of_fades (fades_environment x s)
  cases x with
  | tick ms => exact Nat.le_add_right s.now ms
  | _ => exact Nat.le_refl s.now

theorem now_quiet {β : Type} {op : Op β} (hq : Quiet op) (s : State) :
    (s.exec isIsoFormat t op).2.now = s.now := by
  cases op with
  | createSession | markPaid | markExited | insertPaymentRequest => exact hq.elim
  | _ => rfl

theorem dims_quiet {β : Type} {op : Op β} (hq : Quiet op) (s : State) :
    Dims s (s.exec isIsoFormat t op).2 := by
  apply Dims.of_fades (fades_quiet hq s)
  exact Nat.le_of_eq (now_quiet hq s).symm

theorem dims_drift {π : Policy Op PyError State Tid Tid Env} {s s' : State}
    (h : (pms isIsoFormat).Drifts π s s') : Dims s s' := by
  obtain ⟨x, -, hx⟩ := h
  cases hx
  exact dims_environment x s

theorem Steady.and {P Q : State → Prop} (hP : Steady P) (hQ : Steady Q) :
    Steady fun s => P s ∧ Q s :=
  fun s s' hd h => ⟨hP s s' hd h.1, hQ s s' hd h.2⟩

theorem steady_of_sessions {p : List PMSParkingSession → Prop} : Steady fun s => p s.sessions := by
  intro s s' hd hs
  rw [hd.sessions]
  exact hs

theorem steady_known (id : String) : Steady fun s => s.Known id :=
  steady_of_sessions (p := fun rows => ∃ r, get? PMSParkingSession.pmsSessionId id rows = some r)

theorem steady_passable (stale : Option String) : Steady fun s => s.Passable stale := by
  intro s s' hd hs
  refine ⟨?_, ?_, ?_⟩
  · rw [hd.sessions]
    exact hs.unique
  · intro key car hcar
    exact steady_known _ s s' hd (hs.known key car (hd.seen key car hcar))
  · intro lotId plate r car hr hst hk hcar
    have hr' : s.newest lotId plate = some r := by
      simpa only [State.newest, hd.sessions] using hr
    exact hs.paid lotId plate r car hr' hst hk (hd.seen _ car hcar)

/-! ## Writes -/

namespace State

variable {s s' : State} {stale : Option String} {lotId plate id key : String}
  {f : PMSParkingSession → PMSParkingSession}

theorem Known.setSession (h : s.Known id) (id' : String)
    (hid : ∀ r, (f r).pmsSessionId = r.pmsSessionId) : (s.setSession id' f).Known id := by
  obtain ⟨r, hr⟩ := h
  have hget : (s.setSession id' f).getSessionById id =
      if id = id' then (s.getSessionById id').map f else s.getSessionById id := get?_modify f hid
  by_cases he : id = id'
  · subst he
    exact ⟨f r, by simp [hget, hr]⟩
  · exact ⟨r, by simp [hget, he, hr]⟩

theorem newest_cons (r : PMSParkingSession) :
    ({ s with sessions := r :: s.sessions } : State).newest lotId plate =
      if r.place = (lotId, plate) then some r else s.newest lotId plate := get?_cons

variable (f) in
theorem newest_setSession (id : String) (hplace : ∀ r, (f r).place = r.place) :
    (s.setSession id f).newest lotId plate =
      (s.newest lotId plate).map fun r => if r.pmsSessionId = id then f r else r :=
  get?_modify_other _ _ hplace

/-- A row found by its place is the row of its id. -/
theorem getSessionById_of_newest {r : PMSParkingSession}
    (h : UniqueBy PMSParkingSession.pmsSessionId s.sessions) (hr : s.newest lotId plate = some r) :
    s.getSessionById r.pmsSessionId = some r := h.get?_of_mem (mem_of_get? hr)

/-- The newest session of the new session's place is active, and a row is only added. -/
theorem Passable.create (h : s.Passable none) {isIsoFormat : String → Bool} {entryTime : String}
    (hc : s.createSession isIsoFormat id lotId plate entryTime = .ok s') :
    s'.Passable none ∧ s'.Known id := by
  unfold createSession at hc
  split_ifs at hc with _ _ hnew _
  cases hc
  have hnone : s.getSessionById id = none := by simpa using hnew
  refine ⟨⟨?_, ?_, ?_⟩, ?_⟩
  · exact h.unique.cons hnone
  · intro key car hcar
    obtain ⟨r, hr⟩ := h.known key car hcar
    have hne : id ≠ car.pmsSessionId := by
      intro he
      rw [he, hr] at hnone
      cases hnone
    refine ⟨r, ?_⟩
    simp only [getSessionById, get?_cons, if_neg hne]
    exact hr
  · intro lotId' plate' r car hr hst hk hcar
    rw [newest_cons] at hr
    split at hr
    · cases hr
      cases hst
    · exact h.paid lotId' plate' r car hr hst hk hcar
  · exact ⟨⟨id, lotId, plate, entryTime, none, .active⟩, by simp [getSessionById, get?_cons]⟩

theorem seen_setRecord {car car' : ParkedCar} {ex : Option Nat} {key' : String}
    (h : ({ s with parkedCars := Function.update s.parkedCars key (some ⟨car, ex⟩) } : State).seen
      key' = some car') : key' = key ∧ car' = car ∨ s.seen key' = some car' := by
  by_cases hk : key' = key
  · subst hk
    obtain ⟨e, he, rfl⟩ := seen_eq_some h
    obtain rfl : ⟨car, ex⟩ = e := by simpa using he
    exact .inl ⟨rfl, rfl⟩
  · refine .inr ?_
    simpa [seen, Cache.read, hk] using h

/-- A record that says `paid` is right everywhere, another one where nobody has paid. -/
theorem Passable.setRecord (h : s.Passable stale) {car : ParkedCar} {ex : Option Nat}
    (hknown : s.Known car.pmsSessionId) (hcar : car.status = .paid ∨ s.noPaidNewest key = true)
    (hk : stale = none ∨ stale = some key) :
    ({ s with parkedCars := Function.update s.parkedCars key (some ⟨car, ex⟩) } : State).Passable
      none := by
  refine ⟨h.unique, ?_, ?_⟩
  · intro key' car' hseen
    rcases seen_setRecord hseen with ⟨-, rfl⟩ | hold
    · exact hknown
    · exact h.known key' car' hold
  · intro lotId plate r car' hr hst _ hseen
    by_cases hkey : RedisParkingSessionStore.key lotId plate = key
    · have hcar' : car' = car := by
        obtain ⟨e, he, rfl⟩ := seen_eq_some hseen
        obtain rfl : ⟨car, ex⟩ = e := by simpa [hkey] using he
        rfl
      rw [hcar']
      rcases hcar with hcar | hno
      · exact hcar
      · have hplace : r.place = (lotId, plate) := col_of_get? hr
        have hlot : r.lotId = lotId := congrArg Prod.fst hplace
        have hplate : r.plate = plate := congrArg Prod.snd hplace
        have hall := List.all_eq_true.mp hno r (mem_of_get? hr)
        simp [hlot, hplate, hkey, show s.newest lotId plate = some r from hr, hst] at hall
    · rcases seen_setRecord hseen with ⟨he, -⟩ | hold
      · exact (hkey he).elim
      · refine h.paid lotId plate r car' hr hst ?_ hold
        rcases hk with rfl | rfl
        · simp
        · simpa using hkey

theorem Passable.setSession (h : s.Passable none) (hid : ∀ r, (f r).pmsSessionId = r.pmsSessionId)
    (hplace : ∀ r, (f r).place = r.place)
    (hst : ∀ lotId plate r, s.newest lotId plate = some r → r.pmsSessionId = id →
      (f r).status = .paid → some (RedisParkingSessionStore.key lotId plate) = stale) :
    (s.setSession id f).Passable stale := by
  refine ⟨h.unique.modify hid, ?_, ?_⟩
  · intro key car hcar
    exact (h.known key car hcar).setSession id hid
  · intro lotId plate r' car hr' hpaid hk hcar
    rw [newest_setSession f id hplace] at hr'
    obtain ⟨r, hr, rfl⟩ := Option.map_eq_some_iff.mp hr'
    split at hpaid
    · rename_i he
      exact (hk (hst lotId plate r hr he hpaid)).elim
    · exact h.paid lotId plate r car hr hpaid (by simp) hcar

theorem Passable.markPaid (h : s.Passable none) {r : PMSParkingSession}
    (hr : s.getSessionById id = some r) :
    (s.setSession id fun r => { r with status := .paid }).Passable
      (some (RedisParkingSessionStore.key r.lotId r.plate)) := by
  apply Passable.setSession h
  · exact fun _ => rfl
  · exact fun _ => rfl
  · intro lotId plate r' hr' he _
    have hget := getSessionById_of_newest h.unique hr'
    rw [he, hr] at hget
    cases hget
    have hplace : r.place = (lotId, plate) := col_of_get? hr'
    cases hplace
    rfl

theorem Passable.markExited (h : s.Passable none) (id : String) (exitTime : Option Nat) :
    (s.setSession id fun r => { r with status := .exited, exitTime := exitTime }).Passable none := by
  apply Passable.setSession h
  · exact fun _ => rfl
  · exact fun _ => rfl
  · intro lotId plate r _ _ hpaid
    cases hpaid

theorem Passable.caughtUp (h : s.Passable (some key)) (hseen : s.seen key = none) :
    s.Passable none := by
  refine ⟨h.unique, h.known, ?_⟩
  intro lotId plate r car hr hst _ hcar
  by_cases hk : RedisParkingSessionStore.key lotId plate = key
  · rw [hk, hseen] at hcar
    cases hcar
  · exact h.paid lotId plate r car hr hst (by simpa using hk) hcar

end State

/-! ## Calls -/

theorem passes_answered {α : Type} (op : Op α) {Q : Except PyError α → State → Prop}
    (hl : logged op = false) (hP : Steady P)
    (h : ∀ s, P s → keyed t op s = true →
      Q (s.exec isIsoFormat t op).1 (s.exec isIsoFormat t op).2) :
    Passes isIsoFormat t P (call op) Q := by
  apply serial_answered op hl _ h
  intro s s' hd hs
  exact hP s s' (dims_drift hd) hs

theorem passes_quiet {α : Type} (op : Op α) (hq : Quiet op) (hP : Steady P) :
    Passes isIsoFormat t P (call op) (fun _ => P) := by
  apply serial_kept
  · intro s s' hd hs
    exact hP s s' (dims_drift hd) hs
  · intro s hs _
    exact hP s _ (dims_quiet hq s) hs

theorem passes_bestEffort_ok (op : Op Unit) (hq : Quiet op) (hP : Steady P) :
    Passes isIsoFormat t P (bestEffort op) (fun r s => r = .ok () ∧ P s) := by
  apply Triple.bind (M := fun _ s => P s)
  · exact Triple.attempt (passes_quiet op hq hP)
  · intro _
    exact .done fun s hs => ⟨rfl, hs⟩

theorem passes_bestEffort (op : Op Unit) (hq : Quiet op) (hP : Steady P) :
    Passes isIsoFormat t P (bestEffort op) (fun _ => P) :=
  Triple.conseq (passes_bestEffort_ok op hq hP) (fun _ hs => hs) fun _ _ hs => hs.2

/-! ## Entry -/

theorem notifyEntry_passes (hP : Steady P) (id : String) (c : HandleLprEntryCommand) :
    Passes isIsoFormat t P (HandleLprEntryService.notifyEntry id c) (fun _ => P) :=
  .calls_of (notifyEntry_quiet id c) fun op hq => passes_quiet op hq hP

theorem entry_passes {c : HandleLprEntryCommand} (ht : t.request = .lprEntry c) :
    Passes isIsoFormat t (fun s => s.Passable none) (HandleLprEntryService.execute c)
      (fun _ s => s.Passable none) := by
  have hsteady := steady_passable none
  apply Triple.seq
  · exact passes_bestEffort _ trivial hsteady
  · exact fun _ _ hs => hs
  intro _
  apply Triple.seq
  · exact passes_quiet _ trivial hsteady
  · exact fun _ _ hs => hs
  intro existing
  cases existing with
  | some existing => exact .done fun _ hs => hs
  | none =>
      apply Triple.seq
      · exact passes_quiet _ trivial hsteady
      · exact fun _ _ hs => hs
      intro n
      let id := "pms-sess-" ++ toString n
      apply Triple.bind (M := fun _ s => s.Passable none ∧ s.Known id)
      · apply passes_answered _ rfl hsteady
        intro s hs _
        simp only [State.exec]
        cases hc : s.createSession isIsoFormat id c.lotId c.plate c.entryTime with
        | error e => exact hs
        | ok s' => exact hs.create hc
      intro _
      apply Triple.bind (M := fun _ s => s.Passable none)
      · apply passes_answered (.parkedCars (.set _ _ _)) rfl (hsteady.and (steady_known id))
        intro s hs hg
        simp only [keyed, ht] at hg
        exact hs.1.setRecord hs.2 (.inr hg) (.inl rfl)
      intro _
      apply Triple.seq
      · exact notifyEntry_passes hsteady _ _
      · exact fun _ _ hs => hs
      · exact fun _ => .done fun _ hs => hs

/-! ## Payment -/

theorem savePaymentRequest_passes (c : RecordPaymentCompleteCommand) :
    Passes isIsoFormat t (fun s => s.Passable none)
      (RecordPaymentCompleteService.savePaymentRequest c) (fun _ s => s.Passable none) := by
  have hsteady := steady_passable none
  apply Triple.seq
  · exact passes_quiet _ trivial hsteady
  · exact fun _ _ hs => hs
  intro existing
  cases existing with
  | some _ => exact .done fun _ hs => hs
  | none =>
      apply Triple.seq
      · exact passes_quiet .now trivial hsteady
      · exact fun _ _ hs => hs
      intro completedAt
      apply passes_answered _ rfl hsteady
      intro s hs _
      simp only [State.exec]
      cases hi : s.insertPaymentRequest _ with
      | error e => exact hs
      | ok s' =>
          unfold State.insertPaymentRequest at hi
          split_ifs at hi
          cases hi
          exact ⟨hs.unique, hs.known, hs.paid⟩

theorem updateStatus_passes (lotId plate : String) :
    Passes isIsoFormat t
      (fun s => s.Passable (some (RedisParkingSessionStore.key lotId plate)))
      (RedisParkingSessionStore.updateStatus lotId plate .paid) (fun _ s => s.Passable none) := by
  let key := RedisParkingSessionStore.key lotId plate
  have hsteady := steady_passable (some key)
  apply Triple.bind (M := fun payload s => s.Passable (some key) ∧
    (payload = none → s.seen key = none) ∧ ∀ car, payload = some car → s.Known car.pmsSessionId)
  · apply passes_answered (.parkedCars (.get key)) rfl hsteady
    intro s hs _
    exact ⟨hs, fun hnone => hnone, fun car hcar => hs.known key car hcar⟩
  intro payload
  cases payload with
  | none => exact .done fun _ hs => hs.1.caughtUp (hs.2.1 rfl)
  | some car =>
      have hcar := hsteady.and (steady_known car.pmsSessionId)
      apply Triple.bind (M := fun _ s => s.Passable (some key) ∧ s.Known car.pmsSessionId)
      · apply Triple.conseq (P := fun s => s.Passable (some key) ∧ s.Known car.pmsSessionId) _
          (fun _ hs => ⟨hs.1, hs.2.2 car rfl⟩) (fun _ _ h => h)
        apply passes_answered (.parkedCars (.ttl key)) rfl hcar
        intro s hs _
        exact hs
      intro ttl
      apply passes_answered (.parkedCars (.set _ _ _)) rfl hcar
      intro s hs _
      exact hs.1.setRecord hs.2 (.inl rfl) (.inr rfl)

theorem markSession_passes (id : String) :
    Passes isIsoFormat t (fun s => s.Passable none) (RecordPaymentCompleteService.markSession id)
      (fun _ s => s.Passable none) := by
  have hsteady := steady_passable none
  apply Triple.bind (M := fun session s => s.Passable none ∧ s.getSessionById id = session)
  · apply passes_answered _ rfl hsteady
    intro s hs _
    exact ⟨hs, rfl⟩
  intro session
  have hfound : Steady fun s => s.getSessionById id = session :=
    steady_of_sessions (p := fun rows => get? PMSParkingSession.pmsSessionId id rows = session)
  cases session with
  | none =>
      apply Triple.bind (M := fun _ s => s.Passable none)
      · apply passes_answered _ rfl (hsteady.and hfound)
        intro s hs _
        simp only [State.exec, State.markPaid, hs.2]
        exact hs.1
      · exact fun _ => .done fun _ hs => hs
  | some r =>
      apply Triple.bind (M := fun _ s =>
        s.Passable (some (RedisParkingSessionStore.key r.lotId r.plate)))
      · apply passes_answered _ rfl (hsteady.and hfound)
        intro s hs _
        simp only [State.exec, State.markPaid, hs.2]
        exact hs.1.markPaid hs.2
      · exact fun _ => updateStatus_passes r.lotId r.plate

theorem payment_passes (signed : Bool) (c : RecordPaymentCompleteCommand) :
    Passes isIsoFormat t (fun s => s.Passable none) (RecordPaymentCompleteService.route signed c)
      (fun _ s => s.Passable none) := by
  have hsteady := steady_passable none
  unfold RecordPaymentCompleteService.route
  split
  · exact .done fun _ hs => hs
  apply Triple.seq
  · exact passes_quiet _ trivial hsteady
  · exact fun _ _ hs => hs
  intro existing
  cases existing with
  | some existing => exact .done fun _ hs => hs
  | none =>
      apply Triple.seq
      · exact savePaymentRequest_passes c
      · exact fun _ _ hs => hs
      intro _
      apply Triple.seq
      · exact ignoreLookupError_triple (markSession_passes c.pmsSessionId)
      · exact fun _ _ hs => hs
      intro _
      apply Triple.seq
      · exact passes_bestEffort _ trivial hsteady
      · exact fun _ _ hs => hs
      · exact fun _ => .done fun _ hs => hs

/-! ## Exit -/

section
variable {c : HandleLprExitCommand}

theorem openAndExit_opens (id : String) (fromRedis : Bool) :
    Passes isIsoFormat t (fun s => s.Passable none ∧ s.Known id)
      (HandleLprExitService.openAndExit id c fromRedis)
      (fun r s => s.Passable none ∧ r = .ok ⟨.opened, some id⟩) := by
  have hsteady := (steady_passable none).and (steady_known id)
  have hopened : Passes isIsoFormat t (fun s => s.Passable none ∧ s.Known id)
      (do call (.markExited id); return (⟨.opened, some id⟩ : HandleLprExitResult))
      (fun r s => s.Passable none ∧ r = .ok ⟨.opened, some id⟩) := by
    apply Triple.bind (M := fun _ s => s.Passable none)
    · apply passes_answered _ rfl hsteady
      intro s hs _
      obtain ⟨r, hr⟩ := hs.2
      simp only [State.exec, State.markExited, hr]
      exact hs.1.markExited id (some s.now)
    · exact fun _ => .done fun _ hs => ⟨hs, rfl⟩
  apply Triple.bind (M := fun _ s => s.Passable none ∧ s.Known id)
  · apply Triple.conseq (passes_bestEffort_ok (.openExit id) trivial hsteady) (fun _ hs => hs)
    intro r s hs
    rw [hs.1]
    exact hs.2
  intro _
  cases fromRedis with
  | false => exact hopened
  | true =>
      let delete : Op Unit :=
        .parkedCars (.delete (RedisParkingSessionStore.key c.lotId c.plate))
      have hquiet : Quiet delete := trivial
      apply Triple.bind (M := fun _ s => s.Passable none ∧ s.Known id)
      · apply passes_answered delete rfl hsteady
        intro s hs _
        exact hsteady s _ (dims_quiet hquiet s) hs
      · exact fun _ => hopened

def State.paidHere (s : State) (lotId plate : String) : Bool :=
  (s.newest lotId plate).any fun r => r.status = .paid

theorem State.found_of_paidHere {s : State} {lotId plate : String}
    (h : s.paidHere lotId plate = true) :
    ∃ r, s.getPaidSessionByLotAndPlate lotId plate = some r := by
  obtain ⟨r, hr, hst⟩ := (Option.any_eq_true ..).mp h
  have hplace : r.place = (lotId, plate) := col_of_get? hr
  have hlot : r.lotId = lotId := congrArg Prod.fst hplace
  have hplate : r.plate = plate := congrArg Prod.snd hplace
  have hsome : (s.getPaidSessionByLotAndPlate lotId plate).isSome = true := by
    unfold State.getPaidSessionByLotAndPlate
    rw [List.find?_isSome]
    exact ⟨r, mem_of_get? hr, by simp [hlot, hplate, of_decide_eq_true hst]⟩
  exact Option.isSome_iff_exists.mp hsome

theorem steady_paidHere (lotId plate : String) :
    Steady fun s => s.paidHere lotId plate = true :=
  steady_of_sessions (p := fun rows =>
    ((get? PMSParkingSession.place (lotId, plate) rows).any fun r => r.status = .paid) = true)

/-- Whatever the newest session is, the exit leaves the records passable; where
it is paid, the gate opens. -/
theorem exit_passes (c : HandleLprExitCommand) (paid : Prop) :
    Passes isIsoFormat t
      (fun s => s.Passable none ∧ (paid → s.paidHere c.lotId c.plate = true))
      (HandleLprExitService.execute c)
      (fun r s => s.Passable none ∧ (paid → ∃ id, r = .ok ⟨.opened, some id⟩)) := by
  have hpaid : Steady fun s => paid → s.paidHere c.lotId c.plate = true :=
    fun s s' hd hs hp => steady_paidHere c.lotId c.plate s s' hd (hs hp)
  have hsteady := (steady_passable none).and hpaid
  have hopens : ∀ id fromRedis, Passes isIsoFormat t (fun s => s.Passable none ∧ s.Known id)
      (HandleLprExitService.openAndExit id c fromRedis)
      (fun r s => s.Passable none ∧ (paid → ∃ id, r = .ok ⟨.opened, some id⟩)) := by
    intro id fromRedis
    apply Triple.conseq (openAndExit_opens id fromRedis) (fun _ hs => hs)
    exact fun r s hs => ⟨hs.1, fun _ => ⟨id, hs.2⟩⟩
  apply Triple.bind (M := fun cached s =>
    (s.Passable none ∧ (paid → s.paidHere c.lotId c.plate = true)) ∧
      ∀ car, cached = some car → s.Known car.pmsSessionId ∧ (paid → car.status = .paid))
  · apply passes_answered (.parkedCars (.get (RedisParkingSessionStore.key c.lotId c.plate))) rfl
      hsteady
    intro s hs _
    refine ⟨hs, fun car hcar => ⟨hs.1.known _ car hcar, fun hp => ?_⟩⟩
    obtain ⟨r, hr, hst⟩ := (Option.any_eq_true ..).mp (hs.2 hp)
    exact hs.1.paid c.lotId c.plate r car hr (of_decide_eq_true hst) (by simp) hcar
  intro cached
  cases cached with
  | some car =>
      dsimp only
      split
      · apply Triple.conseq (hopens car.pmsSessionId true) _ (fun _ _ h => h)
        exact fun s hs => ⟨hs.1.1, (hs.2 car rfl).1⟩
      · rename_i hst
        apply Triple.done
        intro s hs
        exact ⟨hs.1.1, fun hp => (hst ((hs.2 car rfl).2 hp)).elim⟩
  | none =>
      apply Triple.bind (M := fun session s => s.Passable none ∧
        (∀ r, session = some r → s.Known r.pmsSessionId) ∧ (paid → session ≠ none))
      · apply Triple.conseq (P := fun s => s.Passable none ∧
          (paid → s.paidHere c.lotId c.plate = true)) _ (fun _ hs => hs.1) (fun _ _ h => h)
        apply passes_answered (.getPaidSessionByLotAndPlate c.lotId c.plate) rfl hsteady
        intro s hs _
        refine ⟨hs.1, fun r hr => ?_, fun hp => ?_⟩
        · exact ⟨r, hs.1.unique.get?_of_mem (List.mem_of_find?_eq_some hr)⟩
        · obtain ⟨r, hr⟩ := State.found_of_paidHere (hs.2 hp)
          exact Option.ne_none_iff_exists'.mpr ⟨r, hr⟩
      intro session
      cases session with
      | some r =>
          apply Triple.conseq (hopens r.pmsSessionId false) _ (fun _ _ h => h)
          exact fun s hs => ⟨hs.1, hs.2.1 r rfl⟩
      | none =>
          apply Triple.done
          intro s hs
          exact ⟨hs.1, fun hp => (hs.2.2 hp rfl).elim⟩

end

/-! ## Runs -/

theorem program_passes (isIsoFormat : String → Bool) (t : Tid) :
    Passes isIsoFormat t (fun s => s.Passable none) (program t.request)
      (fun _ s => s.Passable none) := by
  cases ht : t.request with
  | preRegister c =>
      apply Triple.map
      exact passes_quiet (.preRegistrations (.set _ _ _)) trivial (steady_passable none)
  | lprEntry c => exact .map (entry_passes ht)
  | paymentComplete signed c => exact .map (payment_passes signed c)
  | lprExit c =>
      apply Triple.map
      apply Triple.conseq (exit_passes c False) (fun s hs => ⟨hs, fun h => h.elim⟩)
      exact fun r s hs => hs.1

theorem passable_of_serial {s : State}
    (hs : (pms isIsoFormat).Serial keyedPolicy State.Vacant s) : s.Passable none := by
  apply Serial.keeps (J := fun s => s.Passable none) _ _ _ hs
  · intro s hv
    obtain ⟨hsessions, -, hcars, -⟩ := hv
    have hunseen : ∀ key, s.seen key = none := fun key => by
      simp [State.seen, Cache.read, hcars key]
    refine ⟨?_, ?_, ?_⟩
    · rw [hsessions]
      exact List.nodup_nil
    · simp [hunseen]
    · simp [hunseen]
  · intro s s' hd h
    exact steady_passable none s s' (dims_drift hd) h
  · intro x s t p s₁ _ hb h
    cases hb
    exact program_passes isIsoFormat x s h

/-- In such runs the exit comes to an answer for every lot and plate whose newest
session is paid, and every answer is that the gate opened. -/
theorem paid_car_leaves (isIsoFormat : String → Bool) {s : State} {c : HandleLprExitCommand}
    (n : Nat) (hs : (pms isIsoFormat).Serial keyedPolicy State.Vacant s)
    (hpaid : s.paidHere c.lotId c.plate = true) :
    (∃ r s', (pms isIsoFormat).Finishes keyedPolicy ⟨n, .lprExit c⟩ (program (.lprExit c)) s r s') ∧
      ∀ r s', (pms isIsoFormat).Finishes keyedPolicy ⟨n, .lprExit c⟩ (program (.lprExit c)) s r s' →
        ∃ id, r = .ok (.exit ⟨.opened, some id⟩) := by
  constructor
  · apply exists_finishes
    apply Program.Calls.of_forall
    intro β op s
    have hkeyed : keyed ⟨n, .lprExit c⟩ op s = true := by
      unfold keyed
      split
      · rename_i h
        cases h
      · rfl
    exact ⟨⟨by simp, hkeyed⟩, rfl⟩
  · intro r s' hf
    have hexit : Passes isIsoFormat ⟨n, .lprExit c⟩
        (fun s => s.Passable none ∧ (True → s.paidHere c.lotId c.plate = true))
        (program (.lprExit c)) (fun r _ => ∃ id, r = .ok (.exit ⟨.opened, some id⟩)) := by
      apply Triple.map
      apply Triple.conseq (exit_passes c True) (fun _ hs => hs)
      intro r s hs
      obtain ⟨id, rfl⟩ := hs.2 trivial
      exact ⟨id, rfl⟩
    exact wp_finishes hf (hexit s ⟨passable_of_serial hs, fun _ => hpaid⟩)

/-! ## Two places, one key -/

namespace Lot

def paid : Tid := payment 1 "key-0"

/-- A lot and a plate whose record lies under the key of another lot and plate. -/
def basement : HandleLprExitCommand := ⟨"LOT_GN_01:B1", "12GA3456"⟩

def basementEntry : Tid := ⟨0, .lprEntry ⟨"LOT_GN_01:B1", "12GA3456", "2024-01-01T09:00:00"⟩⟩

def otherEntry : Tid := ⟨2, .lprEntry ⟨"LOT_GN_01", "B1:12GA3456", "2024-01-01T09:30:00"⟩⟩

end Lot

/-- A car has come in and paid. -/
theorem paid_car_leaves_lot : ∃ s, (pms fun _ => true).Serial keyedPolicy State.Vacant s ∧
    s.paidHere Lot.leave.lotId Lot.leave.plate = true ∧
      (∃ r s', (pms fun _ => true).Finishes keyedPolicy ⟨2, .lprExit Lot.leave⟩
        (program (.lprExit Lot.leave)) s r s') ∧
      ∀ r s', (pms fun _ => true).Finishes keyedPolicy ⟨2, .lprExit Lot.leave⟩
        (program (.lprExit Lot.leave)) s r s' → ∃ id, r = .ok (.exit ⟨.opened, some id⟩) := by
  have hrun : ((pms fun _ => true).serve keyedPolicy [.inl Lot.entry, .inl Lot.paid] emptyLot).any
      (fun s => s.paidHere Lot.leave.lotId Lot.leave.plate) = true := by
    decide +kernel
  obtain ⟨s, hs, hpaid⟩ := (Option.any_eq_true ..).mp hrun
  have hserial := serial_of_serve (.boot emptyLot_vacant) hs
  exact ⟨s, hserial, hpaid, paid_car_leaves _ 2 hserial hpaid⟩

/-- A car has paid, then a car comes in whose lot and plate read the same. -/
theorem paid_car_held : ¬∀ isIsoFormat s n (c : HandleLprExitCommand),
    (pms isIsoFormat).Serial (serialPolicy fun _ _ _ _ => true) State.Vacant s →
    s.paidHere c.lotId c.plate = true →
    (∃ r s', (pms isIsoFormat).Finishes (serialPolicy fun _ _ _ _ => true) ⟨n, .lprExit c⟩
      (program (.lprExit c)) s r s') ∧
      ∀ r s', (pms isIsoFormat).Finishes (serialPolicy fun _ _ _ _ => true) ⟨n, .lprExit c⟩
        (program (.lprExit c)) s r s' → ∃ id, r = .ok (.exit ⟨.opened, some id⟩) := by
  intro h
  have hrun : ((pms fun _ => true).serve (serialPolicy fun _ _ _ _ => true)
      [.inl Lot.basementEntry, .inl Lot.paid, .inl Lot.otherEntry] emptyLot).any (fun s =>
        s.paidHere Lot.basement.lotId Lot.basement.plate &&
          ((pms fun _ => true).answer (serialPolicy fun _ _ _ _ => true) ⟨3, .lprExit Lot.basement⟩
            (program (.lprExit Lot.basement)) s).any
              fun o => decide (o.1 = .ok (.exit ⟨.notPaid, none⟩))) = true := by
    decide +kernel
  obtain ⟨s, hs, hrun⟩ := (Option.any_eq_true ..).mp hrun
  obtain ⟨hpaid, hrun⟩ := (Bool.and_eq_true ..).mp hrun
  obtain ⟨⟨r, s'⟩, ha, hr⟩ := (Option.any_eq_true ..).mp hrun
  obtain rfl := of_decide_eq_true hr
  have hserial := serial_of_serve (.boot emptyLot_vacant) hs
  obtain ⟨id, he⟩ := (h _ s 3 Lot.basement hserial hpaid).2 _ s' (finishes_of_answer ha)
  cases he

end CarPayIn.Pms
