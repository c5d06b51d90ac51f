import CarPayIn.Pms.ParkedCars
import CarPayIn.Process.Rules

/-! # Recording a payment

A notification is recorded in three commits: the payment request, the session's
status and the Redis record. A repeated notification is answered from the first
alone, so it tells the truth exactly when the execution that made the first
commit has made the other two.
-/

namespace CarPayIn.Pms

open Process Process.System Store Pms.Service

variable {isIsoFormat : String → Bool} {t : Tid} {s s' : State} {id : String}

/-! ## Interrupted runs -/

def isLookupError : PyError → Bool
  | .lookupError _ | .keyError _ => true
  | _ => false

/-- A call that fails raises an error of its driver. -/
def driverError : Mode PyError → Bool
  | .answered => true
  | .refused e | .lost e => !isLookupError e

def sameNotification (t : Tid) {β : Type} (op : Op β) (s : State) : Bool :=
  match t.request, op with
  | .paymentComplete _ c, .getByIdempotencyKey key =>
      s.paymentRequests.all fun p => p.idempotencyKey ≠ key || p.pmsSessionId = c.pmsSessionId
  | _, _ => true

/-- Any execution may stop at any call and any call may fail; notifications may
be repeated. `allow` judges every call in the state it is made in. -/
def retryPolicy (allow : ∀ {β : Type}, Op β → State → Bool) :
    Policy Op PyError State Tid Tid Env where
  start _ _ := True
  call t _ op m s := (driverError m && sameNotification t op s && allow op s) = true
  crash _ _ := True
  environment _ _ := True

instance (allow : ∀ {β : Type}, Op β → State → Bool) : (retryPolicy allow).Computable where
  start _ _ := .isTrue trivial
  call _ _ _ _ _ := inferInstanceAs (Decidable (_ = true))
  crash _ _ := .isTrue trivial
  environment _ _ := .isTrue trivial

/-- A lookup finds no payment request of an execution that is not yet at the
barrier, and an entry saves its record while its session is active. -/
def uninterrupted {β : Type} (op : Op β) (s : State) : Bool :=
  match op with
  | .getByIdempotencyKey key =>
      s.paymentRequests.all fun p => p.idempotencyKey ≠ key || p.insertedBy ∉ s.committing
  | .parkedCars (.set _ car _) =>
      car.status = .paid || (s.getSessionById car.pmsSessionId).any fun r => r.status = .active
  | _ => true

abbrev recordingPolicy : Policy Op PyError State Tid Tid Env := retryPolicy uninterrupted

/-! ## What a recorded payment leaves behind -/

namespace State

def Settled (status : SessionStatus) : Prop := status = .paid ∨ status = .exited

/-- The session is settled, and its record, if it still names the session, says `paid`. -/
def Marked (s : State) (id : String) : Prop :=
  ∃ r, s.getSessionById id = some r ∧ Settled r.status ∧
    ∀ car, s.seen (RedisParkingSessionStore.key r.lotId r.plate) = some car →
      car.pmsSessionId = id → car.status = .paid

/-- Every finished recording has left its session marked. -/
structure Recorded (s : State) : Prop where
  success : ∀ p ∈ s.paymentRequests, p.status = .success
  marked : ∀ p ∈ s.paymentRequests, p.insertedBy ∉ s.committing → s.Marked p.pmsSessionId

end State

/-! ## What a step leaves alone -/

/-- A session as it may look later. -/
structure Follows (r r' : PMSParkingSession) : Prop where
  lotId : r'.lotId = r.lotId
  plate : r'.plate = r.plate
  settled : State.Settled r.status → State.Settled r'.status

/-- Sessions stay at their place and settled, and a record that does not say
`paid` is old or of an active session. -/
structure Keeps (s s' : State) : Prop where
  sessions : ∀ id r, s.getSessionById id = some r →
    ∃ r', s'.getSessionById id = some r' ∧ Follows r r'
  records : ∀ key car, s'.seen key = some car → car.status ≠ .paid →
    s.seen key = some car ∨ ∃ r, s.getSessionById car.pmsSessionId = some r ∧ r.status = .active

theorem Follows.refl (r : PMSParkingSession) : Follows r r := ⟨rfl, rfl, id⟩

theorem Keeps.of_eq (hs : s'.sessions = s.sessions) (hr : ∀ key car, s'.seen key = some car →
    car.status ≠ .paid → s.seen key = some car) : Keeps s s' where
  sessions id r h := ⟨r, by simpa only [State.getSessionById, hs] using h, .refl r⟩
  records key car h hne := .inl (hr key car h hne)

theorem Keeps.refl (s : State) : Keeps s s := .of_eq rfl fun _ _ h _ => h

theorem Keeps.marked (h : Keeps s s') (hm : s.Marked id) : s'.Marked id := by
  obtain ⟨r, hr, hst, hrec⟩ := hm
  obtain ⟨r', hr', hf⟩ := h.sessions id r hr
  refine ⟨r', hr', hf.settled hst, fun car hcar hid => ?_⟩
  by_contra hne
  rw [hf.lotId, hf.plate] at hcar
  rcases h.records _ car hcar hne with hold | ⟨r₀, hr₀, hactive⟩
  · exact hne (hrec car hold hid)
  · rw [hid, hr] at hr₀
    cases hr₀
    rcases hst with hst | hst <;> simp [hactive] at hst

/-! ## The contract -/

structure Step (t : Tid) (s s' : State) : Prop where
  keeps : Keeps s s'
  paymentRequests : ∀ p ∈ s'.paymentRequests, p ∈ s.paymentRequests ∨
    p.insertedBy = t ∧ p.status = .success ∧ t ∈ s'.committing
  committing : ∀ t', t' ≠ t → (t' ∈ s'.committing ↔ t' ∈ s.committing)
  finished : t ∉ s'.committing → ∀ p ∈ s'.paymentRequests, p.insertedBy = t →
    s'.Marked p.pmsSessionId

structure Drift (s s' : State) : Prop where
  keeps : Keeps s s'
  paymentRequests : s'.paymentRequests = s.paymentRequests
  committing : s'.committing = s.committing

def contract : Contract State Tid where
  invariant := State.Recorded
  guarantee := Step
  environment := Drift

theorem Step.recorded (h : Step t s s') (hs : s.Recorded) : s'.Recorded := by
  constructor
  · intro p hp
    rcases h.paymentRequests p hp with hold | ⟨-, hst, -⟩
    · exact hs.success p hold
    · exact hst
  · intro p hp hby
    by_cases ht : p.insertedBy = t
    · exact h.finished (ht ▸ hby) p hp ht
    · rcases h.paymentRequests p hp with hold | ⟨hby', -⟩
      · exact h.keeps.marked (hs.marked p hold fun hc => hby ((h.committing _ ht).mpr hc))
      · exact (ht hby').elim

theorem Drift.recorded (h : Drift s s') (hs : s.Recorded) : s'.Recorded := by
  constructor
  · rw [h.paymentRequests]
    exact hs.success
  · rw [h.paymentRequests, h.committing]
    exact fun p hp hby => h.keeps.marked (hs.marked p hp hby)

theorem insertPaymentRequest_step {row : PaymentRequest} (hby : row.insertedBy = t)
    (hst : row.status = .success) (h : s.insertPaymentRequest row = .ok s') :
    Step t s s' ∧ s'.paymentRequests = row :: s.paymentRequests ∧
      (∃ r, s'.getSessionById row.pmsSessionId = some r) := by
  unfold State.insertPaymentRequest at h
  split_ifs at h with _ _ hsession _
  cases h
  refine ⟨⟨.of_eq rfl fun _ _ h _ => h, fun p hp => ?_, fun t' ht => ?_, fun hn => ?_⟩, rfl, ?_⟩
  · rcases List.mem_cons.mp hp with rfl | hp
    · exact .inr ⟨hby, hst, by simp [hby]⟩
    · exact .inl hp
  · simp [hby, ht]
  · exact (hn (by simp [hby])).elim
  · exact Option.ne_none_iff_exists'.mp (by simpa [State.getSessionById] using hsession)

/-! ## Stable assertions -/

theorem Keeps.of_interferes (h : contract.Interferes t s s') : Keeps s s' := by
  rcases h.2.2 with ⟨t', -, h⟩ | h
  · exact h.keeps
  · exact h.keeps

theorem stable_of_keeps {P : State → Prop} (h : ∀ s s', Keeps s s' → P s → P s') :
    contract.Stable t P := fun s s' hi => h s s' (.of_interferes hi)

/-- The execution has recorded nothing, or what it has recorded is finished. -/
def Free (t : Tid) (s : State) : Prop :=
  t ∉ s.committing ∧ ∀ p ∈ s.paymentRequests, p.insertedBy ≠ t

/-- The execution has recorded payments of this session only. -/
def RecordsOnly (t : Tid) (id : String) (s : State) : Prop :=
  ∀ p ∈ s.paymentRequests, p.insertedBy = t → p.pmsSessionId = id

theorem stable_free : contract.Stable t (Free t) := by
  intro s s' hi h
  rcases hi.2.2 with ⟨t', ht, hstep⟩ | hd
  · refine ⟨fun hc => h.1 ((hstep.committing t ht.symm).mp hc), fun p hp hby => ?_⟩
    rcases hstep.paymentRequests p hp with hold | ⟨hby', -⟩
    · exact h.2 p hold hby
    · exact ht (hby'.symm.trans hby)
  · unfold Free
    rw [hd.committing, hd.paymentRequests]
    exact h

theorem stable_recordsOnly : contract.Stable t (RecordsOnly t id) := by
  intro s s' hi h
  rcases hi.2.2 with ⟨t', ht, hstep⟩ | hd
  · intro p hp hby
    rcases hstep.paymentRequests p hp with hold | ⟨hby', -⟩
    · exact h p hold hby
    · exact (ht (hby'.symm.trans hby)).elim
  · unfold RecordsOnly
    rw [hd.paymentRequests]
    exact h

theorem stable_marked : contract.Stable t fun s => s.Marked id :=
  stable_of_keeps fun _ _ h => h.marked

/-! ## Calls -/

/-- Calls that neither begin nor end a recording. -/
def Plain {β : Type} : Op β → Prop
  | .insertPaymentRequest _ | .openExit _ => False
  | _ => True

theorem Drift.refl (s : State) : Drift s s := ⟨.refl s, rfl, rfl⟩

theorem Drift.step (h : Drift s s') (hs : s.Recorded) : Step t s s' where
  keeps := h.keeps
  paymentRequests p hp := .inl (h.paymentRequests ▸ hp)
  committing t' _ := by rw [h.committing]
  finished hn p hp hby := by
    rw [h.paymentRequests] at hp
    rw [h.committing, ← hby] at hn
    exact h.keeps.marked (hs.marked p hp hn)

theorem State.drift_write {x : Except PyError State} (h : ∀ s', x = .ok s' → Drift s s') :
    Drift s (s.write x).2 := by
  cases x with
  | ok s' => exact h s' rfl
  | error e => exact .refl s

theorem drift_createSession {lotId plate entryTime : String}
    (h : s.createSession isIsoFormat id lotId plate entryTime = .ok s') : Drift s s' := by
  unfold State.createSession at h
  split_ifs at h with _ _ hnew _
  cases h
  refine ⟨⟨fun id' r hr => ⟨r, ?_, .refl r⟩, fun _ _ h _ => .inl h⟩, rfl, rfl⟩
  have hne : id ≠ id' := by
    intro he
    subst he
    simp [hr] at hnew
  simp only [State.getSessionById, get?_cons]
  rw [if_neg hne]
  exact hr

theorem State.getSessionById_setSession {f : PMSParkingSession → PMSParkingSession}
    (hid : ∀ r, (f r).pmsSessionId = r.pmsSessionId) (id' : String) :
    (s.setSession id f).getSessionById id' =
      if id' = id then (s.getSessionById id).map f else s.getSessionById id' :=
  get?_modify f hid

theorem drift_setSession (id : String) {f : PMSParkingSession → PMSParkingSession}
    (hid : ∀ r, (f r).pmsSessionId = r.pmsSessionId) (hf : ∀ r, Follows r (f r)) :
    Drift s (s.setSession id f) := by
  refine ⟨⟨fun id' r hr => ?_, fun _ _ h _ => .inl h⟩, rfl, rfl⟩
  rw [State.getSessionById_setSession hid]
  by_cases he : id' = id
  · subst he
    exact ⟨f r, by simp [hr], hf r⟩
  · exact ⟨r, by simpa [he] using hr, .refl r⟩

theorem drift_markPaid (h : s.markPaid id = .ok s') : Drift s s' := by
  unfold State.markPaid at h
  split at h
  · cases h
  · cases h
    exact drift_setSession id (fun _ => rfl) fun r => ⟨rfl, rfl, fun _ => .inl rfl⟩

theorem drift_markExited (h : s.markExited id = .ok s') : Drift s s' := by
  unfold State.markExited at h
  split at h
  · cases h
  · cases h
    exact drift_setSession id (fun _ => rfl) fun r => ⟨rfl, rfl, fun _ => .inr rfl⟩

theorem drift_setRecord {key : String} {car : ParkedCar} {ex : Option Nat}
    (h : car.status = .paid ∨
      ∃ r, s.getSessionById car.pmsSessionId = some r ∧ r.status = .active) :
    Drift s { s with parkedCars := Function.update s.parkedCars key (some ⟨car, ex⟩) } := by
  refine ⟨⟨fun id r hr => ⟨r, hr, .refl r⟩, fun key' car' hcar hne => ?_⟩, rfl, rfl⟩
  by_cases hk : key' = key
  · subst hk
    obtain ⟨e, he, rfl⟩ := State.seen_eq_some hcar
    obtain rfl : ⟨car, ex⟩ = e := by simpa using he
    exact .inr (h.resolve_left hne)
  · refine .inl ?_
    simpa [State.seen, Cache.read, hk] using hcar

theorem drift_unrecorded (hs : s'.sessions = s.sessions)
    (hp : s'.paymentRequests = s.paymentRequests) (hc : s'.committing = s.committing)
    (hn : s.now ≤ s'.now) (hr : ∀ key e, s'.parkedCars key = some e → s.parkedCars key = some e) :
    Drift s s' :=
  ⟨.of_eq hs fun key _ h _ => State.seen_of_later hn (hr key) h, hp, hc⟩

theorem drift_plain {β : Type} (op : Op β) (hop : Plain op) (hu : uninterrupted op s = true) :
    Drift s (s.exec isIsoFormat t op).2 := by
  cases op with
  | insertPaymentRequest | openExit => exact hop.elim
  | createSession => exact State.drift_write fun _ h => drift_createSession h
  | markPaid => exact State.drift_write fun _ h => drift_markPaid h
  | markExited => exact State.drift_write fun _ h => drift_markExited h
  | parkedCars op =>
      cases op with
      | set key car ex =>
          apply drift_setRecord
          rcases (Bool.or_eq_true _ _).mp hu with h | h
          · exact .inl (of_decide_eq_true h)
          · obtain ⟨r, hr, ha⟩ := (Option.any_eq_true ..).mp h
            exact .inr ⟨r, hr, of_decide_eq_true ha⟩
      | delete key => exact drift_unrecorded rfl rfl rfl (Nat.le_refl _) fun _ _ h => update_none_eq_some h
      | _ => exact .refl s
  | _ => exact ⟨.of_eq rfl fun _ _ h _ => h, rfl, rfl⟩

end CarPayIn.Pms
