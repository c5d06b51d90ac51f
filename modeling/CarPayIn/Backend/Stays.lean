import CarPayIn.Backend.Effects

/-! # The table of parking sessions

One call inserts a session, one commits a change to a session, and no other call
touches the table. So a session that is there stays there, with the car and the
place it was opened for.
-/

namespace CarPayIn

open Store

variable {b b' : Base} {β : Type} {new : Option ParkingSession}
  {commit : Option (Uuid × SessionChange)}

/-! ## Steps -/

def BaseOp.newSession? {β : Type} : BaseOp β → Option ParkingSession
  | .createSession row => some row
  | _ => none

def BaseOp.sessionCommit? {β : Type} : BaseOp β → Option (Uuid × SessionChange)
  | .commitSession id change => some (id, change)
  | _ => none

/-- The constraints of the table let the row in. -/
structure Base.Admits (b : Base) (row : ParkingSession) : Prop where
  id : b.getSessionById row.sessionId = none
  stay : row.status = .active → ∀ r ∈ b.parkingSessions, r.carId = row.carId → r.status ≠ .active
  place : row.pmsSessionId.isSome → ∀ r ∈ b.parkingSessions,
    r.lotId = row.lotId → r.pmsSessionId ≠ row.pmsSessionId

/-- What one step makes of the table, given the row it may insert and the change it may commit. -/
inductive SessionStep (new : Option ParkingSession) (commit : Option (Uuid × SessionChange))
    (b b' : Base) : Prop where
  | kept (hrows : b'.parkingSessions = b.parkingSessions)
  | created (row : ParkingSession) (hnew : new = some row) (hadmits : b.Admits row)
      (hrows : b'.parkingSessions = row :: b.parkingSessions)
  | committed (id : Uuid) (change : SessionChange) (hcommit : commit = some (id, change))
      (hrows : b'.parkingSessions =
        modify ParkingSession.sessionId id change.apply b.parkingSessions)

theorem Base.createSession_step {row : ParkingSession} (h : b.createSession row = .ok b') :
    SessionStep (some row) none b b' := by
  unfold createSession at h
  split_ifs at h with _ hid hcar hplace
  cases h
  refine .created row rfl ⟨?_, fun hactive r hr hsame hstatus => hcar ⟨hactive, ?_⟩,
    fun hsome r hr hlot hpms => hplace ⟨hsome, ?_⟩⟩ rfl
  · simpa [getSessionById] using hid
  · exact List.any_eq_true.mpr ⟨r, hr, by simp [hsame, hstatus]⟩
  · exact List.any_eq_true.mpr ⟨r, hr, by simp [hlot, hpms]⟩

theorem Base.commitSession_step {id : Uuid} {change : SessionChange}
    (h : b.commitSession id change = .ok b') : SessionStep none (some (id, change)) b b' := by
  unfold commitSession at h
  split at h
  · cases h
    exact .kept rfl
  · split at h
    · cases h
    · cases h
      exact .committed id change rfl rfl

/-- A call steps by the row it inserts and the change it commits. -/
theorem Base.exec_session (op : BaseOp β) (b : Base) :
    SessionStep op.newSession? op.sessionCommit? b (b.exec op).2 := by
  have hwrite : ∀ x : Except PyError Base,
      (∀ b', x = .ok b' → SessionStep op.newSession? op.sessionCommit? b b') →
        SessionStep op.newSession? op.sessionCommit? b (b.write x).2 := by
    intro x hx
    cases x with
    | ok b' => exact hx b' rfl
    | error e => exact .kept rfl
  by_cases hother : op.effect ≠ .newSession ∧ op.effect ≠ .sessionStatus
  · exact .kept ((Base.exec_frame op b).parkingSessions hother.1 hother.2)
  · cases op with
    | createSession row => exact hwrite _ fun _ => createSession_step
    | commitSession id change => exact hwrite _ fun _ => commitSession_step
    | _ => simp at hother

/-! ## One session -/

/-- Two rows about one stay. Only the status and the exit time may differ. -/
structure ParkingSession.SameStay (r r' : ParkingSession) : Prop where
  sessionId : r'.sessionId = r.sessionId
  pmsSessionId : r'.pmsSessionId = r.pmsSessionId
  carId : r'.carId = r.carId
  lotId : r'.lotId = r.lotId
  plate : r'.plate = r.plate
  entryTime : r'.entryTime = r.entryTime

theorem ParkingSession.SameStay.refl (r : ParkingSession) : r.SameStay r :=
  ⟨rfl, rfl, rfl, rfl, rfl, rfl⟩

theorem ParkingSession.SameStay.trans {r r' r'' : ParkingSession} (h : r.SameStay r')
    (h' : r'.SameStay r'') : r.SameStay r'' where
  sessionId := h'.sessionId.trans h.sessionId
  pmsSessionId := h'.pmsSessionId.trans h.pmsSessionId
  carId := h'.carId.trans h.carId
  lotId := h'.lotId.trans h.lotId
  plate := h'.plate.trans h.plate
  entryTime := h'.entryTime.trans h.entryTime

theorem SessionChange.sameStay (change : SessionChange) (r : ParkingSession) :
    r.SameStay (change.apply r) := ⟨rfl, rfl, rfl, rfl, rfl, rfl⟩

/-- A lookup after a step finds the new session, or what has become of the old one. -/
theorem SessionStep.getSessionById (h : SessionStep new commit b b') (id : Uuid) :
    b'.getSessionById id = b.getSessionById id ∨
      (∃ row, new = some row ∧ row.sessionId = id ∧ b.getSessionById id = none ∧
        b'.getSessionById id = some row) ∨
      ∃ change, commit = some (id, change) ∧
        b'.getSessionById id = (b.getSessionById id).map change.apply := by
  unfold Base.getSessionById
  cases h with
  | kept hrows => exact .inl (by rw [hrows])
  | created row hnew hadmits hrows =>
      rw [hrows, get?_cons]
      by_cases hid : row.sessionId = id
      · exact .inr (.inl ⟨row, hnew, hid, hid ▸ hadmits.id, if_pos hid⟩)
      · exact .inl (if_neg hid)
  | committed id' change hcommit hrows =>
      rw [hrows, get?_modify change.apply fun _ => rfl]
      by_cases hid : id = id'
      · exact .inr (.inr ⟨change, hid ▸ hcommit, by rw [if_pos hid, hid]⟩)
      · exact .inl (if_neg hid)

/-! ## Every session -/

/-- No session is lost, and each is about the same stay as before. -/
def StaysKept (b b' : Base) : Prop := ∀ id r, b.getSessionById id = some r →
  ∃ r', b'.getSessionById id = some r' ∧ r.SameStay r'

theorem StaysKept.refl (b : Base) : StaysKept b b := fun _ r h => ⟨r, h, .refl r⟩

theorem StaysKept.trans {b'' : Base} (h : StaysKept b b') (h' : StaysKept b' b'') :
    StaysKept b b'' := by
  intro id r hr
  obtain ⟨r', hr', hsame⟩ := h id r hr
  obtain ⟨r'', hr'', hsame'⟩ := h' id r' hr'
  exact ⟨r'', hr'', hsame.trans hsame'⟩

theorem SessionStep.staysKept (h : SessionStep new commit b b') : StaysKept b b' := by
  intro id r hr
  rcases h.getSessionById id with heq | ⟨row, -, -, hnone, -⟩ | ⟨change, -, heq⟩
  · exact ⟨r, heq.trans hr, .refl r⟩
  · rw [hr] at hnone
    cases hnone
  · exact ⟨change.apply r, by rw [heq, hr]; rfl, change.sameStay r⟩

theorem StaysKept.of_same (h : b'.parkingSessions = b.parkingSessions) : StaysKept b b' := by
  have hstep : SessionStep none none b b' := .kept h
  exact hstep.staysKept

theorem StaysKept.isSome (h : StaysKept b b') {id : Uuid} (hid : (b.getSessionById id).isSome) :
    (b'.getSessionById id).isSome := by
  obtain ⟨r, hr⟩ := Option.isSome_iff_exists.mp hid
  obtain ⟨r', hr', -⟩ := h id r hr
  rw [hr']
  rfl

/-- The ids of the table stay unique. -/
theorem SessionStep.uniqueIds (h : SessionStep new commit b b')
    (hb : UniqueBy ParkingSession.sessionId b.parkingSessions) :
    UniqueBy ParkingSession.sessionId b'.parkingSessions := by
  cases h with
  | kept hrows => rwa [hrows]
  | created row hnew hadmits hrows =>
      rw [hrows]
      exact hb.cons hadmits.id
  | committed id change hcommit hrows =>
      rw [hrows]
      exact hb.modify fun _ => rfl

end CarPayIn
