import CarPayIn.App.Phone

/-! # Late payment notices

A payment notice reaches the app without its session. The app takes it for the
end of the stay it has stored, so only an app that has stored none stays as it
is.
-/

namespace CarPayIn.App

open Process Process.System Store

variable {p : Phone} {s s' : State}

def Phone.stay (p : Phone) : Bool × String × String :=
  (p.parking.parked, p.parking.lotId, p.parking.sessionId)

/-- Without a stay there is no lot and no session. -/
def Phone.Consistent (p : Phone) : Prop := p.parking.parked = false → p.stay = (false, "", "")

/-! ## The app -/

theorem saveParkingState_consistent (parked : Bool) (lotId sessionId : String) :
    (p.saveParkingState parked lotId sessionId).Consistent := by
  intro h
  have h : parked = false := h
  simp [Phone.saveParkingState, Phone.stay, h]

theorem receive_consistent (payload : Payload) : (p.receive payload).Consistent := by
  cases payload with
  | confirmed sessionId lotId entryTime => exact saveParkingState_consistent _ _ _
  | complete txId approvalNumber lotId amount => exact saveParkingState_consistent _ _ _

theorem stay_receive_payment {m : Message} (h : m.isPayment = true) :
    (p.receive m.payload).stay = (false, "", "") := by
  unfold Message.isPayment at h
  split at h
  · cases h
  · rename_i hpayload
    rw [hpayload]
    rfl

/-! ## Runs -/

theorem deliver_eq_some {i : Nat} (hd : s.deliver i = some s') :
    ∃ n, s.sent[i]? = some n ∧ s' = { s with phone := s.phone.receive n.message.payload } := by
  unfold State.deliver at hd
  split at hd
  · cases hd
  · rename_i n hsent
    split_ifs at hd
    exact ⟨n, hsent, (Option.some.inj hd).symm⟩

theorem environment_consistent {x : Env} (he : s.environment x = some s')
    (h : s.phone.Consistent) : s'.phone.Consistent := by
  cases x with
  | outbox x =>
      obtain ⟨o, -, rfl⟩ := Option.map_eq_some_iff.mp he
      exact h
  | deliver i =>
      obtain ⟨n, -, rfl⟩ := deliver_eq_some he
      exact receive_consistent _
  | publishEntry n =>
      cases he
      exact h
  | processPayment txId amount =>
      cases he
      exact saveParkingState_consistent _ _ _
  | clearSession =>
      cases he
      exact fun _ => rfl
  | tick ms =>
      cases he
      exact h

/-- In every reachable state an app that is not parked has stored no stay. -/
theorem consistent_of_reachable
    {π : Policy Outbox.Op PyError State Outbox.Tid (Outbox.Tid × Outbox.Settings) Env}
    {c : Config Outbox.Op PyError Nat State Outbox.Tid}
    (hc : notices.Reachable π State.Silent c) : c.state.phone.Consistent := by
  apply hc.keeps (J := fun s => s.phone.Consistent)
  · intro s hs _
    simp [Phone.stay, hs.2.2, ParkingState.empty]
  · intro t β op s r s' he h
    obtain ⟨⟨r, o⟩, -, he⟩ := Option.map_eq_some_iff.mp he
    cases he
    exact h
  · intro x s t p s' hb h
    cases hb
    exact h
  · exact fun x s s' he h => environment_consistent he h

theorem stay_of_delivered {i : Nat} {n : Notice} (hsent : s.sent[i]? = some n)
    (hpayment : n.message.isPayment = true)
    (hd : notices.environment (.deliver i) s = some s') : s'.phone.stay = (false, "", "") := by
  obtain ⟨n', hsent', rfl⟩ := deliver_eq_some hd
  rw [hsent] at hsent'
  cases hsent'
  exact stay_receive_payment hpayment

/-- In every reachable state a payment notice leaves the stored flag, lot and
session exactly when the app is not parked, whichever session it is for. -/
theorem late_notice_ends_stay
    {π : Policy Outbox.Op PyError State Outbox.Tid (Outbox.Tid × Outbox.Settings) Env}
    {c : Config Outbox.Op PyError Nat State Outbox.Tid} {i : Nat} {n : Notice} {s' : State}
    (hc : notices.Reachable π State.Silent c) (hsent : c.state.sent[i]? = some n)
    (hpayment : n.message.isPayment = true)
    (hd : notices.environment (.deliver i) c.state = some s') :
    s'.phone.stay = c.state.phone.stay ↔ c.state.phone.parking.parked = false := by
  rw [stay_of_delivered hsent hpayment hd]
  constructor
  · intro h
    exact (congrArg Prod.fst h).symm
  · intro hparked
    exact (consistent_of_reachable hc hparked).symm

/-! ## Two stays -/

namespace TwoStays

def note : PaymentNotificationOutbox where
  txId := .v4 0
  sessionId := 0
  carId := "car-1"
  eventType := "payment.completed"
  channel := "iot"
  destination := "payment/complete/car-1"
  payload := ⟨"payment.completed", .v4 0, "session-0", "car-1", "LOT_GN_01", 1000, "KRW",
    some "APP-1"⟩
  status := .pending

def empty : State := ⟨⟨0, 0, [], [], [], []⟩, [], ⟨"car-1", 0, .empty, []⟩⟩

theorem empty_silent : empty.Silent := ⟨⟨rfl, rfl, rfl⟩, rfl, rfl⟩

/-- The notice of the payment waits for the app while the second stay begins. -/
def run : List (Label PyError Outbox.Tid (Outbox.Tid × Outbox.Settings) Env) :=
  .environment (.outbox (.insert note)) :: .start (0, .default) :: answers 0 6 ++
    [.environment (.publishEntry ⟨"car-1", "session-1", "LOT_GN_02", "2024-01-02T09:00:00"⟩),
      .environment (.deliver 1)]

/-- The app is parked under the second session, and the notice of the first one
is still to be delivered. -/
def late (c : Config Outbox.Op PyError Nat State Outbox.Tid) : Bool :=
  c.state.phone.stay = (true, "LOT_GN_02", "session-1") &&
    (c.state.sent[0]?).any (fun n => n.message.isPayment && n.sessionId = "session-0") &&
      (notices.environment (.deliver 0) c.state).isSome

theorem exists_late : ∃ c n s', notices.Reachable Policy.any State.Silent c ∧
    c.state.phone.stay = (true, "LOT_GN_02", "session-1") ∧ c.state.sent[0]? = some n ∧
      n.message.isPayment = true ∧ n.sessionId = "session-0" ∧
        notices.environment (.deliver 0) c.state = some s' := by
  have hrun : (notices.run Policy.any run (boot empty)).any late = true := by
    decide +kernel
  obtain ⟨c, hc, h⟩ := notices.exists_of_run hrun empty_silent
  simp only [late, Bool.and_eq_true, decide_eq_true_eq] at h
  obtain ⟨⟨hstay, hany⟩, hd⟩ := h
  obtain ⟨n, hsent, hn⟩ := (Option.any_eq_true ..).mp hany
  obtain ⟨hpayment, hfirst⟩ := (Bool.and_eq_true ..).mp hn
  obtain ⟨s', hd⟩ := Option.isSome_iff_exists.mp hd
  exact ⟨c, n, s', hc, hstay, hsent, hpayment, of_decide_eq_true hfirst, hd⟩

end TwoStays

theorem late_notice_ends_stay_second : ∃ c s', notices.Reachable Policy.any State.Silent c ∧
    notices.environment (.deliver 0) c.state = some s' ∧
      (s'.phone.stay = c.state.phone.stay ↔ c.state.phone.parking.parked = false) := by
  obtain ⟨c, n, s', hc, -, hsent, hpayment, -, hd⟩ := TwoStays.exists_late
  exact ⟨c, s', hc, hd, late_notice_ends_stay hc hsent hpayment hd⟩

/-- The notice of the first payment ends the second stay. -/
theorem second_stay_ended : ¬∀ c i n s', notices.Reachable Policy.any State.Silent c →
    c.state.sent[i]? = some n → n.message.isPayment = true →
      notices.environment (.deliver i) c.state = some s' →
        c.state.phone.parking.parked = true → c.state.phone.parking.sessionId ≠ n.sessionId →
          s'.phone.stay = c.state.phone.stay := by
  intro h
  obtain ⟨c, n, s', hc, hstay, hsent, hpayment, hfirst, hd⟩ := TwoStays.exists_late
  have hparked : c.state.phone.parking.parked = true := congrArg (·.1) hstay
  have hsession : c.state.phone.parking.sessionId = "session-1" := congrArg (·.2.2) hstay
  have hkept := h c 0 n s' hc hsent hpayment hd hparked (by rw [hsession, hfirst]; decide)
  rw [stay_of_delivered hsent hpayment hd, hstay] at hkept
  cases hkept

end CarPayIn.App
