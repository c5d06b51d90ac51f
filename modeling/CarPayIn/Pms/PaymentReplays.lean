import CarPayIn.Pms.Services
import CarPayIn.Process.Serial

/-! # Payment notifications that come again

A notification that went through has left a row with its idempotency key. No
operation removes it, so whenever the same notification comes again it is
answered from that row.
-/

namespace CarPayIn.Pms

open Process Process.System Store Pms.Service

variable {isIsoFormat : String → Bool} {t t' : Tid} {s s' s₀ s₁ s₂ s₃ : State} {α : Type}
  {P : State → Prop}

/-- A serial execution in which every call may fail. -/
abbrev Unaided (isIsoFormat : String → Bool) (t : Tid) (P : State → Prop) (p : Service α)
    (Q : Except PyError α → State → Prop) : Prop :=
  (pms isIsoFormat).Triple Policy.any ((pms isIsoFormat).solo Policy.any t) t P p Q

namespace State

def recorded (s : State) (key : String) : Bool := (s.getByIdempotencyKey key).isSome

/-- No session, payment or parked car was written, and no barrier opened. -/
structure Unwritten (s s' : State) : Prop where
  sessions : s'.sessions = s.sessions
  paymentRequests : s'.paymentRequests = s.paymentRequests
  parkedCars : ∀ key car, s'.parkedCars key = some car → s.parkedCars key = some car
  openedExits : s'.openedExits = s.openedExits

theorem Unwritten.refl (s : State) : Unwritten s s := ⟨rfl, rfl, fun _ _ h => h, rfl⟩

theorem Unwritten.environment (h : Unwritten s₀ s) (x : Env) : Unwritten s₀ (s.environment x) := by
  cases x with
  | tick ms => exact ⟨h.sessions, h.paymentRequests, h.parkedCars, h.openedExits⟩
  | losePreRegistration key => exact ⟨h.sessions, h.paymentRequests, h.parkedCars, h.openedExits⟩
  | loseParkedCar key =>
      refine ⟨h.sessions, h.paymentRequests, fun k car hcar => ?_, h.openedExits⟩
      have hcar : Function.update s.parkedCars key none k = some car := hcar
      by_cases hk : k = key
      · rw [hk, Function.update_self] at hcar
        cases hcar
      · rw [Function.update_of_ne hk] at hcar
        exact h.parkedCars k car hcar

theorem recorded_cons {row : PaymentRequest} {key : String} (hrows : s'.paymentRequests =
    row :: s.paymentRequests) (h : row.idempotencyKey = key ∨ s.recorded key = true) :
    s'.recorded key = true := by
  unfold recorded getByIdempotencyKey
  rw [hrows, get?_cons]
  split
  · rfl
  · rename_i hother
    exact h.resolve_left hother

theorem insertPaymentRequest_rows {row : PaymentRequest} (h : s.insertPaymentRequest row = .ok s') :
    s'.paymentRequests = row :: s.paymentRequests := by
  unfold insertPaymentRequest at h
  split_ifs at h
  cases h
  rfl

/-- No call removes a payment request. -/
theorem recorded_exec {key : String} {β : Type} (op : Op β) (h : s.recorded key = true) :
    (s.exec isIsoFormat t op).2.recorded key = true := by
  have hwrite {x : Except PyError State}
      (hx : ∀ s', x = .ok s' → s'.paymentRequests = s.paymentRequests) :
      (s.write x).2.recorded key = true := by
    cases x with
    | error e => exact h
    | ok s' =>
        show s'.recorded key = true
        unfold recorded getByIdempotencyKey
        rw [hx s' rfl]
        exact h
  cases op with
  | insertPaymentRequest row =>
      show (s.write (s.insertPaymentRequest (row t))).2.recorded key = true
      cases hx : s.insertPaymentRequest (row t) with
      | error e => exact h
      | ok s' => exact recorded_cons (insertPaymentRequest_rows hx) (.inr h)
  | createSession id lotId plate entryTime =>
      apply hwrite
      intro s' hx
      unfold createSession at hx
      split_ifs at hx
      cases hx
      rfl
  | markPaid id =>
      apply hwrite
      intro s' hx
      unfold markPaid at hx
      split at hx
      · cases hx
      · cases hx
        rfl
  | markExited id =>
      apply hwrite
      intro s' hx
      unfold markExited at hx
      split at hx
      · cases hx
      · cases hx
        rfl
  | _ => exact h

end State

theorem recorded_drifts {key : String} (hd : (pms isIsoFormat).Drifts Policy.any s s')
    (h : s.recorded key = true) : s'.recorded key = true := by
  obtain ⟨x, -, hx⟩ := hd
  cases hx
  cases x <;> exact h

theorem recorded_call {key : String} {β : Type} {op : Op β} {r : Except PyError β}
    (h : s.recorded key = true) (he : (pms isIsoFormat).exec t op s = some (r, s')) :
    s'.recorded key = true := by
  have hs : (s.exec isIsoFormat t op).2 = s' := congrArg Prod.snd (Option.some.inj he)
  rw [← hs]
  exact State.recorded_exec op h

/-! ## The first notification -/

theorem recorded_keeps {key : String} (p : Service α) : Unaided isIsoFormat t
    (fun s => s.recorded key = true) p (fun _ s => s.recorded key = true) := by
  apply solo_keeps
  · exact fun s s' hd h => recorded_drifts hd h
  · apply Program.Calls.of_forall
    intro β op s r s' h he
    exact recorded_call h he

theorem savePaymentRequest_records (c : RecordPaymentCompleteCommand) :
    Unaided isIsoFormat t (fun _ => True) (RecordPaymentCompleteService.savePaymentRequest c)
      (fun r s => r = .ok () → s.recorded c.idempotencyKey = true) := by
  have hraises : ∀ (e : PyError) (s : State), (.error e : Except PyError Unit) = .ok () →
      s.recorded c.idempotencyKey = true := fun e s h => by cases h
  unfold RecordPaymentCompleteService.savePaymentRequest
  apply Triple.bind (M := fun (found : Option PaymentRequest) s => found.isSome = true →
    s.recorded c.idempotencyKey = true)
  · apply Triple.conseq (solo_shows (M := fun (found : Option PaymentRequest) s =>
      found.isSome = true → s.recorded c.idempotencyKey = true) ?_) (fun _ h => h)
    · intro r s hr
      cases r with
      | error e => exact hraises e s
      | ok found => exact hr found rfl
    · intro s found s' he hsome
      cases he
      exact hsome
  intro found
  cases found with
  | some row => exact .done fun _ hs _ => hs rfl
  | none =>
      apply Triple.bind (M := fun _ _ => True)
      · apply Triple.conseq (solo_shows (M := fun _ _ => True) fun _ _ _ _ => trivial)
          (fun _ _ => trivial)
        intro r s _
        cases r with
        | error e => exact hraises e s
        | ok completedAt => trivial
      intro completedAt
      apply Triple.conseq (solo_shows (M := fun _ s => s.recorded c.idempotencyKey = true) ?_)
        (fun _ h => h)
      · exact fun r s hr => hr ()
      · intro s a s' he
        have he : s.write (s.insertPaymentRequest _) = (.ok a, s') := Option.some.inj he
        cases hx : s.insertPaymentRequest _ with
        | error e =>
            rw [hx] at he
            cases he
        | ok s₁ =>
            rw [hx] at he
            cases he
            exact State.recorded_cons (State.insertPaymentRequest_rows hx) (.inl rfl)

theorem route_records (signed : Bool) (c : RecordPaymentCompleteCommand) :
    Unaided isIsoFormat t (fun _ => True) (RecordPaymentCompleteService.route signed c)
      (fun r s => ∀ status, r = .ok status → s.recorded c.idempotencyKey = true) := by
  unfold RecordPaymentCompleteService.route RecordPaymentCompleteService.execute
  split
  · exact .done fun s _ status h => by cases h
  apply Triple.bind (M := fun (found : Option PaymentRequest) s => found.isSome = true →
    s.recorded c.idempotencyKey = true)
  · apply Triple.conseq (solo_shows (M := fun (found : Option PaymentRequest) s =>
      found.isSome = true → s.recorded c.idempotencyKey = true) ?_) (fun _ h => h)
    · intro r s hr
      cases r with
      | error e => exact fun status h => by cases h
      | ok found => exact hr found rfl
    · intro s found s' he hsome
      cases he
      exact hsome
  intro found
  cases found with
  | some row => exact .done fun _ hs _ _ => hs rfl
  | none =>
      apply Triple.bind (M := fun _ s => s.recorded c.idempotencyKey = true)
      · apply Triple.conseq (savePaymentRequest_records c) (fun _ _ => trivial)
        intro r s hr
        cases r with
        | error e => exact fun status h => by cases h
        | ok u => exact hr rfl
      · intro _
        apply Triple.conseq (recorded_keeps _) (fun _ h => h)
        exact fun r s hs status _ => hs

/-! ## The same notification again -/

theorem route_unwritten (signed : Bool) (c : RecordPaymentCompleteCommand) :
    Unaided isIsoFormat t (fun s => s.recorded c.idempotencyKey = true ∧ s₀.Unwritten s)
      (RecordPaymentCompleteService.route signed c) (fun _ s => s₀.Unwritten s) := by
  unfold RecordPaymentCompleteService.route RecordPaymentCompleteService.execute
  split
  · exact .done fun s hs => hs.2
  apply Triple.bind (M := fun (found : Option PaymentRequest) s => s₀.Unwritten s ∧
    found.isSome = true)
  · apply Triple.conseq (solo_call (M := fun (found : Option PaymentRequest) _ =>
      found.isSome = true) ?_ ?_ ?_) (fun _ h => h)
    · intro r s hr
      cases r with
      | error e => exact hr.1.2
      | ok found => exact ⟨hr.1.2, hr.2 found rfl⟩
    · intro s s' hd hs
      refine ⟨recorded_drifts hd hs.1, ?_⟩
      obtain ⟨x, -, hx⟩ := hd
      cases hx
      exact hs.2.environment x
    · intro s r s' hs he
      cases he
      exact hs
    · intro s found s' hs he
      cases he
      exact hs.1
  intro found
  cases found with
  | some row => exact .done fun s hs => hs.1
  | none =>
      intro s hs
      cases hs.2

/-- After a notification has gone through and whatever else has happened, the
same one writes nothing and opens no barrier. -/
theorem payment_replay {signed signed' : Bool} {c : RecordPaymentCompleteCommand}
    {status : PaymentStatus} {r : Except PyError PaymentStatus}
    (hfirst : (pms isIsoFormat).Finishes Policy.any t
      (RecordPaymentCompleteService.route signed c) s₀ (.ok status) s₁)
    (hlater : (pms isIsoFormat).Serial Policy.any (fun s => s = s₁) s₂)
    (hagain : (pms isIsoFormat).Finishes Policy.any t'
      (RecordPaymentCompleteService.route signed' c) s₂ r s₃) : s₂.Unwritten s₃ := by
  have hrecorded : s₁.recorded c.idempotencyKey = true :=
    wp_finishes hfirst (route_records signed c s₀ trivial) status rfl
  have hstill : s₂.recorded c.idempotencyKey = true := by
    apply hlater.kept (J := fun s => s.recorded c.idempotencyKey = true)
    · intro s hs
      rw [hs]
      exact hrecorded
    · exact fun s s' hd h => recorded_drifts hd h
    · intro x s t p s' hb h
      cases hb
      exact h
    · exact fun t β op s r s' h he => recorded_call h he
  exact wp_finishes hagain (route_unwritten signed' c s₂ ⟨hstill, .refl s₂⟩)

end CarPayIn.Pms
