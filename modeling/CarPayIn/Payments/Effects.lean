import CarPayIn.Backend.Stays
import CarPayIn.Payments.Calls
import CarPayIn.Process.History

/-! # What the executions write of accounts, sessions and stores -/

namespace CarPayIn

open Process Process.System Store Service

variable {α β : Type} {es es' : List Effect}

def Op.effect {β : Type} : Op β → Effect
  | .base op => op.effect
  | _ => .nothing

/-- Every call of the service has one of these effects or none. -/
abbrev ServiceEffects (es : List Effect) (p : Service α) : Prop :=
  p.Calls fun op => op.effect ∈ .nothing :: es

theorem base_effects {p : BaseService α} (hp : Effects es p) : ServiceEffects es (base p) :=
  Program.Calls.lift Op.base hp

theorem ServiceEffects.mono {p : Service α} (hp : ServiceEffects es p) (h : es ⊆ es') :
    ServiceEffects es' p :=
  Program.Calls.mono hp fun _ hop => List.cons_subset_cons _ h hop

theorem ServiceEffects.avoids {p : Service α} (hp : ServiceEffects es p) {e : Effect}
    (h : e ∉ .nothing :: es) : p.Calls fun op => op.effect ≠ e :=
  Program.Calls.mono hp fun _ hop he => h (he ▸ hop)

theorem effects_of_serves {p : Service α} (hp : p.Calls Serves) : ServiceEffects es p := by
  apply hp.mono
  intro β op hs
  cases op with
  | base op => exact hs.elim
  | _ => exact .head _

/-- A call of no effect on accounts, sessions and stores. -/
theorem call_effects {op : Op α} (h : op.effect = .nothing) : ServiceEffects es (call op) :=
  ⟨h ▸ .head _, fun _ => trivial⟩

/-! ## Payment -/

theorem notifyPmsPaymentComplete_effects (payload : PaymentComplete) :
    ServiceEffects es (ProcessPaymentService.notifyPmsPaymentComplete payload) := by
  unfold ProcessPaymentService.notifyPmsPaymentComplete
  apply Program.Calls.bind
  · exact (call_effects rfl).attempt
  · intro r
    cases r with
    | error e => exact call_effects rfl
    | ok u => exact call_effects rfl

theorem setStatus_effects (id : Uuid) (row : ParkingSession) (status : SessionStatus) :
    Effects [.sessionStatus] (BaseService.setStatus id row status) := by
  unfold BaseService.setStatus
  dsimp only
  split
  · apply (ask_effects (.head _)).bind
    exact fun now => ask_effects (by simp)
  · exact ask_effects (by simp)

theorem updateSessionStatus_effects (sessionId : String) (status : SessionStatus) :
    Effects [.sessionStatus] (BaseService.updateSessionStatus sessionId status) := by
  apply Program.Calls.bind
  · trivial
  · intro id
    apply (ask_effects (.head _)).bind
    intro found
    cases found with
    | none => trivial
    | some row => exact setStatus_effects id row status

theorem settle_effects (session : ParkingSession) (txId : TxId) (carId key : String)
    (pgTxId approvalNo : Option String) (command : ProcessPaymentCommand) :
    ServiceEffects [.sessionStatus]
      (ProcessPaymentService.settle session txId carId key pgTxId approvalNo command) := by
  unfold ProcessPaymentService.settle ProcessPaymentService.markPaymentSuccess
    ProcessPaymentService.publishPaymentNotificationBestEffort
  apply Program.Calls.bind
  · apply Program.Calls.bind
    · exact call_effects rfl
    · exact fun _ => trivial
  · intro enqueued
    apply (base_effects (updateSessionStatus_effects _ _)).bind
    intro _
    apply (notifyPmsPaymentComplete_effects _).bind
    intro _
    cases enqueued with
    | true => trivial
    | false =>
        apply Program.Calls.bind
        · apply Program.Calls.bind
          · exact (base_effects (ask_effects (by simp))).attempt
          · exact fun _ => trivial
        · exact fun _ => trivial

theorem createPendingTransaction_effects (txId : TxId) (key sessionId : String) (amount : Int)
    (currency billingKey : String) : ServiceEffects es
      (createPendingTransaction txId key sessionId amount currency billingKey) := by
  unfold createPendingTransaction
  apply Program.Calls.bind
  · trivial
  · intro id
    apply (base_effects (ask_effects (by simp))).bind
    intro found
    cases found with
    | none => trivial
    | some session => exact call_effects rfl

theorem chargeBillingKey_effects (request : ChargeRequest) :
    ServiceEffects es (HttpxPgClient.chargeBillingKey request) := by
  unfold HttpxPgClient.chargeBillingKey HttpxPgClient.post
  apply Program.Calls.bind
  · apply Program.Calls.tryCatch
    · apply Program.Calls.bind
      · exact call_effects rfl
      · exact fun id => call_effects rfl
    · exact fun e => trivial
  · exact fun response => trivial

theorem pay_effects (session : ParkingSession) (carId key : String)
    (command : ProcessPaymentCommand) : ServiceEffects [.draw, .sessionStatus]
      (ProcessPaymentService.pay session carId key command) := by
  unfold ProcessPaymentService.pay ProcessPaymentService.charge
  apply (base_effects (ask_effects (by simp))).bind
  intro found
  cases found with
  | none => trivial
  | some record =>
      apply (base_effects (ask_effects (by simp))).bind
      intro n
      apply (createPendingTransaction_effects ..).bind
      intro _
      apply Program.Calls.tryCatch
      · apply (chargeBillingKey_effects _).bind
        intro result
        cases result with
        | success pgTxId approvalNo => exact (settle_effects ..).mono (by decide)
        | failure pgTxId reason =>
            apply Program.Calls.bind
            · exact call_effects rfl
            · exact fun _ => trivial
      · intro e
        apply Program.Calls.bind
        · exact call_effects rfl
        · exact fun _ => trivial

theorem getQuote_effects (sessionId : String) : Effects es (BaseService.getQuote sessionId) :=
  ask_effects (by simp)

theorem authorise_effects (command : ProcessPaymentCommand) :
    Effects es (ProcessPaymentService.authorise command) := by
  unfold ProcessPaymentService.authorise
  apply (validateAppToken_effects _).bind
  intro token
  apply (getQuote_effects _).bind
  intro found
  cases found with
  | none => trivial
  | some quote =>
      dsimp only
      split
      · trivial
      · apply (getSessionById_effects _).bind
        intro found
        cases found with
        | none => trivial
        | some session =>
            dsimp only
            split <;> trivial

theorem processPayment_effects (sha256 : String → String) (command : ProcessPaymentCommand) :
    ServiceEffects [.draw, .sessionStatus] (ProcessPaymentService.execute sha256 command) := by
  unfold ProcessPaymentService.execute
  split
  · apply (base_effects (ask_effects (by simp))).bind
    exact fun n => trivial
  · apply (base_effects (authorise_effects _)).bind
    intro ⟨session, carId⟩
    apply Program.Calls.bind
    · exact call_effects rfl
    · intro existing
      cases existing with
      | some existing =>
          unfold ProcessPaymentService.replay
          dsimp only
          split
          · exact (notifyPmsPaymentComplete_effects _).bind fun _ => trivial
          · trivial
      | none =>
          dsimp only
          split
          · trivial
          split
          · apply (createPendingTransaction_effects ..).bind
            exact fun _ => (settle_effects ..).mono (by decide)
          · exact pay_effects ..

theorem retryPayments_effects (ids : List TxId) :
    ServiceEffects es (NotifyRetryWorker.retryPayments ids) := by
  induction ids with
  | nil => trivial
  | cons id ids ih =>
      apply Program.Calls.bind
      · unfold NotifyRetryWorker.retryPayment
        apply Program.Calls.bind
        · exact call_effects rfl
        · intro found
          cases found with
          | none => trivial
          | some event =>
              apply Program.Calls.tryCatch
              · apply Program.Calls.bind
                · exact call_effects rfl
                · exact fun _ => call_effects rfl
              · exact fun e => trivial
      · exact fun _ => ih

/-! ## Every request -/

def Request.effects : Request → List Effect
  | .createQrSession _ => [.qrSession]
  | .startHyundaiOAuth _ => [.draw, .oauthState]
  | .hyundaiOAuthCallback _ => [.token, .user, .oauthResult, .loginResult, .oauthState, .qrSession]
  | .confirmVehicle _ => [.vehicle, .token, .draw, .refreshToken, .loginResult]
  | .refreshAccessToken _ => [.refreshToken, .token]
  | .createCardOrder _ => [.vehicle, .draw, .cardOrder]
  | .cardWebhook _ => [.billingKey, .cardOrder]
  | .registerPreNotify _ => [.preNotify]
  | .entryWebhook _ => [.draw, .newSession, .preNotify, .publication, .entryRetry]
  | .getParkingFee _ => [.quote]
  | .processPayment _ => [.draw, .sessionStatus]
  | .retryEntries => [.publication, .entryRetry]
  | .retryPayments => []

theorem program_effects (rt : Runtime) (request : Request) :
    ServiceEffects request.effects (program rt request) := by
  cases request with
  | createQrSession c => exact base_effects ((createQrSession_effects rt c).bind fun _ => trivial)
  | startHyundaiOAuth s => exact base_effects ((startHyundaiOAuth_effects rt s).bind fun _ => trivial)
  | hyundaiOAuthCallback c =>
      exact base_effects ((hyundaiOAuthCallback_effects c).bind fun _ => trivial)
  | confirmVehicle c => exact base_effects ((confirmVehicle_effects rt c).bind fun _ => trivial)
  | refreshAccessToken s =>
      exact base_effects ((refreshAccessToken_effects rt s).bind fun _ => trivial)
  | createCardOrder c => exact base_effects ((createCardOrder_effects c).bind fun _ => trivial)
  | cardWebhook c => exact base_effects ((cardWebhook_effects c).bind fun _ => trivial)
  | registerPreNotify c => exact base_effects ((registerPreNotify_effects c).bind fun _ => trivial)
  | entryWebhook c => exact base_effects ((entryWebhook_effects rt c).bind fun _ => trivial)
  | getParkingFee c => exact base_effects ((getParkingFee_effects c).bind fun _ => trivial)
  | retryEntries => exact base_effects (processEntryRetries_effects.bind fun _ => trivial)
  | processPayment c => exact (processPayment_effects rt.sha256 c).bind fun _ => trivial
  | retryPayments =>
      apply Program.Calls.bind
      · apply Program.Calls.bind
        · exact call_effects rfl
        · exact fun ids => retryPayments_effects ids
      · exact fun _ => trivial

/-! ## Frames -/

section
variable {rt : Runtime} {t : Tid} {w w' : World}

theorem World.write_base {x : Except PyError World} (h : ∀ w', x = .ok w' → w'.base = w.base) :
    (w.write x).2.base = w.base := by
  cases x with
  | ok w' => exact h w' rfl
  | error e => rfl

/-- Calls on transactions and on the PG and the card service leave everything else. -/
theorem World.execTransactions_base (op : TransactionOp β) :
    (w.execTransactions t op).2.base = w.base := by
  cases op with
  | getByIdempotencyKey key => rfl
  | insert row =>
      apply write_base
      intro w' h
      unfold insertTransaction at h
      split_ifs at h
      cases h
      rfl
  | updateStatus key status pgTxId approvalNo reason =>
      apply write_base
      intro w' h
      unfold updateTransactionStatus at h
      split at h
      · cases h
      · cases h
        rfl
  | markSuccessAndEnqueue key pgTxId approvalNo destination payload =>
      apply write_base
      intro w' h
      unfold markSuccessAndEnqueue at h
      split at h
      · cases h
      · simp only at h
        split at h <;> cases h <;> rfl

theorem World.execPg_base (op : PgOp β) : (w.execPg t op).2.base = w.base := by
  cases op with
  | insert row =>
      apply write_base
      intro w' h
      unfold insertPgTransaction at h
      split_ifs at h
      cases h
      rfl
  | updateStatus key status approvalNo cardTxId reason =>
      apply write_base
      intro w' h
      unfold updatePgTransactionStatus at h
      split at h
      · cases h
      · cases h
        rfl
  | _ => rfl

theorem World.execCard_base (op : CardOp β) : (w.execCard t op).2.base = w.base := by
  cases op with
  | insert row =>
      apply write_base
      intro w' h
      unfold insertCardTx at h
      split_ifs at h
      cases h
      rfl
  | _ => rfl

theorem World.exec_frame {op : Op β} {r : Except PyError β} (h : w.exec t op = some (r, w')) :
    Frame op.effect w.base w'.base := by
  have hsame : ∀ w₁ : World, w₁.base = w.base → w₁ = w' → Frame .nothing w.base w'.base := by
    intro w₁ hb hw
    rw [← hw, hb]
    exact .refl _ _
  cases op with
  | base op =>
      cases h
      exact Base.exec_frame op w.base
  | transactions op =>
      exact hsame _ (World.execTransactions_base op) (congrArg Prod.snd (Option.some.inj h))
  | pg op => exact hsame _ (World.execPg_base op) (congrArg Prod.snd (Option.some.inj h))
  | card op => exact hsame _ (World.execCard_base op) (congrArg Prod.snd (Option.some.inj h))
  | pgHttp op | cardHttp op =>
      obtain ⟨y, -, h⟩ := Option.map_eq_some_iff.mp h
      cases h
      exact .refl _ _
  | retries op | scanRetries | notifyPaymentComplete payload =>
      cases h
      exact .refl _ _

theorem exec_base {op : BaseOp β} {r : Except PyError β} (h : w.exec t (.base op) = some (r, w')) :
    (w.base.exec op).1 = r ∧ w' = { w with base := (w.base.exec op).2 } := by
  obtain ⟨hr, hw⟩ := Prod.mk.inj (Option.some.inj h)
  exact ⟨hr, hw.symm⟩

theorem base_ok {op : BaseOp β} {m : Mode PyError} {a : β}
    (ho : (carPayIn rt).outcome t (.base op) m w = some (.ok a, w')) :
    (w.base.exec op).1 = .ok a ∧ w' = { w with base := (w.base.exec op).2 } :=
  exec_base (t := t) ((carPayIn rt).outcome_ok ho).2

/-- The same call in a run with a history. -/
theorem base_recorded {γ : Type}
    {record : ∀ (_ : Tid) {β : Type}, Op β → Except PyError β → World → γ → γ} {s s' : World × γ}
    {op : BaseOp β} {m : Mode PyError} {a : β}
    (ho : ((carPayIn rt).withHistory record).outcome t (.base op) m s = some (.ok a, s')) :
    m = .answered ∧ s.1.exec t (.base op) = some (.ok a, s'.1) ∧
      s'.2 = record t (.base op) (.ok a) s.1 s.2 :=
  history_ok ho

theorem World.exec_drawn {op : Op β} {r : Except PyError β} (h : w.exec t op = some (r, w'))
    (he : op.effect ≠ .draw) : w'.base.drawn = w.base.drawn := by
  have hsame : ∀ w₁ : World, w₁.base = w.base → w₁ = w' → w'.base.drawn = w.base.drawn := by
    intro w₁ hb hw
    rw [← hw, hb]
  cases op with
  | base op =>
      obtain ⟨-, rfl⟩ := exec_base h
      exact Base.exec_drawn op w.base he
  | transactions op =>
      exact hsame _ (World.execTransactions_base op) (congrArg Prod.snd (Option.some.inj h))
  | pg op => exact hsame _ (World.execPg_base op) (congrArg Prod.snd (Option.some.inj h))
  | card op => exact hsame _ (World.execCard_base op) (congrArg Prod.snd (Option.some.inj h))
  | pgHttp op | cardHttp op =>
      obtain ⟨y, -, h⟩ := Option.map_eq_some_iff.mp h
      cases h
      rfl
  | retries op | scanRetries | notifyPaymentComplete payload =>
      cases h
      rfl

def Op.newSession? {β : Type} : Op β → Option ParkingSession
  | .base op => op.newSession?
  | _ => none

/-- The change that a call may commit. -/
def Op.sessionCommit? {β : Type} : Op β → Option (Uuid × SessionChange)
  | .base op => op.sessionCommit?
  | _ => none

theorem World.exec_session {op : Op β} {r : Except PyError β} (h : w.exec t op = some (r, w')) :
    SessionStep op.newSession? op.sessionCommit? w.base w'.base := by
  cases op with
  | base op =>
      cases h
      exact Base.exec_session op w.base
  | _ => exact .kept ((World.exec_frame h).parkingSessions (by simp [Op.effect]) (by simp [Op.effect]))

theorem outcome_session {op : Op β} {m : Mode PyError} {r : Except PyError β}
    (h : (carPayIn rt).outcome t op m w = some (r, w')) :
    SessionStep op.newSession? op.sessionCommit? w.base w'.base := by
  rcases (carPayIn rt).outcome_cases h with ⟨-, h⟩ | ⟨e, -, -, rfl⟩ | ⟨e, r₀, -, -, h⟩
  · exact World.exec_session h
  · exact .kept rfl
  · exact World.exec_session h

theorem outcome_frame {op : Op β} {m : Mode PyError} {r : Except PyError β}
    (h : (carPayIn rt).outcome t op m w = some (r, w')) : Frame op.effect w.base w'.base := by
  rcases (carPayIn rt).outcome_cases h with ⟨-, h⟩ | ⟨e, -, -, rfl⟩ | ⟨e, r₀, -, -, h⟩
  · exact World.exec_frame h
  · exact .refl _ _
  · exact World.exec_frame h

/-- The environment only moves the clock, the replies from outside and the scans. -/
theorem environment_base {x : Env} (h : w.environment x = some w') :
    ∃ now outside scannedEntries, w.base.now ≤ now ∧ w'.base = { w.base with
      now := now, outside := outside, scannedEntries := scannedEntries } := by
  cases x with
  | tick ms =>
      cases h
      exact ⟨_, _, _, Nat.le_add_right _ ms, rfl⟩
  | dropPg id | dropCard id | giveUpPg id | giveUpCard id =>
      obtain ⟨xs, -, rfl⟩ := Option.map_eq_some_iff.mp h
      exact ⟨_, _, _, Nat.le_refl _, rfl⟩
  | _ =>
      cases h
      exact ⟨_, _, _, Nat.le_refl _, rfl⟩

def Tid.effects : Tid → List Effect
  | .backend _ request => request.effects
  | _ => []

def Start.tid : Start → Tid
  | .backend n request => .backend n request
  | .pg id => .pg id
  | .card id => .card id

/-- A start only takes a request off the wire. -/
structure Begun (x : Start) (w : World) (t : Tid) (p : Service Reply) (w' : World) : Prop where
  tid : t = x.tid
  base : w'.base = w.base
  transactions : w'.transactions = w.transactions
  effects : ServiceEffects t.effects p

theorem begin_spec {x : Start} {p : Service Reply} (h : w.begin rt x = some (t, p, w')) :
    Begun x w t p w' := by
  cases x with
  | backend n request =>
      cases h
      exact ⟨rfl, rfl, rfl, program_effects rt request⟩
  | pg id =>
      obtain ⟨y, -, h⟩ := Option.map_eq_some_iff.mp h
      cases h
      exact ⟨rfl, rfl, rfl, (effects_of_serves (servePg_serves id _)).bind fun _ => ⟨⟩⟩
  | card id =>
      obtain ⟨y, -, h⟩ := Option.map_eq_some_iff.mp h
      cases h
      exact ⟨rfl, rfl, rfl, (effects_of_serves (serveCard_serves id _)).bind fun _ => ⟨⟩⟩

end

end CarPayIn
