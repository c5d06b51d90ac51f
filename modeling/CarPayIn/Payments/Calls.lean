import CarPayIn.Payments.System

/-! # Which calls the services make

The PG and the card service only touch their own tables and the exchanges they
take part in, and a payment asks the PG at most once.
-/

namespace CarPayIn

open Process Store Service

variable {α : Type}

/-! ## The PG and the card service -/

/-- A call that the PG or the card service may make. -/
def Serves {β : Type} : Op β → Prop
  | .pg _ | .card _ | .cardHttp _ | .pgHttp (.respond _ _) => True
  | _ => False

def ServesCard {β : Type} : Op β → Prop
  | .card _ | .cardHttp _ => True
  | _ => False

theorem ServesCard.serves {op : Op α} (h : ServesCard op) : Serves op := by
  cases op <;> first | exact h.elim | trivial

theorem call_serves {op : Op α} (h : Serves op) : (call op).Calls Serves := ⟨h, fun _ => trivial⟩

theorem call_servesCard {op : Op α} (h : ServesCard op) : (call op).Calls ServesCard :=
  ⟨h, fun _ => trivial⟩

theorem approvePayment_servesCard (request : CardChargeRequest) :
    (HttpxMockCardClient.approvePayment request).Calls ServesCard := by
  unfold HttpxMockCardClient.approvePayment HttpxMockCardClient.post
  apply Program.Calls.bind
  · apply Program.Calls.tryCatch
    · apply Program.Calls.bind
      · apply Program.Calls.bind
        · exact call_servesCard trivial
        · exact fun id => call_servesCard trivial
      · exact fun response => trivial
    · exact fun e => trivial
  · exact fun response => trivial

theorem createPgTransaction_serves (txId : String) (command : ChargeRequest)
    (status : TransactionStatus) (reason : Option String) :
    (ChargeBillingKeyService.createTransaction txId command status reason).Calls Serves := by
  unfold ChargeBillingKeyService.createTransaction
  apply Program.Calls.bind
  · exact call_serves trivial
  · intro existing
    cases existing with
    | some row => trivial
    | none =>
        apply Program.Calls.bind
        · exact call_serves trivial
        · intro record
          cases record with
          | none => trivial
          | some record => exact call_serves trivial

theorem approve_serves (txId cardToken : String) (command : ChargeRequest) :
    (ChargeBillingKeyService.approve txId cardToken command).Calls Serves := by
  unfold ChargeBillingKeyService.approve
  apply Program.Calls.bind
  · exact (approvePayment_servesCard _).mono fun _ => ServesCard.serves
  · intro approvalData
    split
    · apply Program.Calls.bind
      · exact call_serves trivial
      · exact fun _ => trivial
    · apply Program.Calls.bind
      · trivial
      · intro approvalNo
        apply Program.Calls.bind
        · exact call_serves trivial
        · exact fun _ => trivial

theorem newTxId_serves : ChargeBillingKeyService.newTxId.Calls Serves := by
  unfold ChargeBillingKeyService.newTxId
  apply Program.Calls.bind
  · exact call_serves trivial
  · exact fun n => trivial

theorem executePg_serves (command : ChargeRequest) :
    (ChargeBillingKeyService.execute command).Calls Serves := by
  unfold ChargeBillingKeyService.execute
  apply Program.Calls.bind
  · exact call_serves trivial
  · intro existing
    cases existing with
    | some row => trivial
    | none =>
        apply Program.Calls.bind
        · exact call_serves trivial
        · intro record
          cases record with
          | none => exact newTxId_serves.bind fun _ => trivial
          | some record =>
              apply newTxId_serves.bind
              intro txId
              split
              · exact (createPgTransaction_serves ..).bind fun _ => trivial
              · apply (createPgTransaction_serves ..).bind
                intro _
                apply Program.Calls.tryCatch
                · exact approve_serves ..
                · intro e
                  apply Program.Calls.bind
                  · exact call_serves trivial
                  · exact fun _ => trivial

theorem servePg_serves (id : Nat) (request : ChargeRequest) :
    (ChargeBillingKeyService.serve id request).Calls Serves := by
  unfold ChargeBillingKeyService.serve
  exact (executePg_serves request).attempt.bind fun _ => call_serves trivial

theorem createCardTransaction_servesCard (txId : String) (command : CardChargeRequest)
    (status : TransactionStatus) (approvalNo : Option String) :
    (ApproveCardPaymentService.createTransaction txId command status approvalNo).Calls ServesCard := by
  unfold ApproveCardPaymentService.createTransaction
  apply Program.Calls.bind
  · exact call_servesCard trivial
  · intro existing
    cases existing with
    | some row => trivial
    | none => exact call_servesCard trivial

theorem newId_servesCard (label : String) : (ApproveCardPaymentService.newId label).Calls ServesCard := by
  unfold ApproveCardPaymentService.newId
  apply Program.Calls.bind
  · exact call_servesCard trivial
  · exact fun n => trivial

theorem executeCard_servesCard (command : CardChargeRequest) :
    (ApproveCardPaymentService.execute command).Calls ServesCard := by
  unfold ApproveCardPaymentService.execute
  apply Program.Calls.bind
  · exact call_servesCard trivial
  · intro existing
    cases existing with
    | some row => trivial
    | none =>
        dsimp only
        split
        · trivial
        · apply Program.Calls.bind
          · exact call_servesCard trivial
          · intro record
            split
            · apply (newId_servesCard _).bind
              exact fun txId => (createCardTransaction_servesCard ..).bind fun _ => trivial
            · apply (newId_servesCard _).bind
              intro txId
              apply (newId_servesCard _).bind
              exact fun approvalNo => (createCardTransaction_servesCard ..).bind fun _ => trivial

theorem serveCard_servesCard (id : Nat) (request : CardChargeRequest) :
    (ApproveCardPaymentService.serve id request).Calls ServesCard := by
  unfold ApproveCardPaymentService.serve
  exact (executeCard_servesCard request).attempt.bind fun _ => call_servesCard trivial

theorem serveCard_serves (id : Nat) (request : CardChargeRequest) :
    (ApproveCardPaymentService.serve id request).Calls Serves :=
  (serveCard_servesCard id request).mono fun _ => ServesCard.serves

/-! ## A payment asks the PG once -/

/-- The call with which `charge_billing_key` asks the PG. -/
def AsksPg {β : Type} : Op β → Prop
  | .pgHttp (.send _) => True
  | _ => False

/-- A part of a service that does not ask the PG. -/
abbrev PgFree (p : Service α) : Prop := p.Calls fun op => ¬AsksPg op

theorem base_pgFree (p : BaseService α) : PgFree (base p) :=
  Program.calls_lift (fun op => Op.base op) (fun _ h => h) p

theorem pgFree_of_serves {p : Service α} (hp : p.Calls Serves) : PgFree p := by
  apply hp.mono
  intro β op hs hask
  cases op with
  | pgHttp op =>
      cases op with
      | send request => exact hs
      | receive id => exact hask
      | respond id response => exact hask
  | _ => exact hask

theorem notifyPmsPaymentComplete_pgFree (payload : PaymentComplete) :
    PgFree (ProcessPaymentService.notifyPmsPaymentComplete payload) := by
  unfold ProcessPaymentService.notifyPmsPaymentComplete
  apply Program.Calls.bind
  · exact ⟨fun h => h, fun r => trivial⟩
  · intro r
    cases r with
    | error e => exact ⟨fun h => h, fun r => trivial⟩
    | ok u => exact ⟨fun h => h, fun r => trivial⟩

theorem settle_pgFree (session : ParkingSession) (txId : TxId) (carId key : String)
    (pgTxId approvalNo : Option String) (command : ProcessPaymentCommand) :
    PgFree (ProcessPaymentService.settle session txId carId key pgTxId approvalNo command) := by
  unfold ProcessPaymentService.settle ProcessPaymentService.markPaymentSuccess
    ProcessPaymentService.publishPaymentNotificationBestEffort
  apply Program.Calls.bind
  · apply Program.Calls.bind
    · exact ⟨fun h => h, fun r => trivial⟩
    · exact fun _ => trivial
  · intro enqueued
    apply (base_pgFree _).bind
    intro _
    apply (notifyPmsPaymentComplete_pgFree _).bind
    intro _
    cases enqueued with
    | true => trivial
    | false =>
        apply Program.Calls.bind
        · apply Program.Calls.bind
          · exact (base_pgFree _).attempt
          · exact fun _ => trivial
        · exact fun _ => trivial

theorem createPendingTransaction_pgFree (txId : TxId) (key sessionId : String) (amount : Int)
    (currency billingKey : String) :
    PgFree (createPendingTransaction txId key sessionId amount currency billingKey) := by
  unfold createPendingTransaction
  apply Program.Calls.bind
  · trivial
  · intro id
    apply (base_pgFree _).bind
    intro found
    cases found with
    | none => trivial
    | some session => exact ⟨fun h => h, fun r => trivial⟩

theorem updateTransactionStatus_pgFree (key : String) (status : TransactionStatus)
    (reason : Option String) : PgFree (updateTransactionStatus key status reason) :=
  ⟨fun h => h, fun _ => trivial⟩

theorem chargeBillingKey_once (request : ChargeRequest) :
    (HttpxPgClient.chargeBillingKey request).Once AsksPg := by
  unfold HttpxPgClient.chargeBillingKey HttpxPgClient.post
  apply Program.Once.bind
  · apply Program.Once.tryCatch
    · apply Program.Once.bind
      · exact Program.once_perform _
      · exact fun id => ⟨fun h => h, fun r => trivial⟩
    · exact fun e => trivial
  · exact fun response => trivial

theorem charge_once (session : ParkingSession) (txId : TxId) (carId key billingKey : String)
    (command : ProcessPaymentCommand) :
    (ProcessPaymentService.charge session txId carId key billingKey command).Once AsksPg := by
  unfold ProcessPaymentService.charge
  apply (chargeBillingKey_once _).bind
  intro result
  cases result with
  | success pgTxId approvalNo => exact settle_pgFree ..
  | failure pgTxId reason => exact (updateTransactionStatus_pgFree ..).bind fun _ => trivial

theorem pay_once (session : ParkingSession) (carId key : String) (command : ProcessPaymentCommand) :
    (ProcessPaymentService.pay session carId key command).Once AsksPg := by
  unfold ProcessPaymentService.pay
  apply (base_pgFree _).bind_once
  intro found
  cases found with
  | none => trivial
  | some record =>
      apply (base_pgFree _).bind_once
      intro n
      apply (createPendingTransaction_pgFree ..).bind_once
      intro _
      apply (charge_once ..).tryCatch
      exact fun e => (updateTransactionStatus_pgFree ..).bind fun _ => trivial

theorem replay_pgFree (session : ParkingSession) (key : String) (command : ProcessPaymentCommand)
    (existing : Transaction) :
    PgFree (ProcessPaymentService.replay session key command existing) := by
  unfold ProcessPaymentService.replay
  dsimp only
  split
  · exact (notifyPmsPaymentComplete_pgFree _).bind fun _ => trivial
  · trivial

theorem execute_once (sha256 : String → String) (command : ProcessPaymentCommand) :
    (ProcessPaymentService.execute sha256 command).Once AsksPg := by
  unfold ProcessPaymentService.execute
  split
  · apply Program.Calls.once
    apply (base_pgFree _).bind
    exact fun n => trivial
  · apply (base_pgFree _).bind_once
    intro ⟨session, carId⟩
    apply Program.Calls.bind_once
    · exact ⟨fun h => h, fun r => trivial⟩
    · intro existing
      cases existing with
      | some existing => exact (replay_pgFree ..).once
      | none =>
          dsimp only
          split
          · trivial
          split
          · apply Program.Calls.once
            apply (createPendingTransaction_pgFree ..).bind
            exact fun _ => settle_pgFree ..
          · exact pay_once ..

theorem retryPayments_pgFree (ids : List TxId) : PgFree (NotifyRetryWorker.retryPayments ids) := by
  induction ids with
  | nil => trivial
  | cons id ids ih =>
      apply Program.Calls.bind
      · unfold NotifyRetryWorker.retryPayment
        apply Program.Calls.bind
        · exact ⟨fun h => h, fun r => trivial⟩
        · intro found
          cases found with
          | none => trivial
          | some event =>
              apply Program.Calls.tryCatch
              · apply Program.Calls.bind
                · exact ⟨fun h => h, fun r => trivial⟩
                · exact fun _ => ⟨fun h => h, fun r => trivial⟩
              · exact fun e => trivial
      · exact fun _ => ih

theorem program_once (rt : Runtime) (request : Request) : (program rt request).Once AsksPg := by
  cases request with
  | processPayment command => exact (execute_once rt.sha256 command).bind fun _ => trivial
  | retryPayments =>
      apply Program.Calls.once
      apply Program.Calls.bind
      · apply Program.Calls.bind
        · exact ⟨fun h => h, fun r => trivial⟩
        · exact fun ids => retryPayments_pgFree ids
      · exact fun _ => trivial
  | _ => exact (base_pgFree _).once

end CarPayIn
