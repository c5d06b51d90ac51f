import CarPayIn.Backend.Services
import CarPayIn.Backend.Effects
import CarPayIn.Payments.World

/-! # Payment in the backend

`ProcessPaymentService`, the PG client and the payment half of
`NotifyRetryWorker`, over the SQL repositories and the Redis stores the
application is wired with.
-/

namespace CarPayIn

open Process Store

abbrev Service (α : Type) : Type 1 := Program Op PyError α

namespace Service

def call {α : Type} (op : Op α) : Service α := .perform op

/-- A part of a service that only calls accounts and stores. -/
def base {α : Type} (p : BaseService α) : Service α := p.lift .base

def getTransactionByIdempotencyKey (key : String) : Service (Option Transaction) :=
  call (.transactions (.getByIdempotencyKey key))

def updateTransactionStatus (key : String) (status : TransactionStatus)
    (failedReason : Option String) : Service Unit :=
  call (.transactions (.updateStatus key status none none failedReason))

def createPendingTransaction (txId : TxId) (key sessionId : String) (amount : Int)
    (currency billingKey : String) : Service Unit := do
  let id ← .done (Uuid.parse sessionId)
  match ← base (ask (.getSessionById id)) with
  | none => throw (.lookupError "session_not_found")
  | some session =>
      call (.transactions (.insert fun t => {
        txId := txId
        sessionId := id
        carId := session.carId
        billingKey := billingKey
        pgTxId := none
        amount := amount
        currency := currency
        status := .pending
        approvalNo := none
        idempotencyKey := key
        failedReason := none
        insertedBy := t }))

end Service

open Service

/-! ## The PG client -/

/-- The dictionaries `charge_billing_key` returns. -/
inductive PgResult where
  | success (pgTxId approvalNo : Option String)
  | failure (pgTxId failedReason : Option String)
deriving DecidableEq, Repr

namespace HttpxPgClient

def decode (response : HttpResponse) : Except PyError PgResult := do
  if response.statusCode ≥ 500 then
    throw (.runtimeError ("pg_charge_failed: HTTP " ++ toString response.statusCode))
  else
    let data ← response.json
    if response.statusCode = 400 ∨ data.get "status" = some "failed" then
      return .failure (data.getD "pg_tx_id" "") (data.getD "failed_reason" "payment_failed")
    else
      let pgTxId ← data.index "pg_tx_id"
      let approvalNo ← data.index "approval_no"
      return .success pgTxId approvalNo

def post (request : ChargeRequest) : Service HttpResponse := do
  let id ← call (.pgHttp (.send request))
  call (.pgHttp (.receive id))

/-- Only the transport errors of the HTTP library are turned into a `RuntimeError`. -/
def wrapError : PyError → PyError
  | .httpError m => .runtimeError ("pg_charge_failed: " ++ m)
  | e => e

def chargeBillingKey (request : ChargeRequest) : Service PgResult := do
  let response ← tryCatch (post request) fun e => throw (wrapError e)
  .done (decode response)

end HttpxPgClient

/-! ## UC-PAY-002 -/

namespace ProcessPaymentService

def paymentNotifyRetryTtlSeconds : Nat := 7 * 24 * 60 * 60

/-- The text of a request that the idempotency key is the hash of. -/
def keyText (carId : String) (command : ProcessPaymentCommand) : String :=
  command.sessionId ++ carId ++ toString command.amount ++ command.currency

variable (sha256 : String → String)

def idempotencyKey (carId : String) (command : ProcessPaymentCommand) : String :=
  sha256 (keyText carId command)

def pmsPayload (session : ParkingSession) (txId : TxId) (approvalNo : Option String)
    (key : String) (command : ProcessPaymentCommand) : PaymentComplete where
  pmsSessionId := session.pmsSessionId
  carpayParkingSessionId := command.sessionId
  carpayTxId := txId
  amount := command.amount
  currency := command.currency
  approvalNo := approvalNo
  idempotencyKey := key

/-- A failed notification is recorded for the retry worker; the record itself may fail. -/
def notifyPmsPaymentComplete (payload : PaymentComplete) : Service Unit := do
  match ← (call (.notifyPaymentComplete payload)).attempt with
  | .error exc =>
      save .retries payload.carpayTxId
        { eventType := "pms_payment_notify", txId := payload.carpayTxId, payload := payload,
          reason := exc.str }
        paymentNotifyRetryTtlSeconds
  | .ok _ => delete .retries payload.carpayTxId

def notificationPayload (session : ParkingSession) (txId : TxId) (carId : String)
    (approvalNo : Option String) (command : ProcessPaymentCommand) : PaymentNotification where
  eventType := "payment.completed"
  txId := txId
  sessionId := command.sessionId
  carId := carId
  lotId := session.lotId
  amount := command.amount
  currency := command.currency
  approvalNo := approvalNo

/-- The SQL repository enqueues the notification itself and says so. -/
def markPaymentSuccess (key : String) (pgTxId approvalNo : Option String)
    (payload : PaymentNotification) : Service Bool := do
  call (.transactions (.markSuccessAndEnqueue key pgTxId approvalNo
    ("payment/complete/" ++ payload.carId) payload))
  return true

def publishPaymentNotificationBestEffort : Service Unit := do
  let _ ← (base (ask .publishNotification)).attempt
  return ()

def settle (session : ParkingSession) (txId : TxId) (carId key : String)
    (pgTxId approvalNo : Option String) (command : ProcessPaymentCommand) :
    Service ProcessPaymentResult := do
  let payload := notificationPayload session txId carId approvalNo command
  let enqueued ← markPaymentSuccess key pgTxId approvalNo payload
  base (BaseService.updateSessionStatus command.sessionId .completed)
  notifyPmsPaymentComplete (pmsPayload session txId approvalNo key command)
  if enqueued then pure () else publishPaymentNotificationBestEffort
  return { status := .success, txId := txId, approvalNo := approvalNo }

def replay (session : ParkingSession) (key : String) (command : ProcessPaymentCommand)
    (existing : Transaction) : Service ProcessPaymentResult := do
  if existing.status = .success then
    notifyPmsPaymentComplete (pmsPayload session existing.txId existing.approvalNo key command)
  else pure ()
  return { status := existing.status, txId := existing.txId, approvalNo := existing.approvalNo,
           failedReason := existing.failedReason }

def payFree (session : ParkingSession) (carId key : String) (command : ProcessPaymentCommand) :
    Service ProcessPaymentResult := do
  let txId := TxId.v5 key
  createPendingTransaction txId key command.sessionId command.amount command.currency "FREE"
  settle session txId carId key none (some "FREE") command

def charge (session : ParkingSession) (txId : TxId) (carId key billingKey : String)
    (command : ProcessPaymentCommand) : Service ProcessPaymentResult := do
  match ← HttpxPgClient.chargeBillingKey ⟨billingKey, command.amount, command.currency, key⟩ with
  | .failure _ failedReason =>
      updateTransactionStatus key .failed failedReason
      return { status := .failed, txId := txId, failedReason := failedReason }
  | .success pgTxId approvalNo => settle session txId carId key pgTxId approvalNo command

def pay (session : ParkingSession) (carId key : String) (command : ProcessPaymentCommand) :
    Service ProcessPaymentResult := do
  match ← base (ask (.getActiveBillingKey carId)) with
  | none => throw (.valueError "no_active_billing_key")
  | some record =>
      let n ← base (ask .draw)
      let txId := TxId.v4 n
      createPendingTransaction txId key command.sessionId command.amount command.currency
        record.billingKey
      tryCatch (charge session txId carId key record.billingKey command) fun e => do
        updateTransactionStatus key .failed (some e.str)
        return { status := .failed, txId := txId, failedReason := some e.str }

/-- The checks of quote, session and car that stand before any transaction. -/
def authorise (command : ProcessPaymentCommand) : BaseService (ParkingSession × String) := do
  let token ← BaseService.validateAppToken command.accessToken
  let carId := token.subject
  match ← BaseService.getQuote command.sessionId with
  | none => throw (.valueError "quote_not_found")
  | some quote =>
      if quote.amount ≠ command.amount ∨ quote.currency ≠ command.currency then
        throw (.valueError "amount_currency_mismatch")
      else match ← BaseService.getSessionById command.sessionId with
        | none => throw (.valueError "session_not_found")
        | some session =>
            if session.carId ≠ carId then throw (.valueError "session_car_id_mismatch")
            else return (session, carId)

def execute (command : ProcessPaymentCommand) : Service ProcessPaymentResult := do
  if command.sessionId = "sess_dev_001" then
    let n ← base (ask .draw)
    return { status := .success, txId := .v4 n, sessionId := some command.sessionId,
             approvalNo := some "DEV-APPROVED", amount := some command.amount,
             currency := some command.currency }
  else
    let (session, carId) ← base (authorise command)
    let key := idempotencyKey sha256 carId command
    match ← getTransactionByIdempotencyKey key with
    | some existing => replay session key command existing
    | none =>
        if command.amount < 0 then throw (.valueError "invalid_amount")
        else if command.amount = 0 then payFree session carId key command
        else pay session carId key command

end ProcessPaymentService

/-! ## The retry worker -/

namespace NotifyRetryWorker

def retryPayment (key : TxId) : Service Unit := do
  match ← read .retries key with
  | none => return ()
  | some event =>
      tryCatch (do
        call (.notifyPaymentComplete event.payload)
        delete .retries key) fun _ => pure ()

def retryPayments : List TxId → Service Unit
  | [] => pure ()
  | key :: keys => do
      retryPayment key
      retryPayments keys

/-- One scan of the recorded payment notifications. -/
def processPaymentRetries : Service Unit := do
  let keys ← call .scanRetries
  retryPayments keys

end NotifyRetryWorker

end CarPayIn
