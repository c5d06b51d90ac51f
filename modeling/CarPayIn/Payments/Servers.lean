import CarPayIn.Payments.ProcessPayment

/-! # The PG and the card service

`ChargeBillingKeyService` and `ApproveCardPaymentService` with the routes and
exception handlers that turn their results into HTTP responses.
-/

namespace CarPayIn

open Process Service

/-- The handlers of both services: a `ValueError`, an `IntegrityError`, and the
plain text of everything that is not handled. -/
def errorResponse : PyError → HttpResponse
  | .valueError m => ⟨400, some [("code", some "BAD_REQUEST"), ("message", some m)]⟩
  | .integrityError _ => ⟨409, some [("code", some "CONFLICT"), ("message", some "duplicate_key")]⟩
  | _ => ⟨500, none⟩

/-! ## The card client of the PG -/

namespace HttpxMockCardClient

def post (request : CardChargeRequest) : Service HttpResponse := do
  let id ← call (.cardHttp (.send request))
  call (.cardHttp (.receive id))

/-- `raise_for_status`. -/
def raiseForStatus (response : HttpResponse) : Except PyError HttpResponse :=
  if 200 ≤ response.statusCode ∧ response.statusCode < 300 then .ok response
  else .error (.httpError ("HTTP " ++ toString response.statusCode))

def wrapError : PyError → PyError
  | .httpError m => .runtimeError ("mock_card_charge_failed: " ++ m)
  | e => e

def approvePayment (request : CardChargeRequest) : Service Json := do
  let response ← tryCatch (do
    let response ← post request
    .done (raiseForStatus response)) fun e => throw (wrapError e)
  .done response.json

end HttpxMockCardClient

/-! ## `ChargeBillingKeyService` -/

structure ChargeBillingKeyResult where
  status : TransactionStatus
  txId : String
  approvalNo : Option String
deriving DecidableEq, Repr

namespace ChargeBillingKeyService

/-- `tx-` and a random suffix. -/
def newTxId : Service String := do
  let n ← call (.pg .draw)
  return "tx-" ++ toString n

def updateTransactionStatus (key : String) (status : TransactionStatus)
    (approvalNo cardTxId failedReason : Option String) : Service Unit :=
  call (.pg (.updateStatus key status approvalNo cardTxId failedReason))

/-- The repository returns a row that is already there without comparing it. -/
def createTransaction (txId : String) (command : ChargeRequest) (status : TransactionStatus)
    (failedReason : Option String) : Service Unit := do
  match ← call (.pg (.getByIdempotencyKey command.idempotencyKey)) with
  | some _ => return ()
  | none =>
      match ← call (.pg (.getBillingKey command.billingKey)) with
      | none => throw (.lookupError "billing_key_not_found")
      | some record =>
          call (.pg (.insert fun t => {
            pgTxId := txId
            billingKey := command.billingKey
            cardToken := record.cardToken
            cardTxId := none
            amount := command.amount
            currency := command.currency
            approvalNo := none
            status := status
            idempotencyKey := command.idempotencyKey
            failedReason := failedReason
            insertedBy := t }))

/-- The body of the `try` around the card request. -/
def approve (txId cardToken : String) (command : ChargeRequest) :
    Service ChargeBillingKeyResult := do
  let approvalData ← HttpxMockCardClient.approvePayment
    ⟨cardToken, command.amount, command.currency, command.idempotencyKey⟩
  if approvalData.getD "status" "success" ≠ some "success" then
    updateTransactionStatus command.idempotencyKey .failed none (approvalData.get "tx_id")
      (some "card_payment_failed")
    return ⟨.failed, txId, none⟩
  else
    let approvalNo ← .done (approvalData.index "approval_no")
    updateTransactionStatus command.idempotencyKey .success approvalNo (approvalData.get "tx_id") none
    return ⟨.success, txId, approvalNo⟩

def execute (command : ChargeRequest) : Service ChargeBillingKeyResult := do
  match ← call (.pg (.getByIdempotencyKey command.idempotencyKey)) with
  | some existing => return ⟨existing.status, existing.pgTxId, existing.approvalNo⟩
  | none =>
      match ← call (.pg (.getBillingKey command.billingKey)) with
      | none => return ⟨.failed, ← newTxId, none⟩
      | some record =>
          let txId ← newTxId
          if record.status ≠ .active then
            createTransaction txId command .failed (some "inactive_billing_key")
            return ⟨.failed, txId, none⟩
          else
            createTransaction txId command .pending none
            tryCatch (approve txId record.cardToken command) fun exc => do
              updateTransactionStatus command.idempotencyKey .failed none none (some exc.str)
              return ⟨.failed, txId, none⟩

/-- The keys of a response model that are not `None`. -/
def optional (key : String) : Option String → Json
  | none => []
  | some v => [(key, some v)]

def okResponse (result : ChargeBillingKeyResult) : HttpResponse where
  statusCode := if result.status = .failed then 400 else 200
  body := some ([("status", some result.status.text), ("pg_tx_id", some result.txId)] ++
    optional "approval_no" result.approvalNo ++
    optional "failed_reason" (if result.status = .success then none else some "payment_failed"))

def response : Except PyError ChargeBillingKeyResult → HttpResponse
  | .ok result => okResponse result
  | .error e => errorResponse e

/-- One delivered `POST /pg/payments/billing`. -/
def serve (id : Nat) (request : ChargeRequest) : Service Unit := do
  let outcome ← (execute request).attempt
  call (.pgHttp (.respond id (response outcome)))

end ChargeBillingKeyService

/-! ## `ApproveCardPaymentService` -/

structure ApproveCardPaymentResult where
  status : TransactionStatus
  txId : String
  approvalNo : Option String
deriving DecidableEq, Repr

namespace ApproveCardPaymentService

def createTransaction (txId : String) (command : CardChargeRequest) (status : TransactionStatus)
    (approvalNo : Option String) : Service Unit := do
  match ← call (.card (.getByIdempotencyKey command.idempotencyKey)) with
  | some _ => return ()
  | none =>
      call (.card (.insert fun t => {
        txId := txId
        cardToken := command.cardToken
        amount := command.amount
        currency := command.currency
        approvalNo := approvalNo
        status := status
        idempotencyKey := command.idempotencyKey
        insertedBy := t }))

def newId (label : String) : Service String := do
  let n ← call (.card .draw)
  return label ++ toString n

def isActive (record : Option CardToken) : Bool := record.any fun r => r.status = .active

def execute (command : CardChargeRequest) : Service ApproveCardPaymentResult := do
  match ← call (.card (.getByIdempotencyKey command.idempotencyKey)) with
  | some existing => return ⟨existing.status, existing.txId, existing.approvalNo⟩
  | none =>
      if command.amount ≤ 0 then throw (.valueError "invalid_amount")
      else
        let record ← call (.card (.getCardToken command.cardToken))
        if ¬isActive record then
          let txId ← newId "card-tx-"
          createTransaction txId command .failed none
          return ⟨.failed, txId, none⟩
        else
          let txId ← newId "card-tx-"
          let approvalNo ← newId "CARD-"
          createTransaction txId command .success (some approvalNo)
          return ⟨.success, txId, some approvalNo⟩

def okResponse (result : ApproveCardPaymentResult) : HttpResponse where
  statusCode := 200
  body := some [("status", some result.status.text), ("tx_id", some result.txId),
    ("approval_no", result.approvalNo)]

def response : Except PyError ApproveCardPaymentResult → HttpResponse
  | .ok result => okResponse result
  | .error e => errorResponse e

/-- One delivered `POST /cards/charge`. -/
def serve (id : Nat) (request : CardChargeRequest) : Service Unit := do
  let outcome ← (execute request).attempt
  call (.cardHttp (.respond id (response outcome)))

end ApproveCardPaymentService

end CarPayIn
