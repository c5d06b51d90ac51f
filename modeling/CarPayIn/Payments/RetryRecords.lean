import CarPayIn.Encoding.JsonRoundTrip
import CarPayIn.Payments.ProcessPayment

/-! # The records of failed payment notifications

Two services write down what they could not tell the PMS, as JSON in Redis, and
one worker turns a record into the keyword arguments of a call. It repeats the
call that failed only if none of the arguments was left out.
-/

namespace CarPayIn.RetryRecords

open Process Encoding

variable {F : Type}

/-! ## Keyword arguments -/

/-- The parameters of `notify_payment_complete`, all of them keyword-only and without a default. -/
inductive Parameter where
  | pmsSessionId
  | carpayParkingSessionId
  | carpayTxId
  | amount
  | currency
  | approvalNo
  | idempotencyKey
deriving DecidableEq, Repr

namespace Parameter

def name : Parameter → String
  | pmsSessionId => "pms_session_id"
  | carpayParkingSessionId => "carpay_parking_session_id"
  | carpayTxId => "carpay_tx_id"
  | amount => "amount"
  | currency => "currency"
  | approvalNo => "approval_no"
  | idempotencyKey => "idempotency_key"

def all : List Parameter :=
  [pmsSessionId, carpayParkingSessionId, carpayTxId, amount, currency, approvalNo, idempotencyKey]

end Parameter

abbrev Arguments (F : Type) : Type := Parameter → Value F

abbrev Kwargs (F : Type) : Type := List (String × Value F)

/-- The parameters of a call `f(**kwargs)`. Each error is a `TypeError`. -/
def bindArguments (kwargs : List (Text × Value F)) : Except PyError (Arguments F) :=
  if kwargs.any fun e => !Parameter.all.any fun p => text p.name = e.1 then
    .error (.exception "got an unexpected keyword argument")
  else if Parameter.all.any fun p => (get? kwargs (text p.name)).isNone then
    .error (.exception "missing required keyword-only argument")
  else .ok fun p => (get? kwargs (text p.name)).getD .null

/-- `f(**value)` -/
def splat : Value F → Except PyError (Arguments F)
  | .dict kwargs => bindArguments kwargs
  | _ => .error (.exception "argument after ** must be a mapping")

/-! ## Redis and the PMS -/

inductive Op (F : Type) : Type → Type where
  /-- The status of the transaction, if there is one. -/
  | getTransactionById (txId : String) : Op F (Option String)
  /-- The PMS answers with JSON. -/
  | notifyPaymentComplete (arguments : Arguments F) : Op F (Value F)
  /-- The time of the call and the time at which the record expires. -/
  | times (ttlSeconds : Nat) : Op F (String × String)
  | set (key : String) (value : Text) (ttlSeconds : Nat) : Op F Unit
  | get (key : String) : Op F (Option Text)
  | delete (key : String) : Op F Unit

abbrev Service (F α : Type) : Type 1 := Program (Op F) PyError α

section
variable [DecidableEq F] (fmt : FloatFormat F)

/-- `_save` of a store, which adds two fields. -/
def save (key : String) (value : Kwargs F) (ttlSeconds : Nat) : Service F Unit := do
  let (createdAt, expiresAt) ← .perform (.times ttlSeconds)
  let payload := value ++ [("created_at", str createdAt), ("expires_at", str expiresAt)]
  match dumps fmt .default (dict payload) with
  | none => throw (.valueError "Exceeds the limit (4300 digits) for integer string conversion")
  | some text => .perform (.set key text ttlSeconds)

namespace RedisPaymentNotifyRetryStore

def recordRetryEvent (eventType txId : String) (payload : Kwargs F) (reason : String)
    (ttlSeconds : Nat) : Service F Unit :=
  save fmt ("pms_payment_retry:" ++ txId)
    [("event_type", str eventType), ("tx_id", str txId), ("payload", dict payload),
      ("reason", str reason), ("status", str "pending")] ttlSeconds

def clearRetryEvent (txId : String) : Service F Unit :=
  .perform (.delete ("pms_payment_retry:" ++ txId))

end RedisPaymentNotifyRetryStore

open RedisPaymentNotifyRetryStore

/-! ## The writers -/

structure NotifyPmsPaymentCompleteCommand where
  pmsSessionId : String
  carpayParkingSessionId : String
  carpayTxId : String
  amount : Int
  currency : String
  approvalNo : String
  idempotencyKey : String
deriving DecidableEq, Repr

structure NotifyPmsPaymentCompleteResult where
  status : String
  retryReason : Option String
deriving DecidableEq, Repr

/-- `response.get("status") == "conflict"` -/
def isConflict : Value F → Except PyError Bool
  | .dict response => .ok <| match get? response (text "status") with
    | some (.str status) => status = text "conflict"
    | _ => false
  | _ => .error (.exception "object has no attribute 'get'")

namespace NotifyPmsPaymentCompleteService

def arguments (command : NotifyPmsPaymentCompleteCommand) : Arguments F
  | .pmsSessionId => str command.pmsSessionId
  | .carpayParkingSessionId => str command.carpayParkingSessionId
  | .carpayTxId => str command.carpayTxId
  | .amount => .int command.amount
  | .currency => str command.currency
  | .approvalNo => str command.approvalNo
  | .idempotencyKey => str command.idempotencyKey

def payload (command : NotifyPmsPaymentCompleteCommand) : Kwargs F :=
  [("pms_session_id", str command.pmsSessionId),
    ("carpay_parking_session_id", str command.carpayParkingSessionId),
    ("amount", .int command.amount), ("currency", str command.currency),
    ("approval_no", str command.approvalNo), ("idempotency_key", str command.idempotencyKey)]

def notify (command : NotifyPmsPaymentCompleteCommand) : Service F Bool := do
  let response ← .perform (.notifyPaymentComplete (arguments command))
  .done (isConflict response)

def recordFailure (command : NotifyPmsPaymentCompleteCommand) (e : PyError) :
    Service F NotifyPmsPaymentCompleteResult := do
  recordRetryEvent fmt "pms_payment_notify" command.carpayTxId (payload command) e.str
    (7 * 24 * 60 * 60)
  return ⟨"retry_scheduled", some e.str⟩

def execute (command : NotifyPmsPaymentCompleteCommand) :
    Service F NotifyPmsPaymentCompleteResult := do
  let tx ← .perform (.getTransactionById command.carpayTxId)
  if tx ≠ some "success" then throw (.valueError "transaction_not_success")
  else match ← (notify command).attempt with
    | .ok conflict => return ⟨if conflict then "already_processed" else "success", none⟩
    | .error e => recordFailure fmt command e

end NotifyPmsPaymentCompleteService

def optional : Option String → Value F
  | some s => str s
  | none => .null

namespace ProcessPaymentService

variable (uuid : TxId → String)

def payload (payment : PaymentComplete) : Kwargs F :=
  [("pms_session_id", optional payment.pmsSessionId),
    ("carpay_parking_session_id", str payment.carpayParkingSessionId),
    ("carpay_tx_id", str (uuid payment.carpayTxId)), ("amount", .int payment.amount),
    ("currency", str payment.currency), ("approval_no", optional payment.approvalNo),
    ("idempotency_key", str payment.idempotencyKey)]

/-- The same dictionary is splatted into the call and recorded when the call fails. -/
def notifyPmsPaymentComplete (payment : PaymentComplete) : Service F Unit := do
  let payload := payload uuid payment
  let notification : Service F (Value F) := do
    let arguments ← .done (splat (dict payload))
    .perform (.notifyPaymentComplete arguments)
  match ← notification.attempt with
  | .error exc =>
      recordRetryEvent fmt "pms_payment_notify" (uuid payment.carpayTxId) payload exc.str
        CarPayIn.ProcessPaymentService.paymentNotifyRetryTtlSeconds
  | .ok _ => clearRetryEvent (uuid payment.carpayTxId)

end ProcessPaymentService

/-! ## The worker -/

namespace NotifyRetryWorker

/-- `_retry_payment`. A text that is no JSON is deleted. -/
def retryPayment (key : String) : Service F Unit := do
  match ← .perform (.get key) with
  | none => return ()
  | some raw =>
      if raw = [] then return ()
      else match loads fmt raw with
        | none => .perform (.delete key)
        | some (.dict event) =>
            let payload := (get? event (text "payload")).getD (dict [])
            tryCatch (do
              let arguments ← .done (splat payload)
              let _ ← .perform (.notifyPaymentComplete arguments)
              .perform (.delete key)) fun _ => return ()
        | some _ => throw (.exception "object has no attribute 'get'")

end NotifyRetryWorker

end

end CarPayIn.RetryRecords
