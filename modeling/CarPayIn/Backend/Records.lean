import CarPayIn.Python

/-! # Rows, cached records and requests of the backend

The tables of the backend database and the JSON records of its Redis stores,
with the fields that some service reads. Times are milliseconds.
-/

namespace CarPayIn

/-! ## Tables -/

structure User where
  userId : String
  name : String
deriving DecidableEq, Repr

structure Vehicle where
  carId : String
  userId : String
  carSellname : String
  plate : String
deriving DecidableEq, Repr

inductive BillingKeyStatus where
  | active
  | inactive
deriving DecidableEq, Repr

inductive RefreshTokenStatus where
  | active
  | revoked
  | expired
deriving DecidableEq, Repr

structure AppRefreshToken where
  refreshTokenHash : String
  userId : String
  carId : String
  status : RefreshTokenStatus
  expiresAt : Nat
deriving DecidableEq, Repr

inductive SessionStatus where
  | active
  | completed
  | cancelled
deriving DecidableEq, Repr

structure ParkingSession where
  sessionId : Uuid
  pmsSessionId : Option String
  carId : String
  lotId : String
  plate : String
  entryTime : String
  exitTime : Option Nat
  status : SessionStatus
deriving DecidableEq, Repr

/-- A random `uuid4`, or the `uuid5` of a name in the null namespace. -/
inductive TxId where
  | v4 (n : Nat)
  | v5 (name : String)
deriving DecidableEq, Repr

inductive TransactionStatus where
  | pending
  | success
  | failed
  | cancelled
deriving DecidableEq, Repr

inductive OutboxStatus where
  | pending
  | publishing
  | published
  | delivered
  | failed
  | dead
deriving DecidableEq, Repr

/-! ## Redis records -/

inductive QrStatus where
  | pending
  | failed
  | expired
deriving DecidableEq, Repr

structure QrSession where
  vinHash : String
  status : QrStatus
  debugMessage : String
deriving DecidableEq, Repr

inductive OAuthStateStatus where
  | pending
  | used
deriving DecidableEq, Repr

structure OAuthState where
  sessionId : String
  status : OAuthStateStatus
deriving DecidableEq, Repr

/-- An entry of the normalised vehicle list. -/
structure Car where
  carId : String
  carSellname : String
  plate : String
deriving DecidableEq, Repr

inductive OrderStatus where
  | pending
  | complete
deriving DecidableEq, Repr

structure CardOrder where
  orderId : String
  userId : String
  carId : String
  status : OrderStatus
deriving DecidableEq, Repr

/-- A row of `vehicle_billing_keys`, with the order whose webhook stored it. -/
structure VehicleBillingKey where
  carId : String
  billingKey : String
  cardLastFour : String
  status : BillingKeyStatus
  storedFor : CardOrder
deriving DecidableEq, Repr

structure PreNotify where
  userId : String
  carId : String
  lotId : String
  plate : String
deriving DecidableEq, Repr

structure FeeQuote where
  sessionId : String
  lotId : String
  amount : Int
  duration : Int
  currency : String
  entryTime : String
  status : SessionStatus
deriving DecidableEq, Repr

structure EntryRetryEvent where
  carId : String
  sessionId : Uuid
  lotId : String
  entryTime : String
deriving DecidableEq, Repr

/-- The arguments of `notify_payment_complete`. -/
structure PaymentComplete where
  pmsSessionId : Option String
  carpayParkingSessionId : String
  carpayTxId : TxId
  amount : Int
  currency : String
  approvalNo : Option String
  idempotencyKey : String
deriving DecidableEq, Repr

structure RetryEvent where
  eventType : String
  txId : TxId
  payload : PaymentComplete
  reason : String
deriving DecidableEq, Repr

/-- The payload of a `payment.completed` notification. -/
structure PaymentNotification where
  eventType : String
  txId : TxId
  sessionId : String
  carId : String
  lotId : String
  amount : Int
  currency : String
  approvalNo : Option String
deriving DecidableEq, Repr

/-! ## Tokens -/

inductive TokenType where
  | tempAccess
  | appAccess
deriving DecidableEq, Repr

/-- The claims of a signed token. `subject` is the login session of a temporary
token and the car of an application token; `exp` is in seconds. -/
structure TokenClaims where
  typ : TokenType
  userId : String
  subject : String
  exp : Nat
deriving DecidableEq, Repr

/-- A bearer string: a payload with a signature that fits it, or anything else. -/
inductive BearerToken where
  | signed (claims : TokenClaims)
  | other (text : String)
deriving DecidableEq, Repr

/-! ## Requests -/

structure ProcessPaymentCommand where
  accessToken : BearerToken
  sessionId : String
  amount : Int
  currency : String
deriving DecidableEq, Repr

structure ProcessPaymentResult where
  status : TransactionStatus
  txId : TxId
  sessionId : Option String := none
  approvalNo : Option String := none
  failedReason : Option String := none
  amount : Option Int := none
  currency : Option String := none
deriving DecidableEq, Repr

structure GetParkingFeeCommand where
  accessToken : BearerToken
  sessionId : String
deriving DecidableEq, Repr

structure GetParkingFeeResult where
  sessionId : String
  lotId : String
  amount : Int
  duration : Int
  currency : String
  entryTime : String
  status : SessionStatus
deriving DecidableEq, Repr

structure CreateQrSessionCommand where
  loginSessionId : String
  vinHash : String
deriving DecidableEq, Repr

structure HandleHyundaiOAuthCallbackCommand where
  code : String
  state : String
deriving DecidableEq, Repr

structure HandleHyundaiOAuthCallbackResult where
  sessionId : String
  userId : String
  name : String
  cars : List Car
  tempAccessToken : BearerToken
deriving DecidableEq, Repr

structure ConfirmVehicleCommand where
  tempAccessToken : BearerToken
  carId : String
  vinHash : String
deriving DecidableEq, Repr

structure ConfirmVehicleResult where
  appAccessToken : BearerToken
  appRefreshToken : String
  userId : String
  name : String
  carId : String
  car : Car
deriving DecidableEq, Repr

structure CreateCardOrderCommand where
  accessToken : BearerToken
  plate : String
  bankName : String
  agreeTerms : Bool
deriving DecidableEq, Repr

structure CreateCardOrderResult where
  orderId : String
  pgUrl : String
deriving DecidableEq, Repr

structure HandleCardWebhookCommand where
  orderId : String
  billingKey : String
  cardLastFour : String
  status : String
  signature : String
  signatureTimestamp : String
deriving DecidableEq, Repr

structure HandleEntryWebhookCommand where
  pmsToken : String
  pmsSessionId : String
  lotId : String
  plate : String
  entryTime : String
  signatureTimestamp : String
deriving DecidableEq, Repr

/-- `session_id` is absent when the status is `not_registered`. -/
structure HandleEntryWebhookResult where
  status : String
  sessionId : Option Uuid
deriving DecidableEq, Repr

structure RegisterPreNotifyCommand where
  accessToken : BearerToken
  lotId : String
deriving DecidableEq, Repr

structure RegisterPreNotifyResult where
  carId : String
  lotId : String
  plate : String
deriving DecidableEq, Repr

/-- What an execution of the backend was started for. -/
inductive Request where
  | createQrSession (command : CreateQrSessionCommand)
  | startHyundaiOAuth (sessionId : String)
  | hyundaiOAuthCallback (command : HandleHyundaiOAuthCallbackCommand)
  | confirmVehicle (command : ConfirmVehicleCommand)
  | refreshAccessToken (refreshToken : String)
  | createCardOrder (command : CreateCardOrderCommand)
  | cardWebhook (command : HandleCardWebhookCommand)
  | registerPreNotify (command : RegisterPreNotifyCommand)
  | entryWebhook (command : HandleEntryWebhookCommand)
  | getParkingFee (command : GetParkingFeeCommand)
  | processPayment (command : ProcessPaymentCommand)
  | retryEntries
  | retryPayments
deriving DecidableEq, Repr

/-- The executions of the three services: the backend's by number and request,
the other two by the exchange they answer. -/
inductive Tid where
  | backend (n : Nat) (request : Request)
  | pg (id : Nat)
  | card (id : Nat)
deriving DecidableEq, Repr

/-- A row of `transactions`, with the execution that inserted it. -/
structure Transaction where
  txId : TxId
  sessionId : Uuid
  carId : String
  billingKey : String
  pgTxId : Option String
  amount : Int
  currency : String
  status : TransactionStatus
  approvalNo : Option String
  idempotencyKey : String
  failedReason : Option String
  insertedBy : Tid
deriving DecidableEq, Repr

/-- A row of `payment_notification_outbox` as a payment inserts it. -/
structure PaymentNotificationOutbox where
  txId : TxId
  sessionId : Uuid
  carId : String
  eventType : String
  channel : String
  destination : String
  payload : PaymentNotification
  status : OutboxStatus
deriving DecidableEq, Repr

end CarPayIn
