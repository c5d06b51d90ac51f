import CarPayIn.Backend.Base
import CarPayIn.Process.Exchange
import CarPayIn.Process.System

/-! # The state a payment runs through

The backend database and Redis, the two HTTP hops, and the databases of the PG
and of the card service. Rows of the three transaction tables record which
execution inserted them.
-/

namespace CarPayIn

open Store Process

def TransactionStatus.text : TransactionStatus → String
  | .pending => "pending"
  | .success => "success"
  | .failed => "failed"
  | .cancelled => "cancelled"

/-- The body of `POST /pg/payments/billing`. -/
structure ChargeRequest where
  billingKey : String
  amount : Int
  currency : String
  idempotencyKey : String
deriving DecidableEq, Repr

/-- The body of `POST /cards/charge`. -/
structure CardChargeRequest where
  cardToken : String
  amount : Int
  currency : String
  idempotencyKey : String
deriving DecidableEq, Repr

/-! ## Tables of the PG and of the card service -/

structure PgBillingKey where
  billingKey : String
  cardToken : String
  status : BillingKeyStatus
deriving DecidableEq, Repr

structure PgTransaction where
  pgTxId : String
  billingKey : String
  cardToken : String
  cardTxId : Option String
  amount : Int
  currency : String
  approvalNo : Option String
  status : TransactionStatus
  idempotencyKey : String
  failedReason : Option String
  insertedBy : Tid
deriving DecidableEq, Repr

structure CardToken where
  cardToken : String
  status : BillingKeyStatus
deriving DecidableEq, Repr

/-- A row of `tx`. -/
structure CardTx where
  txId : String
  cardToken : String
  amount : Int
  currency : String
  approvalNo : Option String
  status : TransactionStatus
  idempotencyKey : String
  insertedBy : Tid
deriving DecidableEq, Repr

abbrev PgCall := Exchange Tid ChargeRequest HttpResponse
abbrev CardCall := Exchange Tid CardChargeRequest HttpResponse

structure World where
  base : Base
  transactions : List Transaction
  outbox : List PaymentNotificationOutbox
  retries : Cache TxId RetryEvent
  /-- The keys a `SCAN` of the retry events yields next. -/
  scanned : List TxId
  /-- The notifications that the PMS has answered with success. -/
  acknowledged : List PaymentComplete
  pgCalls : List PgCall
  pgDrawn : Nat
  pgBillingKeys : List PgBillingKey
  pgTransactions : List PgTransaction
  cardCalls : List CardCall
  cardDrawn : Nat
  cardTokens : List CardToken
  cardTransactions : List CardTx

/-! ## Commits -/

/-- `Integer` columns hold 32 bits. -/
def isInteger (n : Int) : Bool := -2 ^ 31 ≤ n ∧ n < 2 ^ 31

/-- `currency ~ '^[A-Z]{3}$'` -/
def isCurrency (text : String) : Bool :=
  text.length = 3 && text.toList.all fun c => 65 ≤ c.toNat ∧ c.toNat ≤ 90

namespace World

variable (w : World)

def getTransaction (key : String) : Option Transaction :=
  get? Transaction.idempotencyKey key w.transactions

def insertTransaction (row : Transaction) : Except PyError World :=
  if ¬isInteger row.amount then .error (.dataError "amount")
  else if row.amount < 0 then .error (.integrityError "ck_transactions_amount")
  else if ¬isCurrency row.currency then .error (.integrityError "ck_transactions_currency")
  else if w.transactions.any fun r => r.txId = row.txId then
    .error (.integrityError "transactions_pkey")
  else if (w.getTransaction row.idempotencyKey).isSome then
    .error (.integrityError "transactions_idempotency_key_key")
  else .ok { w with transactions := row :: w.transactions }

def setTransaction (key : String) (f : Transaction → Transaction) : World :=
  { w with transactions := modify Transaction.idempotencyKey key f w.transactions }

/-- The change `update_transaction_status` commits. -/
def statusChange (status : TransactionStatus) (pgTxId approvalNo failedReason : Option String)
    (row : Transaction) : Transaction :=
  { row with status := status, pgTxId := pgTxId, approvalNo := approvalNo,
             failedReason := failedReason }

def updateTransactionStatus (key : String) (status : TransactionStatus)
    (pgTxId approvalNo failedReason : Option String) : Except PyError World :=
  match w.getTransaction key with
  | none => .error (.lookupError "transaction_not_found")
  | some _ => .ok (w.setTransaction key (statusChange status pgTxId approvalNo failedReason))

/-- The success update and the outbox row, in one commit. -/
def markSuccessAndEnqueue (key : String) (pgTxId approvalNo : Option String)
    (destination : String) (payload : PaymentNotification) : Except PyError World :=
  match w.getTransaction key with
  | none => .error (.lookupError "transaction_not_found")
  | some row =>
      let w' := w.setTransaction key (statusChange .success pgTxId approvalNo none)
      match get? PaymentNotificationOutbox.txId row.txId w.outbox with
      | some _ => .ok w'
      | none => .ok { w' with outbox := ⟨row.txId, row.sessionId, row.carId, "payment.completed",
          "iot", destination, payload, .pending⟩ :: w.outbox }

def getPgTransaction (key : String) : Option PgTransaction :=
  get? PgTransaction.idempotencyKey key w.pgTransactions

def insertPgTransaction (row : PgTransaction) : Except PyError World :=
  if ¬isInteger row.amount then .error (.dataError "amount")
  else if row.amount ≤ 0 then .error (.integrityError "ck_pg_transactions_amount")
  else if w.pgTransactions.any fun r => r.pgTxId = row.pgTxId then
    .error (.integrityError "transactions_pkey")
  else if (w.getPgTransaction row.idempotencyKey).isSome then
    .error (.integrityError "transactions_idempotency_key_key")
  else .ok { w with pgTransactions := row :: w.pgTransactions }

def pgStatusChange (status : TransactionStatus) (approvalNo cardTxId failedReason : Option String)
    (row : PgTransaction) : PgTransaction :=
  { row with status := status, approvalNo := approvalNo, cardTxId := cardTxId,
             failedReason := failedReason }

def updatePgTransactionStatus (key : String) (status : TransactionStatus)
    (approvalNo cardTxId failedReason : Option String) : Except PyError World :=
  match w.getPgTransaction key with
  | none => .error (.lookupError "transaction_not_found")
  | some _ => .ok { w with pgTransactions := modify PgTransaction.idempotencyKey key
                              (pgStatusChange status approvalNo cardTxId failedReason)
                              w.pgTransactions }

def getCardTx (key : String) : Option CardTx := get? CardTx.idempotencyKey key w.cardTransactions

def insertCardTx (row : CardTx) : Except PyError World :=
  if ¬isInteger row.amount then .error (.dataError "amount")
  else if row.amount ≤ 0 then .error (.integrityError "ck_tx_amount")
  else if (get? CardToken.cardToken row.cardToken w.cardTokens).isNone then
    .error (.integrityError "tx_card_token_fkey")
  else if w.cardTransactions.any fun r => r.txId = row.txId then .error (.integrityError "tx_pkey")
  else if (w.getCardTx row.idempotencyKey).isSome then
    .error (.integrityError "tx_idempotency_key_key")
  else .ok { w with cardTransactions := row :: w.cardTransactions }

def write (r : Except PyError World) : Except PyError Unit × World :=
  match r with
  | .ok w' => (.ok (), w')
  | .error e => (.error e, w)

end World

/-! ## Calls -/

/-- Calls on the backend's transactions. A new row is given without the execution
that inserts it, which is the caller. -/
inductive TransactionOp : Type → Type where
  | insert (row : Tid → Transaction) : TransactionOp Unit
  | getByIdempotencyKey (key : String) : TransactionOp (Option Transaction)
  | updateStatus (key : String) (status : TransactionStatus)
      (pgTxId approvalNo failedReason : Option String) : TransactionOp Unit
  | markSuccessAndEnqueue (key : String) (pgTxId approvalNo : Option String)
      (destination : String) (payload : PaymentNotification) : TransactionOp Unit

inductive PgOp : Type → Type where
  | draw : PgOp Nat
  | getBillingKey (billingKey : String) : PgOp (Option PgBillingKey)
  | getByIdempotencyKey (key : String) : PgOp (Option PgTransaction)
  | insert (row : Tid → PgTransaction) : PgOp Unit
  | updateStatus (key : String) (status : TransactionStatus)
      (approvalNo cardTxId failedReason : Option String) : PgOp Unit

inductive CardOp : Type → Type where
  | draw : CardOp Nat
  | getCardToken (cardToken : String) : CardOp (Option CardToken)
  | getByIdempotencyKey (key : String) : CardOp (Option CardTx)
  | insert (row : Tid → CardTx) : CardOp Unit

inductive Op : Type → Type 1 where
  | base {β : Type} (op : BaseOp β) : Op β
  | transactions {β : Type} (op : TransactionOp β) : Op β
  | retries {β : Type} (op : CacheOp TxId RetryEvent β) : Op β
  | scanRetries : Op (List TxId)
  | notifyPaymentComplete (payload : PaymentComplete) : Op Unit
  | pgHttp {β : Type} (op : HttpOp ChargeRequest HttpResponse β) : Op β
  | pg {β : Type} (op : PgOp β) : Op β
  | cardHttp {β : Type} (op : HttpOp CardChargeRequest HttpResponse β) : Op β
  | card {β : Type} (op : CardOp β) : Op β

namespace World

variable (w : World)

def execTransactions (t : Tid) {β : Type} (op : TransactionOp β) : Except PyError β × World :=
  match op with
  | .insert row => w.write (w.insertTransaction (row t))
  | .getByIdempotencyKey key => (.ok (w.getTransaction key), w)
  | .updateStatus key status pgTxId approvalNo failedReason =>
      w.write (w.updateTransactionStatus key status pgTxId approvalNo failedReason)
  | .markSuccessAndEnqueue key pgTxId approvalNo destination payload =>
      w.write (w.markSuccessAndEnqueue key pgTxId approvalNo destination payload)

def execPg (t : Tid) {β : Type} (op : PgOp β) : Except PyError β × World :=
  match op with
  | .draw => (.ok w.pgDrawn, { w with pgDrawn := w.pgDrawn + 1 })
  | .getBillingKey billingKey => (.ok (get? PgBillingKey.billingKey billingKey w.pgBillingKeys), w)
  | .getByIdempotencyKey key => (.ok (w.getPgTransaction key), w)
  | .insert row => w.write (w.insertPgTransaction (row t))
  | .updateStatus key status approvalNo cardTxId failedReason =>
      w.write (w.updatePgTransactionStatus key status approvalNo cardTxId failedReason)

def execCard (t : Tid) {β : Type} (op : CardOp β) : Except PyError β × World :=
  match op with
  | .draw => (.ok w.cardDrawn, { w with cardDrawn := w.cardDrawn + 1 })
  | .getCardToken cardToken => (.ok (get? CardToken.cardToken cardToken w.cardTokens), w)
  | .getByIdempotencyKey key => (.ok (w.getCardTx key), w)
  | .insert row => w.write (w.insertCardTx (row t))

/-- A caller that stops waiting sees the error of a timeout. -/
def timedOut : PyError := .httpError "timed out"

def exec (t : Tid) {β : Type} (op : Op β) : Option (Except PyError β × World) :=
  match op with
  | .base op =>
      let (r, s) := w.base.exec op
      some (r, { w with base := s })
  | .transactions op => some (w.execTransactions t op)
  | .retries op =>
      let (r, c) := w.retries.exec w.base.now op
      some (.ok r, { w with retries := c })
  | .scanRetries => some (.ok w.scanned, w)
  | .notifyPaymentComplete payload =>
      some (.ok (), { w with acknowledged := payload :: w.acknowledged })
  | .pgHttp op => (Exchange.exec t timedOut op w.pgCalls).map fun (r, xs) =>
      (r, { w with pgCalls := xs })
  | .pg op => some (w.execPg t op)
  | .cardHttp op => (Exchange.exec t timedOut op w.cardCalls).map fun (r, xs) =>
      (r, { w with cardCalls := xs })
  | .card op => some (w.execCard t op)

end World

end CarPayIn
