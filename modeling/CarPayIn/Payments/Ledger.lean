import CarPayIn.Payments.System

/-! # The three ledgers and the charges between them

What a payment is about: the transactions of the backend, the charge requests
to the PG, the PG's transactions, the charge requests to the card service and
the card transactions. A step says what one execution may do to them and on
what evidence. Faults, timeouts and the choice to charge are governed by a
regime, so that one set of steps serves every assumption about them.
-/

namespace CarPayIn

open Process

structure Ledger where
  transactions : String → Option Transaction
  outbox : TxId → Option PaymentNotificationOutbox
  pgCalls : Nat → Option PgCall
  pgTransactions : String → Option PgTransaction
  cardCalls : Nat → Option CardCall
  cardTransactions : String → Option CardTx

def World.ledger (w : World) : Ledger where
  transactions := w.getTransaction
  outbox id := Store.get? PaymentNotificationOutbox.txId id w.outbox
  pgCalls := Exchange.table w.pgCalls
  pgTransactions := w.getPgTransaction
  cardCalls := Exchange.table w.cardCalls
  cardTransactions := w.getCardTx

/-! ## What a response says -/

/-- The PG's answer is an approval with this PG transaction and approval number. -/
def Approves (r : HttpResponse) (pgTxId approvalNo : Option String) : Prop :=
  HttpxPgClient.decode r = .ok (.success pgTxId approvalNo)

def Declines (r : HttpResponse) : Prop := ∀ pgTxId approvalNo, ¬Approves r pgTxId approvalNo

/-- The approval number the PG reads in an answer of the card service. -/
def cardApproval (r : HttpResponse) : Option (Option String) :=
  match HttpxMockCardClient.raiseForStatus r, r.json with
  | .ok _, .ok data =>
      if data.getD "status" "success" = some "success" then data.get? "approval_no" else none
  | _, _ => none

/-! ## Regimes -/

structure Regime where
  /-- The backend may send this charge request now. -/
  mayCharge : Ledger → ChargeRequest → Prop
  /-- The backend may stop waiting for this charge request. -/
  mayGiveUpPg : Ledger → Nat → Prop
  /-- The PG may stop waiting for this charge request. -/
  mayGiveUpCard : Ledger → Nat → Prop
  /-- Calls may raise of their own. -/
  faults : Prop
  /-- They may do so even after the payment of the execution has succeeded. -/
  lateFaults : Prop

namespace Ledger

variable (ℓ : Ledger)

/-! ## Evidence -/

def NoPgCall (t : Tid) : Prop := ∀ id c, ℓ.pgCalls id = some c → c.caller ≠ t

def NoCardCall (t : Tid) : Prop := ∀ id c, ℓ.cardCalls id = some c → c.caller ≠ t

def PgAnswer (t : Tid) (key : String) (r : HttpResponse) : Prop :=
  ∃ id c, ℓ.pgCalls id = some c ∧ c.caller = t ∧ c.request.idempotencyKey = key ∧
    c.receipt = .received r

def CardAnswer (t : Tid) (key : String) (r : HttpResponse) : Prop :=
  ∃ id c, ℓ.cardCalls id = some c ∧ c.caller = t ∧ c.request.idempotencyKey = key ∧
    c.receipt = .received r

def PgAbandoned (t : Tid) : Prop :=
  ∃ id c, ℓ.pgCalls id = some c ∧ c.caller = t ∧ c.receipt = .abandoned

def CardAbandoned (t : Tid) : Prop :=
  ∃ id c, ℓ.cardCalls id = some c ∧ c.caller = t ∧ c.receipt = .abandoned

/-- Why the backend may take the payment for failed. -/
def PgFailure (t : Tid) (key : String) : Prop :=
  ℓ.NoPgCall t ∨ ℓ.PgAbandoned t ∨ ∃ r, ℓ.PgAnswer t key r ∧ Declines r

/-- Why the PG may take the card payment for failed. -/
def CardFailure (t : Tid) (key : String) : Prop :=
  ℓ.NoCardCall t ∨ ℓ.CardAbandoned t ∨ ∃ r, ℓ.CardAnswer t key r ∧ cardApproval r = none

def AtPg (i : Nat) (c : PgCall) : Prop := ℓ.pgCalls i = some c ∧ c.progress = .delivered

def AtCard (j : Nat) (d : CardCall) : Prop := ℓ.cardCalls j = some d ∧ d.progress = .delivered

/-- The card service holds an approved transaction for the key. -/
def Charged (key : String) : Prop := ∃ x, ℓ.cardTransactions key = some x ∧ x.status = .success

end Ledger

open Ledger

/-! ## Updates -/

namespace Ledger

def setTransaction (ℓ : Ledger) (key : String) (row : Transaction) : Ledger :=
  { ℓ with transactions := Function.update ℓ.transactions key (some row) }

/-- The outbox row of a success, unless there is one. -/
def enqueue (ℓ : Ledger) (row : PaymentNotificationOutbox) : Ledger :=
  match ℓ.outbox row.txId with
  | some _ => ℓ
  | none => { ℓ with outbox := Function.update ℓ.outbox row.txId (some row) }

def setPgCall (ℓ : Ledger) (id : Nat) (c : PgCall) : Ledger :=
  { ℓ with pgCalls := Function.update ℓ.pgCalls id (some c) }

def setPgTransaction (ℓ : Ledger) (key : String) (row : PgTransaction) : Ledger :=
  { ℓ with pgTransactions := Function.update ℓ.pgTransactions key (some row) }

def setCardCall (ℓ : Ledger) (id : Nat) (c : CardCall) : Ledger :=
  { ℓ with cardCalls := Function.update ℓ.cardCalls id (some c) }

def setCardTransaction (ℓ : Ledger) (key : String) (row : CardTx) : Ledger :=
  { ℓ with cardTransactions := Function.update ℓ.cardTransactions key (some row) }

section
variable (ℓ : Ledger) (key : String) (id : Nat)

@[simp] theorem setTransaction_self (row : Transaction) :
    (ℓ.setTransaction key row).transactions key = some row := Function.update_self ..

@[simp] theorem setPgCall_self (c : PgCall) : (ℓ.setPgCall id c).pgCalls id = some c :=
  Function.update_self ..

@[simp] theorem setPgTransaction_self (row : PgTransaction) :
    (ℓ.setPgTransaction key row).pgTransactions key = some row := Function.update_self ..

@[simp] theorem setCardCall_self (d : CardCall) : (ℓ.setCardCall id d).cardCalls id = some d :=
  Function.update_self ..

@[simp] theorem setCardTransaction_self (row : CardTx) :
    (ℓ.setCardTransaction key row).cardTransactions key = some row := Function.update_self ..

end

/-! ## Steps -/

/-- What one call of execution `t` may do to the ledgers. -/
inductive Step (Γ : Regime) (t : Tid) : Ledger → Ledger → Prop where
  | quiet (ℓ : Ledger) : Step Γ t ℓ ℓ
  /-- The backend opens the execution's only transaction. -/
  | openTransaction (ℓ : Ledger) (row : Transaction)
      (hkey : ℓ.transactions row.idempotencyKey = none)
      (hid : ∀ k r, ℓ.transactions k = some r → r.txId ≠ row.txId)
      (hby : row.insertedBy = t) (hstatus : row.status = .pending)
      (hfirst : ∀ k r, ℓ.transactions k = some r → r.insertedBy ≠ t) (hcall : ℓ.NoPgCall t) :
      Step Γ t ℓ (ℓ.setTransaction row.idempotencyKey row)
  /-- The backend asks the PG to charge the amount of its own pending transaction. -/
  | charge (ℓ : Ledger) (id : Nat) (req : ChargeRequest) (row : Transaction)
      (hid : ℓ.pgCalls id = none) (hrow : ℓ.transactions req.idempotencyKey = some row)
      (hby : row.insertedBy = t) (hstatus : row.status = .pending)
      (hamount : row.amount = req.amount) (hcurrency : row.currency = req.currency)
      (hpaid : 0 < req.amount) (hcall : ℓ.NoPgCall t) (hΓ : Γ.mayCharge ℓ req) :
      Step Γ t ℓ (ℓ.setPgCall id ⟨t, req, .sent, .waiting⟩)
  | receivePg (ℓ : Ledger) (id : Nat) (c : PgCall) (r : HttpResponse)
      (hc : ℓ.pgCalls id = some c) (hby : c.caller = t) (hw : c.receipt = .waiting)
      (ha : c.progress = .answered r) :
      Step Γ t ℓ (ℓ.setPgCall id { c with receipt := .received r })
  /-- A pending transaction succeeds because it is free or because the PG approved it. -/
  | succeed (ℓ : Ledger) (key : String) (row : Transaction) (pgTxId approvalNo : Option String)
      (note : PaymentNotificationOutbox) (hrow : ℓ.transactions key = some row)
      (hby : row.insertedBy = t) (hstatus : row.status = .pending) 
      (hnote : note.txId = row.txId ∧ note.eventType = "payment.completed")
      (hwhy : row.amount = 0 ∨ ∃ r, ℓ.PgAnswer t key r ∧ Approves r pgTxId approvalNo) :
      Step Γ t ℓ ((ℓ.setTransaction key
        (World.statusChange .success pgTxId approvalNo none row)).enqueue note)
  /-- The exception handler of the paid branch writes the failure. -/
  | fail (ℓ : Ledger) (key : String) (row : Transaction) (reason : Option String)
      (hrow : ℓ.transactions key = some row) (hby : row.insertedBy = t)
      (hpending : row.status = .pending → Γ.faults ∨ ℓ.PgFailure t key)
      (hsuccess : row.status = .success → Γ.lateFaults) :
      Step Γ t ℓ (ℓ.setTransaction key (World.statusChange .failed none none reason row))
  | insertPg (ℓ : Ledger) (i : Nat) (c : PgCall) (p : PgTransaction) (ht : t = .pg i)
      (hc : ℓ.AtPg i c) (hkey : p.idempotencyKey = c.request.idempotencyKey)
      (hnone : ℓ.pgTransactions p.idempotencyKey = none) (hby : p.insertedBy = t)
      (hamount : p.amount = c.request.amount) (hcurrency : p.currency = c.request.currency)
      (hstatus : p.status = .pending ∨ p.status = .failed) (hcall : ℓ.NoCardCall t) :
      Step Γ t ℓ (ℓ.setPgTransaction p.idempotencyKey p)
  | sendCard (ℓ : Ledger) (j i : Nat) (c : PgCall) (p : PgTransaction) (req : CardChargeRequest)
      (ht : t = .pg i) (hc : ℓ.AtPg i c) (hid : ℓ.cardCalls j = none)
      (hkey : req.idempotencyKey = c.request.idempotencyKey)
      (hamount : req.amount = c.request.amount) (hcurrency : req.currency = c.request.currency)
      (hp : ℓ.pgTransactions req.idempotencyKey = some p) (hstatus : p.status = .pending)
      (hcall : ℓ.NoCardCall t) :
      Step Γ t ℓ (ℓ.setCardCall j ⟨t, req, .sent, .waiting⟩)
  | receiveCard (ℓ : Ledger) (j : Nat) (d : CardCall) (r : HttpResponse)
      (hd : ℓ.cardCalls j = some d) (hby : d.caller = t) (hw : d.receipt = .waiting)
      (ha : d.progress = .answered r) :
      Step Γ t ℓ (ℓ.setCardCall j { d with receipt := .received r })
  | succeedPg (ℓ : Ledger) (i : Nat) (c : PgCall) (p : PgTransaction)
      (approvalNo cardTxId : Option String) (r : HttpResponse) (ht : t = .pg i) (hc : ℓ.AtPg i c)
      (hp : ℓ.pgTransactions c.request.idempotencyKey = some p)
      (hr : ℓ.CardAnswer t c.request.idempotencyKey r) (ha : cardApproval r = some approvalNo) :
      Step Γ t ℓ (ℓ.setPgTransaction c.request.idempotencyKey
        (World.pgStatusChange .success approvalNo cardTxId none p))
  | failPg (ℓ : Ledger) (i : Nat) (c : PgCall) (p : PgTransaction)
      (cardTxId reason : Option String) (ht : t = .pg i) (hc : ℓ.AtPg i c)
      (hp : ℓ.pgTransactions c.request.idempotencyKey = some p)
      (hwhy : Γ.faults ∨ ℓ.CardFailure t c.request.idempotencyKey) :
      Step Γ t ℓ (ℓ.setPgTransaction c.request.idempotencyKey
        (World.pgStatusChange .failed none cardTxId reason p))
  /-- The PG answers; an approval is one that its row records. -/
  | respondPg (ℓ : Ledger) (i : Nat) (c : PgCall) (r : HttpResponse) (ht : t = .pg i)
      (hc : ℓ.AtPg i c)
      (happroves : ∀ pgTxId approvalNo, Approves r pgTxId approvalNo →
        ∃ p, ℓ.pgTransactions c.request.idempotencyKey = some p ∧ p.status = .success ∧
          p.approvalNo = approvalNo)
      (hdeclines : Declines r → Γ.faults ∨ ℓ.CardFailure t c.request.idempotencyKey) :
      Step Γ t ℓ (ℓ.setPgCall i { c with progress := .answered r })
  | insertCard (ℓ : Ledger) (j : Nat) (d : CardCall) (x : CardTx) (ht : t = .card j)
      (hd : ℓ.AtCard j d) (hkey : x.idempotencyKey = d.request.idempotencyKey)
      (hnone : ℓ.cardTransactions x.idempotencyKey = none) (hby : x.insertedBy = t)
      (hamount : x.amount = d.request.amount) (hcurrency : x.currency = d.request.currency)
      (happroval : x.status = .success → x.approvalNo.isSome) :
      Step Γ t ℓ (ℓ.setCardTransaction x.idempotencyKey x)
  | respondCard (ℓ : Ledger) (j : Nat) (d : CardCall) (r : HttpResponse) (ht : t = .card j)
      (hd : ℓ.AtCard j d)
      (happroves : ∀ approvalNo, cardApproval r = some approvalNo →
        ∃ x, ℓ.cardTransactions d.request.idempotencyKey = some x ∧ x.status = .success ∧
          x.approvalNo = approvalNo)
      (hdeclines : cardApproval r = none → Γ.faults ∨ ¬ℓ.Charged d.request.idempotencyKey) :
      Step Γ t ℓ (ℓ.setCardCall j { d with progress := .answered r })

/-- What the network and the timers may do. -/
inductive NetStep (Γ : Regime) : Ledger → Ledger → Prop where
  | quiet (ℓ : Ledger) : NetStep Γ ℓ ℓ
  | movePg (ℓ : Ledger) (id : Nat) (c : PgCall) (progress : Progress HttpResponse)
      (hc : ℓ.pgCalls id = some c) (hs : c.progress = .sent)
      (hp : progress = .delivered ∨ progress = .dropped) :
      NetStep Γ ℓ (ℓ.setPgCall id { c with progress := progress })
  | giveUpPg (ℓ : Ledger) (id : Nat) (c : PgCall) (hc : ℓ.pgCalls id = some c)
      (hw : c.receipt = .waiting) (hΓ : Γ.mayGiveUpPg ℓ id) :
      NetStep Γ ℓ (ℓ.setPgCall id { c with receipt := .abandoned })
  | moveCard (ℓ : Ledger) (id : Nat) (d : CardCall) (progress : Progress HttpResponse)
      (hd : ℓ.cardCalls id = some d) (hs : d.progress = .sent)
      (hp : progress = .delivered ∨ progress = .dropped) :
      NetStep Γ ℓ (ℓ.setCardCall id { d with progress := progress })
  | giveUpCard (ℓ : Ledger) (id : Nat) (d : CardCall) (hd : ℓ.cardCalls id = some d)
      (hw : d.receipt = .waiting) (hΓ : Γ.mayGiveUpCard ℓ id) :
      NetStep Γ ℓ (ℓ.setCardCall id { d with receipt := .abandoned })

end Ledger

end CarPayIn
