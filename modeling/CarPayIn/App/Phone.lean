import CarPayIn.Outbox.Worker

/-! # The app and the messages that reach it

The publisher turns a notification into a message on a topic of the car. The
broker keeps what was published and may hand it to the app late and more than
once. The app stores whether it is parked, where and under which session.
-/

namespace CarPayIn.App

open Process Store

/-! ## What the app stores -/

structure ParkingState where
  parked : Bool
  lotId : String
  sessionId : String
  entryTimeMs : Nat
deriving DecidableEq, Repr

def ParkingState.empty : ParkingState := ⟨false, "", "", 0⟩

structure Transaction where
  transactionId : TxId
  lotId : String
  amount : Int
  timestamp : Nat
deriving DecidableEq, Repr

structure Phone where
  /-- The car of the subscriptions. -/
  carId : String
  /-- Milliseconds. -/
  now : Nat
  parking : ParkingState
  transactions : List Transaction
deriving DecidableEq, Repr

namespace Phone

variable (p : Phone)

def saveParkingState (parked : Bool) (lotId sessionId : String) : Phone :=
  { p with parking := {
      parked := parked
      lotId := if parked then lotId else ""
      sessionId := if parked then sessionId else ""
      entryTimeMs := if parked then p.now else 0 } }

def clearSession : Phone := { p with parking := .empty }

/-- `TransactionStore.save` keeps the last twenty. -/
def saveTransaction (transactionId : TxId) (lotId : String) (amount : Int) : Phone :=
  let transactions := p.transactions ++ [⟨transactionId, lotId, amount, p.now⟩]
  { p with transactions := transactions.drop (transactions.length - 20) }

end Phone

/-! ## Messages -/

inductive Payload where
  | confirmed (sessionId lotId entryTime : String)
  | complete (transactionId : TxId) (approvalNumber : Option String) (lotId : String) (amount : Int)
deriving DecidableEq, Repr

/-- A message on `parking/confirmed/{car_id}` or on `payment/complete/{car_id}`. -/
structure Message where
  carId : String
  payload : Payload
deriving DecidableEq, Repr

def Message.isPayment (m : Message) : Bool :=
  match m.payload with
  | .confirmed _ _ _ => false
  | .complete _ _ _ _ => true

/-- A message with the session of its notification, which nobody reads. -/
structure Notice where
  message : Message
  sessionId : String
deriving DecidableEq, Repr

/-- The arguments of `publish_entry_notification`. -/
structure EntryNotification where
  carId : String
  sessionId : String
  lotId : String
  entryTime : String
deriving DecidableEq, Repr

namespace MqttNotificationPublisher

def publishEntryNotification (n : EntryNotification) : List Notice :=
  if n.carId = "" then []
  else [⟨⟨n.carId, .confirmed n.sessionId n.lotId n.entryTime⟩, n.sessionId⟩]

/-- The session of the notification is not in the message. -/
def publishPaymentNotification (n : PaymentNotification) : List Notice :=
  if n.carId = "" then []
  else [⟨⟨n.carId, .complete n.txId n.approvalNo n.lotId n.amount⟩, n.sessionId⟩]

end MqttNotificationPublisher

namespace Phone

variable (p : Phone)

def onParkingConfirmed (lotId sessionId : String) : Phone := p.saveParkingState true lotId sessionId

def onPaymentComplete (txId : TxId) (lotId : String) (amount : Int) : Phone :=
  (p.saveTransaction txId lotId amount).saveParkingState false "" ""

def optInt (n : Int) : Int := n.bmod (2 ^ 32)

/-- The callbacks of the two subscriptions. -/
def receive (payload : Payload) : Phone :=
  match payload with
  | .confirmed sessionId lotId _ => p.onParkingConfirmed lotId sessionId
  | .complete transactionId _ lotId amount => p.onPaymentComplete transactionId lotId (optInt amount)

/-- A payment from the app's own dialog has gone through. -/
def processPayment (transactionId : TxId) (amount : Int) : Phone :=
  (p.saveTransaction transactionId p.parking.lotId amount).saveParkingState false "" ""

end Phone

/-! ## The workers, the broker and the app -/

structure State where
  outbox : Outbox.State
  /-- Everything that was published, the first message first. -/
  sent : List Notice
  phone : Phone

inductive Env where
  | outbox (x : Outbox.Env)
  | publishEntry (n : EntryNotification)
  /-- The app gets a message, for the first time or again. -/
  | deliver (i : Nat)
  | processPayment (transactionId : TxId) (amount : Int)
  | clearSession
  | tick (milliseconds : Nat)

namespace State

variable (s : State)

def published {β : Type} : Outbox.Op β → List Notice
  | .publishPaymentNotification n =>
      MqttNotificationPublisher.publishPaymentNotification n.payload
  | _ => []

def exec (t : Outbox.Tid) {β : Type} (op : Outbox.Op β) (s : State) :
    Option (Except PyError β × State) :=
  (s.outbox.exec t op).map fun (r, o) => (r, { s with outbox := o, sent := s.sent ++ published op })

/-- The app only has the subscriptions of its car. -/
def deliver (i : Nat) : Option State :=
  match s.sent[i]? with
  | none => none
  | some n =>
      if n.message.carId = s.phone.carId then
        some { s with phone := s.phone.receive n.message.payload }
      else none

def environment : Env → Option State
  | .outbox x => (s.outbox.environment x).map fun o => { s with outbox := o }
  | .publishEntry n =>
      some { s with sent := s.sent ++ MqttNotificationPublisher.publishEntryNotification n }
  | .deliver i => s.deliver i
  | .processPayment txId amount => some { s with phone := s.phone.processPayment txId amount }
  | .clearSession => some { s with phone := s.phone.clearSession }
  | .tick ms => some { s with phone := { s.phone with now := s.phone.now + ms } }

/-- No payment has been made, and the app has stored no stay. -/
def Silent (s : State) : Prop := s.outbox.Vacant ∧ s.sent = [] ∧ s.phone.parking = .empty

end State

/-- Any number of outbox workers and the app of one car. -/
def notices : System Outbox.Op PyError Nat State Outbox.Tid (Outbox.Tid × Outbox.Settings) Env where
  exec t _ op s := s.exec t op
  begin x s := some (x.1, Outbox.PaymentOutboxWorker.runOnce x.2, s)
  environment x s := s.environment x

end CarPayIn.App
