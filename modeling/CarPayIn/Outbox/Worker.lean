import CarPayIn.Backend.Records
import CarPayIn.Store.Rows
import CarPayIn.Process.System
import Mathlib.Data.List.Sort

/-! # The payment outbox and its workers

A worker claims a batch of due rows in one commit, hands each row to the
publisher and marks it in a further commit. A mark reads the row first and then
writes the columns it has changed, so another worker may commit in between.
-/

namespace CarPayIn.Outbox

open Process Store

/-- A row of `payment_notification_outbox` with the columns of the workers. -/
structure Row extends PaymentNotificationOutbox where
  notificationId : Uuid
  attempts : Nat
  maxAttempts : Nat
  nextAttemptAt : Nat
  publishedAt : Option Nat
  failedReason : Option String
  createdAt : Nat
  updatedAt : Option Nat
deriving DecidableEq, Repr

/-- `_to_dict` -/
structure Notification where
  notificationId : Uuid
  txId : TxId
  sessionId : Uuid
  carId : String
  eventType : String
  destination : String
  payload : PaymentNotification
  attempts : Nat
  maxAttempts : Nat
deriving DecidableEq, Repr

/-- One execution of `run_once`. -/
abbrev Tid := Nat

structure State where
  /-- Microseconds. -/
  now : Nat
  /-- Random identifiers drawn so far. -/
  drawn : Nat
  rows : List Row
  /-- Rows on which a transaction that is still open holds a lock. -/
  locked : List Uuid
  /-- What was claimed by whom and has not been marked by them. No worker reads it. -/
  held : List (Tid × Notification)
  /-- The rows handed to the publisher. No worker reads it. -/
  handed : List Uuid

namespace Row

def toDict (r : Row) : Notification where
  notificationId := r.notificationId
  txId := r.txId
  sessionId := r.sessionId
  carId := r.carId
  eventType := r.eventType
  destination := r.destination
  payload := r.payload
  attempts := r.attempts
  maxAttempts := r.maxAttempts

/-- The condition of `claim_due`. -/
def isDue (now : Nat) (r : Row) : Bool :=
  (r.status = .pending ∨ r.status = .failed ∨ r.status = .publishing) ∧ r.nextAttemptAt ≤ now ∧
    r.attempts < r.maxAttempts

def claim (now leaseExpiresAt : Nat) (r : Row) : Row :=
  { r with
    status := .publishing
    attempts := r.attempts + 1
    nextAttemptAt := leaseExpiresAt
    updatedAt := some now }

/-- What a mark writes: the columns in which `changed` differs from what was read. -/
def flush (loaded changed r : Row) : Row :=
  { r with
    status := if changed.status = loaded.status then r.status else changed.status
    nextAttemptAt := if changed.nextAttemptAt = loaded.nextAttemptAt then r.nextAttemptAt
      else changed.nextAttemptAt
    publishedAt := if changed.publishedAt = loaded.publishedAt then r.publishedAt
      else changed.publishedAt
    failedReason := if changed.failedReason = loaded.failedReason then r.failedReason
      else changed.failedReason
    updatedAt := if changed.updatedAt = loaded.updatedAt then r.updatedAt else changed.updatedAt }

end Row

/-! ## Calls -/

namespace State

variable (s : State)

def get (id : Uuid) : Option Row := get? Row.notificationId id s.rows

/-- The rows that `claim_due` selects: due, not locked, the oldest first. -/
def due (now limit : Nat) : List Row :=
  ((s.rows.filter fun r => r.isDue now && r.notificationId ∉ s.locked).insertionSort
    fun r r' => r.createdAt ≤ r'.createdAt).take limit

def dueIds (now limit : Nat) : List Uuid := (s.due now limit).map Row.notificationId

/-- The selection, its update and its commit, under the locks of the selection. -/
def claimDue (t : Tid) (now limit leaseExpiresAt : Nat) : List Notification × State :=
  let notifications := (s.due now limit).map fun r => (r.claim now leaseExpiresAt).toDict
  (notifications, { s with
    rows := s.rows.map fun r =>
      if r.notificationId ∈ s.dueIds now limit then r.claim now leaseExpiresAt else r
    held := notifications.map (t, ·) ++ s.held })

/-- The commit of a mark. -/
def commit (t : Tid) (loaded changed : Row) : State :=
  { s with
    rows := modify Row.notificationId loaded.notificationId (Row.flush loaded changed) s.rows
    held := s.held.filter fun h => ¬(h.1 = t ∧ h.2.notificationId = loaded.notificationId) }

/-- What a worker has claimed and not yet marked. -/
def heldBy (t : Tid) : List Notification := (s.held.filter fun h => h.1 = t).map (·.2)

end State

inductive Op : Type → Type where
  | now : Op Nat
  | claimDue (now limit leaseExpiresAt : Nat) : Op (List Notification)
  | publishPaymentNotification (notification : Notification) : Op Unit
  | get (id : Uuid) : Op (Option Row)
  | commit (loaded changed : Row) : Op Unit

/-- An update waits for the lock of the row. -/
def State.exec (t : Tid) {β : Type} (op : Op β) (s : State) : Option (Except PyError β × State) :=
  match op with
  | .now => some (.ok s.now, s)
  | .claimDue now limit leaseExpiresAt =>
      let (notifications, s') := s.claimDue t now limit leaseExpiresAt
      some (.ok notifications, s')
  | .publishPaymentNotification n =>
      some (.ok (), { s with handed := n.notificationId :: s.handed })
  | .get id => some (.ok (s.get id), s)
  | .commit loaded changed =>
      if loaded.notificationId ∈ s.locked then none else some (.ok (), s.commit t loaded changed)

/-! ## The repository and the worker -/

abbrev Service (α : Type) : Type 1 := Program Op PyError α

abbrev call {β : Type} (op : Op β) : Service β := .perform op

def seconds (n : Nat) : Nat := n * 1000000

namespace SqlAlchemyPaymentNotificationOutboxRepository

def claimDue (limit leaseSeconds : Nat) : Service (List Notification) := do
  let now ← call .now
  call (.claimDue now limit (now + seconds leaseSeconds))

/-- `_get` -/
def get (notificationId : Uuid) : Service Row := do
  match ← call (.get notificationId) with
  | none => throw (.lookupError "payment_notification_not_found")
  | some notification => pure notification

def markPublished (notificationId : Uuid) : Service Unit := do
  let notification ← get notificationId
  let now ← call .now
  call (.commit notification { notification with
    status := .published
    publishedAt := some now
    failedReason := none
    updatedAt := some now })

def failed (notification : Row) (reason : String) (retryDelaySeconds now : Nat) : Row :=
  let notification := { notification with failedReason := some reason, updatedAt := some now }
  if notification.attempts ≥ notification.maxAttempts then { notification with status := .dead }
  else { notification with
    status := .failed
    nextAttemptAt := now + seconds retryDelaySeconds }

def markFailed (notificationId : Uuid) (reason : String) (retryDelaySeconds : Nat) :
    Service Unit := do
  let notification ← get notificationId
  let now ← call .now
  call (.commit notification (failed notification reason retryDelaySeconds now))

end SqlAlchemyPaymentNotificationOutboxRepository

structure Settings where
  batchSize : Nat
  leaseSeconds : Nat
deriving DecidableEq, Repr

def Settings.default : Settings := ⟨100, 60⟩

namespace PaymentOutboxWorker

open SqlAlchemyPaymentNotificationOutboxRepository

def publishOne (notification : Notification) : Service Unit := do
  match ← (call (.publishPaymentNotification notification)).attempt with
  | .error exc =>
      markFailed notification.notificationId exc.str (min (5 * 2 ^ (notification.attempts - 1)) 300)
  | .ok () => markPublished notification.notificationId

def publishAll : List Notification → Service Unit
  | [] => pure ()
  | notification :: notifications => do
      publishOne notification
      publishAll notifications

def runOnce (settings : Settings) : Service Nat := do
  let notifications ← claimDue settings.batchSize settings.leaseSeconds
  publishAll notifications
  return notifications.length

end PaymentOutboxWorker

/-! ## The workers as a system -/

inductive Env where
  | tick (microseconds : Nat)
  /-- The success of a payment commits its outbox row. -/
  | insert (notification : PaymentNotificationOutbox)
  | lock (ids : List Uuid)

namespace State

/-- The defaults of the columns that a payment does not set. -/
def insert (s : State) (n : PaymentNotificationOutbox) : State :=
  { s with
    drawn := s.drawn + 1
    rows := ⟨{ n with status := .pending }, s.drawn, 0, 5, s.now, none, none, s.now, none⟩ :: s.rows }

def environment (s : State) : Env → Option State
  | .tick μs => some { s with now := s.now + μs }
  | .insert n =>
      if s.rows.any fun r => r.txId = n.txId ∧ r.eventType = n.eventType then none
      else some (s.insert n)
  | .lock ids => some { s with locked := ids }

/-- No payment has been made. -/
def Vacant (s : State) : Prop := s.rows = [] ∧ s.held = [] ∧ s.handed = []

end State

/-- Any number of workers, each with its own settings. -/
def outbox : System Op PyError Nat State Tid (Tid × Settings) Env where
  exec t _ op s := s.exec t op
  begin x s := some (x.1, PaymentOutboxWorker.runOnce x.2, s)
  environment x s := s.environment x

end CarPayIn.Outbox
