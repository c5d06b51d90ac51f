import CarPayIn.Python
import CarPayIn.Store.Rows
import CarPayIn.Store.Cache
import CarPayIn.Process.System

/-! # The state of the PMS

The tables of the PMS database, its Redis records and the calls its services
make. A parking session has a row under its own id and, while the car is
parked, a Redis record under the text of its lot and plate.
-/

namespace CarPayIn.Pms

open Process Store

/-! ## Requests -/

structure RegisterPreNotifyCommand where
  lotId : String
  plate : String
deriving DecidableEq, Repr

structure HandleLprEntryCommand where
  lotId : String
  plate : String
  entryTime : String
deriving DecidableEq, Repr

structure RecordPaymentCompleteCommand where
  pmsSessionId : String
  carpaySessionId : String
  txId : String
  amount : Int
  currency : String
  approvalNo : String
  idempotencyKey : String
deriving DecidableEq, Repr

structure HandleLprExitCommand where
  lotId : String
  plate : String
deriving DecidableEq, Repr

/-- What an execution was started for. `signed` says whether the signature
headers of a notification fit its body. -/
inductive Request where
  | preRegister (command : RegisterPreNotifyCommand)
  | lprEntry (command : HandleLprEntryCommand)
  | paymentComplete (signed : Bool) (command : RecordPaymentCompleteCommand)
  | lprExit (command : HandleLprExitCommand)
deriving DecidableEq, Repr

structure Tid where
  n : Nat
  request : Request
deriving DecidableEq, Repr

/-! ## Rows and records -/

inductive SessionStatus where
  | active
  | paid
  | exited
  | cancelled
deriving DecidableEq, Repr

structure PMSParkingSession where
  pmsSessionId : String
  lotId : String
  plate : String
  entryTime : String
  exitTime : Option Nat
  status : SessionStatus
deriving DecidableEq, Repr

inductive PaymentStatus where
  | pending
  | success
  | failed
  | cancelled
deriving DecidableEq, Repr

/-- A row of `payment_requests`, with the execution that inserted it. -/
structure PaymentRequest where
  pmsSessionId : String
  carpayParkingSessionId : String
  carpayTxId : String
  amount : Int
  currency : String
  status : PaymentStatus
  idempotencyKey : String
  approvalNo : String
  completedAt : Nat
  insertedBy : Tid
deriving DecidableEq, Repr

/-- The Redis record of a parked car. -/
structure ParkedCar where
  pmsSessionId : String
  lotId : String
  plate : String
  entryTime : String
  status : SessionStatus
deriving DecidableEq, Repr

structure EntryWebhook where
  pmsSessionId : String
  lotId : String
  plate : String
  entryTime : String
deriving DecidableEq, Repr

structure State where
  /-- Milliseconds. -/
  now : Nat
  /-- Random identifiers drawn so far. -/
  drawn : Nat
  /-- The newest session first. -/
  sessions : List PMSParkingSession
  paymentRequests : List PaymentRequest
  parkedCars : Cache String ParkedCar
  preRegistrations : Cache String String
  /-- The webhooks that the backend has accepted. -/
  entryWebhooks : List EntryWebhook
  /-- The sessions for which the exit barrier was opened. -/
  openedExits : List String
  /-- Executions that have committed a payment request and are not yet at the
  barrier. No service reads it. -/
  committing : List Tid

/-! ## Repository methods -/

namespace State

variable (s : State)

def getSessionById (id : String) : Option PMSParkingSession :=
  get? PMSParkingSession.pmsSessionId id s.sessions

def getActiveSessionByPlate (plate : String) : Option PMSParkingSession :=
  s.sessions.find? fun r => r.plate = plate && r.status = .active

def getPaidSessionByLotAndPlate (lotId plate : String) : Option PMSParkingSession :=
  s.sessions.find? fun r => r.lotId = lotId && r.plate = plate && r.status = .paid

def getByIdempotencyKey (key : String) : Option PaymentRequest :=
  get? PaymentRequest.idempotencyKey key s.paymentRequests

/-- `fromisoformat`, the length of the column, the primary key and the unique index. -/
def createSession (isIsoFormat : String → Bool) (id lotId plate entryTime : String) :
    Except PyError State :=
  if ¬isIsoFormat entryTime then .error (.valueError "Invalid isoformat string")
  else if plate.length > 20 then .error (.dataError "plate")
  else if (s.getSessionById id).isSome then .error (.integrityError "parking_sessions_pkey")
  else if (s.getActiveSessionByPlate plate).isSome then
    .error (.integrityError "uniq_active_pms_session_per_plate")
  else .ok { s with sessions := ⟨id, lotId, plate, entryTime, none, .active⟩ :: s.sessions }

def setSession (id : String) (f : PMSParkingSession → PMSParkingSession) : State :=
  { s with sessions := modify PMSParkingSession.pmsSessionId id f s.sessions }

def markPaid (id : String) : Except PyError State :=
  match s.getSessionById id with
  | none => .error (.lookupError "session_not_found")
  | some _ => .ok (s.setSession id fun r => { r with status := .paid })

def markExited (id : String) : Except PyError State :=
  match s.getSessionById id with
  | none => .error (.lookupError "session_not_found")
  | some _ => .ok (s.setSession id fun r => { r with status := .exited, exitTime := some s.now })

/-- `Integer` columns hold 32 bits. -/
def isInteger (n : Int) : Bool := -2 ^ 31 ≤ n ∧ n < 2 ^ 31

def insertPaymentRequest (row : PaymentRequest) : Except PyError State :=
  if ¬isInteger row.amount then .error (.dataError "amount")
  else if row.amount < 0 then .error (.integrityError "ck_payment_requests_amount")
  else if (s.getSessionById row.pmsSessionId).isNone then
    .error (.integrityError "payment_requests_pms_session_id_fkey")
  else if (s.getByIdempotencyKey row.idempotencyKey).isSome then
    .error (.integrityError "payment_requests_idempotency_key_key")
  else .ok { s with
    paymentRequests := row :: s.paymentRequests
    committing := row.insertedBy :: s.committing }

/-- A commit that may raise. -/
def write (r : Except PyError State) : Except PyError Unit × State :=
  match r with
  | .ok s' => (.ok (), s')
  | .error e => (.error e, s)

end State

/-! ## Calls -/

inductive Op : Type → Type 1 where
  | now : Op Nat
  | draw : Op Nat
  | getSessionById (id : String) : Op (Option PMSParkingSession)
  | getActiveSessionByPlate (plate : String) : Op (Option PMSParkingSession)
  | getPaidSessionByLotAndPlate (lotId plate : String) : Op (Option PMSParkingSession)
  | createSession (id lotId plate entryTime : String) : Op Unit
  | markPaid (id : String) : Op Unit
  | markExited (id : String) : Op Unit
  | getByIdempotencyKey (key : String) : Op (Option PaymentRequest)
  | insertPaymentRequest (row : Tid → PaymentRequest) : Op Unit
  | parkedCars {β : Type} (op : CacheOp String ParkedCar β) : Op β
  | preRegistrations {β : Type} (op : CacheOp String String β) : Op β
  | openEntry : Op Unit
  | openExit (id : String) : Op Unit
  | sendEntryWebhook (webhook : EntryWebhook) : Op Unit

def State.exec (isIsoFormat : String → Bool) (t : Tid) {β : Type} (op : Op β) (s : State) :
    Except PyError β × State :=
  match op with
  | .now => (.ok s.now, s)
  | .draw => (.ok s.drawn, { s with drawn := s.drawn + 1 })
  | .getSessionById id => (.ok (s.getSessionById id), s)
  | .getActiveSessionByPlate plate => (.ok (s.getActiveSessionByPlate plate), s)
  | .getPaidSessionByLotAndPlate lotId plate => (.ok (s.getPaidSessionByLotAndPlate lotId plate), s)
  | .createSession id lotId plate entryTime =>
      s.write (s.createSession isIsoFormat id lotId plate entryTime)
  | .markPaid id => s.write (s.markPaid id)
  | .markExited id => s.write (s.markExited id)
  | .getByIdempotencyKey key => (.ok (s.getByIdempotencyKey key), s)
  | .insertPaymentRequest row => s.write (s.insertPaymentRequest (row t))
  | .parkedCars op =>
      let (r, c) := s.parkedCars.exec s.now op
      (.ok r, { s with parkedCars := c })
  | .preRegistrations op =>
      let (r, c) := s.preRegistrations.exec s.now op
      (.ok r, { s with preRegistrations := c })
  | .openEntry => (.ok (), s)
  | .openExit id =>
      (.ok (), { s with
        openedExits := id :: s.openedExits
        committing := s.committing.filter (· ≠ t) })
  | .sendEntryWebhook webhook => (.ok (), { s with entryWebhooks := webhook :: s.entryWebhooks })

end CarPayIn.Pms
