import CarPayIn.Pms.State

/-! # The services of the PMS

Pre-registration, LPR entry, the payment-complete notification and LPR exit,
with the route that checks a notification's signature.
-/

namespace CarPayIn.Pms

open Process Store

abbrev Service (α : Type) : Type 1 := Program Op PyError α

namespace Service

def call {α : Type} (op : Op α) : Service α := .perform op

/-- A call whose exceptions are only logged. -/
def bestEffort (op : Op Unit) : Service Unit := do
  let _ ← (call op).attempt
  return ()

end Service

open Pms.Service

/-! ## Redis -/

namespace RedisPreRegistrationStore

def preRegTtlSeconds : Nat := 60 * 60

def key (lotId plate : String) : String := "pre_reg:" ++ lotId ++ ":" ++ plate

def savePreRegistration (lotId plate : String) : Service Unit :=
  save .preRegistrations (key lotId plate) "1" preRegTtlSeconds

def getActivePreRegistration (lotId plate : String) : Service Bool := do
  return (← read .preRegistrations (key lotId plate)).any fun value => value ≠ ""

def consumePreRegistration (lotId plate : String) : Service Unit :=
  delete .preRegistrations (key lotId plate)

end RedisPreRegistrationStore

namespace RedisParkingSessionStore

def sessionTtlSeconds : Nat := 72 * 60 * 60

def key (lotId plate : String) : String := "parking_session:" ++ lotId ++ ":" ++ plate

def saveSession (lotId plate pmsSessionId entryTime : String) : Service Unit :=
  save .parkedCars (key lotId plate) ⟨pmsSessionId, lotId, plate, entryTime, .active⟩
    sessionTtlSeconds

def getSession (lotId plate : String) : Service (Option ParkedCar) :=
  read .parkedCars (key lotId plate)

/-- The record under the key gets the status, whichever session it belongs to. -/
def updateStatus (lotId plate : String) (status : SessionStatus) : Service Unit := do
  match ← read .parkedCars (key lotId plate) with
  | none => return ()
  | some payload =>
      let ttl ← call (.parkedCars (.ttl (key lotId plate)))
      let ex := if ttl > 0 then ttl.toNat else sessionTtlSeconds
      call (.parkedCars (.set (key lotId plate) { payload with status := status } (some ex)))

def deleteSession (lotId plate : String) : Service Unit := delete .parkedCars (key lotId plate)

end RedisParkingSessionStore

/-! ## UC-PMS-001 -/

namespace RegisterPreNotifyService

def execute (command : RegisterPreNotifyCommand) : Service Unit :=
  RedisPreRegistrationStore.savePreRegistration command.lotId command.plate

end RegisterPreNotifyService

/-! ## UC-PMS-002 -/

inductive EntryStatus where
  | existing
  | created
deriving DecidableEq, Repr

structure HandleLprEntryResult where
  status : EntryStatus
  pmsSessionId : String
deriving DecidableEq, Repr

namespace HandleLprEntryService

/-- A pre-registered car is reported to the backend, once. -/
def notifyEntry (pmsSessionId : String) (command : HandleLprEntryCommand) : Service Unit := do
  if ← RedisPreRegistrationStore.getActivePreRegistration command.lotId command.plate then
    RedisPreRegistrationStore.consumePreRegistration command.lotId command.plate
    bestEffort (.sendEntryWebhook ⟨pmsSessionId, command.lotId, command.plate, command.entryTime⟩)
  else return ()

def execute (command : HandleLprEntryCommand) : Service HandleLprEntryResult := do
  bestEffort .openEntry
  match ← call (.getActiveSessionByPlate command.plate) with
  | some existing => return ⟨.existing, existing.pmsSessionId⟩
  | none =>
      let n ← call .draw
      let pmsSessionId := "pms-sess-" ++ toString n
      call (.createSession pmsSessionId command.lotId command.plate command.entryTime)
      RedisParkingSessionStore.saveSession command.lotId command.plate pmsSessionId command.entryTime
      notifyEntry pmsSessionId command
      return ⟨.created, pmsSessionId⟩

end HandleLprEntryService

/-! ## UC-PMS-004 -/

namespace RecordPaymentCompleteService

/-- The repository looks the key up once more before it inserts. -/
def savePaymentRequest (command : RecordPaymentCompleteCommand) : Service Unit := do
  match ← call (.getByIdempotencyKey command.idempotencyKey) with
  | some _ => return ()
  | none =>
      let completedAt ← call .now
      call (.insertPaymentRequest fun t => {
        pmsSessionId := command.pmsSessionId
        carpayParkingSessionId := command.carpaySessionId
        carpayTxId := command.txId
        amount := command.amount
        currency := command.currency
        status := .success
        idempotencyKey := command.idempotencyKey
        approvalNo := command.approvalNo
        completedAt := completedAt
        insertedBy := t })

def markSession (pmsSessionId : String) : Service Unit := do
  let session ← call (.getSessionById pmsSessionId)
  call (.markPaid pmsSessionId)
  match session with
  | none => return ()
  | some session => RedisParkingSessionStore.updateStatus session.lotId session.plate .paid

/-- `except LookupError`, which covers `KeyError`. -/
def ignoreLookupError : PyError → Service Unit
  | .lookupError _ | .keyError _ => return ()
  | e => throw e

def execute (command : RecordPaymentCompleteCommand) : Service PaymentStatus := do
  match ← call (.getByIdempotencyKey command.idempotencyKey) with
  | some existing => return existing.status
  | none =>
      savePaymentRequest command
      tryCatch (markSession command.pmsSessionId) ignoreLookupError
      bestEffort (.openExit command.pmsSessionId)
      return .success

/-- `POST /payment/complete` -/
def route (signed : Bool) (command : RecordPaymentCompleteCommand) : Service PaymentStatus := do
  if ¬signed then throw (.permissionError "invalid_signature")
  else execute command

end RecordPaymentCompleteService

/-! ## UC-PMS-005 -/

inductive ExitStatus where
  | opened
  | notPaid
  | notFound
deriving DecidableEq, Repr

structure HandleLprExitResult where
  status : ExitStatus
  pmsSessionId : Option String
deriving DecidableEq, Repr

namespace HandleLprExitService

def openAndExit (pmsSessionId : String) (command : HandleLprExitCommand) (fromRedis : Bool) :
    Service HandleLprExitResult := do
  bestEffort (.openExit pmsSessionId)
  if fromRedis then RedisParkingSessionStore.deleteSession command.lotId command.plate else pure ()
  call (.markExited pmsSessionId)
  return ⟨.opened, some pmsSessionId⟩

def execute (command : HandleLprExitCommand) : Service HandleLprExitResult := do
  match ← RedisParkingSessionStore.getSession command.lotId command.plate with
  | some cached =>
      if cached.status = .paid then openAndExit cached.pmsSessionId command true
      else return ⟨.notPaid, none⟩
  | none =>
      match ← call (.getPaidSessionByLotAndPlate command.lotId command.plate) with
      | some session => openAndExit session.pmsSessionId command false
      | none => return ⟨.notFound, none⟩

end HandleLprExitService

/-! ## The PMS as a system -/

inductive Reply where
  | registered
  | entry (result : HandleLprEntryResult)
  | recorded (status : PaymentStatus)
  | exit (result : HandleLprExitResult)
deriving DecidableEq, Repr

def program : Request → Service Reply
  | .preRegister c => (fun _ => .registered) <$> RegisterPreNotifyService.execute c
  | .lprEntry c => .entry <$> HandleLprEntryService.execute c
  | .paymentComplete signed c => .recorded <$> RecordPaymentCompleteService.route signed c
  | .lprExit c => .exit <$> HandleLprExitService.execute c

inductive Env where
  | tick (milliseconds : Nat)
  | loseParkedCar (key : String)
  | losePreRegistration (key : String)

namespace State

def environment (s : State) : Env → State
  | .tick ms => { s with now := s.now + ms }
  | .loseParkedCar key => { s with parkedCars := Function.update s.parkedCars key none }
  | .losePreRegistration key =>
      { s with preRegistrations := Function.update s.preRegistrations key none }

/-- No car has ever come in. -/
def Vacant (s : State) : Prop :=
  s.sessions = [] ∧ s.paymentRequests = [] ∧ (∀ key, s.parkedCars key = none) ∧ s.committing = []

end State

/-- The PMS, with the texts it reads as times. -/
def pms (isIsoFormat : String → Bool) : System Op PyError Reply State Tid Tid Env where
  exec t _ op s := some (s.exec isIsoFormat t op)
  begin t s := some (t, program t.request, s)
  environment x s := some (s.environment x)

end CarPayIn.Pms
