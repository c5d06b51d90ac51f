import CarPayIn.Python
import CarPayIn.Process.System
import CarPayIn.Store.Rows

/-! # Card registration at the PG

The form of the registration page is completed for an order: the card service
turns the card into a token, the PG stores a billing key for the order and tells
the backend about it in a webhook.
-/

namespace CarPayIn.Registration

open Process Store

structure CompleteCardRegistrationCommand where
  orderId : String
  cardNumber : String
  expiry : String
  cvc : String
deriving DecidableEq, Repr

inductive RegistrationStatus where
  | success
  | failed
deriving DecidableEq, Repr

structure CompleteCardRegistrationResult where
  status : RegistrationStatus
  billingKey : Option String
deriving DecidableEq, Repr

/-- The executions of the service, by number and by what they were started for. -/
structure Tid where
  n : Nat
  command : CompleteCardRegistrationCommand
deriving DecidableEq, Repr

inductive BillingKeyStatus where
  | active
  | inactive
deriving DecidableEq, Repr

/-- A row of `billing_keys`. -/
structure BillingKey where
  billingKey : String
  orderId : String
  cardToken : String
  cardLastFour : Option String
  status : BillingKeyStatus
deriving DecidableEq, Repr

/-- The body of the card registration webhook, whose status is always `active`. -/
structure CardRegistrationWebhook where
  orderId : String
  billingKey : String
  lastFour : Option String
deriving DecidableEq, Repr

structure State where
  /-- Random identifiers drawn so far. -/
  drawn : Nat
  billingKeys : List BillingKey
  /-- What the card service answers to a verification now. -/
  verification : CompleteCardRegistrationCommand → Except PyError Json
  /-- The webhooks that were sent. -/
  webhooks : List CardRegistrationWebhook

namespace State

variable (s : State)

def getByOrderId (orderId : String) : Option BillingKey :=
  get? BillingKey.orderId orderId s.billingKeys

/-- `card_token` may not be null, `card_last_four` holds four characters. -/
def insertBillingKey (orderId billingKey : String) (cardToken lastFour : Option String) :
    Except PyError State :=
  match cardToken with
  | none => .error (.integrityError "card_token")
  | some token =>
      if lastFour.any fun text => text.length > 4 then .error (.dataError "card_last_four")
      else if (get? BillingKey.billingKey billingKey s.billingKeys).isSome then
        .error (.integrityError "billing_keys_pkey")
      else if (s.getByOrderId orderId).isSome then
        .error (.integrityError "billing_keys_order_id_key")
      else
        let row : BillingKey := ⟨billingKey, orderId, token, lastFour, .active⟩
        .ok { s with billingKeys := row :: s.billingKeys }

def write (r : Except PyError State) : Except PyError Unit × State :=
  match r with
  | .ok s' => (.ok (), s')
  | .error e => (.error e, s)

end State

inductive Op : Type → Type where
  | draw : Op Nat
  | getByOrderId (orderId : String) : Op (Option BillingKey)
  | insertBillingKey (orderId billingKey : String) (cardToken lastFour : Option String) : Op Unit
  | verifyAndTokenizeCard (command : CompleteCardRegistrationCommand) : Op Json
  | sendCardRegistrationWebhook (webhook : CardRegistrationWebhook) : Op Unit

def State.exec {β : Type} (op : Op β) (s : State) : Except PyError β × State :=
  match op with
  | .draw => (.ok s.drawn, { s with drawn := s.drawn + 1 })
  | .getByOrderId orderId => (.ok (s.getByOrderId orderId), s)
  | .insertBillingKey orderId billingKey cardToken lastFour =>
      s.write (s.insertBillingKey orderId billingKey cardToken lastFour)
  | .verifyAndTokenizeCard command => (s.verification command, s)
  | .sendCardRegistrationWebhook webhook => (.ok (), { s with webhooks := webhook :: s.webhooks })

abbrev Service (α : Type) : Type 1 := Program Op PyError α

namespace CompleteCardRegistrationService

def call {α : Type} (op : Op α) : Service α := .perform op

/-- The last four digits of the number, filled up with zeros. -/
def lastFourOrDefault (cardNumber : String) : String :=
  let digits := cardNumber.toList.filter fun c => 48 ≤ c.toNat ∧ c.toNat ≤ 57
  let kept := if digits = [] then "0000".toList else digits.drop (digits.length - 4)
  String.ofList (List.replicate (4 - kept.length) '0' ++ kept)

def localCard (command : CompleteCardRegistrationCommand) : Service Json := do
  let n ← call .draw
  return [("card_token", some ("local-card-token-" ++ toString n)),
    ("last_four", some (lastFourOrDefault command.cardNumber))]

def cardData (allowLocalFallback : Bool) (command : CompleteCardRegistrationCommand) :
    Service (Option Json) :=
  tryCatch (some <$> call (.verifyAndTokenizeCard command)) fun _ =>
    if ¬allowLocalFallback then return none else some <$> localCard command

/-- The repository returns a row that is already there. -/
def saveBillingKey (orderId billingKey : String) (cardToken lastFour : Option String) :
    Service Unit := do
  match ← call (.getByOrderId orderId) with
  | some _ => return ()
  | none => call (.insertBillingKey orderId billingKey cardToken lastFour)

def register (command : CompleteCardRegistrationCommand) (data : Json) :
    Service CompleteCardRegistrationResult := do
  let billingKey := "bk-" ++ toString (← call .draw)
  let cardToken ← .done (data.index "card_token")
  let lastFour ← .done (data.index "last_four")
  saveBillingKey command.orderId billingKey cardToken lastFour
  let _ ← (call (.sendCardRegistrationWebhook ⟨command.orderId, billingKey, lastFour⟩)).attempt
  return ⟨.success, some billingKey⟩

def execute (allowLocalFallback : Bool) (command : CompleteCardRegistrationCommand) :
    Service CompleteCardRegistrationResult := do
  match ← call (.getByOrderId command.orderId) with
  | some existing =>
      call (.sendCardRegistrationWebhook
        ⟨command.orderId, existing.billingKey, existing.cardLastFour⟩)
      return ⟨.success, some existing.billingKey⟩
  | none =>
      match ← cardData allowLocalFallback command with
      | none => return ⟨.failed, none⟩
      | some data => register command data

end CompleteCardRegistrationService

/-- The card service may answer anything, and something else every time. -/
inductive Env where
  | verification (answer : CompleteCardRegistrationCommand → Except PyError Json)

def registrations (allowLocalFallback : Bool) :
    System Op PyError CompleteCardRegistrationResult State Tid Tid Env where
  exec _ _ op s := some (s.exec op)
  begin t s := some (t, CompleteCardRegistrationService.execute allowLocalFallback t.command, s)
  environment x s :=
    match x with
    | .verification answer => some { s with verification := answer }

end CarPayIn.Registration
