import CarPayIn.Payments.Servers
import CarPayIn.Process.Rules

/-! # Backend, PG and card service as one system

Every request starts an execution of the backend, every delivered charge
request one of the PG or of the card service. The network may lose requests,
callers may stop waiting, time passes, and the replies of everything outside
may change.
-/

namespace CarPayIn

open Process

inductive Reply where
  | url (text : String)
  | login (result : HandleHyundaiOAuthCallbackResult)
  | vehicle (result : ConfirmVehicleResult)
  | token (token : BearerToken)
  | order (result : CreateCardOrderResult)
  | preNotify (result : RegisterPreNotifyResult)
  | entry (result : HandleEntryWebhookResult)
  | fee (result : GetParkingFeeResult)
  | payment (result : ProcessPaymentResult)
  | done
deriving DecidableEq, Repr

/-- The service behind a request. -/
def program (rt : Runtime) : Request → Service Reply
  | .createQrSession c => .base (.url <$> CreateQrSessionService.execute rt c)
  | .startHyundaiOAuth s => .base (.url <$> StartHyundaiOAuthService.execute rt s)
  | .hyundaiOAuthCallback c => .base (.login <$> HandleHyundaiOAuthCallbackService.execute c)
  | .confirmVehicle c => .base (.vehicle <$> ConfirmVehicleService.execute rt c)
  | .refreshAccessToken t => .base (.token <$> RefreshAccessTokenService.execute rt t)
  | .createCardOrder c => .base (.order <$> CreateCardOrderService.execute c)
  | .cardWebhook c => .base ((fun _ => .done) <$> HandleCardWebhookService.execute c)
  | .registerPreNotify c => .base (.preNotify <$> RegisterPreNotifyService.execute c)
  | .entryWebhook c => .base (.entry <$> HandleEntryWebhookService.execute rt c)
  | .getParkingFee c => .base (.fee <$> GetParkingFeeService.execute c)
  | .processPayment c => .payment <$> ProcessPaymentService.execute rt.sha256 c
  | .retryEntries => .base ((fun _ => .done) <$> NotifyRetryWorker.processEntryRetries)
  | .retryPayments => (fun _ => .done) <$> NotifyRetryWorker.processPaymentRetries

inductive Start where
  | backend (n : Nat) (request : Request)
  | pg (id : Nat)
  | card (id : Nat)

inductive Env where
  | tick (milliseconds : Nat)
  | outside (replies : Outside)
  | scan (keys : List TxId)
  | scanEntries (keys : List Uuid)
  | pgBillingKeys (rows : List PgBillingKey)
  | cardTokens (rows : List CardToken)
  | dropPg (id : Nat)
  | dropCard (id : Nat)
  | giveUpPg (id : Nat)
  | giveUpCard (id : Nat)

namespace World

variable (w : World)

def begin (rt : Runtime) : Start → Option (Tid × Service Reply × World)
  | .backend n request => some (.backend n request, program rt request, w)
  | .pg id => (Exchange.deliver id w.pgCalls).map fun (request, xs) =>
      (.pg id, (fun _ => .done) <$> ChargeBillingKeyService.serve id request,
        { w with pgCalls := xs })
  | .card id => (Exchange.deliver id w.cardCalls).map fun (request, xs) =>
      (.card id, (fun _ => .done) <$> ApproveCardPaymentService.serve id request,
        { w with cardCalls := xs })

def environment : Env → Option World
  | .tick ms => some { w with base := { w.base with now := w.base.now + ms } }
  | .outside replies => some { w with base := { w.base with outside := replies } }
  | .scan keys => some { w with scanned := keys }
  | .scanEntries keys => some { w with base := { w.base with scannedEntries := keys } }
  | .pgBillingKeys rows => some { w with pgBillingKeys := rows }
  | .cardTokens rows => some { w with cardTokens := rows }
  | .dropPg id => (Exchange.drop id w.pgCalls).map fun xs => { w with pgCalls := xs }
  | .dropCard id => (Exchange.drop id w.cardCalls).map fun xs => { w with cardCalls := xs }
  | .giveUpPg id => (Exchange.giveUp id w.pgCalls).map fun xs => { w with pgCalls := xs }
  | .giveUpCard id => (Exchange.giveUp id w.cardCalls).map fun xs => { w with cardCalls := xs }

/-- Nothing has been paid yet; accounts, sessions, tokens and quotes are arbitrary. -/
def Unpaid : Prop :=
  w.transactions = [] ∧ w.outbox = [] ∧ w.pgCalls = [] ∧ w.pgTransactions = [] ∧
    w.cardCalls = [] ∧ w.cardTransactions = []

end World

/-- The three services under one runtime. -/
def carPayIn (rt : Runtime) : System Op PyError Reply World Tid Start Env where
  exec t _ op w := w.exec t op
  begin x w := w.begin rt x
  environment x w := w.environment x

end CarPayIn
