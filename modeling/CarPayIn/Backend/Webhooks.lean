import CarPayIn.Backend.Records
import CarPayIn.Backend.Signatures
import CarPayIn.Encoding.JsonObjects
import CarPayIn.Pms.State
import CarPayIn.Registration.Service

/-! # Webhooks between the services

The PMS reports an entry and the PG a card to the backend, and the backend
reports a payment to the PMS: each as an object in UTF-8 that is signed as it is
sent. The receiver reads the fields of what arrived and checks its signature.
-/

namespace CarPayIn

open Encoding

/-- A `POST` of JSON; a notification that is not signed has no headers. -/
structure WebhookRequest where
  headers : Option WebhookHeaders
  body : CarPayIn.Bytes
deriving DecidableEq, Repr

/-- What pydantic makes of a value where a `str` and where an `int` is expected, of which only this
is used: a `str` and an `int` are taken as they are, and `None` is refused. -/
structure Pydantic (F : Type) where
  str : Value F → Option String
  int : Value F → Option Int
  str_text : ∀ s, str (.str (text s)) = some s
  str_null : str .null = none
  int_int : ∀ n, int (.int n) = some n

/-! ## Senders -/

section
variable (sha256 : Sha256) (sent : Clock)

def Pms.EntryWebhook.fields (webhook : Pms.EntryWebhook) : List (String × Scalar) :=
  [("pms_session_id", .str (text webhook.pmsSessionId)), ("lot_id", .str (text webhook.lotId)),
    ("plate", .str (text webhook.plate)), ("entry_time", .str (text webhook.entryTime))]

/-- The request of `send_entry_webhook`. -/
def Pms.sendEntryWebhook (webhookToken : String) (webhook : Pms.EntryWebhook) :
    Option WebhookRequest := do
  let body ← objectBytes .compact (named webhook.fields)
  return ⟨some (entryWebhookHeaders sha256 webhookToken body sent), body⟩

def optionalText : Option String → Scalar
  | none => .null
  | some s => .str (text s)

def Registration.CardRegistrationWebhook.fields (webhook : CardRegistrationWebhook) :
    List (String × Scalar) :=
  [("order_id", .str (text webhook.orderId)), ("billing_key", .str (text webhook.billingKey)),
    ("card_last_four", optionalText webhook.lastFour), ("status", .str (text "active"))]

/-- The request of `send_card_registration_webhook`. -/
def MockPg.sendCardRegistrationWebhook (webhookSecret : String)
    (webhook : Registration.CardRegistrationWebhook) : Option WebhookRequest := do
  let body ← objectBytes .compact (named webhook.fields)
  return ⟨some (cardRegistrationWebhookHeaders sha256 webhookSecret body sent), body⟩

variable (txText : TxId → String)

def PaymentComplete.fields (payload : PaymentComplete) : List (String × Scalar) :=
  [("pms_session_id", optionalText payload.pmsSessionId),
    ("carpay_parking_session_id", .str (text payload.carpayParkingSessionId)),
    ("carpay_tx_id", .str (text (txText payload.carpayTxId))), ("amount", .int payload.amount),
    ("currency", .str (text payload.currency)), ("approval_no", optionalText payload.approvalNo),
    ("idempotency_key", .str (text payload.idempotencyKey))]

/-- The request of `notify_payment_complete`, which is not signed without a secret. -/
def notifyPaymentComplete (webhookSecret : Option String) (payload : PaymentComplete) :
    Option WebhookRequest := do
  let body ← objectBytes .compact (named (payload.fields txText))
  match webhookSecret with
  | some secret =>
      if secret = "" then return ⟨none, body⟩
      else return ⟨some (signWebhookHeaders sha256 secret body none sent), body⟩
  | none => return ⟨none, body⟩

end

/-! ## Receivers -/

/-- The answer to a request that is not as declared. -/
def requestValidationError : PyError := .exception "RequestValidationError"

def required {α : Type} : Option α → Except PyError α
  | some a => .ok a
  | none => .error requestValidationError

section
variable {F : Type} (fmt : FloatFormat F) (pydantic : Pydantic F)

def parseFields (body : CarPayIn.Bytes) : Except PyError (List (Text × Value F)) :=
  match loadsBytes fmt body with
  | some (.dict fields) => .ok fields
  | _ => .error requestValidationError

def field {α : Type} (read : Value F → Option α) (fields : List (Text × Value F)) (name : String) :
    Except PyError α := required ((get? fields (text name)).bind read)

structure EntryWebhookRequest where
  pmsSessionId : String
  lotId : String
  plate : String
  entryTime : String
deriving DecidableEq, Repr

def EntryWebhookRequest.parse (body : CarPayIn.Bytes) : Except PyError EntryWebhookRequest := do
  let fields ← parseFields fmt body
  return ⟨← field pydantic.str fields "pms_session_id", ← field pydantic.str fields "lot_id",
    ← field pydantic.str fields "plate", ← field pydantic.str fields "entry_time"⟩

structure CardWebhookRequest where
  orderId : String
  billingKey : String
  cardLastFour : String
  status : String
deriving DecidableEq, Repr

/-- `Literal["active"]` -/
def literalActive (value : Value F) : Option String :=
  match value with
  | .str s => if s = text "active" then some "active" else none
  | _ => none

def CardWebhookRequest.parse (body : CarPayIn.Bytes) : Except PyError CardWebhookRequest := do
  let fields ← parseFields fmt body
  return ⟨← field pydantic.str fields "order_id", ← field pydantic.str fields "billing_key",
    ← field pydantic.str fields "card_last_four", ← field literalActive fields "status"⟩

structure Pms.PaymentCompleteRequest where
  pmsSessionId : String
  carpayParkingSessionId : String
  carpayTxId : String
  amount : Int
  currency : String
  approvalNo : String
  idempotencyKey : String
deriving DecidableEq, Repr

def Pms.PaymentCompleteRequest.parse (body : CarPayIn.Bytes) :
    Except PyError Pms.PaymentCompleteRequest := do
  let fields ← parseFields fmt body
  return ⟨← field pydantic.str fields "pms_session_id",
    ← field pydantic.str fields "carpay_parking_session_id",
    ← field pydantic.str fields "carpay_tx_id", ← field pydantic.int fields "amount",
    ← field pydantic.str fields "currency", ← field pydantic.str fields "approval_no",
    ← field pydantic.str fields "idempotency_key"⟩

variable (sha256 : Sha256) (v : WebhookSignatureVerifier) (now : Int) (request : WebhookRequest)

def EntryWebhookRequest.command (headers : WebhookHeaders) (entry : EntryWebhookRequest) :
    HandleEntryWebhookCommand :=
  ⟨headers.signature, entry.pmsSessionId, entry.lotId, entry.plate, entry.entryTime,
    headers.timestamp⟩

/-- `POST /webhook/entry`, up to the check of the signature. -/
def handleEntryWebhook : Except PyError HandleEntryWebhookCommand := do
  let entry ← EntryWebhookRequest.parse fmt pydantic request.body
  let headers ← required request.headers
  PmsAuthValidator.validate sha256 v now headers.timestamp headers.signature request.body
  return entry.command headers

def CardWebhookRequest.command (headers : WebhookHeaders) (card : CardWebhookRequest) :
    HandleCardWebhookCommand :=
  ⟨card.orderId, card.billingKey, card.cardLastFour, card.status, headers.signature,
    headers.timestamp⟩

/-- `POST /card/webhook`, up to the check of the signature. -/
def handleCardWebhook : Except PyError HandleCardWebhookCommand := do
  let card ← CardWebhookRequest.parse fmt pydantic request.body
  let headers ← required request.headers
  if ¬(← v.verify sha256 now headers.timestamp headers.signature request.body) then
    throw (.valueError "invalid_signature")
  return card.command headers

def Pms.PaymentCompleteRequest.command (payment : Pms.PaymentCompleteRequest) :
    Pms.RecordPaymentCompleteCommand :=
  ⟨payment.pmsSessionId, payment.carpayParkingSessionId, payment.carpayTxId, payment.amount,
    payment.currency, payment.approvalNo, payment.idempotencyKey⟩

/-- `POST /payment/complete`, up to the check of the signature. -/
def Pms.recordPaymentComplete : Except PyError Pms.RecordPaymentCompleteCommand := do
  let payment ← Pms.PaymentCompleteRequest.parse fmt pydantic request.body
  let headers ← required request.headers
  if ¬(← Pms.WebhookSignatureVerifier.verify sha256 v now headers.timestamp headers.signature
      request.body) then
    throw (.permissionError "invalid_signature")
  return payment.command

end

/-! ## What a signature stands for -/

theorem encode_injective : Function.Injective encode := by
  intro s s' h
  have hdata : s.toUTF8 = s'.toUTF8 := ByteArray.ext (Array.toList_inj.mp h)
  exact String.toByteArray_inj.mp hdata

theorem digitChar_inj {n m : Nat} (hn : n < 16) (hm : m < 16)
    (h : Nat.digitChar n = Nat.digitChar m) : n = m := by
  have hall : ∀ n < 16, ∀ m < 16, Nat.digitChar n = Nat.digitChar m → n = m := by decide
  exact hall n hn m hm h

theorem hexPair_injective : Function.Injective hexPair := by
  intro b b' h
  have hb := b.toNat_lt
  have hb' := b'.toNat_lt
  simp only [hexPair, List.cons.injEq, and_true] at h
  have hhigh := digitChar_inj (by omega) (by omega) h.1
  have hlow := digitChar_inj (by omega) (by omega) h.2
  exact UInt8.toNat_inj.mp (by omega)

theorem hexdigest_injective : Function.Injective hexdigest := by
  have hpairs : ∀ ds ds' : Bytes, ds.flatMap hexPair = ds'.flatMap hexPair → ds = ds' := by
    intro ds
    induction ds with
    | nil =>
        intro ds' h
        cases ds' with
        | nil => rfl
        | cons b ds' => cases h
    | cons b ds ih =>
        intro ds' h
        cases ds' with
        | nil => cases h
        | cons b' ds' =>
            rw [List.flatMap_cons, List.flatMap_cons] at h
            obtain ⟨hpair, hrest⟩ := List.append_inj h rfl
            rw [hexPair_injective hpair, ih ds' hrest]
  intro digest digest' h
  have htext := congrArg String.toList h
  rw [hexdigest, hexdigest, String.toList_ofList, String.toList_ofList] at htext
  exact hpairs digest digest' htext

theorem dot_notMem_hexdigest (digest : Bytes) : '.' ∉ (hexdigest digest).toList := by
  rw [hexdigest, String.toList_ofList, List.mem_flatMap]
  rintro ⟨b, -, hdot⟩
  have hdigit : ∀ n < 16, '.' ≠ Nat.digitChar n := by decide
  have hb := b.toNat_lt
  simp only [hexPair, List.mem_cons, List.not_mem_nil, or_false] at hdot
  rcases hdot with h | h
  · exact hdigit _ (by omega) h
  · exact hdigit _ (by omega) h

theorem dot_notMem_toDigits (n : Nat) : '.' ∉ Nat.toDigits 10 n := fun h =>
  absurd (PyInt.toDigits_isDigit h) (by decide)

theorem dot_notMem_toString (n : Int) : '.' ∉ (toString n).toList := by
  cases n with
  | ofNat n =>
      show '.' ∉ n.repr.toList
      rw [Nat.toList_repr]
      exact dot_notMem_toDigits n
  | negSucc n =>
      show '.' ∉ ("-" ++ (n + 1).repr).toList
      rw [String.toList_append, Nat.toList_repr, List.mem_append]
      rintro (h | h)
      · exact absurd h (by decide)
      · exact dot_notMem_toDigits _ h

/-- Two messages that a function does not tell apart. -/
def Collide (f : Bytes → Bytes) (message message' : Bytes) : Prop :=
  message ≠ message' ∧ f message = f message'

section
variable (sha256 : Sha256)

def signedMessage (timestamp : String) (body : Bytes) : Bytes :=
  encode (timestamp ++ "." ++ hexdigest (sha256.digest body))

/-- A collision of the digest, or of the HMAC under a key. -/
def Forges (secret timestamp timestamp' : String) (body body' : Bytes) : Prop :=
  Collide sha256.digest body body' ∨
    Collide (sha256.hmac (encode secret)) (signedMessage sha256 timestamp body)
      (signedMessage sha256 timestamp' body')

variable {sha256}

theorem signedMessage_inj {timestamp timestamp' : String} {body body' : Bytes}
    (hdot : '.' ∉ timestamp.toList)
    (h : signedMessage sha256 timestamp body = signedMessage sha256 timestamp' body') :
    timestamp = timestamp' ∧ sha256.digest body = sha256.digest body' := by
  have htext := congrArg String.toList (encode_injective h)
  simp only [String.toList_append, List.append_assoc] at htext
  obtain ⟨htimestamp, -, hdigest⟩ :=
    (List.append_cons_inj_of_notMem hdot (dot_notMem_hexdigest _)).mp htext
  exact ⟨String.toList_injective htimestamp,
    hexdigest_injective (String.toList_injective hdigest)⟩

/-- A signature belongs to one timestamp and one body, unless something collides. -/
theorem signatureOf_inj {secret timestamp timestamp' : String} {body body' : Bytes}
    (hdot : '.' ∉ timestamp.toList)
    (h : signatureOf sha256 secret timestamp body = signatureOf sha256 secret timestamp' body') :
    timestamp = timestamp' ∧ body = body' ∨
      Forges sha256 secret timestamp timestamp' body body' := by
  have hhmac := hexdigest_injective h
  by_cases hmessage : signedMessage sha256 timestamp body = signedMessage sha256 timestamp' body'
  · obtain ⟨htimestamp, hdigest⟩ := signedMessage_inj hdot hmessage
    by_cases hbody : body = body'
    · exact .inl ⟨htimestamp, hbody⟩
    · exact .inr (.inl ⟨hbody, hdigest⟩)
  · exact .inr (.inr ⟨hmessage, hhmac⟩)

/-! ## Requests that are accepted -/

theorem required_ok_iff {α : Type} {x : Option α} {a : α} : required x = .ok a ↔ x = some a := by
  cases x with
  | none => exact iff_of_false nofun nofun
  | some a' => exact ⟨fun h => by cases h; rfl, fun h => by cases h; rfl⟩

variable (sha256) in
/-- A route that reads a body and takes it for a command when its signature is accepted. -/
def Receives {M C : Type} (v : WebhookSignatureVerifier) (parse : Bytes → Except PyError M)
    (command : WebhookHeaders → M → C) (receive : Int → WebhookRequest → Except PyError C) : Prop :=
  ∀ now request c, receive now request = .ok c ↔ ∃ m headers, parse request.body = .ok m ∧
    request.headers = some headers ∧
    v.Accepts sha256 now headers.timestamp headers.signature request.body ∧ command headers m = c

variable (sha256) in
/-- While a request is on time, it is taken for the command and for no other, and then no longer. No
other request is accepted with its signature, unless something collides. -/
structure Conveys {C : Type} (v : WebhookSignatureVerifier) (sent : Clock) (request : WebhookRequest)
    (receive : Int → WebhookRequest → Except PyError C) (command : Option C) : Prop where
  received : ∀ now c, receive now request = .ok c ↔
    (now - sent.seconds).natAbs ≤ v.toleranceSeconds ∧ command = some c
  bound : ∀ now other c headers headers', receive now other = .ok c →
    request.headers = some headers → other.headers = some headers' →
    headers'.signature = headers.signature → other = request ∨
      Forges sha256 v.secret headers.timestamp headers'.timestamp request.body other.body

variable {v : WebhookSignatureVerifier}

theorem Receives.conveys {M C : Type} {parse : Bytes → Except PyError M}
    {command : WebhookHeaders → M → C} {receive : Int → WebhookRequest → Except PyError C}
    (h : Receives sha256 v parse command receive) {sent : Clock} {headers : WebhookHeaders}
    {body : Bytes} (hheaders : headers ∈ sentHeaders sha256 v.secret body sent) {m : Option M}
    (hparse : parse body = required m) :
    Conveys sha256 v sent ⟨some headers, body⟩ receive (m.map (command headers)) := by
  obtain ⟨htimestamp, hsignature⟩ := sentHeaders_signature hheaders
  constructor
  · intro now c
    rw [h now _ c]
    have hiff : v.Accepts sha256 now headers.timestamp headers.signature body ↔
        (now - sent.seconds).natAbs ≤ v.toleranceSeconds := by
      rw [WebhookSignatureVerifier.Accepts, and_iff_left hsignature, htimestamp, onTime_clock]
    constructor
    · rintro ⟨m', headers', hm', hsame, haccepts, rfl⟩
      cases hsame
      rw [hparse, required_ok_iff] at hm'
      exact ⟨hiff.mp haccepts, by rw [hm', Option.map_some]⟩
    · rintro ⟨htime, hcommand⟩
      obtain ⟨m', rfl, rfl⟩ := Option.map_eq_some_iff.mp hcommand
      exact ⟨m', headers, hparse, rfl, hiff.mpr htime, rfl⟩
  · intro now other c headers₀ headers' hreceive hheaders₀ hother hsame
    cases hheaders₀
    obtain ⟨_, _, -, hheaders', ⟨-, hsignature'⟩, -⟩ := (h now other c).mp hreceive
    cases hother.symm.trans hheaders'
    rw [hsame, hsignature] at hsignature'
    have hdot : '.' ∉ headers.timestamp.toList := by
      rw [htimestamp]
      exact dot_notMem_toString sent.seconds
    rcases signatureOf_inj hdot hsignature' with ⟨htime, hbody⟩ | hforged
    · have hsent : headers' = headers := by
        cases headers
        cases headers'
        cases htime
        cases hsame
        rfl
      left
      cases other
      cases hother
      cases hbody
      rw [hsent]
    · exact .inr hforged

/-! ## The three routes -/

section
variable {F : Type} {fmt : FloatFormat F} {pydantic : Pydantic F}

theorem ok_bind_iff {α β : Type} {x : Except PyError α} {f : α → Except PyError β} {b : β} :
    (x >>= f) = .ok b ↔ ∃ a, x = .ok a ∧ f a = .ok b := by
  cases x with
  | error e => exact iff_of_false nofun (by rintro ⟨a, ⟨⟩, -⟩)
  | ok a => exact ⟨fun h => ⟨a, rfl, h⟩, by rintro ⟨a', ⟨⟩, h⟩; exact h⟩

/-- What is left of a route once its body was read. -/
theorem receives_of_check {M C : Type} {parse : Bytes → Except PyError M}
    {command : WebhookHeaders → M → C} {receive : Int → WebhookRequest → Except PyError C}
    (check : Int → WebhookHeaders → Bytes → Except PyError Unit)
    (hcheck : ∀ now headers body, check now headers body = .ok () ↔
      v.Accepts sha256 now headers.timestamp headers.signature body)
    (h : ∀ now request, receive now request = parse request.body >>= fun m =>
      required request.headers >>= fun headers =>
        check now headers request.body >>= fun _ => .ok (command headers m)) :
    Receives sha256 v parse command receive := by
  intro now request c
  simp only [h, ok_bind_iff, required_ok_iff]
  constructor
  · rintro ⟨m, hparse, headers, hheaders, ⟨⟩, haccepts, hc⟩
    cases hc
    exact ⟨m, headers, hparse, hheaders, (hcheck now headers _).mp haccepts, rfl⟩
  · rintro ⟨m, headers, hparse, hheaders, haccepts, rfl⟩
    exact ⟨m, hparse, headers, hheaders, (), (hcheck now headers _).mpr haccepts, rfl⟩

variable (sha256 v) in
/-- The check that raises `e`. -/
def checkSignature (e : PyError) (now : Int) (headers : WebhookHeaders) (body : Bytes) :
    Except PyError Unit := do
  if ¬(← v.verify sha256 now headers.timestamp headers.signature body) then throw e

theorem checkSignature_ok_iff {e : PyError} (now : Int) (headers : WebhookHeaders) (body : Bytes) :
    checkSignature sha256 v e now headers body = .ok () ↔
      v.Accepts sha256 now headers.timestamp headers.signature body := by
  rw [← WebhookSignatureVerifier.validate_ok_iff, PmsAuthValidator.validate, checkSignature]
  cases v.verify sha256 now headers.timestamp headers.signature body with
  | error e => exact iff_of_false nofun nofun
  | ok accepted =>
      cases accepted with
      | false => exact iff_of_false nofun nofun
      | true => exact iff_of_true rfl rfl

theorem checkSignature_bind {α : Type} (e : PyError) (now : Int) (headers : WebhookHeaders)
    (body : Bytes) (a : α) :
    (checkSignature sha256 v e now headers body >>= fun _ => .ok a) =
      (do
        if ¬(← v.verify sha256 now headers.timestamp headers.signature body) then throw e
        return a) := by
  unfold checkSignature
  cases v.verify sha256 now headers.timestamp headers.signature body with
  | error e => rfl
  | ok accepted => cases accepted <;> rfl

theorem entry_receives : Receives sha256 v (EntryWebhookRequest.parse fmt pydantic)
    EntryWebhookRequest.command (handleEntryWebhook fmt pydantic sha256 v) :=
  receives_of_check
    (fun now headers body =>
      PmsAuthValidator.validate sha256 v now headers.timestamp headers.signature body)
    (fun _ _ _ => WebhookSignatureVerifier.validate_ok_iff) fun _ _ => rfl

theorem card_receives : Receives sha256 v (CardWebhookRequest.parse fmt pydantic)
    CardWebhookRequest.command (handleCardWebhook fmt pydantic sha256 v) := by
  apply receives_of_check _ (checkSignature_ok_iff (e := .valueError "invalid_signature"))
  intro now request
  simp only [checkSignature_bind]
  rfl

theorem payment_receives : Receives sha256 v (Pms.PaymentCompleteRequest.parse fmt pydantic)
    (fun _ payment => payment.command) (Pms.recordPaymentComplete fmt pydantic sha256 v) := by
  apply receives_of_check _ (checkSignature_ok_iff (e := .permissionError "invalid_signature"))
  intro now request
  simp only [checkSignature_bind]
  rfl

/-! ## Bodies that are read -/

variable {es : List (String × Scalar)} {body : Bytes}

variable (F es) in
/-- What is read from an object that was sent. -/
def sentFields : List (Text × Value F) :=
  (Style.compact.order (named es)).map fun e => (e.1, e.2.value)

theorem parseFields_sent (hes : Encodable (named es))
    (h : objectBytes .compact (named es) = some body) :
    parseFields fmt body = .ok (sentFields F es) := by
  rw [parseFields, loadsBytes_objectBytes hes h]
  rfl

theorem field_sent (hes : Encodable (named es)) {α : Type} {read : Value F → Option α}
    {name : String} {value : Scalar} {a : Option α} (hread : read value.value = a)
    (he : (name, value) ∈ es) :
    field read (sentFields F es) name = required a := by
  have hget := get?_order (F := F) .compact hes.keys (mem_named he)
  rw [field, sentFields, hget, Option.bind_some, hread]

variable (pydantic) in
theorem optionalText_read (s : Option String) : pydantic.str (optionalText s).value = s := by
  cases s with
  | none => exact pydantic.str_null
  | some s => exact pydantic.str_text s

theorem isUnicode_str (s : String) : (Scalar.str (text s)).IsUnicode := isUnicode_text s

theorem isUnicode_int (n : Int) : (Scalar.int n).IsUnicode := trivial

theorem isUnicode_optionalText (s : Option String) : (optionalText s).IsUnicode := by
  cases s with
  | none => trivial
  | some s => exact isUnicode_str s

theorem ok_bind {α β : Type} (a : α) (f : α → Except PyError β) : (Except.ok a >>= f) = f a := rfl

theorem encodable_entry (webhook : Pms.EntryWebhook) : Encodable (named webhook.fields) := by
  apply encodable_named
  · simp [Pms.EntryWebhook.fields]
  · simp [Pms.EntryWebhook.fields]
  · simp [Pms.EntryWebhook.fields, isUnicode_str]

theorem parse_entry (webhook : Pms.EntryWebhook)
    (h : objectBytes .compact (named webhook.fields) = some body) :
    EntryWebhookRequest.parse fmt pydantic body =
      required (some ⟨webhook.pmsSessionId, webhook.lotId, webhook.plate, webhook.entryTime⟩) := by
  have hes := encodable_entry webhook
  have htext {name s : String} (he : (name, .str (text s)) ∈ webhook.fields) :=
    field_sent hes (pydantic.str_text s) he
  have h₁ := htext (.head _)
  have h₂ := htext (.tail _ (.head _))
  have h₃ := htext (.tail _ (.tail _ (.head _)))
  have h₄ := htext (.tail _ (.tail _ (.tail _ (.head _))))
  simp only [EntryWebhookRequest.parse, parseFields_sent hes h, ok_bind, h₁, h₂, h₃, h₄]
  rfl

theorem encodable_card (webhook : Registration.CardRegistrationWebhook) :
    Encodable (named webhook.fields) := by
  apply encodable_named
  · simp [Registration.CardRegistrationWebhook.fields]
  · simp [Registration.CardRegistrationWebhook.fields]
  · simp [Registration.CardRegistrationWebhook.fields, isUnicode_optionalText, isUnicode_str]

variable (fmt pydantic) in
theorem parse_card (webhook : Registration.CardRegistrationWebhook)
    (h : objectBytes .compact (named webhook.fields) = some body) :
    CardWebhookRequest.parse fmt pydantic body = required (webhook.lastFour.map fun lastFour =>
      ⟨webhook.orderId, webhook.billingKey, lastFour, "active"⟩) := by
  have hes := encodable_card webhook
  have htext {name s : String} (he : (name, .str (text s)) ∈ webhook.fields) :=
    field_sent hes (pydantic.str_text s) he
  have hactive : literalActive ((Scalar.str (text "active")).value : Value F) = some "active" := by
    simp [literalActive, Scalar.value]
  have h₁ := htext (.head _)
  have h₂ := htext (.tail _ (.head _))
  have h₃ := field_sent hes (optionalText_read pydantic webhook.lastFour)
    (.tail _ (.tail _ (.head _)))
  have h₄ := field_sent hes hactive (.tail _ (.tail _ (.tail _ (.head _))))
  simp only [CardWebhookRequest.parse, parseFields_sent hes h, ok_bind, h₁, h₂, h₃, h₄]
  cases webhook.lastFour <;> rfl

variable (txText : TxId → String)

theorem encodable_payment (payload : PaymentComplete) :
    Encodable (named (payload.fields txText)) := by
  apply encodable_named
  · simp [PaymentComplete.fields]
  · simp [PaymentComplete.fields]
  · simp [PaymentComplete.fields, isUnicode_optionalText, isUnicode_str, isUnicode_int]

/-- Both the session and the approval number must be there. -/
def PaymentComplete.request (payload : PaymentComplete) :
    Option Pms.PaymentCompleteRequest := do
  let pmsSessionId ← payload.pmsSessionId
  let approvalNo ← payload.approvalNo
  return ⟨pmsSessionId, payload.carpayParkingSessionId, txText payload.carpayTxId, payload.amount,
    payload.currency, approvalNo, payload.idempotencyKey⟩

theorem parse_payment (payload : PaymentComplete)
    (h : objectBytes .compact (named (payload.fields txText)) = some body) :
    Pms.PaymentCompleteRequest.parse fmt pydantic body = required (payload.request txText) := by
  have hes := encodable_payment txText payload
  have htext {name s : String} (he : (name, .str (text s)) ∈ payload.fields txText) :=
    field_sent hes (pydantic.str_text s) he
  have hoptional {name : String} {s : Option String}
      (he : (name, optionalText s) ∈ payload.fields txText) :=
    field_sent hes (optionalText_read pydantic s) he
  have h₁ := hoptional (.head _)
  have h₂ := htext (.tail _ (.head _))
  have h₃ := htext (.tail _ (.tail _ (.head _)))
  have h₄ := field_sent hes (pydantic.int_int payload.amount) (.tail _ (.tail _ (.tail _ (.head _))))
  have h₅ := htext (.tail _ (.tail _ (.tail _ (.tail _ (.head _)))))
  have h₆ := hoptional (.tail _ (.tail _ (.tail _ (.tail _ (.tail _ (.head _))))))
  have h₇ := htext (.tail _ (.tail _ (.tail _ (.tail _ (.tail _ (.tail _ (.head _)))))))
  simp only [Pms.PaymentCompleteRequest.parse, parseFields_sent hes h, ok_bind, h₁, h₂, h₃, h₄, h₅,
    h₆, h₇, PaymentComplete.request]
  cases payload.pmsSessionId <;> cases payload.approvalNo <;> rfl

/-! ## Every webhook -/

theorem objectBytes_named (hes : Encodable (named es)) (hprint : ∀ e ∈ es, e.2.printable = true) :
    ∃ body, objectBytes .compact (named es) = some body := by
  apply Option.isSome_iff_exists.mp
  rw [objectBytes_isSome hes, List.all_eq_true]
  intro e he
  obtain ⟨e', he', rfl⟩ := List.mem_map.mp he
  exact hprint e' he'

theorem printable_optionalText (s : Option String) : (optionalText s).printable = true := by
  cases s <;> rfl

theorem printable_str (s : String) : (Scalar.str (text s)).printable = true := rfl

variable {txText} in
theorem notify_unsigned {sent : Clock} {secret : Option String} {payload : PaymentComplete}
    {request : WebhookRequest} (hsecret : secret = none ∨ secret = some "")
    (h : notifyPaymentComplete sha256 sent txText secret payload = some request) :
    request.headers = none := by
  unfold notifyPaymentComplete at h
  obtain ⟨body, -, h⟩ := Option.bind_eq_some_iff.mp h
  rcases hsecret with rfl | rfl
  · cases h
    rfl
  · cases h
    rfl

end

/-- Each webhook is read as what was sent with it for as long as it is on time, and its signature
serves for no other one. A registration without digits and a payment without a session or an approval
number are never accepted, and neither is a payment that was not signed. -/
theorem webhooks_arrive {F : Type} (fmt : FloatFormat F) (pydantic : Pydantic F) (sha256 : Sha256)
    (v : WebhookSignatureVerifier) (sent : Clock) (txText : TxId → String) :
    (∀ webhook, ∃ request headers,
      Pms.sendEntryWebhook sha256 sent v.secret webhook = some request ∧
        request.headers = some headers ∧
        Conveys sha256 v sent request (handleEntryWebhook fmt pydantic sha256 v)
          (some ⟨headers.signature, webhook.pmsSessionId, webhook.lotId, webhook.plate,
            webhook.entryTime, headers.timestamp⟩)) ∧
    (∀ webhook, ∃ request headers,
      MockPg.sendCardRegistrationWebhook sha256 sent v.secret webhook = some request ∧
        request.headers = some headers ∧
        Conveys sha256 v sent request (handleCardWebhook fmt pydantic sha256 v)
          (webhook.lastFour.map fun lastFour => ⟨webhook.orderId, webhook.billingKey, lastFour,
            "active", headers.signature, headers.timestamp⟩)) ∧
    (∀ payload : PaymentComplete, v.secret ≠ "" → (Scalar.int payload.amount).printable = true →
      ∃ request, notifyPaymentComplete sha256 sent txText (some v.secret) payload = some request ∧
        Conveys sha256 v sent request (Pms.recordPaymentComplete fmt pydantic sha256 v)
          ((payload.request txText).map Pms.PaymentCompleteRequest.command)) ∧
    ∀ payload request secret, secret = none ∨ secret = some "" →
      notifyPaymentComplete sha256 sent txText secret payload = some request →
        ∀ now command, Pms.recordPaymentComplete fmt pydantic sha256 v now request ≠ .ok command := by
  refine ⟨?_, ?_, ?_, ?_⟩
  · intro webhook
    obtain ⟨body, hbody⟩ := objectBytes_named (encodable_entry webhook)
      (by simp [Pms.EntryWebhook.fields, printable_str])
    have hsend : Pms.sendEntryWebhook sha256 sent v.secret webhook =
        some ⟨some (Pms.entryWebhookHeaders sha256 v.secret body sent), body⟩ := by
      rw [Pms.sendEntryWebhook, hbody]
      rfl
    refine ⟨_, _, hsend, rfl, ?_⟩
    have hheaders : Pms.entryWebhookHeaders sha256 v.secret body sent ∈
        sentHeaders sha256 v.secret body sent := by
      simp [sentHeaders]
    exact entry_receives.conveys hheaders (parse_entry webhook hbody)
  · intro webhook
    obtain ⟨body, hbody⟩ := objectBytes_named (encodable_card webhook)
      (by simp [Registration.CardRegistrationWebhook.fields, printable_str, printable_optionalText])
    have hsend : MockPg.sendCardRegistrationWebhook sha256 sent v.secret webhook =
        some ⟨some (MockPg.cardRegistrationWebhookHeaders sha256 v.secret body sent), body⟩ := by
      rw [MockPg.sendCardRegistrationWebhook, hbody]
      rfl
    refine ⟨_, _, hsend, rfl, ?_⟩
    have hheaders : MockPg.cardRegistrationWebhookHeaders sha256 v.secret body sent ∈
        sentHeaders sha256 v.secret body sent := by
      simp [sentHeaders]
    have hparse := parse_card fmt pydantic webhook hbody
    have hconveys := card_receives.conveys hheaders hparse
    rw [Option.map_map] at hconveys
    exact hconveys
  · intro payload hsecret hamount
    obtain ⟨body, hbody⟩ := objectBytes_named (encodable_payment txText payload)
      (by simp [PaymentComplete.fields, printable_str, printable_optionalText, hamount])
    have hheaders : signWebhookHeaders sha256 v.secret body none sent ∈
        sentHeaders sha256 v.secret body sent := by
      simp [sentHeaders]
    refine ⟨⟨some (signWebhookHeaders sha256 v.secret body none sent), body⟩, ?_, ?_⟩
    · rw [notifyPaymentComplete, hbody, Option.bind_eq_bind, Option.bind_some]
      exact if_neg hsecret
    · exact payment_receives.conveys hheaders (parse_payment txText payload hbody)
  · intro payload request secret hsecret hsend now command haccepted
    obtain ⟨_, headers, -, hheaders, -⟩ := (payment_receives now request command).mp haccepted
    cases (notify_unsigned hsecret hsend).symm.trans hheaders

end

theorem ofNat_text (s : String) : String.ofList ((text s).map Char.ofNat) = s := by
  have hchars : (text s).map Char.ofNat = s.toList := by
    rw [text, List.map_map]
    exact List.map_id'' Char.ofNat_toNat _
  rw [hchars, String.ofList_toList]

/-- Texts and numbers as they are, and nothing else. -/
def plainPydantic : Pydantic Unit where
  str
    | .str s => some (String.ofList (s.map Char.ofNat))
    | _ => none
  int
    | .int n => some n
    | _ => none
  str_text s := congrArg some (ofNat_text s)
  str_null := rfl
  int_int _ := rfl

/-- The digests of one notification and of what is signed with it at one time. -/
def noticeDigests : Sha256 where
  digest message :=
    if message = encode ("\x7b\"amount\":3000,\"approval_no\":\"APPR-1\"," ++
      "\"carpay_parking_session_id\":\"6fa459ea-ee8a-3ca4-894e-db77e160355e\"," ++
      "\"carpay_tx_id\":\"886313e1-3b8a-5372-9b90-0c9aee199e5d\",\"currency\":\"KRW\"," ++
      "\"idempotency_key\":\"key-1\",\"pms_session_id\":\"pms-sess-1\"\x7d") then
      [98, 19, 191, 110, 219, 12, 122, 79, 63, 110, 144, 188, 99, 204, 220, 168, 132, 11, 29, 147,
        129, 72, 122, 50, 42, 196, 65, 225, 119, 39, 64, 44]
    else []
  hmac key message :=
    if key = encode "pms-webhook-secret" ∧ message = encode
      "1735689600.6213bf6edb0c7a4f3f6e90bc63ccdca8840b1d9381487a322ac441e17727402c" then
      [196, 109, 67, 176, 203, 21, 227, 150, 194, 100, 66, 204, 43, 81, 13, 37, 10, 227, 17, 28, 136,
        30, 158, 113, 23, 140, 159, 44, 51, 61, 120, 58]
    else []

def paidNotice : PaymentComplete where
  pmsSessionId := some "pms-sess-1"
  carpayParkingSessionId := "6fa459ea-ee8a-3ca4-894e-db77e160355e"
  carpayTxId := .v5 "key-1"
  amount := 3000
  currency := "KRW"
  approvalNo := some "APPR-1"
  idempotencyKey := "key-1"

theorem webhooks_arrive_paid : ∃ request,
    notifyPaymentComplete noticeDigests newYear (fun _ => "886313e1-3b8a-5372-9b90-0c9aee199e5d")
      (some "pms-webhook-secret") paidNotice = some request ∧
    Pms.recordPaymentComplete noFloats plainPydantic noticeDigests pmsVerifier 1735689660 request =
      .ok ⟨"pms-sess-1", "6fa459ea-ee8a-3ca4-894e-db77e160355e",
        "886313e1-3b8a-5372-9b90-0c9aee199e5d", 3000, "KRW", "APPR-1", "key-1"⟩ := by
  obtain ⟨request, hsend, hconveys⟩ := (webhooks_arrive noFloats plainPydantic noticeDigests
    pmsVerifier newYear fun _ => "886313e1-3b8a-5372-9b90-0c9aee199e5d").2.2.1 paidNotice (by decide)
    (by simp [Scalar.printable, paidNotice, decimal, maxStrDigits])
  exact ⟨request, hsend, (hconveys.received 1735689660 _).mpr ⟨by decide, rfl⟩⟩

end CarPayIn
