import CarPayIn.Integers

/-! # Signed webhooks

The services sign the body of a webhook together with the time at which they
send it. The signature is a text, and so is the one that arrives in a header.
-/

namespace CarPayIn

abbrev Bytes : Type := List UInt8

/-- `hashlib.sha256(message).digest()` and `hmac.new(key, message, hashlib.sha256).digest()`. -/
structure Sha256 where
  digest : Bytes → Bytes
  hmac : Bytes → Bytes → Bytes

def encode (text : String) : Bytes := text.toUTF8.data.toList

def hexPair (b : UInt8) : List Char := [Nat.digitChar (b.toNat / 16), Nat.digitChar (b.toNat % 16)]

def hexdigest (digest : Bytes) : String := String.ofList (digest.flatMap hexPair)

theorem digitChar_ascii {n : Nat} (h : n < 16) : (Nat.digitChar n).toNat < 128 := by
  have hall : (List.range 16).all (fun n => (Nat.digitChar n).toNat < 128) = true := by decide
  exact of_decide_eq_true (List.all_eq_true.mp hall n (List.mem_range.mpr h))

theorem hexdigest_isascii (digest : Bytes) : isascii (hexdigest digest) = true := by
  rw [isascii_iff, hexdigest, String.toList_ofList]
  intro c hc
  obtain ⟨b, -, hc⟩ := List.mem_flatMap.mp hc
  have hb : b.toNat < 256 := b.toNat_lt
  simp only [hexPair, List.mem_cons, List.not_mem_nil, or_false] at hc
  rcases hc with rfl | rfl
  · exact digitChar_ascii (by omega)
  · exact digitChar_ascii (by omega)

def compareDigest (a b : String) : Except PyError Bool :=
  if isascii a ∧ isascii b then .ok (a = b)
  else .error (.exception "comparing strings with non-ASCII characters is not supported")

theorem compareDigest_hexdigest (digest : Bytes) {text : String} (h : isascii text = true) :
    compareDigest (hexdigest digest) text = .ok (hexdigest digest = text) :=
  if_pos ⟨hexdigest_isascii digest, h⟩

/-- `int(time.time())`, the integer part of a float. -/
structure Clock where
  seconds : Int
  isFinite : seconds.natAbs < 2 ^ 1024

theorem two_pow_le_ten_pow {bits digits : Nat} (h : bits ≤ digits) : 2 ^ bits ≤ 10 ^ digits :=
  Nat.le_trans (Nat.pow_le_pow_left (by decide) bits) (Nat.pow_le_pow_right (by decide) h)

theorem Clock.parse_seconds (now : Clock) :
    PyInt.parse (toString now.seconds).toList = some now.seconds := by
  apply PyInt.parse_toString
  have hdigits : 1024 ≤ PyInt.maxStrDigits := by decide
  exact Nat.lt_of_lt_of_le now.isFinite (two_pow_le_ten_pow hdigits)

structure WebhookHeaders where
  timestamp : String
  signature : String
deriving DecidableEq, Repr

/-! ## The backend -/

variable (sha256 : Sha256)

structure WebhookSignatureVerifier where
  secret : String
  toleranceSeconds : Int := 5 * 60
deriving DecidableEq, Repr

namespace WebhookSignatureVerifier

variable (v : WebhookSignatureVerifier)

def sign (timestamp : String) (body : Bytes) : String :=
  let bodyHash := hexdigest (sha256.digest body)
  hexdigest (sha256.hmac (encode v.secret) (encode (timestamp ++ "." ++ bodyHash)))

def verify (now : Int) (timestamp signature : String) (body : Bytes) : Except PyError Bool :=
  match PyInt.parse timestamp.toList with
  | none => .ok false
  | some timestampInt =>
      if (now - timestampInt).natAbs > v.toleranceSeconds then .ok false
      else
        let expected := hexdigest (sha256.hmac (encode v.secret)
          (encode (timestamp ++ "." ++ hexdigest (sha256.digest body))))
        compareDigest expected signature

end WebhookSignatureVerifier

def PmsAuthValidator.validate (v : WebhookSignatureVerifier) (now : Int)
    (timestamp signature : String) (body : Bytes) : Except PyError Unit := do
  if ¬(← v.verify sha256 now timestamp signature body) then
    throw (.valueError "invalid_signature")

/-- An empty timestamp counts as none. -/
def signWebhookHeaders (secret : String) (body : Bytes) (timestamp : Option String) (now : Clock) :
    WebhookHeaders :=
  let timestamp := match timestamp with
    | some text => if text = "" then toString now.seconds else text
    | none => toString now.seconds
  ⟨timestamp, WebhookSignatureVerifier.sign sha256 ⟨secret, 5 * 60⟩ timestamp body⟩

/-! ## The PMS -/

namespace Pms

namespace WebhookSignatureVerifier

/-- The verifier of the PMS is a copy of the backend's. -/
def verify (v : WebhookSignatureVerifier) (now : Int) (timestamp signature : String)
    (body : Bytes) : Except PyError Bool :=
  match PyInt.parse timestamp.toList with
  | none => .ok false
  | some timestampInt =>
      if (now - timestampInt).natAbs > v.toleranceSeconds then .ok false
      else
        let bodyHash := hexdigest (sha256.digest body)
        let expected := hexdigest (sha256.hmac (encode v.secret)
          (encode (timestamp ++ "." ++ bodyHash)))
        compareDigest expected signature

end WebhookSignatureVerifier

def entryWebhookHeaders (webhookToken : String) (body : Bytes) (now : Clock) : WebhookHeaders :=
  let timestamp := toString now.seconds
  let bodyHash := hexdigest (sha256.digest body)
  ⟨timestamp,
    hexdigest (sha256.hmac (encode webhookToken) (encode (timestamp ++ "." ++ bodyHash)))⟩

end Pms

/-! ## The PG -/

namespace MockPg

def cardRegistrationWebhookHeaders (webhookSecret : String) (body : Bytes) (now : Clock) :
    WebhookHeaders :=
  let timestamp := toString now.seconds
  let bodyHash := hexdigest (sha256.digest body)
  ⟨timestamp,
    hexdigest (sha256.hmac (encode webhookSecret) (encode (timestamp ++ "." ++ bodyHash)))⟩

end MockPg

/-! ## Signatures that are accepted -/

def signatureOf (secret timestamp : String) (body : Bytes) : String :=
  hexdigest (sha256.hmac (encode secret)
    (encode (timestamp ++ "." ++ hexdigest (sha256.digest body))))

/-- The timestamp is an integer within the tolerance. -/
def OnTime (tolerance now : Int) (timestamp : String) : Prop :=
  ∃ sent, PyInt.parse timestamp.toList = some sent ∧ (now - sent).natAbs ≤ tolerance

theorem onTime_clock {tolerance now : Int} {sent : Clock} :
    OnTime tolerance now (toString sent.seconds) ↔ (now - sent.seconds).natAbs ≤ tolerance := by
  simp only [OnTime, sent.parse_seconds, Option.some.injEq, exists_eq_left']

namespace WebhookSignatureVerifier

variable (v : WebhookSignatureVerifier) (now : Int)

def Accepts (timestamp signature : String) (body : Bytes) : Prop :=
  OnTime v.toleranceSeconds now timestamp ∧ signature = signatureOf sha256 v.secret timestamp body

/-- The answer is the one that is due, and there is one. -/
def Exact (timestamp signature : String) (body : Bytes) (answer : Except PyError Bool) : Prop :=
  ∃ accepted, answer = .ok accepted ∧
    (accepted = true ↔ v.Accepts sha256 now timestamp signature body)

variable {sha256 v now}

theorem verify_late {timestamp signature : String} {body : Bytes}
    (h : ¬OnTime v.toleranceSeconds now timestamp) :
    v.verify sha256 now timestamp signature body = .ok false := by
  unfold verify
  cases hparse : PyInt.parse timestamp.toList with
  | none => rfl
  | some sent =>
      have hlate : (now - sent).natAbs > v.toleranceSeconds :=
        Int.not_le.mp fun hle => h ⟨sent, hparse, hle⟩
      exact if_pos hlate

theorem verify_onTime {timestamp signature : String} {body : Bytes}
    (h : OnTime v.toleranceSeconds now timestamp) :
    v.verify sha256 now timestamp signature body =
      compareDigest (signatureOf sha256 v.secret timestamp body) signature := by
  obtain ⟨sent, hparse, hle⟩ := h
  unfold verify
  rw [hparse]
  exact if_neg (Int.not_lt.mpr hle)

theorem exact_verify_iff {timestamp signature : String} {body : Bytes} :
    v.Exact sha256 now timestamp signature body (v.verify sha256 now timestamp signature body) ↔
      (OnTime v.toleranceSeconds now timestamp → isascii signature = true) := by
  by_cases htime : OnTime v.toleranceSeconds now timestamp
  · rw [verify_onTime htime]
    constructor
    · rintro ⟨accepted, haccepted, -⟩ -
      by_cases hascii : isascii signature = true
      · exact hascii
      · rw [compareDigest, if_neg fun h => hascii h.2] at haccepted
        cases haccepted
    · intro h
      refine ⟨_, compareDigest_hexdigest _ (h htime), ?_⟩
      rw [decide_eq_true_iff, Accepts, and_iff_right htime]
      exact eq_comm
  · constructor
    · intro _ h
      exact absurd h htime
    · intro _
      refine ⟨false, verify_late htime, ?_⟩
      rw [Accepts]
      simp [htime]

/-- A signature is accepted for as long as its timestamp is on time. -/
theorem verify_signatureOf {timestamp : String} {body : Bytes}
    (h : OnTime v.toleranceSeconds now timestamp) :
    v.verify sha256 now timestamp (signatureOf sha256 v.secret timestamp body) body = .ok true := by
  rw [verify_onTime h, signatureOf, compareDigest_hexdigest _ (hexdigest_isascii _)]
  simp

/-- What is not accepted is refused, also where the comparison raises. -/
theorem validate_ok_iff {timestamp signature : String} {body : Bytes} :
    PmsAuthValidator.validate sha256 v now timestamp signature body = .ok () ↔
      v.Accepts sha256 now timestamp signature body := by
  unfold PmsAuthValidator.validate
  by_cases hexact : OnTime v.toleranceSeconds now timestamp → isascii signature = true
  · obtain ⟨accepted, haccepted, hiff⟩ := exact_verify_iff.mpr hexact
    rw [haccepted, ← hiff]
    cases accepted with
    | true => exact iff_of_true rfl rfl
    | false => exact iff_of_false nofun nofun
  · obtain ⟨htime, hascii⟩ := Classical.not_imp.mp hexact
    rw [verify_onTime htime, compareDigest, if_neg fun h => hascii h.2]
    apply iff_of_false nofun
    rintro ⟨-, rfl⟩
    exact hascii (hexdigest_isascii _)

end WebhookSignatureVerifier

/-! ## Every signer with every verifier -/

/-- The headers that the services send with a body: the backend to the PMS, the PMS and the PG to
the backend. -/
def sentHeaders (secret : String) (body : Bytes) (sent : Clock) : List WebhookHeaders :=
  [signWebhookHeaders sha256 secret body none sent, Pms.entryWebhookHeaders sha256 secret body sent,
    MockPg.cardRegistrationWebhookHeaders sha256 secret body sent]

def AcceptedByBoth (v : WebhookSignatureVerifier) (now : Int) (body : Bytes)
    (headers : WebhookHeaders) : Prop :=
  WebhookSignatureVerifier.verify sha256 v now headers.timestamp headers.signature body = .ok true ∧
    Pms.WebhookSignatureVerifier.verify sha256 v now headers.timestamp headers.signature body =
      .ok true

variable {sha256}

theorem acceptedByBoth_of_onTime {v : WebhookSignatureVerifier} {now : Int} {body : Bytes}
    {headers : WebhookHeaders} (htime : OnTime v.toleranceSeconds now headers.timestamp)
    (hsignature : headers.signature = signatureOf sha256 v.secret headers.timestamp body) :
    AcceptedByBoth sha256 v now body headers := by
  rw [AcceptedByBoth, hsignature]
  exact ⟨WebhookSignatureVerifier.verify_signatureOf htime,
    WebhookSignatureVerifier.verify_signatureOf htime⟩

theorem signWebhookHeaders_signature (secret : String) (body : Bytes) (timestamp : Option String)
    (sent : Clock) :
    (signWebhookHeaders sha256 secret body timestamp sent).signature =
      signatureOf sha256 secret (signWebhookHeaders sha256 secret body timestamp sent).timestamp
        body := rfl

theorem sentHeaders_signature {secret : String} {body : Bytes} {sent : Clock}
    {headers : WebhookHeaders} (h : headers ∈ sentHeaders sha256 secret body sent) :
    headers.timestamp = toString sent.seconds ∧
      headers.signature = signatureOf sha256 secret headers.timestamp body := by
  simp only [sentHeaders, List.mem_cons, List.not_mem_nil, or_false] at h
  rcases h with rfl | rfl | rfl
  · exact ⟨rfl, rfl⟩
  · exact ⟨rfl, rfl⟩
  · exact ⟨rfl, rfl⟩

variable (sha256)

/-- Both verifiers are exact on ASCII signatures and on timestamps that are not on time, and on no
others, and both accept what any of the services sends. -/
theorem verify_exact_iff (v : WebhookSignatureVerifier) (now : Int) (body : Bytes) :
    (∀ timestamp signature,
      (v.Exact sha256 now timestamp signature body
        (WebhookSignatureVerifier.verify sha256 v now timestamp signature body) ↔
          (OnTime v.toleranceSeconds now timestamp → isascii signature = true)) ∧
      (v.Exact sha256 now timestamp signature body
        (Pms.WebhookSignatureVerifier.verify sha256 v now timestamp signature body) ↔
          (OnTime v.toleranceSeconds now timestamp → isascii signature = true))) ∧
    (∀ timestamp sent headers, headers = signWebhookHeaders sha256 v.secret body timestamp sent →
      OnTime v.toleranceSeconds now headers.timestamp →
        AcceptedByBoth sha256 v now body headers) ∧
    ∀ sent : Clock, (now - sent.seconds).natAbs ≤ v.toleranceSeconds →
      ∀ headers ∈ sentHeaders sha256 v.secret body sent,
        AcceptedByBoth sha256 v now body headers := by
  refine ⟨fun timestamp signature => ⟨WebhookSignatureVerifier.exact_verify_iff,
    WebhookSignatureVerifier.exact_verify_iff⟩, ?_, ?_⟩
  · rintro timestamp sent headers rfl htime
    exact acceptedByBoth_of_onTime htime (signWebhookHeaders_signature ..)
  · intro sent hsent headers hheaders
    obtain ⟨htimestamp, hsignature⟩ := sentHeaders_signature hheaders
    exact acceptedByBoth_of_onTime (htimestamp ▸ onTime_clock.mpr hsent) hsignature

def webhookDigests : Sha256 where
  digest message :=
    if message = encode "\x7b\x7d" then
      [68, 19, 111, 163, 85, 179, 103, 138, 17, 70, 173, 22, 247, 232, 100, 158, 148, 251, 79, 194,
        31, 231, 126, 131, 16, 192, 96, 246, 28, 170, 255, 138]
    else []
  hmac key message :=
    if key = encode "pms-webhook-secret" ∧ message = encode
      "1735689600.44136fa355b3678a1146ad16f7e8649e94fb4fc21fe77e8310c060f61caaff8a" then
      [27, 254, 92, 40, 81, 73, 5, 178, 66, 113, 14, 66, 31, 216, 115, 194, 139, 221, 120, 2, 38,
        189, 106, 165, 76, 49, 17, 242, 58, 10, 209, 72]
    else []

def pmsVerifier : WebhookSignatureVerifier where
  secret := "pms-webhook-secret"

theorem lt_two_pow {n bits : Nat} (hn : n < 2 ^ 32) (h : 32 ≤ bits) : n < 2 ^ bits :=
  Nat.lt_of_lt_of_le hn (Nat.pow_le_pow_right (by decide) h)

def newYear : Clock := ⟨1735689600, lt_two_pow (by decide) (by decide)⟩

theorem verify_exact_minute_late :
    AcceptedByBoth webhookDigests pmsVerifier 1735689660 (encode "\x7b\x7d") ⟨"1735689600",
      "1bfe5c28514905b242710e421fd873c28bdd780226bd6aa54c3111f23a0ad148"⟩ ∧
    pmsVerifier.Exact webhookDigests 1735689660 "1735689600" "00" (encode "\x7b\x7d")
      (WebhookSignatureVerifier.verify webhookDigests pmsVerifier 1735689660 "1735689600" "00"
        (encode "\x7b\x7d")) := by
  have hexact := verify_exact_iff webhookDigests pmsVerifier 1735689660 (encode "\x7b\x7d")
  have hheaders : (⟨"1735689600",
      "1bfe5c28514905b242710e421fd873c28bdd780226bd6aa54c3111f23a0ad148"⟩ : WebhookHeaders) ∈
      sentHeaders webhookDigests pmsVerifier.secret (encode "\x7b\x7d") newYear := by decide +kernel
  exact ⟨hexact.2.2 newYear (by decide) _ hheaders, (hexact.1 _ _).1.mpr fun _ => by decide⟩

/-- A signature that is not ASCII makes both verifiers raise. -/
theorem verify_not_total :
    ¬pmsVerifier.Exact webhookDigests 1735689600 "1735689600" "é" (encode "\x7b\x7d")
      (WebhookSignatureVerifier.verify webhookDigests pmsVerifier 1735689600 "1735689600" "é"
        (encode "\x7b\x7d")) ∧
    ¬pmsVerifier.Exact webhookDigests 1735689600 "1735689600" "é" (encode "\x7b\x7d")
      (Pms.WebhookSignatureVerifier.verify webhookDigests pmsVerifier 1735689600 "1735689600" "é"
        (encode "\x7b\x7d")) := by
  have hraises : (WebhookSignatureVerifier.verify webhookDigests pmsVerifier 1735689600 "1735689600"
      "é" (encode "\x7b\x7d")).toBool = false := by decide +kernel
  have hnot : ¬pmsVerifier.Exact webhookDigests 1735689600 "1735689600" "é" (encode "\x7b\x7d")
      (WebhookSignatureVerifier.verify webhookDigests pmsVerifier 1735689600 "1735689600" "é"
        (encode "\x7b\x7d")) := by
    rintro ⟨accepted, haccepted, -⟩
    rw [haccepted] at hraises
    cases hraises
  exact ⟨hnot, hnot⟩

end CarPayIn
