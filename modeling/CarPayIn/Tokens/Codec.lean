import CarPayIn.Backend.Signatures
import CarPayIn.Encoding.Base64
import CarPayIn.Encoding.JsonRoundTrip

/-! # Signed tokens

A token is the JSON text of its claims in base64 and, after a dot, the signature
of that. The validator is given any text at all.
-/

namespace CarPayIn

open Encoding

variable {F : Type}

/-! ## Base64 without padding -/

def b64encode (value : Bytes) : Text := decodeAscii (rstripPad (urlsafeB64encode value))

/-- `_b64decode`, with nothing for a `ValueError` of any kind. -/
def b64decode (value : Text) : Option Bytes := do
  let padding := List.replicate ((4 - value.length % 4) % 4) 61
  urlsafeB64decode (← encodeAscii (value ++ padding))

/-! ## Issuing -/

/-- The arguments of a call of `issue` and the time at which it is made. -/
structure IssueCall (F : Type) where
  tokenType : Text
  ttlSeconds : Int
  claims : List (Text × Value F)
  now : Int
  isText : IsText tokenType
  valid : (Value.dict claims).Valid
  positive : 0 < ttlSeconds

namespace IssueCall

def exp (call : IssueCall F) : Int := call.now + call.ttlSeconds

def payload (call : IssueCall F) : List (Text × Value F) :=
  put (put call.claims (text "typ") (.str call.tokenType)) (text "exp") (.int call.exp)

end IssueCall

structure SignedTokenCodec where
  secret : String
deriving DecidableEq, Repr

namespace SignedTokenCodec

variable (sha256 : Sha256) (codec : SignedTokenCodec)

def sign (encodedPayload : Text) : Option Text := do
  let message ← encodeAscii encodedPayload
  return text (hexdigest (sha256.hmac (CarPayIn.encode codec.secret) message))

section
variable [DecidableEq F] (fmt : FloatFormat F)

def encodedPayload (call : IssueCall F) : Option Text := do
  let json ← dumps fmt .compact (.dict call.payload)
  return b64encode (← encodeUtf8 json)

/-- Nothing for a `ValueError`: then no token is issued. -/
def issue (call : IssueCall F) : Option Text := do
  let encodedPayload ← encodedPayload fmt call
  let signature ← codec.sign sha256 encodedPayload
  return encodedPayload ++ 46 :: signature

end

/-! ## Validating -/

/-- `hmac.compare_digest` of two texts, with nothing for a `TypeError`. -/
def sameDigest (a b : Text) : Option Bool := do
  let a ← encodeAscii a
  let b ← encodeAscii b
  return a = b

variable (fmt : FloatFormat F)

/-- The body of the `try`, with nothing for the exceptions that are caught. -/
def decode (token : Text) : Option (Value F) := do
  let (encodedPayload, signature) ← splitOnce 46 token
  let same ← sameDigest signature (← codec.sign sha256 encodedPayload)
  if ¬same then none
  else
    let bytes ← b64decode encodedPayload
    loads fmt (← decodeDetected (bytes.map UInt8.toNat))

def toInt : Value F → Except PyError Int
  | .int n => .ok n
  | .bool b => .ok (if b then 1 else 0)
  | .float x => match fmt.int x with
      | some n => .ok n
      | none => .error (.exception "cannot convert float to integer")
  | .str s => match PyInt.parse (s.map Char.ofNat) with
      | some n => .ok n
      | none => .error (.valueError "invalid literal for int() with base 10")
  | _ => .error (.exception "int() argument must be a string or a real number")

def equalsText (text : Text) : Option (Value F) → Bool
  | some (.str s) => s = text
  | _ => false

def validate (token tokenType : Text) (expiredCode : String) (now : Int) :
    Except PyError (Value F) := do
  match codec.decode sha256 fmt token with
  | some (.dict payload) =>
      if ¬equalsText tokenType (get? payload (text "typ")) then throw (.valueError "invalid_token")
      else
        let exp ← toInt fmt ((get? payload (text "exp")).getD (.int 0))
        if exp ≤ now then throw (.valueError expiredCode)
        else return .dict payload
  | _ => throw (.valueError "invalid_token")

end SignedTokenCodec

/-! ## Issuers and validators -/

def stringClaims (claims : List (String × String)) : List (Text × Value F) :=
  claims.map fun claim => (text claim.1, str claim.2)

theorem stringClaims_valid {claims : List (String × String)} (h : (claims.map Prod.fst).Nodup) :
    (Value.dict (stringClaims claims) : Value F).Valid := by
  have hstable : Stable (dict (claims.map fun claim => (claim.1, str claim.2)) : Value F) := by
    apply stable_dict
    · rw [List.map_map]
      exact h
    · intro e he
      obtain ⟨claim, -, rfl⟩ := List.mem_map.mp he
      exact stable_str claim.2
  have hclaims := hstable.valid
  rw [dict, List.map_map] at hclaims
  exact hclaims

def TempAccessTokenIssuer.call (userId sessionId : String) (now : Int) : IssueCall F where
  tokenType := text "temp_access"
  ttlSeconds := 15 * 60
  claims := stringClaims [("user_id", userId), ("session_id", sessionId)]
  now := now
  isText := isText_text _
  valid := stringClaims_valid (by simp)
  positive := by decide

/-- The call of both `AppTokenIssuer` and `AppAccessTokenIssuer`. -/
def AppAccessTokenIssuer.call (userId carId : String) (now : Int) : IssueCall F where
  tokenType := text "app_access"
  ttlSeconds := 60 * 60
  claims := stringClaims [("user_id", userId), ("car_id", carId)]
  now := now
  isText := isText_text _
  valid := stringClaims_valid (by simp)
  positive := by decide

section
variable (sha256 : Sha256) (codec : SignedTokenCodec) (fmt : FloatFormat F)

def TempAccessTokenValidator.validateAndExtract (token : Text) (now : Int) :
    Except PyError (Value F) :=
  codec.validate sha256 fmt token (text "temp_access") "temp_token_expired" now

def AppAccessTokenValidator.validateAndExtract (token : Text) (now : Int) :
    Except PyError (Value F) :=
  codec.validate sha256 fmt token (text "app_access") "invalid_token" now

end

end CarPayIn
