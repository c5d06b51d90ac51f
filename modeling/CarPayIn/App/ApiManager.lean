import CarPayIn.Process.Program
import Mathlib.Data.List.Infix

/-! # Requests that refresh the session

The app sends a request with its access token. On what it takes for an expired
token it has the tokens refreshed and sends the request again. The status code
only reaches it inside the message of an exception.
-/

namespace CarPayIn.App

open Process

/-! ## What the app stores -/

inductive Preference where
  | text (value : String)
  | long (value : Int)
  | boolean (value : Bool)
deriving DecidableEq, Repr

abbrev Preferences : Type := String → Option Preference

namespace Preferences

variable (prefs : Preferences)

/-- `SharedPreferences.getString(key, null)` -/
def getString (key : String) : Option String :=
  match prefs key with
  | some (.text value) => some value
  | _ => none

def put (key : String) (value : Preference) : Preferences :=
  fun k => if k = key then some value else prefs k

end Preferences

namespace ParkingStateManager

variable (prefs : Preferences)

def tokenLifetimeMs : Int := 60 * 60 * 1000

def refreshLifetimeMs : Int := 30 * 24 * 60 * 60 * 1000

def getAccessToken : Option String := prefs.getString "access_token"

def getRefreshToken : Option String := prefs.getString "refresh_token"

def saveTokens (now : Int) (accessToken refreshToken : String) : Preferences :=
  (((prefs.put "access_token" (.text accessToken)).put "refresh_token" (.text refreshToken)).put
    "token_expiry" (.long (now + tokenLifetimeMs))).put "refresh_expiry" (.long (now + refreshLifetimeMs))

/-- The preferences of a session, of which none is left when it is cleared. -/
def sessionKeys : List String :=
  ["access_token", "refresh_token", "token_expiry", "refresh_expiry", "payment_method_id",
    "card_last_four", "card_brand", "plate_number", "hyundai_user_id", "hyundai_user_name",
    "hyundai_model_name", "hyundai_car_id", "parked", "lot_id", "session_id", "entry_time_ms",
    "oauth_complete"]

def clearSession : Preferences :=
  Preferences.put (fun key => if key ∈ sessionKeys then none else prefs key) "registered" (.boolean false)

variable {prefs}

@[simp] theorem getAccessToken_clearSession : getAccessToken (clearSession prefs) = none := rfl

@[simp] theorem getAccessToken_saveTokens (now : Int) (accessToken refreshToken : String) :
    getAccessToken (saveTokens prefs now accessToken refreshToken) = some accessToken := rfl

end ParkingStateManager

open ParkingStateManager

/-! ## Calls -/

/-- Of these only the first is a `RuntimeException`. -/
inductive Throwable where
  | runtimeException (message : String)
  | sessionExpiredException
  | ioException
  | jsonException
deriving DecidableEq, Repr

/-- A status code with the text that came with it, or no answer. -/
inductive Reply where
  | response (code : Int) (text : String)
  | failed
deriving DecidableEq, Repr

inductive HttpRequest where
  | get (path : String) (accessToken : Option String)
  | post (path body : String) (accessToken : Option String)
deriving DecidableEq, Repr

inductive Op : Type → Type where
  | exchange (request : HttpRequest) : Op Reply
  | getAccessToken : Op (Option String)
  | getRefreshToken : Op (Option String)
  | saveTokens (accessToken refreshToken : String) : Op Unit
  | clearSession : Op Unit

/-- The app at work, with the replies it is going to get and the requests it has sent. -/
structure Device where
  prefs : Preferences
  now : Int
  replies : Nat → Reply
  sent : List HttpRequest

namespace Device

variable {α β : Type}

def send (d : Device) (request : HttpRequest) : Device := { d with sent := d.sent ++ [request] }

def exec (op : Op β) (d : Device) : β × Device :=
  match op with
  | .exchange request => (d.replies d.sent.length, d.send request)
  | .getAccessToken => (ParkingStateManager.getAccessToken d.prefs, d)
  | .getRefreshToken => (ParkingStateManager.getRefreshToken d.prefs, d)
  | .saveTokens accessToken refreshToken =>
      ((), { d with prefs := ParkingStateManager.saveTokens d.prefs d.now accessToken refreshToken })
  | .clearSession => ((), { d with prefs := ParkingStateManager.clearSession d.prefs })

def run : Program Op Throwable α → Device → Except Throwable α × Device
  | .done r, d => (r, d)
  | .call op next, d => run (next (.ok (d.exec op).1)) (d.exec op).2

@[simp] theorem run_done (r : Except Throwable α) (d : Device) : run (.done r) d = (r, d) := rfl

@[simp] theorem run_perform (op : Op α) (d : Device) :
    run (.perform op) d = (.ok (d.exec op).1, (d.exec op).2) := rfl

theorem run_bind (p : Program Op Throwable α) (f : α → Program Op Throwable β) (d : Device) :
    run (p.bind f) d = match run p d with
      | (.ok a, d') => run (f a) d'
      | (.error e, d') => (.error e, d') := by
  induction p generalizing d with
  | done r => cases r <;> rfl
  | call op next ih => exact ih _ _

theorem run_tryCatch (p : Program Op Throwable α) (h : Throwable → Program Op Throwable α)
    (d : Device) : run (p.tryCatch h) d = match run p d with
      | (.ok a, d') => (.ok a, d')
      | (.error e, d') => run (h e) d' := by
  induction p generalizing d with
  | done r => cases r <;> rfl
  | call op next ih => exact ih _ _

end Device

open Device

/-! ## Requests and what becomes of the replies -/

/-- `org.json.JSONObject`: its constructor from a text, `optString` and `toString`. -/
structure JSONObject (J : Type) where
  parse : String → Option J
  optString : J → String → String → String
  toString : List (String × String) → String

namespace ApiManager

variable {J α : Type} (json : JSONObject J)

def isSuccess (code : Int) : Bool := 200 ≤ code ∧ code ≤ 299

def message (code : Int) (text : String) : String := "HTTP " ++ toString code ++ ": " ++ text

/-- `message.contains("401")` -/
def contains401 (message : String) : Bool := "401".toList <:+: message.toList

/-- What `postJson` and `getJson` make of a reply. -/
def decode : Reply → Except Throwable J
  | .failed => .error .ioException
  | .response code text =>
      if ¬isSuccess code then .error (.runtimeException (message code text))
      else match json.parse text with
        | none => .error .jsonException
        | some data => .ok data

/-- A request to the backend as a function of the access token, and what its answer is read as;
a field that is missing raises a `JSONException`. -/
structure Block (J α : Type) where
  request : String → HttpRequest
  result : J → Option α

/-- What a block makes of a reply. -/
def Block.answer (block : Block J α) (r : Reply) : Except Throwable α :=
  match decode json r with
  | .error e => .error e
  | .ok data =>
      match block.result data with
      | none => .error .jsonException
      | some a => .ok a

def Block.execute (block : Block J α) (token : String) : Program Op Throwable α := do
  let reply ← .perform (.exchange (block.request token))
  .done (block.answer json reply)

structure TokenResult where
  accessToken : String
  refreshToken : String
deriving DecidableEq, Repr

def tokens (refreshToken : String) (response : J) : TokenResult :=
  ⟨json.optString response "app_access_token" (json.optString response "access_token" ""),
    json.optString response "app_refresh_token" (json.optString response "refresh_token" refreshToken)⟩

def refreshToken (refreshToken : String) : Program Op Throwable TokenResult :=
  Block.execute json ⟨fun _ => .post "/auth/refresh" (json.toString [("refresh_token", refreshToken)]) none,
    fun response => some (tokens json refreshToken response)⟩ ""

/-- The second attempt; one handler is over the refresh and the request that is repeated. -/
def repeatRefreshed (block : Block J α) (refresh : String) : Program Op Throwable α :=
  tryCatch (do
    let newTokens ← refreshToken json refresh
    .perform (.saveTokens newTokens.accessToken newTokens.refreshToken)
    block.execute json newTokens.accessToken) fun re =>
      match re with
      | .runtimeException _ => do
          .perform .clearSession
          throw .sessionExpiredException
      | _ => throw re

def withAutoRefresh (block : Block J α) : Program Op Throwable α := do
  match ← .perform .getAccessToken with
  | none => throw .sessionExpiredException
  | some token =>
      tryCatch (block.execute json token) fun e =>
        match e with
        | .runtimeException message =>
            if ¬contains401 message then throw e
            else do
              match ← .perform .getRefreshToken with
              | none => throw .sessionExpiredException
              | some refresh => repeatRefreshed json block refresh
        | _ => throw e

end ApiManager

end CarPayIn.App
