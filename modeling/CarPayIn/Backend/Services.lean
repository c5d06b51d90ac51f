import CarPayIn.Backend.Base

/-! # The services of the backend that charge nothing

Login, card registration, pre-notification, entry and the fee query, as
programs over the calls of the accounts and stores.
-/

namespace CarPayIn

open Process Store

/-- Functions of the runtime whose values no service looks into. -/
structure Runtime where
  sha256 : String → String
  tokenHash : String → String
  isIsoFormat : String → Bool
  publicBaseUrl : String
  redirectUrl : String → String

abbrev BaseService (α : Type) : Type 1 := Program BaseOp PyError α

def ask {α : Type} (op : BaseOp α) : BaseService α := .perform op

namespace BaseService

def validateAppToken (token : BearerToken) : BaseService TokenClaims :=
  ask (.validateToken token .appAccess "invalid_token")

def getQuote (sessionId : String) : BaseService (Option FeeQuote) := read .quotes sessionId

/-- `get_session_by_id`, which reads the text as a UUID first. -/
def getSessionById (sessionId : String) : BaseService (Option ParkingSession) := do
  let id ← .done (Uuid.parse sessionId)
  ask (.getSessionById id)

/-- Sets the status of a row that was read, and its exit time if it completes one without. A
column set to the value that was read does not count as changed. -/
def setStatus (id : Uuid) (row : ParkingSession) (status : SessionStatus) : BaseService Unit := do
  let changed := if row.status = status then none else some status
  if status = .completed ∧ row.exitTime = none then
    let now ← ask .now
    ask (.commitSession id ⟨changed, some now⟩)
  else ask (.commitSession id ⟨changed, none⟩)

def updateSessionStatus (sessionId : String) (status : SessionStatus) : BaseService Unit := do
  let id ← .done (Uuid.parse sessionId)
  match ← ask (.getSessionById id) with
  | none => throw (.lookupError "session_not_found")
  | some row => setStatus id row status

def hasActiveBillingKey (carId : String) : BaseService Bool := do
  return (← ask (.getActiveBillingKey carId)).isSome

/-- A random text under a label. -/
def randomText (label : String) : BaseService String := do
  let n ← ask .draw
  return label ++ toString n

end BaseService

open BaseService

/-! ## Login -/

namespace CreateQrSessionService

def qrSessionTtlSeconds : Nat := 15 * 60

def execute (rt : Runtime) (command : CreateQrSessionCommand) : BaseService String := do
  if command.loginSessionId = "" then throw (.valueError "login_session_id is required")
  else if command.vinHash = "" then throw (.valueError "vin_hash is required")
  else
    save .qrSessions command.loginSessionId ⟨command.vinHash, .pending, ""⟩ qrSessionTtlSeconds
    return rt.publicBaseUrl ++ "/auth/hyundai/start?session_id=" ++ command.loginSessionId

end CreateQrSessionService

namespace StartHyundaiOAuthService

def oauthStateTtlSeconds : Nat := 15 * 60

def execute (rt : Runtime) (sessionId : String) : BaseService String := do
  if sessionId = "" then throw (.valueError "session_id is required")
  else match ← read .qrSessions sessionId with
    | none => throw (.valueError "qr_session_not_found")
    | some qrSession =>
        match qrSession.status with
        | .expired => throw (.valueError "qr_session_expired")
        | .failed => throw (.valueError "qr_session_not_pending")
        | .pending =>
            let oauthState ← randomText "state-"
            save .oauthStates oauthState ⟨sessionId, .pending⟩ oauthStateTtlSeconds
            return rt.redirectUrl oauthState

end StartHyundaiOAuthService

namespace HandleHyundaiOAuthCallbackService

def hyundaiOAuthResultTtlSeconds : Nat := 15 * 60
def appLoginResultTtlSeconds : Nat := 5 * 60
def tempAccessTokenTtlSeconds : Nat := 15 * 60

/-- `get_session_id`: the session of a state that has not been used. -/
def getSessionId (state : String) : BaseService (Option String) := do
  match ← read .oauthStates state with
  | none => return none
  | some s => return if s.status = .pending then some s.sessionId else none

/-- The three requests to Hyundai; vehicles without an id are left out. -/
def fetchProfile (code : String) : BaseService (String × String × List Car) := do
  let accessToken ← ask (.exchangeCode code)
  let (userId, name) ← ask (.getUserProfile accessToken)
  let cars ← ask (.getVehicleList accessToken)
  return (userId, name, cars.filter (·.carId ≠ ""))

def markFailed (sessionId reason : String) : BaseService Unit := do
  let _ ← update .qrSessions sessionId fun s => { s with status := .failed, debugMessage := reason }
  return ()

def complete (state sessionId userId name : String) (cars : List Car) :
    BaseService HandleHyundaiOAuthCallbackResult := do
  let tempAccessToken ← ask
    (.issueToken .tempAccess userId sessionId tempAccessTokenTtlSeconds)
  ask (.upsertUser userId name)
  let result : OAuthResult := ⟨userId, name, cars, tempAccessToken⟩
  save .oauthResults sessionId result hyundaiOAuthResultTtlSeconds
  save .loginResults sessionId result appLoginResultTtlSeconds
  let _ ← update .oauthStates state fun s => { s with status := .used }
  return ⟨sessionId, userId, name, cars, tempAccessToken⟩

def execute (command : HandleHyundaiOAuthCallbackCommand) :
    BaseService HandleHyundaiOAuthCallbackResult := do
  if command.code = "" then throw (.valueError "code is required")
  else if command.state = "" then throw (.valueError "state is required")
  else match ← getSessionId command.state with
    | none => throw (.valueError "oauth_state_not_found")
    | some sessionId =>
        if sessionId = "" then throw (.valueError "oauth_state_not_found")
        else match ← read .qrSessions sessionId with
          | none => throw (.valueError "qr_session_not_found")
          | some qrSession =>
              if qrSession.status = .expired then throw (.valueError "qr_session_expired")
              else
                let (userId, name, cars) ← tryCatch (fetchProfile command.code) fun exc => do
                  markFailed sessionId exc.str
                  throw exc
                complete command.state sessionId userId name cars

end HandleHyundaiOAuthCallbackService

namespace ConfirmVehicleService

def appAccessTokenTtlSeconds : Nat := 60 * 60

def getLoginResult (sessionId : String) : BaseService (Option OAuthResult) := do
  match ← read .oauthResults sessionId with
  | some result => return some result
  | none => read .loginResults sessionId

def findCar (cars : List Car) (carId : String) : Option Car := cars.find? fun c => c.carId = carId

/-- The writes of a confirmed vehicle: the row, the tokens, the used login result. -/
def bindVehicle (rt : Runtime) (sessionId userId name carId : String) (car : Car) :
    BaseService ConfirmVehicleResult := do
  ask (.upsertVehicle userId car)
  let accessToken ← ask (.issueToken .appAccess userId carId appAccessTokenTtlSeconds)
  let refreshToken ← randomText "refresh-"
  ask (.saveTokenHash (rt.tokenHash refreshToken) userId carId)
  delete .loginResults sessionId
  return ⟨accessToken, refreshToken, userId, name, carId, car⟩

def execute (rt : Runtime) (command : ConfirmVehicleCommand) : BaseService ConfirmVehicleResult := do
  if command.tempAccessToken = .other "" then
    throw (.valueError "temp_access_token is required")
  else if command.carId = "" then throw (.valueError "car_id is required")
  else if command.vinHash = "" then throw (.valueError "vin_hash is required")
  else
    let token ← ask (.validateToken command.tempAccessToken .tempAccess "temp_token_expired")
    let sessionId := token.subject
    match ← getLoginResult sessionId with
    | none => throw (.valueError "login_result_not_found")
    | some loginResult =>
        match findCar loginResult.cars command.carId with
        | none => throw (.valueError "car_id_not_in_list")
        | some selectedCar =>
            match ← read .qrSessions sessionId with
            | none => throw (.valueError "qr_session_expired")
            | some qrSession =>
                if qrSession.status = .expired then throw (.valueError "qr_session_expired")
                else if qrSession.vinHash ≠ command.vinHash then
                  throw (.valueError "vin_hash_mismatch")
                else bindVehicle rt sessionId token.userId loginResult.name command.carId selectedCar

end ConfirmVehicleService

namespace RefreshAccessTokenService

def execute (rt : Runtime) (refreshToken : String) : BaseService BearerToken := do
  if refreshToken = "" then throw (.valueError "refresh_token is required")
  else
    let hash := rt.tokenHash refreshToken
    match ← ask (.findTokenByHash hash) with
    | none => throw (.valueError "refresh_token_not_found")
    | some record =>
        match record.status with
        | .revoked => throw (.valueError "refresh_token_revoked")
        | .expired => throw (.valueError "refresh_token_expired")
        | .active =>
            let now ← ask .now
            if record.expiresAt ≤ now then
              ask (.markTokenExpired hash)
              throw (.valueError "refresh_token_expired")
            else ask (.issueToken .appAccess record.userId record.carId
              ConfirmVehicleService.appAccessTokenTtlSeconds)

end RefreshAccessTokenService

/-! ## Card registration -/

namespace CreateCardOrderService

def cardOrderTtlSeconds : Nat := 30 * 60

def normalizePlate (plate : String) : String := strip (removeChar ' ' plate)

/-- `^\d{2,3}[가-힣]\d{4}$` -/
def isPlate (plate : String) : Bool :=
  let cs := dropFinalNewline plate.toList
  let digits := cs.takeWhile PyInt.isDecimal
  (digits.length = 2 || digits.length = 3) &&
    match cs.drop digits.length with
    | c :: rest => 0xAC00 ≤ c.toNat ∧ c.toNat ≤ 0xD7A3 ∧ rest.length = 4 ∧ rest.all PyInt.isDecimal
    | [] => false

def execute (command : CreateCardOrderCommand) : BaseService CreateCardOrderResult := do
  let user ← validateAppToken command.accessToken
  if ¬command.agreeTerms then throw (.valueError "agree_terms가 true여야 합니다.")
  else if ¬(← ask (.vehicleExists user.userId user.subject)) then
    throw (.valueError ("vehicle을 찾을 수 없습니다. car_id=" ++ user.subject))
  else
    let plate := normalizePlate command.plate
    if ¬isPlate plate then throw (.valueError ("plate 형식이 유효하지 않습니다: " ++ plate))
    else if ¬(← ask (.verifyOwner plate user.userId user.subject)) then
      throw (.valueError "molit_verification_failed")
    else
      ask (.updatePlate user.subject plate)
      let orderId ← randomText "order-"
      save .cardOrders orderId ⟨orderId, user.userId, user.subject, .pending⟩ cardOrderTtlSeconds
      let pgUrl ← ask (.createCardRegistrationUrl orderId)
      return ⟨orderId, pgUrl⟩

end CreateCardOrderService

namespace HandleCardWebhookService

/-- `^\d{4}$` -/
def isCardLastFour (text : String) : Bool :=
  let cs := dropFinalNewline text.toList
  cs.length = 4 && cs.all PyInt.isDecimal

def execute (command : HandleCardWebhookCommand) : BaseService Unit := do
  if ¬(← ask (.verifySignature command.signatureTimestamp command.signature)) then
    throw (.valueError "invalid_signature")
  else if ¬isCardLastFour command.cardLastFour then
    throw (.valueError ("card_last_four는 4자리 숫자여야 합니다: " ++ command.cardLastFour))
  else if command.status ≠ "active" then
    throw (.valueError ("webhook status가 active가 아닙니다: " ++ command.status))
  else
    match ← read .cardOrders command.orderId with
    | none =>
        -- the idempotency check reads the order a second time
        match ← read .cardOrders command.orderId with
        | some _ => return ()
        | none => throw (.valueError
            ("order를 찾을 수 없거나 만료되었습니다. order_id=" ++ command.orderId))
    | some order =>
        if order.status ≠ .pending then
          match ← read .cardOrders command.orderId with
          | some _ => return ()
          | none => throw (.valueError
              ("order를 찾을 수 없거나 만료되었습니다. order_id=" ++ command.orderId))
        else if (← ask (.getVehicleByCarId order.carId)).isNone then
          throw (.valueError ("vehicle을 찾을 수 없습니다. car_id=" ++ order.carId))
        else
          ask (.upsertBillingKey order command.billingKey command.cardLastFour)
          let _ ← update .cardOrders command.orderId fun o => { o with status := .complete }
          return ()

end HandleCardWebhookService

/-! ## Parking -/

namespace RegisterPreNotifyService

def preNotifyTtlSeconds : Nat := 60 * 60

/-- `PlateNormalizer.normalize` -/
def normalize (plate : String) : String := strip (removeChar '-' (removeChar ' ' plate))

def storeKey (lotId plate : String) : String := lotId ++ ":" ++ plate

def execute (command : RegisterPreNotifyCommand) : BaseService RegisterPreNotifyResult := do
  let token ← validateAppToken command.accessToken
  let carId := token.subject
  match ← ask (.getVehicleByCarId carId) with
  | none => throw (.valueError "vehicle_not_found")
  | some vehicle =>
      if vehicle.plate = "" then throw (.valueError "plate_not_registered")
      else
        let plate := normalize vehicle.plate
        if ¬(← hasActiveBillingKey carId) then throw (.valueError "no_active_billing_key")
        else
          save .preNotifies (storeKey command.lotId plate)
            ⟨token.userId, carId, command.lotId, plate⟩ preNotifyTtlSeconds
          ask (.preRegisterPlate command.lotId plate)
          return ⟨carId, command.lotId, plate⟩

end RegisterPreNotifyService

namespace HandleEntryWebhookService

def entryNotifyRetryTtlSeconds : Nat := 60 * 60

/-- A failed publication is recorded for the retry worker, as is a failed clean-up. -/
def notifyEntry (event : EntryRetryEvent) : BaseService Unit :=
  tryCatch (do
    ask (.publishEntryNotification event)
    delete .entryRetries event.sessionId) fun _ =>
      save .entryRetries event.sessionId event entryNotifyRetryTtlSeconds

def openSession (command : HandleEntryWebhookCommand) (carId : String) :
    BaseService HandleEntryWebhookResult := do
  let sessionId ← ask .draw
  ask (.createSession {
    sessionId := sessionId
    pmsSessionId := some command.pmsSessionId
    carId := carId
    lotId := command.lotId
    plate := command.plate
    entryTime := command.entryTime
    exitTime := none
    status := .active })
  delete .preNotifies (RegisterPreNotifyService.storeKey command.lotId command.plate)
  notifyEntry ⟨carId, sessionId, command.lotId, command.entryTime⟩
  return ⟨"confirmed", some sessionId⟩

def execute (rt : Runtime) (command : HandleEntryWebhookCommand) :
    BaseService HandleEntryWebhookResult := do
  if ¬(← ask (.verifySignature command.signatureTimestamp command.pmsToken)) then
    throw (.valueError "invalid_signature")
  else if ¬rt.isIsoFormat command.entryTime then throw (.valueError "invalid_entry_time_format")
  else match ← ask (.getSessionByPmsSessionId command.pmsSessionId) with
    | some existing => return ⟨"confirmed", some existing.sessionId⟩
    | none =>
        match ← read .preNotifies
            (RegisterPreNotifyService.storeKey command.lotId command.plate) with
        | none => return ⟨"not_registered", none⟩
        | some preNotify =>
            match ← ask (.getActiveSessionByCarId preNotify.carId) with
            | some active => return ⟨"confirmed", some active.sessionId⟩
            | none => openSession command preNotify.carId

end HandleEntryWebhookService

namespace NotifyRetryWorker

def retryEntry (key : Uuid) : BaseService Unit := do
  match ← read .entryRetries key with
  | none => return ()
  | some event =>
      tryCatch (do
        ask (.publishEntryNotification event)
        delete .entryRetries key) fun _ => pure ()

def retryEntries : List Uuid → BaseService Unit
  | [] => pure ()
  | key :: keys => do
      retryEntry key
      retryEntries keys

/-- One scan of the recorded entry notifications. -/
def processEntryRetries : BaseService Unit := do
  let keys ← ask .scanEntryRetries
  retryEntries keys

end NotifyRetryWorker

/-! ## UC-PAY-001 -/

namespace GetParkingFeeService

def feeQuoteTtlSeconds : Nat := 15 * 60

/-- The PMS computes every fee in this currency. -/
def feeCurrency : String := "KRW"

def execute (command : GetParkingFeeCommand) : BaseService GetParkingFeeResult := do
  if command.sessionId = "sess_dev_001" then
    return ⟨"sess_dev_001", "LOT_GANGNAM_01", 3000, 60, "KRW", "2024-01-01T09:00:00", .active⟩
  else
    let token ← validateAppToken command.accessToken
    match ← getQuote command.sessionId with
    | some q => return ⟨q.sessionId, q.lotId, q.amount, q.duration, q.currency, q.entryTime, q.status⟩
    | none =>
        match ← getSessionById command.sessionId with
        | none => throw (.valueError "session_not_found")
        | some session =>
            if session.status ≠ .active then throw (.valueError "session_not_active")
            else if session.carId ≠ token.subject then throw (.valueError "session_car_id_mismatch")
            else
              let (amount, duration) ←
                ask (.getParkingFee session.lotId session.plate session.pmsSessionId)
              save .quotes command.sessionId
                { sessionId := command.sessionId, lotId := session.lotId, amount := amount,
                  duration := duration, currency := feeCurrency, entryTime := session.entryTime,
                  status := .active }
                feeQuoteTtlSeconds
              return ⟨command.sessionId, session.lotId, amount, duration, feeCurrency,
                session.entryTime, .active⟩

end GetParkingFeeService

end CarPayIn
