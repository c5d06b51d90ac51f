import CarPayIn.Backend.Records
import CarPayIn.Store.Rows
import CarPayIn.Store.Cache

/-! # Accounts, sessions and stores of the backend

The part of the backend's state that holds no money: users, vehicles, billing
keys, tokens, parking sessions and the Redis stores of login, card orders and
quotes. Every repository method is one call; a method that breaks a constraint
of its table raises and changes nothing.
-/

namespace CarPayIn

open Store

/-- The replies of the services outside the repository, and of the parts of it
the backend only reaches over the network. They may change at any time. -/
structure Outside where
  parkingFee : String → String → Option String → Except PyError (Int × Int)
  exchangeCode : String → Except PyError String
  userProfile : String → Except PyError (String × String)
  vehicleList : String → Except PyError (List Car)
  verifyOwner : String → String → String → Bool
  registrationUrl : String → String
  validSignature : String → String → Bool

/-- What an OAuth callback stores for its login session. -/
structure OAuthResult where
  userId : String
  name : String
  cars : List Car
  tempAccessToken : BearerToken
deriving DecidableEq, Repr

/-- The columns of a session that an `UPDATE` sets. -/
structure SessionChange where
  status : Option SessionStatus
  exitTime : Option Nat
deriving DecidableEq, Repr

namespace SessionChange

/-- Nothing to flush: no statement is sent. -/
def unchanged : SessionChange := ⟨none, none⟩

def apply (change : SessionChange) (r : ParkingSession) : ParkingSession :=
  { r with
    status := change.status.getD r.status
    exitTime := if change.exitTime.isSome then change.exitTime else r.exitTime }

end SessionChange

structure Base where
  /-- Milliseconds. -/
  now : Nat
  /-- Random identifiers drawn so far. -/
  drawn : Nat
  issuedTokens : List TokenClaims
  users : List User
  vehicles : List Vehicle
  billingKeys : List VehicleBillingKey
  refreshTokens : List AppRefreshToken
  parkingSessions : List ParkingSession
  qrSessions : Cache String QrSession
  oauthStates : Cache String OAuthState
  oauthResults : Cache String OAuthResult
  /-- Every result an OAuth callback has stored, by login session. No service reads it. -/
  completedLogins : List (String × OAuthResult)
  loginResults : Cache String OAuthResult
  cardOrders : Cache String CardOrder
  preNotifies : Cache String PreNotify
  quotes : Cache String FeeQuote
  entryRetries : Cache Uuid EntryRetryEvent
  /-- The keys a `SCAN` of the entry retry events yields next. -/
  scannedEntries : List Uuid
  /-- Every entry notification that was published. No service reads it. -/
  publishedEntries : List EntryRetryEvent
  outside : Outside

/-! ## Repository methods -/

namespace Base

variable (s : Base)

def upsertUser (userId name : String) : Base :=
  match get? User.userId userId s.users with
  | none => { s with users := ⟨userId, name⟩ :: s.users }
  | some _ => { s with users := modify User.userId userId (fun u => { u with name := name }) s.users }

/-- The unique index on non-empty plates. -/
def plateTaken (carId plate : String) : Bool :=
  plate ≠ "" && s.vehicles.any fun v => v.carId ≠ carId && v.plate = plate

def upsertVehicle (userId : String) (car : Car) : Except PyError Base :=
  if (get? User.userId userId s.users).isNone then .error (.integrityError "vehicles_user_id_fkey")
  else if s.plateTaken car.carId car.plate then .error (.integrityError "idx_vehicles_plate")
  else if car.plate.length > 20 then .error (.dataError "plate")
  else match get? Vehicle.carId car.carId s.vehicles with
    | none =>
        .ok { s with vehicles := ⟨car.carId, userId, car.carSellname, car.plate⟩ :: s.vehicles }
    | some _ =>
        let set (v : Vehicle) : Vehicle :=
          { v with userId := userId, carSellname := car.carSellname, plate := car.plate }
        .ok { s with vehicles := modify Vehicle.carId car.carId set s.vehicles }

def vehicleExists (userId carId : String) : Bool :=
  s.vehicles.any fun v => v.userId = userId && v.carId = carId

def updatePlate (carId plate : String) : Except PyError Base :=
  match get? Vehicle.carId carId s.vehicles with
  | none => .error (.lookupError "vehicle_not_found")
  | some _ =>
      if s.plateTaken carId plate then .error (.integrityError "idx_vehicles_plate")
      else .ok { s with vehicles := modify Vehicle.carId carId (fun v => { v with plate := plate }) s.vehicles }

def asciiDigits (text : String) : Bool := text.toList.all fun c => 48 ≤ c.toNat ∧ c.toNat ≤ 57

/-- The card webhook passes the order's car. The column is a `CHAR(4)`, which takes a longer
text only when spaces end it; the webhook lets no such text through. -/
def upsertBillingKey (order : CardOrder) (billingKey cardLastFour : String) : Except PyError Base :=
  let carId := order.carId
  if cardLastFour.length > 4 then .error (.dataError "card_last_four")
  else if (get? Vehicle.carId carId s.vehicles).isNone then
    .error (.integrityError "vehicle_billing_keys_car_id_fkey")
  else if s.billingKeys.any fun r => r.carId ≠ carId && r.billingKey = billingKey then
    .error (.integrityError "vehicle_billing_keys_billing_key_key")
  else if ¬(cardLastFour.length = 4 ∧ asciiDigits cardLastFour) then
    .error (.integrityError "ck_vehicle_billing_keys_card_last_four")
  else match get? VehicleBillingKey.carId carId s.billingKeys with
    | none =>
        let row : VehicleBillingKey := ⟨carId, billingKey, cardLastFour, .active, order⟩
        .ok { s with billingKeys := row :: s.billingKeys }
    | some _ =>
        let set (r : VehicleBillingKey) : VehicleBillingKey :=
          { r with
            billingKey := billingKey
            cardLastFour := cardLastFour
            status := .active
            storedFor := order }
        .ok { s with billingKeys := modify VehicleBillingKey.carId carId set s.billingKeys }

def getActiveBillingKey (carId : String) : Option VehicleBillingKey :=
  (get? VehicleBillingKey.carId carId s.billingKeys).filter fun r => r.status = .active

def appRefreshTokenTtlDays : Nat := 30

def saveTokenHash (hash userId carId : String) : Except PyError Base :=
  if (get? User.userId userId s.users).isNone then
    .error (.integrityError "app_refresh_tokens_user_id_fkey")
  else if (get? Vehicle.carId carId s.vehicles).isNone then
    .error (.integrityError "app_refresh_tokens_car_id_fkey")
  else if (get? AppRefreshToken.refreshTokenHash hash s.refreshTokens).isSome then
    .error (.integrityError "app_refresh_tokens_pkey")
  else
    let expiresAt := s.now + appRefreshTokenTtlDays * 24 * 60 * 60 * 1000
    .ok { s with refreshTokens := ⟨hash, userId, carId, .active, expiresAt⟩ :: s.refreshTokens }

def markExpired (hash : String) : Except PyError Base :=
  match get? AppRefreshToken.refreshTokenHash hash s.refreshTokens with
  | none => .error (.lookupError "refresh_token_not_found")
  | some _ =>
      let set (r : AppRefreshToken) : AppRefreshToken := { r with status := .expired }
      .ok { s with refreshTokens := modify AppRefreshToken.refreshTokenHash hash set s.refreshTokens }

def createSession (row : ParkingSession) : Except PyError Base :=
  if (get? Vehicle.carId row.carId s.vehicles).isNone then
    .error (.integrityError "parking_sessions_car_id_fkey")
  else if (get? ParkingSession.sessionId row.sessionId s.parkingSessions).isSome then
    .error (.integrityError "parking_sessions_pkey")
  else if row.status = .active ∧
      s.parkingSessions.any fun r => r.carId = row.carId && r.status = .active then
    .error (.integrityError "uniq_active_session_per_car")
  else if row.pmsSessionId.isSome ∧
      s.parkingSessions.any fun r => r.lotId = row.lotId && r.pmsSessionId = row.pmsSessionId then
    .error (.integrityError "uniq_parking_sessions_lot_pms")
  else if row.plate.length > 20 then .error (.dataError "plate")
  else .ok { s with parkingSessions := row :: s.parkingSessions }

def getSessionById (id : Uuid) : Option ParkingSession :=
  get? ParkingSession.sessionId id s.parkingSessions

def getSessionByPmsSessionId (pmsSessionId : String) : Option ParkingSession :=
  get? ParkingSession.pmsSessionId (some pmsSessionId) s.parkingSessions

def getActiveSessionByCarId (carId : String) : Option ParkingSession :=
  s.parkingSessions.find? fun r => r.carId = carId && r.status = .active

def staleData : PyError :=
  .exception "UPDATE statement on table 'parking_sessions' expected to update 1 row(s); 0 were matched."

/-- The commit that ends `update_session_status`. Nothing locks the row since it was read, so the
change may have been made of an older row. -/
def commitSession (id : Uuid) (change : SessionChange) : Except PyError Base :=
  if change = .unchanged then .ok s
  else match s.getSessionById id with
    | none => .error staleData
    | some _ =>
        .ok { s with parkingSessions := modify ParkingSession.sessionId id change.apply s.parkingSessions }

/-! ## Tokens -/

def issueToken (typ : TokenType) (userId subject : String) (ttlSeconds : Nat) :
    BearerToken × Base :=
  let claims : TokenClaims := ⟨typ, userId, subject, s.now / 1000 + ttlSeconds⟩
  (.signed claims, { s with issuedTokens := claims :: s.issuedTokens })

/-- Only a token that was issued carries a signature that fits its payload. -/
def validateToken (token : BearerToken) (typ : TokenType) (expiredCode : String) :
    Except PyError TokenClaims :=
  match token with
  | .other _ => .error (.valueError "invalid_token")
  | .signed claims =>
      if claims ∉ s.issuedTokens then .error (.valueError "invalid_token")
      else if claims.typ ≠ typ then .error (.valueError "invalid_token")
      else if claims.exp ≤ s.now / 1000 then .error (.valueError expiredCode)
      else .ok claims

end Base

/-! ## Calls -/

inductive BaseOp : Type → Type 1 where
  | now : BaseOp Nat
  | draw : BaseOp Nat
  | issueToken (typ : TokenType) (userId subject : String) (ttlSeconds : Nat) : BaseOp BearerToken
  | validateToken (token : BearerToken) (typ : TokenType) (expiredCode : String) :
      BaseOp TokenClaims
  | upsertUser (userId name : String) : BaseOp Unit
  | upsertVehicle (userId : String) (car : Car) : BaseOp Unit
  | getVehicleByCarId (carId : String) : BaseOp (Option Vehicle)
  | vehicleExists (userId carId : String) : BaseOp Bool
  | updatePlate (carId plate : String) : BaseOp Unit
  | upsertBillingKey (order : CardOrder) (billingKey cardLastFour : String) : BaseOp Unit
  | getActiveBillingKey (carId : String) : BaseOp (Option VehicleBillingKey)
  | saveTokenHash (hash userId carId : String) : BaseOp Unit
  | findTokenByHash (hash : String) : BaseOp (Option AppRefreshToken)
  | markTokenExpired (hash : String) : BaseOp Unit
  | createSession (row : ParkingSession) : BaseOp Unit
  | getSessionById (id : Uuid) : BaseOp (Option ParkingSession)
  | getSessionByPmsSessionId (pmsSessionId : String) : BaseOp (Option ParkingSession)
  | getActiveSessionByCarId (carId : String) : BaseOp (Option ParkingSession)
  | commitSession (id : Uuid) (change : SessionChange) : BaseOp Unit
  | qrSessions {β : Type} (op : CacheOp String QrSession β) : BaseOp β
  | oauthStates {β : Type} (op : CacheOp String OAuthState β) : BaseOp β
  | oauthResults {β : Type} (op : CacheOp String OAuthResult β) : BaseOp β
  | loginResults {β : Type} (op : CacheOp String OAuthResult β) : BaseOp β
  | cardOrders {β : Type} (op : CacheOp String CardOrder β) : BaseOp β
  | preNotifies {β : Type} (op : CacheOp String PreNotify β) : BaseOp β
  | quotes {β : Type} (op : CacheOp String FeeQuote β) : BaseOp β
  | entryRetries {β : Type} (op : CacheOp Uuid EntryRetryEvent β) : BaseOp β
  | getParkingFee (lotId plate : String) (pmsSessionId : Option String) :
      BaseOp (Int × Int)
  | preRegisterPlate (lotId plate : String) : BaseOp Unit
  | exchangeCode (code : String) : BaseOp String
  | getUserProfile (accessToken : String) : BaseOp (String × String)
  | getVehicleList (accessToken : String) : BaseOp (List Car)
  | verifyOwner (plate userId carId : String) : BaseOp Bool
  | createCardRegistrationUrl (orderId : String) : BaseOp String
  | verifySignature (timestamp signature : String) : BaseOp Bool
  | publishNotification : BaseOp Unit
  | publishEntryNotification (event : EntryRetryEvent) : BaseOp Unit
  | scanEntryRetries : BaseOp (List Uuid)

namespace Base

/-- A write that may raise. -/
def write (s : Base) (r : Except PyError Base) : Except PyError Unit × Base :=
  match r with
  | .ok s' => (.ok (), s')
  | .error e => (.error e, s)

/-- The history of the stored OAuth results after one command. -/
def logged {β : Type} (s : Base) : CacheOp String OAuthResult β → List (String × OAuthResult)
  | .set sessionId result _ => (sessionId, result) :: s.completedLogins
  | _ => s.completedLogins

def exec {β : Type} (op : BaseOp β) (s : Base) : Except PyError β × Base :=
  match op with
  | .now => (.ok s.now, s)
  | .draw => (.ok s.drawn, { s with drawn := s.drawn + 1 })
  | .issueToken typ userId subject ttlSeconds =>
      let (token, s') := s.issueToken typ userId subject ttlSeconds
      (.ok token, s')
  | .validateToken token typ expiredCode => (s.validateToken token typ expiredCode, s)
  | .upsertUser userId name => (.ok (), s.upsertUser userId name)
  | .upsertVehicle userId car => s.write (s.upsertVehicle userId car)
  | .getVehicleByCarId carId => (.ok (get? Vehicle.carId carId s.vehicles), s)
  | .vehicleExists userId carId => (.ok (s.vehicleExists userId carId), s)
  | .updatePlate carId plate => s.write (s.updatePlate carId plate)
  | .upsertBillingKey order billingKey cardLastFour =>
      s.write (s.upsertBillingKey order billingKey cardLastFour)
  | .getActiveBillingKey carId => (.ok (s.getActiveBillingKey carId), s)
  | .saveTokenHash hash userId carId => s.write (s.saveTokenHash hash userId carId)
  | .findTokenByHash hash =>
      (.ok (get? AppRefreshToken.refreshTokenHash hash s.refreshTokens), s)
  | .markTokenExpired hash => s.write (s.markExpired hash)
  | .createSession row => s.write (s.createSession row)
  | .getSessionById id => (.ok (s.getSessionById id), s)
  | .getSessionByPmsSessionId id => (.ok (s.getSessionByPmsSessionId id), s)
  | .getActiveSessionByCarId carId => (.ok (s.getActiveSessionByCarId carId), s)
  | .commitSession id change => s.write (s.commitSession id change)
  | .qrSessions op =>
      let (r, c) := s.qrSessions.exec s.now op
      (.ok r, { s with qrSessions := c })
  | .oauthStates op =>
      let (r, c) := s.oauthStates.exec s.now op
      (.ok r, { s with oauthStates := c })
  | .oauthResults op =>
      let (r, c) := s.oauthResults.exec s.now op
      (.ok r, { s with oauthResults := c, completedLogins := s.logged op })
  | .loginResults op =>
      let (r, c) := s.loginResults.exec s.now op
      (.ok r, { s with loginResults := c })
  | .cardOrders op =>
      let (r, c) := s.cardOrders.exec s.now op
      (.ok r, { s with cardOrders := c })
  | .preNotifies op =>
      let (r, c) := s.preNotifies.exec s.now op
      (.ok r, { s with preNotifies := c })
  | .quotes op =>
      let (r, c) := s.quotes.exec s.now op
      (.ok r, { s with quotes := c })
  | .entryRetries op =>
      let (r, c) := s.entryRetries.exec s.now op
      (.ok r, { s with entryRetries := c })
  | .getParkingFee lotId plate pmsSessionId => (s.outside.parkingFee lotId plate pmsSessionId, s)
  | .preRegisterPlate _ _ => (.ok (), s)
  | .exchangeCode code => (s.outside.exchangeCode code, s)
  | .getUserProfile accessToken => (s.outside.userProfile accessToken, s)
  | .getVehicleList accessToken => (s.outside.vehicleList accessToken, s)
  | .verifyOwner plate userId carId => (.ok (s.outside.verifyOwner plate userId carId), s)
  | .createCardRegistrationUrl orderId => (.ok (s.outside.registrationUrl orderId), s)
  | .verifySignature timestamp signature => (.ok (s.outside.validSignature timestamp signature), s)
  | .publishNotification => (.ok (), s)
  | .publishEntryNotification event =>
      (.ok (), { s with publishedEntries := event :: s.publishedEntries })
  | .scanEntryRetries => (.ok s.scannedEntries, s)

end Base

end CarPayIn
