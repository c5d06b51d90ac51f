import CarPayIn.Login.Plates
import CarPayIn.Payments.Alone
import CarPayIn.Process.History

/-! # Verified plates

A card order stores the plate that was verified. A confirmation of the same car
writes the plate of Hyundai's list over it, and where the list has none the car
loses its plate: the plate survives exactly those confirmations that are turned
down before they write.
-/

namespace CarPayIn

open Process Process.System Store Service
open ConfirmVehicleService (findCar getLoginResult bindVehicle)

variable {rt : Runtime} {t : Tid} {w w' w₀ : World} {P : World → Prop} {α β γ : Type}

/-! ## Stored plates -/

def Op.storedPlate? {β : Type} : Op β → Option String
  | .base (.updatePlate carId _) => some carId
  | _ => none

def plateHistory (_ : Tid) {β : Type} (op : Op β) (r : Except PyError β) (_ : World)
    (cars : List String) : List String := (op.storedPlate?.filter fun _ => r.isOk).toList ++ cars

abbrev Plating : Type := World × List String

abbrev platingSystem (rt : Runtime) : System Op PyError Reply Plating Tid Start Env :=
  (carPayIn rt).withHistory plateHistory

def Base.plate (b : Base) (carId : String) : Option String :=
  (get? Vehicle.carId carId b.vehicles).map Vehicle.plate

namespace World

variable (w : World)

def plateOf (carId : String) : Option String := w.base.plate carId

def hasPlate (carId : String) : Bool := (w.plateOf carId).any (· ≠ "")

end World

/-- A pre-notification for the car does not fail for want of a plate. -/
def Registers (rt : Runtime) (carId : String) (w : World) : Prop :=
  ∀ t command claims r w', command.accessToken = .signed claims → claims.subject = carId →
    (carPayIn rt).Finishes (.answered True) t (base (RegisterPreNotifyService.execute command)) w
      r w' → r ≠ .error (.valueError "plate_not_registered")

/-! ## The condition -/

/-- A confirmation does not write an entry without a plate over a plate. -/
def keepsPlate {β : Type} (op : Op β) (m : Mode PyError) (w : World) : Bool :=
  match op with
  | .base (.upsertVehicle userId car) => !m.effective || car.plate ≠ "" ||
      !w.hasPlate car.carId || (get? User.userId userId w.base.users).isNone
  | _ => true

def verifiedPolicy : Policy Op PyError World Tid Start Env where
  start _ _ := True
  call _ _ op m w := keepsPlate op m w = true
  crash _ _ := True
  environment _ _ := True

instance : verifiedPolicy.Computable where
  start _ _ := .isTrue trivial
  call _ _ _ _ _ := inferInstanceAs (Decidable (_ = true))
  crash _ _ := .isTrue trivial
  environment _ _ := .isTrue trivial

namespace World

variable (w : World)

/-- The results of the login session list the car, without a plate. -/
def listsUnplated (sessionId carId : String) : Bool :=
  let unplated (e : Entry OAuthResult) : Bool := (findCar e.value.cars carId).any (·.plate = "")
  (w.base.oauthResults.read w.base.now sessionId).all unplated &&
    (w.base.loginResults.read w.base.now sessionId).all unplated

/-- The QR session of the login is there for the vehicle. -/
def showsSession (sessionId vinHash : String) : Bool :=
  (w.base.qrSessions.read w.base.now sessionId).any fun e =>
    e.value.status ≠ .expired && e.value.vinHash = vinHash

def hasLogin (sessionId : String) : Bool :=
  (w.base.oauthResults.read w.base.now sessionId).isSome ||
    (w.base.loginResults.read w.base.now sessionId).isSome

/-- The checks of a confirmation let the command through, and the user is known. -/
def confirms (command : ConfirmVehicleCommand) : Bool :=
  command.carId ≠ "" && command.vinHash ≠ "" &&
    match w.base.validateToken command.tempAccessToken .tempAccess "temp_token_expired" with
    | .error _ => false
    | .ok token => w.hasLogin token.subject && w.showsSession token.subject command.vinHash &&
        (get? User.userId token.userId w.base.users).isSome

end World

/-! ## A confirmation that is let through -/

theorem frame_ask {π : Policy Op PyError World Tid Start Env} {rows : List Vehicle} {op : BaseOp α}
    (h : op.effect ≠ .vehicle) :
    (carPayIn rt).Triple π ((carPayIn rt).solo π t) t (fun w => w.base.vehicles = rows)
      (base (ask op)) (fun _ w => w.base.vehicles = rows) := by
  apply solo_perform
  · intro w w' hd hw
    obtain ⟨x, -, he⟩ := hd
    obtain ⟨now, outside, scanned, -, hb⟩ := environment_base he
    rw [hb]
    exact hw
  · intro w m r w' hw _ ho
    rw [(outcome_frame ho).vehicles h]
    exact hw

/-- After the row is written nothing more happens to the vehicles. -/
theorem bindVehicle_finishes (rt : Runtime) (t : Tid) (name carId sessionId : String)
    {userId : String} {car : Car} {b : Base} (hx : w.base.upsertVehicle userId car = .ok b) : ∃ r w',
      (carPayIn rt).Finishes Policy.any t
        (base (bindVehicle rt sessionId userId name carId car)) w r w' ∧
        w'.base.vehicles = b.vehicles := by
  have hcalls : (base (bindVehicle rt sessionId userId name carId car)).Calls fun op =>
      ∀ w, (Policy.answered False : Policy Op PyError World Tid Start Env).call t op .answered w ∧
        ((carPayIn rt).exec t op w).isSome = true := by
    apply Program.calls_lift
    exact fun op w => ⟨rfl, rfl⟩
  obtain ⟨r, w', hf⟩ := exists_finishes hcalls w
  refine ⟨r, w', hf.any, ?_⟩
  have htriple : (carPayIn rt).Triple (.answered False) ((carPayIn rt).solo (.answered False) t) t
      (fun w₁ => w₁ = w) (base (bindVehicle rt sessionId userId name carId car))
      (fun _ w₁ => w₁.base.vehicles = b.vehicles) := by
    unfold bindVehicle
    simp only [Program.bind_eq, base_bind]
    apply Triple.bind (M := fun _ w₁ => w₁.base.vehicles = b.vehicles)
    · apply solo_perform
      · intro w₁ w₂ hd _
        obtain ⟨x, hfalse, -⟩ := hd
        exact hfalse.elim
      · intro w₁ m r w₂ hw hm ho
        have hm : m = .answered := hm
        subst hw hm
        have ho : w₁.exec t (.base (.upsertVehicle userId car)) = some (r, w₂) := ho
        obtain ⟨hr, hw₂⟩ := exec_base ho
        have hexec : w₁.base.exec (.upsertVehicle userId car) = (.ok (), b) := by
          simp only [Base.exec, hx, Base.write]
        rw [hexec] at hr hw₂
        subst hr
        rw [hw₂]
    intro _
    apply Triple.seq (frame_ask (by simp))
    · exact fun _ _ hw => hw
    intro accessToken
    apply Triple.seq
    · unfold BaseService.randomText
      simp only [Program.bind_eq, base_bind]
      apply Triple.seq (frame_ask (by simp))
      · exact fun _ _ hw => hw
      · exact fun _ => .done fun _ hw => hw
    · exact fun _ _ hw => hw
    intro refreshToken
    apply Triple.seq (frame_ask (by simp))
    · exact fun _ _ hw => hw
    intro _
    apply Triple.seq (frame_ask (by simp))
    · exact fun _ _ hw => hw
    · exact fun _ => .done fun _ hw => hw
  exact wp_finishes hf (htriple w rfl)

theorem Base.upsertVehicle_plate {b b' : Base} {userId : String} {car : Car}
    (h : b.upsertVehicle userId car = .ok b') (carId : String) :
    b'.plate carId = if carId = car.carId then some car.plate else b.plate carId := by
  unfold upsertVehicle at h
  split_ifs at h
  split at h
  · cases h
    exact map_get?_cons
  · rename_i v hsome
    cases h
    exact map_get?_modify (fun _ => rfl) (fun _ => rfl) hsome

theorem Base.updatePlate_plate {b b' : Base} {carId text : String}
    (h : b.updatePlate carId text = .ok b') (carId' : String) :
    b'.plate carId' = if carId' = carId then some text else b.plate carId' := by
  unfold updatePlate at h
  split at h
  · cases h
  rename_i v hsome
  split_ifs at h
  cases h
  exact map_get?_modify (fun _ => rfl) (fun _ => rfl) hsome

/-- An entry without a plate can be written for every known user. -/
theorem exists_upsertVehicle {userId : String} {car : Car} (hplate : car.plate = "")
    (huser : (get? User.userId userId w.base.users).isSome = true) :
    ∃ b, w.base.upsertVehicle userId car = .ok b := by
  have hfree : w.base.plateTaken car.carId car.plate = false := by
    simp [Base.plateTaken, hplate]
  unfold Base.upsertVehicle
  rw [if_neg (by simpa [Option.isSome_iff_ne_none] using huser), if_neg (by simp [hfree]),
    if_neg (by simp [hplate])]
  split
  · exact ⟨_, rfl⟩
  · exact ⟨_, rfl⟩

theorem getLoginResult_finishes (rt : Runtime) (t : Tid) {sessionId : String} (h : w.hasLogin sessionId = true) :
    ∃ e, (w.base.oauthResults.read w.base.now sessionId = some e ∨
        w.base.loginResults.read w.base.now sessionId = some e) ∧
      (carPayIn rt).Finishes Policy.any t (base (getLoginResult sessionId)) w
        (.ok (some e.value)) w := by
  have hoauths : (w.base.exec (.oauthResults (.get sessionId))).1 =
      .ok ((w.base.oauthResults.read w.base.now sessionId).map (·.value)) := rfl
  have hlogins : (w.base.exec (.loginResults (.get sessionId))).1 =
      .ok ((w.base.loginResults.read w.base.now sessionId).map (·.value)) := rfl
  unfold getLoginResult
  cases hoauth : w.base.oauthResults.read w.base.now sessionId with
  | some e =>
      rw [hoauth] at hoauths
      refine ⟨e, .inl rfl, ?_⟩
      exact Finishes.ask _ rfl hoauths (.done _ _)
  | none =>
      rw [hoauth] at hoauths
      have hlogin : (w.base.loginResults.read w.base.now sessionId).isSome = true := by
        simpa [World.hasLogin, hoauth] using h
      obtain ⟨e, he⟩ := Option.isSome_iff_exists.mp hlogin
      rw [he] at hlogins
      refine ⟨e, .inr he, ?_⟩
      exact Finishes.ask _ rfl hoauths (Finishes.perform _ rfl hlogins)

theorem findCar_of_listsUnplated {sessionId carId : String} {e : Entry OAuthResult}
    (h : w.listsUnplated sessionId carId = true)
    (he : w.base.oauthResults.read w.base.now sessionId = some e ∨
      w.base.loginResults.read w.base.now sessionId = some e) :
    ∃ car, findCar e.value.cars carId = some car ∧ car.carId = carId ∧ car.plate = "" := by
  obtain ⟨hoauth, hlogin⟩ := (Bool.and_eq_true ..).mp h
  have hlisted : (findCar e.value.cars carId).any (·.plate = "") = true := by
    rcases he with he | he
    · simpa [he] using hoauth
    · simpa [he] using hlogin
  obtain ⟨car, hcar, hplate⟩ := (Option.any_eq_true ..).mp hlisted
  have hid : car.carId = carId := by
    unfold findCar at hcar
    simpa using List.find?_some hcar
  exact ⟨car, hcar, hid, of_decide_eq_true hplate⟩

/-- A confirmation that is let through takes the plate away. -/
theorem confirmation_unplates {command : ConfirmVehicleCommand} {claims : TokenClaims}
    (htoken : command.tempAccessToken = .signed claims)
    (hlist : w.listsUnplated claims.subject command.carId = true)
    (h : w.confirms command = true) : ∃ r w', (carPayIn rt).Finishes Policy.any t
      (base (ConfirmVehicleService.execute rt command)) w r w' ∧
        w'.plateOf command.carId = some "" := by
  simp only [World.confirms, Bool.and_eq_true, decide_eq_true_eq] at h
  obtain ⟨⟨hcar, hvin⟩, h⟩ := h
  split at h
  · cases h
  rename_i token hvalid
  have hclaims : claims = token := by
    have hsigned := Base.validateToken_ok hvalid
    rw [htoken] at hsigned
    cases hsigned
    rfl
  subst hclaims
  simp only [Bool.and_eq_true] at h
  obtain ⟨⟨hlogin, hqr⟩, huser⟩ := h
  obtain ⟨e, he, hresult⟩ := getLoginResult_finishes rt t hlogin
  obtain ⟨car, hfound, hid, hplate⟩ := findCar_of_listsUnplated hlist he
  obtain ⟨q, hq, hshows⟩ := (Option.any_eq_true ..).mp hqr
  simp only [Bool.and_eq_true, decide_eq_true_eq] at hshows
  obtain ⟨b, hx⟩ := exists_upsertVehicle hplate huser
  obtain ⟨r, w', hf, hrows⟩ :=
    bindVehicle_finishes rt t e.value.name command.carId claims.subject hx
  refine ⟨r, w', ?_, ?_⟩
  · unfold ConfirmVehicleService.execute
    rw [if_neg (by simp [htoken]), if_neg hcar, if_neg hvin]
    apply Finishes.ask (.validateToken command.tempAccessToken .tempAccess "temp_token_expired")
      rfl hvalid
    rw [Program.bind_eq, base_bind]
    apply hresult.bind
    dsimp only
    rw [hfound]
    have hread : (w.base.exec (.qrSessions (.get claims.subject))).1 = .ok (some q.value) := by
      simp [Base.exec, Cache.exec, hq]
    apply Finishes.ask (.qrSessions (.get claims.subject)) rfl hread
    dsimp only
    rw [if_neg hshows.1, if_neg (by simpa using hshows.2)]
    exact hf
  · have hrow := Base.upsertVehicle_plate hx command.carId
    rw [hid, if_pos rfl, hplate] at hrow
    rw [World.plateOf, Base.plate, hrows]
    exact hrow

/-! ## A confirmation that is turned down -/

namespace Drifted

theorem vehicles (h : Drifted w₀ w) : w.base.vehicles = w₀.base.vehicles := by
  obtain ⟨now, outside, scanned, -, hb⟩ := h
  rw [hb]

theorem users (h : Drifted w₀ w) : w.base.users = w₀.base.users := by
  obtain ⟨now, outside, scanned, -, hb⟩ := h
  rw [hb]

theorem issuedTokens (h : Drifted w₀ w) : w.base.issuedTokens = w₀.base.issuedTokens := by
  obtain ⟨now, outside, scanned, -, hb⟩ := h
  rw [hb]

theorem oauthResults (h : Drifted w₀ w) : w.base.oauthResults = w₀.base.oauthResults := by
  obtain ⟨now, outside, scanned, -, hb⟩ := h
  rw [hb]

theorem loginResults (h : Drifted w₀ w) : w.base.loginResults = w₀.base.loginResults := by
  obtain ⟨now, outside, scanned, -, hb⟩ := h
  rw [hb]

theorem qrSessions (h : Drifted w₀ w) : w.base.qrSessions = w₀.base.qrSessions := by
  obtain ⟨now, outside, scanned, -, hb⟩ := h
  rw [hb]

/-- A token that is valid later was valid before. -/
theorem validateToken (h : Drifted w₀ w) {token : BearerToken} {typ : TokenType} {code : String}
    {claims : TokenClaims} (hvalid : w.base.validateToken token typ code = .ok claims) :
    w₀.base.validateToken token typ code = .ok claims := by
  have htoken := Base.validateToken_ok hvalid
  subst htoken
  unfold Base.validateToken at hvalid ⊢
  dsimp only at hvalid ⊢
  split_ifs at hvalid with hissued htyp hexp
  have hle : w₀.base.now / 1000 ≤ w.base.now / 1000 := Nat.div_le_div_right h.now
  have hexp : ¬claims.exp ≤ w₀.base.now / 1000 := by omega
  rw [h.issuedTokens] at hissued
  rw [if_neg (not_not.mpr hissued), if_neg htyp, if_neg hexp]

end Drifted

theorem getLoginResult_drifted (sessionId : String) :
    Alone rt t (Drifted w₀) (base (getLoginResult sessionId)) (fun r w => Drifted w₀ w ∧
      ∀ found, r = .ok (some found) → w₀.hasLogin sessionId = true) := by
  have hdrift : ∀ w w', (carPayIn rt).Drifts Policy.any w w' → Drifted w₀ w → Drifted w₀ w' :=
    fun w w' hd h => h.drift hd
  unfold getLoginResult
  simp only [Program.bind_eq, base_bind]
  apply Triple.bind (M := fun (found : Option OAuthResult) w => Drifted w₀ w ∧
    (found.isSome = true → w₀.hasLogin sessionId = true))
  · apply Triple.conseq (ask_alone (.oauthResults (.get sessionId)) rfl hdrift) (fun _ h => h)
    intro r w hr
    cases r with
    | error e => exact ⟨hr.1, fun found h => by cases h⟩
    | ok found =>
        refine ⟨hr.1, fun hsome => ?_⟩
        have hread := Except.ok.inj (hr.2 found rfl)
        rw [← hread, Option.isSome_map, hr.1.oauthResults] at hsome
        obtain ⟨e, he⟩ := Option.isSome_iff_exists.mp hsome
        simp [World.hasLogin, read_of_later hr.1.now he]
  · intro found
    cases found with
    | some result =>
        apply Triple.done
        intro w hw
        exact ⟨hw.1, fun _ _ => hw.2 rfl⟩
    | none =>
        apply Triple.conseq (ask_alone (.loginResults (.get sessionId)) rfl hdrift)
          (fun _ h => h.1)
        intro r w hr
        refine ⟨hr.1, fun found hfound => ?_⟩
        subst hfound
        obtain ⟨e, he, -⟩ := Option.map_eq_some_iff.mp (Except.ok.inj (hr.2 _ rfl))
        rw [hr.1.loginResults] at he
        simp [World.hasLogin, read_of_later hr.1.now he]

theorem bindVehicle_refused {userId carId name sessionId : String} {car : Car}
    (huser : (get? User.userId userId w₀.base.users).isSome = false) :
    Alone rt t (Drifted w₀) (base (bindVehicle rt sessionId userId name carId car))
      (fun _ w => w.base.vehicles = w₀.base.vehicles) := by
  unfold bindVehicle
  simp only [Program.bind_eq, base_bind]
  apply Triple.bind (M := fun _ _ => False)
  · apply solo_perform
    · exact fun w w' hd h => h.drift hd
    · intro w m r w' hw _ ho
      have hraises : w.base.exec (.upsertVehicle userId car) =
          (.error (.integrityError "vehicles_user_id_fkey"), w.base) := by
        have hnone : (get? User.userId userId w.base.users).isNone = true := by
          rw [hw.users]
          simpa using huser
        simp only [Base.exec, Base.upsertVehicle, if_pos hnone, Base.write]
      have hbase : ∀ r₁, w.exec t (.base (.upsertVehicle userId car)) = some (r₁, w') →
          r₁ = .error (.integrityError "vehicles_user_id_fkey") ∧
            w'.base.vehicles = w₀.base.vehicles := by
        intro r₁ h
        obtain ⟨hr, hw'⟩ := exec_base h
        rw [← hr, hw', hraises]
        exact ⟨rfl, hw.vehicles⟩
      rcases (carPayIn rt).outcome_cases ho with ⟨-, h⟩ | ⟨e, -, rfl, rfl⟩ | ⟨e, r₀, -, rfl, h⟩
      · obtain ⟨rfl, hrows⟩ := hbase r h
        exact hrows
      · exact hw.vehicles
      · exact (hbase r₀ h).2
  · exact fun _ w h => h.elim

/-- A confirmation that the checks turn down leaves the vehicles. -/
theorem confirmation_refused {command : ConfirmVehicleCommand}
    (h : w₀.confirms command = false) :
    Alone rt t (Drifted w₀) (base (ConfirmVehicleService.execute rt command))
      (fun _ w => w.base.vehicles = w₀.base.vehicles) := by
  have hdrift : ∀ w w', (carPayIn rt).Drifts Policy.any w w' → Drifted w₀ w → Drifted w₀ w' :=
    fun w w' hd h => h.drift hd
  unfold ConfirmVehicleService.execute
  split
  · exact .done fun _ hw => hw.vehicles
  split
  · exact .done fun _ hw => hw.vehicles
  split
  · exact .done fun _ hw => hw.vehicles
  rename_i hcar hvin
  simp only [Program.bind_eq, base_bind]
  apply Triple.bind (M := fun token w => Drifted w₀ w ∧
    w₀.base.validateToken command.tempAccessToken .tempAccess "temp_token_expired" = .ok token)
  · apply Triple.conseq (ask_alone (.validateToken command.tempAccessToken .tempAccess
      "temp_token_expired") rfl hdrift) (fun _ h => h)
    intro r w hr
    cases r with
    | error e => exact hr.1.vehicles
    | ok token => exact ⟨hr.1, hr.1.validateToken (hr.2 token rfl)⟩
  intro token
  by_cases hvalid : w₀.base.validateToken command.tempAccessToken .tempAccess
      "temp_token_expired" = .ok token
  swap
  · exact fun w hw => (hvalid hw.2).elim
  simp only [World.confirms, hvalid] at h
  apply Triple.bind (M := fun (found : Option OAuthResult) w => Drifted w₀ w ∧
    (found.isSome = true → w₀.hasLogin token.subject = true))
  · apply Triple.conseq (getLoginResult_drifted token.subject) (fun _ h => h.1)
    intro r w hr
    cases r with
    | error e => exact hr.1.vehicles
    | ok found =>
        refine ⟨hr.1, fun hsome => ?_⟩
        obtain ⟨result, rfl⟩ := Option.isSome_iff_exists.mp hsome
        exact hr.2 result rfl
  intro found
  cases found with
  | none => exact .done fun _ hw => hw.1.vehicles
  | some result =>
  dsimp only
  split
  · exact .done fun _ hw => hw.1.vehicles
  rename_i car hfound
  rw [base_bind]
  apply Triple.bind (M := fun (found : Option QrSession) w => Drifted w₀ w ∧
    w₀.hasLogin token.subject = true ∧
    ∀ q, found = some q → ∃ e, w₀.base.qrSessions.read w₀.base.now token.subject = some e ∧
      e.value = q)
  · apply Triple.conseq (ask_alone (P := fun w => Drifted w₀ w ∧
      w₀.hasLogin token.subject = true) (.qrSessions (.get token.subject)) rfl
      fun w w' hd h => ⟨h.1.drift hd, h.2⟩) (fun _ h => ⟨h.1, h.2 rfl⟩)
    intro r w hr
    cases r with
    | error e => exact hr.1.1.vehicles
    | ok found =>
        refine ⟨hr.1.1, hr.1.2, fun q hq => ?_⟩
        subst hq
        obtain ⟨e, he, hvalue⟩ := Option.map_eq_some_iff.mp (Except.ok.inj (hr.2 _ rfl))
        rw [hr.1.1.qrSessions] at he
        exact ⟨e, read_of_later hr.1.1.now he, hvalue⟩
  intro found
  cases found with
  | none => exact .done fun _ hw => hw.1.vehicles
  | some q =>
  dsimp only
  split
  · exact .done fun _ hw => hw.1.vehicles
  split
  · exact .done fun _ hw => hw.1.vehicles
  rename_i hstatus hvinHash
  intro w hw
  obtain ⟨hw, hlogin, hq⟩ := hw
  obtain ⟨e, he, rfl⟩ := hq q rfl
  have hshows : w₀.showsSession token.subject command.vinHash = true := by
    simpa [World.showsSession, he, hstatus] using hvinHash
  have huser : (get? User.userId token.userId w₀.base.users).isSome = false := by
    simpa [hlogin, hshows, hcar, hvin] using h
  exact bindVehicle_refused huser w hw

/-! ## Pre-notifications -/

theorem ask_answered (op : BaseOp α) {Q : Except PyError α → World → Prop}
    (hP : ∀ w w', (carPayIn rt).Drifts (.answered True) w w' → P w → P w')
    (h : ∀ w, P w → Q (w.base.exec op).1 { w with base := (w.base.exec op).2 }) :
    (carPayIn rt).Triple (.answered True) ((carPayIn rt).solo (.answered True) t) t P
      (base (ask op)) Q := by
  apply solo_perform hP
  intro w m r w' hw hm ho
  have hm : m = .answered := hm
  subst hm
  have ho : w.exec t (.base op) = some (r, w') := ho
  obtain ⟨rfl, rfl⟩ := exec_base ho
  exact h w hw

theorem Base.validateToken_error {b : Base} {token : BearerToken} {typ : TokenType} {code : String}
    {e : PyError} (h : b.validateToken token typ code = .error e) :
    e = .valueError "invalid_token" ∨ e = .valueError code := by
  unfold validateToken at h
  split at h
  · cases h
    exact .inl rfl
  · split_ifs at h <;> cases h <;> simp

/-- A car with a plate is not turned down for want of one. -/
theorem registers_of_hasPlate {carId : String} (h : w₀.hasPlate carId = true) :
    Registers rt carId w₀ := by
  intro t command claims r w' htoken hsubject hf
  have hdrift : ∀ w w', (carPayIn rt).Drifts (.answered True) w w' →
      w.base.vehicles = w₀.base.vehicles → w'.base.vehicles = w₀.base.vehicles := by
    intro w w' hd hw
    obtain ⟨x, -, he⟩ := hd
    obtain ⟨now, outside, scanned, -, hb⟩ := environment_base he
    rw [hb]
    exact hw
  have hkept : ∀ w w', (carPayIn rt).Drifts (.answered True) w w' → True → True :=
    fun _ _ _ h => h
  have htriple : (carPayIn rt).Triple (.answered True) ((carPayIn rt).solo (.answered True) t) t
      (fun w => w.base.vehicles = w₀.base.vehicles) (base (RegisterPreNotifyService.execute command))
      (fun r _ => r ≠ .error (.valueError "plate_not_registered")) := by
    unfold RegisterPreNotifyService.execute BaseService.validateAppToken
    simp only [Program.bind_eq, base_bind]
    apply Triple.bind (M := fun token w => w.base.vehicles = w₀.base.vehicles ∧
      token.subject = carId)
    · apply ask_answered _ hdrift
      intro w hw
      have hexec : (w.base.exec (.validateToken command.accessToken .appAccess "invalid_token")).1 =
          w.base.validateToken (.signed claims) .appAccess "invalid_token" := by
        rw [htoken]
        rfl
      rw [hexec]
      cases hvalid : w.base.validateToken (.signed claims) .appAccess "invalid_token" with
      | error e =>
          rcases Base.validateToken_error hvalid with he | he <;> simp [he]
      | ok token =>
          have hsigned : BearerToken.signed claims = .signed token := Base.validateToken_ok hvalid
          cases hsigned
          exact ⟨hw, hsubject⟩
    intro token
    apply Triple.bind (M := fun (found : Option Vehicle) _ => found.all (·.plate ≠ "") = true)
    · apply ask_answered _ fun w w' hd hw => ⟨hdrift w w' hd hw.1, hw.2⟩
      intro w hw
      obtain ⟨hrows, rfl⟩ := hw
      obtain ⟨plate, hplate, hsome⟩ := (Option.any_eq_true ..).mp h
      obtain ⟨v, hv, rfl⟩ := Option.map_eq_some_iff.mp hplate
      have hget : (w.base.exec (.getVehicleByCarId token.subject)).1 = .ok (some v) := by
        rw [← hv, ← hrows]
        rfl
      rw [hget]
      simpa using hsome
    intro found
    cases found with
    | none => exact .done fun _ _ => by simp
    | some v =>
    by_cases hplate : v.plate = ""
    · intro w hv
      simp [hplate] at hv
    dsimp only
    rw [if_neg hplate, base_bind]
    apply Triple.conseq (?_ : Triple _ _ _ _ (fun _ => True) _ _) (fun _ _ => trivial) fun _ _ h => h
    apply Triple.bind (M := fun _ _ => True)
    · unfold BaseService.hasActiveBillingKey
      rw [Program.bind_eq, base_bind]
      apply Triple.bind (M := fun _ _ => True)
      · exact ask_answered _ hkept fun _ _ => trivial
      · exact fun _ => .done fun _ _ => trivial
    intro active
    split
    · exact .done fun _ _ => by simp
    rw [base_bind]
    apply Triple.bind (M := fun _ _ => True)
    · exact ask_answered _ hkept fun _ _ => trivial
    intro _
    rw [base_bind]
    apply Triple.bind (M := fun _ _ => True)
    · exact ask_answered _ hkept fun _ _ => trivial
    · exact fun _ => .done fun _ _ => by simp
  exact wp_finishes (Q := fun r _ => r ≠ .error (.valueError "plate_not_registered")) hf
    (htriple w₀ rfl)

/-! ## Runs -/

def Unverified (s : Plating) : Prop := s.2 = []

/-- A car for which a card order has stored a plate keeps having one. -/
def verifying : Contract Plating Tid where
  invariant s := ∀ carId ∈ s.2, s.1.hasPlate carId = true
  guarantee _ s s' := (∀ carId ∈ s.2, s.1.hasPlate carId = true) →
    ∀ carId ∈ s'.2, s'.1.hasPlate carId = true
  environment s s' := s'.1.base.vehicles = s.1.base.vehicles ∧ s'.2 = s.2

theorem hasPlate_of_vehicles {carId : String} (h : w'.base.vehicles = w.base.vehicles) :
    w'.hasPlate carId = w.hasPlate carId := by
  unfold World.hasPlate World.plateOf Base.plate
  rw [h]

/-- A confirmation that the condition admits takes no plate away. -/
theorem hasPlate_upsertVehicle {b : Base} {userId carId : String} {car : Car}
    (hx : w.base.upsertVehicle userId car = .ok b)
    (hkeep : car.plate ≠ "" ∨ w.hasPlate car.carId = false) (h : w.hasPlate carId = true) :
    World.hasPlate { w with base := b } carId = true := by
  unfold World.hasPlate World.plateOf at h ⊢
  rw [Base.upsertVehicle_plate hx]
  by_cases hc : carId = car.carId
  · subst hc
    rcases hkeep with hsome | hnone
    · simpa using hsome
    · rw [World.hasPlate, World.plateOf, h] at hnone
      cases hnone
  · rwa [if_neg hc]

theorem hasPlate_updatePlate {b : Base} {carId carId' plate : String}
    (hx : w.base.updatePlate carId plate = .ok b) (hplate : plate ≠ "")
    (h : carId' = carId ∨ w.hasPlate carId' = true) :
    World.hasPlate { w with base := b } carId' = true := by
  unfold World.hasPlate World.plateOf at h ⊢
  rw [Base.updatePlate_plate hx]
  by_cases hc : carId' = carId
  · simpa [hc] using hplate
  · rw [if_neg hc]
    exact h.resolve_left hc

theorem upsertVehicle_user {b b' : Base} {userId : String} {car : Car}
    (h : b.upsertVehicle userId car = .ok b') : (get? User.userId userId b.users).isNone = false := by
  unfold Base.upsertVehicle at h
  split_ifs at h with huser
  · simpa [Option.isSome_iff_ne_none] using huser

theorem storedPlate_of_effect {op : Op β} (h : op.effect ≠ .vehicle) : op.storedPlate? = none := by
  unfold Op.storedPlate?
  split
  · exact (h rfl).elim
  · rfl

theorem exec_verified {s : Plating} {m : Mode PyError} {op : Op β} {r : Except PyError β}
    (hop : StoresNormal op) (hm : m.effective = true) (hkeep : keepsPlate op m s.1 = true)
    (he : s.1.exec t op = some (r, w')) (hi : ∀ carId ∈ s.2, s.1.hasPlate carId = true) :
    ∀ carId ∈ plateHistory t op r s.1 s.2, w'.hasPlate carId = true := by
  by_cases heffect : op.effect = .vehicle
  · cases op with
    | base op =>
        obtain ⟨hr, rfl⟩ := exec_base he
        cases op with
        | upsertVehicle userId car =>
            intro carId hmem
            have hplate := hi carId hmem
            show World.hasPlate { s.1 with
              base := (s.1.base.write (s.1.base.upsertVehicle userId car)).2 } carId = true
            cases hx : s.1.base.upsertVehicle userId car with
            | error e => exact hplate
            | ok b =>
                have hkeep : car.plate ≠ "" ∨ s.1.hasPlate car.carId = false := by
                  simpa [keepsPlate, hm, upsertVehicle_user hx] using hkeep
                exact hasPlate_upsertVehicle hx hkeep hplate
        | updatePlate carId plate =>
            intro carId' hmem
            have hr : (s.1.base.write (s.1.base.updatePlate carId plate)).1 = r := hr
            show World.hasPlate { s.1 with
              base := (s.1.base.write (s.1.base.updatePlate carId plate)).2 } carId' = true
            cases hx : s.1.base.updatePlate carId plate with
            | error e =>
                rw [hx] at hr
                subst hr
                exact hi carId' hmem
            | ok b =>
                rw [hx] at hr
                subst hr
                apply hasPlate_updatePlate hx hop.2
                rcases List.mem_cons.mp hmem with rfl | hmem
                · exact .inl rfl
                · exact .inr (hi carId' hmem)
        | qrSessions op | oauthStates op | oauthResults op | loginResults op | cardOrders op
        | preNotifies op | quotes op | entryRetries op => cases op <;> cases heffect
        | _ => cases heffect
    | _ => cases heffect
  · intro carId hmem
    rw [hasPlate_of_vehicles ((World.exec_frame he).vehicles heffect)]
    rw [plateHistory, storedPlate_of_effect heffect] at hmem
    exact hi carId hmem

theorem keeps_verified {op : Op β} (hop : StoresNormal op) :
    Keeps (platingSystem rt) verifiedPolicy.withHistory verifying t (fun _ => True) op := by
  intro s m r s' _ hi hp ho _
  refine ⟨fun _ => ?_, trivial⟩
  have hkeep : keepsPlate op m s.1 = true := hp
  rcases history_cases ho with ⟨rfl, he, hg⟩ | ⟨e, -, -, hs, hg⟩ | ⟨e, r₀, rfl, -, he, hg⟩
  · rw [hg]
    exact exec_verified hop rfl hkeep he hi
  · rw [hs, hg]
    exact hi
  · rw [hg]
    exact exec_verified hop rfl hkeep he hi

theorem carPayIn_verified (rt : Runtime) :
    (platingSystem rt).Meets verifiedPolicy.withHistory verifying Unverified .unknown := by
  refine Meets.of_state ?_ ?_ ?_ ?_
  · intro s hs carId hmem
    rw [show s.2 = [] from hs] at hmem
    cases hmem
  · rintro s s' hi (⟨t, hg⟩ | ⟨hrows, hsame⟩)
    · exact hg hi
    · intro carId hmem
      rw [hsame] at hmem
      rw [hasPlate_of_vehicles hrows]
      exact hi carId hmem
  · intro x s t p s' hstart
    obtain ⟨⟨t, p, w'⟩, hb, h⟩ := Option.map_eq_some_iff.mp hstart
    cases h
    refine ⟨⟨congrArg Base.vehicles (begin_spec hb).base, rfl⟩, ?_⟩
    have hcalls : p.Calls (Keeps (platingSystem rt) verifiedPolicy.withHistory verifying t
        fun _ => True) := (begin_storesNormal hb).mono fun op hop => keeps_verified hop
    exact Triple.calls hcalls (.const True) _ trivial
  · intro x s s' hmove
    obtain ⟨w', he, rfl⟩ := Option.map_eq_some_iff.mp hmove
    obtain ⟨now, outside, scanned, -, hb⟩ := environment_base he
    refine ⟨?_, rfl⟩
    rw [hb]

/-- In every run that writes no entry without a plate over a plate, a car for
which a card order has stored one has one, so no pre-notification misses it. And a
confirmation of such an entry keeps the plate exactly when it is turned down. -/
theorem verified_plate_kept (rt : Runtime) {c : Config Op PyError Reply Plating Tid}
    (hc : (platingSystem rt).Reachable verifiedPolicy.withHistory Unverified c)
    {carId : String} (hstored : carId ∈ c.state.2) :
    c.state.1.hasPlate carId = true ∧ Registers rt carId c.state.1 ∧
      ∀ t command claims, command.carId = carId → command.tempAccessToken = .signed claims →
        c.state.1.listsUnplated claims.subject carId = true →
          ((∀ r w', (carPayIn rt).Finishes Policy.any t
            (base (ConfirmVehicleService.execute rt command)) c.state.1 r w' →
              w'.plateOf carId = c.state.1.plateOf carId) ↔ c.state.1.confirms command = false) := by
  have hplate := ((carPayIn_verified rt).sound hc).1 carId hstored
  refine ⟨hplate, registers_of_hasPlate hplate, ?_⟩
  intro t command claims hcar htoken hlist
  subst hcar
  constructor
  · intro hkept
    by_contra hconfirms
    have hconfirms : c.state.1.confirms command = true := by simpa using hconfirms
    obtain ⟨r, w', hf, hlost⟩ := confirmation_unplates htoken hlist hconfirms
    have hsame := hkept r w' hf
    rw [hlost] at hsame
    simp [World.hasPlate, ← hsame] at hplate
  · intro hrefused r w' hf
    have hrows := wp_finishes (Q := fun _ w => w.base.vehicles = c.state.1.base.vehicles) hf
      (confirmation_refused hrefused c.state.1 (.refl _))
    unfold World.plateOf Base.plate
    rw [hrows]

/-! ## A car listed without a plate -/

def driveway : World :=
  { depot with base := { depot.base with
      outside := { hyundai with
        vehicleList := fun user => .ok [⟨user ++ "-car", "IONIQ 5", ""⟩] } } }

theorem driveway_unverified : Unverified (driveway, []) := rfl

namespace Driveway

open Garage

def verified : List Event := Depot.login 0 "anna" "login-1" "state-0" ++
  request 4 (.createCardOrder ⟨.signed ⟨.appAccess, "anna", "anna-car", 3600⟩, "12가3456", "", true⟩) 7

def loginAgain : List Event := request 5 (.createQrSession ⟨"login-2", "vin"⟩) 1 ++
  request 6 (.startHyundaiOAuth "login-2") 3 ++ request 7 (.hyundaiOAuthCallback ⟨"anna", "state-3"⟩) 12

def claims : TokenClaims := ⟨.tempAccess, "anna", "login-2", 900⟩

def confirmation : ConfirmVehicleCommand := ⟨.signed claims, "anna-car", "vin"⟩

end Driveway

theorem verified_plate_kept_driveway : ∃ c, (platingSystem plainRuntime).Reachable
    verifiedPolicy.withHistory Unverified c ∧ "anna-car" ∈ c.state.2 ∧
      c.state.1.hasPlate "anna-car" = true ∧ Registers plainRuntime "anna-car" c.state.1 := by
  have hrun : ((platingSystem plainRuntime).run verifiedPolicy.withHistory Driveway.verified
      (boot (driveway, []))).any (fun c => "anna-car" ∈ c.state.2) = true := by
    decide +kernel
  obtain ⟨c, hc, hstored⟩ := (platingSystem plainRuntime).exists_of_run hrun driveway_unverified
  have hstored := of_decide_eq_true hstored
  have hkept := verified_plate_kept plainRuntime hc hstored
  exact ⟨c, hc, hstored, hkept.1, hkept.2.1⟩

/-- The next login of the same user takes the plate of Anna's car away. -/
theorem verified_plate_lost : ¬∀ rt c,
    (platingSystem rt).Reachable Policy.any Unverified c → ∀ carId ∈ c.state.2,
      ∀ t command claims r w', command.carId = carId → command.tempAccessToken = .signed claims →
        c.state.1.base.vehicleExists claims.userId carId = true →
        c.state.1.listsUnplated claims.subject carId = true →
          (carPayIn rt).Finishes Policy.any t (base (ConfirmVehicleService.execute rt command))
            c.state.1 r w' → w'.plateOf carId = c.state.1.plateOf carId := by
  intro h
  have hrun : ((platingSystem plainRuntime).run Policy.any
      (Driveway.verified ++ Driveway.loginAgain) (boot (driveway, []))).any (fun c =>
        decide ("anna-car" ∈ c.state.2) && c.state.1.hasPlate "anna-car" &&
          c.state.1.base.vehicleExists "anna" "anna-car" &&
            c.state.1.listsUnplated "login-2" "anna-car" &&
              c.state.1.confirms Driveway.confirmation) = true := by
    decide +kernel
  obtain ⟨c, hc, htest⟩ := (platingSystem plainRuntime).exists_of_run hrun driveway_unverified
  simp only [Bool.and_eq_true, decide_eq_true_eq] at htest
  obtain ⟨⟨⟨⟨hstored, hplate⟩, howner⟩, hlist⟩, hconfirms⟩ := htest
  have hex : ∃ r w', (carPayIn plainRuntime).Finishes Policy.any (.pg 0)
      (base (ConfirmVehicleService.execute plainRuntime Driveway.confirmation)) c.state.1 r w' ∧
        w'.plateOf "anna-car" = some "" :=
    confirmation_unplates (show Driveway.confirmation.tempAccessToken = .signed Driveway.claims from rfl)
      hlist hconfirms
  obtain ⟨r, w', hf, hlost⟩ := hex
  have hsame := h _ c hc _ hstored _ _ _ r w' rfl rfl howner hlist hf
  rw [hlost] at hsame
  simp [World.hasPlate, ← hsame] at hplate

end CarPayIn
