import CarPayIn.Payments.Backing
import CarPayIn.Payments.Alone

/-! # Whose car list a confirmation is answered from

A temporary token names its user and its login session, but a login result is
stored under the session alone. The two belong together as long as all the
callbacks of a session that get as far as a token are of one user.
-/

namespace CarPayIn

open Process Process.System Store Service

variable {rt : Runtime} {t : Tid} {w w' : World} {b b' : Base} {P : World → Prop} {α : Type}

/-! ## The condition -/

/-- Every temporary token of the session was issued to this user. -/
def Base.tempTokensOf (b : Base) (userId sessionId : String) : Bool :=
  b.issuedTokens.all fun c => c.typ ≠ .tempAccess || c.subject ≠ sessionId || c.userId = userId

/-- No temporary token of a session is issued to a second user. -/
def oneUser {β : Type} (op : Op β) (m : Mode PyError) (w : World) : Bool :=
  match op with
  | .base (.issueToken .tempAccess userId sessionId _) =>
      !m.effective || w.base.tempTokensOf userId sessionId
  | _ => true

def oneUserPolicy : Policy Op PyError World Tid Start Env where
  start _ _ := True
  call _ _ op m w := oneUser op m w = true
  crash _ _ := True
  environment _ _ := True

instance : oneUserPolicy.Computable where
  start _ _ := .isTrue trivial
  call _ _ _ _ _ := inferInstanceAs (Decidable (_ = true))
  crash _ _ := .isTrue trivial
  environment _ _ := .isTrue trivial

/-! ## Logins and their tokens -/

def Base.Admitted (b : Base) (userId sessionId : String) : Prop :=
  ∃ c ∈ b.issuedTokens, c.typ = .tempAccess ∧ c.userId = userId ∧ c.subject = sessionId

/-- Both stores hold completed logins, and every login has its token. -/
structure LoginsBacked (b : Base) : Prop where
  oneUser : ∀ c ∈ b.issuedTokens, ∀ c' ∈ b.issuedTokens, c.typ = .tempAccess →
    c'.typ = .tempAccess → c.subject = c'.subject → c.userId = c'.userId
  stored : ∀ k e, b.oauthResults k = some e → (k, e.value) ∈ b.completedLogins
  polled : ∀ k e, b.loginResults k = some e → (k, e.value) ∈ b.completedLogins
  admitted : ∀ k r, (k, r) ∈ b.completedLogins → b.Admitted r.userId k

structure LoginsKept (b b' : Base) : Prop where
  tokens : b.issuedTokens ⊆ b'.issuedTokens
  logins : b.completedLogins ⊆ b'.completedLogins

theorem LoginsKept.refl (b : Base) : LoginsKept b b := ⟨fun _ h => h, fun _ h => h⟩

theorem LoginsKept.admitted {userId sessionId : String} (hk : LoginsKept b b')
    (h : b.Admitted userId sessionId) : b'.Admitted userId sessionId := by
  obtain ⟨c, hc, hclaims⟩ := h
  exact ⟨c, hk.tokens hc, hclaims⟩

structure LoginStep (b b' : Base) : Prop where
  kept : LoginsKept b b'
  backed : LoginsBacked b → LoginsBacked b'

theorem LoginStep.of_same (htokens : b'.issuedTokens = b.issuedTokens)
    (hlogins : b'.completedLogins = b.completedLogins)
    (hstored : b'.oauthResults = b.oauthResults) (hpolled : b'.loginResults = b.loginResults) :
    LoginStep b b' := by
  constructor
  · constructor
    · rw [htokens]
      exact fun _ h => h
    · rw [hlogins]
      exact fun _ h => h
  · intro hb
    constructor
    · rw [htokens]
      exact hb.oneUser
    · rw [hstored, hlogins]
      exact hb.stored
    · rw [hpolled, hlogins]
      exact hb.polled
    · unfold Base.Admitted
      rw [hlogins, htokens]
      exact hb.admitted

theorem LoginStep.refl (b : Base) : LoginStep b b := .of_same rfl rfl rfl rfl

/-- A token is issued; a temporary one to the user of its session. -/
theorem LoginStep.issueToken {typ : TokenType} {userId subject : String} {ttlSeconds : Nat}
    (hone : typ = .tempAccess → b.tempTokensOf userId subject = true) :
    LoginStep b (b.issueToken typ userId subject ttlSeconds).2 := by
  have hkept : LoginsKept b (b.issueToken typ userId subject ttlSeconds).2 :=
    ⟨List.subset_cons_self _ _, fun _ h => h⟩
  have hold : ∀ c ∈ b.issuedTokens, typ = .tempAccess → c.typ = .tempAccess →
      c.subject = subject → c.userId = userId := by
    intro c hc htyp hctyp hsubject
    have hof := List.all_eq_true.mp (hone htyp) c hc
    simpa [hctyp, hsubject] using hof
  refine ⟨hkept, fun hb => ?_⟩
  constructor
  · intro c hc c' hc' htyp htyp' hsubject
    rcases List.mem_cons.mp hc with rfl | hc
    · rcases List.mem_cons.mp hc' with rfl | hc'
      · rfl
      · exact (hold c' hc' htyp htyp' hsubject.symm).symm
    · rcases List.mem_cons.mp hc' with rfl | hc'
      · exact hold c hc htyp' htyp hsubject
      · exact hb.oneUser c hc c' hc' htyp htyp' hsubject
  · exact hb.stored
  · exact hb.polled
  · exact fun k r hr => hkept.admitted (hb.admitted k r hr)

/-- Every entry of a cache in which one was written is an old one or the new one. -/
theorem entries_update {ν : Type} {c : Cache String ν} {Q : String → ν → Prop} {key : String}
    {x : Option (Entry ν)} (hold : ∀ k e, c k = some e → Q k e.value)
    (hnew : ∀ e, x = some e → Q key e.value) :
    ∀ k e, Function.update c key x k = some e → Q k e.value := by
  intro k e he
  by_cases hk : k = key
  · subst hk
    rw [Function.update_self] at he
    exact hnew e he
  · rw [Function.update_of_ne hk] at he
    exact hold k e he

theorem LoginStep.store {sessionId : String} {result : OAuthResult} {expiresAt : Option Nat}
    (hadmitted : b.Admitted result.userId sessionId) : LoginStep b
      { b with
        oauthResults := Function.update b.oauthResults sessionId (some ⟨result, expiresAt⟩)
        completedLogins := (sessionId, result) :: b.completedLogins } := by
  have hlogins : b.completedLogins ⊆ (sessionId, result) :: b.completedLogins :=
    List.subset_cons_self _ _
  refine ⟨⟨fun _ h => h, hlogins⟩, fun hb => ?_⟩
  constructor
  · exact hb.oneUser
  · apply entries_update (Q := fun k r => (k, r) ∈ (sessionId, result) :: b.completedLogins)
    · exact fun k e he => hlogins (hb.stored k e he)
    · intro e he
      cases he
      exact .head _
  · exact fun k e he => hlogins (hb.polled k e he)
  · intro k r hr
    rcases List.mem_cons.mp hr with hnew | hold
    · cases hnew
      exact hadmitted
    · exact hb.admitted k r hold

theorem LoginStep.poll {sessionId : String} {x : Option (Entry OAuthResult)}
    (hlogged : ∀ e, x = some e → (sessionId, e.value) ∈ b.completedLogins) :
    LoginStep b { b with loginResults := Function.update b.loginResults sessionId x } := by
  refine ⟨⟨fun _ h => h, fun _ h => h⟩, fun hb => ⟨hb.oneUser, hb.stored, ?_, hb.admitted⟩⟩
  exact entries_update (Q := fun k r => (k, r) ∈ b.completedLogins) hb.polled hlogged

/-! ## The contract -/

def loggingIn : Contract World Tid where
  invariant w := LoginsBacked w.base
  guarantee _ w w' := LoginStep w.base w'.base
  environment w w' := LoginStep w.base w'.base

/-- What tokens and logins decide for good. -/
def Recorded (P : World → Prop) : Prop := ∀ w w', LoginsKept w.base w'.base → P w → P w'

theorem Recorded.stable (hP : Recorded P) : loggingIn.Stable t P := by
  intro w w' hi hw
  rcases hi.2.2 with ⟨t', -, hg⟩ | he
  · exact hP w w' hg.kept hw
  · exact hP w w' he.kept hw

theorem recorded_true : Recorded fun _ => True := fun _ _ _ h => h

theorem recorded_admitted (userId sessionId : String) :
    Recorded fun w => w.base.Admitted userId sessionId := fun _ _ hk h => hk.admitted h

theorem recorded_login (login : String × OAuthResult) :
    Recorded fun w => login ∈ w.base.completedLogins := fun _ _ hk h => hk.logins h

abbrev LoggingIn (rt : Runtime) (t : Tid) (P : World → Prop) (p : Service α)
    (Q : Except PyError α → World → Prop) : Prop :=
  (carPayIn rt).Triple oneUserPolicy loggingIn t P p Q

/-! ## The calls -/

theorem outcome_loginStep {op : Op α} {m : Mode PyError} {r : Except PyError α}
    (hexec : ∀ r₀, m.effective = true → w.exec t op = some (r₀, w') → LoginStep w.base w'.base)
    (ho : (carPayIn rt).outcome t op m w = some (r, w')) : LoginStep w.base w'.base := by
  rcases (carPayIn rt).outcome_cases ho with ⟨rfl, h⟩ | ⟨e, -, -, rfl⟩ | ⟨e, r₀, rfl, -, h⟩
  · exact hexec _ rfl h
  · exact .refl _
  · exact hexec _ rfl h

theorem unstored_loginStep {op : Op α} (hstored : op.effect ≠ .oauthResult)
    (hpolled : op.effect ≠ .loginResult) {m : Mode PyError} {r : Except PyError α}
    (hp : oneUser op m w = true) (ho : (carPayIn rt).outcome t op m w = some (r, w')) :
    LoginStep w.base w'.base := by
  apply outcome_loginStep ?_ ho
  intro r₀ heff h
  have hf := World.exec_frame h
  by_cases htoken : op.effect = .token
  · cases op with
    | base op =>
        cases op with
        | issueToken typ userId subject ttlSeconds =>
            cases h
            apply LoginStep.issueToken
            intro htyp
            subst htyp
            simpa [oneUser, heff] using hp
        | _ => simp [Op.effect] at htoken
    | _ => simp [Op.effect] at htoken
  · exact .of_same (hf.issuedTokens htoken) (hf.completedLogins hstored) (hf.oauthResults hstored)
      (hf.loginResults hpolled)

theorem unstored_program (es : List Effect) {p : Service α} (hp : ServiceEffects es p)
    (hstored : .oauthResult ∉ .nothing :: es) (hpolled : .loginResult ∉ .nothing :: es)
    (hP : Recorded P) : LoggingIn rt t P p (fun _ => P) := by
  apply Triple.calls ?_ hP.stable
  apply Program.Calls.mono hp
  intro β op hop w m r w' hw _ hpol ho _
  have hstep : LoginStep w.base w'.base := by
    apply unstored_loginStep ?_ ?_ hpol ho
    · exact fun he => hstored (he ▸ hop)
    · exact fun he => hpolled (he ▸ hop)
  exact ⟨hstep, hP w w' hstep.kept hw⟩

/-! ## The callback -/

theorem issueToken_loggingIn (userId sessionId : String) (ttlSeconds : Nat) :
    LoggingIn rt t (fun _ => True)
      (base (ask (.issueToken .tempAccess userId sessionId ttlSeconds)))
      (fun r w => ∀ token, r = .ok token → w.base.Admitted userId sessionId) := by
  apply Triple.perform (.const True)
  intro w m r w' _ _ hp ho
  refine ⟨unstored_loginStep (by simp [Op.effect]) (by simp [Op.effect]) hp ho, ?_⟩
  intro token hr
  subst hr
  obtain ⟨-, rfl⟩ := base_ok ho
  exact ⟨_, .head _, rfl, rfl, rfl⟩

theorem saveResult_loggingIn (sessionId : String) (result : OAuthResult) (ttlSeconds : Nat) :
    LoggingIn rt t (fun w => w.base.Admitted result.userId sessionId)
      (base (save .oauthResults sessionId result ttlSeconds))
      (fun r w => ∀ u, r = .ok u → (sessionId, result) ∈ w.base.completedLogins) := by
  apply Triple.perform (recorded_admitted result.userId sessionId).stable
  intro w m r w' hadmitted _ _ ho
  constructor
  · apply outcome_loginStep ?_ ho
    intro r₀ _ h
    cases h
    exact .store hadmitted
  · intro u hr
    subst hr
    obtain ⟨-, rfl⟩ := base_ok ho
    exact .head _

theorem saveLogin_loggingIn (sessionId : String) (result : OAuthResult) (ttlSeconds : Nat) :
    LoggingIn rt t (fun w => (sessionId, result) ∈ w.base.completedLogins)
      (base (save .loginResults sessionId result ttlSeconds)) (fun _ _ => True) := by
  apply Triple.perform (recorded_login (sessionId, result)).stable
  intro w m r w' hlogin _ _ ho
  refine ⟨outcome_loginStep ?_ ho, trivial⟩
  intro r₀ _ h
  cases h
  apply LoginStep.poll
  intro e he
  cases he
  exact hlogin

/-- The token comes before the login, and the login before what the app polls. -/
theorem complete_loggingIn (state sessionId userId name : String) (cars : List Car) :
    LoggingIn rt t (fun _ => True)
      (base (HandleHyundaiOAuthCallbackService.complete state sessionId userId name cars))
      (fun _ _ => True) := by
  unfold HandleHyundaiOAuthCallbackService.complete
  simp only [Program.bind_eq, base_bind]
  apply Triple.bind (M := fun _ w => w.base.Admitted userId sessionId)
  · apply Triple.conseq (issueToken_loggingIn userId sessionId _) (fun _ h => h)
    intro r w hr
    cases r with
    | ok token => exact hr token rfl
    | error e => trivial
  intro tempAccessToken
  apply Triple.seq (unstored_program [.user] (base_effects (ask_effects (by simp))) (by decide)
    (by decide) (recorded_admitted userId sessionId))
  · exact fun _ _ _ => trivial
  intro _
  apply Triple.bind (M := fun _ w =>
    (sessionId, ⟨userId, name, cars, tempAccessToken⟩) ∈ w.base.completedLogins)
  · apply Triple.conseq (saveResult_loggingIn sessionId ⟨userId, name, cars, tempAccessToken⟩ _)
      (fun _ h => h)
    intro r w hr
    cases r with
    | ok u => exact hr u rfl
    | error e => trivial
  intro _
  apply Triple.bind (M := fun _ _ => True)
  · apply Triple.conseq (saveLogin_loggingIn sessionId _ _) (fun _ h => h)
    intro r w _
    cases r with
    | ok u => trivial
    | error e => trivial
  intro _
  rw [← base_bind]
  apply unstored_program [.oauthState] ?_ (by decide) (by decide) recorded_true
  apply base_effects
  apply Program.Calls.bind
  · apply update_calls <;> simp
  · exact fun _ => trivial

/-- A callback is some calls about its QR session and then its last part. -/
theorem hyundaiOAuthCallback_parts {σ : Type} {S : System Op PyError Reply σ Tid Start Env}
    {π : Policy Op PyError σ Tid Start Env} {R : Contract σ Tid}
    (command : HandleHyundaiOAuthCallbackCommand)
    (hother : ∀ {β : Type} {p : BaseService β}, Effects [.qrSession] p →
      S.Triple π R t (fun _ => True) (base p) (fun _ _ => True))
    (hcomplete : ∀ sessionId userId name cars, S.Triple π R t (fun _ => True)
      (base (HandleHyundaiOAuthCallbackService.complete command.state sessionId userId name cars))
      (fun _ _ => True)) :
    S.Triple π R t (fun _ => True) (base (HandleHyundaiOAuthCallbackService.execute command))
      (fun _ _ => True) := by
  unfold HandleHyundaiOAuthCallbackService.execute
  split
  · exact .done fun _ h => h
  split
  · exact .done fun _ h => h
  simp only [Program.bind_eq, base_bind]
  apply Triple.seq (hother ?_) (fun _ _ h => h)
  · intro found
    cases found with
    | none => exact .done fun _ h => h
    | some sessionId =>
        dsimp only
        split
        · exact .done fun _ h => h
        rw [base_bind]
        apply Triple.seq (hother (ask_effects (by simp))) (fun _ _ h => h)
        intro found
        cases found with
        | none => exact .done fun _ h => h
        | some qrSession =>
            dsimp only
            split
            · exact .done fun _ h => h
            rw [base_bind]
            apply Triple.seq (hother ?_) (fun _ _ h => h)
            · exact fun ⟨userId, name, cars⟩ => hcomplete sessionId userId name cars
            · apply Program.Calls.tryCatch
              · exact fetchProfile_effects _
              · intro exc
                apply Program.Calls.bind
                · exact markFailed_effects _ _
                · exact fun _ => trivial
  · apply Program.Calls.bind
    · exact ask_effects (by simp)
    · intro found
      cases found with
      | none => trivial
      | some s => trivial

/-- Before its last part a callback stores no login. -/
theorem hyundaiOAuthCallback_loggingIn (command : HandleHyundaiOAuthCallbackCommand) :
    LoggingIn rt t (fun _ => True) (base (HandleHyundaiOAuthCallbackService.execute command))
      (fun _ _ => True) :=
  hyundaiOAuthCallback_parts command
    (fun hp => unstored_program [.qrSession] (base_effects hp) (by decide) (by decide) recorded_true)
    (complete_loggingIn command.state)

/-! ## The confirmation -/

/-- The token is a temporary one, and its user has completed this login for its session. -/
structure LoggedInAs (token : BearerToken) (claims : TokenClaims) (login : OAuthResult) (w : World) :
    Prop where
  token : token = .signed claims
  temporary : claims.typ = .tempAccess
  completed : (claims.subject, login) ∈ w.base.completedLogins
  user : login.userId = claims.userId

/-- The confirmed car is in the list of a login of the token's session that was
completed by the token's user. -/
def World.OwnCar (w : World) (command : ConfirmVehicleCommand) : Prop :=
  ∃ claims login, LoggedInAs command.tempAccessToken claims login w ∧
    ∃ car ∈ login.cars, car.carId = command.carId

theorem recorded_ownCar (command : ConfirmVehicleCommand) : Recorded fun w => w.OwnCar command := by
  intro w w' hk ⟨claims, login, hlogin, hcar⟩
  exact ⟨claims, login, ⟨hlogin.token, hlogin.temporary, hk.logins hlogin.completed, hlogin.user⟩, hcar⟩

def Holds (token : BearerToken) (claims : TokenClaims) (w : World) : Prop :=
  token = .signed claims ∧ claims.typ = .tempAccess ∧ claims ∈ w.base.issuedTokens

theorem recorded_holds (token : BearerToken) (claims : TokenClaims) :
    Recorded (Holds token claims) := fun _ _ hk h => ⟨h.1, h.2.1, hk.tokens h.2.2⟩

theorem holds_of_validateToken {token : BearerToken} {claims : TokenClaims} {expiredCode : String}
    (h : w.base.validateToken token .tempAccess expiredCode = .ok claims) :
    Holds token claims w := by
  unfold Base.validateToken at h
  split at h
  · cases h
  · rename_i claims'
    split_ifs at h with hissued htyp hexp
    cases h
    exact ⟨rfl, by simpa using htyp, by simpa using hissued⟩

theorem validateToken_loggingIn (token : BearerToken) (expiredCode : String) :
    LoggingIn rt t (fun _ => True) (base (ask (.validateToken token .tempAccess expiredCode)))
      (fun r w => ∀ claims, r = .ok claims → Holds token claims w) := by
  apply Triple.perform (.const True)
  intro w m r w' _ _ hp ho
  refine ⟨unstored_loginStep (by simp [Op.effect]) (by simp [Op.effect]) hp ho, ?_⟩
  intro claims hr
  subst hr
  obtain ⟨hvalid, rfl⟩ := base_ok ho
  exact holds_of_validateToken hvalid

theorem loggedInAs_of_holds {token : BearerToken} {claims : TokenClaims} {login : OAuthResult}
    (hw : LoginsBacked w.base) (h : Holds token claims w)
    (hlogin : (claims.subject, login) ∈ w.base.completedLogins) :
    LoggedInAs token claims login w := by
  obtain ⟨c, hc, htyp, huser, hsubject⟩ := hw.admitted _ _ hlogin
  obtain ⟨htoken, htyp', hissued⟩ := h
  have hone : c.userId = claims.userId := hw.oneUser c hc claims hissued htyp htyp' hsubject
  exact ⟨htoken, htyp', hlogin, huser.symm.trans hone⟩

/-- Whatever store it is found in, a login result is one of the token's user. -/
theorem getLoginResult_loggingIn (token : BearerToken) (claims : TokenClaims) :
    LoggingIn rt t (Holds token claims)
      (base (ConfirmVehicleService.getLoginResult claims.subject))
      (fun r w => ∀ login, r = .ok (some login) → LoggedInAs token claims login w) := by
  unfold ConfirmVehicleService.getLoginResult
  simp only [Program.bind_eq, base_bind]
  apply Triple.bind (M := fun found w =>
    Holds token claims w ∧ ∀ login, found = some login → LoggedInAs token claims login w)
  · apply Triple.perform (recorded_holds token claims).stable
    intro w m r w' hholds hw hp ho
    refine ⟨unstored_loginStep (by simp [Op.effect]) (by simp [Op.effect]) hp ho, ?_⟩
    cases r with
    | error e => exact fun login h => by cases h
    | ok found =>
        obtain ⟨hread, rfl⟩ := base_ok ho
        refine ⟨hholds, fun login hlogin => ?_⟩
        have hfound : (w.base.oauthResults.read w.base.now claims.subject).map (·.value) =
            some login := (Except.ok.inj hread).trans hlogin
        obtain ⟨e, he, rfl⟩ := Option.map_eq_some_iff.mp hfound
        exact loggedInAs_of_holds hw hholds (hw.stored _ e (Cache.read_eq_some.mp he).1)
  · intro found
    cases found with
    | some result => exact .done fun w hw login h => hw.2 login (Except.ok.inj h)
    | none =>
        apply Triple.conseq ?_ (fun w hw => hw.1) (fun _ _ h => h)
        apply Triple.perform (recorded_holds token claims).stable
        intro w m r w' hholds hw hp ho
        refine ⟨unstored_loginStep (by simp [Op.effect]) (by simp [Op.effect]) hp ho, ?_⟩
        intro login hr
        subst hr
        obtain ⟨hread, rfl⟩ := base_ok ho
        obtain ⟨e, he, rfl⟩ := Option.map_eq_some_iff.mp (Except.ok.inj hread)
        exact loggedInAs_of_holds hw hholds (hw.polled _ e (Cache.read_eq_some.mp he).1)

theorem bindVehicle_loggingIn (sessionId userId name carId : String) (car : Car)
    (hP : Recorded P) : LoggingIn rt t P
      (base (ConfirmVehicleService.bindVehicle rt sessionId userId name carId car))
      (fun _ => P) := by
  have hother {β : Type} {p : BaseService β} (hp : Effects [.vehicle, .token, .draw, .refreshToken] p) :
      LoggingIn rt t P (base p) (fun _ => P) :=
    unstored_program _ (base_effects hp) (by decide) (by decide) hP
  unfold ConfirmVehicleService.bindVehicle
  simp only [Program.bind_eq, base_bind]
  apply Triple.seq (hother (ask_effects (by simp))) (fun _ _ h => h)
  intro _
  apply Triple.seq (hother (ask_effects (by simp))) (fun _ _ h => h)
  intro accessToken
  apply Triple.seq (hother ((randomText_effects _).mono (by decide))) (fun _ _ h => h)
  intro refreshToken
  apply Triple.seq (hother (ask_effects (by simp))) (fun _ _ h => h)
  intro _
  apply Triple.seq
  · apply Triple.perform hP.stable
    intro w m r w' hw _ _ ho
    have hstep : LoginStep w.base w'.base := by
      apply outcome_loginStep ?_ ho
      intro r₀ _ h
      cases h
      apply LoginStep.poll
      intro e he
      cases he
    exact ⟨hstep, hP w w' hstep.kept hw⟩
  · exact fun _ _ h => h
  · exact fun _ => .done fun _ h => h

theorem findCar_mem {cars : List Car} {carId : String} {car : Car}
    (h : ConfirmVehicleService.findCar cars carId = some car) : car ∈ cars ∧ car.carId = carId := by
  unfold ConfirmVehicleService.findCar at h
  exact ⟨List.mem_of_find?_eq_some h, by simpa using List.find?_some h⟩

theorem confirmVehicle_loggingIn (command : ConfirmVehicleCommand) :
    LoggingIn rt t (fun _ => True) (base (ConfirmVehicleService.execute rt command))
      (fun r w => ∀ result, r = .ok result → w.OwnCar command) := by
  have hraise (e : PyError) (w : World) :
      ∀ result, (.error e : Except PyError ConfirmVehicleResult) = .ok result → w.OwnCar command :=
    fun result h => by cases h
  unfold ConfirmVehicleService.execute
  split
  · exact .done fun w _ => hraise _ w
  split
  · exact .done fun w _ => hraise _ w
  split
  · exact .done fun w _ => hraise _ w
  simp only [Program.bind_eq, base_bind]
  apply Triple.bind (M := Holds command.tempAccessToken)
  · apply Triple.conseq (validateToken_loggingIn command.tempAccessToken _) (fun _ h => h)
    intro r w hr
    cases r with
    | ok claims => exact hr claims rfl
    | error e => exact hraise e w
  intro claims
  apply Triple.bind (M := fun found w => ∀ login, found = some login →
    LoggedInAs command.tempAccessToken claims login w)
  · apply Triple.conseq (getLoginResult_loggingIn command.tempAccessToken claims) (fun _ h => h)
    intro r w hr
    cases r with
    | ok found => exact fun login h => hr login (by rw [h])
    | error e => exact hraise e w
  intro found
  cases found with
  | none => exact .done fun w _ => hraise _ w
  | some login =>
      dsimp only
      cases hcar : ConfirmVehicleService.findCar login.cars command.carId with
      | none => exact .done fun w _ => hraise _ w
      | some car =>
          have hown : ∀ w, (∀ login', some login = some login' →
              LoggedInAs command.tempAccessToken claims login' w) → w.OwnCar command :=
            fun w hw => ⟨claims, login, hw login rfl, car, findCar_mem hcar⟩
          have hrecorded := recorded_ownCar command
          apply Triple.conseq ?_ hown (fun _ _ h => h)
          rw [base_bind]
          apply Triple.seq (unstored_program [] (base_effects (ask_effects (by simp))) (by decide)
            (by decide) hrecorded)
          · exact fun e w _ => hraise e w
          intro found
          cases found with
          | none => exact .done fun w _ => hraise _ w
          | some qrSession =>
              dsimp only
              split
              · exact .done fun w _ => hraise _ w
              split
              · exact .done fun w _ => hraise _ w
              exact Triple.conseq (bindVehicle_loggingIn _ _ _ _ car hrecorded) (fun _ h => h)
                fun r w hw result _ => hw

/-! ## Runs -/

def World.LoggedOut (w : World) : Prop :=
  (∀ c ∈ w.base.issuedTokens, c.typ ≠ .tempAccess) ∧ w.base.completedLogins = [] ∧
    (∀ k, w.base.oauthResults k = none) ∧ ∀ k, w.base.loginResults k = none

def confirmations : Outline PyError Reply World Tid where
  idle _ _ := True
  ended t r w := match t, r with
    | .backend _ (.confirmVehicle command), .ok (.vehicle _) => w.OwnCar command
    | _, _ => True
  stopped _ _ := True

theorem recorded_confirmations (t : Tid) (r : Except PyError Reply) :
    Recorded (confirmations.ended t r) := by
  intro w w' hk h
  unfold confirmations at h ⊢
  dsimp only at h ⊢
  split
  · exact recorded_ownCar _ w w' hk h
  · trivial

theorem begin_loggingIn {x : Start} {p : Service Reply} (h : w.begin rt x = some (t, p, w')) :
    p.wp ((carPayIn rt).spec oneUserPolicy loggingIn t) (confirmations.ended t) w' := by
  have hother (hstored : Effect.oauthResult ∉ .nothing :: t.effects)
      (hpolled : Effect.loginResult ∉ .nothing :: t.effects)
      (hended : ∀ r w, confirmations.ended t r w) :
      p.wp ((carPayIn rt).spec oneUserPolicy loggingIn t) (confirmations.ended t) w' :=
    (unstored_program _ (begin_spec h).effects hstored hpolled recorded_true).conseq (fun _ h => h)
      (fun r w _ => hended r w) w' trivial
  cases x with
  | pg id | card id =>
      obtain ⟨y, -, h⟩ := Option.map_eq_some_iff.mp h
      cases h
      exact hother (by simp [Tid.effects]) (by simp [Tid.effects]) fun _ _ => trivial
  | backend n request =>
      cases h
      cases request with
      | hyundaiOAuthCallback command =>
          show Program.wp _ (base (Reply.login <$> HandleHyundaiOAuthCallbackService.execute command)) _ w
          rw [base_map]
          apply Triple.map (P := fun _ => True) ?_ w trivial
          exact Triple.conseq (hyundaiOAuthCallback_loggingIn command) (fun _ h => h)
            fun _ _ _ => trivial
      | confirmVehicle command =>
          show Program.wp _ (base (Reply.vehicle <$> ConfirmVehicleService.execute rt command)) _ w
          rw [base_map]
          apply Triple.map (P := fun _ => True) ?_ w trivial
          apply Triple.conseq (confirmVehicle_loggingIn command) (fun _ h => h)
          intro r w hr
          cases r with
          | ok result => exact hr result rfl
          | error e => trivial
      | _ =>
          exact hother (by simp [Tid.effects, Request.effects]) (by simp [Tid.effects, Request.effects])
            fun _ _ => trivial

theorem carPayIn_logins (rt : Runtime) :
    (carPayIn rt).Meets oneUserPolicy loggingIn World.LoggedOut confirmations where
  init w hw := by
    obtain ⟨htokens, hlogins, hstored, hpolled⟩ := hw
    refine ⟨?_, fun _ => trivial⟩
    constructor
    · exact fun c hc _ _ htyp => (htokens c hc htyp).elim
    · exact fun k e he => by simp [hstored k] at he
    · exact fun k e he => by simp [hpolled k] at he
    · exact fun k r hr => by simp [hlogins] at hr
  moves w w' hi hm := by
    rcases hm with ⟨t, hg⟩ | he
    · exact hg.backed hi
    · exact he.backed hi
  idle_stable t := .const True
  ended_stable t r := (recorded_confirmations t r).stable
  stopped_stable t := .const True
  start x w t p w' _ hb _ _ := by
    refine ⟨?_, fun _ => begin_loggingIn hb⟩
    show LoginStep w.base w'.base
    rw [(begin_spec hb).base]
    exact .refl _
  crash _ _ _ := trivial
  environment x w w' he _ := by
    obtain ⟨now, outside, scanned, -, hb⟩ := environment_base he
    show LoginStep w.base w'.base
    rw [hb]
    exact .of_same rfl rfl rfl rfl

/-- A car is confirmed from a list that Hyundai has returned to its own user, as
long as no temporary token of a session is issued to a second user. -/
theorem confirmed_car_own (rt : Runtime) {c : Config Op PyError Reply World Tid}
    (hc : (carPayIn rt).Reachable oneUserPolicy World.LoggedOut c) {n : Nat}
    {command : ConfirmVehicleCommand} {result : ConfirmVehicleResult}
    (hended : c.pool (.backend n (.confirmVehicle command)) = .ended (.ok (.vehicle result))) :
    c.state.OwnCar command := by
  have hA := ((carPayIn_logins rt).sound hc).2 (.backend n (.confirmVehicle command))
  rw [hended] at hA
  exact hA

/-- Hyundai takes a code for its user, who has one car. -/
def hyundai : Outside :=
  { garageOutside with
    exchangeCode := fun code => .ok code
    userProfile := fun accessToken => .ok (accessToken, accessToken)
    vehicleList := fun accessToken => .ok [⟨accessToken ++ "-car", "IONIQ 5", accessToken⟩] }

def showroom : World :=
  { garage with base := { garage.base with issuedTokens := [], outside := hyundai } }

theorem showroom_loggedOut : showroom.LoggedOut := by
  refine ⟨?_, rfl, fun _ => rfl, fun _ => rfl⟩
  intro c hc
  cases hc

namespace Showroom

open Garage

def scanned : List Event :=
  request 0 (.createQrSession ⟨"login-1", "vin"⟩) 1 ++
    request 1 (.startHyundaiOAuth "login-1") 3 ++ request 2 (.startHyundaiOAuth "login-1") 3

def callback (n : Nat) (user state : String) : List Event :=
  request n (.hyundaiOAuthCallback ⟨user, state⟩) 12

def confirmation (user carId : String) : ConfirmVehicleCommand :=
  ⟨.signed ⟨.tempAccess, user, "login-1", 900⟩, carId, "vin"⟩

def confirm (n : Nat) (command : ConfirmVehicleCommand) : List Event :=
  request n (.confirmVehicle command) 8

def confirmed? (c : Config Op PyError Reply World Tid) (n : Nat) (command : ConfirmVehicleCommand) :
    Option ConfirmVehicleResult :=
  match c.pool (.backend n (.confirmVehicle command)) with
  | .ended (.ok (.vehicle result)) => some result
  | _ => none

theorem ended_of_confirmed {c : Config Op PyError Reply World Tid} {n : Nat}
    {command : ConfirmVehicleCommand} (h : (confirmed? c n command).isSome = true) : ∃ result,
      c.pool (.backend n (.confirmVehicle command)) = .ended (.ok (.vehicle result)) := by
  unfold confirmed? at h
  split at h
  · rename_i result hended
    exact ⟨result, hended⟩
  · cases h

end Showroom

theorem confirmed_car_own_showroom : ∃ c, (carPayIn plainRuntime).Reachable oneUserPolicy
    World.LoggedOut c ∧ (Showroom.confirmed? c 4 (Showroom.confirmation "anna" "anna-car")).isSome ∧
      c.state.OwnCar (Showroom.confirmation "anna" "anna-car") := by
  have hrun : ((carPayIn plainRuntime).run oneUserPolicy (Showroom.scanned ++
      Showroom.callback 3 "anna" "state-1" ++
        Showroom.confirm 4 (Showroom.confirmation "anna" "anna-car")) (boot showroom)).any (fun c =>
          (Showroom.confirmed? c 4 (Showroom.confirmation "anna" "anna-car")).isSome) = true := by
    decide +kernel
  obtain ⟨c, hc, hsome⟩ := (carPayIn plainRuntime).exists_of_run hrun showroom_loggedOut
  obtain ⟨result, hended⟩ := Showroom.ended_of_confirmed hsome
  exact ⟨c, hc, hsome, confirmed_car_own plainRuntime hc hended⟩

/-- Two users complete the same session, and the first one's token confirms the
second one's car. -/
theorem confirmed_car_of_other : ¬∀ rt c, (carPayIn rt).Reachable Policy.any World.LoggedOut c →
    ∀ n command result, c.pool (.backend n (.confirmVehicle command)) =
      .ended (.ok (.vehicle result)) → c.state.OwnCar command := by
  intro h
  have hrun : ((carPayIn plainRuntime).run Policy.any (Showroom.scanned ++
      Showroom.callback 3 "anna" "state-1" ++ Showroom.callback 4 "ben" "state-2" ++
        Showroom.confirm 5 (Showroom.confirmation "anna" "ben-car")) (boot showroom)).any (fun c =>
          (Showroom.confirmed? c 5 (Showroom.confirmation "anna" "ben-car")).isSome &&
            c.state.base.completedLogins.all fun login =>
              login.2.userId ≠ "anna" || login.2.cars.all fun car => car.carId ≠ "ben-car") = true := by
    decide +kernel
  obtain ⟨c, hc, htest⟩ := (carPayIn plainRuntime).exists_of_run hrun showroom_loggedOut
  obtain ⟨hsome, hlists⟩ := (Bool.and_eq_true ..).mp htest
  obtain ⟨result, hended⟩ := Showroom.ended_of_confirmed hsome
  obtain ⟨claims, login, hlogin, car, hcar, hid⟩ := h _ c hc _ _ result hended
  have huser : login.userId = "anna" := by
    rw [hlogin.user]
    have htoken := hlogin.token
    cases htoken
    rfl
  have hnone := List.all_eq_true.mp hlists _ hlogin.completed
  simp only [huser, ne_eq, not_true_eq_false, decide_false, Bool.false_or] at hnone
  have hother := List.all_eq_true.mp hnone car hcar
  simp [hid, Showroom.confirmation] at hother

end CarPayIn
