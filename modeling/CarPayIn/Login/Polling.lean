import CarPayIn.Login.OwnCars
import CarPayIn.Process.Observers

/-! # What a login poll hands out

The app asks for its login session until a callback has stored a result. A poll only
reads, so it stands beside the executions. The token it is handed was issued before
its result was stored, whichever callbacks of the session run at the same time.
-/

namespace CarPayIn

open Process Process.System Store Service

variable {rt : Runtime} {t : Tid} {w w' : World} {b b' : Base} {α : Type}

/-! ## The poll -/

inductive LoginStatus where
  | complete
  | pending
deriving DecidableEq, Repr

structure GetLoginSessionStatusResult where
  status : LoginStatus
  userId : Option String
  name : Option String
  cars : Option (List Car)
  tempAccessToken : Option BearerToken
deriving DecidableEq, Repr

/-- The reads of the two stores. -/
inductive LoginQuery : Type → Type 1 where
  | getResult (sessionId : String) : LoginQuery (Option OAuthResult)
  | getSession (sessionId : String) : LoginQuery (Option QrSession)

def World.loginAnswer (β : Type) (q : LoginQuery β) (w : World) : β :=
  match q with
  | .getResult sessionId => (w.base.loginResults.read w.base.now sessionId).map (·.value)
  | .getSession sessionId => (w.base.qrSessions.read w.base.now sessionId).map (·.value)

namespace GetLoginSessionStatusService

def query {β : Type} (q : LoginQuery β) : Program LoginQuery PyError β := .perform q

/-- A result is only ever stored as a complete one. -/
def execute (sessionId : String) : Program LoginQuery PyError GetLoginSessionStatusResult := do
  if sessionId = "" then throw (.valueError "session_id is required")
  else match ← query (.getResult sessionId) with
    | some result =>
        return ⟨.complete, some result.userId, some result.name, some result.cars,
          some result.tempAccessToken⟩
    | none =>
        match ← query (.getSession sessionId) with
        | none => throw (.valueError "session_not_found")
        | some qrSession =>
            match qrSession.status with
            | .expired => throw (.valueError "session_expired")
            | .failed => throw (.valueError "oauth_failed")
            | .pending => return ⟨.pending, none, none, none, none⟩

end GetLoginSessionStatusService

/-! ## Tokens and the results they are in -/

/-- The token of the result was issued to its user for the session. -/
def Base.Granted (b : Base) (sessionId : String) (result : OAuthResult) : Prop :=
  ∃ claims ∈ b.issuedTokens, result.tempAccessToken = .signed claims ∧ claims.typ = .tempAccess ∧
    claims.userId = result.userId ∧ claims.subject = sessionId

/-- A callback of the session has come up with the result. -/
structure Base.Told (b : Base) (sessionId : String) (result : OAuthResult) : Prop where
  granted : b.Granted sessionId result
  completed : (sessionId, result) ∈ b.completedLogins

theorem LoginsKept.granted {sessionId : String} {result : OAuthResult} (hk : LoginsKept b b')
    (h : b.Granted sessionId result) : b'.Granted sessionId result := by
  obtain ⟨claims, hclaims, hresult⟩ := h
  exact ⟨claims, hk.tokens hclaims, hresult⟩

theorem LoginsKept.told {sessionId : String} {result : OAuthResult} (hk : LoginsKept b b')
    (h : b.Told sessionId result) : b'.Told sessionId result :=
  ⟨hk.granted h.granted, hk.logins h.completed⟩

def Base.Pollable (b : Base) : Prop := ∀ k e, b.loginResults k = some e → b.Told k e.value

structure PollStep (b b' : Base) : Prop where
  kept : LoginsKept b b'
  pollable : b.Pollable → b'.Pollable

theorem PollStep.of_results (hkept : LoginsKept b b') (hresults : b'.loginResults = b.loginResults) :
    PollStep b b' := by
  refine ⟨hkept, fun h => ?_⟩
  unfold Base.Pollable
  rw [hresults]
  exact fun k e he => hkept.told (h k e he)

theorem PollStep.refl (b : Base) : PollStep b b := .of_results (.refl b) rfl

theorem PollStep.write {sessionId : String} {x : Option (Entry OAuthResult)}
    (htold : ∀ e, x = some e → b.Told sessionId e.value) :
    PollStep b { b with loginResults := Function.update b.loginResults sessionId x } := by
  refine ⟨⟨fun _ h => h, fun _ h => h⟩, fun h => ?_⟩
  intro k e he
  have htold : b.Told k e.value := entries_update (Q := fun k r => b.Told k r) h htold k e he
  exact ⟨htold.granted, htold.completed⟩

/-! ## The contract -/

def polling : Contract World Tid where
  invariant w := w.base.Pollable
  guarantee _ w w' := PollStep w.base w'.base
  environment w w' := PollStep w.base w'.base

theorem stable_polling {P : World → Prop} (hP : Recorded P) : polling.Stable t P := by
  intro w w' hi hw
  rcases hi.2.2 with ⟨t', -, hg⟩ | he
  · exact hP w w' hg.kept hw
  · exact hP w w' he.kept hw

theorem recorded_granted (sessionId : String) (result : OAuthResult) :
    Recorded fun w => w.base.Granted sessionId result := fun _ _ hk h => hk.granted h

theorem recorded_told (sessionId : String) (result : OAuthResult) :
    Recorded fun w => w.base.Told sessionId result := fun _ _ hk h => hk.told h

abbrev Polled (rt : Runtime) (t : Tid) (P : World → Prop) (p : Service α)
    (Q : Except PyError α → World → Prop) : Prop :=
  (carPayIn rt).Triple Policy.any polling t P p Q

/-! ## The calls -/

theorem outcome_pollStep {op : Op α} {m : Mode PyError} {r : Except PyError α}
    (hexec : ∀ r₀, w.exec t op = some (r₀, w') → PollStep w.base w'.base)
    (ho : (carPayIn rt).outcome t op m w = some (r, w')) : PollStep w.base w'.base := by
  rcases (carPayIn rt).outcome_cases ho with ⟨-, h⟩ | ⟨e, -, -, rfl⟩ | ⟨e, r₀, -, -, h⟩
  · exact hexec _ h
  · exact .refl _
  · exact hexec _ h

/-- The call stores no result for the app. It may take one away. -/
def StoresNone {β : Type} : Op β → Prop
  | .base (.loginResults (.set _ _ _)) => False
  | _ => True

theorem storesNone_of_effect {op : Op α} (h : op.effect ≠ .loginResult) : StoresNone op := by
  unfold StoresNone
  split
  · exact h rfl
  · trivial

theorem exec_pollStep {op : Op α} {r : Except PyError α} (hop : StoresNone op)
    (h : w.exec t op = some (r, w')) : PollStep w.base w'.base := by
  have hf := World.exec_frame h
  by_cases hresult : op.effect = .loginResult
  · cases op with
    | base op =>
        cases op with
        | loginResults op =>
            cases op with
            | set key value ex => exact hop.elim
            | delete key =>
                cases h
                exact .write fun e he => by cases he
            | _ => simp [Op.effect] at hresult
        | _ => simp [Op.effect] at hresult
    | _ => simp [Op.effect] at hresult
  refine PollStep.of_results ⟨?_, ?_⟩ (hf.loginResults hresult)
  · by_cases htoken : op.effect = .token
    · cases op with
      | base op =>
          cases op with
          | issueToken typ userId subject ttlSeconds =>
              cases h
              exact List.subset_cons_self _ _
          | _ => simp [Op.effect] at htoken
      | _ => simp [Op.effect] at htoken
    · rw [hf.issuedTokens htoken]
      exact fun _ h => h
  · by_cases hstored : op.effect = .oauthResult
    · cases op with
      | base op =>
          cases op with
          | oauthResults op =>
              cases op with
              | set key value ex =>
                  cases h
                  exact List.subset_cons_self _ _
              | delete key =>
                  cases h
                  exact fun _ h => h
              | _ => simp [Op.effect] at hstored
          | _ => simp [Op.effect] at hstored
      | _ => simp [Op.effect] at hstored
    · rw [hf.completedLogins hstored]
      exact fun _ h => h

theorem unpolled_program {p : Service α} (hp : p.Calls StoresNone) {P : World → Prop}
    (hP : Recorded P) : Polled rt t P p (fun _ => P) := by
  apply Triple.calls ?_ (stable_polling hP)
  apply Program.Calls.mono hp
  intro β op hop w m r w' hw _ _ ho _
  have hstep : PollStep w.base w'.base := outcome_pollStep (fun _ h => exec_pollStep hop h) ho
  exact ⟨hstep, hP w w' hstep.kept hw⟩

theorem storesNone_of_effects {es : List Effect} {p : Service α} (hp : ServiceEffects es p)
    (hresult : .loginResult ∉ .nothing :: es) : p.Calls StoresNone :=
  (hp.avoids hresult).mono fun _ => storesNone_of_effect

theorem issueToken_polled (userId sessionId : String) (ttlSeconds : Nat) :
    Polled rt t (fun _ => True) (base (ask (.issueToken .tempAccess userId sessionId ttlSeconds)))
      (fun r w => ∀ token, r = .ok token →
        ∀ name cars, w.base.Granted sessionId ⟨userId, name, cars, token⟩) := by
  apply Triple.perform (.const True)
  intro w m r w' _ _ _ ho
  refine ⟨outcome_pollStep (fun _ h => exec_pollStep (by trivial) h) ho, ?_⟩
  intro token hr name cars
  subst hr
  obtain ⟨htoken, rfl⟩ := base_ok ho
  cases htoken
  exact ⟨_, .head _, rfl, rfl, rfl, rfl⟩

theorem saveResult_polled (sessionId : String) (result : OAuthResult) (ttlSeconds : Nat) :
    Polled rt t (fun w => w.base.Granted sessionId result)
      (base (save .oauthResults sessionId result ttlSeconds))
      (fun r w => ∀ u, r = .ok u → w.base.Told sessionId result) := by
  apply Triple.perform (stable_polling (recorded_granted sessionId result))
  intro w m r w' hgranted _ _ ho
  have hstep : PollStep w.base w'.base :=
    outcome_pollStep (fun _ h => exec_pollStep (by trivial) h) ho
  refine ⟨hstep, fun u hr => ⟨hstep.kept.granted hgranted, ?_⟩⟩
  subst hr
  obtain ⟨-, rfl⟩ := base_ok ho
  exact .head _

theorem saveLogin_polled (sessionId : String) (result : OAuthResult) (ttlSeconds : Nat) :
    Polled rt t (fun w => w.base.Told sessionId result)
      (base (save .loginResults sessionId result ttlSeconds)) (fun _ _ => True) := by
  apply Triple.perform (stable_polling (recorded_told sessionId result))
  intro w m r w' htold _ _ ho
  refine ⟨outcome_pollStep ?_ ho, trivial⟩
  intro r₀ h
  cases h
  apply PollStep.write
  intro e he
  cases he
  exact htold

/-- The token is in the result, and the result is stored for the backend before the app can see
it; others may take any number of turns in between. -/
theorem complete_polled (state sessionId userId name : String) (cars : List Car) :
    Polled rt t (fun _ => True)
      (base (HandleHyundaiOAuthCallbackService.complete state sessionId userId name cars))
      (fun _ _ => True) := by
  unfold HandleHyundaiOAuthCallbackService.complete
  simp only [Program.bind_eq, base_bind]
  apply Triple.bind (M := fun token w => w.base.Granted sessionId ⟨userId, name, cars, token⟩)
  · apply Triple.conseq (issueToken_polled userId sessionId _) (fun _ h => h)
    intro r w hr
    cases r with
    | ok token => exact hr token rfl name cars
    | error e => trivial
  intro token
  refine Triple.seq (unpolled_program ?_ (recorded_granted sessionId ⟨userId, name, cars, token⟩))
    (fun _ _ _ => trivial) fun _ => ?_
  · exact ⟨trivial, fun _ => trivial⟩
  apply Triple.bind (M := fun _ w => w.base.Told sessionId ⟨userId, name, cars, token⟩)
  · apply Triple.conseq (saveResult_polled sessionId ⟨userId, name, cars, token⟩ _) (fun _ h => h)
    intro r w hr
    cases r with
    | ok u => exact hr u rfl
    | error e => trivial
  intro _
  apply Triple.bind (M := fun _ _ => True)
  · apply Triple.conseq (saveLogin_polled sessionId ⟨userId, name, cars, token⟩ _) (fun _ h => h)
    intro r w _
    cases r with
    | ok u => trivial
    | error e => trivial
  intro _
  rw [← base_bind]
  apply unpolled_program ?_ recorded_true
  apply Program.Calls.lift Op.base
  apply Program.Calls.bind
  · exact update_calls _ trivial trivial fun _ _ => trivial
  · exact fun _ => trivial

theorem hyundaiOAuthCallback_polled (command : HandleHyundaiOAuthCallbackCommand) :
    Polled rt t (fun _ => True) (base (HandleHyundaiOAuthCallbackService.execute command))
      (fun _ _ => True) :=
  hyundaiOAuthCallback_parts command
    (fun hp => unpolled_program (storesNone_of_effects (base_effects hp) (by decide)) recorded_true)
    (complete_polled command.state)

/-- A confirmation takes the result of its session away. -/
theorem confirmVehicle_storesNone (command : ConfirmVehicleCommand) :
    (base (ConfirmVehicleService.execute rt command)).Calls StoresNone := by
  apply Program.Calls.lift Op.base
  apply confirmVehicle_calls rt command
  · intro β op hop
    apply storesNone_of_effect
    rw [show (Op.base op).effect = op.effect from rfl, hop]
    exact nofun
  · intro sessionId userId name carId car
    exact bindVehicle_calls rt sessionId userId name carId car trivial (fun _ => trivial) trivial
      (fun _ => trivial) trivial

/-! ## Runs -/

theorem begin_polled {x : Start} {p : Service Reply} (h : w.begin rt x = some (t, p, w')) :
    p.wp ((carPayIn rt).spec Policy.any polling t) (fun _ _ => True) w' := by
  have hcalls {p : Service Reply} (hp : p.Calls StoresNone) (w : World) :
      p.wp ((carPayIn rt).spec Policy.any polling t) (fun _ _ => True) w :=
    Triple.conseq (unpolled_program hp recorded_true) (fun _ h => h)
      (fun _ _ _ => trivial) w trivial
  have hother (hresult : Effect.loginResult ∉ .nothing :: t.effects) :
      p.wp ((carPayIn rt).spec Policy.any polling t) (fun _ _ => True) w' :=
    hcalls (storesNone_of_effects (begin_spec h).effects hresult) w'
  cases x with
  | pg id | card id =>
      obtain ⟨y, -, h⟩ := Option.map_eq_some_iff.mp h
      cases h
      exact hother (by simp [Tid.effects])
  | backend n request =>
      cases h
      cases request with
      | hyundaiOAuthCallback command =>
          show Program.wp _ (base (Reply.login <$> HandleHyundaiOAuthCallbackService.execute command)) _ w
          rw [base_map]
          apply Triple.map (P := fun _ => True) ?_ w trivial
          exact Triple.conseq (hyundaiOAuthCallback_polled command) (fun _ h => h)
            fun _ _ _ => trivial
      | confirmVehicle command =>
          show Program.wp _ (base (Reply.vehicle <$> ConfirmVehicleService.execute rt command)) _ w
          rw [base_map]
          refine hcalls ?_ w
          exact (confirmVehicle_storesNone command).bind fun _ => trivial
      | _ => exact hother (by simp [Tid.effects, Request.effects])

theorem carPayIn_polls (rt : Runtime) :
    (carPayIn rt).Meets Policy.any polling World.LoggedOut .unknown := by
  refine Meets.of_state ?_ ?_ ?_ ?_
  · rintro w ⟨-, -, -, hresults⟩ k e he
    simp [hresults k] at he
  · rintro w w' hi (⟨t, hg⟩ | he)
    · exact PollStep.pollable hg hi
    · exact PollStep.pollable he hi
  · intro x w t p w' hb
    refine ⟨?_, begin_polled hb⟩
    show PollStep w.base w'.base
    rw [(begin_spec hb).base]
    exact .refl _
  · intro x w w' he
    obtain ⟨now, outside, scanned, -, hb⟩ := environment_base he
    show PollStep w.base w'.base
    rw [hb]
    exact .of_results ⟨fun _ h => h, fun _ h => h⟩ rfl

/-- What a poll has seen, when it has seen a result. -/
theorem sees_poll {c : Config Op PyError Reply World Tid}
    (hc : (carPayIn rt).Reachable Policy.any World.LoggedOut c) (sessionId : String) :
    (carPayIn rt).Sees Policy.any World.loginAnswer ((carPayIn rt).Later Policy.any c)
      (GetLoginSessionStatusService.execute sessionId) fun a c' => a.status = .complete →
        ∃ result, c'.state.base.Told sessionId result ∧
          a = ⟨.complete, some result.userId, some result.name, some result.cars,
            some result.tempAccessToken⟩ := by
  unfold GetLoginSessionStatusService.execute
  split
  · exact Sees.throw
  simp only [Program.bind_eq]
  apply Sees.bind (M := fun found c' => ∀ result, found = some result →
    c'.state.base.Told sessionId result)
  · apply Sees.query
    intro c₁ c₂ h₁ hl result hfound
    obtain ⟨e, he, rfl⟩ := Option.map_eq_some_iff.mp hfound
    have hpollable : c₂.state.base.Pollable :=
      ((carPayIn_polls rt).sound (hl.reachable _ (h₁.reachable _ hc))).1
    exact hpollable sessionId e (Cache.read_eq_some.mp he).1
  intro found
  cases found with
  | some result => exact Sees.pure fun c' h _ => ⟨result, h result rfl, rfl⟩
  | none =>
      dsimp only
      apply Sees.bind (M := fun _ _ => True)
      · exact Sees.query fun _ _ _ _ => trivial
      intro found
      cases found with
      | none => exact Sees.throw
      | some qrSession =>
          dsimp only
          split
          · exact Sees.throw
          · exact Sees.throw
          · exact Sees.pure fun c' _ hstatus => by cases hstatus

/-- What a poll hands out is the result of one callback of its session, with a token that was
issued to the user of that result for that session. -/
theorem poll_hands_out_own_token (rt : Runtime) {c c' : Config Op PyError Reply World Tid}
    (hc : (carPayIn rt).Reachable Policy.any World.LoggedOut c) {sessionId : String}
    {a : GetLoginSessionStatusResult}
    (h : (carPayIn rt).Observes Policy.any World.loginAnswer c
      (GetLoginSessionStatusService.execute sessionId) (.ok a) c')
    (hcomplete : a.status = .complete) :
    ∃ userId name cars claims, a = ⟨.complete, some userId, some name, some cars,
        some (.signed claims)⟩ ∧
      (sessionId, ⟨userId, name, cars, .signed claims⟩) ∈ c'.state.base.completedLogins ∧
      claims ∈ c'.state.base.issuedTokens ∧ claims.typ = .tempAccess ∧ claims.userId = userId ∧
      claims.subject = sessionId := by
  obtain ⟨⟨userId, name, cars, token⟩, htold, ha⟩ :=
    (sees_poll hc sessionId).holds c a c' .refl h hcomplete
  obtain ⟨claims, hclaims, rfl, htyp, huser, hsubject⟩ := htold.granted
  exact ⟨userId, name, cars, claims, ha, htold.completed, hclaims, htyp, huser, hsubject⟩

/-- What the app gets when Anna is back from Hyundai. -/
def Showroom.polled : GetLoginSessionStatusResult :=
  ⟨.complete, some "anna", some "anna", some [⟨"anna-car", "IONIQ 5", "anna"⟩],
    some (.signed ⟨.tempAccess, "anna", "login-1", 900⟩)⟩

theorem poll_hands_out_own_token_showroom : ∃ c,
    (carPayIn plainRuntime).Reachable Policy.any World.LoggedOut c ∧
      ⟨.tempAccess, "anna", "login-1", 900⟩ ∈ c.state.base.issuedTokens := by
  have hrun : ((carPayIn plainRuntime).run Policy.any
      (Showroom.scanned ++ Showroom.callback 3 "anna" "state-1") (boot showroom)).any (fun c =>
        Program.askAt World.loginAnswer c.state (GetLoginSessionStatusService.execute "login-1") =
          .ok Showroom.polled) = true := by
    decide +kernel
  obtain ⟨c, hc, hasked⟩ := (carPayIn plainRuntime).exists_of_run hrun showroom_loggedOut
  have hobserved : (carPayIn plainRuntime).Observes Policy.any World.loginAnswer c
      (GetLoginSessionStatusService.execute "login-1") (.ok Showroom.polled) c := by
    rw [← of_decide_eq_true hasked]
    exact .atOnce _
  obtain ⟨userId, name, cars, claims, hpolled, -, hclaims, -⟩ :=
    poll_hands_out_own_token plainRuntime hc hobserved rfl
  cases hpolled
  exact ⟨c, hc, hclaims⟩

end CarPayIn
