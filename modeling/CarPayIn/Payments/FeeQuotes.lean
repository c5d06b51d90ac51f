import CarPayIn.Payments.PaymentRefinement
import CarPayIn.Payments.Backing
import CarPayIn.Payments.Alone

/-! # Fees answered from a quote

A quote is stored for the session that the fee was asked for, by a request that
has checked the session. A later request is answered from the quote before any
check, whoever asks and whatever has become of the session.
-/

namespace CarPayIn

open Process Process.System Store Service

variable {rt : Runtime} {t : Tid} {w w' : World} {sessionId carId : String} {α : Type}

/-! ## Quotes name sessions -/

/-- Every quote is stored under the id of a parking session. -/
def World.QuotesKnown (w : World) : Prop :=
  ∀ k e, w.base.quotes k = some e → KnowsSession k w

def World.Unquoted (w : World) : Prop := ∀ k, w.base.quotes k = none

/-- No session is lost, and a new quote is one of a known session. -/
structure Quoted (w w' : World) : Prop where
  sessions : StaysKept w.base w'.base
  quotes : ∀ k e, w'.base.quotes k = some e → w.base.quotes k = some e ∨ KnowsSession k w'

theorem Quoted.of_same (hs : StaysKept w.base w'.base) (hq : w'.base.quotes = w.base.quotes) :
    Quoted w w' := ⟨hs, fun k e he => .inl (by rwa [hq] at he)⟩

def quoting : Contract World Tid where
  invariant := World.QuotesKnown
  guarantee _ := Quoted
  environment := Quoted

def Anchored (P : World → Prop) : Prop := ∀ w w', StaysKept w.base w'.base → P w → P w'

theorem Anchored.stable {P : World → Prop} (hP : Anchored P) : quoting.Stable t P := by
  intro w w' hi hw
  rcases hi.2.2 with ⟨t', -, hg⟩ | he
  · exact hP w w' hg.sessions hw
  · exact hP w w' he.sessions hw

theorem anchored_true : Anchored fun _ => True := fun _ _ _ h => h

theorem anchored_knowsSession (sessionId : String) : Anchored (KnowsSession sessionId) :=
  fun _ _ hs ⟨id, hid, hk⟩ => ⟨id, hid, hs.isSome hk⟩

theorem Quoted.quotesKnown (h : Quoted w w') (hw : w.QuotesKnown) : w'.QuotesKnown := by
  intro k e he
  rcases h.quotes k e he with hold | hk
  · exact anchored_knowsSession k w w' h.sessions (hw k e hold)
  · exact hk

abbrev Quoting (rt : Runtime) (t : Tid) (P : World → Prop) (p : Service α)
    (Q : Except PyError α → World → Prop) : Prop :=
  (carPayIn rt).Triple Policy.any quoting t P p Q

theorem outcome_quoted {β : Type} {op : Op β} (he : op.effect ≠ .quote) {m : Mode PyError}
    {r : Except PyError β} (ho : (carPayIn rt).outcome t op m w = some (r, w')) : Quoted w w' :=
  .of_same (outcome_session ho).staysKept ((outcome_frame ho).quotes he)

theorem unquoting_program {P : World → Prop} (hP : Anchored P) {p : Service α} {es : List Effect}
    (hp : ServiceEffects es p) (he : .quote ∉ .nothing :: es) :
    Quoting rt t P p (fun _ => P) := by
  apply Triple.calls ?_ hP.stable
  apply (hp.avoids he).mono
  intro β op hop w m r w' hw _ _ ho _
  exact ⟨outcome_quoted hop ho, hP w w' (outcome_session ho).staysKept hw⟩

theorem getSessionById_quoting (sessionId : String) :
    Quoting rt t (fun _ => True) (base (BaseService.getSessionById sessionId))
      (fun r w => ∀ session, r = .ok (some session) → KnowsSession sessionId w) := by
  unfold BaseService.getSessionById
  cases hid : Uuid.parse sessionId with
  | error e => exact .done fun w _ session h => by cases h
  | ok id =>
      apply Triple.perform (.const True)
      intro w m r w' _ _ _ ho
      refine ⟨outcome_quoted (by simp [Op.effect]) ho, fun session hr => ?_⟩
      subst hr
      obtain ⟨hfound, rfl⟩ := Prod.mk.inj (Option.some.inj ((carPayIn rt).outcome_ok ho).2)
      have hget : w.base.getSessionById id = some session := Except.ok.inj hfound
      exact ⟨id, hid, by simp [hget]⟩

theorem saveQuote_quoting (sessionId : String) (quote : FeeQuote) (ttlSeconds : Nat) :
    Quoting rt t (KnowsSession sessionId) (base (save .quotes sessionId quote ttlSeconds))
      (fun _ _ => True) := by
  apply Triple.perform (anchored_knowsSession sessionId).stable
  intro w m r w' hk _ _ ho
  have hkept := (outcome_session ho).staysKept
  have hset : ∀ r₀, w.exec t (.base (.quotes (.set sessionId quote (some ttlSeconds)))) =
      some (r₀, w') → Quoted w w' := by
    intro r₀ h
    cases h
    refine ⟨hkept, fun k e he => ?_⟩
    by_cases hks : k = sessionId
    · subst hks
      obtain ⟨id, hid, hs⟩ := hk
      exact .inr ⟨id, hid, hkept.isSome hs⟩
    · left
      have he : Function.update w.base.quotes sessionId _ k = some e := he
      rwa [Function.update_of_ne hks] at he
  refine ⟨?_, trivial⟩
  rcases (carPayIn rt).outcome_cases ho with ⟨-, h⟩ | ⟨e, -, -, rfl⟩ | ⟨e, r₀, -, -, h⟩
  · exact hset _ h
  · exact .of_same hkept rfl
  · exact hset _ h

theorem getParkingFee_quoting (command : GetParkingFeeCommand) :
    Quoting rt t (fun _ => True) (base (GetParkingFeeService.execute command))
      (fun _ _ => True) := by
  have hother {P : World → Prop} (hP : Anchored P) {β : Type} {p : BaseService β}
      (hp : Effects [] p) : Quoting rt t P (base p) (fun _ => P) :=
    unquoting_program hP (base_effects hp) (by decide)
  unfold GetParkingFeeService.execute
  split
  · exact .done fun _ h => h
  simp only [Program.bind_eq, base_bind]
  apply Triple.seq (hother anchored_true (validateAppToken_effects _)) (fun _ _ h => h)
  intro token
  apply Triple.seq (hother anchored_true (getQuote_effects _)) (fun _ _ h => h)
  intro found
  cases found with
  | some quote => exact .done fun _ h => h
  | none =>
      dsimp only
      rw [base_bind]
      apply Triple.bind (M := fun (found : Option ParkingSession) w =>
        found.isSome → KnowsSession command.sessionId w)
      · apply Triple.conseq (getSessionById_quoting command.sessionId) (fun _ h => h)
        intro r w hr
        cases r with
        | error e => trivial
        | ok found =>
            intro hs
            obtain ⟨session, rfl⟩ := Option.isSome_iff_exists.mp hs
            exact hr session rfl
      · intro found
        cases found with
        | none => exact .done fun _ _ => trivial
        | some session =>
            dsimp only
            split
            · exact .done fun _ _ => trivial
            split
            · exact .done fun _ _ => trivial
            rw [base_bind]
            apply Triple.bind (M := fun _ => KnowsSession command.sessionId)
            · apply Triple.conseq (hother (anchored_knowsSession command.sessionId)
                (ask_effects (by simp))) (fun w hw => hw rfl)
              intro r w hr
              cases r with
              | error e => trivial
              | ok fee => exact hr
            · intro ⟨amount, duration⟩
              dsimp only
              rw [base_bind]
              apply Triple.bind (M := fun _ _ => True)
              · apply Triple.conseq (saveQuote_quoting command.sessionId _ _) (fun _ h => h)
                intro r w _
                cases r <;> trivial
              · exact fun _ => .done fun _ h => h

/-- A started execution stores a quote only for a session it has looked up. -/
theorem begin_quoting {x : Start} {p : Service Reply} (h : w.begin rt x = some (t, p, w')) :
    p.wp ((carPayIn rt).spec Policy.any quoting t) (fun _ _ => True) w' := by
  have hother (he : Effect.quote ∉ .nothing :: t.effects) :
      p.wp ((carPayIn rt).spec Policy.any quoting t) (fun _ _ => True) w' :=
    unquoting_program anchored_true (begin_spec h).effects he w' trivial
  cases x with
  | pg id | card id =>
      obtain ⟨y, -, h⟩ := Option.map_eq_some_iff.mp h
      cases h
      exact hother (by simp [Tid.effects])
  | backend n request =>
      cases h
      cases request with
      | getParkingFee command =>
          show Program.wp _ (base (Reply.fee <$> GetParkingFeeService.execute command)) _ w
          rw [base_map]
          exact Triple.map (getParkingFee_quoting command) w trivial
      | _ => exact hother (by simp [Tid.effects, Request.effects])

theorem carPayIn_quotes (rt : Runtime) :
    (carPayIn rt).Meets Policy.any quoting World.Unquoted .unknown := by
  refine Meets.of_state ?_ ?_ ?_ ?_
  · intro w hw k e he
    rw [hw k] at he
    cases he
  · rintro w w' hi (⟨t, hg⟩ | he)
    · exact Quoted.quotesKnown hg hi
    · exact Quoted.quotesKnown he hi
  · intro x w t p w' hb
    have hb' := (begin_spec hb).base
    exact ⟨.of_same (.of_same (by rw [hb'])) (by rw [hb']), begin_quoting hb⟩
  · intro x w w' he
    obtain ⟨now, outside, scanned, -, hb⟩ := environment_base he
    exact .of_same (.of_same (by rw [hb])) (by rw [hb])

theorem quotesKnown_of_reachable {c : Config Op PyError Reply World Tid}
    (hc : (carPayIn rt).Reachable Policy.any World.Unquoted c) : c.state.QuotesKnown :=
  ((carPayIn_quotes rt).sound hc).1

/-! ## One fee query -/

/-- The session exists, is active and belongs to the car. -/
def World.Authorises (w : World) (sessionId carId : String) : Prop :=
  ∃ id session, Uuid.parse sessionId = .ok id ∧ w.base.getSessionById id = some session ∧
    session.status = .active ∧ session.carId = carId

/-- A quote that is still live, for a session that is not active any more or
belongs to another car. -/
def World.staleQuote (w : World) (sessionId carId : String) : Bool :=
  (w.base.quotes.read w.base.now sessionId).isSome &&
    match Uuid.parse sessionId with
    | .ok id => (w.base.getSessionById id).any fun s => s.status ≠ .active || s.carId ≠ carId
    | .error _ => false

theorem not_authorises_of_stale (h : w.staleQuote sessionId carId = true) :
    ¬w.Authorises sessionId carId := by
  rintro ⟨id, session, hid, hs, hactive, hcar⟩
  simp [World.staleQuote, hid, hs, hactive, hcar] at h

/-- A quote of a known session that is not stale authorises the car. -/
theorem authorises_of_quote (hk : KnowsSession sessionId w)
    (hq : (w.base.quotes.read w.base.now sessionId).isSome = true)
    (h : w.staleQuote sessionId carId = false) : w.Authorises sessionId carId := by
  obtain ⟨id, hid, hs⟩ := hk
  obtain ⟨session, hsession⟩ := Option.isSome_iff_exists.mp hs
  refine ⟨id, session, hid, hsession, ?_⟩
  simpa [World.staleQuote, hq, hid, hsession] using h

theorem authorises_of_same (h : w'.base.parkingSessions = w.base.parkingSessions)
    (ha : w.Authorises sessionId carId) : w'.Authorises sessionId carId := by
  obtain ⟨id, session, hid, hs, hrest⟩ := ha
  refine ⟨id, session, hid, ?_, hrest⟩
  unfold Base.getSessionById at hs ⊢
  rwa [h]

theorem authorises_alone {p : Service α} (hp : ServiceEffects [.quote] p) :
    Alone rt t (fun w => w.Authorises sessionId carId) p
      (fun _ w => w.Authorises sessionId carId) := by
  apply effects_alone _ hp
  · intro w w' ⟨x, _, he⟩ ha
    obtain ⟨now, outside, scanned, -, hb⟩ := environment_base he
    exact authorises_of_same (by rw [hb]) ha
  · intro e he w w' hf ha
    have hne : e ≠ .newSession ∧ e ≠ .sessionStatus := by
      clear hf
      revert e
      decide
    exact authorises_of_same (hf.parkingSessions hne.1 hne.2) ha

theorem quote_of_later {w₀ : World} (h : Drifted w₀ w) {q : FeeQuote}
    (hq : (w.base.quotes.read w.base.now sessionId).map (·.value) = some q) :
    (w₀.base.quotes.read w₀.base.now sessionId).isSome = true := by
  obtain ⟨e, he, -⟩ := Option.map_eq_some_iff.mp hq
  rw [h.quotes] at he
  rw [read_of_later h.now he]
  rfl

/-- A fee query that is answered for a session without a stale quote has found
the session, or a quote of it, in order. -/
theorem getParkingFee_authorises {w₀ : World} {command : GetParkingFeeCommand}
    {claims : TokenClaims} (hdev : command.sessionId ≠ "sess_dev_001")
    (htoken : w₀.base.validateToken command.accessToken .appAccess "invalid_token" = .ok claims)
    (hknown : w₀.QuotesKnown) (hfresh : w₀.staleQuote command.sessionId claims.subject = false) :
    Alone rt t (Drifted w₀) (base (GetParkingFeeService.execute command))
      (fun r w => ∀ result, r = .ok result → w.Authorises command.sessionId claims.subject) := by
  have hraises : ∀ (e : PyError) (w : World), Drifted w₀ w → ∀ result : GetParkingFeeResult,
      (.error e : Except PyError GetParkingFeeResult) = .ok result →
        w.Authorises command.sessionId claims.subject := fun e w _ result h => by cases h
  have hdrift : ∀ w w', (carPayIn rt).Drifts Policy.any w w' → Drifted w₀ w → Drifted w₀ w' :=
    fun w w' hd h => h.drift hd
  unfold GetParkingFeeService.execute
  rw [if_neg hdev]
  simp only [Program.bind_eq, base_bind]
  apply Triple.bind (M := fun token w => Drifted w₀ w ∧ token = claims)
  · apply Triple.conseq (ask_alone (.validateToken command.accessToken .appAccess
      "invalid_token") rfl hdrift) (fun _ h => h)
    intro r w hr
    cases r with
    | error e => exact hraises e w hr.1
    | ok token =>
        refine ⟨hr.1, ?_⟩
        have hsigned := (Base.validateToken_ok (hr.2 token rfl)).symm.trans (Base.validateToken_ok htoken)
        exact BearerToken.signed.inj hsigned
  apply known_alone
  apply Triple.bind (M := fun found w => Drifted w₀ w ∧
    (found.isSome → w.Authorises command.sessionId claims.subject))
  · apply Triple.conseq (ask_alone (.quotes (.get command.sessionId)) rfl hdrift) (fun _ h => h)
    intro r w hr
    cases r with
    | error e => exact hraises e w hr.1
    | ok found =>
        refine ⟨hr.1, fun hs => ?_⟩
        obtain ⟨quote, rfl⟩ := Option.isSome_iff_exists.mp hs
        have hq := quote_of_later hr.1 (Except.ok.inj (hr.2 _ rfl))
        obtain ⟨e, he⟩ := Option.isSome_iff_exists.mp hq
        have hk := hknown _ e (Cache.read_eq_some.mp he).1
        exact authorises_of_same hr.1.parkingSessions (authorises_of_quote hk hq hfresh)
  · intro found
    cases found with
    | some quote => exact .done fun w hw result _ => hw.2 rfl
    | none =>
        dsimp only
        rw [base_bind]
        apply Triple.bind (M := fun (found : Option ParkingSession) w => Drifted w₀ w ∧
          ∃ id, Uuid.parse command.sessionId = .ok id ∧ w.base.getSessionById id = found)
        · apply Triple.conseq (getSessionById_alone command.sessionId hdrift) (fun w hw => hw.1)
          intro r w hr
          cases r with
          | error e => exact hraises e w hr.1
          | ok found => exact ⟨hr.1, hr.2 found rfl⟩
        · intro found
          cases found with
          | none => exact .done fun w hw => hraises _ w hw.1
          | some session =>
              dsimp only
              split
              · exact .done fun w hw => hraises _ w hw.1
              split
              · exact .done fun w hw => hraises _ w hw.1
              rename_i hactive hcar
              have hrest {p : Service GetParkingFeeResult} (hp : ServiceEffects [.quote] p) :
                  Alone rt t (fun w => Drifted w₀ w ∧ ∃ id, Uuid.parse command.sessionId = .ok id ∧
                    w.base.getSessionById id = some session) p
                    (fun r w => ∀ result, r = .ok result →
                      w.Authorises command.sessionId claims.subject) := by
                apply Triple.conseq (authorises_alone hp)
                · rintro w ⟨-, id, hid, hs⟩
                  exact ⟨id, session, hid, hs, not_not.mp hactive, not_not.mp hcar⟩
                · exact fun r w ha result _ => ha
              apply hrest
              apply base_effects
              apply Program.Calls.bind
              · exact ask_effects (by simp)
              · intro ⟨amount, duration⟩
                apply Program.Calls.bind
                · exact ask_effects (by simp)
                · exact fun _ => trivial

theorem stale_answers (rt : Runtime) (t : Tid) (command : GetParkingFeeCommand) {claims : TokenClaims}
    (hdev : command.sessionId ≠ "sess_dev_001")
    (htoken : w.base.validateToken command.accessToken .appAccess "invalid_token" = .ok claims)
    (hstale : w.staleQuote command.sessionId claims.subject = true) :
    ∃ result, (carPayIn rt).Finishes Policy.any t (base (GetParkingFeeService.execute command)) w
      (.ok result) w := by
  obtain ⟨e, he⟩ := Option.isSome_iff_exists.mp ((Bool.and_eq_true ..).mp hstale).1
  let q := e.value
  refine ⟨⟨q.sessionId, q.lotId, q.amount, q.duration, q.currency, q.entryTime, q.status⟩, ?_⟩
  unfold GetParkingFeeService.execute
  rw [if_neg hdev]
  apply Finishes.ask (.validateToken command.accessToken .appAccess "invalid_token") rfl htoken
  apply Finishes.ask (.quotes (.get command.sessionId)) (a := some q) rfl
  · exact congrArg (fun found => Except.ok (found.map (·.value))) he
  · exact .done _ _

/-- In every reachable state a fee query with a valid token authorises like the
uncached one exactly when there is no stale quote of the session for the car. -/
theorem cached_fee_authorises_iff (rt : Runtime) {c : Config Op PyError Reply World Tid}
    (hc : (carPayIn rt).Reachable Policy.any World.Unquoted c) (t : Tid)
    {command : GetParkingFeeCommand} {claims : TokenClaims}
    (hdev : command.sessionId ≠ "sess_dev_001")
    (htoken : c.state.base.validateToken command.accessToken .appAccess "invalid_token" = .ok claims) :
    (∀ result w', (carPayIn rt).Finishes Policy.any t (base (GetParkingFeeService.execute command))
        c.state (.ok result) w' → w'.Authorises command.sessionId claims.subject) ↔
      c.state.staleQuote command.sessionId claims.subject = false := by
  constructor
  · intro h
    by_contra hstale
    have hstale : c.state.staleQuote command.sessionId claims.subject = true := by
      simpa using hstale
    obtain ⟨result, hf⟩ := stale_answers rt t command hdev htoken hstale
    exact not_authorises_of_stale hstale (h result c.state hf)
  · intro hfresh result w' hf
    have htriple : Alone rt t (Drifted c.state) (base (GetParkingFeeService.execute command))
        (fun r w => ∀ result, r = .ok result → w.Authorises command.sessionId claims.subject) :=
      getParkingFee_authorises hdev htoken (quotesKnown_of_reachable hc) hfresh
    exact wp_finishes hf (htriple c.state (.refl _)) result rfl

/-! ## The garage -/

theorem garage_unquoted : garage.Unquoted := fun _ => rfl

def Garage.feeCommand : GetParkingFeeCommand := ⟨Garage.token, Garage.sessionId⟩

/-- The garage's car may ask for the fee before any quote. -/
theorem cached_fee_authorises_iff_garage :
    (∀ result w', (carPayIn plainRuntime).Finishes Policy.any (.backend 0 (Garage.feeQuery
        Garage.sessionId)) (base (GetParkingFeeService.execute Garage.feeCommand)) garage
        (.ok result) w' → w'.Authorises Garage.sessionId "car-1") ↔
      garage.staleQuote Garage.sessionId "car-1" = false := by
  have hdev : Garage.feeCommand.sessionId ≠ "sess_dev_001" := by decide
  have htoken : garage.base.validateToken Garage.feeCommand.accessToken .appAccess "invalid_token" =
      .ok ⟨.appAccess, "user-1", "car-1", 3600⟩ := rfl
  exact cached_fee_authorises_iff plainRuntime (.boot garage_unquoted) _ hdev htoken

/-- After the payment the quote is still there and answers a further query. -/
theorem stale_fee_answered : ¬∀ rt c, (carPayIn rt).Reachable Policy.any World.Unquoted c →
    ∀ t command claims, command.sessionId ≠ "sess_dev_001" →
      c.state.base.validateToken command.accessToken .appAccess "invalid_token" = .ok claims →
        ∀ result w', (carPayIn rt).Finishes Policy.any t (base (GetParkingFeeService.execute command))
          c.state (.ok result) w' → w'.Authorises command.sessionId claims.subject := by
  intro h
  have hrun : ((carPayIn plainRuntime).run Policy.any Garage.paidRun (boot garage)).any
      (fun c => decide (c.state.base.validateToken Garage.token .appAccess "invalid_token" =
        .ok ⟨.appAccess, "user-1", "car-1", 3600⟩) &&
          c.state.staleQuote Garage.sessionId "car-1") = true := by decide +kernel
  obtain ⟨c, hc, htest⟩ := (carPayIn plainRuntime).exists_of_run hrun garage_unquoted
  obtain ⟨htoken, hstale⟩ := (Bool.and_eq_true ..).mp htest
  have htoken := of_decide_eq_true htoken
  obtain ⟨result, hf⟩ := stale_answers plainRuntime (.backend 2 (Garage.feeQuery Garage.sessionId))
    ⟨Garage.token, Garage.sessionId⟩ (by decide) htoken hstale
  exact not_authorises_of_stale hstale
    (h plainRuntime c hc _ _ _ (by decide) htoken result c.state hf)

end CarPayIn
