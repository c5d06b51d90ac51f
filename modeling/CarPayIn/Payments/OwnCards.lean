import CarPayIn.Payments.CardOwners

/-! # Whose card is charged

A payment takes the billing key of its token's car. The key was stored for an
order of the car's owner, and the token's user is the owner too, unless a
confirmation has given the car to somebody else in between.
-/

namespace CarPayIn

open Process Process.System Store Service

variable {rt : Runtime} {t : Tid} {w w' : World} {s s' : Carded} {α β : Type}

/-! ## Tokens -/

/-- The claims are those of an application token of the car's owner. -/
def OwnerToken (token : BearerToken) (claims : TokenClaims) (s : Carded) : Prop :=
  token = .signed claims ∧ claims.typ = .appAccess ∧
    s.1.base.owner claims.subject = some claims.userId

theorem certified_ownerToken (token : BearerToken) (claims : TokenClaims) :
    Certified (OwnerToken token claims) := fun _ _ hk h => ⟨h.1, h.2.1, hk.owners _ _ h.2.2⟩

theorem validateAppToken_carding (token : BearerToken) :
    Carding rt t (fun _ => True) (base (BaseService.validateAppToken token))
      (fun r s => ∀ claims, r = .ok claims → OwnerToken token claims s) := by
  apply ask_carding _ rfl certified_true (certified_ownerToken token)
  intro s claims _ hi hvalid
  unfold Base.exec Base.validateToken at hvalid
  dsimp only at hvalid
  split at hvalid
  · cases hvalid
  · rename_i claims'
    split_ifs at hvalid with hissued htyp hexp
    cases hvalid
    have htyp : claims.typ = .appAccess := by simpa using htyp
    have hissued : claims ∈ s.1.base.issuedTokens := by simpa using hissued
    exact ⟨rfl, htyp, hi.tokens claims hissued htyp⟩

/-! ## Logins -/

theorem plain_carding {es : List Effect} {p : BaseService α} {P : Carded → Prop} (hp : Effects es p)
    (hP : Certified P) (he : ∀ e ∈ Effect.nothing :: es,
      e ∉ [Effect.vehicle, .token, .refreshToken, .cardOrder, .billingKey]) :
    Carding rt t P (base p) (fun _ => P) := uncarded_program (base_uncarded hp he) hP

/-- The token of a callback is a temporary one. -/
theorem complete_carding (state sessionId userId name : String) (cars : List Car) :
    Carding rt t (fun _ => True)
      (base (HandleHyundaiOAuthCallbackService.complete state sessionId userId name cars))
      (fun _ _ => True) := by
  have hother {β : Type} {p : BaseService β}
      (hp : Effects [.user, .oauthResult, .loginResult, .oauthState] p) :
      Carding rt t (fun _ => True) (base p) (fun _ _ => True) :=
    plain_carding hp certified_true (by decide)
  unfold HandleHyundaiOAuthCallbackService.complete
  simp only [Program.bind_eq, base_bind]
  apply Triple.seq ?_ (fun _ _ h => h)
  · intro tempAccessToken
    apply Triple.seq (hother (ask_effects (by simp))) (fun _ _ h => h)
    intro _
    apply Triple.seq (hother (ask_effects (by simp))) (fun _ _ h => h)
    intro _
    apply Triple.seq (hother (ask_effects (by simp))) (fun _ _ h => h)
    intro _
    rw [← base_bind]
    apply hother
    apply Program.Calls.bind
    · apply update_calls <;> simp
    · exact fun _ => trivial
  · have hissue : (base (ask (.issueToken .tempAccess userId sessionId
        HandleHyundaiOAuthCallbackService.tempAccessTokenTtlSeconds))).Calls Uncarded :=
      ⟨rfl, fun _ => trivial⟩
    exact uncarded_program hissue certified_true

theorem hyundaiOAuthCallback_carding (command : HandleHyundaiOAuthCallbackCommand) :
    Carding rt t (fun _ => True) (base (HandleHyundaiOAuthCallbackService.execute command))
      (fun _ _ => True) :=
  hyundaiOAuthCallback_parts command (fun hp => plain_carding hp certified_true (by decide))
    (complete_carding command.state)

theorem confirmVehicle_carding (command : ConfirmVehicleCommand) :
    Carding rt t (fun _ => True) (base (ConfirmVehicleService.execute rt command))
      (fun _ _ => True) := by
  have hother {β : Type} {p : BaseService β} (hp : Effects [] p) :
      Carding rt t (fun _ => True) (base p) (fun _ _ => True) :=
    plain_carding hp certified_true (by decide)
  unfold ConfirmVehicleService.execute
  split
  · exact .done fun _ h => h
  split
  · exact .done fun _ h => h
  split
  · exact .done fun _ h => h
  simp only [Program.bind_eq, base_bind]
  apply Triple.seq (hother (ask_effects (by simp))) (fun _ _ h => h)
  intro token
  apply Triple.seq (hother ?_) (fun _ _ h => h)
  · intro found
    cases found with
    | none => exact .done fun _ h => h
    | some login =>
        dsimp only
        cases hcar : ConfirmVehicleService.findCar login.cars command.carId with
        | none => exact .done fun _ h => h
        | some car =>
            dsimp only
            rw [base_bind]
            apply Triple.seq (hother (ask_effects (by simp))) (fun _ _ h => h)
            intro found
            cases found with
            | none => exact .done fun _ h => h
            | some qrSession =>
                dsimp only
                split
                · exact .done fun _ h => h
                split
                · exact .done fun _ h => h
                exact bindVehicle_carding _ _ _ _ (findCar_mem hcar).2
  · unfold ConfirmVehicleService.getLoginResult
    apply Program.Calls.bind
    · exact ask_effects (by simp)
    · intro found
      cases found with
      | some result => trivial
      | none => exact ask_effects (by simp)

theorem refreshAccessToken_carding (refreshToken : String) :
    Carding rt t (fun _ => True) (base (RefreshAccessTokenService.execute rt refreshToken))
      (fun _ _ => True) := by
  unfold RefreshAccessTokenService.execute
  split
  · exact .done fun _ h => h
  simp only [Program.bind_eq, base_bind]
  apply Triple.bind (M := fun (found : Option AppRefreshToken) s =>
    ∀ record, found = some record → s.1.base.owner record.carId = some record.userId)
  · apply Triple.conseq (ask_carding (.findTokenByHash (rt.tokenHash refreshToken)) rfl
      certified_true (M := fun found s => ∀ record, found = some record →
        s.1.base.owner record.carId = some record.userId) ?_ ?_) (fun _ h => h)
    · intro r s hr
      cases r with
      | ok found => exact hr found rfl
      | error e => trivial
    · exact fun found s s' hk h record hfound => hk.owners _ _ (h record hfound)
    · intro s found _ hi hfind record hfound
      subst hfound
      exact hi.refresh record (mem_of_get? (Except.ok.inj hfind))
  intro found
  cases found with
  | none => exact .done fun _ _ => trivial
  | some record =>
      dsimp only
      split
      · exact .done fun _ _ => trivial
      · exact .done fun _ _ => trivial
      rw [base_bind]
      have hcertified := certified_owner record.userId record.carId
      apply Triple.conseq ?_ (fun s hs => hs record rfl) (fun _ _ h => h)
      have hnow : Effects [] (ask .now) := ask_effects (by simp)
      apply Triple.seq (plain_carding hnow hcertified (by decide)) (fun _ _ _ => trivial)
      intro now
      split
      · rw [base_bind]
        apply Triple.conseq ?_ (fun _ _ => trivial) (fun _ _ h => h)
        exact Triple.seq (markTokenExpired_carding _) (fun _ _ h => h) fun _ => .done fun _ h => h
      · exact Triple.conseq (issueToken_carding record.userId record.carId _) (fun _ h => h)
          fun _ _ _ => trivial

/-! ## Card orders and the keys stored for them -/

theorem setOrder_cardStep {key : String} {order : CardOrder} {ex : Option Nat} {m : Mode PyError}
    {r : Except PyError Unit}
    (hordered : CardsKept s s' → (t, order) ∈ s'.2.saved → Ordered order s')
    (ho : (carded rt).outcome t (.base (.cardOrders (.set key order ex))) m s = some (r, s')) :
    CardStep s s' := by
  apply outcome_cardStep ?_ ho
  intro r₀ _ he hg
  obtain ⟨-, hw⟩ := exec_base he
  have hkept : CardsKept s s' := by
    constructor
    · rw [hw]
      exact fun _ _ h => h
    · rw [hg]
      exact List.subset_cons_self _ _
    · rw [hg]
      exact fun _ h => h
  apply CardStep.of_frame (World.exec_frame he) hkept
  · exact fun h => by cases h
  · exact fun h => by cases h
  · intro _ k e hentry
    have hwritten : s'.1.base.cardOrders = Function.update s.1.base.cardOrders key
        (some ⟨order, ex.map fun seconds => s.1.base.now + 1000 * seconds⟩) := by rw [hw]; rfl
    rw [hwritten] at hentry
    rcases Cache.update_eq_some hentry with ⟨-, rfl⟩ | ⟨-, hold⟩
    · right
      apply hordered hkept
      rw [hg]
      exact .head _
    · exact .inl hold
  · exact fun h => by cases h
  · rw [hg]
    exact fun t req h => .inl h

theorem updatePlate_carding {P : Carded → Prop} (hP : Certified P) (carId plate : String) :
    Carding rt t P (base (ask (.updatePlate carId plate))) (fun _ => P) := by
  apply Triple.perform hP.stable
  intro s m r s' hs _ _ ho
  have hstep : CardStep s s' := by
    apply outcome_cardStep ?_ ho
    intro r₀ _ he hg
    rw [cardHistory_of_none rfl rfl rfl] at hg
    apply CardStep.of_owners (World.exec_frame he) hg
    intro u c hown
    rcases exec_write rfl he with ⟨b', hx, hb⟩ | ⟨hb, -⟩
    · rw [hb]
      rwa [Base.updatePlate_owner hx]
    · rwa [hb]
  exact ⟨hstep, hP s s' hstep.kept hs⟩

namespace CreateCardOrderService

/-- What is done once the plate is the user's. -/
def record (user : TokenClaims) : BaseService CreateCardOrderResult := do
  let orderId ← BaseService.randomText "order-"
  save .cardOrders orderId ⟨orderId, user.userId, user.subject, .pending⟩ cardOrderTtlSeconds
  let pgUrl ← ask (.createCardRegistrationUrl orderId)
  return ⟨orderId, pgUrl⟩

end CreateCardOrderService

theorem createCardOrder_rule {σ : Type} {S : System Op PyError Reply σ Tid Start Env}
    {π : Policy Op PyError σ Tid Start Env} {R : Contract σ Tid} {P : σ → Prop}
    {Q : Except PyError CreateCardOrderResult → σ → Prop} {command : CreateCardOrderCommand}
    {M : TokenClaims → σ → Prop} (hraises : ∀ user e s, M user s → Q (.error e) s)
    (htoken : S.Triple π R t P (base (BaseService.validateAppToken command.accessToken))
      (fun r s => match r with
        | .ok user => M user s
        | .error e => Q (.error e) s))
    (hreads : ∀ user (op : BaseOp Bool), op.effect = .nothing →
      S.Triple π R t (M user) (base (ask op)) (fun _ => M user))
    (hplate : ∀ user plate, S.Triple π R t (M user) (base (ask (.updatePlate user.subject plate)))
      (fun _ => M user))
    (hrecord : ∀ user, S.Triple π R t (M user) (base (CreateCardOrderService.record user)) Q) :
    S.Triple π R t P (base (CreateCardOrderService.execute command)) Q := by
  unfold CreateCardOrderService.execute
  simp only [Program.bind_eq, base_bind]
  apply Triple.bind (M := M)
  · apply Triple.conseq htoken (fun _ h => h)
    intro r s hr
    cases r <;> exact hr
  intro user
  split
  · exact .done fun s hs => hraises user _ s hs
  rw [base_bind]
  apply Triple.seq (hreads user _ rfl) (fun e s hs => hraises user e s hs)
  intro known
  split
  · exact .done fun s hs => hraises user _ s hs
  generalize CreateCardOrderService.normalizePlate command.plate = plate
  generalize CreateCardOrderService.isPlate plate = wellFormed
  split
  · exact .done fun s hs => hraises user _ s hs
  rw [base_bind]
  apply Triple.seq (hreads user _ rfl) (fun e s hs => hraises user e s hs)
  intro owner
  split
  · exact .done fun s hs => hraises user _ s hs
  rw [base_bind]
  apply Triple.seq (hplate user plate) (fun e s hs => hraises user e s hs)
  exact fun _ => hrecord user

theorem createCardOrder_carding (n : Nat) (command : CreateCardOrderCommand) :
    Carding rt (.backend n (.createCardOrder command)) (fun _ => True)
      (base (CreateCardOrderService.execute command)) (fun _ _ => True) := by
  have hother {β : Type} {p : BaseService β} (claims : TokenClaims) (hp : Effects [.draw] p) :
      Carding rt (.backend n (.createCardOrder command)) (OwnerToken command.accessToken claims)
        (base p) (fun _ => OwnerToken command.accessToken claims) :=
    plain_carding hp (certified_ownerToken command.accessToken claims) (by decide)
  apply createCardOrder_rule (M := OwnerToken command.accessToken)
  · exact fun _ _ _ _ => trivial
  · apply Triple.conseq (validateAppToken_carding command.accessToken) (fun _ h => h)
    intro r s hr
    cases r with
    | ok claims => exact hr claims rfl
    | error e => trivial
  · intro claims op hop
    apply hother claims
    apply ask_effects
    rw [hop]
    exact .head _
  · exact fun claims plate => updatePlate_carding (certified_ownerToken _ claims) _ plate
  intro claims
  have hcertified := certified_ownerToken command.accessToken claims
  unfold CreateCardOrderService.record
  simp only [Program.bind_eq, base_bind]
  apply Triple.seq (hother claims (randomText_effects _)) (fun _ _ _ => trivial)
  intro orderId
  apply Triple.seq ?_ (fun _ _ _ => trivial)
  · intro _
    apply Triple.seq (hother claims (ask_effects (by simp))) (fun _ _ _ => trivial)
    exact fun _ => .done fun _ _ => trivial
  · apply Triple.perform hcertified.stable
    intro s m r s' hs _ _ ho
    have hstep : CardStep s s' := by
      apply setOrder_cardStep ?_ ho
      intro hkept hsaved
      obtain ⟨htoken, htyp, hown⟩ := hcertified s s' hkept hs
      exact ⟨⟨n, command, claims, _, hsaved, htoken, htyp, rfl, rfl, rfl⟩, hown⟩
    exact ⟨hstep, hcertified s s' hstep.kept hs⟩

theorem readOrder_carding {P : Carded → Prop} (hP : Certified P) (orderId : String) :
    Carding rt t P (base (read .cardOrders orderId))
      (fun r s => ∀ order, r = .ok (some order) → Ordered order s) := by
  apply Triple.conseq (ask_carding (.cardOrders (.get orderId)) rfl hP
    (M := fun found s => ∀ order, found = some order → Ordered order s) ?_ ?_) (fun _ h => h)
  · intro r s hr order hfound
    exact hr _ hfound order rfl
  · exact fun found s s' hk h order hfound => hk.ordered (h order hfound)
  · intro s found _ hi hread order hfound
    subst hfound
    obtain ⟨e, he, rfl⟩ := Option.map_eq_some_iff.mp (Except.ok.inj hread)
    exact hi.orders _ e (Cache.read_eq_some.mp he).1

/-- A billing key is stored with the order that names the car's owner. -/
theorem Base.upsertBillingKey_rows {b b' : Base} {order : CardOrder} {billingKey lastFour : String}
    (h : b.upsertBillingKey order billingKey lastFour = .ok b') :
    ∀ row ∈ b'.billingKeys, row ∈ b.billingKeys ∨
      row.storedFor = order ∧ row.billingKey = billingKey ∧ row.carId = order.carId := by
  unfold upsertBillingKey at h
  dsimp only at h
  split_ifs at h
  split at h
  · cases h
    intro row hrow
    rcases List.mem_cons.mp hrow with rfl | hold
    · exact .inr ⟨rfl, rfl, rfl⟩
    · exact .inl hold
  · cases h
    intro row hrow
    obtain ⟨row', hold, rfl⟩ := List.mem_map.mp hrow
    by_cases hcar : row'.carId = order.carId
    · right
      simp [hcar]
    · left
      rwa [if_neg hcar]

theorem upsertBillingKey_carding (order : CardOrder) (billingKey lastFour : String) :
    Carding rt t (Ordered order) (base (ask (.upsertBillingKey order billingKey lastFour)))
      (fun _ => Ordered order) := by
  have hcertified := certified_ordered order
  apply Triple.perform hcertified.stable
  intro s m r s' hs _ _ ho
  have hstep : CardStep s s' := by
    apply outcome_cardStep ?_ ho
    intro r₀ _ he hg
    have hf := World.exec_frame he
    have hkept : CardsKept s s' := by
      apply CardsKept.of_frame hf (by simp [Op.effect])
      · rw [hg]
        exact fun _ h => h
      · rw [hg]
        exact List.subset_append_right _ _
    apply CardStep.of_frame hf hkept
    · exact fun h => by cases h
    · exact fun h => by cases h
    · exact fun h => by cases h
    · intro _ row hrow
      obtain ⟨hr, -⟩ := exec_base he
      rcases exec_write rfl he with ⟨b, hx, hb⟩ | ⟨hb, -⟩
      · rcases Base.upsertBillingKey_rows hx row (hb ▸ hrow) with hold | ⟨hfor, hkey, hcar⟩
        · exact .inl hold
        · right
          have hok : r₀ = .ok () := by
            rw [← hr]
            simp [Base.exec, Base.write, hx]
          have hstored : (order, billingKey) ∈ s'.2.stored := by
            rw [hg, hok]
            exact .head _
          rw [StoredKey, hfor, hkey, hcar]
          exact ⟨hstored, hkept.ordered hs, rfl⟩
      · exact .inl (hb ▸ hrow)
    · rw [hg]
      exact fun t req h => .inl h
  exact ⟨hstep, hcertified s s' hstep.kept hs⟩

theorem completeOrder_carding (orderId : String) : Carding rt t (fun _ => True)
    (base (update .cardOrders orderId fun o => { o with status := .complete }))
    (fun _ _ => True) := by
  have hset (order : CardOrder) (ex : Option Nat) : Carding rt t (Ordered order)
      (base (ask (.cardOrders (.set orderId { order with status := .complete } ex))))
      (fun _ => Ordered order) := by
    apply Triple.perform (certified_ordered order).stable
    intro s m r s' hs _ _ ho
    have hstep : CardStep s s' := by
      apply setOrder_cardStep ?_ ho
      intro hkept _
      exact hkept.ordered hs
    exact ⟨hstep, hstep.kept.ordered hs⟩
  have httl : Effects [] (ask (.cardOrders (.ttl orderId))) := ask_effects (by simp)
  rw [base_update]
  apply update_triple (M := fun order => Ordered order)
  · exact readOrder_carding certified_true orderId
  · exact fun order => plain_carding httl (certified_ordered order) (by decide)
  · intro order ex
    exact Triple.conseq (hset order ex) (fun _ h => h) fun _ _ _ => trivial

/-! ## The webhook of a card -/

namespace HandleCardWebhookService

/-- The idempotency check of an order that is not pending. -/
def recheck (command : HandleCardWebhookCommand) : BaseService Unit := do
  match ← read .cardOrders command.orderId with
  | some _ => return ()
  | none => throw (.valueError
      ("order를 찾을 수 없거나 만료되었습니다. order_id=" ++ command.orderId))

/-- What is done for a pending order. -/
def register (command : HandleCardWebhookCommand) (order : CardOrder) : BaseService Unit := do
  if (← ask (.getVehicleByCarId order.carId)).isNone then
    throw (.valueError ("vehicle을 찾을 수 없습니다. car_id=" ++ order.carId))
  else
    ask (.upsertBillingKey order command.billingKey command.cardLastFour)
    let _ ← update .cardOrders command.orderId fun o => { o with status := .complete }
    return ()

theorem recheck_effects (command : HandleCardWebhookCommand) : Effects [] (recheck command) := by
  apply orderCheck_effects
  intro found
  cases found with
  | none => trivial
  | some order => trivial

end HandleCardWebhookService

section
variable {σ : Type} {S : System Op PyError Reply σ Tid Start Env}
  {π : Policy Op PyError σ Tid Start Env} {R : Contract σ Tid} {P : σ → Prop}
  {Q : Except PyError Unit → σ → Prop}

theorem cardWebhook_rule {command : HandleCardWebhookCommand} {M : Option CardOrder → σ → Prop}
    (hraises : ∀ e s, P s → Q (.error e) s)
    (hverify : S.Triple π R t P
      (base (ask (.verifySignature command.signatureTimestamp command.signature))) (fun _ => P))
    (hread : S.Triple π R t P (base (read .cardOrders command.orderId)) (fun r s =>
      match r with
      | .ok found => M found s
      | .error e => Q (.error e) s))
    (hrecheck : ∀ found, (∀ order, found = some order → order.status ≠ .pending) →
      S.Triple π R t (M found) (base (HandleCardWebhookService.recheck command)) Q)
    (hregister : ∀ order, order.status = .pending →
      S.Triple π R t (M (some order)) (base (HandleCardWebhookService.register command order)) Q) :
    S.Triple π R t P (base (HandleCardWebhookService.execute command)) Q := by
  unfold HandleCardWebhookService.execute
  simp only [Program.bind_eq, base_bind]
  apply Triple.seq hverify (fun e s hs => hraises e s hs)
  intro valid
  split
  · exact .done fun s hs => hraises _ s hs
  split
  · exact .done fun s hs => hraises _ s hs
  split
  · exact .done fun s hs => hraises _ s hs
  rw [base_bind]
  apply Triple.bind (M := M)
  · apply Triple.conseq hread (fun _ h => h)
    intro r s hr
    cases r <;> exact hr
  intro found
  cases found with
  | none =>
      apply hrecheck none
      intro order h
      cases h
  | some order =>
      dsimp only
      split
      · rename_i hstatus
        apply hrecheck (some order)
        intro order h
        cases h
        exact hstatus
      · rename_i hstatus
        exact hregister order (not_not.mp hstatus)

theorem register_rule {command : HandleCardWebhookCommand} {order : CardOrder}
    (hraises : ∀ e s, P s → Q (.error e) s)
    (hvehicle : S.Triple π R t P (base (ask (.getVehicleByCarId order.carId))) (fun _ => P))
    (hstore : S.Triple π R t P
      (base (ask (.upsertBillingKey order command.billingKey command.cardLastFour))) (fun _ => P))
    (hcomplete : S.Triple π R t P
      (base (update .cardOrders command.orderId fun o => { o with status := .complete }))
      (fun r s => Q (r.map fun _ => ()) s)) :
    S.Triple π R t P (base (HandleCardWebhookService.register command order)) Q := by
  unfold HandleCardWebhookService.register
  simp only [Program.bind_eq, base_bind]
  apply Triple.seq hvehicle (fun e s hs => hraises e s hs)
  intro vehicle
  split
  · exact .done fun s hs => hraises _ s hs
  rw [base_bind]
  apply Triple.seq hstore (fun e s hs => hraises e s hs)
  intro _
  rw [base_bind]
  apply Triple.bind (M := fun _ s => Q (.ok ()) s)
  · apply Triple.conseq hcomplete (fun _ h => h)
    intro r s hr
    cases r <;> exact hr
  · exact fun _ => .done fun _ h => h

end

theorem cardWebhook_carding (command : HandleCardWebhookCommand) :
    Carding rt t (fun _ => True) (base (HandleCardWebhookService.execute command))
      (fun _ _ => True) := by
  have hverify : Effects [] (ask (.verifySignature command.signatureTimestamp command.signature)) :=
    ask_effects (by simp)
  have hvehicle (carId : String) : Effects [] (ask (.getVehicleByCarId carId)) :=
    ask_effects (by simp)
  apply cardWebhook_rule (M := fun found s => ∀ order, found = some order → Ordered order s)
  · exact fun _ _ _ => trivial
  · exact plain_carding hverify certified_true (by decide)
  · apply Triple.conseq (readOrder_carding certified_true command.orderId) (fun _ h => h)
    intro r s hr
    cases r with
    | ok found => exact fun order hfound => hr order (by rw [hfound])
    | error e => trivial
  · intro found _
    exact Triple.conseq (plain_carding (HandleCardWebhookService.recheck_effects command)
      certified_true (by decide)) (fun _ _ => trivial) fun _ _ h => h
  · intro order _
    have hregister : Carding rt t (Ordered order)
        (base (HandleCardWebhookService.register command order)) (fun _ _ => True) := by
      apply register_rule
      · exact fun _ _ _ => trivial
      · exact plain_carding (hvehicle _) (certified_ordered order) (by decide)
      · exact upsertBillingKey_carding order _ _
      · exact Triple.conseq (completeOrder_carding command.orderId) (fun _ _ => trivial)
          fun _ _ h => h
    exact Triple.conseq hregister (fun s hs => hs order rfl) fun _ _ h => h

/-! ## Payments -/

theorem authorise_carding (command : ProcessPaymentCommand) : Carding rt t (fun _ => True)
    (base (ProcessPaymentService.authorise command))
    (fun r s => ∀ session carId, r = .ok (session, carId) →
      ∃ claims, OwnerToken command.accessToken claims s ∧ carId = claims.subject) := by
  have hraise (e : PyError) (s : Carded) : ∀ session carId,
      (.error e : Except PyError (ParkingSession × String)) = .ok (session, carId) →
        ∃ claims, OwnerToken command.accessToken claims s ∧ carId = claims.subject :=
    fun session carId h => by cases h
  unfold ProcessPaymentService.authorise
  simp only [Program.bind_eq, base_bind]
  apply Triple.bind (M := OwnerToken command.accessToken)
  · apply Triple.conseq (validateAppToken_carding command.accessToken) (fun _ h => h)
    intro r s hr
    cases r with
    | ok claims => exact hr claims rfl
    | error e => exact hraise e s
  intro claims
  have hcertified := certified_ownerToken command.accessToken claims
  have hother {β : Type} {p : BaseService β} (hp : Effects [] p) :
      Carding rt t (OwnerToken command.accessToken claims) (base p)
        (fun _ => OwnerToken command.accessToken claims) := plain_carding hp hcertified (by decide)
  apply Triple.seq (hother (getQuote_effects _)) (fun e s _ => hraise e s)
  intro found
  cases found with
  | none => exact .done fun s _ => hraise _ s
  | some quote =>
      dsimp only
      split
      · exact .done fun s _ => hraise _ s
      rw [base_bind]
      apply Triple.seq (hother (getSessionById_effects _)) (fun e s _ => hraise e s)
      intro found
      cases found with
      | none => exact .done fun s _ => hraise _ s
      | some session =>
          dsimp only
          split
          · exact .done fun s _ => hraise _ s
          · apply Triple.done
            intro s hs session' carId h
            cases h
            exact ⟨claims, hs, rfl⟩

theorem send_carding (req : ChargeRequest) : Carding rt t (OwnCharge t req)
    (call (.pgHttp (.send req))) (fun _ _ => True) := by
  apply Triple.perform (certified_ownCharge t req).stable
  intro s m r s' hs _ _ ho
  refine ⟨outcome_cardStep ?_ ho, trivial⟩
  intro r₀ _ he hg
  have hf := World.exec_frame he
  have hkept : CardsKept s s' := by
    apply CardsKept.of_frame hf (by simp [Op.effect])
    · rw [hg]
      exact fun _ h => h
    · rw [hg]
      exact fun _ h => h
  apply CardStep.of_frame hf hkept
  · exact fun h => by cases h
  · exact fun h => by cases h
  · exact fun h => by cases h
  · exact fun h => by cases h
  · intro t' req' hasked
    rw [hg] at hasked
    rcases List.mem_cons.mp hasked with hnew | hold
    · cases hnew
      exact .inr (hkept.ownCharge hs)
    · exact .inl hold

theorem pgFree_carding {p : Service α} (hp : ServiceEffects [.draw, .sessionStatus] p)
    (hpg : PgFree p) : Carding rt t (fun _ => True) p (fun _ _ => True) :=
  uncarded_program (uncarded_of_effects hp hpg (by decide)) certified_true

theorem charge_carding (session : ParkingSession) (txId : TxId) (carId key billingKey : String)
    (command : ProcessPaymentCommand) :
    Carding rt t (OwnCharge t ⟨billingKey, command.amount, command.currency, key⟩)
      (ProcessPaymentService.charge session txId carId key billingKey command)
      (fun _ _ => True) := by
  unfold ProcessPaymentService.charge HttpxPgClient.chargeBillingKey HttpxPgClient.post
  simp only [Program.bind_eq, Program.tryCatch_eq]
  apply Triple.bind (M := fun _ _ => True)
  · apply Triple.bind (M := fun _ _ => True)
    · apply Triple.tryCatch (M := fun _ _ => True)
      · apply Triple.bind (M := fun _ _ => True)
        · apply Triple.conseq (send_carding _) (fun _ h => h)
          intro r s _
          cases r <;> trivial
        · intro id
          have hreceive : PgFree (call (.pgHttp (.receive id))) := ⟨fun h => h, fun _ => trivial⟩
          apply Triple.conseq (pgFree_carding (call_effects rfl) hreceive) (fun _ h => h)
          intro r s _
          cases r <;> trivial
      · exact fun e => .done fun _ _ => trivial
    · intro response
      apply Triple.done
      intro s _
      split <;> trivial
  · intro result
    cases result with
    | success pgTxId approvalNo =>
        exact pgFree_carding ((settle_effects ..).mono (by decide)) (settle_pgFree ..)
    | failure pgTxId reason =>
        apply pgFree_carding
        · exact Program.Calls.bind (call_effects rfl) fun _ => trivial
        · exact (updateTransactionStatus_pgFree ..).bind fun _ => trivial

theorem pay_carding (n : Nat) (session : ParkingSession) (key : String)
    (command : ProcessPaymentCommand) (claims : TokenClaims) :
    Carding rt (.backend n (.processPayment command)) (OwnerToken command.accessToken claims)
      (ProcessPaymentService.pay session claims.subject key command) (fun _ _ => True) := by
  have hcertified := certified_ownerToken command.accessToken claims
  unfold ProcessPaymentService.pay
  simp only [Program.bind_eq, Program.tryCatch_eq]
  apply Triple.bind (M := fun (found : Option VehicleBillingKey) s => ∀ record, found = some record →
    OwnCharge (.backend n (.processPayment command))
      ⟨record.billingKey, command.amount, command.currency, key⟩ s)
  · apply Triple.conseq (ask_carding (.getActiveBillingKey claims.subject) rfl hcertified
      (M := fun found s => ∀ record, found = some record →
        OwnCharge (.backend n (.processPayment command))
          ⟨record.billingKey, command.amount, command.currency, key⟩ s) ?_ ?_) (fun _ h => h)
    · intro r s hr
      cases r with
      | ok found => exact hr found rfl
      | error e => trivial
    · exact fun found s s' hk h record hfound => hk.ownCharge (h record hfound)
    · intro s found hs hi hread record hfound
      subst hfound
      obtain ⟨htoken, htyp, hown⟩ := hs
      obtain ⟨hfind, -⟩ := Option.filter_eq_some_iff.mp (Except.ok.inj hread)
      obtain ⟨hstored, ⟨hmade, howner⟩, hcar⟩ := hi.keys record (mem_of_get? hfind)
      have hsubject : record.storedFor.carId = claims.subject := hcar.trans (col_of_get? hfind)
      rw [hsubject, hown] at howner
      have huser : record.storedFor.userId = claims.userId := (Option.some.inj howner).symm
      exact ⟨n, command, claims, rfl, htoken, htyp, hown, record.storedFor, hstored, hmade, huser,
        hsubject⟩
  intro found
  cases found with
  | none => exact .done fun _ _ => trivial
  | some record =>
      have hcharge := certified_ownCharge (.backend n (.processPayment command))
        ⟨record.billingKey, command.amount, command.currency, key⟩
      apply Triple.conseq ?_ (fun s hs => hs record rfl) (fun _ _ h => h)
      have hdraw : Effects [.draw] (ask .draw) := ask_effects (by simp)
      apply Triple.seq (plain_carding hdraw hcharge (by decide)) (fun _ _ _ => trivial)
      intro drawn
      have hcreate : ServiceEffects [] (createPendingTransaction (.v4 drawn) key command.sessionId
          command.amount command.currency record.billingKey) := createPendingTransaction_effects ..
      apply Triple.seq (uncarded_program (uncarded_of_effects hcreate
        (createPendingTransaction_pgFree ..) (by decide)) hcharge) (fun _ _ _ => trivial)
      intro _
      apply Triple.tryCatch (M := fun _ _ => True)
      · apply Triple.conseq (charge_carding session (.v4 drawn) claims.subject key
          record.billingKey command) (fun _ h => h)
        intro r s _
        cases r <;> trivial
      · intro e
        have hfail : ServiceEffects [] (updateTransactionStatus key .failed (some e.str)) :=
          call_effects rfl
        exact Triple.seq (uncarded_program (uncarded_of_effects hfail
          (updateTransactionStatus_pgFree ..) (by decide)) certified_true) (fun _ _ h => h)
          fun _ => .done fun _ h => h

theorem processPayment_carding (n : Nat) (command : ProcessPaymentCommand) :
    Carding rt (.backend n (.processPayment command)) (fun _ => True)
      (ProcessPaymentService.execute rt.sha256 command) (fun _ _ => True) := by
  unfold ProcessPaymentService.execute
  split
  · have hdraw : Effects [.draw] (ask .draw) := ask_effects (by simp)
    exact Triple.seq (plain_carding hdraw certified_true (by decide)) (fun _ _ h => h) fun _ =>
      .done fun _ h => h
  simp only [Program.bind_eq]
  apply Triple.bind (M := fun (x : ParkingSession × String) s =>
    ∃ claims, OwnerToken command.accessToken claims s ∧ x.2 = claims.subject)
  · apply Triple.conseq (authorise_carding command) (fun _ h => h)
    intro r s hr
    cases r with
    | ok x => exact hr x.1 x.2 rfl
    | error e => trivial
  intro ⟨session, carId⟩
  apply Triple.exists
  intro claims s ⟨hs, hcar⟩
  dsimp only at hcar
  subst hcar
  revert s
  show Carding rt _ (OwnerToken command.accessToken claims) _ _
  have hcertified := certified_ownerToken command.accessToken claims
  have hfind : ServiceEffects [] (getTransactionByIdempotencyKey
    (ProcessPaymentService.idempotencyKey rt.sha256 claims.subject command)) := call_effects rfl
  apply Triple.seq (uncarded_program (uncarded_of_effects hfind ⟨fun h => h, fun _ => trivial⟩
    (by decide)) hcertified) (fun _ _ _ => trivial)
  intro found
  cases found with
  | some existing =>
      apply Triple.conseq ?_ (fun _ _ => trivial) (fun _ _ h => h)
      apply pgFree_carding ?_ (replay_pgFree ..)
      unfold ProcessPaymentService.replay
      split
      · exact (notifyPmsPaymentComplete_effects _).bind fun _ => trivial
      · trivial
  | none =>
      dsimp only
      split
      · exact .done fun _ _ => trivial
      split
      · apply Triple.conseq ?_ (fun _ _ => trivial) (fun _ _ h => h)
        apply pgFree_carding
        · apply (createPendingTransaction_effects ..).bind
          exact fun _ => (settle_effects ..).mono (by decide)
        · apply (createPendingTransaction_pgFree ..).bind
          exact fun _ => settle_pgFree ..
      · exact pay_carding n session _ command claims

/-! ## Runs -/

/-- Nobody owns a car, and no card is registered. -/
def World.Unregistered (w : World) : Prop :=
  w.base.issuedTokens = [] ∧ w.base.vehicles = [] ∧ w.base.billingKeys = [] ∧
    w.base.refreshTokens = [] ∧ ∀ k, w.base.cardOrders k = none

def Unregistered (s : Carded) : Prop := s.1.Unregistered ∧ s.2 = .empty

theorem mapped_rule {π : Policy Op PyError Carded Tid Start Env} {R : Contract Carded Tid}
    {p : BaseService α} {f : α → Reply}
    (hp : (carded rt).Triple π R t (fun _ => True) (base p) (fun _ _ => True)) :
    (carded rt).Triple π R t (fun _ => True) (base (f <$> p)) (fun _ _ => True) := by
  rw [base_map]
  exact Triple.map hp

theorem program_carding (n : Nat) (request : Request) : Carding rt (.backend n request)
    (fun _ => True) (program rt request) (fun _ _ => True) := by
  have hplain {es : List Effect} {β : Type} {p : BaseService β} {f : β → Reply} (hp : Effects es p)
      (he : ∀ e ∈ Effect.nothing :: es,
        e ∉ [Effect.vehicle, .token, .refreshToken, .cardOrder, .billingKey]) :
      Carding rt (.backend n request) (fun _ => True) (base (f <$> p)) (fun _ _ => True) :=
    mapped_rule (plain_carding hp certified_true he)
  cases request with
  | createQrSession c => exact hplain (createQrSession_effects rt c) (by decide)
  | startHyundaiOAuth x => exact hplain (startHyundaiOAuth_effects rt x) (by decide)
  | hyundaiOAuthCallback c => exact mapped_rule (hyundaiOAuthCallback_carding c)
  | confirmVehicle c => exact mapped_rule (confirmVehicle_carding c)
  | refreshAccessToken x => exact mapped_rule (refreshAccessToken_carding x)
  | createCardOrder c => exact mapped_rule (createCardOrder_carding n c)
  | cardWebhook c => exact mapped_rule (cardWebhook_carding c)
  | registerPreNotify c => exact hplain (registerPreNotify_effects c) (by decide)
  | entryWebhook c => exact hplain (entryWebhook_effects rt c) (by decide)
  | getParkingFee c => exact hplain (getParkingFee_effects c) (by decide)
  | processPayment c => exact Triple.map (processPayment_carding n c)
  | retryEntries => exact hplain processEntryRetries_effects (by decide)
  | retryPayments =>
      have heffects := program_effects rt .retryPayments
      apply uncarded_program (uncarded_of_effects heffects ?_ (by decide)) certified_true
      apply Program.Calls.bind
      · apply Program.Calls.bind
        · exact ⟨fun h => h, fun r => trivial⟩
        · exact fun ids => retryPayments_pgFree ids
      · exact fun _ => trivial

theorem begin_carding {x : Start} {p : Service Reply}
    (h : (carded rt).begin x s = some (t, p, s')) : CardStep s s' ∧
      Carding rt t (fun _ => True) p (fun _ _ => True) := by
  obtain ⟨⟨t', p', w'⟩, hb, h⟩ := Option.map_eq_some_iff.mp h
  cases h
  have hf : Frame .nothing s.1.base w'.base := by
    rw [(begin_spec hb).base]
    exact .refl _ _
  refine ⟨.of_other hf rfl (by decide), ?_⟩
  cases x with
  | backend n request =>
      cases hb
      exact program_carding n request
  | pg id =>
      obtain ⟨y, -, hb⟩ := Option.map_eq_some_iff.mp hb
      cases hb
      have hserves := servePg_serves id y.1
      exact Triple.map (pgFree_carding (effects_of_serves hserves) (pgFree_of_serves hserves))
  | card id =>
      obtain ⟨y, -, hb⟩ := Option.map_eq_some_iff.mp hb
      cases hb
      have hserves := serveCard_serves id y.1
      exact Triple.map (pgFree_carding (effects_of_serves hserves) (pgFree_of_serves hserves))

theorem environment_cardStep {x : Env} (h : (carded rt).environment x s = some s') :
    CardStep s s' := by
  obtain ⟨w', he, rfl⟩ := Option.map_eq_some_iff.mp h
  obtain ⟨now, outside, scanned, -, hb⟩ := environment_base he
  have hown : ∀ u c, s.1.base.owner c = some u → w'.base.owner c = some u := by
    rw [hb]
    exact fun _ _ h => h
  constructor
  · exact ⟨hown, fun _ h => h, fun _ h => h⟩
  · rw [hb]
    exact fun claims h => .inl h
  · rw [hb]
    exact fun row h => .inl ⟨row, h, rfl, rfl⟩
  · rw [hb]
    exact fun k e h => .inl h
  · rw [hb]
    exact fun row h => .inl h
  · exact fun t req h => .inl h

theorem carPayIn_cards (rt : Runtime) :
    (carded rt).Meets ownerPolicy.withHistory carding Unregistered .unknown := by
  refine Meets.of_state ?_ ?_ ?_ ?_
  · rintro s ⟨⟨htokens, -, hkeys, hrefresh, horders⟩, hnone⟩
    constructor
    · simp [htokens]
    · simp [hrefresh]
    · simp [horders]
    · simp [hkeys]
    · simp [hnone, CardHistory.empty]
  · rintro s s' hi (⟨t, hg⟩ | he)
    · exact hg.backed hi
    · exact he.backed hi
  · exact fun x s t p s' hb => ⟨(begin_carding hb).1, (begin_carding hb).2 s' trivial⟩
  · exact fun x s s' he => environment_cardStep he

/-- A payment asks for charges to a card that its token's user has registered for
the user's own car, as long as no confirmation gives a car to another user. -/
theorem owner_card_charged (rt : Runtime) {c : Config Op PyError Reply Carded Tid} {t : Tid}
    {req : ChargeRequest} (hc : (carded rt).Reachable ownerPolicy.withHistory Unregistered c)
    (h : pendingCharge? (c.pool t) = some req) : OwnCharge t req c.state := by
  obtain ⟨next, hlive⟩ : ∃ next, c.pool t = .live (.call (.pgHttp (.send req)) next) :=
    Charges.call (c := ⟨c.state.1, c.pool⟩) h
  -- were the call answered, its request would be in the history
  have ha : (carded rt).advance (.call t .answered) c = some
      ⟨({ c.state.1 with pgCalls := c.state.1.pgCalls ++ [⟨t, req, .sent, .waiting⟩] },
        { c.state.2 with asked := (t, req) :: c.state.2.asked }),
        Function.update c.pool t (.ofProgram (next (.ok c.state.1.pgCalls.length)))⟩ := by
    simp only [advance, hlive]
    rfl
  have hp : Permits ownerPolicy.withHistory (.call t .answered) c := by
    simp only [Permits, hlive]
    rfl
  exact ((carPayIn_cards rt).sound (hc.step _ hp ha)).1.asked t req (.head _)

/-! ## A household with one car -/

/-- Hyundai lists the same car for everybody. -/
def householdOutside : Outside :=
  { hyundai with vehicleList := fun _ => .ok [⟨"car-1", "IONIQ 5", "12가3456"⟩] }

def household : World :=
  { showroom with base := { showroom.base with
      drawn := 0, users := [], vehicles := [], billingKeys := [], parkingSessions := [],
      outside := householdOutside } }

theorem household_unregistered : Unregistered (household, .empty) :=
  ⟨⟨rfl, rfl, rfl, rfl, fun _ => rfl⟩, rfl⟩

namespace Household

open Garage

def login (n : Nat) (user session state : String) : List Event :=
  request n (.createQrSession ⟨session, "vin"⟩) 1 ++ request (n + 1) (.startHyundaiOAuth session) 3 ++
    request (n + 2) (.hyundaiOAuthCallback ⟨user, state⟩) 12 ++
      request (n + 3) (.confirmVehicle ⟨.signed ⟨.tempAccess, user, session, 900⟩, "car-1", "vin"⟩) 8

def appToken (user : String) : BearerToken := .signed ⟨.appAccess, user, "car-1", 3600⟩

/-- The user orders a card, and the PG reports its key. -/
def register (n : Nat) (user orderId billingKey : String) : List Event :=
  request n (.createCardOrder ⟨appToken user, "12가3456", "", true⟩) 7 ++
    request (n + 1) (.cardWebhook ⟨orderId, billingKey, "1234", "active", "", ""⟩) 7

def sessionId (digit : String) : String := "00000000-0000-0000-0000-00000000000" ++ digit

def payment (user digit : String) : Request :=
  .processPayment ⟨appToken user, sessionId digit, 1000, "KRW"⟩

def park (n : Nat) (user digit : String) : List Event :=
  request n (.registerPreNotify ⟨appToken user, "lot-1"⟩) 5 ++
    request (n + 1) (.entryWebhook ⟨"", "pms-1", "lot-1", "12가3456", "2024-01-01T09:00:00", ""⟩) 9 ++
      request (n + 2) (.getParkingFee ⟨appToken user, sessionId digit⟩) 5 ++
        request (n + 3) (payment user digit) 8

def asks (n : Nat) (user digit : String) (c : Config Op PyError Reply Carded Tid) : Bool :=
  (pendingCharge? (c.pool (.backend n (payment user digit)))).isSome

end Household

/-- Anna pays with her card for her car. -/
theorem owner_card_charged_household : ∃ c req, (carded plainRuntime).Reachable
    ownerPolicy.withHistory Unregistered c ∧
      pendingCharge? (c.pool (.backend 9 (Household.payment "anna" "3"))) = some req ∧
        OwnCharge (.backend 9 (Household.payment "anna" "3")) req c.state := by
  have hrun : ((carded plainRuntime).run ownerPolicy.withHistory
      (Household.login 0 "anna" "login-1" "state-0" ++ Household.register 4 "anna" "order-2" "bk-1" ++
        Household.park 6 "anna" "3") (boot (household, .empty))).any
          (Household.asks 9 "anna" "3") = true := by
    decide +kernel
  obtain ⟨c, hc, hasks⟩ := (carded plainRuntime).exists_of_run hrun household_unregistered
  obtain ⟨req, hreq⟩ := Option.isSome_iff_exists.mp hasks
  exact ⟨c, req, hc, hreq, owner_card_charged plainRuntime hc hreq⟩

/-- Ben confirms the car after Anna, and parks at the cost of her card. -/
theorem other_card_charged : ¬∀ rt c, (carded rt).Reachable Policy.any Unregistered c →
    ∀ t req, pendingCharge? (c.pool t) = some req → OwnCharge t req c.state := by
  intro h
  have hrun : ((carded plainRuntime).run Policy.any
      (Household.login 0 "anna" "login-1" "state-0" ++ Household.register 4 "anna" "order-2" "bk-1" ++
        Household.login 6 "ben" "login-2" "state-3" ++ Household.park 10 "ben" "5")
          (boot (household, .empty))).any (fun c => Household.asks 13 "ben" "5" c &&
            c.state.2.stored.all fun x => x.1.userId ≠ "ben") = true := by
    decide +kernel
  obtain ⟨c, hc, htest⟩ := (carded plainRuntime).exists_of_run hrun household_unregistered
  obtain ⟨hasks, hstored⟩ := (Bool.and_eq_true ..).mp htest
  obtain ⟨req, hreq⟩ := Option.isSome_iff_exists.mp hasks
  obtain ⟨n, command, claims, ht, htoken, -, -, order, hmem, -, huser, -⟩ := h _ c hc _ req hreq
  have hben : claims.userId = "ben" := by
    cases ht
    cases htoken
    rfl
  have hother := List.all_eq_true.mp hstored _ hmem
  simp [huser, hben] at hother

end CarPayIn
