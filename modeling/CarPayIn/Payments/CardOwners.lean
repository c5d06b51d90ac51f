import CarPayIn.Payments.OneCall
import CarPayIn.Payments.Alone
import CarPayIn.Login.OwnCars
import CarPayIn.Process.History
import CarPayIn.Store.Rules

/-! # What names the owner of its car

Tokens, orders, refresh tokens and billing keys are all about a car, and each
was made for the user the car belonged to at that time. They agree as long as
no confirmation gives a car that is in the table to another user.
-/

namespace CarPayIn

open Process Process.System Store Service

variable {rt : Runtime} {t : Tid} {w w' : World} {α : Type}

/-! ## Orders, stored keys and charges -/

/-- The card orders that were saved and by whom, the billing keys that were
stored and for which order, and the charges that the PG was asked for and by whom. -/
structure CardHistory where
  saved : List (Tid × CardOrder)
  stored : List (CardOrder × String)
  asked : List (Tid × ChargeRequest)

def CardHistory.empty : CardHistory := ⟨[], [], []⟩

def Op.savedOrder? {β : Type} : Op β → Option CardOrder
  | .base (.cardOrders (.set _ order _)) => some order
  | _ => none

def Op.storedKey? {β : Type} : Op β → Option (CardOrder × String)
  | .base (.upsertBillingKey order billingKey _) => some (order, billingKey)
  | _ => none

/-- A billing key is stored when its constraints hold. -/
def cardHistory (t : Tid) {β : Type} (op : Op β) (r : Except PyError β) (_ : World)
    (g : CardHistory) : CardHistory where
  saved := op.savedOrder?.toList.map (t, ·) ++ g.saved
  stored := (op.storedKey?.filter fun _ => r.isOk).toList ++ g.stored
  asked := op.charge?.toList.map (t, ·) ++ g.asked

abbrev Carded : Type := World × CardHistory

abbrev carded (rt : Runtime) : System Op PyError Reply Carded Tid Start Env :=
  (carPayIn rt).withHistory cardHistory

def Base.owner (b : Base) (carId : String) : Option String :=
  (get? Vehicle.carId carId b.vehicles).map Vehicle.userId

/-- The order was made with an application token, for that token's user and car. -/
def CardHistory.Made (g : CardHistory) (order : CardOrder) : Prop :=
  ∃ n command claims order', (.backend n (.createCardOrder command), order') ∈ g.saved ∧
    command.accessToken = .signed claims ∧ claims.typ = .appAccess ∧
    order'.orderId = order.orderId ∧ order.userId = claims.userId ∧ order.carId = claims.subject

/-- The user made the order for a car of theirs. -/
def Ordered (order : CardOrder) (s : Carded) : Prop :=
  s.2.Made order ∧ s.1.base.owner order.carId = some order.userId

/-- The billing key was stored by a webhook for an order of this user for this car. -/
def OwnKey (userId carId billingKey : String) (s : Carded) : Prop :=
  ∃ order, (order, billingKey) ∈ s.2.stored ∧ s.2.Made order ∧ order.userId = userId ∧
    order.carId = carId

/-- A payment asks for a charge to the card of its token's user, for the user's own car. -/
def OwnCharge (t : Tid) (req : ChargeRequest) (s : Carded) : Prop :=
  ∃ n command claims, t = .backend n (.processPayment command) ∧
    command.accessToken = .signed claims ∧ claims.typ = .appAccess ∧
    s.1.base.owner claims.subject = some claims.userId ∧
    OwnKey claims.userId claims.subject req.billingKey s

/-! ## The condition -/

/-- No confirmation gives a car that is in the table to another user. -/
def keepsOwner {β : Type} (op : Op β) (m : Mode PyError) (w : World) : Bool :=
  match op with
  | .base (.upsertVehicle userId car) =>
      !m.effective || (w.base.owner car.carId).all fun owner => owner = userId
  | _ => true

def ownerPolicy : Policy Op PyError World Tid Start Env where
  start _ _ := True
  call _ _ op m w := keepsOwner op m w = true
  crash _ _ := True
  environment _ _ := True

instance : ownerPolicy.Computable where
  start _ _ := .isTrue trivial
  call _ _ _ _ _ := inferInstanceAs (Decidable (_ = true))
  crash _ _ := .isTrue trivial
  environment _ _ := .isTrue trivial

/-! ## Owners -/

variable {b b' : Base} {userId carId : String}

/-- A confirmed car is the user's, and no other car is touched. -/
theorem Base.upsertVehicle_owner {car : Car} (h : b.upsertVehicle userId car = .ok b') (c : String) :
    b'.owner c = if c = car.carId then some userId else b.owner c := by
  unfold upsertVehicle at h
  split_ifs at h
  split at h
  · cases h
    exact map_get?_cons
  · rename_i v hsome
    cases h
    exact map_get?_modify (fun _ => rfl) (fun _ => rfl) hsome

theorem Base.updatePlate_owner {plate : String} (h : b.updatePlate carId plate = .ok b')
    (c : String) : b'.owner c = b.owner c := by
  unfold updatePlate at h
  split at h
  · cases h
  split_ifs at h
  cases h
  simp only [owner]
  rw [get?_modify]
  · by_cases hc : c = carId
    · subst hc
      simp [Function.comp_def]
    · simp [hc]
  · exact fun _ => rfl

/-- Owners stay owners, and the history grows. -/
structure CardsKept (s s' : Carded) : Prop where
  owners : ∀ userId carId, s.1.base.owner carId = some userId → s'.1.base.owner carId = some userId
  saved : s.2.saved ⊆ s'.2.saved
  stored : s.2.stored ⊆ s'.2.stored

variable {s s' : Carded}

theorem CardsKept.refl (s : Carded) : CardsKept s s :=
  ⟨fun _ _ h => h, fun _ h => h, fun _ h => h⟩

theorem CardsKept.of_frame {e : Effect} (hf : Frame e s.1.base s'.1.base) (he : e ≠ .vehicle)
    (hsaved : s.2.saved ⊆ s'.2.saved) (hstored : s.2.stored ⊆ s'.2.stored) : CardsKept s s' := by
  constructor
  · intro u c hown
    unfold Base.owner
    rwa [hf.vehicles he]
  · exact hsaved
  · exact hstored

theorem CardsKept.made {order : CardOrder} (hk : CardsKept s s') (h : s.2.Made order) :
    s'.2.Made order := by
  obtain ⟨n, command, claims, order', hsaved, hrest⟩ := h
  exact ⟨n, command, claims, order', hk.saved hsaved, hrest⟩

theorem CardsKept.ordered {order : CardOrder} (hk : CardsKept s s') (h : Ordered order s) :
    Ordered order s' := ⟨hk.made h.1, hk.owners _ _ h.2⟩

theorem CardsKept.ownKey {billingKey : String} (hk : CardsKept s s')
    (h : OwnKey userId carId billingKey s) : OwnKey userId carId billingKey s' := by
  obtain ⟨order, hstored, hmade, hrest⟩ := h
  exact ⟨order, hk.stored hstored, hk.made hmade, hrest⟩

theorem CardsKept.ownCharge {req : ChargeRequest} (hk : CardsKept s s') (h : OwnCharge t req s) :
    OwnCharge t req s' := by
  obtain ⟨n, command, claims, ht, htoken, htyp, hown, hkey⟩ := h
  exact ⟨n, command, claims, ht, htoken, htyp, hk.owners _ _ hown, hk.ownKey hkey⟩

/-! ## The contract -/

def StoredKey (row : VehicleBillingKey) (s : Carded) : Prop :=
  (row.storedFor, row.billingKey) ∈ s.2.stored ∧ Ordered row.storedFor s ∧
    row.storedFor.carId = row.carId

structure CardsBacked (s : Carded) : Prop where
  tokens : ∀ claims ∈ s.1.base.issuedTokens, claims.typ = .appAccess →
    s.1.base.owner claims.subject = some claims.userId
  refresh : ∀ row ∈ s.1.base.refreshTokens, s.1.base.owner row.carId = some row.userId
  orders : ∀ k e, s.1.base.cardOrders k = some e → Ordered e.value s
  keys : ∀ row ∈ s.1.base.billingKeys, StoredKey row s
  asked : ∀ t req, (t, req) ∈ s.2.asked → OwnCharge t req s

/-- A step adds only what names the owner of its car. -/
structure CardStep (s s' : Carded) : Prop where
  kept : CardsKept s s'
  tokens : ∀ claims ∈ s'.1.base.issuedTokens, claims ∈ s.1.base.issuedTokens ∨
    (claims.typ = .appAccess → s'.1.base.owner claims.subject = some claims.userId)
  refresh : ∀ row ∈ s'.1.base.refreshTokens,
    (∃ row' ∈ s.1.base.refreshTokens, row'.carId = row.carId ∧ row'.userId = row.userId) ∨
      s'.1.base.owner row.carId = some row.userId
  orders : ∀ k e, s'.1.base.cardOrders k = some e → s.1.base.cardOrders k = some e ∨
    Ordered e.value s'
  keys : ∀ row ∈ s'.1.base.billingKeys, row ∈ s.1.base.billingKeys ∨ StoredKey row s'
  asked : ∀ t req, (t, req) ∈ s'.2.asked → (t, req) ∈ s.2.asked ∨ OwnCharge t req s'

theorem CardStep.backed (h : CardStep s s') (hs : CardsBacked s) : CardsBacked s' := by
  constructor
  · intro claims hclaims htyp
    rcases h.tokens claims hclaims with hold | hnew
    · exact h.kept.owners _ _ (hs.tokens claims hold htyp)
    · exact hnew htyp
  · intro row hrow
    rcases h.refresh row hrow with ⟨row', hold, hcar, huser⟩ | hnew
    · have hown := h.kept.owners _ _ (hs.refresh row' hold)
      rwa [hcar, huser] at hown
    · exact hnew
  · intro k e he
    rcases h.orders k e he with hold | hnew
    · exact h.kept.ordered (hs.orders k e hold)
    · exact hnew
  · intro row hrow
    rcases h.keys row hrow with hold | hnew
    · obtain ⟨hstored, hordered, hcar⟩ := hs.keys row hold
      exact ⟨h.kept.stored hstored, h.kept.ordered hordered, hcar⟩
    · exact hnew
  · intro t req hasked
    rcases h.asked t req hasked with hold | hnew
    · exact h.kept.ownCharge (hs.asked t req hold)
    · exact hnew

theorem CardStep.of_frame {e : Effect} (hf : Frame e s.1.base s'.1.base) (hkept : CardsKept s s')
    (tokens : e = .token → ∀ claims ∈ s'.1.base.issuedTokens, claims ∈ s.1.base.issuedTokens ∨
      (claims.typ = .appAccess → s'.1.base.owner claims.subject = some claims.userId))
    (refresh : e = .refreshToken → ∀ row ∈ s'.1.base.refreshTokens,
      (∃ row' ∈ s.1.base.refreshTokens, row'.carId = row.carId ∧ row'.userId = row.userId) ∨
        s'.1.base.owner row.carId = some row.userId)
    (orders : e = .cardOrder → ∀ k e, s'.1.base.cardOrders k = some e →
      s.1.base.cardOrders k = some e ∨ Ordered e.value s')
    (keys : e = .billingKey → ∀ row ∈ s'.1.base.billingKeys,
      row ∈ s.1.base.billingKeys ∨ StoredKey row s')
    (asked : ∀ t req, (t, req) ∈ s'.2.asked → (t, req) ∈ s.2.asked ∨ OwnCharge t req s') :
    CardStep s s' := by
  constructor
  · exact hkept
  · by_cases he : e = .token
    · exact tokens he
    · rw [hf.issuedTokens he]
      exact fun claims h => .inl h
  · by_cases he : e = .refreshToken
    · exact refresh he
    · rw [hf.refreshTokens he]
      exact fun row h => .inl ⟨row, h, rfl, rfl⟩
  · by_cases he : e = .cardOrder
    · exact orders he
    · rw [hf.cardOrders he]
      exact fun k e h => .inl h
  · by_cases he : e = .billingKey
    · exact keys he
    · rw [hf.billingKeys he]
      exact fun row h => .inl h
  · exact asked

theorem CardStep.of_other {e : Effect} (hf : Frame e s.1.base s'.1.base) (hg : s'.2 = s.2)
    (he : e ∉ [.vehicle, .token, .refreshToken, .cardOrder, .billingKey]) : CardStep s s' := by
  simp only [List.mem_cons, List.not_mem_nil, or_false, not_or] at he
  obtain ⟨hvehicle, htoken, hrefresh, horder, hkey⟩ := he
  apply CardStep.of_frame hf
  · apply CardsKept.of_frame hf hvehicle
    · rw [hg]
      exact fun _ h => h
    · rw [hg]
      exact fun _ h => h
  · exact fun h => (htoken h).elim
  · exact fun h => (hrefresh h).elim
  · exact fun h => (horder h).elim
  · exact fun h => (hkey h).elim
  · rw [hg]
    exact fun t req h => .inl h

theorem CardStep.refl (s : Carded) : CardStep s s := .of_other (.refl .nothing _) rfl (by decide)

def carding : Contract Carded Tid where
  invariant := CardsBacked
  guarantee _ := CardStep
  environment := CardStep

/-- What owners and the history decide for good. -/
def Certified (P : Carded → Prop) : Prop := ∀ s s', CardsKept s s' → P s → P s'

theorem Certified.stable {P : Carded → Prop} (hP : Certified P) : carding.Stable t P := by
  intro s s' hi hs
  rcases hi.2.2 with ⟨t', -, hg⟩ | he
  · exact hP s s' hg.kept hs
  · exact hP s s' he.kept hs

theorem certified_true : Certified fun _ => True := fun _ _ _ h => h

theorem certified_owner (userId carId : String) :
    Certified fun s => s.1.base.owner carId = some userId := fun _ _ hk h => hk.owners _ _ h

theorem certified_ordered (order : CardOrder) : Certified (Ordered order) :=
  fun _ _ hk h => hk.ordered h

theorem certified_ownCharge (t : Tid) (req : ChargeRequest) : Certified (OwnCharge t req) :=
  fun _ _ hk h => hk.ownCharge h

abbrev Carding (rt : Runtime) (t : Tid) (P : Carded → Prop) (p : Service α)
    (Q : Except PyError α → Carded → Prop) : Prop :=
  (carded rt).Triple ownerPolicy.withHistory carding t P p Q

/-! ## The calls -/

/-- A call that touches no car and no card, or issues a temporary token. -/
def Uncarded {β : Type} : Op β → Prop
  | .base (.issueToken typ _ _ _) => typ = .tempAccess
  | op => op.effect ∉ [.vehicle, .token, .refreshToken, .cardOrder, .billingKey] ∧ ¬AsksPg op

theorem outcome_cardStep {op : Op α} {m : Mode PyError} {r : Except PyError α}
    (hexec : ∀ r₀, m.effective = true → s.1.exec t op = some (r₀, s'.1) →
      s'.2 = cardHistory t op r₀ s.1 s.2 → CardStep s s')
    (ho : (carded rt).outcome t op m s = some (r, s')) : CardStep s s' := by
  rcases history_cases ho with ⟨rfl, he, hg⟩ | ⟨e, -, -, hw, hg⟩ | ⟨e, r₀, rfl, -, he, hg⟩
  · exact hexec r rfl he hg
  · have hs : s' = s := Prod.ext hw hg
    rw [hs]
    exact .refl s
  · exact hexec r₀ rfl he hg

theorem cardHistory_of_none {op : Op α} (hsaved : op.savedOrder? = none)
    (hstored : op.storedKey? = none) (hasked : op.charge? = none) (r : Except PyError α) (w : World)
    (g : CardHistory) : cardHistory t op r w g = g := by
  simp [cardHistory, hsaved, hstored, hasked]

theorem savedOrder_of_effect {op : Op α} (h : op.effect ≠ .cardOrder) : op.savedOrder? = none := by
  unfold Op.savedOrder?
  split
  · exact absurd rfl h
  · rfl

theorem storedKey_of_effect {op : Op α} (h : op.effect ≠ .billingKey) : op.storedKey? = none := by
  unfold Op.storedKey?
  split
  · exact absurd rfl h
  · rfl

theorem cardHistory_of_uncarded {op : Op α} (h : Uncarded op) (r : Except PyError α) (w : World)
    (g : CardHistory) : cardHistory t op r w g = g := by
  unfold Uncarded at h
  split at h
  · exact cardHistory_of_none rfl rfl rfl r w g
  · obtain ⟨heffect, hasks⟩ := h
    apply cardHistory_of_none
    · exact savedOrder_of_effect fun he => heffect (by simp [he])
    · exact storedKey_of_effect fun he => heffect (by simp [he])
    · unfold Op.charge?
      split
      · exact (hasks trivial).elim
      · rfl

theorem uncarded_cardStep {op : Op α} (h : Uncarded op) {m : Mode PyError} {r : Except PyError α}
    (ho : (carded rt).outcome t op m s = some (r, s')) : CardStep s s' := by
  apply outcome_cardStep ?_ ho
  intro r₀ _ he hg
  rw [cardHistory_of_uncarded h] at hg
  have hf := World.exec_frame he
  unfold Uncarded at h
  split at h
  · rename_i typ userId subject ttlSeconds
    have hw : s'.1.base = (s.1.base.issueToken typ userId subject ttlSeconds).2 :=
      (congrArg (fun o => o.2.base) (Option.some.inj he)).symm
    apply CardStep.of_frame hf
    · constructor
      · intro u c hown
        rw [hw]
        exact hown
      · rw [hg]
        exact fun _ h => h
      · rw [hg]
        exact fun _ h => h
    · intro _ claims hclaims
      rw [hw] at hclaims
      rcases List.mem_cons.mp hclaims with rfl | hold
      · exact .inr fun htyp => by rw [h] at htyp; cases htyp
      · exact .inl hold
    · exact fun h => by cases h
    · exact fun h => by cases h
    · exact fun h => by cases h
    · rw [hg]
      exact fun t req h => .inl h
  · exact .of_other hf hg h.1

theorem uncarded_program {P : Carded → Prop} {p : Service α} (hp : p.Calls Uncarded)
    (hP : Certified P) : Carding rt t P p (fun _ => P) := by
  apply Triple.calls ?_ hP.stable
  apply hp.mono
  intro β op hop s m r s' hs _ _ ho _
  have hstep := uncarded_cardStep hop ho
  exact ⟨hstep, hP s s' hstep.kept hs⟩

theorem uncarded_of_effect {op : Op α}
    (he : op.effect ∉ [.vehicle, .token, .refreshToken, .cardOrder, .billingKey])
    (hasks : ¬AsksPg op) : Uncarded op := by
  unfold Uncarded
  split
  · exact absurd he (by simp [Op.effect])
  · exact ⟨he, hasks⟩

theorem uncarded_of_effects {es : List Effect} {p : Service α} (hp : ServiceEffects es p)
    (hfree : PgFree p) (he : ∀ e ∈ Effect.nothing :: es,
      e ∉ [Effect.vehicle, .token, .refreshToken, .cardOrder, .billingKey]) : p.Calls Uncarded := by
  apply (hp.and hfree).mono
  exact fun op ⟨heffect, hasks⟩ => uncarded_of_effect (he _ heffect) hasks

theorem base_uncarded {es : List Effect} {p : BaseService α} (hp : Effects es p)
    (he : ∀ e ∈ Effect.nothing :: es,
      e ∉ [Effect.vehicle, .token, .refreshToken, .cardOrder, .billingKey]) :
    (base p).Calls Uncarded := uncarded_of_effects (base_effects hp) (base_pgFree p) he

/-- A read leaves the state, so what the invariant says of its answer still holds. -/
theorem ask_carding (op : BaseOp α) (he : op.effect = .nothing) {P : Carded → Prop}
    {M : α → Carded → Prop} (hP : Certified P) (hM : ∀ a, Certified (M a))
    (h : ∀ s a, P s → CardsBacked s → (s.1.base.exec op).1 = .ok a → M a s) :
    Carding rt t P (base (ask op)) (fun r s => ∀ a, r = .ok a → M a s) := by
  have hplain : Uncarded (Op.base op) := by
    apply uncarded_of_effect
    · rw [show (Op.base op).effect = .nothing from he]
      decide
    · exact fun h => h
  apply Triple.perform hP.stable
  intro s m r s' hs hi _ ho
  have hstep := uncarded_cardStep hplain ho
  refine ⟨hstep, fun a hr => ?_⟩
  subst hr
  exact hM a s s' hstep.kept (h s a hs hi (base_ok (outcome_of_history ho)).1)

/-! ## Confirmation and refresh -/

theorem CardStep.of_owners (hf : Frame .vehicle s.1.base s'.1.base) (hg : s'.2 = s.2)
    (howners : ∀ u c, s.1.base.owner c = some u → s'.1.base.owner c = some u) : CardStep s s' := by
  apply CardStep.of_frame hf
  · constructor
    · exact howners
    · rw [hg]
      exact fun _ h => h
    · rw [hg]
      exact fun _ h => h
  · exact fun h => by cases h
  · exact fun h => by cases h
  · exact fun h => by cases h
  · exact fun h => by cases h
  · rw [hg]
    exact fun t req h => .inl h

/-- A write takes effect, or raises and leaves everything. -/
theorem exec_write {op : BaseOp Unit} {x : Except PyError Base} {r : Except PyError Unit}
    (hop : w.base.exec op = w.base.write x) (h : w.exec t (.base op) = some (r, w')) :
    (∃ b, x = .ok b ∧ w'.base = b) ∨ w'.base = w.base ∧ ∃ e, r = .error e := by
  obtain ⟨hr, rfl⟩ := exec_base h
  rw [hop] at hr ⊢
  cases x with
  | ok b => exact .inl ⟨b, rfl, rfl⟩
  | error e => exact .inr ⟨rfl, e, hr.symm⟩

theorem upsertVehicle_carding (userId : String) (car : Car) :
    Carding rt t (fun _ => True) (base (ask (.upsertVehicle userId car)))
      (fun r s => ∀ u, r = .ok u → s.1.base.owner car.carId = some userId) := by
  apply Triple.perform (.const True)
  intro s m r s' _ _ hp ho
  have hcall : ∀ r₀, m.effective = true →
      s.1.exec t (.base (.upsertVehicle userId car)) = some (r₀, s'.1) →
        (∀ u c, s.1.base.owner c = some u → s'.1.base.owner c = some u) ∧
          ∀ u, r₀ = .ok u → s'.1.base.owner car.carId = some userId := by
    intro r₀ heff he
    have hkeeps : keepsOwner (.base (.upsertVehicle userId car)) m s.1 = true := hp
    have hsame : (s.1.base.owner car.carId).all (fun owner => owner = userId) = true := by
      simpa [keepsOwner, heff] using hkeeps
    rcases exec_write rfl he with ⟨b', hx, hb⟩ | ⟨hb, e, hr⟩
    · have howner : ∀ c, s'.1.base.owner c =
          if c = car.carId then some userId else s.1.base.owner c := by
        rw [hb]
        exact Base.upsertVehicle_owner hx
      constructor
      · intro u c hown
        rw [howner]
        split
        · rename_i hc
          subst hc
          rw [hown] at hsame
          have hu : u = userId := by simpa using hsame
          rw [hu]
        · exact hown
      · intro u _
        rw [howner, if_pos rfl]
    · rw [hb]
      refine ⟨fun _ _ h => h, fun u hu => ?_⟩
      rw [hr] at hu
      cases hu
  constructor
  · apply outcome_cardStep ?_ ho
    intro r₀ heff he hg
    rw [cardHistory_of_none rfl rfl rfl] at hg
    exact .of_owners (World.exec_frame he) hg (hcall r₀ heff he).1
  · intro u hr
    subst hr
    obtain ⟨rfl, he, -⟩ := base_recorded ho
    exact (hcall _ rfl he).2 u rfl

theorem issueToken_carding (userId carId : String) (ttlSeconds : Nat) :
    Carding rt t (fun s => s.1.base.owner carId = some userId)
      (base (ask (.issueToken .appAccess userId carId ttlSeconds)))
      (fun _ s => s.1.base.owner carId = some userId) := by
  have hcertified := certified_owner userId carId
  apply Triple.perform hcertified.stable
  intro s m r s' hown _ _ ho
  have hstep : CardStep s s' := by
    apply outcome_cardStep ?_ ho
    intro r₀ _ he hg
    rw [cardHistory_of_none rfl rfl rfl] at hg
    obtain ⟨-, hw⟩ := exec_base he
    apply CardStep.of_frame (World.exec_frame he)
    · constructor
      · rw [hw]
        exact fun _ _ h => h
      · rw [hg]
        exact fun _ h => h
      · rw [hg]
        exact fun _ h => h
    · intro _ claims hclaims
      rw [hw] at hclaims ⊢
      rcases List.mem_cons.mp hclaims with rfl | hold
      · exact .inr fun _ => hown
      · exact .inl hold
    · exact fun h => by cases h
    · exact fun h => by cases h
    · exact fun h => by cases h
    · rw [hg]
      exact fun t req h => .inl h
  exact ⟨hstep, hcertified s s' hstep.kept hown⟩

theorem refreshTokens_cardStep {op : BaseOp Unit} {x : Except PyError Base}
    (hop : s.1.base.exec op = s.1.base.write x) (heffect : op.effect = .refreshToken)
    (hrows : ∀ b, x = .ok b → ∀ row ∈ b.refreshTokens,
      (∃ row' ∈ s.1.base.refreshTokens, row'.carId = row.carId ∧ row'.userId = row.userId) ∨
        s.1.base.owner row.carId = some row.userId)
    {m : Mode PyError} {r : Except PyError Unit}
    (ho : (carded rt).outcome t (.base op) m s = some (r, s')) : CardStep s s' := by
  apply outcome_cardStep ?_ ho
  intro r₀ _ he hg
  have hnone : cardHistory t (.base op) r₀ s.1 s.2 = s.2 := by
    apply cardHistory_of_none
    · exact savedOrder_of_effect fun h => by cases heffect.symm.trans h
    · exact storedKey_of_effect fun h => by cases heffect.symm.trans h
    · rfl
  rw [hnone] at hg
  have hf : Frame .refreshToken s.1.base s'.1.base := heffect ▸ World.exec_frame he
  have howner : ∀ c, s'.1.base.owner c = s.1.base.owner c := by
    intro c
    unfold Base.owner
    rw [hf.vehicles (by decide)]
  apply CardStep.of_frame hf
  · apply CardsKept.of_frame hf (by decide)
    · rw [hg]
      exact fun _ h => h
    · rw [hg]
      exact fun _ h => h
  · exact fun h => by cases h
  · intro _ row hrow
    rw [howner]
    rcases exec_write hop he with ⟨b, hx, hb⟩ | ⟨hb, -⟩
    · exact hrows b hx row (hb ▸ hrow)
    · exact .inl ⟨row, hb ▸ hrow, rfl, rfl⟩
  · exact fun h => by cases h
  · exact fun h => by cases h
  · rw [hg]
    exact fun t req h => .inl h

theorem saveTokenHash_carding (hash userId carId : String) :
    Carding rt t (fun s => s.1.base.owner carId = some userId)
      (base (ask (.saveTokenHash hash userId carId))) (fun _ _ => True) := by
  apply Triple.perform (certified_owner userId carId).stable
  intro s m r s' hown _ _ ho
  refine ⟨refreshTokens_cardStep rfl rfl ?_ ho, trivial⟩
  intro b hb row hrow
  unfold Base.saveTokenHash at hb
  split_ifs at hb
  cases hb
  rcases List.mem_cons.mp hrow with rfl | hold
  · exact .inr hown
  · exact .inl ⟨row, hold, rfl, rfl⟩

theorem markTokenExpired_carding (hash : String) :
    Carding rt t (fun _ => True) (base (ask (.markTokenExpired hash))) (fun _ _ => True) := by
  apply Triple.perform (.const True)
  intro s m r s' _ _ _ ho
  refine ⟨refreshTokens_cardStep rfl rfl ?_ ho, trivial⟩
  intro b hb row hrow
  unfold Base.markExpired at hb
  split at hb
  · cases hb
  · cases hb
    obtain ⟨row', hold, rfl⟩ := List.mem_map.mp hrow
    left
    refine ⟨row', hold, ?_⟩
    split
    · exact ⟨rfl, rfl⟩
    · exact ⟨rfl, rfl⟩

theorem bindVehicle_carding (sessionId userId name carId : String) {car : Car}
    (hcar : car.carId = carId) : Carding rt t (fun _ => True)
      (base (ConfirmVehicleService.bindVehicle rt sessionId userId name carId car))
      (fun _ _ => True) := by
  unfold ConfirmVehicleService.bindVehicle
  simp only [Program.bind_eq, base_bind]
  apply Triple.bind (M := fun _ s => s.1.base.owner carId = some userId)
  · apply Triple.conseq (upsertVehicle_carding userId car) (fun _ h => h)
    intro r s hr
    cases r with
    | ok u => exact hcar ▸ hr u rfl
    | error e => trivial
  intro _
  apply Triple.seq (issueToken_carding userId carId _) (fun _ _ _ => trivial)
  intro accessToken
  apply Triple.seq (uncarded_program (base_uncarded (randomText_effects _) (by decide))
    (certified_owner userId carId)) (fun _ _ _ => trivial)
  intro refreshToken
  apply Triple.bind (M := fun _ _ => True)
  · apply Triple.conseq (saveTokenHash_carding _ userId carId) (fun _ h => h)
    intro r s _
    cases r with
    | ok u => trivial
    | error e => trivial
  intro _
  rw [← base_bind]
  have hdelete : Effects [.loginResult] ((delete .loginResults sessionId).bind fun _ =>
      (.done (.ok ⟨accessToken, refreshToken, userId, name, carId, car⟩) :
        BaseService ConfirmVehicleResult)) := by
    apply Program.Calls.bind
    · exact ask_effects (by simp)
    · exact fun _ => trivial
  exact uncarded_program (base_uncarded hdelete (by decide)) certified_true

end CarPayIn
