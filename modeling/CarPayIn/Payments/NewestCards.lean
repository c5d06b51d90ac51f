import CarPayIn.Payments.OwnCards

/-! # The card of the newest order

A webhook that finds its order pending stores its key for the order's car, over
the key that is there. So a car has the key of the order that was processed
last, which is the newest one when the webhooks take effect in the order in
which their orders were created.
-/

namespace CarPayIn

open Process Process.System Store Service

variable {rt : Runtime} {t : Tid} {w w' : World} {s s' : Carded} {α β : Type}

/-! ## Orders and the keys stored for them -/

namespace CardHistory

variable (g : CardHistory)

def created : List String :=
  ((g.saved.filter fun x => x.2.status = .pending).map fun x => x.2.orderId).reverse

/-- The keys that webhooks have stored for the car, with their orders, the last one first. -/
def processed (carId : String) : List (CardOrder × String) :=
  g.stored.filter fun x => x.1.carId = carId

def NoLater (order order' : CardOrder) : Prop :=
  g.created.idxOf order.orderId ≤ g.created.idxOf order'.orderId

instance (order order' : CardOrder) : Decidable (g.NoLater order order') :=
  inferInstanceAs (Decidable (_ ≤ _))

/-- Webhooks for the car took effect in the order in which their orders were created. -/
def InOrder (carId : String) : Prop :=
  (g.processed carId).Pairwise fun later earlier => g.NoLater earlier.1 later.1

instance (carId : String) : Decidable (g.InOrder carId) :=
  inferInstanceAs (Decidable (List.Pairwise _ _))

/-- The key is that of the order, the most recently created one of those whose
webhooks were processed for the car. -/
structure Newest (carId : String) (order : CardOrder) (billingKey : String) : Prop where
  processed : (order, billingKey) ∈ g.processed carId
  created : ∀ x ∈ g.processed carId, x.1.orderId ∈ g.created
  newest : ∀ x ∈ g.processed carId, g.NoLater x.1 order

variable {g} {g' : CardHistory}

theorem newest_of_inOrder {carId : String} {x : CardOrder × String}
    (hlast : (g.processed carId).head? = some x)
    (hcreated : ∀ x ∈ g.stored, x.1.orderId ∈ g.created) (hin : g.InOrder carId) :
    g.Newest carId x.1 x.2 := by
  unfold InOrder at hin
  obtain ⟨rest, hrest⟩ : ∃ rest, g.processed carId = x :: rest := List.head?_eq_some_iff.mp hlast
  constructor
  · rw [hrest]
    exact .head _
  · intro y hy
    exact hcreated y (List.mem_filter.mp hy).1
  · intro y hy
    rw [hrest] at hin hy
    rcases List.mem_cons.mp hy with rfl | hy
    · exact Nat.le_refl _
    · exact List.rel_of_pairwise_cons hin hy

theorem created_saved {x : Tid × CardOrder} (hsaved : g'.saved = x :: g.saved) :
    g'.created = if x.2.status = .pending then g.created ++ [x.2.orderId] else g.created := by
  unfold created
  rw [hsaved]
  by_cases hpending : x.2.status = .pending <;> simp [hpending]

end CardHistory

/-! ## The contract -/

/-- Every order that is known was created, and the last key of a car is in its row. -/
structure CardsListed (s : Carded) : Prop where
  orders : ∀ k e, s.1.base.cardOrders k = some e → e.value.orderId ∈ s.2.created
  stored : ∀ x ∈ s.2.stored, x.1.orderId ∈ s.2.created
  keys : ∀ carId x, (s.2.processed carId).head? = some x →
    ∃ row, get? VehicleBillingKey.carId carId s.1.base.billingKeys = some row ∧
      row.billingKey = x.2

structure ListStep (s s' : Carded) : Prop where
  created : s.2.created ⊆ s'.2.created
  listed : CardsListed s → CardsListed s'

theorem ListStep.refl (s : Carded) : ListStep s s := ⟨fun _ h => h, fun h => h⟩

theorem ListStep.of_same (horders : s'.1.base.cardOrders = s.1.base.cardOrders)
    (hkeys : s'.1.base.billingKeys = s.1.base.billingKeys) (hsaved : s'.2.saved = s.2.saved)
    (hstored : s'.2.stored = s.2.stored) : ListStep s s' := by
  have hcreated : s'.2.created = s.2.created := by
    unfold CardHistory.created
    rw [hsaved]
  refine ⟨by rw [hcreated]; exact fun _ h => h, fun h => ?_⟩
  constructor
  · rw [horders, hcreated]
    exact h.orders
  · rw [hstored, hcreated]
    exact h.stored
  · unfold CardHistory.processed
    rw [hkeys, hstored]
    exact h.keys

theorem ListStep.save {key : String} {order : CardOrder} {ex : Option Nat}
    (hknown : order.status = .pending ∨ order.orderId ∈ s.2.created)
    (horders : s'.1.base.cardOrders = Function.update s.1.base.cardOrders key (some ⟨order, ex⟩))
    (hkeys : s'.1.base.billingKeys = s.1.base.billingKeys)
    (hsaved : s'.2.saved = (t, order) :: s.2.saved) (hstored : s'.2.stored = s.2.stored) :
    ListStep s s' := by
  have hcreated := CardHistory.created_saved hsaved
  have hgrows : s.2.created ⊆ s'.2.created := by
    rw [hcreated]
    split
    · exact List.subset_append_left _ _
    · exact fun _ h => h
  have horder : order.orderId ∈ s'.2.created := by
    rcases hknown with hpending | hold
    · simp [hcreated, hpending]
    · exact hgrows hold
  refine ⟨hgrows, fun h => ?_⟩
  constructor
  · intro k e he
    rw [horders] at he
    rcases Cache.update_eq_some he with ⟨-, rfl⟩ | ⟨-, hold⟩
    · exact horder
    · exact hgrows (h.orders k e hold)
  · intro x hx
    rw [hstored] at hx
    exact hgrows (h.stored x hx)
  · unfold CardHistory.processed
    rw [hkeys, hstored]
    exact h.keys

/-- The key that is stored is in the row of its order's car. -/
theorem Base.upsertBillingKey_row {b b' : Base} {order : CardOrder} {billingKey lastFour : String}
    (h : b.upsertBillingKey order billingKey lastFour = .ok b') (carId : String) :
    (get? VehicleBillingKey.carId carId b'.billingKeys).map (·.billingKey) =
      if carId = order.carId then some billingKey
        else (get? VehicleBillingKey.carId carId b.billingKeys).map (·.billingKey) := by
  unfold upsertBillingKey at h
  dsimp only at h
  split_ifs at h
  split at h
  · cases h
    exact map_get?_cons
  · rename_i row hsome
    cases h
    exact map_get?_modify (fun _ => rfl) (fun _ => rfl) hsome

theorem ListStep.store {b : Base} {order : CardOrder} {billingKey lastFour : String}
    (hknown : order.orderId ∈ s.2.created)
    (hx : s.1.base.upsertBillingKey order billingKey lastFour = .ok b) (hb : s'.1.base = b)
    (hsaved : s'.2.saved = s.2.saved) (hstored : s'.2.stored = (order, billingKey) :: s.2.stored)
    (horders : b.cardOrders = s.1.base.cardOrders) : ListStep s s' := by
  have hcreated : s'.2.created = s.2.created := by
    unfold CardHistory.created
    rw [hsaved]
  refine ⟨by rw [hcreated]; exact fun _ h => h, fun h => ?_⟩
  constructor
  · rw [hb, horders, hcreated]
    exact h.orders
  · intro x hmem
    rw [hstored] at hmem
    rw [hcreated]
    rcases List.mem_cons.mp hmem with rfl | hold
    · exact hknown
    · exact h.stored x hold
  · intro carId x hlast
    have hrow := Base.upsertBillingKey_row hx carId
    rw [← hb] at hrow
    unfold CardHistory.processed at hlast
    rw [hstored, List.filter_cons] at hlast
    by_cases hc : carId = order.carId
    · subst hc
      simp only [decide_true, if_true, List.head?_cons, Option.some.injEq] at hlast
      subst hlast
      rw [if_pos rfl] at hrow
      exact Option.map_eq_some_iff.mp hrow
    · rw [if_neg (by simpa using Ne.symm hc)] at hlast
      obtain ⟨row, hget, hkey⟩ := h.keys carId x hlast
      rw [if_neg hc, hget] at hrow
      obtain ⟨row', hget', hkey'⟩ := Option.map_eq_some_iff.mp hrow
      exact ⟨row', hget', hkey'.trans hkey⟩

def listing : Contract Carded Tid where
  invariant := CardsListed
  guarantee _ := ListStep
  environment := ListStep

def Listed (P : Carded → Prop) : Prop := ∀ s s', s.2.created ⊆ s'.2.created → P s → P s'

theorem Listed.stable {P : Carded → Prop} (hP : Listed P) : listing.Stable t P := by
  intro s s' hi hs
  rcases hi.2.2 with ⟨t', -, hg⟩ | he
  · exact hP s s' hg.created hs
  · exact hP s s' he.created hs

theorem listed_true : Listed fun _ => True := fun _ _ _ h => h

theorem listed_order (order : CardOrder) : Listed fun s => order.orderId ∈ s.2.created :=
  fun _ _ hk h => hk h

abbrev Listing (rt : Runtime) (t : Tid) (P : Carded → Prop) (p : Service α)
    (Q : Except PyError α → Carded → Prop) : Prop :=
  (carded rt).Triple Policy.any listing t P p Q

/-! ## The calls -/

def CreatesOnly {β : Type} : Op β → Prop
  | .base (.cardOrders (.set _ order _)) => order.status = .pending
  | op => op.effect ∉ [.cardOrder, .billingKey]

theorem createsOnly_of_effect {op : Op β} (h : op.effect ∉ [.cardOrder, .billingKey]) :
    CreatesOnly op := by
  unfold CreatesOnly
  split
  · simp [Op.effect] at h
  · exact h

theorem outcome_listStep {op : Op α} {m : Mode PyError} {r : Except PyError α}
    (hexec : ∀ r₀, s.1.exec t op = some (r₀, s'.1) → s'.2 = cardHistory t op r₀ s.1 s.2 →
      ListStep s s') (ho : (carded rt).outcome t op m s = some (r, s')) : ListStep s s' := by
  rcases history_cases ho with ⟨rfl, he, hg⟩ | ⟨e, -, -, hw, hg⟩ | ⟨e, r₀, rfl, -, he, hg⟩
  · exact hexec r he hg
  · have hs : s' = s := Prod.ext hw hg
    rw [hs]
    exact .refl s
  · exact hexec r₀ he hg

theorem other_listStep {op : Op α} (h : op.effect ∉ [.cardOrder, .billingKey])
    {r : Except PyError α} (he : s.1.exec t op = some (r, s'.1))
    (hg : s'.2 = cardHistory t op r s.1 s.2) : ListStep s s' := by
  simp only [List.mem_cons, List.not_mem_nil, or_false, not_or] at h
  have hf := World.exec_frame he
  apply ListStep.of_same (hf.cardOrders h.1) (hf.billingKeys h.2)
  · simp [hg, cardHistory, savedOrder_of_effect h.1]
  · simp [hg, cardHistory, storedKey_of_effect h.2]

theorem save_listStep {key : String} {order : CardOrder} {ex : Option Nat} {r : Except PyError Unit}
    (hknown : order.status = .pending ∨ order.orderId ∈ s.2.created)
    (he : s.1.exec t (.base (.cardOrders (.set key order ex))) = some (r, s'.1))
    (hg : s'.2 = cardHistory t (.base (.cardOrders (.set key order ex))) r s.1 s.2) :
    ListStep s s' := by
  obtain ⟨-, hw⟩ := exec_base he
  apply ListStep.save (t := t) hknown
  · rw [hw]
    rfl
  · rw [hw]
    rfl
  · rw [hg]
    rfl
  · rw [hg]
    rfl

theorem createsOnly_listStep {op : Op α} (hop : CreatesOnly op) {m : Mode PyError}
    {r : Except PyError α} (ho : (carded rt).outcome t op m s = some (r, s')) : ListStep s s' := by
  apply outcome_listStep ?_ ho
  intro r₀ he hg
  unfold CreatesOnly at hop
  split at hop
  · exact save_listStep (.inl hop) he hg
  · exact other_listStep hop he hg

theorem createsOnly_program {P : Carded → Prop} {p : Service α} (hp : p.Calls CreatesOnly)
    (hP : Listed P) : Listing rt t P p (fun _ => P) := by
  apply Triple.calls ?_ hP.stable
  apply hp.mono
  intro β op hop s m r s' hs _ _ ho _
  have hstep := createsOnly_listStep hop ho
  exact ⟨hstep, hP s s' hstep.created hs⟩

theorem createsOnly_of_effects {es : List Effect} {p : Service α} (hp : ServiceEffects es p)
    (he : ∀ e ∈ Effect.nothing :: es, e ∉ [Effect.cardOrder, .billingKey]) :
    p.Calls CreatesOnly := by
  apply Program.Calls.mono hp
  exact fun op hop => createsOnly_of_effect (he _ hop)

/-! ## The services -/

theorem createCardOrder_listing (command : CreateCardOrderCommand) : Listing rt t (fun _ => True)
    (base (CreateCardOrderService.execute command)) (fun _ _ => True) := by
  have hother {β : Type} {p : BaseService β} (hp : Effects [.vehicle, .draw] p) :
      Listing rt t (fun _ => True) (base p) (fun _ _ => True) :=
    createsOnly_program (createsOnly_of_effects (base_effects hp) (by decide)) listed_true
  apply createCardOrder_rule (M := fun _ _ => True)
  · exact fun _ _ _ h => h
  · apply Triple.conseq (hother (validateAppToken_effects command.accessToken)) (fun _ h => h)
    intro r s _
    cases r <;> trivial
  · intro user op hop
    apply hother
    apply ask_effects
    rw [hop]
    exact .head _
  · exact fun user plate => hother (ask_effects (by simp))
  · intro user
    unfold CreateCardOrderService.record
    simp only [Program.bind_eq, base_bind]
    apply Triple.seq (hother ((randomText_effects _).mono (by decide))) (fun _ _ h => h)
    intro orderId
    apply Triple.seq ?_ (fun _ _ h => h)
    · intro _
      apply Triple.seq (hother (ask_effects (by simp))) (fun _ _ h => h)
      exact fun _ => .done fun _ h => h
    · apply createsOnly_program ?_ listed_true
      exact ⟨rfl, fun _ => trivial⟩

theorem readOrder_listing (orderId : String) :
    Listing rt t (fun _ => True) (base (read .cardOrders orderId))
      (fun r s => ∀ order, r = .ok (some order) → order.orderId ∈ s.2.created) := by
  apply Triple.perform listed_true.stable
  intro s m r s' _ hi _ ho
  have hop : CreatesOnly (Op.base (.cardOrders (.get orderId))) := createsOnly_of_effect (by simp [Op.effect])
  have hstep := createsOnly_listStep hop ho
  refine ⟨hstep, fun order hr => ?_⟩
  subst hr
  obtain ⟨e, he, rfl⟩ := Option.map_eq_some_iff.mp (Except.ok.inj (base_ok (outcome_of_history ho)).1)
  exact hstep.created (hi.orders _ e (Cache.read_eq_some.mp he).1)

theorem upsertBillingKey_listing (order : CardOrder) (billingKey lastFour : String) :
    Listing rt t (fun s => order.orderId ∈ s.2.created)
      (base (ask (.upsertBillingKey order billingKey lastFour)))
      (fun _ s => order.orderId ∈ s.2.created) := by
  apply Triple.perform (listed_order order).stable
  intro s m r s' hs _ _ ho
  have hstep : ListStep s s' := by
    apply outcome_listStep ?_ ho
    intro r₀ he hg
    obtain ⟨hr, -⟩ := exec_base he
    have hf := World.exec_frame he
    rcases exec_write rfl he with ⟨b, hx, hb⟩ | ⟨hb, e, rfl⟩
    · have hok : r₀ = .ok () := by
        rw [← hr]
        simp [Base.exec, Base.write, hx]
      subst hok
      apply ListStep.store hs hx hb
      · rw [hg]
        rfl
      · rw [hg]
        rfl
      · rw [← hb]
        exact hf.cardOrders (by simp [Op.effect])
    · apply ListStep.of_same
      · rw [hb]
      · rw [hb]
      · rw [hg]
        rfl
      · rw [hg]
        rfl
  exact ⟨hstep, hstep.created hs⟩

theorem completeOrder_listing (orderId : String) : Listing rt t (fun _ => True)
    (base (update .cardOrders orderId fun o => { o with status := .complete }))
    (fun _ _ => True) := by
  rw [base_update]
  apply update_triple (M := fun order s => order.orderId ∈ s.2.created)
  · exact readOrder_listing orderId
  · intro order
    exact createsOnly_program (p := base (ask (.cardOrders (.ttl orderId))))
      ⟨createsOnly_of_effect (by simp [Op.effect]), fun _ => trivial⟩ (listed_order order)
  · intro order ex
    apply Triple.perform (listed_order order).stable
    intro s m r s' hs _ _ ho
    refine ⟨outcome_listStep ?_ ho, trivial⟩
    intro r₀ he hg
    have hknown : ({ order with status := .complete } : CardOrder).orderId ∈ s.2.created := hs
    exact save_listStep (.inr hknown) he hg

theorem cardWebhook_listing (command : HandleCardWebhookCommand) :
    Listing rt t (fun _ => True) (base (HandleCardWebhookService.execute command))
      (fun _ _ => True) := by
  have hask {β : Type} {op : BaseOp β} {P : Carded → Prop} (he : op.effect = .nothing)
      (hP : Listed P) : Listing rt t P (base (ask op)) (fun _ => P) := by
    have hop : CreatesOnly (Op.base op) := by
      apply createsOnly_of_effect
      rw [show (Op.base op).effect = .nothing from he]
      decide
    exact createsOnly_program (p := base (ask op)) ⟨hop, fun _ => trivial⟩ hP
  apply cardWebhook_rule (M := fun found s => ∀ order, found = some order →
    order.orderId ∈ s.2.created)
  · exact fun _ _ _ => trivial
  · exact hask rfl listed_true
  · apply Triple.conseq (readOrder_listing command.orderId) (fun _ h => h)
    intro r s hr
    cases r with
    | ok found => exact fun order hfound => hr order (by rw [hfound])
    | error e => trivial
  · intro found _
    have hreads : (base (HandleCardWebhookService.recheck command)).Calls CreatesOnly :=
      createsOnly_of_effects (base_effects (HandleCardWebhookService.recheck_effects command))
        (by decide)
    exact Triple.conseq (createsOnly_program hreads listed_true) (fun _ _ => trivial) fun _ _ h => h
  · intro order _
    have hregister : Listing rt t (fun s => order.orderId ∈ s.2.created)
        (base (HandleCardWebhookService.register command order)) (fun _ _ => True) := by
      apply register_rule
      · exact fun _ _ _ => trivial
      · exact hask rfl (listed_order order)
      · exact upsertBillingKey_listing order _ _
      · exact Triple.conseq (completeOrder_listing command.orderId) (fun _ _ => trivial)
          fun _ _ h => h
    exact Triple.conseq hregister (fun s hs => hs order rfl) fun _ _ h => h

/-! ## Runs -/

/-- No order has been made yet; the cars may have keys. -/
def Orderless (s : Carded) : Prop := (∀ k, s.1.base.cardOrders k = none) ∧ s.2 = .empty

theorem program_listing (n : Nat) (request : Request) :
    Listing rt (.backend n request) (fun _ => True) (program rt request) (fun _ _ => True) := by
  have hother (he : ∀ e ∈ Effect.nothing :: request.effects, e ∉ [Effect.cardOrder, .billingKey]) :
      Listing rt (.backend n request) (fun _ => True) (program rt request) (fun _ _ => True) :=
    createsOnly_program (createsOnly_of_effects (program_effects rt request) he) listed_true
  cases request with
  | createCardOrder command =>
      exact mapped_rule (createCardOrder_listing command)
  | cardWebhook command => exact mapped_rule (cardWebhook_listing command)
  | _ => exact hother (by simp [Request.effects])

theorem begin_listing {x : Start} {p : Service Reply}
    (h : (carded rt).begin x s = some (t, p, s')) : ListStep s s' ∧
      Listing rt t (fun _ => True) p (fun _ _ => True) := by
  obtain ⟨⟨t, p, w'⟩, hb, h⟩ := Option.map_eq_some_iff.mp h
  cases h
  have hbase := (begin_spec hb).base
  have heffects := (begin_spec hb).effects
  refine ⟨.of_same (by rw [hbase]) (by rw [hbase]) rfl rfl, ?_⟩
  cases x with
  | backend n request =>
      cases hb
      exact program_listing n request
  | pg id | card id =>
      obtain ⟨y, -, hb⟩ := Option.map_eq_some_iff.mp hb
      cases hb
      exact createsOnly_program (createsOnly_of_effects heffects (by simp [Tid.effects])) listed_true

theorem carPayIn_listing (rt : Runtime) :
    (carded rt).Meets Policy.any listing Orderless .unknown := by
  refine Meets.of_state ?_ ?_ ?_ ?_
  · rintro s ⟨horders, hnone⟩
    constructor
    · simp [horders]
    · simp [hnone, CardHistory.empty]
    · simp [hnone, CardHistory.empty, CardHistory.processed]
  · rintro s s' hi (⟨t, hg⟩ | he)
    · exact hg.listed hi
    · exact he.listed hi
  · exact fun x s t p s' hb => ⟨(begin_listing hb).1, (begin_listing hb).2 s' trivial⟩
  · intro x s s' hmove
    obtain ⟨w', he, rfl⟩ := Option.map_eq_some_iff.mp hmove
    obtain ⟨now, outside, scanned, -, hb⟩ := environment_base he
    exact .of_same (by rw [hb]) (by rw [hb]) rfl rfl

/-- In every run in which the webhooks for a car take effect in the order in
which their orders were created, the car has the key of the newest of them. -/
theorem newest_card_wins (rt : Runtime) {c : Config Op PyError Reply Carded Tid}
    (hc : (carded rt).Reachable Policy.any Orderless c) {carId : String}
    (hprocessed : c.state.2.processed carId ≠ []) (hin : c.state.2.InOrder carId) :
    ∃ row order, get? VehicleBillingKey.carId carId c.state.1.base.billingKeys = some row ∧
      c.state.2.Newest carId order row.billingKey := by
  have hlisted := ((carPayIn_listing rt).sound hc).1
  obtain ⟨x, rest, hrest⟩ := List.exists_cons_of_ne_nil hprocessed
  have hlast : (c.state.2.processed carId).head? = some x := by rw [hrest, List.head?_cons]
  obtain ⟨row, hrow, hkey⟩ := hlisted.keys carId x hlast
  refine ⟨row, x.1, hrow, ?_⟩
  rw [hkey]
  exact CardHistory.newest_of_inOrder hlast hlisted.stored hin

/-! ## Two cards for one car -/

theorem household_orderless : Orderless (household, .empty) := ⟨fun _ => rfl, rfl⟩

namespace Household

open Garage

def order (n : Nat) (user : String) : List Event :=
  request n (.createCardOrder ⟨appToken user, "12가3456", "", true⟩) 7

def report (n : Nat) (orderId billingKey : String) (calls : Nat) : List Event :=
  request n (.cardWebhook ⟨orderId, billingKey, "1234", "active", "", ""⟩) calls

/-- Anna orders a card for her car, and then another one. -/
def orders : List Event :=
  login 0 "anna" "login-1" "state-0" ++ order 4 "anna" ++ order 5 "anna"

end Household

/-- The webhooks come in the order of the orders, and the first one once more. -/
theorem newest_card_wins_household : ∃ c, (carded plainRuntime).Reachable Policy.any Orderless c ∧
    (c.state.2.processed "car-1").length = 2 ∧ ∃ row order,
      get? VehicleBillingKey.carId "car-1" c.state.1.base.billingKeys = some row ∧
        c.state.2.Newest "car-1" order row.billingKey := by
  have hrun : ((carded plainRuntime).run Policy.any (Household.orders ++
      Household.report 6 "order-2" "bk-1" 7 ++ Household.report 7 "order-3" "bk-2" 7 ++
        Household.report 8 "order-2" "bk-1" 3) (boot (household, .empty))).any (fun c =>
          decide ((c.state.2.processed "car-1").length = 2) &&
            decide (c.state.2.InOrder "car-1")) = true := by
    decide +kernel
  obtain ⟨c, hc, htest⟩ := (carded plainRuntime).exists_of_run hrun household_orderless
  obtain ⟨hlen, hin⟩ := (Bool.and_eq_true ..).mp htest
  have hlen := of_decide_eq_true hlen
  have hsome : c.state.2.processed "car-1" ≠ [] := by
    intro hnone
    simp [hnone] at hlen
  exact ⟨c, hc, hlen, newest_card_wins plainRuntime hc hsome (of_decide_eq_true hin)⟩

/-- The webhook of the first order comes late, and takes the second card away. -/
theorem older_card_wins : ¬∀ rt c, (carded rt).Reachable Policy.any Orderless c →
    ∀ carId, c.state.2.processed carId ≠ [] → ∃ row order,
      get? VehicleBillingKey.carId carId c.state.1.base.billingKeys = some row ∧
        c.state.2.Newest carId order row.billingKey := by
  intro h
  have hrun : ((carded plainRuntime).run Policy.any (Household.orders ++
      Household.report 6 "order-3" "bk-2" 7 ++ Household.report 7 "order-2" "bk-1" 7)
        (boot (household, .empty))).any (fun c =>
          decide ((get? VehicleBillingKey.carId "car-1" c.state.1.base.billingKeys).map
            (·.billingKey) = some "bk-1") &&
              decide (c.state.2.processed "car-1" = [(⟨"order-2", "anna", "car-1", .pending⟩, "bk-1"),
                (⟨"order-3", "anna", "car-1", .pending⟩, "bk-2")]) &&
                  decide (c.state.2.created = ["order-2", "order-3"])) = true := by
    decide +kernel
  obtain ⟨c, hc, htest⟩ := (carded plainRuntime).exists_of_run hrun household_orderless
  simp only [Bool.and_eq_true, decide_eq_true_eq] at htest
  obtain ⟨⟨hkey, hprocessed⟩, hcreated⟩ := htest
  obtain ⟨row, order, hrow, hnewest⟩ := h _ c hc "car-1" (by simp [hprocessed])
  have hkey : row.billingKey = "bk-1" := by simpa [hrow] using hkey
  have hmem := hnewest.processed
  simp only [hprocessed, hkey, List.mem_cons, Prod.mk.injEq, List.not_mem_nil, or_false] at hmem
  rcases hmem with ⟨rfl, -⟩ | ⟨-, hother⟩
  · have hlater := hnewest.newest (⟨"order-3", "anna", "car-1", .pending⟩, "bk-2")
      (by simp [hprocessed])
    unfold CardHistory.NoLater at hlater
    rw [hcreated] at hlater
    revert hlater
    decide
  · revert hother
    decide

end CarPayIn
