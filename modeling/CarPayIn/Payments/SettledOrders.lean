import CarPayIn.Payments.OwnCards

/-! # Orders that no webhook finds pending

A webhook that goes through leaves its order complete or finds it expired. The
order never becomes pending again: the text of a new order's id is new, and a
webhook writes its order back as a complete one only.
-/

namespace CarPayIn

open Process Process.System Store Service

variable {rt : Runtime} {t : Tid} {w w' : World} {α β : Type}

/-! ## Settled orders -/

/-- No order has an id whose number is still to be drawn. -/
def World.FreshOrders (w : World) : Prop :=
  ∀ n, w.base.drawn ≤ n → w.base.cardOrders ("order-" ++ toString n) = none

/-- The order was created, and no webhook finds it pending. -/
def World.SettledOrder (w : World) (orderId : String) : Prop :=
  ∃ e, w.base.cardOrders orderId = some e ∧
    (e.value.status ≠ .pending ∨ e.live w.base.now = false)

/-- These orders are settled, and no later order replaces them. -/
structure World.ClosedOrders (w : World) (orderIds : List String) : Prop where
  fresh : w.FreshOrders
  settled : ∀ k ∈ orderIds, w.SettledOrder k

section
variable {orderId : String} {orderIds : List String}

theorem freshOrders_of_same (horders : w'.base.cardOrders = w.base.cardOrders)
    (hdrawn : w.base.drawn ≤ w'.base.drawn) (h : w.FreshOrders) : w'.FreshOrders := by
  intro n hn
  rw [horders]
  exact h n (Nat.le_trans hdrawn hn)

theorem settledOrder_of_same (horders : w'.base.cardOrders = w.base.cardOrders)
    (hnow : w.base.now ≤ w'.base.now) (h : w.SettledOrder orderId) : w'.SettledOrder orderId := by
  obtain ⟨e, he, hsettled⟩ := h
  refine ⟨e, by rw [horders]; exact he, ?_⟩
  rcases hsettled with hstatus | hexpired
  · exact .inl hstatus
  · right
    by_contra hlive
    have hlive : e.live w'.base.now = true := by simpa using hlive
    rw [Entry.live_of_later hnow hlive] at hexpired
    cases hexpired

theorem settledOrder_drifts (hd : (carPayIn rt).Drifts Policy.any w w')
    (h : w.SettledOrder orderId) : w'.SettledOrder orderId := by
  obtain ⟨x, -, hx⟩ := hd
  obtain ⟨now, outside, scanned, hnow, hb⟩ := environment_base hx
  exact settledOrder_of_same (by rw [hb]) (by rw [hb]; exact hnow) h

theorem closedOrders_of_same (horders : w'.base.cardOrders = w.base.cardOrders)
    (hdrawn : w.base.drawn ≤ w'.base.drawn) (hnow : w.base.now ≤ w'.base.now)
    (h : w.ClosedOrders orderIds) : w'.ClosedOrders orderIds :=
  ⟨freshOrders_of_same horders hdrawn h.fresh,
    fun k hk => settledOrder_of_same horders hnow (h.settled k hk)⟩

theorem closedOrders_drifts (hd : (carPayIn rt).Drifts Policy.any w w')
    (h : w.ClosedOrders orderIds) : w'.ClosedOrders orderIds := by
  obtain ⟨x, -, hx⟩ := hd
  obtain ⟨now, outside, scanned, hnow, hb⟩ := environment_base hx
  exact closedOrders_of_same (by rw [hb]) (Nat.le_of_eq (by rw [hb])) (by rw [hb]; exact hnow) h

theorem World.exec_drawn_le {op : Op β} {r : Except PyError β} (he : w.exec t op = some (r, w')) :
    w.base.drawn ≤ w'.base.drawn := by
  by_cases hdraw : op.effect = .draw
  · cases op with
    | base op =>
        cases op with
        | draw =>
            cases he
            exact Nat.le_succ _
        | qrSessions op | oauthStates op | oauthResults op | loginResults op | cardOrders op
        | preNotifies op | quotes op | entryRetries op =>
            cases op <;> cases hdraw
        | _ => cases hdraw
    | _ => cases hdraw
  · exact Nat.le_of_eq (World.exec_drawn he hdraw).symm

theorem closedOrders_call {op : Op β} {r : Except PyError β} (hop : op.effect ≠ .cardOrder)
    (he : w.exec t op = some (r, w')) (h : w.ClosedOrders orderIds) : w'.ClosedOrders orderIds := by
  have hf := World.exec_frame he
  exact closedOrders_of_same (hf.cardOrders hop) (World.exec_drawn_le he) (Nat.le_of_eq hf.now.symm) h

theorem closedOrders_alone {es : List Effect} {p : Service α} (hp : ServiceEffects es p)
    (hes : Effect.cardOrder ∉ .nothing :: es) : Alone rt t (fun w => w.ClosedOrders orderIds) p
      (fun _ w => w.ClosedOrders orderIds) := by
  apply solo_keeps fun _ _ hd h => closedOrders_drifts hd h
  apply Program.Calls.mono (hp.avoids hes)
  exact fun op hop w r w' hw he => closedOrders_call hop he hw

end

theorem settledOrder_set {key : String} {order : CardOrder} {ex : Option Nat}
    {r : Except PyError Unit} (hstatus : order.status ≠ .pending)
    (he : w.exec t (.base (.cardOrders (.set key order ex))) = some (r, w')) :
    w'.SettledOrder key := by
  cases he
  refine ⟨⟨order, ex.map fun s => w.base.now + 1000 * s⟩, ?_, .inl hstatus⟩
  show Function.update w.base.cardOrders key _ key = some _
  rw [Function.update_self]

/-- An order that is written is an old one, and the closed one stays settled. -/
theorem closedOrders_set {key : String} {orderIds : List String} {order : CardOrder} {ex : Option Nat}
    {r : Except PyError Unit}
    (he : w.exec t (.base (.cardOrders (.set key order ex))) = some (r, w'))
    (hold : ∀ n, w.base.drawn ≤ n → "order-" ++ toString n ≠ key)
    (hstatus : key ∈ orderIds → order.status ≠ .pending) (h : w.ClosedOrders orderIds) :
    w'.ClosedOrders orderIds := by
  have hset := he
  cases he
  constructor
  · intro n hn
    show Function.update w.base.cardOrders key _ _ = none
    rw [Function.update_of_ne (hold n hn)]
    exact h.fresh n hn
  · intro k hk
    by_cases hkey : k = key
    · subst hkey
      exact settledOrder_set (hstatus hk) hset
    · obtain ⟨e, he, hsettled⟩ := h.settled k hk
      refine ⟨e, ?_, hsettled⟩
      show Function.update w.base.cardOrders key _ k = some e
      rw [Function.update_of_ne hkey]
      exact he

structure World.DrewOrder (w : World) (n : Nat) (orderIds : List String) : Prop where
  drawn : n < w.base.drawn
  unused : w.base.cardOrders ("order-" ++ toString n) = none
  closed : w.ClosedOrders orderIds

theorem drewOrder_drifts {n : Nat} {orderIds : List String}
    (hd : (carPayIn rt).Drifts Policy.any w w') (h : w.DrewOrder n orderIds) :
    w'.DrewOrder n orderIds := by
  have hclosed := closedOrders_drifts hd h.closed
  obtain ⟨x, -, hx⟩ := hd
  obtain ⟨now, outside, scanned, -, hb⟩ := environment_base hx
  refine ⟨?_, ?_, hclosed⟩
  · rw [hb]
    exact h.drawn
  · rw [hb]
    exact h.unused

theorem randomText_alone (orderIds : List String) :
    Alone rt t (fun w => w.ClosedOrders orderIds) (base (BaseService.randomText "order-"))
      (fun r w => w.ClosedOrders orderIds ∧ ∀ key, r = .ok key →
        ∃ n, key = "order-" ++ toString n ∧ w.DrewOrder n orderIds) := by
  have hkeep {w : World} {r : Except PyError Nat} {w' : World} (h : w.ClosedOrders orderIds)
      (he : w.exec t (.base .draw) = some (r, w')) : w'.ClosedOrders orderIds :=
    closedOrders_call (by simp [Op.effect]) he h
  have hdraw : Alone rt t (fun w => w.ClosedOrders orderIds) (base (ask .draw)) (fun r w =>
      w.ClosedOrders orderIds ∧ ∀ n, r = .ok n → w.DrewOrder n orderIds) := by
    apply solo_call fun _ _ hd h => closedOrders_drifts hd h
    · exact fun w r w' h he => hkeep h he
    · intro w n w' h he
      have hclosed := hkeep h he
      cases he
      exact ⟨Nat.lt_succ_self _, h.fresh _ (Nat.le_refl _), hclosed⟩
  unfold BaseService.randomText
  simp only [Program.bind_eq, base_bind]
  apply Triple.bind (M := fun n w => w.DrewOrder n orderIds)
  · apply Triple.conseq hdraw (fun _ h => h)
    intro r w hr
    cases r with
    | error e => exact ⟨hr.1, fun key h => by cases h⟩
    | ok n => exact hr.2 n rfl
  · intro n
    apply Triple.done
    intro w hw
    refine ⟨hw.closed, fun key h => ?_⟩
    cases h
    exact ⟨n, rfl, hw⟩

theorem saveOrder_alone (n : Nat) (orderIds : List String) (order : CardOrder) (ttlSeconds : Nat) :
    Alone rt t (fun w => w.DrewOrder n orderIds)
      (base (save .cardOrders ("order-" ++ toString n) order ttlSeconds))
      (fun _ w => w.ClosedOrders orderIds) := by
  apply solo_perform fun _ _ hd h => drewOrder_drifts hd h
  intro w m r w' h _ ho
  have hset {r : Except PyError Unit} {w' : World} (he : w.exec t (.base (.cardOrders
      (.set ("order-" ++ toString n) order (some ttlSeconds)))) = some (r, w')) :
      w'.ClosedOrders orderIds := by
    apply closedOrders_set he ?_ ?_ h.closed
    · intro m hm htext
      have hsame : m = n := randomText_injective "order-" htext
      have hdrawn := h.drawn
      omega
    · intro hid
      obtain ⟨e, he, -⟩ := h.closed.settled _ hid
      rw [h.unused] at he
      cases he
  rcases (carPayIn rt).outcome_cases ho with ⟨-, he⟩ | ⟨e, -, -, rfl⟩ | ⟨e, r₀, -, -, he⟩
  · exact hset he
  · exact h.closed
  · exact hset he

theorem createCardOrder_closed (orderIds : List String) (command : CreateCardOrderCommand) :
    Alone rt t (fun w => w.ClosedOrders orderIds) (base (CreateCardOrderService.execute command))
      (fun _ w => w.ClosedOrders orderIds) := by
  have hother {β : Type} {p : BaseService β} (hp : Effects [.vehicle] p) : Alone rt t
      (fun w => w.ClosedOrders orderIds) (base p) (fun _ w => w.ClosedOrders orderIds) :=
    closedOrders_alone (base_effects hp) (by decide)
  apply createCardOrder_rule (M := fun _ w => w.ClosedOrders orderIds)
  · exact fun _ _ _ h => h
  · apply Triple.conseq (hother (validateAppToken_effects command.accessToken)) (fun _ h => h)
    intro r w hr
    cases r <;> exact hr
  · intro user op hop
    apply hother
    apply ask_effects
    rw [hop]
    exact .head _
  · exact fun user plate => hother (ask_effects (by simp))
  intro user
  unfold CreateCardOrderService.record
  simp only [Program.bind_eq, base_bind]
  apply Triple.bind (M := fun key w => ∃ n, key = "order-" ++ toString n ∧ w.DrewOrder n orderIds)
  · apply Triple.conseq (randomText_alone orderIds) (fun _ h => h)
    intro r w hr
    cases r with
    | error e => exact hr.1
    | ok key => exact hr.2 key rfl
  intro key
  apply Triple.exists
  intro n w ⟨hkey, hdrew⟩
  subst hkey
  revert w
  show Alone rt t (fun w => w.DrewOrder n orderIds) _ _
  apply Triple.bind (M := fun _ w => w.ClosedOrders orderIds)
  · apply Triple.conseq (saveOrder_alone n orderIds _ _) (fun _ h => h)
    intro r w hr
    cases r <;> exact hr
  intro _
  apply Triple.seq (hother (ask_effects (by simp))) (fun _ _ h => h)
  exact fun _ => .done fun _ h => h

/-! ## Webhooks -/

def World.HasOrder (w : World) (key : String) : Prop := ∃ e, w.base.cardOrders key = some e

theorem hasOrder_drifts {key : String} (hd : (carPayIn rt).Drifts Policy.any w w')
    (h : w.HasOrder key) : w'.HasOrder key := by
  obtain ⟨x, -, hx⟩ := hd
  obtain ⟨now, outside, scanned, -, hb⟩ := environment_base hx
  have hsame : w'.base.cardOrders = w.base.cardOrders := by rw [hb]
  unfold World.HasOrder
  rwa [hsame]

theorem hasOrder_call {key : String} {op : Op β} {r : Except PyError β}
    (hop : op.effect ≠ .cardOrder) (he : w.exec t op = some (r, w')) (h : w.HasOrder key) :
    w'.HasOrder key := by
  unfold World.HasOrder
  rwa [(World.exec_frame he).cardOrders hop]

theorem hasOrder_alone {key : String} (op : BaseOp α) (hop : op.effect ≠ .cardOrder) :
    Alone rt t (fun w => w.HasOrder key) (base (ask op)) (fun _ w => w.HasOrder key) := by
  have hop : (Op.base op).effect ≠ .cardOrder := hop
  apply solo_keeps fun _ _ hd h => hasOrder_drifts hd h
  exact ⟨fun w r w' h he => hasOrder_call (t := t) hop he h, fun _ => trivial⟩

/-- An order that is there and not seen has expired. -/
theorem settledOrder_of_unseen {key : String} (h : w.HasOrder key)
    (hunseen : w.base.cardOrders.read w.base.now key = none) : w.SettledOrder key := by
  obtain ⟨e, he⟩ := h
  refine ⟨e, he, .inr ?_⟩
  by_contra hlive
  have hlive : e.live w.base.now = true := by simpa using hlive
  have hread : w.base.cardOrders.read w.base.now key = some e := Cache.read_eq_some.mpr ⟨he, hlive⟩
  rw [hunseen] at hread
  cases hread

def CompletesOnly (key : String) {β : Type} : Op β → Prop
  | .base (.cardOrders (.set k order _)) => k = key ∧ order.status = .complete
  | op => op.effect ≠ .cardOrder

theorem completesOnly_of_effect {key : String} {op : Op β} (h : op.effect ≠ .cardOrder) :
    CompletesOnly key op := by
  unfold CompletesOnly
  split
  · exact (h rfl).elim
  · exact h

theorem register_completesOnly (command : HandleCardWebhookCommand) (order : CardOrder) :
    (base (HandleCardWebhookService.register command order)).Calls
      (CompletesOnly command.orderId) := by
  have hother {β : Type} (op : BaseOp β) (h : op.effect ≠ .cardOrder) :
      (base (ask op)).Calls (CompletesOnly command.orderId) :=
    ⟨completesOnly_of_effect h, fun _ => trivial⟩
  unfold HandleCardWebhookService.register
  simp only [Program.bind_eq, base_bind]
  apply (hother (.getVehicleByCarId order.carId) (by simp)).bind
  intro found
  split
  · trivial
  rw [base_bind]
  apply (hother (.upsertBillingKey order command.billingKey command.cardLastFour) (by simp)).bind
  intro _
  rw [base_bind, base_update]
  apply Program.Calls.bind
  · apply update_calls
    · exact completesOnly_of_effect (by simp [Op.effect])
    · exact completesOnly_of_effect (by simp [Op.effect])
    · exact fun value ex => ⟨rfl, rfl⟩
  · exact fun _ => trivial

/-- A closed order stays closed while another one, or itself, is completed. -/
theorem completesOnly_closed {key : String} {orderIds : List String} {p : Service α}
    (hp : p.Calls (CompletesOnly key)) :
    Alone rt t (fun w => w.ClosedOrders orderIds ∧ w.HasOrder key) p
      (fun _ w => w.ClosedOrders orderIds ∧ w.HasOrder key) := by
  apply solo_keeps fun _ _ hd h => ⟨closedOrders_drifts hd h.1, hasOrder_drifts hd h.2⟩
  apply hp.mono
  intro β op hop w r w' ⟨hclosed, hhas⟩ he
  have he : w.exec t op = some (r, w') := he
  unfold CompletesOnly at hop
  split at hop
  · obtain ⟨rfl, hstatus⟩ := hop
    have hcomplete : ∀ {status : OrderStatus}, status = .complete → status ≠ .pending := by
      rintro _ rfl
      decide
    obtain ⟨e, hsettled, -⟩ := settledOrder_set (hcomplete hstatus) he
    refine ⟨closedOrders_set he ?_ (fun _ => hcomplete hstatus) hclosed, e, hsettled⟩
    intro n hn htext
    obtain ⟨e, hhas⟩ := hhas
    rw [← htext, hclosed.fresh n hn] at hhas
    cases hhas
  · exact ⟨closedOrders_call hop he hclosed, hasOrder_call hop he hhas⟩

theorem readOrder_alone {P : World → Prop} (key : String)
    (hP : ∀ w w', (carPayIn rt).Drifts Policy.any w w' → P w → P w') :
    Alone rt t P (base (read .cardOrders key)) (fun r w => P w ∧ ∀ found, r = .ok found →
      (w.base.cardOrders.read w.base.now key).map (·.value) = found) := by
  apply Triple.conseq (ask_alone (.cardOrders (.get key)) rfl hP) (fun _ h => h)
  exact fun r w hr => ⟨hr.1, fun found h => Except.ok.inj (hr.2 found h)⟩

theorem hasOrder_of_read {key : String} {order : CardOrder}
    (h : (w.base.cardOrders.read w.base.now key).map (·.value) = some order) :
    ∃ e, w.base.cardOrders key = some e ∧ e.value = order := by
  obtain ⟨e, he, hvalue⟩ := Option.map_eq_some_iff.mp h
  exact ⟨e, (Cache.read_eq_some.mp he).1, hvalue⟩

theorem cardWebhook_closed (orderIds : List String) (command : HandleCardWebhookCommand) :
    Alone rt t (fun w => w.ClosedOrders orderIds) (base (HandleCardWebhookService.execute command))
      (fun _ w => w.ClosedOrders orderIds) := by
  have hother {β : Type} {p : BaseService β} (hp : Effects [] p) : Alone rt t
      (fun w => w.ClosedOrders orderIds) (base p) (fun _ w => w.ClosedOrders orderIds) :=
    closedOrders_alone (base_effects hp) (by decide)
  apply cardWebhook_rule (M := fun found w => w.ClosedOrders orderIds ∧
    (found.isSome = true → w.HasOrder command.orderId))
  · exact fun _ _ h => h
  · exact hother (ask_effects (by simp))
  · apply Triple.conseq (readOrder_alone command.orderId fun _ _ hd h => closedOrders_drifts hd h)
      (fun _ h => h)
    intro r w hr
    cases r with
    | error e => exact hr.1
    | ok found =>
        refine ⟨hr.1, fun hsome => ?_⟩
        obtain ⟨order, rfl⟩ := Option.isSome_iff_exists.mp hsome
        obtain ⟨e, he, -⟩ := hasOrder_of_read (hr.2 _ rfl)
        exact ⟨e, he⟩
  · intro found _
    exact Triple.conseq (hother (HandleCardWebhookService.recheck_effects command)) (fun _ h => h.1)
      fun _ _ h => h
  · intro order _
    apply Triple.conseq (completesOnly_closed (register_completesOnly command order))
    · exact fun w hw => ⟨hw.1, hw.2 rfl⟩
    · exact fun r w hw => hw.1

theorem program_closed (orderIds : List String) {x : Start} {p : Service Reply}
    (hb : w.begin rt x = some (t, p, w')) : Alone rt t (fun w => w.ClosedOrders orderIds) p
      (fun _ w => w.ClosedOrders orderIds) := by
  have hmap {α : Type} {p : BaseService α} {f : α → Reply}
      (hp : Alone rt t (fun w => w.ClosedOrders orderIds) (base p) fun _ w => w.ClosedOrders orderIds) :
      Alone rt t (fun w => w.ClosedOrders orderIds) (base (f <$> p)) fun _ w => w.ClosedOrders orderIds := by
    rw [base_map]
    exact Triple.map hp
  have heffects := (begin_spec hb).effects
  by_cases hcard : Effect.cardOrder ∈ t.effects
  · cases x with
    | pg id | card id =>
        obtain ⟨y, -, hb⟩ := Option.map_eq_some_iff.mp hb
        cases hb
        simp [Tid.effects] at hcard
    | backend n request =>
        cases hb
        cases request with
        | createCardOrder command => exact hmap (createCardOrder_closed orderIds command)
        | cardWebhook command => exact hmap (cardWebhook_closed orderIds command)
        | _ => simp [Tid.effects, Request.effects] at hcard
  · exact closedOrders_alone heffects (by simpa using hcard)

/-- The order whose webhook went through is settled. -/
theorem completeOrder_settles (key : String) : Alone rt t (fun w => w.HasOrder key)
    (base (update .cardOrders key fun o => { o with status := .complete }))
    (fun r w => ∀ found, r = .ok found → w.SettledOrder key) := by
  have hraise (e : PyError) (w : World) : ∀ found, (.error e : Except PyError (Option CardOrder)) =
      .ok found → w.SettledOrder key := fun found h => by cases h
  rw [base_update]
  apply update_rule (M := fun _ _ => True)
  · apply Triple.conseq (readOrder_alone key fun _ _ hd h => hasOrder_drifts hd h) (fun _ h => h)
    intro r w hr
    cases r with
    | error e => exact hraise e w
    | ok found =>
        cases found with
        | some order => trivial
        | none =>
            intro found _
            exact settledOrder_of_unseen hr.1 (Option.map_eq_none_iff.mp (hr.2 none rfl))
  · intro order
    exact solo_keeps (fun _ _ _ h => h) (Program.Calls.of_forall (fun _ _ _ _ _ _ => trivial) _)
  · exact fun _ e w _ => hraise e w
  · intro order ex
    apply Triple.conseq (solo_shows (M := fun _ w => w.SettledOrder key) ?_) (fun _ h => h)
    · intro r w hr found h
      cases r with
      | error e => cases h
      | ok u => exact hr u rfl
    · intro w u w' he
      have hcomplete : OrderStatus.complete ≠ .pending := by decide
      have he : w.exec t (.base (.cardOrders (.set key { order with status := .complete } ex))) =
        some (.ok u, w') := he
      exact settledOrder_set hcomplete he

theorem unseen_drifts {key : String} (hd : (carPayIn rt).Drifts Policy.any w w')
    (h : w.base.cardOrders.read w.base.now key = none) :
    w'.base.cardOrders.read w'.base.now key = none := by
  obtain ⟨x, -, hx⟩ := hd
  obtain ⟨now, outside, scanned, hnow, hb⟩ := environment_base hx
  rw [hb]
  by_contra hseen
  obtain ⟨e, he⟩ := Option.ne_none_iff_exists'.mp hseen
  rw [read_of_later hnow he] at h
  cases h

theorem recheck_alone {P : World → Prop} (command : HandleCardWebhookCommand)
    (hP : ∀ w w', (carPayIn rt).Drifts Policy.any w w' → P w → P w') :
    Alone rt t P (base (HandleCardWebhookService.recheck command)) (fun r w => P w ∧ (r = .ok () →
      w.base.cardOrders.read w.base.now command.orderId ≠ none)) := by
  unfold HandleCardWebhookService.recheck
  simp only [Program.bind_eq, base_bind]
  apply Triple.bind (M := fun found w => P w ∧
    (w.base.cardOrders.read w.base.now command.orderId).map (·.value) = found)
  · apply Triple.conseq (readOrder_alone command.orderId hP) (fun _ h => h)
    intro r w hr
    cases r with
    | error e => exact ⟨hr.1, fun h => by cases h⟩
    | ok found => exact ⟨hr.1, hr.2 found rfl⟩
  intro found
  cases found with
  | none => exact .done fun w hw => ⟨hw.1, fun h => by cases h⟩
  | some order =>
      apply Triple.done
      intro w ⟨hw, hread⟩
      refine ⟨hw, fun _ hnone => ?_⟩
      rw [hnone] at hread
      cases hread

theorem cardWebhook_settles (command : HandleCardWebhookCommand) :
    Alone rt t (fun _ => True) (base (HandleCardWebhookService.execute command))
      (fun r w => r = .ok () → w.SettledOrder command.orderId) := by
  have hraise (e : PyError) (w : World) : (.error e : Except PyError Unit) = .ok () →
      w.SettledOrder command.orderId := fun h => by cases h
  apply cardWebhook_rule (M := fun found w =>
    (w.base.cardOrders.read w.base.now command.orderId).map (·.value) = found)
  · exact fun e w _ => hraise e w
  · exact solo_keeps (fun _ _ _ h => h) (Program.Calls.of_forall (fun _ _ _ _ _ _ => trivial) _)
  · apply Triple.conseq (readOrder_alone command.orderId fun _ _ _ h => h) (fun _ h => h)
    intro r w hr
    cases r with
    | error e => exact hraise e w
    | ok found => exact hr.2 found rfl
  · intro found hstatus
    cases found with
    | none =>
        have hunseen : ∀ w w', (carPayIn rt).Drifts Policy.any w w' →
            w.base.cardOrders.read w.base.now command.orderId = none →
              w'.base.cardOrders.read w'.base.now command.orderId = none :=
          fun w w' hd h => unseen_drifts hd h
        apply Triple.conseq (recheck_alone command hunseen)
        · exact fun w h => Option.map_eq_none_iff.mp h
        · exact fun r w hr hok => (hr.2 hok hr.1).elim
    | some order =>
        apply Triple.conseq (recheck_alone command fun _ _ hd h => settledOrder_drifts hd h)
        · intro w h
          obtain ⟨e, he, rfl⟩ := hasOrder_of_read h
          exact ⟨e, he, .inl (hstatus _ rfl)⟩
        · exact fun r w hr _ => hr.1
  · intro order _
    have hregister : Alone rt t (fun w => w.HasOrder command.orderId)
        (base (HandleCardWebhookService.register command order))
          (fun r w => r = .ok () → w.SettledOrder command.orderId) := by
      apply register_rule
      · exact fun e w _ => hraise e w
      · exact hasOrder_alone _ (by simp)
      · exact hasOrder_alone _ (by simp)
      · apply Triple.conseq (completeOrder_settles command.orderId) (fun _ h => h)
        intro r w hr hok
        cases r with
        | error e => cases hok
        | ok found => exact hr found rfl
    apply Triple.conseq hregister ?_ (fun _ _ h => h)
    intro w h
    obtain ⟨e, he, -⟩ := hasOrder_of_read h
    exact ⟨e, he⟩

theorem serial_closed {init : World → Prop} {orderIds : List String}
    (h₀ : ∀ w, init w → w.ClosedOrders orderIds)
    (hs : (carPayIn rt).Serial Policy.any init w) : w.ClosedOrders orderIds := by
  apply hs.keeps h₀
  · exact fun w w' hd h => closedOrders_drifts hd h
  · intro x w t p w' _ hb h
    have horders := congrArg Base.cardOrders (begin_spec hb).base
    have hdrawn := congrArg Base.drawn (begin_spec hb).base
    have hnow := congrArg Base.now (begin_spec hb).base
    apply program_closed orderIds hb
    exact closedOrders_of_same horders (Nat.le_of_eq hdrawn.symm) (Nat.le_of_eq hnow.symm) h

end CarPayIn
