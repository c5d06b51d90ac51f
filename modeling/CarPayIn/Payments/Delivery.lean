import CarPayIn.Payments.Calls
import CarPayIn.Payments.Notices

/-! # Every success is notified or waits to be

One pass over the payment and the retry worker for what they owe the PMS. The
steps of the ledgers are known from the first pass, so only the notifications,
the retry events and the execution's own row are followed here.
-/

namespace CarPayIn

open Process Process.System Store Ledger Service

variable {rt : Runtime} {t : Tid} {w w' : World} {P : World → Prop} {α : Type}
  {key : String} {txId : TxId} {amount : Int}

abbrev Delivers (rt : Runtime) (t : Tid) (P : World → Prop) (p : Service α)
    (Q : Except PyError α → World → Prop) : Prop :=
  (carPayIn rt).Triple deliveryPolicy notices t P p Q

/-! ## Quiet calls -/

def Silent {β : Type} : Op β → Prop
  | .transactions (.getByIdempotencyKey _) => True
  | .transactions _ => False
  | .retries (.get _) => True
  | .retries _ => False
  | .notifyPaymentComplete _ => False
  | _ => True

theorem exec_silent {β : Type} {op : Op β} {r : Except PyError β} (hs : Silent op)
    (h : w.exec t op = some (r, w')) : w'.transactions = w.transactions ∧
      w'.acknowledged = w.acknowledged ∧ w'.retries = w.retries := by
  have hwrite : ∀ x : Except PyError World, (∀ w₁, x = .ok w₁ → w₁.transactions = w.transactions ∧
      w₁.acknowledged = w.acknowledged ∧ w₁.retries = w.retries) →
      (w.write x).2.transactions = w.transactions ∧ (w.write x).2.acknowledged = w.acknowledged ∧
        (w.write x).2.retries = w.retries := by
    intro x hx
    cases x with
    | ok w₁ => exact hx w₁ rfl
    | error e => exact ⟨rfl, rfl, rfl⟩
  cases op with
  | base op => cases h; exact ⟨rfl, rfl, rfl⟩
  | scanRetries => cases h; exact ⟨rfl, rfl, rfl⟩
  | notifyPaymentComplete payload => exact hs.elim
  | retries op =>
      cases op with
      | get key => cases h; exact ⟨rfl, rfl, rfl⟩
      | _ => exact hs.elim
  | transactions op =>
      cases op with
      | getByIdempotencyKey key => cases h; exact ⟨rfl, rfl, rfl⟩
      | _ => exact hs.elim
  | pgHttp op =>
      simp only [World.exec, Option.map_eq_some_iff] at h
      obtain ⟨x, -, h⟩ := h
      cases h
      exact ⟨rfl, rfl, rfl⟩
  | cardHttp op =>
      simp only [World.exec, Option.map_eq_some_iff] at h
      obtain ⟨x, -, h⟩ := h
      cases h
      exact ⟨rfl, rfl, rfl⟩
  | pg op =>
      have h₂ := congrArg Prod.snd (Option.some.inj h)
      subst h₂
      cases op with
      | insert row =>
          apply hwrite
          intro w₁ h₁
          unfold World.insertPgTransaction at h₁
          split_ifs at h₁
          cases h₁
          exact ⟨rfl, rfl, rfl⟩
      | updateStatus key status approvalNo cardTxId failedReason =>
          apply hwrite
          intro w₁ h₁
          unfold World.updatePgTransactionStatus at h₁
          split at h₁
          · cases h₁
          · cases h₁
            exact ⟨rfl, rfl, rfl⟩
      | _ => exact ⟨rfl, rfl, rfl⟩
  | card op =>
      have h₂ := congrArg Prod.snd (Option.some.inj h)
      subst h₂
      cases op with
      | insert row =>
          apply hwrite
          intro w₁ h₁
          unfold World.insertCardTx at h₁
          split_ifs at h₁
          cases h₁
          exact ⟨rfl, rfl, rfl⟩
      | _ => exact ⟨rfl, rfl, rfl⟩

theorem silent_keeps (hP : Firm t P) {β : Type} (op : Op β) (hs : Silent op) :
    (carPayIn rt).Keeps deliveryPolicy notices t P op := by
  intro w m r w' hw _ _ ho ha
  have hsame : w'.transactions = w.transactions ∧ w'.acknowledged = w.acknowledged ∧
      w'.retries = w.retries := by
    rcases (carPayIn rt).outcome_cases ho with ⟨-, h⟩ | ⟨e, -, -, rfl⟩ | ⟨e, r₀, -, -, h⟩
    · exact exec_silent hs h
    · exact ⟨rfl, rfl, rfl⟩
    · exact exec_silent hs h
  obtain ⟨ht, hack, hret⟩ := hsame
  have hk : Kept w w' := .of_same hack hret
  exact ⟨⟨ha, hk, .inl ht⟩, hP.quiet w w' ht hk ha.2 hw⟩

theorem silent_call (hP : Firm t P) {op : Op α} (hs : Silent op) :
    Delivers rt t P (.perform op) (fun _ => P) :=
  .calls ((Program.calls_perform op).mpr (silent_keeps hP op hs)) hP.stable

theorem silent_program (hP : Firm t P) {p : Service α} (hp : p.Calls Silent) :
    Delivers rt t P p (fun _ => P) :=
  .calls (hp.mono fun op hs => silent_keeps hP op hs) hP.stable

theorem base_silent (p : BaseService α) : (base p).Calls Silent :=
  Program.calls_lift (fun op => Op.base op) (fun _ => trivial) p

/-! ## Notifications -/

/-- After an answered notification the payment is acknowledged. -/
theorem notify_call (hP : Firm t P) (payload : PaymentComplete) :
    Delivers rt t P (.perform (.notifyPaymentComplete payload)) (fun r w => P w ∧
      ∀ a, r = .ok a → w.acked payload.carpayTxId = true) := by
  apply Triple.perform_assuming hP.stable
  intro w m r w' hw _ _ ho ha
  rcases (carPayIn rt).outcome_cases ho with ⟨-, h⟩ | ⟨e, -, rfl, rfl⟩ | ⟨e, r₀, -, rfl, h⟩
  · cases h
    have hk := Kept.acknowledge w payload
    refine ⟨⟨ha, hk, .inl rfl⟩, hP.quiet w _ rfl hk ha.2 hw, fun _ _ => ?_⟩
    simp [World.acked]
  · exact ⟨⟨ha, .refl _, .inl rfl⟩, hw, fun _ h => by cases h⟩
  · cases h
    have hk := Kept.acknowledge w payload
    exact ⟨⟨ha, hk, .inl rfl⟩, hP.quiet w _ rfl hk ha.2 hw, fun _ h => by cases h⟩

/-- The payment is delivered, or the call failed while nothing free was owed. -/
def DeliveredOr (t : Tid) (id : TxId) (r : Except PyError α) (w : World) : Prop :=
  w.delivered id = true ∨ (∃ e, r = .error e) ∧ w.owesFree t = false

theorem save_call (hP : Firm t P) {id : TxId} {event : RetryEvent} {ttlSeconds : Nat}
    (hid : event.payload.carpayTxId = id) :
    Delivers rt t P (save .retries id event ttlSeconds)
      (fun r w => P w ∧ DeliveredOr t id r w) := by
  apply Triple.perform_assuming hP.stable
  intro w m r w' hw _ hp ho ha
  have hset : ∀ r₀, w.exec t (.retries (.set id event (some ttlSeconds))) = some (r₀, w') →
      notices.guarantee t w w' ∧ P w' ∧ w'.delivered id = true := by
    intro r₀ h
    cases h
    have hk := Kept.record w ⟨event, (some ttlSeconds).map fun s => w.base.now + 1000 * s⟩ hid
    refine ⟨⟨ha, hk, .inl rfl⟩, hP.quiet w _ rfl hk ha.2 hw, ?_⟩
    simp [World.delivered]
  rcases (carPayIn rt).outcome_cases ho with ⟨-, h⟩ | ⟨e, rfl, rfl, rfl⟩ | ⟨e, r₀, -, -, h⟩
  · obtain ⟨hg, hw', hd⟩ := hset _ h
    exact ⟨hg, hw', .inl hd⟩
  · have howes : w'.owesFree t = false := by simpa [deliveryPolicy, bearable] using hp
    exact ⟨⟨ha, .refl _, .inl rfl⟩, hw, .inr ⟨⟨e, rfl⟩, howes⟩⟩
  · obtain ⟨hg, hw', hd⟩ := hset _ h
    exact ⟨hg, hw', .inl hd⟩

theorem delete_call (hP : Firm t P) (id : TxId) :
    Delivers rt t (fun w => P w ∧ w.acked id = true) (Store.delete .retries id)
      (fun _ w => P w ∧ w.acked id = true) := by
  have hfirm := hP.and (firm_acked id)
  apply Triple.perform_assuming hfirm.stable
  intro w m r w' hw _ _ ho ha
  have hdelete : ∀ r₀, w.exec t (.retries (.delete id)) = some (r₀, w') →
      notices.guarantee t w w' ∧ P w' ∧ w'.acked id = true := by
    intro r₀ h
    cases h
    have hk := Kept.forget hw.2
    exact ⟨⟨ha, hk, .inl rfl⟩, hfirm.quiet w _ rfl hk ha.2 hw⟩
  rcases (carPayIn rt).outcome_cases ho with ⟨-, h⟩ | ⟨e, -, -, rfl⟩ | ⟨e, r₀, -, -, h⟩
  · exact hdelete _ h
  · exact ⟨⟨ha, .refl _, .inl rfl⟩, hw⟩
  · exact hdelete _ h

theorem notifyPmsPaymentComplete_delivers (hP : Firm t P) (payload : PaymentComplete) :
    Delivers rt t P (ProcessPaymentService.notifyPmsPaymentComplete payload)
      (fun r w => P w ∧ DeliveredOr t payload.carpayTxId r w) := by
  apply Triple.bind (M := fun a w => P w ∧ ∀ u, a = .ok u → w.acked payload.carpayTxId = true)
  · exact (notify_call hP payload).attempt
  · intro a
    cases a with
    | error exc =>
        refine Triple.conseq (save_call hP ?_) (fun _ hw => hw.1) (fun _ _ hr => hr)
        rfl
    | ok u =>
        refine Triple.conseq (delete_call hP payload.carpayTxId) (fun _ hw => ⟨hw.1, hw.2 u rfl⟩) ?_
        intro r w hr
        exact ⟨hr.1, .inl (delivered_of_acked hr.2)⟩

/-! ## The execution's own row -/

theorem exec_transactions_same (op : TransactionOp α) :
    (w.execTransactions t op).2.acknowledged = w.acknowledged ∧
      (w.execTransactions t op).2.retries = w.retries := by
  have hwrite : ∀ x : Except PyError World, (∀ w₁, x = .ok w₁ → w₁.acknowledged = w.acknowledged ∧
      w₁.retries = w.retries) → (w.write x).2.acknowledged = w.acknowledged ∧
        (w.write x).2.retries = w.retries := by
    intro x hx
    cases x with
    | ok w₁ => exact hx w₁ rfl
    | error e => exact ⟨rfl, rfl⟩
  cases op with
  | getByIdempotencyKey key => exact ⟨rfl, rfl⟩
  | insert row =>
      apply hwrite
      intro w₁ h₁
      unfold World.insertTransaction at h₁
      split_ifs at h₁
      cases h₁
      exact ⟨rfl, rfl⟩
  | updateStatus key status pgTxId approvalNo failedReason =>
      apply hwrite
      intro w₁ h₁
      unfold World.updateTransactionStatus at h₁
      split at h₁
      · cases h₁
      · cases h₁
        exact ⟨rfl, rfl⟩
  | markSuccessAndEnqueue key pgTxId approvalNo destination payload =>
      apply hwrite
      intro w₁ h₁
      unfold World.markSuccessAndEnqueue at h₁
      split at h₁
      · cases h₁
      · simp only at h₁
        split at h₁
        · cases h₁
          exact ⟨rfl, rfl⟩
        · cases h₁
          exact ⟨rfl, rfl⟩

theorem transactions_guarantee (hpay : t.isPayment = true) {op : TransactionOp α}
    {m : Mode PyError} {r : Except PyError α}
    (ho : (carPayIn rt).outcome t (.transactions op) m w = some (r, w'))
    (ha : notices.assumed t w w') : notices.guarantee t w w' := by
  have hkept : ∀ r₀, w.exec t (.transactions op) = some (r₀, w') → Kept w w' := by
    intro r₀ h
    have hw' : (w.execTransactions t op).2 = w' := congrArg Prod.snd (Option.some.inj h)
    obtain ⟨hack, hret⟩ := exec_transactions_same (t := t) (w := w) op
    rw [hw'] at hack hret
    exact .of_same hack hret
  refine ⟨ha, ?_, .inr hpay⟩
  rcases (carPayIn rt).outcome_cases ho with ⟨-, h⟩ | ⟨e, -, -, rfl⟩ | ⟨e, r₀, -, -, h⟩
  · exact hkept _ h
  · exact .refl _
  · exact hkept _ h

theorem Ledger.Mine.setStatus {ℓ : Ledger} {status : TransactionStatus} {row : Transaction}
    (hm : Mine t key txId amount status ℓ) (status' : TransactionStatus)
    (pgTxId approvalNo reason : Option String) (hrow : ℓ.transactions key = some row) :
    Mine t key txId amount status' (ℓ.setTransaction key
      (World.statusChange status' pgTxId approvalNo reason row)) := by
  obtain ⟨row', hrow', hby, hid, ha, -⟩ := hm.row
  cases hrow.symm.trans hrow'
  constructor
  · exact ⟨_, setTransaction_self .., hby, hid, ha, rfl⟩
  · intro k r hr hby'
    rcases update_eq_some.1 hr with ⟨rfl, -⟩ | ⟨-, hr⟩
    · rfl
    · exact hm.only k r hr hby'

theorem createPendingTransaction_delivers (hpay : t.isPayment = true) (sessionId : String)
    (currency billingKey : String) :
    Delivers rt t (fun w => NoRow t w.ledger)
      (createPendingTransaction txId key sessionId amount currency billingKey)
      (fun r w => match r with
        | .ok _ => Mine t key txId amount .pending w.ledger ∧ KnowsSession sessionId w
        | .error _ => Clear t w) := by
  unfold createPendingTransaction
  simp only [Program.bind_eq]
  cases hid : Uuid.parse sessionId with
  | error e => exact .done fun w hw => clear_of_noRow hw
  | ok id =>
      refine Triple.bind (M := fun (s : Option ParkingSession) w => NoRow t w.ledger ∧
        (s.isSome → KnowsSession sessionId w)) ?_ ?_
      · apply Triple.perform_assuming firm_noRow.stable
        intro w m r w' hw hi hp ho ha
        have hkeep : notices.guarantee t w w' ∧ NoRow t w'.ledger :=
          silent_keeps firm_noRow (.base (.getSessionById id)) trivial w m r w' hw hi hp ho ha
        refine ⟨hkeep.1, ?_⟩
        rcases (carPayIn rt).outcome_cases ho with ⟨-, h⟩ | ⟨e, -, rfl, -⟩ | ⟨e, -, -, rfl, -⟩
        · cases h
          exact ⟨hkeep.2, fun hs => ⟨id, hid, hs⟩⟩
        · exact clear_of_noRow hkeep.2
        · exact clear_of_noRow hkeep.2
      · intro s
        cases s with
        | none => exact .done fun w hw => clear_of_noRow hw.1
        | some session =>
            have hfirm : Firm t fun w => NoRow t w.ledger ∧ KnowsSession sessionId w :=
              firm_noRow.and (firm_knowsSession sessionId)
            refine Triple.conseq (Triple.perform_assuming hfirm.stable ?_)
              (fun w hw => ⟨hw.1, hw.2 rfl⟩) (fun _ _ hr => hr)
            intro w m r w' ⟨hno, hknows⟩ _ _ ho ha
            refine ⟨transactions_guarantee hpay ho ha, ?_⟩
            rcases write_outcome (x := fun w => w.insertTransaction ⟨txId, id, session.carId,
              billingKey, none, amount, currency, .pending, none, key, none, t⟩)
              (fun _ => rfl) ho with ⟨rfl, ⟨e, rfl⟩, -⟩ | ⟨hx, hr⟩
            · exact clear_of_noRow hno
            · obtain ⟨hb, hl, -, -, -⟩ := World.insertTransaction_spec hx
              have hmine : Mine t key txId amount .pending w'.ledger := by
                rw [hl]
                constructor
                · exact ⟨_, setTransaction_self .., rfl, rfl, rfl, rfl⟩
                · intro k row hk hby
                  rcases update_eq_some.1 hk with ⟨rfl, -⟩ | ⟨-, hk⟩
                  · rfl
                  · exact (hno k row hk hby).elim
              rcases hr with ⟨-, rfl⟩ | ⟨e, -, rfl⟩
              · obtain ⟨id', hp, hs⟩ := hknows
                exact ⟨hmine, id', hp, by rw [hb]; exact hs⟩
              · exact clear_of_mine hmine fun h => by cases h

/-- The success commit; a free one is not lost. -/
theorem markSuccessAndEnqueue_delivers (hpay : t.isPayment = true)
    {pgTxId approvalNo : Option String} {destination : String} {payload : PaymentNotification} :
    Delivers rt t (fun w => Mine t key txId amount .pending w.ledger)
      (call (.transactions (.markSuccessAndEnqueue key pgTxId approvalNo destination payload)))
      (fun r w => match r with
        | .ok _ => Mine t key txId amount .success w.ledger
        | .error _ => (∃ status, Mine t key txId amount status w.ledger) ∧
            (amount = 0 → Clear t w)) := by
  apply Triple.perform_assuming (firm_mine _ _ _ _).stable
  intro w m r w' hm _ hp ho ha
  refine ⟨transactions_guarantee hpay ho ha, ?_⟩
  rcases write_outcome (x := fun w => w.markSuccessAndEnqueue key pgTxId approvalNo destination
    payload) (fun _ => rfl) ho with ⟨rfl, ⟨e, rfl⟩, -⟩ | ⟨hx, hr⟩
  · exact ⟨⟨_, hm⟩, fun _ => clear_of_mine hm fun h => by cases h⟩
  · obtain ⟨-, row, note, hrow, -, hl⟩ := World.markSuccessAndEnqueue_spec hx
    have hmine : Mine t key txId amount .success w'.ledger := by
      have hset := hm.setStatus .success pgTxId approvalNo none hrow
      rw [hl]
      exact ⟨by rw [enqueue_transactions]; exact hset.row,
        by rw [enqueue_transactions]; exact hset.only⟩
    rcases hr with ⟨-, rfl⟩ | ⟨e, rfl, rfl⟩
    · exact hmine
    · refine ⟨⟨_, hmine⟩, fun h0 => ?_⟩
      obtain ⟨row', hrow', -, -, ha', -⟩ := hm.row
      have hpaid : (w.getTransaction key).all (fun row => row.amount ≠ 0) = true := hp
      rw [show w.getTransaction key = some row' from hrow'] at hpaid
      simp [ha', h0] at hpaid

/-- Writing the failure settles what the execution owes. -/
theorem updateTransactionStatus_delivers (hpay : t.isPayment = true) (reason : Option String) :
    Delivers rt t (fun w => ∃ status, Mine t key txId amount status w.ledger)
      (updateTransactionStatus key .failed reason)
      (fun _ w => Clear t w ∧ ∃ status, Mine t key txId amount status w.ledger) := by
  apply Triple.exists
  intro status
  apply Triple.perform_assuming (firm_mine _ _ _ _).stable
  intro w m r w' hm _ hp ho ha
  refine ⟨transactions_guarantee hpay ho ha, ?_⟩
  have hfailed : ∀ r₀, w.exec t (.transactions (.updateStatus key .failed none none reason)) =
      some (r₀, w') → Mine t key txId amount .failed w'.ledger := by
    intro r₀ h
    obtain ⟨row, hrow, -⟩ := hm.row
    have hget : w.getTransaction key = some row := hrow
    have hw' : w' = w.setTransaction key (World.statusChange .failed none none reason) := by
      have h₂ := congrArg Prod.snd (Option.some.inj h)
      simp only [World.execTransactions, World.write, World.updateTransactionStatus, hget] at h₂
      exact h₂.symm
    rw [hw', World.setTransaction_ledger (f := World.statusChange .failed none none reason)
      (fun _ => rfl) hget]
    exact hm.setStatus .failed none none reason hrow
  rcases (carPayIn rt).outcome_cases ho with ⟨-, h⟩ | ⟨e, rfl, rfl, rfl⟩ | ⟨e, r₀, -, -, h⟩
  · have hmine := hfailed _ h
    exact ⟨clear_of_mine hmine (fun hs => by cases hs), _, hmine⟩
  · have howes : w'.owes t = false := by simpa [deliveryPolicy, bearable] using hp
    exact ⟨clear_of_owes howes, status, hm⟩
  · have hmine := hfailed _ h
    exact ⟨clear_of_mine hmine (fun hs => by cases hs), _, hmine⟩

/-! ## The payment -/

theorem updateSessionStatus_delivers (sessionId : String) (status : SessionStatus) :
    Delivers rt t (fun w => Mine t key txId amount .success w.ledger ∧ KnowsSession sessionId w)
      (base (BaseService.updateSessionStatus sessionId status))
      (fun r w => Mine t key txId amount .success w.ledger ∧
        ∀ e, r = .error e → amount = 0 → Clear t w) := by
  have hfirm : Firm t fun w => Mine t key txId amount .success w.ledger ∧ KnowsSession sessionId w :=
    (firm_mine _ _ _ _).and (firm_knowsSession sessionId)
  cases hid : Uuid.parse sessionId with
  | error e =>
      rintro w ⟨-, id, hp, -⟩
      rw [hid] at hp
      cases hp
  | ok id =>
      refine (updateSessionStatus_triple (E := fun w => amount = 0 → Clear t w) status hid
        (fun w hw => hw.2.isSome hid) fun {β} op hop => ?_).conseq (fun _ h => h) fun r w h => ⟨h.1.1, h.2⟩
      have hsilent : Silent (.base op) := trivial
      apply Triple.perform_assuming hfirm.stable
      intro w m r w' hw hi hp ho ha
      obtain ⟨hg, hw'⟩ := silent_keeps hfirm (.base op) hsilent w m r w' hw hi hp ho ha
      refine ⟨hg, hw', fun e he h0 => ?_, fun a hr => ?_⟩
      · subst he h0
        cases m with
        | answered =>
            obtain ⟨a, ha'⟩ := hop.answers (hw.2.isSome hid)
            have hexec : (w.base.exec op).1 = .error e := congrArg Prod.fst (Option.some.inj ho)
            rw [hexec] at ha'
            cases ha'
        | refused e' | lost e' =>
            have howes : w.owesFree t = false := by
              cases op <;> first | exact hop.elim | simpa [deliveryPolicy, bearable] using hp
            have hclear := clear_of_owesFree hw.1 howes
            exact (silent_keeps firm_clear (.base op) hsilent w _ _ w' hclear hi hp ho ha).2
      · subst hr
        exact ⟨w, hw, congrArg Prod.fst (Option.some.inj ((carPayIn rt).outcome_ok ho).2)⟩

/-- The end of a settling: its row is there, and nothing is owed unless a paid one failed. -/
def Ended (t : Tid) (key : String) (txId : TxId) (amount : Int) (r : Except PyError α) (w : World) :
    Prop :=
  (∃ status, Mine t key txId amount status w.ledger) ∧ ((∃ a, r = .ok a) ∨ amount = 0 → Clear t w)

theorem settle_delivers (hpay : t.isPayment = true) (session : ParkingSession) (carId : String)
    (pgTxId approvalNo : Option String) (command : ProcessPaymentCommand) :
    Delivers rt t (fun w => Mine t key txId command.amount .pending w.ledger ∧
        KnowsSession command.sessionId w)
      (ProcessPaymentService.settle session txId carId key pgTxId approvalNo command)
      (Ended t key txId command.amount) := by
  unfold ProcessPaymentService.settle ProcessPaymentService.markPaymentSuccess
    ProcessPaymentService.publishPaymentNotificationBestEffort
  simp only [Program.bind_eq, Program.pure_eq]
  let Paid (w : World) : Prop := Mine t key txId command.amount .success w.ledger
  have hpaid : Firm t fun w => Paid w ∧ Clear t w := (firm_mine _ _ _ _).and firm_clear
  refine Triple.bind (M := fun (_ : Bool) w => Paid w ∧ KnowsSession command.sessionId w) ?_ ?_
  · refine Triple.bind (M := fun (_ : Unit) w => Paid w ∧ KnowsSession command.sessionId w) ?_
      fun _ => .done fun _ h => h
    refine Triple.conseq ((markSuccessAndEnqueue_delivers hpay).frame
      (firm_knowsSession (t := t) command.sessionId).stable
      (fun w w' hg => guarantee_knowsSession _ w w' hg.1)) (fun _ h => h) ?_
    intro r w hr
    cases r with
    | error e => exact ⟨hr.1.1, fun h => hr.1.2 (h.resolve_left fun ⟨a, ha⟩ => by cases ha)⟩
    | ok u => exact hr
  · intro enqueued
    refine Triple.bind (M := fun (_ : Unit) => Paid) ?_ fun _ => ?_
    · refine Triple.conseq (updateSessionStatus_delivers _ _) (fun _ h => h) ?_
      intro r w hr
      cases r with
      | error e =>
          exact ⟨⟨_, hr.1⟩, fun h => hr.2 e rfl (h.resolve_left fun ⟨a, ha⟩ => by cases ha)⟩
      | ok u => exact hr.1
    refine Triple.bind (M := fun (_ : Unit) w => Paid w ∧ Clear t w) ?_ fun _ => ?_
    · refine Triple.conseq (notifyPmsPaymentComplete_delivers (firm_mine _ _ _ _) _)
        (fun _ h => h) ?_
      intro r w hr
      have hdelivered : w.delivered txId = true → Clear t w :=
        fun hd => clear_of_mine hr.1 fun _ => hd
      cases r with
      | error e =>
          refine ⟨⟨_, hr.1⟩, fun h => ?_⟩
          have h0 := h.resolve_left fun ⟨a, ha⟩ => by cases ha
          rcases hr.2 with hd | ⟨-, howes⟩
          · exact hdelivered hd
          · exact clear_of_owesFree (h0 ▸ hr.1) howes
      | ok u =>
          refine ⟨hr.1, ?_⟩
          rcases hr.2 with hd | ⟨⟨e, he⟩, -⟩
          · exact hdelivered hd
          · cases he
    cases enqueued with
    | true => exact .done fun w hw => ⟨⟨_, hw.1⟩, fun _ => hw.2⟩
    | false =>
        refine Triple.seq (P := fun w => Paid w ∧ Clear t w) ?_
          (fun e w hw => ⟨⟨_, hw.1⟩, fun _ => hw.2⟩)
          (fun _ => .done fun w hw => ⟨⟨_, hw.1⟩, fun _ => hw.2⟩)
        apply silent_program hpaid
        exact ((base_silent _).attempt).bind fun _ => trivial

theorem chargeBillingKey_silent (request : ChargeRequest) :
    (HttpxPgClient.chargeBillingKey request).Calls Silent := by
  unfold HttpxPgClient.chargeBillingKey HttpxPgClient.post
  apply Program.Calls.bind
  · apply Program.Calls.tryCatch
    · apply Program.Calls.bind
      · exact ⟨trivial, fun _ => trivial⟩
      · exact fun id => ⟨trivial, fun _ => trivial⟩
    · exact fun e => trivial
  · exact fun response => trivial

theorem charge_delivers (hpay : t.isPayment = true) (session : ParkingSession) (carId : String)
    (billingKey : String) (command : ProcessPaymentCommand) :
    Delivers rt t (fun w => Mine t key txId command.amount .pending w.ledger ∧
        KnowsSession command.sessionId w)
      (ProcessPaymentService.charge session txId carId key billingKey command)
      (Ended t key txId command.amount) := by
  unfold ProcessPaymentService.charge
  simp only [Program.bind_eq, Program.pure_eq]
  have hfirm : Firm t fun w => Mine t key txId command.amount .pending w.ledger ∧
      KnowsSession command.sessionId w := (firm_mine _ _ _ _).and (firm_knowsSession _)
  refine Triple.seq (silent_program hfirm (chargeBillingKey_silent _)) ?_ ?_
  · intro e w hw
    exact ⟨⟨_, hw.1⟩, fun _ => clear_of_mine hw.1 fun hs => by cases hs⟩
  · intro result
    cases result with
    | success pgTxId approvalNo => exact settle_delivers hpay session carId pgTxId approvalNo command
    | failure pgTxId failedReason =>
        refine Triple.bind (M := fun _ w => Clear t w ∧
          ∃ status, Mine t key txId command.amount status w.ledger) ?_
          fun _ => .done fun w hw => ⟨hw.2, fun _ => hw.1⟩
        refine Triple.conseq (updateTransactionStatus_delivers hpay failedReason)
          (fun w hw => ⟨_, hw.1⟩) ?_
        intro r w hr
        cases r with
        | error e => exact ⟨hr.2, fun _ => hr.1⟩
        | ok u => exact hr

theorem pay_delivers (hpay : t.isPayment = true) (session : ParkingSession) (carId : String)
    (command : ProcessPaymentCommand) :
    Delivers rt t (fun w => NoRow t w.ledger)
      (ProcessPaymentService.pay session carId key command) (fun _ => Clear t) := by
  unfold ProcessPaymentService.pay
  simp only [Program.bind_eq, Program.pure_eq, Program.throw_eq, Program.tryCatch_eq]
  have hbase {β : Type} (p : BaseService β) : Delivers rt t (fun w => NoRow t w.ledger) (base p)
      (fun _ w => NoRow t w.ledger) := silent_program firm_noRow (base_silent p)
  refine Triple.seq (hbase _) (fun _ _ => clear_of_noRow) fun record => ?_
  cases record with
  | none => exact .done fun _ => clear_of_noRow
  | some record =>
      refine Triple.seq (hbase _) (fun _ _ => clear_of_noRow) fun n => ?_
      refine Triple.bind (M := fun _ w => Mine t key (.v4 n) command.amount .pending w.ledger ∧
        KnowsSession command.sessionId w) ?_ fun _ => ?_
      · refine Triple.conseq (createPendingTransaction_delivers hpay _ _ _) (fun _ h => h) ?_
        intro r w hr
        cases r with
        | ok u => exact hr
        | error e => exact hr
      refine Triple.tryCatch (M := fun _ w =>
        ∃ status, Mine t key (.v4 n) command.amount status w.ledger) ?_ fun e => ?_
      · refine Triple.conseq (charge_delivers hpay session carId record.billingKey command)
          (fun _ h => h) ?_
        intro r w hr
        cases r with
        | ok a => exact hr.2 (.inl ⟨a, rfl⟩)
        | error e => exact hr.1
      · refine Triple.bind (M := fun _ => Clear t) ?_ fun _ => .done fun _ h => h
        refine Triple.conseq (updateTransactionStatus_delivers hpay (some e.str)) (fun _ h => h) ?_
        intro r w hr
        cases r with
        | ok u => exact hr.1
        | error e => exact hr.1

theorem payFree_delivers (hpay : t.isPayment = true) (session : ParkingSession) (carId : String)
    (command : ProcessPaymentCommand) (hfree : command.amount = 0) :
    Delivers rt t (fun w => NoRow t w.ledger)
      (ProcessPaymentService.payFree session carId key command) (fun _ => Clear t) := by
  unfold ProcessPaymentService.payFree
  simp only [Program.bind_eq]
  refine Triple.bind (M := fun _ w => Mine t key (.v5 key) command.amount .pending w.ledger ∧
    KnowsSession command.sessionId w) ?_ fun _ => ?_
  · refine Triple.conseq (createPendingTransaction_delivers hpay _ _ _) (fun _ h => h) ?_
    intro r w hr
    cases r with
    | ok u => exact hr
    | error e => exact hr
  refine Triple.conseq (settle_delivers hpay session carId none (some "FREE") command)
    (fun _ h => h) ?_
  intro r w hr
  exact hr.2 (.inr hfree)

theorem replay_delivers (hP : Firm t P) (session : ParkingSession)
    (command : ProcessPaymentCommand) (existing : Transaction) :
    Delivers rt t P (ProcessPaymentService.replay session key command existing) (fun _ => P) := by
  unfold ProcessPaymentService.replay
  simp only [Program.bind_eq, Program.pure_eq]
  split
  · refine Triple.seq ?_ (fun _ _ h => h) fun _ => .done fun _ h => h
    exact (notifyPmsPaymentComplete_delivers hP _).conseq (fun _ h => h) fun _ _ hr => hr.1
  · exact .done fun _ h => h

theorem execute_delivers (hpay : t.isPayment = true) (command : ProcessPaymentCommand) :
    Delivers rt t (fun w => NoRow t w.ledger) (ProcessPaymentService.execute rt.sha256 command)
      (fun _ => Clear t) := by
  have hbase {β : Type} (p : BaseService β) : Delivers rt t (fun w => NoRow t w.ledger) (base p)
      (fun _ w => NoRow t w.ledger) := silent_program firm_noRow (base_silent p)
  unfold ProcessPaymentService.execute
  simp only [Program.bind_eq, Program.pure_eq, Program.throw_eq]
  split
  · exact Triple.seq (hbase _) (fun _ _ => clear_of_noRow) fun _ => .done fun _ => clear_of_noRow
  · refine Triple.seq (hbase _) (fun _ _ => clear_of_noRow) ?_
    intro ⟨session, carId⟩
    refine Triple.seq (silent_call firm_noRow trivial) (fun _ _ => clear_of_noRow) ?_
    intro existing
    cases existing with
    | some existing =>
        exact (replay_delivers firm_noRow session command existing).conseq (fun _ h => h)
          fun _ _ => clear_of_noRow
    | none =>
        dsimp only
        split
        · exact .done fun _ => clear_of_noRow
        split
        · rename_i hfree
          exact payFree_delivers hpay session carId command hfree
        · exact pay_delivers hpay session carId command

/-! ## The retry worker -/

/-- A retry event that is read notifies the transaction it is filed under. -/
theorem readEvent_delivers (hP : Firm t P) (id : TxId) :
    Delivers rt t P (read .retries id) (fun r w => P w ∧
      ∀ event, r = .ok (some event) → event.payload.carpayTxId = id) := by
  apply Triple.perform_assuming hP.stable
  intro w m r w' hw hi hp ho ha
  obtain ⟨hg, hw'⟩ := silent_keeps hP (.retries (.get id)) trivial w m r w' hw hi hp ho ha
  refine ⟨hg, hw', fun event he => ?_⟩
  subst he
  have hread : (w.retries.read w.base.now id).map (·.value) = some event :=
    Except.ok.inj (congrArg Prod.fst (Option.some.inj ((carPayIn rt).outcome_ok ho).2))
  obtain ⟨entry, hentry, rfl⟩ := Option.map_eq_some_iff.mp hread
  exact hi.2.1 id entry (Cache.read_eq_some.mp hentry).1

theorem retryPayment_delivers (hP : Firm t P) (id : TxId) :
    Delivers rt t P (NotifyRetryWorker.retryPayment id) (fun _ => P) := by
  unfold NotifyRetryWorker.retryPayment
  simp only [Program.bind_eq, Program.pure_eq, Program.tryCatch_eq]
  apply Triple.bind (M := fun found w => P w ∧
    ∀ event, found = some event → event.payload.carpayTxId = id)
  · refine Triple.conseq (readEvent_delivers hP id) (fun _ h => h) ?_
    intro r w hr
    cases r with
    | error e => exact hr.1
    | ok found => exact ⟨hr.1, fun event he => hr.2 event (by rw [he])⟩
  · intro found
    cases found with
    | none => exact .done fun _ hw => hw.1
    | some event =>
        intro w hw
        have hid : event.payload.carpayTxId = id := hw.2 event rfl
        have hsend : Delivers rt t P
            ((call (.notifyPaymentComplete event.payload)).bind fun _ => Store.delete .retries id)
            (fun _ => P) := by
          apply Triple.bind (M := fun _ w => P w ∧ w.acked id = true)
          · refine Triple.conseq (notify_call hP event.payload) (fun _ h => h) ?_
            intro r w hr
            cases r with
            | error e => exact hr.1
            | ok u => exact ⟨hr.1, hid ▸ hr.2 u rfl⟩
          · intro _
            exact (delete_call hP id).conseq (fun _ h => h) fun _ _ hr => hr.1
        have hcatch : Delivers rt t P
            (((call (.notifyPaymentComplete event.payload)).bind fun _ =>
              Store.delete .retries id).tryCatch fun _ => .done (.ok ())) (fun _ => P) := by
          apply Triple.tryCatch (M := fun _ => P)
          · refine Triple.conseq hsend (fun _ h => h) ?_
            intro r w hr
            cases r with
            | ok u => exact hr
            | error e => exact hr
          · exact fun e => .done fun _ h => h
        exact hcatch w hw.1

/-- The worker goes on with the next key whatever came of the last one. -/
theorem retryPayments_delivers (hP : Firm t P) (ids : List TxId) :
    Delivers rt t P (NotifyRetryWorker.retryPayments ids) (fun _ => P) := by
  induction ids with
  | nil => exact .done fun _ h => h
  | cons id ids ih =>
      unfold NotifyRetryWorker.retryPayments
      exact Triple.seq (retryPayment_delivers hP id) (fun _ _ h => h) fun _ => ih

theorem processPaymentRetries_delivers (hP : Firm t P) :
    Delivers rt t P NotifyRetryWorker.processPaymentRetries (fun _ => P) := by
  unfold NotifyRetryWorker.processPaymentRetries
  exact Triple.seq (silent_call hP trivial) (fun _ _ h => h) fun ids => retryPayments_delivers hP ids

/-! ## Every program -/

theorem silent_of_serves {p : Service α} (hp : p.Calls Serves) : p.Calls Silent := by
  apply hp.mono
  intro β op hs
  cases op with
  | pg op | card op | pgHttp op | cardHttp op => trivial
  | _ => exact hs.elim

/-- A service of the backend owes nothing once it is over. -/
theorem program_delivers (n : Nat) (request : Request) :
    Delivers rt (.backend n request) (fun w => NoRow (.backend n request) w.ledger)
      (program rt request) (fun _ => Clear (.backend n request)) := by
  have hbase {β : Type} (p : BaseService β) (f : β → Reply) :
      Delivers rt (.backend n request) (fun w => NoRow (.backend n request) w.ledger)
        (base (f <$> p)) (fun _ => Clear (.backend n request)) :=
    (silent_program firm_clear (base_silent _)).conseq (fun _ => clear_of_noRow) fun _ _ h => h
  cases request with
  | processPayment command => exact Triple.map (execute_delivers rfl command)
  | retryPayments =>
      apply Triple.map
      exact (processPaymentRetries_delivers firm_clear).conseq (fun _ => clear_of_noRow) fun _ _ h => h
  | createQrSession c => exact hbase _ _
  | startHyundaiOAuth s => exact hbase _ _
  | hyundaiOAuthCallback c => exact hbase _ _
  | confirmVehicle c => exact hbase _ _
  | refreshAccessToken s => exact hbase _ _
  | createCardOrder c => exact hbase _ _
  | cardWebhook c => exact hbase _ _
  | registerPreNotify c => exact hbase _ _
  | entryWebhook c => exact hbase _ _
  | getParkingFee c => exact hbase _ _
  | retryEntries => exact hbase _ _

end CarPayIn
