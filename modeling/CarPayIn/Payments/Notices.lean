import CarPayIn.Payments.Runs

/-! # Notifications of the PMS

A success is delivered when the PMS has acknowledged it or a retry event waits
for it in Redis. Only the execution that committed the success sees to that, so
it owes the delivery until one of the two has happened.
-/

namespace CarPayIn

open Process Process.System Store Ledger

namespace World

variable (w : World)

/-- The PMS has answered a notification of the payment with success. -/
def acked (id : TxId) : Bool := w.acknowledged.any fun p => p.carpayTxId = id

def delivered (id : TxId) : Bool := w.acked id || (w.retries id).isSome

/-- The execution's own payment is a success that is not delivered. -/
def owes (t : Tid) : Bool := w.transactions.any fun row =>
  row.insertedBy = t && row.status = .success && !w.delivered row.txId

/-- So is it, and it is a free one. -/
def owesFree (t : Tid) : Bool := w.transactions.any fun row =>
  row.insertedBy = t && row.status = .success && row.amount = 0 && !w.delivered row.txId

def Unnotified : Prop := w.Unpaid ∧ ∀ id, w.retries id = none

end World

/-! ## Policies -/

def isPmsOrRedis {β : Type} : Op β → Bool
  | .notifyPaymentComplete _ | .retries _ | .scanRetries => true
  | .base (.getParkingFee _ _ _) | .base (.preRegisterPlate _ _) => true
  | .base (.qrSessions _) | .base (.oauthStates _) | .base (.oauthResults _)
  | .base (.loginResults _) | .base (.cardOrders _) | .base (.preNotifies _) | .base (.quotes _)
  | .base (.entryRetries _) | .base .scanEntryRetries => true
  | _ => false

/-- Executions may stop anywhere, and calls of the PMS and of Redis may fail. -/
def outagePolicy : Policy Op PyError World Tid Start Env where
  start _ _ := True
  call _ _ op m _ := m = .answered ∨ isPmsOrRedis op = true
  crash _ _ := True
  environment _ _ := True

/-- A free payment's execution that owes a delivery has no call fail but the
notification, and a paid one's may fail as long as the failure can be written. -/
def bearable (t : Tid) {β : Type} (op : Op β) (m : Mode PyError) (w : World) : Bool :=
  match op, m with
  | _, .answered => true
  | .notifyPaymentComplete _, _ => true
  | .retries (.set _ _ _), .lost _ => true
  | .transactions (.updateStatus _ _ _ _ _), .lost _ => true
  | .transactions (.updateStatus _ _ _ _ _), .refused _ => !w.owes t
  | .transactions (.markSuccessAndEnqueue key _ _ _ _), .lost _ =>
      (w.getTransaction key).all fun row => row.amount ≠ 0
  | _, _ => !w.owesFree t

/-- No execution stops while it owes a delivery, and its failures are bearable. -/
def deliveryPolicy : Policy Op PyError World Tid Start Env where
  start _ _ := True
  call t _ op m w := bearable t op m w = true
  crash t w := w.owes t = false
  environment _ _ := True

instance : outagePolicy.Computable where
  start _ _ := .isTrue trivial
  call _ _ _ _ _ := inferInstanceAs (Decidable (_ ∨ _))
  crash _ _ := .isTrue trivial
  environment _ _ := .isTrue trivial

instance : deliveryPolicy.Computable where
  start _ _ := .isTrue trivial
  call _ _ _ _ _ := inferInstanceAs (Decidable (_ = true))
  crash _ _ := inferInstanceAs (Decidable (_ = false))
  environment _ _ := .isTrue trivial

theorem within_regimeAny (π : Policy Op PyError World Tid Start Env) : Within π Regime.any where
  charge _ _ _ _ _ _ := trivial
  giveUpPg _ _ _ := trivial
  giveUpCard _ _ _ := trivial
  faults _ _ _ _ _ _ := .inr trivial
  lateFaults _ _ _ _ _ _ := .inr (.inl trivial)

/-! ## Deliveries last -/

/-- A retry event is filed under the transaction it notifies. -/
def World.Faithful (w : World) : Prop :=
  ∀ id e, w.retries id = some e → e.value.payload.carpayTxId = id

/-- Nothing that was acknowledged or delivered is taken back. -/
structure Kept (w w' : World) : Prop where
  acked : ∀ id, w.acked id = true → w'.acked id = true
  delivered : ∀ id, w.delivered id = true → w'.delivered id = true
  faithful : w.Faithful → w'.Faithful

section
variable {w w' : World} {id : TxId}

theorem delivered_of_acked (h : w.acked id = true) : w.delivered id = true := by
  simp [World.delivered, h]

theorem Kept.of_same (ha : w'.acknowledged = w.acknowledged) (hr : w'.retries = w.retries) :
    Kept w w' := by
  constructor
  · intro id h
    simpa [World.acked, ha] using h
  · intro id h
    simpa [World.delivered, World.acked, ha, hr] using h
  · intro h id e he
    rw [hr] at he
    exact h id e he

theorem Kept.refl (w : World) : Kept w w := .of_same rfl rfl

theorem Kept.acknowledge (w : World) (p : PaymentComplete) :
    Kept w { w with acknowledged := p :: w.acknowledged } := by
  constructor
  · intro id h
    simp only [World.acked, List.any_cons, Bool.or_eq_true] at h ⊢
    exact .inr h
  · intro id h
    simp only [World.delivered, World.acked, List.any_cons, Bool.or_eq_true] at h ⊢
    exact h.imp .inr fun hr => hr
  · exact fun h => h

theorem Kept.record (w : World) (e : Entry RetryEvent) (he : e.value.payload.carpayTxId = id) :
    Kept w { w with retries := Function.update w.retries id (some e) } := by
  constructor
  · exact fun _ h => h
  · intro id' h
    simp only [World.delivered, World.acked, Bool.or_eq_true] at h ⊢
    refine h.imp (fun ha => ha) fun hr => ?_
    by_cases heq : id' = id
    · simp [heq]
    · simpa [Function.update_of_ne heq] using hr
  · intro h id' e' he'
    have he' : Function.update w.retries id (some e) id' = some e' := he'
    rcases update_eq_some.1 he' with ⟨rfl, rfl⟩ | ⟨-, hold⟩
    · exact he
    · exact h id' e' hold

/-- The retry event of an acknowledged payment goes. -/
theorem Kept.forget (h : w.acked id = true) :
    Kept w { w with retries := Function.update w.retries id none } := by
  constructor
  · exact fun _ h => h
  · intro id' hd
    by_cases heq : id' = id
    · subst heq
      exact delivered_of_acked h
    · simpa [World.delivered, World.acked, Function.update_of_ne heq] using hd
  · intro hf id' e he
    have he : Function.update w.retries id none id' = some e := he
    by_cases heq : id' = id
    · subst heq
      rw [Function.update_self] at he
      cases he
    · rw [Function.update_of_ne heq] at he
      exact hf id' e he

end

/-! ## The contract -/

def Tid.isPayment : Tid → Bool
  | .backend _ (.processPayment _) => true
  | _ => false

def Ledger.ByPayments (ℓ : Ledger) : Prop :=
  ∀ k row, ℓ.transactions k = some row → row.insertedBy.isPayment = true

/-- The contract of the ledgers, and no delivery is taken back. -/
def notices : Contract World Tid where
  invariant w := w.ledger.Coherent ∧ w.Faithful ∧ w.ledger.ByPayments
  guarantee t w w' := (contract Regime.any).guarantee t w w' ∧ Kept w w' ∧
    (w'.transactions = w.transactions ∨ t.isPayment = true)
  environment w w' := (contract Regime.any).environment w w' ∧ Kept w w'
  assumed := (contract Regime.any).guarantee

variable {t : Tid} {w w' : World} {P P' : World → Prop} {A : Ledger → Prop}

theorem contract_interferes (h : notices.Interferes t w w') :
    (contract Regime.any).Interferes t w w' := by
  refine ⟨h.1.1, h.2.1.1, ?_⟩
  rcases h.2.2 with ⟨t', hne, hg⟩ | he
  · exact .inl ⟨t', hne, hg.1⟩
  · exact .inr he.1

theorem kept_interferes (h : notices.Interferes t w w') : Kept w w' := by
  rcases h.2.2 with ⟨t', hne, hg⟩ | he
  · exact hg.2.1
  · exact he.2

/-- What neither other executions nor this one's quiet calls falsify. -/
structure Firm (t : Tid) (P : World → Prop) : Prop where
  stable : notices.Stable t P
  quiet : ∀ w w', w'.transactions = w.transactions → Kept w w' → StaysKept w.base w'.base →
    P w → P w'

theorem Firm.and (h : Firm t P) (h' : Firm t P') : Firm t fun w => P w ∧ P' w :=
  ⟨h.stable.and h'.stable, fun w w' ht hk hs hp =>
    ⟨h.quiet w w' ht hk hs hp.1, h'.quiet w w' ht hk hs hp.2⟩⟩

/-- An assertion about the transactions that no other execution falsifies. -/
theorem Firm.of_ledger (h : ∀ ℓ ℓ', Interference Regime.any t ℓ ℓ' → A ℓ → A ℓ')
    (ht : ∀ ℓ ℓ', ℓ'.transactions = ℓ.transactions → A ℓ → A ℓ') : Firm t fun w => A w.ledger := by
  constructor
  · intro w w' hi hA
    exact stable_of_ledger h w w' (contract_interferes hi) hA
  · intro w w' htx _ _ hA
    apply ht w.ledger w'.ledger ?_ hA
    funext k
    simp [World.ledger, World.getTransaction, htx]

theorem firm_acked (id : TxId) : Firm t fun w => w.acked id = true :=
  ⟨fun _ _ hi h => (kept_interferes hi).acked id h, fun _ _ _ hk _ h => hk.acked id h⟩

theorem firm_knowsSession (sessionId : String) : Firm t (KnowsSession sessionId) := by
  constructor
  · intro w w' hi h
    exact stable_knowsSession sessionId w w' (contract_interferes hi) h
  · intro w w' _ _ hs h
    obtain ⟨id, hid, hsome⟩ := h
    exact ⟨id, hid, hs.isSome hsome⟩

/-! ## The execution's own payment -/

namespace Ledger

def NoRow (t : Tid) (ℓ : Ledger) : Prop := ∀ k row, ℓ.transactions k = some row → row.insertedBy ≠ t

structure Mine (t : Tid) (key : String) (txId : TxId) (amount : Int) (status : TransactionStatus)
    (ℓ : Ledger) : Prop where
  row : ∃ row, ℓ.transactions key = some row ∧ row.insertedBy = t ∧ row.txId = txId ∧
    row.amount = amount ∧ row.status = status
  only : ∀ k row, ℓ.transactions k = some row → row.insertedBy = t → k = key

end Ledger

theorem firm_noRow : Firm t fun w => NoRow t w.ledger := by
  apply Firm.of_ledger (A := NoRow t)
  · intro ℓ ℓ' hi hno k row hk hby
    exact hno k row (hi.own_row_before hk hby) hby
  · intro ℓ ℓ' ht hno k row hk
    rw [ht] at hk
    exact hno k row hk

theorem firm_mine (key : String) (txId : TxId) (amount : Int) (status : TransactionStatus) :
    Firm t fun w => Mine t key txId amount status w.ledger := by
  apply Firm.of_ledger (A := Mine t key txId amount status)
  · intro ℓ ℓ' hi hm
    obtain ⟨row, hk, hby, hrest⟩ := hm.row
    refine ⟨⟨row, hi.own_row hk hby, hby, hrest⟩, fun k row' hk' hby' => ?_⟩
    exact hm.only k row' (hi.own_row_before hk' hby') hby'
  · intro ℓ ℓ' ht hm
    obtain ⟨row, hk, hrest⟩ := hm.row
    refine ⟨⟨row, by rw [ht]; exact hk, hrest⟩, fun k row' hk' => ?_⟩
    rw [ht] at hk'
    exact hm.only k row' hk'

def Clear (t : Tid) (w : World) : Prop :=
  ∀ k row, w.ledger.transactions k = some row → row.insertedBy = t → row.status = .success →
    w.delivered row.txId = true

theorem clear_of_noRow (h : NoRow t w.ledger) : Clear t w :=
  fun k row hk hby _ => (h k row hk hby).elim

theorem clear_of_owes (h : w.owes t = false) : Clear t w := by
  intro k row hk hby hs
  have hrow : row ∈ w.transactions := mem_of_get? hk
  simp only [World.owes, List.any_eq_false] at h
  simpa [hby, hs] using h row hrow

section
variable {key : String} {txId : TxId} {amount : Int} {status : TransactionStatus}

theorem clear_of_mine (hm : Mine t key txId amount status w.ledger)
    (h : status = .success → w.delivered txId = true) : Clear t w := by
  intro k row hk hby hs
  obtain rfl := hm.only k row hk hby
  obtain ⟨row', hk', -, rfl, -, rfl⟩ := hm.row
  obtain rfl := Option.some.inj (hk.symm.trans hk')
  exact h hs

theorem clear_of_owesFree (hm : Mine t key txId 0 status w.ledger) (h : w.owesFree t = false) :
    Clear t w := by
  apply clear_of_mine hm
  intro hstatus
  obtain ⟨row, hk, hby, rfl, ha, hs⟩ := hm.row
  have hrow : row ∈ w.transactions := mem_of_get? hk
  simp only [World.owesFree, List.any_eq_false] at h
  simpa [hby, hs, hstatus, ha] using h row hrow

end

theorem firm_clear : Firm t (Clear t) := by
  constructor
  · intro w w' hi hc k row hk hby hs
    have hi' := contract_interferes hi
    have hstep : Interference Regime.any t w.ledger w'.ledger := by
      refine ⟨hi'.1, ?_⟩
      rcases hi'.2.2 with ⟨t', hne, hg⟩ | he
      · exact .inl ⟨t', hne, hg.1⟩
      · exact .inr he.1
    exact (kept_interferes hi).delivered _ (hc k row (hstep.own_row_before hk hby) hby hs)
  · intro w w' htx hk _ hc k row hrow hby hs
    have hsame : w'.ledger.transactions = w.ledger.transactions := by
      funext k
      simp [World.ledger, World.getTransaction, htx]
    rw [hsame] at hrow
    exact hk.delivered _ (hc k row hrow hby hs)

end CarPayIn
