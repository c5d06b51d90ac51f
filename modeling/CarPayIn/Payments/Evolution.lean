import CarPayIn.Payments.Ledger

/-! # What a step changes

For each part of the ledgers, where an entry after a step comes from. Every
invariant of the ledgers is derived from these inversions, and every lookup
that an invariant keeps is carried over by `Grows`.
-/

namespace CarPayIn

open Process

namespace Ledger

variable {Γ : Regime} {t : Tid} {ℓ ℓ' : Ledger}

/-- One step of an execution or of the network. -/
def Move (Γ : Regime) (ℓ ℓ' : Ledger) : Prop := (∃ t, Step Γ t ℓ ℓ') ∨ NetStep Γ ℓ ℓ'

@[simp] theorem enqueue_transactions (ℓ : Ledger) (n : PaymentNotificationOutbox) :
    (ℓ.enqueue n).transactions = ℓ.transactions := by
  unfold enqueue; split <;> rfl

@[simp] theorem enqueue_pgCalls (ℓ : Ledger) (n : PaymentNotificationOutbox) :
    (ℓ.enqueue n).pgCalls = ℓ.pgCalls := by
  unfold enqueue; split <;> rfl

@[simp] theorem enqueue_pgTransactions (ℓ : Ledger) (n : PaymentNotificationOutbox) :
    (ℓ.enqueue n).pgTransactions = ℓ.pgTransactions := by
  unfold enqueue; split <;> rfl

@[simp] theorem enqueue_cardCalls (ℓ : Ledger) (n : PaymentNotificationOutbox) :
    (ℓ.enqueue n).cardCalls = ℓ.cardCalls := by
  unfold enqueue; split <;> rfl

@[simp] theorem enqueue_cardTransactions (ℓ : Ledger) (n : PaymentNotificationOutbox) :
    (ℓ.enqueue n).cardTransactions = ℓ.cardTransactions := by
  unfold enqueue; split <;> rfl

theorem update_eq_some {κ ν : Type} [DecidableEq κ] {f : κ → Option ν} {k k' : κ} {v v' : ν} :
    Function.update f k (some v) k' = some v' ↔ k' = k ∧ v = v' ∨ k' ≠ k ∧ f k' = some v' := by
  by_cases h : k' = k
  · subst h; simp
  · simp [h]

/-! ## Where entries come from -/

/-- How a transaction row may change in one step. -/
inductive TransactionStep (Γ : Regime) (t : Tid) (ℓ : Ledger) (k : String) : Transaction → Prop where
  | same (row : Transaction) (h : ℓ.transactions k = some row) : TransactionStep Γ t ℓ k row
  | opened (row : Transaction) (hkey : row.idempotencyKey = k) (hnone : ℓ.transactions k = none)
      (hid : ∀ k r, ℓ.transactions k = some r → r.txId ≠ row.txId) (hby : row.insertedBy = t)
      (hstatus : row.status = .pending)
      (hfirst : ∀ k r, ℓ.transactions k = some r → r.insertedBy ≠ t) (hcall : ℓ.NoPgCall t) :
      TransactionStep Γ t ℓ k row
  | succeeded (row : Transaction) (pgTxId approvalNo : Option String)
      (h : ℓ.transactions k = some row) (hby : row.insertedBy = t) (hstatus : row.status = .pending)
      (hwhy : row.amount = 0 ∨ ∃ r, ℓ.PgAnswer t k r ∧ Approves r pgTxId approvalNo) :
      TransactionStep Γ t ℓ k (World.statusChange .success pgTxId approvalNo none row)
  | failed (row : Transaction) (reason : Option String) (h : ℓ.transactions k = some row)
      (hby : row.insertedBy = t) (hpending : row.status = .pending → Γ.faults ∨ ℓ.PgFailure t k)
      (hsuccess : row.status = .success → Γ.lateFaults) :
      TransactionStep Γ t ℓ k (World.statusChange .failed none none reason row)

theorem Step.transactions (h : Step Γ t ℓ ℓ') {k : String} {row' : Transaction}
    (hk : ℓ'.transactions k = some row') : TransactionStep Γ t ℓ k row' := by
  cases h with
  | openTransaction row hkey hid hby hstatus hfirst hcall =>
      rcases update_eq_some.1 hk with ⟨rfl, rfl⟩ | ⟨-, hk⟩
      · exact .opened _ rfl hkey hid hby hstatus hfirst hcall
      · exact .same _ hk
  | succeed key row pgTxId approvalNo note hrow hby hstatus hnote hwhy =>
      rw [enqueue_transactions] at hk
      rcases update_eq_some.1 hk with ⟨rfl, rfl⟩ | ⟨-, hk⟩
      · exact .succeeded row pgTxId approvalNo hrow hby hstatus hwhy
      · exact .same _ hk
  | fail key row reason hrow hby hpending hsuccess =>
      rcases update_eq_some.1 hk with ⟨rfl, rfl⟩ | ⟨-, hk⟩
      · exact .failed row reason hrow hby hpending hsuccess
      · exact .same _ hk
  | _ => exact .same _ hk

theorem NetStep.transactions (h : NetStep Γ ℓ ℓ') : ℓ'.transactions = ℓ.transactions := by
  cases h <;> rfl

/-- How a charge request to the PG may change in one step. -/
inductive PgCallStep (Γ : Regime) (t : Tid) (ℓ : Ledger) (id : Nat) : PgCall → Prop where
  | same (c : PgCall) (h : ℓ.pgCalls id = some c) : PgCallStep Γ t ℓ id c
  | charged (req : ChargeRequest) (row : Transaction) (hnone : ℓ.pgCalls id = none)
      (hrow : ℓ.transactions req.idempotencyKey = some row) (hby : row.insertedBy = t)
      (hstatus : row.status = .pending) (hamount : row.amount = req.amount)
      (hcurrency : row.currency = req.currency) (hpaid : 0 < req.amount) (hcall : ℓ.NoPgCall t)
      (hΓ : Γ.mayCharge ℓ req) : PgCallStep Γ t ℓ id ⟨t, req, .sent, .waiting⟩
  | received (c : PgCall) (r : HttpResponse) (h : ℓ.pgCalls id = some c) (hby : c.caller = t)
      (hw : c.receipt = .waiting) (ha : c.progress = .answered r) :
      PgCallStep Γ t ℓ id { c with receipt := .received r }
  | responded (c : PgCall) (r : HttpResponse) (h : ℓ.AtPg id c) (ht : t = .pg id)
      (happroves : ∀ pgTxId approvalNo, Approves r pgTxId approvalNo →
        ∃ p, ℓ.pgTransactions c.request.idempotencyKey = some p ∧ p.status = .success ∧
          p.approvalNo = approvalNo)
      (hdeclines : Declines r → Γ.faults ∨ ℓ.CardFailure t c.request.idempotencyKey) :
      PgCallStep Γ t ℓ id { c with progress := .answered r }

theorem Step.pgCalls (h : Step Γ t ℓ ℓ') {id : Nat} {c' : PgCall} (hc : ℓ'.pgCalls id = some c') :
    PgCallStep Γ t ℓ id c' := by
  cases h with
  | charge id₀ req row hid hrow hby hstatus hamount hcurrency hpaid hcall hΓ =>
      rcases update_eq_some.1 hc with ⟨rfl, rfl⟩ | ⟨-, hc⟩
      · exact .charged req row hid hrow hby hstatus hamount hcurrency hpaid hcall hΓ
      · exact .same _ hc
  | receivePg id₀ c r h₀ hby hw ha =>
      rcases update_eq_some.1 hc with ⟨rfl, rfl⟩ | ⟨-, hc⟩
      · exact .received c r h₀ hby hw ha
      · exact .same _ hc
  | respondPg i c r ht h₀ happroves hdeclines =>
      rcases update_eq_some.1 hc with ⟨rfl, rfl⟩ | ⟨-, hc⟩
      · exact .responded c r h₀ ht happroves hdeclines
      · exact .same _ hc
  | succeed key row pgTxId approvalNo note hrow hby hstatus hnote hwhy =>
      rw [enqueue_pgCalls] at hc
      exact .same _ hc
  | _ => exact .same _ hc

inductive PgCallNet (Γ : Regime) (ℓ : Ledger) (id : Nat) : PgCall → Prop where
  | same (c : PgCall) (h : ℓ.pgCalls id = some c) : PgCallNet Γ ℓ id c
  | moved (c : PgCall) (progress : Progress HttpResponse) (h : ℓ.pgCalls id = some c)
      (hs : c.progress = .sent) (hp : progress = .delivered ∨ progress = .dropped) :
      PgCallNet Γ ℓ id { c with progress := progress }
  | gaveUp (c : PgCall) (h : ℓ.pgCalls id = some c) (hw : c.receipt = .waiting)
      (hΓ : Γ.mayGiveUpPg ℓ id) : PgCallNet Γ ℓ id { c with receipt := .abandoned }

theorem NetStep.pgCalls (h : NetStep Γ ℓ ℓ') {id : Nat} {c' : PgCall}
    (hc : ℓ'.pgCalls id = some c') : PgCallNet Γ ℓ id c' := by
  cases h with
  | movePg id₀ c progress h₀ hs hp =>
      rcases update_eq_some.1 hc with ⟨rfl, rfl⟩ | ⟨-, hc⟩
      · exact .moved c progress h₀ hs hp
      · exact .same _ hc
  | giveUpPg id₀ c h₀ hw hΓ =>
      rcases update_eq_some.1 hc with ⟨rfl, rfl⟩ | ⟨-, hc⟩
      · exact .gaveUp c h₀ hw hΓ
      · exact .same _ hc
  | _ => exact .same _ hc

/-- How a transaction row of the PG may change in one step. -/
inductive PgTransactionStep (Γ : Regime) (t : Tid) (ℓ : Ledger) (k : String) :
    PgTransaction → Prop where
  | same (p : PgTransaction) (h : ℓ.pgTransactions k = some p) : PgTransactionStep Γ t ℓ k p
  | inserted (i : Nat) (c : PgCall) (p : PgTransaction) (ht : t = .pg i) (hc : ℓ.AtPg i c)
      (hk : p.idempotencyKey = k) (hkey : c.request.idempotencyKey = k)
      (hnone : ℓ.pgTransactions k = none) (hby : p.insertedBy = t)
      (hamount : p.amount = c.request.amount) (hcurrency : p.currency = c.request.currency)
      (hstatus : p.status = .pending ∨ p.status = .failed) (hcall : ℓ.NoCardCall t) :
      PgTransactionStep Γ t ℓ k p
  | succeeded (i : Nat) (c : PgCall) (p : PgTransaction) (approvalNo cardTxId : Option String)
      (r : HttpResponse) (ht : t = .pg i) (hc : ℓ.AtPg i c)
      (hkey : c.request.idempotencyKey = k) (h : ℓ.pgTransactions k = some p)
      (hr : ℓ.CardAnswer t k r) (ha : cardApproval r = some approvalNo) :
      PgTransactionStep Γ t ℓ k (World.pgStatusChange .success approvalNo cardTxId none p)
  | failed (i : Nat) (c : PgCall) (p : PgTransaction) (cardTxId reason : Option String)
      (ht : t = .pg i) (hc : ℓ.AtPg i c) (hkey : c.request.idempotencyKey = k)
      (h : ℓ.pgTransactions k = some p) (hwhy : Γ.faults ∨ ℓ.CardFailure t k) :
      PgTransactionStep Γ t ℓ k (World.pgStatusChange .failed none cardTxId reason p)

theorem Step.pgTransactions (h : Step Γ t ℓ ℓ') {k : String} {p' : PgTransaction}
    (hk : ℓ'.pgTransactions k = some p') : PgTransactionStep Γ t ℓ k p' := by
  cases h with
  | insertPg i c p ht hc hkey hnone hby hamount hcurrency hstatus hcall =>
      rcases update_eq_some.1 hk with ⟨rfl, rfl⟩ | ⟨-, hk⟩
      · exact .inserted i c _ ht hc rfl hkey.symm hnone hby hamount hcurrency hstatus hcall
      · exact .same _ hk
  | succeedPg i c p approvalNo cardTxId r ht hc hp hr ha =>
      rcases update_eq_some.1 hk with ⟨rfl, rfl⟩ | ⟨-, hk⟩
      · exact .succeeded i c p approvalNo cardTxId r ht hc rfl hp hr ha
      · exact .same _ hk
  | failPg i c p cardTxId reason ht hc hp hwhy =>
      rcases update_eq_some.1 hk with ⟨rfl, rfl⟩ | ⟨-, hk⟩
      · exact .failed i c p cardTxId reason ht hc rfl hp hwhy
      · exact .same _ hk
  | succeed key row pgTxId approvalNo note hrow hby hstatus hnote hwhy =>
      rw [enqueue_pgTransactions] at hk
      exact .same _ hk
  | _ => exact .same _ hk

theorem NetStep.pgTransactions (h : NetStep Γ ℓ ℓ') : ℓ'.pgTransactions = ℓ.pgTransactions := by
  cases h <;> rfl

/-- How a charge request to the card service may change in one step. -/
inductive CardCallStep (Γ : Regime) (t : Tid) (ℓ : Ledger) (id : Nat) : CardCall → Prop where
  | same (d : CardCall) (h : ℓ.cardCalls id = some d) : CardCallStep Γ t ℓ id d
  | charged (i : Nat) (c : PgCall) (p : PgTransaction) (req : CardChargeRequest) (ht : t = .pg i)
      (hc : ℓ.AtPg i c) (hnone : ℓ.cardCalls id = none)
      (hkey : req.idempotencyKey = c.request.idempotencyKey)
      (hamount : req.amount = c.request.amount) (hcurrency : req.currency = c.request.currency)
      (hp : ℓ.pgTransactions req.idempotencyKey = some p) (hstatus : p.status = .pending)
      (hcall : ℓ.NoCardCall t) : CardCallStep Γ t ℓ id ⟨t, req, .sent, .waiting⟩
  | received (d : CardCall) (r : HttpResponse) (h : ℓ.cardCalls id = some d) (hby : d.caller = t)
      (hw : d.receipt = .waiting) (ha : d.progress = .answered r) :
      CardCallStep Γ t ℓ id { d with receipt := .received r }
  | responded (d : CardCall) (r : HttpResponse) (h : ℓ.AtCard id d) (ht : t = .card id)
      (happroves : ∀ approvalNo, cardApproval r = some approvalNo →
        ∃ x, ℓ.cardTransactions d.request.idempotencyKey = some x ∧ x.status = .success ∧
          x.approvalNo = approvalNo)
      (hdeclines : cardApproval r = none → Γ.faults ∨ ¬ℓ.Charged d.request.idempotencyKey) :
      CardCallStep Γ t ℓ id { d with progress := .answered r }

theorem Step.cardCalls (h : Step Γ t ℓ ℓ') {id : Nat} {d' : CardCall}
    (hd : ℓ'.cardCalls id = some d') : CardCallStep Γ t ℓ id d' := by
  cases h with
  | sendCard j i c p req ht hc hid hkey hamount hcurrency hp hstatus hcall =>
      rcases update_eq_some.1 hd with ⟨rfl, rfl⟩ | ⟨-, hd⟩
      · exact .charged i c p req ht hc hid hkey hamount hcurrency hp hstatus hcall
      · exact .same _ hd
  | receiveCard id₀ d r h₀ hby hw ha =>
      rcases update_eq_some.1 hd with ⟨rfl, rfl⟩ | ⟨-, hd⟩
      · exact .received d r h₀ hby hw ha
      · exact .same _ hd
  | respondCard j d r ht h₀ happroves hdeclines =>
      rcases update_eq_some.1 hd with ⟨rfl, rfl⟩ | ⟨-, hd⟩
      · exact .responded d r h₀ ht happroves hdeclines
      · exact .same _ hd
  | succeed key row pgTxId approvalNo note hrow hby hstatus hnote hwhy =>
      rw [enqueue_cardCalls] at hd
      exact .same _ hd
  | _ => exact .same _ hd

inductive CardCallNet (Γ : Regime) (ℓ : Ledger) (id : Nat) : CardCall → Prop where
  | same (d : CardCall) (h : ℓ.cardCalls id = some d) : CardCallNet Γ ℓ id d
  | moved (d : CardCall) (progress : Progress HttpResponse) (h : ℓ.cardCalls id = some d)
      (hs : d.progress = .sent) (hp : progress = .delivered ∨ progress = .dropped) :
      CardCallNet Γ ℓ id { d with progress := progress }
  | gaveUp (d : CardCall) (h : ℓ.cardCalls id = some d) (hw : d.receipt = .waiting)
      (hΓ : Γ.mayGiveUpCard ℓ id) : CardCallNet Γ ℓ id { d with receipt := .abandoned }

theorem NetStep.cardCalls (h : NetStep Γ ℓ ℓ') {id : Nat} {d' : CardCall}
    (hd : ℓ'.cardCalls id = some d') : CardCallNet Γ ℓ id d' := by
  cases h with
  | moveCard id₀ d progress h₀ hs hp =>
      rcases update_eq_some.1 hd with ⟨rfl, rfl⟩ | ⟨-, hd⟩
      · exact .moved d progress h₀ hs hp
      · exact .same _ hd
  | giveUpCard id₀ d h₀ hw hΓ =>
      rcases update_eq_some.1 hd with ⟨rfl, rfl⟩ | ⟨-, hd⟩
      · exact .gaveUp d h₀ hw hΓ
      · exact .same _ hd
  | _ => exact .same _ hd

/-- How a card transaction may change in one step: it is written once. -/
inductive CardTransactionStep (t : Tid) (ℓ : Ledger) (k : String) : CardTx → Prop where
  | same (x : CardTx) (h : ℓ.cardTransactions k = some x) : CardTransactionStep t ℓ k x
  | inserted (j : Nat) (d : CardCall) (x : CardTx) (ht : t = .card j) (hd : ℓ.AtCard j d)
      (hk : x.idempotencyKey = k) (hkey : d.request.idempotencyKey = k)
      (hnone : ℓ.cardTransactions k = none) (hby : x.insertedBy = t)
      (hamount : x.amount = d.request.amount) (hcurrency : x.currency = d.request.currency)
      (happroval : x.status = .success → x.approvalNo.isSome) :
      CardTransactionStep t ℓ k x

theorem Step.cardTransactions (h : Step Γ t ℓ ℓ') {k : String} {x' : CardTx}
    (hk : ℓ'.cardTransactions k = some x') : CardTransactionStep t ℓ k x' := by
  cases h with
  | insertCard j d x ht hd hkey hnone hby hamount hcurrency happroval =>
      rcases update_eq_some.1 hk with ⟨rfl, rfl⟩ | ⟨-, hk⟩
      · exact .inserted j d _ ht hd rfl hkey.symm hnone hby hamount hcurrency happroval
      · exact .same _ hk
  | succeed key row pgTxId approvalNo note hrow hby hstatus hnote hwhy =>
      rw [enqueue_cardTransactions] at hk
      exact .same _ hk
  | _ => exact .same _ hk

theorem NetStep.cardTransactions (h : NetStep Γ ℓ ℓ') :
    ℓ'.cardTransactions = ℓ.cardTransactions := by
  cases h <;> rfl

/-! ## What persists -/

end Ledger

structure Transaction.Same (row row' : Transaction) : Prop where
  txId : row'.txId = row.txId
  sessionId : row'.sessionId = row.sessionId
  amount : row'.amount = row.amount
  currency : row'.currency = row.currency
  idempotencyKey : row'.idempotencyKey = row.idempotencyKey
  insertedBy : row'.insertedBy = row.insertedBy

structure PgTransaction.Same (p p' : PgTransaction) : Prop where
  amount : p'.amount = p.amount
  currency : p'.currency = p.currency
  idempotencyKey : p'.idempotencyKey = p.idempotencyKey
  insertedBy : p'.insertedBy = p.insertedBy

theorem Transaction.Same.refl (row : Transaction) : row.Same row := ⟨rfl, rfl, rfl, rfl, rfl, rfl⟩

theorem Transaction.Same.of_statusChange (row : Transaction) (status : TransactionStatus)
    (pgTxId approvalNo reason : Option String) :
    row.Same (World.statusChange status pgTxId approvalNo reason row) :=
  ⟨rfl, rfl, rfl, rfl, rfl, rfl⟩

theorem PgTransaction.Same.refl (p : PgTransaction) : p.Same p := ⟨rfl, rfl, rfl, rfl⟩

theorem PgTransaction.Same.of_statusChange (p : PgTransaction) (status : TransactionStatus)
    (approvalNo cardTxId reason : Option String) :
    p.Same (World.pgStatusChange status approvalNo cardTxId reason p) := ⟨rfl, rfl, rfl, rfl⟩

namespace Ledger

variable {Γ : Regime} {t : Tid} {ℓ ℓ' : Ledger}

/-- A partial map in which entries may be added and evolve but never go. -/
def Extends {κ ν : Type} (R : ν → ν → Prop) (f f' : κ → Option ν) : Prop :=
  ∀ k v, f k = some v → ∃ v', f' k = some v' ∧ R v v'

theorem Extends.refl {κ ν : Type} {R : ν → ν → Prop} (hR : ∀ v, R v v) (f : κ → Option ν) :
    Extends R f f :=
  fun _ v h => ⟨v, h, hR v⟩

section
variable {κ ν : Type} [DecidableEq κ] {R : ν → ν → Prop} {f : κ → Option ν} {k : κ} {v v' : ν}

theorem Extends.update (hR : ∀ v, R v v) (hk : f k = some v) (hv : R v v') :
    Extends R f (Function.update f k (some v')) := by
  intro k₀ v₀ h
  by_cases hk₀ : k₀ = k
  · subst hk₀
    rw [hk] at h
    cases h
    exact ⟨v', by simp, hv⟩
  · exact ⟨v₀, by simp [hk₀, h], hR v₀⟩

theorem Extends.insert (hR : ∀ v, R v v) (hk : f k = none) :
    Extends R f (Function.update f k (some v')) := by
  intro k₀ v₀ h
  have hk₀ : k₀ ≠ k := by
    rintro rfl
    rw [hk] at h
    cases h
  exact ⟨v₀, by simp [hk₀, h], hR v₀⟩

end

/-- What every step keeps of the ledgers. -/
structure Grows (ℓ ℓ' : Ledger) : Prop where
  transactions : Extends Transaction.Same ℓ.transactions ℓ'.transactions
  pgCalls : Extends Exchange.Later ℓ.pgCalls ℓ'.pgCalls
  pgTransactions : Extends PgTransaction.Same ℓ.pgTransactions ℓ'.pgTransactions
  cardCalls : Extends Exchange.Later ℓ.cardCalls ℓ'.cardCalls
  cardTransactions : Extends Eq ℓ.cardTransactions ℓ'.cardTransactions

theorem Grows.refl (ℓ : Ledger) : Grows ℓ ℓ :=
  ⟨.refl .refl _, .refl .refl _, .refl .refl _, .refl .refl _, .refl (fun _ => rfl) _⟩

theorem Grows.setTransaction {k : String} {row : Transaction}
    (h : Extends Transaction.Same ℓ.transactions (Function.update ℓ.transactions k (some row))) :
    Grows ℓ (ℓ.setTransaction k row) :=
  { Grows.refl ℓ with transactions := h }

theorem Grows.setPgCall {id : Nat} {c : PgCall}
    (h : Extends Exchange.Later ℓ.pgCalls (Function.update ℓ.pgCalls id (some c))) :
    Grows ℓ (ℓ.setPgCall id c) :=
  { Grows.refl ℓ with pgCalls := h }

theorem Grows.setPgTransaction {k : String} {p : PgTransaction}
    (h : Extends PgTransaction.Same ℓ.pgTransactions
      (Function.update ℓ.pgTransactions k (some p))) :
    Grows ℓ (ℓ.setPgTransaction k p) :=
  { Grows.refl ℓ with pgTransactions := h }

theorem Grows.setCardCall {id : Nat} {d : CardCall}
    (h : Extends Exchange.Later ℓ.cardCalls (Function.update ℓ.cardCalls id (some d))) :
    Grows ℓ (ℓ.setCardCall id d) :=
  { Grows.refl ℓ with cardCalls := h }

theorem Grows.enqueue (h : Grows ℓ ℓ') (n : PaymentNotificationOutbox) : Grows ℓ (ℓ'.enqueue n) := by
  obtain ⟨h₁, h₂, h₃, h₄, h₅⟩ := h
  exact ⟨by simpa using h₁, by simpa using h₂, by simpa using h₃, by simpa using h₄, by simpa using h₅⟩

theorem Step.grows (h : Step Γ t ℓ ℓ') : Grows ℓ ℓ' := by
  cases h with
  | quiet => exact .refl ℓ
  | openTransaction row hkey => exact .setTransaction (.insert .refl hkey)
  | charge id req row hid => exact .setPgCall (.insert .refl hid)
  | receivePg id c r hc hby hw => exact .setPgCall (.update .refl hc (.of_receipt hw _))
  | succeed key row pgTxId approvalNo note hrow =>
      exact (Grows.setTransaction (.update .refl hrow (.of_statusChange ..))).enqueue note
  | fail key row reason hrow =>
      exact .setTransaction (.update .refl hrow (.of_statusChange ..))
  | insertPg i c p ht hc hkey hnone => exact .setPgTransaction (.insert .refl hnone)
  | sendCard j i c p req ht hc hid => exact .setCardCall (.insert .refl hid)
  | receiveCard j d r hd hby hw => exact .setCardCall (.update .refl hd (.of_receipt hw _))
  | succeedPg i c p approvalNo cardTxId r ht hc hp =>
      exact .setPgTransaction (.update .refl hp (.of_statusChange ..))
  | failPg i c p cardTxId reason ht hc hp =>
      exact .setPgTransaction (.update .refl hp (.of_statusChange ..))
  | respondPg i c r ht hc => exact .setPgCall (.update .refl hc.1 (.of_delivered hc.2 r))
  | insertCard j d x ht hd hkey hnone =>
      exact { Grows.refl ℓ with cardTransactions := .insert (fun _ => rfl) hnone }
  | respondCard j d r ht hd => exact .setCardCall (.update .refl hd.1 (.of_delivered hd.2 r))

theorem NetStep.grows (h : NetStep Γ ℓ ℓ') : Grows ℓ ℓ' := by
  cases h with
  | quiet => exact .refl ℓ
  | movePg id c progress hc hs => exact .setPgCall (.update .refl hc (.of_sent hs _))
  | giveUpPg id c hc hw => exact .setPgCall (.update .refl hc (.of_receipt hw _))
  | moveCard id d progress hd hs => exact .setCardCall (.update .refl hd (.of_sent hs _))
  | giveUpCard id d hd hw => exact .setCardCall (.update .refl hd (.of_receipt hw _))

theorem Move.grows (h : Move Γ ℓ ℓ') : Grows ℓ ℓ' :=
  h.elim (fun ⟨_, h⟩ => h.grows) NetStep.grows

/-! ## One entry at a time -/

/-- A map that is unchanged or changed at one key. -/
def Updates {κ ν : Type} [DecidableEq κ] (f f' : κ → Option ν) : Prop :=
  f' = f ∨ ∃ k v, f' = Function.update f k (some v)

/-- No step adds two entries. -/
theorem Updates.new_unique {κ ν : Type} [DecidableEq κ] {f f' : κ → Option ν} (h : Updates f f')
    {k k' : κ} {v v' : ν} (hk : f k = none) (hv : f' k = some v) (hk' : f k' = none)
    (hv' : f' k' = some v') : k = k' := by
  rcases h with rfl | ⟨k₀, v₀, rfl⟩
  · rw [hk] at hv
    cases hv
  · rcases update_eq_some.1 hv with ⟨rfl, -⟩ | ⟨-, hv⟩
    · rcases update_eq_some.1 hv' with ⟨rfl, -⟩ | ⟨-, hv'⟩
      · rfl
      · rw [hk'] at hv'
        cases hv'
    · rw [hk] at hv
      cases hv

theorem Move.transactions_updates (h : Move Γ ℓ ℓ') :
    Updates ℓ.transactions ℓ'.transactions := by
  rcases h with ⟨t, h⟩ | h
  · cases h with
    | openTransaction | fail => exact .inr ⟨_, _, rfl⟩
    | succeed => rw [enqueue_transactions]; exact .inr ⟨_, _, rfl⟩
    | _ => exact .inl rfl
  · exact .inl h.transactions

theorem Move.pgCalls_updates (h : Move Γ ℓ ℓ') : Updates ℓ.pgCalls ℓ'.pgCalls := by
  rcases h with ⟨t, h⟩ | h
  · cases h with
    | charge | receivePg | respondPg => exact .inr ⟨_, _, rfl⟩
    | succeed => rw [enqueue_pgCalls]; exact .inl rfl
    | _ => exact .inl rfl
  · cases h with
    | movePg | giveUpPg => exact .inr ⟨_, _, rfl⟩
    | _ => exact .inl rfl

theorem Move.cardCalls_updates (h : Move Γ ℓ ℓ') : Updates ℓ.cardCalls ℓ'.cardCalls := by
  rcases h with ⟨t, h⟩ | h
  · cases h with
    | sendCard | receiveCard | respondCard => exact .inr ⟨_, _, rfl⟩
    | succeed => rw [enqueue_cardCalls]; exact .inl rfl
    | _ => exact .inl rfl
  · cases h with
    | moveCard | giveUpCard => exact .inr ⟨_, _, rfl⟩
    | _ => exact .inl rfl

/-- A step on the charge requests changes nothing else. -/
theorem Move.only_pgCalls (h : Move Γ ℓ ℓ') {i : Nat} (hne : ℓ'.pgCalls i ≠ ℓ.pgCalls i) :
    ℓ'.transactions = ℓ.transactions ∧ ℓ'.pgTransactions = ℓ.pgTransactions ∧
      ℓ'.cardCalls = ℓ.cardCalls ∧ ℓ'.cardTransactions = ℓ.cardTransactions := by
  rcases h with ⟨t, h⟩ | h
  · cases h with
    | charge | receivePg | respondPg => exact ⟨rfl, rfl, rfl, rfl⟩
    | succeed => rw [enqueue_pgCalls] at hne; exact (hne rfl).elim
    | _ => exact (hne rfl).elim
  · cases h with
    | movePg | giveUpPg => exact ⟨rfl, rfl, rfl, rfl⟩
    | _ => exact (hne rfl).elim

theorem Move.only_cardCalls (h : Move Γ ℓ ℓ') {j : Nat} (hne : ℓ'.cardCalls j ≠ ℓ.cardCalls j) :
    ℓ'.transactions = ℓ.transactions ∧ ℓ'.pgCalls = ℓ.pgCalls ∧
      ℓ'.pgTransactions = ℓ.pgTransactions ∧ ℓ'.cardTransactions = ℓ.cardTransactions := by
  rcases h with ⟨t, h⟩ | h
  · cases h with
    | sendCard | receiveCard | respondCard => exact ⟨rfl, rfl, rfl, rfl⟩
    | succeed => rw [enqueue_cardCalls] at hne; exact (hne rfl).elim
    | _ => exact (hne rfl).elim
  · cases h with
    | moveCard | giveUpCard => exact ⟨rfl, rfl, rfl, rfl⟩
    | _ => exact (hne rfl).elim

end Ledger

end CarPayIn
