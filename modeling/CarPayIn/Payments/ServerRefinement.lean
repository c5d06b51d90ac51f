import CarPayIn.Payments.PaymentRefinement

/-! # The PG and the card service keep the contract

What a server answers is what its ledger says: the PG approves a request only
after its row has succeeded, the card service only after it has stored an
approved transaction.
-/

namespace CarPayIn

open Process Process.System Store Ledger Service

variable {rt : Runtime} {π : Policy Op PyError World Tid Start Env} {Γ : Regime} {α : Type}

/-! ## What the responses say -/

theorem declines_errorResponse (e : PyError) : Declines (errorResponse e) := by
  intro pgTxId approvalNo
  cases e <;> simp [Approves, errorResponse, HttpxPgClient.decode, HttpResponse.json, Json.get,
    Json.getD, Json.index, Json.get?, bind, Except.bind, pure, Except.pure]

theorem declines_failed {result : ChargeBillingKeyResult} (h : result.status = .failed) :
    Declines (ChargeBillingKeyService.okResponse result) := by
  intro pgTxId approvalNo
  simp [Approves, ChargeBillingKeyService.okResponse, h, HttpxPgClient.decode, HttpResponse.json,
    bind, Except.bind, pure, Except.pure]

/-- An approval names its PG transaction and carries its approval number. -/
theorem decode_success (txId approvalNo : String) :
    HttpxPgClient.decode (ChargeBillingKeyService.okResponse ⟨.success, txId, some approvalNo⟩) =
      .ok (.success (some txId) (some approvalNo)) := by
  simp [ChargeBillingKeyService.okResponse, HttpxPgClient.decode, HttpResponse.json, Json.get,
    Json.index, Json.get?, ChargeBillingKeyService.optional, TransactionStatus.text,
    bind, Except.bind, pure, Except.pure]

theorem cardApproval_errorResponse (e : PyError) : cardApproval (errorResponse e) = none := by
  cases e <;> simp [cardApproval, errorResponse, HttpxMockCardClient.raiseForStatus]

theorem cardApproval_okResponse (result : ApproveCardPaymentResult) :
    cardApproval (ApproveCardPaymentService.okResponse result) =
      if result.status = .success then some result.approvalNo else none := by
  obtain ⟨status, txId, approvalNo⟩ := result
  cases status <;> simp [cardApproval, ApproveCardPaymentService.okResponse,
    HttpxMockCardClient.raiseForStatus, HttpResponse.json, Json.getD, Json.get?,
    TransactionStatus.text]

/-! ## The card service -/

section Card
variable {j : Nat} {request : CardChargeRequest}

/-- The card service works on a request whose key has no card row yet. -/
def NewCard (j : Nat) (request : CardChargeRequest) (ℓ : Ledger) : Prop :=
  ServingCard j request ℓ ∧ ℓ.cardTransactions request.idempotencyKey = none

/-- It has stored a row with this status and approval number. -/
def StoredCard (j : Nat) (request : CardChargeRequest) (status : TransactionStatus)
    (approvalNo : Option String) (ℓ : Ledger) : Prop :=
  ServingCard j request ℓ ∧ ∃ x, ℓ.cardTransactions request.idempotencyKey = some x ∧
    x.status = status ∧ x.approvalNo = approvalNo

/-- What its result says is what its ledger holds. -/
def CardOutcome (Γ : Regime) (j : Nat) (request : CardChargeRequest)
    (r : Except PyError ApproveCardPaymentResult) (ℓ : Ledger) : Prop :=
  ServingCard j request ℓ ∧
    ((∃ result, r = .ok result ∧ result.status = .success ∧
        ∃ x, ℓ.cardTransactions request.idempotencyKey = some x ∧ x.status = .success ∧
          x.approvalNo = result.approvalNo) ∨
      (∀ result, r = .ok result → result.status ≠ .success) ∧
        (Γ.faults ∨ ¬ℓ.Charged request.idempotencyKey))

theorem stable_newCard : (contract Γ).Stable (.card j) fun w => NewCard j request w.ledger :=
  stable_of_ledger fun _ _ h ⟨hs, hn⟩ => ⟨h.servingCard hs, by rw [h.cardRow hs]; exact hn⟩

theorem stable_cardOutcome (r : Except PyError ApproveCardPaymentResult) :
    (contract Γ).Stable (.card j) fun w => CardOutcome Γ j request r w.ledger := by
  refine stable_of_ledger ?_
  rintro ℓ ℓ' h ⟨hs, hr⟩
  simp only [CardOutcome, Charged, h.cardRow hs]
  exact ⟨h.servingCard hs, hr⟩

/-- An error before the row is stored leaves the card uncharged. -/
theorem NewCard.outcome {ℓ : Ledger} (h : NewCard j request ℓ)
    {r : Except PyError ApproveCardPaymentResult}
    (hr : ∀ result, r = .ok result → result.status ≠ .success) : CardOutcome Γ j request r ℓ :=
  ⟨h.1, .inr ⟨hr, .inr fun ⟨x, hx, _⟩ => by rw [h.2] at hx; cases hx⟩⟩

theorem newCard_lookup :
    (carPayIn rt).Triple π (contract Γ) (.card j) (fun w => NewCard j request w.ledger)
      (call (.card (.getByIdempotencyKey request.idempotencyKey)))
      (fun r w => NewCard j request w.ledger ∧ ∀ x, r = .ok x → x = none) := by
  refine .perform stable_newCard ?_
  rintro w m r w' h - - hout
  obtain ⟨hl, hk⟩ := quiet_outcome (.card (.getByIdempotencyKey request.idempotencyKey)) trivial hout
  refine ⟨guarantee_of_quiet hl hk, by rw [hl]; exact h, ?_⟩
  rintro x rfl
  rcases (carPayIn rt).outcome_cases hout with ⟨-, h₀⟩ | ⟨e, -, h₀, -⟩ | ⟨e, -, -, h₀, -⟩
  · cases h₀
    exact h.2
  · cases h₀
  · cases h₀

theorem createCardTransaction_triple (hW : Within π Γ) (txId : String) (status : TransactionStatus)
    (approvalNo : Option String) (hstatus : status = .success → approvalNo.isSome) :
    (carPayIn rt).Triple π (contract Γ) (.card j) (fun w => NewCard j request w.ledger)
      (ApproveCardPaymentService.createTransaction txId request status approvalNo)
      (fun r w => match r with
        | .ok _ => StoredCard j request status approvalNo w.ledger
        | .error e => CardOutcome Γ j request (.error e) w.ledger) := by
  unfold ApproveCardPaymentService.createTransaction
  simp only [Program.bind_eq, Program.pure_eq]
  refine Triple.bind (M := fun x w => NewCard j request w.ledger ∧ x = none) ?_ ?_
  · refine newCard_lookup.conseq (fun _ h => h) ?_
    rintro (e | x) w ⟨h, hx⟩
    · exact h.outcome (by simp)
    · exact ⟨h, hx x rfl⟩
  · rintro (_ | x)
    · refine (Triple.perform stable_newCard ?_).conseq (fun _ h => h.1) fun _ _ h => h
      rintro w m r w' h - hpol hout
      rcases write_outcome (x := fun w => w.insertCardTx ⟨txId, request.cardToken, request.amount,
        request.currency, approvalNo, status, request.idempotencyKey, .card j⟩)
        (fun _ => rfl) hout with ⟨rfl, ⟨e, rfl⟩, -⟩ | ⟨hx, hr⟩
      · exact ⟨guarantee_refl _, h.outcome (by simp)⟩
      · obtain ⟨hb, hl, hnone⟩ := World.insertCardTx_spec hx
        obtain ⟨⟨d, hd, rfl⟩, -⟩ := h
        refine ⟨guarantee_of_step (.insertCard _ j d _ rfl hd rfl hnone rfl rfl rfl hstatus) hl hb,
          ?_⟩
        have hs : ServingCard j d.request w'.ledger := by rw [hl]; exact ⟨d, hd, rfl⟩
        rcases hr with ⟨-, rfl⟩ | ⟨e, rfl, rfl⟩
        · exact ⟨hs, _, by rw [hl]; exact setCardTransaction_self .., rfl, rfl⟩
        · refine ⟨hs, .inr ⟨by simp, .inl ?_⟩⟩
          exact hW.faults_of_error (.card (.insert fun t => ⟨txId, d.request.cardToken,
            d.request.amount, d.request.currency, approvalNo, status, d.request.idempotencyKey, t⟩))
            (fun _ h => of_decide_eq_true h) hpol (by simp)
    · exact fun w h => by cases h.2

theorem approveCardPayment_triple (hW : Within π Γ) :
    (carPayIn rt).Triple π (contract Γ) (.card j) (fun w => NewCard j request w.ledger)
      (ApproveCardPaymentService.execute request)
      (fun r w => CardOutcome Γ j request r w.ledger) := by
  have hdraw (label : String) : (carPayIn rt).Triple π (contract Γ) (.card j)
      (fun w => NewCard j request w.ledger) (ApproveCardPaymentService.newId label)
      (fun _ w => NewCard j request w.ledger) :=
    .seq (quiet_call trivial stable_newCard (Robust.of_ledger _)) (fun _ _ h => h)
      fun _ => .done fun _ h => h
  have herror (e : PyError) (w : World) (h : NewCard j request w.ledger) :
      CardOutcome Γ j request (.error e) w.ledger := h.outcome (by simp)
  unfold ApproveCardPaymentService.execute
  simp only [Program.bind_eq, Program.pure_eq, Program.throw_eq]
  refine Triple.bind (M := fun x w => NewCard j request w.ledger ∧ x = none) ?_ ?_
  · refine newCard_lookup.conseq (fun _ h => h) ?_
    rintro (e | x) w ⟨h, hx⟩
    · exact herror e w h
    · exact ⟨h, hx x rfl⟩
  rintro (_ | x)
  case some => exact fun w h => by cases h.2
  refine Triple.conseq (P := fun w => NewCard j request w.ledger) ?_ (fun _ h => h.1)
    fun _ _ h => h
  dsimp only
  split
  · exact .done (herror _)
  refine .seq (quiet_call trivial stable_newCard (Robust.of_ledger _)) herror fun record => ?_
  split
  · refine .seq (hdraw _) herror fun txId => ?_
    refine Triple.bind (M := fun _ w => StoredCard j request .failed none w.ledger) ?_
      fun _ => .done ?_
    · refine (createCardTransaction_triple hW txId .failed none (by simp)).conseq (fun _ h => h) ?_
      rintro (e | u) w h <;> exact h
    · rintro w ⟨hs, x, hx, hst, -⟩
      refine ⟨hs, .inr ⟨by simp, .inr ?_⟩⟩
      rintro ⟨x', hx', hs'⟩
      rw [hx] at hx'
      cases hx'
      rw [hst] at hs'
      cases hs'
  · refine .seq (hdraw _) herror fun txId => ?_
    refine .seq (hdraw _) herror fun approvalNo => ?_
    refine Triple.bind (M := fun _ w => StoredCard j request .success (some approvalNo) w.ledger) ?_
      fun _ => .done ?_
    · refine (createCardTransaction_triple hW txId .success (some approvalNo) (by simp)).conseq
        (fun _ h => h) ?_
      rintro (e | u) w h <;> exact h
    · exact fun w ⟨hs, x, hx, hst, hno⟩ => ⟨hs, .inl ⟨_, rfl, rfl, x, hx, hst, hno⟩⟩

theorem serveCard_triple (hW : Within π Γ) :
    (carPayIn rt).Triple π (contract Γ) (.card j) (fun w => NewCard j request w.ledger)
      (ApproveCardPaymentService.serve j request) (fun _ _ => True) := by
  unfold ApproveCardPaymentService.serve
  simp only [Program.bind_eq]
  refine Triple.bind (M := fun r w => CardOutcome Γ j request r w.ledger)
    (.attempt (approveCardPayment_triple hW)) fun r => .perform (stable_cardOutcome r) ?_
  rintro w m r' w' ⟨⟨d, hd, rfl⟩, hr⟩ - - hout
  have hresponse : ∀ r₀, w.exec (.card j) (.cardHttp
      (.respond j (ApproveCardPaymentService.response r))) = some (r₀, w') →
      (contract Γ).guarantee (.card j) w w' := by
    intro r₀ h₀
    obtain ⟨xs, h₁, hb, hl⟩ := World.exec_cardHttp h₀
    obtain ⟨-, x, hx, hp, htable⟩ := respond_spec h₁
    cases hd.1.symm.trans hx
    rw [htable] at hl
    refine guarantee_of_step (.respondCard _ j d _ rfl hd ?_ ?_) hl hb
    all_goals
      rcases hr with ⟨result, rfl, hs, x, hrow, hxs, hxno⟩ | ⟨hno, hwhy⟩
    · rw [ApproveCardPaymentService.response, cardApproval_okResponse, if_pos hs]
      rintro approvalNo ⟨⟩
      exact ⟨x, hrow, hxs, hxno⟩
    · cases r with
      | ok result =>
          rw [ApproveCardPaymentService.response, cardApproval_okResponse, if_neg (hno result rfl)]
          simp
      | error e =>
          rw [ApproveCardPaymentService.response, cardApproval_errorResponse]
          simp
    · rw [ApproveCardPaymentService.response, cardApproval_okResponse, if_pos hs]
      simp
    · exact fun _ => hwhy
  rcases (carPayIn rt).outcome_cases hout with ⟨-, h⟩ | ⟨e, -, -, rfl⟩ | ⟨e, r₀, -, -, h⟩
  · exact ⟨hresponse _ h, trivial⟩
  · exact ⟨guarantee_refl _, trivial⟩
  · exact ⟨hresponse _ h, trivial⟩

end Card

/-! ## The PG -/

section Pg
variable {i : Nat} {request : ChargeRequest}

/-- The PG works on a request whose key has no row yet, and has asked nothing of the card service. -/
def NewPg (i : Nat) (request : ChargeRequest) (ℓ : Ledger) : Prop :=
  Serving i request ℓ ∧ ℓ.pgTransactions request.idempotencyKey = none ∧ ℓ.NoCardCall (.pg i)

/-- What the PG knows when it takes the card payment for failed. -/
def PgMayFail (Γ : Regime) (i : Nat) (request : ChargeRequest) (ℓ : Ledger) : Prop :=
  Serving i request ℓ ∧ (Γ.faults ∨ ℓ.CardFailure (.pg i) request.idempotencyKey)

def StoredPg (i : Nat) (request : ChargeRequest) (status : TransactionStatus)
    (approvalNo : Option String) (ℓ : Ledger) : Prop :=
  Serving i request ℓ ∧ HasPgRow request.idempotencyKey status approvalNo ℓ

def PgOutcome (Γ : Regime) (i : Nat) (request : ChargeRequest)
    (r : Except PyError ChargeBillingKeyResult) (ℓ : Ledger) : Prop :=
  (∃ txId approvalNo, r = .ok ⟨.success, txId, some approvalNo⟩ ∧
      StoredPg i request .success (some approvalNo) ℓ) ∨
    (∀ result, r = .ok result → result.status = .failed) ∧ PgMayFail Γ i request ℓ

theorem stable_newPg : (contract Γ).Stable (.pg i) fun w => NewPg i request w.ledger :=
  stable_of_ledger fun _ _ h ⟨hs, hn, hc⟩ =>
    ⟨h.serving hs, by rw [h.pgRow hs]; exact hn, h.noCardCall hc⟩

theorem stable_pgMayFail : (contract Γ).Stable (.pg i) fun w => PgMayFail Γ i request w.ledger :=
  stable_of_ledger fun _ _ h ⟨hs, hf⟩ => ⟨h.serving hs, hf.imp_right h.cardFailure⟩

theorem stable_storedPg (status : TransactionStatus) (approvalNo : Option String) :
    (contract Γ).Stable (.pg i) fun w => StoredPg i request status approvalNo w.ledger :=
  stable_of_ledger fun _ _ h ⟨hs, hr⟩ => ⟨h.serving hs, h.hasPgRow hs hr⟩

theorem stable_noCardCall (t : Tid) : (contract Γ).Stable t fun w => w.ledger.NoCardCall t :=
  stable_of_ledger fun _ _ h => h.noCardCall

theorem stable_pgOutcome (r : Except PyError ChargeBillingKeyResult) :
    (contract Γ).Stable (.pg i) fun w => PgOutcome Γ i request r w.ledger :=
  .or (.exists fun _ => .exists fun _ => .and (.const _) (stable_storedPg _ _))
    (.and (.const _) stable_pgMayFail)

theorem NewPg.mayFail {ℓ : Ledger} (h : NewPg i request ℓ) : PgMayFail Γ i request ℓ :=
  ⟨h.1, .inr (.inl h.2.2)⟩

theorem PgMayFail.outcome {ℓ : Ledger} (h : PgMayFail Γ i request ℓ)
    {r : Except PyError ChargeBillingKeyResult}
    (hr : ∀ result, r = .ok result → result.status = .failed) : PgOutcome Γ i request r ℓ :=
  .inr ⟨hr, h⟩

theorem newPg_lookup :
    (carPayIn rt).Triple π (contract Γ) (.pg i) (fun w => NewPg i request w.ledger)
      (call (.pg (.getByIdempotencyKey request.idempotencyKey)))
      (fun r w => NewPg i request w.ledger ∧ ∀ p, r = .ok p → p = none) := by
  refine .perform stable_newPg ?_
  rintro w m r w' h - - hout
  obtain ⟨hl, hk⟩ := quiet_outcome (.pg (.getByIdempotencyKey request.idempotencyKey)) trivial hout
  refine ⟨guarantee_of_quiet hl hk, by rw [hl]; exact h, ?_⟩
  rintro p rfl
  rcases (carPayIn rt).outcome_cases hout with ⟨-, h₀⟩ | ⟨e, -, h₀, -⟩ | ⟨e, -, -, h₀, -⟩
  · cases h₀
    exact h.2.1
  · cases h₀
  · cases h₀

theorem createPgTransaction_triple (txId : String) {status : TransactionStatus}
    (hstatus : status = .pending ∨ status = .failed) (failedReason : Option String) :
    (carPayIn rt).Triple π (contract Γ) (.pg i) (fun w => NewPg i request w.ledger)
      (ChargeBillingKeyService.createTransaction txId request status failedReason)
      (fun r w => match r with
        | .ok _ => StoredPg i request status none w.ledger ∧ w.ledger.NoCardCall (.pg i)
        | .error _ => PgMayFail Γ i request w.ledger) := by
  unfold ChargeBillingKeyService.createTransaction
  simp only [Program.bind_eq, Program.pure_eq, Program.throw_eq]
  refine Triple.bind (M := fun p w => NewPg i request w.ledger ∧ p = none) ?_ ?_
  · refine newPg_lookup.conseq (fun _ h => h) ?_
    rintro (e | p) w ⟨h, hp⟩
    · exact h.mayFail
    · exact ⟨h, hp p rfl⟩
  rintro (_ | p)
  case some => exact fun w h => by cases h.2
  refine Triple.conseq (P := fun w => NewPg i request w.ledger) ?_ (fun _ h => h.1)
    fun _ _ h => h
  refine .seq (quiet_call trivial stable_newPg (Robust.of_ledger _)) (fun _ _ h => h.mayFail) ?_
  rintro (_ | record)
  · exact .done fun _ h => h.mayFail
  refine .perform stable_newPg ?_
  rintro w m r w' h - hpol hout
  rcases write_outcome (x := fun w => w.insertPgTransaction ⟨txId, request.billingKey,
    record.cardToken, none, request.amount, request.currency, none, status, request.idempotencyKey,
    failedReason, .pg i⟩) (fun _ => rfl) hout with ⟨rfl, ⟨e, rfl⟩, -⟩ | ⟨hx, hr⟩
  · exact ⟨guarantee_refl _, h.mayFail⟩
  · obtain ⟨hb, hl, hnone⟩ := World.insertPgTransaction_spec hx
    obtain ⟨⟨c, hc, rfl⟩, -, hno⟩ := h
    refine ⟨guarantee_of_step (.insertPg _ i c _ rfl hc rfl hnone rfl rfl rfl hstatus hno) hl hb, ?_⟩
    have hs : Serving i c.request w'.ledger := by rw [hl]; exact ⟨c, hc, rfl⟩
    have hno' : w'.ledger.NoCardCall (.pg i) := by rw [hl]; exact hno
    rcases hr with ⟨-, rfl⟩ | ⟨e, rfl, rfl⟩
    · exact ⟨⟨hs, _, by rw [hl]; exact setPgTransaction_self .., rfl, rfl⟩, hno'⟩
    · exact ⟨hs, .inr (.inl hno')⟩

/-- A failure written over the row, or over no row, leaves the reason for it in force. -/
theorem updatePgTransactionStatus_failed (cardTxId reason : Option String) :
    (carPayIn rt).Triple π (contract Γ) (.pg i) (fun w => PgMayFail Γ i request w.ledger)
      (ChargeBillingKeyService.updateTransactionStatus request.idempotencyKey .failed none cardTxId
        reason) (fun _ w => PgMayFail Γ i request w.ledger) := by
  refine .perform stable_pgMayFail ?_
  rintro w m r w' h - - hout
  rcases write_outcome (x := fun w => w.updatePgTransactionStatus request.idempotencyKey .failed
    none cardTxId reason) (fun _ => rfl) hout with ⟨rfl, -, -⟩ | ⟨hx, -⟩
  · exact ⟨guarantee_refl _, h⟩
  · obtain ⟨hb, p, hp, hl⟩ := World.updatePgTransactionStatus_spec hx
    obtain ⟨⟨c, hc, rfl⟩, hwhy⟩ := h
    refine ⟨guarantee_of_step (.failPg _ i c p cardTxId reason rfl hc hp hwhy) hl hb, ?_⟩
    rw [hl]
    exact ⟨⟨c, hc, rfl⟩, hwhy⟩

/-- The card service's approval is recorded unless the commit is at fault. -/
theorem updatePgTransactionStatus_success (hW : Within π Γ) (cardTxId approvalNo : Option String) :
    (carPayIn rt).Triple π (contract Γ) (.pg i)
      (fun w => StoredPg i request .pending none w.ledger ∧ ∃ r,
        w.ledger.CardAnswer (.pg i) request.idempotencyKey r ∧ cardApproval r = some approvalNo)
      (ChargeBillingKeyService.updateTransactionStatus request.idempotencyKey .success approvalNo
        cardTxId none)
      (fun r w => match r with
        | .ok _ => StoredPg i request .success approvalNo w.ledger ∧ approvalNo.isSome
        | .error _ => PgMayFail Γ i request w.ledger) := by
  have hanswer : (contract Γ).Stable (.pg i) fun w => ∃ r,
      w.ledger.CardAnswer (.pg i) request.idempotencyKey r ∧ cardApproval r = some approvalNo :=
    .exists fun r => .and (stable_of_ledger fun _ _ h => h.grows.cardAnswer) (.const _)
  refine .perform ((stable_storedPg _ _).and hanswer) ?_
  rintro w m r w' ⟨⟨⟨c, hc, rfl⟩, p, hp, hst, -⟩, a, ha, happ⟩ hi hpol hout
  have hfaults : m ≠ .answered → Γ.faults := hW.faults_of_error (.pg (.updateStatus
    c.request.idempotencyKey .success approvalNo cardTxId none)) (fun _ h => of_decide_eq_true h) hpol
  rcases write_outcome (x := fun w => w.updatePgTransactionStatus c.request.idempotencyKey .success
    approvalNo cardTxId none) (fun _ => rfl) hout with ⟨rfl, ⟨e, rfl⟩, hans⟩ | ⟨hx, hr⟩
  · refine ⟨guarantee_refl _, ⟨c, hc, rfl⟩, .inl (hfaults ?_)⟩
    rintro rfl
    obtain ⟨e', he'⟩ := hans rfl
    simp [World.updatePgTransactionStatus, show w'.getPgTransaction _ = some p from hp] at he'
  · obtain ⟨hb, p₀, hp₀, hl⟩ := World.updatePgTransactionStatus_spec hx
    cases hp.symm.trans hp₀
    refine ⟨guarantee_of_step (.succeedPg _ i c p approvalNo cardTxId a rfl hc hp ha happ) hl hb, ?_⟩
    have hs : Serving i c.request w'.ledger := by rw [hl]; exact ⟨c, hc, rfl⟩
    rcases hr with ⟨-, rfl⟩ | ⟨e, rfl, rfl⟩
    · obtain ⟨j, d, hd, -, hk, hrec⟩ := ha
      obtain ⟨x, hxk, hxs, rfl⟩ := hi.approvedCard j d a approvalNo hd (hi.cardReceipt j d a hd hrec)
        happ
      exact ⟨⟨hs, _, by rw [hl]; exact setPgTransaction_self .., rfl, rfl⟩,
        hi.cardNumber _ x hxk hxs⟩
    · exact ⟨hs, .inl (hfaults (by simp))⟩

theorem sendCard_call (hW : Within π Γ) (cardToken : String) :
    (carPayIn rt).Triple π (contract Γ) (.pg i)
      (fun w => StoredPg i request .pending none w.ledger ∧ w.ledger.NoCardCall (.pg i))
      (call (.cardHttp (.send ⟨cardToken, request.amount, request.currency,
        request.idempotencyKey⟩)))
      (fun r w => match r with
        | .ok id => StoredPg i request .pending none w.ledger ∧
            AwaitsCard (.pg i) id request.idempotencyKey w.ledger
        | .error _ => PgMayFail Γ i request w.ledger) := by
  refine .perform ((stable_storedPg _ _).and (stable_noCardCall _)) ?_
  rintro w m r w' ⟨⟨⟨c, hc, rfl⟩, p, hp, hst, hno⟩, hcall⟩ - hpol hout
  have hsent : ∀ r₀, w.exec (.pg i) (.cardHttp (.send ⟨cardToken, c.request.amount,
      c.request.currency, c.request.idempotencyKey⟩)) = some (r₀, w') →
      (contract Γ).guarantee (.pg i) w w' ∧ ∃ id, r₀ = .ok id ∧
        StoredPg i c.request .pending none w'.ledger ∧
          AwaitsCard (.pg i) id c.request.idempotencyKey w'.ledger := by
    intro r₀ h₀
    obtain ⟨xs, h₁, hb, hl⟩ := World.exec_cardHttp h₀
    obtain ⟨rfl, hfree, htable⟩ := send_spec h₁
    rw [htable] at hl
    refine ⟨guarantee_of_step (.sendCard w.ledger _ i c p _ rfl hc hfree rfl rfl rfl hp hst hcall)
      hl hb, _, rfl, ?_⟩
    rw [hl]
    exact ⟨⟨⟨c, hc, rfl⟩, p, hp, hst, hno⟩, _, Function.update_self .., rfl, rfl, .inl rfl⟩
  rcases (carPayIn rt).outcome_cases hout with ⟨rfl, h⟩ | ⟨e, rfl, rfl, rfl⟩ | ⟨e, r₀, rfl, rfl, h⟩
  · obtain ⟨hg, id, rfl, hrest⟩ := hsent r h
    exact ⟨hg, hrest⟩
  · exact ⟨guarantee_refl _, ⟨c, hc, rfl⟩, .inr (.inl hcall)⟩
  · obtain ⟨hg, id, -, hstored, -⟩ := hsent r₀ h
    refine ⟨hg, hstored.1, .inl ?_⟩
    exact (hW.faults _ _ _ w hpol).resolve_left (by simp [tolerated])

theorem receiveCard_call (hW : Within π Γ) (id : Nat) :
    (carPayIn rt).Triple π (contract Γ) (.pg i)
      (fun w => StoredPg i request .pending none w.ledger ∧
        AwaitsCard (.pg i) id request.idempotencyKey w.ledger)
      (call (.cardHttp (.receive id)))
      (fun r w => match r with
        | .ok a => StoredPg i request .pending none w.ledger ∧
            w.ledger.CardAnswer (.pg i) request.idempotencyKey a
        | .error _ => PgMayFail Γ i request w.ledger) := by
  refine .perform ((stable_storedPg _ _).and (stable_of_ledger fun _ _ h => h.awaitsCard)) ?_
  rintro w m r w' ⟨hst, d, hd, hby, hk, hr⟩ - hpol hout
  have hfaults : m ≠ .answered → Γ.faults :=
    hW.faults_of_error (.cardHttp (.receive id)) (fun _ h => of_decide_eq_true h) hpol
  have hreceived : ∀ r₀, w.exec (.pg i) (.cardHttp (.receive id)) = some (r₀, w') →
      (contract Γ).guarantee (.pg i) w w' ∧ StoredPg i request .pending none w'.ledger ∧
        ((∃ a, r₀ = .ok a ∧ w'.ledger.CardAnswer (.pg i) request.idempotencyKey a) ∨
          (∃ e, r₀ = .error e) ∧ w'.ledger.CardAbandoned (.pg i)) := by
    intro r₀ h₀
    obtain ⟨xs, h₁, hb, hl⟩ := World.exec_cardHttp h₀
    obtain ⟨d₀, hd₀, ⟨hab, rfl, rfl⟩ | ⟨a, hw, ha, rfl, htable⟩⟩ := receive_spec h₁
    · rw [show w'.ledger = w.ledger from hl]
      exact ⟨guarantee_of_quiet hl (by rw [hb]; exact .refl _), hst, .inr ⟨⟨_, rfl⟩, id, d₀, hd₀,
        by cases hd.symm.trans hd₀; exact hby, hab⟩⟩
    · cases hd.symm.trans hd₀
      rw [htable] at hl
      refine ⟨guarantee_of_step (.receiveCard w.ledger id d a hd hby hw ha) hl hb, ?_⟩
      rw [hl]
      exact ⟨hst, .inl ⟨a, rfl, id, _, Function.update_self .., hby, hk, rfl⟩⟩
  rcases (carPayIn rt).outcome_cases hout with ⟨rfl, h⟩ | ⟨e, rfl, rfl, rfl⟩ | ⟨e, r₀, rfl, rfl, h⟩
  · obtain ⟨hg, hst', ⟨a, rfl, ha⟩ | ⟨⟨e, rfl⟩, hab⟩⟩ := hreceived r h
    · exact ⟨hg, hst', ha⟩
    · exact ⟨hg, hst'.1, .inr (.inr (.inl hab))⟩
  · exact ⟨guarantee_refl _, hst.1, .inl (hfaults (by simp))⟩
  · obtain ⟨hg, hst', -⟩ := hreceived r₀ h
    exact ⟨hg, hst'.1, .inl (hfaults (by simp))⟩

/-- The data the card client returns is what an accepted answer carries. -/
theorem approvePayment_triple (hW : Within π Γ) (cardToken : String) :
    (carPayIn rt).Triple π (contract Γ) (.pg i)
      (fun w => StoredPg i request .pending none w.ledger ∧ w.ledger.NoCardCall (.pg i))
      (HttpxMockCardClient.approvePayment ⟨cardToken, request.amount, request.currency,
        request.idempotencyKey⟩)
      (fun r w => match r with
        | .ok data => StoredPg i request .pending none w.ledger ∧ ∃ a,
            w.ledger.CardAnswer (.pg i) request.idempotencyKey a ∧ cardApproval a =
              if data.getD "status" "success" = some "success" then data.get? "approval_no"
              else none
        | .error _ => PgMayFail Γ i request w.ledger) := by
  have hfailed (a : HttpResponse) (w : World) (h : cardApproval a = none)
      (hw : StoredPg i request .pending none w.ledger ∧
        w.ledger.CardAnswer (.pg i) request.idempotencyKey a) : PgMayFail Γ i request w.ledger :=
    ⟨hw.1.1, .inr (.inr (.inr ⟨a, hw.2, h⟩))⟩
  unfold HttpxMockCardClient.approvePayment HttpxMockCardClient.post
  simp only [Program.bind_eq, Program.tryCatch_eq, Program.throw_eq]
  refine Triple.bind (M := fun a w => (StoredPg i request .pending none w.ledger ∧
    w.ledger.CardAnswer (.pg i) request.idempotencyKey a) ∧
      HttpxMockCardClient.raiseForStatus a = .ok a) ?_ ?_
  · refine Triple.tryCatch (M := fun _ w => PgMayFail Γ i request w.ledger) ?_
      fun e => .done fun _ h => h
    refine Triple.bind (M := fun a w => StoredPg i request .pending none w.ledger ∧
      w.ledger.CardAnswer (.pg i) request.idempotencyKey a) ?_ fun a => .done ?_
    · refine Triple.bind (M := fun id w => StoredPg i request .pending none w.ledger ∧
        AwaitsCard (.pg i) id request.idempotencyKey w.ledger) ?_ fun id => ?_
      · refine (sendCard_call hW cardToken).conseq (fun _ h => h) ?_
        rintro (e | id) w h <;> exact h
      · refine (receiveCard_call hW id).conseq (fun _ h => h) ?_
        rintro (e | a) w h <;> exact h
    · intro w hw
      have hraise : HttpxMockCardClient.raiseForStatus a = .ok a ∨
          ∃ e, HttpxMockCardClient.raiseForStatus a = .error e := by
        unfold HttpxMockCardClient.raiseForStatus
        split
        · exact .inl rfl
        · exact .inr ⟨_, rfl⟩
      rcases hraise with h | ⟨e, h⟩
      · rw [h]
        exact ⟨hw, h⟩
      · rw [h]
        exact hfailed a w (by simp [cardApproval, h]) hw
  · refine fun a => .done ?_
    rintro w ⟨hw, hraise⟩
    cases hj : a.json with
    | ok data => exact ⟨hw.1, a, hw.2, by simp [cardApproval, hraise, hj]⟩
    | error e => exact hfailed a w (by simp [cardApproval, hj]) hw

theorem approve_triple (hW : Within π Γ) (txId cardToken : String) :
    (carPayIn rt).Triple π (contract Γ) (.pg i)
      (fun w => StoredPg i request .pending none w.ledger ∧ w.ledger.NoCardCall (.pg i))
      (ChargeBillingKeyService.approve txId cardToken request)
      (fun r w => match r with
        | .ok result => PgOutcome Γ i request (.ok result) w.ledger
        | .error _ => PgMayFail Γ i request w.ledger) := by
  unfold ChargeBillingKeyService.approve
  simp only [Program.bind_eq, Program.pure_eq]
  refine Triple.bind (M := fun (data : Json) w => StoredPg i request .pending none w.ledger ∧ ∃ a,
    w.ledger.CardAnswer (.pg i) request.idempotencyKey a ∧ cardApproval a =
      if data.getD "status" "success" = some "success" then data.get? "approval_no" else none)
    ?_ fun data => ?_
  · refine (approvePayment_triple hW cardToken).conseq (fun _ h => h) ?_
    rintro (e | data) w h <;> exact h
  by_cases hst : data.getD "status" "success" = some "success"
  case neg =>
    have hfail : (carPayIn rt).Triple π (contract Γ) (.pg i)
        (fun w => PgMayFail Γ i request w.ledger)
        ((ChargeBillingKeyService.updateTransactionStatus request.idempotencyKey .failed none
          (data.get "tx_id") (some "card_payment_failed")).bind fun _ =>
            .done (.ok ⟨.failed, txId, none⟩))
        (fun r w => match r with
          | .ok result => PgOutcome Γ i request (.ok result) w.ledger
          | .error _ => PgMayFail Γ i request w.ledger) :=
      .seq (updatePgTransactionStatus_failed _ _) (fun _ _ h => h)
        fun _ => .done fun _ h => h.outcome (by simp)
    rw [if_pos hst]
    refine hfail.conseq ?_ fun _ _ h => h
    rintro w ⟨hs, a, ha, happ⟩
    exact ⟨hs.1, .inr (.inr (.inr ⟨a, ha, by rw [happ, if_neg hst]⟩))⟩
  case pos =>
    simp only [if_pos hst, if_neg (not_not.mpr hst)]
    refine Triple.bind (M := fun approvalNo w => StoredPg i request .pending none w.ledger ∧ ∃ a,
      w.ledger.CardAnswer (.pg i) request.idempotencyKey a ∧ cardApproval a = some approvalNo)
      (.done ?_) fun approvalNo => ?_
    · rintro w ⟨hs, a, ha, happ⟩
      unfold Json.index
      cases hno : data.get? "approval_no" with
      | some approvalNo => exact ⟨hs, a, ha, by rw [happ, hno]⟩
      | none => exact ⟨hs.1, .inr (.inr (.inr ⟨a, ha, by rw [happ, hno]⟩))⟩
    · refine Triple.bind (M := fun _ w => StoredPg i request .success approvalNo w.ledger ∧
        approvalNo.isSome) ?_ fun _ => .done ?_
      · refine (updatePgTransactionStatus_success hW (data.get "tx_id") approvalNo).conseq
          (fun _ h => h) ?_
        rintro (e | u) w h <;> exact h
      · rintro w ⟨hs, hsome⟩
        obtain ⟨number, rfl⟩ := Option.isSome_iff_exists.mp hsome
        exact .inl ⟨txId, number, rfl, hs⟩

theorem chargeBillingKeyService_triple (hW : Within π Γ) :
    (carPayIn rt).Triple π (contract Γ) (.pg i) (fun w => NewPg i request w.ledger)
      (ChargeBillingKeyService.execute request)
      (fun r w => PgOutcome Γ i request r w.ledger) := by
  have hdraw : (carPayIn rt).Triple π (contract Γ) (.pg i) (fun w => NewPg i request w.ledger)
      ChargeBillingKeyService.newTxId (fun _ w => NewPg i request w.ledger) :=
    .seq (quiet_call trivial stable_newPg (Robust.of_ledger _)) (fun _ _ h => h)
      fun _ => .done fun _ h => h
  have herror (e : PyError) (w : World) (h : NewPg i request w.ledger) :
      PgOutcome Γ i request (.error e) w.ledger := h.mayFail.outcome (by simp)
  have hcreate (txId : String) {status : TransactionStatus}
      (hstatus : status = .pending ∨ status = .failed) (reason : Option String)
      {f : Unit → Service ChargeBillingKeyResult}
      (hf : (carPayIn rt).Triple π (contract Γ) (.pg i)
        (fun w => StoredPg i request status none w.ledger ∧ w.ledger.NoCardCall (.pg i)) (f ())
        (fun r w => PgOutcome Γ i request r w.ledger)) :
      (carPayIn rt).Triple π (contract Γ) (.pg i) (fun w => NewPg i request w.ledger)
        ((ChargeBillingKeyService.createTransaction txId request status reason).bind f)
        (fun r w => PgOutcome Γ i request r w.ledger) := by
    refine Triple.bind (M := fun _ w => StoredPg i request status none w.ledger ∧
      w.ledger.NoCardCall (.pg i)) ?_ fun _ => hf
    refine (createPgTransaction_triple txId hstatus reason).conseq (fun _ h => h) ?_
    rintro (e | u) w h
    · exact PgMayFail.outcome h (by simp)
    · exact h
  unfold ChargeBillingKeyService.execute
  simp only [Program.bind_eq, Program.pure_eq, Program.tryCatch_eq]
  refine Triple.bind (M := fun p w => NewPg i request w.ledger ∧ p = none) ?_ ?_
  · refine newPg_lookup.conseq (fun _ h => h) ?_
    rintro (e | p) w ⟨h, hp⟩
    · exact herror e w h
    · exact ⟨h, hp p rfl⟩
  rintro (_ | p)
  case some => exact fun w h => by cases h.2
  refine Triple.conseq (P := fun w => NewPg i request w.ledger) ?_ (fun _ h => h.1)
    fun _ _ h => h
  refine .seq (quiet_call trivial stable_newPg (Robust.of_ledger _)) herror ?_
  rintro (_ | record)
  · exact .seq hdraw herror fun _ => .done fun _ h => h.mayFail.outcome (by simp)
  refine .seq hdraw herror fun txId => ?_
  split
  · refine hcreate txId (.inr rfl) _ (.done ?_)
    exact fun w ⟨hs, hno⟩ => PgMayFail.outcome ⟨hs.1, .inr (.inl hno)⟩ (by simp)
  · refine hcreate txId (.inl rfl) _ ?_
    refine Triple.tryCatch (M := fun _ w => PgMayFail Γ i request w.ledger) ?_ fun e => ?_
    · refine (approve_triple hW txId record.cardToken).conseq (fun _ h => h) ?_
      rintro (e | result) w h <;> exact h
    · exact .seq (updatePgTransactionStatus_failed _ _) (fun _ _ h => h.outcome (by simp))
        fun _ => .done fun _ h => h.outcome (by simp)

theorem servePg_triple (hW : Within π Γ) :
    (carPayIn rt).Triple π (contract Γ) (.pg i) (fun w => NewPg i request w.ledger)
      (ChargeBillingKeyService.serve i request) (fun _ _ => True) := by
  unfold ChargeBillingKeyService.serve
  simp only [Program.bind_eq]
  refine Triple.bind (M := fun r w => PgOutcome Γ i request r w.ledger)
    (.attempt (chargeBillingKeyService_triple hW)) fun r => .perform (stable_pgOutcome r) ?_
  rintro w m r' w' hr - - hout
  have hresponse : ∀ r₀, w.exec (.pg i) (.pgHttp
      (.respond i (ChargeBillingKeyService.response r))) = some (r₀, w') →
      (contract Γ).guarantee (.pg i) w w' := by
    intro r₀ h₀
    obtain ⟨xs, h₁, hb, hl⟩ := World.exec_pgHttp h₀
    obtain ⟨-, x, hx, hp, htable⟩ := respond_spec h₁
    rw [htable] at hl
    rcases hr with ⟨txId, number, rfl, ⟨c, hc, rfl⟩, p, hrow, hst, hno⟩ |
      ⟨hfailed, ⟨c, hc, rfl⟩, hwhy⟩
    all_goals
      cases hc.1.symm.trans hx
    · refine guarantee_of_step (.respondPg _ i _ _ rfl hc ?_ ?_) hl hb
      · intro pgTxId approvalNo happ
        rw [Approves, ChargeBillingKeyService.response, decode_success] at happ
        cases happ
        exact ⟨p, hrow, hst, hno⟩
      · exact fun hd => (hd _ _ (decode_success txId number)).elim
    · have hdeclines : Declines (ChargeBillingKeyService.response r) := by
        cases r with
        | ok result => exact declines_failed (hfailed result rfl)
        | error e => exact declines_errorResponse e
      refine guarantee_of_step (.respondPg _ i _ _ rfl hc ?_ fun _ => hwhy) hl hb
      exact fun pgTxId approvalNo happ => (hdeclines pgTxId approvalNo happ).elim
  rcases (carPayIn rt).outcome_cases hout with ⟨-, h⟩ | ⟨e, -, -, rfl⟩ | ⟨e, r₀, -, -, h⟩
  · exact ⟨hresponse _ h, trivial⟩
  · exact ⟨guarantee_refl _, trivial⟩
  · exact ⟨hresponse _ h, trivial⟩

end Pg

end CarPayIn
