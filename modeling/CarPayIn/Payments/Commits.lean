import CarPayIn.Payments.Contract

/-! # Commits and messages as changes of the ledgers

One specification for every call that touches the ledgers: what the ledgers
are after it, and what the call has checked before.
-/

namespace CarPayIn

open Process Store Ledger

namespace World

variable {w w' : World}

/-! ## Backend transactions -/

theorem insertTransaction_spec {row : Transaction} (h : w.insertTransaction row = .ok w') :
    w'.base = w.base ∧ w'.ledger = w.ledger.setTransaction row.idempotencyKey row ∧
      w.ledger.transactions row.idempotencyKey = none ∧
      (∀ k r, w.ledger.transactions k = some r → r.txId ≠ row.txId) ∧ 0 ≤ row.amount := by
  unfold insertTransaction at h
  split_ifs at h with h₁ h₂ h₃ h₄ h₅
  cases h
  have htable : (fun k => get? Transaction.idempotencyKey k (row :: w.transactions)) =
      Function.update w.ledger.transactions row.idempotencyKey (some row) := table_cons
  refine ⟨rfl, ?_, by simpa [ledger] using h₅, ?_, by omega⟩
  · simp only [Ledger.setTransaction, ← htable]
    rfl
  · intro k r hr he
    exact h₄ (by simpa using ⟨r, mem_of_get? hr, he⟩)

theorem setTransaction_ledger {key : String} {row : Transaction} {f : Transaction → Transaction}
    (hf : ∀ r, (f r).idempotencyKey = r.idempotencyKey) (h : w.getTransaction key = some row) :
    (w.setTransaction key f).ledger = w.ledger.setTransaction key (f row) := by
  have htable : (fun k => get? Transaction.idempotencyKey k
      (modify Transaction.idempotencyKey key f w.transactions)) =
      Function.update w.ledger.transactions key (some (f row)) := table_modify hf h
  simp only [Ledger.setTransaction, ← htable]
  rfl

theorem updateTransactionStatus_spec {key : String} {status : TransactionStatus}
    {pgTxId approvalNo reason : Option String}
    (h : w.updateTransactionStatus key status pgTxId approvalNo reason = .ok w') :
    w'.base = w.base ∧ ∃ row, w.ledger.transactions key = some row ∧ w'.ledger =
      w.ledger.setTransaction key (statusChange status pgTxId approvalNo reason row) := by
  unfold updateTransactionStatus at h
  split at h
  · cases h
  · rename_i row hrow
    cases h
    exact ⟨rfl, row, hrow, setTransaction_ledger (fun _ => rfl) hrow⟩

theorem markSuccessAndEnqueue_spec {key : String} {pgTxId approvalNo : Option String}
    {destination : String} {payload : PaymentNotification}
    (h : w.markSuccessAndEnqueue key pgTxId approvalNo destination payload = .ok w') :
    w'.base = w.base ∧ ∃ row note, w.ledger.transactions key = some row ∧
      (note.txId = row.txId ∧ note.eventType = "payment.completed") ∧ w'.ledger = (w.ledger.setTransaction key
        (statusChange .success pgTxId approvalNo none row)).enqueue note := by
  unfold markSuccessAndEnqueue at h
  split at h
  · cases h
  · rename_i row hrow
    have hset := @setTransaction_ledger w key row (statusChange .success pgTxId approvalNo none)
      (fun _ => rfl) hrow
    let note : PaymentNotificationOutbox := ⟨row.txId, row.sessionId, row.carId,
      "payment.completed", "iot", destination, payload, .pending⟩
    simp only at h
    split at h
    · rename_i n hn
      cases h
      refine ⟨rfl, row, note, hrow, ⟨rfl, rfl⟩, ?_⟩
      rw [← hset, enqueue, show (w.setTransaction key
        (statusChange .success pgTxId approvalNo none)).ledger.outbox note.txId = some n from hn]
    · rename_i hn
      cases h
      refine ⟨rfl, row, note, hrow, ⟨rfl, rfl⟩, ?_⟩
      have htable : (fun id => get? PaymentNotificationOutbox.txId id (note :: w.outbox)) =
          Function.update w.ledger.outbox note.txId (some note) := table_cons
      rw [← hset, enqueue, show (w.setTransaction key
        (statusChange .success pgTxId approvalNo none)).ledger.outbox note.txId = none from hn]
      exact congrArg (fun o => { (w.setTransaction key
        (statusChange .success pgTxId approvalNo none)).ledger with outbox := o }) htable

/-! ## PG and card transactions -/

theorem insertPgTransaction_spec {p : PgTransaction} (h : w.insertPgTransaction p = .ok w') :
    w'.base = w.base ∧ w'.ledger = w.ledger.setPgTransaction p.idempotencyKey p ∧
      w.ledger.pgTransactions p.idempotencyKey = none := by
  unfold insertPgTransaction at h
  split_ifs at h with h₁ h₂ h₃ h₄
  cases h
  have htable : (fun k => get? PgTransaction.idempotencyKey k (p :: w.pgTransactions)) =
      Function.update w.ledger.pgTransactions p.idempotencyKey (some p) := table_cons
  refine ⟨rfl, ?_, by simpa [ledger] using h₄⟩
  simp only [setPgTransaction, ← htable]
  rfl

theorem updatePgTransactionStatus_spec {key : String} {status : TransactionStatus}
    {approvalNo cardTxId reason : Option String}
    (h : w.updatePgTransactionStatus key status approvalNo cardTxId reason = .ok w') :
    w'.base = w.base ∧ ∃ p, w.ledger.pgTransactions key = some p ∧ w'.ledger =
      w.ledger.setPgTransaction key (pgStatusChange status approvalNo cardTxId reason p) := by
  unfold updatePgTransactionStatus at h
  split at h
  · cases h
  · rename_i p hp
    cases h
    refine ⟨rfl, p, hp, ?_⟩
    have htable : (fun k => get? PgTransaction.idempotencyKey k
        (modify PgTransaction.idempotencyKey key
          (pgStatusChange status approvalNo cardTxId reason) w.pgTransactions)) =
        Function.update w.ledger.pgTransactions key
          (some (pgStatusChange status approvalNo cardTxId reason p)) :=
      table_modify (fun _ => rfl) hp
    simp only [setPgTransaction, ← htable]
    rfl

theorem insertCardTx_spec {x : CardTx} (h : w.insertCardTx x = .ok w') :
    w'.base = w.base ∧ w'.ledger = w.ledger.setCardTransaction x.idempotencyKey x ∧
      w.ledger.cardTransactions x.idempotencyKey = none := by
  unfold insertCardTx at h
  split_ifs at h with h₁ h₂ h₃ h₄ h₅
  cases h
  have htable : (fun k => get? CardTx.idempotencyKey k (x :: w.cardTransactions)) =
      Function.update w.ledger.cardTransactions x.idempotencyKey (some x) := table_cons
  refine ⟨rfl, ?_, by simpa [ledger] using h₅⟩
  simp only [setCardTransaction, ← htable]
  rfl

end World

/-! ## Messages -/

section
variable {Tid' Req Resp ε : Type} {xs xs' : List (Exchange Tid' Req Resp)} {t : Tid'} {timeout : ε}

theorem send_spec {req : Req} {r : Except ε Nat}
    (h : Exchange.exec t timeout (.send req) xs = some (r, xs')) :
    r = .ok xs.length ∧ Exchange.table xs xs.length = none ∧
      Exchange.table xs' = Function.update (Exchange.table xs) xs.length
        (some ⟨t, req, .sent, .waiting⟩) := by
  cases h
  exact ⟨rfl, Exchange.table_length xs, Exchange.table_append xs _⟩

theorem receive_spec {id : Nat} {r : Except ε Resp}
    (h : Exchange.exec t timeout (.receive id) xs = some (r, xs')) :
    ∃ x, Exchange.table xs id = some x ∧
      (x.receipt = .abandoned ∧ r = .error timeout ∧ xs' = xs ∨
        ∃ a, x.receipt = .waiting ∧ x.progress = .answered a ∧ r = .ok a ∧
          Exchange.table xs' =
            Function.update (Exchange.table xs) id (some { x with receipt := .received a })) := by
  simp only [Exchange.exec] at h
  split at h
  · cases h
  · rename_i x hx
    refine ⟨x, hx, ?_⟩
    split at h
    · rename_i hab
      cases h
      exact .inl ⟨hab, rfl, rfl⟩
    · rename_i a hw ha
      cases h
      exact .inr ⟨a, hw, ha, rfl, Exchange.table_modify _ hx⟩
    · cases h

theorem respond_spec {id : Nat} {resp : Resp} {r : Except ε Unit}
    (h : Exchange.exec t timeout (.respond id resp) xs = some (r, xs')) :
    r = .ok () ∧ ∃ x, Exchange.table xs id = some x ∧ x.progress = .delivered ∧
      Exchange.table xs' =
        Function.update (Exchange.table xs) id (some { x with progress := .answered resp }) := by
  simp only [Exchange.exec] at h
  split at h
  · cases h
  · rename_i x hx
    split at h
    · rename_i hd
      cases h
      exact ⟨rfl, x, hx, hd, Exchange.table_modify _ hx⟩
    · cases h

theorem deliver_spec {id : Nat} {req : Req} (h : Exchange.deliver id xs = some (req, xs')) :
    ∃ x, Exchange.table xs id = some x ∧ x.progress = .sent ∧ req = x.request ∧
      Exchange.table xs' =
        Function.update (Exchange.table xs) id (some { x with progress := .delivered }) := by
  simp only [Exchange.deliver] at h
  split at h
  · cases h
  · rename_i x hx
    split at h
    · rename_i hs
      cases h
      exact ⟨x, hx, hs, rfl, Exchange.table_modify _ hx⟩
    · cases h

theorem drop_spec {id : Nat} (h : Exchange.drop id xs = some xs') :
    ∃ x, Exchange.table xs id = some x ∧ x.progress = .sent ∧ Exchange.table xs' =
      Function.update (Exchange.table xs) id (some { x with progress := .dropped }) := by
  simp only [Exchange.drop] at h
  split at h
  · cases h
  · rename_i x hx
    split at h
    · rename_i hs
      cases h
      exact ⟨x, hx, hs, Exchange.table_modify _ hx⟩
    · cases h

theorem giveUp_spec {id : Nat} (h : Exchange.giveUp id xs = some xs') :
    ∃ x, Exchange.table xs id = some x ∧ x.receipt = .waiting ∧ Exchange.table xs' =
      Function.update (Exchange.table xs) id (some { x with receipt := .abandoned }) := by
  simp only [Exchange.giveUp] at h
  split at h
  · cases h
  · rename_i x hx
    split at h
    · rename_i hw
      cases h
      exact ⟨x, hx, hw, Exchange.table_modify _ hx⟩
    · cases h

end

namespace World

variable {w w' : World} {t : Tid} {β : Type} {r : Except PyError β}

theorem exec_pgHttp {op : HttpOp ChargeRequest HttpResponse β}
    (h : w.exec t (.pgHttp op) = some (r, w')) :
    ∃ xs, Exchange.exec t timedOut op w.pgCalls = some (r, xs) ∧ w'.base = w.base ∧
      w'.ledger = { w.ledger with pgCalls := Exchange.table xs } := by
  simp only [exec, Option.map_eq_some_iff] at h
  obtain ⟨⟨r₀, xs⟩, he, h⟩ := h
  cases h
  exact ⟨xs, he, rfl, rfl⟩

theorem exec_cardHttp {op : HttpOp CardChargeRequest HttpResponse β}
    (h : w.exec t (.cardHttp op) = some (r, w')) :
    ∃ xs, Exchange.exec t timedOut op w.cardCalls = some (r, xs) ∧ w'.base = w.base ∧
      w'.ledger = { w.ledger with cardCalls := Exchange.table xs } := by
  simp only [exec, Option.map_eq_some_iff] at h
  obtain ⟨⟨r₀, xs⟩, he, h⟩ := h
  cases h
  exact ⟨xs, he, rfl, rfl⟩

end World

end CarPayIn
