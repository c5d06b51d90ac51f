import CarPayIn.Payments.System

/-! # The unique columns of the transaction tables

Each insertion checks the idempotency key and no update changes it, so in every
reachable state a row of one of the three tables is the one its key finds.
-/

namespace CarPayIn

open Process Store

namespace World

/-- No table holds two rows with the same idempotency key. -/
structure KeysUnique (w : World) : Prop where
  transactions : UniqueBy Transaction.idempotencyKey w.transactions
  pgTransactions : UniqueBy PgTransaction.idempotencyKey w.pgTransactions
  cardTransactions : UniqueBy CardTx.idempotencyKey w.cardTransactions

variable {w w' : World}

theorem KeysUnique.write {x : Except PyError World} (h : w.KeysUnique)
    (hx : ∀ w', x = .ok w' → w'.KeysUnique) : (w.write x).2.KeysUnique := by
  cases x with
  | ok w' => exact hx w' rfl
  | error e => exact h

theorem KeysUnique.setTransaction (h : w.KeysUnique) (key : String) {f : Transaction → Transaction}
    (hf : ∀ r, (f r).idempotencyKey = r.idempotencyKey) : (w.setTransaction key f).KeysUnique :=
  { h with transactions := h.transactions.modify hf }

theorem KeysUnique.execTransactions (h : w.KeysUnique) (t : Tid) {β : Type} (op : TransactionOp β) :
    (w.execTransactions t op).2.KeysUnique := by
  cases op with
  | insert row =>
      refine h.write fun w' hx => ?_
      unfold insertTransaction at hx
      split_ifs at hx with _ _ _ _ hnew
      cases hx
      exact { h with transactions := h.transactions.cons (by simpa [getTransaction] using hnew) }
  | getByIdempotencyKey key => exact h
  | updateStatus key status pgTxId approvalNo failedReason =>
      refine h.write fun w' hx => ?_
      unfold updateTransactionStatus at hx
      split at hx
      · cases hx
      · cases hx
        exact h.setTransaction key fun _ => rfl
  | markSuccessAndEnqueue key pgTxId approvalNo destination payload =>
      refine h.write fun w' hx => ?_
      have hset := h.setTransaction key (f := statusChange .success pgTxId approvalNo none)
        fun _ => rfl
      unfold markSuccessAndEnqueue at hx
      split at hx
      · cases hx
      · simp only at hx
        split at hx
        · cases hx
          exact hset
        · cases hx
          exact { hset with }

theorem KeysUnique.execPg (h : w.KeysUnique) (t : Tid) {β : Type} (op : PgOp β) :
    (w.execPg t op).2.KeysUnique := by
  cases op with
  | insert row =>
      refine h.write fun w' hx => ?_
      unfold insertPgTransaction at hx
      split_ifs at hx with _ _ _ hnew
      cases hx
      exact { h with
        pgTransactions := h.pgTransactions.cons (by simpa [getPgTransaction] using hnew) }
  | updateStatus key status approvalNo cardTxId failedReason =>
      refine h.write fun w' hx => ?_
      unfold updatePgTransactionStatus at hx
      split at hx
      · cases hx
      · cases hx
        exact { h with pgTransactions := h.pgTransactions.modify fun _ => rfl }
  | draw => exact { h with }
  | getBillingKey billingKey => exact h
  | getByIdempotencyKey key => exact h

theorem KeysUnique.execCard (h : w.KeysUnique) (t : Tid) {β : Type} (op : CardOp β) :
    (w.execCard t op).2.KeysUnique := by
  cases op with
  | insert row =>
      refine h.write fun w' hx => ?_
      unfold insertCardTx at hx
      split_ifs at hx with _ _ _ _ hnew
      cases hx
      exact { h with cardTransactions := h.cardTransactions.cons (by simpa [getCardTx] using hnew) }
  | draw => exact { h with }
  | getCardToken cardToken => exact h
  | getByIdempotencyKey key => exact h

theorem KeysUnique.exec (h : w.KeysUnique) {t : Tid} {β : Type} {op : Op β} {r : Except PyError β}
    (he : w.exec t op = some (r, w')) : w'.KeysUnique := by
  cases op with
  | transactions op =>
      rw [← show (w.execTransactions t op).2 = w' from congrArg Prod.snd (Option.some.inj he)]
      exact h.execTransactions t op
  | pg op =>
      rw [← show (w.execPg t op).2 = w' from congrArg Prod.snd (Option.some.inj he)]
      exact h.execPg t op
  | card op =>
      rw [← show (w.execCard t op).2 = w' from congrArg Prod.snd (Option.some.inj he)]
      exact h.execCard t op
  | pgHttp op =>
      obtain ⟨_, _, he⟩ := Option.map_eq_some_iff.mp he
      cases he
      exact { h with }
  | cardHttp op =>
      obtain ⟨_, _, he⟩ := Option.map_eq_some_iff.mp he
      cases he
      exact { h with }
  | base op => cases he; exact { h with }
  | retries op => cases he; exact { h with }
  | scanRetries => cases he; exact h
  | notifyPaymentComplete payload => cases he; exact { h with }

theorem KeysUnique.environment (h : w.KeysUnique) {x : Env} (he : w.environment x = some w') :
    w'.KeysUnique := by
  cases x with
  | dropPg id | dropCard id | giveUpPg id | giveUpCard id =>
      obtain ⟨_, _, rfl⟩ := Option.map_eq_some_iff.mp he
      exact { h with }
  | _ => cases he; exact { h with }

end World

/-- Every reachable state finds each transaction under its idempotency key. -/
theorem keysUnique_of_reachable {rt : Runtime} {π : Policy Op PyError World Tid Start Env}
    {c : Config Op PyError Reply World Tid} (hc : (carPayIn rt).Reachable π World.Unpaid c) :
    c.state.KeysUnique := by
  refine System.Reachable.keeps (carPayIn rt) ?_ ?_ ?_ ?_ hc
  · rintro w ⟨h₁, -, -, h₂, -, h₃⟩
    exact ⟨by simp [UniqueBy, h₁], by simp [UniqueBy, h₂], by simp [UniqueBy, h₃]⟩
  · exact fun t β op w r w' he h => h.exec he
  · rintro (⟨n, request⟩ | id | id) w t p w' hb h
    · cases hb
      exact h
    · obtain ⟨_, _, hb⟩ := Option.map_eq_some_iff.mp hb
      cases hb
      exact { h with }
    · obtain ⟨_, _, hb⟩ := Option.map_eq_some_iff.mp hb
      cases hb
      exact { h with }
  · exact fun x w w' he h => h.environment he

end CarPayIn
