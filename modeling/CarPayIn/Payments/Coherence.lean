import CarPayIn.Payments.Evolution

/-! # The ledgers agree with each other

Every row and every request has its cause: a charge request belongs to the
transaction of its caller, a PG row to a charge request, a card request to a PG
row, a card row to a card request, and every approval to the row that records
it. Executions charge at most once, so each key has at most one of each.
-/

namespace CarPayIn

open Process

namespace Ledger

variable {Γ : Regime} {t : Tid} {ℓ ℓ' : Ledger}

def PgStarted (ℓ : Ledger) (i : Nat) (c : PgCall) : Prop := ℓ.pgCalls i = some c ∧ c.Started

def CardStarted (ℓ : Ledger) (j : Nat) (d : CardCall) : Prop := ℓ.cardCalls j = some d ∧ d.Started

structure Coherent (ℓ : Ledger) : Prop where
  key : ∀ k row, ℓ.transactions k = some row → row.idempotencyKey = k
  inserter : ∀ k k' row row', ℓ.transactions k = some row → ℓ.transactions k' = some row' →
    row.insertedBy = row'.insertedBy → k = k'
  txId : ∀ k k' row row', ℓ.transactions k = some row → ℓ.transactions k' = some row' →
    row.txId = row'.txId → k = k'
  status : ∀ k row, ℓ.transactions k = some row → row.status ≠ .cancelled
  pgCall : ∀ id c, ℓ.pgCalls id = some c → ∃ row,
    ℓ.transactions c.request.idempotencyKey = some row ∧ row.insertedBy = c.caller ∧
      row.amount = c.request.amount ∧ row.currency = c.request.currency ∧ 0 < row.amount
  pgCaller : ∀ id id' c c', ℓ.pgCalls id = some c → ℓ.pgCalls id' = some c' →
    c.caller = c'.caller → id = id'
  pgReceipt : ∀ id c r, ℓ.pgCalls id = some c → c.receipt = .received r → c.progress = .answered r
  pgRow : ∀ k p, ℓ.pgTransactions k = some p → p.idempotencyKey = k ∧ p.status ≠ .cancelled ∧
    ∃ i c, p.insertedBy = .pg i ∧ ℓ.PgStarted i c ∧ c.request.idempotencyKey = k ∧
      p.amount = c.request.amount ∧ p.currency = c.request.currency
  cardCall : ∀ j d, ℓ.cardCalls j = some d → ∃ i c p, d.caller = .pg i ∧ ℓ.PgStarted i c ∧
    d.request.idempotencyKey = c.request.idempotencyKey ∧ d.request.amount = c.request.amount ∧
      d.request.currency = c.request.currency ∧
      ℓ.pgTransactions d.request.idempotencyKey = some p
  cardCaller : ∀ j j' d d', ℓ.cardCalls j = some d → ℓ.cardCalls j' = some d' →
    d.caller = d'.caller → j = j'
  cardReceipt : ∀ j d r, ℓ.cardCalls j = some d → d.receipt = .received r →
    d.progress = .answered r
  cardRow : ∀ k x, ℓ.cardTransactions k = some x → x.idempotencyKey = k ∧
    ∃ j d, x.insertedBy = .card j ∧ ℓ.CardStarted j d ∧ d.request.idempotencyKey = k ∧
      x.amount = d.request.amount ∧ x.currency = d.request.currency
  cardNumber : ∀ k x, ℓ.cardTransactions k = some x → x.status = .success → x.approvalNo.isSome
  approvedCard : ∀ j d r approvalNo, ℓ.cardCalls j = some d → d.progress = .answered r →
    cardApproval r = some approvalNo →
      ∃ x, ℓ.cardTransactions d.request.idempotencyKey = some x ∧ x.status = .success ∧
        x.approvalNo = approvalNo
  backed : ∀ k p, ℓ.pgTransactions k = some p → p.status = .success →
    ∃ r, ℓ.CardAnswer p.insertedBy k r ∧ cardApproval r = some p.approvalNo
  approvedPg : ∀ i c r pgTxId approvalNo, ℓ.pgCalls i = some c → c.progress = .answered r →
    Approves r pgTxId approvalNo → ∃ p, ℓ.pgTransactions c.request.idempotencyKey = some p ∧
      p.status = .success ∧ p.approvalNo = approvalNo
  paid : ∀ k row, ℓ.transactions k = some row → row.status = .success →
    row.amount = 0 ∨ ∃ r, ℓ.PgAnswer row.insertedBy k r ∧ Approves r row.pgTxId row.approvalNo

/-! ## Evidence persists -/

theorem Grows.pgAnswer (h : Grows ℓ ℓ') {k : String} {r : HttpResponse} :
    ℓ.PgAnswer t k r → ℓ'.PgAnswer t k r := by
  rintro ⟨id, c, hc, hby, hk, hr⟩
  obtain ⟨c', hc', hl⟩ := h.pgCalls id c hc
  exact ⟨id, c', hc', hl.caller.trans hby, by rw [hl.request]; exact hk,
    by rw [hl.receipt (by simp [hr])]; exact hr⟩

theorem Grows.cardAnswer (h : Grows ℓ ℓ') {k : String} {r : HttpResponse} :
    ℓ.CardAnswer t k r → ℓ'.CardAnswer t k r := by
  rintro ⟨id, d, hd, hby, hk, hr⟩
  obtain ⟨d', hd', hl⟩ := h.cardCalls id d hd
  exact ⟨id, d', hd', hl.caller.trans hby, by rw [hl.request]; exact hk,
    by rw [hl.receipt (by simp [hr])]; exact hr⟩

theorem Grows.pgStarted (h : Grows ℓ ℓ') {i : Nat} {c : PgCall} (hc : ℓ.PgStarted i c) :
    ∃ c', ℓ'.PgStarted i c' ∧ c'.request = c.request := by
  obtain ⟨c', hc', hl⟩ := h.pgCalls i c hc.1
  exact ⟨c', ⟨hc', hl.started hc.2⟩, hl.request⟩

theorem Grows.cardStarted (h : Grows ℓ ℓ') {j : Nat} {d : CardCall} (hd : ℓ.CardStarted j d) :
    ∃ d', ℓ'.CardStarted j d' ∧ d'.request = d.request := by
  obtain ⟨d', hd', hl⟩ := h.cardCalls j d hd.1
  exact ⟨d', ⟨hd', hl.started hd.2⟩, hl.request⟩

theorem Grows.cardRow (h : Grows ℓ ℓ') {k : String} {x : CardTx}
    (hx : ℓ.cardTransactions k = some x) : ℓ'.cardTransactions k = some x := by
  obtain ⟨x', hx', rfl⟩ := h.cardTransactions k x hx
  exact hx'

theorem Grows.charged (h : Grows ℓ ℓ') {k : String} : ℓ.Charged k → ℓ'.Charged k :=
  fun ⟨x, hx, hs⟩ => ⟨x, h.cardRow hx, hs⟩

/-! ## Origins -/

theorem Move.transactions (h : Move Γ ℓ ℓ') {k : String} {row : Transaction}
    (hk : ℓ'.transactions k = some row) : ∃ t, TransactionStep Γ t ℓ k row := by
  rcases h with ⟨t, h⟩ | h
  · exact ⟨t, h.transactions hk⟩
  · exact ⟨.pg 0, .same _ (by rwa [h.transactions] at hk)⟩

theorem Move.pgTransactions (h : Move Γ ℓ ℓ') {k : String} {p : PgTransaction}
    (hk : ℓ'.pgTransactions k = some p) : ∃ t, PgTransactionStep Γ t ℓ k p := by
  rcases h with ⟨t, h⟩ | h
  · exact ⟨t, h.pgTransactions hk⟩
  · exact ⟨.pg 0, .same _ (by rwa [h.pgTransactions] at hk)⟩

theorem Move.cardTransactions (h : Move Γ ℓ ℓ') {k : String} {x : CardTx}
    (hk : ℓ'.cardTransactions k = some x) : ∃ t, CardTransactionStep t ℓ k x := by
  rcases h with ⟨t, h⟩ | h
  · exact ⟨t, h.cardTransactions hk⟩
  · exact ⟨.pg 0, .same _ (by rwa [h.cardTransactions] at hk)⟩

/-- A transaction row is an earlier version of itself or has just been opened. -/
theorem TransactionStep.origin {k : String} {row' : Transaction}
    (h : TransactionStep Γ t ℓ k row') :
    (∃ row, ℓ.transactions k = some row ∧ row.Same row') ∨
      (ℓ.transactions k = none ∧ (∀ k r, ℓ.transactions k = some r → r.txId ≠ row'.txId) ∧
        ∀ k r, ℓ.transactions k = some r → r.insertedBy ≠ row'.insertedBy) := by
  cases h with
  | same row h => exact .inl ⟨_, h, .refl _⟩
  | opened row hkey hnone hid hby hstatus hfirst hcall =>
      exact .inr ⟨hnone, hid, by rw [hby]; exact hfirst⟩
  | succeeded row _ _ h => exact .inl ⟨_, h, .of_statusChange ..⟩
  | failed row _ h => exact .inl ⟨_, h, .of_statusChange ..⟩

/-- A charge request is an earlier version of itself or has just been sent. -/
theorem Move.pgCall_origin (h : Move Γ ℓ ℓ') {id : Nat} {c' : PgCall}
    (hc : ℓ'.pgCalls id = some c') :
    (∃ c, ℓ.pgCalls id = some c ∧ c.Later c') ∨
      (∃ row, ℓ.transactions c'.request.idempotencyKey = some row ∧ row.insertedBy = c'.caller ∧
        row.status = .pending ∧ row.amount = c'.request.amount ∧
        row.currency = c'.request.currency ∧ 0 < c'.request.amount) ∧ ℓ.NoPgCall c'.caller ∧
        c'.progress = .sent ∧ c'.receipt = .waiting ∧ Γ.mayCharge ℓ c'.request ∧
        ℓ.pgCalls id = none := by
  rcases h with ⟨t, h⟩ | h
  · cases h.pgCalls hc with
    | same _ h => exact .inl ⟨_, h, .refl _⟩
    | charged req row hnone hrow hby hstatus hamount hcurrency hpaid hcall hΓ =>
        exact .inr ⟨⟨row, hrow, hby, hstatus, hamount, hcurrency, hpaid⟩, hcall, rfl, rfl, hΓ, hnone⟩
    | received c r h hby hw => exact .inl ⟨_, h, .of_receipt hw _⟩
    | responded c r h => exact .inl ⟨_, h.1, .of_delivered h.2 r⟩
  · cases h.pgCalls hc with
    | same _ h => exact .inl ⟨_, h, .refl _⟩
    | moved c progress h hs => exact .inl ⟨_, h, .of_sent hs _⟩
    | gaveUp c h hw => exact .inl ⟨_, h, .of_receipt hw _⟩

theorem Move.cardCall_origin (h : Move Γ ℓ ℓ') {id : Nat} {d' : CardCall}
    (hd : ℓ'.cardCalls id = some d') :
    (∃ d, ℓ.cardCalls id = some d ∧ d.Later d') ∨
      (∃ i c p, d'.caller = .pg i ∧ ℓ.AtPg i c ∧
        d'.request.idempotencyKey = c.request.idempotencyKey ∧
        d'.request.amount = c.request.amount ∧ d'.request.currency = c.request.currency ∧
        ℓ.pgTransactions d'.request.idempotencyKey = some p ∧ p.status = .pending) ∧
        ℓ.NoCardCall d'.caller ∧ d'.progress = .sent ∧ d'.receipt = .waiting ∧
        ℓ.cardCalls id = none := by
  rcases h with ⟨t, h⟩ | h
  · cases h.cardCalls hd with
    | same _ h => exact .inl ⟨_, h, .refl _⟩
    | charged i c p req ht hc hnone hkey hamount hcurrency hp hstatus hcall =>
        exact .inr ⟨⟨i, c, p, ht, hc, hkey, hamount, hcurrency, hp, hstatus⟩, hcall, rfl, rfl, hnone⟩
    | received d r h hby hw => exact .inl ⟨_, h, .of_receipt hw _⟩
    | responded d r h => exact .inl ⟨_, h.1, .of_delivered h.2 r⟩
  · cases h.cardCalls hd with
    | same _ h => exact .inl ⟨_, h, .refl _⟩
    | moved d progress h hs => exact .inl ⟨_, h, .of_sent hs _⟩
    | gaveUp d h hw => exact .inl ⟨_, h, .of_receipt hw _⟩

/-! ## One request per key -/

/-- Each key has at most one charge request. -/
theorem Coherent.pgCall_unique (hℓ : Coherent ℓ) {i i' : Nat} {c c' : PgCall}
    (hc : ℓ.pgCalls i = some c) (hc' : ℓ.pgCalls i' = some c')
    (hk : c.request.idempotencyKey = c'.request.idempotencyKey) : i = i' ∧ c = c' := by
  obtain ⟨row, hrow, hby, -⟩ := hℓ.pgCall i c hc
  obtain ⟨row', hrow', hby', -⟩ := hℓ.pgCall i' c' hc'
  rw [hk, hrow'] at hrow
  cases hrow
  obtain rfl := hℓ.pgCaller i i' c c' hc hc' (by rw [← hby, ← hby'])
  rw [hc] at hc'
  exact ⟨rfl, Option.some.inj hc'⟩

/-- Each key has at most one card request. -/
theorem Coherent.cardCall_unique (hℓ : Coherent ℓ) {j j' : Nat} {d d' : CardCall}
    (hd : ℓ.cardCalls j = some d) (hd' : ℓ.cardCalls j' = some d')
    (hk : d.request.idempotencyKey = d'.request.idempotencyKey) : j = j' ∧ d = d' := by
  obtain ⟨i, c, -, hby, hc, hkc, -⟩ := hℓ.cardCall j d hd
  obtain ⟨i', c', -, hby', hc', hkc', -⟩ := hℓ.cardCall j' d' hd'
  obtain ⟨rfl, -⟩ := hℓ.pgCall_unique hc.1 hc'.1 (by rw [← hkc, ← hkc', hk])
  obtain rfl := hℓ.cardCaller j j' d d' hd hd' (by rw [hby, hby'])
  rw [hd] at hd'
  exact ⟨rfl, Option.some.inj hd'⟩

/-- The PG row of a key was inserted while answering the key's charge request. -/
theorem Coherent.pgRow_inserter (hℓ : Coherent ℓ) {i : Nat} {c : PgCall} {p : PgTransaction}
    (hc : ℓ.pgCalls i = some c) (hp : ℓ.pgTransactions c.request.idempotencyKey = some p) :
    p.insertedBy = .pg i := by
  obtain ⟨-, -, i', c', hby, hc', hk, -⟩ := hℓ.pgRow _ p hp
  obtain ⟨rfl, -⟩ := hℓ.pgCall_unique hc'.1 hc hk
  exact hby

/-- The card row of a key was inserted while answering the key's card request. -/
theorem Coherent.cardRow_inserter (hℓ : Coherent ℓ) {j : Nat} {d : CardCall} {x : CardTx}
    (hd : ℓ.cardCalls j = some d) (hx : ℓ.cardTransactions d.request.idempotencyKey = some x) :
    x.insertedBy = .card j := by
  obtain ⟨-, j', d', hby, hd', hk, -⟩ := hℓ.cardRow _ x hx
  obtain ⟨rfl, -⟩ := hℓ.cardCall_unique hd'.1 hd hk
  exact hby

/-! ## Every step keeps the ledgers coherent -/

section
variable (hℓ : Coherent ℓ) (h : Move Γ ℓ ℓ')
include hℓ h

private theorem keep_key {k : String} {row' : Transaction} (hk : ℓ'.transactions k = some row') :
    row'.idempotencyKey = k ∧ row'.status ≠ .cancelled := by
  obtain ⟨t, hs⟩ := h.transactions hk
  cases hs with
  | same _ h => exact ⟨hℓ.key k _ h, hℓ.status k _ h⟩
  | opened _ hkey _ _ _ hstatus => exact ⟨hkey, by simp [hstatus]⟩
  | succeeded row _ _ h => exact ⟨hℓ.key k row h, by simp [World.statusChange]⟩
  | failed row _ h => exact ⟨hℓ.key k row h, by simp [World.statusChange]⟩

private theorem keep_rows {k k' : String} {row row' : Transaction}
    (hk : ℓ'.transactions k = some row) (hk' : ℓ'.transactions k' = some row') :
    (row.insertedBy = row'.insertedBy → k = k') ∧ (row.txId = row'.txId → k = k') := by
  obtain ⟨t, hs⟩ := h.transactions hk
  obtain ⟨t', hs'⟩ := h.transactions hk'
  rcases hs.origin with ⟨r, hr, hsame⟩ | ⟨hnone, hid, hfirst⟩
  · rcases hs'.origin with ⟨r', hr', hsame'⟩ | ⟨hnone', hid', hfirst'⟩
    · rw [hsame.insertedBy, hsame'.insertedBy, hsame.txId, hsame'.txId]
      exact ⟨hℓ.inserter k k' r r' hr hr', hℓ.txId k k' r r' hr hr'⟩
    · rw [hsame.insertedBy, hsame.txId]
      exact ⟨fun he => (hfirst' k r hr he).elim, fun he => (hid' k r hr he).elim⟩
  · rcases hs'.origin with ⟨r', hr', hsame'⟩ | ⟨hnone', -, -⟩
    · rw [hsame'.insertedBy, hsame'.txId]
      exact ⟨fun he => (hfirst k' r' hr' he.symm).elim, fun he => (hid k' r' hr' he.symm).elim⟩
    · have := h.transactions_updates.new_unique hnone hk hnone' hk'
      exact ⟨fun _ => this, fun _ => this⟩

private theorem keep_pgCall {id : Nat} {c' : PgCall} (hc : ℓ'.pgCalls id = some c') : ∃ row,
    ℓ'.transactions c'.request.idempotencyKey = some row ∧ row.insertedBy = c'.caller ∧
      row.amount = c'.request.amount ∧ row.currency = c'.request.currency ∧ 0 < row.amount := by
  have hold : ∀ row, ℓ.transactions c'.request.idempotencyKey = some row →
      row.insertedBy = c'.caller → row.amount = c'.request.amount →
      row.currency = c'.request.currency → 0 < row.amount → ∃ row,
        ℓ'.transactions c'.request.idempotencyKey = some row ∧ row.insertedBy = c'.caller ∧
          row.amount = c'.request.amount ∧ row.currency = c'.request.currency ∧ 0 < row.amount := by
    intro row hrow hby hamount hcurrency hpos
    obtain ⟨row', hrow', hs⟩ := h.grows.transactions _ row hrow
    exact ⟨row', hrow', hs.insertedBy.trans hby, hs.amount.trans hamount,
      hs.currency.trans hcurrency, hs.amount ▸ hpos⟩
  rcases h.pgCall_origin hc with ⟨c, hc, hl⟩ | ⟨⟨row, hrow, hby, -, ha, hcur, hpos⟩, -⟩
  · obtain ⟨row, hrow, hby, ha, hcur, hpos⟩ := hℓ.pgCall id c hc
    exact hold row (by rw [hl.request]; exact hrow) (hby.trans hl.caller.symm)
      (by rw [hl.request]; exact ha) (by rw [hl.request]; exact hcur) hpos
  · exact hold row hrow hby ha hcur (ha ▸ hpos)

private theorem keep_pgCaller {id id' : Nat} {c c' : PgCall} (hc : ℓ'.pgCalls id = some c)
    (hc' : ℓ'.pgCalls id' = some c') (he : c.caller = c'.caller) : id = id' := by
  rcases h.pgCall_origin hc with ⟨b, hb, hl⟩ | ⟨-, hno, -, -, -, hnone⟩
  · rcases h.pgCall_origin hc' with ⟨b', hb', hl'⟩ | ⟨-, hno', -⟩
    · exact hℓ.pgCaller id id' b b' hb hb' (by rw [← hl.caller, ← hl'.caller, he])
    · exact (hno' id b hb (by rw [← hl.caller, he])).elim
  · rcases h.pgCall_origin hc' with ⟨b', hb', hl'⟩ | ⟨-, -, -, -, -, hnone'⟩
    · exact (hno id' b' hb' (by rw [← hl'.caller, he])).elim
    · exact h.pgCalls_updates.new_unique hnone hc hnone' hc'

private theorem keep_pgReceipt {id : Nat} {c' : PgCall} {r : HttpResponse}
    (hc : ℓ'.pgCalls id = some c') (hr : c'.receipt = .received r) :
    c'.progress = .answered r := by
  rcases h with ⟨t, h⟩ | h
  · cases h.pgCalls hc with
    | same _ h => exact hℓ.pgReceipt id _ r h hr
    | charged => simp at hr
    | received c r₀ h hby hw ha =>
        obtain rfl : r₀ = r := by simpa using hr
        exact ha
    | responded c r₀ h =>
        have := hℓ.pgReceipt id c r h.1 hr
        simp [h.2] at this
  · cases h.pgCalls hc with
    | same _ h => exact hℓ.pgReceipt id _ r h hr
    | moved c progress h hs =>
        have := hℓ.pgReceipt id c r h hr
        simp [hs] at this
    | gaveUp c h => simp at hr

private theorem keep_pgRow {k : String} {p' : PgTransaction}
    (hk : ℓ'.pgTransactions k = some p') : p'.idempotencyKey = k ∧ p'.status ≠ .cancelled ∧
    ∃ i c, p'.insertedBy = .pg i ∧ ℓ'.PgStarted i c ∧ c.request.idempotencyKey = k ∧
      p'.amount = c.request.amount ∧ p'.currency = c.request.currency := by
  have hold : ∀ p, ℓ.pgTransactions k = some p → p'.status ≠ .cancelled → p.Same p' →
      p'.idempotencyKey = k ∧ p'.status ≠ .cancelled ∧
      ∃ i c, p'.insertedBy = .pg i ∧ ℓ'.PgStarted i c ∧ c.request.idempotencyKey = k ∧
        p'.amount = c.request.amount ∧ p'.currency = c.request.currency := by
    intro p hp hstatus hs
    obtain ⟨hkey, -, i, c, hby, hc, hck, ha, hcur⟩ := hℓ.pgRow k p hp
    obtain ⟨c', hc', hreq⟩ := h.grows.pgStarted hc
    exact ⟨hs.idempotencyKey.trans hkey, hstatus, i, c', hs.insertedBy.trans hby, hc',
      by rw [hreq]; exact hck, by rw [hreq]; exact hs.amount.trans ha,
      by rw [hreq]; exact hs.currency.trans hcur⟩
  obtain ⟨t, hs⟩ := h.pgTransactions hk
  cases hs with
  | same _ hp => exact hold p' hp (hℓ.pgRow k p' hp).2.1 (.refl p')
  | inserted i c _ ht hc hkk hkey hnone hby hamount hcurrency hstatus =>
      obtain ⟨c', hc', hreq⟩ := h.grows.pgStarted ⟨hc.1, Exchange.started_of_delivered hc.2⟩
      refine ⟨hkk, ?_, i, c', hby.trans ht, hc', by rw [hreq]; exact hkey,
        by rw [hreq]; exact hamount, by rw [hreq]; exact hcurrency⟩
      rcases hstatus with hs | hs <;> simp [hs]
  | succeeded i c p _ _ _ _ _ _ hp =>
      exact hold p hp (by simp [World.pgStatusChange]) (.of_statusChange ..)
  | failed i c p _ _ _ _ _ hp =>
      exact hold p hp (by simp [World.pgStatusChange]) (.of_statusChange ..)

private theorem keep_cardCall {j : Nat} {d' : CardCall} (hd : ℓ'.cardCalls j = some d') :
    ∃ i c p, d'.caller = .pg i ∧ ℓ'.PgStarted i c ∧
      d'.request.idempotencyKey = c.request.idempotencyKey ∧
      d'.request.amount = c.request.amount ∧ d'.request.currency = c.request.currency ∧
      ℓ'.pgTransactions d'.request.idempotencyKey = some p := by
  have hold : ∀ i c p, d'.caller = .pg i → ℓ.PgStarted i c →
      d'.request.idempotencyKey = c.request.idempotencyKey →
      d'.request.amount = c.request.amount → d'.request.currency = c.request.currency →
      ℓ.pgTransactions d'.request.idempotencyKey = some p →
      ∃ i c p, d'.caller = .pg i ∧ ℓ'.PgStarted i c ∧
        d'.request.idempotencyKey = c.request.idempotencyKey ∧
        d'.request.amount = c.request.amount ∧ d'.request.currency = c.request.currency ∧
        ℓ'.pgTransactions d'.request.idempotencyKey = some p := by
    intro i c p hby hc hkey ha hcur hp
    obtain ⟨c', hc', hreq⟩ := h.grows.pgStarted hc
    obtain ⟨p', hp', -⟩ := h.grows.pgTransactions _ p hp
    exact ⟨i, c', p', hby, hc', by rw [hreq]; exact hkey, by rw [hreq]; exact ha,
      by rw [hreq]; exact hcur, hp'⟩
  rcases h.cardCall_origin hd with ⟨d, hd, hl⟩ | ⟨⟨i, c, p, hby, hc, hkey, ha, hcur, hp, -⟩, -⟩
  · obtain ⟨i, c, p, hby, hc, hkey, ha, hcur, hp⟩ := hℓ.cardCall j d hd
    rw [← hl.request] at hkey ha hcur hp
    exact hold i c p (hl.caller.trans hby) hc hkey ha hcur hp
  · exact hold i c p hby ⟨hc.1, Exchange.started_of_delivered hc.2⟩ hkey ha hcur hp

private theorem keep_cardCaller {j j' : Nat} {d d' : CardCall} (hd : ℓ'.cardCalls j = some d)
    (hd' : ℓ'.cardCalls j' = some d') (he : d.caller = d'.caller) : j = j' := by
  rcases h.cardCall_origin hd with ⟨b, hb, hl⟩ | ⟨-, hno, -, -, hnone⟩
  · rcases h.cardCall_origin hd' with ⟨b', hb', hl'⟩ | ⟨-, hno', -⟩
    · exact hℓ.cardCaller j j' b b' hb hb' (by rw [← hl.caller, ← hl'.caller, he])
    · exact (hno' j b hb (by rw [← hl.caller, he])).elim
  · rcases h.cardCall_origin hd' with ⟨b', hb', hl'⟩ | ⟨-, -, -, -, hnone'⟩
    · exact (hno j' b' hb' (by rw [← hl'.caller, he])).elim
    · exact h.cardCalls_updates.new_unique hnone hd hnone' hd'

private theorem keep_cardReceipt {j : Nat} {d' : CardCall} {r : HttpResponse}
    (hd : ℓ'.cardCalls j = some d') (hr : d'.receipt = .received r) :
    d'.progress = .answered r := by
  rcases h with ⟨t, h⟩ | h
  · cases h.cardCalls hd with
    | same _ h => exact hℓ.cardReceipt j _ r h hr
    | charged => simp at hr
    | received d r₀ h hby hw ha =>
        obtain rfl : r₀ = r := by simpa using hr
        exact ha
    | responded d r₀ h =>
        have := hℓ.cardReceipt j d r h.1 hr
        simp [h.2] at this
  · cases h.cardCalls hd with
    | same _ h => exact hℓ.cardReceipt j _ r h hr
    | moved d progress h hs =>
        have := hℓ.cardReceipt j d r h hr
        simp [hs] at this
    | gaveUp d h => simp at hr

private theorem keep_cardRow {k : String} {x : CardTx} (hk : ℓ'.cardTransactions k = some x) :
    x.idempotencyKey = k ∧ ∃ j d, x.insertedBy = .card j ∧ ℓ'.CardStarted j d ∧
      d.request.idempotencyKey = k ∧ x.amount = d.request.amount ∧
        x.currency = d.request.currency := by
  obtain ⟨t, hs⟩ := h.cardTransactions hk
  cases hs with
  | same _ hx =>
      obtain ⟨hkey, j, d, hby, hd, hdk, ha, hcur⟩ := hℓ.cardRow k x hx
      obtain ⟨d', hd', hreq⟩ := h.grows.cardStarted hd
      exact ⟨hkey, j, d', hby, hd', by rw [hreq]; exact hdk, by rw [hreq]; exact ha,
        by rw [hreq]; exact hcur⟩
  | inserted j d _ ht hd hkk hkey hnone hby hamount hcurrency =>
      obtain ⟨d', hd', hreq⟩ := h.grows.cardStarted ⟨hd.1, Exchange.started_of_delivered hd.2⟩
      exact ⟨hkk, j, d', hby.trans ht, hd', by rw [hreq]; exact hkey, by rw [hreq]; exact hamount,
        by rw [hreq]; exact hcurrency⟩

private theorem keep_cardNumber {k : String} {x : CardTx}
    (hk : ℓ'.cardTransactions k = some x) (hs : x.status = .success) : x.approvalNo.isSome := by
  obtain ⟨t, hstep⟩ := h.cardTransactions hk
  cases hstep with
  | same _ hx => exact hℓ.cardNumber k x hx hs
  | inserted _ _ _ _ _ _ _ _ _ _ _ happroval => exact happroval hs

private theorem keep_approvedCard {j : Nat} {d' : CardCall} {r : HttpResponse}
    {approvalNo : Option String} (hd : ℓ'.cardCalls j = some d') (hp : d'.progress = .answered r)
    (ha : cardApproval r = some approvalNo) :
    ∃ x, ℓ'.cardTransactions d'.request.idempotencyKey = some x ∧ x.status = .success ∧
      x.approvalNo = approvalNo := by
  have hold : ∀ d, ℓ.cardCalls j = some d → d.progress = .answered r →
      ∃ x, ℓ'.cardTransactions d.request.idempotencyKey = some x ∧ x.status = .success ∧
        x.approvalNo = approvalNo := by
    intro d hd hp
    obtain ⟨x, hx, hs, hno⟩ := hℓ.approvedCard j d r approvalNo hd hp ha
    exact ⟨x, h.grows.cardRow hx, hs, hno⟩
  rcases h with ⟨t, h₀⟩ | h₀
  · cases h₀.cardCalls hd with
    | same _ h => exact hold _ h hp
    | charged => simp at hp
    | received d r₀ h => exact hold d h hp
    | responded d r₀ h ht happroves =>
        obtain rfl : r₀ = r := by simpa using hp
        obtain ⟨x, hx, hs, hno⟩ := happroves approvalNo ha
        exact ⟨x, h₀.grows.cardRow hx, hs, hno⟩
  · cases h₀.cardCalls hd with
    | same _ h => exact hold _ h hp
    | moved d progress h hs hpr => rcases hpr with rfl | rfl <;> simp at hp
    | gaveUp d h => exact hold d h hp

private theorem keep_backed {k : String} {p' : PgTransaction}
    (hk : ℓ'.pgTransactions k = some p') (hstatus : p'.status = .success) :
    ∃ r, ℓ'.CardAnswer p'.insertedBy k r ∧ cardApproval r = some p'.approvalNo := by
  obtain ⟨t, hs⟩ := h.pgTransactions hk
  cases hs with
  | same _ hp =>
      obtain ⟨r, hr, ha⟩ := hℓ.backed k p' hp hstatus
      exact ⟨r, h.grows.cardAnswer hr, ha⟩
  | inserted i c _ ht hc hkk hkey hnone hby hamount hcurrency hst =>
      rcases hst with hst | hst <;> rw [hst] at hstatus <;> cases hstatus
  | succeeded i c p approvalNo cardTxId r ht hc hkey hp hr ha =>
      subst hkey
      have hby : p.insertedBy = t := by rw [hℓ.pgRow_inserter hc.1 hp, ht]
      refine ⟨r, h.grows.cardAnswer ?_, ha⟩
      rw [show (World.pgStatusChange .success approvalNo cardTxId none p).insertedBy = t from hby]
      exact hr
  | failed => simp [World.pgStatusChange] at hstatus

private theorem keep_approvedPg {i : Nat} {c' : PgCall} {r : HttpResponse}
    {pgTxId approvalNo : Option String} (hc' : ℓ'.pgCalls i = some c')
    (hp : c'.progress = .answered r) (ha : Approves r pgTxId approvalNo) :
    ∃ p, ℓ'.pgTransactions c'.request.idempotencyKey = some p ∧ p.status = .success ∧
      p.approvalNo = approvalNo := by
  -- an answered request is no longer being worked on, so its row has become final
  have hold : ∀ c, ℓ.pgCalls i = some c → c.progress = .answered r →
      ∃ p, ℓ'.pgTransactions c.request.idempotencyKey = some p ∧ p.status = .success ∧
        p.approvalNo = approvalNo := by
    intro c hc hp
    obtain ⟨p, hrow, hs, hno⟩ := hℓ.approvedPg i c r pgTxId approvalNo hc hp ha
    obtain ⟨p', hrow', -⟩ := h.grows.pgTransactions _ p hrow
    refine ⟨p', hrow', ?_⟩
    obtain ⟨t, hstep⟩ := h.pgTransactions hrow'
    cases hstep with
    | same _ h => rw [hrow] at h; cases h; exact ⟨hs, hno⟩
    | inserted _ _ _ _ _ _ _ hnone => simp [hrow] at hnone
    | succeeded i₀ c₀ _ _ _ _ _ hc₀ hkey =>
        obtain ⟨-, rfl⟩ := hℓ.pgCall_unique hc₀.1 hc hkey
        simp [hc₀.2] at hp
    | failed i₀ c₀ _ _ _ _ hc₀ hkey =>
        obtain ⟨-, rfl⟩ := hℓ.pgCall_unique hc₀.1 hc hkey
        simp [hc₀.2] at hp
  rcases h with ⟨t, h₀⟩ | h₀
  · cases h₀.pgCalls hc' with
    | same _ h => exact hold _ h hp
    | charged => simp at hp
    | received c r₀ h => exact hold c h hp
    | responded c r₀ h ht happroves =>
        obtain rfl : r₀ = r := by simpa using hp
        have hne : ℓ'.pgCalls i ≠ ℓ.pgCalls i := by
          rw [hc', h.1]
          intro he
          have := congrArg (Option.map Exchange.progress) he
          simp [h.2] at this
        rw [(Move.only_pgCalls (.inl ⟨t, h₀⟩) hne).2.1]
        exact happroves pgTxId approvalNo ha
  · cases h₀.pgCalls hc' with
    | same _ h => exact hold _ h hp
    | moved c progress h hs hpr => rcases hpr with rfl | rfl <;> simp at hp
    | gaveUp c h => exact hold c h hp

private theorem keep_paid {k : String} {row' : Transaction}
    (hk : ℓ'.transactions k = some row') (hstatus : row'.status = .success) :
    row'.amount = 0 ∨
      ∃ r, ℓ'.PgAnswer row'.insertedBy k r ∧ Approves r row'.pgTxId row'.approvalNo := by
  obtain ⟨t, hs⟩ := h.transactions hk
  cases hs with
  | same _ hrow =>
      exact (hℓ.paid k row' hrow hstatus).imp_right fun ⟨r, hr, ha⟩ => ⟨r, h.grows.pgAnswer hr, ha⟩
  | opened _ _ _ _ _ hst => rw [hst] at hstatus; cases hstatus
  | succeeded row pgTxId approvalNo hrow hby hst hwhy =>
      refine hwhy.imp_right fun ⟨r, hr, ha⟩ => ⟨r, h.grows.pgAnswer ?_, ha⟩
      rw [show (World.statusChange .success pgTxId approvalNo none row).insertedBy = t from hby]
      exact hr
  | failed => simp [World.statusChange] at hstatus

/-- Every step of an execution or of the network keeps the ledgers coherent. -/
theorem Coherent.move : Coherent ℓ' where
  key _ _ hk := (keep_key hℓ h hk).1
  status _ _ hk := (keep_key hℓ h hk).2
  inserter _ _ _ _ hk hk' := (keep_rows hℓ h hk hk').1
  txId _ _ _ _ hk hk' := (keep_rows hℓ h hk hk').2
  pgCall _ _ hc := keep_pgCall hℓ h hc
  pgCaller _ _ _ _ hc hc' := keep_pgCaller hℓ h hc hc'
  pgReceipt _ _ _ hc hr := keep_pgReceipt hℓ h hc hr
  pgRow _ _ hk := keep_pgRow hℓ h hk
  cardCall _ _ hd := keep_cardCall hℓ h hd
  cardCaller _ _ _ _ hd hd' := keep_cardCaller hℓ h hd hd'
  cardReceipt _ _ _ hd hr := keep_cardReceipt hℓ h hd hr
  cardRow _ _ hk := keep_cardRow hℓ h hk
  cardNumber _ _ hk hs := keep_cardNumber hℓ h hk hs
  approvedCard _ _ _ _ hd hp ha := keep_approvedCard hℓ h hd hp ha
  backed _ _ hk hs := keep_backed hℓ h hk hs
  approvedPg _ _ _ _ _ hc hp ha := keep_approvedPg hℓ h hc hp ha
  paid _ _ hk hs := keep_paid hℓ h hk hs

end

theorem Coherent.of_empty (htx : ∀ k, ℓ.transactions k = none) (hpc : ∀ i, ℓ.pgCalls i = none)
    (hpt : ∀ k, ℓ.pgTransactions k = none) (hcc : ∀ j, ℓ.cardCalls j = none)
    (hct : ∀ k, ℓ.cardTransactions k = none) : Coherent ℓ := by
  constructor <;> simp [htx, hpc, hpt, hcc, hct]

end Ledger

end CarPayIn
