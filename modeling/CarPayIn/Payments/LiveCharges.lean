import CarPayIn.Payments.Backing

/-! # Charges under way

A key is live while its charge may still be carried out or has been. Keys
become live only by the requests that are sent for them, and a key that was
asked for once and is no longer live never becomes live again.
-/

namespace CarPayIn

open Process Process.System Store Ledger

/-! ## Live keys -/

namespace Ledger

variable {Γ : Regime} {ℓ ℓ' : Ledger} {k : String}

/-- The card service may still approve the key, or already has. -/
def CardLive (ℓ : Ledger) (k : String) : Prop :=
  ℓ.Charged k ∨ ∃ j d, ℓ.cardCalls j = some d ∧ d.request.idempotencyKey = k ∧ d.Open

/-- The key may still be charged, or already is. -/
def Live (ℓ : Ledger) (k : String) : Prop :=
  ℓ.CardLive k ∨ ∃ i c, ℓ.pgCalls i = some c ∧ c.request.idempotencyKey = k ∧ c.Open

theorem open_of_later {Tid Req Resp : Type} {x x' : Exchange Tid Req Resp} (h : x.Later x')
    (ho : x'.Open) : x.Open := by
  by_contra hx
  rw [Exchange.Open, h.closed hx] at ho
  exact hx ho

/-- A key becomes live for the card service only by the PG's one card request. -/
theorem Move.cardLive (h : Move Γ ℓ ℓ') (hk : ℓ'.CardLive k) :
    ℓ.CardLive k ∨ ∃ j d i c p, ℓ.cardCalls j = none ∧ ℓ'.cardCalls j = some d ∧ ℓ.AtPg i c ∧
      c.request.idempotencyKey = k ∧ ℓ.NoCardCall (.pg i) ∧ ℓ.pgTransactions k = some p ∧
        p.status = .pending := by
  rcases hk with ⟨x, hx, hs⟩ | ⟨j, d, hd, rfl, ho⟩
  · obtain ⟨t, hstep⟩ := h.cardTransactions hx
    cases hstep with
    | same _ hx => exact .inl (.inl ⟨x, hx, hs⟩)
    | inserted j d _ _ hd _ hkey => exact .inl (.inr ⟨j, d, hd.1, hkey, .inr hd.2⟩)
  · rcases h.cardCall_origin hd with ⟨d₀, hd₀, hl⟩ |
      ⟨⟨i, c, p, hby, hc, hkey, -, -, hp, hst⟩, hno, -, -, hnone⟩
    · exact .inl (.inr ⟨j, d₀, hd₀, by rw [hl.request], open_of_later hl ho⟩)
    · exact .inr ⟨j, d, i, c, p, hnone, hd, hc, hkey.symm, by rwa [hby] at hno, hp, hst⟩

theorem Move.live (h : Move Γ ℓ ℓ') (hk : ℓ'.Live k) :
    ℓ.Live k ∨ ∃ i c row, ℓ.pgCalls i = none ∧ ℓ'.pgCalls i = some c ∧
      c.request.idempotencyKey = k ∧ Γ.mayCharge ℓ c.request ∧ ℓ.transactions k = some row ∧
        row.status = .pending ∧ ℓ.NoPgCall row.insertedBy := by
  rcases hk with hk | ⟨i, c, hc, rfl, ho⟩
  · rcases h.cardLive hk with hk | ⟨-, -, i, c, p, -, -, hc, hkey, -⟩
    · exact .inl (.inl hk)
    · exact .inl (.inr ⟨i, c, hc.1, hkey, .inr hc.2⟩)
  · rcases h.pgCall_origin hc with ⟨c₀, hc₀, hl⟩ |
      ⟨⟨row, hrow, hby, hst, -⟩, hno, -, -, hΓ, hnone⟩
    · exact .inl (.inr ⟨i, c₀, hc₀, by rw [hl.request], open_of_later hl ho⟩)
    · exact .inr ⟨i, c, row, hnone, hc, rfl, hΓ, hrow, hst, hby ▸ hno⟩

/-! ## Requests and rows of live keys -/

theorem Coherent.cardCall_of_cardLive (hℓ : Coherent ℓ) (hk : ℓ.CardLive k) :
    ∃ j d, ℓ.cardCalls j = some d ∧ d.request.idempotencyKey = k := by
  rcases hk with ⟨x, hx, -⟩ | ⟨j, d, hd, hdk, -⟩
  · obtain ⟨-, j, d, -, hd, hdk, -⟩ := hℓ.cardRow k x hx
    exact ⟨j, d, hd.1, hdk⟩
  · exact ⟨j, d, hd, hdk⟩

theorem Coherent.pgCall_of_live (hℓ : Coherent ℓ) (hk : ℓ.Live k) :
    ∃ i c, ℓ.pgCalls i = some c ∧ c.request.idempotencyKey = k := by
  rcases hk with hk | ⟨i, c, hc, hck, -⟩
  · obtain ⟨j, d, hd, rfl⟩ := hℓ.cardCall_of_cardLive hk
    obtain ⟨i, c, -, -, hc, hck, -⟩ := hℓ.cardCall j d hd
    exact ⟨i, c, hc.1, hck.symm⟩
  · exact ⟨i, c, hc, hck⟩

/-- A live key belongs to a transaction. -/
theorem Coherent.live_transaction (hℓ : Coherent ℓ) (hk : ℓ.Live k) :
    ∃ row, ℓ.transactions k = some row := by
  obtain ⟨i, c, hc, rfl⟩ := hℓ.pgCall_of_live hk
  obtain ⟨row, hrow, -⟩ := hℓ.pgCall i c hc
  exact ⟨row, hrow⟩

/-! ## Keys that are no longer live -/

theorem Move.not_live_of_call (hℓ : Coherent ℓ) (h : Move Γ ℓ ℓ') {i : Nat} {c : PgCall}
    (hc : ℓ.pgCalls i = some c) (hk : ¬ℓ.Live c.request.idempotencyKey) :
    ¬ℓ'.Live c.request.idempotencyKey := by
  intro hl
  obtain ⟨-, -, row, -, -, -, -, hrow, -, hno⟩ := (h.live hl).resolve_left hk
  obtain ⟨row', hrow', hby, -⟩ := hℓ.pgCall i c hc
  cases hrow.symm.trans hrow'
  exact hno i c hc hby.symm

theorem Move.not_cardLive_of_call (hℓ : Coherent ℓ) (h : Move Γ ℓ ℓ') {j : Nat} {d : CardCall}
    (hd : ℓ.cardCalls j = some d) (hk : ¬ℓ.CardLive d.request.idempotencyKey) :
    ¬ℓ'.CardLive d.request.idempotencyKey := by
  intro hl
  obtain ⟨-, -, i, c, -, -, -, hc, hck, hno, -⟩ := (h.cardLive hl).resolve_left hk
  obtain ⟨i', c', -, hby, hc', hdk, -⟩ := hℓ.cardCall j d hd
  obtain ⟨rfl, -⟩ := hℓ.pgCall_unique hc'.1 hc.1 (hdk.symm.trans hck.symm)
  exact hno j d hd hby

/-- Only a pending transaction is charged. -/
theorem Move.not_live_of_row (h : Move Γ ℓ ℓ') {row : Transaction}
    (hrow : ℓ'.transactions k = some row) (hs : row.status ≠ .pending) (hk : ¬ℓ.Live k) :
    ¬ℓ'.Live k := by
  intro hl
  obtain ⟨i, c, row', hnone, hc, -, -, hrow', hst, -⟩ := (h.live hl).resolve_left hk
  rw [(h.only_pgCalls (by rw [hc, hnone]; simp)).1, hrow'] at hrow
  cases hrow
  exact hs hst

theorem Move.not_cardLive_of_row (h : Move Γ ℓ ℓ') {p : PgTransaction}
    (hp : ℓ'.pgTransactions k = some p) (hs : p.status ≠ .pending) (hk : ¬ℓ.CardLive k) :
    ¬ℓ'.CardLive k := by
  intro hl
  obtain ⟨j, d, -, -, p', hnone, hd, -, -, -, hp', hst⟩ := (h.cardLive hl).resolve_left hk
  rw [(h.only_cardCalls (by rw [hd, hnone]; simp)).2.2.1, hp'] at hp
  cases hp
  exact hs hst

end Ledger

/-! ## In the tables -/

namespace World

variable {w : World} {key : String}

/-- `Ledger.CardLive` as the tables show it. -/
def CardLive (w : World) (key : String) : Prop :=
  (∃ x ∈ w.cardTransactions, x.idempotencyKey = key ∧ x.status = .success) ∨
    ∃ d ∈ w.cardCalls, d.request.idempotencyKey = key ∧ d.Open

/-- `Ledger.Live` as the tables show it. -/
def Live (w : World) (key : String) : Prop :=
  w.CardLive key ∨ ∃ c ∈ w.pgCalls, c.request.idempotencyKey = key ∧ c.Open

theorem cardLive_of_ledger (h : w.ledger.CardLive key) : w.CardLive key := by
  rcases h with ⟨x, hx, hs⟩ | ⟨j, d, hd, hk, ho⟩
  · exact .inl ⟨x, mem_of_get? hx, col_of_get? hx, hs⟩
  · exact .inr ⟨d, List.mem_of_getElem? hd, hk, ho⟩

theorem live_of_ledger (h : w.ledger.Live key) : w.Live key := by
  rcases h with h | ⟨i, c, hc, hk, ho⟩
  · exact .inl (cardLive_of_ledger h)
  · exact .inr ⟨c, List.mem_of_getElem? hc, hk, ho⟩

instance (w : World) (key : String) : Decidable (w.CardLive key) :=
  inferInstanceAs (Decidable (_ ∨ _))

instance (w : World) (key : String) : Decidable (w.Live key) :=
  inferInstanceAs (Decidable (_ ∨ _))

end World

end CarPayIn
