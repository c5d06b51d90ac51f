import CarPayIn.Payments.Commits

/-! # What no other execution can change

The rows and requests of an execution stay as they are while other executions
and the network take steps, except that its requests move on and that its timers
may run out.
-/

namespace CarPayIn

open Process Store

namespace Ledger

variable {Γ : Regime} {t : Tid} {ℓ ℓ' : Ledger} {key : String}

/-! ## What an execution knows of itself -/

/-- The execution has touched no ledger. -/
structure Untouched (t : Tid) (ℓ : Ledger) : Prop where
  row : ∀ k r, ℓ.transactions k = some r → r.insertedBy ≠ t
  call : ℓ.NoPgCall t

/-- The execution's own transaction, with its status. -/
def Owns (t : Tid) (key : String) (status : TransactionStatus) (amount : Int) (currency : String)
    (ℓ : Ledger) : Prop :=
  ∃ row, ℓ.transactions key = some row ∧ row.insertedBy = t ∧ row.status = status ∧
    row.amount = amount ∧ row.currency = currency

/-- The execution waits for the answer to its charge request. -/
def AwaitsPg (t : Tid) (id : Nat) (key : String) (ℓ : Ledger) : Prop :=
  ∃ c, ℓ.pgCalls id = some c ∧ c.caller = t ∧ c.request.idempotencyKey = key ∧
    (c.receipt = .waiting ∨ c.receipt = .abandoned)

/-- The PG is answering exchange `i`, which carries this request. -/
def Serving (i : Nat) (request : ChargeRequest) (ℓ : Ledger) : Prop :=
  ∃ c, ℓ.AtPg i c ∧ c.request = request

def HasPgRow (key : String) (status : TransactionStatus) (approvalNo : Option String)
    (ℓ : Ledger) : Prop :=
  ∃ p, ℓ.pgTransactions key = some p ∧ p.status = status ∧ p.approvalNo = approvalNo

def AwaitsCard (t : Tid) (id : Nat) (key : String) (ℓ : Ledger) : Prop :=
  ∃ d, ℓ.cardCalls id = some d ∧ d.caller = t ∧ d.request.idempotencyKey = key ∧
    (d.receipt = .waiting ∨ d.receipt = .abandoned)

def ServingCard (j : Nat) (request : CardChargeRequest) (ℓ : Ledger) : Prop :=
  ∃ d, ℓ.AtCard j d ∧ d.request = request

/-- A step that is not one of execution `t`. -/
structure Interference (Γ : Regime) (t : Tid) (ℓ ℓ' : Ledger) : Prop where
  coherent : ℓ.Coherent
  step : (∃ t', t' ≠ t ∧ Step Γ t' ℓ ℓ') ∨ NetStep Γ ℓ ℓ'

namespace Interference

theorem grows (h : Interference Γ t ℓ ℓ') : Grows ℓ ℓ' :=
  h.step.elim (fun ⟨_, _, h⟩ => h.grows) NetStep.grows

/-! ## The backend's side -/

theorem own_row (h : Interference Γ t ℓ ℓ') {row : Transaction}
    (hk : ℓ.transactions key = some row) (hby : row.insertedBy = t) :
    ℓ'.transactions key = some row := by
  rcases h.step with ⟨t', ht, hs⟩ | hs
  · obtain ⟨row', hrow', -⟩ := hs.grows.transactions key row hk
    cases hs.transactions hrow' with
    | same _ h₀ => rw [hk] at h₀; cases h₀; exact hrow'
    | opened _ _ hnone => simp [hk] at hnone
    | succeeded r _ _ h₀ hby' =>
        rw [hk] at h₀; cases h₀; exact (ht (hby'.symm.trans hby)).elim
    | failed r _ h₀ hby' =>
        rw [hk] at h₀; cases h₀; exact (ht (hby'.symm.trans hby)).elim
  · rw [hs.transactions]
    exact hk

/-- No other execution adds a row under this one's name. -/
theorem own_row_before (h : Interference Γ t ℓ ℓ') {row : Transaction}
    (hk : ℓ'.transactions key = some row) (hby : row.insertedBy = t) :
    ℓ.transactions key = some row := by
  rcases h.step with ⟨t', ht, hs⟩ | hs
  · cases hs.transactions hk with
    | same _ h₀ => exact h₀
    | opened _ _ _ _ hby' => exact (ht (hby'.symm.trans hby)).elim
    | succeeded r _ _ _ hby' => exact (ht (hby'.symm.trans hby)).elim
    | failed r _ _ hby' => exact (ht (hby'.symm.trans hby)).elim
  · rw [hs.transactions] at hk
    exact hk

theorem owns (h : Interference Γ t ℓ ℓ') {status : TransactionStatus} {amount : Int}
    {currency : String} : Owns t key status amount currency ℓ → Owns t key status amount currency ℓ' :=
  fun ⟨row, hk, hby, hrest⟩ => ⟨row, h.own_row hk hby, hby, hrest⟩

theorem noPgCall (h : Interference Γ t ℓ ℓ') (hno : ℓ.NoPgCall t) : ℓ'.NoPgCall t := by
  intro id c' hc' hby
  rcases h.step with ⟨t', ht, hs⟩ | hs
  · cases hs.pgCalls hc' with
    | same _ h₀ => exact hno id _ h₀ hby
    | charged => exact ht hby
    | received c _ h₀ => exact hno id c h₀ hby
    | responded c _ h₀ => exact hno id c h₀.1 hby
  · cases hs.pgCalls hc' with
    | same _ h₀ => exact hno id _ h₀ hby
    | moved c _ h₀ => exact hno id c h₀ hby
    | gaveUp c h₀ => exact hno id c h₀ hby

theorem untouched (h : Interference Γ t ℓ ℓ') (hu : Untouched t ℓ) : Untouched t ℓ' := by
  refine ⟨fun k r hk => ?_, h.noPgCall hu.call⟩
  rcases h.step with ⟨t', ht, hs⟩ | hs
  · cases hs.transactions hk with
    | same _ h₀ => exact hu.row k r h₀
    | opened _ _ _ _ hby => exact fun he => ht (hby.symm.trans he)
    | succeeded row _ _ h₀ => exact hu.row k row h₀
    | failed row _ h₀ => exact hu.row k row h₀
  · rw [hs.transactions] at hk
    exact hu.row k r hk

theorem awaitsPg (h : Interference Γ t ℓ ℓ') {id : Nat} (ha : AwaitsPg t id key ℓ) :
    AwaitsPg t id key ℓ' := by
  obtain ⟨c, hc, hby, hk, hr⟩ := ha
  obtain ⟨c', hc', hl⟩ := h.grows.pgCalls id c hc
  refine ⟨c', hc', hl.caller.trans hby, by rw [hl.request]; exact hk, ?_⟩
  rcases h.step with ⟨t', ht, hs⟩ | hs
  · cases hs.pgCalls hc' with
    | same _ h₀ => rw [hc] at h₀; cases h₀; exact hr
    | charged _ _ hnone => simp [hc] at hnone
    | received c₀ _ h₀ hby' =>
        rw [hc] at h₀; cases h₀; exact (ht (hby'.symm.trans hby)).elim
    | responded c₀ _ h₀ =>
        obtain ⟨h₀, -⟩ := h₀
        rw [hc] at h₀; cases h₀; exact hr
  · cases hs.pgCalls hc' with
    | same _ h₀ => rw [hc] at h₀; cases h₀; exact hr
    | moved c₀ _ h₀ => rw [hc] at h₀; cases h₀; exact hr
    | gaveUp => exact .inr rfl

theorem pgAbandoned (h : Interference Γ t ℓ ℓ') : ℓ.PgAbandoned t → ℓ'.PgAbandoned t := by
  rintro ⟨id, c, hc, hby, hr⟩
  obtain ⟨c', hc', hl⟩ := h.grows.pgCalls id c hc
  exact ⟨id, c', hc', hl.caller.trans hby, by rw [hl.receipt (by simp [hr])]; exact hr⟩

theorem pgFailure (h : Interference Γ t ℓ ℓ') : ℓ.PgFailure t key → ℓ'.PgFailure t key := by
  rintro (hno | hab | ⟨r, hr, hd⟩)
  · exact .inl (h.noPgCall hno)
  · exact .inr (.inl (h.pgAbandoned hab))
  · exact .inr (.inr ⟨r, h.grows.pgAnswer hr, hd⟩)

/-! ## The PG's side -/

theorem serving {i : Nat} (h : Interference Γ (.pg i) ℓ ℓ') {request : ChargeRequest}
    (hs : Serving i request ℓ) : Serving i request ℓ' := by
  obtain ⟨c, ⟨hc, hp⟩, hreq⟩ := hs
  obtain ⟨c', hc', hl⟩ := h.grows.pgCalls i c hc
  refine ⟨c', ⟨hc', ?_⟩, hl.request.trans hreq⟩
  rcases h.step with ⟨t', ht, hs⟩ | hs
  · cases hs.pgCalls hc' with
    | same _ h₀ => rw [hc] at h₀; cases h₀; exact hp
    | charged _ _ hnone => simp [hc] at hnone
    | received c₀ _ h₀ => rw [hc] at h₀; cases h₀; exact hp
    | responded c₀ _ h₀ ht' => exact (ht ht').elim
  · cases hs.pgCalls hc' with
    | same _ h₀ => rw [hc] at h₀; cases h₀; exact hp
    | moved c₀ _ h₀ hsent => rw [hc] at h₀; cases h₀; simp [hp] at hsent
    | gaveUp c₀ h₀ => rw [hc] at h₀; cases h₀; exact hp

/-- Only the execution that answers a request writes the PG row of its key. -/
theorem pgRow {i : Nat} (h : Interference Γ (.pg i) ℓ ℓ') {request : ChargeRequest}
    (hs : Serving i request ℓ) :
    ℓ'.pgTransactions request.idempotencyKey = ℓ.pgTransactions request.idempotencyKey := by
  obtain ⟨c, ⟨hc, hp⟩, rfl⟩ := hs
  rcases h.step with ⟨t', ht, hs⟩ | hs
  · have hother : ∀ i' c', t' = .pg i' → ℓ.AtPg i' c' →
        c'.request.idempotencyKey = c.request.idempotencyKey → False := by
      rintro i' c' rfl hc' hk
      obtain ⟨rfl, -⟩ := h.coherent.pgCall_unique hc'.1 hc hk
      exact ht rfl
    cases hrow : ℓ'.pgTransactions c.request.idempotencyKey with
    | none =>
        cases hrow₀ : ℓ.pgTransactions c.request.idempotencyKey with
        | none => rfl
        | some p =>
            obtain ⟨p', hp', -⟩ := hs.grows.pgTransactions _ p hrow₀
            rw [hrow] at hp'
            cases hp'
    | some p' =>
        cases hs.pgTransactions hrow with
        | same _ h₀ => exact h₀.symm
        | inserted i' c' _ ht' hc' _ hkey => exact (hother i' c' ht' hc' hkey).elim
        | succeeded i' c' _ _ _ _ ht' hc' hkey => exact (hother i' c' ht' hc' hkey).elim
        | failed i' c' _ _ _ ht' hc' hkey => exact (hother i' c' ht' hc' hkey).elim
  · rw [hs.pgTransactions]

theorem hasPgRow {i : Nat} (h : Interference Γ (.pg i) ℓ ℓ') {request : ChargeRequest}
    {status : TransactionStatus} {approvalNo : Option String} (hs : Serving i request ℓ)
    (hrow : HasPgRow request.idempotencyKey status approvalNo ℓ) :
    HasPgRow request.idempotencyKey status approvalNo ℓ' := by
  obtain ⟨p, hp, hrest⟩ := hrow
  exact ⟨p, by rw [h.pgRow hs]; exact hp, hrest⟩

theorem noCardCall (h : Interference Γ t ℓ ℓ') (hno : ℓ.NoCardCall t) : ℓ'.NoCardCall t := by
  intro id d' hd' hby
  rcases h.step with ⟨t', ht, hs⟩ | hs
  · cases hs.cardCalls hd' with
    | same _ h₀ => exact hno id _ h₀ hby
    | charged => exact ht hby
    | received d _ h₀ => exact hno id d h₀ hby
    | responded d _ h₀ => exact hno id d h₀.1 hby
  · cases hs.cardCalls hd' with
    | same _ h₀ => exact hno id _ h₀ hby
    | moved d _ h₀ => exact hno id d h₀ hby
    | gaveUp d h₀ => exact hno id d h₀ hby

theorem awaitsCard (h : Interference Γ t ℓ ℓ') {id : Nat} (ha : AwaitsCard t id key ℓ) :
    AwaitsCard t id key ℓ' := by
  obtain ⟨d, hd, hby, hk, hr⟩ := ha
  obtain ⟨d', hd', hl⟩ := h.grows.cardCalls id d hd
  refine ⟨d', hd', hl.caller.trans hby, by rw [hl.request]; exact hk, ?_⟩
  rcases h.step with ⟨t', ht, hs⟩ | hs
  · cases hs.cardCalls hd' with
    | same _ h₀ => rw [hd] at h₀; cases h₀; exact hr
    | charged _ _ _ _ _ _ hnone => simp [hd] at hnone
    | received d₀ _ h₀ hby' =>
        rw [hd] at h₀; cases h₀; exact (ht (hby'.symm.trans hby)).elim
    | responded d₀ _ h₀ =>
        obtain ⟨h₀, -⟩ := h₀
        rw [hd] at h₀; cases h₀; exact hr
  · cases hs.cardCalls hd' with
    | same _ h₀ => rw [hd] at h₀; cases h₀; exact hr
    | moved d₀ _ h₀ => rw [hd] at h₀; cases h₀; exact hr
    | gaveUp => exact .inr rfl

theorem cardAbandoned (h : Interference Γ t ℓ ℓ') : ℓ.CardAbandoned t → ℓ'.CardAbandoned t := by
  rintro ⟨id, d, hd, hby, hr⟩
  obtain ⟨d', hd', hl⟩ := h.grows.cardCalls id d hd
  exact ⟨id, d', hd', hl.caller.trans hby, by rw [hl.receipt (by simp [hr])]; exact hr⟩

theorem cardFailure (h : Interference Γ t ℓ ℓ') : ℓ.CardFailure t key → ℓ'.CardFailure t key := by
  rintro (hno | hab | ⟨r, hr, hd⟩)
  · exact .inl (h.noCardCall hno)
  · exact .inr (.inl (h.cardAbandoned hab))
  · exact .inr (.inr ⟨r, h.grows.cardAnswer hr, hd⟩)

/-! ## The card service's side -/

theorem servingCard {j : Nat} (h : Interference Γ (.card j) ℓ ℓ') {request : CardChargeRequest}
    (hs : ServingCard j request ℓ) : ServingCard j request ℓ' := by
  obtain ⟨d, ⟨hd, hp⟩, hreq⟩ := hs
  obtain ⟨d', hd', hl⟩ := h.grows.cardCalls j d hd
  refine ⟨d', ⟨hd', ?_⟩, hl.request.trans hreq⟩
  rcases h.step with ⟨t', ht, hs⟩ | hs
  · cases hs.cardCalls hd' with
    | same _ h₀ => rw [hd] at h₀; cases h₀; exact hp
    | charged _ _ _ _ _ _ hnone => simp [hd] at hnone
    | received d₀ _ h₀ => rw [hd] at h₀; cases h₀; exact hp
    | responded d₀ _ h₀ ht' => exact (ht ht').elim
  · cases hs.cardCalls hd' with
    | same _ h₀ => rw [hd] at h₀; cases h₀; exact hp
    | moved d₀ _ h₀ hsent => rw [hd] at h₀; cases h₀; simp [hp] at hsent
    | gaveUp d₀ h₀ => rw [hd] at h₀; cases h₀; exact hp

theorem cardRow {j : Nat} (h : Interference Γ (.card j) ℓ ℓ') {request : CardChargeRequest}
    (hs : ServingCard j request ℓ) :
    ℓ'.cardTransactions request.idempotencyKey = ℓ.cardTransactions request.idempotencyKey := by
  obtain ⟨d, ⟨hd, hp⟩, rfl⟩ := hs
  rcases h.step with ⟨t', ht, hs⟩ | hs
  · cases hrow : ℓ'.cardTransactions d.request.idempotencyKey with
    | none =>
        cases hrow₀ : ℓ.cardTransactions d.request.idempotencyKey with
        | none => rfl
        | some x =>
            rw [hs.grows.cardRow hrow₀] at hrow
            cases hrow
    | some x' =>
        cases hs.cardTransactions hrow with
        | same _ h₀ => exact h₀.symm
        | inserted j' d' _ ht' hd' _ hkey =>
            obtain ⟨rfl, -⟩ := h.coherent.cardCall_unique hd'.1 hd hkey
            exact (ht ht').elim
  · rw [hs.cardTransactions]

end Interference

end Ledger

end CarPayIn
