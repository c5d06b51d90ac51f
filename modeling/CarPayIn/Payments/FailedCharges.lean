import CarPayIn.Payments.LiveCharges

/-! # No charge is called a failure

Both the backend and the PG take a request for failed when they stop waiting
for its answer. That is right exactly while the key is not live, so the three
ledgers never contradict each other as long as nobody gives up a live key.
-/

namespace CarPayIn

open Process Process.System Store Ledger

namespace Ledger

def patient : Regime where
  mayCharge _ _ := True
  mayGiveUpPg ℓ id := ∀ c, ℓ.pgCalls id = some c → ¬ℓ.Live c.request.idempotencyKey
  mayGiveUpCard ℓ id := ∀ d, ℓ.cardCalls id = some d → ¬ℓ.CardLive d.request.idempotencyKey
  faults := False
  lateFaults := False

/-- Whatever reports a failure is right about it. -/
structure Honest (ℓ : Ledger) : Prop where
  backend : ∀ k row, ℓ.transactions k = some row → row.status = .failed → ¬ℓ.Live k
  pg : ∀ k p, ℓ.pgTransactions k = some p → p.status = .failed → ¬ℓ.CardLive k
  pgAbandoned : ∀ i c, ℓ.pgCalls i = some c → c.receipt = .abandoned →
    ¬ℓ.Live c.request.idempotencyKey
  pgDeclined : ∀ i c r, ℓ.pgCalls i = some c → c.progress = .answered r → Declines r →
    ¬ℓ.Live c.request.idempotencyKey
  cardAbandoned : ∀ j d, ℓ.cardCalls j = some d → d.receipt = .abandoned →
    ¬ℓ.CardLive d.request.idempotencyKey
  cardDeclined : ∀ j d r, ℓ.cardCalls j = some d → d.progress = .answered r →
    cardApproval r = none → ¬ℓ.CardLive d.request.idempotencyKey

variable {ℓ ℓ' : Ledger} {k : String}

/-! ## Reasons to fail -/

section
variable (hℓ : Coherent ℓ) (hh : Honest ℓ)
include hℓ hh

/-- A reason the backend has for a failure excludes that the key is live. -/
theorem Honest.not_live_of_pgFailure {t : Tid} {row : Transaction}
    (hrow : ℓ.transactions k = some row) (hby : row.insertedBy = t) (hf : ℓ.PgFailure t k) :
    ¬ℓ.Live k := by
  -- the execution's only request is the one for its own key
  have hown : ∀ i c, ℓ.pgCalls i = some c → c.caller = t → c.request.idempotencyKey = k := by
    intro i c hc hct
    obtain ⟨row', hrow', hby', -⟩ := hℓ.pgCall i c hc
    exact hℓ.inserter _ _ row' row hrow' hrow (by rw [hby', hct, hby])
  rcases hf with hno | ⟨i, c, hc, hct, hab⟩ | ⟨r, ⟨i, c, hc, -, rfl, hr⟩, hd⟩
  · intro hl
    obtain ⟨i, c, hc, rfl⟩ := hℓ.pgCall_of_live hl
    obtain ⟨row', hrow', hby', -⟩ := hℓ.pgCall i c hc
    cases hrow.symm.trans hrow'
    exact hno i c hc (hby'.symm.trans hby)
  · have := hh.pgAbandoned i c hc hab
    rwa [hown i c hc hct] at this
  · exact hh.pgDeclined i c r hc (hℓ.pgReceipt i c r hc hr) hd

/-- A reason the PG has for a failure excludes that the card service is at the key. -/
theorem Honest.not_cardLive_of_cardFailure {i : Nat} {c : PgCall} (hc : ℓ.AtPg i c)
    (hf : ℓ.CardFailure (.pg i) c.request.idempotencyKey) :
    ¬ℓ.CardLive c.request.idempotencyKey := by
  have hown : ∀ j d, ℓ.cardCalls j = some d → d.caller = .pg i →
      d.request.idempotencyKey = c.request.idempotencyKey := by
    intro j d hd hdt
    obtain ⟨i', c', -, hby, hc', hdk, -⟩ := hℓ.cardCall j d hd
    obtain rfl : i' = i := by simpa [hby] using hdt
    cases hc.1.symm.trans hc'.1
    exact hdk
  rcases hf with hno | ⟨j, d, hd, hdt, hab⟩ | ⟨r, ⟨j, d, hd, -, hdk, hr⟩, ha⟩
  · intro hl
    obtain ⟨j, d, hd, hdk⟩ := hℓ.cardCall_of_cardLive hl
    obtain ⟨i', c', -, hby, hc', hdk', -⟩ := hℓ.cardCall j d hd
    obtain ⟨rfl, -⟩ := hℓ.pgCall_unique hc'.1 hc.1 (hdk'.symm.trans hdk)
    exact hno j d hd hby
  · have := hh.cardAbandoned j d hd hab
    rwa [hown j d hd hdt] at this
  · have := hh.cardDeclined j d r hd (hℓ.cardReceipt j d r hd hr) ha
    rwa [hdk] at this

end

/-! ## Every step is honest -/

section
variable (hℓ : Coherent ℓ) (h : Move patient ℓ ℓ') (hh : Honest ℓ)
include hℓ h hh

private theorem keep_backend {row' : Transaction} (hk : ℓ'.transactions k = some row')
    (hs : row'.status = .failed) : ¬ℓ'.Live k := by
  refine h.not_live_of_row hk (by simp [hs]) ?_
  obtain ⟨t, hstep⟩ := h.transactions hk
  cases hstep with
  | same _ hrow => exact hh.backend k row' hrow hs
  | opened _ _ _ _ _ hst => rw [hst] at hs; cases hs
  | succeeded => cases hs
  | failed row reason hrow hby hpending hsuccess =>
      cases hst : row.status with
      | pending => exact hh.not_live_of_pgFailure hℓ hrow hby ((hpending hst).resolve_left id)
      | success => exact (hsuccess hst).elim
      | failed => exact hh.backend k row hrow hst
      | cancelled => exact (hℓ.status k row hrow hst).elim

private theorem keep_pg {p' : PgTransaction} (hk : ℓ'.pgTransactions k = some p')
    (hs : p'.status = .failed) : ¬ℓ'.CardLive k := by
  refine h.not_cardLive_of_row hk (by simp [hs]) ?_
  obtain ⟨t, hstep⟩ := h.pgTransactions hk
  cases hstep with
  | same _ hp => exact hh.pg k p' hp hs
  | inserted i c _ ht hc _ hkey _ _ _ _ _ hcall =>
      subst ht hkey
      exact hh.not_cardLive_of_cardFailure hℓ hc (.inl hcall)
  | succeeded => cases hs
  | failed i c p _ _ ht hc hkey hp hwhy =>
      subst ht hkey
      exact hh.not_cardLive_of_cardFailure hℓ hc (hwhy.resolve_left id)

private theorem keep_pgAbandoned {i : Nat} {c' : PgCall} (hc : ℓ'.pgCalls i = some c')
    (hr : c'.receipt = .abandoned) : ¬ℓ'.Live c'.request.idempotencyKey := by
  have hold : ∀ c, ℓ.pgCalls i = some c → c.receipt = .abandoned →
      ¬ℓ'.Live c.request.idempotencyKey :=
    fun c hc hr => h.not_live_of_call hℓ hc (hh.pgAbandoned i c hc hr)
  rcases h with ⟨t, h₀⟩ | h₀
  · cases h₀.pgCalls hc with
    | same _ hc₀ => exact hold _ hc₀ hr
    | charged => cases hr
    | received => cases hr
    | responded c r hc₀ => exact hold c hc₀.1 hr
  · cases h₀.pgCalls hc with
    | same _ hc₀ => exact hold _ hc₀ hr
    | moved c progress hc₀ => exact hold c hc₀ hr
    | gaveUp c hc₀ hw hΓ =>
        have hno := Move.not_live_of_call hℓ (.inr h₀) hc₀ (hΓ c hc₀)
        exact hno

private theorem keep_cardAbandoned {j : Nat} {d' : CardCall} (hd : ℓ'.cardCalls j = some d')
    (hr : d'.receipt = .abandoned) : ¬ℓ'.CardLive d'.request.idempotencyKey := by
  have hold : ∀ d, ℓ.cardCalls j = some d → d.receipt = .abandoned →
      ¬ℓ'.CardLive d.request.idempotencyKey :=
    fun d hd hr => h.not_cardLive_of_call hℓ hd (hh.cardAbandoned j d hd hr)
  rcases h with ⟨t, h₀⟩ | h₀
  · cases h₀.cardCalls hd with
    | same _ hd₀ => exact hold _ hd₀ hr
    | charged => cases hr
    | received => cases hr
    | responded d r hd₀ => exact hold d hd₀.1 hr
  · cases h₀.cardCalls hd with
    | same _ hd₀ => exact hold _ hd₀ hr
    | moved d progress hd₀ => exact hold d hd₀ hr
    | gaveUp d hd₀ hw hΓ =>
        have hno := Move.not_cardLive_of_call hℓ (.inr h₀) hd₀ (hΓ d hd₀)
        exact hno

private theorem keep_cardDeclined {j : Nat} {d' : CardCall} {r : HttpResponse}
    (hd : ℓ'.cardCalls j = some d') (hp : d'.progress = .answered r) (ha : cardApproval r = none) :
    ¬ℓ'.CardLive d'.request.idempotencyKey := by
  have hold : ∀ d, ℓ.cardCalls j = some d → d.progress = .answered r →
      ¬ℓ'.CardLive d.request.idempotencyKey :=
    fun d hd hp => h.not_cardLive_of_call hℓ hd (hh.cardDeclined j d r hd hp ha)
  have hℓ' : Coherent ℓ' := Coherent.move hℓ h
  rcases h with ⟨t, h₀⟩ | h₀
  · cases h₀.cardCalls hd with
    | same _ hd₀ => exact hold _ hd₀ hp
    | charged => cases hp
    | received d r₀ hd₀ => exact hold d hd₀ hp
    | responded d r₀ hd₀ ht happroves hdeclines =>
        obtain rfl : r₀ = r := by simpa using hp
        have hne : ℓ'.cardCalls j ≠ ℓ.cardCalls j := by
          rw [hd, hd₀.1]
          intro he
          have := congrArg (Option.map Exchange.progress) he
          simp [hd₀.2] at this
        obtain ⟨-, -, -, hct⟩ := Move.only_cardCalls (.inl ⟨t, h₀⟩) hne
        rintro (⟨x, hx, hs⟩ | ⟨j', d₁, hd₁, hk, ho⟩)
        · rw [hct] at hx
          exact (hdeclines ha).resolve_left id ⟨x, hx, hs⟩
        · obtain ⟨-, rfl⟩ := hℓ'.cardCall_unique hd₁ hd hk
          simp [Exchange.Open] at ho
  · cases h₀.cardCalls hd with
    | same _ hd₀ => exact hold _ hd₀ hp
    | moved d progress hd₀ hs hpr => rcases hpr with rfl | rfl <;> cases hp
    | gaveUp d hd₀ => exact hold d hd₀ hp

private theorem keep_pgDeclined {i : Nat} {c' : PgCall} {r : HttpResponse}
    (hc : ℓ'.pgCalls i = some c') (hp : c'.progress = .answered r) (hdec : Declines r) :
    ¬ℓ'.Live c'.request.idempotencyKey := by
  have hold : ∀ c, ℓ.pgCalls i = some c → c.progress = .answered r →
      ¬ℓ'.Live c.request.idempotencyKey :=
    fun c hc hp => h.not_live_of_call hℓ hc (hh.pgDeclined i c r hc hp hdec)
  have hℓ' : Coherent ℓ' := Coherent.move hℓ h
  rcases h with ⟨t, h₀⟩ | h₀
  · cases h₀.pgCalls hc with
    | same _ hc₀ => exact hold _ hc₀ hp
    | charged => cases hp
    | received c r₀ hc₀ => exact hold c hc₀ hp
    | responded c r₀ hc₀ ht happroves hdeclines =>
        obtain rfl : r₀ = r := by simpa using hp
        subst ht
        have hne : ℓ'.pgCalls i ≠ ℓ.pgCalls i := by
          rw [hc, hc₀.1]
          intro he
          have := congrArg (Option.map Exchange.progress) he
          simp [hc₀.2] at this
        obtain ⟨-, -, hcc, hct⟩ := Move.only_pgCalls (.inl ⟨_, h₀⟩) hne
        have hno := hh.not_cardLive_of_cardFailure hℓ hc₀ ((hdeclines hdec).resolve_left id)
        rintro (hl | ⟨i', c₁, hc₁, hk, ho⟩)
        · refine hno ?_
          simpa only [CardLive, Charged, hcc, hct] using hl
        · obtain ⟨-, rfl⟩ := hℓ'.pgCall_unique hc₁ hc hk
          simp [Exchange.Open] at ho
  · cases h₀.pgCalls hc with
    | same _ hc₀ => exact hold _ hc₀ hp
    | moved c progress hc₀ hs hpr => rcases hpr with rfl | rfl <;> cases hp
    | gaveUp c hc₀ => exact hold c hc₀ hp

theorem Honest.move : Honest ℓ' where
  backend _ _ hk hs := keep_backend hℓ h hh hk hs
  pg _ _ hk hs := keep_pg hℓ h hh hk hs
  pgAbandoned _ _ hc hr := keep_pgAbandoned hℓ h hh hc hr
  pgDeclined _ _ _ hc hp hd := keep_pgDeclined hℓ h hh hc hp hd
  cardAbandoned _ _ hd hr := keep_cardAbandoned hℓ h hh hd hr
  cardDeclined _ _ _ hd hp ha := keep_cardDeclined hℓ h hh hd hp ha

end

end Ledger

/-! ## Runs -/

namespace World

def PgSpent (w : World) (id : Nat) : Prop :=
  ∀ c ∈ w.pgCalls[id]?.toList, ¬w.Live c.request.idempotencyKey

def CardSpent (w : World) (id : Nat) : Prop :=
  ∀ d ∈ w.cardCalls[id]?.toList, ¬w.CardLive d.request.idempotencyKey

instance (w : World) (id : Nat) : Decidable (w.PgSpent id) :=
  inferInstanceAs (Decidable (∀ c ∈ w.pgCalls[id]?.toList, _))

instance (w : World) (id : Nat) : Decidable (w.CardSpent id) :=
  inferInstanceAs (Decidable (∀ d ∈ w.cardCalls[id]?.toList, _))

/-- What was charged is pending or a success in the PG and in the backend. -/
def ChargesKept (w : World) : Prop :=
  ∀ x ∈ w.cardTransactions, x.status = .success →
    (∃ p ∈ w.pgTransactions, p.idempotencyKey = x.idempotencyKey ∧
      (p.status = .pending ∨ p.status = .success)) ∧
    ∃ row ∈ w.transactions, row.idempotencyKey = x.idempotencyKey ∧
      (row.status = .pending ∨ row.status = .success)

instance (w : World) : Decidable w.ChargesKept :=
  inferInstanceAs (Decidable (∀ x ∈ w.cardTransactions, _))

end World

/-- Callers stop waiting only for requests that are spent; no call raises but a
notification, a publication or a connection that is never made. -/
def patientPolicy : Policy Op PyError World Tid Start Env :=
  limitedPolicy (fun _ _ => True) World.PgSpent World.CardSpent fun _ _ _ _ _ => false

instance : patientPolicy.Computable := inferInstanceAs (limitedPolicy _ _ _ _).Computable

theorem within_patient : Within patientPolicy Ledger.patient :=
  within_limited (fun _ _ _ => trivial)
    (fun _ _ h c hc hl => h c (Option.mem_toList.mpr hc) (World.live_of_ledger hl))
    (fun _ _ h d hd hl => h d (Option.mem_toList.mpr hd) (World.cardLive_of_ledger hl))
    (fun _ _ _ _ _ h => by cases h) fun _ _ _ _ _ h => by cases h

/-- While nobody gives up a request that may still charge or has charged, no
ledger calls a charge a failure, wherever requests and answers are lost. -/
theorem no_charge_called_failure (rt : Runtime) {c : Config Op PyError Reply World Tid}
    (hc : (carPayIn rt).Reachable patientPolicy World.Unpaid c) : c.state.ChargesKept := by
  have hh : c.state.ledger.Honest := by
    refine ledger_invariant within_patient ?_ (fun _ _ hℓ h => Honest.move hℓ h) hc
    intro w hw
    obtain ⟨h₁, -, h₃, h₄, h₅, -⟩ := hw.tables
    constructor <;> simp [h₁, h₃, h₄, h₅]
  have hℓ := coherent_of_reachable within_patient hc
  have hu := keysUnique_of_reachable hc
  intro x hx hs
  have hlive : c.state.ledger.CardLive x.idempotencyKey :=
    .inl ⟨x, hu.cardTransactions.get?_of_mem hx, hs⟩
  constructor
  · obtain ⟨j, d, hd, hdk⟩ := hℓ.cardCall_of_cardLive hlive
    obtain ⟨-, -, p, -, -, -, -, -, hp⟩ := hℓ.cardCall j d hd
    rw [hdk] at hp
    refine ⟨p, mem_of_get? hp, col_of_get? hp, ?_⟩
    cases hst : p.status with
    | pending => exact .inl rfl
    | success => exact .inr rfl
    | failed => exact (hh.pg _ p hp hst hlive).elim
    | cancelled => exact ((hℓ.pgRow _ p hp).2.1 hst).elim
  · obtain ⟨row, hrow⟩ := hℓ.live_transaction (.inl hlive)
    refine ⟨row, mem_of_get? hrow, col_of_get? hrow, ?_⟩
    cases hst : row.status with
    | pending => exact .inl rfl
    | success => exact .inr rfl
    | failed => exact (hh.backend _ row hrow hst (.inl hlive)).elim
    | cancelled => exact (hℓ.status _ row hrow hst).elim

/-- The garage's charge is kept. -/
theorem no_charge_called_failure_garage : ∃ c, (carPayIn plainRuntime).Reachable patientPolicy
    World.Unpaid c ∧ c.state.cardTransactions.length = 1 ∧ c.state.ChargesKept := by
  have hrun : ((carPayIn plainRuntime).run patientPolicy Garage.paidRun (boot garage)).any
      (fun c => decide (c.state.cardTransactions.length = 1)) = true := by decide +kernel
  obtain ⟨c, hc, hlen⟩ := (carPayIn plainRuntime).exists_of_run hrun garage_unpaid
  exact ⟨c, hc, of_decide_eq_true hlen, no_charge_called_failure plainRuntime hc⟩

/-- The card is charged, the PG stops waiting for the answer and reports a failure. -/
def Garage.lostApproval : List Garage.Event :=
  request 0 (feeQuery sessionId) 5 ++ request 1 (payment sessionId 1000) 9 ++
    .start (.pg 0) :: answers (.pg 0) 7 ++ .start (.card 0) :: answers (.card 0) 7 ++
    .environment (.giveUpCard 0) :: answers (.pg 0) 3 ++
    answers (.backend 1 (payment sessionId 1000)) 2

/-- The events in which calls raise only as a lost or timed out message makes them. -/
def lossyPolicy : Policy Op PyError World Tid Start Env :=
  limitedPolicy (fun _ _ => True) (fun _ _ => True) (fun _ _ => True) fun _ _ _ _ _ => false

instance : lossyPolicy.Computable := inferInstanceAs (limitedPolicy _ _ _ _).Computable

/-- A lost answer of the card service turns a charge into a failure. -/
theorem charge_called_failure : ¬∀ rt c,
    (carPayIn rt).Reachable lossyPolicy World.Unpaid c → c.state.ChargesKept := by
  intro h
  have hrun : ((carPayIn plainRuntime).run lossyPolicy Garage.lostApproval (boot garage)).any
      (fun c => !decide c.state.ChargesKept) = true := by decide +kernel
  obtain ⟨c, hc, hfailed⟩ := (carPayIn plainRuntime).exists_of_run hrun garage_unpaid
  have hnot : ¬c.state.ChargesKept := by simpa using hfailed
  exact hnot (h plainRuntime c hc)

end CarPayIn
