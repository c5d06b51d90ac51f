import CarPayIn.Payments.LiveCharges

/-! # One charge for a parking session

A charge request may be carried out for as long as it is under way, and the
idempotency key covers the spelling of the session and the amount. So one
session is charged once exactly when no second key of the session is charged
while an earlier one is live.
-/

namespace CarPayIn

open Process Process.System Store Ledger

/-! ## One live key per session -/

namespace Ledger

variable {ℓ ℓ' : Ledger} {k : String}

def Rival (ℓ : Ledger) (req : ChargeRequest) (k : String) : Prop :=
  k ≠ req.idempotencyKey ∧ ℓ.Live k ∧ ∃ row row', ℓ.transactions req.idempotencyKey = some row ∧
    ℓ.transactions k = some row' ∧ row'.sessionId = row.sessionId

def unrivalled : Regime := { Regime.any with mayCharge := fun ℓ req => ∀ k, ¬ℓ.Rival req k }

def OneLive (ℓ : Ledger) : Prop :=
  ∀ k k' row row', ℓ.transactions k = some row → ℓ.transactions k' = some row' →
    row.sessionId = row'.sessionId → ℓ.Live k → ℓ.Live k' → k = k'

theorem OneLive.move (hℓ : Coherent ℓ) (h : Move unrivalled ℓ ℓ') (hone : OneLive ℓ) :
    OneLive ℓ' := by
  intro k k' row row' hk hk' hsession hl hl'
  -- the transaction of a live key is older than this step
  have hold : ∀ {k row}, ℓ'.transactions k = some row → ℓ'.Live k →
      ∃ row₀, ℓ.transactions k = some row₀ ∧ row₀.sessionId = row.sessionId := by
    intro k row hk hl
    obtain ⟨row₀, hrow₀⟩ : ∃ row₀, ℓ.transactions k = some row₀ := by
      rcases h.live hl with hl | ⟨-, -, row₀, -, -, -, -, hrow₀, -⟩
      · exact hℓ.live_transaction hl
      · exact ⟨row₀, hrow₀⟩
    obtain ⟨row₁, hrow₁, hs⟩ := h.grows.transactions k row₀ hrow₀
    cases hk.symm.trans hrow₁
    exact ⟨row₀, hrow₀, hs.sessionId.symm⟩
  obtain ⟨row₀, hrow₀, hs₀⟩ := hold hk hl
  obtain ⟨row₀', hrow₀', hs₀'⟩ := hold hk' hl'
  have hsame : row₀.sessionId = row₀'.sessionId := hs₀.trans (hsession.trans hs₀'.symm)
  by_contra hne
  rcases h.live hl with hl | ⟨i, c, -, hnone, hc, rfl, hΓ, -⟩
  · rcases h.live hl' with hl' | ⟨i', c', -, -, -, rfl, hΓ', -⟩
    · exact hne (hone k k' row₀ row₀' hrow₀ hrow₀' hsame hl hl')
    · exact hΓ' k ⟨hne, hl, row₀', row₀, hrow₀', hrow₀, hsame⟩
  · rcases h.live hl' with hl' | ⟨i', c', -, hnone', hc', rfl, -⟩
    · exact hΓ k' ⟨Ne.symm hne, hl', row₀, row₀', hrow₀, hrow₀', hsame.symm⟩
    -- one step sends one request
    · obtain rfl := h.pgCalls_updates.new_unique hnone hc hnone' hc'
      cases hc.symm.trans hc'
      exact hne rfl

end Ledger

/-! ## Runs -/

namespace World

def Unrivalled (w : World) (req : ChargeRequest) : Prop :=
  ∀ row ∈ w.transactions, row.idempotencyKey = req.idempotencyKey → ∀ other ∈ w.transactions,
    other.sessionId = row.sessionId → other.idempotencyKey ≠ row.idempotencyKey →
      ¬w.Live other.idempotencyKey

instance (w : World) (req : ChargeRequest) : Decidable (w.Unrivalled req) :=
  inferInstanceAs (Decidable (∀ row ∈ w.transactions, _))

/-- No parking session has two approved card transactions. The session of a
card transaction is the one its key was computed for. -/
def ChargedOnce (w : World) : Prop :=
  ∀ row ∈ w.transactions, ∀ row' ∈ w.transactions, row.sessionId = row'.sessionId →
    ∀ x ∈ w.cardTransactions, ∀ x' ∈ w.cardTransactions,
      x.idempotencyKey = row.idempotencyKey → x'.idempotencyKey = row'.idempotencyKey →
      x.status = .success → x'.status = .success → x = x'

instance (w : World) : Decidable w.ChargedOnce :=
  inferInstanceAs (Decidable (∀ row ∈ w.transactions, _))

end World

/-- The backend charges a session only while no other key of it is live. -/
def unrivalledPolicy : Policy Op PyError World Tid Start Env :=
  limitedPolicy World.Unrivalled (fun _ _ => True) (fun _ _ => True) fun _ _ _ _ _ => true

instance : unrivalledPolicy.Computable :=
  inferInstanceAs (limitedPolicy _ _ _ _).Computable

theorem within_unrivalled : Within unrivalledPolicy Ledger.unrivalled := by
  refine within_limited ?_ (fun _ _ _ => trivial) (fun _ _ _ => trivial)
    (fun _ _ _ _ _ _ => trivial) fun _ _ _ _ _ _ => .inl trivial
  rintro w req h k ⟨hne, hl, row, row', hrow, hrow', hs⟩
  have hkey : row.idempotencyKey = req.idempotencyKey := col_of_get? hrow
  obtain rfl : row'.idempotencyKey = k := col_of_get? hrow'
  exact h row (mem_of_get? hrow) hkey row' (mem_of_get? hrow') hs (by rwa [hkey])
    (World.live_of_ledger hl)

/-- A session whose keys are never live together is charged at most once, in
every run and whatever spellings and amounts its payments use. -/
theorem one_charge_per_session (rt : Runtime) {c : Config Op PyError Reply World Tid}
    (hc : (carPayIn rt).Reachable unrivalledPolicy World.Unpaid c) : c.state.ChargedOnce := by
  have hone : c.state.ledger.OneLive := by
    refine ledger_invariant within_unrivalled ?_ (fun _ _ hℓ h => OneLive.move hℓ h) hc
    intro w hw k k' row row' hk
    rw [hw.tables.1 k] at hk
    cases hk
  have hu := keysUnique_of_reachable hc
  have hlive : ∀ x ∈ c.state.cardTransactions, x.status = .success →
      c.state.ledger.Live x.idempotencyKey := fun x hx hs =>
    .inl (.inl ⟨x, hu.cardTransactions.get?_of_mem hx, hs⟩)
  intro row hrow row' hrow' hsession x hx x' hx' hk hk' hs hs'
  have hkeys : row.idempotencyKey = row'.idempotencyKey :=
    hone _ _ row row' (hu.transactions.get?_of_mem hrow) (hu.transactions.get?_of_mem hrow') hsession
      (hk ▸ hlive x hx hs) (hk' ▸ hlive x' hx' hs')
  exact List.inj_on_of_nodup_map hu.cardTransactions hx hx' (hk.trans (hkeys.trans hk'.symm))

/-- The car of the garage is charged once. -/
theorem one_charge_per_session_garage : ∃ c, (carPayIn plainRuntime).Reachable unrivalledPolicy
    World.Unpaid c ∧ c.state.cardTransactions.length = 1 ∧ c.state.ChargedOnce := by
  have hrun : ((carPayIn plainRuntime).run unrivalledPolicy Garage.paidRun (boot garage)).any
      (fun c => decide (c.state.cardTransactions.length = 1)) = true := by decide +kernel
  obtain ⟨c, hc, hlen⟩ := (carPayIn plainRuntime).exists_of_run hrun garage_unpaid
  exact ⟨c, hc, of_decide_eq_true hlen, one_charge_per_session plainRuntime hc⟩

def Garage.bareSessionId : String := "00000000000000000000000000000000"

/-- Two fee queries and two payments for one session, under two spellings of its id. -/
def Garage.twoSpellings : List Garage.Event :=
  request 0 (feeQuery sessionId) 5 ++ request 1 (feeQuery bareSessionId) 5 ++
    request 2 (payment sessionId 1000) 9 ++ approval 0 ++ answers (.backend 2 (payment sessionId 1000)) 7 ++
    request 3 (payment bareSessionId 1000) 9 ++ approval 1

/-- Nothing in the code keeps a second spelling from a second charge. -/
theorem charged_twice : ¬∀ rt : Runtime, Function.Injective rt.sha256 →
    ∀ c, (carPayIn rt).Reachable Policy.any World.Unpaid c → c.state.ChargedOnce := by
  intro h
  have hrun : ((carPayIn plainRuntime).run Policy.any Garage.twoSpellings (boot garage)).any
      (fun c => !decide c.state.ChargedOnce) = true := by decide +kernel
  obtain ⟨c, hc, htwice⟩ := (carPayIn plainRuntime).exists_of_run hrun garage_unpaid
  have hnot : ¬c.state.ChargedOnce := by simpa using htwice
  exact hnot (h plainRuntime (fun _ _ h => h) c hc)

end CarPayIn
