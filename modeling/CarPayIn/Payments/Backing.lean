import CarPayIn.Payments.Runs
import CarPayIn.Payments.Tables

/-! # Every success is backed by money

A success in the backend goes back to an approval of the PG, that to an
approval of the card service, and the three rows agree on what was paid.
-/

namespace CarPayIn

open Process Process.System Store Ledger

/-! ## The three ledgers agree -/

/-- A PG row and a card row that carry a payment of the backend. -/
structure Backs (p : PgTransaction) (x : CardTx) (row : Transaction) : Prop where
  pgStatus : p.status = .success
  pgKey : p.idempotencyKey = row.idempotencyKey
  pgAmount : p.amount = row.amount
  pgCurrency : p.currency = row.currency
  pgApproval : p.approvalNo = row.approvalNo
  cardStatus : x.status = .success
  cardKey : x.idempotencyKey = row.idempotencyKey
  cardAmount : x.amount = row.amount
  cardCurrency : x.currency = row.currency
  cardApproval : x.approvalNo = row.approvalNo

namespace Ledger

variable {ℓ : Ledger}

theorem Coherent.pgRow_of_call (hℓ : Coherent ℓ) {i : Nat} {c : PgCall} {p : PgTransaction}
    (hc : ℓ.pgCalls i = some c) (hp : ℓ.pgTransactions c.request.idempotencyKey = some p) :
    p.amount = c.request.amount ∧ p.currency = c.request.currency := by
  obtain ⟨-, -, i', c', -, hc', hk, ha, hcur⟩ := hℓ.pgRow _ p hp
  obtain ⟨-, rfl⟩ := hℓ.pgCall_unique hc'.1 hc hk
  exact ⟨ha, hcur⟩

theorem Coherent.cardRow_of_call (hℓ : Coherent ℓ) {i : Nat} {c : PgCall} {x : CardTx}
    (hc : ℓ.pgCalls i = some c) (hx : ℓ.cardTransactions c.request.idempotencyKey = some x) :
    x.amount = c.request.amount ∧ x.currency = c.request.currency := by
  obtain ⟨-, j, d, -, hd, hk, ha, hcur⟩ := hℓ.cardRow _ x hx
  obtain ⟨i', c', -, -, hc', hk', ha', hcur', -⟩ := hℓ.cardCall j d hd.1
  obtain ⟨-, rfl⟩ := hℓ.pgCall_unique hc'.1 hc (hk'.symm.trans hk)
  exact ⟨ha.trans ha', hcur.trans hcur'⟩

theorem Coherent.backed_success (hℓ : Coherent ℓ) {k : String} {row : Transaction}
    (hrow : ℓ.transactions k = some row) (hs : row.status = .success) (hpos : 0 < row.amount) :
    ∃ p x, ℓ.pgTransactions k = some p ∧ ℓ.cardTransactions k = some x ∧ Backs p x row := by
  obtain rfl := hℓ.key k row hrow
  obtain ⟨r, ⟨i, c, hc, -, hk, hr⟩, ha⟩ : ∃ r, ℓ.PgAnswer row.insertedBy row.idempotencyKey r ∧
      Approves r row.pgTxId row.approvalNo :=
    (hℓ.paid _ row hrow hs).resolve_left (by omega)
  obtain ⟨p, hp, hps, hpno⟩ := hℓ.approvedPg i c r _ _ hc (hℓ.pgReceipt i c r hc hr) ha
  obtain ⟨r', ⟨j, d, hd, -, hkd, hr'⟩, ha'⟩ := hℓ.backed _ p hp hps
  obtain ⟨x, hx, hxs, hxno⟩ := hℓ.approvedCard j d r' _ hd (hℓ.cardReceipt j d r' hd hr') ha'
  rw [hkd] at hx
  obtain ⟨row', hrow', -, hamount, hcurrency, -⟩ := hℓ.pgCall i c hc
  rw [hk, hrow] at hrow'
  cases hrow'
  obtain ⟨hpa, hpc⟩ := hℓ.pgRow_of_call hc hp
  obtain ⟨hxa, hxc⟩ := hℓ.cardRow_of_call hc hx
  refine ⟨p, x, hk ▸ hp, hk ▸ hx, ?_⟩
  exact {
    pgStatus := hps
    pgKey := (hℓ.pgRow _ p hp).1.trans hk
    pgAmount := hpa.trans hamount.symm
    pgCurrency := hpc.trans hcurrency.symm
    pgApproval := hpno
    cardStatus := hxs
    cardKey := (hℓ.cardRow _ x hx).1.trans hk
    cardAmount := hxa.trans hamount.symm
    cardCurrency := hxc.trans hcurrency.symm
    cardApproval := hxno.trans hpno }

end Ledger

/-! ## Runs -/

/-- However requests interleave, repeat, get lost or time out, and whatever call
raises: a paid success of the backend has a PG success and a card success with
the same key, amount, currency and approval number. -/
theorem success_backed_by_money (rt : Runtime) {c : Config Op PyError Reply World Tid}
    (hc : (carPayIn rt).Reachable Policy.any World.Unpaid c) {row : Transaction}
    (hrow : row ∈ c.state.transactions) (hs : row.status = .success) (hpos : 0 < row.amount) :
    ∃ p ∈ c.state.pgTransactions, ∃ x ∈ c.state.cardTransactions, Backs p x row := by
  have hfound : c.state.ledger.transactions row.idempotencyKey = some row :=
    (keysUnique_of_reachable hc).transactions.get?_of_mem hrow
  obtain ⟨p, x, hp, hx, hb⟩ := (coherent_of_reachable within_any hc).backed_success hfound hs hpos
  exact ⟨p, mem_of_get? hp, x, mem_of_get? hx, hb⟩

/-! ## A garage with one car -/

/-- Hash functions without collisions. -/
def plainRuntime : Runtime where
  sha256 := id
  tokenHash := id
  isIsoFormat _ := true
  publicBaseUrl := "http://localhost:8000"
  redirectUrl := id

/-- The garage asks for 1000 won, and nobody logs in. -/
def garageOutside : Outside where
  parkingFee _ _ _ := .ok (1000, 60)
  exchangeCode _ := .error (.runtimeError "hyundai_token_exchange_failed")
  userProfile _ := .error (.runtimeError "hyundai_profile_failed")
  vehicleList _ := .error (.runtimeError "hyundai_vehicle_list_failed")
  verifyOwner _ _ _ := true
  registrationUrl orderId := orderId
  validSignature _ _ := true

/-- One car with a registered card has just been parked. -/
def garage : World where
  base := {
    now := 0
    drawn := 1
    issuedTokens := [⟨.appAccess, "user-1", "car-1", 3600⟩]
    users := [⟨"user-1", "Kim"⟩]
    vehicles := [⟨"car-1", "user-1", "IONIQ 5", "12GA3456"⟩]
    billingKeys := [⟨"car-1", "bk-1", "1234", .active, ⟨"order-1", "user-1", "car-1", .complete⟩⟩]
    refreshTokens := []
    parkingSessions := [⟨0, some "pms-1", "car-1", "lot-1", "12GA3456", "2024-01-01T09:00:00", none,
      .active⟩]
    qrSessions _ := none
    oauthStates _ := none
    oauthResults _ := none
    completedLogins := []
    loginResults _ := none
    cardOrders _ := none
    preNotifies _ := none
    quotes _ := none
    entryRetries _ := none
    scannedEntries := []
    publishedEntries := []
    outside := garageOutside }
  transactions := []
  outbox := []
  retries _ := none
  scanned := []
  acknowledged := []
  pgCalls := []
  pgDrawn := 0
  pgBillingKeys := [⟨"bk-1", "card-token-1", .active⟩]
  pgTransactions := []
  cardCalls := []
  cardDrawn := 0
  cardTokens := [⟨"card-token-1", .active⟩]
  cardTransactions := []

theorem garage_unpaid : garage.Unpaid := ⟨rfl, rfl, rfl, rfl, rfl, rfl⟩

namespace Garage

abbrev Event := Label PyError Tid Start Env

def token : BearerToken := .signed ⟨.appAccess, "user-1", "car-1", 3600⟩

def sessionId : String := "00000000-0000-0000-0000-000000000000"

def feeQuery (sessionId : String) : Request := .getParkingFee ⟨token, sessionId⟩

def payment (sessionId : String) (amount : Int) : Request :=
  .processPayment ⟨token, sessionId, amount, "KRW"⟩

def request (n : Nat) (r : Request) (calls : Nat) : List Event :=
  .start (.backend n r) :: answers (.backend n r) calls

def approval (i : Nat) : List Event :=
  .start (.pg i) :: answers (.pg i) 7 ++ .start (.card i) :: answers (.card i) 7 ++
    answers (.pg i) 3

def paidRun : List Event :=
  request 0 (feeQuery sessionId) 5 ++ request 1 (payment sessionId 1000) 9 ++ approval 0 ++
    answers (.backend 1 (payment sessionId 1000)) 7

end Garage

/-- The car's payment is such a success. -/
theorem success_backed_by_money_garage : ∃ c, (carPayIn plainRuntime).Reachable Policy.any
    World.Unpaid c ∧ ∃ row ∈ c.state.transactions, row.status = .success ∧ row.amount = 1000 ∧
      ∃ p ∈ c.state.pgTransactions, ∃ x ∈ c.state.cardTransactions, Backs p x row := by
  have hrun : ((carPayIn plainRuntime).run Policy.any Garage.paidRun (boot garage)).any (fun c =>
      c.state.transactions.any fun row => row.status = .success ∧ row.amount = 1000) = true := by
    decide +kernel
  obtain ⟨c, hc, hpaid⟩ := (carPayIn plainRuntime).exists_of_run hrun garage_unpaid
  obtain ⟨row, hrow, hpaid⟩ := List.any_eq_true.mp hpaid
  obtain ⟨hs, ha⟩ := of_decide_eq_true hpaid
  exact ⟨c, hc, row, hrow, hs, ha,
    success_backed_by_money plainRuntime hc hrow hs (by rw [ha]; decide)⟩

end CarPayIn
