import CarPayIn.Payments.Calls
import CarPayIn.Payments.Runs
import CarPayIn.Payments.Backing

/-! # One PG call for an idempotency key

The PG is asked by the execution that inserted the key's transaction, and an
execution asks at most once. The uniqueness of the key at the insertion makes
that execution the only one.
-/

namespace CarPayIn

open Process Process.System Store Ledger

variable {rt : Runtime} {t : Tid} {req : ChargeRequest}
  {c c₁ c' : Config Op PyError Reply World Tid}

def Op.charge? {β : Type} : Op β → Option ChargeRequest
  | .pgHttp (.send req) => some req
  | _ => none

def pendingCharge? : Thread Op PyError Reply → Option ChargeRequest
  | .live (.call op _) => op.charge?
  | _ => none

def Charges (c : Config Op PyError Reply World Tid) (t : Tid) (req : ChargeRequest) : Prop :=
  pendingCharge? (c.pool t) = some req

instance : Decidable (Charges c t req) := inferInstanceAs (Decidable (_ = _))

theorem Charges.call (h : Charges c t req) :
    ∃ next, c.pool t = .live (.call (.pgHttp (.send req)) next) := by
  unfold Charges pendingCharge? at h
  split at h
  · rename_i β op next hlive
    unfold Op.charge? at h
    split at h
    · cases h
      exact ⟨next, hlive⟩
    · cases h
  · cases h

/-- Whoever asks the PG has inserted the transaction of the key. -/
theorem charges_inserter (hc : (carPayIn rt).Reachable Policy.any World.Unpaid c)
    (h : Charges c t req) :
    ∃ row, c.state.ledger.transactions req.idempotencyKey = some row ∧ row.insertedBy = t := by
  obtain ⟨next, hlive⟩ := h.call
  -- were the call answered, its request would be in a coherent ledger
  let w : World := { c.state with pgCalls := c.state.pgCalls ++ [⟨t, req, .sent, .waiting⟩] }
  have ha : (carPayIn rt).advance (.call t .answered) c = some
      ⟨w, Function.update c.pool t (.ofProgram (next (.ok c.state.pgCalls.length)))⟩ := by
    simp only [advance, hlive]
    rfl
  have hp : Permits (Policy.any : Policy Op PyError World Tid Start Env) (.call t .answered) c := by
    simp only [Permits, hlive]
    trivial
  have hcoherent : w.ledger.Coherent := coherent_of_reachable within_any (hc.step _ hp ha)
  have hsent : w.ledger.pgCalls c.state.pgCalls.length = some ⟨t, req, .sent, .waiting⟩ := by
    show Exchange.table (c.state.pgCalls ++ [_]) _ = _
    rw [Exchange.table_append]
    exact Function.update_self ..
  obtain ⟨row, hrow, hby, -⟩ := hcoherent.pgCall _ _ hsent
  exact ⟨row, hrow, hby⟩

theorem begin_once {x : Start} {w w' : World} {p : Service Reply}
    (h : w.begin rt x = some (t, p, w')) : p.Once AsksPg := by
  cases x with
  | backend n request =>
      cases h
      exact program_once rt request
  | pg id =>
      obtain ⟨y, -, h⟩ := Option.map_eq_some_iff.mp h
      cases h
      apply Program.Calls.once
      exact (pgFree_of_serves (servePg_serves id _)).bind fun _ => ⟨⟩
  | card id =>
      obtain ⟨y, -, h⟩ := Option.map_eq_some_iff.mp h
      cases h
      apply Program.Calls.once
      exact (pgFree_of_serves (serveCard_serves id _)).bind fun _ => ⟨⟩

theorem inserter_kept (hc : (carPayIn rt).Reachable Policy.any World.Unpaid c)
    (hl : (carPayIn rt).Later Policy.any c c') {key : String}
    (h : ∃ row, c.state.ledger.transactions key = some row ∧ row.insertedBy = t) :
    ∃ row, c'.state.ledger.transactions key = some row ∧ row.insertedBy = t := by
  apply (carPayIn_meets rt within_any).kept (J := fun w =>
    ∃ row, w.ledger.transactions key = some row ∧ row.insertedBy = t) ?_ hc hl h
  rintro w w' - hm ⟨row, hrow, hby⟩
  have hmove : Move Regime.any w.ledger w'.ledger := by
    rcases hm with ⟨t, hs, -⟩ | ⟨hs, -⟩
    · exact .inl ⟨t, hs⟩
    · exact .inr hs
  obtain ⟨row', hrow', hsame⟩ := hmove.grows.transactions key row hrow
  exact ⟨row', hrow', hsame.insertedBy.trans hby⟩

theorem asks_once (hc : (carPayIn rt).Reachable Policy.any World.Unpaid c) (h : Charges c t req)
    {m : Mode PyError} (ha : (carPayIn rt).advance (.call t m) c = some c₁)
    (hl : (carPayIn rt).Later Policy.any c₁ c') (req' : ChargeRequest) : ¬Charges c' t req' := by
  obtain ⟨next, hlive⟩ := h.call
  have honce : (Program.call (.pgHttp (.send req)) next : Service Reply).Once AsksPg := by
    rcases hc.left _ (Φ := fun p => p.Once AsksPg) (fun op next hp => hp.1)
      (fun x s t p s' hb => begin_once hb) t with hidle | hleft
    · rw [hlive] at hidle
      cases hidle
    · exact hleft.2 _ hlive
  have hfree : (c₁.pool t).Left fun p => PgFree p := by
    simp only [advance, hlive] at ha
    split at ha
    · cases ha
    · rename_i r w ho
      cases ha
      simpa using Thread.Left.ofProgram (honce.2 trivial r)
  have hrest := hl.left _ (Φ := fun p => PgFree p) (fun op next hp => hp.2) hfree
  intro h'
  obtain ⟨next', hlive'⟩ := h'.call
  exact (hrest.2 _ hlive').1 trivial

/-- For every idempotency key the PG is asked at most once, whatever is
interleaved, raises or stops, and only by the execution whose row has the key. -/
theorem one_pg_call_per_key (rt : Runtime) {c : Config Op PyError Reply World Tid} {t : Tid}
    {req : ChargeRequest} (hc : (carPayIn rt).Reachable Policy.any World.Unpaid c)
    (h : Charges c t req) :
    (∃ row, c.state.getTransaction req.idempotencyKey = some row ∧ row.insertedBy = t) ∧
      ∀ m c₁ c' t' req', (carPayIn rt).advance (.call t m) c = some c₁ →
        (carPayIn rt).Later Policy.any c₁ c' → Charges c' t' req' →
          req'.idempotencyKey ≠ req.idempotencyKey := by
  have howner := charges_inserter hc h
  refine ⟨howner, ?_⟩
  intro m c₁ c' t' req' ha hl h' hkey
  have hlater : (carPayIn rt).Later Policy.any c c' := by
    apply Later.head _ (.call t m) ?_ ha hl
    obtain ⟨next, hlive⟩ := h.call
    simp only [Permits, hlive]
    trivial
  obtain ⟨row, hrow, hby⟩ := inserter_kept hc hlater howner
  obtain ⟨row', hrow', hby'⟩ := charges_inserter (hlater.reachable _ hc) h'
  rw [hkey] at hrow'
  obtain rfl := Option.some.inj (hrow.symm.trans hrow')
  have hsame : t' = t := hby'.symm.trans hby
  subst hsame
  exact asks_once hc h ha hl req' h'

def Garage.charge : ChargeRequest where
  billingKey := "bk-1"
  amount := 1000
  currency := "KRW"
  idempotencyKey := plainRuntime.sha256 (sessionId ++ "car-1" ++ "1000" ++ "KRW")

/-- The garage's payment is such a call. -/
theorem one_pg_call_per_key_garage : ∃ c req, (carPayIn plainRuntime).Reachable Policy.any
    World.Unpaid c ∧ req.amount = 1000 ∧
      Charges c (.backend 1 (Garage.payment Garage.sessionId 1000)) req ∧
      ∃ row, c.state.getTransaction req.idempotencyKey = some row ∧
        row.insertedBy = .backend 1 (Garage.payment Garage.sessionId 1000) := by
  have hrun : ((carPayIn plainRuntime).run Policy.any (Garage.request 0 (Garage.feeQuery
      Garage.sessionId) 5 ++ Garage.request 1 (Garage.payment Garage.sessionId 1000) 8)
      (boot garage)).any (fun c => decide (Charges c
        (.backend 1 (Garage.payment Garage.sessionId 1000)) Garage.charge)) = true := by
    decide +kernel
  obtain ⟨c, hc, hcharge⟩ := (carPayIn plainRuntime).exists_of_run hrun garage_unpaid
  have hcharge := of_decide_eq_true hcharge
  exact ⟨c, Garage.charge, hc, rfl, hcharge, (one_pg_call_per_key plainRuntime hc hcharge).1⟩

end CarPayIn
