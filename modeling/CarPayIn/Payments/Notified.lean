import CarPayIn.Payments.Effects
import CarPayIn.Payments.Delivery
import CarPayIn.Payments.Backing

/-! # No payment notification is lost

After the success commit only the execution that made it knows that the PMS has
to be told. While it neither stops nor fails in a way it cannot record, every
success is acknowledged or waits in Redis for the retry worker.
-/

namespace CarPayIn

open Process Process.System Store Ledger

variable {rt : Runtime} {t : Tid} {w w' : World}

/-! ## The contract is met -/

theorem World.Unnotified.unpaid (h : w.Unnotified) : w.Unpaid := h.1

/-- Until it starts an execution leaves no trace, and afterwards it owes nothing. -/
def deliveries : Outline PyError Reply World Tid where
  idle t w := Absent t w.ledger
  ended t _ w := Clear t w
  stopped t w := Clear t w

theorem byPayments_moves (hi : w.ledger.ByPayments) (hm : notices.Moves w w') :
    w'.ledger.ByPayments := by
  intro k row hk
  rcases hm with ⟨t, ⟨hstep, -⟩, -, hby⟩ | ⟨⟨hstep, -⟩, -⟩
  · rcases hby with hsame | hpay
    · apply hi k row
      rw [← hk]
      simp [World.ledger, World.getTransaction, hsame]
    · cases hstep.transactions hk with
      | same _ h₀ => exact hi k row h₀
      | opened _ _ _ _ hby => rw [hby]; exact hpay
      | succeeded row₀ _ _ h₀ => exact hi k row₀ h₀
      | failed row₀ _ h₀ => exact hi k row₀ h₀
  · rw [hstep.transactions] at hk
    exact hi k row hk

theorem kept_moves (hm : notices.Moves w w') : Kept w w' := by
  rcases hm with ⟨t, -, hk, -⟩ | ⟨-, hk⟩
  · exact hk
  · exact hk

theorem kept_environment {x : Env} (h : w.environment x = some w') : Kept w w' := by
  cases x with
  | dropPg id | dropCard id | giveUpPg id | giveUpCard id =>
      obtain ⟨xs, -, rfl⟩ := Option.map_eq_some_iff.mp h
      exact .of_same rfl rfl
  | _ => cases h; exact .of_same rfl rfl

theorem kept_begin {x : Start} {p : Service Reply} (h : w.begin rt x = some (t, p, w')) :
    Kept w w' := by
  cases x with
  | backend n request => cases h; exact .refl w
  | pg id | card id =>
      obtain ⟨y, -, h⟩ := Option.map_eq_some_iff.mp h
      cases h
      exact .of_same rfl rfl

theorem reachable_unpaid {c : Config Op PyError Reply World Tid}
    (hc : (carPayIn rt).Reachable deliveryPolicy World.Unnotified c) :
    (carPayIn rt).Reachable deliveryPolicy World.Unpaid c := by
  obtain ⟨w, hw, hl⟩ := hc.later
  exact hl.reachable _ (.boot hw.unpaid)

/-- A started execution has no transaction yet and owes nothing at its end. -/
theorem begin_delivers {x : Start} {p : Service Reply} (h : w.begin rt x = some (t, p, w'))
    (ha : Absent t w.ledger) :
    p.wp ((carPayIn rt).spec deliveryPolicy notices t) (fun _ => Clear t) w' := by
  have hclear : Clear t w := clear_of_noRow ha.untouched.row
  cases x with
  | backend n request =>
      cases h
      exact program_delivers n request w ha.untouched.row
  | pg id =>
      obtain ⟨⟨request, xs⟩, -, h⟩ := Option.map_eq_some_iff.mp h
      cases h
      exact Triple.map (silent_program firm_clear (silent_of_serves (servePg_serves id request))) _ hclear
  | card id =>
      obtain ⟨⟨request, xs⟩, -, h⟩ := Option.map_eq_some_iff.mp h
      cases h
      exact Triple.map (silent_program firm_clear (silent_of_serves (serveCard_serves id request))) _ hclear

theorem carPayIn_delivers (rt : Runtime) :
    (carPayIn rt).Meets deliveryPolicy notices World.Unnotified deliveries where
  init w hw := by
    obtain ⟨hi, habsent⟩ := (carPayIn_meets rt (within_regimeAny deliveryPolicy)).init w hw.unpaid
    refine ⟨⟨hi, ?_, ?_⟩, habsent⟩
    · intro id e he
      rw [hw.2 id] at he
      cases he
    · intro k row hk
      rw [hw.unpaid.tables.1 k] at hk
      cases hk
  moves w w' hi hm := by
    have hledger : (contract Regime.any).Moves w w' := by
      rcases hm with ⟨t, hg, -⟩ | ⟨he, -⟩
      · exact .inl ⟨t, hg⟩
      · exact .inr he
    exact ⟨(carPayIn_meets rt (within_regimeAny deliveryPolicy)).moves w w' hi.1 hledger,
      (kept_moves hm).faithful hi.2.1, byPayments_moves hi.2.2 hm⟩
  idle_stable t w w' hi ha :=
    stable_of_ledger (Γ := Regime.any) (fun _ _ h => h.absent) w w' (contract_interferes hi) ha
  ended_stable t _ := firm_clear.stable
  stopped_stable t := firm_clear.stable
  start x w t p w' hi hb _ ha :=
    ⟨⟨(start_step (within_regimeAny deliveryPolicy) hb ha).1, kept_begin hb⟩,
      fun _ => begin_delivers hb ha⟩
  crash t w hp := clear_of_owes hp
  environment x w w' he hp :=
    ⟨environment_step (within_regimeAny deliveryPolicy) he hp, kept_environment he⟩
  assumed c hc t _ op next m r w hl hp ho :=
    (carPayIn_meets rt (within_regimeAny deliveryPolicy)).guarantee (reachable_unpaid hc) hl hp ho

/-! ## Runs -/

def PaymentsOver (c : Config Op PyError Reply World Tid) : Prop :=
  ∀ n command p, c.pool (.backend n (.processPayment command)) ≠ .live p

/-- Every success has been acknowledged by the PMS or has a retry event from
which the worker resends it; events past their time to live do not count. -/
def World.Notified (w : World) : Prop :=
  ∀ row ∈ w.transactions, row.status = .success →
    (∀ e, w.retries row.txId = some e → e.live w.base.now = true) →
    w.acked row.txId = true ∨ ∃ e, w.retries.read w.base.now row.txId = some e ∧
      e.value.payload.carpayTxId = row.txId

/-- While no execution stops owing a notification and its faults are bearable,
no notification is lost once the payments are over. -/
theorem notification_not_lost (rt : Runtime) {c : Config Op PyError Reply World Tid}
    (hc : (carPayIn rt).Reachable deliveryPolicy World.Unnotified c) (hended : PaymentsOver c) :
    c.state.Notified := by
  obtain ⟨⟨-, hfaithful, hby⟩, hassert⟩ := (carPayIn_delivers rt).sound hc
  intro row hrow hs hlive
  have hfound : c.state.ledger.transactions row.idempotencyKey = some row :=
    (keysUnique_of_reachable (reachable_unpaid hc)).transactions.get?_of_mem hrow
  -- the row's execution is a payment, so it has ended and owes nothing
  have hdelivered : c.state.delivered row.txId = true := by
    have hA := hassert row.insertedBy
    cases hpool : c.pool row.insertedBy with
    | idle =>
        rw [hpool] at hA
        exact (hA.untouched.row _ row hfound rfl).elim
    | ended r =>
        rw [hpool] at hA
        exact hA _ row hfound rfl hs
    | stopped =>
        rw [hpool] at hA
        exact hA _ row hfound rfl hs
    | live p =>
        have hpay := hby _ row hfound
        unfold Tid.isPayment at hpay
        split at hpay
        · rename_i n command htid
          rw [htid] at hpool
          exact (hended n command p hpool).elim
        · cases hpay
  rcases (Bool.or_eq_true _ _).mp hdelivered with hacked | hretry
  · exact .inl hacked
  · obtain ⟨e, he⟩ := Option.isSome_iff_exists.mp hretry
    exact .inr ⟨e, Cache.read_eq_some.mpr ⟨he, hlive e he⟩, hfaithful _ e he⟩

/-! ## The garage -/

theorem garage_unnotified : garage.Unnotified := ⟨garage_unpaid, fun _ => rfl⟩

namespace Garage

def visitors : List Tid :=
  [.backend 0 (feeQuery sessionId), .backend 1 (payment sessionId 1000), .pg 0, .card 0]

/-- The payment up to the success commit, its session completed. -/
def settledRun : List Event :=
  request 0 (feeQuery sessionId) 5 ++ request 1 (payment sessionId 1000) 9 ++ approval 0 ++
    answers (.backend 1 (payment sessionId 1000)) 5

def pmsDown : List Event :=
  settledRun ++ [.call (.backend 1 (payment sessionId 1000)) (.refused (.httpError "pms is down"))] ++
    answers (.backend 1 (payment sessionId 1000)) 1

def crashAfterSuccess : List Event :=
  settledRun ++ [.crash (.backend 1 (payment sessionId 1000))]

theorem visitors_of_starts {es : List Event} (h : (es.filterMap Label.start?).map Start.tid = visitors) :
    ∀ x ∈ es.filterMap Label.start?, ∀ w t p w',
      (carPayIn plainRuntime).begin x w = some (t, p, w') → t ∈ visitors := by
  intro x hx w t p w' hb
  rw [(begin_spec hb).tid, ← h]
  exact List.mem_map_of_mem hx

theorem paymentsOver_of_visitors {c : Config Op PyError Reply World Tid}
    (hrest : ∀ t, t ∉ visitors → c.pool t = .idle)
    (hended : (visitors.all fun t => !(c.pool t).isLive) = true) : PaymentsOver c := by
  intro n command p hlive
  by_cases hv : Tid.backend n (.processPayment command) ∈ visitors
  · have hdead := List.all_eq_true.mp hended _ hv
    rw [hlive] at hdead
    cases hdead
  · rw [hrest _ hv] at hlive
    cases hlive

end Garage

/-- The garage's success waits for the worker after the PMS was down. -/
theorem notification_not_lost_garage : ∃ c, (carPayIn plainRuntime).Reachable deliveryPolicy
    World.Unnotified c ∧ PaymentsOver c ∧ (∃ row ∈ c.state.transactions, row.status = .success ∧
      c.state.acked row.txId = false) ∧ c.state.Notified := by
  have hrun : ((carPayIn plainRuntime).run deliveryPolicy Garage.pmsDown (boot garage)).any
      (fun c => (Garage.visitors.all fun t => !(c.pool t).isLive) &&
        c.state.transactions.any fun row => row.status = .success && !c.state.acked row.txId) = true := by
    decide +kernel
  obtain ⟨c, hc, htest, hrest⟩ := (carPayIn plainRuntime).exists_of_run_among Garage.visitors hrun
    garage_unnotified (Garage.visitors_of_starts rfl)
  obtain ⟨hdead, hwaiting⟩ := (Bool.and_eq_true ..).mp htest
  have hended := Garage.paymentsOver_of_visitors hrest hdead
  refine ⟨c, hc, hended, ?_, notification_not_lost plainRuntime hc hended⟩
  simpa using hwaiting

/-- Nothing is left of the notification when the backend stops after the commit. -/
theorem notification_lost : ¬∀ rt c, (carPayIn rt).Reachable outagePolicy World.Unnotified c →
    PaymentsOver c → c.state.Notified := by
  intro h
  have hrun : ((carPayIn plainRuntime).run outagePolicy Garage.crashAfterSuccess (boot garage)).any
      (fun c => (Garage.visitors.all fun t => !(c.pool t).isLive) &&
        c.state.transactions.any fun row => row.status = .success && !c.state.delivered row.txId) =
        true := by
    decide +kernel
  obtain ⟨c, hc, htest, hrest⟩ := (carPayIn plainRuntime).exists_of_run_among Garage.visitors hrun
    garage_unnotified (Garage.visitors_of_starts rfl)
  obtain ⟨hdead, hlost⟩ := (Bool.and_eq_true ..).mp htest
  obtain ⟨row, hrow, hlost⟩ := List.any_eq_true.mp hlost
  obtain ⟨hs, hlost⟩ : row.status = .success ∧ c.state.delivered row.txId = false := by
    simpa using hlost
  obtain ⟨hacked, hretry⟩ := (Bool.or_eq_false_iff ..).mp hlost
  have hnone : c.state.retries row.txId = none := by simpa using hretry
  rcases h plainRuntime c hc (Garage.paymentsOver_of_visitors hrest hdead) row hrow hs
    (fun e he => by simp [hnone] at he) with ha | ⟨e, he, -⟩
  · simp [hacked] at ha
  · simp [hnone, Cache.read_eq_some] at he

end CarPayIn
