import CarPayIn.Payments.Backing

/-! # A success is final

The outbox row of a payment is committed together with its success. The only
step that takes a success back is the exception handler of the paid branch,
which runs when a call after the commit raises.
-/

namespace CarPayIn

open Process Process.System Store Ledger

namespace Ledger

def steadfast : Regime := { Regime.any with lateFaults := False }

structure OutboxAgrees (ℓ : Ledger) : Prop where
  event : ∀ id n, ℓ.outbox id = some n → n.eventType = "payment.completed"
  succeeded : ∀ id, (∃ n, ℓ.outbox id = some n) ↔
    ∃ k row, ℓ.transactions k = some row ∧ row.txId = id ∧ row.status = .success

variable {Γ : Regime} {t : Tid} {ℓ ℓ' : Ledger} {k : String}

theorem Move.success_kept (h : Move steadfast ℓ ℓ') {row : Transaction}
    (hrow : ℓ.transactions k = some row) (hs : row.status = .success) :
    ℓ'.transactions k = some row := by
  obtain ⟨row', hrow', -⟩ := h.grows.transactions k row hrow
  obtain ⟨t, hstep⟩ := h.transactions hrow'
  cases hstep with
  | same _ h₀ => rw [hrow', ← hrow, h₀]
  | opened _ _ hnone => simp [hrow] at hnone
  | succeeded row₀ _ _ h₀ _ hst =>
      cases hrow.symm.trans h₀
      rw [hs] at hst
      cases hst
  | failed row₀ _ h₀ _ _ hsuccess =>
      cases hrow.symm.trans h₀
      exact (hsuccess hs).elim

theorem OutboxAgrees.setTransaction (ho : OutboxAgrees ℓ) {row : Transaction}
    (hold : ∀ r, ℓ.transactions k = some r → r.status ≠ .success) (hnew : row.status ≠ .success) :
    OutboxAgrees (ℓ.setTransaction k row) := by
  refine ⟨ho.event, fun id => (ho.succeeded id).trans ⟨?_, ?_⟩⟩
  · rintro ⟨k', r, hr, hid, hs⟩
    refine ⟨k', r, ?_, hid, hs⟩
    rw [← hr]
    refine Function.update_of_ne ?_ _ _
    rintro rfl
    exact hold r hr hs
  · rintro ⟨k', r, hr, hid, hs⟩
    rcases update_eq_some.1 hr with ⟨rfl, rfl⟩ | ⟨-, hr⟩
    · exact (hnew hs).elim
    · exact ⟨k', r, hr, hid, hs⟩

theorem OutboxAgrees.succeed (hℓ : Coherent ℓ) (ho : OutboxAgrees ℓ) {row row' : Transaction}
    {note : PaymentNotificationOutbox} (hrow : ℓ.transactions k = some row)
    (hst : row.status = .pending) (hsame : row.Same row') (hs : row'.status = .success)
    (hnote : note.txId = row.txId ∧ note.eventType = "payment.completed") :
    OutboxAgrees ((ℓ.setTransaction k row').enqueue note) := by
  obtain ⟨hid, hevent⟩ := hnote
  have hnew : ℓ.outbox note.txId = none := by
    refine Option.eq_none_iff_forall_ne_some.mpr fun n hn => ?_
    obtain ⟨k', r, hr, hrid, hrs⟩ := (ho.succeeded _).mp ⟨n, hn⟩
    obtain rfl := hℓ.txId k' k r row hr hrow (hrid.trans hid)
    cases hr.symm.trans hrow
    rw [hst] at hrs
    cases hrs
  have henqueue : (ℓ.setTransaction k row').enqueue note = { ℓ.setTransaction k row' with
      outbox := Function.update ℓ.outbox note.txId (some note) } := by
    simp only [enqueue, show (ℓ.setTransaction k row').outbox = ℓ.outbox from rfl, hnew]
  rw [henqueue]
  constructor
  · intro id n hn
    rcases update_eq_some.1 hn with ⟨-, rfl⟩ | ⟨-, hn⟩
    · exact hevent
    · exact ho.event id n hn
  · intro id
    by_cases hk : id = note.txId
    · subst hk
      refine ⟨fun _ => ⟨k, row', setTransaction_self .., hsame.txId.trans hid.symm, hs⟩, fun _ => ?_⟩
      exact ⟨note, Function.update_self ..⟩
    · show (∃ n, Function.update ℓ.outbox note.txId (some note) id = some n) ↔ _
      rw [Function.update_of_ne hk]
      refine (ho.succeeded id).trans ⟨?_, ?_⟩
      · rintro ⟨k', r, hr, rfl, hrs⟩
        refine ⟨k', r, ?_, rfl, hrs⟩
        rw [← hr]
        refine Function.update_of_ne ?_ _ _
        rintro rfl
        cases hr.symm.trans hrow
        exact hk hid.symm
      · rintro ⟨k', r, hr, rfl, hrs⟩
        rcases update_eq_some.1 hr with ⟨-, rfl⟩ | ⟨-, hr⟩
        · exact (hk (hsame.txId.trans hid.symm)).elim
        · exact ⟨k', r, hr, rfl, hrs⟩

theorem OutboxAgrees.move (hℓ : Coherent ℓ) (h : Move steadfast ℓ ℓ') (ho : OutboxAgrees ℓ) :
    OutboxAgrees ℓ' := by
  rcases h with ⟨t, h⟩ | h
  · cases h with
    | openTransaction row hkey hid hby hst =>
        exact ho.setTransaction (by simp [hkey]) (by simp [hst])
    | succeed key row pgTxId approvalNo note hrow hby hst hnote =>
        exact ho.succeed hℓ hrow hst (.of_statusChange ..) rfl hnote
    | fail key row reason hrow hby hpending hsuccess =>
        refine ho.setTransaction (fun r hr => ?_) (by simp [World.statusChange])
        cases hrow.symm.trans hr
        exact hsuccess
    | _ => exact ⟨ho.event, ho.succeeded⟩
  · cases h <;> exact ⟨ho.event, ho.succeeded⟩

end Ledger

/-! ## Runs -/

/-- Once the paid transaction of an execution has succeeded, only a notification
or a publication may raise, and its success is not reported as an error. -/
def steadfastPolicy : Policy Op PyError World Tid Start Env :=
  limitedPolicy (fun _ _ => True) (fun _ _ => True) (fun _ _ => True) fun t _ op m w => early t w op m

instance : steadfastPolicy.Computable := inferInstanceAs (limitedPolicy _ _ _ _).Computable

theorem within_steadfast : Within steadfastPolicy Ledger.steadfast :=
  within_limited (fun _ _ _ => trivial) (fun _ _ _ => trivial) (fun _ _ _ => trivial)
    (fun _ _ _ _ _ _ => trivial) fun _ _ _ _ _ h => .inr h

def SuccessesKept (w w' : World) : Prop :=
  ∀ row ∈ w.transactions, row.status = .success →
    w'.getTransaction row.idempotencyKey = some row

/-- A transaction has an outbox row for its completion exactly when it is a success. -/
def World.OutboxMatches (w : World) : Prop :=
  ∀ row ∈ w.transactions, (∃ n ∈ w.outbox, n.txId = row.txId ∧ n.eventType = "payment.completed") ↔
    row.status = .success

instance (w : World) : Decidable w.OutboxMatches :=
  inferInstanceAs (Decidable (∀ row ∈ w.transactions, _))

/-- In runs whose calls do not raise after a success, a success is final and
agrees with the outbox, whatever raised before it. -/
theorem success_final (rt : Runtime) {c c' : Config Op PyError Reply World Tid}
    (hc : (carPayIn rt).Reachable steadfastPolicy World.Unpaid c)
    (hl : (carPayIn rt).Later steadfastPolicy c c') :
    SuccessesKept c.state c'.state ∧ c.state.OutboxMatches := by
  have hu := keysUnique_of_reachable hc
  constructor
  · intro row hrow hs
    have hkept := (carPayIn_meets rt within_steadfast).kept
      (J := fun w => w.ledger.transactions row.idempotencyKey = some row) ?_ hc hl
      (hu.transactions.get?_of_mem hrow)
    · exact hkept
    · rintro w w' - (⟨t, hstep, -⟩ | ⟨hstep, -⟩) h
      · exact Move.success_kept (.inl ⟨t, hstep⟩) h hs
      · exact Move.success_kept (.inr hstep) h hs
  · have ho : c.state.ledger.OutboxAgrees := by
      refine ledger_invariant within_steadfast ?_ (fun _ _ hℓ h => OutboxAgrees.move hℓ h) hc
      intro w hw
      obtain ⟨h₁, h₂, -⟩ := hw.tables
      constructor <;> simp [h₁, h₂]
    have hℓ := coherent_of_reachable within_steadfast hc
    intro row hrow
    have hfound : c.state.ledger.transactions row.idempotencyKey = some row :=
      hu.transactions.get?_of_mem hrow
    constructor
    · rintro ⟨n, hn, hid, -⟩
      have hsome : c.state.ledger.outbox row.txId ≠ none := fun hnone =>
        get?_eq_none.mp hnone n hn hid
      obtain ⟨n', hn'⟩ := Option.ne_none_iff_exists'.mp hsome
      obtain ⟨k, r, hr, hrid, hrs⟩ := (ho.succeeded _).mp ⟨n', hn'⟩
      obtain rfl := hℓ.txId k _ r row hr hfound hrid
      cases hr.symm.trans hfound
      exact hrs
    · intro hs
      obtain ⟨n, hn⟩ := (ho.succeeded _).mpr ⟨_, row, hfound, rfl, hs⟩
      exact ⟨n, mem_of_get? hn, col_of_get? hn, ho.event _ n hn⟩

/-- The garage's payment stays a success and has its outbox row. -/
theorem success_final_garage : ∃ c, (carPayIn plainRuntime).Reachable steadfastPolicy
    World.Unpaid c ∧ c.state.outbox.length = 1 ∧ SuccessesKept c.state c.state ∧
      c.state.OutboxMatches := by
  have hrun : ((carPayIn plainRuntime).run steadfastPolicy Garage.paidRun (boot garage)).any
      (fun c => decide (c.state.outbox.length = 1)) = true := by decide +kernel
  obtain ⟨c, hc, hlen⟩ := (carPayIn plainRuntime).exists_of_run hrun garage_unpaid
  exact ⟨c, hc, of_decide_eq_true hlen, success_final plainRuntime hc .refl⟩

/-- The PMS refuses the notification and Redis refuses to record that. -/
def Garage.redisDown : List Garage.Event :=
  request 0 (feeQuery sessionId) 5 ++ request 1 (payment sessionId 1000) 9 ++ approval 0 ++
    answers (.backend 1 (payment sessionId 1000)) 5 ++
    [.call (.backend 1 (payment sessionId 1000)) (.refused (.httpError "pms is down")),
      .call (.backend 1 (payment sessionId 1000)) (.refused (.exception "redis is down"))] ++
    answers (.backend 1 (payment sessionId 1000)) 1

/-- The handler then takes the success back and leaves the outbox row. -/
theorem success_taken_back : ¬∀ rt c c', (carPayIn rt).Reachable Policy.any World.Unpaid c →
    (carPayIn rt).Later Policy.any c c' →
      SuccessesKept c.state c'.state ∧ c.state.OutboxMatches := by
  intro h
  have hrun : ((carPayIn plainRuntime).run Policy.any Garage.redisDown (boot garage)).any
      (fun c => !decide c.state.OutboxMatches) = true := by decide +kernel
  obtain ⟨c, hc, hfailed⟩ := (carPayIn plainRuntime).exists_of_run hrun garage_unpaid
  have hnot : ¬c.state.OutboxMatches := by simpa using hfailed
  exact hnot (h plainRuntime c c hc .refl).2

end CarPayIn
