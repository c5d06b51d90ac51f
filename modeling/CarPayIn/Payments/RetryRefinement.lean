import CarPayIn.Process.Refinement
import CarPayIn.Payments.RetryReplays
import CarPayIn.Payments.System

/-! # Texts in Redis and the events they stand for

The other modules keep the events of failed notifications themselves, as values.
What the writer and the worker do with the texts refines what they do there:
from a text that stands for the stored event, every outcome is one of the
program over events, and leaves a text that stands for the event it leaves.
-/

namespace CarPayIn.RetryRecords

open Process Process.Program Process.System Encoding Store

variable {F : Type} {fmt : FloatFormat F} {uuid : TxId → String} {txId : TxId}
  {rt : Runtime} {t : Tid} {w : World} {j : Journal F}

/-- The calls of an execution that nothing comes between. -/
def uninterrupted (rt : Runtime) (t : Tid) : CallSpec CarPayIn.Op PyError World :=
  fun op Φ w => ∀ m r w', (carPayIn rt).outcome t op m w = some (r, w') → Φ r w'

theorem uninterrupted_monotone : CallSpec.Monotone (@uninterrupted rt t) :=
  fun _ _ _ _ h _ hw m r w' ho => h r w' (hw m r w' ho)

def retryKey (uuid : TxId → String) (txId : TxId) : String := "pms_payment_retry:" ++ uuid txId

variable (fmt uuid) in
def StandsFor (event : RetryEvent) (value : Text) : Prop :=
  Holds fmt value (dict (ProcessPaymentService.payload uuid event.payload))

/-- The same event or none under the key of the transaction, and every notification that the PMS
has acknowledged among the calls. -/
structure Mirrors (fmt : FloatFormat F) (uuid : TxId → String) (txId : TxId) (w : World)
    (j : Journal F) : Prop where
  absent : w.retries.read w.base.now txId = none → j.retries (retryKey uuid txId) = none
  present : ∀ e, w.retries.read w.base.now txId = some e →
    ∃ value, j.retries (retryKey uuid txId) = some value ∧ StandsFor fmt uuid e.value value
  calls : ∀ payment ∈ w.acknowledged, ProcessPaymentService.arguments uuid payment ∈ j.calls

abbrev RefinesEvents (fmt : FloatFormat F) (uuid : TxId → String) (txId : TxId) (rt : Runtime)
    (t : Tid) {α β : Type} (V : α → β → Prop) (p : CarPayIn.Service α) (q : Service F β) : Prop :=
  Refines (uninterrupted rt t) outcomes (Mirrors fmt uuid txId) V p q

/-! ## Calls -/

theorem mirrors_called (h : Mirrors fmt uuid txId w j) (a : Arguments F) :
    Mirrors fmt uuid txId w { j with calls := j.calls ++ [a] } :=
  ⟨h.absent, h.present, fun payment hp => List.mem_append_left _ (h.calls payment hp)⟩

/-- The PMS answers, or the call fails without an effect that matters here. -/
theorem notify_refines (payment : PaymentComplete) :
    RefinesEvents fmt uuid txId rt t (fun _ _ => True)
      (Service.call (.notifyPaymentComplete payment))
      (.perform (.notifyPaymentComplete (ProcessPaymentService.arguments uuid payment))) := by
  intro w j hR post h r
  cases r with
  | error e => exact h (.refused e) _ _ rfl _ _ (mirrors_called hR _) (.error e)
  | ok response =>
      refine h .answered _ _ rfl _ _ ?_ (.ok trivial)
      refine ⟨hR.absent, hR.present, ?_⟩
      rw [List.forall_mem_cons]
      exact ⟨List.mem_append_right _ (.head _), fun p hp => List.mem_append_left _ (hR.calls p hp)⟩

theorem read_refines : RefinesEvents fmt uuid txId rt t
    (fun (found : Option RetryEvent) (raw : Option Text) => (found = none ∧ raw = none) ∨
      ∃ event value, found = some event ∧ raw = some value ∧ StandsFor fmt uuid event value)
    (Store.read CarPayIn.Op.retries txId) (.perform (.get (retryKey uuid txId))) := by
  intro w j hR post h
  refine h .answered _ _ rfl _ _ hR (.ok ?_)
  cases hread : w.retries.read w.base.now txId with
  | none => exact .inl ⟨rfl, hR.absent hread⟩
  | some e =>
      obtain ⟨value, hvalue, hstands⟩ := hR.present e hread
      exact .inr ⟨e.value, value, rfl, hvalue, hstands⟩

theorem delete_refines : RefinesEvents fmt uuid txId rt t (fun _ _ => True)
    (Store.delete CarPayIn.Op.retries txId) (.perform (.delete (retryKey uuid txId))) := by
  intro w j hR post h
  have hcleared : Mirrors fmt uuid txId
      { w with retries := Function.update w.retries txId none } (j.clear (retryKey uuid txId)) := by
    refine ⟨fun _ => ?_, fun e he => ?_, hR.calls⟩
    · simp [Journal.clear]
    · simp [Cache.read] at he
  refine ⟨fun e => ⟨?_, ?_⟩, ?_⟩
  · exact h (.refused e) _ _ rfl _ _ hR (.error e)
  · exact h (.lost e) _ _ rfl _ _ hcleared (.error e)
  · exact h .answered _ _ rfl _ _ hcleared (.ok trivial)

/-! ## The worker -/

theorem retryPayment_refines (txId : TxId) : RefinesEvents fmt uuid txId rt t (fun _ _ => True)
    (CarPayIn.NotifyRetryWorker.retryPayment txId)
    (NotifyRetryWorker.retryPayment fmt (retryKey uuid txId)) := by
  unfold CarPayIn.NotifyRetryWorker.retryPayment NotifyRetryWorker.retryPayment
  apply Refines.bind uninterrupted_monotone read_refines
  rintro found raw (⟨rfl, rfl⟩ | ⟨event, value, rfl, rfl, record, hloads, hpayload⟩)
  · exact .done (.ok trivial)
  · have hne : value ≠ [] := by
      rintro rfl
      rw [loads_nil] at hloads
      cases hloads
    simp only [if_neg hne, hloads, hpayload, Option.getD_some, ProcessPaymentService.splat_payload]
    apply Refines.tryCatch uninterrupted_monotone
    · exact (notify_refines event.payload).bind uninterrupted_monotone fun _ _ _ => delete_refines
    · exact fun e => .done (.ok trivial)

/-! ## The writer -/

variable [DecidableEq F]

/-- The text of an event, or an error when it has an integer too long to be written. -/
theorem save_refines (event : RetryEvent) (htx : event.txId = txId) {ttlSeconds : Nat}
    (httl : 0 < ttlSeconds) : RefinesEvents fmt uuid txId rt t (fun _ _ => True)
      (Store.save CarPayIn.Op.retries txId event ttlSeconds)
      (RedisPaymentNotifyRetryStore.recordRetryEvent fmt event.eventType (uuid event.txId)
        (ProcessPaymentService.payload uuid event.payload) event.reason ttlSeconds) := by
  subst htx
  intro w j hR post h
  let entry : Entry RetryEvent := ⟨event, some (w.base.now + 1000 * ttlSeconds)⟩
  have hrecorded : ∀ value, StandsFor fmt uuid event value → Mirrors fmt uuid event.txId
      { w with retries := Function.update w.retries event.txId (some entry) }
      (j.record (retryKey uuid event.txId) value) := by
    intro value hstands
    have hread : Cache.read w.base.now (Function.update w.retries event.txId (some entry))
        event.txId = some entry := by
      simp [entry, Cache.read, Entry.live, httl]
    refine ⟨fun hnone => ?_, fun e he => ?_, hR.calls⟩
    · cases hread.symm.trans hnone
    · cases hread.symm.trans he
      exact ⟨value, by simp [Journal.record], hstands⟩
  unfold RedisPaymentNotifyRetryStore.recordRetryEvent save
  simp only [Program.bind_eq, Program.wp_bind, Program.wp_perform, outcomes]
  intro r
  cases r with
  | error e => exact h (.refused e) _ _ rfl _ _ hR (.error e)
  | ok times =>
      obtain ⟨createdAt, expiresAt⟩ := times
      simp only [List.cons_append, List.nil_append]
      cases hdumps : ProcessPaymentService.recordText fmt uuid event createdAt expiresAt with
      | none =>
          rw [ProcessPaymentService.recordText, fields] at hdumps
          simp only [hdumps]
          exact h (.refused _) _ _ rfl _ _ hR (.error _)
      | some value =>
          have hstands : StandsFor fmt uuid event value :=
            holds_fields (ProcessPaymentService.stable_payload uuid event.payload) hdumps
          rw [ProcessPaymentService.recordText, fields] at hdumps
          simp only [hdumps]
          refine ⟨fun e => ⟨?_, ?_⟩, ?_⟩
          · exact h (.refused e) _ _ rfl _ _ hR (.error e)
          · exact h (.lost e) _ _ rfl _ _ (hrecorded value hstands) (.error e)
          · exact h .answered _ _ rfl _ _ (hrecorded value hstands) (.ok trivial)

theorem notifyPmsPaymentComplete_refines (payment : PaymentComplete) :
    RefinesEvents fmt uuid payment.carpayTxId rt t (fun _ _ => True)
      (CarPayIn.ProcessPaymentService.notifyPmsPaymentComplete payment)
      (ProcessPaymentService.notifyPmsPaymentComplete fmt uuid payment) := by
  unfold CarPayIn.ProcessPaymentService.notifyPmsPaymentComplete
    ProcessPaymentService.notifyPmsPaymentComplete
  simp only [Program.bind_eq, ProcessPaymentService.splat_payload]
  apply Refines.bind uninterrupted_monotone
  · exact (notify_refines payment).attempt uninterrupted_monotone
  · intro r r' hagree
    cases hagree with
    | ok hv => exact delete_refines
    | error exc => exact save_refines ⟨_, _, payment, exc.str⟩ rfl (by decide)

end CarPayIn.RetryRecords
