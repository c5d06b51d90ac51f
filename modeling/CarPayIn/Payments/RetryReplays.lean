import CarPayIn.Payments.RetryRecords
import Mathlib.Logic.Function.Basic

/-! # What the worker makes of a record

A record is read as it was written, so the worker calls with the arguments that
were written down. `NotifyPmsPaymentCompleteService` leaves one of them out, and
without it there is no call.
-/

namespace CarPayIn.RetryRecords

open Process Encoding

variable {F : Type}

/-! ## Binding -/

theorem find?_kwargs (a : Arguments F) (p : Parameter) :
    ((Parameter.all.map fun p => (p.name, a p)).find? fun e => e.1 = p.name) =
      some (p.name, a p) := by
  cases p <;> simp [Parameter.all, Parameter.name]

theorem bindArguments_kwargs (a : Arguments F) :
    bindArguments ((Parameter.all.map fun p => (p.name, a p)).map fun e => (text e.1, e.2)) =
      .ok a := by
  have hget (p : Parameter) : get? ((Parameter.all.map fun p => (p.name, a p)).map
      fun e => (text e.1, e.2)) (text p.name) = some (a p) := by
    rw [get?_dict, find?_kwargs]
    rfl
  unfold bindArguments
  rw [if_neg, if_neg]
  · simp only [hget, Option.getD_some]
  · simp only [hget, Option.isNone_some, List.any_eq_true, Bool.false_eq_true, and_false,
      exists_false, not_false_eq_true]
  · simp only [List.map_map, List.any_eq_true, List.mem_map, not_exists, not_and]
    rintro e ⟨p, hp, rfl⟩
    simp only [Function.comp_apply, Bool.not_eq_true', List.any_eq_false, decide_eq_true_eq]
    intro hnone
    exact hnone p hp rfl

theorem bindArguments_missing {kwargs : List (Text × Value F)} {p : Parameter}
    (hp : p ∈ Parameter.all) (h : get? kwargs (text p.name) = none) : ∃ e, bindArguments kwargs = .error e := by
  unfold bindArguments
  split
  · exact ⟨_, rfl⟩
  · refine ⟨_, if_pos ?_⟩
    rw [List.any_eq_true]
    exact ⟨p, hp, by rw [h]; rfl⟩

/-! ## Outcomes of calls -/

/-- The retry records in Redis, the notifications that were tried, and what was recorded. -/
structure Journal (F : Type) where
  retries : String → Option Text
  calls : List (Arguments F) := []
  recorded : List (String × Text) := []

namespace Journal

def record (j : Journal F) (key : String) (value : Text) : Journal F :=
  { j with
    retries := Function.update j.retries key (some value)
    recorded := j.recorded ++ [(key, value)] }

def clear (j : Journal F) (key : String) : Journal F :=
  { j with retries := Function.update j.retries key none }

end Journal

/-- The PMS and the database answer as they like. Redis keeps what is set, and may fail before and
after it has done so. -/
def outcomes : Program.CallSpec (Op F) PyError (Journal F)
  | _, .getTransactionById _, post, j => ∀ r, post r j
  | _, .notifyPaymentComplete arguments, post, j =>
      ∀ r, post r { j with calls := j.calls ++ [arguments] }
  | _, .times _, post, j => ∀ r, post r j
  | _, .set key value _, post, j =>
      (∀ e, post (.error e) j ∧ post (.error e) (j.record key value)) ∧
        post (.ok ()) (j.record key value)
  | _, .get key, post, j => post (.ok (j.retries key)) j
  | _, .delete key, post, j =>
      (∀ e, post (.error e) j ∧ post (.error e) (j.clear key)) ∧ post (.ok ()) (j.clear key)

theorem outcomes_monotone : Program.CallSpec.Monotone (@outcomes F) := by
  intro β op Φ Ψ h j hj
  cases op with
  | getTransactionById txId => exact fun r => h _ _ (hj r)
  | notifyPaymentComplete arguments => exact fun r => h _ _ (hj r)
  | times ttlSeconds => exact fun r => h _ _ (hj r)
  | set key value ttlSeconds =>
      exact ⟨fun e => ⟨h _ _ (hj.1 e).1, h _ _ (hj.1 e).2⟩, h _ _ hj.2⟩
  | get key => exact h _ _ hj
  | delete key => exact ⟨fun e => ⟨h _ _ (hj.1 e).1, h _ _ (hj.1 e).2⟩, h _ _ hj.2⟩

variable (fmt : FloatFormat F)

/-! ## The worker -/

/-- A run of the worker that finds the record calls once, with these arguments. -/
def Replays (key : String) (value : Text) (arguments : Arguments F) : Prop :=
  ∀ j : Journal F, j.retries key = some value →
    (NotifyRetryWorker.retryPayment fmt key).wp outcomes
      (fun _ j' => j'.calls = j.calls ++ [arguments]) j

def Holds (value : Text) (payload : Value F) : Prop :=
  ∃ event, loads fmt value = some (.dict event) ∧ get? event (text "payload") = some payload

variable {fmt}

/-- Up to the call the worker only reads. -/
theorem wp_retryPayment {key : String} {value : Text} {payload : Value F} {j : Journal F}
    (hvalue : Holds fmt value payload) (hj : j.retries key = some value)
    (post : Except PyError Unit → Journal F → Prop) :
    (NotifyRetryWorker.retryPayment fmt key).wp outcomes post j ↔
      (Program.tryCatch (do
        let arguments ← .done (splat payload)
        let _ ← .perform (.notifyPaymentComplete arguments)
        .perform (.delete key)) fun _ => return ()).wp outcomes post j := by
  obtain ⟨event, hloads, hpayload⟩ := hvalue
  have hne : value ≠ [] := by
    rintro rfl
    rw [loads_nil] at hloads
    cases hloads
  unfold NotifyRetryWorker.retryPayment
  simp only [Program.bind_eq, Program.wp_bind, Program.wp_perform, outcomes, hj, if_neg hne, hloads,
    hpayload, Option.getD_some, Program.tryCatch_eq]

theorem replays_of_bound {key : String} {value : Text} {payload : Value F} {a : Arguments F}
    (hvalue : Holds fmt value payload) (ha : splat payload = .ok a) : Replays fmt key value a := by
  intro j hj
  rw [wp_retryPayment hvalue hj, ha, Program.wp_tryCatch]
  simp only [Program.bind_eq, Program.bind, Program.wp_bind, Program.wp_perform, outcomes]
  intro r
  cases r with
  | ok response => exact ⟨fun e => ⟨rfl, rfl⟩, rfl⟩
  | error e => rfl

theorem not_replays_of_unbound {key : String} {value : Text} {payload : Value F} {e : PyError}
    (hvalue : Holds fmt value payload) (he : splat payload = .error e) (a : Arguments F) :
    ¬Replays fmt key value a := by
  intro hreplays
  have hcalls := hreplays ⟨fun _ => some value, [], []⟩ rfl
  rw [wp_retryPayment hvalue rfl, he, Program.wp_tryCatch] at hcalls
  cases hcalls

/-! ## The writers -/

variable (fmt) in
/-- At most one record was added, and it holds the payload. -/
def Recorded (payload : Value F) (j j' : Journal F) : Prop :=
  j'.calls = j.calls ∧ (j'.recorded = j.recorded ∨
    ∃ key value, j'.recorded = j.recorded ++ [(key, value)] ∧ Holds fmt value payload)

variable [DecidableEq F]

/-- The fields of a record, the two of the store included. -/
def fields (eventType txId : String) (payload : Kwargs F) (reason createdAt expiresAt : String) :
    Kwargs F :=
  [("event_type", str eventType), ("tx_id", str txId), ("payload", dict payload),
    ("reason", str reason), ("status", str "pending"), ("created_at", str createdAt),
    ("expires_at", str expiresAt)]

theorem holds_fields {eventType txId reason createdAt expiresAt : String} {payload : Kwargs F}
    {value : Text} (hpayload : Stable (dict payload)) (h : dumps fmt .default
      (dict (fields eventType txId payload reason createdAt expiresAt)) = some value) :
    Holds fmt value (dict payload) := by
  have hstable : Stable (dict (fields eventType txId payload reason createdAt expiresAt)) := by
    apply stable_dict
    · simp [fields]
    · simp only [fields, List.forall_mem_cons, List.not_mem_nil, false_implies, implies_true,
        and_true]
      exact ⟨stable_str _, stable_str _, hpayload, stable_str _, stable_str _, stable_str _,
        stable_str _⟩
  refine ⟨_, loads_dumps_stable fmt hstable h, ?_⟩
  rw [get?_dict]
  simp [fields]

open RedisPaymentNotifyRetryStore in
theorem recordRetryEvent_recorded {payload : Kwargs F} (hpayload : Stable (dict payload))
    (eventType txId reason : String) (ttlSeconds : Nat) (j : Journal F) :
    (recordRetryEvent fmt eventType txId payload reason ttlSeconds).wp outcomes
      (fun _ j' => Recorded fmt (dict payload) j j') j := by
  unfold recordRetryEvent save
  simp only [Program.bind_eq, Program.wp_bind, Program.wp_perform, outcomes]
  intro r
  cases r with
  | error e => exact ⟨rfl, .inl rfl⟩
  | ok times =>
      obtain ⟨createdAt, expiresAt⟩ := times
      simp only [List.cons_append, List.nil_append]
      cases hdumps : dumps fmt .default
          (dict (fields eventType txId payload reason createdAt expiresAt)) with
      | none =>
          rw [fields] at hdumps
          simp only [hdumps]
          exact ⟨rfl, .inl rfl⟩
      | some value =>
          have hrecorded (key : String) : Recorded fmt (dict payload) j (j.record key value) :=
            ⟨rfl, .inr ⟨key, value, rfl, holds_fields hpayload hdumps⟩⟩
          rw [fields] at hdumps
          simp only [hdumps]
          exact ⟨fun e => ⟨⟨rfl, .inl rfl⟩, hrecorded _⟩, hrecorded _⟩

/-! ## The payloads -/

omit [DecidableEq F] in
theorem stable_optional (s : Option String) : Stable (optional s : Value F) := by
  cases s with
  | none => exact stable_null
  | some s => exact stable_str s

namespace ProcessPaymentService

def arguments (uuid : TxId → String) (payment : PaymentComplete) : Arguments F
  | .pmsSessionId => optional payment.pmsSessionId
  | .carpayParkingSessionId => str payment.carpayParkingSessionId
  | .carpayTxId => str (uuid payment.carpayTxId)
  | .amount => .int payment.amount
  | .currency => str payment.currency
  | .approvalNo => optional payment.approvalNo
  | .idempotencyKey => str payment.idempotencyKey

omit [DecidableEq F] in
/-- Nothing is left out. -/
theorem splat_payload (uuid : TxId → String) (payment : PaymentComplete) :
    splat (dict (payload uuid payment) : Value F) = .ok (arguments uuid payment) :=
  bindArguments_kwargs (arguments uuid payment)

omit [DecidableEq F] in
theorem stable_payload (uuid : TxId → String) (payment : PaymentComplete) :
    Stable (dict (payload uuid payment) : Value F) := by
  apply stable_dict
  · simp [payload]
  · simp only [payload, List.forall_mem_cons, List.not_mem_nil, false_implies, implies_true,
      and_true]
    exact ⟨stable_optional _, stable_str _, stable_str _, stable_int _, stable_str _,
      stable_optional _, stable_str _⟩

/-! The rest of the development keeps the events themselves. -/

variable (fmt) in
def recordText (uuid : TxId → String) (event : RetryEvent) (createdAt expiresAt : String) :
    Option Text :=
  dumps fmt .default (dict (fields event.eventType (uuid event.txId) (payload uuid event.payload)
    event.reason createdAt expiresAt))

/-- The worker makes of the text of an event the call that the event stands for. -/
theorem replays_event {uuid : TxId → String} {event : RetryEvent} {createdAt expiresAt : String}
    {value : Text} (h : recordText fmt uuid event createdAt expiresAt = some value) (key : String) :
    Replays fmt key value (arguments uuid event.payload) :=
  replays_of_bound (holds_fields (stable_payload uuid event.payload) h)
    (splat_payload uuid event.payload)

end ProcessPaymentService

namespace NotifyPmsPaymentCompleteService

omit [DecidableEq F] in
/-- The transaction is left out. -/
theorem splat_payload (command : NotifyPmsPaymentCompleteCommand) :
    ∃ e, splat (dict (payload command) : Value F) = .error e := by
  apply bindArguments_missing (p := .carpayTxId) (by decide)
  rw [get?_dict]
  simp [payload, Parameter.name]

omit [DecidableEq F] in
theorem stable_payload (command : NotifyPmsPaymentCompleteCommand) :
    Stable (dict (payload command) : Value F) := by
  apply stable_dict
  · simp [payload]
  · simp only [payload, List.forall_mem_cons, List.not_mem_nil, false_implies, implies_true,
      and_true]
    exact ⟨stable_str _, stable_str _, stable_int _, stable_str _, stable_str _, stable_str _⟩

end NotifyPmsPaymentCompleteService

/-! ## Recorded and replayed -/

inductive Writer where
  | processPayment (payment : PaymentComplete)
  | notifyPmsPaymentComplete (command : NotifyPmsPaymentCompleteCommand)
deriving DecidableEq, Repr

namespace Writer

variable (fmt) in
def program (uuid : TxId → String) : Writer → Service F Unit
  | processPayment payment => ProcessPaymentService.notifyPmsPaymentComplete fmt uuid payment
  | notifyPmsPaymentComplete command => do
      let _ ← NotifyPmsPaymentCompleteService.execute fmt command

def isProcessPayment : Writer → Bool
  | processPayment _ => true
  | notifyPmsPaymentComplete _ => false

end Writer

def Journal.start (retries : String → Option Text) : Journal F := { retries := retries }

variable (fmt) in
/-- What was recorded is the one call that was made, which the worker repeats or does not. -/
def RecordsReplayed (replayed : Bool) (j : Journal F) : Prop :=
  ∀ record ∈ j.recorded, ∃ a, j.calls = [a] ∧
    (Replays fmt record.1 record.2 a ↔ replayed = true)

omit [DecidableEq F] in
theorem RecordsReplayed.of_none {replayed : Bool} {j : Journal F} (h : j.recorded = []) :
    RecordsReplayed fmt replayed j := by
  intro record hrecord
  rw [h] at hrecord
  cases hrecord

omit [DecidableEq F] in
theorem Recorded.replayed {replayed : Bool} {payload : Value F} {a : Arguments F}
    {j j' : Journal F} (h : Recorded fmt payload j j') (hj : j.recorded = [])
    (hcalls : j.calls = [a]) (hreplays : ∀ key value, Holds fmt value payload →
      (Replays fmt key value a ↔ replayed = true)) : RecordsReplayed fmt replayed j' := by
  obtain ⟨hsame, hnone | ⟨key, value, hone, hholds⟩⟩ := h
  · exact .of_none (hnone.trans hj)
  · intro record hrecord
    rw [hone, hj, List.nil_append, List.mem_singleton] at hrecord
    subst hrecord
    exact ⟨a, hsame.trans hcalls, hreplays key value hholds⟩

theorem processPayment_replayed (uuid : TxId → String) (payment : PaymentComplete)
    (retries : String → Option Text) :
    (ProcessPaymentService.notifyPmsPaymentComplete fmt uuid payment).wp outcomes
      (fun _ j => RecordsReplayed fmt true j) (.start retries) := by
  have hreplays (key : String) (value : Text)
      (hvalue : Holds fmt value (dict (ProcessPaymentService.payload uuid payment))) :
      Replays fmt key value (ProcessPaymentService.arguments uuid payment) :=
    replays_of_bound hvalue (ProcessPaymentService.splat_payload uuid payment)
  unfold ProcessPaymentService.notifyPmsPaymentComplete
  simp only [Program.bind_eq, Program.wp_bind, Program.wp_attempt,
    ProcessPaymentService.splat_payload, Program.wp_done, Program.wp_perform, outcomes]
  intro r
  cases r with
  | ok response =>
      have hclear (j : Journal F) (h : j.recorded = []) : RecordsReplayed fmt true j := .of_none h
      exact ⟨fun e => ⟨hclear _ rfl, hclear _ rfl⟩, hclear _ rfl⟩
  | error exc =>
      apply Program.wp_mono outcomes_monotone _ _ _
        (recordRetryEvent_recorded (ProcessPaymentService.stable_payload uuid payment) ..)
      intro r j hrecorded
      exact hrecorded.replayed rfl rfl fun key value hvalue =>
        iff_of_true (hreplays key value hvalue) rfl

theorem notifyPmsPaymentComplete_not_replayed (command : NotifyPmsPaymentCompleteCommand)
    (retries : String → Option Text) :
    (NotifyPmsPaymentCompleteService.execute fmt command).wp outcomes
      (fun _ j => RecordsReplayed fmt false j) (.start retries) := by
  obtain ⟨unbound, hunbound⟩ := NotifyPmsPaymentCompleteService.splat_payload (F := F) command
  let j : Journal F := ⟨retries, [NotifyPmsPaymentCompleteService.arguments command], []⟩
  have hreplays (key : String) (value : Text)
      (hvalue : Holds fmt value (dict (NotifyPmsPaymentCompleteService.payload command))) :
      ¬Replays fmt key value (NotifyPmsPaymentCompleteService.arguments command) :=
    not_replays_of_unbound hvalue hunbound _
  -- Both a call that raises and an answer that is no object end here.
  have hfailed (e : PyError) : (NotifyPmsPaymentCompleteService.recordFailure fmt command e).wp
      outcomes (fun _ j => RecordsReplayed fmt false j) j := by
    rw [NotifyPmsPaymentCompleteService.recordFailure, Program.bind_eq, Program.wp_bind]
    apply Program.wp_mono outcomes_monotone _ _ _
      (recordRetryEvent_recorded (NotifyPmsPaymentCompleteService.stable_payload command) ..)
    intro r j' hrecorded
    have hj' : RecordsReplayed fmt false j' := hrecorded.replayed rfl rfl fun key value hvalue =>
      iff_of_false (hreplays key value hvalue) nofun
    cases r with
    | ok u => exact hj'
    | error e => exact hj'
  unfold NotifyPmsPaymentCompleteService.execute NotifyPmsPaymentCompleteService.notify
  simp only [Program.bind_eq, Program.wp_bind, Program.wp_perform, outcomes]
  intro r
  cases r with
  | error e => exact .of_none rfl
  | ok tx =>
      by_cases htx : tx ≠ some "success"
      · simp only [if_pos htx]
        exact .of_none rfl
      · simp only [if_neg htx, Program.wp_bind, Program.wp_attempt, Program.wp_perform, outcomes]
        intro response
        cases response with
        | error e => exact hfailed e
        | ok response =>
            cases hconflict : isConflict response with
            | error e =>
                simp only [hconflict, Program.wp_done]
                exact hfailed e
            | ok conflict =>
                simp only [hconflict, Program.wp_done]
                exact .of_none rfl

/-- A recorded notification is repeated with the arguments of the call that failed if
`ProcessPaymentService` has recorded it, and not otherwise. -/
theorem replays_iff_processPayment (fmt : FloatFormat F) (uuid : TxId → String) (writer : Writer)
    (retries : String → Option Text) :
    (writer.program fmt uuid).wp outcomes
      (fun _ j => RecordsReplayed fmt writer.isProcessPayment j) (.start retries) := by
  cases writer with
  | processPayment payment => exact processPayment_replayed uuid payment retries
  | notifyPmsPaymentComplete command =>
      rw [Writer.program, Program.bind_eq, Program.wp_bind]
      apply Program.wp_mono outcomes_monotone _ _ _
        (notifyPmsPaymentComplete_not_replayed command retries)
      intro r j hj
      cases r with
      | ok result => exact hj
      | error e => exact hj

def lostNotification : NotifyPmsPaymentCompleteCommand where
  pmsSessionId := "pms-session-1"
  carpayParkingSessionId := "parking-session-1"
  carpayTxId := "tx-1"
  amount := 5000
  currency := "KRW"
  approvalNo := "A-1"
  idempotencyKey := "key-1"

def lostFields : Kwargs Unit :=
  fields "pms_payment_notify" lostNotification.carpayTxId
    (NotifyPmsPaymentCompleteService.payload lostNotification) "pms_notify_failed: timed out"
    "2025-01-01T00:00:00+00:00" "2025-01-08T00:00:00+00:00"

theorem dumps_lostFields : ∃ value, dumps noFloats .default (dict lostFields) = some value := by
  have hprint : printable (dict lostFields) = true := by
    simp [printable, printableEntries, dict, str, lostFields, fields, lostNotification, decimal,
      maxStrDigits, NotifyPmsPaymentCompleteService.payload]
  exact ⟨_, if_pos hprint⟩

/-- The PMS does not answer in time, and the worker cannot make the call that was recorded. -/
theorem lostNotification_not_replayed :
    ¬(NotifyPmsPaymentCompleteService.execute noFloats lostNotification).wp outcomes
      (fun _ j => RecordsReplayed noFloats true j) (.start fun _ => none) := by
  intro h
  unfold NotifyPmsPaymentCompleteService.execute NotifyPmsPaymentCompleteService.notify at h
  simp only [Program.bind_eq, Program.wp_bind, Program.wp_perform, outcomes] at h
  have hsuccess := h (.ok (some "success"))
  simp only [ne_eq, not_true_eq_false, if_false, Program.wp_bind, Program.wp_attempt,
    Program.wp_perform, outcomes] at hsuccess
  have htimeout := hsuccess (.error (.runtimeError "pms_notify_failed: timed out"))
  simp only [NotifyPmsPaymentCompleteService.recordFailure,
    RedisPaymentNotifyRetryStore.recordRetryEvent, save, Program.bind_eq, Program.wp_bind,
    Program.wp_perform, outcomes] at htimeout
  have htimes := htimeout (.ok ("2025-01-01T00:00:00+00:00", "2025-01-08T00:00:00+00:00"))
  obtain ⟨value, hdumps⟩ := dumps_lostFields
  have hholds := holds_fields (NotifyPmsPaymentCompleteService.stable_payload _) hdumps
  let j : Journal Unit :=
    ⟨fun _ => none, [NotifyPmsPaymentCompleteService.arguments lostNotification], []⟩
  have hset : RecordsReplayed noFloats true
      (j.record ("pms_payment_retry:" ++ lostNotification.carpayTxId) value) := by
    rw [lostFields, fields] at hdumps
    simp only [List.cons_append, List.nil_append, PyError.str, hdumps] at htimes
    exact htimes.2
  obtain ⟨a, -, hreplays⟩ := hset _ (List.mem_append_right _ (List.mem_singleton_self _))
  obtain ⟨e, he⟩ := NotifyPmsPaymentCompleteService.splat_payload (F := Unit) lostNotification
  exact not_replays_of_unbound hholds he a (hreplays.mpr rfl)

end CarPayIn.RetryRecords
