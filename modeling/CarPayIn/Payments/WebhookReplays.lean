import CarPayIn.Payments.EntryWebhooks
import CarPayIn.Payments.SettledOrders
import CarPayIn.Pms.ParkedCars
import CarPayIn.Pms.PaymentReplays

/-! # Signed webhooks that come again

A payment notification leaves a row with its key, a card webhook an order that
is not pending, an entry webhook a session with its PMS id, and no operation
takes these away. Only an entry webhook that was answered with the active
session of the car, another entry's, leaves nothing by which it is known again.
-/

namespace CarPayIn

open Process Process.System Store Service

variable {rt : Runtime} {t t' : Tid} {w w' w₀ w₁ w₂ w₃ : World} {α β : Type}

/-! ## Records -/

/-- No session, billing key, payment or order record has changed. -/
structure RecordsKept (w w' : World) : Prop where
  parkingSessions : w'.base.parkingSessions = w.base.parkingSessions
  billingKeys : w'.base.billingKeys = w.base.billingKeys
  cardOrders : w'.base.cardOrders = w.base.cardOrders
  transactions : w'.transactions = w.transactions
  outbox : w'.outbox = w.outbox
  pgTransactions : w'.pgTransactions = w.pgTransactions
  cardTransactions : w'.cardTransactions = w.cardTransactions

theorem RecordsKept.refl (w : World) : RecordsKept w w := ⟨rfl, rfl, rfl, rfl, rfl, rfl, rfl⟩

theorem RecordsKept.drift (h : RecordsKept w₀ w) (hd : (carPayIn rt).Drifts Policy.any w w') :
    RecordsKept w₀ w' := by
  obtain ⟨h₁, h₂, h₃, h₄, h₅, h₆, h₇⟩ := h
  obtain ⟨x, -, hx⟩ := hd
  cases x with
  | dropPg id | dropCard id | giveUpPg id | giveUpCard id =>
      obtain ⟨xs, -, rfl⟩ := Option.map_eq_some_iff.mp hx
      exact ⟨h₁, h₂, h₃, h₄, h₅, h₆, h₇⟩
  | _ =>
      cases hx
      exact ⟨h₁, h₂, h₃, h₄, h₅, h₆, h₇⟩

theorem recordsKept_reads {p : BaseService α} (hp : Effects [] p) :
    Alone rt t (RecordsKept w₀) (base p) (fun _ => RecordsKept w₀) := by
  apply solo_keeps fun _ _ hd h => h.drift hd
  apply Program.Calls.lift
  apply Program.Calls.mono hp
  intro β op hop w r w' hw he
  have hnothing : op.effect = .nothing := by simpa using hop
  have he : w.exec t (.base op) = some (r, w') := he
  obtain ⟨-, rfl⟩ := exec_base he
  rw [Base.exec_of_nothing hnothing]
  exact hw

/-! ## Entry webhooks -/

def World.knowsPms (w : World) (pmsSessionId : String) : Bool :=
  (w.base.getSessionByPmsSessionId pmsSessionId).isSome

/-- The webhook is answered with the active session of its car, which was opened
under another PMS id. -/
def World.answersActive (w : World) (command : HandleEntryWebhookCommand) : Bool :=
  !w.knowsPms command.pmsSessionId && (w.entryLookup command).isSome

theorem knowsPms_of_same {pmsSessionId : String}
    (h : w'.base.parkingSessions = w.base.parkingSessions) :
    w'.knowsPms pmsSessionId = w.knowsPms pmsSessionId := by
  unfold World.knowsPms Base.getSessionByPmsSessionId
  rw [h]

theorem knowsPms_of_opened {id : Uuid} {command : HandleEntryWebhookCommand}
    (h : w.Opened id command) : w.knowsPms command.pmsSessionId = true := by
  obtain ⟨s, hs, -, -, hpms⟩ := h
  have hmem : s ∈ w.base.parkingSessions := mem_of_get? hs
  unfold World.knowsPms Base.getSessionByPmsSessionId
  by_contra hnone
  have hnone := get?_eq_none.mp (Option.not_isSome_iff_eq_none.mp hnone)
  exact hnone s hmem hpms

theorem knowsPms_iff {pmsSessionId : String} : w.knowsPms pmsSessionId = true ↔
    some pmsSessionId ∈ w.base.parkingSessions.map ParkingSession.pmsSessionId := by
  unfold World.knowsPms Base.getSessionByPmsSessionId
  rw [Option.isSome_iff_ne_none, ne_eq, get?_eq_none]
  simp

theorem World.exec_knowsPms {pmsSessionId : String} {op : Op β} {r : Except PyError β}
    (he : w.exec t op = some (r, w')) (h : w.knowsPms pmsSessionId = true) :
    w'.knowsPms pmsSessionId = true := by
  rw [knowsPms_iff] at h ⊢
  cases World.exec_session he with
  | kept hrows => rwa [hrows]
  | created row hnew hadmits hrows =>
      rw [hrows]
      exact List.mem_cons_of_mem _ h
  | committed id change hcommit hrows =>
      rw [hrows]
      obtain ⟨s, hs, hpms⟩ := List.mem_map.mp h
      refine List.mem_map.mpr ⟨_, List.mem_map_of_mem hs, ?_⟩
      rw [← hpms]
      split <;> rfl

theorem knowsPms_drifts {pmsSessionId : String} (hd : (carPayIn rt).Drifts Policy.any w w')
    (h : w.knowsPms pmsSessionId = true) : w'.knowsPms pmsSessionId = true := by
  obtain ⟨x, -, hx⟩ := hd
  obtain ⟨now, outside, scanned, -, hb⟩ := environment_base hx
  have hsame : w'.base.parkingSessions = w.base.parkingSessions := by rw [hb]
  rwa [knowsPms_of_same hsame]

/-- A confirmation is known again, unless it is one of another entry's session. -/
theorem entryWebhook_known {command : HandleEntryWebhookCommand}
    (hown : w₀.answersActive command = false) :
    Alone rt t (Drifted w₀) (base (HandleEntryWebhookService.execute rt command))
      (fun r w => ∀ id, r = .ok ⟨"confirmed", some id⟩ → w.knowsPms command.pmsSessionId = true) := by
  apply entryWebhook_rule
  · exact fun e w id h => by cases h
  · intro w id h
    simp at h
  · intro _ s w hs hw id _
    rw [knowsPms_of_same hw.parkingSessions]
    simpa [World.answersActive, hs] using hown
  · intro carId
    apply Triple.conseq (openSession_alone command carId) (fun _ h => h)
    exact fun r w hr id hid => knowsPms_of_opened (hr id hid)

theorem entryWebhook_again (command : HandleEntryWebhookCommand) :
    Alone rt t (fun w => w.knowsPms command.pmsSessionId = true ∧ RecordsKept w₀ w)
      (base (HandleEntryWebhookService.execute rt command)) (fun _ => RecordsKept w₀) := by
  have hdrift : ∀ w w', (carPayIn rt).Drifts Policy.any w w' →
      w.knowsPms command.pmsSessionId = true ∧ RecordsKept w₀ w →
        w'.knowsPms command.pmsSessionId = true ∧ RecordsKept w₀ w' :=
    fun w w' hd h => ⟨knowsPms_drifts hd h.1, h.2.drift hd⟩
  unfold HandleEntryWebhookService.execute
  simp only [Program.bind_eq, base_bind]
  apply Triple.seq
  · apply Triple.conseq (ask_alone (.verifySignature command.signatureTimestamp command.pmsToken)
      rfl hdrift) (fun _ h => h)
    exact fun r w hr => hr.1
  · exact fun e w h => h.2
  intro valid
  split
  · exact .done fun w h => h.2
  split
  · exact .done fun w h => h.2
  rw [base_bind]
  apply Triple.bind (M := fun (found : Option ParkingSession) w => RecordsKept w₀ w ∧
    found.isSome = true)
  · apply Triple.conseq (ask_alone (.getSessionByPmsSessionId command.pmsSessionId) rfl hdrift)
      (fun _ h => h)
    intro r w hr
    cases r with
    | error e => exact hr.1.2
    | ok found =>
        have hfound : w.base.getSessionByPmsSessionId command.pmsSessionId = found :=
          Except.ok.inj (hr.2 found rfl)
        refine ⟨hr.1.2, ?_⟩
        rw [← hfound]
        exact hr.1.1
  intro found
  cases found with
  | some existing => exact .done fun w h => h.1
  | none =>
      intro w h
      cases h.2

theorem entry_replay {command : HandleEntryWebhookCommand} {id : Uuid}
    {r : Except PyError HandleEntryWebhookResult} (hown : w₀.answersActive command = false)
    (hfirst : (carPayIn rt).Finishes Policy.any t
      (base (HandleEntryWebhookService.execute rt command)) w₀ (.ok ⟨"confirmed", some id⟩) w₁)
    (hlater : (carPayIn rt).Serial Policy.any (fun w => w = w₁) w₂)
    (hagain : (carPayIn rt).Finishes Policy.any t'
      (base (HandleEntryWebhookService.execute rt command)) w₂ r w₃) : RecordsKept w₂ w₃ := by
  have hknown : w₁.knowsPms command.pmsSessionId = true :=
    wp_finishes hfirst (entryWebhook_known hown w₀ (.refl w₀)) id rfl
  have hstill : w₂.knowsPms command.pmsSessionId = true := by
    apply hlater.kept (J := fun w => w.knowsPms command.pmsSessionId = true)
    · intro w hw
      rw [hw]
      exact hknown
    · exact fun w w' hd h => knowsPms_drifts hd h
    · intro x w t p w' hb h
      have hsame := congrArg Base.parkingSessions (begin_spec hb).base
      rwa [knowsPms_of_same hsame]
    · exact fun t β op w r w' h he => World.exec_knowsPms he h
  exact wp_finishes hagain (entryWebhook_again command w₂ ⟨hstill, .refl w₂⟩)

/-! ## Card webhooks -/

theorem cardWebhook_again (command : HandleCardWebhookCommand) :
    Alone rt t (fun w => RecordsKept w₀ w ∧ w.SettledOrder command.orderId)
      (base (HandleCardWebhookService.execute command)) (fun _ => RecordsKept w₀) := by
  have hdrift : ∀ w w', (carPayIn rt).Drifts Policy.any w w' →
      RecordsKept w₀ w ∧ w.SettledOrder command.orderId →
        RecordsKept w₀ w' ∧ w'.SettledOrder command.orderId :=
    fun w w' hd h => ⟨h.1.drift hd, settledOrder_drifts hd h.2⟩
  apply cardWebhook_rule (M := fun found w => RecordsKept w₀ w ∧
    ∀ order, found = some order → order.status ≠ .pending)
  · exact fun _ _ h => h.1
  · apply Triple.conseq (ask_alone (.verifySignature command.signatureTimestamp command.signature)
      rfl hdrift) (fun _ h => h)
    exact fun r w hr => hr.1
  · apply Triple.conseq (readOrder_alone command.orderId hdrift) (fun _ h => h)
    intro r w ⟨⟨hkept, hsettled⟩, hr⟩
    cases r with
    | error e => exact hkept
    | ok found =>
        refine ⟨hkept, fun order hfound => ?_⟩
        obtain ⟨e, he, rfl⟩ := Option.map_eq_some_iff.mp ((hr found rfl).trans hfound)
        obtain ⟨he, hlive⟩ := Cache.read_eq_some.mp he
        obtain ⟨e', he', hdone⟩ := hsettled
        rw [he] at he'
        cases he'
        simpa [hlive] using hdone
  · intro found _
    apply Triple.conseq (recordsKept_reads (HandleCardWebhookService.recheck_effects command))
    · exact fun w h => h.1
    · exact fun r w h => h
  · intro order hpending w h
    exact (h.2 order rfl hpending).elim

/-- After a card webhook has gone through and whatever else has happened, the
same one changes no record. -/
theorem card_replay {command : HandleCardWebhookCommand} {r : Except PyError Unit}
    (hbefore : (carPayIn rt).Serial Policy.any World.FreshOrders w₀)
    (hfirst : (carPayIn rt).Finishes Policy.any t
      (base (HandleCardWebhookService.execute command)) w₀ (.ok ()) w₁)
    (hlater : (carPayIn rt).Serial Policy.any (fun w => w = w₁) w₂)
    (hagain : (carPayIn rt).Finishes Policy.any t'
      (base (HandleCardWebhookService.execute command)) w₂ r w₃) : RecordsKept w₂ w₃ := by
  have hopen : w₀.ClosedOrders [] := by
    apply serial_closed ?_ hbefore
    exact fun w hw => ⟨hw, by simp⟩
  have hclosed : w₁.ClosedOrders [command.orderId] := by
    constructor
    · exact (wp_finishes hfirst (cardWebhook_closed [] command w₀ hopen)).fresh
    · intro k hk
      rw [List.mem_singleton.mp hk]
      exact wp_finishes hfirst (cardWebhook_settles command w₀ trivial) rfl
  have hstill : w₂.ClosedOrders [command.orderId] := by
    apply serial_closed ?_ hlater
    intro w hw
    rwa [hw]
  have hsettled := hstill.settled _ (List.mem_singleton.mpr rfl)
  exact wp_finishes hagain (cardWebhook_again command w₂ ⟨.refl w₂, hsettled⟩)

/-! ## The three webhooks -/

/-- When a webhook has gone through, and whatever else has happened since, the
same one changes no record and opens no barrier; an entry webhook provided that
it was not answered with a session opened under another PMS id. -/
theorem webhooks_replay_safely (rt : Runtime) (isIsoFormat : String → Bool) :
    (∀ t t' command w₀ w₁ w₂ r w₃, (carPayIn rt).Serial Policy.any World.FreshOrders w₀ →
      (carPayIn rt).Finishes Policy.any t (base (HandleCardWebhookService.execute command)) w₀
        (.ok ()) w₁ →
      (carPayIn rt).Serial Policy.any (fun w => w = w₁) w₂ →
      (carPayIn rt).Finishes Policy.any t' (base (HandleCardWebhookService.execute command)) w₂ r
        w₃ → RecordsKept w₂ w₃) ∧
    (∀ t t' command id w₀ w₁ w₂ r w₃, (carPayIn rt).Serial Policy.any World.FreshOrders w₀ →
      w₀.answersActive command = false →
      (carPayIn rt).Finishes Policy.any t (base (HandleEntryWebhookService.execute rt command)) w₀
        (.ok ⟨"confirmed", some id⟩) w₁ →
      (carPayIn rt).Serial Policy.any (fun w => w = w₁) w₂ →
      (carPayIn rt).Finishes Policy.any t' (base (HandleEntryWebhookService.execute rt command)) w₂
        r w₃ → RecordsKept w₂ w₃) ∧
    (∀ t t' signed signed' command status s₀ s₁ s₂ r s₃,
      (Pms.pms isIsoFormat).Serial Policy.any Pms.State.Vacant s₀ →
      (Pms.pms isIsoFormat).Finishes Policy.any t
        (Pms.RecordPaymentCompleteService.route signed command) s₀ (.ok status) s₁ →
      (Pms.pms isIsoFormat).Serial Policy.any (fun s => s = s₁) s₂ →
      (Pms.pms isIsoFormat).Finishes Policy.any t'
        (Pms.RecordPaymentCompleteService.route signed' command) s₂ r s₃ → s₂.Unwritten s₃) := by
  refine ⟨?_, ?_, ?_⟩
  · intro t t' command w₀ w₁ w₂ r w₃ hbefore hfirst hlater hagain
    exact card_replay hbefore hfirst hlater hagain
  · intro t t' command id w₀ w₁ w₂ r w₃ _ hown hfirst hlater hagain
    exact entry_replay hown hfirst hlater hagain
  · intro t t' signed signed' command status s₀ s₁ s₂ r s₃ _ hfirst hlater hagain
    exact Pms.payment_replay hfirst hlater hagain

/-! ## The garage -/

theorem garage_freshOrders : garage.FreshOrders := fun _ _ => rfl

/-- The payment for the session of the first car that comes in. -/
def Pms.Lot.completed : Pms.RecordPaymentCompleteCommand :=
  ⟨"pms-sess-0", "session-0", "tx-0", 1000, "KRW", "CARD-1", "key-0"⟩

namespace Garage

def preNotify : Start := .backend 0 (.registerPreNotify ⟨token, "lot-1"⟩)

def secondEntry : HandleEntryWebhookCommand :=
  ⟨"signature", "pms-2", "lot-1", "12GA3456", "2024-01-01T10:00:00", "0"⟩

def gratis : Env := .outside { garageOutside with parkingFee := fun _ _ _ => .ok (0, 60) }

def payNothing : List (Start ⊕ Env) :=
  [.inr gratis, .inl (.backend 2 (feeQuery sessionId)), .inl (.backend 3 (payment sessionId 0))]

def cardOrder : Start := .backend 0 (.createCardOrder ⟨token, "12가3456", "", true⟩)

def cardStored : HandleCardWebhookCommand := ⟨"order-1", "bk-2", "5678", "active", "", ""⟩

end Garage

/-- A card is registered, a parked car is reported again, a car that has paid
leaves, and then each webhook comes once more. -/
theorem webhooks_replay_safely_garage :
    (∃ w₀ w₁ w₂ r w₃, (carPayIn plainRuntime).Serial Policy.any World.FreshOrders w₀ ∧
      (carPayIn plainRuntime).Finishes Policy.any (.backend 1 (.cardWebhook Garage.cardStored))
        (base (HandleCardWebhookService.execute Garage.cardStored)) w₀ (.ok ()) w₁ ∧
      (carPayIn plainRuntime).Finishes Policy.any (.backend 1 (.cardWebhook Garage.cardStored))
        (base (HandleCardWebhookService.execute Garage.cardStored)) w₂ r w₃ ∧ RecordsKept w₂ w₃) ∧
    (∃ w₀ w₁ w₂ r w₃, w₀.answersActive Garage.ownEntry = false ∧
      (carPayIn plainRuntime).Finishes Policy.any (.backend 1 (.entryWebhook Garage.ownEntry))
        (base (HandleEntryWebhookService.execute plainRuntime Garage.ownEntry)) w₀
        (.ok ⟨"confirmed", some 0⟩) w₁ ∧
      (carPayIn plainRuntime).Finishes Policy.any (.backend 1 (.entryWebhook Garage.ownEntry))
        (base (HandleEntryWebhookService.execute plainRuntime Garage.ownEntry)) w₂ r w₃ ∧
      RecordsKept w₂ w₃) ∧
    (∃ s₀ s₁ s₂ r s₃, (Pms.pms fun _ => true).Finishes Policy.any (Pms.Lot.payment 1 "key-0")
        (Pms.RecordPaymentCompleteService.route true Pms.Lot.completed) s₀ (.ok .success) s₁ ∧
      (Pms.pms fun _ => true).Finishes Policy.any (Pms.Lot.payment 1 "key-0")
        (Pms.RecordPaymentCompleteService.route true Pms.Lot.completed) s₂ r s₃ ∧
      s₂.Unwritten s₃) := by
  obtain ⟨hcard, hentry, hpayment⟩ := webhooks_replay_safely plainRuntime fun _ => true
  refine ⟨?_, ?_, ?_⟩
  · have hrun : (carPayIn plainRuntime).repeats Policy.any [.inl Garage.cardOrder]
        [.inr (.tick 3600000)] (.backend 1 (.cardWebhook Garage.cardStored))
        (base (HandleCardWebhookService.execute Garage.cardStored)) (fun r _ => r = .ok ())
        (fun _ _ => true) garage = true := by
      decide +kernel
    obtain ⟨w₀, r, w₁, w₂, r', w₃, hbefore, hfirst, hr, hlater, hagain, -⟩ :=
      exists_of_repeats hrun garage_freshOrders
    obtain rfl := of_decide_eq_true hr
    have hkept := hcard _ _ _ w₀ w₁ w₂ r' w₃ hbefore hfirst hlater hagain
    exact ⟨w₀, w₁, w₂, r', w₃, hbefore, hfirst, hagain, hkept⟩
  · have hrun : (carPayIn plainRuntime).repeats Policy.any [] Garage.payNothing
        (.backend 1 (.entryWebhook Garage.ownEntry))
        (base (HandleEntryWebhookService.execute plainRuntime Garage.ownEntry))
        (fun r w => r = .ok ⟨"confirmed", some 0⟩ && !w.answersActive Garage.ownEntry)
        (fun _ _ => true) garage = true := by
      decide +kernel
    obtain ⟨w₀, r, w₁, w₂, r', w₃, hbefore, hfirst, hr, hlater, hagain, -⟩ :=
      exists_of_repeats hrun garage_freshOrders
    obtain ⟨hr, hown⟩ := (Bool.and_eq_true ..).mp hr
    obtain rfl := of_decide_eq_true hr
    have hown : w₀.answersActive Garage.ownEntry = false := by simpa using hown
    have hkept := hentry _ _ _ 0 w₀ w₁ w₂ r' w₃ hbefore hown hfirst hlater hagain
    exact ⟨w₀, w₁, w₂, r', w₃, hown, hfirst, hagain, hkept⟩
  · have hrun : (Pms.pms fun _ => true).repeats Policy.any [.inl Pms.Lot.entry]
        [.inl ⟨2, .lprExit ⟨"LOT_GN_01", "12GA3456"⟩⟩] (Pms.Lot.payment 1 "key-0")
        (Pms.RecordPaymentCompleteService.route true Pms.Lot.completed)
        (fun r _ => r = .ok .success) (fun _ _ => true) Pms.emptyLot = true := by
      decide +kernel
    obtain ⟨s₀, r, s₁, s₂, r', s₃, hbefore, hfirst, hr, hlater, hagain, -⟩ :=
      exists_of_repeats hrun Pms.emptyLot_vacant
    obtain rfl := of_decide_eq_true hr
    have hkept := hpayment _ _ _ _ _ _ s₀ s₁ s₂ r' s₃ hbefore hfirst hlater hagain
    exact ⟨s₀, s₁, s₂, r', s₃, hfirst, hagain, hkept⟩

/-- The active session answers for the second one. Once it is completed, the
webhook that comes again opens a session of its own. -/
theorem second_session_opened : ¬∀ rt t command id w₀ w₁ w₂ r w₃,
    (carPayIn rt).Serial Policy.any World.FreshOrders w₀ →
    (carPayIn rt).Finishes Policy.any t (base (HandleEntryWebhookService.execute rt command)) w₀
      (.ok ⟨"confirmed", some id⟩) w₁ →
    (carPayIn rt).Serial Policy.any (fun w => w = w₁) w₂ →
    (carPayIn rt).Finishes Policy.any t (base (HandleEntryWebhookService.execute rt command)) w₂ r
      w₃ → RecordsKept w₂ w₃ := by
  intro h
  have hrun : (carPayIn plainRuntime).repeats Policy.any [.inl Garage.preNotify] Garage.payNothing
      (.backend 1 (.entryWebhook Garage.secondEntry))
      (base (HandleEntryWebhookService.execute plainRuntime Garage.secondEntry))
      (fun r _ => r = .ok ⟨"confirmed", some 0⟩)
      (fun w w' => w'.base.parkingSessions ≠ w.base.parkingSessions) garage = true := by
    decide +kernel
  obtain ⟨w₀, r, w₁, w₂, r', w₃, hbefore, hfirst, hr, hlater, hagain, hchanged⟩ :=
    exists_of_repeats hrun garage_freshOrders
  obtain rfl := of_decide_eq_true hr
  have hkept := h _ _ _ 0 w₀ w₁ w₂ r' w₃ hbefore hfirst hlater hagain
  exact of_decide_eq_true hchanged hkept.parkingSessions

end CarPayIn
