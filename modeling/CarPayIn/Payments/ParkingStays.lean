import CarPayIn.Payments.ClosedSessions
import CarPayIn.Payments.EntryNotices

/-! # The life of a parking session

A webhook of the PMS opens a session and a payment ends it. No other request
touches the table, so a session keeps its car and its place and stays ended once
it has ended, and a car is at one place at a time, whatever fails on the way. Of
two payments that overlap, both may find the session open; the later commit then
writes its own exit time over the first.
-/

namespace CarPayIn

open Process Process.System Store Service

variable {rt : Runtime} {t : Tid} {w w' : World} {b b' : Base} {α : Type}

/-! ## The table -/

/-- A session has ended when its status says so, and not before. -/
def ParkingSession.Orderly (r : ParkingSession) : Prop :=
  (r.status = .active ∧ r.exitTime = none) ∨ (r.status = .completed ∧ r.exitTime.isSome)

/-- Some place of the lot, by the id the PMS gave the stay. -/
def ParkingSession.SamePlace (r r' : ParkingSession) : Prop :=
  r.pmsSessionId.isSome ∧ r.lotId = r'.lotId ∧ r.pmsSessionId = r'.pmsSessionId

/-- What every request keeps of the table. -/
structure StaysInOrder (b : Base) : Prop where
  orderly : ∀ r ∈ b.parkingSessions, r.Orderly
  ended : ∀ r ∈ b.parkingSessions, ∀ ms, r.exitTime = some ms → ms ≤ b.now
  ids : UniqueBy ParkingSession.sessionId b.parkingSessions
  oneStay : b.parkingSessions.Pairwise fun r r' =>
    ¬(r.status = .active ∧ r'.status = .active ∧ r.carId = r'.carId)
  onePlace : b.parkingSessions.Pairwise fun r r' => ¬r.SamePlace r'

/-- The change ends a session at a time that has come, or there is none. -/
def SessionChange.Ends (now : Nat) (change : SessionChange) : Prop :=
  change = .unchanged ∨ ∃ ms, ms ≤ now ∧ change = ⟨some .completed, some ms⟩

namespace SessionChange.Ends

variable {now : Nat} {change : SessionChange} {r : ParkingSession}

theorem orderly (h : change.Ends now) (hr : r.Orderly) : (change.apply r).Orderly := by
  rcases h with rfl | ⟨ms, -, rfl⟩
  · exact hr
  · exact .inr ⟨rfl, rfl⟩

theorem ended (h : change.Ends now) (hr : ∀ ms, r.exitTime = some ms → ms ≤ now) :
    ∀ ms, (change.apply r).exitTime = some ms → ms ≤ now := by
  rcases h with rfl | ⟨ms, hms, rfl⟩
  · exact hr
  · rintro ms' hexit
    cases hexit
    exact hms

/-- No session is opened again. -/
theorem active (h : change.Ends now) (hr : (change.apply r).status = .active) :
    r.status = .active := by
  rcases h with rfl | ⟨ms, -, rfl⟩
  · exact hr
  · cases hr

theorem completed (h : change.Ends now) (hr : r.status = .completed) :
    (change.apply r).status = .completed := by
  rcases h with rfl | ⟨ms, -, rfl⟩
  · exact hr
  · rfl

end SessionChange.Ends

/-- A step of the table in which a session that is inserted has just begun, and a change that is
committed ends a session or is none. -/
inductive StayStep (b b' : Base) : Prop where
  | intro (new : Option ParkingSession) (commit : Option (Uuid × SessionChange))
      (hstep : SessionStep new commit b b') (hnow : b.now ≤ b'.now)
      (hopens : ∀ row, new = some row → row.status = .active ∧ row.exitTime = none)
      (hends : ∀ id change, commit = some (id, change) → change.Ends b.now)

theorem StayStep.of_same (hnow : b.now ≤ b'.now) (hrows : b'.parkingSessions = b.parkingSessions) :
    StayStep b b' :=
  .intro none none (.kept hrows) hnow (fun _ h => by cases h) fun _ _ h => by cases h

theorem StayStep.inOrder (h : StayStep b b') (hb : StaysInOrder b) : StaysInOrder b' := by
  obtain ⟨new, commit, hstep, hnow, hopens, hends⟩ := h
  have hids := hstep.uniqueIds hb.ids
  cases hstep with
  | kept hrows =>
      rw [hrows] at hids
      constructor <;> rw [hrows]
      · exact hb.orderly
      · exact fun r hr ms hms => Nat.le_trans (hb.ended r hr ms hms) hnow
      · exact hids
      · exact hb.oneStay
      · exact hb.onePlace
  | created row hnew hadmits hrows =>
      obtain ⟨hstatus, hexit⟩ := hopens row hnew
      rw [hrows] at hids
      constructor <;> rw [hrows]
      · rw [List.forall_mem_cons]
        exact ⟨.inl ⟨hstatus, hexit⟩, hb.orderly⟩
      · rw [List.forall_mem_cons]
        refine ⟨fun ms hms => ?_, fun r hr ms hms => Nat.le_trans (hb.ended r hr ms hms) hnow⟩
        rw [hexit] at hms
        cases hms
      · exact hids
      · rw [List.pairwise_cons]
        exact ⟨fun r hr ⟨_, hactive, hsame⟩ => hadmits.stay hstatus r hr hsame.symm hactive, hb.oneStay⟩
      · rw [List.pairwise_cons]
        exact ⟨fun r hr ⟨hsome, hlot, hpms⟩ => hadmits.place hsome r hr hlot.symm hpms.symm, hb.onePlace⟩
  | committed id change hcommit hrows =>
      have hchange := hends id change hcommit
      have hmem : ∀ r ∈ b'.parkingSessions, ∃ r₀ ∈ b.parkingSessions,
          r = if r₀.sessionId = id then change.apply r₀ else r₀ := by
        intro r hr
        rw [hrows] at hr
        obtain ⟨r₀, hr₀, rfl⟩ := List.mem_map.mp hr
        exact ⟨r₀, hr₀, rfl⟩
      constructor
      · intro r hr
        obtain ⟨r₀, hr₀, rfl⟩ := hmem r hr
        split
        · exact hchange.orderly (hb.orderly r₀ hr₀)
        · exact hb.orderly r₀ hr₀
      · intro r hr ms hms
        apply Nat.le_trans ?_ hnow
        obtain ⟨r₀, hr₀, rfl⟩ := hmem r hr
        split at hms
        · exact hchange.ended (hb.ended r₀ hr₀) ms hms
        · exact hb.ended r₀ hr₀ ms hms
      · exact hids
      · rw [hrows]
        refine List.pairwise_map.mpr (hb.oneStay.imp fun hno ⟨h₁, h₂, hsame⟩ => hno ⟨?_, ?_, ?_⟩)
        · split at h₁
          · exact hchange.active h₁
          · exact h₁
        · split at h₂
          · exact hchange.active h₂
          · exact h₂
        · split at hsame <;> split at hsame <;> exact hsame
      · rw [hrows]
        refine List.pairwise_map.mpr (hb.onePlace.imp fun hno hsame => hno ?_)
        split at hsame <;> split at hsame <;> exact hsame

/-! ## One session from now on -/

/-- What a later reading of the row may show: the same stay, still ended if it had ended. -/
structure ParkingSession.Becomes (r r' : ParkingSession) : Prop where
  stay : r.SameStay r'
  completed : r.status = .completed → r'.status = .completed

def Base.Continues (r : ParkingSession) (b : Base) : Prop :=
  ∃ r', b.getSessionById r.sessionId = some r' ∧ r.Becomes r'

theorem StayStep.continues {r : ParkingSession} (h : StayStep b b') (hc : b.Continues r) :
    b'.Continues r := by
  obtain ⟨new, commit, hstep, -, -, hends⟩ := h
  obtain ⟨r', hget, hbecomes⟩ := hc
  rcases hstep.getSessionById r.sessionId with heq | ⟨row, -, -, hnone, -⟩ | ⟨change, hcommit, heq⟩
  · exact ⟨r', heq.trans hget, hbecomes⟩
  · rw [hget] at hnone
    cases hnone
  · rw [hget] at heq
    exact ⟨change.apply r', heq, hbecomes.stay.trans (change.sameStay r'),
      fun hr => (hends _ change hcommit).completed (hbecomes.completed hr)⟩

/-! ## The contract -/

def staying : Contract World Tid where
  invariant w := StaysInOrder w.base
  guarantee _ w w' := StayStep w.base w'.base
  environment w w' := StayStep w.base w'.base

abbrev KeepsOrder (rt : Runtime) (t : Tid) (p : Service α) : Prop :=
  (carPayIn rt).Triple Policy.any staying t (fun _ => True) p (fun _ _ => True)

theorem KeepsOrder.bind {β : Type} {p : Service α} {f : α → Service β} (hp : KeepsOrder rt t p)
    (hf : ∀ a, KeepsOrder rt t (f a)) : KeepsOrder rt t (p.bind f) :=
  Triple.seq hp (fun _ _ h => h) hf

theorem KeepsOrder.done (r : Except PyError α) : KeepsOrder rt t (.done r) :=
  Triple.done fun _ h => h

theorem stable_now (ms : Nat) : staying.Stable t fun w => ms ≤ w.base.now := by
  rintro w w' ⟨-, -, ⟨t', -, ⟨-, -, -, hnow, -, -⟩⟩ | ⟨-, -, -, hnow, -, -⟩⟩ hms
  · exact Nat.le_trans hms hnow
  · exact Nat.le_trans hms hnow

/-! ## The calls -/

/-- A session that the call inserts has just begun, and the call commits no change. -/
structure Opens {β : Type} (op : Op β) : Prop where
  opens : ∀ row, op.newSession? = some row → row.status = .active ∧ row.exitTime = none
  commits : op.sessionCommit? = none

theorem opens_of_effect {β : Type} {op : Op β} (hnew : op.effect ≠ .newSession)
    (hstatus : op.effect ≠ .sessionStatus) : Opens op := by
  constructor
  · intro row hrow
    cases op with
    | base op =>
        cases op with
        | createSession row' => exact (hnew rfl).elim
        | _ => cases hrow
    | _ => cases hrow
  · cases op with
    | base op =>
        cases op with
        | commitSession id change => exact (hstatus rfl).elim
        | _ => rfl
    | _ => rfl

theorem stayStep_of_outcome {β : Type} {op : Op β} {m : Mode PyError} {r : Except PyError β}
    (hopens : ∀ row, op.newSession? = some row → row.status = .active ∧ row.exitTime = none)
    (hends : ∀ id change, op.sessionCommit? = some (id, change) → change.Ends w.base.now)
    (ho : (carPayIn rt).outcome t op m w = some (r, w')) : StayStep w.base w'.base :=
  .intro _ _ (outcome_session ho) (Nat.le_of_eq (outcome_frame ho).now.symm) hopens hends

theorem opens_keepsOrder {p : Service α} (hp : p.Calls Opens) : KeepsOrder rt t p := by
  apply Triple.calls ?_ (.const True)
  apply hp.mono
  intro β op hop w m r w' _ _ _ ho _
  refine ⟨stayStep_of_outcome hop.opens (fun id change hc => ?_) ho, trivial⟩
  rw [hop.commits] at hc
  cases hc

theorem opens_of_effects (es : List Effect) {p : Service α} (hp : ServiceEffects es p)
    (hnew : .newSession ∉ .nothing :: es) (hstatus : .sessionStatus ∉ .nothing :: es) :
    p.Calls Opens :=
  ((hp.avoids hnew).and (hp.avoids hstatus)).mono fun _ h => opens_of_effect h.1 h.2

theorem effects_keepsOrder {p : Service α} (hp : ServiceEffects [] p) : KeepsOrder rt t p :=
  opens_keepsOrder (opens_of_effects [] hp (by decide) (by decide))

theorem draw_keepsOrder : KeepsOrder rt t (base (ask .draw)) :=
  opens_keepsOrder (opens_of_effects [.draw] (base_effects (ask_effects (by simp))) (by decide) (by decide))

/-! ## The end of a session -/

/-- The row was read in order, so it has an exit time just when it is completed. -/
theorem setStatus_keepsOrder (id : Uuid) {row : ParkingSession} (hrow : row.Orderly) :
    KeepsOrder rt t (base (BaseService.setStatus id row .completed)) := by
  have hcommit : ∀ (P : World → Prop) (change : SessionChange), staying.Stable t P →
      (∀ w, P w → change.Ends w.base.now) → (carPayIn rt).Triple Policy.any staying t P
        (base (ask (.commitSession id change))) (fun _ _ => True) := by
    intro P change hP hends
    apply Triple.perform hP
    intro w m r w' hw _ _ ho
    refine ⟨stayStep_of_outcome (fun row h => by cases h) ?_ ho, trivial⟩
    rintro id' change' h
    cases h
    exact hends w hw
  unfold BaseService.setStatus
  dsimp only
  rcases hrow with ⟨hactive, hexit⟩ | ⟨hcompleted, hexit⟩
  · rw [if_pos ⟨rfl, hexit⟩, if_neg (by rw [hactive]; decide)]
    simp only [base, Program.bind_eq, Program.lift_bind]
    apply Triple.bind (M := fun now w => now ≤ w.base.now)
    · apply Triple.perform (.const True)
      intro w m r w' _ _ _ ho
      refine ⟨stayStep_of_outcome (fun row h => by cases h) (fun id change h => by cases h) ho, ?_⟩
      cases r with
      | error e => trivial
      | ok now =>
          obtain ⟨hr, rfl⟩ := base_ok ho
          exact Nat.le_of_eq (Except.ok.inj hr).symm
    · exact fun now => hcommit _ _ (stable_now now) fun w hnow => .inr ⟨now, hnow, rfl⟩
  · obtain ⟨ms, hms⟩ := Option.isSome_iff_exists.mp hexit
    rw [if_neg (by simp [hms]), if_pos hcompleted]
    exact hcommit _ _ (.const True) fun _ _ => .inl rfl

theorem updateSessionStatus_keepsOrder (sessionId : String) :
    KeepsOrder rt t (base (BaseService.updateSessionStatus sessionId .completed)) := by
  unfold BaseService.updateSessionStatus
  cases hid : Uuid.parse sessionId with
  | error e => exact .done _
  | ok id =>
      show KeepsOrder rt t (base ((ask (.getSessionById id)).bind _))
      simp only [base, Program.lift_bind]
      apply Triple.bind (M := fun (found : Option ParkingSession) _ =>
        ∀ row, found = some row → row.Orderly)
      · apply Triple.perform (.const True)
        intro w m r w' _ hi _ ho
        refine ⟨stayStep_of_outcome (fun row h => by cases h) (fun id change h => by cases h) ho, ?_⟩
        cases r with
        | error e => trivial
        | ok found =>
            obtain ⟨hr, rfl⟩ := base_ok ho
            rintro row rfl
            exact hi.orderly row (mem_of_get? (Except.ok.inj hr))
      · rintro (- | row)
        · exact .done fun _ _ => trivial
        · exact fun w hw => setStatus_keepsOrder id (hw row rfl) w trivial

/-! ## The programs -/

theorem ask_opens {op : BaseOp α} (h : Opens (.base op)) :
    (ask op).Calls fun op => Opens (.base op) := ⟨h, fun _ => trivial⟩

theorem ask_opens_of_effect {op : BaseOp α} (hnew : op.effect ≠ .newSession)
    (hstatus : op.effect ≠ .sessionStatus) : (ask op).Calls fun op => Opens (.base op) :=
  ask_opens (opens_of_effect hnew hstatus)

theorem openSession_opens (command : HandleEntryWebhookCommand) (carId : String) :
    (HandleEntryWebhookService.openSession command carId).Calls fun op => Opens (.base op) := by
  unfold HandleEntryWebhookService.openSession
  apply Program.Calls.bind
  · exact ask_opens_of_effect (by simp) (by simp)
  · intro sessionId
    apply Program.Calls.bind
    · refine ask_opens ⟨?_, rfl⟩
      rintro row h
      cases h
      exact ⟨rfl, rfl⟩
    · intro _
      apply Program.Calls.bind
      · exact ask_opens_of_effect (by simp) (by simp)
      · intro _
        apply Program.Calls.bind
        · unfold HandleEntryWebhookService.notifyEntry
          apply Program.Calls.tryCatch
          · apply Program.Calls.bind
            · exact ask_opens_of_effect (by simp) (by simp)
            · exact fun _ => ask_opens_of_effect (by simp) (by simp)
          · exact fun e => ask_opens_of_effect (by simp) (by simp)
        · exact fun _ => trivial

theorem entryWebhook_opens (rt : Runtime) (command : HandleEntryWebhookCommand) :
    (HandleEntryWebhookService.execute rt command).Calls fun op => Opens (.base op) := by
  unfold HandleEntryWebhookService.execute
  apply Program.Calls.bind
  · exact ask_opens_of_effect (by simp) (by simp)
  · intro valid
    split
    · trivial
    split
    · trivial
    · apply Program.Calls.bind
      · exact ask_opens_of_effect (by simp) (by simp)
      · intro found
        cases found with
        | some existing => trivial
        | none =>
            apply Program.Calls.bind
            · exact ask_opens_of_effect (by simp) (by simp)
            · intro found
              cases found with
              | none => trivial
              | some preNotify =>
                  apply Program.Calls.bind
                  · exact ask_opens_of_effect (by simp) (by simp)
                  · intro found
                    cases found with
                    | some active => trivial
                    | none => exact openSession_opens command preNotify.carId

theorem settle_keepsOrder (session : ParkingSession) (txId : TxId) (carId key : String)
    (pgTxId approvalNo : Option String) (command : ProcessPaymentCommand) : KeepsOrder rt t
      (ProcessPaymentService.settle session txId carId key pgTxId approvalNo command) := by
  unfold ProcessPaymentService.settle ProcessPaymentService.markPaymentSuccess
    ProcessPaymentService.publishPaymentNotificationBestEffort
  simp only [Program.bind_eq, Program.pure_eq]
  apply KeepsOrder.bind
  · exact (effects_keepsOrder (call_effects rfl)).bind fun _ => .done _
  · intro enqueued
    apply (updateSessionStatus_keepsOrder command.sessionId).bind
    intro _
    apply (effects_keepsOrder (notifyPmsPaymentComplete_effects _)).bind
    intro _
    cases enqueued with
    | true => exact .done _
    | false =>
        apply KeepsOrder.bind
        · apply KeepsOrder.bind
          · exact effects_keepsOrder (base_effects (ask_effects (by simp))).attempt
          · exact fun _ => .done _
        · exact fun _ => .done _

theorem pay_keepsOrder (session : ParkingSession) (carId key : String)
    (command : ProcessPaymentCommand) :
    KeepsOrder rt t (ProcessPaymentService.pay session carId key command) := by
  have hfail : ∀ (reason : Option String) (result : ProcessPaymentResult), KeepsOrder rt t
      ((updateTransactionStatus key .failed reason).bind fun _ => .done (.ok result)) :=
    fun reason result => (effects_keepsOrder (call_effects rfl)).bind fun _ => .done _
  unfold ProcessPaymentService.pay ProcessPaymentService.charge
  simp only [Program.bind_eq, Program.pure_eq, Program.throw_eq, Program.tryCatch_eq]
  apply (effects_keepsOrder (base_effects (ask_effects (by simp)))).bind
  intro found
  cases found with
  | none => exact .done _
  | some record =>
      apply draw_keepsOrder.bind
      intro n
      apply (effects_keepsOrder (createPendingTransaction_effects ..)).bind
      intro _
      apply Triple.tryCatch (M := fun _ _ => True)
      · apply Triple.conseq (Q := fun _ _ => True) ?_ (fun _ h => h)
        · intro r w _
          cases r <;> trivial
        · apply (effects_keepsOrder (chargeBillingKey_effects _)).bind
          intro result
          cases result with
          | success pgTxId approvalNo =>
              exact settle_keepsOrder session _ carId key pgTxId approvalNo command
          | failure pgTxId reason => exact hfail _ _
      · exact fun e => hfail _ _

theorem processPayment_keepsOrder (sha256 : String → String) (command : ProcessPaymentCommand) :
    KeepsOrder rt t (ProcessPaymentService.execute sha256 command) := by
  unfold ProcessPaymentService.execute
  split
  · exact draw_keepsOrder.bind fun _ => .done _
  · apply (effects_keepsOrder (base_effects (authorise_effects _))).bind
    intro ⟨session, carId⟩
    apply (effects_keepsOrder (call_effects rfl)).bind
    intro existing
    cases existing with
    | some existing =>
        unfold ProcessPaymentService.replay
        dsimp only
        split
        · exact (effects_keepsOrder (notifyPmsPaymentComplete_effects _)).bind fun _ => .done _
        · exact .done _
    | none =>
        dsimp only
        split
        · exact .done _
        split
        · apply (effects_keepsOrder (createPendingTransaction_effects ..)).bind
          exact fun _ => settle_keepsOrder session _ carId _ none (some "FREE") command
        · exact pay_keepsOrder session carId _ command

theorem begin_keepsOrder {x : Start} {p : Service Reply} (h : w.begin rt x = some (t, p, w')) :
    KeepsOrder rt t p := by
  have hother (hnew : Effect.newSession ∉ .nothing :: t.effects)
      (hstatus : Effect.sessionStatus ∉ .nothing :: t.effects) : KeepsOrder rt t p :=
    opens_keepsOrder (opens_of_effects _ (begin_spec h).effects hnew hstatus)
  cases x with
  | pg id | card id =>
      obtain ⟨y, -, h⟩ := Option.map_eq_some_iff.mp h
      cases h
      exact hother (by simp [Tid.effects]) (by simp [Tid.effects])
  | backend n request =>
      cases h
      cases request with
      | entryWebhook command =>
          apply opens_keepsOrder
          exact Program.Calls.lift Op.base ((entryWebhook_opens rt command).bind fun _ => trivial)
      | processPayment command =>
          exact (processPayment_keepsOrder rt.sha256 command).bind fun _ => .done _
      | _ => exact hother (by simp [Tid.effects, Request.effects]) (by simp [Tid.effects, Request.effects])

/-! ## Every run -/

/-- No car has been parked yet. -/
def World.NoStays (w : World) : Prop := w.base.parkingSessions = []

theorem carPayIn_stays (rt : Runtime) :
    (carPayIn rt).Meets Policy.any staying World.NoStays .unknown := by
  refine Meets.of_state ?_ ?_ ?_ ?_
  · intro w hw
    have hw : w.base.parkingSessions = [] := hw
    constructor <;> simp [hw, UniqueBy]
  · rintro w w' hi (⟨t, hg⟩ | he)
    · exact StayStep.inOrder hg hi
    · exact StayStep.inOrder he hi
  · intro x w t p w' hb
    have hb' := (begin_spec hb).base
    exact ⟨.of_same (Nat.le_of_eq (by rw [hb'])) (by rw [hb']), begin_keepsOrder hb w' trivial⟩
  · intro x w w' he
    obtain ⟨now, outside, scanned, hnow, hb⟩ := environment_base he
    exact .of_same (by rw [hb]; exact hnow) (by rw [hb])

theorem stays_inOrder {c : Config Op PyError Reply World Tid}
    (hc : (carPayIn rt).Reachable Policy.any World.NoStays c) : StaysInOrder c.state.base :=
  ((carPayIn_stays rt).sound hc).1

/-- In every run the table of sessions stays in order: a session has an exit time just when it is
completed, and none that is yet to come, no two sessions share an id, no car has two active
sessions and no place of a lot two sessions. And a session that was in the table stays there with
its car, place, plate and entry time, and stays completed once it is. -/
theorem stays_continue (rt : Runtime) {c c' : Config Op PyError Reply World Tid}
    (hc : (carPayIn rt).Reachable Policy.any World.NoStays c)
    (hl : (carPayIn rt).Later Policy.any c c') : StaysInOrder c'.state.base ∧
      ∀ r ∈ c.state.base.parkingSessions, ∃ r' ∈ c'.state.base.parkingSessions, r.Becomes r' := by
  refine ⟨stays_inOrder (hl.reachable _ hc), fun r hr => ?_⟩
  have hcont : c'.state.base.Continues r := by
    apply (carPayIn_stays rt).kept (J := fun w => w.base.Continues r) ?_ hc hl
    · exact ⟨r, (stays_inOrder hc).ids.get?_of_mem hr, .refl r, id⟩
    · rintro w w' - (⟨t, hg⟩ | he) hw
      · exact StayStep.continues hg hw
      · exact StayStep.continues he hw
  obtain ⟨r', hget, hbecomes⟩ := hcont
  exact ⟨r', mem_of_get? hget, hbecomes⟩

/-! ## The garage -/

namespace Garage

def stay : String := "00000000-0000-0000-0000-000000000001"

/-- The car arrives; session 1 is opened and published. -/
def arrival : List Event := arriving ++ answers visit 4

/-- A minute later the fee is asked for, nothing is owed, and the car leaves. -/
def freeExit : List Event :=
  .environment (.outside { garageOutside with parkingFee := fun _ _ _ => .ok (0, 1) }) ::
    .environment (.tick 60000) :: request 2 (feeQuery stay) 5 ++ request 3 (payment stay 0) 12

end Garage

/-- The car's stay is in the table from its arrival on, and ends when it is settled. -/
theorem stays_continue_garage : ∃ c c', (carPayIn plainRuntime).Reachable Policy.any
    World.NoStays c ∧ (carPayIn plainRuntime).Later Policy.any c c' ∧
      (StaysInOrder c'.state.base ∧ ∀ r ∈ c.state.base.parkingSessions,
        ∃ r' ∈ c'.state.base.parkingSessions, r.Becomes r') ∧
      (c.state.base.parkingSessions.map (·.exitTime)) = [none] ∧
        (c'.state.base.parkingSessions.map (·.exitTime)) = [some 60000] := by
  have hrun : ((carPayIn plainRuntime).run Policy.any Garage.arrival (boot emptyGarage)).any (fun c =>
      decide (c.state.base.parkingSessions.map (·.exitTime) = [none]) &&
        ((carPayIn plainRuntime).run Policy.any Garage.freeExit c).any fun c' =>
          decide (c'.state.base.parkingSessions.map (·.exitTime) = [some 60000])) = true := by
    decide +kernel
  obtain ⟨c, c', hc, hopen, hl, hended⟩ :=
    (carPayIn plainRuntime).exists_of_runs hrun (show World.NoStays emptyGarage from rfl)
  exact ⟨c, c', hc, hl, stays_continue plainRuntime hc hl, of_decide_eq_true hopen,
    of_decide_eq_true hended⟩

end CarPayIn
