import CarPayIn.Payments.Effects
import CarPayIn.Payments.Notices
import CarPayIn.Payments.Backing

/-! # A success closes its parking session

The success of a transaction and the completion of its session are two
commits. A payment that makes both answers after the second one, but a repeated
request answers from the transaction alone.
-/

namespace CarPayIn

open Process Process.System Store Service

variable {rt : Runtime} {t : Tid} {w w' : World} {P : World → Prop} {α : Type}

/-! ## Completed sessions -/

def Base.completed (b : Base) (id : Uuid) : Bool :=
  (b.getSessionById id).any fun s => s.status = .completed

def World.sessionCompleted (w : World) (sessionId : String) : Bool :=
  match Uuid.parse sessionId with
  | .ok id => w.base.completed id
  | .error _ => false

def SessionChange.Closes (change : SessionChange) : Prop :=
  ∀ status, change.status = some status → status = .completed

theorem SessionChange.Closes.apply {change : SessionChange} (h : change.Closes)
    {r : ParkingSession} (hr : r.status = .completed) : (change.apply r).status = .completed := by
  cases hs : change.status with
  | none => simpa [SessionChange.apply, hs] using hr
  | some status => simpa [SessionChange.apply, hs] using h status hs

def CompletedKept (b b' : Base) : Prop := ∀ id, b.completed id = true → b'.completed id = true

theorem CompletedKept.refl (b : Base) : CompletedKept b b := fun _ h => h

theorem CompletedKept.of_same {b b' : Base} (h : b'.parkingSessions = b.parkingSessions) :
    CompletedKept b b' := by
  intro id hid
  simpa [Base.completed, Base.getSessionById, h] using hid

theorem SessionStep.completedKept {b b' : Base} {new : Option ParkingSession}
    {commit : Option (Uuid × SessionChange)} (h : SessionStep new commit b b')
    (hc : ∀ id change, commit = some (id, change) → change.Closes) : CompletedKept b b' := by
  intro id hid
  unfold Base.completed at hid ⊢
  rcases h.getSessionById id with heq | ⟨row, -, -, hnone, -⟩ | ⟨change, hcommit, heq⟩
  · rwa [heq]
  · simp [hnone] at hid
  · rw [heq]
    cases hrow : b.getSessionById id with
    | none => simp [hrow] at hid
    | some r =>
        have hr : r.status = .completed := by simpa [hrow] using hid
        simpa using (hc id change hcommit).apply hr

/-- A commit that sets the status to completed leaves a completed session. -/
theorem Base.commitSession_completed {b : Base} {id : Uuid} {change : SessionChange} {u : Unit}
    (hset : change.status = some .completed) (h : (b.exec (.commitSession id change)).1 = .ok u) :
    (b.exec (.commitSession id change)).2.completed id = true := by
  have hne : change ≠ .unchanged := by
    rintro rfl
    cases hset
  simp only [exec, commitSession, if_neg hne] at h ⊢
  cases hrow : b.getSessionById id with
  | none =>
      rw [hrow] at h
      cases h
  | some row =>
      unfold getSessionById at hrow
      simp only [write, completed, getSessionById]
      rw [get?_modify change.apply fun _ => rfl, if_pos rfl, hrow]
      simp [SessionChange.apply, hset]

def Closes {β : Type} (op : Op β) : Prop :=
  ∀ id change, op.sessionCommit? = some (id, change) → change.Closes

theorem closes_of_effect {β : Type} {op : Op β} (h : op.effect ≠ .sessionStatus) : Closes op := by
  intro id change hc
  cases op with
  | base op =>
      cases op with
      | commitSession id' change' => exact (h rfl).elim
      | _ => cases hc
  | _ => cases hc

/-! ## The contract -/

/-- The session a payment's execution was started for is completed. -/
def ownSessionCompleted (t : Tid) (w : World) : Bool :=
  match t with
  | .backend _ (.processPayment command) => w.sessionCompleted command.sessionId
  | _ => true

/-- A lookup does not find a success while the session of the request is open. -/
def closedReplay (t : Tid) {β : Type} (op : Op β) (m : Mode PyError) (w : World) : Bool :=
  match op, m with
  | .transactions (.getByIdempotencyKey key), .answered =>
      !((w.getTransaction key).any fun row => row.status = .success) || ownSessionCompleted t w
  | _, _ => true

/-- No request is answered from a success whose session is still open. -/
def closedReplayPolicy : Policy Op PyError World Tid Start Env where
  start _ _ := True
  call t _ op m w := closedReplay t op m w = true
  crash _ _ := True
  environment _ _ := True

instance : closedReplayPolicy.Computable where
  start _ _ := .isTrue trivial
  call _ _ _ _ _ := inferInstanceAs (Decidable (_ = true))
  crash _ _ := .isTrue trivial
  environment _ _ := .isTrue trivial

def closing : Contract World Tid where
  invariant _ := True
  guarantee _ w w' := CompletedKept w.base w'.base
  environment w w' := CompletedKept w.base w'.base

/-- What completed sessions decide for good. -/
def Lasting (P : World → Prop) : Prop := ∀ w w', CompletedKept w.base w'.base → P w → P w'

theorem Lasting.stable (hP : Lasting P) : closing.Stable t P := by
  intro w w' hi hw
  rcases hi.2.2 with ⟨t', -, hg⟩ | he
  · exact hP w w' hg hw
  · exact hP w w' he hw

theorem lasting_true : Lasting fun _ => True := fun _ _ _ h => h

theorem lasting_sessionCompleted (sessionId : String) :
    Lasting fun w => w.sessionCompleted sessionId = true := by
  intro w w' hk h
  unfold World.sessionCompleted at h ⊢
  split at h
  · exact hk _ h
  · cases h

abbrev Closing (rt : Runtime) (t : Tid) (P : World → Prop) (p : Service α)
    (Q : Except PyError α → World → Prop) : Prop :=
  (carPayIn rt).Triple closedReplayPolicy closing t P p Q

theorem outcome_completed {β : Type} (op : Op β) (hc : Closes op) {m : Mode PyError}
    {r : Except PyError β} (ho : (carPayIn rt).outcome t op m w = some (r, w')) :
    CompletedKept w.base w'.base := (outcome_session ho).completedKept hc

theorem open_program (es : List Effect) {p : Service α} (hp : ServiceEffects es p)
    (he : .sessionStatus ∉ .nothing :: es) (hP : Lasting P) : Closing rt t P p (fun _ => P) := by
  apply Triple.calls ?_ hP.stable
  apply (hp.avoids he).mono
  intro β op hop w m r w' hw _ _ ho _
  have hk := outcome_completed op (closes_of_effect hop) ho
  exact ⟨hk, hP w w' hk hw⟩

/-! ## The payment -/

/-- Either the row that was read is completed already, or the commit completes it. -/
theorem commitSession_closes (id : Uuid) {change : SessionChange} (hc : change.Closes) :
    Closing rt t (fun w => w.base.completed id = true ∨ change.status = some .completed)
      (base (ask (.commitSession id change)))
      (fun r w => ∀ u, r = .ok u → w.base.completed id = true) := by
  have hlast : Lasting fun w => w.base.completed id = true ∨ change.status = some .completed :=
    fun w w' hk h => h.imp_left (hk id)
  have hcloses : Closes (.base (.commitSession id change)) := by
    rintro id' change' h
    cases h
    exact hc
  apply Triple.perform hlast.stable
  intro w m r w' hw _ _ ho
  refine ⟨outcome_completed _ hcloses ho, ?_⟩
  rintro u rfl
  rcases hw with hdone | hset
  · exact outcome_completed _ hcloses ho id hdone
  · obtain ⟨hr, rfl⟩ := base_ok ho
    exact Base.commitSession_completed hset hr

theorem setStatus_closes (id : Uuid) (row : ParkingSession) :
    Closing rt t (fun w => row.status = .completed → w.base.completed id = true)
      (base (BaseService.setStatus id row .completed))
      (fun r w => ∀ u, r = .ok u → w.base.completed id = true) := by
  have hlast : Lasting fun w => row.status = .completed → w.base.completed id = true :=
    fun w w' hk h hs => hk id (h hs)
  have hcommit : ∀ exitTime, Closing rt t
      (fun w => row.status = .completed → w.base.completed id = true)
      (base (ask (.commitSession id
        ⟨if row.status = .completed then none else some .completed, exitTime⟩)))
      (fun r w => ∀ u, r = .ok u → w.base.completed id = true) := by
    intro exitTime
    apply Triple.conseq (commitSession_closes id ?_) ?_ (fun _ _ h => h)
    · intro status hs
      dsimp only at hs
      split at hs
      · cases hs
      · cases hs
        rfl
    · intro w hw
      by_cases hs : row.status = .completed
      · exact .inl (hw hs)
      · exact .inr (if_neg hs)
  unfold BaseService.setStatus
  dsimp only
  split
  · simp only [base, Program.bind_eq, Program.lift_bind]
    apply Triple.seq
    · exact open_program [] (base_effects (ask_effects (.head _))) (by decide) hlast
    · exact fun e w _ u h => by cases h
    · exact fun now => hcommit (some now)
  · exact hcommit none

theorem updateSessionStatus_closes (sessionId : String) :
    Closing rt t (fun _ => True) (base (BaseService.updateSessionStatus sessionId .completed))
      (fun r w => ∀ u, r = .ok u → w.sessionCompleted sessionId = true) := by
  unfold BaseService.updateSessionStatus World.sessionCompleted
  cases hid : Uuid.parse sessionId with
  | error e => exact .done fun w _ u h => by cases h
  | ok id =>
      show Closing rt t _ (base ((ask (.getSessionById id)).bind _)) _
      simp only [base, Program.lift_bind]
      apply Triple.bind (M := fun (found : Option ParkingSession) w => ∀ row, found = some row →
        row.status = .completed → w.base.completed id = true)
      · apply Triple.perform lasting_true.stable
        intro w m r w' _ _ _ ho
        refine ⟨outcome_completed (.base (.getSessionById id)) (closes_of_effect (by simp [Op.effect])) ho, ?_⟩
        cases r with
        | error e => exact fun u h => by cases h
        | ok found =>
            obtain ⟨hr, rfl⟩ := base_ok ho
            rintro row rfl hs
            show w.base.completed id = true
            unfold Base.completed
            rw [Except.ok.inj hr]
            simpa using hs
      · intro found
        cases found with
        | none => exact .done fun w _ u h => by cases h
        | some row => exact Triple.conseq (setStatus_closes id row) (fun w hw => hw row rfl) fun _ _ h => h

/-- The second commit of a settling comes before its answer. -/
theorem settle_closes (session : ParkingSession) (txId : TxId) (carId key : String)
    (pgTxId approvalNo : Option String) (command : ProcessPaymentCommand) :
    Closing rt t (fun _ => True)
      (ProcessPaymentService.settle session txId carId key pgTxId approvalNo command)
      (fun r w => ∀ result, r = .ok result → w.sessionCompleted command.sessionId = true) := by
  unfold ProcessPaymentService.settle ProcessPaymentService.markPaymentSuccess
    ProcessPaymentService.publishPaymentNotificationBestEffort
  simp only [Program.bind_eq, Program.pure_eq]
  have hlast := lasting_sessionCompleted command.sessionId
  apply Triple.seq (P := fun _ => True)
  · apply Triple.seq (P := fun _ => True)
    · exact open_program [] (call_effects rfl) (by decide) lasting_true
    · exact fun _ _ h => h
    · exact fun _ => .done fun _ h => h
  · exact fun e w _ result h => by cases h
  · intro enqueued
    apply Triple.bind (M := fun _ w => w.sessionCompleted command.sessionId = true)
    · apply Triple.conseq (updateSessionStatus_closes command.sessionId) (fun _ h => h)
      intro r w hr
      cases r with
      | ok u => exact hr u rfl
      | error e => exact fun result h => by cases h
    · intro _
      apply Triple.seq
      · exact open_program [] (notifyPmsPaymentComplete_effects _) (by decide) hlast
      · exact fun e w _ result h => by cases h
      · intro _
        cases enqueued with
        | true => exact .done fun w hw result _ => hw
        | false =>
            apply Triple.seq
            · apply open_program [] ?_ (by decide) hlast
              apply Program.Calls.bind
              · exact (base_effects (ask_effects (by simp))).attempt
              · exact fun _ => trivial
            · exact fun e w _ result h => by cases h
            · exact fun _ => .done fun w hw result _ => hw

/-- A success is answered once the session is completed. -/
def Closed (sessionId : String) (r : Except PyError ProcessPaymentResult) (w : World) : Prop :=
  ∀ result, r = .ok result → result.status = .success → w.sessionCompleted sessionId = true

theorem closed_error (sessionId : String) (e : PyError) (w : World) :
    Closed sessionId (.error e) w := fun _ h => by cases h

theorem closed_failed {sessionId : String} {result : ProcessPaymentResult} {w : World}
    (h : result.status = .failed) : Closed sessionId (.ok result) w := by
  intro result' hr hs
  cases hr
  rw [h] at hs
  cases hs

theorem pay_closes (session : ParkingSession) (carId key : String)
    (command : ProcessPaymentCommand) :
    Closing rt t (fun _ => True) (ProcessPaymentService.pay session carId key command)
      (Closed command.sessionId) := by
  unfold ProcessPaymentService.pay ProcessPaymentService.charge
  simp only [Program.bind_eq, Program.pure_eq, Program.throw_eq, Program.tryCatch_eq]
  have hopen {β : Type} {p : Service β} (hp : ServiceEffects [] p) :
      Closing rt t (fun _ => True) p (fun _ _ => True) := open_program [] hp (by decide) lasting_true
  have herror : ∀ (e : PyError) (w : World), True → Closed command.sessionId (.error e) w :=
    fun e w _ => closed_error _ e w
  have hfail (key : String) (reason : Option String) (result : ProcessPaymentResult)
      (hresult : result.status = .failed) : Closing rt t (fun _ => True)
        ((updateTransactionStatus key .failed reason).bind fun _ => .done (.ok result))
        (Closed command.sessionId) :=
    Triple.seq (hopen (call_effects rfl)) herror fun _ => .done fun _ _ => closed_failed hresult
  apply Triple.seq (hopen (base_effects (ask_effects (by simp)))) herror
  intro found
  cases found with
  | none => exact .done (herror _)
  | some record =>
      apply Triple.seq (P := fun _ => True) ?_ herror
      · intro n
        apply Triple.seq (hopen (createPendingTransaction_effects ..)) herror
        intro _
        apply Triple.tryCatch (M := fun _ _ => True)
        · apply Triple.conseq (Q := Closed command.sessionId) ?_ (fun _ h => h)
          · intro r w hr
            cases r with
            | ok result => exact hr
            | error e => trivial
          · apply Triple.seq (hopen (chargeBillingKey_effects _)) herror
            intro result
            cases result with
            | failure pgTxId reason => exact hfail _ _ _ rfl
            | success pgTxId approvalNo =>
                exact Triple.conseq (settle_closes session _ carId key pgTxId approvalNo command)
                  (fun _ h => h) fun r w hr result hres _ => hr result hres
        · exact fun e => hfail _ _ _ rfl
      · exact open_program [.draw] (base_effects (ask_effects (by simp))) (by decide)
          lasting_true

theorem payFree_closes (session : ParkingSession) (carId key : String)
    (command : ProcessPaymentCommand) :
    Closing rt t (fun _ => True) (ProcessPaymentService.payFree session carId key command)
      (Closed command.sessionId) := by
  unfold ProcessPaymentService.payFree
  apply Triple.seq (P := fun _ => True)
  · exact open_program [] (createPendingTransaction_effects ..) (by decide) lasting_true
  · exact fun e w _ => closed_error _ e w
  · intro _
    exact Triple.conseq (settle_closes session _ carId key none (some "FREE") command)
      (fun _ h => h) fun r w hr result hres _ => hr result hres

/-- A repeated request finds a completed session or no success. -/
theorem getTransaction_closes (n : Nat) (key : String) (command : ProcessPaymentCommand) :
    Closing rt (.backend n (.processPayment command)) (fun _ => True)
      (getTransactionByIdempotencyKey key)
      (fun r w => ∀ existing, r = .ok (some existing) → existing.status = .success →
        w.sessionCompleted command.sessionId = true) := by
  apply Triple.perform lasting_true.stable
  intro w m r w' _ _ hp ho
  refine ⟨outcome_completed (.transactions (.getByIdempotencyKey key))
    (closes_of_effect (by simp [Op.effect])) ho, ?_⟩
  intro existing hr hs
  subst hr
  rcases (carPayIn rt).outcome_cases ho with ⟨rfl, h⟩ | ⟨e, -, h, -⟩ | ⟨e, r₀, -, h, -⟩
  · obtain ⟨hfound, rfl⟩ := Prod.mk.inj (Option.some.inj h)
    have hget : w.getTransaction key = some existing := Except.ok.inj hfound
    have hlookup : closedReplay (.backend n (.processPayment command))
        (.transactions (.getByIdempotencyKey key)) .answered w = true := hp
    simpa [closedReplay, hget, hs, ownSessionCompleted] using hlookup
  · cases h
  · cases h

theorem replay_closes (session : ParkingSession) (key : String) (command : ProcessPaymentCommand)
    (existing : Transaction) :
    Closing rt t (fun w => existing.status = .success → w.sessionCompleted command.sessionId = true)
      (ProcessPaymentService.replay session key command existing) (Closed command.sessionId) := by
  have hlast : Lasting fun w => existing.status = .success →
      w.sessionCompleted command.sessionId = true :=
    fun w w' hk h hs => lasting_sessionCompleted _ w w' hk (h hs)
  have hdone (result : ProcessPaymentResult) (hresult : result.status = existing.status) :
      ∀ w : World, (existing.status = .success → w.sessionCompleted command.sessionId = true) →
        Closed command.sessionId (.ok result) w := by
    intro w hw result' hr hs
    cases hr
    exact hw (hresult ▸ hs)
  unfold ProcessPaymentService.replay
  simp only [Program.bind_eq, Program.pure_eq]
  split
  · apply Triple.seq
    · exact open_program [] (notifyPmsPaymentComplete_effects _) (by decide) hlast
    · exact fun e w _ => closed_error _ e w
    · exact fun _ => .done (hdone _ rfl)
  · exact .done (hdone _ rfl)

theorem execute_closes (n : Nat) (command : ProcessPaymentCommand)
    (hdev : command.sessionId ≠ "sess_dev_001") :
    Closing rt (.backend n (.processPayment command)) (fun _ => True)
      (ProcessPaymentService.execute rt.sha256 command) (Closed command.sessionId) := by
  unfold ProcessPaymentService.execute
  rw [if_neg hdev]
  apply Triple.seq (P := fun _ => True)
  · exact open_program [] (base_effects (authorise_effects _)) (by decide) lasting_true
  · exact fun e w _ => closed_error _ e w
  · intro ⟨session, carId⟩
    apply Triple.bind (M := fun (found : Option Transaction) w => ∀ existing, found = some existing →
      existing.status = .success → w.sessionCompleted command.sessionId = true)
    · apply Triple.conseq (getTransaction_closes n _ command) (fun _ h => h)
      intro r w hr
      cases r with
      | ok found => exact fun existing he => hr existing (by rw [he])
      | error e => exact closed_error _ e w
    · intro found
      cases found with
      | some existing =>
          exact Triple.conseq (replay_closes session _ command existing)
            (fun w hw => hw existing rfl) fun _ _ h => h
      | none =>
          dsimp only
          split
          · exact .done fun w _ => closed_error _ _ w
          split
          · exact Triple.conseq (payFree_closes session carId _ command) (fun _ _ => trivial)
              fun _ _ h => h
          · exact Triple.conseq (pay_closes session carId _ command) (fun _ _ => trivial)
              fun _ _ h => h

theorem execute_dev {command : ProcessPaymentCommand} (hdev : command.sessionId = "sess_dev_001") :
    Closing rt t (fun _ => True) (ProcessPaymentService.execute rt.sha256 command)
      (fun _ _ => True) := by
  unfold ProcessPaymentService.execute
  rw [if_pos hdev]
  apply Triple.seq (P := fun _ => True)
  · exact open_program [.draw] (base_effects (ask_effects (by simp))) (by decide) lasting_true
  · exact fun e w h => h
  · exact fun n => .done fun _ h => h

/-! ## Runs -/

def World.Arbitrary (_ : World) : Prop := True

def closings : Outline PyError Reply World Tid where
  idle _ _ := True
  ended t r w := match t, r with
    | .backend _ (.processPayment command), .ok (.payment result) =>
        command.sessionId ≠ "sess_dev_001" → result.status = .success →
          w.sessionCompleted command.sessionId = true
    | _, _ => True
  stopped _ _ := True

theorem lasting_closings (t : Tid) (r : Except PyError Reply) : Lasting (closings.ended t r) := by
  intro w w' hk h
  unfold closings at h ⊢
  dsimp only at h ⊢
  split
  · exact fun hdev hs => lasting_sessionCompleted _ w w' hk (h hdev hs)
  · trivial

theorem begin_closes {x : Start} {p : Service Reply} (h : w.begin rt x = some (t, p, w')) :
    p.wp ((carPayIn rt).spec closedReplayPolicy closing t) (closings.ended t) w' := by
  have heffects := (begin_spec h).effects
  have hother (he : Effect.sessionStatus ∉ .nothing :: t.effects)
      (hended : ∀ r w, closings.ended t r w) :
      p.wp ((carPayIn rt).spec closedReplayPolicy closing t) (closings.ended t) w' :=
    (open_program _ heffects he lasting_true).conseq (fun _ h => h) (fun r w _ => hended r w) w' trivial
  cases x with
  | pg id =>
      obtain ⟨y, -, h⟩ := Option.map_eq_some_iff.mp h
      cases h
      exact hother (by simp [Tid.effects]) fun _ _ => trivial
  | card id =>
      obtain ⟨y, -, h⟩ := Option.map_eq_some_iff.mp h
      cases h
      exact hother (by simp [Tid.effects]) fun _ _ => trivial
  | backend n request =>
      cases h
      cases request with
      | processPayment command =>
          by_cases hdev : command.sessionId = "sess_dev_001"
          · apply Triple.map (P := fun _ => True) ?_ w trivial
            apply Triple.conseq (execute_dev hdev) (fun _ h => h)
            intro r w _
            cases r with
            | ok result => exact fun h => (h hdev).elim
            | error e => trivial
          · apply Triple.map (P := fun _ => True) ?_ w trivial
            apply Triple.conseq (execute_closes n command hdev) (fun _ h => h)
            intro r w hr
            cases r with
            | ok result => exact fun _ hs => hr result rfl hs
            | error e => trivial
      | _ => exact hother (by simp [Tid.effects, Request.effects]) fun _ _ => trivial

theorem carPayIn_closes (rt : Runtime) :
    (carPayIn rt).Meets closedReplayPolicy closing World.Arbitrary closings where
  init w _ := ⟨trivial, fun _ => trivial⟩
  moves w w' _ _ := trivial
  idle_stable t := .const True
  ended_stable t r := (lasting_closings t r).stable
  stopped_stable t := .const True
  start x w t p w' _ hb _ _ := by
    refine ⟨?_, fun _ => begin_closes hb⟩
    show CompletedKept w.base w'.base
    rw [(begin_spec hb).base]
    exact .refl _
  crash _ _ _ := trivial
  environment x w w' he _ := by
    obtain ⟨now, outside, scanned, -, hb⟩ := environment_base he
    show CompletedKept w.base w'.base
    apply CompletedKept.of_same
    rw [hb]

/-- Whenever a payment has answered success, its session is completed, as long
as no request is answered from a success whose session is still open. -/
theorem success_closes_session (rt : Runtime) {c : Config Op PyError Reply World Tid}
    (hc : (carPayIn rt).Reachable closedReplayPolicy World.Arbitrary c) {n : Nat}
    {command : ProcessPaymentCommand} {result : ProcessPaymentResult}
    (hended : c.pool (.backend n (.processPayment command)) = .ended (.ok (.payment result)))
    (hs : result.status = .success) (hdev : command.sessionId ≠ "sess_dev_001") :
    c.state.sessionCompleted command.sessionId = true := by
  have hA := ((carPayIn_closes rt).sound hc).2 (.backend n (.processPayment command))
  rw [hended] at hA
  exact hA hdev hs

theorem garage_arbitrary : garage.Arbitrary := trivial

namespace Garage

def command : ProcessPaymentCommand := ⟨token, sessionId, 1000, "KRW"⟩

/-- The backend stops between the two commits, and the request is repeated. -/
def repeatedAfterCrash : List Event :=
  request 0 (feeQuery sessionId) 5 ++ request 1 (payment sessionId 1000) 9 ++ approval 0 ++
    answers (.backend 1 (payment sessionId 1000)) 2 ++
    [.crash (.backend 1 (payment sessionId 1000))] ++ request 2 (payment sessionId 1000) 6

def success? (c : Config Op PyError Reply World Tid) (n : Nat) : Option ProcessPaymentResult :=
  match c.pool (.backend n (.processPayment command)) with
  | .ended (.ok (.payment result)) => if result.status = .success then some result else none
  | _ => none

theorem ended_of_success {c : Config Op PyError Reply World Tid} {n : Nat}
    (h : (success? c n).isSome = true) : ∃ result,
      c.pool (.backend n (.processPayment command)) = .ended (.ok (.payment result)) ∧
        result.status = .success := by
  unfold success? at h
  split at h
  · rename_i result hended
    split at h
    · exact ⟨result, hended, by assumption⟩
    · cases h
  · cases h

end Garage

/-- The garage's payment answers a success, and its session is completed. -/
theorem success_closes_session_garage : ∃ c, (carPayIn plainRuntime).Reachable closedReplayPolicy
    World.Arbitrary c ∧ (Garage.success? c 1).isSome = true ∧
      c.state.sessionCompleted Garage.sessionId = true := by
  have hrun : ((carPayIn plainRuntime).run closedReplayPolicy Garage.paidRun (boot garage)).any
      (fun c => (Garage.success? c 1).isSome) = true := by decide +kernel
  obtain ⟨c, hc, hsuccess⟩ := (carPayIn plainRuntime).exists_of_run hrun garage_arbitrary
  obtain ⟨result, hended, hs⟩ := Garage.ended_of_success hsuccess
  exact ⟨c, hc, hsuccess, success_closes_session plainRuntime hc hended hs (by decide)⟩

/-- The repeated request is answered with a success, and the session stays open. -/
theorem success_with_open_session : ¬∀ rt c, (carPayIn rt).Reachable outagePolicy World.Arbitrary c →
    ∀ n command result,
      c.pool (.backend n (.processPayment command)) = .ended (.ok (.payment result)) →
        result.status = .success → command.sessionId ≠ "sess_dev_001" →
          c.state.sessionCompleted command.sessionId = true := by
  intro h
  have hrun : ((carPayIn plainRuntime).run outagePolicy Garage.repeatedAfterCrash (boot garage)).any
      (fun c => (Garage.success? c 2).isSome && !c.state.sessionCompleted Garage.sessionId) =
        true := by decide +kernel
  obtain ⟨c, hc, htest⟩ := (carPayIn plainRuntime).exists_of_run hrun garage_arbitrary
  obtain ⟨hsuccess, hopen⟩ := (Bool.and_eq_true ..).mp htest
  obtain ⟨result, hended, hs⟩ := Garage.ended_of_success hsuccess
  have hclosed := h plainRuntime c hc 2 Garage.command result hended hs (by decide)
  rw [show Garage.command.sessionId = Garage.sessionId from rfl] at hclosed
  simp [hclosed] at hopen

end CarPayIn
