import CarPayIn.Payments.Backing
import CarPayIn.Payments.Alone
import CarPayIn.Process.Lookups

/-! # What a payment answers

A row of the transactions keeps its identifier and its idempotency key for good.
Whatever a payment request answers, from a row it has found or from the row it
has inserted, it names the transaction under its own key.
-/

namespace CarPayIn

open Process Process.System Store Ledger Service

variable {rt : Runtime} {t : Tid} {w w' : World} {α : Type} {key sessionId : String} {txId : TxId}

def naming : Contract World Tid where
  invariant w := w.ledger.Coherent
  guarantee := (contract Regime.any).guarantee
  environment := (contract Regime.any).environment
  assumed := (contract Regime.any).guarantee

def Growing (P : World → Prop) : Prop := ∀ w w', Grows w.ledger w'.ledger → P w → P w'

theorem Growing.stable {P : World → Prop} (hP : Growing P) : naming.Stable t P := by
  intro w w' hi hw
  rcases hi.2.2 with ⟨t', -, hstep, -⟩ | ⟨hstep, -⟩
  · exact hP w w' hstep.grows hw
  · exact hP w w' hstep.grows hw

def Names (key : String) (txId : TxId) (w : World) : Prop :=
  ∃ row, w.ledger.transactions key = some row ∧ row.txId = txId

theorem growing_names (key : String) (txId : TxId) : Growing (Names key txId) := by
  rintro w w' hg ⟨row, hrow, hid⟩
  obtain ⟨row', hrow', hsame⟩ := hg.transactions key row hrow
  exact ⟨row', hrow', hsame.txId.trans hid⟩

theorem growing_true : Growing fun _ => True := fun _ _ _ h => h

abbrev Naming (rt : Runtime) (t : Tid) (P : World → Prop) (p : Service α)
    (Q : α → World → Prop) : Prop :=
  (carPayIn rt).Returns Policy.any naming t P p Q

/-! ## The calls -/

theorem growing_program {P : World → Prop} (hP : Growing P) (p : Service α) :
    Naming rt t P p fun _ => P := by
  apply Returns.calls (.of_forall ?_ p) hP.stable
  intro β op w m r w' hw _ _ _ ha
  exact ⟨ha, hP w w' (Step.grows ha.1) hw⟩

/-- What the state answers to a call, with what is known of the ledgers after it. -/
theorem naming_call {op : Op α} {P : World → Prop} {Q : α → World → Prop} (hP : Growing P)
    (h : ∀ w a w', P w → w.exec t op = some (.ok a, w') → Q a w') :
    Naming rt t P (call op) Q := by
  apply Triple.perform_assuming hP.stable
  intro w m r w' hw _ _ ho ha
  refine ⟨ha, fun a hr => ?_⟩
  subst hr
  rcases (carPayIn rt).outcome_cases ho with ⟨-, he⟩ | ⟨e, -, he, -⟩ | ⟨e, r₀, -, he, -⟩
  · exact h w a w' hw he
  · cases he
  · cases he

theorem getTransaction_naming (key : String) : Naming rt t (fun _ => True)
    (getTransactionByIdempotencyKey key) fun found w =>
      ∀ row, found = some row → Names key row.txId w := by
  apply naming_call growing_true
  intro w found w' _ he row hfound
  subst hfound
  have hr := congrArg Prod.fst (Option.some.inj he)
  have hw : w = w' := congrArg Prod.snd (Option.some.inj he)
  subst hw
  exact ⟨row, Except.ok.inj hr, rfl⟩

theorem createPendingTransaction_naming (amount : Int) (currency billingKey : String) :
    Naming rt t (fun _ => True)
      (createPendingTransaction txId key sessionId amount currency billingKey)
      fun _ => Names key txId := by
  unfold createPendingTransaction
  apply (growing_program growing_true _).bind
  intro id
  apply (growing_program growing_true _).bind
  intro found
  cases found with
  | none => exact Returns.throw
  | some session =>
      apply naming_call growing_true
      intro w u w' _ he
      have hx : w.write (w.insertTransaction _) = (.ok u, w') := Option.some.inj he
      generalize hinsert : w.insertTransaction _ = x at hx
      cases x with
      | error e => cases hx
      | ok w₁ =>
          cases hx
          obtain ⟨-, hledger, -⟩ := World.insertTransaction_spec hinsert
          rw [Names, hledger]
          exact ⟨_, Function.update_self .., rfl⟩

/-! ## The service -/

section
variable {carId : String} {session : ParkingSession} {command : ProcessPaymentCommand}

/-- A program that ends with such a result names the transaction it began with. -/
theorem settle_naming (pgTxId approvalNo : Option String) :
    Naming rt t (Names key txId)
      (ProcessPaymentService.settle session txId carId key pgTxId approvalNo command)
      fun result => Names key result.txId := by
  have hnames := growing_names key txId
  unfold ProcessPaymentService.settle
  simp only [Program.bind_eq, Program.pure_eq]
  apply (growing_program hnames _).bind
  intro enqueued
  apply (growing_program hnames _).bind
  intro _
  apply (growing_program hnames _).bind
  intro _
  cases enqueued with
  | true => exact Returns.pure fun _ h => h
  | false => exact (growing_program hnames _).bind fun _ => Returns.pure fun _ h => h

theorem charge_naming (billingKey : String) :
    Naming rt t (Names key txId)
      (ProcessPaymentService.charge session txId carId key billingKey command)
      fun result => Names key result.txId := by
  have hnames := growing_names key txId
  unfold ProcessPaymentService.charge
  apply (growing_program hnames _).bind
  intro answer
  cases answer with
  | success pgTxId approvalNo => exact settle_naming pgTxId approvalNo
  | failure pgTxId failedReason =>
      exact (growing_program hnames _).bind fun _ => Returns.pure fun _ h => h

theorem pay_naming : Naming rt t (fun _ => True)
    (ProcessPaymentService.pay session carId key command) fun result => Names key result.txId := by
  unfold ProcessPaymentService.pay
  apply (growing_program growing_true _).bind
  intro record
  cases record with
  | none => exact Returns.throw
  | some record =>
      apply (growing_program growing_true _).bind
      intro n
      apply (createPendingTransaction_naming _ _ _).bind
      intro _
      have hnames := growing_names key (.v4 n)
      apply Returns.tryCatch (M := fun _ => Names key (.v4 n))
      · apply Triple.conseq ((charge_naming record.billingKey).frame hnames.stable
          fun w w' hg => hnames w w' (Step.grows hg.1)) (fun _ h => ⟨h, h⟩)
        rintro r w ⟨hr, hkept⟩
        exact ⟨hr, fun _ _ => hkept⟩
      · intro e
        exact (growing_program hnames _).bind fun _ => Returns.pure fun _ h => h

theorem payFree_naming : Naming rt t (fun _ => True)
    (ProcessPaymentService.payFree session carId key command)
    fun result => Names key result.txId :=
  (createPendingTransaction_naming _ _ _).bind fun _ => settle_naming none (some "FREE")

theorem replay_naming (existing : Transaction) : Naming rt t (Names key existing.txId)
    (ProcessPaymentService.replay session key command existing)
    fun result => Names key result.txId := by
  have hnames := growing_names key existing.txId
  unfold ProcessPaymentService.replay
  split
  · exact (growing_program hnames _).bind fun _ => Returns.pure fun _ h => h
  · exact Returns.pure fun _ h => h

end

def NamesOwn (rt : Runtime) (command : ProcessPaymentCommand) (txId : TxId) (w : World) : Prop :=
  ∃ claims, command.accessToken = .signed claims ∧
    Names (ProcessPaymentService.idempotencyKey rt.sha256 claims.subject command) txId w

theorem authorise_naming (command : ProcessPaymentCommand) : Naming rt t (fun _ => True)
    (base (ProcessPaymentService.authorise command)) fun found _ =>
      ∃ claims, command.accessToken = .signed claims ∧ found.2 = claims.subject := by
  unfold ProcessPaymentService.authorise
  simp only [Program.bind_eq, base_bind]
  apply Returns.bind (M := fun claims _ => command.accessToken = .signed claims)
  · apply naming_call growing_true
    intro w claims w' _ he
    exact Base.validateToken_ok (exec_base he).1
  intro claims
  have hsigned : Growing fun _ => command.accessToken = .signed claims := fun _ _ _ h => h
  apply (growing_program hsigned _).bind
  intro quote
  cases quote with
  | none => exact Returns.throw
  | some quote =>
      dsimp only
      split
      · exact Returns.throw
      rw [base_bind]
      apply (growing_program hsigned _).bind
      intro session
      cases session with
      | none => exact Returns.throw
      | some session =>
          dsimp only
          split
          · exact Returns.throw
          · exact Returns.pure fun _ h => ⟨claims, h, rfl⟩

theorem execute_naming (command : ProcessPaymentCommand) :
    Naming rt t (fun _ => True) (ProcessPaymentService.execute rt.sha256 command)
      fun result w => command.sessionId ≠ "sess_dev_001" → NamesOwn rt command result.txId w := by
  unfold ProcessPaymentService.execute
  split
  · rename_i hdev
    exact (growing_program growing_true _).conseq (fun _ h => h) fun _ _ _ h => absurd hdev h
  apply (authorise_naming command).bind
  rintro ⟨session, carId⟩ w ⟨claims, htoken, rfl⟩
  refine Triple.conseq (P := fun _ => True) (Q := fun r w => ∀ result, r = .ok result →
    Names (ProcessPaymentService.idempotencyKey rt.sha256 claims.subject command) result.txId w)
    ?_ (fun _ h => h) (fun r w h result hr _ => ⟨claims, htoken, h result hr⟩) w trivial
  apply (getTransaction_naming _).bind
  intro found
  cases found with
  | some existing => exact (replay_naming existing).conseq (fun _ h => h existing rfl) fun _ _ h => h
  | none =>
      dsimp only
      split
      · exact Returns.throw
      split
      · exact payFree_naming.conseq (fun _ _ => trivial) fun _ _ h => h
      · exact pay_naming.conseq (fun _ _ => trivial) fun _ _ h => h

/-! ## Every run -/

/-- What is known of a payment that has been answered. -/
def answerNames (rt : Runtime) : Outline PyError Reply World Tid where
  idle t w := Absent t w.ledger
  ended t r w := match t, r with
    | .backend _ (.processPayment command), .ok (.payment result) =>
        command.sessionId ≠ "sess_dev_001" → NamesOwn rt command result.txId w
    | _, _ => True
  stopped _ _ := True

theorem growing_answerNames (t : Tid) (r : Except PyError Reply) : Growing ((answerNames rt).ended t r) := by
  intro w w' hg h
  unfold answerNames at h ⊢
  dsimp only at h ⊢
  split
  · intro hdev
    obtain ⟨claims, htoken, hnames⟩ := h hdev
    exact ⟨claims, htoken, growing_names _ _ w w' hg hnames⟩
  · trivial

theorem begin_naming {x : Start} {p : Service Reply} (h : w.begin rt x = some (t, p, w')) :
    p.wp ((carPayIn rt).spec Policy.any naming t) ((answerNames rt).ended t) w' := by
  have hother (p : Service Reply) (hended : ∀ r w, (answerNames rt).ended t r w) (w : World) :
      p.wp ((carPayIn rt).spec Policy.any naming t) ((answerNames rt).ended t) w :=
    Triple.conseq (growing_program growing_true p) (fun _ h => h) (fun r w _ => hended r w) w trivial
  cases x with
  | pg id | card id =>
      obtain ⟨y, -, h⟩ := Option.map_eq_some_iff.mp h
      cases h
      exact hother _ (fun _ _ => trivial) _
  | backend n request =>
      cases h
      cases request with
      | processPayment command =>
          apply Triple.map (P := fun _ => True) ?_ w trivial
          apply Triple.conseq (execute_naming command) (fun _ h => h)
          intro r w hr
          cases r with
          | ok result => exact hr result rfl
          | error e => trivial
      | _ => exact hother _ (fun _ _ => trivial) _

theorem carPayIn_answers (rt : Runtime) :
    (carPayIn rt).Meets Policy.any naming World.Unpaid (answerNames rt) where
  init := (carPayIn_meets rt within_any).init
  moves := (carPayIn_meets rt within_any).moves
  idle_stable := (carPayIn_meets rt within_any).idle_stable
  ended_stable t r := (growing_answerNames t r).stable
  stopped_stable _ := .const True
  start _ _ _ _ _ _ hb _ ha := ⟨(start_step within_any hb ha).1, fun _ => begin_naming hb⟩
  crash _ _ _ := trivial
  environment _ _ _ he hp := environment_step within_any he hp
  assumed _ hc _ _ _ _ _ _ _ hl hp ho := (carPayIn_meets rt within_any).guarantee hc hl hp ho

/-- Every answered payment names the transaction under its idempotency key, and two answers name
one transaction exactly when their requests have one key. -/
theorem answers_name_transactions (rt : Runtime) {c : Config Op PyError Reply World Tid}
    (hc : (carPayIn rt).Reachable Policy.any World.Unpaid c) {n n' : Nat}
    {command command' : ProcessPaymentCommand} {result result' : ProcessPaymentResult}
    {claims claims' : TokenClaims} (htoken : command.accessToken = .signed claims)
    (htoken' : command'.accessToken = .signed claims')
    (hdev : command.sessionId ≠ "sess_dev_001") (hdev' : command'.sessionId ≠ "sess_dev_001")
    (hended : c.pool (.backend n (.processPayment command)) = .ended (.ok (.payment result)))
    (hended' : c.pool (.backend n' (.processPayment command')) = .ended (.ok (.payment result'))) :
    (∃ row ∈ c.state.transactions, row.txId = result.txId ∧ row.idempotencyKey =
        ProcessPaymentService.idempotencyKey rt.sha256 claims.subject command) ∧
      (result.txId = result'.txId ↔
        ProcessPaymentService.idempotencyKey rt.sha256 claims.subject command =
          ProcessPaymentService.idempotencyKey rt.sha256 claims'.subject command') := by
  have hcoherent := coherent_of_reachable within_any hc
  have hnamed {n : Nat} {command : ProcessPaymentCommand} {result : ProcessPaymentResult}
      {claims : TokenClaims} (htoken : command.accessToken = .signed claims)
      (hdev : command.sessionId ≠ "sess_dev_001")
      (hended : c.pool (.backend n (.processPayment command)) = .ended (.ok (.payment result))) :
      Names (ProcessPaymentService.idempotencyKey rt.sha256 claims.subject command) result.txId
        c.state := by
    have hA := ((carPayIn_answers rt).sound hc).2 (.backend n (.processPayment command))
    rw [hended] at hA
    obtain ⟨claims₀, htoken₀, hnames⟩ : NamesOwn rt command result.txId c.state := hA hdev
    rw [htoken] at htoken₀
    cases htoken₀
    exact hnames
  obtain ⟨row, hrow, hid⟩ := hnamed htoken hdev hended
  obtain ⟨row', hrow', hid'⟩ := hnamed htoken' hdev' hended'
  refine ⟨⟨row, mem_of_get? hrow, hid, hcoherent.key _ row hrow⟩, ?_⟩
  rw [← hid, ← hid']
  constructor
  · exact hcoherent.txId _ _ row row' hrow hrow'
  · intro hkey
    rw [hkey, hrow'] at hrow
    cases hrow
    rfl

def Reply.isPayment : Reply → Bool
  | .payment _ => true
  | _ => false

/-- A payment that goes through, and the same request once more. -/
theorem answers_name_transactions_garage : ∃ c, (carPayIn plainRuntime).Reachable Policy.any
    World.Unpaid c ∧ ∃ result result', result.txId = result'.txId ∧
      c.pool (.backend 1 (Garage.payment Garage.sessionId 1000)) = .ended (.ok (.payment result)) ∧
      c.pool (.backend 2 (Garage.payment Garage.sessionId 1000)) =
        .ended (.ok (.payment result')) := by
  have hrun : ((carPayIn plainRuntime).run Policy.any
      (Garage.paidRun ++ Garage.request 2 (Garage.payment Garage.sessionId 1000) 6)
      (boot garage)).any (fun c => [1, 2].all fun n =>
        (c.pool (.backend n (Garage.payment Garage.sessionId 1000))).result?.any fun r =>
          r.toOption.any Reply.isPayment) = true := by
    decide +kernel
  obtain ⟨c, hc, hended⟩ := (carPayIn plainRuntime).exists_of_run hrun garage_unpaid
  have hended {n : Nat} (hn : n ∈ [1, 2]) : ∃ result,
      c.pool (.backend n (Garage.payment Garage.sessionId 1000)) = .ended (.ok (.payment result)) := by
    obtain ⟨r, hr, hpayment⟩ := (Option.any_eq_true ..).mp (List.all_eq_true.mp hended n hn)
    cases r with
    | error e => cases hpayment
    | ok reply =>
        cases reply with
        | payment result => exact ⟨result, Thread.result?_eq_some.mp hr⟩
        | _ => cases hpayment
  obtain ⟨result, h₁⟩ := hended (n := 1) (by decide)
  obtain ⟨result', h₂⟩ := hended (n := 2) (by decide)
  exact ⟨c, hc, result, result',
    (answers_name_transactions plainRuntime hc rfl rfl (by decide) (by decide) h₁ h₂).2.mpr rfl, h₁, h₂⟩

end CarPayIn
