import CarPayIn.Payments.Interference

/-! # `ProcessPaymentService` keeps the contract

One pass over the service, from the checks before the transaction to the
exception handler of the paid branch. What is known at each call is an
assertion about the execution's own transaction and charge request.
-/

namespace CarPayIn

open Process Process.System Store Ledger Service

variable {rt : Runtime} {π : Policy Op PyError World Tid Start Env} {Γ : Regime} {t : Tid}
  {key : String} {amount : Int} {currency : String} {α : Type}

/-! ## Stable assertions -/

theorem stable_of_ledger {A : Ledger → Prop} (h : ∀ ℓ ℓ', Interference Γ t ℓ ℓ' → A ℓ → A ℓ') :
    (contract Γ).Stable t fun w => A w.ledger := by
  rintro w w' ⟨hi, -, hs⟩ hA
  refine h w.ledger w'.ledger ⟨hi, ?_⟩ hA
  rcases hs with ⟨t', ht, hs, -⟩ | ⟨hs, -⟩
  · exact .inl ⟨t', ht, hs⟩
  · exact .inr hs

def KnowsSession (sessionId : String) (w : World) : Prop :=
  ∃ id, Uuid.parse sessionId = .ok id ∧ (w.base.getSessionById id).isSome

theorem robust_knowsSession (sessionId : String) : Robust (KnowsSession sessionId) :=
  fun _ _ _ hk ⟨id, hid, h⟩ => ⟨id, hid, hk.isSome h⟩

theorem stable_knowsSession (sessionId : String) :
    (contract Γ).Stable t (KnowsSession sessionId) := by
  rintro w w' ⟨-, -, ⟨t', -, -, hk⟩ | ⟨-, hk⟩⟩ ⟨id, hid, h⟩ <;> exact ⟨id, hid, hk.isSome h⟩

theorem guarantee_knowsSession (sessionId : String) (w w' : World)
    (h : (contract Γ).guarantee t w w') : KnowsSession sessionId w → KnowsSession sessionId w' :=
  fun ⟨id, hid, hs⟩ => ⟨id, hid, h.2.isSome hs⟩

theorem stable_untouched : (contract Γ).Stable t fun w => Untouched t w.ledger :=
  stable_of_ledger fun _ _ h => h.untouched

theorem stable_noPgCall : (contract Γ).Stable t fun w => w.ledger.NoPgCall t :=
  stable_of_ledger fun _ _ h => h.noPgCall

theorem stable_owns (status : TransactionStatus) :
    (contract Γ).Stable t fun w => Owns t key status amount currency w.ledger :=
  stable_of_ledger fun _ _ h => h.owns

/-! ## Calls that may raise -/

/-- A commit either changes nothing and raises, or takes effect and reports it or not. -/
theorem write_outcome {op : Op Unit} {x : World → Except PyError World}
    (hx : ∀ w : World, w.exec t op = some (w.write (x w))) {m : Mode PyError}
    {r : Except PyError Unit} {w w' : World} (h : (carPayIn rt).outcome t op m w = some (r, w')) :
    (w' = w ∧ (∃ e, r = .error e) ∧ (m = .answered → ∃ e, x w = .error e)) ∨
      x w = .ok w' ∧ (m = .answered ∧ r = .ok () ∨ ∃ e, m = .lost e ∧ r = .error e) := by
  have hexec : ∀ r₀ : Except PyError Unit, (carPayIn rt).exec t op w = some (r₀, w') →
      (w' = w ∧ (∃ e, r₀ = .error e) ∧ ∃ e, x w = .error e) ∨ x w = .ok w' ∧ r₀ = .ok () := by
    intro r₀ h₀
    have h₁ : some (w.write (x w)) = some (r₀, w') := (hx w).symm.trans h₀
    unfold World.write at h₁
    cases hxw : x w with
    | ok w₁ => rw [hxw] at h₁; cases h₁; exact .inr ⟨rfl, rfl⟩
    | error e => rw [hxw] at h₁; cases h₁; exact .inl ⟨rfl, ⟨e, rfl⟩, e, rfl⟩
  rcases (carPayIn rt).outcome_cases h with ⟨rfl, h⟩ | ⟨e, rfl, rfl, rfl⟩ | ⟨e, r₀, rfl, rfl, h₀⟩
  · rcases hexec r h with ⟨hw, hr, he⟩ | ⟨hw, hr⟩
    · exact .inl ⟨hw, hr, fun _ => he⟩
    · exact .inr ⟨hw, .inl ⟨rfl, hr⟩⟩
  · exact .inl ⟨rfl, ⟨e, rfl⟩, fun h => by cases h⟩
  · rcases hexec r₀ h₀ with ⟨hw, -, -⟩ | ⟨hw, -⟩
    · exact .inl ⟨hw, ⟨e, rfl⟩, fun h => by cases h⟩
    · exact .inr ⟨hw, .inr ⟨e, rfl, rfl⟩⟩

/-- A call none of whose faults is tolerated raises only in a regime of faults. -/
theorem Within.faults_of_error (hW : Within π Γ) (op : Op α)
    (hop : ∀ m, tolerated op m = true → m = .answered) {m : Mode PyError} {w : World}
    (hp : π.call t op m w) (hm : m ≠ .answered) : Γ.faults :=
  (hW.faults t op m w hp).resolve_left fun h => hm (hop m h)

/-! ## The success commit and what follows it -/

/-- The payment is settled; an error of a paid execution needs a regime of late faults. -/
def Settled (Γ : Regime) (t : Tid) (key : String) (amount : Int) (currency : String)
    (r : Except PyError α) (w : World) : Prop :=
  Owns t key .success amount currency w.ledger ∧ ∀ e, r = .error e → amount = 0 ∨ Γ.lateFaults

theorem settledBy_of_owns {w : World} (h : Owns t key .success amount currency w.ledger)
    (hne : amount ≠ 0) : settledBy t w = true := by
  obtain ⟨row, hrow, hby, hs, rfl, -⟩ := h
  exact List.any_eq_true.mpr ⟨row, mem_of_get? hrow, by simp [hby, hs, hne]⟩

/-- A quiet call after the success that can raise only by a fault. What it answers, it answers in
some state of the precondition. -/
theorem settled_call (hW : Within π Γ) (op : Op α) (hq : Quiet op)
    (hop : ∀ m, tolerated op m = true → m = .answered) {P : World → Prop}
    (hP : (contract Γ).Stable t P) (hr : Robust P)
    (hok : ∀ w r w', P w → w.exec t op = some (r, w') → ∃ a, r = .ok a) :
    (carPayIn rt).Triple π (contract Γ) t
      (fun w => Owns t key .success amount currency w.ledger ∧ P w) (.perform op)
      (fun r w => (Settled Γ t key amount currency r w ∧ P w) ∧
        ∀ a, r = .ok a → ∃ w₀ w₁, (Owns t key .success amount currency w₀.ledger ∧ P w₀) ∧
          w₀.exec t op = some (.ok a, w₁)) := by
  refine .perform ((stable_owns .success).and hP) fun w m r w' ⟨ho, hp⟩ _ hpol hout => ?_
  obtain ⟨hl, hk⟩ := quiet_outcome op hq hout
  have hanswer : ∀ a, r = .ok a → ∃ w₀ w₁, (Owns t key .success amount currency w₀.ledger ∧ P w₀) ∧
      w₀.exec t op = some (.ok a, w₁) := by
    rintro a rfl
    exact ⟨w, w', ⟨ho, hp⟩, ((carPayIn rt).outcome_ok hout).2⟩
  refine ⟨guarantee_of_quiet hl hk, ⟨⟨by rw [hl]; exact ho, ?_⟩, hr w w' hl hk hp⟩, hanswer⟩
  rintro e rfl
  by_cases h0 : amount = 0
  · exact .inl h0
  · rcases hW.lateFaults t op m w hpol with htol | hlate | hearly
    · cases hop m htol
      obtain ⟨a, ha⟩ := hok w _ w' hp hout
      cases ha
    · exact .inr hlate
    · simp [early, settledBy_of_owns ho h0] at hearly

def UpdatesSession (id : Uuid) {β : Type} : BaseOp β → Prop
  | .getSessionById id' => id' = id
  | .now => True
  | .commitSession id' _ => id' = id
  | _ => False

/-- None of them raises when the session is there. -/
theorem UpdatesSession.answers {id : Uuid} {op : BaseOp α} (hop : UpdatesSession id op) {b : Base}
    (hs : (b.getSessionById id).isSome) : ∃ a, (b.exec op).1 = .ok a := by
  cases op with
  | getSessionById id' => exact ⟨_, rfl⟩
  | now => exact ⟨_, rfl⟩
  | commitSession id' change =>
      obtain rfl : id' = id := hop
      obtain ⟨row, hrow⟩ := Option.isSome_iff_exists.mp hs
      refine ⟨(), ?_⟩
      simp only [Base.exec, Base.commitSession, hrow]
      split <;> rfl
  | _ => exact hop.elim

/-- An update of a session that is there: what each of its calls keeps and raises, it keeps and
raises as a whole. -/
theorem updateSessionStatus_triple {R : Contract World Tid} {P E : World → Prop} {sessionId : String}
    {id : Uuid} (status : SessionStatus) (hid : Uuid.parse sessionId = .ok id)
    (hs : ∀ w, P w → (w.base.getSessionById id).isSome)
    (hcall : ∀ {β : Type} (op : BaseOp β), UpdatesSession id op →
      (carPayIn rt).Triple π R t P (.perform (.base op)) (fun r w => P w ∧ (∀ e, r = .error e → E w) ∧
        ∀ a, r = .ok a → ∃ w₀, P w₀ ∧ (w₀.base.exec op).1 = .ok a)) :
    (carPayIn rt).Triple π R t P (base (BaseService.updateSessionStatus sessionId status))
      (fun r w => P w ∧ ∀ e, r = .error e → E w) := by
  have hraised : ∀ {β : Type} {r : Except PyError β} {w : World}, P w → (∀ e, r = .error e → E w) →
      ∀ e, r = .error e → P w ∧ ∀ e' : PyError, (.error e : Except PyError Unit) = .error e' → E w :=
    fun hp he e hr => ⟨hp, fun _ _ => he e hr⟩
  have hcommit : ∀ change : SessionChange, (carPayIn rt).Triple π R t P
      (base (ask (.commitSession id change))) (fun r w => P w ∧ ∀ e, r = .error e → E w) :=
    fun change => (hcall (.commitSession id change) rfl).conseq (fun _ h => h) fun _ _ h => ⟨h.1, h.2.1⟩
  unfold BaseService.updateSessionStatus BaseService.setStatus
  rw [hid]
  show (carPayIn rt).Triple π R t P (base ((ask (.getSessionById id)).bind _)) _
  simp only [base, Program.lift_bind]
  refine Triple.bind (M := fun (found : Option ParkingSession) w => found.isSome ∧ P w) ?_ ?_
  · refine (hcall (.getSessionById id) rfl).conseq (fun _ h => h) ?_
    rintro (e | found) w ⟨hp, he, ha⟩
    · exact hraised hp he e rfl
    · obtain ⟨w₀, hp₀, hfound⟩ := ha found rfl
      exact ⟨Except.ok.inj hfound ▸ hs w₀ hp₀, hp⟩
  · rintro (- | row)
    · rintro w ⟨h, -⟩
      cases h
    · dsimp only
      split
      · simp only [Program.bind_eq, Program.lift_bind]
        refine Triple.bind (M := fun _ => P) ?_ fun now => hcommit _
        refine (hcall .now trivial).conseq (fun _ h => h.2) ?_
        rintro (e | now) w ⟨hp, he, -⟩
        · exact hraised hp he e rfl
        · exact hp
      · exact (hcommit _).conseq (fun _ h => h.2) fun _ _ h => h

theorem KnowsSession.isSome {sessionId : String} {id : Uuid} {w : World}
    (h : KnowsSession sessionId w) (hid : Uuid.parse sessionId = .ok id) :
    (w.base.getSessionById id).isSome := by
  obtain ⟨id', hid', hs⟩ := h
  rw [hid] at hid'
  cases hid'
  exact hs

theorem settled_updateSessionStatus (hW : Within π Γ) (sessionId : String)
    (status : SessionStatus) :
    (carPayIn rt).Triple π (contract Γ) t
      (fun w => Owns t key .success amount currency w.ledger ∧ KnowsSession sessionId w)
      (base (BaseService.updateSessionStatus sessionId status))
      (fun r w => Settled Γ t key amount currency r w) := by
  cases hid : Uuid.parse sessionId with
  | error e =>
      rintro w ⟨-, id, hp, -⟩
      rw [hid] at hp
      cases hp
  | ok id =>
      refine (updateSessionStatus_triple (E := fun _ => amount = 0 ∨ Γ.lateFaults) status hid
        (fun w hw => hw.2.isSome hid) fun {β} op hop => ?_).conseq (fun _ h => h) fun r w h => ⟨h.1.1, h.2⟩
      have htol : ∀ m, tolerated (.base op) m = true → m = .answered := by
        cases op <;> first | exact hop.elim | exact fun _ h => of_decide_eq_true h
      refine (settled_call hW (.base op) trivial htol (stable_knowsSession sessionId)
        (robust_knowsSession sessionId) ?_).conseq (fun _ h => h) fun r w h => ?_
      · intro w r w' hw hexec
        obtain ⟨a, ha⟩ := hop.answers (hw.isSome hid)
        exact ⟨a, (congrArg Prod.fst (Option.some.inj hexec)).symm.trans ha⟩
      · refine ⟨⟨h.1.1.1, h.1.2⟩, h.1.1.2, fun a ha => ?_⟩
        obtain ⟨w₀, w₁, hw₀, hexec⟩ := h.2 a ha
        exact ⟨w₀, hw₀, congrArg Prod.fst (Option.some.inj hexec)⟩

/-- A failed notification is recorded, a sent one forgotten. -/
theorem settled_notify (hW : Within π Γ) (payload : PaymentComplete) :
    (carPayIn rt).Triple π (contract Γ) t
      (fun w => Owns t key .success amount currency w.ledger)
      (ProcessPaymentService.notifyPmsPaymentComplete payload)
      (fun r w => Settled Γ t key amount currency r w) := by
  have hretries : ∀ {γ : Type} (op : CacheOp TxId RetryEvent γ),
      (carPayIn rt).Triple π (contract Γ) t
        (fun w => Owns t key .success amount currency w.ledger) (.perform (.retries op))
        (fun r w => Settled Γ t key amount currency r w) := by
    intro γ op
    refine (settled_call (P := fun _ => True) hW (.retries op) trivial
      (fun _ h => of_decide_eq_true h) (.const True)
      (fun _ _ _ _ h => h) ?_).conseq (fun _ h => ⟨h, trivial⟩) fun _ _ h => h.1.1
    intro w r w' _ hexec
    cases hexec
    exact ⟨_, rfl⟩
  refine .bind (M := fun _ w => Owns t key .success amount currency w.ledger) (.attempt ?_) ?_
  · exact quiet_call trivial (stable_owns .success) (Robust.of_ledger _)
  · rintro (e | u)
    · exact hretries _
    · exact hretries _

def Approved (t : Tid) (key : String) (amount : Int) (pgTxId approvalNo : Option String)
    (w : World) : Prop :=
  amount = 0 ∨ ∃ r, w.ledger.PgAnswer t key r ∧ Approves r pgTxId approvalNo

theorem stable_approved (pgTxId approvalNo : Option String) :
    (contract Γ).Stable t (Approved t key amount pgTxId approvalNo) :=
  (stable_of_ledger (A := fun ℓ => amount = 0 ∨ ∃ r, ℓ.PgAnswer t key r ∧
    Approves r pgTxId approvalNo) fun _ _ h => Or.imp_right fun ⟨r, hr, ha⟩ =>
      ⟨r, h.grows.pgAnswer hr, ha⟩)

/-- What an error of the settling leaves behind. -/
def SettleError (Γ : Regime) (t : Tid) (key : String) (amount : Int) (currency : String)
    (w : World) : Prop :=
  Owns t key .pending amount currency w.ledger ∧ Γ.faults ∨
    Owns t key .success amount currency w.ledger ∧ (amount = 0 ∨ Γ.lateFaults)

theorem Settled.settleError {r : Except PyError α} {e : PyError} {w : World}
    (h : Settled Γ t key amount currency r w) (he : r = .error e) :
    SettleError Γ t key amount currency w :=
  .inr ⟨h.1, h.2 e he⟩

theorem markPaymentSuccess_call (hW : Within π Γ) {pgTxId approvalNo : Option String}
    {destination : String} {payload : PaymentNotification} :
    (carPayIn rt).Triple π (contract Γ) t
      (fun w => Owns t key .pending amount currency w.ledger ∧
        Approved t key amount pgTxId approvalNo w)
      (call (.transactions (.markSuccessAndEnqueue key pgTxId approvalNo destination payload)))
      (fun r w => match r with
        | .ok _ => Owns t key .success amount currency w.ledger
        | .error _ => SettleError Γ t key amount currency w) := by
  refine .perform ((stable_owns .pending).and (stable_approved _ _)) ?_
  rintro w m r w' ⟨ho, happ⟩ - hpol hout
  rcases write_outcome (x := fun w => w.markSuccessAndEnqueue key pgTxId approvalNo destination
    payload) (fun _ => rfl) hout with ⟨rfl, ⟨e, rfl⟩, hans⟩ | ⟨hx, hr⟩
  · refine ⟨guarantee_refl _, .inl ⟨ho, hW.faults_of_error (.transactions
      (.markSuccessAndEnqueue key pgTxId approvalNo destination payload)) (fun _ h => of_decide_eq_true h) hpol ?_⟩⟩
    rintro rfl
    obtain ⟨e', he'⟩ := hans rfl
    obtain ⟨row, hrow, -⟩ := ho
    simp only [World.markSuccessAndEnqueue, show w'.getTransaction key = some row from hrow] at he'
    split at he' <;> cases he'
  · obtain ⟨hb, row, note, hrow, hnote, hl⟩ := World.markSuccessAndEnqueue_spec hx
    obtain ⟨row₀, hrow₀, hby, hs, rfl, rfl⟩ := ho
    rw [hrow] at hrow₀
    cases hrow₀
    have hown : Owns t key .success row.amount row.currency w'.ledger := by
      rw [hl]
      refine ⟨World.statusChange .success pgTxId approvalNo none row, ?_, hby, rfl, rfl, rfl⟩
      simp only [enqueue]
      split <;> simp [Ledger.setTransaction]
    refine ⟨guarantee_of_step (.succeed w.ledger key row pgTxId approvalNo note hrow hby hs hnote
      happ) hl hb, ?_⟩
    · rcases hr with ⟨-, rfl⟩ | ⟨e, rfl, rfl⟩
      · exact hown
      · refine .inr ⟨hown, ?_⟩
        by_cases h0 : row.amount = 0
        · exact .inl h0
        · rcases hW.lateFaults t _ _ w hpol with htol | hlate | hearly
          · simp [tolerated] at htol
          · exact .inr hlate
          · have hloses : (w.transactions.any fun r => r.idempotencyKey = key && r.amount ≠ 0) = true :=
              List.any_eq_true.mpr ⟨row, mem_of_get? hrow, by simp [col_of_get? hrow, h0]⟩
            simp only [early, losesSuccess, hloses, Bool.not_true, Bool.and_false] at hearly
            cases hearly

theorem settle_triple (hW : Within π Γ) (session : ParkingSession) (txId : TxId) (carId : String)
    (pgTxId approvalNo : Option String) (command : ProcessPaymentCommand) :
    (carPayIn rt).Triple π (contract Γ) t
      (fun w => (Owns t key .pending command.amount command.currency w.ledger ∧
        Approved t key command.amount pgTxId approvalNo w) ∧ KnowsSession command.sessionId w)
      (ProcessPaymentService.settle session txId carId key pgTxId approvalNo command)
      (fun r w => ∀ e, r = .error e →
        SettleError Γ t key command.amount command.currency w) := by
  unfold ProcessPaymentService.settle ProcessPaymentService.markPaymentSuccess
    ProcessPaymentService.publishPaymentNotificationBestEffort
  simp only [Program.bind_eq, Program.pure_eq]
  let Paid (w : World) : Prop := Owns t key .success command.amount command.currency w.ledger
  refine Triple.bind (M := fun (_ : Bool) w => Paid w ∧ KnowsSession command.sessionId w) ?_ ?_
  · refine Triple.bind (M := fun (_ : Unit) w => Paid w ∧ KnowsSession command.sessionId w) ?_
      fun _ => .done fun _ h => h
    refine ((markPaymentSuccess_call hW).frame (stable_knowsSession _)
      (guarantee_knowsSession _)).conseq (fun _ h => h) ?_
    rintro (e | u) w ⟨h, hs⟩
    · exact fun _ _ => h
    · exact ⟨h, hs⟩
  · intro enqueued
    refine Triple.bind (M := fun (_ : Unit) => Paid) ?_ fun _ => ?_
    · refine (settled_updateSessionStatus hW _ _).conseq (fun _ h => h) ?_
      rintro (e | u) w h
      · exact fun _ _ => h.settleError rfl
      · exact h.1
    refine Triple.bind (M := fun (_ : Unit) => Paid) ?_ fun _ => ?_
    · refine (settled_notify hW _).conseq (fun _ h => h) ?_
      rintro (e | u) w h
      · exact fun _ _ => h.settleError rfl
      · exact h.1
    cases enqueued
    · refine Triple.bind (M := fun (_ : Unit) => Paid) ?_ fun _ => .done fun _ _ e he => by cases he
      refine Triple.bind (M := fun _ => Paid) (.attempt ?_) fun _ => .done fun _ h => h
      exact base_call _ (stable_owns .success) (Robust.of_ledger _)
    · exact .done fun _ _ e he => by cases he

/-! ## The transaction -/

theorem createPendingTransaction_triple (txId : TxId) (sessionId billingKey : String) :
    (carPayIn rt).Triple π (contract Γ) t (fun w => Untouched t w.ledger)
      (createPendingTransaction txId key sessionId amount currency billingKey)
      (fun r w => ∀ a, r = .ok a → (Owns t key .pending amount currency w.ledger ∧
        w.ledger.NoPgCall t) ∧ KnowsSession sessionId w ∧ 0 ≤ amount) := by
  unfold createPendingTransaction
  simp only [Program.bind_eq]
  cases hid : Uuid.parse sessionId with
  | error e => exact .done fun _ _ _ h => by cases h
  | ok id =>
      refine Triple.bind (M := fun (s : Option ParkingSession) w => Untouched t w.ledger ∧
        (s.isSome → KnowsSession sessionId w)) (.perform stable_untouched ?_) ?_
      · rintro w m r w' hu - - hout
        obtain ⟨hl, hk⟩ := quiet_outcome (.base (.getSessionById id)) trivial hout
        refine ⟨guarantee_of_quiet hl hk, ?_⟩
        rcases (carPayIn rt).outcome_cases hout with ⟨-, h⟩ | ⟨e, -, rfl, -⟩ | ⟨e, -, -, rfl, -⟩
        · cases h
          exact ⟨hu, fun hs => ⟨id, hid, hs⟩⟩
        · exact fun _ h => by cases h
        · exact fun _ h => by cases h
      · rintro (_ | session)
        · exact .done fun _ _ _ h => by cases h
        · refine .perform (stable_untouched.and fun w w' hi h hs =>
            stable_knowsSession sessionId w w' hi (h hs)) ?_
          rintro w m r w' ⟨hu, hs⟩ - - hout
          have hs := hs rfl
          rcases write_outcome (x := fun w => w.insertTransaction ⟨txId, id, session.carId,
            billingKey, none, amount, currency, .pending, none, key, none, t⟩)
            (fun _ => rfl) hout with ⟨rfl, ⟨e, rfl⟩, -⟩ | ⟨hx, -⟩
          · exact ⟨guarantee_refl _, fun _ h => by cases h⟩
          · obtain ⟨hb, hl, hnone, hids, hpos⟩ := World.insertTransaction_spec hx
            refine ⟨guarantee_of_step (.openTransaction _ _ hnone hids rfl rfl hu.row hu.call) hl hb,
              fun _ _ => ⟨⟨?_, ?_⟩, ?_, hpos⟩⟩
            · rw [hl]
              exact ⟨_, setTransaction_self .., rfl, rfl, rfl, rfl⟩
            · rw [hl]
              exact hu.call
            · obtain ⟨id', hp, hs⟩ := hs
              exact ⟨id', hp, by rw [hb]; exact hs⟩

/-! ## The charge -/

/-- What the execution knows when it writes a failure over its transaction. -/
def MayFail (Γ : Regime) (t : Tid) (key : String) (amount : Int) (currency : String)
    (ℓ : Ledger) : Prop :=
  ∃ status, Owns t key status amount currency ℓ ∧
    (status = .pending → Γ.faults ∨ ℓ.PgFailure t key) ∧ (status = .success → Γ.lateFaults)

theorem stable_mayFail :
    (contract Γ).Stable t fun w => MayFail Γ t key amount currency w.ledger :=
  stable_of_ledger fun _ _ h ⟨status, ho, hp, hs⟩ =>
    ⟨status, h.owns ho, fun he => (hp he).imp_right h.pgFailure, hs⟩

theorem updateTransactionStatus_failed (amount : Int) (currency : String)
    (reason : Option String) :
    (carPayIn rt).Triple π (contract Γ) t (fun w => MayFail Γ t key amount currency w.ledger)
      (updateTransactionStatus key .failed reason)
      (fun _ w => MayFail Γ t key amount currency w.ledger) := by
  refine .perform stable_mayFail ?_
  rintro w m r w' hw - - hout
  rcases write_outcome (x := fun w => w.updateTransactionStatus key .failed none none reason)
    (fun _ => rfl) hout with ⟨rfl, -, -⟩ | ⟨hx, -⟩
  · exact ⟨guarantee_refl _, hw⟩
  · obtain ⟨status, ⟨row, hrow, hby, rfl, rfl, rfl⟩, hp, hs⟩ := hw
    obtain ⟨hb, row₀, hrow₀, hl⟩ := World.updateTransactionStatus_spec hx
    rw [hrow] at hrow₀
    cases hrow₀
    refine ⟨guarantee_of_step (.fail _ key row reason hrow hby hp hs) hl hb, ?_⟩
    rw [hl]
    exact ⟨.failed, ⟨World.statusChange .failed none none reason row,
      setTransaction_self .., hby, rfl, rfl, rfl⟩, by simp, by simp⟩

theorem SettleError.mayFail {w : World} (h : SettleError Γ t key amount currency w)
    (hpos : 0 < amount) : MayFail Γ t key amount currency w.ledger := by
  rcases h with ⟨ho, hf⟩ | ⟨ho, h0 | hl⟩
  · exact ⟨.pending, ho, fun _ => .inl hf, by simp⟩
  · omega
  · exact ⟨.success, ho, by simp, fun _ => hl⟩

theorem send_call (hW : Within π Γ) (request : ChargeRequest) (hpos : 0 < request.amount) :
    (carPayIn rt).Triple π (contract Γ) t
      (fun w => Owns t request.idempotencyKey .pending request.amount request.currency w.ledger ∧
        w.ledger.NoPgCall t)
      (call (.pgHttp (.send request)))
      (fun r w => match r with
        | .ok id => Owns t request.idempotencyKey .pending request.amount request.currency
            w.ledger ∧ AwaitsPg t id request.idempotencyKey w.ledger
        | .error _ => MayFail Γ t request.idempotencyKey request.amount request.currency
            w.ledger) := by
  refine .perform ((stable_owns .pending).and stable_noPgCall) ?_
  rintro w m r w' ⟨ho, hno⟩ - hpol hout
  have hsent : ∀ r₀, w.exec t (.pgHttp (.send request)) = some (r₀, w') →
      m.effective = true → (contract Γ).guarantee t w w' ∧ ∃ id, r₀ = .ok id ∧
        Owns t request.idempotencyKey .pending request.amount request.currency w'.ledger ∧
          AwaitsPg t id request.idempotencyKey w'.ledger := by
    intro r₀ h₀ hm
    obtain ⟨xs, h₁, hb, hl⟩ := World.exec_pgHttp h₀
    obtain ⟨rfl, hfree, htable⟩ := send_spec h₁
    obtain ⟨row, hrow, hby, hs, ha, hc⟩ := ho
    have hstep := Step.charge w.ledger w.pgCalls.length request row hfree hrow hby hs ha hc hpos hno
      (hW.charge t request m w hpol hm)
    rw [htable] at hl
    refine ⟨guarantee_of_step hstep hl hb, _, rfl, ?_⟩
    rw [hl]
    exact ⟨⟨row, hrow, hby, hs, ha, hc⟩, _, Function.update_self .., rfl, rfl, .inl rfl⟩
  rcases (carPayIn rt).outcome_cases hout with ⟨rfl, h⟩ | ⟨e, rfl, rfl, rfl⟩ | ⟨e, r₀, rfl, rfl, h⟩
  · obtain ⟨hg, id, rfl, hown, haw⟩ := hsent r h rfl
    exact ⟨hg, hown, haw⟩
  · exact ⟨guarantee_refl _, .pending, ho, fun _ => .inr (.inl hno), by simp⟩
  · obtain ⟨hg, id, -, hown, -⟩ := hsent r₀ h rfl
    refine ⟨hg, .pending, hown, fun _ => .inl ?_, by simp⟩
    exact (hW.faults t _ _ w hpol).resolve_left (by simp [tolerated])

theorem receive_call (hW : Within π Γ) (id : Nat) :
    (carPayIn rt).Triple π (contract Γ) t
      (fun w => Owns t key .pending amount currency w.ledger ∧ AwaitsPg t id key w.ledger)
      (call (.pgHttp (.receive id)))
      (fun r w => match r with
        | .ok a => Owns t key .pending amount currency w.ledger ∧ w.ledger.PgAnswer t key a
        | .error _ => MayFail Γ t key amount currency w.ledger) := by
  refine .perform ((stable_owns .pending).and (stable_of_ledger fun _ _ h => h.awaitsPg)) ?_
  rintro w m r w' ⟨ho, c, hc, hby, hk, hr⟩ - hpol hout
  have hfaults : m ≠ .answered → Γ.faults :=
    hW.faults_of_error (.pgHttp (.receive id)) (fun _ h => of_decide_eq_true h) hpol
  have hreceived : ∀ r₀, w.exec t (.pgHttp (.receive id)) = some (r₀, w') →
      (contract Γ).guarantee t w w' ∧ Owns t key .pending amount currency w'.ledger ∧
        ((∃ a, r₀ = .ok a ∧ w'.ledger.PgAnswer t key a) ∨
          (∃ e, r₀ = .error e) ∧ w'.ledger.PgAbandoned t) := by
    intro r₀ h₀
    obtain ⟨xs, h₁, hb, hl⟩ := World.exec_pgHttp h₀
    obtain ⟨c₀, hc₀, ⟨hab, rfl, rfl⟩ | ⟨a, hw, ha, rfl, htable⟩⟩ := receive_spec h₁
    · rw [show w'.ledger = w.ledger from hl]
      exact ⟨guarantee_of_quiet hl (by rw [hb]; exact .refl _), ho, .inr ⟨⟨_, rfl⟩, id, c₀, hc₀,
        by cases hc.symm.trans hc₀; exact hby, hab⟩⟩
    · cases hc.symm.trans hc₀
      rw [htable] at hl
      refine ⟨guarantee_of_step (.receivePg w.ledger id c a hc hby hw ha) hl hb, ?_⟩
      rw [hl]
      exact ⟨ho, .inl ⟨a, rfl, id, _, Function.update_self .., hby, hk, rfl⟩⟩
  rcases (carPayIn rt).outcome_cases hout with ⟨rfl, h⟩ | ⟨e, rfl, rfl, rfl⟩ | ⟨e, r₀, rfl, rfl, h⟩
  · obtain ⟨hg, hown, ⟨a, rfl, ha⟩ | ⟨⟨e, rfl⟩, hab⟩⟩ := hreceived r h
    · exact ⟨hg, hown, ha⟩
    · exact ⟨hg, .pending, hown, fun _ => .inr (.inr (.inl hab)), by simp⟩
  · exact ⟨guarantee_refl _, .pending, ho, fun _ => .inl (hfaults (by simp)), by simp⟩
  · obtain ⟨hg, hown, -⟩ := hreceived r₀ h
    exact ⟨hg, .pending, hown, fun _ => .inl (hfaults (by simp)), by simp⟩

/-- A result of the PG client is what the answer says; an error is a reason to fail. -/
theorem chargeBillingKey_triple (hW : Within π Γ) (request : ChargeRequest)
    (hpos : 0 < request.amount) :
    (carPayIn rt).Triple π (contract Γ) t
      (fun w => Owns t request.idempotencyKey .pending request.amount request.currency w.ledger ∧
        w.ledger.NoPgCall t)
      (HttpxPgClient.chargeBillingKey request)
      (fun r w => match r with
        | .ok result => Owns t request.idempotencyKey .pending request.amount request.currency
            w.ledger ∧ ∃ a, w.ledger.PgAnswer t request.idempotencyKey a ∧
              HttpxPgClient.decode a = .ok result
        | .error _ => MayFail Γ t request.idempotencyKey request.amount request.currency
            w.ledger) := by
  unfold HttpxPgClient.chargeBillingKey HttpxPgClient.post
  simp only [Program.bind_eq, Program.tryCatch_eq, Program.throw_eq]
  refine Triple.bind (M := fun a w => Owns t request.idempotencyKey .pending request.amount
    request.currency w.ledger ∧ w.ledger.PgAnswer t request.idempotencyKey a) ?_ ?_
  · refine Triple.tryCatch (M := fun _ w => MayFail Γ t request.idempotencyKey request.amount
      request.currency w.ledger) ?_ fun e => .done fun _ h => h
    refine Triple.bind (M := fun id w => Owns t request.idempotencyKey .pending request.amount
      request.currency w.ledger ∧ AwaitsPg t id request.idempotencyKey w.ledger) ?_ fun id => ?_
    · refine (send_call hW request hpos).conseq (fun _ h => h) ?_
      rintro (e | id) w h <;> exact h
    · refine (receive_call hW id).conseq (fun _ h => h) ?_
      rintro (e | a) w h <;> exact h
  · rintro a
    refine .done ?_
    rintro w ⟨ho, ha⟩
    cases hd : HttpxPgClient.decode a with
    | ok result => exact ⟨ho, a, ha, hd⟩
    | error e =>
        refine ⟨.pending, ho, fun _ => .inr (.inr (.inr ⟨a, ha, ?_⟩)), by simp⟩
        intro pgTxId approvalNo happ
        rw [Approves, hd] at happ
        cases happ

/-- The body of the `try` leaves a state that its handler may call a failure. -/
theorem charge_triple (hW : Within π Γ) (session : ParkingSession) (txId : TxId) (carId : String)
    (billingKey : String) (command : ProcessPaymentCommand) (hpos : 0 < command.amount) :
    (carPayIn rt).Triple π (contract Γ) t
      (fun w => (Owns t key .pending command.amount command.currency w.ledger ∧
        w.ledger.NoPgCall t) ∧ KnowsSession command.sessionId w)
      (ProcessPaymentService.charge session txId carId key billingKey command)
      (fun r w => ∀ e, r = .error e →
        MayFail Γ t key command.amount command.currency w.ledger) := by
  unfold ProcessPaymentService.charge
  simp only [Program.bind_eq, Program.pure_eq]
  refine Triple.bind (M := fun result w => (Owns t key .pending command.amount command.currency
    w.ledger ∧ ∃ a, w.ledger.PgAnswer t key a ∧ HttpxPgClient.decode a = .ok result) ∧
      KnowsSession command.sessionId w) ?_ ?_
  · refine ((chargeBillingKey_triple hW ⟨billingKey, command.amount, command.currency, key⟩
      hpos).frame (stable_knowsSession _) (guarantee_knowsSession _)).conseq (fun _ h => h) ?_
    rintro (e | result) w ⟨h, hs⟩
    · exact fun _ _ => h
    · exact ⟨h, hs⟩
  · rintro (⟨pgTxId, approvalNo⟩ | ⟨pgTxId, failedReason⟩)
    · refine (settle_triple hW session txId carId pgTxId approvalNo command).conseq ?_ ?_
      · rintro w ⟨⟨ho, a, ha, hd⟩, hs⟩
        exact ⟨⟨ho, .inr ⟨a, ha, hd⟩⟩, hs⟩
      · exact fun r w h e he => (h e he).mayFail hpos
    · refine Triple.bind (M := fun _ w => MayFail Γ t key command.amount command.currency w.ledger)
        ?_ fun _ => .done fun _ _ e he => by cases he
      refine (updateTransactionStatus_failed command.amount command.currency failedReason).conseq ?_ ?_
      · rintro w ⟨⟨ho, a, ha, hd⟩, -⟩
        refine ⟨.pending, ho, fun _ => .inr (.inr (.inr ⟨a, ha, ?_⟩)), by simp⟩
        intro pgTxId' approvalNo' happ
        rw [Approves, hd] at happ
        cases happ
      · rintro (e | u) w h
        · exact fun _ _ => h
        · exact h

/-! ## The whole service -/

theorem pay_triple (hW : Within π Γ) (session : ParkingSession) (carId : String)
    (command : ProcessPaymentCommand) (hpos : 0 < command.amount) :
    (carPayIn rt).Triple π (contract Γ) t (fun w => Untouched t w.ledger)
      (ProcessPaymentService.pay session carId key command) (fun _ _ => True) := by
  unfold ProcessPaymentService.pay
  simp only [Program.bind_eq, Program.pure_eq, Program.throw_eq, Program.tryCatch_eq]
  refine .seq (base_call _ stable_untouched (Robust.of_ledger _)) (fun _ _ _ => trivial) ?_
  · rintro (_ | record)
    · exact .done fun _ _ => trivial
    refine .seq (base_call _ stable_untouched (Robust.of_ledger _)) (fun _ _ _ => trivial)
      fun n => ?_
    refine Triple.bind (M := fun _ w => (Owns t key .pending command.amount command.currency
      w.ledger ∧ w.ledger.NoPgCall t) ∧ KnowsSession command.sessionId w) ?_ fun _ => ?_
    · refine (createPendingTransaction_triple _ _ _).conseq (fun _ h => h) ?_
      rintro (e | u) w h
      · trivial
      · exact ⟨(h u rfl).1, (h u rfl).2.1⟩
    refine Triple.tryCatch (M := fun _ w => MayFail Γ t key command.amount command.currency
      w.ledger) ?_ fun e => ?_
    · refine (charge_triple hW session _ carId record.billingKey command hpos).conseq
        (fun _ h => h) ?_
      rintro (e | r) w h
      · exact h e rfl
      · trivial
    · refine Triple.bind (M := fun _ _ => True) ?_ fun _ => .done fun _ _ => trivial
      refine (updateTransactionStatus_failed command.amount command.currency (some e.str)).conseq (fun _ h => h) ?_
      rintro (e | u) w - <;> trivial

theorem payFree_triple (hW : Within π Γ) (session : ParkingSession) (carId : String)
    (command : ProcessPaymentCommand) (hfree : command.amount = 0) :
    (carPayIn rt).Triple π (contract Γ) t (fun w => Untouched t w.ledger)
      (ProcessPaymentService.payFree session carId key command) (fun _ _ => True) := by
  unfold ProcessPaymentService.payFree
  simp only [Program.bind_eq]
  refine Triple.bind (M := fun _ w => (Owns t key .pending command.amount command.currency
    w.ledger ∧ Approved t key command.amount none (some "FREE") w) ∧
      KnowsSession command.sessionId w) ?_ fun _ => ?_
  · refine (createPendingTransaction_triple _ _ _).conseq (fun _ h => h) ?_
    rintro (e | u) w h
    · trivial
    · exact ⟨⟨(h u rfl).1.1, .inl hfree⟩, (h u rfl).2.1⟩
  · exact (settle_triple hW session _ carId none (some "FREE") command).conseq (fun _ h => h)
      fun _ _ _ => trivial

theorem replay_triple {P : World → Prop} (hP : (contract Γ).Stable t P) (hr : Robust P)
    (session : ParkingSession) (command : ProcessPaymentCommand) (existing : Transaction) :
    (carPayIn rt).Triple π (contract Γ) t P
      (ProcessPaymentService.replay session key command existing) (fun _ => P) := by
  have hnotify (payload : PaymentComplete) : (carPayIn rt).Triple π (contract Γ) t P
      (ProcessPaymentService.notifyPmsPaymentComplete payload) (fun _ => P) := by
    refine Triple.bind (M := fun _ => P) (.attempt (quiet_call trivial hP hr)) ?_
    rintro (e | u) <;> exact quiet_call trivial hP hr
  unfold ProcessPaymentService.replay
  simp only [Program.bind_eq, Program.pure_eq]
  split
  · exact .seq (hnotify _) (fun _ _ h => h) fun _ => .done fun _ h => h
  · exact .done fun _ h => h

theorem execute_triple (hW : Within π Γ) (command : ProcessPaymentCommand) :
    (carPayIn rt).Triple π (contract Γ) t (fun w => Untouched t w.ledger)
      (ProcessPaymentService.execute rt.sha256 command) (fun _ _ => True) := by
  have hbase {β : Type} (p : BaseService β) : (carPayIn rt).Triple π (contract Γ) t
      (fun w => Untouched t w.ledger) (base p) (fun _ w => Untouched t w.ledger) :=
    base_call p stable_untouched (Robust.of_ledger _)
  unfold ProcessPaymentService.execute
  simp only [Program.bind_eq, Program.pure_eq, Program.throw_eq]
  split
  · exact .seq (hbase _) (fun _ _ _ => trivial) fun _ => .done fun _ _ => trivial
  · refine .seq (hbase _) (fun _ _ _ => trivial) ?_
    rintro ⟨session, carId⟩
    refine .seq (quiet_call trivial stable_untouched (Robust.of_ledger _))
      (fun _ _ _ => trivial) ?_
    rintro (_ | existing)
    · dsimp only
      split
      · exact .done fun _ _ => trivial
      split
      · rename_i hfree
        exact payFree_triple hW session carId command hfree
      · exact pay_triple hW session carId command (by omega)
    · exact (replay_triple stable_untouched (Robust.of_ledger _) session command existing).conseq
        (fun _ h => h) fun _ _ _ => trivial

/-! ## The other backend programs -/

theorem retryPayments_triple {P : World → Prop} (hP : (contract Γ).Stable t P) (hr : Robust P)
    (keys : List TxId) :
    (carPayIn rt).Triple π (contract Γ) t P (NotifyRetryWorker.retryPayments keys)
      (fun _ => P) := by
  have hcall {β : Type} (op : Op β) (hq : Quiet op) : (carPayIn rt).Triple π (contract Γ) t P
      (.perform op) (fun _ => P) := quiet_call hq hP hr
  induction keys with
  | nil => exact .done fun _ h => h
  | cons key keys ih =>
      refine .seq (.seq (hcall (.retries (.get key)) trivial) (fun _ _ h => h) ?_) (fun _ _ h => h)
        fun _ => ih
      rintro (_ | event)
      · exact .done fun _ h => h
      · refine Triple.tryCatch (M := fun _ => P) ?_ fun _ => .done fun _ h => h
        refine (Triple.seq (P := P) (hcall (.notifyPaymentComplete event.payload) trivial)
          (fun _ _ h => h) fun _ => hcall (.retries (.delete key)) trivial).conseq (fun _ h => h) ?_
        rintro (e | u) w h <;> exact h

theorem program_triple (hW : Within π Γ) (request : Request) :
    (carPayIn rt).Triple π (contract Γ) t (fun w => Untouched t w.ledger) (program rt request)
      (fun _ _ => True) := by
  have hquiet {p : Service Reply} (h : (carPayIn rt).Triple π (contract Γ) t
      (fun w => Untouched t w.ledger) p (fun _ w => Untouched t w.ledger)) :
      (carPayIn rt).Triple π (contract Γ) t (fun w => Untouched t w.ledger) p (fun _ _ => True) :=
    h.conseq (fun _ h => h) fun _ _ _ => trivial
  cases request with
  | processPayment command => exact .map (execute_triple hW command)
  | retryPayments =>
      refine hquiet (.map (.seq (quiet_call trivial stable_untouched (Robust.of_ledger _))
        (fun _ _ h => h) ?_))
      exact retryPayments_triple stable_untouched (Robust.of_ledger _)
  | _ => exact hquiet (base_call _ stable_untouched (Robust.of_ledger _))

end CarPayIn
