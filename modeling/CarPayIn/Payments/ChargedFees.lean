import CarPayIn.Payments.OneCall
import CarPayIn.Payments.FeeQuotes
import CarPayIn.Payments.ClosedSessions
import CarPayIn.Payments.Delivery
import CarPayIn.Process.History

/-! # Every charge is a fee the PMS has answered

The PMS answers a fee for a place of a lot, the backend stores it as the quote
of the session at that place, a payment takes it from the quote into its
transaction, and from there it goes to the PG and to the card service. On the
whole way the amount is never another one.
-/

namespace CarPayIn

open Process Process.System Store Service

variable {rt : Runtime} {t : Tid} {w w' : World} {α : Type}

/-! ## Fees -/

/-- An answer of the PMS: the place it was asked about and the amount. -/
structure FeeAnswer where
  lotId : String
  plate : String
  pmsSessionId : Option String
  amount : Int
deriving DecidableEq, Repr

def feeHistory (_ : Tid) {β : Type} (op : Op β) (r : Except PyError β) (_ : World)
    (g : List FeeAnswer) : List FeeAnswer :=
  match op, r with
  | .base (.getParkingFee lotId plate pmsSessionId), .ok (amount, _) =>
      ⟨lotId, plate, pmsSessionId, amount⟩ :: g
  | _, _ => g

abbrev Metered : Type := World × List FeeAnswer

abbrev metered (rt : Runtime) : System Op PyError Reply Metered Tid Start Env :=
  (carPayIn rt).withHistory feeHistory

/-- The fee for the place at which the session is parked. -/
def ParkingSession.feeAnswer (session : ParkingSession) (amount : Int) : FeeAnswer :=
  ⟨session.lotId, session.plate, session.pmsSessionId, amount⟩

def FeeOf (id : Uuid) (amount : Int) (s : Metered) : Prop :=
  ∃ session, s.1.base.getSessionById id = some session ∧ session.feeAnswer amount ∈ s.2

/-- The PMS has answered this amount for the session that the text names. -/
def Owed (sessionId : String) (amount : Int) (currency : String) (s : Metered) : Prop :=
  currency = GetParkingFeeService.feeCurrency ∧
    ∃ id, Uuid.parse sessionId = .ok id ∧ FeeOf id amount s

/-! ## What persists -/

theorem ParkingSession.SameStay.feeAnswer {r r' : ParkingSession} (h : r.SameStay r')
    (amount : Int) : r'.feeAnswer amount = r.feeAnswer amount := by
  simp only [ParkingSession.feeAnswer, h.lotId, h.plate, h.pmsSessionId]

/-- Sessions stay where they are, and no answer is forgotten. -/
structure FeesKept (s s' : Metered) : Prop where
  places : StaysKept s.1.base s'.1.base
  answers : s.2 ⊆ s'.2

theorem FeesKept.feeOf {s s' : Metered} {id : Uuid} {amount : Int} (hk : FeesKept s s')
    (h : FeeOf id amount s) : FeeOf id amount s' := by
  obtain ⟨session, hs, hanswer⟩ := h
  obtain ⟨session', hs', hsame⟩ := hk.places id session hs
  exact ⟨session', hs', hsame.feeAnswer amount ▸ hk.answers hanswer⟩

theorem FeesKept.owed {s s' : Metered} {sessionId currency : String} {amount : Int}
    (hk : FeesKept s s') (h : Owed sessionId amount currency s) :
    Owed sessionId amount currency s' := by
  obtain ⟨hcur, id, hid, hfee⟩ := h
  exact ⟨hcur, id, hid, hk.feeOf hfee⟩

/-! ## The contract -/

/-- The row asks for a fee of its session. -/
def Transaction.Billed (row : Transaction) (s : Metered) : Prop :=
  row.currency = GetParkingFeeService.feeCurrency ∧ FeeOf row.sessionId row.amount s

def Transaction.SameCharge (row row' : Transaction) : Prop :=
  row.sessionId = row'.sessionId ∧ row.amount = row'.amount ∧ row.currency = row'.currency

structure FeesBacked (s : Metered) : Prop where
  quotes : ∀ k e, s.1.base.quotes k = some e → Owed k e.value.amount e.value.currency s
  rows : ∀ row ∈ s.1.transactions, row.Billed s

structure FeeStep (s s' : Metered) : Prop where
  kept : FeesKept s s'
  quotes : ∀ k e, s'.1.base.quotes k = some e →
    s.1.base.quotes k = some e ∨ Owed k e.value.amount e.value.currency s'
  rows : ∀ row ∈ s'.1.transactions,
    (∃ row₀ ∈ s.1.transactions, row₀.SameCharge row) ∨ row.Billed s'

theorem FeeStep.backed {s s' : Metered} (h : FeeStep s s') (hs : FeesBacked s) : FeesBacked s' where
  quotes k e he := by
    rcases h.quotes k e he with hold | hnew
    · exact h.kept.owed (hs.quotes k e hold)
    · exact hnew
  rows row hrow := by
    rcases h.rows row hrow with ⟨row₀, hold, hid, hamount, hcur⟩ | hnew
    · obtain ⟨hcur₀, hfee⟩ := hs.rows row₀ hold
      rw [hid, hamount] at hfee
      exact ⟨hcur ▸ hcur₀, h.kept.feeOf hfee⟩
    · exact hnew

def metering : Contract Metered Tid where
  invariant := FeesBacked
  guarantee _ := FeeStep
  environment := FeeStep

/-- What sessions and answers decide for good. -/
def Enduring (P : Metered → Prop) : Prop := ∀ s s', FeesKept s s' → P s → P s'

theorem Enduring.stable {P : Metered → Prop} (hP : Enduring P) : metering.Stable t P := by
  intro s s' hi hs
  rcases hi.2.2 with ⟨t', -, hg⟩ | he
  · exact hP s s' hg.kept hs
  · exact hP s s' he.kept hs

theorem enduring_true : Enduring fun _ => True := fun _ _ _ h => h

theorem enduring_owed (sessionId : String) (amount : Int) (currency : String) :
    Enduring (Owed sessionId amount currency) := fun _ _ hk h => hk.owed h

def LocatedAt (sessionId : String) (session : ParkingSession) (s : Metered) : Prop :=
  ∃ id session', Uuid.parse sessionId = .ok id ∧ s.1.base.getSessionById id = some session' ∧
    ∀ amount, session'.feeAnswer amount = session.feeAnswer amount

theorem enduring_locatedAt (sessionId : String) (session : ParkingSession) :
    Enduring (LocatedAt sessionId session) := by
  rintro s s' hk ⟨id, session', hid, hs, hsame⟩
  obtain ⟨session'', hs', hsame'⟩ := hk.places id session' hs
  exact ⟨id, session'', hid, hs', fun amount => (hsame'.feeAnswer amount).trans (hsame amount)⟩

abbrev Metering (rt : Runtime) (t : Tid) (P : Metered → Prop) (p : Service α)
    (Q : Except PyError α → Metered → Prop) : Prop :=
  (metered rt).Triple Policy.any metering t P p Q

/-! ## The calls -/

variable {s s' : Metered}

def Op.inserted? {β : Type} : Op β → Option (Tid → Transaction)
  | .transactions (.insert row) => some row
  | _ => none

theorem statusChange_sameCharge (status : TransactionStatus)
    (pgTxId approvalNo failedReason : Option String) (row : Transaction) :
    row.SameCharge (World.statusChange status pgTxId approvalNo failedReason row) := ⟨rfl, rfl, rfl⟩

theorem setTransaction_sameCharge {key : String} {f : Transaction → Transaction}
    (hf : ∀ row : Transaction, row.SameCharge (f row)) : ∀ row ∈ (w.setTransaction key f).transactions,
      ∃ row₀ ∈ w.transactions, row₀.SameCharge row := by
  intro row hrow
  obtain ⟨row₀, hrow₀, rfl⟩ := List.mem_map.mp hrow
  refine ⟨row₀, hrow₀, ?_⟩
  split
  · exact hf row₀
  · exact ⟨rfl, rfl, rfl⟩

/-- A row that is there after a call was inserted by it, or was there before and asked for the
same amount. -/
theorem World.exec_rows {β : Type} {op : Op β} {r : Except PyError β}
    (h : w.exec t op = some (r, w')) : ∀ row ∈ w'.transactions,
      (∃ row₀ ∈ w.transactions, row₀.SameCharge row) ∨ op.inserted?.map (· t) = some row := by
  have hsame : w'.transactions = w.transactions → ∀ row ∈ w'.transactions,
      (∃ row₀ ∈ w.transactions, row₀.SameCharge row) ∨ op.inserted?.map (· t) = some row := by
    intro heq row hrow
    exact .inl ⟨row, heq ▸ hrow, rfl, rfl, rfl⟩
  have hwrite : ∀ x : Except PyError World, (w.write x).2 = w' → (∀ w₁, x = .ok w₁ →
      ∀ row ∈ w₁.transactions, (∃ row₀ ∈ w.transactions, row₀.SameCharge row) ∨
        op.inserted?.map (· t) = some row) → ∀ row ∈ w'.transactions,
      (∃ row₀ ∈ w.transactions, row₀.SameCharge row) ∨ op.inserted?.map (· t) = some row := by
    intro x hw' hx
    cases x with
    | ok w₁ =>
        cases hw'
        exact hx w₁ rfl
    | error e => exact hsame (by rw [← hw']; rfl)
  by_cases hs : Silent op
  · exact hsame (exec_silent hs h).1
  · cases op with
    | retries op =>
        cases h
        exact hsame rfl
    | notifyPaymentComplete payload =>
        cases h
        exact hsame rfl
    | transactions op =>
        have hw := congrArg Prod.snd (Option.some.inj h)
        cases op with
        | getByIdempotencyKey key => exact absurd trivial hs
        | insert row =>
            apply hwrite _ hw
            intro w₁ hx row' hrow'
            unfold insertTransaction at hx
            split_ifs at hx
            cases hx
            rcases List.mem_cons.mp hrow' with rfl | hold
            · exact .inr rfl
            · exact .inl ⟨row', hold, rfl, rfl, rfl⟩
        | updateStatus key status pgTxId approvalNo reason =>
            apply hwrite _ hw
            intro w₁ hx row' hrow'
            unfold updateTransactionStatus at hx
            split at hx
            · cases hx
            · cases hx
              exact .inl (setTransaction_sameCharge (statusChange_sameCharge _ _ _ _) row' hrow')
        | markSuccessAndEnqueue key pgTxId approvalNo destination payload =>
            apply hwrite _ hw
            intro w₁ hx row' hrow'
            left
            unfold markSuccessAndEnqueue at hx
            split at hx
            · cases hx
            · simp only at hx
              split at hx
              · cases hx
                exact setTransaction_sameCharge (statusChange_sameCharge _ _ _ _) row' hrow'
              · cases hx
                exact setTransaction_sameCharge (statusChange_sameCharge _ _ _ _) row' hrow'
    | _ => exact absurd trivial hs

theorem outcome_feesKept {op : Op α} {m : Mode PyError} {r : Except PyError α}
    (ho : (metered rt).outcome t op m s = some (r, s')) : FeesKept s s' := by
  have hexec : ∀ r₀, s.1.exec t op = some (r₀, s'.1) → s'.2 = feeHistory t op r₀ s.1 s.2 →
      FeesKept s s' := by
    intro r₀ he hg
    refine ⟨(World.exec_session he).staysKept, ?_⟩
    rw [hg]
    unfold feeHistory
    split
    · exact List.subset_cons_self _ _
    · exact fun _ h => h
  rcases history_cases ho with ⟨-, he, hg⟩ | ⟨e, -, -, hw, hg⟩ | ⟨e, r₀, -, -, he, hg⟩
  · exact hexec r he hg
  · refine ⟨.of_same (by rw [hw]), ?_⟩
    rw [hg]
    exact fun _ h => h
  · exact hexec r₀ he hg

theorem outcome_feeStep {op : Op α} {m : Mode PyError} {r : Except PyError α}
    (hquotes : op.effect = .quote → ∀ r₀, s.1.exec t op = some (r₀, s'.1) →
      ∀ k e, s'.1.base.quotes k = some e →
        s.1.base.quotes k = some e ∨ Owed k e.value.amount e.value.currency s')
    (hrow : ∀ row, op.inserted?.map (· t) = some row → row.Billed s')
    (ho : (metered rt).outcome t op m s = some (r, s')) : FeeStep s s' := by
  have hexec : ∀ r₀, s.1.exec t op = some (r₀, s'.1) → FeeStep s s' := by
    intro r₀ he
    refine ⟨outcome_feesKept ho, ?_, ?_⟩
    · by_cases heffect : op.effect = .quote
      · exact hquotes heffect r₀ he
      · rw [(World.exec_frame he).quotes heffect]
        exact fun k e he => .inl he
    · intro row hin
      rcases World.exec_rows he row hin with ⟨row₀, hold, hsame⟩ | hnew
      · exact .inl ⟨row₀, hold, hsame⟩
      · exact .inr (hrow row hnew)
  rcases history_cases ho with ⟨-, he, -⟩ | ⟨e, -, -, hw, -⟩ | ⟨e, r₀, -, -, he, -⟩
  · exact hexec r he
  · refine ⟨outcome_feesKept ho, ?_, ?_⟩
    · rw [hw]
      exact fun k e he => .inl he
    · rw [hw]
      exact fun row hin => .inl ⟨row, hin, rfl, rfl, rfl⟩
  · exact hexec r₀ he

/-- A call that stores no quote and inserts no row. -/
def Feeless {β : Type} (op : Op β) : Prop := op.effect ≠ .quote ∧ op.inserted? = none

theorem feeless_feeStep {op : Op α} (hop : Feeless op) {m : Mode PyError} {r : Except PyError α}
    (ho : (metered rt).outcome t op m s = some (r, s')) : FeeStep s s' := by
  apply outcome_feeStep ?_ ?_ ho
  · exact fun h => absurd h hop.1
  · intro row h
    rw [hop.2] at h
    cases h

theorem feeless_program {P : Metered → Prop} {p : Service α} (hp : p.Calls Feeless)
    (hP : Enduring P) : Metering rt t P p (fun _ => P) := by
  apply Triple.calls ?_ hP.stable
  apply hp.mono
  intro β op hop s m r s' hs _ _ ho _
  have hstep := feeless_feeStep hop ho
  exact ⟨hstep, hP s s' hstep.kept hs⟩

theorem feeless_of_effects (es : List Effect) {p : BaseService α} (hp : Effects es p)
    (he : .quote ∉ .nothing :: es) : (base p).Calls Feeless :=
  Program.Calls.lift Op.base ((hp.avoids he).mono fun _ h => ⟨h, rfl⟩)

/-! ## The fee query -/

theorem getSessionById_metering (sessionId : String) {P : Metered → Prop} (hP : Enduring P) :
    Metering rt t P (base (BaseService.getSessionById sessionId))
      (fun r s => P s ∧ ∀ session, r = .ok (some session) → LocatedAt sessionId session s) := by
  unfold BaseService.getSessionById
  cases hid : Uuid.parse sessionId with
  | error e => exact .done fun s hs => ⟨hs, fun session h => by cases h⟩
  | ok id =>
      apply Triple.perform hP.stable
      intro s m r s' hs _ _ ho
      have hstep := feeless_feeStep ⟨by simp [Op.effect], rfl⟩ ho
      refine ⟨hstep, hP s s' hstep.kept hs, fun session hr => ?_⟩
      subst hr
      obtain ⟨hfound, hw⟩ := base_ok (outcome_of_history ho)
      have hget : s'.1.base.getSessionById id = some session := by
        rw [hw]
        exact Except.ok.inj hfound
      exact ⟨id, session, hid, hget, fun _ => rfl⟩

theorem askFee_metering (sessionId : String) (session : ParkingSession) :
    Metering rt t (LocatedAt sessionId session)
      (base (ask (.getParkingFee session.lotId session.plate session.pmsSessionId)))
      (fun r s => ∀ fee, r = .ok fee → Owed sessionId fee.1 GetParkingFeeService.feeCurrency s) := by
  have hlocated := enduring_locatedAt sessionId session
  apply Triple.perform hlocated.stable
  intro s m r s' hs _ _ ho
  have hstep := feeless_feeStep ⟨by simp [Op.effect], rfl⟩ ho
  refine ⟨hstep, fun fee hr => ?_⟩
  subst hr
  obtain ⟨id, session', hid, hget, hsame⟩ := hlocated s s' hstep.kept hs
  refine ⟨rfl, id, hid, session', hget, ?_⟩
  rw [hsame, (base_recorded ho).2.2]
  exact .head _

theorem saveQuote_metering {sessionId currency : String} {amount : Int} {quote : FeeQuote}
    (hamount : quote.amount = amount) (hcurrency : quote.currency = currency) (ttlSeconds : Nat) :
    Metering rt t (Owed sessionId amount currency)
      (base (save .quotes sessionId quote ttlSeconds)) (fun _ _ => True) := by
  subst hamount hcurrency
  have howed := enduring_owed sessionId quote.amount quote.currency
  apply Triple.perform howed.stable
  intro s m r s' hs _ _ ho
  refine ⟨outcome_feeStep ?_ (fun row h => by cases h) ho, trivial⟩
  intro _ r₀ he k e hk
  rw [(exec_base he).2] at hk
  by_cases hks : k = sessionId
  · subst hks
    have hnew : Function.update s.1.base.quotes k _ k = some e := hk
    rw [Function.update_self] at hnew
    cases hnew
    exact .inr (howed s _ (outcome_feesKept ho) hs)
  · have hold : Function.update s.1.base.quotes sessionId _ k = some e := hk
    rw [Function.update_of_ne hks] at hold
    exact .inl hold

theorem getParkingFee_metering (command : GetParkingFeeCommand) :
    Metering rt t (fun _ => True) (base (GetParkingFeeService.execute command))
      (fun _ _ => True) := by
  have hother {β : Type} {p : BaseService β} (hp : Effects [] p) :
      Metering rt t (fun _ => True) (base p) (fun _ _ => True) :=
    feeless_program (feeless_of_effects [] hp (by decide)) enduring_true
  unfold GetParkingFeeService.execute
  split
  · exact .done fun _ h => h
  simp only [Program.bind_eq, base_bind]
  apply Triple.seq (hother (validateAppToken_effects _)) (fun _ _ h => h)
  intro token
  apply Triple.seq (hother (getQuote_effects _)) (fun _ _ h => h)
  intro found
  cases found with
  | some quote => exact .done fun _ h => h
  | none =>
      dsimp only
      rw [base_bind]
      apply Triple.bind (M := fun (found : Option ParkingSession) s =>
        ∀ session, found = some session → LocatedAt command.sessionId session s)
      · apply Triple.conseq (getSessionById_metering command.sessionId enduring_true) (fun _ h => h)
        intro r s hr
        cases r with
        | error e => trivial
        | ok found => exact fun session h => hr.2 session (congrArg Except.ok h)
      · intro found
        cases found with
        | none => exact .done fun _ _ => trivial
        | some session =>
            dsimp only
            split
            · exact .done fun _ _ => trivial
            split
            · exact .done fun _ _ => trivial
            rw [base_bind]
            apply Triple.bind (M := fun fee =>
              Owed command.sessionId fee.1 GetParkingFeeService.feeCurrency)
            · apply Triple.conseq (askFee_metering command.sessionId session)
                (fun s hs => hs session rfl)
              intro r s hr
              cases r with
              | error e => trivial
              | ok fee => exact hr fee rfl
            · intro ⟨amount, duration⟩
              dsimp only
              rw [base_bind]
              apply Triple.bind (M := fun _ _ => True)
              · refine Triple.conseq (saveQuote_metering ?_ ?_ _) (fun _ h => h) fun r s _ => ?_
                · rfl
                · rfl
                · cases r <;> trivial
              · exact fun _ => .done fun _ h => h

/-! ## The payment -/

theorem getQuote_metering (sessionId : String) :
    Metering rt t (fun _ => True) (base (BaseService.getQuote sessionId))
      (fun r s => ∀ quote, r = .ok (some quote) → Owed sessionId quote.amount quote.currency s) := by
  apply Triple.perform (.const True)
  intro s m r s' _ hi _ ho
  have hstep := feeless_feeStep ⟨by simp [Op.effect], rfl⟩ ho
  refine ⟨hstep, fun quote hr => ?_⟩
  subst hr
  obtain ⟨e, hread, rfl⟩ := Option.map_eq_some_iff.mp (Except.ok.inj (base_ok (outcome_of_history ho)).1)
  exact hstep.kept.owed (hi.quotes sessionId e (Cache.read_eq_some.mp hread).1)

/-- A payment that is authorised pays a fee of its session. -/
theorem authorise_metering (command : ProcessPaymentCommand) :
    Metering rt t (fun _ => True) (base (ProcessPaymentService.authorise command))
      (fun r s => ∀ a, r = .ok a → Owed command.sessionId command.amount command.currency s) := by
  have howed := enduring_owed command.sessionId command.amount command.currency
  unfold ProcessPaymentService.authorise
  simp only [Program.bind_eq, base_bind]
  apply Triple.bind (M := fun _ _ => True)
  · apply Triple.conseq (feeless_program (feeless_of_effects []
      (validateAppToken_effects command.accessToken) (by decide)) enduring_true) (fun _ h => h)
    intro r s _
    cases r with
    | error e => exact fun a h => by cases h
    | ok token => trivial
  intro token
  apply Triple.bind (M := fun (found : Option FeeQuote) s =>
    ∀ quote, found = some quote → Owed command.sessionId quote.amount quote.currency s)
  · apply Triple.conseq (getQuote_metering command.sessionId) (fun _ h => h)
    intro r s hr
    cases r with
    | error e => exact fun a h => by cases h
    | ok found => exact fun quote h => hr quote (congrArg Except.ok h)
  intro found
  cases found with
  | none => exact .done fun s _ a h => by cases h
  | some quote =>
      dsimp only
      split
      · exact .done fun s _ a h => by cases h
      · rename_i hagree
        obtain ⟨hamount, hcurrency⟩ := not_or.mp hagree
        rw [base_bind]
        apply Triple.conseq (P := Owed command.sessionId command.amount command.currency)
          (Q := fun r s => ∀ a, r = .ok a →
            Owed command.sessionId command.amount command.currency s) ?_ ?_ (fun _ _ h => h)
        · apply Triple.bind (M := fun _ =>
            Owed command.sessionId command.amount command.currency)
          · apply Triple.conseq (feeless_program (feeless_of_effects []
              (getSessionById_effects command.sessionId) (by decide)) howed) (fun _ h => h)
            intro r s hs
            cases r with
            | error e => exact fun a h => by cases h
            | ok found => exact hs
          · intro found
            cases found with
            | none => exact .done fun s _ a h => by cases h
            | some session =>
                dsimp only
                split
                · exact .done fun s _ a h => by cases h
                · exact .done fun s hs _ _ => hs
        · intro s hs
          have hquote := hs quote rfl
          rwa [not_not.mp hamount, not_not.mp hcurrency] at hquote

/-- The pending row asks for the amount of the request. -/
theorem createPendingTransaction_metering (txId : TxId) (key sessionId : String) (amount : Int)
    (currency billingKey : String) : Metering rt t (Owed sessionId amount currency)
      (createPendingTransaction txId key sessionId amount currency billingKey) (fun _ _ => True) := by
  have howed := enduring_owed sessionId amount currency
  unfold createPendingTransaction
  simp only [Program.bind_eq]
  cases hid : Uuid.parse sessionId with
  | error e => exact .done fun _ _ => trivial
  | ok id =>
      refine Triple.bind (M := fun (_ : Option ParkingSession) => Owed sessionId amount currency)
        ?_ ?_
      · apply Triple.conseq (feeless_program (feeless_of_effects []
          (ask_effects (by simp)) (by decide)) howed) (fun _ h => h)
        intro r s hs
        cases r with
        | error e => trivial
        | ok found => exact hs
      · intro found
        cases found with
        | none => exact .done fun _ _ => trivial
        | some session =>
            apply Triple.perform howed.stable
            intro s m r s' hs _ _ ho
            refine ⟨outcome_feeStep (fun h => by cases h) ?_ ho, trivial⟩
            intro row hrow
            cases hrow
            obtain ⟨hcur, id', hid', hfee⟩ := howed s s' (outcome_feesKept ho) hs
            obtain rfl := Except.ok.inj (hid.symm.trans hid')
            exact ⟨hcur, hfee⟩

theorem call_feeless {op : Op α} (h : Feeless op) : (call op).Calls Feeless :=
  ⟨h, fun _ => trivial⟩

theorem notifyPmsPaymentComplete_feeless (payload : PaymentComplete) :
    (ProcessPaymentService.notifyPmsPaymentComplete payload).Calls Feeless := by
  unfold ProcessPaymentService.notifyPmsPaymentComplete
  apply Program.Calls.bind
  · exact (call_feeless ⟨by simp [Op.effect], rfl⟩).attempt
  · intro r
    cases r with
    | error e => exact call_feeless ⟨by simp [Op.effect], rfl⟩
    | ok u => exact call_feeless ⟨by simp [Op.effect], rfl⟩

theorem settle_feeless (session : ParkingSession) (txId : TxId) (carId key : String)
    (pgTxId approvalNo : Option String) (command : ProcessPaymentCommand) :
    (ProcessPaymentService.settle session txId carId key pgTxId approvalNo command).Calls
      Feeless := by
  unfold ProcessPaymentService.settle ProcessPaymentService.markPaymentSuccess
    ProcessPaymentService.publishPaymentNotificationBestEffort
  apply Program.Calls.bind
  · exact (call_feeless ⟨by simp [Op.effect], rfl⟩).bind fun _ => trivial
  · intro enqueued
    apply (feeless_of_effects _ (updateSessionStatus_effects _ _) (by decide)).bind
    intro _
    apply (notifyPmsPaymentComplete_feeless _).bind
    intro _
    cases enqueued with
    | true => trivial
    | false =>
        apply Program.Calls.bind
        · exact (feeless_of_effects [] (ask_effects (by simp))
            (by decide)).attempt.bind fun _ => trivial
        · exact fun _ => trivial

theorem updateTransactionStatus_feeless (key : String) (status : TransactionStatus)
    (reason : Option String) : (updateTransactionStatus key status reason).Calls Feeless :=
  call_feeless ⟨by simp [Op.effect], rfl⟩

theorem charge_feeless (session : ParkingSession) (txId : TxId) (carId key billingKey : String)
    (command : ProcessPaymentCommand) :
    (ProcessPaymentService.charge session txId carId key billingKey command).Calls Feeless := by
  unfold ProcessPaymentService.charge HttpxPgClient.chargeBillingKey HttpxPgClient.post
  apply Program.Calls.bind
  · apply Program.Calls.bind
    · apply Program.Calls.tryCatch
      · exact (call_feeless ⟨by simp [Op.effect], rfl⟩).bind fun id =>
          call_feeless ⟨by simp [Op.effect], rfl⟩
      · exact fun e => trivial
    · exact fun response => trivial
  · intro result
    cases result with
    | success pgTxId approvalNo => exact settle_feeless ..
    | failure pgTxId reason => exact (updateTransactionStatus_feeless ..).bind fun _ => trivial

theorem pay_metering (session : ParkingSession) (carId key : String)
    (command : ProcessPaymentCommand) :
    Metering rt t (Owed command.sessionId command.amount command.currency)
      (ProcessPaymentService.pay session carId key command) (fun _ _ => True) := by
  have howed := enduring_owed command.sessionId command.amount command.currency
  unfold ProcessPaymentService.pay
  apply Triple.seq (feeless_program (feeless_of_effects [] (ask_effects (by simp))
    (by decide)) howed) (fun _ _ _ => trivial)
  intro found
  cases found with
  | none => exact .done fun _ _ => trivial
  | some record =>
      apply Triple.seq (feeless_program (feeless_of_effects [.draw] (ask_effects (by simp))
        (by decide)) howed) (fun _ _ _ => trivial)
      intro n
      apply Triple.bind (M := fun _ _ => True)
      · apply Triple.conseq (createPendingTransaction_metering _ _ _ _ _ _) (fun _ h => h)
        intro r s _
        cases r <;> trivial
      · intro _
        apply feeless_program ?_ enduring_true
        apply (charge_feeless ..).tryCatch
        exact fun e => (updateTransactionStatus_feeless ..).bind fun _ => trivial

theorem payFree_metering (session : ParkingSession) (carId key : String)
    (command : ProcessPaymentCommand) :
    Metering rt t (Owed command.sessionId command.amount command.currency)
      (ProcessPaymentService.payFree session carId key command) (fun _ _ => True) := by
  unfold ProcessPaymentService.payFree
  apply Triple.bind (M := fun _ _ => True)
  · apply Triple.conseq (createPendingTransaction_metering _ _ _ _ _ _) (fun _ h => h)
    intro r s _
    cases r <;> trivial
  · exact fun _ => feeless_program (settle_feeless ..) enduring_true

theorem processPayment_metering (command : ProcessPaymentCommand) :
    Metering rt t (fun _ => True) (ProcessPaymentService.execute rt.sha256 command)
      (fun _ _ => True) := by
  have howed := enduring_owed command.sessionId command.amount command.currency
  unfold ProcessPaymentService.execute
  split
  · exact feeless_program ((feeless_of_effects [.draw] (ask_effects (by simp))
      (by decide)).bind fun n => trivial) enduring_true
  apply Triple.bind (M := fun _ => Owed command.sessionId command.amount command.currency)
  · apply Triple.conseq (authorise_metering command) (fun _ h => h)
    intro r s hr
    cases r with
    | error e => trivial
    | ok a => exact hr a rfl
  · intro ⟨session, carId⟩
    apply Triple.seq (feeless_program (call_feeless ⟨by simp [Op.effect], rfl⟩) howed)
      (fun _ _ _ => trivial)
    intro existing
    cases existing with
    | some existing =>
        unfold ProcessPaymentService.replay
        apply Triple.conseq (P := fun _ => True) (feeless_program ?_ enduring_true)
          (fun _ _ => trivial) (fun _ _ h => h)
        dsimp only
        split
        · exact (notifyPmsPaymentComplete_feeless _).bind fun _ => trivial
        · trivial
    | none =>
        dsimp only
        split
        · exact .done fun _ _ => trivial
        split
        · exact payFree_metering _ _ _ _
        · exact pay_metering _ _ _ _

/-! ## The system -/

theorem retryPayments_feeless (ids : List TxId) :
    (NotifyRetryWorker.retryPayments ids).Calls Feeless := by
  induction ids with
  | nil => trivial
  | cons id ids ih =>
      apply Program.Calls.bind
      · unfold NotifyRetryWorker.retryPayment
        apply Program.Calls.bind
        · exact call_feeless ⟨by simp [Op.effect], rfl⟩
        · intro found
          cases found with
          | none => trivial
          | some event =>
              apply Program.Calls.tryCatch
              · exact (call_feeless ⟨by simp [Op.effect], rfl⟩).bind fun _ =>
                  call_feeless ⟨by simp [Op.effect], rfl⟩
              · exact fun e => trivial
      · exact fun _ => ih

theorem serves_feeless {p : Service α} (hp : p.Calls Serves) : p.Calls Feeless := by
  apply hp.mono
  intro β op hs
  cases op with
  | base op | transactions op | retries op => exact hs.elim
  | _ => exact ⟨by simp [Op.effect], rfl⟩

theorem Effects.feeless {es : List Effect} {β : Type} {p : BaseService β} (hp : Effects es p)
    (he : .quote ∉ .nothing :: es) (f : β → Reply) : (base (f <$> p)).Calls Feeless :=
  feeless_of_effects es (hp.bind fun _ => trivial) he

/-- A started execution stores and inserts only what the PMS has answered. -/
theorem program_metering (request : Request) :
    Metering rt t (fun _ => True) (program rt request) (fun _ _ => True) := by
  cases request with
  | getParkingFee command =>
      show Metering rt t _ (base (Reply.fee <$> GetParkingFeeService.execute command)) _
      rw [base_map]
      exact Triple.map (getParkingFee_metering command)
  | processPayment command => exact Triple.map (processPayment_metering command)
  | retryPayments =>
      refine feeless_program (Program.Calls.bind ?_ fun _ => trivial) enduring_true
      exact (call_feeless ⟨by simp [Op.effect], rfl⟩).bind retryPayments_feeless
  | createQrSession c =>
      exact feeless_program ((createQrSession_effects rt c).feeless (by decide) _) enduring_true
  | startHyundaiOAuth c =>
      exact feeless_program ((startHyundaiOAuth_effects rt c).feeless (by decide) _) enduring_true
  | hyundaiOAuthCallback c =>
      exact feeless_program ((hyundaiOAuthCallback_effects c).feeless (by decide) _) enduring_true
  | confirmVehicle c =>
      exact feeless_program ((confirmVehicle_effects rt c).feeless (by decide) _) enduring_true
  | refreshAccessToken c =>
      exact feeless_program ((refreshAccessToken_effects rt c).feeless (by decide) _) enduring_true
  | createCardOrder c =>
      exact feeless_program ((createCardOrder_effects c).feeless (by decide) _) enduring_true
  | cardWebhook c =>
      exact feeless_program ((cardWebhook_effects c).feeless (by decide) _) enduring_true
  | registerPreNotify c =>
      exact feeless_program ((registerPreNotify_effects c).feeless (by decide) _) enduring_true
  | entryWebhook c =>
      exact feeless_program ((entryWebhook_effects rt c).feeless (by decide) _) enduring_true
  | retryEntries =>
      exact feeless_program (processEntryRetries_effects.feeless (by decide) _) enduring_true

theorem begin_metering {x : Start} {p : Service Reply} (h : (metered rt).begin x s = some (t, p, s')) :
    p.wp ((metered rt).spec Policy.any metering t) (fun _ _ => True) s' := by
  obtain ⟨⟨t₀, p₀, w₀⟩, hb, h⟩ := Option.map_eq_some_iff.mp h
  cases h
  cases x with
  | backend n request =>
      cases hb
      exact program_metering request _ trivial
  | pg id =>
      obtain ⟨y, -, hb⟩ := Option.map_eq_some_iff.mp hb
      cases hb
      refine (feeless_program ?_ enduring_true : Metering rt (.pg id) _ _ _) _ trivial
      exact (serves_feeless (servePg_serves id _)).bind fun _ => trivial
  | card id =>
      obtain ⟨y, -, hb⟩ := Option.map_eq_some_iff.mp hb
      cases hb
      refine (feeless_program ?_ enduring_true : Metering rt (.card id) _ _ _) _ trivial
      exact (serves_feeless (serveCard_serves id _)).bind fun _ => trivial

theorem FeeStep.of_same (hsessions : s'.1.base.parkingSessions = s.1.base.parkingSessions)
    (hquotes : s'.1.base.quotes = s.1.base.quotes)
    (hrows : s'.1.transactions = s.1.transactions) (hg : s'.2 = s.2) : FeeStep s s' where
  kept := ⟨.of_same hsessions, by rw [hg]; exact fun _ h => h⟩
  quotes := by
    rw [hquotes]
    exact fun k e he => .inl he
  rows := by
    rw [hrows]
    exact fun row hin => .inl ⟨row, hin, rfl, rfl, rfl⟩

theorem environment_transactions {x : Env} (h : w.environment x = some w') :
    w'.transactions = w.transactions := by
  cases x with
  | dropPg id | dropCard id | giveUpPg id | giveUpCard id =>
      obtain ⟨xs, -, rfl⟩ := Option.map_eq_some_iff.mp h
      rfl
  | _ =>
      cases h
      rfl

def Unbilled (s : Metered) : Prop := s.1.Unpaid ∧ s.1.Unquoted ∧ s.2 = []

theorem carPayIn_fees (rt : Runtime) :
    (metered rt).Meets Policy.any metering Unbilled .unknown := by
  refine Meets.of_state ?_ ?_ ?_ ?_
  · rintro s ⟨hpaid, hquotes, -⟩
    refine ⟨fun k e he => ?_, fun row hrow => ?_⟩
    · rw [hquotes k] at he
      cases he
    · rw [hpaid.1] at hrow
      cases hrow
  · rintro s s' hi (⟨t, hg⟩ | he)
    · exact FeeStep.backed hg hi
    · exact FeeStep.backed he hi
  · intro x s t p s' hb
    refine ⟨?_, begin_metering hb⟩
    obtain ⟨⟨t₀, p₀, w₀⟩, hb₀, h⟩ := Option.map_eq_some_iff.mp hb
    cases h
    have hbase : w₀.base = s.1.base := (begin_spec hb₀).base
    exact .of_same (by rw [hbase]) (by rw [hbase]) (begin_spec hb₀).transactions rfl
  · intro x s s' he
    obtain ⟨w₀, he₀, rfl⟩ := Option.map_eq_some_iff.mp he
    obtain ⟨now, outside, scanned, -, hb⟩ := environment_base he₀
    exact .of_same (by rw [hb]) (by rw [hb]) (environment_transactions he₀) rfl

/-! ## What is charged -/

/-- A transaction under the key asks for this amount, and the PMS has answered it as the fee of
the transaction's session. -/
def Metered.Charges (s : Metered) (key : String) (amount : Int) (currency : String) : Prop :=
  ∃ row ∈ s.1.transactions, row.idempotencyKey = key ∧ row.amount = amount ∧
    row.currency = currency ∧ row.Billed s

/-- Whatever is retried, repeated, lost or cut short, each transaction of the backend, each charge
request and transaction of the PG and each of the card service is over an amount that the PMS has
answered as the fee for the place of the session that is paid for. -/
theorem charges_are_fees (rt : Runtime) {c : Config Op PyError Reply Metered Tid}
    (hc : (metered rt).Reachable Policy.any Unbilled c) :
    (∀ row ∈ c.state.1.transactions, row.Billed c.state) ∧
      (∀ call ∈ c.state.1.pgCalls, c.state.Charges call.request.idempotencyKey
        call.request.amount call.request.currency) ∧
      (∀ p ∈ c.state.1.pgTransactions, c.state.Charges p.idempotencyKey p.amount p.currency) ∧
      (∀ call ∈ c.state.1.cardCalls, c.state.Charges call.request.idempotencyKey
        call.request.amount call.request.currency) ∧
      ∀ x ∈ c.state.1.cardTransactions, c.state.Charges x.idempotencyKey x.amount x.currency := by
  have hbacked := ((carPayIn_fees rt).sound hc).1
  have hforget : (carPayIn rt).Reachable Policy.any World.Unpaid ⟨c.state.1, c.pool⟩ :=
    Reachable.forget (fun _ hs => hs.1) hc
  have hℓ : c.state.1.ledger.Coherent := coherent_of_reachable within_any hforget
  have hkeys := keysUnique_of_reachable hforget
  -- a request to the PG goes back to a transaction
  have hpg : ∀ i d, c.state.1.ledger.pgCalls i = some d → c.state.Charges d.request.idempotencyKey
      d.request.amount d.request.currency := by
    intro i d hd
    obtain ⟨row, hrow, -, hamount, hcurrency, -⟩ := hℓ.pgCall i d hd
    exact ⟨row, mem_of_get? hrow, hℓ.key _ row hrow, hamount, hcurrency,
      hbacked.rows row (mem_of_get? hrow)⟩
  -- and one to the card service to a request to the PG
  have hcard : ∀ j d, c.state.1.ledger.cardCalls j = some d →
      c.state.Charges d.request.idempotencyKey d.request.amount d.request.currency := by
    intro j d hd
    obtain ⟨i, call, p, -, hcall, hk, hamount, hcurrency, -⟩ := hℓ.cardCall j d hd
    rw [hk, hamount, hcurrency]
    exact hpg i call hcall.1
  refine ⟨hbacked.rows, fun call hin => ?_, fun p hin => ?_, fun call hin => ?_, fun x hin => ?_⟩
  · obtain ⟨i, hi⟩ := List.mem_iff_getElem?.mp hin
    exact hpg i call hi
  · obtain ⟨-, -, i, call, -, hcall, hk, hamount, hcurrency⟩ :=
      hℓ.pgRow _ p (hkeys.pgTransactions.get?_of_mem hin)
    rw [← hk, hamount, hcurrency]
    exact hpg i call hcall.1
  · obtain ⟨j, hj⟩ := List.mem_iff_getElem?.mp hin
    exact hcard j call hj
  · obtain ⟨-, j, call, -, hcall, hk, hamount, hcurrency⟩ :=
      hℓ.cardRow _ x (hkeys.cardTransactions.get?_of_mem hin)
    rw [← hk, hamount, hcurrency]
    exact hcard j call hcall.1

theorem garage_unbilled : Unbilled (garage, []) := ⟨garage_unpaid, fun _ => rfl, rfl⟩

/-- The car's fee, as it arrives at the card service. -/
theorem charges_are_fees_garage : ∃ c, (metered plainRuntime).Reachable Policy.any Unbilled c ∧
    ∃ x ∈ c.state.1.cardTransactions, x.amount = 1000 ∧
      c.state.Charges x.idempotencyKey x.amount x.currency := by
  have hrun : ((metered plainRuntime).run Policy.any Garage.paidRun (boot (garage, []))).any (fun c =>
      c.state.1.cardTransactions.any fun x => x.amount = 1000) = true := by
    decide +kernel
  obtain ⟨c, hc, hpaid⟩ := (metered plainRuntime).exists_of_run hrun garage_unbilled
  obtain ⟨x, hx, hamount⟩ := List.any_eq_true.mp hpaid
  exact ⟨c, hc, x, hx, of_decide_eq_true hamount,
    (charges_are_fees plainRuntime hc).2.2.2.2 x hx⟩

end CarPayIn
