import CarPayIn.Payments.Calls
import CarPayIn.Payments.CardApprovals

/-! # Charges under one idempotency key

The PG answers a charge from its row when it finds one, and otherwise with the
ids it has drawn. The two agree for a billing key that is registered, as long
as the execution that found the key free is the one that stores the row and its
success is not written over.
-/

namespace CarPayIn

open Process Process.System Store Service

/-- A charge request at the PG, or a card request that reaches the card service. -/
inductive ChargeStart where
  | charge (n : Nat) (command : ChargeRequest)
  | card (id : Nat)

abbrev Charge : Type := ChargeRequest × ChargeBillingKeyResult

/-- Executions of the PG for any requests, started at any time, with the card
service behind them. Billing keys may be registered and changed at any time. -/
def pgService : System Op PyError (Option Charge) World Tid ChargeStart Env where
  exec t _ op w := w.exec t op
  begin x w :=
    match x with
    | .charge n command =>
        some (.pg n, (fun result => some (command, result)) <$> ChargeBillingKeyService.execute command, w)
    | .card id => (Exchange.deliver id w.cardCalls).map fun (request, xs) =>
        (.card id, (fun _ => none) <$> ApproveCardPaymentService.serve id request,
          { w with cardCalls := xs })
  environment x w := w.environment x

def PgTransaction.result (p : PgTransaction) : ChargeBillingKeyResult :=
  ⟨p.status, p.pgTxId, p.approvalNo⟩

def pgLookup : Probe Op World
  | _, .pg (.getByIdempotencyKey key), w => some (w.getPgTransaction key).isSome
  | _, _, _ => none

abbrev pgLookups : System Op PyError (Option Charge) (World × List Tid) Tid ChargeStart Env :=
  pgService.noting pgLookup

def registered {β : Type} (op : Op β) (m : Mode PyError) (w : World) : Bool :=
  match op, m with
  | .pg (.getBillingKey billingKey), .answered =>
      (get? PgBillingKey.billingKey billingKey w.pgBillingKeys).isSome
  | _, _ => true

/-- A success that is committed is not reported as an error. -/
def reported {β : Type} (op : Op β) (m : Mode PyError) : Bool :=
  match op, m with
  | .pg (.updateStatus _ .success _ _ _), .lost _ => false
  | _, _ => true

/-- The PG knows the billing keys it is asked for, no execution that has found
its idempotency key free finds it taken, and committed successes are reported. -/
def firstChargePolicy : Policy Op PyError (World × List Tid) Tid ChargeStart Env where
  start _ _ := True
  call t _ op m s :=
    (unrivalled pgLookup t op m s && registered op m s.1 && reported op m) = true
  crash _ _ := True
  environment _ _ := True

instance : firstChargePolicy.Computable where
  start _ _ := .isTrue trivial
  call _ _ _ _ _ := inferInstanceAs (Decidable (_ = true))
  crash _ _ := .isTrue trivial
  environment _ _ := .isTrue trivial

theorem unrivalled_of_first {t : Tid} {β : Type} {op : Op β} {m : Mode PyError}
    {s : World × List Tid} (h : firstChargePolicy.call t op m s) :
    unrivalled pgLookup t op m s = true :=
  ((Bool.and_eq_true ..).mp ((Bool.and_eq_true ..).mp h).1).1

def World.HoldsCharge (w : World) (key : String) (result : ChargeBillingKeyResult) : Prop :=
  result.status ≠ .pending → ∃ p, w.getPgTransaction key = some p ∧ result = p.result

/-! ## The contract -/

/-- Rows stay, only the inserting execution changes them, and a settled one
keeps its result. -/
structure ChargesEvolve (t : Tid) (s s' : World × List Tid) : Prop where
  rows : ∀ key p, s.1.getPgTransaction key = some p →
    ∃ p', s'.1.getPgTransaction key = some p' ∧ p'.insertedBy = p.insertedBy ∧
      (p.insertedBy ≠ t → p' = p) ∧ (p.status ≠ .pending → p'.result = p.result)
  missed : s.2 ⊆ s'.2

structure ChargesStay (s s' : World × List Tid) : Prop where
  rows : ∀ key p, s.1.getPgTransaction key = some p → s'.1.getPgTransaction key = some p
  missed : s.2 ⊆ s'.2

def chargeContract : Contract (World × List Tid) Tid where
  invariant _ := True
  guarantee := ChargesEvolve
  environment := ChargesStay

variable {t : Tid} {α : Type} {P : World × List Tid → Prop} {command : ChargeRequest}
  {s s' : World × List Tid}

theorem ChargesStay.evolve (h : ChargesStay s s') (t : Tid) : ChargesEvolve t s s' where
  rows key p hp := ⟨p, h.rows key p hp, rfl, fun _ => rfl, fun _ => rfl⟩
  missed := h.missed

/-- A settled result stays the result of its row. -/
theorem ChargesEvolve.held (h : ChargesEvolve t s s') {key : String}
    {result : ChargeBillingKeyResult} (hs : s.1.HoldsCharge key result) :
    s'.1.HoldsCharge key result := by
  intro hsettled
  obtain ⟨p, hp, rfl⟩ := hs hsettled
  obtain ⟨p', hp', -, -, hkeep⟩ := h.rows key p hp
  exact ⟨p', hp', (hkeep hsettled).symm⟩

theorem stable_of_evolve (h : ∀ t' s s', ChargesEvolve t' s s' → P s → P s') :
    chargeContract.Stable t P := by
  intro s s' hi hs
  rcases hi.2.2 with ⟨t', -, hg⟩ | hg
  · exact h t' s s' hg hs
  · exact h t s s' (hg.evolve t) hs

/-- The row under the key is the execution's own, under the id it has drawn, and
not yet a success. -/
def Owned (t : Tid) (key txId : String) (f : PgTransaction → Prop) (s : World × List Tid) : Prop :=
  ∃ p, s.1.getPgTransaction key = some p ∧ p.insertedBy = t ∧ p.pgTxId = txId ∧ f p

theorem stable_owned (key txId : String) (f : PgTransaction → Prop) :
    chargeContract.Stable t (Owned t key txId f) := by
  intro s s' hi ⟨p, hp, hby, hid, hf⟩
  rcases hi.2.2 with ⟨t', hne, hg⟩ | hg
  · obtain ⟨p', hp', -, hsame, -⟩ := hg.rows key p hp
    have hother : p.insertedBy ≠ t' := fun he => hne (he.symm.trans hby)
    obtain rfl := hsame hother
    exact ⟨p', hp', hby, hid, hf⟩
  · exact ⟨p, hg.rows key p hp, hby, hid, hf⟩

/-! ## Calls -/

namespace World

variable {w w' : World} {key : String} {p : PgTransaction}

theorem getPgTransaction_insert {row : PgTransaction} (hi : w.insertPgTransaction row = .ok w')
    (h : w.getPgTransaction key = some p) : w'.getPgTransaction key = some p := by
  unfold insertPgTransaction at hi
  split_ifs at hi with _ _ _ hnew
  cases hi
  have hkey : row.idempotencyKey ≠ key := by
    intro he
    rw [he, h] at hnew
    exact hnew rfl
  simp only [getPgTransaction, get?_cons, if_neg hkey]
  exact h

theorem getPgTransaction_inserted {row : PgTransaction}
    (hi : w.insertPgTransaction row = .ok w') :
    w'.getPgTransaction row.idempotencyKey = some row := by
  unfold insertPgTransaction at hi
  split_ifs at hi
  cases hi
  simp [getPgTransaction, get?_cons]

theorem getPgTransaction_update {status : TransactionStatus}
    {approvalNo cardTxId reason : Option String}
    (hu : w.updatePgTransactionStatus key status approvalNo cardTxId reason = .ok w')
    {key' : String} (h : w.getPgTransaction key' = some p) :
    w'.getPgTransaction key' =
      some (if key' = key then pgStatusChange status approvalNo cardTxId reason p else p) := by
  unfold updatePgTransactionStatus at hu
  split at hu
  · cases hu
  · cases hu
    simp only [getPgTransaction] at h ⊢
    rw [get?_modify (pgStatusChange status approvalNo cardTxId reason) fun _ => rfl]
    by_cases hk : key' = key
    · subst hk
      simp [h]
    · simp [hk, h]

theorem getPgTransaction_environment {x : Env} (he : w.environment x = some w')
    (h : w.getPgTransaction key = some p) : w'.getPgTransaction key = some p := by
  cases x with
  | dropPg id | dropCard id | giveUpPg id | giveUpCard id =>
      obtain ⟨_, _, rfl⟩ := Option.map_eq_some_iff.mp he
      exact h
  | _ => cases he; exact h

end World

def LeavesCharges {β : Type} : Op β → Prop
  | .pg (.insert _) | .pg (.updateStatus ..) => False
  | .pg _ | .card _ | .cardHttp _ => True
  | _ => False

theorem ServesCard.leaves {op : Op α} (h : ServesCard op) : LeavesCharges op := by
  cases op <;> first | exact h.elim | trivial

theorem getPgTransaction_exec {β : Type} {op : Op β} (hop : LeavesCharges op) {w w' : World}
    {r : Except PyError β} (he : w.exec t op = some (r, w')) (key : String) :
    w'.getPgTransaction key = w.getPgTransaction key := by
  cases op with
  | pg op =>
      cases op with
      | insert row => exact hop.elim
      | updateStatus key status approvalNo cardTxId reason => exact hop.elim
      | _ => cases he; rfl
  | cardHttp op =>
      obtain ⟨_, _, he⟩ := Option.map_eq_some_iff.mp he
      cases he
      rfl
  | card op =>
      have hw : (w.execCard t op).2 = w' := congrArg Prod.snd (Option.some.inj he)
      cases op with
      | insert row =>
          rw [← hw]
          simp only [World.execCard]
          cases hi : w.insertCardTx (row t) with
          | error e => rfl
          | ok w₁ =>
              unfold World.insertCardTx at hi
              split_ifs at hi
              cases hi
              rfl
      | _ => cases he; rfl
  | _ => exact hop.elim

theorem charges_outcome {op : Op α} {m : Mode PyError} {r : Except PyError α}
    (ho : pgLookups.outcome t op m s = some (r, s'))
    (h : ∀ r₀, m.effective = true → s.1.exec t op = some (r₀, s'.1) → ∀ key p,
      s.1.getPgTransaction key = some p → ∃ p', s'.1.getPgTransaction key = some p' ∧
        p'.insertedBy = p.insertedBy ∧ (p.insertedBy ≠ t → p' = p) ∧
          (p.status ≠ .pending → p'.result = p.result)) : ChargesEvolve t s s' := by
  rcases history_cases ho with ⟨rfl, he, hg⟩ | ⟨e, rfl, -, hs, hg⟩ | ⟨e, r₀, rfl, -, he, hg⟩
  · exact ⟨h r rfl he, hg ▸ noteMiss_subset⟩
  · exact ⟨fun key p hp => ⟨p, hs ▸ hp, rfl, fun _ => rfl, fun _ => rfl⟩, hg ▸ fun _ h => h⟩
  · exact ⟨h r₀ rfl he, hg ▸ noteMiss_subset⟩

theorem charges_outcome_leaving {op : Op α} (hop : LeavesCharges op) {m : Mode PyError}
    {r : Except PyError α} (ho : pgLookups.outcome t op m s = some (r, s')) : ChargesStay s s' := by
  have hexec : ∀ r₀, s.1.exec t op = some (r₀, s'.1) → s.2 ⊆ s'.2 → ChargesStay s s' := by
    intro r₀ he hg
    exact ⟨fun key p hp => (getPgTransaction_exec hop he key).trans hp, hg⟩
  rcases history_cases ho with ⟨-, he, hg⟩ | ⟨e, -, -, hs, hg⟩ | ⟨e, r₀, -, -, he, hg⟩
  · exact hexec r he (hg ▸ noteMiss_subset)
  · exact ⟨fun key p hp => hs ▸ hp, hg ▸ fun _ h => h⟩
  · exact hexec r₀ he (hg ▸ noteMiss_subset)

/-! ## The service -/

abbrev ChargeReturns (t : Tid) {α : Type} (P : World × List Tid → Prop) (p : Service α)
    (Q : α → World × List Tid → Prop) : Prop :=
  pgLookups.Returns firstChargePolicy chargeContract t P p Q

theorem stable_missed : chargeContract.Stable t fun s => t ∈ s.2 :=
  stable_of_evolve fun _ _ _ hg ht => hg.missed ht

theorem leaving_call {op : Op α} (hop : LeavesCharges op) (hP : chargeContract.Stable t P)
    {Q : α → World × List Tid → Prop}
    (h : ∀ w g a w', P (w, g) → firstChargePolicy.call t op .answered (w, g) →
      w.exec t op = some (.ok a, w') → ChargesStay (w, g) (w', noteMiss pgLookup t op w g) →
        Q a (w', noteMiss pgLookup t op w g)) : ChargeReturns t P (call op) Q := by
  apply Returns.perform hP
  · intro s m r s' _ _ ho
    exact (charges_outcome_leaving hop ho).evolve t
  · intro s a s' hs hp he
    have hstay := charges_outcome_leaving (m := .answered) hop he
    obtain ⟨w, g⟩ := s
    obtain ⟨w', g'⟩ := s'
    obtain ⟨hw, rfl⟩ := exec_of_noting he
    exact h w g a w' hs hp hw hstay

theorem leaving_keeps {op : Op α} (hop : LeavesCharges op) {key txId : String}
    {f : PgTransaction → Prop} :
    pgLookups.Keeps firstChargePolicy chargeContract t (Owned t key txId f) op := by
  intro s m r s' hs _ _ ho _
  have hstay := charges_outcome_leaving hop ho
  obtain ⟨p, hp, hrest⟩ := hs
  exact ⟨hstay.evolve t, p, hstay.rows key p hp, hrest⟩

theorem newTxId_returns (hP : chargeContract.Stable t P)
    (h : ∀ s s', ChargesStay s s' → P s → P s') :
    ChargeReturns t P ChargeBillingKeyService.newTxId (fun _ => P) := by
  apply Returns.bind (M := fun _ => P)
  · apply leaving_call
    · trivial
    · exact hP
    · exact fun w g n w' hs _ _ hstay => h _ _ hstay hs
  · exact fun n => .pure fun s hs => hs

/-- Whoever has found the key free stores the row himself. -/
theorem createPgTransaction_returns (txId : String) (status : TransactionStatus)
    (reason : Option String) :
    ChargeReturns t (fun s => t ∈ s.2)
      (ChargeBillingKeyService.createTransaction txId command status reason)
      (fun _ => Owned t command.idempotencyKey txId fun p =>
        p.status = status ∧ p.approvalNo = none) := by
  apply Returns.bind (M := fun existing s => t ∈ s.2 ∧ existing = none)
  · apply leaving_call
    · trivial
    · exact stable_missed
    · intro w g existing w' ht hp he hstay
      have hfree := probe_ne_of_unrivalled (unrivalled_of_first hp) ht
      cases he
      exact ⟨hstay.missed ht, by simpa [pgLookup] using hfree⟩
  intro existing
  cases existing with
  | some row => exact .absurd fun s hs => nomatch hs.2
  | none =>
      apply Returns.bind (M := fun _ s => t ∈ s.2)
      · apply Returns.conseq (P := fun s => t ∈ s.2) _ (fun s hs => hs.1) (fun _ _ h => h)
        apply leaving_call
        · trivial
        · exact stable_missed
        · exact fun w g record w' ht _ _ hstay => hstay.missed ht
      intro record
      cases record with
      | none => exact .throw
      | some record =>
          apply Returns.perform stable_missed
          · intro s m r s' _ _ ho
            apply charges_outcome ho
            intro r₀ _ he key p hp
            have hw : (s.1.execPg t (.insert _)).2 = s'.1 := congrArg Prod.snd (Option.some.inj he)
            simp only [World.execPg] at hw
            refine ⟨p, ?_, rfl, fun _ => rfl, fun _ => rfl⟩
            rw [← hw]
            cases hi : s.1.insertPgTransaction _ with
            | error e => exact hp
            | ok w₁ => exact World.getPgTransaction_insert hi hp
          · intro s a s' _ _ he
            obtain ⟨w', g'⟩ := s'
            obtain ⟨hw, rfl⟩ := exec_of_noting he
            have hw := Option.some.inj hw
            simp only [World.execPg] at hw
            cases hi : s.1.insertPgTransaction _ with
            | error e =>
                rw [hi] at hw
                cases hw
            | ok w₁ =>
                rw [hi] at hw
                cases hw
                exact ⟨_, World.getPgTransaction_inserted hi, rfl, rfl, rfl, rfl⟩

/-! ### Settling a row -/

def Unapproved (p : PgTransaction) : Prop :=
  p.status = .pending ∨ (p.status = .failed ∧ p.approvalNo = none)

theorem Owned.mono {key txId : String} {f f' : PgTransaction → Prop} (hf : ∀ p, f p → f' p)
    (h : Owned t key txId f s) : Owned t key txId f' s := by
  obtain ⟨p, hp, hby, hid, h⟩ := h
  exact ⟨p, hp, hby, hid, hf p h⟩

/-- A committed update of the execution's own row, which is settled at most
with the same result. -/
theorem owned_update {key txId : String} {f : PgTransaction → Prop} {status : TransactionStatus}
    {approvalNo cardTxId reason : Option String} (hs : Owned t key txId f s)
    (hf : ∀ p, f p → p.status ≠ .pending → p.status = status ∧ p.approvalNo = approvalNo)
    (hg : s.2 ⊆ s'.2)
    (hu : s.1.updatePgTransactionStatus key status approvalNo cardTxId reason = .ok s'.1) :
    ChargesEvolve t s s' ∧
      Owned t key txId (fun p => p.status = status ∧ p.approvalNo = approvalNo) s' := by
  obtain ⟨p, hp, hby, hid, hfp⟩ := hs
  constructor
  · refine ⟨fun key' p' hp' => ⟨_, World.getPgTransaction_update hu hp', ?_, ?_, ?_⟩, hg⟩
    · split <;> rfl
    · intro hother
      by_cases hk : key' = key
      · subst hk
        obtain rfl : p = p' := Option.some.inj (hp.symm.trans hp')
        exact (hother hby).elim
      · rw [if_neg hk]
    · intro hsettled
      by_cases hk : key' = key
      · subst hk
        obtain rfl : p = p' := Option.some.inj (hp.symm.trans hp')
        obtain ⟨hstatus, happroval⟩ := hf p hfp hsettled
        simp [PgTransaction.result, World.pgStatusChange, hstatus, happroval]
      · rw [if_neg hk]
  · exact ⟨_, World.getPgTransaction_update hu hp, by rw [if_pos rfl]; exact hby,
      by rw [if_pos rfl]; exact hid, by rw [if_pos rfl]; exact ⟨rfl, rfl⟩⟩

theorem updatePg_triple {key txId : String} {f : PgTransaction → Prop}
    {status : TransactionStatus} {approvalNo cardTxId reason : Option String}
    (hf : ∀ p, f p → p.status ≠ .pending → p.status = status ∧ p.approvalNo = approvalNo) :
    pgLookups.Triple firstChargePolicy chargeContract t (Owned t key txId f)
      (ChargeBillingKeyService.updateTransactionStatus key status approvalNo cardTxId reason)
      (fun r s =>
        (∀ a, r = .ok a → Owned t key txId (fun p => p.status = status ∧ p.approvalNo = approvalNo) s) ∧
          ∀ e, r = .error e → Owned t key txId f s ∨
            status ≠ .success ∧
              Owned t key txId (fun p => p.status = status ∧ p.approvalNo = approvalNo) s) := by
  apply Triple.perform (stable_owned key txId f)
  intro s m r s' hs _ hp ho
  have hsame : s'.1 = s.1 → s.2 ⊆ s'.2 → ChargesEvolve t s s' ∧ Owned t key txId f s' := by
    intro hw hg
    obtain ⟨p, hfound, hrest⟩ := hs
    rw [← hw] at hfound
    exact ⟨ChargesStay.evolve ⟨fun key p hp => hw ▸ hp, hg⟩ t, p, hfound, hrest⟩
  have hwrite : ∀ r₀, s.1.exec t (.pg (.updateStatus key status approvalNo cardTxId reason)) =
      some (r₀, s'.1) → s.2 ⊆ s'.2 →
        (∃ e, r₀ = .error e ∧ ChargesEvolve t s s' ∧ Owned t key txId f s') ∨
          r₀ = .ok () ∧ ChargesEvolve t s s' ∧
            Owned t key txId (fun p => p.status = status ∧ p.approvalNo = approvalNo) s' := by
    intro r₀ he hg
    have he := Option.some.inj he
    simp only [World.execPg] at he
    cases hu : s.1.updatePgTransactionStatus key status approvalNo cardTxId reason with
    | error e =>
        rw [hu] at he
        obtain ⟨rfl, hw⟩ := Prod.mk.inj he
        exact .inl ⟨e, rfl, hsame hw.symm hg⟩
    | ok w =>
        rw [hu] at he
        obtain ⟨rfl, rfl⟩ := Prod.mk.inj he
        exact .inr ⟨rfl, owned_update hs hf hg hu⟩
  rcases history_cases ho with ⟨rfl, he, hg⟩ | ⟨e, rfl, rfl, hw, hg⟩ | ⟨e, r₀, rfl, rfl, he, hg⟩
  · rcases hwrite r he (hg ▸ noteMiss_subset) with ⟨e, rfl, hev, how⟩ | ⟨rfl, hev, how⟩
    · exact ⟨hev, fun _ ha => (nomatch ha), fun _ _ => .inl how⟩
    · exact ⟨hev, fun _ _ => how, fun _ ha => (nomatch ha)⟩
  · obtain ⟨hev, how⟩ := hsame hw (hg ▸ fun _ h => h)
    exact ⟨hev, fun _ ha => (nomatch ha), fun _ _ => .inl how⟩
  · rcases hwrite r₀ he (hg ▸ noteMiss_subset) with ⟨e', -, hev, how⟩ | ⟨-, hev, how⟩
    · exact ⟨hev, fun _ ha => (nomatch ha), fun _ _ => .inl how⟩
    · refine ⟨hev, fun _ ha => (nomatch ha), fun _ _ => .inr ⟨?_, how⟩⟩
      intro hstatus
      have hreported := ((Bool.and_eq_true ..).mp hp).2
      subst hstatus
      cases hreported

theorem Owned.held {key txId : String} {status : TransactionStatus} {approvalNo : Option String}
    (h : Owned t key txId (fun p => p.status = status ∧ p.approvalNo = approvalNo) s) :
    s.1.HoldsCharge key ⟨status, txId, approvalNo⟩ := by
  obtain ⟨p, hp, -, rfl, rfl, rfl⟩ := h
  exact fun _ => ⟨p, hp, rfl⟩

/-- The body of the `try`: a result is stored, and an exception leaves the row
without an approval. -/
theorem approveCharge_triple (txId cardToken : String) :
    pgLookups.Triple firstChargePolicy chargeContract t
      (Owned t command.idempotencyKey txId fun p => p.status = .pending)
      (ChargeBillingKeyService.approve txId cardToken command)
      (fun r s => (∀ result, r = .ok result → s.1.HoldsCharge command.idempotencyKey result) ∧
        ∀ e, r = .error e → Owned t command.idempotencyKey txId Unapproved s) := by
  let key := command.idempotencyKey
  have hpending : ∀ p : PgTransaction, p.status = .pending → Unapproved p := fun p hp => .inl hp
  have hfailed : ∀ p : PgTransaction, p.status = .failed ∧ p.approvalNo = none → Unapproved p :=
    fun p hp => .inr hp
  have hfirst : ∀ status approvalNo (p : PgTransaction), p.status = .pending → p.status ≠ .pending →
      p.status = status ∧ p.approvalNo = approvalNo := fun _ _ p hp hn => (hn hp).elim
  apply Triple.bind (M := fun _ => Owned t key txId fun p => p.status = .pending)
  · have hcalls : (HttpxMockCardClient.approvePayment
        ⟨cardToken, command.amount, command.currency, key⟩).Calls
          (pgLookups.Keeps firstChargePolicy chargeContract t
            (Owned t key txId fun p => p.status = .pending)) :=
      (approvePayment_servesCard _).mono fun op hop => leaving_keeps hop.leaves
    apply Triple.conseq (Triple.calls hcalls (stable_owned key txId _)) (fun _ hs => hs)
    intro r s hs
    cases r with
    | ok a => exact hs
    | error e => exact ⟨fun _ ha => (nomatch ha), fun _ _ => hs.mono hpending⟩
  intro approvalData
  show pgLookups.Triple _ _ _ _ (if _ then _ else _) _
  split
  · apply Triple.bind (M := fun _ => Owned t key txId fun p => p.status = .failed ∧ p.approvalNo = none)
    · apply Triple.conseq (updatePg_triple (hfirst _ _)) (fun _ hs => hs)
      intro r s hr
      cases r with
      | ok a => exact hr.1 a rfl
      | error e =>
          refine ⟨fun _ ha => (nomatch ha), fun _ _ => ?_⟩
          rcases hr.2 e rfl with how | ⟨-, how⟩
          · exact how.mono hpending
          · exact how.mono hfailed
    · intro _
      apply Triple.done
      intro s hs
      exact ⟨fun result hresult => by cases hresult; exact hs.held, fun _ ha => (nomatch ha)⟩
  · apply Triple.bind (M := fun _ => Owned t key txId fun p => p.status = .pending)
    · apply Triple.done
      intro s hs
      cases approvalData.index "approval_no" with
      | ok a => exact hs
      | error e => exact ⟨fun _ ha => (nomatch ha), fun _ _ => hs.mono hpending⟩
    intro approvalNo
    apply Triple.bind (M := fun _ => Owned t key txId fun p =>
      p.status = .success ∧ p.approvalNo = approvalNo)
    · apply Triple.conseq (updatePg_triple (hfirst _ _)) (fun _ hs => hs)
      intro r s hr
      cases r with
      | ok a => exact hr.1 a rfl
      | error e =>
          refine ⟨fun _ ha => (nomatch ha), fun _ _ => ?_⟩
          rcases hr.2 e rfl with how | ⟨hsuccess, -⟩
          · exact how.mono hpending
          · exact (hsuccess rfl).elim
    · intro _
      apply Triple.done
      intro s hs
      exact ⟨fun result hresult => by cases hresult; exact hs.held, fun _ ha => (nomatch ha)⟩

/-- A settled result is that of the row under the key. -/
theorem charge_returns (t : Tid) (command : ChargeRequest) :
    ChargeReturns t (fun _ => True) (ChargeBillingKeyService.execute command)
      (fun result s => s.1.HoldsCharge command.idempotencyKey result) := by
  apply Returns.bind (M := fun existing s => (existing = none → t ∈ s.2) ∧
    ∀ p, existing = some p → s.1.HoldsCharge command.idempotencyKey p.result)
  · apply leaving_call
    · trivial
    · exact .const True
    · intro w g existing w' _ _ he hstay
      cases he
      constructor
      · intro hnone
        exact mem_noteMiss (by simp [pgLookup, hnone])
      · exact fun p hp _ => ⟨p, hp, rfl⟩
  intro existing
  cases existing with
  | some p => exact .pure fun s hs => hs.2 p rfl
  | none =>
      apply Returns.bind (M := fun record s => t ∈ s.2 ∧ record ≠ none)
      · apply Returns.conseq (P := fun s => t ∈ s.2) _ (fun s hs => hs.1 rfl) (fun _ _ h => h)
        apply leaving_call
        · trivial
        · exact stable_missed
        · intro w g record w' ht hp he hstay
          have hknown := ((Bool.and_eq_true ..).mp ((Bool.and_eq_true ..).mp hp).1).2
          cases he
          refine ⟨hstay.missed ht, fun hnone => ?_⟩
          simp [registered, hnone] at hknown
      intro record
      cases record with
      | none => exact .absurd fun s hs => hs.2 rfl
      | some record =>
          apply Returns.conseq (P := fun s => t ∈ s.2) _ (fun s hs => hs.1) (fun _ _ h => h)
          apply (newTxId_returns stable_missed fun s s' hstay ht => hstay.missed ht).bind
          intro txId
          split
          · apply (createPgTransaction_returns txId .failed _).bind
            exact fun _ => .pure fun s hs => hs.held
          · apply (createPgTransaction_returns txId .pending none).bind
            intro _
            apply Returns.tryCatch (M := fun _ => Owned t command.idempotencyKey txId Unapproved)
            · apply Triple.conseq (approveCharge_triple txId record.cardToken)
              · exact fun s hs => hs.mono fun p hp => hp.1
              · exact fun r s hr => hr
            · intro e
              apply Returns.bind (M := fun _ => Owned t command.idempotencyKey txId fun p =>
                p.status = .failed ∧ p.approvalNo = none)
              · apply Triple.conseq (updatePg_triple _) (fun _ hs => hs) (fun r s hr => hr.1)
                intro p hp hsettled
                exact hp.resolve_left hsettled
              · exact fun _ => .pure fun s hs => hs.held

/-! ## Runs -/

theorem chargesStay_refl (s : World × List Tid) : ChargesStay s s :=
  ⟨fun _ _ h => h, fun _ h => h⟩

theorem serveCard_keeps (id : Nat) (request : CardChargeRequest) :
    pgLookups.Triple firstChargePolicy chargeContract t (fun _ => True)
      (ApproveCardPaymentService.serve id request) (fun _ _ => True) := by
  have hcalls : (ApproveCardPaymentService.serve id request).Calls
      (pgLookups.Keeps firstChargePolicy chargeContract t fun _ => True) := by
    apply (serveCard_servesCard id request).mono
    intro β op hop s m r s' _ _ _ ho _
    exact ⟨(charges_outcome_leaving hop.leaves ho).evolve t, trivial⟩
  exact Triple.calls hcalls (.const True)

theorem chargeOutline_meets : pgLookups.Meets firstChargePolicy chargeContract World.Unlooked {
    idle := fun _ _ => True
    ended := fun _ r s => ∀ command result, r = .ok (some (command, result)) →
      s.1.HoldsCharge command.idempotencyKey result
    stopped := fun _ _ => True } where
  init _ _ := ⟨trivial, fun _ => trivial⟩
  moves _ _ _ _ := trivial
  idle_stable _ := fun _ _ _ _ => trivial
  stopped_stable _ := fun _ _ _ _ => trivial
  ended_stable t r := by
    apply stable_of_evolve
    intro t' s s' hg hs command result hr
    exact hg.held (hs command result hr)
  start := by
    intro x s t p s' _ hb _ _
    cases x with
    | charge n command =>
        cases hb
        refine ⟨chargesStay_refl _, fun _ => ?_⟩
        have hreturns : ChargeReturns (.pg n) (fun _ => True)
            ((fun result => some (command, result)) <$> ChargeBillingKeyService.execute command)
            (fun reply s => ∀ command result, reply = some (command, result) →
              s.1.HoldsCharge command.idempotencyKey result) := by
          apply Returns.map
          apply Returns.conseq (charge_returns _ _) (fun _ h => h)
          intro result s hs command' result' he
          cases he
          exact hs
        apply Program.wp_mono (System.spec_monotone _ _ _ _) _ _ _ (hreturns s trivial)
        exact fun r s₁ hr command result he => hr _ he command result rfl
    | card id =>
        obtain ⟨o, ho, hb⟩ := Option.map_eq_some_iff.mp hb
        obtain ⟨d, hd, rfl⟩ := Option.map_eq_some_iff.mp ho
        cases hb
        refine ⟨⟨fun _ _ h => h, fun _ h => h⟩, fun _ => ?_⟩
        have hcard : pgLookups.Triple firstChargePolicy chargeContract (.card id) (fun _ => True)
            ((fun _ => (none : Option Charge)) <$> ApproveCardPaymentService.serve id d.1)
            (fun r s => ∀ command result, r = .ok (some (command, result)) →
              s.1.HoldsCharge command.idempotencyKey result) := by
          apply Triple.map
          apply Triple.conseq (serveCard_keeps id d.1) (fun _ h => h)
          intro r s _ command result he
          cases r <;> cases he
        exact hcard _ trivial
  crash _ _ _ := trivial
  environment := by
    intro x s s' he _
    obtain ⟨hw, hg⟩ := environment_of_noting he
    exact ⟨fun key p h => World.getPgTransaction_environment hw h, hg ▸ fun _ h => h⟩

/-- The row under the idempotency key gives every settled result, so any two of
them agree, and its primary key is the returned id. -/
theorem charge_agrees_with_row {c : Config Op PyError (Option Charge) (World × List Tid) Tid}
    (hc : pgLookups.Reachable firstChargePolicy World.Unlooked c) {t : Tid}
    {command : ChargeRequest} {result : ChargeBillingKeyResult}
    (hended : c.pool t = .ended (.ok (some (command, result))))
    (hsettled : result.status = .success ∨ result.status = .failed) :
    (∃ p ∈ c.state.1.pgTransactions, p.idempotencyKey = command.idempotencyKey ∧
      p.pgTxId = result.txId ∧ p.status = result.status ∧ p.approvalNo = result.approvalNo) ∧
    ∀ t' command' result', c.pool t' = .ended (.ok (some (command', result'))) →
      command'.idempotencyKey = command.idempotencyKey →
        result'.status = .success ∨ result'.status = .failed → result' = result := by
  have hrow : ∀ t command result, c.pool t = .ended (.ok (some (command, result))) →
      result.status = .success ∨ result.status = .failed →
        ∃ p, c.state.1.getPgTransaction command.idempotencyKey = some p ∧ result = p.result := by
    intro t command result hended hsettled
    have hA := (chargeOutline_meets.sound hc).2 t
    rw [hended] at hA
    apply hA command result rfl
    rcases hsettled with h | h <;> simp [h]
  obtain ⟨p, hp, rfl⟩ := hrow t command result hended hsettled
  constructor
  · exact ⟨p, mem_of_get? hp, col_of_get? hp, rfl, rfl, rfl⟩
  · intro t' command' result' hended' hkey hsettled'
    obtain ⟨p', hp', rfl⟩ := hrow t' command' result' hended' hsettled'
    rw [hkey, hp] at hp'
    cases hp'
    rfl

/-! ## The garage's charges -/

namespace Garage

def billing (billingKey : String) : ChargeRequest := ⟨billingKey, 1000, "KRW", "key-1"⟩

abbrev PgEvent := Label PyError Tid ChargeStart Env

/-- The card service approves the charge, and the same request is sent again. -/
def billedTwice : List PgEvent :=
  [.start (.charge 0 (billing "bk-1"))] ++ answers (Tid.pg 0) 7 ++ [.start (.card 0)] ++
    answers (Tid.card 0) 7 ++ answers (Tid.pg 0) 2 ++ [.start (.charge 1 (billing "bk-1"))] ++
    answers (Tid.pg 1) 1

/-- A key that the PG has not issued is charged, twice. -/
def unknownBilledTwice : List PgEvent :=
  [.start (.charge 0 (billing "bk-2"))] ++ answers (Tid.pg 0) 3 ++
    [.start (.charge 1 (billing "bk-2"))] ++ answers (Tid.pg 1) 3

def billed (n : Nat) (billingKey : String) (result : ChargeBillingKeyResult)
    (c : Config Op PyError (Option Charge) (World × List Tid) Tid) : Bool :=
  (c.pool (.pg n)).result? = some (.ok (some (billing billingKey, result)))

theorem ended_of_billed {n : Nat} {billingKey : String} {result : ChargeBillingKeyResult}
    {c : Config Op PyError (Option Charge) (World × List Tid) Tid}
    (h : billed n billingKey result c = true) :
    c.pool (.pg n) = .ended (.ok (some (billing billingKey, result))) :=
  Thread.result?_eq_some.mp (of_decide_eq_true h)

end Garage

/-- A charge that is sent again gets the answer that its row gives. -/
theorem charge_agrees_with_row_garage :
    ∃ c, pgLookups.Reachable firstChargePolicy World.Unlooked c ∧
      c.pool (.pg 1) = .ended (.ok (some
        (Garage.billing "bk-1", ⟨.success, "tx-0", some "CARD-1"⟩))) ∧
      ∃ p ∈ c.state.1.pgTransactions, p.idempotencyKey = "key-1" ∧ p.pgTxId = "tx-0" ∧
        p.status = .success ∧ p.approvalNo = some "CARD-1" := by
  have hrun : (pgLookups.run firstChargePolicy Garage.billedTwice (boot (garage, []))).any
      (Garage.billed 1 "bk-1" ⟨.success, "tx-0", some "CARD-1"⟩) = true := by
    decide +kernel
  obtain ⟨c, hc, h⟩ := pgLookups.exists_of_run hrun garage_unlooked
  have hended := Garage.ended_of_billed h
  exact ⟨c, hc, hended, (charge_agrees_with_row hc hended (.inl rfl)).1⟩

/-- A billing key that is not registered fails under a new id each time, and no
row is stored. -/
theorem unknown_key_charged_twice : ¬∀ c t command result,
    pgLookups.Reachable Policy.any World.Unlooked c →
    c.pool t = .ended (.ok (some (command, result))) →
    result.status = .success ∨ result.status = .failed →
    (∃ p ∈ c.state.1.pgTransactions, p.idempotencyKey = command.idempotencyKey ∧
      p.pgTxId = result.txId ∧ p.status = result.status ∧ p.approvalNo = result.approvalNo) ∧
    ∀ t' command' result', c.pool t' = .ended (.ok (some (command', result'))) →
      command'.idempotencyKey = command.idempotencyKey →
        result'.status = .success ∨ result'.status = .failed → result' = result := by
  intro hall
  have hrun : (pgLookups.run Policy.any Garage.unknownBilledTwice (boot (garage, []))).any
      (fun c => Garage.billed 0 "bk-2" ⟨.failed, "tx-0", none⟩ c &&
        Garage.billed 1 "bk-2" ⟨.failed, "tx-1", none⟩ c) = true := by
    decide +kernel
  obtain ⟨c, hc, h⟩ := pgLookups.exists_of_run hrun garage_unlooked
  obtain ⟨h₀, h₁⟩ := (Bool.and_eq_true ..).mp h
  have hagree := (hall c _ _ _ hc (Garage.ended_of_billed h₀) (.inr rfl)).2 _ _ _
    (Garage.ended_of_billed h₁) rfl (.inr rfl)
  exact absurd hagree (by decide)

end CarPayIn
