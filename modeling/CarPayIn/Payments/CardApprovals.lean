import CarPayIn.Payments.Backing
import CarPayIn.Payments.Tables
import CarPayIn.Process.Lookups

/-! # Approvals under one idempotency key

An approval looks its key up twice, once in the service and once in the
repository, before the unique column has the last word. The service returns the
ids it has drawn, whatever the repository answers, so its result is the stored
one only when the two lookups agree.
-/

namespace CarPayIn

open Process Process.System Store Service

/-- Executions of the card service for any requests, started at any time. A
reply names the request it answers. -/
def cardService : System Op PyError (CardChargeRequest × ApproveCardPaymentResult) World Tid
    (Nat × CardChargeRequest) Env where
  exec t _ op w := w.exec t op
  begin x w := some (.card x.1, (x.2, ·) <$> ApproveCardPaymentService.execute x.2, w)
  environment x w := w.environment x

def CardTx.result (x : CardTx) : ApproveCardPaymentResult := ⟨x.status, x.txId, x.approvalNo⟩

def cardLookup : Probe Op World
  | _, .card (.getByIdempotencyKey key), w => some (w.getCardTx key).isSome
  | _, _, _ => none

/-- No execution that has found its key free finds it taken in the repository. -/
def firstApprovalPolicy : Policy Op PyError (World × List Tid) Tid (Nat × CardChargeRequest) Env where
  start _ _ := True
  call t _ op m s := unrivalled cardLookup t op m s = true
  crash _ _ := True
  environment _ _ := True

instance : firstApprovalPolicy.Computable where
  start _ _ := .isTrue trivial
  call _ _ _ _ _ := inferInstanceAs (Decidable (_ = true))
  crash _ _ := .isTrue trivial
  environment _ _ := .isTrue trivial

abbrev cardLookups : System Op PyError (CardChargeRequest × ApproveCardPaymentResult)
    (World × List Tid) Tid (Nat × CardChargeRequest) Env :=
  cardService.noting cardLookup

namespace World

variable {w w' : World} {key : String} {x : CardTx}

/-- The tables have their unique keys, and nobody has looked anything up. -/
def Unlooked (s : World × List Tid) : Prop := s.1.KeysUnique ∧ s.2 = []

def HoldsApproval (w : World) (key : String) (result : ApproveCardPaymentResult) : Prop :=
  ∃ x, w.getCardTx key = some x ∧ result = x.result

/-! ## Rows are never changed -/

theorem getCardTx_insert {row : CardTx} (hi : w.insertCardTx row = .ok w')
    (h : w.getCardTx key = some x) : w'.getCardTx key = some x := by
  unfold insertCardTx at hi
  split_ifs at hi with _ _ _ _ hnew
  cases hi
  have hkey : row.idempotencyKey ≠ key := by
    intro he
    rw [he, h] at hnew
    exact hnew rfl
  simp only [getCardTx, get?_cons, if_neg hkey]
  exact h

theorem getCardTx_inserted {row : CardTx} (hi : w.insertCardTx row = .ok w') :
    w'.getCardTx row.idempotencyKey = some row := by
  unfold insertCardTx at hi
  split_ifs at hi
  cases hi
  simp [getCardTx, get?_cons]

theorem getCardTx_execCard {t : Tid} {β : Type} (op : CardOp β) (h : w.getCardTx key = some x) :
    (w.execCard t op).2.getCardTx key = some x := by
  cases op with
  | insert row =>
      simp only [execCard]
      cases hi : w.insertCardTx (row t) with
      | error e => exact h
      | ok w' => exact getCardTx_insert hi h
  | _ => exact h

theorem getCardTx_environment {x : Env} {row : CardTx} (he : w.environment x = some w')
    (h : w.getCardTx key = some row) : w'.getCardTx key = some row := by
  cases x with
  | dropPg id | dropCard id | giveUpPg id | giveUpCard id =>
      obtain ⟨_, _, rfl⟩ := Option.map_eq_some_iff.mp he
      exact h
  | _ => cases he; exact h

end World

/-! ## The contract -/

/-- Rows stay as they are, and what was found stays found. -/
structure ApprovalsGrow (s s' : World × List Tid) : Prop where
  rows : ∀ key x, s.1.getCardTx key = some x → s'.1.getCardTx key = some x
  missed : s.2 ⊆ s'.2

def approvalContract : Contract (World × List Tid) Tid where
  invariant _ := True
  guarantee _ := ApprovalsGrow
  environment := ApprovalsGrow

abbrev ApprovalReturns (t : Tid) {α : Type} (P : World × List Tid → Prop) (p : Service α)
    (Q : α → World × List Tid → Prop) : Prop :=
  cardLookups.Returns firstApprovalPolicy approvalContract t P p Q

variable {t : Tid} {α : Type} {P : World × List Tid → Prop} {command : CardChargeRequest}

theorem stable_of_grow (h : ∀ s s', ApprovalsGrow s s' → P s → P s') :
    approvalContract.Stable t P := by
  intro s s' hi hs
  rcases hi.2.2 with ⟨t', -, hg⟩ | hg
  · exact h s s' hg hs
  · exact h s s' hg hs

theorem approvalsGrow_outcome {op : CardOp α} {m : Mode PyError} {r : Except PyError α}
    {s s' : World × List Tid} (ho : cardLookups.outcome t (.card op) m s = some (r, s')) :
    ApprovalsGrow s s' := by
  have hexec : ∀ r₀, cardService.exec t (.card op) s.1 = some (r₀, s'.1) →
      s'.2 = noteMiss cardLookup t (.card op) s.1 s.2 → ApprovalsGrow s s' := by
    intro r₀ he hg
    have hw : (s.1.execCard t op).2 = s'.1 := congrArg Prod.snd (Option.some.inj he)
    constructor
    · intro key x hx
      rw [← hw]
      exact World.getCardTx_execCard op hx
    · rw [hg]
      exact noteMiss_subset
  rcases history_cases ho with ⟨-, he, hg⟩ | ⟨e, -, -, hs, hg⟩ | ⟨e, r₀, -, -, he, hg⟩
  · exact hexec r he hg
  · exact ⟨fun key x hx => hs ▸ hx, hg ▸ fun _ h => h⟩
  · exact hexec r₀ he hg

theorem card_call {op : CardOp α} {Q : α → World × List Tid → Prop}
    (hP : ∀ s s', ApprovalsGrow s s' → P s → P s')
    (h : ∀ w g a w', P (w, g) → unrivalled cardLookup t (.card op) (.answered : Mode PyError) (w, g) →
      w.execCard t op = (.ok a, w') → ApprovalsGrow (w, g) (w', noteMiss cardLookup t (.card op) w g) →
      Q a (w', noteMiss cardLookup t (.card op) w g)) :
    ApprovalReturns t P (call (.card op)) Q := by
  apply Returns.perform (stable_of_grow hP)
  · intro s m r s' _ _ ho
    exact approvalsGrow_outcome ho
  · intro s a s' hs hp he
    have hgrow := approvalsGrow_outcome (m := .answered) he
    obtain ⟨w, g⟩ := s
    obtain ⟨w', g'⟩ := s'
    obtain ⟨hw, rfl⟩ := exec_of_noting he
    exact h w g a w' hs hp (Option.some.inj hw) hgrow

/-! ## The service -/

theorem ApprovalsGrow.held {s s' : World × List Tid} (h : ApprovalsGrow s s') {key : String}
    {result : ApproveCardPaymentResult} (hs : s.1.HoldsApproval key result) :
    s'.1.HoldsApproval key result := by
  obtain ⟨x, hx, hr⟩ := hs
  exact ⟨x, h.rows key x hx, hr⟩

/-- Whoever has found the key free stores the row himself. -/
theorem createTransaction_returns (txId : String) (status : TransactionStatus)
    (approvalNo : Option String) :
    ApprovalReturns t (fun s => t ∈ s.2)
      (ApproveCardPaymentService.createTransaction txId command status approvalNo)
      (fun _ s => s.1.HoldsApproval command.idempotencyKey ⟨status, txId, approvalNo⟩) := by
  apply Returns.bind (M := fun existing s => t ∈ s.2 ∧ existing = none)
  · apply card_call
    · exact fun s s' hg ht => hg.missed ht
    · intro w g existing w' ht hp he hg
      refine ⟨hg.missed ht, ?_⟩
      have hfree := probe_ne_of_unrivalled hp ht
      cases he
      simpa [cardLookup] using hfree
  intro existing
  cases existing with
  | some row => exact .absurd fun s hs => nomatch hs.2
  | none =>
      apply card_call
      · exact fun s s' hg hs => ⟨hg.missed hs.1, hs.2⟩
      · intro w g _ w' _ _ he _
        simp only [World.execCard] at he
        cases hi : w.insertCardTx _ with
        | error e =>
            rw [hi] at he
            cases he
        | ok w₁ =>
            rw [hi] at he
            cases he
            exact ⟨_, World.getCardTx_inserted hi, rfl⟩

theorem newId_returns (label : String) :
    ApprovalReturns t (fun s => t ∈ s.2) (ApproveCardPaymentService.newId label)
      (fun _ s => t ∈ s.2) := by
  apply Returns.bind (M := fun _ s => t ∈ s.2)
  · apply card_call
    · exact fun s s' hg ht => hg.missed ht
    · exact fun w g n w' ht _ _ hg => hg.missed ht
  · exact fun n => .pure fun s ht => ht

/-- A result is that of the row under the key, found or stored. -/
theorem approve_returns (t : Tid) (command : CardChargeRequest) :
    ApprovalReturns t (fun _ => True) (ApproveCardPaymentService.execute command)
      (fun result s => s.1.HoldsApproval command.idempotencyKey result) := by
  apply Returns.bind (M := fun existing s => (existing = none → t ∈ s.2) ∧
    ∀ x, existing = some x → s.1.getCardTx command.idempotencyKey = some x)
  · apply card_call
    · exact fun s s' _ _ => trivial
    · intro w g existing w' _ _ he hg
      cases he
      constructor
      · intro hnone
        exact mem_noteMiss (by simp [cardLookup, hnone])
      · exact fun x hx => hx
  intro existing
  cases existing with
  | some x => exact .pure fun s hs => ⟨x, hs.2 x rfl, rfl⟩
  | none =>
      apply Returns.conseq (P := fun s => t ∈ s.2) _ (fun s hs => hs.1 rfl) (fun _ _ h => h)
      dsimp only
      split
      · exact .throw
      apply Returns.bind (M := fun _ s => t ∈ s.2)
      · apply card_call
        · exact fun s s' hg ht => hg.missed ht
        · exact fun w g record w' ht _ _ hg => hg.missed ht
      intro record
      split
      · apply (newId_returns "card-tx-").bind
        intro txId
        apply (createTransaction_returns txId .failed none).bind
        exact fun _ => .pure fun s hs => hs
      · apply (newId_returns "card-tx-").bind
        intro txId
        apply (newId_returns "CARD-").bind
        intro approvalNo
        apply (createTransaction_returns txId .success (some approvalNo)).bind
        exact fun _ => .pure fun s hs => hs

/-! ## Runs -/

theorem approvalOutline_meets : cardLookups.Meets firstApprovalPolicy approvalContract
    World.Unlooked {
      idle := fun _ _ => True
      ended := fun _ r s => ∀ request result, r = .ok (request, result) →
        s.1.HoldsApproval request.idempotencyKey result
      stopped := fun _ _ => True } where
  init _ _ := ⟨trivial, fun _ => trivial⟩
  moves _ _ _ _ := trivial
  idle_stable _ := fun _ _ _ _ => trivial
  stopped_stable _ := fun _ _ _ _ => trivial
  ended_stable t r := by
    apply stable_of_grow
    intro s s' hg hs request result hr
    exact hg.held (hs request result hr)
  start := by
    intro x s t p s' _ hb _ _
    cases hb
    refine ⟨⟨fun _ _ h => h, fun _ h => h⟩, fun _ => ?_⟩
    have hreturns : ApprovalReturns (.card x.1) (fun _ => True)
        ((x.2, ·) <$> ApproveCardPaymentService.execute x.2)
        (fun reply s => s.1.HoldsApproval reply.1.idempotencyKey reply.2) :=
      .map (approve_returns _ _)
    apply Program.wp_mono (System.spec_monotone _ _ _ _) _ _ _ (hreturns s trivial)
    intro r s₁ hr request result he
    exact hr _ he
  crash _ _ _ := trivial
  environment := by
    intro x s s' he _
    obtain ⟨hw, hg⟩ := environment_of_noting he
    exact ⟨fun key row h => World.getCardTx_environment hw h, hg ▸ fun _ h => h⟩

/-- A key has one row at most, and every approval that returns says what it says. -/
theorem approval_agrees_with_row
    {c : Config Op PyError (CardChargeRequest × ApproveCardPaymentResult) (World × List Tid) Tid}
    (hc : cardLookups.Reachable firstApprovalPolicy World.Unlooked c) :
    (∀ key, (c.state.1.cardTransactions.filter fun x => x.idempotencyKey = key).length ≤ 1) ∧
      ∀ t request result, c.pool t = .ended (.ok (request, result)) →
        c.state.1.HoldsApproval request.idempotencyKey result := by
  constructor
  · have hunique : c.state.1.KeysUnique := by
      apply System.Reachable.keeps cardLookups (J := fun s => s.1.KeysUnique) _ _ _ _ hc
      · exact fun s hs => hs.1
      · intro t β op s r s' he h
        obtain ⟨o, ho, he⟩ := Option.map_eq_some_iff.mp he
        cases he
        exact h.exec ho
      · intro x s t p s' hb h
        cases hb
        exact h
      · intro x s s' he h
        exact h.environment (environment_of_noting he).1
    exact hunique.cardTransactions.length_filter_le
  · intro t request result hended
    have hA := (approvalOutline_meets.sound hc).2 t
    rw [hended] at hA
    exact hA request result rfl

/-! ## The garage's card -/

namespace Garage

def cardRequest : CardChargeRequest := ⟨"card-token-1", 1000, "KRW", "key-1"⟩

abbrev CardEvent := Label PyError Tid (Nat × CardChargeRequest) Env

def approvedTwice : List CardEvent :=
  [.start (0, cardRequest)] ++ answers (Tid.card 0) 6 ++ [.start (1, cardRequest)] ++ answers (Tid.card 1) 1

/-- The second request looks its key up before the first one has stored a row. -/
def approvedTogether : List CardEvent :=
  [.start (0, cardRequest), .start (1, cardRequest)] ++ answers (Tid.card 1) 4 ++ answers (Tid.card 0) 6 ++
    answers (Tid.card 1) 1

/-- The second request has been answered with these numbers. -/
def approvedAs (txId approvalNo : String)
    (c : Config Op PyError (CardChargeRequest × ApproveCardPaymentResult) (World × List Tid) Tid) :
    Bool :=
  (c.pool (.card 1)).result? = some (.ok (cardRequest, ⟨.success, txId, some approvalNo⟩))

end Garage

theorem garage_keysUnique : garage.KeysUnique := by
  constructor <;> exact List.nodup_nil

theorem garage_unlooked : World.Unlooked (garage, []) := ⟨garage_keysUnique, rfl⟩

/-- A repeated request is answered with the stored approval. -/
theorem approval_agrees_with_row_garage : ∃ c, cardLookups.Reachable firstApprovalPolicy World.Unlooked c ∧
    c.state.1.HoldsApproval "key-1" ⟨.success, "card-tx-0", some "CARD-1"⟩ := by
  have hrun : (cardLookups.run firstApprovalPolicy Garage.approvedTwice (boot (garage, []))).any
      (Garage.approvedAs "card-tx-0" "CARD-1") = true := by
    decide +kernel
  obtain ⟨c, hc, h⟩ := cardLookups.exists_of_run hrun garage_unlooked
  have hended := Thread.result?_eq_some.mp (of_decide_eq_true h)
  exact ⟨c, hc, (approval_agrees_with_row hc).2 _ _ _ hended⟩

/-- An approval that loses the race for its key returns the ids it has drawn. -/
theorem approval_without_row : ¬∀ c, cardLookups.Reachable Policy.any World.Unlooked c →
      (∀ key, (c.state.1.cardTransactions.filter fun x => x.idempotencyKey = key).length ≤ 1) ∧
        ∀ t request result, c.pool t = .ended (.ok (request, result)) →
          c.state.1.HoldsApproval request.idempotencyKey result := by
  intro hall
  have hrun : (cardLookups.run Policy.any Garage.approvedTogether (boot (garage, []))).any
      (fun c => Garage.approvedAs "card-tx-0" "CARD-1" c &&
        (c.state.1.getCardTx "key-1").map (·.txId) ≠ some "card-tx-0") = true := by
    decide +kernel
  obtain ⟨c, hc, h⟩ := cardLookups.exists_of_run hrun garage_unlooked
  obtain ⟨h, hrow⟩ := (Bool.and_eq_true ..).mp h
  have hended := Thread.result?_eq_some.mp (of_decide_eq_true h)
  obtain ⟨x, hx, hresult⟩ := (hall c hc).2 _ _ _ hended
  have htx : "card-tx-0" = x.txId := congrArg ApproveCardPaymentResult.txId hresult
  have hx : c.state.1.getCardTx "key-1" = some x := hx
  simp [hx, htx] at hrow

end CarPayIn
