import CarPayIn.Registration.Service
import CarPayIn.Process.Lookups
import Mathlib.Tactic.SplitIfs

/-! # Billing keys that are announced

A key is announced in a webhook or in the answer to a submission. The order is
looked up before the card is verified and again before the key is stored, and
the announced key is the one that was drawn, so it is the stored one only when
the two lookups agree.
-/

namespace CarPayIn.Registration

open Process Process.System Store CompleteCardRegistrationService

def orderLookup : Probe Op State
  | _, .getByOrderId orderId, s => some (s.getByOrderId orderId).isSome
  | _, _, _ => none

abbrev submissions (allowLocalFallback : Bool) :
    System Op PyError CompleteCardRegistrationResult (State × List Tid) Tid Tid Env :=
  (registrations allowLocalFallback).noting orderLookup

/-- No submission that has found its order without a key finds one when it stores its own. -/
def firstSubmissionPolicy : Policy Op PyError (State × List Tid) Tid Tid Env where
  start _ _ := True
  call t _ op m s := unrivalled orderLookup t op m s = true
  crash _ _ := True
  environment _ _ := True

instance : firstSubmissionPolicy.Computable where
  start _ _ := .isTrue trivial
  call _ _ _ _ _ := inferInstanceAs (Decidable (_ = true))
  crash _ _ := .isTrue trivial
  environment _ _ := .isTrue trivial

namespace State

variable {s s' : State} {orderId billingKey : String} {row : BillingKey}

def Stored (s : State) (orderId billingKey : String) : Prop :=
  ∃ row, s.getByOrderId orderId = some row ∧ row.billingKey = billingKey

def Unannounced (s : State × List Tid) : Prop := s.1.webhooks = [] ∧ s.2 = []

theorem getByOrderId_insert {cardToken lastFour : Option String} {orderId' : String}
    (hi : s.insertBillingKey orderId billingKey cardToken lastFour = .ok s')
    (h : s.getByOrderId orderId' = some row) : s'.getByOrderId orderId' = some row := by
  unfold insertBillingKey at hi
  split at hi
  · cases hi
  · split_ifs at hi with _ _ hnew
    cases hi
    have horder : orderId ≠ orderId' := by
      intro he
      rw [he, h] at hnew
      exact hnew rfl
    simp only [getByOrderId, get?_cons, if_neg horder]
    exact h

theorem stored_of_insert {cardToken lastFour : Option String}
    (hi : s.insertBillingKey orderId billingKey cardToken lastFour = .ok s') :
    s'.Stored orderId billingKey ∧ s'.webhooks = s.webhooks := by
  unfold insertBillingKey at hi
  split at hi
  · cases hi
  · split_ifs at hi
    cases hi
    exact ⟨⟨_, by simp [getByOrderId, get?_cons]; rfl, rfl⟩, rfl⟩

end State

/-! ## The contract -/

/-- Rows stay, what was found stays found, and a new webhook names a stored key. -/
structure Announces (s s' : State × List Tid) : Prop where
  rows : ∀ orderId row, s.1.getByOrderId orderId = some row → s'.1.getByOrderId orderId = some row
  missed : s.2 ⊆ s'.2
  webhooks : ∀ w ∈ s'.1.webhooks, w ∈ s.1.webhooks ∨ s.1.Stored w.orderId w.billingKey

def announcementContract : Contract (State × List Tid) Tid where
  invariant s := ∀ w ∈ s.1.webhooks, s.1.Stored w.orderId w.billingKey
  guarantee _ := Announces
  environment := Announces

variable {allowLocalFallback : Bool} {t : Tid} {α : Type} {P : State × List Tid → Prop}
  {s s' : State × List Tid}

theorem Announces.stored (h : Announces s s') {orderId billingKey : String}
    (hs : s.1.Stored orderId billingKey) : s'.1.Stored orderId billingKey := by
  obtain ⟨row, hrow, hkey⟩ := hs
  exact ⟨row, h.rows orderId row hrow, hkey⟩

theorem Announces.refl (s : State × List Tid) : Announces s s :=
  ⟨fun _ _ h => h, fun _ h => h, fun _ h => .inl h⟩

abbrev SubmissionReturns (allowLocalFallback : Bool) (t : Tid) {α : Type}
    (P : State × List Tid → Prop) (p : Service α) (Q : α → State × List Tid → Prop) : Prop :=
  (submissions allowLocalFallback).Returns firstSubmissionPolicy announcementContract t P p Q

theorem stable_of_announces (h : ∀ s s', Announces s s' → P s → P s') :
    announcementContract.Stable t P := by
  intro s s' hi hs
  rcases hi.2.2 with ⟨t', -, hg⟩ | hg
  · exact h s s' hg hs
  · exact h s s' hg hs

def Sendable {β : Type} (s : State) : Op β → Prop
  | .sendCardRegistrationWebhook w => s.Stored w.orderId w.billingKey
  | _ => True

theorem announces_exec {op : Op α} {r : Except PyError α} {x x' : State} {g g' : List Tid}
    (hop : Sendable x op) (he : x.exec op = (r, x')) (hg : g ⊆ g') : Announces (x, g) (x', g') := by
  cases op with
  | insertBillingKey orderId billingKey cardToken lastFour =>
      simp only [State.exec] at he
      cases hi : x.insertBillingKey orderId billingKey cardToken lastFour with
      | error e =>
          rw [hi] at he
          cases he
          exact ⟨fun _ _ h => h, hg, fun _ h => .inl h⟩
      | ok x₁ =>
          rw [hi] at he
          cases he
          refine ⟨fun _ _ h => State.getByOrderId_insert hi h, hg, fun w hw => .inl ?_⟩
          rw [← (State.stored_of_insert hi).2]
          exact hw
  | sendCardRegistrationWebhook w =>
      cases he
      refine ⟨fun _ _ h => h, hg, fun w' hw => ?_⟩
      rcases List.mem_cons.mp hw with rfl | hold
      · exact .inr hop
      · exact .inl hold
  | _ => cases he; exact ⟨fun _ _ h => h, hg, fun _ h => .inl h⟩

theorem announces_outcome {op : Op α} {m : Mode PyError} {r : Except PyError α}
    (hop : Sendable s.1 op)
    (ho : (submissions allowLocalFallback).outcome t op m s = some (r, s')) : Announces s s' := by
  rcases history_cases ho with ⟨-, he, hg⟩ | ⟨e, -, -, hs, hg⟩ | ⟨e, r₀, -, -, he, hg⟩
  · exact announces_exec hop (Option.some.inj he) (hg ▸ noteMiss_subset)
  · obtain rfl : s' = s := Prod.ext hs hg
    exact .refl s'
  · exact announces_exec hop (Option.some.inj he) (hg ▸ noteMiss_subset)

theorem submission_call {op : Op α} {Q : α → State × List Tid → Prop}
    (hP : ∀ s s', Announces s s' → P s → P s') (hop : ∀ s, P s → Sendable s.1 op)
    (h : ∀ x g a x', P (x, g) → unrivalled orderLookup t op (.answered : Mode PyError) (x, g) →
      x.exec op = (.ok a, x') → Announces (x, g) (x', noteMiss orderLookup t op x g) →
        Q a (x', noteMiss orderLookup t op x g)) :
    SubmissionReturns allowLocalFallback t P (call op) Q := by
  apply Returns.perform (stable_of_announces hP)
  · exact fun s m r s' hs _ ho => announces_outcome (hop s hs) ho
  · intro s a s' hs hp he
    have hannounces := announces_outcome (m := .answered) (hop s hs) he
    obtain ⟨x, g⟩ := s
    obtain ⟨x', g'⟩ := s'
    obtain ⟨hx, rfl⟩ := exec_of_noting he
    exact h x g a x' hs hp (Option.some.inj hx) hannounces

/-- A call that keeps what no announcement falsifies. -/
theorem keeps_of_announces {op : Op α} (hP : ∀ s s', Announces s s' → P s → P s')
    (hop : ∀ s, P s → Sendable s.1 op) :
    (submissions allowLocalFallback).Keeps firstSubmissionPolicy announcementContract t P op := by
  intro s m r s' hs _ _ ho _
  have hannounces := announces_outcome (hop s hs) ho
  exact ⟨hannounces, hP s s' hannounces hs⟩

/-! ## The service -/

theorem missed_announces (s s' : State × List Tid) (h : Announces s s') (ht : t ∈ s.2) :
    t ∈ s'.2 := h.missed ht

theorem stored_announces {orderId billingKey : String} (s s' : State × List Tid)
    (h : Announces s s') (hs : s.1.Stored orderId billingKey) : s'.1.Stored orderId billingKey :=
  h.stored hs

theorem cardData_returns (command : CompleteCardRegistrationCommand) :
    SubmissionReturns allowLocalFallback t (fun s => t ∈ s.2) (cardData allowLocalFallback command)
      (fun _ s => t ∈ s.2) := by
  apply Returns.calls
  · apply Program.Calls.tryCatch
    · apply Program.Calls.bind
      · exact (Program.calls_perform _).mpr
          (keeps_of_announces missed_announces fun _ _ => trivial)
      · exact fun _ => trivial
    · intro e
      split
      · trivial
      · apply Program.Calls.bind
        · apply Program.Calls.bind
          · exact (Program.calls_perform _).mpr
              (keeps_of_announces missed_announces fun _ _ => trivial)
          · exact fun _ => trivial
        · exact fun _ => trivial
  · exact stable_of_announces missed_announces

/-- Whoever has found the order without a key stores the key himself. -/
theorem saveBillingKey_returns (orderId billingKey : String) (cardToken lastFour : Option String) :
    SubmissionReturns allowLocalFallback t (fun s => t ∈ s.2)
      (saveBillingKey orderId billingKey cardToken lastFour)
      (fun _ s => s.1.Stored orderId billingKey) := by
  apply Returns.bind (M := fun existing s => t ∈ s.2 ∧ existing = none)
  · apply submission_call missed_announces
    · exact fun _ _ => trivial
    · intro x g existing x' ht hp he hannounces
      have hfree := probe_ne_of_unrivalled hp ht
      cases he
      exact ⟨hannounces.missed ht, by simpa [orderLookup] using hfree⟩
  intro existing
  cases existing with
  | some row => exact .absurd fun s hs => nomatch hs.2
  | none =>
      apply submission_call
      · exact fun s s' h hs => ⟨h.missed hs.1, hs.2⟩
      · exact fun _ _ => trivial
      · intro x g a x' _ _ he _
        simp only [State.exec] at he
        cases hi : x.insertBillingKey orderId billingKey cardToken lastFour with
        | error e =>
            rw [hi] at he
            cases he
        | ok x₁ =>
            rw [hi] at he
            cases he
            exact (State.stored_of_insert hi).1

def Names (orderId : String) (result : CompleteCardRegistrationResult) (s : State) : Prop :=
  result.status = .success → ∃ key, result.billingKey = some key ∧ s.Stored orderId key

theorem register_returns (command : CompleteCardRegistrationCommand) (data : Json) :
    SubmissionReturns allowLocalFallback t (fun s => t ∈ s.2) (register command data)
      (fun result s => Names command.orderId result s.1) := by
  apply Returns.bind (M := fun _ s => t ∈ s.2)
  · apply submission_call missed_announces
    · exact fun _ _ => trivial
    · exact fun x g n x' ht _ _ h => h.missed ht
  intro n
  apply Returns.bind (M := fun _ s => t ∈ s.2)
  · exact fun s ht _ _ => ht
  intro cardToken
  apply Returns.bind (M := fun _ s => t ∈ s.2)
  · exact fun s ht _ _ => ht
  intro lastFour
  apply (saveBillingKey_returns command.orderId _ cardToken lastFour).bind
  intro _
  apply Returns.bind (M := fun _ s => s.1.Stored command.orderId ("bk-" ++ toString n))
  · apply Returns.attempt
    apply Triple.calls
    · exact (Program.calls_perform _).mpr (keeps_of_announces stored_announces fun s hs => hs)
    · exact stable_of_announces stored_announces
  · exact fun _ => .pure fun s hs _ => ⟨_, rfl, hs⟩

theorem complete_returns (t : Tid) :
    SubmissionReturns allowLocalFallback t (fun _ => True)
      (execute allowLocalFallback t.command)
      (fun result s => Names t.command.orderId result s.1) := by
  apply Returns.bind (M := fun existing s => (existing = none → t ∈ s.2) ∧
    ∀ row, existing = some row → s.1.Stored t.command.orderId row.billingKey)
  · apply submission_call
    · exact fun _ _ _ _ => trivial
    · exact fun _ _ => trivial
    · intro x g existing x' _ _ he _
      cases he
      constructor
      · intro hnone
        exact mem_noteMiss (by simp [orderLookup, hnone])
      · exact fun row hrow => ⟨row, hrow, rfl⟩
  intro existing
  cases existing with
  | some row =>
      apply Returns.conseq (P := fun s => s.1.Stored t.command.orderId row.billingKey) _
        (fun s hs => hs.2 row rfl) (fun _ _ h => h)
      apply Returns.bind (M := fun _ s => s.1.Stored t.command.orderId row.billingKey)
      · apply submission_call stored_announces
        · exact fun s hs => hs
        · exact fun x g _ x' hs _ _ h => h.stored hs
      · exact fun _ => .pure fun s hs _ => ⟨_, rfl, hs⟩
  | none =>
      apply Returns.conseq (P := fun s => t ∈ s.2) _ (fun s hs => hs.1 rfl) (fun _ _ h => h)
      apply (cardData_returns t.command).bind
      intro data
      cases data with
      | none => exact .pure fun s _ hsuccess => nomatch hsuccess
      | some data => exact register_returns t.command data

/-! ## Runs -/

theorem submissions_meet (allowLocalFallback : Bool) :
    (submissions allowLocalFallback).Meets firstSubmissionPolicy announcementContract
      State.Unannounced {
        idle := fun _ _ => True
        ended := fun t r s => ∀ result, r = .ok result → Names t.command.orderId result s.1
        stopped := fun _ _ => True } where
  init s hs := by
    refine ⟨fun w hw => ?_, fun _ => trivial⟩
    rw [hs.1] at hw
    cases hw
  moves s s' hi hm := by
    have hstep : Announces s s' := by
      rcases hm with ⟨t, hg⟩ | hg
      · exact hg
      · exact hg
    intro w hw
    rcases hstep.webhooks w hw with hold | hstored
    · exact hstep.stored (hi w hold)
    · exact hstep.stored hstored
  idle_stable _ := fun _ _ _ _ => trivial
  stopped_stable _ := fun _ _ _ _ => trivial
  ended_stable t r := by
    apply stable_of_announces
    intro s s' h hs result hr hsuccess
    obtain ⟨key, hkey, hstored⟩ := hs result hr hsuccess
    exact ⟨key, hkey, h.stored hstored⟩
  start := by
    intro x s t p s' _ hb _ _
    cases hb
    exact ⟨.refl s, fun _ => complete_returns x s trivial⟩
  crash _ _ _ := trivial
  environment := by
    intro x s s' he _
    obtain ⟨hx, hg⟩ := environment_of_noting he
    obtain ⟨y, g⟩ := s
    obtain ⟨y', g'⟩ := s'
    cases x
    cases hx
    exact ⟨fun _ _ h => h, hg ▸ fun _ h => h, fun _ h => .inl h⟩

/-- The key was sent in a webhook for the order, or returned to a submission of it. -/
def Announced (c : Config Op PyError CompleteCardRegistrationResult (State × List Tid) Tid)
    (orderId billingKey : String) : Prop :=
  (∃ w ∈ c.state.1.webhooks, w.orderId = orderId ∧ w.billingKey = billingKey) ∨
    ∃ t result, c.pool t = .ended (.ok result) ∧ result.status = .success ∧
      t.command.orderId = orderId ∧ result.billingKey = some billingKey

/-- Every announced key is the one that is stored for its order, so all that is
announced for an order is one key, and every success announces one. -/
theorem announced_keys_stored (allowLocalFallback : Bool)
    {c : Config Op PyError CompleteCardRegistrationResult (State × List Tid) Tid}
    (hc : (submissions allowLocalFallback).Reachable firstSubmissionPolicy State.Unannounced c) :
    (∀ orderId billingKey, Announced c orderId billingKey →
      (∃ row ∈ c.state.1.billingKeys, row.orderId = orderId ∧ row.billingKey = billingKey) ∧
        ∀ billingKey', Announced c orderId billingKey' → billingKey' = billingKey) ∧
    ∀ t result, c.pool t = .ended (.ok result) → result.status = .success →
      result.billingKey.isSome := by
  have hsound := (submissions_meet allowLocalFallback).sound hc
  have hnames : ∀ t result, c.pool t = .ended (.ok result) →
      Names t.command.orderId result c.state.1 := by
    intro t result hended
    have hA := hsound.2 t
    rw [hended] at hA
    exact hA result rfl
  have hstored : ∀ orderId billingKey, Announced c orderId billingKey →
      c.state.1.Stored orderId billingKey := by
    intro orderId billingKey h
    rcases h with ⟨w, hw, rfl, rfl⟩ | ⟨t, result, hended, hsuccess, rfl, hkey⟩
    · exact hsound.1 w hw
    · obtain ⟨key, hkey', hstored⟩ := hnames t result hended hsuccess
      rw [hkey] at hkey'
      cases hkey'
      exact hstored
  constructor
  · intro orderId billingKey h
    obtain ⟨row, hrow, hkey⟩ := hstored orderId billingKey h
    refine ⟨⟨row, mem_of_get? hrow, col_of_get? hrow, hkey⟩, fun billingKey' h' => ?_⟩
    obtain ⟨row', hrow', hkey'⟩ := hstored orderId billingKey' h'
    rw [hrow] at hrow'
    cases hrow'
    exact hkey'.symm.trans hkey
  · intro t result hended hsuccess
    obtain ⟨key, hkey, -⟩ := hnames t result hended hsuccess
    simp [hkey]

/-! ## One order -/

namespace Form

def empty : State where
  drawn := 0
  billingKeys := []
  verification _ := .ok [("card_token", some "card-token-1"), ("last_four", some "3456")]
  webhooks := []

def submission (n : Nat) : Tid := ⟨n, ⟨"order-1", "1234567890123456", "12/30", "123"⟩⟩

/-- The form is sent, and sent again after it was answered. -/
def sentTwice : List (Label PyError Tid Tid Env) :=
  [.start (submission 0)] ++ answers (submission 0) 6 ++ [.start (submission 1)] ++
    answers (submission 1) 2

/-- Both submissions look the order up before either stores a key. -/
def sentTogether : List (Label PyError Tid Tid Env) :=
  [.start (submission 0), .start (submission 1)] ++ answers (submission 1) 3 ++
    answers (submission 0) 6 ++ answers (submission 1) 2

theorem empty_unannounced : State.Unannounced (empty, []) := ⟨rfl, rfl⟩

def announced (keys : List String)
    (c : Config Op PyError CompleteCardRegistrationResult (State × List Tid) Tid) : Bool :=
  c.state.1.webhooks.map (fun w => (w.orderId, w.billingKey)) = keys.map (("order-1", ·))

theorem announced_of_mem {keys : List String} {key : String}
    {c : Config Op PyError CompleteCardRegistrationResult (State × List Tid) Tid}
    (h : announced keys c = true) (hkey : key ∈ keys) : Announced c "order-1" key := by
  have hmem : ("order-1", key) ∈ c.state.1.webhooks.map fun w => (w.orderId, w.billingKey) := by
    rw [of_decide_eq_true h]
    exact List.mem_map_of_mem hkey
  obtain ⟨w, hw, he⟩ := List.mem_map.mp hmem
  obtain ⟨horder, hkey⟩ := Prod.mk.inj he
  exact .inl ⟨w, hw, horder, hkey⟩

end Form

/-- A form that is sent again is answered with the stored key. -/
theorem announced_keys_stored_form : ∃ c,
    (submissions false).Reachable firstSubmissionPolicy State.Unannounced c ∧
      Announced c "order-1" "bk-0" ∧
      ∃ row ∈ c.state.1.billingKeys, row.orderId = "order-1" ∧ row.billingKey = "bk-0" := by
  have hrun : ((submissions false).run firstSubmissionPolicy Form.sentTwice
      (boot (Form.empty, []))).any (Form.announced ["bk-0", "bk-0"]) = true := by
    decide +kernel
  obtain ⟨c, hc, h⟩ := (submissions false).exists_of_run hrun Form.empty_unannounced
  have hannounced : Announced c "order-1" "bk-0" := Form.announced_of_mem h (by simp)
  exact ⟨c, hc, hannounced, ((announced_keys_stored false hc).1 _ _ hannounced).1⟩

/-- Two submissions that both find the order without a key announce two keys. -/
theorem two_keys_announced : ¬∀ allowLocalFallback c,
    (submissions allowLocalFallback).Reachable Policy.any State.Unannounced c →
    (∀ orderId billingKey, Announced c orderId billingKey →
      (∃ row ∈ c.state.1.billingKeys, row.orderId = orderId ∧ row.billingKey = billingKey) ∧
        ∀ billingKey', Announced c orderId billingKey' → billingKey' = billingKey) ∧
    ∀ t result, c.pool t = .ended (.ok result) → result.status = .success →
      result.billingKey.isSome := by
  intro hall
  have hrun : ((submissions false).run Policy.any Form.sentTogether
      (boot (Form.empty, []))).any (Form.announced ["bk-0", "bk-1"]) = true := by
    decide +kernel
  obtain ⟨c, hc, h⟩ := (submissions false).exists_of_run hrun Form.empty_unannounced
  have hfirst : Announced c "order-1" "bk-0" := Form.announced_of_mem h (by simp)
  have hsecond : Announced c "order-1" "bk-1" := Form.announced_of_mem h (by simp)
  have hsame := ((hall false c hc).1 _ _ hfirst).2 _ hsecond
  exact absurd hsame (by decide)

end CarPayIn.Registration
