import CarPayIn.App.Phone
import Mathlib.Data.List.Induction
import Mathlib.Data.List.Nodup

/-! # The history of payments

The app adds an entry to its history for the answer to a payment and for every
notice of it, without looking at the entries that are there, and keeps the last
twenty. The history should show each payment once.
-/

namespace CarPayIn.App

open Process Process.System

/-! ## Newest first -/

section
variable {α : Type} [DecidableEq α]

/-- The entries of a sequence, each once and the newest first. -/
def newest (xs : List α) : List α := xs.foldl (fun seen x => seen.insert x) []

theorem newest_append (xs : List α) (x : α) : newest (xs ++ [x]) = (newest xs).insert x := by
  simp [newest]

theorem mem_newest {xs : List α} {x : α} : x ∈ newest xs ↔ x ∈ xs := by
  induction xs using List.reverseRecOn with
  | nil => rfl
  | append_singleton xs y ih => simp [newest_append, ih, or_comm]

omit [DecidableEq α] in
theorem nodup_append_singleton {xs : List α} {x : α} : (xs ++ [x]).Nodup ↔ x ∉ xs ∧ xs.Nodup := by
  rw [← List.concat_eq_append, List.nodup_concat]

theorem newest_eq_reverse {xs : List α} (h : xs.Nodup) : newest xs = xs.reverse := by
  induction xs using List.reverseRecOn with
  | nil => rfl
  | append_singleton xs x ih =>
      obtain ⟨hx, hxs⟩ := nodup_append_singleton.mp h
      rw [newest_append, List.insert_of_not_mem (fun hm => hx (mem_newest.mp hm)), ih hxs,
        List.reverse_append]
      rfl

omit [DecidableEq α] in
theorem take_cons_ne {xs : List α} (h : xs.Nodup) (hne : xs ≠ []) (x : α) (n : Nat) :
    (x :: xs).take (n + 2) ≠ xs.take (n + 2) := by
  cases xs with
  | nil => exact absurd rfl hne
  | cons y ys =>
      intro heq
      simp only [List.take_succ_cons, List.cons.injEq] at heq
      have hmem : y ∈ ys.take (n + 1) := heq.2 ▸ List.mem_cons_self
      exact (List.nodup_cons.mp h).1 (List.mem_of_mem_take hmem)

end

/-! ## What happens to the app -/

namespace Phone

inductive Event where
  | received (payload : Payload)
  | paid (transactionId : TxId) (amount : Int)
  | cleared
  | elapsed (milliseconds : Nat)
deriving DecidableEq, Repr

def Event.reported? : Event → Option TxId
  | .received (.complete transactionId _ _ _) => some transactionId
  | .paid transactionId _ => some transactionId
  | _ => none

def step (p : Phone) : Event → Phone
  | .received payload => p.receive payload
  | .paid transactionId amount => p.processPayment transactionId amount
  | .cleared => p.clearSession
  | .elapsed ms => { p with now := p.now + ms }

def after (p : Phone) (events : List Event) : Phone := events.foldl step p

def load (p : Phone) : List Transaction := p.transactions.reverse

def history (p : Phone) : List TxId := p.load.map (·.transactionId)

def reports (events : List Event) : List TxId := events.filterMap Event.reported?

variable (p : Phone)

theorem after_append (events : List Event) (e : Event) :
    p.after (events ++ [e]) = (p.after events).step e := by
  simp [after]

theorem history_saveTransaction (transactionId : TxId) (lotId : String) (amount : Int) :
    (p.saveTransaction transactionId lotId amount).history =
      (transactionId :: p.history).take 20 := by
  simp only [history, load, saveTransaction, ← List.take_reverse, List.map_take, List.reverse_append,
    List.reverse_singleton, List.singleton_append, List.map_cons]

/-- A report is put before the history, whatever is there, and twenty entries stay. -/
theorem history_step (e : Event) : (p.step e).history =
    match e.reported? with
    | some transactionId => (transactionId :: p.history).take 20
    | none => p.history := by
  cases e with
  | received payload =>
      cases payload with
      | confirmed sessionId lotId entryTime => rfl
      | complete transactionId approvalNumber lotId amount =>
          exact p.history_saveTransaction transactionId lotId (optInt amount)
  | paid transactionId amount =>
      exact p.history_saveTransaction transactionId p.parking.lotId amount
  | cleared => rfl
  | elapsed ms => rfl

theorem history_after (hp : p.transactions = []) (events : List Event) :
    (p.after events).history = (reports events).reverse.take 20 := by
  induction events using List.reverseRecOn with
  | nil => simp [after, history, load, reports, hp]
  | append_singleton events e ih =>
      rw [after_append, history_step, ih]
      cases he : e.reported? with
      | none => simp [reports, he]
      | some transactionId =>
          simp only [reports, List.filterMap_append, List.filterMap_cons, he, List.filterMap_nil,
            List.reverse_append, List.reverse_singleton, List.singleton_append, List.take_succ_cons,
            List.take_take]
          rfl

/-- The history shows the newest twenty payments, each once. -/
def Shown (p : Phone) (events : List Event) : Prop :=
  (p.after events).history = (newest (reports events)).take 20

theorem shown_of_nodup (hp : p.transactions = []) {events : List Event}
    (h : (reports events).Nodup) : p.Shown events := by
  unfold Shown
  rw [p.history_after hp, newest_eq_reverse h]

/-- The first payment that is reported again displaces another or shows twice. -/
theorem not_shown_of_repeated (hp : p.transactions = []) {events : List Event} {e : Event}
    {transactionId : TxId} (he : e.reported? = some transactionId)
    (h : (reports events).Nodup) (hmem : transactionId ∈ reports events) :
    ¬p.Shown (events ++ [e]) := by
  intro hshown
  have hreports : reports (events ++ [e]) = reports events ++ [transactionId] := by
    simp [reports, he]
  unfold Shown at hshown
  rw [p.history_after hp, hreports, newest_append,
    List.insert_of_mem (mem_newest.mpr hmem), newest_eq_reverse h, List.reverse_append] at hshown
  have hne : (reports events).reverse ≠ [] := by
    intro hnil
    rw [List.reverse_eq_nil_iff.mp hnil] at hmem
    cases hmem
  exact take_cons_ne (List.nodup_reverse.mpr h) hne transactionId 18 hshown

end Phone

/-! ## Runs -/

/-- What happens to the app in the environment of the workers and the broker. -/
theorem exists_event {x : Env} {s s' : State} (h : s.environment x = some s') :
    s'.phone = s.phone ∨ ∃ e, s'.phone = s.phone.step e := by
  cases x with
  | outbox x =>
      obtain ⟨o, -, rfl⟩ := Option.map_eq_some_iff.mp h
      exact .inl rfl
  | publishEntry n =>
      cases h
      exact .inl rfl
  | deliver i =>
      simp only [State.environment, State.deliver] at h
      split at h
      · cases h
      · rename_i n hsent
        split at h
        · cases h
          exact .inr ⟨.received n.message.payload, rfl⟩
        · cases h
  | processPayment transactionId amount =>
      cases h
      exact .inr ⟨.paid transactionId amount, rfl⟩
  | clearSession =>
      cases h
      exact .inr ⟨.cleared, rfl⟩
  | tick ms =>
      cases h
      exact .inr ⟨.elapsed ms, rfl⟩

/-- In every reachable state the history is that of the events the app has seen. -/
theorem history_of_reachable
    {π : Policy Outbox.Op PyError State Outbox.Tid (Outbox.Tid × Outbox.Settings) Env}
    {init : State → Prop} {c : Config Outbox.Op PyError Nat State Outbox.Tid}
    (hinit : ∀ s, init s → s.phone.transactions = []) (hc : notices.Reachable π init c) :
    ∃ events, c.state.phone.history = (Phone.reports events).reverse.take 20 := by
  have hevents : ∃ s events, init s ∧ c.state.phone = s.phone.after events := by
    apply hc.keeps (J := fun s => ∃ s₀ events, init s₀ ∧ s.phone = s₀.phone.after events)
    · exact fun s hs => ⟨s, [], hs, rfl⟩
    · intro t β op s r s' he h
      obtain ⟨⟨r, o⟩, -, he⟩ := Option.map_eq_some_iff.mp he
      cases he
      exact h
    · intro x s t p s' hb h
      cases hb
      exact h
    · rintro x s s' he ⟨s₀, events, hs₀, hphone⟩
      rcases exists_event he with hsame | ⟨e, he⟩
      · exact ⟨s₀, events, hs₀, hsame.trans hphone⟩
      · exact ⟨s₀, events ++ [e], hs₀, by rw [he, hphone, Phone.after_append]⟩
  obtain ⟨s, events, hs, hphone⟩ := hevents
  exact ⟨events, by rw [hphone, s.phone.history_after (hinit s hs)]⟩

open Phone

/-- Along every sequence of events the history shows the newest payments, each once, exactly if no
payment is reported twice. -/
theorem history_shows_each_payment_once {p : Phone} (hp : p.transactions = [])
    (events : List Phone.Event) :
    (∀ seen, seen <+: events → p.Shown seen) ↔ (reports events).Nodup := by
  constructor
  · intro h
    induction events using List.reverseRecOn with
    | nil => exact List.nodup_nil
    | append_singleton events e ih =>
        have hevents := ih fun seen hseen => h seen (hseen.trans (List.prefix_append _ _))
        cases he : e.reported? with
        | none => simpa [reports, he] using hevents
        | some transactionId =>
            have hnew : transactionId ∉ reports events := fun hmem =>
              p.not_shown_of_repeated hp he hevents hmem (h _ (List.prefix_refl _))
            have hreports : reports (events ++ [e]) = reports events ++ [transactionId] := by
              simp [reports, he]
            rw [hreports]
            exact nodup_append_singleton.mpr ⟨hnew, hevents⟩
  · rintro h seen ⟨rest, rfl⟩
    apply p.shown_of_nodup hp
    rw [reports, List.filterMap_append] at h
    exact (List.nodup_append.mp h).1

def newPhone : Phone := ⟨"car-1", 0, .empty, []⟩

theorem history_shows_two_payments :
    newPhone.Shown [.paid (.v4 0) 1000, .received (.complete (.v4 1) none "LOT_GN_01" 2000)] :=
  (history_shows_each_payment_once rfl _).mpr (by decide) _ (List.prefix_refl _)

/-- A payment that is answered and then noticed is there twice. -/
theorem history_shows_payment_twice :
    ¬newPhone.Shown [.paid (.v4 0) 1000, .received (.complete (.v4 0) none "LOT_GN_01" 1000)] := by
  unfold Shown
  decide

end CarPayIn.App
