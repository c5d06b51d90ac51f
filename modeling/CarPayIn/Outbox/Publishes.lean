import CarPayIn.Outbox.LastAttempt
import CarPayIn.Process.Counting

/-! # How often a row is handed to the publisher

A claim counts an attempt before the worker publishes, whatever becomes of the
worker and its lease. So every publish has been paid for by a claim, and there
are no more claims of a row than it has attempts.
-/

namespace CarPayIn.Outbox

open Process Process.System Store SqlAlchemyPaymentNotificationOutboxRepository PaymentOutboxWorker

variable {s s' : State} {t : Tid} {n : Notification} {r : Row} {id : Uuid} {α : Type}

def publishes (id : Uuid) (β : Type) (op : Op β) : Bool :=
  match op with
  | .publishPaymentNotification n => n.notificationId = id
  | _ => false

/-- How often a claim has brought the row. -/
def brings (id : Uuid) (β : Type) (op : Op β) (r : Except PyError β) : Nat :=
  match op, r with
  | .claimDue _ _ _, .ok ns => (ns.map Notification.notificationId).count id
  | _, _ => 0

/-! ## The attempts of a row -/

structure Bounded (s : State) : Prop where
  unique : UniqueBy Row.notificationId s.rows
  fresh : ∀ r ∈ s.rows, r.notificationId < s.drawn
  bound : ∀ r ∈ s.rows, r.attempts ≤ r.maxAttempts

/-- The attempts counted for the row, which may not be there yet. -/
def State.attempts (s : State) (id : Uuid) : Nat := ((s.get id).map (·.attempts)).getD 0

theorem Bounded.of_same (hs : Bounded s) (hrows : s'.rows = s.rows) (hdrawn : s'.drawn = s.drawn) :
    Bounded s' := by
  constructor
  · rw [hrows]
    exact hs.unique
  · rw [hrows, hdrawn]
    exact hs.fresh
  · rw [hrows]
    exact hs.bound

theorem Bounded.claimDue (hs : Bounded s) (now limit lease : Nat) :
    Bounded (s.claimDue t now limit lease).2 := by
  have hid := claimed_id (s.dueIds now limit) now lease
  constructor
  · exact hs.unique.map hid
  · intro r' hr'
    obtain ⟨r, hr, rfl⟩ := List.mem_map.mp hr'
    rw [hid]
    exact hs.fresh r hr
  · intro r' hr'
    obtain ⟨r, hr, rfl⟩ := List.mem_map.mp hr'
    by_cases hdue : r.notificationId ∈ s.dueIds now limit
    · rw [if_pos hdue]
      have hisDue := (due_subset (mem_due_of_id hs.unique hr hdue)).2
      simp only [Row.isDue, Bool.decide_and, Bool.and_eq_true, decide_eq_true_eq] at hisDue
      exact hisDue.2.2
    · rw [if_neg hdue]
      exact hs.bound r hr

theorem Bounded.commit (hs : Bounded s) (loaded changed : Row) :
    Bounded (s.commit t loaded changed) := by
  constructor
  · exact hs.unique.modify fun _ => rfl
  · intro r' hr'
    obtain ⟨r, hr, rfl⟩ := List.mem_map.mp hr'
    have hrow := hs.fresh r hr
    split <;> exact hrow
  · intro r' hr'
    obtain ⟨r, hr, rfl⟩ := List.mem_map.mp hr'
    have hrow := hs.bound r hr
    split <;> exact hrow

theorem Bounded.insert (hs : Bounded s) (note : PaymentNotificationOutbox) :
    Bounded (s.insert note) := by
  constructor
  · apply hs.unique.cons
    rw [get?_eq_none]
    intro r hr
    exact Nat.ne_of_lt (hs.fresh r hr)
  · intro r hr
    rcases List.mem_cons.mp hr with rfl | hold
    · exact Nat.lt_succ_self _
    · exact Nat.lt_succ_of_lt (hs.fresh r hold)
  · intro r hr
    rcases List.mem_cons.mp hr with rfl | hold
    · exact Nat.zero_le _
    · exact hs.bound r hold

/-- The row after a step: its attempts may have been counted, and nothing else
about them has changed. -/
def Evolves (id : Uuid) (k : Nat) (s s' : State) : Prop :=
  ∀ r, s.get id = some r → ∃ r', s'.get id = some r' ∧ r'.attempts = r.attempts + k ∧
    r'.maxAttempts = r.maxAttempts

theorem Evolves.attempts {k : Nat} (h : Evolves id k s s') (hk : s.get id = none → k = 0) :
    s.attempts id + k ≤ s'.attempts id := by
  unfold State.attempts
  cases hr : s.get id with
  | none => simp [hk hr]
  | some r =>
      obtain ⟨r', hr', hattempts, -⟩ := h r hr
      simp [hr', hattempts]

theorem evolves_refl : Evolves id 0 s s := fun r hr => ⟨r, hr, rfl, rfl⟩

theorem claimDue_evolves (hs : Bounded s) (now limit lease : Nat) :
    Evolves id ((s.dueIds now limit).count id) s (s.claimDue t now limit lease).2 := by
  intro r hr
  have hid : r.notificationId = id := col_of_get? hr
  refine ⟨_, by rw [get_claimDue, hr]; rfl, ?_⟩
  dsimp only
  by_cases hdue : id ∈ s.dueIds now limit
  · rw [List.count_eq_one_of_mem (dueIds_nodup hs.unique now limit) hdue, if_pos (hid ▸ hdue)]
    exact ⟨rfl, rfl⟩
  · rw [List.count_eq_zero.mpr hdue, if_neg (hid ▸ hdue)]
    exact ⟨rfl, rfl⟩

theorem not_due_of_none {now limit : Nat} (hs : Bounded s) (h : s.get id = none) :
    (s.dueIds now limit).count id = 0 := by
  apply List.count_eq_zero.mpr
  intro hmem
  obtain ⟨r, hr, rfl⟩ := List.mem_map.mp hmem
  have hget : s.get r.notificationId = some r := hs.unique.get?_of_mem (due_subset hr).1
  rw [h] at hget
  cases hget

theorem commit_evolves (loaded changed : Row) : Evolves id 0 s (s.commit t loaded changed) := by
  intro r hr
  rw [get_commit, hr]
  by_cases hid : id = loaded.notificationId
  · rw [if_pos hid]
    exact ⟨_, rfl, rfl, rfl⟩
  · rw [if_neg hid]
    exact ⟨r, rfl, rfl, rfl⟩

theorem insert_evolves (hs : Bounded s) (note : PaymentNotificationOutbox) :
    Evolves id 0 s (s.insert note) := by
  intro r hr
  have hlt : id < s.drawn := by
    have hid : r.notificationId = id := col_of_get? hr
    rw [← hid]
    exact hs.fresh r (mem_of_get? hr)
  rw [get_insert note (Nat.ne_of_lt hlt)]
  exact ⟨r, hr, rfl, rfl⟩

theorem exec_evolves (id : Uuid) {op : Op α} {x : Except PyError α} (hs : Bounded s)
    (h : s.exec t op = some (x, s')) :
    Bounded s' ∧ Evolves id (brings id α op x) s s' ∧ (s.get id = none → brings id α op x = 0) := by
  cases op with
  | now | get id' =>
      cases h
      exact ⟨hs, evolves_refl, fun _ => rfl⟩
  | claimDue now limit lease =>
      have hx : x = .ok (s.claimDue t now limit lease).1 ∧ s' = (s.claimDue t now limit lease).2 := by
        cases h
        exact ⟨rfl, rfl⟩
      obtain ⟨rfl, rfl⟩ := hx
      have hbrings : brings id _ (.claimDue now limit lease)
          (.ok (s.claimDue t now limit lease).1) = (s.dueIds now limit).count id := by
        simp only [brings, claimDue_ids]
      rw [hbrings]
      exact ⟨hs.claimDue now limit lease, claimDue_evolves hs now limit lease, not_due_of_none hs⟩
  | publishPaymentNotification n =>
      cases h
      exact ⟨hs.of_same rfl rfl, evolves_refl, fun _ => rfl⟩
  | commit loaded changed =>
      simp only [State.exec] at h
      split at h
      · cases h
      · cases h
        exact ⟨hs.commit loaded changed, commit_evolves loaded changed, fun _ => rfl⟩

theorem environment_evolves (id : Uuid) {x : Env} (hs : Bounded s) (h : s.environment x = some s') :
    Bounded s' ∧ Evolves id 0 s s' := by
  cases x with
  | tick μs | lock ids =>
      cases h
      exact ⟨hs.of_same rfl rfl, evolves_refl⟩
  | insert note =>
      simp only [State.environment] at h
      split at h
      · cases h
      · cases h
        exact ⟨hs.insert note, insert_evolves hs note⟩

/-! ## The publishes of a worker -/

abbrev Paid (id : Uuid) (p : Service α) (Q : Except PyError α → Nat → Prop) (k : Nat) : Prop :=
  p.wp (credits (publishes id) (brings id)) Q k

theorem free_call {op : Op α} (hcost : publishes id α op = false)
    (hincome : ∀ x, brings id α op x = 0) : (call op).Calls fun {β} op =>
      publishes id β op = false ∧ ∀ x, brings id β op x = 0 :=
  ⟨⟨hcost, hincome⟩, fun _ => trivial⟩

theorem mark_paid {change : Row → Nat → Row} (notificationId : Uuid)
    {Q : Except PyError Unit → Nat → Prop} {k : Nat} (hQ : ∀ x, Q x k) :
    Paid id (do
      let notification ← get notificationId
      let now ← call .now
      call (.commit notification (change notification now))) Q k := by
  apply wp_credits_of_calls ?_ hQ
  apply Program.Calls.bind
  · apply Program.Calls.bind (free_call rfl fun _ => rfl)
    intro found
    cases found <;> trivial
  · intro notification
    apply Program.Calls.bind (free_call rfl fun _ => rfl)
    intro now
    exact free_call rfl fun _ => rfl

/-- One publish of the row costs one credit, whether it raises or not. -/
theorem publishOne_paid {Q : Except PyError Unit → Nat → Prop} {k : Nat}
    (hcost : (if n.notificationId = id then 1 else 0) ≤ k)
    (hQ : ∀ x, Q x (k - if n.notificationId = id then 1 else 0)) :
    Paid id (publishOne n) Q k := by
  have hpublishes : (publishes id _ (.publishPaymentNotification n)).toNat =
      if n.notificationId = id then 1 else 0 := by
    by_cases hid : n.notificationId = id <;> simp [publishes, hid]
  unfold publishOne
  simp only [Paid, Program.bind_eq, Program.wp_bind, Program.wp_attempt, Program.wp_perform]
  constructor
  · rw [hpublishes]
    exact hcost
  · intro published
    rw [hpublishes]
    cases published with
    | error exc => exact mark_paid _ hQ
    | ok u => exact mark_paid _ hQ

theorem publishAll_paid (id : Uuid) (ns : List Notification) {k : Nat}
    (hk : (ns.map Notification.notificationId).count id ≤ k) :
    Paid id (publishAll ns) (fun _ _ => True) k := by
  induction ns generalizing k with
  | nil => trivial
  | cons n ns ih =>
      rw [List.map_cons, List.count_cons] at hk
      have hcost : (if n.notificationId = id then 1 else 0) ≤ k := by
        simp only [beq_iff_eq] at hk
        omega
      unfold publishAll
      simp only [Paid, Program.bind_eq, Program.wp_bind]
      apply publishOne_paid hcost
      intro x
      cases x with
      | error e => trivial
      | ok u =>
          apply ih
          simp only [beq_iff_eq] at hk
          omega

theorem runOnce_paid (settings : Settings) : Paid id (runOnce settings) (fun _ _ => True) 0 := by
  unfold runOnce SqlAlchemyPaymentNotificationOutboxRepository.claimDue
  simp only [Paid, Program.bind_eq, Program.wp_bind, Program.wp_perform]
  refine ⟨Nat.le_refl _, fun now => ?_⟩
  cases now with
  | error e => trivial
  | ok now =>
      refine ⟨Nat.zero_le _, fun batch => ?_⟩
      cases batch with
      | error e => trivial
      | ok ns =>
          have hpaid := publishAll_paid id ns (Nat.le_refl _)
          simp only [publishes, brings, Bool.toNat_false, Nat.sub_zero, Nat.zero_add]
          apply Program.wp_mono ?_ _ ?_ _ hpaid
          · intro β op Φ Ψ h k hk
            exact ⟨hk.1, fun x => h x _ (hk.2 x)⟩
          · intro x k _
            cases x <;> trivial

/-! ## Runs -/

theorem bounded_of_reachable {c : Config Op PyError Nat State Tid}
    (hc : outbox.Reachable .any State.Vacant c) : Bounded c.state := by
  apply Reachable.keeps outbox ?_ ?_ ?_ ?_ hc
  · intro s ⟨hrows, _⟩
    constructor <;> simp [hrows, UniqueBy]
  · intro t β op s x s' he hs
    exact (exec_evolves 0 hs he).1
  · intro x s t p s' hb hs
    cases hb
    exact hs
  · intro x s s' he hs
    exact (environment_evolves 0 hs he).1

/-- The attempts of a row are never taken back, and its limit stays. -/
theorem attempts_later {c c' : Config Op PyError Nat State Tid}
    (hc : outbox.Reachable .any State.Vacant c) (hl : outbox.Later .any c c')
    (hr : c.state.get id = some r) : ∃ r', c'.state.get id = some r' ∧ r.attempts ≤ r'.attempts ∧
      r'.maxAttempts = r.maxAttempts := by
  induction hl with
  | refl => exact ⟨r, hr, Nat.le_refl _, rfl⟩
  | step l hl hp ha ih =>
      rename_i c₁ c₂
      obtain ⟨r₁, hr₁, hle, hmax⟩ := ih
      have hs := bounded_of_reachable (hl.reachable _ hc)
      have hgoal : ∀ {k : Nat}, Evolves id k c₁.state c₂.state → ∃ r', c₂.state.get id = some r' ∧
          r.attempts ≤ r'.attempts ∧ r'.maxAttempts = r.maxAttempts := by
        intro k h
        obtain ⟨r₂, hr₂, hattempts, hmax₂⟩ := h r₁ hr₁
        exact ⟨r₂, hr₂, by omega, hmax₂.trans hmax⟩
      cases l with
      | start x =>
          simp only [advance] at ha
          split at ha
          · cases ha
          · rename_i hb
            split at ha
            · cases ha
              cases hb
              exact hgoal evolves_refl
            · cases ha
      | call t m =>
          obtain ⟨β, op, next, x, -, ho⟩ := outbox.advance_call ha
          rcases outbox.outcome_cases ho with ⟨-, he⟩ | ⟨e, -, -, hsame⟩ | ⟨e, x₀, -, -, he⟩
          · exact hgoal (exec_evolves id hs he).2.1
          · rw [hsame] at hgoal ⊢
            exact hgoal evolves_refl
          · exact hgoal (exec_evolves id hs he).2.1
      | crash t =>
          simp only [advance] at ha
          split at ha
          · cases ha
            exact hgoal evolves_refl
          · cases ha
      | environment x =>
          obtain ⟨s, he, rfl⟩ := Option.map_eq_some_iff.mp ha
          exact hgoal (environment_evolves id hs he).2

/-- Whatever becomes of the workers, a row is handed to the publisher at most as
often as it has attempts, which stay within its limit and never decrease. -/
theorem publishes_bounded {c : Config Op PyError Nat State Tid} {k : Nat}
    (hc : outbox.Counted (publishes id) .any State.Vacant c k) :
    (c.state.get id = none → k = 0) ∧ ∀ r, c.state.get id = some r →
      k ≤ r.attempts ∧ r.attempts ≤ r.maxAttempts ∧ k ≤ r.maxAttempts ∧
        ∀ c', outbox.Later .any c c' → ∃ r', c'.state.get id = some r' ∧
          r.attempts ≤ r'.attempts ∧ r'.maxAttempts = r.maxAttempts := by
  have hpaid : k ≤ c.state.attempts id := by
    apply hc.le_value (fun s => s.attempts id) (brings id) (J := Bounded)
    · exact fun c hc => bounded_of_reachable hc
    · intro β op e
      cases op <;> rfl
    · intro x s t p s' hb
      cases hb
      exact ⟨runOnce_paid x.2, Nat.le_refl _⟩
    · intro t β op s x s' he hs
      obtain ⟨-, hevolves, hnone⟩ := exec_evolves id hs he
      exact hevolves.attempts hnone
    · intro x s s' he hs
      exact (environment_evolves id hs he).2.attempts fun _ => rfl
  unfold State.attempts at hpaid
  constructor
  · intro hnone
    simpa [hnone] using hpaid
  · intro r hr
    have hle : k ≤ r.attempts := by simpa [hr] using hpaid
    have hmax : r.attempts ≤ r.maxAttempts :=
      (bounded_of_reachable hc.reachable).bound r (mem_of_get? hr)
    exact ⟨hle, hmax, Nat.le_trans hle hmax, fun c' hl => attempts_later hc.reachable hl hr⟩

namespace Desk

/-- A worker is slower than its lease, and both publish the row. -/
def overtaken : List (Label PyError Tid (Tid × Settings) Env) :=
  .environment (.insert note) :: .start (0, .default) :: answers 0 2 ++
    .environment (.tick (seconds 60)) :: .start (1, .default) :: answers 1 6 ++ answers 0 4

end Desk

theorem publishes_bounded_desk : ∃ c, outbox.Counted (publishes 0) .any State.Vacant c 2 ∧
    ∃ r, c.state.get 0 = some r ∧ r.attempts = 2 ∧ r.maxAttempts = 5 ∧ 2 ≤ r.maxAttempts := by
  have hcalls : outbox.runCalls (publishes 0) Desk.overtaken (boot Desk.empty) = 2 := by
    decide +kernel
  have hrun : (outbox.run .any Desk.overtaken (boot Desk.empty)).any (fun c =>
      (c.state.get 0).any fun r => r.attempts = 2 && r.maxAttempts = 5) = true := by
    decide +kernel
  obtain ⟨c, hc, hrow⟩ := outbox.exists_of_runCalls (K := publishes 0) hrun Desk.empty_vacant
  rw [hcalls] at hc
  obtain ⟨r, hr, htest⟩ := (Option.any_eq_true ..).mp hrow
  obtain ⟨hattempts, hmax⟩ := (Bool.and_eq_true ..).mp htest
  have hbound := (publishes_bounded hc).2 r hr
  exact ⟨c, hc, r, hr, of_decide_eq_true hattempts, of_decide_eq_true hmax, hbound.2.2.1⟩

end CarPayIn.Outbox
