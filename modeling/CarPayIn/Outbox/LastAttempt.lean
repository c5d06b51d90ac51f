import CarPayIn.Outbox.Tracking
import CarPayIn.Process.Rules

/-! # Rows that nobody will publish

No row is left behind as long as a worker that holds a last attempt lives to
mark it and its mark overlaps with no other commit.
-/

namespace CarPayIn.Outbox

open Process Process.System Store SqlAlchemyPaymentNotificationOutboxRepository PaymentOutboxWorker

variable {s s' : State} {t : Tid} {n : Notification} {r : Row}

/-! ## Policies -/

def isPublish {β : Type} : Op β → Bool
  | .publishPaymentNotification _ => true
  | _ => false

/-- Workers may stop anywhere and the publisher may raise. -/
def crashPolicy : Policy Op PyError State Tid (Tid × Settings) Env where
  start _ _ := True
  call _ _ op m _ := m = .answered ∨ isPublish op = true
  crash _ _ := True
  environment _ _ := True

namespace State

/-- The execution holds no last attempt, except perhaps on row `id`. -/
def freeBut (s : State) (t : Tid) (id : Option Uuid) : Bool :=
  (s.heldBy t).all fun n => n.notificationId = id || !n.isLast

end State

/-- While it holds a last attempt, a worker neither stops nor has a call fail
but that of the publisher, and no mark of such a row overlaps with another commit. -/
def lastAttempt (t : Tid) {β : Type} (op : Op β) (m : Mode PyError) (s : State) : Bool :=
  match m, op with
  | _, .publishPaymentNotification _ => true
  | .answered, .commit loaded _ => s.unchanged t loaded
  | .lost _, .commit loaded _ => s.unchanged t loaded && s.freeBut t loaded.notificationId
  | .lost _, .claimDue now limit _ =>
      s.freeBut t none && (s.due now limit).all fun r => r.attempts + 1 < r.maxAttempts
  | .answered, _ => true
  | _, _ => s.freeBut t none

def lastAttemptPolicy : Policy Op PyError State Tid (Tid × Settings) Env where
  start _ _ := True
  call t _ op m s := lastAttempt t op m s = true
  crash t s := s.freeBut t none = true
  environment _ _ := True

instance : crashPolicy.Computable where
  start _ _ := .isTrue trivial
  call _ _ _ _ _ := inferInstanceAs (Decidable (_ ∨ _))
  crash _ _ := .isTrue trivial
  environment _ _ := .isTrue trivial

instance : lastAttemptPolicy.Computable where
  start _ _ := .isTrue trivial
  call _ _ _ _ _ := inferInstanceAs (Decidable (_ = true))
  crash _ _ := inferInstanceAs (Decidable (_ = true))
  environment _ _ := .isTrue trivial

/-! ## The contract of a worker -/

def Free (t : Tid) (s : State) : Prop := ∀ n ∈ s.heldBy t, n.isLast = false

theorem free_of_freeBut (h : s.freeBut t none = true) : Free t s := by
  simpa [State.freeBut, Free] using h

def Batch (t : Tid) (ns : List Notification) (s : State) : Prop :=
  s.heldBy t = ns ∧ (ns.map Notification.notificationId).Nodup

def contract : Contract State Tid where
  invariant := Tracked
  guarantee t s s' := (Tracked s → Tracked s') ∧ ∀ t', t' ≠ t → s'.heldBy t' = s.heldBy t'
  environment s s' := (Tracked s → Tracked s') ∧ ∀ t, s'.heldBy t = s.heldBy t

theorem heldBy_interferes (h : contract.Interferes t s s') : s'.heldBy t = s.heldBy t := by
  rcases h.2.2 with ⟨t', hne, hg⟩ | he
  · exact hg.2 t (Ne.symm hne)
  · exact he.2 t

theorem stable_batch (ns : List Notification) : contract.Stable t (Batch t ns) := by
  intro s s' hi hb
  unfold Batch
  rw [heldBy_interferes hi]
  exact hb

theorem stable_free : contract.Stable t (Free t) := by
  intro s s' hi hf
  unfold Free
  rw [heldBy_interferes hi]
  exact hf

theorem guarantee_refl : contract.guarantee t s s := ⟨fun h => h, fun _ _ => rfl⟩

/-! ## The calls -/

/-- A worker's program: what a result leaves, and no last attempt when it raises. -/
abbrev Marks {α : Type} (t : Tid) (P : State → Prop) (p : Service α) (M : α → State → Prop) : Prop :=
  outbox.Triple lastAttemptPolicy contract t P p fun r s => match r with
    | .ok a => M a s
    | .error _ => Free t s

theorem Marks.bind {α β : Type} {P : State → Prop} {p : Service α} {f : α → Service β}
    {M : α → State → Prop} {N : β → State → Prop} (hp : Marks t P p M)
    (hf : ∀ a, Marks t (M a) (f a) N) : Marks t P (p.bind f) N := by
  apply Triple.bind (M := M) ?_ hf
  apply Triple.conseq hp (fun _ hs => hs)
  intro r s hr
  cases r with
  | ok a => exact hr
  | error e => exact hr

theorem now_marks (ns : List Notification) :
    Marks t (Batch t ns) (call .now) (fun _ => Batch t ns) := by
  apply Triple.perform (stable_batch ns)
  intro s m r s' hb _ hp ho
  rcases outbox.outcome_cases ho with ⟨-, he⟩ | ⟨e, rfl, rfl, rfl⟩ | ⟨e, r₀, rfl, rfl, he⟩
  · cases he
    exact ⟨guarantee_refl, hb⟩
  · exact ⟨guarantee_refl, free_of_freeBut hp⟩
  · cases he
    exact ⟨guarantee_refl, free_of_freeBut hp⟩

theorem get_marks (n : Notification) (ns : List Notification) :
    Marks t (Batch t (n :: ns)) (get n.notificationId)
      (fun row s => Batch t (n :: ns) s ∧ row.notificationId = n.notificationId) := by
  apply Triple.bind (M := fun a s => Batch t (n :: ns) s ∧
    ∃ row, a = some row ∧ row.notificationId = n.notificationId)
  · apply Triple.perform (stable_batch _)
    intro s m r s' hb hi hp ho
    rcases outbox.outcome_cases ho with ⟨-, he⟩ | ⟨e, rfl, rfl, rfl⟩ | ⟨e, r₀, rfl, rfl, he⟩
    · cases he
      have hheld : (t, n) ∈ s.held := mem_heldBy.mp (by rw [hb.1]; exact List.mem_cons_self)
      obtain ⟨row, hrow, hid⟩ := Tracked.held hi t n hheld
      have hget : s.get n.notificationId = some row := by
        rw [← hid]
        exact (Tracked.unique hi).get?_of_mem hrow
      exact ⟨guarantee_refl, hb, row, hget, hid⟩
    · exact ⟨guarantee_refl, free_of_freeBut hp⟩
    · cases he
      exact ⟨guarantee_refl, free_of_freeBut hp⟩
  · intro a s ⟨hb, row, ha, hid⟩
    cases ha
    exact ⟨hb, hid⟩

theorem commit_marks {n : Notification} {ns : List Notification} {loaded changed : Row}
    (hid : loaded.notificationId = n.notificationId) (hm : Settles loaded changed) :
    Marks t (Batch t (n :: ns)) (call (.commit loaded changed)) (fun _ => Batch t ns) := by
  apply Triple.perform (stable_batch _)
  intro s m r s' hb _ hp ho
  have hnodup := List.nodup_cons.mp hb.2
  have hother : ∀ n' ∈ ns, n'.notificationId ≠ loaded.notificationId := by
    intro n' hn' he
    apply hnodup.1
    rw [← hid, ← he]
    exact List.mem_map_of_mem hn'
  have hheld : (s.commit t loaded changed).heldBy t = ns := by
    rw [heldBy_commit, hb.1]
    simpa [hid] using fun n' hn' => hid ▸ hother n' hn'
  have hexec : ∀ {r₀}, outbox.exec t (.commit loaded changed) s = some (r₀, s') →
      s' = s.commit t loaded changed ∧ r₀ = .ok () := by
    intro r₀ he
    simp only [outbox, State.exec] at he
    split at he
    · cases he
    · cases he
      exact ⟨rfl, rfl⟩
  rcases outbox.outcome_cases ho with ⟨rfl, he⟩ | ⟨e, rfl, rfl, rfl⟩ | ⟨e, r₀, rfl, rfl, he⟩
  · obtain ⟨rfl, rfl⟩ := hexec he
    exact ⟨⟨fun hs => hs.commit hm hp, fun t' ht' => heldBy_commit_other ht' _ _⟩, hheld, hnodup.2⟩
  · exact ⟨guarantee_refl, free_of_freeBut hp⟩
  · obtain ⟨rfl, -⟩ := hexec he
    obtain ⟨hu, hfree⟩ := (Bool.and_eq_true ..).mp hp
    refine ⟨⟨fun hs => hs.commit hm hu, fun t' ht' => heldBy_commit_other ht' _ _⟩, ?_⟩
    intro n' hn'
    rw [hheld] at hn'
    have hmem : n' ∈ s.heldBy t := by
      rw [hb.1]
      exact List.mem_cons_of_mem _ hn'
    have hlast := List.all_eq_true.mp hfree n' hmem
    simpa [hother n' hn'] using hlast

theorem claimDue_marks (now limit lease : Nat) :
    Marks t (Batch t []) (call (.claimDue now limit lease)) (Batch t) := by
  apply Triple.perform (stable_batch _)
  intro s m r s' hb hi hp ho
  have hheld : (s.claimDue t now limit lease).2.heldBy t = (s.claimDue t now limit lease).1 := by
    rw [heldBy_claimDue, hb.1, List.append_nil]
  have hguarantee : contract.guarantee t s (s.claimDue t now limit lease).2 :=
    ⟨fun hs => hs.claimDue now limit lease, fun t' ht' => heldBy_claimDue_other ht' _ _ _⟩
  have hexec : ∀ {r₀}, outbox.exec t (.claimDue now limit lease) s = some (r₀, s') →
      .ok (s.claimDue t now limit lease).1 = r₀ ∧ (s.claimDue t now limit lease).2 = s' :=
    fun he => Prod.mk.inj (Option.some.inj he)
  rcases outbox.outcome_cases ho with ⟨rfl, he⟩ | ⟨e, rfl, rfl, rfl⟩ | ⟨e, r₀, rfl, rfl, he⟩
  · obtain ⟨rfl, rfl⟩ := hexec he
    exact ⟨hguarantee, hheld, Tracked.batch_nodup hi now limit lease⟩
  · exact ⟨guarantee_refl, free_of_freeBut hp⟩
  · obtain ⟨-, rfl⟩ := hexec he
    obtain ⟨-, hleft⟩ := (Bool.and_eq_true ..).mp hp
    refine ⟨hguarantee, ?_⟩
    intro n hn
    rw [hheld] at hn
    obtain ⟨r, hr, rfl⟩ := List.mem_map.mp hn
    have hlt := of_decide_eq_true (List.all_eq_true.mp hleft r hr)
    exact decide_eq_false (Nat.not_le.mpr hlt)

/-! ## The programs -/

theorem failed_settles (loaded : Row) (reason : String) (delay now : Nat) :
    Settles loaded (failed loaded reason delay now) := by
  intro hspent
  simp [failed, hspent, Row.isTerminal]

/-- A mark reads the row, takes the time and commits its columns. -/
theorem mark_marks (n : Notification) (ns : List Notification) {change : Row → Nat → Row}
    (hm : ∀ loaded now, Settles loaded (change loaded now)) :
    Marks t (Batch t (n :: ns)) (do
      let notification ← get n.notificationId
      let now ← call .now
      call (.commit notification (change notification now))) (fun _ => Batch t ns) := by
  apply Marks.bind (get_marks n ns)
  intro row
  by_cases hid : row.notificationId = n.notificationId
  · have hrest : Marks t (Batch t (n :: ns))
        ((call .now).bind fun now => call (.commit row (change row now))) (fun _ => Batch t ns) := by
      apply Marks.bind (now_marks (n :: ns))
      intro now
      exact commit_marks hid (hm row now)
    exact hrest.conseq (fun _ hs => hs.1) (fun _ _ hr => hr)
  · intro s hs
    exact absurd hs.2 hid

theorem publishOne_marks (n : Notification) (ns : List Notification) :
    Marks t (Batch t (n :: ns)) (publishOne n) (fun _ => Batch t ns) := by
  apply Marks.bind (M := fun _ => Batch t (n :: ns))
  · apply Triple.attempt
    apply Triple.perform (stable_batch _)
    intro s m r s' hb _ _ ho
    rcases outbox.outcome_cases ho with ⟨-, he⟩ | ⟨e, rfl, rfl, rfl⟩ | ⟨e, r₀, rfl, rfl, he⟩
    · cases he
      exact ⟨⟨fun hs => hs.of_same rfl rfl rfl, fun _ _ => rfl⟩, hb⟩
    · exact ⟨guarantee_refl, hb⟩
    · cases he
      exact ⟨⟨fun hs => hs.of_same rfl rfl rfl, fun _ _ => rfl⟩, hb⟩
  · intro published
    cases published with
    | error exc => exact mark_marks n ns fun loaded now => failed_settles loaded _ _ now
    | ok u => exact mark_marks n ns fun _ _ _ => rfl

theorem publishAll_marks (ns : List Notification) :
    Marks t (Batch t ns) (publishAll ns) (fun _ => Batch t []) := by
  induction ns with
  | nil => exact Triple.done fun s hs => hs
  | cons n ns ih =>
      apply Marks.bind (publishOne_marks n ns)
      intro _
      exact ih

theorem runOnce_marks (settings : Settings) :
    Marks t (Batch t []) (runOnce settings) (fun _ => Batch t []) := by
  apply Marks.bind (M := Batch t)
  · apply Marks.bind (now_marks [])
    intro now
    exact claimDue_marks _ _ _
  · intro ns
    apply Marks.bind (publishAll_marks ns)
    intro _
    exact Triple.done fun s hs => hs

/-! ## Runs -/

def outline : Outline PyError Nat State Tid where
  idle t := Batch t []
  ended t _ := Free t
  stopped t := Free t

theorem free_of_batch (h : Batch t [] s) : Free t s := by
  intro n hn
  rw [h.1] at hn
  cases hn

theorem outbox_meets : outbox.Meets lastAttemptPolicy contract State.Vacant outline where
  init s hs := by
    obtain ⟨hrows, hheld, -⟩ := hs
    constructor
    · constructor <;> simp [hrows, hheld, UniqueBy]
    · intro t
      exact ⟨by simp [State.heldBy, hheld], List.nodup_nil⟩
  moves s s' hs hm := by
    rcases hm with ⟨t, hg⟩ | he
    · exact hg.1 hs
    · exact he.1 hs
  idle_stable _ := stable_batch []
  ended_stable _ _ := stable_free
  stopped_stable _ := stable_free
  start x s t p s' _ hb _ hidle := by
    cases hb
    refine ⟨⟨fun h => h, fun _ => rfl⟩, fun _ => ?_⟩
    apply Program.wp_mono (outbox.spec_monotone _ _ _) _ ?_ _ (runOnce_marks x.2 _ hidle)
    intro r s₁ hr
    cases r with
    | ok a => exact free_of_batch hr
    | error e => exact hr
  crash t s hp := free_of_freeBut hp
  environment x s s' he _ := by
    cases x with
    | tick μs =>
        cases he
        exact ⟨fun hs => hs.of_same rfl rfl rfl, fun _ => rfl⟩
    | lock ids =>
        cases he
        exact ⟨fun hs => hs.of_same rfl rfl rfl, fun _ => rfl⟩
    | insert note =>
        simp only [outbox, State.environment] at he
        split at he
        · cases he
        · cases he
          exact ⟨fun hs => hs.insert note, fun _ => rfl⟩

/-- Every row is marked for good, may be claimed now or later, or is held by a
worker that lives and has not marked it. -/
def NoneStranded (c : Config Op PyError Nat State Tid) : Prop :=
  ∀ r ∈ c.state.rows, r.isTerminal = true ∨ (∃ now, c.state.now ≤ now ∧ r.isDue now = true) ∨
    ∃ t p n, c.pool t = .live p ∧ (t, n) ∈ c.state.held ∧ n.notificationId = r.notificationId

theorem isDue_later {r : Row} (now : Nat) (hterminal : r.isTerminal = false)
    (hleft : r.attempts < r.maxAttempts) : ∃ later, now ≤ later ∧ r.isDue later = true := by
  refine ⟨max now r.nextAttemptAt, Nat.le_max_left _ _, ?_⟩
  have hnext : r.nextAttemptAt ≤ max now r.nextAttemptAt := Nat.le_max_right _ _
  cases hstatus : r.status <;> simp_all [Row.isDue, Row.isTerminal]

theorem live_of_last {c : Config Op PyError Nat State Tid}
    (hc : outbox.Reachable lastAttemptPolicy State.Vacant c) (hn : (t, n) ∈ c.state.held)
    (hlast : n.isLast = true) : ∃ p, c.pool t = .live p := by
  have hA := (outbox_meets.sound hc).2 t
  have hfree : Free t c.state → False := by
    intro h
    rw [h n (mem_heldBy.mpr hn)] at hlast
    cases hlast
  cases hT : c.pool t with
  | live p => exact ⟨p, rfl⟩
  | idle =>
      rw [hT] at hA
      exact (hfree (free_of_batch hA)).elim
  | ended r =>
      rw [hT] at hA
      exact (hfree hA).elim
  | stopped =>
      rw [hT] at hA
      exact (hfree hA).elim

theorem no_row_stranded {c : Config Op PyError Nat State Tid}
    (hc : outbox.Reachable lastAttemptPolicy State.Vacant c) : NoneStranded c := by
  intro r hr
  have hs : Tracked c.state := (outbox_meets.sound hc).1
  cases hterminal : r.isTerminal with
  | true => exact .inl rfl
  | false =>
      by_cases hleft : r.attempts < r.maxAttempts
      · exact .inr (.inl (isDue_later _ hterminal hleft))
      · obtain ⟨t, n, hn, hid, hlast⟩ := hs.spent r hr (Nat.not_lt.mp hleft) hterminal
        obtain ⟨p, hp⟩ := live_of_last hc hn hlast
        exact .inr (.inr ⟨t, p, n, hp, hn, hid⟩)

namespace Desk

def empty : State := ⟨0, 0, [], [], [], []⟩

theorem empty_vacant : State.Vacant empty := ⟨rfl, rfl, rfl⟩

def note : PaymentNotificationOutbox where
  txId := .v4 0
  sessionId := 0
  carId := "car-1"
  eventType := "payment.completed"
  channel := "iot"
  destination := "payment/complete/car-1"
  payload := ⟨"payment.completed", .v4 0, "0", "car-1", "LOT_GN_01", 1000, "KRW", some "APP-1"⟩
  status := .pending

/-- A worker claims what is due, stops, and its lease runs out. -/
def abandoned (t : Tid) : List (Label PyError Tid (Tid × Settings) Env) :=
  .start (t, .default) :: answers t 2 ++ [.crash t, .environment (.tick (seconds 60))]

/-- A second worker publishes what the first one has left. -/
def resumed : List (Label PyError Tid (Tid × Settings) Env) :=
  .environment (.insert note) :: abandoned 0 ++ .start (1, .default) :: answers 1 6

end Desk

theorem no_row_stranded_desk : ∃ c, outbox.Reachable lastAttemptPolicy State.Vacant c ∧
    c.state.rows.map Row.attempts = [2] ∧ c.state.handed = [0] ∧ NoneStranded c := by
  have hrun : (outbox.run lastAttemptPolicy Desk.resumed (boot Desk.empty)).any (fun c =>
      decide (c.state.rows.map Row.attempts = [2] ∧ c.state.handed = [0])) = true := by
    decide +kernel
  obtain ⟨c, hc, h⟩ := outbox.exists_of_run hrun Desk.empty_vacant
  obtain ⟨hattempts, hhanded⟩ := of_decide_eq_true h
  exact ⟨c, hc, hattempts, hhanded, no_row_stranded hc⟩

/-- Five workers in turn claim the row and stop before they publish it. -/
theorem row_stranded :
    ¬∀ c, outbox.Reachable crashPolicy State.Vacant c → NoneStranded c := by
  intro h
  have hrun : (outbox.run crashPolicy (.environment (.insert Desk.note) ::
      [0, 1, 2, 3, 4].flatMap Desk.abandoned) (boot Desk.empty)).any (fun c =>
        decide (∃ r ∈ c.state.rows, r.isTerminal = false ∧ r.maxAttempts ≤ r.attempts) &&
          c.state.held.all fun h => !(c.pool h.1).isLive) = true := by
    decide +kernel
  obtain ⟨c, hc, hend⟩ := outbox.exists_of_run hrun Desk.empty_vacant
  obtain ⟨hspent, hheld⟩ := (Bool.and_eq_true ..).mp hend
  obtain ⟨r, hr, hterminal, hspent⟩ := of_decide_eq_true hspent
  rcases h c hc r hr with ht | ⟨now, -, hdue⟩ | ⟨t, p, n, hlive, hn, -⟩
  · rw [hterminal] at ht
    cases ht
  · have hleft : r.attempts < r.maxAttempts := (of_decide_eq_true hdue).2.2
    exact absurd hleft (Nat.not_lt.mpr hspent)
  · have hnot := List.all_eq_true.mp hheld (t, n) hn
    simp [hlive, Thread.isLive] at hnot

end CarPayIn.Outbox
