import CarPayIn.Outbox.LastAttempt

/-! # Leases and late marks

A claim leases a row to one worker. A mark checks neither who has claimed the
row last nor its status, so the leases only hold as long as no worker marks a
row that was claimed again in the meantime.
-/

namespace CarPayIn.Outbox

open Process Process.System Store SqlAlchemyPaymentNotificationOutboxRepository PaymentOutboxWorker

variable {s s' : State} {t t' : Tid} {n n' : Notification} {r : Row} {id : Uuid} {α : Type}

/-! ## The condition -/

/-- The worker's claim of the row is the latest one: no other claim has counted
an attempt since. -/
def State.latest (s : State) (t : Tid) (id : Uuid) : Bool :=
  s.held.any fun h => h.1 = t && h.2.notificationId = id &&
    (s.get id).any fun r => r.attempts = h.2.attempts

/-- No worker marks a row that was claimed again since its own claim. -/
def inTime (t : Tid) {β : Type} (op : Op β) (m : Mode PyError) (s : State) : Bool :=
  match op with
  | .commit loaded _ => !m.effective || s.latest t loaded.notificationId
  | _ => true

def inTimePolicy : Policy Op PyError State Tid (Tid × Settings) Env where
  start _ _ := True
  call t _ op m s := inTime t op m s = true
  crash _ _ := True
  environment _ _ := True

instance : inTimePolicy.Computable where
  start _ _ := .isTrue trivial
  call _ _ _ _ _ := inferInstanceAs (Decidable (_ = true))
  crash _ _ := .isTrue trivial
  environment _ _ := .isTrue trivial

/-! ## Who has claimed a row last -/

/-- Every claim has counted its own attempt, the latest one leaves the row in
publication, and no two workers have it. -/
structure Fenced (s : State) : Prop where
  unique : UniqueBy Row.notificationId s.rows
  fresh : ∀ id r, s.get id = some r → id < s.drawn
  held : ∀ t n, (t, n) ∈ s.held → ∃ r, s.get n.notificationId = some r ∧ n.attempts ≤ r.attempts
  latest : ∀ t n r, (t, n) ∈ s.held → s.get n.notificationId = some r → n.attempts = r.attempts →
    r.status = .publishing
  one : ∀ t n t' n', (t, n) ∈ s.held → (t', n') ∈ s.held → n.notificationId = n'.notificationId →
    n.attempts = n'.attempts → t = t'

theorem latest_iff : s.latest t id = true ↔
    ∃ n r, (t, n) ∈ s.held ∧ n.notificationId = id ∧ s.get id = some r ∧ r.attempts = n.attempts := by
  simp only [State.latest, List.any_eq_true, Bool.and_eq_true, decide_eq_true_eq, Option.any_eq_true]
  constructor
  · rintro ⟨⟨t', n⟩, hn, ⟨ht, hid⟩, r, hr, ha⟩
    cases ht
    exact ⟨n, r, hn, hid, hr, ha⟩
  · rintro ⟨n, r, hn, hid, hr, ha⟩
    exact ⟨(t, n), hn, ⟨rfl, hid⟩, r, hr, ha⟩

/-- What a claim adds is a due row with its attempt counted. -/
theorem mem_claimDue (hu : UniqueBy Row.notificationId s.rows) {now limit lease : Nat}
    (h : (t', n) ∈ (s.claimDue t now limit lease).2.held) : (t', n) ∈ s.held ∨
      (t' = t ∧ ∃ r, s.get n.notificationId = some r ∧ r.notificationId ∈ s.dueIds now limit ∧
        r.isDue now = true ∧ n = (r.claim now lease).toDict) := by
  rcases List.mem_append.mp h with hnew | hold
  · obtain ⟨m, hm, he⟩ := List.mem_map.mp hnew
    obtain ⟨r, hr, rfl⟩ := List.mem_map.mp hm
    cases he
    obtain ⟨hmem, hdue⟩ := due_subset hr
    exact .inr ⟨rfl, r, hu.get?_of_mem hmem, List.mem_map_of_mem hr, hdue, rfl⟩
  · exact .inl hold

theorem Fenced.claimDue (hs : Fenced s) (now limit lease : Nat) :
    Fenced (s.claimDue t now limit lease).2 := by
  have hnew : ∀ {r : Row}, r.notificationId ∈ s.dueIds now limit →
      s.get r.notificationId = some r →
        (s.claimDue t now limit lease).2.get r.notificationId = some (r.claim now lease) := by
    intro r hdue hr
    rw [get_claimDue, hr]
    simp [hdue]
  constructor
  · exact hs.unique.map (claimed_id _ now lease)
  · intro id r' hr'
    rw [get_claimDue] at hr'
    obtain ⟨r, hr, -⟩ := Option.map_eq_some_iff.mp hr'
    exact hs.fresh id r hr
  · intro t' n hn
    rcases mem_claimDue hs.unique hn with hold | ⟨-, r, hr, hdue, -, rfl⟩
    · obtain ⟨r, hr, hle⟩ := hs.held t' n hold
      rw [get_claimDue, hr]
      exact ⟨_, rfl, Nat.le_trans hle (attempts_claimDue r)⟩
    · exact ⟨r.claim now lease, hnew hdue hr, Nat.le_refl _⟩
  · intro t' n r' hn hr' ha
    rcases mem_claimDue hs.unique hn with hold | ⟨-, r, hr, hdue, -, rfl⟩
    · obtain ⟨r, hr, hle⟩ := hs.held t' n hold
      rw [get_claimDue, hr] at hr'
      have hr' := Option.some.inj hr'
      dsimp only at hr'
      subst hr'
      split at ha
      · have hlt : n.attempts < r.attempts + 1 := Nat.lt_succ_of_le hle
        exact absurd (ha : n.attempts = r.attempts + 1) (Nat.ne_of_lt hlt)
      · rename_i hdue
        rw [if_neg hdue]
        exact hs.latest t' n r hold hr ha
    · have hget : some r' = some (r.claim now lease) := hr'.symm.trans (hnew hdue hr)
      cases hget
      rfl
  · -- an attempt that was counted before is not the one counted now
    have hfresh : ∀ (t₁ : Tid) (n₁ : Notification) (r : Row), (t₁, n₁) ∈ s.held →
        s.get r.notificationId = some r → n₁.notificationId = r.notificationId →
          n₁.attempts ≠ r.attempts + 1 := by
      intro t₁ n₁ r hn₁ hr hid he
      obtain ⟨r₁, hr₁, hle⟩ := hs.held t₁ n₁ hn₁
      rw [hid, hr] at hr₁
      cases hr₁
      omega
    intro t₁ n₁ t₂ n₂ hn₁ hn₂ hid ha
    rcases mem_claimDue hs.unique hn₁ with hold₁ | ⟨ht₁, r₁, hr₁, -, -, rfl⟩
    · rcases mem_claimDue hs.unique hn₂ with hold₂ | ⟨ht₂, r₂, hr₂, -, -, rfl⟩
      · exact hs.one t₁ n₁ t₂ n₂ hold₁ hold₂ hid ha
      · exact (hfresh t₁ n₁ r₂ hold₁ hr₂ hid ha).elim
    · rcases mem_claimDue hs.unique hn₂ with hold₂ | ⟨ht₂, -⟩
      · exact (hfresh t₂ n₂ r₁ hold₂ hr₁ hid.symm ha.symm).elim
      · rw [ht₁, ht₂]

theorem mem_commit {loaded changed : Row} : (t', n) ∈ (s.commit t loaded changed).held ↔
    (t', n) ∈ s.held ∧ ¬(t' = t ∧ n.notificationId = loaded.notificationId) := by
  simp only [State.commit, List.mem_filter, decide_eq_true_eq]

theorem Fenced.commit (hs : Fenced s) {loaded changed : Row}
    (hlatest : s.latest t loaded.notificationId = true) : Fenced (s.commit t loaded changed) := by
  obtain ⟨n₀, r₀, hn₀, hid₀, hr₀, ha₀⟩ := latest_iff.mp hlatest
  constructor
  · exact hs.unique.modify fun _ => rfl
  · intro id r' hr'
    rw [get_commit] at hr'
    split at hr'
    · obtain ⟨r, hr, -⟩ := Option.map_eq_some_iff.mp hr'
      exact hs.fresh id r hr
    · exact hs.fresh id r' hr'
  · intro t' n hn
    obtain ⟨r, hr, hle⟩ := hs.held t' n (mem_commit.mp hn).1
    rw [get_commit, hr]
    split
    · exact ⟨_, rfl, hle⟩
    · exact ⟨_, rfl, hle⟩
  · intro t' n r' hn hr' ha
    obtain ⟨hold, hother⟩ := mem_commit.mp hn
    rw [get_commit] at hr'
    split at hr'
    · -- the latest claim of this row is the one that was marked
      rename_i hid
      obtain ⟨r, hr, rfl⟩ := Option.map_eq_some_iff.mp hr'
      have hr₁ : r = r₀ := by
        rw [hid, hr₀] at hr
        exact (Option.some.inj hr).symm
      have ha₁ : n.attempts = n₀.attempts := by
        rw [← ha₀, ← hr₁]
        exact ha
      have ht := hs.one t' n t n₀ hold hn₀ (hid.trans hid₀.symm) ha₁
      exact (hother ⟨ht, hid⟩).elim
    · exact hs.latest t' n r' hold hr' ha
  · intro t₁ n₁ t₂ n₂ hn₁ hn₂
    exact hs.one t₁ n₁ t₂ n₂ (mem_commit.mp hn₁).1 (mem_commit.mp hn₂).1

theorem Fenced.insert (hs : Fenced s) (note : PaymentNotificationOutbox) :
    Fenced (s.insert note) := by
  have hheld : ∀ t n, (t, n) ∈ s.held → n.notificationId ≠ s.drawn := by
    intro t n hn he
    obtain ⟨r, hr, -⟩ := hs.held t n hn
    exact absurd (hs.fresh _ r hr) (by rw [he]; exact Nat.lt_irrefl _)
  constructor
  · apply hs.unique.cons
    apply Option.eq_none_iff_forall_ne_some.mpr
    intro r hr
    exact absurd (hs.fresh _ r hr) (Nat.lt_irrefl _)
  · intro id r hr
    by_cases hid : id = s.drawn
    · rw [hid]
      exact Nat.lt_succ_self _
    · rw [get_insert note hid] at hr
      exact Nat.lt_succ_of_lt (hs.fresh id r hr)
  · intro t n hn
    rw [get_insert note (hheld t n hn)]
    exact hs.held t n hn
  · intro t n r hn hr ha
    rw [get_insert note (hheld t n hn)] at hr
    exact hs.latest t n r hn hr ha
  · exact hs.one

/-! ## The contract -/

inductive Step (t : Tid) (s : State) : State → Prop where
  | quiet {s' : State} (hrows : s'.rows = s.rows) (hheld : s'.held = s.held)
      (hdrawn : s'.drawn = s.drawn) (hnow : s'.now = s.now) : Step t s s'
  | claim (now limit lease : Nat) (hnow : now ≤ s.now) : Step t s (s.claimDue t now limit lease).2
  | mark (loaded changed : Row) (hlatest : s.latest t loaded.notificationId = true) :
      Step t s (s.commit t loaded changed)

inductive Drift (s : State) : State → Prop where
  | quiet {s' : State} (hrows : s'.rows = s.rows) (hheld : s'.held = s.held)
      (hdrawn : s'.drawn = s.drawn) (hnow : s.now ≤ s'.now) : Drift s s'
  | insert (note : PaymentNotificationOutbox) : Drift s (s.insert note)

def fencing : Contract State Tid where
  invariant := Fenced
  guarantee := Step
  environment := Drift

theorem get_of_rows (h : s'.rows = s.rows) : s'.get id = s.get id := by
  unfold State.get
  rw [h]

theorem Fenced.of_same (hs : Fenced s) (hrows : s'.rows = s.rows) (hheld : s'.held = s.held)
    (hdrawn : s'.drawn = s.drawn) : Fenced s' := by
  constructor
  · rw [hrows]
    exact hs.unique
  · intro id r
    rw [get_of_rows hrows, hdrawn]
    exact hs.fresh id r
  · intro t n
    rw [hheld, get_of_rows hrows]
    exact hs.held t n
  · intro t n r
    rw [hheld, get_of_rows hrows]
    exact hs.latest t n r
  · rw [hheld]
    exact hs.one

theorem Step.fenced (h : Step t s s') (hs : Fenced s) : Fenced s' := by
  cases h with
  | quiet hrows hheld hdrawn _ => exact hs.of_same hrows hheld hdrawn
  | claim now limit lease _ => exact hs.claimDue now limit lease
  | mark loaded changed hlatest => exact hs.commit hlatest

theorem Drift.fenced (h : Drift s s') (hs : Fenced s) : Fenced s' := by
  cases h with
  | quiet hrows hheld hdrawn _ => exact hs.of_same hrows hheld hdrawn
  | insert note => exact hs.insert note

/-! ## What no late mark breaks -/

/-- A claim leaves the rows that are not due. -/
theorem get_claimDue_of_not_due (hs : Fenced s) {now limit lease : Nat} (hr : s.get id = some r)
    (hdue : r.isDue now = false) : (s.claimDue t now limit lease).2.get id = some r := by
  have hnot : r.notificationId ∉ s.dueIds now limit := by
    intro hmem
    have hdue' := (due_subset (mem_due_of_id hs.unique (mem_of_get? hr) hmem)).2
    rw [hdue] at hdue'
    cases hdue'
  rw [get_claimDue, hr]
  simp [hnot]

/-- A worker that is in time marks no row of another worker's latest claim. -/
theorem get_commit_of_latest (hs : Fenced s) {loaded changed : Row} (hne : t' ≠ t)
    (hlatest : s.latest t' loaded.notificationId = true) (hn : (t, n) ∈ s.held)
    (hr : s.get n.notificationId = some r) (ha : r.attempts = n.attempts) :
    (s.commit t' loaded changed).get n.notificationId = some r := by
  rw [get_commit]
  split
  · rename_i hid
    obtain ⟨n₀, r₀, hn₀, hid₀, hr₀, ha₀⟩ := latest_iff.mp hlatest
    rw [hid, hr₀] at hr
    cases hr
    exact (hne (hs.one t' n₀ t n hn₀ hn (hid₀.trans hid.symm) (ha₀.symm.trans ha))).elim
  · exact hr

def State.Published (s : State) (id : Uuid) : Prop :=
  ∃ r, s.get id = some r ∧ r.status = .published

theorem published_kept (hs : Fenced s) (hm : fencing.Moves s s') (h : s.Published id) :
    s'.Published id := by
  obtain ⟨r, hr, hpub⟩ := h
  rcases hm with ⟨t, hstep⟩ | hd
  · cases hstep with
    | quiet hrows _ _ _ => exact ⟨r, (get_of_rows hrows).trans hr, hpub⟩
    | claim now limit lease _ =>
        have hdue : r.isDue now = false := by simp [Row.isDue, hpub]
        exact ⟨r, get_claimDue_of_not_due hs hr hdue, hpub⟩
    | mark loaded changed hlatest =>
        rw [State.Published, get_commit]
        split
        · rename_i hid
          obtain ⟨n₀, r₀, hn₀, hid₀, hr₀, ha₀⟩ := latest_iff.mp hlatest
          rw [← hid, hr] at hr₀
          cases hr₀
          have hstatus := hs.latest t n₀ r hn₀ (by rw [hid₀, ← hid]; exact hr) ha₀.symm
          rw [hpub] at hstatus
          cases hstatus
        · exact ⟨r, hr, hpub⟩
  · cases hd with
    | quiet hrows _ _ _ => exact ⟨r, (get_of_rows hrows).trans hr, hpub⟩
    | insert note =>
        have hid : id ≠ s.drawn := Nat.ne_of_lt (hs.fresh id r hr)
        exact ⟨r, (get_insert note hid).trans hr, hpub⟩

/-- As long as the claim is not marked and its lease has not run out, the row is
as the claim has left it. -/
structure Leased (t : Tid) (n : Notification) (lease : Nat) (s : State) : Prop where
  counted : ∃ r, s.get n.notificationId = some r ∧ n.attempts ≤ r.attempts
  leased : (t, n) ∈ s.held → s.now < lease → ∃ r, s.get n.notificationId = some r ∧
    r.attempts = n.attempts ∧ r.nextAttemptAt = lease

theorem not_due_of_leased {lease now : Nat} (hnow : now ≤ s.now) (hlease : s.now < lease)
    (hr : r.nextAttemptAt = lease) : r.isDue now = false := by
  have hlt : ¬r.nextAttemptAt ≤ now := by omega
  simp [Row.isDue, hlt]

theorem leased_kept {lease : Nat} (hs : Fenced s) (hm : fencing.Moves s s')
    (h : Leased t n lease s) : Leased t n lease s' := by
  obtain ⟨⟨r₀, hr₀, hle⟩, hleased⟩ := h
  have hsame (hrows : s'.rows = s.rows) (hheld : s'.held = s.held) (hnow : s.now ≤ s'.now) :
      Leased t n lease s' := by
    constructor
    · exact ⟨r₀, (get_of_rows hrows).trans hr₀, hle⟩
    · intro hn hlt
      rw [get_of_rows hrows]
      exact hleased (hheld ▸ hn) (Nat.lt_of_le_of_lt hnow hlt)
  rcases hm with ⟨t', hstep⟩ | hd
  · cases hstep with
    | quiet hrows hheld _ hnow => exact hsame hrows hheld (Nat.le_of_eq hnow.symm)
    | claim now limit lease' hnow =>
        constructor
        · rw [get_claimDue, hr₀]
          exact ⟨_, rfl, Nat.le_trans hle (attempts_claimDue r₀)⟩
        · intro hn hlt
          rcases mem_claimDue hs.unique hn with hold | ⟨-, r, hr, -, -, hnew⟩
          · obtain ⟨r, hr, ha, hlease⟩ := hleased hold hlt
            have hdue := not_due_of_leased hnow hlt hlease
            exact ⟨r, get_claimDue_of_not_due hs hr hdue, ha, hlease⟩
          · -- the attempt of an earlier claim is not counted again
            have ha : n.attempts = r.attempts + 1 := congrArg Notification.attempts hnew
            rw [hr₀] at hr
            cases hr
            omega
    | mark loaded changed hlatest =>
        constructor
        · rw [get_commit, hr₀]
          split
          · exact ⟨_, rfl, hle⟩
          · exact ⟨_, rfl, hle⟩
        · intro hn hlt
          obtain ⟨hold, hother⟩ := mem_commit.mp hn
          obtain ⟨r, hr, ha, hlease⟩ := hleased hold hlt
          by_cases ht : t' = t
          · have hid : n.notificationId ≠ loaded.notificationId := fun hid => hother ⟨ht.symm, hid⟩
            refine ⟨r, ?_, ha, hlease⟩
            rw [get_commit, if_neg hid]
            exact hr
          · exact ⟨r, get_commit_of_latest hs ht hlatest hold hr ha, ha, hlease⟩
  · cases hd with
    | quiet hrows hheld _ hnow => exact hsame hrows hheld hnow
    | insert note =>
        have hid : n.notificationId ≠ s.drawn := Nat.ne_of_lt (hs.fresh _ r₀ hr₀)
        constructor
        · rw [get_insert note hid]
          exact ⟨r₀, hr₀, hle⟩
        · intro hn hlt
          rw [get_insert note hid]
          exact hleased hn hlt

/-! ## The programs -/

abbrev Timely (t : Tid) (P : State → Prop) (p : Service α) (Q : Except PyError α → State → Prop) :
    Prop :=
  outbox.Triple inTimePolicy fencing t P p Q

def isClaim {β : Type} : Op β → Bool
  | .claimDue _ _ _ => true
  | _ => false

theorem step_refl : Step t s s := .quiet rfl rfl rfl rfl

/-- Every call but a claim is quiet or marks a row in time. -/
theorem step_of_outcome {op : Op α} (hop : isClaim op = false) {m : Mode PyError}
    {x : Except PyError α} (hp : inTime t op m s = true) (ho : outbox.outcome t op m s = some (x, s')) :
    Step t s s' := by
  have hexec : ∀ {x₀ : Except PyError α}, m.effective = true →
      outbox.exec t op s = some (x₀, s') → Step t s s' := by
    intro x₀ heff he
    cases op with
    | claimDue now limit lease => cases hop
    | commit loaded changed =>
        have hlatest : s.latest t loaded.notificationId = true := by
          simpa [inTime, heff] using hp
        simp only [outbox, State.exec] at he
        split at he
        · cases he
        · cases he
          exact .mark loaded changed hlatest
    | _ =>
        cases he
        exact .quiet rfl rfl rfl rfl
  rcases outbox.outcome_cases ho with ⟨rfl, he⟩ | ⟨e, rfl, rfl, rfl⟩ | ⟨e, x₀, rfl, rfl, he⟩
  · exact hexec rfl he
  · exact step_refl
  · exact hexec rfl he

theorem unclaiming_timely {p : Service α} (hp : p.Calls fun op => isClaim op = false) :
    Timely t (fun _ => True) p (fun _ _ => True) := by
  apply Triple.calls ?_ (.const True)
  apply Program.Calls.mono hp
  intro β op hop s m x s' _ _ hpol ho _
  exact ⟨step_of_outcome hop hpol ho, trivial⟩

theorem call_unclaiming {op : Op α} (h : isClaim op = false) :
    (call op).Calls fun op => isClaim op = false := ⟨h, fun _ => trivial⟩

theorem get_unclaiming (id : Uuid) : (get id).Calls fun op => isClaim op = false := by
  apply Program.Calls.bind (call_unclaiming rfl)
  intro found
  cases found with
  | none => trivial
  | some r => trivial

theorem publishOne_unclaiming (n : Notification) :
    (publishOne n).Calls fun op => isClaim op = false := by
  have hmark : ∀ change : Row → Nat → Row, (do
      let notification ← get n.notificationId
      let now ← call .now
      call (.commit notification (change notification now))).Calls fun op => isClaim op = false := by
    intro change
    apply Program.Calls.bind (get_unclaiming _)
    intro row
    apply Program.Calls.bind (call_unclaiming rfl)
    intro now
    exact call_unclaiming rfl
  apply Program.Calls.bind (call_unclaiming rfl).attempt
  intro published
  cases published with
  | error exc => exact hmark _
  | ok u => exact hmark _

theorem publishAll_unclaiming (ns : List Notification) :
    (publishAll ns).Calls fun op => isClaim op = false := by
  induction ns with
  | nil => trivial
  | cons n ns ih =>
      apply Program.Calls.bind (publishOne_unclaiming n)
      intro _
      exact ih

theorem now_le_moves (h : fencing.Moves s s') : s.now ≤ s'.now := by
  rcases h with ⟨t, hstep⟩ | hd
  · cases hstep with
    | quiet _ _ _ hnow => exact Nat.le_of_eq hnow.symm
    | claim now limit lease _ => exact Nat.le_refl _
    | mark loaded changed _ => exact Nat.le_refl _
  · cases hd with
    | quiet _ _ _ hnow => exact hnow
    | insert note => exact Nat.le_refl _

theorem stable_now (now : Nat) : fencing.Stable t fun s => now ≤ s.now := by
  intro s s' hi h
  apply Nat.le_trans h
  apply now_le_moves
  rcases hi.2.2 with ⟨t', -, hg⟩ | he
  · exact .inl ⟨t', hg⟩
  · exact .inr he

theorem claimDue_timely (limit leaseSeconds : Nat) :
    Timely t (fun _ => True) (claimDue limit leaseSeconds) (fun _ _ => True) := by
  apply Triple.bind (M := fun now s => now ≤ s.now)
  · apply Triple.perform (.const True)
    intro s m x s' _ _ _ ho
    rcases outbox.outcome_cases ho with ⟨-, he⟩ | ⟨e, -, rfl, rfl⟩ | ⟨e, x₀, -, rfl, he⟩
    · cases he
      exact ⟨step_refl, Nat.le_refl _⟩
    · exact ⟨step_refl, trivial⟩
    · cases he
      exact ⟨step_refl, trivial⟩
  · intro now
    apply Triple.perform (stable_now now)
    intro s m x s' hnow _ _ ho
    rcases outbox.outcome_cases ho with ⟨-, he⟩ | ⟨e, -, -, rfl⟩ | ⟨e, x₀, -, -, he⟩
    · cases he
      exact ⟨.claim _ _ _ hnow, trivial⟩
    · exact ⟨step_refl, trivial⟩
    · cases he
      exact ⟨.claim _ _ _ hnow, trivial⟩

theorem runOnce_timely (settings : Settings) :
    Timely t (fun _ => True) (runOnce settings) (fun _ _ => True) := by
  apply Triple.seq (claimDue_timely _ _)
  · exact fun _ _ _ => trivial
  intro ns
  apply unclaiming_timely
  apply Program.Calls.bind (publishAll_unclaiming ns)
  intro _
  trivial

/-! ## Runs -/

theorem outbox_timely : outbox.Meets inTimePolicy fencing State.Vacant
    ⟨fun _ _ => True, fun _ _ _ => True, fun _ _ => True⟩ where
  init s hs := by
    obtain ⟨hrows, hheld, -⟩ := hs
    refine ⟨?_, fun _ => trivial⟩
    constructor <;> simp [hrows, hheld, UniqueBy, State.get, get?]
  moves s s' hs hm := by
    rcases hm with ⟨t, hstep⟩ | hd
    · exact hstep.fenced hs
    · exact hd.fenced hs
  idle_stable _ := .const True
  ended_stable _ _ := .const True
  stopped_stable _ := .const True
  start x s t p s' _ hb _ _ := by
    cases hb
    exact ⟨.quiet rfl rfl rfl (Nat.le_refl _), fun _ => runOnce_timely x.2 _ trivial⟩
  crash _ _ _ := trivial
  environment x s s' he _ := by
    cases x with
    | tick μs =>
        cases he
        exact .quiet rfl rfl rfl (Nat.le_add_right _ _)
    | lock ids =>
        cases he
        exact .quiet rfl rfl rfl (Nat.le_refl _)
    | insert note =>
        simp only [outbox, State.environment] at he
        split at he
        · cases he
        · cases he
          exact .insert note

/-- A call by which the worker claims the row, with a lease until this time. -/
def Claims (π : Policy Op PyError State Tid (Tid × Settings) Env) (t : Tid) (n : Notification)
    (lease : Nat) (c c' : Config Op PyError Nat State Tid) : Prop :=
  ∃ m, Permits π (.call t m) c ∧ outbox.advance (.call t m) c = some c' ∧
    (t, n) ∉ c.state.held ∧ (t, n) ∈ c'.state.held ∧
      ∃ r, c'.state.get n.notificationId = some r ∧ r.nextAttemptAt = lease

/-- From here on a published row stays published, and a row that a worker now
claims is, until it marks it or the lease runs out, not changed by a call of
another worker. -/
structure LeasesHold (π : Policy Op PyError State Tid (Tid × Settings) Env)
    (c : Config Op PyError Nat State Tid) : Prop where
  published : ∀ c' id, outbox.Later π c c' → c.state.Published id → c'.state.Published id
  leased : ∀ t n lease c₁ c₂, Claims π t n lease c c₁ → outbox.Later π c₁ c₂ →
    (t, n) ∈ c₂.state.held → c₂.state.now < lease → ∀ t' m c', t' ≠ t →
      Permits π (.call t' m) c₂ → outbox.advance (.call t' m) c₂ = some c' →
        c'.state.get n.notificationId = c₂.state.get n.notificationId

variable {c c₁ : Config Op PyError Nat State Tid} {lease : Nat}

/-- A claim counts an attempt of the row and leases it. -/
theorem leased_of_claims (hc : outbox.Reachable inTimePolicy State.Vacant c)
    (h : Claims inTimePolicy t n lease c c₁) : Leased t n lease c₁.state := by
  obtain ⟨m, hp, ha, hnot, hin, r, hr, hlease⟩ := h
  have hs : Fenced c.state := (outbox_timely.sound hc).1
  have hstep : Step t c.state c₁.state := outbox_timely.advance_call hc hp ha
  have hattempts : r.attempts = n.attempts := by
    generalize hs₁ : c₁.state = s₁ at hstep hin hr
    cases hstep with
    | quiet _ hheld _ _ => exact (hnot (hheld ▸ hin)).elim
    | mark loaded changed _ => exact (hnot (mem_commit.mp hin).1).elim
    | claim now limit lease' _ =>
        rcases mem_claimDue hs.unique hin with hold | ⟨-, r₀, hr₀, hdue, -, hnew⟩
        · exact (hnot hold).elim
        · have hid : r₀.notificationId = n.notificationId := by rw [hnew]; rfl
          rw [get_claimDue, hr₀, Option.map_some, if_pos hdue] at hr
          cases hr
          rw [hnew]
          rfl
  constructor
  · exact ⟨r, hr, Nat.le_of_eq hattempts.symm⟩
  · exact fun _ _ => ⟨r, hr, hattempts, hlease⟩

theorem get_of_leased (hs : Fenced s) (hl : Leased t n lease s) (hn : (t, n) ∈ s.held)
    (hnow : s.now < lease) (hne : t' ≠ t) (hstep : Step t' s s') :
    s'.get n.notificationId = s.get n.notificationId := by
  obtain ⟨r, hr, ha, hlease⟩ := hl.leased hn hnow
  cases hstep with
  | quiet hrows _ _ _ => exact get_of_rows hrows
  | claim now limit lease' hle =>
      rw [hr]
      exact get_claimDue_of_not_due hs hr (not_due_of_leased hle hnow hlease)
  | mark loaded changed hlatest =>
      rw [hr]
      exact get_commit_of_latest hs hne hlatest hn hr ha

/-- The leases hold in every run in which no worker marks a row that was claimed
again since its own claim. -/
theorem leases_hold (hc : outbox.Reachable inTimePolicy State.Vacant c) :
    LeasesHold inTimePolicy c where
  published c' id hl h :=
    outbox_timely.kept (J := fun s => s.Published id) (fun _ _ hs hm => published_kept hs hm) hc hl h
  leased t n lease c₁ c₂ hclaim hl hn hnow t' m c' hne hp ha := by
    have hc₁ : outbox.Reachable inTimePolicy State.Vacant c₁ := by
      obtain ⟨m₁, hp₁, ha₁, -⟩ := hclaim
      exact .step _ hc hp₁ ha₁
    have hleased : Leased t n lease c₂.state :=
      outbox_timely.kept (J := Leased t n lease) (fun _ _ hs hm => leased_kept hs hm) hc₁ hl
        (leased_of_claims hc hclaim)
    have hc₂ := hl.reachable _ hc₁
    exact get_of_leased (outbox_timely.sound hc₂).1 hleased hn hnow hne
      (outbox_timely.advance_call hc₂ hp ha)

namespace Desk

def slow (t : Tid) : List (Label PyError Tid (Tid × Settings) Env) :=
  .start (t, .default) :: answers t 2 ++ [.environment (.tick (seconds 60))]

def takenOver : List (Label PyError Tid (Tid × Settings) Env) :=
  .environment (.insert note) :: slow 0 ++ .start (1, .default) :: answers 1 6

def lateMark : List (Label PyError Tid (Tid × Settings) Env) :=
  .call 0 (.refused (.runtimeError "mqtt_publish_failed")) :: answers 0 3

end Desk

theorem leases_hold_desk : ∃ c, outbox.Reachable inTimePolicy State.Vacant c ∧
    c.state.rows.map Row.attempts = [2] ∧
      ∀ c', outbox.Later inTimePolicy c c' → c'.state.Published 0 := by
  have hrun : (outbox.run inTimePolicy Desk.takenOver (boot Desk.empty)).any (fun c =>
      c.state.rows.map Row.attempts = [2] &&
        (c.state.get 0).any fun r => r.status = .published) = true := by
    decide +kernel
  obtain ⟨c, hc, h⟩ := outbox.exists_of_run hrun Desk.empty_vacant
  obtain ⟨hattempts, hpub⟩ := (Bool.and_eq_true ..).mp h
  obtain ⟨r, hr, hstatus⟩ := (Option.any_eq_true ..).mp hpub
  have hpublished : c.state.Published 0 := ⟨r, hr, of_decide_eq_true hstatus⟩
  exact ⟨c, hc, of_decide_eq_true hattempts, fun c' hl =>
    (leases_hold hc).published c' 0 hl hpublished⟩

/-- The publication of a worker raises after its lease has run out and another
worker has published the row. -/
theorem published_row_failed : ¬∀ c, outbox.Reachable .any State.Vacant c → LeasesHold .any c := by
  intro h
  have hrun : (outbox.run .any Desk.takenOver (boot Desk.empty)).any (fun c =>
      ((c.state.get 0).any fun r => r.status = .published) &&
        (outbox.run .any Desk.lateMark c).any fun c' =>
          (c'.state.get 0).any fun r => r.status = .failed) = true := by
    decide +kernel
  obtain ⟨c, c', hc, hpub, hl, hfailed⟩ := outbox.exists_of_runs hrun Desk.empty_vacant
  obtain ⟨r, hr, hstatus⟩ := (Option.any_eq_true ..).mp hpub
  obtain ⟨r', hr', hstatus'⟩ := (Option.any_eq_true ..).mp hfailed
  obtain ⟨r₁, hr₁, hkept⟩ := (h c hc).published c' 0 hl ⟨r, hr, of_decide_eq_true hstatus⟩
  rw [hr'] at hr₁
  cases hr₁
  rw [of_decide_eq_true hstatus'] at hkept
  cases hkept

end CarPayIn.Outbox
