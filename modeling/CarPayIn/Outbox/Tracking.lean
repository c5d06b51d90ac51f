import CarPayIn.Outbox.Worker

/-! # Who holds a row

Attempts are spent when a batch is claimed, and only a mark makes a row dead. A
row whose attempts are spent can no longer be claimed, so it depends on the
worker that holds the last attempt.
-/

namespace CarPayIn.Outbox

open Process Store

variable {s s' : State} {t : Tid} {n : Notification} {r : Row}

/-- The last attempt that the row allows. -/
def Notification.isLast (n : Notification) : Bool := n.maxAttempts ≤ n.attempts

def Row.isTerminal (r : Row) : Bool :=
  r.status = .published ∨ r.status = .delivered ∨ r.status = .dead

/-- Unless the row has attempts left or another worker holds its last one,
nothing has been committed to it since it was read. -/
def State.unchanged (s : State) (t : Tid) (loaded : Row) : Bool :=
  (s.get loaded.notificationId).all fun r => r.attempts < r.maxAttempts || r = loaded ||
    s.held.any fun h => h.1 ≠ t && h.2.notificationId = loaded.notificationId && h.2.isLast

/-! ## What is held -/

theorem mem_heldBy : n ∈ s.heldBy t ↔ (t, n) ∈ s.held := by
  simp [State.heldBy]

theorem heldBy_claimDue (now limit lease : Nat) : (s.claimDue t now limit lease).2.heldBy t =
    (s.claimDue t now limit lease).1 ++ s.heldBy t := by
  have hnew : ∀ ns : List Notification, (((ns.map (t, ·)).filter fun h => h.1 = t).map (·.2)) = ns := by
    intro ns
    induction ns with
    | nil => rfl
    | cons n ns ih => simpa using ih
  simp only [State.claimDue, State.heldBy, List.filter_append, List.map_append, hnew]

theorem heldBy_claimDue_other {t' : Tid} (h : t' ≠ t) (now limit lease : Nat) :
    (s.claimDue t now limit lease).2.heldBy t' = s.heldBy t' := by
  have hnew : ∀ ns : List Notification, (ns.map (t, ·)).filter (fun h => h.1 = t') = [] := by
    intro ns
    apply List.filter_eq_nil_iff.mpr
    intro h' hm
    obtain ⟨n, -, rfl⟩ := List.mem_map.mp hm
    simpa using Ne.symm h
  simp only [State.claimDue, State.heldBy, List.filter_append, hnew, List.nil_append]

theorem heldBy_commit {t' : Tid} (loaded changed : Row) : (s.commit t loaded changed).heldBy t' =
    (s.heldBy t').filter fun n => ¬(t' = t ∧ n.notificationId = loaded.notificationId) := by
  simp only [State.heldBy, State.commit, List.filter_map, List.filter_filter]
  congr 1
  apply List.filter_congr
  intro h _
  by_cases ht : h.1 = t' <;> simp [ht]

theorem heldBy_commit_other {t' : Tid} (h : t' ≠ t) (loaded changed : Row) :
    (s.commit t loaded changed).heldBy t' = s.heldBy t' := by
  rw [heldBy_commit]
  simp [h]

/-! ## A row under the calls -/

section
variable {id : Uuid}

theorem get_claimDue (now limit lease : Nat) : (s.claimDue t now limit lease).2.get id =
    (s.get id).map fun r => if r.notificationId ∈ s.dueIds now limit then r.claim now lease else r := by
  apply get?_map
  intro r
  split <;> rfl

theorem get_commit (loaded changed : Row) : (s.commit t loaded changed).get id =
    if id = loaded.notificationId then (s.get id).map (Row.flush loaded changed) else s.get id := by
  have hget : (s.commit t loaded changed).get id = if id = loaded.notificationId
      then (s.get loaded.notificationId).map (Row.flush loaded changed) else s.get id :=
    get?_modify (Row.flush loaded changed) fun _ => rfl
  rw [hget]
  split
  · rename_i h
    rw [h]
  · rfl

theorem attempts_claimDue {now limit lease : Nat} (r : Row) :
    r.attempts ≤ (if r.notificationId ∈ s.dueIds now limit then r.claim now lease else r).attempts := by
  split
  · exact Nat.le_succ _
  · exact Nat.le_refl _

theorem get_insert (note : PaymentNotificationOutbox) (hid : id ≠ s.drawn) :
    (s.insert note).get id = s.get id := by
  unfold State.get State.insert
  rw [get?_cons]
  exact if_neg (Ne.symm hid)

end

/-! ## The rows and who holds them -/

/-- Every row whose attempts are spent is marked for good or held for its last attempt. -/
structure Tracked (s : State) : Prop where
  unique : UniqueBy Row.notificationId s.rows
  fresh : ∀ r ∈ s.rows, r.notificationId < s.drawn
  held : ∀ t n, (t, n) ∈ s.held → ∃ r ∈ s.rows, r.notificationId = n.notificationId
  spent : ∀ r ∈ s.rows, r.maxAttempts ≤ r.attempts → r.isTerminal = false →
    ∃ t n, (t, n) ∈ s.held ∧ n.notificationId = r.notificationId ∧ n.isLast = true

theorem Tracked.of_same (hs : Tracked s) (hrows : s'.rows = s.rows) (hheld : s'.held = s.held)
    (hdrawn : s'.drawn = s.drawn) : Tracked s' := by
  constructor
  · rw [hrows]
    exact hs.unique
  · rw [hrows, hdrawn]
    exact hs.fresh
  · rw [hrows, hheld]
    exact hs.held
  · rw [hrows, hheld]
    exact hs.spent

theorem due_subset {now limit : Nat} (hr : r ∈ s.due now limit) :
    r ∈ s.rows ∧ r.isDue now = true := by
  have hsort := List.mem_of_mem_take hr
  rw [List.mem_insertionSort] at hsort
  obtain ⟨hmem, hdue⟩ := List.mem_filter.mp hsort
  exact ⟨hmem, ((Bool.and_eq_true ..).mp hdue).1⟩

/-- The id of a row that is due is no other row's. -/
theorem mem_due_of_id (hu : UniqueBy Row.notificationId s.rows) {now limit : Nat} (hr : r ∈ s.rows)
    (hdue : r.notificationId ∈ s.dueIds now limit) : r ∈ s.due now limit := by
  obtain ⟨r₀, hr₀, he⟩ := List.mem_map.mp hdue
  obtain rfl := List.inj_on_of_nodup_map hu (due_subset hr₀).1 hr he
  exact hr₀

theorem claimed_id (ids : List Uuid) (now lease : Nat) (r : Row) :
    (if r.notificationId ∈ ids then r.claim now lease else r).notificationId =
      r.notificationId := by
  split <;> rfl

/-- No row is due twice. -/
theorem dueIds_nodup (hu : UniqueBy Row.notificationId s.rows) (now limit : Nat) :
    (s.dueIds now limit).Nodup := by
  have hsub : List.Sublist (s.rows.filter fun r => r.isDue now && r.notificationId ∉ s.locked)
      s.rows := List.filter_sublist
  have hfilter := List.Nodup.sublist (hsub.map Row.notificationId) hu
  have hperm := List.perm_insertionSort (fun r r' : Row => r.createdAt ≤ r'.createdAt)
    (s.rows.filter fun r => r.isDue now && r.notificationId ∉ s.locked)
  have hsorted := (hperm.map Row.notificationId).nodup_iff.mpr hfilter
  exact List.Nodup.sublist ((List.take_sublist limit _).map Row.notificationId) hsorted

/-- A batch is of the rows that were due. -/
theorem claimDue_ids (t : Tid) (now limit lease : Nat) :
    (s.claimDue t now limit lease).1.map Notification.notificationId = s.dueIds now limit := by
  simp only [State.claimDue, State.dueIds, List.map_map]
  rfl

/-- No row is claimed twice in one batch. -/
theorem Tracked.batch_nodup (hs : Tracked s) (now limit lease : Nat) :
    ((s.claimDue t now limit lease).1.map Notification.notificationId).Nodup := by
  rw [claimDue_ids]
  exact dueIds_nodup hs.unique now limit

theorem Tracked.claimDue (hs : Tracked s) (now limit lease : Nat) :
    Tracked (s.claimDue t now limit lease).2 := by
  have hid := claimed_id (s.dueIds now limit) now lease
  constructor
  · exact hs.unique.map hid
  · intro r' hr'
    obtain ⟨r, hr, rfl⟩ := List.mem_map.mp hr'
    rw [hid]
    exact hs.fresh r hr
  · intro t' n hn
    rcases List.mem_append.mp hn with hnew | hold
    · obtain ⟨m, hm, he⟩ := List.mem_map.mp hnew
      obtain ⟨r, hr, rfl⟩ := List.mem_map.mp hm
      cases he
      exact ⟨_, List.mem_map_of_mem (due_subset hr).1, hid r⟩
    · obtain ⟨r, hr, he⟩ := hs.held t' n hold
      exact ⟨_, List.mem_map_of_mem hr, (hid r).trans he⟩
  · intro r' hr' hspent hterminal
    obtain ⟨r, hr, rfl⟩ := List.mem_map.mp hr'
    rw [hid]
    by_cases hdue : r.notificationId ∈ s.dueIds now limit
    · rw [if_pos hdue] at hspent
      have hmem : (r.claim now lease).toDict ∈ (s.claimDue t now limit lease).1 :=
        List.mem_map_of_mem (mem_due_of_id hs.unique hr hdue)
      exact ⟨t, _, List.mem_append_left _ (List.mem_map_of_mem hmem), rfl, decide_eq_true hspent⟩
    · rw [if_neg hdue] at hspent hterminal
      obtain ⟨t', n, hn, he, hlast⟩ := hs.spent r hr hspent hterminal
      exact ⟨t', n, List.mem_append_right _ hn, he, hlast⟩

/-- What a mark writes ends a row that had no attempts left when it was read. -/
def Settles (loaded changed : Row) : Prop :=
  loaded.maxAttempts ≤ loaded.attempts → changed.isTerminal = true

theorem flush_self_isTerminal (loaded changed : Row) :
    (Row.flush loaded changed loaded).isTerminal = changed.isTerminal := by
  have hstatus : (Row.flush loaded changed loaded).status = changed.status := by
    simp only [Row.flush]
    split
    · rename_i h
      exact h.symm
    · rfl
  simp only [Row.isTerminal, hstatus]

theorem Tracked.commit (hs : Tracked s) {loaded changed : Row} (hm : Settles loaded changed)
    (hu : s.unchanged t loaded = true) : Tracked (s.commit t loaded changed) := by
  have hid : ∀ r, (Row.flush loaded changed r).notificationId = r.notificationId := fun _ => rfl
  constructor
  · exact hs.unique.modify hid
  · intro r' hr'
    obtain ⟨r, hr, rfl⟩ := List.mem_map.mp hr'
    have hlt := hs.fresh r hr
    split
    · exact hlt
    · exact hlt
  · intro t' n hn
    obtain ⟨r, hr, he⟩ := hs.held t' n (List.mem_of_mem_filter hn)
    refine ⟨_, List.mem_map_of_mem hr, ?_⟩
    split
    · exact he
    · exact he
  · intro r' hr' hspent hterminal
    obtain ⟨r, hr, rfl⟩ := List.mem_map.mp hr'
    by_cases hk : r.notificationId = loaded.notificationId
    · rw [if_pos hk] at hspent hterminal ⊢
      have hget : s.get loaded.notificationId = some r := by
        rw [← hk]
        exact hs.unique.get?_of_mem hr
      simp only [State.unchanged, hget, Option.all_some, Bool.or_eq_true, decide_eq_true_eq,
        List.any_eq_true, Bool.and_eq_true] at hu
      rcases hu with (hleft | rfl) | ⟨⟨t', n⟩, hn, ⟨ht, hnk⟩, hlast⟩
      · exact absurd hleft (Nat.not_lt.mpr hspent)
      · rw [flush_self_isTerminal, hm hspent] at hterminal
        cases hterminal
      · refine ⟨t', n, List.mem_filter.mpr ⟨hn, ?_⟩, hnk.trans hk.symm, hlast⟩
        simp [show ¬t' = t from ht]
    · rw [if_neg hk] at hspent hterminal ⊢
      obtain ⟨t', n, hn, he, hlast⟩ := hs.spent r hr hspent hterminal
      refine ⟨t', n, List.mem_filter.mpr ⟨hn, ?_⟩, he, hlast⟩
      simp [he, hk]

theorem Tracked.insert (hs : Tracked s) (note : PaymentNotificationOutbox) :
    Tracked (s.insert note) := by
  constructor
  · apply hs.unique.cons
    apply get?_eq_none.mpr
    intro r hr he
    exact absurd (hs.fresh r hr) (by rw [he]; exact Nat.lt_irrefl _)
  · intro r hr
    rcases List.mem_cons.mp hr with rfl | hr
    · exact Nat.lt_succ_self _
    · exact Nat.lt_succ_of_lt (hs.fresh r hr)
  · intro t n hn
    obtain ⟨r, hr, he⟩ := hs.held t n hn
    exact ⟨r, List.mem_cons_of_mem _ hr, he⟩
  · intro r hr hspent hterminal
    rcases List.mem_cons.mp hr with rfl | hr
    · exact absurd (show 5 ≤ 0 from hspent) (by decide)
    · exact hs.spent r hr hspent hterminal

end CarPayIn.Outbox
