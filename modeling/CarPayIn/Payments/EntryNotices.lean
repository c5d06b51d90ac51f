import CarPayIn.Payments.EntryWebhooks
import CarPayIn.Process.History

/-! # Entry notifications

An entry webhook commits its session first and publishes the notification of
the entry three calls later; a webhook that comes again is answered from the
session alone. What was not published by the first execution, and not recorded
for the retry worker, is never published.
-/

namespace CarPayIn

open Process Process.System Store Service

variable {rt : Runtime} {t : Tid} {w w' : World} {b b' : Base} {id : Uuid} {α : Type}

/-! ## Notified sessions -/

def Base.published (b : Base) (id : Uuid) : Bool := b.publishedEntries.any fun e => e.sessionId = id

def Base.noticed (b : Base) (id : Uuid) : Bool := b.published id || (b.entryRetries id).isSome

/-- Every recorded event is the one of the session it is filed under. -/
def Base.EntriesFiled (b : Base) : Prop :=
  ∀ id e, b.entryRetries id = some e → e.value.sessionId = id

def World.EntriesFiled (w : World) : Prop := w.base.EntriesFiled

/-- A retry event is given up only for a session whose notification was published. -/
structure NoticesKept (b b' : Base) : Prop where
  filed : b.EntriesFiled → b'.EntriesFiled
  published : ∀ id, b.published id = true → b'.published id = true
  noticed : ∀ id, b.noticed id = true → b'.noticed id = true

theorem NoticesKept.refl (b : Base) : NoticesKept b b := ⟨fun h => h, fun _ h => h, fun _ h => h⟩

theorem NoticesKept.of_same (hp : b'.publishedEntries = b.publishedEntries)
    (hr : b'.entryRetries = b.entryRetries) : NoticesKept b b' := by
  constructor
  · intro h
    unfold Base.EntriesFiled at h ⊢
    rwa [hr]
  · intro id h
    unfold Base.published at h ⊢
    rwa [hp]
  · intro id h
    unfold Base.noticed Base.published at h ⊢
    rwa [hp, hr]

theorem noticed_of_published (h : b.published id = true) : b.noticed id = true := by
  simp [Base.noticed, h]

theorem publish_kept (event : EntryRetryEvent) :
    NoticesKept b (b.exec (.publishEntryNotification event)).2 ∧
      (b.exec (.publishEntryNotification event)).2.published event.sessionId = true := by
  refine ⟨⟨fun h => h, fun id h => ?_, fun id h => ?_⟩, by simp [Base.exec, Base.published]⟩
  · simp only [Base.published, Base.exec, List.any_cons, Bool.or_eq_true] at h ⊢
    exact .inr h
  · simp only [Base.noticed, Base.published, Base.exec, List.any_cons, Bool.or_eq_true] at h ⊢
    rcases h with hp | hr
    · exact .inl (.inr hp)
    · exact .inr hr

theorem record_kept (event : EntryRetryEvent) (ex : Option Nat) :
    NoticesKept b (b.exec (.entryRetries (.set event.sessionId event ex))).2 ∧
      (b.exec (.entryRetries (.set event.sessionId event ex))).2.noticed event.sessionId = true := by
  refine ⟨⟨fun h id e he => ?_, fun id h => h, fun id h => ?_⟩,
    by simp [Base.exec, Base.noticed, Cache.exec]⟩
  · simp only [Base.exec, Cache.exec] at he
    by_cases hid : id = event.sessionId
    · subst hid
      rw [Function.update_self] at he
      cases he
      rfl
    · rw [Function.update_of_ne hid] at he
      exact h id e he
  · simp only [Base.noticed, Base.exec, Cache.exec, Bool.or_eq_true] at h ⊢
    rcases h with hp | hr
    · exact .inl hp
    · refine .inr ?_
      by_cases hid : id = event.sessionId
      · subst hid
        simp
      · rwa [Function.update_of_ne hid]

theorem clear_kept (h : b.published id = true) :
    NoticesKept b (b.exec (.entryRetries (.delete id))).2 ∧
      (b.exec (.entryRetries (.delete id))).2.published id = true := by
  refine ⟨⟨fun hf id' e he => ?_, fun id' hp => hp, fun id' hn => ?_⟩, h⟩
  · simp only [Base.exec, Cache.exec] at he
    by_cases hid : id' = id
    · subst hid
      simp at he
    · rw [Function.update_of_ne hid] at he
      exact hf id' e he
  · by_cases hid : id' = id
    · subst hid
      exact noticed_of_published h
    · simpa [Base.noticed, Base.published, Base.exec, Cache.exec, Function.update_of_ne hid] using hn

/-! ## Who has created which session -/

abbrev Creations := List (Tid × Uuid)

def creations (t : Tid) {β : Type} (op : Op β) (r : Except PyError β) (_ : World) (g : Creations) :
    Creations :=
  match op, r with
  | .base (.createSession row), .ok _ => (t, row.sessionId) :: g
  | _, _ => g

abbrev creating (rt : Runtime) :
    System Op PyError Reply (World × Creations) Tid Start Env := (carPayIn rt).withHistory creations

theorem creations_of_other {β : Type} {op : Op β} (h : op.effect ≠ .newSession)
    (r : Except PyError β) (w : World) (g : Creations) : creations t op r w g = g := by
  unfold creations
  split
  · exact (h rfl).elim
  · rfl

/-- Every session that the execution has created is noticed, but for one. -/
def NoticedBut (t : Tid) (but : Option Uuid) (s : World × Creations) : Prop :=
  ∀ id, (t, id) ∈ s.2 → some id = but ∨ s.1.base.noticed id = true

/-! ## The condition -/

/-- The call leaves no session without a notice: a session is not committed by a
call that raises, what follows its commit does not raise, and a failed
publication is recorded. -/
def noticeSafe {β : Type} (op : Op β) (m : Mode PyError) (w : World) : Bool :=
  match op, m with
  | .base (.createSession row), .lost _ => !(w.base.createSession row).isOk
  | .base (.preNotifies (.delete _)), m => m = .answered
  | .base (.entryRetries (.set id _ _)), .refused _ => w.base.noticed id
  | _, _ => true

def noticePolicy : Policy Op PyError World Tid Start Env where
  start _ _ := True
  call _ _ op m w := noticeSafe op m w = true
  crash _ _ := True
  environment _ _ := True

instance : noticePolicy.Computable where
  start _ _ := .isTrue trivial
  call _ _ _ _ _ := inferInstanceAs (Decidable (_ = true))
  crash _ _ := .isTrue trivial
  environment _ _ := .isTrue trivial

/-! ## The contract -/

def noticing : Contract (World × Creations) Tid where
  invariant s := s.1.base.EntriesFiled
  guarantee t s s' := NoticesKept s.1.base s'.1.base ∧ s.2 ⊆ s'.2 ∧
    ∀ t' id, t' ≠ t → (t', id) ∈ s'.2 → (t', id) ∈ s.2
  environment s s' := NoticesKept s.1.base s'.1.base ∧ s'.2 = s.2

theorem guarantee_of_same {s s' : World × Creations} (hk : NoticesKept s.1.base s'.1.base)
    (hg : s'.2 = s.2) : noticing.guarantee t s s' :=
  ⟨hk, by rw [hg]; exact fun _ h => h, fun t' id _ h => by rwa [hg] at h⟩

theorem stable_noticedBut (but : Option Uuid) : noticing.Stable t (NoticedBut t but) := by
  rintro s s' ⟨-, -, hi⟩ h id hid
  rcases hi with ⟨t', hne, hk, -, hother⟩ | ⟨hk, hg⟩
  · exact (h id (hother t id (Ne.symm hne) hid)).imp_right (hk.noticed id)
  · rw [hg] at hid
    exact (h id hid).imp_right (hk.noticed id)

theorem stable_published (id : Uuid) : noticing.Stable t fun s => s.1.base.published id = true := by
  rintro s s' ⟨-, -, hi⟩ h
  rcases hi with ⟨t', hne, hk, -⟩ | ⟨hk, -⟩
  · exact hk.published id h
  · exact hk.published id h

theorem noticedBut_of_kept {but : Option Uuid} {s s' : World × Creations}
    (hk : NoticesKept s.1.base s'.1.base) (hg : s'.2 = s.2) (h : NoticedBut t but s) :
    NoticedBut t but s' := by
  intro id hid
  rw [hg] at hid
  exact (h id hid).imp_right (hk.noticed id)

theorem noticedBut_none {s : World × Creations} (h : NoticedBut t (some id) s)
    (hn : s.1.base.noticed id = true) : NoticedBut t none s := by
  intro id' hid
  rcases h id' hid with he | h'
  · cases he
    exact .inr hn
  · exact .inr h'

/-! ## The calls -/

abbrev Noticing (rt : Runtime) (t : Tid) (P : World × Creations → Prop) (p : Service α)
    (Q : Except PyError α → World × Creations → Prop) : Prop :=
  (creating rt).Triple noticePolicy.withHistory noticing t P p Q

theorem unnoticed_calls {but : Option Uuid} (es : List Effect) {p : Service α}
    (hp : ServiceEffects es p) (hnew : .newSession ∉ .nothing :: es)
    (hpub : .publication ∉ .nothing :: es) (hretry : .entryRetry ∉ .nothing :: es) :
    Noticing rt t (NoticedBut t but) p (fun _ => NoticedBut t but) := by
  apply Triple.calls ?_ (stable_noticedBut but)
  apply Program.Calls.mono hp
  intro β op hop s m r s' hs _ _ ho _
  have hframe := outcome_frame (outcome_of_history ho)
  have hk : NoticesKept s.1.base s'.1.base := by
    apply NoticesKept.of_same
    · exact hframe.publishedEntries fun he => hpub (he ▸ hop)
    · exact hframe.entryRetries fun he => hretry (he ▸ hop)
  have hg : s'.2 = s.2 := by
    have hop' : op.effect ≠ .newSession := fun he => hnew (he ▸ hop)
    rcases history_cases ho with ⟨-, -, hg⟩ | ⟨e, -, -, -, hg⟩ | ⟨e, r₀, -, -, -, hg⟩
    · rw [hg, creations_of_other hop']
    · exact hg
    · rw [hg, creations_of_other hop']
  exact ⟨guarantee_of_same hk hg, noticedBut_of_kept hk hg hs⟩

theorem base_outcome {op : BaseOp α} (hop : op.effect ≠ .newSession) {m : Mode PyError}
    {r : Except PyError α} {s s' : World × Creations}
    (ho : (creating rt).outcome t (.base op) m s = some (r, s')) :
    (m = .answered ∧ r = (s.1.base.exec op).1 ∧ s'.1.base = (s.1.base.exec op).2 ∧ s'.2 = s.2) ∨
      (∃ e, m = .refused e ∧ r = .error e ∧ s' = s) ∨
      ∃ e, m = .lost e ∧ r = .error e ∧ s'.1.base = (s.1.base.exec op).2 ∧ s'.2 = s.2 := by
  have hg : ∀ r₀, creations t (.base op) r₀ s.1 s.2 = s.2 := by
    intro r₀
    have hother : (Op.base op).effect ≠ .newSession := hop
    exact creations_of_other hother r₀ s.1 s.2
  have hbase : ∀ r₀, s.1.exec t (.base op) = some (r₀, s'.1) →
      r₀ = (s.1.base.exec op).1 ∧ s'.1.base = (s.1.base.exec op).2 := by
    intro r₀ h
    exact ⟨(congrArg Prod.fst (Option.some.inj h)).symm,
      (congrArg (fun o => o.2.base) (Option.some.inj h)).symm⟩
  rcases history_cases ho with ⟨rfl, h, hs⟩ | ⟨e, rfl, rfl, hw, hs⟩ | ⟨e, r₀, rfl, rfl, h, hs⟩
  · obtain ⟨hr, hb⟩ := hbase r h
    exact .inl ⟨rfl, hr, hb, hs.trans (hg r)⟩
  · exact .inr (.inl ⟨e, rfl, rfl, Prod.ext hw hs⟩)
  · exact .inr (.inr ⟨e, rfl, rfl, (hbase r₀ h).2, hs.trans (hg r₀)⟩)

theorem guarantee_refl_noticing (s : World × Creations) : noticing.guarantee t s s :=
  guarantee_of_same (.refl _) rfl

theorem publish_notices (event : EntryRetryEvent) {but : Option Uuid} :
    Noticing rt t (NoticedBut t but) (base (ask (.publishEntryNotification event))) (fun r s =>
      NoticedBut t but s ∧ ∀ u, r = .ok u → s.1.base.published event.sessionId = true) := by
  apply Triple.perform (stable_noticedBut but)
  intro s m r s' hs _ _ ho
  obtain ⟨hk, hp⟩ := publish_kept (b := s.1.base) event
  have hop : (BaseOp.publishEntryNotification event).effect ≠ .newSession := by simp
  rcases base_outcome hop ho with ⟨rfl, hr, hb, hg⟩ | ⟨e, rfl, rfl, rfl⟩ | ⟨e, rfl, rfl, hb, hg⟩
  · rw [← hb] at hk hp
    exact ⟨guarantee_of_same hk hg, noticedBut_of_kept hk hg hs, fun _ _ => hp⟩
  · exact ⟨guarantee_refl_noticing _, hs, fun _ hr => by cases hr⟩
  · rw [← hb] at hk
    exact ⟨guarantee_of_same hk hg, noticedBut_of_kept hk hg hs, fun _ hr => by cases hr⟩

theorem clear_notices (id : Uuid) {but : Option Uuid} :
    Noticing rt t (fun s => NoticedBut t but s ∧ s.1.base.published id = true)
      (base (delete .entryRetries id))
      (fun _ s => NoticedBut t but s ∧ s.1.base.published id = true) := by
  apply Triple.perform ((stable_noticedBut but).and (stable_published id))
  intro s m r s' ⟨hs, hpub⟩ _ _ ho
  obtain ⟨hk, hp⟩ := clear_kept hpub
  have hop : (BaseOp.entryRetries (.delete id)).effect ≠ .newSession := by simp
  rcases base_outcome hop ho with ⟨rfl, -, hb, hg⟩ | ⟨e, rfl, rfl, rfl⟩ | ⟨e, rfl, rfl, hb, hg⟩
  · rw [← hb] at hk hp
    exact ⟨guarantee_of_same hk hg, noticedBut_of_kept hk hg hs, hp⟩
  · exact ⟨guarantee_refl_noticing _, hs, hpub⟩
  · rw [← hb] at hk hp
    exact ⟨guarantee_of_same hk hg, noticedBut_of_kept hk hg hs, hp⟩

/-- A record that fails is one of a session that has its notice. -/
theorem record_notices (event : EntryRetryEvent) (ttlSeconds : Nat) :
    Noticing rt t (NoticedBut t (some event.sessionId))
      (base (save .entryRetries event.sessionId event ttlSeconds)) (fun _ => NoticedBut t none) := by
  apply Triple.perform (stable_noticedBut _)
  intro s m r s' hs _ hpol ho
  obtain ⟨hk, hn⟩ := record_kept (b := s.1.base) event (some ttlSeconds)
  have hop : (BaseOp.entryRetries (.set event.sessionId event (some ttlSeconds))).effect ≠
    .newSession := by simp
  rcases base_outcome hop ho with ⟨rfl, -, hb, hg⟩ | ⟨e, rfl, rfl, rfl⟩ | ⟨e, rfl, rfl, hb, hg⟩
  · rw [← hb] at hk hn
    exact ⟨guarantee_of_same hk hg, noticedBut_none (noticedBut_of_kept hk hg hs) hn⟩
  · exact ⟨guarantee_refl_noticing _, noticedBut_none hs hpol⟩
  · rw [← hb] at hk hn
    exact ⟨guarantee_of_same hk hg, noticedBut_none (noticedBut_of_kept hk hg hs) hn⟩

/-- A session that is committed is the one that still needs a notice. -/
theorem createSession_notices (row : ParkingSession) :
    Noticing rt t (NoticedBut t none) (base (ask (.createSession row))) (fun r s => match r with
      | .ok _ => NoticedBut t (some row.sessionId) s
      | .error _ => NoticedBut t none s) := by
  apply Triple.perform (stable_noticedBut none)
  intro s m r s' hs _ hpol ho
  have hframe := outcome_frame (outcome_of_history ho)
  have hk : NoticesKept s.1.base s'.1.base := by
    apply NoticesKept.of_same
    · exact hframe.publishedEntries (by simp [Op.effect])
    · exact hframe.entryRetries (by simp [Op.effect])
  have hsame (hg : s'.2 = s.2) : noticing.guarantee t s s' ∧ NoticedBut t none s' :=
    ⟨guarantee_of_same hk hg, noticedBut_of_kept hk hg hs⟩
  have hresult : ∀ r₀, s.1.exec t (.base (.createSession row)) = some (r₀, s'.1) →
      r₀ = (s.1.base.write (s.1.base.createSession row)).1 := by
    intro r₀ h
    exact (congrArg Prod.fst (Option.some.inj h)).symm
  rcases history_cases ho with ⟨rfl, h, hg⟩ | ⟨e, rfl, rfl, -, hg⟩ | ⟨e, r₀, rfl, rfl, h, hg⟩
  · cases r with
    | error e => exact hsame hg
    | ok u =>
        have hg : s'.2 = (t, row.sessionId) :: s.2 := hg
        refine ⟨⟨hk, by rw [hg]; exact List.subset_cons_self _ _, fun t' id hne hid => ?_⟩, ?_⟩
        · rw [hg] at hid
          rcases List.mem_cons.mp hid with he | hid
          · cases he
            exact (hne rfl).elim
          · exact hid
        · intro id hid
          rw [hg] at hid
          rcases List.mem_cons.mp hid with he | hid
          · cases he
            exact .inl rfl
          · rcases hs id hid with he | hn
            · cases he
            · exact .inr (hk.noticed id hn)
  · exact hsame hg
  · -- the answer is lost only when the commit has failed
    cases hx : s.1.base.createSession row with
    | error e =>
        have hr := hresult r₀ h
        rw [hx] at hr
        subst hr
        exact hsame hg
    | ok b =>
        have hsafe : noticeSafe (.base (.createSession row)) (.lost e) s.1 = true := hpol
        simp [noticeSafe, hx, Except.isOk, Except.toBool] at hsafe

theorem deletePreNotify_notices (key : String) (but : Option Uuid) :
    Noticing rt t (NoticedBut t but) (base (delete .preNotifies key))
      (fun r s => r = .ok () ∧ NoticedBut t but s) := by
  apply Triple.perform (stable_noticedBut but)
  intro s m r s' hs _ hpol ho
  have hsafe : noticeSafe (.base (.preNotifies (.delete key))) m s.1 = true := hpol
  have hop : (BaseOp.preNotifies (.delete key)).effect ≠ .newSession := by simp
  rcases base_outcome hop ho with ⟨rfl, hr, hb, hg⟩ | ⟨e, rfl, rfl, rfl⟩ | ⟨e, rfl, rfl, hb, hg⟩
  · have hk : NoticesKept s.1.base s'.1.base := by
      rw [hb]
      exact .of_same rfl rfl
    exact ⟨guarantee_of_same hk hg, hr, noticedBut_of_kept hk hg hs⟩
  · simp [noticeSafe] at hsafe
  · simp [noticeSafe] at hsafe

/-! ## The programs -/

theorem notifyEntry_notices (event : EntryRetryEvent) :
    Noticing rt t (NoticedBut t (some event.sessionId))
      (base (HandleEntryWebhookService.notifyEntry event)) (fun _ => NoticedBut t none) := by
  unfold HandleEntryWebhookService.notifyEntry
  simp only [Program.bind_eq, Program.tryCatch_eq, base_bind, base_tryCatch]
  apply Triple.tryCatch (M := fun _ => NoticedBut t (some event.sessionId))
  · apply Triple.bind (M := fun _ s => NoticedBut t (some event.sessionId) s ∧
      s.1.base.published event.sessionId = true)
    · apply Triple.conseq (publish_notices event) (fun _ h => h)
      intro r s hr
      cases r with
      | ok u => exact ⟨hr.1, hr.2 u rfl⟩
      | error e => exact hr.1
    · intro _
      apply Triple.conseq (clear_notices event.sessionId) (fun _ h => h)
      intro r s hr
      cases r with
      | ok u => exact noticedBut_none hr.1 (noticed_of_published hr.2)
      | error e => exact hr.1
  · intro _
    exact record_notices event _

theorem openSession_notices (command : HandleEntryWebhookCommand) (carId : String) :
    Noticing rt t (NoticedBut t none)
      (base (HandleEntryWebhookService.openSession command carId)) (fun _ => NoticedBut t none) := by
  unfold HandleEntryWebhookService.openSession
  simp only [Program.bind_eq, base_bind]
  apply Triple.seq
  · exact unnoticed_calls [.draw] (base_effects (ask_effects (by simp))) (by decide) (by decide)
      (by decide)
  · exact fun _ _ h => h
  intro sessionId
  apply Triple.bind (M := fun _ => NoticedBut t (some sessionId))
  · apply Triple.conseq (createSession_notices _) (fun _ h => h)
    intro r s hr
    cases r with
    | ok u => exact hr
    | error e => exact hr
  intro _
  apply Triple.bind (M := fun _ => NoticedBut t (some sessionId))
  · apply Triple.conseq (deletePreNotify_notices _ _) (fun _ h => h)
    intro r s hr
    rw [hr.1]
    exact hr.2
  intro _
  apply Triple.bind (M := fun _ => NoticedBut t none)
  · apply Triple.conseq (notifyEntry_notices ⟨carId, sessionId, command.lotId, command.entryTime⟩)
      (fun _ h => h)
    intro r s hr
    cases r with
    | ok u => exact hr
    | error e => exact hr
  · exact fun _ => .done fun _ h => h

theorem entryWebhook_notices (command : HandleEntryWebhookCommand) :
    Noticing rt t (NoticedBut t none) (base (HandleEntryWebhookService.execute rt command))
      (fun _ => NoticedBut t none) := by
  have hread {β : Type} {op : BaseOp β} (hop : op.effect = .nothing) :
      Noticing rt t (NoticedBut t none) (base (ask op)) (fun _ => NoticedBut t none) :=
    unnoticed_calls [] (base_effects (ask_effects (hop ▸ .head _))) (by decide) (by decide)
      (by decide)
  have hdone {β : Type} (r : Except PyError β) :
      Noticing rt t (NoticedBut t none) (.done r) (fun _ => NoticedBut t none) :=
    .done fun _ h => h
  unfold HandleEntryWebhookService.execute
  simp only [Program.bind_eq, base_bind]
  apply Triple.seq (hread rfl) (fun _ _ h => h)
  intro valid
  split
  · exact hdone _
  split
  · exact hdone _
  rw [base_bind]
  apply Triple.seq (hread rfl) (fun _ _ h => h)
  intro found
  cases found with
  | some existing => exact hdone _
  | none =>
      dsimp only
      rw [base_bind]
      apply Triple.seq (hread rfl) (fun _ _ h => h)
      intro found
      cases found with
      | none => exact hdone _
      | some preNotify =>
          dsimp only
          rw [base_bind]
          apply Triple.seq (hread rfl) (fun _ _ h => h)
          intro found
          cases found with
          | some active => exact hdone _
          | none => exact openSession_notices command preNotify.carId

/-- The retry worker deletes an event after its notification was published. -/
theorem retryEntry_notices (key : Uuid) :
    Noticing rt t (NoticedBut t none) (base (NotifyRetryWorker.retryEntry key))
      (fun _ => NoticedBut t none) := by
  unfold NotifyRetryWorker.retryEntry
  simp only [Program.bind_eq, base_bind]
  apply Triple.bind (M := fun (found : Option EntryRetryEvent) s => NoticedBut t none s ∧
    ∀ event, found = some event → event.sessionId = key)
  · apply Triple.perform (stable_noticedBut none)
    intro s m r s' hs hfiled _ ho
    have hop : (BaseOp.entryRetries (.get key)).effect ≠ .newSession := by simp
    rcases base_outcome hop ho with ⟨rfl, hr, hb, hg⟩ | ⟨e, rfl, rfl, rfl⟩ | ⟨e, rfl, rfl, hb, hg⟩
    · have hk : NoticesKept s.1.base s'.1.base := by
        rw [hb]
        exact .of_same rfl rfl
      subst hr
      refine ⟨guarantee_of_same hk hg, noticedBut_of_kept hk hg hs, fun event hevent => ?_⟩
      obtain ⟨e, he, rfl⟩ := Option.map_eq_some_iff.mp hevent
      exact hfiled key e (Cache.read_eq_some.mp he).1
    · exact ⟨guarantee_refl_noticing _, hs⟩
    · have hk : NoticesKept s.1.base s'.1.base := by
        rw [hb]
        exact .of_same rfl rfl
      exact ⟨guarantee_of_same hk hg, noticedBut_of_kept hk hg hs⟩
  · intro found
    cases found with
    | none => exact .done fun _ h => h.1
    | some event =>
        by_cases hid : event.sessionId = key
        · subst hid
          apply Triple.conseq (P := NoticedBut t none) ?_ (fun _ h => h.1) (fun _ _ h => h)
          simp only [Program.tryCatch_eq, base_tryCatch, base_bind]
          apply Triple.tryCatch (M := fun _ => NoticedBut t none)
          · apply Triple.bind (M := fun _ s => NoticedBut t none s ∧
              s.1.base.published event.sessionId = true)
            · apply Triple.conseq (publish_notices event) (fun _ h => h)
              intro r s hr
              cases r with
              | ok u => exact ⟨hr.1, hr.2 u rfl⟩
              | error e => exact hr.1
            · intro _
              apply Triple.conseq (clear_notices event.sessionId) (fun _ h => h)
              intro r s hr
              cases r with
              | ok u => exact hr.1
              | error e => exact hr.1
          · exact fun _ => .done fun _ h => h
        · exact fun s hs => (hid (hs.2 event rfl)).elim

theorem retryEntries_notices (keys : List Uuid) :
    Noticing rt t (NoticedBut t none) (base (NotifyRetryWorker.retryEntries keys))
      (fun _ => NoticedBut t none) := by
  induction keys with
  | nil => exact .done fun _ h => h
  | cons key keys ih =>
      unfold NotifyRetryWorker.retryEntries
      simp only [Program.bind_eq, base_bind]
      apply Triple.seq (retryEntry_notices key) (fun _ _ h => h)
      exact fun _ => ih

theorem processEntryRetries_notices :
    Noticing rt t (NoticedBut t none) (base NotifyRetryWorker.processEntryRetries)
      (fun _ => NoticedBut t none) := by
  unfold NotifyRetryWorker.processEntryRetries
  simp only [Program.bind_eq, base_bind]
  apply Triple.seq
  · exact unnoticed_calls [] (base_effects (ask_effects (by simp))) (by decide) (by decide)
      (by decide)
  · exact fun _ _ h => h
  · exact fun keys => retryEntries_notices keys

/-! ## Runs -/

def allNoticed : Outline PyError Reply (World × Creations) Tid where
  idle t := NoticedBut t none
  ended t _ := NoticedBut t none
  stopped _ _ := True

/-- Every request leaves a notice of each session that it creates. -/
theorem begin_notices {x : Start} {p : Service Reply} (h : w.begin rt x = some (t, p, w')) :
    Noticing rt t (NoticedBut t none) p (fun _ => NoticedBut t none) := by
  have heffects := (begin_spec h).effects
  have hother (hnew : Effect.newSession ∉ .nothing :: t.effects)
      (hpub : Effect.publication ∉ .nothing :: t.effects)
      (hretry : Effect.entryRetry ∉ .nothing :: t.effects) :
      Noticing rt t (NoticedBut t none) p (fun _ => NoticedBut t none) :=
    unnoticed_calls _ heffects hnew hpub hretry
  cases x with
  | pg id =>
      obtain ⟨y, -, h⟩ := Option.map_eq_some_iff.mp h
      cases h
      exact hother (by simp [Tid.effects]) (by simp [Tid.effects]) (by simp [Tid.effects])
  | card id =>
      obtain ⟨y, -, h⟩ := Option.map_eq_some_iff.mp h
      cases h
      exact hother (by simp [Tid.effects]) (by simp [Tid.effects]) (by simp [Tid.effects])
  | backend n request =>
      cases h
      cases request with
      | entryWebhook command =>
          show Noticing rt _ _ (base (_ <$> _)) _
          rw [base_map]
          exact Triple.map (entryWebhook_notices command)
      | retryEntries =>
          show Noticing rt _ _ (base (_ <$> _)) _
          rw [base_map]
          exact Triple.map processEntryRetries_notices
      | _ =>
          exact hother (by simp [Tid.effects, Request.effects]) (by simp [Tid.effects, Request.effects])
            (by simp [Tid.effects, Request.effects])

theorem creating_meets (rt : Runtime) : (creating rt).Meets noticePolicy.withHistory noticing
    (fun s => s.1.EntriesFiled ∧ s.2 = []) allNoticed where
  init s hs := by
    refine ⟨hs.1, fun t id hid => ?_⟩
    rw [hs.2] at hid
    cases hid
  moves s s' hi hm := by
    rcases hm with ⟨t, hk, -⟩ | ⟨hk, -⟩
    · exact hk.filed hi
    · exact hk.filed hi
  idle_stable _ := stable_noticedBut none
  ended_stable _ _ := stable_noticedBut none
  stopped_stable _ := .const True
  start x s t p s' _ hb _ hidle := by
    obtain ⟨o, ho, hb⟩ := Option.map_eq_some_iff.mp hb
    cases hb
    have hk : NoticesKept s.1.base o.2.2.base := by
      rw [(begin_spec ho).base]
      exact .refl _
    have hidle' : NoticedBut o.1 none (o.2.2, s.2) := noticedBut_of_kept hk rfl hidle
    exact ⟨⟨hk, rfl⟩, fun _ => begin_notices ho _ hidle'⟩
  crash _ _ _ := trivial
  environment x s s' hx _ := by
    obtain ⟨w, he, rfl⟩ := Option.map_eq_some_iff.mp hx
    obtain ⟨now, outside, scanned, -, hb⟩ := environment_base he
    refine ⟨?_, rfl⟩
    show NoticesKept s.1.base w.base
    rw [hb]
    exact .of_same rfl rfl

/-- A call of the execution after which there is a session that was not there. -/
def Creates (rt : Runtime) (π : Policy Op PyError World Tid Start Env) (t : Tid) (id : Uuid)
    (c c' : Config Op PyError Reply World Tid) : Prop :=
  ∃ m, Permits π (.call t m) c ∧ (carPayIn rt).advance (.call t m) c = some c' ∧
    c.state.base.getSessionById id = none ∧ c'.state.base.getSessionById id ≠ none

theorem World.createSession_ok {row : ParkingSession} {r : Except PyError Unit}
    (he : w.exec t (.base (.createSession row)) = some (r, w'))
    (hold : w.base.getSessionById id = none) (hnew : w'.base.getSessionById id ≠ none) :
    r = .ok () := by
  obtain ⟨rfl, rfl⟩ := exec_base he
  show (w.base.write (w.base.createSession row)).1 = .ok ()
  cases hx : w.base.createSession row with
  | ok b' => rfl
  | error e =>
      simp only [Base.exec, hx, Base.write] at hnew
      exact (hnew hold).elim

/-- Only the call that creates a session makes one appear. -/
theorem mem_creations_of_new {β : Type} {op : Op β} {r : Except PyError β}
    (he : w.exec t op = some (r, w')) (hold : w.base.getSessionById id = none)
    (hnew : w'.base.getSessionById id ≠ none) (g : Creations) : (t, id) ∈ creations t op r w g := by
  rcases (World.exec_session he).getSessionById id with heq | ⟨row, hrow, rfl, -, hget⟩ | ⟨change, -, heq⟩
  · exact (hnew (heq.trans hold)).elim
  · cases op with
    | base op =>
        cases op with
        | createSession row' =>
            obtain rfl : row' = row := Option.some.inj hrow
            have hr : r = .ok () := World.createSession_ok he hold hnew
            rw [hr]
            exact .head _
        | _ => cases hrow
    | _ => cases hrow
  · rw [heq, hold] at hnew
    exact (hnew rfl).elim

section
variable {c c' : Config Op PyError Reply World Tid} {g : Creations}

theorem creates_withHistory (hc : Creates rt noticePolicy t id c c') (g : Creations) :
    ∃ g', (creating rt).Later noticePolicy.withHistory (c.withHistory g) (c'.withHistory g') ∧
      (t, id) ∈ g' := by
  obtain ⟨m, hp, ha, hold, hnew⟩ := hc
  obtain ⟨g', ha'⟩ := advance_withHistory creations ha g
  refine ⟨g', .step _ .refl (permits_withHistory hp g) ha', ?_⟩
  obtain ⟨β, op, next, -, ⟨r₀, he, rfl⟩ | ⟨hsame, -⟩⟩ := history_of_advance ha'
  · exact mem_creations_of_new he hold hnew g
  · rw [hsame] at hnew
    exact (hnew hold).elim

end

/-- Once the execution that has created a session is over, the session's entry
notification was published or waits, until its time to live elapses, for the
retry worker. -/
theorem entry_noticed (rt : Runtime) {c₁ c₂ c : Config Op PyError Reply World Tid}
    (h₁ : (carPayIn rt).Reachable noticePolicy World.EntriesFiled c₁)
    (hcreates : Creates rt noticePolicy t id c₁ c₂)
    (hl : (carPayIn rt).Later noticePolicy c₂ c) {r : Except PyError Reply}
    (hended : c.pool t = .ended r)
    (httl : ∀ e, c.state.base.entryRetries id = some e → e.live c.state.base.now = true) :
    c.state.base.published id = true ∨
      ∃ e, c.state.base.entryRetries.read c.state.base.now id = some e ∧
        e.value.sessionId = id := by
  obtain ⟨g₁, hg₁⟩ := h₁.withHistory creations []
  obtain ⟨g₂, hl₂, hmem⟩ := creates_withHistory hcreates g₁
  obtain ⟨g, hg⟩ := hl.withHistory creations g₂
  have hM := creating_meets rt
  have hc₂ := hl₂.reachable _ hg₁
  have hkept : (t, id) ∈ g := by
    apply hM.kept (J := fun s => (t, id) ∈ s.2) ?_ hc₂ hg hmem
    intro s s' _ hm hin
    rcases hm with ⟨t', -, hsub, -⟩ | ⟨-, hsame⟩
    · exact hsub hin
    · rwa [hsame]
  obtain ⟨hfiled, hA⟩ := hM.sound (hg.reachable _ hc₂)
  have hA := hA t
  rw [show (Config.withHistory c g).pool t = .ended r from hended] at hA
  rcases hA id hkept with he | hn
  · cases he
  · rcases (Bool.or_eq_true ..).mp hn with hp | hr
    · exact .inl hp
    · obtain ⟨e, he⟩ := Option.isSome_iff_exists.mp hr
      exact .inr ⟨e, Cache.read_eq_some.mpr ⟨he, httl e he⟩, hfiled id e he⟩

/-! ## The garage -/

def emptyGarage : World := { garage with base := { garage.base with parkingSessions := [] } }

theorem emptyGarage_filed : emptyGarage.EntriesFiled := fun _ _ h => by cases h

namespace Garage

def announcement : Request := .registerPreNotify ⟨token, "lot-1"⟩

def visit : Tid := .backend 1 (.entryWebhook ownEntry)

/-- The car is announced, and its entry webhook is about to commit a session. -/
def arriving : List Event :=
  request 0 announcement 5 ++ request 1 (.entryWebhook ownEntry) 5

/-- Whether a run in which the webhook creates session 1 ends as `q` says. -/
def visitRun (π : Policy Op PyError World Tid Start Env) [π.Computable] (ls : List Event)
    (q : Config Op PyError Reply World Tid → Bool) : Bool :=
  ((carPayIn plainRuntime).run π arriving (boot emptyGarage)).any fun c₁ =>
    admits π (.call visit .answered) c₁ && (c₁.state.base.getSessionById 1).isNone &&
      ((carPayIn plainRuntime).advance (.call visit .answered) c₁).any fun c₂ =>
        (c₂.state.base.getSessionById 1).isSome && ((carPayIn plainRuntime).run π ls c₂).any fun c =>
          (c.pool visit).result?.isSome && q c

theorem exists_visit {π : Policy Op PyError World Tid Start Env} [π.Computable] {ls : List Event}
    {q : Config Op PyError Reply World Tid → Bool} (h : visitRun π ls q = true) : ∃ c₁ c₂ c r,
      (carPayIn plainRuntime).Reachable π World.EntriesFiled c₁ ∧
        Creates plainRuntime π visit 1 c₁ c₂ ∧ (carPayIn plainRuntime).Later π c₂ c ∧
          c.pool visit = .ended r ∧ q c = true := by
  obtain ⟨c₁, h₁, h⟩ := (carPayIn plainRuntime).exists_of_run h emptyGarage_filed
  obtain ⟨hbefore, h⟩ := (Bool.and_eq_true ..).mp h
  obtain ⟨hadmits, hnone⟩ := (Bool.and_eq_true ..).mp hbefore
  obtain ⟨c₂, ha, h⟩ := (Option.any_eq_true ..).mp h
  obtain ⟨hsome, h⟩ := (Bool.and_eq_true ..).mp h
  obtain ⟨c, hr, h⟩ := (Option.any_eq_true ..).mp h
  obtain ⟨hended, hq⟩ := (Bool.and_eq_true ..).mp h
  obtain ⟨r, hended⟩ := Option.isSome_iff_exists.mp hended
  have hcreates : Creates plainRuntime π visit 1 c₁ c₂ :=
    ⟨.answered, permits_of_admits hadmits, ha, Option.isNone_iff_eq_none.mp hnone,
      Option.isSome_iff_ne_none.mp hsome⟩
  exact ⟨c₁, c₂, c, r, h₁, hcreates, (carPayIn plainRuntime).later_of_run ls hr,
    Thread.result?_eq_some.mp hended, hq⟩

def unpublished : List Event :=
  [.call visit .answered, .call visit (.refused (.runtimeError "mqtt_publish_failed")),
    .call visit .answered]

/-- Redis fails after the commit, and the webhook comes again. -/
def undeleted : List Event :=
  .call visit (.refused (.runtimeError "redis_unavailable")) :: request 2 (.entryWebhook ownEntry) 2

end Garage

/-- What was not published is recorded for the retry worker. -/
theorem entry_noticed_garage : ∃ c r, (carPayIn plainRuntime).Reachable noticePolicy
    World.EntriesFiled c ∧ c.pool Garage.visit = .ended r ∧ c.state.base.published 1 = false ∧
      ∃ e, c.state.base.entryRetries.read c.state.base.now 1 = some e := by
  have hrun : Garage.visitRun noticePolicy Garage.unpublished (fun c => !c.state.base.published 1 &&
      (c.state.base.entryRetries 1).all (·.live c.state.base.now)) = true := by
    decide +kernel
  obtain ⟨c₁, c₂, c, r, h₁, hcreates, hl, hended, h⟩ := Garage.exists_visit hrun
  obtain ⟨hpub, hlive⟩ := (Bool.and_eq_true ..).mp h
  have hpub : c.state.base.published 1 = false := by simpa using hpub
  have httl : ∀ e, c.state.base.entryRetries 1 = some e → e.live c.state.base.now = true := by
    intro e he
    simpa [he] using hlive
  have hc₂ : (carPayIn plainRuntime).Reachable noticePolicy World.EntriesFiled c₂ := by
    obtain ⟨m, hp, ha, -⟩ := hcreates
    exact .step _ h₁ hp ha
  refine ⟨c, r, hl.reachable _ hc₂, hended, hpub, ?_⟩
  rcases entry_noticed plainRuntime h₁ hcreates hl hended httl with hp | ⟨e, he, -⟩
  · rw [hpub] at hp
    cases hp
  · exact ⟨e, he⟩

/-- Redis fails between the commit and the notification, and the webhook that
comes again is answered from the session. -/
theorem entry_notification_lost : ¬∀ rt c₁ c₂ c t id r,
    (carPayIn rt).Reachable Policy.any World.EntriesFiled c₁ → Creates rt Policy.any t id c₁ c₂ →
      (carPayIn rt).Later Policy.any c₂ c → c.pool t = .ended r →
        (∀ e, c.state.base.entryRetries id = some e → e.live c.state.base.now = true) →
          c.state.base.published id = true ∨
            ∃ e, c.state.base.entryRetries.read c.state.base.now id = some e ∧
              e.value.sessionId = id := by
  intro h
  have hrun : Garage.visitRun Policy.any Garage.undeleted (fun c => !c.state.base.published 1 &&
      (c.state.base.entryRetries 1).isNone) = true := by
    decide +kernel
  obtain ⟨c₁, c₂, c, r, h₁, hcreates, hl, hended, hend⟩ := Garage.exists_visit hrun
  obtain ⟨hpub, hnone⟩ := (Bool.and_eq_true ..).mp hend
  have hnone := Option.isNone_iff_eq_none.mp hnone
  have httl : ∀ e, c.state.base.entryRetries 1 = some e → e.live c.state.base.now = true := by
    intro e he
    rw [hnone] at he
    cases he
  rcases h _ c₁ c₂ c _ 1 r h₁ hcreates hl hended httl with hp | ⟨e, he, -⟩
  · simp [hp] at hpub
  · rw [(Cache.read_eq_some.mp he).1] at hnone
    cases hnone

end CarPayIn
