import CarPayIn.Pms.Recording

/-! # Notifications under retry

The programs of the PMS meet the contract of recording, so that a notification
answered with success has left its session marked, whatever stopped, failed or
ran in between.
-/

namespace CarPayIn.Pms

open Process Process.System Store Pms.Service

variable {isIsoFormat : String → Bool} {t : Tid} {P : State → Prop} {id : String}

abbrev Meets (isIsoFormat : String → Bool) (t : Tid) {α : Type} (P : State → Prop) (p : Service α)
    (Q : Except PyError α → State → Prop) : Prop :=
  (pms isIsoFormat).Triple recordingPolicy contract t P p Q

/-! ## Single calls -/

theorem outcome_of_policy {α : Type} {op : Op α} {m : Mode PyError} {s s' : State}
    {r : Except PyError α} (hp : recordingPolicy.call t op m s)
    (ho : (pms isIsoFormat).outcome t op m s = some (r, s')) :
    (sameNotification t op s = true ∧ uninterrupted op s = true) ∧
      (s' = (s.exec isIsoFormat t op).2 ∨ s' = s) ∧
      ((r = (s.exec isIsoFormat t op).1 ∧ s' = (s.exec isIsoFormat t op).2) ∨
        ∃ e, r = .error e ∧ isLookupError e = false) := by
  simp only [retryPolicy, Bool.and_eq_true] at hp
  obtain ⟨⟨hm, hsame⟩, hu⟩ := hp
  refine ⟨⟨hsame, hu⟩, ?_⟩
  rcases (pms isIsoFormat).outcome_cases ho with
    ⟨rfl, he⟩ | ⟨e, rfl, rfl, rfl⟩ | ⟨e, r₀, rfl, rfl, he⟩
  · have he : s.exec isIsoFormat t op = (r, s') := Option.some.inj he
    simp [he]
  · exact ⟨.inr rfl, .inr ⟨e, rfl, by simpa [driverError] using hm⟩⟩
  · have he : s.exec isIsoFormat t op = (r₀, s') := Option.some.inj he
    exact ⟨.inl (by rw [he]), .inr ⟨e, rfl, by simpa [driverError] using hm⟩⟩

theorem write_outcome {op : Op Unit} {x : State → Except PyError State} {m : Mode PyError}
    {s s' : State} {r : Except PyError Unit}
    (hx : ∀ s : State, s.exec isIsoFormat t op = s.write (x s))
    (hp : recordingPolicy.call t op m s)
    (ho : (pms isIsoFormat).outcome t op m s = some (r, s')) :
    (s' = s ∧ ∃ e, r = .error e) ∨ x s = .ok s' := by
  obtain ⟨-, hstate, hresult⟩ := outcome_of_policy hp ho
  rw [hx s] at hstate hresult
  cases h : x s with
  | error e =>
      rw [h] at hstate hresult
      refine .inl ⟨hstate.elim id id, ?_⟩
      rcases hresult with ⟨hr, -⟩ | ⟨e', hr, -⟩
      · exact ⟨e, hr⟩
      · exact ⟨e', hr⟩
  | ok s₁ =>
      rw [h] at hstate hresult
      rcases hresult with ⟨-, hs⟩ | ⟨e, hr, -⟩
      · exact .inr (by rw [hs]; rfl)
      · rcases hstate with hs | hs
        · exact .inr (by rw [hs]; rfl)
        · exact .inl ⟨hs, e, hr⟩

/-- A plain call is a drift of the state, and what is stable survives it. -/
theorem plain_perform {α : Type} (op : Op α) (hop : Plain op) (hP : contract.Stable t P)
    {Q : Except PyError α → State → Prop}
    (h : ∀ s, P s → s.Recorded → sameNotification t op s = true → uninterrupted op s = true →
      P (s.exec isIsoFormat t op).2 →
        Q (s.exec isIsoFormat t op).1 (s.exec isIsoFormat t op).2)
    (he : ∀ e s, isLookupError e = false → P s → Q (.error e) s) :
    Meets isIsoFormat t P (call op) Q := by
  apply Triple.perform hP
  intro s m r s' hs hi hp ho
  obtain ⟨⟨hsame, hu⟩, hstate, hresult⟩ := outcome_of_policy hp ho
  have hd : Drift s s' := by
    rcases hstate with rfl | rfl
    · exact drift_plain op hop hu
    · exact .refl _
  have hP' : P s' := hP s s' ⟨hi, hd.recorded hi, .inr hd⟩ hs
  refine ⟨hd.step hi, ?_⟩
  rcases hresult with ⟨rfl, rfl⟩ | ⟨e, rfl, hne⟩
  · exact h s hs hi hsame hu hP'
  · exact he e s' hne hP'

theorem plain_call {α : Type} (op : Op α) (hop : Plain op) (hP : contract.Stable t P) :
    Meets isIsoFormat t P (call op) (fun _ => P) :=
  plain_perform op hop hP (fun _ _ _ _ _ h => h) fun _ _ _ h => h

theorem plain_bestEffort (op : Op Unit) (hop : Plain op) (hP : contract.Stable t P) :
    Meets isIsoFormat t P (bestEffort op) (fun _ => P) := by
  apply Triple.seq
  · exact Triple.attempt (plain_call op hop hP)
  · exact fun _ _ hs => hs
  · exact fun _ => .done fun _ hs => hs

/-- Opening the barrier ends a recording whose session is marked. -/
theorem openExit_step {s : State} (id : String)
    (h : ∀ p ∈ s.paymentRequests, p.insertedBy = t → s.Marked p.pmsSessionId) :
    Step t s (s.exec isIsoFormat t (.openExit id)).2 where
  keeps := .of_eq rfl fun _ _ h _ => h
  paymentRequests p hp := .inl hp
  committing t' ht := by simp [State.exec, ht]
  finished _ p hp hby := h p hp hby

theorem openExit_bestEffort (id : String) (hP : contract.Stable t P)
    (hm : ∀ s, P s → ∀ p ∈ s.paymentRequests, p.insertedBy = t → s.Marked p.pmsSessionId)
    (hexec : ∀ s, P s → P (s.exec isIsoFormat t (.openExit id)).2) :
    Meets isIsoFormat t P (bestEffort (.openExit id)) (fun _ => P) := by
  apply Triple.seq
  · apply Triple.attempt
    apply Triple.perform hP
    intro s m r s' hs hi hp ho
    obtain ⟨-, hstate, -⟩ := outcome_of_policy hp ho
    rcases hstate with rfl | rfl
    · exact ⟨openExit_step id (hm s hs), hexec s hs⟩
    · exact ⟨(Drift.refl _).step hi, hs⟩
  · exact fun _ _ hs => hs
  · exact fun _ => .done fun _ hs => hs

theorem free_openExit (id : String) :
    Meets isIsoFormat t (Free t) (bestEffort (.openExit id)) (fun _ => Free t) := by
  apply openExit_bestEffort id stable_free
  · intro s hs p hp hby
    exact (hs.2 p hp hby).elim
  · intro s hs
    refine ⟨fun hc => ?_, hs.2⟩
    exact hs.1 (List.mem_of_mem_filter hc)

/-! ## Entry and exit -/

theorem free_entry (c : HandleLprEntryCommand) :
    Meets isIsoFormat t (Free t) (HandleLprEntryService.execute c) (fun _ => Free t) := by
  apply Triple.seq
  · exact plain_bestEffort _ trivial stable_free
  · exact fun _ _ hs => hs
  intro _
  apply Triple.seq
  · exact plain_call _ trivial stable_free
  · exact fun _ _ hs => hs
  intro existing
  cases existing with
  | some existing => exact .done fun _ hs => hs
  | none =>
      apply Triple.seq
      · exact plain_call _ trivial stable_free
      · exact fun _ _ hs => hs
      intro n
      apply Triple.seq
      · exact plain_call _ trivial stable_free
      · exact fun _ _ hs => hs
      intro _
      apply Triple.seq
      · exact plain_call (.parkedCars (.set _ _ _)) trivial stable_free
      · exact fun _ _ hs => hs
      intro _
      apply Triple.seq
      · apply Triple.seq
        · apply Triple.seq
          · exact plain_call (.preRegistrations (.get _)) trivial stable_free
          · exact fun _ _ hs => hs
          · exact fun _ => .done fun _ hs => hs
        · exact fun _ _ hs => hs
        · intro registered
          split
          · apply Triple.seq
            · exact plain_call (.preRegistrations (.delete _)) trivial stable_free
            · exact fun _ _ hs => hs
            · exact fun _ => plain_bestEffort _ trivial stable_free
          · exact .done fun _ hs => hs
      · exact fun _ _ hs => hs
      · exact fun _ => .done fun _ hs => hs

theorem free_openAndExit (id : String) (c : HandleLprExitCommand) (fromRedis : Bool) :
    Meets isIsoFormat t (Free t) (HandleLprExitService.openAndExit id c fromRedis)
      (fun _ => Free t) := by
  apply Triple.seq
  · exact free_openExit id
  · exact fun _ _ hs => hs
  intro _
  have hexit : Meets isIsoFormat t (Free t)
      (do call (.markExited id); return (⟨.opened, some id⟩ : HandleLprExitResult))
      (fun _ => Free t) := by
    apply Triple.seq
    · exact plain_call _ trivial stable_free
    · exact fun _ _ hs => hs
    · exact fun _ => .done fun _ hs => hs
  cases fromRedis with
  | false => exact hexit
  | true =>
      apply Triple.seq
      · exact plain_call (.parkedCars (.delete _)) trivial stable_free
      · exact fun _ _ hs => hs
      · exact fun _ => hexit

theorem free_exit (c : HandleLprExitCommand) :
    Meets isIsoFormat t (Free t) (HandleLprExitService.execute c) (fun _ => Free t) := by
  apply Triple.seq
  · exact plain_call (.parkedCars (.get _)) trivial stable_free
  · exact fun _ _ hs => hs
  intro cached
  cases cached with
  | some car =>
      dsimp only
      split
      · exact free_openAndExit _ c true
      · exact .done fun _ hs => hs
  | none =>
      apply Triple.seq
      · exact plain_call _ trivial stable_free
      · exact fun _ _ hs => hs
      intro session
      cases session with
      | some row => exact free_openAndExit _ c false
      | none => exact .done fun _ hs => hs

/-! ## Payment -/

/-- The session with this id is at this lot and plate, and no longer active if `settled`. -/
def Located (settled : Bool) (id lotId plate : String) (s : State) : Prop :=
  ∃ r, s.getSessionById id = some r ∧ r.lotId = lotId ∧ r.plate = plate ∧
    (settled = true → State.Settled r.status)

theorem stable_located {settled : Bool} {lotId plate : String} :
    contract.Stable t (Located settled id lotId plate) := by
  apply stable_of_keeps
  intro s s' h hl
  obtain ⟨r, hr, hlot, hplate, hst⟩ := hl
  obtain ⟨r', hr', hf⟩ := h.sessions id r hr
  exact ⟨r', hr', hf.lotId.trans hlot, hf.plate.trans hplate, fun he => hf.settled (hst he)⟩

def Known (id : String) (s : State) : Prop := ∃ r, s.getSessionById id = some r

theorem stable_known : contract.Stable t (Known id) := by
  apply stable_of_keeps
  intro s s' h hk
  obtain ⟨r, hr⟩ := hk
  obtain ⟨r', hr', -⟩ := h.sessions id r hr
  exact ⟨r', hr'⟩

theorem Free.recordsOnly {s : State} (h : Free t s) (id : String) : RecordsOnly t id s :=
  fun p hp hby => (h.2 p hp hby).elim

section
variable {signed : Bool} {c : RecordPaymentCompleteCommand}

theorem lookup_call (ht : t.request = .paymentComplete signed c) :
    Meets isIsoFormat t (Free t) (call (.getByIdempotencyKey c.idempotencyKey))
      (fun r s => Free t s ∧ ∀ p, r = .ok (some p) →
        p.status = .success ∧ s.Marked c.pmsSessionId) := by
  apply plain_perform (.getByIdempotencyKey c.idempotencyKey) trivial stable_free
  · intro s hs hi hsame hu _
    refine ⟨hs, fun p hp => ?_⟩
    have hfound : s.getByIdempotencyKey c.idempotencyKey = some p := by
      simpa [State.exec] using hp
    have hmem := mem_of_get? hfound
    have hkey : p.idempotencyKey = c.idempotencyKey := col_of_get? hfound
    simp only [sameNotification, ht, List.all_eq_true] at hsame
    simp only [uninterrupted, List.all_eq_true] at hu
    have hid : p.pmsSessionId = c.pmsSessionId := by simpa [hkey] using hsame p hmem
    have hby : p.insertedBy ∉ s.committing := by simpa [hkey] using hu p hmem
    exact ⟨hi.success p hmem, hid ▸ hi.marked p hmem hby⟩
  · exact fun e s _ hs => ⟨hs, fun p hp => by cases hp⟩

theorem savePaymentRequest_call (ht : t.request = .paymentComplete signed c) :
    Meets isIsoFormat t (Free t) (RecordPaymentCompleteService.savePaymentRequest c)
      (fun r s => r = .ok () → RecordsOnly t c.pmsSessionId s ∧ Known c.pmsSessionId s) := by
  apply Triple.bind (M := fun existing s => Free t s ∧
    ∀ p, existing = some p → s.Marked c.pmsSessionId)
  · apply Triple.conseq (lookup_call ht) (fun _ hs => hs)
    intro r s hs
    cases r with
    | ok existing => exact ⟨hs.1, fun p hp => (hs.2 p (by rw [hp])).2⟩
    | error e => exact fun h => by cases h
  intro existing
  cases existing with
  | some p =>
      apply Triple.done
      intro s hs _
      obtain ⟨r, hr, -⟩ := hs.2 p rfl
      exact ⟨hs.1.recordsOnly _, r, hr⟩
  | none =>
      apply Triple.bind (M := fun _ s => Free t s)
      · apply Triple.conseq (plain_call .now trivial stable_free) (fun _ hs => hs.1)
        intro r s hs
        cases r with
        | ok _ => exact hs
        | error e => exact fun h => by cases h
      intro completedAt
      apply Triple.perform stable_free
      intro s m r s' hs hi hp ho
      let row : PaymentRequest := ⟨c.pmsSessionId, c.carpaySessionId, c.txId, c.amount, c.currency,
        .success, c.idempotencyKey, c.approvalNo, completedAt, t⟩
      rcases write_outcome (x := fun s => s.insertPaymentRequest row) (fun _ => rfl) hp ho with
        ⟨rfl, e, rfl⟩ | hx
      · exact ⟨(Drift.refl s').step hi, fun h => by cases h⟩
      · obtain ⟨hstep, hrows, hknown⟩ := insertPaymentRequest_step rfl rfl hx
        refine ⟨hstep, fun _ => ⟨fun p hmem hby => ?_, hknown⟩⟩
        rw [hrows] at hmem
        rcases List.mem_cons.mp hmem with rfl | hmem
        · rfl
        · exact (hs.2 p hmem hby).elim

theorem Located.marked {s : State} {lotId plate : String} (h : Located true id lotId plate s)
    (hrec : ∀ car, s.seen (RedisParkingSessionStore.key lotId plate) = some car →
      car.status = .paid) : s.Marked id := by
  obtain ⟨r, hr, rfl, rfl, hst⟩ := h
  exact ⟨r, hr, hst rfl, fun car hcar _ => hrec car hcar⟩

/-- Without a record there is nothing to mark, and the one that is written says `paid`. -/
theorem updateStatus_call (id lotId plate : String) :
    Meets isIsoFormat t (fun s => RecordsOnly t id s ∧ Located true id lotId plate s)
      (RedisParkingSessionStore.updateStatus lotId plate .paid)
      (fun r s => match r with
        | .ok _ => RecordsOnly t id s ∧ s.Marked id
        | .error e => isLookupError e = false) := by
  have hstable : contract.Stable t fun s => RecordsOnly t id s ∧ Located true id lotId plate s :=
    stable_recordsOnly.and stable_located
  apply Triple.bind (M := fun payload s =>
    (RecordsOnly t id s ∧ Located true id lotId plate s) ∧ (payload = none → s.Marked id))
  · apply plain_perform (.parkedCars (.get (RedisParkingSessionStore.key lotId plate))) trivial hstable
    · intro s _ _ _ _ hs'
      refine ⟨hs', fun hnone => hs'.2.marked fun car hcar => ?_⟩
      cases hnone.symm.trans hcar
    · exact fun e s he _ => he
  intro payload
  cases payload with
  | none => exact .done fun s hs => ⟨hs.1.1, hs.2 rfl⟩
  | some car =>
      apply Triple.bind (M := fun _ s => RecordsOnly t id s ∧ Located true id lotId plate s)
      · apply Triple.conseq (P := fun s => RecordsOnly t id s ∧ Located true id lotId plate s) _
          (fun _ hs => hs.1) (fun _ _ h => h)
        refine plain_perform _ ?_ hstable ?_ ?_
        · exact trivial
        · exact fun _ _ _ _ _ h => h
        · exact fun _ _ he _ => he
      intro ttl
      refine plain_perform _ ?_ hstable ?_ ?_
      · exact trivial
      · intro s _ _ _ _ hs'
        refine ⟨hs'.1, hs'.2.marked fun car' hcar => ?_⟩
        obtain ⟨e, he, rfl⟩ := State.seen_eq_some hcar
        simp only [State.exec, Cache.exec, Function.update_self, Option.some.injEq] at he
        rw [← he]
      · exact fun e s he _ => he

/-- The only lookup error of marking a session would be that it does not exist. -/
theorem markSession_call (id : String) :
    Meets isIsoFormat t (fun s => RecordsOnly t id s ∧ Known id s)
      (RecordPaymentCompleteService.markSession id)
      (fun r s => match r with
        | .ok _ => RecordsOnly t id s ∧ s.Marked id
        | .error e => isLookupError e = false) := by
  apply Triple.bind (M := fun session s => RecordsOnly t id s ∧
    ∃ r, session = some r ∧ Located false id r.lotId r.plate s)
  · apply plain_perform (.getSessionById id) trivial (stable_recordsOnly.and stable_known)
    · intro s hs _ _ _ _
      obtain ⟨r, hr⟩ := hs.2
      exact ⟨hs.1, r, hr, r, hr, rfl, rfl, fun h => by cases h⟩
    · exact fun e s he _ => he
  intro session
  cases session with
  | none => exact fun s hs => by obtain ⟨-, r, hr, -⟩ := hs; cases hr
  | some session =>
      apply Triple.bind (M := fun _ s => RecordsOnly t id s ∧
        Located true id session.lotId session.plate s)
      · apply Triple.conseq (P := fun s => RecordsOnly t id s ∧
          Located false id session.lotId session.plate s) _ _ (fun _ _ h => h)
        · apply plain_perform (.markPaid id) trivial (stable_recordsOnly.and stable_located)
          · intro s hs _ _ _ hs'
            obtain ⟨r, hr, hlot, hplate, -⟩ := hs.2
            have hpaid : s.markPaid id = .ok (s.setSession id fun r => { r with status := .paid }) := by
              simp [State.markPaid, hr]
            simp only [State.exec, hpaid, State.write] at hs' ⊢
            refine ⟨hs'.1, { r with status := .paid }, ?_, hlot, hplate, fun _ => .inl rfl⟩
            rw [State.getSessionById_setSession (f := fun r => { r with status := .paid }) fun _ => rfl]
            simp [hr]
          · exact fun e s he _ => he
        · intro s hs
          obtain ⟨hro, r, hr, hl⟩ := hs
          cases hr
          exact ⟨hro, hl⟩
      intro _
      exact updateStatus_call id session.lotId session.plate

/-- An answer of success comes from this execution's own marks or from a
payment request whose session is marked. -/
theorem payment_triple (ht : t.request = .paymentComplete signed c) :
    Meets isIsoFormat t (Free t) (RecordPaymentCompleteService.route signed c)
      (fun r s => r = .ok .success → s.Marked c.pmsSessionId) := by
  unfold RecordPaymentCompleteService.route
  split
  · exact .done fun _ _ h => by cases h
  apply Triple.bind (M := fun existing s => Free t s ∧
    ∀ p, existing = some p → s.Marked c.pmsSessionId)
  · apply Triple.conseq (lookup_call ht) (fun _ hs => hs)
    intro r s hs
    cases r with
    | ok existing => exact ⟨hs.1, fun p hp => (hs.2 p (by rw [hp])).2⟩
    | error e => exact fun h => by cases h
  intro existing
  cases existing with
  | some p => exact .done fun s hs _ => hs.2 p rfl
  | none =>
      apply Triple.bind (M := fun _ s => RecordsOnly t c.pmsSessionId s ∧ Known c.pmsSessionId s)
      · apply Triple.conseq (savePaymentRequest_call ht) (fun _ hs => hs.1)
        intro r s hs
        cases r with
        | ok _ => exact hs rfl
        | error e => exact fun h => by cases h
      intro _
      have hstable : contract.Stable t fun s => RecordsOnly t c.pmsSessionId s ∧
        s.Marked c.pmsSessionId := stable_recordsOnly.and stable_marked
      apply Triple.bind (M := fun _ s => RecordsOnly t c.pmsSessionId s ∧ s.Marked c.pmsSessionId)
      · apply Triple.tryCatch (M := fun e _ => isLookupError e = false)
        · apply Triple.conseq (markSession_call c.pmsSessionId) (fun _ hs => hs)
          intro r s hs
          cases r with
          | ok _ => exact hs
          | error e => exact hs
        · intro e
          cases e with
          | lookupError | keyError => exact fun s he => by cases he
          | _ => exact .done fun s _ h => by cases h
      intro _
      apply Triple.bind (M := fun _ s => RecordsOnly t c.pmsSessionId s ∧ s.Marked c.pmsSessionId)
      · apply Triple.conseq (openExit_bestEffort c.pmsSessionId hstable _ fun _ hs => hs)
          (fun _ hs => hs)
        · intro r s hs
          cases r with
          | ok _ => exact hs
          | error e => exact fun h => by cases h
        · intro s hs p hp hby
          rw [hs.1 p hp hby]
          exact hs.2
      · exact fun _ => .done fun s hs _ => hs.2

end

/-! ## Runs -/

def outline : Outline PyError Reply State Tid where
  idle := Free
  ended t r s := match t.request, r with
    | .paymentComplete _ c, .ok (.recorded .success) => s.Marked c.pmsSessionId
    | _, _ => True
  stopped _ _ := True

theorem program_triple (t : Tid) :
    Meets isIsoFormat t (Free t) (program t.request) (outline.ended t) := by
  cases ht : t.request with
  | preRegister c =>
      apply Triple.map
      apply Triple.conseq (plain_call _ _ stable_free) (fun _ hs => hs)
      · intro r s _
        simp [outline, ht]
      · exact trivial
  | lprEntry c =>
      apply Triple.map
      apply Triple.conseq (free_entry c) (fun _ hs => hs)
      intro r s _
      simp [outline, ht]
  | lprExit c =>
      apply Triple.map
      apply Triple.conseq (free_exit c) (fun _ hs => hs)
      intro r s _
      simp [outline, ht]
  | paymentComplete signed c =>
      apply Triple.map
      apply Triple.conseq (payment_triple ht) (fun _ hs => hs)
      intro r s hs
      simp only [outline, ht]
      split
      · rename_i hc hr
        cases hc
        cases r with
        | ok status =>
            cases hr
            exact hs rfl
        | error e => cases hr
      · trivial

namespace Lot

def repeated : List (Label PyError Tid Tid Env) :=
  .start entry :: answers entry 6 ++ .start (payment 1 "key-0") :: answers (payment 1 "key-0") 10 ++
    .start (payment 2 "key-0") :: answers (payment 2 "key-0") 1

end Lot

end CarPayIn.Pms
