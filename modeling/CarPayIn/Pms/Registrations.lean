import CarPayIn.Pms.ParkedCars
import CarPayIn.Process.History
import CarPayIn.Process.Timeline

/-! # What becomes of a pre-registration

An entry consumes the pre-registration of its lot and plate and then makes one
attempt to report the session it has created. Only an entry takes a
pre-registration away before its time, and one whose own two calls go through
has reported the car.
-/

namespace CarPayIn.Pms

open Process Process.System Store Pms.Service

variable {isIsoFormat : String → Bool} {t : Tid} {s s' : State} {key : String} {α : Type}

/-! ## Who has consumed which pre-registration -/

abbrev Consumptions := List (Tid × String)

def consumed? {β : Type} : Op β → Option String
  | .preRegistrations (.delete key) => some key
  | _ => none

def consumptions (t : Tid) {β : Type} (op : Op β) (_ : Except PyError β) (_ : State)
    (g : Consumptions) : Consumptions :=
  (consumed? op).toList.map (t, ·) ++ g

theorem consumptions_of_other {β : Type} {op : Op β} (h : consumed? op = none)
    (r : Except PyError β) (s : State) (g : Consumptions) : consumptions t op r s g = g := by
  simp [consumptions, h]

theorem mem_consumptions {β : Type} {op : Op β} {r : Except PyError β} {t' : Tid}
    {g : Consumptions} : (t', key) ∈ consumptions t op r s g ↔
      (t' = t ∧ consumed? op = some key) ∨ (t', key) ∈ g := by
  simp [consumptions, Prod.ext_iff, and_comm, eq_comm]

/-- The entry of this lot and plate. -/
def Owns (t : Tid) (key : String) : Prop :=
  ∃ command, t.request = .lprEntry command ∧
    key = RedisPreRegistrationStore.key command.lotId command.plate

/-- Calls on pre-registrations and on the backend. -/
def isReport {β : Type} : Op β → Bool
  | .preRegistrations _ | .sendEntryWebhook _ => true
  | _ => false

theorem exec_of_other {β : Type} {op : Op β} (h : isReport op = false) :
    (s.exec isIsoFormat t op).2.preRegistrations = s.preRegistrations ∧
      (s.exec isIsoFormat t op).2.entryWebhooks = s.entryWebhooks := by
  have hwrite : ∀ x : Except PyError State, (∀ s', x = .ok s' →
      s'.preRegistrations = s.preRegistrations ∧ s'.entryWebhooks = s.entryWebhooks) →
        (s.write x).2.preRegistrations = s.preRegistrations ∧
          (s.write x).2.entryWebhooks = s.entryWebhooks := by
    intro x hx
    cases x with
    | ok s' => exact hx s' rfl
    | error e => exact ⟨rfl, rfl⟩
  cases op with
  | preRegistrations op => cases h
  | sendEntryWebhook w => cases h
  | createSession id lotId plate entryTime =>
      apply hwrite
      intro s' hs
      unfold State.createSession at hs
      split_ifs at hs
      cases hs
      exact ⟨rfl, rfl⟩
  | insertPaymentRequest row =>
      apply hwrite
      intro s' hs
      unfold State.insertPaymentRequest at hs
      split_ifs at hs
      cases hs
      exact ⟨rfl, rfl⟩
  | markPaid id =>
      apply hwrite
      intro s' hs
      unfold State.markPaid at hs
      split at hs
      · cases hs
      · cases hs
        exact ⟨rfl, rfl⟩
  | markExited id =>
      apply hwrite
      intro s' hs
      unfold State.markExited at hs
      split at hs
      · cases hs
      · cases hs
        exact ⟨rfl, rfl⟩
  | _ => exact ⟨rfl, rfl⟩

/-- Only a deletion makes a pre-registration disappear. -/
theorem mem_consumptions_of_gone {β : Type} {op : Op β} (hold : s.preRegistrations key ≠ none)
    (hgone : (s.exec isIsoFormat t op).2.preRegistrations key = none) (r : Except PyError β)
    (g : Consumptions) : (t, key) ∈ consumptions t op r s g := by
  have hkept (h : (s.exec isIsoFormat t op).2.preRegistrations = s.preRegistrations) :
      (t, key) ∈ consumptions t op r s g := by
    rw [h] at hgone
    exact (hold hgone).elim
  cases hop : isReport op with
  | false => exact hkept (exec_of_other hop).1
  | true =>
      cases op with
      | sendEntryWebhook w => exact hkept rfl
      | preRegistrations op =>
          cases op with
          | get key' => exact hkept rfl
          | ttl key' => exact hkept rfl
          | delete key' =>
              have hkey : key = key' := by
                by_contra hne
                apply hold
                simpa [State.exec, Cache.exec, Function.update_of_ne hne] using hgone
              rw [hkey]
              exact mem_consumptions.mpr (.inl ⟨rfl, rfl⟩)
          | set key' value ex =>
              by_cases hkey : key = key'
              · simp [State.exec, Cache.exec, hkey] at hgone
              · refine (hold ?_).elim
                simpa [State.exec, Cache.exec, Function.update_of_ne hkey] using hgone
      | _ => cases hop

theorem entryWebhooks_exec {β : Type} (op : Op β) :
    s.entryWebhooks ⊆ (s.exec isIsoFormat t op).2.entryWebhooks := by
  cases hop : isReport op with
  | false =>
      rw [(exec_of_other hop).2]
      exact fun _ h => h
  | true =>
      cases op with
      | sendEntryWebhook w => exact List.subset_cons_self w _
      | preRegistrations op => exact fun _ h => h
      | _ => cases hop

/-! ## The condition -/

/-- The report of an entry is not accepted, or the deletion before it raises
although it has taken effect. -/
def reportFails {β : Type} (op : Op β) (m : Mode PyError) : Bool :=
  match op, m with
  | .sendEntryWebhook _, .refused _ => true
  | .preRegistrations (.delete _), .lost _ => true
  | _, _ => false

/-- Redis keeps the pre-registrations, and the reports of the steady executions
do not fail; nothing else is assumed of them, and nothing of the others. -/
def reportPolicy (steady : Tid → Bool) : Policy Op PyError State Tid Tid Env where
  start _ _ := True
  call t _ op m _ := (steady t && reportFails op m) = false
  crash _ _ := True
  environment x _ := match x with
    | .losePreRegistration _ => False
    | _ => True

instance (steady : Tid → Bool) : (reportPolicy steady).Computable where
  start _ _ := .isTrue trivial
  call _ _ _ _ _ := inferInstanceAs (Decidable (_ = false))
  crash _ _ := .isTrue trivial
  environment x _ := match x with
    | .losePreRegistration _ => .isFalse id
    | .tick _ | .loseParkedCar _ => .isTrue trivial

variable {steady : Tid → Bool}

/-! ## The contract -/

/-- Accepted webhooks stay accepted, and an execution consumes only what it owns. -/
def reporting : Contract (State × Consumptions) Tid where
  invariant s := ∀ t key, (t, key) ∈ s.2 → Owns t key
  guarantee t s s' := s.1.entryWebhooks ⊆ s'.1.entryWebhooks ∧ s.2 ⊆ s'.2 ∧
    ∀ t' key, (t', key) ∈ s'.2 → (t', key) ∈ s.2 ∨ (t' = t ∧ Owns t key)
  environment s s' := s'.1.entryWebhooks = s.1.entryWebhooks ∧ s'.2 = s.2

def Unconsumed (t : Tid) (s : State × Consumptions) : Prop := ∀ key, (t, key) ∉ s.2

theorem mem_of_interferes {s s' : State × Consumptions} (hi : reporting.Interferes t s s')
    (h : (t, key) ∈ s'.2) : (t, key) ∈ s.2 := by
  rcases hi.2.2 with ⟨t', hne, -, -, hadded⟩ | ⟨-, hg⟩
  · rcases hadded t key h with hold | ⟨he, -⟩
    · exact hold
    · exact (hne he.symm).elim
  · exact hg ▸ h

theorem stable_unconsumed : reporting.Stable t (Unconsumed t) :=
  fun _ _ hi h key hkey => h key (mem_of_interferes hi hkey)

theorem stable_accepted (w : EntryWebhook) : reporting.Stable t fun s => w ∈ s.1.entryWebhooks := by
  rintro s s' ⟨-, -, hi⟩ h
  rcases hi with ⟨t', -, hsub, -⟩ | ⟨hsame, -⟩
  · exact hsub h
  · exact hsame ▸ h

/-! ## The calls -/

abbrev reported (isIsoFormat : String → Bool) :
    System Op PyError Reply (State × Consumptions) Tid Tid Env :=
  (pms isIsoFormat).withHistory consumptions

abbrev Reporting (isIsoFormat : String → Bool) (steady : Tid → Bool) (t : Tid)
    (P : State × Consumptions → Prop) (p : Service α)
    (Q : Except PyError α → State × Consumptions → Prop) : Prop :=
  (reported isIsoFormat).Triple (reportPolicy steady).withHistory reporting t P p Q

theorem outcome_reporting {op : Op α} (hown : ∀ key, consumed? op = some key → Owns t key)
    {m : Mode PyError} {r : Except PyError α} {s s' : State × Consumptions}
    (ho : (reported isIsoFormat).outcome t op m s = some (r, s')) :
    reporting.guarantee t s s' := by
  have hexec : ∀ r₀, (pms isIsoFormat).exec t op s.1 = some (r₀, s'.1) →
      s'.2 = consumptions t op r₀ s.1 s.2 → reporting.guarantee t s s' := by
    intro r₀ he hg
    refine ⟨?_, fun x hx => ?_, fun t' key hkey => ?_⟩
    · rw [← show (s.1.exec isIsoFormat t op).2 = s'.1 from congrArg Prod.snd (Option.some.inj he)]
      exact entryWebhooks_exec op
    · rw [hg]
      exact mem_consumptions.mpr (.inr hx)
    · rw [hg] at hkey
      rcases mem_consumptions.mp hkey with ⟨ht, hop⟩ | hold
      · exact .inr ⟨ht, hown key hop⟩
      · exact .inl hold
  rcases history_cases ho with ⟨-, he, hg⟩ | ⟨e, -, -, hs, hg⟩ | ⟨e, r₀, -, -, he, hg⟩
  · exact hexec r he hg
  · refine ⟨by rw [hs]; exact fun _ h => h, by rw [hg]; exact fun _ h => h, ?_⟩
    rw [hg]
    exact fun _ _ h => .inl h
  · exact hexec r₀ he hg

abbrev Unconsuming (p : Service α) : Prop := p.Calls fun op => consumed? op = none

theorem call_unconsuming {op : Op α} (h : consumed? op = none) : Unconsuming (call op) :=
  ⟨h, fun _ => trivial⟩

theorem bestEffort_unconsuming {op : Op Unit} (h : consumed? op = none) :
    Unconsuming (bestEffort op) :=
  (call_unconsuming h).attempt.bind fun _ => trivial

theorem unconsuming_calls {p : Service α} (hp : Unconsuming p) :
    Reporting isIsoFormat steady t (Unconsumed t) p (fun _ => Unconsumed t) := by
  apply Triple.calls ?_ stable_unconsumed
  apply Program.Calls.mono hp
  intro β op hop s m r s' hs _ _ ho _
  refine ⟨outcome_reporting (fun key h => by rw [hop] at h; cases h) ho, ?_⟩
  have hg : s'.2 = s.2 := by
    rcases history_cases ho with ⟨-, -, hg⟩ | ⟨e, -, -, -, hg⟩ | ⟨e, r₀, -, -, -, hg⟩
    · rw [hg, consumptions_of_other hop]
    · exact hg
    · rw [hg, consumptions_of_other hop]
  unfold Unconsumed
  rwa [hg]

theorem consume_reporting {lotId plate : String}
    (hown : Owns t (RedisPreRegistrationStore.key lotId plate)) :
    Reporting isIsoFormat steady t (Unconsumed t)
      (RedisPreRegistrationStore.consumePreRegistration lotId plate) (fun r s =>
        ∀ e, r = .error e → steady t = true → Unconsumed t s) := by
  apply Triple.perform stable_unconsumed
  intro s m r s' hs _ hpol ho
  refine ⟨outcome_reporting (fun key h => ?_) ho, ?_⟩
  · cases h
    exact hown
  rcases history_cases ho with ⟨-, he, hg⟩ | ⟨e, -, -, -, hg⟩ | ⟨e, r₀, rfl, -, -, -⟩
  · intro e hr
    have hok : r = .ok () := (congrArg Prod.fst (Option.some.inj he)).symm
    rw [hok] at hr
    cases hr
  · intro _ _ _
    unfold Unconsumed
    rwa [hg]
  · intro _ _ hsteady
    have hsafe : (steady t && true) = false := hpol
    simp [hsteady] at hsafe

theorem sendEntryWebhook_reporting (w : EntryWebhook) :
    Reporting isIsoFormat steady t (fun _ => True) (bestEffort (.sendEntryWebhook w))
      (fun r s => r = .ok () ∧ (steady t = true → w ∈ s.1.entryWebhooks)) := by
  apply Triple.bind (M := fun _ s => steady t = true → w ∈ s.1.entryWebhooks)
  · apply Triple.attempt
    apply Triple.perform (.const True)
    intro s m r s' _ _ hpol ho
    refine ⟨outcome_reporting (fun key h => by cases h) ho, fun hsteady => ?_⟩
    have haccepted : ∀ r₀, (pms isIsoFormat).exec t (.sendEntryWebhook w) s.1 = some (r₀, s'.1) →
        w ∈ s'.1.entryWebhooks := by
      intro r₀ he
      rw [← show _ = s'.1 from congrArg Prod.snd (Option.some.inj he)]
      exact .head _
    rcases history_cases ho with ⟨-, he, -⟩ | ⟨e, rfl, -, -, -⟩ | ⟨e, r₀, -, -, he, -⟩
    · exact haccepted _ he
    · have hsafe : (steady t && true) = false := hpol
      simp [hsteady] at hsafe
    · exact haccepted _ he
  · exact fun _ => .done fun s hs => ⟨rfl, hs⟩

/-! ## The programs -/

/-- A steady entry that has consumed a pre-registration has reported its session. -/
def Reported (steady : Tid → Bool) (t : Tid) (command : HandleLprEntryCommand)
    (r : Except PyError HandleLprEntryResult) (s : State × Consumptions) : Prop :=
  ∀ key, (t, key) ∈ s.2 → steady t = true → ∃ id, r = .ok ⟨.created, id⟩ ∧
    ⟨id, command.lotId, command.plate, command.entryTime⟩ ∈ s.1.entryWebhooks

theorem reported_of_unconsumed {command : HandleLprEntryCommand}
    {r : Except PyError HandleLprEntryResult} {s : State × Consumptions} (h : Unconsumed t s) :
    Reported steady t command r s := fun key hkey => (h key hkey).elim

theorem notifyEntry_reporting (id : String) {command : HandleLprEntryCommand}
    (ht : t.request = .lprEntry command) :
    Reporting isIsoFormat steady t (Unconsumed t)
      (HandleLprEntryService.notifyEntry id command) (fun r s => match r with
        | .ok _ => Reported steady t command (.ok ⟨.created, id⟩) s
        | .error e => Reported steady t command (.error e) s) := by
  unfold HandleLprEntryService.notifyEntry
  apply Triple.bind (M := fun _ => Unconsumed t)
  · apply Triple.conseq (unconsuming_calls ?_) (fun _ h => h)
    · intro r s hs
      cases r with
      | ok found => exact hs
      | error e => exact reported_of_unconsumed hs
    · exact (call_unconsuming rfl).bind fun _ => trivial
  intro found
  split
  · apply Triple.bind (M := fun _ _ => True)
    · apply Triple.conseq (consume_reporting ⟨command, ht, rfl⟩) (fun _ h => h)
      intro r s hs
      cases r with
      | ok u => trivial
      | error e => exact fun key hkey hsteady => (hs e rfl hsteady key hkey).elim
    · intro _
      apply Triple.conseq (sendEntryWebhook_reporting _) (fun _ h => h)
      intro r s ⟨hr, haccepted⟩
      subst hr
      exact fun key hkey hsteady => ⟨id, rfl, haccepted hsteady⟩
  · exact .done fun s hs => reported_of_unconsumed hs

theorem lprEntry_reporting {command : HandleLprEntryCommand} (ht : t.request = .lprEntry command) :
    Reporting isIsoFormat steady t (Unconsumed t) (HandleLprEntryService.execute command)
      (Reported steady t command) := by
  have hraise : ∀ (e : PyError) (s : State × Consumptions), Unconsumed t s →
      Reported steady t command (.error e) s := fun _ _ h => reported_of_unconsumed h
  unfold HandleLprEntryService.execute
  apply Triple.seq
  · exact unconsuming_calls (bestEffort_unconsuming rfl)
  · exact hraise
  intro _
  apply Triple.seq
  · exact unconsuming_calls (call_unconsuming rfl)
  · exact hraise
  intro existing
  cases existing with
  | some existing => exact .done fun s hs => reported_of_unconsumed hs
  | none =>
      apply Triple.seq
      · exact unconsuming_calls (call_unconsuming rfl)
      · exact hraise
      intro n
      apply Triple.seq
      · exact unconsuming_calls (call_unconsuming rfl)
      · exact hraise
      intro _
      apply Triple.seq
      · exact unconsuming_calls (call_unconsuming rfl)
      · exact hraise
      intro _
      apply Triple.bind (M := fun _ => Reported steady t command
        (.ok ⟨.created, "pms-sess-" ++ toString n⟩))
      · apply Triple.conseq (notifyEntry_reporting _ ht) (fun _ h => h)
        intro r s hs
        cases r with
        | ok u => exact hs
        | error e => exact hs
      · exact fun _ => .done fun _ hs => hs

/-! ## The other requests -/

theorem updateStatus_unconsuming (lotId plate : String) (status : SessionStatus) :
    Unconsuming (RedisParkingSessionStore.updateStatus lotId plate status) := by
  unfold RedisParkingSessionStore.updateStatus
  apply Program.Calls.bind (call_unconsuming rfl)
  intro found
  cases found with
  | none => trivial
  | some payload =>
      apply Program.Calls.bind (call_unconsuming rfl)
      exact fun ttl => call_unconsuming rfl

theorem paymentComplete_unconsuming (signed : Bool) (command : RecordPaymentCompleteCommand) :
    Unconsuming (RecordPaymentCompleteService.route signed command) := by
  unfold RecordPaymentCompleteService.route RecordPaymentCompleteService.execute
  split
  · trivial
  apply Program.Calls.bind (call_unconsuming rfl)
  intro existing
  cases existing with
  | some existing => trivial
  | none =>
      apply Program.Calls.bind
      · unfold RecordPaymentCompleteService.savePaymentRequest
        apply Program.Calls.bind (call_unconsuming rfl)
        intro found
        cases found with
        | some found => trivial
        | none =>
            apply Program.Calls.bind (call_unconsuming rfl)
            exact fun now => call_unconsuming rfl
      intro _
      apply Program.Calls.bind
      · apply Program.Calls.tryCatch
        · unfold RecordPaymentCompleteService.markSession
          apply Program.Calls.bind (call_unconsuming rfl)
          intro session
          apply Program.Calls.bind (call_unconsuming rfl)
          intro _
          cases session with
          | none => trivial
          | some session => exact updateStatus_unconsuming _ _ _
        · intro e
          cases e <;> trivial
      intro _
      apply Program.Calls.bind (bestEffort_unconsuming rfl)
      exact fun _ => trivial

theorem lprExit_unconsuming (command : HandleLprExitCommand) :
    Unconsuming (HandleLprExitService.execute command) := by
  have hopen (id : String) (fromRedis : Bool) :
      Unconsuming (HandleLprExitService.openAndExit id command fromRedis) := by
    unfold HandleLprExitService.openAndExit
    apply Program.Calls.bind (bestEffort_unconsuming rfl)
    intro _
    have hmark : Unconsuming ((call (.markExited id)).bind fun _ =>
        (.done (.ok ⟨.opened, some id⟩) : Service HandleLprExitResult)) :=
      (call_unconsuming rfl).bind fun _ => trivial
    have hdelete (key : String) : Unconsuming (call (.parkedCars (.delete key))) :=
      call_unconsuming rfl
    cases fromRedis with
    | true => exact (hdelete _).bind fun _ => hmark
    | false => exact hmark
  unfold HandleLprExitService.execute
  apply Program.Calls.bind (call_unconsuming rfl)
  intro found
  cases found with
  | some cached =>
      dsimp only
      split
      · exact hopen _ _
      · trivial
  | none =>
      apply Program.Calls.bind (call_unconsuming rfl)
      intro session
      cases session with
      | some session => exact hopen _ _
      | none => trivial

/-! ## Runs -/

def outcomes (steady : Tid → Bool) : Outline PyError Reply (State × Consumptions) Tid where
  idle := Unconsumed
  ended t r s := ∀ command, t.request = .lprEntry command → ∀ key, (t, key) ∈ s.2 →
    steady t = true → ∃ id, r = .ok (.entry ⟨.created, id⟩) ∧
      ⟨id, command.lotId, command.plate, command.entryTime⟩ ∈ s.1.entryWebhooks
  stopped _ _ := True

theorem stable_outcomes (t : Tid) (r : Except PyError Reply) :
    reporting.Stable t ((outcomes steady).ended t r) := by
  intro s s' hi h command ht key hkey hsteady
  obtain ⟨id, hr, haccepted⟩ := h command ht key (mem_of_interferes hi hkey) hsteady
  exact ⟨id, hr, stable_accepted _ s s' hi haccepted⟩

theorem program_reporting (t : Tid) : Reporting isIsoFormat steady t (Unconsumed t)
    (program t.request) ((outcomes steady).ended t) := by
  have hquiet {p : Service Reply} (hp : Unconsuming p) :
      Reporting isIsoFormat steady t (Unconsumed t) p ((outcomes steady).ended t) := by
    apply Triple.conseq (unconsuming_calls hp) (fun _ h => h)
    exact fun r s hs command _ key hkey => (hs key hkey).elim
  cases ht : t.request with
  | preRegister c => exact hquiet ((call_unconsuming rfl).bind fun _ => trivial)
  | paymentComplete signed c =>
      exact hquiet ((paymentComplete_unconsuming signed c).bind fun _ => trivial)
  | lprExit c => exact hquiet ((lprExit_unconsuming c).bind fun _ => trivial)
  | lprEntry c =>
      apply Triple.map
      apply Triple.conseq (lprEntry_reporting ht) (fun _ h => h)
      intro r s hs command hcommand key hkey hsteady
      rw [ht] at hcommand
      cases hcommand
      obtain ⟨id, rfl, haccepted⟩ := hs key hkey hsteady
      exact ⟨id, rfl, haccepted⟩

def State.Arbitrary (_ : State) : Prop := True

theorem reported_meets (isIsoFormat : String → Bool) (steady : Tid → Bool) :
    (reported isIsoFormat).Meets (reportPolicy steady).withHistory reporting
      (fun s => s.1.Arbitrary ∧ s.2 = []) (outcomes steady) where
  init s hs := by
    have hempty : ∀ t key, (t, key) ∉ s.2 := by
      intro t key hkey
      rw [hs.2] at hkey
      cases hkey
    exact ⟨fun t key hkey => (hempty t key hkey).elim, hempty⟩
  moves s s' hi hm := by
    intro t' key hkey
    rcases hm with ⟨t, -, -, hadded⟩ | ⟨-, hg⟩
    · rcases hadded t' key hkey with hold | ⟨rfl, hown⟩
      · exact hi t' key hold
      · exact hown
    · exact hi t' key (hg ▸ hkey)
  idle_stable _ := stable_unconsumed
  ended_stable := stable_outcomes
  stopped_stable _ := .const True
  start x s t p s' _ hb _ hidle := by
    have hb : some (x, program x.request, s) = some (t, p, s') := hb
    cases hb
    exact ⟨⟨rfl, rfl⟩, fun _ => program_reporting x s hidle⟩
  crash _ _ _ := trivial
  environment x s s' hx _ := by
    have hx : some (s.1.environment x, s.2) = some s' := hx
    cases hx
    refine ⟨?_, rfl⟩
    cases x <;> rfl

/-- A call of the execution after which the pre-registration is gone. -/
def Consumes (isIsoFormat : String → Bool) (π : Policy Op PyError State Tid Tid Env) (t : Tid)
    (key : String) (c c' : Config Op PyError Reply State Tid) : Prop :=
  ∃ m, Permits π (.call t m) c ∧ (pms isIsoFormat).advance (.call t m) c = some c' ∧
    c.state.preRegistrations key ≠ none ∧ c'.state.preRegistrations key = none

section
variable {c₀ c c' : Config Op PyError Reply State Tid} {g : Consumptions}

theorem Consumes.started {π : Policy Op PyError State Tid Tid Env}
    (h : Consumes isIsoFormat π t key c c') : (c'.pool t).Left fun _ => True := by
  obtain ⟨m, -, ha, -⟩ := h
  obtain ⟨β, op, next, r, hlive, -⟩ := (pms isIsoFormat).advance_call ha
  have hleft : (c.pool t).Left fun _ => True := ⟨by rw [hlive]; exact nofun, fun _ _ => trivial⟩
  exact (pms isIsoFormat).left_advance (fun _ _ _ _ => trivial) hleft ha

/-- Only calls touch the pre-registrations that Redis keeps. -/
theorem preRegistrations_of_uncalled {l : Label PyError Tid Tid Env}
    (hl : ∀ t m, l ≠ .call t m) (hp : Permits (reportPolicy steady) l c)
    (ha : (pms isIsoFormat).advance l c = some c') :
    c'.state.preRegistrations = c.state.preRegistrations := by
  cases l with
  | call t m => exact (hl t m rfl).elim
  | start x =>
      simp only [advance, pms] at ha
      split at ha
      · cases ha
        rfl
      · cases ha
  | crash t =>
      simp only [advance] at ha
      split at ha
      · cases ha
        rfl
      · cases ha
  | environment x =>
      simp only [advance, pms] at ha
      cases ha
      cases x with
      | losePreRegistration key => exact hp.elim
      | _ => rfl

theorem consumed_of_gone (hl : (pms isIsoFormat).Later (reportPolicy steady) c₀ c)
    (hreg : c₀.state.preRegistrations key ≠ none) : c.state.preRegistrations key ≠ none ∨
      ∃ t c₁ c₂, (pms isIsoFormat).Later (reportPolicy steady) c₀ c₁ ∧
        Consumes isIsoFormat (reportPolicy steady) t key c₁ c₂ ∧
          (pms isIsoFormat).Later (reportPolicy steady) c₂ c := by
  induction hl with
  | refl => exact .inl hreg
  | @step c₁ c₂ l hl hp ha ih =>
      rcases ih with hkept | ⟨t, c₃, c₄, h₃, hcons, h₄⟩
      · by_cases hgone : c₂.state.preRegistrations key = none
        · by_cases hcall : ∃ t m, l = .call t m
          · obtain ⟨t, m, rfl⟩ := hcall
            exact .inr ⟨t, c₁, c₂, hl, ⟨m, hp, ha, hkept, hgone⟩, .refl⟩
          · have hsame := preRegistrations_of_uncalled (fun t m h => hcall ⟨t, m, h⟩) hp ha
            rw [hsame] at hgone
            exact (hkept hgone).elim
        · exact .inl hgone
      · exact .inr ⟨t, c₃, c₄, h₃, hcons, .step l h₄ hp ha⟩

theorem consumes_withHistory (hc : Consumes isIsoFormat (reportPolicy steady) t key c c')
    (g : Consumptions) : ∃ g', (reported isIsoFormat).Later (reportPolicy steady).withHistory
      (c.withHistory g) (c'.withHistory g') ∧ (t, key) ∈ g' := by
  obtain ⟨m, hp, ha, hold, hgone⟩ := hc
  obtain ⟨g', ha'⟩ := advance_withHistory consumptions ha g
  refine ⟨g', .step _ .refl (permits_withHistory hp g) ha', ?_⟩
  obtain ⟨β, op, next, -, ⟨r₀, he, rfl⟩ | ⟨hsame, -⟩⟩ := history_of_advance ha'
  · rw [← show _ = c'.state from congrArg Prod.snd (Option.some.inj he)] at hgone
    exact mem_consumptions_of_gone hold hgone r₀ g
  · rw [hsame] at hgone
    exact (hold hgone).elim

/-- Whatever is interleaved, fails or stops, a pre-registration stays in place
until its time to live elapses or an entry of its lot and plate deletes it, and
once that entry is over the backend has accepted the report of the session it
has created, unless its own report or deletion has raised. -/
theorem preRegistration_reported (isIsoFormat : String → Bool) (steady : Tid → Bool)
    (h₀ : (pms isIsoFormat).Reachable (reportPolicy steady) State.Arbitrary c₀)
    (hreg : c₀.state.preRegistrations key ≠ none)
    (hl : (pms isIsoFormat).Later (reportPolicy steady) c₀ c) :
    c.state.preRegistrations key ≠ none ∨ ∃ t command c₁ c₂,
      t.request = .lprEntry command ∧
      key = RedisPreRegistrationStore.key command.lotId command.plate ∧
      (pms isIsoFormat).Later (reportPolicy steady) c₀ c₁ ∧
      Consumes isIsoFormat (reportPolicy steady) t key c₁ c₂ ∧
      (pms isIsoFormat).Later (reportPolicy steady) c₂ c ∧
      ∀ r, c.pool t = .ended r → steady t = true → ∃ id, r = .ok (.entry ⟨.created, id⟩) ∧
        ⟨id, command.lotId, command.plate, command.entryTime⟩ ∈ c.state.entryWebhooks := by
  rcases consumed_of_gone hl hreg with hkept | ⟨t, c₁, c₂, h₁, hcons, h₂⟩
  · exact .inl hkept
  right
  obtain ⟨g₁, hg₁⟩ := (h₁.reachable _ h₀).withHistory consumptions []
  obtain ⟨g₂, hl₂, hmem⟩ := consumes_withHistory hcons g₁
  obtain ⟨g, hg⟩ := h₂.withHistory consumptions g₂
  have hM := reported_meets isIsoFormat steady
  have hc₂ := hl₂.reachable _ hg₁
  have hkept : (t, key) ∈ g := by
    apply hM.kept (J := fun s => (t, key) ∈ s.2) ?_ hc₂ hg hmem
    intro s s' _ hm hin
    rcases hm with ⟨t', -, hsub, -⟩ | ⟨-, hsame⟩
    · exact hsub hin
    · exact hsame ▸ hin
  obtain ⟨hown, hA⟩ := hM.sound (hg.reachable _ hc₂)
  obtain ⟨command, ht, hkey⟩ := hown t key hkept
  refine ⟨t, command, c₁, c₂, ht, hkey, h₁, hcons, h₂, fun r hended hsteady => ?_⟩
  have hA := hA t
  rw [show (c.withHistory g).pool t = .ended r from hended] at hA
  exact hA command ht key hkept hsteady

end

/-! ## An entry that creates a session -/

def State.preRegistered (s : State) (lotId plate : String) : Bool :=
  (s.preRegistrations.read s.now (RedisPreRegistrationStore.key lotId plate)).any
    fun e => e.value ≠ ""

theorem entryWebhooks_of_event {s s' : State} (h : (pms isIsoFormat).Event s s') :
    s.entryWebhooks ⊆ s'.entryWebhooks := by
  cases h with
  | none => exact fun _ h => h
  | @call t β op r _ _ h =>
      rw [← show (s.exec isIsoFormat t op).2 = s' from congrArg Prod.snd (Option.some.inj h)]
      exact entryWebhooks_exec op
  | start h =>
      cases h
      exact fun _ h => h
  | @environment x _ _ h =>
      cases h
      cases x <;> exact fun _ h => h

/-- Between two moments the pre-registration is deleted and the entry reported, unless the backend
does not accept the report. -/
structure Announces (isIsoFormat : String → Bool) (s : Nat → State) (t : Tid)
    (webhook : EntryWebhook) (i j : Nat) : Prop where
  consumes : ∃ k, i < k ∧ k < j ∧ (s (k + 1)).preRegistrations
    (RedisPreRegistrationStore.key webhook.lotId webhook.plate) = none
  reports : ∃ k m r, i < k ∧ k < j ∧
    (pms isIsoFormat).outcome t (.sendEntryWebhook webhook) m (s k) = some (r, s (k + 1)) ∧
      (m.effective = true → webhook ∈ (s j).entryWebhooks)

section
variable {s : Nat → State} {i j : Nat}

theorem getActivePreRegistration_reaches {lotId plate : String} {found : Bool}
    (h : (pms isIsoFormat).Reaches s t
      (RedisPreRegistrationStore.getActivePreRegistration lotId plate) i (.done (.ok found)) j) :
    ∃ k, i ≤ k ∧ k < j ∧ (s k).preRegistered lotId plate = found := by
  obtain ⟨value, j', hread, hrest⟩ := reaches_bind h
  obtain ⟨k, hik, hkj, he⟩ := reaches_perform hread
  have hvalue : ((s k).preRegistrations.read (s k).now
      (RedisPreRegistrationStore.key lotId plate)).map (·.value) = value :=
    Except.ok.inj (congrArg Prod.fst (Option.some.inj he))
  cases reaches_done hrest
  refine ⟨k, hik, Nat.lt_of_lt_of_le hkj hrest.le, ?_⟩
  rw [← hvalue, Option.any_map]
  rfl

theorem notifyEntry_reaches (hs : (pms isIsoFormat).Timeline s) {id : String}
    {command : HandleLprEntryCommand} {u : Unit} (h : (pms isIsoFormat).Reaches s t
      (HandleLprEntryService.notifyEntry id command) i (.done (.ok u)) j) :
    ∃ k, i ≤ k ∧ k < j ∧ ((s k).preRegistered command.lotId command.plate = true →
      Announces isIsoFormat s t ⟨id, command.lotId, command.plate, command.entryTime⟩ k j) := by
  obtain ⟨found, j₁, hlookup, h⟩ := reaches_bind h
  obtain ⟨k, hik, hkj, hfound⟩ := getActivePreRegistration_reaches hlookup
  refine ⟨k, hik, Nat.lt_of_lt_of_le hkj h.le, fun hlive => ?_⟩
  obtain rfl : found = true := hfound.symm.trans hlive
  obtain ⟨u₁, j₂, hdelete, h⟩ := reaches_bind h
  obtain ⟨k₁, hk₁, hj₁, hconsumed⟩ := reaches_perform hdelete
  obtain ⟨sent, j₃, hsend, hrest⟩ := reaches_bind h
  obtain ⟨k₂, m, hk₂, hj₂, ho⟩ := reaches_attempt hsend
  have hend : j₃ ≤ j := hrest.le
  refine ⟨⟨k₁, by omega, by omega, ?_⟩, k₂, m, sent, by omega, by omega, ho, fun heff => ?_⟩
  · have hdeleted : ((s k₁).exec isIsoFormat t (.preRegistrations
        (.delete (RedisPreRegistrationStore.key command.lotId command.plate)))).2 = s (k₁ + 1) :=
      congrArg Prod.snd (Option.some.inj hconsumed)
    rw [← hdeleted]
    exact Function.update_self ..
  · have haccepted : ⟨id, command.lotId, command.plate, command.entryTime⟩ ∈
        (s (k₂ + 1)).entryWebhooks := by
      have hsent : ∀ r₀, (pms isIsoFormat).exec t (.sendEntryWebhook ⟨id, command.lotId,
          command.plate, command.entryTime⟩) (s k₂) = some (r₀, s (k₂ + 1)) →
            ⟨id, command.lotId, command.plate, command.entryTime⟩ ∈ (s (k₂ + 1)).entryWebhooks := by
        intro r₀ he
        rw [← show _ = s (k₂ + 1) from congrArg Prod.snd (Option.some.inj he)]
        exact .head _
      rcases (pms isIsoFormat).outcome_cases ho with ⟨-, he⟩ | ⟨e, rfl, -, -⟩ | ⟨e, r₀, -, -, he⟩
      · exact hsent _ he
      · cases heff
      · exact hsent _ he
    exact hs.keeps (R := fun s s' => s.entryWebhooks ⊆ s'.entryWebhooks) (fun _ _ h => h)
      (fun _ _ _ h h' _ hx => h' (h hx)) (fun _ _ h => entryWebhooks_of_event h)
      (show k₂ + 1 ≤ j by omega) haccepted

/-- An entry that has created a session looked its car up once, and if it was pre-registered then,
the entry has consumed the pre-registration and reported the session. -/
theorem created_entry_announces {c : Nat → Config Op PyError Reply State Tid}
    (hc : (pms isIsoFormat).Run c) {command : HandleLprEntryCommand} {id : String}
    (ht : t.request = .lprEntry command) (hij : i ≤ j)
    (hlive : ((c i).pool t).left? = some (program t.request))
    (hended : (c j).pool t = .ended (.ok (.entry ⟨.created, id⟩))) :
    ∃ k, i ≤ k ∧ k < j ∧ ((c k).state.preRegistered command.lotId command.plate = true →
      Announces isIsoFormat (fun k => (c k).state) t
        ⟨id, command.lotId, command.plate, command.entryTime⟩ k j) := by
  have h := hc.reaches hij hlive (q := .done (.ok (.entry ⟨.created, id⟩))) (by rw [hended]; rfl)
  rw [ht] at h
  obtain ⟨result, j₀, h, hmap⟩ := reaches_bind h
  cases reaches_done hmap
  unfold HandleLprEntryService.execute at h
  obtain ⟨u₁, i₁, h₁, h⟩ := reaches_bind h
  obtain ⟨found, i₂, h₂, h⟩ := reaches_bind h
  cases found with
  | some existing => cases reaches_done h
  | none =>
      obtain ⟨n, i₃, h₃, h⟩ := reaches_bind h
      obtain ⟨u₂, i₄, h₄, h⟩ := reaches_bind h
      obtain ⟨u₃, i₅, h₅, h⟩ := reaches_bind h
      obtain ⟨u₄, i₆, h₆, hdone⟩ := reaches_bind h
      cases reaches_done hdone
      have hle₁ := h₁.le
      have hle₂ := h₂.le
      have hle₃ := h₃.le
      have hle₄ := h₄.le
      have hle₅ := h₅.le
      have hle₆ := hdone.le
      have hle₇ := hmap.le
      obtain ⟨k, hk, hkj, hannounces⟩ := notifyEntry_reaches hc.timeline (h₆.later (by omega : i₆ ≤ j))
      exact ⟨k, by omega, by omega, hannounces⟩

end

theorem emptyLot_arbitrary : emptyLot.Arbitrary := trivial

namespace Lot

def announcement : Tid := ⟨1, .preRegister ⟨"LOT_GN_01", "12GA3456"⟩⟩

def registration : String := RedisPreRegistrationStore.key "LOT_GN_01" "12GA3456"

def announced : List (Label PyError Tid Tid Env) := .start announcement :: answers announcement 1

/-- The car comes in, and its report goes as the mode says. -/
def reportedAs (m : Mode PyError) : List (Label PyError Tid Tid Env) :=
  .start entry :: answers entry 7 ++ [.call entry m]

end Lot

/-- The announced car comes in, and its entry is over and reported. -/
theorem preRegistration_reported_lot : ∃ c command id, (pms fun _ => true).Reachable
    (reportPolicy fun _ => true) State.Arbitrary c ∧ c.state.preRegistrations Lot.registration = none ∧
      Lot.entry.request = .lprEntry command ∧
      Lot.registration = RedisPreRegistrationStore.key command.lotId command.plate ∧
      c.pool Lot.entry = .ended (.ok (.entry ⟨.created, id⟩)) ∧
      ⟨id, command.lotId, command.plate, command.entryTime⟩ ∈ c.state.entryWebhooks := by
  have hrun : ((pms fun _ => true).run (reportPolicy fun _ => true) Lot.announced
      (boot emptyLot)).any (fun c₀ => (c₀.state.preRegistrations Lot.registration).isSome &&
        ((pms fun _ => true).run (reportPolicy fun _ => true) (Lot.reportedAs .answered) c₀).any
          fun c => (c.state.preRegistrations Lot.registration).isNone &&
            (c.pool Lot.entry).result?.isSome) = true := by
    decide +kernel
  obtain ⟨c₀, c, h₀, hsome, hl, hq, hidle⟩ := (pms fun _ => true).exists_of_runs_among
    [Lot.announcement, Lot.entry] hrun emptyLot_arbitrary (by
      rintro x hx s t p s' hb
      cases hb
      exact hx)
  obtain ⟨hnone, hended⟩ := (Bool.and_eq_true ..).mp hq
  have hnone := Option.isNone_iff_eq_none.mp hnone
  obtain ⟨r, hr⟩ := Option.isSome_iff_exists.mp hended
  rcases preRegistration_reported _ _ h₀ (Option.isSome_iff_ne_none.mp hsome) hl with
    hkept | ⟨t, command, c₁, c₂, ht, hkey, -, hcons, h₂, hreport⟩
  · exact (hkept hnone).elim
  -- The execution that consumed has been started, and it is not the announcement.
  have hstarted : c.pool t ≠ .idle := (h₂.left _ (fun _ _ _ _ => trivial) hcons.started).1
  have hmem : t ∈ [Lot.announcement, Lot.entry] := not_not.mp fun h => hstarted (hidle t h)
  rcases List.mem_pair.mp hmem with rfl | rfl
  · cases ht
  · have hover := Thread.result?_eq_some.mp hr
    obtain ⟨id, rfl, haccepted⟩ := hreport r hover rfl
    exact ⟨c, command, id, hl.reachable _ h₀, hnone, ht, hkey, hover, haccepted⟩

/-- The backend does not accept the report of an announced car. -/
theorem preRegistration_dropped : ¬∀ isIsoFormat c₀ c t command r,
    (pms isIsoFormat).Reachable (reportPolicy fun _ => false) State.Arbitrary c₀ →
      t.request = .lprEntry command → c₀.pool t = .idle →
        c₀.state.preRegistrations (RedisPreRegistrationStore.key command.lotId command.plate) ≠ none →
          (pms isIsoFormat).Later (reportPolicy fun _ => false) c₀ c → c.pool t = .ended r →
            (∃ w ∈ c.state.entryWebhooks, w.lotId = command.lotId ∧ w.plate = command.plate) ∨
              c.state.preRegistrations (RedisPreRegistrationStore.key command.lotId command.plate) ≠
                none := by
  intro h
  have hrun : ((pms fun _ => true).run (reportPolicy fun _ => false) Lot.announced
      (boot emptyLot)).any (fun c₀ => ((c₀.pool Lot.entry).isIdle &&
        (c₀.state.preRegistrations Lot.registration).isSome) &&
        ((pms fun _ => true).run (reportPolicy fun _ => false) (Lot.reportedAs
          (.refused (.runtimeError "carpayin_entry_webhook_failed"))) c₀).any fun c =>
            (c.pool Lot.entry).result?.isSome && (c.state.entryWebhooks = [] &&
              (c.state.preRegistrations Lot.registration).isNone)) = true := by
    decide +kernel
  obtain ⟨c₀, c, h₀, hbefore, hl, hafter⟩ := (pms fun _ => true).exists_of_runs hrun emptyLot_arbitrary
  obtain ⟨hidle, hsome⟩ := (Bool.and_eq_true ..).mp hbefore
  obtain ⟨hended, hafter⟩ := (Bool.and_eq_true ..).mp hafter
  obtain ⟨hempty, hnone⟩ := (Bool.and_eq_true ..).mp hafter
  obtain ⟨r, hr⟩ := Option.isSome_iff_exists.mp hended
  rcases h _ c₀ c Lot.entry _ r h₀ rfl (Thread.isIdle_iff.mp hidle) (Option.isSome_iff_ne_none.mp hsome)
    hl (Thread.result?_eq_some.mp hr) with ⟨w, hw, -⟩ | hkept
  · rw [of_decide_eq_true hempty] at hw
    cases hw
  · exact hkept (Option.isNone_iff_eq_none.mp hnone)

end CarPayIn.Pms
