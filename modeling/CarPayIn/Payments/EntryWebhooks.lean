import CarPayIn.Payments.Alone
import CarPayIn.Payments.ClosedSessions

/-! # The session an entry webhook confirms

A webhook is answered with a session found by its PMS id in any lot, with the
car's active session in any lot, or with a new one. Only the new one is sure to
have the lot and the plate that the webhook reports.
-/

namespace CarPayIn

open Process Process.System Store Service

variable {rt : Runtime} {t : Tid} {w w' w₀ : World} {α : Type}

/-! ## Session ids are unique -/

def World.SessionsUnique (w : World) : Prop :=
  UniqueBy ParkingSession.sessionId w.base.parkingSessions

theorem World.exec_sessionsUnique {β : Type} {op : Op β} {r : Except PyError β}
    (he : w.exec t op = some (r, w')) (h : w.SessionsUnique) : w'.SessionsUnique :=
  (World.exec_session he).uniqueIds h

theorem sessionsUnique_of_reachable {π : Policy Op PyError World Tid Start Env}
    {c : Config Op PyError Reply World Tid}
    (hc : (carPayIn rt).Reachable π World.SessionsUnique c) : c.state.SessionsUnique := by
  apply hc.keeps
  · exact fun _ h => h
  · exact fun t β op w r w' he h => World.exec_sessionsUnique he h
  · intro x w t p w' hb h
    unfold World.SessionsUnique at h ⊢
    rwa [(begin_spec hb).base]
  · intro x w w' he h
    obtain ⟨now, outside, scanned, -, hb⟩ := environment_base he
    unfold World.SessionsUnique at h ⊢
    rwa [hb]

/-! ## What the webhook finds -/

def preNotifyKey (command : HandleEntryWebhookCommand) : String :=
  RegisterPreNotifyService.storeKey command.lotId command.plate

/-- The session that a webhook is answered with instead of a new one. -/
def World.entryLookup (w : World) (command : HandleEntryWebhookCommand) : Option ParkingSession :=
  match w.base.getSessionByPmsSessionId command.pmsSessionId with
  | some existing => some existing
  | none =>
      match w.base.preNotifies.read w.base.now (preNotifyKey command) with
      | none => none
      | some preNotify => w.base.getActiveSessionByCarId preNotify.value.carId

def World.misplaced (w : World) (command : HandleEntryWebhookCommand) : Bool :=
  (w.entryLookup command).any fun s => s.lotId ≠ command.lotId || s.plate ≠ command.plate

def World.Places (w : World) (id : Uuid) (lotId plate : String) : Prop :=
  ∃ s, w.base.getSessionById id = some s ∧ s.lotId = lotId ∧ s.plate = plate

theorem places_of_same {id : Uuid} {lotId plate : String}
    (h : w'.base.parkingSessions = w.base.parkingSessions) (hp : w.Places id lotId plate) :
    w'.Places id lotId plate := by
  obtain ⟨s, hs, hrest⟩ := hp
  refine ⟨s, ?_, hrest⟩
  unfold Base.getSessionById at hs ⊢
  rwa [h]

theorem getSessionById_of_mem {s : ParkingSession} (h : w.SessionsUnique)
    (hs : s ∈ w.base.parkingSessions) : w.base.getSessionById s.sessionId = some s :=
  h.get?_of_mem hs

theorem entryLookup_mem {command : HandleEntryWebhookCommand} {s : ParkingSession}
    (h : w.entryLookup command = some s) : s ∈ w.base.parkingSessions := by
  unfold World.entryLookup at h
  split at h
  · rename_i existing hfound
    cases h
    exact mem_of_get? hfound
  · split at h
    · cases h
    · exact List.mem_of_find?_eq_some h

/-- A row that is found and not misplaced has the lot and the plate. -/
theorem places_of_lookup {command : HandleEntryWebhookCommand} {s : ParkingSession}
    (hu : w.SessionsUnique) (h : w.entryLookup command = some s)
    (hm : w.misplaced command = false) : w.Places s.sessionId command.lotId command.plate := by
  refine ⟨s, getSessionById_of_mem hu (entryLookup_mem h), ?_⟩
  simpa [World.misplaced, h] using hm

theorem not_places_of_misplaced {command : HandleEntryWebhookCommand} {s : ParkingSession}
    (hu : w.SessionsUnique) (h : w.entryLookup command = some s)
    (hm : w.misplaced command = true) : ¬w.Places s.sessionId command.lotId command.plate := by
  rintro ⟨s', hs', hlot, hplate⟩
  rw [getSessionById_of_mem hu (entryLookup_mem h)] at hs'
  cases hs'
  simp [World.misplaced, h, hlot, hplate] at hm

theorem misplaced_confirms (rt : Runtime) (t : Tid) {command : HandleEntryWebhookCommand}
    {s : ParkingSession}
    (hsigned : w.base.outside.validSignature command.signatureTimestamp command.pmsToken = true)
    (hiso : rt.isIsoFormat command.entryTime = true) (h : w.entryLookup command = some s) :
    (carPayIn rt).Finishes Policy.any t (base (HandleEntryWebhookService.execute rt command)) w
      (.ok ⟨"confirmed", some s.sessionId⟩) w := by
  unfold HandleEntryWebhookService.execute
  apply Finishes.ask (.verifySignature command.signatureTimestamp command.pmsToken) (a := true) rfl
  · exact congrArg Except.ok hsigned
  simp only [not_true, if_false, hiso]
  apply Finishes.ask (.getSessionByPmsSessionId command.pmsSessionId) rfl rfl
  unfold World.entryLookup at h
  cases hpms : w.base.getSessionByPmsSessionId command.pmsSessionId with
  | some existing =>
      rw [hpms] at h
      cases h
      exact .done _ _
  | none =>
      rw [hpms] at h
      dsimp only at h ⊢
      cases hread : w.base.preNotifies.read w.base.now (preNotifyKey command) with
      | none =>
          rw [hread] at h
          cases h
      | some preNotify =>
          rw [hread] at h
          apply Finishes.ask (.preNotifies (.get (preNotifyKey command)))
            (a := some preNotify.value) rfl
          · exact congrArg (fun found => Except.ok (found.map (·.value))) hread
          · apply Finishes.ask (.getActiveSessionByCarId preNotify.value.carId) (a := some s) rfl
            · exact congrArg Except.ok h
            · exact .done _ _

/-! ## A new session -/

theorem Base.createSession_row {b b' : Base} {row : ParkingSession}
    (h : b.createSession row = .ok b') : b'.getSessionById row.sessionId = some row := by
  unfold createSession at h
  split_ifs at h
  cases h
  simp [getSessionById, get?_cons]

theorem sessions_alone {P : World → Prop}
    (hP : ∀ w w', w'.base.parkingSessions = w.base.parkingSessions → P w → P w') (es : List Effect)
    {p : Service α} (hp : ServiceEffects es p) (hnew : .newSession ∉ .nothing :: es)
    (hstatus : .sessionStatus ∉ .nothing :: es) : Alone rt t P p (fun _ => P) := by
  apply effects_alone _ hp
  · intro w w' ⟨x, _, he⟩ hw
    obtain ⟨now, outside, scanned, -, hb⟩ := environment_base he
    exact hP w w' (by rw [hb]) hw
  · intro e he w w' hf hw
    apply hP w w' (hf.parkingSessions ?_ ?_) hw
    · exact fun h => hnew (h ▸ he)
    · exact fun h => hstatus (h ▸ he)

theorem createSession_alone (row : ParkingSession) :
    Alone rt t (fun _ => True) (base (ask (.createSession row)))
      (fun r w => ∀ u, r = .ok u → w.base.getSessionById row.sessionId = some row) := by
  apply solo_shows
  intro w u w' h
  have hb : w'.base = (w.base.write (w.base.createSession row)).2 :=
    (congrArg (fun o => o.2.base) (Option.some.inj h)).symm
  have hok : (w.base.write (w.base.createSession row)).1 = .ok u :=
    congrArg Prod.fst (Option.some.inj h)
  cases hx : w.base.createSession row with
  | error e =>
      rw [hx] at hok
      cases hok
  | ok b' =>
      rw [hx] at hb
      rw [hb]
      exact Base.createSession_row hx

def World.Opened (w : World) (id : Uuid) (command : HandleEntryWebhookCommand) : Prop :=
  ∃ s, w.base.getSessionById id = some s ∧ s.lotId = command.lotId ∧ s.plate = command.plate ∧
    s.pmsSessionId = some command.pmsSessionId

theorem opened_of_same {id : Uuid} {command : HandleEntryWebhookCommand}
    (h : w'.base.parkingSessions = w.base.parkingSessions) (ho : w.Opened id command) :
    w'.Opened id command := by
  obtain ⟨s, hs, hrest⟩ := ho
  refine ⟨s, ?_, hrest⟩
  unfold Base.getSessionById at hs ⊢
  rwa [h]

theorem openSession_alone (command : HandleEntryWebhookCommand) (carId : String) :
    Alone rt t (fun _ => True) (base (HandleEntryWebhookService.openSession command carId))
      (fun r w => ∀ id, r = .ok ⟨"confirmed", some id⟩ → w.Opened id command) := by
  unfold HandleEntryWebhookService.openSession
  simp only [Program.bind_eq, base_bind]
  apply Triple.seq (P := fun _ => True)
  · apply effects_alone [.draw] (base_effects (ask_effects (by simp)))
    · exact fun _ _ _ h => h
    · exact fun _ _ _ _ _ h => h
  · exact fun e w _ id h => by cases h
  · intro sessionId
    have hother {β : Type} (es : List Effect) {p : BaseService β} (hp : Effects es p)
        (hnew : .newSession ∉ Effect.nothing :: es) (hstatus : .sessionStatus ∉ Effect.nothing :: es) :
        Alone rt t (fun w => w.Opened sessionId command) (base p)
          (fun _ w => w.Opened sessionId command) :=
      sessions_alone (fun _ _ => opened_of_same) es (base_effects hp) hnew hstatus
    apply Triple.bind (M := fun _ w => w.Opened sessionId command)
    · apply Triple.conseq (createSession_alone _) (fun _ h => h)
      intro r w hr
      cases r with
      | error e => exact fun id h => by cases h
      | ok u => exact ⟨_, hr u rfl, rfl, rfl, rfl⟩
    · intro _
      apply Triple.seq (hother [.preNotify] (ask_effects (by simp)) (by decide) (by decide))
      · exact fun e w _ id h => by cases h
      · intro _
        apply Triple.seq (hother _ (notifyEntry_effects _) (by decide) (by decide))
        · exact fun e w _ id h => by cases h
        · intro _
          apply Triple.done
          intro w hw id hr
          cases hr
          exact hw

/-! ## One webhook -/

theorem pmsLookup_of_drifted (h : Drifted w₀ w) (pmsSessionId : String) :
    w.base.getSessionByPmsSessionId pmsSessionId = w₀.base.getSessionByPmsSessionId pmsSessionId := by
  unfold Base.getSessionByPmsSessionId
  rw [h.parkingSessions]

theorem activeLookup_of_drifted (h : Drifted w₀ w) (carId : String) :
    w.base.getActiveSessionByCarId carId = w₀.base.getActiveSessionByCarId carId := by
  unfold Base.getActiveSessionByCarId
  rw [h.parkingSessions]

/-- A webhook raises, finds no pre-notification, is answered with the session
that its lookups find, or opens a new one. -/
theorem entryWebhook_rule {command : HandleEntryWebhookCommand}
    {Q : Except PyError HandleEntryWebhookResult → World → Prop} (hraises : ∀ e w, Q (.error e) w)
    (hnone : ∀ w, Q (.ok ⟨"not_registered", none⟩) w)
    (hfound : rt.isIsoFormat command.entryTime = true → ∀ s w, w₀.entryLookup command = some s →
      Drifted w₀ w → Q (.ok ⟨"confirmed", some s.sessionId⟩) w)
    (hopen : ∀ carId, Alone rt t (fun _ => True)
      (base (HandleEntryWebhookService.openSession command carId)) Q) :
    Alone rt t (Drifted w₀) (base (HandleEntryWebhookService.execute rt command)) Q := by
  have hdrift : ∀ w w', (carPayIn rt).Drifts Policy.any w w' → Drifted w₀ w → Drifted w₀ w' :=
    fun w w' hd h => h.drift hd
  unfold HandleEntryWebhookService.execute
  simp only [Program.bind_eq, base_bind]
  apply Triple.seq
  · apply Triple.conseq (ask_alone (.verifySignature command.signatureTimestamp command.pmsToken)
      rfl hdrift) (fun _ h => h)
    exact fun r w hr => hr.1
  · exact fun e w _ => hraises e w
  intro valid
  split
  · exact .done fun w _ => hraises _ w
  split
  · exact .done fun w _ => hraises _ w
  rename_i hiso
  have hfound := hfound (not_not.mp hiso)
  rw [base_bind]
  apply Triple.bind (M := fun found w => Drifted w₀ w ∧
    found = w₀.base.getSessionByPmsSessionId command.pmsSessionId)
  · apply Triple.conseq (ask_alone (.getSessionByPmsSessionId command.pmsSessionId) rfl hdrift)
      (fun _ h => h)
    intro r w hr
    cases r with
    | error e => exact hraises e w
    | ok found =>
        refine ⟨hr.1, ?_⟩
        rw [← pmsLookup_of_drifted hr.1]
        exact (Except.ok.inj (hr.2 found rfl)).symm
  apply known_alone
  cases hpms : w₀.base.getSessionByPmsSessionId command.pmsSessionId with
  | some existing =>
      exact .done fun w hw => hfound existing w (by simp [World.entryLookup, hpms]) hw
  | none =>
      dsimp only
      rw [base_bind]
      apply Triple.bind (M := fun (found : Option PreNotify) w => Drifted w₀ w ∧
        ∀ p, found = some p → ∃ e, w₀.base.preNotifies.read w₀.base.now (preNotifyKey command) =
          some e ∧ e.value = p)
      · apply Triple.conseq (ask_alone (.preNotifies (.get (preNotifyKey command))) rfl hdrift)
          (fun _ h => h)
        intro r w hr
        cases r with
        | error e => exact hraises e w
        | ok found =>
            refine ⟨hr.1, fun p hp => ?_⟩
            subst hp
            obtain ⟨e, he, hvalue⟩ := Option.map_eq_some_iff.mp (Except.ok.inj (hr.2 _ rfl))
            rw [hr.1.preNotifies] at he
            exact ⟨e, read_of_later hr.1.now he, hvalue⟩
      · intro found
        cases found with
        | none => exact .done fun w _ => hnone w
        | some p =>
            dsimp only
            rw [base_bind]
            apply Triple.bind (M := fun found w => Drifted w₀ w ∧ ∀ s, found = some s →
              w₀.entryLookup command = some s)
            · have hdrift' : ∀ w w', (carPayIn rt).Drifts Policy.any w w' →
                  (Drifted w₀ w ∧ ∃ e, w₀.base.preNotifies.read w₀.base.now (preNotifyKey command) =
                    some e ∧ e.value = p) →
                  Drifted w₀ w' ∧ ∃ e, w₀.base.preNotifies.read w₀.base.now (preNotifyKey command) =
                    some e ∧ e.value = p :=
                fun w w' hd h => ⟨h.1.drift hd, h.2⟩
              apply Triple.conseq (ask_alone (.getActiveSessionByCarId p.carId) rfl hdrift')
                (fun w hw => ⟨hw.1, hw.2 p rfl⟩)
              intro r w hr
              obtain ⟨⟨hw, e, he, rfl⟩, hr⟩ := hr
              cases r with
              | error e => exact hraises e w
              | ok found =>
                  refine ⟨hw, fun s hs => ?_⟩
                  subst hs
                  have hactive := Except.ok.inj (hr _ rfl)
                  rw [activeLookup_of_drifted hw] at hactive
                  simp [World.entryLookup, hpms, he, hactive]
            · intro found
              cases found with
              | some s => exact .done fun w hw => hfound s w (hw.2 s rfl) hw.1
              | none => exact Triple.conseq (hopen p.carId) (fun _ _ => trivial) fun _ _ h => h

def Confirms (command : HandleEntryWebhookCommand) (r : Except PyError HandleEntryWebhookResult)
    (w : World) : Prop :=
  ∀ id, r = .ok ⟨"confirmed", some id⟩ → w.Places id command.lotId command.plate

theorem execute_confirms {command : HandleEntryWebhookCommand} (hu : w₀.SessionsUnique)
    (hplaced : rt.isIsoFormat command.entryTime = true → w₀.misplaced command = false) :
    Alone rt t (Drifted w₀) (base (HandleEntryWebhookService.execute rt command))
      (Confirms command) := by
  apply entryWebhook_rule
  · exact fun e w id h => by cases h
  · intro w id h
    simp at h
  · intro hiso s w hs hw id hr
    cases hr
    exact places_of_same hw.parkingSessions (places_of_lookup hu hs (hplaced hiso))
  · intro carId
    apply Triple.conseq (openSession_alone command carId) (fun _ h => h)
    intro r w hr id hid
    obtain ⟨s, hs, hlot, hplate, -⟩ := hr id hid
    exact ⟨s, hs, hlot, hplate⟩

/-- In every reachable state a signed entry webhook confirms only a session of
its lot and plate exactly when it is malformed or the session that its lookups
find, if any, is one of that lot and plate. -/
theorem entry_confirms_own_place_iff (rt : Runtime) {π : Policy Op PyError World Tid Start Env}
    {c : Config Op PyError Reply World Tid}
    (hc : (carPayIn rt).Reachable π World.SessionsUnique c) (t : Tid)
    {command : HandleEntryWebhookCommand}
    (hsigned : c.state.base.outside.validSignature command.signatureTimestamp command.pmsToken =
      true) :
    (∀ id w', (carPayIn rt).Finishes Policy.any t (base (HandleEntryWebhookService.execute rt command))
        c.state (.ok ⟨"confirmed", some id⟩) w' → w'.Places id command.lotId command.plate) ↔
      (rt.isIsoFormat command.entryTime = true → c.state.misplaced command = false) := by
  have hu := sessionsUnique_of_reachable hc
  constructor
  · intro h hiso
    by_contra hm
    have hm : c.state.misplaced command = true := by simpa using hm
    obtain ⟨s, hs, -⟩ := (Option.any_eq_true ..).mp hm
    exact not_places_of_misplaced hu hs hm (h _ _ (misplaced_confirms rt t hsigned hiso hs))
  · intro h id w' hf
    have htriple : Alone rt t (Drifted c.state) (base (HandleEntryWebhookService.execute rt command))
        (Confirms command) := execute_confirms hu h
    exact wp_finishes hf (htriple c.state (.refl _)) id rfl

/-! ## The garage -/

theorem garage_sessionsUnique : garage.SessionsUnique := by
  simp [World.SessionsUnique, UniqueBy, garage]

namespace Garage

/-- The car enters the same lot again, under the session it has. -/
def ownEntry : HandleEntryWebhookCommand :=
  ⟨"signature", "pms-1", "lot-1", "12GA3456", "2024-01-01T09:00:00", "0"⟩

/-- Another lot numbers a session of another car in the same way. -/
def otherEntry : HandleEntryWebhookCommand :=
  ⟨"signature", "pms-1", "lot-2", "34NA5678", "2024-01-01T10:00:00", "0"⟩

end Garage

theorem entry_confirms_own_place_iff_garage :
    (∀ id w', (carPayIn plainRuntime).Finishes Policy.any (.backend 0 (.entryWebhook Garage.ownEntry))
        (base (HandleEntryWebhookService.execute plainRuntime Garage.ownEntry)) garage
        (.ok ⟨"confirmed", some id⟩) w' → w'.Places id "lot-1" "12GA3456") ↔
      (plainRuntime.isIsoFormat "2024-01-01T09:00:00" = true →
        garage.misplaced Garage.ownEntry = false) :=
  entry_confirms_own_place_iff plainRuntime (π := Policy.any) (.boot garage_sessionsUnique) _ rfl

/-- The session of the first lot is confirmed to the other one. -/
theorem entry_confirms_other_place : ¬∀ rt c,
    (carPayIn rt).Reachable Policy.any World.SessionsUnique c → ∀ t command,
      c.state.base.outside.validSignature command.signatureTimestamp command.pmsToken = true →
        ∀ id w', (carPayIn rt).Finishes Policy.any t
          (base (HandleEntryWebhookService.execute rt command)) c.state
          (.ok ⟨"confirmed", some id⟩) w' → w'.Places id command.lotId command.plate := by
  intro h
  have hs : garage.entryLookup Garage.otherEntry = garage.base.parkingSessions.head? := by decide
  have hm : garage.misplaced Garage.otherEntry = true := by decide
  exact not_places_of_misplaced garage_sessionsUnique hs hm
    (h plainRuntime _ (.boot garage_sessionsUnique) (.backend 0 (.entryWebhook Garage.otherEntry))
      Garage.otherEntry rfl _ _ (misplaced_confirms plainRuntime _ rfl rfl hs))

end CarPayIn
