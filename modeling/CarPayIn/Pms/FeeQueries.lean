import CarPayIn.Pms.Fees
import CarPayIn.Pms.ParkedCars
import CarPayIn.Process.Follows
import CarPayIn.Process.Observers

/-! # Fees that are asked for

A query reads a session and then the clock, at two moments of a run of the PMS.
A session that is active has always been, whatever the executions do and whatever
of it fails, and the clock moves on: who asks again is not told less.
-/

namespace CarPayIn.Pms

open Process Process.System Store

/-! ## The queries -/

structure CalculateFeeCommand where
  pmsSessionId : Option String
  currentTime : Option String
  lotId : Option String
  plate : Option String
deriving DecidableEq, Repr

structure CalculateFeeResult where
  amount : Int
  durationMinutes : Int
  currency : String
  pmsSessionId : String
  lotId : String
  plate : String
  entryTime : String
  calculatedAt : String
deriving DecidableEq, Repr

/-- The reads of the repository, and of the clock. -/
inductive Query : Type → Type 1 where
  | now : Query Nat
  | getActiveSessionByLotAndPlate (lotId plate : String) : Query (Option PMSParkingSession)
  | getSessionById (id : String) : Query (Option PMSParkingSession)

def State.getActiveSessionByLotAndPlate (s : State) (lotId plate : String) :
    Option PMSParkingSession :=
  s.sessions.find? fun r => r.lotId = lotId && r.plate = plate && r.status = .active

def State.answer (β : Type) (q : Query β) (s : State) : β :=
  match q with
  | .now => s.now
  | .getActiveSessionByLotAndPlate lotId plate => s.getActiveSessionByLotAndPlate lotId plate
  | .getSessionById id => s.getSessionById id

/-- Times as text: what `fromisoformat` reads, what a stored entry time is shown as, and what
`datetime.now(timezone.utc).isoformat()` shows, of which only the order is used. -/
structure Times where
  fromisoformat : String → Except PyError DateTime
  column : String → String
  isoformat : Nat → String
  inOrder : ∀ now now' t t', now ≤ now' → fromisoformat (isoformat now) = .ok t →
    fromisoformat (isoformat now') = .ok t' → t.instant ≤ t'.instant

def given (text : Option String) : Option String := text.filter fun s => s ≠ ""

namespace CalculateFeeService

def query {α : Type} (q : Query α) : Program Query PyError α := .perform q

def findByPlace (command : CalculateFeeCommand) :
    Program Query PyError (Option PMSParkingSession) :=
  match given command.lotId, given command.plate with
  | some lotId, some plate => query (.getActiveSessionByLotAndPlate lotId plate)
  | _, _ => return none

def findSession (command : CalculateFeeCommand) :
    Program Query PyError (Option PMSParkingSession) := do
  match ← findByPlace command with
  | some session => return some session
  | none =>
      match given command.pmsSessionId with
      | some id => query (.getSessionById id)
      | none => return none

variable (times : Times)

def getCurrentTime (command : CalculateFeeCommand) : Program Query PyError String :=
  match given command.currentTime with
  | some currentTime => return currentTime
  | none => times.isoformat <$> query .now

def execute (amountPer30Minutes : Int) (command : CalculateFeeCommand) :
    Program Query PyError CalculateFeeResult := do
  match ← findSession command with
  | none => throw (.valueError "session_not_found")
  | some session =>
      if session.status ≠ .active then throw (.valueError "session_not_active")
      else
        let currentTime ← getCurrentTime times command
        let entryTime := times.column session.entryTime
        let fee ← .done (SimpleFeeCalculator.calculate times.fromisoformat amountPer30Minutes
          entryTime currentTime)
        return ⟨fee.amount, fee.durationMinutes, "KRW", session.pmsSessionId, session.lotId,
          session.plate, entryTime, currentTime⟩

end CalculateFeeService

/-! ## What becomes of a session -/

/-- The same stay, and active only if it was. -/
structure PMSParkingSession.Becomes (r r' : PMSParkingSession) : Prop where
  id : r'.pmsSessionId = r.pmsSessionId
  lotId : r'.lotId = r.lotId
  plate : r'.plate = r.plate
  entryTime : r'.entryTime = r.entryTime
  active : r'.status = .active → r.status = .active

theorem PMSParkingSession.Becomes.refl (r : PMSParkingSession) : r.Becomes r :=
  ⟨rfl, rfl, rfl, rfl, fun h => h⟩

theorem PMSParkingSession.Becomes.trans {r r' r'' : PMSParkingSession} (h : r.Becomes r')
    (h' : r'.Becomes r'') : r.Becomes r'' :=
  ⟨h'.id.trans h.id, h'.lotId.trans h.lotId, h'.plate.trans h.plate, h'.entryTime.trans h.entryTime,
    fun hactive => h.active (h'.active hactive)⟩

def State.Distinct (s : State) : Prop := UniqueBy PMSParkingSession.pmsSessionId s.sessions

/-- The clock does not go back, ids stay unique, and no session becomes active again. -/
structure Ages (s s' : State) : Prop where
  now : s.now ≤ s'.now
  distinct : s.Distinct → s'.Distinct
  sessions : ∀ r ∈ s.sessions, ∃ r' ∈ s'.sessions, r.Becomes r'

variable {isIsoFormat : String → Bool} {s s' s'' : State}

theorem Ages.of_sessions (hnow : s.now ≤ s'.now) (h : s'.sessions = s.sessions) : Ages s s' where
  now := hnow
  distinct := by
    unfold State.Distinct
    rw [h]
    exact fun hs => hs
  sessions r hr := ⟨r, h ▸ hr, .refl r⟩

theorem Ages.trans (h : Ages s s') (h' : Ages s' s'') : Ages s s'' where
  now := Nat.le_trans h.now h'.now
  distinct hs := h'.distinct (h.distinct hs)
  sessions r hr := by
    obtain ⟨r', hr', hbecomes⟩ := h.sessions r hr
    obtain ⟨r'', hr'', hbecomes'⟩ := h'.sessions r' hr'
    exact ⟨r'', hr'', hbecomes.trans hbecomes'⟩

theorem Ages.create {id lotId plate entryTime : String}
    (h : s.createSession isIsoFormat id lotId plate entryTime = .ok s') : Ages s s' := by
  unfold State.createSession at h
  split_ifs at h with _ _ hnew _
  cases h
  have hnone : s.getSessionById id = none := by simpa using hnew
  exact ⟨Nat.le_refl _, fun hs => UniqueBy.cons hs hnone, fun r hr => ⟨r, .tail _ hr, .refl r⟩⟩

theorem Ages.mark {id : String} {f : PMSParkingSession → PMSParkingSession}
    (hf : ∀ r : PMSParkingSession, r.Becomes (f r)) : Ages s (s.setSession id f) where
  now := Nat.le_refl _
  distinct hs := UniqueBy.modify hs fun r => (hf r).id
  sessions r hr := by
    refine ⟨_, List.mem_map_of_mem hr, ?_⟩
    split
    · exact hf r
    · exact .refl r

theorem ages_exec {t : Tid} {β : Type} (op : Op β) (s : State) :
    Ages s (s.exec isIsoFormat t op).2 := by
  have hwrite (r : Except PyError State) (h : ∀ s', r = .ok s' → Ages s s') :
      Ages s (s.write r).2 := by
    cases r with
    | ok s' => exact h s' rfl
    | error e => exact .of_sessions (Nat.le_refl _) rfl
  cases op with
  | createSession id lotId plate entryTime => exact hwrite _ fun s' => Ages.create
  | markPaid id =>
      apply hwrite
      intro s' h
      unfold State.markPaid at h
      split at h
      · cases h
      · cases h
        exact .mark fun r => ⟨rfl, rfl, rfl, rfl, nofun⟩
  | markExited id =>
      apply hwrite
      intro s' h
      unfold State.markExited at h
      split at h
      · cases h
      · cases h
        exact .mark fun r => ⟨rfl, rfl, rfl, rfl, nofun⟩
  | insertPaymentRequest row =>
      apply hwrite
      intro s' h
      unfold State.insertPaymentRequest at h
      split_ifs at h
      cases h
      exact .of_sessions (Nat.le_refl _) rfl
  | _ => exact .of_sessions (Nat.le_refl _) rfl

theorem pms_ages : (pms isIsoFormat).Follows (fun _ => True) Ages where
  begin x s t p s' h := by
    cases h
    exact ⟨.of_forall (fun _ => trivial) _, .of_sessions (Nat.le_refl _) rfl⟩
  exec t β op s r s' _ h := by
    have hexec : s.exec isIsoFormat t op = (r, s') := Option.some.inj h
    have hages : Ages s (s.exec isIsoFormat t op).2 := ages_exec op s
    rwa [hexec] at hages
  environment x s s' h := by
    cases h
    cases x with
    | tick ms => exact .of_sessions (Nat.le_add_right _ _) rfl
    | loseParkedCar key => exact .of_sessions (Nat.le_refl _) rfl
    | losePreRegistration key => exact .of_sessions (Nat.le_refl _) rfl

variable {π : Policy Op PyError State Tid Tid Env} {init : State → Prop}
  {c c' : Config Op PyError Reply State Tid}

theorem ages_later (hc : (pms isIsoFormat).Reachable π init c) (h : (pms isIsoFormat).Later π c c') :
    Ages c.state c'.state :=
  pms_ages.kept (J := Ages c.state) (fun _ _ h h' => h'.trans h) hc h
    (.of_sessions (Nat.le_refl _) rfl)

/-! ## What a query has seen -/

/-- The session was active at that moment, and the fee is that of its entry time. -/
structure Quote (times : Times) (amountPer30Minutes : Int) (r : PMSParkingSession) (s : State)
    (a : CalculateFeeResult) : Prop where
  mem : r ∈ s.sessions
  active : r.status = .active
  fee : SimpleFeeCalculator.calculate times.fromisoformat amountPer30Minutes
    (times.column r.entryTime) a.calculatedAt = .ok ⟨a.amount, a.durationMinutes⟩
  pmsSessionId : a.pmsSessionId = r.pmsSessionId
  lotId : a.lotId = r.lotId
  plate : a.plate = r.plate
  entryTime : a.entryTime = times.column r.entryTime

variable (isIsoFormat π c) in
/-- What was found after `c` was there at some moment in between. -/
def Found (found : Option PMSParkingSession) (c' : Config Op PyError Reply State Tid) : Prop :=
  (pms isIsoFormat).Later π c c' ∧ ∀ r, found = some r → ∃ c₁, (pms isIsoFormat).Later π c c₁ ∧
    (pms isIsoFormat).Later π c₁ c' ∧ r ∈ c₁.state.sessions

theorem found_none (h : (pms isIsoFormat).Later π c c') : Found isIsoFormat π c none c' :=
  ⟨h, fun r hr => by cases hr⟩

theorem sees_find {q : Query (Option PMSParkingSession)}
    (hq : ∀ s r, State.answer _ q s = some r → r ∈ s.sessions) :
    (pms isIsoFormat).Sees π State.answer ((pms isIsoFormat).Later π c)
      (CalculateFeeService.query q) (Found isIsoFormat π c) := by
  apply Sees.query
  intro c₀ c₁ h₀ hl
  refine ⟨h₀.trans hl, fun r hr => ?_⟩
  exact ⟨c₁, h₀.trans hl, .refl, hq c₁.state r hr⟩

theorem sees_findSession (command : CalculateFeeCommand) :
    (pms isIsoFormat).Sees π State.answer ((pms isIsoFormat).Later π c)
      (CalculateFeeService.findSession command) (Found isIsoFormat π c) := by
  unfold CalculateFeeService.findSession
  simp only [Program.bind_eq, Program.pure_eq]
  apply Sees.bind (M := Found isIsoFormat π c)
  · unfold CalculateFeeService.findByPlace
    split
    · exact sees_find fun s r hr => List.mem_of_find?_eq_some hr
    · exact Sees.pure fun _ h => found_none h
  intro found
  cases found with
  | some r => exact Sees.pure fun _ h => h
  | none =>
      dsimp only
      split
      · apply Sees.conseq (sees_find ?_) fun _ h => h.1
        exact fun s r hr => mem_of_get? hr
      · exact Sees.pure fun _ h => found_none h.1

variable (isIsoFormat π) in
/-- A query that names no time is given that of a moment in between. -/
def Timed (times : Times) (command : CalculateFeeCommand) (currentTime : String)
    (c c' : Config Op PyError Reply State Tid) : Prop :=
  given command.currentTime = none → ∃ c₂, (pms isIsoFormat).Later π c c₂ ∧
    (pms isIsoFormat).Later π c₂ c' ∧ currentTime = times.isoformat c₂.state.now

theorem sees_getCurrentTime (times : Times) (command : CalculateFeeCommand) (r : PMSParkingSession) :
    (pms isIsoFormat).Sees π State.answer (Found isIsoFormat π c (some r))
      (CalculateFeeService.getCurrentTime times command)
      fun currentTime c' => ∃ c₁, (pms isIsoFormat).Later π c c₁ ∧ (pms isIsoFormat).Later π c₁ c' ∧
        r ∈ c₁.state.sessions ∧ Timed isIsoFormat π times command currentTime c₁ c' := by
  unfold CalculateFeeService.getCurrentTime
  split
  · rename_i hgiven
    apply Sees.pure
    rintro c' ⟨-, h⟩
    obtain ⟨c₁, h₁, h₂, hr⟩ := h r rfl
    exact ⟨c₁, h₁, h₂, hr, fun hnone => by rw [hgiven] at hnone; cases hnone⟩
  · apply Sees.bind (M := fun now c' => ∃ c₁ c₂, (pms isIsoFormat).Later π c c₁ ∧
      (pms isIsoFormat).Later π c₁ c₂ ∧ (pms isIsoFormat).Later π c₂ c' ∧
      r ∈ c₁.state.sessions ∧ now = c₂.state.now)
    · apply Sees.query
      rintro c₀ c₂ ⟨-, h⟩ hl
      obtain ⟨c₁, h₁, h₁₀, hr⟩ := h r rfl
      exact ⟨c₁, c₂, h₁, h₁₀.trans hl, .refl, hr, rfl⟩
    · intro now
      apply Sees.pure
      rintro c' ⟨c₁, c₂, h₁, h₂, h₃, hr, rfl⟩
      exact ⟨c₁, h₁, h₂.trans h₃, hr, fun _ => ⟨c₂, h₂, h₃, rfl⟩⟩

/-- What is answered was quoted at a moment after the query began. -/
theorem sees_execute (times : Times) (amountPer30Minutes : Int) (command : CalculateFeeCommand) :
    (pms isIsoFormat).Sees π State.answer ((pms isIsoFormat).Later π c)
      (CalculateFeeService.execute times amountPer30Minutes command)
      fun a c' => ∃ c₁ r, (pms isIsoFormat).Later π c c₁ ∧ (pms isIsoFormat).Later π c₁ c' ∧
        Quote times amountPer30Minutes r c₁.state a ∧
        Timed isIsoFormat π times command a.calculatedAt c₁ c' := by
  unfold CalculateFeeService.execute
  simp only [Program.bind_eq, Program.pure_eq, Program.throw_eq]
  apply Sees.bind (sees_findSession command)
  intro found
  cases found with
  | none => exact Sees.throw
  | some r =>
      dsimp only
      split
      · exact Sees.throw
      · rename_i hactive
        have hactive : r.status = .active := by simpa using hactive
        apply Sees.bind (sees_getCurrentTime times command r)
        intro currentTime
        apply Sees.bind
        · apply Sees.result
          intro fee c₀ hfee h
          exact And.intro hfee h
        · intro fee
          apply Sees.pure
          rintro c₀ ⟨hfee, c₁, h₁, h₂, hr, htimed⟩
          exact ⟨c₁, r, h₁, h₂, ⟨hr, hactive, hfee, rfl, rfl, rfl, rfl⟩, htimed⟩

/-! ## Asking again -/

theorem Quote.calculated {times : Times} {amountPer30Minutes : Int} {r : PMSParkingSession}
    {s : State} {a : CalculateFeeResult} (h : Quote times amountPer30Minutes r s a) :
    ∃ entry current, times.fromisoformat (times.column r.entryTime) = .ok entry ∧
      times.fromisoformat a.calculatedAt = .ok current ∧
      a.durationMinutes = (current.instant - entry.instant).tdiv SimpleFeeCalculator.minute ∧
      a.amount = SimpleFeeCalculator.blocks a.durationMinutes * amountPer30Minutes := by
  have hfee := h.fee
  cases hentry : times.fromisoformat (times.column r.entryTime) with
  | error e => simp [SimpleFeeCalculator.calculate, hentry, bind, Except.bind] at hfee
  | ok entry =>
      cases hcurrent : times.fromisoformat a.calculatedAt with
      | error e => simp [SimpleFeeCalculator.calculate, hentry, hcurrent, bind, Except.bind] at hfee
      | ok current =>
          obtain ⟨-, hminutes, hamount⟩ :=
            (SimpleFeeCalculator.calculate_eq_ok hentry hcurrent).mp hfee
          exact ⟨entry, current, rfl, rfl, hminutes, hamount⟩

/-- Of two quotes for one entry time the later one is not lower. -/
theorem Quote.le {times : Times} {amountPer30Minutes : Int} (hrate : 0 ≤ amountPer30Minutes)
    {r r' : PMSParkingSession} {s s' : State} {a a' : CalculateFeeResult}
    (h : Quote times amountPer30Minutes r s a) (h' : Quote times amountPer30Minutes r' s' a')
    (hentry : r'.entryTime = r.entryTime) {now now' : Nat} (hat : a.calculatedAt = times.isoformat now)
    (hat' : a'.calculatedAt = times.isoformat now') (hnow : now ≤ now') :
    a.durationMinutes ≤ a'.durationMinutes ∧ a.amount ≤ a'.amount := by
  obtain ⟨entry, current, hparse, hcurrent, hminutes, hamount⟩ := h.calculated
  obtain ⟨entry', current', hparse', hcurrent', hminutes', hamount'⟩ := h'.calculated
  rw [hentry, hparse] at hparse'
  cases hparse'
  rw [hat] at hcurrent
  rw [hat'] at hcurrent'
  have horder := times.inOrder _ _ _ _ hnow hcurrent hcurrent'
  have hle : a.durationMinutes ≤ a'.durationMinutes := by
    rw [hminutes, hminutes']
    exact SimpleFeeCalculator.minutes_mono (by omega)
  refine ⟨hle, ?_⟩
  rw [hamount, hamount']
  exact Int.mul_le_mul_of_nonneg_right (SimpleFeeCalculator.blocks_mono hle) hrate

/-- Every earlier row with the id of a quote is one that the quoted row has become. -/
theorem Quote.becomes {times : Times} {amountPer30Minutes : Int} {r : PMSParkingSession}
    {a : CalculateFeeResult} (h : Quote times amountPer30Minutes r c'.state a)
    (hc : (pms isIsoFormat).Reachable π State.Distinct c) (hl : (pms isIsoFormat).Later π c c')
    {r₀ : PMSParkingSession} (hr₀ : r₀ ∈ c.state.sessions)
    (hid : r₀.pmsSessionId = a.pmsSessionId) : r₀.Becomes r := by
  have hunique : c'.state.Distinct :=
    pms_ages.invariant (fun _ h => h) (fun _ _ h => h.distinct) (hl.reachable _ hc)
  obtain ⟨r₁, hr₁, hbecomes⟩ := (ages_later hc hl).sessions r₀ hr₀
  have hsame : r₁.pmsSessionId = r.pmsSessionId := by
    rw [hbecomes.id, hid, h.pmsSessionId]
  rwa [List.inj_on_of_nodup_map hunique hr₁ h.mem hsame] at hbecomes

/-- At no moment before a fee query that is answered has the session it names been anything but
active. -/
theorem quoted_session_active (times : Times) {amountPer30Minutes : Int}
    {command : CalculateFeeCommand} {a : CalculateFeeResult}
    {d d' : Config Op PyError Reply State Tid}
    (hasked : (pms isIsoFormat).Observes π State.answer d
      (CalculateFeeService.execute times amountPer30Minutes command) (.ok a) d')
    (hc : (pms isIsoFormat).Reachable π State.Distinct c) (hl : (pms isIsoFormat).Later π c d)
    {r : PMSParkingSession} (hr : r ∈ c.state.sessions) (hid : r.pmsSessionId = a.pmsSessionId) :
    r.status = .active := by
  obtain ⟨d₁, r', h₁, -, hquote, -⟩ :=
    (sees_execute times amountPer30Minutes command).holds d a d' .refl hasked
  exact (hquote.becomes hc (hl.trans h₁) hr hid).active hquote.active

/-- Who asks for a session again is told the same place and entry, and not less time nor money; and
at no moment before has the session been anything but active. -/
theorem fees_only_rise (isIsoFormat : String → Bool) (times : Times) {amountPer30Minutes : Int}
    (hrate : 0 ≤ amountPer30Minutes) {c c' d d' : Config Op PyError Reply State Tid}
    (hc : (pms isIsoFormat).Reachable Policy.any State.Distinct c)
    {command command' : CalculateFeeCommand} (hnow : given command.currentTime = none)
    (hnow' : given command'.currentTime = none) {a a' : CalculateFeeResult}
    (hasked : (pms isIsoFormat).Observes Policy.any State.answer c
      (CalculateFeeService.execute times amountPer30Minutes command) (.ok a) c')
    (hlater : (pms isIsoFormat).Later Policy.any c' d)
    (hagain : (pms isIsoFormat).Observes Policy.any State.answer d
      (CalculateFeeService.execute times amountPer30Minutes command') (.ok a') d')
    (hsame : a'.pmsSessionId = a.pmsSessionId) :
    a'.lotId = a.lotId ∧ a'.plate = a.plate ∧ a'.entryTime = a.entryTime ∧
    a.durationMinutes ≤ a'.durationMinutes ∧ a.amount ≤ a'.amount ∧
    ∀ e, (pms isIsoFormat).Reachable Policy.any State.Distinct e →
      (pms isIsoFormat).Later Policy.any e d → ∀ r ∈ e.state.sessions,
        r.pmsSessionId = a.pmsSessionId → r.status = .active := by
  obtain ⟨c₁, r, h₁, h₂, hquote, htimed⟩ :=
    (sees_execute times amountPer30Minutes command).holds c a c' .refl hasked
  obtain ⟨d₁, r', h₁', h₂', hquote', htimed'⟩ :=
    (sees_execute times amountPer30Minutes command').holds d a' d' .refl hagain
  obtain ⟨c₂, hc₂, h₃, hat⟩ := htimed hnow
  obtain ⟨d₂, hd₂, -, hat'⟩ := htimed' hnow'
  have hc₁ := h₁.reachable _ hc
  have hbecomes : r.Becomes r' := by
    apply hquote'.becomes hc₁ ((h₂.trans hlater).trans h₁') hquote.mem
    rw [hsame, hquote.pmsSessionId]
  have hages : Ages c₂.state d₂.state :=
    ages_later (hc₂.reachable _ hc₁) (((h₃.trans hlater).trans h₁').trans hd₂)
  have hle := hquote.le hrate hquote' hbecomes.entryTime hat hat' hages.now
  refine ⟨?_, ?_, ?_, hle.1, hle.2, ?_⟩
  · rw [hquote'.lotId, hbecomes.lotId, hquote.lotId]
  · rw [hquote'.plate, hbecomes.plate, hquote.plate]
  · rw [hquote'.entryTime, hbecomes.entryTime, hquote.entryTime]
  · exact fun e he hl r₀ hr₀ hid =>
      quoted_session_active times hagain he hl hr₀ (hid.trans hsame.symm)

/-! ## One car -/

namespace Lot

def morning : String → Except PyError DateTime
  | "2024-01-01T09:00:00+00:00" => .ok ⟨63839696400000000, some 0⟩
  | "2024-01-01T09:40:00+00:00" => .ok ⟨63839698800000000, some 0⟩
  | _ => .error (.valueError "Invalid isoformat string")

def hour (now : Nat) : String :=
  if now = 0 then "2024-01-01T09:00:00+00:00"
  else if now = 2400000 then "2024-01-01T09:40:00+00:00"
  else ""

theorem morning_hour {now : Nat} {t : DateTime} (h : morning (hour now) = .ok t) :
    now = 0 ∧ t = ⟨63839696400000000, some 0⟩ ∨
      now = 2400000 ∧ t = ⟨63839698800000000, some 0⟩ := by
  unfold hour at h
  split_ifs at h with hstart hend
  · cases h
    exact .inl ⟨hstart, rfl⟩
  · cases h
    exact .inr ⟨hend, rfl⟩
  · cases h

def times : Times where
  fromisoformat := morning
  column entryTime := entryTime ++ "+00:00"
  isoformat := hour
  inOrder now now' t t' hle h h' := by
    rcases morning_hour h with ⟨rfl, rfl⟩ | ⟨rfl, rfl⟩
    · rcases morning_hour h' with ⟨-, rfl⟩ | ⟨-, rfl⟩
      · decide
      · decide
    · rcases morning_hour h' with ⟨rfl, -⟩ | ⟨-, rfl⟩
      · exact absurd hle (by decide)
      · decide

def feeQuery : CalculateFeeCommand where
  pmsSessionId := none
  currentTime := none
  lotId := some "LOT_GN_01"
  plate := some "12GA3456"

def quoted (amount durationMinutes : Int) (calculatedAt : String) : CalculateFeeResult :=
  ⟨amount, durationMinutes, "KRW", "pms-sess-0", "LOT_GN_01", "12GA3456",
    "2024-01-01T09:00:00+00:00", calculatedAt⟩

end Lot

/-- The car is asked for when it has come in, and forty minutes later. -/
theorem fees_only_rise_lot : ∃ c d, (pms fun _ => true).Reachable Policy.any State.Distinct c ∧
    (pms fun _ => true).Later Policy.any c d ∧
    (Lot.quoted 0 0 "2024-01-01T09:00:00+00:00").amount ≤
      (Lot.quoted 1000 40 "2024-01-01T09:40:00+00:00").amount ∧
    ∀ r ∈ c.state.sessions, r.pmsSessionId = "pms-sess-0" → r.status = .active := by
  have hrun : ((pms fun _ => true).run Policy.any (.start Lot.entry :: System.answers Lot.entry 6)
      (boot emptyLot)).any (fun c =>
        Program.askAt State.answer c.state (CalculateFeeService.execute Lot.times 500 Lot.feeQuery) =
          .ok (Lot.quoted 0 0 "2024-01-01T09:00:00+00:00") &&
        ((pms fun _ => true).run Policy.any [.environment (.tick 2400000)] c).any fun d =>
          Program.askAt State.answer d.state
              (CalculateFeeService.execute Lot.times 500 Lot.feeQuery) =
            .ok (Lot.quoted 1000 40 "2024-01-01T09:40:00+00:00")) = true := by
    decide +kernel
  have hvacant : emptyLot.Distinct := List.nodup_nil
  obtain ⟨c, d, hc, hasked, hl, hagain⟩ := (pms fun _ => true).exists_of_runs hrun hvacant
  have hnow {c : Config Op PyError Reply State Tid} {a : CalculateFeeResult}
      (h : Program.askAt State.answer c.state
        (CalculateFeeService.execute Lot.times 500 Lot.feeQuery) = .ok a) :
      (pms fun _ => true).Observes Policy.any State.answer c
        (CalculateFeeService.execute Lot.times 500 Lot.feeQuery) (.ok a) c := by
    rw [← h]
    exact .atOnce _
  obtain ⟨-, -, -, -, hle, hactive⟩ := fees_only_rise _ Lot.times (by decide) hc rfl rfl
    (hnow (of_decide_eq_true hasked)) hl (hnow (of_decide_eq_true hagain)) rfl
  exact ⟨c, d, hc, hl, hle, hactive c hc hl⟩

end CarPayIn.Pms
