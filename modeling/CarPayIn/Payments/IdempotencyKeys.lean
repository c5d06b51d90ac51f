import CarPayIn.Backend.Uuids
import CarPayIn.Payments.ClosedSessions
import CarPayIn.Process.Timeline

/-! # Texts that are hashed into idempotency keys

Four fields are written one after the other without a separator. They can be told
apart because a longer spelling of a session id continues a shorter one only by
what `uuid.UUID` drops, so both name one session, and a session has one car.
-/

namespace CarPayIn

open Process Process.System Store Service

variable {rt : Runtime} {w : Nat → World} {b b' : Base}

/-! ## Four fields in one text -/

theorem toString_amount {amount : Int} (h : 0 ≤ amount) :
    (toString amount).toList = Nat.toDigits 10 amount.toNat := by
  obtain ⟨m, rfl⟩ := Int.eq_ofNat_of_zero_le h
  exact Nat.toList_repr

theorem amount_injective {amount amount' : Int} (h : 0 ≤ amount) (h' : 0 ≤ amount')
    (heq : (toString amount).toList = (toString amount').toList) : amount = amount' := by
  rw [toString_amount h, toString_amount h'] at heq
  have hvalue : amount.toNat = amount'.toNat := by
    rw [← Nat.ofDigitChars_ten_toDigits (n := amount.toNat), heq, Nat.ofDigitChars_ten_toDigits]
  omega

theorem countP_amount {amount : Int} (h : 0 ≤ amount) :
    (toString amount).toList.countP Char.isDigit = (toString amount).toList.length := by
  rw [toString_amount h, List.countP_eq_length]
  intro c hc
  exact Nat.isDigit_of_mem_toDigits (by decide) (by decide) hc

/-- Fields around the same car id: as many digits behind it, so as many characters. -/
theorem eq_nil_of_shifted {s car a a' : List Char} (hs : ∀ c ∈ s, c.isDigit = false)
    (ha : a.countP Char.isDigit = a.length) (ha' : a'.countP Char.isDigit = a'.length)
    (h : car ++ a = s ++ (car ++ a')) : s = [] := by
  have hdigits := congrArg (List.countP Char.isDigit) h
  have hlength := congrArg List.length h
  have hnone : s.countP Char.isDigit = 0 := List.countP_eq_zero.mpr fun c hc => by simp [hs c hc]
  simp only [List.countP_append, List.length_append] at hdigits hlength
  exact List.length_eq_zero_iff.mp (by omega)

def IsCurrency (currency : String) : Prop :=
  currency.toList.length = 3 ∧ ∀ c ∈ currency.toList, 'A' ≤ c ∧ c ≤ 'Z'

theorem isCurrency_krw : IsCurrency "KRW" := by
  have hall : "KRW".toList.all (fun c => 'A' ≤ c && c ≤ 'Z') = true := by decide
  exact ⟨by decide, fun c hc => by simpa using List.all_eq_true.mp hall c hc⟩

/-! ## The key -/

open ProcessPaymentService

theorem keyText_toList (carId : String) (command : ProcessPaymentCommand) :
    (keyText carId command).toList = command.sessionId.toList ++ (carId.toList ++
      (toString command.amount).toList) ++ command.currency.toList := by
  simp [keyText]

/-! ## Sessions keep their car -/

theorem event_staysKept {w w' : World} (h : (carPayIn rt).Event w w') : StaysKept w.base w'.base := by
  cases h with
  | none => exact .refl _
  | call h => exact (World.exec_session h).staysKept
  | start h => exact .of_same (congrArg _ (begin_spec h).base)
  | environment h =>
      obtain ⟨now, outside, scanned, -, hb⟩ := environment_base h
      exact .of_same (by rw [hb])

/-! ## Requests that pass the checks -/

/-- On the run, the request has passed the checks of quote, session and car, with
this session and this car. -/
def Passes (rt : Runtime) (w : Nat → World) (n : Nat) (command : ProcessPaymentCommand)
    (session : ParkingSession) (carId : String) : Prop :=
  ∃ i j, (carPayIn rt).Reaches w (.backend n (.processPayment command))
    (base (ProcessPaymentService.authorise command)) i (.done (.ok (session, carId))) j

theorem getSessionById_reaches {t : Tid} {sessionId : String} {found : Option ParkingSession}
    {i j : Nat} (h : (carPayIn rt).Reaches w t (base (BaseService.getSessionById sessionId)) i
      (.done (.ok found)) j) :
    ∃ k id, Uuid.parse sessionId = .ok id ∧ (w k).base.getSessionById id = found := by
  unfold BaseService.getSessionById at h
  cases hid : Uuid.parse sessionId with
  | error e =>
      rw [hid] at h
      cases reaches_done h
  | ok id =>
      rw [hid] at h
      obtain ⟨k, -, -, hexec⟩ := reaches_perform h
      have he : (w k).exec t (.base (.getSessionById id)) = some (.ok found, w (k + 1)) := hexec
      obtain ⟨hfound, -⟩ := exec_base he
      exact ⟨k, id, rfl, Except.ok.inj hfound⟩

theorem Passes.found {n : Nat} {command : ProcessPaymentCommand} {session : ParkingSession}
    {carId : String} (h : Passes rt w n command session carId) :
    ∃ k id, Uuid.parse command.sessionId = .ok id ∧
      (w k).base.getSessionById id = some session ∧ session.carId = carId := by
  obtain ⟨i, j, h⟩ := h
  simp only [base, ProcessPaymentService.authorise, Program.bind_eq, Program.lift_bind] at h
  obtain ⟨token, i₁, -, h⟩ := reaches_bind h
  obtain ⟨quote, i₂, -, h⟩ := reaches_bind h
  cases quote with
  | none => cases reaches_done h
  | some quote =>
      simp only at h
      split_ifs at h with hquote
      · cases reaches_done h
      · simp only [Program.lift_bind] at h
        obtain ⟨found, i₃, hsession, h⟩ := reaches_bind h
        cases found with
        | none => cases reaches_done h
        | some found =>
            simp only at h
            split_ifs at h with hcar
            · cases reaches_done h
            · cases reaches_done h
              obtain ⟨k, id, hid, hget⟩ := getSessionById_reaches hsession
              exact ⟨k, id, hid, hget, not_not.mp hcar⟩

/-- A payment of the app that is answered has passed the checks. -/
theorem passes_of_answer {n : Nat} {command : ProcessPaymentCommand} {reply : Reply} {i j : Nat}
    (hdev : command.sessionId ≠ "sess_dev_001")
    (h : (carPayIn rt).Reaches w (.backend n (.processPayment command))
      (program rt (.processPayment command)) i (.done (.ok reply)) j) :
    ∃ session carId, Passes rt w n command session carId := by
  obtain ⟨result, k, h, -⟩ := reaches_bind h
  unfold ProcessPaymentService.execute at h
  rw [if_neg hdev] at h
  obtain ⟨⟨session, carId⟩, k', h, -⟩ := reaches_bind h
  exact ⟨session, carId, i, k', h⟩

theorem carId_eq (hw : (carPayIn rt).Timeline w) {id : Uuid} {k k' : Nat}
    {session session' : ParkingSession} (hs : (w k).base.getSessionById id = some session)
    (hs' : (w k').base.getSessionById id = some session') : session.carId = session'.carId := by
  have hkept : ∀ {i j}, i ≤ j → StaysKept (w i).base (w j).base := fun hij =>
    hw.keeps (R := fun w w' => StaysKept w.base w'.base) (fun w => .refl w.base)
      (fun _ _ _ h h' => h.trans h') (fun _ _ h => event_staysKept h) hij
  rcases Nat.le_total k k' with hle | hle
  · obtain ⟨found, hfound, hsame⟩ := hkept hle id session hs
    rw [hs'] at hfound
    cases hfound
    exact hsame.carId.symm
  · obtain ⟨found, hfound, hsame⟩ := hkept hle id session' hs'
    rw [hs] at hfound
    cases hfound
    exact hsame.carId

/-- A spelling that continues another one: the same session, and nothing follows it. -/
theorem eq_of_continued (hw : (carPayIn rt).Timeline w) {n n' : Nat}
    {command command' : ProcessPaymentCommand} {session session' : ParkingSession}
    {carId carId' : String} (h : Passes rt w n command session carId)
    (h' : Passes rt w n' command' session' carId') (hamount : 0 ≤ command.amount)
    (hamount' : 0 ≤ command'.amount) {s : List Char}
    (hs : command'.sessionId.toList = command.sessionId.toList ++ s)
    (heq : carId.toList ++ (toString command.amount).toList =
      s ++ (carId'.toList ++ (toString command'.amount).toList)) :
    session.sessionId = session'.sessionId ∧ carId = carId' ∧ command.amount = command'.amount := by
  obtain ⟨k, id, hid, hget, rfl⟩ := h.found
  obtain ⟨k', id', hid', hget', rfl⟩ := h'.found
  have hnamed := Uuid.named_of_parse hid
  have hnamed' := Uuid.named_of_parse hid'
  rw [hs] at hnamed'
  have hsame : Uuid.parse command.sessionId = Uuid.parse command'.sessionId :=
    Uuid.parse_congr (by rw [hs, (hnamed.append hnamed').1])
  rw [hid, hid'] at hsame
  cases hsame
  have hcar := carId_eq hw hget hget'
  rw [← hcar] at heq
  have hnil : s = [] := eq_nil_of_shifted (hnamed.continued hnamed') (countP_amount hamount)
    (countP_amount hamount') heq
  subst hnil
  refine ⟨?_, hcar, amount_injective hamount hamount' (List.append_cancel_left heq)⟩
  exact (col_of_get? hget).trans (col_of_get? hget').symm

/-- Requests that pass the checks and are hashed as the same text are about the same session,
car, amount and currency. Under the identity for a hash, a key is the text that is hashed. -/
theorem idempotency_keys_never_alias (rt : Runtime) {w : Nat → World}
    (hw : (carPayIn rt).Timeline w) {n n' : Nat} {command command' : ProcessPaymentCommand}
    {session session' : ParkingSession} {carId carId' : String}
    (h : Passes rt w n command session carId) (h' : Passes rt w n' command' session' carId')
    (hamount : 0 ≤ command.amount) (hamount' : 0 ≤ command'.amount)
    (hcurrency : IsCurrency command.currency) (hcurrency' : IsCurrency command'.currency)
    (heq : idempotencyKey id carId command = idempotencyKey id carId' command') :
    session.sessionId = session'.sessionId ∧ carId = carId' ∧ command.amount = command'.amount ∧
      command.currency = command'.currency := by
  have htexts : (keyText carId command).toList = (keyText carId' command').toList :=
    congrArg String.toList heq
  rw [keyText_toList, keyText_toList] at htexts
  have hlength : command.currency.toList.length = command'.currency.toList.length :=
    hcurrency.1.trans hcurrency'.1.symm
  obtain ⟨hfront, hback⟩ := List.append_inj' htexts hlength
  have hcurr : command.currency = command'.currency := String.toList_injective hback
  rcases List.append_eq_append_iff.mp hfront with ⟨s, hs, hrest⟩ | ⟨s, hs, hrest⟩
  · obtain ⟨hsession, hcar, ha⟩ := eq_of_continued hw h h' hamount hamount' hs hrest
    exact ⟨hsession, hcar, ha, hcurr⟩
  · obtain ⟨hsession, hcar, ha⟩ := eq_of_continued hw h' h hamount' hamount hs hrest
    exact ⟨hsession.symm, hcar.symm, ha.symm, hcurr⟩

/-! ## Two requests for one garage -/

namespace Garage

def quotedFee : FeeQuote where
  sessionId := sessionId
  lotId := "lot-1"
  amount := 1000
  duration := 60
  currency := "KRW"
  entryTime := "2024-01-01T09:00:00"
  status := .active

def quoted : World :=
  { garage with base := { garage.base with
      quotes := Function.update garage.base.quotes sessionId (some { value := quotedFee, expiresAt := none }) } }

def quotedCommand : ProcessPaymentCommand := ⟨token, sessionId, 1000, "KRW"⟩

theorem quotedCommand_passes (n : Nat) : Passes plainRuntime (fun _ => quoted) n quotedCommand
    ⟨0, some "pms-1", "car-1", "lot-1", "12GA3456", "2024-01-01T09:00:00", none, .active⟩
    "car-1" := by
  have hid : Uuid.parse sessionId = .ok 0 := by
    rw [Uuid.parse]
    decide
  have hsession : (carPayIn plainRuntime).Reaches (fun _ => quoted)
      (.backend n (.processPayment quotedCommand)) (base (BaseService.getSessionById sessionId)) 2
      (.done (.ok (garage.base.getSessionById 0))) 3 := by
    unfold BaseService.getSessionById
    rw [hid]
    exact .call (m := .answered) (Nat.le_refl 2) rfl (.refl (Nat.le_refl 3))
  refine ⟨0, 3, ?_⟩
  simp only [base, ProcessPaymentService.authorise, Program.bind_eq, Program.lift_bind]
  apply Reaches.bind (.call (m := .answered) (Nat.le_refl 0) rfl (.refl (Nat.le_refl 1)))
  apply Reaches.bind (.call (m := .answered) (Nat.le_refl 1) rfl (.refl (Nat.le_refl 2)))
  have hread : (Cache.read quoted.base.now quoted.base.quotes quotedCommand.sessionId).map
      (fun e => e.value) = some quotedFee := by
    rfl
  simp only [hread]
  rw [if_neg (by decide), Program.lift_bind]
  exact hsession.bind (.refl (Nat.le_refl 3))

end Garage

theorem quoted_timeline : (carPayIn plainRuntime).Timeline fun _ => Garage.quoted :=
  fun _ => .none

/-- Two payments of the car's session. -/
theorem idempotency_keys_never_alias_garage :
    ∃ session, Passes plainRuntime (fun _ => Garage.quoted) 0 Garage.quotedCommand session "car-1" ∧
      Passes plainRuntime (fun _ => Garage.quoted) 1 Garage.quotedCommand session "car-1" ∧
        session.sessionId = session.sessionId ∧ "car-1" = "car-1" ∧
          Garage.quotedCommand.amount = Garage.quotedCommand.amount ∧
            Garage.quotedCommand.currency = Garage.quotedCommand.currency :=
  ⟨_, Garage.quotedCommand_passes 0, Garage.quotedCommand_passes 1,
    idempotency_keys_never_alias plainRuntime quoted_timeline (Garage.quotedCommand_passes 0)
      (Garage.quotedCommand_passes 1) (by decide) (by decide) isCurrency_krw isCurrency_krw rfl⟩

end CarPayIn
