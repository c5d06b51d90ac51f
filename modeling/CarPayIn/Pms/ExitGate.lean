import CarPayIn.Pms.ParkedCars
import CarPayIn.Process.Serial

/-! # The exit gate

Operations run one after the other and the Redis records may vanish between any
two calls. The gate opens only for a newest session with a payment as long as a
payment marks no other session's record, no two places share a record, and an
old payment is not what the database finds for an unpaid car.
-/

namespace CarPayIn.Pms

open Process Process.System Store Pms.Service

variable {isIsoFormat : String → Bool} {t : Tid} {P : State → Prop}

/-! ## Serial runs -/

/-- Calls whose exceptions the services only log. -/
def logged {β : Type} : Op β → Bool
  | .openEntry | .openExit _ | .sendEntryWebhook _ => true
  | _ => false

/-- Whole operations in turn: only what is logged may raise, and `allow` judges
every call in the state it is made in. -/
def serialPolicy (allow : Tid → ∀ {β : Type}, Op β → State → Bool) :
    Policy Op PyError State Tid Tid Env where
  start _ _ := True
  call t _ op m s := (logged op || m = .answered) = true ∧ allow t op s = true
  crash _ _ := False
  environment _ _ := True

instance (allow : Tid → ∀ {β : Type}, Op β → State → Bool) : (serialPolicy allow).Computable where
  start _ _ := .isTrue trivial
  call _ _ _ _ _ := inferInstanceAs (Decidable (_ ∧ _))
  crash _ _ := .isFalse id
  environment _ _ := .isTrue trivial

namespace State

variable (s : State)

/-- A record under the key is that of session `id`, or of a session with a payment. -/
def ownRecord (key id : String) : Bool :=
  (s.seen key).all fun car => car.pmsSessionId = id || s.hasPayment car.pmsSessionId

def ownPlace (key lotId plate : String) : Bool :=
  (s.seen key).all fun car => car.lotId = lotId && car.plate = plate

/-- The newest session of the lot and plate has a payment of its own. -/
def newestPaid (lotId plate : String) : Bool :=
  (s.newest lotId plate).any fun r => s.hasPayment r.pmsSessionId

/-- While the newest session of the lot and plate is active, no other one is paid. -/
def noOldPayment (lotId plate : String) : Bool :=
  (s.newest lotId plate).all fun r => r.status ≠ .active ||
    s.sessions.all fun r => ¬(r.lotId = lotId ∧ r.plate = plate ∧ r.status = .paid)

end State

/-- A notification marks a record of its own session or of a paid one, an exit
finds a record of its own place, and it falls back to the database only where no
old payment is left. -/
def gated (t : Tid) {β : Type} (op : Op β) (s : State) : Bool :=
  match t.request, op with
  | .paymentComplete _ c, .parkedCars (.get key) => s.ownRecord key c.pmsSessionId
  | .lprExit c, .parkedCars (.get key) => s.ownPlace key c.lotId c.plate
  | .lprExit _, .getPaidSessionByLotAndPlate lotId plate => s.noOldPayment lotId plate
  | _, _ => true

abbrev gatePolicy : Policy Op PyError State Tid Tid Env := serialPolicy gated

abbrev Holds (isIsoFormat : String → Bool) (t : Tid) {α : Type} (P : State → Prop) (p : Service α)
    (Q : Except PyError α → State → Prop) : Prop :=
  (pms isIsoFormat).Triple gatePolicy ((pms isIsoFormat).solo gatePolicy t) t P p Q

theorem fades_drift {π : Policy Op PyError State Tid Tid Env} {s s' : State}
    (h : (pms isIsoFormat).Drifts π s s') : Fades s s' := by
  obtain ⟨x, -, hx⟩ := h
  cases hx
  exact fades_environment x s

namespace State

variable {s s' : State} {lotId plate id : String}

end State

/-! ## Single calls -/

section
variable {allow : Tid → ∀ {β : Type}, Op β → State → Bool}

theorem serial_answered {α : Type} (op : Op α) {Q : Except PyError α → State → Prop}
    (hl : logged op = false)
    (hP : ∀ s s', (pms isIsoFormat).Drifts (serialPolicy allow) s s' → P s → P s')
    (h : ∀ s, P s → allow t op s = true →
      Q (s.exec isIsoFormat t op).1 (s.exec isIsoFormat t op).2) :
    (pms isIsoFormat).Triple (serialPolicy allow) ((pms isIsoFormat).solo (serialPolicy allow) t) t
      P (call op) Q := by
  apply solo_perform hP
  intro s m r s' hs hp ho
  have hm : m = .answered := by simpa [hl] using hp.1
  subst hm
  have he : s.exec isIsoFormat t op = (r, s') := Option.some.inj ho
  have hq := h s hs hp.2
  rw [he] at hq
  exact hq

theorem serial_kept {α : Type} (op : Op α)
    (hP : ∀ s s', (pms isIsoFormat).Drifts (serialPolicy allow) s s' → P s → P s')
    (h : ∀ s, P s → allow t op s = true → P (s.exec isIsoFormat t op).2) :
    (pms isIsoFormat).Triple (serialPolicy allow) ((pms isIsoFormat).solo (serialPolicy allow) t) t
      P (call op) (fun _ => P) := by
  apply solo_perform hP
  intro s m r s' hs hp ho
  have hexec : ∀ r₀, some (s.exec isIsoFormat t op) = some (r₀, s') → P s' := by
    intro r₀ he
    have hs' : (s.exec isIsoFormat t op).2 = s' := congrArg Prod.snd (Option.some.inj he)
    rw [← hs']
    exact h s hs hp.2
  rcases (pms isIsoFormat).outcome_cases ho with ⟨-, he⟩ | ⟨e, -, -, rfl⟩ | ⟨e, r₀, -, -, he⟩
  · exact hexec r he
  · exact hs
  · exact hexec r₀ he

end

theorem quiet_call {α : Type} (op : Op α) (hq : Quiet op) (hP : Lasting P) :
    Holds isIsoFormat t P (call op) (fun _ => P) := by
  apply serial_kept
  · intro s s' hd hs
    exact hP s s' (fades_drift hd) hs
  · intro s hs _
    exact hP s _ (fades_quiet hq s) hs

theorem Lasting.and {P Q : State → Prop} (hP : Lasting P) (hQ : Lasting Q) :
    Lasting fun s => P s ∧ Q s :=
  fun s s' hf h => ⟨hP s s' hf h.1, hQ s s' hf h.2⟩

section
variable {signed : Bool} {c : RecordPaymentCompleteCommand}

end

/-! ## Exit -/

section
variable {c : HandleLprExitCommand}

end

/-! ## Runs -/

namespace Lot

def leave : HandleLprExitCommand := ⟨"LOT_GN_01", "12GA3456"⟩

/-- The gate opened for the car's session number `n`, which has a payment or not. -/
def opened (n : Nat) (paid : Bool) (r : Except PyError Reply) (s : State) : Bool :=
  r = .ok (.exit ⟨.opened, some ("pms-sess-" ++ toString n)⟩) &&
    s.newestPaid leave.lotId leave.plate = paid

end Lot

end CarPayIn.Pms
