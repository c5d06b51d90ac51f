import CarPayIn.Pms.Services
import CarPayIn.Process.Rules
import Mathlib.Tactic.SplitIfs

/-! # What the Redis records say about sessions

A record is filed under the text of its lot and plate, names the newest session
of that place and says `paid` only of a session with a payment. Records may
vanish at any time, and most calls touch neither the tables nor the records.
-/

namespace CarPayIn.Pms

open Process Store

def PMSParkingSession.place (r : PMSParkingSession) : String × String := (r.lotId, r.plate)

namespace State

variable (s : State)

def newest (lotId plate : String) : Option PMSParkingSession :=
  get? PMSParkingSession.place (lotId, plate) s.sessions

def seen (key : String) : Option ParkedCar := (s.parkedCars.read s.now key).map (·.value)

def hasPayment (id : String) : Bool :=
  s.paymentRequests.any fun p => p.pmsSessionId = id && p.status = .success

def IsNewest (lotId plate id : String) : Prop :=
  ∃ r, s.newest lotId plate = some r ∧ r.pmsSessionId = id

/-- What a record under a key says is true. -/
structure Truthful (key : String) (car : ParkedCar) : Prop where
  key : key = RedisParkingSessionStore.key car.lotId car.plate
  newest : s.IsNewest car.lotId car.plate car.pmsSessionId
  paid : car.status ≠ .active → s.hasPayment car.pmsSessionId

/-- Sessions leave `active` with a payment, and the records are true, the one
under a stale key excepted. -/
structure Consistent (stale : Option String) : Prop where
  unique : UniqueBy PMSParkingSession.pmsSessionId s.sessions
  paid : ∀ r ∈ s.sessions, r.status ≠ .active → s.hasPayment r.pmsSessionId
  records : ∀ key e, some key ≠ stale → s.parkedCars key = some e → s.Truthful key e.value

end State

/-! ## Calls that leave the tables alone -/

/-- The tables are the same, and no record has been written. -/
structure Fades (s s' : State) : Prop where
  sessions : s'.sessions = s.sessions
  paymentRequests : s'.paymentRequests = s.paymentRequests
  parkedCars : ∀ key e, s'.parkedCars key = some e → s.parkedCars key = some e

/-- An assertion that survives the loss of records. -/
def Lasting (P : State → Prop) : Prop := ∀ s s', Fades s s' → P s → P s'

theorem Fades.refl (s : State) : Fades s s := ⟨rfl, rfl, fun _ _ h => h⟩

theorem update_none_eq_some {κ ν : Type} [DecidableEq κ] {c : Cache κ ν} {key key' : κ}
    {e : Entry ν} (h : Function.update c key none key' = some e) : c key' = some e := by
  by_cases hk : key' = key
  · subst hk; simp at h
  · simpa [hk] using h

theorem fades_environment (x : Env) (s : State) : Fades s (s.environment x) := by
  cases x with
  | loseParkedCar key => exact ⟨rfl, rfl, fun _ _ h => update_none_eq_some h⟩
  | _ => exact ⟨rfl, rfl, fun _ _ h => h⟩

def Quiet {β : Type} : Op β → Prop
  | .createSession .. | .markPaid _ | .markExited _ | .insertPaymentRequest _ => False
  | .parkedCars (.set ..) => False
  | _ => True

theorem fades_quiet {isIsoFormat : String → Bool} {t : Tid} {β : Type} {op : Op β} (hq : Quiet op)
    (s : State) : Fades s (s.exec isIsoFormat t op).2 := by
  cases op with
  | parkedCars op =>
      cases op with
      | set => exact hq.elim
      | delete key => exact ⟨rfl, rfl, fun _ _ h => update_none_eq_some h⟩
      | _ => exact .refl s
  | createSession | markPaid | markExited | insertPaymentRequest => exact hq.elim
  | _ => exact ⟨rfl, rfl, fun _ _ h => h⟩

theorem bestEffort_quiet {op : Op Unit} (hq : Quiet op) :
    (Service.bestEffort op).Calls Quiet := by
  apply Program.Calls.bind
  · exact .attempt ((Program.calls_perform op).mpr hq)
  · exact fun _ => trivial

theorem notifyEntry_quiet (id : String) (c : HandleLprEntryCommand) :
    (HandleLprEntryService.notifyEntry id c).Calls Quiet := by
  apply Program.Calls.bind
  · apply Program.Calls.bind
    · exact (Program.calls_perform _).mpr trivial
    · exact fun _ => trivial
  · intro registered
    split
    · apply Program.Calls.bind
      · exact (Program.calls_perform _).mpr trivial
      · exact fun _ => bestEffort_quiet trivial
    · trivial

/-- A lookup error counts as if nothing had been raised. -/
theorem ignoreLookupError_triple {σ : Type} {S : System Op PyError Reply σ Tid Tid Env}
    {π : Policy Op PyError σ Tid Tid Env} {R : Contract σ Tid} {t : Tid} {p : Service Unit}
    {P M : σ → Prop} (hp : S.Triple π R t P p fun _ => M) :
    S.Triple π R t P (tryCatch p RecordPaymentCompleteService.ignoreLookupError) fun _ => M := by
  apply System.Triple.tryCatch (M := fun _ => M)
  · apply System.Triple.conseq hp (fun _ hs => hs)
    intro r s hs
    cases r with
    | ok _ => exact hs
    | error e => exact hs
  · intro e
    unfold RecordPaymentCompleteService.ignoreLookupError
    split
    · exact .done fun _ hs => hs
    · exact .done fun _ hs => hs
    · exact .done fun _ hs => hs

namespace State

variable {s s' : State} {stale : Option String} {lotId plate id key : String}

theorem seen_eq_some {car : ParkedCar} (h : s.seen key = some car) :
    ∃ e, s.parkedCars key = some e ∧ e.value = car := by
  obtain ⟨e, he, hcar⟩ := Option.map_eq_some_iff.mp h
  exact ⟨e, (Cache.read_eq_some.mp he).1, hcar⟩

/-- No new record is seen later when none has been written. -/
theorem seen_of_later {car : ParkedCar} (hn : s.now ≤ s'.now)
    (hc : ∀ e, s'.parkedCars key = some e → s.parkedCars key = some e)
    (h : s'.seen key = some car) : s.seen key = some car := by
  obtain ⟨e, he, rfl⟩ := Option.map_eq_some_iff.mp h
  obtain ⟨hcar, hlive⟩ := Cache.read_eq_some.mp he
  have hold : s.parkedCars.read s.now key = some e :=
    Cache.read_eq_some.mpr ⟨hc e hcar, Entry.live_of_later hn hlive⟩
  simp [seen, hold]

theorem IsNewest.setSession (h : s.IsNewest lotId plate id) {id' : String}
    {f : PMSParkingSession → PMSParkingSession} (hid : ∀ r, (f r).pmsSessionId = r.pmsSessionId)
    (hplace : ∀ r, (f r).place = r.place) : (s.setSession id' f).IsNewest lotId plate id := by
  obtain ⟨r, hr, rfl⟩ := h
  refine ⟨if r.pmsSessionId = id' then f r else r, ?_, ?_⟩
  · simp only [State.newest, State.setSession]
    rw [get?_modify_other _ _ hplace]
    exact congrArg _ hr
  · split
    · exact hid r
    · rfl

/-- A record of another place is filed under another key, or under the stale one. -/
theorem Consistent.create (h : s.Consistent none) (isIsoFormat : String → Bool)
    {entryTime : String} (hc : s.createSession isIsoFormat id lotId plate entryTime = .ok s') :
    s'.Consistent (some (RedisParkingSessionStore.key lotId plate)) ∧ s'.IsNewest lotId plate id := by
  unfold createSession at hc
  split_ifs at hc with _ _ hnew _
  cases hc
  refine ⟨⟨?_, ?_, ?_⟩, ?_⟩
  · exact h.unique.cons (by simpa [getSessionById] using hnew)
  · intro r hr hs
    rcases List.mem_cons.mp hr with rfl | hr
    · exact (hs rfl).elim
    · exact h.paid r hr hs
  · intro key e hk he
    obtain ⟨hkey, ⟨r, hr, hid⟩, hpaid⟩ := h.records key e (by simp) he
    have hplace : (lotId, plate) ≠ (e.value.lotId, e.value.plate) := by
      intro hp
      cases hp
      exact hk (by rw [hkey])
    refine ⟨hkey, ⟨r, ?_, hid⟩, hpaid⟩
    simp only [State.newest, get?_cons, PMSParkingSession.place]
    exact (if_neg hplace).trans hr
  · refine ⟨⟨id, lotId, plate, entryTime, none, .active⟩, ?_, rfl⟩
    simp [State.newest, get?_cons, PMSParkingSession.place]

theorem Consistent.insert (h : s.Consistent stale) {row : PaymentRequest}
    (hi : s.insertPaymentRequest row = .ok s') (hs : row.status = .success) :
    s'.Consistent stale ∧ s'.hasPayment row.pmsSessionId := by
  unfold insertPaymentRequest at hi
  split_ifs at hi
  cases hi
  have hmono : ∀ id, s.hasPayment id → (s.paymentRequests.any fun p =>
      p.pmsSessionId = id && p.status = .success) = true := fun _ h => h
  refine ⟨⟨h.unique, fun r hr hst => ?_, fun key e hk he => ?_⟩, ?_⟩
  · simp only [hasPayment, List.any_cons, Bool.or_eq_true]
    exact .inr (hmono _ (h.paid r hr hst))
  · obtain ⟨hkey, hnewest, hpaid⟩ := h.records key e hk he
    refine ⟨hkey, hnewest, fun hst => ?_⟩
    simp only [hasPayment, List.any_cons, Bool.or_eq_true]
    exact .inr (hmono _ (hpaid hst))
  · simp [hasPayment, hs]

/-- Writing a true record. It may be the one that is missing. -/
theorem Consistent.setRecord (h : s.Consistent stale) {car : ParkedCar} {ex : Option Nat}
    (hcar : s.Truthful key car) (hk : stale = none ∨ stale = some key) :
    ({ s with parkedCars := Function.update s.parkedCars key (some ⟨car, ex⟩) } : State).Consistent
      none := by
  refine ⟨h.unique, h.paid, fun key' e _ he => ?_⟩
  by_cases hkey : key' = key
  · subst hkey
    obtain rfl : ⟨car, ex⟩ = e := by simpa using he
    exact ⟨hcar.key, hcar.newest, hcar.paid⟩
  · have hold : s.parkedCars key' = some e := by simpa [hkey] using he
    obtain ⟨h₁, h₂, h₃⟩ := h.records key' e (by rcases hk with rfl | rfl <;> simp [hkey]) hold
    exact ⟨h₁, h₂, h₃⟩

theorem Consistent.setStatus (h : s.Consistent stale) (hp : s.hasPayment id)
    {f : PMSParkingSession → PMSParkingSession} (hid : ∀ r, (f r).pmsSessionId = r.pmsSessionId)
    (hplace : ∀ r, (f r).place = r.place) : (s.setSession id f).Consistent stale := by
  refine ⟨h.unique.modify hid, fun r hr hst => ?_, fun key e hk he => ?_⟩
  · obtain ⟨r₀, hr₀, rfl⟩ := List.mem_map.mp hr
    show s.hasPayment _ = true
    split at hst
    · rename_i heq
      rw [if_pos heq, hid, heq]
      exact hp
    · rename_i hne
      rw [if_neg hne]
      exact h.paid r₀ hr₀ hst
  · obtain ⟨hkey, hnewest, hpaid⟩ := h.records key e hk he
    exact ⟨hkey, hnewest.setSession hid hplace, hpaid⟩

end State

/-! ## A lot with one car -/

def emptyLot : State where
  now := 0
  drawn := 0
  sessions := []
  paymentRequests := []
  parkedCars _ := none
  preRegistrations _ := none
  entryWebhooks := []
  openedExits := []
  committing := []

theorem emptyLot_vacant : emptyLot.Vacant := ⟨rfl, rfl, fun _ => rfl, rfl⟩

namespace Lot

def entry : Tid := ⟨0, .lprEntry ⟨"LOT_GN_01", "12GA3456", "2024-01-01T09:00:00"⟩⟩

def payment (n : Nat) (idempotencyKey : String) : Tid :=
  ⟨n, .paymentComplete true ⟨"pms-sess-0", "session-0", "tx-0", 1000, "KRW", "CARD-1",
    idempotencyKey⟩⟩

end Lot

end CarPayIn.Pms
