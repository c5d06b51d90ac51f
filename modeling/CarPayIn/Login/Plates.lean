import CarPayIn.Login.OwnCars
import Mathlib.Data.List.DropRight

/-! # One car for each plate

The index on plates compares spellings, a pre-notification is filed under a
normal form. Card orders only store plates that are their own normal form, so
no two cars share a normal form as long as confirmed cars are listed in theirs.
-/

namespace CarPayIn

open Process Process.System Store Service
open RegisterPreNotifyService (normalize)
open CreateCardOrderService (normalizePlate isPlate)

variable {rt : Runtime} {t : Tid} {w w' : World} {α β : Type}

/-! ## Normal forms -/

/-- What is cut off at the end does not uncover anything at the front. -/
theorem dropWhile_rdropWhile {p : α → Bool} {l : List α} (h : l.dropWhile p = l) :
    (l.rdropWhile p).dropWhile p = l.rdropWhile p := by
  cases hcut : l.rdropWhile p with
  | nil => rfl
  | cons a rest =>
      have hpre : a :: rest <+: l := hcut ▸ List.rdropWhile_prefix p l
      obtain ⟨tail, rfl⟩ := hpre
      have ha : p a = false := by
        by_contra hp
        have hp : p a = true := by simpa using hp
        have hlen := congrArg List.length h
        have hle := (List.dropWhile_suffix p (l := rest ++ tail)).length_le
        simp [hp] at hlen
        simp at hle
        omega
      simp [ha]

theorem strip_strip (text : String) : strip (strip text) = strip text := by
  have hstrip : ∀ cs : List Char,
      strip (String.ofList cs) = String.ofList ((cs.dropWhile isWhitespace).rdropWhile isWhitespace) :=
    fun cs => by simp [strip, List.rdropWhile]
  have hfront : ∀ cs : List Char, ((cs.dropWhile isWhitespace).rdropWhile isWhitespace).dropWhile
      isWhitespace = (cs.dropWhile isWhitespace).rdropWhile isWhitespace :=
    fun cs => dropWhile_rdropWhile (List.dropWhile_idempotent isWhitespace cs)
  obtain ⟨cs, rfl⟩ : ∃ cs, text = String.ofList cs := ⟨text.toList, by simp⟩
  rw [hstrip, hstrip, hfront, List.rdropWhile_idempotent]

theorem removeChar_eq_self {c : Char} {text : String} (h : c ∉ text.toList) :
    removeChar c text = text := by
  have hfilter : text.toList.filter (· ≠ c) = text.toList := by
    rw [List.filter_eq_self]
    intro d hd
    have hne : d ≠ c := fun he => h (he ▸ hd)
    simpa using hne
  unfold removeChar
  rw [hfilter, String.ofList_toList]

/-- A plate has digits, a syllable and perhaps a final newline. -/
theorem mem_isPlate {plate : String} (h : isPlate plate = true) {c : Char}
    (hc : c ∈ plate.toList) :
    PyInt.isDecimal c = true ∨ 0xAC00 ≤ c.toNat ∨ c = '\n' := by
  have hcases : c ∈ dropFinalNewline plate.toList ∨ c = '\n' := by
    unfold dropFinalNewline
    split
    · rename_i hlast
      have hne : plate.toList ≠ [] := List.ne_nil_of_mem hc
      rw [← List.dropLast_append_getLast hne] at hc
      rcases List.mem_append.mp hc with hc | hc
      · exact .inl hc
      · rw [List.getLast?_eq_some_getLast hne] at hlast
        simp [Option.some.inj hlast] at hc
        exact .inr hc
    · exact .inl hc
  rcases hcases with hc | hc
  · unfold isPlate at h
    simp only [Bool.and_eq_true] at h
    obtain ⟨-, hrest⟩ := h
    rw [← List.take_append_drop
      ((dropFinalNewline plate.toList).takeWhile PyInt.isDecimal).length
      (dropFinalNewline plate.toList)] at hc
    rcases List.mem_append.mp hc with hc | hc
    · rw [← List.prefix_iff_eq_take.mp (List.takeWhile_prefix PyInt.isDecimal)] at hc
      exact .inl (List.mem_takeWhile_imp hc)
    · split at hrest
      · rename_i syllable rest hdrop
        rw [hdrop] at hc
        simp only [decide_eq_true_eq] at hrest
        rcases List.mem_cons.mp hc with rfl | hc
        · exact .inr (.inl hrest.1)
        · exact .inl (List.all_eq_true.mp hrest.2.2.2 c hc)
      · cases hrest
  · exact .inr (.inr hc)

/-- A plate that a card order stores is its own normal form. -/
theorem normalize_orderPlate (text : String) (h : isPlate (normalizePlate text) = true) :
    normalize (normalizePlate text) = normalizePlate text := by
  have hspace : ' ' ∉ (normalizePlate text).toList := by
    intro hc
    rcases mem_isPlate h hc with hd | hn | hn
    · revert hd
      decide
    · revert hn
      decide
    · revert hn
      decide
  have hhyphen : '-' ∉ (normalizePlate text).toList := by
    intro hc
    rcases mem_isPlate h hc with hd | hn | hn
    · revert hd
      decide
    · revert hn
      decide
    · revert hn
      decide
  unfold RegisterPreNotifyService.normalize
  rw [removeChar_eq_self hspace, removeChar_eq_self hhyphen]
  exact strip_strip (removeChar ' ' text)

/-! ## The condition -/

/-- A car is confirmed with a plate that is its own normal form, if it has one. -/
def plainPlate {β : Type} (op : Op β) : Bool :=
  match op with
  | .base (.upsertVehicle _ car) => normalize car.plate = car.plate
  | _ => true

def platePolicy : Policy Op PyError World Tid Start Env where
  start _ _ := True
  call _ _ op _ _ := plainPlate op = true
  crash _ _ := True
  environment _ _ := True

instance : platePolicy.Computable where
  start _ _ := .isTrue trivial
  call _ _ _ _ _ := inferInstanceAs (Decidable (_ = true))
  crash _ _ := .isTrue trivial
  environment _ _ := .isTrue trivial

/-! ## The rows -/

def World.NoVehicles (w : World) : Prop := w.base.vehicles = []

/-- No two cars have plates with one normal form. -/
def World.PlatesApart (w : World) : Prop :=
  ∀ v ∈ w.base.vehicles, ∀ v' ∈ w.base.vehicles, v.carId ≠ v'.carId → v.plate ≠ "" →
    v'.plate ≠ "" → normalize v.plate ≠ normalize v'.plate

/-- The index on plates, and plates that are their own normal forms. -/
structure Plated (rows : List Vehicle) : Prop where
  normal : ∀ v ∈ rows, normalize v.plate = v.plate
  index : ∀ v ∈ rows, ∀ v' ∈ rows, v.carId ≠ v'.carId → v.plate ≠ "" → v.plate ≠ v'.plate

theorem Plated.apart (h : Plated w.base.vehicles) : w.PlatesApart := by
  intro v hv v' hv' hne hplate _ hsame
  rw [h.normal v hv, h.normal v' hv'] at hsame
  exact h.index v hv v' hv' hne hplate hsame

theorem Plated.write {b : Base} (h : Plated b.vehicles) {carId plate : String}
    {rows : List Vehicle}
    (hrows : ∀ v ∈ rows, v ∈ b.vehicles ∨ (v.carId = carId ∧ v.plate = plate))
    (hnormal : normalize plate = plate) (hfree : ¬b.plateTaken carId plate = true) :
    Plated rows := by
  have hother : ∀ v ∈ b.vehicles, v.carId ≠ carId → plate ≠ "" → v.plate ≠ plate := by
    intro v hv hne hplate hsame
    apply hfree
    simp only [Base.plateTaken, Bool.and_eq_true, List.any_eq_true, decide_eq_true_eq]
    exact ⟨hplate, v, hv, hne, hsame⟩
  constructor
  · intro v hv
    rcases hrows v hv with hold | ⟨-, hp⟩
    · exact h.normal v hold
    · rw [hp]
      exact hnormal
  · intro v hv v' hv' hne hplate
    rcases hrows v hv with hold | ⟨hid, hp⟩
    · rcases hrows v' hv' with hold' | ⟨hid', hp'⟩
      · exact h.index v hold v' hold' hne hplate
      · rw [hid'] at hne
        by_cases hempty : plate = ""
        · rw [hp', hempty]
          exact hplate
        · rw [hp']
          exact hother v hold hne hempty
    · rcases hrows v' hv' with hold' | ⟨hid', -⟩
      · rw [hid] at hne
        rw [hp] at hplate ⊢
        exact fun hsame => hother v' hold' hne.symm hplate hsame.symm
      · rw [hid, hid'] at hne
        exact (hne rfl).elim

theorem mem_modify {rows : List Vehicle} {carId : String} {f : Vehicle → Vehicle} {v : Vehicle}
    (hv : v ∈ modify Vehicle.carId carId f rows) :
    v ∈ rows ∨ ∃ v₀, v₀.carId = carId ∧ v = f v₀ := by
  obtain ⟨v₀, hv₀, rfl⟩ := List.mem_map.mp hv
  by_cases he : v₀.carId = carId
  · exact .inr ⟨v₀, he, if_pos he⟩
  · rw [if_neg he]
    exact .inl hv₀

theorem Plated.upsertVehicle {b b' : Base} (h : Plated b.vehicles) {userId : String} {car : Car}
    (hnormal : normalize car.plate = car.plate) (hx : b.upsertVehicle userId car = .ok b') :
    Plated b'.vehicles := by
  unfold Base.upsertVehicle at hx
  split_ifs at hx with _ hfree _
  split at hx
  · cases hx
    apply h.write _ hnormal hfree
    intro v hv
    rcases List.mem_cons.mp hv with rfl | hv
    · exact .inr ⟨rfl, rfl⟩
    · exact .inl hv
  · cases hx
    apply h.write _ hnormal hfree
    intro v hv
    rcases mem_modify hv with hold | ⟨v₀, hid, rfl⟩
    · exact .inl hold
    · exact .inr ⟨hid, rfl⟩

theorem Plated.updatePlate {b b' : Base} (h : Plated b.vehicles) {carId plate : String}
    (hnormal : normalize plate = plate) (hx : b.updatePlate carId plate = .ok b') :
    Plated b'.vehicles := by
  unfold Base.updatePlate at hx
  split at hx
  · cases hx
  · split_ifs at hx with hfree
    cases hx
    apply h.write _ hnormal hfree
    intro v hv
    rcases mem_modify hv with hold | ⟨v₀, hid, rfl⟩
    · exact .inl hold
    · exact .inr ⟨hid, rfl⟩

/-! ## The calls -/

def plating : Contract World Tid where
  invariant w := Plated w.base.vehicles
  guarantee _ w w' := Plated w.base.vehicles → Plated w'.base.vehicles
  environment w w' := w'.base.vehicles = w.base.vehicles

def StoresNormal {β : Type} (op : Op β) : Prop :=
  match op with
  | .base (.updatePlate _ plate) => normalize plate = plate ∧ plate ≠ ""
  | _ => True

theorem storesNormal_of_effect (op : Op β) (h : op.effect ≠ .vehicle) : StoresNormal op := by
  unfold StoresNormal
  split
  · exact (h rfl).elim
  · trivial

theorem Plated.exec {b : Base} (h : Plated b.vehicles) {op : BaseOp β}
    (hplain : plainPlate (.base op) = true) (hstores : StoresNormal (.base op)) :
    Plated (b.exec op).2.vehicles := by
  by_cases heffect : op.effect = .vehicle
  · cases op with
    | upsertVehicle userId car =>
        have hnormal : normalize car.plate = car.plate := by simpa [plainPlate] using hplain
        show Plated (b.write (b.upsertVehicle userId car)).2.vehicles
        cases hx : b.upsertVehicle userId car with
        | error e => exact h
        | ok b' => exact h.upsertVehicle hnormal hx
    | updatePlate carId plate =>
        have hnormal : normalize plate = plate := hstores.1
        show Plated (b.write (b.updatePlate carId plate)).2.vehicles
        cases hx : b.updatePlate carId plate with
        | error e => exact h
        | ok b' => exact h.updatePlate hnormal hx
    | qrSessions op | oauthStates op | oauthResults op | loginResults op | cardOrders op
    | preNotifies op | quotes op | entryRetries op => cases op <;> cases heffect
    | _ => cases heffect
  · rw [(Base.exec_frame op b).vehicles heffect]
    exact h

theorem World.exec_plated {op : Op β} {r : Except PyError β} (hi : Plated w.base.vehicles)
    (hplain : plainPlate op = true) (hstores : StoresNormal op)
    (he : w.exec t op = some (r, w')) : Plated w'.base.vehicles := by
  by_cases heffect : op.effect = .vehicle
  · cases op with
    | base op =>
        obtain ⟨-, rfl⟩ := exec_base he
        exact hi.exec hplain hstores
    | _ => cases heffect
  · rw [(World.exec_frame he).vehicles heffect]
    exact hi

theorem keeps_plates {op : Op β} (hop : StoresNormal op) :
    Keeps (carPayIn rt) platePolicy plating t (fun _ => True) op := by
  intro w m r w' _ hi hp ho _
  refine ⟨fun _ => ?_, trivial⟩
  rcases (carPayIn rt).outcome_cases ho with ⟨-, he⟩ | ⟨e, -, -, rfl⟩ | ⟨e, r₀, -, -, he⟩
  · exact World.exec_plated hi hp hop he
  · exact hi
  · exact World.exec_plated hi hp hop he

/-! ## The services -/

/-- A service that stores normal forms only. -/
abbrev Normal (p : BaseService α) : Prop := p.Calls fun op => StoresNormal (.base op)

theorem normal_ask {op : BaseOp α} (h : op.effect ≠ .vehicle) : Normal (ask op) :=
  ⟨storesNormal_of_effect (.base op) h, fun _ => trivial⟩

theorem normal_of_effects {es : List Effect} {p : BaseService α} (hp : Effects es p)
    (h : .vehicle ∉ .nothing :: es) : Normal p :=
  (hp.avoids h).mono fun op hop => storesNormal_of_effect (.base op) hop

theorem calls_base {p : BaseService α} (hp : Normal p) : (base p).Calls StoresNormal :=
  Program.Calls.lift Op.base hp

theorem bindVehicle_normal (sessionId userId name carId : String) (car : Car) :
    Normal (ConfirmVehicleService.bindVehicle rt sessionId userId name carId car) :=
  bindVehicle_calls rt sessionId userId name carId car trivial (fun _ => trivial) trivial
    (fun _ => trivial) trivial

theorem confirmVehicle_normal (command : ConfirmVehicleCommand) :
    Normal (ConfirmVehicleService.execute rt command) := by
  apply confirmVehicle_calls
  · intro β op hop
    have hne : op.effect ≠ .vehicle := by
      rw [hop]
      exact Effect.noConfusion
    exact storesNormal_of_effect (.base op) hne
  · exact bindVehicle_normal

theorem createCardOrder_normal (command : CreateCardOrderCommand) :
    Normal (CreateCardOrderService.execute command) := by
  have htoken : Effects [] (BaseService.validateAppToken command.accessToken) :=
    validateAppToken_effects _
  unfold CreateCardOrderService.execute
  apply Program.Calls.bind
  · exact normal_of_effects htoken (by decide)
  · intro user
    split
    · trivial
    · apply Program.Calls.bind
      · exact normal_ask (by simp)
      · intro known
        split
        · trivial
        · dsimp only
          have hstored := normalize_orderPlate command.plate
          generalize normalizePlate command.plate = plate at hstored
          split
          · trivial
          · rename_i hplate
            have hnormal : normalize plate = plate := hstored (not_not.mp hplate)
            have hsome : plate ≠ "" := by
              intro hnone
              subst hnone
              exact hplate (by decide +kernel)
            apply Program.Calls.bind
            · exact normal_ask (by simp)
            · intro owner
              split
              · trivial
              · apply Program.Calls.bind
                · exact ⟨⟨hnormal, hsome⟩, fun _ => trivial⟩
                · intro _
                  apply Program.Calls.bind
                  · exact normal_of_effects (randomText_effects _) (by decide)
                  · intro orderId
                    apply Program.Calls.bind
                    · exact normal_ask (by simp)
                    · intro _
                      apply Program.Calls.bind
                      · exact normal_ask (by simp)
                      · exact fun pgUrl => trivial

theorem begin_storesNormal {x : Start} {p : Service Reply} (h : w.begin rt x = some (t, p, w')) :
    p.Calls StoresNormal := by
  have hother (hes : Effect.vehicle ∉ .nothing :: t.effects) : p.Calls StoresNormal :=
    ((begin_spec h).effects.avoids hes).mono fun op hop => storesNormal_of_effect op hop
  cases x with
  | pg id | card id =>
      obtain ⟨y, -, h⟩ := Option.map_eq_some_iff.mp h
      cases h
      exact hother (by simp [Tid.effects])
  | backend n request =>
      cases h
      cases request with
      | confirmVehicle command =>
          exact calls_base ((confirmVehicle_normal command).bind fun _ => trivial)
      | createCardOrder command =>
          exact calls_base ((createCardOrder_normal command).bind fun _ => trivial)
      | _ => exact hother (by simp [Tid.effects, Request.effects])

/-! ## Runs -/

theorem carPayIn_plates (rt : Runtime) :
    (carPayIn rt).Meets platePolicy plating World.NoVehicles .unknown := by
  refine Meets.of_state ?_ ?_ ?_ ?_
  · intro w hw
    have hnone : w.base.vehicles = [] := hw
    constructor
    · simp [hnone]
    · simp [hnone]
  · rintro w w' hi (⟨t, hg⟩ | he)
    · exact hg hi
    · have hsame : w'.base.vehicles = w.base.vehicles := he
      show Plated w'.base.vehicles
      rw [hsame]
      exact hi
  · intro x w t p w' hb
    refine ⟨congrArg Base.vehicles (begin_spec hb).base, ?_⟩
    have hcalls : p.Calls (Keeps (carPayIn rt) platePolicy plating t fun _ => True) :=
      (begin_storesNormal hb).mono fun op hop => keeps_plates hop
    exact Triple.calls hcalls (.const True) w' trivial
  · intro x w w' he
    obtain ⟨now, outside, scanned, -, hb⟩ := environment_base he
    show w'.base.vehicles = w.base.vehicles
    rw [hb]

/-- In every run in which cars are only confirmed with plates that are their own
normal form, no two cars have plates with the same one. -/
theorem one_car_per_plate (rt : Runtime) {c : Config Op PyError Reply World Tid}
    (hc : (carPayIn rt).Reachable platePolicy World.NoVehicles c) : c.state.PlatesApart :=
  Plated.apart ((carPayIn_plates rt).sound hc).1

/-! ## Two spellings -/

/-- Hyundai lists a car for everybody, and Ben's under another spelling of Anna's plate. -/
def depotOutside : Outside :=
  { hyundai with vehicleList := fun user => .ok [⟨user ++ "-car", "IONIQ 5",
      if user = "anna" then "12가3456" else if user = "ben" then "12가 3456" else "34나5678"⟩] }

def depot : World :=
  { showroom with base := { showroom.base with
      drawn := 0, users := [], vehicles := [], billingKeys := [], parkingSessions := [],
      outside := depotOutside } }

namespace Depot

open Garage

def login (n : Nat) (user session state : String) : List Event :=
  request n (.createQrSession ⟨session, "vin"⟩) 1 ++ request (n + 1) (.startHyundaiOAuth session) 3 ++
    request (n + 2) (.hyundaiOAuthCallback ⟨user, state⟩) 12 ++ request (n + 3)
      (.confirmVehicle ⟨.signed ⟨.tempAccess, user, session, 900⟩, user ++ "-car", "vin"⟩) 8

end Depot

theorem one_car_per_plate_depot : ∃ c, (carPayIn plainRuntime).Reachable platePolicy
    World.NoVehicles c ∧ c.state.base.vehicles.length = 2 ∧ c.state.PlatesApart := by
  have hrun : ((carPayIn plainRuntime).run platePolicy (Depot.login 0 "anna" "login-1" "state-0" ++
      Depot.login 4 "carol" "login-2" "state-2") (boot depot)).any
        (fun c => c.state.base.vehicles.length = 2) = true := by
    decide +kernel
  obtain ⟨c, hc, hlen⟩ := (carPayIn plainRuntime).exists_of_run hrun
    (show depot.NoVehicles from rfl)
  exact ⟨c, hc, of_decide_eq_true hlen, one_car_per_plate plainRuntime hc⟩

/-- Anna's and Ben's cars are confirmed with two spellings of one plate. -/
theorem one_plate_two_cars : ¬∀ rt c, (carPayIn rt).Reachable Policy.any World.NoVehicles c →
    c.state.PlatesApart := by
  intro h
  have hrun : ((carPayIn plainRuntime).run Policy.any (Depot.login 0 "anna" "login-1" "state-0" ++
      Depot.login 4 "ben" "login-2" "state-2") (boot depot)).any (fun c =>
        decide (c.state.base.vehicles = [⟨"ben-car", "ben", "IONIQ 5", "12가 3456"⟩,
          ⟨"anna-car", "anna", "IONIQ 5", "12가3456"⟩])) = true := by
    decide +kernel
  obtain ⟨c, hc, hrows⟩ := (carPayIn plainRuntime).exists_of_run hrun
    (show depot.NoVehicles from rfl)
  have hrows := of_decide_eq_true hrows
  have hapart := h _ c hc
  simp only [World.PlatesApart, hrows, List.mem_cons, List.not_mem_nil, or_false] at hapart
  exact hapart _ (.inl rfl) _ (.inr rfl) (by decide) (by decide) (by decide) (by decide +kernel)

end CarPayIn
