import CarPayIn.Python
import Mathlib.Data.Rat.Floor

/-! # Parking fees

A stay is charged by the half hour that was begun. The calculator takes the two
times as text, completes the one that lacks an offset, cuts the time between
them to whole minutes and looks at the sign of what is left.
-/

namespace CarPayIn.Pms

/-- A `datetime`: the microseconds its own clock shows and, when it is aware, by how many that
clock is ahead of UTC. -/
structure DateTime where
  reading : Int
  utcoffset : Option Int
deriving DecidableEq, Repr

namespace DateTime

def replaceUtc (t : DateTime) : DateTime := { t with utcoffset := some 0 }

def sub (a b : DateTime) : Except PyError Int :=
  match a.utcoffset, b.utcoffset with
  | none, none => .ok (a.reading - b.reading)
  | some x, some y => .ok ((a.reading - x) - (b.reading - y))
  | _, _ => .error (.exception "can't subtract offset-naive and offset-aware datetimes")

def instant (t : DateTime) : Int := t.reading - t.utcoffset.getD 0

end DateTime

structure FeeData where
  amount : Int
  durationMinutes : Int
deriving DecidableEq, Repr

namespace SimpleFeeCalculator

def minute : Int := 60 * 1000000

def blocks (durationMinutes : Int) : Int := (durationMinutes + 29) / 30

/-- The completion of one time by the other. -/
def complete (entry current : DateTime) : DateTime × DateTime :=
  match entry.utcoffset, current.utcoffset with
  | some _, none => (entry, current.replaceUtc)
  | none, some _ => (entry.replaceUtc, current)
  | _, _ => (entry, current)

/-- The rate is 500 unless the PMS is configured otherwise. -/
def calculate (fromisoformat : String → Except PyError DateTime) (amountPer30Minutes : Int)
    (entryTime currentTime : String) : Except PyError FeeData := do
  let entry ← fromisoformat entryTime
  let current ← fromisoformat currentTime
  let (entry, current) := complete entry current
  let elapsed ← current.sub entry
  let durationMinutes := elapsed.tdiv minute
  if durationMinutes < 0 then throw (.valueError "invalid_current_time")
  return ⟨blocks durationMinutes * amountPer30Minutes, durationMinutes⟩

theorem complete_sub (entry current : DateTime) :
    (complete entry current).2.sub (complete entry current).1 =
      .ok (current.instant - entry.instant) := by
  obtain ⟨e, eoff⟩ := entry
  obtain ⟨c, coff⟩ := current
  cases eoff <;> cases coff <;>
    simp [complete, DateTime.sub, DateTime.replaceUtc, DateTime.instant]

variable {fromisoformat : String → Except PyError DateTime} {rate : Int}
  {entryTime currentTime : String} {entry current : DateTime}

/-- What is answered depends on the time elapsed and on nothing else of the two times. -/
theorem calculate_eq (hentry : fromisoformat entryTime = .ok entry)
    (hcurrent : fromisoformat currentTime = .ok current) :
    calculate fromisoformat rate entryTime currentTime =
      let durationMinutes := (current.instant - entry.instant).tdiv minute
      if durationMinutes < 0 then .error (.valueError "invalid_current_time")
      else .ok ⟨blocks durationMinutes * rate, durationMinutes⟩ := by
  simp only [calculate, hentry, hcurrent, bind, Except.bind, complete_sub]
  split <;> rfl

theorem calculate_eq_ok (hentry : fromisoformat entryTime = .ok entry)
    (hcurrent : fromisoformat currentTime = .ok current) {fee : FeeData} :
    calculate fromisoformat rate entryTime currentTime = .ok fee ↔
      0 ≤ (current.instant - entry.instant).tdiv minute ∧
        fee.durationMinutes = (current.instant - entry.instant).tdiv minute ∧
          fee.amount = blocks fee.durationMinutes * rate := by
  rw [calculate_eq hentry hcurrent]
  obtain ⟨amount, durationMinutes⟩ := fee
  dsimp only
  split
  · rename_i hneg
    constructor
    · intro h
      cases h
    · rintro ⟨hpos, -⟩
      omega
  · rename_i hneg
    constructor
    · intro h
      cases h
      exact ⟨by omega, rfl, rfl⟩
    · rintro ⟨-, rfl, rfl⟩
      rfl

/-! ## Whole minutes -/

theorem minutes_of_nonneg {elapsed : Int} (h : 0 ≤ elapsed) :
    elapsed.tdiv minute = elapsed / minute := Int.tdiv_eq_ediv_of_nonneg h

theorem minutes_of_neg {elapsed : Int} (h : elapsed < 0) :
    elapsed.tdiv minute = -(-elapsed / minute) := by
  rw [← minutes_of_nonneg (by omega), Int.neg_tdiv, Int.neg_neg]

theorem minutes_neg_iff (elapsed : Int) : elapsed.tdiv minute < 0 ↔ elapsed ≤ -minute := by
  rcases Int.lt_or_le elapsed 0 with h | h
  · rw [minutes_of_neg h]
    unfold minute
    omega
  · rw [minutes_of_nonneg h]
    unfold minute
    omega

theorem minutes_mono {a b : Int} (h : a ≤ b) : a.tdiv minute ≤ b.tdiv minute :=
  Int.tdiv_le_tdiv (by decide) h

/-- A time that is accepted counts its full minutes, and less than a minute too little none. -/
theorem minutes_eq_floor {elapsed : Int} (h : 0 ≤ elapsed.tdiv minute) :
    elapsed.tdiv minute = max 0 ⌊(elapsed : ℚ) / minute⌋ := by
  have hfloor : ⌊(elapsed : ℚ) / minute⌋ = elapsed / minute :=
    Rat.floor_intCast_div_natCast elapsed 60000000
  rw [hfloor]
  rcases Int.lt_or_le elapsed 0 with hneg | hpos
  · have hshort := (minutes_neg_iff elapsed).not.mp (by omega)
    rw [minutes_of_neg hneg]
    unfold minute at hshort ⊢
    omega
  · rw [minutes_of_nonneg hpos] at h ⊢
    omega

theorem minutes_mul (k : Int) : (minute * k).tdiv minute = k :=
  Int.mul_tdiv_cancel_left k (by decide)

theorem minutes_mul_add_le {k c : Int} (hk : 0 ≤ k) (hc : 0 ≤ c.tdiv minute) :
    (minute * k + c).tdiv minute ≤ k + c.tdiv minute := by
  rcases Int.lt_or_le c 0 with hneg | hpos
  · have hle : (minute * k + c).tdiv minute ≤ (minute * k).tdiv minute := minutes_mono (by omega)
    rw [minutes_mul] at hle
    omega
  · have hmul : 0 ≤ minute * k := Int.mul_nonneg (by decide) hk
    rw [minutes_of_nonneg hpos, minutes_of_nonneg (by omega)]
    unfold minute
    omega

/-- When one of two accepted parts is of whole minutes, cutting the whole gives no more than
cutting the parts. -/
theorem minutes_add_le {a b : Int} (ha : 0 ≤ a.tdiv minute) (hb : 0 ≤ b.tdiv minute)
    (hwhole : minute ∣ a ∨ minute ∣ b) : (a + b).tdiv minute ≤ a.tdiv minute + b.tdiv minute := by
  rcases hwhole with ⟨k, rfl⟩ | ⟨k, rfl⟩
  · rw [minutes_mul] at ha ⊢
    exact minutes_mul_add_le ha hb
  · rw [minutes_mul] at hb ⊢
    rw [Int.add_comm, Int.add_comm (a.tdiv minute)]
    exact minutes_mul_add_le hb ha

/-! ## Half hours that were begun -/

theorem blocks_eq_ceil (durationMinutes : Int) :
    blocks durationMinutes = ⌈(durationMinutes : ℚ) / 30⌉ := by
  have hceil : ⌈(durationMinutes : ℚ) / 30⌉ = -(-durationMinutes / 30) :=
    Rat.ceil_intCast_div_natCast durationMinutes 30
  rw [hceil]
  unfold blocks
  omega

theorem blocks_mono {d d' : Int} (h : d ≤ d') : blocks d ≤ blocks d' := by
  unfold blocks
  omega

theorem blocks_add_le (d d' : Int) : blocks (d + d') ≤ blocks d + blocks d' := by
  unfold blocks
  omega

/-! ## The laws of the calculator -/

def afternoon : String → Except PyError DateTime
  | "2026-05-20T13:59:30" => .ok ⟨63914882370000000, none⟩
  | "2026-05-20T14:00:00" => .ok ⟨63914882400000000, none⟩
  | "2026-05-20T14:30:00" => .ok ⟨63914884200000000, none⟩
  | "2026-05-21T00:30:00+09:00" => .ok ⟨63914920200000000, some 32400000000⟩
  | _ => .error (.valueError "Invalid isoformat string")

/-- The amount is the rate for each half hour that was begun. It depends on the time elapsed
only, grows with it, and a stay split at a whole minute costs no less than the whole. -/
theorem fee_law (hrate : 0 ≤ rate) (hentry : fromisoformat entryTime = .ok entry)
    (hcurrent : fromisoformat currentTime = .ok current) {fee : FeeData}
    (hfee : calculate fromisoformat rate entryTime currentTime = .ok fee) :
    fee.durationMinutes = max 0 ⌊((current.instant - entry.instant : Int) : ℚ) / minute⌋ ∧
    fee.amount = rate * ⌈(fee.durationMinutes : ℚ) / 30⌉ ∧
    (∀ entryTime' currentTime' entry' current', fromisoformat entryTime' = .ok entry' →
      fromisoformat currentTime' = .ok current' →
      current'.instant - entry'.instant = current.instant - entry.instant →
        calculate fromisoformat rate entryTime' currentTime' = .ok fee) ∧
    (∀ laterTime later, fromisoformat laterTime = .ok later → current.instant ≤ later.instant →
      ∃ fee', calculate fromisoformat rate entryTime laterTime = .ok fee' ∧
        fee.amount ≤ fee'.amount) ∧
    (∀ earlierTime earlier, fromisoformat earlierTime = .ok earlier →
      earlier.instant ≤ entry.instant →
      ∃ fee', calculate fromisoformat rate earlierTime currentTime = .ok fee' ∧
        fee.amount ≤ fee'.amount) ∧
    ∀ middleTime middle first second, fromisoformat middleTime = .ok middle →
      calculate fromisoformat rate entryTime middleTime = .ok first →
      calculate fromisoformat rate middleTime currentTime = .ok second →
      (minute ∣ middle.instant - entry.instant ∨ minute ∣ current.instant - middle.instant) →
        fee.amount ≤ first.amount + second.amount := by
  have hok := (calculate_eq_ok hentry hcurrent).mp hfee
  obtain ⟨haccepted, hminutes, hamount⟩ := hok
  have hlonger {entryTime' currentTime' : String} {entry' current' : DateTime}
      (hentry' : fromisoformat entryTime' = .ok entry')
      (hcurrent' : fromisoformat currentTime' = .ok current')
      (hle : current.instant - entry.instant ≤ current'.instant - entry'.instant) :
      ∃ fee', calculate fromisoformat rate entryTime' currentTime' = .ok fee' ∧
        fee.amount ≤ fee'.amount := by
    have hmono := minutes_mono hle
    let d := (current'.instant - entry'.instant).tdiv minute
    refine ⟨⟨blocks d * rate, d⟩, ?_, ?_⟩
    · rw [calculate_eq_ok hentry' hcurrent']
      exact ⟨Int.le_trans haccepted hmono, rfl, rfl⟩
    rw [hamount, hminutes]
    exact Int.mul_le_mul_of_nonneg_right (blocks_mono hmono) hrate
  refine ⟨?_, ?_, ?_, ?_, ?_, ?_⟩
  · rw [hminutes]
    exact minutes_eq_floor haccepted
  · rw [hamount, blocks_eq_ceil, Int.mul_comm]
  · intro entryTime' currentTime' entry' current' hentry' hcurrent' hsame
    rw [calculate_eq_ok hentry' hcurrent', hsame]
    exact ⟨haccepted, hminutes, hamount⟩
  · intro laterTime later hlater hle
    exact hlonger hentry hlater (by omega)
  · intro earlierTime earlier hearlier hle
    exact hlonger hearlier hcurrent (by omega)
  · intro middleTime middle first second hmiddle hfirst hsecond hwhole
    obtain ⟨hpos₁, hminutes₁, hamount₁⟩ := (calculate_eq_ok hentry hmiddle).mp hfirst
    obtain ⟨hpos₂, hminutes₂, hamount₂⟩ := (calculate_eq_ok hmiddle hcurrent).mp hsecond
    have hparts := minutes_add_le hpos₁ hpos₂ hwhole
    have hsum : current.instant - entry.instant =
        middle.instant - entry.instant + (current.instant - middle.instant) := by omega
    rw [← hsum, ← hminutes, ← hminutes₁, ← hminutes₂] at hparts
    calc fee.amount = blocks fee.durationMinutes * rate := hamount
      _ ≤ (blocks first.durationMinutes + blocks second.durationMinutes) * rate :=
        Int.mul_le_mul_of_nonneg_right
          (Int.le_trans (blocks_mono hparts) (blocks_add_le _ _)) hrate
      _ = first.amount + second.amount := by rw [Int.add_mul, ← hamount₁, ← hamount₂]

/-- Ninety minutes, the entry without an offset and the other time in Korea. -/
theorem fee_law_ninety_minutes :
    ∃ fee, calculate afternoon 500 "2026-05-20T14:00:00" "2026-05-21T00:30:00+09:00" = .ok fee ∧
      fee.amount = 500 * ⌈(fee.durationMinutes : ℚ) / 30⌉ ∧ fee = ⟨1500, 90⟩ := by
  have hfee : calculate afternoon 500 "2026-05-20T14:00:00" "2026-05-21T00:30:00+09:00" =
      .ok ⟨1500, 90⟩ := rfl
  exact ⟨⟨1500, 90⟩, hfee, (fee_law (by decide) rfl rfl hfee).2.1, rfl⟩

/-- A time before the entry is refused unless it is less than a minute before it. -/
theorem invalid_current_time_iff (hentry : fromisoformat entryTime = .ok entry)
    (hcurrent : fromisoformat currentTime = .ok current) :
    (calculate fromisoformat rate entryTime currentTime =
        .error (.valueError "invalid_current_time") ↔ current.instant < entry.instant) ↔
      ¬(0 < entry.instant - current.instant ∧ entry.instant - current.instant < minute) := by
  have hraises : calculate fromisoformat rate entryTime currentTime =
      .error (.valueError "invalid_current_time") ↔
        current.instant - entry.instant ≤ -minute := by
    rw [calculate_eq hentry hcurrent, ← minutes_neg_iff]
    dsimp only
    split
    · rename_i hneg
      exact ⟨fun _ => hneg, fun _ => rfl⟩
    · rename_i hneg
      exact ⟨fun h => (nomatch h), fun h => absurd h hneg⟩
  rw [hraises]
  unfold minute
  omega

theorem invalid_current_time_half_hour_early :
    calculate afternoon 500 "2026-05-20T14:30:00" "2026-05-20T14:00:00" =
      .error (.valueError "invalid_current_time") :=
  ((invalid_current_time_iff rfl rfl).mpr (by decide)).mpr (by decide)

/-- Half a minute before the entry the stay is free. -/
theorem half_minute_early_accepted :
    ¬(calculate afternoon 500 "2026-05-20T14:00:00" "2026-05-20T13:59:30" =
        .error (.valueError "invalid_current_time") ↔
      (⟨63914882370000000, none⟩ : DateTime).instant <
        (⟨63914882400000000, none⟩ : DateTime).instant) := by
  decide

end SimpleFeeCalculator

end CarPayIn.Pms
