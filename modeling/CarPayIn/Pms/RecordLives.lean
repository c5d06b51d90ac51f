import CarPayIn.Store.Lifetimes
import CarPayIn.Pms.Services

/-! # The lives of updated records

The backend's stores and the PMS's store of parked cars change a record in three
commands. Both take an answer of no whole second for a record without an expiry,
and both write to a key that is gone by then.
-/

namespace CarPayIn.Pms

open Process Store

universe u

variable {Op : Type → Type u} {ε κ ν : Type} [DecidableEq κ]
  {send : ∀ {β : Type}, CacheOp κ ν β → Op β}

theorem parkedCars_injective {β : Type} {op op' : CacheOp String ParkedCar β}
    (h : Pms.Op.parkedCars op = .parkedCars op') : op = op' := by
  cases h
  rfl

theorem updateStatus_eq_writeBack (lotId plate : String) (status : SessionStatus) :
    RedisParkingSessionStore.updateStatus lotId plate status =
      (writeBack .parkedCars (some RedisParkingSessionStore.sessionTtlSeconds)
        (RedisParkingSessionStore.key lotId plate)
        fun payload => { payload with status := status }).bind fun _ => .done (.ok ()) := by
  let key := RedisParkingSessionStore.key lotId plate
  unfold RedisParkingSessionStore.updateStatus writeBack
  refine congrArg (Program.call (Pms.Op.parkedCars (.get key))) (funext fun found => ?_)
  cases found with
  | error e => rfl
  | ok found =>
      cases found with
      | none => rfl
      | some payload =>
          refine congrArg (Program.call (Pms.Op.parkedCars (.ttl key))) (funext fun ttl => ?_)
          cases ttl with
          | error e => rfl
          | ok ttl =>
              have hex : leftOr (some RedisParkingSessionStore.sessionTtlSeconds) ttl =
                  some (if ttl > 0 then ttl.toNat else RedisParkingSessionStore.sessionTtlSeconds) := by
                unfold leftOr
                split <;> rfl
              simp only [Program.bind, Program.bind_eq, hex]
              refine congrArg (Program.call _) (funext fun written => ?_)
              cases written <;> rfl

theorem two_le_sessionTtl (n : Nat)
    (h : some RedisParkingSessionStore.sessionTtlSeconds = some n) : 2 ≤ n := by
  rw [← Option.some.inj h]
  decide

/-- No command of an update lengthens a life, in every run in which the record is written back
in time and in no other. -/
theorem updates_keep_lives
    (hsend : ∀ {β : Type} {op op' : CacheOp κ ν β}, send op = send op' → op = op') :
    (∀ (key : κ) (fields : ν → ν) (s : Redis κ ν) (log : List (Command κ ν)),
      Interleaved @send (update send key fields : Program Op ε (Option ν)) s log →
        ((∀ c ∈ log, c.KeepsLives) ↔ Timely key log)) ∧
    ∀ (lotId plate : String) (status : SessionStatus) (s : Redis String ParkedCar)
      (log : List (Command String ParkedCar)),
      Interleaved .parkedCars (RedisParkingSessionStore.updateStatus lotId plate status) s log →
        ((∀ c ∈ log, c.KeepsLives) ↔ Timely (RedisParkingSessionStore.key lotId plate) log) := by
  constructor
  · intro key fields s log h
    rw [update_eq_writeBack] at h
    exact writeBack_keepsLives hsend (fun n hn => by cases hn) h
  · intro lotId plate status s log h
    rw [updateStatus_eq_writeBack] at h
    exact writeBack_keepsLives parkedCars_injective two_le_sessionTtl h.of_map

def expiring (ms : Nat) : Redis String ParkedCar :=
  ⟨0, fun _ => some ⟨⟨"pms-sess-1", "lot-1", "12가3456", "2025-01-01T10:00:00", .active⟩, some ms⟩⟩

theorem updates_keep_lives_minute : ∃ log : List (Command String ParkedCar),
    Interleaved .parkedCars (update .parkedCars "key" id : Service (Option ParkedCar))
      (expiring 60000) log ∧ log.length = 3 ∧ ∀ c ∈ log, c.KeepsLives := by
  have hrun : Interleaved Pms.Op.parkedCars (writeBack Pms.Op.parkedCars none "key" id : Service _)
      (expiring 60000) _ := interleaved_writeBack id none rfl .refl .refl
  rw [← update_eq_writeBack] at hrun
  refine ⟨_, hrun, rfl, ((updates_keep_lives parkedCars_injective).1 _ _ _ _ hrun).mpr ?_⟩
  intro asked written ha hw
  cases ha
  cases hw
  refine ⟨_, rfl, fun x hx => ?_⟩
  cases hx
  decide

/-- With 400 ms left the answer is no second, and the backend keeps the record for ever. A parked
car's record that is deleted before the PMS writes is there again. -/
theorem updates_lengthen_lives :
    (∃ log : List (Command String ParkedCar),
      Interleaved .parkedCars (update .parkedCars "key" id : Service (Option ParkedCar))
        (expiring 400) log ∧ ¬∀ c ∈ log, c.KeepsLives) ∧
    ∃ log : List (Command String ParkedCar),
      Interleaved .parkedCars (RedisParkingSessionStore.updateStatus "lot-1" "12가3456" .paid)
        (expiring 60000) log ∧ ¬∀ c ∈ log, c.KeepsLives := by
  constructor
  · have hrun : Interleaved Pms.Op.parkedCars (writeBack Pms.Op.parkedCars none "key" id : Service _)
        (expiring 400) _ := interleaved_writeBack id none rfl .refl .refl
    rw [← update_eq_writeBack] at hrun
    refine ⟨_, hrun, fun hkeeps => ?_⟩
    obtain ⟨e, he, hexpiry⟩ := (keepsLives_leftOr .refl (by simp)).mp
      (hkeeps _ (.tail _ (.tail _ (.head _))))
    cases he
    exact absurd (hexpiry 400 rfl).1 (by decide)
  · let key := RedisParkingSessionStore.key "lot-1" "12가3456"
    have hdelete := Relation.ReflTransGen.single (Redis.Change.delete (s := expiring 60000) key)
    let fallback := some RedisParkingSessionStore.sessionTtlSeconds
    have hrun : Interleaved Pms.Op.parkedCars (writeBack Pms.Op.parkedCars fallback key
        (fun payload => { payload with status := .paid }) : Service _) (expiring 60000) _ :=
      interleaved_writeBack _ _ rfl .refl hdelete
    have hrun' := hrun.map fun _ => ()
    rw [← updateStatus_eq_writeBack] at hrun'
    refine ⟨_, hrun', fun hkeeps => ?_⟩
    obtain ⟨e, he, -⟩ := (keepsLives_leftOr hdelete two_le_sessionTtl).mp
      (hkeeps _ (.tail _ (.tail _ (.head _))))
    cases he

end CarPayIn.Pms
