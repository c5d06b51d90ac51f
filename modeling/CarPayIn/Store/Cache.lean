import CarPayIn.Process.Program
import Mathlib.Logic.Function.Basic

/-! # A cache of records that expire

Keys hold a value and, when the value was stored with a time to live, the
millisecond from which it is gone. The clock only decides what a read still
sees, so an entry needs no step of its own to expire.
-/

namespace Store

universe u

structure Entry (ν : Type) where
  value : ν
  expiresAt : Option Nat
deriving DecidableEq, Repr

abbrev Cache (κ ν : Type) : Type := κ → Option (Entry ν)

inductive CacheOp (κ ν : Type) : Type → Type where
  | get (key : κ) : CacheOp κ ν (Option ν)
  | set (key : κ) (value : ν) (ex : Option Nat) : CacheOp κ ν Unit
  | ttl (key : κ) : CacheOp κ ν Int
  | delete (key : κ) : CacheOp κ ν Unit

namespace Entry

variable {ν : Type}

/-- Whether a read at `now` still sees the entry. -/
def live (now : Nat) (e : Entry ν) : Bool :=
  match e.expiresAt with
  | none => true
  | some t => decide (now < t)

/-- An entry that is still seen was seen before. -/
theorem live_of_later {now now' : Nat} {e : Entry ν} (h : now ≤ now') (he : e.live now' = true) :
    e.live now = true := by
  unfold live at he ⊢
  split
  · rfl
  · rename_i t ht
    simp only [ht, decide_eq_true_eq] at he ⊢
    omega

/-- Redis `TTL`: `-1` without an expiry, else the rest rounded to whole seconds. -/
def ttl (now : Nat) (e : Entry ν) : Int :=
  match e.expiresAt with
  | none => -1
  | some t => ((t - now + 500) / 1000 : Nat)

end Entry

namespace Cache

variable {κ ν β : Type}

def read (now : Nat) (c : Cache κ ν) (key : κ) : Option (Entry ν) := (c key).filter (·.live now)

theorem read_eq_some {now : Nat} {c : Cache κ ν} {key : κ} {e : Entry ν} :
    c.read now key = some e ↔ c key = some e ∧ e.live now = true := by
  simp [read, Option.filter_eq_some_iff]

variable [DecidableEq κ]

/-- After a write a key holds what was written or what it held before. -/
theorem update_eq_some {c : Cache κ ν} {key k : κ} {x e : Entry ν}
    (h : Function.update c key (some x) k = some e) : k = key ∧ e = x ∨ k ≠ key ∧ c k = some e := by
  by_cases hk : k = key
  · subst hk
    rw [Function.update_self] at h
    exact .inl ⟨rfl, (Option.some.inj h).symm⟩
  · rw [Function.update_of_ne hk] at h
    exact .inr ⟨hk, h⟩

theorem update_ne_none {c : Cache κ ν} {key k : κ} {x : Option (Entry ν)}
    (h : Function.update c key x k ≠ none) : k = key ∨ c k ≠ none := by
  by_cases hk : k = key
  · exact .inl hk
  · rw [Function.update_of_ne hk] at h
    exact .inr h

def exec (now : Nat) : CacheOp κ ν β → Cache κ ν → β × Cache κ ν
  | .get key, c => ((c.read now key).map (·.value), c)
  | .set key value ex, c =>
      ((), Function.update c key (some ⟨value, ex.map fun s => now + 1000 * s⟩))
  | .ttl key, c =>
      (match c.read now key with
      | none => -2
      | some e => e.ttl now, c)
  | .delete key, c => ((), Function.update c key none)

end Cache

/-! ## JSON records -/

section
variable {Op : Type → Type u} {ε κ ν : Type} (send : ∀ {β : Type}, CacheOp κ ν β → Op β)

open Process (Program)

def save (key : κ) (value : ν) (ttlSeconds : Nat) : Program Op ε Unit :=
  .perform (send (.set key value (some ttlSeconds)))

def read (key : κ) : Program Op ε (Option ν) := .perform (send (.get key))

/-- Read, change some fields and store again under the time to live that is left. -/
def update (key : κ) (fields : ν → ν) : Program Op ε (Option ν) := do
  match ← read send key with
  | none => return none
  | some payload =>
      let ttlSeconds ← .perform (send (.ttl key))
      if ttlSeconds > 0 then
        .perform (send (.set key (fields payload) (some ttlSeconds.toNat)))
      else
        .perform (send (.set key (fields payload) none))
      return some (fields payload)

def delete (key : κ) : Program Op ε Unit := .perform (send (.delete key))

/-- The commands an update sends. -/
theorem update_calls {K : ∀ {β : Type}, Op β → Prop} {key : κ} {fields : ν → ν}
    (hget : K (send (.get key))) (httl : K (send (.ttl key)))
    (hset : ∀ value ex, K (send (.set key (fields value) ex))) :
    (update send key fields : Program Op ε (Option ν)).Calls K := by
  unfold update
  refine ⟨hget, fun found => ?_⟩
  cases found with
  | error e => trivial
  | ok found =>
      cases found with
      | none => trivial
      | some payload =>
          refine ⟨httl, fun left => ?_⟩
          cases left with
          | error e => trivial
          | ok ttlSeconds =>
              show Program.Calls K (if ttlSeconds > 0 then _ else _)
              split
              · exact ⟨hset _ _, fun r => by cases r <;> trivial⟩
              · exact ⟨hset _ _, fun r => by cases r <;> trivial⟩

end

end Store
