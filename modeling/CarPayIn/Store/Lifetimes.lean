import CarPayIn.Store.Cache
import Mathlib.Logic.Relation

/-! # How long a record lives

An update reads a record, asks how long it has to live and writes it back. Time
goes by between these commands and keys are deleted, so that what was read and
what was asked may no longer be true of the record that is written.
-/

namespace Store

open Process (Program)
open Relation (ReflTransGen)

universe u

/-- A store on its own: its clock and its records. -/
structure Redis (κ ν : Type) where
  now : Nat
  cache : Cache κ ν

namespace Redis

variable {κ ν β : Type}

def find (s : Redis κ ν) (key : κ) : Option (Entry ν) := s.cache.read s.now key

theorem find_eq_some {s : Redis κ ν} {key : κ} {e : Entry ν} :
    s.find key = some e ↔ s.cache key = some e ∧ e.live s.now = true := Cache.read_eq_some

variable [DecidableEq κ]

def exec (op : CacheOp κ ν β) (s : Redis κ ν) : β × Redis κ ν :=
  let (r, c) := s.cache.exec s.now op
  (r, ⟨s.now, c⟩)

inductive Change (s : Redis κ ν) : Redis κ ν → Prop where
  | elapse (ms : Nat) : Change s ⟨s.now + ms, s.cache⟩
  | delete (key : κ) : Change s (s.exec (.delete key)).2

theorem Change.now_le {s s' : Redis κ ν} (h : Change s s') : s.now ≤ s'.now := by
  cases h with
  | elapse ms => exact Nat.le_add_right _ _
  | delete key => exact Nat.le_refl _

theorem Change.find_of_find {s s' : Redis κ ν} (h : Change s s') {key : κ} {e : Entry ν}
    (he : s'.find key = some e) : s.find key = some e := by
  rw [find_eq_some] at he ⊢
  cases h with
  | elapse ms => exact ⟨he.1, Entry.live_of_later (Nat.le_add_right _ _) he.2⟩
  | delete k =>
      have hcache : Function.update s.cache k none key = some e := he.1
      by_cases hk : key = k
      · rw [hk, Function.update_self] at hcache
        cases hcache
      · rw [Function.update_of_ne hk] at hcache
        exact ⟨hcache, he.2⟩

theorem now_le_of_changes {s s' : Redis κ ν} (h : ReflTransGen Change s s') : s.now ≤ s'.now := by
  induction h with
  | refl => exact Nat.le_refl _
  | tail _ hstep ih => exact Nat.le_trans ih hstep.now_le

theorem find_of_changes {s s' : Redis κ ν} (h : ReflTransGen Change s s') {key : κ} {e : Entry ν}
    (he : s'.find key = some e) : s.find key = some e := by
  induction h with
  | refl => exact he
  | tail _ hstep ih => exact ih (hstep.find_of_find he)

end Redis

open Redis

/-! ## Commands with other clients in between -/

structure Command (κ ν : Type) where
  before : Redis κ ν
  after : Redis κ ν

section
variable {Op : Type → Type u} {ε α κ ν : Type} [DecidableEq κ]
  (send : ∀ {β : Type}, CacheOp κ ν β → Op β)

/-- A program that sends its commands one after the other, the store changing before each, and
the commands with the states they met. -/
inductive Interleaved : Program Op ε α → Redis κ ν → List (Command κ ν) → Prop where
  | done {r : Except ε α} {s : Redis κ ν} : Interleaved (.done r) s []
  | call {β : Type} {sent : Op β} {op : CacheOp κ ν β} {next : Except ε β → Program Op ε α}
      {s s' : Redis κ ν} {log : List (Command κ ν)} (hsent : sent = send op)
      (between : ReflTransGen Change s s')
      (rest : Interleaved (next (.ok (s'.exec op).1)) (s'.exec op).2 log) :
      Interleaved (.call sent next) s (⟨s', (s'.exec op).2⟩ :: log)

variable {send} {s : Redis κ ν} {log : List (Command κ ν)}

theorem interleaved_done {r : Except ε α} (h : Interleaved @send (.done r) s log) : log = [] := by
  cases h
  rfl

theorem interleaved_call (hsend : ∀ {β : Type} {op op' : CacheOp κ ν β}, send op = send op' → op = op')
    {β : Type} {op : CacheOp κ ν β} {next : Except ε β → Program Op ε α}
    (h : Interleaved @send (.call (send op) next) s log) :
    ∃ s' rest, ReflTransGen Change s s' ∧ log = ⟨s', (s'.exec op).2⟩ :: rest ∧
      Interleaved @send (next (.ok (s'.exec op).1)) (s'.exec op).2 rest := by
  cases h with
  | call hsent between rest =>
      obtain rfl := hsend hsent
      exact ⟨_, _, between, rfl, rest⟩

end

/-! ## What a command does to the lives of the records -/

variable {κ ν : Type}

/-- A record that is there after the command was there before it, and if it was to expire it
still does, up to a second later. -/
def Command.KeepsLives (c : Command κ ν) : Prop :=
  ∀ key e', c.after.find key = some e' → ∃ e, c.before.find key = some e ∧
    ∀ x, e.expiresAt = some x → ∃ y, e'.expiresAt = some y ∧ y ≤ x + 1000

theorem keepsLives_refl (s : Redis κ ν) : Command.KeepsLives ⟨s, s⟩ := by
  intro key e he
  exact ⟨e, he, fun x hx => ⟨x, hx, Nat.le_add_right x 1000⟩⟩

variable [DecidableEq κ]

/-- What is written must be there still, and be given no more time than it has left. -/
theorem keepsLives_set {s : Redis κ ν} {key : κ} {value : ν} {ex : Option Nat} (hex : ex ≠ some 0) :
    Command.KeepsLives ⟨s, (s.exec (.set key value ex)).2⟩ ↔ ∃ e, s.find key = some e ∧
      ∀ x, e.expiresAt = some x → ∃ n, ex = some n ∧ s.now + 1000 * n ≤ x + 1000 := by
  let entry : Entry ν := ⟨value, ex.map fun n => s.now + 1000 * n⟩
  have hlive : entry.live s.now = true := by
    cases ex with
    | none => rfl
    | some n =>
        have hn : n ≠ 0 := fun h => hex (congrArg some h)
        apply decide_eq_true
        show s.now < s.now + 1000 * n
        omega
  have hself : (s.exec (.set key value ex)).2.find key = some entry := by
    rw [find_eq_some]
    constructor
    · show Function.update s.cache key (some entry) key = some entry
      exact Function.update_self ..
    · exact hlive
  have hother : ∀ k, k ≠ key → (s.exec (.set key value ex)).2.find k = s.find k := by
    intro k hk
    show (Function.update s.cache key (some entry) k).filter _ = _
    rw [Function.update_of_ne hk]
    rfl
  constructor
  · intro h
    obtain ⟨e, he, hexpiry⟩ := h key entry hself
    refine ⟨e, he, fun x hx => ?_⟩
    obtain ⟨y, hy, hle⟩ := hexpiry x hx
    obtain ⟨n, hn, rfl⟩ := Option.map_eq_some_iff.mp hy
    exact ⟨n, hn, hle⟩
  · rintro ⟨e, he, hexpiry⟩ k e' he'
    by_cases hk : k = key
    · subst hk
      obtain rfl := Option.some.inj (hself.symm.trans he')
      refine ⟨e, he, fun x hx => ?_⟩
      obtain ⟨n, hn, hle⟩ := hexpiry x hx
      refine ⟨s.now + 1000 * n, ?_, hle⟩
      show ex.map _ = _
      rw [hn]
      rfl
    · exact keepsLives_refl s k e' ((hother k hk) ▸ he')

/-! ## The time to live that is asked for and written back -/

/-- The record is still there when it is written back, and if it was to expire, at least half a
second of its life was left when the time to live was asked for, and it is written back no more
than a second later than the rounded answer allows. -/
def WrittenInTime (key : κ) (asked written : Redis κ ν) : Prop :=
  ∃ e, written.find key = some e ∧ ∀ x, e.expiresAt = some x →
    asked.now + 500 ≤ x ∧ written.now + 1000 * ((x - asked.now + 500) / 1000) ≤ x + 1000

def leftOr (fallback : Option Nat) (ttl : Int) : Option Nat :=
  if ttl > 0 then some ttl.toNat else fallback

theorem leftOr_ne_zero {fallback : Option Nat} (hf : fallback ≠ some 0) (ttl : Int) :
    leftOr fallback ttl ≠ some 0 := by
  unfold leftOr
  split
  · intro h
    have := Option.some.inj h
    omega
  · exact hf

/-- Writing back under the time to live that was asked for keeps all lives just when it comes in
time; a fallback is always too long for a record that was to expire. -/
theorem keepsLives_leftOr {asked written : Redis κ ν} (h : ReflTransGen Change asked written)
    {key : κ} {value : ν} {fallback : Option Nat} (hf : ∀ n, fallback = some n → 2 ≤ n) :
    Command.KeepsLives ⟨written, (written.exec (.set key value
      (leftOr fallback (asked.exec (.ttl key)).1))).2⟩ ↔ WrittenInTime key asked written := by
  have hne : fallback ≠ some 0 := fun h0 => absurd (hf 0 h0) (by omega)
  rw [keepsLives_set (leftOr_ne_zero hne _)]
  apply exists_congr
  intro e
  apply and_congr_right
  intro he
  have hasked : (asked.exec (.ttl key)).1 = e.ttl asked.now := by
    have hfind : asked.cache.read asked.now key = some e := find_of_changes h he
    simp only [Redis.exec, Cache.exec, hfind]
  apply forall_congr'
  intro x
  apply imp_congr_right
  intro hx
  have hnow := now_le_of_changes h
  have httl : e.ttl asked.now = ((x - asked.now + 500) / 1000 : Nat) := by
    simp only [Entry.ttl, hx]
  rw [hasked, httl]
  unfold leftOr
  split
  · rename_i hpos
    constructor
    · rintro ⟨n, hn, hle⟩
      have := Option.some.inj hn
      omega
    · rintro ⟨hleft, hle⟩
      exact ⟨_, rfl, by omega⟩
  · rename_i hpos
    constructor
    · rintro ⟨n, hn, hle⟩
      have := hf n hn
      omega
    · rintro ⟨hleft, -⟩
      omega

/-- The second command asks and the third writes. An update that finds nothing sends neither. -/
def Timely (key : κ) (log : List (Command κ ν)) : Prop :=
  ∀ asked written, log[1]? = some asked → log[2]? = some written →
    WrittenInTime key asked.before written.before

section
variable {Op : Type → Type u} {ε α β : Type} (send : ∀ {β : Type}, CacheOp κ ν β → Op β)

/-- Read a record, ask how long it has to live and write it back. -/
def writeBack (fallback : Option Nat) (key : κ) (fields : ν → ν) : Program Op ε (Option ν) := do
  match ← read send key with
  | none => return none
  | some payload =>
      let ttl ← .perform (send (.ttl key))
      .perform (send (.set key (fields payload) (leftOr fallback ttl)))
      return some (fields payload)

omit [DecidableEq κ] in
/-- An update leaves a record for good when the answer is no positive number of seconds. -/
theorem update_eq_writeBack (key : κ) (fields : ν → ν) :
    (update send key fields : Program Op ε (Option ν)) = writeBack send none key fields := by
  unfold update writeBack
  refine congrArg (Program.bind (read send key)) (funext fun found => ?_)
  cases found with
  | none => rfl
  | some payload =>
      refine congrArg (Program.bind (.perform (send (.ttl key)))) (funext fun ttl => ?_)
      unfold leftOr
      split <;> rfl

variable {send} {s : Redis κ ν} {log : List (Command κ ν)}

theorem Interleaved.of_map {p : Program Op ε α} {f : α → β}
    (h : Interleaved @send (p.bind fun a => .done (.ok (f a))) s log) :
    Interleaved @send p s log := by
  induction p generalizing s log with
  | done r =>
      cases r <;> exact interleaved_done h ▸ .done
  | call sent next ih =>
      cases h with
      | call hsent between rest => exact .call hsent between (ih _ rest)

theorem Interleaved.map {p : Program Op ε α} (f : α → β) (h : Interleaved @send p s log) :
    Interleaved @send (p.bind fun a => .done (.ok (f a))) s log := by
  induction h with
  | @done r s => cases r <;> exact .done
  | call hsent between _ ih => exact .call hsent between ih

/-- Whatever happens between its commands, a record that is found is written back. -/
theorem interleaved_writeBack {asked written : Redis κ ν} {key : κ} {payload : ν}
    (fields : ν → ν) (fallback : Option Nat) (hfound : (s.exec (.get key)).1 = some payload)
    (hasked : ReflTransGen Change s asked) (hwritten : ReflTransGen Change asked written) :
    Interleaved @send (writeBack send fallback key fields : Program Op ε (Option ν)) s
      [⟨s, (s.exec (.get key)).2⟩, ⟨asked, (asked.exec (.ttl key)).2⟩, ⟨written,
        (written.exec (.set key (fields payload) (leftOr fallback (asked.exec (.ttl key)).1))).2⟩] := by
  apply Interleaved.call rfl .refl
  rw [hfound]
  exact .call rfl hasked (.call rfl hwritten .done)

theorem writeBack_keepsLives
    (hsend : ∀ {β : Type} {op op' : CacheOp κ ν β}, send op = send op' → op = op')
    {fallback : Option Nat} (hf : ∀ n, fallback = some n → 2 ≤ n) {key : κ} {fields : ν → ν}
    (h : Interleaved @send (writeBack send fallback key fields : Program Op ε (Option ν)) s log) :
    (∀ c ∈ log, c.KeepsLives) ↔ Timely key log := by
  obtain ⟨got, rest, -, rfl, hread⟩ := interleaved_call hsend h
  have hgot : Command.KeepsLives ⟨got, (got.exec (.get key)).2⟩ := keepsLives_refl got
  cases hfound : (got.exec (.get key)).1 with
  | none =>
      rw [hfound] at hread
      obtain rfl := interleaved_done hread
      simp [hgot, Timely]
  | some payload =>
      rw [hfound] at hread
      obtain ⟨asked, rest', -, rfl, hask⟩ := interleaved_call hsend hread
      have hasked : Command.KeepsLives ⟨asked, (asked.exec (.ttl key)).2⟩ := keepsLives_refl asked
      obtain ⟨written, rest'', hchanges, rfl, hwrite⟩ := interleaved_call hsend hask
      obtain rfl := interleaved_done hwrite
      have hwritten : Command.KeepsLives ⟨written, (written.exec (.set key (fields payload)
          (leftOr fallback (asked.exec (.ttl key)).1))).2⟩ ↔ WrittenInTime key asked written :=
        keepsLives_leftOr hchanges hf
      constructor
      · intro hkeeps a w ha hw
        cases ha
        cases hw
        exact hwritten.mp (hkeeps _ (.tail _ (.tail _ (.head _))))
      · intro htimely
        have hlast := hwritten.mpr (htimely _ _ rfl rfl)
        simpa using ⟨hgot, hasked, hlast⟩

end

end Store
