import CarPayIn.Store.Cache
import CarPayIn.Process.Rules

/-! # The rule for a change to a cached record

A change reads the record, asks how long it has to live and writes it back, with
the other executions in between.
-/

namespace Store

open Process Process.System

universe u

variable {Op : Type → Type u} {ε ρ σ Tid Start Env κ ν : Type}
  {S : System Op ε ρ σ Tid Start Env} {π : Policy Op ε σ Tid Start Env} {R : Contract σ Tid}
  {t : Tid} {P : σ → Prop} {M : ν → σ → Prop}
  {send : ∀ {β : Type}, CacheOp κ ν β → Op β}

/-- What is known of the record that was read has to last until it is written back. -/
theorem update_rule {key : κ} {fields : ν → ν} {Q : Except ε (Option ν) → σ → Prop}
    (hget : S.Triple π R t P (read @send key) (fun r s =>
      match r with
      | .ok (some x) => M x s
      | .ok none => Q (.ok none) s
      | .error e => Q (.error e) s))
    (httl : ∀ x, S.Triple π R t (M x) (.perform (send (.ttl key))) (fun _ => M x))
    (hraises : ∀ x e s, M x s → Q (.error e) s)
    (hset : ∀ x ex, S.Triple π R t (M x) (.perform (send (.set key (fields x) ex)))
      (fun r s => Q (r.map fun _ => some (fields x)) s)) :
    S.Triple π R t P (update @send key fields) Q := by
  have hwrite (x : ν) (ex : Option Nat) : S.Triple π R t (M x)
      ((Program.perform (send (.set key (fields x) ex))).bind fun _ =>
        .done (.ok (some (fields x)))) Q := by
    apply Triple.bind (M := fun _ => Q (.ok (some (fields x))))
    · apply Triple.conseq (hset x ex) (fun _ h => h)
      intro r s hr
      cases r <;> exact hr
    · exact fun _ => .done fun _ h => h
  unfold update
  apply Triple.bind (M := fun found s => (found = none → Q (.ok none) s) ∧
    ∀ x, found = some x → M x s)
  · apply Triple.conseq hget (fun _ h => h)
    intro r s hr
    cases r with
    | error e => exact hr
    | ok found =>
        cases found with
        | none => exact ⟨fun _ => hr, fun x h => by cases h⟩
        | some x =>
            constructor
            · intro h
              cases h
            · intro y hy
              cases hy
              exact hr
  · intro found
    cases found with
    | none => exact .done fun s hs => hs.1 rfl
    | some x =>
        apply Triple.conseq ?_ (fun s hs => hs.2 x rfl) (fun _ _ h => h)
        apply Triple.seq (httl x) (fun e s hs => hraises x e s hs)
        intro ttlSeconds
        split
        · exact hwrite x _
        · exact hwrite x _

theorem update_triple {key : κ} {fields : ν → ν}
    (hget : S.Triple π R t P (read @send key) (fun r s => ∀ x, r = .ok (some x) → M x s))
    (httl : ∀ x, S.Triple π R t (M x) (.perform (send (.ttl key))) (fun _ => M x))
    (hset : ∀ x ex, S.Triple π R t (M x) (.perform (send (.set key (fields x) ex)))
      (fun _ _ => True)) : S.Triple π R t P (update @send key fields) (fun _ _ => True) := by
  apply update_rule (M := M) ?_ httl (fun _ _ _ _ => trivial) hset
  apply Triple.conseq hget (fun _ h => h)
  intro r s hr
  cases r with
  | error e => trivial
  | ok found =>
      cases found with
      | none => trivial
      | some x => exact hr x rfl

end Store
