import CarPayIn.Payments.ServerRefinement

/-! # Runs of the three services

The services meet the contract under every policy within a regime, so whatever
the steps of the ledgers keep holds in every reachable state.
-/

namespace CarPayIn

open Process Process.System Store Ledger Service

variable {rt : Runtime} {π : Policy Op PyError World Tid Start Env} {Γ : Regime} {t : Tid}

/-! ## Executions that have not started -/

namespace Ledger

variable {ℓ ℓ' : Ledger}

/-- The execution has left no trace in any ledger. -/
structure Absent (t : Tid) (ℓ : Ledger) : Prop where
  untouched : Untouched t ℓ
  cardCall : ℓ.NoCardCall t
  pgRow : ∀ k p, ℓ.pgTransactions k = some p → p.insertedBy ≠ t
  cardRow : ∀ k x, ℓ.cardTransactions k = some x → x.insertedBy ≠ t

theorem Interference.absent (h : Interference Γ t ℓ ℓ') (ha : Absent t ℓ) : Absent t ℓ' where
  untouched := h.untouched ha.untouched
  cardCall := h.noCardCall ha.cardCall
  pgRow := by
    intro k p hk
    rcases h.step with ⟨t', ht, hs⟩ | hs
    · cases hs.pgTransactions hk with
      | same _ h₀ => exact ha.pgRow k p h₀
      | inserted _ _ _ _ _ _ _ _ hby => exact fun he => ht (hby.symm.trans he)
      | succeeded _ _ p₀ _ _ _ _ _ _ h₀ => exact ha.pgRow k p₀ h₀
      | failed _ _ p₀ _ _ _ _ _ h₀ => exact ha.pgRow k p₀ h₀
    · rw [hs.pgTransactions] at hk
      exact ha.pgRow k p hk
  cardRow := by
    intro k x hk
    rcases h.step with ⟨t', ht, hs⟩ | hs
    · cases hs.cardTransactions hk with
      | same _ h₀ => exact ha.cardRow k x h₀
      | inserted _ _ _ _ _ _ _ _ hby => exact fun he => ht (hby.symm.trans he)
    · rw [hs.cardTransactions] at hk
      exact ha.cardRow k x hk

end Ledger

theorem World.Unpaid.tables {w : World} (h : w.Unpaid) :
    (∀ k, w.ledger.transactions k = none) ∧ (∀ id, w.ledger.outbox id = none) ∧
      (∀ i, w.ledger.pgCalls i = none) ∧ (∀ k, w.ledger.pgTransactions k = none) ∧
      (∀ j, w.ledger.cardCalls j = none) ∧ ∀ k, w.ledger.cardTransactions k = none := by
  obtain ⟨h₁, h₂, h₃, h₄, h₅, h₆⟩ := h
  simp [World.ledger, getTransaction, getPgTransaction, getCardTx, h₁, h₂, h₃, h₄, h₅, h₆,
    get?, Exchange.table]

/-- Of an execution only its absence before the start is recorded. -/
def outline : Outline PyError Reply World Tid where
  idle t w := Absent t w.ledger
  ended _ _ _ := True
  stopped _ _ := True

/-! ## The contract is met -/

theorem environment_pg {w : World} {xs : List PgCall} {id : Nat} {c : PgCall}
    (htable : Exchange.table xs = Function.update (Exchange.table w.pgCalls) id (some c))
    (hs : NetStep Γ w.ledger (w.ledger.setPgCall id c)) :
    (contract Γ).environment w { w with pgCalls := xs } := by
  have hl : World.ledger { w with pgCalls := xs } = w.ledger.setPgCall id c := by
    simp only [setPgCall, show w.ledger.pgCalls = Exchange.table w.pgCalls from rfl, ← htable]
    rfl
  exact ⟨by rw [hl]; exact hs, .refl _⟩

theorem environment_card {w : World} {xs : List CardCall} {id : Nat} {d : CardCall}
    (htable : Exchange.table xs = Function.update (Exchange.table w.cardCalls) id (some d))
    (hs : NetStep Γ w.ledger (w.ledger.setCardCall id d)) :
    (contract Γ).environment w { w with cardCalls := xs } := by
  have hl : World.ledger { w with cardCalls := xs } = w.ledger.setCardCall id d := by
    simp only [setCardCall, show w.ledger.cardCalls = Exchange.table w.cardCalls from rfl, ← htable]
    rfl
  exact ⟨by rw [hl]; exact hs, .refl _⟩

theorem environment_step (hW : Within π Γ) {x : Env} {w w' : World}
    (h : w.environment x = some w') (hp : π.environment x w) :
    (contract Γ).environment w w' := by
  cases x with
  | dropPg id =>
      obtain ⟨xs, hx, rfl⟩ := Option.map_eq_some_iff.mp h
      obtain ⟨c, hc, hs, htable⟩ := drop_spec hx
      exact environment_pg htable (.movePg _ id c _ hc hs (.inr rfl))
  | dropCard id =>
      obtain ⟨xs, hx, rfl⟩ := Option.map_eq_some_iff.mp h
      obtain ⟨d, hd, hs, htable⟩ := drop_spec hx
      exact environment_card htable (.moveCard _ id d _ hd hs (.inr rfl))
  | giveUpPg id =>
      obtain ⟨xs, hx, rfl⟩ := Option.map_eq_some_iff.mp h
      obtain ⟨c, hc, hw, htable⟩ := giveUp_spec hx
      exact environment_pg htable (.giveUpPg _ id c hc hw (hW.giveUpPg id w hp))
  | giveUpCard id =>
      obtain ⟨xs, hx, rfl⟩ := Option.map_eq_some_iff.mp h
      obtain ⟨d, hd, hw, htable⟩ := giveUp_spec hx
      exact environment_card htable (.giveUpCard _ id d hd hw (hW.giveUpCard id w hp))
  | _ => cases h; exact ⟨.quiet _, .of_same rfl⟩

/-- A delivered request has no row yet, because nothing has worked on it. -/
theorem start_step (hW : Within π Γ) {x : Start} {w w' : World} {p : Service Reply}
    (h : w.begin rt x = some (t, p, w')) (ha : Absent t w.ledger) :
    (contract Γ).environment w w' ∧ (w'.ledger.Coherent →
      p.wp ((carPayIn rt).spec π (contract Γ) t) (fun _ _ => True) w') := by
  cases x with
  | backend n request =>
      cases h
      exact ⟨⟨.quiet _, .refl _⟩, fun _ => program_triple hW request w ha.untouched⟩
  | pg id =>
      obtain ⟨⟨request, xs⟩, hx, h⟩ := Option.map_eq_some_iff.mp h
      cases h
      obtain ⟨c, hc, hs, rfl, htable⟩ := deliver_spec hx
      have he := environment_pg (Γ := Γ) htable (.movePg _ id c _ hc hs (.inl rfl))
      have hat : Exchange.table xs id = some { c with progress := .delivered } := by
        rw [htable]
        exact Function.update_self ..
      refine ⟨he, fun hi => (Triple.map (servePg_triple hW)) _ ⟨⟨_, ⟨hat, rfl⟩, rfl⟩, ?_, ?_⟩⟩
      · exact Option.eq_none_iff_forall_ne_some.mpr fun p hp =>
          ha.pgRow _ p hp (hi.pgRow_inserter (c := { c with progress := .delivered }) hat hp)
      · exact ha.cardCall
  | card id =>
      obtain ⟨⟨request, xs⟩, hx, h⟩ := Option.map_eq_some_iff.mp h
      cases h
      obtain ⟨d, hd, hs, rfl, htable⟩ := deliver_spec hx
      have he := environment_card (Γ := Γ) htable (.moveCard _ id d _ hd hs (.inl rfl))
      have hat : Exchange.table xs id = some { d with progress := .delivered } := by
        rw [htable]
        exact Function.update_self ..
      refine ⟨he, fun hi => (Triple.map (serveCard_triple hW)) _ ⟨⟨_, ⟨hat, rfl⟩, rfl⟩, ?_⟩⟩
      refine Option.eq_none_iff_forall_ne_some.mpr fun x hx => ?_
      exact ha.cardRow _ x hx (hi.cardRow_inserter (d := { d with progress := .delivered }) hat hx)

/-- Within every regime the three services keep the contract. -/
theorem carPayIn_meets (rt : Runtime) (hW : Within π Γ) :
    (carPayIn rt).Meets π (contract Γ) World.Unpaid outline where
  init w hw := by
    obtain ⟨h₁, -, h₃, h₄, h₅, h₆⟩ := hw.tables
    refine ⟨.of_empty h₁ h₃ h₄ h₅ h₆, fun t => ⟨⟨?_, ?_⟩, ?_, ?_, ?_⟩⟩ <;>
      simp [NoPgCall, NoCardCall, h₁, h₃, h₄, h₅, h₆]
  moves w w' hi hm := by
    rcases hm with ⟨t, hs, -⟩ | ⟨hs, -⟩
    · exact Coherent.move hi (.inl ⟨t, hs⟩)
    · exact Coherent.move hi (.inr hs)
  idle_stable _ := stable_of_ledger fun _ _ h => h.absent
  ended_stable _ _ := .const True
  stopped_stable _ := .const True
  start _ _ _ _ _ _ hb _ ha := start_step hW hb ha
  crash _ _ _ := trivial
  environment _ _ _ he hp := environment_step hW he hp

theorem ledger_invariant (hW : Within π Γ) {J : Ledger → Prop}
    (h₀ : ∀ w : World, w.Unpaid → J w.ledger)
    (hJ : ∀ ℓ ℓ', ℓ.Coherent → Move Γ ℓ ℓ' → J ℓ → J ℓ')
    {c : Config Op PyError Reply World Tid} (hc : (carPayIn rt).Reachable π World.Unpaid c) :
    J c.state.ledger := by
  refine (carPayIn_meets rt hW).invariant (J := fun w => J w.ledger) h₀ ?_ hc
  rintro w w' hi (⟨t, hs, -⟩ | ⟨hs, -⟩) h
  · exact hJ _ _ hi (.inl ⟨t, hs⟩) h
  · exact hJ _ _ hi (.inr hs) h

theorem coherent_of_reachable (hW : Within π Γ) {c : Config Op PyError Reply World Tid}
    (hc : (carPayIn rt).Reachable π World.Unpaid c) : c.state.ledger.Coherent :=
  ((carPayIn_meets rt hW).sound hc).1

end CarPayIn
