import CarPayIn.Backend.Stays
import CarPayIn.Payments.Coherence

/-! # The contract of the payment executions

A call of an execution makes one step of the ledgers and loses no parking
session. Policies that stay within a regime admit only the charges, timeouts
and faults that the regime allows.
-/

namespace CarPayIn

open Process Store Ledger

/-! ## Policies within a regime -/

/-- Faults that every service copes with: a notification or a publication that
fails, and a connection that is never made. -/
def tolerated {β : Type} : Op β → Mode PyError → Bool
  | .notifyPaymentComplete _, _ => true
  | .base .publishNotification, _ => true
  | .base (.publishEntryNotification _), _ => true
  | .pgHttp (.send _), .refused _ => true
  | .cardHttp (.send _), .refused _ => true
  | _, m => m = .answered

/-- The execution's own paid transaction has succeeded. -/
def settledBy (t : Tid) (w : World) : Bool :=
  w.transactions.any fun row => row.insertedBy = t && row.status = .success && row.amount ≠ 0

/-- The success of a paid transaction takes effect but is reported as an error. -/
def losesSuccess (w : World) {β : Type} : Op β → Mode PyError → Bool
  | .transactions (.markSuccessAndEnqueue key _ _ _ _), .lost _ =>
      w.transactions.any fun row => row.idempotencyKey = key && row.amount ≠ 0
  | _, _ => false

/-- A fault that comes before the success of the execution's paid transaction. -/
def early (t : Tid) (w : World) {β : Type} (op : Op β) (m : Mode PyError) : Bool :=
  !settledBy t w && !losesSuccess w op m

structure Within (π : Policy Op PyError World Tid Start Env) (Γ : Regime) : Prop where
  charge : ∀ t req m w, π.call t (.pgHttp (.send req)) m w → m.effective = true →
    Γ.mayCharge w.ledger req
  giveUpPg : ∀ id w, π.environment (.giveUpPg id) w → Γ.mayGiveUpPg w.ledger id
  giveUpCard : ∀ id w, π.environment (.giveUpCard id) w → Γ.mayGiveUpCard w.ledger id
  faults : ∀ t {β : Type} (op : Op β) m w, π.call t op m w → tolerated op m = true ∨ Γ.faults
  lateFaults : ∀ t {β : Type} (op : Op β) m w, π.call t op m w → tolerated op m = true ∨
    Γ.lateFaults ∨ early t w op m = true

def Regime.any : Regime where
  mayCharge _ _ := True
  mayGiveUpPg _ _ := True
  mayGiveUpCard _ _ := True
  faults := True
  lateFaults := True

theorem within_any : Within Policy.any Regime.any where
  charge _ _ _ _ _ _ := trivial
  giveUpPg _ _ _ := trivial
  giveUpCard _ _ _ := trivial
  faults _ _ _ _ _ _ := .inr trivial
  lateFaults _ _ _ _ _ _ := .inr (.inl trivial)

/-- The policy that judges charges, timeouts and faults and admits everything else. -/
def limitedPolicy (charge : World → ChargeRequest → Prop)
    (giveUpPg giveUpCard : World → Nat → Prop)
    (fault : Tid → ∀ {β : Type}, Op β → Mode PyError → World → Bool) :
    Policy Op PyError World Tid Start Env where
  start _ _ := True
  call t _ op m w := (tolerated op m || fault t op m w) = true ∧ match op with
    | .pgHttp (.send req) => m.effective = true → charge w req
    | _ => True
  crash _ _ := True
  environment x w := match x with
    | .giveUpPg id => giveUpPg w id
    | .giveUpCard id => giveUpCard w id
    | _ => True

section
variable {charge : World → ChargeRequest → Prop} {giveUpPg giveUpCard : World → Nat → Prop}
  {fault : Tid → ∀ {β : Type}, Op β → Mode PyError → World → Bool}

theorem within_limited {Γ : Regime} (hcharge : ∀ w req, charge w req → Γ.mayCharge w.ledger req)
    (hpg : ∀ w id, giveUpPg w id → Γ.mayGiveUpPg w.ledger id)
    (hcard : ∀ w id, giveUpCard w id → Γ.mayGiveUpCard w.ledger id)
    (hfault : ∀ t {β : Type} (op : Op β) m w, fault t op m w = true → Γ.faults)
    (hlate : ∀ t {β : Type} (op : Op β) m w, fault t op m w = true →
      Γ.lateFaults ∨ early t w op m = true) :
    Within (limitedPolicy charge giveUpPg giveUpCard fault) Γ where
  charge _ req _ w h hm := hcharge w req (h.2 hm)
  giveUpPg id w h := hpg w id h
  giveUpCard id w h := hcard w id h
  faults t _ op m w h := ((Bool.or_eq_true _ _).mp h.1).imp_right (hfault t op m w)
  lateFaults t _ op m w h := ((Bool.or_eq_true _ _).mp h.1).imp_right (hlate t op m w)

instance [∀ w req, Decidable (charge w req)] [∀ w id, Decidable (giveUpPg w id)]
    [∀ w id, Decidable (giveUpCard w id)] :
    (limitedPolicy charge giveUpPg giveUpCard fault).Computable where
  start _ _ := .isTrue trivial
  call _ _ op m w :=
    have : Decidable (match op with
        | .pgHttp (.send req) => m.effective = true → charge w req
        | _ => True) := match op with
      | .pgHttp (.send req) => inferInstanceAs (Decidable (m.effective = true → charge w req))
      | .pgHttp (.receive _) | .pgHttp (.respond _ _) => .isTrue trivial
      | .base _ | .transactions _ | .retries _ | .scanRetries | .notifyPaymentComplete _ | .pg _
      | .cardHttp _ | .card _ => .isTrue trivial
    inferInstanceAs (Decidable (_ ∧ _))
  crash _ _ := .isTrue trivial
  environment x w := match x with
    | .giveUpPg id => inferInstanceAs (Decidable (giveUpPg w id))
    | .giveUpCard id => inferInstanceAs (Decidable (giveUpCard w id))
    | .tick _ | .outside _ | .scan _ | .scanEntries _ | .pgBillingKeys _ | .cardTokens _ | .dropPg _
    | .dropCard _ => .isTrue trivial

end

/-! ## The contract -/

def contract (Γ : Regime) : Contract World Tid where
  invariant w := w.ledger.Coherent
  guarantee t w w' := Step Γ t w.ledger w'.ledger ∧ StaysKept w.base w'.base
  environment w w' := NetStep Γ w.ledger w'.ledger ∧ StaysKept w.base w'.base

def Quiet {β : Type} : Op β → Prop
  | .base _ | .retries _ | .scanRetries | .notifyPaymentComplete _ => True
  | .transactions (.getByIdempotencyKey _) => True
  | .pg .draw | .pg (.getBillingKey _) | .pg (.getByIdempotencyKey _) => True
  | .card .draw | .card (.getCardToken _) | .card (.getByIdempotencyKey _) => True
  | _ => False

theorem World.exec_quiet {t : Tid} {β : Type} {op : Op β} (hq : Quiet op) {w w' : World}
    {r : Except PyError β} (h : w.exec t op = some (r, w')) :
    w'.ledger = w.ledger ∧ StaysKept w.base w'.base := by
  cases op with
  | base op => cases h; exact ⟨rfl, (Base.exec_session op w.base).staysKept⟩
  | retries op => cases h; exact ⟨rfl, .refl _⟩
  | scanRetries => cases h; exact ⟨rfl, .refl _⟩
  | notifyPaymentComplete payload => cases h; exact ⟨rfl, .refl _⟩
  | transactions op => cases op <;> first | exact hq.elim | (cases h; exact ⟨rfl, .refl _⟩)
  | pg op => cases op <;> first | exact hq.elim | (cases h; exact ⟨rfl, .refl _⟩)
  | card op => cases op <;> first | exact hq.elim | (cases h; exact ⟨rfl, .refl _⟩)
  | pgHttp op => exact hq.elim
  | cardHttp op => exact hq.elim

/-- An assertion that only looks at the ledgers and at the stays in the table. -/
def Robust (P : World → Prop) : Prop :=
  ∀ w w', w'.ledger = w.ledger → StaysKept w.base w'.base → P w → P w'

theorem Robust.of_ledger (A : Ledger → Prop) : Robust fun w => A w.ledger :=
  fun w w' h _ hA => by simpa only [h] using hA

section
variable {rt : Runtime} {π : Policy Op PyError World Tid Start Env} {Γ : Regime} {t : Tid}
  {P : World → Prop} {α : Type}

theorem quiet_outcome (op : Op α) (hq : Quiet op) {m : Mode PyError} {r : Except PyError α}
    {w w' : World} (h : (carPayIn rt).outcome t op m w = some (r, w')) :
    w'.ledger = w.ledger ∧ StaysKept w.base w'.base := by
  rcases (carPayIn rt).outcome_cases h with ⟨-, h⟩ | ⟨e, -, -, rfl⟩ | ⟨e, r₀, -, -, h⟩
  · exact World.exec_quiet hq h
  · exact ⟨rfl, .refl _⟩
  · exact World.exec_quiet hq h

theorem guarantee_of_quiet {w w' : World} (h : w'.ledger = w.ledger)
    (hk : StaysKept w.base w'.base) : (contract Γ).guarantee t w w' := by
  refine ⟨?_, hk⟩
  rw [h]
  exact .quiet _

theorem guarantee_of_step {w w' : World} {ℓ : Ledger} (hs : Step Γ t w.ledger ℓ)
    (hl : w'.ledger = ℓ) (hb : w'.base = w.base) : (contract Γ).guarantee t w w' := by
  subst hl
  exact ⟨hs, by rw [hb]; exact .refl _⟩

theorem guarantee_refl (w : World) : (contract Γ).guarantee t w w := ⟨.quiet _, .refl _⟩

theorem quiet_call {op : Op α} (hq : Quiet op) (hP : (contract Γ).Stable t P) (hr : Robust P) :
    (carPayIn rt).Triple π (contract Γ) t P (.perform op) (fun _ => P) := by
  refine .perform hP fun w m r w' hw _ _ ho => ?_
  obtain ⟨hl, hk⟩ := quiet_outcome op hq ho
  exact ⟨guarantee_of_quiet hl hk, hr w w' hl hk hw⟩

theorem base_call (p : BaseService α) (hP : (contract Γ).Stable t P) (hr : Robust P) :
    (carPayIn rt).Triple π (contract Γ) t P (Service.base p) (fun _ => P) := by
  refine .calls (Program.calls_lift (fun op => Op.base op) ?_ p) hP
  intro γ op w m r w' hw _ _ ho _
  obtain ⟨hl, hk⟩ := quiet_outcome (.base op) trivial ho
  exact ⟨guarantee_of_quiet hl hk, hr w w' hl hk hw⟩

end

end CarPayIn
