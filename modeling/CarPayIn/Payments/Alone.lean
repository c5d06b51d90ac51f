import CarPayIn.Payments.Effects
import CarPayIn.Process.Serial

/-! # One service by itself

Rules for an execution between whose calls only time passes and the replies
from outside change.
-/

namespace CarPayIn

open Process Process.System Store Service

variable {rt : Runtime} {t : Tid} {w w' : World} {P : World → Prop} {α β : Type}

abbrev Alone (rt : Runtime) (t : Tid) (P : World → Prop) (p : Service α)
    (Q : Except PyError α → World → Prop) : Prop :=
  (carPayIn rt).Triple Policy.any ((carPayIn rt).solo Policy.any t) t P p Q

/-- Only time has passed and replies from outside have changed. -/
def Drifted (w₀ w : World) : Prop :=
  ∃ now outside scannedEntries, w₀.base.now ≤ now ∧ w.base = { w₀.base with
    now := now, outside := outside, scannedEntries := scannedEntries }

namespace Drifted

variable {w₀ : World}

theorem refl (w : World) : Drifted w w := ⟨_, _, _, Nat.le_refl _, rfl⟩

theorem drift (h : Drifted w₀ w) (hd : (carPayIn rt).Drifts Policy.any w w') : Drifted w₀ w' := by
  obtain ⟨x, -, he⟩ := hd
  obtain ⟨now, outside, scanned, hnow, hb⟩ := environment_base he
  obtain ⟨now₀, outside₀, scanned₀, hnow₀, hb₀⟩ := h
  rw [hb₀] at hb hnow
  exact ⟨now, outside, scanned, Nat.le_trans hnow₀ hnow, hb⟩

theorem now (h : Drifted w₀ w) : w₀.base.now ≤ w.base.now := by
  obtain ⟨now, outside, scanned, hnow, hb⟩ := h
  rwa [hb]

theorem parkingSessions (h : Drifted w₀ w) :
    w.base.parkingSessions = w₀.base.parkingSessions := by
  obtain ⟨now, outside, scanned, -, hb⟩ := h
  rw [hb]

theorem quotes (h : Drifted w₀ w) : w.base.quotes = w₀.base.quotes := by
  obtain ⟨now, outside, scanned, -, hb⟩ := h
  rw [hb]

theorem preNotifies (h : Drifted w₀ w) : w.base.preNotifies = w₀.base.preNotifies := by
  obtain ⟨now, outside, scanned, -, hb⟩ := h
  rw [hb]

end Drifted

/-- What a store still shows was there before. -/
theorem read_of_later {κ ν : Type} {c : Cache κ ν} {key : κ} {now now' : Nat} {e : Entry ν}
    (hnow : now ≤ now') (h : c.read now' key = some e) : c.read now key = some e := by
  obtain ⟨hget, hlive⟩ := Cache.read_eq_some.mp h
  exact Cache.read_eq_some.mpr ⟨hget, Entry.live_of_later hnow hlive⟩

theorem base_bind (p : BaseService α) (f : α → BaseService β) :
    base (p.bind f) = (base p).bind fun a => base (f a) := Program.lift_bind Op.base p f

theorem base_tryCatch (p : BaseService α) (h : PyError → BaseService α) :
    base (p.tryCatch h) = (base p).tryCatch fun e => base (h e) := Program.lift_tryCatch Op.base p h

theorem base_map (f : α → β) (p : BaseService α) : base (f <$> p) = f <$> base p :=
  base_bind p fun a => .done (.ok (f a))

theorem base_update {κ ν : Type} {send : ∀ {γ : Type}, CacheOp κ ν γ → BaseOp γ} {key : κ}
    {fields : ν → ν} : base (update @send key fields) =
      update (fun {_} op => Op.base (send op)) key fields := by
  unfold update
  simp only [Program.bind_eq, base_bind]
  congr 1
  funext found
  cases found with
  | none => rfl
  | some x =>
      simp only [base_bind]
      congr 1
      funext ttlSeconds
      split
      · rw [base_bind]
        rfl
      · rw [base_bind]
        rfl

theorem Base.exec_of_nothing {op : BaseOp α} {b : Base} (he : op.effect = .nothing) :
    (b.exec op).2 = b := by
  cases op with
  | qrSessions op | oauthStates op | oauthResults op | loginResults op | cardOrders op
  | preNotifies op | quotes op | entryRetries op => cases op <;> first | rfl | cases he
  | _ => first | rfl | cases he

theorem outcome_ask {op : BaseOp α} (he : op.effect = .nothing) {m : Mode PyError}
    {r : Except PyError α} (ho : (carPayIn rt).outcome t (.base op) m w = some (r, w')) :
    w' = w ∧ ∀ a, r = .ok a → (w.base.exec op).1 = .ok a := by
  have hsame : ∀ r₀, w.exec t (.base op) = some (r₀, w') → w' = w := by
    intro r₀ h
    have hw : w' = { w with base := (w.base.exec op).2 } := (congrArg Prod.snd (Option.some.inj h)).symm
    rw [hw, Base.exec_of_nothing he]
  rcases (carPayIn rt).outcome_cases ho with ⟨-, h⟩ | ⟨e, -, rfl, rfl⟩ | ⟨e, r₀, -, rfl, h⟩
  · refine ⟨hsame _ h, fun a hr => ?_⟩
    subst hr
    exact congrArg Prod.fst (Option.some.inj h)
  · exact ⟨rfl, fun a hr => by cases hr⟩
  · exact ⟨hsame _ h, fun a hr => by cases hr⟩

theorem ask_alone (op : BaseOp α) (he : op.effect = .nothing)
    (hP : ∀ w w', (carPayIn rt).Drifts Policy.any w w' → P w → P w') :
    Alone rt t P (base (ask op)) (fun r w => P w ∧ ∀ a, r = .ok a → (w.base.exec op).1 = .ok a) := by
  apply solo_perform hP
  intro w m r w' hw _ ho
  obtain ⟨rfl, hr⟩ := outcome_ask he ho
  exact ⟨hw, hr⟩

theorem getSessionById_alone (sessionId : String)
    (hP : ∀ w w', (carPayIn rt).Drifts Policy.any w w' → P w → P w') :
    Alone rt t P (base (BaseService.getSessionById sessionId)) (fun r w => P w ∧
      ∀ found, r = .ok found → ∃ id, Uuid.parse sessionId = .ok id ∧
        w.base.getSessionById id = found) := by
  unfold BaseService.getSessionById
  cases hid : Uuid.parse sessionId with
  | error e => exact .done fun w hw => ⟨hw, fun found h => by cases h⟩
  | ok id =>
      apply Triple.conseq (ask_alone (.getSessionById id) rfl hP) (fun _ h => h)
      intro r w hr
      exact ⟨hr.1, fun found h => ⟨id, rfl, Except.ok.inj (hr.2 found h)⟩⟩

theorem Base.validateToken_ok {b : Base} {token : BearerToken} {typ : TokenType} {code : String}
    {claims : TokenClaims} (h : b.validateToken token typ code = .ok claims) :
    token = .signed claims := by
  unfold validateToken at h
  split at h
  · cases h
  · split_ifs at h
    cases h
    rfl

/-- What every effect of a program leaves holds throughout. -/
theorem effects_alone (es : List Effect) {p : Service α} (hp : ServiceEffects es p)
    (hdrift : ∀ w w', (carPayIn rt).Drifts Policy.any w w' → P w → P w')
    (hP : ∀ e ∈ .nothing :: es, ∀ w w' : World, Frame e w.base w'.base → P w → P w') :
    Alone rt t P p (fun _ => P) := by
  apply Triple.calls ?_ (stable_solo hdrift)
  apply Program.Calls.mono hp
  intro β op hop w m r w' hw _ _ ho _
  exact ⟨rfl, hP _ hop w w' (outcome_frame ho) hw⟩

theorem known_alone {a : α} {f : α → Service β} {Q : Except PyError β → World → Prop}
    (h : Alone rt t P (f a) Q) (b : α) : Alone rt t (fun w => P w ∧ b = a) (f b) Q := by
  intro w ⟨hw, hb⟩
  subst hb
  exact h w hw

/-! ## Steps of one execution -/

theorem outcome_answered {op : BaseOp β} {a : β} (he : op.effect = .nothing)
    (ha : (w.base.exec op).1 = .ok a) :
    (carPayIn rt).outcome t (.base op) .answered w = some (.ok a, w) := by
  show (some ((w.base.exec op).1, { w with base := (w.base.exec op).2 })) = _
  rw [ha, Base.exec_of_nothing he]

theorem Finishes.perform (op : BaseOp β) {a : β} (he : op.effect = .nothing)
    (ha : (w.base.exec op).1 = .ok a) :
    (carPayIn rt).Finishes Policy.any t (base (CarPayIn.ask op)) w (.ok a) w :=
  Process.System.Finishes.call trivial (outcome_answered he ha) (.done _ _)

theorem Finishes.ask (op : BaseOp β) {a : β} {f : β → BaseService α} {r : Except PyError α}
    (he : op.effect = .nothing) (ha : (w.base.exec op).1 = .ok a)
    (hf : (carPayIn rt).Finishes Policy.any t (base (f a)) w r w') :
    (carPayIn rt).Finishes Policy.any t (base ((CarPayIn.ask op).bind f)) w r w' := by
  rw [base_bind]
  exact (Finishes.perform op he ha).bind hf

end CarPayIn
