import CarPayIn.Payments.Alone
import CarPayIn.Process.Ground
import CarPayIn.Process.Lookups
import CarPayIn.Login.OwnCars

/-! # The life of a refresh token

A refresh token is saved once, for a user and a car, and is good for thirty
days. Only its first use after that marks it expired; until then nothing but the
comparison with the clock stands against it.
-/

namespace CarPayIn

open Process Process.System Store Service

variable {rt : Runtime} {t : Tid} {w w' : World} {b b' : Base} {α : Type}

/-! ## The table -/

/-- The same token: only its status may differ. -/
def AppRefreshToken.SameToken (r r' : AppRefreshToken) : Prop :=
  r'.refreshTokenHash = r.refreshTokenHash ∧ r'.userId = r.userId ∧ r'.carId = r.carId ∧
    r'.expiresAt = r.expiresAt

/-- What a later reading of the row may show. -/
def AppRefreshToken.Becomes (now : Nat) (r r' : AppRefreshToken) : Prop :=
  r.SameToken r' ∧ (r'.status = r.status ∨ r'.status = .expired ∧ r.expiresAt ≤ now)

theorem AppRefreshToken.SameToken.trans {r r' r'' : AppRefreshToken} (h : r.SameToken r')
    (h' : r'.SameToken r'') : r.SameToken r'' :=
  ⟨h'.1.trans h.1, h'.2.1.trans h.2.1, h'.2.2.1.trans h.2.2.1, h'.2.2.2.trans h.2.2.2⟩

theorem AppRefreshToken.Becomes.trans {now now' : Nat} {r r' r'' : AppRefreshToken}
    (h : r.Becomes now r') (h' : r'.Becomes now' r'') (hnow : now ≤ now') : r.Becomes now' r'' := by
  obtain ⟨hsame, hs⟩ := h
  obtain ⟨hsame', hs'⟩ := h'
  refine ⟨hsame.trans hsame', ?_⟩
  rcases hs' with hs' | ⟨hs', hle⟩
  · rw [hs']
    exact hs.imp_right fun ⟨hs, hle⟩ => ⟨hs, Nat.le_trans hle hnow⟩
  · exact .inr ⟨hs', hsame.2.2.2 ▸ hle⟩

def AppRefreshToken.life : Nat := Base.appRefreshTokenTtlDays * 24 * 60 * 60 * 1000

/-- Saved between the two times. -/
def AppRefreshToken.SavedWithin (since now : Nat) (r : AppRefreshToken) : Prop :=
  since + life ≤ r.expiresAt ∧ r.expiresAt ≤ now + life

def AppRefreshToken.expire (r : AppRefreshToken) : AppRefreshToken := { r with status := .expired }

/-- What one step makes of the table: nothing, a new token, or the end of one that
has run out. -/
inductive TokenStep (b b' : Base) : Prop where
  | kept (hnow : b.now ≤ b'.now) (hrows : b'.refreshTokens = b.refreshTokens)
  | saved (row : AppRefreshToken) (hstatus : row.status = .active)
      (hexpires : row.expiresAt = b.now + AppRefreshToken.life)
      (hnew : get? AppRefreshToken.refreshTokenHash row.refreshTokenHash b.refreshTokens = none)
      (hnow : b'.now = b.now) (hrows : b'.refreshTokens = row :: b.refreshTokens)
  | expired (row : AppRefreshToken)
      (hrow : get? AppRefreshToken.refreshTokenHash row.refreshTokenHash b.refreshTokens = some row)
      (hexpired : row.expiresAt ≤ b.now) (hnow : b'.now = b.now) (hrows : b'.refreshTokens =
        modify AppRefreshToken.refreshTokenHash row.refreshTokenHash AppRefreshToken.expire
          b.refreshTokens)

/-- Tokens are told apart by their hashes, and one that is not active has run out. -/
structure TokensInOrder (b : Base) : Prop where
  hashes : UniqueBy AppRefreshToken.refreshTokenHash b.refreshTokens
  status : ∀ r ∈ b.refreshTokens, r.status = .active ∨ r.status = .expired ∧ r.expiresAt ≤ b.now

theorem TokenStep.now_le (h : TokenStep b b') : b.now ≤ b'.now := by
  cases h with
  | kept hnow _ => exact hnow
  | saved _ _ _ _ hnow _ => exact Nat.le_of_eq hnow.symm
  | expired _ _ _ hnow _ => exact Nat.le_of_eq hnow.symm

theorem TokenStep.inOrder (h : TokenStep b b') (hb : TokensInOrder b) : TokensInOrder b' := by
  cases h with
  | kept hnow hrows =>
      constructor
      · rw [hrows]
        exact hb.hashes
      · rw [hrows]
        exact fun r hr => (hb.status r hr).imp_right fun ⟨hs, hle⟩ => ⟨hs, Nat.le_trans hle hnow⟩
  | saved row hstatus hexpires hnew hnow hrows =>
      constructor
      · rw [hrows]
        exact hb.hashes.cons hnew
      · rw [hrows, hnow, List.forall_mem_cons]
        exact ⟨.inl hstatus, hb.status⟩
  | expired row hrow hexpired hnow hrows =>
      constructor
      · rw [hrows]
        exact hb.hashes.modify fun _ => rfl
      · rw [hrows, hnow]
        intro r hr
        obtain ⟨r₀, hr₀, rfl⟩ := List.mem_map.mp hr
        split
        · rename_i hhash
          have hfound := hb.hashes.get?_of_mem hr₀
          rw [hhash, hrow] at hfound
          cases hfound
          exact .inr ⟨rfl, hexpired⟩
        · exact hb.status r₀ hr₀

theorem TokenStep.find {hash : String} {r : AppRefreshToken} (h : TokenStep b b')
    (hr : get? AppRefreshToken.refreshTokenHash hash b.refreshTokens = some r) :
    ∃ r', get? AppRefreshToken.refreshTokenHash hash b'.refreshTokens = some r' ∧
      r.Becomes b'.now r' := by
  have hsame : r.Becomes b'.now r := ⟨⟨rfl, rfl, rfl, rfl⟩, .inl rfl⟩
  cases h with
  | kept hnow hrows => exact ⟨r, hrows ▸ hr, hsame⟩
  | saved row hstatus hexpires hnew hnow hrows =>
      refine ⟨r, ?_, hsame⟩
      rw [hrows, get?_cons, if_neg]
      · exact hr
      · intro he
        rw [he, hr] at hnew
        cases hnew
  | expired row hrow hexpired hnow hrows =>
      rw [hrows, get?_modify AppRefreshToken.expire fun _ => rfl]
      split
      · rename_i he
        obtain rfl : row = r := by
          rw [he, hrow] at hr
          exact Option.some.inj hr
        exact ⟨row.expire, by rw [hrow]; rfl, ⟨rfl, rfl, rfl, rfl⟩,
          .inr ⟨rfl, hnow ▸ hexpired⟩⟩
      · exact ⟨r, hr, hsame⟩

/-- Every token of the table after a step was there before or has just been saved. -/
theorem TokenStep.origin {r' : AppRefreshToken} (h : TokenStep b b') (hr' : r' ∈ b'.refreshTokens) :
    (∃ r ∈ b.refreshTokens, r.SameToken r') ∨ r'.SavedWithin b.now b.now := by
  cases h with
  | kept hnow hrows => exact .inl ⟨r', hrows ▸ hr', rfl, rfl, rfl, rfl⟩
  | saved row hstatus hexpires hnew hnow hrows =>
      rcases List.mem_cons.mp (hrows ▸ hr') with rfl | hold
      · exact .inr ⟨Nat.le_of_eq hexpires.symm, Nat.le_of_eq hexpires⟩
      · exact .inl ⟨r', hold, rfl, rfl, rfl, rfl⟩
  | expired row hrow hexpired hnow hrows =>
      obtain ⟨r, hr, rfl⟩ := List.mem_map.mp (hrows ▸ hr')
      refine .inl ⟨r, hr, ?_⟩
      split
      · exact ⟨rfl, rfl, rfl, rfl⟩
      · exact ⟨rfl, rfl, rfl, rfl⟩

/-! ## The contract -/

def refreshing : Contract World Tid where
  invariant w := TokensInOrder w.base
  guarantee _ w w' := TokenStep w.base w'.base
  environment w w' := TokenStep w.base w'.base

/-- What the steps of the table decide for good. -/
def Unexpiring (P : World → Prop) : Prop := ∀ w w', TokenStep w.base w'.base → P w → P w'

theorem Unexpiring.stable {P : World → Prop} (hP : Unexpiring P) : refreshing.Stable t P := by
  intro w w' hi hw
  rcases hi.2.2 with ⟨t', -, hg⟩ | he
  · exact hP w w' hg hw
  · exact hP w w' he hw

theorem unexpiring_true : Unexpiring fun _ => True := fun _ _ _ h => h

def Saved (hash : String) (record : AppRefreshToken) (w : World) : Prop :=
  ∃ r, get? AppRefreshToken.refreshTokenHash hash w.base.refreshTokens = some r ∧ record.SameToken r

theorem unexpiring_saved (hash : String) (record : AppRefreshToken) :
    Unexpiring (Saved hash record) := by
  rintro w w' hstep ⟨r, hr, hsame⟩
  obtain ⟨r', hr', hsame', -⟩ := hstep.find hr
  exact ⟨r', hr', hsame.trans hsame'⟩

theorem unexpiring_now (ms : Nat) : Unexpiring fun w => ms ≤ w.base.now :=
  fun _ _ hstep h => Nat.le_trans h hstep.now_le

theorem Unexpiring.and {P Q : World → Prop} (hP : Unexpiring P) (hQ : Unexpiring Q) :
    Unexpiring fun w => P w ∧ Q w := fun w w' hstep h => ⟨hP w w' hstep h.1, hQ w w' hstep h.2⟩

abbrev Refreshing (rt : Runtime) (t : Tid) (P : World → Prop) (p : Service α)
    (Q : α → World → Prop) : Prop := (carPayIn rt).Returns Policy.any refreshing t P p Q

/-! ## The calls -/

/-- A call that marks no token expired. -/
def MarksNone {β : Type} : Op β → Prop
  | .base (.markTokenExpired _) => False
  | _ => True

theorem marksNone_of_effect {op : Op α} (h : op.effect ≠ .refreshToken) : MarksNone op := by
  unfold MarksNone
  split
  · exact h rfl
  · trivial

theorem Base.saveTokenHash_step {hash userId carId : String}
    (h : b.saveTokenHash hash userId carId = .ok b') : TokenStep b b' := by
  unfold saveTokenHash at h
  split_ifs at h with _ _ hnew
  cases h
  exact .saved ⟨hash, userId, carId, .active, _⟩ rfl rfl (by simpa using hnew) rfl rfl

theorem World.exec_tokenStep {op : Op α} {r : Except PyError α} (hop : MarksNone op)
    (h : w.exec t op = some (r, w')) : TokenStep w.base w'.base := by
  by_cases heffect : op.effect = .refreshToken
  · cases op with
    | base op =>
        cases h
        cases op with
        | saveTokenHash hash userId carId =>
            show TokenStep w.base (w.base.write _).2
            cases hx : w.base.saveTokenHash hash userId carId with
            | ok b => exact Base.saveTokenHash_step hx
            | error e => exact .kept (Nat.le_refl _) rfl
        | markTokenExpired hash => exact hop.elim
        | _ => simp [Op.effect] at heffect
    | _ => simp [Op.effect] at heffect
  · have hframe := World.exec_frame h
    exact .kept (Nat.le_of_eq hframe.now.symm) (hframe.refreshTokens heffect)

theorem outcome_tokenStep {op : Op α} {m : Mode PyError} {r : Except PyError α}
    (hop : MarksNone op) (ho : (carPayIn rt).outcome t op m w = some (r, w')) :
    TokenStep w.base w'.base := by
  rcases (carPayIn rt).outcome_cases ho with ⟨-, h⟩ | ⟨e, -, -, rfl⟩ | ⟨e, r₀, -, -, h⟩
  · exact World.exec_tokenStep hop h
  · exact .kept (Nat.le_refl _) rfl
  · exact World.exec_tokenStep hop h

theorem marking_program {P : World → Prop} {p : Service α} (hp : p.Calls MarksNone)
    (hP : Unexpiring P) : (carPayIn rt).Triple Policy.any refreshing t P p (fun _ => P) := by
  apply Triple.calls ?_ hP.stable
  apply hp.mono
  intro β op hop w m r w' hw _ _ ho _
  have hstep := outcome_tokenStep hop ho
  exact ⟨hstep, hP w w' hstep hw⟩

theorem ask_refreshing (op : BaseOp α) (hop : MarksNone (.base op)) {P : World → Prop}
    {Q : α → World → Prop} (hP : Unexpiring P)
    (h : ∀ w a, P w → (w.base.exec op).1 = .ok a →
      Q a { w with base := (w.base.exec op).2 }) :
    Refreshing rt t P (base (ask op)) Q := by
  apply Returns.perform hP.stable
  · exact fun w m r w' _ _ ho => outcome_tokenStep hop ho
  · intro w a w' hw _ he
    obtain ⟨ha, rfl⟩ := exec_base (show w.exec t (.base op) = some (.ok a, w') from he)
    exact h w a hw ha

/-! ## A refresh -/

/-- The token that is returned is one of the user and the car of the refresh token. -/
def NamesRow (hash : String) (token : BearerToken) (w : World) : Prop :=
  ∃ r, get? AppRefreshToken.refreshTokenHash hash w.base.refreshTokens = some r ∧
    ∃ exp, token = .signed ⟨.appAccess, r.userId, r.carId, exp⟩

theorem unexpiring_namesRow (hash : String) (token : BearerToken) :
    Unexpiring (NamesRow hash token) := by
  rintro w w' hstep ⟨r, hr, exp, rfl⟩
  obtain ⟨r', hr', ⟨-, huser, hcar, -⟩, -⟩ := hstep.find hr
  exact ⟨r', hr', exp, by rw [huser, hcar]⟩

/-- Only a token that has run out is marked. -/
theorem markTokenExpired_refreshing (hash : String) (record : AppRefreshToken) :
    (carPayIn rt).Triple Policy.any refreshing t
      (fun w => Saved hash record w ∧ record.expiresAt ≤ w.base.now)
      (base (ask (.markTokenExpired hash))) (fun _ _ => True) := by
  apply Triple.perform ((unexpiring_saved hash record).and (unexpiring_now _)).stable
  rintro w m r w' ⟨⟨row, hrow, -, -, -, hsame⟩, hexpired⟩ - - ho
  refine ⟨?_, trivial⟩
  have hexec : ∀ r₀, w.exec t (.base (.markTokenExpired hash)) = some (r₀, w') →
      TokenStep w.base w'.base := by
    intro r₀ h
    cases h
    have hhash : row.refreshTokenHash = hash := col_of_get? hrow
    subst hhash
    refine .expired row hrow (hsame ▸ hexpired) ?_ ?_
    · simp only [Base.markExpired, hrow]
    · simp only [Base.markExpired, hrow]
      rfl
  rcases (carPayIn rt).outcome_cases ho with ⟨-, h⟩ | ⟨e, -, -, rfl⟩ | ⟨e, r₀, -, -, h⟩
  · exact hexec _ h
  · exact .kept (Nat.le_refl _) rfl
  · exact hexec _ h

theorem refreshAccessToken_refreshing (refreshToken : String) :
    Refreshing rt t (fun _ => True) (base (RefreshAccessTokenService.execute rt refreshToken))
      (NamesRow (rt.tokenHash refreshToken)) := by
  unfold RefreshAccessTokenService.execute
  split
  · exact .throw
  simp only [Program.bind_eq, base_bind]
  apply Returns.bind (M := fun (found : Option AppRefreshToken) w =>
    ∀ record, found = some record → Saved (rt.tokenHash refreshToken) record w)
  · apply ask_refreshing (.findTokenByHash _) (by trivial) unexpiring_true
    intro w found _ hfound record hrecord
    subst hrecord
    exact ⟨record, Except.ok.inj hfound, rfl, rfl, rfl, rfl⟩
  intro found
  cases found with
  | none => exact .throw
  | some record =>
      have hsaved := unexpiring_saved (rt.tokenHash refreshToken) record
      dsimp only
      split
      · exact .throw
      · exact .throw
      · rw [base_bind]
        apply Returns.bind (M := fun now w => Saved (rt.tokenHash refreshToken) record w ∧
          now ≤ w.base.now)
        · apply Returns.conseq (ask_refreshing .now trivial hsaved ?_)
            (fun w hw => hw record rfl) (fun _ _ h => h)
          intro w now hw hnow
          exact ⟨hw, Nat.le_of_eq (Except.ok.inj hnow).symm⟩
        · intro now
          split
          · rename_i hexpired
            rw [base_bind]
            apply Returns.bind (M := fun _ _ => True)
            · apply Triple.conseq (markTokenExpired_refreshing (rt.tokenHash refreshToken) record)
                (fun w hw => ⟨hw.1, Nat.le_trans hexpired hw.2⟩) (fun _ _ _ _ _ => trivial)
            · exact fun _ => .throw
          · apply Returns.conseq (ask_refreshing (.issueToken _ _ _ _) (by trivial) hsaved ?_)
              (fun w hw => hw.1) (fun _ _ h => h)
            rintro w token ⟨r, hr, -, huser, hcar, -⟩ htoken
            obtain rfl := Except.ok.inj htoken
            exact ⟨r, hr, _, by rw [huser, hcar]⟩

/-! ## The other requests -/

theorem confirmVehicle_marksNone (command : ConfirmVehicleCommand) :
    (base (ConfirmVehicleService.execute rt command)).Calls MarksNone := by
  apply Program.Calls.lift Op.base
  apply confirmVehicle_calls rt command
  · exact fun op hop => marksNone_of_effect fun h => by
      rw [show (Op.base op).effect = op.effect from rfl, hop] at h
      cases h
  · intro sessionId userId name carId car
    exact bindVehicle_calls rt sessionId userId name carId car trivial (fun _ => trivial) trivial
      (fun _ => trivial) trivial

def refreshes (rt : Runtime) : Outline PyError Reply World Tid where
  idle _ _ := True
  ended t r w := match t, r with
    | .backend _ (.refreshAccessToken refreshToken), .ok (.token token) =>
        NamesRow (rt.tokenHash refreshToken) token w
    | _, _ => True
  stopped _ _ := True

theorem unexpiring_refreshes (t : Tid) (r : Except PyError Reply) :
    Unexpiring ((refreshes rt).ended t r) := by
  intro w w' hstep h
  unfold refreshes at h ⊢
  dsimp only at h ⊢
  split
  · exact unexpiring_namesRow _ _ w w' hstep h
  · trivial

theorem begin_refreshing {x : Start} {p : Service Reply} (h : w.begin rt x = some (t, p, w')) :
    p.wp ((carPayIn rt).spec Policy.any refreshing t) ((refreshes rt).ended t) w' := by
  have hmarks {p : Service Reply} (hp : p.Calls MarksNone)
      (hended : ∀ r w, (refreshes rt).ended t r w) (w : World) :
      p.wp ((carPayIn rt).spec Policy.any refreshing t) ((refreshes rt).ended t) w :=
    Triple.conseq (marking_program hp unexpiring_true) (fun _ h => h) (fun r w _ => hended r w) w
      trivial
  have hother (hfree : Effect.refreshToken ∉ .nothing :: t.effects)
      (hended : ∀ r w, (refreshes rt).ended t r w) :
      p.wp ((carPayIn rt).spec Policy.any refreshing t) ((refreshes rt).ended t) w' :=
    hmarks (((begin_spec h).effects.avoids hfree).mono fun _ => marksNone_of_effect) hended w'
  cases x with
  | pg id | card id =>
      obtain ⟨y, -, h⟩ := Option.map_eq_some_iff.mp h
      cases h
      exact hother (by simp [Tid.effects]) fun _ _ => trivial
  | backend n request =>
      cases h
      cases request with
      | refreshAccessToken refreshToken =>
          show Program.wp _ (base (Reply.token <$> RefreshAccessTokenService.execute rt refreshToken)) _ w
          rw [base_map]
          apply Triple.map (P := fun _ => True) ?_ w trivial
          apply Triple.conseq (refreshAccessToken_refreshing refreshToken) (fun _ h => h)
          intro r w hr
          cases r with
          | ok token => exact hr token rfl
          | error e => trivial
      | confirmVehicle command =>
          show Program.wp _ (base (Reply.vehicle <$> ConfirmVehicleService.execute rt command)) _ w
          rw [base_map]
          refine hmarks ?_ (fun _ _ => trivial) w
          exact (confirmVehicle_marksNone command).bind fun _ => trivial
      | _ =>
          exact hother (by simp [Tid.effects, Request.effects]) fun _ _ => trivial

def World.NoRefreshTokens (w : World) : Prop := w.base.refreshTokens = []

theorem carPayIn_refreshes (rt : Runtime) :
    (carPayIn rt).Meets Policy.any refreshing World.NoRefreshTokens (refreshes rt) where
  init w hw := by
    have hw : w.base.refreshTokens = [] := hw
    refine ⟨?_, fun _ => trivial⟩
    constructor <;> simp [hw, UniqueBy]
  moves w w' hi hm := by
    rcases hm with ⟨t, hg⟩ | he
    · exact TokenStep.inOrder hg hi
    · exact TokenStep.inOrder he hi
  idle_stable t := .const True
  ended_stable t r := (unexpiring_refreshes t r).stable
  stopped_stable t := .const True
  start x w t p w' _ hb _ _ := by
    refine ⟨?_, fun _ => begin_refreshing hb⟩
    show TokenStep w.base w'.base
    rw [(begin_spec hb).base]
    exact .kept (Nat.le_refl _) rfl
  crash _ _ _ := trivial
  environment x w w' he _ := by
    obtain ⟨now, outside, scanned, hnow, hb⟩ := environment_base he
    show TokenStep w.base w'.base
    rw [hb]
    exact .kept hnow rfl

/-! ## Every run -/

/-- The token under the hash is good until `ms`, and that time has come. -/
def RanOut (hash : String) (ms : Nat) (w : World) : Prop :=
  ms ≤ w.base.now ∧
    ∃ r, get? AppRefreshToken.refreshTokenHash hash w.base.refreshTokens = some r ∧ r.expiresAt = ms

theorem unexpiring_ranOut (hash : String) (ms : Nat) : Unexpiring (RanOut hash ms) := by
  rintro w w' hstep ⟨hnow, r, hr, hms⟩
  obtain ⟨r', hr', ⟨-, -, -, hexp⟩, -⟩ := hstep.find hr
  exact ⟨Nat.le_trans hnow hstep.now_le, r', hr', hexp.trans hms⟩

/-- A call on accounts, sessions and stores answers what its state says, or raises. -/
theorem ask_grounded {P : World → Prop} {Φ : Except PyError α → Prop} (op : BaseOp α)
    (h : ∀ w, P w → Φ (w.base.exec op).1) (hraise : ∀ e, Φ (.error e)) :
    (carPayIn rt).Grounded t P Φ (base (ask op)) := by
  apply Grounded.perform
  intro w m r w' hw ho
  rcases (carPayIn rt).outcome_cases ho with ⟨-, he⟩ | ⟨e, -, rfl, -⟩ | ⟨e, r₀, -, rfl, -⟩
  · obtain ⟨rfl, -⟩ := exec_base (show w.exec t (.base op) = some (r, w') from he)
    exact h w hw
  · exact hraise e
  · exact hraise e

/-- Whatever status the row shows, a token that has run out is refused. -/
theorem refreshAccessToken_grounded (refreshToken : String) (ms : Nat) :
    (carPayIn rt).Grounded t (RanOut (rt.tokenHash refreshToken) ms)
      (fun r => ∀ token, r ≠ .ok token)
      (base (RefreshAccessTokenService.execute rt refreshToken)) := by
  have hraise : ∀ (e : PyError) (token : BearerToken), Except.error e ≠ .ok token :=
    fun e token h => by cases h
  unfold RefreshAccessTokenService.execute
  split
  · exact hraise _
  simp only [Program.bind_eq, base_bind]
  apply Grounded.bind
  apply ask_grounded _ ?_ hraise
  rintro w ⟨-, row, hrow, hms⟩
  simp only [Base.exec, hrow]
  split
  · exact hraise _
  · exact hraise _
  · rw [base_bind]
    apply Grounded.bind
    apply ask_grounded _ ?_ hraise
    rintro w₁ ⟨hnow, -⟩
    simp only [Base.exec]
    rw [if_pos (hms ▸ hnow), base_bind]
    apply Grounded.bind
    apply ask_grounded _ ?_ hraise
    intro w₂ _
    split
    · exact hraise _
    · exact hraise _

/-- A refresh that is answered with a token had not begun when the thirty days were over, and the
token is one of the user and the car that the refresh token was saved for. -/
theorem refresh_answers_own_token (rt : Runtime) {c c' : Config Op PyError Reply World Tid}
    {n : Nat} {refreshToken : String} {token : BearerToken}
    (hc : (carPayIn rt).Reachable Policy.any World.NoRefreshTokens c)
    (hl : (carPayIn rt).Later Policy.any c c')
    (hidle : c.pool (.backend n (.refreshAccessToken refreshToken)) = .idle)
    (hended : c'.pool (.backend n (.refreshAccessToken refreshToken)) = .ended (.ok (.token token))) :
    NamesRow (rt.tokenHash refreshToken) token c'.state ∧
      ∀ row ∈ c.state.base.refreshTokens, row.refreshTokenHash = rt.tokenHash refreshToken →
        c.state.base.now < row.expiresAt := by
  have hM := carPayIn_refreshes rt
  constructor
  · have hA := (hM.sound (hl.reachable _ hc)).2 (.backend n (.refreshAccessToken refreshToken))
    rw [hended] at hA
    exact hA
  · intro row hrow hhash
    by_contra hle
    have hfound := ((hM.sound hc).1 : TokensInOrder c.state.base).hashes.get?_of_mem hrow
    rw [hhash] at hfound
    have hran : RanOut (rt.tokenHash refreshToken) row.expiresAt c.state :=
      ⟨Nat.le_of_not_lt hle, row, hfound, rfl⟩
    refine hM.ended (P := RanOut (rt.tokenHash refreshToken) row.expiresAt)
      (Φ := fun r => ∀ token, r ≠ .ok (.token token)) ?_ ?_ hc hl hran hidle hended token rfl
    · rintro w w' - (⟨t, hg⟩ | he)
      · exact unexpiring_ranOut _ _ w w' hg
      · exact unexpiring_ranOut _ _ w w' he
    · intro x w p w' hb
      cases x with
      | backend n request =>
          cases hb
          show Grounded _ _ _ _ (base (Reply.token <$> RefreshAccessTokenService.execute rt refreshToken))
          rw [base_map]
          refine Grounded.map ((refreshAccessToken_grounded refreshToken _).mono fun r hr token h => ?_)
          cases r with
          | ok a => exact hr a rfl
          | error e => cases h
      | pg id | card id =>
          obtain ⟨y, -, hb⟩ := Option.map_eq_some_iff.mp hb
          cases hb

/-! ## The showroom -/

namespace Showroom

open Garage

def registered : List Event := scanned ++ callback 3 "anna" "state-1" ++
  confirm 4 (confirmation "anna" "anna-car")

def refresh (n : Nat) : Tid := .backend n (.refreshAccessToken "refresh-3")

def refreshed? (c : Config Op PyError Reply World Tid) (n : Nat) : Option BearerToken :=
  match c.pool (refresh n) with
  | .ended (.ok (.token token)) => some token
  | _ => none

theorem ended_of_refreshed {c : Config Op PyError Reply World Tid} {n : Nat} {token : BearerToken}
    (h : refreshed? c n = some token) : c.pool (refresh n) = .ended (.ok (.token token)) := by
  unfold refreshed? at h
  split at h
  · rename_i hended
    cases h
    exact hended
  · cases h

end Showroom

theorem showroom_noRefreshTokens : showroom.NoRefreshTokens := rfl

/-- The token of the car is used in time. -/
theorem refresh_answers_own_token_showroom : ∃ c c' token, (carPayIn plainRuntime).Reachable
    Policy.any World.NoRefreshTokens c ∧ (carPayIn plainRuntime).Later Policy.any c c' ∧
      c'.pool (Showroom.refresh 5) = .ended (.ok (.token token)) ∧
        NamesRow "refresh-3" token c'.state ∧ ∀ row ∈ c.state.base.refreshTokens,
          row.refreshTokenHash = "refresh-3" → c.state.base.now < row.expiresAt := by
  have hrun : ((carPayIn plainRuntime).run Policy.any Showroom.registered (boot showroom)).any
      (fun c => (c.pool (Showroom.refresh 5)).isIdle &&
        ((carPayIn plainRuntime).run Policy.any (Garage.request 5 (.refreshAccessToken "refresh-3") 3)
          c).any fun c' => (Showroom.refreshed? c' 5).isSome) = true := by
    decide +kernel
  obtain ⟨c, c', hc, hidle, hl, hsome⟩ :=
    (carPayIn plainRuntime).exists_of_runs hrun showroom_noRefreshTokens
  obtain ⟨token, htoken⟩ := Option.isSome_iff_exists.mp hsome
  have hended := Showroom.ended_of_refreshed htoken
  exact ⟨c, c', token, hc, hl, hended,
    refresh_answers_own_token plainRuntime hc hl (Thread.isIdle_iff.mp hidle) hended⟩

end CarPayIn
