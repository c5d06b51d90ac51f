import CarPayIn.Login.Callbacks

/-! # A login session is used once

A session is completed by the callback that enters it first, and its login is
confirmed by the confirmation that enters it first, as long as nobody enters
next to somebody else or by what should have been marked used.
-/

namespace CarPayIn

open Process Process.System Store Service

variable {rt : Runtime} {t : Tid} {w w' : World} {s s' : Logged} {α β : Type}

/-! ## The login of a confirmation -/

abbrev confirmation (n : Nat) (command : ConfirmVehicleCommand) : Tid :=
  .backend n (.confirmVehicle command)

section
variable {n : Nat} {command : ConfirmVehicleCommand} {k : String}

theorem confirmation_free {op : BaseOp α}
    (heffect : op.effect ∉ [.qrSession, .oauthState, .oauthResult, .loginResult])
    (hentered : ∀ w, entered? (confirmation n command) (.base op) w = none)
    (hleaves : ∀ r w, leaves (confirmation n command) (.base op) r w = false)
    (hevent : loginEvent? (confirmation n command) (.base op) = none) :
    (base (ask op)).Calls (SessionFree (confirmation n command)) :=
  ⟨⟨heffect, hentered, hleaves, hevent⟩, fun _ => trivial⟩

/-- A confirmation that looks for its login enters the session or does nothing. -/
theorem findLogin_step {op : BaseOp (Option OAuthResult)} {m : Mode PyError}
    {r : Except PyError (Option OAuthResult)} (hnothing : op.effect = .nothing)
    (hdrawn : ∀ w, (Op.base op).drawn? w = none)
    (hevent : loginEvent? (confirmation n command) (.base op) = none)
    (hleaves : ∀ r w, leaves (confirmation n command) (.base op) r w = false)
    (hp : sessionPolicy.call (confirmation n command) (.base op) m s)
    (ho : (logged rt).outcome (confirmation n command) (.base op) m s = some (r, s')) :
    OnceStep (confirmation n command) s s' := by
  apply outcome_onceStep ?_ ho
  intro r₀ heff he hg
  obtain ⟨halone, -⟩ := admitted_of_policy hp heff
  have hw : s'.1 = s.1 := exec_of_nothing hnothing he
  apply OnceStep.of_exec he hg
  · intro hs
    have hstep : LoginsOnce (s'.1, s'.2) := by
      rw [hw, hg]
      cases hentered : entered? (confirmation n command) (.base op) s.1 with
      | none =>
          rw [loginHistory_same (hdrawn _) hevent (hleaves _ _) hentered]
          exact hs
      | some k =>
          rw [loginHistory_enter (hdrawn _) hevent (hleaves _ _) hentered]
          exact LoginsOnce.enter hs (alone_of_entersAlone halone hentered)
    exact hstep
  · intro e h
    rw [hevent] at h
    cases h
  · intro h
    cases hnothing.symm.trans h

/-- Whoever finds a login that has not been marked used is the first to confirm it. -/
theorem selected_of_found (hs : LoginsOnce s) (habsent : Absent (confirmation n command) s)
    (halone : ∀ t', (t', k) ∈ s.2.inside → t' = confirmation n command)
    (hcompleted : s.2.Completed k) (hunused : .used k ∉ s.2.events) :
    Selected (confirmation n command) k (s.1, s.2.enter (confirmation n command) k) := by
  constructor
  · refine ⟨.head _, fun k' hin => ?_⟩
    rcases List.mem_cons.mp hin with hnew | hold
    · cases hnew
      rfl
    · exact (habsent k' hold).elim
  · exact hcompleted
  · intro hissued
    rcases hs.issued k hissued with hused | ⟨n', command', hin⟩
    · exact hunused hused
    · have hself := halone _ hin
      rw [hself] at hin
      exact habsent k hin

def Found (n : Nat) (command : ConfirmVehicleCommand) (k : String) (login : OAuthResult)
    (s : Logged) : Prop :=
  ∀ car, ConfirmVehicleService.findCar login.cars command.carId = some car →
    Selected (confirmation n command) k s

theorem readResult_using : Using rt (confirmation n command) (Absent (confirmation n command))
    (base (read .oauthResults k)) (fun r s => ∀ found, r = .ok found →
      (∀ login, found = some login → Found n command k login s) ∧
        (found = none → Absent (confirmation n command) s)) := by
  apply Triple.perform (staying_absent _).stable
  intro s m r s' habsent hs hp ho
  refine ⟨findLogin_step rfl (fun _ => rfl) rfl (fun _ _ => rfl) hp ho, ?_⟩
  intro found hr
  subst hr
  obtain ⟨rfl, he, hg⟩ := base_recorded ho
  obtain ⟨halone, hopen⟩ := admitted_of_policy hp rfl
  obtain ⟨hr, -⟩ := exec_base he
  have hw : s'.1 = s.1 := exec_of_nothing rfl he
  have hread : (s.1.base.oauthResults.read s.1.base.now k).map (·.value) = found := Except.ok.inj hr
  constructor
  · intro login hfound car hcar
    obtain ⟨e, he, rfl⟩ := Option.map_eq_some_iff.mp (hread.trans hfound)
    have hentered : entered? (confirmation n command) (.base (.oauthResults (.get k))) s.1 = some k := by
      simp [entered?, showsCar, he, hcar]
    rw [loginHistory_enter rfl rfl rfl hentered] at hg
    have hs' : s' = (s.1, s.2.enter (confirmation n command) k) := Prod.ext hw hg
    rw [hs']
    apply selected_of_found hs habsent (alone_of_entersAlone halone hentered)
    · apply hs.stored
      rw [(Cache.read_eq_some.mp he).1]
      simp
    · simpa [findsOpen, he] using hopen
  · intro hnone
    rw [hnone] at hread
    have hmissing := Option.map_eq_none_iff.mp hread
    have hentered : entered? (confirmation n command) (.base (.oauthResults (.get k))) s.1 = none := by
      simp [entered?, showsCar, hmissing]
    rw [loginHistory_same rfl rfl rfl hentered] at hg
    rw [show s' = s from Prod.ext hw hg]
    exact habsent

theorem readLogin_using : Using rt (confirmation n command) (Absent (confirmation n command))
    (base (read .loginResults k))
    (fun r s => ∀ login, r = .ok (some login) → Found n command k login s) := by
  apply Triple.perform (staying_absent _).stable
  intro s m r s' habsent hs hp ho
  refine ⟨findLogin_step rfl (fun _ => rfl) rfl (fun _ _ => rfl) hp ho, ?_⟩
  intro login hr car hcar
  subst hr
  obtain ⟨rfl, he, hg⟩ := base_recorded ho
  obtain ⟨halone, -⟩ := admitted_of_policy hp rfl
  obtain ⟨hr, -⟩ := exec_base he
  have hw : s'.1 = s.1 := exec_of_nothing rfl he
  obtain ⟨e, hread, rfl⟩ := Option.map_eq_some_iff.mp (Except.ok.inj hr)
  have hentered : entered? (confirmation n command) (.base (.loginResults (.get k))) s.1 = some k := by
    simp [entered?, showsCar, hread, hcar]
  have hpolled : s.1.base.loginResults k ≠ none := by
    rw [(Cache.read_eq_some.mp hread).1]
    simp
  rw [loginHistory_enter rfl rfl rfl hentered] at hg
  have hs' : s' = (s.1, s.2.enter (confirmation n command) k) := Prod.ext hw hg
  rw [hs']
  apply selected_of_found hs habsent (alone_of_entersAlone halone hentered) (hs.polled k hpolled)
  exact fun hused => hpolled (hs.used k hused).2

theorem getLoginResult_using : Using rt (confirmation n command) (Absent (confirmation n command))
    (base (ConfirmVehicleService.getLoginResult k))
    (fun r s => ∀ login, r = .ok (some login) → Found n command k login s) := by
  unfold ConfirmVehicleService.getLoginResult
  simp only [Program.bind_eq, base_bind]
  apply Triple.bind (M := fun (found : Option OAuthResult) s =>
    (∀ login, found = some login → Found n command k login s) ∧
      (found = none → Absent (confirmation n command) s))
  · apply Triple.conseq readResult_using (fun _ h => h)
    intro r s hr
    cases r with
    | ok found => exact hr found rfl
    | error e => exact fun login h => by cases h
  · intro found
    cases found with
    | some login => exact .done fun s hs login' h => hs.1 login' (Except.ok.inj h)
    | none => exact Triple.conseq readLogin_using (fun s hs => hs.2 rfl) fun _ _ h => h

/-! ## The tokens of a confirmation -/

theorem LoginsOnce.leave_selected (hs : LoginsOnce (w, s.2))
    (hc : Selected (confirmation n command) k s) :
    LoginsOnce (w, s.2.leave (confirmation n command)) := by
  apply LoginsOnce.leave hs
  · exact fun n' command' k' ht => by cases ht
  · intro n' command' k' ht hin hissued
    have hk : k' = k := hc.inside.2 k' hin
    subst hk
    exact (hc.unissued hissued).elim

/-- The session record is there and is the car's. -/
def QrSession.admits (x : QrSession) (vinHash : String) : Bool :=
  x.status ≠ .expired && x.vinHash = vinHash

theorem confirmQr_using : Using rt (confirmation n command) (Selected (confirmation n command) k)
    (base (read .qrSessions k)) (fun r s => ∀ x, r = .ok (some x) →
      x.admits command.vinHash = true → Selected (confirmation n command) k s) := by
  apply Triple.perform (staying_selected _ _).stable
  intro s m r s' hc hs _ ho
  constructor
  · apply outcome_onceStep ?_ ho
    intro r₀ _ he hg
    have hw : s'.1 = s.1 := exec_of_nothing rfl he
    apply OnceStep.of_exec he hg ?_ (fun e h => by cases h) (fun h => by cases h)
    intro hs
    have hstep : LoginsOnce (s'.1, s'.2) := by
      rw [hw, hg]
      cases hleaves : leaves (confirmation n command) (.base (.qrSessions (.get k))) r₀ s.1 with
      | true =>
          rw [loginHistory_leave rfl rfl hleaves]
          exact LoginsOnce.leave_selected hs hc
      | false =>
          rw [loginHistory_same rfl rfl hleaves rfl]
          exact hs
    exact hstep
  · intro x hr hadmits
    subst hr
    obtain ⟨-, he, hg⟩ := base_recorded ho
    obtain ⟨hr, -⟩ := exec_base he
    have hw : s'.1 = s.1 := exec_of_nothing rfl he
    obtain ⟨e, hread, rfl⟩ := Option.map_eq_some_iff.mp (Except.ok.inj hr)
    have hleaves : ∀ r, leaves (confirmation n command) (.base (.qrSessions (.get k))) r s.1 =
        false := by
      intro r
      unfold QrSession.admits at hadmits
      simp only [leaves, hread, Option.any_some, hadmits, Bool.not_true]
    rw [loginHistory_same rfl rfl (hleaves _) rfl] at hg
    rw [show s' = s from Prod.ext hw hg]
    exact hc

theorem upsertVehicle_using (userId : String) (car : Car) :
    Using rt (confirmation n command) (Selected (confirmation n command) k)
      (base (ask (.upsertVehicle userId car)))
      (fun r s => ∀ u, r = .ok u → Selected (confirmation n command) k s) := by
  have hstaying := staying_selected (confirmation n command) k
  apply Triple.perform hstaying.stable
  intro s m r s' hc hs _ ho
  constructor
  · apply outcome_onceStep ?_ ho
    intro r₀ _ he hg
    have hf := World.exec_frame he
    apply OnceStep.of_exec he hg ?_ (fun e h => by cases h) (fun h => by cases h)
    intro hs
    have hsame : LoginsOnce (s'.1, s.2) := by
      apply LoginsOnce.of_same hs (Nat.le_of_eq hf.now.symm)
      · exact Nat.le_of_eq (World.exec_drawn he (by simp [Op.effect])).symm
      · exact hf.oauthStates (by simp [Op.effect])
      · exact hf.oauthResults (by simp [Op.effect])
      · exact hf.loginResults (by simp [Op.effect])
      · exact hf.qrSessions (by simp [Op.effect])
    have hstep : LoginsOnce (s'.1, s'.2) := by
      rw [hg]
      cases r₀ with
      | error e =>
          rw [loginHistory_leave rfl rfl rfl]
          exact LoginsOnce.leave_selected hsame hc
      | ok u =>
          rw [loginHistory_same rfl rfl rfl rfl]
          exact hsame
    exact hstep
  · intro u hr
    subst hr
    obtain ⟨-, he, hg⟩ := base_recorded ho
    rw [loginHistory_same rfl rfl rfl rfl] at hg
    apply hstaying.quiet s s' ?_ hc
    constructor
    · rw [hg]
    · rw [hg]
    · rw [hg]
      exact fun _ h => h
    · exact (World.exec_frame he).oauthStates (by simp [Op.effect])

theorem issueToken_using {claims : TokenClaims} (htoken : command.tempAccessToken = .signed claims)
    (userId carId : String) (ttlSeconds : Nat) :
    Using rt (confirmation n command) (Selected (confirmation n command) claims.subject)
      (base (ask (.issueToken .appAccess userId carId ttlSeconds)))
      (fun r s => ∀ a, r = .ok a → Issuing (confirmation n command) claims.subject s) := by
  apply Triple.perform (staying_selected _ _).stable
  intro s m r s' hc _ _ ho
  have hevent : loginEvent? (confirmation n command)
      (.base (.issueToken .appAccess userId carId ttlSeconds)) = some (.issued claims.subject) := by
    simp [loginEvent?, Tid.confirmation?, htoken, BearerToken.subject?]
  constructor
  · apply outcome_onceStep ?_ ho
    intro r₀ _ he hg
    obtain ⟨-, hw⟩ := exec_base he
    apply OnceStep.of_exec he hg
    · intro hs
      have hsame : LoginsOnce (s'.1, s.2) := by
        rw [hw]
        exact LoginsOnce.of_same hs (Nat.le_refl _) (Nat.le_refl _) rfl rfl rfl rfl
      have hstep : LoginsOnce (s'.1, s'.2) := by
        rw [hg, loginHistory_record rfl hevent rfl rfl]
        apply LoginsOnce.record hsame
        · intro e hmem hrepeats
          cases e with
          | issued k' =>
              obtain rfl : claims.subject = k' := hrepeats
              exact hc.unissued hmem
          | completed k' state' => exact hrepeats
          | failed k' => exact hrepeats
          | used k' => exact hrepeats
        · exact fun k' state' h => by cases h
        · exact fun k' x h => by cases h
        · exact fun k' h => by cases h
        · intro k' h
          cases h
          exact ⟨n, command, hc.inside.1⟩
      exact hstep
    · intro e h
      cases hevent.symm.trans h
      exact hc.inside.1
    · exact fun h => by cases h
  · intro a hr
    subst hr
    obtain ⟨-, he, hg⟩ := base_recorded ho
    rw [loginHistory_record rfl hevent rfl rfl] at hg
    have hs' : s' = (s'.1, s.2.record (.issued claims.subject)) := Prod.ext rfl hg
    rw [hs']
    exact ⟨hc.inside, hc.completed.later⟩

theorem deleteLogin_using : Using rt (confirmation n command) (Issuing (confirmation n command) k)
    (base (delete .loginResults k)) (fun _ _ => True) := by
  apply Triple.perform (staying_issuing _ _).stable
  intro s m r s' hc _ _ ho
  refine ⟨outcome_onceStep ?_ ho, trivial⟩
  intro r₀ _ he hg
  obtain ⟨-, hw⟩ := exec_base he
  apply OnceStep.of_exec he hg
  · intro hs
    have hstep : LoginsOnce (s'.1, s'.2) := by
      rw [hw, hg, loginHistory_finish rfl rfl rfl]
      apply LoginsOnce.leave
      · apply LoginsOnce.record
        · exact LoginsOnce.poll (x := none) hs hc.completed fun h => (h rfl).elim
        · exact fun e _ h => h
        · exact fun k' state' h => by cases h
        · exact fun k' x h => by cases h
        · intro k' h
          cases h
          exact ⟨hc.completed, Function.update_self ..⟩
        · exact fun k' h => by cases h
      · exact fun n' command' k' ht => by cases ht
      · intro n' command' k' ht hin _
        have hk : k' = k := hc.inside.2 k' hin
        subst hk
        exact .head _
    exact hstep
  · intro e h
    cases h
    exact hc.inside.1
  · exact fun h => by cases h

theorem bindVehicle_using {claims : TokenClaims} (htoken : command.tempAccessToken = .signed claims)
    (userId name carId : String) (car : Car) :
    Using rt (confirmation n command) (Selected (confirmation n command) claims.subject)
      (base (ConfirmVehicleService.bindVehicle rt claims.subject userId name carId car))
      (fun _ _ => True) := by
  have hissuing := staying_issuing (confirmation n command) claims.subject
  unfold ConfirmVehicleService.bindVehicle BaseService.randomText
  simp only [Program.bind_eq, base_bind]
  apply Triple.bind (M := fun _ => Selected (confirmation n command) claims.subject)
  · apply Triple.conseq (upsertVehicle_using userId car) (fun _ h => h)
    intro r s hr
    cases r with
    | ok u => exact hr u rfl
    | error e => trivial
  intro _
  apply Triple.bind (M := fun _ => Issuing (confirmation n command) claims.subject)
  · apply Triple.conseq (issueToken_using htoken userId carId _) (fun _ h => h)
    intro r s hr
    cases r with
    | ok a => exact hr a rfl
    | error e => trivial
  intro accessToken
  apply Triple.seq ?_ (fun _ _ _ => trivial)
  · intro refreshToken
    apply Triple.seq ?_ (fun _ _ _ => trivial)
    · intro _
      apply Triple.bind (M := fun _ _ => True)
      · apply Triple.conseq deleteLogin_using (fun _ h => h)
        intro r s _
        cases r <;> trivial
      · exact fun _ => .done fun _ _ => trivial
    · apply sessionFree_program ?_ hissuing
      exact confirmation_free (by simp) (fun _ => rfl) (fun _ _ => rfl) rfl
  · apply sessionFree_program ?_ hissuing
    apply Program.Calls.bind
    · exact confirmation_free (by simp) (fun _ => rfl) (fun _ _ => rfl) rfl
    · exact fun drawn => trivial

theorem confirmVehicle_using : Using rt (confirmation n command) (Absent (confirmation n command))
    (base (ConfirmVehicleService.execute rt command)) (fun _ _ => True) := by
  unfold ConfirmVehicleService.execute
  split
  · exact .done fun _ _ => trivial
  split
  · exact .done fun _ _ => trivial
  split
  · exact .done fun _ _ => trivial
  simp only [Program.bind_eq, base_bind]
  apply Triple.bind (M := fun (claims : TokenClaims) s =>
    command.tempAccessToken = .signed claims ∧ Absent (confirmation n command) s)
  · apply Triple.perform (staying_absent _).stable
    intro s m r s' habsent _ _ ho
    have hfree : SessionFree (confirmation n command) (.base (.validateToken command.tempAccessToken
        .tempAccess "temp_token_expired")) :=
      ⟨by simp [Op.effect], fun _ => rfl, fun _ _ => rfl, rfl⟩
    obtain ⟨hstep, hsame⟩ := sessionFree_step hfree ho
    refine ⟨hstep, ?_⟩
    cases r with
    | error e => trivial
    | ok claims =>
        obtain ⟨-, he, -⟩ := base_recorded ho
        exact ⟨Base.validateToken_ok (exec_base he).1, (staying_absent _).quiet s s' hsame habsent⟩
  intro claims s hs
  obtain ⟨htoken, habsent⟩ := hs
  revert s
  show Using rt _ (Absent (confirmation n command)) _ _
  apply Triple.bind (M := fun (found : Option OAuthResult) s =>
    ∀ login, found = some login → Found n command claims.subject login s)
  · apply Triple.conseq getLoginResult_using (fun _ h => h)
    intro r s hr
    cases r with
    | ok found => exact fun login hfound => hr login (by rw [hfound])
    | error e => trivial
  intro found
  cases found with
  | none => exact .done fun _ _ => trivial
  | some login =>
      dsimp only
      cases hcar : ConfirmVehicleService.findCar login.cars command.carId with
      | none => exact .done fun _ _ => trivial
      | some car =>
          apply Triple.conseq ?_ (fun s hs => hs login rfl car hcar) (fun _ _ h => h)
          dsimp only
          rw [base_bind]
          apply Triple.bind (M := fun (found : Option QrSession) s => ∀ x, found = some x →
            x.admits command.vinHash = true → Selected (confirmation n command) claims.subject s)
          · apply Triple.conseq confirmQr_using (fun _ h => h)
            intro r s hr
            cases r with
            | ok found => exact fun x hfound => hr x (by rw [hfound])
            | error e => trivial
          intro found
          cases found with
          | none => exact .done fun _ _ => trivial
          | some x =>
              dsimp only
              split
              · exact .done fun _ _ => trivial
              split
              · exact .done fun _ _ => trivial
              rename_i hexpired hvin
              have hadmits : x.admits command.vinHash = true := by
                simp only [ne_eq, not_not] at hvin
                simp [QrSession.admits, hexpired, hvin]
              exact Triple.conseq (bindVehicle_using htoken _ _ _ car)
                (fun s hs => hs x rfl hadmits) fun _ _ h => h

end

/-! ## Everybody else -/

/-- The execution is neither a callback nor a confirmation. -/
def Tid.aloof : Tid → Bool
  | .backend _ (.hyundaiOAuthCallback _) | .backend _ (.confirmVehicle _) => false
  | _ => true

/-- Whoever touches no store of logins does nothing to a session. -/
theorem sessionFree_of_aloof (ht : t.aloof = true) {op : Op α}
    (heffect : op.effect ∉ [.qrSession, .oauthState, .oauthResult, .loginResult]) :
    SessionFree t op where
  effect := heffect
  entered w := by
    unfold entered?
    split
    · simp [Tid.aloof] at ht
    · simp [Tid.aloof] at ht
    · simp [Tid.aloof] at ht
    · rfl
  leaves r w := by
    unfold leaves
    split
    · simp [Tid.aloof] at ht
    · simp [Tid.aloof] at ht
    · simp [Tid.aloof] at ht
    · simp [Tid.aloof] at ht
    · simp [Tid.aloof] at ht
    · simp [Tid.aloof] at ht
    · simp [Tid.aloof] at ht
    · rfl
  event := by
    have hcallback : t.callback? = none := by
      unfold Tid.callback?
      split
      · simp [Tid.aloof] at ht
      · rfl
    have hconfirmation : t.confirmation? = none := by
      unfold Tid.confirmation?
      split
      · simp [Tid.aloof] at ht
      · rfl
    unfold loginEvent?
    split
    · rw [hcallback]
      rfl
    · simp [Op.effect] at heffect
    · simp [hconfirmation]
    · rw [hconfirmation]
      rfl
    · rfl

theorem aloof_program (ht : t.aloof = true) {es : List Effect} {p : Service α} {P : Logged → Prop}
    (hp : ServiceEffects es p) (he : ∀ e ∈ Effect.nothing :: es,
      e ∉ [Effect.qrSession, .oauthState, .oauthResult, .loginResult]) (hP : Staying t P) :
    Using rt t P p (fun _ => P) := by
  apply sessionFree_program ?_ hP
  apply Program.Calls.mono hp
  exact fun op hop => sessionFree_of_aloof ht (he _ hop)

/-- A session that has failed is not opened again. -/
theorem createQrSession_using (n : Nat) (command : CreateQrSessionCommand) :
    Using rt (.backend n (.createQrSession command)) (fun _ => True)
      (base (CreateQrSessionService.execute rt command)) (fun _ _ => True) := by
  unfold CreateQrSessionService.execute
  split
  · exact .done fun _ h => h
  split
  · exact .done fun _ h => h
  simp only [Program.bind_eq, base_bind]
  apply Triple.seq ?_ (fun _ _ h => h)
  · exact fun _ => .done fun _ h => h
  · apply Triple.perform (.const True)
    intro s m r s' _ _ hp ho
    refine ⟨outcome_onceStep ?_ ho, trivial⟩
    intro r₀ heff he hg
    obtain ⟨-, hopen⟩ := admitted_of_policy hp heff
    obtain ⟨-, hw⟩ := exec_base he
    apply OnceStep.of_exec he hg ?_ (fun e h => by simp [loginEvent?] at h) (fun h => by cases h)
    intro hs
    have hstep : LoginsOnce (s'.1, s'.2) := by
      rw [hw, hg, loginHistory_same rfl rfl rfl rfl]
      apply LoginsOnce.qrSession hs
      intro hfailed
      simp [findsOpen, hfailed] at hopen
    exact hstep

theorem draw_using (n : Nat) (sessionId : String) :
    Using rt (.backend n (.startHyundaiOAuth sessionId)) (fun _ => True) (base (ask .draw))
      (fun r s => ∀ m, r = .ok m → Drew (.backend n (.startHyundaiOAuth sessionId)) m s) := by
  apply Triple.perform (.const True)
  intro s m r s' _ hs _ ho
  have hfree : SessionFree (.backend n (.startHyundaiOAuth sessionId)) (.base .draw) :=
    sessionFree_of_aloof rfl (by simp [Op.effect])
  obtain ⟨hstep, hsame⟩ := sessionFree_step hfree ho
  refine ⟨hstep, ?_⟩
  intro number hr
  subst hr
  obtain ⟨-, he, hg⟩ := base_recorded ho
  obtain ⟨hr, -⟩ := exec_base he
  obtain rfl : s.1.base.drawn = number := Except.ok.inj hr
  constructor
  · rw [hg]
    exact .head _
  · rw [hsame.states]
    by_contra hsaved
    exact absurd (hs.fresh _ hsaved) (Nat.lt_irrefl _)

theorem saveState_using (n m : Nat) (sessionId : String) (x : OAuthState) (ttlSeconds : Nat) :
    Using rt (.backend n (.startHyundaiOAuth sessionId))
      (Drew (.backend n (.startHyundaiOAuth sessionId)) m)
      (base (save .oauthStates (stateText m) x ttlSeconds)) (fun _ _ => True) := by
  apply Triple.perform (staying_drew _ _).stable
  intro s mode r s' hdrew _ _ ho
  refine ⟨outcome_onceStep ?_ ho, trivial⟩
  intro r₀ _ he hg
  obtain ⟨-, hw⟩ := exec_base he
  apply OnceStep.of_exec he hg
  · intro hs
    have hstep : LoginsOnce (s'.1, s'.2) := by
      rw [hw, hg, loginHistory_same rfl rfl rfl rfl]
      apply LoginsOnce.saveState hs
      · intro n' htext
        rw [stateText_injective htext]
        exact hs.drawn _ _ hdrew.drawn
      · exact fun hsaved => (hsaved hdrew.unsaved).elim
    exact hstep
  · exact fun e h => by cases h
  · exact fun _ => ⟨stateText m, _, by rw [hw]; rfl, .inr ⟨m, hdrew.drawn, rfl⟩⟩

theorem startHyundaiOAuth_using (n : Nat) (sessionId : String) :
    Using rt (.backend n (.startHyundaiOAuth sessionId)) (fun _ => True)
      (base (StartHyundaiOAuthService.execute rt sessionId)) (fun _ _ => True) := by
  unfold StartHyundaiOAuthService.execute BaseService.randomText
  split
  · exact .done fun _ h => h
  simp only [Program.bind_eq, base_bind]
  have hread : ServiceEffects [] (base (read .qrSessions sessionId)) :=
    base_effects (ask_effects (by simp))
  apply Triple.seq (aloof_program rfl hread (by decide) (staying_true _)) (fun _ _ h => h)
  intro found
  cases found with
  | none => exact .done fun _ h => h
  | some qrSession =>
      dsimp only
      split
      · exact .done fun _ h => h
      · exact .done fun _ h => h
      simp only [base_bind]
      apply Triple.bind (M := fun text s => ∃ m, text = stateText m ∧
        Drew (.backend n (.startHyundaiOAuth sessionId)) m s)
      · apply Triple.bind (M := Drew (.backend n (.startHyundaiOAuth sessionId)))
        · apply Triple.conseq (draw_using n sessionId) (fun _ h => h)
          intro r s hr
          cases r with
          | ok m => exact hr m rfl
          | error e => trivial
        · exact fun m => .done fun s hs => ⟨m, rfl, hs⟩
      · intro text
        apply Triple.exists
        intro m s ⟨htext, hs⟩
        subst htext
        revert s
        show Using rt _ (Drew (.backend n (.startHyundaiOAuth sessionId)) m) _ _
        apply Triple.bind (M := fun _ _ => True)
        · apply Triple.conseq (saveState_using n m sessionId _ _) (fun _ h => h)
          intro r s _
          cases r <;> trivial
        · exact fun _ => .done fun _ h => h

/-! ## Runs -/

/-- No login has been started, and nothing has happened. -/
def Unstarted (s : Logged) : Prop :=
  (∀ k, s.1.base.oauthStates k = none) ∧ (∀ k, s.1.base.oauthResults k = none) ∧
    (∀ k, s.1.base.loginResults k = none) ∧ s.2 = .empty

/-- An execution that has not started is inside no session. -/
def visitors : Outline PyError Reply Logged Tid where
  idle t s := Absent t s
  ended _ _ _ := True
  stopped _ _ := True

theorem mapped_using {P : Logged → Prop} {p : BaseService α} {f : α → Reply}
    (hp : Using rt t P (base p) (fun _ _ => True)) :
    Using rt t P (base (f <$> p)) (fun _ _ => True) := by
  rw [base_map]
  exact Triple.map hp

theorem program_using (n : Nat) (request : Request) : Using rt (.backend n request)
    (Absent (.backend n request)) (program rt request) (fun _ _ => True) := by
  have hall {p : Service Reply} (hp : Using rt (.backend n request) (fun _ => True) p fun _ _ => True) :
      Using rt (.backend n request) (Absent (.backend n request)) p fun _ _ => True :=
    hp.conseq (fun _ _ => trivial) fun _ _ h => h
  cases request with
  | createQrSession c => exact hall (mapped_using (createQrSession_using n c))
  | startHyundaiOAuth x => exact hall (mapped_using (startHyundaiOAuth_using n x))
  | hyundaiOAuthCallback c => exact mapped_using hyundaiOAuthCallback_using
  | confirmVehicle c => exact mapped_using confirmVehicle_using
  | _ =>
      apply hall
      exact aloof_program rfl (program_effects rt _) (by simp [Request.effects]) (staying_true _)

theorem served_using (ht : t.aloof = true) {p : Service α} (hp : p.Calls Serves) (f : α → Reply) :
    Using rt t (Absent t) (f <$> p) (fun _ _ => True) := by
  have heffects : ServiceEffects [] p := effects_of_serves hp
  apply Triple.map
  exact Triple.conseq (aloof_program ht heffects (by decide) (staying_absent t)) (fun _ h => h)
    fun _ _ _ => trivial

theorem begin_using {x : Start} {p : Service Reply} (h : (logged rt).begin x s = some (t, p, s')) :
    s'.1.base = s.1.base ∧ s'.2 = s.2 ∧ Using rt t (Absent t) p (fun _ _ => True) := by
  obtain ⟨⟨t', p', w'⟩, hb, h⟩ := Option.map_eq_some_iff.mp h
  cases h
  refine ⟨(begin_spec hb).base, rfl, ?_⟩
  cases x with
  | backend n request =>
      cases hb
      exact program_using n request
  | pg id =>
      obtain ⟨y, -, hb⟩ := Option.map_eq_some_iff.mp hb
      cases hb
      exact served_using rfl (servePg_serves id y.1) _
  | card id =>
      obtain ⟨y, -, hb⟩ := Option.map_eq_some_iff.mp hb
      cases hb
      exact served_using rfl (serveCard_serves id y.1) _

theorem OnceStep.of_drift (hg : s'.2 = s.2) (hnow : s.1.base.now ≤ s'.1.base.now)
    (hdrawn : s'.1.base.drawn = s.1.base.drawn)
    (hstates : s'.1.base.oauthStates = s.1.base.oauthStates)
    (hresults : s'.1.base.oauthResults = s.1.base.oauthResults)
    (hlogins : s'.1.base.loginResults = s.1.base.loginResults)
    (hqr : s'.1.base.qrSessions = s.1.base.qrSessions) : OnceStep t s s' := by
  constructor
  · intro hs
    have hstep : LoginsOnce (s'.1, s'.2) := by
      rw [hg]
      exact LoginsOnce.of_same hs hnow (Nat.le_of_eq hdrawn.symm) hstates hresults hlogins hqr
    exact hstep
  · intro t' k _
    rw [hg]
  · rw [hg]
    exact fun _ h => h
  · rw [hg]
    exact fun _ h => h
  · rw [hg]
    exact fun e h => .inl h
  · rw [hstates]
    exact fun _ h => h
  · rw [hstates]
    exact fun _ h => .inl h

theorem environment_onceStep {x : Env} (h : (logged rt).environment x s = some s') :
    OnceStep t s s' := by
  obtain ⟨w', he, rfl⟩ := Option.map_eq_some_iff.mp h
  obtain ⟨now, outside, scanned, hnow, hb⟩ := environment_base he
  have hsame : (w', s.2).2 = s.2 := rfl
  apply OnceStep.of_drift hsame
  · simpa [hb] using hnow
  all_goals simp [hb]

theorem carPayIn_sessions (rt : Runtime) :
    (logged rt).Meets sessionPolicy singleUse Unstarted visitors where
  init s hs := by
    obtain ⟨hstates, hresults, hlogins, hnone⟩ := hs
    constructor
    · constructor
      all_goals simp [hstates, hresults, hlogins, hnone, LoginHistory.empty, LoginHistory.Once]
    · intro t k hin
      simp [hnone, LoginHistory.empty] at hin
  moves s s' hi hm := by
    rcases hm with ⟨t, hg⟩ | he
    · exact hg.backed hi
    · exact (he (.pg 0)).backed hi
  idle_stable t := (staying_absent t).stable
  ended_stable _ _ := .const True
  stopped_stable _ := .const True
  start x s t p s' _ hb _ habsent := by
    obtain ⟨hbase, hg, hp⟩ := begin_using hb
    constructor
    · intro t'
      apply OnceStep.of_drift hg
      all_goals simp [hbase]
    · intro _
      apply hp s'
      intro k hin
      rw [hg] at hin
      exact habsent k hin
  crash _ _ _ := trivial
  environment _ _ _ he _ := fun _ => environment_onceStep he

/-- A session is completed at most once, not after it has failed, and tokens are
issued from it at most once, as long as one execution at a time is inside it. -/
theorem session_used_once (rt : Runtime) {c : Config Op PyError Reply Logged Tid}
    (hc : (logged rt).Reachable sessionPolicy Unstarted c) : c.state.2.Once :=
  ((carPayIn_sessions rt).sound hc).1.once

/-! ## A showroom with one login -/

theorem showroom_unstarted : Unstarted (showroom, .empty) :=
  ⟨fun _ => rfl, fun _ => rfl, fun _ => rfl, rfl⟩

namespace Showroom

def login : List Garage.Event :=
  scanned ++ callback 3 "anna" "state-1" ++ confirm 4 (confirmation "anna" "anna-car")

end Showroom

theorem session_used_once_showroom : ∃ c,
    (logged plainRuntime).Reachable sessionPolicy Unstarted c ∧
      c.state.2.events = [.used "login-1", .issued "login-1", .completed "login-1" "state-1"] ∧
        c.state.2.Once := by
  have hrun : ((logged plainRuntime).run sessionPolicy Showroom.login
      (boot (showroom, .empty))).any (fun c => c.state.2.events =
        [.used "login-1", .issued "login-1", .completed "login-1" "state-1"]) = true := by
    decide +kernel
  obtain ⟨c, hc, hevents⟩ := (logged plainRuntime).exists_of_run hrun showroom_unstarted
  exact ⟨c, hc, of_decide_eq_true hevents, session_used_once plainRuntime hc⟩

/-- The app confirms the car again and is given tokens again. -/
theorem session_used_twice : ¬∀ rt c, (logged rt).Reachable Policy.any Unstarted c →
    c.state.2.Once := by
  intro h
  have hrun : ((logged plainRuntime).run Policy.any (Showroom.login ++
      Showroom.confirm 5 (Showroom.confirmation "anna" "anna-car")) (boot (showroom, .empty))).any
        (fun c => !decide c.state.2.Once) = true := by
    decide +kernel
  obtain ⟨c, hc, htwice⟩ := (logged plainRuntime).exists_of_run hrun showroom_unstarted
  have honce := h plainRuntime c hc
  simp [honce] at htwice

end CarPayIn
