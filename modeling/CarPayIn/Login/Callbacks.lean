import CarPayIn.Login.Sessions

/-! # The stay of a callback in its session

A callback enters its session when it finds its state pending, completes or
fails it, and leaves by marking the state used or the session failed.
-/

namespace CarPayIn

open Process Process.System Store Service

variable {rt : Runtime} {t : Tid} {w w' : World} {s s' : Logged} {α β : Type}

/-! ## Single calls -/

theorem admitted_of_policy {op : Op α} {m : Mode PyError} (hp : sessionPolicy.call t op m s)
    (heff : m.effective = true) : entersAlone t op s = true ∧ findsOpen t op s = true := by
  have hcall : (!m.effective || entersAlone t op s && findsOpen t op s) = true := hp
  simpa [heff] using hcall

theorem alone_of_entersAlone {op : Op α} {k : String} (h : entersAlone t op s = true)
    (hk : entered? t op s.1 = some k) : ∀ t', (t', k) ∈ s.2.inside → t' = t := by
  intro t' hin
  unfold entersAlone at h
  rw [hk] at h
  have hx := List.all_eq_true.mp h _ hin
  simpa using hx

/-- A call that takes effect as the lemma about it says, or not at all. -/
theorem outcome_onceStep {op : Op α} {m : Mode PyError} {r : Except PyError α}
    (hexec : ∀ r₀, m.effective = true → s.1.exec t op = some (r₀, s'.1) →
      s'.2 = loginHistory t op r₀ s.1 s.2 → OnceStep t s s')
    (ho : (logged rt).outcome t op m s = some (r, s')) : OnceStep t s s' := by
  rcases history_cases ho with ⟨rfl, he, hg⟩ | ⟨e, -, -, hw, hg⟩ | ⟨e, r₀, rfl, -, he, hg⟩
  · exact hexec r rfl he hg
  · have hs : s' = s := Prod.ext hw hg
    rw [hs]
    exact .refl t s
  · exact hexec r₀ rfl he hg

theorem exec_of_nothing {op : BaseOp α} {r : Except PyError α} (heffect : op.effect = .nothing)
    (he : w.exec t (.base op) = some (r, w')) : w' = w := by
  obtain ⟨-, hw⟩ := exec_base he
  rw [hw, Base.exec_of_nothing heffect]

/-! ## The state of a callback -/

abbrev callback (n : Nat) (command : HandleHyundaiOAuthCallbackCommand) : Tid :=
  .backend n (.hyundaiOAuthCallback command)

section
variable {n : Nat} {command : HandleHyundaiOAuthCallbackCommand} {k state : String}

theorem entered_of_pending {e : Entry OAuthState}
    (hread : w.base.oauthStates.read w.base.now state = some e)
    (hpending : e.value.status = .pending) :
    entered? (callback n command) (.base (.oauthStates (.get state))) w = some e.value.sessionId := by
  simp [entered?, hread, hpending]

theorem leaves_of_pending {e : Entry OAuthState} {r : Except PyError (Option OAuthState)}
    (hread : w.base.oauthStates.read w.base.now state = some e)
    (hpending : e.value.status = .pending) :
    leaves (callback n command) (.base (.oauthStates (.get state))) r w = false := by
  simp [leaves, hread, hpending]

theorem leaves_of_closed {r : Except PyError (Option OAuthState)} (h : w.Closed state) :
    leaves (callback n command) (.base (.oauthStates (.get state))) r w = true := by
  unfold World.Closed at h
  cases hread : w.base.oauthStates.read w.base.now state with
  | none => simp [leaves, hread]
  | some e => simp [leaves, hread, h e hread]

/-- A state is found pending, or it is closed. -/
theorem World.closed_or (w : World) (state : String) : w.Closed state ∨
    ∃ e, w.base.oauthStates.read w.base.now state = some e ∧ e.value.status = .pending := by
  by_cases hclosed : w.Closed state
  · exact .inl hclosed
  · right
    simpa only [World.Closed, not_forall, not_not, exists_prop] using hclosed

theorem readState_step {m : Mode PyError} {r : Except PyError (Option OAuthState)}
    (hp : sessionPolicy.call (callback n command) (.base (.oauthStates (.get command.state))) m s)
    (ho : (logged rt).outcome (callback n command) (.base (.oauthStates (.get command.state))) m s =
      some (r, s')) : OnceStep (callback n command) s s' := by
  apply outcome_onceStep ?_ ho
  intro r₀ heff he hg
  obtain ⟨halone, -⟩ := admitted_of_policy hp heff
  have hw : s'.1 = s.1 := exec_of_nothing rfl he
  apply OnceStep.of_exec he hg ?_ (fun e h => by cases h) (fun h => by cases h)
  intro hs
  have hstep : LoginsOnce (s'.1, s'.2) := by
    rw [hw, hg]
    rcases s.1.closed_or command.state with hclosed | ⟨e, hread, hpending⟩
    · rw [loginHistory_leave rfl rfl (leaves_of_closed hclosed)]
      apply LoginsOnce.leave hs
      · intro n' command' k' ht _ _
        cases ht
        exact hclosed
      · exact fun n' command' k' ht => by cases ht
    · have hentered : entered? (callback n command) (.base (.oauthStates (.get command.state)))
          s.1 = some e.value.sessionId := entered_of_pending hread hpending
      rw [loginHistory_enter rfl rfl (leaves_of_pending hread hpending) hentered]
      exact LoginsOnce.enter hs (alone_of_entersAlone halone hentered)
  exact hstep

theorem checked_of_pending {e : Entry OAuthState} (hs : LoginsOnce s)
    (habsent : Absent (callback n command) s)
    (hread : s.1.base.oauthStates.read s.1.base.now command.state = some e)
    (hpending : e.value.status = .pending)
    (halone : ∀ t', (t', e.value.sessionId) ∈ s.2.inside → t' = callback n command)
    (hopen : findsOpen (callback n command) (.base (.oauthStates (.get command.state))) s = true) :
    Checked (callback n command) command.state e.value.sessionId
      (s.1, s.2.enter (callback n command) e.value.sessionId) := by
  constructor
  · refine ⟨.head _, fun k' hin => ?_⟩
    rcases List.mem_cons.mp hin with hnew | hold
    · cases hnew
      rfl
    · exact (habsent k' hold).elim
  · rw [(Cache.read_eq_some.mp hread).1]
    simp
  · rintro ⟨state', hevent⟩
    have hsame : state' = command.state := by
      unfold findsOpen at hopen
      simp only [entered_of_pending hread hpending, Option.all_some] at hopen
      have hbesides := List.all_eq_true.mp hopen _ hevent
      simpa [LoginEvent.completedBesides] using hbesides
    subst hsame
    rcases hs.closed _ _ hevent with hclosed | ⟨n', command', -, hin⟩
    · exact hclosed e hread hpending
    · have hself := halone _ hin
      rw [hself] at hin
      exact habsent _ hin

theorem getSessionId_using : Using rt (callback n command) (Absent (callback n command))
    (base (HandleHyundaiOAuthCallbackService.getSessionId command.state))
    (fun r s => ∀ k, r = .ok (some k) → Checked (callback n command) command.state k s) := by
  unfold HandleHyundaiOAuthCallbackService.getSessionId
  simp only [Program.bind_eq, base_bind]
  apply Triple.bind (M := fun (found : Option OAuthState) s => ∀ x, found = some x →
    x.status = .pending → Checked (callback n command) command.state x.sessionId s)
  · apply Triple.perform (staying_absent _).stable
    intro s m r s' habsent hs hp ho
    refine ⟨readState_step hp ho, ?_⟩
    cases r with
    | error e => exact fun k h => by cases h
    | ok found =>
        intro x hfound hpending
        subst hfound
        obtain ⟨rfl, he, hg⟩ := base_recorded ho
        obtain ⟨halone, hopen⟩ := admitted_of_policy hp rfl
        obtain ⟨hr, -⟩ := exec_base he
        have hw : s'.1 = s.1 := exec_of_nothing rfl he
        obtain ⟨e, hread, rfl⟩ := Option.map_eq_some_iff.mp (Except.ok.inj hr)
        have hentered : entered? (callback n command) (.base (.oauthStates (.get command.state)))
            s.1 = some e.value.sessionId := entered_of_pending hread hpending
        rw [loginHistory_enter rfl rfl (leaves_of_pending hread hpending) hentered] at hg
        have hs' : s' = (s.1, s.2.enter (callback n command) e.value.sessionId) := Prod.ext hw hg
        rw [hs']
        exact checked_of_pending hs habsent hread hpending
          (alone_of_entersAlone halone hentered) hopen
  · intro found
    cases found with
    | none => exact .done fun s _ k h => by cases h
    | some x =>
        apply Triple.done
        intro s hs k hk
        by_cases hpending : x.status = .pending
        · rw [if_pos hpending] at hk
          cases hk
          exact hs x rfl hpending
        · rw [if_neg hpending] at hk
          cases hk

/-! ## The session of a callback -/

/-- A callback that has stored no login leaves nothing behind. -/
theorem LoginsOnce.leave_checked (hs : LoginsOnce s)
    (hc : Checked (callback n command) command.state k s) :
    LoginsOnce (s.1, s.2.leave (callback n command)) := by
  apply LoginsOnce.leave hs
  · intro n' command' k' ht hin hevent
    cases ht
    have hk : k' = k := hc.inside.2 k' hin
    subst hk
    exact (hc.uncompleted ⟨_, hevent⟩).elim
  · exact fun n' command' k' ht => by cases ht

/-- A callback finds the record of its session, or leaves. -/
theorem readQr_step {m : Mode PyError} {r : Except PyError (Option QrSession)}
    (hc : Checked (callback n command) command.state k s)
    (ho : (logged rt).outcome (callback n command) (.base (.qrSessions (.get k))) m s =
      some (r, s')) : OnceStep (callback n command) s s' := by
  apply outcome_onceStep ?_ ho
  intro r₀ _ he hg
  have hw : s'.1 = s.1 := exec_of_nothing rfl he
  apply OnceStep.of_exec he hg ?_ (fun e h => by cases h) (fun h => by cases h)
  intro hs
  have hstep : LoginsOnce (s'.1, s'.2) := by
    rw [hw, hg]
    cases hread : s.1.base.qrSessions.read s.1.base.now k with
    | none =>
        rw [loginHistory_leave rfl rfl (by simp [leaves, hread])]
        exact hs.leave_checked hc
    | some e =>
        rw [loginHistory_same rfl rfl (by simp [leaves, hread]) rfl]
        exact hs
  exact hstep

theorem readQr_using : Using rt (callback n command) (Checked (callback n command) command.state k)
    (base (read .qrSessions k))
    (fun r s => ∀ x, r = .ok (some x) → Pending (callback n command) command.state k s) := by
  apply Triple.perform (staying_checked _ _ _).stable
  intro s m r s' hc hs hp ho
  refine ⟨readQr_step hc ho, ?_⟩
  intro x hr
  subst hr
  obtain ⟨rfl, he, hg⟩ := base_recorded ho
  obtain ⟨-, hopen⟩ := admitted_of_policy hp rfl
  obtain ⟨hr, -⟩ := exec_base he
  have hw : s'.1 = s.1 := exec_of_nothing rfl he
  obtain ⟨e, hread, -⟩ := Option.map_eq_some_iff.mp (Except.ok.inj hr)
  rw [loginHistory_same rfl rfl (by simp [leaves, hread]) rfl] at hg
  have hs' : s' = s := Prod.ext hw hg
  rw [hs']
  refine ⟨hc, fun hfailed => ?_⟩
  have hstatus := hs.failed k e hfailed (Cache.read_eq_some.mp hread).1
  simp [findsOpen, hread, hstatus] at hopen

/-- A call of a callback that concerns no session. -/
theorem callback_free {op : BaseOp α}
    (heffect : op.effect ∉ [.qrSession, .oauthState, .oauthResult, .loginResult])
    (hentered : ∀ w, entered? (callback n command) (.base op) w = none)
    (hleaves : ∀ r w, leaves (callback n command) (.base op) r w = false)
    (hevent : loginEvent? (callback n command) (.base op) = none) :
    (base (ask op)).Calls (SessionFree (callback n command)) :=
  ⟨⟨heffect, hentered, hleaves, hevent⟩, fun _ => trivial⟩

theorem fail_step {x : QrSession} {ex : Option Nat} {m : Mode PyError} {r : Except PyError Unit}
    (hx : x.status = .failed) (hc : Checked (callback n command) command.state k s)
    (ho : (logged rt).outcome (callback n command) (.base (.qrSessions (.set k x ex))) m s =
      some (r, s')) : OnceStep (callback n command) s s' := by
  apply outcome_onceStep ?_ ho
  intro r₀ _ he hg
  obtain ⟨-, hw⟩ := exec_base he
  have hevent : loginEvent? (callback n command) (.base (.qrSessions (.set k x ex))) =
      some (.failed k) := by simp [loginEvent?, hx]
  apply OnceStep.of_exec he hg
  · intro hs
    have hstep : LoginsOnce (s'.1, s'.2) := by
      rw [hw, hg, loginHistory_finish rfl hevent (by simp [leaves, hx])]
      apply LoginsOnce.leave
      · apply LoginsOnce.record
        · exact LoginsOnce.qrSession (x := ⟨x, _⟩) hs fun _ => hx
        · exact fun e' _ h => h
        · exact fun k' state' h => by cases h
        · intro k' y h hy
          cases h
          rcases Cache.update_eq_some hy with ⟨-, rfl⟩ | ⟨hne, -⟩
          · exact hx
          · exact (hne rfl).elim
        · exact fun k' h => by cases h
        · exact fun k' h => by cases h
      · intro n' command' k' ht hin hmem
        cases ht
        have hk : k' = k := hc.inside.2 k' hin
        subst hk
        rcases List.mem_cons.mp hmem with hnew | hold
        · cases hnew
        · exact (hc.uncompleted ⟨_, hold⟩).elim
      · exact fun n' command' k' ht => by cases ht
    exact hstep
  · intro e h
    cases hevent.symm.trans h
    exact hc.inside.1
  · exact fun h => by cases h

theorem markFailed_using (reason : String) :
    Using rt (callback n command) (Checked (callback n command) command.state k)
      (base (HandleHyundaiOAuthCallbackService.markFailed k reason)) (fun _ _ => True) := by
  have hstaying := staying_checked (callback n command) command.state k
  have hset (x : QrSession) (hx : x.status = .failed) (ex : Option Nat) : Using rt (callback n command)
      (Checked (callback n command) command.state k) (base (ask (.qrSessions (.set k x ex))))
      (fun _ _ => True) := by
    apply Triple.perform hstaying.stable
    exact fun s m r s' hc _ _ ho => ⟨fail_step hx hc ho, trivial⟩
  unfold HandleHyundaiOAuthCallbackService.markFailed
  simp only [Program.bind_eq, base_bind, base_update]
  apply Triple.bind (M := fun _ _ => True)
  · apply Triple.conseq (update_triple (M := fun _ =>
      Checked (callback n command) command.state k) ?_ ?_ ?_) (fun _ h => h)
    · intro r s _
      cases r <;> trivial
    · apply Triple.conseq readQr_using (fun _ h => h)
      exact fun r s hr x hx => (hr x hx).checked
    · intro x
      apply sessionFree_program ?_ hstaying
      exact callback_free (by simp) (fun _ => rfl) (fun _ _ => rfl) rfl
    · exact fun x ex => hset _ rfl ex
  · exact fun _ => .done fun _ _ => trivial

/-! ## The login of a callback -/

theorem storeResult_using (result : OAuthResult) (ttlSeconds : Nat) :
    Using rt (callback n command) (Pending (callback n command) command.state k)
      (base (save .oauthResults k result ttlSeconds))
      (fun r s => ∀ u, r = .ok u → Stored (callback n command) command.state k s) := by
  apply Triple.perform (staying_pending _ _ _).stable
  intro s m r s' hpending hs _ ho
  have hcompleting : s.2.Completing k command.state :=
    ⟨n, command, rfl, hpending.checked.inside.1⟩
  constructor
  · apply outcome_onceStep ?_ ho
    intro r₀ _ he hg
    obtain ⟨-, hw⟩ := exec_base he
    apply OnceStep.of_exec he hg
    · intro hs
      have hstep : LoginsOnce (s'.1, s'.2) := by
        have hnew : ∀ e ∈ s.2.events, ¬(LoginEvent.completed k command.state).Repeats e := by
          intro e hmem hrepeats
          cases e with
          | completed k' state' =>
              obtain rfl : k = k' := hrepeats
              exact hpending.checked.uncompleted ⟨_, hmem⟩
          | failed k' =>
              obtain rfl : k = k' := hrepeats
              exact hpending.unfailed hmem
          | issued k' => exact hrepeats
          | used k' => exact hrepeats
        have hrecorded : LoginsOnce (s.1, s.2.record (.completed k command.state)) := by
          apply LoginsOnce.record hs hnew
          · intro k' state' h
            cases h
            exact ⟨hpending.checked.known, hcompleting⟩
          · exact fun k' x h => by cases h
          · exact fun k' h => by cases h
          · exact fun k' h => by cases h
        rw [hw, hg, loginHistory_record rfl rfl rfl rfl]
        exact LoginsOnce.store hrecorded ⟨_, .head _⟩
      exact hstep
    · intro e h
      cases h
      exact hpending.checked.inside.1
    · exact fun h => by cases h
  · intro u hr
    subst hr
    obtain ⟨-, he, hg⟩ := base_recorded ho
    obtain ⟨-, hw⟩ := exec_base he
    rw [loginHistory_record rfl rfl rfl rfl] at hg
    have hs' : s' = (s'.1, s.2.record (.completed k command.state)) := Prod.ext rfl hg
    rw [hs', hw]
    refine ⟨hpending.checked.inside, hpending.checked.known, .head _, ?_⟩
    intro hused
    rcases List.mem_cons.mp hused with hnew | hold
    · cases hnew
    · exact hpending.checked.uncompleted (hs.used k hold).1

theorem storeLogin_using (result : OAuthResult) (ttlSeconds : Nat) :
    Using rt (callback n command) (Stored (callback n command) command.state k)
      (base (save .loginResults k result ttlSeconds))
      (fun _ => Stored (callback n command) command.state k) := by
  have hstaying := staying_stored (callback n command) command.state k
  apply Triple.perform hstaying.stable
  intro s m r s' hstored _ _ ho
  have hcall : ∀ r₀, s.1.exec (callback n command) (.base (.loginResults (.set k result ttlSeconds))) =
      some (r₀, s'.1) → s'.2 = loginHistory (callback n command)
        (.base (.loginResults (.set k result ttlSeconds))) r₀ s.1 s.2 →
      OnceStep (callback n command) s s' ∧ SameSessions s s' := by
    intro r₀ he hg
    obtain ⟨-, hw⟩ := exec_base he
    constructor
    · apply OnceStep.of_exec he hg ?_ (fun e h => by cases h) (fun h => by cases h)
      intro hs
      have hstep : LoginsOnce (s'.1, s'.2) := by
        rw [hw, hg, loginHistory_same rfl rfl rfl rfl]
        exact LoginsOnce.poll hs ⟨_, hstored.completed⟩ fun _ => hstored.unused
      exact hstep
    · rw [loginHistory_same rfl rfl rfl rfl] at hg
      constructor
      · rw [hg]
      · rw [hg]
      · rw [hg]
        exact fun _ h => h
      · rw [hw]
        rfl
  rcases history_cases ho with ⟨-, he, hg⟩ | ⟨e, -, -, hw, hg⟩ | ⟨e, r₀, -, -, he, hg⟩
  · obtain ⟨hstep, hsame⟩ := hcall r he hg
    exact ⟨hstep, hstaying.quiet s s' hsame hstored⟩
  · have hs : s' = s := Prod.ext hw hg
    rw [hs]
    exact ⟨.refl _ s, hstored⟩
  · obtain ⟨hstep, hsame⟩ := hcall r₀ he hg
    exact ⟨hstep, hstaying.quiet s s' hsame hstored⟩

theorem staying_known (state : String) :
    Staying t fun s => s.1.base.oauthStates state ≠ none where
  stable s s' hi h := known_of_interferes hi h
  quiet s s' hs h := by
    rw [hs.states]
    exact h

theorem useState_step {x : OAuthState} {ex : Option Nat} {m : Mode PyError} {r : Except PyError Unit}
    (hx : x.status = .used) (hknown : s.1.base.oauthStates command.state ≠ none)
    (ho : (logged rt).outcome (callback n command)
      (.base (.oauthStates (.set command.state x ex))) m s = some (r, s')) :
    OnceStep (callback n command) s s' := by
  apply outcome_onceStep ?_ ho
  intro r₀ _ he hg
  obtain ⟨-, hw⟩ := exec_base he
  apply OnceStep.of_exec he hg
  · intro hs
    have hnot : x.status ≠ .pending := by simp [hx]
    have hstep : LoginsOnce (s'.1, s'.2) := by
      rw [hw, hg, loginHistory_leave rfl rfl (by simp [leaves, hx])]
      apply LoginsOnce.leave
      · apply LoginsOnce.saveState hs
        · intro n' htext
          exact hs.fresh n' (by rwa [htext])
        · exact fun _ => hnot
      · intro n' command' k' ht _ _
        cases ht
        apply World.Closed.of_update
        · exact fun _ => hnot
        · exact fun hne => (hne rfl).elim
      · exact fun n' command' k' ht => by cases ht
    exact hstep
  · exact fun e h => by cases h
  · exact fun _ => ⟨command.state, _, by rw [hw]; rfl, .inl hknown⟩

/-- Marking the state used ends the stay of a callback in its session. -/
theorem markUsed_using : Using rt (callback n command)
    (fun s => s.1.base.oauthStates command.state ≠ none)
    (base (update .oauthStates command.state fun x => { x with status := .used }))
    (fun _ _ => True) := by
  have hstaying : Staying (callback n command) fun s => s.1.base.oauthStates command.state ≠ none :=
    staying_known command.state
  rw [base_update]
  apply update_triple (M := fun _ s => s.1.base.oauthStates command.state ≠ none)
  · apply Triple.perform hstaying.stable
    intro s m r s' hknown _ hp ho
    have hstep := readState_step hp ho
    exact ⟨hstep, fun x _ => hstep.states _ hknown⟩
  · intro x
    apply sessionFree_program ?_ hstaying
    exact callback_free (by simp) (fun _ => rfl) (fun _ _ => rfl) rfl
  · intro x ex
    apply Triple.perform hstaying.stable
    exact fun s m r s' hknown _ _ ho => ⟨useState_step rfl hknown ho, trivial⟩

theorem complete_using (userId name : String) (cars : List Car) :
    Using rt (callback n command) (Pending (callback n command) command.state k)
      (base (HandleHyundaiOAuthCallbackService.complete command.state k userId name cars))
      (fun _ _ => True) := by
  unfold HandleHyundaiOAuthCallbackService.complete
  simp only [Program.bind_eq, base_bind]
  have hpending := staying_pending (callback n command) command.state k
  apply Triple.seq ?_ (fun _ _ _ => trivial)
  · intro tempAccessToken
    apply Triple.seq ?_ (fun _ _ _ => trivial)
    · intro _
      apply Triple.bind (M := fun _ => Stored (callback n command) command.state k)
      · apply Triple.conseq (storeResult_using ⟨userId, name, cars, tempAccessToken⟩ _) (fun _ h => h)
        intro r s hr
        cases r with
        | ok u => exact hr u rfl
        | error e => trivial
      · intro _
        apply Triple.seq (storeLogin_using _ _) (fun _ _ _ => trivial)
        intro _
        apply Triple.conseq ?_ (fun s hs => hs.known) (fun _ _ h => h)
        apply Triple.bind (M := fun _ _ => True)
        · apply Triple.conseq markUsed_using (fun _ h => h)
          intro r s _
          cases r <;> trivial
        · exact fun _ => .done fun _ _ => trivial
    · apply sessionFree_program ?_ hpending
      exact callback_free (by simp) (fun _ => rfl) (fun _ _ => rfl) rfl
  · apply sessionFree_program ?_ hpending
    exact callback_free (by simp) (fun _ => rfl) (fun _ _ => rfl) rfl

/-- The requests to Hyundai concern no session. -/
theorem fetchProfile_free (code : String) :
    (base (HandleHyundaiOAuthCallbackService.fetchProfile code)).Calls
      (SessionFree (callback n command)) := by
  unfold HandleHyundaiOAuthCallbackService.fetchProfile
  simp only [Program.bind_eq, base_bind]
  apply Program.Calls.bind
  · exact callback_free (by simp) (fun _ => rfl) (fun _ _ => rfl) rfl
  · intro accessToken
    apply Program.Calls.bind
    · exact callback_free (by simp) (fun _ => rfl) (fun _ _ => rfl) rfl
    · intro ⟨userId, name⟩
      apply Program.Calls.bind
      · exact callback_free (by simp) (fun _ => rfl) (fun _ _ => rfl) rfl
      · exact fun cars => trivial

theorem hyundaiOAuthCallback_using : Using rt (callback n command) (Absent (callback n command))
    (base (HandleHyundaiOAuthCallbackService.execute command)) (fun _ _ => True) := by
  unfold HandleHyundaiOAuthCallbackService.execute
  split
  · exact .done fun _ _ => trivial
  split
  · exact .done fun _ _ => trivial
  simp only [Program.bind_eq, base_bind]
  apply Triple.bind (M := fun (found : Option String) s => ∀ k, found = some k →
    Checked (callback n command) command.state k s)
  · apply Triple.conseq getSessionId_using (fun _ h => h)
    intro r s hr
    cases r with
    | ok found => exact fun k hfound => hr k (by rw [hfound])
    | error e => trivial
  intro found
  cases found with
  | none => exact .done fun _ _ => trivial
  | some k =>
      apply Triple.conseq ?_ (fun s hs => hs k rfl) (fun _ _ h => h)
      dsimp only
      split
      · exact .done fun _ _ => trivial
      rw [base_bind]
      apply Triple.bind (M := fun (found : Option QrSession) s => ∀ x, found = some x →
        Pending (callback n command) command.state k s)
      · apply Triple.conseq readQr_using (fun _ h => h)
        intro r s hr
        cases r with
        | ok found => exact fun x hfound => hr x (by rw [hfound])
        | error e => trivial
      intro found
      cases found with
      | none => exact .done fun _ _ => trivial
      | some qrSession =>
          apply Triple.conseq ?_ (fun s hs => hs qrSession rfl) (fun _ _ h => h)
          dsimp only
          split
          · exact .done fun _ _ => trivial
          rw [base_bind]
          apply Triple.bind (M := fun _ => Pending (callback n command) command.state k)
          · rw [Program.tryCatch_eq, base_tryCatch]
            apply Triple.tryCatch (M := fun _ => Pending (callback n command) command.state k)
            · apply Triple.conseq (sessionFree_program (fetchProfile_free command.code)
                (staying_pending _ _ _)) (fun _ h => h)
              intro r s hs
              cases r with
              | ok x => exact hs
              | error e => exact hs
            · intro exc
              rw [base_bind]
              apply Triple.conseq ?_ (fun s hs => hs.checked) (fun _ _ h => h)
              apply Triple.bind (M := fun _ _ => True)
              · apply Triple.conseq (markFailed_using exc.str) (fun _ h => h)
                intro r s _
                cases r <;> trivial
              · exact fun _ => .done fun _ _ => trivial
          · exact fun ⟨userId, name, cars⟩ => complete_using userId name cars

end

end CarPayIn
