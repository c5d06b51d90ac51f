import CarPayIn.Backend.Services
import Mathlib.Tactic.SplitIfs

/-! # What the services write

Every call writes at most one table or store, and every service calls only a
few of them. So what one table holds is decided by the services that write it.
-/

namespace CarPayIn

open Process Store

inductive Effect where
  | nothing
  | draw
  | token
  | user
  | vehicle
  | billingKey
  | refreshToken
  | newSession
  | sessionStatus
  | qrSession
  | oauthState
  | oauthResult
  | loginResult
  | cardOrder
  | preNotify
  | quote
  | entryRetry
  | publication
deriving DecidableEq, Repr

/-- A command that writes has the effect of its store. -/
def cacheEffect {κ ν β : Type} (e : Effect) : CacheOp κ ν β → Effect
  | .get _ | .ttl _ => .nothing
  | .set _ _ _ | .delete _ => e

section
variable {κ ν : Type} (e : Effect) (key : κ) (value : ν) (ex : Option Nat)

@[simp] theorem cacheEffect_get : cacheEffect e (.get key : CacheOp κ ν _) = .nothing := rfl

@[simp] theorem cacheEffect_ttl : cacheEffect e (.ttl key : CacheOp κ ν _) = .nothing := rfl

@[simp] theorem cacheEffect_set : cacheEffect e (.set key value ex) = e := rfl

@[simp] theorem cacheEffect_delete : cacheEffect e (.delete key : CacheOp κ ν _) = e := rfl

end

/-- A command has the effect of its store or none. -/
@[simp] theorem cacheEffect_eq_false {κ ν β : Type} {e e' : Effect} {op : CacheOp κ ν β}
    (h : e ≠ e') (hn : .nothing ≠ e') : (cacheEffect e op = e') = False := by
  cases op <;> simp [h, hn]

@[simp] def BaseOp.effect {β : Type} : BaseOp β → Effect
  | .draw => .draw
  | .issueToken _ _ _ _ => .token
  | .upsertUser _ _ => .user
  | .upsertVehicle _ _ | .updatePlate _ _ => .vehicle
  | .upsertBillingKey _ _ _ => .billingKey
  | .saveTokenHash _ _ _ | .markTokenExpired _ => .refreshToken
  | .createSession _ => .newSession
  | .commitSession _ _ => .sessionStatus
  | .qrSessions op => cacheEffect .qrSession op
  | .oauthStates op => cacheEffect .oauthState op
  | .oauthResults op => cacheEffect .oauthResult op
  | .loginResults op => cacheEffect .loginResult op
  | .cardOrders op => cacheEffect .cardOrder op
  | .preNotifies op => cacheEffect .preNotify op
  | .quotes op => cacheEffect .quote op
  | .entryRetries op => cacheEffect .entryRetry op
  | .publishEntryNotification _ => .publication
  | _ => .nothing

/-! ## Frames -/

/-- What a call with this effect leaves as it was. -/
structure Frame (e : Effect) (b b' : Base) : Prop where
  now : b'.now = b.now
  outside : b'.outside = b.outside
  issuedTokens : e ≠ .token → b'.issuedTokens = b.issuedTokens
  vehicles : e ≠ .vehicle → b'.vehicles = b.vehicles
  billingKeys : e ≠ .billingKey → b'.billingKeys = b.billingKeys
  refreshTokens : e ≠ .refreshToken → b'.refreshTokens = b.refreshTokens
  parkingSessions : e ≠ .newSession → e ≠ .sessionStatus → b'.parkingSessions = b.parkingSessions
  qrSessions : e ≠ .qrSession → b'.qrSessions = b.qrSessions
  oauthStates : e ≠ .oauthState → b'.oauthStates = b.oauthStates
  oauthResults : e ≠ .oauthResult → b'.oauthResults = b.oauthResults
  completedLogins : e ≠ .oauthResult → b'.completedLogins = b.completedLogins
  loginResults : e ≠ .loginResult → b'.loginResults = b.loginResults
  cardOrders : e ≠ .cardOrder → b'.cardOrders = b.cardOrders
  preNotifies : e ≠ .preNotify → b'.preNotifies = b.preNotifies
  quotes : e ≠ .quote → b'.quotes = b.quotes
  entryRetries : e ≠ .entryRetry → b'.entryRetries = b.entryRetries
  publishedEntries : e ≠ .publication → b'.publishedEntries = b.publishedEntries

namespace Frame

variable {b b' : Base} {e : Effect}

theorem refl (e : Effect) (b : Base) : Frame e b b := by
  constructor <;> intros <;> rfl

theorem write {x : Except PyError Base} (h : ∀ b', x = .ok b' → Frame e b b') :
    Frame e b (b.write x).2 := by
  cases x with
  | ok b' => exact h b' rfl
  | error err => exact refl e b

end Frame

/-- A command that reads leaves its store as it is. -/
theorem cacheExec_of_nothing {κ ν β : Type} [DecidableEq κ] {now : Nat} {op : CacheOp κ ν β}
    {c : Cache κ ν} {e : Effect} (h : cacheEffect e op ≠ e) : (Cache.exec now op c).2 = c := by
  cases op with
  | get key => rfl
  | ttl key => rfl
  | set key value ex => exact (h rfl).elim
  | delete key => exact (h rfl).elim

theorem logged_of_nothing {β : Type} {b : Base} {op : CacheOp String OAuthResult β}
    (h : cacheEffect .oauthResult op ≠ .oauthResult) : b.logged op = b.completedLogins := by
  cases op with
  | set key value ex => exact (h rfl).elim
  | _ => rfl

theorem Base.exec_frame {β : Type} (op : BaseOp β) (b : Base) :
    Frame op.effect b (b.exec op).2 := by
  cases op with
  | upsertUser userId name =>
      simp only [Base.exec, Base.upsertUser]
      split <;> constructor <;> intros <;> rfl
  | upsertVehicle userId car =>
      apply Frame.write
      intro b' h
      unfold Base.upsertVehicle at h
      split_ifs at h
      split at h <;> cases h <;> constructor <;> intros <;> first | rfl | contradiction
  | updatePlate carId plate =>
      apply Frame.write
      intro b' h
      unfold Base.updatePlate at h
      split at h
      · cases h
      · split_ifs at h
        cases h
        constructor <;> intros <;> first | rfl | contradiction
  | upsertBillingKey order key lastFour =>
      apply Frame.write
      intro b' h
      unfold Base.upsertBillingKey at h
      simp only at h
      split_ifs at h
      split at h <;> cases h <;> constructor <;> intros <;> first | rfl | contradiction
  | saveTokenHash hash userId carId =>
      apply Frame.write
      intro b' h
      unfold Base.saveTokenHash at h
      split_ifs at h
      cases h
      constructor <;> intros <;> first | rfl | contradiction
  | markTokenExpired hash =>
      apply Frame.write
      intro b' h
      unfold Base.markExpired at h
      split at h
      · cases h
      · cases h
        constructor <;> intros <;> first | rfl | contradiction
  | createSession row =>
      apply Frame.write
      intro b' h
      unfold Base.createSession at h
      split_ifs at h
      cases h
      constructor <;> intros <;> first | rfl | contradiction
  | commitSession id change =>
      apply Frame.write
      intro b' h
      unfold Base.commitSession at h
      split at h
      · cases h
        exact Frame.refl _ b
      · split at h
        · cases h
        · cases h
          constructor <;> intros <;> first | rfl | contradiction
  | qrSessions op | oauthStates op | loginResults op | cardOrders op | preNotifies op | quotes op
  | entryRetries op =>
      constructor <;> intros <;> first | rfl | exact cacheExec_of_nothing (by assumption)
  | oauthResults op =>
      constructor <;> intros <;> first
        | rfl
        | exact cacheExec_of_nothing (by assumption)
        | exact logged_of_nothing (by assumption)
  | _ => constructor <;> intros <;> first | rfl | contradiction

theorem Base.write_drawn {b : Base} {x : Except PyError Base}
    (h : ∀ b', x = .ok b' → b'.drawn = b.drawn) : (b.write x).2.drawn = b.drawn := by
  cases x with
  | ok b' => exact h b' rfl
  | error e => rfl

/-- Numbers are drawn by one call only. -/
theorem Base.exec_drawn {β : Type} (op : BaseOp β) (b : Base) (h : op.effect ≠ .draw) :
    (b.exec op).2.drawn = b.drawn := by
  cases op with
  | draw => exact absurd rfl h
  | upsertUser userId name =>
      simp only [Base.exec, Base.upsertUser]
      split <;> rfl
  | upsertVehicle userId car =>
      apply Base.write_drawn
      intro b' hb
      unfold Base.upsertVehicle at hb
      split_ifs at hb
      split at hb <;> cases hb <;> rfl
  | updatePlate carId plate =>
      apply Base.write_drawn
      intro b' hb
      unfold Base.updatePlate at hb
      split at hb
      · cases hb
      · split_ifs at hb
        cases hb
        rfl
  | upsertBillingKey order key lastFour =>
      apply Base.write_drawn
      intro b' hb
      unfold Base.upsertBillingKey at hb
      simp only at hb
      split_ifs at hb
      split at hb <;> cases hb <;> rfl
  | saveTokenHash hash userId carId =>
      apply Base.write_drawn
      intro b' hb
      unfold Base.saveTokenHash at hb
      split_ifs at hb
      cases hb
      rfl
  | markTokenExpired hash =>
      apply Base.write_drawn
      intro b' hb
      unfold Base.markExpired at hb
      split at hb
      · cases hb
      · cases hb
        rfl
  | createSession row =>
      apply Base.write_drawn
      intro b' hb
      unfold Base.createSession at hb
      split_ifs at hb
      cases hb
      rfl
  | commitSession id change =>
      apply Base.write_drawn
      intro b' hb
      unfold Base.commitSession at hb
      split at hb
      · cases hb
        rfl
      · split at hb <;> cases hb
        rfl
  | _ => rfl

/-- Texts made from different numbers differ. -/
theorem randomText_injective (label : String) :
    Function.Injective fun n : Nat => label ++ toString n := by
  intro n m h
  have hdigits : Nat.toDigits 10 n = Nat.toDigits 10 m := by
    rw [← Nat.toList_repr, ← Nat.toList_repr]
    exact congrArg String.toList ((String.append_right_inj _).mp h)
  rw [← Nat.ofDigitChars_ten_toDigits (n := n), hdigits, Nat.ofDigitChars_ten_toDigits]

/-! ## The effects of every service -/

/-- Every call of the program has one of these effects or none. -/
abbrev Effects {α : Type} (es : List Effect) (p : BaseService α) : Prop :=
  p.Calls fun op => op.effect ∈ .nothing :: es

variable {α β : Type} {es es' : List Effect}

theorem Effects.mono {p : BaseService α} (hp : Effects es p) (h : es ⊆ es') : Effects es' p :=
  Program.Calls.mono hp fun _ hop => List.cons_subset_cons _ h hop

/-- Other effects do not occur. -/
theorem Effects.avoids {p : BaseService α} (hp : Effects es p) {e : Effect}
    (h : e ∉ .nothing :: es) : p.Calls fun op => op.effect ≠ e :=
  Program.Calls.mono hp fun _ hop he => h (he ▸ hop)

theorem ask_effects {op : BaseOp α} (h : op.effect ∈ .nothing :: es) : Effects es (ask op) :=
  ⟨h, fun _ => trivial⟩

theorem validateAppToken_effects (token : BearerToken) :
    Effects es (BaseService.validateAppToken token) := ask_effects (.head _)

theorem randomText_effects (label : String) : Effects [.draw] (BaseService.randomText label) := by
  apply Program.Calls.bind
  · exact ask_effects (by simp)
  · exact fun n => trivial

theorem getSessionById_effects (sessionId : String) :
    Effects es (BaseService.getSessionById sessionId) := by
  apply Program.Calls.bind
  · trivial
  · exact fun id => ask_effects (.head _)

theorem createQrSession_effects (rt : Runtime) (command : CreateQrSessionCommand) :
    Effects [.qrSession] (CreateQrSessionService.execute rt command) := by
  unfold CreateQrSessionService.execute
  split
  · trivial
  split
  · trivial
  · apply Program.Calls.bind
    · exact ask_effects (by simp)
    · exact fun _ => trivial

theorem startHyundaiOAuth_effects (rt : Runtime) (sessionId : String) :
    Effects [.draw, .oauthState] (StartHyundaiOAuthService.execute rt sessionId) := by
  unfold StartHyundaiOAuthService.execute
  split
  · trivial
  · apply Program.Calls.bind
    · exact ask_effects (by simp)
    · intro found
      cases found with
      | none => trivial
      | some qrSession =>
          dsimp only
          split
          · trivial
          · trivial
          · apply Program.Calls.bind
            · exact (randomText_effects _).mono (by decide)
            · intro oauthState
              apply Program.Calls.bind
              · exact ask_effects (by simp)
              · exact fun _ => trivial

theorem fetchProfile_effects (code : String) :
    Effects es (HandleHyundaiOAuthCallbackService.fetchProfile code) := by
  unfold HandleHyundaiOAuthCallbackService.fetchProfile
  apply Program.Calls.bind
  · exact ask_effects (.head _)
  · intro accessToken
    apply Program.Calls.bind
    · exact ask_effects (.head _)
    · intro ⟨userId, name⟩
      apply Program.Calls.bind
      · exact ask_effects (.head _)
      · exact fun cars => trivial

theorem markFailed_effects (sessionId reason : String) :
    Effects [.qrSession] (HandleHyundaiOAuthCallbackService.markFailed sessionId reason) := by
  apply Program.Calls.bind
  · apply update_calls <;> simp
  · exact fun _ => trivial

theorem complete_effects (state sessionId userId name : String) (cars : List Car) :
    Effects [.token, .user, .oauthResult, .loginResult, .oauthState]
      (HandleHyundaiOAuthCallbackService.complete state sessionId userId name cars) := by
  unfold HandleHyundaiOAuthCallbackService.complete
  apply Program.Calls.bind
  · exact ask_effects (by simp)
  · intro tempAccessToken
    apply Program.Calls.bind
    · exact ask_effects (by simp)
    · intro _
      apply Program.Calls.bind
      · exact ask_effects (by simp)
      · intro _
        apply Program.Calls.bind
        · exact ask_effects (by simp)
        · intro _
          apply Program.Calls.bind
          · apply update_calls <;> simp
          · exact fun _ => trivial

theorem hyundaiOAuthCallback_effects (command : HandleHyundaiOAuthCallbackCommand) :
    Effects [.token, .user, .oauthResult, .loginResult, .oauthState, .qrSession]
      (HandleHyundaiOAuthCallbackService.execute command) := by
  unfold HandleHyundaiOAuthCallbackService.execute HandleHyundaiOAuthCallbackService.getSessionId
  split
  · trivial
  split
  · trivial
  · apply Program.Calls.bind
    · apply Program.Calls.bind
      · exact ask_effects (by simp)
      · intro found
        cases found with
        | none => trivial
        | some s => trivial
    · intro found
      cases found with
      | none => trivial
      | some sessionId =>
          dsimp only
          split
          · trivial
          · apply Program.Calls.bind
            · exact ask_effects (by simp)
            · intro found
              cases found with
              | none => trivial
              | some qrSession =>
                  dsimp only
                  split
                  · trivial
                  · apply Program.Calls.bind
                    · apply Program.Calls.tryCatch
                      · exact fetchProfile_effects _
                      · intro exc
                        apply Program.Calls.bind
                        · exact (markFailed_effects _ _).mono (by decide)
                        · exact fun _ => trivial
                    · exact fun ⟨userId, name, cars⟩ => (complete_effects ..).mono (by decide)

theorem bindVehicle_calls {K : ∀ {β : Type}, BaseOp β → Prop} (rt : Runtime)
    (sessionId userId name carId : String) (car : Car) (hvehicle : K (.upsertVehicle userId car))
    (htoken : ∀ ttlSeconds, K (.issueToken .appAccess userId carId ttlSeconds)) (hdraw : K .draw)
    (hsave : ∀ hash, K (.saveTokenHash hash userId carId))
    (hdelete : K (.loginResults (.delete sessionId))) :
    (ConfirmVehicleService.bindVehicle rt sessionId userId name carId car).Calls K := by
  unfold ConfirmVehicleService.bindVehicle
  apply Program.Calls.bind
  · exact ⟨hvehicle, fun _ => trivial⟩
  · intro _
    apply Program.Calls.bind
    · exact ⟨htoken _, fun _ => trivial⟩
    · intro accessToken
      apply Program.Calls.bind
      · apply Program.Calls.bind
        · exact ⟨hdraw, fun _ => trivial⟩
        · exact fun _ => trivial
      · intro refreshToken
        apply Program.Calls.bind
        · exact ⟨hsave _, fun _ => trivial⟩
        · intro _
          apply Program.Calls.bind
          · exact ⟨hdelete, fun _ => trivial⟩
          · exact fun _ => trivial

theorem bindVehicle_effects (rt : Runtime) (sessionId userId name carId : String) (car : Car) :
    Effects [.vehicle, .token, .draw, .refreshToken, .loginResult]
      (ConfirmVehicleService.bindVehicle rt sessionId userId name carId car) := by
  apply bindVehicle_calls <;> simp

/-- Before a confirmation writes anything it makes only calls of no effect. -/
theorem confirmVehicle_calls {K : ∀ {β : Type}, BaseOp β → Prop} (rt : Runtime)
    (command : ConfirmVehicleCommand)
    (hfree : ∀ {β : Type} (op : BaseOp β), op.effect = .nothing → K op)
    (hbind : ∀ sessionId userId name carId car,
      (ConfirmVehicleService.bindVehicle rt sessionId userId name carId car).Calls K) :
    (ConfirmVehicleService.execute rt command).Calls K := by
  have hask {β : Type} (op : BaseOp β) (hop : op.effect = .nothing) : (ask op).Calls K :=
    ⟨hfree op hop, fun _ => trivial⟩
  unfold ConfirmVehicleService.execute ConfirmVehicleService.getLoginResult
  split
  · trivial
  split
  · trivial
  split
  · trivial
  · apply Program.Calls.bind
    · exact hask _ rfl
    · intro token
      apply Program.Calls.bind
      · apply Program.Calls.bind
        · exact hask _ rfl
        · intro found
          cases found with
          | some result => trivial
          | none => exact hask _ rfl
      · intro found
        cases found with
        | none => trivial
        | some loginResult =>
            dsimp only
            split
            · trivial
            · apply Program.Calls.bind
              · exact hask _ rfl
              · intro found
                cases found with
                | none => trivial
                | some qrSession =>
                    dsimp only
                    split
                    · trivial
                    split
                    · trivial
                    · exact hbind ..

theorem confirmVehicle_effects (rt : Runtime) (command : ConfirmVehicleCommand) :
    Effects [.vehicle, .token, .draw, .refreshToken, .loginResult]
      (ConfirmVehicleService.execute rt command) :=
  confirmVehicle_calls rt command (fun _ hop => hop ▸ .head _) (bindVehicle_effects rt)

theorem refreshAccessToken_effects (rt : Runtime) (refreshToken : String) :
    Effects [.refreshToken, .token] (RefreshAccessTokenService.execute rt refreshToken) := by
  unfold RefreshAccessTokenService.execute
  split
  · trivial
  · apply Program.Calls.bind
    · exact ask_effects (by simp)
    · intro found
      cases found with
      | none => trivial
      | some record =>
          dsimp only
          split
          · trivial
          · trivial
          · apply Program.Calls.bind
            · exact ask_effects (by simp)
            · intro now
              split
              · apply Program.Calls.bind
                · exact ask_effects (by simp)
                · exact fun _ => trivial
              · exact ask_effects (by simp)

theorem createCardOrder_effects (command : CreateCardOrderCommand) :
    Effects [.vehicle, .draw, .cardOrder] (CreateCardOrderService.execute command) := by
  unfold CreateCardOrderService.execute
  apply Program.Calls.bind
  · exact validateAppToken_effects _
  · intro user
    split
    · trivial
    · apply Program.Calls.bind
      · exact ask_effects (by simp)
      · intro known
        split
        · trivial
        · dsimp only
          generalize CreateCardOrderService.normalizePlate command.plate = plate
          generalize CreateCardOrderService.isPlate plate = wellFormed
          split
          · trivial
          · apply Program.Calls.bind
            · exact ask_effects (by simp)
            · intro owner
              split
              · trivial
              · apply Program.Calls.bind
                · exact ask_effects (by simp)
                · intro _
                  apply Program.Calls.bind
                  · exact (randomText_effects _).mono (by decide)
                  · intro orderId
                    apply Program.Calls.bind
                    · exact ask_effects (by simp)
                    · intro _
                      apply Program.Calls.bind
                      · exact ask_effects (by simp)
                      · exact fun pgUrl => trivial

/-- Reading an order for the idempotency check. -/
theorem orderCheck_effects (orderId : String) {f : Option CardOrder → BaseService Unit}
    (hf : ∀ found, Effects es (f found)) :
    Effects es (Program.bind (read .cardOrders orderId) f) := by
  apply Program.Calls.bind
  · exact ask_effects (by simp)
  · exact hf

theorem cardWebhook_effects (command : HandleCardWebhookCommand) :
    Effects [.billingKey, .cardOrder] (HandleCardWebhookService.execute command) := by
  unfold HandleCardWebhookService.execute
  apply Program.Calls.bind
  · exact ask_effects (by simp)
  · intro valid
    split
    · trivial
    split
    · trivial
    split
    · trivial
    · apply orderCheck_effects
      intro found
      cases found with
      | none =>
          apply orderCheck_effects
          intro found
          cases found with
          | none => trivial
          | some order => trivial
      | some order =>
          dsimp only
          split
          · apply orderCheck_effects
            intro found
            cases found with
            | none => trivial
            | some order => trivial
          · apply Program.Calls.bind
            · exact ask_effects (by simp)
            · intro vehicle
              split
              · trivial
              · apply Program.Calls.bind
                · exact ask_effects (by simp)
                · intro _
                  apply Program.Calls.bind
                  · apply update_calls <;> simp
                  · exact fun _ => trivial

theorem registerPreNotify_effects (command : RegisterPreNotifyCommand) :
    Effects [.preNotify] (RegisterPreNotifyService.execute command) := by
  unfold RegisterPreNotifyService.execute BaseService.hasActiveBillingKey
  apply Program.Calls.bind
  · exact validateAppToken_effects _
  · intro token
    apply Program.Calls.bind
    · exact ask_effects (by simp)
    · intro found
      cases found with
      | none => trivial
      | some vehicle =>
          dsimp only
          split
          · trivial
          · apply Program.Calls.bind
            · apply Program.Calls.bind
              · exact ask_effects (by simp)
              · exact fun record => trivial
            · intro active
              split
              · trivial
              · apply Program.Calls.bind
                · exact ask_effects (by simp)
                · intro _
                  apply Program.Calls.bind
                  · exact ask_effects (by simp)
                  · exact fun _ => trivial

theorem notifyEntry_effects (event : EntryRetryEvent) :
    Effects [.publication, .entryRetry] (HandleEntryWebhookService.notifyEntry event) := by
  unfold HandleEntryWebhookService.notifyEntry
  apply Program.Calls.tryCatch
  · apply Program.Calls.bind
    · exact ask_effects (by simp)
    · exact fun _ => ask_effects (by simp)
  · exact fun e => ask_effects (by simp)

theorem entryWebhook_effects (rt : Runtime) (command : HandleEntryWebhookCommand) :
    Effects [.draw, .newSession, .preNotify, .publication, .entryRetry]
      (HandleEntryWebhookService.execute rt command) := by
  unfold HandleEntryWebhookService.execute HandleEntryWebhookService.openSession
  apply Program.Calls.bind
  · exact ask_effects (by simp)
  · intro valid
    split
    · trivial
    split
    · trivial
    · apply Program.Calls.bind
      · exact ask_effects (by simp)
      · intro found
        cases found with
        | some existing => trivial
        | none =>
            apply Program.Calls.bind
            · exact ask_effects (by simp)
            · intro found
              cases found with
              | none => trivial
              | some preNotify =>
                  apply Program.Calls.bind
                  · exact ask_effects (by simp)
                  · intro found
                    cases found with
                    | some active => trivial
                    | none =>
                        apply Program.Calls.bind
                        · exact ask_effects (by simp)
                        · intro sessionId
                          apply Program.Calls.bind
                          · exact ask_effects (by simp)
                          · intro _
                            apply Program.Calls.bind
                            · exact ask_effects (by simp)
                            · intro _
                              apply Program.Calls.bind
                              · exact (notifyEntry_effects _).mono (by decide)
                              · exact fun _ => trivial

theorem retryEntries_effects (keys : List Uuid) :
    Effects [.publication, .entryRetry] (NotifyRetryWorker.retryEntries keys) := by
  induction keys with
  | nil => trivial
  | cons key keys ih =>
      apply Program.Calls.bind
      · unfold NotifyRetryWorker.retryEntry
        apply Program.Calls.bind
        · exact ask_effects (by simp)
        · intro found
          cases found with
          | none => trivial
          | some event =>
              apply Program.Calls.tryCatch
              · apply Program.Calls.bind
                · exact ask_effects (by simp)
                · exact fun _ => ask_effects (by simp)
              · exact fun e => trivial
      · exact fun _ => ih

theorem processEntryRetries_effects :
    Effects [.publication, .entryRetry] NotifyRetryWorker.processEntryRetries := by
  apply Program.Calls.bind
  · exact ask_effects (by simp)
  · exact fun keys => retryEntries_effects keys

theorem getParkingFee_effects (command : GetParkingFeeCommand) :
    Effects [.quote] (GetParkingFeeService.execute command) := by
  unfold GetParkingFeeService.execute
  split
  · trivial
  · apply Program.Calls.bind
    · exact validateAppToken_effects _
    · intro token
      apply Program.Calls.bind
      · exact ask_effects (by simp)
      · intro found
        cases found with
        | some quote => trivial
        | none =>
            apply Program.Calls.bind
            · exact getSessionById_effects _
            · intro found
              cases found with
              | none => trivial
              | some session =>
                  dsimp only
                  split
                  · trivial
                  split
                  · trivial
                  · apply Program.Calls.bind
                    · exact ask_effects (by simp)
                    · intro ⟨amount, duration⟩
                      apply Program.Calls.bind
                      · exact ask_effects (by simp)
                      · exact fun _ => trivial

end CarPayIn
