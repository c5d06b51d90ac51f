import CarPayIn.App.ApiManager
import CarPayIn.Python

/-! # What a refused request does to the session

The app looks for a 401 in the whole message of an exception and takes every
failure of the refresh and of the repeated request for the end of the session.
-/

namespace CarPayIn.App

open Process Device ParkingStateManager ApiManager

/-- The backend does not accept the token. -/
def Reply.Unauthorized (r : Reply) : Prop := ∃ text, r = .response 401 text

def Reply.Refused (r : Reply) : Prop :=
  ∃ code text, r = .response code text ∧ 400 ≤ code ∧ code ≤ 499

section
variable {J α : Type} {json : JSONObject J} {block : Block J α} {prefs : Preferences} {now : Int}
  {replies : Nat → Reply}

theorem decode_eq_runtimeException {r : Reply} {m : String} :
    decode json r = .error (.runtimeException m) ↔
      ∃ code text, r = .response code text ∧ isSuccess code = false ∧ m = message code text := by
  cases r with
  | failed => simp [decode]
  | response code text =>
      cases hcode : isSuccess code with
      | true => cases hparse : json.parse text <;> simp [decode, hcode, hparse]
      | false =>
          simp only [decode, hcode, Bool.false_eq_true, not_false_eq_true, if_true]
          constructor
          · intro h
            cases h
            exact ⟨code, text, rfl, hcode, rfl⟩
          · rintro ⟨code', text', hreply, -, rfl⟩
            cases hreply
            rfl

theorem answer_eq_runtimeException {r : Reply} {m : String} :
    block.answer json r = .error (.runtimeException m) ↔
      ∃ code text, r = .response code text ∧ isSuccess code = false ∧ m = message code text := by
  have hdecode : decode json r = .error (.runtimeException m) ↔ _ := decode_eq_runtimeException
  rw [← hdecode]
  unfold Block.answer
  cases decode json r with
  | error e => simp
  | ok data => cases hresult : block.result data <;> simp [hresult]

/-- A 401 is always found in its own message. -/
theorem contains401_message (text : String) : contains401 (message 401 text) = true := by
  unfold contains401 message
  apply decide_eq_true
  refine ⟨"HTTP ".toList, (": " ++ text).toList, ?_⟩
  have hcode : toString (401 : Int) = "401" := by decide
  simp [hcode]

/-! ## The courses a request can take -/

variable (json block prefs now replies) in
/-- What becomes of a request, the number of requests sent and the preferences it leaves. -/
inductive Course : Except Throwable α → Nat → Preferences → Prop where
  | signedOut (h : getAccessToken prefs = none) : Course (.error .sessionExpiredException) 0 prefs
  | direct {token : String} (h : getAccessToken prefs = some token)
      (hpass : ∀ m, block.answer json (replies 0) = .error (.runtimeException m) →
        contains401 m = false) : Course (block.answer json (replies 0)) 1 prefs
  | unrefreshable {token m : String} (h : getAccessToken prefs = some token)
      (hfirst : block.answer json (replies 0) = .error (.runtimeException m))
      (hm : contains401 m = true) (hr : getRefreshToken prefs = none) :
      Course (.error .sessionExpiredException) 1 prefs
  | refused {token m refresh m' : String} (h : getAccessToken prefs = some token)
      (hfirst : block.answer json (replies 0) = .error (.runtimeException m))
      (hm : contains401 m = true) (hr : getRefreshToken prefs = some refresh)
      (hrefresh : decode json (replies 1) = .error (.runtimeException m')) :
      Course (.error .sessionExpiredException) 2 (clearSession prefs)
  | unrefreshed {token m refresh : String} {e : Throwable} (h : getAccessToken prefs = some token)
      (hfirst : block.answer json (replies 0) = .error (.runtimeException m))
      (hm : contains401 m = true) (hr : getRefreshToken prefs = some refresh)
      (hrefresh : decode json (replies 1) = .error e) (he : ∀ m', e ≠ .runtimeException m') :
      Course (.error e) 2 prefs
  | repeated {token m refresh : String} {data : J} (h : getAccessToken prefs = some token)
      (hfirst : block.answer json (replies 0) = .error (.runtimeException m))
      (hm : contains401 m = true) (hr : getRefreshToken prefs = some refresh)
      (hrefresh : decode json (replies 1) = .ok data)
      (hsecond : ∀ m', block.answer json (replies 2) ≠ .error (.runtimeException m')) :
      Course (block.answer json (replies 2)) 3 (saveTokens prefs now
        (tokens json refresh data).accessToken (tokens json refresh data).refreshToken)
  | repeatedRefused {token m refresh m' : String} {data : J} (h : getAccessToken prefs = some token)
      (hfirst : block.answer json (replies 0) = .error (.runtimeException m))
      (hm : contains401 m = true) (hr : getRefreshToken prefs = some refresh)
      (hrefresh : decode json (replies 1) = .ok data)
      (hsecond : block.answer json (replies 2) = .error (.runtimeException m')) :
      Course (.error .sessionExpiredException) 3 (clearSession (saveTokens prefs now
        (tokens json refresh data).accessToken (tokens json refresh data).refreshToken))

theorem run_execute (token : String) (d : Device) :
    run (block.execute json token) d =
      (block.answer json (d.replies d.sent.length), d.send (block.request token)) := rfl

variable (json) in
theorem run_refreshToken (refresh : String) (d : Device) : ∃ request,
    run (refreshToken json refresh) d =
      ((decode json (d.replies d.sent.length)).map (tokens json refresh), d.send request) := by
  refine ⟨_, (run_execute _ d).trans (Prod.ext ?_ rfl)⟩
  unfold Block.answer
  cases decode json (d.replies d.sent.length) <;> rfl

theorem course_of_repeatRefreshed {token m refresh : String} (h : getAccessToken prefs = some token)
    (hfirst : block.answer json (replies 0) = .error (.runtimeException m))
    (hm : contains401 m = true) (hr : getRefreshToken prefs = some refresh) (request : HttpRequest) :
    ∃ result d, run (repeatRefreshed json block refresh) ⟨prefs, now, replies, [request]⟩ = (result, d) ∧
      Course json block prefs now replies result d.sent.length d.prefs := by
  obtain ⟨request', hrun⟩ := run_refreshToken json refresh ⟨prefs, now, replies, [request]⟩
  simp only [repeatRefreshed, Program.bind_eq, Program.tryCatch_eq, run_tryCatch, run_bind, hrun,
    List.length_singleton]
  cases hrefresh : decode json (replies 1) with
  | error e =>
      have hother (he : ∀ m', e ≠ .runtimeException m') :
          Course json block prefs now replies (.error e) 2 prefs :=
        .unrefreshed h hfirst hm hr hrefresh he
      cases e with
      | runtimeException m' => exact ⟨_, _, rfl, .refused h hfirst hm hr hrefresh⟩
      | sessionExpiredException => exact ⟨_, _, rfl, hother (fun m' hm' => nomatch hm')⟩
      | ioException => exact ⟨_, _, rfl, hother (fun m' hm' => nomatch hm')⟩
      | jsonException => exact ⟨_, _, rfl, hother (fun m' hm' => nomatch hm')⟩
  | ok data =>
      simp only [Except.map, run_perform, exec, run_execute, send]
      have hreturns (r : Except Throwable α) (hr₂ : block.answer json (replies 2) = r)
          (hpass : ∀ m', r ≠ .error (.runtimeException m')) :
          Course json block prefs now replies r 3 (saveTokens prefs now
            (tokens json refresh data).accessToken (tokens json refresh data).refreshToken) :=
        hr₂ ▸ .repeated h hfirst hm hr hrefresh (fun m' hm' => hpass m' (hr₂ ▸ hm'))
      have hsent : ([request] ++ [request']).length = 2 := rfl
      simp only [hsent]
      cases hsecond : block.answer json (replies 2) with
      | ok a => exact ⟨_, _, rfl, hreturns _ hsecond (fun m' hm' => nomatch hm')⟩
      | error e =>
          cases e with
          | runtimeException m' => exact ⟨_, _, rfl, .repeatedRefused h hfirst hm hr hrefresh hsecond⟩
          | sessionExpiredException => exact ⟨_, _, rfl, hreturns _ hsecond (fun m' hm' => nomatch hm')⟩
          | ioException => exact ⟨_, _, rfl, hreturns _ hsecond (fun m' hm' => nomatch hm')⟩
          | jsonException => exact ⟨_, _, rfl, hreturns _ hsecond (fun m' hm' => nomatch hm')⟩

variable (json block prefs now replies) in
theorem exists_course : ∃ result d,
    run (withAutoRefresh json block) ⟨prefs, now, replies, []⟩ = (result, d) ∧
      Course json block prefs now replies result d.sent.length d.prefs := by
  simp only [withAutoRefresh, Program.bind_eq, run_bind, run_perform, exec]
  cases h : getAccessToken prefs with
  | none => exact ⟨_, _, rfl, .signedOut h⟩
  | some token =>
      simp only [Program.tryCatch_eq, run_tryCatch, run_execute, List.length_nil]
      have hdirect (hpass : ∀ m, block.answer json (replies 0) = .error (.runtimeException m) →
          contains401 m = false) : ∀ r, block.answer json (replies 0) = r →
            Course json block prefs now replies r 1 prefs :=
        fun r hr => hr ▸ .direct h hpass
      cases hfirst : block.answer json (replies 0) with
      | ok a => exact ⟨_, _, rfl, hdirect (fun m hm => by simp [hfirst] at hm) _ hfirst⟩
      | error e =>
          have hother (he : ∀ m, e ≠ .runtimeException m) :
              Course json block prefs now replies (.error e) 1 prefs :=
            hdirect (fun m hm => absurd (Except.error.inj (hfirst.symm.trans hm)) (he m)) _ hfirst
          cases e with
          | sessionExpiredException => exact ⟨_, _, rfl, hother (fun m hm => nomatch hm)⟩
          | ioException => exact ⟨_, _, rfl, hother (fun m hm => nomatch hm)⟩
          | jsonException => exact ⟨_, _, rfl, hother (fun m hm => nomatch hm)⟩
          | runtimeException m =>
              cases hm : contains401 m with
              | false =>
                  simp only [hm, Bool.false_eq_true, not_false_eq_true, if_true]
                  refine ⟨_, _, rfl, hdirect (fun m' hm' => ?_) _ hfirst⟩
                  cases hfirst.symm.trans hm'
                  exact hm
              | true =>
                  simp only [hm, not_true_eq_false, if_false, run_bind, run_perform, exec, send]
                  cases hr : getRefreshToken prefs with
                  | none => exact ⟨_, _, rfl, .unrefreshable h hfirst hm hr⟩
                  | some refresh => exact course_of_repeatRefreshed h hfirst hm hr _

/-! ## Failures of authentication and other failures -/

variable (json block prefs replies) in
/-- What a request may do to the session: its outcome, the number of requests that were sent and
the preferences after it. -/
structure OnAuthenticationOnly (result : Except Throwable α) (requests : Nat)
    (prefs' : Preferences) : Prop where
  /-- The tokens are refreshed, and the request sent again, after a 401 only. -/
  repeats : 1 < requests → (replies 0).Unauthorized
  /-- The session is cleared when the refresh is refused or the second answer is a 401 again. -/
  clears : getAccessToken prefs ≠ none → getAccessToken prefs' = none →
    (replies 1).Refused ∨ requests = 3 ∧ (replies 2).Unauthorized
  /-- Another error of the request is passed on, and the session stays as it is. -/
  passes : getAccessToken prefs ≠ none → ¬(replies 0).Unauthorized →
    ∀ e, block.answer json (replies 0) = .error e → result = .error e ∧ prefs' = prefs
  /-- So is another error of the repeated request, with the session that was refreshed. -/
  passesRepeated : requests = 3 → ¬(replies 2).Unauthorized →
    ∀ e, block.answer json (replies 2) = .error e → result = .error e ∧ getAccessToken prefs' ≠ none

variable (json prefs replies) in
/-- No reply is taken for a failure of authentication that is none. -/
structure Unmistakable : Prop where
  /-- An error other than 401 does not have the digits of one anywhere. -/
  first : ∀ code text, replies 0 = .response code text → isSuccess code = false → code ≠ 401 →
    contains401 (message code text) = false
  /-- A refresh that fails is refused. -/
  refresh : (replies 0).Unauthorized → getRefreshToken prefs ≠ none →
    ∀ code text, replies 1 = .response code text → isSuccess code = false → (replies 1).Refused
  /-- A repeated request that fails is a 401 again. -/
  second : (replies 0).Unauthorized → getRefreshToken prefs ≠ none →
    ∀ data, decode json (replies 1) = .ok data →
      ∀ code text, replies 2 = .response code text → isSuccess code = false → code = 401

theorem isSuccess_of_refused {code : Int} (h : 400 ≤ code) : isSuccess code = false := by
  apply decide_eq_false
  omega

theorem Reply.Unauthorized.code_eq {r : Reply} (h : r.Unauthorized) {code : Int} {text : String}
    (hr : r = .response code text) : code = 401 := by
  obtain ⟨text', h⟩ := h
  cases h.symm.trans hr
  rfl

/-- Only what a 401 says can be a 401's message when nothing is mistaken. -/
theorem unauthorized_of_contains (hu : Unmistakable json prefs replies) {m : String}
    (hfirst : block.answer json (replies 0) = .error (.runtimeException m))
    (hm : contains401 m = true) : (replies 0).Unauthorized := by
  obtain ⟨code, text, hreply, hcode, rfl⟩ := answer_eq_runtimeException.mp hfirst
  by_cases h401 : code = 401
  · exact ⟨text, h401 ▸ hreply⟩
  · rw [hu.first code text hreply hcode h401] at hm
    cases hm

variable {result : Except Throwable α} {requests : Nat} {prefs' : Preferences}

theorem Course.onAuthenticationOnly
    (hc : Course json block prefs now replies result requests prefs')
    (hu : getAccessToken prefs ≠ none → Unmistakable json prefs replies) :
    OnAuthenticationOnly json block prefs replies result requests prefs' := by
  have hsigned {token : String} (h : getAccessToken prefs = some token) :
      getAccessToken prefs ≠ none := by simp [h]
  have hfailed {m : String} {r : Reply} (h : decode json r = .error (.runtimeException m)) :=
    decode_eq_runtimeException.mp h
  cases hc with
  | signedOut h =>
      exact ⟨fun hn => absurd hn (by decide), fun ht => absurd h ht, fun ht => absurd h ht,
        fun hn => absurd hn (by decide)⟩
  | direct h hpass =>
      exact ⟨fun hn => absurd hn (by decide), fun ht hnone => absurd hnone ht,
        fun _ _ e he => ⟨he, rfl⟩, fun hn => absurd hn (by decide)⟩
  | unrefreshable h hfirst hm hr =>
      have h401 := unauthorized_of_contains (hu (hsigned h)) hfirst hm
      exact ⟨fun hn => absurd hn (by decide), fun ht hnone => absurd hnone ht,
        fun _ hn => absurd h401 hn, fun hn => absurd hn (by decide)⟩
  | refused h hfirst hm hr hrefresh =>
      have h401 := unauthorized_of_contains (hu (hsigned h)) hfirst hm
      obtain ⟨code, text, hreply, hcode, -⟩ := hfailed hrefresh
      have hrefused := (hu (hsigned h)).refresh h401 (by simp [hr]) code text hreply hcode
      exact ⟨fun _ => h401, fun _ _ => .inl hrefused, fun _ hn => absurd h401 hn,
        fun hn => absurd hn (by decide)⟩
  | unrefreshed h hfirst hm hr hrefresh he =>
      have h401 := unauthorized_of_contains (hu (hsigned h)) hfirst hm
      exact ⟨fun _ => h401, fun ht hnone => absurd hnone ht, fun _ hn => absurd h401 hn,
        fun hn => absurd hn (by decide)⟩
  | repeated h hfirst hm hr hrefresh hsecond =>
      have h401 := unauthorized_of_contains (hu (hsigned h)) hfirst hm
      exact ⟨fun _ => h401, fun _ hnone => (nomatch hnone), fun _ hn => absurd h401 hn,
        fun _ _ e he => ⟨he, by simp⟩⟩
  | repeatedRefused h hfirst hm hr hrefresh hsecond =>
      have h401 := unauthorized_of_contains (hu (hsigned h)) hfirst hm
      obtain ⟨code, text, hreply, hcode, -⟩ := answer_eq_runtimeException.mp hsecond
      have h401' : (replies 2).Unauthorized :=
        ⟨text, (hu (hsigned h)).second h401 (by simp [hr]) _ hrefresh code text hreply hcode ▸ hreply⟩
      exact ⟨fun _ => h401, fun _ _ => .inr ⟨rfl, h401'⟩, fun _ hn => absurd h401 hn,
        fun _ hn => absurd h401' hn⟩

/-- A course that keeps to failures of authentication shows that nothing was mistaken. -/
theorem Course.unmistakable (hc : Course json block prefs now replies result requests prefs')
    (ha : OnAuthenticationOnly json block prefs replies result requests prefs')
    (ht : getAccessToken prefs ≠ none) : Unmistakable json prefs replies := by
  have hraises {r : Reply} {code : Int} {text : String} (hr : r = .response code text)
      (hcode : isSuccess code = false) :
      decode json r = .error (.runtimeException (message code text)) :=
    decode_eq_runtimeException.mpr ⟨code, text, hr, hcode, rfl⟩
  have hanswers {r : Reply} {code : Int} {text : String} (hr : r = .response code text)
      (hcode : isSuccess code = false) :
      block.answer json r = .error (.runtimeException (message code text)) :=
    answer_eq_runtimeException.mpr ⟨code, text, hr, hcode, rfl⟩
  have hafter (h401 : (replies 0).Unauthorized) (code : Int) (text : String)
      (hr : replies 0 = .response code text) (_ : isSuccess code = false) (hne : code ≠ 401) :
      contains401 (message code text) = false := absurd (h401.code_eq hr) hne
  cases hc with
  | signedOut h => exact absurd h ht
  | direct h hpass =>
      have hno401 : ¬(replies 0).Unauthorized := by
        rintro ⟨text, hr⟩
        have hfalse := hpass _ (hanswers hr (isSuccess_of_refused (by decide)))
        rw [contains401_message] at hfalse
        cases hfalse
      exact ⟨fun code text hr hcode _ => hpass _ (hanswers hr hcode),
        fun h401 => absurd h401 hno401, fun h401 => absurd h401 hno401⟩
  | unrefreshable h hfirst hm hr =>
      refine ⟨fun code text hreply hcode hne => ?_, fun _ hrefresh => absurd hr hrefresh,
        fun _ hrefresh => absurd hr hrefresh⟩
      have hno401 : ¬(replies 0).Unauthorized := fun h401 => hne (h401.code_eq hreply)
      cases (ha.passes ht hno401 _ (hanswers hreply hcode)).1
  | refused h hfirst hm hr hrefresh =>
      have h401 := ha.repeats (by decide)
      refine ⟨hafter h401, fun _ _ code text hreply hcode => ?_, fun _ _ data hdata => ?_⟩
      · rcases ha.clears ht rfl with hrefused | ⟨hthree, -⟩
        · exact hrefused
        · exact absurd hthree (by decide)
      · cases hrefresh.symm.trans hdata
  | unrefreshed h hfirst hm hr hrefresh he =>
      have h401 := ha.repeats (by decide)
      refine ⟨hafter h401, fun _ _ code text hreply hcode => ?_, fun _ _ data hdata => ?_⟩
      · cases hrefresh.symm.trans (hraises hreply hcode)
        exact absurd rfl (he _)
      · cases hrefresh.symm.trans hdata
  | repeated h hfirst hm hr hrefresh hsecond =>
      have h401 := ha.repeats (by decide)
      refine ⟨hafter h401, fun _ _ code text hreply hcode => ?_,
        fun _ _ data hdata code text hreply hcode => ?_⟩
      · cases hrefresh.symm.trans (hraises hreply hcode)
      · exact absurd (hanswers hreply hcode) (hsecond _)
  | repeatedRefused h hfirst hm hr hrefresh hsecond =>
      have h401 := ha.repeats (by decide)
      refine ⟨hafter h401, fun _ _ code text hreply hcode => ?_,
        fun _ _ data hdata code text hreply hcode => ?_⟩
      · cases hrefresh.symm.trans (hraises hreply hcode)
      · rcases ha.clears ht rfl with ⟨code', text', hreply', hle, -⟩ | ⟨-, h401'⟩
        · cases hrefresh.symm.trans (hraises hreply' (isSuccess_of_refused hle))
        · exact h401'.code_eq hreply

/-- A request reacts to failures of authentication only, exactly if no reply can be mistaken. -/
theorem reacts_to_authentication_only : ∃ result d,
    run (withAutoRefresh json block) ⟨prefs, now, replies, []⟩ = (result, d) ∧
      (OnAuthenticationOnly json block prefs replies result d.sent.length d.prefs ↔
        (getAccessToken prefs ≠ none → Unmistakable json prefs replies)) := by
  obtain ⟨result, d, hrun, hcourse⟩ := exists_course json block prefs now replies
  exact ⟨result, d, hrun, hcourse.unmistakable, hcourse.onAuthenticationOnly⟩

end

/-! ## A payment that is sent twice -/

namespace Mistaken

def json : JSONObject Json where
  parse text := if text = "refreshed" then some [("app_access_token", some "t2")] else none
  optString data key default :=
    match data.get? key with
    | some (some value) => value
    | some none => "null"
    | none => default
  toString fields := String.join (fields.map fun field => field.1 ++ "=" ++ field.2)

def payment : Block Json (String × String) where
  request token := .post "/payment"
    (json.toString [("session_id", "s-1"), ("amount", "14010"), ("currency", "KRW")]) (some token)
  result data :=
    match data.get "tx_id", data.get "approval_no" with
    | some txId, some approvalNo => some (txId, approvalNo)
    | _, _ => none

def prefs : Preferences :=
  ParkingStateManager.saveTokens (fun _ => none) 0 "t1" "r1"

def replies : Nat → Reply
  | 1 => .response 200 "refreshed"
  | _ => .response 422 "\x7b\"detail\":[\x7b\"input\":14010\x7d]\x7d"

/-- The payment is sent again, and the session is gone. -/
theorem not_onAuthenticationOnly : ∃ result d,
    run (withAutoRefresh json payment) ⟨prefs, 0, replies, []⟩ = (result, d) ∧
      d.sent.length = 3 ∧ getAccessToken d.prefs = none ∧
        ¬OnAuthenticationOnly json payment prefs replies result d.sent.length d.prefs := by
  refine ⟨_, _, rfl, by decide +kernel, by decide +kernel, fun h => ?_⟩
  obtain ⟨text, ht⟩ := h.repeats (by decide +kernel)
  cases ht

end Mistaken

end CarPayIn.App
