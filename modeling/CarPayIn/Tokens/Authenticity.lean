import CarPayIn.Tokens.Codec

/-! # Whose claims a token carries

A signature that was not forged belongs to a payload that the codec has issued,
and the payload is read as the claims it was written from.
-/

namespace CarPayIn.SignedTokenCodec

open Encoding

variable {F : Type} [DecidableEq F] {sha256 : Sha256} {codec : SignedTokenCodec}
  {fmt : FloatFormat F}

/-! ## Base64 without padding -/

/-- What is written is ASCII without a dot, and is read as what was written. -/
theorem b64encode_spec (value : Bytes) :
    46 ∉ b64encode value ∧ (∀ c ∈ b64encode value, c < 128) ∧
      b64decode (b64encode value) = some value := by
  obtain ⟨body, hbody, hsafe, hdecode⟩ := urlsafeB64decode_rstripPad value
  have hencode : b64encode value = decodeAscii body := congrArg decodeAscii hbody
  have hchar : ∀ b ∈ body, 46 ≠ b.toNat ∧ b.toNat < 128 := by
    intro b hb
    obtain ⟨v, hv, rfl⟩ := hsafe b hb
    obtain ⟨-, hdot, hascii, -⟩ := toUrlSafe_base64Char v hv
    exact ⟨hdot, hascii⟩
  have hpadded : ∀ b ∈ body ++ List.replicate ((4 - body.length % 4) % 4) pad, b.toNat < 128 := by
    intro b hb
    rcases List.mem_append.mp hb with hb | hb
    · exact (hchar b hb).2
    · rw [List.eq_of_mem_replicate hb]
      decide
  refine ⟨?_, ?_, ?_⟩
  · intro hdot
    rw [hencode] at hdot
    obtain ⟨b, hb, heq⟩ := List.mem_map.mp hdot
    exact (hchar b hb).1 heq.symm
  · intro c hc
    rw [hencode] at hc
    obtain ⟨b, hb, rfl⟩ := List.mem_map.mp hc
    exact (hchar b hb).2
  · have hpadding : decodeAscii body ++ List.replicate ((4 - body.length % 4) % 4) 61 =
        decodeAscii (body ++ List.replicate ((4 - body.length % 4) % 4) pad) := by
      rw [decodeAscii, decodeAscii, List.map_append, List.map_replicate]
      rfl
    rw [hencode, b64decode]
    simp only [decodeAscii, List.length_map] at hpadding ⊢
    rw [hpadding]
    exact Option.bind_eq_some_iff.mpr ⟨_, encodeAscii_decodeAscii hpadded, hdecode⟩

/-! ## What is issued -/

theorem encodedPayload_spec {call : IssueCall F} {encoded : Text}
    (h : encodedPayload fmt call = some encoded) :
    ∃ json, dumps fmt .compact (.dict call.payload) = some json ∧
      encoded = b64encode (json.map UInt8.ofNat) ∧ ∀ c ∈ json, 0 < c ∧ c < 128 := by
  obtain ⟨json, hjson, hencoded⟩ := Option.bind_eq_some_iff.mp h
  have hplain : ∀ c ∈ json, 0 < c ∧ c < 128 := by
    unfold dumps at hjson
    split at hjson
    · cases hjson
      intro c hc
      have := plain_encode fmt .compact _ c hc
      omega
    · cases hjson
  obtain ⟨bytes, hbytes, heq⟩ := Option.bind_eq_some_iff.mp hencoded
  rw [encodeUtf8_ascii fun c hc => (hplain c hc).2] at hbytes
  cases hbytes
  cases heq
  exact ⟨json, hjson, rfl, hplain⟩

theorem issue_spec {call : IssueCall F} {token : Text}
    (h : codec.issue sha256 fmt call = some token) : ∃ encoded signature,
      encodedPayload fmt call = some encoded ∧ codec.sign sha256 encoded = some signature ∧
        token = encoded ++ 46 :: signature := by
  obtain ⟨encoded, hencoded, h⟩ := Option.bind_eq_some_iff.mp h
  obtain ⟨signature, hsignature, h⟩ := Option.bind_eq_some_iff.mp h
  cases h
  exact ⟨encoded, signature, hencoded, hsignature, rfl⟩

omit [DecidableEq F] in
theorem valid_payload (call : IssueCall F) : (Value.dict call.payload).Valid := by
  have htyped := call.valid.put (isText_text "typ") (.str call.isText)
  exact htyped.put (isText_text "exp") .int

/-! ## What is read -/

omit [DecidableEq F] in
theorem sameDigest_self {encoded signature : Text}
    (h : codec.sign sha256 encoded = some signature) :
    sameDigest signature signature = some true := by
  obtain ⟨message, -, h⟩ := Option.bind_eq_some_iff.mp h
  cases h
  have hascii : ∀ c ∈ text (hexdigest (sha256.hmac (CarPayIn.encode codec.secret) message)),
      c < 128 := by
    intro c hc
    obtain ⟨d, hd, rfl⟩ := List.mem_map.mp hc
    exact isascii_iff.mp (hexdigest_isascii _) d hd
  unfold sameDigest encodeAscii
  rw [if_pos (List.all_eq_true.mpr fun c hc => decide_eq_true (hascii c hc))]
  simp

omit [DecidableEq F] in
theorem sameDigest_eq {a b : Text} (h : sameDigest a b = some true) : a = b := by
  obtain ⟨a', ha, h⟩ := Option.bind_eq_some_iff.mp h
  obtain ⟨b', hb, h⟩ := Option.bind_eq_some_iff.mp h
  have heq : a' = b' := by simpa using h
  rw [← decodeAscii_encodeAscii ha, ← decodeAscii_encodeAscii hb, heq]

theorem decode_issued {call : IssueCall F} {token : Text}
    (h : codec.issue sha256 fmt call = some token) :
    codec.decode sha256 fmt token = some (json .compact (.dict call.payload)) := by
  obtain ⟨encoded, signature, hencoded, hsignature, rfl⟩ := issue_spec h
  obtain ⟨json, hjson, rfl, hplain⟩ := encodedPayload_spec hencoded
  obtain ⟨hdot, -, hdecode⟩ := b64encode_spec (json.map UInt8.ofNat)
  have hbytes : (json.map UInt8.ofNat).map UInt8.toNat = json :=
    decodeAscii_map fun c hc => (hplain c hc).2
  have hread := loads_dumps fmt .compact (valid_payload call) hjson
  unfold decode
  simp only [splitOnce_append hdot, Option.bind_eq_bind, Option.bind_some, hsignature,
    sameDigest_self hsignature, hdecode, hbytes, decodeDetected_ascii hplain, hread,
    not_true_eq_false, if_false]

/-! ## What is accepted -/

variable (sha256 codec fmt) in
/-- A payload that comes with its signature is one that the codec has signed. -/
def Unforged (history : List (IssueCall F)) (token : Text) : Prop :=
  ∀ encoded signature, splitOnce 46 token = some (encoded, signature) →
    codec.sign sha256 encoded = some signature →
      ∃ call ∈ history, encodedPayload fmt call = some encoded

theorem decode_authentic {history : List (IssueCall F)} {token : Text} {v : Value F}
    (hunforged : codec.Unforged sha256 fmt history token)
    (h : codec.decode sha256 fmt token = some v) :
    ∃ call ∈ history, codec.issue sha256 fmt call = some token ∧
      v = json .compact (.dict call.payload) := by
  have hdecode := h
  obtain ⟨⟨encoded, signature⟩, hsplit, h⟩ := Option.bind_eq_some_iff.mp h
  obtain ⟨expected, hsign, h⟩ := Option.bind_eq_some_iff.mp h
  obtain ⟨same, hsame, h⟩ := Option.bind_eq_some_iff.mp h
  cases same with
  | false => simp at h
  | true =>
      cases sameDigest_eq hsame
      obtain ⟨call, hcall, hencoded⟩ := hunforged encoded signature hsplit hsign
      have hissue : codec.issue sha256 fmt call = some token := by
        rw [(splitOnce_eq_some hsplit).1, issue, hencoded]
        simp [hsign]
      refine ⟨call, hcall, hissue, ?_⟩
      rw [decode_issued hissue] at hdecode
      exact (Option.some.inj hdecode).symm

/-! ## Type and time -/

omit [DecidableEq F] in
/-- A key of the first plane is read from the entry that it was written to. -/
theorem get?_json {es : List (Text × Value F)} {d : List (Text × Value F)} {key : String}
    {v : Value F} (hd : json .compact (.dict es) = .dict d) (hes : (es.map Prod.fst).Nodup)
    (hkey : ∀ c ∈ text key, c < 0x10000) (hmem : (text key, v) ∈ es) :
    get? d (text key) = some (json .compact v) := by
  rw [json_dict] at hd
  cases hd
  apply get?_dictOf
  · apply List.mem_map.mpr
    exact ⟨(text key, v), (Style.mem_order _).mpr hmem, by rw [joinPairs_text]⟩
  · intro e he hjoined
    obtain ⟨e, hmem', rfl⟩ := List.mem_map.mp he
    have hmem' := (Style.mem_order _).mp hmem'
    have hplane : ∀ c ∈ joinPairs e.1, c < 0x10000 := fun c hc => hkey c (hjoined ▸ hc)
    have hsame : e.1 = text key := (joinPairs_eq_of_plane hplane).symm.trans hjoined
    have hvalue := List.inj_on_of_nodup_map hes hmem' hmem hsame
    rw [hvalue]

omit [DecidableEq F] in
/-- Type and expiry overwrite claims of the same names. -/
theorem mem_payload (call : IssueCall F) :
    (text "typ", .str call.tokenType) ∈ call.payload ∧
      (text "exp", .int call.exp) ∈ call.payload := by
  have hne : text "exp" ≠ text "typ" := by decide
  constructor
  · apply mem_of_get?
    rw [IssueCall.payload, get?_put, if_neg hne, get?_put, if_pos rfl]
  · apply mem_of_get?
    rw [IssueCall.payload, get?_put, if_pos rfl]

omit [DecidableEq F] in
theorem json_payload (call : IssueCall F) : ∃ d, json .compact (.dict call.payload) = .dict d ∧
    get? d (text "typ") = some (.str (joinPairs call.tokenType)) ∧
      get? d (text "exp") = some (.int call.exp) := by
  have hvalid := valid_payload call
  obtain ⟨htyp, hexp⟩ := mem_payload call
  cases hvalid with
  | dict hkeys htexts hes =>
      refine ⟨_, json_dict .compact call.payload, ?_, ?_⟩
      · have htypPlane : ∀ c ∈ text "typ", c < 0x10000 := by decide
        rw [get?_json (json_dict ..) hkeys htypPlane htyp]
        rw [json.eq_def]
      · have hexpPlane : ∀ c ∈ text "exp", c < 0x10000 := by decide
        rw [get?_json (json_dict ..) hkeys hexpPlane hexp]
        rw [json.eq_def]

/-- An issued token is accepted under its own type until it expires. -/
theorem validate_issued {call : IssueCall F} {token : Text}
    (h : codec.issue sha256 fmt call = some token) (tokenType : Text) (expiredCode : String)
    (now : Int) : codec.validate sha256 fmt token tokenType expiredCode now =
      if joinPairs call.tokenType ≠ tokenType then .error (.valueError "invalid_token")
      else if call.exp ≤ now then .error (.valueError expiredCode)
      else .ok (json .compact (.dict call.payload)) := by
  obtain ⟨d, hd, htyp, hexp⟩ := json_payload call
  unfold validate
  rw [decode_issued h, hd]
  simp only [htyp, hexp, equalsText, Option.getD_some, toInt]
  by_cases htype : joinPairs call.tokenType = tokenType
  · simp only [htype, decide_true, not_true_eq_false, if_false, ne_eq]
    by_cases hnow : call.exp ≤ now
    · rw [if_pos hnow]
      exact if_pos hnow
    · rw [if_neg hnow]
      exact if_neg hnow
  · simp only [htype, decide_false, Bool.false_eq_true, not_false_eq_true, if_true, ne_eq]
    rfl

/-- A token is accepted with the claims of a call that issued it under this type and has not
expired, or it is refused with one of two codes; and what was issued is accepted under its own
type until it expires. Claims are read as their JSON text has them. -/
theorem validate_authentic (sha256 : Sha256) (codec : SignedTokenCodec) (fmt : FloatFormat F)
    (history : List (IssueCall F)) :
    (∀ token tokenType expiredCode now, codec.Unforged sha256 fmt history token →
      (∃ call ∈ history, codec.issue sha256 fmt call = some token ∧
        joinPairs call.tokenType = tokenType ∧ now < call.exp ∧
          codec.validate sha256 fmt token tokenType expiredCode now =
            .ok (json .compact (.dict call.payload))) ∨
      codec.validate sha256 fmt token tokenType expiredCode now = .error (.valueError expiredCode) ∨
      codec.validate sha256 fmt token tokenType expiredCode now =
        .error (.valueError "invalid_token")) ∧
    (∀ call ∈ history, ∀ token, codec.issue sha256 fmt call = some token →
      ∀ expiredCode now, now < call.exp →
        codec.validate sha256 fmt token (joinPairs call.tokenType) expiredCode now =
          .ok (json .compact (.dict call.payload))) ∧
    ∀ call ∈ history, Whole (.dict call.payload) →
      json .compact (.dict call.payload) = sorted .compact (.dict call.payload) := by
  refine ⟨?_, ?_, ?_⟩
  · intro token tokenType expiredCode now hunforged
    cases hdecode : codec.decode sha256 fmt token with
    | none =>
        right
        right
        unfold validate
        rw [hdecode]
        rfl
    | some v =>
        obtain ⟨call, hcall, hissue, -⟩ := decode_authentic hunforged hdecode
        rw [validate_issued hissue]
        by_cases htype : joinPairs call.tokenType = tokenType
        · rw [if_neg (not_not.mpr htype)]
          by_cases hnow : call.exp ≤ now
          · rw [if_pos hnow]
            exact .inr (.inl rfl)
          · rw [if_neg hnow]
            exact .inl ⟨call, hcall, hissue, htype, Int.not_le.mp hnow, rfl⟩
        · rw [if_pos htype]
          exact .inr (.inr rfl)
  · intro call _ token hissue expiredCode now hnow
    rw [validate_issued hissue, if_neg (not_not.mpr rfl), if_neg (Int.not_le.mpr hnow)]
  · intro call _ hwhole
    exact json_of_whole .compact (valid_payload call) hwhole

def tempPayload : String :=
  "eyJleHAiOjE3MzU2OTA1MDAsInNlc3Npb25faWQiOiJzZXNzLTEiLCJ0eXAi" ++
    "OiJ0ZW1wX2FjY2VzcyIsInVzZXJfaWQiOiJ1c2VyLTEifQ"

def pairPayload : String :=
  "eyJleHAiOjE3MzU2OTA1MDAsInNlc3Npb25faWQiOiJcdWQ4M2RcdWRlMDAi" ++
    "LCJ0eXAiOiJ0ZW1wX2FjY2VzcyIsInVzZXJfaWQiOiJ1c2VyLTEifQ"

/-- The signatures of the two payloads under the secret of a local installation. -/
def tokenDigests : Sha256 where
  digest _ := []
  hmac key message :=
    if key ≠ CarPayIn.encode "carpayin-dev-token-secret" then []
    else if message = CarPayIn.encode tempPayload then
      [179, 210, 219, 39, 21, 125, 128, 26, 7, 30, 236, 44, 20, 172, 39, 183, 54, 62, 139, 108,
        112, 70, 136, 141, 245, 70, 122, 48, 87, 154, 65, 30]
    else if message = CarPayIn.encode pairPayload then
      [99, 28, 9, 131, 33, 117, 119, 185, 217, 192, 173, 184, 66, 167, 145, 137, 133, 151, 46, 114,
        208, 21, 121, 254, 89, 204, 94, 87, 170, 153, 88, 102]
    else []

def localCodec : SignedTokenCodec := ⟨"carpayin-dev-token-secret"⟩

def tempCall : IssueCall Unit := TempAccessTokenIssuer.call "user-1" "sess-1" 1735689600

def tempToken : Text :=
  text (tempPayload ++ ".b3d2db27157d801a071eec2c14ac27b7363e8b6c7046888df5467a30579a411e")

theorem validate_authentic_temp :
    localCodec.issue tokenDigests noFloats tempCall = some tempToken ∧
    (∃ call ∈ [tempCall], localCodec.issue tokenDigests noFloats call = some tempToken ∧
      joinPairs call.tokenType = text "temp_access" ∧ 1735689700 < call.exp ∧
        localCodec.validate tokenDigests noFloats tempToken (text "temp_access")
          "temp_token_expired" 1735689700 = .ok (json .compact (.dict call.payload))) ∧
    localCodec.validate tokenDigests noFloats tempToken (joinPairs tempCall.tokenType)
      "temp_token_expired" 1735689700 = .ok (json .compact (.dict tempCall.payload)) := by
  have hissue : localCodec.issue tokenDigests noFloats tempCall = some tempToken := by
    decide +kernel
  have hunforged : localCodec.Unforged tokenDigests noFloats [tempCall] tempToken := by
    intro encoded signature hsplit _
    obtain ⟨encoded', signature', hencoded, -, htoken⟩ := issue_spec hissue
    obtain ⟨json, -, rfl, -⟩ := encodedPayload_spec hencoded
    rw [htoken, splitOnce_append (b64encode_spec _).1] at hsplit
    cases hsplit
    exact ⟨tempCall, List.mem_singleton_self _, hencoded⟩
  obtain ⟨haccepted, hissued, -⟩ := validate_authentic tokenDigests localCodec noFloats [tempCall]
  have hok := hissued tempCall (List.mem_singleton_self _) tempToken hissue "temp_token_expired"
    1735689700 (by decide)
  refine ⟨hissue, ?_, hok⟩
  have htype : joinPairs tempCall.tokenType = text "temp_access" := joinPairs_text "temp_access"
  rw [htype] at hok
  rcases haccepted tempToken (text "temp_access") "temp_token_expired" 1735689700 hunforged with
    h | h | h
  · exact h
  · rw [hok] at h
    cases h
  · rw [hok] at h
    cases h

/-- The session id is the two halves of a surrogate pair. -/
def pairClaims : List (Text × Value Unit) :=
  [(text "user_id", str "user-1"), (text "session_id", .str [0xD83D, 0xDE00])]

theorem pairClaims_valid : (Value.dict pairClaims).Valid := by
  have hpair : IsText [0xD83D, 0xDE00] := by
    intro c hc
    simp only [List.mem_cons, List.not_mem_nil, or_false] at hc
    omega
  apply Value.Valid.dict
  · decide
  · simp [pairClaims, isText_text]
  · simp only [pairClaims, List.forall_mem_cons, List.not_mem_nil, false_implies, implies_true,
      and_true]
    exact ⟨.str (isText_text _), .str hpair⟩

def pairCall : IssueCall Unit where
  tokenType := text "temp_access"
  ttlSeconds := 900
  claims := pairClaims
  now := 1735689600
  isText := isText_text _
  valid := pairClaims_valid
  positive := by decide

/-- The pair comes back as the character that it stands for. -/
theorem pair_not_exact : ∃ token d,
    localCodec.issue tokenDigests noFloats pairCall = some token ∧
    localCodec.validate tokenDigests noFloats token (text "temp_access") "temp_token_expired"
      1735689700 = .ok (.dict d) ∧
    get? pairCall.payload (text "session_id") = some (.str [0xD83D, 0xDE00]) ∧
    get? d (text "session_id") = some (.str [0x1F600]) ∧ ¬d.Perm pairCall.payload := by
  have hissue : (localCodec.issue tokenDigests noFloats pairCall).isSome = true := by
    decide +kernel
  obtain ⟨token, hissue⟩ := Option.isSome_iff_exists.mp hissue
  obtain ⟨d, hd, -⟩ := json_payload pairCall
  have htype : joinPairs pairCall.tokenType = text "temp_access" := joinPairs_text "temp_access"
  have hvalidate := validate_issued hissue (text "temp_access") "temp_token_expired" 1735689700
  rw [if_neg (not_not.mpr htype), if_neg (by decide), hd] at hvalidate
  have hkeys : (pairCall.payload.map Prod.fst).Nodup := by decide +kernel
  have hplane : ∀ c ∈ text "session_id", c < 0x10000 := by decide
  have hmem : (text "session_id", Value.str [0xD83D, 0xDE00]) ∈ pairCall.payload := by
    have htyp : text "typ" ∉ pairCall.claims.map Prod.fst := by decide
    rw [IssueCall.payload, put_of_notMem htyp, put_of_notMem (by decide)]
    exact List.mem_append_left _ (List.mem_append_left _ (.tail _ (.head _)))
  have hget := get?_json hd hkeys hplane hmem
  rw [json.eq_def] at hget
  refine ⟨token, d, hissue, hvalidate, get?_of_mem hkeys hmem, hget, ?_⟩
  intro hperm
  have hsame := get?_of_mem hkeys (hperm.mem_iff.mp (mem_of_get? hget))
  rw [get?_of_mem hkeys hmem] at hsame
  cases hsame

end CarPayIn.SignedTokenCodec
