/-
**The token of the browser** (`parseJWTToCredentials` of `plugins/browser_auth.c`).

A token is a header, a payload and a signature, separated by dots. The payload is JSON in the base64 encoding for
addresses; `b64_decode` and `cJSON_Parse` are parameters (`JwtLibs`).

* `parseJwt_eq`: what a call does, from the JSON text that it hands to the parser.
* `parseJwt_payload_iff`: when this text is the payload, and the whole token is stored.
* `checkExpiration_iff`: when the time of expiration is taken as it is.
-/

import MaOdbc.Library.Base64
import MaOdbc.Stmt.Error

namespace MaOdbc

open List

namespace BrowserAuth

inductive JsonItem
  | string (value : Text)
  | number (valueint : Int32)
  | other

/-- An object that `cJSON_Parse` has read: what `cJSON_GetObjectItem` finds. -/
structure JsonObject where
  item : Text → Option JsonItem

/-- An integer as cJSON stores it in `valueint`. -/
def JsonItem.ofInt (value : Int) : JsonItem := .number (Int32.ofInt (max (-2 ^ 31) (min value (2 ^ 31 - 1))))

/-- The libraries. `cJsonParse` is `none` for a text that is no object. -/
structure JwtLibs where
  b64Decode : Text → Option Text
  inverts : ∀ bytes, b64Decode (base64 bytes) = some bytes
  cJsonParse : Text → Option JsonObject

/-- `BrowserAuthCredentials`. -/
structure Credentials where
  token : Option Text := none
  username : Option Text := none
  email : Option Text := none
  expiration : Int64 := 0

inductive JwtFailure
  | onlyHeader
  | onlyPayload
  | noBase64
  | noJson
  | noString (fieldName : Text)
  | noInt (fieldName : Text)

/-- The error that `MADB_SetError` is called with. -/
def JwtFailure.error : JwtFailure → Diag
  | onlyHeader => .setError .errS1000
      (some (lit "Failed to parse browser authentication credentials: JWT contains only header")) 0
  | onlyPayload => .setError .errS1000
      (some (lit "Failed to parse browser authentication credentials: JWT contains only header and payload")) 0
  | noBase64 => .setError .errS1000 (some (lit "Failed to parse base64 string for browser authentication")) 0
  | noJson => .setError .errS1000 (some (lit "Failed to parse JSON string for browser authentication")) 0
  | noString fieldName => .setError .err28000
      (some (lit "Failed to get the following string field from decoded JWT: " ++ fieldName)) 0
  | noInt fieldName => .setError .err28000
      (some (lit "Failed to get the following int field from decoded JWT: " ++ fieldName)) 0

/-- `getJsonStringField`, without the error. -/
def getJsonStringField (json : JsonObject) (fieldName : Text) : Option Text :=
  match json.item fieldName with
  | some (.string value) => some value
  | _ => none

/-- `getJsonIntField`, without the error. -/
def getJsonIntField (json : JsonObject) (fieldName : Text) : Option Int64 :=
  match json.item fieldName with
  | some (.number valueint) => some valueint.toInt64
  | _ => none

/-- `parseCredentialsFromJson`: the credentials as far as they were filled in, and the error. -/
def parseCredentialsFromJson (json : JsonObject) (jwt : Text) : Credentials × Option JwtFailure :=
  match getJsonStringField json (lit "email") with
  | none => ({}, some (.noString (lit "email")))
  | some email =>
    match getJsonIntField json (lit "exp") with
    | none => ({ email := email }, some (.noInt (lit "exp")))
    | some expiration =>
      match (getJsonStringField json (lit "username")).or (getJsonStringField json (lit "sub")) with
      | none => ({ email := email, expiration := expiration }, some (.noString (lit "sub")))
      | some username => ({ token := jwt, username := username, email := email, expiration := expiration }, none)

/-- A digit of the encoding for addresses in the standard alphabet. -/
def fromUrl (byte : Byte) : Byte := if byte = ch '-' then ch '+' else if byte = ch '_' then ch '/' else byte

/-- The loop that copies the payload, and fills it up to a multiple of four. -/
def toBase64 (base64URL : Text) : Text :=
  base64URL.map fromUrl ++ List.replicate ((base64URL.length + 3) / 4 * 4 - base64URL.length) (ch '=')

def tokenAt (memory : Text) (tokenLen : Option Nat) : Text :=
  let token := cstr (tokenLen.elim memory memory.take)
  if token = [] then cstr memory else token

namespace JwtLibs

variable (libs : JwtLibs)

def jsonText (token : Text) : Except JwtFailure Text :=
  match strchr token (ch '.') with
  | none => .error .onlyHeader
  | some header =>
    let rest := token.drop (header + 1)
    match strchr rest (ch '.') with
    | none => .error .onlyPayload
    | some payload =>
      match libs.b64Decode (toBase64 (rest.take payload)) with
      | none => .error .noBase64
      | some bytes => .ok (cstr bytes)

def parseToken (token : Text) (credentials : Credentials) : Credentials × Option JwtFailure :=
  match libs.jsonText token with
  | .error failure => (credentials, some failure)
  | .ok text =>
    match libs.cJsonParse text with
    | none => (credentials, some .noJson)
    | some json => parseCredentialsFromJson json token

/-- `parseJWTToCredentials`. It returns the code of the error record, whatever was in it before. -/
def parseJwtToCredentials (memory : Text) (tokenLen : Option Nat) (error : Diag) (credentials : Credentials) :
    Diag × Credentials :=
  match libs.parseToken (tokenAt memory tokenLen) credentials with
  | (credentials, none) => (error, credentials)
  | (credentials, some failure) => (failure.error, credentials)

end JwtLibs

/-- `CheckExpiration`. -/
def checkExpiration (currentTime expiration : Int64) : Bool := currentTime + 1 > expiration

/-! ### The payload -/

theorem toBase64_base64Url (bytes : Text) : toBase64 (base64Url bytes) = base64 bytes := by
  have back : (base64Url bytes).map fromUrl = base64Digits bytes := by
    have digits : ∀ digit ∈ base64Digits bytes, (fromUrl ∘ toUrl) digit = digit :=
      forall_mem_base64Digits (by decide) bytes
    rw [base64Url, map_map]
    exact (map_congr_left digits).trans (map_id' _)
  have length : (base64Url bytes).length = (4 * bytes.length + 2) / 3 := by
    rw [base64Url, length_map, length_base64Digits]
  have padding : ((4 * bytes.length + 2) / 3 + 3) / 4 * 4 - (4 * bytes.length + 2) / 3 =
      (3 - bytes.length % 3) % 3 := by
    obtain ⟨groups, left, small, split⟩ : ∃ groups left, left < 3 ∧ bytes.length = 3 * groups + left :=
      ⟨_, _, Nat.mod_lt _ (by decide), (Nat.div_add_mod _ 3).symm⟩
    rw [split]
    obtain rfl | rfl | rfl : left = 0 ∨ left = 1 ∨ left = 2 := by omega
    · omega
    · omega
    · omega
  rw [toBase64, back, length, base64, padding]

theorem apart_base64Url (bytes : Text) : ch '.' ∉ base64Url bytes ∧ 0 ∉ base64Url bytes := by
  have digits : ∀ digit ∈ base64Digits bytes, toUrl digit ≠ ch '.' ∧ toUrl digit ≠ 0 :=
    forall_mem_base64Digits (by decide) bytes
  constructor
  · intro member
    obtain ⟨digit, here, same⟩ := mem_map.mp member
    exact (digits digit here).1 same
  · intro member
    obtain ⟨digit, here, same⟩ := mem_map.mp member
    exact (digits digit here).2 same

def jwt (header payload signature : Text) : Text :=
  header ++ ch '.' :: (base64Url payload ++ ch '.' :: signature)

theorem jsonText_jwt (libs : JwtLibs) {header : Text} (dotFree : ch '.' ∉ header) (payload signature : Text) :
    libs.jsonText (jwt header payload signature) = .ok (cstr payload) := by
  have rest : (jwt header payload signature).drop (header.length + 1) =
      base64Url payload ++ ch '.' :: signature := by
    rw [jwt, drop_length_add_append]
    rfl
  rw [JwtLibs.jsonText, show strchr (jwt header payload signature) (ch '.') = _ from strchr_append_cons dotFree _]
  dsimp only
  rw [rest, strchr_append_cons (apart_base64Url payload).1]
  dsimp only
  rw [take_left, toBase64_base64Url, libs.inverts]

theorem cstr_jwt {header : Text} (nulFree : 0 ∉ header) (payload signature : Text) :
    cstr (jwt header payload signature) = jwt header payload (cstr signature) := by
  have inner := cstr_append (apart_base64Url payload).2 (ch '.' :: signature)
  have first : cstr (ch '.' :: (base64Url payload ++ ch '.' :: signature)) = _ := takeWhile_cons_of_pos (by decide)
  have second : cstr (ch '.' :: signature) = _ := takeWhile_cons_of_pos (by decide)
  rw [jwt, cstr_append nulFree, first, ← cstr, inner, second]
  rfl

def Gives (token memory : Text) : Option Nat → Prop
  | some tokenLen => tokenLen = token.length ∧ token <+: memory
  | none => token ++ [0] <+: memory

theorem tokenAt_of_gives {token memory : Text} {tokenLen : Option Nat} (gives : Gives token memory tokenLen)
    (nonempty : token ≠ []) : tokenAt memory tokenLen = cstr token := by
  cases tokenLen with
  | some tokenLen =>
    obtain ⟨rfl, after, rfl⟩ := gives
    show (if cstr ((token ++ after).take token.length) = [] then _ else cstr ((token ++ after).take token.length)) = _
    rw [take_left]
    split
    · rename_i empty
      have nul : 0 ∈ token := by
        by_contra nulFree
        exact nonempty ((cstr_of_nulFree nulFree).symm.trans empty)
      exact cstr_append_of_nul nul after
    · rfl
  | none =>
    obtain ⟨after, rfl⟩ := gives
    have whole : cstr (token ++ [0] ++ after) = cstr token := by
      rcases cstr_cases token with ⟨nulFree, same⟩ | ⟨rest, split⟩
      · rw [append_assoc, same]
        exact cstr_append_nul nulFree after
      · have nul : 0 ∈ token := by
          rw [split]
          exact mem_append_right _ mem_cons_self
        rw [append_assoc, cstr_append_of_nul nul]
    exact (ite_self _).trans whole

/-! ### A call -/

theorem JwtFailure.returnValue_error (failure : JwtFailure) : failure.error.returnValue = .error := by
  cases failure <;> rfl

theorem parseCredentialsFromJson_token (json : JsonObject) (token : Text) :
    (parseCredentialsFromJson json token).2 = (parseCredentialsFromJson json []).2 ∧
      (parseCredentialsFromJson json token).1.token =
        if (parseCredentialsFromJson json token).2.isNone then some token else none := by
  rw [parseCredentialsFromJson, parseCredentialsFromJson]
  split
  · exact ⟨rfl, rfl⟩
  · split
    · exact ⟨rfl, rfl⟩
    · split
      · exact ⟨rfl, rfl⟩
      · exact ⟨rfl, rfl⟩

namespace JwtLibs

variable (libs : JwtLibs)

/-- The JSON parser takes a text for an object with all fields. -/
def Accepts (text : Text) : Prop :=
  ∃ json, libs.cJsonParse text = some json ∧ (parseCredentialsFromJson json []).2 = none

def credentialsOf (token : Text) : Option Credentials :=
  match libs.parseToken token {} with
  | (credentials, none) => some credentials
  | (_, some _) => none

variable {libs}

theorem credentialsOf_cases {token text : Text} (handed : libs.jsonText token = .ok text) :
    (libs.Accepts text ∧ ∃ credentials, libs.credentialsOf token = some credentials ∧ credentials.token = token) ∨
      (¬ libs.Accepts text ∧ libs.credentialsOf token = none) := by
  rw [credentialsOf, parseToken, handed]
  dsimp only
  cases parsed : libs.cJsonParse text with
  | none =>
    refine Or.inr ⟨?_, rfl⟩
    rintro ⟨json, same, -⟩
    rw [parsed] at same
    cases same
  | some json =>
    obtain ⟨same, stored⟩ := parseCredentialsFromJson_token json token
    have accepts : libs.Accepts text ↔ (parseCredentialsFromJson json token).2 = none := by
      refine ⟨?_, fun complete => ⟨json, parsed, same ▸ complete⟩⟩
      rintro ⟨json', again, complete⟩
      rw [parsed] at again
      cases again
      exact same.trans complete
    rw [accepts]
    dsimp only
    generalize parseCredentialsFromJson json token = filled at stored
    obtain ⟨credentials, _ | failure⟩ := filled
    · exact Or.inl ⟨rfl, credentials, rfl, stored⟩
    · exact Or.inr ⟨Option.some_ne_none failure, rfl⟩

variable (libs)

/-- **A call** fills in the credentials of the token, or fails. -/
theorem parseJwt_eq (memory : Text) (tokenLen : Option Nat) (error : Diag) (credentials : Credentials) :
    match libs.credentialsOf (tokenAt memory tokenLen) with
    | some found => libs.parseJwtToCredentials memory tokenLen error credentials = (error, found)
    | none => (libs.parseJwtToCredentials memory tokenLen error credentials).1.returnValue = .error ∧
        (credentials.token = none →
          (libs.parseJwtToCredentials memory tokenLen error credentials).2.token = none) := by
  rw [parseJwtToCredentials, credentialsOf]
  generalize tokenAt memory tokenLen = token
  rw [parseToken, parseToken]
  cases libs.jsonText token with
  | error failure => exact ⟨failure.returnValue_error, id⟩
  | ok text =>
    dsimp only
    cases libs.cJsonParse text with
    | none => exact ⟨JwtFailure.returnValue_error _, id⟩
    | some json =>
      have stored := (parseCredentialsFromJson_token json token).2
      dsimp only
      generalize parseCredentialsFromJson json token = filled at stored
      obtain ⟨credentials, _ | failure⟩ := filled
      · rfl
      · exact ⟨failure.returnValue_error, fun _ => stored⟩

/-- The payload is handed to the JSON parser as it is and, on success, the whole token is stored, with either way of
giving the length. -/
def HandsPayload (token payload : Text) (error : Diag) (credentials : Credentials) : Prop :=
  ∀ memory tokenLen, Gives token memory tokenLen →
    libs.jsonText (tokenAt memory tokenLen) = .ok payload ∧
      let parsed := libs.parseJwtToCredentials memory tokenLen error credentials
      (parsed.1.returnValue = .success → parsed.2.token = token)

def RefusesShort (error : Diag) (credentials : Credentials) : Prop :=
  ∀ memory tokenLen, (tokenAt memory tokenLen).count (ch '.') < 2 →
    (libs.parseJwtToCredentials memory tokenLen error credentials).1.returnValue = .error

theorem refusesShort (error : Diag) (credentials : Credentials) : libs.RefusesShort error credentials := by
  intro memory tokenLen short
  have call := libs.parseJwt_eq memory tokenLen error credentials
  have fewer : ∀ {text : Text} {offset : Nat}, strchr text (ch '.') = some offset →
      (text.drop (offset + 1)).count (ch '.') < text.count (ch '.') := by
    intro text offset found
    obtain ⟨inside, dot, -⟩ := findIdx?_eq_some_iff_getElem.mp found
    have split := take_append_drop offset text
    rw [drop_eq_getElem_cons inside, beq_iff_eq.mp dot] at split
    have total := congrArg (List.count (ch '.')) split
    rw [count_append, count_cons_self] at total
    omega
  have none : libs.credentialsOf (tokenAt memory tokenLen) = none := by
    rw [credentialsOf, parseToken, jsonText]
    generalize tokenAt memory tokenLen = token at short
    cases first : strchr token (ch '.') with
    | none => rfl
    | some header =>
      have one := fewer first
      dsimp only
      cases second : strchr (token.drop (header + 1)) (ch '.') with
      | none => rfl
      | some payload =>
        have two := fewer second
        omega
  rw [none] at call
  exact call.1

/-- **Which payloads are handed over**: those without a NUL, in a token without a NUL. -/
theorem parseJwt_payload_iff {header : Text} (dotFree : ch '.' ∉ header) (payload signature : Text) (error : Diag)
    (credentials : Credentials) :
    (libs.HandsPayload (jwt header payload signature) payload error credentials ∧
        libs.RefusesShort error credentials) ↔
      0 ∉ header ∧ 0 ∉ payload ∧
        (0 ∈ signature → ¬ (error.returnValue = .success ∧ libs.Accepts payload)) := by
  have nonempty : jwt header payload signature ≠ [] := append_ne_nil_of_right_ne_nil _ (cons_ne_nil _ _)
  constructor
  · rintro ⟨hands, -⟩
    have gives : Gives (jwt header payload signature) (jwt header payload signature) (some _) :=
      ⟨rfl, prefix_refl _⟩
    have call := libs.parseJwt_eq (jwt header payload signature)
      (some (jwt header payload signature).length) error credentials
    obtain ⟨handed, stored⟩ := hands _ _ gives
    rw [tokenAt_of_gives gives nonempty] at handed call
    have headerFree : 0 ∉ header := by
      intro nul
      have cut : cstr (jwt header payload signature) = cstr header := cstr_append_of_nul nul _
      have noDot : ch '.' ∉ cstr header := fun member => dotFree (( takeWhile_prefix _).subset member)
      rw [cut, jsonText, strchr_eq_none noDot] at handed
      cases handed
    have read := handed
    rw [cstr_jwt headerFree, jsonText_jwt libs dotFree, Except.ok.injEq] at read
    refine ⟨headerFree, by rw [← read]; exact nulFree_cstr payload, ?_⟩
    rintro nul ⟨clear, accepts⟩
    rcases credentialsOf_cases handed with ⟨-, found, same, whole⟩ | ⟨refused, -⟩
    · rw [same] at call
      rw [call] at stored
      have cut : cstr (jwt header payload signature) = jwt header payload signature :=
        Option.some_inj.mp (whole.symm.trans (stored clear))
      have nulFree := nulFree_cstr (jwt header payload signature)
      rw [cut] at nulFree
      exact nulFree (mem_append_right _ (mem_cons_of_mem _ (mem_append_right _ (mem_cons_of_mem _ nul))))
    · exact refused accepts
  · rintro ⟨headerFree, payloadFree, unaccepted⟩
    refine ⟨fun memory tokenLen gives => ?_, libs.refusesShort error credentials⟩
    have call := libs.parseJwt_eq memory tokenLen error credentials
    have handed : libs.jsonText (tokenAt memory tokenLen) = .ok payload := by
      rw [tokenAt_of_gives gives nonempty, cstr_jwt headerFree, jsonText_jwt libs dotFree,
        cstr_of_nulFree payloadFree]
    refine ⟨handed, fun success => ?_⟩
    rcases credentialsOf_cases handed with ⟨accepts, found, same, whole⟩ | ⟨-, none⟩
    · rw [same] at call
      rw [call] at success ⊢
      have signatureFree : 0 ∉ signature := fun nul => unaccepted nul ⟨success, accepts⟩
      rw [whole, tokenAt_of_gives gives nonempty, cstr_jwt headerFree, cstr_of_nulFree signatureFree]
    · rw [none] at call
      rw [call.1] at success
      cases success

end JwtLibs

/-- Libraries that take every text for the object of a user. -/
def sampleLibs : JwtLibs where
  b64Decode text := some (base64Decode text)
  inverts bytes := congrArg some (base64Decode_base64 bytes)
  cJsonParse _ := some ⟨fun name => if name = lit "exp" then some (.ofInt (2 ^ 31)) else some (.string (lit "u"))⟩

theorem parseJwt_payload_iff_braces :
    (sampleLibs.HandsPayload (jwt (lit "h") (lit "\x7b\x7d") (lit "s")) (lit "\x7b\x7d") Diag.clear {} ∧
        sampleLibs.RefusesShort Diag.clear {}) ↔
      0 ∉ lit "h" ∧ 0 ∉ lit "\x7b\x7d" ∧
        (0 ∈ lit "s" → ¬ (Diag.clear.returnValue = .success ∧ sampleLibs.Accepts (lit "\x7b\x7d"))) :=
  sampleLibs.parseJwt_payload_iff (by decide) _ _ _ _

/-- A payload that goes on behind a NUL is cut. -/
theorem parseJwt_payload_nul : ¬ sampleLibs.HandsPayload (jwt (lit "h") [0] (lit "s")) [0] Diag.clear {} := by
  intro hands
  have gives : Gives (jwt (lit "h") [0] (lit "s")) (jwt (lit "h") [0] (lit "s")) (some _) := ⟨rfl, prefix_refl _⟩
  have handed := (hands _ _ gives).1
  rw [tokenAt_of_gives gives (by decide), cstr_jwt (by decide), jsonText_jwt _ (by decide)] at handed
  exact absurd (Except.ok.inj handed) (by decide)

/-! ### The time of expiration -/

theorem parseCredentialsFromJson_expiration {json : JsonObject} {token : Text}
    (complete : (parseCredentialsFromJson json token).2 = none) {value : Int}
    (claim : json.item (lit "exp") = some (.ofInt value)) (positive : 0 ≤ value) :
    (parseCredentialsFromJson json token).1.expiration.toInt = min value (2 ^ 31 - 1) := by
  have field : getJsonIntField json (lit "exp") =
      some (Int32.ofInt (max (-2 ^ 31) (min value (2 ^ 31 - 1)))).toInt64 := by
    rw [getJsonIntField, claim]
    rfl
  rw [parseCredentialsFromJson, field] at complete ⊢
  split at complete
  · cases complete
  · dsimp only at complete ⊢
    split at complete
    · cases complete
    · dsimp only
      rw [Int32.toInt_toInt64, Int32.toInt_ofInt_of_le (by omega) (by omega)]
      omega

/-- **When the expiration is judged right**: the claim fits into an `int`, or the clock has not come to the largest
`int` yet, or it has passed the claim. -/
theorem checkExpiration_iff {libs : JwtLibs} {memory text : Text} {tokenLen : Option Nat} {json : JsonObject}
    (handed : libs.jsonText (tokenAt memory tokenLen) = .ok text) (parsed : libs.cJsonParse text = some json)
    {error : Diag} {credentials : Credentials}
    (accepted : (libs.parseJwtToCredentials memory tokenLen error credentials).1.returnValue = .success) {e : Int}
    (range : 0 ≤ e ∧ e < 2 ^ 53) (claim : json.item (lit "exp") = some (.ofInt e)) {t : Int64} (clock : 0 ≤ t) :
    let stored := (libs.parseJwtToCredentials memory tokenLen error credentials).2.expiration
    ((checkExpiration t stored = true ↔ t.toInt + 1 > e) ↔
      (e < 2 ^ 31 ∨ t.toInt + 1 < 2 ^ 31 ∨ e < t.toInt + 1) ∧ t.toInt < 2 ^ 63 - 1) := by
  have called : libs.parseJwtToCredentials memory tokenLen error credentials =
      match parseCredentialsFromJson json (tokenAt memory tokenLen) with
      | (credentials, none) => (error, credentials)
      | (credentials, some failure) => (failure.error, credentials) := by
    rw [JwtLibs.parseJwtToCredentials, JwtLibs.parseToken, handed]
    dsimp only
    rw [parsed]
  have stored : (libs.parseJwtToCredentials memory tokenLen error credentials).2.expiration.toInt =
      min e (2 ^ 31 - 1) := by
    rw [called] at accepted ⊢
    have expiration : (parseCredentialsFromJson json (tokenAt memory tokenLen)).2 = none → _ :=
      fun complete => parseCredentialsFromJson_expiration complete claim range.1
    generalize parseCredentialsFromJson json (tokenAt memory tokenLen) = filled at accepted expiration
    obtain ⟨found, _ | failure⟩ := filled
    · exact expiration rfl
    · rw [failure.returnValue_error] at accepted
      cases accepted
  have positive : 0 ≤ t.toInt := Int64.le_iff_toInt_le.mp clock
  have below := t.toInt_lt
  dsimp only
  rw [checkExpiration, decide_eq_true_iff, gt_iff_lt, Int64.lt_iff_toInt_lt, stored, Int64.toInt_add, Int64.toInt_one]
  by_cases last : t.toInt < 2 ^ 63 - 1
  · rw [Int.bmod_eq_of_le (by omega) (by omega)]
    omega
  · obtain same : t.toInt = 2 ^ 63 - 1 := by omega
    have wrapped : Int.bmod (2 ^ 63 - 1 + 1) (2 ^ 64) = -2 ^ 63 := by decide
    rw [same, wrapped]
    omega

/-- A token that expires when the largest `int` has passed. -/
def sampleToken : Text := jwt (lit "h") [] (lit "s")

theorem checkExpiration_iff_zero :
    let stored := (sampleLibs.parseJwtToCredentials sampleToken (some sampleToken.length) Diag.clear {}).2.expiration
    ((checkExpiration 0 stored = true ↔ Int64.toInt 0 + 1 > 2 ^ 31) ↔
      ((2 : Int) ^ 31 < 2 ^ 31 ∨ Int64.toInt 0 + 1 < 2 ^ 31 ∨ 2 ^ 31 < Int64.toInt 0 + 1) ∧
        Int64.toInt 0 < 2 ^ 63 - 1) :=
  @checkExpiration_iff sampleLibs _ [] _ _ rfl rfl _ _ rfl _ (by decide) rfl _ (by decide)

/-- It is taken for expired one second early. -/
theorem checkExpiration_early :
    let parsed := sampleLibs.parseJwtToCredentials sampleToken (some sampleToken.length) Diag.clear {}
    parsed.1.returnValue = .success ∧ checkExpiration (2 ^ 31 - 1) parsed.2.expiration = true ∧
      ¬ ((2 : Int) ^ 31 - 1 + 1 > 2 ^ 31) := by
  refine ⟨rfl, ?_, by decide⟩
  decide +kernel

end BrowserAuth

end MaOdbc
