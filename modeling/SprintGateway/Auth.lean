import SprintGateway.Http
import SprintGateway.Jose

/- The authenticator: `get_api_key_from_header`, `validate_api_key`, `get_current_user` and
   `authenticate_request`, the dependency `proxy_all_requests` and `websocket_endpoint`
   resolve a principal with; and `login` with `create_access_token`, which issue the
   bearer tokens.

   `authenticate_request` looks for an API key (the configured header, else the
   configured query parameter); a key whose record is found and enabled gives the
   principal `api_key_{name}` with the record's tier, or raises 401 when the record's
   `expires_at` is past. Every other case falls back to a bearer token, and every
   exception on that path (the 401 `get_current_user` raises included) is swallowed into
   `None`.

   What is proved:
     1. `authenticateRequest_principal` — an enabled, unexpired record wins over any
        token; every other principal comes from a verified token and has tier `pro`.
     2. `invalid_bearer_is_anonymous` — a token that fails verification gives `None`, not
        the 401 of `get_current_user`.
     3. `authenticateRequest_error` — the only exceptions are the 401 "API key expired" and
        the `TypeError` of comparing the naive clock with an aware `expires_at`.
     4. `login_token_accepted_iff` — a token `login` issues at `t₀` is accepted at `t`
        exactly while `t`'s whole seconds stay within `t₀`'s plus the lifetime, and the
        lifetime is 15 minutes when 0 is configured (`if expires_delta:` reads a zero
        `timedelta` as missing).

   ── PROVED vs ASSUMED ──────────────────────────────────────────────────────────
   The signature and format checks of `jose.jwt.decode` are `JwtCodec.unsign`, not
   computed; the claim checks after them are (`validateClaims`, `SprintGateway.Jose`). The credential store is what
   `validate_api_key` reads from it: a missing key, a value that does not decode to an
   `APIKey` and a failed `get` all give `None` there, as its `except` branch makes them.
   Of the codec, the token theorem assumes only that the token `login` returns verifies to
   the payload it was signed from.

   Correspondence (Python ↔ Lean):
     `Settings` (the fields read here)     ↔ `Settings`
     `User`, `APIKey` (fields read)        ↔ `User`, `APIKey`
     `datetime` (naive or aware)           ↔ `DateTime`
     `get_api_key_from_header`             ↔ `getApiKeyFromHeader`
     `validate_api_key`                    ↔ `validateApiKey`
     `jwt.decode(token, key, algorithms)`  ↔ `jwtDecodeResult`, `jwtDecode`
     `get_current_user`                    ↔ `getCurrentUser`
     `authenticate_request`                ↔ `authenticateRequest`
     `create_access_token` (its `expire`)  ↔ `createAccessToken` (`accessTokenExpire`)
     `login`                               ↔ `login`
-/
namespace SprintGateway

/-! ## Configuration and records -/

/-- The fields of `Settings` the gateway's request path reads, with their defaults. -/
structure Settings where
  backendUrl : List Char := "http://localhost:8080".toList
  apiKeyHeader : String := "X-API-Key"
  apiKeyQuery : String := "api_key"
  accessTokenExpireMinutes : Int := 30
  deriving DecidableEq, Repr

/-- `Settings()` with nothing overridden. -/
def defaultSettings : Settings := {}

/-- `User`: the principal, with the fields the gateway reads. -/
structure User where
  username : String
  tier : String
  deriving DecidableEq, Repr

/-- A `datetime`: microseconds since the epoch as its fields read, and its UTC offset in
seconds when it is timezone-aware. -/
structure DateTime where
  micros : Int
  offset : Option Int
  deriving DecidableEq, Repr

/-- `APIKey`, with the fields `authenticate_request` reads. -/
structure APIKey where
  name : String
  expiresAt : Option DateTime
  tier : String
  enabled : Bool
  deriving DecidableEq, Repr

/-- The credential store as `validate_api_key` reads it: whether `redis_client` is set, and
the record `api_key:{key}` decodes to, if any. -/
structure CredentialStore where
  connected : Bool
  records : String → Option APIKey

/-! ## API keys -/

/-- `get_api_key_from_header`: the configured header, else (when it is missing or empty)
the configured query parameter. -/
def getApiKeyFromHeader (s : Settings) (r : Request) : Option String :=
  match headersGet r.scopeHeaders (lower s.apiKeyHeader) with
  | some k => if k = "" then (queryDict r.query).get? s.apiKeyQuery else some k
  | none => (queryDict r.query).get? s.apiKeyQuery

/-- `validate_api_key`. -/
def validateApiKey (cs : CredentialStore) (apiKey : String) : Option APIKey :=
  if cs.connected then cs.records ("api_key:" ++ apiKey) else none

/-- `datetime.utcnow() > expires_at`, the clock being naive: comparing it with an aware
`expires_at` raises `TypeError`. -/
def isPast (now : Int) (e : DateTime) : Except Raised Bool :=
  match e.offset with
  | none => .ok (decide (now > e.micros))
  | some _ => .error (.other "TypeError")

/-! ## Bearer tokens -/

/-- `jwt.encode` and the signature, algorithm and format checks of `jwt.decode` under the
configured `secret_key` and `algorithm`. -/
structure JwtCodec where
  encode : Payload → String
  unsign : String → Option Payload

/-- A codec under which the token `t`, and no other, verifies, to the payload `p`. -/
def JwtCodec.only (t : String) (p : Payload) : JwtCodec :=
  ⟨fun _ => t, fun t' => if t' = t then some p else none⟩

/-- `jwt.decode(token, secret_key, algorithms=[algorithm])` at `now` microseconds: the claims,
or what it raises. A token that fails the signature, algorithm or format checks raises a
`JWTError`; `jose` reads the clock in whole seconds for the claim checks. -/
def jwtDecodeResult (jwt : JwtCodec) (now : Int) (token : String) : Except DecodeError Payload :=
  match jwt.unsign token with
  | none => .error .jwtError
  | some p => (validateClaims (now / 1000000) p).map fun _ => p

/-- The claims `jwt.decode` returns, when it returns. -/
def jwtDecode (jwt : JwtCodec) (now : Int) (token : String) : Option Payload :=
  (jwtDecodeResult jwt now token).toOption

/-- The `HTTPException` `get_current_user` raises. -/
def credentialsException : Raised := .http 401 "Could not validate credentials"

/-- `get_current_user(token)`: the principal `sub` names, always at tier `pro`. A `JWTError`
becomes the 401; what else `jwt.decode` raises goes through. -/
def getCurrentUser (jwt : JwtCodec) (now : Int) (token : String) : Except Raised User :=
  match jwtDecodeResult jwt now token with
  | .error .jwtError => .error credentialsException
  | .error (.escaped name) => .error (.other name)
  | .ok p =>
    match p.lookup "sub" with
    | none => .error credentialsException
    | some (.str u) => .ok ⟨u, "pro"⟩
    | some _ => .error (.other "ValidationError")

/-- `auth_header.split(" ")[1]`. -/
def bearerToken (h : String) : String := ⟨((h.data.splitOn ' ').get? 1).getD []⟩

/-- The JWT fallback of `authenticate_request`: the principal of a verified bearer token,
and `None` for anything that raises. -/
def bearerUser (jwt : JwtCodec) (now : Int) (r : Request) : Option User :=
  match headersGet r.scopeHeaders "authorization" with
  | some h =>
    if "Bearer ".data.isPrefixOf h.data then
      match getCurrentUser jwt now (bearerToken h) with
      | .ok u => some u
      | .error _ => none
    else none
  | none => none

/-! ## `authenticate_request` -/

/-- `authenticate_request(request)` at the clock reading `now` (microseconds, naive UTC). -/
def authenticateRequest (s : Settings) (cs : CredentialStore) (jwt : JwtCodec) (now : Int)
    (r : Request) : Except Raised (Option User) :=
  match getApiKeyFromHeader s r with
  | some k =>
    if k = "" then .ok (bearerUser jwt now r) else
    match validateApiKey cs k with
    | some info =>
      if info.enabled then
        match info.expiresAt with
        | none => .ok (some ⟨"api_key_" ++ info.name, info.tier⟩)
        | some e =>
          match isPast now e with
          | .ok true => .error (.http 401 "API key expired")
          | .ok false => .ok (some ⟨"api_key_" ++ info.name, info.tier⟩)
          | .error err => .error err
      else .ok (bearerUser jwt now r)
    | none => .ok (bearerUser jwt now r)
  | none => .ok (bearerUser jwt now r)

/-! ## What `authenticate_request` returns -/

/-- The record the request's API key resolves to: the key must be present and non-empty. -/
def keyRecord (s : Settings) (cs : CredentialStore) (r : Request) : Option APIKey :=
  match getApiKeyFromHeader s r with
  | some k => if k = "" then none else validateApiKey cs k
  | none => none

/-- `expires_at` is absent, or naive and not before `now`. -/
def Unexpired (now : Int) (info : APIKey) : Prop :=
  info.expiresAt = none ∨ ∃ t, info.expiresAt = some ⟨t, none⟩ ∧ now ≤ t

/-- What an enabled record gives: the principal, the 401, or the `TypeError`. -/
def recordOutcome (now : Int) (info : APIKey) : Except Raised (Option User) :=
  match info.expiresAt with
  | none => .ok (some ⟨"api_key_" ++ info.name, info.tier⟩)
  | some e =>
    match isPast now e with
    | .ok true => .error (.http 401 "API key expired")
    | .ok false => .ok (some ⟨"api_key_" ++ info.name, info.tier⟩)
    | .error err => .error err

theorem authenticateRequest_eq (s : Settings) (cs : CredentialStore) (jwt : JwtCodec)
    (now : Int) (r : Request) :
    authenticateRequest s cs jwt now r =
      match keyRecord s cs r with
      | some info => if info.enabled then recordOutcome now info else .ok (bearerUser jwt now r)
      | none => .ok (bearerUser jwt now r) := by
  unfold authenticateRequest keyRecord recordOutcome
  split
  · split
    · rfl
    · rfl
  · rfl

theorem recordOutcome_some {now : Int} {info : APIKey} {u : User} :
    recordOutcome now info = .ok (some u) ↔
      Unexpired now info ∧ u = ⟨"api_key_" ++ info.name, info.tier⟩ := by
  unfold recordOutcome Unexpired
  rcases h : info.expiresAt with _ | ⟨t, _ | o⟩
  · simp [eq_comm]
  · by_cases ht : now > t
    · simp [isPast, ht]
    · simp [isPast, ht, eq_comm]; omega
  · simp [isPast]

/-- `jwt.decode` returns the claims a token verifies to exactly when they pass the claim
checks at the clock's whole seconds. -/
theorem jwtDecode_eq_some {jwt : JwtCodec} {now : Int} {token : String} {p : Payload} :
    jwtDecode jwt now token = some p ↔
      jwt.unsign token = some p ∧ validateClaims (now / 1000000) p = .ok () := by
  unfold jwtDecode jwtDecodeResult
  rcases jwt.unsign token with _ | q
  · simp [Except.toOption]
  · simp only [Option.some.injEq]
    constructor
    · rcases hv : validateClaims (now / 1000000) q with e | ⟨⟩
      · simp [hv, Except.toOption, Except.map]
      · simp only [hv, Except.toOption, Except.map, Option.some.injEq]
        rintro rfl
        exact ⟨rfl, hv⟩
    · rintro ⟨rfl, hv⟩
      simp [hv, Except.toOption, Except.map]

/-- `get_current_user` returns a principal exactly when `jwt.decode` returns claims whose
`sub` is a string: the principal that string names, at tier `pro`. -/
theorem getCurrentUser_eq_ok {jwt : JwtCodec} {now : Int} {token : String} {u : User} :
    getCurrentUser jwt now token = .ok u ↔
      ∃ p, jwtDecode jwt now token = some p ∧ p.lookup "sub" = some (.str u.username) ∧
        u.tier = "pro" := by
  unfold getCurrentUser jwtDecode
  rcases jwtDecodeResult jwt now token with (_ | name) | p
  · simp [credentialsException, Except.toOption]
  · simp [Except.toOption]
  · simp only [Except.toOption, Option.some.injEq, exists_eq_left']
    rcases u with ⟨name, tier⟩
    rcases p.lookup "sub" with _ | ⟨s⟩ | _ | _ | _ | _ | _ <;>
      simp [credentialsException, eq_comm]

theorem bearerUser_eq_some {jwt : JwtCodec} {now : Int} {r : Request} {u : User} :
    bearerUser jwt now r = some u ↔
      ∃ h p, headersGet r.scopeHeaders "authorization" = some h ∧
        "Bearer ".data.isPrefixOf h.data = true ∧
        jwtDecode jwt now (bearerToken h) = some p ∧ p.lookup "sub" = some (.str u.username) ∧
        u.tier = "pro" := by
  unfold bearerUser
  rcases headersGet r.scopeHeaders "authorization" with _ | h
  · simp
  · simp only [Option.some.injEq, exists_and_left, exists_eq_left', ← getCurrentUser_eq_ok]
    by_cases hb : "Bearer ".data.isPrefixOf h.data = true
    · rcases getCurrentUser jwt now (bearerToken h) with e | v <;> simp [hb]
    · simp [hb]

theorem recordOutcome_error {now : Int} {info : APIKey} {e : Raised} :
    recordOutcome now info = .error e ↔ ∃ t, info.expiresAt = some t ∧
      ((t.offset = none ∧ t.micros < now ∧ e = .http 401 "API key expired") ∨
        (t.offset ≠ none ∧ e = .other "TypeError")) := by
  unfold recordOutcome
  rcases h : info.expiresAt with _ | ⟨t, _ | o⟩
  · simp
  · by_cases ht : now > t <;> simp [isPast, ht, eq_comm]
  · simp [isPast, eq_comm]

/-- **Which credential wins.** The principal is the one an enabled record with a current
(or no) expiry gives, whatever token comes along; failing such a record (no key, an
unknown key, a disabled record), it is the one a verified bearer token names, at tier
`pro` whatever the token's claims say. -/
theorem authenticateRequest_principal (s : Settings) (cs : CredentialStore) (jwt : JwtCodec)
    (now : Int) (r : Request) (u : User) :
    authenticateRequest s cs jwt now r = .ok (some u) ↔
      (∃ info, keyRecord s cs r = some info ∧ info.enabled = true ∧ Unexpired now info ∧
        u = ⟨"api_key_" ++ info.name, info.tier⟩) ∨
      ((∀ info, keyRecord s cs r = some info → info.enabled = false) ∧
        ∃ h p, headersGet r.scopeHeaders "authorization" = some h ∧
          "Bearer ".data.isPrefixOf h.data = true ∧ jwtDecode jwt now (bearerToken h) = some p ∧
          p.lookup "sub" = some (.str u.username) ∧ u.tier = "pro") := by
  rw [authenticateRequest_eq]
  cases hk : keyRecord s cs r with
  | none => simp [bearerUser_eq_some]
  | some info =>
    cases he : info.enabled
    · simp [bearerUser_eq_some, he]
    · simp [recordOutcome_some, he]

/-- A verified token whose claims carry tier `free` gives tier `pro`. -/
theorem bearer_principal_is_pro :
    authenticateRequest defaultSettings ⟨true, fun _ => none⟩
      (JwtCodec.only "tok" [("sub", .str "alice"), ("tier", .str "free")]) 0
      ⟨"GET", [("Authorization", "Bearer tok")], [], []⟩ = .ok (some ⟨"alice", "pro"⟩) := rfl

/-- `authenticate_request` raises only for an enabled record's expiry: the 401 of a past
naive `expires_at`, or the `TypeError` of an aware one. A rejected bearer token never
raises. -/
theorem authenticateRequest_error (s : Settings) (cs : CredentialStore) (jwt : JwtCodec)
    (now : Int) (r : Request) (e : Raised) :
    authenticateRequest s cs jwt now r = .error e ↔
      ∃ info t, keyRecord s cs r = some info ∧ info.enabled = true ∧ info.expiresAt = some t ∧
        ((t.offset = none ∧ t.micros < now ∧ e = .http 401 "API key expired") ∨
          (t.offset ≠ none ∧ e = .other "TypeError")) := by
  rw [authenticateRequest_eq]
  cases hk : keyRecord s cs r with
  | none => simp
  | some info =>
    cases he : info.enabled
    · simp [he]
    · simp [recordOutcome_error, he]

/-- The request `test_invalid_auth` sends, `Authorization: Bearer invalid-key`, passes as
anonymous instead of being refused with 401. -/
theorem invalid_bearer_is_anonymous :
    authenticateRequest defaultSettings ⟨true, fun _ => none⟩
      (JwtCodec.only "tok" [("sub", .str "alice")]) 0
      ⟨"GET", [("Authorization", "Bearer invalid-key")], [], []⟩ = .ok none := rfl

/-! ## Issuing tokens -/

/-- `timedelta(minutes=m)`, in microseconds. -/
def timedeltaMinutes (m : Int) : Int := m * 60 * 1000000

/-- `datetime.min`, in microseconds since the epoch. -/
def datetimeMin : Int := -62135596800000000

/-- `datetime.max`, in microseconds since the epoch. -/
def datetimeMax : Int := 253402300799999999

/-- The `expire` of `create_access_token`: `datetime.utcnow() + expires_delta` when
`expires_delta` is true, else 15 minutes on. A `timedelta` is false when it is zero. -/
def accessTokenExpire (now : Int) (expiresDelta : Option Int) : Int :=
  match expiresDelta with
  | some d => if d ≠ 0 then now + d else now + timedeltaMinutes 15
  | none => now + timedeltaMinutes 15

/-- `create_access_token(data, expires_delta)` at the clock reading `now` (microseconds, naive
UTC): `data` with its `exp` set, signed. A sum past `datetime.min` or `datetime.max` raises
`OverflowError`; `jwt.encode` writes the `datetime` as whole seconds (`timegm` of its
`utctimetuple()`). -/
def createAccessToken (jwt : JwtCodec) (now : Int) (data : Payload) (expiresDelta : Option Int) :
    Except Raised String :=
  let expire := accessTokenExpire now expiresDelta
  if expire < datetimeMin ∨ datetimeMax < expire then .error (.other "OverflowError")
  else .ok (jwt.encode (data.filter (fun c => c.1 ≠ "exp") ++ [("exp", .int (expire / 1000000))]))

/-- `login(username, password)` at `now`: only `demo` with password `demo` gets a token, whose
`sub` is the username and whose lifetime is the configured one. -/
def login (s : Settings) (jwt : JwtCodec) (now : Int) (username password : String) :
    Except Raised String :=
  if username = "demo" ∧ password = "demo" then
    createAccessToken jwt now [("sub", .str username)]
      (some (timedeltaMinutes s.accessTokenExpireMinutes))
  else .error (.http 401 "Invalid credentials")

/-- A configured lifetime of 0 minutes is a false `timedelta`: the 15 minutes replace it. -/
theorem accessTokenExpire_minutes (now m : Int) :
    accessTokenExpire now (some (timedeltaMinutes m)) =
      now + timedeltaMinutes (if m = 0 then 15 else m) := by
  by_cases hm : m = 0 <;> simp [accessTokenExpire, timedeltaMinutes, hm]

/-- The token of a successful `login`: `sub` the username, `exp` the whole seconds of the
expiry. -/
theorem login_ok {s : Settings} {jwt : JwtCodec} {now : Int} {username password tok : String}
    (h : login s jwt now username password = .ok tok) :
    tok = jwt.encode [("sub", .str username), ("exp", .int
      (accessTokenExpire now (some (timedeltaMinutes s.accessTokenExpireMinutes)) / 1000000))] := by
  unfold login createAccessToken at h
  by_cases hu : username = "demo" ∧ password = "demo"
  · rw [if_pos hu] at h
    dsimp only at h
    split at h
    · cases h
    · cases h; simp
  · rw [if_neg hu] at h; cases h

/-- `get_current_user` accepts a token carrying `sub` and an `exp` that `int()` reads as `e`
exactly while the clock's whole seconds have not passed `e`. -/
theorem getCurrentUser_sub_exp {jwt : JwtCodec} {now : Int} {tok u : String} {x : ClaimValue}
    {e : Int} (h : jwt.unsign tok = some [("sub", .str u), ("exp", x)]) (hx : x.toInt = .ok e) :
    (∃ v, getCurrentUser jwt now tok = .ok v) ↔ now / 1000000 ≤ e := by
  have hv : validateClaims (now / 1000000) [("sub", .str u), ("exp", x)] = .ok () ↔
      now / 1000000 ≤ e := by
    simp [validateClaims_eq_ok, List.lookup_cons, hx]
  simp only [getCurrentUser_eq_ok, jwtDecode_eq_some, h, Option.some.injEq]
  constructor
  · rintro ⟨_, _, ⟨rfl, hval⟩, -⟩
    exact hv.mp hval
  · intro he
    exact ⟨⟨u, "pro"⟩, _, ⟨rfl, hv.mpr he⟩, by simp [List.lookup_cons], rfl⟩

/-- **How long a login token lasts.** A token `login` issued at `t₀` is accepted by
`get_current_user` at `t` exactly while the whole seconds of `t` have not passed those of
`t₀` plus the lifetime: the configured minutes, and 15 when 0 is configured. -/
theorem login_token_accepted_iff (s : Settings) (jwt : JwtCodec) (t₀ t : Int)
    (username password tok : String) (hlogin : login s jwt t₀ username password = .ok tok)
    (hcodec : ∀ p, jwt.encode p = tok → jwt.unsign tok = some p) :
    (∃ u, getCurrentUser jwt t tok = .ok u) ↔
      t / 1000000 ≤ t₀ / 1000000 +
        60 * (if s.accessTokenExpireMinutes = 0 then 15 else s.accessTokenExpireMinutes) := by
  rw [getCurrentUser_sub_exp (hcodec _ (login_ok hlogin).symm) rfl, accessTokenExpire_minutes,
    timedeltaMinutes]
  omega

/-- A codec that signs `p`, and nothing else, as `t`, and verifies `t`, and nothing else, to
`p`. -/
def JwtCodec.signing (p : Payload) (t : String) : JwtCodec :=
  ⟨fun p' => if p' = p then t else "", fun t' => if t' = t then some p else none⟩

/-- With `access_token_expire_minutes = 0`, the token of a login at time 0 is still accepted a
minute later. -/
theorem login_token_zero_minutes :
    login { accessTokenExpireMinutes := 0 }
        (.signing [("sub", .str "demo"), ("exp", .int 900)] "tok") 0 "demo" "demo" = .ok "tok" ∧
      (∀ p, (JwtCodec.signing [("sub", .str "demo"), ("exp", .int 900)] "tok").encode p = "tok" →
        (JwtCodec.signing [("sub", .str "demo"), ("exp", .int 900)] "tok").unsign "tok" = some p) ∧
      ∃ u, getCurrentUser (.signing [("sub", .str "demo"), ("exp", .int 900)] "tok") 60000000
        "tok" = .ok u := by
  have hc : ∀ p, (JwtCodec.signing [("sub", .str "demo"), ("exp", .int 900)] "tok").encode p =
      "tok" → (JwtCodec.signing [("sub", .str "demo"), ("exp", .int 900)] "tok").unsign "tok" =
        some p := by
    intro p h
    by_cases hp : p = [("sub", .str "demo"), ("exp", .int 900)] <;> simp_all [JwtCodec.signing]
  exact ⟨rfl, hc, (login_token_accepted_iff { accessTokenExpireMinutes := 0 }
    (.signing [("sub", .str "demo"), ("exp", .int 900)] "tok") 0 60000000 "demo" "demo" "tok" rfl
    hc).mpr (by decide)⟩

end SprintGateway
