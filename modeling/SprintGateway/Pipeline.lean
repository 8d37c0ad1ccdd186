import SprintGateway.Proxy
import SprintGateway.RateLimit

/- One request on the catch-all route `/{path:path}`, end to end: the dependency
   `authenticate_request`, then `proxy_all_requests` with its rate-limit block, its call of
   `proxy_request` and its two `except` clauses, and the `REQUEST_COUNT` observations made
   on the way.

   FastAPI resolves the dependency before the endpoint runs: an exception there (the 401
   "API key expired", or the `TypeError` of an aware `expires_at`) ends the request with
   no observation at all. Inside the endpoint, the 429 is counted before it is raised, and
   the `except Exception` clause counts a 500; but an `HTTPException` raised by
   `proxy_request` (504 on a timeout, 502 on any other transport error) goes through
   `except HTTPException: raise` and is never counted.

   What is proved:
     1. `catchAllRoute_counted_once` — `REQUEST_COUNT` gets at most one observation per
        request, and its label is always the status the caller receives.
     2. `transport_failure_uncounted` — when the backend times out or fails at the
        transport level, the caller gets 504 or 502 and `REQUEST_COUNT` gets nothing.

   ── PROVED vs ASSUMED ──────────────────────────────────────────────────────────
   The store's answers to `INCR` and `EXPIRE` and the backend's reply are inputs; a
   store failure is the name of the exception it raises. Only `REQUEST_COUNT` is
   modelled of the metrics and the log; `REQUEST_LATENCY` and the `logger` calls change
   no status. An exception that escapes the endpoint is a 500 (Starlette's
   `ServerErrorMiddleware`). The outermost middleware, `SlowAPIMiddleware`, reads
   `app.state.limiter`, which `main.py` never sets: the shipped app answers 500 to every
   HTTP request before the route runs. What is modelled is the route as an app that sets
   it would run it.

   Correspondence (Python ↔ Lean):
     `redis_client.incr` / `.expire` answers   ↔ `StoreReplies`
     the `if user:` block                      ↔ `rateLimitBlock`
     the `try` block                           ↔ `proxyAllTry`
     the two `except` clauses                  ↔ `proxyAllRequests`
     the route with its dependency             ↔ `catchAllRoute`
     `REQUEST_COUNT.labels(status=...).inc()`  ↔ one label in the returned list
-/
namespace SprintGateway

/-- What the store answers the handler's `INCR` and `EXPIRE`: the value, or the name of the
exception the command raises. -/
structure StoreReplies where
  incr : Except String Nat
  expire : Except String Unit

/-- The `if user:` block of `proxy_all_requests`: `true` to go on to `proxy_request`,
`false` for `current > limit`, or the exception a store command raised. With no
principal, or with `redis_client` unset (`none`), nothing is checked. -/
def rateLimitBlock (user : Option User) (store : Option StoreReplies) : Except String Bool :=
  match user, store with
  | some u, some st => do
    let current ← st.incr
    if current = 1 then st.expire
    return !decide (current > tierLimit u.tier)
  | _, _ => .ok true

/-- The `try` block of `proxy_all_requests`: the labels it counts and what it returns or
raises. -/
def proxyAllTry (chk : NetlocChecks) (dec : Decoders) (s : Settings) (path : List Char)
    (r : Request) (user : Option User) (store : Option StoreReplies) (reply : BackendReply) :
    List String × Except Raised Response :=
  match rateLimitBlock user store with
  | .error name => ([], .error (.other name))
  | .ok false => (["429"], .error (.http 429 "Rate limit exceeded"))
  | .ok true =>
    match proxyRequest chk dec s r.method path r user reply with
    | .ok resp => ([toString resp.status], .ok resp)
    | .error e => ([], .error e)

/-- `proxy_all_requests`: `except HTTPException: raise`, and `except Exception`, which
counts a 500 and raises the 500. -/
def proxyAllRequests (chk : NetlocChecks) (dec : Decoders) (s : Settings) (path : List Char)
    (r : Request) (user : Option User) (store : Option StoreReplies) (reply : BackendReply) :
    List String × Except Raised Response :=
  match proxyAllTry chk dec s path r user store reply with
  | (obs, .error (.other _)) => (obs ++ ["500"], .error (.http 500 "Internal server error"))
  | o => o

/-- The status an exception leaving the application gives: an `HTTPException`'s own, 500
for any other. -/
def statusOf : Raised → Nat
  | .http status _ => status
  | .other _ => 500

/-- A request on `/{path:path}`: the dependency first, then the endpoint. The status the
caller receives and the labels counted. -/
def catchAllRoute (chk : NetlocChecks) (dec : Decoders) (s : Settings) (cs : CredentialStore)
    (jwt : JwtCodec) (now : Int) (path : List Char) (r : Request) (store : Option StoreReplies)
    (reply : BackendReply) : Nat × List String :=
  match authenticateRequest s cs jwt now r with
  | .error e => (statusOf e, [])
  | .ok user =>
    match proxyAllRequests chk dec s path r user store reply with
    | (obs, .ok resp) => (resp.status, obs)
    | (obs, .error e) => (statusOf e, obs)

/-! ## What `REQUEST_COUNT` sees -/

/-- Every outcome of the `try` block: counted with the status it returns, counted as a 429,
or raised uncounted. -/
theorem proxyAllTry_cases (chk : NetlocChecks) (dec : Decoders) (s : Settings)
    (path : List Char) (r : Request) (user : Option User) (store : Option StoreReplies)
    (reply : BackendReply) :
    (∃ resp, proxyAllTry chk dec s path r user store reply = ([toString resp.status], .ok resp)) ∨
    proxyAllTry chk dec s path r user store reply = (["429"], .error (.http 429 "Rate limit exceeded")) ∨
    ∃ e, proxyAllTry chk dec s path r user store reply = ([], .error e) := by
  unfold proxyAllTry
  split
  · exact .inr (.inr ⟨_, rfl⟩)
  · exact .inr (.inl rfl)
  · split
    · exact .inl ⟨_, rfl⟩
    · exact .inr (.inr ⟨_, rfl⟩)

/-- Whatever the credentials, the store and the backend do, `REQUEST_COUNT` gets at most
one observation for the request, and its label is the status the caller receives. -/
theorem catchAllRoute_counted_once (chk : NetlocChecks) (dec : Decoders) (s : Settings)
    (cs : CredentialStore) (jwt : JwtCodec) (now : Int) (path : List Char) (r : Request)
    (store : Option StoreReplies) (reply : BackendReply) :
    (catchAllRoute chk dec s cs jwt now path r store reply).2 = [] ∨
    (catchAllRoute chk dec s cs jwt now path r store reply).2 =
      [toString (catchAllRoute chk dec s cs jwt now path r store reply).1] := by
  unfold catchAllRoute
  split
  · exact .inl rfl
  · next user _ =>
    unfold proxyAllRequests
    rcases proxyAllTry_cases chk dec s path r user store reply with ⟨resp, h⟩ | h | ⟨e, h⟩ <;>
      rw [h]
    · exact .inr rfl
    · exact .inr rfl
    · cases e with
      | http st d => exact .inl rfl
      | other n => exact .inr (by dsimp only [statusOf, List.nil_append]; decide)

/-- A request the limiter lets through, whose URL joins: if the backend times out the
caller gets 504, if it fails otherwise at the transport level 502, and in neither case
does `REQUEST_COUNT` count anything. -/
theorem transport_failure_uncounted (chk : NetlocChecks) (dec : Decoders) (s : Settings)
    (cs : CredentialStore) (jwt : JwtCodec) (now : Int) (path : List Char) (r : Request)
    (store : Option StoreReplies) (user : Option User)
    (hauth : authenticateRequest s cs jwt now r = .ok user)
    (hlimit : rateLimitBlock user store = .ok true)
    (hurl : ∃ out, outboundRequest chk s r.method path r user = .ok out) :
    catchAllRoute chk dec s cs jwt now path r store .timeout = (504, []) ∧
    catchAllRoute chk dec s cs jwt now path r store .requestError = (502, []) := by
  obtain ⟨out, hout⟩ := hurl
  simp [catchAllRoute, hauth, proxyAllRequests, proxyAllTry, hlimit, proxyRequest, hout,
    relayResponse, statusOf]

theorem transport_failure_uncounted_status :
    authenticateRequest defaultSettings ⟨true, fun _ => none⟩ (JwtCodec.only "tok" []) 0
        ⟨"GET", [], [], []⟩ = .ok none ∧
      rateLimitBlock none none = .ok true ∧
      (∃ out, outboundRequest acceptAll defaultSettings "GET" "status".toList
        ⟨"GET", [], [], []⟩ none = .ok out) ∧
      catchAllRoute acceptAll identityDecoders defaultSettings ⟨true, fun _ => none⟩
        (JwtCodec.only "tok" []) 0 "status".toList ⟨"GET", [], [], []⟩ none .timeout = (504, []) ∧
      catchAllRoute acceptAll identityDecoders defaultSettings ⟨true, fun _ => none⟩
        (JwtCodec.only "tok" []) 0 "status".toList ⟨"GET", [], [], []⟩ none .requestError =
        (502, []) :=
  ⟨rfl, rfl, ⟨_, rfl⟩, transport_failure_uncounted acceptAll identityDecoders defaultSettings
    ⟨true, fun _ => none⟩ (JwtCodec.only "tok" []) 0 "status".toList ⟨"GET", [], [], []⟩ none none
    rfl rfl ⟨_, rfl⟩⟩

end SprintGateway
