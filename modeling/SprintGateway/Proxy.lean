import SprintGateway.Auth
import SprintGateway.Url

/- `proxy_request`: the request the gateway sends to the backend, and the response it
   returns to the caller; and the health probe of `check_backend_health`.

   On the way out the inbound headers are copied with `dict(request.headers)`, the
   hop-by-hop ones popped, and, when a principal was resolved, `X-User-Tier` and
   `X-User-Username` set. On the way back the backend's headers are copied with
   `dict(response.headers)`, the hop-by-hop ones popped, and the body is
   `response.content`. A timeout is a 504, any other `httpx.RequestError` (a
   `DecodingError` of the content included) a 502.

   What is proved:
     1. `proxyHeaders_items` — the header list handed to httpx is the copied inbound
        fields, then the two identity fields exactly when a principal was resolved.
     2. `proxyHeaders_no_hop_by_hop`, `mem_proxyHeaders` — no hop-by-hop field is in the
        dict handed to httpx, and every other inbound name is, once, with its first value.
     3. `relayResponse_ok` — the caller gets the backend's status, every non-hop-by-hop
        name once with its values joined by `", "`, and the decoded content.
     4. `checkBackendHealth_probes_origin` — `check_backend_health` asks
        `scheme://netloc/health` of the backend's origin, whatever path `backend_url` has.

   ── PROVED vs ASSUMED ──────────────────────────────────────────────────────────
   The outbound theorems are about the `headers` argument `proxy_request` hands to
   `client.request`. httpx then adds, where that dict lacks them, `Host`, `Accept`,
   `Accept-Encoding`, `Connection: keep-alive` and `User-Agent` (and `Content-Length` for a
   body); those are httpx's own and are not modelled.

   Correspondence (Python ↔ Lean):
     `hop_by_hop_headers`                  ↔ `hopByHopHeaders`
     the loop of `headers.pop(h, None)`    ↔ `stripHopByHop`
     `headers` after the identity fields   ↔ `proxyHeaders`
     `client.request(method, url, ...)`    ↔ `OutboundRequest`, `outboundRequest`
     what `client.request` returns/raises  ↔ `BackendReply`
     the `try`/`except` around it          ↔ `relayResponse`
     `proxy_request`                       ↔ `proxyRequest`
     `check_backend_health`                ↔ `checkBackendHealth`
-/
namespace SprintGateway

/-! ## The request sent to the backend -/

/-- `hop_by_hop_headers`. -/
def hopByHopHeaders : List String :=
  ["connection", "keep-alive", "proxy-authenticate", "proxy-authorization", "te", "trailers",
    "transfer-encoding", "upgrade"]

/-- `for header in hop_by_hop_headers: headers.pop(header, None)`. -/
def stripHopByHop (d : PyDict) : PyDict := hopByHopHeaders.foldl PyDict.pop d

/-- The fields `proxy_request` sets for a resolved principal. -/
def identityFields : Option User → List (String × String)
  | some u => [("X-User-Tier", u.tier), ("X-User-Username", u.username)]
  | none => []

/-- The `headers` dict `proxy_request` hands to httpx. -/
def proxyHeaders (r : Request) (user : Option User) : PyDict :=
  let headers := stripHopByHop (headerDict r)
  match user with
  | some u => (headers.set "X-User-Tier" u.tier).set "X-User-Username" u.username
  | none => headers

/-- The arguments of `client.request(method=..., url=..., headers=..., content=...,
params=...)`. -/
structure OutboundRequest where
  method : String
  url : List Char
  headers : List (String × String)
  content : List UInt8
  params : List (String × String)
  deriving DecidableEq, Repr

/-- The request `proxy_request` sends for `method` and `path`; `urljoin` raising
`ValueError` sends none. -/
def outboundRequest (chk : NetlocChecks) (s : Settings) (method : String) (path : List Char)
    (r : Request) (user : Option User) : Except Raised OutboundRequest :=
  match urljoin chk s.backendUrl path with
  | .error _ => .error (.other "ValueError")
  | .ok url => .ok ⟨method, url, (proxyHeaders r user).items, r.body, (queryDict r.query).items⟩

theorem mem_foldl_pop (ks : List String) {d : PyDict} {x : String × String} :
    x ∈ (ks.foldl PyDict.pop d).items ↔ x ∈ d.items ∧ x.1 ∉ ks := by
  induction ks generalizing d with
  | nil => simp
  | cons k ks ih =>
    rw [List.foldl_cons, ih, PyDict.mem_pop]
    simp only [List.mem_cons, not_or]
    tauto

@[simp] theorem mem_stripHopByHop {d : PyDict} {x : String × String} :
    x ∈ (stripHopByHop d).items ↔ x ∈ d.items ∧ x.1 ∉ hopByHopHeaders :=
  mem_foldl_pop _

/-- `dict(request.headers)` holds each lower-cased name once, with its first value. -/
theorem mem_headerDict {r : Request} {k v : String} :
    (k, v) ∈ (headerDict r).items ↔ lower k = k ∧ headersGet r.scopeHeaders k = some v := by
  rw [headerDict, PyDict.mem_ofMapping]
  constructor
  · rintro ⟨hk, hv⟩
    dsimp only at hk hv
    obtain ⟨q, hq, hqk⟩ := List.mem_map.mp hk
    have hl : lower k = k := by
      obtain ⟨p, -, rfl⟩ := List.mem_map.mp hq
      rw [← hqk]; exact lower_lower _
    refine ⟨hl, ?_⟩
    have : (headersGet r.scopeHeaders k).isSome := by
      rw [headersGet, Option.isSome_map']
      exact List.find?_isSome.mpr ⟨q, hq, by simp [hl, hqk]⟩
    obtain ⟨w, hw⟩ := Option.isSome_iff_exists.mp this
    simp only [hw, Option.getD_some] at hv ⊢
    rw [hv]
  · rintro ⟨hl, hv⟩
    have hv' := hv
    simp only [headersGet, Option.map_eq_some'] at hv'
    obtain ⟨q, hq, rfl⟩ := hv'
    refine ⟨List.mem_map.mpr ⟨q, List.mem_of_find?_eq_some hq, ?_⟩, by simp [hv]⟩
    simpa [hl] using List.find?_some hq

theorem lower_of_mem_headerDict {r : Request} {x : String × String}
    (h : x ∈ (headerDict r).items) : lower x.1 = x.1 :=
  (mem_headerDict.mp h).1

theorem identity_names_not_lower :
    lower "X-User-Tier" ≠ "X-User-Tier" ∧ lower "X-User-Username" ≠ "X-User-Username" := by
  decide

/-- **What goes out.** The header list handed to httpx is the copied inbound fields, then
the two identity fields exactly when a principal was resolved: their names are not lower
case, so no copied field is overwritten and neither replaces an inbound one. -/
theorem proxyHeaders_items (r : Request) (user : Option User) :
    (proxyHeaders r user).items = (stripHopByHop (headerDict r)).items ++ identityFields user := by
  cases user with
  | none => simp [proxyHeaders, identityFields]
  | some u =>
    have h1 : "X-User-Tier" ∉ (stripHopByHop (headerDict r)).keys := by
      intro h
      obtain ⟨v, hv⟩ := PyDict.mem_keys.mp h
      exact identity_names_not_lower.1 (lower_of_mem_headerDict (mem_stripHopByHop.mp hv).1)
    have h2 : "X-User-Username" ∉ ((stripHopByHop (headerDict r)).set "X-User-Tier" u.tier).keys := by
      rw [PyDict.keys_set_of_not_mem h1]
      intro h
      rcases List.mem_append.mp h with h | h
      · obtain ⟨v, hv⟩ := PyDict.mem_keys.mp h
        exact identity_names_not_lower.2 (lower_of_mem_headerDict (mem_stripHopByHop.mp hv).1)
      · simp at h
    simp [proxyHeaders, identityFields, PyDict.set_of_not_mem h1, PyDict.set_of_not_mem h2]

/-- The header list of the request sent to the backend. -/
theorem outboundRequest_headers {chk : NetlocChecks} {s : Settings} {method : String}
    {path : List Char} {r : Request} {user : Option User} {out : OutboundRequest}
    (h : outboundRequest chk s method path r user = .ok out) :
    out.headers = (stripHopByHop (headerDict r)).items ++ identityFields user := by
  unfold outboundRequest at h
  split at h
  · cases h
  · cases h; exact proxyHeaders_items r user

theorem outboundRequest_headers_alice :
    (⟨"GET", "http://localhost:8080/status".toList,
        [("accept", "*/*"), ("X-User-Tier", "free"), ("X-User-Username", "alice")], [], []⟩ :
        OutboundRequest).headers =
      (stripHopByHop (headerDict ⟨"GET", [("Accept", "*/*")], [], []⟩)).items ++
        identityFields (some ⟨"alice", "free"⟩) :=
  @outboundRequest_headers acceptAll defaultSettings "GET" "status".toList
    ⟨"GET", [("Accept", "*/*")], [], []⟩ (some ⟨"alice", "free"⟩) _ rfl

/-- A request that carries `X-User-Tier` itself: with no principal it reaches the backend, and
with one the backend gets two `X-User-Tier` fields, the client's first. -/
theorem client_identity_header_forwarded :
    (proxyHeaders ⟨"GET", [("X-User-Tier", "enterprise")], [], []⟩ none).items =
      [("x-user-tier", "enterprise")] ∧
    (proxyHeaders ⟨"GET", [("X-User-Tier", "enterprise")], [], []⟩ (some ⟨"alice", "free"⟩)).items =
      [("x-user-tier", "enterprise"), ("X-User-Tier", "free"), ("X-User-Username", "alice")] := by
  decide

/-- No hop-by-hop field is in the `headers` dict handed to httpx, whatever the letter case it
came in. -/
theorem proxyHeaders_no_hop_by_hop (r : Request) (user : Option User) :
    ∀ x ∈ (proxyHeaders r user).items, lower x.1 ∉ hopByHopHeaders := by
  intro x hx
  rw [proxyHeaders_items] at hx
  rcases List.mem_append.mp hx with hx | hx
  · obtain ⟨hd, hh⟩ := mem_stripHopByHop.mp hx
    rwa [lower_of_mem_headerDict hd]
  · cases user with
    | none => cases hx
    | some u =>
      simp only [identityFields, List.mem_cons, List.mem_singleton, List.not_mem_nil,
        or_false] at hx
      rcases hx with rfl | rfl <;> dsimp only <;> decide

theorem proxyHeaders_no_hop_by_hop_accept :
    ("accept", "*/*") ∈ (proxyHeaders ⟨"GET", [("Connection", "close"), ("Accept", "*/*")], [], []⟩
        none).items ∧
      lower ("accept", "*/*").1 ∉ hopByHopHeaders :=
  ⟨by decide, proxyHeaders_no_hop_by_hop ⟨"GET", [("Connection", "close"), ("Accept", "*/*")], [], []⟩
    none ("accept", "*/*") (by decide)⟩

/-- Every inbound name that is not hop-by-hop goes out, lower-cased, once, with the value
of its first field: later fields of the same name are dropped. -/
theorem mem_copiedHeaders (r : Request) (k v : String) :
    (k, v) ∈ (stripHopByHop (headerDict r)).items ↔
      k ∉ hopByHopHeaders ∧ lower k = k ∧ headersGet r.scopeHeaders k = some v := by
  rw [mem_stripHopByHop, mem_headerDict]
  tauto

/-- Two fields of one name and a repeated query key: only the first header value and the
last query value reach the backend. -/
theorem repeated_fields_collapse (chk : NetlocChecks) :
    outboundRequest chk defaultSettings "GET" "status".toList
      ⟨"GET", [("X-Forwarded-For", "a"), ("Connection", "close"), ("x-forwarded-for", "b")],
        [("a", "1"), ("a", "2")], [1, 2]⟩ none =
      .ok ⟨"GET", "http://localhost:8080/status".toList, [("x-forwarded-for", "a")], [1, 2],
        [("a", "2")]⟩ := rfl

/-! ## The response returned to the caller -/

/-- How `client.request(...)` ends: a response, `httpx.TimeoutException`, another
`httpx.RequestError`, or any other exception. -/
inductive BackendReply where
  | response (b : BackendResponse)
  | timeout
  | requestError
  | failed (name : String)
  deriving DecidableEq, Repr

/-- The `try` block of `proxy_request` after the request is sent. Reading the content runs
its decoders; a `DecodingError` is an `httpx.RequestError`. -/
def relayResponse (dec : Decoders) : BackendReply → Except Raised Response
  | .response b =>
    match decodeContent dec b.headers b.body with
    | some content =>
      .ok (buildResponse content b.status (stripHopByHop (httpxHeaderDict b.headers)))
    | none => .error (.http 502 "Backend service unavailable")
  | .timeout => .error (.http 504 "Backend service timeout")
  | .requestError => .error (.http 502 "Backend service unavailable")
  | .failed name => .error (.other name)

/-- `proxy_request(method, path, request, user)`, the backend ending its call as `reply`. -/
def proxyRequest (chk : NetlocChecks) (dec : Decoders) (s : Settings) (method : String)
    (path : List Char) (r : Request) (user : Option User) (reply : BackendReply) :
    Except Raised Response :=
  match outboundRequest chk s method path r user with
  | .error e => .error e
  | .ok _ => relayResponse dec reply

theorem mem_httpxHeaderDict {hs : List (String × String)} {k v : String} :
    (k, v) ∈ (httpxHeaderDict hs).items ↔ k ∈ hs.map (fun p => lower p.1) ∧
      v = ", ".intercalate ((hs.filter (fun p => lower p.1 = lower k)).map Prod.snd) := by
  simp [httpxHeaderDict]

theorem lower_of_mem_httpxHeaderDict {hs : List (String × String)} {x : String × String}
    (h : x ∈ (httpxHeaderDict hs).items) : lower x.1 = x.1 := by
  obtain ⟨p, -, e⟩ := List.mem_map.mp (mem_httpxHeaderDict.mp h).1
  rw [← e, lower_lower]

theorem mem_buildResponse {c : List UInt8} {st : Nat} {d : PyDict} {x : String × String}
    (h : x ∈ (buildResponse c st d).headers) :
    (∃ y ∈ d.items, x = (lower y.1, y.2)) ∨ x = ("content-length", toString c.length) := by
  simp only [buildResponse] at h
  split at h
  · rcases List.mem_append.mp h with h | h
    · obtain ⟨y, hy, rfl⟩ := List.mem_map.mp h
      exact .inl ⟨y, hy, rfl⟩
    · exact .inr (List.mem_singleton.mp h)
  · obtain ⟨y, hy, rfl⟩ := List.mem_map.mp h
    exact .inl ⟨y, hy, rfl⟩

theorem mem_buildResponse_of_mem {c : List UInt8} {st : Nat} {d : PyDict} {y : String × String}
    (h : y ∈ d.items) : (lower y.1, y.2) ∈ (buildResponse c st d).headers := by
  simp only [buildResponse]
  split
  · exact List.mem_append_left _ (List.mem_map_of_mem _ h)
  · exact List.mem_map_of_mem _ h

/-- **What comes back.** A response the caller gets has the backend's status, the decoded
content as its body, no hop-by-hop field, and each other name the backend sent, lower-cased,
with all its values joined by `", "` into one field. -/
theorem relayResponse_ok {dec : Decoders} {reply : BackendReply} {resp : Response}
    (h : relayResponse dec reply = .ok resp) :
    ∃ b, reply = .response b ∧ resp.status = b.status ∧
      decodeContent dec b.headers b.body = some resp.body ∧
      (∀ x ∈ resp.headers, x.1 ∉ hopByHopHeaders) ∧
      ∀ p ∈ b.headers, lower p.1 ∉ hopByHopHeaders →
        (lower p.1, ", ".intercalate ((b.headers.filter (fun q => lower q.1 = lower p.1)).map
          Prod.snd)) ∈ resp.headers := by
  cases reply with
  | response b =>
    simp only [relayResponse] at h
    split at h
    · next content hc =>
      cases h
      refine ⟨b, rfl, rfl, hc, fun x hx => ?_, fun p hp hh => ?_⟩
      · rcases mem_buildResponse hx with ⟨y, hy, rfl⟩ | rfl
        · obtain ⟨hd, hy⟩ := mem_stripHopByHop.mp hy
          rwa [lower_of_mem_httpxHeaderDict hd]
        · dsimp only; decide
      · have hm : (lower p.1, ", ".intercalate ((b.headers.filter
            (fun q => lower q.1 = lower p.1)).map Prod.snd)) ∈
            (stripHopByHop (httpxHeaderDict b.headers)).items :=
          mem_stripHopByHop.mpr ⟨mem_httpxHeaderDict.mpr
            ⟨List.mem_map_of_mem _ hp, by rw [lower_lower]⟩, hh⟩
        simpa using @mem_buildResponse_of_mem content b.status _ _ hm
    · cases h
  | timeout => cases h
  | requestError => cases h
  | failed n => cases h

theorem relayResponse_ok_cookie :
    relayResponse identityDecoders (.response ⟨200, [("Set-Cookie", "a=1")], [1]⟩) =
        .ok ⟨200, [("set-cookie", "a=1"), ("content-length", "1")], [1]⟩ ∧
      ∃ b, (.response ⟨200, [("Set-Cookie", "a=1")], [1]⟩ : BackendReply) = .response b ∧
        (200 : Nat) = b.status ∧ decodeContent identityDecoders b.headers b.body = some [1] ∧
        (∀ x ∈ [("set-cookie", "a=1"), ("content-length", "1")], x.1 ∉ hopByHopHeaders) ∧
        ∀ p ∈ b.headers, lower p.1 ∉ hopByHopHeaders →
          (lower p.1, ", ".intercalate ((b.headers.filter (fun q => lower q.1 = lower p.1)).map
            Prod.snd)) ∈ [("set-cookie", "a=1"), ("content-length", "1")] :=
  ⟨rfl, @relayResponse_ok identityDecoders _
    ⟨200, [("set-cookie", "a=1"), ("content-length", "1")], [1]⟩ (by rfl)⟩

/-- Two `Set-Cookie` fields from the backend reach the caller as one field holding both
cookies. -/
theorem set_cookie_fields_merged (dec : Decoders) :
    relayResponse dec (.response ⟨200, [("Set-Cookie", "a=1"), ("Set-Cookie", "b=2")], [111, 107]⟩) =
      .ok ⟨200, [("set-cookie", "a=1, b=2"), ("content-length", "2")], [111, 107]⟩ := rfl

/-! ## The health probe -/

/-- What `client.get` of the health url gives: a response with its status, or an exception
(a timeout, a transport error, a url httpx refuses). -/
inductive ProbeReply where
  | status (code : Nat)
  | raised
  deriving DecidableEq, Repr

/-- The `try` body of `check_backend_health` after the `GET`, with its `except Exception`. -/
def healthStatus : ProbeReply → String
  | .status code => if code = 200 then "healthy" else "unhealthy"
  | .raised => "unreachable"

/-- `check_backend_health`, with the backend's answer to a `GET` of each url. A `ValueError`
of `urljoin` is caught by the same `except Exception`. -/
def checkBackendHealth (chk : NetlocChecks) (s : Settings) (probe : List Char → ProbeReply) :
    String :=
  match urljoin chk s.backendUrl "/health".toList with
  | .error _ => "unreachable"
  | .ok url => healthStatus (probe url)

/-- The health probe asks the root of the backend's origin: whatever path the configured
`backend_url` has, `check_backend_health` reports on the answer to `scheme://netloc/health`
alone. -/
theorem checkBackendHealth_probes_origin (chk : NetlocChecks) (s : Settings)
    (probe : List Char → ProbeReply) {pb : ParseResult}
    (hb : urlparse chk s.backendUrl [] = .ok pb) (hrel : pb.scheme ∈ usesRelative) :
    checkBackendHealth chk s probe =
      healthStatus (probe (urlunparse ⟨pb.scheme, pb.netloc, "/health".toList, [], [], []⟩)) := by
  rw [checkBackendHealth, show "/health".toList = '/' :: "health".toList from rfl,
    urljoin_root_segment hb hrel (by decide)]

theorem checkBackendHealth_probes_origin_api :
    urlparse acceptAll "http://localhost:8080/api/v1".toList [] =
        .ok ⟨"http".toList, "localhost:8080".toList, "/api/v1".toList, [], [], []⟩ ∧
      "http".toList ∈ usesRelative ∧
      urlunparse ⟨"http".toList, "localhost:8080".toList, "/health".toList, [], [], []⟩ =
        "http://localhost:8080/health".toList ∧
      ∀ probe, checkBackendHealth acceptAll { backendUrl := "http://localhost:8080/api/v1".toList }
        probe = healthStatus (probe (urlunparse
          ⟨"http".toList, "localhost:8080".toList, "/health".toList, [], [], []⟩)) :=
  ⟨rfl, by decide, rfl, fun probe => checkBackendHealth_probes_origin acceptAll
    { backendUrl := "http://localhost:8080/api/v1".toList } probe rfl (by decide)⟩

end SprintGateway
