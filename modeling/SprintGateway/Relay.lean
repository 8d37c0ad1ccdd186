import Mathlib.Data.List.Infix
import SprintGateway.Auth
import SprintGateway.Url

/- The WebSocket relay: `ws_proxy`, the url of its companion connection, and the
   registry of open connections that `WebSocketProxy.connect` keeps with the
   `ACTIVE_CONNECTIONS` gauge.

   `ws_proxy` is built once, at import, on
   `urljoin(settings.backend_url.replace("http", "ws"), "/ws")`. `str.replace` rewrites
   every `http` of the url, not only the scheme's.

   `connect` accepts the websocket, appends it to `active_connections` and increments the
   gauge with no `await` in between, then runs its `try`; the `finally` removes the
   websocket if it is still listed and decrements the gauge, again with no `await`. A run
   interleaves with the others only at its `await`s, and each `await` either returns or
   raises: a refused upgrade, a client disconnect, a backend error and a cancellation
   (`CancelledError`, which `except Exception` does not catch) all leave the `try` through
   the `finally`.

   What is proved:
     1. `backendWsUrl_scheme_only` — for a backend url `http:` or `https:` in which `http`
        occurs nowhere after the scheme, the relay url is `ws:` or `wss:`, `//`, the
        backend's netloc, and `/ws`.
     2. `backendWsUrl_rewrites_host` — a backend host containing `http` is rewritten as
        well, and an upper-case `HTTP:` scheme is not rewritten at all.
     3. `relayRun_runs` — in every interleaving, where the relay has each run is where
        that run's own steps (`opsOf`) take it (`connStep`, `connPhase`).
     4. `relayInv_run` — over every interleaving of any number of runs of `connect`, each
        ending by any path, the gauge is its initial value plus the length of the list,
        the list has no repeats, and it holds exactly the websockets of the runs inside
        their `try`.
     5. `relay_gauge_tracks_active` — the same from the start, and once the steps of every
        run have taken it out of `connect` the list is empty and the gauge back at its
        initial value; `relay_active_iff_open` — the list is exactly the runs whose own
        steps have taken them inside their `try`.

   ── PROVED vs ASSUMED ──────────────────────────────────────────────────────────
   A websocket is named by the run that accepted it: Starlette's connections compare
   equal only to themselves (`HTTPConnection.__eq__` is `object.__eq__`), so `in` and
   `remove` on `active_connections` go by that name. The gauge is kept as an integer; its
   float counts whole numbers exactly. Every `await` of `connect` is a point where other
   runs may step and where the awaited call may raise; this allows more interleavings
   than the event loop produces, never fewer.

   `websocket_endpoint` declares `user: Optional[User] = Depends(authenticate_request)`.
   FastAPI hands a dependency its `Request` parameter only on an HTTP request, so on the
   websocket route `authenticate_request` is called without it and raises `TypeError`
   before the endpoint runs: the shipped app never reaches `ws_proxy.connect`. What is
   modelled is `connect` itself, as any caller that reaches it runs it.

   Correspondence (Python ↔ Lean):
     `ws_proxy.backend_ws_url`                    ↔ `backendWsUrl`
     the `await`s of `connect` and its `try`      ↔ `ConnPhase`, `BodyPoint`
     `ACTIVE_CONNECTIONS`, `active_connections`   ↔ `Relay.gauge`, `Relay.active`
     `connect` up to its `try`, one `await` on    ↔ `relayStep`
     the `finally` block                          ↔ `connFinally`
     one call of `connect`, its steps alone       ↔ `opsOf`, `connStep`, `connPhase`
-/
namespace SprintGateway

/-! ## The url of the companion connection -/

/-- `ws_proxy.backend_ws_url`: `urljoin(settings.backend_url.replace("http", "ws"), "/ws")`. -/
def backendWsUrl (chk : NetlocChecks) (s : Settings) : Except String (List Char) :=
  urljoin chk (strReplace "http".toList "ws".toList s.backendUrl) "/ws".toList

theorem not_http_infix_cons {c : Char} {rest : List Char} (hc : c ≠ 'h')
    (h : ¬ "http".toList <:+: rest) : ¬ "http".toList <:+: c :: rest := by
  rw [List.infix_cons_iff]
  rintro (hp | hi)
  · exact hc (List.cons_prefix_cons.mp hp).1.symm
  · exact h hi

/-- On a url `http:…` or `https:…` with no other `http`, `replace` rewrites the scheme
only. -/
theorem strReplace_http_scheme {sch rest : List Char}
    (hsch : sch = "http".toList ∨ sch = "https".toList) (hrest : ¬ "http".toList <:+: rest) :
    strReplace "http".toList "ws".toList (sch ++ ':' :: rest) =
      (if sch = "http".toList then "ws".toList else "wss".toList) ++ ':' :: rest := by
  rcases hsch with rfl | rfl
  · rw [strReplace_old_append (by decide), strReplace_of_not_infix _ (not_http_infix_cons (by decide) hrest)]
    rfl
  · rw [show "https".toList ++ ':' :: rest = "http".toList ++ 's' :: ':' :: rest from rfl,
      strReplace_old_append (by decide), strReplace_of_not_infix _
        (not_http_infix_cons (by decide) (not_http_infix_cons (by decide) hrest))]
    rfl

theorem schemeOk_ws_wss (sch : List Char) :
    SchemeOk (if sch = "http".toList then "ws".toList else "wss".toList) := by
  split_ifs
  · exact ⟨'w', "s".toList, rfl, by decide, by decide⟩
  · exact ⟨'w', "ss".toList, rfl, by decide, by decide⟩

/-- **Only the scheme is rewritten, when `http` occurs nowhere else.** For a backend url
`http:…` or `https:…` in which `http` does not occur after the scheme, the relay url is
`ws` or `wss`, then `://`, the netloc `urlparse` reads from the backend url, and `/ws`. -/
theorem backendWsUrl_scheme_only (chk : NetlocChecks) (s : Settings) {sch rest : List Char}
    {pb : ParseResult} (hsch : sch = "http".toList ∨ sch = "https".toList)
    (hb : s.backendUrl = sch ++ ':' :: rest) (hrest : ¬ "http".toList <:+: rest)
    (hp : urlparse chk s.backendUrl [] = .ok pb) :
    backendWsUrl chk s = .ok ((if sch = "http".toList then "ws".toList else "wss".toList) ++
      "://".toList ++ pb.netloc ++ "/ws".toList) := by
  have hsok : SchemeOk sch := by
    rcases hsch with rfl | rfl
    · exact ⟨'h', "ttp".toList, rfl, by decide, by decide⟩
    · exact ⟨'h', "ttps".toList, rfl, by decide, by decide⟩
  rw [hb] at hp
  obtain ⟨pw, hpw, hws, hnet⟩ := urlparse_swap_scheme (schemeOk_ws_wss sch) hsok hp
  have hrel : pw.scheme ∈ usesRelative := by rw [hws]; split_ifs <;> decide
  have hnl : pw.scheme ∈ usesNetloc := usesRelative_usesNetloc _ hrel
  have hne : pw.scheme ≠ [] := by rw [hws]; split_ifs <;> decide
  rw [backendWsUrl, hb, strReplace_http_scheme hsch hrest,
    show "/ws".toList = '/' :: "ws".toList from rfl, urljoin_root_segment hpw hrel (by decide),
    urlunparse_root_segment hne hnl (by decide), hws, hnet]
  simp

theorem backendWsUrl_scheme_only_default :
    defaultSettings.backendUrl = "http".toList ++ ':' :: "//localhost:8080".toList ∧
      ¬ "http".toList <:+: "//localhost:8080".toList ∧
      urlparse acceptAll defaultSettings.backendUrl [] =
        .ok ⟨"http".toList, "localhost:8080".toList, [], [], [], []⟩ ∧
      backendWsUrl acceptAll defaultSettings = .ok ((if "http".toList = "http".toList then
        "ws".toList else "wss".toList) ++ "://".toList ++ "localhost:8080".toList ++ "/ws".toList) :=
  ⟨rfl, by decide, rfl, backendWsUrl_scheme_only acceptAll defaultSettings (.inl rfl) rfl
    (by decide) rfl⟩

/-- A backend host containing `http` is rewritten too, so the relay would connect to another
host; and a scheme spelled `HTTP`, which `urlsplit` reads as `http`, is not rewritten, so the
relay url keeps the scheme `http`. -/
theorem backendWsUrl_rewrites_host :
    backendWsUrl acceptAll { backendUrl := "http://httpbin.org".toList } =
        .ok "ws://wsbin.org/ws".toList ∧
      (splitParts "ws://wsbin.org/ws".toList []).netloc ≠
        (splitParts "http://httpbin.org".toList []).netloc ∧
      backendWsUrl acceptAll { backendUrl := "HTTP://backend:8080".toList } =
        .ok "http://backend:8080/ws".toList ∧
      (splitParts "HTTP://backend:8080".toList []).scheme = "http".toList :=
  ⟨rfl, by decide, rfl, rfl⟩

/-! ## The runs of `connect` -/

/-- The `await`s of `connect` inside its `try`, in program order. -/
inductive BodyPoint where
  /-- Entering `async with httpx.AsyncClient() as client`. -/
  | openClient
  /-- Entering `async with client.stream("GET", self.backend_ws_url, ...)`: the response. -/
  | openStream
  /-- `await websocket.send_text("WebSocket upgrade failed")`. -/
  | sendRefusal
  /-- `await self._handle_websocket_communication(websocket, response)`. -/
  | relay
  /-- Leaving the `client.stream(...)` block. -/
  | closeStream
  /-- Leaving the `AsyncClient()` block. -/
  | closeClient
  deriving DecidableEq, Repr

/-- The `await` that follows `p` when the awaited call returns (`status` is the backend's
`response.status_code`, read at `openStream`); `none` when the `try` body is over. -/
def BodyPoint.next (status : Nat) : BodyPoint → Option BodyPoint
  | .openClient => some .openStream
  | .openStream => some (if status ≠ 101 then .sendRefusal else .relay)
  | .sendRefusal => some .closeStream
  | .relay => some .closeStream
  | .closeStream => some .closeClient
  | .closeClient => none

/-- Where a run of `connect` stands. -/
inductive ConnPhase where
  /-- At `await websocket.accept()`, before the `try`. -/
  | accepting
  /-- At an `await` inside the `try`. -/
  | body (p : BodyPoint)
  /-- Returned or raised out of `connect`. -/
  | ended
  deriving DecidableEq, Repr

/-- What happens to run `j` at its `await`. -/
inductive ConnOp where
  /-- `websocket_endpoint` calls `ws_proxy.connect`. -/
  | call
  /-- The awaited call returns, with the backend's status where one is read. -/
  | resume (status : Nat)
  /-- The awaited call raises, or the task is cancelled there. -/
  | raise
  deriving DecidableEq, Repr

/-- The gauge, `ws_proxy.active_connections` (each websocket by the run that accepted it),
and where each run stands (`none`: not called yet). -/
structure Relay where
  gauge : Int
  active : List Nat
  runs : Nat → Option ConnPhase

/-- `ws_proxy` at import, with the gauge at `g₀`. -/
def relayInit (g₀ : Int) : Relay := ⟨g₀, [], fun _ => none⟩

/-- The `finally` block of run `j`: its websocket removed if listed, the gauge decremented. -/
def connFinally (s : Relay) (j : Nat) : Relay :=
  { s with
    gauge := s.gauge - 1
    active := if j ∈ s.active then s.active.erase j else s.active
    runs := Function.update s.runs j (some .ended) }

/-- Run `j` goes on from its `await`. After `accept` returns, the append and the increment
come before the next `await`; a raise at `accept` leaves `connect` with no `finally`; a
raise inside the `try`, or the end of its body, runs the `finally`. -/
def relayStep (s : Relay) (j : Nat) (op : ConnOp) : Relay :=
  match op, s.runs j with
  | .call, none => { s with runs := Function.update s.runs j (some .accepting) }
  | .resume _, some .accepting =>
    { s with
      gauge := s.gauge + 1
      active := s.active ++ [j]
      runs := Function.update s.runs j (some (.body .openClient)) }
  | .raise, some .accepting => { s with runs := Function.update s.runs j (some .ended) }
  | .resume status, some (.body p) =>
    match p.next status with
    | some q => { s with runs := Function.update s.runs j (some (.body q)) }
    | none => connFinally s j
  | .raise, some (.body _) => connFinally s j
  | _, _ => s

/-- A run of the relay: the steps of all runs, interleaved. -/
def relayRun (s : Relay) (acts : List (Nat × ConnOp)) : Relay :=
  acts.foldl (fun s a => relayStep s a.1 a.2) s

/-- Run `j` is inside its `try`. -/
def Relay.Open (s : Relay) (j : Nat) : Prop := ∃ p, s.runs j = some (.body p)

/-! ## One run on its own

The control flow of one call of `connect`, read from the steps it alone takes: where it
stands after each of them, whatever the other runs do in between. -/

/-- Where a run of `connect` goes on one of its own steps. -/
def connStep : Option ConnPhase → ConnOp → Option ConnPhase
  | none, .call => some .accepting
  | some .accepting, .resume _ => some (.body .openClient)
  | some .accepting, .raise => some .ended
  | some (.body p), .resume status =>
    match p.next status with
    | some q => some (.body q)
    | none => some .ended
  | some (.body _), .raise => some .ended
  | x, _ => x

/-- The steps run `j` takes in an interleaving, in order. -/
def opsOf (j : Nat) (acts : List (Nat × ConnOp)) : List ConnOp :=
  acts.filterMap fun a => if a.1 = j then some a.2 else none

/-- Where a run stands after its own steps, from before its call. -/
def connPhase (ops : List ConnOp) : Option ConnPhase := ops.foldl connStep none

/-! ## What a step does -/

/-- The four things a step can do: nothing, move a run between two points both inside or
both outside the `try`, accept, or run the `finally` of a run inside the `try`. -/
theorem relayStep_cases (s : Relay) (j : Nat) (op : ConnOp) :
    relayStep s j op = s ∨
    (∃ x, (s.Open j ↔ ∃ p, x = some (ConnPhase.body p)) ∧
      relayStep s j op = { s with runs := Function.update s.runs j x }) ∨
    (s.runs j = some .accepting ∧ relayStep s j op =
      { s with
        gauge := s.gauge + 1
        active := s.active ++ [j]
        runs := Function.update s.runs j (some (.body .openClient)) }) ∨
    (s.Open j ∧ relayStep s j op = connFinally s j) := by
  unfold relayStep
  split
  · next h => exact .inr (.inl ⟨_, by simp [Relay.Open, h], rfl⟩)
  · next h => exact .inr (.inr (.inl ⟨h, rfl⟩))
  · next h => exact .inr (.inl ⟨_, by simp [Relay.Open, h], rfl⟩)
  · next p h =>
    split
    · exact .inr (.inl ⟨_, ⟨fun _ => ⟨_, rfl⟩, fun _ => ⟨p, h⟩⟩, rfl⟩)
    · exact .inr (.inr (.inr ⟨⟨p, h⟩, rfl⟩))
  · next p h => exact .inr (.inr (.inr ⟨⟨p, h⟩, rfl⟩))
  · exact .inl rfl

/-- A step of run `j` moves run `j` as its own control flow says and no other run. -/
theorem relayStep_runs (s : Relay) (j k : Nat) (op : ConnOp) :
    (relayStep s j op).runs k = if k = j then connStep (s.runs j) op else s.runs k := by
  by_cases hk : k = j
  · subst hk
    rcases op with _ | st | _ <;> rcases h : s.runs k with _ | _ | p | _ <;>
      simp only [relayStep, connStep, connFinally, h, Function.update_same, if_true]
    cases p.next st <;> simp
  · rw [if_neg hk]
    unfold relayStep connFinally
    split <;> (try split) <;> simp [Function.update_noteq hk]

/-- **Each run as it sees itself.** In every interleaving, the relay's record of run `j` is
where `j`'s own steps take it. -/
theorem relayRun_runs (s : Relay) (acts : List (Nat × ConnOp)) (j : Nat) :
    (relayRun s acts).runs j = (opsOf j acts).foldl connStep (s.runs j) := by
  induction acts generalizing s with
  | nil => rfl
  | cons a acts ih =>
    rw [relayRun, List.foldl_cons, ← relayRun, ih, relayStep_runs]
    by_cases h : a.1 = j
    · simp [opsOf, h]
    · simp [opsOf, h, Ne.symm h]

theorem relayRun_init_runs (g₀ : Int) (acts : List (Nat × ConnOp)) (j : Nat) :
    (relayRun (relayInit g₀) acts).runs j = connPhase (opsOf j acts) :=
  relayRun_runs _ acts j

/-! ## The invariant -/

/-- The gauge counts the list, the list has no repeats, and it holds exactly the websockets
of the runs inside their `try`. -/
structure RelayInv (g₀ : Int) (s : Relay) : Prop where
  gauge : s.gauge = g₀ + s.active.length
  nodup : s.active.Nodup
  active_iff : ∀ j, j ∈ s.active ↔ s.Open j

theorem relayInv_init (g₀ : Int) : RelayInv g₀ (relayInit g₀) where
  gauge := by simp [relayInit]
  nodup := List.nodup_nil
  active_iff j := by simp [relayInit, Relay.Open]

section
variable {g₀ : Int} {s : Relay} {j : Nat}

/-- Moving a run without crossing the edge of its `try` keeps the invariant. -/
theorem RelayInv.move (hi : RelayInv g₀ s) {x : Option ConnPhase}
    (hx : s.Open j ↔ ∃ p, x = some (.body p)) :
    RelayInv g₀ { s with runs := Function.update s.runs j x } where
  gauge := hi.gauge
  nodup := hi.nodup
  active_iff k := by
    rw [hi.active_iff]
    by_cases hk : k = j
    · subst hk; simpa [Relay.Open] using hx
    · simp [Relay.Open, hk]

/-- Accepting lists the websocket once and counts it. -/
theorem RelayInv.accept (hi : RelayInv g₀ s) (h : s.runs j = some .accepting) :
    RelayInv g₀ { s with
      gauge := s.gauge + 1
      active := s.active ++ [j]
      runs := Function.update s.runs j (some (.body .openClient)) } where
  gauge := by simp [hi.gauge]; omega
  nodup := by
    have hj : j ∉ s.active := fun hj => by
      obtain ⟨p, hp⟩ := (hi.active_iff j).mp hj
      rw [h] at hp; cases hp
    exact List.nodup_append.mpr ⟨hi.nodup, List.nodup_singleton j, by simpa using hj⟩
  active_iff k := by
    rw [List.mem_append, List.mem_singleton, hi.active_iff]
    by_cases hk : k = j
    · subst hk; simp [Relay.Open]
    · simp [Relay.Open, hk]

/-- The `finally` of a run inside its `try` finds its websocket listed, removes it and
uncounts it. -/
theorem RelayInv.finally (hi : RelayInv g₀ s) (h : s.Open j) : RelayInv g₀ (connFinally s j) := by
  have hj : j ∈ s.active := (hi.active_iff j).mpr h
  refine ⟨?_, ?_, fun k => ?_⟩
  · simp only [connFinally, if_pos hj, List.length_erase_of_mem hj, hi.gauge]
    have := List.length_pos_of_mem hj
    omega
  · simpa only [connFinally, if_pos hj] using hi.nodup.erase j
  · simp only [connFinally, if_pos hj, hi.nodup.mem_erase_iff, hi.active_iff]
    by_cases hk : k = j
    · subst hk; simp [Relay.Open]
    · simp [Relay.Open, hk]

theorem RelayInv.step (hi : RelayInv g₀ s) (op : ConnOp) : RelayInv g₀ (relayStep s j op) := by
  rcases relayStep_cases s j op with h | ⟨x, hx, h⟩ | ⟨ha, h⟩ | ⟨ho, h⟩ <;> rw [h]
  · exact hi
  · exact hi.move hx
  · exact hi.accept ha
  · exact hi.finally ho

end

/-- **The registry over whole runs.** From any state that keeps the invariant, every
interleaving of steps of any runs keeps it. -/
theorem relayInv_run {g₀ : Int} {s : Relay} (hi : RelayInv g₀ s) (acts : List (Nat × ConnOp)) :
    RelayInv g₀ (relayRun s acts) := by
  induction acts generalizing s with
  | nil => exact hi
  | cons a acts ih => exact ih (hi.step a.2)

/-- `active_connections` holds exactly the websockets of the runs of `connect` whose own
steps have taken them inside their `try`, at every point of every interleaving. -/
theorem relay_active_iff_open (g₀ : Int) (acts : List (Nat × ConnOp)) (j : Nat) :
    j ∈ (relayRun (relayInit g₀) acts).active ↔ ∃ p, connPhase (opsOf j acts) = some (.body p) := by
  rw [(relayInv_run (relayInv_init g₀) acts).active_iff j, Relay.Open, relayRun_init_runs]

/-- **The gauge tracks the registry.** Over every interleaving of any number of runs of
`connect`, each ending by any path: the gauge is its initial value plus the length of
`active_connections`, no websocket is listed twice, and once the steps of every run have
taken it out of `connect` (or it was never called) the list is empty and the gauge back at
its initial value. -/
theorem relay_gauge_tracks_active (g₀ : Int) (acts : List (Nat × ConnOp)) :
    (relayRun (relayInit g₀) acts).gauge = g₀ + (relayRun (relayInit g₀) acts).active.length ∧
    (relayRun (relayInit g₀) acts).active.Nodup ∧
    ((∀ j, connPhase (opsOf j acts) = none ∨ connPhase (opsOf j acts) = some .ended) →
      (relayRun (relayInit g₀) acts).active = [] ∧ (relayRun (relayInit g₀) acts).gauge = g₀) := by
  have hi := relayInv_run (relayInv_init g₀) acts
  refine ⟨hi.gauge, hi.nodup, fun hend => ?_⟩
  have hnil : (relayRun (relayInit g₀) acts).active = [] := by
    refine List.eq_nil_iff_forall_not_mem.mpr fun j hj => ?_
    obtain ⟨p, hp⟩ := (hi.active_iff j).mp hj
    rw [relayRun_init_runs] at hp
    rcases hend j with h | h <;> rw [h] at hp <;> cases hp
  exact ⟨hnil, by rw [hi.gauge, hnil]; simp⟩

end SprintGateway
