import Mathlib.Data.List.Nodup
import Mathlib.Data.List.Perm.Subperm
import SprintGateway.Store

/- The per-user rate limiter of `proxy_all_requests`, run by any number of concurrent
   handlers against one Redis store.

   A handler whose request resolved a principal sends `INCR rate_limit:{username}`, and
   `EXPIRE key 60` when the value is 1; then it compares the value with its tier's limit
   and either goes on to `proxy_request` or records a 429. Each `await` is a point where
   other handlers run, so a run of the system is any interleaving of the handlers' store
   commands, with the clock advancing in between (`Action`). A handler may also stop after
   any of its steps: a store command that raises ends it in the `except Exception` branch,
   and a cancelled or crashed request just ends (`Op.abandon`).

   What is proved:
     1. `inv_run` — in every reachable state, every value a handler or a verdict carries
        was handed out by `INCR` of its principal's key, and no two carry the same value
        of the same key lifetime.
     2. `arrived_reachable` — in every reachable state, every running handler and every
        verdict carries a tier its request arrived with in the run.
     3. `verdicts_within_limit` — every verdict admits exactly when the value is at most
        the limit of the tier its request arrived with, and the requests of a principal
        whose requests all arrive with one tier, admitted within one lifetime of its key,
        number at most that tier's limit.

   ── PROVED vs ASSUMED ──────────────────────────────────────────────────────────
   The store is the model of `SprintGateway.Store`: atomic `INCR` and `EXPIRE`, lazy
   expiry. The handler's principal is given by its credential and its tier is an input:
   `authenticate_request` is not rerun here. Only runs with the store connected are
   modelled; with `redis_client` unset no limit is applied at all.

   Correspondence (Python ↔ Lean):
     `tier_limits.get(user.tier, 10)`        ↔ `tierLimit`
     `f"rate_limit:{user.username}"`         ↔ `rateKey i.cred.username`
     `current = await redis_client.incr(key)` ↔ `Op.incr`
     `await redis_client.expire(key, 60)`    ↔ `Op.expire`
     `if current > limit: ... raise 429`     ↔ `Op.check`, `Decision.admitted`
     one handler's local state               ↔ `Handler`
-/
namespace SprintGateway

/-! ## Principals, handlers and verdicts -/

/-- The credential a principal was resolved from. -/
inductive Credential where
  | apiKey (name : String)
  | bearer (sub : String)
  deriving DecidableEq, Repr

/-- The principal's `username`: `api_key_{name}` for an API key, the token's `sub`. -/
def Credential.username : Credential → String
  | .apiKey name => "api_key_" ++ name
  | .bearer sub => sub

/-- One request; `n` tells concurrent requests of one principal apart. -/
structure ReqId where
  cred : Credential
  n : Nat
  deriving DecidableEq, Repr

/-- `tier_limits`. -/
def tierLimits : List (String × Nat) := [("free", 10), ("pro", 100), ("enterprise", 1000)]

/-- `tier_limits.get(user.tier, 10)`. -/
def tierLimit (tier : String) : Nat := (tierLimits.lookup tier).getD 10

/-- The `60` of `redis_client.expire(key, 60)`, in seconds. -/
def rateWindow : Nat := 60

/-- Where a handler stands in the rate-limit block. -/
inductive Phase where
  /-- authenticated; its `INCR` not yet answered -/
  | start
  /-- `INCR` returned `value` (so 1) in the key lifetime `born`; `EXPIRE` not yet sent -/
  | expiring (born value : Nat)
  /-- `INCR` returned `value` in the key lifetime `born`; about to compare with the limit -/
  | deciding (born value : Nat)
  deriving DecidableEq, Repr

/-- One running handler: its principal's tier and its phase. -/
structure Handler where
  tier : String
  phase : Phase
  deriving DecidableEq, Repr

/-- The outcome of `if current > limit`: an `admitted` request goes on to
`proxy_request`, any other one gets 429. -/
structure Decision where
  id : ReqId
  tier : String
  born : Nat
  value : Nat
  admitted : Bool
  deriving DecidableEq, Repr

/-- The whole system: the clock (ms), the store, the running handlers and the verdicts
reached so far, oldest first. -/
structure Sys where
  now : Nat
  store : String → Option Entry
  handlers : ReqId → Option Handler
  log : List Decision

/-- One step a handler can take. -/
inductive Op where
  /-- the request arrives with its principal resolved, of tier `tier` -/
  | arrive (tier : String)
  | incr
  | expire
  | check
  /-- the handler stops: a store command raised, or the request was cancelled -/
  | abandon
  deriving DecidableEq, Repr

inductive Action where
  | tick (dt : Nat)
  | act (i : ReqId) (op : Op)
  deriving DecidableEq, Repr

/-- Handler `i` takes the step `op` at `now`, given its state and its key's entry: its new
state, the key's new entry and the verdict it reaches, if any. A step the handler is not
ready for changes nothing. -/
def opStep (now : Nat) (i : ReqId) : Op → Option Handler → Option Entry →
    Option Handler × Option Entry × List Decision
  | .arrive tier, none, e => (some ⟨tier, .start⟩, e, [])
  | .incr, some ⟨tier, .start⟩, e =>
    match incrEntry now e with
    | some (v, e') =>
      (some ⟨tier, if v = 1 then .expiring e'.born v else .deciding e'.born v⟩, some e', [])
    | none => (none, e, [])
  | .expire, some ⟨tier, .expiring b v⟩, e =>
    (some ⟨tier, .deciding b v⟩, expireEntry now rateWindow e, [])
  | .check, some ⟨tier, .deciding b v⟩, e => (none, e, [⟨i, tier, b, v, !decide (v > tierLimit tier)⟩])
  | .abandon, some _, e => (none, e, [])
  | _, h, e => (h, e, [])

/-- The step of handler `i` applied to the system: only its own state, its own key and
the log move. -/
def step (s : Sys) : Action → Sys
  | .tick dt => { s with now := s.now + dt }
  | .act i op =>
    let k := rateKey i.cred.username
    let r := opStep s.now i op (s.handlers i) (s.store k)
    { s with
      handlers := Function.update s.handlers i r.1
      store := Function.update s.store k r.2.1
      log := s.log ++ r.2.2 }

def run (s : Sys) (acts : List Action) : Sys := acts.foldl step s

/-- No handler running, no key, no verdict. -/
def init : Sys := ⟨0, fun _ => none, fun _ => none, []⟩

@[simp] theorem run_nil (s : Sys) : run s [] = s := rfl

@[simp] theorem run_cons (s : Sys) (a : Action) (acts : List Action) :
    run s (a :: acts) = run (step s a) acts := rfl

/-! ## What one step does -/

/-- The six things a handler's step can do. -/
theorem opStep_cases {now : Nat} {i : ReqId} {op : Op} {h h' : Option Handler}
    {e e' : Option Entry} {out : List Decision} (hs : opStep now i op h e = (h', e', out)) :
    (h' = h ∧ e' = e ∧ out = []) ∨
    (∃ t, h = none ∧ h' = some ⟨t, .start⟩ ∧ e' = e ∧ out = []) ∨
    (∃ t v x, h = some ⟨t, .start⟩ ∧ incrEntry now e = some (v, x) ∧ e' = some x ∧ out = [] ∧
      h' = some ⟨t, if v = 1 then .expiring x.born v else .deciding x.born v⟩) ∨
    (h' = none ∧ e' = e ∧ out = [] ∧ (op = .abandon ∨ ∃ t, h = some ⟨t, .start⟩)) ∨
    (∃ t b v, h = some ⟨t, .expiring b v⟩ ∧ h' = some ⟨t, .deciding b v⟩ ∧
      e' = expireEntry now rateWindow e ∧ out = []) ∨
    (∃ t b v, h = some ⟨t, .deciding b v⟩ ∧ h' = none ∧ e' = e ∧
      out = [⟨i, t, b, v, !decide (v > tierLimit t)⟩]) := by
  unfold opStep at hs
  split at hs
  · simp only [Prod.mk.injEq] at hs
    exact .inr (.inl ⟨_, rfl, hs.1.symm, hs.2.1.symm, hs.2.2.symm⟩)
  · split at hs <;> simp only [Prod.mk.injEq] at hs
    · exact .inr (.inr (.inl ⟨_, _, _, rfl, ‹_›, hs.2.1.symm, hs.2.2.symm, hs.1.symm⟩))
    · exact .inr (.inr (.inr (.inl ⟨hs.1.symm, hs.2.1.symm, hs.2.2.symm, .inr ⟨_, rfl⟩⟩)))
  · simp only [Prod.mk.injEq] at hs
    exact .inr (.inr (.inr (.inr (.inl ⟨_, _, _, rfl, hs.1.symm, hs.2.1.symm, hs.2.2.symm⟩))))
  · simp only [Prod.mk.injEq] at hs
    exact .inr (.inr (.inr (.inr (.inr ⟨_, _, _, rfl, hs.1.symm, hs.2.1.symm, hs.2.2.symm⟩))))
  · simp only [Prod.mk.injEq] at hs
    exact .inr (.inr (.inr (.inl ⟨hs.1.symm, hs.2.1.symm, hs.2.2.symm, .inl rfl⟩)))
  · simp only [Prod.mk.injEq] at hs
    exact .inl ⟨hs.1.symm, hs.2.1.symm, hs.2.2.symm⟩

/-- A verdict reached in handler `i`'s step is about request `i`. -/
theorem opStep_out_id {now : Nat} {i : ReqId} {op : Op} {h : Option Handler}
    {e : Option Entry} {d : Decision} (hd : d ∈ (opStep now i op h e).2.2) : d.id = i := by
  rcases hr : opStep now i op h e with ⟨h', e', out⟩
  rw [hr] at hd
  rcases opStep_cases hr with ⟨-, -, rfl⟩ | ⟨_, -, -, -, rfl⟩ | ⟨_, _, _, -, -, -, rfl, -⟩ |
    ⟨-, -, rfl, -⟩ | ⟨_, _, _, -, -, -, rfl⟩ | ⟨_, _, _, -, -, -, rfl⟩ <;> simp_all

@[simp] theorem step_tick (s : Sys) (dt : Nat) : step s (.tick dt) = { s with now := s.now + dt } := rfl

theorem step_act (s : Sys) (i : ReqId) (op : Op) :
    step s (.act i op) =
      let r := opStep s.now i op (s.handlers i) (s.store (rateKey i.cred.username))
      { s with
        handlers := Function.update s.handlers i r.1
        store := Function.update s.store (rateKey i.cred.username) r.2.1
        log := s.log ++ r.2.2 } := rfl

/-- Frame: a step of handler `i` leaves every other handler as it was. -/
@[simp] theorem step_handlers_of_ne {s : Sys} {i j : ReqId} {op : Op} (h : j ≠ i) :
    (step s (.act i op)).handlers j = s.handlers j :=
  Function.update_noteq h _ _

theorem step_act_of {s : Sys} {i : ReqId} {op : Op} {h' : Option Handler} {e' : Option Entry}
    {out : List Decision}
    (hr : opStep s.now i op (s.handlers i) (s.store (rateKey i.cred.username)) = (h', e', out)) :
    step s (.act i op) =
      { s with
        handlers := Function.update s.handlers i h'
        store := Function.update s.store (rateKey i.cred.username) e'
        log := s.log ++ out } := by
  rw [step_act, hr]

/-! ## Values handed out

An `INCR` value, once returned, is carried by its handler until the handler's verdict
records it. `Inv` says every carried or recorded value was handed out by its key and that
no value of a key lifetime is carried or recorded twice. -/

/-- A value `INCR` returned: the username whose key counted it, the key lifetime, the value. -/
structure Token where
  user : String
  born : Nat
  value : Nat
  deriving DecidableEq, Repr

/-- The key lifetime and value a handler carries, once its `INCR` has returned. -/
def Handler.counted (h : Handler) : Option (Nat × Nat) :=
  match h.phase with
  | .start => none
  | .expiring b v => some (b, v)
  | .deciding b v => some (b, v)

def Decision.token (d : Decision) : Token := ⟨d.id.cred.username, d.born, d.value⟩

/-- Handler `i` of `hs` carries the value `tok`. -/
def Holding (hs : ReqId → Option Handler) (i : ReqId) (tok : Token) : Prop :=
  tok.user = i.cred.username ∧ ∃ h, hs i = some h ∧ h.counted = some (tok.born, tok.value)

/-- `tok` was handed out by its user's key in `st`. -/
def Token.IssuedIn (tok : Token) (st : String → Option Entry) : Prop :=
  Issued (st (rateKey tok.user)) tok.born tok.value

structure Inv (s : Sys) : Prop where
  valid : ∀ k x, s.store k = some x → x.Valid s.now
  held_issued : ∀ i tok, Holding s.handlers i tok → tok.IssuedIn s.store
  logged_issued : ∀ d ∈ s.log, d.token.IssuedIn s.store
  log_nodup : (s.log.map Decision.token).Nodup
  held_fresh : ∀ i tok, Holding s.handlers i tok → tok ∉ s.log.map Decision.token
  held_unique : ∀ i j tok, Holding s.handlers i tok → Holding s.handlers j tok → i = j
  verdict : ∀ d ∈ s.log, d.admitted = !decide (d.value > tierLimit d.tier)

theorem holding_update {hs : ReqId → Option Handler} {i j : ReqId} {h' : Option Handler}
    {tok : Token} :
    Holding (Function.update hs i h') j tok ↔
      (j = i ∧ tok.user = i.cred.username ∧ ∃ x, h' = some x ∧ x.counted = some (tok.born, tok.value)) ∨
      (j ≠ i ∧ Holding hs j tok) := by
  by_cases hj : j = i
  · subst hj; simp [Holding]
  · simp [Holding, hj]

theorem holding_update_some {hs : ReqId → Option Handler} {i j : ReqId} {x : Handler}
    {b w : Nat} {tok : Token} (hx : x.counted = some (b, w)) :
    Holding (Function.update hs i (some x)) j tok ↔
      (j = i ∧ tok = ⟨i.cred.username, b, w⟩) ∨ (j ≠ i ∧ Holding hs j tok) := by
  rw [holding_update]
  rcases tok with ⟨u, b', w'⟩
  simp only [Option.some.injEq, exists_eq_left', hx, Prod.mk.injEq, Token.mk.injEq]
  constructor <;> rintro (⟨rfl, h1, h2, h3⟩ | h) <;> simp_all

/-- Replacing handler `i` by one that carries no value forgets values only. -/
theorem holding_update_of_idle {hs : ReqId → Option Handler} {i j : ReqId}
    {h' : Option Handler} {tok : Token} (hc : ∀ x, h' = some x → x.counted = none)
    (h : Holding (Function.update hs i h') j tok) : Holding hs j tok := by
  rcases holding_update.mp h with ⟨-, -, x, hx, hxc⟩ | ⟨-, h⟩
  · rw [hc x hx] at hxc; cases hxc
  · exact h

/-- Replacing handler `i` by one that carries what it carried keeps every holding. -/
theorem holding_update_of_counted {hs : ReqId → Option Handler} {i j : ReqId} {h x : Handler}
    {tok : Token} (hi : hs i = some h) (hc : x.counted = h.counted)
    (hx : Holding (Function.update hs i (some x)) j tok) : Holding hs j tok := by
  rcases holding_update.mp hx with ⟨rfl, hu, y, hy, hyc⟩ | ⟨-, hx⟩
  · cases hy; exact ⟨hu, h, hi, hc ▸ hyc⟩
  · exact hx

theorem issuedIn_update {st : String → Option Entry} {k : String} {e' : Option Entry}
    {tok : Token} (hlift : ∀ b w, Issued (st k) b w → Issued e' b w) (h : tok.IssuedIn st) :
    tok.IssuedIn (Function.update st k e') := by
  unfold Token.IssuedIn at *
  by_cases hk : rateKey tok.user = k
  · rw [hk, Function.update_same]; exact hlift _ _ (hk ▸ h)
  · rwa [Function.update_noteq hk]

theorem valid_update {st : String → Option Entry} {now : Nat} {k : String} {e' : Option Entry}
    (hv : ∀ x, e' = some x → x.Valid now) (h : ∀ k x, st k = some x → x.Valid now) :
    ∀ k' x, Function.update st k e' k' = some x → x.Valid now := by
  intro k' x hx
  by_cases hk : k' = k
  · subst hk; rw [Function.update_same] at hx; exact hv x hx
  · rw [Function.update_noteq hk] at hx; exact h k' x hx

/-! ### One lemma per kind of step -/

section
variable {s : Sys} {i : ReqId} {t : String}

/-- A step that records no verdict, gives no handler a value it did not carry, and keeps
every handed-out value handed out, keeps `Inv`. -/
theorem Inv.mono (hi : Inv s) {s' : Sys} (hlog : s'.log = s.log)
    (hvalid : ∀ k x, s'.store k = some x → x.Valid s'.now)
    (hheld : ∀ j tok, Holding s'.handlers j tok → Holding s.handlers j tok)
    (hlift : ∀ tok : Token, tok.IssuedIn s.store → tok.IssuedIn s'.store) : Inv s' where
  valid := hvalid
  held_issued j tok h := hlift tok (hi.held_issued j tok (hheld j tok h))
  logged_issued d hd := hlift _ (hi.logged_issued d (hlog ▸ hd))
  log_nodup := hlog ▸ hi.log_nodup
  held_fresh j tok h := hlog ▸ hi.held_fresh j tok (hheld j tok h)
  held_unique a b tok ha hb := hi.held_unique a b tok (hheld a tok ha) (hheld b tok hb)
  verdict d hd := hi.verdict d (hlog ▸ hd)

theorem Inv.expire (hi : Inv s) {b v : Nat} (hh : s.handlers i = some ⟨t, .expiring b v⟩) :
    Inv { s with
      handlers := Function.update s.handlers i (some ⟨t, .deciding b v⟩)
      store := Function.update s.store (rateKey i.cred.username)
        (expireEntry s.now rateWindow (s.store (rateKey i.cred.username))) } :=
  hi.mono rfl (valid_update (fun _ hx => expireEntry_valid (hi.valid _) hx) hi.valid)
    (fun j tok h => by
      -- the handler carries the same value as before its `EXPIRE`
      rcases holding_update.mp h with ⟨rfl, hu, x, hx, hxc⟩ | ⟨-, h⟩
      · cases hx; exact ⟨hu, _, hh, hxc⟩
      · exact h)
    (fun _ => issuedIn_update fun _ _ => expireEntry_issued)

theorem Inv.incr (hi : Inv s) {v : Nat} {x : Entry} (hh : s.handlers i = some ⟨t, .start⟩)
    (hinc : incrEntry s.now (s.store (rateKey i.cred.username)) = some (v, x)) :
    Inv { s with
      handlers := Function.update s.handlers i
        (some ⟨t, if v = 1 then .expiring x.born v else .deciding x.born v⟩)
      store := Function.update s.store (rateKey i.cred.username) (some x) } := by
  have hv := hi.valid (rateKey i.cred.username)
  have hc : (⟨t, if v = 1 then .expiring x.born v else .deciding x.born v⟩ : Handler).counted =
      some (x.born, v) := by
    by_cases h1 : v = 1 <;> simp [Handler.counted, h1]
  -- what the handler now carries was handed out by no one before
  have hfresh : ∀ tok : Token, tok.IssuedIn s.store → tok ≠ ⟨i.cred.username, x.born, v⟩ :=
    fun tok h he => by subst he; exact incrEntry_fresh hv hinc h rfl
  have hlift : ∀ tok : Token, tok.IssuedIn s.store →
      tok.IssuedIn (Function.update s.store (rateKey i.cred.username) (some x)) :=
    fun tok => issuedIn_update fun _ _ => incrEntry_issued hv hinc
  refine {
    valid := valid_update (fun y hy => incrEntry_valid hv (Option.some.inj hy ▸ hinc)) hi.valid
    held_issued := fun j tok h => ?_
    logged_issued := fun d hd => hlift _ (hi.logged_issued d hd)
    log_nodup := hi.log_nodup
    held_fresh := fun j tok h => ?_
    held_unique := fun a c tok ha hc' => ?_
    verdict := hi.verdict }
  · rcases (holding_update_some hc).mp h with ⟨-, rfl⟩ | ⟨-, h⟩
    · show Issued (Function.update s.store _ _ _) _ _
      rw [Function.update_same]; exact incrEntry_issued_self hinc
    · exact hlift _ (hi.held_issued j tok h)
  · rcases (holding_update_some hc).mp h with ⟨-, rfl⟩ | ⟨-, h⟩
    · intro hm
      obtain ⟨d, hd, he⟩ := List.mem_map.mp hm
      exact hfresh _ (hi.logged_issued d hd) he
    · exact hi.held_fresh j tok h
  · rcases (holding_update_some hc).mp ha with ⟨rfl, rfl⟩ | ⟨-, ha₀⟩ <;>
      rcases (holding_update_some hc).mp hc' with ⟨rfl, he⟩ | ⟨-, hc₀⟩
    · rfl
    · exact absurd rfl (hfresh _ (hi.held_issued c _ hc₀))
    · exact absurd he (hfresh _ (hi.held_issued a tok ha₀))
    · exact hi.held_unique a c tok ha₀ hc₀

theorem Inv.check (hi : Inv s) {b v : Nat} (hh : s.handlers i = some ⟨t, .deciding b v⟩) :
    Inv { s with
      handlers := Function.update s.handlers i none
      log := s.log ++ [⟨i, t, b, v, !decide (v > tierLimit t)⟩] } := by
  have hheld : Holding s.handlers i ⟨i.cred.username, b, v⟩ := ⟨rfl, _, hh, rfl⟩
  have hsub : ∀ j tok, Holding (Function.update s.handlers i none) j tok →
      j ≠ i ∧ Holding s.handlers j tok := fun j tok h => by
    rcases holding_update.mp h with ⟨-, -, y, hy, -⟩ | h
    · cases hy
    · exact h
  refine {
    valid := hi.valid
    held_issued := fun j tok h => hi.held_issued j tok (hsub j tok h).2
    logged_issued := ?_
    log_nodup := ?_
    held_fresh := fun j tok h => ?_
    held_unique := fun a c tok ha hc => hi.held_unique a c tok (hsub a tok ha).2 (hsub c tok hc).2
    verdict := ?_ }
  · simp only [List.mem_append, List.mem_singleton]
    rintro d (hd | rfl)
    · exact hi.logged_issued d hd
    · exact hi.held_issued i _ hheld
  · rw [List.map_append, List.nodup_append]
    exact ⟨hi.log_nodup, List.nodup_singleton _, List.disjoint_singleton.mpr (hi.held_fresh i _ hheld)⟩
  · obtain ⟨hj, h⟩ := hsub j tok h
    simp only [List.map_append, List.map_cons, List.map_nil, List.mem_append, List.mem_singleton,
      not_or]
    exact ⟨hi.held_fresh j tok h, fun he => hj (hi.held_unique j i tok h (by rw [he]; exact hheld))⟩
  · simp only [List.mem_append, List.mem_singleton]
    rintro d (hd | rfl)
    · exact hi.verdict d hd
    · rfl

theorem Inv.tick (hi : Inv s) (dt : Nat) : Inv (step s (.tick dt)) :=
  hi.mono rfl (fun k x h => (hi.valid k x h).tick dt) (fun _ _ h => h) (fun _ h => h)

end

theorem init_inv : Inv init where
  valid _ _ h := by cases h
  held_issued _ _ h := by obtain ⟨-, _, h, -⟩ := h; cases h
  logged_issued _ h := by cases h
  log_nodup := List.nodup_nil
  held_fresh _ _ h := by obtain ⟨-, _, h, -⟩ := h; cases h
  held_unique _ _ _ h := by obtain ⟨-, _, h, -⟩ := h; cases h
  verdict _ h := by cases h

/-- Every step keeps `Inv`. -/
theorem Inv.step {s : Sys} (hi : Inv s) : ∀ a, Inv (step s a)
  | .tick dt => hi.tick dt
  | .act i op => by
    rcases hr : opStep s.now i op (s.handlers i) (s.store (rateKey i.cred.username)) with
      ⟨h', e', out⟩
    rw [step_act_of hr]
    rcases opStep_cases hr with ⟨rfl, rfl, rfl⟩ | ⟨t, -, rfl, rfl, rfl⟩ |
      ⟨t, v, x, hh, hinc, rfl, rfl, rfl⟩ | ⟨rfl, rfl, rfl, -⟩ | ⟨t, b, v, hh, rfl, rfl, rfl⟩ |
      ⟨t, b, v, hh, rfl, rfl, rfl⟩ <;>
      simp only [Function.update_eq_self, List.append_nil]
    · exact hi
    · exact hi.mono rfl hi.valid (fun _ _ h => holding_update_of_idle (fun x hx => by cases hx; rfl) h)
        (fun _ h => h)
    · exact hi.incr hh hinc
    · exact hi.mono rfl hi.valid (fun _ _ h => holding_update_of_idle (fun x hx => by cases hx) h)
        (fun _ h => h)
    · exact hi.expire hh
    · exact hi.check hh

theorem inv_run {s : Sys} (hi : Inv s) (acts : List Action) : Inv (run s acts) := by
  induction acts generalizing s with
  | nil => exact hi
  | cons a acts ih => exact ih (hi.step a)

/-! ## Tiers come from arrivals

A handler's tier is set when its request arrives and a verdict records its handler's tier.
`Arrived A s` says every running handler and every verdict of `s` carries a tier its request
arrived with among the actions `A`. -/

/-- After a step a handler holds the tier it held, or the one its request arrives with; a
verdict carries the tier of the handler that reached it. -/
theorem opStep_tier {now : Nat} {i : ReqId} {op : Op} {h : Option Handler} {e : Option Entry} :
    (∀ x, (opStep now i op h e).1 = some x → op = .arrive x.tier ∨ ∃ y, h = some y ∧ y.tier = x.tier) ∧
    ∀ d ∈ (opStep now i op h e).2.2, ∃ y, h = some y ∧ y.tier = d.tier := by
  unfold opStep
  split <;> (try split) <;> simp_all

/-- Every running handler and every verdict of `s` carries a tier its request arrived with
among the actions `A`. -/
structure Arrived (A : List Action) (s : Sys) : Prop where
  handler : ∀ i x, s.handlers i = some x → Action.act i (.arrive x.tier) ∈ A
  logged : ∀ d ∈ s.log, Action.act d.id (.arrive d.tier) ∈ A

/-- A step that is one of the actions `A` keeps `Arrived A`. -/
theorem Arrived.step {A : List Action} {s : Sys} (ha : Arrived A s) {a : Action} (hA : a ∈ A) :
    Arrived A (step s a) := by
  rcases a with dt | ⟨i, op⟩
  · exact ⟨ha.handler, ha.logged⟩
  obtain ⟨hh, hd⟩ := @opStep_tier s.now i op (s.handlers i) (s.store (rateKey i.cred.username))
  refine ⟨fun j x hx => ?_, fun d hd' => ?_⟩
  · by_cases hj : j = i
    · subst hj
      simp only [step_act, Function.update_same] at hx
      rcases hh x hx with hop | ⟨y, hy, hyt⟩
      · exact hop ▸ hA
      · exact hyt ▸ ha.handler j y hy
    · rw [step_handlers_of_ne hj] at hx; exact ha.handler j x hx
  · simp only [step_act, List.mem_append] at hd'
    rcases hd' with hd' | hd'
    · exact ha.logged d hd'
    · obtain ⟨y, hy, hyt⟩ := hd d hd'
      rw [opStep_out_id hd', ← hyt]; exact ha.handler i y hy

theorem arrived_run {A : List Action} {s : Sys} (ha : Arrived A s) (acts : List Action)
    (hsub : acts ⊆ A) : Arrived A (run s acts) := by
  induction acts generalizing s with
  | nil => exact ha
  | cons a acts ih =>
    exact ih (ha.step (hsub (List.mem_cons_self a acts))) fun _ h => hsub (List.mem_cons_of_mem a h)

/-- Over every interleaving, each handler and each verdict carries its request's arrive tier. -/
theorem arrived_reachable (acts : List Action) : Arrived acts (run init acts) :=
  arrived_run ⟨fun _ _ h => (by cases h), fun _ h => (by cases h)⟩ acts (List.Subset.refl _)

/-! ## The limit under every interleaving -/

/-- Distinct values, each between 1 and `n`, number at most `n`. -/
theorem length_le_of_nodup_of_bounded {l : List Nat} {n : Nat} (hl : l.Nodup)
    (h : ∀ v ∈ l, 1 ≤ v ∧ v ≤ n) : l.length ≤ n :=
  calc l.length ≤ (List.range' 1 n).length :=
        (hl.subperm fun v hv => List.mem_range'_1.mpr (by have := h v hv; omega)).length_le
    _ = n := List.length_range' 1 1 n

/-- Every verdict is of a request that arrived with the verdict's tier, and admits exactly
when the `INCR` value is within that tier's limit; and of a principal all of whose requests
arrive with one tier `t`, those admitted in one lifetime `b` of its key number at most
`tierLimit t`, whatever the interleaving, the clock, the expiries and the abandoned
requests. -/
theorem verdicts_within_limit (acts : List Action) (c : Credential) (t : String) (b : Nat)
    (htier : ∀ i tier, Action.act i (.arrive tier) ∈ acts → i.cred = c → tier = t) :
    (∀ d ∈ (run init acts).log, Action.act d.id (.arrive d.tier) ∈ acts ∧
      (d.admitted = true ↔ d.value ≤ tierLimit d.tier)) ∧
    ((run init acts).log.filter (fun d => d.id.cred = c ∧ d.born = b ∧ d.admitted)).length ≤
      tierLimit t := by
  have hi := inv_run init_inv acts
  have harr := (arrived_reachable acts).logged
  have hadm : ∀ d ∈ (run init acts).log, d.admitted = true ↔ d.value ≤ tierLimit d.tier :=
    fun d hd => by rw [hi.verdict d hd]; simp
  refine ⟨fun d hd => ⟨harr d hd, hadm d hd⟩, ?_⟩
  set L := (run init acts).log.filter (fun d => d.id.cred = c ∧ d.born = b ∧ d.admitted)
  have hmem : ∀ d ∈ L, d ∈ (run init acts).log ∧ d.id.cred = c ∧ d.born = b ∧ d.admitted = true :=
    fun d hd => by simpa [L] using hd
  have htok : (L.map Decision.token).Nodup := hi.log_nodup.sublist ((List.filter_sublist _).map _)
  -- one username and one lifetime: the value alone tells the verdicts apart
  have hval : (L.map Decision.value).Nodup := by
    refine List.Nodup.map_on (fun x hx y hy hxy => List.inj_on_of_nodup_map htok hx hy ?_)
      (List.Nodup.of_map _ htok)
    obtain ⟨-, hxc, hxb, -⟩ := hmem x hx
    obtain ⟨-, hyc, hyb, -⟩ := hmem y hy
    simp [Decision.token, hxc, hyc, hxb, hyb, hxy]
  rw [← List.length_map L Decision.value]
  refine length_le_of_nodup_of_bounded hval fun v hv => ?_
  obtain ⟨d, hd, rfl⟩ := List.mem_map.mp hv
  obtain ⟨hlog, hc, -, hadmit⟩ := hmem d hd
  exact ⟨(hi.logged_issued d hlog).1, htier d.id d.tier (harr d hlog) hc ▸ (hadm d hlog).mp hadmit⟩

theorem verdicts_within_limit_one_request :
    (∀ i tier, Action.act i (.arrive tier) ∈ [.act ⟨.apiKey "k", 0⟩ (.arrive "free"),
        .act ⟨.apiKey "k", 0⟩ .incr, .act ⟨.apiKey "k", 0⟩ .expire, .act ⟨.apiKey "k", 0⟩ .check] →
        i.cred = .apiKey "k" → tier = "free") ∧
    (∀ d ∈ (run init [.act ⟨.apiKey "k", 0⟩ (.arrive "free"), .act ⟨.apiKey "k", 0⟩ .incr,
        .act ⟨.apiKey "k", 0⟩ .expire, .act ⟨.apiKey "k", 0⟩ .check]).log,
        Action.act d.id (.arrive d.tier) ∈ [.act ⟨.apiKey "k", 0⟩ (.arrive "free"),
          .act ⟨.apiKey "k", 0⟩ .incr, .act ⟨.apiKey "k", 0⟩ .expire, .act ⟨.apiKey "k", 0⟩ .check] ∧
        (d.admitted = true ↔ d.value ≤ tierLimit d.tier)) ∧
    ((run init [.act ⟨.apiKey "k", 0⟩ (.arrive "free"), .act ⟨.apiKey "k", 0⟩ .incr,
        .act ⟨.apiKey "k", 0⟩ .expire, .act ⟨.apiKey "k", 0⟩ .check]).log.filter
        (fun d => d.id.cred = .apiKey "k" ∧ d.born = 0 ∧ d.admitted)).length ≤ tierLimit "free" :=
  have htier : ∀ i tier, Action.act i (.arrive tier) ∈ [.act ⟨.apiKey "k", 0⟩ (.arrive "free"),
      .act ⟨.apiKey "k", 0⟩ .incr, .act ⟨.apiKey "k", 0⟩ .expire, .act ⟨.apiKey "k", 0⟩ .check] →
      i.cred = .apiKey "k" → tier = "free" := by
    simp
  ⟨htier, verdicts_within_limit _ (.apiKey "k") "free" 0 htier⟩

end SprintGateway
