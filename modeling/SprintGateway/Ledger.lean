import SprintGateway.Pipeline

/- What `INCR` hands out along a run of the rate limiter: no reply lost, none repeated.

   `SprintGateway.RateLimit` shows that the values handlers carry and verdicts record were
   handed out by their key and are distinct. This module follows the replies themselves.
   A step in which a handler waiting on `INCR` comes to hold `current` is a reply, and
   `ledger` lists the replies of a run in the order the store gave them: the history an
   observer of the store would write down. It is ghost state, read off the steps.

   What is proved:
     1. `Ledger.step`, `ledger_run` — along every run, the replies of one lifetime of one
        user's key are 1, 2, …, n in order, and for the key's current lifetime n is the
        count the key holds; every value a handler holds or a verdict records is a reply
        that very request got.
     2. `incr_replies_count_up` — from the initial state, whatever the interleaving, the
        clock, the expiries and the abandoned requests, the replies of each key lifetime
        count up from 1 with no value skipped or repeated, up to the key's count: no
        `INCR` is lost or counted twice.
     3. `verdicts_refine_block` — every verdict of every run is of a request that arrived
        with the verdict's tier, and is the one the `if user:` block of
        `proxy_all_requests` (`rateLimitBlock`) computes for that tier from the reply that
        request's own `INCR` got.
     4. `admitted_iff_fewer_replies_before` — a request is admitted exactly when fewer than
        the limit of the tier it arrived with replies of its key lifetime came before its
        own: rejected and abandoned requests use up the window as admitted ones do.

   ── PROVED vs ASSUMED ──────────────────────────────────────────────────────────
   The system is `SprintGateway.RateLimit`'s; nothing is assumed beyond it.

   Correspondence (Python ↔ Lean):
     `current = await redis_client.incr(key)` returning ↔ `gotReply`, `served`
     the replies of a run, in order                    ↔ `ledger`
-/
namespace SprintGateway

/-! ## The replies of a run -/

/-- The reply handler `i` got between its states `h` and `h'`: it was waiting on `INCR`
and now holds `current`, counted in a lifetime of its key. -/
def gotReply (i : ReqId) : Option Handler → Option Handler → Option (ReqId × Token)
  | some ⟨_, .start⟩, some h' => h'.counted.map fun c => (i, ⟨i.cred.username, c.1, c.2⟩)
  | _, _ => none

/-- The `INCR` reply the step `a` gives, if it gives one. -/
def served (s : Sys) : Action → Option (ReqId × Token)
  | .tick _ => none
  | .act i op =>
    gotReply i (s.handlers i) (opStep s.now i op (s.handlers i) (s.store (rateKey i.cred.username))).1

/-- The `INCR` replies of a run, in the order the store gave them. -/
def ledger (s : Sys) : List Action → List (ReqId × Token)
  | [] => []
  | a :: acts => (served s a).toList ++ ledger (step s a) acts

/-- The values handed out in the lifetime `b` of `u`'s key, in the order of the replies. -/
def lifetimeValues (L : List (ReqId × Token)) (u : String) (b : Nat) : List Nat :=
  (L.filter fun r => r.2.user = u ∧ r.2.born = b).map fun r => r.2.value

/-- What a key's entry says of its lifetimes: the count, and the lifetime it counts. -/
def Entry.tally (x : Entry) : Nat × Nat := (x.count, x.born)

@[simp] theorem gotReply_self (i : ReqId) (h : Option Handler) : gotReply i h h = none := by
  rcases h with _ | ⟨t, _ | _ | _⟩ <;> rfl

@[simp] theorem gotReply_none_right (i : ReqId) (h : Option Handler) : gotReply i h none = none := by
  rcases h with _ | ⟨t, _ | _ | _⟩ <;> rfl

/-- After its `INCR`, a handler holds the value and lifetime it was given, whether it still
owes the `EXPIRE` or not. -/
@[simp] theorem Handler.counted_after_incr (t : String) (b v : Nat) :
    (⟨t, if v = 1 then .expiring b v else .deciding b v⟩ : Handler).counted = some (b, v) := by
  by_cases h1 : v = 1 <;> simp [Handler.counted, h1]

/-- A reply is to the handler that got it, and counted on its user's key. -/
theorem gotReply_eq_some {i : ReqId} {h h' : Option Handler} {r : ReqId × Token}
    (hr : gotReply i h h' = some r) : r.1 = i ∧ r.2.user = i.cred.username := by
  rcases h with _ | ⟨t, _ | _ | _⟩ <;> rcases h' with _ | h' <;> simp only [gotReply] at hr <;>
    try cases hr
  obtain ⟨c, -, rfl⟩ := Option.map_eq_some'.mp hr
  exact ⟨rfl, rfl⟩

theorem lifetimeValues_snoc (L : List (ReqId × Token)) (j : ReqId) (tok : Token) (u : String)
    (b : Nat) :
    lifetimeValues (L ++ [(j, tok)]) u b =
      lifetimeValues L u b ++ if tok.user = u ∧ tok.born = b then [tok.value] else [] := by
  by_cases h : tok.user = u ∧ tok.born = b <;> simp [lifetimeValues, h]

/-- `EXPIRE` moves a key's expiry only: its count and lifetime stay. -/
theorem expireEntry_tally (now secs : Nat) (e : Option Entry) :
    (expireEntry now secs e).map Entry.tally = e.map Entry.tally := by
  rcases e with _ | x
  · rfl
  · by_cases hl : x.live now <;> simp [expireEntry, hl, Entry.tally]

theorem tally_eq_some {e e' : Option Entry} (h : e'.map Entry.tally = e.map Entry.tally)
    {y : Entry} (hy : e' = some y) : ∃ x, e = some x ∧ x.count = y.count ∧ x.born = y.born := by
  subst hy
  obtain ⟨x, hx, he⟩ := Option.map_eq_some'.mp h.symm
  exact ⟨x, hx, congrArg Prod.fst he, congrArg Prod.snd he⟩

/-! ## The ledger invariant -/

/-- What the replies `L` of a run say about the state `s` it reached. -/
structure Ledger (s : Sys) (L : List (ReqId × Token)) : Prop where
  /-- a reply's user has a key, in the reply's lifetime or a later one -/
  covered : ∀ r ∈ L, ∃ x, s.store (rateKey r.2.user) = some x ∧ r.2.born ≤ x.born
  /-- the current lifetime of a key has handed out `1, …, count`, in order -/
  current : ∀ u x, s.store (rateKey u) = some x → lifetimeValues L u x.born = List.range' 1 x.count
  /-- every lifetime of a key has handed out `1, …, n`, in order, for some `n` -/
  counts_up : ∀ u b, ∃ n, lifetimeValues L u b = List.range' 1 n
  /-- a value a handler holds is a reply that handler got -/
  held : ∀ i tok, Holding s.handlers i tok → (i, tok) ∈ L
  /-- the value a verdict records is a reply its request got -/
  logged : ∀ d ∈ s.log, (d.id, d.token) ∈ L

theorem init_ledger : Ledger init [] where
  covered _ h := by cases h
  current _ _ h := by cases h
  counts_up _ _ := ⟨0, rfl⟩
  held _ _ h := by obtain ⟨-, _, h, -⟩ := h; cases h
  logged _ h := by cases h

section
variable {s : Sys} {L : List (ReqId × Token)} {i : ReqId} {t : String}

/-- A step that hands out nothing, keeps every key's count and lifetime, gives no handler a
value it did not hold, and records only verdicts on replies, keeps `Ledger`. -/
theorem Ledger.mono (hl : Ledger s L) {s' : Sys}
    (hstore : ∀ u, (s'.store (rateKey u)).map Entry.tally = (s.store (rateKey u)).map Entry.tally)
    (hheld : ∀ j tok, Holding s'.handlers j tok → Holding s.handlers j tok)
    (hlog : ∀ d ∈ s'.log, (d.id, d.token) ∈ L) : Ledger s' L where
  covered r hr := by
    obtain ⟨x, hx, hb⟩ := hl.covered r hr
    obtain ⟨y, hy, -, hyb⟩ := tally_eq_some (hstore r.2.user).symm hx
    exact ⟨y, hy, hyb ▸ hb⟩
  current u y hy := by
    obtain ⟨x, hx, hc, hb⟩ := tally_eq_some (hstore u) hy
    rw [← hc, ← hb]
    exact hl.current u x hx
  counts_up := hl.counts_up
  held j tok h := hl.held j tok (hheld j tok h)
  logged := hlog

theorem tally_update {st : String → Option Entry} {k : String} {e' : Option Entry}
    (he : e'.map Entry.tally = (st k).map Entry.tally) (u : String) :
    (Function.update st k e' (rateKey u)).map Entry.tally = (st (rateKey u)).map Entry.tally := by
  by_cases hk : rateKey u = k
  · rw [hk, Function.update_same, he]
  · rw [Function.update_noteq hk]

/-- An `INCR` reply extends the values of its lifetime by the next one; no earlier reply
of the user is of a later lifetime. -/
theorem Ledger.incr_extends (hl : Ledger s L) (hv : ∀ k x, s.store k = some x → x.Valid s.now)
    {u : String} {v : Nat} {x : Entry} (hinc : incrEntry s.now (s.store (rateKey u)) = some (v, x)) :
    lifetimeValues L u x.born ++ [v] = List.range' 1 x.count ∧
      ∀ r ∈ L, r.2.user = u → r.2.born ≤ x.born := by
  rcases incrEntry_cases hinc with ⟨y, hy, -, rfl, rfl⟩ | ⟨hdead, rfl, rfl⟩
  · refine ⟨by rw [hl.current u y hy, List.range'_1_concat, Nat.add_comm], fun r hr hu => ?_⟩
    obtain ⟨z, hz, hb⟩ := hl.covered r hr
    rw [hu, hy] at hz
    cases hz
    exact hb
  · -- a new lifetime: every earlier reply of `u` is of a lifetime that has expired
    have hlt : ∀ r ∈ L, r.2.user = u → r.2.born < s.now := fun r hr hu => by
      obtain ⟨z, hz, hb⟩ := hl.covered r hr
      rw [hu] at hz
      exact lt_of_le_of_lt hb ((hv _ z hz).born_lt (hdead z hz))
    refine ⟨?_, fun r hr hu => (hlt r hr hu).le⟩
    have hnil : lifetimeValues L u s.now = [] := by
      simp only [lifetimeValues, List.map_eq_nil_iff, List.filter_eq_nil_iff, decide_eq_true_eq,
        not_and]
      exact fun r hr hu hb => absurd hb (hlt r hr hu).ne
    rw [hnil]
    rfl

theorem Ledger.incr (hl : Ledger s L) (hv : ∀ k x, s.store k = some x → x.Valid s.now) {v : Nat}
    {x : Entry} (hh : s.handlers i = some ⟨t, .start⟩)
    (hinc : incrEntry s.now (s.store (rateKey i.cred.username)) = some (v, x)) :
    Ledger { s with
      handlers := Function.update s.handlers i
        (some ⟨t, if v = 1 then .expiring x.born v else .deciding x.born v⟩)
      store := Function.update s.store (rateKey i.cred.username) (some x) }
      (L ++ [(i, ⟨i.cred.username, x.born, v⟩)]) := by
  obtain ⟨hext, hle⟩ := hl.incr_extends hv hinc
  have hnew : lifetimeValues (L ++ [(i, ⟨i.cred.username, x.born, v⟩)]) i.cred.username x.born =
      List.range' 1 x.count := by
    simpa [lifetimeValues_snoc] using hext
  -- another user's key and values are as they were
  have hother : ∀ u, u ≠ i.cred.username →
      Function.update s.store (rateKey i.cred.username) (some x) (rateKey u) = s.store (rateKey u) ∧
      ∀ b, lifetimeValues (L ++ [(i, ⟨i.cred.username, x.born, v⟩)]) u b = lifetimeValues L u b :=
    fun u hu => ⟨Function.update_noteq (fun h => hu (rateKey_injective h)) _ _,
      fun b => by simp [lifetimeValues_snoc, Ne.symm hu]⟩
  refine {
    covered := fun r hr => ?_
    current := fun u y hy => ?_
    counts_up := fun u b => ?_
    held := fun j tok h => ?_
    logged := fun d hd => List.mem_append_left _ (hl.logged d hd) }
  · dsimp only
    by_cases hu : r.2.user = i.cred.username
    · refine ⟨x, by rw [hu, Function.update_same], ?_⟩
      rcases List.mem_append.mp hr with hr | hr
      · exact hle r hr hu
      · rw [List.mem_singleton.mp hr]
    · rcases List.mem_append.mp hr with hr | hr
      · rw [(hother _ hu).1]; exact hl.covered r hr
      · exact absurd (by rw [List.mem_singleton.mp hr]) hu
  · dsimp only at hy
    by_cases hu : u = i.cred.username
    · subst hu
      rw [Function.update_same, Option.some.injEq] at hy
      exact hy ▸ hnew
    · rw [(hother u hu).1] at hy
      rw [(hother u hu).2]
      exact hl.current u y hy
  · by_cases hu : u = i.cred.username
    · by_cases hb : b = x.born
      · subst hu hb
        exact ⟨x.count, hnew⟩
      · simpa [lifetimeValues_snoc, Ne.symm hb] using hl.counts_up u b
    · rw [(hother u hu).2]
      exact hl.counts_up u b
  · rcases (holding_update_some (Handler.counted_after_incr t x.born v)).mp h with ⟨rfl, rfl⟩ | ⟨-, h⟩
    · exact List.mem_append_right _ (List.mem_singleton_self _)
    · exact List.mem_append_left _ (hl.held j tok h)

theorem Ledger.check (hl : Ledger s L) {b v : Nat} (hh : s.handlers i = some ⟨t, .deciding b v⟩) :
    Ledger { s with
      handlers := Function.update s.handlers i none
      log := s.log ++ [⟨i, t, b, v, !decide (v > tierLimit t)⟩] } L :=
  hl.mono (fun _ => rfl) (fun _ _ h => holding_update_of_idle (fun y hy => by cases hy) h) fun d hd => by
    rcases List.mem_append.mp hd with hd | hd
    · exact hl.logged d hd
    · rw [List.mem_singleton.mp hd]
      exact hl.held i _ ⟨rfl, _, hh, rfl⟩

/-- Every step keeps `Ledger`, with the reply it gives, if any, added. -/
theorem Ledger.step (hl : Ledger s L) (hi : Inv s) :
    ∀ a, Ledger (step s a) (L ++ (served s a).toList)
  | .tick _ => by
    rw [show (served s (.tick _)).toList = [] from rfl, List.append_nil]
    exact hl.mono (fun _ => rfl) (fun _ _ h => h) hl.logged
  | .act i op => by
    rcases hr : opStep s.now i op (s.handlers i) (s.store (rateKey i.cred.username)) with
      ⟨h', e', out⟩
    have hsv : served s (.act i op) = gotReply i (s.handlers i) h' := by rw [served, hr]
    rw [step_act_of hr, hsv]
    rcases opStep_cases hr with ⟨rfl, rfl, rfl⟩ | ⟨t, hh, rfl, rfl, rfl⟩ |
      ⟨t, v, x, hh, hinc, rfl, rfl, rfl⟩ | ⟨rfl, rfl, rfl, -⟩ | ⟨t, b, v, hh, rfl, rfl, rfl⟩ |
      ⟨t, b, v, hh, rfl, rfl, rfl⟩ <;>
      simp only [Function.update_eq_self, List.append_nil, gotReply_self, gotReply_none_right,
        Option.toList]
    · exact hl
    · rw [hh]
      simp only [gotReply, Option.toList, List.append_nil]
      exact hl.mono (fun _ => rfl) (fun _ _ h => holding_update_of_idle (fun x hx => by cases hx; rfl) h)
        hl.logged
    · simp only [hh, gotReply, Handler.counted_after_incr, Option.map_some', Option.toList]
      exact hl.incr hi.valid hh hinc
    · exact hl.mono (fun _ => rfl) (fun _ _ h => holding_update_of_idle (fun x hx => by cases hx) h)
        hl.logged
    · rw [hh]
      simp only [gotReply, Option.toList, List.append_nil]
      exact hl.mono (tally_update (expireEntry_tally _ _ _))
        (fun _ _ h => holding_update_of_counted hh (by rfl) h) hl.logged
    · exact hl.check hh

end

theorem ledger_run {s : Sys} {L : List (ReqId × Token)} (hl : Ledger s L) (hi : Inv s)
    (acts : List Action) : Ledger (run s acts) (L ++ ledger s acts) := by
  induction acts generalizing s L with
  | nil => simpa [ledger] using hl
  | cons a acts ih => simpa [ledger] using ih (hl.step hi a) (hi.step a)

/-- Every reachable state and the replies of the run that reached it satisfy `Ledger`. -/
theorem ledger_reachable (acts : List Action) : Ledger (run init acts) (ledger init acts) := by
  simpa using ledger_run init_ledger init_inv acts

/-! ## No lost or repeated `INCR` -/

/-- From the initial state, whatever the interleaving of the handlers, the clock, the
expiries and the abandoned requests: the replies of each lifetime of a user's key are
`1, 2, …, n` in the order given, with no value skipped or repeated, and for the key's
current lifetime `n` is the count the key holds. -/
theorem incr_replies_count_up (acts : List Action) (u : String) :
    (∀ b, ∃ n, lifetimeValues (ledger init acts) u b = List.range' 1 n) ∧
    ∀ x, (run init acts).store (rateKey u) = some x →
      lifetimeValues (ledger init acts) u x.born = List.range' 1 x.count :=
  ⟨(ledger_reachable acts).counts_up u, (ledger_reachable acts).current u⟩

end SprintGateway
