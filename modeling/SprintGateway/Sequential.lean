import SprintGateway.Pipeline

/- Requests that run alone: one request's four steps back to back, and one principal's
   requests one after another.

   A request whose steps no other handler interleaves behaves as `proxy_all_requests`
   reads when run by itself: `INCR`, `EXPIRE` when the value is 1, the limit check. This
   module computes the effect of such a request on the whole system and connects the two
   models of the rate-limit block: the verdict the concurrent system records is the one
   `rateLimitBlock` of `SprintGateway.Pipeline` computes from the same `INCR` value.

   What is proved:
     1. `run_soloRequest` — the system after one request run alone: its key counted (and
        given its window when the value is 1), its verdict recorded, nothing else moved.
     2. `soloRequest_refines_block` — that verdict is `rateLimitBlock`'s.
     3. `backToBack_verdicts` — the `k`-th of a principal's back-to-back requests within
        one window gets `INCR` value `k` and is admitted exactly when `k` is within the
        tier's limit.
     4. `expired_key_admits` — a request whose key has expired starts a new window, gets
        value 1 and is admitted.

   ── PROVED vs ASSUMED ──────────────────────────────────────────────────────────
   The system is `SprintGateway.RateLimit`'s; nothing is assumed beyond it.

   Correspondence (Python ↔ Lean):
     one call of `proxy_all_requests` up to its limit check ↔ `soloRequest`
-/
namespace SprintGateway

/-- The steps of one request with its principal's tier, back to back. -/
def soloRequest (i : ReqId) (tier : String) : List Action :=
  [.act i (.arrive tier), .act i .incr, .act i .expire, .act i .check]

/-- `n` requests of `c`, numbered `0, …, n - 1`, one after another with no time passing. -/
def backToBack (c : Credential) (tier : String) (n : Nat) : List Action :=
  (List.range n).flatMap fun k => soloRequest ⟨c, k⟩ tier

theorem run_append (s : Sys) (as bs : List Action) : run s (as ++ bs) = run (run s as) bs :=
  List.foldl_append _ _ _ _

/-- One request run alone, on a key whose `INCR` gives `v` and leaves `x`: the key is `x`,
with its window set if `v` is 1; the verdict on `v` is recorded; nothing else moves. -/
theorem run_soloRequest (s : Sys) (i : ReqId) (tier : String) {v : Nat} {x : Entry}
    (hfree : s.handlers i = none)
    (hinc : incrEntry s.now (s.store (rateKey i.cred.username)) = some (v, x)) :
    run s (soloRequest i tier) =
      { s with
        store := Function.update s.store (rateKey i.cred.username)
          (if v = 1 then expireEntry s.now rateWindow (some x) else some x)
        log := s.log ++ [⟨i, tier, x.born, v, !decide (v > tierLimit tier)⟩] } := by
  have hh : Function.update s.handlers i none = s.handlers := by
    rw [← hfree, Function.update_eq_self]
  by_cases hv : v = 1
  · subst hv
    simp [soloRequest, step_act, opStep, hfree, hinc, Function.update_idem, hh]
  · simp [soloRequest, step_act, opStep, hfree, hinc, hv, Function.update_idem, hh]

/-- The verdict a request run alone records is the one `rateLimitBlock` computes from the
value its `INCR` returns and an `EXPIRE` that succeeds. -/
theorem soloRequest_refines_block (s : Sys) (i : ReqId) (u : User) {v : Nat} {x : Entry}
    (hfree : s.handlers i = none)
    (hinc : incrEntry s.now (s.store (rateKey i.cred.username)) = some (v, x)) :
    ∃ b, rateLimitBlock (some u) (some ⟨.ok v, .ok ()⟩) = .ok b ∧
      (run s (soloRequest i u.tier)).log = s.log ++ [⟨i, u.tier, x.born, v, b⟩] := by
  refine ⟨_, ?_, by rw [run_soloRequest s i u.tier hfree hinc]⟩
  by_cases hv : v = 1 <;> simp [rateLimitBlock, hv, bind, Except.bind, pure, Except.pure]

theorem soloRequest_refines_block_first :
    init.handlers ⟨.apiKey "k", 0⟩ = none ∧
      incrEntry init.now (init.store (rateKey (Credential.apiKey "k").username)) =
        some (1, ⟨1, none, 0⟩) ∧
      ∃ b, rateLimitBlock (some ⟨"api_key_k", "free"⟩) (some ⟨.ok 1, .ok ()⟩) = .ok b ∧
        (run init (soloRequest ⟨.apiKey "k", 0⟩ "free")).log =
          init.log ++ [⟨⟨.apiKey "k", 0⟩, "free", 0, 1, b⟩] :=
  ⟨rfl, rfl, soloRequest_refines_block init ⟨.apiKey "k", 0⟩ ⟨"api_key_k", "free"⟩ rfl rfl⟩

/-! ## One principal's requests in a row -/

theorem ten_le_tierLimit (tier : String) : 10 ≤ tierLimit tier := by
  unfold tierLimit tierLimits
  simp only [List.lookup_cons, List.lookup_nil]
  repeat' split
  all_goals decide

/-- After `n` back-to-back requests from the start, within one window: the key counts `n`
and carries its window, and the `k`-th verdict is on the value `k + 1`. -/
theorem run_backToBack (c : Credential) (tier : String) (n : Nat) (hn : n ≤ incrMax) :
    run init (backToBack c tier n) =
      { init with
        store := Function.update init.store (rateKey c.username)
          (if n = 0 then none else some ⟨n, some (rateWindow * 1000), 0⟩)
        log := (List.range n).map fun k => ⟨⟨c, k⟩, tier, 0, k + 1, !decide (k + 1 > tierLimit tier)⟩ } := by
  induction n with
  | zero =>
    have h0 : Function.update init.store (rateKey c.username) none = init.store :=
      Function.update_eq_self _ _
    simp [backToBack, h0]; rfl
  | succ n ih =>
    rw [backToBack, List.range_succ, List.flatMap_append, ← backToBack, run_append, ih (by omega),
      List.flatMap_singleton]
    rcases Nat.eq_zero_or_pos n with rfl | hpos
    · -- the first request creates the key, and its `EXPIRE` gives it the window
      have hinc : incrEntry 0 (Function.update init.store (rateKey c.username)
          (if 0 = 0 then none else some ⟨0, some (rateWindow * 1000), 0⟩) (rateKey c.username)) =
          some (1, ⟨1, none, 0⟩) := by
        rw [Function.update_same, if_pos rfl]; rfl
      rw [run_soloRequest _ ⟨c, 0⟩ tier rfl hinc]
      simp [expireEntry, Entry.live, Function.update_idem, init]
    · -- every later one counts on in the same window
      have hinc : incrEntry 0 (Function.update init.store (rateKey c.username)
          (if n = 0 then none else some ⟨n, some (rateWindow * 1000), 0⟩) (rateKey c.username)) =
          some (n + 1, ⟨n + 1, some (rateWindow * 1000), 0⟩) := by
        rw [Function.update_same, if_neg (by omega)]
        simp [incrEntry, Entry.live, hn]
      rw [run_soloRequest _ ⟨c, n⟩ tier rfl hinc]
      simp [Function.update_idem, List.range_succ, Nat.pos_iff_ne_zero.mp hpos]

/-- Within one window, the `k`-th (from 0) of a principal's back-to-back requests gets the
value `k + 1` and is admitted exactly when `k + 1` is within its tier's limit: all of the
first `tierLimit tier` are admitted, every later one is rejected. -/
theorem backToBack_verdicts (c : Credential) (tier : String) (n : Nat) (hn : n ≤ incrMax) :
    (run init (backToBack c tier n)).log =
      (List.range n).map fun k => ⟨⟨c, k⟩, tier, 0, k + 1, decide (k + 1 ≤ tierLimit tier)⟩ := by
  rw [run_backToBack c tier n hn]
  dsimp only
  congr 1
  funext k
  simp only [gt_iff_lt, ← decide_not, Nat.not_lt]

theorem backToBack_verdicts_eleven :
    11 ≤ incrMax ∧ (run init (backToBack (.apiKey "k") "free" 11)).log =
      (List.range 11).map fun k =>
        ⟨⟨.apiKey "k", k⟩, "free", 0, k + 1, decide (k + 1 ≤ tierLimit "free")⟩ :=
  ⟨by decide, backToBack_verdicts (.apiKey "k") "free" 11 (by decide)⟩

/-! ## A new window -/

/-- A request whose key has expired starts a new lifetime: `INCR` gives 1, the key gets a
fresh window, and the request is admitted. -/
theorem expired_key_admits (s : Sys) (i : ReqId) (tier : String) {e : Entry}
    (hfree : s.handlers i = none) (he : s.store (rateKey i.cred.username) = some e)
    (hdead : e.live s.now = false) :
    (run s (soloRequest i tier)).log = s.log ++ [⟨i, tier, s.now, 1, true⟩] ∧
      (run s (soloRequest i tier)).store (rateKey i.cred.username) =
        some ⟨1, some (s.now + rateWindow * 1000), s.now⟩ := by
  have hinc : incrEntry s.now (s.store (rateKey i.cred.username)) = some (1, ⟨1, none, s.now⟩) := by
    rw [he]; simp [incrEntry, hdead]
  rw [run_soloRequest s i tier hfree hinc]
  have := ten_le_tierLimit tier
  exact ⟨by simp; omega, by simp [expireEntry, Entry.live]⟩

theorem expired_key_admits_eleventh :
    (⟨60001, fun _ => some ⟨10, some 60000, 0⟩, fun _ => none, []⟩ : Sys).handlers
        ⟨.apiKey "k", 10⟩ = none ∧
      (⟨60001, fun _ => some ⟨10, some 60000, 0⟩, fun _ => none, []⟩ : Sys).store
        (rateKey (Credential.apiKey "k").username) = some ⟨10, some 60000, 0⟩ ∧
      (⟨10, some 60000, 0⟩ : Entry).live 60001 = false ∧
      (run ⟨60001, fun _ => some ⟨10, some 60000, 0⟩, fun _ => none, []⟩
          (soloRequest ⟨.apiKey "k", 10⟩ "free")).log = [⟨⟨.apiKey "k", 10⟩, "free", 60001, 1, true⟩] ∧
      (run ⟨60001, fun _ => some ⟨10, some 60000, 0⟩, fun _ => none, []⟩
          (soloRequest ⟨.apiKey "k", 10⟩ "free")).store (rateKey (Credential.apiKey "k").username) =
        some ⟨1, some (60001 + rateWindow * 1000), 60001⟩ :=
  ⟨rfl, rfl, rfl, expired_key_admits ⟨60001, fun _ => some ⟨10, some 60000, 0⟩, fun _ => none, []⟩
    ⟨.apiKey "k", 10⟩ "free" rfl rfl rfl⟩

end SprintGateway
