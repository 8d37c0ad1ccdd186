import SprintGateway.RateLimit

/- The window reset of the rate limiter: whether every counter key ends up with an expiry.

   `proxy_all_requests` gives a key its lifetime in a second command: the handler whose
   `INCR` created the key (value 1) sends `EXPIRE key 60` afterwards. Between the two the
   key has no expiry, and if that handler stops there (the `EXPIRE` raises, or the
   request is cancelled or crashes) nobody sends it: the key then counts on for ever, and
   once past the limit every later request of the principal gets 429.

   What is proved:
     1. `abandoned_expire_keeps_key` — the run "arrive, `INCR`, abandon" leaves no handler
        and a key without expiry, live at every later time.
     2. `quiescent_keys_expire` — over runs where no handler is abandoned between an
        `INCR` that returned 1 and its `EXPIRE`, whenever no handler is running every key
        carries an expiry at most 60 s away, so 60 s later it is gone.

   ── PROVED vs ASSUMED ──────────────────────────────────────────────────────────
   The system is `SprintGateway.RateLimit`'s, unchanged; the only assumption is the
   hypothesis on the run in (2), decided step by step by `keepsExpiry`.

   Correspondence (Python ↔ Lean):
     `if current == 1: await redis_client.expire(key, 60)` ↔ `Phase.expiring`, `Op.expire`
     an exception or cancellation at that `await`           ↔ `Op.abandon` in `Phase.expiring`
-/
namespace SprintGateway

/-- Handler `i` has sent its `INCR`, got 1, and not yet sent its `EXPIRE`. -/
def Handler.expiring (h : Handler) : Bool :=
  match h.phase with
  | .expiring _ _ => true
  | _ => false

/-- The step `a` abandons a handler that still owes its `EXPIRE`. -/
def abandonsExpiry (s : Sys) : Action → Bool
  | .act i .abandon => (s.handlers i).any Handler.expiring
  | _ => false

/-- No step of the run from `s` abandons a handler that still owes its `EXPIRE`. -/
def keepsExpiry : Sys → List Action → Bool
  | _, [] => true
  | s, a :: acts => !abandonsExpiry s a && keepsExpiry (step s a) acts

/-- Some handler of key `k` still owes its `EXPIRE`. -/
def Owed (hs : ReqId → Option Handler) (k : String) : Prop :=
  ∃ j h, rateKey j.cred.username = k ∧ hs j = some h ∧ h.expiring = true

/-- Every expiry lies at most a window ahead, and a key without one is owed its `EXPIRE`. -/
structure WindowInv (s : Sys) : Prop where
  expiry_le : ∀ k x t, s.store k = some x → x.expireAt = some t → t ≤ s.now + rateWindow * 1000
  owed : ∀ k x, s.store k = some x → x.expireAt = none → Owed s.handlers k

theorem init_windowInv : WindowInv init where
  expiry_le _ _ _ h := by cases h
  owed _ _ h := by cases h

/-- Replacing handler `i` keeps every debt but its own. -/
theorem owed_update {hs : ReqId → Option Handler} {i : ReqId} {h' : Option Handler} {k : String}
    (hi : ∀ x, hs i = some x → x.expiring = true → rateKey i.cred.username ≠ k) (h : Owed hs k) :
    Owed (Function.update hs i h') k := by
  obtain ⟨j, x, hk, hj, hx⟩ := h
  have hji : j ≠ i := by rintro rfl; exact hi x hj hx hk
  exact ⟨j, x, hk, by rw [Function.update_noteq hji]; exact hj, hx⟩

theorem owed_update_of_idle {hs : ReqId → Option Handler} {i : ReqId} {h' : Option Handler}
    {k : String} (hi : ∀ x, hs i = some x → x.expiring = false) (h : Owed hs k) :
    Owed (Function.update hs i h') k :=
  owed_update (fun x hx he => by simp [hi x hx] at he) h

theorem store_update_cases {st : String → Option Entry} {k k' : String} {e' : Option Entry}
    {y : Entry} (h : Function.update st k e' k' = some y) :
    (k' = k ∧ e' = some y) ∨ (k' ≠ k ∧ st k' = some y) := by
  by_cases hk : k' = k
  · subst hk; rw [Function.update_same] at h; exact .inl ⟨rfl, h⟩
  · rw [Function.update_noteq hk] at h; exact .inr ⟨hk, h⟩

section
variable {s : Sys} {i : ReqId}

/-- A step that moves only a handler owing no `EXPIRE`, and the log, keeps `WindowInv`. -/
theorem WindowInv.idle (hw : WindowInv s) (hi : ∀ y, s.handlers i = some y → y.expiring = false)
    (h' : Option Handler) (l : List Decision) :
    WindowInv { s with handlers := Function.update s.handlers i h', log := l } :=
  ⟨hw.expiry_le, fun k y hy hn => owed_update_of_idle hi (hw.owed k y hy hn)⟩

/-- `INCR` keeps `WindowInv`: a key it creates has no expiry, and its handler now owes the
`EXPIRE`. -/
theorem WindowInv.incr (hw : WindowInv s) {t : String} {v : Nat} {x : Entry}
    (hh : s.handlers i = some ⟨t, .start⟩)
    (hinc : incrEntry s.now (s.store (rateKey i.cred.username)) = some (v, x)) :
    WindowInv { s with
      handlers := Function.update s.handlers i
        (some ⟨t, if v = 1 then .expiring x.born v else .deciding x.born v⟩)
      store := Function.update s.store (rateKey i.cred.username) (some x) } := by
  have hi : ∀ y, s.handlers i = some y → y.expiring = false := by simp [hh, Handler.expiring]
  constructor
  · intro k y t' hy ht
    rcases store_update_cases hy with ⟨rfl, ⟨⟩⟩ | ⟨-, hy'⟩
    · rcases incrEntry_expireAt hinc with ⟨z, hz, he⟩ | ⟨-, he⟩
      · exact hw.expiry_le _ z t' hz (he ▸ ht)
      · rw [he] at ht; cases ht
    · exact hw.expiry_le k y t' hy' ht
  · intro k y hy hn
    rcases store_update_cases hy with ⟨rfl, ⟨⟩⟩ | ⟨-, hy'⟩
    · rcases incrEntry_expireAt hinc with ⟨z, hz, he⟩ | ⟨rfl, -⟩
      · exact owed_update_of_idle hi (hw.owed _ z hz (he ▸ hn))
      · exact ⟨i, _, rfl, Function.update_same _ _ _, by simp [Handler.expiring]⟩
    · exact owed_update_of_idle hi (hw.owed k y hy' hn)

/-- `EXPIRE` keeps `WindowInv`: it sets a window from now on a live key, and the key it
leaves without expiry is none. -/
theorem WindowInv.expire (hw : WindowInv s) (h' : Option Handler) :
    WindowInv { s with
      handlers := Function.update s.handlers i h'
      store := Function.update s.store (rateKey i.cred.username)
        (expireEntry s.now rateWindow (s.store (rateKey i.cred.username))) } := by
  constructor
  · intro k y t' hy ht
    rcases store_update_cases hy with ⟨rfl, hy'⟩ | ⟨-, hy'⟩
    · obtain ⟨t₀, ht₀, rfl | ⟨z, hz, hzt⟩⟩ := expireEntry_expireAt hy' <;>
        rw [ht₀] at ht <;> cases ht
      · exact le_refl _
      · exact hw.expiry_le _ z _ hz hzt
    · exact hw.expiry_le k y t' hy' ht
  · intro k y hy hn
    rcases store_update_cases hy with ⟨rfl, hy'⟩ | ⟨hk, hy'⟩
    · obtain ⟨t₀, ht₀, -⟩ := expireEntry_expireAt hy'
      rw [ht₀] at hn; cases hn
    · exact owed_update (fun _ _ _ he => hk he.symm) (hw.owed k y hy' hn)

/-- A step of a handler keeps `WindowInv`, unless it abandons one that owes its `EXPIRE`. -/
theorem WindowInv.act (hw : WindowInv s) {op : Op}
    (hsafe : abandonsExpiry s (.act i op) = false) : WindowInv (step s (.act i op)) := by
  rcases hr : opStep s.now i op (s.handlers i) (s.store (rateKey i.cred.username)) with
    ⟨h', e', out⟩
  rw [step_act_of hr]
  rcases opStep_cases hr with ⟨rfl, rfl, rfl⟩ | ⟨t, hh, rfl, rfl, rfl⟩ |
    ⟨t, v, x, hh, hinc, rfl, rfl, rfl⟩ | ⟨rfl, rfl, rfl, hop⟩ | ⟨t, b, v, hh, rfl, rfl, rfl⟩ |
    ⟨t, b, v, hh, rfl, rfl, rfl⟩ <;>
    simp only [Function.update_eq_self, List.append_nil]
  · exact hw
  · exact hw.idle (by simp [hh]) _ _
  · exact hw.incr hh hinc
  · -- an abandoned handler owed nothing: `hsafe` says so
    refine hw.idle ?_ _ _
    rcases hop with rfl | ⟨t, hh⟩
    · intro y hy; simpa [abandonsExpiry, hy] using hsafe
    · simp [hh, Handler.expiring]
  · exact hw.expire _
  · exact hw.idle (by simp [hh, Handler.expiring]) _ _

theorem WindowInv.tick (hw : WindowInv s) (dt : Nat) : WindowInv (step s (.tick dt)) where
  expiry_le k x t hx ht := by have := hw.expiry_le k x t hx ht; simp only [step_tick]; omega
  owed := hw.owed

end

theorem windowInv_run {s : Sys} (hw : WindowInv s) (acts : List Action)
    (hsafe : keepsExpiry s acts = true) : WindowInv (run s acts) := by
  induction acts generalizing s with
  | nil => exact hw
  | cons a acts ih =>
    simp only [keepsExpiry, Bool.and_eq_true, Bool.not_eq_true'] at hsafe
    refine ih ?_ hsafe.2
    cases a with
    | tick dt => exact hw.tick dt
    | act i op => exact hw.act hsafe.1

/-! ## Quiescent states -/

/-- A request abandoned right after the `INCR` that created its key: no handler is left
running, and the key has no expiry, so it never expires. -/
theorem abandoned_expire_keeps_key :
    (∀ j, (run init [.act ⟨.apiKey "k", 0⟩ (.arrive "free"), .act ⟨.apiKey "k", 0⟩ .incr,
      .act ⟨.apiKey "k", 0⟩ .abandon]).handlers j = none) ∧
    (run init [.act ⟨.apiKey "k", 0⟩ (.arrive "free"), .act ⟨.apiKey "k", 0⟩ .incr,
      .act ⟨.apiKey "k", 0⟩ .abandon]).store (rateKey "api_key_k") = some ⟨1, none, 0⟩ ∧
    ∀ now, (⟨1, none, 0⟩ : Entry).live now = true := by
  refine ⟨fun j => ?_, rfl, fun _ => rfl⟩
  by_cases hj : j = ⟨.apiKey "k", 0⟩
  · subst hj; rfl
  · simp [hj, init]

/-- Over a run that abandons no handler between its `INCR` returning 1 and its `EXPIRE`:
when no handler is running, every key expires within the window, and one millisecond
after the window it is gone. -/
theorem quiescent_keys_expire (acts : List Action) (hsafe : keepsExpiry init acts = true)
    (hq : ∀ j, (run init acts).handlers j = none) (k : String) (x : Entry)
    (hx : (run init acts).store k = some x) :
    ∃ t, x.expireAt = some t ∧ t ≤ (run init acts).now + rateWindow * 1000 ∧
      x.live ((run init acts).now + rateWindow * 1000 + 1) = false := by
  have hw := windowInv_run init_windowInv acts hsafe
  cases ht : x.expireAt with
  | none =>
    obtain ⟨j, h, -, hj, -⟩ := hw.owed k x hx ht
    rw [hq j] at hj; cases hj
  | some t =>
    have := hw.expiry_le k x t hx ht
    exact ⟨t, rfl, this, by simp only [Entry.live, ht]; simp only [decide_eq_false_iff_not]; omega⟩

theorem quiescent_keys_expire_one_request :
    keepsExpiry init [.act ⟨.apiKey "k", 0⟩ (.arrive "free"), .act ⟨.apiKey "k", 0⟩ .incr,
      .act ⟨.apiKey "k", 0⟩ .expire, .act ⟨.apiKey "k", 0⟩ .check] = true ∧
    (∀ j, (run init [.act ⟨.apiKey "k", 0⟩ (.arrive "free"), .act ⟨.apiKey "k", 0⟩ .incr,
      .act ⟨.apiKey "k", 0⟩ .expire, .act ⟨.apiKey "k", 0⟩ .check]).handlers j = none) ∧
    (run init [.act ⟨.apiKey "k", 0⟩ (.arrive "free"), .act ⟨.apiKey "k", 0⟩ .incr,
      .act ⟨.apiKey "k", 0⟩ .expire, .act ⟨.apiKey "k", 0⟩ .check]).store (rateKey "api_key_k") =
      some ⟨1, some 60000, 0⟩ ∧
    ∃ t, (⟨1, some 60000, 0⟩ : Entry).expireAt = some t ∧ t ≤ 0 + rateWindow * 1000 ∧
      (⟨1, some 60000, 0⟩ : Entry).live (0 + rateWindow * 1000 + 1) = false := by
  have hq : ∀ j, (run init [.act ⟨.apiKey "k", 0⟩ (.arrive "free"), .act ⟨.apiKey "k", 0⟩ .incr,
      .act ⟨.apiKey "k", 0⟩ .expire, .act ⟨.apiKey "k", 0⟩ .check]).handlers j = none := by
    intro j
    by_cases hj : j = ⟨.apiKey "k", 0⟩
    · subst hj; rfl
    · simp [hj, init]
  exact ⟨by decide, hq, rfl, quiescent_keys_expire _ (by decide) hq (rateKey "api_key_k") _ rfl⟩

end SprintGateway
