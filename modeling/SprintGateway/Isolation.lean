import SprintGateway.RateLimit

/- Isolation between principals: does one principal's traffic move another's verdicts?

   The counter a request is charged to is `rate_limit:{username}`, and the username is
   `api_key_{name}` for an API key and the token's `sub` for a bearer token. Two principals
   whose usernames differ touch disjoint keys, handlers and verdicts, so each sees the same
   verdicts whatever the other does. Two credentials of different kinds can still share a
   username: a token whose `sub` is `api_key_x` is charged to the key of the API key `x`.

   What is proved:
     1. `agree_run_filter` — the part of the system that concerns a username `u` (its key,
        its handlers, its verdicts, the clock) evolves the same when every step of the
        other usernames is deleted from the run.
     2. `verdicts_independent` — for principals `A` and `B` with different usernames, two
        runs that differ only in `A`'s steps give `B` the same verdicts.
     3. `shared_username_interferes` — for the bearer token `api_key_x` and the API key
        `x`, ten requests of the token turn the key's first request from admitted into
        rejected.

   ── PROVED vs ASSUMED ──────────────────────────────────────────────────────────
   The system is `SprintGateway.RateLimit`'s; nothing is assumed beyond it.

   Correspondence (Python ↔ Lean):
     `f"rate_limit:{user.username}"`     ↔ `rateKey i.cred.username`
     `username=f"api_key_{key_info.name}"` and `username=payload["sub"]` ↔ `Credential.username`
-/
namespace SprintGateway

/-- The step is one of credential `c`'s requests. -/
def Action.madeBy (c : Credential) : Action → Bool
  | .act i _ => i.cred = c
  | .tick _ => false

/-- The step concerns username `u`: a clock advance, or a step of one of `u`'s requests. -/
def Action.concerns (u : String) : Action → Bool
  | .act i _ => i.cred.username = u
  | .tick _ => true

/-- The two systems agree on what concerns username `u`. -/
structure Agree (u : String) (s s' : Sys) : Prop where
  now : s.now = s'.now
  store : s.store (rateKey u) = s'.store (rateKey u)
  handlers : ∀ j, j.cred.username = u → s.handlers j = s'.handlers j
  log : s.log.filter (fun d => d.id.cred.username = u) = s'.log.filter (fun d => d.id.cred.username = u)

theorem Agree.refl (u : String) (s : Sys) : Agree u s s := ⟨rfl, rfl, fun _ _ => rfl, rfl⟩

theorem Agree.trans {u : String} {s₁ s₂ s₃ : Sys} (h₁ : Agree u s₁ s₂) (h₂ : Agree u s₂ s₃) :
    Agree u s₁ s₃ :=
  ⟨h₁.now.trans h₂.now, h₁.store.trans h₂.store,
    fun j hj => (h₁.handlers j hj).trans (h₂.handlers j hj), h₁.log.trans h₂.log⟩

theorem Agree.symm {u : String} {s s' : Sys} (h : Agree u s s') : Agree u s' s :=
  ⟨h.now.symm, h.store.symm, fun j hj => (h.handlers j hj).symm, h.log.symm⟩

/-- A step of another username's request leaves what concerns `u` untouched. -/
theorem agree_step_other {u : String} {s : Sys} {i : ReqId} {op : Op}
    (hu : i.cred.username ≠ u) : Agree u (step s (.act i op)) s := by
  refine ⟨rfl, ?_, fun j hj => step_handlers_of_ne (by rintro rfl; exact hu hj), ?_⟩
  · exact Function.update_noteq (fun h => hu (rateKey_injective h).symm) _ _
  · rw [step_act]
    simp only [List.filter_append, List.append_right_eq_self, List.filter_eq_nil_iff,
      decide_eq_true_eq]
    intro d hd
    rw [opStep_out_id hd]
    exact hu

/-- Systems that agree on `u` still agree after the same step. -/
theorem Agree.step {u : String} {s s' : Sys} (h : Agree u s s') (a : Action) :
    Agree u (step s a) (step s' a) := by
  cases a with
  | tick dt => exact ⟨by simp [h.now], h.store, h.handlers, h.log⟩
  | act i op =>
    by_cases hu : i.cred.username = u
    · subst hu
      have hin : opStep s.now i op (s.handlers i) (s.store (rateKey i.cred.username)) =
          opStep s'.now i op (s'.handlers i) (s'.store (rateKey i.cred.username)) := by
        rw [h.now, h.handlers i rfl, h.store]
      rw [step_act, step_act]
      refine ⟨h.now, ?_, fun j hj => ?_, ?_⟩
      · simp only [Function.update_same, hin]
      · by_cases hji : j = i
        · subst hji; simp only [Function.update_same, hin]
        · simp only [Function.update_noteq hji, h.handlers j hj]
      · simp only [List.filter_append, h.log, hin]
    · exact (agree_step_other hu).trans (h.trans (agree_step_other hu).symm)

theorem Agree.run {u : String} {s s' : Sys} (h : Agree u s s') (acts : List Action) :
    Agree u (run s acts) (run s' acts) := by
  induction acts generalizing s s' with
  | nil => exact h
  | cons a acts ih => exact ih (h.step a)

/-- Deleting every step of the other usernames' requests changes nothing about `u`. -/
theorem agree_run_filter (u : String) (s : Sys) (acts : List Action) :
    Agree u (run s acts) (run s (acts.filter (Action.concerns u))) := by
  induction acts generalizing s with
  | nil => exact Agree.refl u s
  | cons a acts ih =>
    cases a with
    | tick dt => simpa [Action.concerns] using ih (step s (.tick dt))
    | act i op =>
      by_cases hu : i.cred.username = u
      · simpa [Action.concerns, hu] using ih (step s (.act i op))
      · simp only [run_cons, List.filter_cons, Action.concerns, hu, decide_False,
          Bool.false_eq_true, ite_false]
        exact (ih _).trans ((agree_step_other hu).run _)

/-- Two principals with different usernames: the verdicts of `B`'s requests are the same
in any two runs that differ only in `A`'s steps. -/
theorem verdicts_independent (A B : Credential) (hAB : A.username ≠ B.username)
    (acts₁ acts₂ : List Action)
    (hacts : acts₁.filter (fun a => !a.madeBy A) = acts₂.filter (fun a => !a.madeBy A)) :
    (run init acts₁).log.filter (fun d => d.id.cred = B) =
      (run init acts₂).log.filter (fun d => d.id.cred = B) := by
  -- `B`'s steps and the clock are none of `A`'s
  have hsteps : ∀ acts : List Action, acts.filter (Action.concerns B.username) =
      (acts.filter (fun a => !a.madeBy A)).filter (Action.concerns B.username) := by
    intro acts
    rw [List.filter_filter]
    congr 1
    funext a
    cases a with
    | tick dt => rfl
    | act i op =>
      by_cases hi : i.cred.username = B.username
      · have : i.cred ≠ A := by rintro rfl; exact hAB hi
        simp [Action.concerns, Action.madeBy, hi, this]
      · simp [Action.concerns, hi]
  have hagree : Agree B.username (run init acts₁) (run init acts₂) := by
    have h₁ := agree_run_filter B.username init acts₁
    have h₂ := agree_run_filter B.username init acts₂
    rw [hsteps, hacts, ← hsteps] at h₁
    exact h₁.trans h₂.symm
  -- `B`'s verdicts are among those of its username
  have hsub : ∀ l : List Decision, l.filter (fun d => d.id.cred = B) =
      (l.filter (fun d => d.id.cred.username = B.username)).filter (fun d => d.id.cred = B) := by
    intro l
    rw [List.filter_filter]
    congr 1
    funext d
    by_cases hd : d.id.cred = B <;> simp [hd]
  rw [hsub, hagree.log, ← hsub]

theorem verdicts_independent_two_keys :
    (Credential.apiKey "a").username ≠ (Credential.apiKey "b").username ∧
    ([.act ⟨.apiKey "a", 0⟩ (.arrive "free"), .act ⟨.apiKey "a", 0⟩ .incr,
        .act ⟨.apiKey "b", 0⟩ (.arrive "free"), .act ⟨.apiKey "b", 0⟩ .incr,
        .act ⟨.apiKey "b", 0⟩ .expire, .act ⟨.apiKey "b", 0⟩ .check] : List Action).filter
        (fun a => !a.madeBy (.apiKey "a")) =
      ([.act ⟨.apiKey "b", 0⟩ (.arrive "free"), .act ⟨.apiKey "b", 0⟩ .incr,
        .act ⟨.apiKey "b", 0⟩ .expire, .act ⟨.apiKey "b", 0⟩ .check] : List Action).filter
        (fun a => !a.madeBy (.apiKey "a")) ∧
    (run init [.act ⟨.apiKey "a", 0⟩ (.arrive "free"), .act ⟨.apiKey "a", 0⟩ .incr,
        .act ⟨.apiKey "b", 0⟩ (.arrive "free"), .act ⟨.apiKey "b", 0⟩ .incr,
        .act ⟨.apiKey "b", 0⟩ .expire, .act ⟨.apiKey "b", 0⟩ .check]).log.filter
        (fun d => d.id.cred = .apiKey "b") =
      (run init [.act ⟨.apiKey "b", 0⟩ (.arrive "free"), .act ⟨.apiKey "b", 0⟩ .incr,
        .act ⟨.apiKey "b", 0⟩ .expire, .act ⟨.apiKey "b", 0⟩ .check]).log.filter
        (fun d => d.id.cred = .apiKey "b") :=
  ⟨by decide, by decide, verdicts_independent (.apiKey "a") (.apiKey "b") (by decide) _ _ (by decide)⟩

/-- The bearer token with `sub` `api_key_x` and the API key `x` share a counter: after ten
requests of the token, the key's first request is the eleventh of a free tier and is
rejected, where alone it is admitted. -/
theorem shared_username_interferes :
    (Credential.bearer "api_key_x").username = (Credential.apiKey "x").username ∧
    (((List.range 10).flatMap fun n => [Action.act ⟨.bearer "api_key_x", n⟩ (.arrive "pro"),
        .act ⟨.bearer "api_key_x", n⟩ .incr]) ++
      ([.act ⟨.apiKey "x", 0⟩ (.arrive "free"), .act ⟨.apiKey "x", 0⟩ .incr,
        .act ⟨.apiKey "x", 0⟩ .expire, .act ⟨.apiKey "x", 0⟩ .check] : List Action)).filter
        (fun a => !a.madeBy (.bearer "api_key_x")) =
      ([.act ⟨.apiKey "x", 0⟩ (.arrive "free"), .act ⟨.apiKey "x", 0⟩ .incr,
        .act ⟨.apiKey "x", 0⟩ .expire, .act ⟨.apiKey "x", 0⟩ .check] : List Action) ∧
    (run init (((List.range 10).flatMap fun n => [Action.act ⟨.bearer "api_key_x", n⟩ (.arrive "pro"),
        .act ⟨.bearer "api_key_x", n⟩ .incr]) ++
      ([.act ⟨.apiKey "x", 0⟩ (.arrive "free"), .act ⟨.apiKey "x", 0⟩ .incr,
        .act ⟨.apiKey "x", 0⟩ .expire, .act ⟨.apiKey "x", 0⟩ .check] : List Action))).log.filter
        (fun d => d.id.cred = .apiKey "x") = [⟨⟨.apiKey "x", 0⟩, "free", 0, 11, false⟩] ∧
    (run init ([.act ⟨.apiKey "x", 0⟩ (.arrive "free"), .act ⟨.apiKey "x", 0⟩ .incr,
        .act ⟨.apiKey "x", 0⟩ .expire, .act ⟨.apiKey "x", 0⟩ .check] : List Action)).log.filter
        (fun d => d.id.cred = .apiKey "x") = [⟨⟨.apiKey "x", 0⟩, "free", 0, 1, true⟩] := by
  decide

end SprintGateway
