import Mathlib.Data.List.Basic
import Mathlib.Algebra.Group.Nat.Basic

/- The Redis counters `proxy_all_requests` keeps: `rate_limit:{username}`, moved by `INCR`
   and given a lifetime by `EXPIRE key 60`.

   Redis expires keys lazily: a key whose expiry time has passed is absent to every
   command, and the next `INCR` creates it again at 1 with no expiry. `Entry` is one key's
   value; besides its count and expiry it carries, as ghost state, the time it was created
   (`born`), which names the key's lifetime. Times are milliseconds; `EXPIRE` takes
   seconds.

   `INCR` keeps a live key's expiry and errors past 2^63 - 1; `EXPIRE` on a missing or
   expired key changes nothing and returns 0, which `proxy_all_requests` ignores.

   Correspondence (Redis ↔ Lean):
     the string at `rate_limit:{u}`  ↔ `Entry` at `rateKey u`
     key expired (`now > when`)      ↔ `¬ e.live now`
     `INCR key`                      ↔ `incrEntry`
     `EXPIRE key seconds`            ↔ `expireEntry`
-/
namespace SprintGateway

/-- A counter key: its value, its expiry time if it has one, and the time it was created. -/
structure Entry where
  count : Nat
  expireAt : Option Nat
  born : Nat
  deriving DecidableEq, Repr

/-- The key has not expired at `now` (Redis: expired when `now > when`). -/
def Entry.live (e : Entry) (now : Nat) : Bool :=
  match e.expireAt with
  | none => true
  | some t => decide (now ≤ t)

/-- The largest value `INCR` may produce, `LLONG_MAX`. -/
def incrMax : Nat := 2 ^ 63 - 1

/-- `INCR key` at `now`: the value it returns and the entry it leaves, or `none` for the
overflow error. A live key counts one more and keeps its expiry; a missing or expired one
is created at 1 with no expiry. -/
def incrEntry (now : Nat) : Option Entry → Option (Nat × Entry)
  | some e =>
    if e.live now then
      if e.count + 1 ≤ incrMax then some (e.count + 1, { e with count := e.count + 1 }) else none
    else some (1, ⟨1, none, now⟩)
  | none => some (1, ⟨1, none, now⟩)

/-- `EXPIRE key seconds` at `now`: a live key expires `seconds` from now. -/
def expireEntry (now seconds : Nat) : Option Entry → Option Entry
  | some e => if e.live now then some { e with expireAt := some (now + seconds * 1000) } else some e
  | none => none

/-- `f"rate_limit:{user.username}"`. -/
def rateKey (username : String) : String := "rate_limit:" ++ username

theorem rateKey_injective {u v : String} (h : rateKey u = rateKey v) : u = v := by
  unfold rateKey at h
  exact String.ext (List.append_cancel_left (congrArg String.data h))

/-! ## What the two commands do -/

/-- The cases of `INCR`: a live key counts on in its lifetime, any other starts a new one. -/
theorem incrEntry_cases {now v : Nat} {e : Option Entry} {e' : Entry}
    (h : incrEntry now e = some (v, e')) :
    (∃ x, e = some x ∧ x.live now = true ∧ v = x.count + 1 ∧ e' = { x with count := x.count + 1 }) ∨
      ((∀ x, e = some x → x.live now = false) ∧ v = 1 ∧ e' = ⟨1, none, now⟩) := by
  cases e with
  | none => simp only [incrEntry, Option.some.injEq, Prod.mk.injEq] at h; exact .inr ⟨by simp, h.1.symm, h.2.symm⟩
  | some x =>
    simp only [incrEntry] at h
    split at h
    · split at h
      · simp only [Option.some.injEq, Prod.mk.injEq] at h
        exact .inl ⟨x, rfl, by assumption, h.1.symm, h.2.symm⟩
      · cases h
    · simp only [Option.some.injEq, Prod.mk.injEq] at h
      exact .inr ⟨fun y hy => by cases hy; exact Bool.eq_false_iff.mpr ‹_›, h.1.symm, h.2.symm⟩

theorem incrEntry_value_pos {now v : Nat} {e : Option Entry} {e' : Entry}
    (h : incrEntry now e = some (v, e')) : 1 ≤ v ∧ v ≤ e'.count := by
  rcases incrEntry_cases h with ⟨x, -, -, rfl, rfl⟩ | ⟨-, rfl, rfl⟩ <;> simp

/-- `INCR` keeps a live key's expiry and creates a new one without any. -/
theorem incrEntry_expireAt {now v : Nat} {e : Option Entry} {e' : Entry}
    (h : incrEntry now e = some (v, e')) :
    (∃ x, e = some x ∧ e'.expireAt = x.expireAt) ∨ (v = 1 ∧ e'.expireAt = none) := by
  rcases incrEntry_cases h with ⟨x, rfl, -, -, rfl⟩ | ⟨-, rfl, rfl⟩
  · exact .inl ⟨x, rfl, rfl⟩
  · exact .inr ⟨rfl, rfl⟩

/-- After `EXPIRE` the key has an expiry: the one just set, or, on a key that had already
expired, its old one. -/
theorem expireEntry_expireAt {now secs : Nat} {e : Option Entry} {e' : Entry}
    (h : expireEntry now secs e = some e') :
    ∃ t, e'.expireAt = some t ∧ (t = now + secs * 1000 ∨ ∃ x, e = some x ∧ x.expireAt = some t) := by
  cases e with
  | none => cases h
  | some x =>
    simp only [expireEntry] at h
    split at h <;> (simp only [Option.some.injEq] at h; subst h)
    · exact ⟨_, rfl, .inl rfl⟩
    · next hl =>
      unfold Entry.live at hl
      split at hl
      · exact absurd rfl hl
      · exact ⟨_, ‹_›, .inr ⟨x, rfl, ‹_›⟩⟩

/-! ## Key lifetimes

Redis hands out each value of one key lifetime once: a lifetime counts 1, 2, 3, ... and
a new lifetime starts only after the old one has expired, strictly later. `Issued e b v`
says the value `v` of the lifetime born at `b` has been handed out by the key `e`. -/

/-- What every stored key satisfies at `now`: created by now, and its expiry, if any, no
earlier than its creation. -/
structure Entry.Valid (now : Nat) (e : Entry) : Prop where
  born_le : e.born ≤ now
  born_le_expiry : ∀ t, e.expireAt = some t → e.born ≤ t

/-- The value `value` of the lifetime created at `born` has been handed out by the key `e`:
that lifetime is the current one or an earlier one, and if current, it has counted up to
`value`. -/
def Issued (e : Option Entry) (born value : Nat) : Prop :=
  1 ≤ value ∧ ∃ x, e = some x ∧ born ≤ x.born ∧ (born = x.born → value ≤ x.count)

theorem Entry.Valid.tick {now : Nat} {x : Entry} (h : x.Valid now) (dt : Nat) :
    x.Valid (now + dt) :=
  ⟨by have := h.born_le; omega, h.born_le_expiry⟩

/-- An expired key's lifetime began strictly before `now`. -/
theorem Entry.Valid.born_lt {now : Nat} {x : Entry} (h : x.Valid now)
    (hl : x.live now = false) : x.born < now := by
  unfold Entry.live at hl
  split at hl
  · cases hl
  · next t ht =>
    have := h.born_le_expiry t ht
    simp only [decide_eq_false_iff_not, Nat.not_le] at hl
    omega

theorem incrEntry_valid {now v : Nat} {e : Option Entry} {e' : Entry}
    (hv : ∀ x, e = some x → x.Valid now) (h : incrEntry now e = some (v, e')) :
    e'.Valid now := by
  rcases incrEntry_cases h with ⟨x, rfl, -, -, rfl⟩ | ⟨-, -, rfl⟩
  · exact ⟨(hv x rfl).born_le, (hv x rfl).born_le_expiry⟩
  · exact ⟨le_rfl, fun t ht => by cases ht⟩

theorem expireEntry_valid {now secs : Nat} {e : Option Entry} {e' : Entry}
    (hv : ∀ x, e = some x → x.Valid now) (h : expireEntry now secs e = some e') :
    e'.Valid now := by
  cases e with
  | none => cases h
  | some x =>
    have hx := hv x rfl
    simp only [expireEntry] at h
    split at h <;> (simp only [Option.some.injEq] at h; subst h)
    · exact ⟨hx.born_le, fun t ht => by cases ht; exact hx.born_le.trans (Nat.le_add_right _ _)⟩
    · exact hx

/-- `INCR` keeps every value handed out before as handed out. -/
theorem incrEntry_issued {now v b w : Nat} {e : Option Entry} {e' : Entry}
    (hv : ∀ x, e = some x → x.Valid now) (h : incrEntry now e = some (v, e'))
    (hi : Issued e b w) : Issued (some e') b w := by
  obtain ⟨hw, x, rfl, hb, hc⟩ := hi
  refine ⟨hw, e', rfl, ?_⟩
  rcases incrEntry_cases h with ⟨y, hy, -, -, rfl⟩ | ⟨hdead, -, rfl⟩
  · cases hy
    exact ⟨hb, fun he => Nat.le_succ_of_le (hc he)⟩
  · have := (hv x rfl).born_lt (hdead x rfl)
    exact ⟨by dsimp only; omega, fun he => by dsimp only at he; omega⟩

/-- The value `INCR` returns is handed out by the entry it leaves. -/
theorem incrEntry_issued_self {now v : Nat} {e : Option Entry} {e' : Entry}
    (h : incrEntry now e = some (v, e')) : Issued (some e') e'.born v :=
  ⟨(incrEntry_value_pos h).1, e', rfl, le_rfl, fun _ => (incrEntry_value_pos h).2⟩

/-- The value `INCR` returns was never handed out before, in this lifetime or an earlier one. -/
theorem incrEntry_fresh {now v b w : Nat} {e : Option Entry} {e' : Entry}
    (hv : ∀ x, e = some x → x.Valid now) (h : incrEntry now e = some (v, e'))
    (hi : Issued e b w) : (b, w) ≠ (e'.born, v) := by
  obtain ⟨-, x, rfl, hb, hc⟩ := hi
  rcases incrEntry_cases h with ⟨y, hy, -, rfl, rfl⟩ | ⟨hdead, -, rfl⟩
  · cases hy
    intro he
    simp only [Prod.mk.injEq] at he
    have := hc he.1
    omega
  · have := (hv x rfl).born_lt (hdead x rfl)
    intro he
    simp only [Prod.mk.injEq] at he
    omega

theorem expireEntry_issued {now secs b w : Nat} {e : Option Entry} (hi : Issued e b w) :
    Issued (expireEntry now secs e) b w := by
  obtain ⟨hw, x, rfl, hb, hc⟩ := hi
  refine ⟨hw, ?_⟩
  simp only [expireEntry]
  split
  · exact ⟨_, rfl, hb, hc⟩
  · exact ⟨x, rfl, hb, hc⟩

end SprintGateway
