import Mathlib.Data.List.Basic
import Mathlib.Data.List.Nodup

/- Python values the gateway passes between its functions.

   `main.py` copies header maps with `dict(...)`, edits them with `d[k] = v` and
   `d.pop(k, None)`, compares header names after `str.lower`, rewrites one url with
   `str.replace`, and reports failures by raising. This module gives each one definition:

   1. `lower` — `str.lower` on the ASCII tokens HTTP field names are made of (h11 and
      httptools refuse any other byte in a name), and that it is idempotent.
   2. `PyDict` — a `dict[str, str]`: its items in insertion order, with the keys
      distinct as a field, so an invalid dict cannot be built. `set` is `d[k] = v` (an
      existing key keeps its place, a new one goes last), `pop` is `d.pop(k, None)`, and
      `ofMapping` is `dict(m)` for a mapping `m`: `d[k] = m[k]` for each key of
      `m.keys()` in turn. `mem_set`, `mem_pop` and `mem_ofMapping` say everything the
      later modules use about them.
   3. `strReplace` — `str.replace` for a non-empty pattern: every occurrence, left to
      right and without overlap (`strReplace_old_append`), and nothing when there is none
      (`strReplace_of_not_infix`).
   4. `Raised` — what a call raises, as its callers tell it apart: an `HTTPException`
      with its status code and detail, or any other exception by its class name.
-/
namespace SprintGateway

/-! ## `str.lower` on ASCII -/

/-- `str.lower` on ASCII text. -/
def lower (s : String) : String := ⟨s.data.map Char.toLower⟩

theorem char_toNat_ofNat {n : Nat} (h : n < 0xd800) : (Char.ofNat n).toNat = n := by
  have hv : n.isValidChar := Or.inl h
  simp only [Char.ofNat, Char.ofNatAux, hv, dif_pos, Char.toNat]
  simp [UInt32.toNat, UInt32.ofNat']

theorem char_toLower_toLower (c : Char) : c.toLower.toLower = c.toLower := by
  by_cases h : c.toNat ≥ 65 ∧ c.toNat ≤ 90
  · have e : c.toLower = Char.ofNat (c.toNat + 32) := by simp [Char.toLower, h]
    have hv : (Char.ofNat (c.toNat + 32)).toNat = c.toNat + 32 := char_toNat_ofNat (by omega)
    rw [e, Char.toLower]
    simp only [hv]
    rw [if_neg (by omega)]
  · have e : c.toLower = c := by simp [Char.toLower, h]
    rw [e, e]

@[simp] theorem lower_lower (s : String) : lower (lower s) = lower s := by
  simp [lower, List.map_map, Function.comp_def, char_toLower_toLower]

/-! ## `dict[str, str]` -/

/-- A Python `dict` with `str` keys and values: the items in insertion order. -/
structure PyDict where
  items : List (String × String)
  nodup : (items.map Prod.fst).Nodup

namespace PyDict

/-- The keys, in insertion order. -/
def keys (d : PyDict) : List String := d.items.map Prod.fst

def empty : PyDict := ⟨[], List.nodup_nil⟩

/-- `d.get(k)`. -/
def get? (d : PyDict) (k : String) : Option String := d.items.lookup k

/-- `d.pop(k, None)`: the item with key `k` goes, if there is one. -/
def pop (d : PyDict) (k : String) : PyDict :=
  ⟨d.items.filter (fun p => p.1 != k), d.nodup.sublist ((List.filter_sublist _).map _)⟩

/-- `d[k] = v`: an existing key keeps its place and takes `v`, a new key goes last. -/
def set (d : PyDict) (k v : String) : PyDict :=
  if h : k ∈ d.keys then
    ⟨d.items.map (fun p => if p.1 = k then (k, v) else p), by
      rw [List.map_map]
      have : (Prod.fst ∘ fun p : String × String => if p.1 = k then (k, v) else p) = Prod.fst := by
        funext p; by_cases hp : p.1 = k <;> simp [hp]
      rw [this]; exact d.nodup⟩
  else
    ⟨d.items ++ [(k, v)], by
      rw [List.map_append, List.nodup_append]
      exact ⟨d.nodup, by simp, by simpa [keys] using h⟩⟩

theorem mem_keys {d : PyDict} {k : String} : k ∈ d.keys ↔ ∃ v, (k, v) ∈ d.items := by
  simp [keys]

@[simp] theorem mem_pop {d : PyDict} {k : String} {x : String × String} :
    x ∈ (d.pop k).items ↔ x ∈ d.items ∧ x.1 ≠ k := by
  simp [pop]

@[simp] theorem mem_set {d : PyDict} {k v : String} {x : String × String} :
    x ∈ (d.set k v).items ↔ x = (k, v) ∨ (x ∈ d.items ∧ x.1 ≠ k) := by
  unfold set
  split
  · next hk =>
    obtain ⟨w, hw⟩ := mem_keys.mp hk
    simp only [List.mem_map]
    constructor
    · rintro ⟨p, hp, rfl⟩
      by_cases h : p.1 = k <;> simp [h, hp]
    · rintro (rfl | ⟨hx, hxk⟩)
      · exact ⟨(k, w), hw, by simp⟩
      · exact ⟨x, hx, by simp [hxk]⟩
  · next hk =>
    simp only [List.mem_append, List.mem_singleton]
    constructor
    · rintro (hx | rfl)
      · exact .inr ⟨hx, fun h => hk (mem_keys.mpr ⟨x.2, h ▸ hx⟩)⟩
      · exact .inl rfl
    · rintro (rfl | ⟨hx, -⟩)
      · exact .inr rfl
      · exact .inl hx

/-- `d[k] = v` for a key `d` does not hold appends the item. -/
theorem set_of_not_mem {d : PyDict} {k v : String} (h : k ∉ d.keys) :
    (d.set k v).items = d.items ++ [(k, v)] := by
  simp [set, h]

theorem keys_set_of_not_mem {d : PyDict} {k v : String} (h : k ∉ d.keys) :
    (d.set k v).keys = d.keys ++ [k] := by
  simp [keys, set_of_not_mem h]

/-- `dict(m)` for a mapping `m` whose `keys()` are `ks` (a name may repeat) and whose
`m[k]` is `get k`. -/
def ofMapping (ks : List String) (get : String → String) : PyDict :=
  ks.foldl (fun d k => d.set k (get k)) empty

theorem mem_foldl_set {ks : List String} {get : String → String} {d : PyDict}
    (hd : ∀ x ∈ d.items, x.2 = get x.1) {x : String × String} :
    x ∈ (ks.foldl (fun d k => d.set k (get k)) d).items ↔
      x ∈ d.items ∨ (x.1 ∈ ks ∧ x.2 = get x.1) := by
  induction ks generalizing d with
  | nil => simp
  | cons k ks ih =>
    have hd' : ∀ y ∈ (d.set k (get k)).items, y.2 = get y.1 := by
      intro y hy
      rcases mem_set.mp hy with rfl | ⟨hy, -⟩
      · rfl
      · exact hd y hy
    rw [List.foldl_cons, ih hd', mem_set]
    constructor
    · rintro ((rfl | ⟨hx, -⟩) | ⟨hk, hv⟩)
      · exact .inr ⟨by simp, rfl⟩
      · exact .inl hx
      · exact .inr ⟨List.mem_cons_of_mem _ hk, hv⟩
    · rintro (hx | ⟨hk, hv⟩)
      · by_cases h : x.1 = k
        · exact .inl (.inl (Prod.ext h (by rw [hd x hx, h])))
        · exact .inl (.inr ⟨hx, h⟩)
      · rcases List.mem_cons.mp hk with h | h
        · exact .inl (.inl (Prod.ext h (by rw [hv, h])))
        · exact .inr ⟨h, hv⟩

@[simp] theorem mem_ofMapping {ks : List String} {get : String → String} {x : String × String} :
    x ∈ (ofMapping ks get).items ↔ x.1 ∈ ks ∧ x.2 = get x.1 := by
  rw [ofMapping, mem_foldl_set (by simp [empty])]
  simp [empty]

end PyDict

/-! ## `str.replace` -/

/-- The left-to-right scan of `str.replace(old, new)`: where `old` starts, `new` is written
and the rest of that occurrence skipped (`skip` counts what is left of it), so that
occurrences never overlap. -/
def replaceScan (old new : List Char) : Nat → List Char → List Char
  | _, [] => []
  | skip + 1, _ :: s => replaceScan old new skip s
  | 0, c :: s =>
    if old.isPrefixOf (c :: s) then new ++ replaceScan old new (old.length - 1) s
    else c :: replaceScan old new 0 s

/-- `s.replace(old, new)`, for a non-empty `old`. -/
def strReplace (old new s : List Char) : List Char := replaceScan old new 0 s

theorem replaceScan_skip (old new o rest : List Char) :
    replaceScan old new o.length (o ++ rest) = replaceScan old new 0 rest := by
  induction o with
  | nil => rfl
  | cons c o ih => exact ih

/-- An occurrence at the front is replaced, and the scan goes on after it. -/
theorem strReplace_old_append {old : List Char} (hne : old ≠ []) (new rest : List Char) :
    strReplace old new (old ++ rest) = new ++ strReplace old new rest := by
  obtain ⟨c, o, rfl⟩ := List.exists_cons_of_ne_nil hne
  have hp : (c :: o).isPrefixOf (c :: (o ++ rest)) = true :=
    List.isPrefixOf_iff_prefix.mpr (List.prefix_append _ _)
  rw [strReplace, List.cons_append, replaceScan, if_pos hp, List.length_cons, Nat.add_sub_cancel,
    replaceScan_skip, strReplace]

/-- A string where `old` never occurs is left as it is. -/
theorem strReplace_of_not_infix {old : List Char} (new : List Char) {s : List Char}
    (h : ¬ old <:+: s) : strReplace old new s = s := by
  induction s with
  | nil => rfl
  | cons c s ih =>
    have hp : old.isPrefixOf (c :: s) = false :=
      Bool.eq_false_iff.mpr fun hp => h (List.isPrefixOf_iff_prefix.mp hp).isInfix
    simp only [strReplace, replaceScan, hp] at ih ⊢
    rw [if_neg (by simp), ih (fun hi => h (hi.trans (List.infix_cons (List.infix_refl s))))]

example : strReplace "http".toList "ws".toList "https://httpbin.org".toList =
    "wss://wsbin.org".toList := by decide

/-! ## Exceptions -/

/-- What a call raises, as its callers tell it apart. -/
inductive Raised where
  /-- `HTTPException(status_code=status, detail=detail)`. -/
  | http (status : Nat) (detail : String)
  /-- Any other exception, by its class name. -/
  | other (name : String)
  deriving DecidableEq, Repr

end SprintGateway
