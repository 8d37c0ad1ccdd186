import Mathlib.Data.List.Basic

/- The claim checks of `jose.jwt.decode` as `get_current_user` calls it, and the `int()`
   they read the time claims with.

   `jwt.decode(token, secret_key, algorithms=[algorithm])` verifies the signature, parses
   the payload and runs `_validate_claims` with no audience, issuer, subject or access
   token and the default options: `_validate_iat`, `_validate_nbf`, `_validate_exp`,
   `_validate_aud`, `_validate_iss`, `_validate_sub`, `_validate_jti`, `_validate_at_hash`,
   in that order. The time claims go through `int()`. A `ValueError` there becomes a
   `JWTClaimsError`; the `TypeError` of a `null`, an array or an object and the
   `OverflowError` of an infinite float are not caught and leave `jwt.decode` as they are.

   `int()` of a `str` first maps Unicode whitespace to a space and Unicode decimal digits to
   ASCII ones (`_PyUnicode_TransformDecimalAndSpaceToASCII`), then reads, in base 10,
   whitespace, an optional sign, digits with single underscores between them, whitespace
   (`PyLong_FromString`), and refuses more digits than `sys.get_int_max_str_digits()`.

   What is proved:
     1. `validateClaims_eq_ok` — the checks pass exactly when every time claim present is
        read by `int()`, `nbf` is not after the clock and `exp` not before it, `sub` and
        `jti` are strings when present, and there is no `aud` and no `at_hash`.
     2. `validateClaims_escaped` — the only exceptions that leave the checks other than a
        `JWTError` are `int()`'s `TypeError` and `OverflowError`.
     3. `pyIntOfStr_digits` — `int()` reads a string of ASCII digits, up to the digit limit,
        as the number they spell.

   ── PROVED vs ASSUMED ──────────────────────────────────────────────────────────
   A claim value is what `json.loads` gives; a float is represented by what `int()` makes
   of it: its truncation toward zero, or infinity, or NaN. The Unicode tables are those of
   Unicode 15.0, as CPython 3.12 ships them, and the digit limit is the default 4300.
   A payload names each claim once.

   Correspondence (Python ↔ Lean):
     a JSON value of the payload                       ↔ `ClaimValue`
     `int(x)`                                          ↔ `ClaimValue.toInt`
     `int(s)` for a `str`                              ↔ `pyIntOfStr`
     `_PyUnicode_TransformDecimalAndSpaceToASCII`      ↔ `transformDecimalAndSpaceToAscii`
     `PyLong_FromString(s, &end, 10)`                  ↔ `longFromStringBase10`
     `_validate_iat`, `_validate_nbf`, `_validate_exp` ↔ `validateIat`, `validateNbf`, `validateExp`
     `_validate_aud`, `_validate_sub`, `_validate_jti` ↔ `validateAud`, `validateSub`, `validateJti`
     `_validate_at_hash`                               ↔ `validateAtHash`
     `_validate_claims`                                ↔ `validateClaims`
-/
namespace SprintGateway

/-! ## `int()` of a string -/

/-- What `int()` raises. -/
inductive IntError where
  | valueError
  | typeError
  | overflowError
  deriving DecidableEq, Repr

/-- `Py_ISSPACE`: the ASCII whitespace. -/
def pyIsSpace (c : Char) : Bool := c = ' ' || (9 ≤ c.toNat && c.toNat ≤ 13)

/-- The whitespace above ASCII (`Py_UNICODE_ISSPACE`). -/
def unicodeSpaces : List Nat :=
  [0x85, 0xA0, 0x1680, 0x2000, 0x2001, 0x2002, 0x2003, 0x2004, 0x2005, 0x2006, 0x2007, 0x2008,
    0x2009, 0x200A, 0x2028, 0x2029, 0x202F, 0x205F, 0x3000]

/-- The zeros of the Unicode decimal digits (category `Nd`); each is followed by the digits
one to nine. -/
def decimalZeros : List Nat :=
  [0x30, 0x660, 0x6F0, 0x7C0, 0x966, 0x9E6, 0xA66, 0xAE6, 0xB66, 0xBE6, 0xC66, 0xCE6, 0xD66,
    0xDE6, 0xE50, 0xED0, 0xF20, 0x1040, 0x1090, 0x17E0, 0x1810, 0x1946, 0x19D0, 0x1A80, 0x1A90,
    0x1B50, 0x1BB0, 0x1C40, 0x1C50, 0xA620, 0xA8D0, 0xA900, 0xA9D0, 0xA9F0, 0xAA50, 0xABF0,
    0xFF10, 0x104A0, 0x10D30, 0x11066, 0x110F0, 0x11136, 0x111D0, 0x112F0, 0x11450, 0x114D0,
    0x11650, 0x116C0, 0x11730, 0x118E0, 0x11950, 0x11C50, 0x11D50, 0x11DA0, 0x11F50, 0x16A60,
    0x16AC0, 0x16B50, 0x1D7CE, 0x1D7D8, 0x1D7E2, 0x1D7EC, 0x1D7F6, 0x1E140, 0x1E2F0, 0x1E4F0,
    0x1E950, 0x1FBF0]

/-- `Py_UNICODE_TODECIMAL`: the value of a decimal digit. -/
def toDecimal (c : Char) : Option Nat :=
  (decimalZeros.find? fun z => z ≤ c.toNat && c.toNat < z + 10).map (c.toNat - ·)

/-- The loop of `_PyUnicode_TransformDecimalAndSpaceToASCII`: a character below 127 is kept,
whitespace becomes a space and a decimal digit its ASCII digit; at any other character the
string is cut after a `?`, which no parse accepts. -/
def transformChars : List Char → List Char
  | [] => []
  | c :: cs =>
    if c.toNat < 127 then c :: transformChars cs
    else if c.toNat ∈ unicodeSpaces then ' ' :: transformChars cs
    else match toDecimal c with
      | some d => Char.ofNat (48 + d) :: transformChars cs
      | none => ['?']

/-- `_PyUnicode_TransformDecimalAndSpaceToASCII`: an ASCII string is returned as it is. -/
def transformDecimalAndSpaceToAscii (s : List Char) : List Char :=
  if s.all (·.toNat < 128) then s else transformChars s

/-- The loop of `long_from_string_base` in base 10, `prev` being the character read last:
the digits it reads and what follows them, or `none` at a doubled or trailing underscore. -/
def scanBase10 (prev : Option Char) : List Char → Option (List Nat × List Char)
  | [] => if prev = some '_' then none else some ([], [])
  | c :: cs =>
    if c.isDigit then (scanBase10 (some c) cs).map fun r => ((c.toNat - 48) :: r.1, r.2)
    else if c = '_' then (if prev = some '_' then none else scanBase10 (some c) cs)
    else if prev = some '_' then none else some ([], c :: cs)

/-- The default of `sys.get_int_max_str_digits()`. -/
def maxStrDigits : Nat := 4300

/-- The number a list of decimal digits spells. -/
def digitsValue (ds : List Nat) : Nat := ds.foldl (fun n d => 10 * n + d) 0

/-- The sign `PyLong_FromString` reads: whether it is `-`, and what follows it. -/
def readSign : List Char → Bool × List Char
  | '+' :: r => (false, r)
  | '-' :: r => (true, r)
  | r => (false, r)

/-- `PyLong_FromString(s, &end, 10)`, with the check of `PyLong_FromUnicodeObject` that the
whole string was read: whitespace, a sign, digits with single underscores between them and
none first, whitespace. -/
def longFromStringBase10 (s : List Char) : Except IntError Int :=
  let (neg, body) := readSign (s.dropWhile pyIsSpace)
  if body.head? = some '_' then .error .valueError else
  match scanBase10 none body with
  | none => .error .valueError
  | some (ds, rest) =>
    if ds = [] ∨ rest.all pyIsSpace = false then .error .valueError
    else if maxStrDigits < ds.length then .error .valueError
    else .ok (if neg then -(digitsValue ds : Int) else digitsValue ds)

/-- `int(s)` for a `str` `s`. -/
def pyIntOfStr (s : String) : Except IntError Int :=
  longFromStringBase10 (transformDecimalAndSpaceToAscii s.data)

/-! ## Claim values -/

/-- A JSON float, by what `int()` makes of it: a finite one is its truncation toward zero. -/
inductive PyFloat where
  | finite (trunc : Int)
  | infinite
  | nan
  deriving DecidableEq, Repr

/-- A claim value, as `json.loads` gives it. -/
inductive ClaimValue where
  | str (s : String)
  | int (n : Int)
  | float (f : PyFloat)
  | bool (b : Bool)
  | null
  /-- an array or an object -/
  | other
  deriving DecidableEq, Repr

/-- `int(x)`. -/
def ClaimValue.toInt : ClaimValue → Except IntError Int
  | .str s => pyIntOfStr s
  | .int n => .ok n
  | .float (.finite t) => .ok t
  | .float .infinite => .error .overflowError
  | .float .nan => .error .valueError
  | .bool b => .ok (if b then 1 else 0)
  | .null | .other => .error .typeError

/-- A decoded token payload: its claims by name. -/
abbrev Payload := List (String × ClaimValue)

/-! ## `_validate_claims` -/

/-- What the claim checks raise: a `JWTError` (a `JWTClaimsError` or an
`ExpiredSignatureError`), or an exception of `int()` they let through, by name. -/
inductive DecodeError where
  | jwtError
  | escaped (name : String)
  deriving DecidableEq, Repr

/-- `int(claims[...])` inside `jose`: only a `ValueError` is caught, as a `JWTClaimsError`. -/
def intClaim (v : ClaimValue) : Except DecodeError Int :=
  match v.toInt with
  | .ok n => .ok n
  | .error .valueError => .error .jwtError
  | .error .typeError => .error (.escaped "TypeError")
  | .error .overflowError => .error (.escaped "OverflowError")

/-- `if name not in claims: return`, then `check` on the claim's value. -/
def whenPresent (name : String) (check : ClaimValue → Except DecodeError Unit) (p : Payload) :
    Except DecodeError Unit :=
  match p.lookup name with
  | none => .ok ()
  | some v => check v

/-- `_validate_iat`: `int(claims['iat'])`, its value unused. -/
def validateIat (p : Payload) : Except DecodeError Unit :=
  whenPresent "iat" (fun v => (intClaim v).map fun _ => ()) p

/-- `_validate_nbf` at `now` seconds, leeway 0: `nbf > now` fails. -/
def validateNbf (now : Int) (p : Payload) : Except DecodeError Unit :=
  whenPresent "nbf" (fun v => (intClaim v).bind fun nbf =>
    if nbf > now then .error .jwtError else .ok ()) p

/-- `_validate_exp` at `now` seconds, leeway 0: `exp < now` fails. -/
def validateExp (now : Int) (p : Payload) : Except DecodeError Unit :=
  whenPresent "exp" (fun v => (intClaim v).bind fun exp =>
    if exp < now then .error .jwtError else .ok ()) p

/-- `_validate_aud` with `audience=None`: a value that is not a string or a list of strings
is refused, and `None` is in no list of strings, so every `aud` is refused. -/
def validateAud (p : Payload) : Except DecodeError Unit :=
  whenPresent "aud" (fun _ => .error .jwtError) p

/-- A claim that must be a string. -/
def validateStrClaim (name : String) (p : Payload) : Except DecodeError Unit :=
  whenPresent name (fun
    | .str _ => .ok ()
    | _ => .error .jwtError) p

/-- `_validate_sub` with `subject=None`. -/
def validateSub (p : Payload) : Except DecodeError Unit := validateStrClaim "sub" p

/-- `_validate_jti`. -/
def validateJti (p : Payload) : Except DecodeError Unit := validateStrClaim "jti" p

/-- `_validate_at_hash` with `access_token=None`: `if not access_token` refuses every
`at_hash`. -/
def validateAtHash (p : Payload) : Except DecodeError Unit :=
  whenPresent "at_hash" (fun _ => .error .jwtError) p

/-- `_validate_claims` with the default options and no audience, issuer, subject or access
token, at `now` seconds; `_validate_iss` checks nothing without an issuer. -/
def validateClaims (now : Int) (p : Payload) : Except DecodeError Unit := do
  validateIat p
  validateNbf now p
  validateExp now p
  validateAud p
  validateSub p
  validateJti p
  validateAtHash p

/-! ## What the checks accept -/

theorem except_bind_eq_ok {ε α : Type} {a : Except ε Unit} {f : Unit → Except ε α} {x : α} :
    (a >>= f) = .ok x ↔ a = .ok () ∧ f () = .ok x := by
  rcases a with e | ⟨⟩
  · exact iff_of_false (fun h => nomatch h) fun h => nomatch h.1
  · exact (and_iff_right rfl).symm

theorem intClaim_eq_ok {v : ClaimValue} {n : Int} : intClaim v = .ok n ↔ v.toInt = .ok n := by
  unfold intClaim
  split <;> simp_all

/-- A check that passes on an absent claim passes exactly when it passes on the claim's
value, if there is one. -/
theorem whenPresent_eq_ok {name : String} {check : ClaimValue → Except DecodeError Unit}
    {P : ClaimValue → Prop} (h : ∀ v, check v = .ok () ↔ P v) (p : Payload) :
    whenPresent name check p = .ok () ↔ ∀ v, p.lookup name = some v → P v := by
  unfold whenPresent
  cases p.lookup name with
  | none => exact iff_of_true rfl fun _ hv => nomatch hv
  | some v => simp only [h, Option.some.injEq, forall_eq']

/-- `int()` of the value, then a test on what it read, pass exactly when `int()` reads a value
the test lets through. -/
theorem intClaim_bind_eq_ok {v : ClaimValue} {t : Int → Prop} {_ : DecidablePred t} :
    ((intClaim v).bind fun n => if t n then .error .jwtError else .ok ()) = .ok () ↔
      ∃ n, v.toInt = .ok n ∧ ¬ t n := by
  simp only [← intClaim_eq_ok]
  cases intClaim v with
  | error e => simp [Except.bind]
  | ok n => by_cases ht : t n <;> simp [Except.bind, ht]

theorem validateIat_eq_ok (p : Payload) :
    validateIat p = .ok () ↔ ∀ v, p.lookup "iat" = some v → ∃ n, v.toInt = .ok n :=
  whenPresent_eq_ok (fun v => by
    simp only [← intClaim_eq_ok]
    cases intClaim v <;> simp [Except.map]) p

theorem validateNbf_eq_ok (now : Int) (p : Payload) :
    validateNbf now p = .ok () ↔ ∀ v, p.lookup "nbf" = some v → ∃ n, v.toInt = .ok n ∧ n ≤ now :=
  whenPresent_eq_ok (fun _ => by simp only [intClaim_bind_eq_ok, gt_iff_lt, Int.not_lt]) p

theorem validateExp_eq_ok (now : Int) (p : Payload) :
    validateExp now p = .ok () ↔ ∀ v, p.lookup "exp" = some v → ∃ n, v.toInt = .ok n ∧ now ≤ n :=
  whenPresent_eq_ok (fun _ => by simp only [intClaim_bind_eq_ok, Int.not_lt]) p

theorem validateStrClaim_eq_ok (name : String) (p : Payload) :
    validateStrClaim name p = .ok () ↔ ∀ v, p.lookup name = some v → ∃ s, v = .str s :=
  whenPresent_eq_ok (fun v => by cases v <;> simp) p

/-- A claim every value of which is refused must be absent. -/
theorem whenPresent_refuse_eq_ok (name : String) (p : Payload) :
    whenPresent name (fun _ => .error .jwtError) p = .ok () ↔ p.lookup name = none := by
  unfold whenPresent
  cases p.lookup name <;> simp

/-- **What `jwt.decode` accepts.** The claims pass exactly when each time claim present is
read by `int()`, `nbf` is not after the clock and `exp` not before it, `sub` and `jti` are
strings when present, and the payload carries no `aud` and no `at_hash`. -/
theorem validateClaims_eq_ok (now : Int) (p : Payload) :
    validateClaims now p = .ok () ↔
      (∀ v, p.lookup "iat" = some v → ∃ n, v.toInt = .ok n) ∧
      (∀ v, p.lookup "nbf" = some v → ∃ n, v.toInt = .ok n ∧ n ≤ now) ∧
      (∀ v, p.lookup "exp" = some v → ∃ n, v.toInt = .ok n ∧ now ≤ n) ∧
      p.lookup "aud" = none ∧
      (∀ v, p.lookup "sub" = some v → ∃ s, v = .str s) ∧
      (∀ v, p.lookup "jti" = some v → ∃ s, v = .str s) ∧
      p.lookup "at_hash" = none := by
  simp only [validateClaims, except_bind_eq_ok, validateIat_eq_ok, validateNbf_eq_ok,
    validateExp_eq_ok, validateAud, validateSub, validateJti, validateStrClaim_eq_ok,
    validateAtHash, whenPresent_refuse_eq_ok]

/-! ## What leaves the checks -/

/-- An outcome whose only exceptions other than a `JWTError` are `int()`'s `TypeError` and
`OverflowError`. -/
def Tame {α : Type} (x : Except DecodeError α) : Prop :=
  ∀ name, x = .error (.escaped name) → name = "TypeError" ∨ name = "OverflowError"

theorem tame_ok {α : Type} (a : α) : Tame (.ok a : Except DecodeError α) := fun _ h => nomatch h

theorem tame_jwtError {α : Type} : Tame (.error .jwtError : Except DecodeError α) :=
  fun _ h => nomatch h

theorem tame_intClaim (v : ClaimValue) : Tame (intClaim v) := by
  intro name h
  unfold intClaim at h
  split at h <;> cases h
  · exact .inl rfl
  · exact .inr rfl

theorem Tame.bind {α β : Type} {x : Except DecodeError α} {f : α → Except DecodeError β}
    (hx : Tame x) (hf : ∀ a, Tame (f a)) : Tame (x.bind f) := by
  rcases x with e | a
  · intro name h
    simp only [Except.bind, Except.error.injEq] at h
    exact hx name (congrArg Except.error h)
  · exact hf a

theorem tame_whenPresent {name : String} {check : ClaimValue → Except DecodeError Unit}
    (h : ∀ v, Tame (check v)) (p : Payload) : Tame (whenPresent name check p) := by
  unfold whenPresent
  cases p.lookup name with
  | none => exact tame_ok ()
  | some v => exact h v

theorem tame_intClaim_test (v : ClaimValue) (t : Int → Prop) [DecidablePred t] :
    Tame ((intClaim v).bind fun n => if t n then .error .jwtError else .ok ()) :=
  (tame_intClaim v).bind fun n => by split; exact tame_jwtError; exact tame_ok ()

/-- **What escapes `jwt.decode`.** Other than a `JWTError`, which `get_current_user` turns
into its 401, the claim checks raise only the `TypeError` and the `OverflowError` of
`int()`. -/
theorem validateClaims_escaped (now : Int) (p : Payload) : Tame (validateClaims now p) := by
  have hstr : ∀ name, Tame (validateStrClaim name p) := fun name =>
    tame_whenPresent (fun v => by cases v <;> first | exact tame_ok () | exact tame_jwtError) p
  refine Tame.bind (tame_whenPresent (fun v => (tame_intClaim v).bind fun _ => tame_ok ()) p)
    fun _ => Tame.bind (tame_whenPresent (fun v => tame_intClaim_test v _) p)
    fun _ => Tame.bind (tame_whenPresent (fun v => tame_intClaim_test v _) p)
    fun _ => Tame.bind (tame_whenPresent (fun _ => tame_jwtError) p)
    fun _ => Tame.bind (hstr "sub")
    fun _ => Tame.bind (hstr "jti")
    fun _ => tame_whenPresent (fun _ => tame_jwtError) p

/-! ## `int()` reads decimal strings -/

/-- The ASCII digit of `d`, as the transform writes it. -/
theorem digit_char {d : Nat} (h : d < 10) :
    (Char.ofNat (48 + d)).toNat = 48 + d ∧ (Char.ofNat (48 + d)).isDigit = true ∧
      Char.ofNat (48 + d) ≠ '_' ∧ pyIsSpace (Char.ofNat (48 + d)) = false := by
  revert d
  decide

theorem scanBase10_digits {prev : Option Char} (hprev : prev ≠ some '_') (ds : List Nat)
    (hd : ∀ d ∈ ds, d < 10) :
    scanBase10 prev (ds.map fun d => Char.ofNat (48 + d)) = some (ds, []) := by
  induction ds generalizing prev with
  | nil => simp [scanBase10, hprev]
  | cons d ds ih =>
    obtain ⟨hc, hdig, hu, -⟩ := digit_char (hd d (List.mem_cons_self d ds))
    have hnu : some (Char.ofNat (48 + d)) ≠ some '_' := fun h => hu (Option.some.inj h)
    simp only [List.map_cons, scanBase10, hdig, if_true,
      ih hnu fun d' h => hd d' (List.mem_cons_of_mem d h), Option.map_some', hc]
    congr
    omega

/-- **`int()` reads what `str()` of a natural number writes.** A non-empty string of ASCII
digits, no longer than the digit limit, is read as the number the digits spell. -/
theorem pyIntOfStr_digits (ds : List Nat) (hd : ∀ d ∈ ds, d < 10) (hne : ds ≠ [])
    (hlen : ds.length ≤ maxStrDigits) :
    pyIntOfStr ⟨ds.map fun d => Char.ofNat (48 + d)⟩ = .ok (digitsValue ds) := by
  obtain ⟨d, ds', rfl⟩ := List.exists_cons_of_ne_nil hne
  obtain ⟨hc, -, hu, hsp⟩ := digit_char (hd d (List.mem_cons_self d ds'))
  have hascii : transformDecimalAndSpaceToAscii ((d :: ds').map fun d => Char.ofNat (48 + d)) =
      (d :: ds').map fun d => Char.ofNat (48 + d) := by
    refine if_pos (List.all_eq_true.mpr fun c hc' => ?_)
    obtain ⟨e, he, rfl⟩ := List.mem_map.mp hc'
    simp only [(digit_char (hd e he)).1, decide_eq_true_eq]
    have := hd e he
    omega
  have hsign : readSign ((d :: ds').map fun d => Char.ofNat (48 + d)) =
      (false, (d :: ds').map fun d => Char.ofNat (48 + d)) := by
    have hplus : (43 : Nat) ≠ 48 + d := by omega
    have hminus : (45 : Nat) ≠ 48 + d := by omega
    unfold readSign
    split
    · next h => exact absurd ((congrArg Char.toNat (List.cons.inj h).1).symm.trans hc) hplus
    · next h => exact absurd ((congrArg Char.toNat (List.cons.inj h).1).symm.trans hc) hminus
    · rfl
  have hscan := scanBase10_digits (show (none : Option Char) ≠ some '_' by simp) (d :: ds') hd
  unfold pyIntOfStr
  rw [hascii]
  unfold longFromStringBase10
  simp only [List.map_cons, List.dropWhile, hsp] at hsign hscan ⊢
  simp only [hsign, List.head?_cons, Option.some.injEq, hu, if_false, hscan]
  simpa using hlen

/-- Unicode digits and spaces are read as their ASCII forms, and underscores only singly. -/
example : pyIntOfStr " ١_٢ " = .ok 12 ∧ pyIntOfStr "1__2" = .error .valueError ∧
    pyIntOfStr "-0_7" = .ok (-7) := ⟨rfl, rfl, rfl⟩

end SprintGateway
