import SprintGateway.Basic

/- `urllib.parse` as the gateway calls it: `urljoin(settings.backend_url, path)` in
   `proxy_request` and in `check_backend_health`, with `urlsplit`, `urlparse`,
   `urlunsplit` and `urlunparse` under it, as CPython 3.12.0 writes them. Strings are
   `List Char`; a Python slice or `find` is a `span` on the list.

   What is proved:
     1. `urlsplit_wellFormed` — what `urlsplit` accepts is well formed: its scheme is
        empty or a letter followed by scheme characters, in lower case, and its netloc
        holds no `/`, `?`, `#`, tab or line break and passes the netloc checks.
     2. `urlunsplit_authority` and `urlsplit_authority` — a non-empty well-formed netloc
        written by `urlunsplit` is the netloc `urlsplit` reads back, with the scheme.
     3. `urljoin_keeps_origin` — when the reference carries no authority and no scheme
        other than the base's, `urljoin` keeps the base's scheme and netloc.
     4. `urljoin_root_segment` — joining `/seg` to a base keeps the base's scheme and
        netloc and drops its whole path; `urlunparse_root_segment` writes the result.
     5. `urlparse_swap_scheme` — another scheme in front of the same rest of a url keeps
        the netloc `urlparse` reads.
     6. `urljoin_to_other_host` — a path of the form `//host/...`, which the catch-all
        route accepts, makes `urljoin` leave the configured backend.

   ── PROVED vs ASSUMED ──────────────────────────────────────────────────────────
   Two checks of `urlsplit` are not computed here: `_check_bracketed_netloc` (a netloc
   holding `[` and `]` must be an IP literal, by `ipaddress.ip_address`) and the NFKC test
   `_checknetloc` runs on a non-ASCII netloc. They are the fields of `NetlocChecks`, a
   parameter of every function below; each only accepts a netloc or raises `ValueError`,
   and every theorem holds for every such pair of checks.

   Correspondence (Python ↔ Lean):
     `urlsplit` / `urlparse`            ↔ `urlsplit` / `urlparse`
     `_splitnetloc(url, 2)`             ↔ `splitNetloc`
     `_splitparams`                     ↔ `splitParams`
     `urlunsplit` / `urlunparse`        ↔ `urlunsplit` / `urlunparse`
     `urljoin` (its `for seg` loop)     ↔ `urljoin` (`resolveSegments`)
     a raised `ValueError(msg)`         ↔ `.error msg`
-/
namespace SprintGateway

/-! ## Character classes and splits -/

/-- `scheme_chars`. -/
def schemeChars : List Char :=
  "abcdefghijklmnopqrstuvwxyzABCDEFGHIJKLMNOPQRSTUVWXYZ0123456789+-.".toList

/-- `uses_relative`: the schemes `urljoin` resolves a reference against. -/
def usesRelative : List (List Char) :=
  ["", "ftp", "http", "gopher", "nntp", "imap", "wais", "file", "https", "shttp", "mms",
    "prospero", "rtsp", "rtsps", "rtspu", "sftp", "svn", "svn+ssh", "ws", "wss"].map String.toList

/-- `uses_netloc`. -/
def usesNetloc : List (List Char) :=
  ["", "ftp", "http", "gopher", "nntp", "telnet", "imap", "wais", "file", "mms", "https",
    "shttp", "snews", "prospero", "rtsp", "rtsps", "rtspu", "rsync", "svn", "svn+ssh", "sftp",
    "nfs", "git", "git+ssh", "ws", "wss", "itms-services"].map String.toList

/-- `uses_params`. -/
def usesParams : List (List Char) :=
  ["", "ftp", "hdl", "prospero", "http", "imap", "https", "shttp", "rtsp", "rtsps", "rtspu",
    "sip", "sips", "mms", "sftp", "tel"].map String.toList

/-- A character of `_WHATWG_C0_CONTROL_OR_SPACE`. -/
def isC0OrSpace (c : Char) : Bool := c.toNat ≤ 32

/-- A character of `_UNSAFE_URL_BYTES_TO_REMOVE`. -/
def isUnsafe (c : Char) : Bool := c = '\t' || c = '\r' || c = '\n'

/-- A character that ends a netloc: `_splitnetloc` stops at the first of `/?#`. -/
def isNetlocDelim (c : Char) : Bool := c = '/' || c = '?' || c = '#'

/-- `url.lstrip(_WHATWG_C0_CONTROL_OR_SPACE)`, then each unsafe byte removed. -/
def cleanUrl (url : List Char) : List Char :=
  (url.dropWhile isC0OrSpace).filter (fun c => !isUnsafe c)

/-- `scheme.strip(_WHATWG_C0_CONTROL_OR_SPACE)`, then each unsafe byte removed. -/
def cleanScheme (scheme : List Char) : List Char :=
  (((scheme.dropWhile isC0OrSpace).reverse.dropWhile isC0OrSpace).reverse).filter
    (fun c => !isUnsafe c)

/-- `s.split(c, 1)` when `c` occurs in `s`. -/
def splitOnce (c : Char) (s : List Char) : Option (List Char × List Char) :=
  match s.span (· != c) with
  | (pre, _ :: rest) => some (pre, rest)
  | (_, []) => none

/-- The scheme `urlsplit` reads off the front of a url, with the rest after its `:`: the
text before the first `:`, when it starts with an ASCII letter and is made of
`scheme_chars`, in lower case. -/
def splitScheme (url : List Char) : Option (List Char × List Char) :=
  match url.span (· != ':') with
  | (c :: pre, _ :: rest) =>
    if c.isAlpha && (c :: pre).all (fun x => decide (x ∈ schemeChars)) then
      some ((c :: pre).map Char.toLower, rest)
    else none
  | _ => none

/-- `_splitnetloc(url, 2)`: the netloc after `//`, up to the first of `/?#`, and the rest. -/
def splitNetloc (url : List Char) : List Char × List Char :=
  (url.drop 2).span (fun c => !isNetlocDelim c)

/-! ## `urlsplit`, `urlparse` -/

/-- The checks `urlsplit` runs on a netloc that this model does not compute:
`_check_bracketed_netloc` (run when the netloc holds both `[` and `]`) and the NFKC test of
`_checknetloc` (run when it is not ASCII). Each accepts, or raises `ValueError(msg)`. -/
structure NetlocChecks where
  bracketed : List Char → Except String Unit
  nfkc : List Char → Except String Unit

/-- Checks that raise on nothing. On a netloc with no bracket and only ASCII characters
neither check of CPython runs, so there these are CPython's. -/
def acceptAll : NetlocChecks := ⟨fun _ => .ok (), fun _ => .ok ()⟩

/-- `SplitResult(scheme, netloc, path, query, fragment)`. -/
structure SplitResult where
  scheme : List Char
  netloc : List Char
  path : List Char
  query : List Char
  fragment : List Char
  deriving DecidableEq, Repr

/-- The netloc checks of `urlsplit`, in its order. -/
def checkNetloc (chk : NetlocChecks) (netloc : List Char) : Except String Unit :=
  if ('[' ∈ netloc ∧ ']' ∉ netloc) ∨ (']' ∈ netloc ∧ '[' ∉ netloc) then
    .error "Invalid IPv6 URL"
  else if '[' ∈ netloc ∧ ']' ∈ netloc then chk.bracketed netloc
  else .ok ()

/-- `_checknetloc`: only a non-ASCII netloc is examined. -/
def checkNetlocNfkc (chk : NetlocChecks) (netloc : List Char) : Except String Unit :=
  if netloc.all (fun c => c.toNat < 128) then .ok () else chk.nfkc netloc

/-- The scheme of a cleaned url and the rest of it; `scheme` when the url names none. -/
def takeScheme (url scheme : List Char) : List Char × List Char :=
  (splitScheme url).getD (cleanScheme scheme, url)

/-- The netloc, when the rest starts with `//`, and what follows it. -/
def takeNetloc (url : List Char) : List Char × List Char :=
  if url.take 2 = ['/', '/'] then splitNetloc url else ([], url)

/-- The path, query and fragment: `url.split('#', 1)`, then `url.split('?', 1)`. -/
def splitQueryFragment (url : List Char) : List Char × List Char × List Char :=
  let (url, fragment) := (splitOnce '#' url).getD (url, [])
  let (url, query) := (splitOnce '?' url).getD (url, [])
  (url, query, fragment)

/-- The five parts `urlsplit` cuts a url into, before it checks the netloc. -/
def splitParts (url scheme : List Char) : SplitResult :=
  let (scheme, rest) := takeScheme (cleanUrl url) scheme
  let (netloc, rest) := takeNetloc rest
  let (path, query, fragment) := splitQueryFragment rest
  ⟨scheme, netloc, path, query, fragment⟩

/-- `urlsplit(url, scheme)`, `allow_fragments=True`. -/
def urlsplit (chk : NetlocChecks) (url scheme : List Char) : Except String SplitResult := do
  let s := splitParts url scheme
  checkNetloc chk s.netloc
  checkNetlocNfkc chk s.netloc
  return s

theorem urlsplit_eq_ok {chk : NetlocChecks} {url d : List Char} {s : SplitResult} :
    urlsplit chk url d = .ok s ↔ checkNetloc chk (splitParts url d).netloc = .ok () ∧
      checkNetlocNfkc chk (splitParts url d).netloc = .ok () ∧ splitParts url d = s := by
  unfold urlsplit
  cases h1 : checkNetloc chk (splitParts url d).netloc <;>
    cases h2 : checkNetlocNfkc chk (splitParts url d).netloc <;>
    simp [h1, h2, bind, Except.bind, pure, Except.pure]

/-- `ParseResult(scheme, netloc, path, params, query, fragment)`. -/
structure ParseResult where
  scheme : List Char
  netloc : List Char
  path : List Char
  params : List Char
  query : List Char
  fragment : List Char
  deriving DecidableEq, Repr

/-- `_splitparams(url)`: the params after the first `;` of the last path segment. -/
def splitParams (url : List Char) : List Char × List Char :=
  if '/' ∈ url then
    let last := (url.reverse.takeWhile (· != '/')).reverse
    match splitOnce ';' last with
    | some (a, b) => (url.take (url.length - last.length) ++ a, b)
    | none => (url, [])
  else
    match splitOnce ';' url with
    | some (a, b) => (a, b)
    | none => (url.dropLast, url)

/-- `urlparse(url, scheme)`, `allow_fragments=True`. -/
def urlparse (chk : NetlocChecks) (url scheme : List Char) : Except String ParseResult := do
  let s ← urlsplit chk url scheme
  let (path, params) :=
    if s.scheme ∈ usesParams ∧ ';' ∈ s.path then splitParams s.path else (s.path, [])
  return ⟨s.scheme, s.netloc, path, params, s.query, s.fragment⟩

/-! ## `urlunsplit`, `urlunparse`, `urljoin` -/

/-- `urlunsplit((scheme, netloc, url, query, fragment))`. -/
def urlunsplit (scheme netloc url query fragment : List Char) : List Char :=
  let url :=
    if netloc ≠ [] ∨ (scheme ≠ [] ∧ scheme ∈ usesNetloc ∧ url.take 2 ≠ ['/', '/']) then
      ['/', '/'] ++ netloc ++ (if url ≠ [] ∧ url.take 1 ≠ ['/'] then '/' :: url else url)
    else url
  let url := if scheme ≠ [] then scheme ++ ':' :: url else url
  let url := if query ≠ [] then url ++ '?' :: query else url
  if fragment ≠ [] then url ++ '#' :: fragment else url

/-- `urlunparse((scheme, netloc, path, params, query, fragment))`. -/
def urlunparse (p : ParseResult) : List Char :=
  urlunsplit p.scheme p.netloc (if p.params ≠ [] then p.path ++ ';' :: p.params else p.path)
    p.query p.fragment

/-- The `for seg in segments` loop of `urljoin`, with `resolved_path` kept last-first:
`..` pops (nothing, on an empty path), `.` is skipped, any other segment is pushed. -/
def resolveSegments : List (List Char) → List (List Char) → List (List Char)
  | acc, [] => acc
  | acc, seg :: rest =>
    if seg = ['.', '.'] then resolveSegments acc.tail rest
    else if seg = ['.'] then resolveSegments acc rest
    else resolveSegments (seg :: acc) rest

/-- `segments[1:-1] = filter(None, segments[1:-1])`: empty inner segments go. -/
def filterInner : List (List Char) → List (List Char)
  | s :: t :: rest =>
    s :: ((t :: rest).dropLast.filter (· ≠ []) ++ [(t :: rest).getLast (List.cons_ne_nil _ _)])
  | segs => segs

/-- `urljoin(base, url)`, `allow_fragments=True`. -/
def urljoin (chk : NetlocChecks) (base url : List Char) : Except String (List Char) :=
  if base = [] then .ok url else if url = [] then .ok base else do
  let b ← urlparse chk base []
  let u ← urlparse chk url b.scheme
  if u.scheme ≠ b.scheme ∨ u.scheme ∉ usesRelative then return url
  if u.scheme ∈ usesNetloc ∧ u.netloc ≠ [] then return urlunparse u
  let netloc := if u.scheme ∈ usesNetloc then b.netloc else u.netloc
  if u.path = [] ∧ u.params = [] then
    return urlunparse { u with netloc, path := b.path, params := b.params,
                               query := if u.query = [] then b.query else u.query }
  let baseParts := b.path.splitOn '/'
  let baseParts := if baseParts.getLast? ≠ some [] then baseParts.dropLast else baseParts
  let segments :=
    if u.path.take 1 = ['/'] then u.path.splitOn '/'
    else filterInner (baseParts ++ u.path.splitOn '/')
  let resolved := (resolveSegments [] segments).reverse
  let resolved :=
    if segments.getLast? = some ['.'] ∨ segments.getLast? = some ['.', '.'] then resolved ++ [[]]
    else resolved
  let path := ['/'].intercalate resolved
  return urlunparse { u with netloc, path := if path = [] then ['/'] else path }

/-! ## What `urlsplit` accepts -/

/-- A scheme `urlsplit` reads off a url: an ASCII letter, then scheme characters, all in
lower case. -/
def SchemeOk (s : List Char) : Prop :=
  ∃ c rest, s = c :: rest ∧ c.isAlpha ∧ ∀ x ∈ s, x ∈ schemeChars ∧ x.toLower = x

/-- A netloc `urlsplit` returns: no delimiter, no unsafe byte, and both checks passed. -/
def NetlocOk (chk : NetlocChecks) (n : List Char) : Prop :=
  (∀ c ∈ n, isNetlocDelim c = false ∧ isUnsafe c = false) ∧
    checkNetloc chk n = .ok () ∧ checkNetlocNfkc chk n = .ok ()

theorem schemeChars_split : schemeChars = "abcdefghijklmnopqrstuvwxyz".toList ++
    "ABCDEFGHIJKLMNOPQRSTUVWXYZ".toList ++ "0123456789+-.".toList := rfl

/-- Lower-casing keeps a scheme character one: checked on the upper-case letters only, the
rest being fixed by `Char.toLower`. -/
theorem schemeChars_toLower : ∀ x ∈ schemeChars, x.toLower ∈ schemeChars := by
  have hl : ∀ x ∈ "abcdefghijklmnopqrstuvwxyz".toList, x.toLower = x := by decide
  have hu : ∀ x ∈ "ABCDEFGHIJKLMNOPQRSTUVWXYZ".toList,
      x.toLower ∈ "abcdefghijklmnopqrstuvwxyz".toList := by decide
  have ho : ∀ x ∈ "0123456789+-.".toList, x.toLower = x := by decide
  intro x hx
  rw [schemeChars_split] at hx ⊢
  simp only [List.mem_append] at hx ⊢
  rcases hx with (hx | hx) | hx
  · exact .inl (.inl (by rw [hl x hx]; exact hx))
  · exact .inl (.inl (hu x hx))
  · exact .inr (by rw [ho x hx]; exact hx)

theorem schemeChars_isAlpha_toLower :
    ∀ x ∈ schemeChars, x.isAlpha → x.toLower.isAlpha := by decide

theorem schemeChars_safe :
    ∀ x ∈ schemeChars, x ≠ ':' ∧ isUnsafe x = false ∧ isC0OrSpace x = false := by decide

theorem splitScheme_some {url sch rest : List Char} (h : splitScheme url = some (sch, rest)) :
    SchemeOk sch ∧ ∀ c ∈ rest, c ∈ url := by
  unfold splitScheme at h
  split at h
  · rename_i c pre colon r heq
    split at h
    · rename_i hc
      simp only [Option.some.injEq, Prod.mk.injEq] at h
      obtain ⟨rfl, rfl⟩ := h
      simp only [Bool.and_eq_true, List.all_eq_true, decide_eq_true_eq] at hc
      refine ⟨⟨c.toLower, pre.map Char.toLower, rfl, schemeChars_isAlpha_toLower c (hc.2 c (by simp)) hc.1, ?_⟩, ?_⟩
      · intro x hx
        obtain ⟨y, hy, rfl⟩ := List.mem_map.mp hx
        exact ⟨schemeChars_toLower y (hc.2 y hy), char_toLower_toLower y⟩
      · intro x hx
        have := List.span_eq_take_drop (· != ':') url
        rw [heq] at this
        have hd : List.dropWhile (· != ':') url = _ :: r := (Prod.mk.inj this).2.symm
        exact (List.dropWhile_suffix _).subset (by rw [hd]; exact List.mem_cons_of_mem _ hx)
    · cases h
  · cases h

@[simp] theorem splitParts_scheme (url d : List Char) :
    (splitParts url d).scheme = (takeScheme (cleanUrl url) d).1 := by unfold splitParts; rfl

@[simp] theorem splitParts_netloc (url d : List Char) :
    (splitParts url d).netloc = (takeNetloc (takeScheme (cleanUrl url) d).2).1 := by
  unfold splitParts; rfl

theorem mem_cleanUrl {url : List Char} {c : Char} (h : c ∈ cleanUrl url) :
    isUnsafe c = false ∧ c ∈ url := by
  simp only [cleanUrl, List.mem_filter, Bool.not_eq_true'] at h
  exact ⟨h.2, (List.dropWhile_suffix _).subset h.1⟩

theorem takeScheme_cases (url d : List Char) :
    ((takeScheme url d).1 = cleanScheme d ∧ (takeScheme url d).2 = url) ∨
      (SchemeOk (takeScheme url d).1 ∧ ∀ c ∈ (takeScheme url d).2, c ∈ url) := by
  unfold takeScheme
  cases h : splitScheme url with
  | none => exact .inl ⟨rfl, rfl⟩
  | some p => exact .inr (splitScheme_some h)

theorem takeNetloc_fst {url : List Char} {c : Char} (h : c ∈ (takeNetloc url).1) :
    isNetlocDelim c = false ∧ c ∈ url := by
  unfold takeNetloc splitNetloc at h
  split at h
  · rw [List.span_eq_take_drop] at h
    exact ⟨by simpa using List.mem_takeWhile_imp h,
      (List.drop_subset _ _) ((List.takeWhile_prefix _).subset h)⟩
  · cases h

/-- What `urlsplit` accepts is well formed: the default scheme or one read off the url,
and a netloc with no delimiter and no unsafe byte that passed both checks. -/
theorem urlsplit_wellFormed {chk : NetlocChecks} {url d : List Char} {s : SplitResult}
    (h : urlsplit chk url d = .ok s) :
    (s.scheme = cleanScheme d ∨ SchemeOk s.scheme) ∧ NetlocOk chk s.netloc := by
  obtain ⟨h1, h2, rfl⟩ := urlsplit_eq_ok.mp h
  refine ⟨?_, fun c hc => ?_, h1, h2⟩
  · rw [splitParts_scheme]
    exact (takeScheme_cases (cleanUrl url) d).imp (·.1) (·.1)
  · rw [splitParts_netloc] at hc
    obtain ⟨hd, hm⟩ := takeNetloc_fst hc
    refine ⟨hd, ?_⟩
    rcases takeScheme_cases (cleanUrl url) d with ⟨-, e⟩ | ⟨-, e⟩
    · exact (mem_cleanUrl (e ▸ hm)).1
    · exact (mem_cleanUrl (e c hm)).1

/-! ## The netloc read back -/

/-- What `urlunsplit` writes before `//`: the scheme and its colon. -/
def schemePrefix (scheme : List Char) : List Char := if scheme = [] then [] else scheme ++ [':']

/-- Empty, or starting with one of `/?#`: what may follow a netloc. -/
def DelimHead (t : List Char) : Prop := ∀ c ∈ t.head?, isNetlocDelim c = true

theorem span_append_stop {p : Char → Bool} {a b : List Char} (ha : ∀ x ∈ a, p x = true)
    (hb : ∀ c ∈ b.head?, p c = false) : List.span p (a ++ b) = (a, b) := by
  rw [List.span_eq_take_drop, List.takeWhile_append_of_pos ha, List.dropWhile_append_of_pos ha]
  cases b with
  | nil => simp
  | cons c b =>
    have hc : ¬p c = true := by simp [hb c rfl]
    rw [List.takeWhile_cons_of_neg hc, List.dropWhile_cons_of_neg hc, List.append_nil]

theorem splitScheme_slash (l : List Char) : splitScheme ('/' :: l) = none := by
  unfold splitScheme
  rw [List.span_eq_take_drop, List.takeWhile_cons_of_pos (by decide),
    List.dropWhile_cons_of_pos (by decide)]
  split
  · next h => cases (Prod.mk.inj h).1; rfl
  · rfl

theorem splitScheme_schemeOk {sch rest : List Char} (hs : SchemeOk sch) :
    splitScheme (sch ++ ':' :: rest) = some (sch, rest) := by
  obtain ⟨c, pre, rfl, hc, hall⟩ := hs
  have hne : ∀ x ∈ c :: pre, (x != ':') = true := fun x hx => by
    simpa using (schemeChars_safe x (hall x hx).1).1
  unfold splitScheme
  rw [span_append_stop hne (by simp)]
  simp only [hc, Bool.true_and]
  rw [if_pos (List.all_eq_true.mpr fun x hx => decide_eq_true (hall x hx).1)]
  congr
  exact List.map_congr_left (fun x hx => (hall x hx).2) |>.trans (List.map_id _)

theorem schemePrefix_safe {sch : List Char} (hs : sch = [] ∨ SchemeOk sch) :
    ∀ c ∈ schemePrefix sch, isUnsafe c = false := by
  rcases hs with rfl | ⟨c, pre, rfl, -, hall⟩
  · simp [schemePrefix]
  · intro x hx
    simp only [schemePrefix, List.cons_ne_nil, if_false, List.mem_append, List.mem_singleton] at hx
    rcases hx with hx | rfl
    · exact (schemeChars_safe x (hall x hx).1).2.1
    · rfl

theorem cleanUrl_authority {sch n T : List Char} (hs : sch = [] ∨ SchemeOk sch)
    (hn : ∀ c ∈ n, isUnsafe c = false) :
    cleanUrl (schemePrefix sch ++ '/' :: '/' :: (n ++ T)) =
      schemePrefix sch ++ '/' :: '/' :: (n ++ T.filter (fun c => !isUnsafe c)) := by
  have hd : (schemePrefix sch ++ '/' :: '/' :: (n ++ T)).dropWhile isC0OrSpace =
      schemePrefix sch ++ '/' :: '/' :: (n ++ T) := by
    rcases hs with rfl | ⟨c, pre, rfl, -, hall⟩
    · exact List.dropWhile_cons_of_neg (by decide)
    · exact List.dropWhile_cons_of_neg
        (by simpa using (schemeChars_safe c (hall c (by simp)).1).2.2)
  have hsafe : ∀ l : List Char, (∀ c ∈ l, isUnsafe c = false) →
      l.filter (fun c => !isUnsafe c) = l :=
    fun l hl => List.filter_eq_self.mpr fun c hc => by simp [hl c hc]
  rw [cleanUrl, hd, List.filter_append, hsafe _ (schemePrefix_safe hs)]
  simp only [List.filter_cons, List.filter_append, hsafe n hn]
  rfl

theorem isUnsafe_of_delim {c : Char} (h : isNetlocDelim c = true) : isUnsafe c = false := by
  simp only [isNetlocDelim, Bool.or_eq_true, decide_eq_true_eq] at h
  rcases h with (rfl | rfl) | rfl <;> rfl

theorem delimHead_filter {T : List Char} (hT : DelimHead T) :
    DelimHead (T.filter (fun c => !isUnsafe c)) := by
  cases T with
  | nil => simp [DelimHead]
  | cons c r =>
    have hc : isNetlocDelim c = true := hT c rfl
    have hu : isUnsafe c = false := isUnsafe_of_delim hc
    simpa [DelimHead, List.filter_cons, hu] using hc

theorem takeNetloc_authority {n T : List Char} (hn : ∀ c ∈ n, isNetlocDelim c = false)
    (hT : DelimHead T) : takeNetloc ('/' :: '/' :: (n ++ T)) = (n, T) := by
  have h2 : List.take 2 ('/' :: '/' :: (n ++ T)) = ['/', '/'] := rfl
  unfold takeNetloc splitNetloc
  rw [if_pos h2, List.drop_succ_cons, List.drop_succ_cons, List.drop_zero]
  exact span_append_stop (fun x hx => by simp [hn x hx]) (fun c hc => by simp [hT c hc])

theorem takeScheme_authority {sch rest : List Char} (hs : sch = [] ∨ SchemeOk sch) :
    takeScheme (schemePrefix sch ++ '/' :: rest) [] = (sch, '/' :: rest) := by
  rcases hs with rfl | hs
  · simp only [takeScheme, schemePrefix, if_true, List.nil_append, splitScheme_slash]; rfl
  · have hne : sch ≠ [] := by obtain ⟨c, pre, rfl, -⟩ := hs; exact List.cons_ne_nil _ _
    rw [takeScheme, schemePrefix, if_neg hne, List.append_assoc, List.singleton_append,
      splitScheme_schemeOk hs]
    rfl

/-- **Round trip.** A well-formed netloc written after `//` (and a well-formed scheme before
it) is the netloc and scheme `urlsplit` reads back, whatever follows from `/`, `?` or `#` on. -/
theorem urlsplit_authority {chk : NetlocChecks} {sch n T : List Char}
    (hs : sch = [] ∨ SchemeOk sch) (hn : NetlocOk chk n) (hT : DelimHead T) :
    ∃ s, urlsplit chk (schemePrefix sch ++ '/' :: '/' :: (n ++ T)) [] = .ok s ∧
      s.scheme = sch ∧ s.netloc = n := by
  have hparts : (splitParts (schemePrefix sch ++ '/' :: '/' :: (n ++ T)) []).scheme = sch ∧
      (splitParts (schemePrefix sch ++ '/' :: '/' :: (n ++ T)) []).netloc = n := by
    rw [splitParts_scheme, splitParts_netloc, cleanUrl_authority hs (fun c hc => (hn.1 c hc).2),
      takeScheme_authority hs,
      takeNetloc_authority (fun c hc => (hn.1 c hc).1) (delimHead_filter hT)]
    exact ⟨rfl, rfl⟩
  refine ⟨_, urlsplit_eq_ok.mpr ⟨?_, ?_, rfl⟩, hparts⟩
  · rw [hparts.2]; exact hn.2.1
  · rw [hparts.2]; exact hn.2.2

theorem delimHead_append {a b : List Char} (ha : DelimHead a) (hb : DelimHead b) :
    DelimHead (a ++ b) := by
  cases a with
  | nil => simpa using hb
  | cons c r => exact ha

theorem delimHead_cons {c : Char} {r : List Char} (hc : isNetlocDelim c = true) :
    DelimHead (c :: r) := fun x hx => by cases hx; exact hc

theorem delimHead_nil : DelimHead [] := fun x hx => by cases hx

/-- `urlunsplit` writes a non-empty netloc right after the scheme and `//`, and what it
writes after the netloc starts with `/`, `?` or `#`. -/
theorem urlunsplit_authority (sch : List Char) {n : List Char} (url q f : List Char)
    (hn : n ≠ []) : ∃ T, DelimHead T ∧
      urlunsplit sch n url q f = schemePrefix sch ++ '/' :: '/' :: (n ++ T) := by
  refine ⟨(if url ≠ [] ∧ url.take 1 ≠ ['/'] then '/' :: url else url) ++
    ((if q ≠ [] then '?' :: q else []) ++ (if f ≠ [] then '#' :: f else [])), ?_, ?_⟩
  · refine delimHead_append ?_ (delimHead_append ?_ ?_)
    · split_ifs with h
      · exact delimHead_cons rfl
      · cases url with
        | nil => exact delimHead_nil
        | cons c r =>
          have : c = '/' := by simpa using h
          exact delimHead_cons (by rw [this]; rfl)
    · split_ifs
      · exact delimHead_cons rfl
      · exact delimHead_nil
    · split_ifs
      · exact delimHead_cons rfl
      · exact delimHead_nil
  · -- each later part of `urlunsplit` only appends, or puts the scheme in front
    have hsch : ∀ x : List Char,
        (if sch ≠ [] then sch ++ ':' :: x else x) = schemePrefix sch ++ x :=
      fun x => by unfold schemePrefix; split_ifs <;> simp_all
    have happ : ∀ (c : Prop) [Decidable c] (x y : List Char),
        (if c then x ++ y else x) = x ++ (if c then y else []) :=
      fun c _ x y => by split_ifs <;> simp
    unfold urlunsplit
    dsimp only
    rw [if_pos (Or.inl hn), hsch, happ, happ]
    simp only [List.append_assoc, List.cons_append, List.nil_append]

/-! ## `urljoin` and the origin -/

theorem urlparse_ok {chk : NetlocChecks} {url d : List Char} {r : ParseResult}
    (h : urlparse chk url d = .ok r) :
    ∃ s, urlsplit chk url d = .ok s ∧ r.scheme = s.scheme ∧ r.netloc = s.netloc := by
  unfold urlparse at h
  cases hs : urlsplit chk url d with
  | error e => rw [hs] at h; cases h
  | ok s =>
    rw [hs] at h
    simp only [bind, Except.bind, pure, Except.pure, Except.ok.injEq] at h
    exact ⟨s, rfl, by rw [← h], by rw [← h]⟩

theorem usesRelative_usesNetloc : ∀ s ∈ usesRelative, s ∈ usesNetloc := by decide

theorem urljoin_relative {chk : NetlocChecks} {b p : List Char} {pb pp : ParseResult}
    (hbne : b ≠ []) (hpne : p ≠ []) (hb : urlparse chk b [] = .ok pb)
    (hrel : pb.scheme ∈ usesRelative) (hp : urlparse chk p pb.scheme = .ok pp)
    (hsch : pp.scheme = pb.scheme) (hpn : pp.netloc = []) :
    ∃ q : ParseResult, q.scheme = pb.scheme ∧ q.netloc = pb.netloc ∧
      urljoin chk b p = .ok (urlunparse q) := by
  have hnl := usesRelative_usesNetloc _ hrel
  rw [urljoin, if_neg hbne, if_neg hpne, hb]
  simp only [bind, Except.bind, hp, pure, Except.pure, hsch, hpn, hrel, hnl, ne_eq,
    not_true_eq_false, or_self, if_true, if_false, and_false, not_false_eq_true]
  -- a reference with no path takes the base's; any other is resolved against it
  by_cases h : pp.path = [] ∧ pp.params = []
  · rw [if_pos h]; exact ⟨{ pb with fragment := pp.fragment, query := _ }, rfl, rfl, rfl⟩
  · rw [if_neg h]; exact ⟨{ pp with scheme := pb.scheme, netloc := pb.netloc, path := _ }, rfl, rfl, rfl⟩

/-- **The origin is kept.** When the reference, parsed as `urljoin` parses it, names no
netloc and no scheme other than the base's, and the base names a netloc and a scheme
`urljoin` resolves against, the joined url has the base's scheme and netloc. -/
theorem urljoin_keeps_origin {chk : NetlocChecks} {b p : List Char} {pb pp : ParseResult}
    (hb : urlparse chk b [] = .ok pb) (hnet : pb.netloc ≠ []) (hrel : pb.scheme ∈ usesRelative)
    (hp : urlparse chk p pb.scheme = .ok pp) (hsch : pp.scheme = pb.scheme)
    (hpn : pp.netloc = []) :
    ∃ u s, urljoin chk b p = .ok u ∧ urlsplit chk u [] = .ok s ∧
      s.scheme = pb.scheme ∧ s.netloc = pb.netloc := by
  obtain ⟨sb, hsb, hs1, hn1⟩ := urlparse_ok hb
  obtain ⟨hws, hwn⟩ := urlsplit_wellFormed hsb
  have hbne : b ≠ [] := by
    rintro rfl
    obtain ⟨-, -, e⟩ := urlsplit_eq_ok.mp hsb
    exact hnet (by rw [hn1, ← e]; rfl)
  by_cases hpne : p = []
  · subst hpne
    exact ⟨b, sb, by simp [urljoin, hbne], hsb, hs1.symm, hn1.symm⟩
  obtain ⟨q, hq1, hq2, hj⟩ := urljoin_relative hbne hpne hb hrel hp hsch hpn
  obtain ⟨T, hT, hu⟩ := urlunsplit_authority q.scheme
    (if q.params ≠ [] then q.path ++ ';' :: q.params else q.path) q.query q.fragment
    (hq2 ▸ hnet)
  have hs : q.scheme = [] ∨ SchemeOk q.scheme := by
    rw [hq1, hs1]; exact hws.imp_left id
  obtain ⟨s, hs', e1, e2⟩ :=
    urlsplit_authority hs (show NetlocOk chk q.netloc by rw [hq2, hn1]; exact hwn) hT
  exact ⟨_, s, hj, by rw [urlunparse, hu]; exact hs', e1.trans hq1, e2.trans hq2⟩

theorem urljoin_keeps_origin_status :
    ∃ u s, urljoin acceptAll "http://localhost:8080".toList "status".toList = .ok u ∧
      urlsplit acceptAll u [] = .ok s ∧ s.scheme = "http".toList ∧
      s.netloc = "localhost:8080".toList :=
  @urljoin_keeps_origin acceptAll _ _ ⟨"http".toList, "localhost:8080".toList, [], [], [], []⟩
    ⟨"http".toList, [], "status".toList, [], [], []⟩ rfl (by decide) (by decide) rfl rfl rfl

/-! ## An absolute one-segment reference -/

theorem dropWhile_of_forall_false {p : Char → Bool} {l : List Char} (h : ∀ x ∈ l, p x = false) :
    l.dropWhile p = l := by
  cases l with
  | nil => rfl
  | cons x t => simp [List.dropWhile_cons, h x (List.mem_cons_self _ _)]

/-- A scheme `urlsplit` returns is its own cleaning. -/
theorem cleanScheme_schemeOk {s : List Char} (hs : s = [] ∨ SchemeOk s) : cleanScheme s = s := by
  rcases hs with rfl | ⟨c, rest, rfl, -, hall⟩
  · rfl
  · have h1 : ∀ x ∈ c :: rest, isC0OrSpace x = false :=
      fun x hx => (schemeChars_safe x (hall x hx).1).2.2
    have h2 : ∀ x ∈ c :: rest, isUnsafe x = false :=
      fun x hx => (schemeChars_safe x (hall x hx).1).2.1
    unfold cleanScheme
    rw [dropWhile_of_forall_false h1,
      dropWhile_of_forall_false fun x hx => h1 x (List.mem_reverse.mp hx), List.reverse_reverse,
      List.filter_eq_self.mpr fun x hx => by simp [h2 x hx]]

/-- A path segment nothing in `urlsplit`, `urlparse` or `urljoin` treats specially: not
empty, not `.` or `..`, and without `/`, `;`, `?`, `#` or a byte `urlsplit` removes. -/
def PlainSegment (seg : List Char) : Prop :=
  seg ≠ [] ∧ seg ≠ ['.'] ∧ seg ≠ ['.', '.'] ∧
    ∀ c ∈ seg, c ≠ '/' ∧ c ≠ ';' ∧ c ≠ '?' ∧ c ≠ '#' ∧ isUnsafe c = false

instance (seg : List Char) : Decidable (PlainSegment seg) := by
  unfold PlainSegment; infer_instance

theorem splitOnce_of_not_mem {c : Char} {l : List Char} (h : c ∉ l) : splitOnce c l = none := by
  unfold splitOnce
  have hp : ∀ x ∈ l, (x != c) = true := fun x hx => bne_iff_ne.mpr fun e => h (e ▸ hx)
  rw [List.span_eq_take_drop, List.takeWhile_eq_self_iff.mpr hp, List.dropWhile_eq_nil_iff.mpr hp]

/-- `urlparse` of `/seg` names no scheme and no netloc: the default scheme, cleaned, and
the path `/seg`. -/
theorem urlparse_root_segment {chk : NetlocChecks} {seg d : List Char} (hseg : PlainSegment seg) :
    urlparse chk ('/' :: seg) d = .ok ⟨cleanScheme d, [], '/' :: seg, [], [], []⟩ := by
  obtain ⟨hne, -, -, hc⟩ := hseg
  have hclean : cleanUrl ('/' :: seg) = '/' :: seg := by
    unfold cleanUrl
    rw [List.dropWhile_cons_of_neg (by decide), List.filter_eq_self.mpr]
    intro x hx
    rcases List.mem_cons.mp hx with rfl | hx
    · rfl
    · simp [(hc x hx).2.2.2.2]
  have hnet : takeNetloc ('/' :: seg) = ([], '/' :: seg) := by
    obtain ⟨c, t, rfl⟩ := List.exists_cons_of_ne_nil hne
    have : c ≠ '/' := (hc c (List.mem_cons_self _ _)).1
    simp [takeNetloc, this]
  have hsplit : splitParts ('/' :: seg) d = ⟨cleanScheme d, [], '/' :: seg, [], []⟩ := by
    have h1 : splitOnce '#' ('/' :: seg) = none := splitOnce_of_not_mem (by
      simpa using fun h => (hc _ h).2.2.2.1 rfl)
    have h2 : splitOnce '?' ('/' :: seg) = none := splitOnce_of_not_mem (by
      simpa using fun h => (hc _ h).2.2.1 rfl)
    simp [splitParts, hclean, takeScheme, splitScheme_slash, hnet, splitQueryFragment, h1, h2]
  have hsemi : ';' ∉ '/' :: seg := by simpa using fun h => (hc _ h).2.1 rfl
  unfold urlparse
  rw [urlsplit_eq_ok.mpr ⟨by rw [hsplit]; rfl, by rw [hsplit]; rfl, hsplit⟩]
  simp [bind, Except.bind, pure, Except.pure, hsemi]

/-- `urljoin` of a base `urljoin` resolves against and the absolute path `/seg` keeps the
base's scheme and netloc and replaces its whole path, query and fragment by `/seg`. -/
theorem urljoin_root_segment {chk : NetlocChecks} {b seg : List Char} {pb : ParseResult}
    (hb : urlparse chk b [] = .ok pb) (hrel : pb.scheme ∈ usesRelative)
    (hseg : PlainSegment seg) :
    urljoin chk b ('/' :: seg) = .ok (urlunparse ⟨pb.scheme, pb.netloc, '/' :: seg, [], [], []⟩) := by
  by_cases hbne : b = []
  · -- an empty base leaves the reference as it is
    subst hbne
    obtain rfl : pb = ⟨[], [], [], [], [], []⟩ := (Except.ok.inj hb).symm
    simp [urljoin, urlunparse, urlunsplit]
  have hsch : cleanScheme pb.scheme = pb.scheme := by
    obtain ⟨s, hs, e, -⟩ := urlparse_ok hb
    rw [e]; exact cleanScheme_schemeOk (urlsplit_wellFormed hs).1
  have hp := @urlparse_root_segment chk seg pb.scheme hseg
  rw [hsch] at hp
  obtain ⟨hne, h1, h2, hc⟩ := hseg
  have hparts : ('/' :: seg).splitOn '/' = [[], seg] := by
    rw [List.splitOn, List.splitOnP_cons, if_pos (by decide),
      List.splitOnP_eq_single _ _ fun x hx => by simpa using (hc x hx).1]
  have hnl := usesRelative_usesNetloc _ hrel
  rw [urljoin, if_neg hbne, if_neg (List.cons_ne_nil _ _), hb]
  simp only [bind, Except.bind, hp, pure, Except.pure, hrel, hnl, ne_eq, not_true_eq_false,
    or_self, if_true, if_false, and_false, not_false_eq_true, List.cons_ne_nil, false_and,
    List.take_succ_cons, List.take_zero, hparts]
  have hjoin : ['/'].intercalate [[], seg] = '/' :: seg := by simp [List.intercalate]
  simp [resolveSegments, h1, h2, hne, hjoin]

/-- `urlunparse` of a scheme that uses a netloc, a netloc and the path `/seg`:
`scheme://netloc/seg`, also when the netloc is empty. -/
theorem urlunparse_root_segment {sch n seg : List Char} (hsch : sch ≠ []) (hnl : sch ∈ usesNetloc)
    (hseg : PlainSegment seg) :
    urlunparse ⟨sch, n, '/' :: seg, [], [], []⟩ = sch ++ ':' :: '/' :: '/' :: (n ++ '/' :: seg) := by
  obtain ⟨hne, -, -, hc⟩ := hseg
  have h2 : List.take 2 ('/' :: seg) ≠ ['/', '/'] := by
    obtain ⟨c, t, rfl⟩ := List.exists_cons_of_ne_nil hne
    simpa using (hc c (List.mem_cons_self _ _)).1
  have hauth : n ≠ [] ∨ (sch ≠ [] ∧ sch ∈ usesNetloc ∧ List.take 2 ('/' :: seg) ≠ ['/', '/']) :=
    .inr ⟨hsch, hnl, h2⟩
  have hslash : ¬ ('/' :: seg ≠ [] ∧ List.take 1 ('/' :: seg) ≠ ['/']) := by simp
  have hnil : ¬ ([] : List Char) ≠ [] := fun h => h rfl
  unfold urlunparse urlunsplit
  dsimp only
  simp only [hnil, hauth, hslash, if_true, if_false]
  simp [hsch]

/-! ## Another scheme in front of the same url -/

theorem cleanUrl_scheme {sch : List Char} (hs : SchemeOk sch) (rest : List Char) :
    cleanUrl (sch ++ ':' :: rest) = sch ++ ':' :: rest.filter (fun c => !isUnsafe c) := by
  obtain ⟨c, pre, rfl, -, hall⟩ := hs
  have hsafe : (c :: pre).filter (fun c => !isUnsafe c) = c :: pre :=
    List.filter_eq_self.mpr fun x hx => by simp [(schemeChars_safe x (hall x hx).1).2.1]
  rw [cleanUrl, List.cons_append, List.dropWhile_cons_of_neg
    (by simpa using (schemeChars_safe c (hall c (List.mem_cons_self _ _)).1).2.2),
    ← List.cons_append, List.filter_append, hsafe]
  rfl

/-- Two schemes `urlsplit` reads off a url cut the rest of it the same way. -/
theorem splitParts_swap_scheme {s₁ s₂ : List Char} (h₁ : SchemeOk s₁) (h₂ : SchemeOk s₂)
    (rest d₁ d₂ : List Char) :
    splitParts (s₁ ++ ':' :: rest) d₁ = { splitParts (s₂ ++ ':' :: rest) d₂ with scheme := s₁ } := by
  unfold splitParts takeScheme
  rw [cleanUrl_scheme h₁, cleanUrl_scheme h₂, splitScheme_schemeOk h₁, splitScheme_schemeOk h₂]
  rfl

/-- Replacing a url's scheme by another keeps the netloc `urlparse` reads. -/
theorem urlparse_swap_scheme {chk : NetlocChecks} {s₁ s₂ rest : List Char} {pb : ParseResult}
    (h₁ : SchemeOk s₁) (h₂ : SchemeOk s₂) (hp : urlparse chk (s₂ ++ ':' :: rest) [] = .ok pb) :
    ∃ pb', urlparse chk (s₁ ++ ':' :: rest) [] = .ok pb' ∧ pb'.scheme = s₁ ∧
      pb'.netloc = pb.netloc := by
  obtain ⟨sp, hsp, -, hn⟩ := urlparse_ok hp
  obtain ⟨hc1, hc2, e⟩ := urlsplit_eq_ok.mp hsp
  have hswap := splitParts_swap_scheme h₁ h₂ rest [] []
  have hsp' : urlsplit chk (s₁ ++ ':' :: rest) [] = .ok { sp with scheme := s₁ } :=
    urlsplit_eq_ok.mpr ⟨by simp only [hswap]; exact hc1, by simp only [hswap]; exact hc2,
      by rw [hswap, e]⟩
  refine ⟨_, by rw [urlparse, hsp']; rfl, rfl, hn.symm⟩

/-! ## A reference to another host -/

/-- A path of the form `//host/...` (the catch-all route passes `//evil.example/x` for the
request path `///evil.example/x`) takes the request to another host. -/
theorem urljoin_to_other_host :
    (∀ chk : NetlocChecks, urljoin chk "http://localhost:8080".toList "//evil.example/x".toList =
      .ok "http://evil.example/x".toList) ∧
    (splitParts "http://evil.example/x".toList []).netloc ≠
      (splitParts "http://localhost:8080".toList []).netloc :=
  ⟨fun _ => rfl, by decide⟩

end SprintGateway
