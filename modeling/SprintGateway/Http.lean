import SprintGateway.Basic

/- The HTTP values `proxy_request` reads and builds, and the library views of them it goes
   through: Starlette's `Headers` and `QueryParams` on the inbound side, httpx's `Headers`
   and content decoding on the backend's response, and Starlette's `Response`.

   1. `Request` is the inbound request as the ASGI server hands it over; uvicorn
      lower-cases each field name, so Starlette sees `scopeHeaders`. `headersGet` is
      `request.headers.get(key)` (the first field of that name), `headerDict` is
      `dict(request.headers)`: `Headers.keys()` lists every field name, repeats
      included, and `Headers[k]` is the first value, so a name that repeats keeps only
      its first value. `queryDict` is the dict inside `QueryParams` (`{k: v for k, v in
      items}`): a key that repeats keeps its last value, and `request.query_params.get`
      and `.items()` read it.
   2. `BackendResponse` is what the backend sent on the wire. `httpxHeaderDict` is
      `dict(response.headers)`: one item per lower-cased name, its values joined by
      `", "`. `decodeContent` is `response.content`: the body run through a decoder for
      each coding `Content-Encoding` names, last coding first.
   3. `buildResponse` is `Response(content=..., status_code=..., headers=...)`: the
      dict's items with lower-cased names, and a `content-length` when the dict has none
      and the status allows a body.

   ── PROVED vs ASSUMED ──────────────────────────────────────────────────────────
   The decompressors behind `SUPPORTED_DECODERS` (gzip, deflate, and br or zstd when
   installed) are not computed: `Decoders` holds one function per coding, each giving
   the decoded bytes or failing with `DecodingError`, and only fixes `identity`.
   Header names are the ASCII tokens h11 accepts, so `str.lower` is `lower`.

   Correspondence (Python ↔ Lean):
     `request.headers.get(k)`           ↔ `headersGet r.scopeHeaders k`
     `dict(request.headers)`            ↔ `headerDict r`
     `request.query_params`             ↔ `queryDict r.query`
     `dict(response.headers)`           ↔ `httpxHeaderDict`
     `response.content`                 ↔ `decodeContent`
     `Response(content, status, hdrs)`  ↔ `buildResponse`
-/
namespace SprintGateway

/-! ## The inbound request -/

/-- An inbound request: its method, its header fields in order with their names as the
client wrote them, its query as `parse_qsl(..., keep_blank_values=True)` gives it, and its
body. -/
structure Request where
  method : String
  headers : List (String × String)
  query : List (String × String)
  body : List UInt8
  deriving DecidableEq, Repr

/-- The header fields Starlette sees: uvicorn lower-cases every name. -/
def Request.scopeHeaders (r : Request) : List (String × String) :=
  r.headers.map (fun p => (lower p.1, p.2))

/-- `Headers.get(key)`: the value of the first field named `key.lower()`. -/
def headersGet (hs : List (String × String)) (key : String) : Option String :=
  (hs.find? (fun p => p.1 = lower key)).map Prod.snd

/-- `dict(request.headers)`: `d[k] = request.headers[k]` for each `k` of `keys()`. -/
def headerDict (r : Request) : PyDict :=
  PyDict.ofMapping (r.scopeHeaders.map Prod.fst) (fun k => (headersGet r.scopeHeaders k).getD "")

/-- The dict of `QueryParams`: `{k: v for k, v in items}`. -/
def queryDict (q : List (String × String)) : PyDict :=
  q.foldl (fun d p => d.set p.1 p.2) PyDict.empty

/-! ## The backend's response -/

/-- A response as the backend sent it: status, header fields in order, body bytes. -/
structure BackendResponse where
  status : Nat
  headers : List (String × String)
  body : List UInt8
  deriving DecidableEq, Repr

/-- `dict(response.headers)` for httpx's `Headers`: `keys()` lists each lower-cased name
once, and `headers[k]` joins every value of that name with `", "`. -/
def httpxHeaderDict (hs : List (String × String)) : PyDict :=
  PyDict.ofMapping (hs.map (fun p => lower p.1))
    (fun k => ", ".intercalate ((hs.filter (fun p => lower p.1 = lower k)).map Prod.snd))

/-- Python's `str.isspace`. -/
def isPySpace (c : Char) : Bool :=
  c.toNat ∈ [9, 10, 11, 12, 13, 28, 29, 30, 31, 32, 0x85, 0xa0, 0x1680, 0x2000, 0x2001, 0x2002,
    0x2003, 0x2004, 0x2005, 0x2006, 0x2007, 0x2008, 0x2009, 0x200a, 0x2028, 0x2029, 0x202f,
    0x205f, 0x3000]

/-- `str.strip()`. -/
def strip (s : String) : String :=
  ⟨((s.data.dropWhile isPySpace).reverse.dropWhile isPySpace).reverse⟩

/-- The content codings of a response: `headers.get_list("content-encoding",
split_commas=True)`, each `.strip().lower()`. -/
def contentCodings (hs : List (String × String)) : List String :=
  ((hs.filter (fun p => lower p.1 = "content-encoding")).map Prod.snd).flatMap
    (fun v => (v.data.splitOn ',').map (fun x => lower (strip ⟨x⟩)))

/-- `SUPPORTED_DECODERS`: the decoder httpx runs for a coding, if it knows the coding. A
decoder gives the decoded bytes, or `none` for `DecodingError`. -/
structure Decoders where
  find : String → Option (List UInt8 → Option (List UInt8))
  find_identity : find "identity" = some some

/-- A decoder table that knows only `identity`. -/
def identityDecoders : Decoders := ⟨fun c => if c = "identity" then some some else none, rfl⟩

/-- `response.content`: the decoders of the named codings, unknown ones skipped, run on the
wire body last coding first (`MultiDecoder` reverses its children). -/
def decodeContent (dec : Decoders) (hs : List (String × String)) (body : List UInt8) :
    Option (List UInt8) :=
  ((contentCodings hs).filterMap dec.find).reverse.foldlM (fun b d => d b) body

/-! ## The response returned to the caller -/

/-- A response as Starlette sends it: status, raw header fields, body. -/
structure Response where
  status : Nat
  headers : List (String × String)
  body : List UInt8
  deriving DecidableEq, Repr

/-- `Response(content=content, status_code=status, headers=headers)`: `init_headers` lower-cases
each name and adds `content-length` when the headers have none and the status allows a body. -/
def buildResponse (content : List UInt8) (status : Nat) (headers : PyDict) : Response :=
  let raw := headers.items.map (fun p => (lower p.1, p.2))
  let raw :=
    if "content-length" ∉ raw.map Prod.fst ∧ ¬(status < 200 ∨ status = 204 ∨ status = 304) then
      raw ++ [("content-length", toString content.length)]
    else raw
  ⟨status, raw, content⟩

end SprintGateway
