import Rathole.Relay.Step

/-!
# A Request at the Tunnel Client

The way of a request from `proxy_handler` to the local backend of the tunnel
client: `forward_via_tunnel` takes it apart into an `HttpRequest`, and the
client makes a request of its own out of that. The client puts the headers
into its request with `insert`, as the relay does with those of a response, so
of a name that comes again only the last value gets to the backend. The path
and query is put behind the address of the backend, which gives it back only
if it starts the way a path or a query does.

## Main definitions

* `HttpCrate`: What both ends take from the `http` crate.
* `RequestParts`: A request as `proxy_handler` gets it.
* `forwardedRequest`: What goes through the tunnel.
* `buildRequest`: What the client makes of an `HttpRequest`.
* `localRequest`: The same, of one that came in at `proxy_handler`.
* `PassedOn`: The backend gets the request that came in.

## Theorems

* `entries_headersToMap`: Headers that are strings survive the tunnel.
* `passedOn_iff`: When the backend gets the request that came in.
* `repeated_header_lost`: A request it does not get.
-/

namespace Rathole

open Completion Http Overwrite Proxy

namespace Relay

/-- The backend of the tunnel client. -/
def localBackend : String := "http://127.0.0.1:8000"

/-- A path, or a query without one. -/
def isRooted (p : String) : Bool := p.toList.head? == some '/' || p.toList.head? == some '?'

/-- The `http` crate: besides names and values, which methods there are, and
    the path and query of a URI. A header value that can be read as a string
    can be made of it again. Behind an address a path and query is read back
    if it is one; whatever else stands there, the URI has a path or a query. -/
structure HttpCrate extends Env where
  method : String → Bool
  uri : String → Option String
  headerValue_toStr : ∀ v s, toStr v = some s → headerValue s = true
  uri_rooted : ∀ p q, isRooted p = true → '#' ∉ p.toList → uri (localBackend ++ p) = some q → q = p
  uri_unrooted : ∀ p q, isRooted p = false → uri (localBackend ++ p) = some q → isRooted q = true

/-- A request as `proxy_handler` gets it. A request target without a path and
    query is that of `CONNECT`. -/
structure RequestParts (H : HttpCrate) where
  method : String
  pathAndQuery : Option String
  headers : HeaderMap
  body : List UInt8
  method_valid : H.method method = true
  names_valid : ∀ h ∈ headers, H.headerName h.1 = true ∧ lowercase h.1 = h.1
  no_fragment : ∀ p, pathAndQuery = some p → '#' ∉ p.toList

/-- The `HttpRequest` of `forward_via_tunnel`. -/
def forwardedRequest {H : HttpCrate} (parts : RequestParts H) : HttpRequest where
  method := parts.method
  path := parts.pathAndQuery.getD "/"
  headers := headersToMap parts.headers
  body := parts.body

/-- A request of the tunnel client to its backend. -/
structure LocalRequest where
  method : String
  pathAndQuery : String
  headers : HeaderMap
  body : List UInt8
deriving DecidableEq, Repr

/-- Where the client panics: an `insert` into a full map, and the unwrap of a
    response's headers. -/
inductive ClientUnwrap
  | insert
  | responseHeaders
deriving DecidableEq, Repr

/-- The client returns an error for a name or value that is refused. -/
def ClientUnwrap.refusal : Refusal ClientUnwrap where
  name := .error
  value := .error
  full := .insert

/-- The `http` crate among some libraries, with maps of some size. -/
def crateOf (env : Env) (room : HeaderMap → Bool) : Crate where
  headerName := env.headerName
  headerValue := env.headerValue
  room := room

/-- The client's request to its backend, from the `HttpRequest` it received. -/
def buildRequest (H : HttpCrate) (room : HeaderMap → Bool) (http : HttpRequest) :
    Completion ClientUnwrap LocalRequest := do
  ensure (H.method http.method)
  let pathAndQuery ← okOr (H.uri (localBackend ++ http.path))
  let headers ← insertAll (crateOf H.toEnv room) ClientUnwrap.refusal [] http.headers
  pure {
    method := http.method
    pathAndQuery := pathAndQuery
    headers := headers
    body := http.body }

/-- The request to the backend, if there is one. A request that came in at
    `proxy_handler` has as many headers as `hyper` reads, and there is room
    for more. -/
def localRequest (H : HttpCrate) (http : HttpRequest) : Option LocalRequest :=
  (buildRequest H (fun _ => true) http).toOption

/-- The backend gets the method, the path and query, the body and the values
    of every header that came in. -/
def PassedOn (H : HttpCrate) (parts : RequestParts H) : Prop :=
  ∃ req, localRequest H (forwardedRequest parts) = some req ∧ req.method = parts.method ∧
    some req.pathAndQuery = parts.pathAndQuery ∧ req.body = parts.body ∧
    SameValues req.headers parts.headers

variable {H : HttpCrate} {parts : RequestParts H}

/-- The message the relay's handler sends. -/
theorem requestMessage_eq {q : Request} (c : Call) (he : q.entry = .proxy)
    (hm : q.method = parts.method) (hp : q.path = parts.pathAndQuery.getD "/")
    (hh : q.headers = parts.headers) (hb : q.body = parts.body) :
    requestMessage q c = .request c.requestId (forwardedRequest parts) := by
  simp only [requestMessage, forwardedRequest, he, hm, hp, hh, hb]

/-! ### Headers through the tunnel -/

/-- Bytes that can be read as a string are those of the string. -/
theorem utf8_of_toStr {v : List UInt8} {s : String} (h : toStr v = some s) : utf8 s = v := by
  simp only [toStr, Option.ite_none_right_eq_some, Option.some.injEq] at h
  rw [← h.2]
  exact utf8_latin1 (fun b hb => toNat_lt_of_visible (List.all_eq_true.mp h.1 b hb))

/-- Headers that are strings survive the tunnel. -/
theorem entries_headersToMap {headers : HeaderMap}
    (hv : ∀ h ∈ headers, h.2.all isVisibleAscii = true)
    (hn : ∀ h ∈ headers, lowercase h.1 = h.1) :
    (headersToMap headers).map headerEntry = headers := by
  induction headers with
  | nil => rfl
  | cons h headers ih =>
      have hstr : toStr h.2 = some (String.ofList (latin1 h.2)) :=
        if_pos (hv h List.mem_cons_self)
      have hrest := ih (fun x hx => hv x (List.mem_cons_of_mem h hx))
        (fun x hx => hn x (List.mem_cons_of_mem h hx))
      rw [headersToMap] at hrest ⊢
      simp only [List.filterMap_cons, hstr, Option.map_some, List.map_cons, headerEntry,
        hn h List.mem_cons_self, utf8_of_toStr hstr, hrest]

/-- The client can make headers of all that comes through the tunnel. -/
theorem valid_headersToMap (parts : RequestParts H) (room : HeaderMap → Bool) :
    (headersToMap parts.headers).all (crateOf H.toEnv room).valid = true := by
  rw [List.all_eq_true]
  intro h hh
  rcases List.mem_filterMap.mp hh with ⟨⟨name, v⟩, hmem, heq⟩
  rw [Option.map_eq_some_iff] at heq
  rcases heq with ⟨s, hs, rfl⟩
  rw [Crate.valid, Bool.and_eq_true]
  exact ⟨(parts.names_valid _ hmem).1, H.headerValue_toStr v s hs⟩

/-! ### When the backend gets what came in -/

/-- The client's request to the backend, and when it can be built. -/
theorem buildRequest_eq_ok_iff {room : HeaderMap → Bool} {http : HttpRequest}
    {req : LocalRequest} : buildRequest H room http = .ok req ↔ H.method http.method = true ∧
      ∃ p, H.uri (localBackend ++ http.path) = some p ∧
        http.headers.all (crateOf H.toEnv room).valid = true ∧
        Fits (crateOf H.toEnv room) [] http.headers ∧
          { method := http.method
            pathAndQuery := p
            headers := overwriteAll [] (http.headers.map headerEntry)
            body := http.body } = req := by
  rw [buildRequest]
  simp only [bind_eq_ok, ensure_eq_ok, okOr_eq_ok, insertAll_eq_ok, pure_eq_ok, exists_const]
  constructor
  · rintro ⟨hm, p, hp, _, ⟨hv, hfits, rfl⟩, hreq⟩
    exact ⟨hm, p, hp, hv, hfits, hreq⟩
  · rintro ⟨hm, p, hp, hv, hfits, hreq⟩
    exact ⟨hm, p, hp, _, ⟨hv, hfits, rfl⟩, hreq⟩

theorem localRequest_eq_some_iff {http : HttpRequest} {req : LocalRequest} :
    localRequest H http = some req ↔ buildRequest H (fun _ => true) http = .ok req := by
  rw [localRequest]
  cases buildRequest H (fun _ => true) http with
  | ok a => simp only [Except.toOption, Option.some.injEq, Except.ok.injEq]
  | error f => simp only [Except.toOption, reduceCtorEq]

/-- The client's request, if the crate takes its URI. -/
theorem localRequest_forwardedRequest_iff (parts : RequestParts H)
    (hv : ∀ h ∈ parts.headers, h.2.all isVisibleAscii = true) {req : LocalRequest} :
    localRequest H (forwardedRequest parts) = some req ↔
      ∃ p, H.uri (localBackend ++ parts.pathAndQuery.getD "/") = some p ∧
        { method := parts.method
          pathAndQuery := p
          headers := overwriteAll [] parts.headers
          body := parts.body } = req := by
  have hentries : (headersToMap parts.headers).map headerEntry = parts.headers :=
    entries_headersToMap hv (fun h hh => (parts.names_valid h hh).2)
  have hfits : Fits (crateOf H.toEnv (fun _ => true)) [] (headersToMap parts.headers) :=
    fun _ _ _ _ _ => rfl
  rw [localRequest_eq_some_iff, buildRequest_eq_ok_iff, forwardedRequest]
  simp only [parts.method_valid, valid_headersToMap parts, hfits, hentries, true_and]

/-- The path and query comes back exactly if there is one, it starts like one,
    and the crate takes the URI. -/
theorem uri_eq_iff (parts : RequestParts H) :
    (∃ p, H.uri (localBackend ++ parts.pathAndQuery.getD "/") = some p ∧
        some p = parts.pathAndQuery) ↔
      ∃ p, parts.pathAndQuery = some p ∧ isRooted p = true ∧
        (H.uri (localBackend ++ p)).isSome = true := by
  constructor
  · rintro ⟨p, huri, hp⟩
    rw [← hp, Option.getD_some] at huri
    refine ⟨p, hp.symm, ?_, by rw [huri]; rfl⟩
    cases hroot : isRooted p with
    | true => rfl
    | false =>
        -- What is no path or query is not given back.
        have hback := H.uri_unrooted p p hroot huri
        rw [hroot] at hback
        exact hback
  · rintro ⟨p, hp, hroot, huri⟩
    rcases Option.isSome_iff_exists.mp huri with ⟨q, hq⟩
    have heq := H.uri_rooted p q hroot (parts.no_fragment p hp) hq
    rw [heq] at hq
    exact ⟨p, by rw [hp, Option.getD_some, hq], hp.symm⟩

/-- The backend gets the request that came in exactly if no header name comes
    again in it, and its target is a path and query that the crate takes
    behind the backend's address. -/
theorem passedOn_iff (H : HttpCrate) (parts : RequestParts H)
    (hv : ∀ h ∈ parts.headers, h.2.all isVisibleAscii = true) :
    PassedOn H parts ↔ (parts.headers.map Prod.fst).Nodup ∧
      ∃ p, parts.pathAndQuery = some p ∧ isRooted p = true ∧
        (H.uri (localBackend ++ p)).isSome = true := by
  rw [← sameValues_overwriteAll_iff, ← uri_eq_iff]
  constructor
  · rintro ⟨req, hreq, _, hp, _, hsame⟩
    rcases (localRequest_forwardedRequest_iff parts hv).mp hreq with ⟨p, huri, rfl⟩
    exact ⟨hsame, p, huri, hp⟩
  · rintro ⟨hsame, p, huri, hp⟩
    exact ⟨_, (localRequest_forwardedRequest_iff parts hv).mpr ⟨p, huri, rfl⟩, rfl, hp, rfl,
      hsame⟩

/-! ### Two requests -/

/-- Of a URI at the backend's address what is behind the address, and `/` where
    that is no path or query. -/
def uriAtBackend (s : String) : Option String :=
  (s.toList.dropPrefix? localBackend.toList).map (fun rest =>
    if isRooted (String.ofList rest) then String.ofList rest else "/")

theorem uriAtBackend_append (p : String) :
    uriAtBackend (localBackend ++ p) = some (if isRooted p then p else "/") := by
  rw [uriAtBackend, String.toList_append,
    List.dropPrefix?_append_of_beq p.toList (beq_self_eq_true localBackend.toList),
    Option.map_some, String.ofList_toList]

/-- A crate that takes all methods, names and values. -/
def HttpCrate.plain : HttpCrate where
  toEnv := .oneToken
  method := fun _ => true
  uri := uriAtBackend
  headerValue_toStr := fun _ _ _ => rfl
  uri_rooted := by
    intro p q hroot _ huri
    rw [uriAtBackend_append, if_pos hroot, Option.some.injEq] at huri
    exact huri.symm
  uri_unrooted := by
    intro p q hroot huri
    rw [uriAtBackend_append, hroot, if_neg Bool.false_ne_true, Option.some.injEq] at huri
    rw [← huri]
    decide

/-- A `GET` with these headers. -/
def getRequest (headers : HeaderMap) (hn : ∀ h ∈ headers, lowercase h.1 = h.1) :
    RequestParts .plain where
  method := "GET"
  pathAndQuery := some "/search?q=1"
  headers := headers
  body := []
  method_valid := rfl
  names_valid := fun h hh => ⟨rfl, hn h hh⟩
  no_fragment := by
    intro p hp
    rw [← Option.some.inj hp]
    decide

/-- One value under each name. -/
def oneAccept : RequestParts .plain :=
  getRequest [("host", utf8 "app.example.com"), ("accept", utf8 "text/html")] (by decide)

theorem passedOn_oneAccept : PassedOn .plain oneAccept :=
  (passedOn_iff .plain oneAccept (by decide)).mpr
    ⟨by decide, "/search?q=1", rfl, by decide, by decide⟩

/-- Two values under one name. -/
def twoAccepts : RequestParts .plain :=
  getRequest [("accept", utf8 "text/html"), ("accept", utf8 "text/plain")] (by decide)

/-- The backend gets the second value only. -/
theorem repeated_header_lost :
    ¬ ∀ (H : HttpCrate) (parts : RequestParts H),
      (∀ h ∈ parts.headers, h.2.all isVisibleAscii = true) → PassedOn H parts := by
  intro h
  rcases h .plain twoAccepts (by decide) with ⟨req, hreq, _, _, _, hsame⟩
  rcases (localRequest_forwardedRequest_iff twoAccepts (by decide)).mp hreq with ⟨p, _, rfl⟩
  -- One value is left where two came in.
  have hlost : (valuesOf (overwriteAll [] twoAccepts.headers) "accept").length ≠
      (valuesOf twoAccepts.headers "accept").length := by decide
  exact hlost (hsame "accept").length_eq

end Relay

end Rathole
