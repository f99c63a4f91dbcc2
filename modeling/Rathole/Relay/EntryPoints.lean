import Rathole.Relay.Step

/-!
# The Two Ways into a Tunnel

A request can name its tunnel by its path, `/tunnel/{id}/{*path}`, or by its
host. The two handlers build the `HttpRequest` for the tunnel from different
parts of the request. `tunnel` takes what `axum` extracts for it: the capture
of the path with its escapes undone, which has no slash in front and no query
behind, and the body as a string. `forward_via_tunnel` takes the path and
query as they stand in the target, and the bytes of the body.

So the messages agree in method, headers and body, and never in the path: to
undo an escape makes a capture no longer, and the target has a slash more.

## Main definitions

* `Axum`: What the extractors make of a path and a body.
* `TunneledRequest`: A request for a tunnel, however it names it.
* `tunnelEntry`, `proxyEntry`: What becomes of it at either handler.
* `SameMessage`, `SamePanics`: The handlers agree.

## Theorems

* `requestMessage_of_tunnelEntry`, `requestMessage_of_proxyEntry`: These are
  the messages of the relay's handlers.
* `entries_disagree`: They never agree.
-/

namespace Rathole

open Proxy

namespace Relay

/-- The extractors of `tunnel`. A capture is given out with its escapes
    undone, a body as a string, and neither if that is not UTF-8. -/
structure Axum where
  capture : String → Option String
  text : List UInt8 → Option String
  capture_length : ∀ p s, capture p = some s → (utf8 s).length ≤ (utf8 p).length
  text_utf8 : ∀ b s, text b = some s → utf8 s = b

/-- A request for a tunnel: `path` without its slash and `query` without its
    question mark, as they stand in the target. -/
structure TunneledRequest where
  method : String
  path : String
  query : Option String
  headers : HeaderMap
  body : List UInt8
deriving DecidableEq, Repr

/-- What becomes of a request at an entry point: its message goes to the
    tunnel, an extractor rejects it, the route does not match it, or its
    handler panics. -/
inductive Entered
  | sends (http : HttpRequest)
  | rejected
  | unrouted
  | panicked
deriving DecidableEq, Repr

/-- The path and query of `/p?q`. -/
def TunneledRequest.pathAndQuery (q : TunneledRequest) : String :=
  "/" ++ q.path ++ (q.query.map (fun s => "?" ++ s)).getD ""

/-- The handler of `/tunnel/{id}/{*path}`, once its extractors are through. -/
def tunnelHandler (q : TunneledRequest) (path body : String) : Entered :=
  match headersUnwrapped q.headers with
  | none => .panicked
  | some headers => .sends {
      method := q.method
      path := path
      headers := headers
      -- `body.into_bytes()`
      body := utf8 body }

/-- A request of `/tunnel/t/p?q`. -/
def tunnelEntry (X : Axum) (q : TunneledRequest) : Entered :=
  -- A `{*path}` captures something.
  if q.path = "" then .unrouted
  else match X.capture q.path, X.text q.body with
    | some path, some body => tunnelHandler q path body
    | _, _ => .rejected

/-- The same request of `/p?q`, by the host of the tunnel. -/
def proxyEntry (q : TunneledRequest) : Entered :=
  .sends {
    method := q.method
    path := q.pathAndQuery
    headers := headersToMap q.headers
    body := q.body }

/-- Both entry points send the same message. -/
def SameMessage (X : Axum) (q : TunneledRequest) : Prop :=
  ∃ http, tunnelEntry X q = .sends http ∧ proxyEntry q = .sends http

/-- Neither entry point panics where the other one does not. -/
def SamePanics (X : Axum) (q : TunneledRequest) : Prop :=
  tunnelEntry X q = .panicked ↔ proxyEntry q = .panicked

variable {X : Axum} {q : TunneledRequest} {http : HttpRequest}

/-! ### The messages of the relay -/

/-- What `tunnel` sends comes from its extractors and from headers that are
    all strings. -/
theorem tunnelEntry_eq_sends (h : tunnelEntry X q = .sends http) :
    ∃ path body headers, X.capture q.path = some path ∧ X.text q.body = some body ∧
      headersUnwrapped q.headers = some headers ∧ q.path ≠ "" ∧
      http = { method := q.method, path := path, headers := headers, body := q.body } := by
  unfold tunnelEntry at h
  by_cases hp : q.path = ""
  · simp only [if_pos hp, reduceCtorEq] at h
  · rw [if_neg hp] at h
    cases hc : X.capture q.path with
    | none => simp only [hc, reduceCtorEq] at h
    | some path =>
        cases ht : X.text q.body with
        | none => simp only [hc, ht, reduceCtorEq] at h
        | some body =>
            simp only [hc, ht, tunnelHandler] at h
            cases hu : headersUnwrapped q.headers with
            | none => simp only [hu, reduceCtorEq] at h
            | some headers =>
                simp only [hu, Entered.sends.injEq] at h
                refine ⟨path, body, headers, rfl, rfl, rfl, hp, ?_⟩
                rw [← h, X.text_utf8 _ _ ht]

/-- Headers that are all strings are the same at both handlers. -/
theorem headersToMap_of_unwrapped {headers : HeaderMap} {l : List (String × String)}
    (h : headersUnwrapped headers = some l) : headersToMap headers = l := by
  induction headers generalizing l with
  | nil =>
      simp only [headersUnwrapped, List.mapM_nil, Option.pure_def, Option.some.injEq] at h
      rw [← h]
      rfl
  | cons x headers ih =>
      rcases x with ⟨k, v⟩
      simp only [headersUnwrapped, List.mapM_cons, Option.pure_def, Option.bind_eq_bind,
        Option.bind_eq_some_iff, Option.map_eq_some_iff, Option.some.injEq] at h
      rcases h with ⟨_, ⟨s, hs, rfl⟩, rest, hrest, rfl⟩
      simp only [headersToMap, List.filterMap_cons, hs, Option.map_some, List.cons.injEq,
        true_and]
      exact ih hrest

/-- `tunnel` panics over a header that is no string. -/
theorem headersUnwrapped_eq_none_iff (headers : HeaderMap) :
    headersUnwrapped headers = none ↔ ∃ h ∈ headers, toStr h.2 = none := by
  induction headers with
  | nil =>
      simp only [headersUnwrapped, List.mapM_nil, Option.pure_def, reduceCtorEq,
        List.not_mem_nil, false_and, exists_false]
  | cons x headers ih =>
      rw [headersUnwrapped] at ih
      rw [headersUnwrapped, List.mapM_cons, List.exists_mem_cons_iff, ← ih]
      cases hx : toStr x.2 with
      | none => simp only [Option.map_none, Option.bind_eq_bind, Option.bind_none, true_or]
      | some s =>
          simp only [Option.map_some, Option.bind_eq_bind, Option.bind_some, Option.pure_def,
            reduceCtorEq, false_or]
          cases headers.mapM (fun h => (toStr h.2).map (fun v => (h.1, v))) with
          | none => simp only [Option.bind_none]
          | some l => simp only [Option.bind_some, reduceCtorEq]

/-- A handler of the relay that came in by `/tunnel` sends this message. -/
theorem requestMessage_of_tunnelEntry (h : tunnelEntry X q = .sends http) {r : Request}
    {id : String} (c : Call) (he : r.entry = .tunnel id) (hm : r.method = q.method)
    (hp : X.capture q.path = some r.path) (hh : r.headers = q.headers) (hb : r.body = q.body) :
    requestMessage r c = .request c.requestId http := by
  rcases tunnelEntry_eq_sends h with ⟨path, body, headers, hc, _, hu, _, rfl⟩
  rw [hc, Option.some.injEq] at hp
  simp only [requestMessage, he, hm, ← hp, hh, hb, hu, Option.getD_some]

/-- A handler that came in by its host sends this one. -/
theorem requestMessage_of_proxyEntry (h : proxyEntry q = .sends http) {r : Request}
    (c : Call) (he : r.entry = .proxy) (hm : r.method = q.method) (hp : r.path = q.pathAndQuery)
    (hh : r.headers = q.headers) (hb : r.body = q.body) :
    requestMessage r c = .request c.requestId http := by
  rw [proxyEntry, Entered.sends.injEq] at h
  simp only [requestMessage, he, hm, hp, hh, hb, ← h]

/-! ### What they have in common -/

/-- A capture is shorter than the target. -/
theorem capture_lt {p : String} (h : X.capture q.path = some p) :
    (utf8 p).length < (utf8 q.pathAndQuery).length := by
  have hle := X.capture_length _ _ h
  have hslash : (utf8 "/").length = 1 := by decide
  simp only [TunneledRequest.pathAndQuery, utf8_append, List.length_append, hslash]
  omega

/-- Where the request gets as far as the handler of `/tunnel`. -/
def Reached (X : Axum) (q : TunneledRequest) : Prop :=
  q.path ≠ "" ∧ (X.capture q.path).isSome = true ∧ (X.text q.body).isSome = true

theorem tunnelEntry_eq_panicked_iff :
    tunnelEntry X q = .panicked ↔ Reached X q ∧ ∃ h ∈ q.headers, toStr h.2 = none := by
  rw [← headersUnwrapped_eq_none_iff]
  unfold tunnelEntry Reached
  by_cases hp : q.path = ""
  · rw [if_pos hp]
    simp only [reduceCtorEq, ne_eq, hp, not_true_eq_false, false_and]
  · rw [if_neg hp]
    cases X.capture q.path with
    | none => simp only [reduceCtorEq, Option.isSome_none, Bool.false_eq_true, false_and, and_false]
    | some path =>
        cases X.text q.body with
        | none => simp only [reduceCtorEq, Option.isSome_none, Bool.false_eq_true, and_false,
            false_and]
        | some body =>
            cases hu : headersUnwrapped q.headers with
            | none => simp only [tunnelHandler, hu, ne_eq, hp, not_false_eq_true,
                Option.isSome_some, and_self]
            | some headers => simp only [tunnelHandler, hu, reduceCtorEq, and_false]

/-- For no request do both entry points send the same message. Where both send
    one, the messages differ in their paths alone. One of them panics where
    the other does not exactly if the request gets as far as the handler of
    `/tunnel` and has a header that is no string. -/
theorem entries_disagree (X : Axum) (q : TunneledRequest) :
    ¬ SameMessage X q ∧
    (∀ t f, tunnelEntry X q = .sends t → proxyEntry q = .sends f →
      t.path ≠ f.path ∧ { t with path := f.path } = f) ∧
    (SamePanics X q ↔ ¬ (Reached X q ∧ ∃ h ∈ q.headers, toStr h.2 = none)) := by
  have hdiffer : ∀ t f, tunnelEntry X q = .sends t → proxyEntry q = .sends f →
      t.path ≠ f.path ∧ { t with path := f.path } = f := by
    intro t f ht hf
    rcases tunnelEntry_eq_sends ht with ⟨path, body, headers, hc, _, hu, _, rfl⟩
    rw [proxyEntry, Entered.sends.injEq] at hf
    rw [← hf, headersToMap_of_unwrapped hu]
    refine ⟨fun heq => ?_, rfl⟩
    have hlt := capture_lt hc
    have hpath : path = q.pathAndQuery := heq
    rw [hpath] at hlt
    exact Nat.lt_irrefl _ hlt
  refine ⟨?_, hdiffer, ?_⟩
  · rintro ⟨http, ht, hf⟩
    exact (hdiffer http http ht hf).1 rfl
  · rw [SamePanics, tunnelEntry_eq_panicked_iff, proxyEntry]
    simp only [reduceCtorEq, iff_false]

/-- A path without escapes is captured as it is, and a body of ASCII bytes is
    a string. -/
def Axum.plain : Axum where
  capture := some
  text := fun b => if b.all isVisibleAscii then some (String.ofList (latin1 b)) else none
  capture_length := by
    intro p s h
    rw [Option.some.inj h]
  text_utf8 := by
    intro b s h
    rw [Option.ite_none_right_eq_some, Option.some.injEq] at h
    rw [← h.2]
    exact utf8_latin1 (fun x hx => toNat_lt_of_visible (List.all_eq_true.mp h.1 x hx))

/-- `GET /search?q=1` -/
def searchRequest : TunneledRequest where
  method := "GET"
  path := "search"
  query := some "q=1"
  headers := [("accept", utf8 "text/html")]
  body := []

/-- The one sends `search`, the other `/search?q=1`. -/
theorem search_paths_differ :
    ¬ ∀ (X : Axum) (q : TunneledRequest), SameMessage X q ∧ SamePanics X q := by
  intro h
  rcases (h .plain searchRequest).1 with ⟨http, ht, hf⟩
  rcases tunnelEntry_eq_sends ht with ⟨path, body, headers, hc, _, _, _, rfl⟩
  rw [proxyEntry, Entered.sends.injEq, HttpRequest.mk.injEq] at hf
  have hpath : "search" = path := Option.some.inj hc
  rw [← hpath] at hf
  exact absurd hf.2.1 (by decide)

end Relay

end Rathole
