import Rathole.Http
import Rathole.Relay.State

/-!
# Building a Forwarded Response

What the two handlers make of an `HttpResponse`. Status, names and values are
the tunnel client's, and `forward_via_tunnel` does not refuse all of them in
the same way: a name or a value that cannot be made is an error that the
function returns, while after a status that cannot be made there are no
headers to unwrap. Inserting more headers than a map takes is a panic of the
crate itself. Then `insert_tunnel_cookie` puts the cookie of the tunnel there,
and panics over an id that is no header value, and over a map that has become
full by then. The handler of `/tunnel` leaves all of this to the builder, and
returns its error.

## Main definitions

* `Unwrapped`: Where the function can panic.
* `forwardResponse`: The response of `forward_via_tunnel`.
* `buildResponse`: The same, as the function returns it.
* `insertTunnelCookie`: The cookie of the tunnel on a response.
* `proxyResponse`: The response of `proxy_handler`.
* `tunnelResponse`: The response of `tunnel`.
* `proxyOutcome`, `tunnelOutcome`: What the relay keeps of them.

## Theorems

* `proxyOutcome_cases`, `tunnelOutcome_cases`: What the handlers return.
* `forwardResponse_returns_iff`: When `forward_via_tunnel` returns.
* `invalid_status_crashes`: A response that crashes the relay.
-/

namespace Rathole

open Completion Http Overwrite Proxy

/-- The `http` crate among the relay's libraries. -/
def Env.crate (env : Env) : Crate where
  headerName := env.headerName
  headerValue := env.headerValue
  room := env.room

namespace Relay

/-- The unwrap of `headers_mut`, and the `insert` of the crate. -/
inductive Unwrapped
  | headersMut
  | insert
deriving DecidableEq, Repr

/-- `forward_via_tunnel` returns its error for a name or value that is
    refused. -/
def Unwrapped.refusal : Refusal Unwrapped where
  name := .error
  value := .error
  full := .insert

/-- `build axum response` of `forward_via_tunnel`. -/
def forwardResponse (C : Crate) (http : HttpResponse) : Completion Unwrapped Response := do
  let builder := Builder.new.status http.status
  let headers ← unwrap .headersMut builder.headersMut
  let headers ← insertAll C Unwrapped.refusal headers http.headers
  okOr ((builder.setHeaders headers).body http.body)

/-- A result as `forward_via_tunnel` returns it; `none` is a panic. -/
def reply : Completion Unwrapped Response → Option (Except StatusCode Response)
  | .ok resp => some (.ok resp)
  | .error .error => some (.error .internalServerError)
  | .error (.panic _) => none

/-- `forward_via_tunnel` with a response; `none` is a panic. -/
def buildResponse (env : Env) (res : HttpResponse) : Option (Except StatusCode Response) :=
  reply (forwardResponse env.crate res)

/-- The cookie `insert_tunnel_cookie` sets. -/
def tunnelCookie (value : String) : String := "tunnel=" ++ value ++ "; Path=/; HttpOnly"

/-- `insert_tunnel_cookie`; `none` is a panic, of the unwrap of the value or
    of the `insert`. -/
def insertTunnelCookie (env : Env) (resp : Response) (value : String) : Option Response :=
  if env.headerValue (tunnelCookie value) && env.room resp.headers then some { resp with
    headers := resp.headers.insert "set-cookie" (utf8 (tunnelCookie value)) }
  else none

/-- What `proxy_handler` returns once tunnel `id` has answered. -/
def proxyResponse (env : Env) (id : String) (res : HttpResponse) :
    Option (Except StatusCode Response) :=
  match buildResponse env res with
  | none => none
  | some (.error code) => some (.error code)
  | some (.ok resp) => (insertTunnelCookie env resp id).map .ok

/-- What the relay keeps of that. -/
def outcomeOf (id : String) (res : HttpResponse) : Except StatusCode Response → Outcome
  | .ok _ => .proxied id res
  | .error code => .status code

/-- The outcome of a request to `proxy_handler`; `none` is a panic. -/
def proxyOutcome (env : Env) (id : String) (res : HttpResponse) : Option Outcome :=
  (proxyResponse env id res).map (outcomeOf id res)

/-- What `tunnel` makes of a response; with `none` it returns the builder's
    error. -/
def tunnelResponse (C : Crate) (http : HttpResponse) : Option Response :=
  Builder.body (http.headers.foldl (Builder.header C) (Builder.new.status http.status)) http.body

/-- What the relay keeps of that. -/
def tunnelReply (http : HttpResponse) : Option Response → Outcome
  | some _ => .answered http
  | none => .error .other

/-- The outcome of a request to `tunnel`. -/
def tunnelOutcome (env : Env) (res : HttpResponse) : Outcome :=
  tunnelReply res (tunnelResponse env.crate res)

/-- The headers of a response are names and values the `http` crate allows. -/
def headersValid (env : Env) (res : HttpResponse) : Bool :=
  res.headers.all (fun h => env.headerName h.1 && env.headerValue h.2)

variable {env : Env} {C : Crate} {http : HttpResponse} {id : String} {o : Outcome}

theorem reply_eq_none_iff (x : Completion Unwrapped Response) :
    reply x = none ↔ Panics (fun _ => True) x := by
  cases x with
  | ok resp => simp only [reply, reduceCtorEq, not_panics_ok]
  | error f =>
      cases f with
      | error => simp only [reply, reduceCtorEq, not_panics_error]
      | panic p => simp only [reply, panics_panic]

/-! ### The status -/

/-- A valid status leaves a builder with an empty map. -/
theorem forwardResponse_of_valid (hs : statusValid http.status = true) :
    forwardResponse C http =
      (insertAll C Unwrapped.refusal [] http.headers).map
        (fun headers => { status := http.status, headers := headers, body := http.body }) := by
  have hbuilder : Builder.new.status http.status =
      some { status := http.status, headers := [] } := by
    simp only [Builder.new, Builder.status, Option.bind_some, if_pos hs]
  simp only [forwardResponse, hbuilder, Builder.headersMut, Option.map_some, unwrap]
  change (insertAll C Unwrapped.refusal [] http.headers >>= fun headers => okOr _) = _
  cases insertAll C Unwrapped.refusal [] http.headers with
  | error f => rfl
  | ok headers => rfl

/-- After an invalid one there is no map. -/
theorem forwardResponse_of_invalid (hs : statusValid http.status = false) :
    forwardResponse C http = .error (.panic .headersMut) := by
  have hbuilder : Builder.new.status http.status = none := by
    simp only [Builder.new, Builder.status, Option.bind_some, hs, Bool.false_eq_true, if_false]
  simp only [forwardResponse, hbuilder, Builder.headersMut, Option.map_none, unwrap]
  rfl

/-! ### The response -/

theorem reply_eq_ok_iff {x : Completion Unwrapped Response} {resp : Response} :
    reply x = some (.ok resp) ↔ x = .ok resp := by
  cases x with
  | ok resp' => simp only [reply, Option.some.injEq, Except.ok.injEq]
  | error f =>
      cases f with
      | error => simp only [reply, Option.some.injEq, reduceCtorEq]
      | panic p => simp only [reply, reduceCtorEq]

/-- A response is returned exactly if the status and all headers are valid,
    and the headers fit. -/
theorem buildResponse_eq_ok_iff {resp : Response} :
    buildResponse env http = some (.ok resp) ↔ statusValid http.status = true ∧
      headersValid env http = true ∧ Fits env.crate [] http.headers ∧
        { status := http.status, headers := overwriteAll [] http.entries, body := http.body } =
          resp := by
  rw [buildResponse, reply_eq_ok_iff]
  cases hs : statusValid http.status with
  | false => simp only [forwardResponse_of_invalid hs, reduceCtorEq, Bool.false_eq_true, false_and]
  | true =>
      rw [forwardResponse_of_valid hs, map_eq_ok]
      simp only [insertAll_eq_ok, true_and]
      constructor
      · rintro ⟨headers, ⟨hall, hfits, rfl⟩, hresp⟩
        exact ⟨hall, hfits, hresp⟩
      · rintro ⟨hall, hfits, hresp⟩
        exact ⟨_, ⟨hall, hfits, rfl⟩, hresp⟩

/-! ### What the handlers return -/

/-- A cookie is put on a response exactly if it is a header value and there is
    room for it. -/
theorem insertTunnelCookie_eq_some_iff {resp resp' : Response} {value : String} :
    insertTunnelCookie env resp value = some resp' ↔
      (env.headerValue (tunnelCookie value) = true ∧ env.room resp.headers = true) ∧
        { resp with headers := resp.headers.insert "set-cookie" (utf8 (tunnelCookie value)) } =
          resp' := by
  rw [insertTunnelCookie, Option.ite_none_right_eq_some, Bool.and_eq_true, Option.some.injEq]

/-- A response names the tunnel it was asked for, and is its answer. -/
theorem proxyOutcome_cases (h : proxyOutcome env id http = some o) :
    o = .proxied id http ∨ ∃ code, o = .status code := by
  rcases Option.map_eq_some_iff.mp h with ⟨result, _, rfl⟩
  cases result with
  | ok resp => exact Or.inl rfl
  | error code => exact Or.inr ⟨code, rfl⟩

theorem tunnelOutcome_cases (env : Env) (http : HttpResponse) :
    tunnelOutcome env http = .answered http ∨ tunnelOutcome env http = .error .other := by
  unfold tunnelOutcome
  cases tunnelResponse env.crate http with
  | some resp => exact Or.inl rfl
  | none => exact Or.inr rfl

/-! ### When it returns -/

/-- `forward_via_tunnel` returns, a response or an error, exactly if the
    status is one of the `http` crate and a header map has room for every
    header up to the first that is refused. -/
theorem forwardResponse_returns_iff (C : Crate) (http : HttpResponse) :
    (∃ answer, reply (forwardResponse C http) = some answer) ↔
      (100 ≤ http.status ∧ http.status ≤ 999) ∧ Fits C [] http.headers := by
  have hstatus : statusValid http.status = true ↔ 100 ≤ http.status ∧ http.status ≤ 999 := by
    simp only [statusValid, Bool.and_eq_true, decide_eq_true_eq]
  rw [← Option.ne_none_iff_exists', ne_eq, reply_eq_none_iff, ← hstatus]
  cases hs : statusValid http.status with
  | false =>
      rw [forwardResponse_of_invalid hs]
      simp only [panics_panic, not_true_eq_false, Bool.false_eq_true, false_and]
  | true =>
      rw [forwardResponse_of_valid hs, panics_map, panics_insertAll rfl rfl, not_not]
      simp only [true_and]

/-- A crate that takes every name and every value. -/
def liberal : Crate where
  headerName := fun _ => true
  headerValue := fun _ => true
  room := fun m => m.length < 24576

/-- A status of three digits less one, with nothing else. -/
def shortStatus : HttpResponse where
  status := 99
  headers := []
  body := []

/-- The relay does not survive it. -/
theorem invalid_status_crashes :
    ¬ ∀ (C : Crate) (http : HttpResponse),
      ∃ answer, reply (forwardResponse C http) = some answer := by
  intro h
  rcases h liberal shortStatus with ⟨answer, hanswer⟩
  rw [forwardResponse_of_invalid (by decide)] at hanswer
  simp only [reply, reduceCtorEq] at hanswer

end Relay

end Rathole
