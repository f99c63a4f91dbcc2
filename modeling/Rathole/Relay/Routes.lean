import Rathole.Proxy.Failover
import Rathole.Relay.Responses

/-!
# The Backend of a Request

`proxy_handler` chooses a backend once, by one of the moves of `Routes`. After
that no move changes it, and the cookie of the response names it. What the
choice is made from, the route and the headers the request came with, stays as
it is.

## Main definitions

* `Target`: A backend, by its id.
* `RequestPc.backend`: The backend a handler has chosen.
* `RequestPc.cookieOf`: The backend whose cookie the response sets.
* `Request.input`: What a request came with.
* `Relay.firstAwait`: Where a request comes in.

## Theorems

* `routes_of_step`: A routing action makes one of the moves.
* `input_of_step`: What a request came with stays.
* `first_of_step`: Where new requests are.
* `backend_of_move`: Who chooses a backend.
* `pc_of_other`: What is no routing move stays clear of the routing awaits.
-/

namespace Rathole

open FairLock Numbered Proxy Transition

/-- A backend: a tunnel by its id, or the cloud. -/
inductive Target
  | tunnel (id : String)
  | cloud
deriving DecidableEq, Repr

/-- What `proxy_handler` gives to `insert_tunnel_cookie`. -/
def Target.name : Target → String
  | .tunnel id => id
  | .cloud => "cloud"

namespace RequestPc

/-- The backend whose cookie is on the response that was returned. -/
def cookieOf : RequestPc → Option Target
  | .returned (.proxied id _) => some (.tunnel id)
  | .returned .cloud => some .cloud
  | _ => none

/-- The backend a handler has chosen, until it has failed. -/
def backend (pc : RequestPc) : Option Target :=
  match pc.call, pc with
  | some c, _ => some (.tunnel c.id)
  | none, .cloud => some .cloud
  | none, pc => pc.cookieOf

/-- The `Set-Cookie` header of the response that was returned. -/
def setCookie (pc : RequestPc) : Option String :=
  pc.cookieOf.map (fun b => Relay.tunnelCookie b.name)

/-- The id of the cookie, while it is being looked at. -/
def preference : RequestPc → Option String
  | .preferring prefId | .checkingPreferred prefId _ => some prefId
  | _ => none

/-- The handler is in `choose_best_tunnel` or looks at its choice. -/
def isChoosing : RequestPc → Bool
  | .choosing | .ranking | .checkingChosen _ _ => true
  | _ => false

end RequestPc

/-- What a request came with, as far as its routing reads it. -/
def Request.input (q : Request) : Entry × HeaderMap := (q.entry, q.headers)

namespace Relay

variable {env : Env} {s t : Relay} {a : Action} {r k : Nat}

/-- A routing action makes one of the moves, and moves no other handler. -/
theorem routes_of_step (h : step env s a = some t) (ha : a.routes = some r) :
    ∃ q pc, s.requests[r]? = some q ∧ Routes s r q a pc ∧
      t.requests = s.requests.set r { q with pc := pc } := by
  rcases routed_of_act ha (act_of_step h) with ⟨q, pc, lock, hq, hm, _, ht⟩
  exact ⟨q, pc, hq, hm, by rw [ht]; rfl⟩

/-! ### What a request came with -/

/-- What every request came with. -/
def inputs (s : Relay) : List (Entry × HeaderMap) := s.requests.map Request.input

/-! A feature of a request that is neither its await nor its oneshot is left
alone by every step. -/

section Features

variable {β : Type} {f : Request → β}

theorem map_setRequest {q q' : Request} (hq : s.requests[r]? = some q) (hf : f q' = f q) :
    (s.setRequest r q').requests.map f = s.requests.map f := by
  have hset : (s.setRequest r q').requests.map f = (s.requests.map f).set r (f q') :=
    List.map_set
  rcases List.getElem?_eq_some_iff.mp hq with ⟨hlt, rfl⟩
  -- Writing a member back changes nothing.
  rw [hset, hf, ← List.map_set, List.set_getElem_self]

theorem unanswering_map (hf : ∀ q pc answer, f { q with pc := pc, answer := answer } = f q) :
    Unanswering (fun s t => t.requests.map f = s.requests.map f) where
  refl := fun _ => rfl
  answer := fun {_ _ q} o hq _ => map_setRequest hq (hf q q.pc o)
  maps := fun _ _ h => h

theorem map_of_handler (hf : ∀ q pc answer, f { q with pc := pc, answer := answer } = f q)
    (h : HandlerStep env s r a t) : t.requests.map f = s.requests.map f := by
  rcases h with ⟨q, pc, lock, health, hq, _, _, ht⟩ | ⟨_, q, c, pc, hq, _, _, ht⟩ |
    ⟨_, q, c, x, hq, _, _, _, ht⟩ | ⟨_, q, c, code, lock, health, hq, _, _, ht⟩ | ht
  · rw [ht]
    exact map_setRequest hq (hf q pc q.answer)
  · have hin : ((s.insertResponse c.requestId r).requests.map f)[r]? = some (f q) := by
      rw [(unanswering_map hf).insertResponse, List.getElem?_map, hq]
      rfl
    rw [List.getElem?_map, Option.map_eq_some_iff] at hin
    rcases hin with ⟨q', hq', hin⟩
    have hset : ((s.insertResponse c.requestId r).setRequest r { q with pc := pc }).requests.map f =
        (s.insertResponse c.requestId r).requests.map f :=
      map_setRequest hq' ((hf q pc q.answer).trans hin.symm)
    rw [ht, hset]
    exact (unanswering_map hf).insertResponse s c.requestId r
  · rw [ht]
    exact map_setRequest hq (hf q (.waiting c s.now) q.answer)
  · have hmoved : (s.moveRequest r q (.returned (.status code)) lock).requests.map f =
        s.requests.map f := map_setRequest hq (hf q (.returned (.status code)) q.answer)
    rw [ht, ← hmoved]
    exact (unanswering_map hf).removeResponse _ _
  · rw [ht]

theorem feature_of_step (hf : ∀ q pc answer, f { q with pc := pc, answer := answer } = f q)
    (h : step env s a = some t) {q q' : Request} (hq : s.requests[k]? = some q)
    (hq' : t.requests[k]? = some q') : f q' = f q := by
  have same : t.requests.map f = s.requests.map f → f q' = f q := by
    intro hin
    have hk := congrArg (fun l => l[k]?) hin
    simp only [List.getElem?_map, hq, hq', Option.map_some, Option.some.injEq] at hk
    exact hk
  cases effect_of_step h with
  | handler r ha h => exact same (map_of_handler hf h)
  | arrive p hpc he ha hresp hreq =>
      rw [hreq, List.getElem?_append_left (List.getElem?_eq_some_iff.mp hq).fst, hq,
        Option.some.injEq] at hq'
      rw [hq']
  | respond requestId http r ha hl hresp hreq =>
      rw [hreq] at hq'
      refine same ?_
      rw [hreq]
      exact (unanswering_map hf).answerRequest s r http
  | quiet hresp hreq hnone => exact same (by rw [hreq])

end Features

theorem inputs_of_handler (h : HandlerStep env s r a t) : t.inputs = s.inputs :=
  map_of_handler (fun _ _ _ => rfl) h

/-- What a request came with stays what it is. -/
theorem input_of_step (h : step env s a = some t) {q q' : Request} (hq : s.requests[k]? = some q)
    (hq' : t.requests[k]? = some q') : q'.input = q.input :=
  feature_of_step (fun _ _ _ => rfl) h hq hq'

/-- The await a request comes in at. -/
def firstAwait (entry : Entry) (headers : HeaderMap) : RequestPc :=
  match entry with
  | .tunnel _ => .listing
  | .proxy => match getCookieValue headers "tunnel" with
    | some prefId => .preferring prefId
    | none => .choosing

/-- A request starts by looking at the cookie it has, and else by choosing. -/
theorem firstAwait_cases (entry : Entry) (headers : HeaderMap) :
    firstAwait entry headers = .listing ∨
      (firstAwait entry headers = .choosing ∧ getCookieValue headers "tunnel" = none) ∨
      ∃ prefId, firstAwait entry headers = .preferring prefId ∧
        getCookieValue headers "tunnel" = some prefId := by
  cases entry with
  | tunnel id => exact Or.inl rfl
  | proxy =>
      cases hc : getCookieValue headers "tunnel" with
      | none => exact Or.inr (Or.inl ⟨by simp only [firstAwait, hc], rfl⟩)
      | some prefId => exact Or.inr (Or.inr ⟨prefId, by simp only [firstAwait, hc], rfl⟩)

theorem backend_firstAwait (entry : Entry) (headers : HeaderMap) :
    (firstAwait entry headers).backend = none := by
  rcases firstAwait_cases entry headers with hf | ⟨hf, _⟩ | ⟨_, hf, _⟩
  · rw [hf]
    rfl
  · rw [hf]
    rfl
  · rw [hf]
    rfl

/-- A new request is at its first await. -/
theorem first_of_step (h : step env s a = some t) {q' : Request} (hq : s.requests[k]? = none)
    (hq' : t.requests[k]? = some q') : q'.pc = firstAwait q'.entry q'.headers := by
  have kept : t.requests = s.requests → q'.pc = firstAwait q'.entry q'.headers := by
    intro heq
    rw [heq, hq] at hq'
    simp only [reduceCtorEq] at hq'
  cases rule_of_step h with
  | handled ha hstep =>
      have hk := congrArg (fun l => l[k]?) (inputs_of_handler hstep)
      simp only [inputs, List.getElem?_map, hq, hq', Option.map_some, Option.map_none,
        reduceCtorEq] at hk
  | arrived harr =>
      rw [← Option.some.inj harr] at hq'
      rcases getElem?_append_cases hq' with hold | ⟨_, hnew⟩
      · rw [hq] at hold
        simp only [reduceCtorEq] at hold
      · rw [hnew]
        rfl
  | received hx hpc hsame =>
      rcases hsame.requests k q' hq' with ⟨q, hold, _⟩
      have hold' : s.requests[k]? = some q := hold
      rw [hq] at hold'
      simp only [reduceCtorEq] at hold'
  | _ => exact kept rfl

/-! ### Choosing a backend -/

/-- The response of a tunnel gets the cookie of the tunnel. -/
theorem cookieOf_proxyOutcome {id : String} {res : HttpResponse} {o : Outcome} {b : Target}
    (ho : proxyOutcome env id res = some o) (hb : (RequestPc.returned o).cookieOf = some b) :
    b = .tunnel id := by
  rcases proxyOutcome_cases ho with rfl | ⟨code, rfl⟩
  · exact (Option.some.inj hb).symm
  · simp only [RequestPc.cookieOf, reduceCtorEq] at hb

/-- `tunnel` sets no cookie. -/
theorem cookieOf_tunnelOutcome (env : Env) (res : HttpResponse) :
    (RequestPc.returned (tunnelOutcome env res)).cookieOf = none := by
  rcases tunnelOutcome_cases env res with ho | ho
  · rw [ho]
    rfl
  · rw [ho]
    rfl

/-- A handler that goes on, or has returned, keeps the backend it has chosen;
    who chooses one is on its way to it, or has come for a tunnel. -/
theorem backend_of_move {q : Request} {pc : RequestPc} {b : Target}
    (hm : PcStep env s k q a pc) (hb : pc.backend = some b) (he : q.entry = .proxy) :
    q.pc.backend = some b ∨ a.routes = some k := by
  cases hm with
  | stay hpc =>
      rw [hpc] at hb
      exact Or.inl hb
  | enroll c hq hpc =>
      rw [hq]
      rcases hpc with hpc | hpc
      · rw [hpc] at hb
        exact Or.inl hb
      · rw [hpc] at hb
        exact Or.inl hb
  | send c hq hpc =>
      rw [hpc] at hb
      rw [hq]
      exact Or.inl hb
  | discard c code hq hpc =>
      rw [hpc] at hb
      simp only [RequestPc.backend, RequestPc.call, RequestPc.cookieOf, reduceCtorEq] at hb
  | move hm =>
      cases hm with
      | found hpc hent =>
          rw [he] at hent
          simp only [reduceCtorEq] at hent
      | read hpc | unsentProxy hpc | unansweredProxy hpc | expire hpc =>
          rw [hpc]
          exact Or.inl hb
      | answeredProxy hpc ha ho =>
          rw [cookieOf_proxyOutcome ho hb, hpc]
          exact Or.inl rfl
      | cloud hpc ho =>
          rcases ho with rfl | ⟨code, rfl⟩
          · rw [hpc]
            exact Or.inl hb
          · simp only [RequestPc.backend, RequestPc.call, RequestPc.cookieOf, reduceCtorEq] at hb
      | sticky | unranked | chosen | fallback => exact Or.inr rfl
      | answered =>
          have hb' : (RequestPc.returned (tunnelOutcome env _)).cookieOf = some b := hb
          rw [cookieOf_tunnelOutcome] at hb'
          simp only [reduceCtorEq] at hb'
      | _ => simp only [RequestPc.backend, RequestPc.call, RequestPc.cookieOf, reduceCtorEq] at hb

/-- The id that is looked at stays the same. -/
theorem Routes.preference {q : Request} {pc : RequestPc} {prefId : String}
    (hm : Routes s r q a pc) (h : pc.preference = some prefId) :
    q.pc.preference = some prefId := by
  cases hm with
  | registered hpc =>
      rw [hpc]
      exact h
  | _ => simp only [RequestPc.preference, reduceCtorEq] at h

/-- A move that is none of the routing ones. -/
theorem pc_of_other {q : Request} {pc : RequestPc} (hm : PcStep env s k q a pc)
    (ha : a.routes ≠ some k) : pc = q.pc ∨ (pc.preference = none ∧ pc.isChoosing = false) := by
  cases hm with
  | stay hpc => exact Or.inl hpc
  | enroll c hq hpc =>
      rcases hpc with hpc | hpc
      · rw [hpc]
        exact Or.inr ⟨rfl, rfl⟩
      · rw [hpc]
        exact Or.inr ⟨rfl, rfl⟩
  | send c hq hpc | discard c code hq hpc =>
      rw [hpc]
      exact Or.inr ⟨rfl, rfl⟩
  | move hm =>
      cases hm with
      | preferred | unregistered | sticky | unhealthy | choose | ranked | unranked | chosen
        | fallback => exact absurd rfl ha
      | _ => exact Or.inr ⟨rfl, rfl⟩

end Relay

end Rathole
