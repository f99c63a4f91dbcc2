import Mathlib.Data.List.DropRight
import Rathole.Relay.CookieEcho
import Rathole.Relay.Routes

/-!
# A Call of the Proxy Handler

`proxy_handler` from the request to the response. It tries the tunnel of the
cookie, then the best tunnel of the subdomain, and then the cloud, and the
first of them it gives the request to decides what it returns: an error of
`forward_via_tunnel` leaves through `?` and is not tried elsewhere. The
response gets the cookie of the backend, in the place of all it had, the one
of `forward_to_cloud` included.

Between the awaits of a call other tasks move. So it does not see one state of
the table and of the health map but several, one for each of its looks.

## Main definitions

* `ProxiedRequest`, `Snapshots`: The request, and what the call sees.
* `TunnelAnswer`, `CloudAnswer`: What comes of giving it to a backend.
* `forwardViaTunnel`, `forwardToCloud`: The two ways to a backend.
* `proxyHandler`: The call.
* `Usable`: What the health test is for.
* `Truthful`: What a call does for its request.

## Theorems

* `healthy_iff`: The test finds the usable tunnels.
* `tunnelCookie_injective`: A cookie names one backend.
* `proxyHandler_truthful`: Every call is truthful.
-/

namespace Rathole

open Overwrite Proxy

namespace Relay

/-! ### The call -/

/-- A request to the proxy. Reading its body may fail, and a target may have
    no path and query. -/
structure ProxiedRequest where
  method : String
  pathAndQuery : Option String
  headers : HeaderMap
  body : Option (List UInt8)

/-- What a call sees: the table and the health map where it looks at the
    tunnel of its cookie, those that `choose_best_tunnel` ranks, and the
    health map where the choice is tested. -/
structure Snapshots (τ : Type) where
  tunnels : HashMap String τ
  health : TunnelHealthMap
  now : Nat
  bestTunnels : HashMap String τ
  bestHealth : TunnelHealthMap
  chosenHealth : TunnelHealthMap
  chosenNow : Nat

/-- What comes of a request for a tunnel: the tunnel's queue is gone, its
    client answers, the oneshot is dropped, or the timeout runs out. -/
inductive TunnelAnswer
  | unsent
  | answered (http : HttpResponse)
  | dropped
  | timedOut

/-- What comes of a request to the cloud. The body of an answer may break off. -/
inductive CloudAnswer
  | answered (res : Response)
  | cutShort
  | failed
  | timedOut

/-- `default_cloud_backend`, and what parses as a URI. -/
structure CloudBackend where
  address : String
  uri : String → Bool

/-- A request that has been sent to a backend. -/
inductive Contact
  | tunnel (id : String) (http : HttpRequest)
  | cloud (uri method : String) (headers : HeaderMap) (body : List UInt8)

/-- Whom a call went to. -/
def Contact.target : Contact → Target
  | .tunnel id _ => .tunnel id
  | .cloud _ _ _ _ => .cloud

/-- What was sent, and what is returned; `none` is a panic. -/
structure Attempt where
  contacts : List Contact
  result : Option (Except StatusCode Response)

/-- `forward_via_tunnel` -/
def forwardViaTunnel (env : Env) (id : String) (q : ProxiedRequest) (answer : TunnelAnswer) :
    Attempt :=
  match q.body with
  | none => { contacts := [], result := some (.error .badRequest) }
  | some body =>
      let http : HttpRequest := {
        method := q.method
        path := q.pathAndQuery.getD "/"
        headers := headersToMap q.headers
        body := body }
      match answer with
      | .unsent => { contacts := [], result := some (.error .badGateway) }
      | .answered res => { contacts := [.tunnel id http], result := buildResponse env res }
      | .dropped => { contacts := [.tunnel id http], result := some (.error .badGateway) }
      | .timedOut => { contacts := [.tunnel id http], result := some (.error .gatewayTimeout) }

/-- The target of a request in the cloud. -/
def CloudBackend.target (C : CloudBackend) (q : ProxiedRequest) : String :=
  -- `trim_end_matches('/')`
  String.ofList (C.address.toList.rdropWhile (· = '/')) ++ q.pathAndQuery.getD "/"

/-- `forward_to_cloud`. The `insert` of its cookie is into the map of a
    response that came from the cloud. -/
def forwardToCloud (env : Env) (C : CloudBackend) (isSticky : Bool) (q : ProxiedRequest)
    (answer : CloudAnswer) : Attempt :=
  match q.body with
  | none => { contacts := [], result := some (.error .badRequest) }
  | some body =>
      if C.uri (C.target q) then {
        contacts := [.cloud (C.target q) q.method q.headers body]
        result := match answer with
          | .answered res =>
              if isSticky then some (.ok res)
              else if env.room res.headers then some (.ok { res with
                headers := res.headers.insert "set-cookie" (utf8 "backend=cloud; Path=/") })
              else none
          | .cutShort => some (.error .internalServerError)
          | .failed => some (.error .badGateway)
          | .timedOut => some (.error .gatewayTimeout) }
      else { contacts := [], result := some (.error .badRequest) }

/-- `?`, and `insert_tunnel_cookie` on what is left. -/
def Attempt.labelled (env : Env) (a : Attempt) (value : String) : Attempt := { a with
  result := match a.result with
    | some (.ok resp) => (insertTunnelCookie env resp value).map .ok
    | r => r }

/-- `proxy_handler`: the backend it gives the request to, and what comes of
    it. -/
def proxyHandler {τ : Type} (env : Env) (C : CloudBackend) (v : Snapshots τ) (q : ProxiedRequest)
    (viaTunnel : TunnelAnswer) (viaCloud : CloudAnswer) : Backend τ × Attempt :=
  match preferredTunnel v.tunnels v.health v.now q.headers with
  | some (prefId, tx) =>
      (.tunnel prefId tx, (forwardViaTunnel env prefId q viaTunnel).labelled env prefId)
  | none =>
      let fallback : Backend τ × Attempt :=
        (.cloud, (forwardToCloud env C false q viaCloud).labelled env "cloud")
      match chooseBestTunnel v.bestTunnels v.bestHealth (subdomainOf q.headers) with
      | some (chosenId, tx) =>
          if healthy v.chosenHealth v.chosenNow chosenId then
            (.tunnel chosenId tx, (forwardViaTunnel env chosenId q viaTunnel).labelled env chosenId)
          else fallback
      | none => fallback

/-! ### What it does for a request -/

/-- The tunnel has no health entry, or one that is not `Critical` and not
    stale. -/
def Usable (health : TunnelHealthMap) (now : Nat) (id : String) : Prop :=
  ∀ h, health.lookup id = some h → h.status ≠ .critical ∧ now - h.lastUpdate < staleThreshold

/-- The backend without the tunnel's sender. -/
def toTarget {τ : Type} : Backend τ → Target
  | .tunnel id _ => .tunnel id
  | .cloud => .cloud

/-- The response is what the backend has answered, but for its headers. -/
def Produced (viaTunnel : TunnelAnswer) (viaCloud : CloudAnswer) (resp : Response) :
    Target → Prop
  | .tunnel _ => ∃ http, viaTunnel = .answered http ∧ resp.status = http.status ∧
      resp.body = http.body
  | .cloud => ∃ res, viaCloud = .answered res ∧ resp.status = res.status ∧ resp.body = res.body

/-- What a call does for its request. A tunnel it gives the request to is
    registered and usable when the call looks; all else goes to the cloud.
    Nobody but this backend is contacted, and it once at most: it is not only
    if the body cannot be read, if the tunnel's queue is gone, or if the
    target in the cloud is no URI. And a response that is returned has been
    produced by the backend, and its cookies are that of the backend. -/
structure Truthful {τ : Type} (C : CloudBackend) (v : Snapshots τ) (q : ProxiedRequest)
    (viaTunnel : TunnelAnswer) (viaCloud : CloudAnswer) (c : Backend τ × Attempt) : Prop where
  usable : ∀ id tx, c.1 = .tunnel id tx →
    (getCookieValue q.headers "tunnel" = some id ∧ v.tunnels.lookup id = some tx ∧
      Usable v.health v.now id) ∨
    (v.bestTunnels.lookup id = some tx ∧ Usable v.chosenHealth v.chosenNow id)
  otherwise : (∀ id tx, c.1 ≠ .tunnel id tx) → c.1 = .cloud
  contacted : c.2.contacts.map Contact.target = [toTarget c.1] ∨ (c.2.contacts = [] ∧
    (q.body = none ∨ (∃ id tx, c.1 = .tunnel id tx ∧ viaTunnel = .unsent) ∨
      (c.1 = .cloud ∧ C.uri (C.target q) = false)))
  labelled : ∀ resp, c.2.result = some (.ok resp) →
    c.2.contacts.map Contact.target = [toTarget c.1] ∧
    Produced viaTunnel viaCloud resp (toTarget c.1) ∧
    ∀ name, valuesOf resp.headers "set-cookie" = [utf8 (tunnelCookie name)] ↔
      name = (toTarget c.1).name

variable {env : Env} {C : CloudBackend} {q : ProxiedRequest} {viaTunnel : TunnelAnswer}
  {viaCloud : CloudAnswer} {a : Attempt} {resp : Response} {id value : String}

theorem healthy_iff {health : TunnelHealthMap} {now : Nat} :
    healthy health now id = true ↔ Usable health now id := by
  unfold healthy Usable
  cases hl : health.lookup id with
  | none => simp only [reduceCtorEq, false_implies, implies_true]
  | some h => simp only [Option.some.injEq, forall_eq', Bool.and_eq_true, decide_eq_true_eq,
      ne_eq, decide_not, Bool.not_eq_true', decide_eq_false_iff_not]

theorem tunnelCookie_injective {b : String}
    (h : utf8 (tunnelCookie id) = utf8 (tunnelCookie b)) : id = b := by
  rw [utf8_tunnelCookie, utf8_tunnelCookie, List.append_cancel_left_eq,
    List.append_cancel_right_eq] at h
  exact utf8_injective h

/-- The cookie is put on a response that was there. -/
theorem labelled_eq_ok (h : (a.labelled env value).result = some (.ok resp)) :
    ∃ built, a.result = some (.ok built) ∧ insertTunnelCookie env built value = some resp := by
  unfold Attempt.labelled at h
  rcases hr : a.result with _ | r
  · simp only [hr, reduceCtorEq] at h
  · cases r with
    | error code => simp only [hr, Option.some.injEq, reduceCtorEq] at h
    | ok built =>
        simp only [hr, Option.map_eq_some_iff, Except.ok.injEq, exists_eq_right] at h
        exact ⟨built, rfl, h⟩

/-- Nothing but a header changes. -/
theorem insertTunnelCookie_frame {built : Response}
    (h : insertTunnelCookie env built value = some resp) :
    resp.status = built.status ∧ resp.body = built.body := by
  rw [← (insertTunnelCookie_eq_some_iff.mp h).2]
  exact ⟨rfl, rfl⟩

/-- The cookies of a response that was labelled. -/
theorem cookies_of_labelled (h : (a.labelled env value).result = some (.ok resp))
    (name : String) :
    valuesOf resp.headers "set-cookie" = [utf8 (tunnelCookie name)] ↔ name = value := by
  rcases labelled_eq_ok h with ⟨built, _, hinsert⟩
  rw [valuesOf_insertTunnelCookie hinsert, List.singleton_inj]
  constructor
  · intro heq
    exact (tunnelCookie_injective heq).symm
  · intro heq
    rw [heq]

/-! ### The two ways to a backend -/

/-- A tunnel is contacted unless the body cannot be read or its queue is
    gone. -/
theorem contacts_forwardViaTunnel (env : Env) (id : String) (q : ProxiedRequest)
    (viaTunnel : TunnelAnswer) :
    (forwardViaTunnel env id q viaTunnel).contacts.map Contact.target = [.tunnel id] ∨
      ((forwardViaTunnel env id q viaTunnel).contacts = [] ∧
        (q.body = none ∨ viaTunnel = .unsent)) := by
  unfold forwardViaTunnel
  cases q.body with
  | none => exact Or.inr ⟨rfl, Or.inl rfl⟩
  | some body =>
      cases viaTunnel with
      | unsent => exact Or.inr ⟨rfl, Or.inr rfl⟩
      | answered | dropped | timedOut => exact Or.inl rfl

/-- A response is what the client of the tunnel has answered. -/
theorem result_forwardViaTunnel
    (h : (forwardViaTunnel env id q viaTunnel).result = some (.ok resp)) :
    (forwardViaTunnel env id q viaTunnel).contacts.map Contact.target = [.tunnel id] ∧
      ∃ http, viaTunnel = .answered http ∧ resp.status = http.status ∧ resp.body = http.body := by
  unfold forwardViaTunnel at h ⊢
  cases hb : q.body with
  | none => simp only [hb, Option.some.injEq, reduceCtorEq] at h
  | some body =>
      cases viaTunnel with
      | answered http =>
          refine ⟨rfl, http, rfl, ?_⟩
          simp only [hb] at h
          rw [← (buildResponse_eq_ok_iff.mp h).2.2.2]
          exact ⟨rfl, rfl⟩
      | unsent | dropped | timedOut => simp only [hb, Option.some.injEq, reduceCtorEq] at h

/-- The cloud is contacted unless the body cannot be read or the target is no
    URI. -/
theorem contacts_forwardToCloud (env : Env) (C : CloudBackend) (isSticky : Bool)
    (q : ProxiedRequest) (viaCloud : CloudAnswer) :
    (forwardToCloud env C isSticky q viaCloud).contacts.map Contact.target = [.cloud] ∨
      ((forwardToCloud env C isSticky q viaCloud).contacts = [] ∧
        (q.body = none ∨ C.uri (C.target q) = false)) := by
  unfold forwardToCloud
  cases q.body with
  | none => exact Or.inr ⟨rfl, Or.inl rfl⟩
  | some body =>
      cases hu : C.uri (C.target q) with
      | true => exact Or.inl rfl
      | false => exact Or.inr ⟨rfl, Or.inr rfl⟩

/-- A response is what the cloud has answered. -/
theorem result_forwardToCloud {isSticky : Bool}
    (h : (forwardToCloud env C isSticky q viaCloud).result = some (.ok resp)) :
    (forwardToCloud env C isSticky q viaCloud).contacts.map Contact.target = [.cloud] ∧
      ∃ res, viaCloud = .answered res ∧ resp.status = res.status ∧ resp.body = res.body := by
  unfold forwardToCloud at h ⊢
  cases hb : q.body with
  | none => simp only [hb, Option.some.injEq, reduceCtorEq] at h
  | some body =>
      cases hu : C.uri (C.target q) with
      | false => simp only [hb, hu, Bool.false_eq_true, if_false, Option.some.injEq,
          reduceCtorEq] at h
      | true =>
          refine ⟨rfl, ?_⟩
          simp only [hb, hu, if_true] at h
          cases viaCloud with
          | answered res =>
              refine ⟨res, rfl, ?_⟩
              -- With or without a cookie of its own, the rest is the answer's.
              cases isSticky with
              | true =>
                  simp only [if_true, Option.some.injEq, Except.ok.injEq] at h
                  rw [← h]
                  exact ⟨rfl, rfl⟩
              | false =>
                  simp only [Bool.false_eq_true, if_false, Option.ite_none_right_eq_some,
                    Option.some.injEq, Except.ok.injEq] at h
                  rw [← h.2]
                  exact ⟨rfl, rfl⟩
          | cutShort | failed | timedOut => simp only [Option.some.injEq, reduceCtorEq] at h

section Calls

variable {τ : Type} {v : Snapshots τ} {tx : τ}

/-- A call that gives its request to a usable tunnel. -/
theorem truthful_tunnel
    (husable : (getCookieValue q.headers "tunnel" = some id ∧ v.tunnels.lookup id = some tx ∧
        Usable v.health v.now id) ∨
      (v.bestTunnels.lookup id = some tx ∧ Usable v.chosenHealth v.chosenNow id)) :
    Truthful C v q viaTunnel viaCloud
      (Backend.tunnel id tx, (forwardViaTunnel env id q viaTunnel).labelled env id) where
  usable := by
    intro id' tx' heq
    rw [Backend.tunnel.injEq] at heq
    rw [← heq.1, ← heq.2]
    exact husable
  otherwise := fun hne => absurd rfl (hne id tx)
  contacted := by
    rcases contacts_forwardViaTunnel env id q viaTunnel with hsent | ⟨hnone, hbody | hunsent⟩
    · exact Or.inl hsent
    · exact Or.inr ⟨hnone, Or.inl hbody⟩
    · exact Or.inr ⟨hnone, Or.inr (Or.inl ⟨id, tx, rfl, hunsent⟩)⟩
  labelled := by
    intro resp hresp
    rcases labelled_eq_ok hresp with ⟨built, hbuilt, hinsert⟩
    rcases result_forwardViaTunnel hbuilt with ⟨hsent, http, hans, hstatus, hbody⟩
    have hframe := insertTunnelCookie_frame hinsert
    exact ⟨hsent, ⟨http, hans, hframe.1.trans hstatus, hframe.2.trans hbody⟩,
      cookies_of_labelled hresp⟩

/-- A call that gives it to the cloud. -/
theorem truthful_cloud : Truthful C v q viaTunnel viaCloud
    ((Backend.cloud : Backend τ),
      (forwardToCloud env C false q viaCloud).labelled env "cloud") where
  usable := fun id' tx' heq => by simp only [reduceCtorEq] at heq
  otherwise := fun _ => rfl
  contacted := by
    rcases contacts_forwardToCloud env C false q viaCloud with hsent | ⟨hnone, hbody | huri⟩
    · exact Or.inl hsent
    · exact Or.inr ⟨hnone, Or.inl hbody⟩
    · exact Or.inr ⟨hnone, Or.inr (Or.inr ⟨rfl, huri⟩)⟩
  labelled := by
    intro resp hresp
    rcases labelled_eq_ok hresp with ⟨built, hbuilt, hinsert⟩
    rcases result_forwardToCloud hbuilt with ⟨hsent, res, hans, hstatus, hbody⟩
    have hframe := insertTunnelCookie_frame hinsert
    exact ⟨hsent, ⟨res, hans, hframe.1.trans hstatus, hframe.2.trans hbody⟩,
      cookies_of_labelled hresp⟩

/-- Whatever the tables, the health maps and the request are, and whatever
    comes of it at the backends: a call is truthful. -/
theorem proxyHandler_truthful (env : Env) (C : CloudBackend) (v : Snapshots τ)
    (q : ProxiedRequest) (viaTunnel : TunnelAnswer) (viaCloud : CloudAnswer) :
    Truthful C v q viaTunnel viaCloud (proxyHandler env C v q viaTunnel viaCloud) := by
  unfold proxyHandler
  rcases hp : preferredTunnel v.tunnels v.health v.now q.headers with _ | ⟨prefId, tx⟩
  · rcases hc : chooseBestTunnel v.bestTunnels v.bestHealth (subdomainOf q.headers) with
      _ | ⟨chosenId, tx⟩
    · exact truthful_cloud
    · -- The ranking may have let an unhealthy tunnel through.
      by_cases hh : healthy v.chosenHealth v.chosenNow chosenId = true
      · simp only [hh, if_true]
        exact truthful_tunnel (Or.inr ⟨(chooseBestTunnel_matches hc).2, healthy_iff.mp hh⟩)
      · simp only [hh, Bool.false_eq_true, if_false]
        exact truthful_cloud
  · have hpref := preferredTunnel_eq_some_iff.mp hp
    exact truthful_tunnel (Or.inl ⟨hpref.1, hpref.2.1, healthy_iff.mp hpref.2.2⟩)

end Calls

end Relay

end Rathole
