import Rathole.Relay.ProxyHandler

/-!
# The Handlers of the Relay as Calls

Every `proxy_handler` of a run of the relay is a call: it gives its request to
the backend that `proxyHandler` does for what the handler has seen on its way.
`Calls` is the relay together with that, the table and the health map as they
were at each of the handler's looks.

## Main definitions

* `routed`: The backend of a call.
* `Snapshots.look`: What an action adds to what its handler has seen.
* `Calls`, `Calls.step`: The relay with what its handlers have seen.
* `Progress`: How far a handler is in its call.

## Theorems

* `proxyHandler_fst`: Where a call gives its request to.
* `progress_of_routes`: A routing move is a part of the call.
* `calls_of_reaches`: The handlers are calls.
-/

namespace Rathole

open Numbered Proxy Transition

namespace Relay

/-- The backend a call gives its request to. -/
def routed {τ : Type} (v : Snapshots τ) (headers : HeaderMap) : Backend τ :=
  match preferredTunnel v.tunnels v.health v.now headers with
  | some (id, tx) => .tunnel id tx
  | none => match chooseBestTunnel v.bestTunnels v.bestHealth (subdomainOf headers) with
    | some (id, tx) => if healthy v.chosenHealth v.chosenNow id then .tunnel id tx else .cloud
    | none => .cloud

theorem proxyHandler_fst {τ : Type} (env : Env) (C : CloudBackend) (v : Snapshots τ)
    (q : ProxiedRequest) (viaTunnel : TunnelAnswer) (viaCloud : CloudAnswer) :
    (proxyHandler env C v q viaTunnel viaCloud).1 = routed v q.headers := by
  unfold proxyHandler routed
  rcases preferredTunnel v.tunnels v.health v.now q.headers with _ | ⟨prefId, tx⟩
  · rcases chooseBestTunnel v.bestTunnels v.bestHealth (subdomainOf q.headers) with
      _ | ⟨chosenId, tx⟩
    · rfl
    · simp only
      split <;> rfl
  · rfl

/-- What a tunnel has answered is returned as the relay's handler does it. -/
theorem labelled_forwardViaTunnel {env : Env} {id : String} {q : ProxiedRequest}
    (hbody : q.body.isSome = true) (res : HttpResponse) :
    ((forwardViaTunnel env id q (.answered res)).labelled env id).result =
      proxyResponse env id res := by
  rcases Option.isSome_iff_exists.mp hbody with ⟨body, hb⟩
  simp only [Attempt.labelled, forwardViaTunnel, hb, proxyResponse]
  rcases buildResponse env res with _ | ⟨code⟩ | ⟨resp⟩
  · rfl
  · rfl
  · rfl

theorem result_of_tunnel {τ : Type} {env : Env} {C : CloudBackend} {v : Snapshots τ}
    {q : ProxiedRequest} {res : HttpResponse} {viaCloud : CloudAnswer} {id : String} {tx : τ}
    (hbody : q.body.isSome = true) (h : routed v q.headers = .tunnel id tx) :
    (proxyHandler env C v q (.answered res) viaCloud).2.result = proxyResponse env id res := by
  rw [← labelled_forwardViaTunnel hbody]
  unfold routed at h
  unfold proxyHandler
  rcases hp : preferredTunnel v.tunnels v.health v.now q.headers with _ | ⟨prefId, tx'⟩
  · rcases hc : chooseBestTunnel v.bestTunnels v.bestHealth (subdomainOf q.headers) with
      _ | ⟨chosenId, tx'⟩
    · simp only [hp, hc, reduceCtorEq] at h
    · by_cases hh : healthy v.chosenHealth v.chosenNow chosenId = true
      · simp only [hp, hc, hh, if_true, Backend.tunnel.injEq] at h
        rw [← h.1]
        simp only [hh, if_true]
      · simp only [hp, hc, hh, Bool.false_eq_true, if_false, reduceCtorEq] at h
  · simp only [hp, Backend.tunnel.injEq] at h
    simp only [h.1]

/-- If nothing changes during a call, it is routed as in the one state. -/
theorem routed_of_still {τ : Type} (tunnels : HashMap String τ) (health : TunnelHealthMap)
    (now : Nat) (headers : HeaderMap) :
    routed ⟨tunnels, health, now, tunnels, health, health, now⟩ headers =
      route tunnels health now headers := rfl

/-- A handler that has seen nothing. -/
def Snapshots.blank : Snapshots Nat where
  tunnels := ∅
  health := ∅
  now := 0
  bestTunnels := ∅
  bestHealth := ∅
  chosenHealth := ∅
  chosenNow := 0

/-- What a handler has seen after an action of its own. -/
def Snapshots.look (v : Snapshots Nat) (s : Relay) : Action → Snapshots Nat
  | .prefer _ => { v with tunnels := s.tunnels }
  | .checkPreferred _ _ => { v with health := s.health, now := s.now }
  | .rank _ => { v with bestTunnels := s.tunnels, bestHealth := s.health }
  | .checkChosen _ _ => { v with chosenHealth := s.health, chosenNow := s.now }
  | _ => v

/-- How far a handler is in its call, by what it has found so far. Once it has
    a backend, that is the backend of the call. -/
def Progress (v : Snapshots Nat) (headers : HeaderMap) : RequestPc → Prop
  | .preferring prefId => getCookieValue headers "tunnel" = some prefId
  | .checkingPreferred prefId tx => getCookieValue headers "tunnel" = some prefId ∧
      v.tunnels.lookup prefId = some tx
  | .choosing | .ranking => preferredTunnel v.tunnels v.health v.now headers = none
  | .checkingChosen id tx => preferredTunnel v.tunnels v.health v.now headers = none ∧
      chooseBestTunnel v.bestTunnels v.bestHealth (subdomainOf headers) = some (id, tx)
  | pc => ∀ b, pc.backend = some b → b = toTarget (routed v headers)

variable {env : Env} {s t : Relay} {a : Action} {k : Nat} {q : Request} {pc : RequestPc}
  {v : Snapshots Nat} {headers : HeaderMap}

/-- A handler that looks at no tunnel any more. -/
theorem progress_of_backend (hpref : pc.preference = none) (hchoosing : pc.isChoosing = false)
    (hb : ∀ b, pc.backend = some b → b = toTarget (routed v headers)) : Progress v headers pc := by
  cases pc with
  | preferring | checkingPreferred => simp only [RequestPc.preference, reduceCtorEq] at hpref
  | choosing | ranking | checkingChosen =>
      simp only [RequestPc.isChoosing, Bool.true_eq_false] at hchoosing
  | _ => exact hb

theorem backend_of_progress (h : Progress v headers pc) {b : Target}
    (hb : pc.backend = some b) : b = toTarget (routed v headers) := by
  cases pc with
  | preferring | checkingPreferred | choosing | ranking | checkingChosen =>
      simp only [RequestPc.backend, RequestPc.call, RequestPc.cookieOf, reduceCtorEq] at hb
  | _ => exact h b hb

/-- A cookie that leads to no tunnel the call can use. -/
theorem preferredTunnel_eq_none {prefId : String}
    (hc : getCookieValue headers "tunnel" = some prefId)
    (h : v.tunnels.lookup prefId = none ∨ healthy v.health v.now prefId = false) :
    preferredTunnel v.tunnels v.health v.now headers = none := by
  rw [Option.eq_none_iff_forall_ne_some]
  rintro ⟨id, tx⟩ hp
  rcases preferredTunnel_eq_some_iff.mp hp with ⟨hc', hl, hh⟩
  rw [hc, Option.some.injEq] at hc'
  rw [← hc'] at hl hh
  rcases h with h | h
  · rw [h] at hl
    simp only [reduceCtorEq] at hl
  · rw [h] at hh
    simp only [Bool.false_eq_true] at hh

theorem preferredTunnel_of_no_cookie (hc : getCookieValue headers "tunnel" = none) :
    preferredTunnel v.tunnels v.health v.now headers = none := by
  rw [preferredTunnel, hc]

/-- A routing move is a part of the call. -/
theorem progress_of_routes (h : Progress v q.headers q.pc) (hm : Routes s k q a pc) :
    Progress (v.look s a) q.headers pc := by
  cases hm with
  | registered hpc htx =>
      rw [hpc] at h
      exact ⟨h, htx⟩
  | unregistered hpc htx =>
      rw [hpc] at h
      exact preferredTunnel_eq_none h (Or.inl htx)
  | sticky hpc hh =>
      rw [hpc] at h
      intro b hb
      have hpref := preferredTunnel_eq_some_iff.mpr ⟨h.1, h.2, hh⟩
      rw [← Option.some.inj hb, routed, Snapshots.look, hpref]
      rfl
  | unhealthy hpc hh =>
      rw [hpc] at h
      exact preferredTunnel_eq_none h.1 (Or.inr hh)
  | choose hpc =>
      rw [hpc] at h
      exact h
  | ranked hpc hbest =>
      rw [hpc] at h
      exact ⟨h, hbest⟩
  | unranked hpc hbest =>
      rw [hpc] at h
      intro b hb
      rw [← Option.some.inj hb, routed, Snapshots.look]
      simp only [Progress] at h
      simp only [h, hbest]
      rfl
  -- The choice is tested again, with the health map of this look.
  | chosen hpc hh =>
      rw [hpc] at h
      intro b hb
      rw [← Option.some.inj hb, routed, Snapshots.look]
      simp only [h.1, h.2, hh, if_true]
      rfl
  | fallback hpc hh =>
      rw [hpc] at h
      intro b hb
      rw [← Option.some.inj hb, routed, Snapshots.look]
      simp only [h.1, h.2, hh, Bool.false_eq_true, if_false]
      rfl

/-- A request starts at the beginning of its call. -/
theorem progress_firstAwait (entry : Entry) (headers : HeaderMap) :
    Progress v headers (firstAwait entry headers) := by
  rcases firstAwait_cases entry headers with hf | ⟨hf, hc⟩ | ⟨prefId, hf, hc⟩
  · rw [hf]
    exact progress_of_backend rfl rfl (fun b hb => by
      simp only [RequestPc.backend, RequestPc.call, RequestPc.cookieOf, reduceCtorEq] at hb)
  · rw [hf]
    exact preferredTunnel_of_no_cookie hc
  · rw [hf]
    exact hc

end Relay

open Relay

/-- The relay, and what each of its handlers has seen. -/
structure Calls where
  relay : Relay
  seen : Nat → Snapshots Nat

namespace Calls

/-- Nobody has looked at anything yet. -/
def initial : Calls where
  relay := Relay.initial
  seen := fun _ => Snapshots.blank

/-- What handler `k` has seen after an action. -/
def seenAfter (g : Calls) (a : Action) (k : Nat) : Snapshots Nat :=
  if a.routes = some k then (g.seen k).look g.relay a else g.seen k

/-- A step of the relay, put on record. -/
def step (env : Env) (g : Calls) (a : Action) : Option Calls :=
  (Relay.step env g.relay a).map (fun t => { relay := t, seen := g.seenAfter a })

/-- Every handler of the proxy is as far in its call as what it has seen takes
    it, and a response comes from an answer that has one. -/
def Underway (env : Env) (g : Calls) : Prop :=
  ∀ (k : Nat) (q : Request), g.relay.requests[k]? = some q → q.entry = .proxy →
    Progress (g.seen k) q.headers q.pc ∧ ∀ id res, q.pc = .returned (.proxied id res) →
      proxyOutcome env id res = some (.proxied id res)

variable {env : Env} {g g' : Calls} {a : Action} {k : Nat}

theorem step_cases (h : step env g a = some g') :
    Relay.step env g.relay a = some g'.relay ∧ g'.seen = g.seenAfter a := by
  rcases Option.map_eq_some_iff.mp h with ⟨t, ht, rfl⟩
  exact ⟨ht, rfl⟩

/-- A response names the tunnel it was asked for, and is its answer. -/
theorem proxyOutcome_eq_proxied {id id' : String} {res res' : HttpResponse}
    (h : proxyOutcome env id' res' = some (.proxied id res)) : id' = id ∧ res' = res := by
  rcases proxyOutcome_cases h with ho | ⟨code, ho⟩
  · rw [Outcome.proxied.injEq] at ho
    exact ⟨ho.1.symm, ho.2.symm⟩
  · simp only [reduceCtorEq] at ho

/-- A response that is returned comes from an answer that has one. -/
theorem proxied_of_step {s : Relay} {q : Request} {pc : RequestPc} {id : String}
    {res : HttpResponse} (hpc : pc = .returned (.proxied id res))
    (hold : q.pc = pc → proxyOutcome env id res = some (.proxied id res))
    (hm : PcStep env s k q a pc) : proxyOutcome env id res = some (.proxied id res) := by
  -- A handler gets to its response from the answer of its tunnel only.
  cases hm with
  | stay hsame => exact hold hsame.symm
  | enroll c hq hpc' =>
      rcases hpc' with hpc' | hpc'
      · simp only [hpc', reduceCtorEq] at hpc
      · simp only [hpc', reduceCtorEq] at hpc
  | send c hq hpc' | discard c code hq hpc' =>
      simp only [hpc', RequestPc.returned.injEq, reduceCtorEq] at hpc
  | move hm =>
      cases hm with
      | @answered c since res' =>
          have hcookie := cookieOf_tunnelOutcome env res'
          rw [hpc] at hcookie
          simp only [RequestPc.cookieOf, reduceCtorEq] at hcookie
      | answeredProxy hq ha ho =>
          rw [RequestPc.returned.injEq] at hpc
          rw [hpc] at ho
          rcases proxyOutcome_eq_proxied ho with ⟨hid, hres⟩
          rw [hid, hres] at ho
          exact ho
      | cloud hq ho =>
          rw [RequestPc.returned.injEq] at hpc
          rcases ho with ho | ⟨code, ho⟩
          · simp only [ho, reduceCtorEq] at hpc
          · simp only [ho, reduceCtorEq] at hpc
      | _ => simp only [RequestPc.returned.injEq, reduceCtorEq] at hpc

/-- A handler gets on in its call by routing, and is past it otherwise. -/
theorem progress_of_step {t : Relay} {q q' : Request} (ht : Relay.step env g.relay a = some t)
    (hq : g.relay.requests[k]? = some q) (hq' : t.requests[k]? = some q')
    (hm : PcStep env g.relay k q a q'.pc) (he : q.entry = .proxy)
    (hold : Progress (g.seen k) q.headers q.pc) :
    Progress (g.seenAfter a k) q.headers q'.pc := by
  by_cases ha : a.routes = some k
  · rcases Relay.routes_of_step ht ha with ⟨p, pc, hp, hroute, hreq⟩
    rw [hq, Option.some.injEq] at hp
    subst hp
    rw [hreq, getElem?_updated hq, Option.some.injEq] at hq'
    rw [← hq', seenAfter, if_pos ha]
    exact progress_of_routes hold hroute
  · rw [seenAfter, if_neg ha]
    rcases Relay.pc_of_other hm ha with hsame | ⟨hpref, hchoosing⟩
    · rw [hsame]
      exact hold
    · -- The backend it is at is the one it was routed to.
      refine progress_of_backend hpref hchoosing (fun b hb => ?_)
      rcases Relay.backend_of_move hm hb he with hback | hroutes
      · exact backend_of_progress hold hback
      · exact absurd hroutes ha

/-- A step takes every handler on in its call. -/
theorem underway_of_step (hu : Underway env g) (h : step env g a = some g') :
    Underway env g' := by
  rcases step_cases h with ⟨ht, hseen⟩
  intro k q' hq' he
  rw [hseen]
  rcases Relay.pc_of_step ht hq' with ⟨q, hq, hm⟩ | ⟨hnone, _⟩
  · have hin := Relay.input_of_step ht hq hq'
    simp only [Request.input, Prod.mk.injEq] at hin
    have he' := hin.1.symm.trans he
    have hold := hu k q hq he'
    rw [hin.2]
    refine ⟨progress_of_step ht hq hq' hm he' hold.1, fun id res hpc => ?_⟩
    exact proxied_of_step hpc (fun hsame => hold.2 id res (hsame.trans hpc)) hm
  · -- A new handler has just begun, and has returned nothing.
    rw [Relay.first_of_step ht hnone hq']
    refine ⟨progress_firstAwait q'.entry q'.headers, fun id res hpc => ?_⟩
    have hback : (firstAwait q'.entry q'.headers).backend = some (.tunnel id) := by
      rw [hpc]
      rfl
    rw [Relay.backend_firstAwait] at hback
    simp only [reduceCtorEq] at hback

theorem underway_initial (env : Env) : Underway env initial := by
  intro k q hq
  simp only [initial, Relay.initial, List.getElem?_nil, reduceCtorEq] at hq

/-- In every run the handlers of the proxy are calls: a backend that one has
    chosen is the one its call gives the request to, and a tunnel's response
    that one returns is that of its call. -/
theorem calls_of_reaches {ok : Calls → Action → Prop} (h : Reaches (step env) ok initial g)
    {r : Request} (hr : g.relay.requests[k]? = some r) (he : r.entry = .proxy) (C : CloudBackend)
    (q : ProxiedRequest) (hq : q.headers = r.headers) (viaCloud : CloudAnswer) :
    (∀ b answer, r.pc.backend = some b →
      b = toTarget (proxyHandler env C (g.seen k) q answer viaCloud).1) ∧
    ∀ id res, r.pc = .returned (.proxied id res) → q.body.isSome = true →
      ∃ resp, (proxyHandler env C (g.seen k) q (.answered res) viaCloud).2.result =
        some (.ok resp) := by
  have hu : Underway env g :=
    h.invariant (fun _ _ _ hi _ hst => underway_of_step hi hst) (underway_initial env)
  rcases hu k r hr he with ⟨hprogress, hanswer⟩
  have hback : ∀ b, r.pc.backend = some b → b = toTarget (routed (g.seen k) q.headers) := by
    intro b hb
    rw [hq]
    exact backend_of_progress hprogress hb
  refine ⟨fun b answer hb => ?_, fun id res hpc hbody => ?_⟩
  · rw [proxyHandler_fst]
    exact hback b hb
  · have hroute := hback (.tunnel id) (by rw [hpc]; rfl)
    have hout := hanswer id res hpc
    rcases Option.map_eq_some_iff.mp hout with ⟨result, hresult, hof⟩
    rcases hr' : routed (g.seen k) q.headers with ⟨id', tx⟩ | _
    · rw [hr', toTarget, Target.tunnel.injEq] at hroute
      rw [result_of_tunnel hbody hr', ← hroute, hresult]
      cases result with
      | ok resp => exact ⟨resp, rfl⟩
      | error code => simp only [outcomeOf, reduceCtorEq] at hof
    · simp only [hr', toTarget, reduceCtorEq] at hroute

end Calls

end Rathole
