import Rathole.Relay.HealthRecords

/-!
# Tunnels the Relay Has Not Heard Of

`proxy_handler` uses a tunnel with an entry in `health_data` only if the entry
was written less than `STALE_THRESHOLD` ago. Besides the reports of its client
the outcomes of requests are what writes it. So a tunnel that goes stale while
no request is under way to it is in a trap: no request is sent to it because
it is stale, and it stays stale because no request is sent to it. Only a
report of its client gets it out, and neither its cookie nor the lack of
another tunnel does.

## Main definitions

* `Relay.Stale`: The entry is too old to be used.
* `Relay.Silent`: No report of the tunnel's client is taken down.
* `Relay.Trapped`: The tunnel is stale, and no request is under way to it.

## Theorems

* `trapped_of_step`: A silent step leaves a trapped tunnel trapped.
* `stale_unused`: Without a report a trapped tunnel is never used again.
-/

namespace Rathole

open Numbered Proxy Transition

namespace Relay

/-- The entry of the tunnel is `e`, and it is too old to be used. -/
def Stale (s : Relay) (id : String) (e : TunnelHealth) : Prop :=
  s.health.lookup id = some e ∧ e.lastUpdate + staleThreshold ≤ s.now

/-- No report about the tunnel is taken down. -/
def Silent (env : Env) (id : String) (s : Relay) (a : Action) : Prop :=
  ∀ m status, s.mark env a = some m → m.verdict = .report status → m.id ≠ id

/-- No request of `proxy_handler` is on its way to the tunnel. -/
def Unused (s : Relay) (id : String) : Prop :=
  ∀ (r : Nat) (q : Request) (c : Call), s.requests[r]? = some q → q.entry = .proxy →
    q.pc.call = some c → c.id ≠ id

/-- The tunnel is stale, and nothing is under way that could change it. -/
structure Trapped (s : Relay) (id : String) (e : TunnelHealth) : Prop where
  failing : FailingProxy s
  stale : s.Stale id e
  unused : s.Unused id

variable {env : Env} {s t : Relay} {a : Action} {id : String} {e : TunnelHealth}

theorem RequestPc.call_of_uncounted {pc : RequestPc} {c : Call} (h : pc.uncounted = some c) :
    pc.call = some c := by
  cases pc with
  | waiting _ _ | failing _ _ => exact h
  | _ => simp only [RequestPc.uncounted, reduceCtorEq] at h

theorem not_healthy_of_stale (h : s.Stale id e) : healthy s.health s.now id = false := by
  have hold : ¬ s.now - e.lastUpdate < staleThreshold := by
    have hle := h.2
    omega
  simp only [healthy, h.1, hold, decide_false, Bool.and_false]

/-- Nothing is written about a tunnel that is unused and silent. -/
theorem mark_of_trapped (h : Trapped s id e) (hs : Silent env id s a)
    (hstep : step env s a = some t) {m : Mark} (hm : s.mark env a = some m) : m.id ≠ id := by
  rcases hr : m.handler with _ | r
  · rcases hv : m.verdict with ⟨r, o⟩ | status
    · simp only [Mark.handler, hv, reduceCtorEq] at hr
    · exact hs m status hm hv
  · rcases handler_of_mark h.failing hstep hm hr with ⟨q, _, c, _, hq, hc, he, _⟩
    have hne := h.unused r q c hq he (RequestPc.call_of_uncounted hc)
    -- The mark is about the tunnel of the call.
    cases marks_of_mark hm with
    | @failed r' q' c' code hq' hpc' =>
        rw [Mark.handler, Option.some.injEq] at hr
        rw [hr, hq, Option.some.injEq] at hq'
        rw [hq', hpc', RequestPc.uncounted, Option.some.injEq] at hc
        rw [← hc] at hne
        exact hne
    | @succeeded r' q' c' since res o hq' hpc' =>
        rw [Mark.handler, Option.some.injEq] at hr
        rw [hr, hq, Option.some.injEq] at hq'
        rw [hq', hpc', RequestPc.uncounted, Option.some.injEq] at hc
        rw [← hc] at hne
        exact hne
    | reported => simp only [Mark.handler, reduceCtorEq] at hr

theorem stale_of_step (h : Trapped s id e) (hs : Silent env id s a)
    (hstep : step env s a = some t) : t.Stale id e := by
  refine ⟨?_, Nat.le_trans h.stale.2 (now_le_of_step hstep)⟩
  rw [health_of_step hstep]
  rcases hm : s.mark env a with _ | m
  · rw [healthAfter_of_none hm]
    exact h.stale.1
  · rw [healthAfter_of_some hm, Mark.lookup_write_ne (mark_of_trapped h hs hstep hm).symm]
    exact h.stale.1

/-- What is no routing move of `proxy_handler` begins no call. -/
theorem call_of_unrouted {r : Nat} {q : Request} {pc : RequestPc} {c : Call}
    (hm : PcMove env s r q a pc) (ha : a.routes ≠ some r) (he : q.entry = .proxy)
    (hc : pc.call = some c) : q.pc.call = some c := by
  cases hm with
  | found hpc he' =>
      rw [he] at he'
      simp only [reduceCtorEq] at he'
  | sticky | chosen => exact absurd rfl ha
  | read hpc | unsentProxy hpc | unansweredProxy hpc | expire hpc =>
      rw [hpc]
      exact hc
  | _ => simp only [RequestPc.call, reduceCtorEq] at hc

/-- A call that has begun goes to a tunnel that was found healthy. -/
theorem unused_of_step (h : Trapped s id e) (hstep : step env s a = some t) : t.Unused id := by
  intro r q' c hq' he' hc hid
  rcases pc_of_step hstep hq' with ⟨q, hq, hm⟩ | ⟨_, hfirst⟩
  · have hin := input_of_step hstep hq hq'
    simp only [Request.input, Prod.mk.injEq] at hin
    have he := hin.1.symm.trans he'
    have hunused := h.unused r q
    -- A call that was there before does not go to the tunnel.
    have hold : q.pc.call = some c → False := fun hcall => hunused c hq he hcall hid
    have hill := not_healthy_of_stale h.stale
    by_cases ha : a.routes = some r
    · rcases routes_of_step hstep ha with ⟨p, pc, hp, hroute, hreq⟩
      rw [hq, Option.some.injEq] at hp
      subst hp
      rw [hreq, getElem?_updated hq, Option.some.injEq] at hq'
      rw [← hq'] at hc
      cases hroute with
      | sticky hpc hh | chosen hpc hh =>
          rw [← Option.some.inj hc] at hid
          simp only at hid
          rw [hid, hill] at hh
          simp only [Bool.false_eq_true] at hh
      | _ => simp only [RequestPc.call, reduceCtorEq] at hc
    · cases hm with
      | stay hpc => exact hold (hpc ▸ hc)
      | enroll c' hqc hpc =>
          refine hold ?_
          rw [hqc, RequestPc.call, ← hc]
          rcases hpc with hpc | hpc
          · rw [hpc]
            rfl
          · rw [hpc]
            rfl
      | send c' hqc hpc =>
          refine hold ?_
          rw [hqc, ← hc, hpc]
          rfl
      | discard c' code hqc hpc => simp only [hpc, RequestPc.call, reduceCtorEq] at hc
      | move hm => exact hold (call_of_unrouted hm ha he hc)
  · rw [RequestPc.call_of_first hfirst] at hc
    simp only [reduceCtorEq] at hc

theorem trapped_of_step (h : Trapped s id e) (hs : Silent env id s a)
    (hstep : step env s a = some t) : Trapped t id e :=
  ⟨failingProxy_of_step h.failing hstep, stale_of_step h hs hstep, unused_of_step h hstep⟩

theorem failingProxy_initial : FailingProxy initial := by
  intro r q c code h
  simp only [initial, List.getElem?_nil, reduceCtorEq] at h

/-- From a reachable state on in which a tunnel is stale and no request is on
    its way to it, `proxy_handler` sends no request to it, and its entry stays
    as it is, as long as no report of its client comes in. -/
theorem stale_unused (env : Env) (s t : Relay) (id : String) (e : TunnelHealth)
    (hreach : Reaches (step env) (fun _ _ => True) initial s) (hstale : s.Stale id e)
    (hunused : s.Unused id) (h : Reaches (step env) (Silent env id) s t) :
    t.Stale id e ∧ t.Unused id := by
  have hfailing : FailingProxy s :=
    hreach.invariant (fun _ _ _ hi _ hst => failingProxy_of_step hi hst) failingProxy_initial
  have hstep : ∀ x a y, Trapped x id e → Silent env id x a → step env x a = some y →
      Trapped y id e := fun _ _ _ hi hok hst => trapped_of_step hi hok hst
  have htrapped := h.invariant hstep ⟨hfailing, hstale, hunused⟩
  exact ⟨htrapped.stale, htrapped.unused⟩

/-- A client reports once and then says nothing for half a minute, but keeps
    its websocket open. -/
def reportedOnce : List Action :=
  [.upgrade "a", .first 0 (.message (.text "reg")), .online 0 true, .enlist 0,
    .receive 0 (.message (.text "health")), .elapse staleThreshold]

/-- A request for the tunnel, with its cookie. -/
def asksForIt : List Action :=
  [.arrive .proxy "GET" "/" [("host", [97]), ("cookie", utf8 "tunnel=a")] [], .prefer 0,
    .checkPreferred 0 "u", .choose 0, .rank 0, .checkChosen 0 "v"]

/-- It goes to the cloud, though the tunnel is registered. -/
theorem stale_unused_reportedOnce : ∃ s t e,
    exec (step HealthRecords.knowsHealth) initial reportedOnce = some s ∧
      exec (step HealthRecords.knowsHealth) s asksForIt = some t ∧
      t.requests.map Request.pc = [.cloud] ∧ t.tunnels.lookup "a" = some 0 ∧
      t.Stale "a" e ∧ t.Unused "a" := by
  rcases hs : exec (step HealthRecords.knowsHealth) initial reportedOnce with _ | s
  · exact absurd hs (by decide +kernel)
  · have hbefore : (exec (step HealthRecords.knowsHealth) initial reportedOnce).map (fun s =>
        ((s.health.lookup "a").map TunnelHealth.lastUpdate, s.now, s.requests)) =
        some (some 0, staleThreshold, []) := by decide +kernel
    have hafter : (exec (step HealthRecords.knowsHealth) initial
        (reportedOnce ++ asksForIt)).map (fun t =>
          (t.requests.map Request.pc, t.tunnels.lookup "a")) = some ([.cloud], some 0) := by
      decide +kernel
    rw [exec_append, hs, Option.bind_some] at hafter
    rcases ht : exec (step HealthRecords.knowsHealth) s asksForIt with _ | t
    · simp only [ht, Option.map_none, reduceCtorEq] at hafter
    · simp only [ht, Option.map_some, Option.some.injEq, Prod.mk.injEq] at hafter
      simp only [hs, Option.map_some, Option.some.injEq, Prod.mk.injEq,
        Option.map_eq_some_iff] at hbefore
      rcases hbefore with ⟨⟨e, he, hupdated⟩, hnow, hnone⟩
      have hstale : s.Stale "a" e := ⟨he, by rw [hupdated, hnow, Nat.zero_add]⟩
      have hunused : s.Unused "a" := by
        intro r q c hq
        simp only [hnone, List.getElem?_nil, reduceCtorEq] at hq
      -- Nothing but the request happens, so nothing is reported.
      have hsilent : Reaches (step HealthRecords.knowsHealth)
          (Silent HealthRecords.knowsHealth "a") s t := by
        refine reaches_of_forall asksForIt s t (fun a ha x m status hm hv => ?_) ht
        cases marks_of_mark hm with
        | failed | succeeded => simp only [reduceCtorEq] at hv
        | reported =>
            simp only [asksForIt, List.mem_cons, List.not_mem_nil, reduceCtorEq, or_self] at ha
      exact ⟨s, t, e, rfl, ht, hafter.1, hafter.2,
        stale_unused _ s t "a" e (reaches_of_exec _ _ _ hs) hstale hunused hsilent⟩

end Relay

end Rathole
