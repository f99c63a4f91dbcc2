import Rathole.Relay.Responses

/-!
# A Ledger of Calls

The relay forgets a request once its handler has returned, and what it has
told a client once the message is out. `Ledger` is the relay together with
both: every call that was begun, with the handler that began it, and every
request id that was handed to a websocket, with the tunnel id of that
websocket.

`Distinct` says that no two calls drew the same request id. As calls are only
ever added, it holds all the way to a state if it holds there.

## Main definitions

* `Relay.begun`: The call an action begins.
* `Relay.tells`: The request id an action hands to a client.
* `Ledger`, `Ledger.step`: The relay with its ledger.
* `Ledger.Distinct`: The request ids are pairwise distinct.
* `Ledger.Sound`: What the relay keeps agrees with the ledger.

## Theorems

* `sound_of_reaches`: `Sound` holds in every reachable state.
-/

namespace Rathole

open FairLock Numbered Proxy Transition

/-- Libraries that know two messages: a `Register` with the one token that is
    accepted, and a `Response` to request `u`. -/
def Env.oneResponse : Env :=
  { Env.oneToken with fromStr := fun t =>
      if t = "res" then some (.response "u" { status := 200, headers := [], body := [] })
      else Env.oneToken.fromStr t }

/-- The handler whose action may begin a call. -/
def Action.begins : Action → Option Nat
  | .find r _ | .checkPreferred r _ | .checkChosen r _ => some r
  | _ => none

namespace Relay

/-- The call an action has begun when it leads to `t`. -/
def begun (t : Relay) (a : Action) : List (Nat × Call) :=
  match a.begins with
  | none => []
  | some r => match t.requests[r]? with
    | none => []
    | some q => match q.pc.call with
      | none => []
      | some c => [(r, c)]

/-- The tunnel id of the websocket an action sends a request to, and the id of
    that request. -/
def tells (s : Relay) : Action → List (String × String)
  | .forward n => match s.sockets[n]? with
    | none => []
    | some x => match x.queue with
      | .request requestId _ :: _ => [(x.id, requestId)]
      | _ => []
  | _ => []

end Relay

/-- The relay, the calls that were begun with their handlers, and the request
    ids that were told with the tunnel ids they were told to. -/
structure Ledger where
  relay : Relay
  calls : List (Nat × Call)
  told : List (String × String)

namespace Ledger

/-- No request has come. -/
def initial : Ledger where
  relay := Relay.initial
  calls := []
  told := []

/-- A step of the relay, written into the ledger. -/
def step (env : Env) (g : Ledger) (a : Action) : Option Ledger :=
  (Relay.step env g.relay a).map (fun t => {
    relay := t
    calls := g.calls ++ t.begun a
    told := g.told ++ g.relay.tells a })

/-- No two calls have the same request id. -/
def Distinct (g : Ledger) : Prop := (g.calls.map (fun p => p.2.requestId)).Nodup

instance (g : Ledger) : Decidable g.Distinct := by
  unfold Distinct
  infer_instance

/-- Every call of a handler is in the ledger, and every entry of `responses`
    is that of a call. A handler that has put its sender there and still
    listens to an empty oneshot has its entry. -/
structure Sound (g : Ledger) : Prop where
  call : ∀ (r : Nat) (q : Request) (c : Call), g.relay.requests[r]? = some q →
    q.pc.call = some c → (r, c) ∈ g.calls
  entry : ∀ requestId r, g.relay.responses.lookup requestId = some r →
    ∃ c, (r, c) ∈ g.calls ∧ c.requestId = requestId
  waiting : ∀ (r : Nat) (q : Request) (c : Call), g.relay.requests[r]? = some q →
    q.pc.enrolled = some c → q.Listening → q.answer = .empty →
    g.relay.responses.lookup c.requestId = some r

variable {env : Env} {g g' : Ledger} {a : Action} {r : Nat}

theorem relay_of_step (h : step env g a = some g') :
    Relay.step env g.relay a = some g'.relay ∧ g'.calls = g.calls ++ g'.relay.begun a ∧
      g'.told = g.told ++ g.relay.tells a := by
  unfold step at h
  rw [Option.map_eq_some_iff] at h
  rcases h with ⟨t, ht, hg⟩
  rw [← hg]
  exact ⟨ht, rfl, rfl⟩

theorem calls_mono (h : step env g a = some g') {p : Nat × Call} (hp : p ∈ g.calls) :
    p ∈ g'.calls := by
  rw [(relay_of_step h).2.1]
  exact List.mem_append_left _ hp

/-- Distinct ids were distinct before. -/
theorem Distinct.of_step (hd : g'.Distinct) (h : step env g a = some g') : g.Distinct := by
  unfold Distinct at hd ⊢
  rw [(relay_of_step h).2.1, List.map_append] at hd
  exact hd.of_append_left

/-- Calls with one request id are one call. -/
theorem Distinct.call_eq (hd : g.Distinct) {p p' : Nat × Call} (hp : p ∈ g.calls)
    (hp' : p' ∈ g.calls) (hid : p.2.requestId = p'.2.requestId) : p = p' :=
  List.inj_on_of_nodup_map hd hp hp' hid

end Ledger

namespace Relay

variable {env : Env} {s t : Relay} {a : Action} {r : Nat}

/-- The call of a handler that has moved was its call before, or has just
    begun. -/
theorem PcMove.call {q : Request} {pc : RequestPc} {c : Call} (hm : PcMove env s r q a pc)
    (hc : pc.call = some c) : q.pc.call = some c ∨ a.begins = some r := by
  cases hm with
  | found | sticky | chosen => exact Or.inr rfl
  | read hpc | unsentProxy hpc | unansweredProxy hpc | expire hpc =>
      rw [hpc]
      exact Or.inl hc
  | _ => simp only [RequestPc.call, reduceCtorEq] at hc

/-- A handler that moves and still listens had its sender in `responses`
    before. -/
theorem PcMove.enrolled_before {q : Request} {pc : RequestPc} {c : Call}
    (hm : PcMove env s r q a pc) (hc : pc.enrolled = some c) :
    q.pc.enrolled = some c ∧ q.Listening := by
  cases hm with
  | read hpc | unsentProxy hpc | unansweredProxy hpc | expire hpc =>
      refine ⟨?_, ?_⟩
      · rw [hpc]
        exact hc
      · simp only [Request.Listening, hpc]
  | _ => simp only [RequestPc.enrolled, reduceCtorEq] at hc

/-- The call of a handler in the next state is its call in this one, or is
    begun by the action. -/
theorem call_of_step (h : step env s a = some t) {k : Nat} {q' : Request} {c : Call}
    (hq' : t.requests[k]? = some q') (hc : q'.pc.call = some c) :
    (∃ q, s.requests[k]? = some q ∧ q.pc.call = some c) ∨ (k, c) ∈ t.begun a := by
  rcases settled_of_step (fun _ _ hcall => hcall) (fun _ => RequestPc.call_of_first)
    (fun _ => rfl) h hq' hc with ⟨q, hq, hold | hm⟩
  · exact Or.inl ⟨q, hq, hold⟩
  · rcases hm.call hc with hold | hb
    · exact Or.inl ⟨q, hq, hold⟩
    · refine Or.inr ?_
      simp only [begun, hb, hq', hc, List.mem_singleton]

/-- An entry of the next state was there, or is that of a handler that has
    just put its sender into `responses`. -/
theorem pending_entry_of_step (h : step env s a = some t) {requestId : String} {k : Nat}
    (hl : t.responses.lookup requestId = some k) :
    s.responses.lookup requestId = some k ∨
      ∃ q c, s.requests[k]? = some q ∧ q.pc.call = some c ∧ c.requestId = requestId := by
  cases effect_of_step h with
  | handler r ha h =>
      rcases h with ⟨q, pc, lock, health, hq, hm, _, ht⟩ | ⟨_, q, c, pc, hq, hqc, hpc, ht⟩ |
        ⟨_, q, c, x, hq, hqc, _, _, ht⟩ | ⟨_, q, c, code, lock, health, hq, hqc, _, ht⟩ | ht
      · rw [ht] at hl
        exact Or.inl hl
      · rw [ht] at hl
        rcases HashMap.lookup_insert_cases hl with ⟨hid, hk⟩ | ⟨_, hold⟩
        · refine Or.inr ⟨q, c, by rw [hk]; exact hq, ?_, hid.symm⟩
          rw [hqc]
          rfl
        · exact Or.inl hold
      · rw [ht] at hl
        exact Or.inl hl
      · rw [ht] at hl
        have hl' : ((s.moveRequest r q (.returned (.status code)) lock).removeResponse
            c.requestId).responses.lookup requestId = some k := hl
        rw [responses_removeResponse] at hl'
        exact Or.inl (HashMap.lookup_erase_cases hl').2
      · rw [ht] at hl
        exact Or.inl hl
  | arrive q hpc he ha hresp hreq =>
      rw [hresp] at hl
      exact Or.inl hl
  | respond id http r ha hlr hresp hreq =>
      rw [hresp] at hl
      exact Or.inl (HashMap.lookup_erase_cases hl).2
  | quiet hresp hreq hnone =>
      rw [hresp] at hl
      exact Or.inl hl

end Relay

namespace Ledger

variable {env : Env} {g g' : Ledger} {a : Action} {r : Nat}

/-- Calls with one request id are one handler's. -/
theorem Sound.handler_eq (hs : g.Sound) (hd : g.Distinct) {k : Nat} {q q' : Request} {c c' : Call}
    (hq : g.relay.requests[r]? = some q) (hc : q.pc.call = some c)
    (hq' : g.relay.requests[k]? = some q') (hc' : q'.pc.call = some c')
    (hid : c.requestId = c'.requestId) : r = k :=
  congrArg Prod.fst (hd.call_eq (hs.call r q c hq hc) (hs.call k q' c' hq' hc') hid)

/-- A oneshot that is empty after the step, as it was before. -/
theorem Sound.waiting_kept (hs : g.Sound) {k : Nat} {q q' : Request} {c : Call}
    (hq : g.relay.requests[k]? = some q) (hpc : q'.pc = q.pc)
    (he : q'.answer = .empty → q.answer = .empty) (hc : q'.pc.enrolled = some c)
    (hl : q'.Listening) (hempty : q'.answer = .empty) :
    g.relay.responses.lookup c.requestId = some k := by
  rw [hpc] at hc
  refine hs.waiting k q c hq hc ?_ (he hempty)
  unfold Request.Listening at hl ⊢
  rw [← hpc]
  exact hl

/-! A handler that still waits for its answer after a step has its entry: one
lemma for each thing a handler does, and one for a `Response`. -/

section Handlers

variable {t : Relay} {k : Nat} {q' : Request} {c' : Call}

theorem waiting_of_moves (hs : g.Sound) (h : Relay.Moves env g.relay r a t)
    (hq' : t.requests[k]? = some q') (hc' : q'.pc.enrolled = some c') (hl' : q'.Listening)
    (he' : q'.answer = .empty) : t.responses.lookup c'.requestId = some k := by
  rcases h with ⟨q, pc, lock, health, hq, hm, _, ht⟩
  rw [ht] at hq' ⊢
  rcases getElem?_set_cases hq' with ⟨hk, heq⟩ | ⟨_, hk⟩
  · rw [heq] at hc' he'
    rw [hk]
    rcases hm.enrolled_before hc' with ⟨hc, hl⟩
    exact hs.waiting r q c' hq hc hl he'
  · exact hs.waiting k q' c' hk hc' hl' he'

theorem waiting_of_enrolls (hs : g.Sound) (hd : g.Distinct) (h : Relay.Enrolls g.relay r t)
    (hq' : t.requests[k]? = some q') (hc' : q'.pc.enrolled = some c') (hl' : q'.Listening)
    (he' : q'.answer = .empty) : t.responses.lookup c'.requestId = some k := by
  rcases h with ⟨q, c, pc, hq, hqc, hpc, ht⟩
  rw [ht] at hq'
  have hinsert : t.responses = g.relay.responses.insert c.requestId r := by rw [ht]; rfl
  rw [hinsert]
  rcases getElem?_set_cases hq' with ⟨hk, heq⟩ | ⟨hkr, hk⟩
  · have hcc : c' = c := by
      rw [heq] at hc'
      rcases hpc with hpc | hpc
      · rw [hpc] at hc'
        exact (Option.some.inj hc').symm
      · rw [hpc] at hc'
        exact (Option.some.inj hc').symm
    rw [hcc, hk, AList.lookup_insert]
  · rcases (Relay.insertResponse_same g.relay c.requestId r).requests k q' hk with
      ⟨q0, hq0, hpc0, _, hempty⟩
    have hold := hs.waiting_kept hq0 hpc0 hempty hc' hl' he'
    -- Another call has another id, so its entry is not replaced.
    have hne : c'.requestId ≠ c.requestId := by
      intro hid
      rw [hpc0] at hc'
      exact hkr (hs.handler_eq hd hq0 (RequestPc.call_of_enrolled hc') hq (by rw [hqc]; rfl) hid)
    rw [AList.lookup_insert_ne hne]
    exact hold

theorem waiting_of_sends (hs : g.Sound) (h : Relay.Sends g.relay r t)
    (hq' : t.requests[k]? = some q') (hc' : q'.pc.enrolled = some c') (hl' : q'.Listening)
    (he' : q'.answer = .empty) : t.responses.lookup c'.requestId = some k := by
  rcases h with ⟨q, c, x, hq, hqc, _, _, ht⟩
  rw [ht] at hq' ⊢
  rcases getElem?_set_cases hq' with ⟨hk, heq⟩ | ⟨_, hk⟩
  · rw [heq] at hc' he'
    rw [hk]
    refine hs.waiting r q c' hq ?_ ?_ he'
    · rw [hqc, ← hc']
      rfl
    · simp only [Request.Listening, hqc]
  · exact hs.waiting k q' c' hk hc' hl' he'

theorem waiting_of_discards (hs : g.Sound) (hd : g.Distinct) (h : Relay.Discards g.relay r t)
    (hq' : t.requests[k]? = some q') (hc' : q'.pc.enrolled = some c') (hl' : q'.Listening)
    (he' : q'.answer = .empty) : t.responses.lookup c'.requestId = some k := by
  rcases h with ⟨q, c, code, lock, health, hq, hqc, _, ht⟩
  rw [ht] at hq'
  have herase : t.responses = g.relay.responses.erase c.requestId := by
    rw [ht]
    exact Relay.responses_removeResponse _ _
  rw [herase]
  rcases (Relay.removeResponse_same _ _).requests k q' hq' with ⟨q0, hq0, hpc0, _, hempty⟩
  rcases getElem?_set_cases hq0 with ⟨_, heq⟩ | ⟨hkr, hk⟩
  · -- It has returned and is not at a wait.
    rw [hpc0, heq] at hc'
    simp only [RequestPc.enrolled, reduceCtorEq] at hc'
  · have hold := hs.waiting_kept hk hpc0 hempty hc' hl' he'
    -- Its id is its own, so only its own entry goes.
    have hne : c'.requestId ≠ c.requestId := by
      intro hid
      rw [hpc0] at hc'
      exact hkr (hs.handler_eq hd hk (RequestPc.call_of_enrolled hc') hq (by rw [hqc]; rfl) hid)
    rw [AList.lookup_erase_ne hne]
    exact hold

theorem waiting_of_answer (hp : g.relay.Pending) (hs : g.Sound) {id : String} {http : HttpResponse}
    (hlr : g.relay.responses.lookup id = some r)
    (hq' : (g.relay.answerRequest r http).requests[k]? = some q')
    (hc' : q'.pc.enrolled = some c') (hl' : q'.Listening) (he' : q'.answer = .empty) :
    (g.relay.responses.erase id).lookup c'.requestId = some k := by
  by_cases hkr : k = r
  · -- The handler of the entry got its answer, or does not listen.
    exfalso
    rcases hp.entry id r hlr with ⟨q0, hq0, he0, _⟩
    rw [hkr, Relay.answerRequest_self, hq0, Option.map_some, Option.some.injEq,
      Request.answered] at hq'
    by_cases hans : q0.answer = .empty ∧ q0.Listening
    · rw [if_pos hans] at hq'
      rw [← hq'] at he'
      simp only [reduceCtorEq] at he'
    · rw [if_neg hans] at hq'
      rw [← hq'] at hl'
      exact hans ⟨he0, hl'⟩
  · rw [Relay.answerRequest_ne _ _ hkr] at hq'
    have hold := hs.waiting k q' c' hq' hc' hl' he'
    -- An entry names one handler.
    have hne : c'.requestId ≠ id := by
      intro hid
      rw [hid, hlr, Option.some.injEq] at hold
      exact hkr hold.symm
    rw [AList.lookup_erase_ne hne]
    exact hold

end Handlers

theorem waiting_of_step (hp : g.relay.Pending) (hs : g.Sound) (hd : g.Distinct) {t : Relay}
    (h : Relay.step env g.relay a = some t) {k : Nat} {q' : Request} {c' : Call}
    (hq' : t.requests[k]? = some q') (hc' : q'.pc.enrolled = some c') (hl' : q'.Listening)
    (he' : q'.answer = .empty) : t.responses.lookup c'.requestId = some k := by
  cases Relay.effect_of_step h with
  | handler r ha h =>
      rcases h with hm | ⟨_, hn⟩ | ⟨_, hsend⟩ | ⟨_, hx⟩ | ht
      · exact waiting_of_moves hs hm hq' hc' hl' he'
      · exact waiting_of_enrolls hs hd hn hq' hc' hl' he'
      · exact waiting_of_sends hs hsend hq' hc' hl' he'
      · exact waiting_of_discards hs hd hx hq' hc' hl' he'
      · rw [ht] at hq' ⊢
        exact hs.waiting k q' c' hq' hc' hl' he'
  -- A request that has just come in is not at its wait.
  | arrive q hpc he ha hresp hreq =>
      rw [hreq] at hq'
      rw [hresp]
      rcases getElem?_append_cases hq' with hk | ⟨_, heq⟩
      · exact hs.waiting k q' c' hk hc' hl' he'
      · rw [heq] at hc'
        have hcall := RequestPc.call_of_first hpc
        rw [RequestPc.call_of_enrolled hc'] at hcall
        simp only [reduceCtorEq] at hcall
  | respond id http r ha hlr hresp hreq =>
      rw [hreq] at hq'
      rw [hresp]
      exact waiting_of_answer hp hs hlr hq' hc' hl' he'
  | quiet hresp hreq hnone =>
      rw [hreq] at hq'
      rw [hresp]
      exact hs.waiting k q' c' hq' hc' hl' he'

theorem initial_sound : initial.Sound where
  call := by
    intro r q c hq
    simp only [initial, Relay.initial, List.getElem?_nil, reduceCtorEq] at hq
  entry := by
    intro requestId r hl
    simp only [initial, Relay.initial, AList.lookup_empty, reduceCtorEq] at hl
  waiting := by
    intro r q c hq
    simp only [initial, Relay.initial, List.getElem?_nil, reduceCtorEq] at hq

theorem sound_of_step (hp : g.relay.Pending) (hs : g.Sound) (hd : g.Distinct)
    (h : step env g a = some g') : g'.Sound := by
  rcases relay_of_step h with ⟨ht, hcalls, _⟩
  constructor
  · intro k q' c hq' hc
    rcases Relay.call_of_step ht hq' hc with ⟨q, hq, hold⟩ | hb
    · exact calls_mono h (hs.call k q c hq hold)
    · rw [hcalls]
      exact List.mem_append_right _ hb
  · intro requestId k hl
    rcases Relay.pending_entry_of_step ht hl with hold | ⟨q, c, hq, hc, hid⟩
    · rcases hs.entry requestId k hold with ⟨c, hc, hid⟩
      exact ⟨c, calls_mono h hc, hid⟩
    · exact ⟨c, calls_mono h (hs.call k q c hq hc), hid⟩
  · intro k q' c' hq' hc' hl' he'
    exact waiting_of_step hp hs hd ht hq' hc' hl' he'

/-- What the relay keeps agrees with the ledger, as long as request ids are
    distinct. -/
theorem sound_of_reaches {ok : Ledger → Action → Prop} (h : Reaches (step env) ok initial g)
    (hd : g.Distinct) : g.relay.Pending ∧ g.Sound := by
  induction h with
  | refl => exact ⟨Relay.initial_pending, initial_sound⟩
  | tail _ _ hstep ih =>
      have hd' := hd.of_step hstep
      rcases ih hd' with ⟨hp, hs⟩
      exact ⟨Relay.pending_step hp (relay_of_step hstep).1, sound_of_step hp hs hd' hstep⟩

end Ledger

end Rathole
