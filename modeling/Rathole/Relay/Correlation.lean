import Rathole.Relay.Ledger

/-!
# Requests and Their Responses

Which `Response` answers which request. A step answers a request when it
completes its oneshot. In every reachable state, and whatever the clients
send, a request is answered by a `Response` with the id of its own call only,
by the first one that comes while its handler listens, and never again; a
`Response` whose handler does not listen any more, or that is no call's,
reaches nobody.

## Main definitions

* `Relay.Answers`: A step answers a request.
* `Ledger.Correlated`: What a step may answer.

## Theorems

* `answer_of_step`: What a step does to a oneshot.
* `responses_correlate`: Every step of a run with distinct request ids is
  correlated.
-/

namespace Rathole

open FairLock Numbered Proxy Transition

/-- The response of a tunnel that a handler returns. -/
def Outcome.response : Outcome → Option HttpResponse
  | .answered res => some res
  | .proxied _ res => some res
  | _ => none

namespace Relay

/-- A step completes the oneshot of handler `r` with `res`. -/
def Answers (s t : Relay) (r : Nat) (res : HttpResponse) : Prop :=
  ∃ q q', s.requests[r]? = some q ∧ t.requests[r]? = some q' ∧ q.answer ≠ .sent res ∧
    q'.answer = .sent res

variable {env : Env} {s t : Relay} {a : Action} {r k : Nat}

theorem Request.listening_running {q : Request} (h : q.Listening) : q.Running := by
  cases hpc : q.pc with
  | returned o => simp only [Request.Listening, hpc] at h
  | dropped => simp only [Request.Listening, hpc] at h
  | _ => simp only [Request.Running, hpc]

/-! ### Oneshots -/

/-- A oneshot is as it was, or it was empty and its sender was dropped. -/
def Dropped (o o' : Oneshot) : Prop := o' = o ∨ (o = .empty ∧ o' = .senderDropped)

theorem answer_of_dropSender {q' : Request} (h : (s.dropSender r).requests[k]? = some q') :
    ∃ q, s.requests[k]? = some q ∧ Dropped q.answer q'.answer := by
  by_cases hk : k = r
  · rw [hk, dropSender_self, Option.map_eq_some_iff] at h
    rcases h with ⟨q, hq, hq'⟩
    refine ⟨q, by rw [hk]; exact hq, ?_⟩
    rw [← hq', Request.withoutSender]
    by_cases he : q.answer = .empty
    · rw [if_pos he]
      exact Or.inr ⟨he, rfl⟩
    · rw [if_neg he]
      exact Or.inl rfl
  · rw [dropSender_ne s hk] at h
    exact ⟨q', h, Or.inl rfl⟩

theorem answer_of_removeResponse {requestId : String} {q' : Request}
    (h : (s.removeResponse requestId).requests[k]? = some q') :
    ∃ q, s.requests[k]? = some q ∧ Dropped q.answer q'.answer := by
  unfold removeResponse at h
  cases hl : s.responses.lookup requestId with
  | none =>
      rw [hl] at h
      exact ⟨q', h, Or.inl rfl⟩
  | some r =>
      rw [hl] at h
      exact answer_of_dropSender h

theorem answer_of_insertResponse {requestId : String} {q' : Request}
    (h : (s.insertResponse requestId r).requests[k]? = some q') :
    ∃ q, s.requests[k]? = some q ∧ Dropped q.answer q'.answer := by
  unfold insertResponse at h
  cases hl : s.responses.lookup requestId with
  | none =>
      rw [hl] at h
      exact ⟨q', h, Or.inl rfl⟩
  | some r' =>
      rw [hl] at h
      by_cases hr : r' = r
      · simp only [if_pos hr] at h
        exact ⟨q', h, Or.inl rfl⟩
      · simp only [if_neg hr] at h
        exact answer_of_dropSender h

theorem answer_of_answerRequest {http : HttpResponse} {q' : Request}
    (h : (s.answerRequest r http).requests[k]? = some q') :
    ∃ q, s.requests[k]? = some q ∧ (q'.answer = q.answer ∨
      (k = r ∧ q.answer = .empty ∧ q.Listening ∧ q'.answer = .sent http)) := by
  by_cases hk : k = r
  · rw [hk, answerRequest_self, Option.map_eq_some_iff] at h
    rcases h with ⟨q, hq, hq'⟩
    refine ⟨q, by rw [hk]; exact hq, ?_⟩
    rw [← hq', Request.answered]
    by_cases he : q.answer = .empty ∧ q.Listening
    · rw [if_pos he]
      exact Or.inr ⟨hk, he.1, he.2, rfl⟩
    · rw [if_neg he]
      exact Or.inl rfl
  · rw [answerRequest_ne s http hk] at h
    exact ⟨q', h, Or.inl rfl⟩

/-- A step leaves a oneshot as it is, drops the sender of an empty one, or
    completes an empty one that is listened to with a `Response` that came in
    under the id of its entry. -/
theorem answer_of_step (h : step env s a = some t) {q' : Request}
    (hq' : t.requests[k]? = some q') :
    (∃ q, s.requests[k]? = some q ∧ (Dropped q.answer q'.answer ∨
      ∃ requestId http, a.response env = some (requestId, http) ∧
        s.responses.lookup requestId = some k ∧ q.answer = .empty ∧ q.Listening ∧
        q'.answer = .sent http)) ∨
      (s.requests[k]? = none ∧ q'.answer = .empty) := by
  have same : ∀ {q : Request}, s.requests[k]? = some q → q'.answer = q.answer →
      (∃ q, s.requests[k]? = some q ∧ (Dropped q.answer q'.answer ∨
        ∃ requestId http, a.response env = some (requestId, http) ∧
          s.responses.lookup requestId = some k ∧ q.answer = .empty ∧ q.Listening ∧
          q'.answer = .sent http)) ∨
        (s.requests[k]? = none ∧ q'.answer = .empty) :=
    fun hq ha => Or.inl ⟨_, hq, Or.inl (Or.inl ha)⟩
  cases effect_of_step h with
  | handler r ha h =>
      rcases h with ⟨q, pc, lock, health, hq, hm, _, ht⟩ | ⟨_, q, c, pc, hq, _, _, ht⟩ |
        ⟨_, q, c, x, hq, _, _, _, ht⟩ | ⟨_, q, c, code, lock, health, hq, _, _, ht⟩ | ht
      · rw [ht] at hq'
        rcases getElem?_set_cases hq' with ⟨hk, heq⟩ | ⟨_, hk⟩
        · exact same (by rw [hk]; exact hq) (by rw [heq])
        · exact same hk rfl
      · rw [ht] at hq'
        rcases getElem?_set_cases hq' with ⟨hk, heq⟩ | ⟨_, hk⟩
        · exact same (by rw [hk]; exact hq) (by rw [heq])
        · -- An entry that is replaced drops the sender of another handler.
          rcases answer_of_insertResponse hk with ⟨q0, hq0, hd⟩
          exact Or.inl ⟨q0, hq0, Or.inl hd⟩
      · rw [ht] at hq'
        rcases getElem?_set_cases hq' with ⟨hk, heq⟩ | ⟨_, hk⟩
        · exact same (by rw [hk]; exact hq) (by rw [heq])
        · exact same hk rfl
      · rw [ht] at hq'
        -- The entry that is taken out drops the sender it holds.
        rcases answer_of_removeResponse hq' with ⟨q0, hq0, hd⟩
        rcases getElem?_set_cases hq0 with ⟨hk, heq⟩ | ⟨_, hk⟩
        · rw [heq] at hd
          exact Or.inl ⟨q, by rw [hk]; exact hq, Or.inl hd⟩
        · exact Or.inl ⟨q0, hk, Or.inl hd⟩
      · rw [ht] at hq'
        exact same hq' rfl
  | arrive q hpc he ha hresp hreq =>
      rw [hreq] at hq'
      rcases getElem?_append_cases hq' with hk | ⟨hk, heq⟩
      · exact same hk rfl
      · refine Or.inr ⟨?_, by rw [heq]; exact he⟩
        rw [hk]
        exact List.getElem?_eq_none (Nat.le_refl _)
  -- Only here a oneshot is completed, and only that of the entry.
  | respond requestId http r ha hl hresp hreq =>
      rw [hreq] at hq'
      rcases answer_of_answerRequest hq' with ⟨q, hq, hsame | ⟨hk, he, hlisten, hsent⟩⟩
      · exact same hq hsame
      · rw [← hk] at hl
        exact Or.inl ⟨q, hq, Or.inr ⟨requestId, http, ha, hl, he, hlisten, hsent⟩⟩
  | quiet hresp hreq hnone =>
      rw [hreq] at hq'
      exact same hq' rfl

/-- A request that is answered listened to an empty oneshot, and its entry is
    that of the `Response`. -/
theorem cases_of_answers {res : HttpResponse} (h : step env s a = some t)
    (hans : Answers s t r res) : ∃ q requestId, s.requests[r]? = some q ∧ q.Listening ∧
      a.response env = some (requestId, res) ∧ s.responses.lookup requestId = some r := by
  rcases hans with ⟨q, q', hq, hq', hne, hsent⟩
  rcases answer_of_step h hq' with
    ⟨q0, hq0, hd | ⟨id, http, ha, hl, _, hlisten, hsent'⟩⟩ | ⟨hnone, _⟩
  · rw [hq, Option.some.injEq] at hq0
    rw [← hq0, hsent] at hd
    rcases hd with hd | ⟨_, hd⟩
    · exact absurd hd.symm hne
    · simp only [reduceCtorEq] at hd
  · rw [hsent, Oneshot.sent.injEq] at hsent'
    rw [hsent']
    exact ⟨q0, id, hq0, hlisten, ha, hl⟩
  · rw [hq] at hnone
    simp only [reduceCtorEq] at hnone

/-! ### Requests do not go away -/

theorem unanswering_length :
    Unanswering (fun s t => t.requests.length = s.requests.length) where
  refl := fun _ => rfl
  answer := fun _ _ _ => List.length_set
  maps := fun _ _ h => h

theorem length_le_of_step (h : step env s a = some t) :
    s.requests.length ≤ t.requests.length := by
  cases effect_of_step h with
  | handler r ha h =>
      refine Nat.le_of_eq ?_
      rcases h with ⟨q, pc, lock, health, _, _, _, ht⟩ | ⟨_, q, c, pc, _, _, _, ht⟩ |
        ⟨_, q, c, x, _, _, _, _, ht⟩ | ⟨_, q, c, code, lock, health, _, _, _, ht⟩ | ht
      · rw [ht]
        exact List.length_set.symm
      · rw [ht]
        exact (List.length_set.trans (unanswering_length.insertResponse s c.requestId r)).symm
      · rw [ht]
        exact List.length_set.symm
      · rw [ht]
        exact ((unanswering_length.removeResponse _ _).trans List.length_set).symm
      · rw [ht]
  | arrive q hpc he ha hresp hreq =>
      rw [hreq, List.length_append]
      exact Nat.le_add_right _ _
  | respond requestId http r ha hl hresp hreq =>
      rw [hreq]
      exact (unanswering_length.answerRequest s r http).ge
  | quiet hresp hreq hnone => rw [hreq]

/-- A completed oneshot stays as it is. -/
theorem sent_of_step (h : step env s a = some t) {q : Request} {res : HttpResponse}
    (hq : s.requests[k]? = some q) (hsent : q.answer = .sent res) :
    ∃ q', t.requests[k]? = some q' ∧ q'.answer = .sent res := by
  have hlt : k < t.requests.length :=
    Nat.lt_of_lt_of_le (List.getElem?_eq_some_iff.mp hq).fst (length_le_of_step h)
  have hq' := List.getElem?_eq_getElem hlt
  refine ⟨t.requests[k], hq', ?_⟩
  rcases answer_of_step h hq' with ⟨q0, hq0, hd | ⟨_, _, _, _, he, _⟩⟩ | ⟨hnone, _⟩
  · rw [hq, Option.some.injEq] at hq0
    rw [← hq0, hsent] at hd
    rcases hd with hd | ⟨hd, _⟩
    · exact hd
    · simp only [reduceCtorEq] at hd
  · rw [hq, Option.some.injEq] at hq0
    rw [← hq0, hsent] at he
    simp only [reduceCtorEq] at he
  · rw [hq] at hnone
    simp only [reduceCtorEq] at hnone

/-! ### What handlers return -/

/-- A response that a handler returns is the one its oneshot was completed
    with. -/
def Faithful (s : Relay) : Prop :=
  ∀ (r : Nat) (q : Request) (o : Outcome) (res : HttpResponse), s.requests[r]? = some q →
    q.pc = .returned o → o.response = some res → q.answer = .sent res

theorem response_of_tunnelOutcome {res res' : HttpResponse}
    (h : (tunnelOutcome env res).response = some res') : res = res' := by
  rcases tunnelOutcome_cases env res with ho | ho
  · rw [ho] at h
    exact Option.some.inj h
  · simp only [ho, Outcome.response, reduceCtorEq] at h

theorem response_of_proxyOutcome {id : String} {res res' : HttpResponse} {o : Outcome}
    (ho : proxyOutcome env id res = some o) (h : o.response = some res') : res = res' := by
  rcases proxyOutcome_cases ho with rfl | ⟨code, rfl⟩
  · exact Option.some.inj h
  · simp only [Outcome.response, reduceCtorEq] at h

/-- A handler returns a response only if its oneshot was completed with it. -/
theorem PcMove.response {q : Request} {o : Outcome} {res : HttpResponse}
    (hm : PcMove env s r q a (.returned o)) (ho : o.response = some res) :
    q.answer = .sent res := by
  cases hm with
  | answered hpc ha =>
      rw [ha, response_of_tunnelOutcome ho]
  | answeredProxy hpc ha hout =>
      rw [ha, response_of_proxyOutcome hout ho]
  | cloud hpc hout =>
      rcases hout with hout | ⟨code, hout⟩
      · rw [hout] at ho
        simp only [Outcome.response, reduceCtorEq] at ho
      · rw [hout] at ho
        simp only [Outcome.response, reduceCtorEq] at ho
  | _ => simp only [Outcome.response, reduceCtorEq] at ho

theorem faithful_step (hf : Faithful s) (h : step env s a = some t) : Faithful t := by
  intro k q' o res hq' hpc ho
  have hold : ∃ q, s.requests[k]? = some q ∧ q.answer = .sent res := by
    rcases pc_of_step h hq' with ⟨q, hq, hm⟩ | ⟨_, hfirst⟩
    · refine ⟨q, hq, ?_⟩
      cases hm with
      -- It had returned before.
      | stay hstay =>
          rw [hstay] at hpc
          exact hf k q o res hq hpc ho
      -- It returns now, with what its oneshot held.
      | move hm =>
          rw [hpc] at hm
          exact hm.response ho
      | enroll c hqc hpc' =>
          rw [hpc] at hpc'
          simp only [reduceCtorEq, or_self] at hpc'
      | send c hqc hpc' =>
          rw [hpc] at hpc'
          simp only [reduceCtorEq] at hpc'
      | discard c code hqc hpc' =>
          rw [hpc, RequestPc.returned.injEq] at hpc'
          rw [hpc'] at ho
          simp only [Outcome.response, reduceCtorEq] at ho
    · rw [hpc] at hfirst
      simp only [RequestPc.isFirst, Bool.false_eq_true] at hfirst
  rcases hold with ⟨q, hq, hsent⟩
  rcases sent_of_step h hq hsent with ⟨q0, hq0, hans⟩
  rw [hq', Option.some.injEq] at hq0
  rw [hq0]
  exact hans

theorem initial_faithful : Faithful initial := by
  intro r q o res hq
  simp only [initial, List.getElem?_nil, reduceCtorEq] at hq

end Relay

namespace Ledger

open Relay

/-- What a step may answer. -/
structure Correlated (env : Env) (g : Ledger) (a : Action) (g' : Ledger) : Prop where
  /-- A request is answered by a `Response` with the id of its own call. -/
  own : ∀ r res, Answers g.relay g'.relay r res → ∃ q c, g.relay.requests[r]? = some q ∧
    q.pc.call = some c ∧ a.response env = some (c.requestId, res)
  /-- A `Response` answers one request. -/
  single : ∀ r r' res res', Answers g.relay g'.relay r res → Answers g.relay g'.relay r' res' →
    r = r'
  /-- What a request is answered with does not change. -/
  once : ∀ (r : Nat) (q : Request) (res : HttpResponse), g.relay.requests[r]? = some q →
    q.answer = .sent res → ∃ q', g'.relay.requests[r]? = some q' ∧ q'.answer = .sent res
  /-- The first `Response` that comes while the handler listens answers. -/
  first : ∀ (r : Nat) (q : Request) (c : Call) (http : HttpResponse),
    g.relay.requests[r]? = some q → q.pc.enrolled = some c → q.Listening → q.answer = .empty →
    a.response env = some (c.requestId, http) → Answers g.relay g'.relay r http
  /-- A `Response` for a call whose handler does not listen answers nothing. -/
  late : ∀ (r : Nat) (q : Request) (c : Call) (http : HttpResponse), (r, c) ∈ g.calls →
    g.relay.requests[r]? = some q → ¬ q.Listening → a.response env = some (c.requestId, http) →
    g'.relay.requests = g.relay.requests
  /-- So does a `Response` that is no call's. -/
  unknown : ∀ requestId http, a.response env = some (requestId, http) →
    (∀ p ∈ g.calls, p.2.requestId ≠ requestId) → g'.relay.requests = g.relay.requests
  /-- A handler returns the response it was answered with. -/
  returned : Faithful g'.relay

variable {env : Env} {g g' : Ledger} {a : Action}

theorem faithful_of_reaches {ok : Ledger → Action → Prop}
    (h : Reaches (step env) ok initial g) : Faithful g.relay := by
  induction h with
  | refl => exact initial_faithful
  | tail _ _ hstep ih => exact faithful_step ih (relay_of_step hstep).1

/-- A `Response` takes the entry under its id out and is sent to its handler,
    or there is none. -/
theorem respond_of_step {s t : Relay} {requestId : String} {http : HttpResponse}
    (h : Relay.step env s a = some t) (ha : a.response env = some (requestId, http)) :
    (s.responses.lookup requestId = none ∧ t.requests = s.requests) ∨
      ∃ r, s.responses.lookup requestId = some r ∧
        t.requests = (s.answerRequest r http).requests := by
  cases effect_of_step h with
  | handler r hr _ =>
      cases a with
      | receive n m => simp only [Action.handler, reduceCtorEq] at hr
      | _ => simp only [Action.response, reduceCtorEq] at ha
  | arrive q hpc he hnone =>
      rw [ha] at hnone
      simp only [reduceCtorEq] at hnone
  | respond id http' r ha' hl _ hreq =>
      rw [ha, Option.some.injEq, Prod.mk.injEq] at ha'
      rw [← ha'.1] at hl
      rw [← ha'.2] at hreq
      exact Or.inr ⟨r, hl, hreq⟩
  | quiet _ hreq hnone => exact Or.inl ⟨hnone _ _ ha, hreq⟩

/-- A request is answered by a `Response` with the id of its own call. -/
theorem own_of_answers (hp : g.relay.Pending) (h : step env g a = some g') {r : Nat}
    {res : HttpResponse} (hans : Answers g.relay g'.relay r res) :
    ∃ q c, g.relay.requests[r]? = some q ∧ q.pc.call = some c ∧
      a.response env = some (c.requestId, res) := by
  rcases cases_of_answers (relay_of_step h).1 hans with ⟨q, id, hq, hlisten, ha, hl⟩
  rcases hp.entry id r hl with ⟨q0, hq0, _, hown⟩
  rw [hq, Option.some.injEq] at hq0
  rw [← hq0] at hown
  rcases hown (Request.listening_running hlisten) with ⟨c, hc, hid⟩
  rw [← hid] at ha
  exact ⟨q, c, hq, RequestPc.call_of_enrolled hc, ha⟩

/-- In every run with distinct request ids, and whatever the clients send,
    every step is correlated. -/
theorem responses_correlate (env : Env) (g : Ledger)
    (h : Reaches (step env) (fun _ _ => True) initial g) (hd : g.Distinct) (a : Action)
    (g' : Ledger) (hstep : step env g a = some g') : Correlated env g a g' := by
  rcases sound_of_reaches h hd with ⟨hp, hs⟩
  have ht := (relay_of_step hstep).1
  constructor
  · exact fun r res hans => own_of_answers hp hstep hans
  · intro r r' res res' hans hans'
    -- Both are the handler of the entry under the one id of the `Response`.
    rcases cases_of_answers ht hans with ⟨_, id, _, _, ha, hl⟩
    rcases cases_of_answers ht hans' with ⟨_, id', _, _, ha', hl'⟩
    rw [ha, Option.some.injEq, Prod.mk.injEq] at ha'
    rw [← ha'.1, hl, Option.some.injEq] at hl'
    exact hl'
  · exact fun r q res hq hsent => sent_of_step ht hq hsent
  · intro r q c http hq hc hlisten hempty ha
    -- A handler that listens to an empty oneshot still has its entry.
    have hl := hs.waiting r q c hq hc hlisten hempty
    rcases respond_of_step ht ha with ⟨hnone, _⟩ | ⟨r', hl', hreq⟩
    · rw [hl] at hnone
      simp only [reduceCtorEq] at hnone
    · rw [hl, Option.some.injEq] at hl'
      refine ⟨q, q.answered http, hq, ?_, ?_, ?_⟩
      · rw [hreq, ← hl', answerRequest_self, hq, Option.map_some]
      · rw [hempty]
        simp only [ne_eq, reduceCtorEq, not_false_eq_true]
      · rw [Request.answered, if_pos ⟨hempty, hlisten⟩]
  · intro r q c http hcall hq hend ha
    rcases respond_of_step ht ha with ⟨_, hreq⟩ | ⟨r', hl', hreq⟩
    · exact hreq
    · -- The entry under the id is the handler's own.
      rcases hs.entry _ r' hl' with ⟨c', hc', hid⟩
      have hsame := hd.call_eq hc' hcall hid
      rw [Prod.mk.injEq] at hsame
      rw [hreq, hsame.1, answerRequest]
      simp only [hq]
      rw [if_neg (fun hl => hend hl.2)]
  · intro requestId http ha hnone
    rcases respond_of_step ht ha with ⟨_, hreq⟩ | ⟨r', hl', _⟩
    · exact hreq
    · rcases hs.entry _ r' hl' with ⟨c, hc, hid⟩
      exact absurd hid (hnone _ hc)
  · exact faithful_step (faithful_of_reaches h) ht

/-- Tunnel `a` registers, and a request for it is sent to its client. -/
def callSent : List Action :=
  [.upgrade "a", .first 0 (.message (.text "reg")), .online 0 true, .enlist 0,
    .arrive (.tunnel "a") "GET" "x" [] [], .list 0, .find 0 "u", .enroll 0, .send 0, .forward 0,
    .pushed 0 true]

/-- The client's `Response` answers the request. -/
theorem responses_correlate_sent :
    ∃ g g', Correlated .oneResponse g (.receive 0 (.message (.text "res"))) g' ∧
      Answers g.relay g'.relay 0 { status := 200, headers := [], body := [] } := by
  rcases hrun : exec (step .oneResponse) initial callSent with _ | g
  · exact absurd hrun (by decide)
  · have hdist : (exec (step .oneResponse) initial callSent).map
        (fun g => decide g.Distinct) = some true := by decide
    have hsome : ((exec (step .oneResponse) initial callSent).bind
        (fun g => step .oneResponse g (.receive 0 (.message (.text "res"))))).isSome = true := by
      decide
    have hreq : ((exec (step .oneResponse) initial callSent).bind
        (fun g => g.relay.requests[0]?)).map (fun q => (q.pc.enrolled.map Call.requestId,
          decide q.Listening, q.answer)) = some (some "u", true, .empty) := by decide
    rw [hrun] at hdist hsome hreq
    simp only [Option.map_some, Option.some.injEq, decide_eq_true_eq] at hdist
    rw [Option.bind_some, Option.isSome_iff_exists] at hsome
    simp only [Option.bind_some, Option.map_eq_some_iff, Prod.mk.injEq, decide_eq_true_eq] at hreq
    rcases hsome with ⟨g', hstep⟩
    rcases hreq with ⟨q, hq, ⟨c, hc, hid⟩, hlisten, hempty⟩
    have hcorr := responses_correlate .oneResponse g (reaches_of_exec _ _ _ hrun) hdist _ g' hstep
    exact ⟨g, g', hcorr, hcorr.first 0 q c _ hq hc hlisten hempty (by rw [hid]; rfl)⟩

end Ledger

end Rathole
