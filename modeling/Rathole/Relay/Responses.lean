import Rathole.Relay.Inversion

/-!
# The Map of Pending Responses

`responses` and the oneshots behind it are shared by all tasks. A step either
leaves both alone, brings a new request, is an action of a handler, or takes
the entry of a `Response` that came in and completes its oneshot
(`effect_of_step`).

In every reachable state an entry belongs to one request, whose oneshot is
still empty, and if the handler of that request runs, the entry is under the
id of its call (`Pending`). This needs nothing of the request ids: an id that
is drawn twice takes the entry over.

## Main definitions

* `RequestPc.call`, `RequestPc.enrolled`: The call a handler is busy with.
* `Action.response`: The `Response` an action brings in.
* `Relay.Effect`: What a step does to `responses` and the oneshots.
* `Relay.Pending`: Whose the entries of `responses` are.

## Theorems

* `effect_of_step`: The effects are all there are.
* `pending_step`: A step keeps `Pending`.
-/

namespace Rathole

open FairLock Numbered Proxy Transition

/-- The call a handler is busy with once the id of its request is drawn. -/
def RequestPc.call : RequestPc → Option Call
  | .enrolling c | .reading c | .sending c | .waiting c _ | .failing c _ => some c
  | _ => none

/-- The call of a handler that has put its sender into `responses`. -/
def RequestPc.enrolled : RequestPc → Option Call
  | .reading c | .sending c | .waiting c _ | .failing c _ => some c
  | _ => none

/-- The awaits a handler may stand at when its request comes in. -/
def RequestPc.isFirst : RequestPc → Bool
  | .listing | .preferring _ | .choosing => true
  | _ => false

theorem RequestPc.call_of_enrolled {pc : RequestPc} {c : Call} (h : pc.enrolled = some c) :
    pc.call = some c := by
  cases pc with
  | reading _ | sending _ | waiting _ _ | failing _ _ => exact h
  | _ => simp only [RequestPc.enrolled, reduceCtorEq] at h

theorem RequestPc.call_of_first {pc : RequestPc} (h : pc.isFirst = true) : pc.call = none := by
  cases pc with
  | listing | preferring _ | choosing => rfl
  | _ => simp only [RequestPc.isFirst, Bool.false_eq_true] at h

/-- The request id and the content of the `Response` an action brings in. -/
def Action.response (env : Env) : Action → Option (String × HttpResponse)
  | .receive _ (.message (.text t)) => match env.fromStr t with
    | some (.response requestId http) => some (requestId, http)
    | _ => none
  | _ => none

/-- A request after the sender of its oneshot was dropped. -/
def Request.withoutSender (q : Request) : Request :=
  if q.answer = .empty then { q with answer := .senderDropped } else q

/-- A request after `http` was sent to its oneshot. -/
def Request.answered (q : Request) (http : HttpResponse) : Request :=
  if q.answer = .empty ∧ q.Listening then { q with answer := .sent http } else q

namespace Relay

variable {env : Env} {s t : Relay} {a : Action} {r k : Nat}

/-! ### Oneshots -/

theorem dropSender_self (s : Relay) (r : Nat) :
    (s.dropSender r).requests[r]? = s.requests[r]?.map Request.withoutSender := by
  unfold dropSender
  cases hq : s.requests[r]? with
  | none => simp only [hq, Option.map_none]
  | some q =>
      simp only [Option.map_some, Request.withoutSender]
      by_cases he : q.answer = .empty
      · rw [if_pos he, if_pos he]
        exact getElem?_updated hq
      · rw [if_neg he, if_neg he]
        exact hq

theorem dropSender_ne (s : Relay) (hk : k ≠ r) :
    (s.dropSender r).requests[k]? = s.requests[k]? := by
  unfold dropSender
  cases s.requests[r]? with
  | none => rfl
  | some q =>
      by_cases he : q.answer = .empty
      · simp only [if_pos he]
        exact List.getElem?_set_ne (Ne.symm hk)
      · simp only [if_neg he]

theorem answerRequest_self (s : Relay) (r : Nat) (http : HttpResponse) :
    (s.answerRequest r http).requests[r]? = s.requests[r]?.map (fun q => q.answered http) := by
  unfold answerRequest
  cases hq : s.requests[r]? with
  | none => simp only [hq, Option.map_none]
  | some q =>
      simp only [Option.map_some, Request.answered]
      by_cases he : q.answer = .empty ∧ q.Listening
      · rw [if_pos he, if_pos he]
        exact getElem?_updated hq
      · rw [if_neg he, if_neg he]
        exact hq

theorem answerRequest_ne (s : Relay) (http : HttpResponse) (hk : k ≠ r) :
    (s.answerRequest r http).requests[k]? = s.requests[k]? := by
  unfold answerRequest
  cases s.requests[r]? with
  | none => rfl
  | some q =>
      by_cases he : q.answer = .empty ∧ q.Listening
      · simp only [if_pos he]
        exact List.getElem?_set_ne (Ne.symm hk)
      · simp only [if_neg he]

theorem responses_removeResponse (s : Relay) (requestId : String) :
    (s.removeResponse requestId).responses = s.responses.erase requestId := by
  unfold removeResponse
  cases hl : s.responses.lookup requestId with
  | none => exact ((HashMap.erase_eq_self_iff _ _).mpr hl).symm
  | some r => rfl

/-- Taking an entry out touches no oneshot but its own. -/
theorem requests_removeResponse {requestId : String}
    (hk : s.responses.lookup requestId ≠ some k) :
    (s.removeResponse requestId).requests[k]? = s.requests[k]? := by
  unfold removeResponse
  cases hl : s.responses.lookup requestId with
  | none => rfl
  | some r =>
      have hkr : k ≠ r := by
        intro h
        exact hk (by rw [hl, h])
      exact dropSender_ne s hkr

/-- An entry that is written touches no oneshot but that of the entry it
    replaces. -/
theorem requests_insertResponse {requestId : String} (r : Nat)
    (hk : s.responses.lookup requestId ≠ some k) :
    (s.insertResponse requestId r).requests[k]? = s.requests[k]? := by
  unfold insertResponse
  cases hl : s.responses.lookup requestId with
  | none => rfl
  | some r' =>
      have hkr : k ≠ r' := by
        intro h
        exact hk (by rw [hl, h])
      by_cases hr : r' = r
      · simp only [if_pos hr]
      · simp only [if_neg hr]
        exact dropSender_ne s hkr

/-! ### Effects -/

/-- What a step does to `responses` and the oneshots. -/
inductive Effect (env : Env) (s : Relay) (a : Action) (t : Relay) : Prop
  | handler (r : Nat) (ha : a.handler = some r) (h : HandlerStep env s r a t)
  | arrive (q : Request) (hpc : q.pc.isFirst = true) (he : q.answer = .empty)
      (ha : a.response env = none) (hresp : t.responses = s.responses)
      (hreq : t.requests = s.requests ++ [q])
  | respond (requestId : String) (http : HttpResponse) (r : Nat)
      (ha : a.response env = some (requestId, http))
      (hl : s.responses.lookup requestId = some r)
      (hresp : t.responses = s.responses.erase requestId)
      (hreq : t.requests = (s.answerRequest r http).requests)
  | quiet (hresp : t.responses = s.responses) (hreq : t.requests = s.requests)
      (hnone : ∀ requestId http, a.response env = some (requestId, http) →
        s.responses.lookup requestId = none)

theorem quiet_of_response (ha : a.response env = none) (hresp : t.responses = s.responses)
    (hreq : t.requests = s.requests) : Effect env s a t := by
  refine .quiet hresp hreq ?_
  intro requestId http h
  rw [ha] at h
  simp only [reduceCtorEq] at h

theorem arrive_effect {entry : Entry} {method path : String} {headers : HeaderMap}
    {body : List UInt8} (h : s.arrive entry method path headers body = some t) :
    Effect env s (.arrive entry method path headers body) t := by
  rcases arrive_cases h with ⟨q, hfirst, he, hresp, hreq⟩
  refine .arrive q ?_ he rfl hresp hreq
  rcases hfirst with hpc | hpc | ⟨prefId, hpc⟩
  · rw [hpc, RequestPc.isFirst]
  · rw [hpc, RequestPc.isFirst]
  · rw [hpc, RequestPc.isFirst]

/-- The timer of a socket is not looked at when a response comes in. -/
theorem requests_answerRequest_setSocket (s : Relay) (n : Nat) (x : Socket) (r : Nat)
    (http : HttpResponse) :
    ((s.setSocket n x).answerRequest r http).requests = (s.answerRequest r http).requests := by
  have hreq : (s.setSocket n x).requests = s.requests := rfl
  unfold answerRequest
  rw [hreq]
  cases s.requests[r]? with
  | none => rfl
  | some q =>
      by_cases he : q.answer = .empty ∧ q.Listening
      · simp only [if_pos he]
        rfl
      · simp only [if_neg he]
        exact hreq

theorem received_effect {n : Nat} {x : Socket} {txt : String} {m : ControlMessage}
    (hf : env.fromStr txt = some m) (h : received env (s.setSocket n x) x.id m = some t) :
    Effect env s (.receive n (.message (.text txt))) t := by
  have hresp : ∀ requestId http,
      (Action.receive n (.message (.text txt))).response env = some (requestId, http) →
        m = .response requestId http := by
    intro requestId http ha
    simp only [Action.response, hf] at ha
    cases m with
    | response requestId' http' =>
        simp only [Option.some.injEq, Prod.mk.injEq] at ha
        rw [ha.1, ha.2]
    | _ => simp only [reduceCtorEq] at ha
  have other : (∀ requestId http, m ≠ .response requestId http) →
      t.responses = s.responses → t.requests = s.requests →
        Effect env s (.receive n (.message (.text txt))) t := by
    intro hm h1 h2
    exact .quiet h1 h2 (fun requestId http ha => absurd (hresp _ _ ha) (hm _ _))
  cases m with
  | healthUpdate d ts =>
      simp only [received] at h
      cases hd : handleHardwareData binary32 env.overflowChecks d 85 with
      | none => simp only [hd, reduceCtorEq] at h
      | some status =>
          simp only [hd, Option.some.injEq] at h
          exact other (fun _ _ hm => ControlMessage.noConfusion hm) (by rw [← h]; rfl)
            (by rw [← h]; rfl)
  | register token target =>
      exact other (fun _ _ hm => ControlMessage.noConfusion hm) (by rw [← Option.some.inj h]; rfl)
        (by rw [← Option.some.inj h]; rfl)
  | request requestId http =>
      exact other (fun _ _ hm => ControlMessage.noConfusion hm) (by rw [← Option.some.inj h]; rfl)
        (by rw [← Option.some.inj h]; rfl)
  | response requestId http =>
      simp only [received] at h
      cases hl : (s.setSocket n x).responses.lookup requestId with
      | none =>
          simp only [hl, Option.some.injEq] at h
          rw [← h]
          refine .quiet rfl rfl ?_
          intro requestId' http' ha
          have hm := hresp _ _ ha
          simp only [ControlMessage.response.injEq] at hm
          rw [← hm.1]
          exact hl
      | some r =>
          simp only [hl, Option.some.injEq] at h
          rw [← h]
          exact .respond requestId http r (by simp only [Action.response, hf]) hl rfl
            (requests_answerRequest_setSocket _ _ _ _ _)

theorem receive_effect {n : Nat} {m : Received} (h : receive env s n m = some t) :
    Effect env s (.receive n m) t := by
  unfold receive at h
  cases hx : s.sockets[n]? with
  | none => simp only [hx, reduceCtorEq] at h
  | some x =>
      simp only [hx, Option.ite_none_right_eq_some] at h
      have hbody := h.2
      cases m with
      | error =>
          rw [← Option.some.inj hbody]
          exact quiet_of_response rfl rfl rfl
      | closed =>
          rw [← Option.some.inj hbody]
          exact quiet_of_response rfl rfl rfl
      | message msg =>
          cases msg with
          | text txt =>
              cases hf : env.fromStr txt with
              | none =>
                  simp only [hf, Option.some.injEq] at hbody
                  rw [← hbody]
                  exact quiet_of_response (by simp only [Action.response, hf]) rfl rfl
              | some cm =>
                  cases hr : received env (s.setSocket n { x with armed := s.now }) x.id cm with
                  | some u =>
                      simp only [hf, hr, Option.some.injEq] at hbody
                      rw [← hbody]
                      exact received_effect hf hr
                  | none =>
                      simp only [hf, hr, Option.some.injEq] at hbody
                      rw [← hbody]
                      -- Only a health update panics.
                      refine quiet_of_response ?_ rfl rfl
                      cases cm with
                      | response requestId http =>
                          simp only [received] at hr
                          split at hr <;> simp only [reduceCtorEq] at hr
                      | _ => simp only [Action.response, hf]
          | _ =>
              rw [← Option.some.inj hbody]
              exact quiet_of_response rfl rfl rfl

/-- What is no handler's, no new request and no message leaves `responses` and
    the oneshots alone. -/
theorem effect_of_step (h : step env s a = some t) : Effect env s a t := by
  by_cases hrec : ∃ n m, a = .receive n m
  · rcases hrec with ⟨n, m, rfl⟩
    exact receive_effect (act_of_step h)
  · have hnone : a.response env = none := by
      cases a with
      | receive n m => exact absurd ⟨n, m, rfl⟩ hrec
      | _ => rfl
    cases rule_of_step h with
    | handled ha hstep => exact .handler _ ha hstep
    | arrived harr => exact arrive_effect harr
    | received => exact absurd ⟨_, _, rfl⟩ hrec
    | _ => exact quiet_of_response hnone rfl rfl

/-! ### Moves -/

/-- How an action takes handler `r`, which is `q`, to another await. -/
inductive PcStep (env : Env) (s : Relay) (r : Nat) (q : Request) (a : Action) (pc : RequestPc) :
    Prop
  | stay (hpc : pc = q.pc)
  | move (hm : PcMove env s r q a pc)
  | enroll (c : Call) (hq : q.pc = .enrolling c) (hpc : pc = .reading c ∨ pc = .sending c)
  | send (c : Call) (hq : q.pc = .sending c) (hpc : pc = .waiting c s.now)
  | discard (c : Call) (code : StatusCode) (hq : q.pc = .failing c code)
      (hpc : pc = .returned (.status code))

/-- Every handler of the next state was there, as it is or moved by the
    action, or has just come in. -/
theorem pc_of_step (h : step env s a = some t) {q' : Request} (hq' : t.requests[k]? = some q') :
    (∃ q, s.requests[k]? = some q ∧ PcStep env s k q a q'.pc) ∨
      (s.requests[k]? = none ∧ q'.pc.isFirst = true) := by
  cases effect_of_step h with
  | handler r ha h =>
      rcases h with ⟨q, pc, lock, health, hq, hm, _, ht⟩ | ⟨_, q, c, pc, hq, hqc, hpc, ht⟩ |
        ⟨_, q, c, x, hq, hqc, _, _, ht⟩ | ⟨_, q, c, code, lock, health, hq, hqc, _, ht⟩ | ht
      · rw [ht] at hq'
        rcases getElem?_set_cases hq' with ⟨hk, heq⟩ | ⟨_, hk⟩
        · rw [hk, heq]
          exact Or.inl ⟨q, hq, .move hm⟩
        · exact Or.inl ⟨q', hk, .stay rfl⟩
      · rw [ht] at hq'
        rcases getElem?_set_cases hq' with ⟨hk, heq⟩ | ⟨_, hk⟩
        · rw [hk, heq]
          exact Or.inl ⟨q, hq, .enroll c hqc hpc⟩
        · rcases (insertResponse_same s c.requestId r).requests k q' hk with ⟨q0, hq0, hpc0, _, _⟩
          exact Or.inl ⟨q0, hq0, .stay hpc0⟩
      · rw [ht] at hq'
        rcases getElem?_set_cases hq' with ⟨hk, heq⟩ | ⟨_, hk⟩
        · rw [hk, heq]
          exact Or.inl ⟨q, hq, .send c hqc rfl⟩
        · exact Or.inl ⟨q', hk, .stay rfl⟩
      · rw [ht] at hq'
        rcases (removeResponse_same _ _).requests k q' hq' with ⟨q0, hq0, hpc0, _, _⟩
        rcases getElem?_set_cases hq0 with ⟨hk, heq⟩ | ⟨_, hk⟩
        · rw [heq] at hpc0
          rw [hk]
          exact Or.inl ⟨q, hq, .discard c code hqc hpc0⟩
        · exact Or.inl ⟨q0, hk, .stay hpc0⟩
      · rw [ht] at hq'
        exact Or.inl ⟨q', hq', .stay rfl⟩
  | arrive q hpc he ha hresp hreq =>
      rw [hreq] at hq'
      rcases getElem?_append_cases hq' with hk | ⟨hk, heq⟩
      · exact Or.inl ⟨q', hk, .stay rfl⟩
      · rw [hk, heq]
        exact Or.inr ⟨List.getElem?_eq_none (Nat.le_refl _), hpc⟩
  | respond id http r ha hl hresp hreq =>
      rw [hreq] at hq'
      rcases (answerRequest_same s r http).requests k q' hq' with ⟨q0, hq0, hpc0, _, _⟩
      exact Or.inl ⟨q0, hq0, .stay hpc0⟩
  | quiet hresp hreq hnone =>
      rw [hreq] at hq'
      exact Or.inl ⟨q', hq', .stay rfl⟩

/-- What is settled once a handler is in its call was settled before, or is
    settled by its move. -/
theorem settled_of_step {α : Type} {f : RequestPc → Option α} {g : Call → α} {x : α}
    (hcall : ∀ pc c, pc.call = some c → f pc = some (g c))
    (hfirst : ∀ pc, pc.isFirst = true → f pc = none) (hreturned : ∀ o, f (.returned o) = none)
    (h : step env s a = some t) {q' : Request} (hq' : t.requests[k]? = some q')
    (hx : f q'.pc = some x) :
    ∃ q, s.requests[k]? = some q ∧ (f q.pc = some x ∨ PcMove env s k q a q'.pc) := by
  rcases pc_of_step h hq' with ⟨q, hq, hm⟩ | ⟨_, hnew⟩
  · refine ⟨q, hq, ?_⟩
    -- From one await of a call to the next, the call is the same.
    have hsame : ∀ c, q.pc.call = some c → q'.pc.call = some c → f q.pc = some x := by
      intro c hc hc'
      rw [hcall _ c hc, ← hcall _ c hc']
      exact hx
    cases hm with
    | stay hpc => exact Or.inl (hpc ▸ hx)
    | move hm => exact Or.inr hm
    | enroll c hqc hpc =>
        refine Or.inl (hsame c (by rw [hqc]; rfl) ?_)
        rcases hpc with hpc | hpc <;> (rw [hpc]; rfl)
    | send c hqc hpc => exact Or.inl (hsame c (by rw [hqc]; rfl) (by rw [hpc]; rfl))
    | discard c code hqc hpc =>
        rw [hpc, hreturned] at hx
        simp only [reduceCtorEq] at hx
  · rw [hfirst _ hnew] at hx
    simp only [reduceCtorEq] at hx

theorem running_of_pc {q q' : Request} (hpc : q'.pc = q.pc) (h : q'.Running) : q.Running := by
  unfold Request.Running at h ⊢
  rw [← hpc]
  exact h

theorem running_of_first {q : Request} (h : q.pc.isFirst = true) : q.Running := by
  cases hpc : q.pc with
  | listing | preferring _ | choosing => simp only [Request.Running, hpc]
  | _ => simp only [RequestPc.isFirst, hpc, Bool.false_eq_true] at h

/-- A handler that moves runs. -/
theorem PcMove.running {q : Request} {pc : RequestPc} (hm : PcMove env s r q a pc) :
    q.Running := by
  cases hm with
  | cancel hrun => exact hrun
  | _ => simp only [Request.Running, *]

/-- A call keeps its sender where it is, until the handler returns. -/
theorem PcMove.enrolled {q : Request} {pc : RequestPc} {c : Call}
    (hm : PcMove env s r q a pc) (hc : q.pc.enrolled = some c)
    (hrun : Request.Running { q with pc := pc }) : pc.enrolled = some c := by
  cases hm with
  | read hpc | unsentProxy hpc | unansweredProxy hpc | expire hpc =>
      rw [hpc] at hc
      exact hc
  | unreadable | unsent | unanswered | answered | answeredProxy | cloud | cancel | notFound =>
      exact absurd hrun (fun h => h)
  | list hpc | found hpc | preferred hpc | unregistered hpc | sticky hpc | unhealthy hpc
  | choose hpc | ranked hpc | unranked hpc | chosen hpc | fallback hpc =>
      rw [hpc] at hc
      simp only [RequestPc.enrolled, reduceCtorEq] at hc

/-! ### Whose the entries are -/

/-- An entry of `responses` belongs to one request, whose oneshot is empty; if
    its handler runs, the entry is under the id of its call. A handler that
    has not put its sender into `responses` has an empty oneshot. -/
structure Pending (s : Relay) : Prop where
  entry : ∀ requestId r, s.responses.lookup requestId = some r →
    ∃ q, s.requests[r]? = some q ∧ q.answer = .empty ∧
      (q.Running → ∃ c, q.pc.enrolled = some c ∧ c.requestId = requestId)
  unique : ∀ id id' r, s.responses.lookup id = some r → s.responses.lookup id' = some r → id = id'
  early : ∀ (r : Nat) (q : Request), s.requests[r]? = some q → q.Running →
    q.pc.enrolled = none → q.answer = .empty

theorem initial_pending : Pending initial where
  entry := by
    intro requestId r h
    rw [initial, AList.lookup_empty] at h
    simp only [reduceCtorEq] at h
  unique := by
    intro id id' r h
    rw [initial, AList.lookup_empty] at h
    simp only [reduceCtorEq] at h
  early := by
    intro r q h
    simp only [initial, List.getElem?_nil, reduceCtorEq] at h

/-- A running handler's entry is under the id of its call. -/
theorem Pending.id_of_entry (hp : Pending s) {requestId : String} {q : Request} {c : Call}
    (hl : s.responses.lookup requestId = some r) (hq : s.requests[r]? = some q)
    (hrun : q.Running) (hc : q.pc.enrolled = some c) : c.requestId = requestId := by
  rcases hp.entry requestId r hl with ⟨q', hq', _, hown⟩
  rw [hq, Option.some.injEq] at hq'
  rw [← hq'] at hown
  rcases hown hrun with ⟨c', hc', hid⟩
  rw [hc, Option.some.injEq] at hc'
  rw [hc', hid]

/-- A running handler that has not put its sender into `responses` has no
    entry. -/
theorem Pending.no_entry (hp : Pending s) {q : Request} (hq : s.requests[r]? = some q)
    (hrun : q.Running) (hc : q.pc.enrolled = none) (requestId : String) :
    s.responses.lookup requestId ≠ some r := by
  intro hl
  rcases hp.entry requestId r hl with ⟨q', hq', _, hown⟩
  rw [hq, Option.some.injEq] at hq'
  rw [← hq'] at hown
  rcases hown hrun with ⟨c, hc', _⟩
  rw [hc] at hc'
  simp only [reduceCtorEq] at hc'

/-- A oneshot is reached through an entry only. -/
theorem Pending.early_of_kept (hp : Pending s) {q q' : Request} (hq : s.requests[k]? = some q)
    (hpc : q'.pc = q.pc) (hkeep : (∀ id, s.responses.lookup id ≠ some k) → q' = q)
    (hrun : q'.Running) (hc : q'.pc.enrolled = none) : q'.answer = .empty := by
  have hrun0 := running_of_pc hpc hrun
  rw [hpc] at hc
  rw [hkeep (hp.no_entry hq hrun0 hc)]
  exact hp.early k q hq hrun0 hc

/-- Entries may go, as long as the requests of the others are left alone. -/
theorem pending_of_fewer (hp : Pending s)
    (hresp : ∀ id k, t.responses.lookup id = some k →
      s.responses.lookup id = some k ∧ t.requests[k]? = s.requests[k]?)
    (hearly : ∀ (k : Nat) (q : Request), t.requests[k]? = some q → q.Running →
      q.pc.enrolled = none → q.answer = .empty) : Pending t where
  entry := by
    intro id k hl
    rcases hresp id k hl with ⟨hls, hk⟩
    rw [hk]
    exact hp.entry id k hls
  unique := fun id id' k h h' => hp.unique id id' k (hresp id k h).1 (hresp id' k h').1
  early := hearly

theorem pending_of_moves (hp : Pending s) (h : Moves env s r a t) : Pending t := by
  rcases h with ⟨q, pc, lock, health, hq, hm, _, ht⟩
  rw [ht]
  constructor
  · intro id k hl
    rcases hp.entry id k hl with ⟨q', hq', he, hown⟩
    by_cases hk : k = r
    · rw [hk] at hq'
      rw [hq, Option.some.injEq] at hq'
      rw [← hq'] at he hown
      refine ⟨{ q with pc := pc }, by rw [hk]; exact getElem?_updated hq, he, ?_⟩
      intro hrun
      rcases hown hm.running with ⟨c, hc, hid⟩
      exact ⟨c, hm.enrolled hc hrun, hid⟩
    · exact ⟨q', (List.getElem?_set_ne (Ne.symm hk)).trans hq', he, hown⟩
  · exact hp.unique
  · intro k q' hq' hrun hc
    rcases getElem?_set_cases hq' with ⟨_, heq⟩ | ⟨_, hk⟩
    · -- Had the sender been in `responses` before, it would be so now.
      rw [heq] at hrun hc ⊢
      refine hp.early r q hq hm.running ?_
      cases hcall : q.pc.enrolled with
      | none => rfl
      | some c =>
          have hc' := hm.enrolled hcall hrun
          simp only at hc
          rw [hc] at hc'
          simp only [reduceCtorEq] at hc'
    · exact hp.early k q' hk hrun hc

theorem pending_of_enrolls (hp : Pending s) (h : Enrolls s r t) : Pending t := by
  rcases h with ⟨q, c, pc, hq, hqc, hpc, ht⟩
  have hrun : q.Running := by simp only [Request.Running, hqc]
  have hnone : q.pc.enrolled = none := by rw [hqc]; rfl
  have hempty := hp.early r q hq hrun hnone
  have hno := hp.no_entry hq hrun hnone
  have hold : (s.insertResponse c.requestId r).requests[r]? = some q :=
    (requests_insertResponse r (hno _)).trans hq
  -- The body is read next, or the message is sent.
  have henr : pc.enrolled = some c := by
    rcases hpc with hpc | hpc
    · rw [hpc]
      rfl
    · rw [hpc]
      rfl
  rw [ht]
  constructor
  · intro id k hl
    rcases HashMap.lookup_insert_cases hl with ⟨hid, hkr⟩ | ⟨hid, hl'⟩
    · rw [hkr, hid]
      exact ⟨{ q with pc := pc }, getElem?_updated hold, hempty, fun _ => ⟨c, henr, rfl⟩⟩
    · have hkr : k ≠ r := by
        intro hkr
        rw [hkr] at hl'
        exact hno id hl'
      -- The entry that is replaced, if there is one, is not this request's.
      have hold : s.responses.lookup c.requestId ≠ some k := by
        intro hold
        exact hid (hp.unique id c.requestId k hl' hold)
      rcases hp.entry id k hl' with ⟨q', hq', hrest⟩
      refine ⟨q', ?_, hrest⟩
      have hset := List.getElem?_set_ne (l := (s.insertResponse c.requestId r).requests)
        (a := { q with pc := pc }) (Ne.symm hkr)
      exact hset.trans ((requests_insertResponse r hold).trans hq')
  · intro id id' k hl hl'
    exact HashMap.lookup_insert_inj hp.unique hno hl hl'
  · intro k q' hq' hrun' hc'
    rcases getElem?_set_cases hq' with ⟨_, heq⟩ | ⟨_, hk⟩
    · rw [heq] at hc'
      simp only [henr, reduceCtorEq] at hc'
    · rcases (insertResponse_same s c.requestId r).requests k q' hk with ⟨q0, hq0, hpc0, _, _⟩
      refine hp.early_of_kept hq0 hpc0 ?_ hrun' hc'
      intro hnoentry
      rw [requests_insertResponse r (hnoentry _), hq0, Option.some.injEq] at hk
      exact hk.symm

theorem pending_of_sends (hp : Pending s) (h : Sends s r t) : Pending t := by
  rcases h with ⟨q, c, x, hq, hpc, _, _, ht⟩
  have hrun : q.Running := by simp only [Request.Running, hpc]
  rw [ht]
  constructor
  · intro id k hl
    rcases hp.entry id k hl with ⟨q', hq', he, hown⟩
    by_cases hk : k = r
    · rw [hk, hq, Option.some.injEq] at hq'
      rw [← hq'] at he hown
      refine ⟨{ q with pc := .waiting c s.now }, by rw [hk]; exact getElem?_updated hq,
        he, ?_⟩
      intro _
      rcases hown hrun with ⟨c', hc', hid⟩
      rw [hpc] at hc'
      exact ⟨c', hc', hid⟩
    · exact ⟨q', (List.getElem?_set_ne (Ne.symm hk)).trans hq', he, hown⟩
  · exact hp.unique
  · intro k q' hq' hrun' hc
    rcases getElem?_set_cases hq' with ⟨_, heq⟩ | ⟨_, hk⟩
    · rw [heq] at hc
      simp only [RequestPc.enrolled, reduceCtorEq] at hc
    · exact hp.early k q' hk hrun' hc

/-- The handler that discards its entry has returned. -/
theorem pending_of_discards (hp : Pending s) (h : Discards s r t) : Pending t := by
  rcases h with ⟨q, c, code, lock, health, hq, hpc, _, ht⟩
  have hrun : q.Running := by simp only [Request.Running, hpc]
  rw [ht]
  have hresp : ((s.moveRequest r q (.returned (.status code)) lock).removeResponse
      c.requestId).responses = s.responses.erase c.requestId := responses_removeResponse _ _
  refine pending_of_fewer hp ?_ ?_
  · intro id k hl
    have hl0 : (s.responses.erase c.requestId).lookup id = some k := by
      rw [← hresp]
      exact hl
    rcases HashMap.lookup_erase_cases hl0 with ⟨hid, hlk⟩
    have hkr : k ≠ r := by
      intro hkr
      rw [hkr] at hlk
      have := hp.id_of_entry hlk hq hrun (by rw [hpc]; rfl)
      exact hid this.symm
    have hold : s.responses.lookup c.requestId ≠ some k := by
      intro hold
      exact hid (hp.unique id c.requestId k hlk hold)
    refine ⟨hlk, ?_⟩
    have hmove := requests_removeResponse (s := s.moveRequest r q (.returned (.status code)) lock)
      hold
    exact hmove.trans (List.getElem?_set_ne (Ne.symm hkr))
  · intro k q' hq' hrun' hc'
    rcases removeResponse_same _ _ |>.requests k q' hq' with ⟨q0, hq0, hpc0, _, hempty⟩
    rcases getElem?_set_cases hq0 with ⟨_, heq⟩ | ⟨hkr, hk⟩
    · -- The handler itself does not run any more.
      rw [heq] at hpc0
      simp only [Request.Running, hpc0] at hrun'
    · refine hp.early_of_kept hk hpc0 ?_ hrun' hc'
      intro hnoentry
      have hmove := requests_removeResponse
        (s := s.moveRequest r q (.returned (.status code)) lock) (hnoentry c.requestId)
      have hq'' := hmove.symm.trans hq'
      rw [hq0, Option.some.injEq] at hq''
      exact hq''.symm

theorem pending_step (hp : Pending s) (h : step env s a = some t) : Pending t := by
  cases effect_of_step h with
  | handler r ha h =>
      rcases h with hm | ⟨_, he⟩ | ⟨_, hs⟩ | ⟨_, hd⟩ | ht
      · exact pending_of_moves hp hm
      · exact pending_of_enrolls hp he
      · exact pending_of_sends hp hs
      · exact pending_of_discards hp hd
      · rw [ht]
        exact ⟨hp.entry, hp.unique, hp.early⟩
  | arrive q hpc he ha hresp hreq =>
      constructor
      · intro id k hl
        rw [hresp] at hl
        rcases hp.entry id k hl with ⟨q', hq', hrest⟩
        rw [hreq]
        exact ⟨q', getElem?_kept hq', hrest⟩
      · rw [hresp]
        exact hp.unique
      · intro k q' hq' hrun' hc
        rw [hreq] at hq'
        rcases getElem?_append_cases hq' with hk | ⟨_, heq⟩
        · exact hp.early k q' hk hrun' hc
        · rw [heq]
          exact he
  | respond requestId http r ha hl hresp hreq =>
      have hothers : ∀ k, k ≠ r → t.requests[k]? = s.requests[k]? := by
        intro k hk
        rw [hreq]
        exact answerRequest_ne s http hk
      refine pending_of_fewer hp ?_ ?_
      · intro id k hlk
        rw [hresp] at hlk
        rcases HashMap.lookup_erase_cases hlk with ⟨hid, hold⟩
        refine ⟨hold, hothers k ?_⟩
        intro hkr
        rw [hkr] at hold
        exact hid (hp.unique id requestId r hold hl)
      · intro k q' hq' hrun' hc
        by_cases hk : k = r
        · rw [hk, hreq] at hq'
          rcases (answerRequest_same s r http).requests r q' hq' with ⟨q0, hq0, hpc0, _, _⟩
          exact hp.early_of_kept hq0 hpc0 (fun hno => absurd hl (hno _)) hrun' hc
        · rw [hothers k hk] at hq'
          exact hp.early k q' hq' hrun' hc
  | quiet hresp hreq hnone =>
      constructor
      · rw [hresp, hreq]
        exact hp.entry
      · rw [hresp]
        exact hp.unique
      · rw [hreq]
        exact hp.early

end Relay

end Rathole
