import Rathole.Lib.Numbered
import Rathole.Prototype.Relay

/-!
# The Rules of the Prototype Relay

`Relay.step` as a relation: a rule for each way through an action, with the
conditions on that way and the whole of the next state. The functions of the
tasks are unfolded here and nowhere else.

What is done to `pending_requests` completes response channels along the way.
`Fills` says that nothing else happens to the handlers.

## Main definitions

* `Relay.Fills`: Handlers stay where they are.
* `Relay.Rule`: The ways through the actions.

## Theorems

* `fills_insertPending`, `fills_removePending`, `fills_dropTaken`,
  `fills_answerTaken`: What is done to the map of senders leaves the handlers
  where they are.
* `rule_of_step`: Every step goes one of these ways.
-/

namespace Rathole

namespace Prototype

open FairLock Numbered Proxy

namespace Relay

/-! ### Response channels -/

/-- Every handler of `t` is where it was in `s`; at most its response channel,
    if it was empty, is not so any more. Everything else but the map of senders
    is as it was. -/
structure Fills (s t : Relay) : Prop where
  tunnels : t.tunnels = s.tunnels
  lock : t.lock = s.lock
  sockets : t.sockets = s.sockets
  registrations : t.registrations = s.registrations
  forward : ∀ (r : Nat) (q : Request), s.requests[r]? = some q →
    ∃ q', t.requests[r]? = some q' ∧ q'.req = q.req ∧ q'.pc = q.pc ∧
      (q'.answer = .empty → q.answer = .empty)
  length : t.requests.length = s.requests.length

variable {s t u : Relay}

theorem Fills.refl (s : Relay) : Fills s s :=
  ⟨rfl, rfl, rfl, rfl, fun _ q hq => ⟨q, hq, rfl, rfl, id⟩, rfl⟩

theorem Fills.trans (h1 : Fills s t) (h2 : Fills t u) : Fills s u where
  tunnels := h2.tunnels.trans h1.tunnels
  lock := h2.lock.trans h1.lock
  sockets := h2.sockets.trans h1.sockets
  registrations := h2.registrations.trans h1.registrations
  forward := by
    intro r q hq
    rcases h1.forward r q hq with ⟨q', hq', hreq', hpc', he'⟩
    rcases h2.forward r q' hq' with ⟨q'', hq'', hreq, hpc, he⟩
    exact ⟨q'', hq'', hreq.trans hreq', hpc.trans hpc', fun h => he' (he h)⟩
  length := h2.length.trans h1.length

/-- A handler of `t` is one of `s`. -/
theorem Fills.backward (h : Fills s t) {r : Nat} {q' : Request} (hq' : t.requests[r]? = some q') :
    ∃ q, s.requests[r]? = some q ∧ q'.req = q.req ∧ q'.pc = q.pc ∧
      (q'.answer = .empty → q.answer = .empty) := by
  have hlt : r < s.requests.length := by
    rw [← h.length]
    exact (List.getElem?_eq_some_iff.mp hq').fst
  rcases h.forward r _ (List.getElem?_eq_getElem hlt) with ⟨q'', hq'', hkept⟩
  rw [hq', Option.some.injEq] at hq''
  subst hq''
  exact ⟨_, List.getElem?_eq_getElem hlt, hkept⟩

/-- The map of senders is not looked at. -/
theorem Fills.with_pending (h : Fills s t) (pending : HashMap String Nat) :
    Fills s { t with pendingRequests := pending } :=
  ⟨h.tunnels, h.lock, h.sockets, h.registrations, h.forward, h.length⟩

/-- Completing a channel that was empty. -/
theorem fills_setAnswer {r : Nat} {q : Request} (hq : s.requests[r]? = some q)
    (he : q.answer = .empty) (answer : Answer) :
    Fills s (s.setRequest r { q with answer := answer }) := by
  refine ⟨rfl, rfl, rfl, rfl, fun r' q' hq' => ?_, List.length_set⟩
  by_cases hr : r = r'
  · subst hr
    rw [hq, Option.some.injEq] at hq'
    subst hq'
    exact ⟨_, getElem?_updated hq, rfl, rfl, fun _ => he⟩
  · exact ⟨q', (List.getElem?_set_ne hr).trans hq', rfl, rfl, id⟩

theorem fills_dropSender (s : Relay) (r : Nat) : Fills s (s.dropSender r) := by
  unfold dropSender
  cases hq : s.requests[r]? with
  | none => exact Fills.refl s
  | some q =>
      by_cases he : q.answer = .empty
      · simp only [if_pos he]
        exact fills_setAnswer hq he _
      · simp only [if_neg he]
        exact Fills.refl s

theorem fills_answerRequest (s : Relay) (r : Nat) (res : Response) :
    Fills s (s.answerRequest r res) := by
  unfold answerRequest
  cases hq : s.requests[r]? with
  | none => exact Fills.refl s
  | some q =>
      by_cases he : q.answer = .empty ∧ q.pc.call.isSome
      · simp only [if_pos he]
        exact fills_setAnswer hq he.1 _
      · simp only [if_neg he]
        exact Fills.refl s

theorem fills_insertPending (s : Relay) (requestId : String) (r : Nat) :
    Fills s (s.insertPending requestId r) := by
  unfold insertPending
  cases s.pendingRequests.lookup requestId with
  | none => exact (Fills.refl s).with_pending _
  | some r' => exact (fills_dropSender s r').with_pending _

theorem fills_removePending (s : Relay) (requestId : String) :
    Fills s (s.removePending requestId) := by
  unfold removePending
  cases s.pendingRequests.lookup requestId with
  | none => exact Fills.refl s
  | some r => exact (fills_dropSender s r).with_pending _

/-- A sender that was taken out of the map is dropped. -/
theorem fills_dropTaken (s : Relay) (pending : HashMap String Nat) (r : Nat) :
    Fills s ({ s with pendingRequests := pending }.dropSender r) :=
  ((Fills.refl s).with_pending pending).trans (fills_dropSender _ r)

/-- A sender that was taken out of the map is used. -/
theorem fills_answerTaken (s : Relay) (pending : HashMap String Nat) (r : Nat) (res : Response) :
    Fills s ({ s with pendingRequests := pending }.answerRequest r res) :=
  ((Fills.refl s).with_pending pending).trans (fills_answerRequest _ r res)

/-- The map of senders after an insertion. -/
theorem pending_insertPending (s : Relay) (requestId : String) (r : Nat) :
    (s.insertPending requestId r).pendingRequests = s.pendingRequests.insert requestId r := rfl

theorem pending_dropSender (s : Relay) (r : Nat) :
    (s.dropSender r).pendingRequests = s.pendingRequests := by
  unfold dropSender
  cases s.requests[r]? with
  | none => rfl
  | some q => exact apply_ite pendingRequests _ _ _ |>.trans (ite_self _)

theorem pending_answerRequest (s : Relay) (r : Nat) (res : Response) :
    (s.answerRequest r res).pendingRequests = s.pendingRequests := by
  unfold answerRequest
  cases s.requests[r]? with
  | none => rfl
  | some q => exact apply_ite pendingRequests _ _ _ |>.trans (ite_self _)

theorem pending_removePending (s : Relay) (requestId : String) :
    (s.removePending requestId).pendingRequests = s.pendingRequests.erase requestId := by
  unfold removePending
  cases h : s.pendingRequests.lookup requestId with
  | none => exact ((HashMap.erase_eq_self_iff _ _).mpr h).symm
  | some r => rfl

/-! ### The rules -/

/-- The ways through an action `a` in the state `s`, each with the state it
    ends in. -/
inductive Rule (E : Env) (s : Relay) : Action → Relay → Prop
  -- `handle_socket`
  | connected {id : String} : Rule E s (.connect id) { s with
      sockets := s.sockets ++ [{ id := id, pc := .registering, deaf := false, queue := [] }]
      lock := s.lock.request (.socket s.sockets.length) .write }
  | enlisted {n : Nat} {x : Socket} (hx : s.sockets[n]? = some x) (hpc : x.pc = .registering)
      (hheld : s.lock.Holds (.socket n) .write) : Rule E s (.enlist n)
      { s.moveSocket n x .looping with
        tunnels := s.tunnels.insert x.id n
        lock := s.lock.release (.socket n) .write
        registrations := n :: s.registrations }
  | taken {n : Nat} {x : Socket} {msg : ControlMessage} {rest : List ControlMessage}
      (hx : s.sockets[n]? = some x) (hpc : x.pc = .looping) (hq : x.queue = msg :: rest) :
      Rule E s (.take n) (s.setSocket n { x with pc := .pushing msg, queue := rest })
  | pushed {n : Nat} {x : Socket} {msg : ControlMessage} (hx : s.sockets[n]? = some x)
      (hpc : x.pc = .pushing msg) :
      Rule E s (.pushed n true) (s.setSocket n { x with pc := .looping, deaf := false })
  | pushFailed {n : Nat} {x : Socket} {msg : ControlMessage} (hx : s.sockets[n]? = some x)
      (hpc : x.pc = .pushing msg) : Rule E s (.pushed n false) (s.leaveLoop n x)
  | skipped {n : Nat} {m : Message} (hm : ∀ t requestId status headers body, m = .text t →
      E.fromStr t = some (.response requestId status headers body) →
      s.pendingRequests.lookup requestId = none) : Rule E s (.receive n m) s
  | delivered {n r : Nat} {x : Socket} {t requestId : String} {status : UInt16}
      {headers : List (String × String)} {body : List UInt8} {res : Response}
      (hx : s.sockets[n]? = some x) (hpc : x.pc = .looping)
      (hm : E.fromStr t = some (.response requestId status headers body))
      (hr : s.pendingRequests.lookup requestId = some r)
      (hbuild : buildResponse E.crate status headers body = some res) :
      Rule E s (.receive n (.text t))
        ({ s with pendingRequests := s.pendingRequests.erase requestId }.answerRequest r res)
  | crashed {n r : Nat} {x : Socket} {t requestId : String} {status : UInt16}
      {headers : List (String × String)} {body : List UInt8}
      (hx : s.sockets[n]? = some x) (hpc : x.pc = .looping)
      (hm : E.fromStr t = some (.response requestId status headers body))
      (hr : s.pendingRequests.lookup requestId = some r)
      (hbuild : buildResponse E.crate status headers body = none) :
      Rule E s (.receive n (.text t))
        (({ s with pendingRequests := s.pendingRequests.erase requestId }.dropSender r).crash n x)
  | deafened {n : Nat} {x : Socket} (hx : s.sockets[n]? = some x) (hpc : x.pc = .looping) :
      Rule E s (.fail n) (s.setSocket n { x with deaf := true })
  | hungUp {n : Nat} {x : Socket} (hx : s.sockets[n]? = some x) (hpc : x.pc = .looping)
      (hsender : s.hasSender n = false) : Rule E s (.hangUp n) (s.leaveLoop n x)
  | removed {n : Nat} {x : Socket} (hx : s.sockets[n]? = some x) (hpc : x.pc = .leaving)
      (hheld : s.lock.Holds (.socket n) .write) : Rule E s (.remove n)
      { s.setSocket n { x with pc := .closed, queue := [] } with
        tunnels := s.tunnels.erase x.id
        lock := s.lock.release (.socket n) .write }
  -- `proxy_handler`
  | unhosted {req : Incoming} (hhost : subdomainOf req.headers = none) :
      Rule E s (.arrive req) { s with
        requests := s.requests ++ [{ req := req, pc := .falling none req, answer := .empty }] }
  | arrived {req : Incoming} {subdomain : String}
      (hhost : subdomainOf req.headers = some subdomain) : Rule E s (.arrive req) { s with
        requests := s.requests ++ [{ req := req, pc := .looking subdomain, answer := .empty }]
        lock := s.lock.request (.request s.requests.length) .write }
  | found {r tx : Nat} {requestId subdomain : String} {q : Request}
      (hq : s.requests[r]? = some q) (hpc : q.pc = .looking subdomain)
      (hheld : s.lock.Holds (.request r) .write) (htx : s.tunnels.lookup subdomain = some tx) :
      Rule E s (.look r requestId) (s.moveRequest r q
        (.enrolling { subdomain := subdomain, tx := tx, requestId := requestId }) s.lock)
  | missed {r : Nat} {requestId subdomain : String} {q : Request}
      (hq : s.requests[r]? = some q) (hpc : q.pc = .looking subdomain) :
      Rule E s (.look r requestId) (s.moveRequest r q (.falling none q.req)
        (s.lock.release (.request r) .write))
  -- `forward_to_tunnel`
  | enrolled {r : Nat} {c : Call} {q : Request} (hq : s.requests[r]? = some q)
      (hpc : q.pc = .enrolling c) : Rule E s (.enroll r)
      ((s.setRequest r { q with pc := .reading c }).insertPending c.requestId r)
  | broke {r : Nat} {c : Call} {q : Request} (hq : s.requests[r]? = some q)
      (hpc : q.pc = .reading c) (hbody : q.req.body = .broken) : Rule E s (.readBody r)
      (s.moveRequest r q (.falling (some c) q.req.emptied) s.lock)
  | panicked {r : Nat} {c : Call} {q : Request} (hq : s.requests[r]? = some q)
      (hpc : q.pc = .reading c) : Rule E s (.readBody r) (s.crashRequest r q)
  | read {r : Nat} {c : Call} {q : Request} {msg : ControlMessage} {body : List UInt8}
      (hq : s.requests[r]? = some q) (hpc : q.pc = .reading c) (hbody : q.req.body = .bytes body) :
      Rule E s (.readBody r) (s.moveRequest r q (.sending c msg) s.lock)
  | sent {r : Nat} {c : Call} {q : Request} {x : Socket} {msg : ControlMessage}
      (hq : s.requests[r]? = some q) (hpc : q.pc = .sending c msg)
      (hx : s.sockets[c.tx]? = some x) (halive : x.pc.Alive) : Rule E s (.send r)
      ((s.setSocket c.tx { x with queue := x.queue ++ [msg] }).setRequest r
        { q with pc := .waiting c })
  | unsent {r : Nat} {c : Call} {q : Request} {x : Socket} {msg : ControlMessage}
      (hq : s.requests[r]? = some q) (hpc : q.pc = .sending c msg)
      (hx : s.sockets[c.tx]? = some x) (hdead : ¬ x.pc.Alive) :
      Rule E s (.send r) (s.moveRequest r q (.discarding c) s.lock)
  | responded {r : Nat} {c : Call} {q : Request} {res : Response} (hq : s.requests[r]? = some q)
      (hpc : q.pc = .waiting c) (hans : q.answer = .sent res) : Rule E s (.recv r)
      (s.moveRequest r q (.returned (.tunnel res)) (s.lock.release (.request r) .write))
  | lost {r : Nat} {c : Call} {q : Request} (hq : s.requests[r]? = some q)
      (hpc : q.pc = .waiting c) (hans : q.answer = .senderDropped) :
      Rule E s (.recv r) (s.moveRequest r q (.discarding c) s.lock)
  | discarded {r : Nat} {c : Call} {q : Request} (hq : s.requests[r]? = some q)
      (hpc : q.pc = .discarding c) : Rule E s (.discard r)
      ((s.setRequest r { q with pc := .falling (some c) q.req.emptied }).removePending c.requestId)
  -- The fallback, and the end of a handler
  | fellBack {r : Nat} {q : Request} {handed : Incoming} {ok : Bool}
      (hq : s.requests[r]? = some q) (hpc : q.pc = .falling none handed) :
      Rule E s (.fallbackReply r ok) (s.moveRequest r q (.returned (.fallback ok)) s.lock)
  | fellBackHeld {r : Nat} {c : Call} {q : Request} {handed : Incoming} {ok : Bool}
      (hq : s.requests[r]? = some q) (hpc : q.pc = .falling (some c) handed) :
      Rule E s (.fallbackReply r ok) (s.moveRequest r q (.returned (.fallback ok))
        (s.lock.release (.request r) .write))
  | cancelled {r : Nat} {q : Request} (hq : s.requests[r]? = some q) (hpc : q.pc.Running) :
      Rule E s (.cancel r) (s.moveRequest r q .dropped (s.lock.abandon (.request r)))

variable {E : Env} {n r : Nat}

/-! ### Sockets -/

theorem rule_enlist (h : s.enlist n = some t) : Rule E s (.enlist n) t := by
  unfold enlist at h
  cases hx : s.sockets[n]? with
  | none => simp only [hx, reduceCtorEq] at h
  | some x =>
      simp only [hx, Option.ite_none_right_eq_some, Option.some.injEq] at h
      rw [← h.2]
      exact Rule.enlisted hx h.1.1 h.1.2

theorem rule_take (h : s.take n = some t) : Rule E s (.take n) t := by
  unfold take at h
  cases hx : s.sockets[n]? with
  | none => simp only [hx, reduceCtorEq] at h
  | some x =>
      simp only [hx] at h
      split at h
      case h_1 msg rest hpc hq =>
        rw [← Option.some.inj h]
        exact Rule.taken hx hpc hq
      case h_2 => simp only [reduceCtorEq] at h

theorem rule_pushed {ok : Bool} (h : s.pushed n ok = some t) : Rule E s (.pushed n ok) t := by
  unfold Relay.pushed at h
  cases hx : s.sockets[n]? with
  | none => simp only [hx, reduceCtorEq] at h
  | some x =>
      cases hpc : x.pc with
      | pushing msg =>
          simp only [hx, hpc] at h
          cases ok with
          | true =>
              simp only [if_true, Option.some.injEq] at h
              rw [← h]
              exact Rule.pushed hx hpc
          | false =>
              simp only [Bool.false_eq_true, if_false, Option.some.injEq] at h
              rw [← h]
              exact Rule.pushFailed hx hpc
      | _ => simp only [hx, hpc, reduceCtorEq] at h

theorem rule_receive {m : Message} (h : receive E s n m = some t) :
    Rule E s (.receive n m) t := by
  unfold receive at h
  cases hx : s.sockets[n]? with
  | none => simp only [hx, reduceCtorEq] at h
  | some x =>
      simp only [hx, Option.ite_none_right_eq_some] at h
      rcases h with ⟨⟨hpc, _⟩, h⟩
      split at h
      case h_1 text =>
        split at h
        case h_1 requestId status headers body hm =>
          cases hr : s.pendingRequests.lookup requestId with
          | none =>
              simp only [hr, Option.some.injEq] at h
              rw [← h]
              refine Rule.skipped (fun t requestId' status' headers' body' ht hm' => ?_)
              rw [← Message.text.inj ht, hm, Option.some.injEq,
                ControlMessage.response.injEq] at hm'
              rw [← hm'.1]
              exact hr
          | some r =>
              simp only [hr, Option.some.injEq, deliver] at h
              cases hbuild : buildResponse E.crate status headers body with
              | none =>
                  simp only [hbuild] at h
                  rw [← h]
                  exact Rule.crashed hx hpc hm hr hbuild
              | some res =>
                  simp only [hbuild] at h
                  rw [← h]
                  exact Rule.delivered hx hpc hm hr hbuild
        case h_2 hno =>
          rw [← Option.some.inj h]
          refine Rule.skipped (fun t requestId status headers body ht hm => ?_)
          rw [← Message.text.inj ht] at hm
          exact absurd hm (hno requestId status headers body)
      case h_2 hno =>
        rw [← Option.some.inj h]
        exact Rule.skipped (fun t _ _ _ _ ht _ => absurd ht (hno t))

theorem rule_fail (h : s.fail n = some t) : Rule E s (.fail n) t := by
  unfold fail at h
  cases hx : s.sockets[n]? with
  | none => simp only [hx, reduceCtorEq] at h
  | some x =>
      simp only [hx, Option.ite_none_right_eq_some, Option.some.injEq] at h
      rw [← h.2]
      exact Rule.deafened hx h.1.1

theorem rule_hangUp (h : s.hangUp n = some t) : Rule E s (.hangUp n) t := by
  unfold hangUp at h
  cases hx : s.sockets[n]? with
  | none => simp only [hx, reduceCtorEq] at h
  | some x =>
      simp only [hx, Option.ite_none_right_eq_some, Option.some.injEq] at h
      rw [← h.2]
      exact Rule.hungUp hx h.1.1 h.1.2.2.2

theorem rule_remove (h : s.remove n = some t) : Rule E s (.remove n) t := by
  unfold remove at h
  cases hx : s.sockets[n]? with
  | none => simp only [hx, reduceCtorEq] at h
  | some x =>
      simp only [hx, Option.ite_none_right_eq_some, Option.some.injEq] at h
      rw [← h.2]
      exact Rule.removed hx h.1.1 h.1.2

/-! ### Requests -/

theorem rule_arrive {req : Incoming} (h : s.arrive req = some t) : Rule E s (.arrive req) t := by
  unfold arrive at h
  cases hhost : subdomainOf req.headers with
  | none =>
      simp only [hhost, Option.some.injEq] at h
      rw [← h]
      exact Rule.unhosted hhost
  | some subdomain =>
      simp only [hhost, Option.some.injEq] at h
      rw [← h]
      exact Rule.arrived hhost

theorem rule_look {requestId : String} (h : s.look r requestId = some t) :
    Rule E s (.look r requestId) t := by
  unfold look at h
  cases hq : s.requests[r]? with
  | none => simp only [hq, reduceCtorEq] at h
  | some q =>
      cases hpc : q.pc with
      | looking subdomain =>
          simp only [hq, hpc, Option.ite_none_right_eq_some] at h
          rcases h with ⟨hheld, h⟩
          cases htx : s.tunnels.lookup subdomain with
          | none =>
              simp only [htx, Option.some.injEq] at h
              rw [← h]
              exact Rule.missed hq hpc
          | some tx =>
              simp only [htx, Option.some.injEq] at h
              rw [← h]
              exact Rule.found hq hpc hheld htx
      | _ => simp only [hq, hpc, reduceCtorEq] at h

theorem rule_enroll (h : s.enroll r = some t) : Rule E s (.enroll r) t := by
  unfold enroll at h
  cases hq : s.requests[r]? with
  | none => simp only [hq, reduceCtorEq] at h
  | some q =>
      cases hpc : q.pc with
      | enrolling c =>
          simp only [hq, hpc, Option.some.injEq] at h
          rw [← h]
          exact Rule.enrolled hq hpc
      | _ => simp only [hq, hpc, reduceCtorEq] at h

theorem rule_readBody (h : s.readBody r = some t) : Rule E s (.readBody r) t := by
  unfold readBody at h
  cases hq : s.requests[r]? with
  | none => simp only [hq, reduceCtorEq] at h
  | some q =>
      cases hpc : q.pc with
      | reading c =>
          simp only [hq, hpc] at h
          cases hbody : q.req.body with
          | broken =>
              simp only [hbody, Option.some.injEq] at h
              rw [← h]
              exact Rule.broke hq hpc hbody
          | bytes body =>
              simp only [hbody] at h
              split at h
              case h_1 =>
                rw [← Option.some.inj h]
                exact Rule.panicked hq hpc
              case h_2 =>
                rw [← Option.some.inj h]
                exact Rule.read hq hpc hbody
      | _ => simp only [hq, hpc, reduceCtorEq] at h

theorem rule_send (h : s.send r = some t) : Rule E s (.send r) t := by
  unfold send at h
  cases hq : s.requests[r]? with
  | none => simp only [hq, reduceCtorEq] at h
  | some q =>
      cases hpc : q.pc with
      | sending c msg =>
          simp only [hq, hpc] at h
          cases hx : s.sockets[c.tx]? with
          | none => simp only [hx, reduceCtorEq] at h
          | some x =>
              simp only [hx] at h
              by_cases halive : x.pc.Alive
              · rw [if_pos halive, Option.ite_none_right_eq_some, Option.some.injEq] at h
                rw [← h.2]
                exact Rule.sent hq hpc hx halive
              · rw [if_neg halive, Option.some.injEq] at h
                rw [← h]
                exact Rule.unsent hq hpc hx halive
      | _ => simp only [hq, hpc, reduceCtorEq] at h

theorem rule_recv (h : s.recv r = some t) : Rule E s (.recv r) t := by
  unfold recv at h
  cases hq : s.requests[r]? with
  | none => simp only [hq, reduceCtorEq] at h
  | some q =>
      simp only [hq] at h
      split at h
      case h_1 hpc hans =>
        rw [← Option.some.inj h]
        exact Rule.responded hq hpc hans
      case h_2 hpc hans =>
        rw [← Option.some.inj h]
        exact Rule.lost hq hpc hans
      case h_3 => simp only [reduceCtorEq] at h

theorem rule_discard (h : s.discard r = some t) : Rule E s (.discard r) t := by
  unfold discard at h
  cases hq : s.requests[r]? with
  | none => simp only [hq, reduceCtorEq] at h
  | some q =>
      cases hpc : q.pc with
      | discarding c =>
          simp only [hq, hpc, Option.some.injEq] at h
          rw [← h]
          exact Rule.discarded hq hpc
      | _ => simp only [hq, hpc, reduceCtorEq] at h

theorem rule_fallbackReply {ok : Bool} (h : s.fallbackReply r ok = some t) :
    Rule E s (.fallbackReply r ok) t := by
  unfold fallbackReply at h
  cases hq : s.requests[r]? with
  | none => simp only [hq, reduceCtorEq] at h
  | some q =>
      cases hpc : q.pc with
      | falling attempt handed =>
          cases attempt with
          | none =>
              simp only [hq, hpc, Option.some.injEq] at h
              rw [← h]
              exact Rule.fellBack hq hpc
          | some c =>
              simp only [hq, hpc, Option.some.injEq] at h
              rw [← h]
              exact Rule.fellBackHeld hq hpc
      | _ => simp only [hq, hpc, reduceCtorEq] at h

theorem rule_cancel (h : s.cancel r = some t) : Rule E s (.cancel r) t := by
  unfold cancel at h
  cases hq : s.requests[r]? with
  | none => simp only [hq, reduceCtorEq] at h
  | some q =>
      simp only [hq, Option.ite_none_right_eq_some, Option.some.injEq] at h
      rw [← h.2]
      exact Rule.cancelled hq h.1

/-- Every step goes by one of the rules. -/
theorem rule_of_step {a : Action} (h : step E s a = some t) : Rule E s a t := by
  cases a with
  | connect id => exact Option.some.inj h ▸ Rule.connected
  | enlist n => exact rule_enlist h
  | take n => exact rule_take h
  | pushed n ok => exact rule_pushed h
  | receive n m => exact rule_receive h
  | fail n => exact rule_fail h
  | hangUp n => exact rule_hangUp h
  | remove n => exact rule_remove h
  | arrive req => exact rule_arrive h
  | look r requestId => exact rule_look h
  | enroll r => exact rule_enroll h
  | readBody r => exact rule_readBody h
  | send r => exact rule_send h
  | recv r => exact rule_recv h
  | discard r => exact rule_discard h
  | fallbackReply r ok => exact rule_fallbackReply h
  | cancel r => exact rule_cancel h

end Relay

end Prototype

end Rathole
