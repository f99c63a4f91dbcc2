import Rathole.Relay.Step

/-!
# What a Handler Can Do

The two request handlers as a state machine: `PcMove` lists every transition
of a handler with what decides it, and `HandlerStep` what else a handler's
action changes. On the way to its backend `proxy_handler` makes the moves of
`Routes`, which has both outcomes of every test: the tunnel of the cookie if
it is registered and then found healthy, the best tunnel of the subdomain if
it is found healthy, and else the cloud.

Three transitions reach beyond the handler and the lock: the sender of a
oneshot goes into `responses`, a message goes into the queue of a socket, and
an entry of `responses` is taken out again.

## Main definitions

* `Relay.Routes`: The moves on the way to a backend.
* `Relay.PcMove`: The transitions of a handler.
* `Relay.Moved`: A transition and nothing else.
* `Relay.HandlerStep`: All that a handler's action changes.

## Theorems

* `routed_of_act`: A routing action makes a move of `Routes`.
* `handler_step`: A handler's action is one of these.
-/

namespace Rathole

open FairLock Proxy

/-- The handler an action routes. -/
def Action.routes : Action → Option Nat
  | .prefer r | .checkPreferred r _ | .choose r | .rank r | .checkChosen r _ => some r
  | _ => none

namespace Relay

/-- How `proxy_handler` gets on to its backend, with what decides it. -/
inductive Routes (s : Relay) (r : Nat) (q : Request) : Action → RequestPc → Prop
  | registered {prefId : String} {tx : Nat} (hpc : q.pc = .preferring prefId)
      (htx : s.tunnels.lookup prefId = some tx) :
      Routes s r q (.prefer r) (.checkingPreferred prefId tx)
  | unregistered {prefId : String} (hpc : q.pc = .preferring prefId)
      (htx : s.tunnels.lookup prefId = none) : Routes s r q (.prefer r) .choosing
  | sticky {prefId requestId : String} {tx : Nat} (hpc : q.pc = .checkingPreferred prefId tx)
      (hh : healthy s.health s.now prefId = true) : Routes s r q (.checkPreferred r requestId)
        (.enrolling { id := prefId, tx := tx, requestId := requestId, held := true })
  | unhealthy {prefId requestId : String} {tx : Nat} (hpc : q.pc = .checkingPreferred prefId tx)
      (hh : healthy s.health s.now prefId = false) :
      Routes s r q (.checkPreferred r requestId) .choosing
  | choose (hpc : q.pc = .choosing) : Routes s r q (.choose r) .ranking
  | ranked {id : String} {tx : Nat} (hpc : q.pc = .ranking)
      (hbest : chooseBestTunnel s.tunnels s.health (subdomainOf q.headers) = some (id, tx)) :
      Routes s r q (.rank r) (.checkingChosen id tx)
  | unranked (hpc : q.pc = .ranking)
      (hbest : chooseBestTunnel s.tunnels s.health (subdomainOf q.headers) = none) :
      Routes s r q (.rank r) .cloud
  | chosen {id requestId : String} {tx : Nat} (hpc : q.pc = .checkingChosen id tx)
      (hh : healthy s.health s.now id = true) : Routes s r q (.checkChosen r requestId)
        (.enrolling { id := id, tx := tx, requestId := requestId, held := false })
  | fallback {id requestId : String} {tx : Nat} (hpc : q.pc = .checkingChosen id tx)
      (hh : healthy s.health s.now id = false) : Routes s r q (.checkChosen r requestId) .cloud

/-- Where handler `r`, which is `q`, gets to by an action, apart from a
    message that is sent and an entry of `responses`. -/
inductive PcMove (env : Env) (s : Relay) (r : Nat) (q : Request) : Action → RequestPc → Prop
  | list (hpc : q.pc = .listing) : PcMove env s r q (.list r) .finding
  | found {id requestId : String} {tx : Nat} (hpc : q.pc = .finding) (he : q.entry = .tunnel id)
      (htx : s.tunnels.lookup id = some tx) : PcMove env s r q (.find r requestId)
        (.enrolling { id := id, tx := tx, requestId := requestId, held := true })
  | notFound {requestId : String} (hpc : q.pc = .finding) :
      PcMove env s r q (.find r requestId) (.returned (.error .tunnelNotFound))
  | preferred {prefId : String} {tx : Nat} (hpc : q.pc = .preferring prefId)
      (htx : s.tunnels.lookup prefId = some tx) :
      PcMove env s r q (.prefer r) (.checkingPreferred prefId tx)
  | unregistered {prefId : String} (hpc : q.pc = .preferring prefId) :
      PcMove env s r q (.prefer r) .choosing
  | sticky {prefId requestId : String} {tx : Nat} (hpc : q.pc = .checkingPreferred prefId tx) :
      PcMove env s r q (.checkPreferred r requestId)
        (.enrolling { id := prefId, tx := tx, requestId := requestId, held := true })
  | unhealthy {prefId requestId : String} {tx : Nat}
      (hpc : q.pc = .checkingPreferred prefId tx) :
      PcMove env s r q (.checkPreferred r requestId) .choosing
  | choose (hpc : q.pc = .choosing) : PcMove env s r q (.choose r) .ranking
  | ranked {id : String} {tx : Nat} (hpc : q.pc = .ranking)
      (hbest : chooseBestTunnel s.tunnels s.health (subdomainOf q.headers) = some (id, tx)) :
      PcMove env s r q (.rank r) (.checkingChosen id tx)
  | unranked (hpc : q.pc = .ranking) : PcMove env s r q (.rank r) .cloud
  | chosen {id requestId : String} {tx : Nat} (hpc : q.pc = .checkingChosen id tx) :
      PcMove env s r q (.checkChosen r requestId)
        (.enrolling { id := id, tx := tx, requestId := requestId, held := false })
  | fallback {id requestId : String} {tx : Nat} (hpc : q.pc = .checkingChosen id tx) :
      PcMove env s r q (.checkChosen r requestId) .cloud
  | read {c : Call} (hpc : q.pc = .reading c) : PcMove env s r q (.readBody r true) (.sending c)
  | unreadable {c : Call} (hpc : q.pc = .reading c) :
      PcMove env s r q (.readBody r false) (.returned (.status .badRequest))
  | unsent {c : Call} {id : String} {x : Socket} (hpc : q.pc = .sending c)
      (he : q.entry = .tunnel id) (hx : s.sockets[c.tx]? = some x) (hl : ¬ x.InLoop) :
      PcMove env s r q (.send r) (.returned (.error .tunnelSendError))
  | unsentProxy {c : Call} (hpc : q.pc = .sending c) (he : q.entry = .proxy) :
      PcMove env s r q (.send r) (.failing c .badGateway)
  | unanswered {c : Call} {since : Nat} (hpc : q.pc = .waiting c since)
      (ha : q.answer = .senderDropped) :
      PcMove env s r q (.resolve r) (.returned (.error .tunnelResponseError))
  | unansweredProxy {c : Call} {since : Nat} (hpc : q.pc = .waiting c since)
      (ha : q.answer = .senderDropped) : PcMove env s r q (.resolve r) (.failing c .badGateway)
  | answered {c : Call} {since : Nat} {res : HttpResponse} (hpc : q.pc = .waiting c since)
      (ha : q.answer = .sent res) :
      PcMove env s r q (.resolve r) (.returned (tunnelOutcome env res))
  | answeredProxy {c : Call} {since : Nat} {res : HttpResponse} {o : Outcome}
      (hpc : q.pc = .waiting c since) (ha : q.answer = .sent res)
      (ho : proxyOutcome env c.id res = some o) : PcMove env s r q (.resolve r) (.returned o)
  | expire {c : Call} {since : Nat} (hpc : q.pc = .waiting c since) (ha : q.answer = .empty)
      (ht : since + requestTimeout ≤ s.now) :
      PcMove env s r q (.expire r) (.failing c .gatewayTimeout)
  | cloud {failure : Option StatusCode} (hpc : q.pc = .cloud) {o : Outcome}
      (ho : o = .cloud ∨ ∃ code, o = .status code) :
      PcMove env s r q (.cloudReply r failure) (.returned o)
  | cancel (hrun : q.Running) : PcMove env s r q (.cancel r) .dropped

/-- The handler moves, and nothing changes but its lock and the health map. -/
def Moves (env : Env) (s : Relay) (r : Nat) (a : Action) (t : Relay) : Prop :=
  ∃ (q : Request) (pc : RequestPc) (lock : RwLock Task) (health : TunnelHealthMap),
    s.requests[r]? = some q ∧ PcMove env s r q a pc ∧ RwLock.Acts (.request r) s.lock lock ∧
    t = { s.moveRequest r q pc lock with health := health }

/-- The handler moves, and nothing changes but its lock. -/
def Moved (env : Env) (s : Relay) (r : Nat) (a : Action) (t : Relay) : Prop :=
  ∃ (q : Request) (pc : RequestPc) (lock : RwLock Task), s.requests[r]? = some q ∧
    PcMove env s r q a pc ∧ RwLock.Acts (.request r) s.lock lock ∧ t = s.moveRequest r q pc lock

/-- The handler gets on to its backend, and nothing changes but its lock. -/
def Routed (s : Relay) (r : Nat) (a : Action) (t : Relay) : Prop :=
  ∃ (q : Request) (pc : RequestPc) (lock : RwLock Task), s.requests[r]? = some q ∧
    Routes s r q a pc ∧ RwLock.Acts (.request r) s.lock lock ∧ t = s.moveRequest r q pc lock

/-- The sender of the handler's oneshot goes into `responses`. -/
def Enrolls (s : Relay) (r : Nat) (t : Relay) : Prop :=
  ∃ (q : Request) (c : Call) (pc : RequestPc), s.requests[r]? = some q ∧ q.pc = .enrolling c ∧
    (pc = .reading c ∨ pc = .sending c) ∧
    t = (s.insertResponse c.requestId r).setRequest r { q with pc := pc }

/-- The message of handler `r` goes into the queue of a socket in its loop,
    and the handler waits for the answer. -/
def Sends (s : Relay) (r : Nat) (t : Relay) : Prop :=
  ∃ (q : Request) (c : Call) (x : Socket), s.requests[r]? = some q ∧ q.pc = .sending c ∧
    s.sockets[c.tx]? = some x ∧ x.InLoop ∧
    t = (s.setSocket c.tx { x with queue := x.queue ++ [requestMessage q c] }).setRequest r
      { q with pc := .waiting c s.now }

/-- A failed call takes its entry out of `responses`, and the handler
    returns. -/
def Discards (s : Relay) (r : Nat) (t : Relay) : Prop :=
  ∃ (q : Request) (c : Call) (code : StatusCode) (lock : RwLock Task) (health : TunnelHealthMap),
    s.requests[r]? = some q ∧ q.pc = .failing c code ∧ RwLock.Acts (.request r) s.lock lock ∧
    t = { (s.moveRequest r q (.returned (.status code)) lock).removeResponse c.requestId with
      health := health }

/-- All that a handler's action changes. -/
def HandlerStep (env : Env) (s : Relay) (r : Nat) (a : Action) (t : Relay) : Prop :=
  Moves env s r a t ∨ (a = .enroll r ∧ Enrolls s r t) ∨ (a = .send r ∧ Sends s r t) ∨
    (a = .discard r ∧ Discards s r t) ∨ t = { s with aborted := true }

variable {env : Env} {s t : Relay} {r : Nat} {q : Request}

theorem moved_of_move {a : Action} {pc : RequestPc} {lock : RwLock Task}
    (hq : s.requests[r]? = some q) (hm : PcMove env s r q a pc)
    (hl : RwLock.Acts (.request r) s.lock lock) : Moved env s r a (s.moveRequest r q pc lock) :=
  ⟨q, pc, lock, hq, hm, hl, rfl⟩

theorem Moved.moves {a : Action} (h : Moved env s r a t) : Moves env s r a t := by
  rcases h with ⟨q, pc, lock, hq, hm, hl, ht⟩
  exact ⟨q, pc, lock, s.health, hq, hm, hl, ht⟩

theorem finish_eq (s : Relay) (r : Nat) (q : Request) (held : Bool) (o : Outcome) :
    ∃ lock, RwLock.Acts (.request r) s.lock lock ∧
      s.finish r q held o = s.moveRequest r q (.returned o) lock := by
  cases held with
  | true => exact ⟨_, .release _ _, rfl⟩
  | false => exact ⟨_, .refl _, rfl⟩

theorem moved_of_finish {a : Action} {o : Outcome} (hq : s.requests[r]? = some q) (held : Bool)
    (hm : PcMove env s r q a (.returned o)) : Moved env s r a (s.finish r q held o) := by
  rcases finish_eq s r q held o with ⟨lock, hl, heq⟩
  rw [heq]
  exact moved_of_move hq hm hl

theorem list_moved (h : s.list r = some t) : Moved env s r (.list r) t := by
  unfold list at h
  cases hq : s.requests[r]? with
  | none => simp only [hq, reduceCtorEq] at h
  | some q =>
      simp only [hq, Option.ite_none_right_eq_some, Option.some.injEq] at h
      rw [← h.2]
      exact moved_of_move hq (.list h.1.1) (.trans (.release _ _) (.request _ _))

theorem find_moved {requestId : String} (h : s.find r requestId = some t) :
    Moved env s r (.find r requestId) t := by
  unfold find at h
  cases hq : s.requests[r]? with
  | none => simp only [hq, reduceCtorEq] at h
  | some q =>
      cases he : q.entry with
      | proxy => simp only [hq, he, reduceCtorEq] at h
      | tunnel id =>
          simp only [hq, he, Option.ite_none_right_eq_some] at h
          have hbody := h.2
          cases hl : s.tunnels.lookup id with
          | none =>
              simp only [hl, Option.some.injEq] at hbody
              rw [← hbody]
              -- The guard of the lookup goes with the handler that returns.
              exact moved_of_finish hq true (.notFound h.1.1)
          | some tx =>
              simp only [hl, Option.some.injEq] at hbody
              rw [← hbody]
              exact moved_of_move hq (.found h.1.1 he hl) (.refl _)

/-! On the way to a backend each test has its two outcomes, and they are kept:
one lemma for each action. -/

theorem prefer_routed (h : s.prefer r = some t) : Routed s r (.prefer r) t := by
  unfold prefer at h
  cases hq : s.requests[r]? with
  | none => simp only [hq, reduceCtorEq] at h
  | some q =>
      cases hp : q.pc with
      | preferring prefId =>
          simp only [hq, hp, Option.ite_none_right_eq_some] at h
          have hbody := h.2
          cases hl : s.tunnels.lookup prefId with
          | none =>
              simp only [hl, Option.some.injEq] at hbody
              -- One guard goes, the next one is asked for.
              exact ⟨q, _, _, hq, .unregistered hp hl, .trans (.release _ _) (.request _ _),
                hbody.symm⟩
          | some tx =>
              simp only [hl, Option.some.injEq] at hbody
              -- The guard stays for the body of the `if let`.
              exact ⟨q, _, _, hq, .registered hp hl, .refl _, hbody.symm⟩
      | _ => simp only [hq, hp, reduceCtorEq] at h

theorem checkPreferred_routed {requestId : String} (h : s.checkPreferred r requestId = some t) :
    Routed s r (.checkPreferred r requestId) t := by
  unfold checkPreferred at h
  cases hq : s.requests[r]? with
  | none => simp only [hq, reduceCtorEq] at h
  | some q =>
      cases hp : q.pc with
      | checkingPreferred prefId tx =>
          cases hh : healthy s.health s.now prefId with
          | true =>
              simp only [hq, hp, hh, if_true, Option.some.injEq] at h
              exact ⟨q, _, _, hq, .sticky hp hh, .refl _, h.symm⟩
          | false =>
              simp only [hq, hp, hh, Bool.false_eq_true, if_false, Option.some.injEq] at h
              exact ⟨q, _, _, hq, .unhealthy hp hh, .trans (.release _ _) (.request _ _), h.symm⟩
      | _ => simp only [hq, hp, reduceCtorEq] at h

theorem choose_routed (h : s.choose r = some t) : Routed s r (.choose r) t := by
  unfold choose at h
  cases hq : s.requests[r]? with
  | none => simp only [hq, reduceCtorEq] at h
  | some q =>
      simp only [hq, Option.ite_none_right_eq_some, Option.some.injEq] at h
      exact ⟨q, _, _, hq, .choose h.1.1, .refl _, h.2.symm⟩

theorem rank_routed (h : s.rank r = some t) : Routed s r (.rank r) t := by
  unfold rank at h
  cases hq : s.requests[r]? with
  | none => simp only [hq, reduceCtorEq] at h
  | some q =>
      simp only [hq, Option.ite_none_right_eq_some, Option.some.injEq] at h
      rw [← h.2]
      cases hbest : chooseBestTunnel s.tunnels s.health (subdomainOf q.headers) with
      | none => exact ⟨q, _, _, hq, .unranked h.1 hbest, .release _ _, rfl⟩
      | some p =>
          rcases p with ⟨id, tx⟩
          exact ⟨q, _, _, hq, .ranked h.1 hbest, .release _ _, rfl⟩

theorem checkChosen_routed {requestId : String} (h : s.checkChosen r requestId = some t) :
    Routed s r (.checkChosen r requestId) t := by
  unfold checkChosen at h
  cases hq : s.requests[r]? with
  | none => simp only [hq, reduceCtorEq] at h
  | some q =>
      cases hp : q.pc with
      | checkingChosen id tx =>
          cases hh : healthy s.health s.now id with
          | true =>
              simp only [hq, hp, hh, if_true, Option.some.injEq] at h
              exact ⟨q, _, _, hq, .chosen hp hh, .refl _, h.symm⟩
          | false =>
              simp only [hq, hp, hh, Bool.false_eq_true, if_false, Option.some.injEq] at h
              exact ⟨q, _, _, hq, .fallback hp hh, .refl _, h.symm⟩
      | _ => simp only [hq, hp, reduceCtorEq] at h

/-- What the routing actions do. -/
theorem routed_of_act {a : Action} (ha : a.routes = some r) (h : act env s a = some t) :
    Routed s r a t := by
  cases a with
  | prefer _ => cases ha; exact prefer_routed h
  | checkPreferred _ _ => cases ha; exact checkPreferred_routed h
  | choose _ => cases ha; exact choose_routed h
  | rank _ => cases ha; exact rank_routed h
  | checkChosen _ _ => cases ha; exact checkChosen_routed h
  | _ => simp only [Action.routes, reduceCtorEq] at ha

/-- A move on the way to a backend is a move. -/
theorem Routes.move {a : Action} {pc : RequestPc} (hm : Routes s r q a pc) :
    PcMove env s r q a pc := by
  cases hm with
  | registered hpc htx => exact .preferred hpc htx
  | unregistered hpc => exact .unregistered hpc
  | sticky hpc => exact .sticky hpc
  | unhealthy hpc => exact .unhealthy hpc
  | choose hpc => exact .choose hpc
  | ranked hpc hbest => exact .ranked hpc hbest
  | unranked hpc => exact .unranked hpc
  | chosen hpc => exact .chosen hpc
  | fallback hpc => exact .fallback hpc

theorem moved_of_routed {a : Action} (h : Routed s r a t) : Moved env s r a t := by
  rcases h with ⟨q, pc, lock, hq, hm, hl, rfl⟩
  exact moved_of_move hq hm.move hl

theorem enroll_step (h : s.enroll r = some t) :
    Enrolls s r t ∨ t = { s with aborted := true } := by
  unfold enroll at h
  cases hq : s.requests[r]? with
  | none => simp only [hq, reduceCtorEq] at h
  | some q =>
      cases hp : q.pc with
      | enrolling c =>
          cases he : q.entry with
          | proxy =>
              simp only [hq, hp, he, Option.some.injEq] at h
              rw [← h, ← he]
              exact Or.inl ⟨q, c, _, hq, hp, Or.inl rfl, rfl⟩
          | tunnel id =>
              cases hh : headersUnwrapped q.headers with
              | none =>
                  simp only [hq, hp, he, hh, Option.some.injEq] at h
                  -- A header of `tunnel` that is no string: the `unwrap` panics.
                  exact Or.inr h.symm
              | some headers =>
                  simp only [hq, hp, he, hh, Option.some.injEq] at h
                  rw [← h, ← he]
                  exact Or.inl ⟨q, c, _, hq, hp, Or.inr rfl, rfl⟩
      | _ => simp only [hq, hp, reduceCtorEq] at h

theorem readBody_moved (env : Env) {ok : Bool} (h : s.readBody r ok = some t) :
    Moved env s r (.readBody r ok) t := by
  unfold readBody at h
  cases hq : s.requests[r]? with
  | none => simp only [hq, reduceCtorEq] at h
  | some q =>
      cases hp : q.pc with
      | reading c =>
          cases ok with
          | true =>
              simp only [hq, hp, if_pos, Option.some.injEq] at h
              rw [← h]
              exact moved_of_move hq (.read hp) (.refl _)
          | false =>
              simp only [hq, hp, Bool.false_eq_true, if_false, Option.some.injEq] at h
              rw [← h]
              exact moved_of_finish hq _ (.unreadable hp)
      | _ => simp only [hq, hp, reduceCtorEq] at h

/-- A message goes into the queue of a socket that is in its loop and has room
    there, or the socket has left, and the call has failed. -/
theorem send_cases (h : s.send r = some t) :
    ∃ q c x, s.requests[r]? = some q ∧ q.pc = .sending c ∧ s.sockets[c.tx]? = some x ∧
      ((x.InLoop ∧ x.queue.length < queueCapacity ∧
          t = (s.setSocket c.tx { x with queue := x.queue ++ [requestMessage q c] }).setRequest r
            { q with pc := .waiting c s.now }) ∨
        (¬ x.InLoop ∧ t = s.failCall r q c .tunnelSendError .badGateway)) := by
  unfold send at h
  cases hq : s.requests[r]? with
  | none => simp only [hq, reduceCtorEq] at h
  | some q =>
      cases hp : q.pc with
      | sending c =>
          cases hx : s.sockets[c.tx]? with
          | none => simp only [hq, hp, hx, reduceCtorEq] at h
          | some x =>
              refine ⟨q, c, x, rfl, hp, hx, ?_⟩
              by_cases hl : x.InLoop
              · -- A full queue: the action is not possible yet.
                by_cases hroom : x.queue.length < queueCapacity
                · simp only [hq, hp, hx, if_pos hl, if_pos hroom, Option.some.injEq] at h
                  exact Or.inl ⟨hl, hroom, h.symm⟩
                · simp only [hq, hp, hx, if_pos hl, if_neg hroom, reduceCtorEq] at h
              · simp only [hq, hp, hx, if_neg hl, Option.some.injEq] at h
                exact Or.inr ⟨hl, h.symm⟩
      | _ => simp only [hq, hp, reduceCtorEq] at h

/-- Sending puts the message into the queue of a socket that is in its loop,
    and the handler waits; or the socket has left, and the call has failed. -/
theorem send_step (env : Env) (h : s.send r = some t) :
    Moved env s r (.send r) t ∨ Sends s r t := by
  rcases send_cases h with ⟨q, c, x, hq, hp, hx, ⟨hl, _, ht⟩ | ⟨hl, ht⟩⟩
  · exact Or.inr ⟨q, c, x, hq, hp, hx, hl, ht⟩
  · -- The receiver is gone; the two handlers differ in what they do then.
    rw [ht, failCall]
    cases he : q.entry with
    | tunnel id => exact Or.inl (moved_of_finish hq _ (.unsent hp he hx hl))
    | proxy => exact Or.inl (moved_of_move hq (.unsentProxy hp he) (.refl _))

theorem resolve_step (h : resolve env s r = some t) :
    Moves env s r (.resolve r) t ∨ t = { s with aborted := true } := by
  unfold resolve at h
  cases hq : s.requests[r]? with
  | none => simp only [hq, reduceCtorEq] at h
  | some q =>
      cases hp : q.pc with
      | waiting c since =>
          cases ha : q.answer with
          -- Nothing has come, so nothing completes.
          | empty => simp only [hq, hp, ha, reduceCtorEq] at h
          | senderDropped =>
              simp only [hq, hp, ha, Option.some.injEq, failCall] at h
              rw [← h]
              cases he : q.entry with
              | tunnel id => exact Or.inl (moved_of_finish hq _ (.unanswered hp ha)).moves
              | proxy => exact Or.inl (moved_of_move hq (.unansweredProxy hp ha) (.refl _)).moves
          | sent res =>
              cases he : q.entry with
              | tunnel id =>
                  simp only [hq, hp, ha, he, Option.some.injEq] at h
                  rw [← h]
                  exact Or.inl (moved_of_finish hq _ (.answered hp ha)).moves
              | proxy =>
                  cases ho : proxyOutcome env c.id res with
                  | none =>
                      simp only [hq, hp, ha, he, ho, Option.some.injEq] at h
                      exact Or.inr h.symm
                  | some o =>
                      simp only [hq, hp, ha, he, ho, Option.some.injEq] at h
                      -- A success is counted in the health map as well.
                      rcases finish_eq s r q c.held o with ⟨lock, hl, heq⟩
                      rw [← h, heq]
                      exact Or.inl ⟨q, _, lock, _, hq, .answeredProxy hp ha ho, hl, rfl⟩
      | _ => simp only [hq, hp, reduceCtorEq] at h

theorem expire_moved (h : s.expire r = some t) : Moved env s r (.expire r) t := by
  unfold expire at h
  cases hq : s.requests[r]? with
  | none => simp only [hq, reduceCtorEq] at h
  | some q =>
      simp only [hq] at h
      -- Only `proxy_handler` has a timeout, and only on an empty oneshot.
      split at h
      · rename_i c since hp he ha
        rw [Option.ite_none_right_eq_some, Option.some.injEq, failCall, he] at h
        rw [← h.2]
        exact moved_of_move hq (.expire hp ha h.1) (.refl _)
      · simp only [reduceCtorEq] at h

theorem discard_step (h : s.discard r = some t) : Discards s r t := by
  unfold discard at h
  cases hq : s.requests[r]? with
  | none => simp only [hq, reduceCtorEq] at h
  | some q =>
      cases hp : q.pc with
      | failing c code =>
          simp only [hq, hp, Option.some.injEq] at h
          rcases finish_eq s r q c.held (.status code) with ⟨lock, hl, heq⟩
          rw [← h, heq]
          exact ⟨q, c, code, lock, _, hq, hp, hl, rfl⟩
      | _ => simp only [hq, hp, reduceCtorEq] at h

theorem cloudReply_moved {failure : Option StatusCode} (h : s.cloudReply r failure = some t) :
    Moved env s r (.cloudReply r failure) t := by
  unfold cloudReply at h
  cases hq : s.requests[r]? with
  | none => simp only [hq, reduceCtorEq] at h
  | some q =>
      simp only [hq, Option.ite_none_right_eq_some] at h
      have hbody := h.2
      cases failure with
      | none =>
          simp only [Option.some.injEq] at hbody
          rw [← hbody]
          exact moved_of_finish hq _ (.cloud h.1 (Or.inl rfl))
      | some code =>
          simp only [Option.some.injEq] at hbody
          rw [← hbody]
          exact moved_of_finish hq _ (.cloud h.1 (Or.inr ⟨code, rfl⟩))

theorem cancel_moved (env : Env) (h : s.cancel r = some t) :
    Moved env s r (.cancel r) t := by
  unfold cancel at h
  cases hq : s.requests[r]? with
  | none => simp only [hq, reduceCtorEq] at h
  | some q =>
      simp only [hq, Option.ite_none_right_eq_some, Option.some.injEq] at h
      rw [← h.2]
      exact moved_of_move hq (.cancel h.1) (.abandon _)

/-- All a handler's action can do. -/
theorem handler_step {a : Action} (ha : a.handler = some r) (h : act env s a = some t) :
    HandlerStep env s r a t := by
  cases a with
  | list _ => cases ha; exact Or.inl (list_moved h).moves
  | find _ _ => cases ha; exact Or.inl (find_moved h).moves
  | prefer _ | checkPreferred _ _ | choose _ | rank _ | checkChosen _ _ =>
      exact Or.inl (Moved.moves (moved_of_routed (routed_of_act ha h)))
  | enroll _ =>
      cases ha
      rcases enroll_step h with he | ht
      · exact Or.inr (Or.inl ⟨rfl, he⟩)
      · exact Or.inr (Or.inr (Or.inr (Or.inr ht)))
  | readBody _ _ => cases ha; exact Or.inl (readBody_moved env h).moves
  | send _ =>
      cases ha
      rcases send_step env h with hm | hs
      · exact Or.inl hm.moves
      · exact Or.inr (Or.inr (Or.inl ⟨rfl, hs⟩))
  | resolve _ =>
      cases ha
      rcases resolve_step h with hm | ht
      · exact Or.inl hm
      · exact Or.inr (Or.inr (Or.inr (Or.inr ht)))
  | expire _ => cases ha; exact Or.inl (expire_moved h).moves
  | discard _ => cases ha; exact Or.inr (Or.inr (Or.inr (Or.inl ⟨rfl, discard_step h⟩)))
  | cloudReply _ _ => cases ha; exact Or.inl (cloudReply_moved h).moves
  | cancel _ => cases ha; exact Or.inl (cancel_moved env h).moves
  | _ => exact absurd ha (by simp only [Action.handler, reduceCtorEq, not_false_eq_true])

end Relay

end Rathole
