import Rathole.Lib.Numbered
import Rathole.Relay.Handlers

/-!
# What a Step of the Relay Can Do

The steps of `Relay.step`, seen from each part of the state. A socket moves
only by its own actions, apart from its queue, which a request may extend
(`socket_of_step`); the table changes by `enlist` and `cleanupRemove` only
(`tunnels_of_step`); a handler starts to wait for an answer by `send` only,
and into the queue of a socket that is in its loop (`waits_of_step`).

Handlers differ in where they go, not in what they touch. `Advance` is the
effect they have in common: one handler at another await, another lock, and
some oneshots completed or dropped.

## Main definitions

* `Relay.SameButAnswers`: Equal apart from `responses`, oneshots and health.
* `Relay.Unanswering`: A relation to which these do not matter.
* `Relay.Advance`: A handler gets to another await.
* `Relay.Rule`: The ways through the actions, with the states they end in.
* `SocketMove`: How an action moves a socket.

## Theorems

* `rule_of_step`: Every step goes one of these ways.
* `socket_of_step`, `socket_survives`: Where a socket comes from and gets to.
* `waits_of_step`: Where a waiting handler comes from.
* `tunnels_of_step`: What happens to the table.
* `cleanup_of_step`: What moves the cleanup task.
* `lock_of_step`: Whose guards and requests change.
-/

namespace Rathole

open FairLock Numbered Proxy

namespace Relay

/-- Every handler of `t` is where it was in `s`; at most its oneshot, if it
    was empty, is not so any more. -/
def RequestsKept (s t : Relay) : Prop :=
  ∀ (r : Nat) (q' : Request), t.requests[r]? = some q' → ∃ q, s.requests[r]? = some q ∧
    q'.pc = q.pc ∧ q'.entry = q.entry ∧ (q'.answer = .empty → q.answer = .empty)

/-- `t` is `s` apart from `responses`, the health map and oneshots that were
    empty. -/
structure SameButAnswers (s t : Relay) : Prop where
  tunnels : t.tunnels = s.tunnels
  lock : t.lock = s.lock
  sockets : t.sockets = s.sockets
  cleanupQueue : t.cleanupQueue = s.cleanupQueue
  cleanup : t.cleanup = s.cleanup
  requests : RequestsKept s t

variable {s t u : Relay}

theorem requestsKept_of_eq (h : t.requests = s.requests) : RequestsKept s t := by
  intro r q' hq'
  rw [h] at hq'
  exact ⟨q', hq', rfl, rfl, id⟩

theorem SameButAnswers.refl (s : Relay) : SameButAnswers s s :=
  ⟨rfl, rfl, rfl, rfl, rfl, fun _ q hq => ⟨q, hq, rfl, rfl, fun h => h⟩⟩

theorem SameButAnswers.trans (h1 : SameButAnswers s t) (h2 : SameButAnswers t u) :
    SameButAnswers s u where
  tunnels := h2.tunnels.trans h1.tunnels
  lock := h2.lock.trans h1.lock
  sockets := h2.sockets.trans h1.sockets
  cleanupQueue := h2.cleanupQueue.trans h1.cleanupQueue
  cleanup := h2.cleanup.trans h1.cleanup
  requests := by
    intro r q'' hq''
    rcases h2.requests r q'' hq'' with ⟨q', hq', hpc', hentry', hempty'⟩
    rcases h1.requests r q' hq' with ⟨q, hq, hpc, hentry, hempty⟩
    exact ⟨q, hq, hpc'.trans hpc, hentry'.trans hentry, fun h => hempty (hempty' h)⟩

/-- Completing one oneshot that was empty changes nothing else. -/
theorem same_of_setAnswer {r : Nat} {q : Request} (hq : s.requests[r]? = some q)
    (he : q.answer = .empty) (o : Oneshot) :
    SameButAnswers s (s.setRequest r { q with answer := o }) := by
  refine ⟨rfl, rfl, rfl, rfl, rfl, fun r' q' hq' => ?_⟩
  rcases getElem?_set_cases hq' with ⟨hr, hq''⟩ | ⟨_, hq''⟩
  · rw [hr, hq'']
    exact ⟨q, hq, rfl, rfl, fun _ => he⟩
  · exact ⟨q', hq'', rfl, rfl, fun h => h⟩

/-! ### Completing oneshots -/

/-- A relation that completing an empty oneshot respects, and that neither
    `responses` nor the health map matters to. -/
structure Unanswering (R : Relay → Relay → Prop) : Prop where
  refl : ∀ s, R s s
  answer : ∀ {s : Relay} {r : Nat} {q : Request} (o : Oneshot), s.requests[r]? = some q →
    q.answer = .empty → R s (s.setRequest r { q with answer := o })
  maps : ∀ {s t : Relay} (responses : HashMap String Nat) (health : TunnelHealthMap),
    R s t → R s { t with responses := responses, health := health }

section Unanswering

variable {R : Relay → Relay → Prop}

theorem Unanswering.dropSender (h : Unanswering R) (s : Relay) (r : Nat) :
    R s (s.dropSender r) := by
  unfold Relay.dropSender
  cases hq : s.requests[r]? with
  | none => exact h.refl s
  | some q =>
      by_cases he : q.answer = .empty
      · simp only [if_pos he]
        exact h.answer _ hq he
      · simp only [if_neg he]
        exact h.refl s

theorem Unanswering.answerRequest (h : Unanswering R) (s : Relay) (r : Nat)
    (http : HttpResponse) : R s (s.answerRequest r http) := by
  unfold Relay.answerRequest
  cases hq : s.requests[r]? with
  | none => exact h.refl s
  | some q =>
      by_cases he : q.answer = .empty ∧ q.Listening
      · simp only [if_pos he]
        exact h.answer _ hq he.1
      · simp only [if_neg he]
        exact h.refl s

theorem Unanswering.removeResponse (h : Unanswering R) (s : Relay) (requestId : String) :
    R s (s.removeResponse requestId) := by
  unfold Relay.removeResponse
  cases s.responses.lookup requestId with
  | none => exact h.refl s
  | some r => exact h.maps _ _ (h.dropSender s r)

theorem Unanswering.insertResponse (h : Unanswering R) (s : Relay) (requestId : String)
    (r : Nat) : R s (s.insertResponse requestId r) := by
  unfold Relay.insertResponse
  cases s.responses.lookup requestId with
  | none => exact h.maps _ _ (h.refl s)
  | some r' =>
      by_cases hr : r' = r
      · simp only [if_pos hr]
        exact h.maps _ _ (h.refl s)
      · simp only [if_neg hr]
        exact h.maps _ _ (h.dropSender s r')

theorem Unanswering.received (h : Unanswering R) {env : Env} {id : String} {m : ControlMessage}
    (hm : received env s id m = some t) : R s t := by
  unfold Relay.received at hm
  cases m with
  | healthUpdate d ts =>
      cases hd : handleHardwareData binary32 env.overflowChecks d 85 with
      | none => simp only [hd, reduceCtorEq] at hm
      | some status =>
          simp only [hd, Option.some.injEq] at hm
          rw [← hm]
          exact h.maps _ _ (h.refl s)
  | response requestId http =>
      cases hl : s.responses.lookup requestId with
      | none =>
          simp only [hl, Option.some.injEq] at hm
          rw [← hm]
          exact h.refl s
      | some r =>
          simp only [hl, Option.some.injEq] at hm
          rw [← hm]
          exact h.maps _ _ (h.answerRequest s r http)
  | register token target =>
      rw [← Option.some.inj hm]
      exact h.refl s
  | request requestId http =>
      rw [← Option.some.inj hm]
      exact h.refl s

end Unanswering

/-- `responses` and the health map are not looked at. -/
theorem SameButAnswers.with_maps (h : SameButAnswers s t) (responses : HashMap String Nat)
    (health : TunnelHealthMap) :
    SameButAnswers s { t with responses := responses, health := health } :=
  ⟨h.tunnels, h.lock, h.sockets, h.cleanupQueue, h.cleanup, h.requests⟩

theorem unanswering_same : Unanswering SameButAnswers where
  refl := SameButAnswers.refl
  answer := fun o hq he => same_of_setAnswer hq he o
  maps := fun responses health h => h.with_maps responses health

theorem answerRequest_same (s : Relay) (r : Nat) (http : HttpResponse) :
    SameButAnswers s (s.answerRequest r http) := unanswering_same.answerRequest s r http

theorem removeResponse_same (s : Relay) (requestId : String) :
    SameButAnswers s (s.removeResponse requestId) := unanswering_same.removeResponse s requestId

theorem insertResponse_same (s : Relay) (requestId : String) (r : Nat) :
    SameButAnswers s (s.insertResponse requestId r) := unanswering_same.insertResponse s requestId r

theorem received_same {env : Env} {id : String} {m : ControlMessage}
    (h : received env s id m = some t) : SameButAnswers s t := unanswering_same.received h

/-! ### Handlers -/

/-- Handler `r` gets to an await that is not its wait for an answer. -/
def Advance (s : Relay) (r : Nat) (t : Relay) : Prop :=
  ∃ (q : Request) (pc : RequestPc) (lock : RwLock Task), s.requests[r]? = some q ∧
    pc.isWaiting = false ∧ RwLock.Acts (.request r) s.lock lock ∧
    SameButAnswers (s.moveRequest r q pc lock) t

/-- The handler's own sender goes into `responses`; another's that was under
    the same id is dropped. -/
theorem advance_insertResponse {r : Nat} {q : Request} (hq : s.requests[r]? = some q)
    {pc : RequestPc} (hpc : pc.isWaiting = false) (requestId : String) :
    Advance s r ((s.insertResponse requestId r).setRequest r { q with pc := pc }) := by
  have hsame := insertResponse_same s requestId r
  have hlt := (List.getElem?_eq_some_iff.mp hq).1
  refine ⟨q, pc, s.lock, hq, hpc, .refl _, hsame.tunnels, hsame.lock, hsame.sockets,
    hsame.cleanupQueue, hsame.cleanup, fun r' q' hq' => ?_⟩
  rcases getElem?_set_cases hq' with ⟨hr, hq''⟩ | ⟨hr, hq''⟩
  · rw [hr, hq'']
    exact ⟨_, List.getElem?_set_self hlt, rfl, rfl, id⟩
  · rcases hsame.requests r' q' hq'' with ⟨q0, hq0, hrest⟩
    exact ⟨q0, (List.getElem?_set_ne (Ne.symm hr)).trans hq0, hrest⟩

/-- A handler that moves does not wait for an answer afterwards. -/
theorem PcMove.not_waiting {env : Env} {r : Nat} {q : Request} {a : Action} {pc : RequestPc}
    (hm : PcMove env s r q a pc) : pc.isWaiting = false := by
  cases hm <;> rfl

theorem advance_of_moves {env : Env} {r : Nat} {a : Action} (h : Moves env s r a t) :
    Advance s r t := by
  rcases h with ⟨q, pc, lock, health, hq, hm, hl, ht⟩
  rw [ht]
  exact ⟨q, pc, lock, hq, hm.not_waiting, hl, (SameButAnswers.refl _).with_maps _ health⟩

theorem advance_of_enrolls {r : Nat} (h : Enrolls s r t) : Advance s r t := by
  rcases h with ⟨q, c, pc, hq, _, hpc, ht⟩
  rw [ht]
  rcases hpc with hpc | hpc
  · rw [hpc]
    exact advance_insertResponse hq rfl _
  · rw [hpc]
    exact advance_insertResponse hq rfl _

theorem advance_of_discards {r : Nat} (h : Discards s r t) : Advance s r t := by
  rcases h with ⟨q, c, code, lock, health, hq, _, hl, ht⟩
  rw [ht]
  exact ⟨q, _, lock, hq, rfl, hl, (removeResponse_same _ _).with_maps _ health⟩

/-- All a handler's action can do. -/
theorem HandlerStep.cases {env : Env} {a : Action} {r : Nat} (h : HandlerStep env s r a t) :
    Advance s r t ∨ (a = .send r ∧ Sends s r t) ∨ t = { s with aborted := true } := by
  rcases h with hm | ⟨_, he⟩ | hs | ⟨_, hd⟩ | ht
  · exact Or.inl (advance_of_moves hm)
  · exact Or.inl (advance_of_enrolls he)
  · exact Or.inr (Or.inl hs)
  · exact Or.inl (advance_of_discards hd)
  · exact Or.inr (Or.inr ht)

/-! ### Sockets -/

section Sockets

variable {n : Nat}

/-- A first message ends the socket, admits it, or sends it on to the cleanup
    task. -/
theorem firstPc_cases (env : Env) (m : Received) :
    firstPc env m = .closed ∨ firstPc env m = .onlining ∨ firstPc env m = .leaving := by
  unfold firstPc
  split
  · split
    · exact Or.inl rfl
    · rename_i token _ _
      by_cases hd : env.decode token
      · rw [if_pos hd]
        exact Or.inr (Or.inl rfl)
      · rw [if_neg hd]
        exact Or.inr (Or.inr rfl)
    · exact Or.inr (Or.inr rfl)
  · exact Or.inr (Or.inr rfl)

theorem first_cases {env : Env} {m : Received} (h : first env s n m = some t) :
    ∃ x, s.sockets[n]? = some x ∧ x.pc = .opened ∧ t = s.setSocket n { x with
      pc := firstPc env m, registered := firstPc env m = .onlining } := by
  unfold first at h
  cases hx : s.sockets[n]? with
  | none => simp only [hx, reduceCtorEq] at h
  | some x =>
      simp only [hx, Option.ite_none_right_eq_some, Option.some.injEq] at h
      exact ⟨x, rfl, h.1, h.2.symm⟩

theorem online_cases {ok : Bool} (h : s.online n ok = some t) :
    t = { s with aborted := true } ∨ ∃ x, s.sockets[n]? = some x ∧ x.pc = .onlining ∧
      t = { s.setSocket n { x with pc := .enlisting } with
        lock := s.lock.request (.socket n) .write } := by
  unfold online at h
  cases hx : s.sockets[n]? with
  | none => simp only [hx, reduceCtorEq] at h
  | some x =>
      simp only [hx, Option.ite_none_right_eq_some] at h
      have hbody := h.2
      cases ok with
      | true =>
          simp only [if_true, Option.some.injEq] at hbody
          exact Or.inr ⟨x, rfl, h.1, hbody.symm⟩
      | false =>
          simp only [Bool.false_eq_true, if_false, Option.some.injEq] at hbody
          exact Or.inl hbody.symm

theorem enlist_cases (h : s.enlist n = some t) :
    ∃ x, s.sockets[n]? = some x ∧ x.pc = .enlisting ∧ ¬ s.lock.Waits (.socket n) ∧
      t = { s.setSocket n { x with pc := .looping, armed := s.now } with
        tunnels := s.tunnels.insert x.id n
        lock := s.lock.release (.socket n) .write } := by
  unfold enlist at h
  cases hx : s.sockets[n]? with
  | none => simp only [hx, reduceCtorEq] at h
  | some x =>
      simp only [hx, Option.ite_none_right_eq_some, Option.some.injEq] at h
      exact ⟨x, rfl, h.1.1, h.1.2, h.2.symm⟩

theorem forward_cases (h : s.forward n = some t) :
    ∃ x msg rest, s.sockets[n]? = some x ∧ x.pc = .looping ∧ x.queue = msg :: rest ∧
      t = s.setSocket n { x with pc := .pushing msg, queue := rest } := by
  unfold forward at h
  cases hx : s.sockets[n]? with
  | none => simp only [hx, reduceCtorEq] at h
  | some x =>
      simp only [hx] at h
      cases hp : x.pc with
      | looping =>
          cases hq : x.queue with
          | nil => simp only [hp, hq, reduceCtorEq] at h
          | cons msg rest =>
              simp only [hp, hq, Option.some.injEq] at h
              exact ⟨x, msg, rest, rfl, hp, hq, h.symm⟩
      | _ => simp only [hp, reduceCtorEq] at h

theorem pushed_cases {ok : Bool} (h : s.pushed n ok = some t) :
    ∃ x msg, s.sockets[n]? = some x ∧ x.pc = .pushing msg ∧
      ((ok = true ∧ t = s.setSocket n { x with pc := .looping, armed := s.now }) ∨
        (ok = false ∧ t = s.leaveLoop n x)) := by
  unfold pushed at h
  cases hx : s.sockets[n]? with
  | none => simp only [hx, reduceCtorEq] at h
  | some x =>
      simp only [hx] at h
      cases hp : x.pc with
      | pushing msg =>
          refine ⟨x, msg, rfl, hp, ?_⟩
          cases ok with
          | true =>
              simp only [hp, if_true, Option.some.injEq] at h
              exact Or.inl ⟨rfl, h.symm⟩
          | false =>
              simp only [hp, Bool.false_eq_true, if_false, Option.some.injEq] at h
              exact Or.inr ⟨rfl, h.symm⟩
      | _ => simp only [hp, reduceCtorEq] at h

/-- A message keeps the socket in its loop, an error or the end of the stream
    takes it out. -/
theorem receive_cases {env : Env} {m : Received} (h : receive env s n m = some t) :
    ((∃ msg, m = .message msg) ∧ t = { s with aborted := true }) ∨
      ∃ x, s.sockets[n]? = some x ∧ x.pc = .looping ∧
      ((∃ msg, m = .message msg ∧ SameButAnswers (s.setSocket n { x with armed := s.now }) t) ∨
        ((m = .error ∨ m = .closed) ∧ t = s.leaveLoop n x)) := by
  unfold receive at h
  cases hx : s.sockets[n]? with
  | none => simp only [hx, reduceCtorEq] at h
  | some x =>
      simp only [hx, Option.ite_none_right_eq_some] at h
      have hpc := h.1
      have hbody := h.2
      cases m with
      | error =>
          simp only [Option.some.injEq] at hbody
          exact Or.inr ⟨x, rfl, hpc, Or.inr ⟨Or.inl rfl, hbody.symm⟩⟩
      | closed =>
          simp only [Option.some.injEq] at hbody
          exact Or.inr ⟨x, rfl, hpc, Or.inr ⟨Or.inr rfl, hbody.symm⟩⟩
      | message msg =>
          -- Whatever is not text that parses leaves everything but the timer.
          have quiet : t = s.setSocket n { x with armed := s.now } →
              ((∃ msg', Received.message msg = .message msg') ∧ t = { s with aborted := true }) ∨
                ∃ x', some x = some x' ∧ x'.pc = .looping ∧
                ((∃ msg', Received.message msg = .message msg' ∧
                    SameButAnswers (s.setSocket n { x' with armed := s.now }) t) ∨
                  ((Received.message msg = .error ∨ Received.message msg = .closed) ∧
                    t = s.leaveLoop n x')) := by
            intro ht
            rw [ht]
            exact Or.inr ⟨x, rfl, hpc, Or.inl ⟨msg, rfl, SameButAnswers.refl _⟩⟩
          cases msg with
          | text txt =>
              cases hf : env.fromStr txt with
              | none =>
                  simp only [hf, Option.some.injEq] at hbody
                  exact quiet hbody.symm
              | some cm =>
                  cases hr : received env (s.setSocket n { x with armed := s.now }) x.id cm with
                  | none =>
                      simp only [hf, hr, Option.some.injEq] at hbody
                      exact Or.inl ⟨⟨_, rfl⟩, hbody.symm⟩
                  | some u =>
                      simp only [hf, hr, Option.some.injEq] at hbody
                      rw [← hbody]
                      exact Or.inr ⟨x, rfl, hpc, Or.inl ⟨_, rfl, received_same hr⟩⟩
          | binary data => exact quiet (Option.some.inj hbody).symm
          | ping data => exact quiet (Option.some.inj hbody).symm
          | pong data => exact quiet (Option.some.inj hbody).symm
          | close => exact quiet (Option.some.inj hbody).symm

theorem idle_cases (h : s.idle n = some t) :
    ∃ x, s.sockets[n]? = some x ∧ x.pc = .looping ∧ x.armed + idleTimeout ≤ s.now ∧
      t = s.leaveLoop n x := by
  unfold idle at h
  cases hx : s.sockets[n]? with
  | none => simp only [hx, reduceCtorEq] at h
  | some x =>
      simp only [hx, Option.ite_none_right_eq_some, Option.some.injEq] at h
      exact ⟨x, rfl, h.1.1, h.1.2, h.2.symm⟩

theorem report_cases (h : s.report n = some t) :
    ∃ x, s.sockets[n]? = some x ∧ x.pc = .leaving ∧
      t = { s.setSocket n { x with pc := .closed } with
        cleanupQueue := s.cleanupQueue ++ [(n, x.id)] } := by
  unfold report at h
  cases hx : s.sockets[n]? with
  | none => simp only [hx, reduceCtorEq] at h
  | some x =>
      simp only [hx, Option.ite_none_right_eq_some, Option.some.injEq] at h
      exact ⟨x, rfl, h.1.1, h.2.symm⟩

end Sockets

/-! ### The cleanup task -/

theorem cleanupTake_cases (h : s.cleanupTake = some t) :
    ∃ n id rest, s.cleanup = .idle ∧ s.cleanupQueue = (n, id) :: rest ∧
      t = { s with cleanup := .offlining n id, cleanupQueue := rest } := by
  unfold cleanupTake at h
  cases hc : s.cleanup with
  | idle =>
      cases hq : s.cleanupQueue with
      | nil => simp only [hc, hq, reduceCtorEq] at h
      | cons p rest =>
          rcases p with ⟨n, id⟩
          simp only [hc, hq, Option.some.injEq] at h
          exact ⟨n, id, rest, rfl, rfl, h.symm⟩
  | _ => simp only [hc, reduceCtorEq] at h

theorem cleanupOffline_cases {ok : Bool} (h : s.cleanupOffline ok = some t) :
    t = { s with aborted := true } ∨ ∃ n id, s.cleanup = .offlining n id ∧
      t = { s with cleanup := .removing n id, lock := s.lock.request .cleanup .write } := by
  unfold cleanupOffline at h
  cases hc : s.cleanup with
  | offlining n id =>
      cases ok with
      | true =>
          simp only [hc, if_true, Option.some.injEq] at h
          exact Or.inr ⟨n, id, rfl, h.symm⟩
      | false =>
          simp only [hc, Bool.false_eq_true, if_false, Option.some.injEq] at h
          exact Or.inl h.symm
  | _ => simp only [hc, reduceCtorEq] at h

theorem cleanupRemove_cases (h : s.cleanupRemove = some t) :
    ∃ n id, s.cleanup = .removing n id ∧ ¬ s.lock.Waits .cleanup ∧
      t = { s with
        cleanup := .idle
        tunnels := s.tunnels.erase id
        lock := s.lock.release .cleanup .write } := by
  unfold cleanupRemove at h
  cases hc : s.cleanup with
  | removing n id =>
      by_cases hw : s.lock.Waits .cleanup
      · simp only [hc, if_pos hw, reduceCtorEq] at h
      · simp only [hc, if_neg hw, Option.some.injEq] at h
        exact ⟨n, id, rfl, hw, h.symm⟩
  | _ => simp only [hc, reduceCtorEq] at h

/-! ### Rules -/

/-- An action of the relay is one of a relay that has not aborted. -/
theorem act_of_step {env : Env} {a : Action} (h : step env s a = some t) :
    act env s a = some t := by
  unfold step at h
  by_cases hab : s.aborted
  · simp only [hab, if_true, reduceCtorEq] at h
  · rwa [if_neg hab] at h

/-- A new socket. -/
def freshSocket (s : Relay) (id : String) : Socket where
  id := id
  pc := .opened
  registered := false
  queue := []
  armed := s.now

/-- The ways through an action `a` in the state `s`, each with the state it
    ends in. -/
inductive Rule (env : Env) (s : Relay) : Action → Relay → Prop
  | handled {a : Action} {r : Nat} {t : Relay} (ha : a.handler = some r)
      (h : HandlerStep env s r a t) : Rule env s a t
  | arrived {entry : Entry} {method path : String} {headers : HeaderMap} {body : List UInt8}
      {t : Relay} (h : s.arrive entry method path headers body = some t) :
      Rule env s (.arrive entry method path headers body) t
  -- Panics: an error of Redis is unwrapped, or a health update overflows
  | onlinePanicked {n : Nat} {ok : Bool} : Rule env s (.online n ok) { s with aborted := true }
  | receivePanicked {n : Nat} {msg : Message} :
      Rule env s (.receive n (.message msg)) { s with aborted := true }
  | offlinePanicked {ok : Bool} : Rule env s (.cleanupOffline ok) { s with aborted := true }
  -- Sockets
  | upgraded {id : String} :
      Rule env s (.upgrade id) { s with sockets := s.sockets ++ [s.freshSocket id] }
  | first {n : Nat} {x : Socket} {m : Received} (hx : s.sockets[n]? = some x)
      (hpc : x.pc = .opened) : Rule env s (.first n m) (s.setSocket n { x with
        pc := firstPc env m, registered := firstPc env m = .onlining })
  | online {n : Nat} {x : Socket} {ok : Bool} (hx : s.sockets[n]? = some x)
      (hpc : x.pc = .onlining) : Rule env s (.online n ok)
        { s.setSocket n { x with pc := .enlisting } with
          lock := s.lock.request (.socket n) .write }
  | enlisted {n : Nat} {x : Socket} (hx : s.sockets[n]? = some x) (hpc : x.pc = .enlisting) :
      Rule env s (.enlist n) { s.setSocket n { x with pc := .looping, armed := s.now } with
        tunnels := s.tunnels.insert x.id n
        lock := s.lock.release (.socket n) .write }
  | forwarded {n : Nat} {x : Socket} {msg : ControlMessage} {rest : List ControlMessage}
      (hx : s.sockets[n]? = some x) (hpc : x.pc = .looping) (hq : x.queue = msg :: rest) :
      Rule env s (.forward n) (s.setSocket n { x with pc := .pushing msg, queue := rest })
  | pushed {n : Nat} {x : Socket} {msg : ControlMessage} (hx : s.sockets[n]? = some x)
      (hpc : x.pc = .pushing msg) :
      Rule env s (.pushed n true) (s.setSocket n { x with pc := .looping, armed := s.now })
  | received {n : Nat} {x : Socket} {msg : Message} {t : Relay} (hx : s.sockets[n]? = some x)
      (hpc : x.pc = .looping) (hsame : SameButAnswers (s.setSocket n { x with armed := s.now }) t) :
      Rule env s (.receive n (.message msg)) t
  | pushFailed {n : Nat} {x : Socket} {msg : ControlMessage} (hx : s.sockets[n]? = some x)
      (hpc : x.pc = .pushing msg) : Rule env s (.pushed n false) (s.leaveLoop n x)
  | receiveFailed {n : Nat} {x : Socket} (hx : s.sockets[n]? = some x) (hpc : x.pc = .looping) :
      Rule env s (.receive n .error) (s.leaveLoop n x)
  | disconnected {n : Nat} {x : Socket} (hx : s.sockets[n]? = some x) (hpc : x.pc = .looping) :
      Rule env s (.receive n .closed) (s.leaveLoop n x)
  | idle {n : Nat} {x : Socket} (hx : s.sockets[n]? = some x) (hpc : x.pc = .looping)
      (ht : x.armed + idleTimeout ≤ s.now) : Rule env s (.idle n) (s.leaveLoop n x)
  | reported {n : Nat} {x : Socket} (hx : s.sockets[n]? = some x) (hpc : x.pc = .leaving) :
      Rule env s (.report n) { s.setSocket n { x with pc := .closed } with
        cleanupQueue := s.cleanupQueue ++ [(n, x.id)] }
  -- The cleanup task
  | cleanupTaken {n : Nat} {id : String} {rest : List (Nat × String)} :
      Rule env s .cleanupTake { s with cleanup := .offlining n id, cleanupQueue := rest }
  | cleanupOfflined {n : Nat} {id : String} {ok : Bool} : Rule env s (.cleanupOffline ok)
      { s with cleanup := .removing n id, lock := s.lock.request .cleanup .write }
  | cleanupRemoved {id : String} : Rule env s .cleanupRemove { s with
      cleanup := .idle
      tunnels := s.tunnels.erase id
      lock := s.lock.release .cleanup .write }
  | elapsed {d : Nat} : Rule env s (.elapse d) { s with now := s.now + d }

theorem rule_of_step {env : Env} {a : Action} (h : step env s a = some t) : Rule env s a t := by
  replace h := act_of_step h
  cases ha : a.handler with
  | some r => exact Rule.handled ha (handler_step ha h)
  | none =>
      cases a with
      | arrive entry method path headers body => exact Rule.arrived h
      | upgrade id =>
          rw [← Option.some.inj h]
          exact Rule.upgraded
      | first n m =>
          rcases first_cases h with ⟨x, hx, hpc, rfl⟩
          exact Rule.first hx hpc
      | online n ok =>
          rcases online_cases h with rfl | ⟨x, hx, hpc, rfl⟩
          · exact Rule.onlinePanicked
          · exact Rule.online hx hpc
      | enlist n =>
          rcases enlist_cases h with ⟨x, hx, hpc, _, rfl⟩
          exact Rule.enlisted hx hpc
      | forward n =>
          rcases forward_cases h with ⟨x, msg, rest, hx, hpc, hq, rfl⟩
          exact Rule.forwarded hx hpc hq
      | pushed n ok =>
          rcases pushed_cases h with ⟨x, msg, hx, hpc, ⟨rfl, rfl⟩ | ⟨rfl, rfl⟩⟩
          · exact Rule.pushed hx hpc
          · exact Rule.pushFailed hx hpc
      | receive n m =>
          rcases receive_cases h with ⟨⟨msg, rfl⟩, rfl⟩ |
            ⟨x, hx, hpc, ⟨msg, rfl, hsame⟩ | ⟨rfl | rfl, rfl⟩⟩
          · exact Rule.receivePanicked
          · exact Rule.received hx hpc hsame
          · exact Rule.receiveFailed hx hpc
          · exact Rule.disconnected hx hpc
      | idle n =>
          rcases idle_cases h with ⟨x, hx, hpc, harmed, rfl⟩
          exact Rule.idle hx hpc harmed
      | report n =>
          rcases report_cases h with ⟨x, hx, hpc, rfl⟩
          exact Rule.reported hx hpc
      | cleanupTake =>
          rcases cleanupTake_cases h with ⟨n, id, rest, _, _, rfl⟩
          exact Rule.cleanupTaken
      | cleanupOffline ok =>
          rcases cleanupOffline_cases h with rfl | ⟨n, id, _, rfl⟩
          · exact Rule.offlinePanicked
          · exact Rule.cleanupOfflined
      | cleanupRemove =>
          rcases cleanupRemove_cases h with ⟨n, id, _, _, rfl⟩
          exact Rule.cleanupRemoved
      | elapse d =>
          rw [← Option.some.inj h]
          exact Rule.elapsed
      | _ => simp only [Action.handler, reduceCtorEq] at ha

/-! ### What a step does to one part of the state -/

/-- How socket `n`, which is `y` in state `s`, is moved by an action. -/
inductive SocketMove (env : Env) (s : Relay) (n : Nat) (y : Socket) : Action → Socket → Prop
  | queued {r : Nat} (msg : ControlMessage) (hl : y.InLoop) :
      SocketMove env s n y (.send r) { y with queue := y.queue ++ [msg] }
  | first {m : Received} (hpc : y.pc = .opened) : SocketMove env s n y (.first n m)
      { y with pc := firstPc env m, registered := firstPc env m = .onlining }
  | online (hpc : y.pc = .onlining) {ok : Bool} :
      SocketMove env s n y (.online n ok) { y with pc := .enlisting }
  | enlist (hpc : y.pc = .enlisting) :
      SocketMove env s n y (.enlist n) { y with pc := .looping, armed := s.now }
  | forward {msg : ControlMessage} {rest : List ControlMessage} (hpc : y.pc = .looping)
      (hq : y.queue = msg :: rest) :
      SocketMove env s n y (.forward n) { y with pc := .pushing msg, queue := rest }
  | pushed {msg : ControlMessage} (hpc : y.pc = .pushing msg) :
      SocketMove env s n y (.pushed n true) { y with pc := .looping, armed := s.now }
  | message {m : Message} (hpc : y.pc = .looping) :
      SocketMove env s n y (.receive n (.message m)) { y with armed := s.now }
  | pushFailed {msg : ControlMessage} (hpc : y.pc = .pushing msg) :
      SocketMove env s n y (.pushed n false) { y with pc := .leaving, queue := [] }
  | receiveFailed (hpc : y.pc = .looping) :
      SocketMove env s n y (.receive n .error) { y with pc := .leaving, queue := [] }
  | disconnected (hpc : y.pc = .looping) :
      SocketMove env s n y (.receive n .closed) { y with pc := .leaving, queue := [] }
  | idle (hpc : y.pc = .looping) (ht : y.armed + idleTimeout ≤ s.now) :
      SocketMove env s n y (.idle n) { y with pc := .leaving, queue := [] }
  | report (hpc : y.pc = .leaving) : SocketMove env s n y (.report n) { y with pc := .closed }

theorem id_of_move {env : Env} {a : Action} {n : Nat} {w z : Socket}
    (h : SocketMove env s n w a z) : z.id = w.id := by
  cases h <;> rfl

/-- An action leaves the sockets alone, moves one, or adds one. -/
theorem sockets_of_step {env : Env} {a : Action} (h : step env s a = some t) :
    t.sockets = s.sockets ∨
      (∃ n y x, s.sockets[n]? = some y ∧ t.sockets = s.sockets.set n x ∧
        SocketMove env s n y a x) ∨
      ∃ id, a = .upgrade id ∧ t.sockets = s.sockets ++ [s.freshSocket id] := by
  cases rule_of_step h with
  | handled ha hstep =>
      -- Among the handlers' actions only `send` reaches a socket.
      rcases hstep.cases with ⟨q, pc, lock, _, _, _, hsame⟩ |
        ⟨hsend, q, c, x, _, _, hx, hl, ht⟩ | ht
      · exact Or.inl hsame.sockets
      · rw [ht, hsend]
        exact Or.inr (Or.inl ⟨c.tx, x, _, hx, rfl, .queued _ hl⟩)
      · exact Or.inl (by rw [ht])
  | arrived harr => exact Or.inl (by rw [← Option.some.inj harr])
  | upgraded => exact Or.inr (Or.inr ⟨_, rfl, rfl⟩)
  | first hx hpc => exact Or.inr (Or.inl ⟨_, _, _, hx, rfl, .first hpc⟩)
  | online hx hpc => exact Or.inr (Or.inl ⟨_, _, _, hx, rfl, .online hpc⟩)
  | enlisted hx hpc => exact Or.inr (Or.inl ⟨_, _, _, hx, rfl, .enlist hpc⟩)
  | forwarded hx hpc hq => exact Or.inr (Or.inl ⟨_, _, _, hx, rfl, .forward hpc hq⟩)
  | pushed hx hpc => exact Or.inr (Or.inl ⟨_, _, _, hx, rfl, .pushed hpc⟩)
  | received hx hpc hsame => exact Or.inr (Or.inl ⟨_, _, _, hx, hsame.sockets, .message hpc⟩)
  | pushFailed hx hpc => exact Or.inr (Or.inl ⟨_, _, _, hx, rfl, .pushFailed hpc⟩)
  | receiveFailed hx hpc => exact Or.inr (Or.inl ⟨_, _, _, hx, rfl, .receiveFailed hpc⟩)
  | disconnected hx hpc => exact Or.inr (Or.inl ⟨_, _, _, hx, rfl, .disconnected hpc⟩)
  | idle hx hpc harmed => exact Or.inr (Or.inl ⟨_, _, _, hx, rfl, .idle hpc harmed⟩)
  | reported hx hpc => exact Or.inr (Or.inl ⟨_, _, _, hx, rfl, .report hpc⟩)
  | onlinePanicked | receivePanicked | offlinePanicked | cleanupTaken | cleanupOfflined
  | cleanupRemoved | elapsed =>
      exact Or.inl rfl

/-- Every socket of the next state was there, as it is or moved by the action,
    or is new. -/
theorem socket_of_step {env : Env} {a : Action} {k : Nat} {z : Socket}
    (h : step env s a = some t) (hz : t.sockets[k]? = some z) :
    s.sockets[k]? = some z ∨ (∃ w, s.sockets[k]? = some w ∧ SocketMove env s k w a z) ∨
      ∃ id, z = s.freshSocket id := by
  rcases sockets_of_step h with hs | ⟨n, y, x, hy, hs, hmove⟩ | ⟨id, _, hs⟩
  · rw [hs] at hz
    exact Or.inl hz
  · rw [hs] at hz
    rcases getElem?_set_cases hz with ⟨hk, hzx⟩ | ⟨_, hzk⟩
    · rw [hk, hzx]
      exact Or.inr (Or.inl ⟨y, hy, hmove⟩)
    · exact Or.inl hzk
  · rw [hs] at hz
    rcases getElem?_append_cases hz with hold | ⟨_, hnew⟩
    · exact Or.inl hold
    · exact Or.inr (Or.inr ⟨id, hnew⟩)

/-- Sockets do not go away. -/
theorem socket_survives {env : Env} {a : Action} {k : Nat} {w : Socket}
    (h : step env s a = some t) (hw : s.sockets[k]? = some w) :
    ∃ z, t.sockets[k]? = some z ∧ (z = w ∨ SocketMove env s k w a z) := by
  have hlt := (List.getElem?_eq_some_iff.mp hw).1
  rcases sockets_of_step h with hs | ⟨n, y, x, hy, hs, hmove⟩ | ⟨id, _, hs⟩
  · exact ⟨w, by rw [hs]; exact hw, Or.inl rfl⟩
  · by_cases hk : n = k
    · subst hk
      rw [hy, Option.some.injEq] at hw
      rw [hs, ← hw]
      exact ⟨x, List.getElem?_set_self hlt, Or.inr hmove⟩
    · exact ⟨w, by rw [hs, List.getElem?_set_ne hk]; exact hw, Or.inl rfl⟩
  · exact ⟨w, by rw [hs, List.getElem?_append_left hlt]; exact hw, Or.inl rfl⟩

/-- Handlers do not write the table, nor do they move the cleanup task. -/
theorem HandlerStep.frame {env : Env} {a : Action} {r : Nat} (h : HandlerStep env s r a t) :
    t.tunnels = s.tunnels ∧ t.cleanup = s.cleanup := by
  rcases h.cases with ⟨q, pc, lock, _, _, _, hsame⟩ | ⟨_, q, c, x, _, _, _, _, ht⟩ | ht
  · exact ⟨hsame.tunnels, hsame.cleanup⟩
  · rw [ht]
    exact ⟨rfl, rfl⟩
  · rw [ht]
    exact ⟨rfl, rfl⟩

/-- Only a registration and a removal write the table. -/
theorem tunnels_of_step {env : Env} {a : Action} (h : step env s a = some t)
    (hne : ∀ n, a ≠ .enlist n) (hnc : a ≠ .cleanupRemove) : t.tunnels = s.tunnels := by
  cases rule_of_step h with
  | handled ha hstep => exact hstep.frame.1
  | arrived harr => rw [← Option.some.inj harr]
  | received hx hpc hsame => exact hsame.tunnels
  | enlisted => exact absurd rfl (hne _)
  | cleanupRemoved => exact absurd rfl hnc
  | _ => rfl

/-- Only the cleanup task moves itself. -/
theorem cleanup_of_step {env : Env} {a : Action} (h : step env s a = some t)
    (hc : a.task ≠ some .cleanup) (ht : a ≠ .cleanupTake) : t.cleanup = s.cleanup := by
  cases rule_of_step h with
  | handled ha hstep => exact hstep.frame.2
  | arrived harr => rw [← Option.some.inj harr]
  | received hx hpc hsame => exact hsame.cleanup
  | cleanupTaken => exact absurd rfl ht
  | cleanupOfflined | cleanupRemoved => exact absurd rfl hc
  | _ => rfl

/-- The lock of the table is moved by the task of the action, or by a
    handler. -/
theorem lock_of_step {env : Env} {a : Action} (h : step env s a = some t) :
    ∃ τ, (a.task = some τ ∨ ∃ r, τ = .request r) ∧ RwLock.Acts τ s.lock t.lock := by
  have keep : t.lock = s.lock →
      ∃ τ, (a.task = some τ ∨ ∃ r, τ = .request r) ∧ RwLock.Acts τ s.lock t.lock := by
    intro hl
    rw [hl]
    exact ⟨.request 0, Or.inr ⟨0, rfl⟩, .refl _⟩
  cases rule_of_step h with
  | @handled _ r _ ha hstep =>
      rcases hstep.cases with ⟨q, pc, lock, _, _, hl, hsame⟩ | ⟨_, q, c, x, _, _, _, _, ht⟩ | ht
      · have heq : t.lock = lock := hsame.lock
        rw [heq]
        exact ⟨.request r, Or.inr ⟨r, rfl⟩, hl⟩
      · exact keep (by rw [ht]; rfl)
      · exact keep (by rw [ht])
  | arrived harr =>
      rw [← Option.some.inj harr]
      exact ⟨.request s.requests.length, Or.inr ⟨_, rfl⟩, .request _ _⟩
  | @online n => exact ⟨.socket n, Or.inl rfl, .request _ _⟩
  | @enlisted n => exact ⟨.socket n, Or.inl rfl, .release _ _⟩
  | received hx hpc hsame => exact keep hsame.lock
  | cleanupOfflined => exact ⟨.cleanup, Or.inl rfl, .request _ _⟩
  | cleanupRemoved => exact ⟨.cleanup, Or.inl rfl, .release _ _⟩
  | _ => exact keep rfl

/-- What is not a handler's own action, nor a new request, leaves the handlers
    where they are. -/
theorem requestsKept_of_step {env : Env} {a : Action} (h : step env s a = some t)
    (ha : a.handler = none)
    (hne : ∀ entry method path headers body, a ≠ .arrive entry method path headers body) :
    RequestsKept s t := by
  cases rule_of_step h with
  | handled hr =>
      rw [ha] at hr
      simp only [reduceCtorEq] at hr
  | arrived => exact absurd rfl (hne _ _ _ _ _)
  -- A response completes a oneshot; nothing else of a handler is touched.
  | received hx hpc hsame => exact hsame.requests
  | _ => exact requestsKept_of_eq rfl

/-- A request that comes in is at the first await of its handler. -/
theorem arrive_cases {entry : Entry} {method path : String} {headers : HeaderMap}
    {body : List UInt8} (h : s.arrive entry method path headers body = some t) :
    ∃ q, (q.pc = .listing ∨ q.pc = .choosing ∨ ∃ prefId, q.pc = .preferring prefId) ∧
      q.answer = .empty ∧ t.responses = s.responses ∧ t.requests = s.requests ++ [q] := by
  rw [← Option.some.inj h]
  refine ⟨_, ?_, rfl, rfl, rfl⟩
  cases entry with
  | tunnel id => exact Or.inl rfl
  | proxy =>
      simp only
      cases getCookieValue headers "tunnel" with
      | none => exact Or.inr (Or.inl rfl)
      | some prefId => exact Or.inr (Or.inr ⟨prefId, rfl⟩)

/-- A handler that waits for an answer was waiting before, or has just sent its
    message to a socket in its loop. -/
theorem waits_of_step {env : Env} {a : Action} {k : Nat} {q' : Request} {c : Call}
    {since : Nat} (h : step env s a = some t) (hq' : t.requests[k]? = some q')
    (hpc : q'.pc = .waiting c since) :
    (∃ q, s.requests[k]? = some q ∧ q.pc = .waiting c since ∧ q.entry = q'.entry ∧
        (q'.answer = .empty → q.answer = .empty)) ∨
      (a = .send k ∧ ∃ x, s.sockets[c.tx]? = some x ∧ x.InLoop) := by
  have kept : RequestsKept s t → ∃ q, s.requests[k]? = some q ∧ q.pc = .waiting c since ∧
      q.entry = q'.entry ∧ (q'.answer = .empty → q.answer = .empty) := by
    intro hk
    rcases hk k q' hq' with ⟨q, hq, hp, hentry, hempty⟩
    exact ⟨q, hq, by rw [← hp, hpc], hentry.symm, hempty⟩
  cases ha : a.handler with
  | none =>
      by_cases harr : ∃ entry method path headers body, a = .arrive entry method path headers body
      · rcases harr with ⟨entry, method, path, headers, body, harr⟩
        rw [harr] at h
        rcases arrive_cases (act_of_step h) with ⟨q, hfirst, _, _, ht⟩
        rw [ht] at hq'
        rcases getElem?_append_cases hq' with hold | ⟨_, hnew⟩
        · exact Or.inl ⟨q', hold, hpc, rfl, id⟩
        · simp only [← hnew, hpc, reduceCtorEq, exists_false, or_self] at hfirst
      · refine Or.inl (kept (requestsKept_of_step h ha ?_))
        intro entry method path headers body heq
        exact harr ⟨entry, method, path, headers, body, heq⟩
  | some r =>
      rcases (handler_step ha (act_of_step h)).cases with ⟨q, pc, lock, _, hw, _, hsame⟩ |
        ⟨hsend, q, c', x, hq, hp, hx, hl, ht⟩ | ht
      · rcases hsame.requests k q' hq' with ⟨q0, hq0, hp, hentry, hempty⟩
        rcases getElem?_set_cases hq0 with ⟨_, hq0⟩ | ⟨_, hq0⟩
        · -- The handler that moved does not wait.
          rw [hpc, hq0] at hp
          have hp' : RequestPc.waiting c since = pc := hp
          rw [← hp'] at hw
          exact absurd hw (by simp only [RequestPc.isWaiting, reduceCtorEq, not_false_eq_true])
        · exact Or.inl ⟨q0, hq0, by rw [← hp, hpc], hentry.symm, hempty⟩
      · rw [ht] at hq'
        rcases getElem?_set_cases hq' with ⟨hk, hq0⟩ | ⟨_, hq0⟩
        · rw [hq0] at hpc
          have hc : c' = c := by
            injection hpc
          rw [hk, ← hc]
          exact Or.inr ⟨hsend, x, hx, hl⟩
        · exact Or.inl ⟨q', hq0, hpc, rfl, id⟩
      · rw [ht] at hq'
        exact Or.inl ⟨q', hq', hpc, rfl, id⟩

/-- The same for a handler that has got no answer. -/
theorem request_of_step {env : Env} {a : Action} {k : Nat} {q' : Request} {c : Call}
    {since : Nat} (h : step env s a = some t) (hq' : t.requests[k]? = some q')
    (hpc : q'.pc = .waiting c since) (he : q'.answer = .empty) :
    (∃ q, s.requests[k]? = some q ∧ q.pc = .waiting c since ∧ q.entry = q'.entry ∧
        q.answer = .empty) ∨
      (a = .send k ∧ ∃ x, s.sockets[c.tx]? = some x ∧ x.InLoop) := by
  rcases waits_of_step h hq' hpc with ⟨q, hq, hp, hentry, hempty⟩ | hsend
  · exact Or.inl ⟨q, hq, hp, hentry, hempty he⟩
  · exact Or.inr hsend

end Relay

end Rathole
