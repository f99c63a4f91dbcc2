import Rathole.Server.Step

/-!
# The Rules of the Server

`Server.step` as a relation: a rule for each way through an action that ends
in a state, with the conditions on that way and the whole of the next state.
The functions of the tasks are unfolded here and nowhere else. What a step
does to one part of the state is then read off the rules.

## Main definitions

* `Server.Rule`: The ways through the actions.

## Theorems

* `rule_of_step`: Every step goes one of these ways.
-/

namespace Rathole

open FairLock

namespace Server


variable {β : Type} [DecidableEq β]

/-- The ways through an action `a` in the state `s`, each with the state it
    ends in. -/
inductive Rule (E : Env β) (s : Server β) : Action β → Server β → Prop
  | accepted (hm : s.main = .serving) : Rule E s .accept { s with
      conns := s.conns ++ [{ phase := .readingHello, inbox := [], sent := [] }] }
  | arrived {i : Nat} {chunk : List β} {c : Conn β} (hc : s.conns[i]? = some c) :
      Rule E s (.arrive i chunk) (s.setConn i { c with inbox := c.inbox ++ chunk })
  -- `read_hello` and `read_auth`
  | garbledHello {i : Nat} {c : Conn β} {e : ReadError} {rest : List β}
      (hc : s.conns[i]? = some c) (hp : c.phase = .readingHello)
      (hread : Rathole.readHello E.alphabet c.inbox = some (.error e, rest)) :
      Rule E s (.read i) (s.move i { c with inbox := rest } .closed)
  | greeted {i : Nat} {c : Conn β} {v : UInt8} {d : Digest β} {rest : List β}
      (hc : s.conns[i]? = some c) (hp : c.phase = .readingHello)
      (hread : Rathole.readHello E.alphabet c.inbox = some (.ok (.controlChannelHello v d), rest)) :
      Rule E s (.read i) (s.move i { c with inbox := rest } (.sendingHello d (E.nonce i)))
  | sought {i : Nat} {c : Conn β} {v : UInt8} {nonce : Digest β} {rest : List β}
      (hc : s.conns[i]? = some c) (hp : c.phase = .readingHello)
      (hread : Rathole.readHello E.alphabet c.inbox =
        some (.ok (.dataChannelHello v nonce), rest)) :
      Rule E s (.read i)
        ((s.move i { c with inbox := rest } (.finding nonce)).requestChannels (.conn i) .read)
  | garbledAuth {i : Nat} {c : Conn β} {d : Digest β} {concat : List β}
      {cfg : ServerServiceConfig (List β)} {e : ReadError} {rest : List β}
      (hc : s.conns[i]? = some c) (hp : c.phase = .readingAuth d concat cfg)
      (hread : Rathole.readAuth E.alphabet c.inbox = some (.error e, rest)) :
      Rule E s (.read i) (s.move i { c with inbox := rest } .closed)
  | matched {i : Nat} {c : Conn β} {d : Digest β} {concat : List β}
      {cfg : ServerServiceConfig (List β)} {auth : Auth β} {rest : List β}
      (hc : s.conns[i]? = some c) (hp : c.phase = .readingAuth d concat cfg)
      (hread : Rathole.readAuth E.alphabet c.inbox = some (.ok auth, rest))
      (heq : E.alphabet.digest concat = auth.digest) :
      Rule E s (.read i) ((s.move i { c with inbox := rest }
        (.locking d (E.alphabet.digest concat) cfg)).requestChannels (.conn i) .write)
  | mismatched {i : Nat} {c : Conn β} {d : Digest β} {concat : List β}
      {cfg : ServerServiceConfig (List β)} {auth : Auth β} {rest : List β}
      (hc : s.conns[i]? = some c) (hp : c.phase = .readingAuth d concat cfg)
      (hread : Rathole.readAuth E.alphabet c.inbox = some (.ok auth, rest))
      (hne : E.alphabet.digest concat ≠ auth.digest) :
      Rule E s (.read i) (s.move i { c with inbox := rest } .rejecting)
  -- The lookup of the service, and the write guard of `control_channels`
  | unknown {i : Nat} {c : Conn β} {d nonce : Digest β} (hc : s.conns[i]? = some c)
      (hp : c.phase = .lookingUp d nonce) (hnone : s.services.lookup d = none) :
      Rule E s (.lookup i) (s.move i c .refusing)
  | tokenless {i : Nat} {c : Conn β} {d nonce : Digest β} {cfg : ServerServiceConfig (List β)}
      (hc : s.conns[i]? = some c) (hp : c.phase = .lookingUp d nonce)
      (hcfg : s.services.lookup d = some cfg) (htoken : cfg.token = none) :
      Rule E s (.lookup i) { s with aborted := true }
  | known {i : Nat} {c : Conn β} {d nonce : Digest β} {cfg : ServerServiceConfig (List β)}
      {token : List β} (hc : s.conns[i]? = some c) (hp : c.phase = .lookingUp d nonce)
      (hcfg : s.services.lookup d = some cfg) (htoken : cfg.token = some token) :
      Rule E s (.lookup i) ((s.move i c
        (.readingAuth d (token ++ nonce.toList) cfg)).releaseServices (.conn i) .read)
  | locked {i : Nat} {c : Conn β} {d key : Digest β} {cfg : ServerServiceConfig (List β)}
      (hc : s.conns[i]? = some c) (hp : c.phase = .locking d key cfg)
      (hheld : s.channelsLock.Holds (.conn i) .write) :
      Rule E s (.lock i)
        { (s.move i c (.sendingAck d key cfg)) with channels := (s.channels.remove1 d).2 }
  -- Writes
  | answered {i : Nat} {c : Conn β} {d nonce : Digest β} (hc : s.conns[i]? = some c)
      (hp : c.phase = .sendingHello d nonce) :
      Rule E s (.write i) ((s.move i { c with sent := c.sent ++ c.phase.output E }
        (.lookingUp d nonce)).requestServices (.conn i) .read)
  | refused {i : Nat} {c : Conn β} (hc : s.conns[i]? = some c) (hp : c.phase = .refusing) :
      Rule E s (.write i) ((s.move i { c with sent := c.sent ++ c.phase.output E }
        .closed).releaseServices (.conn i) .read)
  | rejected {i : Nat} {c : Conn β} (hc : s.conns[i]? = some c) (hp : c.phase = .rejecting) :
      Rule E s (.write i) (s.move i { c with sent := c.sent ++ c.phase.output E } .closed)
  | crashed {i : Nat} {c : Conn β} {d key : Digest β} {cfg : ServerServiceConfig (List β)}
      (hc : s.conns[i]? = some c) (hp : c.phase = .sendingAck d key cfg)
      (hhttp : cfg.serviceType = .http) :
      Rule E s (.write i)
        { (s.setConn i { c with sent := c.sent ++ c.phase.output E }) with aborted := true }
  | acknowledged {i : Nat} {c : Conn β} {d key : Digest β} {cfg : ServerServiceConfig (List β)}
      {channels : MultiMap (Digest β) (Digest β) Nat} (hc : s.conns[i]? = some c)
      (hp : c.phase = .sendingAck d key cfg)
      (hchannels : s.channels.insert d key s.handles.length = .ok channels ∨
        (∃ x, s.channels.insert d key s.handles.length = .error x) ∧ channels = s.channels) :
      Rule E s (.write i) { (s.move i { c with sent := c.sent ++ c.phase.output E }
          (.control s.handles.length)).releaseChannels (.conn i) .write with
        channels := channels
        handles := s.handles ++ [{ owner := d, service := cfg, queue := [], pooling := true }] }
  | started {i n : Nat} {c : Conn β} {cmd : DataChannelCmd} (hc : s.conns[i]? = some c)
      (hp : c.phase = .starting n cmd) : Rule E s (.write i)
        (s.move i { c with sent := c.sent ++ c.phase.output E } (.forwarding n))
  -- Failures, by the guard that goes with the task
  | failed {i n : Nat} {c : Conn β} (hc : s.conns[i]? = some c) : Rule E s (.fail i n)
      (s.move i { c with sent := c.sent ++ (c.phase.output E).take n } .closed)
  | failedRefusing {i n : Nat} {c : Conn β} (hc : s.conns[i]? = some c)
      (hp : c.phase = .refusing) : Rule E s (.fail i n)
        ((s.move i { c with sent := c.sent ++ (c.phase.output E).take n }
          .closed).releaseServices (.conn i) .read)
  | failedAcking {i n : Nat} {c : Conn β} {d key : Digest β} {cfg : ServerServiceConfig (List β)}
      (hc : s.conns[i]? = some c) (hp : c.phase = .sendingAck d key cfg) : Rule E s (.fail i n)
        ((s.move i { c with sent := c.sent ++ (c.phase.output E).take n }
          .closed).releaseChannels (.conn i) .write)
  -- The handshake of a data channel
  | absent {i : Nat} {c : Conn β} {nonce : Digest β} (hc : s.conns[i]? = some c)
      (hp : c.phase = .finding nonce) (hget : s.channels.get2 nonce = none) :
      Rule E s (.find i) ((s.move i c .closed).releaseChannels (.conn i) .read)
  | found {i n : Nat} {c : Conn β} {nonce : Digest β} (hc : s.conns[i]? = some c)
      (hp : c.phase = .finding nonce) (hheld : s.channelsLock.Holds (.conn i) .read)
      (hget : s.channels.get2 nonce = some n) :
      Rule E s (.find i) (s.move i c (.delivering n))
  | delivered {i n : Nat} {c : Conn β} {x : Handle β} (hc : s.conns[i]? = some c)
      (hp : c.phase = .delivering n) (hx : s.handles[n]? = some x) :
      Rule E s (.deliver i) (((s.setHandle n { x with queue := x.queue ++ [i] }).move i c
        (.queued n)).releaseChannels (.conn i) .read)
  | orphaned {i n : Nat} {c : Conn β} (hc : s.conns[i]? = some c)
      (hp : c.phase = .delivering n) :
      Rule E s (.deliver i) ((s.move i c .closed).releaseChannels (.conn i) .read)
  -- Behind a handle
  | commanded {i n : Nat} {cmd : ControlChannelCmd} {c : Conn β} (hc : s.conns[i]? = some c)
      (hp : c.phase = .control n) : Rule E s (.command i cmd) (s.setConn i { c with
        sent := c.sent ++ serializeTag E.alphabet ControlChannelCmd.tag cmd })
  | ended {i n : Nat} {c : Conn β} (hc : s.conns[i]? = some c) (hp : c.phase = .control n) :
      Rule E s (.stop i) (s.move i c .closed)
  | taken {i n : Nat} {c : Conn β} {x : Handle β} {queue : List Nat}
      (hx : s.handles[n]? = some x) (hq : x.queue = i :: queue) (hc : s.conns[i]? = some c) :
      Rule E s (.take n) ((s.setHandle n { x with queue := queue }).move i c
        (.starting n (startCmd x.service.serviceType)))
  | relayed {i n : Nat} {chunk : List β} {c : Conn β} (hc : s.conns[i]? = some c)
      (hp : c.phase = .forwarding n) :
      Rule E s (.relay i chunk) (s.setConn i { c with sent := c.sent ++ chunk })
  | unpooled {n : Nat} {x : Handle β} (hx : s.handles[n]? = some x) :
      Rule E s (.poolEnd n) (s.setHandle n { x with queue := [], pooling := false })
  -- The main loop
  | reloading {e : ServerServiceChange β} (hm : s.main = .serving) : Rule E s (.reload e)
      (requestServices { s with main := .changing e } .main .write)
  | added {cfg : ServerServiceConfig (List β)} (hm : s.main = .changing (.add cfg)) :
      Rule E s .reloadServices (requestChannels { s with
        services := s.services.insert (E.alphabet.digest cfg.name) cfg
        main := .dropping (E.alphabet.digest cfg.name) true } .main .write)
  | deleted {name : List β} (hm : s.main = .changing (.delete name)) :
      Rule E s .reloadServices ((releaseServices { s with
        services := s.services.erase (E.alphabet.digest name)
        main := .dropping (E.alphabet.digest name) false } .main .write).requestChannels
          .main .write)
  | dropped {d : Digest β} (hm : s.main = .dropping d false)
      (hheld : s.channelsLock.Holds .main .write) : Rule E s .reloadChannels
        (releaseChannels { s with
          channels := (s.channels.remove1 d).2, main := .serving } .main .write)
  | replaced {d : Digest β} (hm : s.main = .dropping d true)
      (hheld : s.channelsLock.Holds .main .write) : Rule E s .reloadChannels
        ((releaseChannels { s with
          channels := (s.channels.remove1 d).2
          main := .serving } .main .write).releaseServices .main .write)
  | closing (hm : s.main = .serving) : Rule E s .shutdown
      (requestChannels { s with main := .closing } .main .write)
  | cleared (hm : s.main = .closing) (hheld : s.channelsLock.Holds .main .write) :
      Rule E s .clear
        (releaseChannels { s with channels := MultiMap.new, main := .stopped } .main .write)

variable {E : Env β} {s t : Server β} {i : Nat}

/-! ### Connections -/

theorem rule_of_accept (h : s.accept = some t) : Rule E s .accept t := by
  unfold accept at h
  cases hm : s.main with
  | serving =>
      simp only [hm, Option.some.injEq] at h
      rw [← h, ← hm]
      exact Rule.accepted hm
  | _ => simp only [hm, reduceCtorEq] at h

theorem rule_of_arrive {chunk : List β} (h : s.arrive i chunk = some t) :
    Rule E s (.arrive i chunk) t := by
  unfold arrive at h
  cases hc : s.conns[i]? with
  | none => simp only [hc, reduceCtorEq] at h
  | some c =>
      simp only [hc, Option.some.injEq] at h
      rw [← h]
      exact Rule.arrived hc

theorem rule_of_readHello {c : Conn β} (hc : s.conns[i]? = some c) (hp : c.phase = .readingHello)
    (h : s.readHello E i c = some t) : Rule E s (.read i) t := by
  unfold readHello at h
  cases hread : Rathole.readHello E.alphabet c.inbox with
  | none => simp only [hread, reduceCtorEq] at h
  | some p =>
      rcases p with ⟨r, rest⟩
      cases r with
      | error e =>
          simp only [hread, Option.some.injEq] at h
          rw [← h]
          exact Rule.garbledHello hc hp hread
      | ok m =>
          cases m with
          | controlChannelHello v d =>
              simp only [hread, Option.some.injEq] at h
              rw [← h]
              exact Rule.greeted hc hp hread
          | dataChannelHello v nonce =>
              simp only [hread, Option.some.injEq] at h
              rw [← h]
              exact Rule.sought hc hp hread

theorem rule_of_readAuth {c : Conn β} {d : Digest β} {concat : List β}
    {cfg : ServerServiceConfig (List β)} (hc : s.conns[i]? = some c)
    (hp : c.phase = .readingAuth d concat cfg) (h : s.readAuth E i c d concat cfg = some t) :
    Rule E s (.read i) t := by
  unfold readAuth at h
  cases hread : Rathole.readAuth E.alphabet c.inbox with
  | none => simp only [hread, reduceCtorEq] at h
  | some p =>
      rcases p with ⟨r, rest⟩
      cases r with
      | error e =>
          simp only [hread, Option.some.injEq] at h
          rw [← h]
          exact Rule.garbledAuth hc hp hread
      | ok auth =>
          by_cases heq : E.alphabet.digest concat = auth.digest
          · simp only [hread, if_pos heq, Option.some.injEq] at h
            rw [← h]
            exact Rule.matched hc hp hread heq
          · simp only [hread, if_neg heq, Option.some.injEq] at h
            rw [← h]
            exact Rule.mismatched hc hp hread heq

theorem rule_of_read (h : s.read E i = some t) : Rule E s (.read i) t := by
  unfold read at h
  cases hc : s.conns[i]? with
  | none => simp only [hc, reduceCtorEq] at h
  | some c =>
      simp only [hc] at h
      cases hp : c.phase with
      | readingHello =>
          simp only [hp] at h
          exact rule_of_readHello hc hp h
      | readingAuth d concat cfg =>
          simp only [hp] at h
          exact rule_of_readAuth hc hp h
      | _ => simp only [hp, reduceCtorEq] at h

theorem rule_of_lookup (h : s.lookup i = some t) : Rule E s (.lookup i) t := by
  unfold lookup at h
  cases hc : s.conns[i]? with
  | none => simp only [hc, reduceCtorEq] at h
  | some c =>
      simp only [hc] at h
      cases hp : c.phase with
      | lookingUp d nonce =>
          simp only [hp, Option.ite_none_right_eq_some] at h
          rcases h with ⟨_, hbody⟩
          cases hcfg : s.services.lookup d with
          | none =>
              simp only [hcfg, Option.some.injEq] at hbody
              rw [← hbody]
              exact Rule.unknown hc hp hcfg
          | some cfg =>
              cases htoken : cfg.token with
              | none =>
                  simp only [hcfg, htoken, Option.some.injEq] at hbody
                  rw [← hbody]
                  exact Rule.tokenless hc hp hcfg htoken
              | some token =>
                  simp only [hcfg, htoken, Option.some.injEq] at hbody
                  rw [← hbody]
                  exact Rule.known hc hp hcfg htoken
      | _ => simp only [hp, reduceCtorEq] at h

theorem rule_of_lock (h : s.lock i = some t) : Rule E s (.lock i) t := by
  unfold lock at h
  cases hc : s.conns[i]? with
  | none => simp only [hc, reduceCtorEq] at h
  | some c =>
      simp only [hc] at h
      cases hp : c.phase with
      | locking d key cfg =>
          simp only [hp, Option.ite_none_right_eq_some, Option.some.injEq] at h
          rw [← h.2]
          exact Rule.locked hc hp h.1
      | _ => simp only [hp, reduceCtorEq] at h

/-- `ControlChannelHandle::new` panics for an HTTP service; otherwise the
    handle is made, and put in if its keys are free. -/
theorem rule_of_established {c : Conn β} {d key : Digest β} {cfg : ServerServiceConfig (List β)}
    (hc : s.conns[i]? = some c) (hp : c.phase = .sendingAck d key cfg) :
    Rule E s (.write i) ((s.setConn i { c with sent := c.sent ++ c.phase.output E }).established i
      { c with sent := c.sent ++ c.phase.output E } d key cfg) := by
  unfold established
  cases hty : cfg.serviceType with
  | http => exact Rule.crashed hc hp hty
  | _ =>
      -- The connection is set twice, once for its bytes and once for its phase.
      cases hins : s.channels.insert d key s.handles.length with
      | ok channels =>
          have hrule := Rule.acknowledged (E := E) hc hp (Or.inl hins)
          simp only [move, setConn, releaseChannels, List.set_set, hins]
          exact hrule
      | error x =>
          have hrule := Rule.acknowledged (E := E) hc hp (Or.inr ⟨⟨x, hins⟩, rfl⟩)
          simp only [move, setConn, releaseChannels, List.set_set, hins]
          exact hrule

theorem rule_of_write (h : s.write E i = some t) : Rule E s (.write i) t := by
  unfold write at h
  cases hc : s.conns[i]? with
  | none => simp only [hc, reduceCtorEq] at h
  | some c =>
      simp only [hc, written] at h
      cases hp : c.phase with
      | sendingHello d nonce =>
          simp only [hp, Option.some.injEq] at h
          rw [← h, ← hp]
          exact Rule.answered hc hp
      | refusing =>
          simp only [hp, Option.some.injEq] at h
          rw [← h, ← hp]
          exact Rule.refused hc hp
      | rejecting =>
          simp only [hp, Option.some.injEq] at h
          rw [← h, ← hp]
          exact Rule.rejected hc hp
      | sendingAck d key cfg =>
          simp only [hp, Option.some.injEq] at h
          rw [← h, ← hp]
          exact rule_of_established hc hp
      | starting n cmd =>
          simp only [hp, Option.some.injEq] at h
          rw [← h, ← hp]
          exact Rule.started hc hp
      | _ => simp only [hp, reduceCtorEq] at h

theorem rule_of_fail {n : Nat} (h : s.fail E i n = some t) : Rule E s (.fail i n) t := by
  unfold fail at h
  cases hc : s.conns[i]? with
  | none => simp only [hc, reduceCtorEq] at h
  | some c =>
      simp only [hc, broken] at h
      cases hp : c.phase with
      | refusing =>
          simp only [hp, Option.some.injEq] at h
          rw [← h, ← hp]
          exact Rule.failedRefusing hc hp
      | sendingAck d key cfg =>
          simp only [hp, Option.some.injEq] at h
          rw [← h, ← hp]
          exact Rule.failedAcking hc hp
      | readingHello | sendingHello | readingAuth | rejecting | control | starting | forwarding =>
          simp only [hp, Option.some.injEq] at h
          rw [← h, ← hp]
          exact Rule.failed hc
      | _ => simp only [hp, reduceCtorEq] at h

theorem rule_of_find (h : s.find i = some t) : Rule E s (.find i) t := by
  unfold find at h
  cases hc : s.conns[i]? with
  | none => simp only [hc, reduceCtorEq] at h
  | some c =>
      simp only [hc] at h
      cases hp : c.phase with
      | finding nonce =>
          simp only [hp, Option.ite_none_right_eq_some] at h
          rcases h with ⟨hheld, hbody⟩
          cases hget : s.channels.get2 nonce with
          | none =>
              simp only [hget, Option.some.injEq] at hbody
              rw [← hbody]
              exact Rule.absent hc hp hget
          | some n =>
              simp only [hget, Option.some.injEq] at hbody
              rw [← hbody]
              exact Rule.found hc hp hheld hget
      | _ => simp only [hp, reduceCtorEq] at h

theorem rule_of_deliver (h : s.deliver i = some t) : Rule E s (.deliver i) t := by
  unfold deliver at h
  cases hc : s.conns[i]? with
  | none => simp only [hc, reduceCtorEq] at h
  | some c =>
      simp only [hc] at h
      cases hp : c.phase with
      | delivering n =>
          simp only [hp] at h
          cases hx : s.handles[n]? with
          | none => simp only [hx, reduceCtorEq] at h
          | some x =>
              simp only [hx] at h
              by_cases hpool : x.pooling
              · simp only [if_pos hpool, Option.ite_none_right_eq_some, Option.some.injEq] at h
                rw [← h.2]
                exact Rule.delivered hc hp hx
              · simp only [if_neg hpool, Option.some.injEq] at h
                rw [← h]
                exact Rule.orphaned hc hp
      | _ => simp only [hp, reduceCtorEq] at h

/-! ### Behind a handle -/

theorem rule_of_command {cmd : ControlChannelCmd} (h : s.command E i cmd = some t) :
    Rule E s (.command i cmd) t := by
  unfold command at h
  cases hc : s.conns[i]? with
  | none => simp only [hc, reduceCtorEq] at h
  | some c =>
      simp only [hc] at h
      cases hp : c.phase with
      | control n =>
          simp only [hp, Option.some.injEq] at h
          rw [← h, ← hp]
          exact Rule.commanded hc hp
      | _ => simp only [hp, reduceCtorEq] at h

theorem rule_of_stop (h : s.stop i = some t) : Rule E s (.stop i) t := by
  unfold stop at h
  cases hc : s.conns[i]? with
  | none => simp only [hc, reduceCtorEq] at h
  | some c =>
      simp only [hc] at h
      cases hp : c.phase with
      | control n =>
          simp only [hp] at h
          cases hx : s.handles[n]? with
          | none => simp only [hx, reduceCtorEq] at h
          | some x =>
              simp only [hx, Option.ite_none_left_eq_some, Option.some.injEq] at h
              rw [← h.2]
              exact Rule.ended hc hp
      | _ => simp only [hp, reduceCtorEq] at h

theorem rule_of_take {n : Nat} (h : s.take n = some t) : Rule E s (.take n) t := by
  unfold take at h
  cases hx : s.handles[n]? with
  | none => simp only [hx, reduceCtorEq] at h
  | some x =>
      simp only [hx] at h
      cases hq : x.queue with
      | nil => simp only [hq, reduceCtorEq] at h
      | cons i queue =>
          simp only [hq] at h
          cases hc : s.conns[i]? with
          | none => simp only [hc, reduceCtorEq] at h
          | some c =>
              simp only [hc, Option.some.injEq] at h
              rw [← h]
              exact Rule.taken hx hq hc

theorem rule_of_relay {chunk : List β} (h : s.relay i chunk = some t) :
    Rule E s (.relay i chunk) t := by
  unfold relay at h
  cases hc : s.conns[i]? with
  | none => simp only [hc, reduceCtorEq] at h
  | some c =>
      simp only [hc] at h
      cases hp : c.phase with
      | forwarding n =>
          simp only [hp, Option.some.injEq] at h
          rw [← h, ← hp]
          exact Rule.relayed hc hp
      | _ => simp only [hp, reduceCtorEq] at h

theorem rule_of_poolEnd {n : Nat} (h : s.poolEnd n = some t) : Rule E s (.poolEnd n) t := by
  unfold poolEnd at h
  cases hx : s.handles[n]? with
  | none => simp only [hx, reduceCtorEq] at h
  | some x =>
      simp only [hx, Option.some.injEq] at h
      rw [← h]
      exact Rule.unpooled hx

/-! ### The main loop -/

theorem rule_of_reload {e : ServerServiceChange β} (h : s.reload e = some t) :
    Rule E s (.reload e) t := by
  unfold reload at h
  cases hm : s.main with
  | serving =>
      simp only [hm, Option.some.injEq] at h
      rw [← h]
      exact Rule.reloading hm
  | _ => simp only [hm, reduceCtorEq] at h

theorem rule_of_reloadServices (h : s.reloadServices E = some t) :
    Rule E s .reloadServices t := by
  unfold reloadServices at h
  cases hm : s.main with
  | changing e =>
      simp only [hm, Option.ite_none_right_eq_some] at h
      rcases h with ⟨_, hbody⟩
      cases e with
      | add cfg =>
          simp only [Option.some.injEq] at hbody
          rw [← hbody]
          exact Rule.added hm
      | delete name =>
          simp only [Option.some.injEq] at hbody
          rw [← hbody]
          exact Rule.deleted hm
  | _ => simp only [hm, reduceCtorEq] at h

theorem rule_of_reloadChannels (h : s.reloadChannels = some t) : Rule E s .reloadChannels t := by
  unfold reloadChannels at h
  cases hm : s.main with
  | dropping d held =>
      simp only [hm, Option.ite_none_right_eq_some, Option.some.injEq] at h
      rw [← h.2]
      cases held with
      | true => exact Rule.replaced hm h.1
      | false => exact Rule.dropped hm h.1
  | _ => simp only [hm, reduceCtorEq] at h

theorem rule_of_shutdown (h : s.shutdown = some t) : Rule E s .shutdown t := by
  unfold shutdown at h
  cases hm : s.main with
  | serving =>
      simp only [hm, Option.some.injEq] at h
      rw [← h]
      exact Rule.closing hm
  | _ => simp only [hm, reduceCtorEq] at h

theorem rule_of_clear (h : s.clear = some t) : Rule E s .clear t := by
  unfold clear at h
  cases hm : s.main with
  | closing =>
      simp only [hm, Option.ite_none_right_eq_some, Option.some.injEq] at h
      rw [← h.2]
      exact Rule.cleared hm h.1
  | _ => simp only [hm, reduceCtorEq] at h

/-! ### All steps -/

theorem running_of_step {a : Action β} (h : s.step E a = some t) : s.aborted = false := by
  by_contra hab
  simp only [step, if_pos (Bool.of_not_eq_false hab), reduceCtorEq] at h

theorem rule_of_step {a : Action β} (h : s.step E a = some t) : Rule E s a t := by
  have hrun := running_of_step h
  simp only [step, hrun, Bool.false_eq_true, if_false] at h
  cases a with
  | accept => exact rule_of_accept h
  | arrive i chunk => exact rule_of_arrive h
  | read i => exact rule_of_read h
  | write i => exact rule_of_write h
  | fail i n => exact rule_of_fail h
  | lookup i => exact rule_of_lookup h
  | lock i => exact rule_of_lock h
  | find i => exact rule_of_find h
  | deliver i => exact rule_of_deliver h
  | command i cmd => exact rule_of_command h
  | stop i => exact rule_of_stop h
  | take n => exact rule_of_take h
  | relay i chunk => exact rule_of_relay h
  | poolEnd n => exact rule_of_poolEnd h
  | reload e => exact rule_of_reload h
  | reloadServices => exact rule_of_reloadServices h
  | reloadChannels => exact rule_of_reloadChannels h
  | shutdown => exact rule_of_shutdown h
  | clear => exact rule_of_clear h

end Server

end Rathole
