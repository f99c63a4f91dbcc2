import Rathole.Agreement.Session
import Rathole.Server.Booked
import Rathole.Server.Sessions

/-!
# The Server and All Who Call It

Any number of connections to one server, each with a party at its other end.
Clients run the handshake of `ControlChannel::run` and, once they are let in,
open data channels with their session key. Everybody else writes what he
likes. The two streams of a connection are cut into chunks at will. Clients
give up in the middle of a write, connections of the server fail, the
configuration is reloaded, and all of it interleaves.

A client that runs again after a failure comes with another connection, so
every run of the retry loop is a caller of its own.

## Main definitions

* `Callers.Role`: What is at the other end of a connection.
* `Callers.Caller`: Its role, and how much of each stream was delivered.
* `Callers`: The server with its record, the caller of each connection, and
  the services there have been.
* `Callers.step`: One action of one party.
* `Callers.RoleMove`, `Callers.Move`: The kinds of steps.

## Theorems

* `move_of_step`: Every step is of one of a few kinds.
-/


namespace Rathole

open Numbered Transition

namespace Client

/-- What a client writes at its present await. -/
def Handshake.output {β : Type} (A : Alphabet β) (service : ClientServiceConfig (List β))
    (h : Handshake β) : List β :=
  match h.pc with
  | .sendingHello => (clientHello A service).serialize A
  | .sendingAuth nonce => match service.token with
    | none => []
    | some token => (Auth.mk (sessionKey A token nonce)).serialize
  | _ => []

end Client

namespace Callers

/-- What is at the other end of a connection: a client with a service, a task
    of the client of connection `owner` that opens a data channel and has
    written its hello or not, or a stranger. -/
inductive Role (β : Type)
  | control (service : ClientServiceConfig (List β)) (run : Client.HandshakeStep β)
  | data (owner : Nat) (key : Digest β) (written : Option (List β))
  | stranger
deriving DecidableEq

/-- A caller, the number of bytes of each stream that have been delivered, and
    how many of the services there have been are older than its connection. -/
structure Caller (β : Type) where
  role : Role β
  toServer : Nat
  toClient : Nat
  since : Nat
deriving DecidableEq

/-- What can happen next. -/
inductive Action (β : Type)
  | call (service : ClientServiceConfig (List β))
  | openData (owner : Nat)
  | intrude
  | advance (i : Nat)
  | hangUp (i n : Nat)
  | toServer (i n : Nat)
  | toClient (i n : Nat)
  | say (i : Nat) (chunk : List β)
  | server (a : Server.Action β)

end Callers

/-- The server, who called it on each connection, and the services it has had
    so far. -/
structure Callers (β : Type) where
  sessions : Sessions β
  callers : List (Callers.Caller β)
  tables : List (HashMap (Digest β) (ServerServiceConfig (List β)))

namespace Callers

variable {β : Type}

/-- The hello of a data channel, in `do_data_channel_handshake`. -/
def dataHello (A : Alphabet β) (key : Digest β) : List β :=
  (Hello.dataChannelHello currentProtoVersion key).serialize A

/-- All that a caller has written. What a stranger writes is not kept. -/
def Role.sent : Role β → List β
  | .control _ run => run.handshake.sent
  | .data _ _ written => written.getD []
  | .stranger => []

/-- A caller completes its present await. -/
def Role.advance (A : Alphabet β) : Role β → Option (Role β)
  | .control service (.going h) => (h.advance A service).map (.control service)
  | .data owner key none => some (.data owner key (some (dataHello A key)))
  | _ => none

/-- A caller fails, with the first `n` bytes of its present write on their
    way. -/
def Role.hangUp (A : Alphabet β) (n : Nat) : Role β → Option (Role β)
  | .control service (.going h) => some (.control service
      (.failed .io { h with sent := h.sent ++ (h.output A service).take n }))
  | .data owner key none => some (.data owner key (some ((dataHello A key).take n)))
  | _ => none

/-- Bytes arrive at a caller. Those of a data channel are the tunnel's. -/
def Role.receive (chunk : List β) : Role β → Role β
  | .control service run => .control service (run.receive chunk)
  | role => role

/-- The session key of a client that has been let in. -/
def Role.sessionKey? : Role β → Option (Digest β)
  | .control _ (.established key _) => some key
  | _ => none

/-- The service of a client that has failed, and its error. -/
def Role.failure? : Role β → Option (ClientServiceConfig (List β) × Client.RunError β)
  | .control service (.failed e _) => some (service, e)
  | _ => none

/-- A caller that has just connected. -/
def Caller.fresh (role : Role β) (since : Nat) : Caller β :=
  { role := role, toServer := 0, toClient := 0, since := since }

/-- What has been delivered of what a caller wrote. -/
def Caller.delivered (x : Caller β) : List β := x.role.sent.take x.toServer

variable (E : Server.Env β)

/-- A server that nobody has connected to. -/
def initial (services : HashMap (Digest β) (ServerServiceConfig (List β))) : Callers β where
  sessions := Sessions.initial services
  callers := []
  tables := [services]

/-- The server has made a step. -/
def after (g : Callers β) (u : Sessions β) : Callers β :=
  { g with sessions := u, tables := g.tables ++ [u.server.services] }

/-- Another state of a caller. -/
def setCaller (g : Callers β) (i : Nat) (x : Caller β) : Callers β :=
  { g with callers := g.callers.set i x }

/-- One caller more. -/
def addCaller (g : Callers β) (x : Caller β) : Callers β :=
  { g with callers := g.callers ++ [x] }

/-- The services the server has had since a caller came. -/
def tablesSince (g : Callers β) (x : Caller β) :
    List (HashMap (Digest β) (ServerServiceConfig (List β))) := g.tables.drop x.since

/-- A connection is accepted, and this is at its other end. -/
def accept [DecidableEq β] (g : Callers β) (role : Role β) : Option (Callers β) :=
  (g.sessions.step E .accept).map (fun u =>
    (g.after u).addCaller (Caller.fresh role g.tables.length))

/-- The caller of connection `i` gets on. -/
def move (g : Callers β) (i : Nat) (f : Role β → Option (Role β)) : Option (Callers β) :=
  match g.callers[i]? with
  | none => none
  | some x => (f x.role).map (fun role => g.setCaller i { x with role := role })

/-- The next `n` bytes of what a caller wrote get to the server. -/
def carry [DecidableEq β] (g : Callers β) (i n : Nat) : Option (Callers β) :=
  match g.callers[i]? with
  | none => none
  | some x =>
      if 0 < n ∧ x.toServer + n ≤ x.role.sent.length then
        (g.sessions.step E (.arrive i ((x.role.sent.drop x.toServer).take n))).map (fun u =>
          (g.after u).setCaller i { x with toServer := x.toServer + n })
      else none

/-- The next `n` bytes of what the server wrote get to a caller. -/
def reply (g : Callers β) (i n : Nat) : Option (Callers β) :=
  match g.callers[i]?, g.sessions.server.conns[i]? with
  | some x, some c =>
      if 0 < n ∧ x.toClient + n ≤ c.sent.length then
        some (g.setCaller i { x with
          role := x.role.receive ((c.sent.drop x.toClient).take n)
          toClient := x.toClient + n })
      else none
  | _, _ => none

/-- A stranger writes. -/
def say [DecidableEq β] (g : Callers β) (i : Nat) (chunk : List β) : Option (Callers β) :=
  match g.callers[i]? with
  | none => none
  | some x => match x.role with
    | .stranger => (g.sessions.step E (.arrive i chunk)).map g.after
    | _ => none

/-- The server does what does not come from its callers. -/
def serve [DecidableEq β] (g : Callers β) (a : Server.Action β) : Option (Callers β) :=
  match a with
  | .accept | .arrive _ _ => none
  | a => (g.sessions.step E a).map g.after

/-- One action of one party. -/
def step [DecidableEq β] (g : Callers β) : Action β → Option (Callers β)
  | .call service => g.accept E (.control service (.going Client.Handshake.start))
  | .openData owner => match g.callers[owner]? with
    | none => none
    -- The key is copied into the arguments of `run_data_channel`.
    | some x => match x.role.sessionKey? with
      | none => none
      | some key => g.accept E (.data owner key none)
  | .intrude => g.accept E .stranger
  | .advance i => g.move i (Role.advance E.alphabet)
  | .hangUp i n => g.move i (Role.hangUp E.alphabet n)
  | .toServer i n => g.carry E i n
  | .toClient i n => g.reply i n
  | .say i chunk => g.say E i chunk
  | .server a => g.serve E a

/-! ### The kinds of steps -/

/-- What can be at the other end of a new connection. -/
def Opens (g : Callers β) : Role β → Prop
  | .control _ run => run = .going Client.Handshake.start
  | .data owner key written => written = none ∧
      ∃ x, g.callers[owner]? = some x ∧ x.role.sessionKey? = some key
  | .stranger => True

/-- How a caller gets on: a client completes an await or fails, a data channel
    says hello or a part of it. -/
inductive RoleMove (A : Alphabet β) : Role β → Role β → Prop
  | advanced {service : ClientServiceConfig (List β)} {h : Client.Handshake β}
      {run : Client.HandshakeStep β} (hadv : h.advance A service = some run) :
      RoleMove A (.control service (.going h)) (.control service run)
  | failed {service : ClientServiceConfig (List β)} (h : Client.Handshake β) (n : Nat) :
      RoleMove A (.control service (.going h)) (.control service
        (.failed .io { h with sent := h.sent ++ (h.output A service).take n }))
  | greeted (owner : Nat) (key : Digest β) :
      RoleMove A (.data owner key none) (.data owner key (some (dataHello A key)))
  | cut (owner : Nat) (key : Digest β) (n : Nat) :
      RoleMove A (.data owner key none) (.data owner key (some ((dataHello A key).take n)))

/-- The kinds of steps: a connection comes, a caller gets on, bytes get to the
    server or to a caller, a stranger writes, or the server goes on. -/
inductive Move [DecidableEq β] (g : Callers β) : Action β → Callers β → Prop
  | came {a : Action β} {u : Sessions β} {role : Role β} (hrole : g.Opens role)
      (hu : g.sessions.step E .accept = some u) :
      Move g a ((g.after u).addCaller (Caller.fresh role g.tables.length))
  | moved {a : Action β} {i : Nat} {x : Caller β} {role : Role β} (hx : g.callers[i]? = some x)
      (hrole : RoleMove E.alphabet x.role role) :
      Move g a (g.setCaller i { x with role := role })
  | carried {i n : Nat} {x : Caller β} {u : Sessions β} (hx : g.callers[i]? = some x)
      (hn : x.toServer + n ≤ x.role.sent.length)
      (hu : g.sessions.step E (.arrive i ((x.role.sent.drop x.toServer).take n)) = some u) :
      Move g (.toServer i n) ((g.after u).setCaller i { x with toServer := x.toServer + n })
  | replied {i n : Nat} {x : Caller β} {c : Server.Conn β} (hx : g.callers[i]? = some x)
      (hc : g.sessions.server.conns[i]? = some c) (hn : x.toClient + n ≤ c.sent.length) :
      Move g (.toClient i n) (g.setCaller i { x with
        role := x.role.receive ((c.sent.drop x.toClient).take n)
        toClient := x.toClient + n })
  | said {i : Nat} {chunk : List β} {x : Caller β} {u : Sessions β} (hx : g.callers[i]? = some x)
      (hrole : x.role = .stranger) (hu : g.sessions.step E (.arrive i chunk) = some u) :
      Move g (.say i chunk) (g.after u)
  | served {a : Server.Action β} {u : Sessions β} (ha : a ≠ .accept)
      (hna : ∀ i chunk, a ≠ .arrive i chunk) (hu : g.sessions.step E a = some u) :
      Move g (.server a) (g.after u)

variable {E} {g g' : Callers β} {a : Action β}

/-- A client that was let in has nothing left to do in its handshake. -/
theorem RoleMove.sessionKey?_eq_none {A : Alphabet β} {role role' : Role β}
    (hm : RoleMove A role role') : role.sessionKey? = none := by
  cases hm with
  | _ => rfl

theorem Role.eq_of_failure? {role : Role β} {service : ClientServiceConfig (List β)}
    {e : Client.RunError β} (h : role.failure? = some (service, e)) :
    ∃ run, role = .control service (.failed e run) := by
  rcases role with ⟨service', run | run | run⟩ | _ | _
  · simp only [Role.failure?, reduceCtorEq] at h
  · simp only [Role.failure?, reduceCtorEq] at h
  · simp only [Role.failure?, Option.some.injEq, Prod.mk.injEq] at h
    rw [h.1, h.2]
    exact ⟨_, rfl⟩
  · simp only [Role.failure?, reduceCtorEq] at h
  · simp only [Role.failure?, reduceCtorEq] at h

theorem RoleMove.data_of_data {A : Alphabet β} {role : Role β} {owner : Nat} {key : Digest β}
    {written : Option (List β)} (hm : RoleMove A role (.data owner key written)) :
    ∃ before, role = .data owner key before := by
  cases hm with
  | _ => exact ⟨_, rfl⟩

theorem RoleMove.control_of_control {A : Alphabet β} {role : Role β}
    {service : ClientServiceConfig (List β)} {run : Client.HandshakeStep β}
    (hm : RoleMove A role (.control service run)) : ∃ before, role = .control service before := by
  cases hm with
  | _ => exact ⟨_, rfl⟩

theorem roleMove_of_advance {A : Alphabet β} {role role' : Role β}
    (h : role.advance A = some role') : RoleMove A role role' := by
  rcases role with ⟨service, run | run | run⟩ | ⟨owner, key, _ | written⟩ | _
  · simp only [Role.advance, Option.map_eq_some_iff] at h
    rcases h with ⟨run', hadv, hrole⟩
    rw [← hrole]
    exact RoleMove.advanced hadv
  · simp only [Role.advance, reduceCtorEq] at h
  · simp only [Role.advance, reduceCtorEq] at h
  · simp only [Role.advance, Option.some.injEq] at h
    rw [← h]
    exact RoleMove.greeted owner key
  · simp only [Role.advance, reduceCtorEq] at h
  · simp only [Role.advance, reduceCtorEq] at h

theorem roleMove_of_hangUp {A : Alphabet β} {role role' : Role β} {n : Nat}
    (h : role.hangUp A n = some role') : RoleMove A role role' := by
  rcases role with ⟨service, run | run | run⟩ | ⟨owner, key, _ | written⟩ | _
  · simp only [Role.hangUp, Option.some.injEq] at h
    rw [← h]
    exact RoleMove.failed run n
  · simp only [Role.hangUp, reduceCtorEq] at h
  · simp only [Role.hangUp, reduceCtorEq] at h
  · simp only [Role.hangUp, Option.some.injEq] at h
    rw [← h]
    exact RoleMove.cut owner key n
  · simp only [Role.hangUp, reduceCtorEq] at h
  · simp only [Role.hangUp, reduceCtorEq] at h

variable [DecidableEq β]

theorem move_of_accept {role : Role β} (hrole : g.Opens role)
    (h : g.accept E role = some g') : Move E g a g' := by
  rw [accept, Option.map_eq_some_iff] at h
  rcases h with ⟨u, hu, hg⟩
  rw [← hg]
  exact Move.came hrole hu

theorem move_of_move {i : Nat} {f : Role β → Option (Role β)} (h : g.move i f = some g')
    (hf : ∀ role role', f role = some role' → RoleMove E.alphabet role role') :
    Move E g a g' := by
  rw [move] at h
  rcases hx : g.callers[i]? with _ | x
  · simp only [hx, reduceCtorEq] at h
  · simp only [hx, Option.map_eq_some_iff] at h
    rcases h with ⟨role, hrole, hg⟩
    rw [← hg]
    exact Move.moved hx (hf _ _ hrole)

/-- Every step is of one of these kinds. -/
theorem move_of_step (h : g.step E a = some g') : Move E g a g' := by
  cases a with
  | call service =>
      have hopens : g.Opens (.control service (.going Client.Handshake.start)) := rfl
      exact move_of_accept hopens h
  | openData owner =>
      simp only [step] at h
      rcases hx : g.callers[owner]? with _ | x
      · simp only [hx, reduceCtorEq] at h
      · rcases hkey : x.role.sessionKey? with _ | key
        · simp only [hx, hkey, reduceCtorEq] at h
        · simp only [hx, hkey] at h
          have hopens : g.Opens (.data owner key none) := ⟨rfl, x, hx, hkey⟩
          exact move_of_accept hopens h
  | intrude =>
      have hopens : g.Opens .stranger := trivial
      exact move_of_accept hopens h
  | advance i => exact move_of_move h (fun _ _ => roleMove_of_advance)
  | hangUp i n => exact move_of_move h (fun _ _ => roleMove_of_hangUp)
  | toServer i n =>
      simp only [step, carry] at h
      rcases hx : g.callers[i]? with _ | x
      · simp only [hx, reduceCtorEq] at h
      · simp only [hx, Option.ite_none_right_eq_some, Option.map_eq_some_iff] at h
        rcases h with ⟨⟨_, hn⟩, u, hu, hg⟩
        rw [← hg]
        exact Move.carried hx hn hu
  | toClient i n =>
      simp only [step, reply] at h
      rcases hx : g.callers[i]? with _ | x
      · simp only [hx, reduceCtorEq] at h
      · rcases hc : g.sessions.server.conns[i]? with _ | c
        · simp only [hx, hc, reduceCtorEq] at h
        · simp only [hx, hc, Option.ite_none_right_eq_some, Option.some.injEq] at h
          rcases h with ⟨⟨_, hn⟩, hg⟩
          rw [← hg]
          exact Move.replied hx hc hn
  | say i chunk =>
      simp only [step, say] at h
      rcases hx : g.callers[i]? with _ | x
      · simp only [hx, reduceCtorEq] at h
      · rcases hrole : x.role with ⟨service, run⟩ | ⟨owner, key, written⟩ | _
        · simp only [hx, hrole, reduceCtorEq] at h
        · simp only [hx, hrole, reduceCtorEq] at h
        · simp only [hx, hrole, Option.map_eq_some_iff] at h
          rcases h with ⟨u, hu, hg⟩
          rw [← hg]
          exact Move.said hx hrole hu
  | server b =>
      have hserved : b ≠ .accept → (∀ i chunk, b ≠ .arrive i chunk) →
          (g.sessions.step E b).map g.after = some g' →
          Move E g (.server b) g' := by
        intro ha hna hmap
        rw [Option.map_eq_some_iff] at hmap
        rcases hmap with ⟨u, hu, hg⟩
        rw [← hg]
        exact Move.served ha hna hu
      cases b with
      | accept | arrive => simp only [step, serve, reduceCtorEq] at h
      | _ => exact hserved (fun heq => by cases heq) (fun _ _ heq => by cases heq) h

end Callers

end Rathole
