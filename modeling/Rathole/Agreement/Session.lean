import Rathole.Client.Handshake
import Rathole.Server.Step

/-!
# A Handshake of Client and Server

The client's handshake and one connection of the server, joined by two byte
streams. Each side gets on by completing its present await, the network hands
over any number of bytes at a time, and nothing fails. Once the control
channel is established the server writes commands on it, whose first bytes may
come right behind its acknowledgement.

## Main definitions

* `Session`: Both sides, and how much of each stream has been delivered.
* `Session.start`: A client that starts and a connection that was accepted.
* `SessionAction`, `Session.step`: What can happen next.
* `Session.measure`: What is left to do.
-/

namespace Rathole

open FairLock

namespace Client

/-- The handshake, whether it goes on or not. -/
def HandshakeStep.handshake {β : Type} : HandshakeStep β → Handshake β
  | .going h => h
  | .established _ h => h
  | .failed _ h => h

/-- Bytes arrive at the client, whether it still reads or not. -/
def HandshakeStep.receive {β : Type} (chunk : List β) : HandshakeStep β → HandshakeStep β
  | .going h => .going (h.receive chunk)
  | .established key h => .established key (h.receive chunk)
  | .failed e h => .failed e (h.receive chunk)

/-- How many awaits the client has before it. -/
def HandshakeStep.rank {β : Type} : HandshakeStep β → Nat
  | .going h => match h.pc with
    | .resolving => 6
    | .connecting => 5
    | .sendingHello => 4
    | .readingHello => 3
    | .sendingAuth _ => 2
    | .readingAck _ => 1
  | _ => 0

end Client

namespace Server

/-- The action that completes the present await of connection `i` during a
    handshake. -/
def Phase.next {β : Type} (i : Nat) : Phase β → Option (Action β)
  | .readingHello => some (.read i)
  | .sendingHello _ _ => some (.write i)
  | .lookingUp _ _ => some (.lookup i)
  | .refusing => some (.write i)
  | .readingAuth _ _ _ => some (.read i)
  | .rejecting => some (.write i)
  | .locking _ _ _ => some (.lock i)
  | .sendingAck _ _ _ => some (.write i)
  | _ => none

/-- How many awaits the handshake of a control channel has before it. -/
def Phase.rank {β : Type} : Phase β → Nat
  | .readingHello => 7
  | .sendingHello _ _ => 6
  | .lookingUp _ _ => 5
  | .readingAuth _ _ _ => 4
  | .locking _ _ _ => 3
  | .sendingAck _ _ _ => 2
  | .refusing => 1
  | .rejecting => 1
  | _ => 0

end Server

/-- A client, the server, the number of bytes of each stream that have been
    delivered, and the commands the server has yet to write. -/
structure Session (β : Type) where
  server : Server β
  client : Client.HandshakeStep β
  toServer : Nat
  toClient : Nat
  commands : List ControlChannelCmd

/-- What either end does, bytes that arrive, and a command of the server. -/
inductive SessionAction
  | client
  | serve
  | toServer (n : Nat)
  | toClient (n : Nat)
  | command
deriving DecidableEq, Repr

/-- A server with these services at which nothing is going on, whatever
    control channels it has. -/
structure Server.Idle {β : Type} (s : Server β)
    (services : HashMap (Digest β) (ServerServiceConfig (List β))) : Prop where
  services : s.services = services
  servicesLock : s.servicesLock = RwLock.free
  channelsLock : s.channelsLock = RwLock.free
  main : s.main = .serving
  running : s.aborted = false

namespace Session

variable {β : Type} [DecidableEq β]

/-- A client that starts to run, and the server with a connection that was
    just accepted. -/
def start (s : Server β) (commands : List ControlChannelCmd) : Session β where
  server := { s with conns := s.conns ++ [{ phase := .readingHello, inbox := [], sent := [] }] }
  client := .going Client.Handshake.start
  toServer := 0
  toClient := 0
  commands := commands

/-- One action. The server's connection has number `i`. -/
def step (E : Server.Env β) (service : ClientServiceConfig (List β)) (i : Nat) (t : Session β) :
    SessionAction → Option (Session β)
  | .client => match t.client with
    | .going h => (h.advance E.alphabet service).map (fun client => { t with client := client })
    | _ => none
  | .serve => match t.server.conns[i]? with
    | none => none
    | some c => match c.phase.next i with
      | none => none
      | some a => (t.server.step E a).map (fun server => { t with server := server })
  | .toServer n =>
      let sent := t.client.handshake.sent
      if 0 < n ∧ t.toServer + n ≤ sent.length then
        (t.server.step E (.arrive i ((sent.drop t.toServer).take n))).map
          (fun server => { t with server := server, toServer := t.toServer + n })
      else none
  | .toClient n => match t.server.conns[i]? with
    | none => none
    | some c =>
        if 0 < n ∧ t.toClient + n ≤ c.sent.length then
          some { t with
            client := t.client.receive ((c.sent.drop t.toClient).take n)
            toClient := t.toClient + n }
        else none
  | .command => match t.commands with
    | [] => none
    | cmd :: rest => (t.server.step E (.command i cmd)).map
        (fun server => { t with server := server, commands := rest })

/-- What is left to do: awaits to complete, commands to write, and bytes to
    deliver. An await or a command writes less than a hundred bytes. -/
def measure (i : Nat) (t : Session β) : Nat :=
  match t.server.conns[i]? with
  | none => 0
  | some c => 100 * (t.client.rank + c.phase.rank + t.commands.length) +
      (t.client.handshake.sent.length - t.toServer) + (c.sent.length - t.toClient)

end Session

end Rathole
