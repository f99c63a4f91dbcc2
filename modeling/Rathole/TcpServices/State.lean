import Rathole.Server.Pairing
import Rathole.TcpTunnel

/-!
# Visitors and Data Channels of TCP Services

All TCP services of a server, with everybody who connects to it: the handles
of `control_channels` with their pools, the visitors, and the data channels
with the clients and the local services behind them. The server reads a hello,
finds the handle by its session key and passes the connection on, and the pool
writes the command on it and copies for the visitor in hand. All of this
happens in any order, handles come and go, and any client may open a data
channel under any session key whenever it likes.

The queues of a pool are lists of numbers. What has a number in a handle is
there with its bytes: a visitor with what it has sent and got, and a data
channel with its tunnel. A connection is moved from the server to the handle,
so it is never in two places. Until a visitor is served its bytes are on its
own connection, and then they are on the tunnel.

## Main definitions

* `TcpServices.Visitor`, `TcpServices.DataChannel`: What connects.
* `TcpServices.Handle`: A handle with what connected to it.
* `TcpServices`: The handles, and the data channels that have yet to say hello.
* `TcpServices.step`: One action of anybody.
-/

namespace Rathole

namespace TcpServices

/-- What all data channels have in common. -/
structure Setting (β : Type) where
  alphabet : Alphabet β
  transport : TransportType
  heartbeatInterval : Nat

/-- A connection to the address of a service: what it has sent, whether it has
    shut its side down, and what it has got. -/
structure Visitor (β : Type) where
  sent : List β
  closed : Bool
  got : List β
deriving DecidableEq, Repr

/-- A data channel, the session key its client opened it under, and the type
    the service has for this client. -/
structure DataChannel (β : Type) where
  sessionKey : Digest β
  serviceType : ServiceType
  tunnel : TcpTunnel β
deriving DecidableEq

/-- A `ControlChannelHandle`, with the visitors it has accepted and the data
    channels it was given. -/
structure Handle (β : Type) where
  sessionKey : Digest β
  journal : TcpPool.Journal
  visitors : List (Visitor β)
  dataChannels : List (DataChannel β)
deriving DecidableEq

/-- What a visitor does. -/
inductive VisitorAction (β : Type)
  | sends (bs : List β)
  | closes
  | reads (n : Nat)
deriving DecidableEq

/-- `pool`, `start`, `channel` and `visitor` are of the handle with this
    number, `hello` and `arriving` of a data channel that has no handle yet. -/
inductive Action (β : Type)
  | login (sessionKey : Digest β)
  | connect (sessionKey : Digest β) (serviceType : ServiceType)
  | hello (i : Nat)
  | arriving (i : Nat) (a : TcpTunnel.Action β)
  | pool (h : Nat) (a : TcpPool.Action)
  | start (h : Nat) (broken : Option Nat)
  | channel (h ch : Nat) (a : TcpTunnel.Action β)
  | visitor (h v : Nat) (a : VisitorAction β)
deriving DecidableEq

end TcpServices

/-- A server with its visitors and clients. -/
structure TcpServices (β : Type) where
  handles : List (TcpServices.Handle β)
  arriving : List (TcpServices.DataChannel β)
deriving DecidableEq

namespace TcpServices

variable {β : Type}

/-- Nobody has logged in. -/
def initial : TcpServices β where
  handles := []
  arriving := []

/-- What the client, the service and the two copiers do. The visitor and the
    pool have actions of their own here. -/
def inner : TcpTunnel.Action β → Bool
  | .visitorSends _ | .visitorCloses | .visitorReads _ | .readHello | .start
  | .startFails _ => false
  | _ => true

/-! ### A visitor -/

/-- A visitor who has just connected. -/
def Visitor.fresh : Visitor β where
  sent := []
  closed := false
  got := []

/-- What a visitor does, with these bytes there to be read. -/
def Visitor.step (w : Visitor β) (there : List β) : VisitorAction β → Option (Visitor β)
  | .sends bs => if w.closed = false then some { w with sent := w.sent ++ bs } else none
  | .closes => some { w with closed := true }
  | .reads n =>
      if 0 < n ∧ n ≤ there.length then some { w with got := w.got ++ there.take n } else none

/-- What a visitor does, in the tunnel of its data channel. -/
def VisitorAction.inTunnel : VisitorAction β → TcpTunnel.Action β
  | .sends bs => .visitorSends bs
  | .closes => .visitorCloses
  | .reads n => .visitorReads n

/-! ### A data channel -/

namespace DataChannel

/-- A data channel that has just been opened. -/
def fresh (sessionKey : Digest β) (serviceType : ServiceType) : DataChannel β where
  sessionKey := sessionKey
  serviceType := serviceType
  tunnel := TcpTunnel.initial

/-- The setting of its tunnel, at a server that knows these session keys. -/
def setting (S : Setting β) (known : Digest β → Bool) (c : DataChannel β) :
    TcpTunnel.Setting β where
  alphabet := S.alphabet
  sessionKey := c.sessionKey
  known := known
  serviceType := c.serviceType
  transport := S.transport

/-- A step of its tunnel. Only the hello depends on what the server knows. -/
def step [DecidableEq β] (S : Setting β) (known : Digest β → Bool) (c : DataChannel β)
    (a : TcpTunnel.Action β) : Option (DataChannel β) :=
  (c.tunnel.step (c.setting S known) a).map (fun t => { c with tunnel := t })

/-- The nonce in the hello that is there to be read. -/
def said (S : Setting β) (c : DataChannel β) : Option (Digest β) :=
  match readHello S.alphabet c.tunnel.back.middle.bytes with
  | some (.ok (.dataChannelHello _ nonce), _) => some nonce
  | _ => none

/-- The visitor is at the other end, with what it has written on its
    connection. -/
def attach (c : DataChannel β) (w : Visitor β) : DataChannel β :=
  { c with tunnel := { c.tunnel with forth := { c.tunnel.forth with
    entry := { bytes := w.sent, closed := w.closed }
    sent := w.sent } } }

/-- The command fails after its first `n` symbols, and the server lets go of the
    data channel. One that has failed before takes none of them. -/
def breakOff [DecidableEq β] (S : Setting β) (c : DataChannel β) (n : Nat) : DataChannel β :=
  (c.step S (fun _ => false) (.startFails n)).getD { c with tunnel := c.tunnel.drop .server }

end DataChannel

/-! ### A handle -/

namespace Handle

/-- `ControlChannelHandle::new` -/
def fresh (S : Setting β) (sessionKey : Digest β) : Handle β where
  sessionKey := sessionKey
  journal := TcpPool.Journal.initial S.heartbeatInterval
  visitors := []
  dataChannels := []

/-- The tasks of the handle, as far as they are not about a data channel. A
    visitor that is accepted is a new one. -/
def pool (H : Handle β) : TcpPool.Action → Option (Handle β)
  | .handle .openCh | .start _ => none
  | a => (H.journal.step a).map (fun g => { H with
      journal := g
      visitors := if g.pool.accepted = H.journal.pool.accepted then H.visitors
        else H.visitors ++ [Visitor.fresh] })

/-- The handle was found for a data channel. -/
def receive (H : Handle β) (c : DataChannel β) : Option (Handle β) :=
  (H.journal.step (.handle .openCh)).map (fun g => { H with
    journal := g
    dataChannels := H.dataChannels ++ [c] })

/-- The command is written to the data channel in hand, and the visitor is
    copied for, or the write fails, which may have put some of the command, or
    all of it, on the wire. -/
def start [DecidableEq β] (S : Setting β) (H : Handle β) (broken : Option Nat) :
    Option (Handle β) :=
  match H.journal.pool.pool with
  | .starting v ch =>
      match H.visitors[v]?, H.dataChannels[ch]?, H.journal.step (.start broken.isNone) with
      | some w, some c, some g =>
          let c' := match broken with
            | none => (c.attach w).step S (fun _ => false) .start
            | some n => some (c.breakOff S n)
          c'.map (fun c' => { H with journal := g, dataChannels := H.dataChannels.set ch c' })
      | _, _, _ => none
  | _ => none

/-- The data channel that serves a visitor. -/
def channelOf (H : Handle β) (v : Nat) : Option Nat :=
  (H.journal.pool.paired.find? (fun p => p.1 = v)).map Prod.snd

/-- A visitor sends, shuts its side down or reads. Before it is served there is
    nothing to be read. -/
def visit [DecidableEq β] (S : Setting β) (H : Handle β) (v : Nat) (a : VisitorAction β) :
    Option (Handle β) :=
  match H.visitors[v]?, H.channelOf v with
  | none, _ => none
  | some w, none => (w.step [] a).map (fun w' => { H with visitors := H.visitors.set v w' })
  | some w, some ch => match H.dataChannels[ch]? with
    | none => none
    | some c =>
        match w.step c.tunnel.back.exit.bytes a, c.step S (fun _ => false) a.inTunnel with
        | some w', some c' => some { H with
            visitors := H.visitors.set v w'
            dataChannels := H.dataChannels.set ch c' }
        | _, _ => none

/-- An action in a data channel of the handle. -/
def channel [DecidableEq β] (S : Setting β) (H : Handle β) (ch : Nat) (a : TcpTunnel.Action β) :
    Option (Handle β) :=
  match H.dataChannels[ch]? with
  | none => none
  | some c => (c.step S (fun _ => false) a).map (fun c' =>
      { H with dataChannels := H.dataChannels.set ch c' })

end Handle

/-! ### The server -/

/-- `control_channels.get2(&nonce)`. A handle that was dropped has left the
    map. -/
def handle? [DecidableEq β] (s : TcpServices β) (nonce : Digest β) : Option Nat :=
  s.handles.findIdx? (fun H => H.sessionKey = nonce ∧ H.journal.pool.dropped = false)

/-- An action on one handle. -/
def onHandle (s : TcpServices β) (h : Nat) (f : Handle β → Option (Handle β)) :
    Option (TcpServices β) :=
  match s.handles[h]? with
  | none => none
  | some H => (f H).map (fun H' => { s with handles := s.handles.set h H' })

/-- `read_hello` and `do_data_channel_handshake`. The data channel goes to the
    handle that is found, or nowhere. -/
def hello [DecidableEq β] (S : Setting β) (s : TcpServices β) (i : Nat) :
    Option (TcpServices β) :=
  match s.arriving[i]? with
  | none => none
  | some c => match c.step S (fun nonce => (s.handle? nonce).isSome) .readHello with
    | none => none
    | some c' => match (c.said S).bind s.handle? with
      | none => some { s with arriving := s.arriving.set i c' }
      | some h => ({ s with arriving := s.arriving.eraseIdx i }).onHandle h (fun H => H.receive c')

/-- One action; `none` if it cannot be taken. -/
def step [DecidableEq β] (S : Setting β) (s : TcpServices β) : Action β → Option (TcpServices β)
  | .login sessionKey =>
      -- A key that is taken is not put into the map twice.
      if (s.handle? sessionKey).isSome then none
      else some { s with handles := s.handles ++ [Handle.fresh S sessionKey] }
  | .connect sessionKey serviceType => some { s with
      arriving := s.arriving ++ [DataChannel.fresh sessionKey serviceType] }
  | .hello i => s.hello S i
  | .arriving i a =>
      if inner a then match s.arriving[i]? with
        | none => none
        | some c => (c.step S (fun _ => false) a).map (fun c' =>
            { s with arriving := s.arriving.set i c' })
      else none
  | .pool h a => s.onHandle h (fun H => H.pool a)
  | .start h broken => s.onHandle h (fun H => H.start S broken)
  | .channel h ch a => if inner a then s.onHandle h (fun H => H.channel S ch a) else none
  | .visitor h v a => s.onHandle h (fun H => H.visit S v a)

end TcpServices

end Rathole
