import Rathole.Client.UdpFlow
import Rathole.Protocol.Udp

/-!
# A UDP Tunnel, End to End

One data channel of a UDP service with both its ends: the loop of
`run_udp_connection_pool` on the server, and on the client the data channel of
`Client.Udp` with its reader loop, its forwarders and its outbound writer.
Between them are two byte streams. The loop starts after the command
`StartForwardUdp` has been written and read.

A datagram is one value outside the tunnel and some bytes inside. The server
receives it into a buffer of `UDP_BUFFER_SIZE` bytes and writes it as one
frame; the reader loop sees it once the whole frame has come. A write that
fails may leave any beginning of its frame on the stream, and its writer never
writes again. The client's own actions are those of `Client.Udp.UdpChannel`,
with the streams attached where it reads a packet and where it writes one.

Four histories record what crosses the outer edges: what visitors sent, what
was handed to the sockets towards the service, what came back on these
sockets, and what was sent to visitors. Sockets are told apart by their
number. What is handed to a socket counts also where the send fails.

## Main definitions

* `UdpTunnel`: Both ends, the streams, and the histories.
* `TunnelAction`: What can happen next.
* `UdpTunnel.step`: One action.
* `UdpTunnel.initial`: A tunnel that has just started.
* `UdpTunnel.receivedFrom`, `UdpTunnel.sentFor`, `UdpTunnel.repliesFor`,
  `UdpTunnel.returnedTo`: The histories of one visitor.

## Theorems

* `UdpTunnel.advance_cases`: What an action of the client does to the tunnel.
* `UdpTunnel.recvFrom_cases` and the lemmas after it: What the others can do.
-/

namespace Rathole

open ByteStream Client.Udp

/-- A tunnel for one UDP service. -/
structure UdpTunnel where
  serving : Bool
  client : UdpChannel SocketAddr
  down : List UInt8
  up : List UInt8
  received : List (UdpTraffic SocketAddr)
  forwarded : List (Nat × List UInt8)
  replies : List (Nat × List UInt8)
  returned : List (UdpTraffic SocketAddr)

/-- A write is cut after some bytes, or by nothing. -/
inductive TunnelAction
  | recvFrom (t : UdpTraffic SocketAddr) (cut : Option Nat)
  | sendBack (ok : Bool)
  | stop
  | readFrame
  | writeFrame (cut : Option Nat)
  | task (a : Client.Udp.Action SocketAddr)

namespace UdpTunnel

/-- A tunnel that has just started. -/
def initial : UdpTunnel where
  serving := true
  client := UdpChannel.initial
  down := []
  up := []
  received := []
  forwarded := []
  replies := []
  returned := []

/-- The server receives a datagram and writes it to the client. -/
def recvFrom (s : UdpTunnel) (t : UdpTraffic SocketAddr) (cut : Option Nat) : Option UdpTunnel :=
  if s.serving then
    -- `recv_from` keeps what fits its buffer.
    let bytes := UdpTraffic.writeSlice t.source (t.data.take udpBufferSize)
    some { s with
      -- A failed write leaves the loop through `?`.
      serving := cut.isNone
      down := s.down ++ delivered bytes cut
      received := s.received ++ [t] }
  else none

/-- The server reads a packet from the client and sends it to its visitor. A
    packet that does not decode ends the loop, and so does a failed send. -/
def sendBack (s : UdpTunnel) (ok : Bool) : Option UdpTunnel :=
  if s.serving then
    match UdpTraffic.readFrame s.up with
    | none => none
    -- `read` is under `?` as well.
    | some (.error _, rest) => some { s with serving := false, up := rest }
    | some (.ok t, rest) => some { s with
        serving := ok
        up := rest
        returned := s.returned ++ [t] }
  else none

/-- The server's loop ends: it is shut down, or the connection or its socket
    fails. -/
def stop (s : UdpTunnel) : Option UdpTunnel :=
  if s.serving then some { s with serving := false } else none

/-- An action of the client, with what crosses its outer edge. -/
def advance (s : UdpTunnel) (a : Client.Udp.Action SocketAddr) : Option UdpTunnel :=
  (s.client.step a).map (fun client => { s with
    client := client
    forwarded := s.forwarded ++ s.client.handed a
    replies := s.replies ++ a.replies })

/-- The reader loop of the client takes a packet off the stream, or fails on
    one that does not decode. -/
def readFrame (s : UdpTunnel) : Option UdpTunnel :=
  match UdpTraffic.readFrame s.down with
  | none => none
  -- The reader loop ends the data channel on such an error.
  | some (.error _, rest) => { s with down := rest }.advance .readError
  | some (.ok p, rest) => { s with down := rest }.advance (.packet p)

/-- The client's writer puts the packet at the head of its queue on the
    stream. -/
def writeFrame (s : UdpTunnel) (cut : Option Nat) : Option UdpTunnel :=
  match s.client.outbound with
  | [] => none
  | t :: _ => { s with up := s.up ++ delivered t.write cut }.advance (.writeOut cut.isNone)

/-- The client's actions beside the streams. -/
def task (s : UdpTunnel) : Client.Udp.Action SocketAddr → Option UdpTunnel
  -- These two only come with the stream, through `readFrame` and `writeFrame`.
  | .packet _ => none
  | .writeOut _ => none
  | a => s.advance a

/-- One action of either end. -/
def step (s : UdpTunnel) : TunnelAction → Option UdpTunnel
  | .recvFrom t cut => s.recvFrom t cut
  | .sendBack ok => s.sendBack ok
  | .stop => s.stop
  | .readFrame => s.readFrame
  | .writeFrame cut => s.writeFrame cut
  | .task a => s.task a

/-! ### The histories of one visitor -/

/-- The payloads a visitor sent. -/
def receivedFrom (s : UdpTunnel) (v : SocketAddr) : List (List UInt8) := packetsFor v s.received

/-- The payloads handed to the sockets opened for a visitor. -/
def sentFor (s : UdpTunnel) (v : SocketAddr) : List (List UInt8) :=
  s.client.socketFor v s.forwarded

/-- The payloads handed to one socket. -/
def sentOn (s : UdpTunnel) (i : Nat) : List (List UInt8) :=
  (s.forwarded.filter (fun e => e.1 = i)).map Prod.snd

/-- The payloads that came from the service on the sockets opened for a
    visitor. -/
def repliesFor (s : UdpTunnel) (v : SocketAddr) : List (List UInt8) :=
  s.client.socketFor v s.replies

/-- The payloads sent to a visitor. -/
def returnedTo (s : UdpTunnel) (v : SocketAddr) : List (List UInt8) := packetsFor v s.returned

/-! ### What each action can do -/

section Cases

variable {s s' : UdpTunnel}

theorem recvFrom_cases {t : UdpTraffic SocketAddr} {cut : Option Nat}
    (h : s.recvFrom t cut = some s') :
    s.serving = true ∧ s' = { s with
      serving := cut.isNone
      down := s.down ++ delivered (UdpTraffic.writeSlice t.source (t.data.take udpBufferSize)) cut
      received := s.received ++ [t] } := by
  unfold recvFrom at h
  by_cases hs : s.serving
  · rw [if_pos hs] at h
    exact ⟨hs, (Option.some.inj h).symm⟩
  · simp only [if_neg hs, reduceCtorEq] at h

theorem sendBack_cases {ok : Bool} (h : s.sendBack ok = some s') :
    s.serving = true ∧ ∃ r rest, UdpTraffic.readFrame s.up = some (r, rest) ∧
      ((∃ e, r = .error e ∧ s' = { s with serving := false, up := rest }) ∨
        (∃ t, r = .ok t ∧ s' = { s with
          serving := ok, up := rest, returned := s.returned ++ [t] })) := by
  unfold sendBack at h
  by_cases hs : s.serving
  · rw [if_pos hs] at h
    refine ⟨hs, ?_⟩
    rcases hread : UdpTraffic.readFrame s.up with _ | ⟨e | t, rest⟩
    · simp only [hread, reduceCtorEq] at h
    · simp only [hread] at h
      exact ⟨_, rest, rfl, Or.inl ⟨e, rfl, (Option.some.inj h).symm⟩⟩
    · simp only [hread] at h
      exact ⟨_, rest, rfl, Or.inr ⟨t, rfl, (Option.some.inj h).symm⟩⟩
  · simp only [if_neg hs, reduceCtorEq] at h

theorem stop_cases (h : s.stop = some s') :
    s.serving = true ∧ s' = { s with serving := false } := by
  unfold stop at h
  by_cases hs : s.serving
  · rw [if_pos hs] at h
    exact ⟨hs, (Option.some.inj h).symm⟩
  · simp only [if_neg hs, reduceCtorEq] at h

theorem advance_cases {a : Client.Udp.Action SocketAddr} (h : s.advance a = some s') :
    ∃ client, s.client.step a = some client ∧ s' = { s with
      client := client
      forwarded := s.forwarded ++ s.client.handed a
      replies := s.replies ++ a.replies } := by
  rcases Option.map_eq_some_iff.mp h with ⟨client, hstep, heq⟩
  exact ⟨client, hstep, heq.symm⟩

theorem readFrame_cases (h : s.readFrame = some s') :
    ∃ r rest, UdpTraffic.readFrame s.down = some (r, rest) ∧
      ((∃ e, r = .error e ∧ { s with down := rest }.advance .readError = some s') ∨
        (∃ p, r = .ok p ∧ { s with down := rest }.advance (.packet p) = some s')) := by
  unfold readFrame at h
  rcases hread : UdpTraffic.readFrame s.down with _ | ⟨e | p, rest⟩
  · simp only [hread, reduceCtorEq] at h
  · simp only [hread] at h
    exact ⟨_, rest, rfl, Or.inl ⟨e, rfl, h⟩⟩
  · simp only [hread] at h
    exact ⟨_, rest, rfl, Or.inr ⟨p, rfl, h⟩⟩

theorem writeFrame_cases {cut : Option Nat} (h : s.writeFrame cut = some s') :
    ∃ t rest, s.client.outbound = t :: rest ∧
      { s with up := s.up ++ delivered t.write cut }.advance (.writeOut cut.isNone) =
        some s' := by
  unfold writeFrame at h
  rcases ho : s.client.outbound with _ | ⟨t, rest⟩
  · simp only [ho, reduceCtorEq] at h
  · simp only [ho] at h
    exact ⟨t, rest, rfl, h⟩

/-- A client action beside the streams brings no packet and writes none. -/
theorem task_cases {a : Client.Udp.Action SocketAddr} (h : s.task a = some s') :
    a.arrivals = [] ∧ (∀ ok, a ≠ .writeOut ok) ∧ s.advance a = some s' := by
  cases a with
  | packet p => simp only [task, reduceCtorEq] at h
  | writeOut ok => simp only [task, reduceCtorEq] at h
  | _ => exact ⟨rfl, by simp only [ne_eq, reduceCtorEq, not_false_eq_true, implies_true], h⟩

end Cases

end UdpTunnel

end Rathole
