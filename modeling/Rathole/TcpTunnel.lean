import Rathole.Config
import Rathole.Lib.Copying
import Rathole.Lib.Transition
import Rathole.Protocol.Wire

/-!
# A TCP Tunnel, End to End

One visitor of a TCP service and one data channel, with both its ends: on the
client `run_data_channel`, which says hello under the session key, waits for a
command, connects to the local service and copies back and forth; on the
server `do_data_channel_handshake`, the queue of the handle, and the task of
`run_tcp_connection_pool` that writes the command and copies back and forth.

The visitor, the data channel and the local service are three connections with
two directions each, so the bytes of a visitor are on a lane of two copiers,
that of the server and that of the client, and those of the service are on
another in the opposite direction. On the data channel each lane begins with
what the two ends say to each other. Everything moves in any order and in
pieces of any size. An end that fails, whatever the reason, drops its
connections and never moves again.

A websocket tells its reader that it was shut down by a frame, and the stream
of `websocket.rs` takes that for an error. So there an end that has read all
fails where others go on with the other direction.

## Main definitions

* `TcpTunnel`: Both ends and both lanes.
* `TcpTunnel.step`: One action.
* `TcpTunnel.Sound`: The lanes carry what went in, behind what is still unread
  of the handshake.

## Theorems

* `sound_of_step`: A step keeps the lanes.
* `bytes_in_order`: Nothing is lost in between, doubled or reordered, whatever
  fails.
* `whole_without_failure`: Where nothing fails everything arrives, and the end
  after it.
* `websocket_reply_cut`: Over a websocket the end cuts off the other direction.
-/

namespace Rathole

open ByteStream Transition

namespace TcpTunnel

/-- `do_data_channel_handshake` of the server: reading the hello, in the queue
    of the handle, and paired with the visitor, or given up when the write of
    the command failed after its first `n` symbols. -/
inductive ServerPc
  | readingHello
  | queued
  | copying
  | broken (n : Nat)
deriving DecidableEq, Repr

/-- `run_data_channel` -/
inductive ClientPc
  | starting
  | readingCmd
  | connecting
  | copying
deriving DecidableEq, Repr

/-- The end at which a copier runs. -/
inductive Side
  | server
  | client
deriving DecidableEq, Repr

/-- From the visitor to the service, or the other way. -/
inductive Direction
  | forth
  | back
deriving DecidableEq, Repr

/-- What does not change: the symbols of the streams, the session key of the
    data channel, the session keys the server knows, the type of the service at
    the client, and the transport. -/
structure Setting (β : Type) where
  alphabet : Alphabet β
  sessionKey : Digest β
  known : Digest β → Bool
  serviceType : ServiceType
  transport : TransportType

/-- What the visitor, the service and the two ends of the data channel do. -/
inductive Action (β : Type)
  | visitorSends (bs : List β)
  | visitorCloses
  | visitorReads (n : Nat)
  | serviceSends (bs : List β)
  | serviceCloses
  | serviceReads (n : Nat)
  | sayHello
  | readHello
  | start
  | startFails (n : Nat)
  | readCmd
  | connect
  | copy (side : Side) (d : Direction) (a : CopyAction)
  | fail (side : Side)
deriving DecidableEq

end TcpTunnel

/-- A tunnel for one visitor. -/
structure TcpTunnel (β : Type) where
  server : TcpTunnel.ServerPc
  client : TcpTunnel.ClientPc
  serverUp : Bool
  clientUp : Bool
  forth : Lane β
  back : Lane β
deriving DecidableEq

namespace TcpTunnel

variable {β : Type}

/-- The size of the buffers of `copy_bidirectional`. -/
def copyBufferSize : Nat := 8 * 1024

/-- The hello of the data channel. -/
def Setting.hello (S : Setting β) : List β :=
  (Hello.dataChannelHello currentProtoVersion S.sessionKey).serialize S.alphabet

/-- The command that starts the forwarding. -/
def Setting.cmd (S : Setting β) : List β :=
  serializeTag S.alphabet DataChannelCmd.tag .startForwardTcp

/-- A client that has connected, and a visitor that was accepted. -/
def initial : TcpTunnel β where
  server := .readingHello
  client := .starting
  serverUp := true
  clientUp := true
  forth := Lane.fresh
  back := Lane.fresh

/-- One end is dropped, and its connections with it. The visitor of a data
    channel that was not paired is not among them, nor is a service that was
    not connected to. -/
def drop (t : TcpTunnel β) : Side → TcpTunnel β
  | .server => { t with
      serverUp := false
      forth := { t.forth with middle := t.forth.middle.close }
      back := if t.server = .copying then { t.back with exit := t.back.exit.close } else t.back }
  | .client => { t with
      clientUp := false
      forth := if t.client = .copying then { t.forth with exit := t.forth.exit.close } else t.forth
      back := { t.back with middle := t.back.middle.close } }

/-- `read_hello`, and the lookup of the session key. -/
def receiveHello [DecidableEq β] (S : Setting β) (t : TcpTunnel β) : Option (TcpTunnel β) :=
  match readHello S.alphabet t.back.middle.bytes with
  | none => none
  | some (.ok (.dataChannelHello _ nonce), rest) =>
      if S.known nonce then some { t with
        server := .queued
        back := { t.back with middle := { t.back.middle with bytes := rest } } }
      else some (t.drop .server)
  -- The client of a data channel says nothing else.
  | some _ => some (t.drop .server)

/-- `read_data_cmd`, and the check of the service's type. -/
def receiveCmd (S : Setting β) (t : TcpTunnel β) : Option (TcpTunnel β) :=
  match readDataCmd S.alphabet t.forth.middle.bytes with
  | none => none
  | some (.ok .startForwardTcp, rest) =>
      if S.serviceType = .tcp then some { t with
        client := .connecting
        forth := { t.forth with middle := { t.forth.middle with bytes := rest } } }
      else some (t.drop .client)
  -- The pool of a TCP service writes no other command.
  | some _ => some (t.drop .client)

/-- An end copies. What it reads off the data channel comes to its end with an
    error if that is a websocket. -/
def copy [DecidableEq β] (S : Setting β) (t : TcpTunnel β) :
    Side → Direction → CopyAction → Option (TcpTunnel β)
  | .server, .forth, a => (t.forth.copyFirst copyBufferSize a).map (fun l => { t with forth := l })
  | .client, .back, a => (t.back.copyFirst copyBufferSize a).map (fun l => { t with back := l })
  | .client, .forth, a =>
      if S.transport = .websocket ∧ a = .eof then
        if t.forth.middle.AtEnd then some (t.drop .client) else none
      else (t.forth.copySecond copyBufferSize a).map (fun l => { t with forth := l })
  | .server, .back, a =>
      if S.transport = .websocket ∧ a = .eof then
        if t.back.middle.AtEnd then some (t.drop .server) else none
      else (t.back.copySecond copyBufferSize a).map (fun l => { t with back := l })

/-- The end copies back and forth. -/
def Copying (t : TcpTunnel β) : Side → Prop
  | .server => t.server = .copying ∧ t.serverUp = true
  | .client => t.client = .copying ∧ t.clientUp = true

instance (t : TcpTunnel β) (side : Side) : Decidable (t.Copying side) := by
  cases side with
  | server => exact inferInstanceAs (Decidable (_ ∧ _))
  | client => exact inferInstanceAs (Decidable (_ ∧ _))

/-- One action; `none` if it cannot be taken. -/
def step [DecidableEq β] (S : Setting β) (t : TcpTunnel β) : Action β → Option (TcpTunnel β)
  | .visitorSends bs => (t.forth.send bs).map (fun l => { t with forth := l })
  | .visitorCloses => some { t with forth := t.forth.finish }
  | .visitorReads n => (t.back.receive n).map (fun l => { t with back := l })
  | .serviceSends bs =>
      if t.client = .copying then (t.back.send bs).map (fun l => { t with back := l }) else none
  | .serviceCloses =>
      if t.client = .copying then some { t with back := t.back.finish } else none
  | .serviceReads n => (t.forth.receive n).map (fun l => { t with forth := l })
  | .sayHello =>
      if t.client = .starting ∧ t.clientUp = true then some { t with
        client := .readingCmd
        back := { t.back with middle := t.back.middle.write S.hello } }
      else none
  | .readHello =>
      if t.server = .readingHello ∧ t.serverUp = true then t.receiveHello S else none
  | .start =>
      if t.server = .queued ∧ t.serverUp = true then some { t with
        server := .copying
        forth := { t.forth with middle := t.forth.middle.write S.cmd } }
      else none
  -- The data channel is dropped, and the visitor is not: it waits for another one.
  | .startFails n =>
      if t.server = .queued ∧ t.serverUp = true then some { t with
        server := .broken n
        serverUp := false
        forth := { t.forth with middle := (t.forth.middle.write (S.cmd.take n)).close } }
      else none
  | .readCmd => if t.client = .readingCmd ∧ t.clientUp = true then t.receiveCmd S else none
  | .connect =>
      if t.client = .connecting ∧ t.clientUp = true then some { t with client := .copying }
      else none
  | .copy side d a => if t.Copying side then t.copy S side d a else none
  | .fail side => some (t.drop side)

/-- What was written of the command. -/
def ServerPc.written (S : Setting β) : ServerPc → List β
  | .copying => S.cmd
  | .broken n => S.cmd.take n
  | _ => []

/-- What is unread of the handshake before the visitor's bytes. -/
def forthHeader (S : Setting β) (t : TcpTunnel β) : List β :=
  if t.client = .readingCmd then t.server.written S else []

/-- What is unread of the handshake before the service's bytes. -/
def backHeader (S : Setting β) (t : TcpTunnel β) : List β :=
  if t.server = .readingHello ∧ t.client ≠ .starting then S.hello else []

/-- The lanes carry what went in, and each end waits for the other. -/
structure Sound (S : Setting β) (t : TcpTunnel β) : Prop where
  forth : t.forth.Carries (t.forthHeader S)
  back : t.back.Carries (t.backHeader S)
  starting : t.client = .starting →
    t.server = .readingHello ∧ t.back.middle.bytes = [] ∧ t.back.first = Copier.fresh
  /-- The client goes on once the whole command was written. -/
  told : t.client = .starting ∨ t.client = .readingCmd ∨ t.server.written S = S.cmd
  /-- Only a server that copies passes on anything of the visitor. -/
  idle : t.server ≠ .copying →
    t.forth.middle.bytes = t.forthHeader S ∧ t.forth.first = Copier.fresh
  broken : ∀ n, t.server = .broken n → t.serverUp = false

variable {S : Setting β} {t t' : TcpTunnel β}

theorem sound_initial : (initial : TcpTunnel β).Sound S where
  forth := Lane.carries_fresh
  back := Lane.carries_fresh
  starting := fun _ => ⟨rfl, rfl, rfl⟩
  told := Or.inl rfl
  idle := fun _ => ⟨rfl, rfl⟩
  broken := fun n hs => by simp only [initial, reduceCtorEq] at hs

/-- Dropping an end moves no bytes. -/
theorem sound_drop (hi : t.Sound S) (side : Side) : (t.drop side).Sound S := by
  cases side with
  | server =>
      refine ⟨hi.forth, ?_, fun hc => ?_, hi.told, hi.idle, fun _ _ => rfl⟩
      · by_cases hs : t.server = .copying
        · have hback := hi.back
          simp only [drop, if_pos hs]
          exact hback
        · simp only [drop, if_neg hs]
          exact hi.back
      · have hstart := hi.starting hc
        have hs : t.server ≠ .copying := by
          rw [hstart.1]
          simp only [ne_eq, reduceCtorEq, not_false_eq_true]
        simp only [drop, if_neg hs]
        exact hstart
  | client =>
      have hsame : (t.drop .client).forth.middle = t.forth.middle ∧
          (t.drop .client).forth.first = t.forth.first := by
        by_cases hc : t.client = .copying
        · simp only [drop, if_pos hc, and_self]
        · simp only [drop, if_neg hc, and_self]
      refine ⟨?_, hi.back, hi.starting, hi.told, fun hs => ?_, hi.broken⟩
      · by_cases hc : t.client = .copying
        · have hforth := hi.forth
          simp only [drop, if_pos hc]
          exact hforth
        · simp only [drop, if_neg hc]
          exact hi.forth
      · rw [hsame.1, hsame.2]
        exact hi.idle hs

/-! ### The handshake -/

theorem readDataCmd_cmd (S : Setting β) (rest : List β) :
    readDataCmd S.alphabet (S.cmd ++ rest) = some (.ok .startForwardTcp, rest) :=
  readMessage_encode (DataChannelCmd.codec S.alphabet) "data cmd" .startForwardTcp rest

theorem readDataCmd_nil (A : Alphabet β) : readDataCmd A [] = none := rfl

theorem readHello_nil (A : Alphabet β) : readHello A [] = none := rfl

theorem cmd_ne_nil (S : Setting β) : S.cmd ≠ [] := by
  intro hnil
  have hread := readDataCmd_cmd S []
  rw [hnil, List.append_nil, readDataCmd_nil] at hread
  simp only [reduceCtorEq] at hread

theorem written_isPrefix (S : Setting β) (pc : ServerPc) : pc.written S <+: S.cmd := by
  cases pc with
  | copying => exact List.prefix_refl _
  | broken n => exact List.take_prefix n _
  | readingHello | queued => exact List.nil_prefix

/-- Of a part of the command the client makes nothing. -/
theorem eq_cmd_of_readDataCmd {bs : List β} {p : Except ReadError DataChannelCmd × List β}
    (hpre : bs <+: S.cmd) (h : readDataCmd S.alphabet bs = some p) : bs = S.cmd := by
  have hpre' : bs <+: (DataChannelCmd.codec S.alphabet).encode .startForwardTcp ++ [] := by
    rw [List.append_nil]
    exact hpre
  have hall := (readMessage_of_isPrefix hpre' h).2
  have hcmd : S.cmd <+: bs := ⟨p.2, hall.symm⟩
  exact hpre.eq_of_length_le hcmd.length_le

/-- A server that waits for a hello has that of the client before it. -/
theorem readHello_of_sound (hi : t.Sound S) (hs : t.server = .readingHello)
    (hc : t.client ≠ .starting) : readHello S.alphabet t.back.middle.bytes =
      some (.ok (.dataChannelHello currentProtoVersion S.sessionKey),
        t.back.middle.bytes.drop S.hello.length) := by
  rcases hi.back with ⟨payload, hmiddle, _⟩
  rw [backHeader, if_pos ⟨hs, hc⟩] at hmiddle
  rw [hmiddle, List.drop_left]
  exact readHello_serialize S.alphabet rfl payload

/-- It reads it, and leaves what is behind it. -/
theorem receiveHello_cases [DecidableEq β] (hi : t.Sound S) (hs : t.server = .readingHello)
    (h : t.receiveHello S = some t') : t.client ≠ .starting ∧
      (t' = { t with
          server := .queued
          back := { t.back with middle := t.back.middle.drop S.hello.length } } ∨
        (S.known S.sessionKey = false ∧ t' = t.drop .server)) := by
  have hc : t.client ≠ .starting := by
    intro hc
    rw [receiveHello, (hi.starting hc).2.1, readHello_nil] at h
    simp only [reduceCtorEq] at h
  refine ⟨hc, ?_⟩
  simp only [receiveHello, readHello_of_sound hi hs hc] at h
  cases hk : S.known S.sessionKey with
  | true =>
      rw [hk, if_pos rfl, Option.some.injEq] at h
      rw [← h]
      exact Or.inl rfl
  | false =>
      rw [hk, if_neg Bool.false_ne_true, Option.some.injEq] at h
      exact Or.inr ⟨rfl, h.symm⟩

/-- What is unread of the command is all that was written of it. -/
theorem written_of_receiveCmd (hi : t.Sound S) (hc : t.client = .readingCmd)
    (h : t.receiveCmd S = some t') : t.server.written S = S.cmd := by
  by_cases hs : t.server = .copying
  · rw [hs]
    rfl
  · have hbytes := (hi.idle hs).1
    rw [forthHeader, if_pos hc] at hbytes
    rcases hread : readDataCmd S.alphabet t.forth.middle.bytes with _ | p
    · simp only [receiveCmd, hread, reduceCtorEq] at h
    · rw [hbytes] at hread
      exact eq_cmd_of_readDataCmd (written_isPrefix S t.server) hread

/-- A client that waits for a command reads that of the pool, and leaves what
    is behind it. -/
theorem receiveCmd_cases (hi : t.Sound S) (hc : t.client = .readingCmd)
    (h : t.receiveCmd S = some t') : t.server.written S = S.cmd ∧
      (t' = { t with
          client := .connecting
          forth := { t.forth with middle := t.forth.middle.drop S.cmd.length } } ∨
        (S.serviceType ≠ .tcp ∧ t' = t.drop .client)) := by
  have hw := written_of_receiveCmd hi hc h
  refine ⟨hw, ?_⟩
  rcases hi.forth with ⟨payload, hmiddle, _⟩
  rw [forthHeader, if_pos hc, hw] at hmiddle
  have hrest : payload = t.forth.middle.bytes.drop S.cmd.length := by
    rw [hmiddle, List.drop_left]
  simp only [receiveCmd, hmiddle, readDataCmd_cmd] at h
  by_cases ht : S.serviceType = .tcp
  · rw [if_pos ht, Option.some.injEq] at h
    rw [← h, hrest]
    exact Or.inl rfl
  · rw [if_neg ht, Option.some.injEq] at h
    exact Or.inr ⟨ht, h.symm⟩

/-- A server that has written the command is not reading the hello. -/
theorem ne_readingHello_of_written (hw : t.server.written S = S.cmd) :
    t.server ≠ .readingHello := by
  intro hs
  rw [hs] at hw
  exact cmd_ne_nil S hw.symm

theorem sound_of_sayHello (hi : t.Sound S) (hc : t.client = .starting) : Sound S { t with
    client := .readingCmd
    back := { t.back with middle := t.back.middle.write S.hello } } := by
  rcases hi.starting hc with ⟨hs, hbytes, _⟩
  have hforth := hi.forth
  have hback := hi.back
  have hidle := hi.idle (by rw [hs]; simp only [ne_eq, reduceCtorEq, not_false_eq_true])
  have hempty : t.forthHeader S = [] := by
    rw [forthHeader, if_neg]
    simp only [hc, reduceCtorEq, not_false_eq_true]
  rw [hempty] at hforth hidle
  rw [backHeader, if_neg (by simp only [hc, ne_eq, not_true_eq_false, and_false,
    not_false_eq_true])] at hback
  refine ⟨?_, ?_, fun hno => by simp only [reduceCtorEq] at hno, Or.inr (Or.inl rfl),
    fun _ => ?_, hi.broken⟩
  · simp only [forthHeader, hs, ServerPc.written, if_true]
    exact hforth
  · simp only [backHeader, hs, ne_eq, reduceCtorEq, not_false_eq_true, and_self, if_true]
    exact Lane.carries_header hback hbytes
  · simp only [forthHeader, hs, ServerPc.written, if_true]
    exact hidle

theorem sound_of_queued (hi : t.Sound S) (hs : t.server = .readingHello)
    (hc : t.client ≠ .starting) : Sound S { t with
      server := .queued
      back := { t.back with middle := t.back.middle.drop S.hello.length } } := by
  have hforth := hi.forth
  have hback := hi.back
  have hidle := hi.idle (by simp only [hs, ne_eq, reduceCtorEq, not_false_eq_true])
  -- Neither before nor after has anything of the command been written.
  have hsame : t.server.written S = ServerPc.written S .queued := by
    rw [hs]
    rfl
  rw [forthHeader, hsame] at hforth hidle
  rw [backHeader, if_pos ⟨hs, hc⟩] at hback
  refine ⟨hforth, ?_, fun hno => absurd hno hc, hsame ▸ hi.told, fun _ => hidle,
    fun n hno => by simp only [reduceCtorEq] at hno⟩
  simp only [backHeader, reduceCtorEq, false_and, if_false]
  exact Lane.carries_rest hback

/-- A data channel that waits in the queue has a client that waits for the
    command. -/
theorem Sound.queued (hi : t.Sound S) (hs : t.server = .queued) :
    t.client = .readingCmd ∧ t.forth.middle.bytes = [] ∧ t.forth.first = Copier.fresh := by
  have hne : t.server ≠ .copying := by
    simp only [hs, ne_eq, reduceCtorEq, not_false_eq_true]
  have hc : t.client = .readingCmd := by
    rcases hi.told with hstart | hc | hw
    · have hreading := (hi.starting hstart).1
      simp only [hs, reduceCtorEq] at hreading
    · exact hc
    · rw [hs] at hw
      exact absurd hw.symm (cmd_ne_nil S)
  have hidle := hi.idle hne
  rw [forthHeader, if_pos hc, hs] at hidle
  exact ⟨hc, hidle⟩

/-- The command is written, or a part of it. -/
theorem sound_of_written (hi : t.Sound S) (hs : t.server = .queued) {pc : ServerPc} {up : Bool}
    {middle : Wire β} (hmiddle : middle.bytes = t.forth.middle.bytes ++ pc.written S)
    (hpc : pc ≠ .readingHello) (hup : ∀ n, pc = .broken n → up = false) : Sound S { t with
      server := pc
      serverUp := up
      forth := { t.forth with middle := middle } } := by
  rcases hi.queued hs with ⟨hc, hbytes, hfirst⟩
  have hback := hi.back
  rw [backHeader, if_neg (by simp only [hs, reduceCtorEq, false_and, not_false_eq_true])] at hback
  have hforth := hi.forth
  rw [forthHeader, if_pos hc, hs] at hforth
  rcases hforth with ⟨payload, hpayload, hsent⟩
  rw [hbytes] at hmiddle hpayload
  have hnone : payload = [] := hpayload.symm
  refine ⟨⟨payload, ?_, hsent⟩, ?_, fun hno => by simp only [hc, reduceCtorEq] at hno,
    Or.inr (Or.inl hc), fun _ => ⟨?_, hfirst⟩, hup⟩
  · simp only [forthHeader, hc, if_true, hmiddle, hnone, List.nil_append, List.append_nil]
  · simp only [backHeader, hpc, false_and, if_false]
    exact hback
  · simp only [forthHeader, hc, if_true, hmiddle, List.nil_append]

theorem sound_of_connecting (hi : t.Sound S) (hw : t.server.written S = S.cmd)
    (hc : t.client = .readingCmd) : Sound S { t with
      client := .connecting
      forth := { t.forth with middle := t.forth.middle.drop S.cmd.length } } := by
  have hs := ne_readingHello_of_written hw
  have hforth := hi.forth
  have hback := hi.back
  rw [forthHeader, if_pos hc, hw] at hforth
  rw [backHeader, if_neg (fun hno => hs hno.1)] at hback
  refine ⟨?_, ?_, fun hno => by simp only [reduceCtorEq] at hno, Or.inr (Or.inr hw), fun hne => ?_,
    hi.broken⟩
  · simp only [forthHeader, reduceCtorEq, if_false]
    exact Lane.carries_rest hforth
  · simp only [backHeader, hs, false_and, if_false]
    exact hback
  · have hidle := hi.idle hne
    rw [forthHeader, if_pos hc, hw] at hidle
    simp only [forthHeader, reduceCtorEq, if_false, Wire.bytes_drop, hidle.1, List.drop_length]
    exact ⟨trivial, hidle.2⟩

theorem sound_of_connect (hi : t.Sound S) (hc : t.client = .connecting) :
    Sound S { t with client := .copying } := by
  have hw : t.server.written S = S.cmd := by
    rcases hi.told with hno | hno | hw
    · simp only [hc, reduceCtorEq] at hno
    · simp only [hc, reduceCtorEq] at hno
    · exact hw
  have hs := ne_readingHello_of_written hw
  have hheader : t.forthHeader S = [] := by
    rw [forthHeader, if_neg]
    simp only [hc, reduceCtorEq, not_false_eq_true]
  have hback := hi.back
  rw [backHeader, if_neg (fun hno => hs hno.1)] at hback
  refine ⟨?_, ?_, fun hno => by simp only [reduceCtorEq] at hno, Or.inr (Or.inr hw), fun hne => ?_,
    hi.broken⟩
  · simp only [forthHeader, reduceCtorEq, if_false]
    exact hheader ▸ hi.forth
  · simp only [backHeader, hs, false_and, if_false]
    exact hback
  · simp only [forthHeader, reduceCtorEq, if_false]
    exact hheader ▸ hi.idle hne

/-! ### Copying -/

/-- The lanes change as lanes do, and what the handshake needs of them stays. -/
theorem Sound.lanes (hi : t.Sound S) {forth back : Lane β}
    (hforth : forth.Carries (t.forthHeader S)) (hback : back.Carries (t.backHeader S))
    (hkeepForth : t.server ≠ .copying →
      forth.middle.bytes = t.forth.middle.bytes ∧ forth.first = t.forth.first)
    (hkeepBack : t.client = .starting →
      back.middle.bytes = t.back.middle.bytes ∧ back.first = t.back.first) :
    Sound S { t with forth := forth, back := back } where
  forth := hforth
  back := hback
  starting := by
    intro hc
    rw [(hkeepBack hc).1, (hkeepBack hc).2]
    exact hi.starting hc
  told := hi.told
  idle := by
    intro hs
    rw [(hkeepForth hs).1, (hkeepForth hs).2]
    exact hi.idle hs
  broken := hi.broken

/-- A second copier with nothing to read leaves it so, and the first copier
    too. -/
theorem copySecond_nil [DecidableEq β] {l l' : Lane β} {a : CopyAction}
    (hnil : l.middle.bytes = []) (h : l.copySecond copyBufferSize a = some l') :
    l'.middle.bytes = l.middle.bytes ∧ l'.first = l.first := by
  rcases Option.map_eq_some_iff.mp h with ⟨x, hx, rfl⟩
  cases a with
  | read n =>
      simp only [Transfer.step, Option.ite_none_right_eq_some, Option.some.injEq] at hx
      rw [← hx.2]
      simp only [Lane.rear, Wire.bytes_drop, hnil, List.drop_nil, and_self]
  | eof | write n | shutdown =>
      simp only [Transfer.step, Option.ite_none_right_eq_some, Option.some.injEq] at hx
      rw [← hx.2]
      exact ⟨rfl, rfl⟩

/-- An end that copies has nothing of the handshake before it. -/
theorem sound_of_copy [DecidableEq β] {side : Side} {d : Direction} {a : CopyAction}
    (hi : t.Sound S) (hcopy : t.Copying side) (h : t.copy S side d a = some t') :
    t'.Sound S := by
  have hstarted : ∀ {P : Prop}, t.client = .copying → t.client = .starting → P := by
    intro P hc hno
    simp only [hc, reduceCtorEq] at hno
  cases side with
  | server =>
      have hs := hcopy.1
      cases d with
      | forth =>
          rcases Option.map_eq_some_iff.mp h with ⟨l, hl, rfl⟩
          exact hi.lanes (Lane.carries_first hi.forth hl) hi.back (fun hno => absurd hs hno)
            (fun _ => ⟨rfl, rfl⟩)
      | back =>
          have hback := hi.back
          have hempty : t.backHeader S = [] := by
            rw [backHeader, if_neg]
            simp only [hs, reduceCtorEq, false_and, not_false_eq_true]
          have hc : t.client ≠ .starting := by
            intro hc
            have hreading := (hi.starting hc).1
            simp only [hs, reduceCtorEq] at hreading
          rw [hempty] at hback
          unfold copy at h
          by_cases hws : S.transport = .websocket ∧ a = .eof
          · simp only [if_pos hws, Option.ite_none_right_eq_some, Option.some.injEq] at h
            exact h.2 ▸ sound_drop hi .server
          · simp only [if_neg hws] at h
            rcases Option.map_eq_some_iff.mp h with ⟨l, hl, rfl⟩
            exact hi.lanes hi.forth (hempty ▸ Lane.carries_second hback hl)
              (fun hno => absurd hs hno) (fun hno => absurd hno hc)
  | client =>
      have hc := hcopy.1
      cases d with
      | back =>
          rcases Option.map_eq_some_iff.mp h with ⟨l, hl, rfl⟩
          exact hi.lanes hi.forth (Lane.carries_first hi.back hl) (fun _ => ⟨rfl, rfl⟩)
            (fun hno => hstarted hc hno)
      | forth =>
          have hforth := hi.forth
          have hempty : t.forthHeader S = [] := by
            rw [forthHeader, if_neg]
            simp only [hc, reduceCtorEq, not_false_eq_true]
          rw [hempty] at hforth
          unfold copy at h
          by_cases hws : S.transport = .websocket ∧ a = .eof
          · simp only [if_pos hws, Option.ite_none_right_eq_some, Option.some.injEq] at h
            exact h.2 ▸ sound_drop hi .client
          · simp only [if_neg hws] at h
            rcases Option.map_eq_some_iff.mp h with ⟨l, hl, rfl⟩
            exact hi.lanes (hempty ▸ Lane.carries_second hforth hl) hi.back
              (fun hs => copySecond_nil ((hi.idle hs).1.trans hempty) hl)
              (fun hno => hstarted hc hno)

/-- A step keeps the lanes. -/
theorem sound_of_step [DecidableEq β] {a : Action β} (hi : t.Sound S)
    (h : t.step S a = some t') : t'.Sound S := by
  have hkeep : ∀ {P : Prop} {l : Lane β}, P → l.middle.bytes = l.middle.bytes ∧
      l.first = l.first := fun _ => ⟨rfl, rfl⟩
  cases a with
  | visitorSends bs =>
      rcases Option.map_eq_some_iff.mp h with ⟨l, hl, rfl⟩
      have hcarries := Lane.carries_send hi.forth hl
      simp only [Lane.send, Option.ite_none_right_eq_some, Option.some.injEq] at hl
      rw [← hl.2] at hcarries ⊢
      exact hi.lanes hcarries hi.back hkeep hkeep
  | visitorCloses =>
      rw [step, Option.some.injEq] at h
      exact h ▸ hi.lanes (Lane.carries_finish hi.forth) hi.back hkeep hkeep
  | visitorReads n =>
      rcases Option.map_eq_some_iff.mp h with ⟨l, hl, rfl⟩
      have hcarries := Lane.carries_receive hi.back hl
      simp only [Lane.receive, Option.ite_none_right_eq_some, Option.some.injEq] at hl
      rw [← hl.2] at hcarries ⊢
      exact hi.lanes hi.forth hcarries hkeep hkeep
  | serviceSends bs =>
      simp only [step, Option.ite_none_right_eq_some] at h
      rcases Option.map_eq_some_iff.mp h.2 with ⟨l, hl, rfl⟩
      have hcarries := Lane.carries_send hi.back hl
      simp only [Lane.send, Option.ite_none_right_eq_some, Option.some.injEq] at hl
      rw [← hl.2] at hcarries ⊢
      exact hi.lanes hi.forth hcarries hkeep hkeep
  | serviceCloses =>
      simp only [step, Option.ite_none_right_eq_some, Option.some.injEq] at h
      exact h.2 ▸ hi.lanes hi.forth (Lane.carries_finish hi.back) hkeep hkeep
  | serviceReads n =>
      rcases Option.map_eq_some_iff.mp h with ⟨l, hl, rfl⟩
      have hcarries := Lane.carries_receive hi.forth hl
      simp only [Lane.receive, Option.ite_none_right_eq_some, Option.some.injEq] at hl
      rw [← hl.2] at hcarries ⊢
      exact hi.lanes hcarries hi.back hkeep hkeep
  | sayHello =>
      simp only [step, Option.ite_none_right_eq_some, Option.some.injEq] at h
      exact h.2 ▸ sound_of_sayHello hi h.1.1
  | readHello =>
      simp only [step, Option.ite_none_right_eq_some] at h
      rcases receiveHello_cases hi h.1.1 h.2 with ⟨hc, rfl | ⟨_, rfl⟩⟩
      · exact sound_of_queued hi h.1.1 hc
      · exact sound_drop hi .server
  | start =>
      simp only [step, Option.ite_none_right_eq_some, Option.some.injEq] at h
      exact h.2 ▸ sound_of_written hi h.1.1 rfl
        (by simp only [ne_eq, reduceCtorEq, not_false_eq_true])
        (fun n hno => by simp only [reduceCtorEq] at hno)
  | startFails n =>
      simp only [step, Option.ite_none_right_eq_some, Option.some.injEq] at h
      exact h.2 ▸ sound_of_written hi h.1.1 rfl
        (by simp only [ne_eq, reduceCtorEq, not_false_eq_true]) (fun _ _ => rfl)
  | readCmd =>
      simp only [step, Option.ite_none_right_eq_some] at h
      rcases receiveCmd_cases hi h.1.1 h.2 with ⟨hw, rfl | ⟨_, rfl⟩⟩
      · exact sound_of_connecting hi hw h.1.1
      · exact sound_drop hi .client
  | connect =>
      simp only [step, Option.ite_none_right_eq_some, Option.some.injEq] at h
      exact h.2 ▸ sound_of_connect hi h.1.1
  | copy side d a =>
      simp only [step, Option.ite_none_right_eq_some] at h
      exact sound_of_copy hi h.1 h.2
  | fail side =>
      rw [step, Option.some.injEq] at h
      exact h ▸ sound_drop hi side

/-- In every run, whatever fails and whenever, what the service has got is a
    beginning of what the visitor sent, and the other way round. -/
theorem bytes_in_order [DecidableEq β] (S : Setting β) (t : TcpTunnel β)
    (h : Reaches (step S) (fun _ _ => True) initial t) :
    t.forth.got <+: t.forth.sent ∧ t.back.got <+: t.back.sent := by
  have hi : t.Sound S := h.invariant (fun _ _ _ hi _ hst => sound_of_step hi hst) sound_initial
  exact ⟨hi.forth.isPrefix, hi.back.isPrefix⟩

/-- A session of a TCP service that the server knows. -/
def overTcp : Setting UInt8 where
  alphabet := plainBytes
  sessionKey := sampleSessionKey
  known := fun key => key == sampleSessionKey
  serviceType := .tcp
  transport := .tcp

/-- What two ends do until they copy. -/
def shakeHands : List (Action UInt8) := [.sayHello, .readHello, .start, .readCmd, .connect]

/-- The server fails when it has copied one of two bytes. -/
def cutShort : List (Action UInt8) :=
  shakeHands ++ [.visitorSends [1, 2], .copy .server .forth (.read 2),
    .copy .server .forth (.write 1), .fail .server, .copy .client .forth (.read 1),
    .copy .client .forth (.write 1), .serviceReads 1]

theorem bytes_in_order_cutShort : ∃ t, exec (step overTcp) initial cutShort = some t ∧
    t.forth.got <+: t.forth.sent ∧ t.forth.got = [1] ∧ t.forth.sent = [1, 2] := by
  rcases hrun : exec (step overTcp) initial cutShort with _ | t
  · exact absurd hrun (by decide +kernel)
  · have hfacts : (exec (step overTcp) initial cutShort).map (fun t =>
        (t.forth.got, t.forth.sent)) = some ([1], [1, 2]) := by
      decide +kernel
    rw [hrun] at hfacts
    simp only [Option.map_some, Option.some.injEq, Prod.mk.injEq] at hfacts
    exact ⟨t, rfl, (bytes_in_order overTcp t (reaches_of_exec _ _ _ hrun)).1, hfacts⟩

/-! ### Where nothing fails -/

/-- The two ends fit together: the server knows the session key, the service
    is one of TCP at the client too, and the transport has a proper end. -/
structure Setting.Fits (S : Setting β) : Prop where
  known : S.known S.sessionKey = true
  serviceType : S.serviceType = .tcp
  transport : S.transport ≠ .websocket

/-- Neither end fails, nor does the write of the command. -/
def Unbroken (_ : TcpTunnel β) (a : Action β) : Prop :=
  (∀ side, a ≠ .fail side) ∧ ∀ n, a ≠ .startFails n

/-- What the program does, as opposed to the visitor and the service. -/
def Action.Internal : Action β → Prop
  | .sayHello | .readHello | .start | .readCmd | .connect | .copy _ _ _ => True
  | _ => False

/-- There is nothing left for the program to do. -/
def Settled [DecidableEq β] (S : Setting β) (t : TcpTunnel β) : Prop :=
  ∀ a, a.Internal → t.step S a = none

/-- Both ends are there, and the end is behind the bytes on both lanes. -/
structure Whole (S : Setting β) (t : TcpTunnel β) : Prop where
  sound : t.Sound S
  serverUp : t.serverUp = true
  clientUp : t.clientUp = true
  forth : t.forth.Ordered
  back : t.back.Ordered

theorem whole_initial : (initial : TcpTunnel β).Whole S where
  sound := sound_initial
  serverUp := rfl
  clientUp := rfl
  forth := Lane.ordered_fresh
  back := Lane.ordered_fresh

theorem whole_of_copy [DecidableEq β] {side : Side} {d : Direction} {a : CopyAction}
    (hS : S.transport ≠ .websocket) (hi : t.Whole S) (hsound : t'.Sound S)
    (h : t.copy S side d a = some t') : t'.Whole S := by
  have hws : ¬ (S.transport = .websocket ∧ a = .eof) := fun hws => hS hws.1
  cases side with
  | server =>
      cases d with
      | forth =>
          rcases Option.map_eq_some_iff.mp h with ⟨l, hl, rfl⟩
          exact ⟨hsound, hi.serverUp, hi.clientUp, Lane.ordered_first hi.forth hl, hi.back⟩
      | back =>
          simp only [copy, if_neg hws] at h
          rcases Option.map_eq_some_iff.mp h with ⟨l, hl, rfl⟩
          exact ⟨hsound, hi.serverUp, hi.clientUp, hi.forth, Lane.ordered_second hi.back hl⟩
  | client =>
      cases d with
      | back =>
          rcases Option.map_eq_some_iff.mp h with ⟨l, hl, rfl⟩
          exact ⟨hsound, hi.serverUp, hi.clientUp, hi.forth, Lane.ordered_first hi.back hl⟩
      | forth =>
          simp only [copy, if_neg hws] at h
          rcases Option.map_eq_some_iff.mp h with ⟨l, hl, rfl⟩
          exact ⟨hsound, hi.serverUp, hi.clientUp, Lane.ordered_second hi.forth hl, hi.back⟩

/-- One of the ends is gone after it was dropped. -/
theorem down_of_drop {P : Prop} (side : Side)
    (hup : (t.drop side).serverUp = true ∧ (t.drop side).clientUp = true) : P := by
  cases side with
  | server => exact absurd hup.1 Bool.false_ne_true
  | client => exact absurd hup.2 Bool.false_ne_true

/-- A step after which both ends are there keeps the end behind the bytes. -/
theorem whole_of_step [DecidableEq β] {a : Action β} (hS : S.transport ≠ .websocket)
    (hi : t.Whole S) (h : t.step S a = some t')
    (hup : t'.serverUp = true ∧ t'.clientUp = true) : t'.Whole S := by
  have hsound := sound_of_step hi.sound h
  cases a with
  | visitorSends bs =>
      rcases Option.map_eq_some_iff.mp h with ⟨l, hl, rfl⟩
      exact ⟨hsound, hi.serverUp, hi.clientUp, Lane.ordered_send hi.forth hl, hi.back⟩
  | visitorCloses =>
      rw [step, Option.some.injEq] at h
      subst h
      exact ⟨hsound, hi.serverUp, hi.clientUp, Lane.ordered_finish hi.forth, hi.back⟩
  | visitorReads n =>
      rcases Option.map_eq_some_iff.mp h with ⟨l, hl, rfl⟩
      exact ⟨hsound, hi.serverUp, hi.clientUp, hi.forth, Lane.ordered_receive hi.back hl⟩
  | serviceSends bs =>
      simp only [step, Option.ite_none_right_eq_some] at h
      rcases Option.map_eq_some_iff.mp h.2 with ⟨l, hl, rfl⟩
      exact ⟨hsound, hi.serverUp, hi.clientUp, hi.forth, Lane.ordered_send hi.back hl⟩
  | serviceCloses =>
      simp only [step, Option.ite_none_right_eq_some, Option.some.injEq] at h
      rcases h with ⟨_, rfl⟩
      exact ⟨hsound, hi.serverUp, hi.clientUp, hi.forth, Lane.ordered_finish hi.back⟩
  | serviceReads n =>
      rcases Option.map_eq_some_iff.mp h with ⟨l, hl, rfl⟩
      exact ⟨hsound, hi.serverUp, hi.clientUp, Lane.ordered_receive hi.forth hl, hi.back⟩
  | sayHello =>
      simp only [step, Option.ite_none_right_eq_some, Option.some.injEq] at h
      rcases h with ⟨⟨hc, _⟩, rfl⟩
      exact ⟨hsound, hi.serverUp, hi.clientUp, hi.forth,
        Lane.ordered_header hi.back (hi.sound.starting hc).2.2⟩
  | readHello =>
      simp only [step, Option.ite_none_right_eq_some] at h
      rcases receiveHello_cases hi.sound h.1.1 h.2 with ⟨_, rfl | ⟨_, rfl⟩⟩
      · exact ⟨hsound, hi.serverUp, hi.clientUp, hi.forth, Lane.ordered_rest hi.back _⟩
      · exact down_of_drop .server hup
  | start =>
      simp only [step, Option.ite_none_right_eq_some, Option.some.injEq] at h
      rcases h with ⟨⟨hs, _⟩, rfl⟩
      have hfirst := (hi.sound.queued hs).2.2
      exact ⟨hsound, hi.serverUp, hi.clientUp, Lane.ordered_header hi.forth hfirst, hi.back⟩
  | startFails n =>
      simp only [step, Option.ite_none_right_eq_some, Option.some.injEq] at h
      rcases h with ⟨_, rfl⟩
      exact absurd hup.1 Bool.false_ne_true
  | readCmd =>
      simp only [step, Option.ite_none_right_eq_some] at h
      rcases receiveCmd_cases hi.sound h.1.1 h.2 with ⟨_, rfl | ⟨_, rfl⟩⟩
      · exact ⟨hsound, hi.serverUp, hi.clientUp, Lane.ordered_rest hi.forth _, hi.back⟩
      · exact down_of_drop .client hup
  | connect =>
      simp only [step, Option.ite_none_right_eq_some, Option.some.injEq] at h
      rcases h with ⟨_, rfl⟩
      exact ⟨hsound, hi.serverUp, hi.clientUp, hi.forth, hi.back⟩
  | copy side d a =>
      simp only [step, Option.ite_none_right_eq_some] at h
      exact whole_of_copy hS hi hsound h.2
  | fail side =>
      rw [step, Option.some.injEq] at h
      subst h
      exact down_of_drop side hup

/-- Where nothing fails both ends stay. -/
theorem up_of_step [DecidableEq β] {a : Action β} (hS : S.Fits) (hi : t.Whole S)
    (hok : Unbroken t a) (h : t.step S a = some t') :
    t'.serverUp = true ∧ t'.clientUp = true := by
  have hup := And.intro hi.serverUp hi.clientUp
  cases a with
  | visitorSends bs | visitorReads n | serviceReads n =>
      rcases Option.map_eq_some_iff.mp h with ⟨l, _, rfl⟩
      exact hup
  | visitorCloses =>
      rw [step, Option.some.injEq] at h
      exact h ▸ hup
  | serviceSends bs =>
      simp only [step, Option.ite_none_right_eq_some] at h
      rcases Option.map_eq_some_iff.mp h.2 with ⟨l, _, rfl⟩
      exact hup
  | serviceCloses | sayHello | start | connect =>
      simp only [step, Option.ite_none_right_eq_some, Option.some.injEq] at h
      exact h.2 ▸ hup
  | readHello =>
      simp only [step, Option.ite_none_right_eq_some] at h
      rcases receiveHello_cases hi.sound h.1.1 h.2 with ⟨_, rfl | ⟨hno, _⟩⟩
      · exact hup
      · exact absurd (hno.symm.trans hS.known) Bool.false_ne_true
  | readCmd =>
      simp only [step, Option.ite_none_right_eq_some] at h
      rcases receiveCmd_cases hi.sound h.1.1 h.2 with ⟨_, rfl | ⟨hno, _⟩⟩
      · exact hup
      · exact absurd hS.serviceType hno
  | copy side d a =>
      have hws : ¬ (S.transport = .websocket ∧ a = .eof) := fun hws => hS.transport hws.1
      simp only [step, Option.ite_none_right_eq_some] at h
      have hcopy := h.2
      cases side with
      | server | client =>
          cases d with
          | forth | back =>
              simp only [copy, if_neg hws] at hcopy
              rcases Option.map_eq_some_iff.mp hcopy with ⟨l, _, rfl⟩
              exact hup
  | startFails n => exact absurd rfl (hok.2 n)
  | fail side => exact absurd rfl (hok.1 side)

/-- A server with nothing left to do copies. -/
theorem server_of_settled [DecidableEq β] (hS : S.Fits) (hi : t.Whole S) (h : t.Settled S) :
    t.server = .copying := by
  cases hs : t.server with
  | copying => rfl
  | broken n => exact absurd ((hi.sound.broken n hs).symm.trans hi.serverUp) Bool.false_ne_true
  | queued =>
      have hstart := h .start trivial
      simp only [step, hs, hi.serverUp, and_self, if_true, reduceCtorEq] at hstart
  | readingHello =>
      -- The client has said hello, or is about to.
      have hc : t.client ≠ .starting := by
        intro hc
        have hhello := h .sayHello trivial
        simp only [step, hc, hi.clientUp, and_self, if_true, reduceCtorEq] at hhello
      have hread := h .readHello trivial
      rw [step, if_pos ⟨hs, hi.serverUp⟩, receiveHello, readHello_of_sound hi.sound hs hc] at hread
      simp only [hS.known, if_true, reduceCtorEq] at hread

/-- Then a client with nothing left to do copies too. -/
theorem client_of_settled [DecidableEq β] (htype : S.serviceType = .tcp) (hi : t.Whole S)
    (hserver : t.server = .copying) (h : t.Settled S) : t.client = .copying := by
  cases hc : t.client with
  | copying => rfl
  | connecting =>
      have hconnect := h .connect trivial
      simp only [step, hc, hi.clientUp, and_self, if_true, reduceCtorEq] at hconnect
  | starting =>
      have hhello := h .sayHello trivial
      simp only [step, hc, hi.clientUp, and_self, if_true, reduceCtorEq] at hhello
  | readingCmd =>
      rcases hi.sound.forth with ⟨payload, hmiddle, _⟩
      rw [forthHeader, if_pos hc, hserver, ServerPc.written] at hmiddle
      have hread := h .readCmd trivial
      rw [step, if_pos ⟨hc, hi.clientUp⟩, receiveCmd, hmiddle, readDataCmd_cmd] at hread
      simp only [htype, if_true, reduceCtorEq] at hread

/-- A lane of a settled tunnel cannot go on. -/
theorem stuck_of_settled [DecidableEq β] (hS : S.transport ≠ .websocket)
    (hserver : t.Copying .server) (hclient : t.Copying .client) (h : t.Settled S)
    (a : CopyAction) : t.forth.copyFirst copyBufferSize a = none ∧
      t.forth.copySecond copyBufferSize a = none ∧ t.back.copyFirst copyBufferSize a = none ∧
      t.back.copySecond copyBufferSize a = none := by
  have hws : ¬ (S.transport = .websocket ∧ a = .eof) := fun hws => hS hws.1
  have hnone : ∀ side d, t.Copying side → t.copy S side d a = none := by
    intro side d hcopy
    have hstuck := h (.copy side d a) trivial
    rwa [step, if_pos hcopy] at hstuck
  have h1 := hnone .server .forth hserver
  have h2 := hnone .client .forth hclient
  have h3 := hnone .client .back hclient
  have h4 := hnone .server .back hserver
  simp only [copy, if_neg hws, Option.map_eq_none_iff] at h1 h2 h3 h4
  exact ⟨h1, h2, h3, h4⟩

/-- All bytes have arrived, and the end after them. -/
def Arrived (l : Lane β) : Prop :=
  l.sent = l.got ++ l.exit.bytes ∧ (l.entry.closed = true → l.exit.closed = true)

/-- With nothing left to do everything has arrived, once the server copies. -/
theorem arrived_of_settled [DecidableEq β] (hS : S.transport ≠ .websocket)
    (htype : S.serviceType = .tcp) (hi : t.Whole S) (hserver : t.server = .copying)
    (h : t.Settled S) : Arrived t.forth ∧ Arrived t.back := by
  have hcap : 0 < copyBufferSize := by decide
  have hclient := client_of_settled htype hi hserver h
  have hstuck := stuck_of_settled hS ⟨hserver, hi.serverUp⟩ ⟨hclient, hi.clientUp⟩ h
  exact ⟨Lane.whole_of_stuck hcap hi.forth hi.sound.forth (fun a => (hstuck a).1)
      (fun a => (hstuck a).2.1),
    Lane.whole_of_stuck hcap hi.back hi.sound.back (fun a => (hstuck a).2.2.1)
      (fun a => (hstuck a).2.2.2)⟩

/-- What one side gets of what the other sends. -/
structure Delivers [DecidableEq β] (S : Setting β) (t : TcpTunnel β) (l : Lane β) : Prop where
  /-- Whoever reads the end has been given everything, and the sender was
      done. -/
  closed : l.exit.closed = true → l.entry.closed = true ∧ l.sent = l.got ++ l.exit.bytes
  /-- Everything is there at last, the end too. -/
  settled : t.Settled S → l.sent = l.got ++ l.exit.bytes ∧
    (l.entry.closed = true → l.exit.closed = true)

/-- In every run in which nothing fails, over any transport but a websocket,
    the end comes after all bytes, and there is nothing left to do only when
    the handshake is over and everything has arrived; each direction is shut
    down by itself. -/
theorem whole_without_failure [DecidableEq β] (S : Setting β) (hS : S.Fits) (t : TcpTunnel β)
    (h : Reaches (step S) Unbroken initial t) : Delivers S t t.forth ∧ Delivers S t t.back ∧
      (t.Settled S → t.server = .copying ∧ t.client = .copying) := by
  have hkeep : ∀ x a y, Whole S x → Unbroken x a → step S x a = some y → Whole S y :=
    fun _ _ _ hi hok hst => whole_of_step hS.transport hi hst (up_of_step hS hi hok hst)
  have hi : t.Whole S := h.invariant hkeep whole_initial
  have hserver : t.Settled S → t.server = .copying := server_of_settled hS hi
  have harrived : t.Settled S → Arrived t.forth ∧ Arrived t.back := fun hset =>
    arrived_of_settled hS.transport hS.serviceType hi (hserver hset) hset
  exact ⟨⟨Lane.whole_of_closed hi.forth hi.sound.forth, fun hset => (harrived hset).1⟩,
    ⟨Lane.whole_of_closed hi.back hi.sound.back, fun hset => (harrived hset).2⟩,
    fun hset => ⟨hserver hset, client_of_settled hS.serviceType hi (hserver hset) hset⟩⟩

/-- A visitor sends two bytes and shuts its side down, and the service answers
    when it has read the end. -/
def answeredAfterEnd : List (Action UInt8) :=
  shakeHands ++ [.visitorSends [1, 2], .visitorCloses, .copy .server .forth (.read 2),
    .copy .server .forth .eof, .copy .server .forth (.write 2), .copy .server .forth .shutdown,
    .copy .client .forth (.read 2), .copy .client .forth (.write 1),
    .copy .client .forth (.write 1), .copy .client .forth .eof, .copy .client .forth .shutdown,
    .serviceReads 2, .serviceSends [3], .copy .client .back (.read 1),
    .copy .client .back (.write 1), .copy .server .back (.read 1), .copy .server .back (.write 1),
    .visitorReads 1]

theorem whole_without_failure_answered : ∃ t,
    exec (step overTcp) initial answeredAfterEnd = some t ∧ Delivers overTcp t t.forth ∧
    Delivers overTcp t t.back ∧ t.forth.exit.closed = true ∧
    t.forth.got = [1, 2] ∧ t.back.got = [3] := by
  rcases hrun : exec (step overTcp) initial answeredAfterEnd with _ | t
  · exact absurd hrun (by decide +kernel)
  · have hfacts : (exec (step overTcp) initial answeredAfterEnd).map (fun t =>
        (t.forth.exit.closed, t.forth.got, t.back.got)) = some (true, [1, 2], [3]) := by
      decide +kernel
    rw [hrun] at hfacts
    simp only [Option.map_some, Option.some.injEq, Prod.mk.injEq] at hfacts
    have hok : ∀ a ∈ answeredAfterEnd, ∀ x, Unbroken x a := by
      intro a ha x
      refine ⟨fun side hside => ?_, fun n hn => ?_⟩
      · rw [hside] at ha
        cases side with
        | server => exact absurd ha (by decide)
        | client => exact absurd ha (by decide)
      · rw [hn] at ha
        simp only [answeredAfterEnd, shakeHands, List.cons_append, List.nil_append, List.mem_cons,
          List.not_mem_nil, reduceCtorEq, or_self] at ha
    have hwhole := whole_without_failure overTcp
      ⟨by decide, rfl, by decide⟩ t (reaches_of_forall _ _ _ hok hrun)
    exact ⟨t, rfl, hwhole.1, hwhole.2.1, hfacts⟩

/-! ### Websockets -/

/-- No end of a websocket is ever passed on as one. -/
structure Severed (t : TcpTunnel β) : Prop where
  forth : t.forth.second.eof = false
  back : t.back.second.eof = false
  client : t.forth.exit.closed = true → t.clientUp = false
  server : t.back.exit.closed = true → t.serverUp = false

theorem severed_initial : (initial : TcpTunnel β).Severed where
  forth := rfl
  back := rfl
  client := fun h => by simp only [initial, Lane.fresh, Wire.fresh, Bool.false_eq_true] at h
  server := fun h => by simp only [initial, Lane.fresh, Wire.fresh, Bool.false_eq_true] at h

theorem severed_drop (hi : t.Severed) (side : Side) : (t.drop side).Severed := by
  cases side with
  | server =>
      refine ⟨hi.forth, ?_, hi.client, fun _ => rfl⟩
      by_cases hs : t.server = .copying
      · simp only [drop, if_pos hs]
        exact hi.back
      · simp only [drop, if_neg hs]
        exact hi.back
  | client =>
      refine ⟨?_, hi.back, fun _ => rfl, hi.server⟩
      by_cases hc : t.client = .copying
      · simp only [drop, if_pos hc]
        exact hi.forth
      · simp only [drop, if_neg hc]
        exact hi.forth

/-- A second copier that is not told of the end passes on none. -/
theorem copySecond_kept [DecidableEq β] {l l' : Lane β} {a : CopyAction}
    (h : l.copySecond copyBufferSize a = some l') (heof : l.second.eof = false) (ha : a ≠ .eof) :
    l'.second.eof = false ∧ l'.exit.closed = l.exit.closed := by
  rcases Option.map_eq_some_iff.mp h with ⟨x, hx, rfl⟩
  cases a with
  | read n =>
      simp only [Transfer.step, Option.ite_none_right_eq_some, Option.some.injEq] at hx
      rw [← hx.2]
      exact ⟨heof, rfl⟩
  | write n =>
      simp only [Transfer.step, Option.ite_none_right_eq_some, Option.some.injEq] at hx
      rw [← hx.2]
      exact ⟨heof, rfl⟩
  | eof => exact absurd rfl ha
  | shutdown =>
      simp only [Transfer.step, Lane.rear, heof, Bool.false_eq_true, false_and, if_false,
        reduceCtorEq] at hx

/-- The first copier does not reach the far end. -/
theorem copyFirst_kept [DecidableEq β] {l l' : Lane β} {a : CopyAction}
    (h : l.copyFirst copyBufferSize a = some l') : l'.second = l.second ∧ l'.exit = l.exit := by
  rcases Option.map_eq_some_iff.mp h with ⟨x, _, rfl⟩
  exact ⟨rfl, rfl⟩

theorem severed_of_copy [DecidableEq β] {side : Side} {d : Direction} {a : CopyAction}
    (hws : S.transport = .websocket) (hi : t.Severed) (h : t.copy S side d a = some t') :
    t'.Severed := by
  cases side with
  | server =>
      cases d with
      | forth =>
          rcases Option.map_eq_some_iff.mp h with ⟨l, hl, rfl⟩
          rcases copyFirst_kept hl with ⟨hsecond, hexit⟩
          exact ⟨hsecond ▸ hi.forth, hi.back, fun hc => hi.client (hexit ▸ hc), hi.server⟩
      | back =>
          unfold copy at h
          by_cases ha : a = .eof
          · simp only [hws, ha, and_self, if_true, Option.ite_none_right_eq_some,
              Option.some.injEq] at h
            exact h.2 ▸ severed_drop hi .server
          · simp only [ha, and_false, if_false] at h
            rcases Option.map_eq_some_iff.mp h with ⟨l, hl, rfl⟩
            rcases copySecond_kept hl hi.back ha with ⟨heof, hexit⟩
            exact ⟨hi.forth, heof, hi.client, fun hc => hi.server (hexit ▸ hc)⟩
  | client =>
      cases d with
      | back =>
          rcases Option.map_eq_some_iff.mp h with ⟨l, hl, rfl⟩
          rcases copyFirst_kept hl with ⟨hsecond, hexit⟩
          exact ⟨hi.forth, hsecond ▸ hi.back, hi.client, fun hc => hi.server (hexit ▸ hc)⟩
      | forth =>
          unfold copy at h
          by_cases ha : a = .eof
          · simp only [hws, ha, and_self, if_true, Option.ite_none_right_eq_some,
              Option.some.injEq] at h
            exact h.2 ▸ severed_drop hi .client
          · simp only [ha, and_false, if_false] at h
            rcases Option.map_eq_some_iff.mp h with ⟨l, hl, rfl⟩
            rcases copySecond_kept hl hi.forth ha with ⟨heof, hexit⟩
            exact ⟨heof, hi.back, fun hc => hi.client (hexit ▸ hc), hi.server⟩

theorem severed_of_step [DecidableEq β] {a : Action β} (hws : S.transport = .websocket)
    (hsound : t.Sound S) (hi : t.Severed) (h : t.step S a = some t') : t'.Severed := by
  cases a with
  | visitorSends bs =>
      rcases Option.map_eq_some_iff.mp h with ⟨l, hl, rfl⟩
      simp only [Lane.send, Option.ite_none_right_eq_some, Option.some.injEq] at hl
      rw [← hl.2]
      exact ⟨hi.forth, hi.back, hi.client, hi.server⟩
  | visitorCloses =>
      rw [step, Option.some.injEq] at h
      exact h ▸ ⟨hi.forth, hi.back, hi.client, hi.server⟩
  | visitorReads n =>
      rcases Option.map_eq_some_iff.mp h with ⟨l, hl, rfl⟩
      simp only [Lane.receive, Option.ite_none_right_eq_some, Option.some.injEq] at hl
      rw [← hl.2]
      exact ⟨hi.forth, hi.back, hi.client, hi.server⟩
  | serviceSends bs =>
      simp only [step, Option.ite_none_right_eq_some] at h
      rcases Option.map_eq_some_iff.mp h.2 with ⟨l, hl, rfl⟩
      simp only [Lane.send, Option.ite_none_right_eq_some, Option.some.injEq] at hl
      rw [← hl.2]
      exact ⟨hi.forth, hi.back, hi.client, hi.server⟩
  | serviceReads n =>
      rcases Option.map_eq_some_iff.mp h with ⟨l, hl, rfl⟩
      simp only [Lane.receive, Option.ite_none_right_eq_some, Option.some.injEq] at hl
      rw [← hl.2]
      exact ⟨hi.forth, hi.back, hi.client, hi.server⟩
  | readHello =>
      simp only [step, Option.ite_none_right_eq_some] at h
      rcases receiveHello_cases hsound h.1.1 h.2 with ⟨_, rfl | ⟨_, rfl⟩⟩
      · exact ⟨hi.forth, hi.back, hi.client, hi.server⟩
      · exact severed_drop hi .server
  | readCmd =>
      simp only [step, Option.ite_none_right_eq_some] at h
      rcases receiveCmd_cases hsound h.1.1 h.2 with ⟨_, rfl | ⟨_, rfl⟩⟩
      · exact ⟨hi.forth, hi.back, hi.client, hi.server⟩
      · exact severed_drop hi .client
  | copy side d a =>
      simp only [step, Option.ite_none_right_eq_some] at h
      exact severed_of_copy hws hi h.2
  | fail side =>
      rw [step, Option.some.injEq] at h
      exact h ▸ severed_drop hi side
  | serviceCloses | sayHello | start | connect =>
      simp only [step, Option.ite_none_right_eq_some, Option.some.injEq] at h
      exact h.2 ▸ ⟨hi.forth, hi.back, hi.client, hi.server⟩
  | startFails n =>
      simp only [step, Option.ite_none_right_eq_some, Option.some.injEq] at h
      exact h.2 ▸ ⟨hi.forth, hi.back, hi.client, fun _ => rfl⟩

/-- A lane is not written any more by an end that is gone. -/
structure Gone (t t' : TcpTunnel β) : Prop where
  client : t.clientUp = false → t'.clientUp = false ∧ t.back.Frozen t'.back
  server : t.serverUp = false → t'.serverUp = false ∧ t.forth.Frozen t'.forth

theorem Gone.trans {t'' : TcpTunnel β} (h : Gone t t') (h' : Gone t' t'') : Gone t t'' := by
  refine ⟨fun hc => ?_, fun hs => ?_⟩
  · rcases h.client hc with ⟨hc', hf⟩
    exact ⟨(h'.client hc').1, hf.trans (h'.client hc').2⟩
  · rcases h.server hs with ⟨hs', hf⟩
    exact ⟨(h'.server hs').1, hf.trans (h'.server hs').2⟩

/-- What leaves the first copiers and what goes in alone. -/
theorem gone_of_same (hforth : t.forth.Frozen t'.forth) (hback : t.back.Frozen t'.back)
    (hclient : t.clientUp = false → t'.clientUp = false)
    (hserver : t.serverUp = false → t'.serverUp = false) : Gone t t' :=
  ⟨fun hc => ⟨hclient hc, hback⟩, fun hs => ⟨hserver hs, hforth⟩⟩

theorem frozen_of_same {l l' : Lane β} (hfirst : l'.first = l.first)
    (hentry : l'.entry.bytes = l.entry.bytes) (hsent : l'.sent = l.sent) : l.Frozen l' where
  buf := by rw [hfirst]
  entry := ⟨[], by rw [hentry, List.append_nil], by rw [hsent, List.append_nil]⟩

theorem frozen_of_send {l l' : Lane β} {bs : List β} (h : l.send bs = some l') :
    l.Frozen l' := by
  simp only [Lane.send, Option.ite_none_right_eq_some, Option.some.injEq] at h
  rw [← h.2]
  exact ⟨rfl, bs, rfl, rfl⟩

theorem frozen_of_receive {l l' : Lane β} {n : Nat} (h : l.receive n = some l') :
    l.Frozen l' := by
  simp only [Lane.receive, Option.ite_none_right_eq_some, Option.some.injEq] at h
  rw [← h.2]
  exact frozen_of_same rfl rfl rfl

theorem gone_drop (t : TcpTunnel β) (side : Side) : Gone t (t.drop side) := by
  cases side with
  | server =>
      refine gone_of_same (frozen_of_same rfl rfl rfl) ?_ (fun h => h) (fun _ => rfl)
      by_cases hs : t.server = .copying
      · simp only [drop, if_pos hs]
        exact frozen_of_same rfl rfl rfl
      · simp only [drop, if_neg hs]
        exact Lane.Frozen.refl _
  | client =>
      refine gone_of_same ?_ (frozen_of_same rfl rfl rfl) (fun _ => rfl) (fun h => h)
      by_cases hc : t.client = .copying
      · simp only [drop, if_pos hc]
        exact frozen_of_same rfl rfl rfl
      · simp only [drop, if_neg hc]
        exact Lane.Frozen.refl _

theorem gone_of_copy [DecidableEq β] {side : Side} {d : Direction} {a : CopyAction}
    (hcopy : t.Copying side) (h : t.copy S side d a = some t') : Gone t t' := by
  have hsecond : ∀ {l l' : Lane β}, l.copySecond copyBufferSize a = some l' → l.Frozen l' := by
    intro l l' hl
    rcases Option.map_eq_some_iff.mp hl with ⟨x, _, rfl⟩
    exact frozen_of_same rfl rfl rfl
  cases side with
  | server =>
      cases d with
      | forth =>
          rcases Option.map_eq_some_iff.mp h with ⟨l, hl, rfl⟩
          exact ⟨fun hc => ⟨hc, Lane.Frozen.refl _⟩,
            fun hs => absurd (hs.symm.trans hcopy.2) Bool.false_ne_true⟩
      | back =>
          unfold copy at h
          by_cases hws : S.transport = .websocket ∧ a = .eof
          · simp only [if_pos hws, Option.ite_none_right_eq_some, Option.some.injEq] at h
            exact h.2 ▸ gone_drop t .server
          · simp only [if_neg hws] at h
            rcases Option.map_eq_some_iff.mp h with ⟨l, hl, rfl⟩
            exact gone_of_same (Lane.Frozen.refl _) (hsecond hl) (fun h => h) (fun h => h)
  | client =>
      cases d with
      | back =>
          rcases Option.map_eq_some_iff.mp h with ⟨l, hl, rfl⟩
          exact ⟨fun hc => absurd (hc.symm.trans hcopy.2) Bool.false_ne_true,
            fun hs => ⟨hs, Lane.Frozen.refl _⟩⟩
      | forth =>
          unfold copy at h
          by_cases hws : S.transport = .websocket ∧ a = .eof
          · simp only [if_pos hws, Option.ite_none_right_eq_some, Option.some.injEq] at h
            exact h.2 ▸ gone_drop t .client
          · simp only [if_neg hws] at h
            rcases Option.map_eq_some_iff.mp h with ⟨l, hl, rfl⟩
            exact gone_of_same (hsecond hl) (Lane.Frozen.refl _) (fun h => h) (fun h => h)

theorem gone_of_step [DecidableEq β] {a : Action β} (hsound : t.Sound S)
    (h : t.step S a = some t') : Gone t t' := by
  have hrefl : ∀ l : Lane β, l.Frozen l := Lane.Frozen.refl
  cases a with
  | visitorSends bs =>
      rcases Option.map_eq_some_iff.mp h with ⟨l, hl, rfl⟩
      exact gone_of_same (frozen_of_send hl) (hrefl _) (fun h => h) (fun h => h)
  | visitorCloses =>
      rw [step, Option.some.injEq] at h
      exact h ▸ gone_of_same (frozen_of_same rfl rfl rfl) (hrefl _) (fun h => h) (fun h => h)
  | visitorReads n =>
      rcases Option.map_eq_some_iff.mp h with ⟨l, hl, rfl⟩
      exact gone_of_same (hrefl _) (frozen_of_receive hl) (fun h => h) (fun h => h)
  | serviceSends bs =>
      simp only [step, Option.ite_none_right_eq_some] at h
      rcases Option.map_eq_some_iff.mp h.2 with ⟨l, hl, rfl⟩
      exact gone_of_same (hrefl _) (frozen_of_send hl) (fun h => h) (fun h => h)
  | serviceReads n =>
      rcases Option.map_eq_some_iff.mp h with ⟨l, hl, rfl⟩
      exact gone_of_same (frozen_of_receive hl) (hrefl _) (fun h => h) (fun h => h)
  | readHello =>
      simp only [step, Option.ite_none_right_eq_some] at h
      rcases receiveHello_cases hsound h.1.1 h.2 with ⟨_, rfl | ⟨_, rfl⟩⟩
      · exact gone_of_same (hrefl _) (frozen_of_same rfl rfl rfl) (fun h => h) (fun h => h)
      · exact gone_drop t .server
  | readCmd =>
      simp only [step, Option.ite_none_right_eq_some] at h
      rcases receiveCmd_cases hsound h.1.1 h.2 with ⟨_, rfl | ⟨_, rfl⟩⟩
      · exact gone_of_same (frozen_of_same rfl rfl rfl) (hrefl _) (fun h => h) (fun h => h)
      · exact gone_drop t .client
  | copy side d a =>
      simp only [step, Option.ite_none_right_eq_some] at h
      exact gone_of_copy h.1 h.2
  | fail side =>
      rw [step, Option.some.injEq] at h
      exact h ▸ gone_drop t side
  | serviceCloses | sayHello | start | connect =>
      simp only [step, Option.ite_none_right_eq_some, Option.some.injEq] at h
      exact h.2 ▸ gone_of_same (frozen_of_same rfl rfl rfl) (frozen_of_same rfl rfl rfl)
        (fun h => h) (fun h => h)
  | startFails n =>
      simp only [step, Option.ite_none_right_eq_some, Option.some.injEq] at h
      exact h.2 ▸ gone_of_same (frozen_of_same rfl rfl rfl) (hrefl _) (fun h => h) (fun _ => rfl)

/-- Over a websocket, once the service has read the end of what the visitor
    sends, the visitor gets nothing of the answer but what the client has
    copied by then, and the other way round. -/
theorem websocket_reply_cut [DecidableEq β] (S : Setting β) (hws : S.transport = .websocket)
    (t t' : TcpTunnel β) (h : Reaches (step S) (fun _ _ => True) initial t)
    (h' : Reaches (step S) (fun _ _ => True) t t') :
    (t.forth.exit.closed = true → t'.back.got <+: t.back.copied) ∧
      (t.back.exit.closed = true → t'.forth.got <+: t.forth.copied) := by
  have hstep : ∀ x a y, Sound S x ∧ Severed x → True → step S x a = some y →
      Sound S y ∧ Severed y := fun _ _ _ hi _ hst =>
    ⟨sound_of_step hi.1 hst, severed_of_step hws hi.1 hi.2 hst⟩
  have hi := h.invariant hstep ⟨sound_initial, severed_initial⟩
  -- From there on, whoever is gone stays so.
  have hlater : ∀ x a y, Sound S x ∧ Gone t x → True → step S x a = some y →
      Sound S y ∧ Gone t y := fun _ _ _ hx _ hst =>
    ⟨sound_of_step hx.1 hst, hx.2.trans (gone_of_step hx.1 hst)⟩
  have hi' := h'.invariant hlater ⟨hi.1, gone_of_same (Lane.Frozen.refl _) (Lane.Frozen.refl _)
    (fun h => h) (fun h => h)⟩
  refine ⟨fun hexit => ?_, fun hexit => ?_⟩
  · exact Lane.prefix_of_frozen (hi'.2.client (hi.2.client hexit)).2 hi'.1.back
  · exact Lane.prefix_of_frozen (hi'.2.server (hi.2.server hexit)).2 hi'.1.forth

/-- The same data channel over a websocket. -/
def overWebsocket : Setting UInt8 := { overTcp with transport := .websocket }

/-- A visitor sends two bytes and shuts its side down, and the client comes to
    the end of them. -/
def endRead : List (Action UInt8) :=
  shakeHands ++ [.visitorSends [1, 2], .visitorCloses, .copy .server .forth (.read 2),
    .copy .server .forth .eof, .copy .server .forth (.write 2), .copy .server .forth .shutdown,
    .copy .client .forth (.read 2), .copy .client .forth (.write 2), .copy .client .forth .eof]

/-- The service answers, but there is nobody left to copy. -/
theorem websocket_reply_cut_endRead : ∃ t t',
    exec (step overWebsocket) initial endRead = some t ∧
      exec (step overWebsocket) t [.serviceReads 2, .serviceSends [3]] = some t' ∧
      t'.back.sent = [3] ∧ t'.back.got <+: t.back.copied ∧ t.back.copied = [] := by
  rcases ht : exec (step overWebsocket) initial endRead with _ | t
  · exact absurd ht (by decide +kernel)
  · have hbefore : (exec (step overWebsocket) initial endRead).map (fun t =>
        (t.forth.exit.closed, t.back.copied)) = some (true, []) := by decide +kernel
    have hafter : (exec (step overWebsocket) initial
        (endRead ++ [.serviceReads 2, .serviceSends [3]])).map (fun t => t.back.sent) =
        some [3] := by decide +kernel
    rw [ht] at hbefore
    rw [exec_append, ht, Option.bind_some] at hafter
    simp only [Option.map_some, Option.some.injEq, Prod.mk.injEq] at hbefore
    rcases ht' : exec (step overWebsocket) t [.serviceReads 2, .serviceSends [3]] with _ | t'
    · simp only [ht', Option.map_none, reduceCtorEq] at hafter
    · simp only [ht', Option.map_some, Option.some.injEq] at hafter
      have hcut := websocket_reply_cut overWebsocket rfl t t' (reaches_of_exec _ _ _ ht)
        (reaches_of_exec _ _ _ ht')
      exact ⟨t, t', rfl, ht', hafter, hcut.1 hbefore.1, hbefore.2⟩

end TcpTunnel

end Rathole
