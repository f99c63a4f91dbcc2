import Rathole.Server.State

/-!
# The Server's Tasks

Each action of the server as a partial function on its state, in the order of
the source: the main loop, `handle_connection` with its two handshakes, the
tasks behind a handle. An action is possible when its task stands at the await
the action completes, and, where that await is for a guard, when the guard has
been granted.

## Main definitions

* `Server.readHello`, `Server.readAuth`: What a connection reads.
* `Server.established`: The end of a control channel's handshake.
* `Server.step`: One action of one task.
-/

namespace Rathole

open FairLock

namespace Server

variable {β : Type} [DecidableEq β] (E : Env β)

/-! ### Guards -/

/-- A task asks for a guard of `services`. -/
def requestServices (s : Server β) (t : Task) (m : Mode) : Server β :=
  { s with servicesLock := s.servicesLock.request t m }

/-- A task gives its guard of `services` back. -/
def releaseServices (s : Server β) (t : Task) (m : Mode) : Server β :=
  { s with servicesLock := s.servicesLock.release t m }

/-- A task asks for a guard of `control_channels`. -/
def requestChannels (s : Server β) (t : Task) (m : Mode) : Server β :=
  { s with channelsLock := s.channelsLock.request t m }

/-- A task gives its guard of `control_channels` back. -/
def releaseChannels (s : Server β) (t : Task) (m : Mode) : Server β :=
  { s with channelsLock := s.channelsLock.release t m }

/-! ### Connections -/

/-- What a connection writes at its present await. -/
def Phase.output : Phase β → List β
  | .sendingHello _ nonce =>
      (Hello.controlChannelHello currentProtoVersion nonce).serialize E.alphabet
  | .refusing => serializeTag E.alphabet Ack.tag .serviceNotExist
  | .rejecting => serializeTag E.alphabet Ack.tag .authFailed
  | .sendingAck _ _ _ => serializeTag E.alphabet Ack.tag .ok
  | .starting _ cmd => serializeTag E.alphabet DataChannelCmd.tag cmd
  | _ => []

/-- The connection gets to another await. -/
def move (s : Server β) (i : Nat) (c : Conn β) (phase : Phase β) : Server β :=
  s.setConn i { c with phase := phase }

/-- A connection is accepted. -/
def accept (s : Server β) : Option (Server β) :=
  match s.main with
  | .serving => some { s with
      conns := s.conns ++ [{ phase := .readingHello, inbox := [], sent := [] }] }
  | _ => none

/-- Bytes arrive. -/
def arrive (s : Server β) (i : Nat) (chunk : List β) : Option (Server β) :=
  match s.conns[i]? with
  | none => none
  | some c => some (s.setConn i { c with inbox := c.inbox ++ chunk })

/-- `read_hello` in `handle_connection`, and what the two handshakes start
    with: a nonce is drawn, or a read guard of `control_channels` is asked
    for. -/
def readHello (s : Server β) (i : Nat) (c : Conn β) : Option (Server β) :=
  match Rathole.readHello E.alphabet c.inbox with
  | none => none
  -- The task returns its error, and the stream is dropped.
  | some (.error _, rest) => some (s.move i { c with inbox := rest } .closed)
  | some (.ok (.controlChannelHello _ d), rest) =>
      some (s.move i { c with inbox := rest } (.sendingHello d (E.nonce i)))
  | some (.ok (.dataChannelHello _ nonce), rest) =>
      some ((s.move i { c with inbox := rest } (.finding nonce)).requestChannels (.conn i) .read)

/-- `read_auth`, and the comparison with the digest of token and nonce. -/
def readAuth (s : Server β) (i : Nat) (c : Conn β) (d : Digest β) (concat : List β)
    (cfg : ServerServiceConfig (List β)) : Option (Server β) :=
  match Rathole.readAuth E.alphabet c.inbox with
  | none => none
  | some (.error _, rest) => some (s.move i { c with inbox := rest } .closed)
  | some (.ok auth, rest) =>
      -- What the peer should have sent is the session key from here on.
      if E.alphabet.digest concat = auth.digest then
        some ((s.move i { c with inbox := rest }
          (.locking d (E.alphabet.digest concat) cfg)).requestChannels (.conn i) .write)
      else some (s.move i { c with inbox := rest } .rejecting)

/-- A connection reads the message it waits for. -/
def read (s : Server β) (i : Nat) : Option (Server β) :=
  match s.conns[i]? with
  | none => none
  | some c => match c.phase with
    | .readingHello => s.readHello E i c
    | .readingAuth d concat cfg => s.readAuth E i c d concat cfg
    | _ => none

/-- The service is looked up under a read guard. The guard stays for the
    refusal of an unknown service. There has to be a token to unwrap. -/
def lookup (s : Server β) (i : Nat) : Option (Server β) :=
  match s.conns[i]? with
  | none => none
  | some c => match c.phase with
    | .lookingUp d nonce =>
        if s.servicesLock.Holds (.conn i) .read then
          match s.services.lookup d with
          -- The guard is a temporary of the `match` and outlives the write of the refusal.
          | none => some (s.move i c .refusing)
          | some cfg => match cfg.token with
            | none => some { s with aborted := true }
            | some token =>
                -- With `to_owned` the statement ends, and the guard goes.
                some ((s.move i c (.readingAuth d (token ++ nonce.toList) cfg)).releaseServices
                  (.conn i) .read)
        else none
    | _ => none

/-- The handshake of a control channel after its digest was accepted, once it
    has the write guard: the old control channel is dropped. -/
def lock (s : Server β) (i : Nat) : Option (Server β) :=
  match s.conns[i]? with
  | none => none
  | some c => match c.phase with
    | .locking d key cfg =>
        if s.channelsLock.Holds (.conn i) .write then
          -- The guard `h` stays in scope, so the ack is written under it.
          let t : Server β := { s with channels := (s.channels.remove1 d).2 }
          some (t.move i c (.sendingAck d key cfg))
        else none
    | _ => none

/-- `ControlChannelHandle::new` and the insertion of the handle; an insertion
    that fails drops the handle. There is no pool for HTTP services yet. -/
def established (s : Server β) (i : Nat) (c : Conn β) (d key : Digest β)
    (cfg : ServerServiceConfig (List β)) : Server β :=
  match cfg.serviceType with
  -- `todo!()` in `ControlChannelHandle::new`; a panic aborts the process.
  | .http => { s with aborted := true }
  | _ =>
      let h := s.handles.length
      let channels := match s.channels.insert d key h with
        | .ok channels => channels
        -- `insert` hands the handle back, and `let _ =` drops it.
        | .error _ => s.channels
      let t : Server β := { s with
        channels := channels
        handles := s.handles ++ [{ owner := d, service := cfg, queue := [], pooling := true }] }
      (t.move i c (.control h)).releaseChannels (.conn i) .write

/-- Where a connection gets to when its write of `out` is complete. -/
def written (s : Server β) (i : Nat) (c : Conn β) (out : List β) : Option (Server β) :=
  let c' := { c with sent := c.sent ++ out }
  match c.phase with
  | .sendingHello d nonce =>
      some ((s.move i c' (.lookingUp d nonce)).requestServices (.conn i) .read)
  | .refusing => some ((s.move i c' .closed).releaseServices (.conn i) .read)
  | .rejecting => some (s.move i c' .closed)
  | .sendingAck d key cfg => some ((s.setConn i c').established i c' d key cfg)
  | .starting h _ => some (s.move i c' (.forwarding h))
  | _ => none

/-- A connection writes what is due, all of it. -/
def write (s : Server β) (i : Nat) : Option (Server β) :=
  match s.conns[i]? with
  | none => none
  | some c => s.written i c (c.phase.output E)

/-- The end of a connection that failed, or that the peer closed, with a part
    of its present write on its way. The guards of the task go with it. -/
def broken (s : Server β) (i : Nat) (c : Conn β) (out : List β) : Option (Server β) :=
  let t := s.move i { c with sent := c.sent ++ out } .closed
  match c.phase with
  -- A task that waits for a guard does not look at its connection.
  | .readingHello | .sendingHello _ _ | .readingAuth _ _ _ | .rejecting | .control _
  | .starting _ _ | .forwarding _ => some t
  | .refusing => some (t.releaseServices (.conn i) .read)
  | .sendingAck _ _ _ => some (t.releaseChannels (.conn i) .write)
  | _ => none

/-- A connection breaks; `n` bytes of what is due got through. -/
def fail (s : Server β) (i n : Nat) : Option (Server β) :=
  match s.conns[i]? with
  | none => none
  | some c => s.broken i c ((c.phase.output E).take n)

/-- The handshake of a data channel, once it has the read guard: the session
    key is looked up. -/
def find (s : Server β) (i : Nat) : Option (Server β) :=
  match s.conns[i]? with
  | none => none
  | some c => match c.phase with
    | .finding nonce =>
        if s.channelsLock.Holds (.conn i) .read then
          match s.channels.get2 nonce with
          -- A warning, and no answer to the peer.
          | none => some ((s.move i c .closed).releaseChannels (.conn i) .read)
          | some h => some (s.move i c (.delivering h))
        else none
    | _ => none

/-- `data_ch_tx.send(conn)`, which waits while the queue is full. -/
def deliver (s : Server β) (i : Nat) : Option (Server β) :=
  match s.conns[i]? with
  | none => none
  | some c => match c.phase with
    | .delivering h => match s.handles[h]? with
      | none => none
      | some x =>
          if x.pooling then
            -- Under the read guard, so a full queue keeps writers of the map out.
            if x.queue.length < chanSize * 2 then
              some (((s.setHandle h { x with queue := x.queue ++ [i] }).move i c
                (.queued h)).releaseChannels (.conn i) .read)
            else none
          -- The receiver went with the pool: a stale control channel.
          else some ((s.move i c .closed).releaseChannels (.conn i) .read)
    | _ => none

/-! ### Behind a handle -/

/-- `ControlChannel::run` writes a command. -/
def command (s : Server β) (i : Nat) (cmd : ControlChannelCmd) : Option (Server β) :=
  match s.conns[i]? with
  | none => none
  | some c => match c.phase with
    | .control _ => some (s.setConn i { c with
        sent := c.sent ++ serializeTag E.alphabet ControlChannelCmd.tag cmd })
    | _ => none

/-- `ControlChannel::run` ends: the handle was dropped, or nobody is left to
    ask for data channels. -/
def stop (s : Server β) (i : Nat) : Option (Server β) :=
  match s.conns[i]? with
  | none => none
  | some c => match c.phase with
    | .control h => match s.handles[h]? with
      | none => none
      -- The handle in the map keeps `_shutdown_tx` alive, the pool `data_ch_req_tx`.
      | some x => if s.Installed h ∧ x.pooling then none else some (s.move i c .closed)
    | _ => none

/-- The command a pool writes to its data channels. -/
def startCmd : ServiceType → DataChannelCmd
  | .udp => .startForwardUdp
  | _ => .startForwardTcp

/-- The pool takes a data channel from the queue. -/
def take (s : Server β) (h : Nat) : Option (Server β) :=
  match s.handles[h]? with
  | none => none
  | some x => match x.queue with
    | [] => none
    | i :: queue => match s.conns[i]? with
      | none => none
      | some c => some ((s.setHandle h { x with queue := queue }).move i c
          (.starting h (startCmd x.service.serviceType)))

/-- What a visitor sends is written to its data channel. -/
def relay (s : Server β) (i : Nat) (chunk : List β) : Option (Server β) :=
  match s.conns[i]? with
  | none => none
  | some c => match c.phase with
    | .forwarding _ => some (s.setConn i { c with sent := c.sent ++ chunk })
    | _ => none

/-- The pool ends, and the data channels in its queue are dropped. -/
def poolEnd (s : Server β) (h : Nat) : Option (Server β) :=
  match s.handles[h]? with
  | none => none
  | some x => some (s.setHandle h { x with queue := [], pooling := false })

/-! ### The main loop -/

/-- A change of the configuration comes in. -/
def reload (s : Server β) (e : ServerServiceChange β) : Option (Server β) :=
  match s.main with
  | .serving =>
      let t : Server β := { s with main := .changing e }
      some (t.requestServices .main .write)
  | _ => none

/-- `services` is changed. The guard of an addition stays, that of a deletion
    was a temporary. -/
def reloadServices (s : Server β) : Option (Server β) :=
  match s.main with
  | .changing e =>
      if s.servicesLock.Holds .main .write then
        match e with
        -- The first `wg` is shadowed by the second, and dropped after it.
        | .add cfg =>
            let d := E.alphabet.digest cfg.name
            let t : Server β := { s with
              services := s.services.insert d cfg
              main := .dropping d true }
            some (t.requestChannels .main .write)
        | .delete name =>
            let d := E.alphabet.digest name
            let t : Server β := { s with
              services := s.services.erase d
              main := .dropping d false }
            some ((t.releaseServices .main .write).requestChannels .main .write)
      else none
  | _ => none

/-- The control channel of the changed service is dropped. -/
def reloadChannels (s : Server β) : Option (Server β) :=
  match s.main with
  | .dropping d held =>
      if s.channelsLock.Holds .main .write then
        let t : Server β := { s with
          channels := (s.channels.remove1 d).2
          main := .serving }
        let u := t.releaseChannels .main .write
        -- Both guards go when the function returns.
        some (if held then u.releaseServices .main .write else u)
      else none
  | _ => none

/-- The shutdown signal. -/
def shutdown (s : Server β) : Option (Server β) :=
  match s.main with
  | .serving =>
      let t : Server β := { s with main := .closing }
      some (t.requestChannels .main .write)
  | _ => none

/-- All control channels are dropped. -/
def clear (s : Server β) : Option (Server β) :=
  match s.main with
  | .closing =>
      if s.channelsLock.Holds .main .write then
        let t : Server β := { s with channels := MultiMap.new, main := .stopped }
        some (t.releaseChannels .main .write)
      else none
  | _ => none

/-- One action of one task. -/
def step (s : Server β) (a : Action β) : Option (Server β) :=
  if s.aborted then none
  else match a with
    | .accept => s.accept
    | .arrive i chunk => s.arrive i chunk
    | .read i => s.read E i
    | .write i => s.write E i
    | .fail i n => s.fail E i n
    | .lookup i => s.lookup i
    | .lock i => s.lock i
    | .find i => s.find i
    | .deliver i => s.deliver i
    | .command i cmd => s.command E i cmd
    | .stop i => s.stop i
    | .take h => s.take h
    | .relay i chunk => s.relay i chunk
    | .poolEnd h => s.poolEnd h
    | .reload e => s.reload e
    | .reloadServices => s.reloadServices E
    | .reloadChannels => s.reloadChannels
    | .shutdown => s.shutdown
    | .clear => s.clear

end Server

end Rathole
