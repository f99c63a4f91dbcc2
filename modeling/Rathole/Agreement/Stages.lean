import Rathole.Agreement.Session
import Rathole.Lib.Numbered

/-!
# The Stages of a Handshake

What each side is for. The server goes from stage to stage, and at each stage
its whole state is known: what it has consumed of the client's stream, what it
has written, which guards it has, and what is in the maps. So is the client's.
The stages are the abstract machine, `serverAt` and `clientAt` say which
concrete states they stand for, and the lemmas here say that completing an
await goes from a stage to a later one, given that what is read is the
beginning of what the other side writes.

## Main definitions

* `Setting`: Everything that is fixed in a handshake.
* `ServerStage`, `Setting.serverAt`: The server's stages and their states.
* `ClientStage`, `Setting.clientAt`: The client's.

## Theorems

* `serve_readingHello` to `serve_sendingAck`: What the server's awaits do.
* `advance_readingHello` to `advance_readingAck`: What the client's do.
* `arrive_serverAt`, `command_control`: Bytes that arrive, and commands.
-/

namespace Rathole

open ByteStream FairLock Server Client


/-- What is fixed in a handshake: nonces and alphabet, the client's service and
    token, the server's services, the connections, control channels and
    handles there were before, and the commands that follow. -/
structure Setting (β : Type) where
  env : Server.Env β
  service : ClientServiceConfig (List β)
  token : List β
  services : HashMap (Digest β) (ServerServiceConfig (List β))
  conns : List (Conn β)
  channels : MultiMap (Digest β) (Digest β) Nat
  handles : List (Handle β)
  commands : List ControlChannelCmd

/-- The server's stages. `refused` and `rejected` are the ends of a handshake
    that fails; `control` counts the commands that were written. -/
inductive ServerStage (β : Type)
  | readingHello
  | sendingHello
  | lookingUp
  | refusing
  | refused
  | readingAuth (cfg : ServerServiceConfig (List β)) (token : List β)
  | rejecting
  | rejected
  | locking (cfg : ServerServiceConfig (List β))
  | sendingAck (cfg : ServerServiceConfig (List β))
  | control (cfg : ServerServiceConfig (List β)) (n : Nat)

/-- The client's stages. -/
inductive ClientStage
  | resolving
  | connecting
  | sendingHello
  | readingHello
  | sendingAuth
  | readingAck
  | ended
deriving DecidableEq, Repr

namespace Setting

variable {β : Type} (P : Setting β)

/-- The number of the connection. -/
def conn : Nat := P.conns.length

/-- How messages are put into bytes. -/
def A : Alphabet β := P.env.alphabet

/-- The nonce of the connection. -/
def nonce : Digest β := P.env.nonce P.conn

/-- The digest of the service's name. -/
def digest : Digest β := P.A.digest P.service.name

/-- The session key the client computes. -/
def key : Digest β := sessionKey P.A P.token P.nonce

/-- The client's hello and auth, the server's hello, and an ack. -/
def clientHello : List β := (Client.clientHello P.A P.service).serialize P.A

/-- The `Auth` of the client. -/
def auth : List β := (Auth.mk P.key).serialize

/-- The hello of the server. -/
def serverHello : List β := (Hello.controlChannelHello currentProtoVersion P.nonce).serialize P.A

/-- An `Ack` of the server. -/
def ack (a : Ack) : List β := serializeTag P.A Ack.tag a

/-- The first `n` commands on the wire. -/
def commandBytes (n : Nat) : List β :=
  (ControlChannelCmd.codec P.A).encodeAll (P.commands.take n)

theorem set_conns (P : Setting β) (a b : Conn β) :
    (P.conns ++ [a]).set P.conn b = P.conns ++ [b] :=
  Numbered.set_concat_length _ _ _

/-- What an ack makes of a client. -/
def acked (service : ClientServiceConfig (List β)) (key : Digest β) (h : Handshake β) :
    Ack → HandshakeStep β
  | .ok => .established key h
  | a => .failed (.authenticationFailed service.name a) h

/-- The end of a handshake, whichever ack is read. -/
theorem advance_of_readAck {A : Alphabet β} {service : ClientServiceConfig (List β)}
    {h : Handshake β} {key : Digest β} {a : Ack} {rest : List β} (hpc : h.pc = .readingAck key)
    (hread : readAck A h.inbox = some (.ok a, rest)) :
    h.advance A service = some (acked service key { h with inbox := rest } a) := by
  unfold Handshake.advance
  rw [hpc]
  simp only [hread]
  -- An `Ok` establishes the session, any other ack is its error.
  cases a <;> rfl

variable [DecidableEq β]

/-- How the handshake has to end. -/
def verdict : Ack :=
  match P.services.lookup P.digest with
  | none => .serviceNotExist
  | some cfg => if cfg.token = some P.token then .ok else .authFailed

/-- What a handshake relies on: the services have tokens and a pool, and the
    digest keeps the tokens of the service apart. -/
structure Ready : Prop where
  service_token : P.service.token = some P.token
  token : ∀ cfg, P.services.lookup P.digest = some cfg → cfg.token.isSome = true
  serviceType : ∀ cfg, P.services.lookup P.digest = some cfg → cfg.serviceType ≠ .http
  digest_ne : ∀ cfg token, P.services.lookup P.digest = some cfg → cfg.token = some token →
    token ≠ P.token → P.A.digest (token ++ P.nonce.toList) ≠ P.key

/-! ### The server -/

/-- The await of the connection at a stage. -/
def phaseAt : ServerStage β → Phase β
  | .readingHello => .readingHello
  | .sendingHello => .sendingHello P.digest P.nonce
  | .lookingUp => .lookingUp P.digest P.nonce
  | .refusing => .refusing
  | .readingAuth cfg token => .readingAuth P.digest (token ++ P.nonce.toList) cfg
  | .rejecting => .rejecting
  | .locking cfg => .locking P.digest P.key cfg
  | .sendingAck cfg => .sendingAck P.digest P.key cfg
  | .control _ _ => .control P.handles.length
  | .refused | .rejected => .closed

/-- What the server has consumed. -/
def readAt : ServerStage β → List β
  | .readingHello => []
  | .sendingHello | .lookingUp | .refusing | .refused | .readingAuth _ _ => P.clientHello
  | .rejecting | .rejected | .locking _ | .sendingAck _ | .control _ _ => P.clientHello ++ P.auth

/-- What the server has written. -/
def sentAt : ServerStage β → List β
  | .readingHello | .sendingHello => []
  | .lookingUp | .refusing | .readingAuth _ _ | .rejecting | .locking _ | .sendingAck _ =>
      P.serverHello
  | .refused => P.serverHello ++ P.ack .serviceNotExist
  | .rejected => P.serverHello ++ P.ack .authFailed
  | .control _ n => P.serverHello ++ P.ack .ok ++ P.commandBytes n

/-- The lock of `services` at a stage. -/
def servicesLockAt : ServerStage β → RwLock Server.Task
  | .lookingUp | .refusing => { holders := [(.conn P.conn, .read)], waiting := [] }
  | _ => RwLock.free

/-- The lock of `control_channels` at a stage. -/
def channelsLockAt : ServerStage β → RwLock Server.Task
  | .locking _ | .sendingAck _ => { holders := [(.conn P.conn, .write)], waiting := [] }
  | _ => RwLock.free

/-- The control channels after the handshake: the old one of the service is
    gone, and the new one is put in if its session key is free. -/
def channelsAfter : MultiMap (Digest β) (Digest β) Nat :=
  match (P.channels.remove1 P.digest).2.insert P.digest P.key P.handles.length with
  | .ok channels => channels
  | .error _ => (P.channels.remove1 P.digest).2

/-- The control channels at a stage. -/
def channelsAt : ServerStage β → MultiMap (Digest β) (Digest β) Nat
  | .sendingAck _ => (P.channels.remove1 P.digest).2
  | .control _ _ => P.channelsAfter
  | _ => P.channels

/-- The handles at a stage. -/
def handlesAt : ServerStage β → List (Handle β)
  | .control cfg _ => P.handles ++
      [{ owner := P.digest, service := cfg, queue := [], pooling := true }]
  | _ => P.handles

/-- The server at a stage, with bytes that have arrived and are not yet
    read. -/
def serverAt (g : ServerStage β) (inbox : List β) : Server β where
  services := P.services
  channels := P.channelsAt g
  servicesLock := P.servicesLockAt g
  channelsLock := P.channelsLockAt g
  conns := P.conns ++ [{ phase := P.phaseAt g, inbox := inbox, sent := P.sentAt g }]
  handles := P.handlesAt g
  main := .serving
  aborted := false

/-- Which stages belong to which configuration. -/
def Valid : ServerStage β → Prop
  | .refusing | .refused => P.services.lookup P.digest = none
  | .readingAuth cfg token => P.services.lookup P.digest = some cfg ∧ cfg.token = some token
  | .rejecting | .rejected => ∃ cfg token, P.services.lookup P.digest = some cfg ∧
      cfg.token = some token ∧ token ≠ P.token
  | .locking cfg | .sendingAck cfg | .control cfg _ =>
      P.services.lookup P.digest = some cfg ∧ cfg.token = some P.token
  | _ => True

/-! ### The client -/

/-- The await of the client at a stage. -/
def pcAt : ClientStage → HandshakePc β
  | .resolving => .resolving
  | .connecting => .connecting
  | .sendingHello => .sendingHello
  | .readingHello => .readingHello
  | .sendingAuth => .sendingAuth P.nonce
  | .readingAck | .ended => .readingAck P.key

/-- What the client has consumed. -/
def clientReadAt : ClientStage → List β
  | .resolving | .connecting | .sendingHello | .readingHello => []
  | .sendingAuth | .readingAck => P.serverHello
  | .ended => P.serverHello ++ P.ack P.verdict

/-- What the client has written. -/
def clientSentAt : ClientStage → List β
  | .resolving | .connecting | .sendingHello => []
  | .readingHello | .sendingAuth => P.clientHello
  | .readingAck | .ended => P.clientHello ++ P.auth

/-- The handshake of the client at a stage. -/
def handshakeAt (k : ClientStage) (inbox : List β) : Handshake β where
  pc := P.pcAt k
  inbox := inbox
  sent := P.clientSentAt k

/-- The client at a stage: past the ack, or failed with the error of the
    ack. -/
def clientAt (k : ClientStage) (inbox : List β) : HandshakeStep β :=
  match k with
  | .ended => acked P.service P.key (P.handshakeAt k inbox) P.verdict
  | k => .going (P.handshakeAt k inbox)

/-! ### The server's next await -/

section Server

variable {P} {g : ServerStage β} {inbox rest : List β}

theorem conns_serverAt (P : Setting β) (g : ServerStage β) (inbox : List β) :
    (P.serverAt g inbox).conns[P.conn]? =
      some { phase := P.phaseAt g, inbox := inbox, sent := P.sentAt g } :=
  List.getElem?_concat_length

theorem setConn_serverAt (P : Setting β) (g : ServerStage β) (inbox : List β) (c : Conn β) :
    (P.serverAt g inbox).setConn P.conn c =
      { P.serverAt g inbox with conns := P.conns ++ [c] } := by
  have hconns : (P.serverAt g inbox).conns.set P.conn c = P.conns ++ [c] := P.set_conns _ _
  -- The connection is the last one.
  rw [Server.setConn, hconns]

theorem running_serverAt (P : Setting β) (g : ServerStage β) (inbox : List β) :
    (P.serverAt g inbox).aborted = false := rfl

theorem serve_readingHello (P : Setting β) (rest : List β) :
    (P.serverAt .readingHello (P.clientHello ++ rest)).step P.env (.read P.conn) =
      some (P.serverAt .sendingHello rest) := by
  have hread : Rathole.readHello P.env.alphabet (P.clientHello ++ rest) =
      some (.ok (Client.clientHello P.A P.service), rest) :=
    readHello_serialize P.A rfl rest
  -- The hello decodes, and a nonce is drawn.
  simp only [Server.step, running_serverAt, Bool.false_eq_true, if_false, Server.read,
    conns_serverAt, phaseAt, Server.readHello, hread, Client.clientHello, Server.move,
    setConn_serverAt]
  rfl

theorem serve_sendingHello (P : Setting β) (inbox : List β) :
    (P.serverAt .sendingHello inbox).step P.env (.write P.conn) =
      some (P.serverAt .lookingUp inbox) := by
  simp only [Server.step, running_serverAt, Bool.false_eq_true, if_false, Server.write,
    conns_serverAt, phaseAt, Server.written, Server.move, setConn_serverAt, requestServices]
  rfl

theorem serve_lookingUp_none (inbox : List β) (hnone : P.services.lookup P.digest = none) :
    (P.serverAt .lookingUp inbox).step P.env (.lookup P.conn) =
      some (P.serverAt .refusing inbox) := by
  -- Nobody else is at the lock, so the guard was granted at once.
  have hheld : (P.serverAt .lookingUp inbox).servicesLock.Holds (.conn P.conn) .read :=
    List.mem_singleton.mpr rfl
  have hlookup : (P.serverAt .lookingUp inbox).services.lookup P.digest = none := hnone
  simp only [Server.step, running_serverAt, Bool.false_eq_true, if_false, Server.lookup,
    conns_serverAt, phaseAt, if_pos hheld, hlookup, Server.move, setConn_serverAt]
  rfl

theorem serve_lookingUp_some (inbox : List β) {cfg : ServerServiceConfig (List β)}
    {token : List β} (hcfg : P.services.lookup P.digest = some cfg)
    (htoken : cfg.token = some token) :
    (P.serverAt .lookingUp inbox).step P.env (.lookup P.conn) =
      some (P.serverAt (.readingAuth cfg token) inbox) := by
  have hheld : (P.serverAt .lookingUp inbox).servicesLock.Holds (.conn P.conn) .read :=
    List.mem_singleton.mpr rfl
  have hlookup : (P.serverAt .lookingUp inbox).services.lookup P.digest = some cfg := hcfg
  -- The one guard goes, and the lock is free again.
  have hlock : (P.serverAt .lookingUp inbox).servicesLock.release (.conn P.conn) .read =
      RwLock.free := RwLock.release_only _ _
  simp only [Server.step, running_serverAt, Bool.false_eq_true, if_false, Server.lookup,
    conns_serverAt, phaseAt, if_pos hheld, hlookup, htoken, Server.move, setConn_serverAt,
    releaseServices, hlock]
  rfl

theorem serve_refusing (P : Setting β) (inbox : List β) :
    (P.serverAt .refusing inbox).step P.env (.write P.conn) =
      some (P.serverAt .refused inbox) := by
  have hlock : (P.serverAt .refusing inbox).servicesLock.release (.conn P.conn) .read =
      RwLock.free := RwLock.release_only _ _
  simp only [Server.step, running_serverAt, Bool.false_eq_true, if_false, Server.write,
    conns_serverAt, phaseAt, Server.written, Server.move, setConn_serverAt, releaseServices, hlock]
  rfl

theorem serve_readingAuth_ne (rest : List β) {cfg : ServerServiceConfig (List β)}
    {token : List β} (hne : P.A.digest (token ++ P.nonce.toList) ≠ P.key) :
    (P.serverAt (.readingAuth cfg token) (P.auth ++ rest)).step P.env (.read P.conn) =
      some (P.serverAt .rejecting rest) := by
  have hread : Rathole.readAuth P.env.alphabet (P.auth ++ rest) =
      some (.ok (Auth.mk P.key), rest) :=
    readAuth_serialize P.A _ rest
  -- The client made its key with another token.
  have hdigest : ¬ P.env.alphabet.digest (token ++ P.nonce.toList) = P.key := hne
  simp only [Server.step, running_serverAt, Bool.false_eq_true, if_false, Server.read,
    conns_serverAt, phaseAt, Server.readAuth, hread, if_neg hdigest, Server.move, setConn_serverAt]
  rfl

theorem serve_readingAuth_eq (P : Setting β) (rest : List β)
    (cfg : ServerServiceConfig (List β)) :
    (P.serverAt (.readingAuth cfg P.token) (P.auth ++ rest)).step P.env (.read P.conn) =
      some (P.serverAt (.locking cfg) rest) := by
  have hread : Rathole.readAuth P.env.alphabet (P.auth ++ rest) =
      some (.ok (Auth.mk P.key), rest) :=
    readAuth_serialize P.A _ rest
  have hdigest : P.env.alphabet.digest (P.token ++ P.nonce.toList) = P.key := rfl
  simp only [Server.step, running_serverAt, Bool.false_eq_true, if_false, Server.read,
    conns_serverAt, phaseAt, Server.readAuth, hread, hdigest, if_true, Server.move,
    setConn_serverAt, requestChannels]
  rfl

theorem serve_rejecting (P : Setting β) (inbox : List β) :
    (P.serverAt .rejecting inbox).step P.env (.write P.conn) =
      some (P.serverAt .rejected inbox) := by
  simp only [Server.step, running_serverAt, Bool.false_eq_true, if_false, Server.write,
    conns_serverAt, phaseAt, Server.written, Server.move, setConn_serverAt]
  rfl

theorem serve_locking (P : Setting β) (inbox : List β) (cfg : ServerServiceConfig (List β)) :
    (P.serverAt (.locking cfg) inbox).step P.env (.lock P.conn) =
      some (P.serverAt (.sendingAck cfg) inbox) := by
  have hheld : (P.serverAt (.locking cfg) inbox).channelsLock.Holds (.conn P.conn) .write :=
    List.mem_singleton.mpr rfl
  have hset : ∀ c, (P.serverAt (.locking cfg) inbox).conns.set P.conn c = P.conns ++ [c] :=
    P.set_conns _
  simp only [Server.step, running_serverAt, Bool.false_eq_true, if_false, Server.lock,
    conns_serverAt, phaseAt, if_pos hheld, Server.move, Server.setConn, hset]
  rfl

theorem serve_sendingAck (inbox : List β) {cfg : ServerServiceConfig (List β)}
    (htype : cfg.serviceType ≠ .http) :
    (P.serverAt (.sendingAck cfg) inbox).step P.env (.write P.conn) =
      some (P.serverAt (.control cfg 0) inbox) := by
  have hlock : (P.serverAt (.sendingAck cfg) inbox).channelsLock.release (.conn P.conn) .write =
      RwLock.free := RwLock.release_only _ _
  -- No command has been written yet.
  have hsent : P.serverHello ++ P.ack .ok = P.sentAt (.control cfg 0) := by
    rw [sentAt, commandBytes, List.take_zero, FixedCodec.encodeAll_nil, List.append_nil]
  have hwritten : P.sentAt (.sendingAck cfg) ++
      Phase.output P.env (.sendingAck P.digest P.key cfg) = P.sentAt (.control cfg 0) := hsent
  simp only [Server.step, running_serverAt, Bool.false_eq_true, if_false, Server.write,
    conns_serverAt, phaseAt, Server.written, setConn_serverAt]
  cases hty : cfg.serviceType with
  | http => exact absurd hty htype
  | tcp =>
      simp only [Server.established, hty, Server.move, Server.setConn, set_conns, releaseChannels,
        hlock, hwritten]
      rfl
  | udp =>
      simp only [Server.established, hty, Server.move, Server.setConn, set_conns, releaseChannels,
        hlock, hwritten]
      rfl

/-- There is no handle for an HTTP service. -/
theorem serve_sendingAck_http (inbox : List β) {cfg : ServerServiceConfig (List β)}
    (htype : cfg.serviceType = .http) :
    ∃ t, (P.serverAt (.sendingAck cfg) inbox).step P.env (.write P.conn) = some t ∧
      t.aborted = true := by
  simp only [Server.step, running_serverAt, Bool.false_eq_true, if_false, Server.write,
    conns_serverAt, phaseAt, Server.written, setConn_serverAt, Server.established, htype]
  exact ⟨_, rfl, rfl⟩

/-- Bytes that arrive change nothing but the inbox. -/
theorem arrive_serverAt (P : Setting β) (g : ServerStage β) (inbox chunk : List β) :
    (P.serverAt g inbox).step P.env (.arrive P.conn chunk) =
      some (P.serverAt g (inbox ++ chunk)) := by
  simp only [Server.step, running_serverAt, Bool.false_eq_true, if_false, Server.arrive,
    conns_serverAt, setConn_serverAt]
  rfl

theorem command_control (inbox : List β) (cfg : ServerServiceConfig (List β)) {n : Nat}
    {cmd : ControlChannelCmd} (hcmd : P.commands[n]? = some cmd) :
    (P.serverAt (.control cfg n) inbox).step P.env (.command P.conn cmd) =
      some (P.serverAt (.control cfg (n + 1)) inbox) := by
  have hencode : (ControlChannelCmd.codec P.A).encode cmd =
      serializeTag P.env.alphabet ControlChannelCmd.tag cmd := rfl
  -- One more command on the wire.
  have hwritten : P.sentAt (.control cfg n) ++
      serializeTag P.env.alphabet ControlChannelCmd.tag cmd = P.sentAt (.control cfg (n + 1)) := by
    simp only [sentAt, commandBytes, List.take_add_one, hcmd, Option.toList_some,
      FixedCodec.encodeAll_append, List.append_assoc, FixedCodec.encodeAll_cons,
      FixedCodec.encodeAll_nil, List.append_nil, hencode]
  simp only [Server.step, running_serverAt, Bool.false_eq_true, if_false, Server.command,
    conns_serverAt, phaseAt, setConn_serverAt, hwritten]
  simp only [serverAt, phaseAt, channelsAt, servicesLockAt, channelsLockAt, handlesAt]

/-- Commands are only written on an established control channel. -/
theorem control_of_command {cmd : ControlChannelCmd} {s : Server β}
    (h : (P.serverAt g inbox).step P.env (.command P.conn cmd) = some s) :
    ∃ cfg n, g = .control cfg n := by
  simp only [Server.step, running_serverAt, Bool.false_eq_true, if_false, Server.command,
    conns_serverAt] at h
  cases g with
  | control cfg n => exact ⟨cfg, n, rfl⟩
  | _ => simp only [phaseAt, reduceCtorEq] at h

end Server

/-! ### The client's next await -/

section Client

variable {P} {k : ClientStage} {inbox : List β}

theorem advance_readingHello (P : Setting β) (rest : List β) :
    (P.handshakeAt .readingHello (P.serverHello ++ rest)).advance P.A P.service =
      some (P.clientAt .sendingAuth rest) := by
  have hread : readHello P.A (P.serverHello ++ rest) =
      some (.ok (.controlChannelHello currentProtoVersion P.nonce), rest) :=
    readHello_serialize P.A rfl rest
  simp only [Handshake.advance, handshakeAt, pcAt, hread]
  rfl

theorem advance_sendingAuth (inbox : List β) (htoken : P.service.token = some P.token) :
    (P.handshakeAt .sendingAuth inbox).advance P.A P.service =
      some (P.clientAt .readingAck inbox) := by
  simp only [Handshake.advance, handshakeAt, pcAt, htoken]
  rfl

theorem readAck_verdict (P : Setting β) (rest : List β) :
    readAck P.A (P.ack P.verdict ++ rest) = some (.ok P.verdict, rest) := by
  unfold ack
  exact readAck_serialize P.A P.verdict rest

theorem advance_readingAck (P : Setting β) (rest : List β) :
    (P.handshakeAt .readingAck (P.ack P.verdict ++ rest)).advance P.A P.service =
      some (P.clientAt .ended rest) := by
  have hread : readAck P.A (P.handshakeAt .readingAck (P.ack P.verdict ++ rest)).inbox =
      some (.ok P.verdict, rest) := P.readAck_verdict rest
  rw [advance_of_readAck rfl hread]
  simp only [handshakeAt, pcAt, clientSentAt, clientAt]

end Client

end Setting

end Rathole
