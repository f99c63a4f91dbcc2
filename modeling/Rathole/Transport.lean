import Rathole.Config
import Rathole.Lib.Completion

/-!
# Transports

`transport/*.rs` and the functions of `helper.rs` under them, as far as they
come up or not: a transport is made from its configuration, a server does its
handshake with a connection it accepted, and a client connects.

Each of these ends in one of three ways, with a value, with an error, or in a
panic. What files, peers and name servers answer is left open, one question at
a time, and so is what other crates make of a text.

## Main definitions

* `Panic`: The places that panic.
* `World`, `Parsers`, `Build`: What the outcome depends on besides the
  configuration.
* `hostPortPair`, `toSocketAddr`, `tcpConnectWithProxy`: From `helper.rs`.
* `TcpTransport`, `TlsTransport`, `NoiseTransport`, `WebsocketTransport`: Each
  with `new`, `handshake` and `connect`.
* `Transport`: The one that is chosen by the configuration.
-/

namespace Rathole

open Completion

/-- The places that panic. -/
inductive Panic
  | serverBlock
  | notCompiled
  | pkcs12Password
  | identity
  | tlsAcceptor
  | tlsConnector
  | missingSemicolon
  | proxyHost
  | proxyPort
  | proxyScheme
  | websocketUrl
  | websocketHandshake
  | serverToken
  | clientToken
  | retryInterval
  | httpService
  | watchedBlock
deriving DecidableEq, Repr

/-- Whether the configuration alone leads there. An acceptor depends on the
    file of its identity, and a websocket handshake on the peer. -/
def Panic.OfConfig : Panic → Prop
  | .identity => False
  | .websocketHandshake => False
  | _ => True

/-- What is asked of the world outside. -/
inductive Op
  | readTrustedRoot
  | trustedRoot
  | buildConnector
  | readPkcs12
  | identity
  | buildAcceptor
  | resolve
  | listen
  | connect
  | proxy
  | tlsHandshake
  | noiseHandshake
  | websocketHandshake
  | relay
deriving DecidableEq, Repr

/-- Whether each of them goes well. -/
abbrev World := Op → Bool

/-- Everything goes well. -/
def granted : World := fun _ => true

/-- What other crates make of a text, or of keys. -/
structure Parsers where
  url : String → Option Url
  noiseParams : String → Bool
  base64 : String → Bool
  keypair : String → Bool
  responder : NoiseConfig → Bool
  initiator : NoiseConfig → Bool

/-- The features that bring a transport with them. -/
structure Build where
  tls : Bool
  noise : Bool
  websocket : Bool
deriving DecidableEq, Repr

/-- The features that are on by default. -/
def Build.default : Build where
  tls := true
  noise := true
  websocket := true

/-- The transports that were built in. -/
def Build.has (b : Build) : TransportType → Bool
  | .tcp => true
  | .tls => b.tls
  | .noise => b.noise
  | .websocket => b.websocket

/-! ### Addresses -/

/-- What is before and after the last colon. -/
def rsplitColon : List Char → Option (List Char × List Char)
  | [] => none
  | c :: cs => match rsplitColon cs with
    | some (host, port) => some (c :: host, port)
    | none => if c = ':' then some ([], cs) else none

/-- `parse::<u16>` -/
def parseU16 (s : List Char) : Option UInt16 :=
  let digits := match s with
    | '+' :: rest => rest
    | s => s
  if digits = [] ∨ digits.any (fun c => !c.isDigit) then none
  else
    let n := digits.foldl (fun n c => n * 10 + (c.toNat - '0'.toNat)) 0
    if n < 65536 then some (UInt16.ofNat n) else none

/-- `host_port_pair` -/
def hostPortPair (s : String) : Completion Panic (String × UInt16) :=
  match rsplitColon s.toList with
  | none => .error (.panic .missingSemicolon)
  | some (host, port) => match parseU16 port with
    | none => .error .error
    | some n => .ok (String.ofList host, n)

/-- The address ends in a port. -/
def HasPort (addr : String) : Prop := ∃ pair, hostPortPair addr = .ok pair

instance (addr : String) : Decidable (HasPort addr) :=
  match h : hostPortPair addr with
  | .ok pair => isTrue ⟨pair, h⟩
  | .error e => isFalse (fun ⟨pair, hp⟩ => by rw [h] at hp; cases hp)

/-- `to_socket_addr`. A text without a port is refused before any name server
    is asked. -/
def toSocketAddr (w : World) (addr : String) : Completion Panic Unit :=
  match rsplitColon addr.toList with
  | none => .error .error
  | some (_, port) => match parseU16 port with
    | none => .error .error
    | some _ => ensure (w .resolve)

/-- `AddrMaybeCached` -/
structure AddrMaybeCached where
  addr : String
  cached : Bool
deriving DecidableEq, Repr

/-- `tcp_connect_with_proxy` -/
def tcpConnectWithProxy (w : World) (addr : AddrMaybeCached) : Option Url → Completion Panic Unit
  | some url => do
      let _ ← unwrap .proxyHost url.host
      let _ ← unwrap .proxyPort url.port
      ensure (w .connect)
      if url.scheme = "socks5" ∨ url.scheme = "http" then
        let _ ← hostPortPair addr.addr
        ensure (w .proxy)
      else .error (.panic .proxyScheme)
  | none => do
      let _ ← (if addr.cached then pure () else toSocketAddr w addr.addr)
      ensure (w .connect)

/-! ### Each transport -/

/-- `TcpTransport` -/
structure TcpTransport where
  cfg : TcpConfig
deriving DecidableEq, Repr

/-- `TcpTransport::new` -/
def TcpTransport.new (config : TransportConfig) : TcpTransport where
  cfg := config.tcp

/-- `TcpTransport::connect` -/
def TcpTransport.connect (w : World) (t : TcpTransport) (addr : AddrMaybeCached) :
    Completion Panic Unit :=
  tcpConnectWithProxy w addr t.cfg.proxy

/-- A connector, by the root it trusts besides those of the system. -/
structure TlsConnector where
  trustedRoot : Option String
deriving DecidableEq, Repr

/-- An acceptor, by the file of its identity. -/
structure TlsAcceptor where
  pkcs12 : String
deriving DecidableEq, Repr

/-- `TlsTransport` -/
structure TlsTransport where
  tcp : TcpTransport
  config : TlsConfig
  connector : Option TlsConnector
  tlsAcceptor : Option TlsAcceptor
deriving DecidableEq, Repr

namespace TlsTransport

/-- The connector that `new` builds. -/
def newConnector (w : World) : Option String → Completion Panic TlsConnector
  | some path => do
      ensure (w .readTrustedRoot)
      ensure (w .trustedRoot)
      ensure (w .buildConnector)
      pure { trustedRoot := some path }
  | none => do
      ensure (w .buildConnector)
      pure { trustedRoot := none }

/-- The acceptor that `new` builds if there is an identity. -/
def newAcceptor (w : World) (password : Option String) :
    Option String → Completion Panic (Option TlsAcceptor)
  | some path => do
      -- The file is read before the password is looked at.
      ensure (w .readPkcs12)
      let _ ← unwrap .pkcs12Password password
      ensure (w .identity)
      if w .buildAcceptor then pure (some { pkcs12 := path }) else .error (.panic .identity)
  | none => pure none

/-- `TlsTransport::new` -/
def new (w : World) (config : TransportConfig) : Completion Panic TlsTransport := do
  let tls ← okOr config.tls
  let connector ← newConnector w tls.trustedRoot
  let tlsAcceptor ← newAcceptor w tls.pkcs12Password tls.pkcs12
  pure {
    tcp := TcpTransport.new config
    config := tls
    connector := some connector
    tlsAcceptor := tlsAcceptor }

/-- `TlsTransport::handshake` -/
def handshake (w : World) (t : TlsTransport) : Completion Panic Unit := do
  let _ ← unwrap .tlsAcceptor t.tlsAcceptor
  ensure (w .tlsHandshake)

/-- `TlsTransport::connect` -/
def connect (w : World) (t : TlsTransport) (addr : AddrMaybeCached) : Completion Panic Unit := do
  t.tcp.connect w addr
  let _ ← unwrap .tlsConnector t.connector
  -- The default of `unwrap_or` is computed whether it is needed or not.
  let _ ← hostPortPair addr.addr
  ensure (w .tlsHandshake)

end TlsTransport

/-- `NoiseTransport` -/
structure NoiseTransport where
  tcp : TcpTransport
  config : NoiseConfig
deriving DecidableEq, Repr

namespace NoiseTransport

/-- Whether the pattern and the keys can be read. A private key that is not
    given is generated. -/
def readable (P : Parsers) (noise : NoiseConfig) : Bool :=
  P.noiseParams noise.pattern && noise.remotePublicKey.all P.base64 &&
    match noise.localPrivateKey with
    | some key => P.base64 key
    | none => P.keypair noise.pattern

/-- `NoiseTransport::new` -/
def new (P : Parsers) (config : TransportConfig) : Completion Panic NoiseTransport := do
  let noise ← okOr config.noise
  ensure (readable P noise)
  pure { tcp := TcpTransport.new config, config := noise }

/-- `NoiseTransport::handshake` -/
def handshake (P : Parsers) (w : World) (t : NoiseTransport) : Completion Panic Unit := do
  ensure (P.responder t.config)
  ensure (w .noiseHandshake)

/-- `NoiseTransport::connect` -/
def connect (P : Parsers) (w : World) (t : NoiseTransport) (addr : AddrMaybeCached) :
    Completion Panic Unit := do
  t.tcp.connect w addr
  ensure (P.initiator t.config)
  ensure (w .noiseHandshake)

end NoiseTransport

/-- `SubTransport` -/
inductive SubTransport
  | secure (t : TlsTransport)
  | insecure (t : TcpTransport)
deriving DecidableEq, Repr

/-- `SubTransport::handshake` -/
def SubTransport.handshake (w : World) : SubTransport → Completion Panic Unit
  | .secure t => t.handshake w
  | .insecure _ => .ok ()

/-- `SubTransport::connect` -/
def SubTransport.connect (w : World) (addr : AddrMaybeCached) :
    SubTransport → Completion Panic Unit
  | .secure t => t.connect w addr
  | .insecure t => t.connect w addr

/-- `WebsocketTransport` -/
structure WebsocketTransport where
  sub : SubTransport
deriving DecidableEq, Repr

namespace WebsocketTransport

/-- `WebsocketTransport::new` -/
def new (w : World) (config : TransportConfig) : Completion Panic WebsocketTransport := do
  let wsconfig ← okOr config.websocket
  if wsconfig.tls then
    let t ← TlsTransport.new w config
    pure { sub := .secure t }
  else pure { sub := .insecure (TcpTransport.new config) }

/-- `WebsocketTransport::handshake` -/
def handshake (w : World) (t : WebsocketTransport) : Completion Panic Unit := do
  t.sub.handshake w
  ensure (w .websocketHandshake)

/-- `WebsocketTransport::connect` -/
def connect (P : Parsers) (w : World) (t : WebsocketTransport) (addr : AddrMaybeCached) :
    Completion Panic Unit := do
  let _ ← unwrap .websocketUrl (P.url ("ws://" ++ addr.addr))
  t.sub.connect w addr
  if w .websocketHandshake then pure () else .error (.panic .websocketHandshake)

end WebsocketTransport

/-- The transport in use. -/
inductive Transport
  | tcp (t : TcpTransport)
  | tls (t : TlsTransport)
  | noise (t : NoiseTransport)
  | websocket (t : WebsocketTransport)
deriving DecidableEq, Repr

namespace Transport

/-- The choice `run_server` and `run_client` make, and `new`. -/
def new (P : Parsers) (b : Build) (w : World) (config : TransportConfig) :
    Completion Panic Transport :=
  if b.has config.transportType then
    match config.transportType with
    | .tcp => .ok (.tcp (TcpTransport.new config))
    | .tls => (TlsTransport.new w config).map Transport.tls
    | .noise => (NoiseTransport.new P config).map Transport.noise
    | .websocket => (WebsocketTransport.new w config).map Transport.websocket
  -- `feature_not_compile` and `feature_neither_compile`
  else .error (.panic .notCompiled)

/-- `Transport::handshake` -/
def handshake (P : Parsers) (w : World) : Transport → Completion Panic Unit
  | .tcp _ => .ok ()
  | .tls t => t.handshake w
  | .noise t => t.handshake P w
  | .websocket t => t.handshake w

/-- `Transport::connect` -/
def connect (P : Parsers) (w : World) (addr : AddrMaybeCached) : Transport → Completion Panic Unit
  | .tcp t => t.connect w addr
  | .tls t => t.connect w addr
  | .noise t => t.connect P w addr
  | .websocket t => t.connect P w addr

end Transport

end Rathole
