import Rathole.Config
import Rathole.Protocol.Wire

/-!
# The Client's Handshake

`ControlChannel::run` of the client up to the acknowledgement: connect, send
a hello with the digest of the service's name, take the server's hello as a
nonce, answer with the digest of token and nonce, and wait to be let in.

Each await is a state. A read completes when its bytes are there, whatever
chunks they came in; a write or a connect completes when the environment says
so, or fails.

## Main definitions

* `RunError`: What `ControlChannel::run` fails with.
* `HandshakePc`, `Handshake`: Where the handshake is, and its connection.
* `Handshake.advance`: Completing the present await.
-/

namespace Rathole

namespace Client

/-- What `ControlChannel::run` fails with. -/
inductive RunError (β : Type)
  | io
  | read (e : ReadError)
  | unexpectedHello
  | authenticationFailed (service : List β) (ack : Ack)
  | heartbeatTimedOut
deriving DecidableEq

/-- The text of an error of a run, without that of an I/O error. -/
def RunError.display {β : Type} (text : List β → String) : RunError β → String
  | .io => ""
  | .read e => e.display
  | .unexpectedHello => "Unexpected type of hello"
  | .authenticationFailed service ack =>
      "Authentication failed: " ++ text service ++ ": " ++ ack.display
  | .heartbeatTimedOut => "Heartbeat timed out"

/-- The awaits of `do_control_channel_handshake`, in their order. -/
inductive HandshakePc (β : Type)
  | resolving
  | connecting
  | sendingHello
  | readingHello
  | sendingAuth (nonce : Digest β)
  | readingAck (sessionKey : Digest β)
deriving DecidableEq

/-- A handshake in progress, with the bytes that have arrived and are not yet
    read, and all that was written. -/
structure Handshake (β : Type) where
  pc : HandshakePc β
  inbox : List β
  sent : List β
deriving DecidableEq

/-- What completing an await leads to: the next await, the end of the
    handshake with the session key, or an error. -/
inductive HandshakeStep (β : Type)
  | going (h : Handshake β)
  | established (sessionKey : Digest β) (h : Handshake β)
  | failed (e : RunError β) (h : Handshake β)
deriving DecidableEq

variable {β : Type} (A : Alphabet β)

/-- The client of a service as it starts to run. -/
def Handshake.start : Handshake β where
  pc := .resolving
  inbox := []
  sent := []

/-- The hello a client sends. -/
def clientHello (service : ClientServiceConfig (List β)) : Hello β :=
  .controlChannelHello currentProtoVersion (A.digest service.name)

/-- The session key of a token and a nonce. -/
def sessionKey (token : List β) (nonce : Digest β) : Digest β :=
  A.digest (token ++ nonce.toList)

/-- Complete the present await: `none` while the bytes of a read are missing,
    or if there is no token to unwrap. -/
def Handshake.advance (service : ClientServiceConfig (List β)) (h : Handshake β) :
    Option (HandshakeStep β) :=
  match h.pc with
  | .resolving => some (.going { h with pc := .connecting })
  | .connecting => some (.going { h with pc := .sendingHello })
  | .sendingHello => some (.going { h with
      pc := .readingHello
      sent := h.sent ++ (clientHello A service).serialize A })
  | .readingHello => match readHello A h.inbox with
    | none => none
    | some (.error e, rest) => some (.failed (.read e) { h with inbox := rest })
    | some (.ok (.controlChannelHello _ d), rest) =>
        some (.going { h with pc := .sendingAuth d, inbox := rest })
    | some (.ok (.dataChannelHello _ _), rest) =>
        some (.failed .unexpectedHello { h with inbox := rest })
  | .sendingAuth nonce => match service.token with
    | none => none
    | some token => some (.going { h with
        pc := .readingAck (sessionKey A token nonce)
        sent := h.sent ++ (Auth.mk (sessionKey A token nonce)).serialize })
  | .readingAck key => match readAck A h.inbox with
    | none => none
    | some (.error e, rest) => some (.failed (.read e) { h with inbox := rest })
    | some (.ok .ok, rest) => some (.established key { h with inbox := rest })
    | some (.ok ack, rest) =>
        some (.failed (.authenticationFailed service.name ack) { h with inbox := rest })

/-- Bytes arrive. -/
def Handshake.receive (h : Handshake β) (chunk : List β) : Handshake β :=
  { h with inbox := h.inbox ++ chunk }

end Client

end Rathole
