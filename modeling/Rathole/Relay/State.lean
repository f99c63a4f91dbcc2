import Rathole.Lib.FairLock
import Rathole.Lib.Transition
import Rathole.Proxy.Routing

/-!
# The Relay

The tasks of `main.rs` that share the tunnel table: one `handle_socket` task
for each websocket on `/register/{id}`, one handler for each HTTP request
(`tunnel` on `/tunnel/{id}/{*path}`, `proxy_handler` on everything else), and
the cleanup task. Every await is a state of its task, so any other task can
move in between.

`tunnels` is behind a fair lock, because its guards are held across awaits.
The guards of `responses` and `health_data` never are: each of their uses is
one action. A guard made in the scrutinee of an `if let` lives to the end of
the `if let`, so `tunnel` keeps its read guard until it returns, and
`proxy_handler` does so on the branch of the cookie. `Call.held` records it.

A tunnel is the queue of its socket: `tunnels` maps an id to the number of
the socket whose sender was inserted. The receiver of the queue is dropped
when the socket leaves its loop. A oneshot is part of the request that made
it, and `responses` maps a request id to the number of that request.

A panic in any task aborts the process.

## Main definitions

* `Env`: The parts of the relay that are not under its source.
* `Socket`, `Request`, `CleanupPc`: The tasks.
* `Relay`: The whole relay.
* `Action`: What can happen next.
-/

namespace Rathole

open FairLock Proxy

/-- A websocket message. -/
inductive Message
  | text (s : String)
  | binary (data : List UInt8)
  | ping (data : List UInt8)
  | pong (data : List UInt8)
  | close
deriving DecidableEq, Repr

/-- The libraries the relay calls: reading a JSON message, accepting a token,
    the header names and values the `http` crate allows, the header maps that
    have room for an `insert`, and whether integer overflow panics. -/
structure Env where
  fromStr : String → Option ControlMessage
  decode : String → Bool
  headerName : String → Bool
  headerValue : String → Bool
  room : HeaderMap → Bool
  overflowChecks : Bool

/-- Libraries that know one message, a `Register` with the one token that is
    accepted. -/
def Env.oneToken : Env where
  fromStr := fun t => if t = "reg" then some (.register "ok" "a") else none
  decode := fun token => token == "ok"
  headerName := fun _ => true
  headerValue := fun _ => true
  room := fun headers => headers.length < 24576
  overflowChecks := false

/-- `AppError` -/
inductive AppError
  | tunnelNotFound
  | tunnelSendError
  | tunnelResponseError
  | other
deriving DecidableEq, Repr

/-- The statuses of the relay's own replies. -/
inductive StatusCode
  | badRequest
  | internalServerError
  | badGateway
  | gatewayTimeout
deriving DecidableEq, Repr

/-- What a handler returns: `tunnel` a response or an error, `proxy_handler`
    a response labelled with its backend or a status. -/
inductive Outcome
  | answered (res : HttpResponse)
  | error (e : AppError)
  | proxied (backend : String) (res : HttpResponse)
  | cloud
  | status (code : StatusCode)
deriving DecidableEq, Repr

/-- The tasks that take guards of `tunnels`. -/
inductive Task
  | socket (n : Nat)
  | request (r : Nat)
  | cleanup
deriving DecidableEq, Repr

/-- `handle_socket`, await by await: the first message, the entry in redis,
    the write guard of `tunnels`, the loop, a message being sent to the
    client, the way to the cleanup task. -/
inductive SocketPc
  | opened
  | onlining
  | enlisting
  | looping
  | pushing (msg : ControlMessage)
  | leaving
  | closed
deriving DecidableEq, Repr

/-- A websocket. `registered` remembers that its first message was a
    `Register` with an accepted token; `armed` is when the iteration of the
    loop started, on which the idle timeout counts. -/
structure Socket where
  id : String
  pc : SocketPc
  registered : Bool
  queue : List ControlMessage
  armed : Nat
deriving DecidableEq, Repr

/-- The socket has the receiver of its queue: it is in its loop. -/
def Socket.InLoop (x : Socket) : Prop :=
  match x.pc with
  | .looping | .pushing _ => True
  | _ => False

instance (x : Socket) : Decidable x.InLoop := by
  unfold Socket.InLoop
  split <;> infer_instance

/-- A request on its way through a tunnel: the tunnel, the sender, the
    request's id, and whether a read guard of `tunnels` is still alive. -/
structure Call where
  id : String
  tx : Nat
  requestId : String
  held : Bool
deriving DecidableEq, Repr

/-- The handlers, await by await. `listing` and `finding` belong to `tunnel`;
    `preferring` to `checkingChosen`, `reading` and `failing` belong to
    `proxy_handler`, `choosing` and `ranking` are its call of
    `choose_best_tunnel`. A call that is `failing` has yet to take its entry
    out of `responses`. -/
inductive RequestPc
  | listing
  | finding
  | preferring (prefId : String)
  | checkingPreferred (prefId : String) (tx : Nat)
  | choosing
  | ranking
  | checkingChosen (chosenId : String) (tx : Nat)
  | enrolling (c : Call)
  | reading (c : Call)
  | sending (c : Call)
  | waiting (c : Call) (since : Nat)
  | failing (c : Call) (code : StatusCode)
  | cloud
  | returned (o : Outcome)
  | dropped
deriving DecidableEq, Repr

/-- The handler stands at its oneshot. -/
def RequestPc.isWaiting : RequestPc → Bool
  | .waiting _ _ => true
  | _ => false

/-- The route a request came in by. -/
inductive Entry
  | tunnel (id : String)
  | proxy
deriving DecidableEq, Repr

/-- The oneshot a handler waits on. -/
inductive Oneshot
  | empty
  | sent (res : HttpResponse)
  | senderDropped
deriving DecidableEq, Repr

/-- A request, the await of its handler, and the channel of its answer. -/
structure Request where
  entry : Entry
  method : String
  path : String
  headers : HeaderMap
  body : List UInt8
  pc : RequestPc
  answer : Oneshot
deriving DecidableEq, Repr

/-- The handler has neither returned nor been dropped. -/
def Request.Running (q : Request) : Prop :=
  match q.pc with
  | .returned _ | .dropped => False
  | _ => True

instance (q : Request) : Decidable q.Running := by
  unfold Request.Running
  split <;> infer_instance

/-- The receiver of the handler's oneshot is there: the handler runs, and its
    wait has not timed out. -/
def Request.Listening (q : Request) : Prop :=
  match q.pc with
  | .returned _ | .dropped | .failing _ .gatewayTimeout => False
  | _ => True

instance (q : Request) : Decidable q.Listening := by
  unfold Request.Listening
  split <;> infer_instance

/-- The cleanup task: waiting for an id, at redis, waiting for the write
    guard. The number is the socket that sent the id. -/
inductive CleanupPc
  | idle
  | offlining (n : Nat) (id : String)
  | removing (n : Nat) (id : String)
deriving DecidableEq, Repr

/-- The relay. Every id in `cleanupQueue` comes with the number of the socket
    that sent it, which the cleanup task never sees. -/
structure Relay where
  tunnels : HashMap String Nat
  lock : RwLock Task
  responses : HashMap String Nat
  health : TunnelHealthMap
  sockets : List Socket
  requests : List Request
  cleanupQueue : List (Nat × String)
  cleanup : CleanupPc
  now : Nat
  aborted : Bool

/-- What `socket.recv()` gives the loop. -/
inductive Received
  | message (m : Message)
  | error
  | closed
deriving DecidableEq, Repr

/-- What can happen next. The outcomes of redis, of the network and of the
    cloud backend are part of the action, as are the request ids that are
    drawn. -/
inductive Action
  | upgrade (id : String)
  | first (n : Nat) (m : Received)
  | online (n : Nat) (ok : Bool)
  | enlist (n : Nat)
  | forward (n : Nat)
  | pushed (n : Nat) (ok : Bool)
  | receive (n : Nat) (m : Received)
  | idle (n : Nat)
  | report (n : Nat)
  | arrive (entry : Entry) (method path : String) (headers : HeaderMap) (body : List UInt8)
  | list (r : Nat)
  | find (r : Nat) (requestId : String)
  | prefer (r : Nat)
  | checkPreferred (r : Nat) (requestId : String)
  | choose (r : Nat)
  | rank (r : Nat)
  | checkChosen (r : Nat) (requestId : String)
  | enroll (r : Nat)
  | readBody (r : Nat) (ok : Bool)
  | send (r : Nat)
  | resolve (r : Nat)
  | expire (r : Nat)
  | discard (r : Nat)
  | cloudReply (r : Nat) (failure : Option StatusCode)
  | cancel (r : Nat)
  | cleanupTake
  | cleanupOffline (ok : Bool)
  | cleanupRemove
  | elapse (d : Nat)
deriving DecidableEq, Repr

/-- The handler an action belongs to. -/
def Action.handler : Action → Option Nat
  | .list r | .find r _ | .prefer r | .checkPreferred r _ | .choose r | .rank r
  | .checkChosen r _ | .enroll r | .readBody r _ | .send r | .resolve r | .expire r
  | .discard r | .cloudReply r _ | .cancel r => some r
  | _ => none

/-- The task of an action that may touch the lock of `tunnels`, apart from the
    new task of a request that comes in. -/
def Action.task : Action → Option Task
  | .online n _ | .enlist n => some (.socket n)
  | .cleanupOffline _ | .cleanupRemove => some .cleanup
  | a => a.handler.map Task.request

namespace Relay

/-- The relay when it starts to listen. -/
def initial : Relay where
  tunnels := ∅
  lock := RwLock.free
  responses := ∅
  health := ∅
  sockets := []
  requests := []
  cleanupQueue := []
  cleanup := .idle
  now := 0
  aborted := false

/-- Another state of a socket. -/
def setSocket (s : Relay) (n : Nat) (x : Socket) : Relay :=
  { s with sockets := s.sockets.set n x }

/-- Another state of a request. -/
def setRequest (s : Relay) (r : Nat) (q : Request) : Relay :=
  { s with requests := s.requests.set r q }

/-- A handler gets to its next await, with the lock as it is then. -/
def moveRequest (s : Relay) (r : Nat) (q : Request) (pc : RequestPc) (lock : RwLock Task) :
    Relay :=
  { s.setRequest r { q with pc := pc } with lock := lock }

end Relay

end Rathole
