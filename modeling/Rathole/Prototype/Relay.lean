import Rathole.Http
import Rathole.Prototype.Message
import Rathole.Relay.Step

/-!
# The Prototype Relay

The relay of the crate `relay`: one `handle_socket` task for each websocket on
`/register/:id`, and one `proxy_handler` for each HTTP request. Every await at
which a task can be kept waiting is a state of the task.

`tunnels` is behind a fair mutex, here a lock that is only asked for writing.
The guard `proxy_handler` makes in the scrutinee of its `if let` lives to the
end of the `if let`, so over all of `forward_to_tunnel` and of the fallback
after it. The guards of `pending_requests` are never held while something else
is waited for, since the channel of a response takes one message and gets at
most one: each use of that map is one action.

A tunnel is the queue of its socket, and `tunnels` maps an id to the number of
the socket whose sender was inserted. The receiver of the queue is dropped
when `handle_socket` ends, not when it leaves its loop. A response channel is
part of the request that made it, and `pendingRequests` maps a request id to
the number of that request.

A panic ends its task only; whatever the task owned is dropped.

## Main definitions

* `Env`: What is read and built by libraries.
* `Socket`, `Request`: The tasks.
* `Relay`: The whole relay.
* `Relay.step`: One action of one task.
-/

namespace Rathole

namespace Prototype

open FairLock Proxy

/-- Reading a JSON message, and the `http` crate. -/
structure Env where
  fromStr : String → Option ControlMessage
  crate : Http.Crate

/-- Who takes the lock: a socket or a request. -/
inductive Task
  | socket (n : Nat)
  | request (r : Nat)
deriving DecidableEq, Repr

/-- `handle_socket`, await by await: the guard of its registration, the loop,
    a message being sent to the client, the guard of its removal. -/
inductive SocketPc
  | registering
  | looping
  | pushing (msg : ControlMessage)
  | leaving
  | closed
  | crashed
deriving DecidableEq, Repr

/-- A websocket. `deaf` is set while the branch of its messages is disabled in
    the present iteration of the loop. -/
structure Socket where
  id : String
  pc : SocketPc
  deaf : Bool
  queue : List ControlMessage
deriving DecidableEq, Repr

/-- The socket is read. -/
def SocketPc.InLoop : SocketPc → Prop
  | .looping | .pushing _ => True
  | _ => False

instance (pc : SocketPc) : Decidable pc.InLoop :=
  match pc with
  | .looping | .pushing _ => isTrue trivial
  | .registering | .leaving | .closed | .crashed => isFalse id

/-- The receiver of the queue is there. -/
def SocketPc.Alive : SocketPc → Prop
  | .closed | .crashed => False
  | _ => True

instance (pc : SocketPc) : Decidable pc.Alive :=
  match pc with
  | .closed | .crashed => isFalse id
  | .registering | .looping | .pushing _ | .leaving => isTrue trivial

/-- A body, which can fail while it is read. -/
inductive Body
  | bytes (b : List UInt8)
  | broken
deriving DecidableEq, Repr

/-- `hyper::Body::empty()` -/
def Body.empty : Body := .bytes []

/-- A request as it comes in, and as it is handed to the fallback. -/
structure Incoming where
  method : String
  uri : String
  headers : HeaderMap
  body : Body
deriving DecidableEq, Repr

/-- A call of `forward_to_tunnel`. -/
structure Call where
  subdomain : String
  tx : Nat
  requestId : String
deriving DecidableEq, Repr

/-- The channel a request waits on. -/
inductive Answer
  | empty
  | sent (res : Response)
  | senderDropped
deriving DecidableEq, Repr

/-- What `proxy_handler` returns: a tunnel's response, or what came of the
    fallback. -/
inductive Outcome
  | tunnel (res : Response)
  | fallback (ok : Bool)
deriving DecidableEq, Repr

/-- `proxy_handler`, await by await: the guard of the lookup, the entry in
    `pending_requests`, the body, the tunnel's queue, the response, the removal
    of the entry, the fallback with the request that is handed to it. -/
inductive RequestPc
  | looking (subdomain : String)
  | enrolling (c : Call)
  | reading (c : Call)
  | sending (c : Call) (msg : ControlMessage)
  | waiting (c : Call)
  | discarding (c : Call)
  | falling (attempt : Option Call) (handed : Incoming)
  | returned (o : Outcome)
  | dropped
  | crashed
deriving DecidableEq, Repr

/-- A request, the await of its handler, and the channel of its answer. -/
structure Request where
  req : Incoming
  pc : RequestPc
  answer : Answer
deriving DecidableEq, Repr

/-- The call of `forward_to_tunnel` a handler is in. -/
def RequestPc.call : RequestPc → Option Call
  | .enrolling c | .reading c | .sending c _ | .waiting c | .discarding c => some c
  | _ => none

/-- The handler has the guard of `tunnels`. -/
def RequestPc.Guarding : RequestPc → Prop
  | .enrolling _ | .reading _ | .sending _ _ | .waiting _ | .discarding _
  | .falling (some _) _ => True
  | _ => False

instance (pc : RequestPc) : Decidable pc.Guarding :=
  match pc with
  | .enrolling _ | .reading _ | .sending _ _ | .waiting _ | .discarding _
  | .falling (some _) _ => isTrue trivial
  | .looking _ | .falling none _ | .returned _ | .dropped | .crashed => isFalse id

/-- The handler has neither returned nor been dropped. -/
def RequestPc.Running : RequestPc → Prop
  | .returned _ | .dropped | .crashed => False
  | _ => True

instance (pc : RequestPc) : Decidable pc.Running :=
  match pc with
  | .returned _ | .dropped | .crashed => isFalse id
  | .looking _ | .enrolling _ | .reading _ | .sending _ _ | .waiting _ | .discarding _
  | .falling _ _ => isTrue trivial

/-- `TunnelRegistry` and the tasks that share it. `registrations` remembers
    the sockets in the order of their registration, the latest first. -/
structure Relay where
  tunnels : HashMap String Nat
  lock : RwLock Task
  pendingRequests : HashMap String Nat
  sockets : List Socket
  requests : List Request
  registrations : List Nat

/-- What can happen next. The outcomes of the network and of the fallback are
    part of the action, as are the request ids that are drawn. -/
inductive Action
  | connect (id : String)
  | enlist (n : Nat)
  | take (n : Nat)
  | pushed (n : Nat) (ok : Bool)
  | receive (n : Nat) (m : Message)
  | fail (n : Nat)
  | hangUp (n : Nat)
  | remove (n : Nat)
  | arrive (req : Incoming)
  | look (r : Nat) (requestId : String)
  | enroll (r : Nat)
  | readBody (r : Nat)
  | send (r : Nat)
  | recv (r : Nat)
  | discard (r : Nat)
  | fallbackReply (r : Nat) (ok : Bool)
  | cancel (r : Nat)
deriving DecidableEq, Repr

/-- The part of the host before its first dot, if there is a host and it is a
    string. -/
def subdomainOf (headers : HeaderMap) : Option String :=
  ((headers.get "host").bind toStr).map (fun host =>
    String.ofList (host.toList.takeWhile (fun c => c ≠ '.')))

/-- The response of a tunnel client, built and unwrapped; `none` is a
    panic. -/
def buildResponse (C : Http.Crate) (status : UInt16) (headers : List (String × String))
    (body : List UInt8) : Option Response :=
  Http.Builder.body (headers.foldl (Http.Builder.header C) (Http.Builder.new.status status)) body

/-- The `ControlMessage::Request` of `forward_to_tunnel`; a header that is no
    string is a panic. -/
def requestMessage (req : Incoming) (requestId : String) (body : List UInt8) :
    Option ControlMessage :=
  (Relay.headersUnwrapped req.headers).map (fun headers =>
    .request requestId req.method req.uri headers body)

/-- `HyperRequest::from_parts(parts, hyper::Body::empty())` -/
def Incoming.emptied (req : Incoming) : Incoming := { req with body := Body.empty }

namespace Relay

/-- A relay that nobody has connected to. -/
def initial : Relay where
  tunnels := ∅
  lock := RwLock.free
  pendingRequests := ∅
  sockets := []
  requests := []
  registrations := []

/-- Another state of a socket. -/
def setSocket (s : Relay) (n : Nat) (x : Socket) : Relay :=
  { s with sockets := s.sockets.set n x }

/-- Another state of a request. -/
def setRequest (s : Relay) (r : Nat) (q : Request) : Relay :=
  { s with requests := s.requests.set r q }

/-- A socket gets to its next await. -/
def moveSocket (s : Relay) (n : Nat) (x : Socket) (pc : SocketPc) : Relay :=
  s.setSocket n { x with pc := pc }

/-- A handler gets to its next await, with the lock as it is then. -/
def moveRequest (s : Relay) (r : Nat) (q : Request) (pc : RequestPc) (lock : RwLock Task) : Relay :=
  { s.setRequest r { q with pc := pc } with lock := lock }

/-! ### Pending requests -/

/-- The sender of a response channel is dropped. -/
def dropSender (s : Relay) (r : Nat) : Relay :=
  match s.requests[r]? with
  | none => s
  | some q => if q.answer = .empty then s.setRequest r { q with answer := .senderDropped } else s

/-- `sender.send(Ok(response))`; an error if the handler is not in
    `forward_to_tunnel` any more, and then only logged. -/
def answerRequest (s : Relay) (r : Nat) (res : Response) : Relay :=
  match s.requests[r]? with
  | none => s
  | some q =>
      if q.answer = .empty ∧ q.pc.call.isSome then s.setRequest r { q with answer := .sent res }
      else s

/-- `pending_requests.insert(request_id, response_tx)`. A sender that was
    under the same id is dropped. -/
def insertPending (s : Relay) (requestId : String) (r : Nat) : Relay :=
  let s' := match s.pendingRequests.lookup requestId with
    | none => s
    | some r' => s.dropSender r'
  { s' with pendingRequests := s.pendingRequests.insert requestId r }

/-- `pending_requests.remove(&request_id)`, and the sender with it. -/
def removePending (s : Relay) (requestId : String) : Relay :=
  match s.pendingRequests.lookup requestId with
  | none => s
  | some r =>
      { s.dropSender r with pendingRequests := s.pendingRequests.erase requestId }

/-! ### Sockets -/

/-- A client connects to `/register/:id`, and asks for the guard of its
    registration. -/
def connect (s : Relay) (id : String) : Option Relay :=
  some { s with
    sockets := s.sockets ++ [{ id := id, pc := .registering, deaf := false, queue := [] }]
    lock := s.lock.request (.socket s.sockets.length) .write }

/-- `tunnels.lock().await.insert(id.clone(), tx_to_tunnel)` -/
def enlist (s : Relay) (n : Nat) : Option Relay :=
  match s.sockets[n]? with
  | none => none
  | some x =>
      if x.pc = .registering ∧ s.lock.Holds (.socket n) .write then
        some { s.moveSocket n x .looping with
          tunnels := s.tunnels.insert x.id n
          lock := s.lock.release (.socket n) .write
          registrations := n :: s.registrations }
      else none

/-- `rx_from_proxy.recv()` gives a message. -/
def take (s : Relay) (n : Nat) : Option Relay :=
  match s.sockets[n]? with
  | none => none
  | some x => match x.pc, x.queue with
    | .looping, msg :: rest => some (s.setSocket n { x with pc := .pushing msg, queue := rest })
    | _, _ => none

/-- The loop is left; the guard of the removal is asked for. -/
def leaveLoop (s : Relay) (n : Nat) (x : Socket) : Relay :=
  { s.moveSocket n x .leaving with lock := s.lock.request (.socket n) .write }

/-- `socket.send(..).await` comes back, and the next iteration starts with
    both branches. -/
def pushed (s : Relay) (n : Nat) (ok : Bool) : Option Relay :=
  match s.sockets[n]? with
  | none => none
  | some x => match x.pc with
    | .pushing _ =>
        if ok then some (s.setSocket n { x with pc := .looping, deaf := false })
        else some (s.leaveLoop n x)
    | _ => none

/-- The task of a socket panics. -/
def crash (s : Relay) (n : Nat) (x : Socket) : Relay :=
  s.setSocket n { x with pc := .crashed, queue := [] }

/-- A response for request `r`, whose sender has been taken out. -/
def deliver (C : Http.Crate) (s : Relay) (n : Nat) (x : Socket) (r : Nat) (status : UInt16)
    (headers : List (String × String)) (body : List UInt8) : Relay :=
  match buildResponse C status headers body with
  -- The sender goes with the task.
  | none => (s.dropSender r).crash n x
  | some res => s.answerRequest r res

/-- `socket.next()` gives a message. -/
def receive (E : Env) (s : Relay) (n : Nat) (m : Message) : Option Relay :=
  match s.sockets[n]? with
  | none => none
  | some x =>
      if x.pc = .looping ∧ x.deaf = false then
        match m with
        | .text t => match E.fromStr t with
          | some (.response requestId status headers body) =>
              match s.pendingRequests.lookup requestId with
              | none => some s
              | some r => some (deliver E.crate
                  { s with pendingRequests := s.pendingRequests.erase requestId } n x r status
                    headers body)
          | _ => some s
        | _ => some s
      else none

/-- `socket.next()` gives an error or nothing. Neither matches `Some(Ok(msg))`,
    so the branch is disabled and the loop waits for the queue. -/
def fail (s : Relay) (n : Nat) : Option Relay :=
  match s.sockets[n]? with
  | none => none
  | some x =>
      if x.pc = .looping ∧ x.deaf = false then some (s.setSocket n { x with deaf := true })
      else none

/-- A sender of the socket's queue is in `tunnels` or with a handler. -/
def hasSender (s : Relay) (n : Nat) : Bool :=
  s.tunnels.entries.any (fun e => e.2 == n) ||
    s.requests.any (fun q => q.pc.call.map Call.tx == some n)

/-- `else => break`: the queue is closed, too. -/
def hangUp (s : Relay) (n : Nat) : Option Relay :=
  match s.sockets[n]? with
  | none => none
  | some x =>
      if x.pc = .looping ∧ x.deaf = true ∧ x.queue = [] ∧ s.hasSender n = false then
        some (s.leaveLoop n x)
      else none

/-- `tunnels.lock().await.remove(&id)`, after which `handle_socket` returns. -/
def remove (s : Relay) (n : Nat) : Option Relay :=
  match s.sockets[n]? with
  | none => none
  | some x =>
      if x.pc = .leaving ∧ s.lock.Holds (.socket n) .write then
        -- By id alone, whoever's sender is there now.
        some { s.setSocket n { x with pc := .closed, queue := [] } with
          tunnels := s.tunnels.erase x.id
          lock := s.lock.release (.socket n) .write }
      else none

/-! ### Requests -/

/-- A request comes in. With a host it asks for the guard of `tunnels`,
    without one it goes to the fallback as it is. -/
def arrive (s : Relay) (req : Incoming) : Option Relay :=
  match subdomainOf req.headers with
  | none => some { s with
      requests := s.requests ++ [{ req := req, pc := .falling none req, answer := .empty }] }
  | some subdomain => some { s with
      requests := s.requests ++ [{ req := req, pc := .looking subdomain, answer := .empty }]
      lock := s.lock.request (.request s.requests.length) .write }

/-- `if let Some(tunnel_sender) = tunnels.lock().await.get(subdomain).cloned()`.
    The guard stays for the body of the `if let`. -/
def look (s : Relay) (r : Nat) (requestId : String) : Option Relay :=
  match s.requests[r]? with
  | none => none
  | some q => match q.pc with
    | .looking subdomain =>
        if s.lock.Holds (.request r) .write then
          match s.tunnels.lookup subdomain with
          | some tx => some (s.moveRequest r q
              (.enrolling { subdomain := subdomain, tx := tx, requestId := requestId }) s.lock)
          -- Without a match the guard goes before the fallback.
          | none => some (s.moveRequest r q (.falling none q.req)
              (s.lock.release (.request r) .write))
        else none
    | _ => none

/-- `pending_requests.lock().await.insert(request_id.clone(), response_tx)` -/
def enroll (s : Relay) (r : Nat) : Option Relay :=
  match s.requests[r]? with
  | none => none
  | some q => match q.pc with
    | .enrolling c =>
        some ((s.setRequest r { q with pc := .reading c }).insertPending c.requestId r)
    | _ => none

/-- The handler panics; its guard is dropped. -/
def crashRequest (s : Relay) (r : Nat) (q : Request) : Relay :=
  s.moveRequest r q .crashed (s.lock.abandon (.request r))

/-- `hyper::body::to_bytes(body).await`, and the message for the tunnel. -/
def readBody (s : Relay) (r : Nat) : Option Relay :=
  match s.requests[r]? with
  | none => none
  | some q => match q.pc with
    | .reading c => match q.req.body with
      -- The entry in `pending_requests` stays.
      | .broken => some (s.moveRequest r q (.falling (some c) q.req.emptied) s.lock)
      | .bytes body => match requestMessage q.req c.requestId body with
        | none => some (s.crashRequest r q)
        | some msg => some (s.moveRequest r q (.sending c msg) s.lock)
    | _ => none

/-- The capacity of a tunnel's queue. -/
def queueCapacity : Nat := 100

/-- `tunnel_sender.send(control_message).await`: waits for room, and fails
    once the socket's task has ended. -/
def send (s : Relay) (r : Nat) : Option Relay :=
  match s.requests[r]? with
  | none => none
  | some q => match q.pc with
    | .sending c msg => match s.sockets[c.tx]? with
      | none => none
      | some x =>
          if x.pc.Alive then
            if x.queue.length < queueCapacity then
              some ((s.setSocket c.tx { x with queue := x.queue ++ [msg] }).setRequest r
                { q with pc := .waiting c })
            else none
          else some (s.moveRequest r q (.discarding c) s.lock)
    | _ => none

/-- `response_rx.recv().await` -/
def recv (s : Relay) (r : Nat) : Option Relay :=
  match s.requests[r]? with
  | none => none
  | some q => match q.pc, q.answer with
    | .waiting _, .sent res => some (s.moveRequest r q (.returned (.tunnel res))
        (s.lock.release (.request r) .write))
    | .waiting c, .senderDropped => some (s.moveRequest r q (.discarding c) s.lock)
    | _, _ => none

/-- `pending_requests.lock().await.remove(&request_id)` of a failed call, and
    the request that is left of it. The guard of `tunnels` is still alive. -/
def discard (s : Relay) (r : Nat) : Option Relay :=
  match s.requests[r]? with
  | none => none
  | some q => match q.pc with
    | .discarding c =>
        some ((s.setRequest r { q with pc := .falling (some c) q.req.emptied }).removePending
          c.requestId)
    | _ => none

/-- `forward_to_fallback` comes back. -/
def fallbackReply (s : Relay) (r : Nat) (ok : Bool) : Option Relay :=
  match s.requests[r]? with
  | none => none
  | some q => match q.pc with
    | .falling none _ => some (s.moveRequest r q (.returned (.fallback ok)) s.lock)
    | .falling (some _) _ => some (s.moveRequest r q (.returned (.fallback ok))
        (s.lock.release (.request r) .write))
    | _ => none

/-- The HTTP client goes away and its handler is dropped. -/
def cancel (s : Relay) (r : Nat) : Option Relay :=
  match s.requests[r]? with
  | none => none
  | some q =>
      if q.pc.Running then some (s.moveRequest r q .dropped (s.lock.abandon (.request r)))
      else none

/-- One action of one task. -/
def step (E : Env) (s : Relay) : Action → Option Relay
  | .connect id => s.connect id
  | .enlist n => s.enlist n
  | .take n => s.take n
  | .pushed n ok => s.pushed n ok
  | .receive n m => receive E s n m
  | .fail n => s.fail n
  | .hangUp n => s.hangUp n
  | .remove n => s.remove n
  | .arrive req => s.arrive req
  | .look r requestId => s.look r requestId
  | .enroll r => s.enroll r
  | .readBody r => s.readBody r
  | .send r => s.send r
  | .recv r => s.recv r
  | .discard r => s.discard r
  | .fallbackReply r ok => s.fallbackReply r ok
  | .cancel r => s.cancel r

end Relay

end Prototype

end Rathole
