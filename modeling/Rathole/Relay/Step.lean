import Rathole.Relay.ForwardedResponse

/-!
# The Relay's Tasks

Each action of the relay as a partial function on its state, in the order of
the source: `handle_socket`, the two request handlers, the cleanup task. An
action is possible when its task stands at the await the action completes,
and, where that await is for a guard of `tunnels`, when the guard has been
granted.

## Main definitions

* `Relay.opened`, `Relay.received`: A socket's messages.
* `Relay.callTunnel`: Both handlers' way from a sender to a waiting oneshot.
* `Relay.resolve`, `Relay.expire`, `Relay.discard`: The end of a wait.
* `Relay.step`: One action of one task.
-/

namespace Rathole

open FairLock Proxy

namespace Relay

/-! ### Sockets -/

/-- A client connects to `/register/{id}`. -/
def upgrade (s : Relay) (id : String) : Option Relay :=
  some { s with sockets := s.sockets ++
    [{ id := id, pc := .opened, registered := false, queue := [], armed := s.now }] }

/-- Where the first message takes a socket: text that does not parse returns
    from `handle_socket` at once, anything else but an accepted `Register`
    goes on to the end of the function. -/
def firstPc (env : Env) : Received → SocketPc
  | .message (.text t) => match env.fromStr t with
    -- A `return`, so the cleanup task does not hear of this socket.
    | none => .closed
    -- A token that does not decode leaves the `if let` for the end of the function.
    | some (.register token _) => if env.decode token then .onlining else .leaving
    | some _ => .leaving
  | _ => .leaving

/-- The first message of a socket. -/
def first (env : Env) (s : Relay) (n : Nat) (m : Received) : Option Relay :=
  match s.sockets[n]? with
  | none => none
  | some x =>
      -- `registered` remembers that the token decoded, when `pc` has moved on.
      if x.pc = .opened then some (s.setSocket n { x with
        pc := firstPc env m, registered := firstPc env m = .onlining })
      else none

/-- Redis has the tunnel marked online; an error is unwrapped. -/
def online (s : Relay) (n : Nat) (ok : Bool) : Option Relay :=
  match s.sockets[n]? with
  | none => none
  | some x =>
      if x.pc = .onlining then
        if ok then some { s.setSocket n { x with pc := .enlisting } with
          lock := s.lock.request (.socket n) .write }
        else some { s with aborted := true }
      else none

/-- `state.tunnels.write().await.insert(id.clone(), tx)` -/
def enlist (s : Relay) (n : Nat) : Option Relay :=
  match s.sockets[n]? with
  | none => none
  | some x =>
      if x.pc = .enlisting ∧ ¬ s.lock.Waits (.socket n) then
        some { s.setSocket n { x with pc := .looping, armed := s.now } with
          -- An older socket of the same id is replaced, and runs on.
          tunnels := s.tunnels.insert x.id n
          lock := s.lock.release (.socket n) .write }
      else none

/-- The loop takes a message off the queue. -/
def forward (s : Relay) (n : Nat) : Option Relay :=
  match s.sockets[n]? with
  | none => none
  | some x =>
      match x.pc, x.queue with
      | .looping, msg :: rest => some (s.setSocket n { x with pc := .pushing msg, queue := rest })
      | _, _ => none

/-- The socket breaks out of its loop; the receiver of its queue goes. -/
def leaveLoop (s : Relay) (n : Nat) (x : Socket) : Relay :=
  s.setSocket n { x with pc := .leaving, queue := [] }

/-- `socket.send(msg).await` comes back. -/
def pushed (s : Relay) (n : Nat) (ok : Bool) : Option Relay :=
  match s.sockets[n]? with
  | none => none
  | some x =>
      match x.pc with
      | .pushing _ =>
          if ok then some (s.setSocket n { x with pc := .looping, armed := s.now })
          else some (s.leaveLoop n x)
      | _ => none

/-- The sender of a oneshot is dropped. -/
def dropSender (s : Relay) (r : Nat) : Relay :=
  match s.requests[r]? with
  | none => s
  | some q => if q.answer = .empty then s.setRequest r { q with answer := .senderDropped } else s

/-- `tx.send(http)`; an error if the receiver is gone, and then ignored. -/
def answerRequest (s : Relay) (r : Nat) (http : HttpResponse) : Relay :=
  match s.requests[r]? with
  | none => s
  | some q =>
      if q.answer = .empty ∧ q.Listening then s.setRequest r { q with answer := .sent http } else s

/-- `state.responses.write().await.remove(&request_id)`, and the sender with
    it. -/
def removeResponse (s : Relay) (requestId : String) : Relay :=
  match s.responses.lookup requestId with
  | none => s
  | some r => { s.dropSender r with responses := s.responses.erase requestId }

/-- What the loop does with a parsed message of tunnel `id`; `none` is a
    panic. -/
def received (env : Env) (s : Relay) (id : String) : ControlMessage → Option Relay
  | .healthUpdate d _ => match handleHardwareData binary32 env.overflowChecks d 85 with
    | none => none
    | some status => some { s with health := healthUpdate s.health s.now id status }
  | .response requestId http => match s.responses.lookup requestId with
    -- Nobody waits for this response.
    | none => some s
    | some r => some { s.answerRequest r http with responses := s.responses.erase requestId }
  | _ => some s

/-- `socket.recv()` comes back inside the loop: a message, after which the
    next iteration starts, or a reason to leave. -/
def receive (env : Env) (s : Relay) (n : Nat) (m : Received) : Option Relay :=
  match s.sockets[n]? with
  | none => none
  | some x =>
      if x.pc = .looping then
        let s' := s.setSocket n { x with armed := s.now }
        match m with
        | .message (.text t) => match env.fromStr t with
          -- Text that does not parse is skipped inside the loop.
          | none => some s'
          | some msg => match received env s' x.id msg with
            | none => some { s with aborted := true }
            | some t => some t
        -- Other messages only start the timeout anew.
        | .message _ => some s'
        | .error => some (s.leaveLoop n x)
        | .closed => some (s.leaveLoop n x)
      else none

/-- How long the loop waits for the client. -/
def idleTimeout : Nat := seconds 30

/-- `timeout(StdDuration::from_secs(30), socket.recv())` runs out. -/
def idle (s : Relay) (n : Nat) : Option Relay :=
  match s.sockets[n]? with
  | none => none
  | some x =>
      if x.pc = .looping ∧ x.armed + idleTimeout ≤ s.now then some (s.leaveLoop n x) else none

/-- The capacity of the cleanup queue and of every tunnel's queue. -/
def queueCapacity : Nat := 100

/-- `cleanup_tx.send(id).await`, after which `handle_socket` returns. -/
def report (s : Relay) (n : Nat) : Option Relay :=
  match s.sockets[n]? with
  | none => none
  | some x =>
      -- A full queue keeps the socket here; its table entry stays meanwhile.
      if x.pc = .leaving ∧ s.cleanupQueue.length < queueCapacity then
        some { s.setSocket n { x with pc := .closed } with
          cleanupQueue := s.cleanupQueue ++ [(n, x.id)] }
      else none

/-! ### Requests -/

/-- A handler returns; a guard that is still alive goes with it. -/
def finish (s : Relay) (r : Nat) (q : Request) (held : Bool) (o : Outcome) : Relay :=
  s.moveRequest r q (.returned o) (if held then s.lock.release (.request r) .read else s.lock)

/-- A request comes in. `tunnel` starts by printing the keys of the table,
    `proxy_handler` by looking for its cookie. -/
def arrive (s : Relay) (entry : Entry) (method path : String) (headers : HeaderMap)
    (body : List UInt8) : Option Relay :=
  let pc : RequestPc := match entry with
    | .tunnel _ => .listing
    | .proxy => match getCookieValue headers "tunnel" with
      | some prefId => .preferring prefId
      | none => .choosing
  some { s with
    requests := s.requests ++ [{
      entry := entry
      method := method
      path := path
      headers := headers
      body := body
      pc := pc
      answer := .empty }]
    lock := s.lock.request (.request s.requests.length) .read }

/-- The handler has its guard of `tunnels`. -/
def granted (s : Relay) (r : Nat) : Prop := ¬ s.lock.Waits (.request r)

instance (s : Relay) (r : Nat) : Decidable (s.granted r) := by
  unfold granted
  infer_instance

/-- The keys are printed and the guard goes; ask for the one of the lookup. -/
def list (s : Relay) (r : Nat) : Option Relay :=
  match s.requests[r]? with
  | none => none
  | some q =>
      -- The guard of the keys goes before the one of the lookup is asked for.
      if q.pc = .listing ∧ s.granted r then
        some (s.moveRequest r q .finding
          ((s.lock.release (.request r) .read).request (.request r) .read))
      else none

/-- `if let Some(tx) = state.tunnels.read().await.get(&id)` of `tunnel`. The
    guard stays alive for the whole body. -/
def find (s : Relay) (r : Nat) (requestId : String) : Option Relay :=
  match s.requests[r]? with
  | none => none
  | some q =>
      match q.entry with
      | .proxy => none
      | .tunnel id =>
          if q.pc = .finding ∧ s.granted r then
            match s.tunnels.lookup id with
            | some tx =>
                let c : Call := { id := id, tx := tx, requestId := requestId, held := true }
                some (s.moveRequest r q (.enrolling c) s.lock)
            -- The guard of the scrutinee lives to the end of the `else`.
            | none => some (s.finish r q true (.error .tunnelNotFound))
          else none

/-- Ask for the guard of `choose_best_tunnel`. -/
def startChoosing (s : Relay) (r : Nat) (q : Request) (lock : RwLock Task) : Relay :=
  s.moveRequest r q .choosing (lock.request (.request r) .read)

/-- `if let Some(tx) = state.tunnels.read().await.get(&pref_id).cloned()` of
    `proxy_handler`. -/
def prefer (s : Relay) (r : Nat) : Option Relay :=
  match s.requests[r]? with
  | none => none
  | some q =>
      match q.pc with
      | .preferring prefId =>
          if s.granted r then
            match s.tunnels.lookup prefId with
            | some tx => some (s.moveRequest r q (.checkingPreferred prefId tx) s.lock)
            | none => some (s.startChoosing r q (s.lock.release (.request r) .read))
          else none
      | _ => none

/-- The preferred tunnel's health; the guard of `prefer` is still alive, and
    stays so if the tunnel is used. -/
def checkPreferred (s : Relay) (r : Nat) (requestId : String) : Option Relay :=
  match s.requests[r]? with
  | none => none
  | some q =>
      match q.pc with
      | .checkingPreferred prefId tx =>
          let c : Call := { id := prefId, tx := tx, requestId := requestId, held := true }
          if healthy s.health s.now prefId then some (s.moveRequest r q (.enrolling c) s.lock)
          else some (s.startChoosing r q (s.lock.release (.request r) .read))
      | _ => none

/-- `choose_best_tunnel` has the guard of `tunnels`; next that of
    `health_data`. -/
def choose (s : Relay) (r : Nat) : Option Relay :=
  match s.requests[r]? with
  | none => none
  | some q =>
      if q.pc = .choosing ∧ s.granted r then some (s.moveRequest r q .ranking s.lock)
      else none

/-- `choose_best_tunnel` ranks the candidates and drops both guards. -/
def rank (s : Relay) (r : Nat) : Option Relay :=
  match s.requests[r]? with
  | none => none
  | some q =>
      if q.pc = .ranking then
        -- Nothing is awaited between the two guards and their end.
        let pc : RequestPc := match chooseBestTunnel s.tunnels s.health (subdomainOf q.headers) with
          | some (chosenId, tx) => .checkingChosen chosenId tx
          | none => .cloud
        some (s.moveRequest r q pc (s.lock.release (.request r) .read))
      else none

/-- The chosen tunnel's health. -/
def checkChosen (s : Relay) (r : Nat) (requestId : String) : Option Relay :=
  match s.requests[r]? with
  | none => none
  | some q =>
      match q.pc with
      | .checkingChosen chosenId tx =>
          let c : Call := { id := chosenId, tx := tx, requestId := requestId, held := false }
          if healthy s.health s.now chosenId then some (s.moveRequest r q (.enrolling c) s.lock)
          else some (s.moveRequest r q .cloud s.lock)
      | _ => none

/-- The headers `tunnel` passes on; every value is unwrapped as a string. -/
def headersUnwrapped (headers : HeaderMap) : Option (List (String × String)) :=
  headers.mapM (fun h => (toStr h.2).map (fun v => (h.1, v)))

/-- `headers_to_map`: the headers `proxy_handler` passes on, without those
    that are no strings. -/
def headersToMap (headers : HeaderMap) : List (String × String) :=
  headers.filterMap (fun h => (toStr h.2).map (fun v => (h.1, v)))

/-- `state.responses.write().await.insert(request_id, res_tx)`. A sender that
    was under the same id is dropped. -/
def insertResponse (s : Relay) (requestId : String) (r : Nat) : Relay :=
  let s' := match s.responses.lookup requestId with
    | none => s
    | some r' => if r' = r then s else s.dropSender r'
  { s' with responses := s.responses.insert requestId r }

/-- The oneshot's sender goes into `responses`. `tunnel` builds its message
    at once and panics on a header that is no string, `forward_via_tunnel`
    reads the body of the request first. -/
def enroll (s : Relay) (r : Nat) : Option Relay :=
  match s.requests[r]? with
  | none => none
  | some q =>
      match q.pc with
      | .enrolling c =>
          match q.entry with
          | .proxy => some ((s.insertResponse c.requestId r).setRequest r
              { q with pc := .reading c })
          | .tunnel _ => match headersUnwrapped q.headers with
            | none => some { s with aborted := true }
            | some _ => some ((s.insertResponse c.requestId r).setRequest r
                { q with pc := .sending c })
      | _ => none

/-- `to_bytes(body, usize::MAX).await` of `forward_via_tunnel`. -/
def readBody (s : Relay) (r : Nat) (ok : Bool) : Option Relay :=
  match s.requests[r]? with
  | none => none
  | some q =>
      match q.pc with
      | .reading c =>
          if ok then some (s.moveRequest r q (.sending c) s.lock)
          else some (s.finish r q c.held (.status .badRequest))
      | _ => none

/-- The message a request travels in. -/
def requestMessage (q : Request) (c : Call) : ControlMessage :=
  .request c.requestId { method := q.method, path := q.path, body := q.body, headers :=
    match q.entry with
    | .tunnel _ => (headersUnwrapped q.headers).getD []
    | .proxy => headersToMap q.headers }

/-- A request failed on its way through a tunnel: `tunnel` returns at once,
    `forward_via_tunnel` has something left to do. -/
def failCall (s : Relay) (r : Nat) (q : Request) (c : Call) (e : AppError) (code : StatusCode) :
    Relay :=
  match q.entry with
  | .tunnel _ => s.finish r q c.held (.error e)
  | .proxy => s.moveRequest r q (.failing c code) s.lock

/-- `forward_via_tunnel` takes the entry of a failed call out of `responses`
    and counts the failure. -/
def discard (s : Relay) (r : Nat) : Option Relay :=
  match s.requests[r]? with
  | none => none
  | some q =>
      match q.pc with
      | .failing c code =>
          -- The entry is taken by its id, whatever request it belongs to now.
          some { (s.finish r q c.held (.status code)).removeResponse c.requestId with
            health := markTunnelFailure s.health s.now c.id }
      | _ => none

/-- `tx.send(msg).await`: waits for room, and fails once the socket has left
    its loop. Then the handler waits for its oneshot. -/
def send (s : Relay) (r : Nat) : Option Relay :=
  match s.requests[r]? with
  | none => none
  | some q =>
      match q.pc with
      | .sending c =>
          match s.sockets[c.tx]? with
          | none => none
          | some x =>
              -- The receiver lives as long as the loop.
              if x.InLoop then
                if x.queue.length < queueCapacity then
                  some ((s.setSocket c.tx { x with
                    queue := x.queue ++ [requestMessage q c] }).setRequest r
                      { q with pc := .waiting c s.now })
                else none
              else some (s.failCall r q c .tunnelSendError .badGateway)
      | _ => none

/-- Milliseconds between two instants. -/
def latencyMs (since now : Nat) : ℚ := ((now - since : Nat) : ℚ) / 1000000

/-- The oneshot of a waiting handler completes. -/
def resolve (env : Env) (s : Relay) (r : Nat) : Option Relay :=
  match s.requests[r]? with
  | none => none
  | some q =>
      match q.pc, q.answer with
      | .waiting c _, .senderDropped =>
          some (s.failCall r q c .tunnelResponseError .badGateway)
      | .waiting c since, .sent res =>
          match q.entry with
          | .tunnel _ => some (s.finish r q c.held (tunnelOutcome env res))
          | .proxy => match proxyOutcome env c.id res with
            | none => some { s with aborted := true }
            | some o => some { s.finish r q c.held o with
                health := markTunnelSuccess s.health s.now c.id (some (latencyMs since s.now)) }
      | _, _ => none

/-- `request_timeout` -/
def requestTimeout : Nat := seconds 10

/-- The wait of `forward_via_tunnel` times out; that of `tunnel` never does. -/
def expire (s : Relay) (r : Nat) : Option Relay :=
  match s.requests[r]? with
  | none => none
  | some q =>
      match q.pc, q.entry, q.answer with
      | .waiting c since, .proxy, .empty =>
          -- An answer that is there wins over the timeout.
          if since + requestTimeout ≤ s.now then
            some (s.failCall r q c .tunnelResponseError .gatewayTimeout)
          else none
      | _, _, _ => none

/-- `forward_to_cloud` comes back. Its client reads a hundred headers at most,
    so there is room for the cookies. -/
def cloudReply (s : Relay) (r : Nat) (failure : Option StatusCode) : Option Relay :=
  match s.requests[r]? with
  | none => none
  | some q =>
      if q.pc = .cloud then
        match failure with
        | some code => some (s.finish r q false (.status code))
        | none => some (s.finish r q false .cloud)
      else none

/-- The HTTP client goes away and the server drops its handler, with every
    guard and every request for one. -/
def cancel (s : Relay) (r : Nat) : Option Relay :=
  match s.requests[r]? with
  | none => none
  | some q =>
      -- Nothing takes the entry out of `responses`.
      if q.Running then
        some (s.moveRequest r q .dropped (s.lock.abandon (.request r)))
      else none

/-! ### The cleanup task -/

/-- `cleanup_rx.recv().await` -/
def cleanupTake (s : Relay) : Option Relay :=
  match s.cleanup, s.cleanupQueue with
  | .idle, (n, id) :: rest => some { s with cleanup := .offlining n id, cleanupQueue := rest }
  | _, _ => none

/-- Redis has the tunnel marked offline; an error is unwrapped. -/
def cleanupOffline (s : Relay) (ok : Bool) : Option Relay :=
  match s.cleanup with
  | .offlining n id =>
      if ok then some { s with
        cleanup := .removing n id, lock := s.lock.request .cleanup .write }
      else some { s with aborted := true }
  | _ => none

/-- `state_clone.tunnels.write().await.remove(&id)` -/
def cleanupRemove (s : Relay) : Option Relay :=
  match s.cleanup with
  -- By id alone: a newer socket under the same id loses its entry too.
  | .removing _ id =>
      if s.lock.Waits .cleanup then none
      else some { s with
        cleanup := .idle
        tunnels := s.tunnels.erase id
        lock := s.lock.release .cleanup .write }
  | _ => none

/-- Time passes. -/
def elapse (s : Relay) (d : Nat) : Option Relay := some { s with now := s.now + d }

/-- An action of a task of a relay that has not aborted. -/
def act (env : Env) (s : Relay) : Action → Option Relay
  | .upgrade id => s.upgrade id
  | .first n m => first env s n m
  | .online n ok => s.online n ok
  | .enlist n => s.enlist n
  | .forward n => s.forward n
  | .pushed n ok => s.pushed n ok
  | .receive n m => receive env s n m
  | .idle n => s.idle n
  | .report n => s.report n
  | .arrive entry method path headers body => s.arrive entry method path headers body
  | .list r => s.list r
  | .find r requestId => s.find r requestId
  | .prefer r => s.prefer r
  | .checkPreferred r requestId => s.checkPreferred r requestId
  | .choose r => s.choose r
  | .rank r => s.rank r
  | .checkChosen r requestId => s.checkChosen r requestId
  | .enroll r => s.enroll r
  | .readBody r ok => s.readBody r ok
  | .send r => s.send r
  | .resolve r => resolve env s r
  | .expire r => s.expire r
  | .discard r => s.discard r
  | .cloudReply r failure => s.cloudReply r failure
  | .cancel r => s.cancel r
  | .cleanupTake => s.cleanupTake
  | .cleanupOffline ok => s.cleanupOffline ok
  | .cleanupRemove => s.cleanupRemove
  | .elapse d => s.elapse d

/-- One action of one task. -/
def step (env : Env) (s : Relay) (a : Action) : Option Relay :=
  if s.aborted then none else act env s a

end Relay

end Rathole
