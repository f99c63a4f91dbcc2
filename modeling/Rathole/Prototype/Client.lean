import Rathole.Lib.Numbered
import Rathole.Prototype.Message
import Rathole.Relay.ClientLoop

/-!
# The Prototype Client

The tunnel client of the crate `client`. Its `main` spawns a task for each
request, which builds the request for the backend, sends it, reads the
response to its end and hands an answer to the write task through a channel
with room for 100. The write task also sends the health messages.

A backend that cannot be reached is answered for with status 502. Everything
else that goes wrong with a request is a panic of its task, which ends without
having handed over anything, and the relay waits for its answer in vain.

## Main definitions

* `requestBuilder`: The request for the backend.
* `Client`: The tasks, the channel and the write task.
* `Client.step`: One action.
* `Client.Answering`: A task that has ended has handed over one response.
* `Client.Smooth`: The actions no task panics at.

## Theorems

* `requestBuilder_ok_iff`: When the request can be built.
* `answering_of_step_iff`: What one step preserves.
* `work_decreases`, `own_of_unfinished`: The client goes on until all its tasks
  have ended.
* `handed_once_iff`: Runs in which every task hands over one response.
* `latin1_header_unanswered`: A request that is not answered.
-/

namespace Rathole

namespace Prototype

open Completion Http Numbered Proxy Rathole.Relay Transition

/-- What the client is started with: the backend, and the libraries. -/
structure ClientEnv where
  targetUrl : String
  fromStr : String → Option ControlMessage
  method : String → Bool
  uri : String → Bool
  crate : Http.Crate

/-- Where a task panics over a request. -/
inductive TaskUnwrap
  | method
  | uri
  | headerName
  | headerValue
  | insert
deriving DecidableEq, Repr

/-- A task panics over a name or value that is refused. -/
def TaskUnwrap.refusal : Refusal TaskUnwrap where
  name := .panic .headerName
  value := .panic .headerValue
  full := .insert

/-- A request for the backend. -/
structure Outgoing where
  method : String
  uri : String
  headers : HeaderMap
  body : List UInt8
deriving DecidableEq, Repr

/-- What a `ControlMessage::Request` asks for. -/
structure Asked where
  method : String
  path : String
  headers : List (String × String)
  body : List UInt8
deriving DecidableEq, Repr

/-- `request_builder`, with its headers. -/
def requestBuilder (E : ClientEnv) (asked : Asked) : Completion TaskUnwrap Outgoing := do
  demand (E.method asked.method) (.panic .method)
  demand (E.uri (E.targetUrl ++ asked.path)) (.panic .uri)
  let headers ← insertAll E.crate TaskUnwrap.refusal [] asked.headers
  pure {
    method := asked.method
    uri := E.targetUrl ++ asked.path
    headers := headers
    body := asked.body }

/-- The task of a request, await by await: before its first one, the request at
    the backend, the body of the response, the answer to the write task. -/
inductive TaskPc
  | starting (asked : Asked)
  | requesting (req : Outgoing)
  | collecting (status : UInt16) (headers : HeaderMap)
  | sending (msg : ControlMessage)
  | ended
  | crashed
deriving DecidableEq, Repr

/-- The task of a request, and its await. -/
structure ClientTask where
  requestId : String
  pc : TaskPc
deriving DecidableEq, Repr

/-- The write task: in its `select!`, at a write, after its loop. -/
inductive WriterPc
  | selecting
  | writing (msg : ControlMessage)
  | ended
deriving DecidableEq, Repr

/-- The client. `handed` remembers what got into the channel, and from which
    task. -/
structure Client where
  tasks : List ClientTask
  queue : List ControlMessage
  writer : WriterPc
  handed : List (Nat × ControlMessage)
  returned : Bool
deriving DecidableEq, Repr

/-- What can happen next. -/
inductive ClientAction
  | receive (m : Received)
  | start (n : Nat)
  | reply (n : Nat) (b : BackendReply)
  | collected (n : Nat) (body : Option (List UInt8))
  | hand (n : Nat)
  | take
  | tick
  | written (ok : Bool)
deriving DecidableEq, Repr

/-- `b"Bad Gateway"` -/
def badGateway (requestId : String) : ControlMessage :=
  .response requestId 502 [] (utf8 "Bad Gateway")

/-- The health message of every tick. -/
def healthMessage : ControlMessage := .health 0 0

/-- The capacity of the channel to the write task. -/
def channelCapacity : Nat := 100

/-- The task has neither ended nor panicked. -/
def TaskPc.Unfinished : TaskPc → Prop
  | .ended | .crashed => False
  | _ => True

/-- How much a task still has to do, its message on the way through the write
    task included. -/
def TaskPc.work : TaskPc → Nat
  | .starting _ => 6
  | .requesting _ => 5
  | .collecting _ _ => 4
  | .sending _ => 3
  | .ended | .crashed => 0

/-- The message in the writer's hand. -/
def WriterPc.work : WriterPc → Nat
  | .writing _ => 1
  | .selecting | .ended => 0

/-- The actions by which the client goes on, and the backend, without another
    message or tick, and without an error of the connection. -/
def ClientAction.Own : ClientAction → Prop
  | .receive _ | .tick | .written false => False
  | _ => True

instance (a : ClientAction) : Decidable a.Own :=
  match a with
  | .receive _ | .tick | .written false => isFalse id
  | .start _ | .reply _ _ | .collected _ _ | .hand _ | .take | .written true => isTrue trivial

namespace Client

/-- After `Register` was sent. -/
def start : Client where
  tasks := []
  queue := []
  writer := .selecting
  handed := []
  returned := false

/-- A task gets to its next await. -/
def moveTask (s : Client) (n : Nat) (task : ClientTask) (pc : TaskPc) : Client :=
  { s with tasks := s.tasks.set n { task with pc := pc } }

/-- `tokio::spawn`, with what the request asks for. -/
def spawn (s : Client) (requestId : String) (asked : Asked) : Client :=
  { s with tasks := s.tasks ++ [{ requestId := requestId, pc := .starting asked }] }

variable (E : ClientEnv)

/-- `read.next()` gives something, or nothing, at which `main` returns. -/
def receive (s : Client) : Received → Client
  | .message (.text t) => match E.fromStr t with
    | some (.request requestId method path headers body) => s.spawn requestId
        { method := method, path := path, headers := headers, body := body }
    | _ => s
  | .message _ => s
  -- Only printed.
  | .error => s
  | .closed => { s with returned := true }

/-- A task runs up to its first await. -/
def startTask (s : Client) (n : Nat) : Option Client :=
  match s.tasks[n]? with
  | none => none
  | some task => match task.pc with
    | .starting asked => match requestBuilder E asked with
      | .ok req => some (s.moveTask n task (.requesting req))
      | .error _ => some (s.moveTask n task .crashed)
    | _ => none

/-- `client.request(request_builder).await` -/
def reply (s : Client) (n : Nat) (b : BackendReply) : Option Client :=
  match s.tasks[n]? with
  | none => none
  | some task => match task.pc, b with
    | .requesting _, .response status headers =>
        some (s.moveTask n task (.collecting status headers))
    | .requesting _, .failed => some (s.moveTask n task (.sending (badGateway task.requestId)))
    | _, _ => none

/-- The `ControlMessage::Response` of a task; a panic if the body could not be
    read or a header is no string. -/
def controlResponse (requestId : String) (status : UInt16) (headers : HeaderMap)
    (body : Option (List UInt8)) : Option ControlMessage :=
  body.bind (fun body => (headersUnwrapped headers).map (fun headers =>
    .response requestId status headers body))

/-- `to_bytes(body).await.unwrap()`, and the response. -/
def collect (s : Client) (n : Nat) (body : Option (List UInt8)) : Option Client :=
  match s.tasks[n]? with
  | none => none
  | some task => match task.pc with
    | .collecting status headers =>
        match controlResponse task.requestId status headers body with
        | some msg => some (s.moveTask n task (.sending msg))
        | none => some (s.moveTask n task .crashed)
    | _ => none

/-- `tx.send(..).await`, an error once the write task has ended, and then only
    printed. -/
def hand (s : Client) (n : Nat) : Option Client :=
  match s.tasks[n]? with
  | none => none
  | some task => match task.pc with
    | .sending msg =>
        if s.writer = .ended then some (s.moveTask n task .ended)
        else if s.queue.length < channelCapacity then
          some { s.moveTask n task .ended with
            queue := s.queue ++ [msg]
            handed := s.handed ++ [(n, msg)] }
        else none
    | _ => none

/-- `rx.recv()` gives a message. -/
def take (s : Client) : Option Client :=
  match s.writer, s.queue with
  | .selecting, msg :: rest => some { s with writer := .writing msg, queue := rest }
  | _, _ => none

/-- `health_interval.tick()` -/
def tick (s : Client) : Option Client :=
  match s.writer with
  | .selecting => some { s with writer := .writing healthMessage }
  | _ => none

/-- `write.send(..).await` comes back; after an error the channel goes with the
    task. -/
def written (s : Client) (ok : Bool) : Option Client :=
  match s.writer with
  | .writing _ =>
      if ok then some { s with writer := .selecting }
      else some { s with writer := .ended, queue := [] }
  | _ => none

/-- One action. Nothing runs after `main` has returned. -/
def step (s : Client) (a : ClientAction) : Option Client :=
  if s.returned then none
  else match a with
    | .receive m => some (s.receive E m)
    | .start n => s.startTask E n
    | .reply n b => s.reply n b
    | .collected n body => s.collect n body
    | .hand n => s.hand n
    | .take => s.take
    | .tick => s.tick
    | .written ok => s.written ok

/-- The client and the backend alone. -/
def own (s : Client) (a : ClientAction) : Option Client := if a.Own then s.step E a else none

/-- What the tasks, the channel and the write task still have to do. -/
def work (s : Client) : Nat :=
  (s.tasks.map (fun task => task.pc.work)).sum + 2 * s.queue.length + s.writer.work

/-- The connection to the relay is up. -/
def Up (s : Client) : Prop := s.returned = false ∧ s.writer ≠ .ended

/-- What a task has handed over, in order. -/
def handedBy (s : Client) (n : Nat) : List ControlMessage :=
  (s.handed.filter (fun e => e.1 = n)).map Prod.snd

end Client

/-- The message is the response to the request. -/
def ControlMessage.Answers (msg : ControlMessage) (requestId : String) : Prop :=
  ∃ status headers body, msg = .response requestId status headers body

/-- A task that has ended has handed over one response to its request and
    nothing else; one that has not, nothing. -/
def ClientTask.Answered (task : ClientTask) (handed : List ControlMessage) : Prop :=
  match task.pc with
  | .ended => ∃ msg, handed = [msg] ∧ msg.Answers task.requestId
  | .crashed => False
  | _ => handed = []

/-- The client can make a request for its backend of this. -/
def Asked.Proper (E : ClientEnv) (asked : Asked) : Prop :=
  E.method asked.method = true ∧ E.uri (E.targetUrl ++ asked.path) = true ∧
    asked.headers.all E.crate.valid = true ∧ Fits E.crate [] asked.headers

namespace Client

/-- While the connection is up, every task answers its request. -/
def Answering (s : Client) : Prop :=
  s.Up → ∀ (n : Nat) (task : ClientTask), s.tasks[n]? = some task → task.Answered (s.handedBy n)

/-- A task starts with a proper request, and gets a body that can be read to
    its end and headers that are strings. -/
def Smooth (E : ClientEnv) (s : Client) : ClientAction → Prop
  | .start n => s.Up → ∀ task asked, s.tasks[n]? = some task → task.pc = .starting asked →
      asked.Proper E
  | .collected n body => s.Up → ∀ task status headers, s.tasks[n]? = some task →
      task.pc = .collecting status headers →
      body.isSome = true ∧ ∀ h ∈ headers, h.2.all isVisibleAscii = true
  | _ => True

/-- A task sends the response to its request, and what was handed over is from
    a task there is. -/
structure Ordered (s : Client) : Prop where
  sends : ∀ (n : Nat) (task : ClientTask) (msg : ControlMessage), s.tasks[n]? = some task →
    task.pc = .sending msg → msg.Answers task.requestId
  known : ∀ e ∈ s.handed, e.1 < s.tasks.length

variable {E : ClientEnv} {s t : Client} {a : ClientAction} {n : Nat} {task task' : ClientTask}
  {msg : ControlMessage}

/-! ### Requests and responses -/

theorem requestBuilder_ok_iff {asked : Asked} :
    (∃ req, requestBuilder E asked = .ok req) ↔ asked.Proper E := by
  unfold requestBuilder Asked.Proper
  simp only [bind_eq_ok, demand_eq_ok, insertAll_eq_ok, pure_eq_ok, exists_const]
  constructor
  · rintro ⟨_, hm, hu, _, ⟨hv, hfits, _⟩, _⟩
    exact ⟨hm, hu, hv, hfits⟩
  · rintro ⟨hm, hu, hv, hfits⟩
    exact ⟨_, hm, hu, _, ⟨hv, hfits, rfl⟩, rfl⟩

theorem controlResponse_isSome_iff {requestId : String} {status : UInt16} {headers : HeaderMap}
    {body : Option (List UInt8)} :
    (∃ msg, controlResponse requestId status headers body = some msg) ↔
      body.isSome = true ∧ ∀ h ∈ headers, h.2.all isVisibleAscii = true := by
  rw [← Rathole.TunnelClient.headersUnwrapped_isSome_iff]
  simp only [controlResponse, Option.bind_eq_some_iff, Option.map_eq_some_iff,
    Option.isSome_iff_exists]
  constructor
  · rintro ⟨_, body, rfl, headers, hl, _⟩
    exact ⟨⟨body, rfl⟩, headers, hl⟩
  · rintro ⟨⟨body, rfl⟩, headers, hl⟩
    exact ⟨_, body, rfl, headers, hl, rfl⟩

theorem answers_controlResponse {requestId : String} {status : UInt16} {headers : HeaderMap}
    {body : Option (List UInt8)} (h : controlResponse requestId status headers body = some msg) :
    msg.Answers requestId := by
  simp only [controlResponse, Option.bind_eq_some_iff, Option.map_eq_some_iff] at h
  rcases h with ⟨body, _, headers, _, rfl⟩
  exact ⟨status, headers, body, rfl⟩

theorem answers_badGateway (requestId : String) : (badGateway requestId).Answers requestId :=
  ⟨502, [], _, rfl⟩

/-! ### The ways through an action -/

/-- The ways through the actions, one for each outcome. -/
inductive Rule (E : ClientEnv) (s : Client) : ClientAction → Client → Prop
  | spawned {text requestId : String} {asked : Asked} :
      Rule E s (.receive (.message (.text text))) (s.spawn requestId asked)
  | skipped {m : Received} : Rule E s (.receive m) s
  | closed : Rule E s (.receive .closed) { s with returned := true }
  -- The task of a request
  | started {n : Nat} {task : ClientTask} {asked : Asked} {req : Outgoing}
      (hn : s.tasks[n]? = some task) (hpc : task.pc = .starting asked)
      (hreq : requestBuilder E asked = .ok req) :
      Rule E s (.start n) (s.moveTask n task (.requesting req))
  | notStarted {n : Nat} {task : ClientTask} {asked : Asked} {f : Fault TaskUnwrap}
      (hn : s.tasks[n]? = some task) (hpc : task.pc = .starting asked)
      (hreq : requestBuilder E asked = .error f) :
      Rule E s (.start n) (s.moveTask n task .crashed)
  | replied {n : Nat} {task : ClientTask} {req : Outgoing} {status : UInt16} {headers : HeaderMap}
      (hn : s.tasks[n]? = some task) (hpc : task.pc = .requesting req) :
      Rule E s (.reply n (.response status headers))
        (s.moveTask n task (.collecting status headers))
  | refused {n : Nat} {task : ClientTask} {req : Outgoing} (hn : s.tasks[n]? = some task)
      (hpc : task.pc = .requesting req) :
      Rule E s (.reply n .failed) (s.moveTask n task (.sending (badGateway task.requestId)))
  | collected {n : Nat} {task : ClientTask} {status : UInt16} {headers : HeaderMap}
      {body : Option (List UInt8)} {msg : ControlMessage} (hn : s.tasks[n]? = some task)
      (hpc : task.pc = .collecting status headers)
      (hmsg : controlResponse task.requestId status headers body = some msg) :
      Rule E s (.collected n body) (s.moveTask n task (.sending msg))
  | notCollected {n : Nat} {task : ClientTask} {status : UInt16} {headers : HeaderMap}
      {body : Option (List UInt8)} (hn : s.tasks[n]? = some task)
      (hpc : task.pc = .collecting status headers)
      (hmsg : controlResponse task.requestId status headers body = none) :
      Rule E s (.collected n body) (s.moveTask n task .crashed)
  | handed {n : Nat} {task : ClientTask} {msg : ControlMessage} (hn : s.tasks[n]? = some task)
      (hpc : task.pc = .sending msg) : Rule E s (.hand n) { s.moveTask n task .ended with
        queue := s.queue ++ [msg]
        handed := s.handed ++ [(n, msg)] }
  | notHanded {n : Nat} {task : ClientTask} {msg : ControlMessage} (hn : s.tasks[n]? = some task)
      (hpc : task.pc = .sending msg) (hended : s.writer = .ended) :
      Rule E s (.hand n) (s.moveTask n task .ended)
  -- The write task
  | taken {msg : ControlMessage} {rest : List ControlMessage} (hw : s.writer = .selecting)
      (hqueue : s.queue = msg :: rest) :
      Rule E s .take { s with writer := .writing msg, queue := rest }
  | ticked (hw : s.writer = .selecting) : Rule E s .tick { s with writer := .writing healthMessage }
  | flushed {msg : ControlMessage} (hw : s.writer = .writing msg) :
      Rule E s (.written true) { s with writer := .selecting }
  | broke : Rule E s (.written false) { s with writer := .ended, queue := [] }

theorem rule_receive (m : Received) : Rule E s (.receive m) (s.receive E m) := by
  cases m with
  | error => exact Rule.skipped
  | closed => exact Rule.closed
  | message msg =>
      cases msg with
      | text text =>
          cases hm : E.fromStr text with
          | none =>
              simp only [receive, hm]
              exact Rule.skipped
          | some cm =>
              cases cm with
              | request => simpa only [receive, hm] using Rule.spawned
              | _ =>
                  simp only [receive, hm]
                  exact Rule.skipped
      | _ => exact Rule.skipped

theorem rule_startTask (h : s.startTask E n = some t) : Rule E s (.start n) t := by
  unfold startTask at h
  cases hn : s.tasks[n]? with
  | none => simp only [hn, reduceCtorEq] at h
  | some task =>
      cases hpc : task.pc with
      | starting asked =>
          cases hreq : requestBuilder E asked with
          | ok req =>
              simp only [hn, hpc, hreq, Option.some.injEq] at h
              rw [← h]
              exact Rule.started hn hpc hreq
          | error f =>
              simp only [hn, hpc, hreq, Option.some.injEq] at h
              rw [← h]
              exact Rule.notStarted hn hpc hreq
      | _ => simp only [hn, hpc, reduceCtorEq] at h

theorem rule_reply {b : BackendReply} (h : s.reply n b = some t) : Rule E s (.reply n b) t := by
  unfold reply at h
  cases hn : s.tasks[n]? with
  | none => simp only [hn, reduceCtorEq] at h
  | some task =>
      simp only [hn] at h
      split at h
      case h_1 hpc => exact Option.some.inj h ▸ Rule.replied hn hpc
      case h_2 hpc => exact Option.some.inj h ▸ Rule.refused hn hpc
      case h_3 => simp only [reduceCtorEq] at h

theorem rule_collect {body : Option (List UInt8)} (h : s.collect n body = some t) :
    Rule E s (.collected n body) t := by
  unfold collect at h
  cases hn : s.tasks[n]? with
  | none => simp only [hn, reduceCtorEq] at h
  | some task =>
      cases hpc : task.pc with
      | collecting status headers =>
          cases hmsg : controlResponse task.requestId status headers body with
          | some msg =>
              simp only [hn, hpc, hmsg, Option.some.injEq] at h
              rw [← h]
              exact Rule.collected hn hpc hmsg
          | none =>
              simp only [hn, hpc, hmsg, Option.some.injEq] at h
              rw [← h]
              exact Rule.notCollected hn hpc hmsg
      | _ => simp only [hn, hpc, reduceCtorEq] at h

theorem rule_hand (h : s.hand n = some t) : Rule E s (.hand n) t := by
  unfold hand at h
  cases hn : s.tasks[n]? with
  | none => simp only [hn, reduceCtorEq] at h
  | some task =>
      cases hpc : task.pc with
      | sending msg =>
          simp only [hn, hpc] at h
          by_cases hended : s.writer = .ended
          · rw [if_pos hended, Option.some.injEq] at h
            rw [← h]
            exact Rule.notHanded hn hpc hended
          · rw [if_neg hended, Option.ite_none_right_eq_some, Option.some.injEq] at h
            rw [← h.2]
            exact Rule.handed hn hpc
      | _ => simp only [hn, hpc, reduceCtorEq] at h

theorem rule_take (h : s.take = some t) : Rule E s .take t := by
  unfold take at h
  split at h
  case h_1 msg rest hw hqueue => exact Option.some.inj h ▸ Rule.taken hw hqueue
  case h_2 => simp only [reduceCtorEq] at h

theorem rule_tick (h : s.tick = some t) : Rule E s .tick t := by
  unfold tick at h
  split at h
  case h_1 hw => exact Option.some.inj h ▸ Rule.ticked hw
  case h_2 => simp only [reduceCtorEq] at h

theorem rule_written {ok : Bool} (h : s.written ok = some t) : Rule E s (.written ok) t := by
  unfold written at h
  cases hw : s.writer with
  | writing msg =>
      cases ok with
      | true =>
          simp only [hw, if_true, Option.some.injEq] at h
          rw [← h]
          exact Rule.flushed hw
      | false =>
          simp only [hw, Bool.false_eq_true, if_false, Option.some.injEq] at h
          rw [← h]
          exact Rule.broke
  | _ => simp only [hw, reduceCtorEq] at h

/-- Every step goes by one of the rules, before `main` has returned. -/
theorem rule_of_step (h : step E s a = some t) : s.returned = false ∧ Rule E s a t := by
  unfold step at h
  cases hret : s.returned with
  | true => simp only [hret, if_true, reduceCtorEq] at h
  | false =>
      simp only [hret, Bool.false_eq_true, if_false] at h
      refine ⟨rfl, ?_⟩
      cases a with
      | receive m => exact Option.some.inj h ▸ rule_receive m
      | start n => exact rule_startTask h
      | reply n b => exact rule_reply h
      | collected n body => exact rule_collect h
      | hand n => exact rule_hand h
      | take => exact rule_take h
      | tick => exact rule_tick h
      | written ok => exact rule_written h

/-! ### One action -/

/-- A connection that is up was up before. -/
theorem up_of_step (h : step E s a = some t) (hup : t.Up) : s.Up := by
  rcases rule_of_step h with ⟨hret, hrule⟩
  refine ⟨hret, fun hended => hup.2 ?_⟩
  cases hrule with
  | taken hw | ticked hw | flushed hw =>
      rw [hw] at hended
      simp only [reduceCtorEq] at hended
  | broke => rfl
  | _ => exact hended

theorem up_of_own (hown : a.Own) (h : step E s a = some t) (hup : s.Up) : t.Up := by
  cases (rule_of_step h).2 with
  | spawned | skipped | closed | ticked | broke => exact hown.elim
  | taken | flushed =>
      exact ⟨hup.1, fun hended => by simp only [reduceCtorEq] at hended⟩
  | _ => exact hup

theorem ordered_start : start.Ordered where
  sends := fun n task msg hn => by simp only [start, List.getElem?_nil, reduceCtorEq] at hn
  known := fun e he => by simp only [start, List.not_mem_nil] at he

/-- One task moves. -/
theorem Ordered.of_move (h : s.Ordered) {pc : TaskPc}
    (htasks : t.tasks = s.tasks.set n { task with pc := pc })
    (hsends : ∀ msg, pc = .sending msg → msg.Answers task.requestId)
    (hhanded : ∀ e ∈ t.handed, e ∈ s.handed ∨ e.1 < s.tasks.length) : t.Ordered where
  sends := by
    intro m task' msg hm hpc
    rw [htasks] at hm
    rcases getElem?_set_cases hm with ⟨_, rfl⟩ | ⟨_, hold⟩
    · exact hsends msg hpc
    · exact h.sends m task' msg hold hpc
  known := by
    intro e he
    rw [htasks, List.length_set]
    exact (hhanded e he).elim (h.known e) id

theorem ordered_of_step (h : s.Ordered) (hst : step E s a = some t) : t.Ordered := by
  have hquiet : ∀ {pc : TaskPc}, (∀ msg, pc ≠ .sending msg) →
      ∀ {requestId : String} (msg : ControlMessage), pc = .sending msg → msg.Answers requestId :=
    fun hne _ msg hpc => absurd hpc (hne msg)
  cases (rule_of_step hst).2 with
  | @spawned text requestId asked =>
      refine ⟨fun n task msg hn hpc => ?_, fun e he => ?_⟩
      · rcases getElem?_append_cases hn with hold | ⟨_, rfl⟩
        · exact h.sends n task msg hold hpc
        · simp only [reduceCtorEq] at hpc
      · rw [spawn, List.length_append]
        exact Nat.lt_add_right _ (h.known e he)
  | skipped => exact h
  | closed | taken | ticked | flushed | broke => exact ⟨h.sends, h.known⟩
  | started | notStarted | replied | notCollected | notHanded =>
      refine h.of_move rfl (hquiet (fun msg => ?_)) (fun e he => Or.inl he)
      simp only [ne_eq, reduceCtorEq, not_false_eq_true]
  | @refused n task req =>
      refine h.of_move rfl (fun msg hpc => ?_) (fun e he => Or.inl he)
      rw [← TaskPc.sending.inj hpc]
      exact answers_badGateway task.requestId
  | @collected n task status headers body msg hn hpc hmsg =>
      refine h.of_move rfl (fun msg' hpc' => ?_) (fun e he => Or.inl he)
      rw [← TaskPc.sending.inj hpc']
      exact answers_controlResponse hmsg
  | @handed n task msg hn =>
      refine h.of_move rfl (hquiet (fun msg => ?_)) (fun e he => ?_)
      · simp only [ne_eq, reduceCtorEq, not_false_eq_true]
      · rcases List.mem_append.mp he with hold | hnew
        · exact Or.inl hold
        · rw [List.mem_singleton.mp hnew]
          exact Or.inr (List.getElem?_eq_some_iff.mp hn).fst

theorem answered_of_unfinished {l : List ControlMessage} (h : task.pc.Unfinished) :
    task.Answered l ↔ l = [] := by
  unfold ClientTask.Answered
  cases hpc : task.pc with
  | ended | crashed =>
      rw [hpc] at h
      exact h.elim
  | _ => rfl

/-- What one task has handed over after another one has, or the same. -/
theorem handedBy_append (s : Client) (n m : Nat) (msg : ControlMessage) :
    ((s.handed ++ [(n, msg)]).filter (fun e => e.1 = m)).map Prod.snd =
      s.handedBy m ++ if n = m then [msg] else [] := by
  rw [List.filter_append, List.map_append, handedBy]
  by_cases hnm : n = m
  · simp only [hnm, decide_true, List.filter_cons_of_pos, List.filter_nil, List.map_cons,
      List.map_nil, if_true]
  · simp only [hnm, decide_false, Bool.false_eq_true, not_false_eq_true,
      List.filter_cons_of_neg, List.filter_nil, List.map_nil, if_false]

/-- A task goes on. -/
theorem answering_move (h : s.Answering) (hn : s.tasks[n]? = some task)
    (hu : task.pc.Unfinished) {pc : TaskPc} (hu' : pc.Unfinished) :
    (s.moveTask n task pc).Answering := by
  intro hup m task' hm
  rcases getElem?_set_cases hm with ⟨rfl, rfl⟩ | ⟨_, hold⟩
  · exact (answered_of_unfinished hu').mpr ((answered_of_unfinished hu).mp (h hup m task hn))
  · exact h hup m task' hold

/-- A task panics. -/
theorem not_answering_crash (hup : s.Up) (hn : s.tasks[n]? = some task) :
    ¬ (s.moveTask n task .crashed).Answering := by
  intro h
  exact h hup n { task with pc := .crashed } (getElem?_updated hn)

/-- A task hands its message over, and ends. -/
theorem answering_hand (h : s.Answering) (hord : s.Ordered) (hn : s.tasks[n]? = some task)
    (hpc : task.pc = .sending msg) : { s.moveTask n task .ended with
      queue := s.queue ++ [msg]
      handed := s.handed ++ [(n, msg)] }.Answering := by
  intro hup m task' hm
  rw [handedBy, handedBy_append]
  rcases getElem?_set_cases hm with ⟨rfl, rfl⟩ | ⟨hne, hold⟩
  · have hnone : s.handedBy m = [] :=
      (answered_of_unfinished (by rw [hpc]; trivial)).mp (h hup m task hn)
    rw [if_pos rfl, hnone, List.nil_append]
    exact ⟨msg, rfl, hord.sends m task msg hn hpc⟩
  · rw [if_neg (Ne.symm hne), List.append_nil]
    exact h hup m task' hold

/-- A new task has handed over nothing. -/
theorem answering_spawn (h : s.Answering) (hord : s.Ordered) (requestId : String) (asked : Asked) :
    (s.spawn requestId asked).Answering := by
  intro hup n task hn
  rcases getElem?_append_cases hn with hold | ⟨rfl, rfl⟩
  · exact h hup n task hold
  · -- Its number is past those that anything was handed over from.
    have hiff := @answered_of_unfinished { requestId := requestId, pc := .starting asked }
      (s.handedBy s.tasks.length) trivial
    refine hiff.mpr ?_
    rw [handedBy, List.map_eq_nil_iff, List.filter_eq_nil_iff]
    intro e he
    simpa only [decide_eq_true_eq] using Nat.ne_of_lt (hord.known e he)

theorem smooth_of_down (hdown : ¬ s.Up) : Smooth E s a := by
  cases a with
  | start | collected => exact fun hup => absurd hup hdown
  | _ => trivial

/-- The step lemma: every task still answers its request exactly if the action
    is smooth. -/
theorem answering_of_step_iff (hord : s.Ordered) (h : s.Answering) (hst : step E s a = some t) :
    t.Answering ↔ Smooth E s a := by
  by_cases hup : s.Up
  · cases (rule_of_step hst).2 with
    | spawned => exact iff_of_true (answering_spawn h hord _ _) trivial
    | skipped => exact iff_of_true h trivial
    | closed => exact iff_of_true (fun hup' => Bool.noConfusion hup'.1) trivial
    | broke => exact iff_of_true (fun hup' => absurd rfl hup'.2) trivial
    | taken | ticked | flushed => exact iff_of_true (fun _ => h hup) trivial
    | @started n task asked req hn hpc hreq =>
        refine iff_of_true (answering_move h hn (by rw [hpc]; trivial) trivial) ?_
        intro _ task' asked' hn' hpc'
        rw [hn, Option.some.injEq] at hn'
        rw [← hn', hpc, TaskPc.starting.injEq] at hpc'
        rw [← hpc']
        exact requestBuilder_ok_iff.mp ⟨req, hreq⟩
    | @notStarted n task asked f hn hpc hreq =>
        refine iff_of_false (not_answering_crash hup hn) (fun hsmooth => ?_)
        rcases requestBuilder_ok_iff.mpr (hsmooth hup task asked hn hpc) with ⟨req, hok⟩
        rw [hreq] at hok
        simp only [reduceCtorEq] at hok
    | @replied n task req status headers hn hpc =>
        exact iff_of_true (answering_move h hn (by rw [hpc]; trivial) trivial) trivial
    | @refused n task req hn hpc =>
        exact iff_of_true (answering_move h hn (by rw [hpc]; trivial) trivial) trivial
    | @collected n task status headers body msg hn hpc hmsg =>
        refine iff_of_true (answering_move h hn (by rw [hpc]; trivial) trivial) ?_
        intro _ task' status' headers' hn' hpc'
        rw [hn, Option.some.injEq] at hn'
        rw [← hn', hpc, TaskPc.collecting.injEq] at hpc'
        rw [← hpc'.2]
        exact controlResponse_isSome_iff.mp ⟨msg, hmsg⟩
    | @notCollected n task status headers body hn hpc hmsg =>
        refine iff_of_false (not_answering_crash hup hn) (fun hsmooth => ?_)
        have hgood := hsmooth hup task status headers hn hpc
        have hsome := (@controlResponse_isSome_iff task.requestId status headers body).mpr hgood
        rcases hsome with ⟨msg, hok⟩
        rw [hmsg] at hok
        simp only [reduceCtorEq] at hok
    | handed hn hpc => exact iff_of_true (answering_hand h hord hn hpc) trivial
    | notHanded hn hpc hended => exact absurd hended hup.2
  · exact iff_of_true (fun hup' => absurd (up_of_step hst hup') hup) (smooth_of_down hup)

/-! ### Going on -/

theorem work_move (hn : s.tasks[n]? = some task) {pc : TaskPc} (hlt : pc.work < task.pc.work) :
    (s.moveTask n task pc).work < s.work := by
  have htotal := sum_map_set (fun task => task.pc.work) { task with pc := pc } hn
  simp only [work, moveTask]
  simp only at htotal
  omega

/-- A message counts for less in the channel than with its task. -/
theorem work_hand (hn : s.tasks[n]? = some task) (hpc : task.pc = .sending msg) :
    { s.moveTask n task .ended with
      queue := s.queue ++ [msg]
      handed := s.handed ++ [(n, msg)] }.work < s.work := by
  have htotal := sum_map_set (fun task => task.pc.work) { task with pc := TaskPc.ended } hn
  have hsending : task.pc.work = 3 := by rw [hpc]; rfl
  have hended : TaskPc.ended.work = 0 := rfl
  simp only [work, moveTask, List.length_append, List.length_singleton]
  simp only at htotal
  omega

/-- Every action of the client or the backend leaves less to do. -/
theorem work_decreases (hst : own E s a = some t) : t.work < s.work := by
  rw [own, Option.ite_none_right_eq_some] at hst
  cases (rule_of_step hst.2).2 with
  | spawned | skipped | closed | ticked | broke => exact hst.1.elim
  | started hn hpc | notStarted hn hpc | replied hn hpc | refused hn hpc | collected hn hpc
  | notCollected hn hpc | notHanded hn hpc =>
      exact work_move hn (by simp only [hpc, TaskPc.work, Nat.reduceLT])
  | handed hn hpc => exact work_hand hn hpc
  | taken hw hqueue =>
      simp only [work, hw, hqueue, List.length_cons, WriterPc.work]
      omega
  | flushed hw =>
      simp only [work, hw, WriterPc.work]
      omega

/-- While a task has not ended, the client or the backend can go on. -/
theorem own_of_unfinished (E : ClientEnv) (hup : s.Up) (hn : s.tasks[n]? = some task)
    (hu : task.pc.Unfinished) : ∃ a t, own E s a = some t := by
  cases hpc : task.pc with
  | starting asked =>
      refine ⟨.start n, ?_⟩
      simp only [own, ClientAction.Own, if_true, step, hup.1, Bool.false_eq_true, if_false,
        startTask, hn, hpc]
      cases requestBuilder E asked with
      | ok req => exact ⟨_, rfl⟩
      | error f => exact ⟨_, rfl⟩
  | requesting req =>
      refine ⟨.reply n .failed, ?_⟩
      simp only [own, ClientAction.Own, if_true, step, hup.1, Bool.false_eq_true, if_false,
        reply, hn, hpc, Option.some.injEq, exists_eq']
  | collecting status headers =>
      refine ⟨.collected n none, ?_⟩
      simp only [own, ClientAction.Own, if_true, step, hup.1, Bool.false_eq_true, if_false,
        collect, hn, hpc, controlResponse, Option.bind_none, Option.some.injEq, exists_eq']
  | sending msg =>
      by_cases hroom : s.queue.length < channelCapacity
      · refine ⟨.hand n, ?_⟩
        simp only [own, ClientAction.Own, if_true, step, hup.1, Bool.false_eq_true, if_false,
          hand, hn, hpc, hup.2, hroom, Option.some.injEq, exists_eq']
      · -- The channel is full, so the write task has something to do.
        cases hw : s.writer with
        | ended => exact absurd hw hup.2
        | writing msg =>
            refine ⟨.written true, ?_⟩
            simp only [own, ClientAction.Own, if_true, step, hup.1, Bool.false_eq_true, if_false,
              written, hw, Option.some.injEq, exists_eq']
        | selecting =>
            cases hqueue : s.queue with
            | nil =>
                rw [hqueue] at hroom
                exact absurd (by decide) hroom
            | cons msg rest =>
                refine ⟨.take, ?_⟩
                simp only [own, ClientAction.Own, if_true, step, hup.1, Bool.false_eq_true,
                  if_false, take, hw, hqueue, Option.some.injEq, exists_eq']
  | ended | crashed =>
      rw [hpc] at hu
      exact hu.elim

theorem up_of_exec_own {as : List ClientAction} (hup : s.Up) (h : exec (own E) s as = some t) :
    t.Up := by
  refine (reaches_of_exec _ _ _ h).invariant (fun x a y hx _ hst => ?_) hup
  rw [own, Option.ite_none_right_eq_some] at hst
  exact up_of_own hst.1 hst.2 hx

/-- In every state of a run each task that has ended has handed over exactly
    one response, exactly if every action of the run is smooth. And the tasks
    do end: without another message or tick the client and the backend can go
    on only so long, and can go on until then. -/
theorem handed_once_iff (E : ClientEnv) :
    (∀ as : List ClientAction,
      Throughout (step E) Answering start as ↔ Legal (step E) (Smooth E) start as) ∧
    ∀ (s t : Client) (as : List ClientAction), s.Up → exec (own E) s as = some t →
      as.length ≤ s.work ∧
        ((∀ a, own E t a = none) → ∀ task ∈ t.tasks, ¬ task.pc.Unfinished) := by
  constructor
  · intro as
    have hord : ∀ (s : Client) (a : ClientAction) (t : Client),
        s.Ordered → step E s a = some t → t.Ordered :=
      fun _ _ _ h hst => ordered_of_step h hst
    refine throughout_iff_legal hord
      (fun _ _ _ hord h hst => answering_of_step_iff hord h hst) as start ordered_start ?_
    intro _ n task hn
    simp only [start, List.getElem?_nil, reduceCtorEq] at hn
  · intro s t as hup h
    have hwork : ∀ (s : Client) (a : ClientAction) (t : Client),
        True → own E s a = some t → t.work < s.work :=
      fun _ _ _ _ hst => work_decreases hst
    refine ⟨exec_length_le (fun _ _ _ _ _ => trivial) hwork as s t trivial h,
      fun hstuck task htask hu => ?_⟩
    rcases List.mem_iff_getElem?.mp htask with ⟨n, hn⟩
    rcases own_of_unfinished E (up_of_exec_own hup h) hn hu with ⟨a, u, hown⟩
    rw [hstuck a] at hown
    simp only [reduceCtorEq] at hown

/-! ### A run -/

/-- Libraries that read one message, a request without headers. -/
def oneRequest : ClientEnv where
  targetUrl := "http://127.0.0.1:8000"
  fromStr := fun t => if t = "get" then some (.request "r1" "GET" "/" [] []) else none
  method := fun _ => true
  uri := fun _ => true
  crate := {
    headerName := fun _ => true
    headerValue := fun _ => true
    room := fun m => m.length < 24576 }

/-- The backend answers with a header value that is not ASCII. -/
def latin1Reply : List ClientAction :=
  [.receive (.message (.text "get")), .start 0, .reply 0 (.response 200 [("x-name", [233])]),
    .collected 0 (some [])]

/-- The task has panicked, and the request stays without an answer. -/
theorem latin1_header_unanswered :
    ¬ ∀ (E : ClientEnv) (as : List ClientAction) (s : Client),
      exec (step E) start as = some s → s.Answering := by
  intro h
  have hrun : exec (step oneRequest) start latin1Reply = some {
      tasks := [{ requestId := "r1", pc := .crashed }]
      queue := []
      writer := .selecting
      handed := []
      returned := false } := by decide
  have hup : (⟨[{ requestId := "r1", pc := .crashed }], [], .selecting, [], false⟩ : Client).Up :=
    ⟨rfl, by decide⟩
  exact h oneRequest latin1Reply _ hrun hup 0 { requestId := "r1", pc := .crashed } rfl

end Client

end Prototype

end Rathole
