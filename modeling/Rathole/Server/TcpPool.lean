import Rathole.Lib.Transition
import Rathole.Server.ControlChannel

/-!
# The Pool of a TCP Service

The tasks behind the handle of a TCP service, await by await: besides the
control channel these are the listener of `tcp_listen_and_send`, which asks for
a data channel for every visitor before it passes the visitor on, and the pool
of `run_tcp_connection_pool`, which pairs visitors with data channels. Both
have a sender of requests, and the pool has the receiver of data channels.

Of a visitor, too, only the number matters, in the order they come. `requested`
and `taken` count the requests that were sent and the data channels taken from
the queue.

## Main definitions

* `TcpPool`: The tasks, their queues, and the counts.
* `TcpPool.step`: One action of one task.
* `TcpPool.Move`: The same, as a relation.
* `TcpPool.ListenerMove`, `TcpPool.QueueMove`: The part of it that the
  listener, and the pool with its queues have.

## Theorems

* `move_of_step`: Every step is one of the moves.
-/

namespace Rathole

namespace TcpPool

/-- `tcp_listen_and_send` -/
inductive ListenerPc
  | binding
  | listening
  | sleeping
  | sending (visitor : Nat)
  | stopped
deriving DecidableEq, Repr

/-- `run_tcp_connection_pool`: waiting for a visitor, with a visitor in hand
    waiting for a data channel, and writing `StartForwardTcp` to it. -/
inductive PoolPc
  | waiting
  | pairing (visitor : Nat)
  | starting (visitor ch : Nat)
  | stopped
deriving DecidableEq, Repr

end TcpPool

/-- The handle of a TCP service, with its listener, its pool and the queue of
    visitors between them. -/
structure TcpPool extends ControlChannelHandle where
  listener : TcpPool.ListenerPc
  pool : TcpPool.PoolPc
  visitors : List Nat
  accepted : Nat
  paired : List (Nat × Nat)
  requested : Nat
  taken : Nat
deriving DecidableEq, Repr

namespace TcpPool

/-- What a task of the service does, `handle` for what both kinds of service
    have. -/
inductive Action
  | bind (ok : Bool)
  | accept
  | acceptError
  | wake
  | send
  | shutdownListener
  | recvVisitor
  | recvDataCh
  | start (ok : Bool)
  | handle (a : ControlChannelHandle.Action)
deriving DecidableEq, Repr

/-- `ControlChannelHandle::new`, with the first requests sent. -/
def initial (heartbeatInterval : Nat) : TcpPool where
  toControlChannelHandle := ControlChannelHandle.new tcpPoolSize heartbeatInterval
  listener := .binding
  pool := .waiting
  visitors := []
  accepted := 0
  paired := []
  requested := tcpPoolSize
  taken := 0

/-- `data_ch_req_tx.send(true)`, which fails once the control channel has
    ended. -/
def request (s : TcpPool) : Option TcpPool :=
  if s.control = .stopped then none
  else some { s with dataChReq := s.dataChReq + 1, requested := s.requested + 1 }

/-! ### The listener -/

/-- Binding succeeds after some tries, or is given up. -/
def bind (s : TcpPool) (ok : Bool) : Option TcpPool :=
  match s.listener with
  | .binding => some { s with listener := if ok then .listening else .stopped }
  | _ => none

/-- A visitor comes, and a data channel is asked for. A visitor nobody can ask
    for is the last one. -/
def accept (s : TcpPool) : Option TcpPool :=
  match s.listener with
  | .listening => match s.request with
    -- An error, and a `break`; the visitor is dropped with it.
    | none => some { s with listener := .stopped }
    | some t => some { t with listener := .sending s.accepted, accepted := s.accepted + 1 }
  | _ => none

/-- `accept` fails, and the listener sleeps before the next try. -/
def acceptError (s : TcpPool) : Option TcpPool :=
  match s.listener with
  | .listening => some { s with listener := .sleeping }
  | _ => none

/-- The listener has slept, and goes on. -/
def wake (s : TcpPool) : Option TcpPool :=
  match s.listener with
  | .sleeping => some { s with listener := .listening }
  | _ => none

/-- `tx.send(incoming)`, which waits while the queue is full and fails if the
    pool has ended. -/
def send (s : TcpPool) : Option TcpPool :=
  match s.listener with
  | .sending v =>
      -- `let _ =`: the visitor is lost, and the loop goes on.
      if s.pool = .stopped then some { s with listener := .listening }
      else if s.visitors.length < chanSize then
        some { s with listener := .listening, visitors := s.visitors ++ [v] }
      else none
  | _ => none

/-- The shutdown signal, while binding or in the loop. -/
def shutdownListener (s : TcpPool) : Option TcpPool :=
  if s.dropped then match s.listener with
    | .binding | .listening => some { s with listener := .stopped }
    | _ => none
  else none

/-! ### The pool -/

/-- The pool ends, and both its receivers go. -/
def stopPool (s : TcpPool) : TcpPool :=
  { s with pool := .stopped, visitors := [], dataCh := [] }

/-- `visitor_rx.recv()` -/
def recvVisitor (s : TcpPool) : Option TcpPool :=
  match s.pool with
  | .waiting => match s.visitors with
    | v :: visitors => some { s with pool := .pairing v, visitors := visitors }
    -- The queue is read to its end before the loop sees the closed channel.
    | [] => if s.listener = .stopped then some s.stopPool else none
  | _ => none

/-- `data_ch_rx.recv()`, which ends once the handle is gone. -/
def recvDataCh (s : TcpPool) : Option TcpPool :=
  match s.pool with
  | .pairing v => match s.dataCh with
    | ch :: dataCh => some { s with
        pool := .starting v ch, dataCh := dataCh, taken := s.taken + 1 }
    | [] => if s.dropped then some s.stopPool else none
  | _ => none

/-- The command is written to the data channel, and the forwarding is spawned.
    For a broken data channel a new one is asked for. -/
def start (s : TcpPool) (ok : Bool) : Option TcpPool :=
  match s.pool with
  | .starting v ch =>
      if ok then some { s with pool := .waiting, paired := s.paired ++ [(v, ch)] }
      else match s.request with
        | none => some s.stopPool
        -- The visitor stays, and waits for the next data channel.
        | some t => some { t with pool := .pairing v }
  | _ => none

/-! ### The handle -/

/-- The listener and the pool have a sender of requests each. -/
def senders (s : TcpPool) : Bool := ¬(s.listener = .stopped ∧ s.pool = .stopped)

/-- The pool has the receiver of data channels. -/
def receiver (s : TcpPool) : Bool := s.pool ≠ .stopped

/-- The control channel, and the data channels that come. -/
def handle (s : TcpPool) (a : ControlChannelHandle.Action) : Option TcpPool :=
  (s.toControlChannelHandle.step s.senders s.receiver a).map fun h =>
    { s with toControlChannelHandle := h }

/-- One action of one task. -/
def step (s : TcpPool) : Action → Option TcpPool
  | .bind ok => s.bind ok
  | .accept => s.accept
  | .acceptError => s.acceptError
  | .wake => s.wake
  | .send => s.send
  | .shutdownListener => s.shutdownListener
  | .recvVisitor => s.recvVisitor
  | .recvDataCh => s.recvDataCh
  | .start ok => s.start ok
  | .handle a => s.handle a

/-! ### Moves -/

/-- What a step does. The listener's own moves leave the counts alone. -/
inductive Move (s : TcpPool) (a : Action) : TcpPool → Prop
  | listener (pc : ListenerPc) (hfree : ∀ v, s.listener = .sending v → s.pool = .stopped)
      (hpc : ∀ v, pc ≠ .sending v) : Move s a { s with listener := pc }
  | stopPool : Move s a s.stopPool
  | accept (hl : s.listener = .listening) : Move s a { s with
      dataChReq := s.dataChReq + 1
      requested := s.requested + 1
      listener := .sending s.accepted
      accepted := s.accepted + 1 }
  | send {v : Nat} (hl : s.listener = .sending v) (hroom : s.visitors.length < chanSize) :
      Move s a { s with listener := .listening, visitors := s.visitors ++ [v] }
  | recvVisitor {v : Nat} {visitors : List Nat} (hp : s.pool = .waiting)
      (hv : s.visitors = v :: visitors) :
      Move s a { s with pool := .pairing v, visitors := visitors }
  | recvDataCh {v ch : Nat} {dataCh : List Nat} (hp : s.pool = .pairing v)
      (hch : s.dataCh = ch :: dataCh) :
      Move s a { s with pool := .starting v ch, dataCh := dataCh, taken := s.taken + 1 }
  | started {v ch : Nat} (hp : s.pool = .starting v ch) :
      Move s a { s with pool := .waiting, paired := s.paired ++ [(v, ch)] }
  | broken {v ch : Nat} (hp : s.pool = .starting v ch) : Move s a { s with
      dataChReq := s.dataChReq + 1
      requested := s.requested + 1
      pool := .pairing v }
  | handle {b : ControlChannelHandle.Action} {h : ControlChannelHandle} (ha : a = .handle b)
      (hb : s.toControlChannelHandle.Move s.senders s.receiver b h) :
      Move s a { s with toControlChannelHandle := h }

/-- What the listener does. -/
inductive ListenerMove (s : TcpPool) : TcpPool → Prop
  | moves (pc : ListenerPc) (hfree : ∀ v, s.listener = .sending v → s.pool = .stopped)
      (hpc : ∀ v, pc ≠ .sending v) : ListenerMove s { s with listener := pc }
  | accept (hl : s.listener = .listening) : ListenerMove s { s with
      dataChReq := s.dataChReq + 1
      requested := s.requested + 1
      listener := .sending s.accepted
      accepted := s.accepted + 1 }
  | send {v : Nat} (hl : s.listener = .sending v) (hroom : s.visitors.length < chanSize) :
      ListenerMove s { s with listener := .listening, visitors := s.visitors ++ [v] }

/-- What the pool does with the visitors and the data channels in its queues. -/
inductive QueueMove (s : TcpPool) : Action → TcpPool → Prop
  | visitor {v : Nat} {visitors : List Nat} (hp : s.pool = .waiting)
      (hv : s.visitors = v :: visitors) :
      QueueMove s .recvVisitor { s with pool := .pairing v, visitors := visitors }
  | noVisitor (hp : s.pool = .waiting) : QueueMove s .recvVisitor s.stopPool
  | channel {v ch : Nat} {dataCh : List Nat} (hp : s.pool = .pairing v)
      (hch : s.dataCh = ch :: dataCh) : QueueMove s .recvDataCh { s with
        pool := .starting v ch, dataCh := dataCh, taken := s.taken + 1 }
  | noChannel {v : Nat} (hp : s.pool = .pairing v) (hch : s.dataCh = [])
      (hdropped : s.dropped = true) : QueueMove s .recvDataCh s.stopPool
  | started {v ch : Nat} (hp : s.pool = .starting v ch) : QueueMove s (.start true) { s with
      pool := .waiting, paired := s.paired ++ [(v, ch)] }
  | broken {v ch : Nat} (hp : s.pool = .starting v ch) (hc : s.control ≠ .stopped) :
      QueueMove s (.start false) { s with
        dataChReq := s.dataChReq + 1
        requested := s.requested + 1
        pool := .pairing v }
  | refused {v ch : Nat} (hp : s.pool = .starting v ch) (hc : s.control = .stopped) :
      QueueMove s (.start false) s.stopPool

variable {s t : TcpPool} {a : Action}

theorem ListenerMove.move (h : ListenerMove s t) : Move s a t := by
  cases h with
  | moves pc hfree hpc => exact Move.listener pc hfree hpc
  | accept hl => exact Move.accept hl
  | send hl hroom => exact Move.send hl hroom

theorem QueueMove.move (h : QueueMove s a t) : Move s a t := by
  cases h with
  | visitor hp hv => exact Move.recvVisitor hp hv
  | channel hp hch => exact Move.recvDataCh hp hch
  | noVisitor | noChannel | refused => exact Move.stopPool
  | started hp => exact Move.started hp
  | broken hp => exact Move.broken hp

/-- Somebody reads the queue of data channels while the pool is there. -/
theorem receiver_eq_true : s.receiver = true ↔ s.pool ≠ .stopped := decide_eq_true_iff

theorem receiver_eq_false : s.receiver = false ↔ s.pool = .stopped := by
  rw [receiver, decide_eq_false_iff_not, Classical.not_not]

/-- A request is sent, or the control channel has ended. -/
theorem request_cases (s : TcpPool) : s.request = none ∨
    s.request = some { s with dataChReq := s.dataChReq + 1, requested := s.requested + 1 } := by
  unfold request
  -- Only the control channel has the receiver of requests.
  by_cases hc : s.control = .stopped
  · rw [if_pos hc]
    exact Or.inl rfl
  · rw [if_neg hc]
    exact Or.inr rfl

theorem bind_move {ok : Bool} (h : s.bind ok = some t) : ListenerMove s t := by
  unfold bind at h
  cases hl : s.listener with
  | binding =>
      simp only [hl, Option.some.injEq] at h
      rw [← h]
      -- Neither outcome of binding has a visitor in hand.
      refine ListenerMove.moves _ (fun v hv => ?_) (fun v hv => ?_)
      · rw [hl] at hv
        simp only [reduceCtorEq] at hv
      · cases ok with
        | true => simp only [if_true, reduceCtorEq] at hv
        | false => simp only [Bool.false_eq_true, if_false, reduceCtorEq] at hv
  | _ => simp only [hl, reduceCtorEq] at h

/-- A listener that is not passing a visitor on moves within its loop. -/
theorem listener_move {pc : ListenerPc} (hl : ∀ v, s.listener ≠ .sending v)
    (hpc : ∀ v, pc ≠ .sending v) : ListenerMove s { s with listener := pc } :=
  ListenerMove.moves pc (fun v hv => absurd hv (hl v)) hpc

theorem accept_move (h : s.accept = some t) : ListenerMove s t := by
  unfold accept at h
  cases hl : s.listener with
  | listening =>
      rcases request_cases s with hr | hr
      · -- The request failed: the listener ends.
        simp only [hl, hr, Option.some.injEq] at h
        rw [← h]
        exact listener_move (fun v => by
          rw [hl]
          simp only [ne_eq, reduceCtorEq, not_false_eq_true])
          (fun v => by simp only [ne_eq, reduceCtorEq, not_false_eq_true])
      · simp only [hl, hr, Option.some.injEq] at h
        rw [← h]
        exact ListenerMove.accept hl
  | _ => simp only [hl, reduceCtorEq] at h

theorem acceptError_move (h : s.acceptError = some t) : ListenerMove s t := by
  unfold acceptError at h
  cases hl : s.listener with
  | listening =>
      simp only [hl, Option.some.injEq] at h
      rw [← h]
      exact listener_move (fun v => by rw [hl]; simp only [ne_eq, reduceCtorEq, not_false_eq_true])
        (fun v => by simp only [ne_eq, reduceCtorEq, not_false_eq_true])
  | _ => simp only [hl, reduceCtorEq] at h

theorem wake_move (h : s.wake = some t) : ListenerMove s t := by
  unfold wake at h
  cases hl : s.listener with
  | sleeping =>
      simp only [hl, Option.some.injEq] at h
      rw [← h]
      exact listener_move (fun v => by rw [hl]; simp only [ne_eq, reduceCtorEq, not_false_eq_true])
        (fun v => by simp only [ne_eq, reduceCtorEq, not_false_eq_true])
  | _ => simp only [hl, reduceCtorEq] at h

theorem send_move (h : s.send = some t) : ListenerMove s t := by
  unfold send at h
  cases hl : s.listener with
  | sending v =>
      simp only [hl] at h
      by_cases hp : s.pool = .stopped
      · -- The one move that gives up a visitor, and it needs a pool that has ended.
        simp only [if_pos hp, Option.some.injEq] at h
        rw [← h]
        exact ListenerMove.moves _ (fun _ _ => hp)
          (fun v => by simp only [ne_eq, reduceCtorEq, not_false_eq_true])
      · simp only [if_neg hp, Option.ite_none_right_eq_some, Option.some.injEq] at h
        rw [← h.2]
        exact ListenerMove.send hl h.1
  | _ => simp only [hl, reduceCtorEq] at h

theorem shutdownListener_move (h : s.shutdownListener = some t) : ListenerMove s t := by
  unfold shutdownListener at h
  rw [Option.ite_none_right_eq_some] at h
  rcases h with ⟨_, h⟩
  cases hl : s.listener with
  | binding | listening =>
      simp only [hl, Option.some.injEq] at h
      rw [← h]
      exact listener_move (fun v => by rw [hl]; simp only [ne_eq, reduceCtorEq, not_false_eq_true])
        (fun v => by simp only [ne_eq, reduceCtorEq, not_false_eq_true])
  | _ => simp only [hl, reduceCtorEq] at h

theorem recvVisitor_move (h : s.recvVisitor = some t) : QueueMove s .recvVisitor t := by
  unfold recvVisitor at h
  cases hp : s.pool with
  | waiting =>
      cases hv : s.visitors with
      | nil =>
          simp only [hp, hv, Option.ite_none_right_eq_some, Option.some.injEq] at h
          rw [← h.2]
          exact QueueMove.noVisitor hp
      | cons v visitors =>
          simp only [hp, hv, Option.some.injEq] at h
          rw [← h]
          exact QueueMove.visitor hp hv
  | _ => simp only [hp, reduceCtorEq] at h

theorem recvDataCh_move (h : s.recvDataCh = some t) : QueueMove s .recvDataCh t := by
  unfold recvDataCh at h
  cases hp : s.pool with
  | pairing v =>
      cases hch : s.dataCh with
      | nil =>
          simp only [hp, hch, Option.ite_none_right_eq_some, Option.some.injEq] at h
          rw [← h.2]
          exact QueueMove.noChannel hp hch h.1
      | cons ch dataCh =>
          simp only [hp, hch, Option.some.injEq] at h
          rw [← h]
          exact QueueMove.channel hp hch
  | _ => simp only [hp, reduceCtorEq] at h

theorem start_move {ok : Bool} (h : s.start ok = some t) : QueueMove s (.start ok) t := by
  unfold start at h
  cases hp : s.pool with
  | starting v ch =>
      simp only [hp] at h
      cases ok with
      | true =>
          simp only [if_true, Option.some.injEq] at h
          rw [← h]
          exact QueueMove.started hp
      -- The data channel is broken: ask again, or end with the control channel.
      | false =>
          by_cases hc : s.control = .stopped
          · simp only [request, if_pos hc, Bool.false_eq_true, if_false, Option.some.injEq] at h
            rw [← h]
            exact QueueMove.refused hp hc
          · simp only [request, if_neg hc, Bool.false_eq_true, if_false, Option.some.injEq] at h
            rw [← h]
            exact QueueMove.broken hp hc
  | _ => simp only [hp, reduceCtorEq] at h

theorem handle_move {b : ControlChannelHandle.Action} (h : s.handle b = some t) :
    ∃ g, s.toControlChannelHandle.Move s.senders s.receiver b g ∧
      t = { s with toControlChannelHandle := g } := by
  rcases Option.map_eq_some_iff.mp h with ⟨g, hg, rfl⟩
  exact ⟨g, ControlChannelHandle.move_of_step hg, rfl⟩

/-- The step lemma: what each task's actions do. -/
theorem move_of_step (h : s.step a = some t) : Move s a t := by
  cases a with
  | bind ok => exact (bind_move h).move
  | accept => exact (accept_move h).move
  | acceptError => exact (acceptError_move h).move
  | wake => exact (wake_move h).move
  | send => exact (send_move h).move
  | recvVisitor => exact (recvVisitor_move h).move
  | recvDataCh => exact (recvDataCh_move h).move
  | start ok => exact (start_move h).move
  | shutdownListener => exact (shutdownListener_move h).move
  | handle b =>
      rcases handle_move h with ⟨g, hg, rfl⟩
      exact Move.handle rfl hg

end TcpPool

end Rathole
