import Rathole.Server.TcpPool

/-!
# Data-Channel Credit

How many data channels a TCP service has asked for and not yet taken. A
request is sent for every visitor before it waits, and another one whenever a
data channel turns out to be broken, and a data channel that works serves one
visitor. So the requests that no data channel was taken for are always those
the pool began with and one for every visitor that waits, except while a data
channel is being tried: then the visitor it may serve still waits.

At most as many visitors can wait as fit into the queue, one more that the
listener is passing on, and one in the pool's hand. If the client opens no
more data channels than it was told to, that bounds the queue of data channels
well below its capacity.

## Main definitions

* `TcpPool.waiting`: The visitors that were accepted and wait for a data
  channel.
* `TcpPool.Credit`: The invariant.
* `TcpPool.Obedient`: The client opens a data channel only when told to.

## Theorems

* `credit_of_step`: What one step preserves.
* `credit_balanced`: The balance of requests in any run, and the bound on the
  queue.
-/

namespace Rathole

open Transition

namespace TcpPool

/-- The visitor the pool has in hand. -/
def PoolPc.hand : PoolPc → List Nat
  | .pairing v | .starting v _ => [v]
  | _ => []

/-- A data channel was taken, and is being written to. -/
def PoolPc.trying : PoolPc → Nat
  | .starting _ _ => 1
  | _ => 0

/-- The visitor the listener is passing on. -/
def ListenerPc.passing : ListenerPc → List Nat
  | .sending v => [v]
  | _ => []

/-- The accepted visitors that are not yet paired with a data channel, first
    come first. -/
def waiting (s : TcpPool) : List Nat := s.pool.hand ++ s.visitors ++ s.listener.passing

/-- Commands answer requests, and data channels are somewhere. While the pool
    runs, the requests no data channel was taken for are those of the initial
    pool and of the visitors that wait, and visitors are served in the order
    they came. -/
structure Credit (s : TcpPool) : Prop where
  commands : s.commands + s.dataChReq ≤ s.requested
  streams : s.taken + s.dataCh.length + s.delivering.length ≤ s.opened
  room : s.visitors.length ≤ chanSize
  ended : s.pool = .stopped → s.dataCh = []
  balance : s.pool ≠ .stopped →
    s.requested + s.pool.trying = s.taken + tcpPoolSize + s.waiting.length
  order : s.pool ≠ .stopped → s.paired.map Prod.fst ++ s.waiting = List.range s.accepted

/-- The client opens a data channel only when it has been told to more often
    than it has done so. -/
def Obedient (s : TcpPool) (a : Action) : Prop := a = .handle .openCh → s.opened < s.commands

instance (s : TcpPool) (a : Action) : Decidable (s.Obedient a) :=
  inferInstanceAs (Decidable (_ → _))

variable {s t : TcpPool} {a : Action}

theorem passing_of_not {pc : ListenerPc} (h : ∀ v, pc ≠ .sending v) : pc.passing = [] := by
  cases pc with
  | sending v => exact absurd rfl (h v)
  | _ => rfl

theorem credit_initial (heartbeatInterval : Nat) : (initial heartbeatInterval).Credit where
  commands := Nat.le_of_eq (Nat.zero_add _)
  streams := Nat.le_refl 0
  room := Nat.zero_le _
  ended := fun _ => rfl
  balance := fun _ => rfl
  order := fun _ => rfl

/-- No visitor begins or ceases to wait when the listener moves within its
    loop. -/
theorem Move.waiting_listener (hp : s.pool ≠ .stopped) {pc : ListenerPc}
    (hfree : ∀ v, s.listener = .sending v → s.pool = .stopped) (hpc : ∀ v, pc ≠ .sending v) :
    ({ s with listener := pc } : TcpPool).waiting = s.waiting := by
  have hold : s.listener.passing = [] := passing_of_not (fun v hv => hp (hfree v hv))
  simp only [waiting, passing_of_not hpc, hold]

/-- The visitors before and after a move, while the pool runs. -/
theorem balance_of_move (hi : s.Credit) (hm : Move s a t) (hp : t.pool ≠ .stopped) :
    t.requested + t.pool.trying = t.taken + tcpPoolSize + t.waiting.length := by
  cases hm with
  | listener pc hfree hpc =>
      rw [Move.waiting_listener (s := s) hp hfree hpc]
      exact hi.balance hp
  | stopPool => exact absurd rfl hp
  | handle => exact hi.balance hp
  -- One visitor more waits, and one request more is sent for it.
  | accept hl =>
      have hb := hi.balance hp
      simp only [waiting, hl, ListenerPc.passing, List.append_nil, List.length_append,
        List.length_singleton] at hb ⊢
      omega
  -- The visitor goes from the listener's hand into the queue, and on into the pool's.
  | send hl hroom =>
      have hb := hi.balance hp
      simp only [waiting, hl, ListenerPc.passing, List.append_nil, List.length_append,
        List.length_singleton] at hb ⊢
      omega
  | recvVisitor hw hv =>
      have hb := hi.balance (by rw [hw]; simp only [ne_eq, reduceCtorEq, not_false_eq_true])
      simp only [waiting, hw, hv, PoolPc.hand, PoolPc.trying, List.nil_append, List.cons_append,
        List.length_cons, List.length_append] at hb ⊢
      omega
  -- A data channel that is tried is taken, and its visitor still waits.
  | recvDataCh hw hch =>
      have hb := hi.balance (by rw [hw]; simp only [ne_eq, reduceCtorEq, not_false_eq_true])
      simp only [waiting, hw, PoolPc.hand, PoolPc.trying] at hb ⊢
      omega
  -- Now the visitor is served.
  | started hw =>
      have hb := hi.balance (by rw [hw]; simp only [ne_eq, reduceCtorEq, not_false_eq_true])
      simp only [waiting, hw, PoolPc.hand, PoolPc.trying, List.nil_append, List.cons_append,
        List.length_cons, List.length_append] at hb ⊢
      omega
  -- A new request stands for the data channel that was taken in vain.
  | broken hw =>
      have hb := hi.balance (by rw [hw]; simp only [ne_eq, reduceCtorEq, not_false_eq_true])
      simp only [waiting, hw, PoolPc.hand, PoolPc.trying] at hb ⊢
      omega

/-- Visitors queue up behind each other, and the first of them is served. -/
theorem order_of_move (hi : s.Credit) (hm : Move s a t) (hp : t.pool ≠ .stopped) :
    t.paired.map Prod.fst ++ t.waiting = List.range t.accepted := by
  cases hm with
  | listener pc hfree hpc =>
      rw [Move.waiting_listener (s := s) hp hfree hpc]
      exact hi.order hp
  | stopPool => exact absurd rfl hp
  | handle => exact hi.order hp
  | accept hl =>
      have ho := hi.order hp
      simp only [waiting, hl, ListenerPc.passing, List.append_nil] at ho ⊢
      rw [List.range_succ, ← ho]
      simp only [List.append_assoc]
  | send hl hroom =>
      have ho := hi.order hp
      simp only [waiting, hl, ListenerPc.passing] at ho ⊢
      rw [← ho]
      simp only [List.append_assoc, List.append_nil]
  | recvVisitor hw hv =>
      have ho := hi.order (by rw [hw]; simp only [ne_eq, reduceCtorEq, not_false_eq_true])
      rw [← ho]
      simp only [waiting, hw, hv, PoolPc.hand, List.nil_append, List.cons_append]
  | recvDataCh hw hch =>
      have ho := hi.order (by rw [hw]; simp only [ne_eq, reduceCtorEq, not_false_eq_true])
      rw [← ho]
      simp only [waiting, hw, PoolPc.hand]
  | started hw =>
      -- The visitor in hand is the first of those that wait.
      have ho := hi.order (by rw [hw]; simp only [ne_eq, reduceCtorEq, not_false_eq_true])
      rw [← ho]
      simp only [waiting, hw, PoolPc.hand, List.map_append, List.map_cons, List.map_nil,
        List.nil_append, List.cons_append, List.append_assoc]
  | broken hw =>
      have ho := hi.order (by rw [hw]; simp only [ne_eq, reduceCtorEq, not_false_eq_true])
      rw [← ho]
      simp only [waiting, hw, PoolPc.hand]

/-- No more commands than requests. -/
theorem commands_of_move (hi : s.Credit) (hm : Move s a t) :
    t.commands + t.dataChReq ≤ t.requested := by
  have hc := hi.commands
  cases hm with
  | accept | broken =>
      simp only
      omega
  -- A request becomes a command, or goes with the control channel.
  | handle _ hb => exact Nat.le_trans hb.commands_le hc
  | _ => exact hc

/-- No data channel is counted twice. -/
theorem streams_of_move (hi : s.Credit) (hm : Move s a t) :
    t.taken + t.dataCh.length + t.delivering.length ≤ t.opened := by
  have hs := hi.streams
  cases hm with
  -- What was in the queue is dropped with it.
  | stopPool =>
      simp only [stopPool, List.length_nil]
      omega
  | recvDataCh hw hch =>
      rw [hch, List.length_cons] at hs
      simp only
      omega
  | handle _ hb =>
      have hchannels := hb.channels_le
      simp only
      omega
  | _ => exact hs

theorem room_of_move (hi : s.Credit) (hm : Move s a t) : t.visitors.length ≤ chanSize := by
  have hr := hi.room
  cases hm with
  | stopPool => exact Nat.zero_le _
  | send hl hroom =>
      rw [List.length_append, List.length_singleton]
      omega
  | recvVisitor hw hv =>
      rw [hv, List.length_cons] at hr
      simp only
      omega
  | _ => exact hr

/-- A pool that has ended has no queue. -/
theorem ended_of_move (hi : s.Credit) (hm : Move s a t) (hp : t.pool = .stopped) :
    t.dataCh = [] := by
  cases hm with
  | stopPool => rfl
  | recvVisitor | recvDataCh | started | broken => simp only [reduceCtorEq] at hp
  | handle _ hb => exact (hb.dataCh_eq (receiver_eq_false.mpr hp)).trans (hi.ended hp)
  | _ => exact hi.ended hp

/-- The step lemma. -/
theorem credit_of_step (hi : s.Credit) (h : s.step a = some t) : t.Credit where
  commands := commands_of_move hi (move_of_step h)
  streams := streams_of_move hi (move_of_step h)
  room := room_of_move hi (move_of_step h)
  ended := ended_of_move hi (move_of_step h)
  balance := balance_of_move hi (move_of_step h)
  order := order_of_move hi (move_of_step h)

/-- An obedient client has opened no more data channels than it was told to. -/
theorem opened_of_step (hle : s.opened ≤ s.commands) (hok : s.Obedient a)
    (h : s.step a = some t) : t.opened ≤ t.commands := by
  cases move_of_step h with
  | handle ha hb =>
      cases hb with
      | opened => exact hok ha
      | command => exact Nat.le_succ_of_le hle
      | _ => exact hle
  | _ => exact hle

theorem opened_le {heartbeatInterval : Nat}
    (hr : Reaches step Obedient (initial heartbeatInterval) s) : s.opened ≤ s.commands := by
  induction hr with
  | refl => exact Nat.le_refl 0
  | tail _ hok hst ih => exact opened_of_step ih hok hst

/-- No more visitors wait than there is room for. -/
theorem Credit.waiting_le (hi : s.Credit) : s.waiting.length ≤ chanSize + 2 := by
  have hhand : s.pool.hand.length ≤ 1 := by
    cases s.pool with
    | pairing | starting => exact Nat.le_refl 1
    | waiting | stopped => exact Nat.zero_le 1
  have hpass : s.listener.passing.length ≤ 1 := by
    cases s.listener with
    | sending => exact Nat.le_refl 1
    | _ => exact Nat.zero_le 1
  have hroom := hi.room
  simp only [waiting, List.length_append]
  omega

/-- The queue of data channels holds no more than were asked for. -/
theorem Credit.dataCh_le (hi : s.Credit) (hle : s.opened ≤ s.commands)
    (hp : s.pool ≠ .stopped) : s.dataCh.length + s.delivering.length ≤
      tcpPoolSize + chanSize + 2 := by
  have hbalance := hi.balance hp
  have hwait := hi.waiting_le
  have hcommands := hi.commands
  have hstreams := hi.streams
  omega

/-- In every state of every run in which the pool has not ended, the requests
    that were sent are as many more than the data channels that were taken as
    the initial requests and the visitors that wait together, unless a data
    channel is just being tried, and the visitors that wait are those that
    were accepted and are not paired. Every visitor that waits has a request
    that no data channel was taken for. If the client is obedient, the queue
    of data channels never holds more than the initial requests, the
    capacity of the visitors' queue and two, and putting a data channel into
    it never blocks. -/
theorem credit_balanced (heartbeatInterval : Nat) :
    (∀ s, Reaches step (fun _ _ => True) (initial heartbeatInterval) s → s.pool ≠ .stopped →
      ((∀ v ch, s.pool ≠ .starting v ch) →
        (s.requested : Int) - s.taken = tcpPoolSize + s.waiting.length) ∧
      s.paired.map Prod.fst ++ s.waiting = List.range s.accepted ∧
      s.waiting.length ≤ s.requested - s.taken) ∧
    (∀ s, Reaches step Obedient (initial heartbeatInterval) s →
      s.dataCh.length ≤ tcpPoolSize + chanSize + 2 ∧
      ∀ ch ∈ s.delivering, ∃ t, s.step (.handle (.deliver ch)) = some t) := by
  constructor
  · intro s hr hp
    have hi : s.Credit :=
      hr.invariant (fun _ _ _ hi _ hst => credit_of_step hi hst) (credit_initial _)
    have hb := hi.balance hp
    refine ⟨fun hidle => ?_, hi.order hp, ?_⟩
    · -- Nothing is being tried, so the balance is exact.
      have htrying : s.pool.trying = 0 := by
        cases hpc : s.pool with
        | starting v ch => exact absurd hpc (hidle v ch)
        | _ => rfl
      omega
    · have htrying : s.pool.trying ≤ 1 := by
        cases s.pool with
        | starting => exact Nat.le_refl 1
        | _ => exact Nat.zero_le 1
      -- One data channel may be tried, but there is an initial request left over.
      have hsize : 1 ≤ tcpPoolSize := by decide
      omega
  · intro s hr
    have hi : s.Credit :=
      hr.invariant (fun _ _ _ hi _ hst => credit_of_step hi hst) (credit_initial _)
    have hle := opened_le hr
    by_cases hp : s.pool = .stopped
    · -- The receiver is gone, so the data channel is dropped at once.
      rw [hi.ended hp]
      refine ⟨Nat.zero_le _, fun ch hch => ?_⟩
      rw [step, handle, receiver_eq_false.mpr hp, ControlChannelHandle.step,
        ControlChannelHandle.deliver, if_pos hch, if_neg Bool.false_ne_true]
      exact ⟨_, rfl⟩
    · have hdata := hi.dataCh_le hle hp
      refine ⟨by omega, fun ch hch => ?_⟩
      -- There is room for more than can have been asked for.
      have hsize : tcpPoolSize + chanSize + 2 < chanSize * 2 := by decide
      have hroom : s.dataCh.length < chanSize * 2 := by omega
      rw [step, handle, receiver_eq_true.mpr hp, ControlChannelHandle.step,
        ControlChannelHandle.deliver, if_pos hch, if_pos rfl, if_pos hroom]
      exact ⟨_, rfl⟩

/-- A visitor comes, and a data channel for it. -/
def visited : List Action :=
  [.bind true, .accept, .handle .recvReq, .handle (.write true), .send, .recvVisitor,
    .handle .openCh]

/-- The visitor is in the pool's hand while the data channel is delivered. -/
theorem credit_balanced_visited :
    ∃ s, Reaches step Obedient (initial 30) s ∧ s.waiting = [0] ∧ s.delivering = [0] ∧
      (s.requested : Int) - s.taken = tcpPoolSize + 1 ∧
      s.dataCh.length ≤ tcpPoolSize + chanSize + 2 ∧
      ∃ t, s.step (.handle (.deliver 0)) = some t := by
  rcases hrun : exec step (initial 30) visited with _ | s
  · exact absurd hrun (by decide)
  · have hr : Reaches step Obedient (initial 30) s :=
      reaches_of_legal visited _ _ (by decide) hrun
    have hobs : (exec step (initial 30) visited).map (fun s =>
        (s.waiting, s.delivering, s.pool)) = some ([0], [0], .pairing 0) := by decide
    rw [hrun, Option.map_some, Option.some.injEq, Prod.mk.injEq, Prod.mk.injEq] at hobs
    rcases hobs with ⟨hwait, hdeliver, hpool⟩
    have hrunning : s.pool ≠ .stopped := by
      rw [hpool]
      simp only [ne_eq, reduceCtorEq, not_false_eq_true]
    have hbalance := ((credit_balanced 30).1 s (reaches_of_exec _ _ _ hrun) hrunning).1
      (fun v ch => by rw [hpool]; simp only [ne_eq, reduceCtorEq, not_false_eq_true])
    have hbound := (credit_balanced 30).2 s hr
    rw [hwait, List.length_singleton] at hbalance
    exact ⟨s, hr, hwait, hdeliver, hbalance, hbound.1,
      hbound.2 0 (by rw [hdeliver]; exact List.mem_singleton.mpr rfl)⟩

end TcpPool

end Rathole
