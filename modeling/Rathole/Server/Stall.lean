import Rathole.Server.Booked
import Rathole.Server.Reload

/-!
# Whom a Peer Can Stall

All handshakes and reloads go through the lock of `control_channels`, and two
of their awaits are under a guard of it: the `Ok` of a control channel is
written under the write guard, and a data channel waits for room in its queue
under a read guard. Both can be left waiting by a peer. It may not read what
is written to it, and it may open more data channels than its pool takes: a
TCP pool takes one for each visitor, a UDP pool one altogether. With one
service stalled like this, no client of any other is let in.

## Main definitions

* `Network`: The server, and which peers do not read.
* `Network.AwaitsPeer`: A connection waits for its peer, or for a visitor.
* `Network.Unstalled`: Nobody does so with a guard.
* `Network.Unstalling`: The steps that keep it so.

## Theorems

* `unstalled_iff`: Only two awaits matter.
* `unstalled_of_step_iff`: What one step preserves.
* `unstalled_throughout_iff`: What a run preserves.
* `full_queue_stalls`: A run in which a client fills its queue.
-/

namespace Rathole

open FairLock FairLock.RwLock Numbered Transition


variable {β : Type}

/-- The server, and the connections that cannot be written to: their peers do
    not read. -/
structure Network (β : Type) where
  server : Server β
  clogged : List Nat

namespace Network

/-- What can happen next: something at the server, a peer that stops reading,
    one that reads again. -/
inductive Action (β : Type)
  | server (a : Server.Action β)
  | clog (i : Nat)
  | drain (i : Nat)
deriving DecidableEq

/-- The connection an action completes a write to. -/
def writes : Server.Action β → Option Nat
  | .write i | .command i _ | .relay i _ => some i
  | _ => none

/-- One action. A write is completed only if the connection takes it. -/
def step [DecidableEq β] (E : Server.Env β) (s : Network β) : Action β → Option (Network β)
  | .server a =>
      if (writes a).all (fun i => i ∉ s.clogged) then
        (s.server.step E a).map (fun t => { s with server := t })
      else none
  | .clog i => some { s with clogged := i :: s.clogged }
  | .drain i => some { s with clogged := s.clogged.filter (fun j => j ≠ i) }

/-- Every connection can be written to. -/
def initial (services : HashMap (Digest β) (ServerServiceConfig (List β))) : Network β where
  server := Server.initial services
  clogged := []

/-- The queue of the handle has no room, and its pool is there. -/
def Full (s : Server β) (n : Nat) : Prop :=
  ∃ x, s.handles[n]? = some x ∧ x.pooling = true ∧ chanSize * 2 ≤ x.queue.length

/-- What a connection waits for at its await can only come from its peer, or
    from a visitor: bytes, that they are read, a data channel to be taken from
    a full queue. -/
def AwaitsPeer (s : Network β) (i : Nat) : Server.Phase β → Prop
  | .readingHello | .readingAuth _ _ _ | .control _ | .queued _ | .forwarding _ => True
  | .sendingHello _ _ | .refusing | .rejecting | .sendingAck _ _ _ | .starting _ _ =>
      i ∈ s.clogged
  | .delivering n => Full s.server n
  | .lookingUp _ _ | .locking _ _ _ | .finding _ | .closed => False

/-- Nobody has a guard of `control_channels` while it waits for a peer. (The
    reloads have one as well, but no await under it.) -/
def Unstalled (s : Network β) : Prop :=
  ∀ (i : Nat) (m : Mode) (c : Server.Conn β), s.server.channelsLock.Holds (.conn i) m →
    s.server.conns[i]? = some c → ¬ s.AwaitsPeer i c.phase

/-- A handshake gets the write guard only for a connection that can be written
    to, and that stays so until its `Ok` is out. A data channel finds a queue
    with room, and none gets the last place while another is being delivered
    to the same queue. -/
def Unstalling [DecidableEq β] (s : Network β) : Action β → Prop
  | .server (.lock i) => i ∉ s.clogged
  | .server (.find i) => ∀ c nonce n, s.server.conns[i]? = some c → c.phase = .finding nonce →
      s.server.channels.get2 nonce = some n → ¬ Full s.server n
  | .server (.deliver i) => ∀ c n x, s.server.conns[i]? = some c → c.phase = .delivering n →
      s.server.handles[n]? = some x → x.pooling = true →
      chanSize * 2 ≤ x.queue.length + 1 →
      ∀ j b, j ≠ i → s.server.conns[j]? = some b → b.phase ≠ .delivering n
  | .clog i => ∀ c d key cfg, s.server.conns[i]? = some c → c.phase ≠ .sendingAck d key cfg
  | _ => True

/-- Every `Ok` can be written, and every data channel that is being delivered
    finds room. -/
def Flows (s : Network β) : Prop :=
  ∀ (i : Nat) (c : Server.Conn β), s.server.conns[i]? = some c →
    c.phase.guard ≠ none → ¬ s.AwaitsPeer i c.phase

variable {E : Server.Env β} {s t : Network β} {a : Server.Action β} {i n : Nat}
  {c c' : Server.Conn β}

/-! ### Two awaits -/

theorem unstalled_initial (services : HashMap (Digest β) (ServerServiceConfig (List β))) :
    (initial services).Unstalled := by
  intro i m c _ hc
  simp only [initial, Server.initial, List.getElem?_nil, reduceCtorEq] at hc

/-- With the lock in order, only the two awaits that a guard is held at
    matter. -/
theorem unstalled_iff (hg : s.server.Guarded) (hb : s.server.Booked) : s.Unstalled ↔ s.Flows := by
  constructor
  · intro h i c hc hguard
    rcases Option.ne_none_iff_exists'.mp hguard with ⟨m, hm⟩
    exact h i m c (hg.holds i c m hc hm) hc
  · intro h i m c hheld hc hawaits
    rcases Server.claim_of_holds hb hheld with ⟨b, hbget, hclaim⟩
    rw [hc, Option.some.injEq] at hbget
    rw [← hbget] at hclaim
    cases hp : c.phase with
    | sendingAck | delivering =>
        refine h i c hc ?_ hawaits
        rw [hp]
        simp only [Server.Phase.guard, ne_eq, reduceCtorEq, not_false_eq_true]
    | locking | finding =>
        rw [hp] at hawaits
        exact hawaits
    | _ =>
        rw [hp] at hclaim
        simp only [Server.Phase.claim, reduceCtorEq] at hclaim

/-- With fewer clogged connections and full queues fewer connections wait. -/
theorem AwaitsPeer.of_le (hclogged : i ∈ t.clogged → i ∈ s.clogged)
    (hfull : ∀ n, Full t.server n → Full s.server n) {p : Server.Phase β}
    (h : t.AwaitsPeer i p) : s.AwaitsPeer i p := by
  cases p with
  | readingHello | readingAuth | control | queued | forwarding => trivial
  | sendingHello | refusing | rejecting | sendingAck | starting => exact hclogged h
  | delivering n => exact hfull n h
  | lookingUp | locking | finding | closed => exact h

/-- One connection moves, not to an await with a guard. -/
theorem Flows.of_set (h : s.Flows) (hc : s.server.conns[i]? = some c)
    (hconns : t.server.conns = s.server.conns.set i c') (hclogged : t.clogged = s.clogged)
    (hfull : ∀ n, Full t.server n → Full s.server n)
    (hphase : c'.phase.guard = none ∨ c'.phase = c.phase) : t.Flows := by
  intro j b hb hguard hawaits
  have hold := hawaits.of_le (s := s) (fun hin => by rwa [hclogged] at hin) hfull
  rw [hconns] at hb
  rcases getElem?_set_cases hb with ⟨rfl, rfl⟩ | ⟨_, hb⟩
  · rcases hphase with hnone | hsame
    · exact hguard hnone
    · rw [hsame] at hguard hold
      exact h j c hc hguard hold
  · exact h j b hb hguard hold

/-- One connection gets to an await with a guard. -/
theorem flows_set_iff (h : s.Flows) (hc : s.server.conns[i]? = some c)
    (hconns : t.server.conns = s.server.conns.set i c') (hclogged : t.clogged = s.clogged)
    (hhandles : t.server.handles = s.server.handles) (hguard : c'.phase.guard ≠ none) :
    t.Flows ↔ ¬ s.AwaitsPeer i c'.phase := by
  have hfull : ∀ n, Full t.server n ↔ Full s.server n := fun n => by rw [Full, Full, hhandles]
  constructor
  · intro ht hawaits
    refine ht i c' ?_ hguard (hawaits.of_le (fun hin => by rwa [hclogged])
      (fun n => (hfull n).mpr))
    rw [hconns]
    exact getElem?_updated hc
  · intro hfree j b hb hguard hawaits
    have hold := hawaits.of_le (s := s) (fun hin => by rwa [hclogged] at hin)
      (fun n => (hfull n).mp)
    rw [hconns] at hb
    rcases getElem?_set_cases hb with ⟨rfl, rfl⟩ | ⟨_, hb⟩
    · exact hfree hold
    · exact h j b hb hguard hold

/-- No connection moves. -/
theorem Flows.of_conns (h : s.Flows) (hconns : t.server.conns = s.server.conns)
    (hclogged : t.clogged = s.clogged) (hfull : ∀ n, Full t.server n → Full s.server n) :
    t.Flows := by
  intro j b hb hguard hawaits
  rw [hconns] at hb
  exact h j b hb hguard (hawaits.of_le (fun hin => by rwa [hclogged] at hin) hfull)

/-- A queue is full after an update of its handle only if the update is. -/
theorem full_set {x : Server.Handle β} {server : Server β} {k : Nat}
    (hhandles : t.server.handles = server.handles.set n x) (h : Full t.server k) :
    (k = n ∧ x.pooling = true ∧ chanSize * 2 ≤ x.queue.length) ∨ (k ≠ n ∧ Full server k) := by
  rcases h with ⟨y, hy, hpool, hlen⟩
  rw [hhandles] at hy
  rcases getElem?_set_cases hy with ⟨rfl, rfl⟩ | ⟨hk, hold⟩
  · exact Or.inl ⟨rfl, hpool, hlen⟩
  · exact Or.inr ⟨hk, y, hold, hpool, hlen⟩

/-- The lock and the queues are in order. -/
structure Orderly (s : Network β) : Prop where
  guarded : s.server.Guarded
  booked : s.server.Booked
  lined : s.server.Lined

theorem orderly_initial (services : HashMap (Digest β) (ServerServiceConfig (List β))) :
    (initial services).Orderly :=
  ⟨Server.guarded_initial services, Server.booked_initial services,
    Server.lined_initial services⟩

/-! ### Steps -/

variable [DecidableEq β]

/-- The handshake of a data channel gets its read guard. -/
theorem flows_find_iff (h : s.Flows) {u : Server β} (hst : s.server.step E (.find i) = some u) :
    { s with server := u }.Flows ↔ s.Unstalling (.server (.find i)) := by
  rcases Server.find_cases hst with ⟨c, nonce, hc, hp, _, ⟨hget, rfl⟩ | ⟨k, hget, rfl⟩⟩
  · refine iff_of_true (h.of_set hc rfl rfl (fun _ hn => hn) (Or.inl rfl)) ?_
    intro b nonce' n hb hp' hget'
    rw [hc, Option.some.injEq] at hb
    rw [← hb, hp, Server.Phase.finding.injEq] at hp'
    rw [← hp', hget] at hget'
    simp only [reduceCtorEq] at hget'
  · refine Iff.trans (flows_set_iff h hc rfl rfl rfl ?_) ⟨fun hfree => ?_, fun hok => ?_⟩
    · simp only [Server.Phase.guard, ne_eq, reduceCtorEq, not_false_eq_true]
    · intro b nonce' n hb hp' hget'
      rw [hc, Option.some.injEq] at hb
      rw [← hb, hp, Server.Phase.finding.injEq] at hp'
      rw [← hp', hget, Option.some.injEq] at hget'
      rw [← hget']
      exact hfree
    · exact hok c nonce k hc hp hget

/-- A data channel is put into its queue. -/
theorem flows_deliver_iff (h : s.Flows) {u : Server β}
    (hst : s.server.step E (.deliver i) = some u) :
    { s with server := u }.Flows ↔ s.Unstalling (.server (.deliver i)) := by
  rcases Server.deliver_cases hst with ⟨c, k, x, hc, hp, hx, ⟨hpool, _, rfl⟩ | ⟨hpool, rfl⟩⟩
  · have hlast : (x.queue ++ [i]).length = x.queue.length + 1 := by
      rw [List.length_append, List.length_singleton]
    constructor
    · intro ht b n y hb hp' hy _ hlen j d hj hd hpd
      rw [hc, Option.some.injEq] at hb
      rw [← hb, hp, Server.Phase.delivering.injEq] at hp'
      rw [← hp', hx, Option.some.injEq] at hy
      rw [← hy] at hlen
      rw [← hp'] at hpd
      -- Another data channel is being delivered to the queue, which is full now.
      refine ht j d ((List.getElem?_set_ne (Ne.symm hj)).trans hd) ?_ ?_
      · rw [hpd]
        simp only [Server.Phase.guard, ne_eq, reduceCtorEq, not_false_eq_true]
      · rw [hpd]
        exact ⟨_, getElem?_updated hx, hpool, by rw [hlast]; exact hlen⟩
    · intro hok j b hb hguard hawaits
      rcases getElem?_set_cases hb with ⟨rfl, rfl⟩ | ⟨hj, hold⟩
      · exact hguard rfl
      · refine h j b hold hguard ?_
        cases hpb : b.phase with
        | delivering m =>
            rw [hpb] at hawaits
            rcases full_set rfl hawaits with ⟨rfl, _, hlen⟩ | ⟨_, hfull⟩
            · rw [hlast] at hlen
              exact absurd hpb (hok c m x hc hp hx hpool hlen j b hj hold)
            · exact hfull
        | _ =>
            rw [hpb] at hawaits
            exact hawaits
  · refine iff_of_true (h.of_set hc rfl rfl (fun _ hn => hn) (Or.inl rfl)) ?_
    intro b n y hb hp' hy hpool'
    rw [hc, Option.some.injEq] at hb
    rw [← hb, hp, Server.Phase.delivering.injEq] at hp'
    rw [← hp', hx, Option.some.injEq] at hy
    rw [← hy, hpool] at hpool'
    simp only [Bool.false_eq_true] at hpool'

/-- What one action of the server preserves. -/
theorem flows_server_iff (h : s.Flows) {u : Server β} (hst : s.server.step E a = some u) :
    { s with server := u }.Flows ↔ s.Unstalling (.server a) := by
  cases Server.rule_of_step hst with
  | locked hc =>
      refine Iff.trans (flows_set_iff h hc rfl rfl rfl ?_) Iff.rfl
      simp only [Server.Phase.guard, ne_eq, reduceCtorEq, not_false_eq_true]
  | absent | found => exact flows_find_iff h hst
  | delivered | orphaned => exact flows_deliver_iff h hst
  | accepted =>
      refine iff_of_true (fun j b hb hguard hawaits => ?_) trivial
      rcases getElem?_append_cases hb with hold | ⟨_, rfl⟩
      · exact h j b hold hguard hawaits
      · exact hguard rfl
  | @acknowledged i c d key cfg channels hc hp =>
      refine iff_of_true (h.of_set hc rfl rfl (fun n hn => ?_) (Or.inl rfl)) trivial
      -- The new queue is empty.
      rcases hn with ⟨x, hx, hpool, hlen⟩
      rcases getElem?_append_cases hx with hold | ⟨_, rfl⟩
      · exact ⟨x, hold, hpool, hlen⟩
      · have hempty : chanSize * 2 ≤ 0 := hlen
        exact absurd hempty (by decide)
  | @taken i n c x queue hx hq hc =>
      refine iff_of_true (h.of_set hc rfl rfl (fun k hk => ?_) (Or.inl rfl)) trivial
      rcases full_set rfl hk with ⟨rfl, hpool, hlen⟩ | ⟨_, hfull⟩
      · refine ⟨x, hx, hpool, ?_⟩
        rw [hq]
        exact Nat.le_succ_of_le hlen
      · exact hfull
  | unpooled hx =>
      refine iff_of_true (h.of_conns rfl rfl (fun k hk => ?_)) trivial
      rcases full_set rfl hk with ⟨_, hpool, _⟩ | ⟨_, hfull⟩
      · simp only [Bool.false_eq_true] at hpool
      · exact hfull
  | tokenless | reloading | added | deleted | dropped | replaced | closing | cleared =>
      exact iff_of_true (h.of_conns rfl rfl (fun _ hn => hn)) trivial
  | arrived hc | crashed hc | commanded hc | relayed hc =>
      exact iff_of_true (h.of_set hc rfl rfl (fun _ hn => hn) (Or.inr rfl)) trivial
  | garbledHello hc | greeted hc | sought hc | garbledAuth hc | matched hc | mismatched hc
  | unknown hc | known hc | answered hc | refused hc | rejected hc | started hc | failed hc
  | failedRefusing hc | failedAcking hc | ended hc =>
      exact iff_of_true (h.of_set hc rfl rfl (fun _ hn => hn) (Or.inl rfl)) trivial

/-- A peer stops reading. -/
theorem flows_clog_iff (h : s.Flows) :
    { s with clogged := i :: s.clogged }.Flows ↔ s.Unstalling (.clog i) := by
  constructor
  · intro ht c d key cfg hc hp
    refine ht i c hc ?_ ?_
    · rw [hp]
      simp only [Server.Phase.guard, ne_eq, reduceCtorEq, not_false_eq_true]
    · rw [hp]
      exact List.mem_cons_self
  · intro hok j b hb hguard hawaits
    refine h j b hb hguard ?_
    cases hp : b.phase with
    | sendingAck d key cfg =>
        rw [hp] at hawaits
        rcases List.mem_cons.mp hawaits with rfl | hold
        · exact absurd hp (hok b d key cfg hb)
        · exact hold
    | delivering n =>
        rw [hp] at hawaits
        exact hawaits
    | _ =>
        rw [hp] at hguard
        exact absurd rfl hguard

theorem server_of_step (h : step E s (.server a) = some t) :
    ∃ u, s.server.step E a = some u ∧ t = { s with server := u } := by
  rw [step, Option.ite_none_right_eq_some, Option.map_eq_some_iff] at h
  rcases h.2 with ⟨u, hu, ht⟩
  exact ⟨u, hu, ht.symm⟩

theorem orderly_of_step {a : Action β} (h : s.Orderly) (hst : step E s a = some t) :
    t.Orderly := by
  cases a with
  | server a =>
      rcases server_of_step hst with ⟨u, hu, rfl⟩
      exact ⟨Server.guarded_of_step h.guarded hu,
        Server.booked_of_step h.booked h.lined h.guarded hu, Server.lined_of_step h.lined hu⟩
  | clog i | drain i =>
      rw [← Option.some.inj hst]
      exact ⟨h.guarded, h.booked, h.lined⟩

/-- The step lemma: nobody stalls the others exactly if the step is one that
    lets nobody. -/
theorem unstalled_of_step_iff {a : Action β} (ho : s.Orderly) (h : s.Unstalled)
    (hst : step E s a = some t) : t.Unstalled ↔ s.Unstalling a := by
  have hto := orderly_of_step ho hst
  rw [unstalled_iff hto.guarded hto.booked]
  rw [unstalled_iff ho.guarded ho.booked] at h
  cases a with
  | server a =>
      rcases server_of_step hst with ⟨u, hu, rfl⟩
      exact flows_server_iff h hu
  | clog i =>
      rw [← Option.some.inj hst]
      exact flows_clog_iff h
  | drain i =>
      rw [← Option.some.inj hst]
      refine iff_of_true (fun j b hb hguard hawaits => h j b hb hguard ?_) trivial
      refine AwaitsPeer.of_le ?_ ?_ hawaits
      · exact fun hin => List.mem_of_mem_filter hin
      · exact fun _ hn => hn

/-- The run lemma: in no state of a run does anybody wait for a peer with a
    guard of `control_channels`, exactly if every step of the run lets
    nobody. -/
theorem unstalled_throughout_iff (E : Server.Env β)
    (services : HashMap (Digest β) (ServerServiceConfig (List β))) (as : List (Action β)) :
    Throughout (step E) Unstalled (initial services) as ↔
      Legal (step E) Unstalling (initial services) as :=
  throughout_iff_legal (fun _ _ _ h hst => orderly_of_step h hst)
    (fun _ _ _ ho h hst => unstalled_of_step_iff ho h hst) as (initial services)
    (orderly_initial services) (unstalled_initial services)

/-! ### A run -/

/-- The client of one service is connected, `k` of its data channels wait in
    their queue, and no task has or wants a guard. -/
structure Idle (s : Server UInt8) (k : Nat) : Prop where
  serving : s.main = .serving
  running : s.aborted = false
  free : s.channelsLock = RwLock.free
  found : s.channels.get2 sampleSessionKey = some 0
  queue : ∃ x, s.handles[0]? = some x ∧ x.pooling = true ∧ x.queue.length = k

/-- The client opens connection `n` as a data channel. -/
def opens (n : Nat) : List (Server.Action UInt8) :=
  [.accept,
    .arrive n ((Hello.dataChannelHello currentProtoVersion sampleSessionKey).serialize plainBytes),
    .read n, .find n]

/-- The server with one more data channel, which has found its handle. -/
def withOpened (s : Server UInt8) : Server UInt8 :=
  { s with
    conns := s.conns ++ [{ phase := .delivering 0, inbox := [], sent := [] }]
    channelsLock := { holders := [(.conn s.conns.length, .read)], waiting := [] } }

theorem exec_opens {s : Server UInt8} {k : Nat} (h : Idle s k) :
    exec (Server.step Server.sampleEnv) s (opens s.conns.length) = some (withOpened s) := by
  have hread := readHello_serialize (A := plainBytes)
    (h := Hello.dataChannelHello currentProtoVersion sampleSessionKey) rfl []
  rw [List.append_nil] at hread
  have hlock : (RwLock.free.request (Server.Task.conn s.conns.length) .read : RwLock Server.Task)
      = { holders := [(.conn s.conns.length, .read)], waiting := [] } := rfl
  have hheld : (⟨[(.conn s.conns.length, .read)], []⟩ : RwLock Server.Task).Holds
      (.conn s.conns.length) .read := List.mem_cons_self
  simp only [opens, exec, Server.step, h.running, Bool.false_eq_true, if_false, Server.accept,
    h.serving, Server.arrive, List.getElem?_concat_length, Server.setConn, set_concat_length,
    List.nil_append, Server.read, Server.readHello, Server.sampleEnv, hread, Server.move,
    Server.requestChannels, h.free, hlock, Server.find, hheld, if_true, h.found, withOpened]

/-- While the queue has room, the data channel gets into it. -/
theorem idle_deliver {s : Server UInt8} {k : Nat} (h : Idle s k) (hk : k < chanSize * 2) :
    ∃ t, (withOpened s).step Server.sampleEnv (.deliver s.conns.length) = some t ∧
      Idle t (k + 1) := by
  rcases h.queue with ⟨x, hx, hpool, hlen⟩
  rw [← hlen] at hk
  have hrelease : (⟨[(.conn s.conns.length, .read)], []⟩ : RwLock Server.Task).release
      (.conn s.conns.length) .read = RwLock.free := release_only _ _
  have hstep : (withOpened s).step Server.sampleEnv (.deliver s.conns.length) = some { s with
      conns := s.conns ++ [{ phase := .queued 0, inbox := [], sent := [] }]
      handles := s.handles.set 0 { x with queue := x.queue ++ [s.conns.length] }
      channelsLock := RwLock.free } := by
    simp only [Server.step, withOpened, h.running, Bool.false_eq_true, if_false, Server.deliver,
      List.getElem?_concat_length, hx, hpool, if_true, hk, Server.setHandle, Server.move,
      Server.setConn, set_concat_length, Server.releaseChannels, hrelease]
  refine ⟨_, hstep, h.serving, h.running, rfl, h.found, _,
    getElem?_updated hx, hpool, ?_⟩
  rw [List.length_append, hlen, List.length_singleton]

/-- What the server does while every connection can be written to. -/
theorem exec_server {E : Server.Env UInt8} :
    ∀ (as : List (Server.Action UInt8)) {s t : Server UInt8},
      exec (Server.step E) s as = some t →
      exec (step E) { server := s, clogged := [] } (as.map Action.server) =
        some { server := t, clogged := [] } := by
  intro as
  induction as with
  | nil =>
      intro s t h
      rw [exec, Option.some.injEq] at h
      rw [h]
      rfl
  | cons a as ih =>
      intro s t h
      have hopen : (writes a).all (fun i => decide (i ∉ ([] : List Nat))) = true := by
        simp only [List.not_mem_nil, not_false_eq_true, decide_true, Option.all_true]
      cases hstep : s.step E a with
      | none => simp only [exec, hstep, reduceCtorEq] at h
      | some u =>
          simp only [exec, hstep] at h
          simp only [List.map_cons, exec, step, hopen, if_true, hstep, Option.map_some]
          exact ih h

/-- One by one the queue gets full. -/
theorem exists_idle {s : Server UInt8} (h : Idle s 0) : ∀ k, k ≤ chanSize * 2 →
    ∃ as t, exec (Server.step Server.sampleEnv) s as = some t ∧ Idle t k := by
  intro k
  induction k with
  | zero => exact fun _ => ⟨[], s, rfl, h⟩
  | succ k ih =>
      intro hk
      rcases ih (Nat.le_of_succ_le hk) with ⟨as, t, hrun, ht⟩
      rcases idle_deliver ht hk with ⟨u, hu, hidle⟩
      refine ⟨as ++ (opens t.conns.length ++ [.deliver t.conns.length]), u, ?_, hidle⟩
      rw [exec_append, hrun, Option.bind_some, exec_append, exec_opens ht, Option.bind_some]
      simp only [exec, hu]

/-- A client whose service has no visitors opens one data channel more than
    its queue takes. -/
theorem full_queue_stalls :
    ¬ ∀ (E : Server.Env UInt8)
      (services : HashMap (Digest UInt8) (ServerServiceConfig (List UInt8)))
      (as : List (Action UInt8)) (s : Network UInt8),
      exec (step E) (initial services) as = some s → s.Unstalled := by
  intro h
  rcases hrun : exec (Server.step Server.sampleEnv) (Server.initial Server.sshServices)
    (Server.greeted ++ Server.letIn) with _ | s
  · exact absurd hrun (by decide)
  · have hstate : (exec (Server.step Server.sampleEnv) (Server.initial Server.sshServices)
        (Server.greeted ++ Server.letIn)).map (fun s => (s.main, s.aborted, s.channelsLock)) =
        some (.serving, false, RwLock.free) := by decide
    have hchannel : (exec (Server.step Server.sampleEnv) (Server.initial Server.sshServices)
        (Server.greeted ++ Server.letIn)).map (fun s => (s.channels.get2 sampleSessionKey,
          s.handles.map (fun x => (x.pooling, x.queue)))) =
        some (some 0, [(true, [])]) := by decide
    rw [hrun, Option.map_some, Option.some.injEq, Prod.mk.injEq] at hstate hchannel
    rw [Prod.mk.injEq] at hstate
    have hidle : Idle s 0 := by
      refine ⟨hstate.1, hstate.2.1, hstate.2.2, hchannel.1, ?_⟩
      rcases List.map_eq_singleton_iff.mp hchannel.2 with ⟨x, hx, hobs⟩
      rw [Prod.mk.injEq] at hobs
      exact ⟨x, by rw [hx]; rfl, hobs.1, by rw [hobs.2]; rfl⟩
    rcases exists_idle hidle _ (Nat.le_refl _) with ⟨as, t, hfill, ht⟩
    rcases ht.queue with ⟨x, hx, hpool, hlen⟩
    have hall : exec (Server.step Server.sampleEnv) (Server.initial Server.sshServices)
        (Server.greeted ++ Server.letIn ++ (as ++ opens t.conns.length)) =
        some (withOpened t) := by
      rw [exec_append, hrun, Option.bind_some, exec_append, hfill, Option.bind_some,
        exec_opens ht]
    -- The last data channel has the read guard, and waits for room.
    refine h _ _ _ _ (exec_server _ hall) t.conns.length .read
      { phase := .delivering 0, inbox := [], sent := [] } List.mem_cons_self ?_ ?_
    · exact List.getElem?_concat_length
    · exact ⟨x, hx, hpool, Nat.le_of_eq hlen.symm⟩

end Network

end Rathole
