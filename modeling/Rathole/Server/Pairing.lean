import Rathole.Server.Credit

/-!
# Pairing Visitors with Data Channels

The pool of a TCP service takes visitors from one queue and data channels from
another, at different rates: a data channel the command cannot be written to
is used up, and the visitor in hand waits for the next one. `Journal` is the
pool together with what it has been given and what became of it: the data
channels in the order they came into its queue, and every attempt to start
forwarding over one of them.

Every attempt is for the visitor whose turn it is, that is the first one not
yet served, and is made over the next data channel. So visitors are served in
order, and no data channel is tried twice.

## Main definitions

* `TcpPool.Attempt`: A command written to a data channel, or not.
* `TcpPool.Journal`, `Journal.step`: The pool with its record.
* `TcpPool.PoolMove`: What a step is to the pool.
* `Journal.Kept`: The invariant.
* `Journal.OneToOne`: Visitors and data channels are paired one to one.
* `Journal.Abandons`: A step in which the visitor in hand is given up.

## Theorems

* `poolMove_of_step`: Every step is one of these.
* `kept_of_step`: What one step preserves.
* `paired_one_to_one`: The pairing in any run.
-/

namespace Rathole

open Transition

namespace TcpPool

/-- `StartForwardTcp` was written to a data channel for a visitor, or the
    write failed. -/
structure Attempt where
  visitor : Nat
  channel : Nat
  written : Bool
deriving DecidableEq, Repr

/-- The pool, the data channels that have come into its queue, its attempts,
    and the requests nobody was there for. -/
structure Journal where
  pool : TcpPool
  arrived : List Nat
  attempts : List Attempt
  refused : Nat
deriving DecidableEq, Repr

/-- The data channel that comes into the queue. -/
def arrives (s : TcpPool) : Action → List Nat
  | .handle (.deliver ch) => if s.pool = .stopped then [] else [ch]
  | _ => []

/-- The attempt that is made. -/
def attempted (s : TcpPool) : Action → List Attempt
  | .start ok => match s.pool with
    | .starting v ch => [{ visitor := v, channel := ch, written := ok }]
    | _ => []
  | _ => []

/-- A request after a failed write, when the receiver is gone. -/
def refuses (s : TcpPool) : Action → Nat
  | .start false => if s.control = .stopped then 1 else 0
  | _ => 0

namespace Journal

/-- Nothing has come, and nobody was refused. -/
def initial (heartbeatInterval : Nat) : Journal where
  pool := TcpPool.initial heartbeatInterval
  arrived := []
  attempts := []
  refused := 0

/-- What is noted of an action that leads to `t`. -/
def note (g : Journal) (a : Action) (t : TcpPool) : Journal where
  pool := t
  arrived := g.arrived ++ g.pool.arrives a
  attempts := g.attempts ++ g.pool.attempted a
  refused := g.refused + g.pool.refuses a

/-- A step of the pool's tasks, and what is noted of it. -/
def step (g : Journal) (a : Action) : Option Journal := (g.pool.step a).map (g.note a)

/-- The attempts that failed. -/
def failures (g : Journal) : List Attempt := g.attempts.filter (fun x => !x.written)

/-- Visitors and data channels are paired one to one. -/
structure OneToOne (g : Journal) : Prop where
  /-- The visitors are served in the order they are accepted. -/
  visitors : g.pool.paired.map Prod.fst = List.range g.pool.paired.length
  /-- Each is paired over a data channel the command was written to. -/
  written : ∀ v ch, (v, ch) ∈ g.pool.paired ↔ { visitor := v, channel := ch, written := true } ∈
    g.attempts
  /-- Every attempt is for the first visitor that is not served. -/
  turns : ∀ i x, g.attempts[i]? = some x →
    x.visitor = ((g.attempts.take i).filter Attempt.written).length
  /-- Data channels are tried in the order they came. -/
  arrival : (g.attempts.map Attempt.channel).IsPrefix g.arrived
  /-- None is tried twice. -/
  once : (g.attempts.map Attempt.channel).Nodup
  /-- None is used that the write failed on. -/
  broken : ∀ x ∈ g.failures, ∀ p ∈ g.pool.paired, p.2 ≠ x.channel
  /-- Besides the initial requests there is one for every visitor and one for
      every failed write, but the last one may find nobody there. -/
  requests : g.pool.requested + g.refused = tcpPoolSize + g.pool.accepted + g.failures.length
  refused : g.refused ≤ 1 ∧ (g.pool.pool ≠ .stopped → g.refused = 0)

/-- The visitor in hand is neither kept nor served. -/
def Abandons (g g' : Journal) (v : Nat) : Prop :=
  v ∈ g.pool.pool.hand ∧ v ∉ g'.pool.pool.hand ∧ v ∉ g'.pool.paired.map Prod.fst

end Journal

/-! ### What a step is to the pool -/

/-- The pool and its queue of data channels are left alone; a request is sent
    for a visitor that is accepted, and for nothing else. -/
structure Elsewhere (s t : TcpPool) : Prop where
  pool : t.pool = s.pool
  dataCh : t.dataCh = s.dataCh
  paired : t.paired = s.paired
  delivering : t.delivering = s.delivering
  opened : t.opened = s.opened
  requests : t.requested + s.accepted = s.requested + t.accepted

/-- What an action does to the visitors and the data channels. -/
inductive PoolMove (s : TcpPool) : Action → TcpPool → Prop
  | elsewhere {a : Action} {t : TcpPool} (h : Elsewhere s t) (harrives : s.arrives a = [])
      (hattempted : s.attempted a = []) (hrefuses : s.refuses a = 0) : PoolMove s a t
  | opened : PoolMove s (.handle .openCh) { s with
      delivering := s.delivering ++ [s.opened]
      opened := s.opened + 1 }
  | rejected {ch : Nat} (hin : ch ∈ s.delivering) (hp : s.pool = .stopped) :
      PoolMove s (.handle (.deliver ch)) { s with delivering := s.delivering.erase ch }
  | delivered {ch : Nat} (hin : ch ∈ s.delivering) (hp : s.pool ≠ .stopped) :
      PoolMove s (.handle (.deliver ch)) { s with
        delivering := s.delivering.erase ch
        dataCh := s.dataCh ++ [ch] }
  | visitor {v : Nat} {visitors : List Nat} (hp : s.pool = .waiting)
      (hv : s.visitors = v :: visitors) :
      PoolMove s .recvVisitor { s with pool := .pairing v, visitors := visitors }
  | noVisitor (hp : s.pool = .waiting) : PoolMove s .recvVisitor s.stopPool
  | channel {v ch : Nat} {dataCh : List Nat} (hp : s.pool = .pairing v)
      (hch : s.dataCh = ch :: dataCh) : PoolMove s .recvDataCh { s with
        pool := .starting v ch, dataCh := dataCh, taken := s.taken + 1 }
  | noChannel {v : Nat} (hp : s.pool = .pairing v) (hch : s.dataCh = [])
      (hdropped : s.dropped = true) : PoolMove s .recvDataCh s.stopPool
  | started {v ch : Nat} (hp : s.pool = .starting v ch) : PoolMove s (.start true) { s with
      pool := .waiting, paired := s.paired ++ [(v, ch)] }
  | broken {v ch : Nat} (hp : s.pool = .starting v ch) (hc : s.control ≠ .stopped) :
      PoolMove s (.start false) { s with
        dataChReq := s.dataChReq + 1
        requested := s.requested + 1
        pool := .pairing v }
  | refused {v ch : Nat} (hp : s.pool = .starting v ch) (hc : s.control = .stopped) :
      PoolMove s (.start false) s.stopPool

variable {s t : TcpPool} {a : Action}

/-- The listener asks for a data channel when a visitor comes. -/
theorem ListenerMove.elsewhere (h : ListenerMove s t) : Elsewhere s t := by
  cases h with
  | moves | send => exact ⟨rfl, rfl, rfl, rfl, rfl, rfl⟩
  | accept => exact ⟨rfl, rfl, rfl, rfl, rfl, by simp only; omega⟩

/-- The control channel leaves the pool alone, and data channels come into its
    queue. -/
theorem handle_poolMove {b : ControlChannelHandle.Action} (h : s.handle b = some t) :
    PoolMove s (.handle b) t := by
  rcases handle_move h with ⟨g, hg, rfl⟩
  cases hg with
  | opened => exact PoolMove.opened
  | rejected hin hr => exact PoolMove.rejected hin (receiver_eq_false.mp hr)
  | delivered hin hr => exact PoolMove.delivered hin (receiver_eq_true.mp hr)
  | _ => exact PoolMove.elsewhere ⟨rfl, rfl, rfl, rfl, rfl, rfl⟩ rfl rfl rfl

theorem QueueMove.poolMove (h : QueueMove s a t) : PoolMove s a t := by
  cases h with
  | visitor hp hv => exact PoolMove.visitor hp hv
  | noVisitor hp => exact PoolMove.noVisitor hp
  | channel hp hch => exact PoolMove.channel hp hch
  | noChannel hp hch hdropped => exact PoolMove.noChannel hp hch hdropped
  | started hp => exact PoolMove.started hp
  | broken hp hc => exact PoolMove.broken hp hc
  | refused hp hc => exact PoolMove.refused hp hc

theorem poolMove_of_step (h : s.step a = some t) : PoolMove s a t := by
  cases a with
  | bind ok => exact PoolMove.elsewhere (bind_move h).elsewhere rfl rfl rfl
  | accept => exact PoolMove.elsewhere (accept_move h).elsewhere rfl rfl rfl
  | acceptError => exact PoolMove.elsewhere (acceptError_move h).elsewhere rfl rfl rfl
  | wake => exact PoolMove.elsewhere (wake_move h).elsewhere rfl rfl rfl
  | send => exact PoolMove.elsewhere (send_move h).elsewhere rfl rfl rfl
  | recvVisitor => exact (recvVisitor_move h).poolMove
  | recvDataCh => exact (recvDataCh_move h).poolMove
  | start ok => exact (start_move h).poolMove
  | shutdownListener => exact PoolMove.elsewhere (shutdownListener_move h).elsewhere rfl rfl rfl
  | handle b => exact handle_poolMove h

/-! ### The invariant -/

/-- The data channel that is being tried. -/
def PoolPc.held : PoolPc → List Nat
  | .starting _ ch => [ch]
  | _ => []

namespace Journal

/-- What has been noted accounts for what the pool has. -/
structure Kept (g : Journal) : Prop where
  credit : g.pool.Credit
  visitors : g.pool.paired.map Prod.fst = List.range g.pool.paired.length
  pairs : g.pool.paired = (g.attempts.filter Attempt.written).map (fun x => (x.visitor, x.channel))
  turns : ∀ i x, g.attempts[i]? = some x →
    x.visitor = ((g.attempts.take i).filter Attempt.written).length
  arrival : (g.attempts.map Attempt.channel).IsPrefix g.arrived
  queue : g.pool.pool ≠ .stopped →
    g.attempts.map Attempt.channel ++ g.pool.pool.held ++ g.pool.dataCh = g.arrived
  fresh : (g.arrived ++ g.pool.delivering).Nodup
  opened : ∀ ch ∈ g.arrived ++ g.pool.delivering, ch < g.pool.opened
  requests : g.pool.requested + g.refused = tcpPoolSize + g.pool.accepted + g.failures.length
  refused : g.refused ≤ 1 ∧ (g.pool.pool ≠ .stopped → g.refused = 0)

variable {g g' : Journal} {a : Action} {heartbeatInterval : Nat}

theorem kept_initial (heartbeatInterval : Nat) : (initial heartbeatInterval).Kept where
  credit := credit_initial heartbeatInterval
  visitors := rfl
  pairs := rfl
  turns := fun i x h => absurd h (by
    simp only [initial, List.getElem?_nil, reduceCtorEq, not_false_eq_true])
  arrival := List.prefix_refl _
  queue := fun _ => rfl
  fresh := List.nodup_nil
  opened := fun ch h => absurd h List.not_mem_nil
  requests := rfl
  refused := ⟨Nat.zero_le 1, fun _ => rfl⟩

/-- The visitor in hand is the first that is not served. -/
theorem Kept.hand (hk : g.Kept) {v : Nat} (hp : g.pool.pool.hand = [v]) :
    v = (g.attempts.filter Attempt.written).length := by
  have hrun : g.pool.pool ≠ .stopped := by
    intro hs
    rw [hs] at hp
    simp only [PoolPc.hand, reduceCtorEq] at hp
  have horder := hk.credit.order hrun
  rw [waiting, hp, List.append_assoc, List.singleton_append] at horder
  have hlen : (g.pool.paired.map Prod.fst).length = (g.attempts.filter Attempt.written).length := by
    rw [List.length_map, hk.pairs, List.length_map]
  -- It stands in the list of all visitors behind those that are served.
  have hat : (List.range g.pool.accepted)[(g.pool.paired.map Prod.fst).length]? = some v := by
    rw [← horder, List.getElem?_append_right (Nat.le_refl _), Nat.sub_self, List.getElem?_cons_zero]
  rcases List.getElem?_eq_some_iff.mp hat with ⟨hlt, hv⟩
  rw [List.getElem_range] at hv
  rw [← hv, hlen]

/-- Nothing is noted: the queues are accounted for as before. -/
theorem Kept.quiet {t : TcpPool} (hk : g.Kept) (hcredit : t.Credit)
    (hnote : g.note a t = { g with pool := t }) (hpaired : t.paired = g.pool.paired)
    (hqueue : t.pool ≠ .stopped → g.pool.pool ≠ .stopped ∧
      t.pool.held ++ t.dataCh = g.pool.pool.held ++ g.pool.dataCh)
    (hfresh : (g.arrived ++ t.delivering).Nodup)
    (hopened : ∀ ch ∈ g.arrived ++ t.delivering, ch < t.opened)
    (hrequests : t.requested + g.pool.accepted = g.pool.requested + t.accepted) :
    (g.note a t).Kept := by
  rw [hnote]
  have hold := hk.requests
  refine ⟨hcredit, ?_, ?_, hk.turns, hk.arrival, ?_, hfresh, hopened, ?_, hk.refused.1, ?_⟩
  · rw [hpaired]
    exact hk.visitors
  · rw [hpaired]
    exact hk.pairs
  · intro hp
    rw [List.append_assoc, (hqueue hp).2, ← List.append_assoc]
    exact hk.queue (hqueue hp).1
  · simp only [failures] at hold ⊢
    omega
  · exact fun hp => hk.refused.2 (hqueue hp).1

theorem note_quiet {t : TcpPool} (harrives : g.pool.arrives a = [])
    (hattempted : g.pool.attempted a = []) (hrefuses : g.pool.refuses a = 0) :
    g.note a t = { g with pool := t } := by
  rw [note, harrives, hattempted, hrefuses, List.append_nil, List.append_nil, Nat.add_zero]

/-- One attempt more, for the visitor whose turn it is. -/
theorem turns_append {attempts : List Attempt} {x : Attempt}
    (h : ∀ i y, attempts[i]? = some y →
      y.visitor = ((attempts.take i).filter Attempt.written).length)
    (hx : x.visitor = (attempts.filter Attempt.written).length) (i : Nat) (y : Attempt)
    (hy : (attempts ++ [x])[i]? = some y) :
    y.visitor = (((attempts ++ [x]).take i).filter Attempt.written).length := by
  rcases Nat.lt_trichotomy i attempts.length with hlt | heq | hgt
  · rw [List.getElem?_append_left hlt] at hy
    rw [List.take_append_of_le_length (Nat.le_of_lt hlt)]
    exact h i y hy
  · rw [heq, List.getElem?_concat_length, Option.some.injEq] at hy
    rw [heq, List.take_left, ← hy]
    exact hx
  · rw [List.getElem?_eq_none (by rw [List.length_append, List.length_singleton]; omega)] at hy
    simp only [reduceCtorEq] at hy

/-- The data channel that is tried is the next one that came. -/
theorem Kept.next (hk : g.Kept) {v ch : Nat} (hp : g.pool.pool = .starting v ch) :
    (g.attempts.map Attempt.channel ++ [ch]) ++ g.pool.dataCh = g.arrived := by
  have hqueue := hk.queue (by rw [hp]; simp only [ne_eq, reduceCtorEq, not_false_eq_true])
  rwa [hp] at hqueue

theorem attempted_start {x : Attempt} (hp : s.pool = .starting x.visitor x.channel) :
    s.attempted (.start x.written) = [x] := by
  simp only [attempted, hp]

theorem refuses_le (s : TcpPool) (a : Action) : s.refuses a ≤ 1 := by
  unfold refuses
  split
  · by_cases hc : s.control = .stopped
    · rw [if_pos hc]
    · rw [if_neg hc]
      exact Nat.zero_le 1
  · exact Nat.zero_le 1

/-- An attempt is noted. -/
theorem Kept.attempt {t : TcpPool} {x : Attempt} (hk : g.Kept) (hcredit : t.Credit)
    (hp : g.pool.pool = .starting x.visitor x.channel)
    (hvisitors : t.paired.map Prod.fst = List.range t.paired.length)
    (hpairs : t.paired = ((g.attempts ++ [x]).filter Attempt.written).map
      (fun x => (x.visitor, x.channel)))
    (hqueue : t.pool ≠ .stopped → t.pool.held ++ t.dataCh = g.pool.dataCh)
    (hdelivering : t.delivering = g.pool.delivering) (hopened : t.opened = g.pool.opened)
    (hrequests : t.requested + (g.refused + g.pool.refuses (.start x.written)) = tcpPoolSize +
      t.accepted + ((g.attempts ++ [x]).filter (fun x => !x.written)).length)
    (hrefused : t.pool ≠ .stopped → g.pool.refuses (.start x.written) = 0) :
    (g.note (.start x.written) t).Kept := by
  have hrun : g.pool.pool ≠ .stopped := by
    rw [hp]
    simp only [ne_eq, reduceCtorEq, not_false_eq_true]
  have hnone := hk.refused.2 hrun
  have hle := refuses_le g.pool (.start x.written)
  have hnext := hk.next hp
  have harrived : g.arrived ++ g.pool.arrives (.start x.written) = g.arrived :=
    List.append_nil g.arrived
  unfold note
  rw [attempted_start hp, harrived]
  refine ⟨hcredit, hvisitors, hpairs, ?_, ?_, ?_, ?_, ?_, hrequests, ?_, ?_⟩
  · exact turns_append hk.turns (hk.hand (by rw [hp]; rfl))
  · refine ⟨g.pool.dataCh, ?_⟩
    rw [List.map_append]
    exact hnext
  · intro hstopped
    rw [List.map_append, List.append_assoc, hqueue hstopped]
    exact hnext
  · rw [hdelivering]
    exact hk.fresh
  · rw [hdelivering, hopened]
    exact hk.opened
  · show g.refused + _ ≤ 1
    omega
  · intro hstopped
    show g.refused + _ = 0
    rw [hnone, hrefused hstopped]

/-- An attempt that failed, after which there is one request more, sent or
    refused. -/
theorem Kept.failed {t : TcpPool} {v ch : Nat} (hk : g.Kept) (hcredit : t.Credit)
    (hp : g.pool.pool = .starting v ch) (hpaired : t.paired = g.pool.paired)
    (hqueue : t.pool ≠ .stopped → t.pool.held ++ t.dataCh = g.pool.dataCh)
    (hdelivering : t.delivering = g.pool.delivering) (hopened : t.opened = g.pool.opened)
    (haccepted : t.accepted = g.pool.accepted)
    (hrequests : t.requested + g.pool.refuses (.start false) = g.pool.requested + 1)
    (hrefused : t.pool ≠ .stopped → g.pool.refuses (.start false) = 0) :
    (g.note (.start false) t).Kept := by
  have hold := hk.requests
  refine hk.attempt (x := ⟨v, ch, false⟩) hcredit hp ?_ ?_ hqueue hdelivering hopened ?_ hrefused
  · rw [hpaired]
    exact hk.visitors
  · rw [hpaired, List.filter_append, List.map_append, ← hk.pairs]
    exact (List.append_nil _).symm
  · rw [List.filter_append, List.length_append, haccepted]
    simp only [failures, Bool.not_false, List.filter_cons_of_pos, List.filter_nil,
      List.length_singleton] at hold ⊢
    omega

/-- An attempt that worked serves the visitor whose turn it is. -/
theorem Kept.started {v ch : Nat} (hk : g.Kept) (hp : g.pool.pool = .starting v ch)
    (hcredit : Credit { g.pool with pool := .waiting, paired := g.pool.paired ++ [(v, ch)] }) :
    (g.note (.start true)
      { g.pool with pool := .waiting, paired := g.pool.paired ++ [(v, ch)] }).Kept := by
  have hturn := hk.hand (v := v) (by rw [hp]; rfl)
  have hlen : g.pool.paired.length = v := by rw [hturn, hk.pairs, List.length_map]
  refine hk.attempt (x := ⟨v, ch, true⟩) hcredit hp ?_ ?_ (fun _ => rfl) rfl rfl ?_ (fun _ => rfl)
  · rw [List.map_append, hk.visitors, List.length_append, List.length_singleton,
      List.range_succ, hlen]
    rfl
  · rw [List.filter_append, List.map_append, ← hk.pairs]
    rfl
  · rw [List.filter_append, List.length_append]
    exact hk.requests

/-- The number of a new data channel is greater than all before it. -/
theorem Kept.openCh (hk : g.Kept) (hcredit : Credit { g.pool with
      delivering := g.pool.delivering ++ [g.pool.opened]
      opened := g.pool.opened + 1 }) :
    (g.note (.handle .openCh) { g.pool with
      delivering := g.pool.delivering ++ [g.pool.opened]
      opened := g.pool.opened + 1 }).Kept := by
  refine hk.quiet hcredit (note_quiet rfl rfl rfl) rfl (fun hp => ⟨hp, rfl⟩) ?_ ?_ rfl
  · rw [← List.append_assoc, List.nodup_append_comm, List.singleton_append, List.nodup_cons]
    exact ⟨fun hmem => Nat.lt_irrefl _ (hk.opened _ hmem), hk.fresh⟩
  · intro ch hch
    rw [← List.append_assoc, List.mem_append, List.mem_singleton] at hch
    rcases hch with hold | hnew
    · exact Nat.lt_succ_of_lt (hk.opened ch hold)
    · rw [hnew]
      exact Nat.lt_succ_self _

/-- A data channel goes from those that are being delivered to those that
    came. -/
theorem Kept.deliver {ch : Nat} (hk : g.Kept) (hin : ch ∈ g.pool.delivering)
    (hp : g.pool.pool ≠ .stopped) (hcredit : Credit { g.pool with
      delivering := g.pool.delivering.erase ch
      dataCh := g.pool.dataCh ++ [ch] }) :
    (g.note (.handle (.deliver ch)) { g.pool with
      delivering := g.pool.delivering.erase ch
      dataCh := g.pool.dataCh ++ [ch] }).Kept := by
  have harrives : g.pool.arrives (.handle (.deliver ch)) = [ch] := if_neg hp
  have hmoved : (g.arrived ++ [ch] ++ g.pool.delivering.erase ch).Perm
      (g.arrived ++ g.pool.delivering) := by
    rw [List.append_assoc, List.singleton_append]
    exact (List.perm_cons_erase hin).symm.append_left g.arrived
  unfold note
  rw [harrives]
  refine ⟨hcredit, hk.visitors, ?_, ?_, ?_, ?_, ?_, ?_, ?_, hk.refused⟩
  · exact (List.append_nil g.attempts).symm ▸ hk.pairs
  · exact (List.append_nil g.attempts).symm ▸ hk.turns
  · exact (List.append_nil g.attempts).symm ▸ hk.arrival.trans (List.prefix_append _ _)
  · intro hrun
    show (g.attempts ++ []).map Attempt.channel ++ _ ++ (g.pool.dataCh ++ [ch]) = _
    rw [List.append_nil, ← List.append_assoc, hk.queue hrun]
  · exact hmoved.nodup_iff.mpr hk.fresh
  · exact fun ch' hch' => hk.opened ch' (hmoved.mem_iff.mp hch')
  · exact (List.append_nil g.attempts).symm ▸ hk.requests

theorem kept_of_move {t : TcpPool} (hk : g.Kept) (hcredit : t.Credit)
    (hm : PoolMove g.pool a t) : (g.note a t).Kept := by
  cases hm with
  | elsewhere h harrives hattempted hrefuses =>
      refine hk.quiet hcredit (note_quiet harrives hattempted hrefuses) h.paired ?_ ?_ ?_ h.requests
      · rw [h.pool, h.dataCh]
        exact fun hp => ⟨hp, rfl⟩
      · rw [h.delivering]
        exact hk.fresh
      · rw [h.delivering, h.opened]
        exact hk.opened
  | opened => exact hk.openCh hcredit
  | rejected hin hp =>
      have harrives : ∀ ch, g.pool.arrives (.handle (.deliver ch)) = [] := fun ch => if_pos hp
      refine hk.quiet hcredit (note_quiet (harrives _) rfl rfl) rfl (fun hrun => absurd hp hrun)
        ?_ ?_ rfl
      · exact hk.fresh.sublist (List.Sublist.append_left (List.erase_sublist) _)
      · intro ch hch
        exact hk.opened ch ((List.Sublist.append_left (List.erase_sublist) _).subset hch)
  | delivered hin hp => exact hk.deliver hin hp hcredit
  | visitor hp hv =>
      refine hk.quiet hcredit (note_quiet rfl rfl rfl) rfl (fun _ => ?_) hk.fresh hk.opened rfl
      rw [hp]
      exact ⟨by simp only [ne_eq, reduceCtorEq, not_false_eq_true], rfl⟩
  | channel hp hch =>
      refine hk.quiet hcredit (note_quiet rfl rfl rfl) rfl (fun _ => ?_) hk.fresh hk.opened rfl
      rw [hp, hch]
      exact ⟨by simp only [ne_eq, reduceCtorEq, not_false_eq_true], rfl⟩
  | noVisitor | noChannel =>
      exact hk.quiet hcredit (note_quiet rfl rfl rfl) rfl (fun hrun => absurd rfl hrun) hk.fresh
        hk.opened rfl
  | started hp => exact hk.started hp hcredit
  | broken hp hc =>
      -- The control channel takes the request.
      have hrefuses : g.pool.refuses (.start false) = 0 := if_neg hc
      exact hk.failed hcredit hp rfl (fun _ => rfl) rfl rfl rfl
        (by rw [hrefuses]) (fun _ => hrefuses)
  | refused hp hc =>
      -- Nobody takes it, and the pool ends.
      have hrefuses : g.pool.refuses (.start false) = 1 := if_pos hc
      exact hk.failed hcredit hp rfl (fun hrun => absurd rfl hrun) rfl rfl rfl
        (by rw [hrefuses]; rfl) (fun hrun => absurd rfl hrun)

/-- The step lemma. -/
theorem kept_of_step (hk : g.Kept) (h : g.step a = some g') : g'.Kept := by
  rcases Option.map_eq_some_iff.mp h with ⟨t, ht, rfl⟩
  exact kept_of_move hk (credit_of_step hk.credit ht) (poolMove_of_step ht)

theorem Kept.oneToOne (hk : g.Kept) : g.OneToOne := by
  have honce : (g.attempts.map Attempt.channel).Nodup :=
    (hk.fresh.sublist (List.sublist_append_left _ _)).sublist hk.arrival.sublist
  refine ⟨hk.visitors, ?_, hk.turns, hk.arrival, honce, ?_, hk.requests, hk.refused⟩
  · intro v ch
    rw [hk.pairs, List.mem_map]
    constructor
    · rintro ⟨x, hx, heq⟩
      rw [List.mem_filter] at hx
      simp only [Prod.mk.injEq] at heq
      rcases x with ⟨xv, xch, xw⟩
      simp only at heq hx
      rw [← heq.1, ← heq.2, ← hx.2]
      exact hx.1
    · intro hx
      exact ⟨_, List.mem_filter.mpr ⟨hx, rfl⟩, rfl⟩
  · intro x hx p hp heq
    rw [failures, List.mem_filter] at hx
    rw [hk.pairs, List.mem_map] at hp
    rcases hp with ⟨y, hy, rfl⟩
    rw [List.mem_filter] at hy
    -- The same data channel would be the same attempt.
    have hsame := List.inj_on_of_nodup_map honce hy.1 hx.1 heq
    rw [hsame] at hy
    rw [hy.2] at hx
    exact absurd hx.2 (by decide)

/-- The visitor in hand is given up only with a queue that is closed. -/
theorem closed_of_abandons {v : Nat} (h : g.step a = some g') (hab : g.Abandons g' v) :
    (g.pool.dropped = true ∧ g.pool.dataCh = []) ∨
      (g.pool.control = .stopped ∧ a = .start false) := by
  rcases Option.map_eq_some_iff.mp h with ⟨t, ht, rfl⟩
  rcases hab with ⟨hin, hout, hnot⟩
  cases poolMove_of_step ht with
  | elsewhere h =>
      rw [← h.pool] at hin
      exact absurd hin hout
  | opened | rejected | delivered => exact absurd hin hout
  | visitor hp | noVisitor hp =>
      rw [hp] at hin
      exact absurd hin List.not_mem_nil
  | channel hp | broken hp =>
      rw [hp] at hin
      exact absurd hin hout
  | noChannel hp hch hdropped => exact Or.inl ⟨hdropped, hch⟩
  | @started v' ch hp =>
      -- This visitor is served.
      rw [hp, PoolPc.hand, List.mem_singleton] at hin
      refine absurd ?_ hnot
      rw [hin]
      exact List.mem_map_of_mem (List.mem_append_right _ (List.mem_singleton.mpr rfl))
  | refused _ hc => exact Or.inr ⟨hc, rfl⟩

/-- In every run the visitors and the data channels are paired one to one, and
    the visitor in hand is given up only once the queue of data channels is
    closed and empty, or after a failed write the queue of requests is
    closed. -/
theorem paired_one_to_one (heartbeatInterval : Nat) (g : Journal)
    (hr : Reaches step (fun _ _ => True) (initial heartbeatInterval) g) :
    g.OneToOne ∧ ∀ (a : Action) (g' : Journal) (v : Nat), g.step a = some g' → g.Abandons g' v →
      (g.pool.dropped = true ∧ g.pool.dataCh = []) ∨
        (g.pool.control = .stopped ∧ a = .start false) := by
  have hk : g.Kept :=
    hr.invariant (fun _ _ _ hk _ hst => kept_of_step hk hst) (kept_initial heartbeatInterval)
  exact ⟨hk.oneToOne, fun _ _ _ hst hab => closed_of_abandons hst hab⟩

/-- The first data channel of a visitor is broken, and the second works. -/
def secondTry : List Action :=
  [.bind true, .accept, .send, .recvVisitor, .handle .openCh, .handle .openCh,
    .handle (.deliver 0), .handle (.deliver 1), .recvDataCh, .start false, .recvDataCh,
    .start true]

theorem secondTry_one_to_one :
    ∃ g, exec step (initial 30) secondTry = some g ∧ g.pool.paired = [(0, 1)] ∧ g.OneToOne := by
  rcases hrun : exec step (initial 30) secondTry with _ | g
  · exact absurd hrun (by decide)
  · have hpaired : (exec step (initial 30) secondTry).map (fun g => g.pool.paired) =
        some [(0, 1)] := by decide
    rw [hrun, Option.map_some, Option.some.injEq] at hpaired
    exact ⟨g, rfl, hpaired, (paired_one_to_one 30 g (reaches_of_exec _ _ _ hrun)).1⟩

end Journal

end TcpPool

end Rathole
