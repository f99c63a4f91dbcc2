import Mathlib.Data.List.TakeDrop
import Rathole.Client.UdpFlow

/-!
# Where the Client's Payloads Come From

The client copies every payload it passes on, and copies it once more than it
needs to: a reply of the service is received into a buffer of
`UDP_BUFFER_SIZE` bytes. To speak about what has become of a datagram, the
datagrams themselves are kept beside the data channel, each at the place where
the payload stands that the client has made of it. An action moves both alike.

## Main definitions

* `buffered`: What a buffer of `UDP_BUFFER_SIZE` bytes keeps of a datagram.
* `Origins`: The datagrams behind the payloads in the client.
* `Origins.move`: How an action moves them.
* `Origins.Mirrors`: Every payload is what a buffer keeps of its datagram.

## Theorems

* `buffered_eq_iff`: What a buffer keeps whole.
* `mirrors_of_step`: A step keeps payloads and datagrams together.
* `handed_mirrors`: So what is handed to a socket belongs to the datagram that
  is at its place.
-/


namespace Rathole

namespace Client

namespace Udp

/-- What a buffer of `UDP_BUFFER_SIZE` bytes keeps of a datagram. -/
def buffered (data : List UInt8) : List UInt8 := data.take udpBufferSize

theorem buffered_eq_iff {data : List UInt8} :
    buffered data = data ↔ data.length ≤ udpBufferSize :=
  List.take_eq_self_iff data

/-- The datagrams behind the packet in the reader loop's hand, the forwarders'
    queues, the replies in their hands, and the outbound queue. -/
structure Origins where
  hand : List (List UInt8)
  queued : Nat → List (List UInt8)
  reply : Nat → List UInt8
  outbound : List (List UInt8)

namespace Origins

/-- Nothing is on its way. -/
def initial : Origins where
  hand := []
  queued := fun _ => []
  reply := fun _ => []
  outbound := []

variable {α : Type}

/-- The datagrams move with the payloads. -/
def move (o : Origins) (c : UdpChannel α) : Action α → Origins
  | .connect true => { o with queued := Function.update o.queued c.spawned [] }
  | .sendInbound => match c.reader with
    | .sending _ i _ => { o with queued := Function.update o.queued i (o.queued i ++ o.hand) }
    | _ => o
  | .inbound i _ => { o with queued := Function.update o.queued i ((o.queued i).drop 1) }
  | .receive i data => { o with reply := Function.update o.reply i data }
  | .emit i => if c.writerAlive then { o with outbound := o.outbound ++ [o.reply i] } else o
  | .writeOut _ => { o with outbound := o.outbound.drop 1 }
  | _ => o

/-- The payloads of a forwarder are what a buffer keeps of the datagrams at
    their places. A task that has returned has no payloads. -/
structure Holds (f : Forwarder α) (queued : List (List UInt8)) (reply : List UInt8) : Prop where
  queued : f.pc ≠ .returned → f.inbound = queued.map buffered
  reply : ∀ data, f.pc = .emitting data → data = buffered reply

/-- Every payload in the client is what a buffer keeps of the datagram at its
    place. -/
structure Mirrors (o : Origins) (c : UdpChannel α) : Prop where
  hand : ∀ p ∈ c.reader.inHand, [p.data] = o.hand.map buffered
  forwarders : ∀ i f, c.forwarders i = some f → Holds f (o.queued i) (o.reply i)
  outbound : c.outbound.map UdpTraffic.data = o.outbound.map buffered

theorem mirrors_initial : initial.Mirrors (UdpChannel.initial : UdpChannel α) where
  hand := fun _ h => absurd h List.not_mem_nil
  forwarders := fun _ _ h => by simp only [UdpChannel.initial, reduceCtorEq] at h
  outbound := rfl

section Steps

variable {o o' : Origins} {c c' : UdpChannel α} {a : Action α} {i : Nat} {f g : Forwarder α}

/-- One forwarder moves, and its datagrams with it. -/
theorem holds_of_update (h : o.Mirrors c) (hq : ∀ j, j ≠ i → o'.queued j = o.queued j)
    (hr : ∀ j, j ≠ i → o'.reply j = o.reply j) (hg : Holds g (o'.queued i) (o'.reply i)) :
    ∀ j f, Function.update c.forwarders i (some g) j = some f →
      Holds f (o'.queued j) (o'.reply j) := by
  intro j f hf
  by_cases hj : j = i
  · rw [hj, Function.update_self, Option.some.injEq] at hf
    rw [hj, ← hf]
    exact hg
  · rw [Function.update_of_ne hj] at hf
    rw [hq j hj, hr j hj]
    exact h.forwarders j f hf

/-- What is in the queue of a forwarder that is at one of its awaits. -/
theorem Mirrors.queue {pc : ForwarderPc} (h : o.Mirrors c) (hf : c.forwarders i = some f)
    (hpc : f.pc = pc) (hlive : pc ≠ .returned) : f.inbound = (o.queued i).map buffered :=
  (h.forwarders i f hf).queued (hpc ▸ hlive)

/-- A forwarder with no reply in hand that has the queue it had. -/
theorem Mirrors.quiet {pc : ForwarderPc} (h : o.Mirrors c) (hf : c.forwarders i = some f)
    (hpc : f.pc = pc) (hlive : pc ≠ .returned) (hin : g.inbound = f.inbound)
    (hnone : ∀ data, g.pc ≠ .emitting data) : Holds g (o.queued i) (o.reply i) where
  queued := fun _ => by rw [hin]; exact h.queue hf hpc hlive
  reply := fun data hg => absurd hg (hnone data)

/-- A forwarder that has returned. -/
theorem holds_returned (hg : g.pc = .returned) (queued : List (List UInt8))
    (reply : List UInt8) : Holds g queued reply where
  queued := fun hlive => absurd hg hlive
  reply := fun data hpc => by rw [hg] at hpc; simp only [reduceCtorEq] at hpc

/-- The packet in hand goes into a queue, and its datagram with it. -/
theorem sendInbound_mirrors (h : o.Mirrors c) (hst : c.sendInbound = some c') :
    (o.move c .sendInbound).Mirrors c' := by
  rcases UdpChannel.sendInbound_cases hst with
    ⟨p, i, sh, f, hr, hf, ⟨hret, rfl⟩ | ⟨hlive, _, rfl⟩⟩
  · simp only [move, hr]
    refine ⟨fun _ hp => absurd hp List.not_mem_nil, fun j g hg => ?_, h.outbound⟩
    by_cases hj : j = i
    · -- Nobody reads this queue any more.
      have hgf : g = f := Option.some.inj (hg.symm.trans (hj ▸ hf))
      refine ⟨fun hlive => absurd (hgf ▸ hret) hlive, fun data hpc => ?_⟩
      exact (h.forwarders j g hg).reply data hpc
    · refine ⟨fun hlive => ?_, (h.forwarders j g hg).reply⟩
      simp only [Function.update_of_ne hj]
      exact (h.forwarders j g hg).queued hlive
  · simp only [move, hr]
    have hhand : [p.data] = o.hand.map buffered :=
      h.hand p (by rw [hr]; exact List.mem_singleton_self p)
    refine ⟨fun _ hp => absurd hp List.not_mem_nil, ?_, h.outbound⟩
    refine holds_of_update (c := c) h (fun j hj => Function.update_of_ne hj _ _)
      (fun _ _ => rfl) ?_
    refine ⟨fun _ => ?_, (h.forwarders i f hf).reply⟩
    simp only [Function.update_self, List.map_append]
    rw [(h.forwarders i f hf).queued hlive, hhand]

/-- A new forwarder has nothing in its queue. -/
theorem connect_mirrors [DecidableEq α] {ok : Bool} (h : o.Mirrors c)
    (hst : c.connect ok = some c') :
    (o.move c (.connect ok)).Mirrors c' := by
  have hhand := h.hand
  rcases UdpChannel.connect_cases hst with ⟨p, hr, _, ⟨rfl, rfl⟩ | ⟨rfl, rfl⟩⟩
  · rw [hr] at hhand
    refine ⟨hhand, ?_, h.outbound⟩
    refine holds_of_update h (fun j hj => Function.update_of_ne hj _ _) (fun _ _ => rfl) ?_
    refine ⟨fun _ => ?_, fun data hpc => by simp only [reduceCtorEq] at hpc⟩
    simp only [move, Function.update_self, List.map_nil]
  · rw [hr] at hhand
    exact ⟨hhand, h.forwarders, h.outbound⟩

/-- The head of a queue goes to the socket, and its datagram with it. -/
theorem inbound_mirrors {ok : Bool} (h : o.Mirrors c) (hst : c.inbound i ok = some c') :
    (o.move c (.inbound i ok)).Mirrors c' := by
  rcases UdpChannel.inbound_cases hst with ⟨f, d, rest, hf, hpc, hq, rfl⟩
  have hold := h.queue hf hpc (by simp only [ne_eq, reduceCtorEq, not_false_eq_true])
  refine ⟨h.hand, ?_, h.outbound⟩
  refine holds_of_update h (fun j hj => Function.update_of_ne hj _ _) (fun _ _ => rfl) ?_
  refine ⟨fun _ => ?_, fun data hpc' => ?_⟩
  · simp only [move, Function.update_self, List.map_drop]
    rw [← hold, hq]
    rfl
  · cases ok with
    | true => simp only [if_true, reduceCtorEq] at hpc'
    | false => simp only [Bool.false_eq_true, if_false, reduceCtorEq] at hpc'

/-- A reply that comes is cut by the buffer. -/
theorem receive_mirrors {data : List UInt8} (h : o.Mirrors c)
    (hst : c.receive i data = some c') : (o.move c (.receive i data)).Mirrors c' := by
  rcases UdpChannel.receive_cases hst with ⟨f, hf, hpc, rfl⟩
  have hold := h.queue hf hpc (by simp only [ne_eq, reduceCtorEq, not_false_eq_true])
  refine ⟨h.hand, ?_, h.outbound⟩
  refine holds_of_update h (fun _ _ => rfl) (fun j hj => Function.update_of_ne hj _ _) ?_
  refine ⟨fun _ => hold, fun data' hpc' => ?_⟩
  simp only [ForwarderPc.emitting.injEq] at hpc'
  simp only [move, Function.update_self]
  exact hpc'.symm

/-- The reply in hand goes into the outbound queue, unless nobody reads it. -/
theorem emit_mirrors (h : o.Mirrors c) (hst : c.emit i = some c') :
    (o.move c (.emit i)).Mirrors c' := by
  rcases UdpChannel.emit_cases hst with ⟨f, data, hf, hpc, ⟨hw, rfl⟩ | ⟨hw, rfl⟩⟩
  · simp only [move, hw, if_true]
    refine ⟨h.hand, ?_, ?_⟩
    · refine holds_of_update h (fun _ _ => rfl) (fun _ _ => rfl) ?_
      exact h.quiet (g := { f with pc := .looping }) hf hpc
        (by simp only [ne_eq, reduceCtorEq, not_false_eq_true]) rfl
        (fun _ => by simp only [ne_eq, reduceCtorEq, not_false_eq_true])
    · rw [List.map_append, List.map_append, h.outbound]
      simp only [List.map_cons, List.map_nil]
      rw [(h.forwarders i f hf).reply data hpc]
  · simp only [move, hw, Bool.false_eq_true, if_false]
    refine ⟨h.hand, ?_, h.outbound⟩
    exact holds_of_update h (fun _ _ => rfl) (fun _ _ => rfl) (holds_returned rfl _ _)

/-- A step keeps payloads and datagrams together, if the datagram of a packet
    that comes is in hand. -/
theorem mirrors_of_step [DecidableEq α] (h : o.Mirrors c) (hst : c.step a = some c')
    (harr : ∀ p ∈ a.arrivals, [p.data] = o.hand.map buffered) : (o.move c a).Mirrors c' := by
  cases a with
  | packet p =>
      rcases UdpChannel.readPacket_cases hst with ⟨_, rfl⟩
      exact ⟨harr, h.forwarders, h.outbound⟩
  | readError =>
      rcases UdpChannel.readError_cases hst with ⟨_, rfl⟩
      exact ⟨fun _ hp => absurd hp List.not_mem_nil, h.forwarders, h.outbound⟩
  | checkMap =>
      -- Whichever way it goes on, the packet stays in hand.
      have hhand := h.hand
      rcases UdpChannel.checkMap_cases hst with ⟨p, hr, _, ⟨_, rfl⟩ | ⟨_, rfl⟩⟩
      · rw [hr] at hhand
        exact ⟨hhand, h.forwarders, h.outbound⟩
      · rw [hr] at hhand
        exact ⟨hhand, h.forwarders, h.outbound⟩
  | connect ok => exact connect_mirrors h hst
  | lookupSender =>
      have hhand := h.hand
      rcases UdpChannel.lookupSender_cases hst with ⟨p, sh, hr, _, ⟨i, _, rfl⟩ | ⟨_, rfl⟩⟩
      · rw [hr] at hhand
        exact ⟨hhand, h.forwarders, h.outbound⟩
      · exact ⟨fun _ hp => absurd hp List.not_mem_nil, h.forwarders, h.outbound⟩
  | sendInbound => exact sendInbound_mirrors h hst
  | inbound i ok => exact inbound_mirrors h hst
  | receive i data => exact receive_mirrors h hst
  | emit i => exact emit_mirrors h hst
  | leave i why =>
      rcases UdpChannel.leave_cases hst with ⟨f, hf, hpc, rfl⟩
      refine ⟨h.hand, ?_, h.outbound⟩
      refine holds_of_update h (fun _ _ => rfl) (fun _ _ => rfl) ?_
      exact h.quiet (g := { f with pc := .cleaning }) hf hpc
        (by simp only [ne_eq, reduceCtorEq, not_false_eq_true]) rfl
        (fun _ => by simp only [ne_eq, reduceCtorEq, not_false_eq_true])
  | cleanup i =>
      rcases UdpChannel.cleanup_cases hst with ⟨f, hf, _, _, rfl⟩
      refine ⟨h.hand, ?_, h.outbound⟩
      exact holds_of_update h (fun _ _ => rfl) (fun _ _ => rfl) (holds_returned rfl _ _)
  | writeOut ok =>
      rcases UdpChannel.writeOut_cases hst with ⟨t, rest, _, ho, rfl⟩
      have hout := h.outbound
      rw [ho] at hout
      refine ⟨h.hand, h.forwarders, ?_⟩
      simp only [move, List.map_drop]
      rw [← hout]
      rfl

/-- What is handed to a socket is what a buffer keeps of the datagram at the
    head of the same queue. -/
theorem handed_mirrors (h : o.Mirrors c) {ok : Bool} (hst : c.inbound i ok = some c') :
    (c.handed (.inbound i ok)).map Prod.snd = ((o.queued i).take 1).map buffered := by
  rcases UdpChannel.inbound_cases hst with ⟨f, d, rest, hf, hpc, hq, _⟩
  have hold := h.queue hf hpc (by simp only [ne_eq, reduceCtorEq, not_false_eq_true])
  have hsnd : (Prod.snd ∘ fun d : List UInt8 => (i, d)) = id := rfl
  simp only [UdpChannel.handed, hf, Option.elim_some, List.map_map, hsnd, List.map_id,
    List.map_take]
  rw [← hold]

/-- So is what is written to the server. -/
theorem written_mirrors (h : o.Mirrors c) (ok : Bool) :
    (c.written (.writeOut ok)).map UdpTraffic.data = (o.outbound.take 1).map buffered := by
  rw [UdpChannel.written, List.map_take, List.map_take, h.outbound]

end Steps

end Origins

end Udp

end Client

end Rathole
