import Rathole.UdpTunnel

/-!
# Isolation of UDP Visitors

All visitors of a UDP service share one data channel, and none of them gets
what belongs to another. A payload carries its visitor's address from the
server's socket to the client, where the port map turns it into a socket, and
back again.

The invariant follows the payloads of one visitor along the way. On the way to
the service they are, in the order they were sent: handed to a socket of the
visitor, queued for the visitor's forwarder, in the reader loop's hand, in the
frames on the stream. Laid end to end these are a sublist of what the server
received from the visitor (`Inbound`). On the way back they are sent to the
visitor, in the frames on the stream, in the outbound queue, in the
forwarder's hand, and laid end to end a sublist of what came from the service
on the visitor's sockets (`Outbound`). Every action moves payloads from one of
these places to the next or loses them, so the lists stay sublists.

No assumption on addresses or lengths is needed for this. What the tunnel
makes of a datagram is `seen`: the address as far as the wire carries it, and
the payload as far as the buffers hold it. Where these lose nothing, the
datagrams are those that were sent.

## Main definitions

* `UdpTunnel.Fits`: The datagrams have such addresses and fit the buffers.
* `UdpTunnel.seen`: What the tunnel makes of a datagram.
* `UdpTunnel.Base`: Sockets and packets belong to addresses off the wire.
* `UdpTunnel.Inbound`, `UdpTunnel.Outbound`: The two ways of a payload.
* `UdpTunnel.Inv`: What holds along every run.

## Theorems

* `advance_inbound`, `advance_outbound`: What a client action does on the two
  ways.
* `step_inv`: A step keeps the invariant.
* `visitors_isolated`: No run mixes up two visitors.
-/

namespace Rathole

open ByteStream Client.Udp Transition

namespace UdpTunnel

/-- The visitors' addresses are carried whole, and the datagrams of both sides
    fit the buffers. -/
def Fits (_ : UdpTunnel) : TunnelAction → Prop
  | .recvFrom t _ => t.source.Plain ∧ t.data.length ≤ udpBufferSize
  | .task (.receive _ data) => data.length ≤ udpBufferSize
  | _ => True

instance (s : UdpTunnel) (a : TunnelAction) : Decidable (s.Fits a) := by
  unfold Fits
  split
  all_goals infer_instance

/-- What the tunnel makes of a datagram. -/
def seen (t : UdpTraffic SocketAddr) : UdpTraffic SocketAddr :=
  { source := t.source.compact, data := t.data.take udpBufferSize }

/-- Sockets and packets belong to addresses that came off the wire, and the
    histories only name sockets that have been opened. -/
structure Base (s : UdpTunnel) : Prop where
  map : s.client.MapInv
  opened : ∀ i v, s.client.opener i = some v → v.compact = v
  inHand : ∀ p ∈ s.client.reader.inHand, p.source.compact = p.source
  forwarded : ∀ e ∈ s.forwarded, ∃ v, s.client.opener e.1 = some v
  replies : ∀ e ∈ s.replies, ∃ v, s.client.opener e.1 = some v

/-- The payloads of each visitor on the way to the service, with these frames
    on the stream. -/
def Inbound (s : UdpTunnel) (frames : List (UdpTraffic SocketAddr)) : Prop :=
  ∀ v, (s.sentFor v ++ (s.client.pending v ++ packetsFor v frames)).Sublist
    (packetsFor v (s.received.map seen))

/-- The payloads of each visitor on the way back, with these frames on the
    stream. -/
def Outbound (s : UdpTunnel) (frames : List (UdpTraffic SocketAddr)) : Prop :=
  ∀ v, (s.returnedTo v ++ (packetsFor v frames ++ s.client.outgoing v)).Sublist
    ((s.repliesFor v).map (List.take udpBufferSize))

/-- What holds along every run. -/
structure Inv (s : UdpTunnel) : Prop where
  base : s.Base
  down : ∃ frames, udpCodec.Carries s.serving s.down frames ∧ s.Inbound frames
  up : ∃ frames, udpCodec.Carries s.client.writerAlive s.up frames ∧ s.Outbound frames

theorem inv_initial : initial.Inv where
  base :=
    { map := UdpChannel.mapInv_initial
      opened := fun i v h => by
        simp only [initial, UdpChannel.initial, UdpChannel.opener, Option.map_none,
          reduceCtorEq] at h
      inHand := fun p h => absurd h List.not_mem_nil
      forwarded := fun e h => absurd h List.not_mem_nil
      replies := fun e h => absurd h List.not_mem_nil }
  down := ⟨[], udpCodec.carries_nil _, fun _ => List.Sublist.refl _⟩
  up := ⟨[], udpCodec.carries_nil _, fun _ => List.Sublist.refl _⟩

section Steps

variable {s s' : UdpTunnel} {a : Client.Udp.Action SocketAddr}
  {frames : List (UdpTraffic SocketAddr)} {v : SocketAddr}

/-! ### Actions of the client -/

theorem advance_base (h : s.Base) (hst : s.advance a = some s')
    (harr : ∀ p ∈ a.arrivals, p.source.compact = p.source) : s'.Base := by
  rcases advance_cases hst with ⟨client, hstep, rfl⟩
  have hkeep : ∀ {e : Nat × List UInt8}, (∃ w, s.client.opener e.1 = some w) →
      ∃ w, client.opener e.1 = some w := by
    rintro e ⟨w, hw⟩
    exact ⟨w, UdpChannel.step_opener h.map hstep hw⟩
  refine ⟨UdpChannel.step_mapInv h.map hstep, ?_, ?_, ?_, ?_⟩
  · intro i w hw
    -- Only `connect` opens a socket, for the visitor of the packet in hand.
    rcases UdpChannel.step_opener_cases hstep with hsame | ⟨p, hr, hnew⟩
    · exact h.opened i w ((hsame i).symm.trans hw)
    · simp only [hnew] at hw
      by_cases hi : i = s.client.spawned
      · rw [if_pos hi, Option.some.injEq] at hw
        rw [← hw]
        exact h.inHand p (by rw [hr]; exact List.mem_singleton_self p)
      · rw [if_neg hi] at hw
        exact h.opened i w hw
  · intro p hp
    -- The packet in hand is the old one, or one that arrives now.
    rcases UdpChannel.step_inHand hstep hp with hp | hp
    · exact h.inHand p hp
    · exact harr p hp
  · intro e he
    rcases List.mem_append.mp he with he | he
    · exact hkeep (h.forwarded e he)
    · exact hkeep (UdpChannel.opener_of_handed he)
  · intro e he
    rcases List.mem_append.mp he with he | he
    · exact hkeep (h.replies e he)
    · exact hkeep (UdpChannel.opener_of_replies hstep he)

/-- On the way to the service an action of the client takes the packets that
    arrive from the front of the frames. -/
theorem advance_inbound (h : s.Base) (hst : s.advance a = some s')
    (hin : s.Inbound (a.arrivals ++ frames)) : s'.Inbound frames := by
  rcases advance_cases hst with ⟨client, hstep, rfl⟩
  intro v
  -- No socket that was handed something changes its visitor.
  have hsent : client.socketFor v (s.forwarded ++ s.client.handed a) =
      s.sentFor v ++ s.client.socketFor v (s.client.handed a) := by
    rw [UdpChannel.socketFor_append, UdpChannel.socketFor_step h.map hstep h.forwarded,
      UdpChannel.socketFor_step h.map hstep (fun e he => UdpChannel.opener_of_handed he)]
    rfl
  -- What the client hands on or keeps was pending or arrives now.
  have hmove := (UdpChannel.step_pending (v := v) h.map hstep).append
    (List.Sublist.refl (packetsFor v frames))
  have hall := (List.Sublist.refl (s.sentFor v)).append hmove
  have hold := hin v
  rw [packetsFor_append, ← List.append_assoc (s.client.pending v)] at hold
  simp only [sentFor]
  rw [hsent, List.append_assoc, ← List.append_assoc (s.client.socketFor v _)]
  exact hall.trans hold

/-- On the way back it adds the packets that are written at the end of the
    frames. -/
theorem advance_outbound (h : s.Base) (hst : s.advance a = some s') (hout : s.Outbound frames) :
    s'.Outbound (frames ++ s.client.written a) := by
  rcases advance_cases hst with ⟨client, hstep, rfl⟩
  intro v
  have hreplies : client.socketFor v (s.replies ++ a.replies) =
      s.repliesFor v ++ s.client.socketFor v a.replies := by
    rw [UdpChannel.socketFor_append, UdpChannel.socketFor_step h.map hstep h.replies,
      UdpChannel.socketFor_step h.map hstep (fun e he => UdpChannel.opener_of_replies hstep he)]
    rfl
  -- What is written or still outgoing was outgoing or comes from a socket now.
  have hmove := (List.Sublist.refl (packetsFor v frames)).append
    (UdpChannel.step_outgoing (v := v) h.map hstep)
  have hall := (List.Sublist.refl (s.returnedTo v)).append hmove
  have hold := (hout v).append (List.Sublist.refl
    ((s.client.socketFor v a.replies).map (List.take udpBufferSize)))
  rw [List.append_assoc, List.append_assoc] at hold
  simp only [repliesFor]
  rw [hreplies, List.map_append, packetsFor_append, List.append_assoc]
  exact hall.trans hold

/-! ### Actions of both ends -/

theorem udpBufferSize_lt : udpBufferSize < 2 ^ 16 := by decide

theorem seen_valid (t : UdpTraffic SocketAddr) : udpCodec.Valid (seen t) := by
  refine ⟨?_, ?_⟩
  · simp only [UdpTraffic.compact, seen, SocketAddr.compact_compact]
  · have hlt := udpBufferSize_lt
    simp only [seen, List.length_take]
    omega

/-- A packet in the outbound queue came from the service on a socket of its
    visitor, so the wire carries it whole. -/
theorem outbound_valid {t : UdpTraffic SocketAddr} (h : s.Base) (hout : s.Outbound frames)
    (ht : t ∈ s.client.outbound) : udpCodec.Valid t := by
  have hdata : t.data ∈ packetsFor t.source s.client.outbound :=
    List.mem_map.mpr ⟨t, List.mem_filter.mpr ⟨ht, by simp only [decide_true]⟩, rfl⟩
  -- `Outbound` says where the payload came from, and `receive` cut it there.
  have hreply : t.data ∈ (s.repliesFor t.source).map (List.take udpBufferSize) := by
    refine (hout t.source).subset ?_
    exact List.mem_append_right _ (List.mem_append_right _ (List.mem_append_left _ hdata))
  rcases List.mem_map.mp hreply with ⟨d, hd, htake⟩
  rcases List.mem_map.mp hd with ⟨e, he, _⟩
  have hopen : s.client.opener e.1 = some t.source := by
    simpa only [decide_eq_true_eq] using (List.mem_filter.mp he).2
  refine ⟨?_, ?_⟩
  · rw [UdpTraffic.compact, h.opened e.1 t.source hopen]
  · have hlt := udpBufferSize_lt
    rw [← htake, List.length_take]
    omega

theorem recvFrom_inv {t : UdpTraffic SocketAddr} {cut : Option Nat} (h : s.Inv)
    (hst : s.recvFrom t cut = some s') : s'.Inv := by
  rcases recvFrom_cases hst with ⟨hs, rfl⟩
  rcases h.down with ⟨frames, hcarries, hin⟩
  -- The wire does not see what `seen` drops of the address.
  have hbytes : UdpTraffic.writeSlice t.source (t.data.take udpBufferSize) =
      udpCodec.encode (seen t) :=
    (UdpTraffic.write_compact { source := t.source, data := t.data.take udpBufferSize }).symm
  refine ⟨⟨h.base.map, h.base.opened, h.base.inHand, h.base.forwarded, h.base.replies⟩,
    ⟨frames ++ [seen t], ?_, fun v => ?_⟩, h.up⟩
  · rw [hs] at hcarries
    rw [hbytes]
    exact hcarries.write (seen_valid t) cut
  · -- The new frame goes behind the others, as the datagram does in the history.
    have hall := (hin v).append (List.Sublist.refl (packetsFor v [seen t]))
    rw [List.append_assoc, List.append_assoc] at hall
    simp only [List.map_append, List.map_cons, List.map_nil, packetsFor_append]
    exact hall

theorem sendBack_inv {ok : Bool} (h : s.Inv) (hst : s.sendBack ok = some s') : s'.Inv := by
  rcases sendBack_cases hst with ⟨hs, r, rest, hread, hcase⟩
  rcases h.up with ⟨frames, hcarries, hout⟩
  rcases hcarries.read hread with ⟨t, ts, hframes, hr, hrest⟩
  rcases h.down with ⟨below, hbelow, hin⟩
  rcases hcase with ⟨e, he, _⟩ | ⟨u, hu, rfl⟩
  · -- Only whole valid frames are on the stream, so none fails to decode.
    rw [hr] at he
    exact absurd he (by simp only [reduceCtorEq, not_false_eq_true])
  · rw [hr, Except.ok.injEq] at hu
    refine ⟨⟨h.base.map, h.base.opened, h.base.inHand, h.base.forwarded, h.base.replies⟩,
      ⟨below, ?_, hin⟩, ⟨ts, hrest, fun v => ?_⟩⟩
    · cases ok with
      | true => rw [← hs]; exact hbelow
      | false => exact hbelow.stop
    · -- The first frame moves from the stream to the end of what was sent.
      have hall := hout v
      rw [hframes, ← List.singleton_append, packetsFor_append, List.append_assoc,
        ← List.append_assoc] at hall
      have hreturned : packetsFor v (s.returned ++ [u]) = s.returnedTo v ++ packetsFor v [t] := by
        rw [packetsFor_append, hu]
        rfl
      simp only [returnedTo]
      rw [hreturned]
      exact hall

theorem stop_inv (h : s.Inv) (hst : s.stop = some s') : s'.Inv := by
  rcases stop_cases hst with ⟨_, rfl⟩
  rcases h.down with ⟨frames, hcarries, hin⟩
  exact ⟨⟨h.base.map, h.base.opened, h.base.inHand, h.base.forwarded, h.base.replies⟩,
    ⟨frames, hcarries.stop, hin⟩, h.up⟩

/-- An action of the client that writes nothing, with the packets it takes
    still among the frames on the stream. -/
theorem advance_inv (hb : s.Base) (hst : s.advance a = some s') (hne : ∀ ok, a ≠ .writeOut ok)
    (harr : ∀ p ∈ a.arrivals, p.source.compact = p.source)
    (hdown : ∃ frames, udpCodec.Carries s.serving s.down frames ∧
      s.Inbound (a.arrivals ++ frames))
    (hup : ∃ frames, udpCodec.Carries s.client.writerAlive s.up frames ∧ s.Outbound frames) :
    s'.Inv := by
  rcases hdown with ⟨below, hbelow, hin⟩
  rcases hup with ⟨above, habove, hout⟩
  have hb' := advance_base hb hst harr
  have hin' := advance_inbound hb hst hin
  have hout' := advance_outbound hb hst hout
  -- Nothing is added to the frames on the way back.
  have hwritten : s.client.written a = [] := by
    cases a with
    | writeOut ok => exact absurd rfl (hne ok)
    | _ => rfl
  rw [hwritten, List.append_nil] at hout'
  rcases advance_cases hst with ⟨client, hstep, rfl⟩
  refine ⟨hb', ⟨below, hbelow, hin'⟩, ⟨above, ?_, hout'⟩⟩
  simp only
  rw [UdpChannel.step_writerAlive hstep hne]
  exact habove

theorem readFrame_inv (h : s.Inv) (hst : s.readFrame = some s') : s'.Inv := by
  rcases readFrame_cases hst with ⟨r, rest, hread, hcase⟩
  rcases h.down with ⟨frames, hcarries, hin⟩
  rcases hcarries.read hread with ⟨p, ps, hframes, hr, hrest⟩
  rcases hcase with ⟨e, he, _⟩ | ⟨q, hq, hadv⟩
  · -- As in `sendBack_inv`, reading does not fail.
    rw [hr] at he
    exact absurd he (by simp only [reduceCtorEq, not_false_eq_true])
  · rw [hr, Except.ok.injEq] at hq
    have hvalid : udpCodec.Valid p := hcarries.valid p (by rw [hframes]; exact List.mem_cons_self)
    have hb : UdpTunnel.Base { s with down := rest } :=
      ⟨h.base.map, h.base.opened, h.base.inHand, h.base.forwarded, h.base.replies⟩
    refine advance_inv hb hadv (by simp) ?_ ⟨ps, hrest, ?_⟩ h.up
    · intro p' hp'
      rw [List.mem_singleton.mp hp', ← hq]
      exact congrArg UdpTraffic.source hvalid.1
    · rw [hframes, hq] at hin
      exact hin

theorem writeFrame_inv {cut : Option Nat} (h : s.Inv) (hst : s.writeFrame cut = some s') :
    s'.Inv := by
  rcases writeFrame_cases hst with ⟨t, rest, ho, hadv⟩
  rcases h.down with ⟨below, hbelow, hin⟩
  rcases h.up with ⟨above, habove, hout⟩
  have hvalid := outbound_valid h.base hout (by rw [ho]; exact List.mem_cons_self)
  have hb : UdpTunnel.Base { s with up := s.up ++ delivered t.write cut } :=
    ⟨h.base.map, h.base.opened, h.base.inHand, h.base.forwarded, h.base.replies⟩
  have hb' := advance_base hb hadv (by simp [Action.arrivals])
  have hin' : s'.Inbound below := advance_inbound hb hadv hin
  have hout' := advance_outbound hb hadv (show UdpTunnel.Outbound
    { s with up := s.up ++ delivered t.write cut } above from hout)
  -- One frame is added, the head of the outbound queue.
  have hwritten : s.client.written (.writeOut cut.isNone) = [t] := by
    rw [UdpChannel.written, ho, List.take_succ_cons, List.take_zero]
  simp only [hwritten] at hout'
  rcases advance_cases hadv with ⟨client, hstep, rfl⟩
  rcases UdpChannel.writeOut_cases hstep with ⟨u, us, halive, _, rfl⟩
  refine ⟨hb', ⟨below, hbelow, hin'⟩, ⟨above ++ [t], ?_, hout'⟩⟩
  rw [halive] at habove
  exact habove.write hvalid cut

/-- A step keeps the invariant. -/
theorem step_inv {b : TunnelAction} (h : s.Inv) (hst : s.step b = some s') : s'.Inv := by
  cases b with
  | recvFrom t cut => exact recvFrom_inv h hst
  | sendBack ok => exact sendBack_inv h hst
  | stop => exact stop_inv h hst
  | readFrame => exact readFrame_inv h hst
  | writeFrame cut => exact writeFrame_inv h hst
  | task a =>
      rcases task_cases hst with ⟨harr, hne, hadv⟩
      refine advance_inv h.base hadv hne ?_ ?_ h.up
      · rw [harr]
        exact fun p hp => absurd hp List.not_mem_nil
      · rw [harr]
        exact h.down

/-- All that came from either side fits. -/
def Fitting (s : UdpTunnel) : Prop :=
  (∀ t ∈ s.received, t.source.Plain ∧ t.data.length ≤ udpBufferSize) ∧
    ∀ e ∈ s.replies, e.2.length ≤ udpBufferSize

theorem advance_fitting (h : s.Fitting) (hst : s.advance a = some s')
    (hfit : ∀ e ∈ a.replies, e.2.length ≤ udpBufferSize) : s'.Fitting := by
  rcases advance_cases hst with ⟨client, _, rfl⟩
  refine ⟨h.1, fun e he => ?_⟩
  rcases List.mem_append.mp he with he | he
  · exact h.2 e he
  · exact hfit e he

theorem step_fitting {b : TunnelAction} (h : s.Fitting) (hfit : s.Fits b)
    (hst : s.step b = some s') : s'.Fitting := by
  cases b with
  -- Only the two actions that let a datagram in need their part of `Fits`.
  | recvFrom t cut =>
      rcases recvFrom_cases hst with ⟨_, rfl⟩
      refine ⟨fun u hu => ?_, h.2⟩
      rcases List.mem_append.mp hu with hu | hu
      · exact h.1 u hu
      · rw [List.mem_singleton.mp hu]
        exact hfit
  | sendBack ok =>
      rcases sendBack_cases hst with ⟨_, r, rest, _, ⟨e, _, rfl⟩ | ⟨t, _, rfl⟩⟩
      · exact h
      · exact h
  | stop =>
      rcases stop_cases hst with ⟨_, rfl⟩
      exact h
  | readFrame =>
      rcases readFrame_cases hst with ⟨r, rest, _, ⟨e, _, hadv⟩ | ⟨p, _, hadv⟩⟩
      · exact advance_fitting (s := { s with down := rest }) h hadv (by simp [Action.replies])
      · exact advance_fitting (s := { s with down := rest }) h hadv (by simp [Action.replies])
  | writeFrame cut =>
      rcases writeFrame_cases hst with ⟨t, rest, _, hadv⟩
      exact advance_fitting (s := { s with up := s.up ++ delivered t.write cut }) h hadv
        (by simp [Action.replies])
  | task a =>
      rcases task_cases hst with ⟨_, _, hadv⟩
      refine advance_fitting h hadv (fun e he => ?_)
      cases a with
      | receive i data =>
          rw [List.mem_singleton.mp he]
          exact hfit
      | _ => exact absurd he List.not_mem_nil

/-- What fits is seen as it was sent. -/
theorem map_seen (h : s.Fitting) : s.received.map seen = s.received := by
  have hid : ∀ t ∈ s.received, seen t = t := by
    intro t ht
    rcases h.1 t ht with ⟨hplain, hlen⟩
    rw [seen, SocketAddr.compact_of_plain hplain, List.take_of_length_le hlen]
  rw [List.map_congr_left hid, List.map_id']

theorem map_take_repliesFor (h : s.Fitting) (v : SocketAddr) :
    (s.repliesFor v).map (List.take udpBufferSize) = s.repliesFor v := by
  have hid : ∀ d ∈ s.repliesFor v, List.take udpBufferSize d = d := by
    intro d hd
    rcases List.mem_map.mp hd with ⟨e, he, rfl⟩
    exact List.take_of_length_le (h.2 e (List.mem_filter.mp he).1)
  rw [List.map_congr_left hid, List.map_id']

/-- The payloads on one socket are among those on its visitor's sockets. -/
theorem sentOn_sublist {i : Nat} (ho : s.client.opener i = some v) :
    (s.sentOn i).Sublist (s.sentFor v) := by
  refine List.Sublist.map _ (List.monotone_filter_right s.forwarded (fun e he => ?_))
  rw [decide_eq_true_eq] at he ⊢
  rw [he]
  exact ho

end Steps

/-- No run mixes up two visitors. At any time at most one forwarder task of a
    visitor has not returned; what is handed to the visitor's sockets, and so
    to each of them, is a sublist of what the visitor sent; and what is sent to
    the visitor is a sublist of what came from the service on its sockets. -/
theorem visitors_isolated {s : UdpTunnel} (h : Reaches step Fits initial s) (v : SocketAddr) :
    (∀ i j, s.client.Runs i v → s.client.Runs j v → i = j) ∧
    (s.sentFor v).Sublist (s.receivedFrom v) ∧
    (∀ i, s.client.opener i = some v → (s.sentOn i).Sublist (s.receivedFrom v)) ∧
    (s.returnedTo v).Sublist (s.repliesFor v) := by
  have hinv : s.Inv := h.invariant (fun _ _ _ hi _ hst => step_inv hi hst) inv_initial
  have hfit : s.Fitting := h.invariant (fun _ _ _ hi hok hst => step_fitting hi hok hst)
    ⟨fun _ ht => absurd ht List.not_mem_nil, fun _ he => absurd he List.not_mem_nil⟩
  rcases hinv.down with ⟨below, _, hin⟩
  rcases hinv.up with ⟨above, _, hout⟩
  have hsent : (s.sentFor v).Sublist (s.receivedFrom v) := by
    have hall := hin v
    rw [map_seen hfit] at hall
    exact (List.sublist_append_left _ _).trans hall
  refine ⟨fun i j hi hj => UdpChannel.runs_unique hinv.base.map hi hj, hsent, ?_, ?_⟩
  · intro i ho
    exact (sentOn_sublist ho).trans hsent
  · have hall := hout v
    rw [map_take_repliesFor hfit] at hall
    exact (List.sublist_append_left _ _).trans hall

/-- Two visitors of one machine. -/
def visitorA : SocketAddr := .v4 ⟨[127, 0, 0, 1], rfl⟩ 5000

/-- Another visitor on the same host. -/
def visitorB : SocketAddr := .v4 ⟨[127, 0, 0, 1], rfl⟩ 5001

/-- Both visitors send a datagram, and the service answers both, the second
    first. -/
def twoVisitors : List TunnelAction :=
  [.recvFrom ⟨visitorA, [1, 2]⟩ none, .recvFrom ⟨visitorB, [3]⟩ none,
    .readFrame, .task .checkMap, .task (.connect true), .task .lookupSender, .task .sendInbound,
    .readFrame, .task .checkMap, .task (.connect true), .task .lookupSender, .task .sendInbound,
    .task (.inbound 1 true), .task (.inbound 0 true),
    .task (.receive 1 [4]), .task (.emit 1), .task (.receive 0 [5, 6]), .task (.emit 0),
    .writeFrame none, .writeFrame none, .sendBack true, .sendBack true]

/-- Every payload arrives, and the theorem applies to the end of the run. -/
theorem visitors_isolated_twoVisitors : ∃ s, Reaches step Fits initial s ∧
    s.sentFor visitorA = [[1, 2]] ∧ s.returnedTo visitorA = [[5, 6]] ∧
    s.sentFor visitorB = [[3]] ∧ s.returnedTo visitorB = [[4]] ∧
    (s.sentFor visitorA).Sublist (s.receivedFrom visitorA) ∧
    (s.returnedTo visitorB).Sublist (s.repliesFor visitorB) := by
  rcases hrun : exec step initial twoVisitors with _ | s
  · exact absurd hrun (by decide)
  · have hlists : (exec step initial twoVisitors).map (fun s =>
        (s.sentFor visitorA, s.returnedTo visitorA, s.sentFor visitorB, s.returnedTo visitorB)) =
        some ([[1, 2]], [[5, 6]], [[3]], [[4]]) := by decide
    rw [hrun, Option.map_some, Option.some.injEq, Prod.mk.injEq, Prod.mk.injEq,
      Prod.mk.injEq] at hlists
    have hlegal : Legal step Fits initial twoVisitors := by decide
    have hr := reaches_of_legal twoVisitors initial s hlegal hrun
    exact ⟨s, hr, hlists.1, hlists.2.1, hlists.2.2.1, hlists.2.2.2,
      (visitors_isolated hr visitorA).2.1, (visitors_isolated hr visitorB).2.2.2⟩

end UdpTunnel

end Rathole
