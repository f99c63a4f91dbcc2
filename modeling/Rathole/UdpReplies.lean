import Rathole.UdpIsolation

/-!
# Replies to a Visitor's Address

Where the replies of a visitor's forwarder go. The address `recv_from` gives
for a datagram crosses the wire to the client, is the key under which a
forwarder serves the visitor, and crosses the wire again with each reply, to
be what `send_to` is called with. The wire carries an IPv6 address without its
flow info and scope id, so what comes back is the address without them, and
visitors that differ in nothing else have one forwarder between them.

To say this a run keeps two records that the code does not. A datagram is
known by its place: the stream keeps the order in which datagrams were
received, so the packet in the reader loop's hand is the one received at the
place it was read, and with it goes the address it was received from. Replies
are likewise written and sent back in the order forwarders put them into the
outbound queue.

Whether replies go back depends on nothing but the addresses that visit: if
the wire carries them all whole, they always do, and if there is one it does
not, there is a run in which they do not.

## Main definitions

* `UdpReplies`: A tunnel with the two records.
* `UdpReplies.step`: One action, recorded.
* `UdpReplies.answered`: Which forwarder's reply went to which address.
* `UdpReplies.GoBack`: Replies go to the visitors, who share no forwarder.
* `UdpReplies.Visits`: Visitors have addresses of a given kind.
* `UdpReplies.Kept`: What the records say of the tunnel.

## Theorems

* `UdpReplies.step_tunnel`: The records change nothing of the tunnel.
* `UdpReplies.step_kept`: A step keeps the records right.
* `UdpReplies.goBack_iff_plain`: For which addresses replies go back.
* `UdpReplies.linkLocal_lost`: An address they do not go back to.
-/

namespace Rathole

open ByteStream Client.Udp Transition UdpTunnel

/-- A tunnel, how many datagrams the client has taken off the stream, the
    address that each datagram handed to a forwarder was received from, and the
    forwarders of the replies, in the order they were queued. -/
structure UdpReplies where
  tunnel : UdpTunnel
  taken : Nat
  handed : List (SocketAddr × Nat)
  replied : List Nat

namespace UdpReplies

/-- A tunnel that has just started. -/
def initial : UdpReplies where
  tunnel := UdpTunnel.initial
  taken := 0
  handed := []
  replied := []

/-- The datagram the client took last. -/
def latest (s : UdpReplies) : Option (UdpTraffic SocketAddr) :=
  (s.tunnel.received.take s.taken).getLast?

/-- The datagram an action passes to a forwarder, by the address it was
    received from. -/
def handsOver (s : UdpReplies) : TunnelAction → List (SocketAddr × Nat)
  | .task .sendInbound => match s.tunnel.client.reader with
      | .sending _ i _ => (s.latest.map (fun t => (t.source, i))).toList
      | _ => []
  | _ => []

/-- The forwarder whose reply an action queues. -/
def replies (s : UdpReplies) : TunnelAction → List Nat
  | .task (.emit i) => if s.tunnel.client.writerAlive then [i] else []
  | _ => []

/-- Whether an action takes a datagram off the stream. -/
def takes : TunnelAction → Nat
  | .readFrame => 1
  | _ => 0

/-- One action, recorded. -/
def step (s : UdpReplies) (a : TunnelAction) : Option UdpReplies :=
  (s.tunnel.step a).map (fun tunnel =>
    { tunnel := tunnel
      taken := s.taken + takes a
      handed := s.handed ++ s.handsOver a
      replied := s.replied ++ s.replies a })

/-- The forwarders of the replies that were sent back, each with the address
    `send_to` was called with. -/
def answered (s : UdpReplies) : List (Nat × SocketAddr) :=
  s.replied.zip (s.tunnel.returned.map UdpTraffic.source)

/-- A reply of a visitor's forwarder goes to the address the visitor's
    datagram was received from, and no forwarder has two visitors. -/
structure GoBack (s : UdpReplies) : Prop where
  reply : ∀ v i addr, (v, i) ∈ s.handed → (i, addr) ∈ s.answered → addr = v
  alone : ∀ v w i, (v, i) ∈ s.handed → (w, i) ∈ s.handed → v = w

/-- Visitors have addresses of the kind `S`. -/
def Visits (S : SocketAddr → Prop) (_ : UdpReplies) : TunnelAction → Prop
  | .recvFrom t _ => S t.source
  | _ => True

/-- Datagrams were received from addresses of the kind `S`. -/
def From (S : SocketAddr → Prop) (s : UdpReplies) : Prop :=
  ∀ t ∈ s.tunnel.received, S t.source

/-- What the records say: the frames on the way to the client are those of the
    datagrams not taken yet, the packet in hand is the one taken last, a
    datagram was handed to the forwarder of its address, and the replies on
    their way back are those of the forwarders recorded, in their order. -/
structure Kept (s : UdpReplies) : Prop where
  inv : s.tunnel.Inv
  taken : s.taken ≤ s.tunnel.received.length
  down : udpCodec.Carries s.tunnel.serving s.tunnel.down
    ((s.tunnel.received.drop s.taken).map seen)
  inHand : ∀ p ∈ s.tunnel.client.reader.inHand, s.latest.map seen = some p
  handed : ∀ e ∈ s.handed, e.1 ∈ s.tunnel.received.map UdpTraffic.source ∧
    s.tunnel.client.opener e.2 = some e.1.compact
  up : ∃ frames, udpCodec.Carries s.tunnel.client.writerAlive s.tunnel.up frames ∧
    ((s.tunnel.returned ++ (frames ++ s.tunnel.client.outbound)).map UdpTraffic.source).map some =
      s.replied.map s.tunnel.client.opener

theorem kept_initial : initial.Kept where
  inv := UdpTunnel.inv_initial
  taken := le_refl _
  down := udpCodec.carries_nil _
  inHand := fun _ h => absurd h List.not_mem_nil
  handed := fun _ h => absurd h List.not_mem_nil
  up := ⟨[], udpCodec.carries_nil _, rfl⟩

section Steps

variable {s s' : UdpReplies} {u : UdpTunnel} {a : TunnelAction} {c : UdpChannel SocketAddr}
  {b : Client.Udp.Action SocketAddr}

/-- The records change nothing of the tunnel. -/
theorem step_tunnel (s : UdpReplies) (a : TunnelAction) :
    (s.step a).map tunnel = s.tunnel.step a := by
  rw [step, Option.map_map]
  rcases s.tunnel.step a with _ | u
  · rfl
  · rfl

theorem step_cases (h : s.step a = some s') :
    ∃ u, s.tunnel.step a = some u ∧ s' =
      { tunnel := u
        taken := s.taken + takes a
        handed := s.handed ++ s.handsOver a
        replied := s.replied ++ s.replies a } := by
  rcases Option.map_eq_some_iff.mp h with ⟨u, hstep, heq⟩
  exact ⟨u, hstep, heq.symm⟩

/-! ### What a client action keeps -/

/-- The forwarders that have replied keep their visitors. -/
theorem map_opener_step {is : List Nat} {vs : List SocketAddr} (h : s.tunnel.client.MapInv)
    (hst : s.tunnel.client.step b = some c) (his : vs.map some = is.map s.tunnel.client.opener) :
    vs.map some = is.map c.opener := by
  rw [his]
  refine List.map_congr_left (fun i hi => ?_)
  have hmem : s.tunnel.client.opener i ∈ vs.map some := by
    rw [his]
    exact List.mem_map_of_mem hi
  rcases List.mem_map.mp hmem with ⟨v, _, hv⟩
  rw [UdpChannel.step_opener h hst hv.symm, hv]

/-- A packet was taken off the stream for a datagram, and is in hand since. -/
theorem latest_of_sending {p : UdpTraffic SocketAddr} {i : Nat} {sh : Bool} (h : s.Kept)
    (hr : s.tunnel.client.reader = .sending p i sh) :
    ∃ t, s.latest = some t ∧ t.source ∈ s.tunnel.received.map UdpTraffic.source ∧
      s.tunnel.client.opener i = some t.source.compact := by
  have hhand := h.inHand p (by rw [hr]; exact List.mem_singleton_self p)
  rcases Option.map_eq_some_iff.mp hhand with ⟨t, ht, hseen⟩
  have hmem : t ∈ s.tunnel.received := List.mem_of_mem_take (List.mem_of_getLast? ht)
  refine ⟨t, ht, List.mem_map_of_mem hmem, ?_⟩
  rw [h.inv.base.map.sending p i sh hr, ← hseen, seen]

/-- A datagram is handed to the forwarder of its address. -/
theorem of_handsOver {e : SocketAddr × Nat} (h : s.Kept) (he : e ∈ s.handsOver a) :
    e.1 ∈ s.tunnel.received.map UdpTraffic.source ∧
      s.tunnel.client.opener e.2 = some e.1.compact := by
  unfold handsOver at he
  split at he
  · split at he
    · rename_i p i sh hr
      rcases latest_of_sending h hr with ⟨t, ht, hmem, hopen⟩
      rw [ht, Option.map_some, Option.toList_some, List.mem_singleton] at he
      rw [he]
      exact ⟨hmem, hopen⟩
    · exact absurd he List.not_mem_nil
  · exact absurd he List.not_mem_nil

/-- The replies that are queued are those of the forwarders recorded. -/
theorem outbound_step (hst : s.tunnel.client.step b = some c)
    (hne : ∀ ok, b ≠ .writeOut ok) :
    ∃ ts, c.outbound = s.tunnel.client.outbound ++ ts ∧
      (ts.map UdpTraffic.source).map some =
        (s.replies (.task b)).map s.tunnel.client.opener := by
  cases b with
  | emit i =>
      rcases UdpChannel.emit_cases hst with ⟨f, data, hf, _, ⟨hw, rfl⟩ | ⟨hw, rfl⟩⟩
      · refine ⟨[{ source := f.source, data := data }], rfl, ?_⟩
        simp only [replies, hw, if_true, List.map_cons, List.map_nil,
          UdpChannel.opener_of_eq hf]
      · refine ⟨[], (List.append_nil _).symm, ?_⟩
        simp only [replies, hw, Bool.false_eq_true, if_false, List.map_nil]
  | writeOut ok => exact absurd rfl (hne ok)
  | _ =>
      refine ⟨[], ?_, rfl⟩
      rw [List.append_nil]
      cases UdpChannel.rule_of_step hst <;> rfl

theorem client_of_advance {t : UdpTunnel} (h : t.advance b = some u) :
    t.client.step b = some u.client := by
  rcases advance_cases h with ⟨c, hc, rfl⟩
  exact hc

/-- The client moves in one action, or not at all. -/
theorem step_client (hst : s.tunnel.step a = some u) :
    u.client = s.tunnel.client ∨ ∃ b, s.tunnel.client.step b = some u.client := by
  cases a with
  | recvFrom t cut =>
      rcases recvFrom_cases hst with ⟨_, rfl⟩
      exact Or.inl rfl
  | sendBack ok =>
      rcases sendBack_cases hst with ⟨_, r, rest, _, ⟨e, _, rfl⟩ | ⟨t, _, rfl⟩⟩
      · exact Or.inl rfl
      · exact Or.inl rfl
  | stop =>
      rcases stop_cases hst with ⟨_, rfl⟩
      exact Or.inl rfl
  | readFrame =>
      rcases readFrame_cases hst with ⟨r, rest, _, ⟨e, _, h⟩ | ⟨p, _, h⟩⟩
      · have hc := client_of_advance h
        exact Or.inr ⟨_, hc⟩
      · have hc := client_of_advance h
        exact Or.inr ⟨_, hc⟩
  | writeFrame cut =>
      rcases writeFrame_cases hst with ⟨t, rest, _, h⟩
      have hc := client_of_advance h
      exact Or.inr ⟨_, hc⟩
  | task b => exact Or.inr ⟨b, client_of_advance (task_cases hst).2.2⟩

/-- A forwarder keeps its visitor. -/
theorem step_opener {i : Nat} {v : SocketAddr} (h : s.Kept) (hst : s.tunnel.step a = some u)
    (ho : s.tunnel.client.opener i = some v) : u.client.opener i = some v := by
  rcases step_client hst with hsame | ⟨b, hb⟩
  · rw [hsame]
    exact ho
  · exact UdpChannel.step_opener h.inv.base.map hb ho

/-- What was handed over stays with its forwarder. -/
theorem step_handed (h : s.Kept) (hst : s.tunnel.step a = some u)
    (hrec : ∀ v ∈ s.tunnel.received.map UdpTraffic.source, v ∈ u.received.map UdpTraffic.source) :
    ∀ e ∈ s.handed ++ s.handsOver a, e.1 ∈ u.received.map UdpTraffic.source ∧
      u.client.opener e.2 = some e.1.compact := by
  intro e he
  have hold : e.1 ∈ s.tunnel.received.map UdpTraffic.source ∧
      s.tunnel.client.opener e.2 = some e.1.compact := by
    rcases List.mem_append.mp he with he | he
    · exact h.handed e he
    · exact of_handsOver h he
  exact ⟨hrec e.1 hold.1, step_opener h hst hold.2⟩

/-! ### Actions of both ends -/

theorem recvFrom_kept {t : UdpTraffic SocketAddr} {cut : Option Nat} (h : s.Kept)
    (hst : s.step (.recvFrom t cut) = some s') : s'.Kept := by
  rcases step_cases hst with ⟨u, hu, rfl⟩
  have hinv := step_inv h.inv hu
  have hhanded := step_handed h hu
  rcases recvFrom_cases hu with ⟨hs, rfl⟩
  have hbytes : UdpTraffic.writeSlice t.source (t.data.take udpBufferSize) =
      udpCodec.encode (seen t) :=
    (UdpTraffic.write_compact { source := t.source, data := t.data.take udpBufferSize }).symm
  refine ⟨hinv, ?_, ?_, ?_, hhanded ?_, ?_⟩
  · have hle := h.taken
    simp only [takes, List.length_append]
    omega
  · have hdown := h.down
    rw [hs] at hdown
    simp only [takes, Nat.add_zero, List.drop_append_of_le_length h.taken, List.map_append]
    rw [hbytes]
    exact hdown.write (seen_valid t) cut
  · intro p hp
    rw [← h.inHand p hp]
    simp only [latest, takes, Nat.add_zero, List.take_append_of_le_length h.taken]
  · intro v hv
    rw [List.map_append]
    exact List.mem_append_left _ hv
  · simpa only [replies, List.append_nil] using h.up

theorem sendBack_kept {ok : Bool} (h : s.Kept) (hst : s.step (.sendBack ok) = some s') :
    s'.Kept := by
  rcases step_cases hst with ⟨u, hu, rfl⟩
  have hinv := step_inv h.inv hu
  have hhanded := step_handed h hu
  rcases sendBack_cases hu with ⟨hs, r, rest, hread, hcase⟩
  rcases h.up with ⟨frames, hcarries, hup⟩
  rcases hcarries.read hread with ⟨t, ts, hframes, hr, hrest⟩
  rcases hcase with ⟨e, he, _⟩ | ⟨t', ht, rfl⟩
  · -- Only whole frames are on the stream, so none fails to decode.
    rw [hr] at he
    exact absurd he (by simp only [reduceCtorEq, not_false_eq_true])
  · rw [hr, Except.ok.injEq] at ht
    refine ⟨hinv, h.taken, ?_, h.inHand, hhanded (fun _ hv => hv), ts, hrest, ?_⟩
    · have hdown := h.down
      cases ok with
      | true => rw [hs] at hdown; exact hdown
      | false => exact hdown.stop
    · -- The first frame is the next that was sent back.
      simp only [replies, List.append_nil]
      rw [← hup, hframes, ← ht, List.append_assoc]
      rfl

theorem stop_kept (h : s.Kept) (hst : s.step .stop = some s') : s'.Kept := by
  rcases step_cases hst with ⟨u, hu, rfl⟩
  have hinv := step_inv h.inv hu
  have hhanded := step_handed h hu
  rcases stop_cases hu with ⟨_, rfl⟩
  refine ⟨hinv, h.taken, h.down.stop, h.inHand, hhanded (fun _ hv => hv), ?_⟩
  simpa only [replies, List.append_nil] using h.up

theorem readFrame_kept (h : s.Kept) (hst : s.step .readFrame = some s') : s'.Kept := by
  rcases step_cases hst with ⟨u, hu, rfl⟩
  have hinv := step_inv h.inv hu
  have hhanded := step_handed h hu
  rcases readFrame_cases hu with ⟨r, rest, hread, hcase⟩
  rcases h.down.read hread with ⟨p, ps, hframes, hr, hrest⟩
  rcases hcase with ⟨e, he, _⟩ | ⟨q, hq, hadv⟩
  · rw [hr] at he
    exact absurd he (by simp only [reduceCtorEq, not_false_eq_true])
  · rw [hr, Except.ok.injEq] at hq
    rcases advance_cases hadv with ⟨c, hc, rfl⟩
    rcases UdpChannel.readPacket_cases hc with ⟨_, rfl⟩
    -- The packet is the first datagram that was not taken.
    rcases List.map_eq_cons_iff.mp hframes with ⟨t, ts, hdrop, ht, hts⟩
    have hlt : s.taken < s.tunnel.received.length := by
      by_contra hge
      rw [List.drop_eq_nil_of_le (by omega)] at hdrop
      simp only [List.nil_eq, reduceCtorEq] at hdrop
    rw [List.drop_eq_getElem_cons hlt, List.cons.injEq] at hdrop
    refine ⟨hinv, ?_, ?_, ?_, hhanded (fun _ hv => hv), ?_⟩
    · simp only [takes]
      omega
    · simp only [takes]
      rw [hdrop.2, hts]
      exact hrest
    · intro p' hp'
      rw [List.mem_singleton.mp hp', latest]
      simp only [takes]
      rw [List.take_succ_eq_append_getElem hlt, List.getLast?_concat, hdrop.1, Option.map_some, ht,
        hq]
    · rcases h.up with ⟨frames, hcarries, hup⟩
      refine ⟨frames, hcarries, ?_⟩
      simp only [replies, List.append_nil]
      exact hup

theorem writeFrame_kept {cut : Option Nat} (h : s.Kept)
    (hst : s.step (.writeFrame cut) = some s') : s'.Kept := by
  rcases step_cases hst with ⟨u, hu, rfl⟩
  have hinv := step_inv h.inv hu
  have hhanded := step_handed h hu
  rcases writeFrame_cases hu with ⟨t, rest, ho, hadv⟩
  rcases h.inv.up with ⟨above, _, hout⟩
  have hvalid := outbound_valid h.inv.base hout (by rw [ho]; exact List.mem_cons_self)
  rcases h.up with ⟨frames, hcarries, hup⟩
  rcases advance_cases hadv with ⟨c, hc, rfl⟩
  rcases UdpChannel.writeOut_cases hc with ⟨t', rest', halive, ho', rfl⟩
  refine ⟨hinv, h.taken, h.down, h.inHand, hhanded (fun _ hv => hv), frames ++ [t], ?_, ?_⟩
  · rw [halive] at hcarries
    exact hcarries.write hvalid cut
  · -- The reply at the head of the queue is now the last on the stream.
    have hrest : rest' = rest := by
      have hcons : t :: rest = t' :: rest' := ho.symm.trans ho'
      exact (List.cons.inj hcons).2.symm
    simp only [replies, List.append_nil, hrest, List.append_assoc, List.singleton_append]
    rw [← ho]
    exact hup

theorem task_kept {b : Client.Udp.Action SocketAddr} (h : s.Kept)
    (hst : s.step (.task b) = some s') : s'.Kept := by
  rcases step_cases hst with ⟨u, hu, rfl⟩
  have hinv := step_inv h.inv hu
  have hhanded := step_handed h hu
  rcases task_cases hu with ⟨harr, hne, hadv⟩
  rcases h.up with ⟨frames, hcarries, hup⟩
  rcases advance_cases hadv with ⟨c, hc, rfl⟩
  rcases outbound_step hc hne with ⟨ts, hout, hts⟩
  refine ⟨hinv, h.taken, h.down, ?_, hhanded (fun _ hv => hv), frames, ?_, ?_⟩
  · intro p hp
    rcases UdpChannel.step_inHand hc hp with hp | hp
    · exact h.inHand p hp
    · rw [harr] at hp
      exact absurd hp List.not_mem_nil
  · simp only [UdpChannel.step_writerAlive hc hne]
    exact hcarries
  · -- What is queued now comes behind what was there, as it does in the record.
    refine map_opener_step h.inv.base.map hc ?_
    simp only [hout]
    rw [← List.append_assoc frames, ← List.append_assoc, List.map_append, List.map_append, hup,
      hts, ← List.map_append]

/-- A step keeps the records right. -/
theorem step_kept (h : s.Kept) (hst : s.step a = some s') : s'.Kept := by
  cases a with
  | recvFrom t cut => exact recvFrom_kept h hst
  | sendBack ok => exact sendBack_kept h hst
  | stop => exact stop_kept h hst
  | readFrame => exact readFrame_kept h hst
  | writeFrame cut => exact writeFrame_kept h hst
  | task b => exact task_kept h hst

/-- A datagram is received from an address that visits. -/
theorem step_from {S : SocketAddr → Prop} (h : s.From S) (hok : s.Visits S a)
    (hst : s.step a = some s') : s'.From S := by
  rcases step_cases hst with ⟨u, hu, rfl⟩
  cases a with
  | recvFrom t cut =>
      rcases recvFrom_cases hu with ⟨_, rfl⟩
      intro t' ht'
      rcases List.mem_append.mp ht' with ht' | ht'
      · exact h t' ht'
      · rw [List.mem_singleton.mp ht']
        exact hok
  | sendBack ok =>
      rcases sendBack_cases hu with ⟨_, r, rest, _, ⟨e, _, rfl⟩ | ⟨t, _, rfl⟩⟩
      · exact h
      · exact h
  | stop =>
      rcases stop_cases hu with ⟨_, rfl⟩
      exact h
  | readFrame =>
      rcases readFrame_cases hu with ⟨r, rest, _, ⟨e, _, hadv⟩ | ⟨p, _, hadv⟩⟩
      · rcases advance_cases hadv with ⟨c, _, rfl⟩
        exact h
      · rcases advance_cases hadv with ⟨c, _, rfl⟩
        exact h
  | writeFrame cut =>
      rcases writeFrame_cases hu with ⟨t, rest, _, hadv⟩
      rcases advance_cases hadv with ⟨c, _, rfl⟩
      exact h
  | task b =>
      rcases advance_cases (task_cases hu).2.2 with ⟨c, _, rfl⟩
      exact h

end Steps

/-! ### Where replies go -/

/-- What is paired with a number has that number in the longer list as well. -/
theorem of_mem_zip {opener : Nat → Option SocketAddr} {is : List Nat} {vs ws : List SocketAddr}
    (h : (vs ++ ws).map some = is.map opener) {i : Nat} {v : SocketAddr}
    (hm : (i, v) ∈ is.zip vs) : opener i = some v := by
  induction vs generalizing is with
  | nil => simp only [List.zip_nil_right, List.not_mem_nil] at hm
  | cons w vs ih =>
      cases is with
      | nil => simp only [List.zip_nil_left, List.not_mem_nil] at hm
      | cons j is =>
          simp only [List.cons_append, List.map_cons, List.cons.injEq] at h
          rw [List.zip_cons_cons, List.mem_cons, Prod.mk.injEq] at hm
          rcases hm with ⟨hi, hv⟩ | hm
          · rw [hi, hv, h.1]
          · exact ih h.2 hm

/-- A reply goes to the address its forwarder was opened for. -/
theorem Kept.opener_of_answered {s : UdpReplies} (h : s.Kept) {i : Nat} {addr : SocketAddr}
    (hm : (i, addr) ∈ s.answered) : s.tunnel.client.opener i = some addr := by
  rcases h.up with ⟨frames, _, hup⟩
  rw [List.map_append] at hup
  exact of_mem_zip hup hm

/-- Replies go back to visitors whose addresses the wire carries whole. -/
theorem goBack_of_kept {s : UdpReplies} (h : s.Kept)
    (hplain : ∀ t ∈ s.tunnel.received, t.source.Plain) : s.GoBack := by
  -- The forwarder was opened for the very address of the datagram.
  have hopen : ∀ {v i}, (v, i) ∈ s.handed → s.tunnel.client.opener i = some v := by
    intro v i hv
    rcases h.handed (v, i) hv with ⟨hmem, ho⟩
    rcases List.mem_map.mp hmem with ⟨t, ht, hsrc⟩
    have hp := hplain t ht
    rw [hsrc] at hp
    rw [ho, SocketAddr.compact_of_plain hp]
  constructor
  · intro v i addr hv ha
    have ho := h.opener_of_answered ha
    rw [hopen hv, Option.some.injEq] at ho
    exact ho.symm
  · intro v w i hv hw
    have ho := hopen hv
    rw [hopen hw, Option.some.injEq] at ho
    exact ho.symm

/-! ### A visitor without a reply -/

theorem step_of_tunnel {s : UdpReplies} {a : TunnelAction} {u : UdpTunnel}
    (h : s.tunnel.step a = some u) : s.step a = some
      { tunnel := u
        taken := s.taken + takes a
        handed := s.handed ++ s.handsOver a
        replied := s.replied ++ s.replies a } := by
  rw [step, h, Option.map_some]

/-- One datagram of a visitor is on its way. -/
def sent (v : SocketAddr) : UdpReplies :=
  { initial with tunnel := { UdpTunnel.initial with
    down := UdpTraffic.writeSlice v [1], received := [{ source := v, data := [1] }] } }

/-- The client has made a forwarder for it. -/
def connected (v : SocketAddr) : UdpReplies where
  tunnel := { UdpTunnel.initial with
    client :=
      { portMap := AList.insert v.compact 0 ∅
        lock := { holders := [(.reader, .read)], waiting := [] }
        reader := .secondGuard { source := v.compact, data := [1] } false
        forwarders := Function.update (fun _ => none) 0
          (some { source := v.compact, inbound := [], pc := .looping })
        spawned := 1
        outbound := []
        writerAlive := true }
    received := [{ source := v, data := [1] }] }
  taken := 1
  handed := []
  replied := []

theorem readFrame_writeSlice (v : SocketAddr) (b : UInt8) :
    UdpTraffic.readFrame (UdpTraffic.writeSlice v [b]) =
      some (.ok { source := v.compact, data := [b] }, []) := by
  have hlen : ([b] : List UInt8).length < 2 ^ 16 := by
    rw [List.length_singleton]
    omega
  have hread := UdpTraffic.readFrame_write (t := { source := v, data := [b] }) hlen []
  rw [List.append_nil] at hread
  exact hread

/-- One visitor, one datagram, one reply. -/
def oneVisit (v : SocketAddr) : List TunnelAction :=
  [.recvFrom ⟨v, [1]⟩ none, .readFrame, .task .checkMap, .task (.connect true),
    .task .lookupSender, .task .sendInbound, .task (.receive 0 [2]), .task (.emit 0),
    .writeFrame none, .sendBack true]

theorem exec_connected (v : SocketAddr) :
    exec step initial [.recvFrom ⟨v, [1]⟩ none, .readFrame, .task .checkMap,
      .task (.connect true)] = some (connected v) := by
  have hread : (sent v).tunnel.step .readFrame = some { UdpTunnel.initial with
      client := { UdpChannel.initial with
        lock := { holders := [(.reader, .read)], waiting := [] }
        reader := .firstGuard { source := v.compact, data := [1] } }
      received := [{ source := v, data := [1] }] } := by
    rw [UdpTunnel.step, UdpTunnel.readFrame]
    rw [show (sent v).tunnel.down = UdpTraffic.writeSlice v [1] from rfl, readFrame_writeSlice]
    rfl
  rw [exec_cons (t := sent v) rfl, exec_cons (step_of_tunnel hread)]
  rfl

/-- The datagram is passed on, and a reply is written to the server. -/
theorem exec_replied (v : SocketAddr) : ∃ s, exec step (connected v) [.task .lookupSender,
      .task .sendInbound, .task (.receive 0 [2]), .task (.emit 0), .writeFrame none] = some s ∧
    s.handed = [(v, 0)] ∧ s.replied = [0] ∧ s.tunnel.serving = true ∧
    s.tunnel.up = UdpTraffic.writeSlice v.compact [2] ∧ s.tunnel.returned = [] := by
  have hlookup : (connected v).tunnel.client.portMap.lookup v.compact = some 0 :=
    AList.lookup_insert _
  have hfound : (connected v).tunnel.step (.task .lookupSender) = some
      { (connected v).tunnel with client := { (connected v).tunnel.client with
        reader := .sending { source := v.compact, data := [1] } 0 false } } := by
    have hadv : (connected v).tunnel.step (.task .lookupSender) =
      (connected v).tunnel.advance .lookupSender := rfl
    rw [hadv, advance, UdpChannel.step, UdpChannel.lookupSender]
    rw [show (connected v).tunnel.client.reader =
      .secondGuard { source := v.compact, data := [1] } false from rfl]
    simp only [hlookup]
    rfl
  rw [exec_cons (step_of_tunnel hfound)]
  exact ⟨_, rfl, rfl, rfl, rfl, rfl, rfl⟩

theorem exec_oneVisit (v : SocketAddr) : ∃ s, exec step initial (oneVisit v) = some s ∧
    s.handed = [(v, 0)] ∧ s.answered = [(0, v.compact)] := by
  rcases exec_replied v with ⟨s, hexec, hhanded, hreplied, hserving, hup, hreturned⟩
  have hback : s.tunnel.step (.sendBack true) = some { s.tunnel with
      serving := true, up := [], returned := [{ source := v.compact, data := [2] }] } := by
    rw [UdpTunnel.step, UdpTunnel.sendBack, hserving, hup, readFrame_writeSlice, hreturned,
      SocketAddr.compact_compact]
    rfl
  rw [show oneVisit v = [.recvFrom ⟨v, [1]⟩ none, .readFrame, .task .checkMap,
    .task (.connect true)] ++ ([.task .lookupSender, .task .sendInbound, .task (.receive 0 [2]),
      .task (.emit 0), .writeFrame none] ++ [.sendBack true]) from rfl, exec_append,
    exec_connected, Option.bind_some, exec_append, hexec, Option.bind_some,
    exec_cons (step_of_tunnel hback)]
  refine ⟨_, rfl, ?_, ?_⟩
  · simp only [hhanded, handsOver, List.append_nil]
  · simp only [answered, hreplied, replies, List.append_nil]
    rfl

/-- Replies go back in every run, as long as visitors have addresses of some
    kind, exactly if the wire carries all addresses of that kind whole. -/
theorem goBack_iff_plain (S : SocketAddr → Prop) :
    (∀ s, Reaches step (Visits S) initial s → s.GoBack) ↔ ∀ v, S v → v.Plain := by
  constructor
  · intro h v hv
    rcases exec_oneVisit v with ⟨s, hexec, hhanded, hanswered⟩
    have hlegal : ∀ a ∈ oneVisit v, ∀ x, Visits S x a := by
      intro a ha x
      simp only [oneVisit, List.mem_cons, List.not_mem_nil, or_false] at ha
      rcases ha with rfl | rfl | rfl | rfl | rfl | rfl | rfl | rfl | rfl | rfl
      · exact hv
      all_goals exact trivial
    have hback := (h s (reaches_of_forall _ _ _ hlegal hexec)).reply v 0 v.compact
      (by rw [hhanded]; exact List.mem_singleton_self _)
      (by rw [hanswered]; exact List.mem_singleton_self _)
    exact SocketAddr.compact_eq_iff.mp hback
  · intro h s hs
    have hkept : s.Kept := hs.invariant (fun _ _ _ hi _ hst => step_kept hi hst) kept_initial
    have hstart : initial.From S := fun _ ht => absurd ht List.not_mem_nil
    have hfrom : s.From S := hs.invariant (fun _ _ _ hi hok hst => step_from hi hok hst) hstart
    exact goBack_of_kept hkept (fun t ht => h t.source (hfrom t ht))

/-- A link-local address with its interface. -/
def linkLocal : SocketAddr :=
  .v6 ⟨[254, 128, 0, 0, 0, 0, 0, 0, 0, 0, 0, 0, 0, 0, 0, 1], rfl⟩ 5000 0 2

/-- The reply of its forwarder is sent to an address without one. -/
theorem linkLocal_lost :
    ¬ (∀ s, Reaches step (fun _ _ => True) initial s → s.GoBack) ∧
    ∃ s, exec step initial (oneVisit linkLocal) = some s ∧ s.handed = [(linkLocal, 0)] ∧
      s.answered = [(0, linkLocal.compact)] ∧ linkLocal.compact ≠ linkLocal := by
  have hne : linkLocal.compact ≠ linkLocal := by decide
  rcases exec_oneVisit linkLocal with ⟨s, hexec, hhanded, hanswered⟩
  refine ⟨fun h => hne ?_, s, hexec, hhanded, hanswered, hne⟩
  exact (h s (reaches_of_exec _ _ _ hexec)).reply linkLocal 0 linkLocal.compact
    (by rw [hhanded]; exact List.mem_singleton_self _)
    (by rw [hanswered]; exact List.mem_singleton_self _)

end UdpReplies

end Rathole
