import Rathole.Client.UdpOrigins
import Rathole.UdpIsolation

/-!
# Datagrams, Whole or Cut

What becomes of a payload in a UDP tunnel. The server receives the datagrams
of the visitors into a buffer of `UDP_BUFFER_SIZE` bytes, and so does the
client those of the service. What does not fit is gone, and the rest is passed
on as if it were the datagram. Nothing after the buffers cuts anything: the
length field of a frame has room for all that a buffer holds.

To say which datagram a payload belongs to, the datagrams themselves are kept
beside the tunnel, at the place where the payload stands that was made of it:
in the frames on either stream, in the client, and in the histories of what
was handed to the service's sockets and sent to the visitors.

## Main definitions

* `UdpPayloads`: A tunnel with the datagrams beside it.
* `UdpPayloads.step`: One action, which moves both.
* `UdpPayloads.toService`, `UdpPayloads.toVisitors`: What was emitted because
  of which datagram.
* `UdpPayloads.Kept`: Every payload is what a buffer keeps of its datagram.

## Theorems

* `step_kept`: A step keeps it so.
* `whole_iff`: Which datagrams are emitted whole or not at all.
* `long_datagram_cut`: A datagram that is not.
-/

namespace Rathole

open ByteStream Client.Udp Transition UdpTunnel

/-- A tunnel, and the datagrams behind its payloads: those in the frames on
    the streams, those in the client, and those in the two histories of what
    was emitted. -/
structure UdpPayloads where
  tunnel : UdpTunnel
  down : List (List UInt8)
  client : Origins
  up : List (List UInt8)
  forwarded : List (List UInt8)
  returned : List (List UInt8)

namespace UdpPayloads

/-- A tunnel that has just started. -/
def initial : UdpPayloads where
  tunnel := UdpTunnel.initial
  down := []
  client := Origins.initial
  up := []
  forwarded := []
  returned := []

/-- The datagrams that an action of the client hands to a socket. -/
def hands (s : UdpPayloads) : Client.Udp.Action SocketAddr → List (List UInt8)
  | .inbound i _ => (s.client.queued i).take 1
  | _ => []

/-- The datagrams move as their payloads do, when the tunnel becomes `u`. -/
def carry (s : UdpPayloads) (u : UdpTunnel) : TunnelAction → UdpPayloads
  | .recvFrom t _ => { s with tunnel := u, down := s.down ++ [t.data] }
  | .sendBack _ => { s with
      tunnel := u, up := s.up.drop 1, returned := s.returned ++ s.up.take 1 }
  | .stop => { s with tunnel := u }
  | .readFrame => { s with
      tunnel := u, down := s.down.drop 1, client := { s.client with hand := s.down.take 1 } }
  | .writeFrame cut => { s with
      tunnel := u
      client := s.client.move s.tunnel.client (.writeOut cut.isNone)
      up := s.up ++ s.client.outbound.take 1 }
  | .task a => { s with
      tunnel := u
      client := s.client.move s.tunnel.client a
      forwarded := s.forwarded ++ s.hands a }

/-- One action, for the payloads and the datagrams. -/
def step (s : UdpPayloads) (a : TunnelAction) : Option UdpPayloads :=
  (s.tunnel.step a).map (fun u => s.carry u a)

/-- What was handed to the sockets towards the service, each with the datagram
    it was handed for. -/
def toService (s : UdpPayloads) : List (List UInt8 × List UInt8) :=
  s.forwarded.zip (s.tunnel.forwarded.map Prod.snd)

/-- What was sent to the visitors, each with the datagram it was sent for. -/
def toVisitors (s : UdpPayloads) : List (List UInt8 × List UInt8) :=
  s.returned.zip (s.tunnel.returned.map UdpTraffic.data)

/-- Whatever is emitted for the datagram is the datagram. -/
def Whole (d : List UInt8) (emitted : List (List UInt8 × List UInt8)) : Prop :=
  ∀ e, (d, e) ∈ emitted → e = d

/-- Every payload is what a buffer keeps of the datagram at its place. -/
structure Kept (s : UdpPayloads) : Prop where
  inv : s.tunnel.Inv
  down : ∃ frames, udpCodec.Carries s.tunnel.serving s.tunnel.down frames ∧
    frames.map UdpTraffic.data = s.down.map buffered
  client : s.client.Mirrors s.tunnel.client
  up : ∃ frames, udpCodec.Carries s.tunnel.client.writerAlive s.tunnel.up frames ∧
    frames.map UdpTraffic.data = s.up.map buffered
  forwarded : s.tunnel.forwarded.map Prod.snd = s.forwarded.map buffered
  returned : s.tunnel.returned.map UdpTraffic.data = s.returned.map buffered

theorem kept_initial : initial.Kept where
  inv := UdpTunnel.inv_initial
  down := ⟨[], udpCodec.carries_nil _, rfl⟩
  client := Origins.mirrors_initial
  up := ⟨[], udpCodec.carries_nil _, rfl⟩
  forwarded := rfl
  returned := rfl

section Steps

variable {s s' : UdpPayloads} {a : TunnelAction}

/-- The datagrams change nothing of the tunnel. -/
theorem step_tunnel (s : UdpPayloads) (a : TunnelAction) :
    (s.step a).map tunnel = s.tunnel.step a := by
  rw [step, Option.map_map]
  rcases s.tunnel.step a with _ | u
  · rfl
  · cases a <;> rfl

theorem step_cases (h : s.step a = some s') :
    ∃ u, s.tunnel.step a = some u ∧ s' = s.carry u a := by
  rcases Option.map_eq_some_iff.mp h with ⟨u, hstep, heq⟩
  exact ⟨u, hstep, heq.symm⟩

/-- The frame at the front of a stream is that of the first datagram. -/
theorem front_of_cons {t : UdpTraffic SocketAddr} {ts : List (UdpTraffic SocketAddr)}
    {ds : List (List UInt8)} (h : (t :: ts).map UdpTraffic.data = ds.map buffered) :
    [t.data] = (ds.take 1).map buffered ∧ ts.map UdpTraffic.data = (ds.drop 1).map buffered := by
  rw [List.map_take, List.map_drop, ← h]
  exact ⟨rfl, rfl⟩

theorem recvFrom_kept {t : UdpTraffic SocketAddr} {cut : Option Nat} (h : s.Kept)
    (hst : s.step (.recvFrom t cut) = some s') : s'.Kept := by
  rcases step_cases hst with ⟨u, hu, rfl⟩
  have hinv := step_inv h.inv hu
  rcases recvFrom_cases hu with ⟨hs, rfl⟩
  rcases h.down with ⟨frames, hcarries, hframes⟩
  -- The frame is that of what the buffer keeps, with the address as it is written.
  have hbytes : UdpTraffic.writeSlice t.source (t.data.take udpBufferSize) =
      udpCodec.encode (seen t) :=
    (UdpTraffic.write_compact { source := t.source, data := t.data.take udpBufferSize }).symm
  rw [hs] at hcarries
  refine ⟨hinv, ⟨frames ++ [seen t], ?_, ?_⟩, h.client, h.up, h.forwarded, h.returned⟩
  · rw [hbytes]
    exact hcarries.write (seen_valid t) cut
  · rw [List.map_append, hframes, carry, List.map_append]
    rfl

theorem sendBack_kept {ok : Bool} (h : s.Kept) (hst : s.step (.sendBack ok) = some s') :
    s'.Kept := by
  rcases step_cases hst with ⟨u, hu, rfl⟩
  have hinv := step_inv h.inv hu
  rcases sendBack_cases hu with ⟨hs, r, rest, hread, hcase⟩
  rcases h.up with ⟨frames, hcarries, hframes⟩
  rcases hcarries.read hread with ⟨t, ts, hcons, hr, hrest⟩
  rcases hcase with ⟨e, he, _⟩ | ⟨t', ht, rfl⟩
  · -- Only whole frames are on the stream, so none fails to decode.
    rw [hr] at he
    exact absurd he (by simp only [reduceCtorEq, not_false_eq_true])
  · rw [hr, Except.ok.injEq] at ht
    rw [hcons] at hframes
    have hfront := front_of_cons hframes
    refine ⟨hinv, ?_, h.client, ⟨ts, hrest, hfront.2⟩, h.forwarded, ?_⟩
    · rcases h.down with ⟨below, hbelow, hmap⟩
      rw [hs] at hbelow
      refine ⟨below, ?_, hmap⟩
      cases ok with
      | true => exact hbelow
      | false => exact hbelow.stop
    · simp only [carry, List.map_append, List.map_cons, List.map_nil, h.returned, ← ht]
      rw [hfront.1]

theorem stop_kept (h : s.Kept) (hst : s.step .stop = some s') : s'.Kept := by
  rcases step_cases hst with ⟨u, hu, rfl⟩
  have hinv := step_inv h.inv hu
  rcases stop_cases hu with ⟨_, rfl⟩
  rcases h.down with ⟨frames, hcarries, hframes⟩
  exact ⟨hinv, ⟨frames, hcarries.stop, hframes⟩, h.client, h.up, h.forwarded, h.returned⟩

theorem readFrame_kept (h : s.Kept) (hst : s.step .readFrame = some s') : s'.Kept := by
  rcases step_cases hst with ⟨u, hu, rfl⟩
  have hinv := step_inv h.inv hu
  rcases readFrame_cases hu with ⟨r, rest, hread, hcase⟩
  rcases h.down with ⟨frames, hcarries, hframes⟩
  rcases hcarries.read hread with ⟨p, ps, hcons, hr, hrest⟩
  rcases hcase with ⟨e, he, _⟩ | ⟨q, hq, hadv⟩
  · rw [hr] at he
    exact absurd he (by simp only [reduceCtorEq, not_false_eq_true])
  · rw [hr, Except.ok.injEq] at hq
    rw [hcons] at hframes
    have hfront := front_of_cons hframes
    rcases advance_cases hadv with ⟨c, hc, rfl⟩
    rcases UdpChannel.readPacket_cases hc with ⟨hrecv, _⟩
    -- The hand was empty, and the datagram of the packet comes into it.
    have hempty : Origins.Mirrors { s.client with hand := s.down.take 1 } s.tunnel.client := by
      refine ⟨fun p' hp' => ?_, h.client.forwarders, h.client.outbound⟩
      rw [hrecv] at hp'
      exact absurd hp' List.not_mem_nil
    have hclient : Origins.Mirrors { s.client with hand := s.down.take 1 } c := by
      refine Origins.mirrors_of_step hempty hc (fun p' hp' => ?_)
      rw [List.mem_singleton.mp hp', ← hq]
      exact hfront.1
    have hup := h.up
    have halive : c.writerAlive = s.tunnel.client.writerAlive :=
      UdpChannel.step_writerAlive hc (fun _ => by simp only [ne_eq, reduceCtorEq,
        not_false_eq_true])
    rw [← halive] at hup
    refine ⟨hinv, ⟨ps, hrest, hfront.2⟩, hclient, hup, ?_, h.returned⟩
    simp only [carry, UdpChannel.handed, List.append_nil]
    exact h.forwarded

theorem writeFrame_kept {cut : Option Nat} (h : s.Kept)
    (hst : s.step (.writeFrame cut) = some s') : s'.Kept := by
  rcases step_cases hst with ⟨u, hu, rfl⟩
  have hinv := step_inv h.inv hu
  rcases writeFrame_cases hu with ⟨t, rest, ho, hadv⟩
  rcases h.inv.up with ⟨above, _, hout⟩
  have hvalid := outbound_valid h.inv.base hout (by rw [ho]; exact List.mem_cons_self)
  rcases h.up with ⟨frames, hcarries, hframes⟩
  rcases advance_cases hadv with ⟨c, hc, rfl⟩
  have hclient := Origins.mirrors_of_step h.client hc (fun p hp => absurd hp List.not_mem_nil)
  have hwritten := Origins.written_mirrors h.client cut.isNone
  rw [UdpChannel.written, ho] at hwritten
  rcases UdpChannel.writeOut_cases hc with ⟨t', rest', halive, _, rfl⟩
  -- A frame that is cut off ends the writer, and nothing comes after it.
  rw [halive] at hcarries
  refine ⟨hinv, h.down, hclient, ⟨frames ++ [t], hcarries.write hvalid cut, ?_⟩, ?_, h.returned⟩
  · rw [List.map_append, hframes, carry, List.map_append, ← hwritten]
    rfl
  · simp only [carry, UdpChannel.handed, List.append_nil]
    exact h.forwarded

/-- What the client hands to a socket comes with its datagram. -/
theorem hands_mirrors {b : Client.Udp.Action SocketAddr} {c : UdpChannel SocketAddr} (h : s.Kept)
    (hc : s.tunnel.client.step b = some c) :
    (s.tunnel.client.handed b).map Prod.snd = (s.hands b).map buffered := by
  cases b with
  | inbound i ok => exact Origins.handed_mirrors h.client hc
  | _ => rfl

theorem task_kept {b : Client.Udp.Action SocketAddr} (h : s.Kept)
    (hst : s.step (.task b) = some s') : s'.Kept := by
  rcases step_cases hst with ⟨u, hu, rfl⟩
  have hinv := step_inv h.inv hu
  rcases task_cases hu with ⟨harr, hne, hadv⟩
  rcases advance_cases hadv with ⟨c, hc, rfl⟩
  have hclient := Origins.mirrors_of_step h.client hc (fun p hp => by
    rw [harr] at hp
    exact absurd hp List.not_mem_nil)
  have hup := h.up
  rw [← UdpChannel.step_writerAlive hc hne] at hup
  refine ⟨hinv, h.down, hclient, hup, ?_, h.returned⟩
  simp only [carry, List.map_append, h.forwarded, hands_mirrors h hc]

/-- A step keeps every payload with its datagram. -/
theorem step_kept (h : s.Kept) (hst : s.step a = some s') : s'.Kept := by
  cases a with
  | recvFrom t cut => exact recvFrom_kept h hst
  | sendBack ok => exact sendBack_kept h hst
  | stop => exact stop_kept h hst
  | readFrame => exact readFrame_kept h hst
  | writeFrame cut => exact writeFrame_kept h hst
  | task b => exact task_kept h hst

end Steps

theorem of_mem_zip_map {f : List UInt8 → List UInt8} {ds : List (List UInt8)}
    {d e : List UInt8} (h : (d, e) ∈ ds.zip (ds.map f)) : e = f d := by
  have hzip : ds.zip (ds.map f) = ds.map (fun a => (a, f a)) := by
    have hboth := List.zip_map' (l := ds) (f := id) (g := f)
    rw [List.map_id] at hboth
    exact hboth
  rw [hzip, List.mem_map] at h
  rcases h with ⟨x, _, heq⟩
  rw [Prod.mk.injEq] at heq
  rw [← heq.1, ← heq.2]

/-- What is emitted is what a buffer keeps of the datagram. -/
theorem emitted_of_kept {s : UdpPayloads} (h : s.Kept) {d e : List UInt8} :
    ((d, e) ∈ s.toService → e = buffered d) ∧ ((d, e) ∈ s.toVisitors → e = buffered d) := by
  rw [toService, toVisitors, h.forwarded, h.returned]
  exact ⟨of_mem_zip_map, of_mem_zip_map⟩

/-! ### A datagram each way -/

/-- A visitor sends the datagram, and the service answers with it. -/
def echoed (d : List UInt8) : List TunnelAction :=
  [.recvFrom ⟨visitorA, d⟩ none, .readFrame, .task .checkMap, .task (.connect true),
    .task .lookupSender, .task .sendInbound, .task (.inbound 0 true), .task (.receive 0 d),
    .task (.emit 0), .writeFrame none, .sendBack true]

theorem step_of_tunnel {s : UdpPayloads} {a : TunnelAction} {u : UdpTunnel}
    (h : s.tunnel.step a = some u) : s.step a = some (s.carry u a) := by
  rw [step, h, Option.map_some]

theorem readFrame_buffered (d : List UInt8) :
    UdpTraffic.readFrame (UdpTraffic.writeSlice visitorA (buffered d)) =
      some (.ok { source := visitorA, data := buffered d }, []) := by
  have hlen : (buffered d).length < 2 ^ 16 := by
    have hlt := udpBufferSize_lt
    rw [buffered, List.length_take]
    omega
  have hread := UdpTraffic.readFrame_write (t := { source := visitorA, data := buffered d }) hlen []
  rw [List.append_nil] at hread
  exact hread

/-- The datagram is in the reader loop's hand. -/
def taken (d : List UInt8) : UdpPayloads :=
  { initial with
    tunnel := { UdpTunnel.initial with
      client := { UdpChannel.initial with
        lock := { holders := [(.reader, .read)], waiting := [] }
        reader := .firstGuard { source := visitorA, data := buffered d } }
      received := [{ source := visitorA, data := d }] }
    client := { Origins.initial with hand := [d] } }

theorem exec_taken (d : List UInt8) :
    exec step initial [.recvFrom ⟨visitorA, d⟩ none, .readFrame] = some (taken d) := by
  have hread : UdpTunnel.step { UdpTunnel.initial with
      down := UdpTraffic.writeSlice visitorA (buffered d)
      received := [{ source := visitorA, data := d }] } .readFrame = some (taken d).tunnel := by
    rw [UdpTunnel.step, UdpTunnel.readFrame, readFrame_buffered]
    rfl
  rw [exec_cons (t := { initial with
    tunnel := { UdpTunnel.initial with
      down := UdpTraffic.writeSlice visitorA (buffered d)
      received := [{ source := visitorA, data := d }] }
    down := [d] }) rfl, exec_cons (step_of_tunnel hread)]
  rfl

/-- It is handed to the service, which answers, and the reply is written. -/
theorem exec_answered (d : List UInt8) : ∃ s, exec step (taken d) [.task .checkMap,
      .task (.connect true), .task .lookupSender, .task .sendInbound, .task (.inbound 0 true),
      .task (.receive 0 d), .task (.emit 0), .writeFrame none] = some s ∧
    s.toService = [(d, buffered d)] ∧ s.tunnel.serving = true ∧
    s.tunnel.up = UdpTraffic.writeSlice visitorA (buffered d) ∧ s.up = [d] ∧
    s.returned = [] ∧ s.tunnel.returned = [] :=
  ⟨_, rfl, rfl, rfl, rfl, rfl, rfl, rfl⟩

/-- Both ways what is emitted is what a buffer keeps of the datagram. -/
theorem exec_echoed (d : List UInt8) : ∃ s, exec step initial (echoed d) = some s ∧
    s.toService = [(d, buffered d)] ∧ s.toVisitors = [(d, buffered d)] := by
  rcases exec_answered d with ⟨s, hexec, hservice, hserving, hup, horigin, hret, hreturned⟩
  have hback : s.tunnel.step (.sendBack true) = some { s.tunnel with
      serving := true
      up := []
      returned := [{ source := visitorA, data := buffered d }] } := by
    rw [UdpTunnel.step, UdpTunnel.sendBack, hserving, hup, readFrame_buffered, hreturned]
    rfl
  rw [show echoed d = [.recvFrom ⟨visitorA, d⟩ none, .readFrame] ++ ([.task .checkMap,
      .task (.connect true), .task .lookupSender, .task .sendInbound, .task (.inbound 0 true),
      .task (.receive 0 d), .task (.emit 0), .writeFrame none] ++ [.sendBack true]) from rfl,
    exec_append, exec_taken, Option.bind_some, exec_append, hexec, Option.bind_some,
    exec_cons (step_of_tunnel hback)]
  refine ⟨_, rfl, hservice, ?_⟩
  simp only [toVisitors, carry, horigin, hret]
  rfl

/-- For every datagram: in every run what is handed to the service because of
    it is the whole of it, exactly if it fits the buffer; and so is what is
    sent to a visitor. -/
theorem whole_iff (d : List UInt8) :
    ((∀ s, Reaches step (fun _ _ => True) initial s → Whole d s.toService) ↔
      d.length ≤ udpBufferSize) ∧
    ((∀ s, Reaches step (fun _ _ => True) initial s → Whole d s.toVisitors) ↔
      d.length ≤ udpBufferSize) := by
  have hkept : ∀ s, Reaches step (fun _ _ => True) initial s → s.Kept := fun s hs =>
    hs.invariant (fun _ _ _ hi _ hst => step_kept hi hst) kept_initial
  rcases exec_echoed d with ⟨s, hexec, hservice, hvisitors⟩
  have hs := reaches_of_exec _ _ _ hexec
  refine ⟨⟨fun h => ?_, fun h s hs e he => ?_⟩, ⟨fun h => ?_, fun h s hs e he => ?_⟩⟩
  · refine buffered_eq_iff.mp (h s hs (buffered d) ?_)
    rw [hservice]
    exact List.mem_singleton_self _
  · rw [(emitted_of_kept (hkept s hs)).1 he]
    exact buffered_eq_iff.mpr h
  · refine buffered_eq_iff.mp (h s hs (buffered d) ?_)
    rw [hvisitors]
    exact List.mem_singleton_self _
  · rw [(emitted_of_kept (hkept s hs)).2 he]
    exact buffered_eq_iff.mpr h

/-- A datagram of one byte more than the buffers hold is emitted without its
    last byte, on either side. -/
theorem long_datagram_cut :
    ¬ (∀ d : List UInt8, d.length ≤ 65507 →
      ∀ s, Reaches step (fun _ _ => True) initial s → Whole d s.toService) ∧
    ¬ (∀ d : List UInt8, d.length ≤ 65507 →
      ∀ s, Reaches step (fun _ _ => True) initial s → Whole d s.toVisitors) := by
  have hlen : (List.replicate 2049 (0 : UInt8)).length = 2049 := List.length_replicate
  have hcut : buffered (List.replicate 2049 0) ≠ List.replicate 2049 0 := by
    intro heq
    have hle := buffered_eq_iff.mp heq
    rw [hlen] at hle
    exact absurd hle (by decide)
  rcases exec_echoed (List.replicate 2049 0) with ⟨s, hexec, hservice, hvisitors⟩
  have hs := reaches_of_exec _ _ _ hexec
  constructor
  · intro h
    refine hcut (h _ (by rw [hlen]; omega) s hs _ ?_)
    rw [hservice]
    exact List.mem_singleton_self _
  · intro h
    refine hcut (h _ (by rw [hlen]; omega) s hs _ ?_)
    rw [hvisitors]
    exact List.mem_singleton_self _

end UdpPayloads

end Rathole
