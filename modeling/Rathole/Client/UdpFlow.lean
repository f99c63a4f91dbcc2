import Rathole.Client.UdpMap

/-!
# Payloads on Their Way Through the Client

What is on its way through the client, per visitor. `pending` is what has come
from the server and not yet been handed to a socket: the queue of the
visitor's forwarder, and then the packet in the reader loop's hand. `outgoing`
is what has come from the service and not yet been written: the outbound
queue, and then the reply in the forwarder's hand. An action moves payloads
along these lists from the end to the front, or loses them; `step_pending` and
`step_outgoing` say just that. Both rest on the map invariant: with two
forwarders for one visitor there would be no one queue and no one hand.

## Main definitions

* `packetsFor`, `socketFor`: The payloads for one visitor in a list of
  packets, and those on the sockets opened for one visitor.
* `pending`, `outgoing`: The payloads on their way, in order.
* `arrivals`, `handed`, `replies`, `written`: What an action lets in and out.

## Theorems

* `step_inHand`: The reader loop has in hand what it had or what came.
* `socketFor_step`: What was on a socket stays with the socket's visitor.
* `step_writerAlive`: The writer stops only where it writes.
* `connect_served`, `cleanup_served`: What a new entry changes for a visitor,
  and what the loss of one.
* `step_pending`: What a step does on the way to the service.
* `step_outgoing`: What a step does on the way to the server.
-/


namespace Rathole

namespace Client

namespace Udp

variable {α : Type} [DecidableEq α]

/-- The packet the reader loop has read and not yet passed on. -/
def ReaderPc.inHand : ReaderPc α → List (UdpTraffic α)
  | .recv => []
  | .firstGuard p => [p]
  | .writeGuard p => [p]
  | .secondGuard p _ => [p]
  | .sending p _ _ => [p]
  | .stopped => []

/-- The reply a forwarder has received and not yet passed on. -/
def ForwarderPc.inHand : ForwarderPc → List (List UInt8)
  | .emitting data => [data]
  | _ => []

/-- The payloads of the packets from or to one visitor. -/
def packetsFor (v : α) (ts : List (UdpTraffic α)) : List (List UInt8) :=
  (ts.filter (fun t => t.source = v)).map UdpTraffic.data

section PacketsFor

variable {v : α}

theorem packetsFor_append (ts us : List (UdpTraffic α)) :
    packetsFor v (ts ++ us) = packetsFor v ts ++ packetsFor v us := by
  simp only [packetsFor, List.filter_append, List.map_append]

theorem packetsFor_sublist {ts us : List (UdpTraffic α)} (h : ts.Sublist us) :
    (packetsFor v ts).Sublist (packetsFor v us) :=
  (h.filter _).map _

theorem packetsFor_of_eq {t : UdpTraffic α} (h : t.source = v) : packetsFor v [t] = [t.data] := by
  simp only [packetsFor, List.filter_singleton, h, decide_true, cond_true, List.map_cons,
    List.map_nil]

theorem packetsFor_of_ne {t : UdpTraffic α} (h : t.source ≠ v) : packetsFor v [t] = [] := by
  simp only [packetsFor, List.filter_singleton, h, decide_false, cond_false, List.map_nil]

end PacketsFor

/-- The packets an action brings from the server. -/
def Action.arrivals : Action α → List (UdpTraffic α)
  | .packet p => [p]
  | _ => []

/-- The datagrams an action brings from the service, with their socket. -/
def Action.replies : Action α → List (Nat × List UInt8)
  | .receive i data => [(i, data)]
  | _ => []

namespace UdpChannel

/-- The datagrams an action hands to a socket, sent or not. -/
def handed (s : UdpChannel α) : Action α → List (Nat × List UInt8)
  | .inbound i _ =>
      ((s.forwarders i).elim [] (fun f => f.inbound.take 1)).map (fun d => (i, d))
  | _ => []

/-- The packets an action writes to the server, through or not. -/
def written (s : UdpChannel α) : Action α → List (UdpTraffic α)
  | .writeOut _ => s.outbound.take 1
  | _ => []

/-- The payloads on the sockets opened for one visitor. -/
def socketFor (s : UdpChannel α) (v : α) (es : List (Nat × List UInt8)) : List (List UInt8) :=
  (es.filter (fun e => s.opener e.1 = some v)).map Prod.snd

/-- The payloads queued for a visitor's forwarder. -/
def queueFor (s : UdpChannel α) (v : α) : List (List UInt8) :=
  (s.served v).elim [] Forwarder.inbound

/-- The reply in the hand of a visitor's forwarder. -/
def replyFor (s : UdpChannel α) (v : α) : List (List UInt8) :=
  (s.served v).elim [] (fun f => f.pc.inHand)

/-- The payloads from a visitor on their way to the service. -/
def pending (s : UdpChannel α) (v : α) : List (List UInt8) :=
  s.queueFor v ++ packetsFor v s.reader.inHand

/-- The payloads to a visitor on their way to the server. -/
def outgoing (s : UdpChannel α) (v : α) : List (List UInt8) :=
  packetsFor v s.outbound ++ s.replyFor v

/-! ### The payloads of one visitor -/

section Payloads

variable {s s' : UdpChannel α} {a : Action α} {i : Nat} {f g : Forwarder α} {v : α}

/-- The reader loop has in hand what it had before or what has come. -/
theorem step_inHand {p : UdpTraffic α} (hst : s.step a = some s')
    (hp : p ∈ s'.reader.inHand) : p ∈ s.reader.inHand ∨ p ∈ a.arrivals := by
  cases rule_of_step hst with
  | packet => exact Or.inr hp
  -- The packet stays in hand while the guards for it are taken.
  | unknown hr | known hr | connected hr | unconnected hr | found hr =>
      rw [hr]
      exact Or.inl hp
  | readError | missing | unsent | sent => exact absurd hp List.not_mem_nil
  | inbound | receive | emit | unheard | leave | cleanup | writeOut => exact Or.inl hp

theorem socketFor_of_eq {d : List UInt8} (hf : s.forwarders i = some f) (h : f.source = v) :
    s.socketFor v [(i, d)] = [d] := by
  simp only [socketFor, List.filter_singleton, opener_of_eq hf, h, decide_true, cond_true,
    List.map_cons, List.map_nil]

theorem socketFor_of_ne {d : List UInt8} (hf : s.forwarders i = some f) (h : f.source ≠ v) :
    s.socketFor v [(i, d)] = [] := by
  simp only [socketFor, List.filter_singleton, opener_of_eq hf, Option.some.injEq, h,
    decide_false, cond_false, List.map_nil]

theorem queueFor_live (h : s.MapInv) (hf : s.forwarders i = some f) (hlive : f.pc ≠ .returned)
    (hv : f.source = v) : s.queueFor v = f.inbound := by
  rw [queueFor, ← hv, served_live h hf hlive, Option.elim_some]

theorem replyFor_live (h : s.MapInv) (hf : s.forwarders i = some f) (hlive : f.pc ≠ .returned)
    (hv : f.source = v) : s.replyFor v = f.pc.inHand := by
  rw [replyFor, ← hv, served_live h hf hlive, Option.elim_some]

theorem queueFor_setForwarder (h : s.MapInv) (hf : s.forwarders i = some f)
    (hlive : f.pc ≠ .returned) :
    (s.setForwarder i g).queueFor v = if f.source = v then g.inbound else s.queueFor v := by
  rw [queueFor, served_setForwarder h hf hlive]
  split
  · rw [Option.elim_some]
  · rfl

theorem replyFor_setForwarder (h : s.MapInv) (hf : s.forwarders i = some f)
    (hlive : f.pc ≠ .returned) :
    (s.setForwarder i g).replyFor v = if f.source = v then g.pc.inHand else s.replyFor v := by
  rw [replyFor, served_setForwarder h hf hlive]
  split
  · rw [Option.elim_some]
  · rfl

/-- A forwarder that leaves its queue alone leaves every visitor's alone. -/
theorem queueFor_of_inbound (h : s.MapInv) (hf : s.forwarders i = some f)
    (hlive : f.pc ≠ .returned) (hin : g.inbound = f.inbound) :
    ((s.setForwarder i g).queueFor v).Sublist (s.queueFor v) := by
  rw [queueFor_setForwarder h hf hlive]
  split
  · rename_i hv
    rw [hin, queueFor_live h hf hlive hv]
  · exact List.Sublist.refl _

/-- A forwarder that takes no new reply in hand, for every visitor. -/
theorem replyFor_of_inHand (h : s.MapInv) (hf : s.forwarders i = some f)
    (hlive : f.pc ≠ .returned) (hin : g.pc.inHand.Sublist f.pc.inHand) :
    ((s.setForwarder i g).replyFor v).Sublist (s.replyFor v) := by
  rw [replyFor_setForwarder h hf hlive]
  split
  · rename_i hv
    rw [replyFor_live h hf hlive hv]
    exact hin
  · exact List.Sublist.refl _

/-- A new forwarder has an empty queue and no reply in hand, as its visitor
    had before. -/
theorem connect_served {ok : Bool} (h : s.MapInv) (hst : s.connect ok = some s') :
    s'.queueFor v = s.queueFor v ∧ s'.replyFor v = s.replyFor v := by
  rcases connect_cases hst with ⟨p, hr, _, ⟨_, rfl⟩ | ⟨_, rfl⟩⟩
  · -- The visitor was served by nobody, and is now by one who has nothing yet.
    by_cases hv : v = p.source
    · subst hv
      have hnone : s.served p.source = none := by
        rw [served, h.absent p hr, Option.bind_none]
      simp only [queueFor, replyFor, hnone]
      simp only [served, AList.lookup_insert, Option.bind_some, Function.update_self,
        Option.elim_some, Option.elim_none, ForwarderPc.inHand, and_self]
    · -- The others keep their forwarders, whose numbers are older.
      have hsame : ∀ i, s.portMap.lookup v = some i → i ≠ s.spawned := by
        intro i hl hi
        have ho := h.entry v i hl
        rw [opener, hi, h.fresh s.spawned (le_refl _), Option.map_none] at ho
        simp only [reduceCtorEq] at ho
      simp only [queueFor, replyFor, served, AList.lookup_insert_ne hv]
      rcases hl : s.portMap.lookup v with _ | i
      · exact ⟨rfl, rfl⟩
      · simp only [Option.bind_some, Function.update_of_ne (hsame i hl), and_self]
  · exact ⟨rfl, rfl⟩

/-- With its entry a visitor loses what its forwarder had queued or in hand;
    nobody else loses anything. -/
theorem cleanup_served (h : s.MapInv) (hst : s.cleanup i = some s') :
    (s'.queueFor v).Sublist (s.queueFor v) ∧ (s'.replyFor v).Sublist (s.replyFor v) := by
  rcases cleanup_cases hst with ⟨f, hf, hpc, _, rfl⟩
  have hlive : f.pc ≠ .returned := by simp only [hpc, ne_eq, reduceCtorEq, not_false_eq_true]
  by_cases hv : v = f.source
  · -- Without the entry nobody serves the visitor.
    subst hv
    simp only [queueFor, replyFor, served, AList.lookup_erase, Option.bind_none,
      Option.elim_none, List.nil_sublist, and_self]
  · have hset : (s.portMap.lookup v).bind
        (s.setForwarder i { f with pc := .returned }).forwarders = s.served v := by
      have hserved := served_setForwarder (v := v) (g := { f with pc := .returned }) h hf hlive
      rw [if_neg (Ne.symm hv)] at hserved
      exact hserved
    simp only [queueFor, replyFor, served, AList.lookup_erase_ne hv]
    rw [hset]
    exact ⟨List.Sublist.refl _, List.Sublist.refl _⟩

theorem socketFor_append (es fs : List (Nat × List UInt8)) :
    s.socketFor v (es ++ fs) = s.socketFor v es ++ s.socketFor v fs := by
  simp only [socketFor, List.filter_append, List.map_append]

/-- What was on known sockets stays with its visitors. -/
theorem socketFor_step {es : List (Nat × List UInt8)} (h : s.MapInv) (hst : s.step a = some s')
    (hknown : ∀ e ∈ es, ∃ w, s.opener e.1 = some w) : s'.socketFor v es = s.socketFor v es := by
  have hfilter : es.filter (fun e => s'.opener e.1 = some v) =
      es.filter (fun e => s.opener e.1 = some v) := by
    refine List.filter_congr (fun e he => ?_)
    rcases hknown e he with ⟨w, hw⟩
    rw [step_opener h hst hw, hw]
  rw [socketFor, socketFor, hfilter]

omit [DecidableEq α] in
/-- A datagram is handed to a socket that has been opened. -/
theorem opener_of_handed {e : Nat × List UInt8} (he : e ∈ s.handed a) :
    ∃ w, s.opener e.1 = some w := by
  cases a with
  | inbound i ok =>
      simp only [handed, List.mem_map] at he
      rcases he with ⟨d, hd, rfl⟩
      rcases hf : s.forwarders i with _ | f
      · simp only [hf, Option.elim_none, List.not_mem_nil] at hd
      · exact ⟨f.source, opener_of_eq hf⟩
  | _ => exact absurd he List.not_mem_nil

/-- A datagram comes from a socket that has been opened. -/
theorem opener_of_replies {e : Nat × List UInt8} (hst : s.step a = some s')
    (he : e ∈ a.replies) : ∃ w, s.opener e.1 = some w := by
  cases a with
  | receive i data =>
      rcases receive_cases hst with ⟨f, hf, _, _⟩
      rw [List.mem_singleton.mp he]
      exact ⟨f.source, opener_of_eq hf⟩
  | _ => exact absurd he List.not_mem_nil

/-! ### What a step does to them -/

/-- The writer stops only where it writes. -/
theorem step_writerAlive (hst : s.step a = some s') (hne : ∀ ok, a ≠ .writeOut ok) :
    s'.writerAlive = s.writerAlive := by
  cases rule_of_step hst with
  | writeOut => exact absurd rfl (hne _)
  | _ => rfl

/-- Nothing comes in and nothing goes out. -/
theorem pending_of_quiet (hq : (s'.queueFor v).Sublist (s.queueFor v))
    (hr : s'.reader.inHand.Sublist s.reader.inHand) :
    (s.socketFor v [] ++ s'.pending v).Sublist (s.pending v ++ packetsFor v []) := by
  have hsub : (s'.pending v).Sublist (s.pending v) := hq.append (packetsFor_sublist hr)
  simpa only [socketFor, packetsFor, List.filter_nil, List.map_nil, List.nil_append,
    List.append_nil] using hsub

/-- The packet in the reader loop's hand goes to the end of the queue of its
    visitor's forwarder, or is lost. -/
theorem sendInbound_pending (h : s.MapInv) (hst : s.sendInbound = some s') :
    (s'.pending v).Sublist (s.pending v) := by
  rcases sendInbound_cases hst with ⟨p, i, sh, f, hr, hf, ⟨_, rfl⟩ | ⟨hlive, _, rfl⟩⟩
  · exact (List.Sublist.refl _).append (packetsFor_sublist (List.nil_sublist _))
  · have hfree : UdpChannel.MapInv { s with reader := .recv, lock := s.dropGuards sh } :=
      mapInv_of_reader h rfl rfl rfl (by simp) (by simp)
    have hsrc : f.source = p.source := by
      have ho := h.sending p i sh hr
      rw [opener_of_eq hf, Option.some.injEq] at ho
      exact ho
    have hpending : s.pending v = s.queueFor v ++ packetsFor v [p] := by
      rw [pending, hr]
      rfl
    have hpending' : ({ s with reader := .recv, lock := s.dropGuards sh }.setForwarder i
        { f with inbound := f.inbound ++ [p.data] }).pending v =
        if f.source = v then f.inbound ++ [p.data] else s.queueFor v := by
      rw [pending, queueFor_setForwarder hfree hf hlive]
      exact List.append_nil _
    rw [hpending, hpending']
    split
    · rename_i hv
      rw [queueFor_live h hf hlive hv, packetsFor_of_eq (hsrc.symm.trans hv)]
    · rename_i hv
      rw [packetsFor_of_ne (fun hp => hv (hsrc.trans hp)), List.append_nil]

/-- What a step does on the way to the service: a payload enters at the end,
    leaves from the front for a socket of its visitor, or is lost. -/
theorem step_pending (h : s.MapInv) (hst : s.step a = some s') :
    (s.socketFor v (s.handed a) ++ s'.pending v).Sublist
      (s.pending v ++ packetsFor v a.arrivals) := by
  cases rule_of_step hst with
  | packet hr =>
      simp only [pending, hr, ReaderPc.inHand, Action.arrivals, List.append_assoc]
      exact List.Sublist.refl _
  -- While it takes its guards the reader loop keeps the packet, or loses it.
  | unknown hr | known hr | unconnected hr | found hr =>
      exact pending_of_quiet (List.Sublist.refl _) (by rw [hr]; exact List.Sublist.refl _)
  | readError | missing =>
      exact pending_of_quiet (List.Sublist.refl _) (List.nil_sublist _)
  | connected hr =>
      refine pending_of_quiet (by rw [(connect_served h hst).1]) ?_
      rw [hr]
      exact List.Sublist.refl _
  | unsent | sent =>
      have hsub := sendInbound_pending (v := v) h hst
      simpa only [handed, Action.arrivals, socketFor, packetsFor, List.filter_nil, List.map_nil,
        List.nil_append, List.append_nil] using hsub
  | @inbound i ok f d rest hf hpc hq =>
      -- The payload at the front of a queue goes to a socket of its visitor.
      have hlive : f.pc ≠ .returned := by simp [hpc]
      have hhead : s.handed (.inbound i ok) = [(i, d)] := by
        simp only [handed, hf, Option.elim_some, hq, List.take_succ_cons, List.take_zero,
          List.map_cons, List.map_nil]
      rw [hhead]
      simp only [pending, Action.arrivals, packetsFor, List.filter_nil, List.map_nil,
        List.append_nil]
      rw [queueFor_setForwarder h hf hlive]
      split
      · rename_i hv
        rw [socketFor_of_eq hf hv, queueFor_live h hf hlive hv, hq]
        exact List.Sublist.refl _
      · rename_i hv
        rw [socketFor_of_ne hf hv]
        exact List.Sublist.refl _
  | receive hf hpc | unheard hf hpc =>
      exact pending_of_quiet (queueFor_of_inbound h hf (by simp [hpc]) rfl) (List.Sublist.refl _)
  | @emit i f data hf hpc =>
      have hq := queueFor_of_inbound (v := v) (g := { f with pc := .looping }) h hf
        (by simp [hpc]) rfl
      exact pending_of_quiet hq (List.Sublist.refl _)
  | @leave i why f hf hpc =>
      have hq := queueFor_of_inbound (v := v) (g := { f with pc := .cleaning }) h hf
        (by simp [hpc]) rfl
      exact pending_of_quiet hq (List.Sublist.refl _)
  | cleanup => exact pending_of_quiet (cleanup_served h hst).1 (List.Sublist.refl _)
  | writeOut => exact pending_of_quiet (List.Sublist.refl _) (List.Sublist.refl _)

theorem outgoing_of_quiet (ho : s'.outbound = s.outbound)
    (hr : (s'.replyFor v).Sublist (s.replyFor v)) :
    (packetsFor v [] ++ s'.outgoing v).Sublist
      (s.outgoing v ++ (s.socketFor v []).map (List.take udpBufferSize)) := by
  have hsub : (s'.outgoing v).Sublist (s.outgoing v) := by
    rw [outgoing, outgoing, ho]
    exact (List.Sublist.refl _).append hr
  simpa only [socketFor, packetsFor, List.filter_nil, List.map_nil, List.nil_append,
    List.append_nil] using hsub

/-- The reply in a forwarder's hand goes to the end of the outbound queue, or
    is lost once the writer is gone. -/
theorem emit_outgoing (h : s.MapInv) (hst : s.emit i = some s') :
    (s'.outgoing v).Sublist (s.outgoing v) := by
  rcases emit_cases hst with ⟨f, data, hf, hpc, ⟨_, rfl⟩ | ⟨_, rfl⟩⟩
  · -- From the hand into the queue, with the address of the visitor it serves.
    have hlive : f.pc ≠ .returned := by simp [hpc]
    have hreply : ((s.setForwarder i { f with pc := .looping }).replyFor v) =
        if f.source = v then [] else s.replyFor v := replyFor_setForwarder h hf hlive
    have hout : UdpChannel.outgoing { s.setForwarder i { f with pc := .looping } with
        outbound := s.outbound ++ [{ source := f.source, data := data }] } v =
        packetsFor v (s.outbound ++ [{ source := f.source, data := data }]) ++
          (s.setForwarder i { f with pc := .looping }).replyFor v := rfl
    rw [hout, outgoing, hreply, packetsFor_append]
    split
    · rename_i hv
      rw [packetsFor_of_eq hv, replyFor_live h hf hlive hv, hpc, List.append_nil]
      exact List.Sublist.refl _
    · rename_i hv
      rw [packetsFor_of_ne hv, List.append_nil]
  · exact (List.Sublist.refl _).append
      (replyFor_of_inHand h hf (by simp [hpc]) (List.nil_sublist _))

/-- What a step does on the way to the server: a datagram enters at the end,
    as far as the buffer holds it, leaves from the front with its visitor's
    address, or is lost. -/
theorem step_outgoing (h : s.MapInv) (hst : s.step a = some s') :
    (packetsFor v (s.written a) ++ s'.outgoing v).Sublist
      (s.outgoing v ++ (s.socketFor v a.replies).map (List.take udpBufferSize)) := by
  cases rule_of_step hst with
  | packet | readError | unknown | known | unconnected | found | missing | unsent =>
      exact outgoing_of_quiet rfl (List.Sublist.refl _)
  | connected => exact outgoing_of_quiet rfl (by rw [(connect_served h hst).2])
  | @sent p i sh f hr hf hlive =>
      have hr := replyFor_of_inHand (v := v) (g := { f with inbound := f.inbound ++ [p.data] })
        h hf hlive (List.Sublist.refl _)
      exact outgoing_of_quiet rfl hr
  | @inbound i ok f d rest hf hpc hq =>
      refine outgoing_of_quiet rfl (replyFor_of_inHand h hf (by simp [hpc]) ?_)
      cases ok with
      | true => exact List.nil_sublist _
      | false => exact List.nil_sublist _
  | @receive i data f hf hpc =>
      -- What does not fit into the buffer is lost here.
      have hlive : f.pc ≠ .returned := by simp [hpc]
      have hreply : (s.setForwarder i { f with pc := .emitting (data.take udpBufferSize) }).replyFor
          v = if f.source = v then [data.take udpBufferSize] else s.replyFor v :=
        replyFor_setForwarder h hf hlive
      simp only [outgoing, written, Action.replies]
      rw [hreply]
      split
      · rename_i hv
        have hempty : ForwarderPc.looping.inHand = [] := rfl
        rw [socketFor_of_eq hf hv, replyFor_live h hf hlive hv, hpc, hempty, List.append_nil]
        exact List.Sublist.refl _
      · rename_i hv
        rw [socketFor_of_ne hf hv, List.map_nil, List.append_nil]
        exact List.Sublist.refl _
  | emit | unheard =>
      have hsub := emit_outgoing (v := v) h hst
      simpa only [written, Action.replies, socketFor, packetsFor, List.filter_nil, List.map_nil,
        List.nil_append, List.append_nil] using hsub
  | @leave i why f hf hpc =>
      have hr := replyFor_of_inHand (v := v) (g := { f with pc := .cleaning }) h hf
        (by simp [hpc]) (List.nil_sublist _)
      exact outgoing_of_quiet rfl hr
  | cleanup => exact outgoing_of_quiet rfl (cleanup_served h hst).2
  -- The frame at the front goes out, whatever becomes of the writer.
  | @writeOut ok t rest ho =>
      have hhead : s.written (.writeOut ok) = [t] := by
        rw [written, ho, List.take_succ_cons, List.take_zero]
      have hsplit : packetsFor v s.outbound = packetsFor v [t] ++ packetsFor v rest := by
        rw [ho, ← packetsFor_append, List.singleton_append]
      have hout : UdpChannel.outgoing { s with outbound := rest, writerAlive := ok } v =
          packetsFor v rest ++ s.replyFor v := rfl
      rw [hhead, hout, outgoing, hsplit, List.append_assoc (packetsFor v [t])]
      exact List.sublist_append_left _ _

end Payloads

end UdpChannel

end Udp

end Client

end Rathole
