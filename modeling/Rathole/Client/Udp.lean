import Mathlib.Logic.Function.Basic
import Rathole.Constants
import Rathole.Lib.FairLock
import Rathole.Lib.HashMap
import Rathole.Lib.Transition

/-!
# The Client's UDP Data Channel

`run_data_channel_for_udp` and the `run_udp_forwarder` tasks it spawns. One
reader loop takes packets off the data channel and hands each to the
forwarder of its visitor, through the bounded queue that `port_map` keeps
for that visitor; a forwarder that leaves its loop takes the write lock of
`port_map` to remove its entry.

Every await of the source is a state of its task here, so that any other task
can move in between. The guards of `port_map` are those of `FairLock`: the
program counter of a task says which guard it asked for, the lock says
whether it was granted. A guard lives as long as its variable does. On the
branch where the visitor is known the first guard `m` of the reader loop is
only shadowed by the second, so it stays out until the end of the iteration;
`secondGuard` and `sending` carry that as a flag.

The forwarder's queue dies when `run_udp_forwarder` returns, after the entry
is removed, and not when the loop is left.

## Main definitions

* `UdpTraffic`: A datagram with its visitor's address.
* `ReaderPc`: Where the reader loop is.
* `Forwarder`: A forwarder task and its queue.
* `UdpChannel`: The whole data channel.
* `Action`: What can happen next.
* `step`: One action.
* `initial`: A data channel that has just started.
* `Rule`: The ways through the actions, with the states they end in.

## Theorems

* `rule_of_step`: Every step goes one of these ways.
-/


namespace Rathole

namespace Client

namespace Udp

open FairLock

/-- A datagram and the visitor it comes from or goes to. -/
structure UdpTraffic (α : Type) where
  source : α
  data : List UInt8
deriving DecidableEq, Repr

/-- The tasks that share `port_map`. -/
inductive Task
  | reader
  | forwarder (i : Nat)
deriving DecidableEq, Repr

/-- The reader loop of `run_data_channel_for_udp`, await by await. -/
inductive ReaderPc (α : Type)
  | recv
  | firstGuard (packet : UdpTraffic α)
  | writeGuard (packet : UdpTraffic α)
  | secondGuard (packet : UdpTraffic α) (shadowed : Bool)
  | sending (packet : UdpTraffic α) (i : Nat) (shadowed : Bool)
  | stopped
deriving DecidableEq, Repr

/-- A `run_udp_forwarder` task: in its loop, sending a reply outwards,
    after the loop on the way to removing its entry, or returned. -/
inductive ForwarderPc
  | looping
  | emitting (data : List UInt8)
  | cleaning
  | returned
deriving DecidableEq, Repr

/-- The ways out of the forwarder's loop that end in a `break`. -/
inductive LoopExit
  | closed
  | recvError
  | timeout
deriving DecidableEq, Repr

/-- A forwarder: its visitor, its queue and its await. -/
structure Forwarder (α : Type) where
  source : α
  inbound : List (List UInt8)
  pc : ForwarderPc
deriving DecidableEq, Repr

/-- The data channel: the shared map and its lock, the reader loop, the
    forwarders by number of creation, and the queue of the outbound writer. -/
structure UdpChannel (α : Type) where
  portMap : HashMap α Nat
  lock : RwLock Task
  reader : ReaderPc α
  forwarders : Nat → Option (Forwarder α)
  spawned : Nat
  outbound : List (UdpTraffic α)
  writerAlive : Bool

/-- What can happen next in a UDP data channel. -/
inductive Action (α : Type)
  | packet (p : UdpTraffic α)
  | readError
  | checkMap
  | connect (ok : Bool)
  | lookupSender
  | sendInbound
  | inbound (i : Nat) (ok : Bool)
  | receive (i : Nat) (data : List UInt8)
  | emit (i : Nat)
  | leave (i : Nat) (why : LoopExit)
  | cleanup (i : Nat)
  | writeOut (ok : Bool)
deriving DecidableEq, Repr

variable {α : Type}

namespace UdpChannel

/-- A data channel that has just started. -/
def initial : UdpChannel α where
  portMap := ∅
  lock := RwLock.free
  reader := .recv
  forwarders := fun _ => none
  spawned := 0
  outbound := []
  writerAlive := true

/-- Another state of a forwarder. -/
def setForwarder (s : UdpChannel α) (i : Nat) (f : Forwarder α) : UdpChannel α :=
  { s with forwarders := Function.update s.forwarders i (some f) }

/-- The forwarder's queue has no room left. -/
def Full (s : UdpChannel α) (i : Nat) : Prop :=
  ∃ f ∈ s.forwarders i, f.pc ≠ .returned ∧ udpSendqSize ≤ f.inbound.length

instance (s : UdpChannel α) (i : Nat) : Decidable (s.Full i) := by
  unfold Full
  infer_instance

/-- The reader's guards of `port_map` dropped at the end of an iteration. -/
def dropGuards (s : UdpChannel α) (shadowed : Bool) : RwLock Task :=
  if shadowed then (s.lock.release .reader .read).release .reader .read
  else s.lock.release .reader .read

/-- A packet has been read; ask for the first guard. -/
def readPacket (s : UdpChannel α) (p : UdpTraffic α) : Option (UdpChannel α) :=
  match s.reader with
  | .recv => some { s with reader := .firstGuard p, lock := s.lock.request .reader .read }
  | _ => none

/-- Reading from the server fails and `run_data_channel_for_udp` returns. -/
def readError (s : UdpChannel α) : Option (UdpChannel α) :=
  match s.reader with
  | .recv => some { s with reader := .stopped }
  | _ => none

/-- `m.get(&packet.from).is_none()` under the first guard. An unknown visitor
    drops it and asks to write; a known one keeps it and asks to read again. -/
def checkMap [DecidableEq α] (s : UdpChannel α) : Option (UdpChannel α) :=
  match s.reader with
  | .firstGuard p =>
      if s.lock.Waits .reader then none
      else match s.portMap.lookup p.source with
        | none => some { s with
            reader := .writeGuard p
            lock := (s.lock.release .reader .read).request .reader .write }
        -- The first guard `m` is shadowed, not dropped.
        | some _ => some { s with
            reader := .secondGuard p true
            lock := s.lock.request .reader .read }
  | _ => none

/-- `udp_connect` under the write guard: on success an entry and a forwarder
    for the visitor. The write guard goes either way. -/
def connect [DecidableEq α] (s : UdpChannel α) (ok : Bool) : Option (UdpChannel α) :=
  match s.reader with
  | .writeGuard p =>
      if s.lock.Waits .reader then none
      else
        -- The second guard is asked for once the write guard has gone.
        let lock := (s.lock.release .reader .write).request .reader .read
        if ok then some { s with
          reader := .secondGuard p false
          lock := lock
          portMap := s.portMap.insert p.source s.spawned
          forwarders := Function.update s.forwarders s.spawned
            (some { source := p.source, inbound := [], pc := .looping })
          spawned := s.spawned + 1 }
        -- An error of `udp_connect` is logged, and the packet looked up all the same.
        else some { s with reader := .secondGuard p false, lock := lock }
  | _ => none

/-- `m.get(&packet.from)` under the second guard. -/
def lookupSender [DecidableEq α] (s : UdpChannel α) : Option (UdpChannel α) :=
  match s.reader with
  | .secondGuard p shadowed =>
      if s.lock.Waits .reader then none
      else match s.portMap.lookup p.source with
        | some i => some { s with reader := .sending p i shadowed }
        | none => some { s with reader := .recv, lock := s.dropGuards shadowed }
  | _ => none

/-- `tx.send(packet.data).await`: waits for room, and is an ignored error once
    the forwarder has returned. -/
def sendInbound (s : UdpChannel α) : Option (UdpChannel α) :=
  match s.reader with
  | .sending p i shadowed =>
      match s.forwarders i with
      | none => none
      | some f =>
          let s' := { s with reader := .recv, lock := s.dropGuards shadowed }
          -- The receiver went with the task; the packet is lost.
          if f.pc = .returned then some s'
          else if f.inbound.length < udpSendqSize then
            some (s'.setForwarder i { f with inbound := f.inbound ++ [p.data] })
          else none
  | _ => none

/-- The forwarder takes a packet off its queue and sends it to the service;
    a send error returns from the task at once. -/
def inbound (s : UdpChannel α) (i : Nat) (ok : Bool) : Option (UdpChannel α) :=
  match s.forwarders i with
  | some f =>
      match f.pc, f.inbound with
      | .looping, _ :: rest =>
          -- The `?` skips what comes after the loop.
          some (s.setForwarder i { f with
            inbound := rest, pc := if ok then .looping else .returned })
      | _, _ => none
  | none => none

/-- The forwarder receives a datagram from the service. -/
def receive (s : UdpChannel α) (i : Nat) (data : List UInt8) : Option (UdpChannel α) :=
  match s.forwarders i with
  | some f =>
      match f.pc with
      | .looping => some (s.setForwarder i { f with pc := .emitting (data.take udpBufferSize) })
      | _ => none
  | none => none

/-- `outbount_tx.send(t).await?` -/
def emit (s : UdpChannel α) (i : Nat) : Option (UdpChannel α) :=
  match s.forwarders i with
  | some f =>
      match f.pc with
      | .emitting data =>
          if s.writerAlive then
            if s.outbound.length < udpSendqSize then
              some { s.setForwarder i { f with pc := .looping } with
                outbound := s.outbound ++ [{ source := f.source, data := data }] }
            else none
          -- Past the end of the function body, so the entry stays in the map.
          else some (s.setForwarder i { f with pc := .returned })
      | _ => none
  | none => none

/-- The forwarder breaks out of its loop and asks for the write lock. Its
    queue is closed only when no entry points to it any more. -/
def leave (s : UdpChannel α) (i : Nat) (why : LoopExit) : Option (UdpChannel α) :=
  match s.forwarders i with
  | some f =>
      -- A closed queue is read to its end first.
      if f.pc = .looping ∧ (why = .closed → f.inbound = [] ∧ ∀ e ∈ s.portMap.entries, e.2 ≠ i) then
        some { s.setForwarder i { f with pc := .cleaning } with
          lock := s.lock.request (.forwarder i) .write }
      else none
  | none => none

/-- `port_map.remove(&from)` under the write guard, after which the task
    returns. -/
def cleanup [DecidableEq α] (s : UdpChannel α) (i : Nat) : Option (UdpChannel α) :=
  match s.forwarders i with
  | some f =>
      if f.pc = .cleaning ∧ ¬ s.lock.Waits (.forwarder i) then
        some { s.setForwarder i { f with pc := .returned } with
          portMap := s.portMap.erase f.source
          lock := s.lock.release (.forwarder i) .write }
      else none
  | none => none

/-- The outbound task writes one datagram to the server, or stops. -/
def writeOut (s : UdpChannel α) (ok : Bool) : Option (UdpChannel α) :=
  if s.writerAlive then
    match s.outbound with
    | [] => none
    | _ :: rest => some { s with outbound := rest, writerAlive := ok }
  else none

/-- One action of one task. -/
def step [DecidableEq α] (s : UdpChannel α) : Action α → Option (UdpChannel α)
  | .packet p => s.readPacket p
  | .readError => s.readError
  | .checkMap => s.checkMap
  | .connect ok => s.connect ok
  | .lookupSender => s.lookupSender
  | .sendInbound => s.sendInbound
  | .inbound i ok => s.inbound i ok
  | .receive i data => s.receive i data
  | .emit i => s.emit i
  | .leave i why => s.leave i why
  | .cleanup i => s.cleanup i
  | .writeOut ok => s.writeOut ok

/-! ### What each action can do -/

section Cases

variable {s s' : UdpChannel α}

theorem readPacket_cases {p : UdpTraffic α} (h : s.readPacket p = some s') :
    s.reader = .recv ∧
      s' = { s with reader := .firstGuard p, lock := s.lock.request .reader .read } := by
  unfold readPacket at h
  cases hr : s.reader with
  | recv =>
      rw [hr] at h
      exact ⟨rfl, (Option.some.inj h).symm⟩
  | _ => simp only [hr, reduceCtorEq] at h

theorem readError_cases (h : s.readError = some s') :
    s.reader = .recv ∧ s' = { s with reader := .stopped } := by
  unfold readError at h
  cases hr : s.reader with
  | recv =>
      rw [hr] at h
      exact ⟨rfl, (Option.some.inj h).symm⟩
  | _ => simp only [hr, reduceCtorEq] at h

theorem checkMap_cases [DecidableEq α] (h : s.checkMap = some s') :
    ∃ p, s.reader = .firstGuard p ∧ ¬ s.lock.Waits .reader ∧
      ((s.portMap.lookup p.source = none ∧ s' = { s with
          reader := .writeGuard p
          lock := (s.lock.release .reader .read).request .reader .write }) ∨
        ((s.portMap.lookup p.source).isSome ∧ s' = { s with
          reader := .secondGuard p true
          lock := s.lock.request .reader .read })) := by
  unfold checkMap at h
  cases hr : s.reader with
  | firstGuard p =>
      refine ⟨p, rfl, ?_⟩
      simp only [hr] at h
      by_cases hw : s.lock.Waits .reader
      · simp only [if_pos hw, reduceCtorEq] at h
      · rw [if_neg hw] at h
        refine ⟨hw, ?_⟩
        cases hl : s.portMap.lookup p.source with
        | none =>
            rw [hl] at h
            exact Or.inl ⟨rfl, (Option.some.inj h).symm⟩
        | some i =>
            rw [hl] at h
            exact Or.inr ⟨rfl, (Option.some.inj h).symm⟩
  | _ => simp only [hr, reduceCtorEq] at h

theorem connect_cases [DecidableEq α] {ok : Bool} (h : s.connect ok = some s') :
    ∃ p, s.reader = .writeGuard p ∧ ¬ s.lock.Waits .reader ∧
      ((ok = true ∧ s' = { s with
          reader := .secondGuard p false
          lock := (s.lock.release .reader .write).request .reader .read
          portMap := s.portMap.insert p.source s.spawned
          forwarders := Function.update s.forwarders s.spawned
            (some { source := p.source, inbound := [], pc := .looping })
          spawned := s.spawned + 1 }) ∨
        (ok = false ∧ s' = { s with
          reader := .secondGuard p false
          lock := (s.lock.release .reader .write).request .reader .read })) := by
  unfold connect at h
  cases hr : s.reader with
  | writeGuard p =>
      refine ⟨p, rfl, ?_⟩
      simp only [hr] at h
      by_cases hw : s.lock.Waits .reader
      · simp only [if_pos hw, reduceCtorEq] at h
      · rw [if_neg hw] at h
        cases ok with
        | true =>
            rw [if_pos rfl] at h
            exact ⟨hw, Or.inl ⟨rfl, (Option.some.inj h).symm⟩⟩
        | false =>
            rw [if_neg Bool.false_ne_true] at h
            exact ⟨hw, Or.inr ⟨rfl, (Option.some.inj h).symm⟩⟩
  | _ => simp only [hr, reduceCtorEq] at h

theorem lookupSender_cases [DecidableEq α] (h : s.lookupSender = some s') :
    ∃ p shadowed, s.reader = .secondGuard p shadowed ∧ ¬ s.lock.Waits .reader ∧
      ((∃ i, s.portMap.lookup p.source = some i ∧
          s' = { s with reader := .sending p i shadowed }) ∨
        (s.portMap.lookup p.source = none ∧
          s' = { s with reader := .recv, lock := s.dropGuards shadowed })) := by
  unfold lookupSender at h
  cases hr : s.reader with
  | secondGuard p shadowed =>
      refine ⟨p, shadowed, rfl, ?_⟩
      simp only [hr] at h
      by_cases hw : s.lock.Waits .reader
      · simp only [if_pos hw, reduceCtorEq] at h
      · rw [if_neg hw] at h
        refine ⟨hw, ?_⟩
        cases hl : s.portMap.lookup p.source with
        | some i =>
            rw [hl] at h
            exact Or.inl ⟨i, rfl, (Option.some.inj h).symm⟩
        | none =>
            rw [hl] at h
            exact Or.inr ⟨rfl, (Option.some.inj h).symm⟩
  | _ => simp only [hr, reduceCtorEq] at h

theorem sendInbound_cases (h : s.sendInbound = some s') :
    ∃ p i shadowed f, s.reader = .sending p i shadowed ∧ s.forwarders i = some f ∧
      ((f.pc = .returned ∧ s' = { s with reader := .recv, lock := s.dropGuards shadowed }) ∨
        (f.pc ≠ .returned ∧ f.inbound.length < udpSendqSize ∧
          s' = { s with reader := .recv, lock := s.dropGuards shadowed }.setForwarder i
            { f with inbound := f.inbound ++ [p.data] })) := by
  unfold sendInbound at h
  cases hr : s.reader with
  | sending p i shadowed =>
      simp only [hr] at h
      cases hf : s.forwarders i with
      | none => simp only [hf, reduceCtorEq] at h
      | some f =>
          refine ⟨p, i, shadowed, f, rfl, hf, ?_⟩
          simp only [hf] at h
          by_cases hret : f.pc = .returned
          · rw [if_pos hret] at h
            exact Or.inl ⟨hret, (Option.some.inj h).symm⟩
          · rw [if_neg hret] at h
            by_cases hroom : f.inbound.length < udpSendqSize
            · rw [if_pos hroom] at h
              exact Or.inr ⟨hret, hroom, (Option.some.inj h).symm⟩
            · simp only [if_neg hroom, reduceCtorEq] at h
  | _ => simp only [hr, reduceCtorEq] at h

theorem inbound_cases {i : Nat} {ok : Bool} (h : s.inbound i ok = some s') :
    ∃ f d rest, s.forwarders i = some f ∧ f.pc = .looping ∧ f.inbound = d :: rest ∧
      s' = s.setForwarder i { f with
        inbound := rest, pc := if ok then .looping else .returned } := by
  unfold inbound at h
  cases hf : s.forwarders i with
  | none => simp only [hf, reduceCtorEq] at h
  | some f =>
      simp only [hf] at h
      cases hp : f.pc with
      | looping =>
          cases hq : f.inbound with
          | nil => simp only [hp, hq, reduceCtorEq] at h
          | cons d rest =>
              simp only [hp, hq] at h
              exact ⟨f, d, rest, rfl, hp, hq, (Option.some.inj h).symm⟩
      | _ => simp only [hp, reduceCtorEq] at h

theorem receive_cases {i : Nat} {data : List UInt8} (h : s.receive i data = some s') :
    ∃ f, s.forwarders i = some f ∧ f.pc = .looping ∧
      s' = s.setForwarder i { f with pc := .emitting (data.take udpBufferSize) } := by
  unfold receive at h
  cases hf : s.forwarders i with
  | none => simp only [hf, reduceCtorEq] at h
  | some f =>
      simp only [hf] at h
      cases hp : f.pc with
      | looping =>
          simp only [hp] at h
          exact ⟨f, rfl, hp, (Option.some.inj h).symm⟩
      | _ => simp only [hp, reduceCtorEq] at h

theorem emit_cases {i : Nat} (h : s.emit i = some s') :
    ∃ f data, s.forwarders i = some f ∧ f.pc = .emitting data ∧
      ((s.writerAlive = true ∧ s' = { s.setForwarder i { f with pc := .looping } with
          outbound := s.outbound ++ [{ source := f.source, data := data }] }) ∨
        (s.writerAlive = false ∧ s' = s.setForwarder i { f with pc := .returned })) := by
  unfold emit at h
  cases hf : s.forwarders i with
  | none => simp only [hf, reduceCtorEq] at h
  | some f =>
      simp only [hf] at h
      cases hp : f.pc with
      | emitting data =>
          simp only [hp] at h
          refine ⟨f, data, rfl, hp, ?_⟩
          by_cases hw : s.writerAlive
          · rw [if_pos hw] at h
            by_cases hroom : s.outbound.length < udpSendqSize
            · rw [if_pos hroom] at h
              exact Or.inl ⟨hw, (Option.some.inj h).symm⟩
            · simp only [if_neg hroom, reduceCtorEq] at h
          · rw [if_neg hw] at h
            exact Or.inr ⟨by simpa only [Bool.not_eq_true] using hw, (Option.some.inj h).symm⟩
      | _ => simp only [hp, reduceCtorEq] at h

theorem leave_cases {i : Nat} {why : LoopExit} (h : s.leave i why = some s') :
    ∃ f, s.forwarders i = some f ∧ f.pc = .looping ∧
      s' = { s.setForwarder i { f with pc := .cleaning } with
        lock := s.lock.request (.forwarder i) .write } := by
  unfold leave at h
  cases hf : s.forwarders i with
  | none => simp only [hf, reduceCtorEq] at h
  | some f =>
      simp only [hf] at h
      split at h
      · rename_i hc
        exact ⟨f, rfl, hc.1, (Option.some.inj h).symm⟩
      · exact absurd h (by simp only [reduceCtorEq, not_false_eq_true])

theorem cleanup_cases [DecidableEq α] {i : Nat} (h : s.cleanup i = some s') :
    ∃ f, s.forwarders i = some f ∧ f.pc = .cleaning ∧ ¬ s.lock.Waits (.forwarder i) ∧
      s' = { s.setForwarder i { f with pc := .returned } with
        portMap := s.portMap.erase f.source
        lock := s.lock.release (.forwarder i) .write } := by
  unfold cleanup at h
  cases hf : s.forwarders i with
  | none => simp only [hf, reduceCtorEq] at h
  | some f =>
      simp only [hf] at h
      split at h
      · rename_i hc
        exact ⟨f, rfl, hc.1, hc.2, (Option.some.inj h).symm⟩
      · exact absurd h (by simp only [reduceCtorEq, not_false_eq_true])

theorem writeOut_cases {ok : Bool} (h : s.writeOut ok = some s') :
    ∃ t rest, s.writerAlive = true ∧ s.outbound = t :: rest ∧
      s' = { s with outbound := rest, writerAlive := ok } := by
  unfold writeOut at h
  by_cases hw : s.writerAlive
  · rw [if_pos hw] at h
    cases ho : s.outbound with
    | nil => simp only [ho, reduceCtorEq] at h
    | cons t rest =>
        simp only [ho] at h
        exact ⟨t, rest, hw, rfl, (Option.some.inj h).symm⟩
  · simp only [if_neg hw, reduceCtorEq] at h

end Cases

/-- The ways through an action `a` in the state `s`, each with the state it
    ends in. -/
inductive Rule [DecidableEq α] (s : UdpChannel α) : Action α → UdpChannel α → Prop
  -- The reader loop
  | packet {p : UdpTraffic α} (hr : s.reader = .recv) : Rule s (.packet p)
      { s with reader := .firstGuard p, lock := s.lock.request .reader .read }
  | readError (hr : s.reader = .recv) : Rule s .readError { s with reader := .stopped }
  | unknown {p : UdpTraffic α} (hr : s.reader = .firstGuard p)
      (hl : s.portMap.lookup p.source = none) : Rule s .checkMap { s with
        reader := .writeGuard p
        lock := (s.lock.release .reader .read).request .reader .write }
  | known {p : UdpTraffic α} (hr : s.reader = .firstGuard p) : Rule s .checkMap { s with
      reader := .secondGuard p true, lock := s.lock.request .reader .read }
  | connected {p : UdpTraffic α} (hr : s.reader = .writeGuard p) : Rule s (.connect true) { s with
      reader := .secondGuard p false
      lock := (s.lock.release .reader .write).request .reader .read
      portMap := s.portMap.insert p.source s.spawned
      forwarders := Function.update s.forwarders s.spawned
        (some { source := p.source, inbound := [], pc := .looping })
      spawned := s.spawned + 1 }
  | unconnected {p : UdpTraffic α} (hr : s.reader = .writeGuard p) :
      Rule s (.connect false) { s with
        reader := .secondGuard p false
        lock := (s.lock.release .reader .write).request .reader .read }
  | found {p : UdpTraffic α} {sh : Bool} {i : Nat} (hr : s.reader = .secondGuard p sh)
      (hl : s.portMap.lookup p.source = some i) :
      Rule s .lookupSender { s with reader := .sending p i sh }
  | missing {p : UdpTraffic α} {sh : Bool} (hr : s.reader = .secondGuard p sh) :
      Rule s .lookupSender { s with reader := .recv, lock := s.dropGuards sh }
  | unsent {p : UdpTraffic α} {i : Nat} {sh : Bool} (hr : s.reader = .sending p i sh) :
      Rule s .sendInbound { s with reader := .recv, lock := s.dropGuards sh }
  | sent {p : UdpTraffic α} {i : Nat} {sh : Bool} {f : Forwarder α}
      (hr : s.reader = .sending p i sh) (hf : s.forwarders i = some f)
      (hlive : f.pc ≠ .returned) : Rule s .sendInbound
        ({ s with reader := .recv, lock := s.dropGuards sh }.setForwarder i
          { f with inbound := f.inbound ++ [p.data] })
  -- The forwarders and the outbound task
  | inbound {i : Nat} {ok : Bool} {f : Forwarder α} {d : List UInt8} {rest : List (List UInt8)}
      (hf : s.forwarders i = some f) (hpc : f.pc = .looping) (hq : f.inbound = d :: rest) :
      Rule s (.inbound i ok) (s.setForwarder i { f with
        inbound := rest, pc := if ok then .looping else .returned })
  | receive {i : Nat} {data : List UInt8} {f : Forwarder α} (hf : s.forwarders i = some f)
      (hpc : f.pc = .looping) : Rule s (.receive i data)
        (s.setForwarder i { f with pc := .emitting (data.take udpBufferSize) })
  | emit {i : Nat} {f : Forwarder α} {data : List UInt8} (hf : s.forwarders i = some f)
      (hpc : f.pc = .emitting data) : Rule s (.emit i)
        { s.setForwarder i { f with pc := .looping } with
          outbound := s.outbound ++ [{ source := f.source, data := data }] }
  | unheard {i : Nat} {f : Forwarder α} {data : List UInt8} (hf : s.forwarders i = some f)
      (hpc : f.pc = .emitting data) :
      Rule s (.emit i) (s.setForwarder i { f with pc := .returned })
  | leave {i : Nat} {why : LoopExit} {f : Forwarder α} (hf : s.forwarders i = some f)
      (hpc : f.pc = .looping) : Rule s (.leave i why)
        { s.setForwarder i { f with pc := .cleaning } with
          lock := s.lock.request (.forwarder i) .write }
  | cleanup {i : Nat} {f : Forwarder α} (hf : s.forwarders i = some f)
      (hpc : f.pc = .cleaning) : Rule s (.cleanup i)
        { s.setForwarder i { f with pc := .returned } with
          portMap := s.portMap.erase f.source
          lock := s.lock.release (.forwarder i) .write }
  | writeOut {ok : Bool} {t : UdpTraffic α} {rest : List (UdpTraffic α)}
      (ho : s.outbound = t :: rest) :
      Rule s (.writeOut ok) { s with outbound := rest, writerAlive := ok }

theorem rule_of_step [DecidableEq α] {s s' : UdpChannel α} {a : Action α} (h : s.step a = some s') :
    Rule s a s' := by
  cases a with
  | packet p =>
      rcases readPacket_cases h with ⟨hr, rfl⟩
      exact Rule.packet hr
  | readError =>
      rcases readError_cases h with ⟨hr, rfl⟩
      exact Rule.readError hr
  | checkMap =>
      rcases checkMap_cases h with ⟨p, hr, _, ⟨hl, rfl⟩ | ⟨_, rfl⟩⟩
      · exact Rule.unknown hr hl
      · exact Rule.known hr
  | connect ok =>
      rcases connect_cases h with ⟨p, hr, _, ⟨rfl, rfl⟩ | ⟨rfl, rfl⟩⟩
      · exact Rule.connected hr
      · exact Rule.unconnected hr
  | lookupSender =>
      rcases lookupSender_cases h with ⟨p, sh, hr, _, ⟨i, hl, rfl⟩ | ⟨_, rfl⟩⟩
      · exact Rule.found hr hl
      · exact Rule.missing hr
  | sendInbound =>
      rcases sendInbound_cases h with ⟨p, i, sh, f, hr, hf, ⟨_, rfl⟩ | ⟨hlive, _, rfl⟩⟩
      · exact Rule.unsent hr
      · exact Rule.sent hr hf hlive
  | inbound i ok =>
      rcases inbound_cases h with ⟨f, d, rest, hf, hpc, hq, rfl⟩
      exact Rule.inbound hf hpc hq
  | receive i data =>
      rcases receive_cases h with ⟨f, hf, hpc, rfl⟩
      exact Rule.receive hf hpc
  | emit i =>
      rcases emit_cases h with ⟨f, data, hf, hpc, ⟨_, rfl⟩ | ⟨_, rfl⟩⟩
      · exact Rule.emit hf hpc
      · exact Rule.unheard hf hpc
  | leave i why =>
      rcases leave_cases h with ⟨f, hf, hpc, rfl⟩
      exact Rule.leave hf hpc
  | cleanup i =>
      rcases cleanup_cases h with ⟨f, hf, hpc, _, rfl⟩
      exact Rule.cleanup hf hpc
  | writeOut ok =>
      rcases writeOut_cases h with ⟨t, rest, _, ho, rfl⟩
      exact Rule.writeOut ho

end UdpChannel

end Udp

end Client

end Rathole
