import Rathole.Client.Handshake
import Rathole.Lib.Transition

/-!
# The Client's Select Loop

The loop of `ControlChannel::run` once the control channel is established.
Four branches race in a `select!`: the tick of the health interval, the next
command from the server, a sleep of `heartbeat_timeout` seconds, and the
shutdown signal. Every branch that does not return starts the next iteration
with fresh futures for all of them.

Two things follow from that and are part of the state. `pending` is what the
read of the present iteration has taken off the stream; when another branch
wins, the read is dropped and these bytes with it (`discarded` keeps them for
the record). `armed` is when the present iteration, and with it the sleep,
was started.

A read that gets its last byte completes at once, so it wins. Time passes
only while no branch is ready. The interval keeps its own schedule: its first
tick is due at the start, the next ones every ten seconds.

## Main definitions

* `Loop`: The loop, its connection and its clock.
* `LoopAction`: What can happen next.
* `Loop.step`: One action.
* `Loop.Rule`: The ways through the actions, with the states they end in.

## Theorems

* `Loop.rule_of_step`: Every step goes one of these ways.
-/

namespace Rathole

namespace Client

/-- The period of the health interval. -/
def healthPeriod : Nat := seconds 10

/-- How the loop ends: `break` and `Ok(())`, or an error. -/
inductive LoopEnd (β : Type)
  | ok
  | err (e : RunError β)
deriving DecidableEq

/-- The loop. Time counts from its start; `lastCmd` is the time of the last
    command, or of the start. -/
structure Loop (β : Type) where
  inbox : List β
  pending : List β
  acted : List ControlChannelCmd
  discarded : List β
  now : Nat
  nextTick : Nat
  armed : Nat
  lastCmd : Nat
  outcome : Option (LoopEnd β)
deriving DecidableEq

/-- What can happen next to the loop of `ControlChannel::run`. -/
inductive LoopAction (β : Type)
  | arrive (chunk : List β)
  | read (n : Nat)
  | readError
  | tick (ok : Bool)
  | timeout
  | shutdown
  | elapse (d : Nat)
deriving DecidableEq

variable {β : Type} (A : Alphabet β)

namespace Loop

/-- The loop as it starts, with bytes that have arrived already. -/
def start (inbox : List β) : Loop β where
  inbox := inbox
  pending := []
  acted := []
  discarded := []
  now := 0
  nextTick := 0
  armed := 0
  lastCmd := 0
  outcome := none

/-- The length of a command. -/
def cmdWidth : Nat := (PacketLength.new A).cCmd

/-- A read takes `n` bytes that have arrived. With the last byte of a command
    it completes, and the command is acted on. -/
def read (l : Loop β) (n : Nat) : Option (Loop β) :=
  if 0 < n ∧ n ≤ l.inbox.length ∧ l.pending.length + n ≤ cmdWidth A then
    let taken := l.pending ++ l.inbox.take n
    let rest := l.inbox.drop n
    if taken.length < cmdWidth A then some { l with inbox := rest, pending := taken }
    else match (ControlChannelCmd.codec A).decode taken with
      | some cmd => some { l with
          inbox := rest
          pending := []
          acted := l.acted ++ [cmd]
          armed := l.now
          lastCmd := l.now }
      | none => some { l with
          inbox := rest
          pending := []
          outcome := some (.err (.read (.deserialize "control cmd"))) }
  else none

/-- The tick of the health interval wins: the read is dropped, and a health
    update is sent. If that fails the loop breaks. -/
def tick (l : Loop β) (ok : Bool) : Option (Loop β) :=
  if l.nextTick ≤ l.now then
    if ok then some { l with
      pending := []
      discarded := l.discarded ++ l.pending
      nextTick := l.nextTick + healthPeriod
      armed := l.now }
    else some { l with nextTick := l.nextTick + healthPeriod, outcome := some .ok }
  else none

/-- The sleep of `heartbeat_timeout` seconds wins; zero disables it. -/
def timeout (heartbeatTimeout : Nat) (l : Loop β) : Option (Loop β) :=
  if heartbeatTimeout ≠ 0 ∧ l.armed + seconds heartbeatTimeout ≤ l.now then
    some { l with outcome := some (.err .heartbeatTimedOut) }
  else none

/-- Time passes while no branch is ready. -/
def elapse (heartbeatTimeout : Nat) (l : Loop β) (d : Nat) : Option (Loop β) :=
  if l.inbox = [] ∧ l.now + d ≤ l.nextTick ∧
      (heartbeatTimeout ≠ 0 → l.now + d ≤ l.armed + seconds heartbeatTimeout) then
    some { l with now := l.now + d }
  else none

/-- One action of a loop that goes on. -/
def step (heartbeatTimeout : Nat) (l : Loop β) (a : LoopAction β) : Option (Loop β) :=
  if l.outcome.isSome then none
  else match a with
    | .arrive chunk => some { l with inbox := l.inbox ++ chunk }
    | .read n => l.read A n
    | .readError => some { l with outcome := some (.err .io) }
    | .tick ok => l.tick ok
    | .timeout => l.timeout heartbeatTimeout
    | .shutdown => some { l with outcome := some .ok }
    | .elapse d => l.elapse heartbeatTimeout d

/-! ### What each action can do -/

section Cases

variable {A} {T : Nat} {l l' : Loop β}

theorem running_of_step {a : LoopAction β} (h : l.step A T a = some l') : l.outcome = none := by
  cases ho : l.outcome with
  | none => rfl
  | some o => simp only [step, ho, Option.isSome_some, if_true, reduceCtorEq] at h

theorem step_arrive {chunk : List β} (h : l.outcome = none) :
    l.step A T (.arrive chunk) = some { l with inbox := l.inbox ++ chunk } := by
  simp only [step, h, Option.isSome_none, Bool.false_eq_true, if_false]

theorem read_cases {n : Nat} (h : l.read A n = some l') :
    0 < n ∧ n ≤ l.inbox.length ∧ l.pending.length + n ≤ cmdWidth A ∧
      ((l.pending.length + n < cmdWidth A ∧ l' = { l with
          inbox := l.inbox.drop n, pending := l.pending ++ l.inbox.take n }) ∨
        (l.pending.length + n = cmdWidth A ∧ ∃ cmd,
          (ControlChannelCmd.codec A).decode (l.pending ++ l.inbox.take n) = some cmd ∧
          l' = { l with
            inbox := l.inbox.drop n
            pending := []
            acted := l.acted ++ [cmd]
            armed := l.now
            lastCmd := l.now }) ∨
        (l.pending.length + n = cmdWidth A ∧
          (ControlChannelCmd.codec A).decode (l.pending ++ l.inbox.take n) = none ∧
          l' = { l with
            inbox := l.inbox.drop n
            pending := []
            outcome := some (.err (.read (.deserialize "control cmd"))) })) := by
  unfold read at h
  rw [Option.ite_none_right_eq_some] at h
  rcases h with ⟨⟨hpos, hle, hroom⟩, hbody⟩
  refine ⟨hpos, hle, hroom, ?_⟩
  have hlen : (l.pending ++ l.inbox.take n).length = l.pending.length + n := by
    rw [List.length_append, List.length_take]
    omega
  by_cases hlt : l.pending.length + n < cmdWidth A
  · rw [if_pos (by omega), Option.some.injEq] at hbody
    exact Or.inl ⟨hlt, hbody.symm⟩
  · have heq : l.pending.length + n = cmdWidth A := by omega
    rw [if_neg (by omega)] at hbody
    cases hd : (ControlChannelCmd.codec A).decode (l.pending ++ l.inbox.take n) with
    | some cmd =>
        simp only [hd, Option.some.injEq] at hbody
        exact Or.inr (Or.inl ⟨heq, cmd, rfl, hbody.symm⟩)
    | none =>
        simp only [hd, Option.some.injEq] at hbody
        exact Or.inr (Or.inr ⟨heq, rfl, hbody.symm⟩)

theorem tick_cases {ok : Bool} (h : l.tick ok = some l') :
    l.nextTick ≤ l.now ∧
      ((ok = true ∧ l' = { l with
          pending := []
          discarded := l.discarded ++ l.pending
          nextTick := l.nextTick + healthPeriod
          armed := l.now }) ∨
        (ok = false ∧ l' = { l with
          nextTick := l.nextTick + healthPeriod, outcome := some .ok })) := by
  unfold tick at h
  rw [Option.ite_none_right_eq_some] at h
  refine ⟨h.1, ?_⟩
  cases ok with
  | true => exact Or.inl ⟨rfl, (Option.some.inj h.2).symm⟩
  | false => exact Or.inr ⟨rfl, (Option.some.inj h.2).symm⟩

theorem timeout_cases (h : l.timeout T = some l') :
    T ≠ 0 ∧ l.armed + seconds T ≤ l.now ∧
      l' = { l with outcome := some (.err .heartbeatTimedOut) } := by
  unfold timeout at h
  rw [Option.ite_none_right_eq_some, Option.some.injEq] at h
  exact ⟨h.1.1, h.1.2, h.2.symm⟩

theorem elapse_cases {d : Nat} (h : l.elapse T d = some l') :
    l.inbox = [] ∧ l.now + d ≤ l.nextTick ∧ (T ≠ 0 → l.now + d ≤ l.armed + seconds T) ∧
      l' = { l with now := l.now + d } := by
  unfold elapse at h
  rw [Option.ite_none_right_eq_some, Option.some.injEq] at h
  exact ⟨h.1.1, h.1.2.1, h.1.2.2, h.2.symm⟩

/-- The ways through an action in the state `l`, each with the state it ends
    in. -/
inductive Rule (A : Alphabet β) (T : Nat) (l : Loop β) : LoopAction β → Loop β → Prop
  | arrive {chunk : List β} : Rule A T l (.arrive chunk) { l with inbox := l.inbox ++ chunk }
  -- The branch of the command, which goes on reading, acts or fails
  | readOn {n : Nat} : Rule A T l (.read n) { l with
      inbox := l.inbox.drop n, pending := l.pending ++ l.inbox.take n }
  | command {n : Nat} {cmd : ControlChannelCmd} (hle : n ≤ l.inbox.length)
      (hlen : l.pending.length + n = cmdWidth A)
      (hcmd : (ControlChannelCmd.codec A).decode (l.pending ++ l.inbox.take n) = some cmd) :
      Rule A T l (.read n) { l with
        inbox := l.inbox.drop n
        pending := []
        acted := l.acted ++ [cmd]
        armed := l.now
        lastCmd := l.now }
  | garbled {n : Nat} : Rule A T l (.read n) { l with
      inbox := l.inbox.drop n
      pending := []
      outcome := some (.err (.read (.deserialize "control cmd"))) }
  | readError : Rule A T l .readError { l with outcome := some (.err .io) }
  -- The branch of the health interval
  | ticked : Rule A T l (.tick true) { l with
      pending := []
      discarded := l.discarded ++ l.pending
      nextTick := l.nextTick + healthPeriod
      armed := l.now }
  | tickFailed : Rule A T l (.tick false) { l with
      nextTick := l.nextTick + healthPeriod, outcome := some .ok }
  -- The sleep, the signal, and the time between them
  | timedOut : Rule A T l .timeout { l with outcome := some (.err .heartbeatTimedOut) }
  | shutdown : Rule A T l .shutdown { l with outcome := some .ok }
  | elapsed {d : Nat} (hsleep : T ≠ 0 → l.now + d ≤ l.armed + seconds T) :
      Rule A T l (.elapse d) { l with now := l.now + d }

theorem rule_of_step {a : LoopAction β} (h : l.step A T a = some l') : Rule A T l a l' := by
  have hrun : ¬ l.outcome.isSome = true := by
    simp only [running_of_step h, Option.isSome_none, Bool.false_eq_true, not_false_eq_true]
  unfold step at h
  rw [if_neg hrun] at h
  cases a with
  | arrive chunk =>
      rw [← Option.some.inj h]
      exact Rule.arrive
  | read n =>
      rcases read_cases h with ⟨_, hle, _, ⟨_, rfl⟩ | ⟨hlen, cmd, hcmd, rfl⟩ | ⟨_, _, rfl⟩⟩
      · exact Rule.readOn
      · exact Rule.command hle hlen hcmd
      · exact Rule.garbled
  | readError =>
      rw [← Option.some.inj h]
      exact Rule.readError
  | tick ok =>
      rcases tick_cases h with ⟨_, ⟨rfl, rfl⟩ | ⟨rfl, rfl⟩⟩
      · exact Rule.ticked
      · exact Rule.tickFailed
  | timeout =>
      rw [(timeout_cases h).2.2]
      exact Rule.timedOut
  | shutdown =>
      rw [← Option.some.inj h]
      exact Rule.shutdown
  | elapse d =>
      rcases elapse_cases h with ⟨_, _, hsleep, rfl⟩
      exact Rule.elapsed hsleep

end Cases

end Loop

end Client

end Rathole
