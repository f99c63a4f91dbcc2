import Rathole.Client.Loop

/-!
# The Command Stream

The select loop reading what the server writes. The server writes commands,
the network hands their bytes over in chunks, and the loop takes them off
four at a time. The reader has no memory between iterations: a health tick
that wins the race while a command has arrived in part drops the part that
was read, and everything after it is read out of step.

Nothing is lost as long as every tick finds the reader between two commands.

## Main definitions

* `CommandStream`: The server's commands, their delivery, and the loop.
* `CommandStream.Lossless`: Nothing dropped, nothing acted on that was not
  written.
* `CommandStream.Aligned`: A tick finds the reader between two commands.

## Theorems

* `streamInv_of_step`: What is acted on, being read and still to be read are
  the bytes that were delivered.
* `lossless_iff_aligned`: What one step does.
* `commands_lossless_iff`: What a run does.
* `commands_lost`: A run that acts on a command the server has not written.
-/

namespace Rathole

namespace Client

open ByteStream Transition

/-- The commands the server has written, how many of their bytes have been
    delivered, and the loop that reads them. -/
structure CommandStream (β : Type) where
  written : List ControlChannelCmd
  delivered : Nat
  loop : Loop β

/-- The server writes a command, bytes arrive, or the loop goes on. -/
inductive CommandAction (β : Type)
  | write (cmd : ControlChannelCmd)
  | deliver (n : Nat)
  | loop (a : LoopAction β)
deriving DecidableEq

namespace CommandStream

variable {β : Type} (A : Alphabet β)

/-- The control channel as the loop starts. -/
def initial : CommandStream β where
  written := []
  delivered := 0
  loop := Loop.start []

/-- The bytes of the commands. -/
def bytes (written : List ControlChannelCmd) : List β :=
  (ControlChannelCmd.codec A).encodeAll written

/-- The server writes, the network delivers, or the loop acts. The loop gets
    its bytes from the network only. -/
def step (T : Nat) (s : CommandStream β) : CommandAction β → Option (CommandStream β)
  | .write cmd => some { s with written := s.written ++ [cmd] }
  | .deliver n =>
      if s.delivered + n ≤ (bytes A s.written).length then
        match s.loop.step A T (.arrive (((bytes A s.written).drop s.delivered).take n)) with
        | none => none
        | some l => some { s with delivered := s.delivered + n, loop := l }
      else none
  | .loop a => match a with
    | .arrive _ => none
    | a => match s.loop.step A T a with
      | none => none
      | some l => some { s with loop := l }

/-- The loop has dropped no byte it took, and has acted on the first of the
    commands that were written. -/
def Lossless (s : CommandStream β) : Prop :=
  s.loop.discarded = [] ∧ s.loop.acted <+: s.written

/-- A tick after which the loop goes on finds no command partly read. -/
def Aligned (s : CommandStream β) (a : CommandAction β) : Prop :=
  match a with
  | .loop (.tick true) => s.loop.pending = []
  | _ => True

instance [DecidableEq β] (s : CommandStream β) (a : CommandAction β) :
    Decidable (Aligned s a) := by
  unfold Aligned
  split <;> infer_instance

/-- While nothing has been dropped, the bytes delivered are those of the
    commands acted on, those of the command being read, and those waiting. -/
def StreamInv (s : CommandStream β) : Prop :=
  s.delivered ≤ (bytes A s.written).length ∧
    (s.loop.outcome = none → s.loop.discarded = [] →
      bytes A s.loop.acted ++ (s.loop.pending ++ s.loop.inbox) =
        (bytes A s.written).take s.delivered)

variable {A} {T : Nat} {s t : CommandStream β}

theorem streamInv_initial : StreamInv A (initial : CommandStream β) := by
  refine ⟨Nat.zero_le _, fun _ _ => ?_⟩
  rfl

theorem bytes_append (xs ys : List ControlChannelCmd) :
    bytes A (xs ++ ys) = bytes A xs ++ bytes A ys :=
  (ControlChannelCmd.codec A).encodeAll_append xs ys

theorem bytes_singleton (cmd : ControlChannelCmd) :
    bytes A [cmd] = (ControlChannelCmd.codec A).encode cmd :=
  List.flatMap_singleton _ _

theorem cmdWidth_pos : 0 < (ControlChannelCmd.codec A).width := Nat.succ_pos 3

/-- The bytes of the read that is completed are those of the next command. -/
theorem next_command (hi : StreamInv A s) (hrun : s.loop.outcome = none)
    (hd : s.loop.discarded = []) {n : Nat} (hle : n ≤ s.loop.inbox.length)
    (hlen : s.loop.pending.length + n = Loop.cmdWidth A) :
    ∃ cmd, s.loop.pending ++ s.loop.inbox.take n = (ControlChannelCmd.codec A).encode cmd ∧
      s.loop.acted ++ [cmd] <+: s.written := by
  have heq := hi.2 hrun hd
  have hpre : bytes A s.loop.acted ++
      ((s.loop.pending ++ s.loop.inbox.take n) ++ s.loop.inbox.drop n) <+: bytes A s.written := by
    rw [List.append_assoc s.loop.pending, List.take_append_drop, heq]
    exact List.take_prefix _ _
  refine (ControlChannelCmd.codec A).next_encode cmdWidth_pos hpre ?_
  have htake : (s.loop.inbox.take n).length = n := by
    rw [List.length_take]
    omega
  rw [List.length_append, htake]
  exact hlen

theorem deliver_cases {n : Nat} (h : step A T s (.deliver n) = some t) :
    s.delivered + n ≤ (bytes A s.written).length ∧ s.loop.outcome = none ∧
      t = { s with
        delivered := s.delivered + n
        loop := { s.loop with
          inbox := s.loop.inbox ++ ((bytes A s.written).drop s.delivered).take n } } := by
  simp only [step, Option.ite_none_right_eq_some] at h
  rcases h with ⟨hle, hbody⟩
  cases hs : s.loop.step A T (.arrive (((bytes A s.written).drop s.delivered).take n)) with
  | none => simp only [hs, reduceCtorEq] at hbody
  | some l =>
      have hrun := Loop.running_of_step hs
      rw [Loop.step_arrive hrun, Option.some.injEq] at hs
      simp only [Loop.step_arrive hrun, Option.some.injEq] at hbody
      exact ⟨hle, hrun, hbody.symm⟩

theorem loop_cases {b : LoopAction β} (h : step A T s (.loop b) = some t) :
    (∀ chunk, b ≠ .arrive chunk) ∧
      ∃ l, s.loop.step A T b = some l ∧ t = { s with loop := l } := by
  simp only [step] at h
  split at h
  · simp only [reduceCtorEq] at h
  · rename_i hne
    cases hs : s.loop.step A T b with
    | none => simp only [hs, reduceCtorEq] at h
    | some l =>
        simp only [hs, Option.some.injEq] at h
        exact ⟨fun chunk hb => hne chunk hb, l, rfl, h.symm⟩

/-- What the loop does to the bytes it has been given. -/
theorem loop_bytes {b : LoopAction β} {l : Loop β} (hi : StreamInv A s)
    (hne : ∀ chunk, b ≠ .arrive chunk) (h : s.loop.step A T b = some l)
    (hout : l.outcome = none) (hd : l.discarded = []) :
    bytes A l.acted ++ (l.pending ++ l.inbox) = (bytes A s.written).take s.delivered := by
  have hrun := Loop.running_of_step h
  cases Loop.rule_of_step h with
  | arrive => exact absurd rfl (hne _)
  | readOn =>
      rw [List.append_assoc, List.take_append_drop]
      exact hi.2 hrun hd
  | @command n cmd hle hlen hcmd =>
      rcases next_command hi hrun hd hle hlen with ⟨cmd', henc, _⟩
      have hcmd' := (ControlChannelCmd.codec A).decode_encode cmd'
      rw [← henc, hcmd, Option.some.injEq] at hcmd'
      -- What is read now is part of what was acted on next.
      calc bytes A (s.loop.acted ++ [cmd]) ++ ([] ++ s.loop.inbox.drop n)
          = bytes A s.loop.acted ++
              ((s.loop.pending ++ s.loop.inbox.take n) ++ s.loop.inbox.drop n) := by
            rw [bytes_append, bytes_singleton, hcmd', ← henc, List.nil_append,
              List.append_assoc (bytes A s.loop.acted)]
        _ = (bytes A s.written).take s.delivered := by
            rw [List.append_assoc s.loop.pending, List.take_append_drop]
            exact hi.2 hrun hd
  | ticked =>
      -- Nothing was dropped, so nothing was pending.
      rw [List.append_eq_nil_iff] at hd
      have hread := hi.2 hrun hd.1
      rwa [hd.2] at hread
  | elapsed => exact hi.2 hrun hd
  | garbled | readError | tickFailed | timedOut | shutdown => simp only [reduceCtorEq] at hout

/-- The step lemma of the bytes that were delivered. -/
theorem streamInv_of_step {a : CommandAction β} (hi : StreamInv A s)
    (h : step A T s a = some t) : StreamInv A t := by
  cases a with
  | write cmd =>
      rw [← Option.some.inj h]
      have hlen : s.delivered ≤ (bytes A s.written).length := hi.1
      refine ⟨?_, fun hrun hd => ?_⟩
      · show s.delivered ≤ (bytes A (s.written ++ [cmd])).length
        rw [bytes_append, List.length_append]
        omega
      · show _ = (bytes A (s.written ++ [cmd])).take s.delivered
        rw [bytes_append, List.take_append_of_le_length hlen]
        exact hi.2 hrun hd
  | deliver n =>
      rcases deliver_cases h with ⟨hle, hrun, ht⟩
      rw [ht]
      refine ⟨hle, fun _ hd => ?_⟩
      have heq := hi.2 hrun hd
      calc bytes A s.loop.acted ++ (s.loop.pending ++
            (s.loop.inbox ++ ((bytes A s.written).drop s.delivered).take n))
          = (bytes A s.loop.acted ++ (s.loop.pending ++ s.loop.inbox)) ++
              ((bytes A s.written).drop s.delivered).take n := by
            simp only [List.append_assoc]
        _ = (bytes A s.written).take (s.delivered + n) := by
            rw [heq, ← List.take_add]
  | loop b =>
      rcases loop_cases h with ⟨hne, l, hs, ht⟩
      have hbytes := loop_bytes hi hne hs
      rw [ht]
      exact ⟨hi.1, hbytes⟩

/-- A step that loses nothing keeps to what was written, unless it is a tick
    in the middle of a command. -/
theorem lossless_iff_aligned {a : CommandAction β} (hi : StreamInv A s) (hp : Lossless s)
    (h : step A T s a = some t) : Lossless t ↔ Aligned s a := by
  rcases hp with ⟨hd, hpre⟩
  cases a with
  | write cmd =>
      rw [← Option.some.inj h]
      simp only [Aligned, iff_true]
      exact ⟨hd, hpre.trans (List.prefix_append _ _)⟩
  | deliver n =>
      rcases deliver_cases h with ⟨_, _, ht⟩
      rw [ht]
      simp only [Aligned, iff_true]
      exact ⟨hd, hpre⟩
  | loop b =>
      rcases loop_cases h with ⟨hne, l, hs, ht⟩
      have hrun := Loop.running_of_step hs
      rw [ht]
      cases Loop.rule_of_step hs with
      | arrive => exact absurd rfl (hne _)
      | command hle hlen hcmd =>
          simp only [Aligned, iff_true]
          rcases next_command hi hrun hd hle hlen with ⟨cmd', henc, hnext⟩
          rw [henc, FixedCodec.decode_encode, Option.some.injEq] at hcmd
          rw [← hcmd]
          exact ⟨hd, hnext⟩
      -- A tick drops what was pending.
      | ticked => simp only [Lossless, Aligned, hd, List.nil_append, hpre, and_true]
      | readOn | garbled | readError | tickFailed | timedOut | shutdown | elapsed =>
          simp only [Aligned, iff_true]
          exact ⟨hd, hpre⟩

/-- A run loses nothing exactly if every tick of it finds the reader between
    two commands. -/
theorem commands_lossless_iff (A : Alphabet β) (T : Nat) (as : List (CommandAction β)) :
    Throughout (step A T) Lossless initial as ↔ Legal (step A T) Aligned initial as :=
  throughout_iff_legal (fun _ _ _ hi h => streamInv_of_step hi h)
    (fun _ _ _ hi hp h => lossless_iff_aligned hi hp h) as initial streamInv_initial
    ⟨rfl, List.nil_prefix⟩

/-- The server writes a heartbeat and a request for a data channel. The first
    byte arrives, a tick is due, and the others arrive. -/
def cutHeartbeat : List (CommandAction UInt8) :=
  [.write .heartBeat, .write .createDataChannel, .deliver 1, .loop (.read 1),
    .loop (.tick true), .deliver 7, .loop (.read 4)]

/-- The loop acts on a request although a heartbeat was written first. -/
theorem commands_lost :
    ¬ ∀ (A : Alphabet UInt8) (T : Nat) (as : List (CommandAction UInt8))
      (s : CommandStream UInt8), exec (step A T) initial as = some s → Lossless s := by
  intro h
  rcases hrun : exec (step plainBytes 40) initial cutHeartbeat with _ | s
  · exact absurd hrun (by decide)
  · have hstate : (exec (step plainBytes 40) initial cutHeartbeat).map
        (fun s => (s.written, s.loop.acted)) =
        some ([.heartBeat, .createDataChannel], [.createDataChannel]) := by decide
    have hl := h plainBytes 40 cutHeartbeat s hrun
    rw [hrun, Option.map_some, Option.some.injEq, Prod.mk.injEq] at hstate
    have hpre := hl.2
    rw [hstate.1, hstate.2] at hpre
    exact absurd hpre (by decide)

end CommandStream

end Client

end Rathole
