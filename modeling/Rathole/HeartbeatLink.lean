import Rathole.Client.Loop

/-!
# Heartbeats in Time

A control channel with the loops of `ControlChannel::run` at both ends, the
way the server's commands go, and the clock. The server's loop writes a
command whenever a data channel is requested, and a heartbeat when no command
was written for `heartbeat_interval` seconds: every iteration starts its sleep
anew, whatever branch won. A command is on its way for `delay` at most, and
arrives whole. The client begins its loop at some time after the server, and
what has arrived by then waits for it.

Time passes only while nothing can be done at once: no request waits at the
server, its sleep is not over, no command is overdue, and no branch of the
client's loop is ready. Only a health update may take its time.

The client's sleep is that of its present iteration. When that began, the
command that would arrive next was on its way already, or was to be written
within an interval. So it arrives, and ends the iteration, after an interval
and a delay at the latest.

## Main definitions

* `HeartbeatClient`: The client, in its loop or not.
* `HeartbeatLink`: Both loops, the commands on their way, and the clock.
* `HeartbeatLink.step`: One action.
* `HeartbeatLink.due`: When the next command is written at the latest.
* `HeartbeatLink.Fed`: The client's sleep is not over before that command.

## Theorems

* `deadline_of_fed`: How long a sleep can last.
* `fedInv_of_step`: What one step preserves.
* `no_spurious_timeout`: What a run preserves.
-/

namespace Rathole

open Client Transition

/-- The client: before its select loop with what has arrived, in the loop, or
    in the branch of a tick, sending a health update. -/
inductive HeartbeatClient (β : Type)
  | connecting (inbox : List β)
  | looping (l : Loop β)
  | reporting (l : Loop β)
deriving DecidableEq

/-- A control channel. `armed` is when the present iteration of the server's
    loop began; the commands on their way are there with the times they were
    written at, the first one first. -/
structure HeartbeatLink (β : Type) where
  now : Nat
  serving : Bool
  requests : Nat
  armed : Nat
  flight : List (Nat × ControlChannelCmd)
  client : HeartbeatClient β
deriving DecidableEq

/-- What either end does, what is delivered, and time that passes. -/
inductive HeartbeatAction (β : Type)
  | request
  | create
  | heartbeat
  | stop
  | deliver
  | enter
  | act (a : LoopAction β)
  | tick
  | reported (ok : Bool)
  | elapse (δ : Nat)
deriving DecidableEq

variable {β : Type} (A : Alphabet β) (I T delay : Nat)

namespace HeartbeatClient

/-- Bytes arrive. -/
def receive (c : HeartbeatClient β) (chunk : List β) : HeartbeatClient β :=
  match c with
  | .connecting inbox => .connecting (inbox ++ chunk)
  | .looping l => .looping { l with inbox := l.inbox ++ chunk }
  | .reporting l => .reporting { l with inbox := l.inbox ++ chunk }

/-- The loop begins, and with it its interval and its first sleep. -/
def enter (c : HeartbeatClient β) (now : Nat) : Option (HeartbeatClient β) :=
  match c with
  | .connecting inbox => some (.looping { Loop.start inbox with
      now := now, nextTick := now, armed := now, lastCmd := now })
  | _ => none

/-- A branch of the `select!` other than that of the tick. -/
def act (c : HeartbeatClient β) (a : LoopAction β) : Option (HeartbeatClient β) :=
  match c, a with
  | .looping _, .arrive _ | .looping _, .tick _ | .looping _, .elapse _ => none
  | .looping l, a => (l.step A T a).map .looping
  | _, _ => none

/-- The branch of the tick wins. -/
def tick (c : HeartbeatClient β) : Option (HeartbeatClient β) :=
  match c with
  | .looping l =>
      if l.outcome.isNone ∧ l.nextTick ≤ l.now then some (.reporting l) else none
  | _ => none

/-- `send_control_message` comes back. -/
def reported (c : HeartbeatClient β) (ok : Bool) : Option (HeartbeatClient β) :=
  match c with
  | .reporting l => (l.step A T (.tick ok)).map .looping
  | _ => none

/-- Time passes. In its loop the client lets it pass only while no branch is
    ready. -/
def wait (c : HeartbeatClient β) (δ : Nat) : Option (HeartbeatClient β) :=
  match c with
  | .connecting inbox => some (.connecting inbox)
  | .looping l =>
      if l.outcome.isSome then some (.looping { l with now := l.now + δ })
      else (l.step A T (.elapse δ)).map .looping
  | .reporting l => some (.reporting { l with now := l.now + δ })

end HeartbeatClient

namespace HeartbeatLink

/-- The server's loop begins. -/
def initial : HeartbeatLink β where
  now := 0
  serving := true
  requests := 0
  armed := 0
  flight := []
  client := .connecting []

/-- A command is written, and the next iteration begins. -/
def write (s : HeartbeatLink β) (cmd : ControlChannelCmd) : HeartbeatLink β :=
  { s with armed := s.now, flight := s.flight ++ [(s.now, cmd)] }

/-- The server has nothing to do for a time, and no command is overdue in it. -/
def Idle (s : HeartbeatLink β) (δ : Nat) : Prop :=
  (s.serving = true → s.requests = 0 ∧ (I ≠ 0 → s.now + δ ≤ s.armed + seconds I)) ∧
    ∀ e ∈ s.flight, s.now + δ ≤ e.1 + delay

instance (s : HeartbeatLink β) (δ : Nat) : Decidable (s.Idle I delay δ) :=
  inferInstanceAs (Decidable (_ ∧ _))

/-- One action. -/
def step (s : HeartbeatLink β) : HeartbeatAction β → Option (HeartbeatLink β)
  | .request => if s.serving then some { s with requests := s.requests + 1 } else none
  | .create =>
      if s.serving ∧ 0 < s.requests then
        some { s.write .createDataChannel with requests := s.requests - 1 }
      else none
  | .heartbeat =>
      if s.serving ∧ I ≠ 0 ∧ s.armed + seconds I ≤ s.now then some (s.write .heartBeat) else none
  | .stop => some { s with serving := false }
  | .deliver => match s.flight with
    | [] => none
    | (_, cmd) :: rest => some { s with
        flight := rest
        client := s.client.receive ((ControlChannelCmd.codec A).encode cmd) }
  | .enter => (s.client.enter s.now).map (fun c => { s with client := c })
  | .act a => (s.client.act A T a).map (fun c => { s with client := c })
  | .tick => s.client.tick.map (fun c => { s with client := c })
  | .reported ok => (s.client.reported A T ok).map (fun c => { s with client := c })
  | .elapse δ =>
      if s.Idle I delay δ then
        (s.client.wait A T δ).map (fun c => { s with now := s.now + δ, client := c })
      else none

/-- When the next command that has not arrived was written, or will be at the
    latest. -/
def due (s : HeartbeatLink β) : Nat :=
  match s.flight with
  | [] => s.armed + seconds I
  | e :: _ => e.1

/-- The server's sleep is not over, and no command is late. -/
structure OnTime (s : HeartbeatLink β) : Prop where
  armed : s.armed ≤ s.now
  sleep : s.now ≤ s.armed + seconds I
  flight : ∀ e ∈ s.flight, e.1 ≤ s.now ∧ s.now ≤ e.1 + delay

/-- The client's sleep began no more than an interval before the next command
    is written; or a whole command is there to be read, and came in time. -/
structure Fed (s : HeartbeatLink β) (l : Loop β) : Prop where
  waiting : l.inbox = [] → s.due I ≤ l.armed + seconds I
  late : l.inbox ≠ [] → s.now ≤ l.armed + seconds I + delay
  whole : l.inbox ≠ [] → l.armed = s.now ∨ Loop.cmdWidth A ≤ l.pending.length + l.inbox.length

/-- The client's clock is right, and its loop, if it goes on, is fed. It has
    not ended by the timeout. -/
def Awake (s : HeartbeatLink β) : HeartbeatClient β → Prop
  | .connecting _ => True
  | .looping l => l.now = s.now ∧ (l.outcome = none → s.Fed A I delay l) ∧
      l.outcome ≠ some (.err .heartbeatTimedOut)
  | .reporting l => l.now = s.now ∧ l.outcome = none

/-- What holds while the server's loop runs. -/
def FedInv (s : HeartbeatLink β) : Prop :=
  s.serving = true → s.OnTime I delay ∧ s.Awake A I delay s.client

variable {A I T delay} {s t : HeartbeatLink β} {l l' : Loop β} {c : HeartbeatClient β}

/-! ### Deadlines -/

theorem due_le (h : s.OnTime I delay) : s.due I ≤ s.now + seconds I := by
  unfold due
  cases hf : s.flight with
  | nil =>
      have harmed := h.armed
      simp only
      omega
  | cons e rest =>
      have hsent := (h.flight e (by rw [hf]; exact List.mem_cons_self)).1
      simp only
      omega

theorem now_le_due (h : s.OnTime I delay) : s.now ≤ s.due I + delay := by
  unfold due
  cases hf : s.flight with
  | nil =>
      have hsleep := h.sleep
      simp only
      omega
  | cons e rest => exact (h.flight e (by rw [hf]; exact List.mem_cons_self)).2

/-- A sleep of the client that is fed lasts an interval and a delay at
    most. -/
theorem deadline_of_fed (h : s.OnTime I delay) (hf : s.Fed A I delay l) :
    s.now ≤ l.armed + seconds I + delay := by
  by_cases hin : l.inbox = []
  · have hwaiting := hf.waiting hin
    have hdue := now_le_due h
    omega
  · exact hf.late hin

/-- A sleep that begins now is fed. -/
theorem fed_of_fresh (h : s.OnTime I delay) (hl : l.armed = s.now) : s.Fed A I delay l where
  waiting := fun _ => by
    rw [hl]
    exact due_le h
  late := fun _ => by
    rw [hl]
    omega
  whole := fun _ => Or.inl hl

/-- The next command is not put off. -/
theorem Awake.of_due (h : s.Awake A I delay c) (hnow : t.now = s.now)
    (hdue : t.due I ≤ s.due I) : t.Awake A I delay c := by
  cases c with
  | connecting inbox => trivial
  | looping l =>
      refine ⟨h.1.trans hnow.symm, fun hrun => ?_, h.2.2⟩
      have hf := h.2.1 hrun
      exact ⟨fun hin => Nat.le_trans hdue (hf.waiting hin), fun hin => by
        rw [hnow]
        exact hf.late hin, fun hin => by
        rw [hnow]
        exact hf.whole hin⟩
  | reporting l => exact ⟨h.1.trans hnow.symm, h.2⟩

/-! ### The server and the connection -/

theorem onTime_write (h : s.OnTime I delay) (cmd : ControlChannelCmd) :
    (s.write cmd).OnTime I delay where
  armed := Nat.le_refl _
  sleep := Nat.le_add_right _ _
  flight := by
    intro e he
    rcases List.mem_append.mp he with hold | hnew
    · exact h.flight e hold
    · rw [List.mem_singleton.mp hnew]
      exact ⟨Nat.le_refl _, Nat.le_add_right _ _⟩

theorem due_write (h : s.OnTime I delay) (cmd : ControlChannelCmd) :
    (s.write cmd).due I ≤ s.due I := by
  unfold due write
  cases hf : s.flight with
  | nil => exact h.sleep
  | cons e rest => exact Nat.le_refl _

theorem awake_write (h : s.OnTime I delay) (hc : s.Awake A I delay s.client)
    (cmd : ControlChannelCmd) : (s.write cmd).Awake A I delay s.client :=
  hc.of_due rfl (due_write h cmd)

theorem length_encode_cmd (cmd : ControlChannelCmd) :
    ((ControlChannelCmd.codec A).encode cmd).length = Loop.cmdWidth A :=
  (ControlChannelCmd.codec A).length_encode cmd

/-- A command arrives. -/
theorem fed_deliver (h : s.OnTime I delay) (hf : s.Fed A I delay l) (hnow : t.now = s.now)
    (cmd : ControlChannelCmd) :
    t.Fed A I delay { l with inbox := l.inbox ++ (ControlChannelCmd.codec A).encode cmd } := by
  have hlen : (l.inbox ++ (ControlChannelCmd.codec A).encode cmd).length =
      l.inbox.length + Loop.cmdWidth A := by
    rw [List.length_append, length_encode_cmd]
  have hdeadline := deadline_of_fed h hf
  refine ⟨fun hin => ?_, fun _ => by rw [hnow]; exact hdeadline, fun _ => Or.inr ?_⟩
  · -- There is a command to be read now.
    have hzero : l.inbox.length + Loop.cmdWidth A = 0 := by
      rw [← hlen]
      exact List.length_eq_zero_iff.mpr hin
    have hpos : 0 < Loop.cmdWidth A := Nat.succ_pos 3
    omega
  · simp only [hlen]
    omega

theorem awake_deliver (h : s.OnTime I delay) (hc : s.Awake A I delay c) (hnow : t.now = s.now)
    (cmd : ControlChannelCmd) :
    t.Awake A I delay (c.receive ((ControlChannelCmd.codec A).encode cmd)) := by
  cases c with
  | connecting inbox => trivial
  | looping l =>
      exact ⟨hc.1.trans hnow.symm, fun hrun => fed_deliver h (hc.2.1 hrun) hnow cmd, hc.2.2⟩
  | reporting l => exact ⟨hc.1.trans hnow.symm, hc.2⟩

/-! ### The client -/

/-- A read of a part leaves the rest of the command, or begins with the
    iteration. -/
theorem fed_read (h : s.OnTime I delay) (hf : s.Fed A I delay l) {n : Nat} (hpos : 0 < n)
    (hle : n ≤ l.inbox.length) (hpart : l.pending.length + n < Loop.cmdWidth A) :
    s.Fed A I delay
      { l with inbox := l.inbox.drop n, pending := l.pending ++ l.inbox.take n } := by
  have hin : l.inbox ≠ [] := by
    rintro hnil
    rw [hnil, List.length_nil] at hle
    omega
  rcases hf.whole hin with hfresh | hwhole
  · exact fed_of_fresh h hfresh
  · refine ⟨fun hnil => ?_, fun _ => hf.late hin, fun _ => Or.inr ?_⟩
    · -- The whole command would have been read.
      have hlen := List.length_drop (i := n) (l := l.inbox)
      rw [show l.inbox.drop n = [] from hnil, List.length_nil] at hlen
      omega
    · simp only [List.length_append, List.length_take, List.length_drop]
      omega

/-- A loop that has ended otherwise. -/
theorem awake_ended (hnow : l.now = s.now) {o : LoopEnd β} (ho : l.outcome = some o)
    (h : o ≠ .err .heartbeatTimedOut) : s.Awake A I delay (.looping l) := by
  refine ⟨hnow, fun hrun => ?_, ?_⟩
  · rw [ho] at hrun
    simp only [reduceCtorEq] at hrun
  · rw [ho]
    exact fun heq => h (Option.some.inj heq)

/-- The loop begins. -/
theorem awake_enter (h : s.OnTime I delay) {c' : HeartbeatClient β}
    (hst : c.enter s.now = some c') : s.Awake A I delay c' := by
  cases c with
  | connecting inbox =>
      rw [← Option.some.inj hst]
      refine ⟨rfl, fun _ => fed_of_fresh h rfl, ?_⟩
      simp only [Loop.start, ne_eq, reduceCtorEq, not_false_eq_true]
  | looping | reporting => simp only [HeartbeatClient.enter, reduceCtorEq] at hst

/-- The tick ends the sleep. -/
theorem awake_tick (hc : s.Awake A I delay c) {c' : HeartbeatClient β}
    (hst : c.tick = some c') : s.Awake A I delay c' := by
  cases c with
  | looping l =>
      simp only [HeartbeatClient.tick, Option.ite_none_right_eq_some, Option.some.injEq,
        Option.isNone_iff_eq_none] at hst
      rw [← hst.2]
      exact ⟨hc.1, hst.1.1⟩
  | connecting | reporting => simp only [HeartbeatClient.tick, reduceCtorEq] at hst

/-- A branch of the loop other than the tick, which is not that of the
    sleep. -/
theorem awake_act (hd : seconds I + delay < seconds T) (h : s.OnTime I delay)
    (hc : s.Awake A I delay c) {a : LoopAction β} {c' : HeartbeatClient β}
    (hst : c.act A T a = some c') : s.Awake A I delay c' := by
  cases c with
  | connecting | reporting => simp only [HeartbeatClient.act, reduceCtorEq] at hst
  | looping l =>
      have hact : ∃ l', l.step A T a = some l' ∧ c' = .looping l' := by
        cases a with
        | arrive | tick | elapse => simp only [HeartbeatClient.act, reduceCtorEq] at hst
        | _ =>
            rcases Option.map_eq_some_iff.mp hst with ⟨l', hl', hc'⟩
            exact ⟨l', hl', hc'.symm⟩
      rcases hact with ⟨l', hl', rfl⟩
      have hrun := Loop.running_of_step hl'
      have hf := hc.2.1 hrun
      cases a with
      | arrive | tick | elapse => simp only [HeartbeatClient.act, reduceCtorEq] at hst
      | read n =>
          simp only [Loop.step, hrun, Option.isSome_none, Bool.false_eq_true, if_false] at hl'
          rcases Loop.read_cases hl' with
            ⟨hpos, hle, _, ⟨hpart, rfl⟩ | ⟨_, cmd, _, rfl⟩ | ⟨_, _, rfl⟩⟩
          · exact ⟨hc.1, fun _ => fed_read h hf hpos hle hpart, hc.2.2⟩
          · exact ⟨hc.1, fun _ => fed_of_fresh h hc.1, hc.2.2⟩
          · exact awake_ended hc.1 rfl (by simp only [ne_eq, LoopEnd.err.injEq, reduceCtorEq,
              not_false_eq_true])
      | readError =>
          simp only [Loop.step, hrun, Option.isSome_none, Bool.false_eq_true, if_false,
            Option.some.injEq] at hl'
          rw [← hl']
          exact awake_ended hc.1 rfl (by simp only [ne_eq, LoopEnd.err.injEq, reduceCtorEq,
            not_false_eq_true])
      | shutdown =>
          simp only [Loop.step, hrun, Option.isSome_none, Bool.false_eq_true, if_false,
            Option.some.injEq] at hl'
          rw [← hl']
          exact awake_ended hc.1 rfl (by simp only [ne_eq, reduceCtorEq, not_false_eq_true])
      | timeout =>
          simp only [Loop.step, hrun, Option.isSome_none, Bool.false_eq_true, if_false] at hl'
          -- The next command would have come before.
          have hlate := (Loop.timeout_cases hl').2.1
          have hdeadline := deadline_of_fed h hf
          rw [hc.1] at hlate
          omega

theorem awake_reported (h : s.OnTime I delay) (hc : s.Awake A I delay c) {ok : Bool}
    {c' : HeartbeatClient β} (hst : c.reported A T ok = some c') : s.Awake A I delay c' := by
  cases c with
  | connecting | looping => simp only [HeartbeatClient.reported, reduceCtorEq] at hst
  | reporting l =>
      rcases Option.map_eq_some_iff.mp hst with ⟨l', hl', rfl⟩
      simp only [Loop.step, hc.2, Option.isSome_none, Bool.false_eq_true, if_false] at hl'
      rcases Loop.tick_cases hl' with ⟨_, ⟨_, rfl⟩ | ⟨_, rfl⟩⟩
      · refine ⟨hc.1, fun _ => fed_of_fresh h hc.1, ?_⟩
        rw [hc.2]
        simp only [ne_eq, reduceCtorEq, not_false_eq_true]
      · exact awake_ended hc.1 rfl (by simp only [ne_eq, reduceCtorEq, not_false_eq_true])

/-- Time passes for the client, and the next command is due as before. -/
theorem awake_wait (hc : s.Awake A I delay c) {δ : Nat} {c' : HeartbeatClient β}
    (hst : c.wait A T δ = some c') (hnow : t.now = s.now + δ) (hdue : t.due I = s.due I) :
    t.Awake A I delay c' := by
  cases c with
  | connecting inbox =>
      rw [← Option.some.inj hst]
      trivial
  | reporting l =>
      rw [← Option.some.inj hst]
      exact ⟨by rw [hnow, ← hc.1], hc.2⟩
  | looping l =>
      cases ho : l.outcome with
      | some o =>
          simp only [HeartbeatClient.wait, ho, Option.isSome_some, if_true,
            Option.some.injEq] at hst
          rw [← hst]
          refine awake_ended (by rw [hnow, ← hc.1]) rfl (fun heq => hc.2.2 ?_)
          rw [ho, heq]
      | none =>
          simp only [HeartbeatClient.wait, ho, Option.isSome_none, Bool.false_eq_true, if_false,
            Option.map_eq_some_iff] at hst
          rcases hst with ⟨l', hl', rfl⟩
          simp only [Loop.step, ho, Option.isSome_none, Bool.false_eq_true, if_false] at hl'
          rcases Loop.elapse_cases hl' with ⟨hin, _, _, rfl⟩
          have hf := hc.2.1 ho
          refine ⟨by rw [hnow, ← hc.1], fun _ => ⟨fun _ => ?_, fun hne => absurd hin hne,
            fun hne => absurd hin hne⟩, hc.2.2⟩
          rw [hdue]
          exact hf.waiting hin

/-! ### Runs -/

theorem fedInv_initial : (initial : HeartbeatLink β).FedInv A I delay :=
  fun _ => ⟨⟨Nat.le_refl _, Nat.zero_le _, fun _ he => absurd he List.not_mem_nil⟩, trivial⟩

/-- Only the client moves. -/
theorem fed_client (h : s.OnTime I delay) (hc : s.Awake A I delay c) :
    OnTime I delay { s with client := c } ∧ Awake A I delay { s with client := c } c :=
  ⟨⟨h.armed, h.sleep, h.flight⟩, hc.of_due rfl (Nat.le_refl _)⟩

/-- The step lemma: with heartbeats that come within the timeout, the client
    stays fed while the server's loop runs. -/
theorem fedInv_of_step (hI : 0 < I) (hd : seconds I + delay < seconds T) {a : HeartbeatAction β}
    (hi : s.FedInv A I delay) (hst : step A I T delay s a = some t) : t.FedInv A I delay := by
  intro hserving
  cases a with
  | request =>
      simp only [step, Option.ite_none_right_eq_some, Option.some.injEq] at hst
      rcases hst with ⟨hs, rfl⟩
      have hold := hi hs
      exact ⟨⟨hold.1.armed, hold.1.sleep, hold.1.flight⟩, hold.2.of_due rfl (Nat.le_refl _)⟩
  | create =>
      simp only [step, Option.ite_none_right_eq_some, Option.some.injEq] at hst
      rcases hst with ⟨hs, rfl⟩
      have hold := hi hs.1
      have hwritten := onTime_write hold.1 .createDataChannel
      refine ⟨⟨hwritten.armed, hwritten.sleep, hwritten.flight⟩, ?_⟩
      exact (awake_write hold.1 hold.2 .createDataChannel).of_due rfl (Nat.le_refl _)
  | heartbeat =>
      simp only [step, Option.ite_none_right_eq_some, Option.some.injEq] at hst
      rcases hst with ⟨hs, rfl⟩
      have hold := hi hs.1
      exact ⟨onTime_write hold.1 _, awake_write hold.1 hold.2 _⟩
  | stop =>
      simp only [step, Option.some.injEq] at hst
      rw [← hst] at hserving
      simp only [Bool.false_eq_true] at hserving
  | deliver =>
      cases hf : s.flight with
      | nil => simp only [step, hf, reduceCtorEq] at hst
      | cons e rest =>
          simp only [step, hf, Option.some.injEq] at hst
          subst hst
          have hold := hi hserving
          refine ⟨⟨hold.1.armed, hold.1.sleep, fun x hx => hold.1.flight x ?_⟩, ?_⟩
          · rw [hf]
            exact List.mem_cons_of_mem e hx
          · refine awake_deliver hold.1 hold.2 (?_ : _ = s.now) e.2
            rfl
  | enter =>
      rcases Option.map_eq_some_iff.mp hst with ⟨c, hc, rfl⟩
      have hold := hi hserving
      exact fed_client hold.1 (awake_enter hold.1 hc)
  | act a =>
      rcases Option.map_eq_some_iff.mp hst with ⟨c, hc, rfl⟩
      have hold := hi hserving
      exact fed_client hold.1 (awake_act hd hold.1 hold.2 hc)
  | tick =>
      rcases Option.map_eq_some_iff.mp hst with ⟨c, hc, rfl⟩
      have hold := hi hserving
      exact fed_client hold.1 (awake_tick hold.2 hc)
  | reported ok =>
      rcases Option.map_eq_some_iff.mp hst with ⟨c, hc, rfl⟩
      have hold := hi hserving
      exact fed_client hold.1 (awake_reported hold.1 hold.2 hc)
  | elapse δ =>
      simp only [step, Option.ite_none_right_eq_some, Option.map_eq_some_iff] at hst
      rcases hst with ⟨⟨hserver, hflight⟩, c, hc, rfl⟩
      have hold := hi hserving
      -- The server would write its heartbeat first.
      have hsleep := (hserver hserving).2 (Nat.pos_iff_ne_zero.mp hI)
      refine ⟨⟨Nat.le_add_right_of_le hold.1.armed, hsleep, fun e he => ?_⟩,
        awake_wait hold.2 hc rfl rfl⟩
      exact ⟨Nat.le_add_right_of_le (hold.1.flight e he).1, hflight e he⟩

/-- As long as the server's loop runs, the client does not end its own by the
    heartbeat timeout. -/
theorem no_spurious_timeout (A : Alphabet β) (I T delay : Nat) (hI : 0 < I)
    (hd : seconds I + delay < seconds T) (s : HeartbeatLink β)
    (h : Reaches (step A I T delay) (fun _ _ => True) initial s) (hs : s.serving = true)
    (l : Loop β) (hl : s.client = .looping l) :
    l.outcome ≠ some (.err .heartbeatTimedOut) := by
  have hinv : s.FedInv A I delay :=
    h.invariant (fun _ _ _ hi _ hst => fedInv_of_step hI hd hi hst) fedInv_initial
  have hawake := (hinv hs).2
  rw [hl] at hawake
  exact hawake.2.2

/-- Half a minute without a data channel, with a heartbeat after it that takes
    its time. -/
def quietHalfMinute : List (HeartbeatAction UInt8) :=
  [.enter, .tick, .reported true, .elapse (seconds 10), .tick, .reported true,
    .elapse (seconds 10), .tick, .reported true, .elapse (seconds 10), .heartbeat, .tick,
    .reported true, .elapse (seconds 5), .deliver, .act (.read 4)]

/-- With the default times and five seconds of delay. -/
theorem no_spurious_timeout_default : ∃ (s : HeartbeatLink UInt8) (l : Loop UInt8),
    Reaches (step plainBytes 30 40 (seconds 5)) (fun _ _ => True) initial s ∧
      s.serving = true ∧ s.client = .looping l ∧ l.acted = [.heartBeat] ∧
      l.outcome ≠ some (.err .heartbeatTimedOut) := by
  rcases hrun : exec (step plainBytes 30 40 (seconds 5)) initial quietHalfMinute with _ | s
  · exact absurd hrun (by decide)
  · have hobs : (exec (step plainBytes 30 40 (seconds 5)) initial quietHalfMinute).map
        (fun s => (s.serving, s.client)) = some (true, .looping {
          inbox := []
          pending := []
          acted := [.heartBeat]
          discarded := []
          now := seconds 35
          nextTick := seconds 40
          armed := seconds 35
          lastCmd := seconds 35
          outcome := none }) := by decide +kernel
    rw [hrun, Option.map_some, Option.some.injEq, Prod.mk.injEq] at hobs
    have hreach := reaches_of_exec _ _ _ hrun
    exact ⟨s, _, hreach, hobs.1, hobs.2, rfl,
      no_spurious_timeout plainBytes 30 40 (seconds 5) (by decide) (by decide) s hreach hobs.1 _
        hobs.2⟩

end HeartbeatLink

end Rathole
