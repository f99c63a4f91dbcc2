import Rathole.Client.Loop

/-!
# The Heartbeat Timeout

When the select loop notices that the server has gone silent. The sleep of
`heartbeat_timeout` seconds is a fresh one in every iteration, so it measures
the time since the last iteration began and not since the last command. A
health tick begins an iteration, and ticks come every ten seconds: with the
default timeout of forty seconds the sleep never gets to its end.

As long as no tick restarts a sleep that was running, the loop is timely. And
a tick that restarts one always costs: if the server stays silent from there
on, the loop outlives the silence.

## Main definitions

* `Loop.Timely`: The loop has not outlived a silence.
* `Loop.Uninterrupted`: A tick does not restart a sleep that was running.

## Theorems

* `heartbeat_detects`: A run without restarts is timely.
* `restart_overruns`: A restart leads to a state that is not.
* `heartbeat_never_detects`: A silent server that is never detected.
-/

namespace Rathole

namespace Client

namespace Loop

open Transition

/-- No more than the timeout has passed since the last command, or since the
    start, while the loop still runs. -/
def Timely {β : Type} (T : Nat) (l : Loop β) : Prop :=
  l.outcome = none → l.now ≤ l.lastCmd + seconds T

/-- A tick after which the loop goes on comes at the time of the last command,
    or at the start: the sleep it replaces has not begun to run. -/
def Uninterrupted {β : Type} (l : Loop β) (a : LoopAction β) : Prop :=
  match a with
  | .tick true => l.now = l.lastCmd
  | _ => True

instance {β : Type} (l : Loop β) (a : LoopAction β) : Decidable (Uninterrupted l a) := by
  unfold Uninterrupted
  split <;> infer_instance

/-- The sleep dates from the last command. -/
def SleepInv {β : Type} (T : Nat) (l : Loop β) : Prop :=
  l.outcome = none → l.armed = l.lastCmd ∧ l.now ≤ l.lastCmd + seconds T

variable {β : Type} {A : Alphabet β} {T : Nat} {l l' : Loop β} {a : LoopAction β}

theorem sleepInv_start (T : Nat) (inbox : List β) : SleepInv T (start inbox) :=
  fun _ => ⟨rfl, Nat.zero_le _⟩

theorem not_running {P : Prop} {o : LoopEnd β} (h : some o = none) : P := by
  simp only [reduceCtorEq] at h

/-- The step lemma of a sleep that is not restarted. -/
theorem sleepInv_of_step (hT : 0 < T) (hi : SleepInv T l) (hok : Uninterrupted l a)
    (h : step A T l a = some l') : SleepInv T l' := by
  have hrun := running_of_step h
  have harmed : l.armed = l.lastCmd := (hi hrun).1
  have hnow : l.now ≤ l.lastCmd + seconds T := (hi hrun).2
  cases rule_of_step h with
  | arrive | readOn => exact fun _ => ⟨harmed, hnow⟩
  -- A command restarts the sleep and the clock of silences together.
  | command => exact fun _ => ⟨rfl, Nat.le_add_right _ _⟩
  | ticked =>
      have hzero : l.now = l.lastCmd := hok
      exact fun _ => ⟨hzero, hnow⟩
  | elapsed hsleep =>
      have hbound := hsleep (by omega)
      refine fun _ => ⟨harmed, ?_⟩
      show l.now + _ ≤ l.lastCmd + seconds T
      omega
  | garbled | readError | tickFailed | timedOut | shutdown => exact fun hout => not_running hout

/-- In a run in which no tick restarts a sleep that was running, at no time
    more than the timeout has passed since the last command. -/
theorem heartbeat_detects (A : Alphabet β) (T : Nat) (hT : 0 < T) (inbox : List β) (l : Loop β)
    (h : Reaches (step A T) Uninterrupted (start inbox) l) : Timely T l := by
  have hinv : SleepInv T l :=
    h.invariant (fun _ _ _ hi hok hst => sleepInv_of_step hT hi hok hst) (sleepInv_start T inbox)
  exact fun hrun => (hinv hrun).2

/-- Five seconds of silence from the start, with a timeout of five seconds. -/
theorem heartbeat_detects_five :
    Timely 5 { (start [] : Loop UInt8) with nextTick := seconds 10, now := seconds 5 } :=
  heartbeat_detects plainBytes 5 (by omega) [] _
    (reaches_of_legal [.tick true, .elapse (seconds 5)] _ _ (by decide +kernel)
      (by decide +kernel))

/-! ### What a restart costs -/

/-- The loop after a tick. -/
def restarted (l : Loop β) : Loop β := { l with
  pending := []
  discarded := l.discarded ++ l.pending
  nextTick := l.nextTick + healthPeriod
  armed := l.now }

theorem step_tick (hrun : l.outcome = none) (hdue : l.nextTick ≤ l.now) :
    step A T l (.tick true) = some l.restarted := by
  simp only [step, hrun, Option.isSome_none, Bool.false_eq_true, if_false, tick, if_pos hdue,
    if_true, restarted]

theorem step_elapse {d : Nat} (hrun : l.outcome = none) (hin : l.inbox = [])
    (htick : l.now + d ≤ l.nextTick) (hsleep : l.now + d ≤ l.armed + seconds T) :
    step A T l (.elapse d) = some { l with now := l.now + d } := by
  simp only [step, hrun, Option.isSome_none, Bool.false_eq_true, if_false, elapse, hin, htick,
    hsleep, implies_true, and_self, if_true]

/-- The ticks of a silence, as often as it takes for the timeout to go by. -/
theorem overruns_within (rounds : Nat) : ∀ (l : Loop β), l.outcome = none → l.inbox = [] →
    l.nextTick = l.now → l.lastCmd < l.now → l.now ≤ l.lastCmd + seconds T →
    l.lastCmd + seconds T < l.now + (rounds + 1) * healthPeriod →
    ∃ as t, exec (step A T) l (.tick true :: as) = some t ∧ ¬ Timely T t := by
  induction rounds with
  | zero =>
      intro l hrun hin hdue hlate hin_time hsoon
      -- One more nanosecond than the silence may last, before the next tick.
      have htick : l.now + (l.lastCmd + seconds T - l.now + 1) ≤ l.nextTick + healthPeriod := by
        omega
      have hsleep : l.now + (l.lastCmd + seconds T - l.now + 1) ≤ l.now + seconds T := by omega
      have hstep : step A T l.restarted (.elapse (l.lastCmd + seconds T - l.now + 1)) = some
          { l.restarted with now := l.now + (l.lastCmd + seconds T - l.now + 1) } :=
        step_elapse hrun hin htick hsleep
      refine ⟨[.elapse (l.lastCmd + seconds T - l.now + 1)],
        { l.restarted with now := l.now + (l.lastCmd + seconds T - l.now + 1) }, ?_, ?_⟩
      · simp only [exec, step_tick hrun (Nat.le_of_eq hdue), hstep]
      · intro ht
        have hle : l.now + (l.lastCmd + seconds T - l.now + 1) ≤ l.lastCmd + seconds T := ht hrun
        omega
  | succ rounds ih =>
      intro l hrun hin hdue hlate hin_time hsoon
      by_cases hlast : l.lastCmd + seconds T < l.now + (rounds + 1) * healthPeriod
      · exact ih l hrun hin hdue hlate hin_time hlast
      · -- The next tick comes before the timeout and before the restarted sleep.
        have hround : healthPeriod ≤ (rounds + 1) * healthPeriod :=
          Nat.le_mul_of_pos_left _ (Nat.succ_pos rounds)
        have hmul : (rounds + 1 + 1) * healthPeriod = (rounds + 1) * healthPeriod + healthPeriod :=
          Nat.succ_mul _ _
        have htick : l.now + healthPeriod ≤ l.nextTick + healthPeriod := by omega
        have hsleep : l.now + healthPeriod ≤ l.now + seconds T := by omega
        have hnext : l.nextTick + healthPeriod = l.now + healthPeriod := by omega
        have hlate' : l.lastCmd < l.now + healthPeriod := by omega
        have hin' : l.now + healthPeriod ≤ l.lastCmd + seconds T := by omega
        have hsoon' : l.lastCmd + seconds T <
            l.now + healthPeriod + (rounds + 1) * healthPeriod := by omega
        have hstep : step A T l.restarted (.elapse healthPeriod) = some
            { l.restarted with now := l.now + healthPeriod } :=
          step_elapse hrun hin htick hsleep
        rcases ih { l.restarted with now := l.now + healthPeriod } hrun hin hnext hlate' hin'
          hsoon' with ⟨as, t, ht, hnot⟩
        refine ⟨.elapse healthPeriod :: .tick true :: as, t, ?_, hnot⟩
        rw [← ht, exec, step_tick hrun (Nat.le_of_eq hdue)]
        show exec (step A T) l.restarted (.elapse healthPeriod :: .tick true :: as) = _
        rw [exec, hstep]

/-- If a tick restarts a sleep that was running and the server stays silent,
    the loop outlives the silence. -/
theorem restart_overruns (hrun : l.outcome = none) (hin : l.inbox = []) (hdue : l.nextTick = l.now)
    (hlate : l.lastCmd < l.now) (ht : Timely T l) :
    ∃ as t, exec (step A T) l (.tick true :: as) = some t ∧ ¬ Timely T t := by
  have hnow : l.now ≤ l.lastCmd + seconds T := ht hrun
  have hperiod : 1 ≤ healthPeriod := by decide
  -- A round for each nanosecond is more than enough.
  have hrounds : seconds T ≤ seconds T * healthPeriod := Nat.le_mul_of_pos_right _ hperiod
  have hmul : (seconds T + 1) * healthPeriod = seconds T * healthPeriod + healthPeriod :=
    Nat.succ_mul _ _
  exact overruns_within (seconds T) l hrun hin hdue hlate hnow (by omega)

/-- Fifty seconds without a byte from the server: a health tick every ten. -/
def silentServer : List (LoopAction UInt8) :=
  [.tick true, .elapse (seconds 10), .tick true, .elapse (seconds 10), .tick true,
    .elapse (seconds 10), .tick true, .elapse (seconds 10), .tick true, .elapse (seconds 10)]

/-- With the default timeout of forty seconds the loop still runs after fifty
    seconds of silence. -/
theorem heartbeat_never_detects :
    ¬ ∀ (A : Alphabet UInt8) (T : Nat), 0 < T → ∀ (as : List (LoopAction UInt8)) (l : Loop UInt8),
      exec (step A T) (start []) as = some l → Timely T l := by
  intro h
  rcases hrun : exec (step plainBytes 40) (start []) silentServer with _ | l
  · exact absurd hrun (by decide)
  · have hstate : (exec (step plainBytes 40) (start []) silentServer).map
        (fun l => (l.outcome, l.now, l.lastCmd)) = some (none, seconds 50, 0) := by decide
    have ht := h plainBytes 40 (by omega) silentServer l hrun
    rw [hrun, Option.map_some, Option.some.injEq, Prod.mk.injEq, Prod.mk.injEq] at hstate
    have hle := ht hstate.1
    rw [hstate.2.1, hstate.2.2] at hle
    exact absurd hle (by decide)

end Loop

end Client

end Rathole
