import Rathole.Client.Loop

/-!
# The Retry Loop

The task that `ControlChannelHandle::new` spawns. It runs the control channel
again and again, with a pause after every failure, and takes an `Ok` to mean
that it was asked to stop.

A run has two parts, the handshake and the select loop. The select loop ends
with `Ok` on the shutdown signal, and also after a health update that could
not be sent, which breaks out of the loop as the signal does. A connect that
panics takes the process with it, and so the task.

The pauses are those of a backoff without a limit on the elapsed time, so
there always is a next one.

## Main definitions

* `Run`, `Run.step`: One run of the control channel.
* `Task`, `Task.step`: The task and its handle.
* `Task.Reconnecting`: The task has not ended, or its handle was used.
* `Task.Steady`: A step does not give up while the handle is there.

## Theorems

* `Run.over_iff`: Which actions end a run for good.
* `Task.reconnecting_iff_steady`: What one step does.
* `Task.keeps_reconnecting_iff`: What a run of the task does.
* `Task.gives_up`: A task that ends with its handle in place.
-/

namespace Rathole

namespace Client

open Transition

/-- `ControlChannel::run` under way. -/
inductive Run (β : Type)
  | handshake (h : Handshake β)
  | looping (sessionKey : Digest β) (l : Loop β)

/-- What can happen next in one run. -/
inductive RunAction (β : Type)
  | receive (chunk : List β)
  | advance
  | fail
  | panic
  | loop (a : LoopAction β)

/-- What an action leads to: the run goes on, returns, or panics. -/
inductive RunStep (β : Type)
  | going (r : Run β)
  | returned (res : Except (RunError β) Unit)
  | panicked

variable {β : Type} (A : Alphabet β) (service : ClientServiceConfig (List β)) (T : Nat)

/-- Whether an await can panic: a connect, and the token if there is none. -/
def Handshake.canPanic (h : Handshake β) : Bool :=
  match h.pc with
  | .connecting => true
  | .sendingAuth _ => service.token.isNone
  | _ => false

/-- What the select loop leads to. -/
def Loop.result (key : Digest β) (l : Loop β) : RunStep β :=
  match l.outcome with
  | none => .going (.looping key l)
  | some .ok => .returned (.ok ())
  | some (.err e) => .returned (.error e)

/-- One action of a run. The shutdown branch is ready when the handle was
    used (`told`). -/
def Run.step (told : Bool) (r : Run β) (a : RunAction β) : Option (RunStep β) :=
  match r, a with
  | .handshake h, .receive chunk => some (.going (.handshake (h.receive chunk)))
  | .handshake h, .advance => match h.advance A service with
    | none => none
    | some (.going h') => some (.going (.handshake h'))
    | some (.established key h') => some (.going (.looping key (Loop.start h'.inbox)))
    | some (.failed e _) => some (.returned (.error e))
  | .handshake _, .fail => some (.returned (.error .io))
  | .handshake h, .panic => if h.canPanic service then some .panicked else none
  | .looping key l, .loop b => match b, told with
    | .shutdown, false => none
    | b, _ => (l.step A T b).map (Loop.result key)
  | _, _ => none

/-- The sender of the shutdown signal. -/
inductive Handle
  | alive
  | shutdown
  | dropped
deriving DecidableEq

/-- Where the task is: in a run, in a pause after a failed one, or done. A
    panic is the end of the process. -/
inductive Stage (β : Type)
  | running (r : Run β)
  | backoff (e : RunError β)
  | ended
  | aborted

/-- The task of a control channel, and what became of its handle. -/
structure Task (β : Type) where
  stage : Stage β
  handle : Handle

/-- What can happen next to the task and its handle. -/
inductive TaskAction (β : Type)
  | run (a : RunAction β)
  | retry
  | shutdown
  | drop

/-- `ControlChannelHandle::new` -/
def Task.new : Task β where
  stage := .running (.handshake Handshake.start)
  handle := .alive

/-- What the retry loop makes of a step of the run. -/
def Task.continue (t : Task β) : RunStep β → Task β
  | .going r => { t with stage := .running r }
  | .returned (.ok _) => { t with stage := .ended }
  | .returned (.error e) =>
      { t with stage := if t.handle = .alive then .backoff e else .ended }
  | .panicked => { t with stage := .aborted }

/-- One action of the task, or of the handle, which is used once. -/
def Task.step (t : Task β) : TaskAction β → Option (Task β)
  | .run a => match t.stage with
    | .running r => (r.step A service T (t.handle != .alive) a).map t.continue
    | _ => none
  | .retry => match t.stage with
    | .backoff _ => some { t with stage := .running (.handshake Handshake.start) }
    | _ => none
  | .shutdown => if t.handle = .alive then some { t with handle := .shutdown } else none
  | .drop => if t.handle = .alive then some { t with handle := .dropped } else none

/-- The task is over. -/
def Stage.over : Stage β → Bool
  | .running _ => false
  | .backoff _ => false
  | .ended => true
  | .aborted => true

/-- The task has not ended, or its handle was shut down or dropped before. -/
def Task.Reconnecting (t : Task β) : Prop := t.stage.over = true → t.handle ≠ .alive

/-- The run is over for good: the retry loop does not start another. -/
def RunStep.over : RunStep β → Bool
  | .going _ => false
  | .returned (.ok _) => true
  | .returned (.error _) => false
  | .panicked => true

/-- A health update that fails, or a panic. -/
def RunAction.givesUp : RunAction β → Bool
  | .panic => true
  | .loop (.tick ok) => !ok
  | _ => false

/-- No health update fails and nothing panics while the handle is there. -/
def Task.Steady (t : Task β) : TaskAction β → Prop
  | .run a => a.givesUp = true → t.handle ≠ .alive
  | _ => True

variable {A service T}

/-! ### The end of a run -/

/-- The select loop ends with `Ok` for two reasons. -/
theorem Loop.ok_iff {l l' : Loop β} {b : LoopAction β} (h : l.step A T b = some l') :
    l'.outcome = some .ok ↔ b = .tick false ∨ b = .shutdown := by
  have hrun := Loop.running_of_step h
  cases Loop.rule_of_step h with
  | tickFailed | shutdown => simp only [true_or, or_true]
  | ticked => simp only [hrun, LoopAction.tick.injEq, reduceCtorEq, or_self]
  | arrive | readOn | command | elapsed => simp only [hrun, reduceCtorEq, or_self]
  | garbled | readError | timedOut => simp only [Option.some.injEq, reduceCtorEq, or_self]

theorem Loop.over_result (key : Digest β) (l : Loop β) :
    (l.result key).over = true ↔ l.outcome = some .ok := by
  unfold Loop.result
  cases l.outcome with
  | none => simp only [RunStep.over, Bool.false_eq_true, reduceCtorEq]
  | some o =>
      cases o with
      | ok => simp only [RunStep.over]
      | err e => simp only [RunStep.over, Bool.false_eq_true, Option.some.injEq, reduceCtorEq]

/-- The branch of the signal wins only when the handle was used. -/
theorem Run.loop_cases {told : Bool} {key : Digest β} {l : Loop β} {b : LoopAction β}
    {x : RunStep β} (h : (Run.looping key l).step A service T told (.loop b) = some x) :
    (b = .shutdown → told = true) ∧ ∃ l', l.step A T b = some l' ∧ x = l'.result key := by
  simp only [Run.step] at h
  split at h
  · simp only [reduceCtorEq] at h
  · rename_i hready
    rw [Option.map_eq_some_iff] at h
    rcases h with ⟨l', hl, hx⟩
    refine ⟨fun hb => ?_, l', hl, hx.symm⟩
    by_contra hnot
    exact hready hb (Bool.eq_false_iff.mpr hnot)

/-- A run is over for good after the shutdown signal, a health update that
    failed, or a panic. -/
theorem Run.over_iff {told : Bool} {r : Run β} {a : RunAction β} {x : RunStep β}
    (h : r.step A service T told a = some x) :
    x.over = true ↔ a.givesUp = true ∨ (a = .loop .shutdown ∧ told = true) := by
  cases r with
  | handshake hs =>
      cases a with
      | receive chunk =>
          rw [← Option.some.inj h]
          simp only [RunStep.over, RunAction.givesUp, Bool.false_eq_true, reduceCtorEq, false_and,
            or_self]
      -- The handshake goes on, is over, or fails; none of these ends the task.
      | advance =>
          simp only [Run.step] at h
          have hx : x.over = false := by
            cases hadv : hs.advance A service with
            | none => simp only [hadv, reduceCtorEq] at h
            | some y =>
                cases y with
                | going h' =>
                    simp only [hadv, Option.some.injEq] at h
                    rw [← h]
                    rfl
                | established key h' =>
                    simp only [hadv, Option.some.injEq] at h
                    rw [← h]
                    rfl
                | failed e h' =>
                    simp only [hadv, Option.some.injEq] at h
                    rw [← h]
                    rfl
          simp only [hx, RunAction.givesUp, Bool.false_eq_true, reduceCtorEq, false_and, or_self]
      | fail =>
          rw [← Option.some.inj h]
          simp only [RunStep.over, RunAction.givesUp, Bool.false_eq_true, reduceCtorEq, false_and,
            or_self]
      | panic =>
          simp only [Run.step, Option.ite_none_right_eq_some, Option.some.injEq] at h
          rw [← h.2]
          simp only [RunStep.over, RunAction.givesUp, true_or]
      | loop b => simp only [Run.step, reduceCtorEq] at h
  | looping key l =>
      cases a with
      | loop b =>
          -- In the loop the signal and a failed health update are an `Ok`.
          rcases Run.loop_cases h with ⟨htold, l', hl, hx⟩
          rw [hx, Loop.over_result, Loop.ok_iff hl]
          cases b with
          | shutdown => simp only [or_true, htold rfl, and_self]
          | tick ok => cases ok <;> simp [RunAction.givesUp]
          | _ => simp [RunAction.givesUp]
      | _ => simp only [Run.step, reduceCtorEq] at h

/-! ### The task -/

namespace Task

variable {t u : Task β}

/-- The retry loop stops after a run that is over for good, or if its handle
    was used. -/
theorem reconnecting_continue (t : Task β) (x : RunStep β) :
    (t.continue x).Reconnecting ↔ (x.over = true → t.handle ≠ .alive) := by
  cases x with
  | going r => simp only [Reconnecting, Task.continue, Stage.over, RunStep.over, Bool.false_eq_true,
      false_implies]
  | returned res =>
      cases res with
      | ok v => simp only [Reconnecting, Task.continue, Stage.over, RunStep.over]
      -- After an error the retry loop goes on, unless the handle was used.
      | error e =>
          simp only [Reconnecting, Task.continue, RunStep.over, Bool.false_eq_true, false_implies,
            iff_true]
          intro hover halive
          rw [if_pos halive] at hover
          simp only [Stage.over, Bool.false_eq_true] at hover
  | panicked => simp only [Reconnecting, Task.continue, Stage.over, RunStep.over]

/-- A step keeps the task reconnecting exactly if it does not give up. -/
theorem reconnecting_iff_steady {a : TaskAction β} (h : t.step A service T a = some u) :
    u.Reconnecting ↔ t.Steady a := by
  cases a with
  | run b =>
      simp only [Task.step] at h
      cases hstage : t.stage with
      | running r =>
          simp only [hstage, Option.map_eq_some_iff] at h
          rcases h with ⟨x, hx, hu⟩
          rw [← hu, reconnecting_continue, Run.over_iff hx]
          simp only [Steady, bne_iff_ne]
          constructor
          · intro hret hgives
            exact hret (Or.inl hgives)
          · intro hsteady hover
            rcases hover with hgives | ⟨_, htold⟩
            · exact hsteady hgives
            · exact htold
      | _ => simp only [hstage, reduceCtorEq] at h
  | retry =>
      simp only [Task.step] at h
      simp only [Steady, iff_true]
      cases hstage : t.stage with
      | backoff e =>
          simp only [hstage, Option.some.injEq] at h
          rw [← h]
          intro hover
          simp only [Stage.over, Bool.false_eq_true] at hover
      | _ => simp only [hstage, reduceCtorEq] at h
  | shutdown =>
      simp only [Task.step, Option.ite_none_right_eq_some, Option.some.injEq] at h
      rw [← h.2]
      simp only [Reconnecting, Steady, ne_eq, reduceCtorEq, not_false_eq_true, implies_true]
  | drop =>
      simp only [Task.step, Option.ite_none_right_eq_some, Option.some.injEq] at h
      rw [← h.2]
      simp only [Reconnecting, Steady, ne_eq, reduceCtorEq, not_false_eq_true, implies_true]

/-- In every state of a run the task is there or its handle was used, exactly
    if no health update failed and nothing panicked while the handle was
    there. -/
theorem keeps_reconnecting_iff (A : Alphabet β) (service : ClientServiceConfig (List β)) (T : Nat)
    (as : List (TaskAction β)) :
    Throughout (step A service T) Reconnecting new as ↔ Legal (step A service T) Steady new as := by
  have hinv : ∀ (x : Task β) (a : TaskAction β) (y : Task β),
      True → step A service T x a = some y → True := fun _ _ _ _ _ => trivial
  have hok : ∀ (x : Task β) (a : TaskAction β) (y : Task β),
      True → x.Reconnecting → step A service T x a = some y → (y.Reconnecting ↔ x.Steady a) :=
    fun _ _ _ _ _ h => reconnecting_iff_steady h
  have hnew : (new : Task β).Reconnecting := by
    intro hover
    simp only [new, Stage.over, Bool.false_eq_true] at hover
  exact throughout_iff_legal hinv hok as new trivial hnew

/-- A service as validation leaves it. -/
def sshService : ClientServiceConfig (List UInt8) where
  serviceType := .tcp
  name := sampleName
  localAddr := "127.0.0.1:22"
  preferIpv6 := false
  token := some sampleToken
  nodelay := none
  retryInterval := some 1

/-- A server lets the client in, and the first health update cannot be
    sent. -/
def brokenHealthUpdate : List (TaskAction UInt8) :=
  [.run .advance, .run .advance, .run .advance,
    .run (.receive
      ((Hello.controlChannelHello currentProtoVersion sampleNonce).serialize plainBytes)),
    .run .advance, .run .advance,
    .run (.receive (serializeTag plainBytes Ack.tag .ok)), .run .advance,
    .run (.loop (.tick false))]

/-- The task ends although nobody has asked it to. -/
theorem gives_up :
    ¬ ∀ (A : Alphabet UInt8) (service : ClientServiceConfig (List UInt8)) (T : Nat)
      (as : List (TaskAction UInt8)) (t : Task UInt8),
      exec (step A service T) new as = some t → t.Reconnecting := by
  intro h
  rcases hrun : exec (step plainBytes sshService 40) new brokenHealthUpdate with _ | t
  · exact absurd hrun (by decide)
  · have hstate : (exec (step plainBytes sshService 40) new brokenHealthUpdate).map
        (fun t => (t.stage.over, t.handle)) = some (true, .alive) := by decide
    have hp := h plainBytes sshService 40 brokenHealthUpdate t hrun
    rw [hrun, Option.map_some, Option.some.injEq, Prod.mk.injEq] at hstate
    exact hp hstate.1 hstate.2

end Task

end Client

end Rathole
