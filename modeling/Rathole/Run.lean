import Rathole.HotReload
import Rathole.Lib.Transition

/-!
# Running an Instance

`run` of `lib.rs`: the channels between the configuration watcher, the caller
and the running server or client.

There are two channels for changes. One is made by `ConfigWatcherHandle::new`;
the watcher sends into it, and its receiver stays in the handle that `run`
keeps. The other is made by the caller, who passes the receiver to `run`, and
it is the one `run_server` or `run_client` receives from. `run` moves nothing
from one to the other. Whether a change reaches the instance then depends on
the caller alone, and no caller sends anything: each makes the channel, keeps
the sender under a name that begins with an underscore, and leaves it there.

## Main definitions

* `Cli`: The arguments.
* `Run`: `run`, the watcher, and the two channels.
* `Run.step`: One action.
* `Run.Delivered`: No change the watcher sent is lost to the instance.
* `Run.Forwarded`: Somebody has put the changes into the caller's channel.

## Theorems

* `Run.events_stay`: The watcher's channel is never read.
* `Run.delivered_throughout_iff`: When no change is lost.
* `Run.edit_lost`: A run that loses one.
-/


namespace Rathole

open Transition

variable {β : Type} [DecidableEq β]

/-- `Cli`, with the arguments `run` looks at; a path is given. -/
structure Cli where
  server : Bool
  client : Bool
deriving DecidableEq, Repr

/-- Where `run` is. -/
inductive RunPc
  | loading
  | server
  | client
  | returned
deriving DecidableEq, Repr

/-- `run`, the watcher task, the two channels, and the histories of what was
    sent into them and what the instance received. The first change, with the
    configuration at the start, does not count as sent. -/
structure Run (β : Type) [DecidableEq β] where
  args : Cli
  pc : RunPc
  watching : Bool
  old : Config (List β)
  eventRx : List (ConfigChange β)
  sent : List (ConfigChange β)
  updateRx : List (ConfigChange β)
  called : List (ConfigChange β)
  received : List (ConfigChange β)

/-- What can happen next to the program and the file it watches. -/
inductive RunAction (β : Type) [DecidableEq β]
  | load (file : Option (Config (List β)))
  | edit (file : Option (Config (List β)))
  | call (e : ConfigChange β)
  | update
  | finish
  | unwatch

namespace Run

/-- `ConfigWatcherHandle::new`, with the file as it is then. -/
def start (args : Cli) (originCfg : Config (List β)) : Run β where
  args := args
  pc := .loading
  watching := true
  old := originCfg
  eventRx := [.general originCfg]
  sent := []
  updateRx := []
  called := []
  received := []

/-- The file is read once more, and the server or the client started. -/
def load (s : Run β) (file : Option (Config (List β))) : Option (Run β) :=
  if s.pc = .loading then
    match Config.fromFile file with
    | none => some { s with pc := .returned }
    | some _ => some { s with
        pc := if s.args.server then .server else if s.args.client then .client else .returned }
  else none

/-- The watcher finds a changed file. Once `run` has returned, its receiver is
    gone and the first send ends the watcher. -/
def edit (s : Run β) (file : Option (Config (List β))) : Option (Run β) :=
  if s.watching then
    match Config.fromFile file with
    | none => some s
    | some new =>
        let events := changeEvents s.old new
        if s.pc = .returned ∧ events ≠ [] then some { s with watching := false }
        else some { s with
          eventRx := s.eventRx ++ events, sent := s.sent ++ events, old := new }
  else none

/-- The caller sends a change. -/
def call (s : Run β) (e : ConfigChange β) : Option (Run β) :=
  some { s with updateRx := s.updateRx ++ [e], called := s.called ++ [e] }

/-- `update_rx.recv()` in the loop of the instance. -/
def update (s : Run β) : Option (Run β) :=
  if s.pc = .server ∨ s.pc = .client then
    match s.updateRx with
    | [] => none
    | e :: rest => some { s with updateRx := rest, received := s.received ++ [e] }
  else none

/-- The instance ends, and `run` with it. -/
def finish (s : Run β) : Option (Run β) :=
  if s.pc = .server ∨ s.pc = .client then some { s with pc := .returned } else none

/-- The watcher is told to shut down. -/
def unwatch (s : Run β) : Option (Run β) :=
  if s.watching then some { s with watching := false } else none

/-- One action. -/
def step (s : Run β) : RunAction β → Option (Run β)
  | .load file => s.load file
  | .edit file => s.edit file
  | .call e => s.call e
  | .update => s.update
  | .finish => s.finish
  | .unwatch => s.unwatch

/-- Every change the watcher sent has been received by the instance, or is in
    the channel it receives from, in the order sent. -/
def Delivered (s : Run β) : Prop := s.sent.Sublist (s.received ++ s.updateRx)

/-- What the watcher has sent with this action was put into the caller's
    channel before, in that order. -/
def Forwarded (s : Run β) : RunAction β → Prop
  | .edit file => match Config.fromFile file with
    | none => True
    | some new => s.pc = .returned ∧ changeEvents s.old new ≠ [] ∨
        (s.sent ++ changeEvents s.old new).Sublist s.called
  | _ => True

/-! ### What each action can do -/

/-- The ways through an action in the state `s`, each with the state it ends
    in. The first is every action that moves no change. -/
inductive Rule (s : Run β) : RunAction β → Run β → Prop
  | quiet {a : RunAction β} {pc : RunPc} {watching : Bool} (hf : s.Forwarded a) :
      Rule s a { s with pc := pc, watching := watching }
  | edited {file : Option (Config (List β))} {new : Config (List β)}
      (hfile : Config.fromFile file = some new)
      (hopen : ¬ (s.pc = .returned ∧ changeEvents s.old new ≠ [])) : Rule s (.edit file) { s with
        eventRx := s.eventRx ++ changeEvents s.old new
        sent := s.sent ++ changeEvents s.old new
        old := new }
  | called {e : ConfigChange β} :
      Rule s (.call e) { s with updateRx := s.updateRx ++ [e], called := s.called ++ [e] }
  | updated {e : ConfigChange β} {rest : List (ConfigChange β)} (hq : s.updateRx = e :: rest) :
      Rule s .update { s with updateRx := rest, received := s.received ++ [e] }

section Steps

variable {s s' : Run β} {a : RunAction β}

theorem edit_rule {file : Option (Config (List β))} (hst : s.edit file = some s') :
    Rule s (.edit file) s' := by
  unfold edit at hst
  by_cases hw : s.watching
  · rw [if_pos hw] at hst
    rcases hfile : Config.fromFile file with _ | new
    · rw [hfile, Option.some.injEq] at hst
      rw [← hst]
      exact Rule.quiet (by simp only [Forwarded, hfile])
    · simp only [hfile] at hst
      by_cases hclosed : s.pc = .returned ∧ changeEvents s.old new ≠ []
      · rw [if_pos hclosed, Option.some.injEq] at hst
        rw [← hst]
        refine Rule.quiet ?_
        simp only [Forwarded, hfile]
        exact Or.inl hclosed
      · rw [if_neg hclosed, Option.some.injEq] at hst
        rw [← hst]
        exact Rule.edited hfile hclosed
  · simp only [if_neg hw, reduceCtorEq] at hst

theorem update_rule (hst : s.update = some s') : Rule s .update s' := by
  unfold update at hst
  by_cases hpc : s.pc = .server ∨ s.pc = .client
  · rw [if_pos hpc] at hst
    rcases hq : s.updateRx with _ | ⟨e, rest⟩
    · simp only [hq, reduceCtorEq] at hst
    · simp only [hq, Option.some.injEq] at hst
      rw [← hst]
      exact Rule.updated hq
  · simp only [if_neg hpc, reduceCtorEq] at hst

theorem rule_of_step (hst : s.step a = some s') : Rule s a s' := by
  cases a with
  | load file =>
      simp only [step, load] at hst
      by_cases hpc : s.pc = .loading
      · rw [if_pos hpc] at hst
        rcases hfile : Config.fromFile file with _ | c
        · rw [hfile, Option.some.injEq] at hst
          rw [← hst]
          exact Rule.quiet trivial
        · simp only [hfile, Option.some.injEq] at hst
          rw [← hst]
          exact Rule.quiet trivial
      · simp only [if_neg hpc, reduceCtorEq] at hst
  | edit file => exact edit_rule hst
  | call e =>
      rw [← Option.some.inj hst]
      exact Rule.called
  | update => exact update_rule hst
  | finish =>
      simp only [step, finish, Option.ite_none_right_eq_some, Option.some.injEq] at hst
      rw [← hst.2]
      exact Rule.quiet trivial
  | unwatch =>
      simp only [step, unwatch, Option.ite_none_right_eq_some, Option.some.injEq] at hst
      rw [← hst.2]
      exact Rule.quiet trivial

/-! ### The two channels -/

/-- The watcher's channel keeps all that was ever sent into it. -/
def Stays (originCfg : Config (List β)) (s : Run β) : Prop :=
  s.eventRx = .general originCfg :: s.sent

/-- The instance has received, or will, what the caller sent. -/
def Called (s : Run β) : Prop := s.received ++ s.updateRx = s.called

theorem step_stays {originCfg : Config (List β)} (h : s.Stays originCfg)
    (hst : s.step a = some s') : s'.Stays originCfg := by
  cases rule_of_step hst with
  | edited hfile hopen =>
      simp only [Stays] at h ⊢
      rw [h, List.cons_append]
  | quiet | called | updated => exact h

theorem step_called (h : s.Called) (hst : s.step a = some s') : s'.Called := by
  cases rule_of_step hst with
  | called =>
      simp only [Called] at h ⊢
      rw [← List.append_assoc, h]
  | updated hq =>
      simp only [Called] at h ⊢
      rw [← h, hq, List.append_assoc, List.singleton_append]
  | quiet | edited => exact h

/-- Nothing is lost in one action exactly if what the watcher sends with it
    was put into the caller's channel before. -/
theorem step_delivered_iff (hcalled : s.Called) (h : s.Delivered) (hst : s.step a = some s') :
    s'.Delivered ↔ s.Forwarded a := by
  have hcalled' := step_called hcalled hst
  cases rule_of_step hst with
  | quiet hf => exact ⟨fun _ => hf, fun _ => h⟩
  | edited hfile hopen =>
      simp only [Delivered, Forwarded, hfile]
      rw [show s.received ++ s.updateRx = s.called from hcalled]
      exact ⟨Or.inr, fun hor => hor.resolve_left hopen⟩
  | called =>
      refine ⟨fun _ => trivial, fun _ => ?_⟩
      simp only [Delivered] at h ⊢
      rw [← List.append_assoc]
      exact h.trans (List.sublist_append_left _ _)
  | updated hq =>
      refine ⟨fun _ => trivial, fun _ => ?_⟩
      simp only [Delivered] at h ⊢
      rw [List.append_assoc, List.singleton_append, ← hq]
      exact h

end Steps

/-- In every run the watcher's channel holds all it ever sent, and what the
    instance receives is what the caller sent. -/
theorem events_stay {args : Cli} {originCfg : Config (List β)} {s : Run β}
    (h : Reaches step (fun _ _ => True) (start args originCfg) s) :
    s.eventRx = .general originCfg :: s.sent ∧ s.received ++ s.updateRx = s.called := by
  have hstays : s.Stays originCfg := h.invariant (fun _ _ _ hi _ hst => step_stays hi hst) rfl
  have hcalled : s.Called := h.invariant (fun _ _ _ hi _ hst => step_called hi hst) rfl
  exact ⟨hstays, hcalled⟩

/-- Along a run no change that the watcher sends is lost to the instance, in
    any state, exactly if each was put into the caller's channel before. -/
theorem delivered_throughout_iff (args : Cli) (originCfg : Config (List β))
    (as : List (RunAction β)) :
    Throughout step Delivered (start args originCfg) as ↔
      Legal step Forwarded (start args originCfg) as :=
  throughout_iff_legal (fun _ _ _ hi hst => step_called hi hst)
    (fun _ _ _ hi h hst => step_delivered_iff hi h hst) as _ rfl (List.Sublist.refl _)

/-- A server without services is started, and one is added to the file. -/
def edited : List (RunAction UInt8) :=
  [.load (some (parsedServer ∅)), .edit (some (parsedServer parsedSsh))]

/-- One change is sent, and the server has nothing to receive. -/
theorem edit_lost :
    ¬ (∀ s, Reaches step (fun _ _ => True) (start ⟨true, false⟩ (parsedServer ∅)) s →
      s.Delivered) ∧
    ∃ s, exec step (start ⟨true, false⟩ (parsedServer ∅)) edited = some s ∧ s.pc = .server ∧
      s.sent.length = 1 ∧ s.received = [] ∧ s.updateRx = [] := by
  have hend : (exec step (start ⟨true, false⟩ (parsedServer ∅)) edited).map (fun s =>
      (s.pc, s.sent.length, s.received.length, s.updateRx.length)) = some (.server, 1, 0, 0) := by
    decide
  rcases hrun : exec step (start ⟨true, false⟩ (parsedServer ∅)) edited with _ | s
  · rw [hrun] at hend
    simp only [Option.map_none, reduceCtorEq] at hend
  · rw [hrun, Option.map_some, Option.some.injEq, Prod.mk.injEq, Prod.mk.injEq,
      Prod.mk.injEq, List.length_eq_zero_iff, List.length_eq_zero_iff] at hend
    refine ⟨fun h => ?_, s, rfl, hend⟩
    have hdelivered := (h s (reaches_of_exec _ _ _ hrun)).length_le
    rw [hend.2.1, hend.2.2.1, hend.2.2.2] at hdelivered
    exact absurd hdelivered (by decide)

end Run

end Rathole
