import Rathole.Process
import Rathole.Server.Inversion

/-!
# The Services of a Program

What the tasks of a server and of a client do with the services they are for.
Everything a server has looked up comes from its map, and everything in the
map from the start or a change. A task of a client connects only after it has
resolved an address, and panics only in a connect or for want of a token.

## Main definitions

* `Server.Carries`: A property of all the services of a server.
* `ControlTask.Resolved`: The address has been resolved.

## Theorems

* `Server.carries_of_step`, `Server.service_of_aborted`: What a server does.
* `ControlTask.resolved_of_act`, `ControlTask.aborted_of_act`: What a task
  does.
* `unwrapEvents_ok`: The watcher does not panic.
-/


namespace Rathole

open FairLock Completion Transition

variable {β : Type}

/-! ### Servers -/

namespace Server

/-- The service a handshake has looked up. -/
def Phase.service : Phase β → Option (ServerServiceConfig (List β))
  | .readingAuth _ _ cfg => some cfg
  | .locking _ _ cfg => some cfg
  | .sendingAck _ _ cfg => some cfg
  | _ => none

variable [DecidableEq β] {E : Env β} {s t : Server β} {a : Action β}
  {G : ServerServiceConfig (List β) → Prop}

/-- Every service the server has, has looked up, or is about to add. -/
structure Carries (G : ServerServiceConfig (List β) → Prop) (s : Server β) : Prop where
  services : ∀ d cfg, s.services.lookup d = some cfg → G cfg
  conns : ∀ (i : Nat) c cfg, s.conns[i]? = some c → c.phase.service = some cfg → G cfg
  main : ∀ cfg, s.main = .changing (.add cfg) → G cfg

/-- A handshake gets its service from the map. -/
theorem service_of_connMove {i : Nat} {c c' : Conn β} {cfg : ServerServiceConfig (List β)}
    (h : ConnMove E s a i c c') (hcfg : c'.phase.service = some cfg) :
    c.phase.service = some cfg ∨ ∃ d, s.services.lookup d = some cfg := by
  cases h with
  | same | arrived | commanded | relayed | crashed => exact Or.inl hcfg
  | known hp hlookup htoken =>
      simp only [Phase.service, Option.some.injEq] at hcfg
      rw [← hcfg]
      exact Or.inr ⟨_, hlookup⟩
  | matched hp | locked hp =>
      simp only [hp, Phase.service] at hcfg ⊢
      exact Or.inl hcfg
  | _ => simp only [Phase.service, reduceCtorEq] at hcfg

theorem carries_of_step (hs : s.Carries G) (h : s.step E a = some t)
    (hadd : ∀ cfg, a = .reload (.add cfg) → G cfg) : t.Carries G := by
  constructor
  · intro d cfg hcfg
    rcases lookup_of_step h hcfg with hold | ⟨hmain, _⟩
    · exact hs.services d cfg hold
    · exact hs.main cfg hmain
  · intro i c cfg hc hcfg
    rcases conn_of_step h hc with ⟨c0, hc0, hmove⟩ | hnew
    · rcases service_of_connMove hmove hcfg with hold | ⟨d, hold⟩
      · exact hs.conns i c0 cfg hc0 hold
      · exact hs.services d cfg hold
    · simp only [hnew, Phase.service, reduceCtorEq] at hcfg
  · intro cfg hmain
    rcases main_of_step h hmain with hold | hact
    · exact hs.main cfg hold
    · exact hadd cfg hact

/-- Before the first accept there are none. -/
theorem conns_eq_nil_of_step (h : s.step E a = some t) (ha : a ≠ .accept)
    (hs : s.conns = []) : t.conns = [] := by
  have hlen := length_of_step h ha
  rw [hs] at hlen
  exact List.eq_nil_of_length_eq_zero hlen

/-- A task panics over a service without a token, or an HTTP service. -/
theorem service_of_aborted (hs : s.Carries G) (h : s.step E a = some t)
    (hab : t.aborted = true) :
    s.conns ≠ [] ∧ ∃ cfg, G cfg ∧ (cfg.token = none ∨ cfg.serviceType = .http) := by
  have hrun := running_of_step h
  have hconns : ∀ {i : Nat} {c : Conn β}, s.conns[i]? = some c → s.conns ≠ [] := by
    intro i c hc hnil
    rw [hnil] at hc
    cases hc
  cases rule_of_step h with
  | tokenless hc hp hcfg htoken =>
      exact ⟨hconns hc, _, hs.services _ _ hcfg, Or.inl htoken⟩
  | crashed hc hp hhttp =>
      exact ⟨hconns hc, _, hs.conns _ _ _ hc (by rw [hp]; rfl), Or.inr hhttp⟩
  | _ => exact absurd (hab.symm.trans hrun) (by decide)

end Server

/-! ### Clients -/

namespace Client

variable {A : Alphabet β} {service : ClientServiceConfig (List β)} {T : Nat}

/-- What is not a connect panics for want of a token. -/
theorem Run.token_of_panicked {told : Bool} {r : Run β} {a : RunAction β}
    (h : r.step A service T told a = some .panicked) :
    ∃ hs, r = .handshake hs ∧ a = .panic ∧ (hs.pc = .connecting ∨ service.token = none) := by
  cases r with
  | looping key l =>
      cases a with
      | loop b =>
          rcases Run.loop_cases h with ⟨_, l', _, hx⟩
          unfold Loop.result at hx
          rcases ho : l'.outcome with _ | ⟨_ | e⟩ <;> simp only [ho, reduceCtorEq] at hx
      | _ => simp only [Run.step, reduceCtorEq] at h
  | handshake hs =>
      cases a with
      | panic =>
          simp only [Run.step, Option.ite_none_right_eq_some, and_true] at h
          refine ⟨hs, rfl, rfl, ?_⟩
          cases hpc : hs.pc with
          | connecting => exact Or.inl rfl
          | sendingAuth nonce =>
              simp only [Handshake.canPanic, hpc, Option.isNone_iff_eq_none] at h
              exact Or.inr h
          | _ => simp only [Handshake.canPanic, hpc, Bool.false_eq_true] at h
      | advance =>
          simp only [Run.step] at h
          rcases hadv : hs.advance A service with _ | y
          · simp only [hadv, reduceCtorEq] at h
          · cases y <;> simp only [hadv, Option.some.injEq, reduceCtorEq] at h
      | receive chunk => simp only [Run.step, Option.some.injEq, reduceCtorEq] at h
      | fail => simp only [Run.step, Option.some.injEq, reduceCtorEq] at h
      | loop b => simp only [Run.step, reduceCtorEq] at h

/-- A task keeps its stage, starts a run, or gets on with the one it has. -/
theorem Task.stage_of_step {t u : Task β} {a : TaskAction β} (h : t.step A service T a = some u) :
    u.stage = t.stage ∨ u.stage = .running (.handshake Handshake.start) ∨
      ∃ r b x, t.stage = .running r ∧ a = .run b ∧
        r.step A service T (t.handle != .alive) b = some x ∧ u = t.continue x := by
  cases a with
  | run b =>
      simp only [Task.step] at h
      cases hstage : t.stage with
      | running r =>
          simp only [hstage, Option.map_eq_some_iff] at h
          rcases h with ⟨x, hx, hu⟩
          exact Or.inr (Or.inr ⟨r, b, x, rfl, rfl, hx, hu.symm⟩)
      | _ => simp only [hstage, reduceCtorEq] at h
  | retry =>
      simp only [Task.step] at h
      cases hstage : t.stage with
      | backoff e =>
          simp only [hstage, Option.some.injEq] at h
          rw [← h]
          exact Or.inr (Or.inl rfl)
      | _ => simp only [hstage, reduceCtorEq] at h
  | shutdown =>
      simp only [Task.step, Option.ite_none_right_eq_some, Option.some.injEq] at h
      rw [← h.2]
      exact Or.inl rfl
  | drop =>
      simp only [Task.step, Option.ite_none_right_eq_some, Option.some.injEq] at h
      rw [← h.2]
      exact Or.inl rfl

variable [DecidableEq β]

/-- The run has resolved the address of the server. -/
def Run.resolved : Run β → Bool
  | .handshake h => h.pc ≠ .resolving
  | .looping _ _ => true

/-- A run that goes on with the address of the server. -/
def RunStep.resolved : RunStep β → Bool
  | .going r => r.resolved
  | _ => false

/-- A task in a run that has the address of the server. -/
def Stage.resolved : Stage β → Bool
  | .running r => r.resolved
  | _ => false

/-- The address gets resolved by the first await of a run. -/
theorem Run.resolved_of_step {told : Bool} {r : Run β} {a : RunAction β} {x : RunStep β}
    (h : r.step A service T told a = some x) (hx : x.resolved = true) :
    r.resolved = true ∨ ∃ hs, r = .handshake hs ∧ hs.pc = .resolving ∧ a = .advance := by
  cases r with
  | looping key l => exact Or.inl rfl
  | handshake hs =>
      by_cases hpc : hs.pc = .resolving
      · cases a with
        | advance => exact Or.inr ⟨hs, rfl, hpc, rfl⟩
        | receive chunk =>
            rw [← Option.some.inj h] at hx
            simp only [RunStep.resolved, Run.resolved, Handshake.receive, hpc, ne_eq,
              not_true_eq_false, decide_false, Bool.false_eq_true] at hx
        | fail =>
            rw [← Option.some.inj h] at hx
            simp only [RunStep.resolved, Bool.false_eq_true] at hx
        | panic => simp only [Run.step, Handshake.canPanic, hpc, Bool.false_eq_true, if_false,
            reduceCtorEq] at h
        | loop b => simp only [Run.step, reduceCtorEq] at h
      · exact Or.inl (decide_eq_true hpc)

theorem Task.stage_continue (t : Task β) (x : RunStep β) :
    (t.continue x).stage.resolved = x.resolved ∧
      ((t.continue x).stage = .aborted ↔ x = .panicked) := by
  cases x with
  | going r => exact ⟨rfl, by simp only [Task.continue, reduceCtorEq]⟩
  | panicked => exact ⟨rfl, by simp only [Task.continue]⟩
  | returned res =>
      cases res with
      | ok v => exact ⟨rfl, by simp only [Task.continue, reduceCtorEq]⟩
      | error e =>
          by_cases halive : t.handle = .alive
          · simp only [Task.continue, if_pos halive, Stage.resolved, RunStep.resolved,
              reduceCtorEq, and_self]
          · simp only [Task.continue, if_neg halive, Stage.resolved, RunStep.resolved,
              reduceCtorEq, and_self]

end Client

namespace ControlTask

variable {A : Alphabet β} {T : UInt64} {k k' : ControlTask β} {a : Client.TaskAction β}

theorem service_of_act (h : k.act A T a = some k') : k'.service = k.service := by
  simp only [act, Option.map_eq_some_iff] at h
  rcases h with ⟨task, _, hk⟩
  rw [← hk]

variable [DecidableEq β]

/-- The task has resolved the address of the server, now or before. -/
def Resolved (k : ControlTask β) : Prop := k.task.stage.resolved = true ∨ k.established = true

/-- A task that has a control channel has resolved the address. -/
theorem resolved_of_looping {task : Client.Task β} (h : looping task = true) :
    task.stage.resolved = true := by
  unfold looping at h
  cases hstage : task.stage with
  | running r =>
      cases r with
      | looping key l => rfl
      | handshake hs => simp only [hstage, Bool.false_eq_true] at h
  | _ => simp only [hstage, Bool.false_eq_true] at h

/-- The address is resolved by the first await of a run. -/
theorem resolved_of_act (h : k.act A T a = some k') (hr : k'.Resolved) : k.Resolved ∨
    ∃ hs, k.task.stage = .running (.handshake hs) ∧ hs.pc = .resolving ∧ a = .run .advance := by
  simp only [act, Option.map_eq_some_iff] at h
  rcases h with ⟨task, hstep, hk⟩
  have hcases : task.stage.resolved = true ∨ k.established = true := by
    rw [← hk] at hr
    rcases hr with hr | hr
    · exact Or.inl hr
    · rcases (Bool.or_eq_true _ _).mp hr with he | hl
      · exact Or.inr he
      · exact Or.inl (resolved_of_looping hl)
  rcases hcases with hres | he
  · rcases Client.Task.stage_of_step hstep with hsame | hstart | ⟨r, c, x, hrun, ha, hx, hu⟩
    · exact Or.inl (Or.inl (by rw [← hsame]; exact hres))
    · rw [hstart] at hres
      cases hres
    · rw [hu, (Client.Task.stage_continue _ _).1] at hres
      rcases Client.Run.resolved_of_step hx hres with hr | ⟨hs, hr, hpc, hc⟩
      · exact Or.inl (Or.inl (by rw [hrun]; exact hr))
      · exact Or.inr ⟨hs, by rw [hrun, hr], hpc, by rw [ha, hc]⟩
  · exact Or.inl (Or.inr he)

/-- A task panics in a connect, or for want of a token. -/
theorem aborted_of_act (h : k.act A T a = some k') (hab : k'.task.stage = .aborted) :
    k.task.stage = .aborted ∨ ∃ hs, k.task.stage = .running (.handshake hs) ∧ a = .run .panic ∧
      (hs.pc = .connecting ∨ k.service.token = none) := by
  simp only [act, Option.map_eq_some_iff] at h
  rcases h with ⟨task, hstep, hk⟩
  have habt : task.stage = .aborted := by
    rw [← hk] at hab
    exact hab
  rcases Client.Task.stage_of_step hstep with hsame | hstart | ⟨r, c, x, hrun, ha, hx, hu⟩
  · exact Or.inl (hsame.symm.trans habt)
  · simp only [hstart, reduceCtorEq] at habt
  · rw [hu, (Client.Task.stage_continue _ _).2] at habt
    rw [habt] at hx
    rcases Client.Run.token_of_panicked hx with ⟨hs, hr, hc, hwhy⟩
    exact Or.inr ⟨hs, by rw [hrun, hr], by rw [ha, hc], hwhy⟩

end ControlTask

/-! ### The watcher -/

/-- A block that differs is there in both, if it is there in one. -/
theorem unwrapBlocks_ok {T : Type} {beq : T → T → Bool} {old new : Option T}
    (h : old.isSome = new.isSome) : unwrapBlocks beq old new = .ok () := by
  unfold unwrapBlocks
  by_cases hb : optionBeq beq old new = true
  · rw [if_pos hb]
    rfl
  · rw [if_neg hb]
    cases old with
    | none =>
        cases new with
        | none => exact absurd rfl hb
        | some _ => simp only [Option.isSome_none, Option.isSome_some, Bool.false_eq_true] at h
    | some _ =>
        cases new with
        | none => simp only [Option.isSome_none, Option.isSome_some, Bool.true_eq_false] at h
        | some _ => rfl

theorem unwrapEvents_ok [DecidableEq β] (old new : Config (List β)) :
    unwrapEvents old new = .ok () := by
  unfold unwrapEvents
  by_cases hb : old.beq new = true
  · rw [if_pos hb]
    rfl
  · rw [if_neg hb]
    by_cases hdiff : old.server.isSome ≠ new.server.isSome ∨
        old.client.isSome ≠ new.client.isSome
    · rw [if_pos hdiff]
      rfl
    · rw [if_neg hdiff]
      simp only [not_or, not_not] at hdiff
      simp only [bind_eq_ok]
      exact ⟨(), unwrapBlocks_ok hdiff.1, unwrapBlocks_ok hdiff.2⟩

end Rathole
