import Rathole.Server.Inversion

/-!
# Who Changes the Control Channels

The lock around `control_channels`, step by step. A handshake that writes its
`Ok` has the write guard, and a data channel that waits for room in a queue
has a read guard (`Guarded`). Only a task with the write guard changes the
map. So nothing but the handshake itself changes the map while its `Ok` is
under way, and nothing at all does while a data channel is being delivered.

## Main definitions

* `Server.Phase.guard`: The guard a connection has at its await.
* `Server.Guarded`: Every connection has it, and the lock is sound.
* `Server.Grip`: What a step does to the lock.

## Theorems

* `grip_of_rule`: Every step is one of these.
* `guarded_of_step`: A step keeps `Guarded`.
* `channels_of_guard`: The control channels stay while a connection is at an
  await with a guard.
-/

namespace Rathole

open FairLock FairLock.RwLock Numbered Transition

namespace Server


variable {β : Type}

/-- The guard of `control_channels` a connection has at its await. -/
def Phase.guard : Phase β → Option Mode
  | .sendingAck _ _ _ => some .write
  | .delivering _ => some .read
  | _ => none

/-- The lock of `control_channels` is sound, and every connection has the
    guard of its await. -/
structure Guarded (s : Server β) : Prop where
  sound : s.channelsLock.Sound
  holds : ∀ (i : Nat) (c : Conn β) (m : Mode), s.conns[i]? = some c → c.phase.guard = some m →
    s.channelsLock.Holds (.conn i) m

/-- The task that takes an action. What pools do is counted with the main
    loop: neither touches a connection's guard. -/
def Action.task (a : Action β) : Task :=
  match a.conn with
  | some i => .conn i
  | none => .main

/-- What a step does to the lock of `control_channels`: nothing, or something
    by a task that then has no guard at its await, or its task goes on with a
    guard it was granted. -/
inductive Grip (s t : Server β) (a : Action β) : Prop
  | kept (hlock : t.channelsLock = s.channelsLock) (hchannels : t.channels = s.channels)
      (hphase : ∀ (j : Nat) (c' : Conn β) (m : Mode), t.conns[j]? = some c' →
        c'.phase.guard = some m → ∃ c, s.conns[j]? = some c ∧ c.phase.guard = some m)
  | acted (hacts : Acts a.task s.channelsLock t.channelsLock)
      (hchannels : t.channels = s.channels ∨ s.channelsLock.Holds a.task .write)
      (hphase : ∀ (j : Nat) (c' : Conn β) (m : Mode), t.conns[j]? = some c' →
        c'.phase.guard = some m → a.task ≠ .conn j ∧ s.conns[j]? = some c')
  | entered (i : Nat) (m : Mode) (ha : a.task = .conn i)
      (hbefore : ∀ c, s.conns[i]? = some c → c.phase.guard = none)
      (hheld : s.channelsLock.Holds (.conn i) m) (hlock : t.channelsLock = s.channelsLock)
      (hchannels : t.channels = s.channels ∨ s.channelsLock.Holds a.task .write)
      (hphase : ∀ (j : Nat) (c' : Conn β) (m' : Mode), t.conns[j]? = some c' →
        c'.phase.guard = some m' → (j = i ∧ m' = m) ∨ s.conns[j]? = some c')

section Steps

variable {E : Env β} {s t : Server β} {a : Action β} {i : Nat}

/-- No connection moves. -/
theorem Grip.of_conns (hlock : t.channelsLock = s.channelsLock)
    (hchannels : t.channels = s.channels) (hconns : t.conns = s.conns) : Grip s t a := by
  refine Grip.kept hlock hchannels (fun j c' m hc' hm => ?_)
  rw [hconns] at hc'
  exact ⟨c', hc', hm⟩

/-- A connection moves on to an await without a guard, or stays at its own. -/
theorem Grip.of_set {c c' : Conn β} (hlock : t.channelsLock = s.channelsLock)
    (hchannels : t.channels = s.channels) (hc : s.conns[i]? = some c)
    (hconns : t.conns = s.conns.set i c') (hphase : c'.phase.guard = none ∨ c'.phase = c.phase) :
    Grip s t a := by
  refine Grip.kept hlock hchannels (fun j b m hb hm => ?_)
  rw [hconns] at hb
  rcases getElem?_set_cases hb with ⟨hj, hbc⟩ | ⟨_, hold⟩
  · rw [hbc] at hm
    rcases hphase with hnone | hsame
    · rw [hnone] at hm
      simp only [reduceCtorEq] at hm
    · rw [hj]
      exact ⟨c, hc, by rw [← hsame]; exact hm⟩
  · exact ⟨b, hold, hm⟩

/-- A connection asks for a guard, or gives it back, and moves on without. -/
theorem Grip.of_acts {c' : Conn β} (ha : a.task = .conn i)
    (hacts : Acts (.conn i) s.channelsLock t.channelsLock)
    (hchannels : t.channels = s.channels ∨ s.channelsLock.Holds (.conn i) .write)
    (hconns : t.conns = s.conns.set i c') (hphase : c'.phase.guard = none) : Grip s t a := by
  refine Grip.acted (by rwa [ha]) (by rwa [ha]) (fun j b m hb hm => ?_)
  rw [hconns] at hb
  rcases getElem?_set_cases hb with ⟨_, hbc⟩ | ⟨hj, hold⟩
  · rw [hbc, hphase] at hm
    simp only [reduceCtorEq] at hm
  · refine ⟨fun heq => hj ?_, hold⟩
    rw [ha, Task.conn.injEq] at heq
    exact heq.symm

/-- The main loop acts, and no connection moves. -/
theorem Grip.of_main (ha : a.task = .main) (hacts : Acts .main s.channelsLock t.channelsLock)
    (hchannels : t.channels = s.channels ∨ s.channelsLock.Holds .main .write)
    (hconns : t.conns = s.conns) : Grip s t a := by
  refine Grip.acted (by rwa [ha]) (by rwa [ha]) (fun j c' m hc' _ => ?_)
  rw [hconns] at hc'
  refine ⟨?_, hc'⟩
  rw [ha]
  simp only [ne_eq, reduceCtorEq, not_false_eq_true]

/-- A connection goes on with a guard it was granted. -/
theorem Grip.of_granted {c c' : Conn β} {m : Mode} (ha : a.task = .conn i)
    (hc : s.conns[i]? = some c) (hbefore : c.phase.guard = none)
    (hheld : s.channelsLock.Holds (.conn i) m) (hlock : t.channelsLock = s.channelsLock)
    (hchannels : t.channels = s.channels ∨ s.channelsLock.Holds (.conn i) .write)
    (hconns : t.conns = s.conns.set i c') (hphase : c'.phase.guard = some m) : Grip s t a := by
  have hnone : ∀ b, s.conns[i]? = some b → b.phase.guard = none := by
    intro b hb
    rw [hc, Option.some.injEq] at hb
    rw [← hb]
    exact hbefore
  refine Grip.entered i m ha hnone hheld hlock (by rwa [ha]) (fun j b m' hb hm => ?_)
  rw [hconns] at hb
  rcases getElem?_set_cases hb with ⟨hj, hbc⟩ | ⟨_, hold⟩
  · rw [hbc, hphase, Option.some.injEq] at hm
    exact Or.inl ⟨hj, hm.symm⟩
  · exact Or.inr hold

theorem guarded_initial (services : HashMap (Digest β) (ServerServiceConfig (List β))) :
    Guarded (initial services) where
  sound := sound_free
  holds := fun i c m hc _ => by simp only [initial, List.getElem?_nil, reduceCtorEq] at hc

/-- The control channels stay, or the task that acts has the write guard. -/
theorem Grip.writer (h : Grip s t a) :
    t.channels = s.channels ∨ s.channelsLock.Holds a.task .write := by
  cases h with
  | kept _ hchannels _ => exact Or.inl hchannels
  | acted _ hchannels _ => exact hchannels
  | entered _ _ _ _ _ _ hchannels _ => exact hchannels

/-- A guard keeps every other task from changing the control channels. -/
theorem Guarded.channels_eq (hg : Guarded s) (h : Grip s t a) {c : Conn β} {m : Mode}
    (hc : s.conns[i]? = some c) (hm : c.phase.guard = some m) (ha : a.task ≠ .conn i) :
    t.channels = s.channels := by
  have hheld := hg.holds i c m hc hm
  rcases h.writer with hsame | hwrite
  · exact hsame
  · exfalso
    cases m with
    | read => exact no_writer_of_reader hg.sound hheld hwrite
    | write =>
        -- There is one writer, and it is this connection.
        have hone := hg.sound.exclusive _ hheld
        rw [Holds, hone, List.mem_singleton, Prod.mk.injEq] at hwrite
        exact ha hwrite.1

/-! ### All steps -/

variable [DecidableEq β]

/-- What each way through an action does to the lock. -/
theorem grip_of_rule (hg : Guarded s) (h : Rule E s a t) : Grip s t a := by
  cases h with
  | accepted =>
      refine Grip.kept rfl rfl (fun j c' m hc' hguard => ?_)
      rcases getElem?_append_cases hc' with hold | ⟨_, hnew⟩
      · exact ⟨c', hold, hguard⟩
      · rw [hnew] at hguard
        simp only [Phase.guard, reduceCtorEq] at hguard
  -- A guard is asked for, or given back.
  | sought => exact Grip.of_acts rfl (Acts.request _ .read) (Or.inl rfl) rfl rfl
  | matched => exact Grip.of_acts rfl (Acts.request _ .write) (Or.inl rfl) rfl rfl
  | failedAcking => exact Grip.of_acts rfl (Acts.release _ .write) (Or.inl rfl) rfl rfl
  | absent | delivered | orphaned =>
      exact Grip.of_acts rfl (Acts.release _ .read) (Or.inl rfl) rfl rfl
  | @acknowledged i c d key cfg channels hc hp =>
      have hheld : s.channelsLock.Holds (.conn i) .write :=
        hg.holds i c .write hc (by rw [hp]; rfl)
      exact Grip.of_acts rfl (Acts.release _ .write) (Or.inr hheld) rfl rfl
  -- A guard has been granted.
  | locked hc hp hheld =>
      exact Grip.of_granted rfl hc (by rw [hp]; rfl) hheld rfl (Or.inr hheld) rfl rfl
  | found hc hp hheld =>
      exact Grip.of_granted rfl hc (by rw [hp]; rfl) hheld rfl (Or.inl rfl) rfl rfl
  -- The main loop.
  | added | deleted | closing => exact Grip.of_main rfl (Acts.request _ .write) (Or.inl rfl) rfl
  | dropped hm hheld | replaced hm hheld | cleared hm hheld =>
      exact Grip.of_main rfl (Acts.release _ .write) (Or.inr hheld) rfl
  | tokenless | unpooled | reloading => exact Grip.of_conns rfl rfl rfl
  -- A connection that stays at its await, and those that have no guard at the next.
  | arrived hc | crashed hc => exact Grip.of_set rfl rfl hc rfl (Or.inr rfl)
  | commanded hc hp | relayed hc hp => exact Grip.of_set rfl rfl hc rfl (Or.inr rfl)
  | garbledHello hc | greeted hc | garbledAuth hc | mismatched hc | unknown hc | known hc
  | answered hc | refused hc | rejected hc | started hc | failed hc | failedRefusing hc
  | ended hc => exact Grip.of_set rfl rfl hc rfl (Or.inl rfl)
  | taken hx hq hc => exact Grip.of_set rfl rfl hc rfl (Or.inl rfl)

/-- The step lemma for the lock. -/
theorem grip_of_step (hg : Guarded s) (h : s.step E a = some t) : Grip s t a :=
  grip_of_rule hg (rule_of_step h)

theorem guarded_of_step (hg : Guarded s) (h : s.step E a = some t) : Guarded t := by
  cases grip_of_step hg h with
  -- A guard that is held stays with the connection at its await.
  | kept hlock _ hphase =>
      refine ⟨by rw [hlock]; exact hg.sound, fun j c' m hc' hm => ?_⟩
      rcases hphase j c' m hc' hm with ⟨c, hc, hguard⟩
      rw [hlock]
      exact hg.holds j c m hc hguard
  -- The task that acts has no guard at its await, so it is not the one that holds it.
  | acted hacts _ hphase =>
      refine ⟨hacts.sound hg.sound, fun j c' m hc' hm => ?_⟩
      rcases hphase j c' m hc' hm with ⟨hne, hc⟩
      exact hacts.holds hne.symm (hg.holds j c' m hc hm)
  | entered i m _ _ hheld hlock _ hphase =>
      refine ⟨by rw [hlock]; exact hg.sound, fun j c' m' hc' hm => ?_⟩
      rw [hlock]
      rcases hphase j c' m' hc' hm with ⟨hj, hmode⟩ | hc
      · rw [hj, hmode]
        exact hheld
      · exact hg.holds j c' m' hc hm

/-- While a connection stays at an await with a guard, be it that of a
    handshake that acknowledges or of a data channel that is delivered, the
    control channels stay. -/
theorem channels_of_guard (hg : Guarded s) (h : s.step E a = some t) {c c' : Conn β} {m m' : Mode}
    (hc : s.conns[i]? = some c) (hm : c.phase.guard = some m) (hc' : t.conns[i]? = some c')
    (hm' : c'.phase.guard = some m') : t.channels = s.channels := by
  have hgrip := grip_of_step hg h
  cases hgrip with
  | kept _ hchannels _ => exact hchannels
  | acted hacts hchannels hphase =>
      exact hg.channels_eq (Grip.acted hacts hchannels hphase) hc hm (hphase i c' m' hc' hm').1
  | entered k n ha hbefore hheld hlock hchannels hphase =>
      by_cases hk : k = i
      · -- It would have come to its await just now.
        rw [hbefore c (by rw [hk]; exact hc)] at hm
        simp only [reduceCtorEq] at hm
      · refine hg.channels_eq (Grip.entered k n ha hbefore hheld hlock hchannels hphase) hc hm ?_
        rw [ha, ne_eq, Task.conn.injEq]
        exact hk

end Steps

end Server

end Rathole
