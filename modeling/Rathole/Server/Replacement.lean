import Rathole.Server.Booked
import Rathole.Server.Reload

/-!
# Replacing a Control Channel

A handshake that has accepted the digest takes the old control channel of its
service out of `control_channels`, writes `Ok`, and puts the new one in, all
under the write guard. If the connection breaks in between, the function
returns with the old control channel gone. At every other point at which a
handshake can fail it has not touched the map yet.

`Replacing` is the server together with the control channels as they should
be: changed when a handshake is complete, by a reload and by the shutdown, and
by nothing else.

## Main definitions

* `Replacing`, `Replacing.step`: The server with the control channels that
  should be there.
* `Replacing.Intact`: They are there.
* `Replacing.Spares`: No handshake fails after it has taken one out.

## Theorems

* `acking_of_step`: Which handshakes are replacing a control channel.
* `intact_of_step`: What one step preserves.
* `intact_throughout_iff`: When the control channels are intact in all of a
  run.
* `failed_ack_drops`: A run in which they are not.
-/

namespace Rathole

open FairLock FairLock.RwLock Numbered Transition


namespace MultiMap

variable {κ₁ κ₂ υ : Type}

theorem ext_items {m m' : MultiMap κ₁ κ₂ υ} (h : m.items = m'.items) : m = m' := by
  cases m
  cases m'
  simp only at h
  subst h
  rfl

theorem remove1_remove1 [DecidableEq κ₁] (m : MultiMap κ₁ κ₂ υ) (k : κ₁) :
    ((m.remove1 k).2.remove1 k).2 = (m.remove1 k).2 := by
  refine ext_items ?_
  simp only [remove1, restrict, List.filter_filter, Bool.and_self]

/-- Nothing is taken out exactly if nothing is there. -/
theorem remove1_eq_self_iff [DecidableEq κ₁] (m : MultiMap κ₁ κ₂ υ) (k : κ₁) :
    (m.remove1 k).2 = m ↔ m.get1 k = none := by
  constructor
  · intro h
    by_contra hsome
    rcases Option.ne_none_iff_exists'.mp hsome with ⟨v, hv⟩
    rcases get1_eq_some_iff.mp hv with ⟨k₂, hin⟩
    rw [← h, mem_remove1_iff] at hin
    exact hin.2 rfl
  · intro h
    refine ext_items (List.filter_eq_self.mpr (fun x hx => ?_))
    -- An item with the key would be found.
    simp only [ne_eq, decide_not, Bool.not_eq_true', decide_eq_false_iff_not]
    intro hk
    have hfound : m.get1 k = some x.2.2 :=
      get1_eq_some_iff.mpr ⟨x.2.1, by rw [← hk]; exact hx⟩
    rw [h] at hfound
    simp only [reduceCtorEq] at hfound

end MultiMap

variable {β : Type}

namespace Server

/-- The service whose control channel a handshake has taken out. -/
def Phase.acking : Phase β → Option (Digest β)
  | .sendingAck d _ _ => some d
  | _ => none

/-- A handshake is replacing the control channel of the service. -/
def Acking (s : Server β) (d : Digest β) : Prop :=
  ∃ (i : Nat) (c : Conn β), s.conns[i]? = some c ∧ c.phase.acking = some d

end Server

/-- The server, and the control channels that should be there. -/
structure Replacing (β : Type) where
  server : Server β
  channels : MultiMap (Digest β) (Digest β) Nat

namespace Replacing

open Server

/-- No control channel is there, and none should be. -/
def initial (services : HashMap (Digest β) (ServerServiceConfig (List β))) : Replacing β where
  server := Server.initial services
  channels := MultiMap.new

/-- What should be there after an action that leads to `t`. -/
def after (g : Replacing β) (t : Server β) : Server.Action β →
    MultiMap (Digest β) (Digest β) Nat
  -- The handshake is complete, if it was its `Ok` that was written.
  | .write i => match (g.server.conns[i]?).bind (fun c => c.phase.acking) with
    | some _ => t.channels
    | none => g.channels
  | .reloadChannels | .clear => t.channels
  | _ => g.channels

/-- A step of the server, and what should be there after it. -/
def step [DecidableEq β] (E : Server.Env β) (g : Replacing β) (a : Server.Action β) :
    Option (Replacing β) :=
  (g.server.step E a).map (fun t => { server := t, channels := g.after t a })

/-- The control channels are there, but for one that a handshake is just
    replacing. -/
structure Intact [DecidableEq β] (g : Replacing β) : Prop where
  idle : (∀ d, ¬ g.server.Acking d) → g.server.channels = g.channels
  replacing : ∀ d, g.server.Acking d → g.server.channels = (g.channels.remove1 d).2

/-- A handshake that fails when it has taken the old control channel out has
    not found one. -/
def Spares [DecidableEq β] (g : Replacing β) : Server.Action β → Prop
  | .fail i _ => ∀ c d, g.server.conns[i]? = some c → c.phase.acking = some d →
      g.channels.get1 d = none
  | _ => True

end Replacing

namespace Server

variable {E : Env β} {s t : Server β} {a : Action β} {i : Nat} {c c' : Conn β} {d : Digest β}

theorem guard_of_acking {p : Phase β} (h : p.acking = some d) : p.guard = some .write := by
  cases p with
  | sendingAck => rfl
  | _ => simp only [Phase.acking, reduceCtorEq] at h

/-- Only one task has the write guard. -/
theorem Guarded.acking_unique (hg : Guarded s) {j : Nat} {d' : Digest β}
    (hc : s.conns[i]? = some c) (hd : c.phase.acking = some d) (hc' : s.conns[j]? = some c')
    (hd' : c'.phase.acking = some d') : i = j := by
  have hi := hg.holds i c .write hc (guard_of_acking hd)
  have hj := hg.holds j c' .write hc' (guard_of_acking hd')
  rw [Holds, hg.sound.exclusive _ hi, List.mem_singleton, Prod.mk.injEq, Task.conn.injEq] at hj
  exact hj.1.symm

/-- While another task has the write guard no handshake is replacing. -/
theorem Guarded.not_acking (hg : Guarded s) {task : Task}
    (hheld : s.channelsLock.Holds task .write)
    (hother : ∀ i c, s.conns[i]? = some c → task = .conn i → c.phase.acking = none) :
    ¬ s.Acking d := by
  rintro ⟨i, c, hc, hd⟩
  have hi := hg.holds i c .write hc (guard_of_acking hd)
  rw [Holds, hg.sound.exclusive _ hheld, List.mem_singleton, Prod.mk.injEq] at hi
  rw [hother i c hc hi.1.symm] at hd
  simp only [reduceCtorEq] at hd

/-- A connection moves between awaits at which nothing has been taken out. -/
theorem acking_of_set (hc : s.conns[i]? = some c) (hconns : t.conns = s.conns.set i c')
    (hphase : c'.phase.acking = c.phase.acking) (d : Digest β) : t.Acking d ↔ s.Acking d := by
  constructor
  · rintro ⟨j, b, hb, hd⟩
    rw [hconns] at hb
    rcases getElem?_set_cases hb with ⟨hj, hbc⟩ | ⟨_, hold⟩
    · rw [hbc, hphase] at hd
      exact ⟨i, c, hc, hd⟩
    · exact ⟨j, b, hold, hd⟩
  · rintro ⟨j, b, hb, hd⟩
    by_cases hij : i = j
    · subst hij
      rw [hc, Option.some.injEq] at hb
      refine ⟨i, c', ?_, by rw [hphase, hb, hd]⟩
      rw [hconns]
      exact getElem?_updated hc
    · refine ⟨j, b, ?_, hd⟩
      rw [hconns]
      exact (List.getElem?_set_ne hij).trans hb

theorem acking_of_conns (hconns : t.conns = s.conns) (d : Digest β) :
    t.Acking d ↔ s.Acking d := by
  unfold Acking
  rw [hconns]

/-- An action that is none of those that complete a handshake or end it while
    its `Ok` is written, and is not the main loop's change of the map. -/
def Quiet (s : Server β) : Action β → Prop
  | .write i | .fail i _ => ∀ c, s.conns[i]? = some c → c.phase.acking = none
  | .reloadChannels | .clear => False
  | _ => True

theorem quiet_of_phase {n : Nat} (hc : s.conns[i]? = some c) (h : c.phase.acking = none) :
    s.Quiet (.write i) ∧ s.Quiet (.fail i n) := by
  have hall : ∀ b, s.conns[i]? = some b → b.phase.acking = none := by
    intro b hb
    rw [hc, Option.some.injEq] at hb
    rw [← hb, h]
  exact ⟨hall, hall⟩

/-- The handshake that was replacing goes on, and there is no other. -/
theorem Guarded.idle_of_set (hg : Guarded s) (hc : s.conns[i]? = some c)
    (hd : c.phase.acking = some d) (hconns : t.conns = s.conns.set i c')
    (hphase : c'.phase.acking = none) (d' : Digest β) : ¬ t.Acking d' := by
  rintro ⟨j, b, hb, hd'⟩
  rw [hconns] at hb
  rcases getElem?_set_cases hb with ⟨_, hbc⟩ | ⟨hj, hold⟩
  · rw [hbc, hphase] at hd'
    simp only [reduceCtorEq] at hd'
  · exact hj (hg.acking_unique hc hd hold hd').symm

/-- What a step is to the handshakes that are replacing a control channel. -/
inductive AckMove [DecidableEq β] (s t : Server β) : Action β → Prop
  | same {a : Action β} (hacking : ∀ d, t.Acking d ↔ s.Acking d)
      (hchannels : t.channels = s.channels) (hquiet : s.Quiet a) : AckMove s t a
  | locked {i : Nat} {d : Digest β} (hidle : ∀ d', ¬ s.Acking d')
      (hacking : ∀ d', t.Acking d' ↔ d' = d)
      (hchannels : t.channels = (s.channels.remove1 d).2) : AckMove s t (.lock i)
  | completed {i : Nat} {c : Conn β} {d : Digest β} (hc : s.conns[i]? = some c)
      (hd : c.phase.acking = some d) (hidle : ∀ d', ¬ t.Acking d') : AckMove s t (.write i)
  | crashed {i : Nat} {c : Conn β} {d : Digest β} (hc : s.conns[i]? = some c)
      (hd : c.phase.acking = some d) (hacking : ∀ d', t.Acking d' ↔ s.Acking d')
      (hchannels : t.channels = s.channels) : AckMove s t (.write i)
  | broken {i n : Nat} {c : Conn β} {d : Digest β} (hc : s.conns[i]? = some c)
      (hd : c.phase.acking = some d) (hidle : ∀ d', ¬ t.Acking d')
      (hchannels : t.channels = s.channels) : AckMove s t (.fail i n)
  | main {a : Action β} (ha : a = .reloadChannels ∨ a = .clear) (hidle : ∀ d, ¬ t.Acking d) :
      AckMove s t a

variable [DecidableEq β]

theorem ackMove_of_fail {n : Nat} (hg : Guarded s) (h : s.step E (.fail i n) = some t)
    (hchannels : t.channels = s.channels) : AckMove s t (.fail i n) := by
  rcases fail_cases h with ⟨c, sent, hc, hconns, _, _, hclaim⟩
  rcases hclaim with ⟨hnone, _⟩ | ⟨⟨d, key, cfg, hp⟩, _⟩
  · -- Without a claim it has not taken anything out.
    have hphase : c.phase.acking = none := by
      cases hp : c.phase with
      | sendingAck => simp only [hp, Phase.claim, reduceCtorEq] at hnone
      | _ => rfl
    exact AckMove.same (acking_of_set hc hconns hphase.symm) hchannels
      (quiet_of_phase hc hphase).2
  · have hd : c.phase.acking = some d := by rw [hp]; rfl
    exact AckMove.broken hc hd (hg.idle_of_set hc hd hconns rfl) hchannels

/-- Every step is one of these. -/
theorem ackMove_of_step (hg : Guarded s) (hl : Lined s) (h : s.step E a = some t) :
    AckMove s t a := by
  cases rule_of_step h with
  | failed | failedRefusing | failedAcking => exact ackMove_of_fail hg h rfl
  | accepted =>
      refine AckMove.same (fun d => ⟨?_, ?_⟩) rfl trivial
      · rintro ⟨j, b, hb, hd⟩
        rcases getElem?_append_cases hb with hold | ⟨_, hnew⟩
        · exact ⟨j, b, hold, hd⟩
        · rw [hnew] at hd
          simp only [Phase.acking, reduceCtorEq] at hd
      · rintro ⟨j, b, hb, hd⟩
        exact ⟨j, b, getElem?_kept hb, hd⟩
  | arrived hc | commanded hc hp | relayed hc hp =>
      exact AckMove.same (acking_of_set hc rfl rfl) rfl trivial
  | garbledHello hc hp | greeted hc hp | sought hc hp | garbledAuth hc hp | matched hc hp
  | mismatched hc hp | unknown hc hp | known hc hp | absent hc hp | found hc hp
  | delivered hc hp | orphaned hc hp | ended hc hp =>
      exact AckMove.same (acking_of_set hc rfl (by rw [hp]; rfl)) rfl trivial
  | answered hc hp | refused hc hp | rejected hc hp | started hc hp =>
      have hphase : Phase.acking _ = none := congrArg Phase.acking hp
      exact AckMove.same (acking_of_set hc rfl hphase.symm) rfl
        (quiet_of_phase (n := 0) hc hphase).1
  | tokenless | unpooled | reloading | added | deleted | closing =>
      exact AckMove.same (acking_of_conns rfl) rfl trivial
  | @taken i n c x queue hx hq hc =>
      -- It was in the queue, so it is no handshake.
      rcases (hl n x hx).2 i (by rw [hq]; exact List.mem_cons_self) with ⟨b, hb, hp⟩
      rw [hc, Option.some.injEq] at hb
      exact AckMove.same (acking_of_set hc rfl (by rw [hb, hp]; rfl)) rfl trivial
  | @locked i c d key cfg hc hp hheld =>
      have hidle : ∀ d', ¬ s.Acking d' := by
        intro d'
        refine hg.not_acking hheld (fun j b hb hj => ?_)
        rw [Task.conn.injEq] at hj
        rw [← hj, hc, Option.some.injEq] at hb
        rw [← hb, hp]
        rfl
      refine AckMove.locked hidle (fun d' => ⟨?_, ?_⟩) rfl
      · rintro ⟨j, b, hb, hd⟩
        rcases getElem?_set_cases hb with ⟨_, hbc⟩ | ⟨_, hold⟩
        · rw [hbc] at hd
          exact (Option.some.inj hd).symm
        · exact absurd ⟨j, b, hold, hd⟩ (hidle d')
      · rintro rfl
        exact ⟨i, _, getElem?_updated hc, rfl⟩
  | crashed hc hp =>
      exact AckMove.crashed hc (by rw [hp]; rfl) (acking_of_set hc rfl rfl) rfl
  | acknowledged hc hp =>
      have hd : Phase.acking _ = some _ := congrArg Phase.acking hp
      exact AckMove.completed hc hd (hg.idle_of_set hc hd rfl rfl)
  | dropped hm hheld | replaced hm hheld =>
      have hidle := fun d => hg.not_acking (d := d) hheld (fun _ _ _ hmain => by
        simp only [reduceCtorEq] at hmain)
      exact AckMove.main (Or.inl rfl) (fun d => (acking_of_conns rfl d).not.mpr (hidle d))
  | cleared hm hheld =>
      have hidle := fun d => hg.not_acking (d := d) hheld (fun _ _ _ hmain => by
        simp only [reduceCtorEq] at hmain)
      exact AckMove.main (Or.inr rfl) (fun d => (acking_of_conns rfl d).not.mpr (hidle d))

end Server

namespace Replacing

open Server

variable {E : Server.Env β} {g g' : Replacing β} {a : Server.Action β}

theorem after_of_quiet {t : Server β} (h : g.server.Quiet a) : g.after t a = g.channels := by
  cases a with
  | write i =>
      have hnone : (g.server.conns[i]?).bind (fun c => c.phase.acking) = none := by
        rw [Option.bind_eq_none_iff]
        exact h
      simp only [after, hnone]
  | reloadChannels | clear => exact absurd h id
  | _ => rfl

theorem after_of_acking {t : Server β} {i : Nat} {c : Conn β} {d : Digest β}
    (hc : g.server.conns[i]? = some c) (hd : c.phase.acking = some d) :
    g.after t (.write i) = t.channels := by
  have hsome : (g.server.conns[i]?).bind (fun c => c.phase.acking) = some d := by
    rw [hc, Option.bind_some, hd]
  simp only [after, hsome]

theorem not_acking_initial (services : HashMap (Digest β) (ServerServiceConfig (List β)))
    (d : Digest β) : ¬ (Server.initial services).Acking d := by
  rintro ⟨i, c, hc, _⟩
  simp only [Server.initial, List.getElem?_nil, reduceCtorEq] at hc

variable [DecidableEq β]

/-- What is kept about the lock and the queues. -/
structure Sound (g : Replacing β) : Prop where
  guarded : Guarded g.server
  lined : Lined g.server

theorem sound_of_step (hs : g.Sound) (h : g.step E a = some g') : g'.Sound := by
  rcases Option.map_eq_some_iff.mp h with ⟨t, ht, rfl⟩
  exact ⟨guarded_of_step hs.guarded ht, lined_of_step hs.lined ht⟩

/-- The step lemma: from intact control channels a step leads to intact ones
    exactly if it spares them. -/
theorem intact_of_step (hs : g.Sound) (hi : g.Intact) (h : g.step E a = some g') :
    g'.Intact ↔ g.Spares a := by
  rcases Option.map_eq_some_iff.mp h with ⟨t, ht, rfl⟩
  cases ackMove_of_step hs.guarded hs.lined ht with
  | same hacking hchannels hquiet =>
      have hspares : g.Spares a := by
        cases a with
        | fail i n =>
            intro c d hc hd
            rw [hquiet c hc] at hd
            simp only [reduceCtorEq] at hd
        | _ => trivial
      refine ⟨fun _ => hspares, fun _ => ⟨fun hidle => ?_, fun d hd => ?_⟩⟩
      · rw [after_of_quiet hquiet]
        exact hchannels.trans (hi.idle (fun d => (hacking d).not.mp (hidle d)))
      · rw [after_of_quiet hquiet]
        exact hchannels.trans (hi.replacing d ((hacking d).mp hd))
  | @locked i d hidle hacking hchannels =>
      refine ⟨fun _ => trivial, fun _ => ⟨fun hnone => ?_, fun d' hd' => ?_⟩⟩
      · exact absurd ((hacking d).mpr rfl) (hnone d)
      · rw [(hacking d').mp hd']
        show t.channels = (g.channels.remove1 d).2
        rw [hchannels, hi.idle hidle]
  | completed hc hd hidle =>
      refine ⟨fun _ => trivial, fun _ => ⟨fun _ => ?_, fun d' hd' => absurd hd' (hidle d')⟩⟩
      exact (after_of_acking hc hd).symm
  | @crashed i c d hc hd hacking hchannels =>
      refine ⟨fun _ => trivial, fun _ => ⟨fun _ => ?_, fun d' hd' => ?_⟩⟩
      · exact (after_of_acking hc hd).symm
      · -- Taking out once more changes nothing.
        show t.channels = ((g.after t (.write i)).remove1 d').2
        rw [after_of_acking hc hd, hchannels, hi.replacing d' ((hacking d').mp hd'),
          MultiMap.remove1_remove1]
  | @broken i n c d hc hd hidle hchannels =>
      have hout := hi.replacing d ⟨i, c, hc, hd⟩
      constructor
      · -- What was taken out is missing, if there was anything.
        intro hi' c' d' hc' hd'
        rw [hc, Option.some.injEq] at hc'
        rw [← hc', hd, Option.some.injEq] at hd'
        have hsame : t.channels = g.channels := hi'.idle hidle
        rw [hchannels, hout, MultiMap.remove1_eq_self_iff] at hsame
        rw [← hd']
        exact hsame
      · intro hspares
        refine ⟨fun _ => ?_, fun d' hd' => absurd hd' (hidle d')⟩
        show t.channels = g.channels
        rw [hchannels, hout, MultiMap.remove1_eq_self_iff]
        exact hspares c d hc hd
  | main ha hidle =>
      rcases ha with rfl | rfl
      · exact ⟨fun _ => trivial, fun _ => ⟨fun _ => rfl, fun d' hd' => absurd hd' (hidle d')⟩⟩
      · exact ⟨fun _ => trivial, fun _ => ⟨fun _ => rfl, fun d' hd' => absurd hd' (hidle d')⟩⟩

/-- In every state of a run the control channels are those that completed
    handshakes, reloads and the shutdown have left, exactly if no handshake
    fails after it has taken the old control channel of its service out. -/
theorem intact_throughout_iff (E : Server.Env β)
    (services : HashMap (Digest β) (ServerServiceConfig (List β)))
    (actions : List (Server.Action β)) :
    Throughout (step E) Intact (initial services) actions ↔
      Legal (step E) Spares (initial services) actions :=
  throughout_iff_legal (fun _ _ _ hs h => sound_of_step hs h)
    (fun _ _ _ hs hi h => intact_of_step hs hi h) actions _
    ⟨guarded_initial services, lined_initial services⟩
    ⟨fun _ => rfl, fun d hd => absurd hd (not_acking_initial services d)⟩

/-- The client connects again, and the connection breaks when its `Ok` is
    due. -/
def brokenAck : List (Server.Action UInt8) :=
  [.accept,
    .arrive 1 ((Hello.controlChannelHello currentProtoVersion sampleServiceDigest).serialize
      plainBytes),
    .read 1, .write 1, .lookup 1, .arrive 1 (Auth.mk sampleSessionKey).serialize, .read 1, .lock 1,
    .fail 1 0]

/-- The control channel that was there is gone. -/
theorem failed_ack_drops :
    ¬ ∀ (E : Server.Env UInt8)
      (services : HashMap (Digest UInt8) (ServerServiceConfig (List UInt8)))
      (actions : List (Server.Action UInt8)) (g : Replacing UInt8),
      exec (step E) (initial services) actions = some g → g.Intact := by
  intro h
  rcases hrun : exec (step sampleEnv) (initial sshServices) (greeted ++ letIn ++ brokenAck)
    with _ | g
  · exact absurd hrun (by decide)
  · have hserver : (exec (step sampleEnv) (initial sshServices)
        (greeted ++ letIn ++ brokenAck)).map (fun g => g.server.channels.items) =
        some [] := by decide
    have hchannels : (exec (step sampleEnv) (initial sshServices)
        (greeted ++ letIn ++ brokenAck)).map (fun g => g.channels.items) =
        some [(sampleServiceDigest, sampleSessionKey, 0)] := by decide
    have hphases : (exec (step sampleEnv) (initial sshServices)
        (greeted ++ letIn ++ brokenAck)).map
        (fun g => g.server.conns.all (fun c => c.phase.acking.isNone)) = some true := by decide
    rw [hrun, Option.map_some, Option.some.injEq] at hserver hchannels hphases
    have hidle : ∀ d, ¬ g.server.Acking d := by
      rintro d ⟨i, c, hc, hd⟩
      have hnone := List.all_eq_true.mp hphases c (List.mem_of_getElem? hc)
      rw [hd] at hnone
      exact absurd hnone (by simp only [Option.isNone_some, Bool.false_eq_true,
        not_false_eq_true])
    have hsame := (h sampleEnv sshServices _ g hrun).idle hidle
    rw [hsame, hchannels] at hserver
    simp only [reduceCtorEq] at hserver

end Replacing

end Rathole
