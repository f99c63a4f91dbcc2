import Rathole.Lib.Numbered
import Rathole.Server.Rules

/-!
# What a Step of the Server Can Do

The steps of `Server.step`, seen from each part of the state. An action of a
connection moves that connection and no other (`ConnMove`); a data channel is
also moved by the pool that takes it. The services change when a reload gets
the guard of `services`. The control channels change at four places: a
handshake that was let in drops the old one and inserts its own, a reload
drops the one of its service, and a shutdown drops all.

## Main definitions

* `Server.ConnMove`: How an action moves a connection.
* `Server.Still`: The maps, the handles and the main loop stay.
* `Server.Change`: What an action does to them otherwise.

## Theorems

* `turn_of_rule`: Where the connections get to.
* `change_of_rule`: What happens to the maps.
* `conn_of_step`: Where a connection comes from.
* `handle_survives`: A handle keeps its service.
* `lookup_of_step`, `main_of_step`: Where services and changes come from.
-/

namespace Rathole

open FairLock Numbered

namespace Server


variable {β : Type} [DecidableEq β]

/-- How an action moves connection `i` in the state `s`. -/
inductive ConnMove (E : Env β) (s : Server β) : Action β → Nat → Conn β → Conn β → Prop
  | same {a : Action β} {i : Nat} (c : Conn β) : ConnMove E s a i c c
  | arrived {i : Nat} (c : Conn β) (chunk : List β) :
      ConnMove E s (.arrive i chunk) i c { c with inbox := c.inbox ++ chunk }
  | ended {a : Action β} {i : Nat} {c : Conn β} (n : Nat) {rest : List β}
      (hrest : ∀ x ∈ rest, x ∈ c.inbox) : ConnMove E s a i c
        { phase := .closed, inbox := rest, sent := c.sent ++ (c.phase.output E).take n }
  | greeted {i : Nat} {c : Conn β} {v : UInt8} {d : Digest β} {rest : List β}
      (hp : c.phase = .readingHello)
      (hread : Rathole.readHello E.alphabet c.inbox = some (.ok (.controlChannelHello v d), rest)) :
      ConnMove E s (.read i) i c
        { phase := .sendingHello d (E.nonce i), inbox := rest, sent := c.sent }
  | sought {i : Nat} {c : Conn β} {v : UInt8} {nonce : Digest β} {rest : List β}
      (hp : c.phase = .readingHello)
      (hread : Rathole.readHello E.alphabet c.inbox =
        some (.ok (.dataChannelHello v nonce), rest)) :
      ConnMove E s (.read i) i c { phase := .finding nonce, inbox := rest, sent := c.sent }
  | answered {i : Nat} {c : Conn β} {d nonce : Digest β} (hp : c.phase = .sendingHello d nonce) :
      ConnMove E s (.write i) i c { c with
        phase := .lookingUp d nonce, sent := c.sent ++ c.phase.output E }
  | unknown {i : Nat} {c : Conn β} {d nonce : Digest β} (hp : c.phase = .lookingUp d nonce)
      (hnone : s.services.lookup d = none) :
      ConnMove E s (.lookup i) i c { c with phase := .refusing }
  | known {i : Nat} {c : Conn β} {d nonce : Digest β} {cfg : ServerServiceConfig (List β)}
      {token : List β} (hp : c.phase = .lookingUp d nonce)
      (hcfg : s.services.lookup d = some cfg) (htoken : cfg.token = some token) :
      ConnMove E s (.lookup i) i c { c with phase := .readingAuth d (token ++ nonce.toList) cfg }
  | matched {i : Nat} {c : Conn β} {d : Digest β} {concat : List β}
      {cfg : ServerServiceConfig (List β)} {auth : Auth β} {rest : List β}
      (hp : c.phase = .readingAuth d concat cfg)
      (hread : Rathole.readAuth E.alphabet c.inbox = some (.ok auth, rest))
      (heq : E.alphabet.digest concat = auth.digest) : ConnMove E s (.read i) i c
        { phase := .locking d (E.alphabet.digest concat) cfg, inbox := rest, sent := c.sent }
  | mismatched {i : Nat} {c : Conn β} {d : Digest β} {concat : List β}
      {cfg : ServerServiceConfig (List β)} {auth : Auth β} {rest : List β}
      (hp : c.phase = .readingAuth d concat cfg)
      (hread : Rathole.readAuth E.alphabet c.inbox = some (.ok auth, rest))
      (hne : E.alphabet.digest concat ≠ auth.digest) : ConnMove E s (.read i) i c
        { phase := .rejecting, inbox := rest, sent := c.sent }
  | locked {i : Nat} {c : Conn β} {d key : Digest β} {cfg : ServerServiceConfig (List β)}
      (hp : c.phase = .locking d key cfg) :
      ConnMove E s (.lock i) i c { c with phase := .sendingAck d key cfg }
  | acknowledged {i : Nat} {c : Conn β} {d key : Digest β} {cfg : ServerServiceConfig (List β)}
      (hp : c.phase = .sendingAck d key cfg) : ConnMove E s (.write i) i c { c with
        phase := .control s.handles.length, sent := c.sent ++ c.phase.output E }
  | crashed {i : Nat} {c : Conn β} {d key : Digest β} {cfg : ServerServiceConfig (List β)}
      (hp : c.phase = .sendingAck d key cfg) (hhttp : cfg.serviceType = .http) :
      ConnMove E s (.write i) i c { c with sent := c.sent ++ c.phase.output E }
  | found {i : Nat} {c : Conn β} {nonce : Digest β} {h : Nat} (hp : c.phase = .finding nonce)
      (hget : s.channels.get2 nonce = some h) :
      ConnMove E s (.find i) i c { c with phase := .delivering h }
  | delivered {i : Nat} {c : Conn β} {h : Nat} (hp : c.phase = .delivering h) :
      ConnMove E s (.deliver i) i c { c with phase := .queued h }
  | commanded {i : Nat} {c : Conn β} {h : Nat} (hp : c.phase = .control h)
      (cmd : ControlChannelCmd) : ConnMove E s (.command i cmd) i c { c with
        sent := c.sent ++ serializeTag E.alphabet ControlChannelCmd.tag cmd }
  | taken {i h : Nat} {c : Conn β} {x : Handle β} (hx : s.handles[h]? = some x)
      (hin : i ∈ x.queue) : ConnMove E s (.take h) i c { c with
        phase := .starting h (startCmd x.service.serviceType) }
  | started {i : Nat} {c : Conn β} {h : Nat} {cmd : DataChannelCmd}
      (hp : c.phase = .starting h cmd) : ConnMove E s (.write i) i c { c with
        phase := .forwarding h, sent := c.sent ++ c.phase.output E }
  | relayed {i : Nat} {c : Conn β} {h : Nat} (hp : c.phase = .forwarding h) (chunk : List β) :
      ConnMove E s (.relay i chunk) i c { c with sent := c.sent ++ chunk }

/-- One connection moves and the others stay. -/
def Turn (E : Env β) (a : Action β) (i : Nat) (s t : Server β) : Prop :=
  ∃ c c', s.conns[i]? = some c ∧ ConnMove E s a i c c' ∧ t.conns = s.conns.set i c'

/-- The maps, the handles and the main loop stay. -/
structure Still (s t : Server β) : Prop where
  services : t.services = s.services
  channels : t.channels = s.channels
  handles : t.handles = s.handles
  main : t.main = s.main

/-- A handle is made, and put in if its keys are free. -/
structure Inserted (s t : Server β) (d key : Digest β) (cfg : ServerServiceConfig (List β)) :
    Prop where
  handles : t.handles =
    s.handles ++ [{ owner := d, service := cfg, queue := [], pooling := true }]
  channels : s.channels.insert d key s.handles.length = .ok t.channels ∨ t.channels = s.channels
  services : t.services = s.services
  main : t.main = s.main

/-- A handle has another queue, or has lost its pool, and nothing else in the
    maps or the main loop has changed. -/
structure Requeued (s t : Server β) (h : Nat) (x : Handle β) (queue : List Nat) (pooling : Bool) :
    Prop where
  get : s.handles[h]? = some x
  handles : t.handles = s.handles.set h { x with queue := queue, pooling := pooling }
  channels : t.channels = s.channels
  services : t.services = s.services
  main : t.main = s.main

/-- The digest of the service a change is about. -/
def ServerServiceChange.digest (E : Env β) : ServerServiceChange β → Digest β
  | .add cfg => E.alphabet.digest cfg.name
  | .delete name => E.alphabet.digest name

/-- What a change makes of the services. -/
def ServerServiceChange.apply (E : Env β) (e : ServerServiceChange β)
    (services : HashMap (Digest β) (ServerServiceConfig (List β))) :
    HashMap (Digest β) (ServerServiceConfig (List β)) :=
  match e with
  | .add cfg => services.insert (e.digest E) cfg
  | .delete _ => services.erase (e.digest E)

/-- What a step does to the maps, the handles and the main loop. -/
inductive Change (E : Env β) (s t : Server β) : Action β → Prop
  | still {a : Action β} (h : Still s t) : Change E s t a
  | requeued {a : Action β} {n : Nat} {x : Handle β} {queue : List Nat} {pooling : Bool}
      (h : Requeued s t n x queue pooling) (hqueue : ∀ i ∈ queue, i ∈ x.queue ∨
        ∃ c, s.conns[i]? = some c ∧ c.phase = .delivering n) : Change E s t a
  | locked {i : Nat} {c : Conn β} {d key : Digest β} {cfg : ServerServiceConfig (List β)}
      (hc : s.conns[i]? = some c) (hp : c.phase = .locking d key cfg)
      (hchannels : t.channels = (s.channels.remove1 d).2) (hservices : t.services = s.services)
      (hhandles : t.handles = s.handles) (hmain : t.main = s.main) : Change E s t (.lock i)
  | inserted {i : Nat} {c : Conn β} {d key : Digest β} {cfg : ServerServiceConfig (List β)}
      (hc : s.conns[i]? = some c) (hp : c.phase = .sendingAck d key cfg)
      (h : Inserted s t d key cfg) : Change E s t (.write i)
  | main {a : Action β} (hmain : s.main = .serving) (hidle : ∀ d held, t.main ≠ .dropping d held)
      (hnew : ∀ e, t.main = .changing e → a = .reload e) (hservices : t.services = s.services)
      (hchannels : t.channels = s.channels) (hhandles : t.handles = s.handles) : Change E s t a
  | applied {e : ServerServiceChange β} {held : Bool} (hmain : s.main = .changing e)
      (hdrop : t.main = .dropping (e.digest E) held) (hservices : t.services = e.apply E s.services)
      (hchannels : t.channels = s.channels) (hhandles : t.handles = s.handles) :
      Change E s t .reloadServices
  | dropped {d : Digest β} {held : Bool} (hmain : s.main = .dropping d held)
      (hserving : t.main = .serving) (hchannels : t.channels = (s.channels.remove1 d).2)
      (hservices : t.services = s.services) (hhandles : t.handles = s.handles) :
      Change E s t .reloadChannels
  | cleared (hmain : s.main = .closing) (hstopped : t.main = .stopped)
      (hchannels : t.channels = MultiMap.new) (hservices : t.services = s.services)
      (hhandles : t.handles = s.handles) : Change E s t .clear

variable {E : Env β} {s t : Server β} {a : Action β}

/-! ### Connections -/

section Connections

variable {i : Nat}

/-- A connection that ends without a write of its own on the way. -/
theorem ended_silent {a : Action β} {c : Conn β} {rest : List β}
    (hrest : ∀ x ∈ rest, x ∈ c.inbox) :
    ConnMove E s a i c { phase := .closed, inbox := rest, sent := c.sent } := by
  have hm : ConnMove E s a i c
      { phase := .closed, inbox := rest, sent := c.sent ++ (c.phase.output E).take 0 } :=
    ConnMove.ended 0 hrest
  rw [List.take_zero, List.append_nil] at hm
  exact hm

/-- A write that ends the connection is a failure after the last byte. -/
theorem ended_written {a : Action β} {c : Conn β} : ConnMove E s a i c
    { phase := .closed, inbox := c.inbox, sent := c.sent ++ c.phase.output E } := by
  have hm : ConnMove E s a i c { c with
      phase := .closed, sent := c.sent ++ (c.phase.output E).take (c.phase.output E).length } :=
    ConnMove.ended (c.phase.output E).length (fun _ hx => hx)
  rw [List.take_length] at hm
  exact hm

/-- One connection moves, or none does, or a new one comes. -/
theorem turn_of_rule (h : Rule E s a t) : (∃ i, Turn E a i s t) ∨ t.conns = s.conns ∨
    t.conns = s.conns ++ [{ phase := .readingHello, inbox := [], sent := [] }] := by
  cases h with
  | accepted => exact Or.inr (Or.inr rfl)
  | arrived hc => exact Or.inl ⟨_, _, _, hc, ConnMove.arrived _ _, rfl⟩
  | garbledHello hc hp hread =>
      have hrest := (mem_of_readHello E.alphabet hread).1
      exact Or.inl ⟨_, _, _, hc, ended_silent hrest, rfl⟩
  | garbledAuth hc hp hread =>
      have hrest := (mem_of_readAuth E.alphabet hread).1
      exact Or.inl ⟨_, _, _, hc, ended_silent hrest, rfl⟩
  | greeted hc hp hread => exact Or.inl ⟨_, _, _, hc, ConnMove.greeted hp hread, rfl⟩
  | sought hc hp hread => exact Or.inl ⟨_, _, _, hc, ConnMove.sought hp hread, rfl⟩
  | matched hc hp hread heq => exact Or.inl ⟨_, _, _, hc, ConnMove.matched hp hread heq, rfl⟩
  | mismatched hc hp hread hne =>
      exact Or.inl ⟨_, _, _, hc, ConnMove.mismatched hp hread hne, rfl⟩
  | unknown hc hp hnone => exact Or.inl ⟨_, _, _, hc, ConnMove.unknown hp hnone, rfl⟩
  | known hc hp hcfg htoken => exact Or.inl ⟨_, _, _, hc, ConnMove.known hp hcfg htoken, rfl⟩
  | locked hc hp => exact Or.inl ⟨_, _, _, hc, ConnMove.locked hp, rfl⟩
  | answered hc hp => exact Or.inl ⟨_, _, _, hc, ConnMove.answered hp, rfl⟩
  | crashed hc hp hhttp => exact Or.inl ⟨_, _, _, hc, ConnMove.crashed hp hhttp, rfl⟩
  | acknowledged hc hp => exact Or.inl ⟨_, _, _, hc, ConnMove.acknowledged hp, rfl⟩
  | started hc hp => exact Or.inl ⟨_, _, _, hc, ConnMove.started hp, rfl⟩
  | found hc hp hheld hget => exact Or.inl ⟨_, _, _, hc, ConnMove.found hp hget, rfl⟩
  | delivered hc hp => exact Or.inl ⟨_, _, _, hc, ConnMove.delivered hp, rfl⟩
  | commanded hc hp => exact Or.inl ⟨_, _, _, hc, ConnMove.commanded hp _, rfl⟩
  | taken hx hq hc =>
      exact Or.inl ⟨_, _, _, hc, ConnMove.taken hx (by rw [hq]; exact List.mem_cons_self), rfl⟩
  | relayed hc hp => exact Or.inl ⟨_, _, _, hc, ConnMove.relayed hp _, rfl⟩
  -- The ends of connections, with all, a part or nothing of a write on its way
  | refused hc | rejected hc => exact Or.inl ⟨_, _, _, hc, ended_written, rfl⟩
  | failed hc | failedRefusing hc | failedAcking hc =>
      exact Or.inl ⟨_, _, _, hc, ConnMove.ended _ (fun _ hx => hx), rfl⟩
  | absent hc | orphaned hc | ended hc =>
      exact Or.inl ⟨_, _, _, hc, ended_silent (fun _ hx => hx), rfl⟩
  -- The rest is no connection's.
  | tokenless | unpooled | reloading | added | deleted | dropped | replaced | closing | cleared =>
      exact Or.inr (Or.inl rfl)

end Connections

/-! ### The maps -/

/-- The maps change in one of a few ways. -/
theorem change_of_rule (h : Rule E s a t) : Change E s t a := by
  cases h with
  | locked hc hp => exact Change.locked hc hp rfl rfl rfl rfl
  | acknowledged hc hp hchannels =>
      refine Change.inserted hc hp ⟨rfl, ?_, rfl, rfl⟩
      rcases hchannels with hok | ⟨_, hsame⟩
      · exact Or.inl hok
      · exact Or.inr hsame
  -- A queue gets the data channel that was delivered, loses its first, or goes with the pool.
  | @delivered i n c x hc hp hx =>
      refine Change.requeued ⟨hx, rfl, rfl, rfl, rfl⟩ (fun j hj => ?_)
      rcases List.mem_append.mp hj with hj | hj
      · exact Or.inl hj
      · rw [List.mem_singleton.mp hj]
        exact Or.inr ⟨c, hc, hp⟩
  | @taken i n c x queue hx hq hc =>
      refine Change.requeued ⟨hx, rfl, rfl, rfl, rfl⟩ (fun j hj => Or.inl ?_)
      rw [hq]
      exact List.mem_cons_of_mem i hj
  | unpooled hx =>
      exact Change.requeued ⟨hx, rfl, rfl, rfl, rfl⟩ (fun _ hj => absurd hj List.not_mem_nil)
  -- The main loop leaves its `select!`.
  | reloading hm =>
      refine Change.main hm (fun d held hd => ?_) (fun e' he => ?_) rfl rfl rfl
      · simp only [requestServices, reduceCtorEq] at hd
      · rw [requestServices, MainPc.changing.injEq] at he
        rw [he]
  | closing hm =>
      refine Change.main hm (fun d held hd => ?_) (fun e' he => ?_) rfl rfl rfl
      · simp only [requestChannels, reduceCtorEq] at hd
      · simp only [requestChannels, reduceCtorEq] at he
  -- It has the guards, one after the other.
  | added hm => exact Change.applied hm rfl rfl rfl rfl
  | deleted hm => exact Change.applied hm rfl rfl rfl rfl
  | dropped hm => exact Change.dropped hm rfl rfl rfl rfl
  | replaced hm => exact Change.dropped hm rfl rfl rfl rfl
  | cleared hm => exact Change.cleared hm rfl rfl rfl rfl
  | _ => exact Change.still ⟨rfl, rfl, rfl, rfl⟩

/-! ### All steps -/

/-- The step lemma: one connection moves or none does, or a new one comes; and
    the maps change in one of a few ways. -/
theorem act_of_step (h : s.step E a = some t) : Change E s t a ∧
    ((∃ i, Turn E a i s t) ∨ t.conns = s.conns ∨
      t.conns = s.conns ++ [{ phase := .readingHello, inbox := [], sent := [] }]) :=
  ⟨change_of_rule (rule_of_step h), turn_of_rule (rule_of_step h)⟩

/-- A connection comes from one that was there, or has just been accepted. -/
theorem conn_of_step (h : s.step E a = some t) {j : Nat} {c' : Conn β}
    (hc' : t.conns[j]? = some c') :
    (∃ c, s.conns[j]? = some c ∧ ConnMove E s a j c c') ∨
      c' = { phase := .readingHello, inbox := [], sent := [] } := by
  rcases (act_of_step h).2 with ⟨i, c, c1, hc, hmove, hconns⟩ | hconns | hconns
  · rw [hconns] at hc'
    rcases getElem?_set_cases hc' with ⟨hj, hcc⟩ | ⟨_, hold⟩
    · rw [hj, hcc]
      exact Or.inl ⟨c, hc, hmove⟩
    · exact Or.inl ⟨c', hold, ConnMove.same c'⟩
  · rw [hconns] at hc'
    exact Or.inl ⟨c', hc', ConnMove.same c'⟩
  · rw [hconns] at hc'
    rcases getElem?_append_cases hc' with hold | ⟨_, hnew⟩
    · exact Or.inl ⟨c', hold, ConnMove.same c'⟩
    · exact Or.inr hnew

/-- Connections come from an accept. -/
theorem length_of_step (h : s.step E a = some t) (ha : a ≠ .accept) :
    t.conns.length = s.conns.length := by
  cases rule_of_step h with
  | accepted => exact absurd rfl ha
  | _ => first | rfl | exact List.length_set

/-- A handle stays, with its service and the digest it was made for. -/
theorem handle_survives (h : s.step E a = some t) {n : Nat} {x : Handle β}
    (hx : s.handles[n]? = some x) :
    ∃ x', t.handles[n]? = some x' ∧ (x'.owner, x'.service) = (x.owner, x.service) := by
  have hsame : t.handles = s.handles →
      ∃ x', t.handles[n]? = some x' ∧ (x'.owner, x'.service) = (x.owner, x.service) := by
    intro heq
    exact ⟨x, by rw [heq]; exact hx, rfl⟩
  cases (act_of_step h).1 with
  | still hstill => exact hsame hstill.handles
  | @requeued _ m y queue pooling hq _ =>
      rw [hq.handles]
      exact set_survives (fun y => (y.owner, y.service))
        { y with queue := queue, pooling := pooling } hq.get rfl hx
  | locked _ _ _ _ hh _ => exact hsame hh
  | inserted _ _ hins =>
      rw [hins.handles]
      exact append_survives (fun y => (y.owner, y.service)) _ hx
  | main _ _ _ _ _ hh => exact hsame hh
  | applied _ _ _ _ hh => exact hsame hh
  | dropped _ _ _ _ hh => exact hsame hh
  | cleared _ _ _ _ hh => exact hsame hh

/-- A control channel that is there was there before, unless it is the one of
    a handshake that has just been completed. -/
theorem channel_of_step (h : s.step E a = some t) {y : Digest β × Digest β × Nat}
    (hy : y ∈ t.channels.items) :
    y ∈ s.channels.items ∨ ∃ i c cfg, a = .write i ∧ s.conns[i]? = some c ∧
      c.phase = .sendingAck y.1 y.2.1 cfg ∧ y.2.2 = s.handles.length ∧
      Inserted s t y.1 y.2.1 cfg := by
  cases (act_of_step h).1 with
  | still hstill => exact Or.inl (by rw [← hstill.channels]; exact hy)
  | requeued hq _ => exact Or.inl (by rw [← hq.channels]; exact hy)
  | locked _ _ hch _ _ _ =>
      rw [hch, MultiMap.mem_remove1_iff] at hy
      exact Or.inl hy.1
  | @inserted i c d key cfg hc hp hins =>
      rcases hins.channels with hok | hsame
      · rcases (MultiMap.mem_insert_iff hok).mp hy with hnew | hold
        · rw [hnew]
          exact Or.inr ⟨i, c, cfg, rfl, hc, hp, rfl, hins⟩
        · exact Or.inl hold
      · exact Or.inl (by rw [← hsame]; exact hy)
  | main _ _ _ _ hch _ => exact Or.inl (by rw [← hch]; exact hy)
  | applied _ _ _ hch _ => exact Or.inl (by rw [← hch]; exact hy)
  | dropped _ _ hch _ _ =>
      rw [hch, MultiMap.mem_remove1_iff] at hy
      exact Or.inl hy.1
  | cleared _ _ hch _ _ =>
      rw [hch] at hy
      exact absurd hy List.not_mem_nil

/-- A service that is there was there before, unless it is the one that was to
    be added. -/
theorem lookup_of_step (h : s.step E a = some t) {d : Digest β}
    {cfg : ServerServiceConfig (List β)} (hcfg : t.services.lookup d = some cfg) :
    s.services.lookup d = some cfg ∨
      (s.main = .changing (.add cfg) ∧ d = E.alphabet.digest cfg.name) := by
  have hsame : t.services = s.services → s.services.lookup d = some cfg ∨
      (s.main = .changing (.add cfg) ∧ d = E.alphabet.digest cfg.name) := by
    intro heq
    exact Or.inl (by rw [← heq]; exact hcfg)
  cases (act_of_step h).1 with
  | still hstill => exact hsame hstill.services
  | requeued hq => exact hsame hq.services
  | locked _ _ _ hs => exact hsame hs
  | inserted _ _ hins => exact hsame hins.services
  | main _ _ _ hs => exact hsame hs
  | dropped _ _ _ hs => exact hsame hs
  | cleared _ _ _ hs => exact hsame hs
  -- Only a change that was let in writes the services.
  | @applied e held hmain hdrop hs =>
      rw [hs] at hcfg
      cases e with
      | add new =>
          rcases HashMap.lookup_insert_cases hcfg with ⟨hd, hnew⟩ | ⟨_, hold⟩
          · rw [hnew]
            exact Or.inr ⟨hmain, hd⟩
          · exact Or.inl hold
      | delete name => exact Or.inl (HashMap.lookup_erase_cases hcfg).2

/-- A change at work was at work before, or has just come in. -/
theorem main_of_step (h : s.step E a = some t) {e : ServerServiceChange β}
    (hmain : t.main = .changing e) : s.main = .changing e ∨ a = .reload e := by
  cases (act_of_step h).1 with
  | still hstill => exact Or.inl (hstill.main.symm.trans hmain)
  | requeued hq => exact Or.inl (hq.main.symm.trans hmain)
  | locked _ _ _ _ _ hm => exact Or.inl (hm.symm.trans hmain)
  | inserted _ _ hins => exact Or.inl (hins.main.symm.trans hmain)
  | main _ _ hnew => exact Or.inr (hnew e hmain)
  | applied _ hdrop => simp only [hdrop, reduceCtorEq] at hmain
  | dropped _ hserving => simp only [hserving, reduceCtorEq] at hmain
  | cleared _ hstopped => simp only [hstopped, reduceCtorEq] at hmain

end Server

end Rathole
