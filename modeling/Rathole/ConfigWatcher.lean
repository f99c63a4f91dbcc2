import Rathole.Lib.MapDiff
import Rathole.Server.State

/-!
# The Configuration Watcher

`config_watcher.rs`: what the watcher tells a running instance when the file
of its configuration changes. A file that cannot be read, parsed or validated
is skipped. If nothing but services has changed, each service that is gone is
deleted, and each one that is new or different is added; anything else takes a
restart with the whole configuration.

The content of a file is what parsing makes of it, or nothing if that fails.
Maps are equal whatever the order of their entries, and the order in which
they are walked through is left open.

## Main definitions

* `ConfigChange`: What the watcher sends.
* `ServerConfig.beq`, `ClientConfig.beq`, `Config.beq`: Equality.
* `InstanceConfig`: What servers and clients have in common.
* `calculateInstanceConfigEvents`, `calculateEvents`: The changes between two
  configurations.
* `configWatcher`: All that is sent for a sequence of files.

## Theorems

* `named_of_fromFile`: A valid configuration names services by their keys.
* `changeEvents_cases`: What is sent for a change.
* `changeEvents_eq_nil_iff`: Nothing is sent exactly if nothing has changed.
-/

namespace Rathole

/-- `ClientServiceChange` -/
inductive ClientServiceChange (β : Type)
  | add (cfg : ClientServiceConfig (List β))
  | delete (name : List β)

/-- `ConfigChange` -/
inductive ConfigChange (β : Type)
  | general (cfg : Config (List β))
  | serverChange (e : Server.ServerServiceChange β)
  | clientChange (e : ClientServiceChange β)

section Equality

variable {τ : Type} [DecidableEq τ]

/-- `==` of `[server]` blocks -/
def ServerConfig.beq (l r : ServerConfig τ) : Bool :=
  l.bindAddr = r.bindAddr && l.defaultToken = r.defaultToken && l.jwtSecret = r.jwtSecret &&
    l.defaultCloudBackend = r.defaultCloudBackend && l.services.beq r.services &&
    l.transport = r.transport && l.heartbeatInterval = r.heartbeatInterval

/-- `==` of `[client]` blocks -/
def ClientConfig.beq (l r : ClientConfig τ) : Bool :=
  l.remoteAddr = r.remoteAddr && l.defaultToken = r.defaultToken &&
    l.preferIpv6 = r.preferIpv6 && l.services.beq r.services && l.transport = r.transport &&
    l.heartbeatTimeout = r.heartbeatTimeout && l.retryInterval = r.retryInterval

/-- Equality of what may be missing. -/
def optionBeq {α : Type} (beq : α → α → Bool) : Option α → Option α → Bool
  | some l, some r => beq l r
  | none, none => true
  | _, _ => false

/-- `==` of configurations -/
def Config.beq (l r : Config τ) : Bool :=
  optionBeq ServerConfig.beq l.server r.server && optionBeq ClientConfig.beq l.client r.client

/-- `Config::from_file`, from what was read and parsed. -/
def Config.fromFile (file : Option (Config τ)) : Option (Config τ) :=
  file.bind (fun c => c.validate.toOption)

end Equality


variable {β : Type} [DecidableEq β]

/-- `InstanceConfig` -/
class InstanceConfig (β : outParam Type) (T : Type) (S : outParam Type) where
  equalWithoutService : T → T → Bool
  serviceDeleteChange : List β → ConfigChange β
  serviceAddChange : S → ConfigChange β
  getServices : T → HashMap (List β) S

instance : InstanceConfig β (ServerConfig (List β)) (ServerServiceConfig (List β)) where
  equalWithoutService := fun l r =>
    ServerConfig.beq { l with services := ∅ } { r with services := ∅ }
  serviceDeleteChange := fun s => .serverChange (.delete s)
  serviceAddChange := fun cfg => .serverChange (.add cfg)
  getServices := fun c => c.services

instance : InstanceConfig β (ClientConfig (List β)) (ClientServiceConfig (List β)) where
  equalWithoutService := fun l r =>
    ClientConfig.beq { l with services := ∅ } { r with services := ∅ }
  serviceDeleteChange := fun s => .clientChange (.delete s)
  serviceAddChange := fun cfg => .clientChange (.add cfg)
  getServices := fun c => c.services

/-- `calculate_instance_config_events`; `none` asks for a restart. -/
def calculateInstanceConfigEvents {T S : Type} [DecidableEq S] [InstanceConfig β T S]
    (old new : T) : Option (List (ConfigChange β)) :=
  if InstanceConfig.equalWithoutService old new then
    let oldServices := InstanceConfig.getServices old
    let newServices := InstanceConfig.getServices new
    let deletions := (oldServices.keys.filter (fun name => (newServices.lookup name).isNone)).map
      (fun name => InstanceConfig.serviceDeleteChange T name)
    let addition := (newServices.entries.filter (fun u => oldServices.lookup u.1 ≠ some u.2)).map
      (fun u => InstanceConfig.serviceAddChange T u.2)
    some (deletions ++ addition)
  else none

/-- The events of one of the two blocks, which is there in both
    configurations or in none. -/
def blockEvents {T S : Type} [DecidableEq S] [InstanceConfig β T S] (beq : T → T → Bool) :
    Option T → Option T → Option (List (ConfigChange β))
  -- `calculate_events` skips a block that has not changed.
  | some old, some new => if beq old new then some [] else calculateInstanceConfigEvents old new
  | _, _ => some []

/-- `calculate_events`; `none` if nothing has changed. -/
def calculateEvents (old new : Config (List β)) : Option (List (ConfigChange β)) :=
  if old.beq new then none
  else if old.server.isSome ≠ new.server.isSome ∨ old.client.isSome ≠ new.client.isSome then
    some [.general new]
  else match blockEvents ServerConfig.beq old.server new.server with
    | none => some [.general new]
    | some server => match blockEvents ClientConfig.beq old.client new.client with
      | none => some [.general new]
      | some client => some (server ++ client)

/-- The events that are sent for a valid change. -/
def changeEvents (old new : Config (List β)) : List (ConfigChange β) :=
  (calculateEvents old new).getD []

/-- The loop of `config_watcher`, with the files it finds. -/
def configWatcher (old : Config (List β)) : List (Option (Config (List β))) →
    List (ConfigChange β)
  | [] => []
  | file :: files => match Config.fromFile file with
    -- An error is logged, and `old` stays what the next file is compared with.
    | none => configWatcher old files
    | some new => changeEvents old new ++ configWatcher new files

/-- The configuration in force after some files. -/
def lastValid (old : Config (List β)) : List (Option (Config (List β))) → Config (List β)
  | [] => old
  | file :: files => match Config.fromFile file with
    | none => lastValid old files
    | some new => lastValid new files

/-! ### Valid configurations -/

/-- Every service has its key as its name. -/
def Config.Named (c : Config (List β)) : Prop :=
  (∀ server, c.server = some server → ∀ name s, server.services.lookup name = some s →
    s.name = name) ∧
  ∀ client, c.client = some client → ∀ name s, client.services.lookup name = some s →
    s.name = name

/-- A valid configuration names its services by their keys. -/
theorem named_of_fromFile {file : Option (Config (List β))} {c : Config (List β)}
    (h : Config.fromFile file = some c) : c.Named := by
  unfold Config.fromFile at h
  rw [Option.bind_eq_some_iff] at h
  rcases h with ⟨raw, _, hvalid⟩
  have hok : raw.validate = .ok c := by
    cases hv : raw.validate with
    | error e => simp only [hv, Except.toOption, reduceCtorEq] at hvalid
    | ok c' =>
        simp only [hv, Except.toOption, Option.some.injEq] at hvalid
        rw [hvalid]
  -- `validate` writes the key into each service as its name.
  constructor
  · intro server hserver name v hv
    rcases (checked_of_validate hok).1 server hserver with ⟨r, hr⟩
    exact (lookup_validateServerConfig hr hv).1
  · intro client hclient name v hv
    rcases (checked_of_validate hok).2 client hclient with ⟨r, hr⟩
    exact (lookup_validateClientConfig hr hv).1

/-! ### Changes -/

/-- The services of a block that may be missing. -/
def servicesOf {T S : Type} [InstanceConfig β T S] : Option T → HashMap (List β) S
  | none => ∅
  | some c => InstanceConfig.getServices c

/-- The event for a change of one service. -/
def changeEvent (T : Type) {S : Type} [InstanceConfig β T S]
    (c : HashMap.Change (List β) S) : ConfigChange β :=
  match c.2 with
  | none => InstanceConfig.serviceDeleteChange T c.1
  | some cfg => InstanceConfig.serviceAddChange T cfg

/-- Blocks that differ in nothing but services. -/
def SameBut {T S : Type} [InstanceConfig β T S] : Option T → Option T → Prop :=
  Option.Rel (fun l r => InstanceConfig.equalWithoutService l r = true)

/-- Configurations that differ in nothing but services. -/
structure Patchable (old new : Config (List β)) : Prop where
  server : SameBut old.server new.server
  client : SameBut old.client new.client

section Blocks

variable {T S : Type} [InstanceConfig β T S] {beq : T → T → Bool}

/-- Blocks are equal if nothing differs, be it in the services or apart from
    them. -/
theorem optionBeq_iff (hbeq : ∀ l r, beq l r = true ↔
      InstanceConfig.equalWithoutService l r = true ∧
        ∀ k, (servicesOf (some l)).lookup k = (servicesOf (some r)).lookup k)
    {old new : Option T} : optionBeq beq old new = true ↔
      SameBut old new ∧ ∀ k, (servicesOf old).lookup k = (servicesOf new).lookup k := by
  cases old with
  | none => cases new with
    | none => exact ⟨fun _ => ⟨Option.Rel.none, fun _ => rfl⟩, fun _ => rfl⟩
    | some r =>
        constructor
        · intro h
          simp only [optionBeq, Bool.false_eq_true] at h
        · intro h
          cases h.1
  | some l => cases new with
    | none =>
        constructor
        · intro h
          simp only [optionBeq, Bool.false_eq_true] at h
        · intro h
          cases h.1
    | some r =>
        rw [optionBeq, hbeq l r]
        constructor
        · intro h
          exact ⟨Option.Rel.some h.1, h.2⟩
        · intro h
          cases h.1 with
          | some hsame => exact ⟨hsame, h.2⟩

variable [DecidableEq S]

/-- The events of a block are its difference. -/
theorem calculateInstanceConfigEvents_eq {old new : T}
    (h : InstanceConfig.equalWithoutService old new = true) :
    calculateInstanceConfigEvents old new =
      some ((HashMap.diff (servicesOf (some old)) (servicesOf (some new))).map
        (changeEvent T)) := by
  unfold calculateInstanceConfigEvents HashMap.diff
  rw [if_pos h, List.map_append, List.map_map, List.map_map]
  rfl

theorem diff_self (m : HashMap (List β) S) : HashMap.diff m m = [] :=
  HashMap.diff_eq_nil_iff.mpr (fun _ => rfl)

/-- A block that is there in both configurations or in none: it takes a
    restart, or the events are its difference. -/
theorem blockEvents_cases (hbeq : ∀ l r, beq l r = true ↔
      InstanceConfig.equalWithoutService l r = true ∧
        ∀ k, (servicesOf (some l)).lookup k = (servicesOf (some r)).lookup k)
    {old new : Option T} (hpresent : old.isSome = new.isSome) :
    (blockEvents beq old new = none ∧ ¬ SameBut old new) ∨
      (SameBut old new ∧ blockEvents beq old new =
        some ((HashMap.diff (servicesOf old) (servicesOf new)).map (changeEvent T))) := by
  cases old with
  | none => cases new with
    | none =>
        refine Or.inr ⟨Option.Rel.none, ?_⟩
        rw [diff_self]
        rfl
    | some r => simp only [Option.isSome_none, Option.isSome_some, Bool.false_eq_true] at hpresent
  | some l => cases new with
    | none => simp only [Option.isSome_none, Option.isSome_some, Bool.true_eq_false] at hpresent
    | some r =>
        by_cases hsame : InstanceConfig.equalWithoutService l r = true
        · refine Or.inr ⟨Option.Rel.some hsame, ?_⟩
          by_cases heq : beq l r = true
          · -- An equal block sends nothing, and its difference is empty.
            simp only [blockEvents, if_pos heq]
            rw [HashMap.diff_eq_nil_iff.mpr ((hbeq l r).mp heq).2]
            rfl
          · simp only [blockEvents, if_neg heq]
            exact calculateInstanceConfigEvents_eq hsame
        · -- What is not even the same apart from services is not equal.
          have hne : ¬ beq l r = true := fun heq => hsame ((hbeq l r).mp heq).1
          refine Or.inl ⟨?_, fun h => ?_⟩
          · simp only [blockEvents, if_neg hne, calculateInstanceConfigEvents, if_neg hsame]
          · cases h with
            | some h => exact hsame h

end Blocks

theorem serverConfig_beq_iff (l r : ServerConfig (List β)) : l.beq r = true ↔
    InstanceConfig.equalWithoutService l r = true ∧
      ∀ k, (servicesOf (some l)).lookup k = (servicesOf (some r)).lookup k := by
  have hempty : (∅ : HashMap (List β) (ServerServiceConfig (List β))).beq ∅ = true := rfl
  simp only [InstanceConfig.equalWithoutService, ServerConfig.beq, servicesOf,
    InstanceConfig.getServices, hempty, Bool.and_true, Bool.and_eq_true, decide_eq_true_eq,
    HashMap.beq_iff]
  constructor
  · intro h
    rcases h with ⟨⟨⟨⟨⟨⟨h1, h2⟩, h3⟩, h4⟩, h5⟩, h6⟩, h7⟩
    exact ⟨⟨⟨⟨⟨⟨h1, h2⟩, h3⟩, h4⟩, h6⟩, h7⟩, h5⟩
  · intro h
    rcases h with ⟨⟨⟨⟨⟨⟨h1, h2⟩, h3⟩, h4⟩, h6⟩, h7⟩, h5⟩
    exact ⟨⟨⟨⟨⟨⟨h1, h2⟩, h3⟩, h4⟩, h5⟩, h6⟩, h7⟩

theorem clientConfig_beq_iff (l r : ClientConfig (List β)) : l.beq r = true ↔
    InstanceConfig.equalWithoutService l r = true ∧
      ∀ k, (servicesOf (some l)).lookup k = (servicesOf (some r)).lookup k := by
  have hempty : (∅ : HashMap (List β) (ClientServiceConfig (List β))).beq ∅ = true := rfl
  simp only [InstanceConfig.equalWithoutService, ClientConfig.beq, servicesOf,
    InstanceConfig.getServices, hempty, Bool.and_true, Bool.and_eq_true, decide_eq_true_eq,
    HashMap.beq_iff]
  constructor
  · intro h
    rcases h with ⟨⟨⟨⟨⟨⟨h1, h2⟩, h3⟩, h4⟩, h5⟩, h6⟩, h7⟩
    exact ⟨⟨⟨⟨⟨⟨h1, h2⟩, h3⟩, h5⟩, h6⟩, h7⟩, h4⟩
  · intro h
    rcases h with ⟨⟨⟨⟨⟨⟨h1, h2⟩, h3⟩, h5⟩, h6⟩, h7⟩, h4⟩
    exact ⟨⟨⟨⟨⟨⟨h1, h2⟩, h3⟩, h4⟩, h5⟩, h6⟩, h7⟩

/-- The changes of the servers' services, and those of the clients'. -/
def serviceEvents (old new : Config (List β)) : List (ConfigChange β) :=
  (HashMap.diff (servicesOf old.server) (servicesOf new.server)).map
      (changeEvent (ServerConfig (List β))) ++
    (HashMap.diff (servicesOf old.client) (servicesOf new.client)).map
      (changeEvent (ClientConfig (List β)))

theorem beq_iff_patchable {old new : Config (List β)} : old.beq new = true ↔
    Patchable old new ∧
      (∀ k, (servicesOf old.server).lookup k = (servicesOf new.server).lookup k) ∧
      ∀ k, (servicesOf old.client).lookup k = (servicesOf new.client).lookup k := by
  rw [Config.beq, Bool.and_eq_true, optionBeq_iff serverConfig_beq_iff,
    optionBeq_iff clientConfig_beq_iff]
  constructor
  · intro h
    exact ⟨⟨h.1.1, h.2.1⟩, h.1.2, h.2.2⟩
  · intro h
    exact ⟨⟨h.1.server, h.2.1⟩, h.1.client, h.2.2⟩

omit [DecidableEq β] in
theorem isSome_of_sameBut {T S : Type} [InstanceConfig β T S] {old new : Option T}
    (h : SameBut old new) : old.isSome = new.isSome := by
  cases h with
  | none => rfl
  | some => rfl

/-- What is sent for a valid change: the whole configuration, if more than
    services has changed, and the changes of the services otherwise. -/
theorem changeEvents_cases (old new : Config (List β)) :
    (¬ Patchable old new ∧ changeEvents old new = [.general new]) ∨
      (Patchable old new ∧ changeEvents old new = serviceEvents old new) := by
  unfold changeEvents calculateEvents
  by_cases heq : old.beq new = true
  · rw [if_pos heq]
    rcases beq_iff_patchable.mp heq with ⟨hpatch, hserver, hclient⟩
    refine Or.inr ⟨hpatch, ?_⟩
    rw [serviceEvents, HashMap.diff_eq_nil_iff.mpr hserver, HashMap.diff_eq_nil_iff.mpr hclient]
    rfl
  · rw [if_neg heq]
    by_cases hpresent : old.server.isSome ≠ new.server.isSome ∨
        old.client.isSome ≠ new.client.isSome
    · -- A block appears or goes: no patch reaches that.
      rw [if_pos hpresent]
      refine Or.inl ⟨fun hpatch => ?_, rfl⟩
      rcases hpresent with hne | hne
      · exact hne (isSome_of_sameBut hpatch.server)
      · exact hne (isSome_of_sameBut hpatch.client)
    · rw [if_neg hpresent]
      rw [not_or, not_not, not_not] at hpresent
      -- Either block alone can ask for a restart.
      rcases blockEvents_cases serverConfig_beq_iff hpresent.1 with ⟨hs, hnot⟩ | ⟨hsame, hs⟩
      · rw [hs]
        exact Or.inl ⟨fun hpatch => hnot hpatch.server, rfl⟩
      · rcases blockEvents_cases clientConfig_beq_iff hpresent.2 with ⟨hc, hnot⟩ | ⟨hsame', hc⟩
        · rw [hs, hc]
          exact Or.inl ⟨fun hpatch => hnot hpatch.client, rfl⟩
        · rw [hs, hc]
          exact Or.inr ⟨⟨hsame, hsame'⟩, rfl⟩

/-- Nothing is sent exactly if nothing has changed. -/
theorem changeEvents_eq_nil_iff (old new : Config (List β)) :
    changeEvents old new = [] ↔ old.beq new = true := by
  rw [beq_iff_patchable]
  rcases changeEvents_cases old new with ⟨hnot, h⟩ | ⟨hpatch, h⟩
  · -- A restart is one event, and never sent for an equal configuration.
    rw [h]
    constructor
    · intro hnil
      simp only [reduceCtorEq] at hnil
    · intro heq
      exact absurd heq.1 hnot
  · rw [h, serviceEvents, List.append_eq_nil_iff, List.map_eq_nil_iff, List.map_eq_nil_iff,
      HashMap.diff_eq_nil_iff, HashMap.diff_eq_nil_iff]
    exact ⟨fun heq => ⟨hpatch, heq⟩, fun heq => heq.2⟩

/-- What is sent for a file comes after what was sent for those before it. -/
theorem configWatcher_append (pre files : List (Option (Config (List β)))) :
    ∀ c, configWatcher c (pre ++ files) =
      configWatcher c pre ++ configWatcher (lastValid c pre) files := by
  induction pre with
  | nil => intro c; rfl
  | cons file pre ih =>
      intro c
      cases hf : Config.fromFile file with
      | none =>
          -- A file that is no configuration is nothing to both sides.
          simp only [List.cons_append, configWatcher, lastValid, hf]
          exact ih c
      | some new =>
          simp only [List.cons_append, configWatcher, lastValid, hf, List.append_assoc]
          rw [ih new]

end Rathole
