import Rathole.ConfigWatcher
import Rathole.Server.Reload

/-!
# Convergence of Hot Reload

What an instance makes of the events of the configuration watcher, applied in
the order they are sent. A `Replica` is a server and a client as far as they
keep services: the server's by digest, with its control channels, and the
client's handles by name. The whole configuration starts both anew.

After any sequence of files the replica has the services of the last valid
one. A change of services alone costs exactly those services their control
channels whose configuration differs.

## Main definitions

* `ServerInstance`, `ClientInstance`: What they keep of services.
* `ServerInstance.handleHotReload`, `ClientInstance.handleHotReload`: One event.
* `Replica.replay`: A sequence of events.
* `Replica.Agrees`: The services are those of a configuration.
* `history`: All valid configurations.

## Theorems

* `reload_of_exec`: The server's tasks do to the two maps what one event does.
* `agrees_of_change`: What one valid change does.
* `hot_reload_converges`: All changes.
-/

namespace Rathole

open FairLock Transition


variable {β : Type} [DecidableEq β]

/-- A running server, as far as it keeps services. -/
structure ServerInstance (β : Type) where
  config : ServerConfig (List β)
  services : HashMap (Digest β) (ServerServiceConfig (List β))
  channels : MultiMap (Digest β) (Digest β) Nat

/-- `ControlChannelHandle` of the client: its service, and its number in the
    order of creation. -/
structure ClientHandle (β : Type) where
  service : ClientServiceConfig (List β)
  number : Nat

/-- A running client, as far as it keeps services. No handle is numbered
    before it is made. -/
structure ClientInstance (β : Type) [DecidableEq β] where
  config : ClientConfig (List β)
  serviceHandles : HashMap (List β) (ClientHandle β)
  made : Nat
  fresh : ∀ name h, serviceHandles.lookup name = some h → h.number < made

/-- What is run with a configuration. -/
structure Replica (β : Type) [DecidableEq β] where
  server : Option (ServerInstance β)
  client : Option (ClientInstance β)

/-! ### Servers -/

namespace ServerInstance

/-- `Server::from` -/
def start (E : Server.Env β) (config : ServerConfig (List β)) : ServerInstance β where
  config := config
  services := Server.generateServiceHashmap E.alphabet config
  channels := MultiMap.new

/-- `Server::handle_hot_reload` -/
def handleHotReload (E : Server.Env β) (s : ServerInstance β) (e : Server.ServerServiceChange β) :
    ServerInstance β :=
  { s with
    services := e.apply E s.services
    channels := (s.channels.remove1 (e.digest E)).2 }

end ServerInstance

/-! ### Clients -/

namespace ClientInstance

/-- A handle is made, and replaces the one that has its name. -/
def addHandle (s : ClientInstance β) (name : List β) (cfg : ClientServiceConfig (List β)) :
    ClientInstance β where
  config := s.config
  serviceHandles := s.serviceHandles.insert name { service := cfg, number := s.made }
  made := s.made + 1
  fresh := by
    intro name' h hl
    by_cases hn : name' = name
    · rw [hn, AList.lookup_insert, Option.some.injEq] at hl
      rw [← hl]
      exact Nat.lt_succ_self _
    · rw [AList.lookup_insert_ne hn] at hl
      exact Nat.lt_succ_of_lt (s.fresh name' h hl)

/-- `service_handles.remove` -/
def removeHandle (s : ClientInstance β) (name : List β) : ClientInstance β where
  config := s.config
  serviceHandles := s.serviceHandles.erase name
  made := s.made
  fresh := by
    intro name' h hl
    by_cases hn : name' = name
    · rw [hn, AList.lookup_erase] at hl
      simp only [reduceCtorEq] at hl
    · rw [AList.lookup_erase_ne hn] at hl
      exact s.fresh name' h hl

/-- A client without handles. -/
def idle (config : ClientConfig (List β)) : ClientInstance β where
  config := config
  serviceHandles := ∅
  made := 0
  fresh := fun name h hl => by simp only [AList.lookup_empty, reduceCtorEq] at hl

/-- The first part of `Client::run`: a handle for each service. -/
def start (config : ClientConfig (List β)) : ClientInstance β :=
  config.services.entries.foldl (fun s u => s.addHandle u.1 u.2) (idle config)

/-- `Client::handle_hot_reload` -/
def handleHotReload (s : ClientInstance β) : ClientServiceChange β → ClientInstance β
  | .add cfg => s.addHandle cfg.name cfg
  | .delete name => s.removeHandle name

end ClientInstance

namespace Replica

/-- What a configuration is run with. -/
def start (E : Server.Env β) (c : Config (List β)) : Replica β where
  server := c.server.map (ServerInstance.start E)
  client := c.client.map ClientInstance.start

/-- One event. An instance ignores the events of the other. -/
def apply (E : Server.Env β) (r : Replica β) : ConfigChange β → Replica β
  | .general c => start E c
  | .serverChange e => { r with server := r.server.map (fun s => s.handleHotReload E e) }
  | .clientChange e => { r with client := r.client.map (fun s => s.handleHotReload e) }

/-- The events, in the order they were sent. -/
def replay (E : Server.Env β) (r : Replica β) (events : List (ConfigChange β)) : Replica β :=
  events.foldl (apply E) r

end Replica

/-- The server has the services of the configuration, by digest, and differs
    from it in nothing else. -/
def ServerInstance.Agrees (E : Server.Env β) (s : ServerInstance β) (c : ServerConfig (List β)) :
    Prop :=
  InstanceConfig.equalWithoutService s.config c = true ∧
    HashMap.Mirrors E.alphabet.digest s.services c.services

/-- The client has a handle for each service, with its configuration, and
    differs from it in nothing else. -/
def ClientInstance.Agrees (s : ClientInstance β) (c : ClientConfig (List β)) : Prop :=
  InstanceConfig.equalWithoutService s.config c = true ∧
    ∀ name, (s.serviceHandles.lookup name).map (fun h => h.service) = c.services.lookup name

/-- What is run is what the configuration asks for. -/
structure Replica.Agrees (E : Server.Env β) (r : Replica β) (c : Config (List β)) : Prop where
  server : Option.Rel (ServerInstance.Agrees E) r.server c.server
  client : Option.Rel ClientInstance.Agrees r.client c.client

/-- The valid configurations, the first one included. -/
def history (c : Config (List β)) (files : List (Option (Config (List β)))) :
    List (Config (List β)) :=
  c :: files.filterMap Config.fromFile

/-- The names of the server's services. -/
def Config.serverNames (c : Config (List β)) : Set (List β) :=
  {name | name ∈ (servicesOf c.server).keys}

/-! ### One server -/

section Server

variable {E : Server.Env β}

/-- The change of the source for a change of the map. -/
def serverChange (c : HashMap.Change (List β) (ServerServiceConfig (List β))) :
    Server.ServerServiceChange β :=
  match c.2 with
  | none => .delete c.1
  | some cfg => .add cfg

/-- Changes of services with their names as keys. -/
theorem fold_handleHotReload :
    ∀ (cs : List (HashMap.Change (List β) (ServerServiceConfig (List β))))
    (s : ServerInstance β), (∀ k cfg, (k, some cfg) ∈ cs → cfg.name = k) →
    let t := cs.foldl (fun s c => s.handleHotReload E (serverChange c)) s
    t.config = s.config ∧
      t.services = s.services.patch (HashMap.relabel E.alphabet.digest cs) ∧
      ∀ y, y ∈ t.channels.items ↔ y ∈ s.channels.items ∧
        y.1 ∉ (HashMap.relabel E.alphabet.digest cs).map Prod.fst := by
  intro cs
  induction cs with
  | nil =>
      intro s _
      refine ⟨rfl, rfl, fun y => ?_⟩
      simp only [List.foldl_nil, HashMap.relabel, List.map_nil, List.not_mem_nil,
        not_false_eq_true, and_true]
  | cons c cs ih =>
      intro s hnamed
      -- An addition is filed under the digest of its own name, which is its key.
      have hdigest : (serverChange c).digest E = E.alphabet.digest c.1 := by
        rcases c with ⟨k, _ | cfg⟩
        · rfl
        · rw [serverChange, Server.ServerServiceChange.digest,
            hnamed k cfg List.mem_cons_self]
      have hstep : (serverChange c).apply E s.services =
          HashMap.Change.apply s.services (E.alphabet.digest c.1, c.2) := by
        rcases c with ⟨k, _ | cfg⟩
        · rfl
        · have hkey : s.services.insert ((serverChange (k, some cfg)).digest E) cfg =
              s.services.insert (E.alphabet.digest k) cfg := by rw [hdigest]
          exact hkey
      -- The first change, then the rest from what it leaves.
      rcases ih (s.handleHotReload E (serverChange c))
        (fun k cfg hin => hnamed k cfg (List.mem_cons_of_mem c hin)) with ⟨h1, h2, h3⟩
      refine ⟨h1, ?_, fun y => ?_⟩
      · rw [List.foldl_cons, h2, ServerInstance.handleHotReload, hstep]
        rfl
      · -- A channel goes if the first change or a later one has its digest.
        rw [List.foldl_cons, h3 y, ServerInstance.handleHotReload, MultiMap.mem_remove1_iff,
          hdigest]
        simp only [HashMap.relabel, List.map_cons, List.mem_cons, not_or, ne_eq, and_assoc]

/-- The events of a difference, on what may be a server. -/
theorem replay_server (cs : List (HashMap.Change (List β) (ServerServiceConfig (List β)))) :
    ∀ r : Replica β, r.replay E (cs.map (changeEvent (ServerConfig (List β)))) =
      { r with server := r.server.map (fun s =>
          cs.foldl (fun s c => s.handleHotReload E (serverChange c)) s) } := by
  induction cs with
  | nil =>
      intro r
      rw [show (fun s : ServerInstance β => List.foldl
        (fun s c => s.handleHotReload E (serverChange c)) s []) = id from rfl, Option.map_id]
      rfl
  | cons c cs ih =>
      intro r
      have hevent : r.apply E (changeEvent (ServerConfig (List β)) c) =
          { r with server := r.server.map (fun s => s.handleHotReload E (serverChange c)) } := by
        rcases c with ⟨k, _ | cfg⟩
        · rfl
        · rfl
      have hrest := ih (r.apply E (changeEvent (ServerConfig (List β)) c))
      rw [hevent] at hrest
      rw [List.map_cons, Replica.replay, List.foldl_cons, hevent]
      refine hrest.trans ?_
      rw [Option.map_map]
      rfl

/-- Nothing is deleted from an empty map. -/
theorem diff_empty {υ : Type} [DecidableEq υ] (m : HashMap (List β) υ) :
    HashMap.diff ∅ m = m.entries.map (fun u => (u.1, some u.2)) := by
  unfold HashMap.diff
  have hall : m.entries.filter (fun u => (∅ : HashMap (List β) υ).lookup u.1 ≠ some u.2) =
      m.entries := by
    rw [List.filter_eq_self]
    intro u _
    simp only [AList.lookup_empty, ne_eq, reduceCtorEq, not_false_eq_true, decide_true]
  rw [hall]
  rfl

/-- A server that is started has the services of its configuration. -/
theorem agrees_start_server {c : ServerConfig (List β)}
    (hinj : Set.InjOn E.alphabet.digest {name | name ∈ c.services.keys}) :
    (ServerInstance.start E c).Agrees E c := by
  refine ⟨((serverConfig_beq_iff c c).mp ?_).1, ?_⟩
  · rw [serverConfig_beq_iff]
    exact ⟨by simp only [InstanceConfig.equalWithoutService, ServerConfig.beq, decide_true,
      Bool.and_self, HashMap.beq_iff.mpr (fun _ => rfl)], fun _ => rfl⟩
  · have hempty : HashMap.Mirrors E.alphabet.digest
        (∅ : HashMap (Digest β) (ServerServiceConfig (List β)))
        (∅ : HashMap (List β) (ServerServiceConfig (List β))) := by
      intro d v
      simp only [AList.lookup_empty, reduceCtorEq, and_false, exists_false]
    -- Starting is patching an empty map with everything.
    have hpatch := HashMap.mirrors_patch hinj
      (fun k hk => absurd hk (by simp only [AList.keys_empty, List.not_mem_nil,
        not_false_eq_true])) (fun k hk => hk) hempty
    rw [diff_empty] at hpatch
    have heq : Server.generateServiceHashmap E.alphabet c =
        HashMap.patch ∅ (HashMap.relabel E.alphabet.digest
          (c.services.entries.map (fun u => (u.1, some u.2)))) := by
      rw [Server.generateServiceHashmap, HashMap.patch, HashMap.relabel, List.foldl_map,
        List.foldl_map]
      rfl
    rw [ServerInstance.start, heq]
    exact hpatch

/-- The main loop does to the two maps what one event does, when it gets its
    guards at once. -/
theorem reload_of_exec {s : Server β} (hrun : s.aborted = false) (hmain : s.main = .serving)
    (hservices : s.servicesLock = RwLock.free) (hchannels : s.channelsLock = RwLock.free)
    (e : Server.ServerServiceChange β) (config : ServerConfig (List β)) :
    ∃ t, exec (Server.step E) s [.reload e, .reloadServices, .reloadChannels] = some t ∧
      ({ config := config, services := t.services, channels := t.channels } : ServerInstance β) =
        ServerInstance.handleHotReload E
          { config := config, services := s.services, channels := s.channels } e ∧
      t.conns = s.conns ∧ t.handles = s.handles ∧ t.main = .serving := by
  rcases s with ⟨services, channels, servicesLock, channelsLock, conns, handles, main, aborted⟩
  simp only at hrun hmain hservices hchannels
  rw [hrun, hmain, hservices, hchannels]
  cases e with
  | add cfg => exact ⟨_, rfl, rfl, rfl, rfl, rfl⟩
  | delete name => exact ⟨_, rfl, rfl, rfl, rfl, rfl⟩

end Server

/-! ### One client -/

section Client

/-- One change of the map, on the client. -/
def ClientInstance.change (s : ClientInstance β)
    (c : HashMap.Change (List β) (ClientServiceConfig (List β))) : ClientInstance β :=
  match c.2 with
  | none => s.removeHandle c.1
  | some cfg => s.addHandle c.1 cfg

theorem lookup_change_ne (s : ClientInstance β)
    {c : HashMap.Change (List β) (ClientServiceConfig (List β))} {name : List β}
    (h : name ≠ c.1) : (s.change c).serviceHandles.lookup name = s.serviceHandles.lookup name := by
  rcases c with ⟨k, _ | cfg⟩
  · exact AList.lookup_erase_ne h
  · exact AList.lookup_insert_ne h

/-- What a change leaves under its name is as it says, and new. -/
theorem lookup_change_self (s : ClientInstance β)
    (c : HashMap.Change (List β) (ClientServiceConfig (List β))) :
    ((s.change c).serviceHandles.lookup c.1).map (fun h => h.service) = c.2 ∧
      ∀ h, (s.change c).serviceHandles.lookup c.1 = some h → h.number = s.made := by
  rcases c with ⟨k, _ | cfg⟩
  · have hl : (s.change (k, none)).serviceHandles.lookup k = none := AList.lookup_erase _ _
    simp only [hl, Option.map_none, reduceCtorEq, false_implies, implies_true, and_self]
  · have hl : (s.change (k, some cfg)).serviceHandles.lookup k =
        some { service := cfg, number := s.made } := AList.lookup_insert _
    simp only [hl, Option.map_some, Option.some.injEq]
    refine ⟨trivial, fun h hh => ?_⟩
    rw [← hh]

/-- The events of a difference, on what may be a client. -/
theorem replay_client (E : Server.Env β) :
    ∀ (cs : List (HashMap.Change (List β) (ClientServiceConfig (List β)))),
      (∀ k cfg, (k, some cfg) ∈ cs → cfg.name = k) → ∀ r : Replica β,
      r.replay E (cs.map (changeEvent (ClientConfig (List β)))) =
        { r with client := r.client.map (fun s => cs.foldl ClientInstance.change s) } := by
  intro cs
  induction cs with
  | nil =>
      intro _ r
      rw [show (fun s : ClientInstance β => List.foldl ClientInstance.change s []) = id from rfl,
        Option.map_id]
      rfl
  | cons c cs ih =>
      intro hnamed r
      have hevent : r.apply E (changeEvent (ClientConfig (List β)) c) =
          { r with client := r.client.map (fun s => s.change c) } := by
        rcases c with ⟨k, _ | cfg⟩
        · rfl
        · -- The client files an addition under its name, which is its key.
          have hname : cfg.name = k := hnamed k cfg List.mem_cons_self
          have hadd : (fun s : ClientInstance β => s.addHandle cfg.name cfg) =
              fun s => s.addHandle k cfg := by rw [hname]
          have heq : ({ r with client := r.client.map (fun s => s.addHandle cfg.name cfg) } :
              Replica β) = { r with client := r.client.map (fun s => s.addHandle k cfg) } := by
            rw [hadd]
          exact heq
      have hrest := ih (fun k cfg hin => hnamed k cfg (List.mem_cons_of_mem c hin))
        (r.apply E (changeEvent (ClientConfig (List β)) c))
      rw [hevent] at hrest
      rw [List.map_cons, Replica.replay, List.foldl_cons, hevent]
      refine hrest.trans ?_
      rw [Option.map_map]
      rfl

/-- Changes with no name twice, on the client: a name that is not changed
    keeps its handle, and the others have what they were changed to, with new
    handles. -/
theorem fold_change : ∀ (cs : List (HashMap.Change (List β) (ClientServiceConfig (List β))))
    (s : ClientInstance β), (cs.map Prod.fst).Nodup →
    let t := cs.foldl ClientInstance.change s
    t.config = s.config ∧ s.made ≤ t.made ∧
      (∀ name, name ∉ cs.map Prod.fst →
        t.serviceHandles.lookup name = s.serviceHandles.lookup name) ∧
      ∀ c ∈ cs, (t.serviceHandles.lookup c.1).map (fun h => h.service) = c.2 ∧
        ∀ h, t.serviceHandles.lookup c.1 = some h → s.made ≤ h.number := by
  intro cs
  induction cs with
  | nil =>
      exact fun s _ => ⟨rfl, Nat.le_refl _, fun _ _ => rfl,
        fun c hc => absurd hc List.not_mem_nil⟩
  | cons c cs ih =>
      intro s hnodup
      rw [List.map_cons, List.nodup_cons] at hnodup
      have hmade : s.made ≤ (s.change c).made := by
        rcases c with ⟨k, _ | cfg⟩
        · exact Nat.le_refl _
        · exact Nat.le_succ _
      have hconfig : (s.change c).config = s.config := by
        rcases c with ⟨k, _ | cfg⟩
        · rfl
        · rfl
      rcases ih (s.change c) hnodup.2 with ⟨h1, h2, h3, h4⟩
      refine ⟨h1.trans hconfig, Nat.le_trans hmade h2, fun name hname => ?_, fun d hd => ?_⟩
      · -- A name no change has is not touched by any of them.
        rw [List.map_cons, List.mem_cons, not_or] at hname
        exact (h3 name hname.2).trans (lookup_change_ne s hname.1)
      · rcases List.mem_cons.mp hd with hd | hd
        · -- No later change has this name.
          rw [hd]
          have hkept := h3 c.1 hnodup.1
          rcases lookup_change_self s c with ⟨hservice, hnumber⟩
          refine ⟨(congrArg _ hkept).trans hservice, fun h hh => ?_⟩
          rw [hnumber h (hkept.symm.trans hh)]
        · rcases h4 d hd with ⟨hservice, hnumber⟩
          exact ⟨hservice, fun h hh => Nat.le_trans hmade (hnumber h hh)⟩

/-- The handles of an old configuration become those of a new one. -/
theorem agrees_fold_change {s : ClientInstance β}
    {old new : HashMap (List β) (ClientServiceConfig (List β))}
    (hold : ∀ name, (s.serviceHandles.lookup name).map (fun h => h.service) = old.lookup name)
    (name : List β) :
    (((HashMap.diff old new).foldl ClientInstance.change s).serviceHandles.lookup name).map
      (fun h => h.service) = new.lookup name := by
  rcases fold_change _ s (HashMap.nodup_diff old new) with ⟨_, _, hkept, hchanged⟩
  -- A name is changed to its new value, or had it already.
  by_cases hname : name ∈ (HashMap.diff old new).map Prod.fst
  · have hin : (name, new.lookup name) ∈ HashMap.diff old new :=
      HashMap.mem_diff_iff.mpr ⟨rfl, HashMap.mem_keys_diff_iff.mp hname⟩
    exact (hchanged _ hin).1
  · have hsame : old.lookup name = new.lookup name := by
      by_contra hne
      exact hname (HashMap.mem_keys_diff_iff.mpr hne)
    rw [hkept name hname, hold name, hsame]

/-- A client that is started has a handle for each service. -/
theorem agrees_start_client (c : ClientConfig (List β)) : (ClientInstance.start c).Agrees c := by
  have hstart : ClientInstance.start c =
      (HashMap.diff ∅ c.services).foldl ClientInstance.change (ClientInstance.idle c) := by
    rw [diff_empty, List.foldl_map]
    rfl
  have hconfig : (ClientInstance.start c).config = c := by
    rw [hstart]
    exact (fold_change _ (ClientInstance.idle c) (HashMap.nodup_diff ∅ c.services)).1
  refine ⟨?_, ?_⟩
  · rw [hconfig]
    refine ((clientConfig_beq_iff c c).mp ?_).1
    simp only [ClientConfig.beq, decide_true, Bool.and_self, HashMap.beq_iff.mpr (fun _ => rfl)]
  · intro name
    rw [hstart]
    exact agrees_fold_change (fun name => by
      simp only [ClientInstance.idle, AList.lookup_empty, Option.map_none]) name

end Client

/-! ### One change -/

section Change

variable {E : Server.Env β}

theorem serverConfig_trans {c1 c2 c3 : ServerConfig (List β)}
    (h : InstanceConfig.equalWithoutService c1 c2 = true)
    (h' : InstanceConfig.equalWithoutService c2 c3 = true) :
    InstanceConfig.equalWithoutService c1 c3 = true := by
  simp only [InstanceConfig.equalWithoutService, ServerConfig.beq, Bool.and_eq_true,
    decide_eq_true_eq] at h h' ⊢
  rcases h with ⟨⟨⟨⟨⟨⟨h1, h2⟩, h3⟩, h4⟩, h5⟩, h6⟩, h7⟩
  rcases h' with ⟨⟨⟨⟨⟨⟨h1', h2'⟩, h3'⟩, h4'⟩, _⟩, h6'⟩, h7'⟩
  exact ⟨⟨⟨⟨⟨⟨h1.trans h1', h2.trans h2'⟩, h3.trans h3'⟩, h4.trans h4'⟩, h5⟩, h6.trans h6'⟩,
    h7.trans h7'⟩

theorem clientConfig_trans {c1 c2 c3 : ClientConfig (List β)}
    (h : InstanceConfig.equalWithoutService c1 c2 = true)
    (h' : InstanceConfig.equalWithoutService c2 c3 = true) :
    InstanceConfig.equalWithoutService c1 c3 = true := by
  simp only [InstanceConfig.equalWithoutService, ClientConfig.beq, Bool.and_eq_true,
    decide_eq_true_eq] at h h' ⊢
  rcases h with ⟨⟨⟨⟨⟨⟨h1, h2⟩, h3⟩, h4⟩, h5⟩, h6⟩, h7⟩
  rcases h' with ⟨⟨⟨⟨⟨⟨h1', h2'⟩, h3'⟩, _⟩, h5'⟩, h6'⟩, h7'⟩
  exact ⟨⟨⟨⟨⟨⟨h1.trans h1', h2.trans h2'⟩, h3.trans h3'⟩, h4⟩, h5.trans h5'⟩, h6.trans h6'⟩,
    h7.trans h7'⟩

/-- The changes of a server's services name them by their keys. -/
theorem named_diff_server (old : Config (List β)) {new : Config (List β)} (hnew : new.Named) :
    ∀ k cfg, (k, some cfg) ∈ HashMap.diff (servicesOf old.server) (servicesOf new.server) →
      cfg.name = k := by
  intro k cfg hin
  have hl := (HashMap.mem_diff_iff.mp hin).1
  cases hs : new.server with
  | none =>
      rw [hs] at hl
      simp only [servicesOf, AList.lookup_empty, reduceCtorEq] at hl
  | some server =>
      rw [hs] at hl
      exact hnew.1 server hs k cfg hl

theorem named_diff_client (old : Config (List β)) {new : Config (List β)} (hnew : new.Named) :
    ∀ k cfg, (k, some cfg) ∈ HashMap.diff (servicesOf old.client) (servicesOf new.client) →
      cfg.name = k := by
  intro k cfg hin
  have hl := (HashMap.mem_diff_iff.mp hin).1
  cases hs : new.client with
  | none =>
      rw [hs] at hl
      simp only [servicesOf, AList.lookup_empty, reduceCtorEq] at hl
  | some client =>
      rw [hs] at hl
      exact hnew.2 client hs k cfg hl

/-- The events of a change of services, on both instances. -/
theorem replay_serviceEvents {old new : Config (List β)} (hnew : new.Named) (r : Replica β) :
    r.replay E (serviceEvents old new) = {
      server := r.server.map (fun s =>
        (HashMap.diff (servicesOf old.server) (servicesOf new.server)).foldl
          (fun s c => s.handleHotReload E (serverChange c)) s)
      client := r.client.map (fun s =>
        (HashMap.diff (servicesOf old.client) (servicesOf new.client)).foldl
          ClientInstance.change s) } := by
  have hserver := replay_server (E := E)
    (HashMap.diff (servicesOf old.server) (servicesOf new.server)) r
  have hclient := replay_client E _ (named_diff_client old hnew)
  unfold serviceEvents
  rw [Replica.replay, List.foldl_append]
  rw [Replica.replay] at hserver
  rw [hserver]
  exact hclient _

theorem agrees_start {c : Config (List β)} (hinj : Set.InjOn E.alphabet.digest c.serverNames) :
    (Replica.start E c).Agrees E c where
  server := by
    unfold Replica.start
    cases hs : c.server with
    | none => exact Option.Rel.none
    | some server =>
        refine Option.Rel.some (agrees_start_server (hinj.mono (fun name hname => ?_)))
        simp only [Config.serverNames, hs]
        exact hname
  client := by
    unfold Replica.start
    cases c.client with
    | none => exact Option.Rel.none
    | some client => exact Option.Rel.some (agrees_start_client client)

/-- The step lemma: a valid change takes a replica from one configuration to
    the next. -/
theorem agrees_of_change {S : Set (List β)} (hinj : Set.InjOn E.alphabet.digest S)
    {old new : Config (List β)} (hnew : new.Named) (hS : old.serverNames ⊆ S)
    (hS' : new.serverNames ⊆ S) {r : Replica β} (hr : r.Agrees E old) :
    (r.replay E (changeEvents old new)).Agrees E new := by
  rcases changeEvents_cases old new with ⟨_, h⟩ | ⟨hpatch, h⟩
  · -- A restart: what was run before does not matter.
    rw [h]
    exact agrees_start (hinj.mono hS')
  · rw [h, replay_serviceEvents hnew]
    have hnamed := named_diff_server old hnew
    constructor
    · -- A patch keeps a server that is there, and no server where there was none.
      have hrs := hr.server
      have hps := hpatch.server
      simp only [Config.serverNames] at hS hS'
      cases hserver : r.server with
      | none =>
          rw [hserver] at hrs
          generalize old.server = a at hrs hps
          generalize new.server = b at hps
          cases hrs
          cases hps
          exact Option.Rel.none
      | some s =>
          rw [hserver] at hrs
          generalize old.server = a at hrs hps hS hnamed
          generalize new.server = b at hps hS' hnamed
          cases hrs with
          | some hagree => cases hps with
            | some hsame =>
                rcases fold_handleHotReload (E := E) _ s hnamed with ⟨hconfig, hservices, _⟩
                refine Option.Rel.some ⟨?_, ?_⟩
                · rw [hconfig]
                  exact serverConfig_trans hagree.1 hsame
                · rw [hservices]
                  exact HashMap.mirrors_patch hinj hS hS' hagree.2
    · -- The same for the client, whose handles are by name.
      have hrc := hr.client
      have hpc := hpatch.client
      cases hclient : r.client with
      | none =>
          rw [hclient] at hrc
          generalize old.client = a at hrc hpc
          generalize new.client = b at hpc
          cases hrc
          cases hpc
          exact Option.Rel.none
      | some s =>
          rw [hclient] at hrc
          generalize old.client = a at hrc hpc
          generalize new.client = b at hpc
          cases hrc with
          | @some _ o hagree => cases hpc with
            | @some _ n hsame =>
                have hconfig := (fold_change _ s (HashMap.nodup_diff o.services n.services)).1
                have heq := clientConfig_trans hagree.1 hsame
                rw [← hconfig] at heq
                exact Option.Rel.some ⟨heq, fun name => agrees_fold_change hagree.2 name⟩

/-- The run lemma. -/
theorem agrees_of_files {S : Set (List β)} (hinj : Set.InjOn E.alphabet.digest S) :
    ∀ (files : List (Option (Config (List β)))) (c : Config (List β)) (r : Replica β),
      (∀ c' ∈ history c files, c'.serverNames ⊆ S) → r.Agrees E c →
      (r.replay E (configWatcher c files)).Agrees E (lastValid c files) := by
  intro files
  induction files with
  | nil => exact fun c r _ hr => hr
  | cons file files ih =>
      intro c r hS hr
      cases hf : Config.fromFile file with
      | none =>
          -- Not a configuration: nothing is sent, and `c` stays in force.
          simp only [configWatcher, lastValid, hf]
          refine ih c r (fun c' hc' => hS c' ?_) hr
          simp only [history, List.filterMap_cons, hf]
          exact hc'
      | some new =>
          simp only [configWatcher, lastValid, hf]
          have hin : ∀ c' ∈ history new files, c' ∈ history c (file :: files) := by
            intro c' hc'
            simp only [history, List.filterMap_cons, hf]
            exact List.mem_cons_of_mem c hc'
          -- Its events first, then those of the files after it.
          rw [Replica.replay, List.foldl_append]
          refine ih new _ (fun c' hc' => hS c' (hin c' hc')) ?_
          exact agrees_of_change hinj (named_of_fromFile hf) (hS c List.mem_cons_self)
            (hS new (hin new List.mem_cons_self)) hr

end Change

/-! ### All changes -/

/-- The control channels a change of services costs a server. -/
theorem channels_of_change {E : Server.Env β} {old new : Config (List β)} (hnew : new.Named)
    (hpatch : changeEvents old new = serviceEvents old new) {r : Replica β} {s : ServerInstance β}
    (hs : r.server = some s) : ∃ s', (r.replay E (changeEvents old new)).server = some s' ∧
      ∀ y, y ∈ s'.channels.items ↔ y ∈ s.channels.items ∧ ¬ ∃ name, E.alphabet.digest name = y.1 ∧
        (servicesOf old.server).lookup name ≠ (servicesOf new.server).lookup name := by
  rw [hpatch, replay_serviceEvents hnew, hs]
  refine ⟨_, rfl, fun y => ?_⟩
  rcases fold_handleHotReload (E := E) _ s (named_diff_server old hnew) with ⟨_, _, h⟩
  -- The digests of the changes are those of the names that differ.
  rw [h y, HashMap.mem_keys_relabel_diff_iff]

/-- The handles a change of services costs a client: those of other services
    are the ones they were. -/
theorem handles_of_change {E : Server.Env β} {old new : Config (List β)} (hnew : new.Named)
    (hpatch : changeEvents old new = serviceEvents old new) {r : Replica β} {s : ClientInstance β}
    (hs : r.client = some s) : ∃ s', (r.replay E (changeEvents old new)).client = some s' ∧
      ∀ name h, s.serviceHandles.lookup name = some h →
        (s'.serviceHandles.lookup name = some h ↔
          (servicesOf old.client).lookup name = (servicesOf new.client).lookup name) := by
  rw [hpatch, replay_serviceEvents hnew, hs]
  refine ⟨_, rfl, fun name h hh => ?_⟩
  rcases fold_change _ s (HashMap.nodup_diff (servicesOf old.client) (servicesOf new.client)) with
    ⟨_, _, hkept, hchanged⟩
  constructor
  · intro hl
    by_contra hne
    have hin : (name, (servicesOf new.client).lookup name) ∈
        HashMap.diff (servicesOf old.client) (servicesOf new.client) :=
      HashMap.mem_diff_iff.mpr ⟨rfl, hne⟩
    -- The handle would be new.
    have hle := (hchanged _ hin).2 h hl
    have hlt := s.fresh name h hh
    omega
  · intro heq
    exact (hkept name (fun hin => HashMap.mem_keys_diff_iff.mp hin heq)).trans hh

/-- For any sequence of files, in whatever order the services of each are
    walked through: all events end to end leave what is run with the services
    of the last valid configuration. The events of a valid file come after
    those of the files before it; there are none exactly if nothing has
    changed; and if they are not a restart, those control channels are lost
    whose service has another configuration or none. -/
theorem hot_reload_converges (E : Server.Env β) (c : Config (List β))
    (files : List (Option (Config (List β))))
    (hinj : Set.InjOn E.alphabet.digest {name | ∃ c' ∈ history c files, name ∈ c'.serverNames}) :
    (∀ r : Replica β,
      (r.replay E (.general c :: configWatcher c files)).Agrees E (lastValid c files)) ∧
    ∀ (pre post : List (Option (Config (List β)))) (file' : Option (Config (List β)))
      (old new : Config (List β)), files = pre ++ file' :: post → old = lastValid c pre →
      Config.fromFile file' = some new →
      configWatcher c files =
        configWatcher c pre ++ changeEvents old new ++ configWatcher new post ∧
      (changeEvents old new = [] ↔ old.beq new = true) ∧
      ((∀ c', ConfigChange.general c' ∉ changeEvents old new) → ∀ r : Replica β,
        (∀ s, r.server = some s → ∃ s', (r.replay E (changeEvents old new)).server = some s' ∧
          ∀ y, y ∈ s'.channels.items ↔ y ∈ s.channels.items ∧
            ¬ ∃ name, E.alphabet.digest name = y.1 ∧
              (servicesOf old.server).lookup name ≠ (servicesOf new.server).lookup name) ∧
        ∀ s, r.client = some s → ∃ s', (r.replay E (changeEvents old new)).client = some s' ∧
          ∀ name h, s.serviceHandles.lookup name = some h →
            (s'.serviceHandles.lookup name = some h ↔
              (servicesOf old.client).lookup name = (servicesOf new.client).lookup name)) := by
  have hS : ∀ c' ∈ history c files, c'.serverNames ⊆
      {name | ∃ c' ∈ history c files, name ∈ c'.serverNames} :=
    fun c' hc' name hname => ⟨c', hc', hname⟩
  constructor
  · intro r
    have hstart : (Replica.start E c).Agrees E c :=
      agrees_start (hinj.mono (hS c List.mem_cons_self))
    exact agrees_of_files hinj files c _ hS hstart
  · intro pre post file' old new hfiles hold hnew
    have hnamed : new.Named := named_of_fromFile hnew
    refine ⟨?_, changeEvents_eq_nil_iff old new, fun hpatch r => ?_⟩
    · rw [hfiles, configWatcher_append, ← hold, List.append_assoc]
      simp only [configWatcher, hnew]
    · rcases changeEvents_cases old new with ⟨_, h⟩ | ⟨_, h⟩
      · -- `hpatch` rules the restart out.
        exact absurd (by rw [h]; exact List.mem_singleton.mpr rfl) (hpatch new)
      · exact ⟨fun s hs => channels_of_change hnamed h hs,
          fun s hs => handles_of_change hnamed h hs⟩

/-- A server with some services, as it is parsed. -/
def parsedServer (services : HashMap (List UInt8) (ServerServiceConfig (List UInt8))) :
    Config (List UInt8) where
  server := some {
    bindAddr := "0.0.0.0:2333"
    defaultToken := some sampleToken
    jwtSecret := "secret"
    defaultCloudBackend := none
    services := services
    transport := {
      transportType := .tcp
      tcp := { nodelay := true, keepaliveSecs := 20, keepaliveInterval := 8, proxy := none }
      tls := none
      noise := none
      websocket := none }
    heartbeatInterval := 30 }
  client := none

/-- One service, without a token of its own. -/
def parsedSsh : HashMap (List UInt8) (ServerServiceConfig (List UInt8)) :=
  (∅ : HashMap (List UInt8) (ServerServiceConfig (List UInt8))).insert sampleName
    { Server.sshService with name := [], token := none }

/-- An unreadable file is skipped, and then the service is deleted. -/
theorem hot_reload_converges_deleted :
    ∃ c, Config.fromFile (some (parsedServer parsedSsh)) = some c ∧
      ((Replica.start Server.sampleEnv c).replay Server.sampleEnv
        (.general c :: configWatcher c [none, some (parsedServer ∅)])).Agrees Server.sampleEnv
        (lastValid c [none, some (parsedServer ∅)]) ∧
      (lastValid c [none, some (parsedServer ∅)]).serverNames = ∅ := by
  rcases hc : Config.fromFile (some (parsedServer parsedSsh)) with _ | c
  · exact absurd (congrArg Option.isSome hc) (by decide)
  · have hnames : (Config.fromFile (some (parsedServer parsedSsh))).all (fun c =>
        (history c [none, some (parsedServer ∅)]).all (fun c' =>
          (servicesOf c'.server).keys.all (fun name => name = sampleName))) = true := by decide
    have hlast : (Config.fromFile (some (parsedServer parsedSsh))).all (fun c =>
        (servicesOf (lastValid c [none, some (parsedServer ∅)]).server).keys.isEmpty) = true := by
      decide
    rw [hc, Option.all_some] at hnames hlast
    have hone : ∀ name, (∃ c' ∈ history c [none, some (parsedServer ∅)], name ∈ c'.serverNames) →
        name = sampleName := by
      intro name h
      rcases h with ⟨c', hc', hname⟩
      exact of_decide_eq_true (List.all_eq_true.mp (List.all_eq_true.mp hnames c' hc') name hname)
    refine ⟨c, rfl, (hot_reload_converges Server.sampleEnv c [none, some (parsedServer ∅)]
      (fun a ha b hb _ => (hone a ha).trans (hone b hb).symm)).1 _, ?_⟩
    rw [List.isEmpty_iff] at hlast
    refine Set.eq_empty_iff_forall_notMem.mpr (fun name hname => ?_)
    have hin : name ∈ (servicesOf (lastValid c [none, some (parsedServer ∅)]).server).keys := hname
    rw [hlast] at hin
    exact List.not_mem_nil hin

end Rathole
