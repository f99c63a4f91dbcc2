import Rathole.Agreement.Outcome
import Rathole.Process.Safety
import Rathole.Server.Reload

/-!
# Panics of a Configuration

Whether a run of a program can end in a panic of its configuration. If the
configuration is not sound there is a run that does, with a world that says
yes to everything: a client that connects, a connection that is accepted, or a
client of an HTTP service that shows its token.

## Main definitions

* `Process.Panicking`: Some run ends in such a panic.
* `Process.Answering`: A transport that accepts its clients.

## Theorems

* `Process.panicking_client`, `Process.panicking_server`: What a configuration
  that is not sound leads to.
* `Process.no_panic_iff_sound`: Only a sound configuration has no such run.
* `Process.identity_missing`: One that is accepted and is not sound.
-/


namespace Rathole

open FairLock Completion Transition

variable {β : Type} [DecidableEq β]

namespace Process

variable {E : Server.Env β} {P : Parsers} {b : Build} {later : List (Config (List β))}

/-! ### One that is not sound -/

section Unsound

/-- A run that ends in a panic of the configuration. -/
def Panicking (E : Server.Env β) (P : Parsers) (b : Build) (later : List (Config (List β)))
    (s : Process β) : Prop :=
  ∃ u, Reaches (step E P b) (ChangesFrom later) s u ∧ u.ConfigPanic

/-- A transport of a server at which a client gets through. -/
structure Answering (P : Parsers) (t : Transport) (c : TransportConfig) : Prop where
  made : t.Of c
  identity : c.IdentitySet
  answers : Transport.Answers P c

theorem Panicking.head {s u : Process β} {a : ProcessAction β} (hok : ChangesFrom later s a)
    (h : step E P b s a = some u) (hu : Panicking E P b later u) : Panicking E P b later s := by
  rcases hu with ⟨v, hv, hp⟩
  exact ⟨v, Reaches.head hok h hv, hp⟩

/-- A step that panics. -/
theorem Panicking.of_panics {s : Process β} {a : ProcessAction β} {x : Completion Panic (Process β)}
    (hok : ChangesFrom later s a) (h : step E P b s a = some (ofCompletion x))
    (hx : Panics Panic.OfConfig x) : Panicking E P b later s := by
  rcases hx with ⟨p, hx, hp⟩
  rw [hx] at h
  exact Panicking.head hok h ⟨_, Reaches.refl, hp⟩

theorem panicking_relay {c : Config (List β)} (h : ¬ c.Sound E P b later .relay) :
    Panicking E P b later (.starting .relay c) := by
  have hnone : c.server = none := Option.not_isSome_iff_eq_none.mp h
  refine Panicking.of_panics (a := .start granted) (x := startRelay granted c) trivial rfl ?_
  simp only [startRelay, panics_bind, panics_unwrap, hnone, true_and]
  exact Or.inl trivial

/-! #### A client -/

/-- A task that has resolved the address for the first time. -/
def atConnect (cfg : ClientServiceConfig (List β)) : ControlTask β where
  service := cfg
  task := {
    stage := .running (.handshake { pc := .connecting, inbox := [], sent := [] })
    handle := .alive }
  established := false

/-- The panic of a connect is two awaits away. -/
theorem panicking_connect {t : Transport} {client : ClientConfig (List β)}
    {tasks : List (ControlTask β)} {i : Nat} {cfg : ClientServiceConfig (List β)}
    (hk : tasks[i]? = some (ControlTask.new cfg)) (hport : HasPort client.remoteAddr)
    (hp : Panics Panic.OfConfig (t.connect P granted (remote client))) :
    Panicking E P b later (.connecting t client tasks) := by
  have haddr : toSocketAddr granted client.remoteAddr = .ok () :=
    toSocketAddr_eq_ok.mpr ⟨hport, rfl⟩
  have hact : (ControlTask.new cfg).act E.alphabet client.heartbeatTimeout (.run .advance) =
      some (atConnect cfg) := rfl
  have hdial : step E P b (.connecting t client tasks) (.dial i granted) =
      some (.connecting t client (tasks.set i (atConnect cfg))) := by
    have hstage : (ControlTask.new cfg).task.stage =
        .running (.handshake Client.Handshake.start) := rfl
    simp only [step, hk, dial, hstage, Client.Handshake.start, haddr, hact]
    rfl
  refine Panicking.head (a := .dial i granted) trivial hdial ?_
  rcases hp with ⟨p, hx, hof⟩
  have hk' : (tasks.set i (atConnect cfg))[i]? = some (atConnect cfg) :=
    List.getElem?_set_self (List.getElem?_eq_some_iff.mp hk).1
  have hpanic : step E P b (.connecting t client (tasks.set i (atConnect cfg)))
      (.dial i granted) = some (.panicked p) := by
    have hstage : (atConnect cfg).task.stage =
        .running (.handshake { pc := .connecting, inbox := [], sent := [] }) := rfl
    simp only [step, hk', dial, hstage, hx]
  exact Panicking.head (a := .dial i granted) trivial hpanic ⟨_, Reaches.refl, hof⟩

theorem panicking_client {c : Config (List β)} (hc : c.Checked) (hlater : ∀ c ∈ later, c.Checked)
    (h : ¬ c.Sound E P b later .client) : Panicking E P b later (.starting .client c) := by
  simp only [Config.Sound, not_forall] at h
  rcases h with ⟨client, hclient, hunsound⟩
  rcases hc.2 client hclient with ⟨raw, hraw⟩
  by_cases hnew : b.has client.transport.transportType = true ∧ client.transport.PasswordSet
  · have hconnect : ¬ (client.Dials P later →
        Transport.Opens P client.transport client.remoteAddr ∧
          client.transport.tcp.ProxyComplete) :=
      fun hconnect => hunsound ⟨hnew.1, hnew.2, hconnect⟩
    simp only [Classical.not_imp] at hconnect
    rcases hconnect with ⟨⟨hport, hcreatable, hservice⟩, hbad⟩
    rcases Transport.new_granted hnew.1 hcreatable hnew.2 with ⟨t, ht⟩
    rcases validateClientConfig_ok hraw with ⟨_, _, htransport, _⟩
    have hp : Panics Panic.OfConfig (t.connect P granted (remote client)) :=
      (Transport.panics_connect (remote client) (Transport.of_new ht).1 hport
        (fun url hurl => proxy_of_validateTransportConfig htransport hurl)).mpr hbad
    have hstart : step E P b (.starting .client c) (.start granted) =
        some (.connecting t client
          (client.services.entries.map (fun u => ControlTask.new u.2))) := by
      have hok : startClient P b granted c =
          .ok (.connecting t client
            (client.services.entries.map (fun u => ControlTask.new u.2))) := by
        simp only [startClient, bind_eq_ok, okOr_eq_ok, pure_eq_ok]
        exact ⟨client, hclient, t, ht, _, mapM_spawn_services hraw, rfl⟩
      simp only [step, start, hok, ofCompletion]
    refine Panicking.head (a := .start granted) trivial hstart ?_
    rcases hservice with hne | ⟨cfg, hadds⟩
    · -- One of the services it starts with connects.
      rcases List.exists_cons_of_ne_nil hne with ⟨u, rest, hentries⟩
      have hfirst : (client.services.entries.map (fun u => ControlTask.new u.2))[0]? =
          some (ControlTask.new u.2) := by
        rw [hentries]
        rfl
      exact panicking_connect hfirst hport hp
    · -- The service is added first.
      have hspawn : spawn cfg = .ok (ControlTask.new cfg) :=
        spawn_eq_ok.mpr ⟨(checked_of_clientAdds hlater hadds).2, rfl⟩
      refine Panicking.head (a := .reload (.add cfg)) hadds rfl ?_
      simp only [reload, hspawn]
      exact panicking_connect (List.getElem?_concat_length) hport hp
  · rcases Transport.exists_panics_new.mpr hnew with ⟨w, hw⟩
    refine Panicking.of_panics (a := .start w) (x := startClient P b w c) trivial rfl ?_
    simp only [startClient, panics_bind, okOr_eq_ok]
    exact Or.inr ⟨client, hclient, Or.inl hw⟩

/-! #### A server -/

/-- What the tasks of the server do is done by the process. -/
theorem Panicking.of_exec {t : Transport} : ∀ (as : List (Server.Action β)) {s s' : Server β},
    (∀ a ∈ as, a ≠ .accept ∧ ∀ cfg, a ≠ .reload (.add cfg)) →
    exec (Server.step E) s as = some s' → s'.aborted = false →
    Panicking E P b later (.serving t s') → Panicking E P b later (.serving t s) := by
  intro as
  induction as with
  | nil =>
      intro s s' _ he _ hp
      simp only [exec, Option.some.injEq] at he
      rw [he]
      exact hp
  | cons a as ih =>
      intro s s' has he hrun hp
      rcases hstep : s.step E a with _ | s1
      · simp only [exec, hstep, reduceCtorEq] at he
      · simp only [exec, hstep] at he
        -- Only the last step could have been the end of the process.
        have hrun1 : s1.aborted = false := by
          cases as with
          | nil =>
              simp only [exec, Option.some.injEq] at he
              rw [he]
              exact hrun
          | cons a' as =>
              rcases hstep' : s1.step E a' with _ | s2
              · simp only [exec, hstep', reduceCtorEq] at he
              · exact Server.running_of_step hstep'
        have hserve : step E P b (.serving t s) (.server a) = some (.serving t s1) := by
          simp only [step, serve, if_neg (has a List.mem_cons_self).1, hstep, Option.map_some,
            hrun1, Bool.false_eq_true, if_false]
        have hok : ChangesFrom later (.serving t s) (.server a) := by
          cases a with
          | reload e =>
              cases e with
              | add cfg => exact absurd rfl ((has _ List.mem_cons_self).2 cfg)
              | delete name => exact trivial
          | _ => exact trivial
        exact Panicking.head hok hserve
          (ih (fun x hx => has x (List.mem_cons_of_mem a hx)) he hrun hp)

/-- The awaits of a handshake, up to the ack, with the bytes a client sends. -/
def greeting (S : Setting β) : List (Server.Action β) :=
  [.arrive S.conn S.clientHello, .read S.conn, .write S.conn, .lookup S.conn,
    .arrive S.conn S.auth, .read S.conn, .lock S.conn]

/-- A client with the token of a service gets to its ack. -/
theorem exec_greeting (S : Setting β) {cfg : ServerServiceConfig (List β)}
    (hcfg : S.services.lookup S.digest = some cfg) (htoken : cfg.token = some S.token) :
    exec (Server.step S.env) (S.serverAt .readingHello []) (greeting S) =
      some (S.serverAt (.sendingAck cfg) []) := by
  have hhello := S.serve_readingHello []
  have hauth := S.serve_readingAuth_eq [] cfg
  rw [List.append_nil] at hhello hauth
  rw [greeting, exec_cons (S.arrive_serverAt .readingHello [] S.clientHello), List.nil_append,
    exec_cons hhello, exec_cons (S.serve_sendingHello []),
    exec_cons (Setting.serve_lookingUp_some [] hcfg htoken),
    exec_cons (S.arrive_serverAt _ [] S.auth),
    List.nil_append, exec_cons hauth, exec_cons (S.serve_locking [] cfg)]
  rfl

/-- A client of a service of a server, at which nothing is going on. -/
def settingOf (E : Server.Env β) (s : Server β) (name token : List β) : Setting β where
  env := E
  service := {
    serviceType := .http
    name := name
    localAddr := ""
    preferIpv6 := false
    token := some token
    nodelay := none
    retryInterval := none }
  token := token
  services := s.services
  conns := s.conns
  channels := s.channels
  handles := s.handles
  commands := []

theorem accept_of_idle {s : Server β} (hs : s.Idle s.services) (name token : List β) :
    s.step E .accept = some ((settingOf E s name token).serverAt .readingHello []) := by
  rcases s with ⟨services, channels, servicesLock, channelsLock, conns, handles, main, aborted⟩
  rcases hs with ⟨_, hsl, hcl, hmain, hrun⟩
  simp only at hsl hcl hmain hrun
  rw [hsl, hcl, hmain, hrun]
  rfl

/-- A server that has an HTTP service panics when a client asks for it. -/
theorem panicking_http {t : Transport} {c : TransportConfig} (ht : Answering P t c) {s : Server β}
    (hs : s.Idle s.services) {name token : List β} {cfg : ServerServiceConfig (List β)}
    (hcfg : s.services.lookup (E.alphabet.digest name) = some cfg) (htoken : cfg.token = some token)
    (hhttp : cfg.serviceType = .http) : Panicking E P b later (.serving t s) := by
  have haccept : step E P b (.serving t s) (.accept granted) =
      some (.serving t ((settingOf E s name token).serverAt .readingHello [])) := by
    simp only [step, accept, hs.main, Transport.handshake_granted ht.made ht.identity ht.answers,
      accept_of_idle hs name token, Option.map_some]
  refine Panicking.head (a := .accept granted) trivial haccept ?_
  have hact : ∀ a ∈ greeting (settingOf E s name token),
      a ≠ .accept ∧ ∀ cfg, a ≠ .reload (.add cfg) := by
    intro a ha
    simp only [greeting, List.mem_cons, List.not_mem_nil, or_false] at ha
    rcases ha with rfl | rfl | rfl | rfl | rfl | rfl | rfl <;>
      simp only [ne_eq, reduceCtorEq, not_false_eq_true, implies_true, and_self]
  refine Panicking.of_exec _ hact
    (exec_greeting (settingOf E s name token) hcfg htoken) rfl ?_
  -- The ack is written, and the handle is to be made.
  rcases Setting.serve_sendingAck_http (P := settingOf E s name token) [] hhttp with
    ⟨u, hwrite, hab⟩
  refine Panicking.head (a := .server (.write (settingOf E s name token).conn)) trivial
    (u := .panicked .httpService) ?_ ⟨_, Reaches.refl, trivial⟩
  have hstep : Server.step E ((settingOf E s name token).serverAt (.sendingAck cfg) [])
      (.write (settingOf E s name token).conn) = some u := hwrite
  simp only [step, serve, reduceCtorEq, if_false, hstep, Option.map_some, hab, if_true,
    serverPanic]

omit [DecidableEq β] in
theorem idle_initial (services : HashMap (Digest β) (ServerServiceConfig (List β))) :
    (Server.initial services).Idle (Server.initial services).services :=
  ⟨rfl, rfl, rfl, rfl, rfl⟩

/-- A server that has just been started and given a service. -/
def reloaded (E : Server.Env β) (services : HashMap (Digest β) (ServerServiceConfig (List β)))
    (cfg : ServerServiceConfig (List β)) : Server β :=
  { Server.initial (services.insert (E.alphabet.digest cfg.name) cfg) with
    channels := (MultiMap.new.remove1 (E.alphabet.digest cfg.name)).2 }

/-- An HTTP service that is added is as good as one that was there. -/
theorem panicking_added {t : Transport} {c : TransportConfig} (ht : Answering P t c)
    (hlater : ∀ c ∈ later, c.Checked)
    (services : HashMap (Digest β) (ServerServiceConfig (List β)))
    {cfg : ServerServiceConfig (List β)} (hadds : ServerAdds later cfg)
    (hhttp : cfg.serviceType = .http) :
    Panicking E P b later (.serving t (Server.initial services)) := by
  rcases Option.isSome_iff_exists.mp (token_of_serverAdds hlater hadds) with ⟨token, htoken⟩
  have hlookup : (reloaded E services cfg).services.lookup (E.alphabet.digest cfg.name) =
      some cfg := AList.lookup_insert _
  refine Panicking.head (a := .server (.reload (.add cfg))) hadds rfl ?_
  refine Panicking.of_exec [.reloadServices, .reloadChannels] ?_
    (show exec _ _ _ = some (reloaded E services cfg) from rfl) rfl ?_
  · intro a ha
    simp only [List.mem_cons, List.not_mem_nil, or_false] at ha
    rcases ha with rfl | rfl <;>
      simp only [ne_eq, reduceCtorEq, not_false_eq_true, implies_true, and_self]
  · have hidle : (reloaded E services cfg).Idle (reloaded E services cfg).services :=
      ⟨rfl, rfl, rfl, rfl, rfl⟩
    exact panicking_http ht hidle hlookup htoken hhttp

theorem panicking_server {c : Config (List β)} (hc : c.Checked) (hlater : ∀ c ∈ later, c.Checked)
    (h : ¬ c.Sound E P b later .server) : Panicking E P b later (.starting .server c) := by
  simp only [Config.Sound, not_forall] at h
  rcases h with ⟨server, hserver, hunsound⟩
  rcases hc.1 server hserver with ⟨raw, hraw⟩
  by_cases hnew : b.has server.transport.transportType = true ∧ server.transport.PasswordSet
  · have hstart : HasPort server.bindAddr → server.transport.Creatable P →
        ∃ t, t.Of server.transport ∧ step E P b (.starting .server c) (.start granted) =
          some (.serving t (Server.initial (Server.generateServiceHashmap E.alphabet server))) := by
      intro hport hcreatable
      rcases Transport.new_granted hnew.1 hcreatable hnew.2 with ⟨t, ht⟩
      have hok : startServer E P b granted c = .ok
          (.serving t (Server.initial (Server.generateServiceHashmap E.alphabet server))) := by
        simp only [startServer, bind_eq_ok, okOr_eq_ok, ensure_eq_ok, pure_eq_ok]
        exact ⟨server, hserver, t, ht, (), toSocketAddr_eq_ok.mpr ⟨hport, rfl⟩, (), rfl, rfl⟩
      refine ⟨t, (Transport.of_new ht).1, ?_⟩
      simp only [step, start, hok, ofCompletion]
    by_cases hidentity : HasPort server.bindAddr → server.transport.IdentitySet
    · have hservice : ¬ (server.Serves P → ∀ cfg,
          ((∃ d, (Server.generateServiceHashmap E.alphabet server).lookup d = some cfg) ∨
            ServerAdds later cfg) → cfg.serviceType ≠ .http) :=
        fun hservice => hunsound ⟨hnew.1, hnew.2, hidentity, hservice⟩
      simp only [Classical.not_imp, not_forall, ne_eq, not_not] at hservice
      rcases hservice with ⟨⟨hport, hcreatable, hanswers⟩, cfg, hwhere, hhttp⟩
      rcases hstart hport hcreatable with ⟨t, hof, hst⟩
      have ht : Answering P t server.transport := ⟨hof, hidentity hport, hanswers⟩
      refine Panicking.head (a := .start granted) trivial hst ?_
      rcases hwhere with ⟨d, hd⟩ | hadds
      · rcases Server.exists_of_lookup_generateServiceHashmap hd with ⟨name, hname, rfl⟩
        rcases Option.isSome_iff_exists.mp (lookup_validateServerConfig hraw hname).2 with
          ⟨token, htoken⟩
        exact panicking_http ht (idle_initial _) hd htoken hhttp
      · exact panicking_added ht hlater _ hadds hhttp
    · -- The first handshake has nothing to accept with.
      simp only [Classical.not_imp] at hidentity
      rcases hidentity with ⟨hport, hunset⟩
      have huse : ∃ tls, server.transport.tlsInUse = some tls := by
        by_contra hnone
        exact hunset (fun tls htls => absurd ⟨tls, htls⟩ hnone)
      rcases huse with ⟨tls, htls⟩
      rcases hstart hport (TransportConfig.creatable_of_tlsInUse htls) with ⟨t, hof, hst⟩
      refine Panicking.head (a := .start granted) trivial hst ?_
      rcases (Transport.panics_handshake (P := P) (w := granted) hof).mpr hunset with ⟨p, hx, hp⟩
      refine Panicking.head (a := .accept granted) (u := .panicked p) trivial ?_
        ⟨_, Reaches.refl, hp⟩
      simp only [step, accept, Server.initial, hx]
  · rcases Transport.exists_panics_new.mpr hnew with ⟨w, hw⟩
    refine Panicking.of_panics (a := .start w) (x := startServer E P b w c) trivial rfl ?_
    simp only [startServer, panics_bind, okOr_eq_ok]
    exact Or.inr ⟨server, hserver, Or.inl hw⟩

end Unsound

/-! #### Which configurations are sound -/

/-- No run of a program from an accepted configuration ends in a panic of the
    configuration, exactly if it has what it has to have. -/
theorem no_panic_iff_sound (E : Server.Env β) (P : Parsers) (b : Build)
    {raw c : Config (List β)} (hc : raw.validate = .ok c) {later : List (Config (List β))}
    (hlater : ∀ d ∈ later, ∃ raw : Config (List β), raw.validate = .ok d) (p : Program) :
    (∀ s, Reaches (step E P b) (ChangesFrom later) (.starting p c) s → ¬ s.ConfigPanic) ↔
      c.Sound E P b later p := by
  have hchecked := checked_of_validate hc
  have hchecked' : ∀ d ∈ later, d.Checked := by
    intro d hd
    rcases hlater d hd with ⟨raw', hraw'⟩
    exact checked_of_validate hraw'
  constructor
  · intro hrun
    by_contra hunsound
    have hp : Panicking E P b later (.starting p c) := by
      cases p with
      | relay => exact panicking_relay hunsound
      | server => exact panicking_server hchecked hchecked' hunsound
      | client => exact panicking_client hchecked hchecked' hunsound
    rcases hp with ⟨s, hs, hpanic⟩
    exact hrun s hs hpanic
  · intro hsound s hs
    have hsafe : s.Safe E P b later :=
      hs.invariant (fun _ _ _ hi hok hst => safe_of_step hchecked' hi hok hst) ⟨hsound, hchecked⟩
    exact not_configPanic_of_safe hsafe

/-- Crates that can make nothing of anything. -/
def noParsers : Parsers where
  url := fun _ => none
  noiseParams := fun _ => false
  base64 := fun _ => false
  keypair := fun _ => false
  responder := fun _ => false
  initiator := fun _ => false

/-- A server and a client over TCP, as they are written and as they are
    accepted. -/
def plain (name : List UInt8) (token : Option (List UInt8)) (retryInterval : Option UInt64) :
    Config (List UInt8) where
  server := some (oneServer name token)
  client := some (oneClient name token retryInterval)

/-- Neither the server nor the client panics, whatever is reloaded from the
    same file. -/
theorem no_panic_plain :
    (∀ s, Reaches (step Server.sampleEnv noParsers Build.default)
      (ChangesFrom [plain sampleName (some sampleToken) (some 1)])
      (.starting .server (plain sampleName (some sampleToken) (some 1))) s → ¬ s.ConfigPanic) ∧
    ∀ s, Reaches (step Server.sampleEnv noParsers Build.default)
      (ChangesFrom [plain sampleName (some sampleToken) (some 1)])
      (.starting .client (plain sampleName (some sampleToken) (some 1))) s → ¬ s.ConfigPanic := by
  have hvalid : (plain [] none none).validate =
      .ok (plain sampleName (some sampleToken) (some 1)) := by rfl
  have hlater : ∀ d ∈ [plain sampleName (some sampleToken) (some 1)],
      ∃ raw : Config (List UInt8), raw.validate = .ok d :=
    fun d hd => ⟨plain [] none none, by rw [List.mem_singleton.mp hd]; exact hvalid⟩
  have huse : ∀ tls, tcpTransport.tlsInUse ≠ some tls := by
    intro tls htls
    simp only [TransportConfig.tlsInUse, tcpTransport, reduceCtorEq] at htls
  -- The one service is not HTTP, whether it was there or is added.
  have htype : ∀ {name : List UInt8} {cfg : ServerServiceConfig (List UInt8)},
      (oneServer sampleName (some sampleToken)).services.lookup name = some cfg →
      cfg.serviceType ≠ .http := by
    intro name cfg hname
    rw [(HashMap.eq_of_lookup_insert_empty hname).2]
    simp only [ne_eq, reduceCtorEq, not_false_eq_true]
  constructor
  · refine (no_panic_iff_sound Server.sampleEnv noParsers Build.default hvalid hlater
      .server).mpr ?_
    intro server hserver
    simp only [plain, Option.some.injEq] at hserver
    rw [← hserver]
    refine ⟨rfl, fun tls htls => absurd htls (huse tls),
      fun _ tls htls => absurd htls (huse tls), fun _ cfg hwhere => ?_⟩
    rcases hwhere with ⟨d, hd⟩ | ⟨c, hc, server', hserver', name, hname⟩
    · rcases Server.exists_of_lookup_generateServiceHashmap hd with ⟨name, hname, _⟩
      exact htype hname
    · rw [List.mem_singleton.mp hc] at hserver'
      simp only [plain, Option.some.injEq] at hserver'
      rw [← hserver'] at hname
      exact htype hname
  · refine (no_panic_iff_sound Server.sampleEnv noParsers Build.default hvalid hlater
      .client).mpr ?_
    intro client hclient
    simp only [plain, Option.some.injEq] at hclient
    rw [← hclient]
    refine ⟨rfl, fun tls htls => absurd htls (huse tls),
      fun _ => ⟨fun hty => ?_, fun url hurl => ?_⟩⟩
    · simp only [oneClient, tcpTransport, reduceCtorEq] at hty
    · simp only [oneClient, tcpTransport, reduceCtorEq] at hurl

/-- A server that speaks TLS under its websockets, and has no identity. -/
def websocketServer : Config (List UInt8) where
  server := some { oneServer sampleName (some sampleToken) with
    transport := { tcpTransport with
      transportType := .websocket
      tls := some { hostname := none, trustedRoot := none, pkcs12 := none, pkcs12Password := none }
      websocket := some { tls := true } } }
  client := none

/-- The configuration is accepted, and the first connection panics. -/
theorem identity_missing :
    ¬ ∀ (E : Server.Env UInt8) (P : Parsers) (raw c : Config (List UInt8)) (p : Program)
      (s : Process UInt8), raw.validate = .ok c →
      Reaches (step E P Build.default) (ChangesFrom []) (.starting p c) s → ¬ s.ConfigPanic := by
  intro h
  have hvalid : websocketServer.validate = .ok websocketServer := by rfl
  have hrun : exec (step Server.sampleEnv noParsers Build.default)
      (.starting .server websocketServer) [.start granted, .accept granted] =
      some (.panicked .tlsAcceptor) := by rfl
  have hreach : Reaches (step Server.sampleEnv noParsers Build.default) (ChangesFrom [])
      (.starting .server websocketServer) (.panicked .tlsAcceptor) := by
    refine reaches_of_forall [.start granted, .accept granted] _ _ ?_ hrun
    intro a ha s
    simp only [List.mem_cons, List.not_mem_nil, or_false] at ha
    rcases ha with rfl | rfl
    · exact trivial
    · exact trivial
  exact h Server.sampleEnv noParsers websocketServer websocketServer .server _ hvalid hreach trivial

end Process

end Rathole
