import Rathole.Config

/-!
# Filling in the Defaults

What the checks of `from_str` let through and what they make of it. A check
changes the services while it walks over them and gives up at the first one it
has no token for, so what has become of a configuration that is rejected
depends on the order of the map. What is accepted does not, and is the
configuration with every missing value taken from its block.

## Main definitions

* `Config.Complete`: Nothing is missing that has no default.
* `Config.withDefaults`: The defaults are filled in.

## Theorems

* `validateTransportConfig_eq_ok_iff`, `validateServerConfig_eq_ok_iff`,
  `validateClientConfig_eq_ok_iff`: The checks of a block.
* `withDefaults_withDefaults`: Filling in twice is filling in once.
* `validate_iff`: What is accepted, and what it becomes.
-/

namespace Rathole

variable {τ : Type}

/-- The proxy has a scheme that is supported, and TLS has its section. -/
structure TransportConfig.Complete (c : TransportConfig) (isServer : Bool) : Prop where
  proxy : ∀ url, c.tcp.proxy = some url → url.scheme = "socks5" ∨ url.scheme = "http"
  tls : c.transportType = .tls → ∃ tls, c.tls = some tls ∧
    (isServer = true → tls.pkcs12.isSome = true ∧ tls.pkcs12Password.isSome = true)

/-- Every service has a token, its own or that of the block. -/
structure ServerConfig.Complete (server : ServerConfig τ) : Prop where
  tokens : ∀ e ∈ server.services.entries,
    e.2.token.isSome = true ∨ server.defaultToken.isSome = true
  transport : server.transport.Complete true

/-- A `[client]` block that validation lets through. -/
structure ClientConfig.Complete (client : ClientConfig τ) : Prop where
  tokens : ∀ e ∈ client.services.entries,
    e.2.token.isSome = true ∨ client.defaultToken.isSome = true
  transport : client.transport.Complete false

/-- There is a block, and what is there is complete. -/
structure Config.Complete (config : Config τ) : Prop where
  block : config.server.isSome = true ∨ config.client.isSome = true
  server : ∀ server, config.server = some server → server.Complete
  client : ∀ client, config.client = some client → client.Complete

/-- The key as the name, and the block's token if there is none. -/
def ServerServiceConfig.withDefaults (defaultToken : Option τ) (name : τ)
    (s : ServerServiceConfig τ) : ServerServiceConfig τ :=
  { s with
    name := name
    token := s.token.or defaultToken }

/-- The retry interval of the block besides. -/
def ClientServiceConfig.withDefaults (defaultToken : Option τ) (retryInterval : UInt64) (name : τ)
    (s : ClientServiceConfig τ) : ClientServiceConfig τ :=
  { s with
    name := name
    token := s.token.or defaultToken
    retryInterval := some (s.retryInterval.getD retryInterval) }

/-- A `[server]` block with the defaults of its services filled in. -/
def ServerConfig.withDefaults (server : ServerConfig τ) : ServerConfig τ :=
  { server with
    services := server.services.mapValues
      (fun name s => s.withDefaults server.defaultToken name) }

/-- A `[client]` block with the defaults of its services filled in. -/
def ClientConfig.withDefaults (client : ClientConfig τ) : ClientConfig τ :=
  { client with
    services := client.services.mapValues
      (fun name s => s.withDefaults client.defaultToken client.retryInterval name) }

/-- Both blocks with their defaults. -/
def Config.withDefaults (config : Config τ) : Config τ where
  server := config.server.map ServerConfig.withDefaults
  client := config.client.map ClientConfig.withDefaults

/-! ### The checks of a block -/

theorem validateProxy_eq_ok_iff (proxy : Option Url) :
    validateProxy (τ := τ) proxy = .ok () ↔
      ∀ url, proxy = some url → url.scheme = "socks5" ∨ url.scheme = "http" := by
  cases proxy with
  | none => simp only [validateProxy, reduceCtorEq, false_implies, implies_true]
  | some url =>
      simp only [Option.some.injEq, forall_eq']
      by_cases h : url.scheme = "socks5" ∨ url.scheme = "http"
      · simp only [validateProxy, h, if_true]
      · simp only [validateProxy, h, if_false, reduceCtorEq]

/-- The check of a TLS section, which only a server needs an identity in. -/
theorem validateTransportConfig_tls {c : TransportConfig} {tls : TlsConfig} (isServer : Bool)
    (hproxy : validateProxy (τ := τ) c.tcp.proxy = .ok ()) (htype : c.transportType = .tls)
    (htls : c.tls = some tls) : validateTransportConfig (τ := τ) c isServer = .ok () ↔
      (isServer = true → tls.pkcs12.isSome = true ∧ tls.pkcs12Password.isSome = true) := by
  simp only [validateTransportConfig, hproxy, htype, htls]
  cases isServer with
  | false => simp only [Bool.false_eq_true, false_and, if_false, false_implies]
  | true =>
      cases tls.pkcs12 with
      | none => simp only [Option.isNone_none, Option.isSome_none, true_and, true_or, if_true,
          reduceCtorEq, Bool.false_eq_true, false_and, true_implies]
      | some p =>
          cases tls.pkcs12Password with
          | none => simp only [Option.isNone_none, Option.isSome_none, true_and, or_true, if_true,
              reduceCtorEq, Bool.false_eq_true, and_false, true_implies]
          | some q => simp only [Option.isNone_some, Option.isSome_some, Bool.false_eq_true,
              or_self, and_false, if_false, and_self, true_implies]

theorem TransportConfig.complete_tls_iff {c : TransportConfig} {tls : TlsConfig} {isServer : Bool}
    (hproxy : ∀ url, c.tcp.proxy = some url → url.scheme = "socks5" ∨ url.scheme = "http")
    (htype : c.transportType = .tls) (htls : c.tls = some tls) : c.Complete isServer ↔
      (isServer = true → tls.pkcs12.isSome = true ∧ tls.pkcs12Password.isSome = true) := by
  constructor
  · intro h
    rcases h.tls htype with ⟨tls', hsome, hboth⟩
    rw [htls, Option.some.injEq] at hsome
    rw [hsome]
    exact hboth
  · intro h
    exact ⟨hproxy, fun _ => ⟨tls, htls, h⟩⟩

theorem validateTransportConfig_eq_ok_iff (c : TransportConfig) (isServer : Bool) :
    validateTransportConfig (τ := τ) c isServer = .ok () ↔ c.Complete isServer := by
  have hproxy := validateProxy_eq_ok_iff (τ := τ) c.tcp.proxy
  cases hv : validateProxy (τ := τ) c.tcp.proxy with
  | error e =>
      rw [hv] at hproxy
      simp only [validateTransportConfig, hv, reduceCtorEq, false_iff]
      intro h
      exact absurd (hproxy.mpr h.proxy) (by simp only [reduceCtorEq, not_false_eq_true])
  | ok u =>
      have hscheme := hproxy.mp hv
      by_cases htype : c.transportType = .tls
      · cases htls : c.tls with
        | none =>
            simp only [validateTransportConfig, hv, htype, htls, reduceCtorEq, false_iff]
            intro h
            rcases h.tls htype with ⟨tls, hsome, _⟩
            rw [htls] at hsome
            simp only [reduceCtorEq] at hsome
        | some tls =>
            rw [TransportConfig.complete_tls_iff hscheme htype htls]
            exact validateTransportConfig_tls isServer hv htype htls
      · -- The other transports are checked when they are made.
        have hok : validateTransportConfig (τ := τ) c isServer = .ok () := by
          unfold validateTransportConfig
          cases ht : c.transportType with
          | tls => exact absurd ht htype
          | tcp => simp only [hv]
          | noise => simp only [hv]
          | websocket => simp only [hv]
        simp only [hok, true_iff]
        exact ⟨hscheme, fun h => absurd h htype⟩

/-- A check that gives up without a token, and else has one result. -/
theorem orToken_eq_ok_iff {ε σ : Type} {token defaultToken : Option τ} {x : Except ε σ} {e : ε}
    {s s' : σ} (hnone : token.or defaultToken = none → x = .error e)
    (hsome : ∀ t, token.or defaultToken = some t → x = .ok s) :
    x = .ok s' ↔ (token.isSome = true ∨ defaultToken.isSome = true) ∧ s' = s := by
  rw [← Bool.or_eq_true, ← Option.isSome_or]
  cases htoken : token.or defaultToken with
  | none =>
      rw [hnone htoken]
      simp only [Option.isSome_none, reduceCtorEq, Bool.false_eq_true, false_and]
  | some t =>
      rw [hsome t htoken]
      simp only [Option.isSome_some, true_and, Except.ok.injEq]
      exact eq_comm

theorem validateServerService_eq_ok_iff (defaultToken : Option τ) (name : τ)
    (s s' : ServerServiceConfig τ) : validateServerService defaultToken name s = .ok s' ↔
      (s.token.isSome = true ∨ defaultToken.isSome = true) ∧
        s' = s.withDefaults defaultToken name :=
  orToken_eq_ok_iff (e := .tokenNotSet name) (fun h => by simp only [validateServerService, h])
    (fun t h => by simp only [validateServerService, ServerServiceConfig.withDefaults, h])

theorem validateClientService_eq_ok_iff (defaultToken : Option τ) (retryInterval : UInt64)
    (name : τ) (s s' : ClientServiceConfig τ) :
    validateClientService defaultToken retryInterval name s = .ok s' ↔
      (s.token.isSome = true ∨ defaultToken.isSome = true) ∧
        s' = s.withDefaults defaultToken retryInterval name :=
  orToken_eq_ok_iff (e := .tokenNotSet name) (fun h => by simp only [validateClientService, h])
    (fun t h => by simp only [validateClientService, ClientServiceConfig.withDefaults, h])

/-- The server's block gets through if it is complete. -/
theorem validateServerConfig_eq_ok_iff (raw server : ServerConfig τ) :
    validateServerConfig raw = .ok server ↔ raw.Complete ∧ server = raw.withDefaults := by
  have hservices := @HashMap.mapValuesM_eq_ok_iff _ _ _ _ _ _ _
    (validateServerService_eq_ok_iff raw.defaultToken) raw.services
  have htransport := validateTransportConfig_eq_ok_iff (τ := τ) raw.transport true
  constructor
  · intro h
    rcases validateServerConfig_ok h with ⟨services, hm, ht, rfl⟩
    have hwalk := hservices.mp hm
    exact ⟨⟨hwalk.1, htransport.mp ht⟩, by rw [hwalk.2]; rfl⟩
  · rintro ⟨hc, rfl⟩
    simp only [validateServerConfig, hservices.mpr ⟨hc.tokens, rfl⟩, htransport.mpr hc.transport]
    rfl

/-- So does the client's. -/
theorem validateClientConfig_eq_ok_iff (raw client : ClientConfig τ) :
    validateClientConfig raw = .ok client ↔ raw.Complete ∧ client = raw.withDefaults := by
  have hservices := @HashMap.mapValuesM_eq_ok_iff _ _ _ _ _ _ _
    (validateClientService_eq_ok_iff raw.defaultToken raw.retryInterval) raw.services
  have htransport := validateTransportConfig_eq_ok_iff (τ := τ) raw.transport false
  constructor
  · intro h
    rcases validateClientConfig_ok h with ⟨services, hm, ht, rfl⟩
    have hwalk := hservices.mp hm
    exact ⟨⟨hwalk.1, htransport.mp ht⟩, by rw [hwalk.2]; rfl⟩
  · rintro ⟨hc, rfl⟩
    simp only [validateClientConfig, hservices.mpr ⟨hc.tokens, rfl⟩, htransport.mpr hc.transport]
    rfl

/-! ### The whole configuration -/

/-- The check of a block that may not be there. -/
theorem mapM_eq_ok_iff {ε α γ : Type} {f : α → Except ε γ} {p : α → Prop} {g : α → γ}
    (hf : ∀ x y, f x = .ok y ↔ p x ∧ y = g x) (o : Option α) (o' : Option γ) :
    o.mapM f = .ok o' ↔ (∀ x, o = some x → p x) ∧ o' = o.map g := by
  cases o with
  | none =>
      simp only [Option.mapM_none, pure, Except.pure, Except.ok.injEq, reduceCtorEq, false_implies,
        implies_true, Option.map_none, true_and, eq_comm]
  | some x =>
      simp only [Option.some.injEq, forall_eq', Option.map_some]
      cases hx : f x with
      | error e =>
          have hnot : ¬ p x := by
            intro hp
            rw [(hf x (g x)).mpr ⟨hp, rfl⟩] at hx
            simp only [reduceCtorEq] at hx
          simp only [Option.mapM_some, hx, Functor.map, Except.map, reduceCtorEq, hnot, false_and]
      | ok y =>
          rcases (hf x y).mp hx with ⟨hp, rfl⟩
          simp only [Option.mapM_some, hx, Functor.map, Except.map, Except.ok.injEq, hp, true_and,
            eq_comm]

theorem validate_eq_ok_iff (config result : Config τ) :
    config.validate = .ok result ↔ config.Complete ∧ result = config.withDefaults := by
  have hserver := mapM_eq_ok_iff (validateServerConfig_eq_ok_iff (τ := τ)) config.server
  have hclient := mapM_eq_ok_iff (validateClientConfig_eq_ok_iff (τ := τ)) config.client
  have hblock : ¬ (config.server.isNone = true ∧ config.client.isNone = true) ↔
      config.server.isSome = true ∨ config.client.isSome = true := by
    rw [not_and_or, Bool.not_eq_true, Bool.not_eq_true, Option.isNone_eq_false_iff,
      Option.isNone_eq_false_iff]
  constructor
  · intro h
    -- Both blocks are checked before it is asked whether there is one.
    unfold Config.validate at h
    cases hs : config.server.mapM validateServerConfig with
    | error e => simp only [hs, bind, Except.bind, reduceCtorEq] at h
    | ok server =>
        cases hc : config.client.mapM validateClientConfig with
        | error e => simp only [hs, hc, bind, Except.bind, reduceCtorEq] at h
        | ok client =>
            have hs' := (hserver server).mp hs
            have hc' := (hclient client).mp hc
            by_cases hnone : config.server.isNone ∧ config.client.isNone
            · simp only [hs, hc, bind, Except.bind, if_pos hnone, throw, throwThe,
                MonadExceptOf.throw, reduceCtorEq] at h
            · simp only [hs, hc, bind, Except.bind, if_neg hnone, pure, Except.pure,
                Except.ok.injEq] at h
              rw [← h, hs'.2, hc'.2]
              exact ⟨⟨hblock.mp hnone, hs'.1, hc'.1⟩, rfl⟩
  · rintro ⟨hcomplete, rfl⟩
    have hs := (hserver _).mpr ⟨hcomplete.server, rfl⟩
    have hc := (hclient _).mpr ⟨hcomplete.client, rfl⟩
    simp only [Config.validate, hs, hc, bind, Except.bind, if_neg (hblock.mpr hcomplete.block),
      pure, Except.pure]
    rfl

/-! ### Filling in twice -/

theorem ServerConfig.withDefaults_withDefaults (server : ServerConfig τ) :
    server.withDefaults.withDefaults = server.withDefaults := by
  have htoken : ∀ (name : τ) (s : ServerServiceConfig τ),
      (s.withDefaults server.defaultToken name).withDefaults server.defaultToken name =
        s.withDefaults server.defaultToken name := by
    intro name s
    simp only [ServerServiceConfig.withDefaults, Option.or_assoc, Option.or_self]
  simp only [ServerConfig.withDefaults, HashMap.mapValues_mapValues, htoken]

theorem ClientConfig.withDefaults_withDefaults (client : ClientConfig τ) :
    client.withDefaults.withDefaults = client.withDefaults := by
  have htoken : ∀ (name : τ) (s : ClientServiceConfig τ),
      (s.withDefaults client.defaultToken client.retryInterval name).withDefaults
        client.defaultToken client.retryInterval name =
          s.withDefaults client.defaultToken client.retryInterval name := by
    intro name s
    simp only [ClientServiceConfig.withDefaults, Option.or_assoc, Option.or_self,
      Option.getD_some]
  simp only [ClientConfig.withDefaults, HashMap.mapValues_mapValues, htoken]

theorem Config.withDefaults_withDefaults (config : Config τ) :
    config.withDefaults.withDefaults = config.withDefaults := by
  simp only [Config.withDefaults, Option.map_map, Function.comp_def,
    ServerConfig.withDefaults_withDefaults, ClientConfig.withDefaults_withDefaults]

/-- Whoever had a token keeps it. -/
theorem tokens_mapValues {σ : Type} {m : HashMap τ σ} {token : σ → Option τ}
    {defaultToken : Option τ} {f : τ → σ → σ}
    (hf : ∀ name s, token (f name s) = (token s).or defaultToken)
    (h : ∀ e ∈ m.entries, (token e.2).isSome = true ∨ defaultToken.isSome = true) :
    ∀ e ∈ (m.mapValues f).entries, (token e.2).isSome = true ∨ defaultToken.isSome = true := by
  intro e he
  rcases List.mem_map.mp he with ⟨⟨name, s⟩, hs, rfl⟩
  rcases h ⟨name, s⟩ hs with htoken | hdefault
  · refine Or.inl ?_
    rw [hf, Option.isSome_or, htoken, Bool.true_or]
  · exact Or.inr hdefault

/-- Filling in the defaults leaves nothing incomplete. -/
theorem ServerConfig.Complete.withDefaults {server : ServerConfig τ} (h : server.Complete) :
    server.withDefaults.Complete where
  tokens := tokens_mapValues (fun _ _ => rfl) h.tokens
  transport := h.transport

theorem ClientConfig.Complete.withDefaults {client : ClientConfig τ} (h : client.Complete) :
    client.withDefaults.Complete where
  tokens := tokens_mapValues (fun _ _ => rfl) h.tokens
  transport := h.transport

theorem Config.Complete.withDefaults {config : Config τ} (h : config.Complete) :
    config.withDefaults.Complete where
  block := by
    rw [Config.withDefaults, Option.isSome_map, Option.isSome_map]
    exact h.block
  server := by
    intro server hserver
    rcases Option.map_eq_some_iff.mp hserver with ⟨raw, hraw, rfl⟩
    exact (h.server raw hraw).withDefaults
  client := by
    intro client hclient
    rcases Option.map_eq_some_iff.mp hclient with ⟨raw, hraw, rfl⟩
    exact (h.client raw hraw).withDefaults

/-- A configuration gets through exactly if it is complete, and what comes
    out is the configuration with its defaults, which gets through again as
    it is. -/
theorem validate_iff (config : Config τ) :
    ((∃ result, config.validate = .ok result) ↔ config.Complete) ∧
      ∀ result, config.validate = .ok result →
        result = config.withDefaults ∧ result.validate = .ok result := by
  constructor
  · constructor
    · rintro ⟨result, h⟩
      exact ((validate_eq_ok_iff config result).mp h).1
    · intro h
      exact ⟨config.withDefaults, (validate_eq_ok_iff config _).mpr ⟨h, rfl⟩⟩
  · intro result h
    rcases (validate_eq_ok_iff config result).mp h with ⟨hcomplete, rfl⟩
    refine ⟨rfl, (validate_eq_ok_iff _ _).mpr ⟨hcomplete.withDefaults, ?_⟩⟩
    exact (Config.withDefaults_withDefaults config).symm

end Rathole
