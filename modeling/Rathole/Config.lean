import Rathole.Lib.HashMap

/-!
# Configuration

The configuration as it is after parsing, and the checks that fill in its
defaults. Names and tokens are of a type of their own, so that a protocol
model can take them as sequences of symbols.

The checks walk over the services in the order of the map and stop at the
first service without a token.

## Main definitions

* `ServerServiceConfig`, `ClientServiceConfig`: One service.
* `ServerConfig`, `ClientConfig`, `Config`: The blocks.
* `ConfigError`: What a check fails with.
* `validateServerConfig`, `validateClientConfig`: The checks of a block.
* `Config.validate`: The checks of a parsed configuration.

## Theorems

* `lookup_validateServerConfig`: Where a validated service comes from.
* `lookup_validateClientConfig`: The same on the client.
* `proxy_of_validateTransportConfig`: The proxies that are let through.
* `checked_of_validate`: A validated configuration block by block.
-/

namespace Rathole

/-- `transport.type` -/
inductive TransportType
  | tcp
  | tls
  | noise
  | websocket
deriving DecidableEq, Repr

/-- `type` of a service -/
inductive ServiceType
  | tcp
  | udp
  | http
deriving DecidableEq, Repr

/-- A parsed URL: its text, and the parts the program asks for. -/
structure Url where
  serialization : String
  scheme : String
  host : Option String
  port : Option UInt16
deriving DecidableEq, Repr

/-- `[client.services.name]` -/
structure ClientServiceConfig (τ : Type) where
  serviceType : ServiceType
  name : τ
  localAddr : String
  preferIpv6 : Bool
  token : Option τ
  nodelay : Option Bool
  retryInterval : Option UInt64
deriving DecidableEq, Repr

/-- `[server.services.name]` -/
structure ServerServiceConfig (τ : Type) where
  serviceType : ServiceType
  name : τ
  bindAddr : String
  token : Option τ
  nodelay : Option Bool
deriving DecidableEq, Repr

/-- `[transport.tls]` -/
structure TlsConfig where
  hostname : Option String
  trustedRoot : Option String
  pkcs12 : Option String
  pkcs12Password : Option String
deriving DecidableEq, Repr

/-- `[transport.noise]` -/
structure NoiseConfig where
  pattern : String
  localPrivateKey : Option String
  remotePublicKey : Option String
deriving DecidableEq, Repr

/-- `[transport.websocket]` -/
structure WebsocketConfig where
  tls : Bool
deriving DecidableEq, Repr

/-- `[transport.tcp]` -/
structure TcpConfig where
  nodelay : Bool
  keepaliveSecs : UInt64
  keepaliveInterval : UInt64
  proxy : Option Url
deriving DecidableEq, Repr

/-- `[transport]` -/
structure TransportConfig where
  transportType : TransportType
  tcp : TcpConfig
  tls : Option TlsConfig
  noise : Option NoiseConfig
  websocket : Option WebsocketConfig
deriving DecidableEq, Repr

/-- `[client]` -/
structure ClientConfig (τ : Type) where
  remoteAddr : String
  defaultToken : Option τ
  preferIpv6 : Option Bool
  services : HashMap τ (ClientServiceConfig τ)
  transport : TransportConfig
  heartbeatTimeout : UInt64
  retryInterval : UInt64

/-- `[server]` -/
structure ServerConfig (τ : Type) where
  bindAddr : String
  defaultToken : Option τ
  jwtSecret : String
  defaultCloudBackend : Option String
  services : HashMap τ (ServerServiceConfig τ)
  transport : TransportConfig
  heartbeatInterval : UInt64

/-- A configuration file. -/
structure Config (τ : Type) where
  server : Option (ServerConfig τ)
  client : Option (ClientConfig τ)

/-- What a check fails with. -/
inductive ConfigError (τ : Type)
  | tokenNotSet (name : τ)
  | unknownProxyScheme (scheme : String)
  | missingTls
  | missingPkcs12
  | neitherDefined
deriving DecidableEq, Repr

/-- The text of a configuration error. -/
def ConfigError.display {τ : Type} (text : τ → String) : ConfigError τ → String
  | .tokenNotSet name => "The token of service " ++ text name ++ " is not set"
  | .unknownProxyScheme scheme => "Unknown proxy scheme: " ++ scheme
  | .missingTls => "Missing TLS configuration"
  | .missingPkcs12 => "Missing `pkcs12` or `pkcs12_password`"
  | .neitherDefined => "Neither of `[server]` or `[client]` is defined"

variable {τ : Type}

/-- The schemes `validate_transport_config` lets through. -/
def validateProxy : Option Url → Except (ConfigError τ) Unit
  | none => .ok ()
  | some u =>
      if u.scheme = "socks5" ∨ u.scheme = "http" then .ok ()
      else .error (.unknownProxyScheme u.scheme)

/-- `validate_transport_config` -/
def validateTransportConfig (config : TransportConfig) (isServer : Bool) :
    Except (ConfigError τ) Unit :=
  match validateProxy config.tcp.proxy with
  | .error e => .error e
  | .ok () => match config.transportType with
    | .tls => match config.tls with
      | none => .error .missingTls
      | some tls =>
          if isServer ∧ (tls.pkcs12.isNone ∨ tls.pkcs12Password.isNone) then
            .error .missingPkcs12
          else .ok ()
    | _ => .ok ()

/-- What the server's check makes of one service. -/
def validateServerService (defaultToken : Option τ) (name : τ) (s : ServerServiceConfig τ) :
    Except (ConfigError τ) (ServerServiceConfig τ) :=
  match s.token.or defaultToken with
  | none => .error (.tokenNotSet name)
  | some token => .ok { s with name := name, token := some token }

/-- What the client's check makes of one service. -/
def validateClientService (defaultToken : Option τ) (retryInterval : UInt64) (name : τ)
    (s : ClientServiceConfig τ) : Except (ConfigError τ) (ClientServiceConfig τ) :=
  match s.token.or defaultToken with
  | none => .error (.tokenNotSet name)
  | some token => .ok { s with
      name := name
      token := some token
      retryInterval := some (s.retryInterval.getD retryInterval) }

/-- `validate_server_config` -/
def validateServerConfig (server : ServerConfig τ) : Except (ConfigError τ) (ServerConfig τ) :=
  match HashMap.mapValuesM server.services (validateServerService server.defaultToken) with
  | .error e => .error e
  | .ok services => match validateTransportConfig server.transport true with
    | .error e => .error e
    | .ok () => .ok { server with services := services }

/-- `validate_client_config` -/
def validateClientConfig (client : ClientConfig τ) : Except (ConfigError τ) (ClientConfig τ) :=
  match HashMap.mapValuesM client.services
      (validateClientService client.defaultToken client.retryInterval) with
  | .error e => .error e
  | .ok services => match validateTransportConfig client.transport false with
    | .error e => .error e
    | .ok () => .ok { client with services := services }

/-- The checks of `from_str`, after parsing: the server's block, the client's
    block, and that there is one of them. -/
def Config.validate (config : Config τ) : Except (ConfigError τ) (Config τ) := do
  let server ← config.server.mapM validateServerConfig
  let client ← config.client.mapM validateClientConfig
  if config.server.isNone ∧ config.client.isNone then throw .neitherDefined
  pure { server := server, client := client }

section Validated

/-- A validated server, but for its services, is the server before. -/
theorem validateServerConfig_ok {raw server : ServerConfig τ}
    (h : validateServerConfig raw = .ok server) : ∃ services,
      HashMap.mapValuesM raw.services (validateServerService raw.defaultToken) = .ok services ∧
      validateTransportConfig (τ := τ) server.transport true = .ok () ∧
      server = { raw with services := services } := by
  unfold validateServerConfig at h
  cases hm : HashMap.mapValuesM raw.services (validateServerService raw.defaultToken) with
  | error e => simp only [hm, reduceCtorEq] at h
  | ok services =>
      cases ht : validateTransportConfig (τ := τ) raw.transport true with
      | error e => simp only [hm, ht, reduceCtorEq] at h
      | ok u =>
          simp only [hm, ht, Except.ok.injEq] at h
          rw [← h]
          exact ⟨services, rfl, ht, rfl⟩

/-- So is a validated client. -/
theorem validateClientConfig_ok {raw client : ClientConfig τ}
    (h : validateClientConfig raw = .ok client) : ∃ services,
      HashMap.mapValuesM raw.services
        (validateClientService raw.defaultToken raw.retryInterval) = .ok services ∧
      validateTransportConfig (τ := τ) client.transport false = .ok () ∧
      client = { raw with services := services } := by
  unfold validateClientConfig at h
  cases hm : HashMap.mapValuesM raw.services
      (validateClientService raw.defaultToken raw.retryInterval) with
  | error e => simp only [hm, reduceCtorEq] at h
  | ok services =>
      cases ht : validateTransportConfig (τ := τ) raw.transport false with
      | error e => simp only [hm, ht, reduceCtorEq] at h
      | ok u =>
          simp only [hm, ht, Except.ok.injEq] at h
          rw [← h]
          exact ⟨services, rfl, ht, rfl⟩

/-- The proxy of a transport that was let through. -/
theorem proxy_of_validateTransportConfig {c : TransportConfig} {isServer : Bool}
    (h : validateTransportConfig (τ := τ) c isServer = .ok ()) {url : Url}
    (hurl : c.tcp.proxy = some url) : url.scheme = "socks5" ∨ url.scheme = "http" := by
  by_contra hscheme
  simp only [validateTransportConfig, hurl, validateProxy, if_neg hscheme, reduceCtorEq] at h

/-- What a check that is made of what is there leaves. -/
theorem of_mapM {ε α γ : Type} {f : α → Except ε γ} {o : Option α} {o' : Option γ} {y : γ}
    (h : o.mapM f = .ok o') (hy : o' = some y) : ∃ x, f x = .ok y := by
  cases o with
  | none =>
      simp only [Option.mapM_none, pure, Except.pure, Except.ok.injEq] at h
      rw [← h] at hy
      simp only [reduceCtorEq] at hy
  | some x =>
      cases hf : f x with
      | error e => simp only [Option.mapM_some, hf, Functor.map, Except.map, reduceCtorEq] at h
      | ok z =>
          simp only [Option.mapM_some, hf, Functor.map, Except.map, Except.ok.injEq] at h
          rw [← h, Option.some.injEq] at hy
          exact ⟨x, by rw [hf, hy]⟩

/-- Each block has come through its check. -/
def Config.Checked (c : Config τ) : Prop :=
  (∀ server, c.server = some server → ∃ raw, validateServerConfig raw = .ok server) ∧
    ∀ client, c.client = some client → ∃ raw, validateClientConfig raw = .ok client

theorem checked_of_validate {raw c : Config τ} (h : raw.validate = .ok c) : c.Checked := by
  unfold Config.validate at h
  cases hs : raw.server.mapM validateServerConfig with
  | error e => simp only [hs, bind, Except.bind, reduceCtorEq] at h
  | ok server =>
      cases hc : raw.client.mapM validateClientConfig with
      | error e => simp only [hs, hc, bind, Except.bind, reduceCtorEq] at h
      | ok client =>
          by_cases hnone : raw.server.isNone ∧ raw.client.isNone
          · simp only [hs, hc, bind, Except.bind, if_pos hnone, throw, throwThe,
              MonadExceptOf.throw, reduceCtorEq] at h
          · simp only [hs, hc, bind, Except.bind, if_neg hnone, pure, Except.pure,
              Except.ok.injEq] at h
            rw [← h]
            exact ⟨fun _ hserver => of_mapM hs hserver, fun _ hclient => of_mapM hc hclient⟩

variable [DecidableEq τ]

/-- Every service of a validated server has its key as its name, and a
    token. -/
theorem lookup_validateServerConfig {raw server : ServerConfig τ}
    (h : validateServerConfig raw = .ok server) {name : τ} {s : ServerServiceConfig τ}
    (hs : server.services.lookup name = some s) : s.name = name ∧ s.token.isSome = true := by
  rcases validateServerConfig_ok h with ⟨services, hm, _, hserver⟩
  rw [hserver, HashMap.lookup_mapValuesM hm, Option.bind_eq_some_iff] at hs
  rcases hs with ⟨v, _, hv⟩
  unfold validateServerService at hv
  cases htok : v.token.or raw.defaultToken with
  | none => simp only [htok, Except.toOption, reduceCtorEq] at hv
  | some token =>
      simp only [htok, Except.toOption, Option.some.injEq] at hv
      rw [← hv]
      exact ⟨rfl, rfl⟩

/-- What the check of a client makes of a service: its key is its name, and it
    has a token and a retry interval. -/
theorem service_of_validateClientConfig {raw client : ClientConfig τ}
    (h : validateClientConfig raw = .ok client) {name : τ} {s : ClientServiceConfig τ}
    (hs : client.services.lookup name = some s) :
    s.name = name ∧ s.token.isSome = true ∧ s.retryInterval.isSome = true := by
  rcases validateClientConfig_ok h with ⟨services, hm, _, hclient⟩
  rw [hclient, HashMap.lookup_mapValuesM hm, Option.bind_eq_some_iff] at hs
  rcases hs with ⟨v, _, hv⟩
  unfold validateClientService at hv
  cases htok : v.token.or raw.defaultToken with
  | none => simp only [htok, Except.toOption, reduceCtorEq] at hv
  | some token =>
      simp only [htok, Except.toOption, Option.some.injEq] at hv
      rw [← hv]
      exact ⟨rfl, rfl, rfl⟩

/-- Its services have their keys as names, and tokens. -/
theorem lookup_validateClientConfig {raw client : ClientConfig τ}
    (h : validateClientConfig raw = .ok client) {name : τ} {s : ClientServiceConfig τ}
    (hs : client.services.lookup name = some s) : s.name = name ∧ s.token.isSome = true :=
  ⟨(service_of_validateClientConfig h hs).1, (service_of_validateClientConfig h hs).2.1⟩

end Validated

end Rathole
