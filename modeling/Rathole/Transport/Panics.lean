import Rathole.Transport

/-!
# What Transports Panic Over

For each of the three things a transport is for, when it panics, and when it
goes well in a world that says yes to everything. Which of them the
configuration alone decides is said of the configuration.

## Main definitions

* `TransportConfig.tlsInUse`: The TLS block, if there is TLS.
* `TransportConfig.Creatable`: The blocks are there, and can be read.
* `TransportConfig.PasswordSet`, `TransportConfig.IdentitySet`,
  `TcpConfig.ProxyComplete`: What else a transport relies on.
* `Transport.Of`: A transport that is made from a configuration.

## Theorems

* `toSocketAddr_eq_ok`: Only an address with a port is resolved.
* `Transport.of_new`, `Transport.new_granted`: What is made, and when.
* `Transport.exists_panics_new`, `Transport.panics_handshake`,
  `Transport.panics_connect`: When each of the three panics.
-/

namespace Rathole

open Completion

/-! ### Addresses -/

theorem toSocketAddr_eq_ok {w : World} {addr : String} {u : Unit} :
    toSocketAddr w addr = .ok u ↔ HasPort addr ∧ w .resolve = true := by
  unfold toSocketAddr HasPort hostPortPair
  rcases rsplitColon addr.toList with _ | ⟨host, port⟩
  · simp only [reduceCtorEq, exists_false, false_and]
  · rcases hn : parseU16 port with _ | n
    · simp only [hn, reduceCtorEq, exists_false, false_and]
    · simp only [hn, ensure_eq_ok, Except.ok.injEq, exists_eq', true_and]

/-- A name server is not asked for a panic. -/
theorem not_panics_toSocketAddr {Q : Panic → Prop} (w : World) (addr : String) :
    ¬ Panics Q (toSocketAddr w addr) := by
  unfold toSocketAddr
  rcases rsplitColon addr.toList with _ | ⟨host, port⟩
  · exact not_panics_error
  · rcases hn : parseU16 port with _ | n
    · simp only [hn, not_panics_error, not_false_eq_true]
    · simp only [hn, not_panics_ensure, not_false_eq_true]

theorem not_panics_hostPortPair {Q : Panic → Prop} {addr : String} (h : HasPort addr) :
    ¬ Panics Q (hostPortPair addr) := by
  rcases h with ⟨pair, hpair⟩
  rw [hpair]
  exact not_panics_ok pair

/-! ### What a configuration asks for -/

/-- The TLS block, if the transport uses TLS. -/
def TransportConfig.tlsInUse (c : TransportConfig) : Option TlsConfig :=
  match c.transportType with
  | .tls => c.tls
  | .websocket => match c.websocket with
    | some ws => if ws.tls then c.tls else none
    | none => none
  | _ => none

/-- The blocks a transport is made from are there, and can be read. -/
def TransportConfig.Creatable (P : Parsers) (c : TransportConfig) : Prop :=
  match c.transportType with
  | .tcp => True
  | .tls => c.tls.isSome = true
  | .noise => ∃ noise, c.noise = some noise ∧ NoiseTransport.readable P noise = true
  | .websocket => ∃ ws, c.websocket = some ws ∧ (ws.tls = true → c.tls.isSome = true)

theorem TransportConfig.creatable_of_tlsInUse {P : Parsers} {c : TransportConfig}
    {tls : TlsConfig} (h : c.tlsInUse = some tls) : c.Creatable P := by
  unfold tlsInUse at h
  unfold Creatable
  cases hty : c.transportType with
  | tls =>
      simp only [hty] at h
      simp only [h, Option.isSome_some]
  | websocket =>
      simp only [hty] at h
      rcases hws : c.websocket with _ | ws
      · simp only [hws, reduceCtorEq] at h
      · simp only [hws, Option.ite_none_right_eq_some] at h
        exact ⟨ws, rfl, fun _ => by rw [h.2, Option.isSome_some]⟩
  | _ => simp only [hty, reduceCtorEq] at h

/-- An identity comes with its password. -/
def TransportConfig.PasswordSet (c : TransportConfig) : Prop :=
  ∀ tls, c.tlsInUse = some tls → tls.pkcs12.isSome = true → tls.pkcs12Password.isSome = true

/-- There is an identity to accept with. -/
def TransportConfig.IdentitySet (c : TransportConfig) : Prop :=
  ∀ tls, c.tlsInUse = some tls → tls.pkcs12.isSome = true

/-- The proxy, if there is one, has a host and a port. -/
def TcpConfig.ProxyComplete (c : TcpConfig) : Prop :=
  ∀ url, c.proxy = some url → url.host.isSome = true ∧ url.port.isSome = true

/-- The check of a proxy's scheme. -/
def TcpConfig.ProxyKnown (c : TcpConfig) : Prop :=
  ∀ url, c.proxy = some url → url.scheme = "socks5" ∨ url.scheme = "http"

/-! ### TLS -/

namespace TlsTransport

/-- The transport that is made from a block. -/
structure Of (t : TlsTransport) (c : TransportConfig) : Prop where
  tls : c.tls = some t.config
  tcp : t.tcp.cfg = c.tcp
  connector : t.connector.isSome = true
  tlsAcceptor : t.tlsAcceptor.isSome = t.config.pkcs12.isSome

variable {w : World} {c : TransportConfig} {t : TlsTransport}

theorem newAcceptor_eq_ok {password pkcs12 : Option String} {a : Option TlsAcceptor}
    (h : newAcceptor w password pkcs12 = .ok a) : a.isSome = pkcs12.isSome := by
  cases pkcs12 with
  | none =>
      simp only [newAcceptor, pure_eq_ok] at h
      rw [← h]
      rfl
  | some path =>
      simp only [newAcceptor, bind_eq_ok, ensure_eq_ok, unwrap_eq_ok] at h
      rcases h with ⟨_, _, _, _, _, _, h⟩
      by_cases hb : w .buildAcceptor = true
      · simp only [hb, if_true, pure_eq_ok] at h
        rw [← h]
        rfl
      · simp only [hb, Bool.false_eq_true, if_false, reduceCtorEq] at h

theorem of_new (h : new w c = .ok t) : t.Of c := by
  simp only [new, bind_eq_ok, okOr_eq_ok, pure_eq_ok] at h
  rcases h with ⟨tls, htls, connector, _, acceptor, hacceptor, ht⟩
  rw [← ht]
  exact ⟨htls, rfl, rfl, newAcceptor_eq_ok hacceptor⟩

/-- A panic that the configuration leads to is that of the password. -/
theorem panics_new : Panics Panic.OfConfig (new w c) ↔ ∃ tls, c.tls = some tls ∧
    (∃ connector, newConnector w tls.trustedRoot = .ok connector) ∧
    w .readPkcs12 = true ∧ tls.pkcs12.isSome = true ∧ tls.pkcs12Password = none := by
  have hconnector : ∀ root, ¬ Panics Panic.OfConfig (newConnector w root) := by
    intro root
    cases root <;> simp only [newConnector, panics_bind, not_panics_ensure, not_panics_pure,
      and_false, exists_false, or_self, not_false_eq_true]
  have hacceptor : ∀ password pkcs12, Panics Panic.OfConfig (newAcceptor w password pkcs12) ↔
      w .readPkcs12 = true ∧ pkcs12.isSome = true ∧ password = none := by
    intro password pkcs12
    cases pkcs12 with
    | none => simp only [newAcceptor, not_panics_pure, Option.isSome_none, Bool.false_eq_true,
        false_and, and_false]
    | some path =>
        -- The acceptor itself fails over the file, not over the configuration.
        have hbuild : ¬ Panics Panic.OfConfig
            (if w .buildAcceptor = true then pure (some { pkcs12 := path })
              else .error (.panic .identity) : Completion Panic (Option TlsAcceptor)) := by
          by_cases hb : w .buildAcceptor = true
          · rw [if_pos hb]
            exact not_panics_pure _
          · rw [if_neg hb, panics_panic]
            exact id
        simp only [newAcceptor, panics_bind, not_panics_ensure, panics_unwrap, Panic.OfConfig,
          ensure_eq_ok, hbuild, and_false, exists_false, or_false, false_or, and_true,
          exists_const, Option.isSome_some, true_and]
  simp only [new, panics_bind, not_panics_okOr, false_or, okOr_eq_ok, hconnector, hacceptor,
    not_panics_pure, and_false, exists_false, or_false]
  constructor
  · rintro ⟨tls, htls, connector, hc, hread, hp, hn⟩
    exact ⟨tls, htls, ⟨connector, hc⟩, hread, hp, hn⟩
  · rintro ⟨tls, htls, ⟨connector, hc⟩, hread, hp, hn⟩
    exact ⟨tls, htls, connector, hc, hread, hp, hn⟩

theorem new_granted {tls : TlsConfig} (htls : c.tls = some tls)
    (hp : tls.pkcs12.isSome = true → tls.pkcs12Password.isSome = true) :
    ∃ t, new granted c = .ok t := by
  have hconnector : ∃ connector, newConnector granted tls.trustedRoot = .ok connector := by
    cases tls.trustedRoot with
    | none => exact ⟨_, rfl⟩
    | some root => exact ⟨_, rfl⟩
  have hacceptor : ∃ acceptor,
      newAcceptor granted tls.pkcs12Password tls.pkcs12 = .ok acceptor := by
    cases hpkcs : tls.pkcs12 with
    | none => exact ⟨_, rfl⟩
    | some path =>
        rw [hpkcs] at hp
        rcases Option.isSome_iff_exists.mp (hp rfl) with ⟨password, hpassword⟩
        rw [hpassword]
        exact ⟨_, rfl⟩
  rcases hconnector with ⟨connector, hc⟩
  rcases hacceptor with ⟨acceptor, ha⟩
  refine ⟨TlsTransport.mk (TcpTransport.new c) tls (some connector) acceptor, ?_⟩
  simp only [new, bind_eq_ok, okOr_eq_ok, pure_eq_ok]
  exact ⟨tls, htls, connector, hc, acceptor, ha, rfl⟩

theorem panics_handshake (h : t.Of c) :
    Panics Panic.OfConfig (t.handshake w) ↔ t.config.pkcs12 = none := by
  have hnone : t.tlsAcceptor = none ↔ t.config.pkcs12 = none := by
    rw [← Option.isNone_iff_eq_none, ← Option.isNone_iff_eq_none, ← Option.not_isSome,
      ← Option.not_isSome, h.tlsAcceptor]
  simp only [handshake, panics_bind, panics_unwrap, Panic.OfConfig, and_true, not_panics_ensure,
    and_false, exists_false, or_false, hnone]

theorem handshake_granted (h : t.Of c) (hp : t.config.pkcs12.isSome = true) :
    t.handshake granted = .ok () := by
  have hsome : t.tlsAcceptor.isSome = true := h.tlsAcceptor.trans hp
  rcases Option.isSome_iff_exists.mp hsome with ⟨a, ha⟩
  simp only [handshake, bind_eq_ok, unwrap_eq_ok, ensure_eq_ok]
  exact ⟨a, ha, rfl⟩

end TlsTransport

/-! ### Connecting -/

/-- A panic on the way through a proxy is that of its URL, or of an address
    without a port. -/
theorem panics_tcpConnectWithProxy {w : World} {addr : AddrMaybeCached} {proxy : Option Url}
    (hport : HasPort addr.addr)
    (hscheme : ∀ url, proxy = some url → url.scheme = "socks5" ∨ url.scheme = "http") :
    Panics Panic.OfConfig (tcpConnectWithProxy w addr proxy) ↔
      ∃ url, proxy = some url ∧ (url.host = none ∨ url.port = none) := by
  cases proxy with
  | none =>
      simp only [tcpConnectWithProxy, panics_bind, not_panics_ensure, and_false, exists_false,
        or_false, reduceCtorEq, false_and, iff_false]
      by_cases hc : addr.cached = true
      · rw [if_pos hc]
        exact not_panics_pure _
      · rw [if_neg hc]
        exact not_panics_toSocketAddr _ _
  | some url =>
      simp only [tcpConnectWithProxy, panics_bind, panics_unwrap, Panic.OfConfig, and_true,
        if_pos (hscheme url rfl), not_panics_hostPortPair hport, not_panics_ensure, and_false,
        exists_false, or_false, unwrap_eq_ok, Option.some.injEq, exists_eq_left']
      constructor
      · rintro (hhost | ⟨_, _, hportless⟩)
        · exact Or.inl hhost
        · exact Or.inr hportless
      · rintro (hhost | hportless)
        · exact Or.inl hhost
        · rcases hhost : url.host with _ | host
          · exact Or.inl rfl
          · exact Or.inr ⟨host, rfl, hportless⟩

/-- A proxy that is not complete lacks a host or a port. -/
theorem TcpConfig.not_proxyComplete {c : TcpConfig} : ¬ c.ProxyComplete ↔
    ∃ url, c.proxy = some url ∧ (url.host = none ∨ url.port = none) := by
  simp only [ProxyComplete, not_forall, not_and_or, Option.not_isSome_iff_eq_none, exists_prop]

theorem TcpTransport.panics_connect {w : World} {t : TcpTransport} {addr : AddrMaybeCached}
    (hport : HasPort addr.addr) (hknown : t.cfg.ProxyKnown) :
    Panics Panic.OfConfig (t.connect w addr) ↔ ¬ t.cfg.ProxyComplete := by
  rw [TcpConfig.not_proxyComplete]
  exact panics_tcpConnectWithProxy hport hknown

/-- Under TLS there is no other panic. -/
theorem TlsTransport.panics_connect {w : World} {c : TransportConfig} {t : TlsTransport}
    {addr : AddrMaybeCached} (h : t.Of c) (hport : HasPort addr.addr)
    (hknown : c.tcp.ProxyKnown) :
    Panics Panic.OfConfig (t.connect w addr) ↔ ¬ c.tcp.ProxyComplete := by
  have hconnector : t.connector ≠ none := Option.isSome_iff_ne_none.mp h.connector
  rw [← h.tcp] at hknown ⊢
  simp only [connect, panics_bind, TcpTransport.panics_connect hport hknown, panics_unwrap,
    hconnector, not_panics_hostPortPair hport, not_panics_ensure, false_and, and_false,
    exists_false, or_false]

theorem NoiseTransport.panics_connect {P : Parsers} {w : World} {t : NoiseTransport}
    {addr : AddrMaybeCached} (hport : HasPort addr.addr) (hknown : t.tcp.cfg.ProxyKnown) :
    Panics Panic.OfConfig (t.connect P w addr) ↔ ¬ t.tcp.cfg.ProxyComplete := by
  simp only [connect, panics_bind, TcpTransport.panics_connect hport hknown, not_panics_ensure,
    and_false, exists_false, or_false]

/-! ### The transport in use -/

/-- The transport below a websocket. -/
def SubTransport.Of (sub : SubTransport) (ws : WebsocketConfig) (c : TransportConfig) : Prop :=
  match sub with
  | .secure t => ws.tls = true ∧ t.Of c
  | .insecure t => ws.tls = false ∧ t.cfg = c.tcp

namespace Transport

/-- The transport that is made from a configuration. -/
def Of (t : Transport) (c : TransportConfig) : Prop :=
  match t with
  | .tcp t => c.transportType = .tcp ∧ t.cfg = c.tcp
  | .tls t => c.transportType = .tls ∧ t.Of c
  | .noise t => c.transportType = .noise ∧ c.noise = some t.config ∧ t.tcp.cfg = c.tcp
  | .websocket t => c.transportType = .websocket ∧ ∃ ws, c.websocket = some ws ∧ t.sub.Of ws c

variable {P : Parsers} {b : Build} {w : World} {c : TransportConfig} {t : Transport}

/-- What `new` makes is of the configuration, which has all it takes. -/
theorem of_new (h : new P b w c = .ok t) : t.Of c ∧ c.Creatable P := by
  unfold new at h
  by_cases hb : b.has c.transportType = true
  · rw [if_pos hb] at h
    cases hty : c.transportType with
    | tcp =>
        simp only [hty, Except.ok.injEq] at h
        rw [← h]
        exact ⟨⟨hty, rfl⟩, by simp only [TransportConfig.Creatable, hty]⟩
    | tls =>
        simp only [hty, map_eq_ok] at h
        rcases h with ⟨tls, hnew, ht⟩
        have hof := TlsTransport.of_new hnew
        rw [← ht]
        refine ⟨⟨hty, hof⟩, ?_⟩
        simp only [TransportConfig.Creatable, hty, hof.tls, Option.isSome_some]
    | noise =>
        simp only [hty, map_eq_ok, NoiseTransport.new, bind_eq_ok, okOr_eq_ok, ensure_eq_ok,
          pure_eq_ok] at h
        rcases h with ⟨_, ⟨noise, hnoise, _, hread, ht'⟩, ht⟩
        rw [← ht, ← ht']
        refine ⟨⟨hty, hnoise, rfl⟩, ?_⟩
        simp only [TransportConfig.Creatable, hty]
        exact ⟨noise, hnoise, hread⟩
    | websocket =>
        simp only [hty, map_eq_ok, WebsocketTransport.new, bind_eq_ok, okOr_eq_ok] at h
        rcases h with ⟨t', ⟨ws, hws, hsub⟩, ht⟩
        rw [← ht]
        by_cases htls : ws.tls = true
        · simp only [htls, if_true, bind_eq_ok, pure_eq_ok] at hsub
          rcases hsub with ⟨tls, hnew, hsub⟩
          have hof := TlsTransport.of_new hnew
          rw [← hsub]
          refine ⟨⟨hty, ws, hws, htls, hof⟩, ?_⟩
          simp only [TransportConfig.Creatable, hty]
          exact ⟨ws, hws, fun _ => by rw [hof.tls, Option.isSome_some]⟩
        · simp only [htls, Bool.false_eq_true, if_false, pure_eq_ok] at hsub
          rw [← hsub]
          refine ⟨⟨hty, ws, hws, Bool.eq_false_iff.mpr htls, rfl⟩, ?_⟩
          simp only [TransportConfig.Creatable, hty]
          exact ⟨ws, hws, fun h => absurd h htls⟩
  · simp only [if_neg hb, reduceCtorEq] at h

/-- `new` panics for a transport that was left out of the build, and for an
    identity without a password; in a world that gets it to read the identity
    it does. -/
theorem exists_panics_new : (∃ w, Panics Panic.OfConfig (new P b w c)) ↔
    ¬ (b.has c.transportType = true ∧ c.PasswordSet) := by
  by_cases hb : b.has c.transportType = true
  · have hread : ∀ root, ∃ connector, TlsTransport.newConnector granted root = .ok connector := by
      intro root
      cases root with
      | none => exact ⟨_, rfl⟩
      | some path => exact ⟨_, rfl⟩
    -- A block of TLS that is in use panics without the password, and no other does.
    have htls : (∃ w, Panics Panic.OfConfig (TlsTransport.new w c)) ↔ ∃ tls, c.tls = some tls ∧
        tls.pkcs12.isSome = true ∧ tls.pkcs12Password = none := by
      simp only [TlsTransport.panics_new]
      constructor
      · rintro ⟨w, tls, htls, _, _, hp, hn⟩
        exact ⟨tls, htls, hp, hn⟩
      · rintro ⟨tls, htls, hp, hn⟩
        exact ⟨granted, tls, htls, hread _, rfl, hp, hn⟩
    have hunset : ¬ c.PasswordSet ↔ ∃ tls, c.tlsInUse = some tls ∧ tls.pkcs12.isSome = true ∧
        tls.pkcs12Password = none := by
      simp only [TransportConfig.PasswordSet, not_forall, Option.not_isSome_iff_eq_none,
        exists_prop]
    simp only [new, hb, if_true, true_and, hunset]
    cases hty : c.transportType with
    | tcp => simp only [not_panics_ok, exists_false, TransportConfig.tlsInUse, hty, reduceCtorEq,
        false_and]
    | tls => simp only [panics_map, htls, TransportConfig.tlsInUse, hty]
    | noise => simp only [panics_map, NoiseTransport.new, panics_bind, not_panics_okOr,
        not_panics_ensure, not_panics_pure, and_false, exists_false, or_false,
        TransportConfig.tlsInUse, hty, reduceCtorEq, false_and]
    | websocket =>
        simp only [panics_map, WebsocketTransport.new, panics_bind, not_panics_okOr, false_or,
          okOr_eq_ok, TransportConfig.tlsInUse, hty]
        rcases hws : c.websocket with _ | ws
        · simp only [reduceCtorEq, false_and, exists_false]
        · simp only [Option.some.injEq, exists_eq_left']
          by_cases hon : ws.tls = true
          · simp only [hon, if_true, panics_bind, not_panics_pure, and_false, exists_false,
              or_false, htls]
          · simp only [hon, Bool.false_eq_true, if_false, not_panics_pure, exists_false,
              reduceCtorEq, false_and]
  · simp only [hb, Bool.false_eq_true, false_and, not_false_eq_true, iff_true]
    refine ⟨granted, ?_⟩
    rw [new, if_neg hb, panics_panic]
    exact trivial

theorem new_granted (hb : b.has c.transportType = true) (hc : c.Creatable P)
    (hp : c.PasswordSet) : ∃ t, new P b granted c = .ok t := by
  simp only [new, if_pos hb]
  cases hty : c.transportType with
  | tcp => exact ⟨_, rfl⟩
  | tls =>
      simp only [TransportConfig.Creatable, hty] at hc
      rcases Option.isSome_iff_exists.mp hc with ⟨tls, htls⟩
      have huse : c.tlsInUse = some tls := by simp only [TransportConfig.tlsInUse, hty, htls]
      rcases TlsTransport.new_granted htls (hp tls huse) with ⟨t, ht⟩
      exact ⟨.tls t, by rw [ht]; rfl⟩
  | noise =>
      simp only [TransportConfig.Creatable, hty] at hc
      rcases hc with ⟨noise, hnoise, hread⟩
      have hnew : NoiseTransport.new P c = .ok ⟨TcpTransport.new c, noise⟩ := by
        simp only [NoiseTransport.new, bind_eq_ok, okOr_eq_ok, ensure_eq_ok, pure_eq_ok]
        exact ⟨noise, hnoise, (), hread, rfl⟩
      exact ⟨.noise _, by rw [hnew]; rfl⟩
  | websocket =>
      simp only [TransportConfig.Creatable, hty] at hc
      rcases hc with ⟨ws, hws, htls⟩
      have hnew : ∃ t, WebsocketTransport.new granted c = .ok t := by
        simp only [WebsocketTransport.new, bind_eq_ok, okOr_eq_ok, hws, Option.some.injEq,
          exists_eq_left']
        by_cases hon : ws.tls = true
        · rcases Option.isSome_iff_exists.mp (htls hon) with ⟨tls, hsome⟩
          have huse : c.tlsInUse = some tls := by
            simp only [TransportConfig.tlsInUse, hty, hws, hon, if_true, hsome]
          rcases TlsTransport.new_granted hsome (hp tls huse) with ⟨t, ht⟩
          simp only [hon, if_true, bind_eq_ok, ht]
          exact ⟨_, t, rfl, rfl⟩
        · simp only [hon, Bool.false_eq_true, if_false]
          exact ⟨_, rfl⟩
      rcases hnew with ⟨t, ht⟩
      exact ⟨.websocket t, by rw [ht]; rfl⟩

/-- A handshake panics if TLS is in use and there is no identity. -/
theorem panics_handshake (h : t.Of c) :
    Panics Panic.OfConfig (t.handshake P w) ↔ ¬ c.IdentitySet := by
  have hunset : ¬ c.IdentitySet ↔ ∃ tls, c.tlsInUse = some tls ∧ tls.pkcs12 = none := by
    simp only [TransportConfig.IdentitySet, not_forall, Option.not_isSome_iff_eq_none,
      exists_prop]
  rw [hunset]
  cases t with
  | tcp t => simp only [handshake, not_panics_ok, TransportConfig.tlsInUse, h.1, reduceCtorEq,
      false_and, exists_false]
  | tls t =>
      simp only [handshake, TlsTransport.panics_handshake h.2, TransportConfig.tlsInUse, h.1,
        h.2.tls, Option.some.injEq, exists_eq_left']
  | noise t => simp only [handshake, NoiseTransport.handshake, panics_bind, not_panics_ensure,
      and_false, exists_false, or_false, TransportConfig.tlsInUse, h.1, reduceCtorEq, false_and]
  | websocket t =>
      rcases h with ⟨hty, ws, hws, hsub⟩
      simp only [handshake, WebsocketTransport.handshake, panics_bind, not_panics_ensure,
        and_false, exists_false, or_false, TransportConfig.tlsInUse, hty, hws]
      cases hs : t.sub with
      | secure s =>
          simp only [hs, SubTransport.Of] at hsub
          simp only [SubTransport.handshake, TlsTransport.panics_handshake hsub.2, hsub.1, if_true,
            hsub.2.tls, Option.some.injEq, exists_eq_left']
      | insecure s =>
          simp only [hs, SubTransport.Of] at hsub
          simp only [SubTransport.handshake, not_panics_ok, hsub.1, Bool.false_eq_true, if_false,
            reduceCtorEq, false_and, exists_false]

/-- The keys of the noise protocol are good for a handshake. -/
def Answers (P : Parsers) (c : TransportConfig) : Prop :=
  c.transportType = .noise → ∀ noise, c.noise = some noise → P.responder noise = true

theorem handshake_granted (h : t.Of c) (hp : c.IdentitySet) (ha : Answers P c) :
    t.handshake P granted = .ok () := by
  cases t with
  | tcp t => rfl
  | tls t =>
      have huse : c.tlsInUse = some t.config := by
        simp only [TransportConfig.tlsInUse, h.1, h.2.tls]
      exact TlsTransport.handshake_granted h.2 (hp _ huse)
  | noise t =>
      simp only [handshake, NoiseTransport.handshake, bind_eq_ok, ensure_eq_ok]
      exact ⟨(), ha h.1 _ h.2.1, rfl⟩
  | websocket t =>
      rcases h with ⟨hty, ws, hws, hsub⟩
      simp only [handshake, WebsocketTransport.handshake, bind_eq_ok, ensure_eq_ok]
      cases hs : t.sub with
      | secure s =>
          simp only [hs, SubTransport.Of] at hsub
          have huse : c.tlsInUse = some s.config := by
            simp only [TransportConfig.tlsInUse, hty, hws, hsub.1, if_true, hsub.2.tls]
          exact ⟨(), TlsTransport.handshake_granted hsub.2 (hp _ huse), rfl⟩
      | insecure s => exact ⟨(), rfl, rfl⟩

theorem answers_of_handshake (h : t.Of c) (hx : t.handshake P w = .ok ()) : Answers P c := by
  intro hty noise hnoise
  cases t with
  | noise t =>
      simp only [handshake, NoiseTransport.handshake, bind_eq_ok, ensure_eq_ok] at hx
      rcases hx with ⟨_, hready, _⟩
      rw [h.2.1, Option.some.injEq] at hnoise
      rw [← hnoise]
      exact hready
  | tcp t =>
      rw [h.1] at hty
      cases hty
  | tls t =>
      rw [h.1] at hty
      cases hty
  | websocket t =>
      rw [h.1] at hty
      cases hty

/-- The URL a websocket is opened with can be read. -/
def Opens (P : Parsers) (c : TransportConfig) (addr : String) : Prop :=
  c.transportType = .websocket → (P.url ("ws://" ++ addr)).isSome = true

/-- Only a websocket makes a URL of its address. -/
theorem opens_of_ne (h : c.transportType ≠ .websocket) (addr : String) : Opens P c addr :=
  fun hty => absurd hty h

/-- A connect to an address with a port panics over the proxy, or over the URL
    of a websocket. -/
theorem panics_connect (addr : AddrMaybeCached) (h : t.Of c) (hport : HasPort addr.addr)
    (hknown : c.tcp.ProxyKnown) : Panics Panic.OfConfig (t.connect P w addr) ↔
      ¬ (Opens P c addr.addr ∧ c.tcp.ProxyComplete) := by
  cases t with
  | tcp t =>
      have hopens : Opens P c addr.addr :=
        opens_of_ne (by rw [h.1]; exact TransportType.noConfusion) _
      rw [← h.2] at hknown ⊢
      simp only [connect, TcpTransport.panics_connect hport hknown, hopens, true_and]
  | tls t =>
      have hopens : Opens P c addr.addr :=
        opens_of_ne (by rw [h.1]; exact TransportType.noConfusion) _
      simp only [connect, TlsTransport.panics_connect h.2 hport hknown, hopens, true_and]
  | noise t =>
      have hopens : Opens P c addr.addr :=
        opens_of_ne (by rw [h.1]; exact TransportType.noConfusion) _
      rw [← h.2.2] at hknown ⊢
      simp only [connect, NoiseTransport.panics_connect hport hknown, hopens, true_and]
  | websocket t =>
      rcases h with ⟨hty, ws, hws, hsub⟩
      -- The handshake of the websocket itself is up to the peer.
      have hpeer : ¬ Panics Panic.OfConfig (if w .websocketHandshake = true then pure ()
          else .error (.panic .websocketHandshake) : Completion Panic Unit) := by
        by_cases hw : w .websocketHandshake = true
        · rw [if_pos hw]
          exact not_panics_pure _
        · rw [if_neg hw, panics_panic]
          exact id
      have hbelow : Panics Panic.OfConfig (t.sub.connect w addr) ↔ ¬ c.tcp.ProxyComplete := by
        cases hs : t.sub with
        | secure s =>
            simp only [hs, SubTransport.Of] at hsub
            exact TlsTransport.panics_connect hsub.2 hport hknown
        | insecure s =>
            simp only [hs, SubTransport.Of] at hsub
            rw [← hsub.2] at hknown ⊢
            exact TcpTransport.panics_connect hport hknown
      simp only [connect, WebsocketTransport.connect, panics_bind, panics_unwrap, Panic.OfConfig,
        and_true, hpeer, hbelow, and_false, exists_false, or_false, unwrap_eq_ok, Opens, hty,
        true_implies]
      cases P.url ("ws://" ++ addr.addr) with
      | none => simp only [reduceCtorEq, false_and, exists_false, or_false, Option.isSome_none,
          Bool.false_eq_true, not_false_eq_true]
      | some url => simp only [reduceCtorEq, false_or, Option.some.injEq, exists_eq_left',
          Option.isSome_some, true_and]

end Transport

end Rathole
