import Rathole.Agreement.Simulation

/-!
# What a Handshake Comes To

A session cannot go on for ever, and it cannot stop before both sides are
done. So every schedule, whatever it does to the two streams, ends with what
the configurations say: the client is let in exactly if the server has a
service of its name with its token, and then both have the same session key.

## Main definitions

* `Session.Refused`, `Session.Established`: The ways a handshake can end.
* `Session.Outcome`: Which of them it is.
* `hashed`: The strings whose digests have to be told apart.

## Theorems

* `At.finished`: A session that is stuck is at its last stages.
* `handshake_agrees`: Every schedule is finite and ends with the outcome.
-/

namespace Rathole

open ByteStream FairLock Server Client Transition


variable {β : Type} [DecidableEq β]

namespace Setting

variable {P : Setting β} {t : Session β} {g : ServerStage β} {k : ClientStage} {inS inC : List β}

/-- A session that is at some stage of each side. -/
def Covers (P : Setting β) (t : Session β) : Prop := ∃ g k inS inC, P.At t g k inS inC

theorem Covers.step {t' : Session β} {x : SessionAction} (h : P.Covers t) (hready : P.Ready)
    (hstep : t.step P.env P.service P.conn x = some t') :
    P.Covers t' ∧ t'.measure P.conn < t.measure P.conn := by
  rcases h with ⟨g, k, inS, inC, hat⟩
  exact hat.step hready hstep

/-- The last stages of the server. -/
def Last (P : Setting β) (g : ServerStage β) : Prop :=
  g = .refused ∨ g = .rejected ∨ ∃ cfg, g = .control cfg P.commands.length

/-- What is written is delivered. -/
theorem At.delivered (h : P.At t g k inS inC)
    (hstuck : Stuck (Session.step P.env P.service P.conn) t) :
    P.readAt g ++ inS = P.clientSentAt k ∧ P.clientReadAt k ++ inC = P.sentAt g := by
  have hto := h.toServer_le
  have htc := h.toClient_le
  constructor
  · by_cases hlt : t.toServer < (P.clientSentAt k).length
    · have hnone := hstuck (.toServer 1)
      have hsent : t.client.handshake.sent = P.clientSentAt k := by rw [h.handshake]; rfl
      simp only [Session.step, hsent, h.server, arrive_serverAt] at hnone
      rw [if_pos ⟨Nat.one_pos, hlt⟩] at hnone
      simp only [Option.map_some, reduceCtorEq] at hnone
    · rw [h.toServer, List.take_of_length_le (by omega)]
  · by_cases hlt : t.toClient < (P.sentAt g).length
    · have hnone := hstuck (.toClient 1)
      simp only [Session.step, h.conn] at hnone
      rw [if_pos ⟨Nat.one_pos, hlt⟩] at hnone
      simp only [reduceCtorEq] at hnone
    · rw [h.toClient, List.take_of_length_le (by omega)]

/-- The server waits for bytes that the client has not written. -/
theorem At.server_waits (h : P.At t g k inS inC) (hready : P.Ready)
    (hstuck : Stuck (Session.step P.env P.service P.conn) t) {a : Server.Action β}
    (ha : (P.phaseAt g).next P.conn = some a) :
    (P.clientSentAt k).length < (P.readAt (P.nextServer g)).length := by
  by_contra hlen
  rw [← (h.delivered hstuck).1] at hlen
  -- With the bytes there, the next await would complete.
  rcases serve_next hready h.valid ha h.upstream (Nat.le_of_not_lt hlen) with ⟨inS', _, hstep⟩
  rw [← h.server] at hstep
  have hnone := hstuck .serve
  simp only [Session.step, h.conn, ha, hstep, Option.map_some, reduceCtorEq] at hnone

/-- The client waits for bytes that the server has not written. -/
theorem At.client_waits (h : P.At t g k inS inC) (hready : P.Ready)
    (hstuck : Stuck (Session.step P.env P.service P.conn) t) (hk : k ≠ .ended) :
    (P.sentAt g).length < (P.clientReadAt (nextClient k)).length := by
  by_contra hlen
  rw [← (h.delivered hstuck).2] at hlen
  -- As for the server, the next await would complete.
  rcases advance_next hready hk h.downstream (Nat.le_of_not_lt hlen) with ⟨inC', _, hadv⟩
  have hclient : t.client = .going (P.handshakeAt k inC) := by
    rw [h.client]
    cases k with
    | ended => exact absurd rfl hk
    | _ => rfl
  have hnone := hstuck .client
  have hadv' : (P.handshakeAt k inC).advance P.env.alphabet P.service =
      some (P.clientAt (nextClient k) inC') := hadv
  simp only [Session.step, hclient, hadv', Option.map_some, reduceCtorEq] at hnone

/-- Once the client has written all it writes, the server gets to its end. -/
theorem At.last (h : P.At t g k inS inC) (hready : P.Ready)
    (hstuck : Stuck (Session.step P.env P.service P.conn) t)
    (hsent : P.clientSentAt k = P.upstream) : P.Last g := by
  rcases ha : (P.phaseAt g).next P.conn with _ | a
  · cases g with
    | refused => exact Or.inl rfl
    | rejected => exact Or.inr (Or.inl rfl)
    | control cfg n =>
        refine Or.inr (Or.inr ⟨cfg, ?_⟩)
        -- No command is left to write.
        rcases hrest : t.commands with _ | ⟨cmd, rest⟩
        · have hlen := congrArg List.length h.commands
          rw [hrest, List.length_nil, List.length_drop] at hlen
          have hle := h.written
          simp only [writtenAt] at hlen hle
          congr 1
          omega
        · have hdrop : P.commands.drop n = cmd :: rest := by
            rw [← hrest, h.commands]
            rfl
          have hcmd : P.commands[n]? = some cmd := by
            rw [← List.head?_drop, hdrop]
            rfl
          have hnone := hstuck .command
          simp only [Session.step, hrest, h.server, command_control inS cfg hcmd, Option.map_some,
            reduceCtorEq] at hnone
    | _ => simp only [phaseAt, Phase.next, reduceCtorEq] at ha
  · -- All that the client writes is there, and the server needs no more.
    have hwaits := h.server_waits hready hstuck ha
    rw [hsent] at hwaits
    have hle := (P.readAt_prefix (P.nextServer g)).length_le
    omega

/-- A session that is stuck is at its last stages. -/
theorem At.finished (h : P.At t g k inS inC) (hready : P.Ready)
    (hstuck : Stuck (Session.step P.env P.service P.conn) t) : P.Last g ∧ k = .ended := by
  have hread : (P.clientReadAt k).length ≤ (P.sentAt g).length := by
    rw [← (h.delivered hstuck).2, List.length_append]
    exact Nat.le_add_right _ _
  cases k with
  | ended => exact ⟨h.last hready hstuck rfl, rfl⟩
  | readingAck =>
      -- The server has written its ack behind its hello.
      have hwaits := h.client_waits hready hstuck (by decide)
      rw [nextClient, clientReadAt, List.length_append] at hwaits
      have hack : ∀ a, (P.ack a).length = 4 := fun _ => rfl
      rw [hack] at hwaits
      rcases h.last hready hstuck rfl with hg | hg | ⟨cfg, hg⟩
      · rw [hg, sentAt, List.length_append, hack] at hwaits
        omega
      · rw [hg, sentAt, List.length_append, hack] at hwaits
        omega
      · rw [hg, sentAt, List.length_append, List.length_append, hack] at hwaits
        omega
  | readingHello =>
      have hwaits := h.client_waits hready hstuck (by decide)
      rw [nextClient, clientReadAt] at hwaits
      -- From its hello on, the server has written all the client waits for.
      have hsent : ∀ rest, ¬ (P.serverHello ++ rest).length < P.serverHello.length := by
        intro rest
        rw [List.length_append]
        omega
      cases g with
      -- Here the server waits for a hello that was sent.
      | readingHello => exact absurd (h.server_waits hready hstuck rfl) (Nat.lt_irrefl _)
      | sendingHello => exact absurd (h.server_waits hready hstuck rfl) (Nat.lt_irrefl _)
      | refused => exact absurd hwaits (hsent _)
      | rejected => exact absurd hwaits (hsent _)
      | control cfg n =>
          rw [sentAt, List.append_assoc] at hwaits
          exact absurd hwaits (hsent _)
      | _ => exact absurd hwaits (Nat.lt_irrefl _)
  | sendingAuth => exact absurd (h.client_waits hready hstuck (by decide)) (Nat.not_lt.mpr hread)
  | _ =>
      exact absurd (h.client_waits hready hstuck (by decide)) (Nat.not_lt.mpr (Nat.zero_le _))

end Setting

/-! ### From the configurations -/

/-- The strings whose digests a handshake compares: the names of services, and
    tokens followed by the nonce. -/
def hashed (service : ClientServiceConfig (List β))
    (services : HashMap (List β) (ServerServiceConfig (List β))) (nonce : Digest β) :
    Set (List β) :=
  { x | x = service.name ∨ x ∈ services ∨ ∃ token,
    (service.token = some token ∨
      ∃ name cfg, services.lookup name = some cfg ∧ cfg.token = some token) ∧
    x = token ++ nonce.toList }

namespace Session

/-- The client is told that it is not let in, and the control channels are as
    they were. -/
structure Refused (s : Server β) (service : ClientServiceConfig (List β)) (ack : Ack)
    (t : Session β) : Prop where
  client : ∃ h, t.client = .failed (.authenticationFailed service.name ack) h
  conn : ∃ c, t.server.conns[s.conns.length]? = some c ∧ c.phase = .closed
  channels : t.server.channels = s.channels
  handles : t.server.handles = s.handles

/-- Both sides have a session key, the server a new handle under it, and
    neither has taken anything off its stream but the messages of the
    handshake. The key is in the map unless another service has the same. -/
structure Established (E : Server.Env β) (s : Server β) (service : ClientServiceConfig (List β))
    (cfg : ServerServiceConfig (List β)) (commands : List ControlChannelCmd)
    (key : Digest β) (t : Session β) : Prop where
  derived : ∃ token, service.token = some token ∧
    key = E.alphabet.digest (token ++ (E.nonce s.conns.length).toList)
  client : ∃ h, t.client = .established key h ∧
    h.sent = (Client.clientHello E.alphabet service).serialize E.alphabet ++
      (Auth.mk key).serialize ∧
    h.inbox = (ControlChannelCmd.codec E.alphabet).encodeAll commands
  server : ∃ c, t.server.conns[s.conns.length]? = some c ∧ c.phase = .control s.handles.length ∧
    c.sent = (Hello.controlChannelHello currentProtoVersion
      (E.nonce s.conns.length)).serialize E.alphabet ++ serializeTag E.alphabet Ack.tag .ok ++
      (ControlChannelCmd.codec E.alphabet).encodeAll commands ∧
    c.inbox = []
  handles : t.server.handles = s.handles ++
    [{ owner := E.alphabet.digest service.name, service := cfg, queue := [], pooling := true }]
  channels : (∀ x ∈ s.channels.items, x.2.1 = key → x.1 = E.alphabet.digest service.name) →
    t.server.channels.get1 (E.alphabet.digest service.name) = some s.handles.length ∧
    t.server.channels.get2 key = some s.handles.length ∧
    (E.alphabet.digest service.name, key, s.handles.length) ∈ t.server.channels.items

/-- What the configurations say. -/
def Outcome (E : Server.Env β) (s : Server β) (service : ClientServiceConfig (List β))
    (services : HashMap (List β) (ServerServiceConfig (List β)))
    (commands : List ControlChannelCmd) (t : Session β) : Prop :=
  match services.lookup service.name with
  | none => Refused s service .serviceNotExist t
  | some cfg =>
      if cfg.token = service.token then ∃ key, Established E s service cfg commands key t
      else Refused s service .authFailed t

end Session

namespace Setting

variable {P : Setting β} {t : Session β} {g : ServerStage β} {inS inC : List β}

/-- The new handle is the one of its service and of its key. -/
theorem mem_channelsAfter (P : Setting β)
    (hfree : ∀ x ∈ P.channels.items, x.2.1 = P.key → x.1 = P.digest) :
    (P.digest, P.key, P.handles.length) ∈ P.channelsAfter.items := by
  -- The old channel of the service was dropped.
  have h1 : (P.channels.remove1 P.digest).2.get1 P.digest = none := by
    by_contra hne
    rcases Option.ne_none_iff_exists'.mp hne with ⟨v, hv⟩
    rcases MultiMap.get1_eq_some_iff.mp hv with ⟨k, hin⟩
    exact (MultiMap.mem_remove1_iff.mp hin).2 rfl
  -- Another service could have the key, and `hfree` says that none has.
  have h2 : (P.channels.remove1 P.digest).2.get2 P.key = none := by
    by_contra hne
    rcases Option.ne_none_iff_exists'.mp hne with ⟨v, hv⟩
    rcases MultiMap.get2_eq_some_iff.mp hv with ⟨k, hin⟩
    have hmem := MultiMap.mem_remove1_iff.mp hin
    exact hmem.2 (hfree _ hmem.1 rfl)
  rcases MultiMap.insert_eq_ok h1 h2 P.handles.length with ⟨m, hm⟩
  rw [channelsAfter, hm]
  exact (MultiMap.mem_insert_iff hm).mpr (Or.inl rfl)

/-- The setting of a session that starts. -/
def ofServer (E : Server.Env β) (s : Server β) (service : ClientServiceConfig (List β))
    (token : List β) (commands : List ControlChannelCmd) : Setting β where
  env := E
  service := service
  token := token
  services := s.services
  conns := s.conns
  channels := s.channels
  handles := s.handles
  commands := commands

section OfServer

variable {E : Server.Env β} {s : Server β} {service : ClientServiceConfig (List β)} {token : List β}
  {commands : List ControlChannelCmd}

theorem at_start {services : HashMap (Digest β) (ServerServiceConfig (List β))}
    (hs : s.Idle services) : (ofServer E s service token commands).At (Session.start s commands)
      .readingHello .resolving [] [] := by
  constructor
  · exact trivial
  · exact Nat.zero_le _
  · rcases s with ⟨services', channels, servicesLock, channelsLock, conns, handles, main, aborted⟩
    have hservicesLock := hs.servicesLock
    have hchannelsLock := hs.channelsLock
    have hmain := hs.main
    have hrunning := hs.running
    simp only at hservicesLock hchannelsLock hmain hrunning
    subst hservicesLock hchannelsLock hmain hrunning
    rfl
  · rfl
  · rfl
  · exact Nat.zero_le _
  · rfl
  · exact Nat.zero_le _
  · rfl

theorem At.refused (h : (ofServer E s service token commands).At t g .ended inS inC) {a : Ack}
    (hverdict : (ofServer E s service token commands).verdict = a) (ha : a ≠ .ok)
    (hg : g = .refused ∨ g = .rejected) : Session.Refused s service a t := by
  have hconn := h.conn
  have hserver := h.server
  have hclient := h.client
  constructor
  · rw [hclient]
    unfold clientAt acked
    rw [hverdict]
    cases a with
    | ok => exact absurd rfl ha
    | serviceNotExist => exact ⟨_, rfl⟩
    | authFailed => exact ⟨_, rfl⟩
  · rcases hg with hg | hg
    · exact ⟨_, hconn, by rw [hg]; rfl⟩
    · exact ⟨_, hconn, by rw [hg]; rfl⟩
  · rw [hserver]
    rcases hg with hg | hg <;> rw [hg] <;> rfl
  · rw [hserver]
    rcases hg with hg | hg <;> rw [hg] <;> rfl

theorem At.established {cfg : ServerServiceConfig (List β)}
    (h : (ofServer E s service token commands).At t (.control cfg commands.length) .ended inS inC)
    (hstuck : Stuck (Session.step E service s.conns.length) t)
    (hverdict : (ofServer E s service token commands).verdict = .ok)
    (htoken : service.token = some token) :
    ∃ key, Session.Established E s service cfg commands key t := by
  have hdelivered := h.delivered hstuck
  have hall : (ofServer E s service token commands).commandBytes commands.length =
      (ControlChannelCmd.codec E.alphabet).encodeAll commands :=
    congrArg (ControlChannelCmd.codec E.alphabet).encodeAll List.take_length
  -- The client has written its auth last, and the server has read it.
  have hS : inS = [] := List.append_right_eq_self.mp hdelivered.1
  have hC : inC = (ControlChannelCmd.codec E.alphabet).encodeAll commands := by
    have hread := hdelivered.2
    rw [clientReadAt, hverdict, sentAt, hall] at hread
    exact List.append_cancel_left hread
  refine ⟨(ofServer E s service token commands).key, ?_⟩
  constructor
  · exact ⟨token, htoken, rfl⟩
  · refine ⟨(ofServer E s service token commands).handshakeAt .ended inC, ?_, rfl, hC⟩
    rw [h.client]
    unfold clientAt acked
    rw [hverdict]
  · refine ⟨_, h.conn, rfl, ?_, hS⟩
    rw [sentAt, hall]
    rfl
  · rw [h.server]
    rfl
  · intro hfree
    have hin := (ofServer E s service token commands).mem_channelsAfter hfree
    have hchannels : t.server.channels = (ofServer E s service token commands).channelsAfter := by
      rw [h.server]
      rfl
    rw [hchannels]
    exact ⟨MultiMap.get1_eq_some_iff.mpr ⟨_, hin⟩, MultiMap.get2_eq_some_iff.mpr ⟨_, hin⟩, hin⟩

end OfServer

end Setting

/-- Whatever is done to the streams, a session of a client with a validated
    configuration and a server with another one takes a bounded number of
    actions, and when none is left it has the outcome that the two
    configurations say. -/
theorem handshake_agrees (E : Server.Env β) {rawServer server : ServerConfig (List β)}
    (hserver : validateServerConfig rawServer = .ok server)
    (htype : ∀ name cfg, server.services.lookup name = some cfg → cfg.serviceType ≠ .http)
    {rawClient client : ClientConfig (List β)}
    (hclient : validateClientConfig rawClient = .ok client)
    {name : List β} {service : ClientServiceConfig (List β)}
    (hservice : client.services.lookup name = some service) {s : Server β}
    (hs : s.Idle (generateServiceHashmap E.alphabet server))
    (hinj : Set.InjOn E.alphabet.digest (hashed service server.services (E.nonce s.conns.length)))
    (commands : List ControlChannelCmd) :
    (∃ bound, ∀ as t, exec (Session.step E service s.conns.length) (Session.start s commands) as =
      some t → as.length ≤ bound) ∧
    ∀ t, Reaches (Session.step E service s.conns.length) (fun _ _ => True)
      (Session.start s commands) t → Stuck (Session.step E service s.conns.length) t →
      Session.Outcome E s service server.services commands t := by
  have hsome := (lookup_validateClientConfig hclient hservice).2
  rcases Option.isSome_iff_exists.mp hsome with ⟨token, htoken⟩
  -- The digest of the name finds the service of that name.
  have hlookup : s.services.lookup (E.alphabet.digest service.name) =
      server.services.lookup service.name := by
    rw [hs.services]
    apply lookup_generateServiceHashmap
    intro x hx heq
    exact hinj (Or.inr (Or.inl hx)) (Or.inl rfl) heq
  have hready : (Setting.ofServer E s service token commands).Ready := by
    constructor
    · exact htoken
    · intro cfg hcfg
      exact (lookup_validateServerConfig hserver (hlookup.symm.trans hcfg)).2
    · intro cfg hcfg
      exact htype _ cfg (hlookup.symm.trans hcfg)
    · intro cfg token' hcfg htoken' hne heq
      have hconcat := hinj
        (Or.inr (Or.inr ⟨token', Or.inr ⟨_, cfg, hlookup.symm.trans hcfg, htoken'⟩, rfl⟩))
        (Or.inr (Or.inr ⟨token, Or.inl htoken, rfl⟩)) heq
      exact hne (List.append_cancel_right hconcat)
  have hstart : (Setting.ofServer E s service token commands).Covers (Session.start s commands) :=
    ⟨_, _, _, _, Setting.at_start hs⟩
  constructor
  · refine ⟨(Session.start s commands).measure s.conns.length, ?_⟩
    intro as t hexec
    exact exec_length_le (fun _ _ _ hx hstep => (hx.step hready hstep).1)
      (fun _ _ _ hx hstep => (hx.step hready hstep).2) as _ t hstart hexec
  · intro t hr hstuck
    have hcovers : (Setting.ofServer E s service token commands).Covers t :=
      hr.invariant (fun _ _ _ hx _ hstep => (hx.step hready hstep).1) hstart
    rcases hcovers with ⟨g, k, inS, inC, hat⟩
    rcases hat.finished hready hstuck with ⟨hlast, hk⟩
    subst hk
    unfold Session.Outcome
    -- The configurations decide at which of its last stages the server is.
    have hvalid := hat.valid
    rcases hlast with hg | hg | ⟨cfg, hg⟩
    · rw [hg] at hvalid
      have hname : server.services.lookup service.name = none := hlookup.symm.trans hvalid
      rw [hname]
      exact hat.refused (Setting.verdict_none hvalid) (by decide) (Or.inl hg)
    · rw [hg] at hvalid
      rcases hvalid with ⟨cfg, token', hcfg, htoken', hne⟩
      have hname : server.services.lookup service.name = some cfg := hlookup.symm.trans hcfg
      have hdiff : ¬ cfg.token = service.token := by
        rw [htoken', htoken, Option.some.injEq]
        exact hne
      rw [hname]
      simp only [if_neg hdiff]
      exact hat.refused (Setting.verdict_ne hcfg htoken' hne) (by decide) (Or.inr hg)
    · subst hg
      have hname : server.services.lookup service.name = some cfg := hlookup.symm.trans hvalid.1
      have hsame : cfg.token = service.token := hvalid.2.trans htoken.symm
      rw [hname]
      simp only [if_pos hsame]
      exact hat.established hstuck (Setting.verdict_eq hvalid.1 hvalid.2) htoken

/-! ### A session on concrete bytes -/

/-- Plain TCP with the default settings. -/
def tcpTransport : TransportConfig where
  transportType := .tcp
  tcp := { nodelay := true, keepaliveSecs := 20, keepaliveInterval := 8, proxy := none }
  tls := none
  noise := none
  websocket := none

/-- A server with one service that takes the default token. -/
def oneServer (name : List UInt8) (token : Option (List UInt8)) : ServerConfig (List UInt8) where
  bindAddr := "0.0.0.0:2333"
  defaultToken := some sampleToken
  jwtSecret := ""
  defaultCloudBackend := none
  services := (∅ : HashMap (List UInt8) (ServerServiceConfig (List UInt8))).insert sampleName
    { serviceType := .tcp, name := name, bindAddr := "0.0.0.0:2222", token := token,
      nodelay := none }
  transport := tcpTransport
  heartbeatInterval := 30

/-- Its client. -/
def oneClient (name : List UInt8) (token : Option (List UInt8)) (retryInterval : Option UInt64) :
    ClientConfig (List UInt8) where
  remoteAddr := "example.com:2333"
  defaultToken := some sampleToken
  preferIpv6 := none
  services := (∅ : HashMap (List UInt8) (ClientServiceConfig (List UInt8))).insert sampleName
    { serviceType := .tcp, name := name, localAddr := "127.0.0.1:22", preferIpv6 := false,
      token := token, nodelay := none, retryInterval := retryInterval }
  transport := tcpTransport
  heartbeatTimeout := 40
  retryInterval := 1

/-- The two of them come to an agreement, with a command right behind the
    acknowledgement. -/
theorem handshake_agrees_ssh :
    let E : Server.Env UInt8 := { alphabet := plainBytes, nonce := fun _ => sampleNonce }
    let service : ClientServiceConfig (List UInt8) :=
      { serviceType := .tcp, name := sampleName, localAddr := "127.0.0.1:22", preferIpv6 := false,
        token := some sampleToken, nodelay := none, retryInterval := some 1 }
    let s := Server.initial
      (generateServiceHashmap plainBytes (oneServer sampleName (some sampleToken)))
    ∀ t, Reaches (Session.step E service 0) (fun _ _ => True)
      (Session.start s [.createDataChannel]) t → Stuck (Session.step E service 0) t →
      Session.Outcome E s service (oneServer sampleName (some sampleToken)).services
        [.createDataChannel] t := by
  intro E service s
  have hserver : validateServerConfig (oneServer [] none) =
      .ok (oneServer sampleName (some sampleToken)) := by rfl
  have hclient : validateClientConfig (oneClient [] none none) =
      .ok (oneClient sampleName (some sampleToken) (some 1)) := by rfl
  have hservice : (oneClient sampleName (some sampleToken) (some 1)).services.lookup sampleName =
      some service := by rfl
  have htype : ∀ name cfg, (oneServer sampleName (some sampleToken)).services.lookup name =
      some cfg → cfg.serviceType ≠ .http := by
    intro name cfg hcfg
    rw [(HashMap.eq_of_lookup_insert_empty hcfg).2]
    simp only [ne_eq, reduceCtorEq, not_false_eq_true]
  have hs : s.Idle (generateServiceHashmap plainBytes (oneServer sampleName (some sampleToken))) :=
    ⟨rfl, rfl, rfl, rfl, rfl⟩
  -- Only two strings are hashed.
  have htwo : ∀ x ∈ hashed service (oneServer sampleName (some sampleToken)).services sampleNonce,
      x = sampleName ∨ x = sampleToken ++ sampleNonce.toList := by
    intro x hx
    rcases hx with hx | hx | ⟨token, hor, hx⟩
    · exact Or.inl hx
    · rcases Option.isSome_iff_exists.mp (AList.lookup_isSome.mpr hx) with ⟨cfg, hcfg⟩
      exact Or.inl (HashMap.eq_of_lookup_insert_empty hcfg).1
    · have htoken : token = sampleToken := by
        rcases hor with hown | ⟨name, cfg, hcfg, htoken⟩
        · exact (Option.some.inj hown).symm
        · rw [(HashMap.eq_of_lookup_insert_empty hcfg).2] at htoken
          exact (Option.some.inj htoken).symm
      rw [htoken] at hx
      exact Or.inr hx
  have hinj : Set.InjOn plainBytes.digest
      (hashed service (oneServer sampleName (some sampleToken)).services sampleNonce) := by
    intro x hx y hy heq
    rcases htwo x hx with hx | hx <;> rcases htwo y hy with hy | hy
    · rw [hx, hy]
    · rw [hx, hy] at heq
      exact absurd heq (by decide)
    · rw [hx, hy] at heq
      exact absurd heq (by decide)
    · rw [hx, hy]
  exact (handshake_agrees E hserver htype hclient hservice hs hinj [.createDataChannel]).2

end Rathole
