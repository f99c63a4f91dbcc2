import Rathole.Agreement.Stages

/-!
# A Handshake Goes from Stage to Stage

Where a session is can be told by a stage of each side, how much of each
stream has been delivered, and what has been delivered and not yet read. The
next await of a side reads at most as much as the other side will ever write,
so it leads to the next stage of that side, whatever chunks the bytes came
in. Every step brings the session closer to its end.

## Main definitions

* `Setting.nextServer`, `Setting.nextClient`: The next stages.
* `Setting.At`: A session at a pair of stages.

## Theorems

* `serve_next`, `advance_next`: The next await leads to the next stage.
* `At.step`: So does every action of a session, and it leaves less to do.
-/

namespace Rathole

open ByteStream FairLock Server Client Transition


namespace Setting

variable {β : Type} (P : Setting β)

/-- All that the client writes before it has been let in. -/
def upstream : List β := P.clientHello ++ P.auth

/-- All that the server writes. -/
def downstream [DecidableEq β] : List β :=
  P.serverHello ++ (P.ack P.verdict ++ P.commandBytes P.commands.length)

/-- The stage after a completed await of the server. -/
def nextServer [DecidableEq β] : ServerStage β → ServerStage β
  | .readingHello => .sendingHello
  | .sendingHello => .lookingUp
  | .lookingUp => match P.services.lookup P.digest with
    | none => .refusing
    | some cfg => match cfg.token with
      | none => .lookingUp
      | some token => .readingAuth cfg token
  | .refusing => .refused
  | .readingAuth cfg token => if token = P.token then .locking cfg else .rejecting
  | .rejecting => .rejected
  | .locking cfg => .sendingAck cfg
  | .sendingAck cfg => .control cfg 0
  | g => g

/-- The stage after a completed await of the client. -/
def nextClient : ClientStage → ClientStage
  | .resolving => .connecting
  | .connecting => .sendingHello
  | .sendingHello => .readingHello
  | .readingHello => .sendingAuth
  | .sendingAuth => .readingAck
  | .readingAck | .ended => .ended

/-- The number of commands written at a stage. -/
def writtenAt : ServerStage β → Nat
  | .control _ n => n
  | _ => 0

variable {P} {g : ServerStage β} {k : ClientStage} {inbox : List β} {a : Server.Action β}

/-! ### Which await comes next -/

theorem readAt_prefix (P : Setting β) (g : ServerStage β) : P.readAt g <+: P.upstream := by
  unfold upstream
  cases g with
  | readingHello => exact List.nil_prefix
  | rejecting => exact List.prefix_rfl
  | rejected => exact List.prefix_rfl
  | locking cfg => exact List.prefix_rfl
  | sendingAck cfg => exact List.prefix_rfl
  | control cfg n => exact List.prefix_rfl
  | _ => exact List.prefix_append _ _

theorem clientSentAt_prefix (P : Setting β) (k : ClientStage) :
    P.clientSentAt k <+: P.upstream := by
  unfold upstream
  cases k with
  | resolving => exact List.nil_prefix
  | connecting => exact List.nil_prefix
  | sendingHello => exact List.nil_prefix
  | readingHello => exact List.prefix_append _ _
  | sendingAuth => exact List.prefix_append _ _
  | readingAck => exact List.prefix_rfl
  | ended => exact List.prefix_rfl

theorem clientSentAt_nextClient (P : Setting β) (k : ClientStage) :
    P.clientSentAt k <+: P.clientSentAt (nextClient k) ∧
      (P.clientSentAt (nextClient k)).length ≤ (P.clientSentAt k).length + 37 := by
  cases k with
  | sendingHello =>
      refine ⟨List.nil_prefix, ?_⟩
      simp only [nextClient, clientSentAt, clientHello, length_serialize_hello, List.length_nil]
      omega
  | sendingAuth =>
      have hauth : P.auth.length = 32 := P.key.toList_length
      refine ⟨List.prefix_append _ _, ?_⟩
      simp only [nextClient, clientSentAt, List.length_append, hauth]
      omega
  | _ => exact ⟨List.prefix_rfl, Nat.le_add_right _ _⟩

variable [DecidableEq β]

theorem nextServer_none (hlookup : P.services.lookup P.digest = none) :
    P.nextServer .lookingUp = .refusing := by
  simp only [nextServer, hlookup]

theorem nextServer_some {cfg : ServerServiceConfig (List β)} {token : List β}
    (hlookup : P.services.lookup P.digest = some cfg) (htoken : cfg.token = some token) :
    P.nextServer .lookingUp = .readingAuth cfg token := by
  simp only [nextServer, hlookup, htoken]

theorem nextServer_eq (cfg : ServerServiceConfig (List β)) :
    P.nextServer (.readingAuth cfg P.token) = .locking cfg :=
  if_pos rfl

theorem nextServer_ne (cfg : ServerServiceConfig (List β)) {token : List β}
    (hne : token ≠ P.token) : P.nextServer (.readingAuth cfg token) = .rejecting :=
  if_neg hne

theorem nextServer_lookingUp_cases (P : Setting β) : P.nextServer .lookingUp = .refusing ∨
    P.nextServer .lookingUp = .lookingUp ∨
    ∃ cfg token, P.nextServer .lookingUp = .readingAuth cfg token := by
  unfold nextServer
  cases P.services.lookup P.digest with
  | none => exact Or.inl rfl
  | some cfg =>
      simp only
      cases cfg.token with
      | none => exact Or.inr (Or.inl rfl)
      | some token => exact Or.inr (Or.inr ⟨cfg, token, rfl⟩)

theorem nextServer_readingAuth_cases (P : Setting β) (cfg : ServerServiceConfig (List β))
    (token : List β) : P.nextServer (.readingAuth cfg token) = .locking cfg ∨
    P.nextServer (.readingAuth cfg token) = .rejecting := by
  by_cases hne : token = P.token
  · rw [hne]
    exact Or.inl (nextServer_eq cfg)
  · exact Or.inr (nextServer_ne cfg hne)

/-- The service is either unknown or has a token. -/
theorem Ready.lookup_cases (hready : P.Ready) : P.services.lookup P.digest = none ∨
    ∃ cfg token, P.services.lookup P.digest = some cfg ∧ cfg.token = some token := by
  cases hlookup : P.services.lookup P.digest with
  | none => exact Or.inl rfl
  | some cfg =>
      rcases Option.isSome_iff_exists.mp (hready.token cfg hlookup) with ⟨token, htoken⟩
      exact Or.inr ⟨cfg, token, rfl, htoken⟩

theorem valid_nextServer (hready : P.Ready) (hg : P.Valid g) : P.Valid (P.nextServer g) := by
  cases g with
  -- Only here is the service looked up; later stages carry it along.
  | lookingUp =>
      rcases hready.lookup_cases with hlookup | ⟨cfg, token, hlookup, htoken⟩
      · rw [nextServer_none hlookup]
        exact hlookup
      · rw [nextServer_some hlookup htoken]
        exact ⟨hlookup, htoken⟩
  | readingAuth cfg token =>
      by_cases hne : token = P.token
      · subst hne
        rw [nextServer_eq]
        exact hg
      · rw [nextServer_ne cfg hne]
        exact ⟨cfg, token, hg.1, hg.2, hne⟩
  | _ => exact hg

/-- A stage with an await before it is not the last one of its side. -/
theorem rank_nextServer (hready : P.Ready) (ha : (P.phaseAt g).next P.conn = some a) :
    (P.phaseAt (P.nextServer g)).rank < (P.phaseAt g).rank := by
  cases g with
  | lookingUp =>
      rcases hready.lookup_cases with hlookup | ⟨cfg, token, hlookup, htoken⟩
      · rw [nextServer_none hlookup]
        exact (by decide : 1 < 5)
      · rw [nextServer_some hlookup htoken]
        exact (by decide : 4 < 5)
  | readingAuth cfg token =>
      by_cases hne : token = P.token
      · subst hne
        rw [nextServer_eq]
        exact (by decide : 3 < 4)
      · rw [nextServer_ne cfg hne]
        exact (by decide : 1 < 4)
  -- Nothing is awaited at the ends of a handshake.
  | refused => simp only [phaseAt, Phase.next, reduceCtorEq] at ha
  | rejected => simp only [phaseAt, Phase.next, reduceCtorEq] at ha
  | control cfg n => simp only [phaseAt, Phase.next, reduceCtorEq] at ha
  | _ => simp only [nextServer, phaseAt, Phase.rank, Nat.reduceLT]

theorem rank_ended (P : Setting β) (inbox : List β) : (P.clientAt .ended inbox).rank = 0 := by
  unfold clientAt acked
  cases P.verdict <;> rfl

theorem rank_nextClient (hk : k ≠ .ended) (inbox inbox' : List β) :
    (P.clientAt (nextClient k) inbox').rank < (P.clientAt k inbox).rank := by
  cases k with
  | ended => exact absurd rfl hk
  | readingAck =>
      rw [nextClient, rank_ended]
      exact Nat.one_pos
  | _ => simp only [nextClient, clientAt, HandshakeStep.rank, handshakeAt, pcAt, Nat.reduceLT]

/-! ### What is read and written on the way -/

theorem verdict_none (hlookup : P.services.lookup P.digest = none) :
    P.verdict = .serviceNotExist := by
  simp only [verdict, hlookup]

theorem verdict_eq {cfg : ServerServiceConfig (List β)}
    (hlookup : P.services.lookup P.digest = some cfg) (htoken : cfg.token = some P.token) :
    P.verdict = .ok := by
  simp only [verdict, hlookup, htoken, if_true]

theorem verdict_ne {cfg : ServerServiceConfig (List β)} {token : List β}
    (hlookup : P.services.lookup P.digest = some cfg) (htoken : cfg.token = some token)
    (hne : token ≠ P.token) : P.verdict = .authFailed := by
  simp only [verdict, hlookup, htoken, Option.some.injEq, if_neg hne]

/-- What the server writes is the beginning of all that it will write. -/
theorem prefix_sentAt (hg : P.Valid g) :
    P.sentAt g <+: P.downstream := by
  unfold downstream
  cases g with
  | readingHello => exact List.nil_prefix
  | sendingHello => exact List.nil_prefix
  | refused =>
      rw [verdict_none hg, sentAt, ← List.append_assoc]
      exact List.prefix_append _ _
  | rejected =>
      rcases hg with ⟨cfg, token, hlookup, htoken, hne⟩
      rw [verdict_ne hlookup htoken hne, sentAt, ← List.append_assoc]
      exact List.prefix_append _ _
  | control cfg n =>
      -- The commands so far are the beginning of all commands.
      have hcommands : P.commandBytes n <+: P.commandBytes P.commands.length := by
        rw [commandBytes, commandBytes, List.take_length]
        conv_rhs => rw [← List.take_append_drop n P.commands, FixedCodec.encodeAll_append]
        exact List.prefix_append _ _
      rw [verdict_eq hg.1 hg.2, sentAt, List.append_assoc]
      exact (List.prefix_append_right_inj _).mpr ((List.prefix_append_right_inj _).mpr hcommands)
  | _ => exact List.prefix_append _ _

theorem clientReadAt_prefix (P : Setting β) (k : ClientStage) :
    P.clientReadAt k <+: P.downstream := by
  unfold downstream
  cases k with
  | sendingAuth => exact List.prefix_append _ _
  | readingAck => exact List.prefix_append _ _
  | ended =>
      rw [clientReadAt, ← List.append_assoc]
      exact List.prefix_append _ _
  | _ => exact List.nil_prefix

/-- What a side has written stays, and an await writes at most a hello. -/
theorem sentAt_nextServer (P : Setting β) (g : ServerStage β) :
    P.sentAt g <+: P.sentAt (P.nextServer g) ∧
      (P.sentAt (P.nextServer g)).length ≤ (P.sentAt g).length + 37 := by
  have hack : ∀ a, (P.ack a).length = 4 := fun _ => rfl
  cases g with
  | sendingHello =>
      refine ⟨List.nil_prefix, ?_⟩
      simp only [nextServer, sentAt, serverHello, length_serialize_hello, List.length_nil]
      omega
  -- Neither outcome of the lookup writes anything by itself.
  | lookingUp =>
      rcases P.nextServer_lookingUp_cases with hnext | hnext | ⟨cfg, token, hnext⟩ <;>
        rw [hnext] <;>
        exact ⟨List.prefix_rfl, Nat.le_add_right _ _⟩
  | readingAuth cfg token =>
      rcases P.nextServer_readingAuth_cases cfg token with hnext | hnext <;> rw [hnext] <;>
        exact ⟨List.prefix_rfl, Nat.le_add_right _ _⟩
  | refusing =>
      refine ⟨List.prefix_append _ _, ?_⟩
      simp only [nextServer, sentAt, List.length_append, hack]
      omega
  | rejecting =>
      refine ⟨List.prefix_append _ _, ?_⟩
      simp only [nextServer, sentAt, List.length_append, hack]
      omega
  | sendingAck cfg =>
      simp only [nextServer, sentAt, commandBytes, List.take_zero, FixedCodec.encodeAll_nil,
        List.append_nil]
      refine ⟨List.prefix_append _ _, ?_⟩
      rw [List.length_append, hack]
      omega
  | _ => exact ⟨List.prefix_rfl, Nat.le_add_right _ _⟩

/-! ### The next await leads to the next stage -/

theorem serve_next (hready : P.Ready) (hg : P.Valid g)
    (ha : (P.phaseAt g).next P.conn = some a) (hpre : P.readAt g ++ inbox <+: P.upstream)
    (hlen : (P.readAt (P.nextServer g)).length ≤ (P.readAt g ++ inbox).length) :
    ∃ inbox', P.readAt (P.nextServer g) ++ inbox' = P.readAt g ++ inbox ∧
      (P.serverAt g inbox).step P.env a = some (P.serverAt (P.nextServer g) inbox') := by
  -- What is read is there, and the rest stays.
  rcases List.prefix_of_prefix_length_le (P.readAt_prefix _) hpre hlen with ⟨inbox', hinbox⟩
  refine ⟨inbox', hinbox, ?_⟩
  cases g with
  | readingHello =>
      cases ha
      rw [readAt, List.nil_append] at hinbox
      rw [← hinbox]
      exact P.serve_readingHello inbox'
  | sendingHello =>
      cases ha
      rw [List.append_cancel_left hinbox]
      exact P.serve_sendingHello inbox
  -- The two lookups read nothing, so the inbox is as it was.
  | lookingUp =>
      cases ha
      rcases hready.lookup_cases with hlookup | ⟨cfg, token, hlookup, htoken⟩
      · rw [nextServer_none hlookup] at hinbox ⊢
        rw [List.append_cancel_left hinbox]
        exact serve_lookingUp_none inbox hlookup
      · rw [nextServer_some hlookup htoken] at hinbox ⊢
        rw [List.append_cancel_left hinbox]
        exact serve_lookingUp_some inbox hlookup htoken
  | refusing =>
      cases ha
      rw [List.append_cancel_left hinbox]
      exact P.serve_refusing inbox
  | readingAuth cfg token =>
      cases ha
      by_cases hne : token = P.token
      · -- The tokens agree, and so do the keys.
        rw [hne, nextServer_eq] at hinbox ⊢
        rw [readAt, readAt, List.append_assoc] at hinbox
        rw [← List.append_cancel_left hinbox]
        exact P.serve_readingAuth_eq inbox' cfg
      · -- `digest_ne` keeps the keys of different tokens apart.
        rw [nextServer_ne cfg hne] at hinbox ⊢
        rw [readAt, readAt, List.append_assoc] at hinbox
        rw [← List.append_cancel_left hinbox]
        exact serve_readingAuth_ne inbox' (hready.digest_ne cfg token hg.1 hg.2 hne)
  | rejecting =>
      cases ha
      rw [List.append_cancel_left hinbox]
      exact P.serve_rejecting inbox
  | locking cfg =>
      cases ha
      rw [List.append_cancel_left hinbox]
      exact P.serve_locking inbox cfg
  | sendingAck cfg =>
      cases ha
      rw [List.append_cancel_left hinbox]
      exact serve_sendingAck inbox (hready.serviceType cfg hg.1)
  | refused => simp only [phaseAt, Phase.next, reduceCtorEq] at ha
  | rejected => simp only [phaseAt, Phase.next, reduceCtorEq] at ha
  | control cfg n => simp only [phaseAt, Phase.next, reduceCtorEq] at ha

theorem advance_next (hready : P.Ready) (hk : k ≠ .ended)
    (hpre : P.clientReadAt k ++ inbox <+: P.downstream)
    (hlen : (P.clientReadAt (nextClient k)).length ≤ (P.clientReadAt k ++ inbox).length) :
    ∃ inbox', P.clientReadAt (nextClient k) ++ inbox' = P.clientReadAt k ++ inbox ∧
      (P.handshakeAt k inbox).advance P.A P.service = some (P.clientAt (nextClient k) inbox') := by
  rcases List.prefix_of_prefix_length_le (P.clientReadAt_prefix _) hpre hlen with
    ⟨inbox', hinbox⟩
  refine ⟨inbox', hinbox, ?_⟩
  cases k with
  | ended => exact absurd rfl hk
  | readingHello =>
      rw [clientReadAt, List.nil_append] at hinbox
      rw [← hinbox]
      exact P.advance_readingHello inbox'
  | sendingAuth =>
      rw [List.append_cancel_left hinbox]
      exact advance_sendingAuth inbox hready.service_token
  | readingAck =>
      rw [nextClient, clientReadAt, clientReadAt, List.append_assoc] at hinbox
      rw [← List.append_cancel_left hinbox]
      exact P.advance_readingAck inbox'
  | _ =>
      rw [List.append_cancel_left hinbox]
      rfl

/-- An await that completes has found what it reads. -/
theorem le_of_serve {s : Server β} (ha : (P.phaseAt g).next P.conn = some a)
    (h : (P.serverAt g inbox).step P.env a = some s) :
    (P.readAt (P.nextServer g)).length ≤ (P.readAt g ++ inbox).length := by
  cases g with
  | readingHello =>
      cases ha
      rcases hread : Rathole.readHello P.env.alphabet inbox with _ | p
      · simp only [Server.step, running_serverAt, Bool.false_eq_true, if_false, Server.read,
          conns_serverAt, phaseAt, Server.readHello, hread, reduceCtorEq] at h
      · -- A hello that was read had all its bytes.
        have hlen : (P.clientHello).length ≤ inbox.length := by
          have hwidth : P.clientHello.length = (Hello.codec P.A).width :=
            (Hello.codec P.A).length_encode (Client.clientHello P.A P.service)
          rw [hwidth]
          exact le_of_readHello P.A hread
        rw [readAt, List.nil_append]
        exact hlen
  | lookingUp =>
      have hread : P.readAt (P.nextServer .lookingUp) = P.clientHello := by
        rcases P.nextServer_lookingUp_cases with hnext | hnext | ⟨cfg, token, hnext⟩ <;>
          rw [hnext] <;> rfl
      rw [hread, List.length_append]
      exact Nat.le_add_right _ _
  | readingAuth cfg token =>
      cases ha
      rcases hread : Rathole.readAuth P.env.alphabet inbox with _ | p
      · simp only [Server.step, running_serverAt, Bool.false_eq_true, if_false, Server.read,
          conns_serverAt, phaseAt, Server.readAuth, hread, reduceCtorEq] at h
      · have hauth : P.auth.length ≤ inbox.length := by
          have hwidth : P.auth.length = (Auth.codec P.A).width :=
            (Auth.codec P.A).length_encode (Auth.mk P.key)
          rw [hwidth]
          exact le_of_readMessage hread
        have hnext :
            P.readAt (P.nextServer (.readingAuth cfg token)) = P.clientHello ++ P.auth := by
          rcases P.nextServer_readingAuth_cases cfg token with hnext | hnext <;> rw [hnext] <;> rfl
        rw [hnext, readAt, List.length_append, List.length_append]
        omega
  | _ =>
      rw [List.length_append]
      exact Nat.le_add_right _ _

theorem le_of_advance {t : HandshakeStep β}
    (h : (P.handshakeAt k inbox).advance P.A P.service = some t) :
    (P.clientReadAt (nextClient k)).length ≤ (P.clientReadAt k ++ inbox).length := by
  cases k with
  | readingHello =>
      rcases hread : Rathole.readHello P.A inbox with _ | p
      · simp only [Handshake.advance, handshakeAt, pcAt, hread, reduceCtorEq] at h
      · have hlen : (P.serverHello).length ≤ inbox.length := by
          have hwidth : P.serverHello.length = (Hello.codec P.A).width :=
            (Hello.codec P.A).length_encode (.controlChannelHello currentProtoVersion P.nonce)
          rw [hwidth]
          exact le_of_readHello P.A hread
        rw [clientReadAt, List.nil_append]
        exact hlen
  | readingAck =>
      rcases hread : Rathole.readAck P.A inbox with _ | p
      · simp only [Handshake.advance, handshakeAt, pcAt, hread, reduceCtorEq] at h
      · have hlen : (P.ack P.verdict).length ≤ inbox.length := le_of_readMessage hread
        rw [nextClient, clientReadAt, clientReadAt, List.length_append, List.length_append]
        omega
  | _ =>
      rw [List.length_append]
      exact Nat.le_add_right _ _

/-! ### A session from stage to stage -/

/-- A session at a pair of stages: what a side has consumed and what has
    arrived there is as much of the other side's stream as was delivered. -/
structure At (P : Setting β) (t : Session β) (g : ServerStage β) (k : ClientStage)
    (inS inC : List β) : Prop where
  valid : P.Valid g
  written : writtenAt g ≤ P.commands.length
  server : t.server = P.serverAt g inS
  client : t.client = P.clientAt k inC
  toServer : P.readAt g ++ inS = (P.clientSentAt k).take t.toServer
  toServer_le : t.toServer ≤ (P.clientSentAt k).length
  toClient : P.clientReadAt k ++ inC = (P.sentAt g).take t.toClient
  toClient_le : t.toClient ≤ (P.sentAt g).length
  commands : t.commands = P.commands.drop (writtenAt g)

section

variable {t t' : Session β} {inS inC : List β}

theorem At.conn (h : P.At t g k inS inC) : t.server.conns[P.conn]? =
    some { phase := P.phaseAt g, inbox := inS, sent := P.sentAt g } := by
  rw [h.server]
  exact P.conns_serverAt g inS

theorem At.handshake (h : P.At t g k inS inC) : t.client.handshake = P.handshakeAt k inC := by
  rw [h.client]
  cases k with
  | ended =>
      unfold clientAt acked
      cases P.verdict <;> rfl
  | _ => rfl

theorem At.receive (h : P.At t g k inS inC) (chunk : List β) :
    t.client.receive chunk = P.clientAt k (inC ++ chunk) := by
  rw [h.client]
  cases k with
  | ended =>
      unfold clientAt acked
      cases P.verdict <;> rfl
  | _ => rfl

/-- The server reads no more than the client writes, and the client no more
    than the server. -/
theorem At.upstream (h : P.At t g k inS inC) : P.readAt g ++ inS <+: P.upstream := by
  rw [h.toServer]
  exact (List.take_prefix _ _).trans (P.clientSentAt_prefix k)

theorem At.downstream (h : P.At t g k inS inC) : P.clientReadAt k ++ inC <+: P.downstream := by
  rw [h.toClient]
  exact (List.take_prefix _ _).trans (prefix_sentAt h.valid)

/-- An await changes neither which commands were written. -/
theorem writtenAt_nextServer (ha : (P.phaseAt g).next P.conn = some a) :
    writtenAt (P.nextServer g) = writtenAt g := by
  cases g with
  | lookingUp =>
      rcases P.nextServer_lookingUp_cases with hnext | hnext | ⟨cfg, token, hnext⟩ <;>
        rw [hnext] <;>
        rfl
  | readingAuth cfg token =>
      rcases P.nextServer_readingAuth_cases cfg token with hnext | hnext <;> rw [hnext] <;> rfl
  | control cfg n => simp only [phaseAt, Phase.next, reduceCtorEq] at ha
  | _ => rfl

/-- The server goes to its next stage. -/
theorem At.serve {s : Server β} (h : P.At t g k inS inC) (hready : P.Ready)
    (ha : (P.phaseAt g).next P.conn = some a) (hs : t.server.step P.env a = some s) :
    ∃ inS', P.At { t with server := s } (P.nextServer g) k inS' inC := by
  -- `hs` is what the stage prescribes, as the step is a function.
  rw [h.server] at hs
  rcases serve_next hready h.valid ha h.upstream (le_of_serve ha hs) with ⟨inS', hread, hstep⟩
  rw [hstep, Option.some.injEq] at hs
  have hpre := (P.sentAt_nextServer g).1
  refine ⟨inS', ?_⟩
  constructor
  · exact valid_nextServer hready h.valid
  · rw [writtenAt_nextServer ha]
    exact h.written
  · exact hs.symm
  · exact h.client
  · rw [hread]
    exact h.toServer
  · exact h.toServer_le
  · rw [h.toClient]
    exact (take_of_isPrefix hpre h.toClient_le).symm
  · exact h.toClient_le.trans hpre.length_le
  · rw [writtenAt_nextServer ha]
    exact h.commands

/-- The client goes to its next stage. -/
theorem At.advance {c : HandshakeStep β} (h : P.At t g k inS inC) (hready : P.Ready)
    (hk : k ≠ .ended) (hc : (P.handshakeAt k inC).advance P.A P.service = some c) :
    ∃ inC', P.At { t with client := c } g (nextClient k) inS inC' := by
  rcases advance_next hready hk h.downstream (le_of_advance hc) with ⟨inC', hread, hstep⟩
  rw [hstep, Option.some.injEq] at hc
  have hpre := (P.clientSentAt_nextClient k).1
  refine ⟨inC', ?_⟩
  constructor
  · exact h.valid
  · exact h.written
  · exact h.server
  · exact hc.symm
  · rw [h.toServer]
    exact (take_of_isPrefix hpre h.toServer_le).symm
  · exact h.toServer_le.trans hpre.length_le
  · rw [hread]
    exact h.toClient
  · exact h.toClient_le
  · exact h.commands

/-- Bytes reach the server. -/
theorem At.deliver {n : Nat} {s : Server β} (h : P.At t g k inS inC)
    (hn : t.toServer + n ≤ (P.clientSentAt k).length)
    (hs : t.server.step P.env
      (.arrive P.conn (((P.clientSentAt k).drop t.toServer).take n)) = some s) :
    P.At { t with server := s, toServer := t.toServer + n } g k
      (inS ++ ((P.clientSentAt k).drop t.toServer).take n) inC := by
  rw [h.server, arrive_serverAt, Option.some.injEq] at hs
  constructor
  · exact h.valid
  · exact h.written
  · exact hs.symm
  · exact h.client
  · rw [← List.append_assoc, h.toServer, List.take_add]
  · exact hn
  · exact h.toClient
  · exact h.toClient_le
  · exact h.commands

/-- Bytes reach the client. -/
theorem At.reply {n : Nat} (h : P.At t g k inS inC)
    (hn : t.toClient + n ≤ (P.sentAt g).length) :
    P.At { t with
      client := t.client.receive (((P.sentAt g).drop t.toClient).take n)
      toClient := t.toClient + n } g k inS
      (inC ++ ((P.sentAt g).drop t.toClient).take n) := by
  constructor
  · exact h.valid
  · exact h.written
  · exact h.server
  · exact h.receive _
  · exact h.toServer
  · exact h.toServer_le
  · rw [← List.append_assoc, h.toClient, List.take_add]
  · exact hn
  · exact h.commands

/-- The server writes a command. -/
theorem At.command {cmd : ControlChannelCmd} {rest : List ControlChannelCmd} {s : Server β}
    (h : P.At t g k inS inC) (hrest : t.commands = cmd :: rest)
    (hs : t.server.step P.env (.command P.conn cmd) = some s) :
    ∃ cfg n, g = .control cfg n ∧
      P.At { t with server := s, commands := rest } (.control cfg (n + 1)) k inS inC := by
  rw [h.server] at hs
  rcases control_of_command hs with ⟨cfg, n, hg⟩
  subst hg
  -- What is left to write is the rest of the commands.
  have hdrop : P.commands.drop n = cmd :: rest := by
    rw [← hrest, h.commands]
    rfl
  have hlt : n < P.commands.length := by
    have hlen := congrArg List.length hdrop
    rw [List.length_drop, List.length_cons] at hlen
    omega
  have hcmd : P.commands[n]? = some cmd := by
    rw [← List.head?_drop, hdrop]
    rfl
  rw [command_control inS cfg hcmd, Option.some.injEq] at hs
  -- The stream only grows, so what was delivered of it stays.
  have hpre : P.sentAt (.control cfg n) <+: P.sentAt (.control cfg (n + 1)) := by
    simp only [sentAt, commandBytes, List.take_add_one, FixedCodec.encodeAll_append]
    rw [← List.append_assoc]
    exact List.prefix_append _ _
  refine ⟨cfg, n, rfl, ?_⟩
  constructor
  · exact h.valid
  · exact hlt
  · exact hs.symm
  · exact h.client
  · exact h.toServer
  · exact h.toServer_le
  · rw [h.toClient]
    exact (take_of_isPrefix hpre h.toClient_le).symm
  · exact h.toClient_le.trans hpre.length_le
  · have htail := congrArg List.tail hdrop
    rw [List.tail_drop, List.tail_cons] at htail
    exact htail.symm

theorem At.measure_eq (h : P.At t g k inS inC) : t.measure P.conn =
    100 * ((P.clientAt k inC).rank + (P.phaseAt g).rank + (P.commands.length - writtenAt g)) +
      ((P.clientSentAt k).length - t.toServer) + ((P.sentAt g).length - t.toClient) := by
  unfold Session.measure
  rw [h.conn, h.client, h.commands, List.length_drop, ← h.client, h.handshake]
  rfl

/-- A client that goes on has an await before it. -/
theorem At.going {c : Handshake β} (h : P.At t g k inS inC) (hc : t.client = .going c) :
    k ≠ .ended ∧ c = P.handshakeAt k inC := by
  have hhandshake := h.handshake
  rw [hc] at hhandshake
  refine ⟨?_, hhandshake⟩
  intro hk
  have hclient := h.client
  rw [hc, hk] at hclient
  -- At the end the client is established or has failed.
  unfold clientAt acked at hclient
  cases hv : P.verdict <;> simp only [hv, reduceCtorEq] at hclient

/-! An action of a session leads to a pair of stages, and leaves less to do.
Whoever gets to another await may have more to send, at most a hello; an await
weighs a hundred bytes. -/

theorem At.step_client (h : P.At t g k inS inC) (hready : P.Ready)
    (hstep : t.step P.env P.service P.conn .client = some t') :
    (∃ g' k' inS' inC', P.At t' g' k' inS' inC') ∧ t'.measure P.conn < t.measure P.conn := by
  rcases hc : t.client with c | ⟨key, c⟩ | ⟨e, c⟩
  · rcases h.going hc with ⟨hk, hcat⟩
    simp only [Session.step, hc, Option.map_eq_some_iff] at hstep
    rcases hstep with ⟨c', hadv, ht'⟩
    rw [hcat] at hadv
    rcases h.advance hready hk hadv with ⟨inC', hat⟩
    rw [ht'] at hat
    refine ⟨⟨_, _, _, _, hat⟩, ?_⟩
    have hm := h.measure_eq
    have hm' := hat.measure_eq
    -- One await less, and at most a hello more on the wire.
    have hrank := rank_nextClient (P := P) hk inC inC'
    have hlen := (P.clientSentAt_nextClient k).2
    have hto := h.toServer_le
    have hts : t'.toServer = t.toServer := by rw [← ht']
    have htcl : t'.toClient = t.toClient := by rw [← ht']
    omega
  · simp only [Session.step, hc, reduceCtorEq] at hstep
  · simp only [Session.step, hc, reduceCtorEq] at hstep

theorem At.step_serve (h : P.At t g k inS inC) (hready : P.Ready)
    (hstep : t.step P.env P.service P.conn .serve = some t') :
    (∃ g' k' inS' inC', P.At t' g' k' inS' inC') ∧ t'.measure P.conn < t.measure P.conn := by
  simp only [Session.step, h.conn] at hstep
  rcases ha : (P.phaseAt g).next P.conn with _ | a
  · simp only [ha, reduceCtorEq] at hstep
  · simp only [ha, Option.map_eq_some_iff] at hstep
    rcases hstep with ⟨s, hs, ht'⟩
    rcases h.serve hready ha hs with ⟨inS', hat⟩
    rw [ht'] at hat
    refine ⟨⟨_, _, _, _, hat⟩, ?_⟩
    have hm := h.measure_eq
    have hm' := hat.measure_eq
    have hrank := rank_nextServer hready ha
    have hlen := (P.sentAt_nextServer g).2
    have hwritten := writtenAt_nextServer ha
    have htc := h.toClient_le
    have hts : t'.toServer = t.toServer := by rw [← ht']
    have htcl : t'.toClient = t.toClient := by rw [← ht']
    omega

theorem At.step_toServer {n : Nat} (h : P.At t g k inS inC)
    (hstep : t.step P.env P.service P.conn (.toServer n) = some t') :
    (∃ g' k' inS' inC', P.At t' g' k' inS' inC') ∧ t'.measure P.conn < t.measure P.conn := by
  simp only [Session.step, h.handshake, handshakeAt] at hstep
  by_cases hn : 0 < n ∧ t.toServer + n ≤ (P.clientSentAt k).length
  · rw [if_pos hn, Option.map_eq_some_iff] at hstep
    rcases hstep with ⟨s, hs, ht'⟩
    -- Nothing moves but bytes, so only the undelivered ones count.
    have hat := h.deliver hn.2 hs
    rw [ht'] at hat
    refine ⟨⟨_, _, _, _, hat⟩, ?_⟩
    have hm := h.measure_eq
    have hm' := hat.measure_eq
    have hts : t'.toServer = t.toServer + n := by rw [← ht']
    have htcl : t'.toClient = t.toClient := by rw [← ht']
    omega
  · rw [if_neg hn] at hstep
    simp only [reduceCtorEq] at hstep

theorem At.step_toClient {n : Nat} (h : P.At t g k inS inC)
    (hstep : t.step P.env P.service P.conn (.toClient n) = some t') :
    (∃ g' k' inS' inC', P.At t' g' k' inS' inC') ∧ t'.measure P.conn < t.measure P.conn := by
  simp only [Session.step, h.conn] at hstep
  by_cases hn : 0 < n ∧ t.toClient + n ≤ (P.sentAt g).length
  · rw [if_pos hn, Option.some.injEq] at hstep
    have hat := h.reply hn.2
    rw [hstep] at hat
    refine ⟨⟨_, _, _, _, hat⟩, ?_⟩
    have hm := h.measure_eq
    have hm' := hat.measure_eq
    -- What waits to be read does not count.
    have hrank : ∀ b b', (P.clientAt k b).rank = (P.clientAt k b').rank := by
      intro b b'
      cases k with
      | ended => rw [rank_ended, rank_ended]
      | _ => rfl
    have hsame := hrank (inC ++ ((P.sentAt g).drop t.toClient).take n) inC
    have hts : t'.toServer = t.toServer := by rw [← hstep]
    have htcl : t'.toClient = t.toClient + n := by rw [← hstep]
    omega
  · rw [if_neg hn] at hstep
    simp only [reduceCtorEq] at hstep

theorem At.step_command (h : P.At t g k inS inC)
    (hstep : t.step P.env P.service P.conn .command = some t') :
    (∃ g' k' inS' inC', P.At t' g' k' inS' inC') ∧ t'.measure P.conn < t.measure P.conn := by
  rcases hrest : t.commands with _ | ⟨cmd, rest⟩
  · simp only [Session.step, hrest, reduceCtorEq] at hstep
  · simp only [Session.step, hrest, Option.map_eq_some_iff] at hstep
    rcases hstep with ⟨s, hs, ht'⟩
    have hm := h.measure_eq
    have htc := h.toClient_le
    rcases h.command hrest hs with ⟨cfg, n, hg, hat⟩
    subst hg
    rw [ht'] at hat
    refine ⟨⟨_, _, _, _, hat⟩, ?_⟩
    have hm' := hat.measure_eq
    have hwritten := hat.written
    have hlen : (P.sentAt (.control cfg (n + 1))).length ≤
        (P.sentAt (.control cfg n)).length + 4 := by
      simp only [sentAt, commandBytes, List.take_add_one, FixedCodec.encodeAll_append,
        List.length_append]
      cases P.commands[n]? with
      | none => exact Nat.le_add_right _ _
      | some cmd => exact Nat.le_refl _
    have hrank : (P.phaseAt (.control cfg (n + 1))).rank = (P.phaseAt (.control cfg n)).rank := rfl
    have hts : t'.toServer = t.toServer := by rw [← ht']
    have htcl : t'.toClient = t.toClient := by rw [← ht']
    simp only [writtenAt] at hwritten hm hm'
    omega

/-- Every action of a session leads to a pair of stages, and leaves less to
    do. -/
theorem At.step {x : SessionAction} (h : P.At t g k inS inC) (hready : P.Ready)
    (hstep : t.step P.env P.service P.conn x = some t') :
    (∃ g' k' inS' inC', P.At t' g' k' inS' inC') ∧ t'.measure P.conn < t.measure P.conn := by
  cases x with
  | client => exact h.step_client hready hstep
  | serve => exact h.step_serve hready hstep
  | toServer n => exact h.step_toServer hstep
  | toClient n => exact h.step_toClient hstep
  | command => exact h.step_command hstep

end

end Setting

end Rathole
