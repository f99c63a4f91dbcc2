import Rathole.Callers.State

/-!
# What Both Ends of a Connection Know

One connection whose other end is a client. What the client writes is the
beginning of a script that is fixed once the nonce of the connection is: the
hello with the digest of the service's name, and the digest of token and
nonce. What the server writes begins with the hello that carries the nonce.
So each side knows, at each of its awaits, what it has read of the other's
stream, however the bytes were cut, and whatever was reloaded or went on at
other connections meanwhile.

## Main definitions

* `script`: All that a client writes before it is let in.
* `ClientAt`: What the client has read and written, at each await.
* `Verdict`: The reasons for each ack.
* `Heard`, `Spoken`: What the server has read and written, at each await.
* `DataAt`: The same for the connection of a data channel.

## Theorems

* `clientAt_of_advance`, `clientAt_of_hangUp`, `ClientAt.receive`: What the
  client does.
* `heard_of_move`, `spoken_of_move`, `dataAt_of_move`: What the server does.
* `verdict_of_readAck`: The server has its reasons for the ack a client reads.
-/

namespace Rathole

open Client Numbered


namespace Callers

variable {β : Type} (E : Server.Env β) (i : Nat)
  (service : ClientServiceConfig (List β))

/-! ### The two streams -/

/-- The server's hello on connection `i`. -/
def serverHello : List β :=
  (Hello.controlChannelHello currentProtoVersion (E.nonce i)).serialize E.alphabet

/-- The client's hello. -/
def hello : List β := (clientHello E.alphabet service).serialize E.alphabet

/-- What the client answers to the nonce of connection `i`. -/
def auth : List β :=
  match service.token with
  | none => []
  | some token => (Auth.mk (sessionKey E.alphabet token (E.nonce i))).serialize

/-- All that a client writes before it is let in. -/
def script : List β := hello E service ++ auth E i service

/-- The key is that of the client's token and the nonce. -/
def KeyOf (key : Digest β) : Prop :=
  ∃ token, service.token = some token ∧ key = sessionKey E.alphabet token (E.nonce i)

/-- The bytes of an `Ack`. -/
def ackBytes (ack : Ack) : List β := serializeTag E.alphabet Ack.tag ack

/-! ### The client -/

/-- What the client has written, and what it has read of the `received`
    bytes. -/
def ClientAt (received : List β) : HandshakeStep β → Prop
  | .going h => match h.pc with
    | .resolving | .connecting | .sendingHello => h.sent = [] ∧ h.inbox = received
    | .readingHello => h.sent = hello E service ∧ h.inbox = received
    | .sendingAuth nonce => h.sent = hello E service ∧ nonce = E.nonce i ∧
        received = serverHello E i ++ h.inbox
    | .readingAck key => h.sent = script E i service ∧ KeyOf E i service key ∧
        received = serverHello E i ++ h.inbox
  | .established key h => h.sent = script E i service ∧ KeyOf E i service key ∧
      ∃ more rest, received = serverHello E i ++ more ∧
        readAck E.alphabet more = some (.ok .ok, rest)
  | .failed e h => h.sent <+: script E i service ∧ (e = .io ∨ ∃ ack more rest, ack ≠ .ok ∧
      e = .authenticationFailed service.name ack ∧ received = serverHello E i ++ more ∧
      readAck E.alphabet more = some (.ok ack, rest))

variable {E i service} {received chunk : List β} {run run' : HandshakeStep β} {h : Handshake β}

theorem auth_eq {token : List β} (ht : service.token = some token) :
    auth E i service = (Auth.mk (sessionKey E.alphabet token (E.nonce i))).serialize := by
  simp only [auth, ht]

theorem KeyOf.eq {key key' : Digest β} (h : KeyOf E i service key) (h' : KeyOf E i service key') :
    key = key' := by
  rcases h with ⟨token, htoken, hkey⟩
  rcases h' with ⟨token', htoken', hkey'⟩
  rw [htoken, Option.some.injEq] at htoken'
  rw [hkey, hkey', htoken']

theorem hello_prefix : hello E service <+: script E i service := List.prefix_append _ _

theorem ClientAt.sent_prefix (hat : ClientAt E i service received run) :
    run.handshake.sent <+: script E i service := by
  cases run with
  | going h =>
      cases hpc : h.pc with
      | resolving | connecting | sendingHello =>
          simp only [ClientAt, hpc] at hat
          simp only [HandshakeStep.handshake, hat.1, List.nil_prefix]
      | readingHello | sendingAuth =>
          simp only [ClientAt, hpc] at hat
          simp only [HandshakeStep.handshake, hat.1, hello_prefix]
      | readingAck =>
          simp only [ClientAt, hpc] at hat
          simp only [HandshakeStep.handshake, hat.1, List.prefix_rfl]
  | established key h =>
      simp only [HandshakeStep.handshake, hat.1, List.prefix_rfl]
  | failed e h => exact hat.1

/-- More bytes arrive at the client. -/
theorem ClientAt.receive (hat : ClientAt E i service received run) (chunk : List β) :
    ClientAt E i service (received ++ chunk) (run.receive chunk) := by
  cases run with
  | going h =>
      cases hpc : h.pc with
      | resolving | connecting | sendingHello | readingHello =>
          simp only [ClientAt, hpc] at hat
          simp only [HandshakeStep.receive, ClientAt, Handshake.receive, hpc, hat, and_self]
      | sendingAuth | readingAck =>
          simp only [ClientAt, hpc] at hat
          simp only [HandshakeStep.receive, ClientAt, Handshake.receive, hpc]
          exact ⟨hat.1, hat.2.1, by rw [hat.2.2, List.append_assoc]⟩
  | established key h =>
      rcases hat with ⟨hsent, hkey, more, rest, hmore, hread⟩
      refine ⟨hsent, hkey, more ++ chunk, rest ++ chunk, ?_, readMessage_append hread chunk⟩
      rw [hmore, List.append_assoc]
  | failed e h =>
      refine ⟨hat.1, ?_⟩
      rcases hat.2 with hio | ⟨ack, more, rest, hne, he, hmore, hread⟩
      · exact Or.inl hio
      · refine Or.inr ⟨ack, more ++ chunk, rest ++ chunk, hne, he, ?_,
          readMessage_append hread chunk⟩
        rw [hmore, List.append_assoc]

/-- Two streams agree as far as both go, so one is the beginning of the other
    with what it has beyond it. -/
theorem prefix_append_drop {l bs : List β} (h : bs <+: l ∨ l <+: bs) :
    bs <+: l ++ bs.drop l.length := by
  rcases h with hshort | hlong
  · exact hshort.trans (List.prefix_append _ _)
  · exact ⟨[], by rw [List.append_nil, List.prefix_iff_eq_append.mp hlong]⟩

/-- The bytes are the beginning of the server's hello, or begin with it. -/
def Greets (E : Server.Env β) (i : Nat) (bs : List β) : Prop :=
  bs <+: serverHello E i ∨ serverHello E i <+: bs

theorem Greets.of_isPrefix {bs bs' : List β} (h : Greets E i bs') (hpre : bs <+: bs') :
    Greets E i bs := by
  rcases h with hbs | hhello
  · exact Or.inl (hpre.trans hbs)
  · exact List.prefix_or_prefix_of_prefix hpre hhello

/-- After the hello no ack is garbled. -/
def Legible (E : Server.Env β) (i : Nat) (bs : List β) : Prop :=
  ∀ more p, bs = serverHello E i ++ more → readAck E.alphabet more = some p →
    ∃ ack, p.1 = .ok ack

/-- The auth a server reads is the client's. -/
theorem auth_of_isPrefix {token bs rest : List β} {auth' : Auth β}
    (htoken : service.token = some token) (hpre : bs <+: auth E i service)
    (hread : readAuth E.alphabet bs = some (.ok auth', rest)) :
    auth'.digest = sessionKey E.alphabet token (E.nonce i) ∧ bs = auth E i service ++ rest := by
  rw [auth_eq htoken] at hpre ⊢
  rw [← List.append_nil (Auth.serialize _)] at hpre
  rcases readMessage_of_isPrefix (c := Auth.codec E.alphabet) hpre hread with ⟨hok, hbs⟩
  rw [Except.ok.injEq] at hok
  rw [hok]
  exact ⟨rfl, hbs⟩

/-- The bytes are the beginning of the server's hello and this ack, or begin
    with them. -/
def Says (E : Server.Env β) (i : Nat) (ack : Ack) (bs : List β) : Prop :=
  bs <+: serverHello E i ++ ackBytes E ack ∨ serverHello E i ++ ackBytes E ack <+: bs

theorem Says.of_isPrefix {ack : Ack} {bs bs' : List β} (h : Says E i ack bs') (hpre : bs <+: bs') :
    Says E i ack bs := by
  rcases h with hshort | hlong
  · exact Or.inl (hpre.trans hshort)
  · exact List.prefix_or_prefix_of_prefix hpre hlong

theorem Says.greets {ack : Ack} {bs : List β} (h : Says E i ack bs) : Greets E i bs := by
  rcases h with hshort | hlong
  · exact List.prefix_or_prefix_of_prefix hshort (List.prefix_append _ _)
  · exact Or.inr ((List.prefix_append _ _).trans hlong)

/-- An ack is read as what it is, however much of the stream is there. -/
theorem ack_of_says {ack : Ack} {more : List β} {p : Except ReadError Ack × List β}
    (htold : Says E i ack received) (hmore : received = serverHello E i ++ more)
    (hread : readAck E.alphabet more = some p) : p.1 = .ok ack := by
  rw [Says, hmore, List.prefix_append_right_inj, List.prefix_append_right_inj] at htold
  exact (readMessage_of_isPrefix (c := Ack.codec E.alphabet) (prefix_append_drop htold) hread).1

/-- A connection that a pool takes was in its queue. -/
theorem phase_of_taken {s : Server β} {c : Server.Conn β} (hl : s.Lined)
    (hc : s.conns[i]? = some c) {n : Nat} {x : Server.Handle β} (hx : s.handles[n]? = some x)
    (hin : i ∈ x.queue) : c.phase = .queued n := by
  rcases (hl n x hx).2 i hin with ⟨b, hb, hp⟩
  rw [Option.some.inj (hc.symm.trans hb)]
  exact hp

/-- The client completes its present await. -/
theorem clientAt_of_advance (hat : ClientAt E i service received (.going h))
    (hg : Greets E i received) (hlegible : Legible E i received)
    (hadv : h.advance E.alphabet service = some run') :
    ClientAt E i service received run' ∧ h.sent <+: run'.handshake.sent := by
  cases hpc : h.pc with
  | resolving | connecting =>
      simp only [ClientAt, hpc] at hat
      simp only [Handshake.advance, hpc, Option.some.injEq] at hadv
      rw [← hadv]
      exact ⟨hat, List.prefix_rfl⟩
  | sendingHello =>
      simp only [ClientAt, hpc] at hat
      simp only [Handshake.advance, hpc, hat.1, List.nil_append, Option.some.injEq] at hadv
      rw [← hadv, hat.1]
      exact ⟨⟨rfl, hat.2⟩, List.nil_prefix⟩
  | readingHello =>
      simp only [ClientAt, hpc] at hat
      simp only [Handshake.advance, hpc, hat.2] at hadv
      rcases hread : readHello E.alphabet received with _ | p
      · simp only [hread, reduceCtorEq] at hadv
      · -- What is there begins with the server's hello, so nothing else is read.
        rcases readHello_of_isPrefix E.alphabet rfl (prefix_append_drop hg) hread with ⟨hok, hbs⟩
        rcases p with ⟨r, rest⟩
        simp only at hok hbs
        simp only [hread, hok, Option.some.injEq] at hadv
        rw [← hadv]
        exact ⟨⟨hat.1, rfl, hbs⟩, List.prefix_rfl⟩
  | sendingAuth nonce =>
      simp only [ClientAt, hpc] at hat
      cases htoken : service.token with
      | none => simp only [Handshake.advance, hpc, htoken, reduceCtorEq] at hadv
      | some token =>
          simp only [Handshake.advance, hpc, htoken, Option.some.injEq] at hadv
          rw [← hadv]
          refine ⟨⟨?_, ⟨token, htoken, by rw [hat.2.1]⟩, hat.2.2⟩, List.prefix_append _ _⟩
          rw [hat.1, script, auth_eq htoken, hat.2.1]
  | readingAck key =>
      simp only [ClientAt, hpc] at hat
      rcases hread : readAck E.alphabet h.inbox with _ | ⟨r, rest⟩
      · simp only [Handshake.advance, hpc, hread, reduceCtorEq] at hadv
      · rcases hlegible _ _ hat.2.2 hread with ⟨ack, hok⟩
        simp only at hok
        rw [hok] at hread
        have hwhole : h.sent <+: script E i service := by
          simp only [hat.1, List.prefix_rfl]
        cases ack with
        | ok =>
            simp only [Handshake.advance, hpc, hread, Option.some.injEq] at hadv
            rw [← hadv]
            exact ⟨⟨hat.1, hat.2.1, h.inbox, rest, hat.2.2, hread⟩, List.prefix_rfl⟩
        | serviceNotExist | authFailed =>
            simp only [Handshake.advance, hpc, hread, Option.some.injEq] at hadv
            rw [← hadv]
            refine ⟨⟨hwhole, Or.inr ⟨_, h.inbox, rest, ?_, rfl, hat.2.2, hread⟩⟩,
              List.prefix_rfl⟩
            simp only [ne_eq, reduceCtorEq, not_false_eq_true]

/-- The client fails in the middle of its present write. -/
theorem clientAt_of_hangUp (hat : ClientAt E i service received (.going h)) (n : Nat) :
    h.sent ++ (h.output E.alphabet service).take n <+: script E i service := by
  cases hpc : h.pc with
  | resolving | connecting | readingHello | readingAck =>
      simp only [Handshake.output, hpc, List.take_nil, List.append_nil]
      exact hat.sent_prefix
  | sendingHello =>
      simp only [ClientAt, hpc] at hat
      simp only [Handshake.output, hpc, hat.1, List.nil_append]
      exact (List.take_prefix n _).trans hello_prefix
  | sendingAuth nonce =>
      simp only [ClientAt, hpc] at hat
      simp only [Handshake.output, hpc, hat.1, hat.2.1]
      exact (List.prefix_append_right_inj _).mpr (List.take_prefix n _)

/-! ### The server, on the connection of a client -/

variable [DecidableEq β]

/-- The server has had this service. -/
def Configured (tables : List (HashMap (Digest β) (ServerServiceConfig (List β))))
    (d : Digest β) (cfg : ServerServiceConfig (List β)) : Prop :=
  ∃ services ∈ tables, services.lookup d = some cfg

/-- The reasons for each ack: the service was there with the client's token,
    and the handshake got its write guard; it was not there; or it was there
    with another token. -/
def Verdict (E : Server.Env β) (tables : List (HashMap (Digest β) (ServerServiceConfig (List β))))
    (u : Sessions β) (i : Nat) (service : ClientServiceConfig (List β)) : Ack → Prop
  | .ok => ∃ cfg key, KeyOf E i service key ∧
      Configured tables (E.alphabet.digest service.name) cfg ∧ u.SessionKey E i cfg key ∧
      ∃ m, u.before.lookup i = some m
  | .serviceNotExist => ∃ services ∈ tables,
      services.lookup (E.alphabet.digest service.name) = none
  | .authFailed => ∃ cfg, Configured tables (E.alphabet.digest service.name) cfg ∧
      cfg.token ≠ service.token

/-- What the server has read of what was `delivered`. -/
def Heard (E : Server.Env β) (i : Nat) (service : ClientServiceConfig (List β))
    (delivered : List β) (c : Server.Conn β) : Prop :=
  match c.phase with
  | .readingHello => c.inbox = delivered
  | .sendingHello d _ | .lookingUp d _ | .readingAuth d _ _ =>
      d = E.alphabet.digest service.name ∧ delivered = hello E service ++ c.inbox
  | .locking d key _ | .sendingAck d key _ => d = E.alphabet.digest service.name ∧
      KeyOf E i service key ∧ script E i service <+: delivered
  | .control _ => script E i service <+: delivered
  | .refusing | .rejecting | .closed => True
  -- A client's hello is not that of a data channel.
  | _ => False

/-- What the server has written, and why. -/
def Spoken (E : Server.Env β) (tables : List (HashMap (Digest β) (ServerServiceConfig (List β))))
    (u : Sessions β) (i : Nat) (service : ClientServiceConfig (List β)) (c : Server.Conn β) :
    Prop :=
  match c.phase with
  | .readingHello | .sendingHello _ _ => c.sent = []
  | .lookingUp _ _ => c.sent = serverHello E i
  | .readingAuth d _ cfg | .locking d _ cfg => c.sent = serverHello E i ∧ Configured tables d cfg
  | .refusing => c.sent = serverHello E i ∧ Verdict E tables u i service .serviceNotExist
  | .rejecting => c.sent = serverHello E i ∧ Verdict E tables u i service .authFailed
  -- The ack of a handshake that panics is out already.
  | .sendingAck d _ cfg =>
      (c.sent = serverHello E i ∨ serverHello E i ++ ackBytes E .ok <+: c.sent) ∧
        Configured tables d cfg ∧ Verdict E tables u i service .ok
  | .control _ => serverHello E i ++ ackBytes E .ok <+: c.sent ∧ Verdict E tables u i service .ok
  | .closed => c.sent <+: serverHello E i ∨
      ∃ ack, Verdict E tables u i service ack ∧ Says E i ack c.sent
  | _ => True

variable {tables tables' : List (HashMap (Digest β) (ServerServiceConfig (List β)))}
  {u u' : Sessions β} {a : Server.Action β} {c c' : Server.Conn β} {delivered : List β}
  {s : Server β}

theorem Configured.mono {d : Digest β} {cfg : ServerServiceConfig (List β)}
    (h : Configured tables d cfg) (hsub : tables ⊆ tables') : Configured tables' d cfg := by
  rcases h with ⟨services, hin, hlookup⟩
  exact ⟨services, hsub hin, hlookup⟩

/-- What is a reason stays one. -/
theorem verdict_of_step {ack : Ack} (h : u.step E a = some u') (hsub : tables ⊆ tables')
    (hv : Verdict E tables u i service ack) : Verdict E tables' u' i service ack := by
  cases ack with
  | ok =>
      rcases hv with ⟨cfg, key, hk, hcfg, hs, m, hm⟩
      refine ⟨cfg, key, hk, hcfg.mono hsub, Sessions.sessionKey_of_step h hs, ?_⟩
      rw [(Sessions.server_of_step h).2.2.1]
      cases a with
      | lock j =>
          by_cases hij : i = j
          · rw [hij]
            exact ⟨_, AList.lookup_insert _⟩
          · exact ⟨m, (AList.lookup_insert_ne hij).trans hm⟩
      | _ => exact ⟨m, hm⟩
  | serviceNotExist =>
      rcases hv with ⟨services, hin, hnone⟩
      exact ⟨services, hsub hin, hnone⟩
  | authFailed =>
      rcases hv with ⟨cfg, hcfg, hne⟩
      exact ⟨cfg, hcfg.mono hsub, hne⟩

/-- What the server has read when the connection moves, if nothing arrives. -/
theorem heard_of_move (hat : Heard E i service delivered c) (hc : s.conns[i]? = some c)
    (hl : s.Lined) (hpre : delivered <+: script E i service)
    (hna : ∀ chunk, a ≠ .arrive i chunk) (hm : Server.ConnMove E s a i c c') :
    Heard E i service delivered c' := by
  cases hm with
  | same | commanded | relayed | crashed => exact hat
  | arrived _ chunk => exact absurd rfl (hna chunk)
  | ended | unknown | mismatched => trivial
  | @greeted _ _ v d rest hp hread =>
      rw [Heard, hp] at hat
      rw [hat] at hread
      rcases readHello_of_isPrefix E.alphabet rfl hpre hread with ⟨hok, hbs⟩
      simp only [clientHello, Except.ok.injEq, Hello.controlChannelHello.injEq] at hok
      exact ⟨hok.2, hbs⟩
  | sought hp hread =>
      -- The hello that was read would be that of a data channel.
      rw [Heard, hp] at hat
      rw [hat] at hread
      have hok := (readHello_of_isPrefix E.alphabet rfl hpre hread).1
      simp only [clientHello, Except.ok.injEq, reduceCtorEq] at hok
  | answered hp | known hp =>
      rw [Heard, hp] at hat
      exact hat
  | @matched _ _ d concat cfg auth' rest hp hread heq =>
      rw [Heard, hp] at hat
      rcases hat with ⟨hd, hdelivered⟩
      -- Of the script only the auth is left.
      rw [hdelivered, script, List.prefix_append_right_inj] at hpre
      cases htoken : service.token with
      | none =>
          -- There would be nothing to read.
          simp only [auth, htoken, List.prefix_nil] at hpre
          have hlen := le_of_readMessage hread
          have hwidth : (Auth.codec E.alphabet).width = hashWidthInBytes :=
            List.Vector.toList_length _
          rw [hpre, hwidth, List.length_nil] at hlen
          exact absurd hlen (by decide)
      | some token =>
          rcases auth_of_isPrefix htoken hpre hread with ⟨hkey, hbs⟩
          refine ⟨hd, ⟨token, htoken, heq.trans hkey⟩, ?_⟩
          rw [hdelivered, hbs, script]
          exact (List.prefix_append_right_inj _).mpr (List.prefix_append _ _)
  | locked hp =>
      rw [Heard, hp] at hat
      exact hat
  | acknowledged hp =>
      rw [Heard, hp] at hat
      exact hat.2.2
  | found hp | delivered hp | started hp => rw [Heard, hp] at hat; exact hat.elim
  | taken hx hin =>
      -- Only data channels get into the queue of a pool.
      rw [Heard, phase_of_taken hl hc hx hin] at hat
      exact hat.elim

/-- What the server has written stays what it was. -/
theorem spoken_of_step (h : u.step E a = some u') (hsub : tables ⊆ tables')
    (hsp : Spoken E tables u i service c) : Spoken E tables' u' i service c := by
  cases hp : c.phase with
  | readingHello | sendingHello | lookingUp =>
      simp only [Spoken, hp] at hsp ⊢
      exact hsp
  | readingAuth | locking =>
      simp only [Spoken, hp] at hsp ⊢
      exact ⟨hsp.1, hsp.2.mono hsub⟩
  | refusing | rejecting | control =>
      simp only [Spoken, hp] at hsp ⊢
      exact ⟨hsp.1, verdict_of_step h hsub hsp.2⟩
  | sendingAck =>
      simp only [Spoken, hp] at hsp ⊢
      exact ⟨hsp.1, hsp.2.1.mono hsub, verdict_of_step h hsub hsp.2.2⟩
  | closed =>
      simp only [Spoken, hp] at hsp ⊢
      rcases hsp with hshort | ⟨ack, hv, htold⟩
      · exact Or.inl hshort
      · exact Or.inr ⟨ack, verdict_of_step h hsub hv, htold⟩
  | finding | delivering | queued | starting | forwarding => simp only [Spoken, hp]

/-- A task that ends in the middle of a write has written no more than it would
    have. -/
theorem spoken_of_ended (h : u.step E a = some u') (hsub : tables ⊆ tables')
    (hsp : Spoken E tables u i service c) (hat : Heard E i service delivered c)
    (hold : u.PhaseTraced E i c.phase) (n : Nat) : Spoken E tables' u' i service
      { c with phase := .closed, sent := c.sent ++ (c.phase.output E).take n } := by
  cases hp : c.phase with
  | readingHello | lookingUp =>
      simp only [Spoken, hp] at hsp
      simp only [Spoken, Server.Phase.output, List.take_nil, List.append_nil, hsp,
        List.nil_prefix, List.prefix_rfl, true_or]
  | readingAuth | locking =>
      simp only [Spoken, hp] at hsp
      simp only [Spoken, Server.Phase.output, List.take_nil, List.append_nil, hsp.1,
        List.prefix_rfl, true_or]
  | sendingHello d nonce =>
      simp only [Spoken, hp] at hsp
      simp only [hp, Sessions.PhaseTraced] at hold
      simp only [Spoken, Server.Phase.output, hsp, List.nil_append, hold]
      exact Or.inl (List.take_prefix n _)
  | refusing | rejecting =>
      simp only [Spoken, hp] at hsp
      refine Or.inr ⟨_, verdict_of_step h hsub hsp.2, Or.inl ?_⟩
      simp only [Server.Phase.output, hsp.1]
      exact (List.prefix_append_right_inj _).mpr (List.take_prefix n _)
  | sendingAck =>
      simp only [Spoken, hp] at hsp
      refine Or.inr ⟨_, verdict_of_step h hsub hsp.2.2, ?_⟩
      simp only [Server.Phase.output]
      rcases hsp.1 with hsent | hout
      · rw [hsent]
        exact Or.inl ((List.prefix_append_right_inj _).mpr (List.take_prefix n _))
      · exact Or.inr (hout.trans (List.prefix_append _ _))
  | control =>
      simp only [Spoken, hp] at hsp
      exact Or.inr ⟨_, verdict_of_step h hsub hsp.2, Or.inr (hsp.1.trans (List.prefix_append _ _))⟩
  | closed =>
      simp only [Spoken, hp] at hsp
      simp only [Spoken, Server.Phase.output, List.take_nil, List.append_nil]
      rcases hsp with hshort | ⟨ack, hv, htold⟩
      · exact Or.inl hshort
      · exact Or.inr ⟨ack, verdict_of_step h hsub hv, htold⟩
  | finding | delivering | queued | starting | forwarding =>
      rw [Heard, hp] at hat
      exact hat.elim

/-- What the server has written when the connection moves. -/
theorem spoken_of_move (ht : u.Traced E) (h : u.step E a = some u')
    (hcur : u.server.services ∈ tables) (hsub : tables ⊆ tables')
    (hsp : Spoken E tables u i service c) (hat : Heard E i service delivered c)
    (hpre : delivered <+: script E i service) (hc : u.server.conns[i]? = some c)
    (hc' : u'.server.conns[i]? = some c') (hl : u.server.Lined)
    (hm : Server.ConnMove E u.server a i c c') : Spoken E tables' u' i service c' := by
  have hold := ht.conn i c hc
  have hnew := Sessions.phaseTraced_of_step ht h hc'
  have hverdict : ∀ {ack}, Verdict E tables u i service ack → Verdict E tables' u' i service ack :=
    verdict_of_step h hsub
  cases hm with
  | same => exact spoken_of_step h hsub hsp
  | arrived _ chunk => exact spoken_of_step h hsub hsp
  | @ended _ _ _ n => exact spoken_of_ended h hsub hsp hat hold n
  | greeted hp =>
      rw [Spoken, hp] at hsp
      exact hsp
  | sought hp => trivial
  | answered hp =>
      rw [hp] at hold
      simp only [Spoken, hp] at hsp
      simp only [Spoken, hp, Server.Phase.output, hsp, List.nil_append]
      rw [show _ = E.nonce i from hold]
      rfl
  | unknown hp hnone =>
      -- The services of this very moment are the reason.
      rw [Spoken, hp] at hsp
      rw [Heard, hp] at hat
      rw [hat.1] at hnone
      exact ⟨hsp, _, hsub hcur, hnone⟩
  | known hp hcfg htoken =>
      rw [Spoken, hp] at hsp
      exact ⟨hsp, _, hsub hcur, hcfg⟩
  | matched hp =>
      rw [Spoken, hp] at hsp
      exact ⟨hsp.1, hsp.2.mono hsub⟩
  | @mismatched _ _ d concat cfg auth' rest hp hread hne =>
      rw [Spoken, hp] at hsp
      rw [Heard, hp] at hat
      rw [hp] at hold
      rcases hold with ⟨token', htoken', hconcat, _⟩
      rcases hat with ⟨hd, hdelivered⟩
      rw [hdelivered, script, List.prefix_append_right_inj] at hpre
      have hcfg := hsp.2.mono hsub
      rw [hd] at hcfg
      refine ⟨hsp.1, cfg, hcfg, fun htoken => hne ?_⟩
      -- With one token both sides digest the same.
      rw [htoken'] at htoken
      rw [hconcat, (auth_of_isPrefix htoken.symm hpre hread).1]
      rfl
  | locked hp =>
      -- From here on the ack may go out, and everything it says is known.
      rw [Spoken, hp] at hsp
      rw [Heard, hp] at hat
      rcases hnew with ⟨hkey, m, hm, _⟩
      have hcfg := hsp.2.mono hsub
      refine ⟨Or.inl hsp.1, hcfg, ?_⟩
      rw [hat.1] at hcfg
      exact ⟨_, _, hat.2.1, hcfg, hkey, m, hm⟩
  | acknowledged hp =>
      simp only [Spoken, hp, Server.Phase.output] at hsp ⊢
      refine ⟨?_, hverdict hsp.2.2⟩
      rcases hsp.1 with hsent | hout
      · rw [hsent]
        exact List.prefix_rfl
      · exact hout.trans (List.prefix_append _ _)
  | crashed hp =>
      simp only [Spoken, hp, Server.Phase.output] at hsp ⊢
      refine ⟨Or.inr ?_, hsp.2.1.mono hsub, hverdict hsp.2.2⟩
      rcases hsp.1 with hsent | hout
      · rw [hsent]
        exact List.prefix_rfl
      · exact hout.trans (List.prefix_append _ _)
  | commanded hp =>
      simp only [Spoken, hp] at hsp ⊢
      exact ⟨hsp.1.trans (List.prefix_append _ _), hverdict hsp.2⟩
  | found hp | delivered hp | started hp | relayed hp => rw [Heard, hp] at hat; exact hat.elim
  | taken hx hin =>
      rw [Heard, phase_of_taken hl hc hx hin] at hat
      exact hat.elim

/-- The server has written no more than its hello, or also an ack it had its
    reasons for. -/
theorem says_of_spoken (hsp : Spoken E tables u i service c)
    (hat : Heard E i service delivered c) : c.sent <+: serverHello E i ∨
      ∃ ack, Verdict E tables u i service ack ∧ Says E i ack c.sent ∧ (ack = .ok →
        (∃ d key cfg, c.phase = .sendingAck d key cfg) ∨ (∃ n, c.phase = .control n) ∨
          c.phase = .closed) := by
  cases hp : c.phase with
  | readingHello | sendingHello =>
      simp only [Spoken, hp] at hsp
      rw [hsp]
      exact Or.inl List.nil_prefix
  | lookingUp =>
      simp only [Spoken, hp] at hsp
      rw [hsp]
      exact Or.inl List.prefix_rfl
  | refusing | readingAuth | rejecting | locking =>
      simp only [Spoken, hp] at hsp
      rw [hsp.1]
      exact Or.inl List.prefix_rfl
  | sendingAck d key cfg =>
      simp only [Spoken, hp] at hsp
      rcases hsp.1 with hsent | hout
      · rw [hsent]
        exact Or.inl List.prefix_rfl
      · exact Or.inr ⟨.ok, hsp.2.2, Or.inr hout, fun _ => Or.inl ⟨d, key, cfg, rfl⟩⟩
  | control n =>
      simp only [Spoken, hp] at hsp
      exact Or.inr ⟨.ok, hsp.2, Or.inr hsp.1, fun _ => Or.inr (Or.inl ⟨n, rfl⟩)⟩
  | closed =>
      simp only [Spoken, hp] at hsp
      rcases hsp with hshort | ⟨ack, hv, htold⟩
      · exact Or.inl hshort
      · exact Or.inr ⟨ack, hv, htold, fun _ => Or.inr (Or.inr rfl)⟩
  | finding | delivering | queued | starting | forwarding =>
      rw [Heard, hp] at hat
      exact hat.elim

/-- What the server writes to a client begins with its hello. -/
theorem greets_of_spoken (hsp : Spoken E tables u i service c)
    (hat : Heard E i service delivered c) : Greets E i c.sent := by
  rcases says_of_spoken hsp hat with hshort | ⟨ack, _, htold, _⟩
  · exact Or.inl hshort
  · exact htold.greets

/-- The server has its reasons for the ack a client reads. -/
theorem verdict_of_readAck (hsp : Spoken E tables u i service c)
    (hat : Heard E i service delivered c) (hpre : received <+: c.sent) {more : List β}
    {p : Except ReadError Ack × List β} (hmore : received = serverHello E i ++ more)
    (hread : readAck E.alphabet more = some p) : ∃ ack, p.1 = .ok ack ∧
      Verdict E tables u i service ack ∧ (ack = .ok →
        (∃ d key cfg, c.phase = .sendingAck d key cfg) ∨ (∃ n, c.phase = .control n) ∨
          c.phase = .closed) := by
  rcases says_of_spoken hsp hat with hshort | ⟨ack, hv, htold, hphase⟩
  · -- Nothing follows the hello, so there is no ack to read.
    rw [hmore] at hpre
    have hle := (hpre.trans hshort).length_le
    rw [List.length_append] at hle
    have hnil : more = [] := List.eq_nil_of_length_eq_zero (by omega)
    have hwidth := le_of_readMessage hread
    rw [hnil] at hwidth
    exact absurd hwidth (Nat.not_succ_le_zero 3)
  · exact ⟨ack, ack_of_says (htold.of_isPrefix hpre) hmore hread, hv, hphase⟩

theorem legible_of_spoken (hsp : Spoken E tables u i service c)
    (hat : Heard E i service delivered c) (hpre : received <+: c.sent) : Legible E i received := by
  intro more p hmore hread
  rcases verdict_of_readAck hsp hat hpre hmore hread with ⟨ack, hok, _⟩
  exact ⟨ack, hok⟩

/-! ### The server, on the connection of a data channel -/

/-- The handle is that of a session with this key. -/
def Filed (E : Server.Env β) (u : Sessions β) (key : Digest β) (n : Nat) : Prop :=
  ∃ x j, u.server.handles[n]? = some x ∧ u.made.lookup n = some j ∧
    u.SessionKey E j x.service key

/-- Where the connection of a data channel with this key is. -/
def DataAt (E : Server.Env β) (u : Sessions β) (key : Digest β) (delivered : List β)
    (c : Server.Conn β) : Prop :=
  match c.phase with
  | .readingHello => c.inbox = delivered
  | .finding nonce => nonce = key
  | .delivering n | .queued n | .starting n _ | .forwarding n => Filed E u key n
  | .closed => True
  -- Nor is the hello of a data channel that of a client.
  | _ => False

variable {key : Digest β} {n : Nat}

theorem filed_of_step (h : u.step E a = some u') (hf : Filed E u key n) :
    Filed E u' key n := by
  rcases hf with ⟨x, j, hx, hj, hkey⟩
  rcases Sessions.server_of_step h with ⟨hstep, _, _, hmade, _⟩
  rcases Server.handle_survives hstep hx with ⟨x', hx', hsame⟩
  rw [Prod.mk.injEq] at hsame
  refine ⟨x', j, hx', ?_, ?_⟩
  · rw [hmade, Server.lookup_makes u.made (List.getElem?_eq_some_iff.mp hx).fst]
    exact hj
  · rw [hsame.2]
    exact Sessions.sessionKey_of_step h hkey

/-- Where it gets to when the connection moves. -/
theorem dataAt_of_move (ht : u.Traced E) (h : u.step E a = some u')
    (hat : DataAt E u key delivered c) (hc : u.server.conns[i]? = some c)
    (hl : u.server.Lined) (hpre : delivered <+: dataHello E.alphabet key)
    (hna : ∀ chunk, a ≠ .arrive i chunk) (hm : Server.ConnMove E u.server a i c c') :
    DataAt E u' key delivered c' := by
  rw [← List.append_nil (dataHello E.alphabet key)] at hpre
  cases hm with
  | same =>
      cases hp : c.phase with
      | delivering | queued | starting | forwarding =>
          simp only [DataAt, hp] at hat ⊢
          exact filed_of_step h hat
      | closed => simp only [DataAt, hp]
      | readingHello | finding =>
          simp only [DataAt, hp] at hat ⊢
          exact hat
      | _ =>
          rw [DataAt, hp] at hat
          exact hat.elim
  | arrived _ chunk => exact absurd rfl (hna chunk)
  | ended => trivial
  | greeted hp hread =>
      rw [DataAt, hp] at hat
      rw [hat] at hread
      have hok := (readHello_of_isPrefix E.alphabet rfl hpre hread).1
      simp only [Except.ok.injEq, reduceCtorEq] at hok
  | sought hp hread =>
      rw [DataAt, hp] at hat
      rw [hat] at hread
      have hok := (readHello_of_isPrefix E.alphabet rfl hpre hread).1
      simp only [Except.ok.injEq, Hello.dataChannelHello.injEq] at hok
      exact hok.2
  | @found _ _ nonce n hp hget =>
      rw [DataAt, hp] at hat
      rw [hat] at hget
      rcases MultiMap.get2_eq_some_iff.mp hget with ⟨d, hin⟩
      rcases ht.item _ hin with ⟨x, j, hx, _, hj, hkey⟩
      exact filed_of_step h ⟨x, j, hx, hj, hkey⟩
  | delivered hp | started hp =>
      rw [DataAt, hp] at hat
      exact filed_of_step h hat
  | relayed hp =>
      simp only [DataAt, hp] at hat ⊢
      exact filed_of_step h hat
  | taken hx hin =>
      rw [DataAt, phase_of_taken hl hc hx hin] at hat
      exact filed_of_step h hat
  | answered hp | unknown hp | known hp | matched hp | mismatched hp | locked hp
  | acknowledged hp | crashed hp | commanded hp =>
      rw [DataAt, hp] at hat
      exact hat.elim

end Callers

end Rathole
