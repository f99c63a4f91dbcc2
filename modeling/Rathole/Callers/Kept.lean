import Rathole.Callers.Streams

/-!
# What Every Step of Callers and Server Keeps

A connection and its caller are at stages that go together, and what one side
has read is the beginning of what the other has written. The connections and
callers are numbered alike, data channels have the key of a client that was
let in, and the handle that a handshake made is for the client at its other
end. Each kind of step keeps all of that, for the connection it is about and
for all others.

## Main definitions

* `At`: What is known of a connection and its caller.
* `MadeFor`: The handle of a client.
* `Kept`: What every step keeps.

## Theorems

* `at_of_move`, `at_of_arrive`, `at_of_roleMove`, `at_of_reply`: One
  connection.
* `made_of_sessions`, `control_of_step`: Handles.
* `kept_of_step`: What one step preserves.
-/

namespace Rathole

open ByteStream Client Numbered Transition


namespace Callers

variable {β : Type}

/-- What is known of connection `i`, by what is at its other end. -/
def RoleAt [DecidableEq β] (E : Server.Env β)
    (tables : List (HashMap (Digest β) (ServerServiceConfig (List β)))) (u : Sessions β) (i : Nat)
    (delivered received : List β) (c : Server.Conn β) : Role β → Prop
  | .control service run => ClientAt E i service received run ∧ Heard E i service delivered c ∧
      Spoken E tables u i service c
  | .data _ key written => written.getD [] <+: dataHello E.alphabet key ∧
      DataAt E u key delivered c
  | .stranger => True

/-- A connection and its caller. -/
structure At [DecidableEq β] (E : Server.Env β)
    (tables : List (HashMap (Digest β) (ServerServiceConfig (List β)))) (u : Sessions β) (i : Nat)
    (x : Caller β) (c : Server.Conn β) : Prop where
  toServer : x.toServer ≤ x.role.sent.length
  toClient : x.toClient ≤ c.sent.length
  role : RoleAt E tables u i x.delivered (c.sent.take x.toClient) c x.role

/-- Handle `n` was made for the client on connection `i`, which has answered
    the nonce. -/
def MadeFor (E : Server.Env β) (u : Sessions β) (n i : Nat) (service : ClientServiceConfig (List β))
    (sent : List β) : Prop :=
  ∃ y key, u.server.handles[n]? = some y ∧ y.owner = E.alphabet.digest service.name ∧
    KeyOf E i service key ∧ u.SessionKey E i y.service key ∧ sent = script E i service

/-- What every step keeps: the services of the server are the last of those it
    has had, connections and callers go together, data channels are opened by
    clients that were let in, and handles are those of their clients. -/
structure Kept [DecidableEq β] (E : Server.Env β) (g : Callers β) : Prop where
  traced : g.sessions.Traced E
  lined : g.sessions.server.Lined
  current : g.tables.getLast? = some g.sessions.server.services
  since : ∀ (i : Nat) (x : Caller β), g.callers[i]? = some x → x.since < g.tables.length
  length : g.callers.length = g.sessions.server.conns.length
  caller : ∀ (i : Nat) (x : Caller β) (c : Server.Conn β), g.callers[i]? = some x →
    g.sessions.server.conns[i]? = some c → At E (g.tablesSince x) g.sessions i x c
  owner : ∀ (i owner : Nat) (x : Caller β) (key : Digest β) (written : Option (List β)),
    g.callers[i]? = some x → x.role = .data owner key written →
    ∃ y, g.callers[owner]? = some y ∧ y.role.sessionKey? = some key
  made : ∀ (n i : Nat) (x : Caller β) (service : ClientServiceConfig (List β))
    (run : HandshakeStep β), g.sessions.made.lookup n = some i → g.callers[i]? = some x →
    x.role = .control service run → MadeFor E g.sessions n i service x.role.sent
  control : ∀ (i n : Nat) (c : Server.Conn β), g.sessions.server.conns[i]? = some c →
    c.phase = .control n → n < g.sessions.server.handles.length ∧
      g.sessions.made.lookup n = some i

variable {E : Server.Env β} {u u' : Sessions β} {i n : Nat} {x : Caller β} {c c' : Server.Conn β}
  {a : Server.Action β} {service : ClientServiceConfig (List β)} {delivered chunk : List β}
  {tables tables' : List (HashMap (Digest β) (ServerServiceConfig (List β)))}

/-! ### One connection -/

theorem heard_of_arrive (hat : Heard E i service delivered c) (chunk : List β) :
    Heard E i service (delivered ++ chunk) { c with inbox := c.inbox ++ chunk } := by
  cases hp : c.phase with
  | readingHello =>
      simp only [Heard, hp] at hat ⊢
      rw [hat]
  | sendingHello | lookingUp | readingAuth =>
      simp only [Heard, hp] at hat ⊢
      exact ⟨hat.1, by rw [hat.2, List.append_assoc]⟩
  | locking | sendingAck =>
      simp only [Heard, hp] at hat ⊢
      exact ⟨hat.1, hat.2.1, hat.2.2.trans (List.prefix_append _ _)⟩
  | control =>
      simp only [Heard, hp] at hat ⊢
      exact hat.trans (List.prefix_append _ _)
  | refusing | rejecting | closed => simp only [Heard]
  | finding | delivering | queued | starting | forwarding =>
      rw [Heard, hp] at hat
      exact hat.elim

theorem sent_receive (role : Role β) (chunk : List β) : (role.receive chunk).sent = role.sent := by
  rcases role with ⟨service, run | run | run⟩ | _ | _
  · rfl
  · rfl
  · rfl
  · rfl
  · rfl

theorem sessionKey?_receive (role : Role β) (chunk : List β) :
    (role.receive chunk).sessionKey? = role.sessionKey? := by
  rcases role with ⟨service, run | run | run⟩ | _ | _
  · rfl
  · rfl
  · rfl
  · rfl
  · rfl

theorem getLast?_after (g : Callers β) (u : Sessions β) :
    (g.after u).tables.getLast? = some (g.after u).sessions.server.services := List.getLast?_concat

/-- What was delivered of what a client wrote is the beginning of its script. -/
theorem delivered_isPrefix {received : List β} {run : HandshakeStep β}
    (hx : x.role = .control service run) (hcl : ClientAt E i service received run) :
    x.delivered <+: script E i service := by
  rw [Caller.delivered, hx]
  exact (List.take_prefix _ _).trans hcl.sent_prefix

/-- A client that has written its whole script has written no more. -/
theorem sent_eq_script {received : List β} {run : HandshakeStep β}
    (hcl : ClientAt E i service received run) (hpre : script E i service <+: run.handshake.sent) :
    run.handshake.sent = script E i service :=
  hcl.sent_prefix.eq_of_length_le hpre.length_le

variable [DecidableEq β]

/-- What a server has written on a connection stays written. -/
theorem sent_of_move {s : Server β} (hm : Server.ConnMove E s a i c c') : c.sent <+: c'.sent := by
  cases hm with
  | ended | answered | acknowledged | crashed | commanded | started | relayed =>
      exact List.prefix_append _ _
  | _ => exact List.prefix_rfl

/-- The server moves a connection, and nothing arrives on it. -/
theorem at_of_move (ht : u.Traced E) (hl : u.server.Lined) (h : u.step E a = some u')
    (hcur : u.server.services ∈ tables) (hsub : tables ⊆ tables') (hat : At E tables u i x c)
    (hc : u.server.conns[i]? = some c)
    (hc' : u'.server.conns[i]? = some c') (hna : ∀ chunk, a ≠ .arrive i chunk)
    (hm : Server.ConnMove E u.server a i c c') : At E tables' u' i x c' where
  toServer := hat.toServer
  toClient := hat.toClient.trans (sent_of_move hm).length_le
  role := by
    have hrole := hat.role
    rw [take_of_isPrefix (sent_of_move hm) hat.toClient]
    cases hx : x.role with
    | control service run =>
        rw [hx] at hrole
        rcases hrole with ⟨hcl, hheard, hspoken⟩
        have hpre := delivered_isPrefix hx hcl
        exact ⟨hcl, heard_of_move hheard hc hl hpre hna hm,
          spoken_of_move ht h hcur hsub hspoken hheard hpre hc hc' hl hm⟩
    | data owner key written =>
        rw [hx] at hrole
        have hpre : x.delivered <+: dataHello E.alphabet key := by
          rw [Caller.delivered, hx]
          exact (List.take_prefix _ _).trans hrole.1
        exact ⟨hrole.1, dataAt_of_move ht h hrole.2 hc hl hpre hna hm⟩
    | stranger => trivial

theorem dataAt_of_arrive {key : Digest β} (h : u.step E a = some u')
    (hat : DataAt E u key delivered c) (chunk : List β) :
    DataAt E u' key (delivered ++ chunk) { c with inbox := c.inbox ++ chunk } := by
  cases hp : c.phase with
  | readingHello =>
      simp only [DataAt, hp] at hat ⊢
      rw [hat]
  | finding =>
      simp only [DataAt, hp] at hat ⊢
      exact hat
  | delivering | queued | starting | forwarding =>
      simp only [DataAt, hp] at hat ⊢
      exact filed_of_step h hat
  | closed => simp only [DataAt]
  | _ =>
      rw [DataAt, hp] at hat
      exact hat.elim

/-- The next bytes of what a caller wrote arrive. -/
theorem at_of_arrive (ht : u.Traced E) (hl : u.server.Lined)
    (h : u.step E (.arrive i chunk) = some u') (hcur : u.server.services ∈ tables)
    (hsub : tables ⊆ tables')
    (hchunk : chunk = (x.role.sent.drop x.toServer).take n)
    (hat : At E tables u i x c) (hn : x.toServer + n ≤ x.role.sent.length)
    (hc : u.server.conns[i]? = some c)
    (hc' : u'.server.conns[i]? = some { c with inbox := c.inbox ++ chunk }) :
    At E tables' u' i { x with toServer := x.toServer + n }
      { c with inbox := c.inbox ++ chunk } where
  toServer := hn
  toClient := hat.toClient
  role := by
    have hrole := hat.role
    have hmore : ({ x with toServer := x.toServer + n } : Caller β).delivered =
        x.delivered ++ chunk := by
      rw [hchunk]
      exact List.take_add
    rw [hmore]
    simp only
    cases hx : x.role with
    | control service run =>
        rw [hx] at hrole
        rcases hrole with ⟨hcl, hheard, hspoken⟩
        have hpre := delivered_isPrefix hx hcl
        exact ⟨hcl, heard_of_arrive hheard chunk, spoken_of_move ht h hcur hsub hspoken hheard
          hpre hc hc' hl (Server.ConnMove.arrived c chunk)⟩
    | data owner key written =>
        rw [hx] at hrole
        exact ⟨hrole.1, dataAt_of_arrive h hrole.2 chunk⟩
    | stranger => trivial

/-- A caller gets on, and what it has written stays written. -/
theorem at_of_roleMove {role : Role β} (hat : At E tables u i x c)
    (hm : RoleMove E.alphabet x.role role) :
    x.role.sent <+: role.sent ∧ At E tables u i { x with role := role } c := by
  rcases x with ⟨role0, toServer, toClient, since⟩
  -- What was delivered is a beginning of what was written then.
  have hclose : role0.sent <+: role.sent →
      (RoleAt E tables u i (role0.sent.take toServer) (c.sent.take toClient) c role) →
      role0.sent <+: role.sent ∧ At E tables u i
        { role := role, toServer := toServer, toClient := toClient, since := since } c := by
    intro hpre hrole
    refine ⟨hpre, hat.toServer.trans hpre.length_le, hat.toClient, ?_⟩
    rw [Caller.delivered, take_of_isPrefix hpre hat.toServer]
    exact hrole
  have hrole := hat.role
  cases hm with
  | advanced hadv =>
      rcases hrole with ⟨hcl, hheard, hspoken⟩
      have hgreets := (greets_of_spoken hspoken hheard).of_isPrefix (List.take_prefix toClient _)
      have hlegible := legible_of_spoken hspoken hheard (List.take_prefix toClient _)
      rcases clientAt_of_advance hcl hgreets hlegible hadv with ⟨hnext, hpre⟩
      exact hclose hpre ⟨hnext, hheard, hspoken⟩
  | failed h k =>
      rcases hrole with ⟨hcl, hheard, hspoken⟩
      have hcut := clientAt_of_hangUp hcl k
      exact hclose (List.prefix_append _ _) ⟨⟨hcut, Or.inl rfl⟩, hheard, hspoken⟩
  | greeted owner key => exact hclose List.nil_prefix ⟨List.prefix_rfl, hrole.2⟩
  | cut owner key k => exact hclose List.nil_prefix ⟨List.take_prefix k _, hrole.2⟩

/-- The next bytes of what the server wrote get to the caller. -/
theorem at_of_reply (hat : At E tables u i x c) (hn : x.toClient + n ≤ c.sent.length) :
    At E tables u i { x with
      role := x.role.receive ((c.sent.drop x.toClient).take n)
      toClient := x.toClient + n } c where
  toServer := by
    rw [sent_receive]
    exact hat.toServer
  toClient := hn
  role := by
    have hrole := hat.role
    have hmore : c.sent.take (x.toClient + n) =
        c.sent.take x.toClient ++ (c.sent.drop x.toClient).take n := List.take_add
    simp only [Caller.delivered, sent_receive, hmore]
    rw [Caller.delivered] at hrole
    cases hx : x.role with
    | control service run =>
        rw [hx] at hrole
        exact ⟨hrole.1.receive _, hrole.2⟩
    | data owner key written =>
        rw [hx] at hrole
        exact hrole
    | stranger => trivial

/-! ### Handles -/

theorem madeFor_of_step {sent : List β} (h : u.step E a = some u')
    (hmade : MadeFor E u n i service sent) : MadeFor E u' n i service sent := by
  rcases hmade with ⟨y, key, hy, howner, hkey, hsession, hsent⟩
  rcases Server.handle_survives (Sessions.server_of_step h).1 hy with ⟨y', hy', hsame⟩
  rw [Prod.mk.injEq] at hsame
  refine ⟨y', key, hy', hsame.1.trans howner, hkey, ?_, hsent⟩
  rw [hsame.2]
  exact Sessions.sessionKey_of_step h hsession

/-- A handle is on record, or is made by a handshake that ends. -/
theorem made_cases (h : u.step E a = some u') (hi : u'.made.lookup n = some i) :
    u.made.lookup n = some i ∨ ∃ c d key cfg, u.server.conns[i]? = some c ∧
      c.phase = .sendingAck d key cfg ∧ u'.server.handles[n]? =
        some { owner := d, service := cfg, queue := [], pooling := true } := by
  rcases Sessions.server_of_step h with ⟨hstep, _, _, hmade, _⟩
  rw [hmade] at hi
  cases a with
  | write j =>
      by_cases hlt : u.server.handles.length < u'.server.handles.length
      · simp only [Server.makes, if_pos hlt] at hi
        rcases HashMap.lookup_insert_cases hi with ⟨hn, hj⟩ | ⟨_, hold⟩
        · rw [hn, hj]
          generalize u'.server = t at hstep hlt
          cases Server.rule_of_step hstep with
          | acknowledged hc hp =>
              exact Or.inr ⟨_, _, _, _, hc, hp, List.getElem?_concat_length⟩
          -- No other write makes a handle.
          | _ => exact absurd hlt (Nat.lt_irrefl _)
        · exact Or.inl hold
      · simp only [Server.makes, if_neg hlt] at hi
        exact Or.inl hi
  | _ => exact Or.inl hi

/-- A write that ends a handshake makes a handle. -/
theorem handles_of_control {s t : Server β} (h : s.step E (.write i) = some t)
    (hc' : t.conns[i]? = some c') (hp' : c'.phase = .control n) :
    t.handles.length = s.handles.length + 1 := by
  have hphase : ∀ {c b : Server.Conn β}, s.conns[i]? = some c → t.conns = s.conns.set i b →
      b.phase = .control n := by
    intro c b hc hconns
    rw [hconns, getElem?_updated hc, Option.some.injEq] at hc'
    rw [hc']
    exact hp'
  cases Server.rule_of_step h with
  | acknowledged => exact List.length_append
  | answered hc | refused hc | rejected hc | started hc =>
      have hp := hphase hc rfl
      simp only [reduceCtorEq] at hp
  | crashed hc hp0 =>
      have hp := hphase hc rfl
      simp only [hp0, reduceCtorEq] at hp

/-- A control channel is that of the handle that was made for it. -/
theorem control_of_step (h : u.step E a = some u')
    (hold : ∀ (i n : Nat) (c : Server.Conn β), u.server.conns[i]? = some c →
      c.phase = .control n → n < u.server.handles.length ∧ u.made.lookup n = some i)
    (hc' : u'.server.conns[i]? = some c') (hp' : c'.phase = .control n) :
    n < u'.server.handles.length ∧ u'.made.lookup n = some i := by
  rcases Sessions.server_of_step h with ⟨hstep, _, _, hmade, _⟩
  have hkept : ∀ c : Server.Conn β, u.server.conns[i]? = some c → c.phase = .control n →
      n < u'.server.handles.length ∧ u'.made.lookup n = some i := by
    intro c hc hp
    rcases hold i n c hc hp with ⟨hlt, hi⟩
    rcases Server.handle_survives hstep (List.getElem?_eq_getElem hlt) with ⟨y, hy, _⟩
    rw [hmade, Server.lookup_makes u.made hlt]
    exact ⟨(List.getElem?_eq_some_iff.mp hy).fst, hi⟩
  rcases Server.conn_of_step hstep hc' with ⟨c, hc, hm⟩ | hnew
  · cases hm with
    | same | arrived | commanded | relayed | crashed => exact hkept _ hc hp'
    | acknowledged hp =>
        -- The new handle has the next number, which is recorded for this connection.
        rw [Server.Phase.control.injEq] at hp'
        have hlen := handles_of_control hstep hc' (n := u.server.handles.length) rfl
        rw [← hp', hmade, hlen]
        refine ⟨Nat.lt_succ_self _, ?_⟩
        simp only [Server.makes, hlen, Nat.lt_succ_self, if_true]
        exact AList.lookup_insert _
    | _ => simp only [reduceCtorEq] at hp'
  · rw [hnew] at hp'
    simp only [reduceCtorEq] at hp'

/-! ### All of them -/

variable {g g' : Callers β}

theorem since_after (hk : Kept E g) (hx : g.callers[i]? = some x) (u : Sessions β) :
    x.since < (g.after u).tables.length := by
  rw [after, List.length_append]
  exact Nat.lt_add_right _ (hk.since i x hx)

/-- The services of the server are among those since a caller came. -/
theorem mem_tablesSince (hk : Kept E g) (hx : g.callers[i]? = some x) :
    g.sessions.server.services ∈ g.tablesSince x := by
  refine List.mem_of_getLast? ?_
  rw [tablesSince, List.getLast?_drop, if_neg (Nat.not_le.mpr (hk.since i x hx)), hk.current]

theorem tablesSince_after (hk : Kept E g) (hx : g.callers[i]? = some x) (u : Sessions β) :
    g.tablesSince x ⊆ (g.after u).tablesSince x := by
  simp only [tablesSince, after]
  rw [List.drop_append_of_le_length (hk.since i x hx).le]
  exact List.subset_append_left _ _

theorem kept_initial (services : HashMap (Digest β) (ServerServiceConfig (List β))) :
    Kept E (initial services) where
  traced := Sessions.traced_initial services
  lined := Server.lined_initial services
  current := rfl
  since := fun i x hx => by simp only [initial, List.getElem?_nil, reduceCtorEq] at hx
  length := rfl
  caller := fun i x c hx _ => by simp only [initial, List.getElem?_nil, reduceCtorEq] at hx
  owner := fun i owner x key written hx _ => by
    simp only [initial, List.getElem?_nil, reduceCtorEq] at hx
  made := fun n i x service run _ hx _ => by
    simp only [initial, List.getElem?_nil, reduceCtorEq] at hx
  control := fun i n c hc _ => by
    simp only [initial, Sessions.initial, Server.initial, List.getElem?_nil, reduceCtorEq] at hc

/-- The handles of clients after a step of the server. -/
theorem made_of_sessions (hk : Kept E g) (h : g.sessions.step E a = some u') {run : HandshakeStep β}
    (hi : u'.made.lookup n = some i) (hx : g.callers[i]? = some x)
    (hrole : x.role = .control service run) : MadeFor E u' n i service x.role.sent := by
  rcases made_cases h hi with hold | ⟨c, d, key, cfg, hc, hp, hy⟩
  · exact madeFor_of_step h (hk.made n i x service run hold hx hrole)
  · -- The server has read the auth, so the client has written all of its script.
    have hat := (hk.caller i x c hx hc).role
    have hrecord := hk.traced.conn i c hc
    rw [hrole] at hat
    rcases hat with ⟨hcl, hheard, _⟩
    rw [Heard, hp] at hheard
    rw [hp] at hrecord
    have hpre : script E i service <+: run.handshake.sent := by
      refine hheard.2.2.trans ?_
      rw [Caller.delivered, hrole]
      exact List.take_prefix _ _
    refine ⟨_, key, hy, hheard.1, hheard.2.1, Sessions.sessionKey_of_step h hrecord.1, ?_⟩
    rw [hrole]
    exact sent_eq_script hcl hpre

theorem conn_of_caller (hk : Kept E g) (hx : g.callers[i]? = some x) :
    ∃ c, g.sessions.server.conns[i]? = some c := by
  refine ⟨_, List.getElem?_eq_getElem ?_⟩
  rw [← hk.length]
  exact (List.getElem?_eq_some_iff.mp hx).fst

/-- The connections on which nothing arrives, after a step of the server. -/
theorem at_of_sessions (hk : Kept E g) (h : g.sessions.step E a = some u')
    (hna : ∀ chunk, a ≠ .arrive i chunk) (hx : g.callers[i]? = some x)
    (hc' : u'.server.conns[i]? = some c') : At E ((g.after u').tablesSince x) u' i x c' := by
  rcases conn_of_caller hk hx with ⟨c, hc⟩
  rcases Server.conn_survives (Sessions.server_of_step h).1 hc with ⟨c1, hc1, hm⟩
  rw [hc', Option.some.injEq] at hc1
  rw [← hc1] at hm
  exact at_of_move hk.traced hk.lined h (mem_tablesSince hk hx) (tablesSince_after hk hx u')
    (hk.caller i x c hx hc) hc hc' hna hm

theorem length_of_sessions (hk : Kept E g) (h : g.sessions.step E a = some u')
    (ha : a ≠ .accept) :
    (g.after u').callers.length = (g.after u').sessions.server.conns.length :=
  hk.length.trans (Server.length_of_step (Sessions.server_of_step h).1 ha).symm

/-- Data channels keep their owners when a caller changes that is let in if it
    was, and is no other data channel than before. -/
theorem owner_set (hk : Kept E g) (hx : g.callers[i]? = some x) (x' : Caller β)
    (hin : ∀ key, x.role.sessionKey? = some key → x'.role.sessionKey? = some key)
    (hdata : ∀ owner key written, x'.role = .data owner key written →
      ∃ before, x.role = .data owner key before)
    {j owner : Nat} {y : Caller β} {key : Digest β} {written : Option (List β)}
    (hy : (g.callers.set i x')[j]? = some y) (hrole : y.role = .data owner key written) :
    ∃ z, (g.callers.set i x')[owner]? = some z ∧ z.role.sessionKey? = some key := by
  have hold : ∃ z, g.callers[owner]? = some z ∧ z.role.sessionKey? = some key := by
    rcases getElem?_set_cases hy with ⟨_, hnew⟩ | ⟨_, hsame⟩
    · rw [hnew] at hrole
      rcases hdata owner key written hrole with ⟨before, hbefore⟩
      exact hk.owner i owner x key before hx hbefore
    · exact hk.owner j owner y key written hsame hrole
  rcases hold with ⟨z, hz, hkey⟩
  by_cases hi : owner = i
  · subst hi
    rw [hx, Option.some.injEq] at hz
    rw [← hz] at hkey
    exact ⟨x', getElem?_updated hx, hin key hkey⟩
  · exact ⟨z, (List.getElem?_set_ne (Ne.symm hi)).trans hz, hkey⟩

/-- What a connection is when it has just been accepted. -/
theorem conns_of_accept (h : u.step E .accept = some u') : u'.server.conns =
    u.server.conns ++ [{ phase := .readingHello, inbox := [], sent := [] }] := by
  have hstep := (Sessions.server_of_step h).1
  generalize u'.server = t at hstep
  cases Server.rule_of_step hstep with
  | accepted => rfl

/-- What a connection is when bytes have arrived. -/
theorem conn_of_arrive (h : u.step E (.arrive i chunk) = some u') : ∃ c,
    u.server.conns[i]? = some c ∧
      u'.server.conns[i]? = some { c with inbox := c.inbox ++ chunk } := by
  have hstep := (Sessions.server_of_step h).1
  generalize u'.server = t at hstep
  cases Server.rule_of_step hstep with
  | arrived hc => exact ⟨_, hc, getElem?_updated hc⟩

/-- Nothing was said yet on a new connection. -/
theorem at_fresh {role : Role β} (hrole : g.Opens role) (since : Nat) :
    At E tables u i (Caller.fresh role since)
      { phase := .readingHello, inbox := [], sent := [] } where
  toServer := Nat.zero_le _
  toClient := Nat.le_refl _
  role := by
    cases role with
    | control service run =>
        rw [show run = _ from hrole]
        exact ⟨⟨rfl, rfl⟩, rfl, rfl⟩
    | data owner key written =>
        rw [hrole.1]
        exact ⟨List.nil_prefix, rfl⟩
    | stranger => trivial

/-- A connection comes. -/
theorem kept_of_came (hk : Kept E g) {role : Role β} (hrole : g.Opens role)
    (hu : g.sessions.step E .accept = some u) :
    Kept E ((g.after u).addCaller (Caller.fresh role g.tables.length)) where
  traced := Sessions.traced_of_step hk.traced hu
  lined := Server.lined_of_step hk.lined (Sessions.server_of_step hu).1
  current := getLast?_after g u
  since := by
    refine forall_append (fun _ _ hy => since_after hk hy u) ?_
    simp only [Caller.fresh, addCaller, after, List.length_append, List.length_singleton,
      Nat.lt_succ_self]
  length := by
    simp only [after, addCaller]
    rw [conns_of_accept hu, List.length_append, List.length_append, hk.length]
    rfl
  caller := by
    intro j y c hy hc
    rcases getElem?_append_cases hy with hold | ⟨hj, hnew⟩
    · exact at_of_sessions hk hu (fun _ heq => by cases heq) hold hc
    · simp only [after, addCaller] at hc hj
      rw [conns_of_accept hu, hj, hk.length, List.getElem?_concat_length, Option.some.injEq] at hc
      rw [hnew, ← hc]
      exact at_fresh hrole _
  owner := by
    intro j owner y key written hy hdata
    have hold : ∃ z, g.callers[owner]? = some z ∧ z.role.sessionKey? = some key := by
      rcases getElem?_append_cases hy with hold | ⟨_, hnew⟩
      · exact hk.owner j owner y key written hold hdata
      · rw [hnew] at hdata
        rw [show role = _ from hdata] at hrole
        exact hrole.2
    rcases hold with ⟨z, hz, hkey⟩
    exact ⟨z, getElem?_kept hz, hkey⟩
  made := by
    intro n j y service run hj hy hctl
    rcases getElem?_append_cases hy with hold | ⟨hj', _⟩
    · exact made_of_sessions hk hu hj hold hctl
    · -- No handle is made for a connection that was not there.
      have hsame : u.made = g.sessions.made := (Sessions.server_of_step hu).2.2.2.1
      simp only [after, addCaller, hsame] at hj hj'
      rcases hk.traced.done n j hj with ⟨c, hc, _⟩
      have hlt := (List.getElem?_eq_some_iff.mp hc).fst
      rw [← hk.length, hj'] at hlt
      exact absurd hlt (Nat.lt_irrefl _)
  control := fun _ _ _ hc hp => control_of_step hu hk.control hc hp

/-- A caller gets on. -/
theorem kept_of_moved (hk : Kept E g) {role : Role β} (hx : g.callers[i]? = some x)
    (hm : RoleMove E.alphabet x.role role) :
    Kept E (g.setCaller i { x with role := role }) where
  traced := hk.traced
  lined := hk.lined
  current := hk.current
  since := forall_set hk.since (hk.since i x hx)
  length := List.length_set.trans hk.length
  caller := by
    intro j y c hy hc
    rcases getElem?_set_cases hy with ⟨hj, hnew⟩ | ⟨_, hold⟩
    · rw [hj] at hc ⊢
      rw [hnew]
      exact (at_of_roleMove (hk.caller i x c hx hc) hm).2
    · exact hk.caller j y c hold hc
  owner := by
    intro j owner y key written hy hdata
    refine owner_set hk hx _ (fun k hkey => ?_) (fun o k w hrole => ?_) hy hdata
    · -- A client that was let in does not move.
      simp only [hm.sessionKey?_eq_none, reduceCtorEq] at hkey
    · rw [show role = _ from hrole] at hm
      exact hm.data_of_data
  made := by
    intro n j y service run hj hy hctl
    rcases getElem?_set_cases hy with ⟨hi, hnew⟩ | ⟨_, hold⟩
    · rw [hi] at hj ⊢
      rw [hnew] at hctl ⊢
      rw [show role = _ from hctl] at hm ⊢
      rcases hm.control_of_control with ⟨before, hbefore⟩
      rcases hk.made n i x service before hj hx hbefore with
        ⟨z, key, hz, howner, hkey, hsession, hsent⟩
      rcases hk.traced.done n i hj with ⟨c, hc, _⟩
      rcases at_of_roleMove (hk.caller i x c hx hc) hm with ⟨hpre, hat⟩
      rw [hsent] at hpre
      -- It had written its whole script, so it has written nothing more.
      exact ⟨z, key, hz, howner, hkey, hsession, sent_eq_script hat.role.1 hpre⟩
    · exact hk.made n j y service run hj hold hctl
  control := hk.control

/-- Bytes get from a caller to the server. -/
theorem kept_of_carried (hk : Kept E g) (hx : g.callers[i]? = some x)
    (hn : x.toServer + n ≤ x.role.sent.length)
    (hu : g.sessions.step E (.arrive i ((x.role.sent.drop x.toServer).take n)) = some u) :
    Kept E ((g.after u).setCaller i { x with toServer := x.toServer + n }) where
  traced := Sessions.traced_of_step hk.traced hu
  lined := Server.lined_of_step hk.lined (Sessions.server_of_step hu).1
  current := getLast?_after g u
  since := forall_set (fun _ _ hy => since_after hk hy u) (since_after hk hx u)
  length := by
    have hsame := length_of_sessions hk hu (fun heq => by cases heq)
    exact List.length_set.trans hsame
  caller := by
    intro j y c hy hc
    rcases getElem?_set_cases hy with ⟨hj, hnew⟩ | ⟨hj, hold⟩
    · rcases conn_of_arrive hu with ⟨c0, hc0, hc1⟩
      simp only [after, setCaller, hj] at hc ⊢
      rw [hc, Option.some.injEq] at hc1
      rw [hnew, hc1]
      rw [hc1] at hc
      exact at_of_arrive hk.traced hk.lined hu (mem_tablesSince hk hx)
        (tablesSince_after hk hx u) rfl (hk.caller i x c0 hx hc0) hn hc0 hc
    · refine at_of_sessions hk hu (fun chunk heq => ?_) hold hc
      rw [Server.Action.arrive.injEq] at heq
      exact hj heq.1.symm
  owner := fun _ _ _ _ _ hy hdata =>
    owner_set hk hx { x with toServer := x.toServer + n } (fun _ hkey => hkey)
      (fun _ _ w hrole => ⟨w, hrole⟩) hy hdata
  made := by
    intro k j y service run hj hy hctl
    rcases getElem?_set_cases hy with ⟨hi, hnew⟩ | ⟨_, hold⟩
    · rw [hi] at hj ⊢
      rw [hnew] at hctl ⊢
      have hmade := made_of_sessions hk hu hj hx hctl
      exact hmade
    · exact made_of_sessions hk hu hj hold hctl
  control := fun _ _ _ hc hp => control_of_step hu hk.control hc hp

/-- Bytes get from the server to a caller. -/
theorem kept_of_replied (hk : Kept E g) (hx : g.callers[i]? = some x)
    (hc : g.sessions.server.conns[i]? = some c) (hn : x.toClient + n ≤ c.sent.length) :
    Kept E (g.setCaller i { x with
      role := x.role.receive ((c.sent.drop x.toClient).take n)
      toClient := x.toClient + n }) where
  traced := hk.traced
  lined := hk.lined
  current := hk.current
  since := forall_set hk.since (hk.since i x hx)
  length := List.length_set.trans hk.length
  caller := by
    intro j y b hy hb
    rcases getElem?_set_cases hy with ⟨hj, hnew⟩ | ⟨_, hold⟩
    · simp only [setCaller, hj] at hb ⊢
      rw [hc, Option.some.injEq] at hb
      rw [hnew, ← hb]
      exact at_of_reply (hk.caller i x c hx hc) hn
    · exact hk.caller j y b hold hb
  owner := by
    intro j owner y key written hy hdata
    refine owner_set hk hx _ (fun k hkey => ?_) (fun o k w hrole => ?_) hy hdata
    · rw [sessionKey?_receive]
      exact hkey
    · rcases hr : x.role with ⟨service, run⟩ | ⟨o', k', w'⟩ | _
      · simp only [hr, Role.receive, reduceCtorEq] at hrole
      · simp only [hr, Role.receive, Role.data.injEq] at hrole
        exact ⟨w', by rw [hrole.1, hrole.2.1]⟩
      · simp only [hr, Role.receive, reduceCtorEq] at hrole
  made := by
    intro k j y service run hj hy hctl
    rcases getElem?_set_cases hy with ⟨hi, hnew⟩ | ⟨_, hold⟩
    · rw [hi] at hj ⊢
      rw [hnew] at hctl ⊢
      simp only [sent_receive]
      rcases hr : x.role with ⟨service', run'⟩ | ⟨o', k', w'⟩ | _
      · simp only [hr, Role.receive, Role.control.injEq] at hctl
        rw [← hr]
        exact hk.made k i x service run' hj hx (by rw [hr, hctl.1])
      · simp only [hr, Role.receive, reduceCtorEq] at hctl
      · simp only [hr, Role.receive, reduceCtorEq] at hctl
    · exact hk.made k j y service run hj hold hctl
  control := hk.control

/-- A stranger writes. -/
theorem kept_of_said (hk : Kept E g) (hx : g.callers[i]? = some x) (hrole : x.role = .stranger)
    (hu : g.sessions.step E (.arrive i chunk) = some u) : Kept E (g.after u) where
  traced := Sessions.traced_of_step hk.traced hu
  lined := Server.lined_of_step hk.lined (Sessions.server_of_step hu).1
  current := getLast?_after g u
  since := fun _ _ hy => since_after hk hy u
  length := length_of_sessions hk hu (fun heq => by cases heq)
  caller := by
    intro j y c hy hc
    by_cases hj : j = i
    · -- Nothing is known of a stranger but how much it was told.
      subst hj
      rcases conn_of_arrive hu with ⟨c0, hc0, hc1⟩
      simp only [after] at hy hc ⊢
      rw [hx, Option.some.injEq] at hy
      rw [hc, Option.some.injEq] at hc1
      have hat := hk.caller j x c0 hx hc0
      rw [← hy, hc1]
      refine ⟨hat.toServer, hat.toClient, ?_⟩
      rw [hrole]
      trivial
    · refine at_of_sessions hk hu (fun chunk heq => ?_) hy hc
      rw [Server.Action.arrive.injEq] at heq
      exact hj heq.1.symm
  owner := hk.owner
  made := fun _ _ _ _ _ hj hy hctl => made_of_sessions hk hu hj hy hctl
  control := fun _ _ _ hc hp => control_of_step hu hk.control hc hp

/-- The server goes on. -/
theorem kept_of_served (hk : Kept E g) (ha : a ≠ .accept) (hna : ∀ i chunk, a ≠ .arrive i chunk)
    (hu : g.sessions.step E a = some u) : Kept E (g.after u) where
  traced := Sessions.traced_of_step hk.traced hu
  lined := Server.lined_of_step hk.lined (Sessions.server_of_step hu).1
  current := getLast?_after g u
  since := fun _ _ hy => since_after hk hy u
  length := length_of_sessions hk hu ha
  caller := fun j _ _ hy hc => at_of_sessions hk hu (hna j) hy hc
  owner := hk.owner
  made := fun _ _ _ _ _ hj hy hctl => made_of_sessions hk hu hj hy hctl
  control := fun _ _ _ hc hp => control_of_step hu hk.control hc hp

/-- The step lemma. -/
theorem kept_of_step {b : Action β} (hk : Kept E g) (h : g.step E b = some g') : Kept E g' := by
  cases move_of_step h with
  | came hrole hu => exact kept_of_came hk hrole hu
  | moved hx hm => exact kept_of_moved hk hx hm
  | carried hx hn hu => exact kept_of_carried hk hx hn hu
  | replied hx hc hn => exact kept_of_replied hk hx hc hn
  | said hx hrole hu => exact kept_of_said hk hx hrole hu
  | served ha hna hu => exact kept_of_served hk ha hna hu

end Callers

end Rathole
