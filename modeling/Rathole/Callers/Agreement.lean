import Rathole.Callers.Kept
import Rathole.Client.Retry

/-!
# Clients and Server Agree

In any run of a server and all who call it. A client that is past its ack was
let in on this very connection, for the service it named and with its own
token; a handle that was made for a client's connection is that client's; no
two clients have one session key; and a data channel gets to the handle of the
client that opened it and to no other. A client that is refused is told why,
and has its reason. Whatever strangers write, whichever connections fail, and
whatever is reloaded.

## Main definitions

* `Fresh`: No nonce is drawn twice, and nothing that is digested for a session
  key collides.
* `Agreed`: What clients and server agree on.

## Theorems

* `callers_agree`: Agreement in any run.
* `refusals_justified`: Why clients fail.
-/

namespace Rathole

open Client Numbered Transition


namespace Callers

variable {β : Type} {E : Server.Env β} {g : Callers β} {i : Nat} {x : Caller β}
  {service : ClientServiceConfig (List β)}
  {tables : List (HashMap (Digest β) (ServerServiceConfig (List β)))}

/-! ### Agreement -/

/-- What a client on connection `i` digests for its session key. -/
def Caller.digested (E : Server.Env β) (i : Nat) (x : Caller β) : List (List β) :=
  match x.role with
  | .control service _ => (service.token.map (fun token => token ++ (E.nonce i).toList)).toList
  | _ => []

/-- What all clients digest. -/
def digested (E : Server.Env β) (g : Callers β) : List (List β) :=
  g.callers.zipIdx.flatMap (fun p => p.1.digested E p.2)

/-- No nonce is drawn twice, and the digest keeps apart what clients and server
    digest for session keys. -/
def Fresh (E : Server.Env β) (g : Callers β) : Prop :=
  g.sessions.Fresh E ∧ ∀ p ∈ g.digested E, ∀ q ∈ g.sessions.concats,
    E.alphabet.digest p = E.alphabet.digest q.2 → p = q.2

instance [DecidableEq β] (E : Server.Env β) (g : Callers β) : Decidable (g.Fresh E) := by
  unfold Fresh
  infer_instance

/-- What clients and server agree on. -/
structure Agreed [DecidableEq β] (E : Server.Env β) (g : Callers β) : Prop where
  /-- The server let the client in on this connection, for a service it has had
      under this name and with the client's token since the client came, and with
      this key. It has the control channel if the connection is not broken. -/
  letIn : ∀ (i : Nat) (x : Caller β) (service : ClientServiceConfig (List β)) (key : Digest β)
    (h : Handshake β), g.callers[i]? = some x → x.role = .control service (.established key h) →
    ∃ token cfg m c, service.token = some token ∧
      Configured (g.tablesSince x) (E.alphabet.digest service.name) cfg ∧ cfg.token = some token ∧
      key = sessionKey E.alphabet token (E.nonce i) ∧ g.sessions.SessionKey E i cfg key ∧
      g.sessions.before.lookup i = some m ∧ g.sessions.server.conns[i]? = some c ∧
      ((∃ d cfg', c.phase = .sendingAck d key cfg') ∨
        (∃ n, c.phase = .control n ∧ g.sessions.made.lookup n = some i) ∨ c.phase = .closed)
  /-- A handle that was made for a client is for the service the client named,
      has the client's token, and is only entered under the client's key. -/
  made : ∀ (n i : Nat) (x : Caller β) (service : ClientServiceConfig (List β))
    (run : HandshakeStep β), g.sessions.made.lookup n = some i → g.callers[i]? = some x →
    x.role = .control service run → ∃ y token, g.sessions.server.handles[n]? = some y ∧
      y.owner = E.alphabet.digest service.name ∧ service.token = some token ∧
      y.service.token = some token ∧ x.role.sent = script E i service ∧
      ∀ d key, (d, key, n) ∈ g.sessions.server.channels.items →
        d = E.alphabet.digest service.name ∧ key = sessionKey E.alphabet token (E.nonce i)
  /-- No two clients have one key. -/
  apart : ∀ (i j : Nat) (x y : Caller β) (key : Digest β), g.callers[i]? = some x →
    g.callers[j]? = some y → x.role.sessionKey? = some key → y.role.sessionKey? = some key → i = j
  /-- A data channel gets to the handle of the client that opened it. -/
  data : ∀ (i owner n : Nat) (x : Caller β) (key : Digest β) (written : Option (List β))
    (c : Server.Conn β), g.callers[i]? = some x → x.role = .data owner key written →
    g.sessions.server.conns[i]? = some c →
    c.phase = .queued n ∨ (∃ cmd, c.phase = .starting n cmd) ∨ c.phase = .forwarding n →
    g.sessions.made.lookup n = some owner

theorem mem_digested {token : List β} {run : HandshakeStep β} (hx : g.callers[i]? = some x)
    (hrole : x.role = .control service run) (ht : service.token = some token) :
    token ++ (E.nonce i).toList ∈ g.digested E := by
  refine List.mem_flatMap.mpr ⟨(x, i), List.mem_zipIdx_iff_getElem?.mpr hx, ?_⟩
  simp only [Caller.digested, hrole, ht, Option.map_some, Option.toList_some, List.mem_singleton]

/-- A client and the server that have one key have one token. -/
theorem Fresh.token_eq (hf : g.Fresh E) {run : HandshakeStep β} {key : Digest β}
    {cfg : ServerServiceConfig (List β)} (hx : g.callers[i]? = some x)
    (hrole : x.role = .control service run) (hkey : KeyOf E i service key)
    (hsession : g.sessions.SessionKey E i cfg key) :
    ∃ token, service.token = some token ∧ cfg.token = some token ∧
      key = sessionKey E.alphabet token (E.nonce i) := by
  rcases hkey with ⟨token, ht, hk⟩
  rcases hsession with ⟨token', ht', hin, hk'⟩
  have heq : token ++ (E.nonce i).toList = token' ++ (E.nonce i).toList :=
    hf.2 _ (mem_digested hx hrole ht) _ hin (hk.symm.trans hk')
  rw [List.append_cancel_right heq] at ht hk
  exact ⟨token', ht, ht', hk⟩

variable [DecidableEq β]

/-- A client that is past its ack was let in. -/
theorem letIn_of_established (hk : Kept E g) {key : Digest β} {h : Handshake β}
    (hx : g.callers[i]? = some x) (hrole : x.role = .control service (.established key h)) :
    KeyOf E i service key ∧ Verdict E (g.tablesSince x) g.sessions i service .ok ∧
      ∃ c, g.sessions.server.conns[i]? = some c ∧
        ((∃ d cfg, c.phase = .sendingAck d key cfg) ∨ (∃ n, c.phase = .control n) ∨
          c.phase = .closed) := by
  rcases conn_of_caller hk hx with ⟨c, hc⟩
  have hat := (hk.caller i x c hx hc).role
  rw [hrole] at hat
  rcases hat with ⟨⟨_, hkey, more, rest, hmore, hread⟩, hheard, hspoken⟩
  rcases verdict_of_readAck hspoken hheard (List.take_prefix _ _) hmore hread with
    ⟨ack, hok, hv, hphase⟩
  rw [Except.ok.injEq] at hok
  subst hok
  refine ⟨hkey, hv, _, hc, ?_⟩
  rcases hphase rfl with ⟨d, key', cfg, hp⟩ | hctl
  · -- The key under way is the one the client has.
    rw [Heard, hp] at hheard
    rw [hheard.2.1.eq hkey] at hp
    exact Or.inl ⟨d, cfg, hp⟩
  · exact Or.inr hctl

/-- The session of a client that is past its ack is one of the server's. -/
theorem sessionKey_of_established (hk : Kept E g) {key : Digest β} (hx : g.callers[i]? = some x)
    (hkey : x.role.sessionKey? = some key) : i < g.sessions.server.conns.length ∧
      ∃ cfg, g.sessions.SessionKey E i cfg key := by
  rcases hrole : x.role with ⟨service, run | ⟨key', h⟩ | run⟩ | ⟨owner, key', written⟩ | _
  · simp only [hrole, Role.sessionKey?, reduceCtorEq] at hkey
  · simp only [hrole, Role.sessionKey?, Option.some.injEq] at hkey
    rw [hkey] at hrole
    rcases letIn_of_established hk hx hrole with ⟨hkeyOf, ⟨cfg, key0, hkey0, _, hs, _⟩, c, hc, _⟩
    rw [hkey0.eq hkeyOf] at hs
    exact ⟨(List.getElem?_eq_some_iff.mp hc).fst, cfg, hs⟩
  · simp only [hrole, Role.sessionKey?, reduceCtorEq] at hkey
  · simp only [hrole, Role.sessionKey?, reduceCtorEq] at hkey
  · simp only [hrole, Role.sessionKey?, reduceCtorEq] at hkey

/-- In any run, if no nonce is drawn twice and the digest does not collide,
    clients and server agree. -/
theorem callers_agree (E : Server.Env β)
    (services : HashMap (Digest β) (ServerServiceConfig (List β))) (g : Callers β)
    (hr : Reaches (step E) (fun _ _ => True) (initial services) g) (hf : g.Fresh E) :
    g.Agreed E := by
  have hk : Kept E g :=
    hr.invariant (fun _ _ _ hi _ hst => kept_of_step hi hst) (kept_initial services)
  refine ⟨?_, ?_, ?_, ?_⟩
  · intro i x service key h hx hrole
    rcases letIn_of_established hk hx hrole with
      ⟨hkey, ⟨cfg, key0, hkey0, hin, hs, m, hm⟩, c, hc, hphase⟩
    rw [hkey0.eq hkey] at hs
    rcases hf.token_eq hx hrole hkey hs with ⟨token, ht, hcfg, hk'⟩
    refine ⟨token, cfg, m, c, ht, hin, hcfg, hk', hs, hm, hc, ?_⟩
    rcases hphase with hack | ⟨n, hctl⟩ | hclosed
    · exact Or.inl hack
    · exact Or.inr (Or.inl ⟨n, hctl, (hk.control i n c hc hctl).2⟩)
    · exact Or.inr (Or.inr hclosed)
  · intro n i x service run hi hx hrole
    rcases hk.made n i x service run hi hx hrole with ⟨y, key, hy, howner, hkey, hs, hsent⟩
    rcases hf.token_eq hx hrole hkey hs with ⟨token, ht, hcfg, _⟩
    refine ⟨y, token, hy, howner, ht, hcfg, hsent, fun d key' hin => ?_⟩
    -- The entry is that of the handshake that made the handle.
    rcases hk.traced.item _ hin with ⟨y', j, hy', howner', hj, token', ht', _, hkey'⟩
    simp only [hy, hi, Option.some.injEq] at hy' hj
    rw [← hy', hcfg, Option.some.injEq] at ht'
    rw [← hy', howner] at howner'
    rw [← hj, ← ht'] at hkey'
    exact ⟨howner'.symm, hkey'⟩
  · intro i j x y key hx hy hkx hky
    rcases sessionKey_of_established hk hx hkx with ⟨hi, cfg, hs⟩
    rcases sessionKey_of_established hk hy hky with ⟨hj, cfg', hs'⟩
    exact hf.1.conn_eq hi hj hs hs'
  · intro i owner n x key written c hx hrole hc hphase
    have hat := (hk.caller i x c hx hc).role
    rw [hrole] at hat
    have hfiled : Filed E g.sessions key n := by
      rcases hphase with hp | ⟨cmd, hp⟩ | hp
      · simp only [RoleAt, DataAt, hp] at hat
        exact hat.2
      · simp only [RoleAt, DataAt, hp] at hat
        exact hat.2
      · simp only [RoleAt, DataAt, hp] at hat
        exact hat.2
    rcases hfiled with ⟨z, j, hz, hj, hs⟩
    rcases hk.owner i owner x key written hx hrole with ⟨y, hy, hkey⟩
    rcases sessionKey_of_established hk hy hkey with ⟨howner, cfg, hs'⟩
    -- One key is that of one connection.
    rcases hk.traced.done n j hj with ⟨c', hc', _⟩
    rw [hj, hf.1.conn_eq (List.getElem?_eq_some_iff.mp hc').fst howner hs hs']

/-- A client is let in, and its data channel gets into a queue. -/
def dataQueued : List (Action UInt8) :=
  [.call Client.Task.sshService, .advance 0, .advance 0, .advance 0, .toServer 0 37,
    .server (.read 0), .server (.write 0), .server (.lookup 0), .toClient 0 37, .advance 0,
    .advance 0, .toServer 0 32, .server (.read 0), .server (.lock 0), .server (.write 0),
    .toClient 0 4, .advance 0, .openData 0, .advance 1, .toServer 1 37, .server (.read 1),
    .server (.find 1), .server (.deliver 1)]

theorem callers_agree_dataQueued : ∃ g, exec (step Sessions.twoNonces)
    (initial Server.sshServices) dataQueued = some g ∧ g.Agreed Sessions.twoNonces ∧
    g.callers.map (fun x => x.role.sessionKey?) = [some sampleSessionKey, none] ∧
    g.sessions.server.conns.map (fun c => c.phase) = [.control 0, .queued 0] := by
  rcases hrun : exec (step Sessions.twoNonces) (initial Server.sshServices) dataQueued with _ | g
  · exact absurd hrun (by decide +kernel)
  · have hfacts : (exec (step Sessions.twoNonces) (initial Server.sshServices) dataQueued).map
        (fun g => (decide (g.Fresh Sessions.twoNonces),
          g.callers.map (fun x => x.role.sessionKey?),
          g.sessions.server.conns.map (fun c => c.phase))) =
        some (true, [some sampleSessionKey, none], [.control 0, .queued 0]) := by
      decide +kernel
    rw [hrun] at hfacts
    simp only [Option.map_some, Option.some.injEq, Prod.mk.injEq] at hfacts
    rcases hfacts with ⟨hf, hkeys, hphases⟩
    exact ⟨g, rfl, callers_agree Sessions.twoNonces Server.sshServices g
      (reaches_of_exec _ _ _ hrun) (of_decide_eq_true hf), hkeys, hphases⟩

/-! ### Refusals -/

/-- A service that was there all the time, with the client's token, is no
    reason to refuse the client. -/
theorem Verdict.ack_eq {ack : Ack} (hv : Verdict E tables u i service ack)
    (halways : ∀ services ∈ tables, ∃ cfg,
      services.lookup (E.alphabet.digest service.name) = some cfg ∧ cfg.token = service.token) :
    ack = .ok := by
  cases ack with
  | ok => rfl
  | serviceNotExist =>
      rcases hv with ⟨services, hin, hnone⟩
      rcases halways services hin with ⟨cfg, hcfg, _⟩
      simp only [hnone, reduceCtorEq] at hcfg
  | authFailed =>
      rcases hv with ⟨cfg, ⟨services, hin, hcfg⟩, hne⟩
      rcases halways services hin with ⟨cfg', hcfg', htoken⟩
      rw [hcfg, Option.some.injEq] at hcfg'
      rw [hcfg'] at hne
      exact absurd htoken hne

/-- In any run, a client that has failed could not read or write, or was refused
    for a reason the server had since the client came. So it is not refused
    if its service is there all the time with its token. -/
theorem refusals_justified (E : Server.Env β)
    (services : HashMap (Digest β) (ServerServiceConfig (List β))) (g : Callers β)
    (hr : Reaches (step E) (fun _ _ => True) (initial services) g) (i : Nat) (x : Caller β)
    (service : ClientServiceConfig (List β)) (e : RunError β) (hx : g.callers[i]? = some x)
    (hfailed : x.role.failure? = some (service, e)) :
    (e = .io ∨ ∃ ack, ack ≠ .ok ∧ e = .authenticationFailed service.name ack ∧
      Verdict E (g.tablesSince x) g.sessions i service ack) ∧
    ((∀ t ∈ g.tablesSince x, ∃ cfg, t.lookup (E.alphabet.digest service.name) = some cfg ∧
      cfg.token = service.token) → e = .io) := by
  have hk : Kept E g :=
    hr.invariant (fun _ _ _ hi _ hst => kept_of_step hi hst) (kept_initial services)
  rcases conn_of_caller hk hx with ⟨c, hc⟩
  have hat := (hk.caller i x c hx hc).role
  rcases Role.eq_of_failure? hfailed with ⟨run, hrole⟩
  rw [hrole] at hat
  rcases hat with ⟨⟨_, hwhy⟩, hheard, hspoken⟩
  have hreason : e = .io ∨ ∃ ack, ack ≠ .ok ∧ e = .authenticationFailed service.name ack ∧
      Verdict E (g.tablesSince x) g.sessions i service ack := by
    rcases hwhy with hio | ⟨ack, more, rest, hne, he, hmore, hread⟩
    · exact Or.inl hio
    · -- The ack it has read is the one the server had its reasons for.
      rcases verdict_of_readAck hspoken hheard (List.take_prefix _ _) hmore hread with
        ⟨ack', hok, hv, _⟩
      rw [Except.ok.injEq] at hok
      rw [← hok] at hv
      exact Or.inr ⟨ack, hne, he, hv⟩
  refine ⟨hreason, fun halways => ?_⟩
  rcases hreason with hio | ⟨ack, hne, _, hv⟩
  · exact hio
  · exact absurd (hv.ack_eq halways) hne

/-- The service is deleted between a client's hello and the lookup. -/
def deletedMeanwhile : List (Action UInt8) :=
  [.call Client.Task.sshService, .advance 0, .advance 0, .advance 0, .toServer 0 37,
    .server (.read 0), .server (.reload (.delete sampleName)), .server .reloadServices,
    .server .reloadChannels, .server (.write 0), .server (.lookup 0), .server (.write 0),
    .toClient 0 41, .advance 0, .advance 0, .advance 0]

theorem refusals_justified_deleted : ∃ g x, exec (step Sessions.twoNonces)
    (initial Server.sshServices) deletedMeanwhile = some g ∧ g.callers = [x] ∧
    x.role.failure? = some (Client.Task.sshService,
      .authenticationFailed sampleName .serviceNotExist) ∧
    ∃ t ∈ g.tablesSince x, t.lookup (Sessions.twoNonces.alphabet.digest sampleName) = none := by
  rcases hrun : exec (step Sessions.twoNonces) (initial Server.sshServices) deletedMeanwhile
    with _ | g
  · exact absurd hrun (by decide +kernel)
  · have hfacts : (exec (step Sessions.twoNonces) (initial Server.sshServices)
        deletedMeanwhile).map (fun g => g.callers.map (fun x => x.role.failure?)) =
        some [some (Client.Task.sshService,
          .authenticationFailed sampleName .serviceNotExist)] := by
      decide +kernel
    rw [hrun, Option.map_some, Option.some.injEq, List.map_eq_singleton_iff] at hfacts
    rcases hfacts with ⟨x, hx, hfailed⟩
    have hfirst : g.callers[0]? = some x := by rw [hx, List.getElem?_cons_zero]
    rcases (refusals_justified Sessions.twoNonces Server.sshServices g
      (reaches_of_exec _ _ _ hrun) 0 x _ _ hfirst hfailed).1 with hio | ⟨ack, _, he, hv⟩
    · simp only [reduceCtorEq] at hio
    · rw [RunError.authenticationFailed.injEq] at he
      rw [← he.2] at hv
      exact ⟨g, x, rfl, hx, hfailed, hv⟩

end Callers

end Rathole
