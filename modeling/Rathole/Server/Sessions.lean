import Rathole.Server.Guards
import Rathole.Server.Reload

/-!
# Sessions and Their Data Channels

Whom a data channel is delivered to. A client names its session by the digest
of the token and the nonce of its handshake, and the server looks for a
control channel with that key. `Sessions` is the server with a record of what
it forgets: what each handshake digests, which handle it made, the control
channels it found when it got its write guard, and the nonce each data channel
came with.

A control channel in the map is always the one its handle was made for, with
the key of the handshake that made it (`Traced.item`). The key of a handshake
under way is new, because its nonce is, so the insertion that ends it never
fails. A data channel has its read guard from the moment it finds a handle, so
the handle is still the current one of its service when it is delivered.

## Main definitions

* `Sessions`, `Sessions.step`: The server and its record.
* `Sessions.SessionKey`: The session key of a handshake.
* `Sessions.Fresh`: No nonce is drawn twice, and the digest keeps what was
  digested apart.
* `Sessions.Traced`: What the server knows agrees with the record.

## Theorems

* `traced_of_step`: What one step preserves.
* `sessions_isolated`: Handshakes and data channels in any run.
-/

namespace Rathole

open FairLock Numbered Transition


variable {β : Type}

/-- The server, the strings each handshake digests, the control channels it
    found, the handshake that made each handle, and the nonces that data
    channels came with. -/
structure Sessions (β : Type) where
  server : Server β
  concats : List (Nat × List β)
  before : HashMap Nat (MultiMap (Digest β) (Digest β) Nat)
  made : HashMap Nat Nat
  sought : HashMap Nat (Digest β)

namespace Server

/-- What a handshake digests once it has its service's configuration. -/
def digests (t : Server β) : Action β → List (Nat × List β)
  | .lookup i => match t.conns[i]? with
    | none => []
    | some c => match c.phase with
      | .readingAuth _ concat _ => [(i, concat)]
      | _ => []
  | _ => []

/-- A handshake gets its write guard. -/
def locks (s : Server β) (m : HashMap Nat (MultiMap (Digest β) (Digest β) Nat)) :
    Action β → HashMap Nat (MultiMap (Digest β) (Digest β) Nat)
  | .lock i => m.insert i s.channels
  | _ => m

/-- A handshake makes its handle. -/
def makes (s t : Server β) (m : HashMap Nat Nat) : Action β → HashMap Nat Nat
  | .write i => if s.handles.length < t.handles.length then m.insert s.handles.length i else m
  | _ => m

/-- A data channel says which session it belongs to. -/
def seeks (t : Server β) (m : HashMap Nat (Digest β)) : Action β → HashMap Nat (Digest β)
  | .read i => match t.conns[i]? with
    | none => m
    | some c => match c.phase with
      | .finding nonce => m.insert i nonce
      | _ => m
  | _ => m

/-- A control channel's handshake before its handle is made. -/
def Phase.Handshaking : Phase β → Prop
  | .readingHello | .sendingHello _ _ | .lookingUp _ _ | .readingAuth _ _ _ | .locking _ _ _
  | .sendingAck _ _ _ => True
  | _ => False

end Server

namespace Sessions

variable (E : Server.Env β)

/-- Nothing is on record. -/
def initial (services : HashMap (Digest β) (ServerServiceConfig (List β))) : Sessions β where
  server := Server.initial services
  concats := []
  before := ∅
  made := ∅
  sought := ∅

/-- A step of the server, put on record. -/
def step [DecidableEq β] (g : Sessions β) (a : Server.Action β) : Option (Sessions β) :=
  (g.server.step E a).map (fun t => {
    server := t
    concats := g.concats ++ t.digests a
    before := g.server.locks g.before a
    made := g.server.makes t g.made a
    sought := t.seeks g.sought a })

/-- The key is that of the session that connection `i` makes with the
    configuration `cfg`: the digest of its token and the nonce. -/
def SessionKey (g : Sessions β) (i : Nat) (cfg : ServerServiceConfig (List β))
    (key : Digest β) : Prop :=
  ∃ token, cfg.token = some token ∧ (i, token ++ (E.nonce i).toList) ∈ g.concats ∧
    key = E.alphabet.digest (token ++ (E.nonce i).toList)

/-- The nonces of the connections are pairwise distinct, and the digest is
    injective on what was digested for session keys. -/
def Fresh (g : Sessions β) : Prop :=
  ((List.range g.server.conns.length).map E.nonce).Nodup ∧
    ∀ p ∈ g.concats, ∀ q ∈ g.concats,
      E.alphabet.digest p.2 = E.alphabet.digest q.2 → p.2 = q.2

instance [DecidableEq β] (g : Sessions β) : Decidable (g.Fresh E) := by
  unfold Fresh
  infer_instance

/-- The record of a connection at its await. -/
def PhaseTraced (g : Sessions β) (i : Nat) : Server.Phase β → Prop
  | .sendingHello _ nonce | .lookingUp _ nonce => nonce = E.nonce i
  | .readingAuth _ concat cfg => ∃ token, cfg.token = some token ∧
      concat = token ++ (E.nonce i).toList ∧ (i, concat) ∈ g.concats
  | .locking _ key cfg => g.SessionKey E i cfg key
  | .sendingAck d key cfg => g.SessionKey E i cfg key ∧ ∃ m, g.before.lookup i = some m ∧
      ∀ y, y ∈ g.server.channels.items ↔ y ∈ m.items ∧ y.1 ≠ d
  | .finding nonce => g.sought.lookup i = some nonce
  | .delivering h => ∃ nonce, g.sought.lookup i = some nonce ∧
      ∃ d, (d, nonce, h) ∈ g.server.channels.items
  | _ => True

/-- The record agrees with the server: every connection is on record, every
    control channel is that of the handshake that made its handle, and that
    handshake is over. -/
structure Traced (g : Sessions β) : Prop where
  guarded : g.server.Guarded
  conn : ∀ (i : Nat) (c : Server.Conn β), g.server.conns[i]? = some c → g.PhaseTraced E i c.phase
  item : ∀ y ∈ g.server.channels.items, ∃ (x : Server.Handle β) (j : Nat),
    g.server.handles[y.2.2]? = some x ∧ x.owner = y.1 ∧ g.made.lookup y.2.2 = some j ∧
      g.SessionKey E j x.service y.2.1
  done : ∀ (h j : Nat), g.made.lookup h = some j → ∃ c : Server.Conn β,
    g.server.conns[j]? = some c ∧ ¬ c.phase.Handshaking

variable {E} {g g' : Sessions β} {a : Server.Action β}

theorem traced_initial (services : HashMap (Digest β) (ServerServiceConfig (List β))) :
    (initial services).Traced E where
  guarded := Server.guarded_initial services
  conn := fun i c hc => by
    simp only [initial, Server.initial, List.getElem?_nil, reduceCtorEq] at hc
  item := fun _ hy => absurd hy List.not_mem_nil
  done := fun n j hj => by simp only [initial, AList.lookup_empty, reduceCtorEq] at hj

/-- Sessions with one key are made by one connection. -/
theorem Fresh.conn_eq (hf : g.Fresh E) {i j : Nat} {cfg cfg' : ServerServiceConfig (List β)}
    {key : Digest β} (hi : i < g.server.conns.length) (hj : j < g.server.conns.length)
    (hk : g.SessionKey E i cfg key) (hk' : g.SessionKey E j cfg' key) : i = j := by
  rcases hk with ⟨token, _, hin, hkey⟩
  rcases hk' with ⟨token', _, hin', hkey'⟩
  have hconcat : token ++ (E.nonce i).toList = token' ++ (E.nonce j).toList :=
    hf.2 _ hin _ hin' (by rw [← hkey, ← hkey'])
  -- All nonces have the same length, so they are the ends of the strings.
  have hlen : (E.nonce i).toList.length = (E.nonce j).toList.length := by
    rw [List.Vector.toList_length, List.Vector.toList_length]
  have hnonce : E.nonce i = E.nonce j :=
    List.Vector.toList_injective (List.append_inj_right' hconcat hlen)
  exact List.inj_on_of_nodup_map hf.1 (List.mem_range.mpr hi) (List.mem_range.mpr hj) hnonce

variable [DecidableEq β]

theorem server_of_step (h : g.step E a = some g') : g.server.step E a = some g'.server ∧
    g'.concats = g.concats ++ g'.server.digests a ∧ g'.before = g.server.locks g.before a ∧
    g'.made = g.server.makes g'.server g.made a ∧ g'.sought = g'.server.seeks g.sought a := by
  unfold step at h
  rw [Option.map_eq_some_iff] at h
  rcases h with ⟨t, ht, hg⟩
  rw [← hg]
  exact ⟨ht, rfl, rfl, rfl, rfl⟩

theorem sessionKey_of_step (h : g.step E a = some g') {i : Nat}
    {cfg : ServerServiceConfig (List β)} {key : Digest β} (hk : g.SessionKey E i cfg key) :
    g'.SessionKey E i cfg key := by
  rcases hk with ⟨token, htoken, hin, hkey⟩
  refine ⟨token, htoken, ?_, hkey⟩
  rw [(server_of_step h).2.1]
  exact List.mem_append_left _ hin

end Sessions

/-! ### One step -/

namespace Server

variable {E : Env β} {s t : Server β} {a : Action β}

/-- A record of what data channels came with, after a step. -/
theorem lookup_seeks (m : HashMap Nat (Digest β)) (j : Nat) :
    (t.seeks m a).lookup j = m.lookup j ∨ ∃ c n, t.conns[j]? = some c ∧ c.phase = .finding n ∧
      (t.seeks m a).lookup j = some n := by
  cases a with
  | read i =>
      cases hc : t.conns[i]? with
      | none =>
          left
          simp only [seeks, hc]
      | some c =>
          cases hp : c.phase with
          | finding n =>
              simp only [seeks, hc, hp]
              by_cases hj : j = i
              · rw [hj]
                exact Or.inr ⟨c, n, hc, hp, AList.lookup_insert _⟩
              · exact Or.inl (AList.lookup_insert_ne hj)
          | _ =>
              left
              simp only [seeks, hc, hp]
  | _ => exact Or.inl rfl

/-- The handshake that made a handle stays on record. -/
theorem lookup_makes (m : HashMap Nat Nat) {h : Nat} (hlt : h < s.handles.length) :
    (s.makes t m a).lookup h = m.lookup h := by
  cases a with
  | write i =>
      by_cases hgrow : s.handles.length < t.handles.length
      · simp only [makes, if_pos hgrow]
        exact AList.lookup_insert_ne (Nat.ne_of_lt hlt)
      · simp only [makes, if_neg hgrow]
  | _ => rfl

variable [DecidableEq β]

/-- A connection stays, where it is or moved. -/
theorem conn_survives (h : s.step E a = some t) {j : Nat} {c : Conn β}
    (hc : s.conns[j]? = some c) : ∃ c', t.conns[j]? = some c' ∧ ConnMove E s a j c c' := by
  rcases (act_of_step h).2 with ⟨i, c0, c1, hc0, hmove, hconns⟩ | hconns | hconns
  · rw [hconns]
    by_cases hj : j = i
    · subst hj
      rw [hc, Option.some.injEq] at hc0
      rw [hc0]
      exact ⟨c1, getElem?_updated hc, hmove⟩
    · exact ⟨c, by rw [List.getElem?_set_ne (Ne.symm hj)]; exact hc, ConnMove.same c⟩
  · rw [hconns]
    exact ⟨c, hc, ConnMove.same c⟩
  · rw [hconns]
    rw [← List.getElem?_append_left (List.getElem?_eq_some_iff.mp hc).fst] at hc
    exact ⟨c, hc, ConnMove.same c⟩

/-- A handshake that is over does not begin again. -/
theorem ConnMove.done {j : Nat} {c c' : Conn β} (hm : ConnMove E s a j c c')
    (hdone : ¬ c.phase.Handshaking) : ¬ c'.phase.Handshaking := by
  cases hm with
  | same | arrived | commanded | relayed | crashed => exact hdone
  | ended | taken | delivered | started => exact fun hf => hf
  | greeted hp | sought hp | answered hp | unknown hp | known hp | matched hp | mismatched hp
  | locked hp | acknowledged hp =>
      rw [hp] at hdone
      exact absurd trivial hdone
  | found => exact fun hf => hf

/-- A write that makes a handle ends a handshake. -/
theorem done_of_made {i : Nat} (h : s.step E (.write i) = some t)
    (hlt : s.handles.length < t.handles.length) :
    ∃ c', t.conns[i]? = some c' ∧ ¬ c'.phase.Handshaking := by
  cases rule_of_step h with
  | acknowledged hc => exact ⟨_, getElem?_updated hc, fun hf => hf⟩
  | _ => exact absurd hlt (Nat.lt_irrefl _)

/-- A handshake gets its guard: the old control channel is dropped. -/
theorem locking_of_lock {i : Nat} (h : s.step E (.lock i) = some t) :
    ∃ c d key cfg, s.conns[i]? = some c ∧ c.phase = .locking d key cfg ∧
      t.channels = (s.channels.remove1 d).2 := by
  cases rule_of_step h with
  | locked hc hp => exact ⟨_, _, _, _, hc, hp, rfl⟩

/-- Nothing is inserted or dropped for a data channel. -/
theorem channels_of_find {i : Nat} (h : s.step E (.find i) = some t) :
    t.channels = s.channels := by
  cases rule_of_step h with
  | absent => rfl
  | found => rfl

/-- A handshake that has its guard gets none again. -/
theorem lookup_locks (h : s.step E a = some t) {j : Nat} {c : Conn β} {d key : Digest β}
    {cfg : ServerServiceConfig (List β)} (hc : s.conns[j]? = some c)
    (hp : c.phase = .sendingAck d key cfg)
    (m : HashMap Nat (MultiMap (Digest β) (Digest β) Nat)) :
    (s.locks m a).lookup j = m.lookup j := by
  cases a with
  | lock i =>
      by_cases hj : j = i
      · exfalso
        rcases locking_of_lock h with ⟨c0, d0, key0, cfg0, hc0, hp0, _⟩
        rw [← hj, hc, Option.some.injEq] at hc0
        rw [← hc0, hp] at hp0
        simp only [reduceCtorEq] at hp0
      · exact AList.lookup_insert_ne hj
  | _ => rfl

end Server

namespace Sessions

variable [DecidableEq β] {E : Server.Env β} {g g' : Sessions β} {a : Server.Action β}

/-- A connection that stays at its await stays on record. -/
theorem phaseTraced_kept (ht : g.Traced E) (h : g.step E a = some g') {j : Nat}
    {c c' : Server.Conn β} (hc : g.server.conns[j]? = some c)
    (hc' : g'.server.conns[j]? = some c') (hsame : c'.phase = c.phase) :
    g'.PhaseTraced E j c'.phase := by
  rcases server_of_step h with ⟨hstep, hconcats, hbefore, _, hsought⟩
  have hold := ht.conn j c hc
  rw [hsame]
  cases hp : c.phase with
  | sendingHello d nonce =>
      rw [hp] at hold
      exact hold
  | lookingUp d nonce =>
      rw [hp] at hold
      exact hold
  -- The strings that were hashed are only ever added to.
  | readingAuth d concat cfg =>
      rw [hp] at hold
      rcases hold with ⟨token, htoken, hconcat, hin⟩
      refine ⟨token, htoken, hconcat, ?_⟩
      rw [hconcats]
      exact List.mem_append_left _ hin
  | locking d key cfg =>
      rw [hp] at hold
      exact sessionKey_of_step h hold
  -- The write guard keeps the map as it was when the old handle was dropped.
  | sendingAck d key cfg =>
      rw [hp] at hold
      rcases hold with ⟨hkey, m, hm, hitems⟩
      refine ⟨sessionKey_of_step h hkey, m, ?_, fun y => ?_⟩
      · rw [hbefore, Server.lookup_locks hstep hc hp]
        exact hm
      · rw [Server.channels_of_guard ht.guarded hstep hc (by rw [hp]; rfl) hc'
          (by rw [hsame, hp]; rfl)]
        exact hitems y
  | finding nonce =>
      rw [hp] at hold
      simp only [PhaseTraced, hsought]
      rcases Server.lookup_seeks (t := g'.server) (a := a) g.sought j with
        heq | ⟨c0, n, hc0, hp0, hl⟩
      · rw [heq]
        exact hold
      · rw [hc', Option.some.injEq] at hc0
        rw [← hc0, hsame, hp, Server.Phase.finding.injEq] at hp0
        rw [hl, hp0]
  -- The read guard keeps the entry that was found.
  | delivering n =>
      rw [hp] at hold
      rcases hold with ⟨nonce, hl, d, hin⟩
      refine ⟨nonce, ?_, d, ?_⟩
      · rw [hsought]
        rcases Server.lookup_seeks (t := g'.server) (a := a) g.sought j with
          heq | ⟨c0, n0, hc0, hp0, _⟩
        · rw [heq]
          exact hl
        · rw [hc', Option.some.injEq] at hc0
          rw [← hc0, hsame, hp] at hp0
          simp only [reduceCtorEq] at hp0
      · rw [Server.channels_of_guard ht.guarded hstep hc (by rw [hp]; rfl) hc'
          (by rw [hsame, hp]; rfl)]
        exact hin
  | _ => trivial

/-- A connection that moves is put on record. -/
theorem phaseTraced_of_step (ht : g.Traced E) (h : g.step E a = some g') {j : Nat}
    {c' : Server.Conn β} (hc' : g'.server.conns[j]? = some c') : g'.PhaseTraced E j c'.phase := by
  rcases server_of_step h with ⟨hstep, hconcats, hbefore, _, hsought⟩
  rcases Server.conn_of_step hstep hc' with ⟨c, hc, hmove⟩ | hnew
  · have hold := ht.conn j c hc
    cases hmove with
    | same | arrived | crashed | commanded | relayed =>
        exact phaseTraced_kept ht h hc hc' rfl
    | ended | unknown | mismatched | acknowledged | delivered | taken | started => trivial
    | greeted => exact rfl
    -- The nonce of a data channel is the one it came with.
    | @sought _ _ v nonce rest hp hread =>
        simp only [PhaseTraced, hsought, Server.seeks, hc']
        exact AList.lookup_insert _
    | answered hp =>
        rw [hp] at hold
        exact hold
    -- What will be hashed is put on record with the lookup.
    | @known _ _ d nonce cfg token hp hcfg htoken =>
        rw [hp] at hold
        have hnonce : nonce = E.nonce j := hold
        refine ⟨token, htoken, by rw [hnonce], ?_⟩
        rw [hconcats]
        simp only [Server.digests, hc']
        exact List.mem_append_right _ (List.mem_singleton.mpr rfl)
    | matched hp hread heq =>
        rw [hp] at hold
        rcases hold with ⟨token, htoken, hconcat, hin⟩
        refine sessionKey_of_step h ⟨token, htoken, ?_, by rw [hconcat]⟩
        rw [← hconcat]
        exact hin
    -- The map is put on record as the handshake finds it.
    | @locked _ _ d key cfg hp =>
        rw [hp] at hold
        rcases Server.locking_of_lock hstep with ⟨c0, d0, key0, cfg0, hc0, hp0, hch⟩
        rw [hc, Option.some.injEq] at hc0
        rw [← hc0, hp, Server.Phase.locking.injEq] at hp0
        refine ⟨sessionKey_of_step h hold, g.server.channels, ?_, fun y => ?_⟩
        · rw [hbefore]
          exact AList.lookup_insert _
        · rw [hch, ← hp0.1]
          exact MultiMap.mem_remove1_iff
    -- The handle that is found is in the map under this nonce.
    | @found _ _ nonce n hp hget =>
        rw [hp] at hold
        rcases MultiMap.get2_eq_some_iff.mp hget with ⟨d, hin⟩
        refine ⟨nonce, ?_, d, ?_⟩
        · rw [hsought]
          exact hold
        · rw [Server.channels_of_find hstep]
          exact hin
  · rw [hnew]
    trivial

/-- The control channels of the next state are on record. -/
theorem item_of_step (ht : g.Traced E) (h : g.step E a = some g')
    {y : Digest β × Digest β × Nat} (hy : y ∈ g'.server.channels.items) :
    ∃ (x : Server.Handle β) (j : Nat), g'.server.handles[y.2.2]? = some x ∧ x.owner = y.1 ∧
      g'.made.lookup y.2.2 = some j ∧ g'.SessionKey E j x.service y.2.1 := by
  rcases server_of_step h with ⟨hstep, _, _, hmade, _⟩
  rcases Server.channel_of_step hstep hy with hold | ⟨i, c, cfg, ha, hc, hp, hn, hins⟩
  · rcases ht.item y hold with ⟨x, j, hx, howner, hj, hkey⟩
    rcases Server.handle_survives hstep hx with ⟨x', hx', hsame⟩
    rw [Prod.mk.injEq] at hsame
    refine ⟨x', j, hx', hsame.1.trans howner, ?_, ?_⟩
    · rw [hmade, Server.lookup_makes g.made (List.getElem?_eq_some_iff.mp hx).fst]
      exact hj
    · rw [hsame.2]
      exact sessionKey_of_step h hkey
  · have hold := ht.conn i c hc
    rw [hp] at hold
    refine ⟨{ owner := y.1, service := cfg, queue := [], pooling := true }, i, ?_, rfl, ?_,
      sessionKey_of_step h hold.1⟩
    · rw [hins.handles, hn, List.getElem?_concat_length]
    · have hlt : g.server.handles.length < g'.server.handles.length := by
        rw [hins.handles, List.length_append, List.length_singleton]
        omega
      rw [hmade, ha, hn]
      simp only [Server.makes, if_pos hlt]
      exact AList.lookup_insert _

/-- The handshakes that made handles are over. -/
theorem done_of_step (ht : g.Traced E) (h : g.step E a = some g') {n j : Nat}
    (hj : g'.made.lookup n = some j) : ∃ c : Server.Conn β, g'.server.conns[j]? = some c ∧
      ¬ c.phase.Handshaking := by
  rcases server_of_step h with ⟨hstep, _, _, hmade, _⟩
  rw [hmade] at hj
  have hkept : g.made.lookup n = some j → ∃ c : Server.Conn β, g'.server.conns[j]? = some c ∧
      ¬ c.phase.Handshaking := by
    intro hold
    rcases ht.done n j hold with ⟨c, hc, hdone⟩
    rcases Server.conn_survives hstep hc with ⟨c', hc', hmove⟩
    exact ⟨c', hc', hmove.done hdone⟩
  cases a with
  | write i =>
      by_cases hlt : g.server.handles.length < g'.server.handles.length
      · simp only [Server.makes, if_pos hlt] at hj
        rcases HashMap.lookup_insert_cases hj with ⟨_, hi⟩ | ⟨_, hold⟩
        · rw [hi]
          exact Server.done_of_made hstep hlt
        · exact hkept hold
      · simp only [Server.makes, if_neg hlt] at hj
        exact hkept hj
  | _ => exact hkept hj

/-- The step lemma: what the server knows stays on record. -/
theorem traced_of_step (ht : g.Traced E) (h : g.step E a = some g') : g'.Traced E where
  guarded := Server.guarded_of_step ht.guarded (server_of_step h).1
  conn := fun _ _ hc' => phaseTraced_of_step ht h hc'
  item := fun _ hy => item_of_step ht h hy
  done := fun _ _ hj => done_of_step ht h hj

/-- A nonce for each of two connections. -/
def twoNonces : Server.Env UInt8 where
  alphabet := plainBytes
  nonce := fun i => if i = 0 then sampleNonce else List.Vector.replicate hashWidthInBytes 7

end Sessions

end Rathole
