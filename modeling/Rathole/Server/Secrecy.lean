import Rathole.Lib.Symbolic
import Rathole.Server.Inversion

/-!
# Service Authentication

What somebody who does not know the token of a service can do to it. The
server runs on symbols: a digest is its preimage, a nonce is made of atoms of
its own for each connection, and what the adversary sends is what it can
compute from what it knows and has seen.

Everything the server writes is made of bytes and nonces, so all that the
adversary ever sees beyond what it knew are nonces. The session key of a
service is the digest of the token followed by a nonce. It has a nonce in it,
so it was not known from the start, and computing it takes the token, for
which nonces are of no help.

## Main definitions

* `Server.Atom`, `Server.symbolicEnv`: The symbols the server runs on.
* `Server.knowledge`: What the adversary knows in a state.
* `Server.SecretToken`: The token of a service cannot be computed.
* `Server.Confined`: The adversary sends what it can compute.
* `Server.SecrecyInv`: The invariant of all runs.

## Theorems

* `session_key_secret`: No session key of the service can be computed.
* `secrecyInv_of_step`: What one step preserves.
* `adversary_excluded`: What the adversary cannot do in any run.
-/

namespace Rathole

open Numbered Symbolic Transition

namespace Server

/-- What symbols are made of: bytes, what is secret from the start, and the
    nonces, symbol by symbol. -/
inductive Atom
  | byte (b : UInt8)
  | secret (n : Nat)
  | nonce (i j : Nat)
deriving DecidableEq

/-- The symbols the server runs on. -/
abbrev Sym := Symbolic.Symbol Atom

/-- The atoms that are there before the server runs. -/
def Atom.Fixed : Atom → Prop
  | .nonce _ _ => False
  | _ => True

/-- Perfect hashing. A symbol that is no byte may be read as any. -/
def symbolic (value : Sym → UInt8) : Alphabet Sym where
  byte := fun b => .atom (.byte b)
  value := fun x => match x with
    | .atom (.byte b) => b
    | x => value x
  value_byte := fun _ => rfl
  digest := fun xs => ⟨(List.range hashWidthInBytes).map (Symbolic.Symbol.hash xs), by
    rw [List.length_map, List.length_range]⟩

/-- The nonce of a connection: symbols that are in no other. -/
def nonceOf (i : Nat) : Digest Sym :=
  ⟨(List.range hashWidthInBytes).map (fun j => .atom (.nonce i j)), by
    rw [List.length_map, List.length_range]⟩

/-- Symbols for the bytes, and symbolic nonces. -/
def symbolicEnv (value : Sym → UInt8) : Env Sym where
  alphabet := symbolic value
  nonce := nonceOf

/-- The bytes, and a set of symbols somebody knows. -/
def withBytes (K : Set Sym) : Set Sym := K ∪ {x | ∃ b, x = .atom (.byte b)}

/-- What the adversary knows: what it knew from the start, and what the server
    has written on its connections. -/
def knowledge (K : Set Sym) (adv : Nat → Prop) (s : Server Sym) : Set Sym :=
  withBytes K ∪ {x | ∃ i c, adv i ∧ s.conns[i]? = some c ∧ x ∈ c.sent}

/-- The token is there from the start, and cannot be computed from `K`. -/
def SecretToken (K : Set Sym) (cfg : ServerServiceConfig (List Sym)) : Prop :=
  ∀ token, cfg.token = some token →
    (∀ x ∈ token, Over Atom.Fixed x) ∧ ¬ ∀ x ∈ token, Derivable (withBytes K) x

/-- What is sent on a connection of the adversary, by it or by a visitor whose
    traffic it is given, is computed from its knowledge, and the service under
    the digest `dS` is never given a token it can compute. `K` is what the
    adversary and those visitors know from the start. -/
def Confined (value : Sym → UInt8) (K : Set Sym) (adv : Nat → Prop) (dS : Digest Sym)
    (s : Server Sym) (a : Action Sym) : Prop :=
  match a with
  | .arrive i chunk => adv i → ∀ x ∈ chunk, Derivable (knowledge K adv s) x
  | .relay i chunk => adv i → ∀ x ∈ chunk, Derivable (knowledge K adv s) x
  | .reload (.add cfg) => (symbolic value).digest cfg.name = dS → SecretToken K cfg
  | _ => True

/-- What can be computed from `K` and all nonces. -/
def Learnable (K : Set Sym) (x : Sym) : Prop :=
  Derivable (withBytes K ∪ randomAtoms Atom.Fixed) x

/-- The session key is made from a token of the service. -/
def OwnKey (value : Sym → UInt8) (K : Set Sym) (key : Digest Sym) : Prop :=
  ∃ cfg token j, SecretToken K cfg ∧ cfg.token = some token ∧
    key = (symbolic value).digest (token ++ (nonceOf j).toList)

section Keys

variable {value : Sym → UInt8} {K : Set Sym}

theorem over_withBytes (hK : ∀ x ∈ K, Over Atom.Fixed x) :
    ∀ x ∈ withBytes K, Over Atom.Fixed x := by
  intro x hx
  rcases hx with hx | ⟨b, hb⟩
  · exact hK x hx
  · rw [hb]
    exact Over.atom trivial

theorem learnable_byte (b : UInt8) : Learnable K ((symbolic value).byte b) :=
  Derivable.known (Or.inl (Or.inr ⟨b, rfl⟩))

theorem learnable_nonce {i : Nat} {x : Sym} (hx : x ∈ (nonceOf i).toList) : Learnable K x := by
  rcases List.mem_map.mp hx with ⟨j, _, hj⟩
  exact Derivable.known (Or.inr ⟨.nonce i j, hj.symm, fun h => h⟩)

/-- A session key of the service cannot be computed, whatever nonces are
    known. -/
theorem session_key_secret (hK : ∀ x ∈ K, Over Atom.Fixed x) {key : Digest Sym}
    (hkey : OwnKey value K key) : ¬ ∀ x ∈ key.toList, Learnable K x := by
  rcases hkey with ⟨cfg, token, j, hsecret, htoken, hkey⟩
  rcases hsecret token htoken with ⟨hover, hnot⟩
  intro hall
  -- The first symbol of the digest, and the first of the nonce in it.
  have hin : Symbolic.Symbol.hash (token ++ (nonceOf j).toList) 0 ∈ key.toList := by
    rw [hkey]
    exact List.mem_map_of_mem (List.mem_range.mpr (by decide))
  have hnonce : Symbolic.Symbol.atom (Atom.nonce j 0) ∈ (nonceOf j).toList :=
    List.mem_map_of_mem (f := fun j' => Symbolic.Symbol.atom (Atom.nonce j j'))
      (List.mem_range.mpr (by decide))
  have hfresh : ¬ Over Atom.Fixed (.hash (token ++ (nonceOf j).toList) 0) := by
    rw [over_hash_iff]
    intro h
    exact over_atom_iff.mp (h _ (List.mem_append_right _ hnonce))
  have hpre := Derivable.preimage (over_withBytes hK) (hall _ hin) hfresh
  apply hnot
  intro x hx
  exact Derivable.without (hpre x (List.mem_append_left _ hx)) (hover x hx)

end Keys

/-! ### The invariant -/

section Invariant

/-- What holds of a connection of number `i` in each phase: the nonce is its
    own, the key is made from the token that was cloned, and a connection of
    the adversary has got neither past the auth of the service nor to a handle
    of it. -/
def PhaseInv (value : Sym → UInt8) (K : Set Sym) (adv : Nat → Prop) (dS : Digest Sym)
    (s : Server Sym) (i : Nat) : Phase Sym → Prop
  | .sendingHello _ nonce => nonce = nonceOf i
  | .lookingUp _ nonce => nonce = nonceOf i
  | .readingAuth d concat cfg =>
      (∃ token, cfg.token = some token ∧ concat = token ++ (nonceOf i).toList) ∧
        (d = dS → SecretToken K cfg)
  | .locking d key _ => d = dS → OwnKey value K key ∧ ¬ adv i
  | .sendingAck d key _ => d = dS → OwnKey value K key ∧ ¬ adv i
  | .finding nonce => adv i → ∀ x ∈ nonce.toList, Learnable K x
  | .delivering h => ∃ x, s.handles[h]? = some x ∧ (adv i → x.owner ≠ dS)
  | _ => True

/-- The invariant: the adversary has learned and sent nothing but what nonces
    help to compute, the service has had secret tokens only, its control
    channels have keys made from them, and no data channel of the adversary is
    in a queue of the service. -/
structure SecrecyInv (value : Sym → UInt8) (K : Set Sym) (adv : Nat → Prop) (dS : Digest Sym)
    (s : Server Sym) : Prop where
  inbox : ∀ (i : Nat) (c : Conn Sym), s.conns[i]? = some c → adv i → ∀ x ∈ c.inbox, Learnable K x
  sent : ∀ (i : Nat) (c : Conn Sym), s.conns[i]? = some c → adv i → ∀ x ∈ c.sent, Learnable K x
  phases : ∀ (i : Nat) (c : Conn Sym), s.conns[i]? = some c → PhaseInv value K adv dS s i c.phase
  services : ∀ cfg, s.services.lookup dS = some cfg → SecretToken K cfg
  changing : ∀ cfg, s.main = .changing (.add cfg) → (symbolic value).digest cfg.name = dS →
    SecretToken K cfg
  channels : ∀ y ∈ s.channels.items, (∃ x, s.handles[y.2.2]? = some x ∧ x.owner = y.1) ∧
    (y.1 = dS → OwnKey value K y.2.1)
  queues : ∀ (n : Nat) (x : Handle Sym), s.handles[n]? = some x → x.owner = dS →
    ∀ i ∈ x.queue, ¬ adv i

variable {value : Sym → UInt8} {K : Set Sym} {adv : Nat → Prop} {dS : Digest Sym}
variable {s t : Server Sym} {a : Action Sym} {i : Nat} {c c' : Conn Sym}

theorem secrecyInv_initial {services : HashMap (Digest Sym) (ServerServiceConfig (List Sym))}
    (hS : ∀ cfg, services.lookup dS = some cfg → SecretToken K cfg) :
    SecrecyInv value K adv dS (initial services) where
  inbox := fun i c hc => by simp only [initial, List.getElem?_nil, reduceCtorEq] at hc
  sent := fun i c hc => by simp only [initial, List.getElem?_nil, reduceCtorEq] at hc
  phases := fun i c hc => by simp only [initial, List.getElem?_nil, reduceCtorEq] at hc
  services := hS
  changing := fun cfg hm => by simp only [initial, reduceCtorEq] at hm
  channels := fun y hy => absurd hy List.not_mem_nil
  queues := fun n x hx => by simp only [initial, List.getElem?_nil, reduceCtorEq] at hx

/-- All the adversary knows is what nonces help to compute. -/
theorem learnable_of_knowledge (hi : SecrecyInv value K adv dS s) {x : Sym}
    (hx : Derivable (knowledge K adv s) x) : Learnable K x := by
  refine Derivable.cut (fun y hy => ?_) hx
  rcases hy with hy | ⟨i, c, hadv, hc, hin⟩
  · exact Derivable.known (Or.inl hy)
  · exact hi.sent i c hc hadv y hin

/-- What the server writes during a handshake consists of bytes and nonces. -/
theorem learnable_output (hp : PhaseInv value K adv dS s i c.phase) {x : Sym}
    (hx : x ∈ c.phase.output (symbolicEnv value)) : Learnable K x := by
  have htag : ∀ n, x ∈ (symbolic value).u32 n → Learnable K x := by
    intro n hin
    rcases mem_of_u32 (symbolic value) hin with ⟨b, hb⟩
    rw [hb]
    exact learnable_byte b
  cases hphase : c.phase with
  | sendingHello d nonce =>
      rw [hphase] at hp hx
      have hserial : x ∈ (Hello.controlChannelHello currentProtoVersion nonce).serialize
          (symbolic value) := hx
      rcases mem_of_serialize_hello (symbolic value) hserial with ⟨b, hb⟩ | hin
      · rw [hb]
        exact learnable_byte b
      · have hnonce : nonce = nonceOf i := hp
        rw [hnonce] at hin
        exact learnable_nonce hin
  | refusing =>
      rw [hphase] at hx
      exact htag _ hx
  | rejecting =>
      rw [hphase] at hx
      exact htag _ hx
  | sendingAck d key cfg =>
      rw [hphase] at hx
      exact htag _ hx
  | starting h cmd =>
      rw [hphase] at hx
      exact htag _ hx
  | _ =>
      rw [hphase] at hx
      exact absurd hx List.not_mem_nil

/-- What a connection of the adversary has sent and been sent stays within
    what nonces help to compute. -/
theorem learnable_of_move (hi : SecrecyInv value K adv dS s)
    (hok : Confined value K adv dS s a) (hm : ConnMove (symbolicEnv value) s a i c c')
    (hc : s.conns[i]? = some c) (hadv : adv i) :
    (∀ x ∈ c'.inbox, Learnable K x) ∧ ∀ x ∈ c'.sent, Learnable K x := by
  have hin := hi.inbox i c hc hadv
  have hsent := hi.sent i c hc hadv
  have hout : ∀ x ∈ c.sent ++ c.phase.output (symbolicEnv value), Learnable K x := by
    intro x hx
    rcases List.mem_append.mp hx with hx | hx
    · exact hsent x hx
    · exact learnable_output (hi.phases i c hc) hx
  cases hm with
  | same => exact ⟨hin, hsent⟩
  | arrived _ chunk =>
      refine ⟨fun x hx => ?_, hsent⟩
      rcases List.mem_append.mp hx with hx | hx
      · exact hin x hx
      · exact learnable_of_knowledge hi (hok hadv x hx)
  | ended n hrest =>
      refine ⟨fun x hx => hin x (hrest x hx), fun x hx => ?_⟩
      rcases List.mem_append.mp hx with hx | hx
      · exact hsent x hx
      · exact hout x (List.mem_append_right _ (List.mem_of_mem_take hx))
  | greeted _ hread =>
      exact ⟨fun x hx => hin x ((mem_of_readHello _ hread).1 x hx), hsent⟩
  | sought _ hread =>
      exact ⟨fun x hx => hin x ((mem_of_readHello _ hread).1 x hx), hsent⟩
  | answered => exact ⟨hin, hout⟩
  | unknown => exact ⟨hin, hsent⟩
  | known => exact ⟨hin, hsent⟩
  | matched _ hread _ =>
      exact ⟨fun x hx => hin x ((mem_of_readAuth _ hread).1 x hx), hsent⟩
  | mismatched _ hread _ =>
      exact ⟨fun x hx => hin x ((mem_of_readAuth _ hread).1 x hx), hsent⟩
  | locked => exact ⟨hin, hsent⟩
  | acknowledged => exact ⟨hin, hout⟩
  | crashed => exact ⟨hin, hout⟩
  | found => exact ⟨hin, hsent⟩
  | delivered => exact ⟨hin, hsent⟩
  | commanded _ cmd =>
      refine ⟨hin, fun x hx => ?_⟩
      rcases List.mem_append.mp hx with hx | hx
      · exact hsent x hx
      · rcases mem_of_u32 (symbolic value) hx with ⟨b, hb⟩
        rw [hb]
        exact learnable_byte b
  | taken => exact ⟨hin, hsent⟩
  | started => exact ⟨hin, hout⟩
  | relayed _ chunk =>
      refine ⟨hin, fun x hx => ?_⟩
      rcases List.mem_append.mp hx with hx | hx
      · exact hsent x hx
      · exact learnable_of_knowledge hi (hok hadv x hx)

/-- A connection in a new phase meets the invariant of that phase. -/
theorem phaseInv_of_move (hK : ∀ x ∈ K, Over Atom.Fixed x) (hi : SecrecyInv value K adv dS s)
    (hm : ConnMove (symbolicEnv value) s a i c c') (hc : s.conns[i]? = some c) :
    PhaseInv value K adv dS s i c'.phase := by
  have hp := hi.phases i c hc
  cases hm with
  | same => exact hp
  | arrived => exact hp
  | ended => trivial
  | greeted => rfl
  | sought _ hread =>
      intro hadv x hx
      exact hi.inbox i c hc hadv x ((mem_of_readHello _ hread).2 _ rfl x hx)
  | answered hphase =>
      rw [hphase] at hp
      exact hp
  | unknown => trivial
  | @known _ _ d nonce cfg token hphase hcfg htoken =>
      rw [hphase] at hp
      have hnonce : nonce = nonceOf i := hp
      refine ⟨⟨token, htoken, by rw [hnonce]⟩, fun hd => ?_⟩
      rw [hd] at hcfg
      exact hi.services cfg hcfg
  | @matched _ _ d concat cfg auth rest hphase hread heq =>
      rw [hphase] at hp
      rcases hp with ⟨⟨token, htoken, hconcat⟩, hsecret⟩
      intro hd
      have hkey : OwnKey value K ((symbolic value).digest concat) :=
        ⟨cfg, token, i, hsecret hd, htoken, by rw [hconcat]⟩
      refine ⟨hkey, fun hadv => ?_⟩
      -- The auth was read from the inbox, so it could be computed.
      have heq' : (symbolic value).digest concat = auth.digest := heq
      apply session_key_secret hK hkey
      rw [heq']
      intro x hx
      exact hi.inbox i c hc hadv x ((mem_of_readAuth _ hread).2 _ rfl x hx)
  | mismatched => trivial
  | locked hphase =>
      rw [hphase] at hp
      exact hp
  | acknowledged => trivial
  | crashed => exact hp
  | @found _ _ nonce n hphase hget =>
      rw [hphase] at hp
      rcases MultiMap.get2_eq_some_iff.mp hget with ⟨d, hin⟩
      rcases (hi.channels _ hin).1 with ⟨x, hx, howner⟩
      refine ⟨x, hx, fun hadv hd => ?_⟩
      -- The key that was found was computed by the adversary.
      exact session_key_secret hK ((hi.channels _ hin).2 (howner.symm.trans hd)) (hp hadv)
  | delivered => trivial
  | commanded => exact hp
  | taken => trivial
  | started => trivial
  | relayed => exact hp

/-- What holds of a phase still holds when handles were added. -/
theorem phaseInv_survives (h : s.step (symbolicEnv value) a = some t) {p : Phase Sym}
    (hp : PhaseInv value K adv dS s i p) : PhaseInv value K adv dS t i p := by
  cases p with
  | delivering n =>
      rcases hp with ⟨x, hx, hne⟩
      rcases handle_survives h hx with ⟨x', hx', hsame⟩
      rw [Prod.mk.injEq] at hsame
      exact ⟨x', hx', fun hadv => by rw [hsame.1]; exact hne hadv⟩
  | _ => exact hp

/-- The services part of the step lemma. -/
theorem services_of_step (hi : SecrecyInv value K adv dS s)
    (h : s.step (symbolicEnv value) a = some t) :
    ∀ cfg, t.services.lookup dS = some cfg → SecretToken K cfg := by
  intro cfg hcfg
  rcases lookup_of_step h hcfg with hold | ⟨hmain, hd⟩
  · exact hi.services cfg hold
  · exact hi.changing cfg hmain hd.symm

/-- A change at work has just come in, or was at work before. -/
theorem changing_of_step (hi : SecrecyInv value K adv dS s) (hok : Confined value K adv dS s a)
    (h : s.step (symbolicEnv value) a = some t) :
    ∀ cfg, t.main = .changing (.add cfg) → (symbolic value).digest cfg.name = dS →
      SecretToken K cfg := by
  intro cfg hmain hd
  rcases main_of_step h hmain with hold | hnew
  · exact hi.changing cfg hold hd
  · rw [hnew] at hok
    exact hok hd

/-- A control channel of the service has a key made from its token. -/
theorem channels_of_step (hi : SecrecyInv value K adv dS s)
    (h : s.step (symbolicEnv value) a = some t) :
    ∀ y ∈ t.channels.items, (∃ x, t.handles[y.2.2]? = some x ∧ x.owner = y.1) ∧
      (y.1 = dS → OwnKey value K y.2.1) := by
  intro y hy
  rcases channel_of_step h hy with hold | ⟨i, c, cfg, _, hc, hp, hn, hins⟩
  · rcases hi.channels y hold with ⟨⟨x, hx, howner⟩, hkey⟩
    rcases handle_survives h hx with ⟨x', hx', hsame⟩
    rw [Prod.mk.injEq] at hsame
    exact ⟨⟨x', hx', hsame.1.trans howner⟩, hkey⟩
  · have hphase := hi.phases i c hc
    rw [hp] at hphase
    refine ⟨⟨{ owner := y.1, service := cfg, queue := [], pooling := true }, ?_, rfl⟩,
      fun hd => (hphase hd).1⟩
    rw [hins.handles, hn, List.getElem?_concat_length]

/-- Into a queue comes only a connection that has found the handle. -/
theorem queues_of_step (hi : SecrecyInv value K adv dS s)
    (h : s.step (symbolicEnv value) a = some t) :
    ∀ (n : Nat) (x : Handle Sym), t.handles[n]? = some x → x.owner = dS →
      ∀ i ∈ x.queue, ¬ adv i := by
  have hkeep : t.handles = s.handles → ∀ (n : Nat) (x : Handle Sym), t.handles[n]? = some x →
      x.owner = dS → ∀ i ∈ x.queue, ¬ adv i := by
    intro hh
    rw [hh]
    exact hi.queues
  cases (act_of_step h).1 with
  | still hstill => exact hkeep hstill.handles
  | @requeued _ m y queue pooling hq hmem =>
      rw [hq.handles]
      refine forall_set (P := fun _ (x : Handle Sym) => x.owner = dS → ∀ i ∈ x.queue, ¬ adv i)
        hi.queues ?_
      intro howner i hin hadv
      rcases hmem i hin with hold | ⟨c, hc, hp⟩
      · exact hi.queues m y hq.get howner i hold hadv
      · have hphase := hi.phases i c hc
        rw [hp] at hphase
        rcases hphase with ⟨x, hx, hne⟩
        rw [hq.get, Option.some.injEq] at hx
        rw [← hx] at hne
        exact hne hadv howner
  | locked _ _ _ _ hh _ => exact hkeep hh
  | inserted _ _ hins =>
      rw [hins.handles]
      exact forall_append (P := fun _ (x : Handle Sym) => x.owner = dS → ∀ i ∈ x.queue, ¬ adv i)
        hi.queues
        (fun _ i hin => absurd hin List.not_mem_nil)
  | main _ _ _ _ _ hh => exact hkeep hh
  | applied _ _ _ _ hh => exact hkeep hh
  | dropped _ _ _ _ hh => exact hkeep hh
  | cleared _ _ _ _ hh => exact hkeep hh

/-- The step lemma. -/
theorem secrecyInv_of_step (hK : ∀ x ∈ K, Over Atom.Fixed x) (hi : SecrecyInv value K adv dS s)
    (hok : Confined value K adv dS s a) (h : s.step (symbolicEnv value) a = some t) :
    SecrecyInv value K adv dS t where
  inbox := by
    intro i c hc hadv x hx
    rcases conn_of_step h hc with ⟨c0, hc0, hm⟩ | hnew
    · exact (learnable_of_move hi hok hm hc0 hadv).1 x hx
    · rw [hnew] at hx
      exact absurd hx List.not_mem_nil
  sent := by
    intro i c hc hadv x hx
    rcases conn_of_step h hc with ⟨c0, hc0, hm⟩ | hnew
    · exact (learnable_of_move hi hok hm hc0 hadv).2 x hx
    · rw [hnew] at hx
      exact absurd hx List.not_mem_nil
  phases := by
    intro i c hc
    rcases conn_of_step h hc with ⟨c0, hc0, hm⟩ | hnew
    · exact phaseInv_survives h (phaseInv_of_move hK hi hm hc0)
    · rw [hnew]
      trivial
  services := services_of_step hi h
  changing := changing_of_step hi hok h
  channels := channels_of_step hi h
  queues := queues_of_step hi h

/-! ### What the adversary cannot do -/

/-- A step of a connection of the adversary leaves the control channel of the
    service as it is. -/
theorem channels_kept (hi : SecrecyInv value K adv dS s) (hadv : adv i) (ha : a.conn = some i)
    (h : s.step (symbolicEnv value) a = some t) (key : Digest Sym) (n : Nat) :
    (dS, key, n) ∈ t.channels.items ↔ (dS, key, n) ∈ s.channels.items := by
  have hkeep : t.channels = s.channels →
      ((dS, key, n) ∈ t.channels.items ↔ (dS, key, n) ∈ s.channels.items) := by
    intro hch
    rw [hch]
  cases (act_of_step h).1 with
  | still hstill => exact hkeep hstill.channels
  | requeued hq _ => exact hkeep hq.channels
  | @locked j c d key' cfg hc hp hch _ _ _ =>
      -- The adversary was let in for another service.
      rw [Action.conn, Option.some.injEq] at ha
      rw [ha] at hc
      have hphase := hi.phases i c hc
      rw [hp] at hphase
      have hne : dS ≠ d := fun hd => (hphase hd.symm).2 hadv
      rw [hch, MultiMap.mem_remove1_iff]
      exact ⟨fun hin => hin.1, fun hin => ⟨hin, hne⟩⟩
  | @inserted j c d key' cfg hc hp hins =>
      rw [Action.conn, Option.some.injEq] at ha
      rw [ha] at hc
      have hphase := hi.phases i c hc
      rw [hp] at hphase
      have hne : dS ≠ d := fun hd => (hphase hd.symm).2 hadv
      rcases hins.channels with hok | hsame
      · rw [MultiMap.mem_insert_iff hok]
        constructor
        · intro hor
          rcases hor with hnew | hold
          · exact absurd (Prod.mk.inj hnew).1 hne
          · exact hold
        · exact Or.inr
      · exact hkeep hsame
  | main _ _ _ _ hch _ => exact hkeep hch
  | applied _ _ _ hch _ => exact hkeep hch
  | dropped => simp only [Action.conn, reduceCtorEq] at ha
  | cleared => simp only [Action.conn, reduceCtorEq] at ha

/-- In no run does a connection of the adversary insert, replace or remove the
    control channel of the service under `dS`, and in no state is a data
    channel of the adversary in the queue of a handle of the service. -/
theorem adversary_excluded (value : Sym → UInt8) (K : Set Sym) (hK : ∀ x ∈ K, Over Atom.Fixed x)
    (adv : Nat → Prop) (dS : Digest Sym)
    (services : HashMap (Digest Sym) (ServerServiceConfig (List Sym)))
    (hS : ∀ cfg, services.lookup dS = some cfg → SecretToken K cfg) (s : Server Sym)
    (hr : Reaches (step (symbolicEnv value)) (Confined value K adv dS) (initial services) s) :
    (∀ a t i, s.step (symbolicEnv value) a = some t → a.conn = some i → adv i →
      ∀ key n, (dS, key, n) ∈ t.channels.items ↔ (dS, key, n) ∈ s.channels.items) ∧
    ∀ (n : Nat) (x : Handle Sym), s.handles[n]? = some x → x.owner = dS →
      ∀ i ∈ x.queue, ¬ adv i := by
  have hinv : SecrecyInv value K adv dS s :=
    hr.invariant (fun _ _ _ hi hok hst => secrecyInv_of_step hK hi hok hst)
      (secrecyInv_initial hS)
  refine ⟨fun a t i hst ha hadv key n => ?_, hinv.queues⟩
  exact channels_kept hinv hadv ha hst key n

end Invariant

/-! ### A run with an adversary -/

/-- A service whose token is one secret symbol. -/
def secretService : ServerServiceConfig (List Sym) where
  serviceType := .tcp
  name := [.atom (.byte 115)]
  bindAddr := "0.0.0.0:2222"
  token := some [.atom (.secret 0)]
  nodelay := none

/-- Symbols that are no bytes are read as zeros. -/
def sampleAlphabet : Alphabet Sym := symbolic (fun _ => 0)

/-- One service with a secret token. -/
def secretServices : HashMap (Digest Sym) (ServerServiceConfig (List Sym)) :=
  (∅ : HashMap (Digest Sym) (ServerServiceConfig (List Sym))).insert
    (sampleAlphabet.digest secretService.name) secretService

/-- The key of the client that knows the token, on connection 0. -/
def secretKey : Digest Sym := sampleAlphabet.digest (.atom (.secret 0) :: (nonceOf 0).toList)

/-- The client of the service is let in on connection 0. On connection 1 the
    adversary asks for the same service and guesses. -/
def guessedAuth : List (Action Sym) :=
  [.accept,
    .arrive 0 ((Hello.controlChannelHello currentProtoVersion
      (sampleAlphabet.digest secretService.name)).serialize sampleAlphabet),
    .read 0, .write 0, .lookup 0, .arrive 0 (Auth.mk secretKey).serialize, .read 0, .lock 0,
    .write 0,
    .accept,
    .arrive 1 ((Hello.controlChannelHello currentProtoVersion
      (sampleAlphabet.digest secretService.name)).serialize sampleAlphabet),
    .read 1, .write 1, .lookup 1,
    .arrive 1 (List.replicate hashWidthInBytes (sampleAlphabet.byte 7)), .read 1, .write 1]

theorem secretService_secret : SecretToken ∅ secretService := by
  intro token htoken
  rw [secretService, Option.some.injEq] at htoken
  rw [← htoken]
  refine ⟨fun x hx => ?_, fun hall => ?_⟩
  · rw [List.mem_singleton.mp hx]
    exact Over.atom trivial
  · have hd := hall _ (List.mem_singleton.mpr rfl)
    cases hd with
    | known hin =>
        rcases hin with hin | ⟨b, hb⟩
        · exact hin
        · simp only [Symbol.atom.injEq, reduceCtorEq] at hb

/-- The adversary of the run sends bytes and the digest of bytes. -/
theorem guessedAuth_confined (s : Server Sym) : ∀ a ∈ guessedAuth,
    Confined (fun _ => 0) ∅ (fun i => i = 1) (sampleAlphabet.digest secretService.name) s a := by
  have hbyte : ∀ b, Derivable (knowledge ∅ (fun i => i = 1) s) (sampleAlphabet.byte b) :=
    fun b => Derivable.known (Or.inl (Or.inr ⟨b, rfl⟩))
  have hname : ∀ x ∈ (sampleAlphabet.digest secretService.name).toList,
      Derivable (knowledge ∅ (fun i => i = 1) s) x := by
    intro x hx
    rcases List.mem_map.mp hx with ⟨j, _, hj⟩
    rw [← hj]
    refine Derivable.hash j (fun y hy => ?_)
    rw [List.mem_singleton.mp hy]
    exact hbyte 115
  intro a ha
  simp only [guessedAuth, List.mem_cons, List.not_mem_nil, or_false] at ha
  rcases ha with ha | ha | ha | ha | ha | ha | ha | ha | ha | ha | ha | ha | ha | ha | ha | ha | ha
  all_goals rw [ha]
  all_goals try trivial
  · intro hadv
    exact absurd hadv (by decide)
  · intro hadv
    exact absurd hadv (by decide)
  · intro _ x hx
    rcases mem_of_serialize_hello sampleAlphabet hx with ⟨b, hb⟩ | hin
    · rw [hb]
      exact hbyte b
    · exact hname x hin
  · intro _ x hx
    rw [List.eq_of_mem_replicate hx]
    exact hbyte 7

/-- The control channel of the service is that of its client, and no step of
    the adversary changes that. -/
theorem adversary_excluded_guessing :
    ∃ s, exec (step (symbolicEnv (fun _ => 0))) (initial secretServices) guessedAuth = some s ∧
      s.channels.items = [(sampleAlphabet.digest secretService.name, secretKey, 0)] ∧
      ∀ a t, s.step (symbolicEnv (fun _ => 0)) a = some t → a.conn = some 1 →
        ∀ key n, (sampleAlphabet.digest secretService.name, key, n) ∈ t.channels.items ↔
          (sampleAlphabet.digest secretService.name, key, n) ∈ s.channels.items := by
  rcases hrun : exec (step (symbolicEnv (fun _ => 0))) (initial secretServices) guessedAuth
    with _ | s
  · exact absurd hrun (by decide +kernel)
  · have hchannels : (exec (step (symbolicEnv (fun _ => 0))) (initial secretServices)
        guessedAuth).map (fun s => s.channels.items) =
        some [(sampleAlphabet.digest secretService.name, secretKey, 0)] := by decide +kernel
    rw [hrun, Option.map_some, Option.some.injEq] at hchannels
    have hS : ∀ cfg, secretServices.lookup (sampleAlphabet.digest secretService.name) = some cfg →
        SecretToken ∅ cfg := by
      intro cfg hcfg
      rw [secretServices, AList.lookup_insert, Option.some.injEq] at hcfg
      rw [← hcfg]
      exact secretService_secret
    have hr : Reaches (step (symbolicEnv (fun _ => 0))) (Confined (fun _ => 0) ∅ (fun i => i = 1)
        (sampleAlphabet.digest secretService.name)) (initial secretServices) s :=
      reaches_of_forall guessedAuth _ s (fun a ha s => guessedAuth_confined s a ha) hrun
    refine ⟨s, rfl, hchannels, fun a t hst ha => ?_⟩
    exact (adversary_excluded (fun _ => 0) ∅ (fun x hx => absurd hx (Set.notMem_empty x))
      (fun i => i = 1) _ secretServices hS s hr).1 a t 1 hst ha rfl

end Server

end Rathole
