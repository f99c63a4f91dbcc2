import Rathole.TcpServices.Handles

/-!
# Isolation of TCP Visitors

Nobody gets bytes that are not for it. A visitor that is served has a data
channel for itself, whose client has the session key of the handle the visitor
came to, and on it the bytes go both ways in their order. All other data
channels carry nothing, whether they wait in the pool or have yet to say
hello, and a visitor that waits has got nothing.

This is so in every run: the handles keep what holds of them, and a data
channel only ever goes to the handle of its own session key.

## Main definitions

* `Handle.Isolated`: Who gets what.
* `TcpServices.Kept`: What holds along every run.

## Theorems

* `hello_cases`: A data channel goes where it belongs.
* `handles_of_step`: What a step is to the handles.
* `kept_of_step`: The step lemma.
* `never_crossed`: In every run the bytes of a visitor reach one service, and
  nobody else.
-/

namespace Rathole

open Transition

namespace TcpServices

variable {β : Type}

/-- The bytes of a visitor go to one service, and it gets those of no other. -/
structure Handle.Isolated (H : Handle β) : Prop where
  /-- The clients at the other ends have the session key of the handle. -/
  key : ∀ c ∈ H.dataChannels, c.sessionKey = H.sessionKey
  /-- Nobody shares a data channel, or has two. -/
  oneToOne : ∀ p ∈ H.journal.pool.paired, ∀ q ∈ H.journal.pool.paired, p.1 = q.1 ↔ p.2 = q.2
  /-- Between a visitor and its service nothing is lost, doubled or reordered. -/
  served : ∀ v ch, (v, ch) ∈ H.journal.pool.paired → ∃ w c, H.visitors[v]? = some w ∧
    H.dataChannels[ch]? = some c ∧ c.tunnel.forth.got <+: w.sent ∧ w.got <+: c.tunnel.back.sent
  /-- A service that has got something got it from a visitor that is served. -/
  service : ∀ ch c, H.dataChannels[ch]? = some c → c.tunnel.forth.got ≠ [] →
    ch ∈ H.journal.pool.paired.map Prod.snd
  /-- A visitor that has got something is served. -/
  visitor : ∀ v w, H.visitors[v]? = some w → w.got ≠ [] →
    v ∈ H.journal.pool.paired.map Prod.fst

/-- What holds along every run. -/
structure Kept (S : Setting β) (s : TcpServices β) : Prop where
  handles : ∀ H ∈ s.handles, H.Kept S
  arriving : ∀ c ∈ s.arriving, c.Sound S ∧ c.Untouched

variable {S : Setting β} {s s' : TcpServices β} {h i : Nat}

/-- What the invariant says about who gets what. -/
theorem Handle.Kept.isolated {H : Handle β} (hk : H.Kept S) : H.Isolated where
  key := fun c hc => (hk.sound c hc).2
  oneToOne := Handle.oneToOne_of_kept hk.journal
  served := by
    intro v ch hp
    rcases hk.served v ch hp with ⟨w, c, hw, hc, hserves⟩
    have hsound := (hk.sound c (List.mem_of_getElem? hc)).1.tunnel
    exact ⟨w, c, hw, hc, hserves.sent ▸ hsound.forth.isPrefix, hserves.got ▸ hsound.back.isPrefix⟩
  service := by
    intro ch c hc hne
    by_contra hnot
    have hpre := (hk.sound c (List.mem_of_getElem? hc)).1.tunnel.forth.isPrefix
    rw [(hk.spare ch c hc hnot).1, List.prefix_nil] at hpre
    exact hne hpre
  visitor := by
    intro v w hw hne
    by_contra hnot
    exact hne (hk.waiting v w hw hnot)

/-! ### Runs -/

theorem kept_initial : (initial : TcpServices β).Kept S where
  handles := fun _ h => absurd h List.not_mem_nil
  arriving := fun _ h => absurd h List.not_mem_nil

/-- The handle that is found has the key, and was not dropped. -/
theorem handle?_cases [DecidableEq β] {nonce : Digest β} (hfind : s.handle? nonce = some h) :
    ∃ H, s.handles[h]? = some H ∧ H.sessionKey = nonce ∧ H.journal.pool.dropped = false := by
  rw [handle?, List.findIdx?_eq_some_iff_getElem] at hfind
  rcases hfind with ⟨hlt, hp, _⟩
  rw [decide_eq_true_eq] at hp
  exact ⟨s.handles[h], List.getElem?_eq_getElem hlt, hp⟩

theorem onHandle_cases {f : Handle β → Option (Handle β)} (hstep : s.onHandle h f = some s') :
    ∃ H H', s.handles[h]? = some H ∧ f H = some H' ∧
      s' = { s with handles := s.handles.set h H' } := by
  unfold onHandle at hstep
  rcases hH : s.handles[h]? with _ | H
  · simp only [hH, reduceCtorEq] at hstep
  · simp only [hH] at hstep
    rcases Option.map_eq_some_iff.mp hstep with ⟨H', hH', rfl⟩
    exact ⟨H, H', rfl, hH', rfl⟩

/-- A data channel is passed on to a handle of its own session key, or stays
    where it is. -/
theorem hello_cases [DecidableEq β] (hk : s.Kept S) (hstep : s.hello S i = some s') :
    ∃ c, c.Sound S ∧ c.Untouched ∧ (s' = { s with arriving := s.arriving.set i c } ∨
      ∃ h H H', s.handles[h]? = some H ∧ c.sessionKey = H.sessionKey ∧ H.receive c = some H' ∧
        s' = { handles := s.handles.set h H', arriving := s.arriving.eraseIdx i }) := by
  unfold hello at hstep
  rcases hc : s.arriving[i]? with _ | c
  · simp only [hc, reduceCtorEq] at hstep
  · simp only [hc] at hstep
    rcases hk.arriving c (List.mem_of_getElem? hc) with ⟨hsound, hu⟩
    rcases hread : c.step S (fun nonce => (s.handle? nonce).isSome) .readHello with _ | c'
    · simp only [hread, reduceCtorEq] at hstep
    · have hsaid := DataChannel.said_of_readHello hsound hread
      have hends := DataChannel.sameEnds_of_step hsound readHello_ne_inTunnel hread
      rcases DataChannel.sound_of_step hsound hread with ⟨hsound', hsame⟩
      refine ⟨c', hsound', hu.sameEnds hends, ?_⟩
      simp only [hread, hsaid, Option.bind_some] at hstep
      rcases hfind : s.handle? c.sessionKey with _ | h
      · simp only [hfind, Option.some.injEq] at hstep
        exact Or.inl hstep.symm
      · simp only [hfind] at hstep
        rcases handle?_cases hfind with ⟨H, hH, hkey, _⟩
        rcases onHandle_cases hstep with ⟨K, H', hK, hreceive, rfl⟩
        rw [hH, Option.some.injEq] at hK
        subst hK
        exact Or.inr ⟨h, H, H', hH, hsame.trans hkey.symm, hreceive, rfl⟩

/-- A step brings a handle, moves one, or leaves them alone. -/
theorem handles_of_step [DecidableEq β] {a : Action β} (hk : s.Kept S)
    (hstep : s.step S a = some s') : s'.handles = s.handles ∨
      (∃ sessionKey, s'.handles = s.handles ++ [Handle.fresh S sessionKey]) ∨
      ∃ h H H', s.handles[h]? = some H ∧ H.Move S H' ∧ s'.handles = s.handles.set h H' := by
  cases a with
  | login sessionKey =>
      simp only [step, Option.ite_none_left_eq_some, Option.some.injEq] at hstep
      rw [← hstep.2]
      exact Or.inr (Or.inl ⟨sessionKey, rfl⟩)
  | connect sessionKey serviceType =>
      simp only [step, Option.some.injEq] at hstep
      rw [← hstep]
      exact Or.inl rfl
  | hello i =>
      rcases hello_cases hk hstep with ⟨c, hc, hu, rfl | ⟨h, H, H', hH, hkey, hreceive, rfl⟩⟩
      · exact Or.inl rfl
      · exact Or.inr (Or.inr ⟨h, H, H', hH, Handle.Move.receive hc hu hkey hreceive, rfl⟩)
  | arriving i a =>
      simp only [step, Option.ite_none_right_eq_some] at hstep
      rcases hc : s.arriving[i]? with _ | c
      · simp only [hc, reduceCtorEq, and_false] at hstep
      · simp only [hc] at hstep
        rcases Option.map_eq_some_iff.mp hstep.2 with ⟨c', _, rfl⟩
        exact Or.inl rfl
  | pool h a =>
      rcases onHandle_cases hstep with ⟨H, H', hH, hpool, rfl⟩
      exact Or.inr (Or.inr ⟨h, H, H', hH, Handle.Move.pool hpool, rfl⟩)
  | start h broken =>
      rcases onHandle_cases hstep with ⟨H, H', hH, hstart, rfl⟩
      exact Or.inr (Or.inr ⟨h, H, H', hH, Handle.Move.start hstart, rfl⟩)
  | channel h ch a =>
      simp only [step, Option.ite_none_right_eq_some] at hstep
      rcases onHandle_cases hstep.2 with ⟨H, H', hH, hmove, rfl⟩
      exact Or.inr (Or.inr ⟨h, H, H', hH, Handle.Move.channel hstep.1 hmove, rfl⟩)
  | visitor h v a =>
      rcases onHandle_cases hstep with ⟨H, H', hH, hvisit, rfl⟩
      exact Or.inr (Or.inr ⟨h, H, H', hH, Handle.Move.visit hvisit, rfl⟩)

/-- What holds of new handles, and is kept by what can happen to one, holds of
    all of them after a step. -/
theorem forall_handles_of_step [DecidableEq β] {P : Handle β → Prop} {a : Action β}
    (hk : s.Kept S) (hstep : s.step S a = some s') (hP : ∀ H ∈ s.handles, P H)
    (hfresh : ∀ sessionKey, P (Handle.fresh S sessionKey))
    (hmove : ∀ H H', H.Kept S → P H → H.Move S H' → P H') : ∀ H ∈ s'.handles, P H := by
  intro K hK
  rcases handles_of_step hk hstep with hsame | ⟨sessionKey, hnew⟩ | ⟨h, H, H', hH, hm, hset⟩
  · exact hP K (hsame ▸ hK)
  · rw [hnew] at hK
    rcases List.mem_append.mp hK with hK | hK
    · exact hP K hK
    · rw [List.mem_singleton.mp hK]
      exact hfresh sessionKey
  · rw [hset] at hK
    rcases List.mem_or_eq_of_mem_set hK with hK | hK
    · exact hP K hK
    · have hin := List.mem_of_getElem? hH
      rw [hK]
      exact hmove H H' (hk.handles H hin) (hP H hin) hm

/-- A data channel without a handle has had no visitor. -/
theorem arriving_of_step [DecidableEq β] {a : Action β} (hk : s.Kept S)
    (hstep : s.step S a = some s') : ∀ c ∈ s'.arriving, c.Sound S ∧ c.Untouched := by
  have hset : ∀ {i c}, c.Sound S ∧ c.Untouched →
      ∀ d ∈ s.arriving.set i c, d.Sound S ∧ d.Untouched := by
    intro i c hc d hd
    rcases List.mem_or_eq_of_mem_set hd with hd | hd
    · exact hk.arriving d hd
    · rw [hd]
      exact hc
  cases a with
  | connect sessionKey serviceType =>
      simp only [step, Option.some.injEq] at hstep
      rw [← hstep]
      intro c hc
      rcases List.mem_append.mp hc with hc | hc
      · exact hk.arriving c hc
      · rw [List.mem_singleton.mp hc]
        exact ⟨DataChannel.sound_fresh _ _, DataChannel.untouched_fresh _ _⟩
  | hello i =>
      rcases hello_cases hk hstep with ⟨c, hc, hu, rfl | ⟨_, _, _, _, _, _, rfl⟩⟩
      · exact hset ⟨hc, hu⟩
      · exact fun d hd => hk.arriving d (List.mem_of_mem_eraseIdx hd)
  | arriving i a =>
      simp only [step, Option.ite_none_right_eq_some] at hstep
      rcases hc : s.arriving[i]? with _ | c
      · simp only [hc, reduceCtorEq, and_false] at hstep
      · simp only [hc] at hstep
        rcases hk.arriving c (List.mem_of_getElem? hc) with ⟨hsound, hu⟩
        rcases Option.map_eq_some_iff.mp hstep.2 with ⟨c', hc', rfl⟩
        have hends := DataChannel.sameEnds_of_step hsound (ne_inTunnel_of_inner hstep.1) hc'
        exact hset ⟨(DataChannel.sound_of_step hsound hc').1, hu.sameEnds hends⟩
  | login sessionKey =>
      simp only [step, Option.ite_none_left_eq_some, Option.some.injEq] at hstep
      rw [← hstep.2]
      exact hk.arriving
  | pool | start | visitor =>
      rcases onHandle_cases hstep with ⟨_, _, _, _, rfl⟩
      exact hk.arriving
  | channel h ch a =>
      simp only [step, Option.ite_none_right_eq_some] at hstep
      rcases onHandle_cases hstep.2 with ⟨_, _, _, _, rfl⟩
      exact hk.arriving

/-- The step lemma. -/
theorem kept_of_step [DecidableEq β] {a : Action β} (hk : s.Kept S)
    (hstep : s.step S a = some s') : s'.Kept S where
  handles := forall_handles_of_step hk hstep hk.handles (Handle.kept_fresh S)
    (fun _ _ _ hH hm => Handle.kept_of_move hH hm)
  arriving := arriving_of_step hk hstep

/-- In every run, whoever fails and whatever the clients do, the bytes of a
    visitor reach one service, behind a client with the session key of the
    handle the visitor came to, and in their order, and the visitor gets the
    bytes of this service and of nobody else. Until a data channel has said
    hello its service has got nothing. -/
theorem never_crossed [DecidableEq β] (S : Setting β) (s : TcpServices β)
    (hr : Reaches (step S) (fun _ _ => True) initial s) :
    (∀ H ∈ s.handles, H.Isolated) ∧ ∀ c ∈ s.arriving, c.tunnel.forth.got = [] := by
  have hk : s.Kept S := hr.invariant (fun _ _ _ hk _ hst => kept_of_step hk hst) kept_initial
  refine ⟨fun H hH => (hk.handles H hH).isolated, fun c hc => ?_⟩
  rcases hk.arriving c hc with ⟨hsound, hu⟩
  have hpre := hsound.tunnel.forth.isPrefix
  rw [hu.1, List.prefix_nil] at hpre
  exact hpre

/-- Plain bytes over TCP. -/
def plainTcp : Setting UInt8 where
  alphabet := plainBytes
  transport := .tcp
  heartbeatInterval := 30

/-- The first visitor of a handle sends these bytes before it is served, over
    the first data channel, and the service reads them. -/
def serveFirst (h : Nat) (bs : List UInt8) : List (Action UInt8) :=
  [.pool h (.bind true), .pool h .accept, .visitor h 0 (.sends bs), .pool h .send,
    .pool h .recvVisitor, .pool h (.handle (.deliver 0)), .pool h .recvDataCh, .start h none,
    .channel h 0 .readCmd, .channel h 0 .connect,
    .channel h 0 (.copy .server .forth (.read bs.length)),
    .channel h 0 (.copy .server .forth (.write bs.length)),
    .channel h 0 (.copy .client .forth (.read bs.length)),
    .channel h 0 (.copy .client .forth (.write bs.length)),
    .channel h 0 (.serviceReads bs.length)]

/-- Two services with a data channel each, that of the second says hello
    first. -/
def twoServices : List (Action UInt8) :=
  [.login sampleSessionKey, .login sampleNonce, .connect sampleSessionKey .tcp,
    .connect sampleNonce .tcp, .arriving 1 .sayHello, .arriving 0 .sayHello, .hello 1,
    .hello 0] ++ serveFirst 0 [1, 2] ++ serveFirst 1 [3]

theorem never_crossed_twoServices : ∃ s, exec (step plainTcp) initial twoServices = some s ∧
    (∀ H ∈ s.handles, H.Isolated) ∧
    s.handles.map (fun H => (H.journal.pool.paired, H.visitors.map Visitor.sent)) =
      [([(0, 0)], [[1, 2]]), ([(0, 0)], [[3]])] ∧
    s.handles.map (fun H => H.dataChannels.map (fun c => c.tunnel.forth.got)) =
      [[[1, 2]], [[3]]] := by
  rcases hrun : exec (step plainTcp) initial twoServices with _ | s
  · exact absurd hrun (by decide +kernel)
  · have hsent : (exec (step plainTcp) initial twoServices).map (fun s =>
        s.handles.map (fun H => (H.journal.pool.paired, H.visitors.map Visitor.sent))) =
        some [([(0, 0)], [[1, 2]]), ([(0, 0)], [[3]])] := by
      decide +kernel
    have hgot : (exec (step plainTcp) initial twoServices).map (fun s =>
        s.handles.map (fun H => H.dataChannels.map (fun c => c.tunnel.forth.got))) =
        some [[[1, 2]], [[3]]] := by
      decide +kernel
    rw [hrun, Option.map_some, Option.some.injEq] at hsent hgot
    exact ⟨s, rfl, (never_crossed plainTcp s (reaches_of_exec _ _ _ hrun)).1, hsent, hgot⟩

end TcpServices

end Rathole
