import Rathole.Lib.Numbered
import Rathole.TcpServices.DataChannels

/-!
# What Holds of a Handle

A visitor that is served is at the near ends of the data channel that serves
it, and of no other. A data channel that serves nobody has nothing of anybody.

## Main definitions

* `Handle.Kept`: What holds of a handle along every run.
* `Handle.Move`: What can happen to it.

## Theorems

* `unpaired_of_starting`: What the pool has in hand is not paired yet.
* `kept_pool`, `kept_receive`, `kept_start`, `kept_channel`, `kept_visit`: What
  the actions on a handle preserve.
* `kept_of_move`: The step lemma.
-/

namespace Rathole

open Numbered

namespace TcpServices

variable {β : Type}

namespace Handle

/-- A visitor that is served is on the data channel that serves it. A data
    channel that serves nobody has nothing of anybody, and a visitor that is
    not served has got nothing. -/
structure Kept (S : Setting β) (H : Handle β) : Prop where
  journal : H.journal.Kept
  sound : ∀ c ∈ H.dataChannels, c.Sound S ∧ c.sessionKey = H.sessionKey
  served : ∀ v ch, (v, ch) ∈ H.journal.pool.paired → ∃ w c, H.visitors[v]? = some w ∧
    H.dataChannels[ch]? = some c ∧ c.Serves w
  spare : ∀ ch c, H.dataChannels[ch]? = some c → ch ∉ H.journal.pool.paired.map Prod.snd →
    c.Untouched
  waiting : ∀ v w, H.visitors[v]? = some w → v ∉ H.journal.pool.paired.map Prod.fst → w.got = []

/-! ### The pairs of a pool -/

section Pairs

variable {g g' : TcpPool.Journal} {v ch : Nat}

theorem paired_of_step {a : TcpPool.Action} (ha : ∀ ok, a ≠ .start ok) (h : g.step a = some g') :
    g'.pool.paired = g.pool.paired := by
  rcases Option.map_eq_some_iff.mp h with ⟨t, ht, rfl⟩
  cases TcpPool.poolMove_of_step ht with
  | elsewhere hsame => exact hsame.paired
  | opened | rejected | delivered | visitor | noVisitor | channel | noChannel => rfl
  | started | broken | refused => exact absurd rfl (ha _)

/-- Only a write that works makes a pair. -/
theorem paired_of_start {ok : Bool} (hp : g.pool.pool = .starting v ch)
    (h : g.step (.start ok) = some g') :
    g'.pool.paired = if ok then g.pool.paired ++ [(v, ch)] else g.pool.paired := by
  rcases Option.map_eq_some_iff.mp h with ⟨t, ht, rfl⟩
  cases TcpPool.start_move ht with
  | started hstarting =>
      rw [hp, TcpPool.PoolPc.starting.injEq] at hstarting
      rw [hstarting.1, hstarting.2]
      rfl
  | broken | refused => rfl

/-- The visitor in hand is not served, and the data channel in hand serves
    nobody. -/
theorem unpaired_of_starting (hk : g.Kept) (hp : g.pool.pool = .starting v ch) :
    v ∉ g.pool.paired.map Prod.fst ∧ ch ∉ g.pool.paired.map Prod.snd := by
  refine ⟨?_, ?_⟩
  · have hturn := hk.hand (v := v) (by rw [hp]; rfl)
    have hlen : g.pool.paired.length = v := by rw [hturn, hk.pairs, List.length_map]
    rw [hk.visitors, hlen, List.mem_range]
    exact Nat.lt_irrefl v
  · intro hmem
    -- It would have been tried before, but it comes next.
    have hall : (g.attempts.map TcpPool.Attempt.channel ++ [ch] ++ g.pool.dataCh).Nodup := by
      rw [hk.next hp]
      exact hk.fresh.sublist (List.sublist_append_left _ _)
    have hnot : ch ∉ g.attempts.map TcpPool.Attempt.channel := by
      intro hin
      exact (List.nodup_append.mp (List.nodup_append.mp hall).1).2.2 ch hin ch
        (List.mem_singleton_self ch) rfl
    refine hnot ?_
    rw [hk.pairs, List.map_map] at hmem
    exact (List.Sublist.map _ List.filter_sublist).subset hmem

/-- Different visitors are on different data channels. -/
theorem oneToOne_of_kept (hk : g.Kept) : ∀ p ∈ g.pool.paired, ∀ q ∈ g.pool.paired,
    p.1 = q.1 ↔ p.2 = q.2 := by
  have hfst : (g.pool.paired.map Prod.fst).Nodup := by
    rw [hk.visitors]
    exact List.nodup_range
  have hsnd : (g.pool.paired.map Prod.snd).Nodup := by
    rw [hk.pairs, List.map_map]
    exact hk.oneToOne.once.sublist (List.Sublist.map _ List.filter_sublist)
  intro p hp q hq
  constructor
  · intro heq
    rw [List.inj_on_of_nodup_map hfst hp hq heq]
  · intro heq
    rw [List.inj_on_of_nodup_map hsnd hp hq heq]

end Pairs

/-! ### A step of a handle -/

variable {S : Setting β} {H H' : Handle β} {v ch : Nat}

theorem kept_fresh (S : Setting β) (sessionKey : Digest β) : (fresh S sessionKey).Kept S where
  journal := TcpPool.Journal.kept_initial S.heartbeatInterval
  sound := fun c hc => absurd hc List.not_mem_nil
  served := fun v ch h => absurd h List.not_mem_nil
  spare := fun ch c h => absurd h (by
    simp only [fresh, List.getElem?_nil, reduceCtorEq, not_false_eq_true])
  waiting := fun v w h => absurd h (by
    simp only [fresh, List.getElem?_nil, reduceCtorEq, not_false_eq_true])

/-- The pool goes on, and no pair is made. -/
theorem Kept.proceed (hk : H.Kept S) {a : TcpPool.Action} {g : TcpPool.Journal}
    (ha : ∀ ok, a ≠ .start ok) (hg : H.journal.step a = some g) :
    Kept S { H with journal := g } := by
  have hpaired := paired_of_step ha hg
  refine ⟨TcpPool.Journal.kept_of_step hk.journal hg, hk.sound, ?_, ?_, ?_⟩
  · rw [hpaired]
    exact hk.served
  · rw [hpaired]
    exact hk.spare
  · rw [hpaired]
    exact hk.waiting

/-- A visitor is accepted. -/
theorem Kept.accepted (hk : H.Kept S) :
    Kept S { H with visitors := H.visitors ++ [Visitor.fresh] } := by
  refine ⟨hk.journal, hk.sound, ?_, hk.spare, ?_⟩
  · intro v ch hp
    rcases hk.served v ch hp with ⟨w, c, hw, hc⟩
    exact ⟨w, c, getElem?_kept hw, hc⟩
  · exact forall_append hk.waiting (fun _ => rfl)

theorem pool_cases {a : TcpPool.Action} (h : H.pool a = some H') : a ≠ .handle .openCh ∧
    (∀ ok, a ≠ .start ok) ∧ ∃ g, H.journal.step a = some g ∧ H' = { H with
      journal := g
      visitors := if g.pool.accepted = H.journal.pool.accepted then H.visitors
        else H.visitors ++ [Visitor.fresh] } := by
  unfold pool at h
  split at h
  next => simp only [reduceCtorEq] at h
  next => simp only [reduceCtorEq] at h
  next hopen hstart =>
    rcases Option.map_eq_some_iff.mp h with ⟨g, hg, hH⟩
    exact ⟨hopen, hstart, g, hg, hH.symm⟩

theorem kept_pool {a : TcpPool.Action} (hk : H.Kept S) (h : H.pool a = some H') :
    H'.Kept S := by
  rcases pool_cases h with ⟨_, ha, g, hg, rfl⟩
  have hnext := hk.proceed ha hg
  by_cases hsame : g.pool.accepted = H.journal.pool.accepted
  · rw [if_pos hsame]
    exact hnext
  · rw [if_neg hsame]
    exact hnext.accepted

/-- A data channel that nobody has used comes. -/
theorem kept_receive {c : DataChannel β} (hk : H.Kept S) (hc : c.Sound S) (hu : c.Untouched)
    (hkey : c.sessionKey = H.sessionKey) (h : H.receive c = some H') : H'.Kept S := by
  rcases Option.map_eq_some_iff.mp h with ⟨g, hg, rfl⟩
  have hnext := hk.proceed (fun ok hno => by simp only [reduceCtorEq] at hno) hg
  refine ⟨hnext.journal, ?_, ?_, ?_, hnext.waiting⟩
  · intro d hd
    rcases List.mem_append.mp hd with hd | hd
    · exact hk.sound d hd
    · rw [List.mem_singleton.mp hd]
      exact ⟨hc, hkey⟩
  · intro v ch hp
    rcases hnext.served v ch hp with ⟨w, d, hw, hd, hends⟩
    exact ⟨w, d, hw, getElem?_kept hd, hends⟩
  · exact forall_append hnext.spare (fun _ => hu)

/-- A data channel moves, but not at the visitor's end. -/
theorem Kept.move (hk : H.Kept S) {c c' : DataChannel β} (hc : H.dataChannels[ch]? = some c)
    (hsound : c'.Sound S ∧ c'.sessionKey = c.sessionKey)
    (hends : TcpTunnel.SameEnds c.tunnel c'.tunnel) :
    Kept S { H with dataChannels := H.dataChannels.set ch c' } := by
  refine ⟨hk.journal, ?_, ?_, ?_, hk.waiting⟩
  · intro d hd
    rcases List.mem_or_eq_of_mem_set hd with hd | hd
    · exact hk.sound d hd
    · rw [hd]
      exact ⟨hsound.1, hsound.2.trans (hk.sound c (List.mem_of_getElem? hc)).2⟩
  · intro v ch' hp
    rcases hk.served v ch' hp with ⟨w, d, hw, hd, hserves⟩
    by_cases heq : ch' = ch
    · subst heq
      rw [hc, Option.some.injEq] at hd
      subst hd
      exact ⟨w, c', hw, getElem?_updated hc, hserves.sameEnds hends⟩
    · exact ⟨w, d, hw, (List.getElem?_set_ne (Ne.symm heq)).trans hd, hserves⟩
  · exact forall_set hk.spare (fun hnot => (hk.spare ch c hc hnot).sameEnds hends)

theorem kept_channel [DecidableEq β] {a : TcpTunnel.Action β} (hk : H.Kept S)
    (ha : inner a = true) (h : H.channel S ch a = some H') : H'.Kept S := by
  unfold channel at h
  rcases hc : H.dataChannels[ch]? with _ | c
  · simp only [hc, reduceCtorEq] at h
  · simp only [hc] at h
    rcases Option.map_eq_some_iff.mp h with ⟨c', hc', rfl⟩
    have hold := (hk.sound c (List.mem_of_getElem? hc)).1
    exact hk.move hc (DataChannel.sound_of_step hold hc')
      (DataChannel.sameEnds_of_step hold (ne_inTunnel_of_inner ha) hc')

/-- The visitor in hand is on the data channel in hand from now on. -/
theorem Kept.pair (hk : H.Kept S) {g : TcpPool.Journal} {w : Visitor β} {c c' : DataChannel β}
    (hp : H.journal.pool.pool = .starting v ch) (hg : H.journal.step (.start true) = some g)
    (hw : H.visitors[v]? = some w) (hc : H.dataChannels[ch]? = some c)
    (hsound : c'.Sound S ∧ c'.sessionKey = c.sessionKey) (hserves : c'.Serves w) :
    Kept S { H with journal := g, dataChannels := H.dataChannels.set ch c' } := by
  have hpaired : g.pool.paired = H.journal.pool.paired ++ [(v, ch)] := paired_of_start hp hg
  have hch := (unpaired_of_starting hk.journal hp).2
  refine ⟨TcpPool.Journal.kept_of_step hk.journal hg, ?_, ?_, ?_, ?_⟩
  · intro d hd
    rcases List.mem_or_eq_of_mem_set hd with hd | hd
    · exact hk.sound d hd
    · rw [hd]
      exact ⟨hsound.1, hsound.2.trans (hk.sound c (List.mem_of_getElem? hc)).2⟩
  · intro v' ch' hmem
    rw [hpaired, List.mem_append, List.mem_singleton, Prod.mk.injEq] at hmem
    rcases hmem with hold | ⟨rfl, rfl⟩
    · rcases hk.served v' ch' hold with ⟨w', d, hw', hd, hserves'⟩
      -- This data channel is another one.
      have hne : ch ≠ ch' := by
        rintro rfl
        exact hch (List.mem_map_of_mem hold)
      exact ⟨w', d, hw', (List.getElem?_set_ne hne).trans hd, hserves'⟩
    · exact ⟨w, c', hw, getElem?_updated hc, hserves⟩
  · rw [hpaired]
    intro ch' d hd hnot
    rw [List.map_append, List.mem_append, not_or] at hnot
    rcases getElem?_set_cases hd with ⟨rfl, rfl⟩ | ⟨_, hd⟩
    · exact absurd (List.mem_singleton_self _) hnot.2
    · exact hk.spare ch' d hd hnot.1
  · rw [hpaired]
    intro v' w' hw' hnot
    rw [List.map_append, List.mem_append, not_or] at hnot
    exact hk.waiting v' w' hw' hnot.1

theorem kept_start [DecidableEq β] {broken : Option Nat} (hk : H.Kept S)
    (h : H.start S broken = some H') : H'.Kept S := by
  unfold start at h
  split at h
  next v ch hp =>
    split at h
    next w c g hw hc hg =>
      rcases Option.map_eq_some_iff.mp h with ⟨c', hc', rfl⟩
      have hold := (hk.sound c (List.mem_of_getElem? hc)).1
      cases broken with
      | none =>
          rcases unpaired_of_starting hk.journal hp with ⟨hv, hch⟩
          have hu := hk.spare ch c hc hch
          have hqueued := DataChannel.queued_of_start hc'
          have hattach := DataChannel.sound_attach hold hqueued hu w
          have hsound := DataChannel.sound_of_step hattach hc'
          exact hk.pair hp hg hw hc hsound
            (DataChannel.serves_of_start hattach hu (hk.waiting v w hw hv) hc')
      | some n =>
          rw [Option.some.injEq] at hc'
          subst hc'
          rcases DataChannel.breakOff_cases hold n with ⟨hsound, hkey, hends⟩
          have hmoved := hk.move hc ⟨hsound, hkey⟩ hends
          have hpaired : g.pool.paired = H.journal.pool.paired := paired_of_start hp hg
          exact ⟨TcpPool.Journal.kept_of_step hk.journal hg, hmoved.sound, hpaired ▸ hmoved.served,
            hpaired ▸ hmoved.spare, hpaired ▸ hmoved.waiting⟩
    next => simp only [reduceCtorEq] at h
  next => simp only [reduceCtorEq] at h

/-- A visitor that is found on a data channel is paired with it. -/
theorem mem_of_channelOf (h : H.channelOf v = some ch) : (v, ch) ∈ H.journal.pool.paired := by
  rcases Option.map_eq_some_iff.mp h with ⟨p, hp, rfl⟩
  have hv := List.find?_some hp
  rw [decide_eq_true_eq] at hv
  rw [← hv]
  exact List.mem_of_find?_eq_some hp

theorem not_mem_of_channelOf (h : H.channelOf v = none) :
    v ∉ H.journal.pool.paired.map Prod.fst := by
  intro hmem
  rcases List.mem_map.mp hmem with ⟨p, hp, rfl⟩
  rw [channelOf, Option.map_eq_none_iff, List.find?_eq_none] at h
  exact h p hp (decide_eq_true rfl)

/-- A visitor that is not served has nothing to read. -/
theorem Kept.outside (hk : H.Kept S) {w w' : Visitor β} {a : VisitorAction β}
    (hw : H.visitors[v]? = some w) (hv : v ∉ H.journal.pool.paired.map Prod.fst)
    (hstep : w.step [] a = some w') :
    Kept S { H with visitors := H.visitors.set v w' } := by
  have hgot : w'.got = w.got := by
    cases a with
    | sends bs =>
        simp only [Visitor.step, Option.ite_none_right_eq_some, Option.some.injEq] at hstep
        rw [← hstep.2]
    | closes =>
        simp only [Visitor.step, Option.some.injEq] at hstep
        rw [← hstep]
    | reads n =>
        simp only [Visitor.step, List.length_nil, Option.ite_none_right_eq_some] at hstep
        omega
  refine ⟨hk.journal, hk.sound, ?_, hk.spare, ?_⟩
  · intro v' ch hp
    rcases hk.served v' ch hp with ⟨u, c, hu, hc⟩
    have hne : v ≠ v' := by
      rintro rfl
      exact hv (List.mem_map_of_mem hp)
    exact ⟨u, c, (List.getElem?_set_ne hne).trans hu, hc⟩
  · exact forall_set hk.waiting (fun hnot => hgot.trans (hk.waiting v w hw hnot))

/-- A visitor that is served and its data channel move together. -/
theorem Kept.together (hk : H.Kept S) {w' : Visitor β} {c c' : DataChannel β}
    (hp : (v, ch) ∈ H.journal.pool.paired) (hlt : v < H.visitors.length)
    (hc : H.dataChannels[ch]? = some c) (hsound : c'.Sound S ∧ c'.sessionKey = c.sessionKey)
    (hserves : c'.Serves w') : Kept S { H with
      visitors := H.visitors.set v w'
      dataChannels := H.dataChannels.set ch c' } := by
  have hone := oneToOne_of_kept hk.journal
  refine ⟨hk.journal, ?_, ?_, ?_, ?_⟩
  · intro d hd
    rcases List.mem_or_eq_of_mem_set hd with hd | hd
    · exact hk.sound d hd
    · rw [hd]
      exact ⟨hsound.1, hsound.2.trans (hk.sound c (List.mem_of_getElem? hc)).2⟩
  · intro v' ch' hp'
    by_cases hv : v = v'
    · -- The same visitor is on the same data channel.
      have hch : ch = ch' := (hone _ hp _ hp').mp hv
      subst hv hch
      exact ⟨w', c', List.getElem?_set_self hlt, getElem?_updated hc,
        hserves⟩
    · have hch : ch ≠ ch' := fun heq => hv ((hone _ hp _ hp').mpr heq)
      rcases hk.served v' ch' hp' with ⟨u, d, hu, hd, hrest⟩
      exact ⟨u, d, (List.getElem?_set_ne hv).trans hu, (List.getElem?_set_ne hch).trans hd, hrest⟩
  · exact forall_set hk.spare (fun hnot => absurd (List.mem_map_of_mem hp) hnot)
  · exact forall_set hk.waiting (fun hnot => absurd (List.mem_map_of_mem hp) hnot)

theorem kept_visit [DecidableEq β] {a : VisitorAction β} (hk : H.Kept S)
    (h : H.visit S v a = some H') : H'.Kept S := by
  unfold visit at h
  split at h
  next => simp only [reduceCtorEq] at h
  next w hw hnone =>
    rcases Option.map_eq_some_iff.mp h with ⟨w', hw', rfl⟩
    exact hk.outside hw (not_mem_of_channelOf hnone) hw'
  next w ch hw hch =>
    split at h
    next => simp only [reduceCtorEq] at h
    next c hc =>
      split at h
      next w' c' hw' hc' =>
        rw [Option.some.injEq] at h
        subst h
        have hp := mem_of_channelOf hch
        have hold := (hk.sound c (List.mem_of_getElem? hc)).1
        rcases hk.served v ch hp with ⟨u, d, hu, hd, hserves⟩
        rw [hw, Option.some.injEq] at hu
        rw [hc, Option.some.injEq] at hd
        subst hu hd
        exact hk.together hp (List.getElem?_eq_some_iff.mp hw).fst hc
          (DataChannel.sound_of_step hold hc')
          (DataChannel.visited hserves hw' hc')
      next => simp only [reduceCtorEq] at h

/-- What can happen to a handle. -/
inductive Move [DecidableEq β] (S : Setting β) (H : Handle β) : Handle β → Prop
  | pool {a : TcpPool.Action} {H' : Handle β} (h : H.pool a = some H') : Move S H H'
  | receive {c : DataChannel β} {H' : Handle β} (hc : c.Sound S) (hu : c.Untouched)
      (hkey : c.sessionKey = H.sessionKey) (h : H.receive c = some H') : Move S H H'
  | start {broken : Option Nat} {H' : Handle β} (h : H.start S broken = some H') : Move S H H'
  | channel {ch : Nat} {a : TcpTunnel.Action β} {H' : Handle β} (ha : inner a = true)
      (h : H.channel S ch a = some H') : Move S H H'
  | visit {v : Nat} {a : VisitorAction β} {H' : Handle β} (h : H.visit S v a = some H') :
      Move S H H'

/-- What one step preserves. -/
theorem kept_of_move [DecidableEq β] (hk : H.Kept S) (hm : H.Move S H') : H'.Kept S := by
  cases hm with
  | pool h => exact kept_pool hk h
  | receive hc hu hkey h => exact kept_receive hk hc hu hkey h
  | start h => exact kept_start hk h
  | channel ha h => exact kept_channel hk ha h
  | visit h => exact kept_visit hk h

end Handle

end TcpServices

end Rathole
