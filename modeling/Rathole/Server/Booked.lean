import Rathole.Server.Guards

/-!
# Who Has the Control Channels

`Guarded` says that a connection has the guard of its await. Here is the other
direction: what a connection has of the lock of `control_channels`, or has
asked of it, is exactly what its await needs (`Booked`). So nobody keeps a
guard into an await that does not need one.

A pool takes a data channel out of its queue wherever the connection stands,
so it has to be known that a connection in a queue waits in that queue
(`Lined`).

## Main definitions

* `Server.Phase.claim`: What a connection has or wants at its await.
* `Server.Lined`: The connections in a queue wait in it, each once.
* `Server.Booked`: The lock has what the awaits need.

## Theorems

* `fail_cases`, `find_cases`, `deliver_cases`: Three actions in full.
* `lined_of_step`, `booked_of_step`: What one step preserves.
* `claim_of_holds`: Which awaits a guard is held at.
-/

namespace Rathole

open FairLock FairLock.RwLock Numbered

namespace Server


variable {β : Type}

/-- The guard of `control_channels` a connection has at its await, or waits
    for. -/
def Phase.claim : Phase β → Option Mode
  | .locking _ _ _ | .sendingAck _ _ _ => some .write
  | .finding _ | .delivering _ => some .read
  | _ => none

/-- The entry of a connection's claim. -/
def Phase.entries (p : Phase β) (i : Nat) : List (Task × Mode) :=
  (p.claim.map (fun m => (Task.conn i, m))).toList

/-- What connection `i` has of the lock, or wants of it. -/
def booked (s : Server β) (i : Nat) : List (Task × Mode) :=
  match s.conns[i]? with
  | none => []
  | some c => c.phase.entries i

/-- Every connection has or wants what its await needs, and nothing else. -/
def Booked (s : Server β) : Prop := ∀ i, s.channelsLock.owned (.conn i) = s.booked i

/-- The connections in a queue wait in that queue, each at one place. -/
def Lined (s : Server β) : Prop :=
  ∀ (n : Nat) (x : Handle β), s.handles[n]? = some x → x.queue.Nodup ∧
    ∀ i ∈ x.queue, ∃ c, s.conns[i]? = some c ∧ c.phase = .queued n

variable {E : Env β} {s t : Server β} {a : Action β} {i n : Nat} {c c' : Conn β}

/-! ### Queues -/

/-- A connection that is in no queue moves. -/
theorem Lined.of_set (h : s.Lined) (hc : s.conns[i]? = some c)
    (hconns : t.conns = s.conns.set i c') (hhandles : t.handles = s.handles)
    (hphase : (∀ k, c.phase ≠ .queued k) ∨ c'.phase = c.phase) : t.Lined := by
  intro k x hx
  rw [hhandles] at hx
  rcases h k x hx with ⟨hnodup, hq⟩
  refine ⟨hnodup, fun j hj => ?_⟩
  rcases hq j hj with ⟨b, hb, hp⟩
  rw [hconns]
  by_cases hij : i = j
  · subst hij
    rw [hc, Option.some.injEq] at hb
    subst hb
    refine ⟨c', getElem?_updated hc, ?_⟩
    rcases hphase with hno | hsame
    · exact absurd hp (hno k)
    · rw [hsame, hp]
  · exact ⟨b, (List.getElem?_set_ne hij).trans hb, hp⟩

/-- No connection moves, and queues stay or are dropped. -/
theorem Lined.of_handles (h : s.Lined) (hconns : t.conns = s.conns)
    (hhandles : ∀ (k : Nat) (y : Handle β), t.handles[k]? = some y →
      y.queue = [] ∨ s.handles[k]? = some y) : t.Lined := by
  intro k y hy
  rcases hhandles k y hy with hnil | hold
  · rw [hnil]
    exact ⟨List.nodup_nil, fun j hj => absurd hj List.not_mem_nil⟩
  · rw [hconns]
    exact h k y hold

/-- A data channel gets into a queue. -/
theorem lined_deliver (h : s.Lined) {x : Handle β} (hc : s.conns[i]? = some c)
    (hp : c.phase = .delivering n) (hx : s.handles[n]? = some x)
    (hconns : t.conns = s.conns.set i { c with phase := .queued n })
    (hhandles : t.handles = s.handles.set n { x with queue := x.queue ++ [i] }) : t.Lined := by
  have hout : ∀ (k : Nat) (y : Handle β), s.handles[k]? = some y → i ∉ y.queue := by
    intro k y hy hin
    rcases (h k y hy).2 i hin with ⟨b, hb, hq⟩
    rw [hc, Option.some.injEq] at hb
    rw [← hb, hp] at hq
    simp only [reduceCtorEq] at hq
  have hstay : ∀ (k : Nat) (y : Handle β), s.handles[k]? = some y → ∀ j ∈ y.queue,
      ∃ b, t.conns[j]? = some b ∧ b.phase = .queued k := by
    intro k y hy j hj
    rcases (h k y hy).2 j hj with ⟨b, hb, hq⟩
    have hij : i ≠ j := fun heq => hout k y hy (by rw [heq]; exact hj)
    rw [hconns, List.getElem?_set_ne hij]
    exact ⟨b, hb, hq⟩
  intro k y hy
  rw [hhandles] at hy
  rcases getElem?_set_cases hy with ⟨rfl, rfl⟩ | ⟨_, hold⟩
  · have hnodup : (x.queue ++ [i]).Nodup := by
      rw [← List.concat_eq_append]
      exact (h k x hx).1.concat (hout k x hx)
    refine ⟨hnodup, fun j hj => ?_⟩
    rcases List.mem_append.mp hj with hold | hnew
    · exact hstay k x hx j hold
    · rw [List.mem_singleton.mp hnew, hconns]
      exact ⟨_, getElem?_updated hc, rfl⟩
  · exact ⟨(h k y hold).1, hstay k y hold⟩

/-- The pool takes the first of a queue. -/
theorem lined_take (h : s.Lined) {x : Handle β} {queue : List Nat} (hx : s.handles[n]? = some x)
    (hq : x.queue = i :: queue) (hconns : t.conns = s.conns.set i c')
    (hhandles : t.handles = s.handles.set n { x with queue := queue }) : t.Lined := by
  have hfirst := h n x hx
  rw [hq, List.nodup_cons] at hfirst
  rcases hfirst.2 i List.mem_cons_self with ⟨b, hb, hqueued⟩
  have hstay : ∀ (k : Nat) (y : Handle β), s.handles[k]? = some y → ∀ j ∈ y.queue, j ≠ i →
      ∃ b, t.conns[j]? = some b ∧ b.phase = .queued k := by
    intro k y hy j hj hji
    rw [hconns, List.getElem?_set_ne (Ne.symm hji)]
    exact (h k y hy).2 j hj
  intro k y hy
  rw [hhandles] at hy
  rcases getElem?_set_cases hy with ⟨rfl, rfl⟩ | ⟨hk, hold⟩
  · refine ⟨hfirst.1.2, fun j hj => hstay k x hx j (by rw [hq]; exact List.mem_cons_of_mem i hj) ?_⟩
    rintro rfl
    exact hfirst.1.1 hj
  · refine ⟨(h k y hold).1, fun j hj => hstay k y hold j hj ?_⟩
    rintro rfl
    -- It waits in one queue only.
    rcases (h k y hold).2 j hj with ⟨b', hb', hqueued'⟩
    rw [hb, Option.some.injEq] at hb'
    rw [← hb', hqueued, Phase.queued.injEq] at hqueued'
    exact hk hqueued'.symm

theorem lined_initial (services : HashMap (Digest β) (ServerServiceConfig (List β))) :
    (initial services).Lined := by
  intro k x hx
  simp only [initial, List.getElem?_nil, reduceCtorEq] at hx

/-! ### The lock -/

theorem booked_of_get (hc : s.conns[i]? = some c) : s.booked i = c.phase.entries i := by
  simp only [booked, hc]

/-- One connection moves, and its entries go with it. -/
theorem Booked.of_set (h : s.Booked) (hc : s.conns[i]? = some c)
    (hconns : t.conns = s.conns.set i c')
    (hself : t.channelsLock.owned (.conn i) = c'.phase.entries i)
    (hothers : ∀ j, j ≠ i → t.channelsLock.owned (.conn j) = s.channelsLock.owned (.conn j)) :
    t.Booked := by
  intro j
  by_cases hij : j = i
  · subst hij
    rw [hself, booked, hconns, getElem?_updated hc]
  · rw [hothers j hij, h j, booked, booked, hconns, List.getElem?_set_ne (Ne.symm hij)]

/-- The lock stays, and the claim. -/
theorem Booked.of_same (h : s.Booked) (hc : s.conns[i]? = some c)
    (hconns : t.conns = s.conns.set i c') (hlock : t.channelsLock = s.channelsLock)
    (hclaim : c'.phase.claim = c.phase.claim) : t.Booked := by
  refine h.of_set hc hconns ?_ (fun j _ => by rw [hlock])
  rw [hlock, h i, booked_of_get hc, Phase.entries, Phase.entries, hclaim]

/-- A connection asks for a guard. -/
theorem Booked.of_request (h : s.Booked) {m : Mode} (hc : s.conns[i]? = some c)
    (hconns : t.conns = s.conns.set i c')
    (hlock : t.channelsLock = s.channelsLock.request (.conn i) m)
    (hbefore : c.phase.claim = none) (hafter : c'.phase.claim = some m) : t.Booked := by
  refine h.of_set hc hconns ?_ (fun j hj => ?_)
  · rw [hlock, owned_request_self, h i, booked_of_get hc, Phase.entries, Phase.entries, hbefore,
      hafter]
    rfl
  · rw [hlock, owned_request_ne]
    rw [ne_eq, Task.conn.injEq]
    exact Ne.symm hj

/-- A connection gives its guard back. -/
theorem Booked.of_release (h : s.Booked) {m : Mode} (hc : s.conns[i]? = some c)
    (hconns : t.conns = s.conns.set i c')
    (hlock : t.channelsLock = s.channelsLock.release (.conn i) m)
    (hheld : s.channelsLock.Holds (.conn i) m) (hbefore : c.phase.claim = some m)
    (hafter : c'.phase.claim = none) : t.Booked := by
  refine h.of_set hc hconns ?_ (fun j hj => ?_)
  · rw [hlock, owned_release_self hheld, h i, booked_of_get hc, Phase.entries, Phase.entries,
      hbefore, hafter, Option.map_some, Option.toList_some, List.erase_cons_head]
    rfl
  · rw [hlock, owned_release_ne]
    rw [ne_eq, Task.conn.injEq]
    exact Ne.symm hj

/-- The main loop asks for a guard. -/
theorem Booked.of_main_request (h : s.Booked) {m : Mode} (hconns : t.conns = s.conns)
    (hlock : t.channelsLock = s.channelsLock.request .main m) : t.Booked := by
  intro j
  rw [hlock, owned_request_ne _ _ (by simp only [ne_eq, reduceCtorEq, not_false_eq_true]), h j,
    booked, booked, hconns]

/-- The main loop gives its guard back. -/
theorem Booked.of_main_release (h : s.Booked) {m : Mode} (hconns : t.conns = s.conns)
    (hlock : t.channelsLock = s.channelsLock.release .main m) : t.Booked := by
  intro j
  rw [hlock, owned_release_ne _ _ (by simp only [ne_eq, reduceCtorEq, not_false_eq_true]), h j,
    booked, booked, hconns]

theorem booked_initial (services : HashMap (Digest β) (ServerServiceConfig (List β))) :
    (initial services).Booked := by
  intro i
  simp only [initial, booked, List.getElem?_nil]
  rfl

/-- A connection that has a guard is about to go on with it, is at its `Ok`, or
    is being delivered. -/
theorem claim_of_holds (h : s.Booked) {m : Mode} (hheld : s.channelsLock.Holds (.conn i) m) :
    ∃ c, s.conns[i]? = some c ∧ c.phase.claim = some m := by
  have hin : (Task.conn i, m) ∈ s.channelsLock.owned (.conn i) :=
    List.mem_filter.mpr ⟨List.mem_append_left _ hheld, by simp only [decide_true]⟩
  rw [h i, booked] at hin
  cases hc : s.conns[i]? with
  | none => simp only [hc, List.not_mem_nil] at hin
  | some c =>
      simp only [hc, Phase.entries, Option.mem_toList, Option.map_eq_some_iff, Prod.mk.injEq,
        true_and, exists_eq_right] at hin
      exact ⟨c, rfl, hin⟩

/-! ### Three actions in full -/

variable [DecidableEq β]

/-- A connection that fails has no claim, or is at its `Ok`. -/
theorem fail_cases (h : s.step E (.fail i n) = some t) : ∃ c sent, s.conns[i]? = some c ∧
    t.conns = s.conns.set i { c with phase := .closed, sent := sent } ∧
    t.handles = s.handles ∧ (∀ k, c.phase ≠ .queued k) ∧
    ((c.phase.claim = none ∧ t.channelsLock = s.channelsLock) ∨
      ((∃ d key cfg, c.phase = .sendingAck d key cfg) ∧
        t.channelsLock = s.channelsLock.release (.conn i) .write)) := by
  rw [step] at h
  split at h
  · simp only [reduceCtorEq] at h
  · simp only [fail] at h
    cases hc : s.conns[i]? with
    | none => simp only [hc, reduceCtorEq] at h
    | some c =>
        simp only [hc] at h
        refine ⟨c, c.sent ++ (c.phase.output E).take n, rfl, ?_⟩
        cases hp : c.phase with
        | readingHello | sendingHello | readingAuth | rejecting | control | starting
        | forwarding | refusing =>
            simp only [broken, hp, Option.some.injEq] at h
            rw [← h]
            refine ⟨rfl, rfl, fun k => ?_, Or.inl ⟨rfl, rfl⟩⟩
            simp only [ne_eq, reduceCtorEq, not_false_eq_true]
        | sendingAck d key cfg =>
            simp only [broken, hp, Option.some.injEq] at h
            rw [← h]
            refine ⟨rfl, rfl, fun k => ?_, Or.inr ⟨⟨d, key, cfg, rfl⟩, rfl⟩⟩
            simp only [ne_eq, reduceCtorEq, not_false_eq_true]
        | lookingUp | locking | finding | delivering | queued | closed =>
            simp only [broken, hp, reduceCtorEq] at h

/-- A data channel's handshake looks for its handle under a read guard, and
    gives the guard back if there is none. -/
theorem find_cases (h : s.step E (.find i) = some t) : ∃ c nonce, s.conns[i]? = some c ∧
    c.phase = .finding nonce ∧ s.channelsLock.Holds (.conn i) .read ∧
    ((s.channels.get2 nonce = none ∧
        t = (s.move i c .closed).releaseChannels (.conn i) .read) ∨
      ∃ k, s.channels.get2 nonce = some k ∧ t = s.move i c (.delivering k)) := by
  rw [step] at h
  split at h
  · simp only [reduceCtorEq] at h
  · simp only [find] at h
    cases hc : s.conns[i]? with
    | none => simp only [hc, reduceCtorEq] at h
    | some c =>
        simp only [hc] at h
        cases hp : c.phase with
        | finding nonce =>
            simp only [hp, Option.ite_none_right_eq_some] at h
            rcases h with ⟨hheld, h⟩
            refine ⟨c, nonce, rfl, hp, hheld, ?_⟩
            cases hget : s.channels.get2 nonce with
            | none =>
                simp only [hget, Option.some.injEq] at h
                exact Or.inl ⟨rfl, h.symm⟩
            | some k =>
                simp only [hget, Option.some.injEq] at h
                exact Or.inr ⟨k, rfl, h.symm⟩
        | _ => simp only [hp, reduceCtorEq] at h

/-- A data channel is put into a queue that has room, or dropped if nobody
    receives from it any more. -/
theorem deliver_cases (h : s.step E (.deliver i) = some t) : ∃ c k x, s.conns[i]? = some c ∧
    c.phase = .delivering k ∧ s.handles[k]? = some x ∧
    ((x.pooling = true ∧ x.queue.length < chanSize * 2 ∧
        t = ((s.setHandle k { x with queue := x.queue ++ [i] }).move i c
          (.queued k)).releaseChannels (.conn i) .read) ∨
      (x.pooling = false ∧ t = (s.move i c .closed).releaseChannels (.conn i) .read)) := by
  rw [step] at h
  split at h
  · simp only [reduceCtorEq] at h
  · simp only [deliver] at h
    cases hc : s.conns[i]? with
    | none => simp only [hc, reduceCtorEq] at h
    | some c =>
        simp only [hc] at h
        cases hp : c.phase with
        | delivering k =>
            simp only [hp] at h
            cases hx : s.handles[k]? with
            | none => simp only [hx, reduceCtorEq] at h
            | some x =>
                simp only [hx] at h
                refine ⟨c, k, x, rfl, hp, hx, ?_⟩
                cases hpool : x.pooling with
                | true =>
                    simp only [hpool, if_true, Option.ite_none_right_eq_some,
                      Option.some.injEq] at h
                    exact Or.inl ⟨rfl, h.1, h.2.symm⟩
                | false =>
                    simp only [hpool, Bool.false_eq_true, if_false, Option.some.injEq] at h
                    exact Or.inr ⟨rfl, h.symm⟩
        | _ => simp only [hp, reduceCtorEq] at h

/-! ### All steps -/

theorem lined_of_step (h : s.Lined) (hst : s.step E a = some t) : t.Lined := by
  cases rule_of_step hst with
  | failed | failedRefusing | failedAcking =>
      rcases fail_cases hst with ⟨c, sent, hc, hconns, hhandles, hno, _⟩
      exact h.of_set hc hconns hhandles (Or.inl hno)
  | accepted =>
      intro k x hx
      refine ⟨(h k x hx).1, fun j hj => ?_⟩
      rcases (h k x hx).2 j hj with ⟨b, hb, hp⟩
      exact ⟨b, getElem?_kept hb, hp⟩
  | delivered hc hp hx => exact lined_deliver h hc hp hx rfl rfl
  | taken hx hq => exact lined_take h hx hq rfl rfl
  | unpooled hx =>
      refine h.of_handles rfl (fun k y hy => ?_)
      rcases getElem?_set_cases hy with ⟨_, rfl⟩ | ⟨_, hold⟩
      · exact Or.inl rfl
      · exact Or.inr hold
  | @acknowledged i c d key cfg channels hc hp =>
      have hmoved : (s.move i { c with sent := c.sent ++ c.phase.output E }
          (.control s.handles.length)).Lined :=
        h.of_set hc rfl rfl (Or.inl (fun k => by
          rw [hp]
          simp only [ne_eq, reduceCtorEq, not_false_eq_true]))
      refine hmoved.of_handles rfl (fun k y hy => ?_)
      rcases getElem?_append_cases hy with hold | ⟨_, rfl⟩
      · exact Or.inr hold
      · exact Or.inl rfl
  | tokenless | reloading | added | deleted | dropped | replaced | closing | cleared => exact h
  | arrived hc | crashed hc | commanded hc | relayed hc => exact h.of_set hc rfl rfl (Or.inr rfl)
  | garbledHello hc hp | greeted hc hp | sought hc hp | garbledAuth hc hp | matched hc hp
  | mismatched hc hp | unknown hc hp | known hc hp | locked hc hp | answered hc hp
  | refused hc hp | rejected hc hp | started hc hp | absent hc hp | found hc hp
  | orphaned hc hp | ended hc hp =>
      refine h.of_set hc rfl rfl (Or.inl (fun k => ?_))
      rw [hp]
      simp only [ne_eq, reduceCtorEq, not_false_eq_true]

/-- The step lemma for the lock. -/
theorem booked_of_step (h : s.Booked) (hl : s.Lined) (hg : s.Guarded) (hst : s.step E a = some t) :
    t.Booked := by
  cases rule_of_step hst with
  | accepted =>
      intro j
      rw [show s.channelsLock.owned (.conn j) = s.booked j from h j, booked, booked]
      rcases Nat.lt_trichotomy j s.conns.length with hj | hj | hj
      · rw [List.getElem?_append_left hj]
      · rw [hj, List.getElem?_concat_length, List.getElem?_eq_none (Nat.le_refl _)]
        rfl
      · rw [List.getElem?_eq_none (Nat.le_of_lt hj), List.getElem?_eq_none]
        rw [List.length_append, List.length_singleton]
        exact hj
  | failed | failedRefusing | failedAcking =>
      rcases fail_cases hst with
        ⟨c, sent, hc, hconns, _, _, ⟨hclaim, hlock⟩ | ⟨⟨d, key, cfg, hp⟩, hlock⟩⟩
      · exact h.of_same hc hconns hlock hclaim.symm
      · exact h.of_release hc hconns hlock (hg.holds _ c .write hc (by rw [hp]; rfl))
          (by rw [hp]; rfl) rfl
  | absent =>
      rcases find_cases hst with ⟨c, nonce, hc, hp, hheld, ⟨_, ht⟩ | ⟨k, _, ht⟩⟩
      · rw [ht]
        exact h.of_release hc rfl rfl hheld (by rw [hp]; rfl) rfl
      · rw [ht]
        exact h.of_same hc rfl rfl (by rw [hp]; rfl)
  | sought hc hp => exact h.of_request hc rfl rfl (by rw [hp]; rfl) rfl
  | matched hc hp => exact h.of_request hc rfl rfl (by rw [hp]; rfl) rfl
  | @acknowledged i c d key cfg channels hc hp =>
      exact h.of_release hc rfl rfl (hg.holds i c .write hc (by rw [hp]; rfl)) (by rw [hp]; rfl) rfl
  | delivered hc hp | orphaned hc hp =>
      exact h.of_release hc rfl rfl (hg.holds _ _ .read hc (by rw [hp]; rfl)) (by rw [hp]; rfl) rfl
  | @taken i n c x queue hx hq hc =>
      -- The connection waits in the queue, and has no claim there.
      rcases (hl n x hx).2 i (by rw [hq]; exact List.mem_cons_self) with ⟨b, hb, hp⟩
      rw [hc, Option.some.injEq] at hb
      exact h.of_same hc rfl rfl (by rw [hb, hp]; rfl)
  | added | deleted | closing => exact h.of_main_request rfl rfl
  | dropped | replaced | cleared => exact h.of_main_release rfl rfl
  | tokenless | unpooled | reloading => exact h
  | arrived hc | crashed hc | commanded hc | relayed hc => exact h.of_same hc rfl rfl rfl
  | garbledHello hc hp | greeted hc hp | garbledAuth hc hp | mismatched hc hp | unknown hc hp
  | known hc hp | locked hc hp | answered hc hp | refused hc hp | rejected hc hp | started hc hp
  | found hc hp | ended hc hp => exact h.of_same hc rfl rfl (by rw [hp]; rfl)

end Server

end Rathole
