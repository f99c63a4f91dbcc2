import Rathole.Client.Udp

/-!
# The Port Map and Its Forwarders

Which forwarder serves a visitor. A forwarder removes the entry of its visitor
by address, so it would remove somebody else's if there could be another.
There cannot be: an entry is made only by the reader loop, only for a visitor
without one, and a forwarder that has not returned still has its own. `MapInv`
says this of every state. The lock is not needed for it; between the lookup
that found nothing and the insertion, forwarders can only remove entries.

## Main definitions

* `opener`: The visitor a socket was opened for.
* `Runs`: A forwarder task of a visitor that has not returned.
* `served`: The forwarder a visitor's entry points to.
* `MapInv`: How entries and forwarders belong together.

## Theorems

* `live_unique`, `runs_unique`: Of the forwarders of one visitor only one has
  not returned.
* `served_setForwarder`: A forwarder that moves is the one its visitor is
  served by.
* `step_mapInv`: A step keeps the invariant.
* `step_opener_cases`: A socket is opened for the packet in hand, or none is.
* `step_opener`: A socket stays with its visitor.
-/


namespace Rathole

namespace Client

namespace Udp

variable {α : Type}

namespace UdpChannel

/-- The visitor that the socket of forwarder `i` was opened for. -/
def opener (s : UdpChannel α) (i : Nat) : Option α := (s.forwarders i).map Forwarder.source

theorem opener_of_eq {s : UdpChannel α} {i : Nat} {f : Forwarder α}
    (hf : s.forwarders i = some f) : s.opener i = some f.source := by
  rw [opener, hf, Option.map_some]

theorem opener_setForwarder {s : UdpChannel α} {i j : Nat} {f g : Forwarder α}
    (hf : s.forwarders i = some f) (hsrc : g.source = f.source) :
    (s.setForwarder i g).opener j = s.opener j := by
  simp only [opener, setForwarder]
  by_cases hj : j = i
  · rw [hj, Function.update_self, hf, Option.map_some, Option.map_some, hsrc]
  · rw [Function.update_of_ne hj]

/-- The task of forwarder `i` serves the visitor and has not returned. -/
def Runs (s : UdpChannel α) (i : Nat) (v : α) : Prop :=
  ∃ f ∈ s.forwarders i, f.source = v ∧ f.pc ≠ .returned

variable [DecidableEq α]

/-- The forwarder a visitor's entry points to. -/
def served (s : UdpChannel α) (v : α) : Option (Forwarder α) :=
  (s.portMap.lookup v).bind s.forwarders

/-- How entries and forwarders belong together: an entry points to a forwarder
    of its visitor, a forwarder that has not returned has its entry, and the
    reader loop inserts only where there is no entry and sends only to a
    forwarder of the packet's visitor. -/
structure MapInv (s : UdpChannel α) : Prop where
  entry : ∀ v i, s.portMap.lookup v = some i → s.opener i = some v
  live : ∀ i f, s.forwarders i = some f → f.pc ≠ .returned → s.portMap.lookup f.source = some i
  fresh : ∀ i, s.spawned ≤ i → s.forwarders i = none
  absent : ∀ p, s.reader = .writeGuard p → s.portMap.lookup p.source = none
  sending : ∀ p i sh, s.reader = .sending p i sh → s.opener i = some p.source

theorem mapInv_initial : (initial : UdpChannel α).MapInv where
  entry := fun v i h => by simp only [initial, AList.lookup_empty, reduceCtorEq] at h
  live := fun i f h => by simp only [initial, reduceCtorEq] at h
  fresh := fun _ _ => rfl
  absent := fun p h => by simp only [initial, reduceCtorEq] at h
  sending := fun p i sh h => by simp only [initial, reduceCtorEq] at h

/-! ### Moving one forwarder -/

section Forwarders

variable {s s' : UdpChannel α} {i j : Nat} {f g : Forwarder α} {v : α}

/-- Two forwarders of one visitor have not both yet to return. -/
theorem live_unique (h : s.MapInv) (hf : s.forwarders i = some f) (hfl : f.pc ≠ .returned)
    (hg : s.forwarders j = some g) (hgl : g.pc ≠ .returned) (hsrc : f.source = g.source) :
    i = j := by
  have hi := h.live i f hf hfl
  rw [hsrc, h.live j g hg hgl, Option.some.injEq] at hi
  exact hi.symm

theorem runs_unique (h : s.MapInv) (hi : s.Runs i v) (hj : s.Runs j v) : i = j := by
  rcases hi with ⟨f, hf, hfv, hfl⟩
  rcases hj with ⟨g, hg, hgv, hgl⟩
  exact live_unique h hf hfl hg hgl (hfv.trans hgv.symm)

/-- An entry that points to a forwarder is that of its visitor. -/
theorem lookup_eq_iff (h : s.MapInv) (hf : s.forwarders i = some f) (hlive : f.pc ≠ .returned) :
    s.portMap.lookup v = some i ↔ f.source = v := by
  constructor
  · intro hl
    have ho := h.entry v i hl
    rw [opener_of_eq hf, Option.some.injEq] at ho
    exact ho
  · intro hv
    rw [← hv]
    exact h.live i f hf hlive

theorem served_live (h : s.MapInv) (hf : s.forwarders i = some f) (hlive : f.pc ≠ .returned) :
    s.served f.source = some f := by
  rw [served, h.live i f hf hlive, Option.bind_some, hf]

/-- A forwarder that moves is the one its visitor is served by, and nobody
    else is. -/
theorem served_setForwarder (h : s.MapInv) (hf : s.forwarders i = some f)
    (hlive : f.pc ≠ .returned) :
    (s.setForwarder i g).served v = if f.source = v then some g else s.served v := by
  by_cases hv : f.source = v
  · have hl := (lookup_eq_iff h hf hlive).mpr hv
    rw [if_pos hv]
    simp only [served, setForwarder, hl, Option.bind_some, Function.update_self]
  · rw [if_neg hv]
    simp only [served, setForwarder]
    rcases hl : s.portMap.lookup v with _ | j
    · rfl
    · have hj : j ≠ i := by
        intro hji
        rw [hji] at hl
        exact hv ((lookup_eq_iff h hf hlive).mp hl)
      rw [Option.bind_some, Option.bind_some, Function.update_of_ne hj]

/-- Nothing the invariant speaks of changes but where the reader loop is. -/
theorem mapInv_of_reader (h : s.MapInv) (hm : s'.portMap = s.portMap)
    (hf : s'.forwarders = s.forwarders) (hs : s'.spawned = s.spawned)
    (habsent : ∀ p, s'.reader = .writeGuard p → s.portMap.lookup p.source = none)
    (hsending : ∀ p i sh, s'.reader = .sending p i sh → s.opener i = some p.source) :
    s'.MapInv where
  entry := by simpa only [hm, opener, hf] using h.entry
  live := by simpa only [hm, hf] using h.live
  fresh := by simpa only [hs, hf] using h.fresh
  absent := by simpa only [hm] using habsent
  sending := by simpa only [opener, hf] using hsending

/-- A forwarder moves on and keeps its entry; one that has returned does not
    come back. -/
theorem mapInv_setForwarder (h : s.MapInv) (hf : s.forwarders i = some f)
    (hlive : f.pc ≠ .returned) (hsrc : g.source = f.source) : (s.setForwarder i g).MapInv where
  entry := by
    intro v j hl
    rw [opener_setForwarder hf hsrc]
    exact h.entry v j hl
  live := by
    intro j f' hf' hlive'
    simp only [setForwarder] at hf' ⊢
    by_cases hj : j = i
    · rw [hj, Function.update_self, Option.some.injEq] at hf'
      rw [← hf', hsrc, hj]
      exact h.live i f hf hlive
    · rw [Function.update_of_ne hj] at hf'
      exact h.live j f' hf' hlive'
  fresh := by
    intro j hj
    have hne : j ≠ i := by
      intro hji
      rw [hji] at hj
      rw [h.fresh i hj] at hf
      exact absurd hf (by simp only [reduceCtorEq, not_false_eq_true])
    simp only [setForwarder]
    rw [Function.update_of_ne hne]
    exact h.fresh j hj
  absent := h.absent
  sending := by
    intro p j sh hr
    rw [opener_setForwarder hf hsrc]
    exact h.sending p j sh hr

end Forwarders

/-! ### What a step keeps -/

section Steps

variable {s s' : UdpChannel α} {a : Action α} {i : Nat} {v : α}

/-- A new forwarder and its entry. -/
theorem connect_mapInv {ok : Bool} (h : s.MapInv) (hst : s.connect ok = some s') : s'.MapInv := by
  rcases connect_cases hst with ⟨p, hr, _, ⟨_, rfl⟩ | ⟨_, rfl⟩⟩
  · -- The number of the new forwarder is one that no entry points to yet.
    have hnone : s.forwarders s.spawned = none := h.fresh s.spawned (le_refl _)
    have hne : ∀ {i f}, s.forwarders i = some f → i ≠ s.spawned := by
      intro i f hf hi
      rw [hi, hnone] at hf
      simp only [reduceCtorEq] at hf
    refine ⟨?_, ?_, ?_, ?_, ?_⟩
    · intro v i hl
      rcases HashMap.lookup_insert_cases hl with ⟨hv, hi⟩ | ⟨_, hold⟩
      · simp only [opener, hi, Function.update_self, Option.map_some, hv]
      · have ho := h.entry v i hold
        rcases Option.map_eq_some_iff.mp ho with ⟨f, hf, _⟩
        simp only [opener, Function.update_of_ne (hne hf)]
        exact ho
    · intro i f hf hlive
      simp only at hf ⊢
      by_cases hi : i = s.spawned
      · rw [hi, Function.update_self, Option.some.injEq] at hf
        rw [← hf, hi, AList.lookup_insert]
      · rw [Function.update_of_ne hi] at hf
        have hl := h.live i f hf hlive
        -- The visitor had no entry, so no forwarder of it still runs.
        have hv : f.source ≠ p.source := by
          intro hv
          rw [hv, h.absent p hr] at hl
          simp only [reduceCtorEq] at hl
        rw [AList.lookup_insert_ne hv]
        exact hl
    · intro i hi
      simp only at hi ⊢
      rw [Function.update_of_ne (by omega)]
      exact h.fresh i (by omega)
    · intro q hq
      simp only [reduceCtorEq] at hq
    · intro q i sh hq
      simp only [reduceCtorEq] at hq
  · refine mapInv_of_reader h rfl rfl rfl (fun q hq => ?_) (fun q i sh hq => ?_)
    · simp only [reduceCtorEq] at hq
    · simp only [reduceCtorEq] at hq

/-- A forwarder removes its own entry and no other. -/
theorem cleanup_mapInv (h : s.MapInv) (hst : s.cleanup i = some s') : s'.MapInv := by
  rcases cleanup_cases hst with ⟨f, hf, hpc, _, rfl⟩
  have hlive : f.pc ≠ .returned := by simp only [hpc, ne_eq, reduceCtorEq, not_false_eq_true]
  have hset : (s.setForwarder i { f with pc := .returned }).MapInv :=
    mapInv_setForwarder h hf hlive rfl
  refine ⟨?_, ?_, hset.fresh, ?_, hset.sending⟩
  · intro v j hl
    exact hset.entry v j (HashMap.lookup_erase_cases hl).2
  · intro j g hg hgl
    have hl := hset.live j g hg hgl
    have hv : g.source ≠ f.source := by
      intro hv
      -- The entry of its visitor points to it, and it has returned.
      have hi := (lookup_eq_iff h hf hlive).mpr rfl
      have hji : j = i := by
        rw [hv] at hl
        exact Option.some.inj (hl.symm.trans hi)
      rw [hji] at hg
      simp only [setForwarder, Function.update_self, Option.some.injEq] at hg
      rw [← hg] at hgl
      exact hgl rfl
    simp only
    rw [AList.lookup_erase_ne hv]
    exact hl
  · intro p hr
    have hl := h.absent p hr
    simp only
    by_cases hv : p.source = f.source
    · rw [hv, AList.lookup_erase]
    · rw [AList.lookup_erase_ne hv]
      exact hl

/-- A step keeps entries and forwarders together. -/
theorem step_mapInv (h : s.MapInv) (hst : s.step a = some s') : s'.MapInv := by
  cases rule_of_step hst with
  -- The reader loop goes on, and has an entry or none for its packet.
  | packet | readError | known | missing | unsent =>
      exact mapInv_of_reader h rfl rfl rfl (by simp) (by simp)
  | unknown hr hl =>
      refine mapInv_of_reader h rfl rfl rfl (fun q hq => ?_) (by simp)
      rw [ReaderPc.writeGuard.injEq] at hq
      rw [← hq]
      exact hl
  | connected hr => exact connect_mapInv h hst
  | unconnected hr => exact connect_mapInv h hst
  | @found p sh i hr hl =>
      refine mapInv_of_reader h rfl rfl rfl (by simp) (fun q j sh' hq => ?_)
      simp only [ReaderPc.sending.injEq] at hq
      rw [← hq.1, ← hq.2.1]
      exact h.entry p.source i hl
  | @sent p i sh f hr hf hlive =>
      have hfree : UdpChannel.MapInv { s with reader := .recv, lock := s.dropGuards sh } :=
        mapInv_of_reader h rfl rfl rfl (by simp) (by simp)
      exact mapInv_setForwarder hfree hf hlive rfl
  -- A forwarder goes on with its entry, but for the one that removes it.
  | inbound hf hpc | receive hf hpc | unheard hf hpc =>
      exact mapInv_setForwarder h hf (by simp [hpc]) rfl
  | @emit i f data hf hpc =>
      have hset := mapInv_setForwarder (g := { f with pc := .looping }) h hf (by simp [hpc]) rfl
      exact mapInv_of_reader hset rfl rfl rfl hset.absent hset.sending
  | @leave i why f hf hpc =>
      have hset := mapInv_setForwarder (g := { f with pc := .cleaning }) h hf (by simp [hpc]) rfl
      exact mapInv_of_reader hset rfl rfl rfl hset.absent hset.sending
  | cleanup => exact cleanup_mapInv h hst
  | writeOut => exact mapInv_of_reader h rfl rfl rfl h.absent h.sending

/-- A socket is opened for the packet in the reader loop's hand, or none is. -/
theorem step_opener_cases (hst : s.step a = some s') :
    (∀ i, s'.opener i = s.opener i) ∨
      ∃ p, s.reader = .writeGuard p ∧
        ∀ i, s'.opener i = if i = s.spawned then some p.source else s.opener i := by
  cases rule_of_step hst with
  | @connected p hr =>
      refine Or.inr ⟨p, hr, fun i => ?_⟩
      by_cases hi : i = s.spawned
      · rw [if_pos hi]
        simp only [opener, hi, Function.update_self, Option.map_some]
      · rw [if_neg hi]
        simp only [opener, Function.update_of_ne hi]
  -- A forwarder that moves on keeps its visitor.
  | sent hr hf => exact Or.inl (fun _ => opener_setForwarder hf rfl)
  | inbound hf | receive hf | unheard hf => exact Or.inl (fun _ => opener_setForwarder hf rfl)
  | @emit j f data hf =>
      exact Or.inl (fun _ => opener_setForwarder (g := { f with pc := .looping }) hf rfl)
  | @leave j why f hf =>
      exact Or.inl (fun _ => opener_setForwarder (g := { f with pc := .cleaning }) hf rfl)
  | @cleanup j f hf =>
      exact Or.inl (fun _ => opener_setForwarder (g := { f with pc := .returned }) hf rfl)
  | _ => exact Or.inl (fun _ => rfl)

/-- A socket stays with its visitor. -/
theorem step_opener (h : s.MapInv) (hst : s.step a = some s') (ho : s.opener i = some v) :
    s'.opener i = some v := by
  rcases step_opener_cases hst with hsame | ⟨p, _, hnew⟩
  · rw [hsame]
    exact ho
  · have hne : i ≠ s.spawned := by
      intro hi
      rw [hi, opener, h.fresh s.spawned (le_refl _), Option.map_none] at ho
      simp only [reduceCtorEq] at ho
    rw [hnew, if_neg hne]
    exact ho

end Steps

end UdpChannel

end Udp

end Client

end Rathole
