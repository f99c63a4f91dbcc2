import Rathole.Client.Udp

/-!
# Waiting Under a Guard of the Port Map

When the reader loop of the UDP data channel can wait for a forwarder that
waits for the reader loop.

The reader loop waits in two ways with a read guard in hand. On the branch
where the visitor is known it asks for the second guard while the first is
alive, and a fair lock does not grant that over a queued writer. And it
sends into a bounded queue under its guards. A forwarder that has left its
loop no longer empties that queue, and waits for exactly those guards.

`reader_deadlocks` is the run that closes the first cycle. `Clear` names the
three moves that close one, and `reader_not_deadlocked` says that they are
all of them. The invariant behind it counts: what the reader loop owns in the
lock is fixed by its program counter, and a task that waits with a guard in
hand owns two entries.

## Main definitions

* `ReaderNeeds`: The forwarder the reader loop waits for.
* `Deadlocked`: That forwarder waits for the reader loop's guard.
* `Clear`: The moves that close a cycle of waits are not taken.
* `readerEntries`: What the reader loop owns in the lock at each point.
* `Inv`: What holds along every clear run.

## Theorems

* `inv_of_quiet`: Actions beside the lock that fill no queue.
* `inv_of_forwarder_lock`: Another task's requests and releases.
* `dropGuards_spec`: The end of an iteration leaves the reader loop nothing.
* `step_inv`: A clear step keeps the invariant.
* `not_deadlocked_of_inv`: The invariant excludes a deadlock.
* `reader_not_deadlocked`: No clear run deadlocks.
* `reader_deadlocks`: Without the condition a run does.
-/


namespace Rathole

namespace Client

namespace Udp

open FairLock Transition

variable {α : Type}

namespace UdpChannel

/-- The reader loop cannot go on before forwarder `i` does: the forwarder is
    ahead of it in the queue of the lock, or it is the forwarder whose full
    queue the reader loop sends to. -/
def ReaderNeeds (s : UdpChannel α) (i : Nat) : Prop :=
  (∃ ahead m behind, s.lock.waiting = ahead ++ (Task.reader, m) :: behind ∧
    (Task.forwarder i, Mode.write) ∈ ahead) ∨
  (∃ p shadowed, s.reader = .sending p i shadowed ∧ s.Full i)

/-- The reader loop waits, with a read guard in hand, for a forwarder that
    waits for that guard in order to write. -/
def Deadlocked (s : UdpChannel α) : Prop :=
  ∃ i, s.lock.Holds .reader .read ∧ s.ReaderNeeds i ∧
    (Task.forwarder i, Mode.write) ∈ s.lock.waiting

/-- The three moves that close a cycle of waits are not taken: the second
    guard is not asked for over a live first one while somebody is queued, a
    packet is not sent to a full queue whose forwarder has left its loop, and
    a forwarder does not leave its loop while the reader loop waits for room
    in its queue. -/
def Clear [DecidableEq α] (s : UdpChannel α) : Action α → Prop
  | .checkMap => match s.reader with
      | .firstGuard p => (s.portMap.lookup p.source).isSome → s.lock.waiting = []
      | _ => True
  | .lookupSender => match s.reader with
      | .secondGuard p _ => match s.portMap.lookup p.source with
          | some i => s.Full i → ¬ s.lock.Waits (.forwarder i)
          | none => True
      | _ => True
  | .leave i _ => match s.reader with
      | .sending _ j _ => j = i → ¬ s.Full i
      | _ => True
  | _ => True

instance [DecidableEq α] (s : UdpChannel α) (a : Action α) : Decidable (s.Clear a) := by
  unfold Clear
  repeat' split
  all_goals infer_instance

/-- The entries of the lock the reader loop owns at each point. -/
def readerEntries : ReaderPc α → List (Task × Mode)
  | .recv => []
  | .firstGuard _ => [(.reader, .read)]
  | .writeGuard _ => [(.reader, .write)]
  | .secondGuard _ shadowed => if shadowed then [(.reader, .read), (.reader, .read)]
      else [(.reader, .read)]
  | .sending _ _ shadowed => if shadowed then [(.reader, .read), (.reader, .read)]
      else [(.reader, .read)]
  | .stopped => []

/-- What holds along every clear run. -/
structure Inv (s : UdpChannel α) : Prop where
  sound : s.lock.Sound
  owned : s.lock.owned .reader = readerEntries s.reader
  second : ∀ p, s.reader = .secondGuard p true → ¬ s.lock.Waits .reader
  sending : ∀ p i shadowed, s.reader = .sending p i shadowed → ¬ s.lock.Waits .reader
  room : ∀ p i shadowed, s.reader = .sending p i shadowed → s.Full i →
    ¬ s.lock.Waits (.forwarder i)

theorem inv_initial : (initial : UdpChannel α).Inv where
  sound := RwLock.sound_free
  owned := rfl
  second := fun p h => by simp only [initial, reduceCtorEq] at h
  sending := fun p i sh h => by simp only [initial, reduceCtorEq] at h
  room := fun p i sh h => by simp only [initial, reduceCtorEq] at h

theorem full_setForwarder {s : UdpChannel α} {i j : Nat} {f : Forwarder α}
    (h : (s.setForwarder i f).Full j) :
    (j = i ∧ udpSendqSize ≤ f.inbound.length) ∨ s.Full j := by
  rcases h with ⟨g, hg, hpc, hlen⟩
  simp only [setForwarder, Option.mem_def] at hg
  -- Only the queue of the forwarder that is set can have changed.
  by_cases hji : j = i
  · rw [hji, Function.update_self, Option.some.injEq] at hg
    rw [hg]
    exact Or.inl ⟨hji, hlen⟩
  · rw [Function.update_of_ne hji] at hg
    exact Or.inr ⟨g, hg, hpc, hlen⟩

/-- An action that leaves the lock and the reader loop alone and fills no
    queue. -/
theorem inv_of_quiet {s s' : UdpChannel α} (h : s.Inv) (hl : s'.lock = s.lock)
    (hr : s'.reader = s.reader) (hf : ∀ i, s'.Full i → s.Full i) : s'.Inv where
  sound := by rw [hl]; exact h.sound
  owned := by rw [hl, hr]; exact h.owned
  second := by
    intro p hp
    rw [hl]
    exact h.second p (hr ▸ hp)
  sending := by
    intro p i sh hp
    rw [hl]
    exact h.sending p i sh (hr ▸ hp)
  room := by
    intro p i sh hp hfull
    rw [hl]
    exact h.room p i sh (hr ▸ hp) (hf i hfull)

/-- The reader loop owns what it did before when another task asks for a
    guard or gives one back. -/
theorem inv_of_forwarder_lock {s s' : UdpChannel α} (h : s.Inv) (hr : s'.reader = s.reader)
    (hsound : s'.lock.Sound) (howned : s'.lock.owned .reader = s.lock.owned .reader)
    (hwaits : s'.lock.Waits .reader → s.lock.Waits .reader)
    (hroom : ∀ p i sh, s.reader = .sending p i sh → s'.Full i →
      ¬ s'.lock.Waits (.forwarder i)) : s'.Inv where
  sound := hsound
  owned := by rw [howned, hr]; exact h.owned
  second := fun p hp hw => h.second p (hr ▸ hp) (hwaits hw)
  sending := fun p i sh hp hw => h.sending p i sh (hr ▸ hp) (hwaits hw)
  room := fun p i sh hp hfull => hroom p i sh (hr ▸ hp) hfull

/-- A reader loop that is neither at its second guard with the first alive
    nor sending has only its bookkeeping to keep. -/
theorem inv_of_pc {s' : UdpChannel α} (hsound : s'.lock.Sound)
    (howned : s'.lock.owned .reader = readerEntries s'.reader)
    (h2 : ∀ p, s'.reader ≠ .secondGuard p true)
    (hs : ∀ p i sh, s'.reader ≠ .sending p i sh) : s'.Inv where
  sound := hsound
  owned := howned
  second := fun p hp => absurd hp (h2 p)
  sending := fun p i sh hp => absurd hp (hs p i sh)
  room := fun p i sh hp => absurd hp (hs p i sh)

/-- The reader loop holds the guard it asked for once it no longer waits. -/
theorem holds_of_pc {s : UdpChannel α} (h : s.Inv) (hw : ¬ s.lock.Waits .reader) {m : Mode}
    (hm : (Task.reader, m) ∈ readerEntries s.reader) : s.lock.Holds .reader m := by
  rw [← h.owned] at hm
  exact RwLock.holds_of_owned hm hw

theorem not_deadlocked_of_inv {s : UdpChannel α} (h : s.Inv) : ¬ s.Deadlocked := by
  rintro ⟨i, hhold, hneed, hwait⟩
  rcases hneed with ⟨ahead, m, behind, heq, _⟩ | ⟨p, sh, hpc, hfull⟩
  · -- Waiting for a guard with one in hand takes two entries.
    have hw : s.lock.Waits .reader := ⟨m, by
      rw [heq]
      exact List.mem_append_right _ List.mem_cons_self⟩
    have htwo := RwLock.two_le_owned hhold hw
    rw [h.owned] at htwo
    cases hr : s.reader with
    | recv => simp [hr, readerEntries] at htwo
    | firstGuard p => simp [hr, readerEntries] at htwo
    | writeGuard p => simp [hr, readerEntries] at htwo
    | stopped => simp [hr, readerEntries] at htwo
    | secondGuard p sh =>
        cases sh with
        | false => simp [hr, readerEntries] at htwo
        | true => exact h.second p hr hw
    | sending p i sh => exact h.sending p i sh hr hw
  · -- The other cycle, through a full queue, is what `room` excludes.
    exact h.room p i sh hpc hfull ⟨_, hwait⟩

/-- Dropping the guards at the end of an iteration leaves the reader loop
    with nothing. -/
theorem dropGuards_spec {s : UdpChannel α} (h : s.Inv) (shadowed : Bool)
    (hw : ¬ s.lock.Waits .reader)
    (ho : readerEntries s.reader = if shadowed then [(Task.reader, Mode.read), (.reader, .read)]
      else [(.reader, .read)]) :
    (s.dropGuards shadowed).Sound ∧ (s.dropGuards shadowed).owned .reader = [] := by
  have hhold : s.lock.Holds .reader .read := by
    refine holds_of_pc h hw ?_
    rw [ho]
    cases shadowed <;> simp
  have howned := h.owned
  rw [ho] at howned
  cases shadowed with
  | false =>
      refine ⟨RwLock.sound_release h.sound _ _, ?_⟩
      simp only [dropGuards, Bool.false_eq_true, if_false]
      rw [RwLock.owned_release_self hhold, howned]
      rfl
  | true =>
      -- The shadowed guard goes first, and the reader loop has one left.
      have hone : (s.lock.release .reader .read).owned .reader = [(.reader, .read)] := by
        rw [RwLock.owned_release_self hhold, howned]
        rfl
      have hhold' : (s.lock.release .reader .read).Holds .reader .read := by
        refine RwLock.holds_of_owned (by rw [hone]; exact List.mem_singleton_self _) ?_
        rintro ⟨m, hm⟩
        exact hw ⟨m, RwLock.mem_waiting_release hm⟩
      refine ⟨RwLock.sound_release (RwLock.sound_release h.sound _ _) _ _, ?_⟩
      simp only [dropGuards, if_true]
      rw [RwLock.owned_release_self hhold', hone]
      rfl

theorem readPacket_inv {s s' : UdpChannel α} {p : UdpTraffic α} (h : s.Inv)
    (hst : s.readPacket p = some s') : s'.Inv := by
  rcases readPacket_cases hst with ⟨hr, rfl⟩
  refine inv_of_pc (RwLock.sound_request h.sound _ _) ?_ (by simp) (by simp)
  simp only [RwLock.owned_request_self, h.owned, hr, readerEntries, List.nil_append]

theorem readError_inv {s s' : UdpChannel α} (h : s.Inv) (hst : s.readError = some s') :
    s'.Inv := by
  rcases readError_cases hst with ⟨hr, rfl⟩
  refine inv_of_pc h.sound ?_ (by simp) (by simp)
  simp only [h.owned, hr, readerEntries]

theorem sendInbound_inv {s s' : UdpChannel α} (h : s.Inv) (hst : s.sendInbound = some s') :
    s'.Inv := by
  rcases sendInbound_cases hst with ⟨p, i, sh, f, hr, _, hcase⟩
  have hr' : s'.reader = .recv := by
    rcases hcase with ⟨_, rfl⟩ | ⟨_, _, rfl⟩ <;> rfl
  have hl' : s'.lock = s.dropGuards sh := by
    rcases hcase with ⟨_, rfl⟩ | ⟨_, _, rfl⟩ <;> rfl
  have hdrop := dropGuards_spec h sh (h.sending p i sh hr) (by rw [hr]; rfl)
  refine inv_of_pc (by rw [hl']; exact hdrop.1) ?_ (by simp [hr']) (by simp [hr'])
  rw [hl', hr', hdrop.2]
  rfl

/-- Taking a packet off a queue, or moving to another point of the loop,
    fills no queue. -/
theorem forwarder_inv {s : UdpChannel α} {i : Nat} {f g : Forwarder α} (h : s.Inv)
    (hf : s.forwarders i = some f) (hlive : f.pc ≠ .returned)
    (hlen : g.inbound.length ≤ f.inbound.length) : (s.setForwarder i g).Inv := by
  refine inv_of_quiet h rfl rfl (fun j hfull => ?_)
  rcases full_setForwarder hfull with ⟨rfl, hge⟩ | hold
  · exact ⟨f, hf, hlive, le_trans hge hlen⟩
  · exact hold

variable [DecidableEq α]

/-- The first guard is dropped before the write lock is asked for, or kept
    while the second guard is granted on the spot. -/
theorem checkMap_inv {s s' : UdpChannel α} (h : s.Inv) (hok : s.Clear .checkMap)
    (hst : s.checkMap = some s') : s'.Inv := by
  rcases checkMap_cases hst with ⟨p, hr, hw, hcase⟩
  have hhold : s.lock.Holds .reader .read :=
    holds_of_pc h hw (by simp only [hr, readerEntries, List.mem_singleton])
  have howned : s.lock.owned .reader = [(.reader, .read)] := by rw [h.owned, hr, readerEntries]
  rcases hcase with ⟨_, rfl⟩ | ⟨hsome, rfl⟩
  · refine inv_of_pc (RwLock.sound_request (RwLock.sound_release h.sound _ _) _ _) ?_
      (by simp) (by simp)
    rw [RwLock.owned_request_self, RwLock.owned_release_self hhold, howned]
    rfl
  · -- With nobody queued the second guard is granted beside the first.
    have hq : (s.lock.request .reader .read).waiting = [] :=
      RwLock.request_read_shared h.sound (by
        simp only [Clear, hr] at hok
        exact hok hsome) hhold
    refine ⟨RwLock.sound_request h.sound _ _, ?_, ?_, ?_, ?_⟩
    · rw [RwLock.owned_request_self, howned]
      rfl
    · rintro q _ ⟨m, hm⟩
      rw [hq] at hm
      exact absurd hm List.not_mem_nil
    · intro q i sh hp
      simp only [reduceCtorEq] at hp
    · intro q i sh hp
      simp only [reduceCtorEq] at hp

theorem connect_inv {s s' : UdpChannel α} {ok : Bool} (h : s.Inv)
    (hst : s.connect ok = some s') : s'.Inv := by
  rcases connect_cases hst with ⟨p, hr, hw, hcase⟩
  have hr' : s'.reader = .secondGuard p false := by
    rcases hcase with ⟨_, rfl⟩ | ⟨_, rfl⟩ <;> rfl
  have hl' : s'.lock = (s.lock.release .reader .write).request .reader .read := by
    rcases hcase with ⟨_, rfl⟩ | ⟨_, rfl⟩ <;> rfl
  -- The write guard goes before the second read guard is asked for.
  have hhold : s.lock.Holds .reader .write :=
    holds_of_pc h hw (by simp only [hr, readerEntries, List.mem_singleton])
  refine inv_of_pc ?_ ?_ (by simp [hr']) (by simp [hr'])
  · rw [hl']
    exact RwLock.sound_request (RwLock.sound_release h.sound _ _) _ _
  · rw [hl', hr', RwLock.owned_request_self, RwLock.owned_release_self hhold, h.owned, hr]
    rfl

theorem lookupSender_inv {s s' : UdpChannel α} (h : s.Inv) (hok : s.Clear .lookupSender)
    (hst : s.lookupSender = some s') : s'.Inv := by
  rcases lookupSender_cases hst with ⟨p, sh, hr, hw, ⟨i, hl, rfl⟩ | ⟨_, rfl⟩⟩
  · -- The reader loop has its guard, and keeps it over the send.
    refine ⟨h.sound, ?_, ?_, fun q j sh' _ => hw, ?_⟩
    · simp only [h.owned, hr, readerEntries]
    · intro q hq
      simp only [reduceCtorEq] at hq
    · intro q j sh' hq hfull
      simp only [ReaderPc.sending.injEq] at hq
      simp only [Clear, hr, hl] at hok
      rw [← hq.2.1] at hfull ⊢
      exact hok hfull
  · have hdrop := dropGuards_spec h sh hw (by rw [hr]; rfl)
    exact inv_of_pc hdrop.1 hdrop.2 (by simp) (by simp)

theorem leave_inv {s s' : UdpChannel α} {i : Nat} {why : LoopExit} (h : s.Inv)
    (hok : s.Clear (.leave i why)) (hst : s.leave i why = some s') : s'.Inv := by
  rcases leave_cases hst with ⟨f, hf, hpc, rfl⟩
  have hne : Task.forwarder i ≠ Task.reader := by simp
  -- The queue is as it was; only the forwarder has moved on.
  have hfull' : ∀ j, (s.setForwarder i { f with pc := .cleaning }).Full j → s.Full j := by
    intro j hfull
    rcases full_setForwarder hfull with ⟨rfl, hge⟩ | hold
    · exact ⟨f, hf, by simp [hpc], hge⟩
    · exact hold
  refine inv_of_forwarder_lock h rfl (RwLock.sound_request h.sound _ _)
    (RwLock.owned_request_ne _ _ hne) ?_ ?_
  · rintro ⟨m, hm⟩
    rcases RwLock.mem_waiting_request hm with hm' | hm'
    · exact ⟨m, hm'⟩
    · simp only [Prod.mk.injEq, reduceCtorEq, false_and] at hm'
  · rintro p j sh hp hfull ⟨m, hm⟩
    rcases RwLock.mem_waiting_request hm with hm' | hm'
    · exact h.room p j sh hp (hfull' j hfull) ⟨m, hm'⟩
    · -- The forwarder that leaves is not the one the reader loop waits for.
      simp only [Prod.mk.injEq, Task.forwarder.injEq] at hm'
      rw [hm'.1] at hp hfull
      have hpc' : s.reader = .sending p i sh := hp
      simp only [Clear, hpc', forall_true_left] at hok
      exact hok (hfull' i hfull)

theorem cleanup_inv {s s' : UdpChannel α} {i : Nat} (h : s.Inv)
    (hst : s.cleanup i = some s') : s'.Inv := by
  rcases cleanup_cases hst with ⟨f, hf, hpc, hwf, rfl⟩
  have hne : Task.forwarder i ≠ Task.reader := by simp
  refine inv_of_forwarder_lock h rfl (RwLock.sound_release h.sound _ _)
    (RwLock.owned_release_ne _ _ hne) ?_ ?_
  · -- Letting others in makes nobody wait who did not.
    rintro ⟨m, hm⟩
    exact ⟨m, RwLock.mem_waiting_release hm⟩
  · rintro p j sh hp hfull ⟨m, hm⟩
    refine h.room p j sh hp ?_ ⟨m, RwLock.mem_waiting_release hm⟩
    rcases full_setForwarder hfull with ⟨rfl, hge⟩ | hold
    · exact ⟨f, hf, by simp [hpc], hge⟩
    · exact hold

/-- A clear step keeps the invariant, action by action. -/
theorem step_inv {s s' : UdpChannel α} {a : Action α} (h : s.Inv) (hok : s.Clear a)
    (hst : s.step a = some s') : s'.Inv := by
  cases a with
  | packet p => exact readPacket_inv h hst
  | readError => exact readError_inv h hst
  | checkMap => exact checkMap_inv h hok hst
  | connect ok => exact connect_inv h hst
  | lookupSender => exact lookupSender_inv h hok hst
  | sendInbound => exact sendInbound_inv h hst
  | inbound i ok =>
      rcases inbound_cases hst with ⟨f, d, rest, hf, hpc, hq, rfl⟩
      exact forwarder_inv h hf (by simp [hpc]) (by simp [hq])
  | receive i data =>
      rcases receive_cases hst with ⟨f, hf, hpc, rfl⟩
      exact forwarder_inv h hf (by simp [hpc]) (le_refl _)
  | emit i =>
      rcases emit_cases hst with ⟨f, data, hf, hpc, ⟨_, rfl⟩ | ⟨_, rfl⟩⟩
      · exact inv_of_quiet (forwarder_inv (g := { f with pc := .looping }) h hf (by simp [hpc])
          (le_refl _)) rfl rfl (fun _ hj => hj)
      · exact forwarder_inv h hf (by simp [hpc]) (le_refl _)
  | leave i why => exact leave_inv h hok hst
  | cleanup i => exact cleanup_inv h hst
  | writeOut ok =>
      rcases writeOut_cases hst with ⟨t, rest, _, _, rfl⟩
      exact inv_of_quiet h rfl rfl (fun _ hj => hj)

/-- No run whose steps are all clear reaches a deadlock. -/
theorem reader_not_deadlocked {s : UdpChannel α} (h : Reaches step Clear initial s) :
    ¬ s.Deadlocked :=
  not_deadlocked_of_inv (h.invariant (fun _ _ _ hi hok hst => step_inv hi hok hst) inv_initial)

/-- Two packets of one visitor. The second finds its entry, so the first guard
    stays out; the forwarder times out in between. -/
def timeoutRun : List (Action Nat) :=
  [.packet ⟨7, [1]⟩, .checkMap, .connect true, .lookupSender, .sendInbound, .inbound 0 true,
    .packet ⟨7, [2]⟩, .leave 0 .timeout, .checkMap]

/-- The forwarder queues for the write lock behind the first guard of the
    reader loop, and the second guard queues behind the forwarder. -/
theorem reader_deadlocks :
    ¬ ∀ s : UdpChannel Nat, Reaches step (fun _ _ => True) initial s → ¬ s.Deadlocked := by
  intro h
  rcases hrun : exec step initial timeoutRun with _ | s
  · exact absurd hrun (by decide)
  · have hlock : (exec step initial timeoutRun).map lock = some {
        holders := [(.reader, .read)]
        waiting := [(.forwarder 0, .write), (.reader, .read)] } := by decide
    rw [hrun, Option.map_some, Option.some.injEq] at hlock
    refine h s (reaches_of_exec timeoutRun initial s hrun) ⟨0, ?_, Or.inl ?_, ?_⟩
    · rw [hlock]
      decide
    · refine ⟨[(.forwarder 0, .write)], .read, [], ?_, List.mem_singleton_self _⟩
      rw [hlock]
      rfl
    · rw [hlock]
      exact List.mem_cons_self

/-- The same two packets with the forwarder staying in its loop. -/
theorem reader_not_deadlocked_two_packets : ∃ s : UdpChannel Nat,
    exec step initial [.packet ⟨7, [1]⟩, .checkMap, .connect true, .lookupSender, .sendInbound,
      .packet ⟨7, [2]⟩, .checkMap, .lookupSender] = some s ∧ ¬ s.Deadlocked := by
  refine ⟨_, rfl, reader_not_deadlocked (reaches_of_legal [.packet ⟨7, [1]⟩, .checkMap,
    .connect true, .lookupSender, .sendInbound, .packet ⟨7, [2]⟩, .checkMap, .lookupSender]
    _ _ ?_ rfl)⟩
  decide

end UdpChannel

end Udp

end Client

end Rathole
