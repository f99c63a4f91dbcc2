import Rathole.Client.UdpMap

/-!
# Entries Without a Forwarder

Whether an entry of the port map always has a forwarder task behind it. A
forwarder takes its entry away after its loop, and there are two ways out of
the function that skip what is after the loop: the `?` on the send to the
service, and the `?` on the send into the outbound queue. Either leaves the
entry with a queue nobody empties, and since the visitor has an entry no new
forwarder is made for it. Its packets are sent to that queue, an error that is
ignored, until the data channel ends.

The three ways that `break` clean up. A forwarder has its entry until it
returns (`MapInv.live`), so taking one of the two short ways always leaves a
stale one.

## Main definitions

* `Attended`: Every entry points to a forwarder that has not returned.
* `CleansUp`: The step is not one of the two that skip the clean-up.

## Theorems

* `step_attended_iff`: What one step does to the entries.
* `attended_throughout_iff`: What a whole run does.
* `entry_outlives_forwarder`: A run that leaves a stale entry.
-/


namespace Rathole

namespace Client

namespace Udp

open Transition

variable {α : Type} [DecidableEq α]

namespace UdpChannel

/-- Every entry points to a forwarder that has not returned. -/
def Attended (s : UdpChannel α) : Prop :=
  ∀ v i, s.portMap.lookup v = some i → s.Runs i v

/-- The send to the service succeeds, and there is somebody to take a reply. -/
def CleansUp (s : UdpChannel α) : Action α → Prop
  | .inbound _ ok => ok = true
  | .emit _ => s.writerAlive = true
  | _ => True

instance (s : UdpChannel α) : ∀ a : Action α, Decidable (s.CleansUp a)
  | .inbound _ ok => inferInstanceAs (Decidable (ok = true))
  | .emit _ => inferInstanceAs (Decidable (s.writerAlive = true))
  | .packet _ | .readError | .checkMap | .connect _ | .lookupSender | .sendInbound
  | .receive _ _ | .leave _ _ | .cleanup _ | .writeOut _ => isTrue trivial

theorem attended_initial : (initial : UdpChannel α).Attended := by
  intro v i h
  simp only [initial, AList.lookup_empty, reduceCtorEq] at h

section Steps

variable {s s' : UdpChannel α} {a : Action α} {i : Nat} {f g : Forwarder α}

/-- A forwarder that goes on leaves every entry as it was. -/
theorem attended_setForwarder (h : s.Attended) (hf : s.forwarders i = some f)
    (hsrc : g.source = f.source) (hlive : g.pc ≠ .returned) : (s.setForwarder i g).Attended := by
  intro v j hl
  rcases h v j hl with ⟨f', hf', hv, hlive'⟩
  by_cases hj : j = i
  · rw [hj, hf, Option.mem_some] at hf'
    refine ⟨g, ?_, by rw [hsrc, hf', hv], hlive⟩
    simp only [setForwarder, hj, Function.update_self, Option.mem_def]
  · refine ⟨f', ?_, hv, hlive'⟩
    simp only [setForwarder]
    rw [Function.update_of_ne hj]
    exact hf'

/-- A forwarder that returns with its entry still there leaves it stale. -/
theorem not_attended_of_returned (h : s.MapInv) (hf : s.forwarders i = some f)
    (hlive : f.pc ≠ .returned) (hret : g.pc = .returned) : ¬ (s.setForwarder i g).Attended := by
  intro hatt
  rcases hatt f.source i (h.live i f hf hlive) with ⟨g', hg', _, hlive'⟩
  simp only [setForwarder, Function.update_self, Option.mem_some] at hg'
  rw [← hg'] at hlive'
  exact hlive' hret

/-- Nothing that is said of entries changes but for the queues. -/
theorem attended_of_eq (h : s.Attended) (hm : s'.portMap = s.portMap)
    (hf : s'.forwarders = s.forwarders) : s'.Attended := by
  intro v i hl
  rw [hm] at hl
  simpa only [Runs, hf] using h v i hl

/-- A new forwarder comes with its entry. -/
theorem connect_attended {ok : Bool} (hmap : s.MapInv) (h : s.Attended)
    (hst : s.connect ok = some s') : s'.Attended := by
  rcases connect_cases hst with ⟨p, _, _, ⟨_, rfl⟩ | ⟨_, rfl⟩⟩
  · intro v i hl
    rcases HashMap.lookup_insert_cases hl with ⟨hv, hi⟩ | ⟨_, hold⟩
    · rw [hi, hv]
      exact ⟨_, Function.update_self .., rfl, by simp⟩
    · rcases h v i hold with ⟨f, hf, hv, hlive⟩
      refine ⟨f, ?_, hv, hlive⟩
      have hne : i ≠ s.spawned := by
        intro hi
        rw [hi, hmap.fresh s.spawned (le_refl _)] at hf
        exact absurd hf (by simp)
      simp only [Function.update_of_ne hne]
      exact hf
  · exact attended_of_eq h rfl rfl

/-- The forwarder that returns after its loop has taken its entry away. -/
theorem cleanup_attended (hmap : s.MapInv) (h : s.Attended) (hst : s.cleanup i = some s') :
    s'.Attended := by
  rcases cleanup_cases hst with ⟨f, hf, hpc, _, rfl⟩
  have hlive : f.pc ≠ .returned := by simp only [hpc, ne_eq, reduceCtorEq, not_false_eq_true]
  intro v j hl
  rcases HashMap.lookup_erase_cases hl with ⟨hv, hold⟩
  rcases h v j hold with ⟨g, hg, hgv, hglive⟩
  refine ⟨g, ?_, hgv, hglive⟩
  have hne : j ≠ i := by
    intro hj
    rw [hj] at hold
    exact hv ((lookup_eq_iff hmap hf hlive).mp hold).symm
  simp only [setForwarder]
  rw [Function.update_of_ne hne]
  exact hg

/-- A step keeps a forwarder behind every entry exactly if it is not one of
    the two that skip the clean-up. -/
theorem step_attended_iff (hmap : s.MapInv) (h : s.Attended) (hst : s.step a = some s') :
    s'.Attended ↔ s.CleansUp a := by
  have hkeep : ∀ {b : Action α}, s.CleansUp b → s'.Attended → (s'.Attended ↔ s.CleansUp b) :=
    fun hb hs' => ⟨fun _ => hb, fun _ => hs'⟩
  cases a with
  | inbound i ok =>
      rcases inbound_cases hst with ⟨f, d, rest, hf, hpc, _, rfl⟩
      have hlive : f.pc ≠ .returned := by simp only [hpc, ne_eq, reduceCtorEq, not_false_eq_true]
      cases ok with
      | true => exact hkeep rfl (attended_setForwarder h hf rfl (by simp))
      | false =>
          -- Its entry is still there, and the task is not.
          have hstale := not_attended_of_returned (g := { f with
            inbound := rest, pc := .returned }) hmap hf hlive rfl
          exact ⟨fun hs' => absurd hs' hstale, fun hok => absurd hok Bool.false_ne_true⟩
  | emit i =>
      rcases emit_cases hst with ⟨f, data, hf, hpc, ⟨hw, rfl⟩ | ⟨hw, rfl⟩⟩
      · refine hkeep hw
          (attended_of_eq (s := s.setForwarder i { f with pc := .looping }) ?_ rfl rfl)
        exact attended_setForwarder h hf rfl (by simp)
      · have hlive : f.pc ≠ .returned := by
          simp only [hpc, ne_eq, reduceCtorEq, not_false_eq_true]
        have hstale := not_attended_of_returned (g := { f with pc := .returned }) hmap hf hlive rfl
        refine ⟨fun hs' => absurd hs' hstale, fun hok => ?_⟩
        simp only [CleansUp, hw, Bool.false_eq_true] at hok
  -- The others return after the clean-up, if they return at all.
  | connect ok => exact hkeep trivial (connect_attended hmap h hst)
  | cleanup i => exact hkeep trivial (cleanup_attended hmap h hst)
  | receive i data =>
      rcases receive_cases hst with ⟨f, hf, _, rfl⟩
      exact hkeep trivial (attended_setForwarder h hf rfl (by simp))
  | leave i why =>
      rcases leave_cases hst with ⟨f, hf, _, rfl⟩
      refine hkeep trivial (attended_of_eq (s := s.setForwarder i { f with pc := .cleaning }) ?_
        rfl rfl)
      exact attended_setForwarder h hf rfl (by simp)
  | sendInbound =>
      rcases sendInbound_cases hst with ⟨p, i, sh, f, _, hf, ⟨_, rfl⟩ | ⟨hlive, _, rfl⟩⟩
      · exact hkeep trivial (attended_of_eq h rfl rfl)
      · have hfree : UdpChannel.Attended { s with reader := .recv, lock := s.dropGuards sh } :=
          attended_of_eq h rfl rfl
        exact hkeep trivial (attended_setForwarder hfree hf rfl hlive)
  | packet p =>
      rcases readPacket_cases hst with ⟨_, rfl⟩
      exact hkeep trivial (attended_of_eq h rfl rfl)
  | readError =>
      rcases readError_cases hst with ⟨_, rfl⟩
      exact hkeep trivial (attended_of_eq h rfl rfl)
  | checkMap =>
      rcases checkMap_cases hst with ⟨p, _, _, ⟨_, rfl⟩ | ⟨_, rfl⟩⟩
      · exact hkeep trivial (attended_of_eq h rfl rfl)
      · exact hkeep trivial (attended_of_eq h rfl rfl)
  | lookupSender =>
      rcases lookupSender_cases hst with ⟨p, sh, _, _, ⟨i, _, rfl⟩ | ⟨_, rfl⟩⟩
      · exact hkeep trivial (attended_of_eq h rfl rfl)
      · exact hkeep trivial (attended_of_eq h rfl rfl)
  | writeOut ok =>
      rcases writeOut_cases hst with ⟨t, rest, _, _, rfl⟩
      exact hkeep trivial (attended_of_eq h rfl rfl)

end Steps

/-- Along a run every entry of the port map has a forwarder that has not
    returned, in every state, exactly if no send to the service fails and no
    reply is given to a writer that has stopped. -/
theorem attended_throughout_iff (as : List (Action α)) :
    Throughout step Attended (initial : UdpChannel α) as ↔ Legal step CleansUp initial as :=
  throughout_iff_legal (fun _ _ _ hmap hst => step_mapInv hmap hst)
    (fun _ _ _ hmap h hst => step_attended_iff hmap h hst) as initial mapInv_initial
    attended_initial

/-- One visitor, whose first packet cannot be sent to the service, and its
    second packet. -/
def refusedRun : List (Action Nat) :=
  [.packet ⟨7, [1]⟩, .checkMap, .connect true, .lookupSender, .sendInbound, .inbound 0 false,
    .packet ⟨7, [2]⟩, .checkMap, .lookupSender, .sendInbound]

/-- The entry outlives its forwarder, and the second packet is discarded
    without another forwarder being made for it. -/
theorem entry_outlives_forwarder :
    ¬ (∀ s : UdpChannel Nat, Reaches step (fun _ _ => True) initial s → s.Attended) ∧
    ∃ s : UdpChannel Nat, exec step initial refusedRun = some s ∧ s.reader = .recv ∧
      s.portMap.lookup 7 = some 0 ∧ s.spawned = 1 ∧
      s.forwarders 0 = some { source := 7, inbound := [], pc := .returned } := by
  rcases hrun : exec step initial refusedRun with _ | s
  · exact absurd hrun (by decide)
  · have hend : (exec step initial refusedRun).map (fun s =>
        (s.reader, s.portMap.lookup 7, s.spawned, s.forwarders 0)) = some (.recv, some 0, 1,
          some { source := 7, inbound := [], pc := .returned }) := by decide
    rw [hrun, Option.map_some, Option.some.injEq, Prod.mk.injEq, Prod.mk.injEq,
      Prod.mk.injEq] at hend
    refine ⟨fun h => ?_, s, rfl, hend.1, hend.2.1, hend.2.2.1, hend.2.2.2⟩
    rcases h s (reaches_of_exec refusedRun initial s hrun) 7 0 hend.2.1 with ⟨f, hf, _, hlive⟩
    rw [hend.2.2.2, Option.mem_some] at hf
    rw [← hf] at hlive
    exact hlive rfl

end UdpChannel

end Udp

end Client

end Rathole
