import Rathole.Relay.Waiting

/-!
# The Latest Registration

The table has one sender for an id, and several sockets may be registered
under it: a client that reconnects is let in before its old socket has timed
out. `Registry` is the relay together with the order in which its sockets
registered, which the relay itself does not keep.

What the table should say about an id is the latest registered socket that is
still in its loop. It says so after every registration. But a socket that
leaves its loop is forgotten by id: the cleanup task removes whatever is
registered under the id by then, and until it comes the table points to the
socket that left, even if an older one is still there.

## Main definitions

* `Registry`, `Registry.step`: The relay and the order of registration.
* `Registry.latest`: The latest registered socket of an id that is in its
  loop.
* `Registry.Tracks`: The table has the latest socket of every id.
* `Registry.Alone`: When the cleanup task removes an id, or the latest socket
  of an id leaves, no other socket of that id is in its loop.

## Theorems

* `tracks_iff_alone`: A step keeps track exactly if it meets the condition.
* `tracks_throughout_iff`: So does a run.
* `cleanup_removes_newer`: A run that does not.
-/

namespace Rathole

open FairLock Transition Numbered

/-- The relay, and its registered sockets, the latest first. -/
structure Registry where
  relay : Relay
  order : List Nat

namespace Relay

/-- Socket `n` is registered under an id and in its loop. -/
def Live (s : Relay) (id : String) (n : Nat) : Bool :=
  match s.sockets[n]? with
  | some x => x.id = id ∧ x.InLoop
  | none => false

variable {env : Env} {s t : Relay} {a : Action}

theorem live_iff {id : String} {n : Nat} :
    s.Live id n = true ↔ ∃ x, s.sockets[n]? = some x ∧ x.id = id ∧ x.InLoop := by
  unfold Live
  cases hx : s.sockets[n]? with
  | none => simp only [Bool.false_eq_true, reduceCtorEq, false_and, exists_false]
  | some x => simp only [decide_eq_true_eq, Option.some.injEq, exists_eq_left']

/-- A socket gets into its loop by registering. -/
theorem inLoop_before_move {n : Nat} {w z : Socket} (h : SocketMove env s n w a z)
    (hl : z.InLoop) (hne : a ≠ .enlist n) : w.InLoop := by
  cases h with
  | queued msg hw => exact hw
  | @first m hpc =>
      rcases firstPc_cases env m with hf | hf | hf <;> simp only [Socket.InLoop, hf] at hl
  | online hpc => exact absurd hl id
  | enlist hpc => exact absurd rfl hne
  | forward hpc _ => simp only [Socket.InLoop, hpc]
  | pushed hpc => simp only [Socket.InLoop, hpc]
  | message hpc => exact hl
  | pushFailed hpc => exact absurd hl id
  | receiveFailed hpc => exact absurd hl id
  | disconnected hpc => exact absurd hl id
  | idle hpc _ => exact absurd hl id
  | report hpc => exact absurd hl id

/-- What an action does that takes a socket out of its loop. -/
theorem leaves_cases {n : Nat} (ha : a.leaves = some n) (h : step env s a = some t) :
    ∃ x, s.sockets[n]? = some x ∧ x.InLoop ∧ t = s.leaveLoop n x := by
  cases rule_of_step h with
  | pushFailed hx hpc | receiveFailed hx hpc | disconnected hx hpc | idle hx hpc =>
      cases ha
      exact ⟨_, hx, by simp only [Socket.InLoop, hpc], rfl⟩
  | @handled _ r _ hr =>
      -- A handler's action is no socket's.
      cases a with
      | pushed | receive | idle => simp only [Action.handler, reduceCtorEq] at hr
      | _ => simp only [Action.leaves, reduceCtorEq] at ha
  | _ => simp only [Action.leaves, reduceCtorEq] at ha

/-- Whoever is in its loop after a step was so before and did not leave, unless
    it has just registered. -/
theorem live_of_step (h : step env s a = some t) (id : String) {n : Nat}
    (hne : a ≠ .enlist n) : t.Live id n = true ↔ s.Live id n = true ∧ a.leaves ≠ some n := by
  rw [live_iff, live_iff]
  constructor
  · intro hz
    rcases hz with ⟨z, hz, hid, hl⟩
    have hstays : a.leaves ≠ some n := by
      intro hleave
      rcases leaves_cases hleave h with ⟨x, hx, _, ht⟩
      have hset : t.sockets = s.sockets.set n { x with pc := .leaving, queue := [] } := by
        rw [ht]
        rfl
      rw [hset, getElem?_updated hx, Option.some.injEq] at hz
      rw [← hz] at hl
      exact hl
    rcases socket_of_step h hz with hsame | ⟨w, hw, hmove⟩ | ⟨id', hnew⟩
    · exact ⟨⟨z, hsame, hid, hl⟩, hstays⟩
    · exact ⟨⟨w, hw, (id_of_move hmove).symm.trans hid, inLoop_before_move hmove hl hne⟩, hstays⟩
    · rw [hnew] at hl
      exact absurd hl not_false
  · intro hw
    rcases hw with ⟨⟨w, hw, hid, hl⟩, hleave⟩
    rcases socket_survives h hw with ⟨z, hz, hsame | hmove⟩
    · rw [hsame] at hz
      exact ⟨w, hz, hid, hl⟩
    · exact ⟨z, hz, (id_of_move hmove).trans hid, inLoop_of_move hmove hl hleave⟩

/-- A socket that registers is in its loop under its own id only. -/
theorem live_of_enlist {n : Nat} (h : s.enlist n = some t) :
    ∃ x, s.sockets[n]? = some x ∧ t.tunnels = s.tunnels.insert x.id n ∧
      ∀ id, t.Live id n = decide (x.id = id) ∧ s.Live id n = false := by
  rcases enlist_cases h with ⟨x, hx, hpc, _, ht⟩
  refine ⟨x, hx, by rw [ht], ?_⟩
  intro id
  have hz : t.sockets[n]? = some { x with pc := .looping, armed := s.now } := by
    rw [ht]
    exact getElem?_updated hx
  constructor
  · by_cases hid : x.id = id
    · rw [decide_eq_true hid]
      exact live_iff.mpr ⟨_, hz, hid, trivial⟩
    · rw [decide_eq_false hid, ← Bool.not_eq_true, live_iff]
      intro hl
      rcases hl with ⟨z, hz', hid', _⟩
      rw [hz, Option.some.injEq] at hz'
      rw [← hz'] at hid'
      exact hid hid'
  · rw [← Bool.not_eq_true, live_iff]
    intro hl
    rcases hl with ⟨z, hz', _, hl⟩
    rw [hx, Option.some.injEq] at hz'
    rw [← hz', Socket.InLoop, hpc] at hl
    exact hl

end Relay

namespace Registry

/-- The relay when it starts to listen. -/
def initial : Registry where
  relay := Relay.initial
  order := []

/-- One action, which may be a registration. -/
def step (env : Env) (s : Registry) (a : Action) : Option Registry :=
  (Relay.step env s.relay a).map (fun t => { relay := t, order := match a with
    | .enlist n => n :: s.order
    | _ => s.order })

/-- The latest registered socket of an id that is in its loop. -/
def latest (s : Registry) (id : String) : Option Nat := s.order.find? (s.relay.Live id)

/-- The table has the latest registered socket of every id. -/
def Tracks (s : Registry) : Prop :=
  ∀ id n, s.latest id = some n → s.relay.tunnels.lookup id = some n

/-- What is left of the sockets of an id without socket `n`. -/
def latestBut (s : Registry) (id : String) (n : Nat) : Option Nat :=
  s.order.find? (fun m => s.relay.Live id m && m ≠ n)

/-- No socket is in its loop under an id that the cleanup task removes, and
    when the latest socket of an id leaves, it is the only one. -/
def Alone (s : Registry) (a : Action) : Prop :=
  (a = .cleanupRemove → ∀ n id, s.relay.cleanup = .removing n id → s.latest id = none) ∧
    ∀ n id, a.leaves = some n → s.latest id = some n → s.latestBut id n = none

variable {env : Env} {s t : Registry} {a : Action}

/-- A step that is neither a registration nor the end of a loop leaves the
    latest sockets as they are. -/
theorem latest_of_step (h : step env s a = some t) (hne : ∀ n, a ≠ .enlist n) (id : String) :
    t.latest id = match a.leaves with
      | none => s.latest id
      | some n => s.latestBut id n := by
  unfold step at h
  rw [Option.map_eq_some_iff] at h
  rcases h with ⟨u, hu, ht⟩
  have horder : t.order = s.order := by
    rw [← ht]
    cases a <;> first | rfl | exact absurd rfl (hne _)
  have hlive : ∀ m, t.relay.Live id m = (s.relay.Live id m && decide (a.leaves ≠ some m)) := by
    intro m
    have hiff := Relay.live_of_step hu id (hne m)
    rw [← ht, Bool.eq_iff_iff, Bool.and_eq_true, decide_eq_true_eq]
    exact hiff
  rw [latest, horder]
  cases hl : a.leaves with
  | none =>
      simp only
      rw [latest]
      congr 1
      funext m
      rw [hlive m, hl]
      simp only [ne_eq, reduceCtorEq, not_false_eq_true, decide_true, Bool.and_true]
  | some n =>
      simp only
      rw [latestBut]
      congr 1
      funext m
      rw [hlive m, hl]
      simp only [ne_eq, Option.some.injEq, eq_comm]

/-- After a registration the table has the latest socket of its id. -/
theorem tracks_of_enlist {n : Nat} (hi : s.Tracks) (h : step env s (.enlist n) = some t) :
    t.Tracks := by
  unfold step at h
  rw [Option.map_eq_some_iff] at h
  rcases h with ⟨u, hu, ht⟩
  rcases Relay.live_of_enlist (Relay.act_of_step hu) with ⟨x, hx, htunnels, hlive⟩
  intro id m hm
  rw [← ht] at hm ⊢
  simp only at hm ⊢
  rw [latest, List.find?_cons] at hm
  -- The new socket is in front and in its loop.
  by_cases hid : x.id = id
  · rw [(hlive id).1, decide_eq_true hid] at hm
    rw [htunnels, hid, AList.lookup_insert]
    exact hm
  · rw [(hlive id).1, decide_eq_false hid] at hm
    rw [htunnels, AList.lookup_insert_ne (fun heq => hid heq.symm)]
    apply hi
    -- The other ids have the sockets they had.
    rw [latest, ← hm]
    congr 1
    funext k
    by_cases hk : k = n
    · rw [hk, (hlive id).2, (hlive id).1, decide_eq_false hid]
    · rw [Bool.eq_iff_iff, Relay.live_of_step hu id (fun heq => hk (by cases heq; rfl))]
      simp only [Action.leaves, ne_eq, reduceCtorEq, not_false_eq_true, and_true]

/-- Leaving out what is not found first does not change what is found. -/
theorem find?_of_find?_but {p : Nat → Bool} {l : List Nat} {n m : Nat}
    (hne : l.find? p ≠ some n) (h : l.find? (fun k => p k && k ≠ n) = some m) :
    l.find? p = some m := by
  induction l with
  | nil => simp only [List.find?_nil, reduceCtorEq] at h
  | cons k l ih =>
      rw [List.find?_cons] at h hne ⊢
      cases hk : p k with
      | false =>
          simp only [hk, Bool.false_and] at h hne
          exact ih hne h
      | true =>
          simp only [hk] at hne
          have hkn : k ≠ n := fun heq => hne (congrArg some heq)
          simp only [hk, ne_eq, hkn, not_false_eq_true, decide_true, Bool.and_self] at h
          exact h

/-- A registration aside, only a removal writes the table. -/
theorem relay_of_step (h : step env s a = some t) : Relay.step env s.relay a = some t.relay := by
  unfold step at h
  rw [Option.map_eq_some_iff] at h
  rcases h with ⟨u, hu, ht⟩
  rw [← ht]
  exact hu

theorem tracks_of_cleanup (hi : s.Tracks) (h : step env s .cleanupRemove = some t) :
    t.Tracks ↔ s.Alone .cleanupRemove := by
  have hlatest : ∀ id, t.latest id = s.latest id :=
    latest_of_step h (fun n hn => by simp only [reduceCtorEq] at hn)
  rcases Relay.cleanupRemove_cases (Relay.act_of_step (relay_of_step h)) with ⟨k, id, hc, _, ht⟩
  have htunnels : t.relay.tunnels = s.relay.tunnels.erase id := by rw [ht]
  constructor
  · intro htracks
    refine ⟨?_, fun n id' hn => by simp only [Action.leaves, reduceCtorEq] at hn⟩
    intro _ k' id' hc'
    rw [hc] at hc'
    injection hc' with _ hid
    subst hid
    rcases hl : s.latest id with _ | n
    · rfl
    · have hlookup := htracks id n ((hlatest id).trans hl)
      rw [htunnels] at hlookup
      exact absurd rfl (HashMap.lookup_erase_cases hlookup).1
  · -- The id that is removed has no socket in its loop, so the table loses nothing.
    intro halone id' n hn
    rw [hlatest] at hn
    by_cases hid : id' = id
    · rw [hid, halone.1 rfl k id hc] at hn
      simp only [reduceCtorEq] at hn
    · rw [htunnels, AList.lookup_erase_ne hid]
      exact hi id' n hn

theorem tracks_of_leaves {n : Nat} (hi : s.Tracks) (ha : a.leaves = some n)
    (h : step env s a = some t) : t.Tracks ↔ s.Alone a := by
  have hlatest : ∀ id, t.latest id = s.latestBut id n := by
    intro id
    rw [latest_of_step h (fun m hm => by
      rw [hm] at ha
      simp only [Action.leaves, reduceCtorEq] at ha)]
    rw [ha]
  have htunnels : t.relay.tunnels = s.relay.tunnels := by
    rcases Relay.leaves_cases ha (relay_of_step h) with ⟨x, _, _, ht⟩
    rw [ht]
    rfl
  constructor
  · intro htracks
    refine ⟨fun hc => by rw [hc] at ha; simp only [Action.leaves, reduceCtorEq] at ha, ?_⟩
    intro n' id hn' hl
    rw [ha, Option.some.injEq] at hn'
    subst hn'
    rcases hb : s.latestBut id n with _ | m
    · rfl
    · -- The table would have to point to two sockets.
      have hm := htracks id m ((hlatest id).trans hb)
      rw [htunnels, hi id n hl, Option.some.injEq] at hm
      have hne := List.find?_some hb
      rw [Bool.and_eq_true, decide_eq_true_eq] at hne
      exact absurd hm.symm hne.2
  · -- What is left of the id is what was found there before.
    intro halone id m hm
    rw [hlatest] at hm
    rw [htunnels]
    apply hi
    apply find?_of_find?_but _ hm
    intro hl
    rw [halone.2 n id ha hl] at hm
    simp only [reduceCtorEq] at hm

/-- One step keeps track exactly if it meets the condition. -/
theorem tracks_iff_alone (hi : s.Tracks) (h : step env s a = some t) :
    t.Tracks ↔ s.Alone a := by
  by_cases hen : ∃ n, a = .enlist n
  · rcases hen with ⟨n, hn⟩
    subst hn
    have halone : s.Alone (.enlist n) := by
      refine ⟨fun hc => by simp only [reduceCtorEq] at hc, ?_⟩
      intro m id hm
      simp only [Action.leaves, reduceCtorEq] at hm
    exact iff_of_true (tracks_of_enlist hi h) halone
  · by_cases hcl : a = .cleanupRemove
    · subst hcl
      exact tracks_of_cleanup hi h
    · rcases hl : a.leaves with _ | n
      · -- No other action touches the table, or takes a socket out of its loop.
        have htracks : t.Tracks := by
          intro id m hm
          rw [latest_of_step h (fun n hn => hen ⟨n, hn⟩), hl] at hm
          rw [Relay.tunnels_of_step (relay_of_step h) (fun n hn => hen ⟨n, hn⟩) hcl]
          exact hi id m hm
        have halone : s.Alone a := by
          refine ⟨fun hc => absurd hc hcl, ?_⟩
          intro n id hn
          rw [hl] at hn
          simp only [reduceCtorEq] at hn
        exact iff_of_true htracks halone
      · exact tracks_of_leaves hi hl h

theorem tracks_initial : initial.Tracks := by
  intro id n hn
  simp only [latest, initial, List.find?_nil, reduceCtorEq] at hn

/-- Along a run the table has the latest registered socket of every id, in
    every state, exactly if no id is removed while a socket of it is in its
    loop and no socket leaves before an older one of its id. -/
theorem tracks_throughout_iff (env : Env) (as : List Action) :
    Throughout (step env) Tracks initial as ↔ Legal (step env) Alone initial as := by
  have hinv : ∀ (x : Registry) (a : Action) (y : Registry), True → step env x a = some y → True :=
    fun _ _ _ _ _ => trivial
  exact throughout_iff_legal hinv (fun _ _ _ _ hi h => tracks_iff_alone hi h) as initial trivial
    tracks_initial

/-- A client registers tunnel `a` and loses its connection, which the relay
    does not see yet; it registers again; then the old socket times out and
    its id is processed. -/
def reconnected : List Action :=
  [.upgrade "a", .first 0 (.message (.text "reg")), .online 0 true, .enlist 0,
    .upgrade "a", .first 1 (.message (.text "reg")), .online 1 true, .enlist 1,
    .elapse Relay.idleTimeout, .idle 0, .report 0, .cleanupTake, .cleanupOffline true,
    .cleanupRemove]

/-- The cleanup of the old connection removes the new registration. -/
theorem cleanup_removes_newer :
    ¬ ∀ (env : Env) (as : List Action) (s : Registry), exec (step env) initial as = some s →
      s.Tracks := by
  intro h
  rcases hrun : exec (step .oneToken) initial reconnected with _ | s
  · exact absurd hrun (by decide)
  · have hlatest : (exec (step .oneToken) initial reconnected).map (fun s => s.latest "a") =
        some (some 1) := by decide
    have htable : (exec (step .oneToken) initial reconnected).map
        (fun s => s.relay.tunnels.lookup "a") = some none := by decide
    rw [hrun, Option.map_some, Option.some.injEq] at hlatest htable
    have htracks := h .oneToken reconnected s hrun "a" 1 hlatest
    rw [htable] at htracks
    simp only [reduceCtorEq] at htracks

end Registry

end Rathole
