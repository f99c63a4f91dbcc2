import Rathole.Relay.Inversion

/-!
# Waiting With a Guard in Hand

`tunnel` looks a sender up in the scrutinee of an `if let` and stays in its
body until the response is there, so it waits with a read guard of `tunnels`
alive. `forward_via_tunnel` may do the same for `proxy_handler`, but it gives
up after the request timeout; `tunnel` waits without one.

Nothing completes the oneshot of a request when the socket that was to answer
it leaves its loop: the sender stays in `responses`. From then on the guard
is out for good, the cleanup of that very socket queues up behind it to
write, and the fair lock keeps every later reader out too.

## Main definitions

* `Request.AwaitsForever`: Waiting for a socket's answer without a timeout.
* `Relay.Stranded`: Doing so with a guard, when the socket has left.
* `Action.leaves`: The socket an action takes out of its loop.
* `Relay.Clear`: A socket leaves only when nobody waits for it so.
* `Relay.LockInv`: The lock is sound, and writers are booked in it.

## Theorems

* `waitInv_of_step`: Clear steps keep everybody's socket in its loop.
* `not_stranded`: Along clear steps no handler is ever stranded.
* `writers_wait`: While a reader has its guard, nobody writes the table.
* `tunnel_stranded`: A handler that is stranded, and who waits for it.
-/

namespace Rathole

open FairLock Transition

/-- `tunnel` waits for the answer of socket `n`, which it has not got. -/
def Request.AwaitsForever (q : Request) (n : Nat) : Prop :=
  match q.entry, q.pc, q.answer with
  | .tunnel _, .waiting c _, .empty => c.tx = n
  | _, _, _ => False

instance (q : Request) (n : Nat) : Decidable (q.AwaitsForever n) := by
  rcases q with ⟨entry, method, path, headers, body, pc, answer⟩
  cases entry with
  | proxy => exact instDecidableFalse
  | tunnel id =>
      cases pc with
      | waiting c since =>
          cases answer with
          | empty => exact Nat.decEq c.tx n
          | _ => exact instDecidableFalse
      | _ => exact instDecidableFalse

theorem Request.awaitsForever_iff {q : Request} {n : Nat} :
    q.AwaitsForever n ↔ (∃ id, q.entry = .tunnel id) ∧ q.answer = .empty ∧
      ∃ c since, q.pc = .waiting c since ∧ c.tx = n := by
  unfold Request.AwaitsForever
  constructor
  · intro h
    split at h
    · rename_i id c since he hp ha
      exact ⟨⟨id, he⟩, ha, c, since, hp, h⟩
    · exact absurd h not_false
  · intro h
    rcases h with ⟨⟨id, he⟩, ha, c, since, hp, hn⟩
    simp only [he, ha, hp, hn]

/-- The socket an action takes out of its loop. -/
def Action.leaves : Action → Option Nat
  | .pushed n false => some n
  | .receive n .error => some n
  | .receive n .closed => some n
  | .idle n => some n
  | _ => none

namespace Relay

/-- Handler `r` has a read guard of `tunnels` and waits, without a timeout,
    for the answer of a socket that has left its loop. -/
def Stranded (s : Relay) (r : Nat) : Prop :=
  s.lock.Holds (.request r) .read ∧ ∃ q n x, s.requests[r]? = some q ∧ q.AwaitsForever n ∧
    s.sockets[n]? = some x ∧ ¬ x.InLoop

/-- A socket leaves its loop only when no `tunnel` handler waits for it. -/
def Clear (s : Relay) (a : Action) : Prop :=
  match a.leaves with
  | some n => ∀ q ∈ s.requests, ¬ q.AwaitsForever n
  | none => True

instance (s : Relay) (a : Action) : Decidable (Clear s a) := by
  unfold Clear
  split <;> infer_instance

/-- Whoever waits for an answer without a timeout waits for a socket that is
    in its loop. -/
def WaitInv (s : Relay) : Prop :=
  ∀ (r : Nat) (q : Request) (n : Nat), s.requests[r]? = some q → q.AwaitsForever n →
    ∃ x, s.sockets[n]? = some x ∧ x.InLoop

variable {env : Env} {s t : Relay} {a : Action}

/-- A socket in its loop stays there unless the action takes it out. -/
theorem inLoop_of_move {n : Nat} {w z : Socket} (h : SocketMove env s n w a z)
    (hl : w.InLoop) (hne : a.leaves ≠ some n) : z.InLoop := by
  cases h with
  | queued msg _ => exact hl
  | first hpc => simp only [Socket.InLoop, hpc] at hl
  | online hpc => simp only [Socket.InLoop, hpc] at hl
  | enlist hpc => exact trivial
  | forward hpc _ => exact trivial
  | pushed hpc => exact trivial
  | message hpc => exact hl
  | pushFailed hpc => exact absurd rfl hne
  | receiveFailed hpc => exact absurd rfl hne
  | disconnected hpc => exact absurd rfl hne
  | idle hpc _ => exact absurd rfl hne
  | report hpc => simp only [Socket.InLoop, hpc] at hl

/-- The step lemma: a handler that waits after the step waited before it, and
    its socket was not the one that left; or it has just sent its message,
    which takes a socket in its loop. -/
theorem waitInv_of_step (hi : WaitInv s) (hok : Clear s a) (h : step env s a = some t) :
    WaitInv t := by
  intro r q' n hq' haw
  rcases Request.awaitsForever_iff.mp haw with ⟨⟨id, he⟩, hempty, c, since, hpc, hc⟩
  have hloop : ∃ w, s.sockets[n]? = some w ∧ w.InLoop ∧ a.leaves ≠ some n := by
    rcases request_of_step h hq' hpc hempty with ⟨q, hq, hp, hentry, ha⟩ | ⟨hsend, x, hx, hl⟩
    · have hold : q.AwaitsForever n :=
        Request.awaitsForever_iff.mpr ⟨⟨id, hentry.trans he⟩, ha, c, since, hp, hc⟩
      rcases hi r q n hq hold with ⟨w, hw, hl⟩
      refine ⟨w, hw, hl, fun hleave => ?_⟩
      simp only [Clear, hleave] at hok
      exact hok q (List.mem_of_getElem? hq) hold
    · rw [hc] at hx
      exact ⟨x, hx, hl, by simp only [hsend, Action.leaves, ne_eq, reduceCtorEq,
        not_false_eq_true]⟩
  rcases hloop with ⟨w, hw, hl, hne⟩
  rcases socket_survives h hw with ⟨z, hz, hzw | hmove⟩
  · exact ⟨z, hz, by rw [hzw]; exact hl⟩
  · exact ⟨z, hz, inLoop_of_move hmove hl hne⟩

theorem waitInv_initial : WaitInv initial := by
  intro r q n hq
  simp only [initial, List.getElem?_nil, reduceCtorEq] at hq

/-- Along steps that are clear no handler is ever stranded. -/
theorem not_stranded (env : Env) (s : Relay) (h : Reaches (step env) Clear initial s) (r : Nat) :
    ¬ s.Stranded r := by
  have hinv : WaitInv s :=
    h.invariant (fun _ _ _ hi hok hstep => waitInv_of_step hi hok hstep) waitInv_initial
  intro hst
  rcases hst with ⟨_, q, n, x, hq, haw, hx, hnl⟩
  rcases hinv r q n hq haw with ⟨x', hx', hl⟩
  rw [hx, Option.some.injEq] at hx'
  rw [hx'] at hnl
  exact hnl hl

/-! ### What a guard keeps out -/

/-- The lock is sound, and whoever stands at a write of the table has an
    entry in it. -/
structure LockInv (s : Relay) : Prop where
  sound : s.lock.Sound
  enlisting : ∀ (n : Nat) (x : Socket), s.sockets[n]? = some x → x.pc = .enlisting →
    (Task.socket n, Mode.write) ∈ s.lock.entries
  removing : ∀ (n : Nat) (id : String), s.cleanup = .removing n id →
    (Task.cleanup, Mode.write) ∈ s.lock.entries

theorem lockInv_initial : LockInv initial where
  sound := RwLock.sound_free
  enlisting := by
    intro n x hx
    simp only [initial, List.getElem?_nil, reduceCtorEq] at hx
  removing := by
    intro n id hc
    simp only [initial, reduceCtorEq] at hc

/-- A move that ends before the write guard is the request for it. -/
theorem enlisting_of_move {n : Nat} {w z : Socket} (h : SocketMove env s n w a z)
    (hz : z.pc = .enlisting) : w.pc = .enlisting ∨ ∃ ok, a = .online n ok := by
  cases h with
  | queued msg _ => exact Or.inl hz
  | @first m hpc =>
      rcases firstPc_cases env m with hf | hf | hf
      · simp only [hf, reduceCtorEq] at hz
      · simp only [hf, reduceCtorEq] at hz
      · simp only [hf, reduceCtorEq] at hz
  | online hpc => exact Or.inr ⟨_, rfl⟩
  | message hpc => exact Or.inl hz
  | _ => simp only [reduceCtorEq] at hz

/-- What an action does to another task's entries is nothing. -/
theorem entry_of_step {τ : Task} {m : Mode} (h : step env s a = some t)
    (hne : a.task ≠ some τ) (hr : ∀ r, τ ≠ .request r) (he : (τ, m) ∈ s.lock.entries) :
    (τ, m) ∈ t.lock.entries := by
  rcases lock_of_step h with ⟨τ', hτ, hacts⟩
  refine hacts.mem_entries (fun heq => ?_) he
  rcases hτ with htask | ⟨r, hreq⟩
  · exact hne (by rw [htask, ← heq])
  · exact hr r (by rw [← hreq, ← heq])

/-- A socket that stands before its write guard is booked: `online` makes the
    entry, `enlist` ends the wait, and nobody else touches it. -/
theorem enlisting_of_step (hi : LockInv s) (h : step env s a = some t) {n : Nat} {z : Socket}
    (hz : t.sockets[n]? = some z) (hpc : z.pc = .enlisting) :
    (Task.socket n, Mode.write) ∈ t.lock.entries := by
  by_cases hown : ∃ ok, a = .online n ok
  · rcases hown with ⟨ok, ha⟩
    subst ha
    rcases online_cases (act_of_step h) with ht | ⟨x, _, _, ht⟩
    · rw [ht] at hz ⊢
      exact hi.enlisting n z hz hpc
    · -- The request goes to the end of the line.
      have heq : t.lock.entries = s.lock.entries ++ [(.socket n, .write)] := by
        rw [ht]
        exact RwLock.entries_request _ _ _
      rw [heq]
      exact List.mem_append_right _ (List.mem_singleton_self _)
  by_cases hen : a = .enlist n
  · subst hen
    rcases enlist_cases (act_of_step h) with ⟨x, hx, _, _, ht⟩
    have hlt := (List.getElem?_eq_some_iff.mp hx).1
    have hz' : (s.sockets.set n { x with pc := .looping, armed := s.now })[n]? = some z := by
      rw [ht] at hz
      exact hz
    rw [List.getElem?_set_self hlt, Option.some.injEq] at hz'
    rw [← hz'] at hpc
    simp only [reduceCtorEq] at hpc
  -- It stood there before, so its entry is one that only its own actions touch.
  have hold : (Task.socket n, Mode.write) ∈ s.lock.entries := by
    rcases socket_of_step h hz with hs | ⟨w, hw, hmove⟩ | ⟨id, hnew⟩
    · exact hi.enlisting n z hs hpc
    · rcases enlisting_of_move hmove hpc with hw' | hon
      · exact hi.enlisting n w hw hw'
      · exact absurd hon hown
    · rw [hnew] at hpc
      simp only [freshSocket, reduceCtorEq] at hpc
  refine entry_of_step h (fun htask => ?_) (fun r => by simp only [ne_eq, reduceCtorEq,
    not_false_eq_true]) hold
  cases a with
  | online k ok =>
      simp only [Action.task, Option.some.injEq, Task.socket.injEq] at htask
      exact hown ⟨ok, by rw [htask]⟩
  | enlist k =>
      simp only [Action.task, Option.some.injEq, Task.socket.injEq] at htask
      exact hen (by rw [htask])
  | _ => simp only [Action.task, Action.handler, Option.map_some, Option.map_none,
      Option.some.injEq, reduceCtorEq] at htask

/-- So is the cleanup task before its own. -/
theorem removing_of_step (hi : LockInv s) (h : step env s a = some t) {n : Nat} {id : String}
    (hc : t.cleanup = .removing n id) : (Task.cleanup, Mode.write) ∈ t.lock.entries := by
  by_cases hcl : a.task = some .cleanup ∨ a = .cleanupTake
  · cases a with
    -- Only the cleanup task's own actions lead there or away.
    | cleanupTake =>
        rcases cleanupTake_cases (act_of_step h) with ⟨n', id', rest, _, _, ht⟩
        rw [ht] at hc
        simp only [reduceCtorEq] at hc
    | cleanupOffline ok =>
        rcases cleanupOffline_cases (act_of_step h) with ht | ⟨n', id', _, ht⟩
        · rw [ht] at hc ⊢
          exact hi.removing n id hc
        · have heq : t.lock.entries = s.lock.entries ++ [(.cleanup, .write)] := by
            rw [ht]
            exact RwLock.entries_request _ _ _
          rw [heq]
          exact List.mem_append_right _ (List.mem_singleton_self _)
    | cleanupRemove =>
        rcases cleanupRemove_cases (act_of_step h) with ⟨n', id', _, _, ht⟩
        rw [ht] at hc
        simp only [reduceCtorEq] at hc
    | _ => simp only [Action.task, Action.handler, Option.map_some, Option.map_none,
        Option.some.injEq, reduceCtorEq, or_self] at hcl
  · rw [not_or] at hcl
    have hold := hi.removing n id ((cleanup_of_step h hcl.1 hcl.2).symm.trans hc)
    exact entry_of_step h hcl.1 (fun r => by simp only [ne_eq, reduceCtorEq,
      not_false_eq_true]) hold

theorem lockInv_of_step (hi : LockInv s) (h : step env s a = some t) : LockInv t where
  sound := by
    -- Whatever moves the lock is a request or a release.
    rcases lock_of_step h with ⟨τ, _, hacts⟩
    exact hacts.sound hi.sound
  enlisting := fun _ _ hz hpc => enlisting_of_step hi h hz hpc
  removing := fun _ _ hc => removing_of_step hi h hc

theorem lockInv_reachable {ok : Relay → Action → Prop} (h : Reaches (step env) ok initial s) :
    LockInv s :=
  h.invariant (fun _ _ _ hi _ hstep => lockInv_of_step hi hstep) lockInv_initial

/-- While a reader has its guard no registration and no cleanup gets at the
    table: a stranded handler holds them up for as long as it waits. -/
theorem writers_wait {ok : Relay → Action → Prop} (h : Reaches (step env) ok initial s)
    {τ : Task} (hr : s.lock.Holds τ .read) :
    (∀ n, step env s (.enlist n) = none) ∧ step env s .cleanupRemove = none := by
  have hi := lockInv_reachable h
  constructor
  · intro n
    rcases hs : step env s (.enlist n) with _ | t
    · rfl
    · exfalso
      rcases enlist_cases (act_of_step hs) with ⟨x, hx, hpc, hw, _⟩
      -- It would hold the guard beside the reader.
      have he := hi.enlisting n x hx hpc
      exact RwLock.no_writer_of_reader hi.sound hr (RwLock.holds_of_entry he hw)
  · rcases hs : step env s .cleanupRemove with _ | t
    · rfl
    · exfalso
      rcases cleanupRemove_cases (act_of_step hs) with ⟨n, id, hc, hw, _⟩
      have he := hi.removing n id hc
      exact RwLock.no_writer_of_reader hi.sound hr (RwLock.holds_of_entry he hw)

/-! ### A handler that is stranded -/

/-- Tunnel `a` registers, and a request is sent to its client. -/
def requestSent : List Action :=
  [.upgrade "a", .first 0 (.message (.text "reg")), .online 0 true, .enlist 0,
    .arrive (.tunnel "a") "GET" "x" [] [], .list 0, .find 0 "u", .enroll 0, .send 0, .forward 0,
    .pushed 0 true]

/-- The client disconnects without an answer, its id goes to the cleanup task,
    and another request for the tunnel comes in. -/
def disconnected : List Action :=
  [.receive 0 .closed, .report 0, .cleanupTake, .cleanupOffline true,
    .arrive (.tunnel "a") "GET" "y" [] []]

/-- The handler waits with its guard for a socket that is gone; the cleanup
    task waits for the handler, and the next reader for the cleanup task. -/
theorem tunnel_stranded :
    ∃ s, Reaches (step .oneToken) (fun _ _ => True) initial s ∧ s.Stranded 0 ∧
      s.lock.Waits .cleanup ∧ s.lock.Waits (.request 1) := by
  rcases hrun : exec (step .oneToken) initial (requestSent ++ disconnected) with _ | s
  · exact absurd hrun (by decide)
  · have hlock : (exec (step .oneToken) initial (requestSent ++ disconnected)).map lock =
        some { holders := [(.request 0, .read)],
               waiting := [(.cleanup, .write), (.request 1, .read)] } := by decide
    have hreq : ((exec (step .oneToken) initial (requestSent ++ disconnected)).bind
        (fun s => s.requests[0]?)).map (fun q => decide (q.AwaitsForever 0)) = some true := by
      decide
    have hsock : ((exec (step .oneToken) initial (requestSent ++ disconnected)).bind
        (fun s => s.sockets[0]?)).map (fun x => decide x.InLoop) = some false := by decide
    rw [hrun] at hlock hreq hsock
    simp only [Option.map_some, Option.some.injEq] at hlock
    simp only [Option.bind_some, Option.map_eq_some_iff, decide_eq_true_eq] at hreq
    simp only [Option.bind_some, Option.map_eq_some_iff, decide_eq_false_iff_not] at hsock
    rcases hreq with ⟨q, hq, haw⟩
    rcases hsock with ⟨x, hx, hl⟩
    refine ⟨s, reaches_of_exec _ _ _ hrun, ⟨?_, q, 0, x, hq, haw, hx, hl⟩, ?_, ?_⟩
    · rw [hlock]
      decide
    · rw [hlock]
      decide
    · rw [hlock]
      decide

/-- A run in which the client answers before it disconnects. -/
theorem not_stranded_answered :
    ∃ s, Reaches (step .oneToken) Clear initial s ∧ s.lock.Holds (.request 0) .read ∧
      ∀ r, ¬ s.Stranded r := by
  rcases hrun : exec (step .oneToken) initial requestSent with _ | s
  · exact absurd hrun (by decide)
  · have hr : Reaches (step .oneToken) Clear initial s :=
      reaches_of_legal requestSent _ _ (by decide) hrun
    have hlock : (exec (step .oneToken) initial requestSent).map lock =
        some { holders := [(.request 0, .read)], waiting := [] } := by decide
    rw [hrun] at hlock
    simp only [Option.map_some, Option.some.injEq] at hlock
    exact ⟨s, hr, by rw [hlock]; decide, fun r => not_stranded .oneToken s hr r⟩

end Relay

end Rathole
