import Rathole.Prototype.Fallback

/-!
# Waiting for a Tunnel's Response

A handler that waits in `forward_to_tunnel` for its response has the guard of
`tunnels`: it was made in the scrutinee of the `if let` around the call. So
there is at most one such handler, and nobody registers, leaves, or looks up
any tunnel while it waits. There is no timeout.

Its sender is in `pending_requests`, and nothing but a response takes it out
of there. If the socket of its tunnel leaves its loop, or its task panics over
another response, nobody is left to send one: the handler waits for ever, and
everybody else for its guard.

## Main definitions

* `Relay.Held`: Handlers have the guard at the awaits they should.
* `Relay.Resolvable`: Whoever waits can be answered, and keeps nobody of
  another tunnel waiting.
* `Relay.Undisturbed`: The steps that keep it so.

## Theorems

* `held_of_step`: What one step preserves.
* `resolvable_of_step_iff`: A step keeps waiting handlers resolvable exactly
  if it does not disturb them.
* `resolvable_throughout_iff`: So does a run.
* `disconnect_strands`: A run that strands a handler.
-/

namespace Rathole

namespace Prototype

open FairLock FairLock.RwLock Numbered Proxy Transition

namespace Relay

/-- The lock is sound, and every handler that should have the guard has it. -/
structure Held (s : Relay) : Prop where
  sound : s.lock.Sound
  holds : ∀ (r : Nat) (q : Request), s.requests[r]? = some q → q.pc.Guarding →
    s.lock.Holds (.request r) .write

/-- The socket is in its loop. -/
def InLoop (s : Relay) (n : Nat) : Prop := ∃ x, s.sockets[n]? = some x ∧ x.pc.InLoop

/-- The handler waits for the response to its call. -/
def Waits (s : Relay) (r : Nat) (c : Call) : Prop :=
  ∃ q, s.requests[r]? = some q ∧ q.pc = .waiting c

/-- The task is a request for the same tunnel. -/
def SameTunnel (s : Relay) (c : Call) : Task → Prop
  | .request r => ∃ q, s.requests[r]? = some q ∧ subdomainOf q.req.headers = some c.subdomain
  | .socket _ => False

/-- Nobody but requests for the tunnel of the call waits for the guard. -/
def Clear (s : Relay) (c : Call) : Prop :=
  ∀ (task : Task) (m : Mode), (task, m) ∈ s.lock.waiting → s.SameTunnel c task

/-- Whoever waits for its response can still get one, or its sender has been
    used or dropped, and no socket or request for another tunnel waits for its
    guard. -/
def Resolvable (s : Relay) : Prop :=
  ∀ (r : Nat) (q : Request) (c : Call), s.requests[r]? = some q → q.pc = .waiting c →
    (s.InLoop c.tx ∨ q.answer ≠ .empty) ∧ s.Clear c

/-- While a handler waits, no socket connects or leaves its loop, no request
    for another tunnel comes in, and its socket panics over no response but its
    own. It begins to wait for a socket in its loop, when nobody but requests
    for the same tunnel waits for the guard. -/
def Undisturbed (E : Env) (s : Relay) : Action → Prop
  | .connect _ | .pushed _ false | .hangUp _ => ∀ r c, ¬ s.Waits r c
  | .arrive req => ∀ r c, s.Waits r c → ∀ subdomain, subdomainOf req.headers = some subdomain →
      subdomain = c.subdomain
  | .send r => ∀ q c msg x, s.requests[r]? = some q → q.pc = .sending c msg →
      s.sockets[c.tx]? = some x → x.pc.Alive →
      (x.pc.InLoop ∨ q.answer ≠ .empty) ∧ s.Clear c
  | .receive n (.text t) => ∀ requestId status headers body r,
      E.fromStr t = some (.response requestId status headers body) →
      s.pendingRequests.lookup requestId = some r →
      buildResponse E.crate status headers body = none →
      ∀ r' q c, s.requests[r']? = some q → q.pc = .waiting c → c.tx = n → q.answer = .empty →
        r' = r
  | _ => True

variable {E : Env} {s t u : Relay} {a : Action} {n r : Nat} {x x' : Socket} {q q' : Request}
  {c : Call}

/-! ### The guard -/

theorem held_initial : Held initial where
  sound := sound_free
  holds := fun r q h => by simp only [initial, List.getElem?_nil, reduceCtorEq] at h

/-- No handler moves. -/
theorem Held.of_socket (h : Held s) (hacts : Acts (.socket n) s.lock t.lock)
    (hrequests : t.requests = s.requests) : Held t where
  sound := hacts.sound h.sound
  holds := by
    intro r q hq hg
    rw [hrequests] at hq
    exact hacts.holds (by simp only [ne_eq, reduceCtorEq, not_false_eq_true]) (h.holds r q hq hg)

theorem Held.of_fills (h : Held s) (hf : Fills s t) : Held t where
  sound := by
    rw [hf.lock]
    exact h.sound
  holds := by
    intro r q' hq' hg
    rcases hf.backward hq' with ⟨q, hq, _, hpc, _⟩
    rw [hf.lock]
    exact h.holds r q hq (hpc ▸ hg)

/-- One handler moves. -/
theorem Held.of_move (h : Held s) (hrequests : t.requests = s.requests.set r q')
    (hacts : Acts (.request r) s.lock t.lock)
    (hself : q'.pc.Guarding → t.lock.Holds (.request r) .write) : Held t where
  sound := hacts.sound h.sound
  holds := by
    intro r' p hp hg
    rw [hrequests] at hp
    rcases getElem?_set_cases hp with ⟨rfl, rfl⟩ | ⟨hr, hold⟩
    · exact hself hg
    · refine hacts.holds ?_ (h.holds r' p hold hg)
      rw [ne_eq, Task.request.injEq]
      exact hr

/-- A handler comes. -/
theorem Held.of_append (h : Held s) (hrequests : t.requests = s.requests ++ [q])
    (hacts : Acts (.request s.requests.length) s.lock t.lock) (hself : ¬ q.pc.Guarding) :
    Held t where
  sound := hacts.sound h.sound
  holds := by
    intro r p hp hg
    rw [hrequests] at hp
    rcases getElem?_append_cases hp with hold | ⟨_, rfl⟩
    · refine hacts.holds ?_ (h.holds r p hold hg)
      rw [ne_eq, Task.request.injEq]
      exact Nat.ne_of_lt (List.getElem?_eq_some_iff.mp hold).fst
    · exact absurd hg hself

/-- The step lemma for the guard. -/
theorem held_of_step (h : Held s) (hst : step E s a = some t) : Held t := by
  cases rule_of_step hst with
  | connected => exact h.of_socket (Acts.request _ _) rfl
  | enlisted | removed => exact h.of_socket (Acts.release _ _) rfl
  | pushFailed | hungUp => exact h.of_socket (Acts.request _ _) rfl
  | @taken n | @pushed n | @deafened n => exact h.of_socket (n := n) (Acts.refl _) rfl
  | skipped => exact h
  | delivered => exact h.of_fills (fills_answerTaken _ _ _ _)
  | @crashed n r x _ requestId =>
      have hdropped := h.of_fills (fills_dropTaken s (s.pendingRequests.erase requestId) r)
      exact hdropped.of_socket (n := n) (Acts.refl _) rfl
  | unhosted => exact h.of_append rfl (Acts.refl _) id
  | arrived => exact h.of_append rfl (Acts.request _ _) id
  | found hq hpc hheld => exact h.of_move rfl (Acts.refl _) (fun _ => hheld)
  -- A handler that has the guard keeps it up to the end of the `if let`.
  | broke hq hpc | read hq hpc | sent hq hpc | unsent hq hpc | lost hq hpc =>
      exact h.of_move rfl (Acts.refl _) (fun _ => h.holds _ _ hq (by rw [hpc]; trivial))
  | @enrolled r c q hq hpc =>
      have hmoved : Held (s.setRequest r { q with pc := .reading c }) :=
        h.of_move rfl (Acts.refl _) (fun _ => h.holds r q hq (by rw [hpc]; trivial))
      exact hmoved.of_fills (fills_insertPending _ _ _)
  | @discarded r c q hq hpc =>
      have hmoved : Held (s.setRequest r { q with pc := .falling (some c) q.req.emptied }) :=
        h.of_move rfl (Acts.refl _) (fun _ => h.holds r q hq (by rw [hpc]; trivial))
      exact hmoved.of_fills (fills_removePending _ _)
  | missed | responded | fellBackHeld => exact h.of_move rfl (Acts.release _ _) (fun hg => hg.elim)
  | fellBack => exact h.of_move rfl (Acts.refl _) (fun hg => hg.elim)
  | panicked | cancelled => exact h.of_move rfl (Acts.abandon _) (fun hg => hg.elim)

/-- While a handler waits for its response, whoever asks for the guard has to
    wait. -/
theorem Held.queued (h : Held s) (hq : s.requests[r]? = some q) (hpc : q.pc = .waiting c)
    (task : Task) : (s.lock.request task .write).waiting = s.lock.waiting ++ [(task, .write)] := by
  have hheld : s.lock.Holds (.request r) .write := h.holds r q hq (by rw [hpc]; trivial)
  have hbusy : admits s.lock.holders .write = false := by
    rw [Bool.eq_false_iff, ne_eq, admits_write_iff]
    intro hnil
    rw [Holds, hnil] at hheld
    exact absurd hheld List.not_mem_nil
  simp only [RwLock.request, hbusy, Bool.and_false, Bool.false_eq_true, if_false]

/-! ### Steps that disturb nobody -/

/-- Nobody begins to wait for a response or for the guard, and no socket leaves
    its loop. -/
structure Calm (s t : Relay) : Prop where
  waits : ∀ (r : Nat) (q' : Request) (c : Call), t.requests[r]? = some q' → q'.pc = .waiting c →
    ∃ q, s.requests[r]? = some q ∧ q.pc = .waiting c ∧ (q'.answer = .empty → q.answer = .empty)
  loops : ∀ n, s.InLoop n → t.InLoop n
  queue : ∀ e ∈ t.lock.waiting, e ∈ s.lock.waiting
  kept : ∀ (r : Nat) (q : Request), s.requests[r]? = some q →
    ∃ q', t.requests[r]? = some q' ∧ q'.req = q.req

theorem SameTunnel.of_kept (hkept : ∀ (r : Nat) (q : Request), s.requests[r]? = some q →
    ∃ q', t.requests[r]? = some q' ∧ q'.req = q.req) {task : Task} (h : s.SameTunnel c task) :
    t.SameTunnel c task := by
  cases task with
  | socket n => exact h
  | request r =>
      rcases h with ⟨q, hq, hsub⟩
      rcases hkept r q hq with ⟨q', hq', hreq⟩
      exact ⟨q', hq', by rw [hreq]; exact hsub⟩

theorem Resolvable.of_calm (h : s.Resolvable) (hc : Calm s t) : t.Resolvable := by
  intro r q' c hq' hpc'
  rcases hc.waits r q' c hq' hpc' with ⟨q, hq, hpc, hempty⟩
  rcases h r q c hq hpc with ⟨hresolve, hclear⟩
  refine ⟨?_, fun task m hin => (hclear task m (hc.queue _ hin)).of_kept hc.kept⟩
  rcases hresolve with hloop | hanswered
  · exact Or.inl (hc.loops c.tx hloop)
  · exact Or.inr (fun he => hanswered (hempty he))

theorem Calm.trans (h1 : Calm s t) (h2 : Calm t u) : Calm s u where
  waits := by
    intro r q'' c hq'' hpc''
    rcases h2.waits r q'' c hq'' hpc'' with ⟨q', hq', hpc', he'⟩
    rcases h1.waits r q' c hq' hpc' with ⟨q, hq, hpc, he⟩
    exact ⟨q, hq, hpc, fun h => he (he' h)⟩
  loops := fun n h => h2.loops n (h1.loops n h)
  queue := fun e h => h1.queue e (h2.queue e h)
  kept := by
    intro r q hq
    rcases h1.kept r q hq with ⟨q', hq', hreq'⟩
    rcases h2.kept r q' hq' with ⟨q'', hq'', hreq''⟩
    exact ⟨q'', hq'', hreq''.trans hreq'⟩

theorem inLoop_of_eq (h : t.sockets = s.sockets) (hn : s.InLoop n) : t.InLoop n := by
  rw [InLoop, h]
  exact hn

theorem calm_of_fills (hf : Fills s t) : Calm s t where
  waits := by
    intro r q' c hq' hpc'
    rcases hf.backward hq' with ⟨q, hq, _, hpc, hempty⟩
    exact ⟨q, hq, hpc.symm.trans hpc', hempty⟩
  loops := fun n h => inLoop_of_eq hf.sockets h
  queue := fun e he => by rw [← hf.lock]; exact he
  kept := by
    intro r q hq
    rcases hf.forward r q hq with ⟨q', hq', hreq, _⟩
    exact ⟨q', hq', hreq⟩

/-- One socket moves, and stays in its loop if it was there. -/
theorem calm_of_socket (hx : s.sockets[n]? = some x) (hset : t.sockets = s.sockets.set n x')
    (hin : x.pc.InLoop → x'.pc.InLoop) (hrequests : t.requests = s.requests)
    (hqueue : ∀ e ∈ t.lock.waiting, e ∈ s.lock.waiting) : Calm s t where
  waits := fun r q c hq hpc => ⟨q, by rw [← hrequests]; exact hq, hpc, id⟩
  loops := by
    rintro m ⟨y, hy, hloop⟩
    rw [InLoop, hset]
    by_cases hm : n = m
    · subst hm
      rw [hx, Option.some.injEq] at hy
      subst hy
      exact ⟨x', getElem?_updated hx, hin hloop⟩
    · exact ⟨y, (List.getElem?_set_ne hm).trans hy, hloop⟩
  queue := hqueue
  kept := fun r q hq => ⟨q, by rw [hrequests]; exact hq, rfl⟩

/-- One handler moves, not to the wait for its response. -/
theorem calm_of_move (hq : s.requests[r]? = some q) (hset : t.requests = s.requests.set r q')
    (hpc : ∀ c, q'.pc ≠ .waiting c) (hreq : q'.req = q.req) (hsockets : t.sockets = s.sockets)
    (hqueue : ∀ e ∈ t.lock.waiting, e ∈ s.lock.waiting) : Calm s t where
  waits := by
    intro r' p c hp hpcp
    rw [hset] at hp
    rcases getElem?_set_cases hp with ⟨_, rfl⟩ | ⟨_, hold⟩
    · exact absurd hpcp (hpc c)
    · exact ⟨p, hold, hpcp, id⟩
  loops := fun n h => inLoop_of_eq hsockets h
  queue := hqueue
  kept := by
    intro r' p hp
    rw [hset]
    exact set_survives Request.req q' hq hreq hp

/-- A request without a host comes. -/
theorem calm_of_append (hrequests : t.requests = s.requests ++ [q]) (hpc : ∀ c, q.pc ≠ .waiting c)
    (hsockets : t.sockets = s.sockets) (hlock : t.lock = s.lock) : Calm s t where
  waits := by
    intro r p c hp hpcp
    rw [hrequests] at hp
    rcases getElem?_append_cases hp with hold | ⟨_, rfl⟩
    · exact ⟨p, hold, hpcp, id⟩
    · exact absurd hpcp (hpc c)
  loops := fun n h => inLoop_of_eq hsockets h
  queue := fun e he => by rw [← hlock]; exact he
  kept := fun r p hp => ⟨p, by
    rw [hrequests, List.getElem?_append_left (List.getElem?_eq_some_iff.mp hp).fst]
    exact hp, rfl⟩

/-! ### Steps that can disturb -/

/-- A socket asks for the guard. -/
theorem resolvable_iff_of_socket (hi : Held s) (hrequests : t.requests = s.requests)
    (hlock : t.lock = s.lock.request (.socket n) .write) :
    t.Resolvable ↔ ∀ r c, ¬ s.Waits r c := by
  constructor
  · rintro h r c ⟨q, hq, hpc⟩
    have hclear := (h r q c (by rw [hrequests]; exact hq) hpc).2
    -- A handler that waits for its response has the guard, so the socket waits for it.
    refine hclear (.socket n) .write ?_
    rw [hlock, hi.queued hq hpc]
    exact List.mem_append_right _ List.mem_cons_self
  · intro h r q c hq hpc
    exact absurd ⟨q, by rw [← hrequests]; exact hq, hpc⟩ (h r c)

/-- A request asks for the guard. -/
theorem resolvable_iff_of_arrive (hi : Held s) (h : s.Resolvable)
    (hrequests : t.requests = s.requests ++ [q]) (hpc : ∀ c, q.pc ≠ .waiting c)
    (hsockets : t.sockets = s.sockets)
    (hlock : t.lock = s.lock.request (.request s.requests.length) .write) :
    t.Resolvable ↔ ∀ r c, s.Waits r c → subdomainOf q.req.headers = some c.subdomain := by
  have hnew : t.requests[s.requests.length]? = some q := by
    rw [hrequests, List.getElem?_concat_length]
  have hold : ∀ (r : Nat) (p : Request), s.requests[r]? = some p → t.requests[r]? = some p := by
    intro r p hp
    rw [hrequests, List.getElem?_append_left (List.getElem?_eq_some_iff.mp hp).fst]
    exact hp
  constructor
  · rintro ht r c ⟨p, hp, hpcp⟩
    have hclear := (ht r p c (hold r p hp) hpcp).2
    have hsame : t.SameTunnel c (.request s.requests.length) := by
      refine hclear (.request s.requests.length) .write ?_
      rw [hlock, hi.queued hp hpcp]
      exact List.mem_append_right _ List.mem_cons_self
    rcases hsame with ⟨p', hp', hsub⟩
    rw [hnew, Option.some.injEq] at hp'
    rw [hp']
    exact hsub
  · intro hu r p c hp hpcp
    rw [hrequests] at hp
    rcases getElem?_append_cases hp with hp | ⟨_, rfl⟩
    · rcases h r p c hp hpcp with ⟨hresolve, hclear⟩
      refine ⟨hresolve.imp_left (inLoop_of_eq hsockets), fun task m hin => ?_⟩
      rw [hlock] at hin
      rcases mem_waiting_request hin with hin | heq
      · exact (hclear task m hin).of_kept (fun r p hp => ⟨p, hold r p hp, rfl⟩)
      · rw [(Prod.mk.inj heq).1]
        exact ⟨q, hnew, hu r c ⟨p, hp, hpcp⟩⟩
    · exact absurd hpcp (hpc c)

/-- A handler begins to wait for its response. -/
theorem resolvable_iff_of_send (h : s.Resolvable) (hq : s.requests[r]? = some q)
    (hx : s.sockets[c.tx]? = some x) {queue : List ControlMessage} :
    ((s.setSocket c.tx { x with queue := queue }).setRequest r
      { q with pc := .waiting c }).Resolvable ↔ (x.pc.InLoop ∨ q.answer ≠ .empty) ∧ s.Clear c := by
  have hkept : ∀ (r' : Nat) (p : Request), s.requests[r']? = some p →
      ∃ p', (s.requests.set r { q with pc := .waiting c })[r']? = some p' ∧ p'.req = p.req :=
    fun r' p hp => set_survives Request.req { q with pc := .waiting c } hq rfl hp
  have hback : ∀ (r' : Nat) (p' : Request),
      (s.requests.set r { q with pc := .waiting c })[r']? = some p' →
      ∃ p, s.requests[r']? = some p ∧ p.req = p'.req := by
    intro r' p' hp'
    rcases getElem?_set_cases hp' with ⟨rfl, rfl⟩ | ⟨_, hold⟩
    · exact ⟨q, hq, rfl⟩
    · exact ⟨p', hold, rfl⟩
  have hself : (s.requests.set r { q with pc := .waiting c })[r]?
      = some { q with pc := .waiting c } := getElem?_updated hq
  have htx : (s.sockets.set c.tx { x with queue := queue })[c.tx]?
      = some { x with queue := queue } := getElem?_updated hx
  constructor
  · intro ht
    rcases ht r _ c hself rfl with ⟨hresolve, hclear⟩
    refine ⟨hresolve.imp_left ?_, fun task m hin => (hclear task m hin).of_kept hback⟩
    rintro ⟨y, hy, hloop⟩
    have heq := hy.symm.trans htx
    rw [Option.some.injEq] at heq
    rw [heq] at hloop
    exact hloop
  · intro hu r' p c' hp hpcp
    rcases getElem?_set_cases hp with ⟨rfl, rfl⟩ | ⟨_, hold⟩
    · rw [RequestPc.waiting.injEq] at hpcp
      subst hpcp
      exact ⟨hu.1.imp_left (fun hloop => ⟨_, htx, hloop⟩),
        fun task m hin => (hu.2 task m hin).of_kept hkept⟩
    · rcases h r' p c' hold hpcp with ⟨hresolve, hclear⟩
      refine ⟨hresolve.imp_left ?_, fun task m hin => (hclear task m hin).of_kept hkept⟩
      have hcalm : Calm s (s.setSocket c.tx { x with queue := queue }) :=
        calm_of_socket hx rfl id rfl (fun e he => he)
      exact hcalm.loops c'.tx

theorem dropSender_ne {r' : Nat} (hr : r ≠ r') :
    (s.dropSender r).requests[r']? = s.requests[r']? := by
  unfold dropSender
  cases s.requests[r]? with
  | none => rfl
  | some q =>
      by_cases he : q.answer = .empty
      · simp only [if_pos he]
        exact List.getElem?_set_ne hr
      · simp only [if_neg he]

/-- The channel whose sender is dropped is not empty after it. -/
theorem dropSender_self (hq' : (s.dropSender r).requests[r]? = some q') : q'.answer ≠ .empty := by
  unfold dropSender at hq'
  cases hq : s.requests[r]? with
  | none =>
      simp only [hq, reduceCtorEq] at hq'
  | some q =>
      by_cases he : q.answer = .empty
      · simp only [hq, if_pos he] at hq'
        rw [setRequest, getElem?_updated hq, Option.some.injEq] at hq'
        rw [← hq']
        simp only [ne_eq, reduceCtorEq, not_false_eq_true]
      · simp only [hq, if_neg he, Option.some.injEq] at hq'
        rw [← hq']
        exact he

/-- A socket panics over a response for `r`. -/
theorem resolvable_iff_of_crash (h : s.Resolvable) (hx : s.sockets[n]? = some x)
    (pending : HashMap String Nat) :
    (({ s with pendingRequests := pending }.dropSender r).crash n x).Resolvable ↔
      ∀ r' q c, s.requests[r']? = some q → q.pc = .waiting c → c.tx = n → q.answer = .empty →
        r' = r := by
  have hf := fills_dropTaken s pending r
  have hset : (({ s with pendingRequests := pending }.dropSender r).crash n x).sockets
      = s.sockets.set n { x with pc := .crashed, queue := [] } := by
    rw [crash, setSocket, hf.sockets]
  constructor
  · intro ht r' q c hq hpc hn he
    by_contra hr
    have hq' := (dropSender_ne (s := { s with pendingRequests := pending }) (Ne.symm hr)).trans hq
    rcases (ht r' q c hq' hpc).1 with ⟨y, hy, hloop⟩ | hanswered
    · rw [hset, hn, getElem?_updated hx, Option.some.injEq] at hy
      rw [← hy] at hloop
      exact hloop
    · exact hanswered he
  · intro hu r' q' c hq' hpc'
    rcases hf.backward hq' with ⟨q, hq, _, hpc, hempty⟩
    rcases h r' q c hq (hpc ▸ hpc') with ⟨hresolve, hclear⟩
    refine ⟨?_, fun task m hin => ?_⟩
    · by_cases he : q'.answer = .empty
      · rcases hresolve with ⟨y, hy, hloop⟩ | hanswered
        · have hn : n ≠ c.tx := by
            rintro rfl
            -- Then the response was for this very handler, and its sender went with the task.
            have hr := hu r' q c hq (hpc ▸ hpc') rfl (hempty he)
            subst hr
            exact dropSender_self hq' he
          refine Or.inl ⟨y, ?_, hloop⟩
          rw [hset, List.getElem?_set_ne hn]
          exact hy
        · exact absurd (hempty he) hanswered
      · exact Or.inr he
    · have hcalm := calm_of_fills hf
      exact (hclear task m (hcalm.queue _ hin)).of_kept hcalm.kept

/-! ### What the condition asks -/

theorem undisturbed_send_iff {msg : ControlMessage} (hq : s.requests[r]? = some q)
    (hpc : q.pc = .sending c msg) (hx : s.sockets[c.tx]? = some x) (halive : x.pc.Alive) :
    Undisturbed E s (.send r) ↔ (x.pc.InLoop ∨ q.answer ≠ .empty) ∧ s.Clear c := by
  constructor
  · exact fun hu => hu q c msg x hq hpc hx halive
  · intro hu q' c' msg' x' hq' hpc' hx' _
    rw [hq, Option.some.injEq] at hq'
    subst hq'
    rw [hpc, RequestPc.sending.injEq] at hpc'
    rw [← hpc'.1] at hx' ⊢
    rw [hx, Option.some.injEq] at hx'
    rw [← hx']
    exact hu

/-- A queue that is gone is not waited for. -/
theorem undisturbed_send_of_dead {msg : ControlMessage} (hq : s.requests[r]? = some q)
    (hpc : q.pc = .sending c msg) (hx : s.sockets[c.tx]? = some x) (hdead : ¬ x.pc.Alive) :
    Undisturbed E s (.send r) := by
  intro q' c' msg' x' hq' hpc' hx' halive
  rw [hq, Option.some.injEq] at hq'
  rw [← hq', hpc, RequestPc.sending.injEq] at hpc'
  rw [← hpc'.1, hx, Option.some.injEq] at hx'
  rw [← hx'] at halive
  exact absurd halive hdead

section Responses

variable {text requestId : String} {status : UInt16} {headers : List (String × String)}
  {body : List UInt8}

theorem undisturbed_receive_iff
    (hm : E.fromStr text = some (.response requestId status headers body))
    (hr : s.pendingRequests.lookup requestId = some r)
    (hbuild : buildResponse E.crate status headers body = none) :
    Undisturbed E s (.receive n (.text text)) ↔
      ∀ r' q c, s.requests[r']? = some q → q.pc = .waiting c → c.tx = n → q.answer = .empty →
        r' = r := by
  constructor
  · exact fun hu => hu requestId status headers body r hm hr hbuild
  · intro hu requestId' status' headers' body' r' hm' hr' _
    rw [hm, Option.some.injEq, ControlMessage.response.injEq] at hm'
    rw [← hm'.1, hr, Option.some.injEq] at hr'
    rw [← hr']
    exact hu

/-- A response that can be built disturbs nobody. -/
theorem undisturbed_receive_of_built {res : Response}
    (hm : E.fromStr text = some (.response requestId status headers body))
    (hbuild : buildResponse E.crate status headers body = some res) :
    Undisturbed E s (.receive n (.text text)) := by
  intro requestId' status' headers' body' r' hm' _ hbuild'
  rw [hm, Option.some.injEq, ControlMessage.response.injEq] at hm'
  rw [← hm'.2.1, ← hm'.2.2.1, ← hm'.2.2.2, hbuild] at hbuild'
  simp only [reduceCtorEq] at hbuild'

end Responses

/-- Nor does a message that is no response to a pending request. -/
theorem undisturbed_receive_of_skipped {m : Message}
    (hm : ∀ text requestId status headers body, m = .text text →
      E.fromStr text = some (.response requestId status headers body) →
      s.pendingRequests.lookup requestId = none) : Undisturbed E s (.receive n m) := by
  cases m with
  | text text =>
      intro requestId status headers body r hdecoded hr
      rw [hm text requestId status headers body rfl hdecoded] at hr
      simp only [reduceCtorEq] at hr
  | _ => trivial

/-! ### Runs -/

/-- The step lemma: with the guard in order, waiting handlers stay resolvable
    exactly if the step does not disturb them. -/
theorem resolvable_of_step_iff (hi : Held s) (h : s.Resolvable) (hst : step E s a = some t) :
    t.Resolvable ↔ Undisturbed E s a := by
  cases rule_of_step hst with
  | connected => exact resolvable_iff_of_socket hi rfl rfl
  | pushFailed | hungUp => exact resolvable_iff_of_socket hi rfl rfl
  | @arrived req subdomain hhost =>
      refine Iff.trans (resolvable_iff_of_arrive hi h rfl (fun c => ?_) rfl rfl)
        (forall₂_congr (fun r c => imp_congr_right (fun _ => ?_)))
      · simp only [ne_eq, reduceCtorEq, not_false_eq_true]
      simp only [hhost, Option.some.injEq, forall_eq']
  | @sent r c q x msg hq hpc hx halive =>
      rw [resolvable_iff_of_send h hq hx, undisturbed_send_iff hq hpc hx halive]
  | @crashed n r x text requestId status headers body hx hpc hm hr hbuild =>
      rw [resolvable_iff_of_crash h hx, undisturbed_receive_iff hm hr hbuild]
  | @delivered n r x text requestId status headers body res hx hpc hm hr hbuild =>
      exact iff_of_true (h.of_calm (calm_of_fills (fills_answerTaken _ _ _ _)))
        (undisturbed_receive_of_built hm hbuild)
  | skipped hm => exact iff_of_true h (undisturbed_receive_of_skipped hm)
  | enlisted hx hpc =>
      exact iff_of_true (h.of_calm (calm_of_socket hx rfl (fun _ => trivial) rfl
        (fun e he => mem_waiting_release he))) trivial
  | removed hx hpc =>
      exact iff_of_true (h.of_calm (calm_of_socket hx rfl (fun hin => by
        rw [hpc] at hin
        exact hin) rfl (fun e he => mem_waiting_release he))) trivial
  | taken hx | pushed hx =>
      exact iff_of_true (h.of_calm (calm_of_socket hx rfl (fun _ => trivial) rfl
        (fun e he => he))) trivial
  | deafened hx =>
      exact iff_of_true (h.of_calm (calm_of_socket hx rfl id rfl (fun e he => he))) trivial
  | @unhosted req hhost =>
      refine iff_of_true (h.of_calm (calm_of_append rfl (fun c => ?_) rfl rfl)) ?_
      · simp only [ne_eq, reduceCtorEq, not_false_eq_true]
      · intro r c _ subdomain hsub
        rw [hhost] at hsub
        simp only [reduceCtorEq] at hsub
  | @unsent r c q x msg hq hpc hx hdead =>
      refine iff_of_true (h.of_calm (calm_of_move hq rfl (fun c => ?_) rfl rfl
        (fun e he => he))) (undisturbed_send_of_dead hq hpc hx hdead)
      simp only [ne_eq, reduceCtorEq, not_false_eq_true]
  | found hq | broke hq | read hq | lost hq | fellBack hq =>
      refine iff_of_true (h.of_calm (calm_of_move hq rfl (fun c => ?_) rfl rfl
        (fun e he => he))) trivial
      simp only [ne_eq, reduceCtorEq, not_false_eq_true]
  | missed hq | responded hq | fellBackHeld hq =>
      refine iff_of_true (h.of_calm (calm_of_move hq rfl (fun c => ?_) rfl rfl
        (fun e he => mem_waiting_release he))) trivial
      simp only [ne_eq, reduceCtorEq, not_false_eq_true]
  | panicked hq | cancelled hq =>
      refine iff_of_true (h.of_calm (calm_of_move hq rfl (fun c => ?_) rfl rfl
        (fun e he => mem_waiting_abandon he))) trivial
      simp only [ne_eq, reduceCtorEq, not_false_eq_true]
  | @enrolled r c q hq hpc =>
      have hmoved : Calm s (s.setRequest r { q with pc := .reading c }) :=
        calm_of_move hq rfl (fun c' => by
          simp only [ne_eq, reduceCtorEq, not_false_eq_true]) rfl rfl (fun e he => he)
      exact iff_of_true (h.of_calm (hmoved.trans (calm_of_fills (fills_insertPending _ _ _))))
        trivial
  | @discarded r c q hq hpc =>
      have hmoved : Calm s (s.setRequest r { q with pc := .falling (some c) q.req.emptied }) :=
        calm_of_move hq rfl (fun c' => by
          simp only [ne_eq, reduceCtorEq, not_false_eq_true]) rfl rfl (fun e he => he)
      exact iff_of_true (h.of_calm (hmoved.trans (calm_of_fills (fills_removePending _ _))))
        trivial

theorem resolvable_initial : initial.Resolvable := by
  intro r q c hq
  simp only [initial, List.getElem?_nil, reduceCtorEq] at hq

/-- The run lemma: in every state a run reaches, whoever waits for its response
    can still get one and has only requests for its own tunnel behind it,
    exactly if no step of the run disturbs that. -/
theorem resolvable_throughout_iff (E : Env) (as : List Action) :
    Throughout (step E) Resolvable initial as ↔ Legal (step E) (Undisturbed E) initial as :=
  throughout_iff_legal (fun _ _ _ hi hst => held_of_step hi hst)
    (fun _ _ _ hi h hst => resolvable_of_step_iff hi h hst) as initial held_initial
    resolvable_initial

/-! ### A run -/

/-- A request waits for its response, and the connection of its tunnel is lost
    while it is sent to. -/
def disconnected : List Action :=
  (lostResponse Body.empty).take 8 ++ [.pushed 0 false]

/-- The socket has left its loop, and the handler and the socket wait for each
    other. -/
theorem disconnect_strands :
    ¬ ∀ (E : Env) (s : Relay), Reaches (step E) (fun _ _ => True) initial s →
      s.Resolvable := by
  intro h
  rcases hrun : exec (step badStatus) initial disconnected with _ | s
  · exact absurd hrun (by decide)
  · have hobs : (exec (step badStatus) initial disconnected).map
        (fun s => (s.requests[0]?, s.sockets.map Socket.pc)) = some
          (some {
            req := postTo Body.empty
            pc := .waiting { subdomain := "app", tx := 0, requestId := "r1" }
            answer := .empty }, [.leaving]) := by decide
    rw [hrun, Option.map_some, Option.some.injEq, Prod.mk.injEq] at hobs
    have hwaits := (h badStatus s (reaches_of_exec _ _ _ hrun)) 0 _ _ hobs.1 rfl
    rcases hwaits.1 with ⟨x, hx, hloop⟩ | hanswered
    · have hmem : x.pc ∈ s.sockets.map Socket.pc :=
        List.mem_map_of_mem (List.mem_of_getElem? hx)
      rw [hobs.2, List.mem_singleton] at hmem
      rw [hmem] at hloop
      exact hloop
    · exact hanswered rfl

end Relay

end Prototype

end Rathole
