import Rathole.Relay.Correlation

/-!
# Who Answers a Request

`responses` is keyed by the request id alone: the loop of any websocket that
gets a `Response` takes the entry under its id out, whatever tunnel the
request was sent to. What keeps the tunnels apart is that a client learns the
ids of its own tunnel only. A request goes into the queue of the socket that
was registered under its tunnel id, and that socket sends it to its client.

As long as no client sends a `Response` with a request id that was never
handed to its own tunnel, a request is answered from the tunnel it was sent
to. A client that knows another's request id can answer for it.

## Main definitions

* `RequestPc.target`: The tunnel id and the sender a handler has settled on.
* `Ledger.Confined`: A `Response` has an id that was told to its tunnel.
* `Ledger.Separate`: Senders, queues and what was told belong to the tunnel
  they are kept under.

## Theorems

* `separate_of_reaches`: `Separate` holds in every reachable state.
* `answered_by_addressee`: In a confined run requests are answered from their
  own tunnel.
* `answered_by_another`: Otherwise they need not be.
-/

namespace Rathole

open FairLock Numbered Proxy Transition

/-- The tunnel id and the sender a handler has settled on. -/
def RequestPc.target : RequestPc → Option (String × Nat)
  | .checkingPreferred id tx | .checkingChosen id tx => some (id, tx)
  | .enrolling c | .reading c | .sending c | .waiting c _ | .failing c _ => some (c.id, c.tx)
  | _ => none

theorem RequestPc.target_of_call {pc : RequestPc} {c : Call} (h : pc.call = some c) :
    pc.target = some (c.id, c.tx) := by
  cases pc with
  | enrolling _ | reading _ | sending _ | waiting _ _ | failing _ _ =>
      rw [RequestPc.call, Option.some.injEq] at h
      rw [h]
      rfl
  | _ => simp only [RequestPc.call, reduceCtorEq] at h

theorem RequestPc.target_of_first {pc : RequestPc} (h : pc.isFirst = true) : pc.target = none := by
  cases pc with
  | listing | preferring _ | choosing => rfl
  | _ => simp only [RequestPc.isFirst, Bool.false_eq_true] at h

namespace Relay

variable {env : Env} {s t : Relay} {a : Action} {r k : Nat}

/-- What a handler that moves has settled on it had settled on before, or has
    just found in the table. -/
theorem PcMove.target {q : Request} {pc : RequestPc} {p : String × Nat}
    (hm : PcMove env s r q a pc) (hp : pc.target = some p) :
    q.pc.target = some p ∨ s.tunnels.lookup p.1 = some p.2 := by
  cases hm with
  -- The two lookups, and the choice among the tunnels that match.
  | found hpc he htx | preferred hpc htx =>
      rw [RequestPc.target, Option.some.injEq] at hp
      rw [← hp]
      exact Or.inr htx
  | ranked hpc hbest =>
      rw [RequestPc.target, Option.some.injEq] at hp
      rw [← hp]
      exact Or.inr (chooseBestTunnel_matches hbest).2
  | sticky hpc | chosen hpc | read hpc | unsentProxy hpc | unansweredProxy hpc | expire hpc =>
      rw [hpc]
      exact Or.inl hp
  | _ => simp only [RequestPc.target, reduceCtorEq] at hp

theorem target_of_step (h : step env s a = some t) {q' : Request} {p : String × Nat}
    (hq' : t.requests[k]? = some q') (hp : q'.pc.target = some p) :
    (∃ q, s.requests[k]? = some q ∧ q.pc.target = some p) ∨ s.tunnels.lookup p.1 = some p.2 := by
  rcases settled_of_step (fun _ _ => RequestPc.target_of_call)
    (fun _ => RequestPc.target_of_first) (fun _ => rfl) h hq' hp with ⟨q, hq, hold | hm⟩
  · exact Or.inl ⟨q, hq, hold⟩
  · exact (hm.target hp).imp_left (fun hold => ⟨q, hq, hold⟩)

/-- Sockets keep their tunnel id. -/
theorem id_survives (h : step env s a = some t) {x : Socket} (hx : s.sockets[k]? = some x) :
    ∃ z, t.sockets[k]? = some z ∧ z.id = x.id := by
  rcases socket_survives h hx with ⟨z, hz, heq | hmove⟩
  · exact ⟨z, hz, by rw [heq]⟩
  · exact ⟨z, hz, id_of_move hmove⟩

/-- The table has senders of sockets with the tunnel id they are kept under. -/
theorem table_of_step (htable : ∀ id n, s.tunnels.lookup id = some n →
      ∃ x, s.sockets[n]? = some x ∧ x.id = id) (h : step env s a = some t) {id : String} {n : Nat}
    (hl : t.tunnels.lookup id = some n) : ∃ x, t.sockets[n]? = some x ∧ x.id = id := by
  have kept : s.tunnels.lookup id = some n → ∃ x, t.sockets[n]? = some x ∧ x.id = id := by
    intro hold
    rcases htable id n hold with ⟨x, hx, hid⟩
    rcases id_survives h hx with ⟨z, hz, hzx⟩
    exact ⟨z, hz, hzx.trans hid⟩
  -- A socket is registered under its own id.
  by_cases hen : ∃ m, a = .enlist m
  · rcases hen with ⟨m, hm⟩
    rw [hm] at h
    rcases enlist_cases (act_of_step h) with ⟨x, hx, _, _, ht⟩
    rw [ht] at hl
    rcases HashMap.lookup_insert_cases hl with ⟨hid, hn⟩ | ⟨_, hold⟩
    · rw [hn, ht, hid]
      exact ⟨_, getElem?_updated hx, rfl⟩
    · exact kept hold
  · by_cases hcl : a = .cleanupRemove
    · rw [hcl] at h
      rcases cleanupRemove_cases (act_of_step h) with ⟨m, id', _, _, ht⟩
      rw [ht] at hl
      exact kept (HashMap.lookup_erase_cases hl).2
    · rw [tunnels_of_step h (fun m hm => hen ⟨m, hm⟩) hcl] at hl
      exact kept hl

/-- A message in a queue was there, or was put there by the handler that
    moves. -/
theorem queue_of_step (h : step env s a = some t) {z : Socket} {m : ControlMessage}
    (hz : t.sockets[k]? = some z) (hm : m ∈ z.queue) :
    (∃ x, s.sockets[k]? = some x ∧ x.id = z.id ∧ m ∈ x.queue) ∨
      ∃ (r : Nat) (q : Request) (c : Call) (x : Socket), s.requests[r]? = some q ∧
        q.pc = .sending c ∧ s.sockets[k]? = some x ∧ c.tx = k ∧ x.id = z.id ∧
          m = requestMessage q c := by
  by_cases hsend : ∃ r, a = .send r
  · -- Only `send` puts a message into a queue.
    rcases hsend with ⟨r, hr⟩
    rw [hr] at h
    rcases send_step env (act_of_step h) with
      ⟨q, pc, lock, _, _, _, ht⟩ | ⟨q, c, x, hq, hpc, hx, _, ht⟩
    · rw [ht] at hz
      exact Or.inl ⟨z, hz, rfl, hm⟩
    · rw [ht] at hz
      rcases getElem?_set_cases hz with ⟨hk, heq⟩ | ⟨_, hk⟩
      · rw [heq] at hm
        rcases List.mem_append.mp hm with hm | hm
        · exact Or.inl ⟨x, by rw [hk]; exact hx, by rw [heq], hm⟩
        · rw [List.mem_singleton] at hm
          exact Or.inr ⟨r, q, c, x, hq, hpc, by rw [hk]; exact hx, hk.symm, by rw [heq], hm⟩
      · exact Or.inl ⟨z, hk, rfl, hm⟩
  · rcases socket_of_step h hz with hx | ⟨x, hx, hmove⟩ | ⟨id, heq⟩
    · exact Or.inl ⟨z, hx, rfl, hm⟩
    · refine Or.inl ⟨x, hx, (id_of_move hmove).symm, ?_⟩
      cases hmove with
      | queued msg hl => exact absurd ⟨_, rfl⟩ hsend
      -- The first message is taken out, or all of them go.
      | forward hpc hq =>
          rw [hq]
          exact List.mem_cons_of_mem _ hm
      | first | online | enlist | pushed | message | report => exact hm
      | pushFailed | receiveFailed | disconnected | idle => exact absurd hm List.not_mem_nil
    · rw [heq] at hm
      exact absurd hm List.not_mem_nil

end Relay

namespace Ledger

open Relay

/-- A client sends a `Response` with the id of a call only if that id was told
    to a websocket of its own tunnel id. -/
def Confined (env : Env) (g : Ledger) (a : Action) : Prop :=
  match a, a.response env with
  | .receive n _, some (requestId, _) => match g.relay.sockets[n]? with
    | none => True
    | some x => requestId ∈ g.calls.map (fun p => p.2.requestId) → (x.id, requestId) ∈ g.told
  | _, _ => True

instance (env : Env) (g : Ledger) (a : Action) : Decidable (Confined env g a) := by
  unfold Confined
  split
  · split <;> infer_instance
  · infer_instance

/-- The request id is that of a call to the tunnel. -/
def Addressed (g : Ledger) (id requestId : String) : Prop :=
  ∃ r c, (r, c) ∈ g.calls ∧ c.requestId = requestId ∧ c.id = id

/-- The table and the handlers have senders of sockets with the tunnel id they
    are kept under; the requests in a queue, and those a client was told of,
    are calls to that tunnel. -/
structure Separate (g : Ledger) : Prop where
  table : ∀ id n, g.relay.tunnels.lookup id = some n →
    ∃ x, g.relay.sockets[n]? = some x ∧ x.id = id
  target : ∀ (r : Nat) (q : Request) (p : String × Nat), g.relay.requests[r]? = some q →
    q.pc.target = some p → ∃ x, g.relay.sockets[p.2]? = some x ∧ x.id = p.1
  queued : ∀ (n : Nat) (x : Socket) (requestId : String) (http : HttpRequest),
    g.relay.sockets[n]? = some x → .request requestId http ∈ x.queue →
    g.Addressed x.id requestId
  told : ∀ p ∈ g.told, g.Addressed p.1 p.2

variable {env : Env} {g g' : Ledger} {a : Action}

theorem addressed_mono (h : step env g a = some g') {id requestId : String}
    (ha : g.Addressed id requestId) : g'.Addressed id requestId := by
  rcases ha with ⟨r, c, hc, hrest⟩
  exact ⟨r, c, calls_mono h hc, hrest⟩

theorem initial_separate : initial.Separate where
  table := by
    intro id n h
    simp only [initial, Relay.initial, AList.lookup_empty, reduceCtorEq] at h
  target := by
    intro r q p h
    simp only [initial, Relay.initial, List.getElem?_nil, reduceCtorEq] at h
  queued := by
    intro n x requestId http h
    simp only [initial, Relay.initial, List.getElem?_nil, reduceCtorEq] at h
  told := by
    intro p hp
    exact absurd hp List.not_mem_nil

/-- A request that is told to a client was in the queue of its socket. -/
theorem mem_tells {s : Relay} {p : String × String} (hp : p ∈ s.tells a) :
    ∃ (n : Nat) (x : Socket) (http : HttpRequest), s.sockets[n]? = some x ∧ x.id = p.1 ∧
      .request p.2 http ∈ x.queue := by
  cases a with
  | forward n =>
      simp only [tells] at hp
      cases hx : s.sockets[n]? with
      | none =>
          rw [hx] at hp
          exact absurd hp List.not_mem_nil
      | some x =>
          rw [hx] at hp
          simp only at hp
          split at hp
          · rename_i requestId http rest hq
            rw [List.mem_singleton] at hp
            rw [hp]
            exact ⟨n, x, http, hx, rfl, by rw [hq]; exact List.mem_cons_self⟩
          · exact absurd hp List.not_mem_nil
  | _ => exact absurd hp List.not_mem_nil

theorem separate_of_step (hs : g.Separate) (hsound : g.Sound) (h : step env g a = some g') :
    g'.Separate := by
  rcases relay_of_step h with ⟨ht, _, htold⟩
  constructor
  · exact fun id n hl => Relay.table_of_step hs.table ht hl
  · intro k q' p hq' hp
    -- A handler keeps its target, or has it from the table.
    have hold : ∃ x, g.relay.sockets[p.2]? = some x ∧ x.id = p.1 := by
      rcases target_of_step ht hq' hp with ⟨q, hq, htarget⟩ | hl
      · exact hs.target k q p hq htarget
      · exact hs.table p.1 p.2 hl
    rcases hold with ⟨x, hx, hid⟩
    rcases id_survives ht hx with ⟨z, hz, hzx⟩
    exact ⟨z, hz, hzx.trans hid⟩
  · intro n z requestId http hz hm
    rcases queue_of_step ht hz hm with ⟨x, hx, hid, hm⟩ | ⟨r, q, c, x, hq, hpc, hx, htx, hid, hmsg⟩
    · rw [← hid]
      exact addressed_mono h (hs.queued n x requestId http hx hm)
    · -- The message of a call goes to a socket of the call's tunnel.
      have hcall : q.pc.call = some c := by
        rw [hpc]
        rfl
      rcases hs.target r q (c.id, c.tx) hq (RequestPc.target_of_call hcall) with ⟨x', hx', hid'⟩
      simp only at hx' hid'
      rw [htx, hx, Option.some.injEq] at hx'
      rw [requestMessage, ControlMessage.request.injEq] at hmsg
      refine ⟨r, c, calls_mono h (hsound.call r q c hq hcall), hmsg.1.symm, ?_⟩
      rw [← hid, hx', hid']
  · intro p hp
    rw [htold] at hp
    rcases List.mem_append.mp hp with hp | hp
    · exact addressed_mono h (hs.told p hp)
    · rcases mem_tells hp with ⟨n, x, http, hx, hid, hm⟩
      rw [← hid]
      exact addressed_mono h (hs.queued n x p.2 http hx hm)

theorem receive_socket {s t : Relay} {n : Nat} {m : Received}
    (h : receive env s n m = some t) : ∃ x, s.sockets[n]? = some x := by
  unfold receive at h
  cases hx : s.sockets[n]? with
  | none => simp only [hx, reduceCtorEq] at h
  | some x => exact ⟨x, rfl⟩

theorem separate_of_reaches {ok : Ledger → Action → Prop} (h : Reaches (step env) ok initial g)
    (hd : g.Distinct) : g.Separate := by
  induction h with
  | refl => exact initial_separate
  | tail hr _ hstep ih =>
      have hd' := hd.of_step hstep
      exact separate_of_step (ih hd') (sound_of_reaches hr hd').2 hstep

/-- In a run with distinct request ids in which no client sends a `Response`
    with a call's id that was not told to its own tunnel, a request is answered
    on a websocket of the tunnel it was sent to. -/
theorem answered_by_addressee (env : Env) (g : Ledger)
    (h : Reaches (step env) (Confined env) initial g) (hd : g.Distinct) (a : Action)
    (hok : Confined env g a) (g' : Ledger) (hstep : step env g a = some g') (r : Nat)
    (res : HttpResponse) (hans : Answers g.relay g'.relay r res) :
    ∃ q c n m x, g.relay.requests[r]? = some q ∧ q.pc.call = some c ∧ a = .receive n m ∧
      g.relay.sockets[n]? = some x ∧ x.id = c.id := by
  have ht := (relay_of_step hstep).1
  rcases sound_of_reaches h hd with ⟨hp, hs⟩
  rcases own_of_answers hp hstep hans with ⟨q, c, hq, hc, ha⟩
  have hcall := hs.call r q c hq hc
  cases a with
  | receive n m =>
      rcases receive_socket (act_of_step ht) with ⟨x, hx⟩
      refine ⟨q, c, n, m, x, hq, hc, rfl, hx, ?_⟩
      simp only [Confined, ha, hx] at hok
      -- The id was told to a socket of the tunnel the call is to.
      have htold := hok (List.mem_map.mpr ⟨(r, c), hcall, rfl⟩)
      rcases (separate_of_reaches h hd).told _ htold with ⟨r', c', hcall', hid, htunnel⟩
      have hsame := hd.call_eq hcall' hcall hid
      rw [Prod.mk.injEq] at hsame
      rw [← hsame.2]
      exact htunnel.symm
  | _ => simp only [Action.response, reduceCtorEq] at ha

/-- The client of tunnel `a` answers the request it was sent. -/
theorem answered_by_addressee_sent :
    ∃ g g', step .oneResponse g (.receive 0 (.message (.text "res"))) = some g' ∧
      ∃ q c n m x, g.relay.requests[0]? = some q ∧ q.pc.call = some c ∧
        Action.receive 0 (.message (.text "res")) = .receive n m ∧
        g.relay.sockets[n]? = some x ∧ x.id = c.id := by
  rcases hrun : exec (step .oneResponse) initial callSent with _ | g
  · exact absurd hrun (by decide)
  · have hfacts : (exec (step .oneResponse) initial callSent).map (fun g => (decide g.Distinct,
        decide (Confined .oneResponse g (.receive 0 (.message (.text "res")))))) =
        some (true, true) := by decide
    have hans : ((exec (step .oneResponse) initial callSent).bind
        (fun g => (step .oneResponse g (.receive 0 (.message (.text "res")))).bind
          (fun g' => g'.relay.requests[0]?))).map Request.answer =
        some (.sent { status := 200, headers := [], body := [] }) := by decide
    have hreq : ((exec (step .oneResponse) initial callSent).bind
        (fun g => g.relay.requests[0]?)).map Request.answer = some .empty := by decide
    rw [hrun] at hfacts hans hreq
    simp only [Option.map_some, Option.some.injEq, Prod.mk.injEq, decide_eq_true_eq] at hfacts
    simp only [Option.bind_some, Option.map_eq_some_iff, Option.bind_eq_some_iff] at hans hreq
    rcases hans with ⟨q', ⟨g', hstep, hq'⟩, hsent⟩
    rcases hreq with ⟨q, hq, hempty⟩
    refine ⟨g, g', hstep, answered_by_addressee .oneResponse g
      (reaches_of_legal callSent _ _ (by decide) hrun) hfacts.1 _ hfacts.2 g' hstep 0 _
      ⟨q, q', hq, hq', ?_, hsent⟩⟩
    rw [hempty]
    simp only [ne_eq, reduceCtorEq, not_false_eq_true]

/-- Tunnels `a` and `b` register, and a request for `a` is sent to its client.
    -/
def otherRegistered : List Action :=
  [.upgrade "b", .first 0 (.message (.text "reg")), .online 0 true, .enlist 0,
    .upgrade "a", .first 1 (.message (.text "reg")), .online 1 true, .enlist 1,
    .arrive (.tunnel "a") "GET" "x" [] [], .list 0, .find 0 "u", .enroll 0, .send 0, .forward 1,
    .pushed 1 true]

/-- The client of tunnel `b` sends a `Response` with the id of the request to
    `a`, and the request is answered with it. -/
theorem answered_by_another :
    ¬ ∀ (env : Env) (g : Ledger), Reaches (step env) (fun _ _ => True) initial g → g.Distinct →
      ∀ (a : Action) (g' : Ledger), step env g a = some g' → ∀ (r : Nat) (res : HttpResponse),
        Answers g.relay g'.relay r res →
        ∃ q c n m x, g.relay.requests[r]? = some q ∧ q.pc.call = some c ∧ a = .receive n m ∧
          g.relay.sockets[n]? = some x ∧ x.id = c.id := by
  intro h
  rcases hrun : exec (step .oneResponse) initial otherRegistered with _ | g
  · exact absurd hrun (by decide)
  · have hdist : (exec (step .oneResponse) initial otherRegistered).map
        (fun g => decide g.Distinct) = some true := by decide
    have hans : ((exec (step .oneResponse) initial otherRegistered).bind
        (fun g => (step .oneResponse g (.receive 0 (.message (.text "res")))).bind
          (fun g' => g'.relay.requests[0]?))).map Request.answer =
        some (.sent { status := 200, headers := [], body := [] }) := by decide
    have hreq : ((exec (step .oneResponse) initial otherRegistered).bind
        (fun g => g.relay.requests[0]?)).map (fun q => (q.answer, q.pc.call.map Call.id)) =
        some (.empty, some "a") := by decide
    have hsock : ((exec (step .oneResponse) initial otherRegistered).bind
        (fun g => g.relay.sockets[0]?)).map Socket.id = some "b" := by decide
    rw [hrun] at hdist hans hreq hsock
    simp only [Option.map_some, Option.some.injEq, decide_eq_true_eq] at hdist
    simp only [Option.bind_some, Option.map_eq_some_iff, Option.bind_eq_some_iff,
      Prod.mk.injEq] at hans hreq hsock
    rcases hans with ⟨q', ⟨g', hstep, hq'⟩, hsent⟩
    rcases hreq with ⟨q, hq, hempty, c, hc, hid⟩
    rcases hsock with ⟨x, hx, hxid⟩
    have hanswers : Answers g.relay g'.relay 0 { status := 200, headers := [], body := [] } := by
      refine ⟨q, q', hq, hq', ?_, hsent⟩
      rw [hempty]
      simp only [ne_eq, reduceCtorEq, not_false_eq_true]
    rcases h .oneResponse g (reaches_of_exec _ _ _ hrun) hdist _ g' hstep 0 _ hanswers with
      ⟨q0, c0, n, m, x0, hq0, hc0, ha, hx0, hid0⟩
    rw [hq, Option.some.injEq] at hq0
    rw [← hq0, hc, Option.some.injEq] at hc0
    rw [Action.receive.injEq] at ha
    rw [← ha.1, hx, Option.some.injEq] at hx0
    rw [← hx0, ← hc0, hxid, hid] at hid0
    exact absurd hid0 (by decide)

end Ledger

end Rathole
