import Rathole.Relay.Addressee
import Rathole.Relay.Routes

/-!
# What a Client Is Handed

Between a handler and the client of a tunnel there is the queue of the
tunnel's socket. `Deliveries` is the relay together with what went in and what
came out: every message a handler has put into a queue, and every message a
socket has taken from its queue to hand it to its client.

While a socket is in its loop nothing gets lost between the two, whatever the
handlers, the clients and the cleanup task do meanwhile: what was put in is
what came out and what is still there, in this order. A socket that leaves its
loop loses what is in its queue and nothing else. A handler puts one message
in at most, that of its own request and call, and only into a queue of the
tunnel it was sent to.

## Main definitions

* `Relay.putsIn`, `Relay.takesOut`: What an action does to the queues.
* `Deliveries`, `Deliveries.step`: The relay with both records.
* `RequestPc.hasSent`: The awaits after `tx.send(msg)`.
* `Deliveries.InOrder`: What comes out is what went in.

## Theorems

* `even_of_step`: A step keeps the queues in order.
* `owned_of_step`: A step keeps the messages those of their requests.
* `delivered_in_order`: Both hold in every run.
-/

namespace Rathole

open Numbered Proxy Transition

/-- A message in the queue of a tunnel, with the handler that put it there and
    its call. -/
structure Sending where
  handler : Nat
  call : Call
  message : ControlMessage
deriving DecidableEq, Repr

/-- The awaits of a handler after `tx.send(msg)`. -/
def RequestPc.hasSent : RequestPc → Bool
  | .waiting _ _ | .failing _ _ | .returned _ | .dropped => true
  | _ => false

namespace Relay

/-- What an action that leads to `t` has put into a queue. A handler whose
    `send` went through waits for its answer. -/
def putsIn (t : Relay) : Action → List Sending
  | .send r => match t.requests[r]? with
    | none => []
    | some q => match q.pc with
      | .waiting c _ => [{ handler := r, call := c, message := requestMessage q c }]
      | _ => []
  | _ => []

/-- What an action that leads to `t` has taken out of the queue of a socket. -/
def takesOut (t : Relay) : Action → List (Nat × ControlMessage)
  | .forward n => match t.sockets[n]? with
    | none => []
    | some x => match x.pc with
      | .pushing msg => [(n, msg)]
      | _ => []
  | _ => []

end Relay

/-- The relay, what was put into its queues and what was taken out. -/
structure Deliveries where
  relay : Relay
  sent : List Sending
  handed : List (Nat × ControlMessage)

namespace Deliveries

/-- Nothing has been sent yet. -/
def initial : Deliveries where
  relay := Relay.initial
  sent := []
  handed := []

/-- A step of the relay, with what it does to the queues written down. -/
def step (env : Env) (g : Deliveries) (a : Action) : Option Deliveries :=
  (Relay.step env g.relay a).map (fun t => {
    relay := t
    sent := g.sent ++ t.putsIn a
    handed := g.handed ++ t.takesOut a })

/-- What was put into the queue of socket `n`. -/
def sentTo (g : Deliveries) (n : Nat) : List ControlMessage :=
  (g.sent.filter (fun e => e.call.tx = n)).map Sending.message

/-- What socket `n` has handed to its client. -/
def handedTo (g : Deliveries) (n : Nat) : List ControlMessage :=
  (g.handed.filter (fun p => p.1 = n)).map Prod.snd

/-- What clients are handed is what was put into their queues. -/
structure InOrder (g : Deliveries) : Prop where
  /-- While a socket is in its loop, all that was put in has come out or is
      still there. -/
  queued : ∀ (n : Nat) (x : Socket), g.relay.sockets[n]? = some x → x.InLoop →
    g.sentTo n = g.handedTo n ++ x.queue
  /-- Nothing comes out that was not put in, nor in another order. -/
  handed : ∀ n, g.handedTo n <+: g.sentTo n
  /-- No queue gets longer than the capacity of its channel. -/
  room : ∀ (n : Nat) (x : Socket), g.relay.sockets[n]? = some x →
    x.queue.length ≤ Relay.queueCapacity
  /-- A handler puts one message in at most. -/
  once : (g.sent.map Sending.handler).Nodup
  /-- It is the message of its request and its call, and the queue is one of
      the tunnel of its call, which for `tunnel` is that of the path. -/
  own : ∀ e ∈ g.sent, ∃ q x, g.relay.requests[e.handler]? = some q ∧
    g.relay.sockets[e.call.tx]? = some x ∧ e.call.id = x.id ∧
    e.message = Relay.requestMessage q e.call ∧ ∀ id, q.entry = .tunnel id → x.id = id
  /-- A handler that waits for an answer has put its message in. -/
  waiting : ∀ (r : Nat) (q : Request) (c : Call) (since : Nat),
    g.relay.requests[r]? = some q → q.pc = .waiting c since →
    ∃ e ∈ g.sent, e.handler = r ∧ e.call = c

end Deliveries

namespace Relay

variable {env : Env} {s t : Relay} {a : Action} {r k : Nat}

/-! ### Handlers -/

/-- Nobody gets back to where a message is sent. -/
theorem hasSent_of_pc {q : Request} {pc : RequestPc} (hm : PcStep env s r q a pc)
    (hq : q.pc.hasSent = true) : pc.hasSent = true := by
  cases hm with
  | stay hpc => rw [hpc]; exact hq
  | enroll c hqc _ | send c hqc _ =>
      rw [hqc] at hq
      simp only [RequestPc.hasSent, Bool.false_eq_true] at hq
  | discard c code hqc hpc => rw [hpc]; rfl
  | move hm =>
      cases hm with
      | list hqc | found hqc | preferred hqc | unregistered hqc | sticky hqc | unhealthy hqc
      | choose hqc | ranked hqc | unranked hqc | chosen hqc | fallback hqc | read hqc =>
          rw [hqc] at hq
          simp only [RequestPc.hasSent, Bool.false_eq_true] at hq
      | _ => rfl

theorem request_survives (h : step env s a = some t) {q : Request}
    (hq : s.requests[k]? = some q) : ∃ q', t.requests[k]? = some q' := by
  have hlt : k < t.requests.length :=
    Nat.lt_of_lt_of_le (List.getElem?_eq_some_iff.mp hq).fst (length_le_of_step h)
  exact ⟨_, List.getElem?_eq_getElem hlt⟩

/-- The message of a request is made of what the request came with. -/
theorem requestMessage_of_step (h : step env s a = some t) {q q' : Request}
    (hq : s.requests[k]? = some q) (hq' : t.requests[k]? = some q') (c : Call) :
    requestMessage q' c = requestMessage q c :=
  feature_of_step (f := fun q => requestMessage q c) (fun _ _ _ => rfl) h hq hq'

/-- Handlers and the table have senders of sockets with the tunnel ids they are
    kept under, and `tunnel` looks for no other tunnel than that of its
    path. -/
structure Addressed (s : Relay) : Prop where
  table : ∀ id n, s.tunnels.lookup id = some n → ∃ x, s.sockets[n]? = some x ∧ x.id = id
  target : ∀ (r : Nat) (q : Request) (p : String × Nat), s.requests[r]? = some q →
    q.pc.target = some p → ∃ x, s.sockets[p.2]? = some x ∧ x.id = p.1
  path : ∀ (r : Nat) (q : Request) (id : String), s.requests[r]? = some q →
    q.entry = .tunnel id → q.pc.preference = none ∧ q.pc.isChoosing = false ∧
      ∀ p, q.pc.target = some p → p.1 = id

theorem addressed_initial : Addressed initial where
  table := by
    intro id n h
    simp only [initial, AList.lookup_empty, reduceCtorEq] at h
  target := by
    intro r q p h
    simp only [initial, List.getElem?_nil, reduceCtorEq] at h
  path := by
    intro r q id h
    simp only [initial, List.getElem?_nil, reduceCtorEq] at h

/-- `tunnel` has one way to a sender. -/
theorem path_of_move {q : Request} {pc : RequestPc} {id : String} (he : q.entry = .tunnel id)
    (hpref : q.pc.preference = none) (hchoosing : q.pc.isChoosing = false)
    (htarget : ∀ p, q.pc.target = some p → p.1 = id) (hm : PcMove env s r q a pc) :
    pc.preference = none ∧ pc.isChoosing = false ∧ ∀ p, pc.target = some p → p.1 = id := by
  cases hm with
  | found hpc he' htx =>
      refine ⟨rfl, rfl, fun p hp => ?_⟩
      rw [he, Entry.tunnel.injEq] at he'
      rw [RequestPc.target, Option.some.injEq] at hp
      rw [← hp, he']
  | read hpc | unsentProxy hpc | unansweredProxy hpc | expire hpc =>
      rw [hpc] at htarget
      exact ⟨rfl, rfl, htarget⟩
  -- The ways of `proxy_handler`.
  | preferred hpc | unregistered hpc | sticky hpc | unhealthy hpc =>
      rw [hpc] at hpref
      simp only [RequestPc.preference, reduceCtorEq] at hpref
  | choose hpc | ranked hpc | unranked hpc | chosen hpc | fallback hpc =>
      rw [hpc] at hchoosing
      simp only [RequestPc.isChoosing, Bool.true_eq_false] at hchoosing
  | _ => exact ⟨rfl, rfl, fun p hp => by simp only [RequestPc.target, reduceCtorEq] at hp⟩

theorem path_of_step (hi : Addressed s) (h : step env s a = some t) {q' : Request} {id : String}
    (hq' : t.requests[k]? = some q') (he : q'.entry = .tunnel id) :
    q'.pc.preference = none ∧ q'.pc.isChoosing = false ∧
      ∀ p, q'.pc.target = some p → p.1 = id := by
  rcases pc_of_step h hq' with ⟨q, hq, hm⟩ | ⟨hnone, _⟩
  · have hin := input_of_step h hq hq'
    simp only [Request.input, Prod.mk.injEq] at hin
    rw [hin.1] at he
    rcases hi.path k q id hq he with ⟨hpref, hchoosing, htarget⟩
    -- Within a call the target stays.
    have hcall : ∀ c, q.pc.call = some c → c.id = id := fun c hc =>
      htarget (c.id, c.tx) (RequestPc.target_of_call hc)
    cases hm with
    | stay hpc =>
        rw [hpc]
        exact ⟨hpref, hchoosing, htarget⟩
    | move hm => exact path_of_move he hpref hchoosing htarget hm
    | enroll c hqc hpc =>
        have hid := hcall c (by rw [hqc]; rfl)
        rcases hpc with hpc | hpc
        · rw [hpc]
          exact ⟨rfl, rfl, fun p hp => by rw [← Option.some.inj hp]; exact hid⟩
        · rw [hpc]
          exact ⟨rfl, rfl, fun p hp => by rw [← Option.some.inj hp]; exact hid⟩
    | send c hqc hpc =>
        have hid := hcall c (by rw [hqc]; rfl)
        rw [hpc]
        exact ⟨rfl, rfl, fun p hp => by rw [← Option.some.inj hp]; exact hid⟩
    | discard c code hqc hpc =>
        rw [hpc]
        exact ⟨rfl, rfl, fun p hp => by simp only [RequestPc.target, reduceCtorEq] at hp⟩
  · rw [first_of_step h hnone hq', he]
    exact ⟨rfl, rfl, fun p hp => by simp only [firstAwait, RequestPc.target, reduceCtorEq] at hp⟩

theorem addressed_of_step (hi : Addressed s) (h : step env s a = some t) : Addressed t where
  table := fun _ _ hl => table_of_step hi.table h hl
  target := by
    intro k q' p hq' hp
    -- A handler keeps its target, or has it from the table.
    have hold : ∃ x, s.sockets[p.2]? = some x ∧ x.id = p.1 := by
      rcases target_of_step h hq' hp with ⟨q, hq, htarget⟩ | hl
      · exact hi.target k q p hq htarget
      · exact hi.table p.1 p.2 hl
    rcases hold with ⟨x, hx, hid⟩
    rcases id_survives h hx with ⟨z, hz, hzx⟩
    exact ⟨z, hz, hzx.trans hid⟩
  path := fun _ _ _ hq' he => path_of_step hi h hq' he

/-! ### Queues -/

/-- The queue of a socket, if it has come that far, against what was put in
    and what has come out. -/
def Balanced (sent handed : List ControlMessage) : Option Socket → Prop
  | none => sent = [] ∧ handed = []
  | some x => x.queue.length ≤ queueCapacity ∧ match x.pc with
    | .opened | .onlining | .enlisting => sent = [] ∧ handed = [] ∧ x.queue = []
    | .looping | .pushing _ => sent = handed ++ x.queue
    | .leaving | .closed => handed <+: sent

variable {sent handed : List ControlMessage} {x : Socket}

theorem Balanced.isPrefix {o : Option Socket} (h : Balanced sent handed o) : handed <+: sent := by
  rcases o with _ | x
  · rw [h.2]
    exact List.nil_prefix
  · have hpc := h.2
    cases hp : x.pc with
    | opened | onlining | enlisting =>
        simp only [hp] at hpc
        rw [hpc.2.1]
        exact List.nil_prefix
    | looping | pushing _ =>
        simp only [hp] at hpc
        rw [hpc]
        exact List.prefix_append _ _
    | leaving | closed =>
        simp only [hp] at hpc
        exact hpc

theorem balanced_iff_of_inLoop (hl : x.InLoop) : Balanced sent handed (some x) ↔
    x.queue.length ≤ queueCapacity ∧ sent = handed ++ x.queue := by
  cases hp : x.pc with
  | looping | pushing _ => simp only [Balanced, hp]
  | _ => simp only [Socket.InLoop, hp] at hl

/-- A message that finds room goes to the end. -/
theorem Balanced.put (h : Balanced sent handed (some x)) (hl : x.InLoop)
    (hroom : x.queue.length < queueCapacity) (m : ControlMessage) :
    Balanced (sent ++ [m]) handed (some { x with queue := x.queue ++ [m] }) := by
  rw [balanced_iff_of_inLoop hl] at h
  rw [balanced_iff_of_inLoop (x := { x with queue := x.queue ++ [m] }) hl]
  rw [h.2, List.append_assoc, List.length_append, List.length_singleton]
  exact ⟨hroom, rfl⟩

/-- The first message comes out. -/
theorem Balanced.take {m : ControlMessage} {rest : List ControlMessage}
    (h : Balanced sent handed (some x)) (hpc : x.pc = .looping) (hq : x.queue = m :: rest) :
    Balanced sent (handed ++ [m]) (some { x with pc := .pushing m, queue := rest }) := by
  rw [balanced_iff_of_inLoop (by simp only [Socket.InLoop, hpc]), hq] at h
  rw [balanced_iff_of_inLoop (x := { x with pc := .pushing m, queue := rest }) trivial]
  rw [h.2, List.append_assoc]
  exact ⟨Nat.le_of_succ_le h.1, rfl⟩

/-- A socket that moves without sending or taking a message. -/
theorem Balanced.move {n : Nat} {z : Socket} (h : Balanced sent handed (some x))
    (hm : SocketMove env s n x a z) (hsend : ∀ r, a ≠ .send r) (hforward : a ≠ .forward n) :
    Balanced sent handed (some z) := by
  have hprefix := h.isPrefix
  cases hm with
  | queued => exact absurd rfl (hsend _)
  | forward => exact absurd rfl hforward
  | @first m hpc =>
      simp only [Balanced, hpc] at h
      rcases firstPc_cases env m with hf | hf | hf
      · simp only [Balanced, hf]
        exact ⟨h.1, hprefix⟩
      · simp only [Balanced, hf]
        exact h
      · simp only [Balanced, hf]
        exact ⟨h.1, hprefix⟩
  | online hpc =>
      simp only [Balanced, hpc] at h
      exact h
  | enlist hpc =>
      simp only [Balanced, hpc] at h
      refine ⟨h.1, ?_⟩
      rw [h.2.1, h.2.2.1, h.2.2.2]
      rfl
  | pushed hpc =>
      simp only [Balanced, hpc] at h
      exact h
  | message hpc =>
      simp only [Balanced, hpc] at h ⊢
      exact h
  | pushFailed | receiveFailed | disconnected | idle => exact ⟨Nat.zero_le _, hprefix⟩
  | report hpc =>
      simp only [Balanced, hpc] at h
      exact h

theorem sockets_failCall (s : Relay) (r : Nat) (q : Request) (c : Call) (e : AppError)
    (code : StatusCode) : (s.failCall r q c e code).sockets = s.sockets := by
  unfold failCall
  cases q.entry with
  | tunnel id => rfl
  | proxy => rfl

/-- A handler whose message did not get into a queue does not wait. -/
theorem putsIn_failCall {q : Request} (hq : s.requests[r]? = some q) (c : Call) (e : AppError)
    (code : StatusCode) : (s.failCall r q c e code).putsIn (.send r) = [] := by
  have hself : ∀ pc lock, (s.moveRequest r q pc lock).requests[r]? = some { q with pc := pc } :=
    fun pc lock => getElem?_updated hq
  unfold failCall
  cases he : q.entry with
  | tunnel id => simp only [finish, putsIn, hself]
  | proxy => simp only [putsIn, hself]

theorem putsIn_of_sent {q : Request} {c : Call} {x : Socket} (hq : s.requests[r]? = some q) :
    ((s.setSocket c.tx x).setRequest r { q with pc := .waiting c s.now }).putsIn (.send r) =
      [{ handler := r, call := c, message := requestMessage q c }] := by
  have hself : ((s.setSocket c.tx x).setRequest r
      { q with pc := .waiting c s.now }).requests[r]? = some { q with pc := .waiting c s.now } :=
    getElem?_updated hq
  simp only [putsIn, hself]
  rfl

theorem takesOut_of_forwarded {n : Nat} {msg : ControlMessage} {rest : List ControlMessage}
    (hx : s.sockets[n]? = some x) :
    (s.setSocket n { x with pc := .pushing msg, queue := rest }).takesOut (.forward n) =
      [(n, msg)] := by
  have hself : (s.setSocket n { x with pc := .pushing msg, queue := rest }).sockets[n]? =
      some { x with pc := .pushing msg, queue := rest } :=
    getElem?_updated hx
  simp only [takesOut, hself]

theorem putsIn_of_other (ha : ∀ r, a ≠ .send r) : t.putsIn a = [] := by
  cases a with
  | send r => exact absurd rfl (ha r)
  | _ => rfl

theorem takesOut_of_other (ha : ∀ n, a ≠ .forward n) : t.takesOut a = [] := by
  cases a with
  | forward n => exact absurd rfl (ha n)
  | _ => rfl

/-- A step that neither sends nor takes a message leaves every queue
    balanced. -/
theorem balanced_of_quiet (h : step env s a = some t) (hsend : ∀ r, a ≠ .send r)
    (hforward : ∀ n, a ≠ .forward n) {n : Nat} (hb : Balanced sent handed s.sockets[n]?) :
    Balanced sent handed t.sockets[n]? := by
  rcases hx : s.sockets[n]? with _ | x
  · rw [hx] at hb
    rcases hz : t.sockets[n]? with _ | z
    · exact hb
    · -- A socket that was not there is a new one.
      rcases socket_of_step h hz with hold | ⟨w, hw, _⟩ | ⟨id, hnew⟩
      · rw [hx] at hold
        simp only [reduceCtorEq] at hold
      · rw [hx] at hw
        simp only [reduceCtorEq] at hw
      · rw [hnew]
        exact ⟨Nat.zero_le _, hb.1, hb.2, rfl⟩
  · rw [hx] at hb
    rcases socket_survives h hx with ⟨z, hz, hsame | hmove⟩
    · rw [hz, hsame]
      exact hb
    · rw [hz]
      exact hb.move hmove hsend (hforward n)

end Relay

namespace Deliveries

open Relay

variable {env : Env} {g g' : Deliveries} {a : Action}

theorem relay_of_step (h : step env g a = some g') : Relay.step env g.relay a = some g'.relay ∧
    g'.sent = g.sent ++ g'.relay.putsIn a ∧ g'.handed = g.handed ++ g'.relay.takesOut a := by
  rcases Option.map_eq_some_iff.mp h with ⟨t, ht, rfl⟩
  exact ⟨ht, rfl, rfl⟩

theorem sentTo_of_step (h : step env g a = some g') (n : Nat) :
    g'.sentTo n = g.sentTo n ++
      ((g'.relay.putsIn a).filter (fun e => e.call.tx = n)).map Sending.message := by
  rw [sentTo, (relay_of_step h).2.1, List.filter_append, List.map_append, sentTo]

theorem handedTo_of_step (h : step env g a = some g') (n : Nat) :
    g'.handedTo n = g.handedTo n ++
      ((g'.relay.takesOut a).filter (fun p => p.1 = n)).map Prod.snd := by
  rw [handedTo, (relay_of_step h).2.2, List.filter_append, List.map_append, handedTo]

/-- Every queue is balanced. -/
def Even (g : Deliveries) : Prop :=
  ∀ n, Balanced (g.sentTo n) (g.handedTo n) g.relay.sockets[n]?

theorem even_initial : initial.Even := fun _ => ⟨rfl, rfl⟩

theorem even_of_send {r : Nat} (hi : g.Even) (h : step env g (.send r) = some g') : g'.Even := by
  intro n
  have hb := hi n
  have ht := (relay_of_step h).1
  have hhanded : g'.handedTo n = g.handedTo n := by
    rw [handedTo_of_step h, takesOut_of_other (by simp only [ne_eq, reduceCtorEq,
      not_false_eq_true, implies_true]), List.filter_nil, List.map_nil, List.append_nil]
  rw [hhanded, sentTo_of_step h]
  rcases send_cases (act_of_step ht) with ⟨q, c, x, hq, hpc, hx, ⟨hl, hroom, hg⟩ | ⟨_, hg⟩⟩
  · rw [hg, putsIn_of_sent hq]
    by_cases hn : c.tx = n
    · subst hn
      have hself : (g.relay.setSocket c.tx { x with
          queue := x.queue ++ [requestMessage q c] }).sockets[c.tx]? =
          some { x with queue := x.queue ++ [requestMessage q c] } :=
        getElem?_updated hx
      rw [hx] at hb
      simp only [decide_true, List.filter_cons_of_pos, List.filter_nil, List.map_cons,
        List.map_nil]
      change Balanced _ _ ((g.relay.setSocket c.tx _).sockets[c.tx]?)
      rw [hself]
      exact hb.put hl hroom _
    · have hother : (g.relay.setSocket c.tx { x with
          queue := x.queue ++ [requestMessage q c] }).sockets[n]? = g.relay.sockets[n]? :=
        List.getElem?_set_ne hn
      rw [List.filter_cons_of_neg (by simpa only [decide_eq_true_eq] using hn), List.filter_nil,
        List.map_nil, List.append_nil]
      change Balanced _ _ ((g.relay.setSocket c.tx _).sockets[n]?)
      rw [hother]
      exact hb
  · rw [hg, putsIn_failCall hq, sockets_failCall, List.filter_nil, List.map_nil, List.append_nil]
    exact hb

theorem even_of_forward {m : Nat} (hi : g.Even) (h : step env g (.forward m) = some g') :
    g'.Even := by
  intro n
  have hb := hi n
  have ht := (relay_of_step h).1
  have hsent : g'.sentTo n = g.sentTo n := by
    rw [sentTo_of_step h, putsIn_of_other (by simp only [ne_eq, reduceCtorEq,
      not_false_eq_true, implies_true]), List.filter_nil, List.map_nil, List.append_nil]
  rw [hsent, handedTo_of_step h]
  rcases forward_cases (act_of_step ht) with ⟨x, msg, rest, hx, hpc, hq, hg⟩
  rw [hg, takesOut_of_forwarded hx]
  by_cases hn : m = n
  · subst hn
    rw [hx] at hb
    simp only [decide_true, List.filter_cons_of_pos, List.filter_nil, List.map_cons, List.map_nil]
    rw [setSocket, getElem?_updated hx]
    exact hb.take hpc hq
  · rw [List.filter_cons_of_neg (by simpa only [decide_eq_true_eq] using hn), List.filter_nil,
      List.map_nil, List.append_nil, setSocket, List.getElem?_set_ne hn]
    exact hb

/-- A step keeps the queues balanced. -/
theorem even_of_step (hi : g.Even) (h : step env g a = some g') : g'.Even := by
  by_cases hsend : ∃ r, a = .send r
  · rcases hsend with ⟨r, rfl⟩
    exact even_of_send hi h
  · by_cases hforward : ∃ n, a = .forward n
    · rcases hforward with ⟨n, rfl⟩
      exact even_of_forward hi h
    · have hs : ∀ r, a ≠ .send r := fun r hr => hsend ⟨r, hr⟩
      have hf : ∀ n, a ≠ .forward n := fun n hn => hforward ⟨n, hn⟩
      intro n
      rw [sentTo_of_step h, handedTo_of_step h, putsIn_of_other hs, takesOut_of_other hf,
        List.filter_nil, List.filter_nil, List.map_nil, List.map_nil, List.append_nil,
        List.append_nil]
      exact balanced_of_quiet (relay_of_step h).1 hs hf (hi n)

/-- What was put in, and by whom. -/
structure Owned (g : Deliveries) : Prop where
  addressed : Addressed g.relay
  once : (g.sent.map Sending.handler).Nodup
  own : ∀ e ∈ g.sent, ∃ q x, g.relay.requests[e.handler]? = some q ∧ q.pc.hasSent = true ∧
    g.relay.sockets[e.call.tx]? = some x ∧ e.call.id = x.id ∧
    e.message = requestMessage q e.call ∧ ∀ id, q.entry = .tunnel id → x.id = id
  waiting : ∀ (r : Nat) (q : Request) (c : Call) (since : Nat),
    g.relay.requests[r]? = some q → q.pc = .waiting c since →
    ∃ e ∈ g.sent, e.handler = r ∧ e.call = c

theorem owned_initial : initial.Owned where
  addressed := addressed_initial
  once := List.nodup_nil
  own := fun e he => absurd he List.not_mem_nil
  waiting := by
    intro r q c since h
    simp only [initial, Relay.initial, List.getElem?_nil, reduceCtorEq] at h

/-- What belongs to a request still does after a step. -/
theorem own_of_step (hi : g.Owned) (h : step env g a = some g') {e : Sending} (he : e ∈ g.sent) :
    ∃ q x, g'.relay.requests[e.handler]? = some q ∧ q.pc.hasSent = true ∧
      g'.relay.sockets[e.call.tx]? = some x ∧ e.call.id = x.id ∧
      e.message = requestMessage q e.call ∧ ∀ id, q.entry = .tunnel id → x.id = id := by
  have ht := (relay_of_step h).1
  rcases hi.own e he with ⟨q, x, hq, hsent, hx, hid, hmsg, hpath⟩
  rcases request_survives ht hq with ⟨q', hq'⟩
  rcases id_survives ht hx with ⟨z, hz, hzx⟩
  have hin := input_of_step ht hq hq'
  simp only [Request.input, Prod.mk.injEq] at hin
  refine ⟨q', z, hq', ?_, hz, hid.trans hzx.symm, ?_, ?_⟩
  · rcases pc_of_step ht hq' with ⟨q0, hq0, hm⟩ | ⟨hnone, _⟩
    · rw [hq, Option.some.injEq] at hq0
      exact hasSent_of_pc hm (hq0 ▸ hsent)
    · rw [hq] at hnone
      simp only [reduceCtorEq] at hnone
  · rw [hmsg, requestMessage_of_step ht hq hq']
  · intro id hentry
    rw [hzx]
    exact hpath id (hin.1.symm.trans hentry)

/-- A message that has just been put in belongs to the handler that waits. -/
theorem own_of_sent {t : Relay} {r : Nat} {q : Request} {c : Call} {x : Socket}
    (hi : Addressed g.relay) (ht : Relay.step env g.relay (.send r) = some t)
    (hq : g.relay.requests[r]? = some q) (hpc : q.pc = .sending c)
    (hg : t = (g.relay.setSocket c.tx { x with
      queue := x.queue ++ [requestMessage q c] }).setRequest r
        { q with pc := .waiting c g.relay.now }) :
    ∃ q' z, t.requests[r]? = some q' ∧ q'.pc.hasSent = true ∧ t.sockets[c.tx]? = some z ∧
      c.id = z.id ∧ requestMessage q c = requestMessage q' c ∧
      ∀ id, q'.entry = .tunnel id → z.id = id := by
  have htarget : q.pc.target = some (c.id, c.tx) := by
    rw [hpc]
    rfl
  rcases hi.target r q _ hq htarget with ⟨y, hy, hid⟩
  rcases id_survives ht hy with ⟨z, hz, hzy⟩
  refine ⟨{ q with pc := .waiting c g.relay.now }, z, ?_, rfl, hz, (hzy.trans hid).symm, rfl, ?_⟩
  · rw [hg]
    exact getElem?_updated hq
  · intro id hentry
    rw [hzy, hid]
    exact (hi.path r q id hq hentry).2.2 _ htarget

theorem owned_of_step (hi : g.Owned) (h : step env g a = some g') : g'.Owned := by
  rcases relay_of_step h with ⟨ht, hsent, _⟩
  have haddr := addressed_of_step hi.addressed ht
  have quiet : g'.relay.putsIn a = [] → (∀ r q' c since, g'.relay.requests[r]? = some q' →
      q'.pc = .waiting c since → a ≠ .send r) → g'.Owned := by
    intro hnone hno
    rw [hnone, List.append_nil] at hsent
    refine ⟨haddr, by rw [hsent]; exact hi.once, ?_, ?_⟩
    · rw [hsent]
      exact fun e he => own_of_step hi h he
    · intro r q' c since hq' hpc
      rw [hsent]
      rcases waits_of_step ht hq' hpc with ⟨q, hq, hp, _⟩ | ⟨ha, _⟩
      · exact hi.waiting r q c since hq hp
      · exact absurd ha (hno r q' c since hq' hpc)
  by_cases hsend : ∃ r, a = .send r
  · rcases hsend with ⟨r, rfl⟩
    rcases send_cases (act_of_step ht) with ⟨q, c, x, hq, hpc, hx, ⟨_, _, hg⟩ | ⟨_, hg⟩⟩
    · have hputs : g'.relay.putsIn (.send r) =
          [{ handler := r, call := c, message := requestMessage q c }] := by
        rw [hg]
        exact putsIn_of_sent hq
      rw [hputs] at hsent
      -- The handler was about to send, so it has not sent before.
      have hnew : r ∉ g.sent.map Sending.handler := by
        intro hmem
        rcases List.mem_map.mp hmem with ⟨e, he, rfl⟩
        rcases hi.own e he with ⟨q0, _, hq0, hs, _⟩
        rw [hq, Option.some.injEq] at hq0
        rw [← hq0, hpc] at hs
        simp only [RequestPc.hasSent, Bool.false_eq_true] at hs
      refine ⟨haddr, ?_, ?_, ?_⟩
      · rw [hsent, List.map_append]
        exact List.nodup_append.mpr ⟨hi.once, List.nodup_singleton _, fun b hb b' hb' heq => by
          rw [List.map_singleton, List.mem_singleton] at hb'
          rw [heq, hb'] at hb
          exact hnew hb⟩
      · intro e he
        rw [hsent] at he
        rcases List.mem_append.mp he with he | he
        · exact own_of_step hi h he
        · rw [List.mem_singleton] at he
          rw [he]
          exact own_of_sent hi.addressed ht hq hpc hg
      · intro k q' c' since hq' hpc'
        rw [hsent]
        rcases waits_of_step ht hq' hpc' with ⟨q0, hq0, hp, _⟩ | ⟨ha, _⟩
        · rcases hi.waiting k q0 c' since hq0 hp with ⟨e, he, hrest⟩
          exact ⟨e, List.mem_append_left _ he, hrest⟩
        · rw [Action.send.injEq] at ha
          subst ha
          refine ⟨_, List.mem_append_right _ (List.mem_singleton_self _), rfl, ?_⟩
          simp only [putsIn, hq', hpc', List.cons.injEq, Sending.mk.injEq, and_true,
            true_and] at hputs
          exact hputs.1.symm
    · refine quiet (by rw [hg]; exact putsIn_failCall hq _ _ _) ?_
      intro k q' c' since hq' hpc' ha
      rw [Action.send.injEq] at ha
      subst ha
      have hputs := putsIn_failCall hq c .tunnelSendError .badGateway
      rw [← hg] at hputs
      simp only [putsIn, hq', hpc', List.cons_ne_self] at hputs
  · have hs : ∀ r, a ≠ .send r := fun r hr => hsend ⟨r, hr⟩
    exact quiet (putsIn_of_other hs) (fun r _ _ _ _ _ => hs r)

/-- In every run, whatever the interleaving, clients are handed the messages
    that were put into their queues, in order and without a gap, and these are
    the requests of their own tunnel, each put in once. -/
theorem delivered_in_order (env : Env) (g : Deliveries)
    (h : Reaches (step env) (fun _ _ => True) initial g) : g.InOrder := by
  have he : g.Even := h.invariant (fun _ _ _ hi _ hst => even_of_step hi hst) even_initial
  have ho : g.Owned := h.invariant (fun _ _ _ hi _ hst => owned_of_step hi hst) owned_initial
  refine ⟨?_, fun n => (he n).isPrefix, ?_, ho.once, ?_, ho.waiting⟩
  · intro n x hx hl
    have hb := he n
    rw [hx, balanced_iff_of_inLoop hl] at hb
    exact hb.2
  · intro n x hx
    have hb := he n
    rw [hx] at hb
    exact hb.1
  · intro e hmem
    rcases ho.own e hmem with ⟨q, x, hq, _, hrest⟩
    exact ⟨q, x, hq, hrest⟩

/-- Two requests to tunnel `a`, of which one is at its client. -/
def twoSent : List Action :=
  [.upgrade "a", .first 0 (.message (.text "reg")), .online 0 true, .enlist 0,
    .arrive (.tunnel "a") "GET" "x" [] [], .arrive .proxy "GET" "/y" [("host", [97])] [],
    .list 0, .choose 1, .rank 1, .checkChosen 1 "v", .enroll 1, .readBody 1 true, .send 1,
    .find 0 "u", .enroll 0, .send 0, .forward 0]

theorem delivered_in_order_twoSent : ∃ g, exec (step .oneToken) initial twoSent = some g ∧
    g.InOrder ∧ g.sent.map Sending.handler = [1, 0] ∧ (g.handedTo 0).length = 1 := by
  rcases hrun : exec (step .oneToken) initial twoSent with _ | g
  · exact absurd hrun (by decide +kernel)
  · have hfacts : (exec (step .oneToken) initial twoSent).map (fun g =>
        (g.sent.map Sending.handler, (g.handedTo 0).length)) = some ([1, 0], 1) := by
      decide +kernel
    rw [hrun] at hfacts
    simp only [Option.map_some, Option.some.injEq, Prod.mk.injEq] at hfacts
    exact ⟨g, rfl, delivered_in_order .oneToken g (reaches_of_exec _ _ _ hrun), hfacts⟩

end Deliveries

end Rathole
