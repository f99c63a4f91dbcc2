import Rathole.Relay.Backend
import Rathole.Relay.Deliveries

/-!
# From the Visitor to the Backend and Back

The relay, its websockets, and the tunnel clients at their other ends, as one
system. What the relay's socket has sent to a client is under way until the
client reads it, what the client has written is under way until the loop of
the socket receives it, and the two sides and all handlers of the relay move
in any order. A connection can break at either end at any time; what was under
way is lost then. Some websockets have a tunnel client at their end, the
others a peer that sends what it likes.

In every run a visitor whose request went to a tunnel client gets what the
client's backend replied to this very request, and no backend is asked for a
request twice or for one that no visitor sent through its tunnel. A peer that
is no tunnel client can only spoil the requests it was sent itself, unless it
guesses the id of another.

## Main definitions

* `Peers`: Who is at the other ends.
* `Line`: A client with what is under way between it and the relay.
* `HttpTunnel`, `HttpTunnel.step`: The whole system.
* `HttpTunnel.Truthful`: Who gets what, and which requests are made.

## Theorems

* `inFlight_of_step`: What the relay is about to put on a line.
* `linked_of_step`: A step keeps the lines and the relay's records together.
* `truthful`: Every state of a run is truthful.
-/

namespace Rathole

open Numbered Proxy Relay Transition

/-- Who is at the other ends of the websockets: the libraries of both sides,
    the websockets with a tunnel client, and the token these clients have. -/
structure Peers where
  crate : HttpCrate
  room : HeaderMap → Bool
  ours : Nat → Bool
  token : String

/-- A tunnel client, and what is under way between it and the relay. -/
structure Line where
  log : ClientLog
  down : List ControlMessage
  up : List ControlMessage

/-- The client's first message is its `Register`. -/
def Line.opened (token id : String) : Line where
  log := ClientLog.start
  down := []
  up := [.register token id]

/-- What is left under way when one end reads a frame. A text is that of the
    first message under way; other frames have nothing to do with them. -/
def readFrame (env : Env) (wire : List ControlMessage) : Received → Option (List ControlMessage)
  | .message (.text t) => match wire with
    | [] => none
    | m :: rest => if env.fromStr t = some m then some rest else none
  | _ => some wire

/-- The relay moves, or a client does. -/
inductive HttpTunnelAction
  | relay (a : Action)
  | client (n : Nat) (a : MainAction) (timestamp : String)
deriving DecidableEq

/-- The relay with its ledger and what went through its queues, and a line for
    each websocket. -/
structure HttpTunnel where
  ledger : Ledger
  sent : List Sending
  handed : List (Nat × ControlMessage)
  lines : List Line

/-- The message a socket is sending to its client. -/
def Relay.inFlight (s : Relay) (n : Nat) : List ControlMessage :=
  match s.sockets[n]? with
  | none => []
  | some x => match x.pc with
    | .pushing msg => [msg]
    | _ => []

namespace HttpTunnel

/-- Nothing has been sent, and there is no line. -/
def initial : HttpTunnel where
  ledger := Ledger.initial
  sent := []
  handed := []
  lines := []

/-- The relay of the tunnel. -/
def relay (g : HttpTunnel) : Relay := g.ledger.relay

/-- What went into the sockets of the relay, and what came out of them. -/
def deliveries (g : HttpTunnel) : Deliveries where
  relay := g.ledger.relay
  sent := g.sent
  handed := g.handed

/-- A message that was sent is under way. -/
def push (g : HttpTunnel) (n : Nat) : List Line :=
  match g.lines[n]? with
  | none => g.lines
  | some l => g.lines.set n { l with down := l.down ++ g.relay.inFlight n }

/-- A frame comes in at the relay. -/
def pull (P : Peers) (g : HttpTunnel) (n : Nat) (m : Received) : Option (List Line) :=
  if P.ours n then match g.lines[n]? with
    | none => none
    | some l => (readFrame P.crate.toEnv l.up m).map (fun up => g.lines.set n { l with up := up })
  else some g.lines

/-- What an action of the relay does to the lines. -/
def carry (P : Peers) (g : HttpTunnel) : Action → Option (List Line)
  | .upgrade id => some (g.lines ++ [Line.opened P.token id])
  | .pushed n true => some (g.push n)
  | .first n m | .receive n m => g.pull P n m
  | _ => some g.lines

/-- An action of the client at socket `n`. -/
def clientStep (P : Peers) (g : HttpTunnel) (n : Nat) (a : MainAction) (timestamp : String) :
    Option HttpTunnel :=
  if P.ours n then match g.lines[n]? with
    | none => none
    | some l =>
        let down := match a with
          | .receive m => readFrame P.crate.toEnv l.down m
          | _ => some l.down
        match down, l.log.step P.crate P.room a with
        | some down, some log => some { g with lines := g.lines.set n {
            log := log
            down := down
            up := l.up ++ (l.log.client.writes timestamp a).toList } }
        | _, _ => none
  else none

/-- One action, of the relay or at a client. -/
def step (P : Peers) (g : HttpTunnel) : HttpTunnelAction → Option HttpTunnel
  | .relay a => match g.carry P a, Ledger.step P.crate.toEnv g.ledger a with
    | some lines, some ledger => some {
        ledger := ledger
        sent := g.sent ++ ledger.relay.putsIn a
        handed := g.handed ++ ledger.relay.takesOut a
        lines := lines }
    | _, _ => none
  | .client n a timestamp => g.clientStep P n a timestamp

/-- A peer that is no tunnel client sends a `Response` with the id of a call
    only if it was handed the request. -/
def Unguessed (P : Peers) (g : HttpTunnel) : HttpTunnelAction → Prop
  | .relay (.receive n m) => P.ours n = false →
      ∀ requestId res, (Action.receive n m).response P.crate.toEnv = some (requestId, res) →
        requestId ∈ g.ledger.calls.map (fun p => p.2.requestId) →
        ∃ http, (n, .request requestId http) ∈ g.handed
  | _ => True

/-- The response is what the backend at the other end of the line replied to
    the request of the handler. -/
def Replied (P : Peers) (g : HttpTunnel) (e : Sending) (res : HttpResponse) : Prop :=
  ∃ l http, g.lines[e.call.tx]? = some l ∧ e.message = .request e.call.requestId http ∧
    Told P.crate P.room http res (l.log.story e.call.requestId)

/-- Who gets what, and which requests are made. -/
structure Truthful (P : Peers) (g : HttpTunnel) : Prop where
  /-- A response a handler returns comes from the backend of the client its
      request went to, which was asked for this request. -/
  returned : ∀ (r : Nat) (q : Request) (o : Outcome) (res : HttpResponse),
    g.relay.requests[r]? = some q → q.pc = .returned o → o.response = some res →
    ∃ e ∈ g.sent, e.handler = r ∧ e.message = requestMessage q e.call ∧
      (P.ours e.call.tx = true → g.Replied P e res)
  /-- A backend is asked for the request of a handler once at most, and only
      while it is at the client the handler has sent it to. -/
  asked : ∀ (n : Nat) (l : Line) (requestId : String) (http : HttpRequest) (req : LocalRequest),
    g.lines[n]? = some l → (requestId, .asked http req) ∈ l.log.events →
    ∃ e ∈ g.sent, e.call.tx = n ∧ e.message = .request requestId http ∧
      ∀ e' ∈ g.sent, e'.call.requestId = requestId → e' = e
  story : ∀ (n : Nat) (l : Line) (requestId : String), g.lines[n]? = some l →
    Story P.crate P.room (l.log.story requestId)

end HttpTunnel

/-! ### What the relay puts on a line -/

namespace Relay

variable {env : Env} {s t : Relay} {a : Action}

theorem inFlight_of_pc {n : Nat} {x : Socket} (hx : s.sockets[n]? = some x)
    (hpc : ∀ msg, x.pc ≠ .pushing msg) : s.inFlight n = [] := by
  cases hp : x.pc with
  | pushing msg => exact absurd hp (hpc msg)
  | _ => simp only [inFlight, hx, hp]

/-- What a socket is sending it took from its queue, and it sends it out or
    gives up. -/
theorem inFlight_of_step (h : step env s a = some t) (n : Nat) :
    t.inFlight n = s.inFlight n ∨ t.inFlight n = [] ∨ ∃ msg, a = .forward n ∧
      s.inFlight n = [] ∧ t.inFlight n = [msg] ∧ t.takesOut a = [(n, msg)] := by
  rcases hz : t.sockets[n]? with _ | z
  · exact Or.inr (Or.inl (by simp only [inFlight, hz]))
  · have hnone : (∀ msg, z.pc ≠ .pushing msg) → t.inFlight n = [] := inFlight_of_pc hz
    rcases socket_of_step h hz with hsame | ⟨y, hy, hmove⟩ | ⟨id, hnew⟩
    · exact Or.inl (by simp only [inFlight, hz, hsame])
    · cases hmove with
      | @forward msg rest hpc hq =>
          refine Or.inr (Or.inr ⟨msg, rfl, inFlight_of_pc hy fun _ hp => ?_, ?_, ?_⟩)
          · simp only [hpc, reduceCtorEq] at hp
          · simp only [inFlight, hz]
          · simp only [takesOut, hz]
      | queued => exact Or.inl (by simp only [inFlight, hz, hy])
      | @first m hpc =>
          refine Or.inr (Or.inl (hnone fun msg hp => ?_))
          rcases firstPc_cases env m with hf | hf | hf
          · simp only [hf, reduceCtorEq] at hp
          · simp only [hf, reduceCtorEq] at hp
          · simp only [hf, reduceCtorEq] at hp
      | message hpc =>
          exact Or.inr (Or.inl (hnone fun msg hp => by simp only [hpc, reduceCtorEq] at hp))
      | _ => exact Or.inr (Or.inl (hnone fun msg hp => by simp only [reduceCtorEq] at hp))
    · exact Or.inr (Or.inl (hnone fun msg hp => by simp only [hnew, freshSocket,
        reduceCtorEq] at hp))

/-- A message that went out is not sent again. -/
theorem inFlight_of_pushed {n : Nat} (h : step env s (.pushed n true) = some t) :
    t.inFlight n = [] := by
  rcases pushed_cases (act_of_step h) with ⟨x, msg, hx, _, ⟨_, ht⟩ | ⟨hok, _⟩⟩
  · refine inFlight_of_pc (x := { x with pc := .looping, armed := s.now }) ?_ ?_
    · rw [ht]
      exact getElem?_updated hx
    · simp only [ne_eq, reduceCtorEq, not_false_eq_true, implies_true]
  · simp only [Bool.true_eq_false] at hok

/-- A new socket is the last one, and there are no others. -/
theorem sockets_length_of_step (h : step env s a = some t) :
    (∃ id, a = .upgrade id ∧ t.sockets = s.sockets ++ [s.freshSocket id]) ∨
      ((∀ id, a ≠ .upgrade id) ∧ t.sockets.length = s.sockets.length) := by
  by_cases hup : ∃ id, a = .upgrade id
  · rcases hup with ⟨id, rfl⟩
    rw [← Option.some.inj (act_of_step h)]
    exact Or.inl ⟨id, rfl, rfl⟩
  · refine Or.inr ⟨fun id ha => hup ⟨id, ha⟩, ?_⟩
    rcases sockets_of_step h with hs | ⟨n, y, x, _, hs, _⟩ | ⟨id, ha, _⟩
    · rw [hs]
    · rw [hs, List.length_set]
    · exact absurd ⟨id, ha⟩ hup

end Relay

namespace HttpTunnel

variable {P : Peers} {g g' : HttpTunnel}

/-! ### One step -/

theorem relay_of_step {a : Action} (h : step P g (.relay a) = some g') :
    Ledger.step P.crate.toEnv g.ledger a = some g'.ledger ∧
      Deliveries.step P.crate.toEnv g.deliveries a = some g'.deliveries ∧
      g.carry P a = some g'.lines := by
  simp only [step] at h
  split at h
  · rename_i lines ledger hc hl
    rw [← Option.some.inj h]
    have ht := (Ledger.relay_of_step hl).1
    exact ⟨hl, by simp only [Deliveries.step, deliveries, ht, Option.map_some], hc⟩
  · simp only [reduceCtorEq] at h

/-- What one end reads is what was under way first. -/
theorem mem_of_readFrame {env : Env} {wire rest : List ControlMessage} {m : Received}
    (h : readFrame env wire m = some rest) : ∀ x ∈ rest, x ∈ wire := by
  cases m with
  | message msg =>
      cases msg with
      | text t =>
          cases wire with
          | nil => simp only [readFrame, reduceCtorEq] at h
          | cons m wire =>
              simp only [readFrame, Option.ite_none_right_eq_some, Option.some.injEq] at h
              rw [← h.2]
              exact fun x hx => List.mem_cons_of_mem m hx
      | _ => exact Option.some.inj h ▸ fun x hx => hx
  | _ => exact Option.some.inj h ▸ fun x hx => hx

theorem readFrame_text {env : Env} {wire rest : List ControlMessage} {t : String}
    (h : readFrame env wire (.message (.text t)) = some rest) :
    ∃ m, wire = m :: rest ∧ env.fromStr t = some m := by
  cases wire with
  | nil => simp only [readFrame, reduceCtorEq] at h
  | cons m wire =>
      simp only [readFrame, Option.ite_none_right_eq_some, Option.some.injEq] at h
      exact ⟨m, by rw [h.2], h.1⟩

/-- A client reads what was under way to it first. -/
theorem client_of_step {n : Nat} {a : MainAction} {timestamp : String}
    (h : step P g (.client n a timestamp) = some g') :
    ∃ l log down, g.lines[n]? = some l ∧ l.log.step P.crate P.room a = some log ∧
      l.down = TunnelClient.reads P.crate a ++ down ∧
      g' = { g with lines := g.lines.set n {
        log := log
        down := down
        up := l.up ++ (l.log.client.writes timestamp a).toList } } := by
  simp only [step, clientStep, Option.ite_none_right_eq_some] at h
  rcases hl : g.lines[n]? with _ | l
  · simp only [hl, reduceCtorEq, and_false] at h
  · simp only [hl] at h
    rcases h with ⟨_, h⟩
    split at h
    · rename_i down log hdown hlog
      rw [Option.some.injEq] at h
      refine ⟨l, log, down, rfl, hlog, ?_, h.symm⟩
      -- Only a text is taken off the line.
      cases a with
      | receive m =>
          simp only at hdown
          cases m with
          | message msg =>
              cases msg with
              | text t =>
                  rcases readFrame_text hdown with ⟨m, hw, ht⟩
                  rw [hw, TunnelClient.reads, ht]
                  rfl
              | _ => exact Option.some.inj hdown
          | _ => exact Option.some.inj hdown
      | _ => exact Option.some.inj hdown
    · simp only [reduceCtorEq] at h

/-- The ways a relay's action goes over the lines. -/
inductive Carried (P : Peers) (g : HttpTunnel) : Action → List Line → Prop
  | opened (id : String) : Carried P g (.upgrade id) (g.lines ++ [Line.opened P.token id])
  | pushed {n : Nat} {l : Line} (hl : g.lines[n]? = some l) : Carried P g (.pushed n true)
      (g.lines.set n { l with down := l.down ++ g.relay.inFlight n })
  | pulled {a : Action} {n : Nat} {m : Received} {l : Line} {up : List ControlMessage}
      (ha : a = .first n m ∨ a = .receive n m) (hl : g.lines[n]? = some l)
      (hup : readFrame P.crate.toEnv l.up m = some up) :
      Carried P g a (g.lines.set n { l with up := up })
  | kept {a : Action} (hup : ∀ id, a ≠ .upgrade id) : Carried P g a g.lines

theorem carried_of_pull {a : Action} {n : Nat} {m : Received} {lines : List Line}
    (ha : a = .first n m ∨ a = .receive n m) (h : g.pull P n m = some lines) :
    Carried P g a lines := by
  have hne : ∀ id, a ≠ .upgrade id := by
    rcases ha with rfl | rfl
    · simp only [ne_eq, reduceCtorEq, not_false_eq_true, implies_true]
    · simp only [ne_eq, reduceCtorEq, not_false_eq_true, implies_true]
  by_cases ho : P.ours n = true
  · rw [pull, if_pos ho] at h
    rcases hl : g.lines[n]? with _ | l
    · simp only [hl, reduceCtorEq] at h
    · simp only [hl, Option.map_eq_some_iff] at h
      rcases h with ⟨up, hup, rfl⟩
      exact Carried.pulled ha hl hup
  · rw [pull, if_neg ho] at h
    exact Option.some.inj h ▸ Carried.kept hne

theorem carried_of_carry {a : Action} {lines : List Line} (h : g.carry P a = some lines) :
    Carried P g a lines := by
  have kept : (∀ id, a ≠ .upgrade id) → some g.lines = some lines → Carried P g a lines :=
    fun hne heq => Option.some.inj heq ▸ Carried.kept hne
  unfold carry at h
  split at h
  · exact Option.some.inj h ▸ Carried.opened _
  · rename_i n
    rcases hl : g.lines[n]? with _ | l
    · simp only [push, hl] at h
      exact kept (by simp only [ne_eq, reduceCtorEq, not_false_eq_true, implies_true]) h
    · simp only [push, hl, Option.some.injEq] at h
      exact h ▸ Carried.pushed hl
  · exact carried_of_pull (Or.inl rfl) h
  · exact carried_of_pull (Or.inr rfl) h
  · rename_i hne _ _ _
    exact kept hne h

/-! ### Requests -/

/-- A line agrees with what the relay has handed to its socket. -/
structure LineSound (P : Peers) (d : Deliveries) (n : Nat) (l : Line) : Prop where
  log : l.log.Sound P.crate P.room
  order : (l.log.read ++ l.down ++ d.relay.inFlight n).Sublist (d.handedTo n)
  up : ∀ requestId res, .response requestId res ∈ l.up →
    ∃ http, Told P.crate P.room http res (l.log.story requestId)

/-- The lines and the relay's records belong together. -/
structure Linked (P : Peers) (g : HttpTunnel) : Prop where
  pending : g.relay.Pending
  sound : g.ledger.Sound
  faithful : Faithful g.relay
  even : g.deliveries.Even
  owned : g.deliveries.Owned
  begun : ∀ e ∈ g.sent, (e.handler, e.call) ∈ g.ledger.calls
  aligned : g.lines.length = g.relay.sockets.length
  line : ∀ (n : Nat) (l : Line), g.lines[n]? = some l → LineSound P g.deliveries n l
  answered : ∀ (r : Nat) (q : Request) (res : HttpResponse), g.relay.requests[r]? = some q →
    q.answer = .sent res →
    ∃ e ∈ g.sent, e.handler = r ∧ (P.ours e.call.tx = true → g.Replied P e res)

/-- What was sent under a request id was sent once. -/
theorem Linked.sending_eq (hi : g.Linked P) (hd : g.ledger.Distinct) {e e' : Sending}
    (he : e ∈ g.sent) (he' : e' ∈ g.sent) (hid : e.call.requestId = e'.call.requestId) :
    e = e' := by
  have hcall := hd.call_eq (hi.begun e he) (hi.begun e' he') hid
  rw [Prod.mk.injEq] at hcall
  exact List.inj_on_of_nodup_map hi.owned.once he he' hcall.1

/-- The id of a message that was sent is that of its call. -/
theorem Linked.asksFor (hi : g.Linked P) {e : Sending} (he : e ∈ g.sent) :
    e.message.asksFor = some e.call.requestId := by
  rcases hi.owned.own e he with ⟨q, _, _, _, _, _, hmsg, _⟩
  rw [hmsg]
  rfl

/-- No client is handed a request id twice. -/
theorem Linked.nodup_handed (hi : g.Linked P) (hd : g.ledger.Distinct) (n : Nat) :
    ((g.deliveries.handedTo n).filterMap ControlMessage.asksFor).Nodup := by
  have hsent : (g.deliveries.sentTo n).filterMap ControlMessage.asksFor =
      (g.sent.filter (fun e => e.call.tx = n)).map (fun e => e.call.requestId) := by
    rw [Deliveries.sentTo, List.filterMap_map, ← List.filterMap_eq_map]
    exact List.filterMap_congr (fun e he => hi.asksFor (List.mem_of_mem_filter he))
  have hnodup : ((g.deliveries.sentTo n).filterMap ControlMessage.asksFor).Nodup := by
    rw [hsent]
    refine List.Nodup.map_on (fun e he e' he' hid => hi.sending_eq hd (List.mem_of_mem_filter he)
      (List.mem_of_mem_filter he') hid) ?_
    exact (hi.owned.once.of_map _).filter _
  exact hnodup.sublist ((hi.even n).isPrefix.sublist.filterMap _)

/-- A message that a client was handed was sent by a handler. -/
theorem Linked.sending_of_handed (hi : g.Linked P) {n : Nat} {m : ControlMessage}
    (hm : m ∈ g.deliveries.handedTo n) : ∃ e ∈ g.sent, e.call.tx = n ∧ e.message = m := by
  rcases List.mem_map.mp ((hi.even n).isPrefix.mem hm) with ⟨e, he, rfl⟩
  rw [List.mem_filter, decide_eq_true_eq] at he
  exact ⟨e, he.1, he.2, rfl⟩

/-- So was one that it has read. -/
theorem Linked.sending_of_read (hi : g.Linked P) {n : Nat} {l : Line} (hl : g.lines[n]? = some l)
    {m : ControlMessage} (hm : m ∈ l.log.read) : ∃ e ∈ g.sent, e.call.tx = n ∧ e.message = m := by
  refine hi.sending_of_handed ((hi.line n l hl).order.mem ?_)
  exact List.mem_append_left _ (List.mem_append_left _ hm)

/-! ### Lines -/

/-- What a client was handed stays in order with what it has read. -/
theorem order_of_step {env : Env} {d d' : Deliveries} {a : Action} {n : Nat}
    {msgs : List ControlMessage} (h : Deliveries.step env d a = some d')
    (hs : (msgs ++ d.relay.inFlight n).Sublist (d.handedTo n)) :
    (msgs ++ d'.relay.inFlight n).Sublist (d'.handedTo n) := by
  have hmsgs := (List.sublist_append_left msgs _).trans hs
  rw [Deliveries.handedTo_of_step h]
  rcases inFlight_of_step (Deliveries.relay_of_step h).1 n with
    hsame | hnone | ⟨msg, _, _, hnew, htakes⟩
  · rw [hsame]
    exact hs.trans (List.sublist_append_left _ _)
  · rw [hnone, List.append_nil]
    exact hmsgs.trans (List.sublist_append_left _ _)
  · -- It is taken from the queue, and is the last one that was handed over.
    rw [hnew, htakes, List.filter_cons_of_pos (by simp only [decide_true]), List.filter_nil]
    exact hmsgs.append_right [msg]

theorem LineSound.of_step {d d' : Deliveries} {env : Env} {a : Action} {n : Nat} {l : Line}
    (hl : LineSound P d n l) (h : Deliveries.step env d a = some d') : LineSound P d' n l where
  log := hl.log
  order := order_of_step h hl.order
  up := hl.up

theorem lines_of_relay {a : Action} (hi : g.Linked P) (h : step P g (.relay a) = some g') :
    ∀ (n : Nat) (l : Line), g'.lines[n]? = some l → LineSound P g'.deliveries n l := by
  rcases relay_of_step h with ⟨_, hdel, hcarry⟩
  have hold : ∀ (n : Nat) (l : Line), g.lines[n]? = some l → LineSound P g'.deliveries n l :=
    fun n l hl => (hi.line n l hl).of_step hdel
  generalize g'.lines = lines at hcarry
  cases carried_of_carry hcarry with
  | kept => exact hold
  | pulled ha hl hup =>
      have hline := hold _ _ hl
      exact forall_set hold ⟨hline.log, hline.order,
        fun id res hm => hline.up id res (mem_of_readFrame hup _ hm)⟩
  | @pushed n l hl =>
      have hline := hi.line n l hl
      refine forall_set hold ⟨hline.log, ?_, hline.up⟩
      -- What was being sent is under way now.
      rw [show g'.deliveries.relay.inFlight n = [] from
        inFlight_of_pushed (Deliveries.relay_of_step hdel).1, List.append_nil, ← List.append_assoc]
      refine hline.order.trans ?_
      rw [Deliveries.handedTo_of_step hdel]
      exact List.sublist_append_left _ _
  | opened id =>
      refine forall_append hold ⟨ClientLog.sound_start, ?_, ?_⟩
      · -- The socket of a new line has handed over nothing.
        rcases sockets_length_of_step (Deliveries.relay_of_step hdel).1 with ⟨id', _, hs⟩ | ⟨hne, _⟩
        · have hnew : g'.deliveries.relay.sockets[g.lines.length]? =
              some (g.relay.freshSocket id') := by
            rw [hs, hi.aligned]
            exact List.getElem?_concat_length
          rw [inFlight_of_pc hnew (by simp only [freshSocket, ne_eq, reduceCtorEq,
            not_false_eq_true, implies_true])]
          exact List.nil_sublist _
        · exact absurd rfl (hne id)
      · intro requestId res hm
        simp only [Line.opened, List.mem_singleton, reduceCtorEq] at hm

theorem lines_of_client {n : Nat} {a : MainAction} {timestamp : String} (hi : g.Linked P)
    (hd : g.ledger.Distinct) (h : step P g (.client n a timestamp) = some g') :
    ∀ (k : Nat) (l : Line), g'.lines[k]? = some l → LineSound P g'.deliveries k l := by
  rcases client_of_step h with ⟨l, log, down, hl, hlog, hdown, rfl⟩
  have hline := hi.line n l hl
  have hread := (ClientLog.client_of_step hlog).2.1
  have horder : (log.read ++ down ++ g.deliveries.relay.inFlight n).Sublist
      (g.deliveries.handedTo n) := by
    rw [hread, List.append_assoc l.log.read, ← hdown]
    exact hline.order
  have hnodup : (log.read.filterMap ControlMessage.asksFor).Nodup :=
    (hi.nodup_handed hd n).sublist
      (((List.sublist_append_left _ _).trans (List.append_assoc log.read _ _ ▸ horder)).filterMap _)
  have hsound := ClientLog.sound_of_step hline.log hlog hnodup
  refine forall_set hi.line ⟨hsound, horder, fun id res hm => ?_⟩
  -- What is written now, or was written before and is still so.
  rcases List.mem_append.mp hm with hm | hm
  · rcases hline.up id res hm with ⟨http, ht⟩
    exact ⟨http, ClientLog.told_of_step hsound hlog ht⟩
  · rcases ClientLog.told_of_writes hline.log (Option.mem_toList.mp hm) with ⟨http, ht⟩
    exact ⟨http, ClientLog.told_of_step hsound hlog ht⟩

/-- Lines stay, and what was told on them stays told. -/
theorem told_of_step {a : HttpTunnelAction} (h : step P g a = some g')
    (hline : ∀ (n : Nat) (l : Line), g'.lines[n]? = some l → LineSound P g'.deliveries n l)
    {n : Nat} {l : Line} (hl : g.lines[n]? = some l) :
    ∃ l', g'.lines[n]? = some l' ∧ ∀ requestId http res,
      Told P.crate P.room http res (l.log.story requestId) →
      Told P.crate P.room http res (l'.log.story requestId) := by
  cases a with
  | relay a =>
      have hcarry := (relay_of_step h).2.2
      generalize g'.lines = lines at hcarry
      cases carried_of_carry hcarry with
      | kept => exact ⟨l, hl, fun _ _ _ ht => ht⟩
      | opened id =>
          exact ⟨l, getElem?_kept hl, fun _ _ _ ht => ht⟩
      | @pushed m lm hm =>
          rcases set_survives Line.log { lm with down := lm.down ++ g.relay.inFlight m } hm rfl hl
            with ⟨l', hl', hlog⟩
          exact ⟨l', hl', fun _ _ _ ht => hlog ▸ ht⟩
      | @pulled _ m _ lm up _ hm _ =>
          rcases set_survives Line.log { lm with up := up } hm rfl hl with ⟨l', hl', hlog⟩
          exact ⟨l', hl', fun _ _ _ ht => hlog ▸ ht⟩
  | client m b timestamp =>
      rcases client_of_step h with ⟨lm, log, down, hm, hlog, _, rfl⟩
      by_cases hn : m = n
      · subst hn
        rw [hl, Option.some.injEq] at hm
        subst hm
        have hl' := List.getElem?_set_self (a := { log := log, down := down, up := l.up ++
          (l.log.client.writes timestamp b).toList : Line }) (List.getElem?_eq_some_iff.mp hl).fst
        exact ⟨_, hl', fun _ _ _ ht => ClientLog.told_of_step (hline m _ hl').log hlog ht⟩
      · exact ⟨l, (List.getElem?_set_ne hn).trans hl, fun _ _ _ ht => ht⟩

theorem Replied.kept {a : HttpTunnelAction} (h : step P g a = some g')
    (hline : ∀ (n : Nat) (l : Line), g'.lines[n]? = some l → LineSound P g'.deliveries n l)
    {e : Sending} {res : HttpResponse} (hr : g.Replied P e res) : g'.Replied P e res := by
  rcases hr with ⟨l, http, hl, hmsg, ht⟩
  rcases told_of_step h hline hl with ⟨l', hl', htold⟩
  exact ⟨l', http, hl', hmsg, htold _ _ _ ht⟩

/-! ### Answers -/

/-- The action that brings a `Response` in. -/
theorem action_of_response {env : Env} {a : Action} {requestId : String} {res : HttpResponse}
    (h : a.response env = some (requestId, res)) : ∃ n t, a = .receive n (.message (.text t)) ∧
      env.fromStr t = some (.response requestId res) := by
  unfold Action.response at h
  split at h
  · rename_i n t
    split at h
    · rename_i id http ht
      rw [Option.some.injEq, Prod.mk.injEq] at h
      exact ⟨n, t, rfl, by rw [ht, h.1, h.2]⟩
    · simp only [reduceCtorEq] at h
  · simp only [reduceCtorEq] at h

/-- A handler is answered from the line it has sent its request to. -/
theorem replied_of_response {a : Action} {r : Nat} {c : Call} {res : HttpResponse}
    (hi : g.Linked P) (hd : g.ledger.Distinct) (hok : Unguessed P g (.relay a))
    (h : step P g (.relay a) = some g') (hcall : (r, c) ∈ g.ledger.calls)
    (ha : a.response P.crate.toEnv = some (c.requestId, res)) :
    ∃ e ∈ g.sent, e.handler = r ∧ (P.ours e.call.tx = true → g.Replied P e res) := by
  rcases action_of_response ha with ⟨n, t, rfl, ht⟩
  -- Whoever answers was handed the request, and that was the handler's.
  have own : ∀ e ∈ g.sent, e.message.asksFor = some c.requestId →
      e.handler = r ∧ e.call = c := by
    intro e he hid
    rw [hi.asksFor he, Option.some.injEq] at hid
    have hsame := hd.call_eq (hi.begun e he) hcall hid
    rw [Prod.mk.injEq] at hsame
    exact hsame
  by_cases ho : P.ours n = true
  · have hcarry := (relay_of_step h).2.2
    simp only [carry, pull, if_pos ho] at hcarry
    rcases hl : g.lines[n]? with _ | l
    · simp only [hl, reduceCtorEq] at hcarry
    · simp only [hl, Option.map_eq_some_iff] at hcarry
      rcases hcarry with ⟨up, hup, _⟩
      rcases readFrame_text hup with ⟨m, hm, htm⟩
      rw [ht, Option.some.injEq] at htm
      have hmem : .response c.requestId res ∈ l.up := by
        rw [hm, ← htm]
        exact List.mem_cons_self
      have hline := hi.line n l hl
      rcases hline.up _ _ hmem with ⟨http, htold⟩
      -- The client has read the request it was asked for.
      have hasked : ∃ req, .asked http req ∈ l.log.story c.requestId := by
        rcases htold with ⟨req, headers, hstory, _⟩
        exact ⟨req, by rw [hstory]; exact List.mem_cons_self⟩
      rcases hasked with ⟨req, hreq⟩
      have hread := hline.log.asked _ _ _ (ClientLog.mem_story.mp hreq)
      rcases hi.sending_of_read hl hread with ⟨e, he, htx, hmsg⟩
      rcases own e he (by rw [hmsg]; rfl) with ⟨hr, hc⟩
      refine ⟨e, he, hr, fun _ => ⟨l, http, htx ▸ hl, ?_, ?_⟩⟩
      · rw [hmsg, hc]
      · rw [hc]
        exact htold
  · rw [Bool.not_eq_true] at ho
    rcases hok ho _ _ ha (List.mem_map.mpr ⟨_, hcall, rfl⟩) with ⟨http, hhanded⟩
    have hmem : .request c.requestId http ∈ g.deliveries.handedTo n :=
      List.mem_map.mpr ⟨_, List.mem_filter.mpr ⟨hhanded, by simp only [decide_true]⟩, rfl⟩
    rcases hi.sending_of_handed hmem with ⟨e, he, htx, hmsg⟩
    refine ⟨e, he, (own e he (by rw [hmsg]; rfl)).1, fun hours => ?_⟩
    rw [htx, ho] at hours
    simp only [Bool.false_eq_true] at hours

theorem sent_mono {a : HttpTunnelAction} (h : step P g a = some g') {e : Sending}
    (he : e ∈ g.sent) : e ∈ g'.sent := by
  cases a with
  | relay a =>
      have hsent := (Deliveries.relay_of_step (relay_of_step h).2.1).2.1
      simp only [deliveries] at hsent
      rw [hsent]
      exact List.mem_append_left _ he
  | client n a timestamp =>
      rcases client_of_step h with ⟨_, _, _, _, _, _, rfl⟩
      exact he

theorem answered_of_relay {a : Action} (hi : g.Linked P) (hd : g.ledger.Distinct)
    (hok : Unguessed P g (.relay a)) (h : step P g (.relay a) = some g')
    (hline : ∀ (n : Nat) (l : Line), g'.lines[n]? = some l → LineSound P g'.deliveries n l)
    {r : Nat} {q' : Request} {res : HttpResponse} (hq' : g'.relay.requests[r]? = some q')
    (hans : q'.answer = .sent res) :
    ∃ e ∈ g'.sent, e.handler = r ∧ (P.ours e.call.tx = true → g'.Replied P e res) := by
  have hledger := (relay_of_step h).1
  have ht := (Ledger.relay_of_step hledger).1
  have later : (∃ e ∈ g.sent, e.handler = r ∧ (P.ours e.call.tx = true → g.Replied P e res)) →
      ∃ e ∈ g'.sent, e.handler = r ∧ (P.ours e.call.tx = true → g'.Replied P e res) := by
    rintro ⟨e, he, hr, hreplied⟩
    exact ⟨e, sent_mono h he, hr, fun ho => (hreplied ho).kept h hline⟩
  rcases answer_of_step ht hq' with ⟨q, hq, hd' | ⟨id, http, _, _, hempty, _, _⟩⟩ | ⟨_, hnew⟩
  · -- The answer was there.
    rcases hd' with hsame | ⟨_, hdropped⟩
    · exact later (hi.answered r q res hq (hsame ▸ hans))
    · rw [hans] at hdropped
      simp only [reduceCtorEq] at hdropped
  · have hanswers : Answers g.ledger.relay g'.ledger.relay r res := by
      refine ⟨q, q', hq, hq', ?_, hans⟩
      rw [hempty]
      simp only [ne_eq, reduceCtorEq, not_false_eq_true]
    rcases Ledger.own_of_answers hi.pending hledger hanswers with ⟨q0, c, hq0, hc, ha⟩
    exact later (replied_of_response hi hd hok h (hi.sound.call r q0 c hq0 hc) ha)
  · rw [hans] at hnew
    simp only [reduceCtorEq] at hnew

/-! ### Runs -/

theorem linked_initial : initial.Linked P where
  pending := initial_pending
  sound := Ledger.initial_sound
  faithful := initial_faithful
  even := Deliveries.even_initial
  owned := Deliveries.owned_initial
  begun := fun e he => absurd he List.not_mem_nil
  aligned := rfl
  line := by
    intro n l h
    simp only [initial, List.getElem?_nil, reduceCtorEq] at h
  answered := by
    intro r q res h
    simp only [initial, relay, Ledger.initial, Relay.initial, List.getElem?_nil,
      reduceCtorEq] at h

/-- A message that has just been sent is that of a call. -/
theorem begun_of_putsIn {a : Action} {s : Relay} {ledger : Ledger} (hs : ledger.Sound)
    (hrelay : ledger.relay = s) {e : Sending} (he : e ∈ s.putsIn a) :
    (e.handler, e.call) ∈ ledger.calls := by
  cases a with
  | send r =>
      simp only [putsIn] at he
      split at he
      · exact absurd he List.not_mem_nil
      · rename_i q hq
        split at he
        · rename_i c since hpc
          rw [List.mem_singleton] at he
          rw [he]
          exact hs.call r q c (hrelay ▸ hq) (by rw [hpc]; rfl)
        · exact absurd he List.not_mem_nil
  | _ => exact absurd he List.not_mem_nil

theorem aligned_of_relay {a : Action} (hi : g.Linked P) (h : step P g (.relay a) = some g') :
    g'.lines.length = g'.relay.sockets.length := by
  rcases relay_of_step h with ⟨_, hdel, hcarry⟩
  have hsockets := sockets_length_of_step (Deliveries.relay_of_step hdel).1
  have hset : ∀ (n : Nat) (l : Line), (∀ id, a ≠ .upgrade id) →
      (g.lines.set n l).length = g'.relay.sockets.length := by
    intro n l hne
    rcases hsockets with ⟨id, ha, _⟩ | ⟨_, hlen⟩
    · exact absurd ha (hne id)
    · rw [List.length_set, hi.aligned]
      exact hlen.symm
  generalize g'.lines = lines at hcarry
  cases carried_of_carry hcarry with
  | opened id =>
      rcases hsockets with ⟨id', _, hs⟩ | ⟨hne, _⟩
      · rw [List.length_append, hi.aligned]
        exact ((congrArg List.length hs).trans List.length_append).symm
      · exact absurd rfl (hne id)
  | pushed hl => exact hset _ _ (by simp only [ne_eq, reduceCtorEq, not_false_eq_true,
      implies_true])
  | pulled ha =>
      refine hset _ _ (fun id => ?_)
      rcases ha with rfl | rfl
      · simp only [ne_eq, reduceCtorEq, not_false_eq_true]
      · simp only [ne_eq, reduceCtorEq, not_false_eq_true]
  | kept hne =>
      rcases hsockets with ⟨id, ha, _⟩ | ⟨_, hlen⟩
      · exact absurd ha (hne id)
      · rw [hi.aligned]
        exact hlen.symm

/-- A step keeps the lines and the relay's records together. -/
theorem linked_of_step {a : HttpTunnelAction} (hi : g.Linked P) (hd : g.ledger.Distinct)
    (hok : Unguessed P g a) (h : step P g a = some g') : g'.Linked P := by
  cases a with
  | relay a =>
      rcases relay_of_step h with ⟨hledger, hdel, _⟩
      have ht := (Ledger.relay_of_step hledger).1
      have hsound := Ledger.sound_of_step hi.pending hi.sound hd hledger
      have hline := lines_of_relay hi h
      refine ⟨pending_step hi.pending ht, hsound, faithful_step hi.faithful ht,
        Deliveries.even_of_step hi.even hdel, Deliveries.owned_of_step hi.owned hdel, ?_,
        aligned_of_relay hi h, hline, fun r q res hq hans =>
          answered_of_relay hi hd hok h hline hq hans⟩
      intro e he
      have hsent := (Deliveries.relay_of_step hdel).2.1
      simp only [deliveries] at hsent
      rw [hsent, List.mem_append] at he
      rcases he with he | he
      · exact Ledger.calls_mono hledger (hi.begun e he)
      · exact begun_of_putsIn hsound rfl he
  | client n a timestamp =>
      have hline := lines_of_client hi hd h
      have hreplied : ∀ e res, g.Replied P e res → g'.Replied P e res :=
        fun e res hr => hr.kept h hline
      rcases client_of_step h with ⟨l, log, down, _, _, _, rfl⟩
      refine ⟨hi.pending, hi.sound, hi.faithful, hi.even, hi.owned, hi.begun,
        List.length_set.trans hi.aligned, hline, fun r q res hq hans => ?_⟩
      rcases hi.answered r q res hq hans with ⟨e, he, hr, hours⟩
      exact ⟨e, he, hr, fun ho => hreplied e res (hours ho)⟩

theorem Unguessed.distinct_of_step {a : HttpTunnelAction} (h : step P g a = some g')
    (hd : g'.ledger.Distinct) : g.ledger.Distinct := by
  cases a with
  | relay a => exact hd.of_step (relay_of_step h).1
  | client n a timestamp =>
      rcases client_of_step h with ⟨_, _, _, _, _, _, rfl⟩
      exact hd

theorem linked_of_reaches (h : Reaches (step P) (Unguessed P) initial g)
    (hd : g.ledger.Distinct) : g.Linked P := by
  induction h with
  | refl => exact linked_initial
  | tail _ hok hstep ih =>
      have hd' := Unguessed.distinct_of_step hstep hd
      exact linked_of_step (ih hd') hd' hok hstep

/-- In every run with distinct request ids in which strangers do not guess
    them, visitors get what the backend of the client their request went to
    replied to it, and no backend is asked for a request twice. -/
theorem truthful (P : Peers) (g : HttpTunnel) (h : Reaches (step P) (Unguessed P) initial g)
    (hd : g.ledger.Distinct) : g.Truthful P := by
  have hi := linked_of_reaches h hd
  refine ⟨?_, ?_, fun n l id hl => (hi.line n l hl).log.story id⟩
  · intro r q o res hq hpc ho
    rcases hi.answered r q res hq (hi.faithful r q o res hq hpc ho) with ⟨e, he, hr, hours⟩
    rcases hi.owned.own e he with ⟨q', _, hq', _, _, _, hmsg, _⟩
    have hsame : q' = q := by
      rw [hr] at hq'
      exact Option.some.inj (hq'.symm.trans hq)
    exact ⟨e, he, hr, hsame ▸ hmsg, hours⟩
  · intro n l requestId http req hl hasked
    rcases hi.sending_of_read hl ((hi.line n l hl).log.asked _ _ _ hasked) with ⟨e, he, htx, hmsg⟩
    refine ⟨e, he, htx, hmsg, fun e' he' hid => hi.sending_eq hd he' he ?_⟩
    have hown := hi.asksFor he
    rw [hmsg, ControlMessage.asksFor, Option.some.injEq] at hown
    rw [hid, hown]

/-- A crate that reads a `Register`, a request for `/` and its response. -/
def readsExchange : HttpCrate :=
  { HttpCrate.plain with
    fromStr := fun t =>
      if t = "req" then
        some (.request "u" { method := "GET", path := "/", headers := [("host", "a")], body := [] })
      else if t = "res" then
        some (.response "u" { status := 200, headers := [], body := [104, 105] })
      else Env.oneToken.fromStr t }

/-- Every websocket has a tunnel client. -/
def allOurs : Peers where
  crate := readsExchange
  room := fun _ => true
  ours := fun _ => true
  token := "ok"

/-- A visitor asks for `/`, and the backend of tunnel `a` says hi. -/
def saidHi : List HttpTunnelAction :=
  [.relay (.upgrade "a"), .relay (.first 0 (.message (.text "reg"))), .relay (.online 0 true),
    .relay (.enlist 0), .relay (.arrive .proxy "GET" "/" [("host", [97])] []), .relay (.choose 0),
    .relay (.rank 0), .relay (.checkChosen 0 "u"), .relay (.enroll 0), .relay (.readBody 0 true),
    .relay (.send 0), .relay (.forward 0), .relay (.pushed 0 true),
    .client 0 (.receive (.message (.text "req"))) "", .client 0 (.reply (.response 200 [])) "",
    .client 0 (.collected (some [104, 105])) "", .client 0 (.written true) "",
    .relay (.receive 0 (.message (.text "res"))), .relay (.resolve 0)]

theorem truthful_saidHi : ∃ g, exec (step allOurs) initial saidHi = some g ∧ g.Truthful allOurs ∧
    g.relay.requests.map Request.pc =
      [.returned (.proxied "a" { status := 200, headers := [], body := [104, 105] })] := by
  rcases hrun : exec (step allOurs) initial saidHi with _ | g
  · exact absurd hrun (by decide +kernel)
  · have hfacts : (exec (step allOurs) initial saidHi).map (fun g =>
        (g.relay.requests.map Request.pc, decide g.ledger.Distinct)) =
        some ([.returned (.proxied "a" { status := 200, headers := [], body := [104, 105] })],
          true) := by
      decide +kernel
    rw [hrun] at hfacts
    simp only [Option.map_some, Option.some.injEq, Prod.mk.injEq, decide_eq_true_eq] at hfacts
    have hreach : Reaches (step allOurs) (Unguessed allOurs) initial g :=
      (reaches_of_exec _ _ _ hrun).mono (fun x a _ => by
        cases a with
        | client n a timestamp => trivial
        | relay a =>
            cases a with
            | receive n m => exact fun hne => absurd hne Bool.true_eq_false.mp
            | _ => trivial)
    exact ⟨g, rfl, truthful allOurs g hreach hfacts.2, hfacts.1⟩

end HttpTunnel

end Rathole
