import Rathole.Lib.Transition
import Rathole.Relay.EntryPoints
import Rathole.Relay.TunnelClient

/-!
# The Loop of the Tunnel Client

`main` of the tunnel client after it has registered. It serves one request at
a time, inside the branch of its `select!` that received it: the request for
the backend is built, sent, and its response read to the end and written back
to the relay. Every one of these steps can fail, and each failure but that of
the last write leaves `main`, by a `?` or a panic. So whoever can make one
request fail, the HTTP client with its headers or the backend by being down,
takes the tunnel away from all others.

When the relay closes the connection, `read.next()` gives nothing more. The
loop goes on then until a health update cannot be sent.

## Main definitions

* `TunnelClient`: The loop.
* `TunnelClient.step`: One action.
* `TunnelClient.Answering`: Every request has its response, or is the one in
  hand, and only the relay ends the loop.
* `TunnelClient.Smooth`: The actions no step of a request fails at.

## Theorems

* `buildRequest_eq_ok`: This is the request of `localRequest`.
* `answers_of_step`: The responses so far, in any run.
* `answering_throughout_iff`: When the loop survives its requests.
* `refused_backend_ends_loop`: A request it does not survive.
-/

namespace Rathole

open Completion Http Proxy Relay Transition

/-- How `main` ends: it breaks out of its loop, it returns an error, or it
    panics. -/
inductive MainEnd
  | relayLost
  | error
  | panicked
deriving DecidableEq, Repr

/-- `main`, await by await: its `select!`, the request at the backend, the body
    of the response, the write of the answer, the write of a health update.
    An end keeps the request that was in hand. -/
inductive MainPc
  | selecting
  | requesting (requestId : String) (req : LocalRequest)
  | collecting (requestId : String) (status : UInt16) (headers : List (String × String))
  | responding (requestId : String) (http : HttpResponse)
  | reporting
  | ended (e : MainEnd) (inHand : List String)
deriving DecidableEq, Repr

/-- The request that was received and is not answered yet. -/
def MainPc.inHand : MainPc → List String
  | .requesting requestId _ | .collecting requestId _ _ | .responding requestId _ => [requestId]
  | .ended _ inHand => inHand
  | .selecting | .reporting => []

/-- What `client.request(req)` comes back with. -/
inductive BackendReply
  | failed
  | response (status : UInt16) (headers : HeaderMap)
deriving DecidableEq, Repr

/-- What can happen next. -/
inductive MainAction
  | receive (m : Received)
  | tick
  | reply (b : BackendReply)
  | collected (body : Option (List UInt8))
  | written (ok : Bool)
deriving DecidableEq, Repr

/-- The loop, with the ids of the requests it received and the responses it
    sent, in order. -/
structure TunnelClient where
  pc : MainPc
  received : List String
  sent : List (String × HttpResponse)
deriving DecidableEq, Repr

namespace TunnelClient

/-- After `Register` was sent. -/
def start : TunnelClient where
  pc := .selecting
  received := []
  sent := []

variable (H : HttpCrate) (room : HeaderMap → Bool)

/-- A `ControlMessage::Request`. -/
def serve (s : TunnelClient) (requestId : String) (http : HttpRequest) : TunnelClient :=
  { s with
    received := s.received ++ [requestId]
    pc := match buildRequest H room http with
      | .ok req => .requesting requestId req
      | .error .error => .ended .error [requestId]
      | .error (.panic _) => .ended .panicked [requestId] }

/-- The branch of the relay's messages. -/
def receive (s : TunnelClient) : Received → TunnelClient
  | .message (.text t) => match H.fromStr t with
    | some (.request requestId http) => s.serve H room requestId http
    -- What does not parse is skipped, and so is every other message.
    | _ => s
  | .message _ => s
  | .error => { s with pc := .ended .relayLost [] }
  -- `None` does not match the branch's pattern, and the tick is waited for.
  | .closed => s

/-- The backend has answered, or could not be reached. -/
def replied (s : TunnelClient) (requestId : String) : BackendReply → TunnelClient
  | .failed => { s with pc := .ended .error [requestId] }
  | .response status headers => match headersUnwrapped headers with
    | none => { s with pc := .ended .panicked [requestId] }
    | some headers => { s with pc := .collecting requestId status headers }

/-- `res.into_body().collect().await?` -/
def collect (s : TunnelClient) (requestId : String) (status : UInt16)
    (headers : List (String × String)) : Option (List UInt8) → TunnelClient
  | none => { s with pc := .ended .error [requestId] }
  | some body => { s with
      pc := .responding requestId { status := status, headers := headers, body := body } }

/-- One action. -/
def step (s : TunnelClient) (a : MainAction) : Option TunnelClient :=
  match s.pc, a with
  | .selecting, .receive m => some (s.receive H room m)
  | .selecting, .tick => some { s with pc := .reporting }
  | .requesting requestId _, .reply b => some (s.replied requestId b)
  | .collecting requestId status headers, .collected body =>
      some (s.collect requestId status headers body)
  | .responding requestId http, .written true =>
      some { s with pc := .selecting, sent := s.sent ++ [(requestId, http)] }
  | .responding requestId _, .written false => some { s with pc := .ended .relayLost [requestId] }
  | .reporting, .written true => some { s with pc := .selecting }
  | .reporting, .written false => some { s with pc := .ended .relayLost [] }
  | _, _ => none

/-- The requests received so far are those that were answered, once each and
    in order, and the one in hand. -/
def Answers (s : TunnelClient) : Prop := s.received = s.sent.map Prod.fst ++ s.pc.inHand

/-- Nothing but the relay has ended the loop. -/
def Running (s : TunnelClient) : Prop :=
  ∀ e inHand, s.pc = .ended e inHand → e = .relayLost

/-- Every request is answered, and the loop goes on. -/
def Answering (s : TunnelClient) : Prop := s.Answers ∧ s.Running

/-- The client can make a request for its backend of this. -/
def Proper (http : HttpRequest) : Prop :=
  H.method http.method = true ∧ (H.uri (localBackend ++ http.path)).isSome = true ∧
    http.headers.all (crateOf H.toEnv room).valid = true ∧
    Fits (crateOf H.toEnv room) [] http.headers

/-- A request that comes in is proper, the backend answers it with headers that
    are strings, and the body can be read to its end. -/
def Smooth (_ : TunnelClient) : MainAction → Prop
  | .receive (.message (.text t)) => ∀ requestId http,
      H.fromStr t = some (.request requestId http) → Proper H room http
  | .reply b => ∃ status headers, b = .response status headers ∧
      ∀ h ∈ headers, h.2.all isVisibleAscii = true
  | .collected body => body.isSome = true
  | _ => True

variable {H : HttpCrate} {room : HeaderMap → Bool} {http : HttpRequest} {s t : TunnelClient}
  {a : MainAction}

/-! ### The request for the backend -/

/-- Within a map's room this is the request that is passed on. -/
theorem buildRequest_eq_ok {req : LocalRequest} : buildRequest H room http = .ok req ↔
    localRequest H http = some req ∧ Fits (crateOf H.toEnv room) [] http.headers := by
  rw [localRequest_eq_some_iff, buildRequest_eq_ok_iff, buildRequest_eq_ok_iff]
  constructor
  · rintro ⟨hm, p, hp, hv, hfits, hreq⟩
    exact ⟨⟨hm, p, hp, hv, fun _ _ _ _ _ => rfl, hreq⟩, hfits⟩
  · rintro ⟨⟨hm, p, hp, hv, _, hreq⟩, hfits⟩
    exact ⟨hm, p, hp, hv, hfits, hreq⟩

theorem buildRequest_ok_iff : (∃ req, buildRequest H room http = .ok req) ↔
    Proper H room http := by
  simp only [buildRequest_eq_ok_iff, Proper, Option.isSome_iff_exists]
  constructor
  · rintro ⟨_, hm, p, hp, hv, hfits, _⟩
    exact ⟨hm, ⟨p, hp⟩, hv, hfits⟩
  · rintro ⟨hm, ⟨p, hp⟩, hv, hfits⟩
    exact ⟨_, hm, p, hp, hv, hfits, rfl⟩

theorem headersUnwrapped_isSome_iff (headers : HeaderMap) :
    (∃ l, headersUnwrapped headers = some l) ↔ ∀ h ∈ headers, h.2.all isVisibleAscii = true := by
  rw [← Option.ne_none_iff_exists', ne_eq, headersUnwrapped_eq_none_iff]
  simp only [toStr, ite_eq_right_iff, reduceCtorEq, imp_false, not_exists, not_and, not_not]

/-! ### One action -/

/-- A received request is the one in hand, whatever comes of it. -/
theorem answers_serve (h : s.Answers) (hpc : s.pc = .selecting) (requestId : String) :
    (s.serve H room requestId http).Answers := by
  have hin : (s.serve H room requestId http).pc.inHand = [requestId] := by
    unfold serve
    cases buildRequest H room http with
    | ok req => rfl
    | error f =>
        cases f with
        | error => rfl
        | panic p => rfl
  rw [Answers, hin]
  rw [Answers, hpc] at h
  show s.received ++ [requestId] = s.sent.map Prod.fst ++ [requestId]
  rw [h, MainPc.inHand, List.append_nil]

/-- The loop goes on exactly if the request could be built. -/
theorem running_serve_iff {requestId : String} :
    (s.serve H room requestId http).Running ↔ Proper H room http := by
  rw [← buildRequest_ok_iff]
  unfold Running serve
  cases buildRequest H room http with
  | ok req => simp only [reduceCtorEq, false_implies, implies_true, Except.ok.injEq,
      exists_eq']
  | error f =>
      constructor
      · intro hrun
        -- The end that was come to is not one of the relay.
        cases f with
        | error => exact absurd (hrun .error [requestId] rfl) (by decide)
        | panic p => exact absurd (hrun .panicked [requestId] rfl) (by decide)
      · rintro ⟨req, hreq⟩
        simp only [reduceCtorEq] at hreq

/-- The ways through an action. -/
inductive Rule (H : HttpCrate) (room : HeaderMap → Bool) (s : TunnelClient) :
    MainAction → TunnelClient → Prop
  | received {m : Received} (hpc : s.pc = .selecting) :
      Rule H room s (.receive m) (s.receive H room m)
  | ticked (hpc : s.pc = .selecting) : Rule H room s .tick { s with pc := .reporting }
  | replied {requestId : String} {req : LocalRequest} {b : BackendReply}
      (hpc : s.pc = .requesting requestId req) : Rule H room s (.reply b) (s.replied requestId b)
  | collected {requestId : String} {status : UInt16} {headers : List (String × String)}
      {body : Option (List UInt8)} (hpc : s.pc = .collecting requestId status headers) :
      Rule H room s (.collected body) (s.collect requestId status headers body)
  | responded {requestId : String} {res : HttpResponse} (hpc : s.pc = .responding requestId res) :
      Rule H room s (.written true)
        { s with pc := .selecting, sent := s.sent ++ [(requestId, res)] }
  | responseLost {requestId : String} {res : HttpResponse}
      (hpc : s.pc = .responding requestId res) :
      Rule H room s (.written false) { s with pc := .ended .relayLost [requestId] }
  | reported (hpc : s.pc = .reporting) : Rule H room s (.written true) { s with pc := .selecting }
  | reportLost (hpc : s.pc = .reporting) :
      Rule H room s (.written false) { s with pc := .ended .relayLost [] }

theorem rule_of_step (h : s.step H room a = some t) : Rule H room s a t := by
  unfold step at h
  split at h
  case h_1 m hpc => exact Option.some.inj h ▸ Rule.received hpc
  case h_2 hpc => exact Option.some.inj h ▸ Rule.ticked hpc
  case h_3 hpc => exact Option.some.inj h ▸ Rule.replied hpc
  case h_4 hpc => exact Option.some.inj h ▸ Rule.collected hpc
  case h_5 hpc => exact Option.some.inj h ▸ Rule.responded hpc
  case h_6 hpc => exact Option.some.inj h ▸ Rule.responseLost hpc
  case h_7 hpc => exact Option.some.inj h ▸ Rule.reported hpc
  case h_8 hpc => exact Option.some.inj h ▸ Rule.reportLost hpc
  case h_9 => simp only [reduceCtorEq] at h

/-- The request in hand stays in hand. -/
theorem Answers.of_inHand (h : s.Answers) (hreceived : t.received = s.received)
    (hsent : t.sent = s.sent) (hpc : t.pc.inHand = s.pc.inHand) : t.Answers := by
  rw [Answers, hreceived, hsent, hpc]
  exact h

theorem inHand_replied (requestId : String) (b : BackendReply) :
    (s.replied requestId b).received = s.received ∧ (s.replied requestId b).sent = s.sent ∧
      (s.replied requestId b).pc.inHand = [requestId] := by
  cases b with
  | failed => exact ⟨rfl, rfl, rfl⟩
  | response status headers =>
      cases hu : headersUnwrapped headers with
      | none => simp only [replied, hu, MainPc.inHand, and_self]
      | some l => simp only [replied, hu, MainPc.inHand, and_self]

theorem answers_receive (h : s.Answers) (hpc : s.pc = .selecting) (m : Received) :
    (s.receive H room m).Answers := by
  have hend : { s with pc := .ended .relayLost [] }.Answers :=
    h.of_inHand rfl rfl (by rw [hpc]; rfl)
  cases m with
  | error => exact hend
  | closed => exact h
  | message msg =>
      cases msg with
      | text text =>
          cases hp : H.fromStr text with
          | none => simpa only [receive, hp] using h
          | some cm =>
              cases cm with
              | request requestId http =>
                  simp only [receive, hp]
                  exact answers_serve h hpc requestId
              | _ => simpa only [receive, hp] using h
      | _ => exact h

/-- Nothing is answered twice or left out, in any run. -/
theorem answers_of_step (h : s.Answers) (hst : s.step H room a = some t) : t.Answers := by
  cases rule_of_step hst with
  | received hpc => exact answers_receive h hpc _
  | ticked hpc => exact h.of_inHand rfl rfl (by rw [hpc]; rfl)
  | @replied requestId _ b hpc =>
      have hin := inHand_replied (s := s) requestId b
      exact h.of_inHand hin.1 hin.2.1 (by rw [hin.2.2, hpc]; rfl)
  | @collected _ _ _ body hpc =>
      cases body with
      | none => exact h.of_inHand rfl rfl (by rw [hpc]; rfl)
      | some body => exact h.of_inHand rfl rfl (by rw [hpc]; rfl)
  -- The response of the request in hand goes out.
  | @responded requestId res hpc =>
      rw [Answers, hpc] at h
      rw [Answers, h, List.map_append, MainPc.inHand, MainPc.inHand, List.append_nil]
      rfl
  | responseLost hpc => exact h.of_inHand rfl rfl (by rw [hpc]; rfl)
  | reported hpc => exact h.of_inHand rfl rfl (by rw [hpc]; rfl)
  | reportLost hpc => exact h.of_inHand rfl rfl (by rw [hpc]; rfl)

theorem running_of_pc (h : ∀ e inHand, s.pc ≠ .ended e inHand) : s.Running :=
  fun e inHand hpc => absurd hpc (h e inHand)

theorem not_running {e : MainEnd} {inHand : List String} (hpc : s.pc = .ended e inHand)
    (he : e ≠ .relayLost) : ¬ s.Running :=
  fun hrun => he (hrun e inHand hpc)

theorem running_receive_iff (h : s.Running) (m : Received) :
    (s.receive H room m).Running ↔ Smooth H room s (.receive m) := by
  cases m with
  | error =>
      refine ⟨fun _ => trivial, fun _ e inHand hpc => ?_⟩
      simp only [receive, MainPc.ended.injEq] at hpc
      exact hpc.1.symm
  | closed => exact ⟨fun _ => trivial, fun _ => h⟩
  | message msg =>
      cases msg with
      | text text =>
          cases hp : H.fromStr text with
          | none =>
              simp only [receive, hp, Smooth, reduceCtorEq, false_implies, implies_true, iff_true]
              exact h
          | some cm =>
              cases cm with
              | request requestId http =>
                  simp only [receive, hp, Smooth, Option.some.injEq, ControlMessage.request.injEq]
                  rw [running_serve_iff]
                  exact ⟨fun hproper _ _ heq => heq.2 ▸ hproper,
                    fun hall => hall requestId http ⟨rfl, rfl⟩⟩
              | _ =>
                  simp only [receive, hp, Smooth, Option.some.injEq, reduceCtorEq, false_implies,
                    implies_true, iff_true]
                  exact h
      | _ => exact ⟨fun _ => trivial, fun _ => h⟩

theorem running_replied_iff (requestId : String) (b : BackendReply) :
    (s.replied requestId b).Running ↔ Smooth H room s (.reply b) := by
  cases b with
  | failed =>
      simp only [Smooth, reduceCtorEq, false_and, exists_false, iff_false]
      exact not_running rfl (by decide)
  | response status headers =>
      simp only [Smooth, BackendReply.response.injEq]
      cases hu : headersUnwrapped headers with
      | none =>
          have hend : (s.replied requestId (.response status headers)).pc =
              .ended .panicked [requestId] := by simp only [replied, hu]
          refine ⟨fun hrun => absurd hrun (not_running hend (by decide)), ?_⟩
          rintro ⟨_, _, ⟨rfl, rfl⟩, hvis⟩
          -- Strings could have been unwrapped.
          rcases (headersUnwrapped_isSome_iff headers).mpr hvis with ⟨l, hl⟩
          rw [hl] at hu
          simp only [reduceCtorEq] at hu
      | some l =>
          refine ⟨fun _ => ⟨status, headers, ⟨rfl, rfl⟩,
            (headersUnwrapped_isSome_iff headers).mp ⟨l, hu⟩⟩, fun _ => running_of_pc ?_⟩
          intro e inHand
          simp only [replied, hu, ne_eq, reduceCtorEq, not_false_eq_true]

/-- Whether the loop goes on is decided by the action. -/
theorem running_of_step_iff (h : s.Running) (hst : s.step H room a = some t) :
    t.Running ↔ Smooth H room s a := by
  have hgoes : ∀ x : TunnelClient, (∀ e inHand, x.pc ≠ .ended e inHand) → (x.Running ↔ True) :=
    fun x hx => ⟨fun _ => trivial, fun _ => running_of_pc hx⟩
  have hlost : ∀ (x : TunnelClient) (inHand : List String), x.pc = .ended .relayLost inHand →
      (x.Running ↔ True) := by
    intro x inHand hx
    refine ⟨fun _ => trivial, fun _ e inHand' hpc => ?_⟩
    rw [hx, MainPc.ended.injEq] at hpc
    exact hpc.1.symm
  cases rule_of_step hst with
  | received _ => exact running_receive_iff h _
  | ticked _ => exact hgoes _ (by simp only [ne_eq, reduceCtorEq, not_false_eq_true, implies_true])
  | replied _ => exact running_replied_iff _ _
  | @collected _ _ _ body _ =>
      cases body with
      | none =>
          simp only [Smooth, Option.isSome_none, Bool.false_eq_true, iff_false]
          exact not_running rfl (by decide)
      | some body =>
          refine ⟨fun _ => rfl, fun _ => running_of_pc ?_⟩
          simp only [collect, ne_eq, reduceCtorEq, not_false_eq_true, implies_true]
  | responded _ =>
      exact hgoes _ (by simp only [ne_eq, reduceCtorEq, not_false_eq_true, implies_true])
  | responseLost _ => exact hlost _ _ rfl
  | reported _ =>
      exact hgoes _ (by simp only [ne_eq, reduceCtorEq, not_false_eq_true, implies_true])
  | reportLost _ => exact hlost _ _ rfl

/-! ### Whole runs -/

theorem answers_start : start.Answers := rfl

theorem running_start : start.Running :=
  running_of_pc (by simp only [start, ne_eq, reduceCtorEq, not_false_eq_true, implies_true])

/-- In every state of a run each request that was received has been answered
    exactly once, but for the one in hand, and nothing but the relay has ended
    the loop, exactly if every action of the run is smooth. -/
theorem answering_throughout_iff (H : HttpCrate) (room : HeaderMap → Bool)
    (as : List MainAction) :
    Throughout (step H room) Answering start as ↔ Legal (step H room) (Smooth H room) start as := by
  have hanswers : ∀ (s : TunnelClient) (a : MainAction) (t : TunnelClient),
      s.Answers → step H room s a = some t → t.Answers :=
    fun _ _ _ h hst => answers_of_step h hst
  refine throughout_iff_legal hanswers
    (fun x a y hinv hp hst => ?_) as start answers_start ⟨answers_start, running_start⟩
  rw [Answering, running_of_step_iff hp.2 hst]
  exact and_iff_right (answers_of_step hinv hst)

/-- Between two messages every request has its response. -/
theorem Answering.answered (h : s.Answering) (hpc : s.pc = .selecting) :
    s.sent.map Prod.fst = s.received := by
  have hanswers := h.1
  rw [Answers, hpc, MainPc.inHand, List.append_nil] at hanswers
  exact hanswers.symm

/-- A crate that reads one request. -/
def oneGet : HttpCrate :=
  { HttpCrate.plain with
    fromStr := fun t => if t = "get" then
      some (.request "r1" { method := "GET", path := "/", headers := [], body := [] }) else none }

/-- The request comes, and the backend is down. -/
def backendDown : List MainAction := [.receive (.message (.text "get")), .reply .failed]

/-- The loop ends over it, without a response. -/
theorem refused_backend_ends_loop :
    ¬ ∀ (H : HttpCrate) (room : HeaderMap → Bool) (as : List MainAction) (s : TunnelClient),
      exec (step H room) start as = some s → s.Answering := by
  intro h
  have hrun : exec (step oneGet (fun _ => true)) start backendDown =
      some { pc := .ended .error ["r1"], received := ["r1"], sent := [] } := by decide
  exact absurd ((h oneGet _ backendDown _ hrun).2 .error ["r1"] rfl) (by decide)

end TunnelClient

end Rathole
