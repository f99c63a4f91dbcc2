import Rathole.Relay.ClientLoop

/-!
# A Tunnel Client and Its Backend

What passes between the tunnel client and its backend while the client serves
the requests of the relay. For each request there is the request the backend
is asked, the head of its response, and the body, in this order, and each of
them once at most, because the client has one request in hand at a time and
the relay does not tell it an id twice. What the client writes back under the
id of a request is made of that and of nothing else.

## Main definitions

* `BackendEvent`: What passes between the client and its backend.
* `ClientLog`, `ClientLog.step`: The client with what it read and what passed.
* `TunnelClient.writes`: What an action writes to the relay.
* `Story`: How far a request can have come.
* `Told`: The response is what the backend replied to the request.
* `ClientLog.Sound`: Every request has a story, and the client knows it.

## Theorems

* `sound_of_step`: As long as no id comes twice, the log stays sound.
* `told_of_writes`: A response that is written is what the backend replied.
-/

namespace Rathole

open Completion Proxy Relay Transition

/-- What passes between the client and its backend for a request: the request
    the client makes of it, the head of the response, its body. -/
inductive BackendEvent
  | asked (http : HttpRequest) (req : LocalRequest)
  | replied (status : UInt16) (headers : HeaderMap)
  | read (body : List UInt8)
deriving DecidableEq, Repr

/-- `dummy_hardware_data` -/
def dummyHardwareData : HardwareData where
  operatingSystem := "Linux"
  avgMemoryUsage := 50
  totalMemory := 8 * 1024 * 1024 * 1024
  usedMemory := 4 * 1024 * 1024 * 1024
  avgSwapUsage := 50
  totalSwap := 2 * 1024 * 1024 * 1024
  usedSwap := 1 * 1024 * 1024 * 1024
  cpuUsage := 1 / 2
  temperaturesData := { avgTemp := none, maxTemp := none }
  timestamp := ""

/-- The id of a request. -/
def ControlMessage.asksFor : ControlMessage → Option String
  | .request requestId _ => some requestId
  | _ => none

namespace TunnelClient

variable (H : HttpCrate) (room : HeaderMap → Bool)

/-- What an action reads of the relay's messages. -/
def reads : MainAction → List ControlMessage
  | .receive (.message (.text t)) => (H.fromStr t).toList
  | _ => []

/-- What an action writes to the relay. -/
def writes (s : TunnelClient) (timestamp : String) : MainAction → Option ControlMessage
  | .written true => match s.pc with
    | .responding requestId http => some (.response requestId http)
    | .reporting => some (.healthUpdate dummyHardwareData timestamp)
    | _ => none
  | _ => none

/-- What passes between the client and its backend, and for which request. -/
def event (s : TunnelClient) : MainAction → Option (String × BackendEvent)
  | .receive (.message (.text t)) => match H.fromStr t with
    | some (.request requestId http) => match buildRequest H room http with
      | .ok req => some (requestId, .asked http req)
      | .error _ => none
    | _ => none
  | .reply (.response status headers) => match s.pc with
    | .requesting requestId _ => some (requestId, .replied status headers)
    | _ => none
  | .collected (some body) => match s.pc with
    | .collecting requestId _ _ => some (requestId, .read body)
    | _ => none
  | _ => none

end TunnelClient

/-- The client, the messages it has read, and what passed between it and its
    backend. -/
structure ClientLog where
  client : TunnelClient
  read : List ControlMessage
  events : List (String × BackendEvent)
deriving DecidableEq, Repr

namespace ClientLog

/-- A client that has read nothing. -/
def start : ClientLog where
  client := TunnelClient.start
  read := []
  events := []

/-- A step of the client, written down. -/
def step (H : HttpCrate) (room : HeaderMap → Bool) (l : ClientLog) (a : MainAction) :
    Option ClientLog :=
  (l.client.step H room a).map (fun c => {
    client := c
    read := l.read ++ TunnelClient.reads H a
    events := l.events ++ (l.client.event H room a).toList })

/-- What passed for one request. -/
def story (l : ClientLog) (requestId : String) : List BackendEvent :=
  (l.events.filter (fun p => p.1 = requestId)).map Prod.snd

end ClientLog

/-- How far a request can have come at its client. -/
inductive Story (H : HttpCrate) (room : HeaderMap → Bool) : List BackendEvent → Prop
  | none : Story H room []
  | asked {http : HttpRequest} {req : LocalRequest} (h : buildRequest H room http = .ok req) :
      Story H room [.asked http req]
  | replied {http : HttpRequest} {req : LocalRequest} (h : buildRequest H room http = .ok req)
      (status : UInt16) (headers : HeaderMap) :
      Story H room [.asked http req, .replied status headers]
  | read {http : HttpRequest} {req : LocalRequest} (h : buildRequest H room http = .ok req)
      (status : UInt16) (headers : HeaderMap) (body : List UInt8) :
      Story H room [.asked http req, .replied status headers, .read body]

/-- The backend was asked what the request says, and the response is what it
    replied. -/
def Told (H : HttpCrate) (room : HeaderMap → Bool) (http : HttpRequest) (res : HttpResponse)
    (story : List BackendEvent) : Prop :=
  ∃ req headers, story = [.asked http req, .replied res.status headers, .read res.body] ∧
    buildRequest H room http = .ok req ∧ headersUnwrapped headers = some res.headers

namespace ClientLog

variable {H : HttpCrate} {room : HeaderMap → Bool} {l l' : ClientLog} {a : MainAction}
  {requestId : String}

/-- The request in hand is as far as the client knows. -/
def Hand (H : HttpCrate) (room : HeaderMap → Bool) (l : ClientLog) : Prop :=
  match l.client.pc with
  | .requesting requestId _ => ∃ http req, l.story requestId = [.asked http req]
  | .collecting requestId status headers => ∃ http req raw,
      l.story requestId = [.asked http req, .replied status raw] ∧
      headersUnwrapped raw = some headers
  | .responding requestId res => ∃ http, Told H room http res (l.story requestId)
  | _ => True

/-- The log agrees with what the client has received. -/
structure Sound (H : HttpCrate) (room : HeaderMap → Bool) (l : ClientLog) : Prop where
  received : l.client.received = l.read.filterMap ControlMessage.asksFor
  fresh : ∀ requestId, requestId ∉ l.client.received → l.story requestId = []
  story : ∀ requestId, Story H room (l.story requestId)
  asked : ∀ requestId http req, (requestId, .asked http req) ∈ l.events →
    .request requestId http ∈ l.read
  hand : l.Hand H room

theorem client_of_step (h : l.step H room a = some l') :
    l.client.step H room a = some l'.client ∧ l'.read = l.read ++ TunnelClient.reads H a ∧
      l'.events = l.events ++ (l.client.event H room a).toList := by
  rcases Option.map_eq_some_iff.mp h with ⟨c, hc, rfl⟩
  exact ⟨hc, rfl, rfl⟩

theorem story_of_events {events : List (String × BackendEvent)}
    (h : l'.events = l.events ++ events) (requestId : String) : l'.story requestId =
      l.story requestId ++ (events.filter (fun p => p.1 = requestId)).map Prod.snd := by
  rw [story, h, List.filter_append, List.map_append, story]

theorem story_of_quiet (h : l'.events = l.events) (requestId : String) :
    l'.story requestId = l.story requestId := by
  rw [story, h, story]

theorem story_of_told {e : BackendEvent} (h : l'.events = l.events ++ [(requestId, e)]) :
    l'.story requestId = l.story requestId ++ [e] := by
  rw [story_of_events h, List.filter_cons_of_pos (by simp only [decide_true]), List.filter_nil]
  rfl

theorem story_of_other {e : BackendEvent} {other : String}
    (h : l'.events = l.events ++ [(requestId, e)]) (hne : requestId ≠ other) :
    l'.story other = l.story other := by
  rw [story_of_events h, List.filter_cons_of_neg (by simpa only [decide_eq_true_eq] using hne),
    List.filter_nil, List.map_nil, List.append_nil]

theorem mem_story {e : BackendEvent} : e ∈ l.story requestId ↔ (requestId, e) ∈ l.events := by
  simp only [story, List.mem_map, List.mem_filter, decide_eq_true_eq, Prod.exists,
    exists_eq_right]

theorem sound_start : start.Sound H room where
  received := rfl
  fresh := fun _ _ => rfl
  story := fun _ => Story.none
  asked := fun _ _ _ h => absurd h List.not_mem_nil
  hand := trivial

/-- A request of which something is told was received. -/
theorem Sound.received_of_story (hi : l.Sound H room) {e : BackendEvent}
    {rest : List BackendEvent} (h : l.story requestId = e :: rest) :
    requestId ∈ l.client.received := by
  by_contra hnot
  rw [hi.fresh requestId hnot] at h
  simp only [reduceCtorEq] at h

/-- An action that tells nothing. -/
theorem Sound.quiet (hi : l.Sound H room) (hevents : l'.events = l.events)
    (hread : l'.read = l.read ++ TunnelClient.reads H a)
    (hreceived : l'.client.received = l.client.received ++
      (TunnelClient.reads H a).filterMap ControlMessage.asksFor)
    (hhand : l'.Hand H room) : l'.Sound H room where
  received := by rw [hreceived, hread, List.filterMap_append, hi.received]
  fresh := by
    intro id hid
    rw [hreceived, List.mem_append, not_or] at hid
    rw [story_of_quiet hevents, hi.fresh id hid.1]
  story := fun id => by
    rw [story_of_quiet hevents]
    exact hi.story id
  asked := by
    intro id http req h
    rw [hevents] at h
    rw [hread]
    exact List.mem_append_left _ (hi.asked id http req h)
  hand := hhand

/-- An action that tells something of a request. -/
theorem Sound.told (hi : l.Sound H room) {e : BackendEvent}
    (hevents : l'.events = l.events ++ [(requestId, e)])
    (hread : l'.read = l.read ++ TunnelClient.reads H a)
    (hreceived : l'.client.received = l.client.received ++
      (TunnelClient.reads H a).filterMap ControlMessage.asksFor)
    (hmem : requestId ∈ l'.client.received) (hstory : Story H room (l.story requestId ++ [e]))
    (hasked : ∀ http req, e = .asked http req → .request requestId http ∈ l'.read)
    (hhand : l'.Hand H room) : l'.Sound H room where
  received := by rw [hreceived, hread, List.filterMap_append, hi.received]
  fresh := by
    intro id hid
    have hne : requestId ≠ id := fun heq => hid (heq ▸ hmem)
    rw [hreceived, List.mem_append, not_or] at hid
    rw [story_of_other hevents hne, hi.fresh id hid.1]
  story := by
    intro id
    by_cases heq : requestId = id
    · subst heq
      rw [story_of_told hevents]
      exact hstory
    · rw [story_of_other hevents heq]
      exact hi.story id
  asked := by
    intro id http req h
    rw [hevents, List.mem_append, List.mem_singleton, Prod.mk.injEq] at h
    rcases h with hold | ⟨hid, he⟩
    · rw [hread]
      exact List.mem_append_left _ (hi.asked id http req hold)
    · rw [hid]
      exact hasked http req he.symm
  hand := hhand

/-- A request comes in. -/
theorem sound_of_request (hi : l.Sound H room) {t : String} {http : HttpRequest}
    (ht : H.fromStr t = some (.request requestId http))
    (ha : a = .receive (.message (.text t))) (h : l.step H room a = some l')
    (hpc : l.client.pc = .selecting) (hnew : requestId ∉ l.client.received) :
    l'.Sound H room := by
  rcases client_of_step h with ⟨hc, hread, hevents⟩
  have hreads : TunnelClient.reads H a = [.request requestId http] := by
    rw [ha, TunnelClient.reads, ht]
    rfl
  subst ha
  simp only [TunnelClient.step, hpc, TunnelClient.receive, ht, Option.some.injEq] at hc
  have hreceived : l'.client.received = l.client.received ++
      (TunnelClient.reads H (.receive (.message (.text t)))).filterMap ControlMessage.asksFor := by
    rw [hreads, ← hc]
    rfl
  cases hb : buildRequest H room http with
  | error e =>
      have hnone : l.client.event H room (.receive (.message (.text t))) = none := by
        simp only [TunnelClient.event, ht, hb]
      rw [hnone, Option.toList_none, List.append_nil] at hevents
      refine hi.quiet hevents hread hreceived ?_
      cases e with
      | error => simp only [Hand, ← hc, TunnelClient.serve, hb]
      | panic p => simp only [Hand, ← hc, TunnelClient.serve, hb]
  | ok req =>
      have hasked : l.client.event H room (.receive (.message (.text t))) =
          some (requestId, .asked http req) := by
        simp only [TunnelClient.event, ht, hb]
      rw [hasked, Option.toList_some] at hevents
      have hempty := hi.fresh requestId hnew
      refine hi.told hevents hread hreceived ?_ ?_ ?_ ?_
      · rw [hreceived, hreads]
        exact List.mem_append_right _ (List.mem_singleton_self _)
      · rw [hempty]
        exact Story.asked hb
      · intro http' req' he
        rw [BackendEvent.asked.injEq] at he
        rw [hread, hreads, ← he.1]
        exact List.mem_append_right _ (List.mem_singleton_self _)
      · have hstory := story_of_told hevents
        rw [hempty] at hstory
        simp only [Hand, ← hc, TunnelClient.serve, hb]
        exact ⟨http, req, hstory⟩

/-- What else can come in tells nothing. -/
theorem sound_of_received (hi : l.Sound H room) {m : Received}
    (h : l.step H room (.receive m) = some l') (hpc : l.client.pc = .selecting)
    (hnone : ∀ t requestId http, m = .message (.text t) →
      H.fromStr t ≠ some (.request requestId http)) : l'.Sound H room := by
  rcases client_of_step h with ⟨hc, hread, hevents⟩
  simp only [TunnelClient.step, hpc, Option.some.injEq] at hc
  have hquiet : l'.client.received = l.client.received ++
        (TunnelClient.reads H (.receive m)).filterMap ControlMessage.asksFor →
      l.client.event H room (.receive m) = none → l'.Hand H room → l'.Sound H room := by
    intro hreceived hev hhand
    rw [hev, Option.toList_none, List.append_nil] at hevents
    exact hi.quiet hevents hread hreceived hhand
  have hselecting : l'.client = l.client → l'.Hand H room := fun heq => by
    simp only [Hand, heq, hpc]
  cases m with
  | error =>
      refine hquiet ?_ rfl ?_
      · rw [← hc]
        exact (List.append_nil _).symm
      · simp only [Hand, ← hc, TunnelClient.receive]
  | closed =>
      refine hquiet ?_ rfl (hselecting hc.symm)
      rw [← hc]
      exact (List.append_nil _).symm
  | message msg =>
      cases msg with
      | text t =>
          cases hm : H.fromStr t with
          | none =>
              simp only [TunnelClient.receive, hm] at hc
              refine hquiet ?_ (by simp only [TunnelClient.event, hm]) (hselecting hc.symm)
              rw [← hc, TunnelClient.reads, hm]
              exact (List.append_nil _).symm
          | some cm =>
              cases cm with
              | request requestId http => exact absurd hm (hnone t requestId http rfl)
              | _ =>
                  simp only [TunnelClient.receive, hm] at hc
                  refine hquiet ?_ (by simp only [TunnelClient.event, hm]) (hselecting hc.symm)
                  rw [← hc, TunnelClient.reads, hm]
                  exact (List.append_nil _).symm
      | _ =>
          refine hquiet ?_ rfl (hselecting hc.symm)
          rw [← hc]
          exact (List.append_nil _).symm

/-- The head of a response. -/
theorem sound_of_reply (hi : l.Sound H room) {b : BackendReply} {req : LocalRequest}
    (h : l.step H room (.reply b) = some l') (hpc : l.client.pc = .requesting requestId req) :
    l'.Sound H room := by
  rcases client_of_step h with ⟨hc, hread, hevents⟩
  simp only [TunnelClient.step, hpc, Option.some.injEq] at hc
  have hreceived : l'.client.received = l.client.received ++
      (TunnelClient.reads H (.reply b)).filterMap ControlMessage.asksFor := by
    rw [← hc, (TunnelClient.inHand_replied requestId b).1]
    exact (List.append_nil _).symm
  cases b with
  | failed =>
      refine hi.quiet (hevents.trans (List.append_nil _)) hread hreceived ?_
      simp only [Hand, ← hc, TunnelClient.replied]
  | response status headers =>
      have hhand := hi.hand
      simp only [Hand, hpc] at hhand
      rcases hhand with ⟨http, req', hstory⟩
      have hform := hi.story requestId
      rw [hstory] at hform
      cases hform with
      | asked hb =>
          simp only [TunnelClient.event, hpc, Option.toList_some] at hevents
          have hlater := story_of_told hevents
          rw [hstory] at hlater
          refine hi.told hevents hread hreceived ?_ ?_ ?_ ?_
          · rw [hreceived]
            exact List.mem_append_left _ (hi.received_of_story hstory)
          · rw [hstory]
            exact Story.replied hb status headers
          · exact fun _ _ he => by simp only [reduceCtorEq] at he
          · cases hu : headersUnwrapped headers with
            | none => simp only [Hand, ← hc, TunnelClient.replied, hu]
            | some strings =>
                simp only [Hand, ← hc, TunnelClient.replied, hu]
                exact ⟨http, req', headers, hlater, hu⟩

/-- The body of a response. -/
theorem sound_of_collected (hi : l.Sound H room) {body : Option (List UInt8)} {status : UInt16}
    {headers : List (String × String)} (h : l.step H room (.collected body) = some l')
    (hpc : l.client.pc = .collecting requestId status headers) : l'.Sound H room := by
  rcases client_of_step h with ⟨hc, hread, hevents⟩
  simp only [TunnelClient.step, hpc, Option.some.injEq] at hc
  have hreceived : l'.client.received = l.client.received ++
      (TunnelClient.reads H (.collected body)).filterMap ControlMessage.asksFor := by
    rw [← hc]
    cases body with
    | none => exact (List.append_nil _).symm
    | some body => exact (List.append_nil _).symm
  cases body with
  | none =>
      refine hi.quiet (hevents.trans (List.append_nil _)) hread hreceived ?_
      simp only [Hand, ← hc, TunnelClient.collect]
  | some body =>
      have hhand := hi.hand
      simp only [Hand, hpc] at hhand
      rcases hhand with ⟨http, req, raw, hstory, hu⟩
      have hform := hi.story requestId
      rw [hstory] at hform
      cases hform with
      | replied hb =>
          simp only [TunnelClient.event, hpc, Option.toList_some] at hevents
          have hlater := story_of_told hevents
          rw [hstory] at hlater
          refine hi.told hevents hread hreceived ?_ ?_ ?_ ?_
          · rw [hreceived]
            exact List.mem_append_left _ (hi.received_of_story hstory)
          · rw [hstory]
            exact Story.read hb status raw body
          · exact fun _ _ he => by simp only [reduceCtorEq] at he
          · simp only [Hand, ← hc, TunnelClient.collect]
            exact ⟨http, req, raw, hlater, hb, hu⟩

/-- A step keeps the log sound, as long as no request id comes twice. -/
theorem sound_of_step (hi : l.Sound H room) (h : l.step H room a = some l')
    (hnodup : (l'.read.filterMap ControlMessage.asksFor).Nodup) : l'.Sound H room := by
  rcases client_of_step h with ⟨hc, hread, hevents⟩
  -- Writing and waiting for the tick tell nothing.
  have hquiet : l'.client.received = l.client.received → TunnelClient.reads H a = [] →
      l.client.event H room a = none → l'.Hand H room → l'.Sound H room := by
    intro hreceived hreads hnone hhand
    rw [hnone, Option.toList_none, List.append_nil] at hevents
    exact hi.quiet hevents hread (by rw [hreceived, hreads]; exact (List.append_nil _).symm) hhand
  generalize hx : l'.client = x at hc hquiet
  cases TunnelClient.rule_of_step hc with
  | @received m hpc =>
      by_cases hreq : ∃ t requestId http, m = .message (.text t) ∧
          H.fromStr t = some (.request requestId http)
      · rcases hreq with ⟨t, requestId, http, rfl, ht⟩
        refine sound_of_request hi ht rfl h hpc (fun hmem => ?_)
        have hreads : TunnelClient.reads H (.receive (.message (.text t))) =
            [.request requestId http] := by
          rw [TunnelClient.reads, ht]
          rfl
        rw [hread, hreads, List.filterMap_append, ← hi.received] at hnodup
        exact (List.nodup_append.mp hnodup).2.2 requestId hmem requestId
          (List.mem_singleton_self _) rfl
      · exact sound_of_received hi h hpc (fun t requestId http hm ht =>
          hreq ⟨t, requestId, http, hm, ht⟩)
  | replied hpc => exact sound_of_reply hi h hpc
  | collected hpc => exact sound_of_collected hi h hpc
  | _ => exact hquiet rfl rfl rfl (by simp only [Hand, hx])

/-- A response that is written is what the backend replied to the request
    under its id. -/
theorem told_of_writes (hi : l.Sound H room) {timestamp : String} {res : HttpResponse}
    (h : l.client.writes timestamp a = some (.response requestId res)) :
    ∃ http, Told H room http res (l.story requestId) := by
  have hhand := hi.hand
  unfold TunnelClient.writes at h
  split at h
  · split at h
    · rename_i id http hpc
      rw [Option.some.injEq, ControlMessage.response.injEq] at h
      simp only [Hand, hpc, h.1, h.2] at hhand
      exact hhand
    · simp only [Option.some.injEq, reduceCtorEq] at h
    · simp only [reduceCtorEq] at h
  · simp only [reduceCtorEq] at h

/-- No story is longer than that of a request whose response was read. -/
theorem length_le_of_story {events : List BackendEvent} (h : Story H room events) :
    events.length ≤ 3 := by
  cases h with
  | none => exact Nat.zero_le 3
  | asked | replied | read => simp only [List.length_cons, List.length_nil]; omega

/-- The story of a request that was told does not go on. -/
theorem told_of_step {http : HttpRequest} {res : HttpResponse} (hi : l'.Sound H room)
    (h : l.step H room a = some l') (ht : Told H room http res (l.story requestId)) :
    Told H room http res (l'.story requestId) := by
  have hgrown := story_of_events (client_of_step h).2.2 requestId
  rcases ht with ⟨req, headers, hstory, hb, hu⟩
  refine ⟨req, headers, ?_, hb, hu⟩
  have hlength := length_le_of_story (hi.story requestId)
  rw [hgrown, hstory, List.length_append, List.length_cons, List.length_cons, List.length_cons,
    List.length_nil] at hlength
  have hnil : ((l.client.event H room a).toList.filter (fun p => p.1 = requestId)).map
      Prod.snd = [] := List.eq_nil_of_length_eq_zero (by omega)
  rw [hgrown, hnil, List.append_nil, hstory]

end ClientLog

end Rathole
