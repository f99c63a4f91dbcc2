import Rathole.Prototype.Rules

/-!
# The Fallback after a Failed Attempt

What `forward_to_tunnel` leaves behind when it fails and hands the request to
the fallback. There are three ways to fail: the body cannot be read, the
tunnel's queue is gone, the response is lost. On each of them the request is
put together again from its parts and an empty body, so all of it comes back
but the body; and on the first the entry in `pending_requests` is forgotten.

## Main definitions

* `Request.MayOwn`: The handler may have an entry under the id.
* `Accounted`: Whoever has an entry may have it.

## Theorems

* `accounted_of_step`: What one step preserves.
* `fallback_keeps_iff`: When the fallback gets the request that came in.
* `body_lost`: A request that comes back without its body.
-/

namespace Rathole

namespace Prototype

open FairLock Numbered Proxy Transition

/-- The handler may have an entry in `pending_requests` under the id. After a
    failed attempt it may have one only if it could not read the body. -/
def Request.MayOwn (q : Request) (id : String) : Prop :=
  match q.pc with
  | .looking _ | .enrolling _ | .falling none _ => False
  | .reading c | .sending c _ | .waiting c | .discarding c => c.requestId = id
  | .falling (some _) _ => q.req.body = .broken
  | .returned _ | .dropped | .crashed => True

namespace Relay

/-- Every entry is one its handler may have, and a request comes back from a
    failed attempt as it was but for its body. -/
structure Accounted (s : Relay) : Prop where
  owned : ∀ (id : String) (r : Nat), s.pendingRequests.lookup id = some r →
    ∃ q, s.requests[r]? = some q ∧ q.MayOwn id
  emptied : ∀ (r : Nat) (q : Request) (c : Call) (handed : Incoming), s.requests[r]? = some q →
    q.pc = .falling (some c) handed → handed = q.req.emptied

variable {E : Env} {s t : Relay} {a : Action} {r : Nat} {q q' : Request}

theorem accounted_initial : Accounted initial where
  owned := fun id r h => by simp only [initial, AList.lookup_empty, reduceCtorEq] at h
  emptied := fun r q c handed h => by simp only [initial, List.getElem?_nil, reduceCtorEq] at h

theorem mayOwn_congr (hreq : q'.req = q.req) (hpc : q'.pc = q.pc) {id : String}
    (h : q.MayOwn id) : q'.MayOwn id := by
  unfold Request.MayOwn at h ⊢
  rw [hreq, hpc]
  exact h

/-- Handlers stay where they are, and entries are only taken out. -/
theorem Accounted.of_fills (h : Accounted s) (hf : Fills s t)
    (hpending : ∀ id r, t.pendingRequests.lookup id = some r →
      s.pendingRequests.lookup id = some r) : Accounted t where
  owned := by
    intro id r hr
    rcases h.owned id r (hpending id r hr) with ⟨q, hq, hmay⟩
    rcases hf.forward r q hq with ⟨q', hq', hreq, hpc, _⟩
    exact ⟨q', hq', mayOwn_congr hreq hpc hmay⟩
  emptied := by
    intro r q' c handed hq' hpc'
    rcases hf.backward hq' with ⟨q, hq, hreq, hpc, _⟩
    rw [hreq]
    exact h.emptied r q c handed hq (hpc.symm.trans hpc')

/-- No handler moves, and no entry comes or goes. -/
theorem Accounted.of_eq (h : Accounted s) (hrequests : t.requests = s.requests)
    (hpending : t.pendingRequests = s.pendingRequests) : Accounted t where
  owned := by
    rw [hrequests, hpending]
    exact h.owned
  emptied := by
    rw [hrequests]
    exact h.emptied

/-- A handler gets to an await at which it may still have its entries. -/
theorem Accounted.of_move (h : Accounted s) (hq : s.requests[r]? = some q)
    (hmay : ∀ id, q.MayOwn id → q'.MayOwn id)
    (hemptied : ∀ c handed, q'.pc = .falling (some c) handed → handed = q'.req.emptied)
    (hrequests : t.requests = s.requests.set r q')
    (hpending : t.pendingRequests = s.pendingRequests) : Accounted t where
  owned := by
    intro id r' hr'
    rw [hpending] at hr'
    rcases h.owned id r' hr' with ⟨p, hp, hown⟩
    rw [hrequests]
    by_cases hr : r = r'
    · subst hr
      rw [hq, Option.some.injEq] at hp
      subst hp
      exact ⟨q', getElem?_updated hq, hmay id hown⟩
    · exact ⟨p, (List.getElem?_set_ne hr).trans hp, hown⟩
  emptied := by
    intro r' p c handed hp hpc
    rw [hrequests] at hp
    rcases getElem?_set_cases hp with ⟨_, rfl⟩ | ⟨_, hold⟩
    · exact hemptied c handed hpc
    · exact h.emptied r' p c handed hold hpc

/-- A new handler has no entry yet. -/
theorem Accounted.of_append (h : Accounted s)
    (hemptied : ∀ c handed, q.pc ≠ .falling (some c) handed)
    (hrequests : t.requests = s.requests ++ [q])
    (hpending : t.pendingRequests = s.pendingRequests) : Accounted t where
  owned := by
    intro id r hr
    rw [hpending] at hr
    rcases h.owned id r hr with ⟨p, hp, hown⟩
    rw [hrequests]
    exact ⟨p, getElem?_kept hp, hown⟩
  emptied := by
    intro r p c handed hp hpc
    rw [hrequests] at hp
    rcases getElem?_append_cases hp with hold | ⟨_, rfl⟩
    · exact h.emptied r p c handed hold hpc
    · exact absurd hpc (hemptied c handed)

/-- The entry of a handler that reads its body is under its id. -/
theorem Accounted.enrolled (h : Accounted s) {c : Call} (hq : s.requests[r]? = some q)
    (hpc : q.pc = .enrolling c) :
    Accounted ((s.setRequest r { q with pc := .reading c }).insertPending c.requestId r) := by
  have hmoved : Accounted (s.setRequest r { q with pc := .reading c }) := by
    refine h.of_move hq (fun id hown => ?_) (fun c' handed hfall => ?_) rfl rfl
    · simp only [Request.MayOwn, hpc] at hown
    · simp only [reduceCtorEq] at hfall
  have hf := fills_insertPending (s.setRequest r { q with pc := .reading c }) c.requestId r
  constructor
  · intro id r' hr'
    rw [pending_insertPending] at hr'
    have hsource : ∃ p, (s.setRequest r { q with pc := .reading c }).requests[r']? = some p ∧
        p.MayOwn id := by
      rcases HashMap.lookup_insert_cases hr' with ⟨rfl, rfl⟩ | ⟨_, hold⟩
      · exact ⟨_, getElem?_updated hq, rfl⟩
      · exact hmoved.owned id r' hold
    rcases hsource with ⟨p, hp, hown⟩
    rcases hf.forward r' p hp with ⟨p', hp', hreq, hpc', _⟩
    exact ⟨p', hp', mayOwn_congr hreq hpc' hown⟩
  · intro r' p' c' handed hp' hpc'
    rcases hf.backward hp' with ⟨p, hp, hreq, hpc'', _⟩
    rw [hreq]
    exact hmoved.emptied r' p c' handed hp (hpc''.symm.trans hpc')

/-- A handler whose call has failed takes its entry out. -/
theorem Accounted.discarded (h : Accounted s) {c : Call} (hq : s.requests[r]? = some q)
    (hpc : q.pc = .discarding c) :
    Accounted ((s.setRequest r { q with
      pc := .falling (some c) q.req.emptied }).removePending c.requestId) := by
  have hf := fills_removePending (s.setRequest r { q with
    pc := .falling (some c) q.req.emptied }) c.requestId
  constructor
  · intro id r' hr'
    rw [pending_removePending] at hr'
    rcases HashMap.lookup_erase_cases hr' with ⟨hid, hold⟩
    rcases h.owned id r' hold with ⟨p, hp, hown⟩
    have hr : r ≠ r' := by
      -- Its own entry is under the id that was taken out.
      rintro rfl
      rw [hq, Option.some.injEq] at hp
      subst hp
      simp only [Request.MayOwn, hpc] at hown
      exact hid hown.symm
    have hp' : (s.setRequest r { q with
        pc := .falling (some c) q.req.emptied }).requests[r']? = some p :=
      (List.getElem?_set_ne hr).trans hp
    rcases hf.forward r' p hp' with ⟨p', hp'', hreq, hpc', _⟩
    exact ⟨p', hp'', mayOwn_congr hreq hpc' hown⟩
  · intro r' p' c' handed hp' hpc'
    rcases hf.backward hp' with ⟨p, hp, hreq, hpc'', _⟩
    rw [hreq]
    rw [hpc''] at hpc'
    rcases getElem?_set_cases hp with ⟨_, rfl⟩ | ⟨_, hold⟩
    · simp only [RequestPc.falling.injEq] at hpc'
      exact hpc'.2.symm
    · exact h.emptied r' p c' handed hold hpc'

/-- An entry that is looked up after an erasure was there before. -/
theorem lookup_of_erase {requestId id : String} {r' : Nat}
    (h : (s.pendingRequests.erase requestId).lookup id = some r') :
    s.pendingRequests.lookup id = some r' :=
  (HashMap.lookup_erase_cases h).2

/-- The step lemma. -/
theorem accounted_of_step (h : Accounted s) (hst : step E s a = some t) : Accounted t := by
  cases rule_of_step hst with
  -- A socket moves, or nothing does.
  | connected | enlisted | taken | pushed | pushFailed | skipped | deafened | hungUp
  | removed => exact h.of_eq rfl rfl
  -- A response takes the entry with it.
  | delivered =>
      refine h.of_fills (fills_answerTaken _ _ _ _) (fun id r' hr' => ?_)
      rw [pending_answerRequest] at hr'
      exact lookup_of_erase hr'
  | @crashed n r x _ requestId =>
      have hdropped : Accounted ({ s with
          pendingRequests := s.pendingRequests.erase requestId }.dropSender r) := by
        refine h.of_fills (fills_dropTaken _ _ _) (fun id r' hr' => ?_)
        rw [pending_dropSender] at hr'
        exact lookup_of_erase hr'
      exact hdropped.of_eq rfl rfl
  | unhosted | arrived =>
      refine h.of_append (fun c handed hpc => ?_) rfl rfl
      simp only [RequestPc.falling.injEq, reduceCtorEq, false_and] at hpc
  -- Before `forward_to_tunnel` there is no entry.
  | found hq hpc | missed hq hpc =>
      refine h.of_move hq (fun id hown => ?_) (fun c handed hfall => ?_) rfl rfl
      · simp only [Request.MayOwn, hpc] at hown
      · simp only [RequestPc.falling.injEq, reduceCtorEq, false_and] at hfall
  | enrolled hq hpc => exact h.enrolled hq hpc
  | broke hq hpc hbody =>
      refine h.of_move hq (fun _ _ => ?_) (fun c' handed hfall => ?_) rfl rfl
      · exact hbody
      · simp only [RequestPc.falling.injEq] at hfall
        exact hfall.2.symm
  | read hq hpc | sent hq hpc | unsent hq hpc | lost hq hpc =>
      refine h.of_move hq (fun id hown => ?_) (fun c' handed hfall => ?_) rfl rfl
      · simpa only [Request.MayOwn, hpc] using hown
      · simp only [reduceCtorEq] at hfall
  | discarded hq hpc => exact h.discarded hq hpc
  -- Nothing is asked of a handler that has ended.
  | panicked hq hpc | responded hq hpc | fellBack hq hpc | fellBackHeld hq hpc
  | cancelled hq hpc =>
      refine h.of_move hq (fun _ _ => ?_) (fun c' handed hfall => ?_) rfl rfl
      · exact trivial
      · simp only [reduceCtorEq] at hfall

/-- In every reachable state, a request that has come to the fallback from a
    failed attempt has been handed to it as it came in, and without an entry
    in `pending_requests` being left, exactly if its body can be read and is
    empty. -/
theorem fallback_keeps_iff (E : Env) (s : Relay)
    (hr : Reaches (step E) (fun _ _ => True) initial s) (r : Nat) (q : Request) (c : Call)
    (handed : Incoming) (hq : s.requests[r]? = some q) (hpc : q.pc = .falling (some c) handed) :
    (handed = q.req ∧ ∀ id, s.pendingRequests.lookup id ≠ some r) ↔ q.req.body = .bytes [] := by
  have h : Accounted s :=
    hr.invariant (fun _ _ _ hi _ hst => accounted_of_step hi hst) accounted_initial
  have hhanded := h.emptied r q c handed hq hpc
  constructor
  · rintro ⟨heq, _⟩
    rw [← heq, hhanded]
    rfl
  · intro hbody
    refine ⟨?_, fun id hentry => ?_⟩
    · rw [hhanded, Incoming.emptied, Body.empty, ← hbody]
    · rcases h.owned id r hentry with ⟨p, hp, hown⟩
      rw [hq, Option.some.injEq] at hp
      subst hp
      -- It could read its body, so it has taken its entry out.
      simp only [Request.MayOwn, hpc, hbody, reduceCtorEq] at hown

/-! ### Two requests -/

/-- Libraries that read one message, a response to `r1` with a status that
    cannot be made. -/
def badStatus : Env where
  fromStr := fun t => if t = "bad" then some (.response "r1" 99 [] []) else none
  crate := {
    headerName := fun _ => true
    headerValue := fun _ => true
    room := fun m => m.length < 24576 }

/-- A request for the tunnel `app`. -/
def postTo (body : Body) : Incoming where
  method := "POST"
  uri := "/form"
  headers := [("host", utf8 "app.example.com")]
  body := body

/-- A tunnel registers, a request is sent to it, and its response ends the
    task of its socket. -/
def lostResponse (body : Body) : List Action :=
  [.connect "app", .enlist 0, .arrive (postTo body), .look 0 "r1", .enroll 0, .readBody 0, .send 0,
    .take 0, .pushed 0 true, .receive 0 (.text "bad"), .recv 0, .discard 0]

/-- Whatever its body was, the request comes to the fallback without it. -/
theorem reaches_lostResponse (body : List UInt8) :
    ∃ s, Reaches (step badStatus) (fun _ _ => True) initial s ∧ s.requests[0]? = some {
      req := postTo (.bytes body)
      pc := .falling (some { subdomain := "app", tx := 0, requestId := "r1" })
        (postTo Body.empty)
      answer := .senderDropped } := by
  have hobs : (exec (step badStatus) initial (lostResponse (.bytes body))).bind
      (fun s => s.requests[0]?) = some {
        req := postTo (.bytes body)
        pc := .falling (some { subdomain := "app", tx := 0, requestId := "r1" })
          (postTo Body.empty)
        answer := .senderDropped } := rfl
  rcases Option.bind_eq_some_iff.mp hobs with ⟨s, hrun, hget⟩
  exact ⟨s, reaches_of_exec _ _ _ hrun, hget⟩

/-- A body that is empty is not missed. -/
theorem fallback_keeps_empty :
    ∃ s q, Reaches (step badStatus) (fun _ _ => True) initial s ∧ s.requests[0]? = some q ∧
      q.pc = .falling (some { subdomain := "app", tx := 0, requestId := "r1" })
        (postTo Body.empty) ∧
      postTo Body.empty = q.req ∧ ∀ id, s.pendingRequests.lookup id ≠ some 0 := by
  rcases reaches_lostResponse [] with ⟨s, hreach, hget⟩
  exact ⟨s, _, hreach, hget, rfl,
    (fallback_keeps_iff badStatus s hreach 0 _ _ _ hget rfl).mpr rfl⟩

/-- The request that came in had a body, and the fallback gets none. -/
theorem body_lost :
    ¬ ∀ (E : Env) (s : Relay), Reaches (step E) (fun _ _ => True) initial s →
      ∀ (r : Nat) (q : Request) (c : Call) (handed : Incoming), s.requests[r]? = some q →
        q.pc = .falling (some c) handed →
          handed = q.req ∧ ∀ id, s.pendingRequests.lookup id ≠ some r := by
  intro h
  rcases reaches_lostResponse [120] with ⟨s, hreach, hget⟩
  exact absurd (h badStatus s hreach 0 _ _ _ hget rfl).1 (by decide)

end Relay

end Prototype

end Rathole
