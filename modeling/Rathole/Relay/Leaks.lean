import Rathole.Relay.Responses

/-!
# Leaked Entries

An entry of `responses` is leaked when the handler it belongs to has returned
or was dropped: nobody will ask for it again. `forward_via_tunnel` takes its
entry out where the socket is gone, the oneshot's sender was dropped or the
wait timed out, and a `Response` takes it out before the oneshot completes.
Three ways out do not look at it: the `?` on a body that cannot be read, the
`return` of `tunnel` when its socket is gone, and the drop of a handler whose
HTTP client went away.

## Main definitions

* `Relay.NoLeak`: Every entry belongs to a running handler.
* `Relay.abandons`: The handler an action ends without a look at `responses`.
* `Relay.Tidy`: That handler has no entry left.

## Theorems

* `noLeak_throughout_iff`: No entry is leaked exactly along tidy runs.
* `failed_send_leaks`: The way out of `tunnel` when its socket is gone leaks.
-/

namespace Rathole

open FairLock Numbered Proxy Transition

namespace Relay

/-- Every entry of `responses` is that of a running handler, and there are no
    more entries than running handlers. -/
structure NoLeak (s : Relay) : Prop where
  owned : ∀ requestId r, s.responses.lookup requestId = some r →
    ∃ q, s.requests[r]? = some q ∧ q.Running
  size : s.responses.entries.length ≤ (s.requests.filter (fun q => decide q.Running)).length

/-- The handler an action ends without a look at `responses`. -/
def abandons (s : Relay) : Action → Option Nat
  | .readBody r false => some r
  | .cancel r => some r
  | .send r => match s.requests[r]? with
    | none => none
    | some q => match q.entry, q.pc with
      | .tunnel _, .sending c => match s.sockets[c.tx]? with
        | some x => if x.InLoop then none else some r
        | none => none
      | _, _ => none
  | _ => none

/-- A handler that an action abandons has no entry: a `Response` has taken it
    out already, or it was never written. -/
def Tidy (s : Relay) (a : Action) : Prop :=
  ∀ r, s.abandons a = some r → ∀ requestId, s.responses.lookup requestId ≠ some r

variable {env : Env} {s t : Relay} {a : Action} {r : Nat}

/-- An abandoned handler does not run any more, and `responses` is as before. -/
theorem abandons_cases (ha : s.abandons a = some r) (h : step env s a = some t) :
    t.responses = s.responses ∧ ∃ q, t.requests[r]? = some q ∧ ¬ q.Running := by
  have ended : ∀ {q : Request} {pc : RequestPc} {lock : RwLock Task},
      s.requests[r]? = some q → t = s.moveRequest r q pc lock →
      ¬ Request.Running { q with pc := pc } →
      t.responses = s.responses ∧ ∃ q, t.requests[r]? = some q ∧ ¬ q.Running := by
    intro q pc lock hq ht hpc
    rw [ht]
    exact ⟨rfl, _, getElem?_updated hq, hpc⟩
  cases a with
  | readBody r' ok =>
      cases ok with
      | true => simp only [abandons, reduceCtorEq] at ha
      | false =>
          simp only [abandons, Option.some.injEq] at ha
          subst ha
          rcases readBody_moved env (act_of_step h) with ⟨q, pc, lock, hq, hm, _, ht⟩
          cases hm with
          | unreadable hpc => exact ended hq ht (fun hrun => hrun)
  | cancel r' =>
      simp only [abandons, Option.some.injEq] at ha
      subst ha
      rcases cancel_moved env (act_of_step h) with ⟨q, pc, lock, hq, hm, _, ht⟩
      cases hm with
      | cancel hrun => exact ended hq ht (fun hrun => hrun)
  | send r' =>
      simp only [abandons] at ha
      rcases send_step env (act_of_step h) with
        ⟨q, pc, lock, hq, hm, _, ht⟩ | ⟨q, c, x, hq, hpc, hx, hl, ht⟩
      · cases hm with
        | unsent hpc he hx hl =>
            simp only [hq, he, hpc, hx, if_neg hl, Option.some.injEq] at ha
            subst ha
            exact ended hq ht (fun hrun => hrun)
        | unsentProxy hpc he => simp only [hq, he, reduceCtorEq] at ha
      · cases he : q.entry with
        | tunnel id => simp only [hq, he, hpc, hx, if_pos hl, reduceCtorEq] at ha
        | proxy => simp only [hq, he, reduceCtorEq] at ha
  | _ => simp only [abandons, reduceCtorEq] at ha

/-- A handler that ends has never written an entry, has none any more, or is
    abandoned. -/
theorem PcMove.ends {q : Request} {pc : RequestPc} (hq : s.requests[r]? = some q)
    (hm : PcMove env s r q a pc) (hend : ¬ Request.Running { q with pc := pc }) :
    q.pc.enrolled = none ∨ q.answer ≠ .empty ∨ s.abandons a = some r := by
  cases hm with
  | notFound hpc | cloud hpc =>
      rw [hpc]
      exact Or.inl rfl
  | unanswered hpc ha | answered hpc ha | answeredProxy hpc ha =>
      rw [ha]
      exact Or.inr (Or.inl (by simp only [ne_eq, reduceCtorEq, not_false_eq_true]))
  | unreadable hpc => exact Or.inr (Or.inr rfl)
  | cancel hrun => exact Or.inr (Or.inr rfl)
  | unsent hpc he hx hl =>
      exact Or.inr (Or.inr (by simp only [abandons, hq, he, hpc, hx, if_neg hl]))
  | _ => exact absurd trivial hend

/-- An entry is owned if its request was, and is where it was. -/
theorem NoLeak.running_of_kept (hi : NoLeak s) {requestId : String} {k : Nat} {q q' : Request}
    (hl : s.responses.lookup requestId = some k) (hq : s.requests[k]? = some q)
    (hpc : q'.pc = q.pc) : q'.Running := by
  rcases hi.owned requestId k hl with ⟨p, hp, hrun⟩
  rw [hq, Option.some.injEq] at hp
  rw [← hp] at hrun
  exact running_of_pc hpc.symm hrun

/-- The handler that moves runs on, if it has an entry and the step is tidy. -/
theorem running_of_moves (hp : Pending s) (hok : s.Tidy a) {requestId : String} {q : Request}
    {pc : RequestPc} (hl : s.responses.lookup requestId = some r)
    (hq : s.requests[r]? = some q) (hm : PcMove env s r q a pc) :
    Request.Running { q with pc := pc } := by
  by_contra hend
  rcases hm.ends hq hend with hnone | hans | hab
  · exact hp.no_entry hq hm.running hnone requestId hl
  · rcases hp.entry requestId r hl with ⟨p, hpq, he, _⟩
    rw [hq, Option.some.injEq] at hpq
    rw [← hpq] at he
    exact hans he
  · exact hok r hab requestId hl

/-! The handler of an entry that is there after a tidy step runs: one lemma for
each thing a handler does. -/

section Handlers

variable {requestId : String} {k : Nat} {q' : Request}

theorem running_of_moved (hp : Pending s) (hi : NoLeak s) (hok : s.Tidy a)
    (h : Moves env s r a t) (hl : t.responses.lookup requestId = some k)
    (hq' : t.requests[k]? = some q') : q'.Running := by
  rcases h with ⟨q, pc, lock, health, hq, hm, _, ht⟩
  rw [ht] at hl hq'
  rcases getElem?_set_cases hq' with ⟨hk, heq⟩ | ⟨_, hk⟩
  · rw [heq]
    rw [hk] at hl
    exact running_of_moves hp hok hl hq hm
  · exact hi.running_of_kept hl hk rfl

theorem running_of_enrolled (hi : NoLeak s) (h : Enrolls s r t)
    (hl : t.responses.lookup requestId = some k) (hq' : t.requests[k]? = some q') :
    q'.Running := by
  rcases h with ⟨q, c, pc, hq, _, hpc, ht⟩
  rw [ht] at hl hq'
  rcases getElem?_set_cases hq' with ⟨_, heq⟩ | ⟨hkr, hk⟩
  · rw [heq]
    -- Both awaits after the insertion are those of a handler that runs.
    rcases hpc with hpc | hpc
    · rw [hpc]
      trivial
    · rw [hpc]
      trivial
  · rcases (insertResponse_same s c.requestId r).requests k q' hk with ⟨q0, hq0, hpc0, _, _⟩
    rcases HashMap.lookup_insert_cases hl with ⟨_, hk'⟩ | ⟨_, hold⟩
    · exact absurd hk' hkr
    · exact hi.running_of_kept hold hq0 hpc0

theorem running_of_sent (hi : NoLeak s) (h : Sends s r t)
    (hl : t.responses.lookup requestId = some k) (hq' : t.requests[k]? = some q') :
    q'.Running := by
  rcases h with ⟨q, c, x, hq, _, _, _, ht⟩
  rw [ht] at hl hq'
  rcases getElem?_set_cases hq' with ⟨_, heq⟩ | ⟨_, hk⟩
  · rw [heq]
    trivial
  · exact hi.running_of_kept hl hk rfl

theorem running_of_discarded (hp : Pending s) (hi : NoLeak s) (h : Discards s r t)
    (hl : t.responses.lookup requestId = some k) (hq' : t.requests[k]? = some q') :
    q'.Running := by
  rcases h with ⟨q, c, code, lock, health, hq, hpc, _, ht⟩
  rw [ht] at hl hq'
  have hl' : ((s.moveRequest r q (.returned (.status code)) lock).removeResponse
      c.requestId).responses.lookup requestId = some k := hl
  rw [responses_removeResponse] at hl'
  rcases HashMap.lookup_erase_cases hl' with ⟨hid, hold⟩
  rcases (removeResponse_same _ _).requests k q' hq' with ⟨q0, hq0, hpc0, _, _⟩
  rcases getElem?_set_cases hq0 with ⟨hk, _⟩ | ⟨_, hk⟩
  · -- The handler's own entry is the one that was taken out.
    rw [hk] at hold
    have hrun : q.Running := by simp only [Request.Running, hpc]
    exact absurd (hp.id_of_entry hold hq hrun (by rw [hpc]; rfl)).symm hid
  · exact hi.running_of_kept hold hk hpc0

end Handlers

/-- The handler of an entry that is there after a tidy step runs. -/
theorem owned_of_tidy (hp : Pending s) (hi : NoLeak s) (hok : s.Tidy a)
    (h : step env s a = some t) (requestId : String) (k : Nat)
    (hl : t.responses.lookup requestId = some k) : ∃ q, t.requests[k]? = some q ∧ q.Running := by
  rcases (pending_step hp h).entry requestId k hl with ⟨q', hq', _, _⟩
  refine ⟨q', hq', ?_⟩
  cases effect_of_step h with
  | handler r ha h =>
      rcases h with hm | ⟨_, he⟩ | ⟨_, hs⟩ | ⟨_, hd⟩ | ht
      · exact running_of_moved hp hi hok hm hl hq'
      · exact running_of_enrolled hi he hl hq'
      · exact running_of_sent hi hs hl hq'
      · exact running_of_discarded hp hi hd hl hq'
      · rw [ht] at hl hq'
        exact hi.running_of_kept hl hq' rfl
  -- A new request has no entry, and runs.
  | arrive q hpc he ha hresp hreq =>
      rw [hresp] at hl
      rw [hreq] at hq'
      rcases getElem?_append_cases hq' with hk | ⟨_, heq⟩
      · exact hi.running_of_kept hl hk rfl
      · rw [heq]
        exact running_of_first hpc
  -- A `Response` takes its own entry out and moves no handler.
  | respond id http r ha hlr hresp hreq =>
      rw [hresp] at hl
      rw [hreq] at hq'
      rcases (answerRequest_same s r http).requests k q' hq' with ⟨q0, hq0, hpc0, _, _⟩
      exact hi.running_of_kept (HashMap.lookup_erase_cases hl).2 hq0 hpc0
  | quiet hresp hreq hnone =>
      rw [hresp] at hl
      rw [hreq] at hq'
      exact hi.running_of_kept hl hq' rfl

/-- Entries of running handlers are different handlers', so they are not more
    than these. -/
theorem size_of_owned (hp : Pending s) (hown : ∀ requestId r,
    s.responses.lookup requestId = some r → ∃ q, s.requests[r]? = some q ∧ q.Running) :
    s.responses.entries.length ≤ (s.requests.filter (fun q => decide q.Running)).length := by
  have hmem : ∀ p ∈ s.responses.entries, s.responses.lookup p.1 = some p.2 := by
    intro p hmem
    exact AList.mem_lookup_iff.mpr hmem
  rw [← List.length_map (f := fun p => p.2)]
  refine length_le_filter ?_ ?_
  · refine List.Nodup.map_on ?_ (List.NodupKeys.nodup s.responses.nodupKeys)
    intro p hpm p' hpm' heq
    have hkey := hp.unique p.1 p'.1 p.2 (hmem p hpm) (by rw [heq]; exact hmem p' hpm')
    exact Sigma.ext hkey (heq_of_eq heq)
  · intro k hk
    rcases List.mem_map.mp hk with ⟨p, hpm, hpk⟩
    rcases hown p.1 p.2 (hmem p hpm) with ⟨q, hq, hrun⟩
    rw [← hpk]
    exact ⟨q, hq, decide_eq_true hrun⟩

/-- One step leaks nothing exactly if it is tidy. -/
theorem noLeak_iff_tidy (hp : Pending s) (hi : NoLeak s) (h : step env s a = some t) :
    NoLeak t ↔ s.Tidy a := by
  constructor
  · intro ht r hab requestId hl
    rcases abandons_cases hab h with ⟨hresp, q, hq, hend⟩
    rw [← hresp] at hl
    rcases ht.owned requestId r hl with ⟨q', hq', hrun⟩
    rw [hq, Option.some.injEq] at hq'
    rw [← hq'] at hrun
    exact hend hrun
  · intro hok
    have hown := owned_of_tidy hp hi hok h
    exact ⟨hown, size_of_owned (pending_step hp h) hown⟩

theorem initial_noLeak : NoLeak initial where
  owned := by
    intro requestId r h
    rw [initial, AList.lookup_empty] at h
    simp only [reduceCtorEq] at h
  size := Nat.le_refl _

/-- Along a run every entry of `responses` is a running handler's, in every
    state, exactly if no handler that still has one ends by a way out that
    leaves it there. -/
theorem noLeak_throughout_iff (env : Env) (as : List Action) :
    Throughout (step env) NoLeak initial as ↔ Legal (step env) Tidy initial as :=
  throughout_iff_legal (fun _ _ _ hp h => pending_step hp h)
    (fun _ _ _ hp hi h => noLeak_iff_tidy hp hi h) as initial initial_pending initial_noLeak

/-- Tunnel `a` registers, a request for it is about to be sent, and its client
    disconnects. -/
def sendFails : List Action :=
  [.upgrade "a", .first 0 (.message (.text "reg")), .online 0 true, .enlist 0,
    .arrive (.tunnel "a") "GET" "x" [] [], .list 0, .find 0 "u", .enroll 0, .receive 0 .closed,
    .send 0]

/-- The handler returns with `TunnelSendError`, and its entry is there for
    ever. -/
theorem failed_send_leaks :
    ¬ ∀ (env : Env) (as : List Action) (s : Relay), exec (step env) initial as = some s →
      NoLeak s := by
  intro h
  rcases hrun : exec (step .oneToken) initial sendFails with _ | s
  · exact absurd hrun (by decide)
  · have hentry : (exec (step .oneToken) initial sendFails).map
        (fun s => s.responses.lookup "u") = some (some 0) := by decide
    have hreq : ((exec (step .oneToken) initial sendFails).bind
        (fun s => s.requests[0]?)).map (fun q => decide q.Running) = some false := by decide
    rw [hrun] at hentry hreq
    simp only [Option.map_some, Option.some.injEq] at hentry
    simp only [Option.bind_some, Option.map_eq_some_iff, decide_eq_false_iff_not] at hreq
    rcases hreq with ⟨q, hq, hend⟩
    rcases (h .oneToken sendFails s hrun).owned "u" 0 hentry with ⟨q', hq', hrun'⟩
    rw [hq, Option.some.injEq] at hq'
    rw [← hq'] at hrun'
    exact hend hrun'

end Relay

end Rathole
