import Rathole.Relay.Registry

/-!
# Idle Tunnels

When the loop of `handle_socket` closes a tunnel whose client has gone silent.
The loop waits for a message of its queue and for a frame of the client, the
latter under a timeout of thirty seconds. Either of the two ends the
iteration, and the next one makes a new timeout. So the timeout counts from
the last frame or the last message that was passed on, whichever was later:
every request for a tunnel keeps it open, whether its client is there or not.

`Watched` is the relay together with the time at which the client of one
socket was last heard of. What the loop of this socket does takes no time:
the clock goes on only while the loop waits, and not past the end of its
timeout.

## Main definitions

* `Watched`, `Watched.step`: The relay on the clock of one socket.
* `Watched.Timely`: A silence has not lasted longer than the timeout.
* `Watched.Undisturbed`: A message is passed on at the moment of the last
  frame only.

## Theorems

* `armed_of_step`: When a loop makes its timeout anew.
* `restInv_of_step`: What one undisturbed step preserves.
* `idle_closed`: An undisturbed run is timely.
* `disturbed_overruns`: A disturbance leads to a state that is not.
* `traffic_keeps_open`: A run in which nothing is heard for long.
-/

namespace Rathole

open Transition Numbered FairLock

/-- The socket whose loop begins an iteration by an action. -/
def Action.iterates : Action → Option Nat
  | .enlist n => some n
  | .pushed n true => some n
  | .receive n (.message _) => some n
  | _ => none

/-- The socket whose client an action lets the relay hear of. -/
def Action.hears : Action → Option Nat
  | .enlist n => some n
  | .receive n (.message _) => some n
  | _ => none

/-- The loop may wait from `now` for a time `d`: it has nothing to pass on,
    and its timeout does not run out in between. -/
def Socket.MayWait (x : Socket) (now d : Nat) : Prop :=
  x.InLoop → x.pc = .looping ∧ x.queue = [] ∧ now + d ≤ x.armed + Relay.idleTimeout

instance (x : Socket) (now d : Nat) : Decidable (x.MayWait now d) := by
  unfold Socket.MayWait
  infer_instance

/-- The relay, and when the client of a socket was last heard of. -/
structure Watched where
  relay : Relay
  heard : Nat

namespace Watched

/-- The relay has just started. -/
def initial : Watched where
  relay := Relay.initial
  heard := 0

/-- Time passes only while the loop of socket `n` may wait. -/
def prompt (n : Nat) (s : Relay) : Action → Bool
  | .elapse d => match s.sockets[n]? with
    | none => true
    | some x => decide (x.MayWait s.now d)
  | _ => true

/-- A step that is taken in time, and when the socket was heard last. -/
def step (env : Env) (n : Nat) (g : Watched) (a : Action) : Option Watched :=
  if prompt n g.relay a then
    (g.relay.step env a).map (fun t =>
      { relay := t, heard := if a.hears = some n then g.relay.now else g.heard })
  else none

/-- While the loop of socket `n` runs, no more than the timeout has passed
    since its client was last heard of. -/
def Timely (n : Nat) (g : Watched) : Prop :=
  g.relay.aborted = false → ∀ x, g.relay.sockets[n]? = some x → x.InLoop →
    g.relay.now ≤ g.heard + Relay.idleTimeout

/-- A message has been passed on to the client at the very moment at which it
    was last heard of: the timeout it replaces has not begun to run. -/
def Undisturbed (n : Nat) (g : Watched) (a : Action) : Prop :=
  a = .pushed n true → g.relay.now = g.heard

instance (n : Nat) (g : Watched) (a : Action) : Decidable (Undisturbed n g a) := by
  unfold Undisturbed
  infer_instance

/-- The timeout dates from the last time the client was heard of. -/
def RestInv (n : Nat) (g : Watched) : Prop :=
  g.relay.aborted = false → ∀ x, g.relay.sockets[n]? = some x → x.InLoop →
    x.armed = g.heard ∧ g.relay.now ≤ g.heard + Relay.idleTimeout

end Watched

namespace Relay

variable {env : Env} {s t : Relay} {a : Action}

/-! ### The clock -/

theorem unanswering_now : Unanswering (fun s t => t.now = s.now) where
  refl := fun _ => rfl
  answer := fun _ _ _ => rfl
  maps := fun _ _ h => h

theorem now_of_handled {r : Nat} (h : HandlerStep env s r a t) : t.now = s.now := by
  rcases h with ⟨q, pc, lock, health, _, _, _, ht⟩ | ⟨_, q, c, pc, _, _, _, ht⟩ |
    ⟨_, q, c, x, _, _, _, _, ht⟩ | ⟨_, q, c, code, lock, health, _, _, _, ht⟩ | ht
  · rw [ht]
    rfl
  · rw [ht]
    exact unanswering_now.insertResponse s _ _
  · rw [ht]
    rfl
  · rw [ht]
    exact unanswering_now.removeResponse _ _
  · rw [ht]

/-- Only an `elapse` moves the clock. -/
theorem now_of_step (h : step env s a = some t) (ha : ∀ d, a ≠ .elapse d) : t.now = s.now := by
  cases rule_of_step h with
  | handled _ hstep => exact now_of_handled hstep
  | arrived harr => rw [← Option.some.inj harr]
  | @received n x msg t hx hpc hsame =>
      replace h := act_of_step h
      simp only [act, receive, hx, hpc, if_true] at h
      split at h
      · split at h
        · rw [← Option.some.inj h]
          rfl
        · split at h
          · rw [← Option.some.inj h]
          · rename_i hr
            rw [← Option.some.inj h, unanswering_now.received hr]
            rfl
      · rw [← Option.some.inj h]
        rfl
      · contradiction
      · contradiction
  | elapsed => exact absurd rfl (ha _)
  | _ => rfl

/-! ### The timeout -/

/-- A loop that runs after a step has begun an iteration with it, or it ran
    before and its timeout has stayed. -/
theorem armed_of_step {n : Nat} {z : Socket} (h : step env s a = some t)
    (hab : t.aborted = false) (hz : t.sockets[n]? = some z) (hl : z.InLoop) :
    (a.iterates = some n ∧ z.armed = s.now) ∨
      (a.iterates ≠ some n ∧ ∃ w, s.sockets[n]? = some w ∧ w.InLoop ∧ z.armed = w.armed) := by
  by_cases ha : a.iterates = some n
  · refine Or.inl ⟨ha, ?_⟩
    have hself : ∀ x y : Socket, s.sockets[n]? = some x → t.sockets = s.sockets.set n y →
        z = y := by
      intro x y hx hset
      rw [hset, getElem?_updated hx, Option.some.injEq] at hz
      exact hz.symm
    cases rule_of_step h with
    | enlisted hx | pushed hx =>
        cases ha
        rw [hself _ _ hx rfl]
    | received hx _ hsame =>
        cases ha
        rw [hself _ _ hx hsame.sockets]
    | receivePanicked => simp only [Bool.true_eq_false] at hab
    | @handled _ r _ hr =>
        -- A handler's action is no socket's.
        cases a with
        | enlist | pushed | receive => simp only [Action.handler, reduceCtorEq] at hr
        | _ => simp only [Action.iterates, reduceCtorEq] at ha
    | _ => simp only [Action.iterates, reduceCtorEq] at ha
  · -- No other action of the loop sets its timer.
    refine Or.inr ⟨ha, ?_⟩
    rcases socket_of_step h hz with hsame | ⟨w, hw, hmove⟩ | ⟨id, hnew⟩
    · exact ⟨z, hsame, hl, rfl⟩
    · refine ⟨w, hw, inLoop_before_move hmove hl (fun henlist => ?_), ?_⟩
      · rw [henlist] at ha
        exact ha rfl
      · cases hmove with
        | enlist | pushed | message => exact absurd rfl ha
        | _ => rfl
    · rw [hnew] at hl
      exact absurd hl not_false

end Relay

namespace Watched

open Relay

variable {env : Env} {n : Nat} {g g' : Watched} {a : Action}

theorem step_cases (h : step env n g a = some g') :
    prompt n g.relay a = true ∧ Relay.step env g.relay a = some g'.relay ∧
      g'.heard = if a.hears = some n then g.relay.now else g.heard := by
  unfold step at h
  by_cases hp : prompt n g.relay a
  · rw [if_pos hp, Option.map_eq_some_iff] at h
    rcases h with ⟨t, ht, rfl⟩
    exact ⟨hp, ht, rfl⟩
  · rw [if_neg hp] at h
    simp only [reduceCtorEq] at h

/-- Hearing of the client begins an iteration, and else only a message that
    is passed on does. -/
theorem iterates_cases (h : a.iterates = some n) : a.hears = some n ∨ a = .pushed n true := by
  cases a with
  | enlist m => exact Or.inl h
  | pushed m ok =>
      cases ok with
      | true =>
          cases h
          exact Or.inr rfl
      | false => simp only [Action.iterates, reduceCtorEq] at h
  | receive m r =>
      cases r with
      | message msg => exact Or.inl h
      | _ => simp only [Action.iterates, reduceCtorEq] at h
  | _ => simp only [Action.iterates, reduceCtorEq] at h

theorem iterates_of_hears (h : a.hears = some n) : a.iterates = some n := by
  cases a with
  | enlist m => exact h
  | receive m r =>
      cases r with
      | message msg => exact h
      | _ => simp only [Action.hears, reduceCtorEq] at h
  | _ => simp only [Action.hears, reduceCtorEq] at h

/-- The step lemma of a timeout that is not disturbed. -/
theorem restInv_of_step (hi : RestInv n g) (hok : Undisturbed n g a)
    (h : step env n g a = some g') : RestInv n g' := by
  rcases step_cases h with ⟨hprompt, ht, hheard⟩
  intro hab z hz hl
  rcases armed_of_step ht hab hz hl with ⟨hit, harmed⟩ | ⟨hit, w, hw, hwl, harmed⟩
  · -- The iteration begins now, when the client was heard of.
    have hnow : g'.relay.now = g.relay.now := now_of_step ht (fun d hd => by
      simp only [hd, Action.iterates, reduceCtorEq] at hit)
    have hlast : g'.heard = g.relay.now := by
      rw [hheard]
      rcases iterates_cases hit with hh | hp
      · rw [if_pos hh]
      · rw [hp, if_neg (by simp only [Action.hears, reduceCtorEq, not_false_eq_true]), hok hp]
    rw [harmed, hlast, hnow]
    exact ⟨rfl, Nat.le_add_right _ _⟩
  · have hrun : g.relay.aborted = false := by
      by_contra hab'
      rw [Bool.not_eq_false] at hab'
      simp only [Relay.step, hab', if_true, reduceCtorEq] at ht
    have hlast : g'.heard = g.heard := by
      rw [hheard, if_neg (fun hh => hit (iterates_of_hears hh))]
    have hw_inv := hi hrun w hw hwl
    rw [harmed, hlast]
    refine ⟨hw_inv.1, ?_⟩
    by_cases hel : ∃ d, a = .elapse d
    · -- The clock does not go past the end of the timeout.
      rcases hel with ⟨d, rfl⟩
      have hwait : w.MayWait g.relay.now d := by
        simp only [prompt, hw, decide_eq_true_eq] at hprompt
        exact hprompt
      have hbound := (hwait hwl).2.2
      have hnow : g'.relay.now = g.relay.now + d := by
        rw [← Option.some.inj (act_of_step ht)]
      rw [hnow, ← hw_inv.1]
      exact hbound
    · rw [now_of_step ht (fun d hd => hel ⟨d, hd⟩)]
      exact hw_inv.2

/-- In a run in which a message is passed on to the client only at a moment at
    which it is heard of, its loop does not run for longer than the timeout
    without having heard of it. -/
theorem idle_closed (env : Env) (n : Nat) (g : Watched)
    (h : Reaches (step env n) (Undisturbed n) initial g) : Timely n g := by
  have hinit : RestInv n initial := by
    intro _ x hx
    simp only [initial, Relay.initial, List.getElem?_nil, reduceCtorEq] at hx
  have hinv : RestInv n g :=
    h.invariant (fun _ _ _ hi hok hst => restInv_of_step hi hok hst) hinit
  exact fun hab x hx hl => (hinv hab x hx hl).2

/-- Tunnel `a` registers. -/
def registered : List Action :=
  [.upgrade "a", .first 0 (.message (.text "reg")), .online 0 true, .enlist 0]

/-- A request comes in for tunnel `a` and is passed on to its client. -/
def requested (r : Nat) : List Action :=
  [.arrive (.tunnel "a") "GET" "x" [] [], .list r, .find r "u", .enroll r, .send r, .forward 0,
    .pushed 0 true]

/-- A request at the moment of the registration, and silence from then on. -/
theorem idle_closed_registered : ∃ g, exec (step .oneToken 0) initial
    (registered ++ requested 0 ++ [.elapse idleTimeout]) = some g ∧ Timely 0 g := by
  rcases hrun : exec (step .oneToken 0) initial
    (registered ++ requested 0 ++ [.elapse idleTimeout]) with _ | g
  · exact absurd hrun (by decide)
  · have hr : Reaches (step .oneToken 0) (Undisturbed 0) initial g :=
      reaches_of_legal _ _ _ (by decide) hrun
    exact ⟨g, hrun, idle_closed .oneToken 0 g hr⟩

/-! ### What a message costs -/

section Disturbed

variable {x : Socket}

/-- The socket has got to another place in its loop. -/
def withSocket (g : Watched) (n : Nat) (x : Socket) : Watched :=
  { g with relay := g.relay.setSocket n x }

/-- A message has been passed on, and the next iteration begins. -/
def passedOn (g : Watched) (n : Nat) (x : Socket) : Watched :=
  g.withSocket n { x with pc := .looping, armed := g.relay.now }

theorem getElem?_passedOn (hx : g.relay.sockets[n]? = some x) :
    (g.passedOn n x).relay.sockets[n]? =
      some { x with pc := .looping, armed := g.relay.now } :=
  getElem?_updated hx

theorem step_pushed {msg : ControlMessage} (hab : g.relay.aborted = false)
    (hx : g.relay.sockets[n]? = some x) (hpc : x.pc = .pushing msg) :
    step env n g (.pushed n true) = some (g.passedOn n x) := by
  simp only [step, prompt, if_true, Relay.step, hab, Bool.false_eq_true, if_false, act,
    Relay.pushed, hx, hpc, Option.map_some, Action.hears, reduceCtorEq, passedOn, withSocket]

theorem step_forward {msg : ControlMessage} {rest : List ControlMessage}
    (hab : g.relay.aborted = false) (hx : g.relay.sockets[n]? = some x) (hpc : x.pc = .looping)
    (hq : x.queue = msg :: rest) : step env n g (.forward n) =
      some (g.withSocket n { x with pc := .pushing msg, queue := rest }) := by
  simp only [step, prompt, if_true, Relay.step, hab, Bool.false_eq_true, if_false, act,
    Relay.forward, hx, hpc, hq, Option.map_some, Action.hears, reduceCtorEq, withSocket]

theorem step_elapse {d : Nat} (hab : g.relay.aborted = false)
    (hx : g.relay.sockets[n]? = some x) (hwait : x.MayWait g.relay.now d) :
    step env n g (.elapse d) =
      some { g with relay := { g.relay with now := g.relay.now + d } } := by
  simp only [step, prompt, hx, hwait, decide_true, if_true, Relay.step, hab, Bool.false_eq_true,
    if_false, act, Relay.elapse, Option.map_some, Action.hears, reduceCtorEq]

/-- A message that is passed on when the client has been silent for a time:
    if it stays silent, the loop outlives the silence. What else is in the
    queue is passed on at once. -/
theorem disturbed_overruns (env : Env) (n : Nat) (queue : List ControlMessage) :
    ∀ (g : Watched) (x : Socket) (msg : ControlMessage), g.relay.aborted = false →
      g.relay.sockets[n]? = some x → x.pc = .pushing msg → x.queue = queue →
      g.heard < g.relay.now →
      ∃ as t, exec (step env n) g (.pushed n true :: as) = some t ∧ ¬ Timely n t := by
  induction queue with
  | nil =>
      intro g x msg hab hx hpc hq hlate
      have hx' := getElem?_passedOn hx
      have hwait : ({ x with pc := .looping, armed := g.relay.now } : Socket).MayWait
          g.relay.now idleTimeout := fun _ => ⟨rfl, hq, Nat.le_refl _⟩
      have hrun : exec (step env n) g [.pushed n true, .elapse idleTimeout] = some _ :=
        (exec_cons (step_pushed hab hx hpc)).trans (exec_cons (step_elapse hab hx' hwait))
      refine ⟨_, _, hrun, ?_⟩
      intro htimely
      have hle : g.relay.now + idleTimeout ≤ g.heard + idleTimeout := htimely hab _ hx' trivial
      omega
  | cons next rest ih =>
      intro g x msg hab hx hpc hq hlate
      have hx' := getElem?_passedOn hx
      have hforward : step env n (g.passedOn n x) (.forward n) = some _ :=
        step_forward hab hx' rfl hq
      rcases ih ((g.passedOn n x).withSocket n
        { x with pc := .pushing next, queue := rest, armed := g.relay.now }) _ next hab
        (getElem?_updated hx') rfl rfl hlate with ⟨as, t, ht, hnot⟩
      refine ⟨.forward n :: .pushed n true :: as, t, ?_, hnot⟩
      rw [exec_cons (step_pushed hab hx hpc), exec_cons hforward]
      exact ht

end Disturbed

/-- A message is passed on twenty-nine seconds after the client was last heard
    of, and then there are twenty-nine more. -/
def trafficRun : List Action :=
  registered ++ [.elapse (seconds 29)] ++ requested 0 ++ [.elapse (seconds 29)]

/-- The client has not been heard of for fifty-eight seconds, and the loop
    still runs. -/
theorem traffic_keeps_open :
    ¬ ∀ (env : Env) (n : Nat) (as : List Action) (g : Watched),
      exec (step env n) initial as = some g → Timely n g := by
  intro h
  rcases hrun : exec (step .oneToken 0) initial trafficRun with _ | g
  · exact absurd hrun (by decide)
  · have habort : (exec (step .oneToken 0) initial trafficRun).map (fun g => g.relay.aborted) =
        some false := by decide
    have hclock : (exec (step .oneToken 0) initial trafficRun).map
        (fun g => (g.heard, g.relay.now)) = some (0, seconds 58) := by decide
    have hsocket : (exec (step .oneToken 0) initial trafficRun).bind
        (fun g => g.relay.sockets[0]?.map (fun x => x.pc)) = some .looping := by decide
    rw [hrun, Option.map_some, Option.some.injEq] at habort hclock
    rw [hrun, Option.bind_some, Option.map_eq_some_iff] at hsocket
    rcases hsocket with ⟨x, hx, hpc⟩
    rw [Prod.mk.injEq] at hclock
    have hle := h .oneToken 0 trafficRun g hrun habort x hx (by simp only [Socket.InLoop, hpc])
    rw [hclock.1, hclock.2] at hle
    exact absurd hle (by decide)

end Watched

end Rathole
