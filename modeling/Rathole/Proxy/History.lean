import Rathole.Lib.Trailing
import Rathole.Proxy.Hysteresis

/-!
# The History Behind a Status

`mark_tunnel_success` and `mark_tunnel_failure` keep two counters and the time
of the last change. Each counter counts one of the calls and is reset by the
other, so what it holds is the run of its calls at the end of the history, up
to where it saturates. That is enough to say of every change of the status
which calls led to it.

`last_transition` is also refreshed where the status stays as it is. It only
grows, so the time since the creation of the entry is never less than the time
since `last_transition`, and a change that waits for the one has waited for
the other.

## Main definitions

* `Outcome`: How a proxied request ended, and the call that says so.
* `Marked`: The health of the tunnels, with the calls made for one of them.
* `Summary`: What an entry holds of the history.
* `Justified`: A change of the status is accounted for by the calls.

## Theorems

* `succeed_eq`, `fail_eq`: What a call writes.
* `summary_of_step`: A call keeps the summary.
* `summary_of_exec`: The entry sums up the whole history.
* `mark_of_absent`: The first call creates a fresh entry.
* `status_justified`: Every change along a history is justified.
-/

namespace Rathole

open Transition Trailing

namespace Proxy

/-- How a request through the tunnel ended. -/
inductive Outcome
  | success (latencyMs : Option ℚ)
  | failure
deriving DecidableEq

/-- The call was a success. -/
def Outcome.succeeded : Outcome → Bool
  | .success _ => true
  | .failure => false

/-- The call was a failure. -/
def Outcome.failed : Outcome → Bool
  | .success _ => false
  | .failure => true

/-- What the call does to the entry of its tunnel. -/
def Outcome.apply (now : Nat) (e : TunnelHealth) : Outcome → TunnelHealth
  | .success latencyMs => e.succeed now latencyMs
  | .failure => e.fail now

/-- The call that is made for the outcome. -/
def Outcome.mark (map : TunnelHealthMap) (now : Nat) (id : String) : Outcome → TunnelHealthMap
  | .success latencyMs => markTunnelSuccess map now id latencyMs
  | .failure => markTunnelFailure map now id

/-- A call for the tunnel and when it is made. -/
structure Call where
  time : Nat
  outcome : Outcome
deriving DecidableEq

/-- The health of all tunnels, the time of the last call, and the calls made
    for one tunnel, the latest first. -/
structure Marked where
  health : TunnelHealthMap
  now : Nat
  calls : List Outcome

/-- A tunnel whose entry is created at the time `created`. -/
def Marked.start (map : TunnelHealthMap) (id : String) (created : Nat) : Marked where
  health := map.insert id (TunnelHealth.default created)
  now := created
  calls := []

/-- A call for the tunnel, no earlier than the one before it. -/
def Marked.step (id : String) (s : Marked) (c : Call) : Option Marked :=
  if s.now ≤ c.time then
    some {
      health := c.outcome.mark s.health c.time id
      now := c.time
      calls := c.outcome :: s.calls }
  else none

/-- The status was changed by a call, to `status`. -/
def ChangesTo (id : String) (s t : Marked) (status : HealthStatus) : Prop :=
  statusOf t.health id ≠ statusOf s.health id ∧ statusOf t.health id = some status

/-- What the calls so far say about the change that the last one made. -/
structure Justified (id : String) (created : Nat) (s : Marked) (c : Call) (t : Marked) : Prop where
  critical : ChangesTo id s t .critical → Lasts Outcome.failed warningToCriticalFailures t.calls
  normal : ChangesTo id s t .normal →
    statusOf s.health id = some .warning ∧ Lasts Outcome.succeeded successToNormal t.calls
  warning : ChangesTo id s t .warning →
    statusOf s.health id = some .normal ∧ c.outcome = .failure
  stays : statusOf s.health id = some .critical → statusOf t.health id = some .critical
  settled : statusOf t.health id ≠ statusOf s.health id → created + hysteresisDuration ≤ c.time

/-- `u32::MAX`, where the counters saturate. -/
def counterMax : Nat := 2 ^ 32 - 1

/-- What an entry holds of the calls since its creation. -/
structure Summary (created now : Nat) (calls : List Outcome) (e : TunnelHealth) : Prop where
  failures : e.consecutiveFailures = count Outcome.failed counterMax calls
  successes : e.consecutiveSuccesses = count Outcome.succeeded counterMax calls
  created_le : created ≤ e.lastTransition
  le_now : e.lastTransition ≤ now

variable {e : TunnelHealth} {now created : Nat} {calls : List Outcome} {latencyMs : Option ℚ}
  {id : String} {map : TunnelHealthMap} {s t : Marked} {c : Call}

/-! ### What a call does to an entry -/

/-- A success writes the same fields in the same way whatever becomes of the
    status. -/
theorem succeed_eq (e : TunnelHealth) (now : Nat) (latencyMs : Option ℚ) :
    ∃ status lastTransition, e.succeed now latencyMs = {
      status := status
      lastUpdate := now
      lastSuccess := some now
      lastFailure := e.lastFailure
      consecutiveSuccesses := saturatingSucc e.consecutiveSuccesses
      consecutiveFailures := 0
      avgLatencyMs := match latencyMs with
        | some lat => some (match e.avgLatencyMs with
          | some prev => prev * (8 / 10) + lat * (2 / 10)
          | none => lat)
        | none => e.avgLatencyMs
      errorRate := max (e.errorRate * (9 / 10)) 0
      lastTransition := lastTransition } := by
  unfold TunnelHealth.succeed
  by_cases h : e.status = .warning ∧ successToNormal ≤ saturatingSucc e.consecutiveSuccesses ∧
      hysteresisDuration ≤ now - e.lastTransition
  · exact ⟨.normal, now, if_pos h⟩
  · exact ⟨e.status, e.lastTransition, if_neg h⟩

theorem succeed_counters :
    (e.succeed now latencyMs).consecutiveSuccesses = saturatingSucc e.consecutiveSuccesses ∧
      (e.succeed now latencyMs).consecutiveFailures = 0 := by
  rcases succeed_eq e now latencyMs with ⟨status, lastTransition, h⟩
  rw [h]
  exact ⟨rfl, rfl⟩

theorem succeed_status (h : e.Recovers now) : (e.succeed now latencyMs).status = .normal := by
  unfold TunnelHealth.Recovers at h
  simp only [TunnelHealth.succeed, if_pos h]

/-- A failure writes the same fields in the same way whatever becomes of the
    status. -/
theorem fail_eq (e : TunnelHealth) (now : Nat) :
    ∃ status lastTransition, e.fail now = {
      status := status
      lastUpdate := now
      lastSuccess := e.lastSuccess
      lastFailure := some now
      consecutiveSuccesses := 0
      consecutiveFailures := saturatingSucc e.consecutiveFailures
      avgLatencyMs := e.avgLatencyMs
      errorRate := e.errorRate * (8 / 10) + 2 / 10
      lastTransition := lastTransition } := by
  unfold TunnelHealth.fail
  by_cases hmany : warningToCriticalFailures ≤ saturatingSucc e.consecutiveFailures
  · by_cases hlate : hysteresisDuration ≤ now - e.lastTransition
    · exact ⟨.critical, now, by simp only [if_pos hmany, if_pos hlate]⟩
    · exact ⟨e.status, e.lastTransition, by simp only [if_pos hmany, if_neg hlate]⟩
  · by_cases hlate : e.status ≠ .critical ∧ hysteresisDuration ≤ now - e.lastTransition
    · exact ⟨.warning, now, by simp only [if_neg hmany, if_pos hlate]⟩
    · exact ⟨e.status, e.lastTransition, by simp only [if_neg hmany, if_neg hlate]⟩

theorem fail_counters :
    (e.fail now).consecutiveFailures = saturatingSucc e.consecutiveFailures ∧
      (e.fail now).consecutiveSuccesses = 0 := by
  rcases fail_eq e now with ⟨status, lastTransition, h⟩
  rw [h]
  exact ⟨rfl, rfl⟩

theorem fail_status (h : e.Worsens now) : (e.fail now).status =
    if warningToCriticalFailures ≤ saturatingSucc e.consecutiveFailures then .critical
    else .warning := by
  rcases h with ⟨hlate, hstatus⟩
  unfold TunnelHealth.fail
  by_cases hmany : warningToCriticalFailures ≤ saturatingSucc e.consecutiveFailures
  · simp only [if_pos hmany, if_pos hlate]
  · rw [if_neg hmany] at hstatus
    have hnot : e.status ≠ .critical ∧ hysteresisDuration ≤ now - e.lastTransition :=
      ⟨by rw [hstatus]; simp only [ne_eq, reduceCtorEq, not_false_eq_true], hlate⟩
    simp only [if_neg hmany, if_pos hnot]

/-- A call changes the entry of its tunnel as `apply` says. -/
theorem lookup_mark (h : map.lookup id = some e) (now : Nat) (o : Outcome) :
    (o.mark map now id).lookup id = some (o.apply now e) := by
  cases o with
  | success latencyMs => exact lookup_updateEntry h now _
  | failure => exact lookup_updateEntry h now _

/-- A tunnel without an entry is treated as if its entry had been created
    before the call. -/
theorem mark_of_absent (h : map.lookup id = none) (now : Nat) (o : Outcome) :
    o.mark map now id = o.mark (map.insert id (TunnelHealth.default now)) now id := by
  have hupdate : ∀ f, updateEntry map now id f =
      updateEntry (map.insert id (TunnelHealth.default now)) now id f := by
    intro f
    rw [updateEntry, updateEntry, h, AList.lookup_insert, AList.insert_insert]
    rfl
  cases o with
  | success latencyMs => exact hupdate (fun e => e.succeed now latencyMs)
  | failure => exact hupdate (fun e => e.fail now)

/-! ### What an entry holds -/

theorem saturatingSucc_eq (n : Nat) : saturatingSucc n = min (n + 1) counterMax := rfl

/-- A call is counted by its own counter and resets the other. -/
theorem counters_apply
    (hfailures : e.consecutiveFailures = count Outcome.failed counterMax calls)
    (hsuccesses : e.consecutiveSuccesses = count Outcome.succeeded counterMax calls)
    (time : Nat) (o : Outcome) :
    (o.apply time e).consecutiveFailures = count Outcome.failed counterMax (o :: calls) ∧
      (o.apply time e).consecutiveSuccesses =
        count Outcome.succeeded counterMax (o :: calls) := by
  cases o with
  | success latencyMs =>
      rw [Outcome.apply, succeed_counters.1, succeed_counters.2, saturatingSucc_eq, hsuccesses,
        count_cons_neg Bool.false_ne_true, count_cons_pos rfl]
      exact ⟨rfl, rfl⟩
  | failure =>
      rw [Outcome.apply, fail_counters.1, fail_counters.2, saturatingSucc_eq, hfailures,
        count_cons_pos rfl, count_cons_neg Bool.false_ne_true]
      exact ⟨rfl, rfl⟩

/-- `last_transition` stays between the creation and the call. -/
theorem summary_apply (hs : Summary created now calls e) {time : Nat} (hle : now ≤ time)
    (o : Outcome) : Summary created time (o :: calls) (o.apply time e) := by
  have htime := Nat.le_trans hs.le_now hle
  rcases counters_apply hs.failures hs.successes time o with ⟨hfailures, hsuccesses⟩
  have hmono : e.lastTransition ≤ (o.apply time e).lastTransition ∧
      (o.apply time e).lastTransition ≤ time := by
    cases o with
    | success latencyMs => exact (guarded_succeed htime latencyMs).mono
    | failure => exact (guarded_fail htime).mono
  exact ⟨hfailures, hsuccesses, Nat.le_trans hs.created_le hmono.1, hmono.2⟩

/-- The tunnel has an entry, and the entry sums up the calls. -/
def Marked.Summed (id : String) (created : Nat) (s : Marked) : Prop :=
  ∃ e, s.health.lookup id = some e ∧ Summary created s.now s.calls e

theorem step_cases (h : s.step id c = some t) :
    s.now ≤ c.time ∧ t.health = c.outcome.mark s.health c.time id ∧ t.now = c.time ∧
      t.calls = c.outcome :: s.calls := by
  unfold Marked.step at h
  by_cases hle : s.now ≤ c.time
  · rw [if_pos hle, Option.some.injEq] at h
    subst h
    exact ⟨hle, rfl, rfl, rfl⟩
  · simp only [if_neg hle, reduceCtorEq] at h

/-- The step lemma. -/
theorem summary_of_step (hs : s.Summed id created) (h : s.step id c = some t) :
    t.Summed id created := by
  rcases hs with ⟨e, he, hsum⟩
  rcases step_cases h with ⟨hle, hhealth, hnow, hcalls⟩
  refine ⟨c.outcome.apply c.time e, ?_, ?_⟩
  · rw [hhealth]
    exact lookup_mark he c.time c.outcome
  · rw [hnow, hcalls]
    exact summary_apply hsum hle c.outcome

theorem summed_start (map : TunnelHealthMap) (id : String) (created : Nat) :
    (Marked.start map id created).Summed id created :=
  ⟨TunnelHealth.default created, AList.lookup_insert _, ⟨rfl, rfl, Nat.le_refl _, Nat.le_refl _⟩⟩

theorem summary_of_exec (history : List Call)
    (h : exec (Marked.step id) (Marked.start map id created) history = some s) :
    s.Summed id created :=
  (reaches_of_exec history _ _ h).invariant (fun _ _ _ hs _ hstep => summary_of_step hs hstep)
    (summed_start map id created)

/-! ### Changes of the status -/

/-- The ways in which a call changes the status. -/
inductive Turn (e e' : TunnelHealth) : Outcome → Prop
  | critical (hold : e.status ≠ .critical) (hnew : e'.status = .critical)
      (hmany : warningToCriticalFailures ≤ e'.consecutiveFailures) : Turn e e' .failure
  | warning (hold : e.status = .normal) (hnew : e'.status = .warning) : Turn e e' .failure
  | normal (latencyMs : Option ℚ) (hold : e.status = .warning) (hnew : e'.status = .normal)
      (hmany : successToNormal ≤ e'.consecutiveSuccesses) : Turn e e' (.success latencyMs)

theorem turn_of_change (hle : e.lastTransition ≤ now) {o : Outcome}
    (h : (o.apply now e).status ≠ e.status) :
    Turn e (o.apply now e) o ∧ e.lastTransition + hysteresisDuration ≤ now := by
  cases o with
  | success latencyMs =>
      have hg := guarded_succeed hle latencyMs
      have hrec := hg.status.mp h
      refine ⟨.normal latencyMs hrec.1 (succeed_status hrec) ?_, hg.waited hrec⟩
      rw [Outcome.apply, succeed_counters.1]
      exact hrec.2.1
  | failure =>
      have hg := guarded_fail hle
      have hworse := hg.status.mp h
      have hstatus := fail_status hworse
      refine ⟨?_, hg.waited hworse⟩
      by_cases hmany : warningToCriticalFailures ≤ saturatingSucc e.consecutiveFailures
      · rw [if_pos hmany] at hstatus
        refine .critical ?_ hstatus ?_
        · rw [← hstatus]
          exact h.symm
        · rw [Outcome.apply, fail_counters.1]
          exact hmany
      · rw [if_neg hmany] at hstatus
        have hold := hworse.2
        rw [if_neg hmany] at hold
        exact .warning hold hstatus

/-- The counters tell how many of the last calls failed or succeeded. -/
theorem lasts_failed (hs : Summary created now calls e)
    (h : warningToCriticalFailures ≤ e.consecutiveFailures) :
    Lasts Outcome.failed warningToCriticalFailures calls := by
  rw [hs.failures] at h
  exact (le_count_iff (by decide) calls).mp h

theorem lasts_succeeded (hs : Summary created now calls e)
    (h : successToNormal ≤ e.consecutiveSuccesses) :
    Lasts Outcome.succeeded successToNormal calls := by
  rw [hs.successes] at h
  exact (le_count_iff (by decide) calls).mp h

/-- Without a change there is nothing to justify. -/
theorem justified_of_same (h : statusOf t.health id = statusOf s.health id) :
    Justified id created s c t where
  critical hch := absurd h hch.1
  normal hch := absurd h hch.1
  warning hch := absurd h hch.1
  stays hst := h.trans hst
  settled hne := absurd h hne

theorem ChangesTo.status_eq {status status' : HealthStatus} (h : ChangesTo id s t status)
    (hnew : statusOf t.health id = some status') : status = status' := by
  rw [h.2, Option.some.injEq] at hnew
  exact hnew

/-- A turn leads to one status, for which there is one thing to justify. -/
theorem justified_of_turn {e' : TunnelHealth} {o : Outcome} (ho : c.outcome = o)
    (hold : statusOf s.health id = some e.status) (hnew : statusOf t.health id = some e'.status)
    (hsum : Summary created now t.calls e') (hturn : Turn e e' o)
    (hsettled : created + hysteresisDuration ≤ c.time) : Justified id created s c t := by
  cases hturn with
  | critical hold' hnew' hmany =>
      rw [hnew'] at hnew
      refine ⟨fun _ => lasts_failed hsum hmany, ?_, ?_, fun _ => hnew, fun _ => hsettled⟩
      · intro h
        exact absurd (h.status_eq hnew) (by simp only [reduceCtorEq, not_false_eq_true])
      · intro h
        exact absurd (h.status_eq hnew) (by simp only [reduceCtorEq, not_false_eq_true])
  | warning hold' hnew' =>
      rw [hnew'] at hnew
      rw [hold'] at hold
      refine ⟨?_, ?_, fun _ => ⟨hold, ho⟩, ?_, fun _ => hsettled⟩
      · intro h
        exact absurd (h.status_eq hnew) (by simp only [reduceCtorEq, not_false_eq_true])
      · intro h
        exact absurd (h.status_eq hnew) (by simp only [reduceCtorEq, not_false_eq_true])
      · -- It was not critical before.
        intro h
        simp only [hold, Option.some.injEq, reduceCtorEq] at h
  | normal latencyMs hold' hnew' hmany =>
      rw [hnew'] at hnew
      rw [hold'] at hold
      refine ⟨?_, fun _ => ⟨hold, lasts_succeeded hsum hmany⟩, ?_, ?_, fun _ => hsettled⟩
      · intro h
        exact absurd (h.status_eq hnew) (by simp only [reduceCtorEq, not_false_eq_true])
      · intro h
        exact absurd (h.status_eq hnew) (by simp only [reduceCtorEq, not_false_eq_true])
      · intro h
        simp only [hold, Option.some.injEq, reduceCtorEq] at h

/-- Along every history of calls from a fresh entry on, a call that changes
    the status is justified by the calls up to and with it. -/
theorem status_justified (id : String) (map : TunnelHealthMap) (created : Nat)
    (history : List Call) (s t : Marked) (c : Call)
    (hexec : exec (Marked.step id) (Marked.start map id created) history = some s)
    (hstep : s.step id c = some t) : Justified id created s c t := by
  rcases summary_of_exec history hexec with ⟨e, he, hsum⟩
  rcases step_cases hstep with ⟨hle, hhealth, _, hcalls⟩
  have hlookup := lookup_mark he c.time c.outcome
  have hafter := summary_apply hsum hle c.outcome
  rw [← hhealth] at hlookup
  rw [← hcalls] at hafter
  have hold : statusOf s.health id = some e.status := by rw [statusOf, he]; rfl
  have hnew : statusOf t.health id = some (c.outcome.apply c.time e).status := by
    rw [statusOf, hlookup]; rfl
  by_cases hch : (c.outcome.apply c.time e).status = e.status
  · exact justified_of_same (by rw [hold, hnew, hch])
  · rcases turn_of_change (Nat.le_trans hsum.le_now hle) hch with ⟨hturn, hwaited⟩
    -- `last_transition` is no earlier than the creation.
    have hsettled := Nat.le_trans (Nat.add_le_add_right hsum.created_le hysteresisDuration) hwaited
    exact justified_of_turn rfl hold hnew hafter hturn hsettled

/-- Four failures within ten seconds of the creation. -/
def fourFailures : List Call :=
  [⟨seconds 1, .failure⟩, ⟨seconds 2, .failure⟩, ⟨seconds 3, .failure⟩, ⟨seconds 4, .failure⟩]

/-- The fifth failure comes late enough, and makes the tunnel critical. -/
theorem fifth_failure_justified : ∃ s t,
    exec (Marked.step "app") (Marked.start ∅ "app" 0) fourFailures = some s ∧
      s.step "app" ⟨seconds 10, .failure⟩ = some t ∧ ChangesTo "app" s t .critical ∧
      Justified "app" 0 s ⟨seconds 10, .failure⟩ t := by
  have hstatus : (exec (Marked.step "app") (Marked.start ∅ "app" 0) fourFailures).bind
      (fun s => (s.step "app" ⟨seconds 10, .failure⟩).map
        (fun t => (statusOf s.health "app", statusOf t.health "app"))) =
      some (some .normal, some .critical) := by decide +kernel
  rcases hs : exec (Marked.step "app") (Marked.start ∅ "app" 0) fourFailures with _ | s
  · rw [hs] at hstatus
    simp only [Option.bind_none, reduceCtorEq] at hstatus
  · rcases ht : s.step "app" ⟨seconds 10, .failure⟩ with _ | t
    · simp only [hs, ht, Option.bind_some, Option.map_none, reduceCtorEq] at hstatus
    · simp only [hs, ht, Option.bind_some, Option.map_some, Option.some.injEq, Prod.mk.injEq]
        at hstatus
      refine ⟨s, t, rfl, ht, ⟨?_, hstatus.2⟩, status_justified "app" ∅ 0 fourFailures s t _ hs ht⟩
      rw [hstatus.1, hstatus.2]
      simp only [ne_eq, Option.some.injEq, reduceCtorEq, not_false_eq_true]

end Proxy

end Rathole
