import Mathlib.Data.List.Chain
import Rathole.Lib.Transition
import Rathole.Proxy.Health

/-!
# Hysteresis of a Tunnel's Status

A tunnel's status over a history of successes, failures and health updates.
`mark_tunnel_success` and `mark_tunnel_failure` change it only if
`last_transition` is `HYSTERESIS_DURATION` ago, and set `last_transition` when
they do. A health update writes the status without a look at
`last_transition`, and leaves it as it was. So its change may come too soon
after another one, and another one too soon after its change.

## Main definitions

* `HealthEvent`: What happens to a tunnel.
* `Watched`: Its health, with the times of all changes of its status.
* `Spaced`: Successive changes are `HYSTERESIS_DURATION` apart.
* `TunnelHealth.Recovers`, `TunnelHealth.Worsens`: The tests of a success and
  of a failure are passed.
* `Restrained`: The events that come late enough.

## Theorems

* `guarded_succeed`, `guarded_fail`: What a success and a failure do.
* `spaced_throughout_iff`: When all changes are spaced.
* `update_after_failure`: A history in which they are not.
-/

namespace Rathole

open Transition

namespace Proxy

/-- What happens to a tunnel: a proxied request succeeds or fails, its client
    sends a `HealthUpdate`, or time passes. -/
inductive HealthEvent
  | success (latencyMs : Option ℚ)
  | failure
  | update (d : HardwareData)
  | elapse (d : Nat)
deriving DecidableEq

/-- A change of the status: when, and whether a health update made it. -/
structure Change where
  time : Nat
  reported : Bool
deriving DecidableEq, Repr

/-- The health of all tunnels, the time, and the changes of one tunnel's
    status, the latest first. -/
structure Watched where
  health : TunnelHealthMap
  now : Nat
  changes : List Change

/-- The status of a tunnel. -/
def statusOf (map : TunnelHealthMap) (id : String) : Option HealthStatus :=
  (map.lookup id).map TunnelHealth.status

/-- A tunnel with a fresh `TunnelHealth`. -/
def Watched.start (map : TunnelHealthMap) (id : String) (now : Nat) : Watched where
  health := map.insert id (TunnelHealth.default now)
  now := now
  changes := []

/-- The health is written; a change of the status is noted. -/
def Watched.write (s : Watched) (id : String) (health : TunnelHealthMap) (reported : Bool) :
    Watched :=
  { s with
    health := health
    changes :=
      if statusOf health id = statusOf s.health id then s.changes
      else { time := s.now, reported := reported } :: s.changes }

/-- One event for the tunnel `id`. A report that cannot be classified is a
    panic. -/
def Watched.step (overflowChecks : Bool) (id : String) (s : Watched) :
    HealthEvent → Option Watched
  | .success latencyMs => some (s.write id (markTunnelSuccess s.health s.now id latencyMs) false)
  | .failure => some (s.write id (markTunnelFailure s.health s.now id) false)
  | .update d => match handleHardwareData binary32 overflowChecks d 85 with
    | none => none
    | some status => some (s.write id (healthUpdate s.health s.now id status) true)
  | .elapse d => some { s with now := s.now + d }

/-- Successive changes are `HYSTERESIS_DURATION` apart. -/
def Spaced (s : Watched) : Prop :=
  s.changes.IsChain (fun later earlier => earlier.time + hysteresisDuration ≤ later.time)

/-- A success now passes the tests for a change. -/
def TunnelHealth.Recovers (e : TunnelHealth) (now : Nat) : Prop :=
  e.status = .warning ∧ successToNormal ≤ saturatingSucc e.consecutiveSuccesses ∧
    hysteresisDuration ≤ now - e.lastTransition

/-- A failure now passes the tests for a change. -/
def TunnelHealth.Worsens (e : TunnelHealth) (now : Nat) : Prop :=
  hysteresisDuration ≤ now - e.lastTransition ∧
    if warningToCriticalFailures ≤ saturatingSucc e.consecutiveFailures then e.status ≠ .critical
    else e.status = .normal

/-- The last change is `HYSTERESIS_DURATION` ago, if there was one of the
    kind. -/
def Watched.Settled (s : Watched) (kind : Change → Prop) : Prop :=
  ∀ c, s.changes.head? = some c → kind c → c.time + hysteresisDuration ≤ s.now

/-- A health update that is classified otherwise than the tunnel's status
    comes late enough after the last change, and a success or a failure that
    passes its tests comes late enough after a change that a health update
    made. -/
def Restrained (overflowChecks : Bool) (id : String) (s : Watched) : HealthEvent → Prop
  | .update d => ∀ e status, s.health.lookup id = some e →
      handleHardwareData binary32 overflowChecks d 85 = some status → status ≠ e.status →
      s.Settled (fun _ => True)
  | .success _ => ∀ e, s.health.lookup id = some e → e.Recovers s.now →
      s.Settled (fun c => c.reported = true)
  | .failure => ∀ e, s.health.lookup id = some e → e.Worsens s.now →
      s.Settled (fun c => c.reported = true)
  | .elapse _ => True

/-- What a success or a failure makes of an entry: a change waits for
    `last_transition`, and sets it. -/
structure TunnelHealth.Guarded (now : Nat) (changes : Prop) (e e' : TunnelHealth) : Prop where
  status : e'.status ≠ e.status ↔ changes
  waited : changes → e.lastTransition + hysteresisDuration ≤ now
  noted : changes → e'.lastTransition = now
  mono : e.lastTransition ≤ e'.lastTransition ∧ e'.lastTransition ≤ now

variable {e : TunnelHealth} {now : Nat}

theorem hysteresis_pos : 0 < hysteresisDuration := by decide

theorem guarded_succeed (hle : e.lastTransition ≤ now) (latencyMs : Option ℚ) :
    e.Guarded now (e.Recovers now) (e.succeed now latencyMs) := by
  have hpos := hysteresis_pos
  unfold TunnelHealth.succeed TunnelHealth.Recovers
  by_cases h : e.status = .warning ∧ successToNormal ≤ saturatingSucc e.consecutiveSuccesses ∧
      hysteresisDuration ≤ now - e.lastTransition
  · simp only [if_pos h]
    refine ⟨?_, fun _ => by omega, fun _ => rfl, hle, Nat.le_refl _⟩
    simp only [h, ne_eq, reduceCtorEq, not_false_eq_true, and_self]
  · simp only [if_neg h]
    exact ⟨⟨fun hne => absurd rfl hne, fun hc => absurd hc h⟩, fun hc => absurd hc h,
      fun hc => absurd hc h, Nat.le_refl _, hle⟩

theorem guarded_fail (hle : e.lastTransition ≤ now) :
    e.Guarded now (e.Worsens now) (e.fail now) := by
  have hpos := hysteresis_pos
  unfold TunnelHealth.fail TunnelHealth.Worsens
  by_cases hmany : warningToCriticalFailures ≤ saturatingSucc e.consecutiveFailures
  · simp only [if_pos hmany]
    by_cases hlate : hysteresisDuration ≤ now - e.lastTransition
    · simp only [if_pos hlate]
      refine ⟨?_, fun _ => by omega, fun _ => rfl, hle, Nat.le_refl _⟩
      simp only [hlate, ne_eq, true_and, eq_comm]
    · simp only [if_neg hlate]
      exact ⟨⟨fun hne => absurd rfl hne, fun hc => absurd hc.1 hlate⟩,
        fun hc => absurd hc.1 hlate, fun hc => absurd hc.1 hlate, Nat.le_refl _, hle⟩
  · simp only [if_neg hmany]
    by_cases hlate : e.status ≠ .critical ∧ hysteresisDuration ≤ now - e.lastTransition
    · simp only [if_pos hlate]
      refine ⟨?_, fun _ => by omega, fun _ => rfl, hle, Nat.le_refl _⟩
      have hnot := hlate.1
      cases hs : e.status with
      | critical => exact absurd hs hnot
      | normal => simp only [hlate.2, ne_eq, reduceCtorEq, not_false_eq_true, and_self]
      | warning => simp only [ne_eq, not_true_eq_false, reduceCtorEq, and_false]
    · simp only [if_neg hlate]
      have hno : ¬ (hysteresisDuration ≤ now - e.lastTransition ∧ e.status = .normal) := by
        rintro ⟨hl, hs⟩
        exact hlate ⟨by rw [hs]; simp only [ne_eq, reduceCtorEq, not_false_eq_true], hl⟩
      exact ⟨⟨fun hne => absurd rfl hne, fun hc => absurd hc hno⟩, fun hc => absurd hc hno,
        fun hc => absurd hc hno, Nat.le_refl _, hle⟩

/-! ### What one event does -/

variable {s t : Watched} {id : String} {overflowChecks : Bool} {a : HealthEvent}

/-- The tunnel has an entry, and `last_transition` is no earlier than a change
    that a success or a failure made. -/
def Watched.Sound (id : String) (s : Watched) : Prop :=
  ∃ e, s.health.lookup id = some e ∧ e.lastTransition ≤ s.now ∧
    ∀ c, s.changes.head? = some c → c.reported = false → c.time ≤ e.lastTransition

theorem lookup_updateEntry {map : TunnelHealthMap} (h : map.lookup id = some e) (now : Nat)
    (f : TunnelHealth → TunnelHealth) : (updateEntry map now id f).lookup id = some (f e) := by
  rw [updateEntry, AList.lookup_insert, h, Option.getD_some]

/-- A change is noted if there was one. -/
theorem changes_write {health : TunnelHealthMap} {e' : TunnelHealth}
    (h : s.health.lookup id = some e) (h' : health.lookup id = some e') (reported : Bool) :
    (s.write id health reported).changes =
      if e'.status = e.status then s.changes
      else { time := s.now, reported := reported } :: s.changes := by
  simp only [Watched.write, statusOf, h, h', Option.map_some, Option.some.injEq]

/-- A success or a failure leaves the tunnel sound. If the changes were spaced
    they still are, unless its own tests are passed too soon after a health
    update made a change. -/
theorem write_guarded {health : TunnelHealthMap} {e' : TunnelHealth} {changes : Prop}
    (hs : s.Sound id) (h : s.health.lookup id = some e) (h' : health.lookup id = some e')
    (hg : e.Guarded s.now changes e') :
    (s.write id health false).Sound id ∧
      (Spaced s → (Spaced (s.write id health false) ↔
        (changes → s.Settled (fun c => c.reported = true)))) := by
  rcases hs with ⟨e₀, he₀, hle, hnoted⟩
  rw [h, Option.some.injEq] at he₀
  subst he₀
  have hchanges := changes_write h h' false
  by_cases hch : changes
  · rw [if_neg (hg.status.mpr hch)] at hchanges
    refine ⟨⟨e', h', hg.mono.2, ?_⟩, fun hspaced => ?_⟩
    · intro c hc _
      rw [hchanges, List.head?_cons, Option.some.injEq] at hc
      rw [← hc, hg.noted hch]
    · rw [Spaced, hchanges, List.isChain_cons]
      have hwaited := hg.waited hch
      constructor
      · intro hnew _ c hc _
        exact hnew.1 c hc
      · intro hsettled
        refine ⟨fun c hc => ?_, hspaced⟩
        cases hr : c.reported with
        | true => exact hsettled hch c hc hr
        | false =>
            -- A change of its own kind is what `last_transition` was set by.
            have hold := hnoted c hc hr
            show c.time + hysteresisDuration ≤ s.now
            omega
  · have hsame : e'.status = e.status := by
      by_contra hne
      exact hch (hg.status.mp hne)
    rw [if_pos hsame] at hchanges
    refine ⟨⟨e', h', hg.mono.2, ?_⟩, fun hspaced => ?_⟩
    · intro c hc hr
      rw [hchanges] at hc
      exact Nat.le_trans (hnoted c hc hr) hg.mono.1
    · rw [Spaced, hchanges]
      exact ⟨fun _ hc => absurd hc hch, fun _ => hspaced⟩

/-- A health update leaves it sound. Changes stay spaced, unless its own comes
    too soon after another. -/
theorem write_reported {health : TunnelHealthMap} {status : HealthStatus}
    (hs : s.Sound id) (h : s.health.lookup id = some e)
    (h' : health.lookup id = some { e with status := status, lastUpdate := s.now }) :
    (s.write id health true).Sound id ∧
      (Spaced s → (Spaced (s.write id health true) ↔
        (status ≠ e.status → s.Settled (fun _ => True)))) := by
  rcases hs with ⟨e₀, he₀, hle, hnoted⟩
  rw [h, Option.some.injEq] at he₀
  subst he₀
  have hchanges := changes_write h h' true
  by_cases hch : status = e.status
  · rw [if_pos hch] at hchanges
    refine ⟨⟨_, h', hle, fun c hc hr => ?_⟩, fun hspaced => ?_⟩
    · rw [hchanges] at hc
      exact hnoted c hc hr
    · rw [Spaced, hchanges]
      exact ⟨fun _ hne => absurd hch hne, fun _ => hspaced⟩
  · rw [if_neg hch] at hchanges
    refine ⟨⟨_, h', hle, fun c hc hr => ?_⟩, fun hspaced => ?_⟩
    · rw [hchanges, List.head?_cons, Option.some.injEq] at hc
      rw [← hc] at hr
      exact absurd hr (by simp only [Bool.true_eq_false, not_false_eq_true])
    · rw [Spaced, hchanges, List.isChain_cons]
      exact ⟨fun hnew _ c hc _ => hnew.1 c hc,
        fun hsettled => ⟨fun c hc => hsettled hch c hc trivial, hspaced⟩⟩

/-- The step lemma. -/
theorem sound_of_step (hs : s.Sound id) (h : s.step overflowChecks id a = some t) :
    t.Sound id ∧ (Spaced s → (Spaced t ↔ Restrained overflowChecks id s a)) := by
  rcases hs with ⟨e, he, hle, hnoted⟩
  have hs : s.Sound id := ⟨e, he, hle, hnoted⟩
  cases a with
  | success latencyMs =>
      rw [← Option.some.inj h]
      have hw := write_guarded hs he
        (lookup_updateEntry he s.now (fun e => e.succeed s.now latencyMs))
        (guarded_succeed hle latencyMs)
      refine ⟨hw.1, fun hspaced => (hw.2 hspaced).trans ?_⟩
      simp only [Restrained, he, Option.some.injEq, forall_eq']
  | failure =>
      rw [← Option.some.inj h]
      have hw := write_guarded hs he (lookup_updateEntry he s.now (fun e => e.fail s.now))
        (guarded_fail hle)
      refine ⟨hw.1, fun hspaced => (hw.2 hspaced).trans ?_⟩
      simp only [Restrained, he, Option.some.injEq, forall_eq']
  | update d =>
      cases hd : handleHardwareData binary32 overflowChecks d 85 with
      | none => simp only [Watched.step, hd, reduceCtorEq] at h
      | some status =>
          simp only [Watched.step, hd, Option.some.injEq] at h
          rw [← h]
          have hl := lookup_updateEntry he s.now
            (fun e => { e with status := status, lastUpdate := s.now })
          have hw := write_reported hs he hl
          refine ⟨hw.1, fun hspaced => (hw.2 hspaced).trans ?_⟩
          constructor
          · intro hsettled e' status' he' hd' hne
            rw [he, Option.some.injEq] at he'
            rw [hd, Option.some.injEq] at hd'
            exact hsettled (by rw [he', hd']; exact hne)
          · intro hall
            exact hall e status he hd
  | elapse d =>
      rw [← Option.some.inj h]
      exact ⟨⟨e, he, Nat.le_trans hle (Nat.le_add_right _ _), hnoted⟩,
        fun hspaced => ⟨fun _ => trivial, fun _ => hspaced⟩⟩

/-! ### Whole histories -/

theorem sound_start (map : TunnelHealthMap) (id : String) (now : Nat) :
    (Watched.start map id now).Sound id := by
  refine ⟨TunnelHealth.default now, AList.lookup_insert _, Nat.le_refl _, fun c hc => ?_⟩
  simp only [Watched.start, List.head?_nil, reduceCtorEq] at hc

/-- From a fresh entry on, in every state of a history successive changes of
    the status are `HYSTERESIS_DURATION` apart, exactly if every event of it
    is restrained. -/
theorem spaced_throughout_iff (overflowChecks : Bool) (map : TunnelHealthMap) (id : String)
    (now : Nat) (events : List HealthEvent) :
    Throughout (Watched.step overflowChecks id) Spaced (Watched.start map id now) events ↔
      Legal (Watched.step overflowChecks id) (Restrained overflowChecks id)
        (Watched.start map id now) events := by
  have hsound : ∀ (w : Watched) (e : HealthEvent) (v : Watched),
      w.Sound id → Watched.step overflowChecks id w e = some v → v.Sound id :=
    fun _ _ _ hs h => (sound_of_step hs h).1
  exact throughout_iff_legal hsound (fun _ _ _ hs hp h => (sound_of_step hs h).2 hp) events _
    (sound_start map id now) List.IsChain.nil

/-- A machine with nothing to do. -/
def idleMachine : HardwareData where
  operatingSystem := "Linux"
  avgMemoryUsage := 50
  totalMemory := 8
  usedMemory := 4
  avgSwapUsage := 50
  totalSwap := 4
  usedSwap := 1
  cpuUsage := 1 / 2
  temperaturesData := { avgTemp := none, maxTemp := none }
  timestamp := ""

/-- A failure after ten seconds makes the tunnel `Warning`, and a health
    update two seconds later makes it `Normal`. -/
def soonBetter : List HealthEvent :=
  [.elapse (seconds 10), .failure, .elapse (seconds 2), .update idleMachine]

/-- The two changes are two seconds apart. -/
theorem update_after_failure :
    ¬ ∀ (overflowChecks : Bool) (map : TunnelHealthMap) (id : String) (now : Nat)
      (events : List HealthEvent) (s : Watched),
      exec (Watched.step overflowChecks id) (Watched.start map id now) events = some s →
        Spaced s := by
  intro h
  rcases hrun : exec (Watched.step false "app") (Watched.start ∅ "app" 0) soonBetter with _ | s
  · exact absurd hrun (by decide +kernel)
  · have hchanges : (exec (Watched.step false "app") (Watched.start ∅ "app" 0) soonBetter).map
        (fun s => s.changes.map Change.time) = some [seconds 12, seconds 10] := by decide +kernel
    have hspaced := h false ∅ "app" 0 soonBetter s hrun
    rw [hrun, Option.map_some, Option.some.injEq] at hchanges
    rcases hl : s.changes with _ | ⟨c, _ | ⟨c', l⟩⟩
    · simp only [hl, List.map_nil, reduceCtorEq] at hchanges
    · simp only [hl, List.map_cons, List.map_nil, List.cons.injEq, reduceCtorEq, and_false]
        at hchanges
    · simp only [hl, List.map_cons, List.cons.injEq] at hchanges
      rw [Spaced, hl, List.isChain_cons_cons, hchanges.1, hchanges.2.1] at hspaced
      exact absurd hspaced.1 (by decide)

end Proxy

end Rathole
