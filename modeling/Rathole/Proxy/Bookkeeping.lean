import Mathlib.Algebra.Field.Rat
import Mathlib.Tactic.Ring
import Rathole.Lib.Smoothing
import Rathole.Proxy.History

/-!
# What the Health Record Sums Up

Besides the status, `mark_tunnel_success` and `mark_tunnel_failure` keep two
counters, an error rate and a mean latency, which the routing order and the
thresholds of the status rest on. None of these depends on the status or on
the time of a call. The counters are runs at the end of the history. The mean
latency is a smoothed value of the samples, and the error rate moves towards
zero or one and never arrives at one.

The calls may come at any times here. The routing order and the thresholds do
not ask when they came.

## Main definitions

* `markAll`: Calls for one tunnel, one after the other.
* `Books`: The fields of an entry as functions of the history, the invariant.
* `SumsUp`: What they say of the history.

## Theorems

* `books_apply`: A call keeps the books.
* `books_markAll`: The books are right after any calls.
* `sumsUp_of_books`: What the fields say of the history.
* `markAll_sumsUp`: From a fresh entry on, the entry sums up the history.
-/

namespace Rathole

open Trailing Smoothing

namespace Proxy

/-- The latency that comes with the call, if one does. -/
def Outcome.sample : Outcome → Option ℚ
  | .success latencyMs => latencyMs
  | .failure => none

/-- The latencies given, the latest first. -/
def samples (calls : List Outcome) : List ℚ := calls.filterMap Outcome.sample

/-- How much a sample counts in the mean latency. -/
def latencyShare : ℚ := 2 / 10

/-- Calls for the tunnel, one after the other. -/
def markAll (map : TunnelHealthMap) (id : String) : List Call → TunnelHealthMap
  | [] => map
  | c :: history => markAll (c.outcome.mark map c.time id) id history

/-- The calls of a history, the latest first. -/
def outcomes (history : List Call) : List Outcome := (history.map Call.outcome).reverse

/-- No call has been made for the tunnel: it has no entry, or one as it was
    created. -/
def Fresh (map : TunnelHealthMap) (id : String) : Prop :=
  ∀ e, map.lookup id = some e → ∃ created, e = TunnelHealth.default created

/-- The fields as functions of the calls, the latest of them first. -/
structure Books (calls : List Outcome) (e : TunnelHealth) : Prop where
  failures : e.consecutiveFailures = count Outcome.failed counterMax calls
  successes : e.consecutiveSuccesses = count Outcome.succeeded counterMax calls
  latency : e.avgLatencyMs = average latencyShare (samples calls)
  errorRate : e.errorRate ∈ Set.Ico 0 1

/-- What the entry says of the calls, the latest of them first. -/
structure SumsUp (calls : List Outcome) (e : TunnelHealth) : Prop where
  errorRate : 0 ≤ e.errorRate ∧ e.errorRate < 1
  failures : e.consecutiveFailures = min (run Outcome.failed calls) counterMax
  successes : e.consecutiveSuccesses = min (run Outcome.succeeded calls) counterMax
  exclusive : e.consecutiveFailures = 0 ∨ e.consecutiveSuccesses = 0
  unknown : e.avgLatencyMs = none ↔ ∀ o ∈ calls, o.sample = none
  between : ∀ avg, e.avgLatencyMs = some avg → ∃ lo hi,
    IsLeast {x | ∃ o ∈ calls, o.sample = some x} lo ∧
      IsGreatest {x | ∃ o ∈ calls, o.sample = some x} hi ∧ lo ≤ avg ∧ avg ≤ hi

variable {e : TunnelHealth} {calls : List Outcome} {map : TunnelHealthMap} {id : String}
  {history : List Call}

/-! ### One call -/

theorem samples_cons_some {o : Outcome} {x : ℚ} (h : o.sample = some x) (calls : List Outcome) :
    samples (o :: calls) = x :: samples calls := List.filterMap_cons_some h

theorem samples_cons_none {o : Outcome} (h : o.sample = none) (calls : List Outcome) :
    samples (o :: calls) = samples calls := List.filterMap_cons_none h

/-- A sample counts a fifth, the first one in full. -/
theorem latency_apply (h : e.avgLatencyMs = average latencyShare (samples calls)) (time : Nat)
    (o : Outcome) :
    (o.apply time e).avgLatencyMs = average latencyShare (samples (o :: calls)) := by
  cases o with
  | success latencyMs =>
      rcases succeed_eq e time latencyMs with ⟨status, lastTransition, heq⟩
      rw [Outcome.apply, heq]
      cases latencyMs with
      | none => rw [samples_cons_none rfl, ← h]
      | some lat =>
          rw [samples_cons_some rfl, average, ← h]
          cases e.avgLatencyMs with
          | none => rfl
          | some prev =>
              simp only [AffineMap.lineMap_apply_ring', latencyShare, Option.some.injEq]
              ring
  | failure =>
      rcases fail_eq e time with ⟨status, lastTransition, heq⟩
      rw [Outcome.apply, heq, samples_cons_none rfl]
      exact h

/-- A success moves the rate a tenth of the way towards zero, a failure a
    fifth of the way towards one. -/
theorem errorRate_apply (h : e.errorRate ∈ Set.Ico 0 1) (time : Nat) (o : Outcome) :
    (o.apply time e).errorRate ∈ Set.Ico 0 1 := by
  cases o with
  | success latencyMs =>
      rcases succeed_eq e time latencyMs with ⟨status, lastTransition, heq⟩
      have hmove : AffineMap.lineMap e.errorRate 0 (1 / 10 : ℚ) ∈ Set.Ico (0 : ℚ) 1 :=
        lineMap_mem_Ico h ⟨le_refl 0, zero_le_one⟩ (by norm_num) (by norm_num)
      have hrate : AffineMap.lineMap e.errorRate 0 (1 / 10 : ℚ) = e.errorRate * (9 / 10) := by
        rw [AffineMap.lineMap_apply_ring']
        ring
      rw [hrate] at hmove
      rw [Outcome.apply, heq]
      -- The rate is not negative, and the maximum is the rate.
      rw [max_eq_left hmove.1]
      exact hmove
  | failure =>
      rcases fail_eq e time with ⟨status, lastTransition, heq⟩
      have hmove : AffineMap.lineMap e.errorRate 1 (2 / 10 : ℚ) ∈ Set.Ico (0 : ℚ) 1 :=
        lineMap_mem_Ico h ⟨zero_le_one, le_refl 1⟩ (by norm_num) (by norm_num)
      have hrate : AffineMap.lineMap e.errorRate 1 (2 / 10 : ℚ) =
          e.errorRate * (8 / 10) + 2 / 10 := by
        rw [AffineMap.lineMap_apply_ring']
        ring
      rw [hrate] at hmove
      rw [Outcome.apply, heq]
      exact hmove

/-- The step lemma. -/
theorem books_apply (hb : Books calls e) (time : Nat) (o : Outcome) :
    Books (o :: calls) (o.apply time e) := by
  rcases counters_apply hb.failures hb.successes time o with ⟨hfailures, hsuccesses⟩
  exact ⟨hfailures, hsuccesses, latency_apply hb.latency time o,
    errorRate_apply hb.errorRate time o⟩

theorem books_default (created : Nat) : Books [] (TunnelHealth.default created) :=
  ⟨rfl, rfl, rfl, le_refl 0, zero_lt_one⟩

/-! ### Whole histories -/

theorem outcomes_cons (c : Call) (history : List Call) :
    outcomes (c :: history) = outcomes history ++ [c.outcome] := by
  rw [outcomes, List.map_cons, List.reverse_cons, outcomes]

/-- The run lemma. -/
theorem books_markAll (he : map.lookup id = some e) (hb : Books calls e) (history : List Call) :
    ∃ e', (markAll map id history).lookup id = some e' ∧ Books (outcomes history ++ calls) e' := by
  induction history generalizing map e calls with
  | nil => exact ⟨e, he, hb⟩
  | cons c history ih =>
      rcases ih (lookup_mark he c.time c.outcome) (books_apply hb c.time c.outcome) with
        ⟨e', he', hb'⟩
      refine ⟨e', he', ?_⟩
      rw [outcomes_cons, List.append_assoc]
      exact hb'

/-- A first call finds the entry as if it had been created just before. -/
theorem books_of_fresh (hfresh : Fresh map id) (c : Call) (history : List Call) :
    ∃ e, (markAll map id (c :: history)).lookup id = some e ∧
      Books (outcomes (c :: history)) e := by
  rcases hl : map.lookup id with _ | e
  · rw [markAll, mark_of_absent hl c.time c.outcome, ← markAll]
    rcases books_markAll (AList.lookup_insert _) (books_default c.time) (c :: history) with
      ⟨e, he, hb⟩
    rw [List.append_nil] at hb
    exact ⟨e, he, hb⟩
  · rcases hfresh e hl with ⟨created, rfl⟩
    rcases books_markAll hl (books_default created) (c :: history) with ⟨e, he, hb⟩
    rw [List.append_nil] at hb
    exact ⟨e, he, hb⟩

/-- A call writes to no entry but that of its tunnel. -/
theorem lookup_mark_ne {other : String} (h : other ≠ id) (map : TunnelHealthMap) (now : Nat)
    (o : Outcome) : (o.mark map now id).lookup other = map.lookup other := by
  cases o with
  | success latencyMs => exact AList.lookup_insert_ne h
  | failure => exact AList.lookup_insert_ne h

theorem lookup_markAll_ne {other : String} (h : other ≠ id) (history : List Call) :
    (markAll map id history).lookup other = map.lookup other := by
  induction history generalizing map with
  | nil => rfl
  | cons c history ih => rw [markAll, ih, lookup_mark_ne h]

/-! ### What the books say -/

/-- The latest call is of one kind only. -/
theorem run_exclusive (calls : List Outcome) :
    run Outcome.failed calls = 0 ∨ run Outcome.succeeded calls = 0 := by
  cases calls with
  | nil => exact Or.inl rfl
  | cons o calls =>
      cases o with
      | success latencyMs => exact Or.inl (run_cons_neg Bool.false_ne_true calls)
      | failure => exact Or.inr (run_cons_neg Bool.false_ne_true calls)

theorem sumsUp_of_books (hb : Books calls e) : SumsUp calls e where
  errorRate := hb.errorRate
  failures := hb.failures
  successes := hb.successes
  exclusive := by
    rw [hb.failures, hb.successes, count, count]
    rcases run_exclusive calls with h | h
    · exact Or.inl (by rw [h, Nat.zero_min])
    · exact Or.inr (by rw [h, Nat.zero_min])
  unknown := by
    rw [hb.latency, average_eq_none_iff, samples, List.filterMap_eq_nil_iff]
  between := by
    intro avg havg
    rw [hb.latency] at havg
    have hmem : {x | x ∈ samples calls} = {x | ∃ o ∈ calls, o.sample = some x} := by
      ext x
      exact List.mem_filterMap
    rw [← hmem]
    exact average_between (by norm_num [latencyShare]) havg

/-- After any calls for one tunnel from a fresh entry on, the entry sums them
    up, and the other entries are as they were. -/
theorem markAll_sumsUp (map : TunnelHealthMap) (id : String) (history : List Call)
    (hfresh : Fresh map id) :
    (history ≠ [] → ∃ e, (markAll map id history).lookup id = some e) ∧
      (∀ e, (markAll map id history).lookup id = some e → SumsUp (outcomes history) e) ∧
      ∀ other, other ≠ id → (markAll map id history).lookup other = map.lookup other := by
  refine ⟨fun hne => ?_, fun e he => ?_, fun other h => lookup_markAll_ne h history⟩
  · cases history with
    | nil => exact absurd rfl hne
    | cons c history =>
        rcases books_of_fresh hfresh c history with ⟨e, he, _⟩
        exact ⟨e, he⟩
  · cases history with
    | nil =>
        rcases hfresh e he with ⟨created, rfl⟩
        exact sumsUp_of_books (books_default created)
    | cons c history =>
        rcases books_of_fresh hfresh c history with ⟨e', he', hb⟩
        rw [he', Option.some.injEq] at he
        rw [← he]
        exact sumsUp_of_books hb

theorem fresh_empty (id : String) : Fresh ∅ id := by
  intro e he
  simp only [AList.lookup_empty, reduceCtorEq] at he

/-- Two samples, the second of them twice the first, and a failure. -/
def slowerThenLost : List Call :=
  [⟨0, .success (some 100)⟩, ⟨seconds 1, .success (some 200)⟩, ⟨seconds 2, .failure⟩]

theorem slowerThenLost_sumsUp : ∃ e, (markAll ∅ "app" slowerThenLost).lookup "app" = some e ∧
    e.avgLatencyMs = some 120 ∧ e.consecutiveFailures = 1 ∧
    SumsUp (outcomes slowerThenLost) e := by
  have hfields : ((markAll ∅ "app" slowerThenLost).lookup "app").map
      (fun e => (e.avgLatencyMs, e.consecutiveFailures)) = some (some 120, 1) := by decide +kernel
  rcases markAll_sumsUp ∅ "app" slowerThenLost (fresh_empty "app") with ⟨hentry, hsums, _⟩
  rcases hentry (List.cons_ne_nil _ _) with ⟨e, he⟩
  rw [he, Option.map_some, Option.some.injEq, Prod.mk.injEq] at hfields
  exact ⟨e, he, hfields.1, hfields.2, hsums e he⟩

end Proxy

end Rathole
