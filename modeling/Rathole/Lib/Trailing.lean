import Mathlib.Data.List.TakeWhile

/-!
# Trailing Runs of a History

A counter that counts one kind of event and is reset by every other kind
holds the length of the run of its kind at the end of the history. If it
saturates it holds that length up to a limit, and tells from below the limit
as much as an unlimited one.

A history is a list with the latest event first.

## Main definitions

* `run`: The length of the trailing run of a kind of events.
* `count`: What a counter of the kind that saturates holds.
* `Lasts`: The last events of a history are of a kind.

## Theorems

* `count_cons_pos`, `count_cons_neg`: An event is counted, or resets.
* `le_count_iff`: What a counter tells of the last events.
-/

namespace Trailing

variable {α : Type} (p : α → Bool)

/-- The number of events of the kind since the last one that was not. -/
def run (l : List α) : Nat := (l.takeWhile p).length

/-- The number, up to the counter's limit. -/
def count (limit : Nat) (l : List α) : Nat := min (run p l) limit

/-- The last `n` events of the history are of the kind. -/
def Lasts (n : Nat) (l : List α) : Prop := n ≤ l.length ∧ ∀ a ∈ l.take n, p a = true

variable {p} {a : α} {l : List α} {n limit : Nat}

theorem run_cons_pos (h : p a = true) (l : List α) : run p (a :: l) = run p l + 1 := by
  rw [run, List.takeWhile_cons_of_pos h, List.length_cons, run]

theorem run_cons_neg (h : ¬ p a = true) (l : List α) : run p (a :: l) = 0 := by
  rw [run, List.takeWhile_cons_of_neg h, List.length_nil]

theorem count_cons_pos (h : p a = true) (limit : Nat) (l : List α) :
    count p limit (a :: l) = min (count p limit l + 1) limit := by
  rw [count, count, run_cons_pos h]
  omega

theorem count_cons_neg (h : ¬ p a = true) (limit : Nat) (l : List α) :
    count p limit (a :: l) = 0 := by
  rw [count, run_cons_neg h, Nat.zero_min]

/-- A run is as long as the last events that are of its kind. -/
theorem le_run_iff (n : Nat) (l : List α) : n ≤ run p l ↔ Lasts p n l := by
  induction l generalizing n with
  | nil =>
      simp only [run, Lasts, List.takeWhile_nil, List.length_nil, List.take_nil, List.not_mem_nil,
        false_implies, implies_true, and_true]
  | cons a l ih =>
      cases n with
      | zero =>
          simp only [Lasts, Nat.zero_le, List.take_zero, List.not_mem_nil, false_implies,
            implies_true, and_self]
      | succ n =>
          -- The latest event prolongs the run, or there is none.
          by_cases h : p a = true
          · rw [run_cons_pos h, Nat.add_le_add_iff_right, ih n, Lasts, Lasts, List.length_cons,
              Nat.add_le_add_iff_right, List.take_succ_cons, List.forall_mem_cons]
            simp only [h, true_and]
          · rw [run_cons_neg h, Lasts, List.take_succ_cons, List.forall_mem_cons]
            simp only [Nat.le_zero, Nat.succ_ne_zero, h, Bool.false_eq_true, false_and, and_false]

/-- Below its limit a saturating counter is as good as any. -/
theorem le_count_iff (h : n ≤ limit) (l : List α) : n ≤ count p limit l ↔ Lasts p n l := by
  rw [← le_run_iff, count, Nat.le_min]
  exact and_iff_left h

end Trailing
