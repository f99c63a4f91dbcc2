import Mathlib.Data.List.Count
import Mathlib.Data.List.Nodup

/-!
# Overwriting Values

A list of keys with values in which a key may come again, and two ways to put
a pair into it: after all others, or in place of all that are there under the
key. Putting the pairs of a list in one by one in the first way copies it. In
the second way only the last value of every key is left, so it copies the list
exactly when no key comes again.

## Main definitions

* `valuesOf`: The values under a key.
* `overwrite`: A pair in place of those of its key.
* `overwriteAll`: The pairs of a list, one by one.
* `SameValues`: Every key has the same values, in some order.

## Theorems

* `overwriteAll_of_nodup`: Where no key comes again nothing is lost.
* `valuesOf_overwriteAll`: What is under a key that comes at most once.
* `sameValues_overwriteAll_iff`: When overwriting copies a list.
-/

namespace Overwrite

variable {κ υ : Type} [DecidableEq κ]

/-- The values under `k`. -/
def valuesOf (l : List (κ × υ)) (k : κ) : List υ := (l.filter (fun p => p.1 = k)).map Prod.snd

/-- `v` in place of all values under `k`. -/
def overwrite (l : List (κ × υ)) (k : κ) (v : υ) : List (κ × υ) :=
  l.filter (fun p => p.1 ≠ k) ++ [(k, v)]

/-- The pairs of `ps` one by one, each in place of what is under its key. -/
def overwriteAll (l ps : List (κ × υ)) : List (κ × υ) :=
  ps.foldl (fun l p => overwrite l p.1 p.2) l

/-- Every key has the same values, each as many times. -/
def SameValues (l l' : List (κ × υ)) : Prop := ∀ k, (valuesOf l k).Perm (valuesOf l' k)

variable {l ps : List (κ × υ)} {k k' : κ} {v : υ}

theorem valuesOf_append (l l' : List (κ × υ)) (k : κ) :
    valuesOf (l ++ l') k = valuesOf l k ++ valuesOf l' k := by
  rw [valuesOf, List.filter_append, List.map_append, valuesOf, valuesOf]

theorem valuesOf_cons_self (k : κ) (v : υ) (l : List (κ × υ)) :
    valuesOf ((k, v) :: l) k = v :: valuesOf l k := by
  rw [valuesOf, List.filter_cons, if_pos (decide_eq_true rfl), List.map_cons, valuesOf]

theorem valuesOf_cons_ne (h : k' ≠ k) (v : υ) (l : List (κ × υ)) :
    valuesOf ((k', v) :: l) k = valuesOf l k := by
  rw [valuesOf, List.filter_cons, if_neg (by rw [decide_eq_true_eq]; exact h), valuesOf]

theorem valuesOf_eq_nil_iff : valuesOf l k = [] ↔ k ∉ l.map Prod.fst := by
  rw [valuesOf, List.map_eq_nil_iff, List.filter_eq_nil_iff]
  simp only [decide_eq_true_eq, List.mem_map, not_exists, not_and]

/-- A key has as many values as it comes times. -/
theorem length_valuesOf (l : List (κ × υ)) (k : κ) :
    (valuesOf l k).length = (l.map Prod.fst).count k := by
  induction l with
  | nil => rfl
  | cons p l ih =>
      rcases p with ⟨k', v⟩
      by_cases h : k' = k
      · rw [h, valuesOf_cons_self, List.length_cons, ih, List.map_cons, List.count_cons_self]
      · rw [valuesOf_cons_ne h, ih, List.map_cons, List.count_cons_of_ne h]

theorem valuesOf_overwrite_self (l : List (κ × υ)) (k : κ) (v : υ) :
    valuesOf (overwrite l k v) k = [v] := by
  have hrest : valuesOf (l.filter (fun p => p.1 ≠ k)) k = [] := by
    rw [valuesOf_eq_nil_iff]
    simp only [ne_eq, decide_not, List.mem_map, List.mem_filter, Bool.not_eq_true',
      decide_eq_false_iff_not, not_exists, not_and]
    exact fun p hp => hp.2
  rw [overwrite, valuesOf_append, hrest, valuesOf_cons_self]
  rfl

theorem valuesOf_overwrite_ne (h : k' ≠ k) (l : List (κ × υ)) (v : υ) :
    valuesOf (overwrite l k' v) k = valuesOf l k := by
  have hrest : valuesOf (l.filter (fun p => p.1 ≠ k')) k = valuesOf l k := by
    rw [valuesOf, valuesOf, List.filter_filter]
    refine congrArg (List.map Prod.snd) (List.filter_congr ?_)
    -- A pair of `k` is none of `k'`.
    intro p _
    by_cases hp : p.1 = k
    · simp only [hp, decide_true, Bool.true_and, decide_eq_true_eq]
      exact h.symm
    · simp only [hp, decide_false, Bool.false_and]
  rw [overwrite, valuesOf_append, hrest, valuesOf_cons_ne h]
  exact List.append_nil _

theorem overwriteAll_cons (l : List (κ × υ)) (p : κ × υ) (ps : List (κ × υ)) :
    overwriteAll l (p :: ps) = overwriteAll (overwrite l p.1 p.2) ps := rfl

theorem overwriteAll_append (l ps : List (κ × υ)) (k : κ) (v : υ) :
    overwriteAll l (ps ++ [(k, v)]) = overwrite (overwriteAll l ps) k v := by
  rw [overwriteAll, List.foldl_append]
  rfl

/-- Where no key comes again nothing is overwritten. -/
theorem overwriteAll_of_nodup (h : ((l ++ ps).map Prod.fst).Nodup) :
    overwriteAll l ps = l ++ ps := by
  induction ps generalizing l with
  | nil => exact (List.append_nil l).symm
  | cons p ps ih =>
      have hkeep : l.filter (fun q => q.1 ≠ p.1) = l := by
        rw [List.filter_eq_self]
        intro q hq
        rw [List.map_append, List.nodup_append] at h
        exact decide_eq_true
          (h.2.2 q.1 (List.mem_map_of_mem hq) p.1 (List.mem_map_of_mem List.mem_cons_self))
      rw [overwriteAll_cons, overwrite, hkeep, ih, List.append_assoc]
      · rfl
      · rw [List.append_assoc]
        exact h

/-- What was there stays, under keys that do not come. -/
theorem valuesOf_overwriteAll_of_not_mem (h : k ∉ ps.map Prod.fst) (l : List (κ × υ)) :
    valuesOf (overwriteAll l ps) k = valuesOf l k := by
  induction ps generalizing l with
  | nil => rfl
  | cons p ps ih =>
      rw [List.map_cons, List.mem_cons, not_or] at h
      rw [overwriteAll_cons, ih h.2, valuesOf_overwrite_ne (Ne.symm h.1)]

/-- No key has more than one value in the end. -/
theorem length_valuesOf_overwriteAll_le (h : (valuesOf l k).length ≤ 1) :
    (valuesOf (overwriteAll l ps) k).length ≤ 1 := by
  induction ps generalizing l with
  | nil => exact h
  | cons p ps ih =>
      rw [overwriteAll_cons]
      refine ih ?_
      by_cases hk : p.1 = k
      · rw [hk, valuesOf_overwrite_self]
        exact Nat.le_refl 1
      · rw [valuesOf_overwrite_ne hk]
        exact h

/-- A key that comes once has its value in the end. -/
theorem valuesOf_overwriteAll (h : (ps.map Prod.fst).Nodup) (hk : k ∈ ps.map Prod.fst)
    (l : List (κ × υ)) : valuesOf (overwriteAll l ps) k = valuesOf ps k := by
  induction ps generalizing l with
  | nil => exact absurd hk List.not_mem_nil
  | cons p ps ih =>
      rcases p with ⟨k', v⟩
      rw [List.map_cons, List.nodup_cons] at h
      rw [overwriteAll_cons]
      by_cases heq : k' = k
      · -- The rest leaves this value alone.
        rw [heq] at h
        rw [heq, valuesOf_overwriteAll_of_not_mem h.1, valuesOf_overwrite_self,
          valuesOf_cons_self, valuesOf_eq_nil_iff.mpr h.1]
      · rw [List.map_cons, List.mem_cons] at hk
        rw [ih h.2 (hk.resolve_left (Ne.symm heq)), valuesOf_cons_ne heq]

/-- Overwriting copies a list exactly if no key comes again. -/
theorem sameValues_overwriteAll_iff (ps : List (κ × υ)) :
    SameValues (overwriteAll [] ps) ps ↔ (ps.map Prod.fst).Nodup := by
  constructor
  · intro h
    rw [List.nodup_iff_count_le_one]
    intro k
    rw [← length_valuesOf, ← (h k).length_eq]
    exact length_valuesOf_overwriteAll_le (Nat.zero_le 1)
  · intro h k
    by_cases hk : k ∈ ps.map Prod.fst
    · rw [valuesOf_overwriteAll h hk]
    · rw [valuesOf_overwriteAll_of_not_mem hk, valuesOf_eq_nil_iff.mpr hk]
      exact List.Perm.nil

end Overwrite
