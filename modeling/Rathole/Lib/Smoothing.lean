import Mathlib.Analysis.Convex.Basic
import Mathlib.Data.Set.Finite.Lemmas
import Mathlib.LinearAlgebra.AffineSpace.Ordered

/-!
# Exponential Smoothing

A smoothed value moves a fixed share of the way towards every sample. The
first sample is taken as it is, so nothing but samples goes into the value,
and it stays in every convex set that they are in. A value that starts
somewhere else stays in an interval that holds the start and the samples, and
reaches an end of it only if it starts there.

Samples are in a list with the latest first.

## Main definitions

* `average`: The samples smoothed, if there are any.

## Theorems

* `average_eq_none_iff`: Without samples there is no average.
* `average_mem`: Where the samples are, there is the average.
* `average_between`: It is between the smallest and the largest sample.
* `lineMap_mem_Ico`: A move that stays below the end of an interval.
-/

namespace Smoothing

open AffineMap

section Average

variable {𝕜 E : Type*} [Field 𝕜] [AddCommGroup E] [Module 𝕜 E]

/-- Every sample but the first moves the average the share `w` of the way
    towards it. -/
def average (w : 𝕜) : List E → Option E
  | [] => none
  | x :: l => some (match average w l with
    | some prev => lineMap prev x w
    | none => x)

theorem average_eq_none_iff (w : 𝕜) (l : List E) : average w l = none ↔ l = [] := by
  cases l with
  | nil => simp only [average]
  | cons x l => simp only [average, reduceCtorEq]

variable [LinearOrder 𝕜] [IsStrictOrderedRing 𝕜] {w : 𝕜} {l : List E} {a : E} {s : Set E}

theorem average_mem (hs : Convex 𝕜 s) (hw : w ∈ Set.Icc 0 1) (h : ∀ x ∈ l, x ∈ s)
    (ha : average w l = some a) : a ∈ s := by
  induction l generalizing a with
  | nil => simp only [average, reduceCtorEq] at ha
  | cons x l ih =>
      rw [List.forall_mem_cons] at h
      rcases h with ⟨hx, hl⟩
      rcases hprev : average w l with _ | prev
      · -- The first sample.
        simp only [average, hprev, Option.some.injEq] at ha
        rw [← ha]
        exact hx
      · simp only [average, hprev, Option.some.injEq] at ha
        rw [← ha]
        exact hs.lineMap_mem (ih hl hprev) hx hw

end Average

section Order

variable {𝕜 : Type*} [Field 𝕜] [LinearOrder 𝕜] [IsStrictOrderedRing 𝕜]
  {w a x lo hi : 𝕜} {l : List 𝕜}

theorem average_between (hw : w ∈ Set.Icc 0 1) (ha : average w l = some a) :
    ∃ lo hi, IsLeast {x | x ∈ l} lo ∧ IsGreatest {x | x ∈ l} hi ∧ lo ≤ a ∧ a ≤ hi := by
  have hne : {x | x ∈ l}.Nonempty := by
    rcases l with _ | ⟨x, l⟩
    · simp only [average, reduceCtorEq] at ha
    · exact ⟨x, List.mem_cons_self⟩
  rcases Set.exists_min_image _ id l.finite_toSet hne with ⟨lo, hlo, hleast⟩
  rcases Set.exists_max_image _ id l.finite_toSet hne with ⟨hi, hhi, hgreatest⟩
  have hmem : a ∈ Set.Icc lo hi :=
    average_mem (convex_Icc lo hi) hw (fun x hx => ⟨hleast x hx, hgreatest x hx⟩) ha
  exact ⟨lo, hi, ⟨hlo, hleast⟩, ⟨hhi, hgreatest⟩, hmem.1, hmem.2⟩

/-- The upper end is not reached, not even if the samples are there. -/
theorem lineMap_mem_Ico (ha : a ∈ Set.Ico lo hi) (hx : x ∈ Set.Icc lo hi) (hw : 0 ≤ w)
    (hw' : w < 1) : lineMap a x w ∈ Set.Ico lo hi := by
  have hlt : lineMap a x w < lineMap hi x w := lineMap_strict_mono_left ha.2 hw'
  have hle : lineMap hi x w ≤ lineMap hi hi w := lineMap_mono_right hx.2 hw
  rw [lineMap_same_apply] at hle
  exact ⟨(convex_Ici lo).lineMap_mem ha.1 hx.1 ⟨hw, hw'.le⟩, hlt.trans_le hle⟩

end Order

end Smoothing
