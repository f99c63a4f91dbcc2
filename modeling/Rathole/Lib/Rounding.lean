import Mathlib.Algebra.Order.Floor.Ring
import Mathlib.Algebra.Ring.Int.Parity
import Mathlib.Data.Int.ConditionallyCompleteOrder
import Mathlib.Data.Int.Log
import Mathlib.Tactic.Linarith

/-!
# Rounding

Floating-point arithmetic rounds every number to one that its format has. What
most arguments need of that is little: a rounding keeps the order, and zero
and one are in the format. Here that little is a structure, with arithmetic
that does not round at all as one case and rounding to the nearest number of
`d + 1` significant digits, a tie to the even one, as the other.

The exponents of the format are unbounded, so this is the rounding of the
standard formats between their smallest normal and their largest number.

## Main definitions

* `Rounding`: A rounding to a format that has zero and one.
* `Rounding.exact`: Nothing is rounded.
* `Rounding.halfEven`: To the nearest integer.
* `Rounding.toDigits`: To the nearest number of some digits.
* `Rounding.float`: The same as a rounding.
* `Rounding.quotient`: A quotient as floating-point arithmetic has it.

## Theorems

* `Rounding.halfEven_mono`, `Rounding.toDigits_mono`: The order is kept.
* `Rounding.toDigits_zpow`: The powers of the base are kept.
* `Rounding.quotient_le_one`: A part of the whole is at most one.
-/

/-- A rounding to the numbers of a format that has zero and one. -/
structure Rounding (𝕜 : Type*) [Zero 𝕜] [One 𝕜] [Preorder 𝕜] where
  toFun : 𝕜 → 𝕜
  mono : Monotone toFun
  map_zero : toFun 0 = 0
  map_one : toFun 1 = 1

namespace Rounding

instance {𝕜 : Type*} [Zero 𝕜] [One 𝕜] [Preorder 𝕜] : CoeFun (Rounding 𝕜) (fun _ => 𝕜 → 𝕜) :=
  ⟨toFun⟩

/-- Arithmetic that does not round. -/
def exact {𝕜 : Type*} [Zero 𝕜] [One 𝕜] [Preorder 𝕜] : Rounding 𝕜 where
  toFun x := x
  mono := monotone_id
  map_zero := rfl
  map_one := rfl

section Digits

variable {𝕜 : Type*} [Field 𝕜] [LinearOrder 𝕜] [FloorRing 𝕜]

/-- The nearest integer, and of two the even one. -/
def halfEven (x : 𝕜) : ℤ :=
  if Int.fract x < 1 / 2 ∨ (Int.fract x = 1 / 2 ∧ Even ⌊x⌋) then ⌊x⌋ else ⌊x⌋ + 1

/-- The nearest number of `d + 1` significant digits to the base `b`; what is
    not positive counts as zero. -/
def toDigits (b d : ℕ) (x : 𝕜) : 𝕜 :=
  if x ≤ 0 then 0 else halfEven (x / (b : 𝕜) ^ (Int.log b x - d)) * (b : 𝕜) ^ (Int.log b x - d)

theorem halfEven_cases (x : 𝕜) : halfEven x = ⌊x⌋ ∨ halfEven x = ⌊x⌋ + 1 := by
  unfold halfEven
  by_cases h : Int.fract x < 1 / 2 ∨ (Int.fract x = 1 / 2 ∧ Even ⌊x⌋)
  · exact Or.inl (if_pos h)
  · exact Or.inr (if_neg h)

variable {b d : ℕ} {x : 𝕜}

theorem toDigits_of_pos (h : 0 < x) : toDigits b d x =
    halfEven (x / (b : 𝕜) ^ (Int.log b x - d)) * (b : 𝕜) ^ (Int.log b x - d) :=
  if_neg h.not_ge

/-- Counted in units of the last digit, a power of the base is an integer. -/
theorem zpow_div_ulp (hb : 1 < b) (k : ℤ) (n : ℕ) :
    (b : 𝕜) ^ (k + n) / (b : 𝕜) ^ k = ((b ^ n : ℕ) : ℤ) := by
  have hne : (b : 𝕜) ≠ 0 := Nat.cast_ne_zero.mpr (by omega)
  rw [zpow_add₀ hne, mul_div_cancel_left₀ _ (zpow_ne_zero k hne), zpow_natCast]
  push_cast
  rfl

variable [IsStrictOrderedRing 𝕜]

theorem halfEven_intCast (n : ℤ) : halfEven (n : 𝕜) = n := by
  rw [halfEven, Int.fract_intCast, Int.floor_intCast, if_pos (Or.inl one_half_pos)]

theorem halfEven_mono : Monotone (halfEven : 𝕜 → ℤ) := by
  intro x y h
  rcases (Int.floor_mono h).lt_or_eq with hlt | heq
  · -- The integers next to `x` are not above those next to `y`.
    rcases halfEven_cases x with hx | hx <;> rcases halfEven_cases y with hy | hy <;> omega
  · -- Above one and the same integer, the fractions decide.
    have hfract : Int.fract x ≤ Int.fract y := by
      rw [Int.fract, Int.fract, heq]
      exact sub_le_sub_right h _
    by_cases hy : Int.fract y < 1 / 2 ∨ (Int.fract y = 1 / 2 ∧ Even ⌊y⌋)
    · have hx : Int.fract x < 1 / 2 ∨ (Int.fract x = 1 / 2 ∧ Even ⌊x⌋) := by
        rcases hy with hlt | ⟨htie, heven⟩
        · exact Or.inl (hfract.trans_lt hlt)
        · -- The parity that decides the tie is that of the same integer.
          rw [htie] at hfract
          rw [heq]
          exact hfract.lt_or_eq.imp_right (fun hx => ⟨hx, heven⟩)
      rw [halfEven, halfEven, if_pos hx, if_pos hy, heq]
    · rw [halfEven, halfEven, if_neg hy, heq]
      by_cases hx : Int.fract x < 1 / 2 ∨ (Int.fract x = 1 / 2 ∧ Even ⌊y⌋)
      · rw [if_pos hx]
        exact (lt_add_one _).le
      · rw [if_neg hx]

/-- Rounding does not lead out of the interval from one power of the base to
    the next. -/
theorem toDigits_mem_Icc (hb : 1 < b) (h : 0 < x) :
    toDigits b d x ∈ Set.Icc ((b : 𝕜) ^ Int.log b x) ((b : 𝕜) ^ (Int.log b x + 1)) := by
  have hpos : (0 : 𝕜) < (b : 𝕜) := Nat.cast_pos.mpr (by omega)
  have hulp : (0 : 𝕜) < (b : 𝕜) ^ (Int.log b x - d) := zpow_pos hpos _
  have hlow := zpow_div_ulp (𝕜 := 𝕜) hb (Int.log b x - d) d
  have hhigh := zpow_div_ulp (𝕜 := 𝕜) hb (Int.log b x - d) (d + 1)
  rw [Nat.cast_add, Nat.cast_one, ← add_assoc] at hhigh
  rw [sub_add_cancel] at hlow hhigh
  rw [toDigits_of_pos h]
  constructor
  · rw [← div_le_iff₀ hulp, hlow, Int.cast_le]
    calc ((b ^ d : ℕ) : ℤ) = halfEven (((b ^ d : ℕ) : ℤ) : 𝕜) := (halfEven_intCast _).symm
      _ ≤ halfEven (x / (b : 𝕜) ^ (Int.log b x - d)) := by
        refine halfEven_mono ?_
        rw [← hlow]
        exact (div_le_div_iff_of_pos_right hulp).mpr (Int.zpow_log_le_self hb h)
  · rw [← le_div_iff₀ hulp, hhigh, Int.cast_le]
    calc halfEven (x / (b : 𝕜) ^ (Int.log b x - d))
        ≤ halfEven (((b ^ (d + 1) : ℕ) : ℤ) : 𝕜) := by
          refine halfEven_mono ?_
          rw [← hhigh]
          exact (div_le_div_iff_of_pos_right hulp).mpr (Int.lt_zpow_succ_log_self hb x).le
      _ = ((b ^ (d + 1) : ℕ) : ℤ) := halfEven_intCast _

theorem toDigits_mono (hb : 1 < b) (d : ℕ) : Monotone (toDigits b d : 𝕜 → 𝕜) := by
  intro x y h
  have hpos : (0 : 𝕜) < (b : 𝕜) := Nat.cast_pos.mpr (by omega)
  by_cases hx : 0 < x
  · have hy : 0 < y := hx.trans_le h
    rcases (Int.log_mono_right (b := b) hx h).lt_or_eq with hlt | heq
    · -- A power of the base is between the two.
      calc toDigits b d x ≤ (b : 𝕜) ^ (Int.log b x + 1) := (toDigits_mem_Icc hb hx).2
        _ ≤ (b : 𝕜) ^ Int.log b y := zpow_le_zpow_right₀ (Nat.one_le_cast.mpr hb.le) hlt
        _ ≤ toDigits b d y := (toDigits_mem_Icc hb hy).1
    · -- Both are counted in units of the same last digit.
      rw [toDigits_of_pos hx, toDigits_of_pos hy, heq]
      have hulp : (0 : 𝕜) < (b : 𝕜) ^ (Int.log b y - d) := zpow_pos hpos _
      refine mul_le_mul_of_nonneg_right (Int.cast_le.mpr (halfEven_mono ?_)) hulp.le
      exact (div_le_div_iff_of_pos_right hulp).mpr h
  · -- What is not positive counts as zero.
    rw [toDigits, if_pos (not_lt.mp hx)]
    by_cases hy : 0 < y
    · exact (zpow_pos hpos _).le.trans (toDigits_mem_Icc hb hy).1
    · rw [toDigits, if_pos (not_lt.mp hy)]

theorem toDigits_zpow (hb : 1 < b) (d : ℕ) (k : ℤ) :
    toDigits b d ((b : 𝕜) ^ k) = (b : 𝕜) ^ k := by
  have hpos : (0 : 𝕜) < (b : 𝕜) := Nat.cast_pos.mpr (by omega)
  have hulp := zpow_div_ulp (𝕜 := 𝕜) hb (k - d) d
  rw [sub_add_cancel] at hulp
  rw [toDigits_of_pos (zpow_pos hpos k), Int.log_zpow hb, hulp, halfEven_intCast, ← hulp,
    div_mul_cancel₀ _ (zpow_pos hpos _).ne']

/-- Rounding to the nearest number of `d + 1` digits to the base `b`. -/
def float (b d : ℕ) (hb : 1 < b) : Rounding 𝕜 where
  toFun := toDigits b d
  mono := toDigits_mono hb d
  map_zero := if_pos le_rfl
  map_one := by
    have h := toDigits_zpow (𝕜 := 𝕜) hb d 0
    rw [zpow_zero] at h
    exact h

end Digits

section Quotient

variable {𝕜 : Type*} [Field 𝕜] [LinearOrder 𝕜] [IsStrictOrderedRing 𝕜]

/-- The quotient of two numbers that are rounded before the division, and the
    result with them. -/
def quotient (R : Rounding 𝕜) (a b : 𝕜) : 𝕜 := R (R a / R b)

theorem quotient_le_one (R : Rounding 𝕜) {a b : 𝕜} (hb : 0 ≤ b) (h : a ≤ b) :
    R.quotient a b ≤ 1 := by
  have hnonneg : 0 ≤ R b := R.map_zero.symm.le.trans (R.mono hb)
  have hle : R a / R b ≤ 1 := div_le_one_of_le₀ (R.mono h) hnonneg
  exact (R.mono hle).trans R.map_one.le

end Quotient

end Rounding
