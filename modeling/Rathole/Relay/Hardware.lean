import Mathlib.Algebra.Order.Field.Basic
import Mathlib.Algebra.Order.Field.Rat
import Mathlib.Data.Nat.Cast.Order.Field
import Mathlib.Tactic.Linarith
import Rathole.Relay.Step

/-!
# Hardware Reports

`handle_hardware_data` is one condition of five tests. Two of them compare
the used fraction of the memory and of the swap with `90.0`, as if it were a
percentage, and two subtract what is used from the total. The tests for the
swap do not ask whether there is any.

No report whose counters are in order passes a comparison, so its
classification rests on the CPU and on what is free. One that is not in order
passes a comparison only if about ninety times the total is used; with less it
comes to a subtraction that goes below zero. How the comparisons are rounded
moves that border and nothing else, so the results hold for every rounding:
with exact quotients the border is ninety times the total, and that of `f32`
is a little to either side of it.

## Main definitions

* `WellFormed`: A report whose counters are in order.
* `Overloaded`: What the limits are meant to say.
* `TestsSuffice`: The tests say the same.
* `subtractions`: The subtractions that are evaluated.
* `NoUnderflow`: None of them goes below zero.
* `Guarded`: The tests before a subtraction let through only what it can take.

## Theorems

* `ratioExceeds_exact_iff`: What a comparison asks for without rounding.
* `handleHardwareData_of_wellFormed`: What the classification rests on.
* `critical_iff_overloaded_iff`: When the limits are followed.
* `handleHardwareData_eq_none_iff`: A panic is an underflow.
* `noUnderflow_iff`: When no subtraction goes below zero.
* `Relay.received_healthUpdate_eq_none_iff`: When a report stops the relay.
-/

namespace Rathole

namespace Proxy

/-- There is memory, and no more is used than there is. -/
structure WellFormed (d : HardwareData) : Prop where
  memory : d.usedMemory ≤ d.totalMemory
  swap : d.usedSwap ≤ d.totalSwap
  some_memory : 0 < d.totalMemory

/-- More than 90 percent of `total` is used. -/
def Overused (used total : UInt64) : Prop := (used.toNat : ℚ) / total.toNat > 90 / 100

/-- At most one unit of `total` is free. -/
def Exhausted (used total : UInt64) : Prop := total.toNat ≤ used.toNat + 1

instance (used total : UInt64) : Decidable (Overused used total) :=
  inferInstanceAs (Decidable (_ > _))

instance (used total : UInt64) : Decidable (Exhausted used total) :=
  inferInstanceAs (Decidable (_ ≤ _))

/-- One of the limits is passed; those of the swap hold only where there is
    some. -/
def Overloaded (d : HardwareData) (cpuLimit : ℚ) : Prop :=
  d.cpuUsage > cpuLimit ∨ Overused d.usedMemory d.totalMemory ∨
    (d.totalSwap > 0 ∧ Overused d.usedSwap d.totalSwap) ∨
    Exhausted d.usedMemory d.totalMemory ∨
    (d.totalSwap > 0 ∧ Exhausted d.usedSwap d.totalSwap)

/-- The limits of the CPU and of what is free decide, or the machine has no
    swap and is short of memory, or it has swap and no 90 percent of either
    are used. -/
def TestsSuffice (d : HardwareData) (cpuLimit : ℚ) : Prop :=
  d.cpuUsage > cpuLimit ∨ Exhausted d.usedMemory d.totalMemory ∨
    (d.totalSwap > 0 ∧ Exhausted d.usedSwap d.totalSwap) ∨
    (d.totalSwap = 0 ∧ Overused d.usedMemory d.totalMemory) ∨
    (d.totalSwap > 0 ∧ ¬ Overused d.usedMemory d.totalMemory ∧
      ¬ Overused d.usedSwap d.totalSwap)

instance (d : HardwareData) (cpuLimit : ℚ) : Decidable (Overloaded d cpuLimit) :=
  inferInstanceAs (Decidable (_ ∨ _))

/-- A test before the subtractions holds. -/
def decidedEarly (R : Rounding ℚ) (d : HardwareData) (cpuLimit : ℚ) : Bool :=
  d.cpuUsage > cpuLimit || ratioExceeds R d.usedMemory d.totalMemory ||
    ratioExceeds R d.usedSwap d.totalSwap

/-- `total - used` -/
structure Subtraction where
  total : UInt64
  used : UInt64
deriving DecidableEq

/-- The subtractions that are evaluated, in the order of the source: none
    after a test that holds or panics. -/
def subtractions (R : Rounding ℚ) (overflowChecks : Bool) (d : HardwareData) (cpuLimit : ℚ) :
    List Subtraction :=
  if decidedEarly R d cpuLimit then []
  else ⟨d.totalSwap, d.usedSwap⟩ ::
    match atMostOneFree overflowChecks d.totalSwap d.usedSwap with
    | some false => [⟨d.totalMemory, d.usedMemory⟩]
    | _ => []

/-- No subtraction that is evaluated goes below zero, whether or not overflow
    is checked: there is no panic, and no difference wraps. -/
structure NoUnderflow (R : Rounding ℚ) (d : HardwareData) (cpuLimit : ℚ) : Prop where
  nonneg : ∀ overflowChecks, ∀ p ∈ subtractions R overflowChecks d cpuLimit, p.used ≤ p.total
  no_panic : handleHardwareData R true d cpuLimit ≠ none
  no_wrap : ∀ p ∈ subtractions R false d cpuLimit,
    (p.total - p.used).toNat + p.used.toNat = p.total.toNat

/-- A test before the subtractions holds, or no more swap is used than there
    is and either that is almost all of it or the memory is in order as
    well. -/
def Guarded (R : Rounding ℚ) (d : HardwareData) (cpuLimit : ℚ) : Prop :=
  decidedEarly R d cpuLimit = true ∨
    (d.usedSwap ≤ d.totalSwap ∧
      (Exhausted d.usedSwap d.totalSwap ∨ d.usedMemory ≤ d.totalMemory))

variable {R : Rounding ℚ} {d : HardwareData} {cpuLimit : ℚ} {overflowChecks : Bool}
  {used total : UInt64}

/-! ### One test -/

/-- Ninety times the total, and not ninety percent of it. -/
theorem ratioExceeds_exact_iff (used total : UInt64) :
    ratioExceeds .exact used total = true ↔ 90 * total.toNat < used.toNat := by
  unfold ratioExceeds
  by_cases hz : total = 0
  · rw [if_pos hz, hz, decide_eq_true_iff, ne_eq, ← UInt64.toNat_inj, UInt64.toNat_zero]
    omega
  · have hpos : 0 < total.toNat := by
      rw [← UInt64.toNat_inj, UInt64.toNat_zero] at hz
      omega
    rw [if_neg hz, decide_eq_true_iff, gt_iff_lt]
    change (90 : ℚ) < used.toNat / total.toNat ↔ _
    rw [lt_div_iff₀ (Nat.cast_pos.mpr hpos)]
    exact_mod_cast Iff.rfl

example : ratioExceeds .exact (90 * 2 ^ 24 + 1) (2 ^ 24) = true ∧
    ratioExceeds binary32 (90 * 2 ^ 24 + 1) (2 ^ 24) = false := by
  decide +kernel

example : ratioExceeds .exact (90 * (2 ^ 24 + 1)) (2 ^ 24 + 1) = false ∧
    ratioExceeds binary32 (90 * (2 ^ 24 + 1)) (2 ^ 24 + 1) = true := by
  decide +kernel

/-- Rounding does not lead from at most one to above ninety. -/
theorem ratioExceeds_of_le (h : used ≤ total) : ratioExceeds R used total = false := by
  unfold ratioExceeds
  by_cases hz : total = 0
  · rw [hz, UInt64.le_zero_iff] at h
    rw [if_pos hz, h]
    rfl
  · have hle : (used.toNat : ℚ) ≤ total.toNat :=
      Nat.cast_le.mpr (UInt64.le_iff_toNat_le.mp h)
    have hone : R.quotient used.toNat total.toNat ≤ 1 :=
      R.quotient_le_one (Nat.cast_nonneg _) hle
    rw [if_neg hz, decide_eq_false_iff_not, gt_iff_lt, not_lt]
    linarith

/-- Compared with ninety percent, a report of more than there is would not
    come to its subtraction. -/
theorem overused_of_lt (hsome : 0 < total) (h : total < used) : Overused used total := by
  rw [UInt64.lt_iff_toNat_lt] at h hsome
  have hpos : (0 : ℚ) < total.toNat := Nat.cast_pos.mpr hsome
  have hlt : (total.toNat : ℚ) < used.toNat := Nat.cast_lt.mpr h
  unfold Overused
  rw [gt_iff_lt, lt_div_iff₀ hpos]
  linarith

theorem atMostOneFree_eq_none_iff :
    atMostOneFree overflowChecks total used = none ↔ overflowChecks = true ∧ total < used := by
  unfold atMostOneFree
  by_cases h : (overflowChecks && decide (total < used)) = true
  · rw [if_pos h]
    rw [Bool.and_eq_true, decide_eq_true_iff] at h
    exact ⟨fun _ => h, fun _ => rfl⟩
  · rw [if_neg h]
    rw [Bool.and_eq_true, decide_eq_true_iff] at h
    exact ⟨fun hn => absurd hn (by simp only [reduceCtorEq, not_false_eq_true]),
      fun hp => absurd hp h⟩

/-- The difference of a report in order is what is free. -/
theorem sub_le_one_iff (h : used ≤ total) : total - used ≤ 1 ↔ Exhausted used total := by
  rw [UInt64.le_iff_toNat_le, UInt64.toNat_sub_of_le _ _ h, UInt64.toNat_one, Exhausted]
  omega

theorem atMostOneFree_of_le (h : used ≤ total) :
    atMostOneFree overflowChecks total used = some (decide (Exhausted used total)) := by
  have hno : ¬ (overflowChecks && decide (total < used)) = true := by
    rw [Bool.and_eq_true, decide_eq_true_iff]
    rintro ⟨_, hlt⟩
    exact absurd hlt (UInt64.not_lt.mpr h)
  rw [atMostOneFree, if_neg hno, decide_eq_decide.mpr (sub_le_one_iff h)]

theorem sub_toNat_iff : (total - used).toNat + used.toNat = total.toNat ↔ used ≤ total := by
  rw [UInt64.le_iff_toNat_le]
  constructor
  · intro h
    omega
  · intro h
    rw [UInt64.toNat_sub_of_le _ _ (UInt64.le_iff_toNat_le.mpr h)]
    omega

/-! ### The limits -/

theorem handleHardwareData_eq (R : Rounding ℚ) (overflowChecks : Bool) (d : HardwareData)
    (cpuLimit : ℚ) :
    handleHardwareData R overflowChecks d cpuLimit =
      if decidedEarly R d cpuLimit then some .critical
      else match atMostOneFree overflowChecks d.totalSwap d.usedSwap with
        | none => none
        | some true => some .critical
        | some false => match atMostOneFree overflowChecks d.totalMemory d.usedMemory with
          | none => none
          | some true => some .critical
          | some false => some .normal := rfl

/-- The comparisons have no part in it. -/
theorem decidedEarly_of_wellFormed (h : WellFormed d) :
    decidedEarly R d cpuLimit = decide (d.cpuUsage > cpuLimit) := by
  rw [decidedEarly, ratioExceeds_of_le h.memory, ratioExceeds_of_le h.swap, Bool.or_false,
    Bool.or_false]

theorem handleHardwareData_of_wellFormed (h : WellFormed d) :
    handleHardwareData R overflowChecks d cpuLimit =
      if d.cpuUsage > cpuLimit ∨ Exhausted d.usedSwap d.totalSwap ∨
        Exhausted d.usedMemory d.totalMemory then some .critical else some .normal := by
  rw [handleHardwareData_eq, decidedEarly_of_wellFormed h, atMostOneFree_of_le h.swap,
    atMostOneFree_of_le h.memory]
  by_cases hcpu : d.cpuUsage > cpuLimit
  · simp only [hcpu, decide_true, if_true, true_or]
  · simp only [hcpu, decide_false, Bool.false_eq_true, if_false, false_or]
    by_cases hswap : Exhausted d.usedSwap d.totalSwap
    · simp only [hswap, decide_true, true_or, if_true]
    · by_cases hmemory : Exhausted d.usedMemory d.totalMemory
      · simp only [hswap, hmemory, decide_false, decide_true, or_true, if_true]
      · simp only [hswap, hmemory, decide_false, or_self, if_false]

theorem critical_iff_of_wellFormed (h : WellFormed d) :
    handleHardwareData R overflowChecks d cpuLimit = some .critical ↔
      d.cpuUsage > cpuLimit ∨ Exhausted d.usedSwap d.totalSwap ∨
        Exhausted d.usedMemory d.totalMemory := by
  rw [handleHardwareData_of_wellFormed h]
  by_cases hc : d.cpuUsage > cpuLimit ∨ Exhausted d.usedSwap d.totalSwap ∨
      Exhausted d.usedMemory d.totalMemory
  · rw [if_pos hc]
    exact ⟨fun _ => hc, fun _ => rfl⟩
  · rw [if_neg hc]
    exact ⟨fun hn => absurd hn (by simp only [Option.some.injEq, reduceCtorEq, not_false_eq_true]),
      fun hp => absurd hp hc⟩

/-- Of no swap none is free. -/
theorem exhausted_zero (used : UInt64) : Exhausted used 0 := Nat.zero_le _

/-- Every machine without swap is critical. -/
theorem critical_of_no_swap (h : WellFormed d) (hz : d.totalSwap = 0) :
    handleHardwareData R overflowChecks d cpuLimit = some .critical := by
  rw [critical_iff_of_wellFormed h, hz]
  exact Or.inr (Or.inl (exhausted_zero d.usedSwap))

/-- A report in order is classified by the limits exactly if the tests
    suffice for it, and the rounding has no part in it. -/
theorem critical_iff_overloaded_iff (R : Rounding ℚ) (overflowChecks : Bool) (d : HardwareData)
    (cpuLimit : ℚ) (h : WellFormed d) :
    (handleHardwareData R overflowChecks d cpuLimit = some .critical ↔ Overloaded d cpuLimit) ↔
      TestsSuffice d cpuLimit := by
  rw [critical_iff_of_wellFormed h, Overloaded, TestsSuffice]
  by_cases hz : d.totalSwap = 0
  · -- The machine is critical, and of the other limits two can be the reason.
    simp only [hz, exhausted_zero, gt_iff_lt, UInt64.lt_irrefl, false_and, true_and, true_or,
      or_true, false_or, or_false, true_iff]
    rw [or_comm (a := Overused d.usedMemory d.totalMemory)]
  · have hsome : d.totalSwap > 0 := UInt64.pos_iff_ne_zero.mpr hz
    simp only [hz, hsome, false_and, true_and, false_or]
    by_cases hcpu : d.cpuUsage > cpuLimit
    · simp only [hcpu, true_or]
    · by_cases hswap : Exhausted d.usedSwap d.totalSwap
      · simp only [hswap, true_or, or_true]
      · by_cases hmemory : Exhausted d.usedMemory d.totalMemory
        · simp only [hmemory, true_or, or_true]
        · -- The machine is not critical, and only a percentage can be passed.
          simp only [hcpu, hswap, hmemory, or_false, false_or, false_iff, not_or]

/-- The report of a machine that has these counters and nothing to do. -/
def reportOf (totalMemory usedMemory totalSwap usedSwap : UInt64) : HardwareData where
  operatingSystem := "Linux"
  avgMemoryUsage := 0
  totalMemory := totalMemory
  usedMemory := usedMemory
  avgSwapUsage := 0
  totalSwap := totalSwap
  usedSwap := usedSwap
  cpuUsage := 1
  temperaturesData := { avgTemp := none, maxTemp := none }
  timestamp := ""

theorem reportOf_wellFormed {totalMemory usedMemory totalSwap usedSwap : UInt64}
    (hmemory : usedMemory ≤ totalMemory) (hswap : usedSwap ≤ totalSwap) (hsome : 0 < totalMemory) :
    WellFormed (reportOf totalMemory usedMemory totalSwap usedSwap) := ⟨hmemory, hswap, hsome⟩

/-- A quarter of the memory is used and half of the swap. -/
theorem half_used_followed :
    handleHardwareData .exact true (reportOf 16 4 8 4) 85 = some .critical ↔
      Overloaded (reportOf 16 4 8 4) 85 :=
  (critical_iff_overloaded_iff .exact true (reportOf 16 4 8 4) 85
    (reportOf_wellFormed (by decide) (by decide) (by decide))).mpr
      (Or.inr (Or.inr (Or.inr (Or.inr ⟨by decide, by decide +kernel, by decide +kernel⟩))))

/-- Critical for want of swap, and not critical with ninety-five percent of
    everything used. -/
theorem limits_not_followed :
    (WellFormed (reportOf 16 4 0 0) ∧
        handleHardwareData .exact true (reportOf 16 4 0 0) 85 = some .critical ∧
        ¬ Overloaded (reportOf 16 4 0 0) 85) ∧
      WellFormed (reportOf 100 95 100 95) ∧
        handleHardwareData .exact true (reportOf 100 95 100 95) 85 = some .normal ∧
        Overloaded (reportOf 100 95 100 95) 85 := by
  have hswapless : WellFormed (reportOf 16 4 0 0) :=
    reportOf_wellFormed (by decide) (by decide) (by decide)
  refine ⟨⟨hswapless, critical_of_no_swap hswapless rfl, by decide +kernel⟩,
    reportOf_wellFormed (by decide) (by decide) (by decide), ?_, ?_⟩
  · decide +kernel
  · decide +kernel

/-! ### The subtractions -/

/-- As long as nothing underflows it makes no difference whether overflow is
    checked. -/
theorem subtractions_nonneg_iff (R : Rounding ℚ) (overflowChecks : Bool) (d : HardwareData)
    (cpuLimit : ℚ) :
    (∀ p ∈ subtractions R overflowChecks d cpuLimit, p.used ≤ p.total) ↔ Guarded R d cpuLimit := by
  unfold subtractions Guarded
  by_cases hearly : decidedEarly R d cpuLimit = true
  · rw [if_pos hearly]
    exact ⟨fun _ => Or.inl hearly, fun _ p hp => absurd hp (List.not_mem_nil)⟩
  · rw [if_neg hearly, List.forall_mem_cons, or_iff_right hearly]
    refine and_congr_right fun hswap => ?_
    rw [atMostOneFree_of_le hswap]
    by_cases hfree : Exhausted d.usedSwap d.totalSwap
    · -- The memory is not looked at.
      rw [decide_eq_true hfree]
      exact ⟨fun _ => Or.inl hfree, fun _ p hp => absurd hp (List.not_mem_nil)⟩
    · rw [decide_eq_false hfree, or_iff_right hfree]
      exact List.forall_mem_singleton

/-- With overflow checked the classification panics exactly if a subtraction
    underflows, and else it never does. -/
theorem handleHardwareData_eq_none_iff (R : Rounding ℚ) (overflowChecks : Bool)
    (d : HardwareData) (cpuLimit : ℚ) :
    handleHardwareData R overflowChecks d cpuLimit = none ↔ overflowChecks = true ∧
      ∃ p ∈ subtractions R overflowChecks d cpuLimit, p.total < p.used := by
  rw [handleHardwareData_eq, subtractions]
  by_cases hearly : decidedEarly R d cpuLimit = true
  · simp only [if_pos hearly, reduceCtorEq, List.not_mem_nil, false_and, exists_false, and_false]
  · simp only [if_neg hearly, List.mem_cons, exists_eq_or_imp]
    rcases hswap : atMostOneFree overflowChecks d.totalSwap d.usedSwap with _ | free
    · have hpanic := atMostOneFree_eq_none_iff.mp hswap
      exact ⟨fun _ => ⟨hpanic.1, Or.inl hpanic.2⟩, fun _ => rfl⟩
    · have hno : ¬ (overflowChecks = true ∧ d.totalSwap < d.usedSwap) := by
        rw [← atMostOneFree_eq_none_iff, hswap]
        simp only [reduceCtorEq, not_false_eq_true]
      rw [and_or_left, or_iff_right hno]
      cases free with
      | true => simp only [List.not_mem_nil, false_and, exists_false, and_false, reduceCtorEq]
      | false =>
          -- The memory is next.
          simp only [List.mem_singleton, exists_eq_left]
          rw [← atMostOneFree_eq_none_iff]
          rcases atMostOneFree overflowChecks d.totalMemory d.usedMemory with _ | _ | _
          · exact ⟨fun _ => rfl, fun _ => rfl⟩
          · simp only [reduceCtorEq]
          · simp only [reduceCtorEq]

/-- No subtraction of a report goes below zero exactly if the tests before it,
    with whatever rounding they have, let through what it can take. -/
theorem noUnderflow_iff (R : Rounding ℚ) (d : HardwareData) (cpuLimit : ℚ) :
    NoUnderflow R d cpuLimit ↔ Guarded R d cpuLimit := by
  constructor
  · intro h
    exact (subtractions_nonneg_iff R true d cpuLimit).mp (h.nonneg true)
  · intro h
    have hnonneg := fun overflowChecks =>
      (subtractions_nonneg_iff R overflowChecks d cpuLimit).mpr h
    refine ⟨hnonneg, ?_, ?_⟩
    · intro hnone
      rcases ((handleHardwareData_eq_none_iff R true d cpuLimit).mp hnone).2 with ⟨p, hp, hlt⟩
      exact absurd hlt (UInt64.not_lt.mpr (hnonneg true p hp))
    · intro p hp
      exact sub_toNat_iff.mpr (hnonneg false p hp)

/-- More swap is used than there is, by less than ninety times: a panic with
    overflow checked, and without it so much swap is free that nothing is the
    matter. -/
theorem swap_underflows :
    ¬ NoUnderflow binary32 (reportOf 16 4 2 3) 85 ∧
      handleHardwareData binary32 true (reportOf 16 4 2 3) 85 = none ∧
      handleHardwareData binary32 false (reportOf 16 4 2 3) 85 = some .normal := by
  have hpanic : handleHardwareData binary32 true (reportOf 16 4 2 3) 85 = none := by decide +kernel
  exact ⟨fun h => h.no_panic hpanic, hpanic, by decide +kernel⟩

end Proxy

open Proxy

namespace Relay

/-- A report stops the relay exactly if overflow is checked and a subtraction
    is not guarded. -/
theorem received_healthUpdate_eq_none_iff (env : Env) (s : Relay) (id : String) (d : HardwareData)
    (timestamp : String) : received env s id (.healthUpdate d timestamp) = none ↔
      env.overflowChecks = true ∧ ¬ Guarded binary32 d 85 := by
  have hpanic : handleHardwareData binary32 env.overflowChecks d 85 = none ↔
      env.overflowChecks = true ∧ ¬ Guarded binary32 d 85 := by
    rw [handleHardwareData_eq_none_iff, ← subtractions_nonneg_iff binary32 env.overflowChecks]
    simp only [not_forall, UInt64.not_le, exists_prop]
  rw [← hpanic, received]
  rcases handleHardwareData binary32 env.overflowChecks d 85 with _ | status
  · exact ⟨fun _ => rfl, fun _ => rfl⟩
  · simp only [reduceCtorEq]

end Relay

end Rathole
