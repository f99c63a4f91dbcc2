import Mathlib.Logic.Basic

/-!
# Values, Errors and Panics

A computation ends with a value, with an error that its caller handles, or in
a panic, which nobody handles. `Completion π α` is `Except` with the two ways of
failing kept apart, and `?`, `ok_or_else` and `unwrap` are functions into it.

A program is made of these by sequencing. Two questions about it, when it ends
with a given value and when it ends in a panic of a given kind, are answered
part by part: the rules here take each apart at a bind and settle it at the
leaves.

## Main definitions

* `Fault`, `Completion`: How a computation ends.
* `ensure`, `demand`, `okOr`, `unwrap`: A test, and what may be missing.
* `Completion.Panics`: It ends in a panic of some kind.

## Theorems

* `Completion.bind_eq_ok`, `Completion.panics_bind`: The rules of sequencing.
-/

/-- How a computation fails. -/
inductive Fault (π : Type)
  | error
  | panic (p : π)
deriving DecidableEq, Repr

/-- A value, or the fault instead of it. -/
abbrev Completion (π α : Type) := Except (Fault π) α

variable {π α γ : Type}

/-- The `?` of something that went well or not. -/
def ensure (ok : Bool) : Completion π Unit := if ok then .ok () else .error .error

/-- A test that fails in a way of its own. -/
def demand (ok : Bool) (f : Fault π) : Completion π Unit := if ok then .ok () else .error f

/-- `ok_or_else` and `?` -/
def okOr : Option α → Completion π α
  | some a => .ok a
  | none => .error .error

/-- `unwrap` and `expect`, at the place `p`. -/
def unwrap (p : π) : Option α → Completion π α
  | some a => .ok a
  | none => .error (.panic p)

namespace Completion

/-- It ends in a panic at a place of `Q`. -/
def Panics (Q : π → Prop) (x : Completion π α) : Prop := ∃ p, x = .error (.panic p) ∧ Q p

variable {Q : π → Prop}

/-! ### Values -/

theorem bind_eq_ok {x : Completion π α} {f : α → Completion π γ} {c : γ} :
    (x >>= f) = .ok c ↔ ∃ a, x = .ok a ∧ f a = .ok c := by
  cases x with
  | error e => simp only [bind, Except.bind, reduceCtorEq, false_and, exists_false]
  | ok a => simp only [bind, Except.bind, Except.ok.injEq, exists_eq_left']

theorem pure_eq_ok {a b : α} : (pure a : Completion π α) = .ok b ↔ a = b := by
  simp only [pure, Except.pure, Except.ok.injEq]

theorem map_eq_ok {x : Completion π α} {f : α → γ} {c : γ} :
    x.map f = .ok c ↔ ∃ a, x = .ok a ∧ f a = c := by
  cases x with
  | error e => simp only [Except.map, reduceCtorEq, false_and, exists_false]
  | ok a => simp only [Except.map, Except.ok.injEq, exists_eq_left']

@[simp] theorem ensure_eq_ok {ok : Bool} {u : Unit} :
    (ensure ok : Completion π Unit) = .ok u ↔ ok = true := by
  cases ok with
  | true => simp only [ensure, if_true]
  | false => simp only [ensure, Bool.false_eq_true, if_false, reduceCtorEq]

@[simp] theorem demand_eq_ok {ok : Bool} {f : Fault π} {u : Unit} :
    demand ok f = .ok u ↔ ok = true := by
  cases ok with
  | true => simp only [demand, if_true]
  | false => simp only [demand, Bool.false_eq_true, if_false, reduceCtorEq]

@[simp] theorem okOr_eq_ok {o : Option α} {a : α} :
    (okOr o : Completion π α) = .ok a ↔ o = some a := by
  cases o with
  | none => simp only [okOr, reduceCtorEq]
  | some b => simp only [okOr, Except.ok.injEq, Option.some.injEq]

@[simp] theorem unwrap_eq_ok {p : π} {o : Option α} {a : α} :
    unwrap p o = .ok a ↔ o = some a := by
  cases o with
  | none => simp only [unwrap, reduceCtorEq]
  | some b => simp only [unwrap, Except.ok.injEq, Option.some.injEq]

/-! ### Panics -/

/-- A panic comes from the first part, or from the second after the first has
    ended with a value. -/
theorem panics_bind {x : Completion π α} {f : α → Completion π γ} :
    Panics Q (x >>= f) ↔ Panics Q x ∨ ∃ a, x = .ok a ∧ Panics Q (f a) := by
  cases x with
  | error e => simp only [Panics, bind, Except.bind, Except.error.injEq, reduceCtorEq, false_and,
      exists_false, or_false]
  | ok a => simp only [Panics, bind, Except.bind, reduceCtorEq, false_and, exists_false, false_or,
      Except.ok.injEq, exists_eq_left']

theorem panics_map {x : Completion π α} {f : α → γ} : Panics Q (x.map f) ↔ Panics Q x := by
  cases x with
  | error e => simp only [Panics, Except.map, Except.error.injEq]
  | ok a => simp only [Panics, Except.map, reduceCtorEq, false_and, exists_false]

@[simp] theorem not_panics_ok (a : α) : ¬ Panics Q (.ok a : Completion π α) := by
  simp only [Panics, reduceCtorEq, false_and, exists_false, not_false_eq_true]

@[simp] theorem not_panics_pure (a : α) : ¬ Panics Q (pure a : Completion π α) := not_panics_ok a

@[simp] theorem not_panics_error : ¬ Panics Q (.error .error : Completion π α) := by
  simp only [Panics, Except.error.injEq, reduceCtorEq, false_and, exists_false,
    not_false_eq_true]

@[simp] theorem panics_panic {p : π} : Panics Q (.error (.panic p) : Completion π α) ↔ Q p := by
  simp only [Panics, Except.error.injEq, Fault.panic.injEq, exists_eq_left']

@[simp] theorem not_panics_ensure (ok : Bool) : ¬ Panics Q (ensure ok : Completion π Unit) := by
  cases ok with
  | true => exact not_panics_ok ()
  | false => exact not_panics_error

@[simp] theorem not_panics_demand (ok : Bool) :
    ¬ Panics Q (demand ok .error : Completion π Unit) := by
  cases ok with
  | true => exact not_panics_ok ()
  | false => exact not_panics_error

@[simp] theorem panics_demand {ok : Bool} {p : π} :
    Panics Q (demand ok (.panic p)) ↔ ok = false ∧ Q p := by
  cases ok with
  | true => simp only [demand, if_true, not_panics_ok, Bool.true_eq_false, false_and]
  | false => simp only [demand, Bool.false_eq_true, if_false, panics_panic, true_and]

@[simp] theorem not_panics_okOr (o : Option α) : ¬ Panics Q (okOr o : Completion π α) := by
  cases o with
  | none => exact not_panics_error
  | some a => exact not_panics_ok a

@[simp] theorem panics_unwrap {p : π} {o : Option α} :
    Panics Q (unwrap p o) ↔ o = none ∧ Q p := by
  cases o with
  | none => simp only [unwrap, panics_panic, true_and]
  | some a => simp only [unwrap, not_panics_ok, reduceCtorEq, false_and]

end Completion
