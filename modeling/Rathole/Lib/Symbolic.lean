import Mathlib.Data.Set.Basic
import Mathlib.Tactic.Common

/-!
# Symbolic Hashing

What an attacker can compute when hashes are perfect. A symbol is an atom or
one of the symbols of a hash, and a hash is its preimage: different preimages
have different hashes. An attacker can hash what it can compute, and gets
nothing back out of a hash.

Among the atoms some are drawn at random while the system runs and may become
known (`¬ p`), the others are there from the start (`p`). Two facts decide
what knowing the random ones is good for. They are of no help for anything
they do not occur in, and a hash they do occur in was computed from its
preimage, since nobody could have known it from the start.

## Main definitions

* `Symbol`: An atom, or one of the symbols of a hash.
* `Derivable`: What can be computed from a set of symbols.
* `Over`: All atoms of a symbol have a property.

## Theorems

* `Derivable.mono`, `Derivable.cut`: What is computed from what can be
  computed can be computed.
* `Derivable.without`: Random atoms do not help for what they do not occur in.
* `Derivable.preimage`: A hash of a random atom needs its preimage.
-/

namespace Symbolic

variable {α : Type}

/-- An atom, or symbol `i` of the hash of a sequence of symbols. -/
inductive Symbol (α : Type)
  | atom (a : α)
  | hash (xs : List (Symbol α)) (i : Nat)

mutual

/-- Equality of symbols is decided along their structure. -/
def Symbol.decEq [DecidableEq α] : (x y : Symbol α) → Decidable (x = y)
  | .atom a, .atom b => decidable_of_iff (a = b) ⟨congrArg _, fun h => by injection h⟩
  | .atom _, .hash _ _ => isFalse (fun h => by injection h)
  | .hash _ _, .atom _ => isFalse (fun h => by injection h)
  | .hash xs i, .hash ys j =>
      match Symbol.decEqList xs ys with
      | isTrue hxs => decidable_of_iff (i = j)
          ⟨fun hi => by rw [hxs, hi], fun h => by injection h⟩
      | isFalse hxs => isFalse (fun h => hxs (by injection h))

/-- Equality of sequences of symbols. -/
def Symbol.decEqList [DecidableEq α] : (xs ys : List (Symbol α)) → Decidable (xs = ys)
  | [], [] => isTrue rfl
  | [], _ :: _ => isFalse (fun h => by injection h)
  | _ :: _, [] => isFalse (fun h => by injection h)
  | x :: xs, y :: ys =>
      match Symbol.decEq x y with
      | isTrue hx => match Symbol.decEqList xs ys with
        | isTrue hxs => isTrue (by rw [hx, hxs])
        | isFalse hxs => isFalse (fun h => hxs (by injection h))
      | isFalse hx => isFalse (fun h => hx (by injection h))

end

instance [DecidableEq α] : DecidableEq (Symbol α) := Symbol.decEq

/-- What can be computed from the symbols of a set: these, and the hash of
    anything that can be computed. -/
inductive Derivable (K : Set (Symbol α)) : Symbol α → Prop
  | known {x : Symbol α} (h : x ∈ K) : Derivable K x
  | hash {xs : List (Symbol α)} (i : Nat) (h : ∀ x ∈ xs, Derivable K x) :
      Derivable K (.hash xs i)

/-- All atoms of a symbol have the property, those under a hash included. -/
inductive Over (p : α → Prop) : Symbol α → Prop
  | atom {a : α} (h : p a) : Over p (.atom a)
  | hash {xs : List (Symbol α)} (i : Nat) (h : ∀ x ∈ xs, Over p x) : Over p (.hash xs i)

variable {K L : Set (Symbol α)} {p : α → Prop}

theorem over_atom_iff {a : α} : Over p (.atom a) ↔ p a := by
  constructor
  · intro h
    cases h with
    | atom h => exact h
  · exact Over.atom

theorem over_hash_iff {xs : List (Symbol α)} {i : Nat} :
    Over p (.hash xs i) ↔ ∀ x ∈ xs, Over p x := by
  constructor
  · intro h
    cases h with
    | hash _ h => exact h
  · exact Over.hash i

/-- What is computed from what can be computed can be computed. -/
theorem Derivable.cut (h : ∀ x ∈ K, Derivable L x) {x : Symbol α} (hx : Derivable K x) :
    Derivable L x := by
  induction hx with
  | known hin => exact h _ hin
  | hash i _ ih => exact Derivable.hash i ih

theorem Derivable.mono (hKL : K ⊆ L) {x : Symbol α} (hx : Derivable K x) : Derivable L x :=
  Derivable.cut (fun _ h => Derivable.known (hKL h)) hx

/-- The atoms that do not have the property. -/
def randomAtoms (p : α → Prop) : Set (Symbol α) := {x | ∃ a, x = .atom a ∧ ¬ p a}

/-- Random atoms do not help to compute a symbol they do not occur in. -/
theorem Derivable.without {x : Symbol α} (hx : Derivable (K ∪ randomAtoms p) x)
    (hover : Over p x) : Derivable K x := by
  induction hx with
  | known hin =>
      rcases hin with hin | ⟨a, ha, hnot⟩
      · exact Derivable.known hin
      · rw [ha, over_atom_iff] at hover
        exact absurd hover hnot
  | hash i _ ih =>
      rw [over_hash_iff] at hover
      exact Derivable.hash i (fun y hy => ih y hy (hover y hy))

/-- A hash in which a random atom occurs was not known from the start, so it
    was computed from its preimage. -/
theorem Derivable.preimage (hK : ∀ x ∈ K, Over p x) {xs : List (Symbol α)} {i : Nat}
    (hx : Derivable (K ∪ randomAtoms p) (.hash xs i)) (hnot : ¬ Over p (.hash xs i)) :
    ∀ x ∈ xs, Derivable (K ∪ randomAtoms p) x := by
  cases hx with
  | known hin =>
      rcases hin with hin | ⟨a, ha, _⟩
      · exact absurd (hK _ hin) hnot
      · simp only [reduceCtorEq] at ha
  | hash _ h => exact h

end Symbolic
