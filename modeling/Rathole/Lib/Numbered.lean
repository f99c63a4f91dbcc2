import Mathlib.Algebra.GroupWithZero.Nat
import Mathlib.Data.List.Basic
import Mathlib.Data.List.Perm.Subperm
import Mathlib.Data.List.Range
import Mathlib.Tactic.Common

/-!
# Numbered Families

The tasks of a system, or the objects it makes, as a list: each is named by
its number, a new one goes to the end, and none is ever taken out. A step
updates one of them, so whatever is said of all of them has to be shown for
the one that was updated and carried over for the others.

## Theorems

* `getElem?_append_cases`, `getElem?_set_cases`: Where a member comes from.
* `getElem?_updated`, `getElem?_kept`: Where a member is found.
* `forall_append`, `forall_set`: What holds of every member still does.
* `set_survives`: An update that keeps a feature keeps it for every member.
* `sum_map_set`: What an update does to a sum over the members.
* `length_le_filter`: Different numbers of members with a property are at most
  as many as these members.
-/

namespace Numbered

variable {α : Type} {l : List α}

theorem getElem?_append_cases {j : Nat} {a b : α} (h : (l ++ [a])[j]? = some b) :
    l[j]? = some b ∨ (j = l.length ∧ b = a) := by
  rcases Nat.lt_trichotomy j l.length with hj | hj | hj
  · rw [List.getElem?_append_left hj] at h
    exact Or.inl h
  · rw [hj, List.getElem?_concat_length] at h
    exact Or.inr ⟨hj, (Option.some.inj h).symm⟩
  · rw [List.getElem?_eq_none (by rw [List.length_append, List.length_singleton]; omega)] at h
    simp only [reduceCtorEq] at h

theorem getElem?_set_cases {i j : Nat} {a b : α} (h : (l.set i a)[j]? = some b) :
    (j = i ∧ b = a) ∨ (j ≠ i ∧ l[j]? = some b) := by
  by_cases hij : j = i
  · subst hij
    rw [List.getElem?_set, if_pos rfl, Option.ite_none_right_eq_some] at h
    exact Or.inl ⟨rfl, (Option.some.inj h.2).symm⟩
  · rw [List.getElem?_set_ne (Ne.symm hij)] at h
    exact Or.inr ⟨hij, h⟩

/-- A member that is there can be updated. -/
theorem getElem?_updated {i : Nat} {a a' : α} (h : l[i]? = some a) :
    (l.set i a')[i]? = some a' :=
  List.getElem?_set_self (List.getElem?_eq_some_iff.mp h).fst

/-- New members leave those that are there in their places. -/
theorem getElem?_kept {l' : List α} {i : Nat} {a : α} (h : l[i]? = some a) :
    (l ++ l')[i]? = some a :=
  (List.getElem?_append_left (List.getElem?_eq_some_iff.mp h).fst).trans h

/-- Updating the newest member. -/
theorem set_concat_length (l : List α) (a b : α) : (l ++ [a]).set l.length b = l ++ [b] := by
  rw [List.set_append_right l.length b (Nat.le_refl _), Nat.sub_self]
  rfl

/-- What holds of every member holds after a new one came, if it holds of the
    new one. -/
theorem forall_append {P : Nat → α → Prop} {a : α}
    (hl : ∀ (j : Nat) (b : α), l[j]? = some b → P j b)
    (ha : P l.length a) : ∀ (j : Nat) (b : α), (l ++ [a])[j]? = some b → P j b := by
  intro j b h
  rcases getElem?_append_cases h with hb | ⟨hj, hb⟩
  · exact hl j b hb
  · rw [hj, hb]
    exact ha

/-- What holds of every member holds after one was updated, if it holds of the
    update. -/
theorem forall_set {P : Nat → α → Prop} {i : Nat} {a : α}
    (hl : ∀ (j : Nat) (b : α), l[j]? = some b → P j b) (ha : P i a) :
    ∀ (j : Nat) (b : α), (l.set i a)[j]? = some b → P j b := by
  intro j b h
  rcases getElem?_set_cases h with ⟨hj, hb⟩ | ⟨_, hb⟩
  · rw [hj, hb]
    exact ha
  · exact hl j b hb

/-- An update that keeps a feature of its member keeps it for every member. -/
theorem set_survives {γ : Type} (f : α → γ) {i : Nat} {a : α} (a' : α) (hi : l[i]? = some a)
    (hf : f a' = f a) {j : Nat} {b : α} (hb : l[j]? = some b) :
    ∃ b', (l.set i a')[j]? = some b' ∧ f b' = f b := by
  by_cases hij : j = i
  · subst hij
    rw [hi, Option.some.injEq] at hb
    exact ⟨a', getElem?_updated hi, by rw [hf, hb]⟩
  · exact ⟨b, (List.getElem?_set_ne (Ne.symm hij)).trans hb, rfl⟩

theorem append_survives {γ : Type} (f : α → γ) (a : α) {j : Nat} {b : α} (hb : l[j]? = some b) :
    ∃ b', (l ++ [a])[j]? = some b' ∧ f b' = f b :=
  ⟨b, getElem?_kept hb, rfl⟩

/-- A sum over the members after one of them was updated. -/
theorem sum_map_set (f : α → Nat) {i : Nat} {a : α} (a' : α) (hi : l[i]? = some a) :
    ((l.set i a').map f).sum + f a = (l.map f).sum + f a' := by
  induction l generalizing i with
  | nil => simp only [List.getElem?_nil, reduceCtorEq] at hi
  | cons b l ih =>
      cases i with
      | zero =>
          rw [List.getElem?_cons_zero, Option.some.injEq] at hi
          rw [List.set_cons_zero, List.map_cons, List.map_cons, List.sum_cons, List.sum_cons, hi]
          omega
      | succ i =>
          rw [List.getElem?_cons_succ] at hi
          have hrest := ih hi
          rw [List.set_cons_succ, List.map_cons, List.map_cons, List.sum_cons, List.sum_cons]
          omega

theorem countP_range (p : α → Bool) (l : List α) :
    (List.range l.length).countP (fun i => (l[i]?).any p) = l.countP p := by
  induction l with
  | nil => rfl
  | cons a l ih =>
      rw [List.length_cons, List.range_succ_eq_map, List.countP_cons, List.countP_map,
        List.countP_cons, ← ih]
      rfl

theorem length_le_filter {p : α → Bool} {ns : List Nat} (hnodup : ns.Nodup)
    (hp : ∀ n ∈ ns, ∃ a, l[n]? = some a ∧ p a) : ns.length ≤ (l.filter p).length := by
  have hsub : ns ⊆ (List.range l.length).filter (fun i => (l[i]?).any p) := by
    intro n hn
    rcases hp n hn with ⟨a, ha, hpa⟩
    rw [List.mem_filter, List.mem_range, ha]
    exact ⟨(List.getElem?_eq_some_iff.mp ha).fst, hpa⟩
  have hle := (List.subperm_of_subset hnodup hsub).length_le
  rw [← List.countP_eq_length_filter, countP_range, List.countP_eq_length_filter] at hle
  exact hle

end Numbered
