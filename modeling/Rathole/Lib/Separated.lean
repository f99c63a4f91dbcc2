import Mathlib.Data.List.TakeWhile

/-!
# Separated Lists

A list of pieces written as one, with a separator between them, and read back
by splitting at the separator and stripping padding off both ends of each
piece. A separator of two elements, of which the second is padding, is read
like the first one alone.

## Main definitions

* `strip`: A list without the padding at its ends.
* `Bare`: A list without any there.

## Theorems

* `strip_of_bare`, `bare_strip`: Stripping leaves what is bare, and makes bare.
* `strip_cons_of_pos`: Padding in front does not matter.
* `map_strip_splitOn`: The pieces are read back.
-/

namespace Separated

variable {α β : Type} (p : α → Bool)

/-- The list without the padding at its ends. -/
def strip (l : List α) : List α := ((l.dropWhile p).reverse.dropWhile p).reverse

/-- Neither the first nor the last element is padding. -/
structure Bare (l : List α) : Prop where
  head : ∀ a, l.head? = some a → ¬ p a = true
  last : ∀ a, l.getLast? = some a → ¬ p a = true

variable {p} {l : List α} {a : α}

theorem dropWhile_of_head (h : ∀ a, l.head? = some a → ¬ p a = true) : l.dropWhile p = l := by
  cases l with
  | nil => rfl
  | cons a l => exact List.dropWhile_cons_of_neg (h a rfl)

theorem strip_of_bare (h : Bare p l) : strip p l = l := by
  have hlast : ∀ a, l.reverse.head? = some a → ¬ p a = true := by
    intro a ha
    rw [List.head?_reverse] at ha
    exact h.last a ha
  rw [strip, dropWhile_of_head h.head, dropWhile_of_head hlast, List.reverse_reverse]

theorem not_of_head_dropWhile (h : (l.dropWhile p).head? = some a) : ¬ p a = true := by
  have hnot := List.head?_dropWhile_not p l
  rw [h] at hnot
  simpa only [Bool.not_eq_true] using hnot

theorem bare_strip (p : α → Bool) (l : List α) : Bare p (strip p l) := by
  constructor
  · intro a ha
    -- What is stripped off the end does not change the head, if one is left.
    rw [strip, List.head?_reverse] at ha
    have hne : (l.dropWhile p).reverse.dropWhile p ≠ [] := by
      intro hnil
      rw [hnil] at ha
      simp only [List.getLast?_nil, reduceCtorEq] at ha
    have hsame := (List.dropWhile_suffix p).getLast hne
    rw [List.getLast?_eq_some_getLast hne, hsame, ← List.getLast?_eq_some_getLast,
      List.getLast?_reverse] at ha
    exact not_of_head_dropWhile ha
  · intro a ha
    rw [strip, List.getLast?_reverse] at ha
    exact not_of_head_dropWhile ha

theorem bare_iff : Bare p l ↔ strip p l = l :=
  ⟨strip_of_bare, fun h => h ▸ bare_strip p l⟩

theorem strip_cons_of_pos (h : p a = true) (l : List α) : strip p (a :: l) = strip p l := by
  rw [strip, List.dropWhile_cons_of_pos h, strip]

theorem mem_of_mem_strip (h : a ∈ strip p l) : a ∈ l := by
  have hfront := (List.dropWhile_sublist _).subset (List.mem_reverse.mp h)
  exact (List.dropWhile_sublist _).subset (List.mem_reverse.mp hfront)

/-- Only the padding is looked at. -/
theorem Bare.map {q : β → Bool} {f : α → β} (hl : Bare p l) (h : ∀ a ∈ l, q (f a) = p a) :
    Bare q (l.map f) := by
  constructor
  · intro b hb
    rw [List.head?_map, Option.map_eq_some_iff] at hb
    rcases hb with ⟨a, ha, rfl⟩
    rw [h a (List.mem_of_head? ha)]
    exact hl.head a ha
  · intro b hb
    rw [List.getLast?_map, Option.map_eq_some_iff] at hb
    rcases hb with ⟨a, ha, rfl⟩
    rw [h a (List.mem_of_getLast? ha)]
    exact hl.last a ha

/-- A separator inside is no padding, so what is bare on both sides of it is
    bare as a whole. -/
theorem Bare.join {l₁ l₂ : List α} (h₁ : Bare p l₁) (h₂ : Bare p l₂) (ha : ¬ p a = true) :
    Bare p (l₁ ++ a :: l₂) := by
  constructor
  · intro b hb
    cases l₁ with
    | nil =>
        rw [List.nil_append, List.head?_cons, Option.some.injEq] at hb
        rwa [← hb]
    | cons c l₁ => exact h₁.head b hb
  · intro b hb
    rw [List.getLast?_append, List.getLast?_cons, Option.some_or, Option.some.injEq] at hb
    cases hlast : l₂.getLast? with
    | none =>
        rw [hlast, Option.getD_none] at hb
        rwa [← hb]
    | some c =>
        rw [hlast, Option.getD_some] at hb
        exact h₂.last b (by rw [hlast, hb])

/-- The padding of the separator goes to the pieces after the first. -/
theorem intercalate_padded (sep pad : α) (piece : List α) (pieces : List (List α)) :
    [sep, pad].intercalate (piece :: pieces) =
      [sep].intercalate (piece :: pieces.map (fun piece => pad :: piece)) := by
  induction pieces generalizing piece with
  | nil => rfl
  | cons next pieces ih =>
      rw [List.map_cons, List.intercalate_cons_cons, List.intercalate_cons_cons, ih next,
        List.intercalate_cons_cons_left, List.append_assoc, List.append_assoc]
      rfl

/-- Bare pieces without the separator are read back one by one. -/
theorem map_strip_splitOn [BEq α] [LawfulBEq α] {sep pad : α} (hpad : p pad = true)
    (hne : pad ≠ sep) {pieces : List (List α)} (hpieces : pieces ≠ [])
    (hsep : ∀ piece ∈ pieces, sep ∉ piece) (hbare : ∀ piece ∈ pieces, Bare p piece) :
    (([sep, pad].intercalate pieces).splitOn sep).map (strip p) = pieces := by
  cases pieces with
  | nil => exact absurd rfl hpieces
  | cons piece pieces =>
      rw [List.forall_mem_cons] at hsep hbare
      rw [intercalate_padded, List.splitOn_intercalate sep ?_ (List.cons_ne_nil _ _),
        List.map_cons, List.map_map, strip_of_bare hbare.1]
      · refine congrArg _ ((List.map_congr_left fun piece hpiece => ?_).trans (List.map_id pieces))
        exact (strip_cons_of_pos hpad piece).trans (strip_of_bare (hbare.2 piece hpiece))
      · intro padded hpadded
        rcases List.mem_cons.mp hpadded with rfl | hmem
        · exact hsep.1
        · rcases List.mem_map.mp hmem with ⟨piece, hpiece, rfl⟩
          rw [List.mem_cons, not_or]
          exact ⟨hne.symm, hsep.2 piece hpiece⟩

end Separated
