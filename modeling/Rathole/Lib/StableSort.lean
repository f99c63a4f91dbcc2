import Mathlib.Data.List.Sort

/-!
# The Head of a Stable Sort

Sorting a list only to look at its first element is a search for a best one.
Which of several equally good elements comes first is decided by the list: a
stable sort keeps them in order. `Ahead` is the order that settles all ties,
and the head of the sorted list is the one element that is ahead of all
others.

## Main definitions

* `Ahead`: Strictly better, or as good and earlier in the list.

## Theorems

* `not_ahead_of_ahead`: Two elements are not ahead of each other.
* `mem_of_head`: The head of the sorted list is an element.
* `ahead_of_head`: It is ahead of every other one.
-/

namespace StableSort

variable {α : Type} (r : α → α → Prop)

/-- `x` is better than `y`, or as good as `y` and earlier in the list. -/
def Ahead (l : List α) (x y : α) : Prop := ¬ r y x ∨ (r x y ∧ [x, y].Sublist l)

variable {r} {l : List α} {x y : α}

/-- Two different elements of a list without duplicates come in one order. -/
theorem not_sublist_swap (hl : l.Nodup) (h : [x, y].Sublist l) : ¬ [y, x].Sublist l := by
  induction l with
  | nil => exact absurd h (by simp only [List.sublist_nil, reduceCtorEq, not_false_eq_true])
  | cons a l ih =>
      intro h'
      rw [List.nodup_cons] at hl
      rcases List.sublist_cons_iff.mp h with hxy | ⟨l₁, hl₁, hxy⟩
      · rcases List.sublist_cons_iff.mp h' with hyx | ⟨l₂, hl₂, _⟩
        · exact ih hl.2 hxy hyx
        · rw [List.cons.injEq] at hl₂
          exact hl.1 (hl₂.1 ▸ hxy.subset (List.mem_cons_of_mem _ (List.mem_singleton.mpr rfl)))
      · rw [List.cons.injEq] at hl₁
        rcases List.sublist_cons_iff.mp h' with hyx | ⟨l₂, hl₂, hyx⟩
        · exact hl.1 (hl₁.1 ▸ hyx.subset (List.mem_cons_of_mem _ (List.mem_singleton.mpr rfl)))
        · rw [List.cons.injEq] at hl₂
          rw [← hl₂.2] at hyx
          exact hl.1 (hl₁.1 ▸ hyx.subset (List.mem_singleton.mpr rfl))

theorem not_ahead_of_ahead (htotal : ∀ a b, r a b ∨ r b a) (hl : l.Nodup) (h : Ahead r l x y) :
    ¬ Ahead r l y x := by
  intro h'
  rcases h with h | ⟨hxy, hsub⟩
  · rcases h' with h' | ⟨hyx, _⟩
    · rcases htotal x y with hr | hr
      · exact h' hr
      · exact h hr
    · exact h hyx
  · rcases h' with h' | ⟨_, hsub'⟩
    · exact h' hxy
    · exact not_sublist_swap hl hsub hsub'

section Head

variable [DecidableRel r]

/-- The head of a list into which an element was inserted is the element or
    the head of the list. -/
theorem head_orderedInsert (a : α) (l : List α) :
    (l.orderedInsert r a).head? = match l.head? with
      | none => some a
      | some b => if r a b then some a else some b := by
  cases l with
  | nil => rfl
  | cons b l =>
      rw [List.orderedInsert_cons, List.head?_cons]
      by_cases hab : r a b
      · rw [if_pos hab]
        simp only [List.head?_cons, if_pos hab]
      · rw [if_neg hab]
        simp only [List.head?_cons, if_neg hab]

theorem mem_of_head (h : (l.insertionSort r).head? = some x) : x ∈ l :=
  (List.mem_insertionSort r).mp (List.mem_of_head? h)

/-- The head of the sorted list is ahead of every other element. -/
theorem ahead_of_head (htotal : ∀ a b, r a b ∨ r b a) (htrans : ∀ a b c, r a b → r b c → r a c)
    (h : (l.insertionSort r).head? = some x) (hy : y ∈ l) (hne : y ≠ x) : Ahead r l x y := by
  induction l generalizing x y with
  | nil => exact absurd hy List.not_mem_nil
  | cons a l ih =>
      rw [List.insertionSort_cons, head_orderedInsert] at h
      rcases hb : (l.insertionSort r).head? with _ | b
      · -- The list has one element only.
        have hnil : l = [] := by
          rw [List.head?_eq_none_iff] at hb
          exact List.length_eq_zero_iff.mp (by rw [← List.length_insertionSort r l, hb]; rfl)
        rw [hb] at h
        simp only [Option.some.injEq] at h
        rw [hnil, List.mem_singleton] at hy
        exact absurd (hy.trans h) hne
      · rw [hb] at h
        simp only at h
        have hmem := mem_of_head hb
        by_cases hab : r a b
        · rw [if_pos hab, Option.some.injEq] at h
          subst h
          rcases List.mem_cons.mp hy with hy | hy
          · exact absurd hy hne
          · -- The new head is as good as the old one, which is as good as the rest.
            have hay : r a y := by
              by_cases hyb : y = b
              · rw [hyb]
                exact hab
              · rcases ih hb hy hyb with hlt | ⟨hby, _⟩
                · rcases htotal b y with hr | hr
                  · exact htrans _ _ _ hab hr
                  · exact absurd hr hlt
                · exact htrans _ _ _ hab hby
            exact Or.inr ⟨hay, List.Sublist.cons_cons a (List.singleton_sublist.mpr hy)⟩
        · rw [if_neg hab, Option.some.injEq] at h
          subst h
          rcases List.mem_cons.mp hy with hy | hy
          · rw [hy]
            exact Or.inl hab
          · rcases ih hb hy hne with hlt | ⟨hby, hsub⟩
            · exact Or.inl hlt
            · exact Or.inr ⟨hby, hsub.cons a⟩

end Head

end StableSort
