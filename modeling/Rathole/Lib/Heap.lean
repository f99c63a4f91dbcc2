import Mathlib.Data.Set.Insert
import Rathole.Lib.Numbered

/-!
# A Heap of Boxes

Boxes are numbered in the order they are made and never made twice. A box has
a content until it is freed; to read, write or free one that was freed, or
was never made, is undefined behaviour, which is `none` here. The heap records
the boxes that were freed, in order, and carries that these are exactly the
empty ones and that none of them was freed twice.

## Main definitions

* `Heap`: The boxes and the record of what was freed.
* `Heap.alloc`, `Heap.read`, `Heap.write`, `Heap.free`: The operations.

## Theorems

* `read_alloc_iff`, `read_write_iff`, `read_free_iff`: What is read after an
  operation.
* `contents_alloc`, `contents_write`, `contents_free`: What is in the boxes
  after an operation.
* `freed_perm_range`: If nothing can be read any more, every box was freed
  exactly once.
-/

open Numbered

/-- Boxes by their number, and those that were freed, each of them once. -/
structure Heap (α : Type) where
  cells : List (Option α)
  freed : List Nat
  freed_nodup : freed.Nodup
  mem_freed : ∀ p, p ∈ freed ↔ cells[p]? = some none

namespace Heap

variable {α : Type}

/-- A heap without boxes. -/
def empty : Heap α where
  cells := []
  freed := []
  freed_nodup := List.nodup_nil
  mem_freed := by
    intro p
    simp only [List.not_mem_nil, List.getElem?_nil, reduceCtorEq]

/-- How many boxes were made. -/
def size (h : Heap α) : Nat := h.cells.length

/-- What is in a box that is not freed. -/
def read (h : Heap α) (p : Nat) : Option α := (h.cells[p]?).join

theorem read_eq_some_iff {h : Heap α} {p : Nat} {a : α} :
    h.read p = some a ↔ h.cells[p]? = some (some a) := by
  unfold read
  rw [Option.join_eq_some_iff]

theorem lt_of_read {h : Heap α} {p : Nat} {a : α} (hr : h.read p = some a) : p < h.size :=
  (List.getElem?_eq_some_iff.mp (read_eq_some_iff.mp hr)).fst

/-- A new box, and its number. -/
def alloc (h : Heap α) (a : α) : Nat × Heap α :=
  (h.size, {
    cells := h.cells ++ [some a]
    freed := h.freed
    freed_nodup := h.freed_nodup
    mem_freed := by
      intro p
      rw [h.mem_freed p]
      constructor
      · intro hp
        rw [List.getElem?_append_left (List.getElem?_eq_some_iff.mp hp).fst]
        exact hp
      · intro hp
        rcases getElem?_append_cases hp with hp | ⟨_, hp⟩
        · exact hp
        · simp only [reduceCtorEq] at hp })

/-- Another content for a box. -/
def write (h : Heap α) (p : Nat) (a : α) : Option (Heap α) :=
  match hr : h.read p with
  | none => none
  | some b => some {
      cells := h.cells.set p (some a)
      freed := h.freed
      freed_nodup := h.freed_nodup
      mem_freed := by
        intro q
        rw [h.mem_freed q]
        by_cases hq : q = p
        · subst hq
          rw [List.getElem?_set_self (lt_of_read hr), read_eq_some_iff.mp hr]
          simp only [Option.some.injEq, reduceCtorEq]
        · rw [List.getElem?_set_ne (Ne.symm hq)] }

/-- The content of a box that is freed. -/
def free (h : Heap α) (p : Nat) : Option (α × Heap α) :=
  match hr : h.read p with
  | none => none
  | some a => some (a, {
      cells := h.cells.set p none
      freed := h.freed ++ [p]
      freed_nodup := by
        refine List.nodup_append.mpr ⟨h.freed_nodup, List.pairwise_singleton _ p, ?_⟩
        intro q hq q' hq' heq
        rw [List.mem_singleton] at hq'
        rw [heq, hq', h.mem_freed, read_eq_some_iff.mp hr] at hq
        simp only [Option.some.injEq, reduceCtorEq] at hq
      mem_freed := by
        intro q
        rw [List.mem_append, List.mem_singleton, h.mem_freed q]
        by_cases hq : q = p
        · subst hq
          rw [List.getElem?_set_self (lt_of_read hr)]
          simp only [or_true]
        · rw [List.getElem?_set_ne (Ne.symm hq)]
          simp only [hq, or_false] })

variable {h h' : Heap α} {p q : Nat} {a b : α}

@[simp] theorem alloc_fst (h : Heap α) (a : α) : (h.alloc a).1 = h.size := rfl

@[simp] theorem size_alloc (h : Heap α) (a : α) : (h.alloc a).2.size = h.size + 1 :=
  List.length_append

/-- After an allocation the new box is there, and every other as before. -/
theorem read_alloc_iff :
    (h.alloc a).2.read q = some b ↔ (q = h.size ∧ b = a) ∨ h.read q = some b := by
  rw [read_eq_some_iff, read_eq_some_iff]
  constructor
  · intro hr
    rcases getElem?_append_cases hr with hr | ⟨hq, hb⟩
    · exact Or.inr hr
    · exact Or.inl ⟨hq, Option.some.inj hb⟩
  · intro hor
    rcases hor with ⟨hq, hb⟩ | hr
    · rw [hq, hb]
      exact List.getElem?_concat_length
    · exact getElem?_kept hr

/-- A box that can be read can be written. -/
theorem write_eq_some (hr : h.read p = some b) (a : α) : ∃ h', h.write p a = some h' := by
  unfold write
  split
  · rename_i hn
    rw [hr] at hn
    simp only [reduceCtorEq] at hn
  · exact ⟨_, rfl⟩

theorem write_cells (hw : h.write p a = some h') :
    h'.cells = h.cells.set p (some a) ∧ h'.freed = h.freed ∧ p < h.size := by
  unfold write at hw
  split at hw
  · simp only [reduceCtorEq] at hw
  · rename_i b hr
    rw [← Option.some.inj hw]
    exact ⟨rfl, rfl, lt_of_read hr⟩

theorem read_write_iff (hw : h.write p a = some h') :
    h'.read q = some b ↔ (q = p ∧ b = a) ∨ (q ≠ p ∧ h.read q = some b) := by
  rcases write_cells hw with ⟨hcells, _, hlt⟩
  rw [read_eq_some_iff, read_eq_some_iff, hcells]
  by_cases hq : q = p
  · subst hq
    rw [List.getElem?_set_self hlt]
    simp only [Option.some.injEq, true_and, ne_eq, not_true_eq_false, false_and, or_false]
    exact eq_comm
  · rw [List.getElem?_set_ne (Ne.symm hq)]
    simp only [hq, false_and, ne_eq, not_false_eq_true, true_and, false_or]

theorem size_write (hw : h.write p a = some h') : h'.size = h.size := by
  rw [size, (write_cells hw).1, List.length_set, size]

/-- A box that can be read can be freed. -/
theorem free_eq_some (hr : h.read p = some a) : ∃ h', h.free p = some (a, h') := by
  unfold free
  split
  · rename_i hn
    rw [hr] at hn
    simp only [reduceCtorEq] at hn
  · rename_i b hb
    rw [hr, Option.some.injEq] at hb
    rw [hb]
    exact ⟨_, rfl⟩

theorem free_cells (hf : h.free p = some (a, h')) :
    h'.cells = h.cells.set p none ∧ h'.freed = h.freed ++ [p] ∧ h.read p = some a := by
  unfold free at hf
  split at hf
  · simp only [reduceCtorEq] at hf
  · rename_i b hr
    rw [Option.some.injEq, Prod.mk.injEq] at hf
    rw [← hf.2, ← hf.1]
    exact ⟨rfl, rfl, hr⟩

theorem read_free_iff (hf : h.free p = some (a, h')) :
    h'.read q = some b ↔ q ≠ p ∧ h.read q = some b := by
  rcases free_cells hf with ⟨hcells, _, hr⟩
  rw [read_eq_some_iff, read_eq_some_iff, hcells]
  by_cases hq : q = p
  · subst hq
    rw [List.getElem?_set_self (lt_of_read hr)]
    simp only [Option.some.injEq, reduceCtorEq, ne_eq, not_true_eq_false, false_and]
  · rw [List.getElem?_set_ne (Ne.symm hq)]
    simp only [ne_eq, hq, not_false_eq_true, true_and]

theorem size_free (hf : h.free p = some (a, h')) : h'.size = h.size := by
  rw [size, (free_cells hf).1, List.length_set, size]

/-! ### Contents -/

/-- What is in the boxes. -/
def contents (h : Heap α) : Set α := {a | ∃ p, h.read p = some a}

theorem read_empty (p : Nat) : (empty : Heap α).read p = none := rfl

theorem contents_empty : (empty : Heap α).contents = ∅ := by
  refine Set.eq_empty_iff_forall_notMem.mpr ?_
  rintro a ⟨p, hp⟩
  rw [read_empty] at hp
  simp only [reduceCtorEq] at hp

theorem contents_alloc (h : Heap α) (a : α) : (h.alloc a).2.contents = insert a h.contents := by
  ext b
  rw [Set.mem_insert_iff]
  constructor
  · rintro ⟨q, hq⟩
    rcases read_alloc_iff.mp hq with ⟨_, hb⟩ | hold
    · exact Or.inl hb
    · exact Or.inr ⟨q, hold⟩
  · rintro (hb | ⟨q, hq⟩)
    · exact ⟨h.size, read_alloc_iff.mpr (Or.inl ⟨rfl, hb⟩)⟩
    · exact ⟨q, read_alloc_iff.mpr (Or.inr hq)⟩

/-- Freeing a box takes its content out, if no other box has it. -/
theorem contents_free (hr : h.read p = some a) (hone : ∀ q, h.read q = some a → q = p)
    (hf : h.free p = some (a, h')) : h'.contents = h.contents \ {a} := by
  ext b
  constructor
  · rintro ⟨q, hq⟩
    rcases (read_free_iff hf).mp hq with ⟨hne, hold⟩
    refine ⟨⟨q, hold⟩, ?_⟩
    intro hb
    rw [Set.mem_singleton_iff] at hb
    rw [hb] at hold
    exact hne (hone q hold)
  · rintro ⟨⟨q, hq⟩, hb⟩
    refine ⟨q, (read_free_iff hf).mpr ⟨?_, hq⟩⟩
    intro heq
    rw [heq, hr, Option.some.injEq] at hq
    exact hb hq.symm

/-- Writing a box replaces its content, if no other box has it. -/
theorem contents_write (hr : h.read p = some b) (hone : ∀ q, h.read q = some b → q = p)
    (hw : h.write p a = some h') : h'.contents = insert a (h.contents \ {b}) := by
  ext c
  rw [Set.mem_insert_iff]
  constructor
  · rintro ⟨q, hq⟩
    rcases (read_write_iff hw).mp hq with ⟨_, hc⟩ | ⟨hne, hold⟩
    · exact Or.inl hc
    · refine Or.inr ⟨⟨q, hold⟩, ?_⟩
      intro hc
      rw [Set.mem_singleton_iff] at hc
      rw [hc] at hold
      exact hne (hone q hold)
  · rintro (hc | ⟨⟨q, hq⟩, hc⟩)
    · exact ⟨p, (read_write_iff hw).mpr (Or.inl ⟨rfl, hc⟩)⟩
    · refine ⟨q, (read_write_iff hw).mpr (Or.inr ⟨?_, hq⟩)⟩
      intro heq
      rw [heq, hr, Option.some.injEq] at hq
      exact hc hq.symm

/-- If no box can be read, each one that was made was freed, and once. -/
theorem freed_perm_range (hr : ∀ p, h.read p = none) : h.freed.Perm (List.range h.size) := by
  rw [List.perm_ext_iff_of_nodup h.freed_nodup List.nodup_range]
  intro p
  rw [h.mem_freed, List.mem_range]
  constructor
  · exact fun hp => (List.getElem?_eq_some_iff.mp hp).fst
  · intro hlt
    have hp : h.cells[p]? = some h.cells[p] := List.getElem?_eq_getElem hlt
    cases hc : h.cells[p] with
    | none => rw [hp, hc]
    | some a =>
        have hread : h.read p = some a := read_eq_some_iff.mpr (by rw [hp, hc])
        rw [hr p] at hread
        simp only [reduceCtorEq] at hread

end Heap
