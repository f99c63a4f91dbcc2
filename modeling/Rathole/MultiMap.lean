import Mathlib.Data.List.Nodup
import Mathlib.Tactic.Common

/-!
# Multi Maps

`MultiMap` of `multi_map.rs`: a map whose items have two keys, each of which
finds the item. No key of either kind belongs to two items, which the type
carries.

## Main definitions

* `MultiMap`: The items.
* `insert`, `get1`, `get2`, `remove1`, `remove2`: The operations.

## Theorems

* `get1_eq_some_iff`, `get2_eq_some_iff`: A key finds the item that has it.
* `mem_insert_iff`, `mem_remove1_iff`: What the operations do to the items.
* `insert_eq_ok`: When an item is put in.
-/

namespace Rathole


/-- A map whose items have two keys each. -/
structure MultiMap (κ₁ κ₂ υ : Type) where
  items : List (κ₁ × κ₂ × υ)
  nodup1 : (items.map (fun x => x.1)).Nodup
  nodup2 : (items.map (fun x => x.2.1)).Nodup

namespace MultiMap

variable {κ₁ κ₂ υ : Type}

/-- `MultiMap::new` -/
def new : MultiMap κ₁ κ₂ υ := ⟨[], List.nodup_nil, List.nodup_nil⟩

/-- Items that pass a test. -/
def restrict (m : MultiMap κ₁ κ₂ υ) (f : κ₁ × κ₂ × υ → Bool) : MultiMap κ₁ κ₂ υ where
  items := m.items.filter f
  nodup1 := m.nodup1.sublist (List.filter_sublist.map _)
  nodup2 := m.nodup2.sublist (List.filter_sublist.map _)

theorem mem_restrict_iff {m : MultiMap κ₁ κ₂ υ} {f : κ₁ × κ₂ × υ → Bool} {x : κ₁ × κ₂ × υ} :
    x ∈ (m.restrict f).items ↔ x ∈ m.items ∧ f x = true := by
  simp only [restrict, List.mem_filter]

/-- In a list of items with unique keys the key finds its item. -/
theorem find_eq_some_iff {κ : Type} [DecidableEq κ] (key : κ₁ × κ₂ × υ → κ)
    {l : List (κ₁ × κ₂ × υ)} (hl : (l.map key).Nodup) (x : κ₁ × κ₂ × υ) :
    l.find? (fun y => key y = key x) = some x ↔ x ∈ l := by
  constructor
  · intro h
    exact List.mem_of_find?_eq_some h
  · induction l with
    | nil =>
        intro h
        exact absurd h List.not_mem_nil
    | cons y l ih =>
        intro h
        rw [List.map_cons, List.nodup_cons] at hl
        by_cases hy : key y = key x
        · -- The first item with the key is the only one.
          rcases List.mem_cons.mp h with hx | hx
          · rw [List.find?_cons_of_pos (by simpa only [decide_eq_true_eq] using hy), hx]
          · exact absurd (hy ▸ List.mem_map_of_mem hx) hl.1
        · rw [List.find?_cons_of_neg (by simpa only [decide_eq_true_eq] using hy)]
          rcases List.mem_cons.mp h with hx | hx
          · exact absurd (by rw [hx]) hy
          · exact ih hl.2 hx

/-- The value of an item found by its first key. -/
def get1 [DecidableEq κ₁] (m : MultiMap κ₁ κ₂ υ) (k : κ₁) : Option υ :=
  (m.items.find? (fun x => x.1 = k)).map (fun x => x.2.2)

/-- The value of an item found by its second key. -/
def get2 [DecidableEq κ₂] (m : MultiMap κ₁ κ₂ υ) (k : κ₂) : Option υ :=
  (m.items.find? (fun x => x.2.1 = k)).map (fun x => x.2.2)

/-- Take out the item with a first key. -/
def remove1 [DecidableEq κ₁] (m : MultiMap κ₁ κ₂ υ) (k : κ₁) : Option υ × MultiMap κ₁ κ₂ υ :=
  (m.get1 k, m.restrict (fun x => x.1 ≠ k))

/-- Take out the item with a second key. -/
def remove2 [DecidableEq κ₂] (m : MultiMap κ₁ κ₂ υ) (k : κ₂) : Option υ × MultiMap κ₁ κ₂ υ :=
  (m.get2 k, m.restrict (fun x => x.2.1 ≠ k))

/-- Put in an item, or give it back if one of its keys is taken. -/
def insert [DecidableEq κ₁] [DecidableEq κ₂] (m : MultiMap κ₁ κ₂ υ) (k₁ : κ₁) (k₂ : κ₂) (v : υ) :
    Except (κ₁ × κ₂ × υ) (MultiMap κ₁ κ₂ υ) :=
  if h : k₁ ∈ m.items.map (fun x => x.1) ∨ k₂ ∈ m.items.map (fun x => x.2.1) then
    .error (k₁, k₂, v)
  else .ok {
    items := (k₁, k₂, v) :: m.items
    nodup1 := List.nodup_cons.mpr ⟨fun hin => h (Or.inl hin), m.nodup1⟩
    nodup2 := List.nodup_cons.mpr ⟨fun hin => h (Or.inr hin), m.nodup2⟩ }

variable {m m' : MultiMap κ₁ κ₂ υ} {k₁ : κ₁} {k₂ : κ₂} {v : υ}

theorem get1_eq_some_iff [DecidableEq κ₁] : m.get1 k₁ = some v ↔ ∃ k₂, (k₁, k₂, v) ∈ m.items := by
  unfold get1
  rw [Option.map_eq_some_iff]
  constructor
  · intro h
    rcases h with ⟨⟨a, b, c⟩, hfind, hv⟩
    have hkey := List.find?_some hfind
    simp only [decide_eq_true_eq] at hkey hv
    refine ⟨b, ?_⟩
    rw [← hkey, ← hv]
    exact List.mem_of_find?_eq_some hfind
  · intro h
    rcases h with ⟨k₂, hin⟩
    exact ⟨(k₁, k₂, v), (find_eq_some_iff (fun x => x.1) m.nodup1 (k₁, k₂, v)).mpr hin, rfl⟩

theorem get2_eq_some_iff [DecidableEq κ₂] : m.get2 k₂ = some v ↔ ∃ k₁, (k₁, k₂, v) ∈ m.items := by
  unfold get2
  rw [Option.map_eq_some_iff]
  constructor
  · intro h
    rcases h with ⟨⟨a, b, c⟩, hfind, hv⟩
    have hkey := List.find?_some hfind
    simp only [decide_eq_true_eq] at hkey hv
    refine ⟨a, ?_⟩
    rw [← hkey, ← hv]
    exact List.mem_of_find?_eq_some hfind
  · intro h
    rcases h with ⟨k₁, hin⟩
    exact ⟨(k₁, k₂, v), (find_eq_some_iff (fun x => x.2.1) m.nodup2 (k₁, k₂, v)).mpr hin, rfl⟩

/-- Two items with one first key are the same. -/
theorem eq_of_mem {x y : κ₁ × κ₂ × υ} (hx : x ∈ m.items) (hy : y ∈ m.items) (h : x.1 = y.1) :
    x = y :=
  List.inj_on_of_nodup_map m.nodup1 hx hy h

theorem mem_remove1_iff [DecidableEq κ₁] {x : κ₁ × κ₂ × υ} :
    x ∈ (m.remove1 k₁).2.items ↔ x ∈ m.items ∧ x.1 ≠ k₁ := by
  rw [remove1, mem_restrict_iff]
  simp only [ne_eq, decide_not, Bool.not_eq_true', decide_eq_false_iff_not]

variable [DecidableEq κ₁] [DecidableEq κ₂]

/-- An item that was put in is there, beside those that were. -/
theorem mem_insert_iff (h : m.insert k₁ k₂ v = .ok m') {x : κ₁ × κ₂ × υ} :
    x ∈ m'.items ↔ x = (k₁, k₂, v) ∨ x ∈ m.items := by
  unfold insert at h
  split at h
  · simp only [reduceCtorEq] at h
  · rw [Except.ok.injEq] at h
    rw [← h, List.mem_cons]

/-- An item is put in if both of its keys are free. -/
theorem insert_eq_ok (h1 : m.get1 k₁ = none) (h2 : m.get2 k₂ = none) (v : υ) :
    ∃ m', m.insert k₁ k₂ v = .ok m' := by
  have hfree : ¬ (k₁ ∈ m.items.map (fun x => x.1) ∨ k₂ ∈ m.items.map (fun x => x.2.1)) := by
    intro hor
    rcases hor with hin | hin
    · rcases List.mem_map.mp hin with ⟨⟨a, b, c⟩, hx, hk⟩
      simp only at hk
      rw [hk] at hx
      have hsome := get1_eq_some_iff.mpr ⟨b, hx⟩
      rw [h1] at hsome
      simp only [reduceCtorEq] at hsome
    · rcases List.mem_map.mp hin with ⟨⟨a, b, c⟩, hx, hk⟩
      simp only at hk
      rw [hk] at hx
      have hsome := get2_eq_some_iff.mpr ⟨a, hx⟩
      rw [h2] at hsome
      simp only [reduceCtorEq] at hsome
  unfold insert
  rw [dif_neg hfree]
  exact ⟨_, rfl⟩

end MultiMap

end Rathole
