import Mathlib.Data.Set.Insert
import Mathlib.Order.BooleanAlgebra.Set
import Rathole.MultiMap

/-!
# What a Multi Map Is For

The purpose of a multi map, without its indexes: a set of triples, no two of
which share a first or a second key. `Step` says for each operation what it
returns and which set it leaves; `insert` gives its triple back if a key of it
is taken, the lookups find the triple with a key, the removals take it out.

## Main definitions

* `Triples.Op`, `Triples.Output`: The operations and what they return.
* `Triples.UniqueKeys`: No two triples share a key.
* `Triples.Step`, `Triples.Run`: What the operations do to the set.

## Theorems

* `unique_of_step`: The operations keep the keys unique.
* `step_functional`: The set determines what an operation returns and leaves.
* `step_of_insert`, `step_of_remove1`, `step_of_get1`, `step_of_get2`: The map
  of the server's sessions does what `Step` says.
-/

namespace Rathole

namespace Triples

/-- The operations. The caller of a mutable lookup makes the value it is lent
    into another. -/
inductive Op (κ₁ κ₂ υ : Type)
  | insert (k₁ : κ₁) (k₂ : κ₂) (v : υ)
  | get1 (k₁ : κ₁)
  | get1Mut (k₁ : κ₁) (f : υ → υ)
  | get2 (k₂ : κ₂)
  | getMut2 (k₂ : κ₂) (f : υ → υ)
  | remove1 (k₁ : κ₁)
  | remove2 (k₂ : κ₂)

/-- What an operation returns. -/
inductive Output (κ₁ κ₂ υ : Type)
  | inserted
  | rejected (item : κ₁ × κ₂ × υ)
  | value (v : Option υ)

/-- How many items an operation with this output has put in. -/
def Output.count {κ₁ κ₂ υ : Type} : Output κ₁ κ₂ υ → Nat
  | .inserted => 1
  | _ => 0

variable {κ₁ κ₂ υ : Type}

/-- No two triples share a first or a second key. -/
structure UniqueKeys (S : Set (κ₁ × κ₂ × υ)) : Prop where
  key1 : ∀ x ∈ S, ∀ y ∈ S, x.1 = y.1 → x = y
  key2 : ∀ x ∈ S, ∀ y ∈ S, x.2.1 = y.2.1 → x = y

/-- The triple `x` with another value. -/
def replaced (S : Set (κ₁ × κ₂ × υ)) (x : κ₁ × κ₂ × υ) (v : υ) : Set (κ₁ × κ₂ × υ) :=
  insert (x.1, x.2.1, v) (S \ {x})

/-- What an operation returns, and the set it leaves. -/
inductive Step (S : Set (κ₁ × κ₂ × υ)) :
    Op κ₁ κ₂ υ → Output κ₁ κ₂ υ → Set (κ₁ × κ₂ × υ) → Prop
  | insert {k₁ k₂ v} (h1 : ∀ x ∈ S, x.1 ≠ k₁) (h2 : ∀ x ∈ S, x.2.1 ≠ k₂) :
      Step S (.insert k₁ k₂ v) .inserted (Insert.insert (k₁, k₂, v) S)
  | reject {k₁ k₂ v} (h : ∃ x ∈ S, x.1 = k₁ ∨ x.2.1 = k₂) :
      Step S (.insert k₁ k₂ v) (.rejected (k₁, k₂, v)) S
  | get1 {x k₁} (h : x ∈ S) (hk : x.1 = k₁) : Step S (.get1 k₁) (.value (some x.2.2)) S
  | get1None {k₁} (h : ∀ x ∈ S, x.1 ≠ k₁) : Step S (.get1 k₁) (.value none) S
  | get1Mut {x k₁ f} (h : x ∈ S) (hk : x.1 = k₁) :
      Step S (.get1Mut k₁ f) (.value (some x.2.2)) (replaced S x (f x.2.2))
  | get1MutNone {k₁ f} (h : ∀ x ∈ S, x.1 ≠ k₁) : Step S (.get1Mut k₁ f) (.value none) S
  | get2 {x k₂} (h : x ∈ S) (hk : x.2.1 = k₂) : Step S (.get2 k₂) (.value (some x.2.2)) S
  | get2None {k₂} (h : ∀ x ∈ S, x.2.1 ≠ k₂) : Step S (.get2 k₂) (.value none) S
  | getMut2 {x k₂ f} (h : x ∈ S) (hk : x.2.1 = k₂) :
      Step S (.getMut2 k₂ f) (.value (some x.2.2)) (replaced S x (f x.2.2))
  | getMut2None {k₂ f} (h : ∀ x ∈ S, x.2.1 ≠ k₂) : Step S (.getMut2 k₂ f) (.value none) S
  | remove1 {x k₁} (h : x ∈ S) (hk : x.1 = k₁) :
      Step S (.remove1 k₁) (.value (some x.2.2)) (S \ {x})
  | remove1None {k₁} (h : ∀ x ∈ S, x.1 ≠ k₁) : Step S (.remove1 k₁) (.value none) S
  | remove2 {x k₂} (h : x ∈ S) (hk : x.2.1 = k₂) :
      Step S (.remove2 k₂) (.value (some x.2.2)) (S \ {x})
  | remove2None {k₂} (h : ∀ x ∈ S, x.2.1 ≠ k₂) : Step S (.remove2 k₂) (.value none) S

/-- A sequence of operations, and what they return. -/
inductive Run : Set (κ₁ × κ₂ × υ) → List (Op κ₁ κ₂ υ) → List (Output κ₁ κ₂ υ) →
    Set (κ₁ × κ₂ × υ) → Prop
  | nil {S} : Run S [] [] S
  | cons {S T U op out ops outs} (h : Step S op out T) (hr : Run T ops outs U) :
      Run S (op :: ops) (out :: outs) U

variable {S T : Set (κ₁ × κ₂ × υ)} {op : Op κ₁ κ₂ υ} {out : Output κ₁ κ₂ υ}

theorem UniqueKeys.subset (hu : UniqueKeys S) (hT : T ⊆ S) : UniqueKeys T where
  key1 := fun x hx y hy => hu.key1 x (hT hx) y (hT hy)
  key2 := fun x hx y hy => hu.key2 x (hT hx) y (hT hy)

/-- A triple whose keys are free may come in. -/
theorem UniqueKeys.insert (hu : UniqueKeys S) {z : κ₁ × κ₂ × υ} (h1 : ∀ x ∈ S, x.1 ≠ z.1)
    (h2 : ∀ x ∈ S, x.2.1 ≠ z.2.1) : UniqueKeys (Insert.insert z S) where
  key1 := by
    intro x hx y hy hxy
    rcases Set.mem_insert_iff.mp hx with hx | hx
    · rcases Set.mem_insert_iff.mp hy with hy | hy
      · rw [hx, hy]
      · exact absurd (by rw [← hxy, hx]) (h1 y hy)
    · rcases Set.mem_insert_iff.mp hy with hy | hy
      · exact absurd (by rw [hxy, hy]) (h1 x hx)
      · exact hu.key1 x hx y hy hxy
  key2 := by
    intro x hx y hy hxy
    rcases Set.mem_insert_iff.mp hx with hx | hx
    · rcases Set.mem_insert_iff.mp hy with hy | hy
      · rw [hx, hy]
      · exact absurd (by rw [← hxy, hx]) (h2 y hy)
    · rcases Set.mem_insert_iff.mp hy with hy | hy
      · exact absurd (by rw [hxy, hy]) (h2 x hx)
      · exact hu.key2 x hx y hy hxy

theorem UniqueKeys.replaced (hu : UniqueKeys S) {x : κ₁ × κ₂ × υ} (hx : x ∈ S) (v : υ) :
    UniqueKeys (replaced S x v) := by
  refine (hu.subset Set.sdiff_subset).insert ?_ ?_
  · intro y hy heq
    exact hy.2 (hu.key1 y hy.1 x hx heq)
  · intro y hy heq
    exact hy.2 (hu.key2 y hy.1 x hx heq)

/-- The operations keep the keys unique. -/
theorem unique_of_step (hu : UniqueKeys S) (h : Step S op out T) : UniqueKeys T := by
  cases h with
  | insert h1 h2 => exact hu.insert h1 h2
  | get1Mut h hk | getMut2 h hk => exact hu.replaced h _
  | remove1 h hk | remove2 h hk => exact hu.subset Set.sdiff_subset
  | _ => exact hu

/-- The set determines what an operation returns and what it leaves. -/
theorem step_functional (hu : UniqueKeys S) {out' : Output κ₁ κ₂ υ} {T' : Set (κ₁ × κ₂ × υ)}
    (h : Step S op out T) (h' : Step S op out' T') : out' = out ∧ T' = T := by
  -- A key finds one triple, if any.
  have same1 : ∀ {x y : κ₁ × κ₂ × υ} {k : κ₁}, x ∈ S → x.1 = k → y ∈ S → y.1 = k → y = x :=
    fun hx hxk hy hyk => hu.key1 _ hy _ hx (hyk.trans hxk.symm)
  have same2 : ∀ {x y : κ₁ × κ₂ × υ} {k : κ₂}, x ∈ S → x.2.1 = k → y ∈ S → y.2.1 = k → y = x :=
    fun hx hxk hy hyk => hu.key2 _ hy _ hx (hyk.trans hxk.symm)
  cases h with
  | insert h1 h2 =>
      cases h' with
      | insert => exact ⟨rfl, rfl⟩
      | reject hex =>
          rcases hex with ⟨x, hx, hk | hk⟩
          · exact absurd hk (h1 x hx)
          · exact absurd hk (h2 x hx)
  | reject hex =>
      cases h' with
      | insert h1 h2 =>
          rcases hex with ⟨x, hx, hk | hk⟩
          · exact absurd hk (h1 x hx)
          · exact absurd hk (h2 x hx)
      | reject => exact ⟨rfl, rfl⟩
  | get1 hx hk =>
      cases h' with
      | get1 hy hk' => rw [same1 hx hk hy hk']; exact ⟨rfl, rfl⟩
      | get1None hn => exact absurd hk (hn _ hx)
  | get1None hn =>
      cases h' with
      | get1 hy hk' => exact absurd hk' (hn _ hy)
      | get1None => exact ⟨rfl, rfl⟩
  | get1Mut hx hk =>
      cases h' with
      | get1Mut hy hk' => rw [same1 hx hk hy hk']; exact ⟨rfl, rfl⟩
      | get1MutNone hn => exact absurd hk (hn _ hx)
  | get1MutNone hn =>
      cases h' with
      | get1Mut hy hk' => exact absurd hk' (hn _ hy)
      | get1MutNone => exact ⟨rfl, rfl⟩
  | get2 hx hk =>
      cases h' with
      | get2 hy hk' => rw [same2 hx hk hy hk']; exact ⟨rfl, rfl⟩
      | get2None hn => exact absurd hk (hn _ hx)
  | get2None hn =>
      cases h' with
      | get2 hy hk' => exact absurd hk' (hn _ hy)
      | get2None => exact ⟨rfl, rfl⟩
  | getMut2 hx hk =>
      cases h' with
      | getMut2 hy hk' => rw [same2 hx hk hy hk']; exact ⟨rfl, rfl⟩
      | getMut2None hn => exact absurd hk (hn _ hx)
  | getMut2None hn =>
      cases h' with
      | getMut2 hy hk' => exact absurd hk' (hn _ hy)
      | getMut2None => exact ⟨rfl, rfl⟩
  | remove1 hx hk =>
      cases h' with
      | remove1 hy hk' => rw [same1 hx hk hy hk']; exact ⟨rfl, rfl⟩
      | remove1None hn => exact absurd hk (hn _ hx)
  | remove1None hn =>
      cases h' with
      | remove1 hy hk' => exact absurd hk' (hn _ hy)
      | remove1None => exact ⟨rfl, rfl⟩
  | remove2 hx hk =>
      cases h' with
      | remove2 hy hk' => rw [same2 hx hk hy hk']; exact ⟨rfl, rfl⟩
      | remove2None hn => exact absurd hk (hn _ hx)
  | remove2None hn =>
      cases h' with
      | remove2 hy hk' => exact absurd hk' (hn _ hy)
      | remove2None => exact ⟨rfl, rfl⟩

/-! ### The map of the sessions -/

/-- The items of a multi map as a set. -/
def ofItems (m : MultiMap κ₁ κ₂ υ) : Set (κ₁ × κ₂ × υ) := {x | x ∈ m.items}

variable {m m' : MultiMap κ₁ κ₂ υ} {k₁ : κ₁} {k₂ : κ₂} {v : υ}

theorem step_of_get1 [DecidableEq κ₁] :
    Step (ofItems m) (.get1 k₁) (.value (m.get1 k₁)) (ofItems m) := by
  cases hg : m.get1 k₁ with
  | none =>
      refine .get1None ?_
      intro x hx hk
      have hsome := MultiMap.get1_eq_some_iff.mpr
        ⟨x.2.1, show (x.1, x.2.1, x.2.2) ∈ m.items from hx⟩
      rw [hk, hg] at hsome
      simp only [reduceCtorEq] at hsome
  | some v =>
      rcases MultiMap.get1_eq_some_iff.mp hg with ⟨k₂, hx⟩
      exact .get1 (x := (k₁, k₂, v)) hx rfl

theorem step_of_get2 [DecidableEq κ₂] :
    Step (ofItems m) (.get2 k₂) (.value (m.get2 k₂)) (ofItems m) := by
  cases hg : m.get2 k₂ with
  | none =>
      refine .get2None ?_
      intro x hx hk
      have hsome := MultiMap.get2_eq_some_iff.mpr ⟨x.1, show (x.1, x.2.1, x.2.2) ∈ m.items from hx⟩
      rw [hk, hg] at hsome
      simp only [reduceCtorEq] at hsome
  | some v =>
      rcases MultiMap.get2_eq_some_iff.mp hg with ⟨k₁, hx⟩
      exact .get2 (x := (k₁, k₂, v)) hx rfl

theorem step_of_insert [DecidableEq κ₁] [DecidableEq κ₂] (h : m.insert k₁ k₂ v = .ok m') :
    Step (ofItems m) (.insert k₁ k₂ v) .inserted (ofItems m') := by
  have hset : ofItems m' = insert (k₁, k₂, v) (ofItems m) := by
    ext x
    exact MultiMap.mem_insert_iff h
  rw [hset]
  unfold MultiMap.insert at h
  split at h
  · simp only [reduceCtorEq] at h
  · rename_i hfree
    refine .insert ?_ ?_
    · exact fun x hx hk => hfree (Or.inl (List.mem_map.mpr ⟨x, hx, hk⟩))
    · exact fun x hx hk => hfree (Or.inr (List.mem_map.mpr ⟨x, hx, hk⟩))

theorem step_of_remove1 [DecidableEq κ₁] : Step (ofItems m) (.remove1 k₁)
    (.value (m.remove1 k₁).1) (ofItems (m.remove1 k₁).2) := by
  cases hg : m.get1 k₁ with
  | none =>
      have hfree : ∀ x ∈ ofItems m, x.1 ≠ k₁ := by
        intro x hx hk
        have hsome := MultiMap.get1_eq_some_iff.mpr
          ⟨x.2.1, show (x.1, x.2.1, x.2.2) ∈ m.items from hx⟩
        rw [hk, hg] at hsome
        simp only [reduceCtorEq] at hsome
      have hset : ofItems (m.remove1 k₁).2 = ofItems m := by
        ext x
        exact MultiMap.mem_remove1_iff.trans ⟨fun h => h.1, fun h => ⟨h, hfree x h⟩⟩
      rw [hset]
      have hout : (m.remove1 k₁).1 = none := hg
      rw [hout]
      exact .remove1None hfree
  | some v =>
      rcases MultiMap.get1_eq_some_iff.mp hg with ⟨k₂, hx⟩
      have hset : ofItems (m.remove1 k₁).2 = ofItems m \ {(k₁, k₂, v)} := by
        ext x
        refine MultiMap.mem_remove1_iff.trans ⟨fun h => ⟨h.1, ?_⟩, fun h => ⟨h.1, ?_⟩⟩
        · intro heq
          exact h.2 (by rw [heq])
        · intro hk
          exact h.2 (MultiMap.eq_of_mem h.1 hx hk)
      rw [hset]
      have hout : (m.remove1 k₁).1 = some v := hg
      rw [hout]
      exact .remove1 (x := (k₁, k₂, v)) hx rfl

end Triples

end Rathole
