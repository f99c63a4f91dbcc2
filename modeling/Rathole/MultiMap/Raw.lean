import Rathole.MultiMap.Table
import Rathole.MultiMap.Triples

/-!
# The Two Indexes of a Multi Map

`multi_map.rs` as it is written: every item is a box, and two hash tables lead
to it, one by its first key and one by its second. Both tables have raw
pointers to the box, and their keys are in the box as well, so each operation
has to keep both of them in step with the heap.

Every operation is defined on a well-formed map, leaves one, and does to the
set of live items what `Triples.Step` says. A drop frees what is left, so in
the end every box was freed, and once.

## Main definitions

* `RawMultiMap`: The heap and the two tables.
* `RawMultiMap.insert` to `RawMultiMap.remove2`, `RawMultiMap.dropItems`: The
  operations.
* `RawMultiMap.WellFormed`: Both tables lead to every box.

## Theorems

* `step_refines`: One operation.
* `run_refines`: Any sequence of operations, and a drop after it.
-/

namespace Rathole

open Table Triples


/-- The heap, and the entries of `map1` and `map2`. -/
structure RawMultiMap (κ₁ κ₂ υ : Type) where
  heap : Heap (κ₁ × κ₂ × υ)
  map1 : List Slot
  map2 : List Slot

namespace RawMultiMap

variable {κ₁ κ₂ υ : Type}

/-- `&item.0` -/
def key1 (x : κ₁ × κ₂ × υ) : κ₁ := x.1

/-- `&item.1` -/
def key2 (x : κ₁ × κ₂ × υ) : κ₂ := x.2.1

/-- `MultiMap::new` -/
def new : RawMultiMap κ₁ κ₂ υ where
  heap := Heap.empty
  map1 := []
  map2 := []

/-- Dereference the item of an entry, if there is one. -/
def deref (m : RawMultiMap κ₁ κ₂ υ) : Option Slot → Option (Option υ)
  | none => some none
  | some e => (m.heap.read e.item).map (fun x => some x.2.2)

/-- Lend the item of an entry, if there is one, to a caller who makes its value
    into another. -/
def lend (m : RawMultiMap κ₁ κ₂ υ) (f : υ → υ) :
    Option Slot → Option (Option υ × RawMultiMap κ₁ κ₂ υ)
  | none => some (none, m)
  | some e => match m.heap.read e.item with
    | none => none
    | some x => (m.heap.write e.item (x.1, x.2.1, f x.2.2)).map
        (fun heap => (some x.2.2, { m with heap := heap }))

section Operations

variable [DecidableEq κ₁] [DecidableEq κ₂]

/-- `map1.contains_key(&k1) || map2.contains_key(&k2)`; the second table is
    looked at only if the first does not have its key. -/
def taken (m : RawMultiMap κ₁ κ₂ υ) (k₁ : κ₁) (k₂ : κ₂) : Option Bool :=
  match get m.heap key1 k₁ m.map1 with
  | none => none
  -- `||` does not look at the second table.
  | some (some _) => some true
  | some none => (get m.heap key2 k₂ m.map2).map (fun e => e.isSome)

/-- `MultiMap::insert` -/
def insert (m : RawMultiMap κ₁ κ₂ υ) (k₁ : κ₁) (k₂ : κ₂) (v : υ) :
    Option (Except (κ₁ × κ₂ × υ) Unit × RawMultiMap κ₁ κ₂ υ) :=
  match m.taken k₁ k₂ with
  | none => none
  | some true => some (.error (k₁, k₂, v), m)
  | some false =>
      -- Both keys are pointers into the box that was just made.
      let item := m.heap.alloc (k₁, k₂, v)
      let e : Slot := { key := item.1, item := item.1 }
      match Table.insert item.2 key1 e m.map1, Table.insert item.2 key2 e m.map2 with
      | some map1, some map2 => some (.ok (), { heap := item.2, map1 := map1, map2 := map2 })
      | _, _ => none

/-- `MultiMap::get1` -/
def get1 (m : RawMultiMap κ₁ κ₂ υ) (k₁ : κ₁) : Option (Option υ) :=
  (get m.heap key1 k₁ m.map1).bind m.deref

/-- `MultiMap::get1_mut` -/
def get1Mut (m : RawMultiMap κ₁ κ₂ υ) (k₁ : κ₁) (f : υ → υ) :
    Option (Option υ × RawMultiMap κ₁ κ₂ υ) :=
  (get m.heap key1 k₁ m.map1).bind (m.lend f)

/-- `MultiMap::get2` -/
def get2 (m : RawMultiMap κ₁ κ₂ υ) (k₂ : κ₂) : Option (Option υ) :=
  (get m.heap key2 k₂ m.map2).bind m.deref

/-- `MultiMap::get_mut2` -/
def getMut2 (m : RawMultiMap κ₁ κ₂ υ) (k₂ : κ₂) (f : υ → υ) :
    Option (Option υ × RawMultiMap κ₁ κ₂ υ) :=
  (get m.heap key2 k₂ m.map2).bind (m.lend f)

/-- `MultiMap::remove1`; the box is freed when the other table is done with
    its key. -/
def remove1 (m : RawMultiMap κ₁ κ₂ υ) (k₁ : κ₁) : Option (Option υ × RawMultiMap κ₁ κ₂ υ) :=
  match remove m.heap key1 k₁ m.map1 with
  | none => none
  | some (none, map1) => some (none, { m with map1 := map1 })
  | some (some e, map1) => match m.heap.read e.item with
    | none => none
    -- The box has to be alive while the second table compares keys.
    | some x => match remove m.heap key2 (key2 x) m.map2, m.heap.free e.item with
      | some (_, map2), some (x, heap) =>
          some (some x.2.2, { heap := heap, map1 := map1, map2 := map2 })
      | _, _ => none

/-- `MultiMap::remove2` -/
def remove2 (m : RawMultiMap κ₁ κ₂ υ) (k₂ : κ₂) : Option (Option υ × RawMultiMap κ₁ κ₂ υ) :=
  match remove m.heap key2 k₂ m.map2 with
  | none => none
  | some (none, map2) => some (none, { m with map2 := map2 })
  | some (some e, map2) => match m.heap.read e.item with
    | none => none
    | some x => match remove m.heap key1 (key1 x) m.map1, m.heap.free e.item with
      | some (_, map1), some (x, heap) =>
          some (some x.2.2, { heap := heap, map1 := map1, map2 := map2 })
      | _, _ => none

/-- `MultiMap::drop`: `map2.drain()` frees the items in the order `l`. -/
def dropItems (heap : Heap (κ₁ × κ₂ × υ)) : List Slot → Option (Heap (κ₁ × κ₂ × υ))
  | [] => some heap
  | e :: l => match heap.free e.item with
    | none => none
    | some (_, heap) => dropItems heap l

/-- An operation; `none` is undefined behaviour. -/
def step (m : RawMultiMap κ₁ κ₂ υ) :
    Op κ₁ κ₂ υ → Option (Output κ₁ κ₂ υ × RawMultiMap κ₁ κ₂ υ)
  | .insert k₁ k₂ v => match m.insert k₁ k₂ v with
    | none => none
    | some (.ok (), m') => some (.inserted, m')
    | some (.error x, m') => some (.rejected x, m')
  | .get1 k₁ => (m.get1 k₁).map (fun v => (.value v, m))
  | .get1Mut k₁ f => (m.get1Mut k₁ f).map (fun r => (.value r.1, r.2))
  | .get2 k₂ => (m.get2 k₂).map (fun v => (.value v, m))
  | .getMut2 k₂ f => (m.getMut2 k₂ f).map (fun r => (.value r.1, r.2))
  | .remove1 k₁ => (m.remove1 k₁).map (fun r => (.value r.1, r.2))
  | .remove2 k₂ => (m.remove2 k₂).map (fun r => (.value r.1, r.2))

/-- A sequence of operations, and what they return. -/
def run : RawMultiMap κ₁ κ₂ υ → List (Op κ₁ κ₂ υ) →
    Option (List (Output κ₁ κ₂ υ) × RawMultiMap κ₁ κ₂ υ)
  | m, [] => some ([], m)
  | m, op :: ops => match m.step op with
    | none => none
    | some (out, m') => (run m' ops).map (fun r => (out :: r.1, r.2))

end Operations

/-- Both tables lead to every box that is not freed, each by its own key. -/
structure WellFormed (m : RawMultiMap κ₁ κ₂ υ) : Prop where
  index1 : Indexes m.heap key1 m.map1
  index2 : Indexes m.heap key2 m.map2

/-- The live items. -/
def triples (m : RawMultiMap κ₁ κ₂ υ) : Set (κ₁ × κ₂ × υ) := {x | ∃ p, m.heap.read p = some x}

variable {m : RawMultiMap κ₁ κ₂ υ} {k₁ : κ₁} {k₂ : κ₂} {x : κ₁ × κ₂ × υ} {p : Nat}

theorem new_wellFormed : (new : RawMultiMap κ₁ κ₂ υ).WellFormed where
  index1 := indexes_empty
  index2 := indexes_empty

/-- An item is in one box. -/
theorem WellFormed.box_eq (hw : m.WellFormed) {q : Nat} (hp : m.heap.read p = some x)
    (hq : m.heap.read q = some x) : q = p :=
  hw.index1.unique q p x x hq hp rfl

theorem WellFormed.unique (hw : m.WellFormed) : UniqueKeys m.triples where
  key1 := by
    rintro x ⟨p, hp⟩ y ⟨q, hq⟩ hxy
    rw [hw.index1.unique p q x y hp hq hxy, hq, Option.some.injEq] at hp
    exact hp.symm
  key2 := by
    rintro x ⟨p, hp⟩ y ⟨q, hq⟩ hxy
    rw [hw.index2.unique p q x y hp hq hxy, hq, Option.some.injEq] at hp
    exact hp.symm

/-- Freeing the items of a table, whatever the order, frees every box. -/
theorem dropItems_of_live : ∀ (l : List Slot) (h : Heap (κ₁ × κ₂ × υ)),
    (l.map Slot.item).Nodup → (∀ p, p ∈ l.map Slot.item ↔ ∃ x, h.read p = some x) →
      ∃ h', dropItems h l = some h' ∧ (∀ p, h'.read p = none) ∧ h'.size = h.size := by
  intro l
  induction l with
  | nil =>
      intro h _ hlive
      refine ⟨h, rfl, ?_, rfl⟩
      intro p
      cases hp : h.read p with
      | none => rfl
      | some x => exact absurd ((hlive p).mpr ⟨x, hp⟩) List.not_mem_nil
  | cons e l ih =>
      intro h hnd hlive
      rw [List.map_cons, List.nodup_cons] at hnd
      rcases (hlive e.item).mp List.mem_cons_self with ⟨x, hx⟩
      rcases Heap.free_eq_some hx with ⟨h1, hfree⟩
      -- What is left of the table still leads to exactly the live boxes.
      have hrest : ∀ p, p ∈ l.map Slot.item ↔ ∃ y, h1.read p = some y := by
        intro p
        constructor
        · intro hp
          rcases (hlive p).mp (List.mem_cons_of_mem _ hp) with ⟨y, hy⟩
          refine ⟨y, (Heap.read_free_iff hfree).mpr ⟨?_, hy⟩⟩
          intro heq
          -- No box is in the table twice, so none is freed twice.
          rw [heq] at hp
          exact hnd.1 hp
        · rintro ⟨y, hy⟩
          rcases (Heap.read_free_iff hfree).mp hy with ⟨hne, hy⟩
          rcases List.mem_cons.mp ((hlive p).mpr ⟨y, hy⟩) with hp | hp
          · exact absurd hp hne
          · exact hp
      rcases ih h1 hnd.2 hrest with ⟨h', hdrop, hnone, hsize⟩
      refine ⟨h', ?_, hnone, by rw [hsize, Heap.size_free hfree]⟩
      simp only [dropItems, hfree, hdrop]

/-- A caller that is lent an item leaves the keys alone. -/
theorem lend_some (hw : m.WellFormed) (f : υ → υ) {e : Slot} (hx : m.heap.read e.item = some x) :
    ∃ m', m.lend f (some e) = some (some x.2.2, m') ∧ m'.WellFormed ∧
      m'.triples = replaced m.triples x (f x.2.2) ∧ m'.heap.size = m.heap.size := by
  rcases Heap.write_eq_some hx (x.1, x.2.1, f x.2.2) with ⟨heap, hwrite⟩
  refine ⟨{ m with heap := heap }, ?_, ⟨hw.index1.of_write hx hwrite rfl,
    hw.index2.of_write hx hwrite rfl⟩, ?_, Heap.size_write hwrite⟩
  · simp only [lend, hx, hwrite, Option.map_some]
  · exact Heap.contents_write hx (fun q hq => hw.box_eq hx hq) hwrite

/-- Looking for a first key: its item, or no item has it. -/
theorem WellFormed.get1_cases [DecidableEq κ₁] (hw : m.WellFormed) (k₁ : κ₁) :
    (∃ e x, get m.heap key1 k₁ m.map1 = some (some e) ∧ m.heap.read e.item = some x ∧
        x ∈ m.triples ∧ x.1 = k₁) ∨
      (get m.heap key1 k₁ m.map1 = some none ∧ ∀ x ∈ m.triples, x.1 ≠ k₁) := by
  rcases hw.index1.get_cases k₁ with ⟨e, x, hget, _, hx, hk⟩ | ⟨hget, hn⟩
  · exact Or.inl ⟨e, x, hget, hx, ⟨e.item, hx⟩, hk⟩
  · exact Or.inr ⟨hget, fun x ⟨p, hp⟩ => hn p x hp⟩

/-- Looking for a second key. -/
theorem WellFormed.get2_cases [DecidableEq κ₂] (hw : m.WellFormed) (k₂ : κ₂) :
    (∃ e x, get m.heap key2 k₂ m.map2 = some (some e) ∧ m.heap.read e.item = some x ∧
        x ∈ m.triples ∧ x.2.1 = k₂) ∨
      (get m.heap key2 k₂ m.map2 = some none ∧ ∀ x ∈ m.triples, x.2.1 ≠ k₂) := by
  rcases hw.index2.get_cases k₂ with ⟨e, x, hget, _, hx, hk⟩ | ⟨hget, hn⟩
  · exact Or.inl ⟨e, x, hget, hx, ⟨e.item, hx⟩, hk⟩
  · exact Or.inr ⟨hget, fun x ⟨p, hp⟩ => hn p x hp⟩

variable [DecidableEq κ₁] [DecidableEq κ₂]

/-- `insert` looks at both tables. -/
theorem WellFormed.taken_cases (hw : m.WellFormed) (k₁ : κ₁) (k₂ : κ₂) :
    (m.taken k₁ k₂ = some true ∧ ∃ x ∈ m.triples, x.1 = k₁ ∨ x.2.1 = k₂) ∨
      (m.taken k₁ k₂ = some false ∧ (∀ x ∈ m.triples, x.1 ≠ k₁) ∧
        ∀ x ∈ m.triples, x.2.1 ≠ k₂) := by
  unfold taken
  rcases hw.get1_cases k₁ with ⟨e, x, hget, _, hx, hk⟩ | ⟨hget, h1⟩
  · rw [hget]
    exact Or.inl ⟨rfl, x, hx, Or.inl hk⟩
  · rw [hget]
    rcases hw.get2_cases k₂ with ⟨e, x, hget2, _, hx, hk⟩ | ⟨hget2, h2⟩
    · rw [hget2]
      exact Or.inl ⟨rfl, x, hx, Or.inr hk⟩
    · rw [hget2]
      exact Or.inr ⟨rfl, h1, h2⟩

/-- One operation does what `Step` says, to a map that stays well-formed, and
    makes a box exactly if it puts an item in. -/
def Refines (m : RawMultiMap κ₁ κ₂ υ) (op : Op κ₁ κ₂ υ) : Prop :=
  ∃ out m', m.step op = some (out, m') ∧ m'.WellFormed ∧ Step m.triples op out m'.triples ∧
    m'.heap.size = m.heap.size + out.count

theorem insert_refines (hw : m.WellFormed) (k₁ : κ₁) (k₂ : κ₂) (v : υ) :
    m.Refines (.insert k₁ k₂ v) := by
  rcases hw.taken_cases k₁ k₂ with ⟨htaken, hex⟩ | ⟨htaken, h1, h2⟩
  · -- One of the keys is taken: nothing is allocated.
    refine ⟨.rejected (k₁, k₂, v), m, ?_, hw, .reject hex, rfl⟩
    simp only [step, insert, htaken]
  · -- No live item has the new keys, so either table can take an entry.
    have hnew1 : ∀ p y, m.heap.read p = some y → y.1 ≠ k₁ := fun p y hy => h1 y ⟨p, hy⟩
    have hnew2 : ∀ p y, m.heap.read p = some y → y.2.1 ≠ k₂ := fun p y hy => h2 y ⟨p, hy⟩
    refine ⟨.inserted, ⟨(m.heap.alloc (k₁, k₂, v)).2, _, _⟩, ?_,
      ⟨hw.index1.of_alloc hnew1, hw.index2.of_alloc hnew2⟩, ?_, Heap.size_alloc _ _⟩
    · simp only [step, insert, htaken, Heap.alloc_fst,
        hw.index1.insert_alloc (a := (k₁, k₂, v)) hnew1,
        hw.index2.insert_alloc (a := (k₁, k₂, v)) hnew2]
    · have hset : triples ⟨(m.heap.alloc (k₁, k₂, v)).2, m.map1 ++ [⟨m.heap.size, m.heap.size⟩],
          m.map2 ++ [⟨m.heap.size, m.heap.size⟩]⟩ = Insert.insert (k₁, k₂, v) m.triples :=
        Heap.contents_alloc _ _
      rw [hset]
      exact .insert h1 h2

theorem get1_refines (hw : m.WellFormed) (k₁ : κ₁) : m.Refines (.get1 k₁) := by
  rcases hw.get1_cases k₁ with ⟨e, x, hget, hread, hx, hk⟩ | ⟨hget, hn⟩
  · -- The entry leads to a live box, so the read is defined.
    refine ⟨.value (some x.2.2), m, ?_, hw, .get1 hx hk, rfl⟩
    simp only [step, get1, hget, Option.bind_some, deref, hread, Option.map_some]
  · refine ⟨.value none, m, ?_, hw, .get1None hn, rfl⟩
    simp only [step, get1, hget, Option.bind_some, deref, Option.map_some]

theorem get2_refines (hw : m.WellFormed) (k₂ : κ₂) : m.Refines (.get2 k₂) := by
  rcases hw.get2_cases k₂ with ⟨e, x, hget, hread, hx, hk⟩ | ⟨hget, hn⟩
  · refine ⟨.value (some x.2.2), m, ?_, hw, .get2 hx hk, rfl⟩
    simp only [step, get2, hget, Option.bind_some, deref, hread, Option.map_some]
  · refine ⟨.value none, m, ?_, hw, .get2None hn, rfl⟩
    simp only [step, get2, hget, Option.bind_some, deref, Option.map_some]

theorem get1Mut_refines (hw : m.WellFormed) (k₁ : κ₁) (f : υ → υ) :
    m.Refines (.get1Mut k₁ f) := by
  rcases hw.get1_cases k₁ with ⟨e, x, hget, hread, hx, hk⟩ | ⟨hget, hn⟩
  · rcases lend_some hw f hread with ⟨m', hlend, hw', hset, hsize⟩
    refine ⟨.value (some x.2.2), m', ?_, hw', ?_, hsize⟩
    · simp only [step, get1Mut, hget, Option.bind_some, hlend, Option.map_some]
    · rw [hset]
      exact .get1Mut hx hk
  · refine ⟨.value none, m, ?_, hw, .get1MutNone hn, rfl⟩
    simp only [step, get1Mut, hget, Option.bind_some, lend, Option.map_some]

theorem getMut2_refines (hw : m.WellFormed) (k₂ : κ₂) (f : υ → υ) :
    m.Refines (.getMut2 k₂ f) := by
  rcases hw.get2_cases k₂ with ⟨e, x, hget, hread, hx, hk⟩ | ⟨hget, hn⟩
  · rcases lend_some hw f hread with ⟨m', hlend, hw', hset, hsize⟩
    refine ⟨.value (some x.2.2), m', ?_, hw', ?_, hsize⟩
    · simp only [step, getMut2, hget, Option.bind_some, hlend, Option.map_some]
    · rw [hset]
      exact .getMut2 hx hk
  · refine ⟨.value none, m, ?_, hw, .getMut2None hn, rfl⟩
    simp only [step, getMut2, hget, Option.bind_some, lend, Option.map_some]

/-- A box is freed and taken out of both tables. -/
theorem free_refines (hw : m.WellFormed) (hx : m.heap.read p = some x) :
    ∃ heap, m.heap.free p = some (x, heap) ∧
      WellFormed ⟨heap, m.map1.eraseP (keyIs m.heap key1 (key1 x)),
        m.map2.eraseP (keyIs m.heap key2 (key2 x))⟩ ∧
      triples ⟨heap, m.map1.eraseP (keyIs m.heap key1 (key1 x)),
        m.map2.eraseP (keyIs m.heap key2 (key2 x))⟩ = m.triples \ {x} ∧
      heap.size = m.heap.size := by
  rcases Heap.free_eq_some hx with ⟨heap, hfree⟩
  exact ⟨heap, hfree, ⟨hw.index1.of_free hx hfree, hw.index2.of_free hx hfree⟩,
    Heap.contents_free hx (fun q hq => hw.box_eq hx hq) hfree, Heap.size_free hfree⟩

theorem remove1_refines (hw : m.WellFormed) (k₁ : κ₁) : m.Refines (.remove1 k₁) := by
  rcases hw.get1_cases k₁ with ⟨e, x, _, hread, hx, hk⟩ | ⟨_, hn⟩
  · -- The two entries may differ, but both lead to the one box of `x`.
    rcases free_refines hw hread with ⟨heap, hfree, hw', hset, hsize⟩
    rcases hw.index1.remove_some hread with ⟨e1, _, hitem, hrem1⟩
    rcases hw.index2.remove_some hread with ⟨e2, _, _, hrem2⟩
    have hkey : key1 x = k₁ := hk
    refine ⟨.value (some x.2.2), ⟨heap, _, _⟩, ?_, hw', ?_, hsize⟩
    · rw [hkey] at hrem1
      simp only [step, remove1, hrem1, hitem, hread, hrem2, hfree, Option.map_some, hkey]
    · rw [hset]
      exact .remove1 hx hk
  · have hrem := hw.index1.remove_none (fun p y hy => hn y ⟨p, hy⟩)
    refine ⟨.value none, m, ?_, hw, .remove1None hn, rfl⟩
    simp only [step, remove1, hrem, Option.map_some]

theorem remove2_refines (hw : m.WellFormed) (k₂ : κ₂) : m.Refines (.remove2 k₂) := by
  rcases hw.get2_cases k₂ with ⟨e, x, _, hread, hx, hk⟩ | ⟨_, hn⟩
  · rcases free_refines hw hread with ⟨heap, hfree, hw', hset, hsize⟩
    rcases hw.index1.remove_some hread with ⟨e1, _, _, hrem1⟩
    rcases hw.index2.remove_some hread with ⟨e2, _, hitem, hrem2⟩
    have hkey : key2 x = k₂ := hk
    refine ⟨.value (some x.2.2), ⟨heap, _, _⟩, ?_, hw', ?_, hsize⟩
    · rw [hkey] at hrem2
      simp only [step, remove2, hrem2, hitem, hread, hrem1, hfree, Option.map_some, hkey]
    · rw [hset]
      exact .remove2 hx hk
  · have hrem := hw.index2.remove_none (fun p y hy => hn y ⟨p, hy⟩)
    refine ⟨.value none, m, ?_, hw, .remove2None hn, rfl⟩
    simp only [step, remove2, hrem, Option.map_some]

theorem step_refines (hw : m.WellFormed) (op : Op κ₁ κ₂ υ) : m.Refines op := by
  cases op with
  | insert k₁ k₂ v => exact insert_refines hw k₁ k₂ v
  | get1 k₁ => exact get1_refines hw k₁
  | get1Mut k₁ f => exact get1Mut_refines hw k₁ f
  | get2 k₂ => exact get2_refines hw k₂
  | getMut2 k₂ f => exact getMut2_refines hw k₂ f
  | remove1 k₁ => exact remove1_refines hw k₁
  | remove2 k₂ => exact remove2_refines hw k₂

/-! ### Runs -/

/-- The items that were ever put in. -/
def inserted : List (Output κ₁ κ₂ υ) → Nat
  | [] => 0
  | out :: outs => out.count + inserted outs

theorem run_of_wellFormed : ∀ (ops : List (Op κ₁ κ₂ υ)) (m : RawMultiMap κ₁ κ₂ υ), m.WellFormed →
    ∃ outs m', m.run ops = some (outs, m') ∧ m'.WellFormed ∧
      Run m.triples ops outs m'.triples ∧ m'.heap.size = m.heap.size + inserted outs := by
  intro ops
  induction ops with
  | nil => intro m hw; exact ⟨[], m, rfl, hw, .nil, rfl⟩
  | cons op ops ih =>
      intro m hw
      -- The first operation keeps what the induction needs of the rest.
      rcases step_refines hw op with ⟨out, m', hstep, hw', hspec, hsize⟩
      rcases ih m' hw' with ⟨outs, m'', hrun, hw'', hspecs, hsizes⟩
      refine ⟨out :: outs, m'', ?_, hw'', .cons hspec hspecs, ?_⟩
      · simp only [run, hstep, hrun, Option.map_some]
      · rw [hsizes, hsize, inserted]
        omega

/-- Any sequence of operations on a new map is defined. It leaves both tables
    leading to the same boxes, those that are not freed, and does to the set of
    triples what `Step` says of each operation. If the map is dropped then, in
    whatever order its table is drained, each of the boxes that were made, one
    for each item that was put in, was freed once. -/
theorem run_refines (ops : List (Op κ₁ κ₂ υ)) :
    ∃ outs m, run (new : RawMultiMap κ₁ κ₂ υ) ops = some (outs, m) ∧ m.WellFormed ∧
      Run ∅ ops outs m.triples ∧ UniqueKeys m.triples ∧
      ∀ l, l.Perm m.map2 → ∃ h, dropItems m.heap l = some h ∧ (∀ p, h.read p = none) ∧
        h.freed.Perm (List.range (inserted outs)) := by
  rcases run_of_wellFormed ops new new_wellFormed with ⟨outs, m, hrun, hw, hspec, hsize⟩
  have hempty : triples (new : RawMultiMap κ₁ κ₂ υ) = ∅ := Heap.contents_empty
  rw [hempty] at hspec
  refine ⟨outs, m, hrun, hw, hspec, hw.unique, ?_⟩
  intro l hl
  have hitems : (l.map Slot.item).Perm (m.map2.map Slot.item) := hl.map _
  have hlive : ∀ p, p ∈ l.map Slot.item ↔ ∃ x, m.heap.read p = some x := by
    intro p
    rw [hitems.mem_iff, List.mem_map, hw.index2.live p]
  rcases dropItems_of_live l m.heap (hitems.nodup_iff.mpr hw.index2.nodup_items) hlive with
    ⟨h, hdrop, hnone, hsize'⟩
  refine ⟨h, hdrop, hnone, ?_⟩
  -- Nothing is live at the end, so all that was made was freed.
  have hperm := Heap.freed_perm_range hnone
  have hnew : (new : RawMultiMap κ₁ κ₂ υ).heap.size = 0 := rfl
  rw [hsize', hsize, hnew, Nat.zero_add] at hperm
  exact hperm

end RawMultiMap

end Rathole
