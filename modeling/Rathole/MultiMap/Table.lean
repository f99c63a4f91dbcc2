import Mathlib.Data.List.Nodup
import Rathole.Lib.Heap

/-!
# Hash Tables of Pointers

The two indexes of `multi_map.rs`. An entry is a pointer to a key, which lies
in a box, and a pointer to the box. Hashing and comparing dereference the
keys, and a table may hash or compare any of its keys at any access, so an
access is undefined behaviour (`none`) as soon as one key of the table is in a
freed box.

`Indexes` is what keeps a table defined: it has one entry for each box that is
not freed, with both pointers to it, and no two boxes share a key.

## Main definitions

* `Slot`: The entries.
* `Table.get`, `Table.insert`, `Table.remove`: The operations.
* `Table.Indexes`: A table leads to every box of the heap.

## Theorems

* `Indexes.get_cases`: What a key finds.
* `Indexes.of_alloc`, `Indexes.of_free`, `Indexes.of_write`: A table that is
  kept in step with the heap goes on leading to every box.
-/

namespace Rathole

open Numbered


/-- `(Key, RawItem)`: a pointer to a key and one to its item. -/
structure Slot where
  key : Nat
  item : Nat
deriving DecidableEq, Repr

namespace Table

variable {α κ : Type}

/-- Every key can be dereferenced. -/
def Readable (h : Heap α) (l : List Slot) : Prop := ∀ e ∈ l, (h.read e.key).isSome = true

instance (h : Heap α) (l : List Slot) : Decidable (Readable h l) := by
  unfold Readable
  infer_instance

/-- `Key::eq` with a key outside the table. -/
def keyIs [DecidableEq κ] (h : Heap α) (f : α → κ) (k : κ) (e : Slot) : Bool :=
  (h.read e.key).map f = some k

/-- `HashMap::get` -/
def get [DecidableEq κ] (h : Heap α) (f : α → κ) (k : κ) (l : List Slot) : Option (Option Slot) :=
  -- A lookup may compare with any key of the table, so all have to be alive.
  if Readable h l then some (l.find? (keyIs h f k)) else none

/-- `HashMap::remove` -/
def remove [DecidableEq κ] (h : Heap α) (f : α → κ) (k : κ) (l : List Slot) :
    Option (Option Slot × List Slot) :=
  if Readable h l then some (l.find? (keyIs h f k), l.eraseP (keyIs h f k)) else none

/-- `HashMap::insert`: an entry with an equal key keeps its key. -/
def insert [DecidableEq κ] (h : Heap α) (f : α → κ) (e : Slot) (l : List Slot) :
    Option (List Slot) :=
  match h.read e.key with
  | none => none
  | some a =>
      if Readable h l then
        if (l.find? (keyIs h f (f a))).isSome then
          -- The new key is dropped; the entry then leads to the new item by the old key.
          some (l.map (fun e' => if keyIs h f (f a) e' then { e' with item := e.item } else e'))
        else some (l ++ [e])
      else none

/-- A table that leads to every box of the heap, by the key that `f` takes
    from it: the pointers of an entry are to one box, the boxes are those that
    can be read, each has one entry, and a key is that of one box. -/
structure Indexes (h : Heap α) (f : α → κ) (l : List Slot) : Prop where
  own : ∀ e ∈ l, e.key = e.item
  live : ∀ p, (∃ e ∈ l, e.item = p) ↔ ∃ a, h.read p = some a
  nodup : l.Nodup
  unique : ∀ p q a b, h.read p = some a → h.read q = some b → f a = f b → p = q

variable {h h' : Heap α} {f : α → κ} {l : List Slot} {k : κ} {e : Slot} {a : α} {p : Nat}

theorem indexes_empty : Indexes (Heap.empty : Heap α) f [] where
  own := fun e he => absurd he List.not_mem_nil
  live := by
    intro p
    constructor
    · rintro ⟨e, he, _⟩
      exact absurd he List.not_mem_nil
    · rintro ⟨a, ha⟩
      rw [Heap.read_empty] at ha
      simp only [reduceCtorEq] at ha
  nodup := List.nodup_nil
  unique := by
    intro p q a b ha
    rw [Heap.read_empty] at ha
    simp only [reduceCtorEq] at ha

theorem Indexes.read (hi : Indexes h f l) (he : e ∈ l) : ∃ a, h.read e.item = some a :=
  (hi.live e.item).mp ⟨e, he, rfl⟩

theorem Indexes.readable (hi : Indexes h f l) : Readable h l := by
  intro e he
  rcases hi.read he with ⟨a, ha⟩
  rw [hi.own e he, ha]
  rfl

theorem Indexes.eq_of_item (hi : Indexes h f l) {e' : Slot} (he : e ∈ l) (he' : e' ∈ l)
    (heq : e.item = e'.item) : e = e' := by
  have hk : e.key = e'.key := by rw [hi.own e he, hi.own e' he', heq]
  cases e with
  | mk key item =>
      cases e' with
      | mk key' item' =>
          rw [Slot.mk.injEq]
          exact ⟨hk, heq⟩

theorem Indexes.nodup_items (hi : Indexes h f l) : (l.map Slot.item).Nodup :=
  List.Nodup.map_on (fun _ he _ he' heq => hi.eq_of_item he he' heq) hi.nodup

/-- In a list without duplicates, what is not erased. -/
theorem mem_eraseP_iff {P : Slot → Bool} (hnd : l.Nodup)
    (hP : ∀ e ∈ l, ∀ e' ∈ l, P e = true → P e' = true → e = e') {x : Slot} :
    x ∈ l.eraseP P ↔ x ∈ l ∧ P x = false := by
  induction l with
  | nil => simp only [List.eraseP_nil, List.not_mem_nil, false_and]
  | cons y l ih =>
      rw [List.nodup_cons] at hnd
      have hrest := ih hnd.2 (fun e he e' he' =>
        hP e (List.mem_cons_of_mem y he) e' (List.mem_cons_of_mem y he'))
      by_cases hy : P y = true
      · -- The first element is erased, and no other one satisfies `P`.
        rw [List.eraseP_cons_of_pos hy, List.mem_cons]
        constructor
        · intro hx
          refine ⟨Or.inr hx, ?_⟩
          by_contra hPx
          rw [Bool.not_eq_false] at hPx
          have heq := hP y List.mem_cons_self x (List.mem_cons_of_mem y hx) hy hPx
          exact hnd.1 (heq ▸ hx)
        · rintro ⟨hx | hx, hPx⟩
          · rw [hx, hy] at hPx
            simp only [Bool.true_eq_false] at hPx
          · exact hx
      · rw [List.eraseP_cons_of_neg hy, List.mem_cons, List.mem_cons, hrest]
        rw [Bool.not_eq_true] at hy
        constructor
        · rintro (hx | ⟨hx, hPx⟩)
          · exact ⟨Or.inl hx, by rw [hx]; exact hy⟩
          · exact ⟨Or.inr hx, hPx⟩
        · rintro ⟨hx | hx, hPx⟩
          · exact Or.inl hx
          · exact Or.inr ⟨hx, hPx⟩

/-- All boxes of the table are older than a new one. -/
theorem Indexes.item_lt (hi : Indexes h f l) {e : Slot} (he : e ∈ l) : e.item < h.size := by
  rcases hi.read he with ⟨b, hb⟩
  exact Heap.lt_of_read hb

/-- A box with a new key gets an entry. -/
theorem Indexes.of_alloc (hi : Indexes h f l) (hn : ∀ p b, h.read p = some b → f b ≠ f a) :
    Indexes (h.alloc a).2 f (l ++ [⟨h.size, h.size⟩]) where
  own := by
    intro e he
    rcases List.mem_append.mp he with he | he
    · exact hi.own e he
    · rw [List.mem_singleton] at he
      rw [he]
  live := by
    intro q
    constructor
    · rintro ⟨e, he, hq⟩
      rcases List.mem_append.mp he with he | he
      · rcases hi.read he with ⟨b, hb⟩
        rw [hq] at hb
        exact ⟨b, Heap.read_alloc_iff.mpr (Or.inr hb)⟩
      · rw [List.mem_singleton] at he
        rw [← hq, he]
        exact ⟨a, Heap.read_alloc_iff.mpr (Or.inl ⟨rfl, rfl⟩)⟩
    · rintro ⟨b, hb⟩
      rcases Heap.read_alloc_iff.mp hb with ⟨hq, _⟩ | hold
      · exact ⟨⟨h.size, h.size⟩, List.mem_append_right _ (List.mem_singleton_self _), hq.symm⟩
      · rcases (hi.live q).mpr ⟨b, hold⟩ with ⟨e, he, hq⟩
        exact ⟨e, List.mem_append_left _ he, hq⟩
  nodup := by
    refine List.nodup_append.mpr ⟨hi.nodup, List.pairwise_singleton _ _, ?_⟩
    intro e he e' he' heq
    rw [List.mem_singleton] at he'
    have hbound := hi.item_lt he
    rw [heq, he'] at hbound
    exact absurd hbound (Nat.lt_irrefl _)
  unique := by
    intro p q b c hb hc hbc
    rcases Heap.read_alloc_iff.mp hb with ⟨hp, hba⟩ | hb
    · rcases Heap.read_alloc_iff.mp hc with ⟨hq, _⟩ | hc
      · rw [hp, hq]
      · exact absurd (by rw [← hbc, hba]) (hn q c hc)
    · rcases Heap.read_alloc_iff.mp hc with ⟨_, hca⟩ | hc
      · exact absurd (by rw [hbc, hca]) (hn p b hb)
      · exact hi.unique p q b c hb hc hbc

/-- Another content with the same key changes nothing for the table. -/
theorem Indexes.of_write (hi : Indexes h f l) {b : α} (hr : h.read p = some b)
    (hw : h.write p a = some h') (hk : f a = f b) : Indexes h' f l where
  own := hi.own
  live := by
    intro q
    rw [hi.live q]
    constructor
    · rintro ⟨c, hc⟩
      by_cases hq : q = p
      · exact ⟨a, (Heap.read_write_iff hw).mpr (Or.inl ⟨hq, rfl⟩)⟩
      · exact ⟨c, (Heap.read_write_iff hw).mpr (Or.inr ⟨hq, hc⟩)⟩
    · rintro ⟨c, hc⟩
      rcases (Heap.read_write_iff hw).mp hc with ⟨hq, _⟩ | ⟨_, hc⟩
      · exact ⟨b, by rw [hq]; exact hr⟩
      · exact ⟨c, hc⟩
  nodup := hi.nodup
  unique := by
    -- Every box has the key it had before the write.
    have before : ∀ q c, h'.read q = some c → ∃ d, h.read q = some d ∧ f d = f c := by
      intro q c hc
      rcases (Heap.read_write_iff hw).mp hc with ⟨hq, hca⟩ | ⟨_, hc⟩
      · exact ⟨b, by rw [hq]; exact hr, by rw [hca, hk]⟩
      · exact ⟨c, hc, rfl⟩
    intro q q' c c' hc hc' heq
    rcases before q c hc with ⟨d, hd, hdc⟩
    rcases before q' c' hc' with ⟨d', hd', hdc'⟩
    exact hi.unique q q' d d' hd hd' (by rw [hdc, hdc', heq])

variable [DecidableEq κ]

theorem Indexes.keyIs_iff (hi : Indexes h f l) (he : e ∈ l) :
    keyIs h f k e = true ↔ ∃ a, h.read e.item = some a ∧ f a = k := by
  unfold keyIs
  rw [hi.own e he, decide_eq_true_eq, Option.map_eq_some_iff]

/-- A key finds the box that has it. -/
theorem Indexes.get_some (hi : Indexes h f l) (hr : h.read p = some a) :
    ∃ e ∈ l, e.item = p ∧ l.find? (keyIs h f (f a)) = some e := by
  rcases (hi.live p).mpr ⟨a, hr⟩ with ⟨e, he, hp⟩
  have hkey : keyIs h f (f a) e = true :=
    (hi.keyIs_iff he).mpr ⟨a, by rw [hp]; exact hr, rfl⟩
  have hsome : (l.find? (keyIs h f (f a))).isSome = true := by
    rw [List.find?_isSome]
    exact ⟨e, he, hkey⟩
  rcases Option.isSome_iff_exists.mp hsome with ⟨e', hfind⟩
  have he' := List.mem_of_find?_eq_some hfind
  rcases (hi.keyIs_iff he').mp (List.find?_some hfind) with ⟨b, hb, hfb⟩
  -- Whichever entry is found, its box has the same key, so it is the same box.
  have hsame := hi.eq_of_item he' he (hp ▸ hi.unique _ _ _ _ hb hr hfb)
  exact ⟨e, he, hp, by rw [hfind, hsame]⟩

/-- A key that is no box's finds nothing. -/
theorem Indexes.get_none (hi : Indexes h f l) (hn : ∀ p a, h.read p = some a → f a ≠ k) :
    l.find? (keyIs h f k) = none := by
  rw [List.find?_eq_none]
  intro e he hkey
  rcases (hi.keyIs_iff he).mp hkey with ⟨a, ha, hfa⟩
  exact hn e.item a ha hfa

/-- What a key finds. -/
theorem Indexes.get_cases (hi : Indexes h f l) (k : κ) :
    (∃ e a, get h f k l = some (some e) ∧ e ∈ l ∧ h.read e.item = some a ∧ f a = k) ∨
      (get h f k l = some none ∧ ∀ p a, h.read p = some a → f a ≠ k) := by
  unfold get
  rw [if_pos hi.readable]
  -- Some box has the key, or none has.
  by_cases hex : ∃ p a, h.read p = some a ∧ f a = k
  · rcases hex with ⟨p, a, hr, hk⟩
    rcases hi.get_some hr with ⟨e, he, hp, hfind⟩
    rw [hk] at hfind
    exact Or.inl ⟨e, a, by rw [hfind], he, by rw [hp]; exact hr, hk⟩
  · have hn : ∀ p a, h.read p = some a → f a ≠ k := fun p a hr hk => hex ⟨p, a, hr, hk⟩
    exact Or.inr ⟨by rw [hi.get_none hn], hn⟩

/-- Taking out the key of a box takes out its entry. -/
theorem Indexes.mem_erase_iff (hi : Indexes h f l) (hr : h.read p = some a) :
    e ∈ l.eraseP (keyIs h f (f a)) ↔ e ∈ l ∧ e.item ≠ p := by
  -- Among the entries of a table, the key tells the box.
  have hiff : ∀ e' ∈ l, keyIs h f (f a) e' = true ↔ e'.item = p := by
    intro e' he'
    rw [hi.keyIs_iff he']
    constructor
    · rintro ⟨b, hb, hfb⟩
      exact hi.unique _ _ _ _ hb hr hfb
    · intro hp
      exact ⟨a, by rw [hp]; exact hr, rfl⟩
  rw [mem_eraseP_iff hi.nodup]
  · constructor
    · rintro ⟨he, hkey⟩
      refine ⟨he, ?_⟩
      intro hp
      rw [(hiff e he).mpr hp] at hkey
      simp only [Bool.true_eq_false] at hkey
    · rintro ⟨he, hp⟩
      refine ⟨he, ?_⟩
      by_contra hkey
      rw [Bool.not_eq_false] at hkey
      exact hp ((hiff e he).mp hkey)
  · intro e' he' e'' he'' hk' hk''
    exact hi.eq_of_item he' he'' (((hiff e' he').mp hk').trans ((hiff e'' he'').mp hk'').symm)

/-- Taking a box out of a table. -/
theorem Indexes.remove_some (hi : Indexes h f l) (hr : h.read p = some a) :
    ∃ e ∈ l, e.item = p ∧
      remove h f (f a) l = some (some e, l.eraseP (keyIs h f (f a))) := by
  rcases hi.get_some hr with ⟨e, he, hp, hfind⟩
  refine ⟨e, he, hp, ?_⟩
  unfold remove
  rw [if_pos hi.readable, hfind]

theorem Indexes.remove_none (hi : Indexes h f l) (hn : ∀ p a, h.read p = some a → f a ≠ k) :
    remove h f k l = some (none, l) := by
  have hfind := hi.get_none hn
  unfold remove
  rw [if_pos hi.readable, hfind]
  rw [List.find?_eq_none] at hfind
  rw [List.eraseP_of_forall_not hfind]

/-- Without its entry and freed, a box is gone from the table's point of
    view. -/
theorem Indexes.of_free (hi : Indexes h f l) (hr : h.read p = some a)
    (hf : h.free p = some (a, h')) : Indexes h' f (l.eraseP (keyIs h f (f a))) where
  own := fun e he => hi.own e ((hi.mem_erase_iff hr).mp he).1
  live := by
    intro q
    constructor
    · rintro ⟨e, he, hq⟩
      rcases (hi.mem_erase_iff hr).mp he with ⟨hel, hne⟩
      rcases hi.read hel with ⟨b, hb⟩
      rw [hq] at hb hne
      exact ⟨b, (Heap.read_free_iff hf).mpr ⟨hne, hb⟩⟩
    · rintro ⟨b, hb⟩
      rcases (Heap.read_free_iff hf).mp hb with ⟨hne, hb⟩
      rcases (hi.live q).mpr ⟨b, hb⟩ with ⟨e, he, hq⟩
      exact ⟨e, (hi.mem_erase_iff hr).mpr ⟨he, by rw [hq]; exact hne⟩, hq⟩
  nodup := hi.nodup.sublist (List.eraseP_sublist)
  unique := by
    intro p q a b ha hb
    exact hi.unique p q a b ((Heap.read_free_iff hf).mp ha).2 ((Heap.read_free_iff hf).mp hb).2

/-- No entry has the new key, so the insertion appends. -/
theorem Indexes.insert_alloc (hi : Indexes h f l) (hn : ∀ p b, h.read p = some b → f b ≠ f a) :
    insert (h.alloc a).2 f ⟨h.size, h.size⟩ l = some (l ++ [⟨h.size, h.size⟩]) := by
  have hnew : (h.alloc a).2.read h.size = some a := Heap.read_alloc_iff.mpr (Or.inl ⟨rfl, rfl⟩)
  have hreadable : Readable (h.alloc a).2 l := by
    intro e he
    rcases hi.read he with ⟨b, hb⟩
    rw [hi.own e he, Heap.read_alloc_iff.mpr (Or.inr hb)]
    rfl
  have hfind : l.find? (keyIs (h.alloc a).2 f (f a)) = none := by
    rw [List.find?_eq_none]
    intro e he hkey
    rw [keyIs, decide_eq_true_eq, hi.own e he, Option.map_eq_some_iff] at hkey
    rcases hkey with ⟨b, hb, hfb⟩
    rcases Heap.read_alloc_iff.mp hb with ⟨hsize, _⟩ | hold
    · have hbound := hi.item_lt he
      omega
    · exact hn e.item b hold hfb
  unfold insert
  simp only [hnew, if_pos hreadable, hfind, Option.isSome_none, Bool.false_eq_true, if_false]

end Table

end Rathole
