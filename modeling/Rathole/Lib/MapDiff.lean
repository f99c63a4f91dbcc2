import Mathlib.Data.List.Nodup
import Mathlib.Data.List.Perm.Subperm
import Mathlib.Data.Set.Function
import Rathole.Lib.HashMap

/-!
# Differences of Maps

What it takes to turn one map into another: a key is deleted that the new map
does not have, and an entry is added that the old one does not have or has
with another value. A key is named once at most, so the changes can be made in
any order, and each decides what its key has in the end.

The map that is changed need not be the old one. It may have the same entries
under other keys, as long as no two keys become one: `Mirrors` relates the
two, and the changes carry a mirror of the old map to a mirror of the new.

## Main definitions

* `HashMap.beq`: Equality, whatever the order of the entries.
* `HashMap.Change`: A key with its new value, or without a value.
* `HashMap.patch`: Making changes.
* `HashMap.diff`: The changes from one map to another.
* `HashMap.Mirrors`: The same entries under other keys.

## Theorems

* `beq_iff`: Maps are equal if every key has the same value in both.
* `lookup_patch_of_mem`, `lookup_patch_of_notMem`: What changes do to a key.
* `mem_diff_iff`: The changes are those of the keys whose value differs.
* `diff_eq_nil_iff`: There are none between equal maps.
* `mirrors_patch`: The difference carries mirrors to mirrors.
-/

namespace HashMap

variable {κ δ υ : Type}


section Maps

variable [DecidableEq κ] [DecidableEq υ]

/-- Equality of maps: the same number of entries, and each one of the first in
    the second. -/
def beq (l r : HashMap κ υ) : Bool :=
  l.entries.length == r.entries.length &&
    l.entries.all (fun u => r.lookup u.1 = some u.2)

theorem beq_iff {l r : HashMap κ υ} : l.beq r = true ↔ ∀ k, l.lookup k = r.lookup k := by
  simp only [beq, Bool.and_eq_true, beq_iff_eq, List.all_eq_true, decide_eq_true_eq]
  constructor
  · intro h k
    rcases h with ⟨hlen, hall⟩
    have hkept : ∀ k v, l.lookup k = some v → r.lookup k = some v := by
      intro k v hv
      exact hall ⟨k, v⟩ (AList.mem_lookup_iff.mp hv)
    cases hk : l.lookup k with
    | some v => exact (hkept k v hk).symm
    | none =>
        symm
        by_contra hne
        -- A key of the second map alone would make it longer.
        have hr : k ∈ r.entries.keys :=
          AList.lookup_isSome.mp (Option.isSome_iff_ne_none.mpr hne)
        have hl : k ∉ l.entries.keys := AList.lookup_eq_none.mp hk
        have hnodup : (k :: l.entries.keys).Nodup := List.nodup_cons.mpr ⟨hl, l.keys_nodup⟩
        have hsub : k :: l.entries.keys ⊆ r.entries.keys := by
          intro x hx
          rcases List.mem_cons.mp hx with hx | hx
          · rw [hx]
            exact hr
          · rcases Option.isSome_iff_exists.mp (AList.lookup_isSome.mpr hx) with ⟨v, hv⟩
            exact AList.lookup_isSome.mp (Option.isSome_iff_exists.mpr ⟨v, hkept x v hv⟩)
        have hle := (List.subperm_of_subset hnodup hsub).length_le
        simp only [List.keys, List.length_cons, List.length_map] at hle
        omega
  · intro h
    -- Maps with the same lookups have the same entries in some order.
    have hperm : l.entries.Perm r.entries :=
      List.lookup_ext l.nodupKeys r.nodupKeys (fun k v => by
        rw [show l.entries.dlookup k = r.entries.dlookup k from h k])
    refine ⟨hperm.length_eq, fun u hu => ?_⟩
    rw [← h u.1]
    exact AList.mem_lookup_iff.mpr hu

end Maps

/-! ### Changes -/

/-- A key, with the value it is given or without one. -/
abbrev Change (κ υ : Type) := κ × Option υ

/-- Make one change. -/
def Change.apply [DecidableEq κ] (m : HashMap κ υ) (c : Change κ υ) : HashMap κ υ :=
  match c.2 with
  | none => m.erase c.1
  | some v => m.insert c.1 v

section Changes

variable [DecidableEq κ]

/-- Make changes one after another. -/
def patch (m : HashMap κ υ) (cs : List (Change κ υ)) : HashMap κ υ := cs.foldl Change.apply m

theorem lookup_apply_self (m : HashMap κ υ) (c : Change κ υ) :
    (Change.apply m c).lookup c.1 = c.2 := by
  unfold Change.apply
  cases hc : c.2 with
  | none => exact AList.lookup_erase _ _
  | some v => exact AList.lookup_insert _

theorem lookup_apply_ne (m : HashMap κ υ) {c : Change κ υ} {k : κ} (h : k ≠ c.1) :
    (Change.apply m c).lookup k = m.lookup k := by
  unfold Change.apply
  cases hc : c.2 with
  | none => exact AList.lookup_erase_ne h
  | some v => exact AList.lookup_insert_ne h

/-- A key that no change names keeps its value. -/
theorem lookup_patch_of_notMem : ∀ {cs : List (Change κ υ)} (m : HashMap κ υ) {k : κ},
    k ∉ cs.map Prod.fst → (m.patch cs).lookup k = m.lookup k := by
  intro cs
  induction cs with
  | nil => intro m k _; rfl
  | cons c cs ih =>
      intro m k hk
      rw [List.map_cons, List.mem_cons, not_or] at hk
      have hrest := ih (Change.apply m c) hk.2
      rw [lookup_apply_ne m hk.1] at hrest
      exact hrest

/-- A change decides the value of its key, if no other names it. -/
theorem lookup_patch_of_mem : ∀ {cs : List (Change κ υ)} (m : HashMap κ υ) {k : κ} {o : Option υ},
    (cs.map Prod.fst).Nodup → (k, o) ∈ cs → (m.patch cs).lookup k = o := by
  intro cs
  induction cs with
  | nil => intro m k o _ h; exact absurd h List.not_mem_nil
  | cons c cs ih =>
      intro m k o hnodup h
      rw [List.map_cons, List.nodup_cons] at hnodup
      rcases List.mem_cons.mp h with hc | hc
      · -- The first change has the key, so no later one does.
        have hfirst : k ∉ cs.map Prod.fst := by
          rw [show k = c.1 by rw [← hc]]
          exact hnodup.1
        have hrest := lookup_patch_of_notMem (Change.apply m c) hfirst
        rw [← hc, lookup_apply_self m (k, o)] at hrest
        rw [← hc]
        exact hrest
      · exact ih (Change.apply m c) hnodup.2 hc

end Changes

/-! ### Differences -/

section Differences

variable [DecidableEq κ] [DecidableEq υ]

/-- The changes from the old map to the new: deletions, then additions. -/
def diff (old new : HashMap κ υ) : List (Change κ υ) :=
  (old.keys.filter (fun k => (new.lookup k).isNone)).map (fun k => (k, none)) ++
    (new.entries.filter (fun u => old.lookup u.1 ≠ some u.2)).map (fun u => (u.1, some u.2))

/-- What is changed is what differs, and it gets its new value. -/
theorem mem_diff_iff {old new : HashMap κ υ} {k : κ} {o : Option υ} :
    (k, o) ∈ diff old new ↔ new.lookup k = o ∧ old.lookup k ≠ o := by
  simp only [diff, List.mem_append, List.mem_map, List.mem_filter, Prod.mk.injEq,
    decide_eq_true_eq, Option.isNone_iff_eq_none]
  constructor
  · intro h
    rcases h with ⟨k', ⟨hin, hnone⟩, hk, ho⟩ | ⟨u, ⟨hin, hne⟩, hk, ho⟩
    · rw [← hk, ← ho]
      -- A deletion: the key was there and is not.
      refine ⟨hnone, ?_⟩
      rw [← Option.isSome_iff_ne_none]
      exact AList.lookup_isSome.mpr hin
    · rw [← hk, ← ho]
      exact ⟨AList.mem_lookup_iff.mpr hin, hne⟩
  · intro h
    rcases h with ⟨hnew, hold⟩
    cases o with
    | none =>
        refine Or.inl ⟨k, ⟨?_, hnew⟩, rfl, rfl⟩
        rw [← Option.isSome_iff_ne_none] at hold
        exact AList.lookup_isSome.mp hold
    -- An addition or a new value, which the list does not tell apart.
    | some v => exact Or.inr ⟨⟨k, v⟩, ⟨AList.mem_lookup_iff.mp hnew, hold⟩, rfl, rfl⟩

theorem mem_keys_diff_iff {old new : HashMap κ υ} {k : κ} :
    k ∈ (diff old new).map Prod.fst ↔ old.lookup k ≠ new.lookup k := by
  rw [List.mem_map]
  constructor
  · intro h
    rcases h with ⟨⟨k', o⟩, hin, hk⟩
    rw [mem_diff_iff] at hin
    rw [← hk, hin.1]
    exact hin.2
  · intro h
    exact ⟨(k, new.lookup k), mem_diff_iff.mpr ⟨rfl, h⟩, rfl⟩

/-- No key is changed twice. -/
theorem nodup_diff (old new : HashMap κ υ) : ((diff old new).map Prod.fst).Nodup := by
  have hadd : (new.entries.filter (fun u => old.lookup u.1 ≠ some u.2)).map Sigma.fst |>.Nodup :=
    new.keys_nodup.sublist (List.filter_sublist.map _)
  unfold diff
  rw [List.map_append, List.map_map, List.map_map, List.nodup_append]
  refine ⟨?_, hadd, ?_⟩
  · rw [show (Prod.fst ∘ fun k : κ => (k, (none : Option υ))) = id from rfl, List.map_id]
    exact old.keys_nodup.filter _
  · intro a ha b hb hab
    rw [List.mem_map] at ha hb
    rcases ha with ⟨k, hk, hka⟩
    rcases hb with ⟨u, hu, hub⟩
    rw [List.mem_filter, Option.isNone_iff_eq_none] at hk
    rw [List.mem_filter] at hu
    have hsome : new.lookup u.1 = some u.2 := AList.mem_lookup_iff.mpr hu.1
    -- A key cannot be missing from the new map and in it.
    have hkey : k = u.1 := hka.trans (hab.trans hub.symm)
    rw [← hkey, hk.2] at hsome
    simp only [reduceCtorEq] at hsome

/-- Nothing changes between equal maps. -/
theorem diff_eq_nil_iff {old new : HashMap κ υ} :
    diff old new = [] ↔ ∀ k, old.lookup k = new.lookup k := by
  rw [List.eq_nil_iff_forall_not_mem]
  constructor
  · intro h k
    by_contra hne
    exact h (k, new.lookup k) (mem_diff_iff.mpr ⟨rfl, hne⟩)
  · intro h c hc
    rcases c with ⟨k, o⟩
    rw [mem_diff_iff] at hc
    exact hc.2 ((h k).trans hc.1)

end Differences

/-! ### Mirrors -/

/-- A map has the entries of another, under the images of their keys. -/
def Mirrors [DecidableEq κ] [DecidableEq δ] (f : κ → δ) (m : HashMap δ υ) (m' : HashMap κ υ) :
    Prop :=
  ∀ d v, m.lookup d = some v ↔ ∃ k, f k = d ∧ m'.lookup k = some v

/-- Changes under the images of their keys. -/
def relabel (f : κ → δ) (cs : List (Change κ υ)) : List (Change δ υ) :=
  cs.map (fun c => (f c.1, c.2))

theorem keys_relabel (f : κ → δ) (cs : List (Change κ υ)) :
    (relabel f cs).map Prod.fst = (cs.map Prod.fst).map f := by
  rw [relabel, List.map_map, List.map_map]
  rfl

/-- The images of the keys whose value differs. -/
theorem mem_keys_relabel_diff_iff [DecidableEq κ] [DecidableEq υ] {f : κ → δ}
    {old new : HashMap κ υ} {d : δ} :
    d ∈ (relabel f (diff old new)).map Prod.fst ↔ ∃ k, f k = d ∧ old.lookup k ≠ new.lookup k := by
  rw [keys_relabel, List.mem_map]
  constructor
  · intro h
    rcases h with ⟨k, hin, hk⟩
    exact ⟨k, hk, mem_keys_diff_iff.mp hin⟩
  · intro h
    rcases h with ⟨k, hk, hne⟩
    exact ⟨k, mem_keys_diff_iff.mpr hne, hk⟩

/-- The difference carries a mirror of the old map to one of the new. -/
theorem mirrors_patch [DecidableEq κ] [DecidableEq δ] [DecidableEq υ] {f : κ → δ} {S : Set κ}
    (hf : Set.InjOn f S) {old new : HashMap κ υ}
    (hold : ∀ k ∈ old.keys, k ∈ S) (hnew : ∀ k ∈ new.keys, k ∈ S) {m : HashMap δ υ}
    (hm : Mirrors f m old) : Mirrors f (m.patch (relabel f (diff old new))) new := by
  -- Every key of a change is in one of the two maps.
  have hS : ∀ k, old.lookup k ≠ new.lookup k → k ∈ S := by
    intro k hne
    cases hk : new.lookup k with
    | some v => exact hnew k (AList.lookup_isSome.mp (Option.isSome_iff_exists.mpr ⟨v, hk⟩))
    | none =>
        rw [hk, ← Option.isSome_iff_ne_none] at hne
        exact hold k (AList.lookup_isSome.mp hne)
  have hin : ∀ {k : κ} {v : υ} {n : HashMap κ υ}, (∀ k ∈ n.keys, k ∈ S) →
      n.lookup k = some v → k ∈ S := fun hn hv =>
    hn _ (AList.lookup_isSome.mp (Option.isSome_iff_exists.mpr ⟨_, hv⟩))
  -- Injectivity keeps the images of different keys apart.
  have hnodup : ((relabel f (diff old new)).map Prod.fst).Nodup := by
    rw [keys_relabel]
    refine List.Nodup.map_on (fun a ha b hb hab => ?_) (nodup_diff old new)
    exact hf (hS a (mem_keys_diff_iff.mp ha)) (hS b (mem_keys_diff_iff.mp hb)) hab
  intro d v
  by_cases hd : ∃ k, f k = d ∧ old.lookup k ≠ new.lookup k
  · -- The key of a change has its new value.
    rcases hd with ⟨k, hk, hne⟩
    have hc : (d, new.lookup k) ∈ relabel f (diff old new) :=
      List.mem_map.mpr ⟨(k, new.lookup k), mem_diff_iff.mpr ⟨rfl, hne⟩, by rw [← hk]⟩
    rw [lookup_patch_of_mem m hnodup hc]
    constructor
    · intro hv
      exact ⟨k, hk, hv⟩
    · intro hv
      rcases hv with ⟨k', hk', hv⟩
      rw [hf (hS k hne) (hin hnew hv) (hk.trans hk'.symm)]
      exact hv
  · -- Every other key has what it had.
    have hsame : ∀ k, f k = d → old.lookup k = new.lookup k := by
      intro k hk
      by_contra hne
      exact hd ⟨k, hk, hne⟩
    have hnot : d ∉ (relabel f (diff old new)).map Prod.fst :=
      fun h => hd (mem_keys_relabel_diff_iff.mp h)
    rw [lookup_patch_of_notMem m hnot, hm d v]
    constructor
    · intro h
      rcases h with ⟨k, hk, hv⟩
      exact ⟨k, hk, by rw [← hsame k hk]; exact hv⟩
    · intro h
      rcases h with ⟨k, hk, hv⟩
      exact ⟨k, hk, by rw [hsame k hk]; exact hv⟩

end HashMap
