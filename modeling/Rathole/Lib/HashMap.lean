import Mathlib.Data.List.AList

/-!
# Hash Maps

A hash map is a list of key and value pairs with no key twice. The order of
the list is the iteration order, which a hash map leaves open, so a statement
about every map covers every iteration order.

## Main definitions

* `HashMap`: A finite map from keys to values.
* `HashMap.mapValues`: A walk over the entries.
* `HashMap.mapValuesM`: A walk over the entries that may fail.

## Theorems

* `HashMap.erase_eq_self_iff`: Erasing changes nothing exactly if the key is
  not there.
* `HashMap.lookup_insert_cases`, `HashMap.lookup_erase_cases`: Where an entry
  comes from.
* `HashMap.lookup_mapValuesM`: Where an entry after a walk comes from.
* `HashMap.mapValuesM_eq_ok_iff`: When a walk succeeds, and with what.
-/

/-- A finite map; the order of its entries is the order of iteration. -/
abbrev HashMap (κ υ : Type) := AList (fun _ : κ => υ)

namespace HashMap

variable {κ υ ε ω : Type}

theorem erase_eq_self_iff [DecidableEq κ] (m : HashMap κ υ) (k : κ) :
    m.erase k = m ↔ m.lookup k = none := by
  rw [AList.lookup_eq_none]
  constructor
  · intro h hk
    rw [← h, AList.mem_erase] at hk
    exact hk.1 rfl
  · intro h
    exact AList.ext (List.kerase_of_notMem_keys h)

/-- An entry after an insertion is the new one, or was there under another
    key. -/
theorem lookup_insert_cases [DecidableEq κ] {m : HashMap κ υ} {k k' : κ} {v v' : υ}
    (h : (m.insert k v).lookup k' = some v') :
    (k' = k ∧ v' = v) ∨ (k' ≠ k ∧ m.lookup k' = some v') := by
  by_cases hk : k' = k
  · subst hk
    rw [AList.lookup_insert, Option.some.injEq] at h
    exact Or.inl ⟨rfl, h.symm⟩
  · rw [AList.lookup_insert_ne hk] at h
    exact Or.inr ⟨hk, h⟩

/-- An entry after an erasure was there under another key. -/
theorem lookup_erase_cases [DecidableEq κ] {m : HashMap κ υ} {k k' : κ} {v : υ}
    (h : (m.erase k).lookup k' = some v) : k' ≠ k ∧ m.lookup k' = some v := by
  by_cases hk : k' = k
  · subst hk
    rw [AList.lookup_erase] at h
    simp only [reduceCtorEq] at h
  · rw [AList.lookup_erase_ne hk] at h
    exact ⟨hk, h⟩

/-- Keys stay apart by their values when a new value is inserted. -/
theorem lookup_insert_inj [DecidableEq κ] {m : HashMap κ υ} {k : κ} {v : υ}
    (hm : ∀ k₁ k₂ w, m.lookup k₁ = some w → m.lookup k₂ = some w → k₁ = k₂)
    (hnew : ∀ k', m.lookup k' ≠ some v) {k₁ k₂ : κ} {w : υ}
    (h₁ : (m.insert k v).lookup k₁ = some w) (h₂ : (m.insert k v).lookup k₂ = some w) :
    k₁ = k₂ := by
  rcases lookup_insert_cases h₁ with ⟨hk₁, hw⟩ | ⟨_, hold₁⟩
  · rcases lookup_insert_cases h₂ with ⟨hk₂, _⟩ | ⟨_, hold₂⟩
    · rw [hk₁, hk₂]
    · rw [hw] at hold₂
      exact absurd hold₂ (hnew k₂)
  · rcases lookup_insert_cases h₂ with ⟨_, hw⟩ | ⟨_, hold₂⟩
    · rw [hw] at hold₁
      exact absurd hold₁ (hnew k₁)
    · exact hm k₁ k₂ w hold₁ hold₂

/-- What a map with one entry has. -/
theorem eq_of_lookup_insert_empty [DecidableEq κ] {k k' : κ} {v v' : υ}
    (h : ((∅ : HashMap κ υ).insert k v).lookup k' = some v') : k' = k ∧ v' = v := by
  rcases lookup_insert_cases h with heq | ⟨_, hnone⟩
  · exact heq
  · rw [AList.lookup_empty] at hnone
    simp only [reduceCtorEq] at hnone

/-- Walk over the entries in order and replace each value; the first failure
    ends the walk. The keys stay as they are. -/
def mapEntriesM (f : κ → υ → Except ε ω) : (l : List ((_ : κ) × υ)) →
    Except ε { l' : List ((_ : κ) × ω) // l'.keys = l.keys }
  | [] => .ok ⟨[], rfl⟩
  | ⟨k, v⟩ :: l =>
      match f k v with
      | .error e => .error e
      | .ok w => match mapEntriesM f l with
        | .error e => .error e
        | .ok ⟨l', h⟩ => .ok ⟨⟨k, w⟩ :: l', by rw [List.keys_cons, List.keys_cons, h]⟩

/-- The walk on a map. -/
def mapValuesM (m : HashMap κ υ) (f : κ → υ → Except ε ω) : Except ε (HashMap κ ω) :=
  match mapEntriesM f m.entries with
  | .error e => .error e
  | .ok ⟨l, h⟩ => .ok ⟨l, by
      have hnodup : m.entries.keys.Nodup := m.nodupKeys
      rw [← h] at hnodup
      exact hnodup⟩

theorem dlookup_mapEntriesM [DecidableEq κ] {f : κ → υ → Except ε ω} :
    ∀ {l : List ((_ : κ) × υ)} {r : { l' : List ((_ : κ) × ω) // l'.keys = l.keys }},
      mapEntriesM f l = .ok r → ∀ k,
      r.val.dlookup k = (l.dlookup k).bind (fun v => (f k v).toOption) := by
  intro l
  induction l with
  | nil =>
      intro r h k
      simp only [mapEntriesM, Except.ok.injEq] at h
      rw [← h]
      rfl
  | cons p l ih =>
      intro r h k
      rcases p with ⟨k', v⟩
      cases hf : f k' v with
      | error e => simp only [mapEntriesM, hf, reduceCtorEq] at h
      | ok w =>
          cases hl : mapEntriesM f l with
          | error e => simp only [mapEntriesM, hf, hl, reduceCtorEq] at h
          | ok r' =>
              rcases r' with ⟨l', hkeys⟩
              simp only [mapEntriesM, hf, hl, Except.ok.injEq] at h
              rw [← h]
              by_cases hk : k = k'
              · subst hk
                rw [List.dlookup_cons_eq, List.dlookup_cons_eq, Option.bind_some, hf]
                rfl
              · have hrest := ih hl k
                have hne : k' ≠ k := Ne.symm hk
                rw [List.dlookup_cons_ne _ _ hk, List.dlookup_cons_ne _ _ hk]
                exact hrest

/-- An entry after the walk is what the walk made of the entry under that
    key. -/
theorem lookup_mapValuesM [DecidableEq κ] {f : κ → υ → Except ε ω} {m : HashMap κ υ}
    {m' : HashMap κ ω} (h : mapValuesM m f = .ok m') (k : κ) :
    m'.lookup k = (m.lookup k).bind (fun v => (f k v).toOption) := by
  unfold mapValuesM at h
  cases hr : mapEntriesM f m.entries with
  | error e => simp only [hr, reduceCtorEq] at h
  | ok r =>
      simp only [hr, Except.ok.injEq] at h
      rw [← h]
      exact dlookup_mapEntriesM hr k

/-- Replace each value. -/
def mapValues (m : HashMap κ υ) (g : κ → υ → ω) : HashMap κ ω where
  entries := m.entries.map (fun e => ⟨e.1, g e.1 e.2⟩)
  nodupKeys := by
    have hkeys : (m.entries.map (fun e => (⟨e.1, g e.1 e.2⟩ : (_ : κ) × ω))).keys =
        m.entries.keys := by
      rw [List.keys, List.keys, List.map_map]
      rfl
    have hnodup : m.entries.keys.Nodup := m.nodupKeys
    rwa [← hkeys] at hnodup

theorem mapValues_mapValues (m : HashMap κ υ) (g : κ → υ → ω) {π : Type} (g' : κ → ω → π) :
    (m.mapValues g).mapValues g' = m.mapValues (fun k v => g' k (g k v)) :=
  AList.ext (List.map_map ..)

section Walk

variable {f : κ → υ → Except ε ω} {p : κ → υ → Prop} {g : κ → υ → ω}

/-- A walk that succeeds has replaced every value. -/
theorem of_mapEntriesM (hf : ∀ k v w, f k v = .ok w → p k v ∧ w = g k v) :
    ∀ {l : List ((_ : κ) × υ)} {r : { l' : List ((_ : κ) × ω) // l'.keys = l.keys }},
      mapEntriesM f l = .ok r →
        (∀ e ∈ l, p e.1 e.2) ∧ r.val = l.map (fun e => ⟨e.1, g e.1 e.2⟩) := by
  intro l
  induction l with
  | nil =>
      intro r h
      simp only [mapEntriesM, Except.ok.injEq] at h
      rw [← h]
      exact ⟨fun e he => absurd he List.not_mem_nil, rfl⟩
  | cons e l ih =>
      intro r h
      rcases e with ⟨k, v⟩
      cases hv : f k v with
      | error err => simp only [mapEntriesM, hv, reduceCtorEq] at h
      | ok w =>
          cases hl : mapEntriesM f l with
          | error err => simp only [mapEntriesM, hv, hl, reduceCtorEq] at h
          | ok r' =>
              rcases r' with ⟨l', hkeys⟩
              simp only [mapEntriesM, hv, hl, Except.ok.injEq] at h
              have hhead := hf k v w hv
              have hrest := ih hl
              rw [List.forall_mem_cons, List.map_cons, ← h, ← hrest.2, ← hhead.2]
              exact ⟨⟨hhead.1, hrest.1⟩, rfl⟩

/-- A walk on which the function never fails succeeds. -/
theorem mapEntriesM_of_forall (hf : ∀ k v, p k v → f k v = .ok (g k v)) :
    ∀ {l : List ((_ : κ) × υ)}, (∀ e ∈ l, p e.1 e.2) → ∃ r, mapEntriesM f l = .ok r := by
  intro l
  induction l with
  | nil => intro _; exact ⟨⟨[], rfl⟩, rfl⟩
  | cons e l ih =>
      intro h
      rcases e with ⟨k, v⟩
      rw [List.forall_mem_cons] at h
      rcases ih h.2 with ⟨⟨l', hkeys⟩, hl⟩
      exact ⟨⟨⟨k, g k v⟩ :: l', by rw [List.keys_cons, List.keys_cons, hkeys]⟩,
        by simp only [mapEntriesM, hf k v h.1, hl]⟩

theorem mapValuesM_eq_ok_iff (hf : ∀ k v w, f k v = .ok w ↔ p k v ∧ w = g k v)
    {m : HashMap κ υ} {m' : HashMap κ ω} :
    mapValuesM m f = .ok m' ↔ (∀ e ∈ m.entries, p e.1 e.2) ∧ m' = m.mapValues g := by
  unfold mapValuesM
  constructor
  · intro h
    cases hr : mapEntriesM f m.entries with
    | error e => simp only [hr, reduceCtorEq] at h
    | ok r =>
        have hwalk := of_mapEntriesM (fun k v w => (hf k v w).mp) hr
        simp only [hr, Except.ok.injEq] at h
        rw [← h]
        exact ⟨hwalk.1, AList.ext hwalk.2⟩
  · rintro ⟨hall, rfl⟩
    rcases mapEntriesM_of_forall (fun k v hp => (hf k v (g k v)).mpr ⟨hp, rfl⟩) hall with ⟨r, hr⟩
    have hwalk := of_mapEntriesM (fun k v w => (hf k v w).mp) hr
    simp only [hr, Except.ok.injEq]
    exact AList.ext hwalk.2

end Walk

end HashMap
