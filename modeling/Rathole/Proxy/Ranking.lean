import Rathole.Proxy.Failover

/-!
# What the Ranking Chooses

`choose_best_tunnel` sorts the tunnels of a subdomain by their health and
returns the first. That is a tunnel no other is better than, and there is one
whenever the subdomain has a tunnel at all. A critical tunnel ranks last, but
it is ranked: where every tunnel of the subdomain is critical one of them is
returned.

The order in which the map is iterated settles ties and nothing else.

## Main definitions

* `Critical`: A tunnel is known to be critical.
* `AvoidsCritical`: No critical tunnel is chosen.

## Theorems

* `chooseBestTunnel_least`: No tunnel of the subdomain is better than the
  choice.
* `chooseBestTunnel_key_of_perm`: The order of the map does not matter.
* `chooseBestTunnel_best`: A tunnel is chosen, and it is a best one.
* `avoidsCritical_iff`: When no critical tunnel is chosen.
* `critical_chosen`: A critical tunnel that is.
-/

namespace Rathole

namespace Proxy

/-- The tunnel has an entry, and the entry is `Critical`. -/
def Critical (health : TunnelHealthMap) (id : String) : Prop :=
  ∃ h, health.lookup id = some h ∧ h.status = .critical

/-- No critical tunnel is chosen, and where all tunnels of the subdomain are
    critical none is. -/
def AvoidsCritical {τ : Type} (tunnels : HashMap String τ) (health : TunnelHealthMap)
    (subdomain : String) : Prop :=
  (∀ id tx, chooseBestTunnel tunnels health subdomain = some (id, tx) → ¬ Critical health id) ∧
    ((∀ id ∈ tunnels, InSubdomain subdomain id → Critical health id) →
      chooseBestTunnel tunnels health subdomain = none)

variable {τ : Type} {tunnels tunnels' : HashMap String τ} {health : TunnelHealthMap}
  {subdomain id : String} {tx : τ}

/-- The candidates are the registered tunnels that obey the naming rule. -/
theorem mem_candidates_iff :
    id ∈ candidates tunnels subdomain ↔ id ∈ tunnels ∧ InSubdomain subdomain id := by
  rw [candidates, List.mem_filter, matchesSubdomain_iff, AList.mem_keys]

/-! ### The order -/

/-- The status decides before everything else. -/
theorem healthKey_lt_of_rank {ha hb : Option TunnelHealth} (h : statusRank ha < statusRank hb) :
    healthKey ha < healthKey hb := by
  rw [healthKey, healthKey, Prod.Lex.toLex_lt_toLex]
  exact Or.inl h

/-- The last rank is that of the critical tunnels alone. -/
theorem statusRank_eq_two_iff (health : TunnelHealthMap) (id : String) :
    statusRank (health.lookup id) = 2 ↔ Critical health id := by
  unfold Critical
  cases hl : health.lookup id with
  | none => simp only [statusRank, Nat.reduceEqDiff, reduceCtorEq, false_and, exists_false]
  | some h =>
      simp only [statusRank, Option.some.injEq, exists_eq_left']
      cases hs : h.status with
      | normal => simp only [reduceCtorEq]
      | warning => simp only [Nat.reduceEqDiff, reduceCtorEq]
      | critical => simp only

theorem statusRank_le_two (h : Option TunnelHealth) : statusRank h ≤ 2 := by
  cases h with
  | none => decide
  | some h =>
      simp only [statusRank]
      cases h.status with
      | normal => decide
      | warning => decide
      | critical => decide

/-! ### The choice -/

/-- There is a choice exactly where the subdomain has a registered tunnel. -/
theorem chooseBestTunnel_isSome_iff (tunnels : HashMap String τ) (health : TunnelHealthMap)
    (subdomain : String) :
    (chooseBestTunnel tunnels health subdomain).isSome ↔
      ∃ id ∈ tunnels, InSubdomain subdomain id := by
  rw [← Option.ne_none_iff_isSome, ne_eq, chooseBestTunnel_eq_none_iff,
    List.eq_nil_iff_forall_not_mem, not_forall_not]
  simp only [mem_candidates_iff]

theorem chooseBestTunnel_mem (h : chooseBestTunnel tunnels health subdomain = some (id, tx)) :
    id ∈ tunnels ∧ InSubdomain subdomain id := by
  rcases chooseBestTunnel_matches h with ⟨hmatch, htx⟩
  exact ⟨AList.lookup_isSome.mp (by rw [htx]; rfl), (matchesSubdomain_iff _ _).mp hmatch⟩

/-- The choice has the least key of the subdomain's tunnels. -/
theorem chooseBestTunnel_least (h : chooseBestTunnel tunnels health subdomain = some (id, tx))
    {other : String} (hother : other ∈ tunnels) (hin : InSubdomain subdomain other) :
    healthKey (health.lookup id) ≤ healthKey (health.lookup other) := by
  have hmem := mem_candidates_iff.mpr ⟨hother, hin⟩
  rcases chooseBestTunnel_preferred health hmem with ⟨best, btx, hbest, _, hpref⟩
  rw [h, Option.some.injEq, Prod.mk.injEq] at hbest
  -- The sort only says something of a candidate that is another one.
  by_cases hsame : other = id
  · rw [hsame]
  · rw [hbest.1] at hsame ⊢
    exact healthKey_le_of_preferred (hpref other hmem hsame)

/-- Two maps that are iterated in different orders lead to tunnels that are
    equally good. -/
theorem chooseBestTunnel_key_of_perm (hperm : tunnels.entries.Perm tunnels'.entries)
    {id' : String} {tx' : τ} (h : chooseBestTunnel tunnels health subdomain = some (id, tx))
    (h' : chooseBestTunnel tunnels' health subdomain = some (id', tx')) :
    healthKey (health.lookup id) = healthKey (health.lookup id') := by
  have hkeys : ∀ k, k ∈ tunnels ↔ k ∈ tunnels' := by
    intro k
    rw [AList.mem_keys, AList.mem_keys]
    exact (hperm.map Sigma.fst).mem_iff
  -- Each is a candidate of the other map, so neither is better.
  have hid := chooseBestTunnel_mem h
  have hid' := chooseBestTunnel_mem h'
  exact le_antisymm
    (chooseBestTunnel_least h ((hkeys id').mpr hid'.1) hid'.2)
    (chooseBestTunnel_least h' ((hkeys id).mp hid.1) hid.2)

/-- If a tunnel of the subdomain is not critical, one is chosen. The choice
    is a tunnel of the subdomain, comes with the sender it registered, and no
    tunnel of the subdomain is strictly better. -/
theorem chooseBestTunnel_best (tunnels : HashMap String τ) (health : TunnelHealthMap)
    (subdomain : String) :
    ((∃ id ∈ tunnels, InSubdomain subdomain id ∧ ¬ Critical health id) →
      (chooseBestTunnel tunnels health subdomain).isSome) ∧
    ∀ id tx, chooseBestTunnel tunnels health subdomain = some (id, tx) →
      (id ∈ tunnels ∧ InSubdomain subdomain id) ∧ tunnels.lookup id = some tx ∧
        ∀ other ∈ tunnels, InSubdomain subdomain other →
          ¬ healthKey (health.lookup other) < healthKey (health.lookup id) := by
  constructor
  · rintro ⟨id, hid, hin, _⟩
    exact (chooseBestTunnel_isSome_iff tunnels health subdomain).mpr ⟨id, hid, hin⟩
  · intro id tx h
    refine ⟨chooseBestTunnel_mem h, (chooseBestTunnel_matches h).2, ?_⟩
    intro other hother hin
    exact not_lt_of_ge (chooseBestTunnel_least h hother hin)

/-! ### Critical tunnels -/

/-- A critical tunnel is chosen only for want of another. -/
theorem critical_of_chosen (h : chooseBestTunnel tunnels health subdomain = some (id, tx))
    (hcritical : Critical health id) {other : String} (hother : other ∈ tunnels)
    (hin : InSubdomain subdomain other) : Critical health other := by
  by_contra hnot
  rw [← statusRank_eq_two_iff] at hcritical hnot
  have hle := statusRank_le_two (health.lookup other)
  have hlt : statusRank (health.lookup other) < statusRank (health.lookup id) := by omega
  exact not_lt_of_ge (chooseBestTunnel_least h hother hin) (healthKey_lt_of_rank hlt)

/-- Critical tunnels are avoided exactly if the subdomain has no tunnel, or
    one that is not critical. -/
theorem avoidsCritical_iff (tunnels : HashMap String τ) (health : TunnelHealthMap)
    (subdomain : String) :
    AvoidsCritical tunnels health subdomain ↔
      ((∃ id ∈ tunnels, InSubdomain subdomain id) →
        ∃ id ∈ tunnels, InSubdomain subdomain id ∧ ¬ Critical health id) := by
  constructor
  · intro h hex
    -- Were they all critical, none would be chosen; but one is.
    by_contra hall
    have hnone := h.2 (fun id hid hin => by
      by_contra hnot
      exact hall ⟨id, hid, hin, hnot⟩)
    have hsome := (chooseBestTunnel_isSome_iff tunnels health subdomain).mpr hex
    rw [hnone] at hsome
    exact absurd hsome (by simp only [Option.isSome_none, Bool.false_eq_true, not_false_eq_true])
  · intro h
    constructor
    · intro id tx hchosen hcritical
      rcases h ⟨id, chooseBestTunnel_mem hchosen⟩ with ⟨other, hother, hin, hnot⟩
      exact hnot (critical_of_chosen hchosen hcritical hother hin)
    · intro hall
      rw [← Option.not_isSome_iff_eq_none, chooseBestTunnel_isSome_iff]
      intro hex
      rcases h hex with ⟨other, hother, hin, hnot⟩
      exact hnot (hall other hother hin)

/-- The one tunnel of the subdomain is critical. -/
def criticalHealth : TunnelHealthMap :=
  (∅ : TunnelHealthMap).insert "app-02" { TunnelHealth.default 0 with status := .critical }

/-- It is chosen. -/
theorem critical_chosen :
    ¬ ∀ (tunnels : HashMap String Nat) (health : TunnelHealthMap) (subdomain : String),
      AvoidsCritical tunnels health subdomain := by
  intro h
  have hchosen : chooseBestTunnel ((∅ : HashMap String Nat).insert "app-02" 0) criticalHealth
      "app" = some ("app-02", 0) := by decide
  exact (h _ criticalHealth "app").1 "app-02" 0 hchosen
    ⟨{ TunnelHealth.default 0 with status := .critical }, by decide, rfl⟩

end Proxy

end Rathole
