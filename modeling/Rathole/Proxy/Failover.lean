import Mathlib.Data.Prod.Lex
import Rathole.Lib.StableSort
import Rathole.Proxy.Routing

/-!
# Failing Over to Another Tunnel

A request that does not go to the tunnel of its cookie goes to the best
tunnel of its subdomain, if that one is healthy, and else to the cloud. What
is best and what is healthy are two different tests: the ranking looks at
status, error rate and latency, the health test also at the age of the entry.
So a tunnel nobody has heard of for a while, but that was fine when it was
last heard of, can be ranked ahead of all that are alive. Then the request
goes to the cloud although there are tunnels that would take it.

## Main definitions

* `healthKey`: What `compareHealth` compares.
* `Stale`: An entry that is only too old.
* `Preferred`: The order in which the candidates are tried.
* `FailsOver`: A healthy tunnel of the subdomain is found if there is one.

## Theorems

* `chooseBestTunnel_preferred`: The choice is preferred to all others.
* `failsOver_iff`: When a request fails over as it should.
* `stale_tunnel_shadows`: A request that goes to the cloud.
-/

namespace Rathole

namespace Proxy

open StableSort

/-- What the entries of tunnels are compared by. -/
def healthKey (h : Option TunnelHealth) : ℕ ×ₗ ℚ ×ₗ ℚ :=
  toLex (statusRank h, toLex (errorRateOr h, latencyOr h))

theorem compare_ne_gt_iff {α : Type} [LinearOrder α] (a b : α) : compare a b ≠ .gt ↔ a ≤ b := by
  rw [ne_eq, compare_gt_iff_gt, not_lt]

/-- Comparing further decides where the first comparison does not. -/
theorem then_ne_gt_iff {α : Type} [LinearOrder α] (a b : α) (o : Ordering) :
    (compare a b).then o ≠ .gt ↔ a < b ∨ (a = b ∧ o ≠ .gt) := by
  rcases lt_trichotomy a b with h | h | h
  · rw [compare_lt_iff_lt.mpr h]
    simp only [Ordering.then, ne_eq, reduceCtorEq, not_false_eq_true, h, true_or]
  · rw [compare_eq_iff_eq.mpr h]
    simp only [Ordering.then, h, lt_irrefl, true_and, false_or]
  · rw [compare_gt_iff_gt.mpr h]
    simp only [Ordering.then, ne_eq, not_true_eq_false, not_lt_of_gt h, h.ne', false_and, or_self]

/-- The comparison is that of the keys. -/
theorem compareHealth_ne_gt_iff (ha hb : Option TunnelHealth) :
    compareHealth ha hb ≠ .gt ↔ healthKey ha ≤ healthKey hb := by
  unfold compareHealth healthKey
  -- Both are lexicographic, nested to the right.
  rw [Ordering.then_assoc, then_ne_gt_iff, then_ne_gt_iff, compare_ne_gt_iff,
    Prod.Lex.toLex_le_toLex, Prod.Lex.toLex_le_toLex]

/-- The order `choose_best_tunnel` sorts by. -/
def Better (health : TunnelHealthMap) (a b : String) : Prop :=
  compareHealth (health.lookup a) (health.lookup b) ≠ .gt

instance (health : TunnelHealthMap) : DecidableRel (Better health) :=
  fun a b => inferInstanceAs (Decidable (compareHealth (health.lookup a) (health.lookup b) ≠ .gt))

theorem better_total (health : TunnelHealthMap) (a b : String) :
    Better health a b ∨ Better health b a := by
  unfold Better
  rw [compareHealth_ne_gt_iff, compareHealth_ne_gt_iff]
  exact le_total _ _

theorem better_trans (health : TunnelHealthMap) (a b c : String) (hab : Better health a b)
    (hbc : Better health b c) : Better health a c := by
  unfold Better at hab hbc ⊢
  rw [compareHealth_ne_gt_iff] at hab hbc ⊢
  exact hab.trans hbc

/-- The entry of the tunnel is too old and would be healthy otherwise. -/
def Stale (health : TunnelHealthMap) (now : Nat) (id : String) : Prop :=
  ∃ h, health.lookup id = some h ∧ h.status ≠ .critical ∧ staleThreshold ≤ now - h.lastUpdate

variable {τ : Type}

/-- Tunnel `a` of the subdomain is ranked ahead of tunnel `b`: it is better,
    or as good and earlier in the map. -/
def Preferred (tunnels : HashMap String τ) (health : TunnelHealthMap) (subdomain a b : String) :
    Prop :=
  Ahead (Better health) (candidates tunnels subdomain) a b

/-- If there is a healthy tunnel of the request's subdomain, the request goes
    to one. -/
def FailsOver (tunnels : HashMap String τ) (health : TunnelHealthMap) (now : Nat)
    (headers : HeaderMap) : Prop :=
  (∃ id ∈ candidates tunnels (subdomainOf headers), healthy health now id = true) →
    ∃ id tx, route tunnels health now headers = .tunnel id tx ∧ Belongs headers id ∧
      healthy health now id = true

variable {tunnels : HashMap String τ} {health : TunnelHealthMap} {now : Nat}
  {headers : HeaderMap} {subdomain id : String}

/-- What is preferred has no greater key. -/
theorem healthKey_le_of_preferred {a b : String} (h : Preferred tunnels health subdomain a b) :
    healthKey (health.lookup a) ≤ healthKey (health.lookup b) := by
  rw [← compareHealth_ne_gt_iff]
  rcases h with hnot | ⟨hr, _⟩
  · exact (better_total health a b).resolve_right hnot
  · exact hr

theorem candidates_nodup (tunnels : HashMap String τ) (subdomain : String) :
    (candidates tunnels subdomain).Nodup :=
  tunnels.keys_nodup.filter _

/-- Every candidate is registered, so the first of the sorted ones is taken. -/
theorem chooseBestTunnel_of_head
    (h : ((candidates tunnels subdomain).insertionSort (Better health)).head? = some id) :
    ∃ tx, chooseBestTunnel tunnels health subdomain = some (id, tx) := by
  have hmem := mem_of_head h
  rw [candidates, List.mem_filter] at hmem
  -- A candidate is a key of the map, so it has a sender.
  rcases Option.isSome_iff_exists.mp (AList.lookup_isSome.mpr hmem.1) with ⟨tx, htx⟩
  refine ⟨tx, ?_⟩
  have hsorted : chooseBestTunnel tunnels health subdomain =
      ((candidates tunnels subdomain).insertionSort (Better health)).findSome?
        (fun id => (tunnels.lookup id).map (fun tx => (id, tx))) := rfl
  rw [hsorted]
  rcases hl : (candidates tunnels subdomain).insertionSort (Better health) with _ | ⟨a, rest⟩
  · rw [hl, List.head?_nil] at h
    simp only [reduceCtorEq] at h
  · rw [hl, List.head?_cons, Option.some.injEq] at h
    rw [List.findSome?_cons, h, htx]
    rfl

/-- The choice is preferred to every other tunnel of the subdomain. -/
theorem chooseBestTunnel_preferred (health : TunnelHealthMap)
    (hid : id ∈ candidates tunnels subdomain) :
    ∃ best tx, chooseBestTunnel tunnels health subdomain = some (best, tx) ∧
      best ∈ candidates tunnels subdomain ∧
      ∀ other ∈ candidates tunnels subdomain, other ≠ best →
        Preferred tunnels health subdomain best other := by
  rcases hhead : ((candidates tunnels subdomain).insertionSort (Better health)).head? with _ | best
  · rw [List.head?_eq_none_iff] at hhead
    have hin := (List.mem_insertionSort (Better health)).mpr hid
    rw [hhead] at hin
    exact absurd hin List.not_mem_nil
  · rcases chooseBestTunnel_of_head hhead with ⟨tx, htx⟩
    refine ⟨best, tx, htx, mem_of_head hhead, ?_⟩
    intro other hother hne
    exact ahead_of_head (better_total health) (better_trans health) hhead hother hne

/-- There is no choice only where there is nothing to choose from. -/
theorem chooseBestTunnel_eq_none_iff :
    chooseBestTunnel tunnels health subdomain = none ↔ candidates tunnels subdomain = [] := by
  constructor
  · intro h
    rw [List.eq_nil_iff_forall_not_mem]
    intro id hid
    rcases chooseBestTunnel_preferred health hid with ⟨best, tx, hbest, _⟩
    rw [h] at hbest
    simp only [reduceCtorEq] at hbest
  · intro h
    rcases hbest : chooseBestTunnel tunnels health subdomain with _ | ⟨id, tx⟩
    · rfl
    · rcases chooseBestTunnel_matches hbest with ⟨hmatch, htx⟩
      have hid : id ∈ candidates tunnels subdomain := by
        rw [candidates, List.mem_filter]
        exact ⟨AList.lookup_isSome.mp (by rw [htx]; rfl), hmatch⟩
      rw [h] at hid
      exact absurd hid List.not_mem_nil

/-- A healthy tunnel is not preferred to by a critical one. -/
theorem stale_of_preferred {best : String} (hid : healthy health now id = true)
    (hbest : healthy health now best = false)
    (hpref : Preferred tunnels health subdomain best id) : Stale health now best := by
  have hle : statusRank (health.lookup best) ≤ statusRank (health.lookup id) := by
    have hle := healthKey_le_of_preferred hpref
    rw [healthKey, healthKey, Prod.Lex.toLex_le_toLex] at hle
    rcases hle with hlt | ⟨heq, _⟩
    · exact hlt.le
    · exact heq.le
  unfold healthy at hid hbest
  cases hb : health.lookup best with
  | none => simp only [hb, Bool.true_eq_false] at hbest
  | some b =>
      simp only [hb, Bool.and_eq_false_iff, decide_eq_false_iff_not, not_not, not_lt] at hbest
      -- Critical is the last rank, and `id` is not critical.
      have hcritical : b.status ≠ .critical := by
        intro hc
        cases hi : health.lookup id with
        | none => simp only [hb, hi, statusRank, hc] at hle; omega
        | some i =>
            simp only [hi, Bool.and_eq_true, decide_eq_true_eq] at hid
            simp only [hb, hi, statusRank, hc] at hle
            cases hs : i.status with
            | normal => simp only [hs] at hle; omega
            | warning => simp only [hs] at hle; omega
            | critical => exact hid.1 hs
      -- What is left of the health test is the age.
      rcases hbest with hc | hage
      · exact absurd hc hcritical
      · exact ⟨b, hb, hcritical, hage⟩

theorem not_healthy_of_stale (h : Stale health now id) : healthy health now id = false := by
  rcases h with ⟨e, he, _, hage⟩
  have hnot : ¬ now - e.lastUpdate < staleThreshold := not_lt.mpr hage
  simp only [healthy, he, hnot, decide_false, Bool.and_false]

/-- A request that is not decided by its cookie fails over as it should
    exactly if no stale tunnel of its subdomain is ranked ahead of every
    healthy one. -/
theorem failsOver_iff (tunnels : HashMap String τ) (health : TunnelHealthMap) (now : Nat)
    (headers : HeaderMap) (hp : preferredTunnel tunnels health now headers = none) :
    FailsOver tunnels health now headers ↔
      ∀ stale ∈ candidates tunnels (subdomainOf headers), Stale health now stale →
        ∀ id ∈ candidates tunnels (subdomainOf headers), healthy health now id = true →
          ∃ ok ∈ candidates tunnels (subdomainOf headers), healthy health now ok = true ∧
            Preferred tunnels health (subdomainOf headers) ok stale := by
  constructor
  · intro h stale hstale hold id hid hhealthy
    rcases h ⟨id, hid, hhealthy⟩ with ⟨ok, tx, hroute, _, hok⟩
    rcases chooseBestTunnel_preferred health hid with ⟨best, btx, hbest, hmem, hahead⟩
    -- The tunnel the request goes to is the best one.
    have hsame : best = ok := by
      simp only [route, hp, hbest] at hroute
      by_cases hb : healthy health now best
      · rw [if_pos hb, Backend.tunnel.injEq] at hroute
        exact hroute.1
      · rw [if_neg hb] at hroute
        simp only [reduceCtorEq] at hroute
    rw [hsame] at hmem hahead
    have hne : stale ≠ ok := by
      intro heq
      rw [← heq, not_healthy_of_stale hold] at hok
      simp only [Bool.false_eq_true] at hok
    exact ⟨ok, hmem, hok, hahead stale hstale hne⟩
  · intro h hex
    rcases hex with ⟨id, hid, hhealthy⟩
    rcases chooseBestTunnel_preferred health hid with ⟨best, tx, hbest, hmem, hahead⟩
    -- The best one is healthy, or it is stale and something healthy is before it.
    have hok : healthy health now best = true := by
      by_contra hnot
      rw [Bool.not_eq_true] at hnot
      have hne : id ≠ best := by
        intro heq
        rw [heq, hnot] at hhealthy
        simp only [Bool.false_eq_true] at hhealthy
      have hold := stale_of_preferred hhealthy hnot (hahead id hid hne)
      rcases h best hmem hold id hid hhealthy with ⟨ok, hokmem, hokhealthy, hpref⟩
      have hne' : ok ≠ best := by
        intro heq
        rw [heq, hnot] at hokhealthy
        simp only [Bool.false_eq_true] at hokhealthy
      -- Two candidates cannot each be ahead of the other.
      exact not_ahead_of_ahead (better_total health) (candidates_nodup _ _)
        (hahead ok hokmem hne') hpref
    refine ⟨best, tx, ?_, ?_, hok⟩
    · simp only [route, hp, hbest, if_pos hok]
    · rw [belongs_iff]
      exact (chooseBestTunnel_matches hbest).1

/-- `Host: app.example.com` without a cookie. -/
def appRequest : HeaderMap :=
  [("host", [97, 112, 112, 46, 101, 120, 97, 109, 112, 108, 101, 46, 99, 111, 109])]

/-- Two tunnels of the subdomain. -/
def twoTunnels : HashMap String Nat := (∅ : HashMap String Nat).insert "app-1" 0 |>.insert "app-2" 1

/-- The first was normal when it was last heard of, at `lastUpdate`; the
    second has had failures and is alive 31 seconds after the start. -/
def twoHealths (lastUpdate : Nat) : TunnelHealthMap :=
  (∅ : TunnelHealthMap).insert "app-1" (TunnelHealth.default lastUpdate)
    |>.insert "app-2" { TunnelHealth.default (seconds 31) with status := .warning }

/-- The first tunnel went silent, and the request goes to the cloud although
    the second would take it. -/
theorem stale_tunnel_shadows :
    ¬ ∀ (tunnels : HashMap String Nat) (health : TunnelHealthMap) (now : Nat)
      (headers : HeaderMap), preferredTunnel tunnels health now headers = none →
        FailsOver tunnels health now headers := by
  intro h
  have hroute : route twoTunnels (twoHealths 0) (seconds 31) appRequest = .cloud := by decide
  have hcandidate : "app-2" ∈ candidates twoTunnels (subdomainOf appRequest) := by decide
  rcases h twoTunnels (twoHealths 0) (seconds 31) appRequest (by decide)
    ⟨"app-2", hcandidate, by decide⟩ with ⟨id, tx, hid, _, _⟩
  rw [hroute] at hid
  simp only [reduceCtorEq] at hid

/-- With the first tunnel alive as well the request goes to it. -/
theorem failsOver_two :
    FailsOver twoTunnels (twoHealths (seconds 20)) (seconds 31) appRequest := by
  refine (failsOver_iff twoTunnels (twoHealths (seconds 20)) (seconds 31) appRequest
    (by decide)).mpr ?_
  intro stale hstale hold
  have hall : ∀ id ∈ candidates twoTunnels (subdomainOf appRequest),
      healthy (twoHealths (seconds 20)) (seconds 31) id = true := by decide
  have hnot := not_healthy_of_stale hold
  rw [hall stale hstale] at hnot
  simp only [Bool.true_eq_false] at hnot

end Proxy

end Rathole
