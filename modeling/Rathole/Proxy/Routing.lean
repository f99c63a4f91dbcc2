import Mathlib.Data.List.Sort
import Rathole.Proxy.Headers
import Rathole.Proxy.Health

/-!
# Routing a Proxied Request

Where `proxy_handler` sends a request: a registered tunnel or the cloud. The
tunnel named by the request's cookie goes first, if it is registered and
healthy; otherwise `choose_best_tunnel` ranks the tunnels that belong to the
subdomain of the `Host` header, and its choice is taken if it is healthy.

The two ways test different things. `choose_best_tunnel` only considers
tunnels of the subdomain; the cookie is a tunnel id that the client chose,
and nothing ties it to the host of the request. `route_belongs_iff` is
exactly what that costs.

## Main definitions

* `subdomainOf`: The first label of the `Host` header.
* `matchesSubdomain`, `InSubdomain`: The naming rule for the tunnels of a
  subdomain, as the code tests it and as it reads.
* `healthy`: The handler's health test.
* `compareHealth`: The order in which tunnels are preferred.
* `chooseBestTunnel`: The best tunnel of a subdomain.
* `preferredTunnel`: The tunnel of the cookie, if it can be used.
* `route`: The backend a request goes to.
* `Belongs`: A tunnel belongs to the subdomain of a request.

## Theorems

* `chooseBestTunnel_matches`: The choice is a tunnel of the subdomain.
* `route_of_preferred`: A usable cookie decides.
* `route_of_no_preferred`: Otherwise the subdomain decides.
* `route_belongs_iff`: When a request stays within its subdomain.
* `route_leaves_subdomain`: A request that does not.
-/

namespace Rathole

namespace Proxy

/-- The first label of the `Host` header, empty if there is none. -/
def subdomainOf (headers : HeaderMap) : String :=
  -- `unwrap_or_default`: no header, or one that is no string.
  let host := ((headers.get "host").bind toStr).getD ""
  String.ofList ((host.toList.splitOn '.').headD [])

/-- The key is the subdomain itself or the subdomain, a dash, and more. -/
def matchesSubdomain (subdomain key : String) : Bool :=
  key == subdomain || (subdomain.toList ++ ['-']).isPrefixOf key.toList

/-- The key is the subdomain, or starts with the subdomain and a dash. -/
def InSubdomain (subdomain key : String) : Prop :=
  key = subdomain ∨ ∃ rest, key.toList = subdomain.toList ++ '-' :: rest

/-- Not `Critical` and heard of lately; an unknown tunnel is given a chance. -/
def healthy (health : TunnelHealthMap) (now : Nat) (id : String) : Bool :=
  match health.lookup id with
  | some h => h.status ≠ .critical && now - h.lastUpdate < staleThreshold
  | none => true

/-- Normal before warning before critical; no entry counts as a warning. -/
def statusRank : Option TunnelHealth → Nat
  | some h => match h.status with
    | .normal => 0
    | .warning => 1
    | .critical => 2
  | none => 1

/-- The error rate, or 0.5 if there is no entry. -/
def errorRateOr (h : Option TunnelHealth) : ℚ := (h.map (fun h => h.errorRate)).getD (1 / 2)

/-- The latency, or 9999 if none is known. -/
def latencyOr (h : Option TunnelHealth) : ℚ := (h.bind (fun h => h.avgLatencyMs)).getD 9999

/-- The comparison `choose_best_tunnel` sorts by: status, then error rate,
    then latency. -/
def compareHealth (ha hb : Option TunnelHealth) : Ordering :=
  ((compare (statusRank ha) (statusRank hb)).then (compare (errorRateOr ha) (errorRateOr hb))).then
    (compare (latencyOr ha) (latencyOr hb))

/-- The tunnels of a subdomain, in the order of the map. -/
def candidates {τ : Type} (tunnels : HashMap String τ) (subdomain : String) : List String :=
  tunnels.keys.filter (matchesSubdomain subdomain)

/-- The best tunnel of a subdomain: the first of the stably sorted candidates
    that has a sender. -/
def chooseBestTunnel {τ : Type} (tunnels : HashMap String τ) (health : TunnelHealthMap)
    (subdomain : String) : Option (String × τ) :=
  ((candidates tunnels subdomain).insertionSort
    (fun a b => compareHealth (health.lookup a) (health.lookup b) ≠ .gt)).findSome?
    (fun id => (tunnels.lookup id).map (fun tx => (id, tx)))

/-- The tunnel of the request's cookie, if it is registered and healthy. -/
def preferredTunnel {τ : Type} (tunnels : HashMap String τ) (health : TunnelHealthMap)
    (now : Nat) (headers : HeaderMap) : Option (String × τ) :=
  match getCookieValue headers "tunnel" with
  | none => none
  | some prefId => match tunnels.lookup prefId with
    | none => none
    | some tx => if healthy health now prefId then some (prefId, tx) else none

/-- A backend of the proxy. -/
inductive Backend (τ : Type)
  | tunnel (id : String) (tx : τ)
  | cloud
deriving DecidableEq, Repr

/-- The backend `proxy_handler` forwards a request to. -/
def route {τ : Type} (tunnels : HashMap String τ) (health : TunnelHealthMap) (now : Nat)
    (headers : HeaderMap) : Backend τ :=
  match preferredTunnel tunnels health now headers with
  | some (id, tx) => .tunnel id tx
  | none => match chooseBestTunnel tunnels health (subdomainOf headers) with
    | some (id, tx) => if healthy health now id then .tunnel id tx else .cloud
    | none => .cloud

/-- The tunnel belongs to the subdomain of the request's `Host` header. -/
def Belongs (headers : HeaderMap) (id : String) : Prop :=
  id = subdomainOf headers ∨ ∃ rest, id.toList = (subdomainOf headers).toList ++ '-' :: rest

variable {τ : Type} {tunnels : HashMap String τ} {health : TunnelHealthMap} {now : Nat}
  {headers : HeaderMap} {id : String} {tx : τ}

theorem matchesSubdomain_iff (subdomain key : String) :
    matchesSubdomain subdomain key = true ↔ InSubdomain subdomain key := by
  simp only [InSubdomain, matchesSubdomain, Bool.or_eq_true, beq_iff_eq,
    List.isPrefixOf_iff_prefix]
  refine or_congr Iff.rfl ⟨?_, ?_⟩
  · rintro ⟨rest, h⟩
    exact ⟨rest, by rw [← h, List.append_assoc, List.singleton_append]⟩
  · rintro ⟨rest, h⟩
    exact ⟨rest, by rw [h, List.append_assoc, List.singleton_append]⟩

theorem belongs_iff : Belongs headers id ↔ matchesSubdomain (subdomainOf headers) id = true :=
  (matchesSubdomain_iff (subdomainOf headers) id).symm

/-- Sorting and searching only ever return a candidate. -/
theorem chooseBestTunnel_matches {subdomain : String}
    (h : chooseBestTunnel tunnels health subdomain = some (id, tx)) :
    matchesSubdomain subdomain id = true ∧ tunnels.lookup id = some tx := by
  rcases List.exists_of_findSome?_eq_some h with ⟨c, hc, hmap⟩
  rw [List.mem_insertionSort, candidates, List.mem_filter] at hc
  rw [Option.map_eq_some_iff] at hmap
  rcases hmap with ⟨tx', hl, heq⟩
  simp only [Prod.mk.injEq] at heq
  rw [← heq.1, ← heq.2]
  exact ⟨hc.2, hl⟩

theorem preferredTunnel_eq_some_iff :
    preferredTunnel tunnels health now headers = some (id, tx) ↔
      getCookieValue headers "tunnel" = some id ∧ tunnels.lookup id = some tx ∧
        healthy health now id = true := by
  unfold preferredTunnel
  cases hc : getCookieValue headers "tunnel" with
  | none => simp only [reduceCtorEq, false_and]
  | some prefId =>
      cases hl : tunnels.lookup prefId with
      | none =>
          simp only [hl, reduceCtorEq, Option.some.injEq, false_iff, not_and]
          rintro rfl htx
          rw [hl] at htx
          exact absurd htx (by simp only [reduceCtorEq, not_false_eq_true])
      | some tx' =>
          by_cases hh : healthy health now prefId
          · simp only [hl, if_pos hh, Option.some.injEq, Prod.mk.injEq]
            constructor
            · rintro ⟨rfl, rfl⟩
              exact ⟨rfl, hl, hh⟩
            · rintro ⟨rfl, htx, _⟩
              rw [hl, Option.some.injEq] at htx
              exact ⟨rfl, htx⟩
          · simp only [hl, if_neg hh, reduceCtorEq, Option.some.injEq, false_iff, not_and]
            rintro rfl _
            exact hh

theorem route_of_preferred (h : preferredTunnel tunnels health now headers = some (id, tx)) :
    route tunnels health now headers = .tunnel id tx := by
  simp only [route, h]

/-- Without a usable cookie the request goes to a tunnel of its subdomain, if
    to a tunnel at all. -/
theorem route_of_no_preferred (hp : preferredTunnel tunnels health now headers = none)
    (h : route tunnels health now headers = .tunnel id tx) : Belongs headers id := by
  unfold route at h
  rw [hp] at h
  cases hc : chooseBestTunnel tunnels health (subdomainOf headers) with
  | none => simp only [hc, reduceCtorEq] at h
  | some c =>
      rcases c with ⟨cid, ctx⟩
      simp only [hc] at h
      -- The choice is from the subdomain; an unhealthy one is not used at all.
      by_cases hh : healthy health now cid
      · rw [if_pos hh, Backend.tunnel.injEq] at h
        rw [← h.1, belongs_iff]
        exact (chooseBestTunnel_matches hc).1
      · simp only [if_neg hh, reduceCtorEq] at h

/-- A request stays within its subdomain exactly when the cookie, if it names
    a registered and healthy tunnel, names one of the subdomain. -/
theorem route_belongs_iff (tunnels : HashMap String τ) (health : TunnelHealthMap) (now : Nat)
    (headers : HeaderMap) :
    (∀ id tx, route tunnels health now headers = .tunnel id tx → Belongs headers id) ↔
      ∀ id tx, getCookieValue headers "tunnel" = some id → tunnels.lookup id = some tx →
        healthy health now id = true → Belongs headers id := by
  constructor
  · -- A usable cookie decides, so its tunnel has to belong.
    intro h id tx hc hl hh
    exact h id tx (route_of_preferred (preferredTunnel_eq_some_iff.mpr ⟨hc, hl, hh⟩))
  · intro h id tx hr
    cases hp : preferredTunnel tunnels health now headers with
    -- Without one the naming rule takes care of it.
    | none => exact route_of_no_preferred hp hr
    | some p =>
        rcases p with ⟨pid, ptx⟩
        rw [route_of_preferred hp, Backend.tunnel.injEq] at hr
        rcases preferredTunnel_eq_some_iff.mp hp with ⟨hc, hl, hh⟩
        rw [← hr.1]
        exact h pid ptx hc hl hh

/-- `Host: a.example.com` with `Cookie: tunnel=b`, while tunnels `a` and `b`
    are registered. -/
def foreignCookie : HeaderMap :=
  [("host", [97, 46, 101, 120, 97, 109, 112, 108, 101, 46, 99, 111, 109]),
    ("cookie", [116, 117, 110, 110, 101, 108, 61, 98])]

/-- The request of subdomain `a` goes to the tunnel of `b`. -/
theorem route_leaves_subdomain :
    ¬ ∀ (tunnels : HashMap String Nat) (health : TunnelHealthMap) (now : Nat)
      (headers : HeaderMap) (id : String) (tx : Nat),
      route tunnels health now headers = .tunnel id tx → Belongs headers id := by
  intro h
  have hroute : route ((∅ : HashMap String Nat).insert "a" 0 |>.insert "b" 1) ∅ 0 foreignCookie
      = .tunnel "b" 1 := by decide
  have hb := h _ _ _ _ _ _ hroute
  rw [belongs_iff] at hb
  exact absurd hb (by decide)

end Proxy

end Rathole
