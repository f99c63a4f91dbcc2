import Mathlib.Data.Rat.Defs
import Mathlib.Data.Rat.Floor
import Rathole.Constants
import Rathole.Lib.HashMap
import Rathole.Lib.Rounding
import Rathole.Protocol.Message

/-!
# Tunnel Health

What the relay remembers about the health of a tunnel, and the three places
that write it: the outcome of a proxied request, success or failure, and a
health update from the tunnel client.

Instants are nanoseconds of one monotonic clock; the error rate and the
latency are exact rationals. The rounding of the comparisons in a report is a
parameter, which the relay sets to that of `f32`.

## Main definitions

* `TunnelHealth`: The record kept for one tunnel.
* `markTunnelSuccess`, `markTunnelFailure`: After a proxied request.
* `binary32`: The rounding of `f32`.
* `handleHardwareData`: How a report is classified.
* `healthUpdate`: A report from the tunnel client.
-/

namespace Rathole

namespace Proxy

/-- `HealthStatus` -/
inductive HealthStatus
  | normal
  | warning
  | critical
deriving DecidableEq, Repr

/-- `TunnelHealth`; times are in nanoseconds. -/
structure TunnelHealth where
  status : HealthStatus
  lastUpdate : Nat
  lastSuccess : Option Nat
  lastFailure : Option Nat
  consecutiveSuccesses : Nat
  consecutiveFailures : Nat
  avgLatencyMs : Option ℚ
  errorRate : ℚ
  lastTransition : Nat
deriving DecidableEq, Repr

/-- `TunnelHealth::default()` at the time `now`. -/
def TunnelHealth.default (now : Nat) : TunnelHealth where
  status := .normal
  lastUpdate := now
  lastSuccess := none
  lastFailure := none
  consecutiveSuccesses := 0
  consecutiveFailures := 0
  avgLatencyMs := none
  errorRate := 0
  lastTransition := now

/-- `TunnelHealthMap` -/
abbrev TunnelHealthMap := HashMap String TunnelHealth

/-- `STALE_THRESHOLD` -/
def staleThreshold : Nat := seconds 30

/-- `WARNING_TO_CRITICAL_FAILURES` -/
def warningToCriticalFailures : Nat := 5

/-- `SUCCESS_TO_NORMAL` -/
def successToNormal : Nat := 3

/-- `HYSTERESIS_DURATION` -/
def hysteresisDuration : Nat := seconds 10

/-- `u32::saturating_add(1)` -/
def saturatingSucc (n : Nat) : Nat := min (n + 1) (2 ^ 32 - 1)

/-- `map.entry(id).or_insert_with(TunnelHealth::default)` followed by an
    update of the entry. -/
def updateEntry (map : TunnelHealthMap) (now : Nat) (id : String)
    (f : TunnelHealth → TunnelHealth) : TunnelHealthMap :=
  map.insert id (f ((map.lookup id).getD (TunnelHealth.default now)))

/-- What a success does to the entry of its tunnel. -/
def TunnelHealth.succeed (e : TunnelHealth) (now : Nat) (latencyMs : Option ℚ) :
    TunnelHealth :=
  let e : TunnelHealth := { e with
    lastUpdate := now
    lastSuccess := some now
    consecutiveSuccesses := saturatingSucc e.consecutiveSuccesses
    consecutiveFailures := 0
    avgLatencyMs := match latencyMs with
      | some lat => some (match e.avgLatencyMs with
        | some prev => prev * (8 / 10) + lat * (2 / 10)
        | none => lat)
      | none => e.avgLatencyMs
    errorRate := max (e.errorRate * (9 / 10)) 0 }
  if e.status = .warning ∧ successToNormal ≤ e.consecutiveSuccesses ∧
      hysteresisDuration ≤ now - e.lastTransition then
    { e with status := .normal, lastTransition := now }
  else e

/-- What a failure does to the entry of its tunnel. -/
def TunnelHealth.fail (e : TunnelHealth) (now : Nat) : TunnelHealth :=
  let e : TunnelHealth := { e with
    lastUpdate := now
    lastFailure := some now
    consecutiveFailures := saturatingSucc e.consecutiveFailures
    consecutiveSuccesses := 0
    errorRate := e.errorRate * (8 / 10) + 2 / 10 }
  -- The counter has the present failure in it.
  if warningToCriticalFailures ≤ e.consecutiveFailures then
    if hysteresisDuration ≤ now - e.lastTransition then
      { e with status := .critical, lastTransition := now }
    else e
  -- A critical tunnel does not get better by failing less.
  else if e.status ≠ .critical ∧ hysteresisDuration ≤ now - e.lastTransition then
    { e with status := .warning, lastTransition := now }
  else e

/-- `mark_tunnel_success` -/
def markTunnelSuccess (map : TunnelHealthMap) (now : Nat) (id : String)
    (latencyMs : Option ℚ) : TunnelHealthMap :=
  updateEntry map now id (fun e => e.succeed now latencyMs)

/-- `mark_tunnel_failure` -/
def markTunnelFailure (map : TunnelHealthMap) (now : Nat) (id : String) : TunnelHealthMap :=
  updateEntry map now id (fun e => e.fail now)

/-- `f32` has 24 binary digits. Neither a `u64` nor a quotient of two comes
    near the ends of its range. -/
def binary32 : Rounding ℚ := Rounding.float 2 23 (by decide)

/-- `used as f32 / total as f32 > 90.0`: a quotient by zero is infinite, and
    zero by zero compares as false. -/
def ratioExceeds (R : Rounding ℚ) (used total : UInt64) : Bool :=
  if total = 0 then used ≠ 0 else R.quotient used.toNat total.toNat > 90

/-- `total - used <= 1` on `u64`, or `none` where the subtraction overflows
    and overflow is checked. -/
def atMostOneFree (overflowChecks : Bool) (total used : UInt64) : Option Bool :=
  if overflowChecks && total < used then none else some (total - used ≤ 1)

/-- `handle_hardware_data`; `none` is a panic. The conditions are tried in
    the source's order and the first that holds decides. -/
def handleHardwareData (R : Rounding ℚ) (overflowChecks : Bool) (d : HardwareData)
    (cpuLimit : ℚ) : Option HealthStatus :=
  if d.cpuUsage > cpuLimit || ratioExceeds R d.usedMemory d.totalMemory ||
      ratioExceeds R d.usedSwap d.totalSwap then some .critical
  else match atMostOneFree overflowChecks d.totalSwap d.usedSwap with
    | none => none
    | some true => some .critical
    | some false => match atMostOneFree overflowChecks d.totalMemory d.usedMemory with
      | none => none
      | some true => some .critical
      | some false => some .normal

/-- A health update classified as `status` is written to the tunnel's entry. -/
def healthUpdate (map : TunnelHealthMap) (now : Nat) (id : String) (status : HealthStatus) :
    TunnelHealthMap :=
  updateEntry map now id (fun e => { e with status := status, lastUpdate := now })

end Proxy

end Rathole
