import Mathlib.Data.Rat.Defs

/-!
# Relay Messages

The JSON half of `protocol.rs`: what the relay and its tunnel clients say to
each other over a websocket. Floating-point fields are exact rationals.

## Main definitions

* `HttpRequest`, `HttpResponse`: A request and a response on their way through
  a tunnel.
* `HardwareData`: What a tunnel client reports about its machine.
* `ControlMessage`: The messages themselves.
-/

namespace Rathole

/-- `HttpRequest` -/
structure HttpRequest where
  method : String
  path : String
  headers : List (String × String)
  body : List UInt8
deriving DecidableEq, Repr

/-- `HttpResponse` -/
structure HttpResponse where
  status : UInt16
  headers : List (String × String)
  body : List UInt8
deriving DecidableEq, Repr

/-- `TemperaturesData` -/
structure TemperaturesData where
  avgTemp : Option ℚ
  maxTemp : Option ℚ
deriving DecidableEq, Repr

/-- `HardwareData` -/
structure HardwareData where
  operatingSystem : String
  avgMemoryUsage : ℚ
  totalMemory : UInt64
  usedMemory : UInt64
  avgSwapUsage : ℚ
  totalSwap : UInt64
  usedSwap : UInt64
  cpuUsage : ℚ
  temperaturesData : TemperaturesData
  timestamp : String
deriving DecidableEq, Repr

/-- `ControlMessage` -/
inductive ControlMessage
  | register (token targetSubdomain : String)
  | request (requestId : String) (http : HttpRequest)
  | response (requestId : String) (http : HttpResponse)
  | healthUpdate (hardwareData : HardwareData) (timestamp : String)
deriving DecidableEq, Repr

end Rathole
