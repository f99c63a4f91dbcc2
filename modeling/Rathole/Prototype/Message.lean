import Mathlib.Data.Rat.Defs

/-!
# Messages of the Prototype

The messages of the crate `shared`, which the prototype relay and its tunnel
client exchange as JSON over a websocket. Unlike the relay's, a request has
its method, path, headers and body in the message itself.

## Main definitions

* `ControlMessage`: The messages.
-/

namespace Rathole

namespace Prototype

/-- `ControlMessage` of the prototypes -/
inductive ControlMessage
  | register (apiKey targetSubdomain : String)
  | request (requestId method path : String) (headers : List (String × String))
      (body : List UInt8)
  | response (requestId : String) (status : UInt16) (headers : List (String × String))
      (body : List UInt8)
  | health (cpuUsage : ℚ) (latencyMs : UInt32)
  | pong
deriving DecidableEq, Repr

end Prototype

end Rathole
