import Mult.Daemon.Deliveries

/-! Every step but attaching, replaying and reading sends plain messages only. -/

set_option autoImplicit false

namespace Mult.Daemon
open Foundation Protocol
open Std (TreeMap)

namespace ServerState

variable (state : ServerState)

end ServerState

/-! ## The steps -/

namespace Server

variable {server next : Server} {events : List Event} {thread : Nat} {ref : PaneRef}

end Server

end Mult.Daemon
