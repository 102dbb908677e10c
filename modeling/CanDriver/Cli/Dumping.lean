import CanDriver.Cli.Command

namespace CanDriver.Cli

/-!
# A dump beside its worker

`dump` lets the worker run to its next wait before it receives anything.  Here the arrival of datagrams,
the turns of the worker and the loop that receives and prints go on beside each other, in any order.

* `Arrival` — items arrive at a socket, and no socket is opened or closed;
* `Dumping` — the worker's session on a host, the channel, and what was printed;
* `Dumping.Step`, `Dumping.Steps` — one step of one of them, and steps one after the other.
-/

/-- Items arrive at `rx`, and the sockets and threads stay the same. Anything may arrive at other
    sockets, and be scripted for calls to come. -/
structure Arrival (rx : Fd) (items : List Item) (k k' : Kernel) : Prop where
  queue    : k'.queue rx = k.queue rx ++ items
  openFds  : k'.openFds = k.openFds
  nextFd   : k'.nextFd = k.nextFd
  detached : k'.detached = k.detached

/-- The worker's session, its host and the loop that prints, as they stand at one moment. -/
structure Dumping where
  /-- The session that the worker polls for. -/
  session : Session
  host    : Host
  /-- All that has arrived at the receive socket up to now, read or not. -/
  arrived : List Item
  /-- What the handler has sent and the loop has not received. -/
  channel : List FrameRecord
  printed : List FrameRecord

namespace Dumping

/-- Both handlers have just been registered, and nothing was read yet. -/
def start (rx : Fd) (s : Session) (h : Host) : Dumping where
  session := s
  host    := h
  arrived := h.kernel.queue rx
  channel := []
  printed := []

/-- The worker has come to the session `s` and the host `h`. What its callbacks since then have sent
    is in the channel. -/
def worked (d : Dumping) (s : Session) (h : Host) : Dumping :=
  let made := h.journal.callbacks.drop d.host.journal.callbacks.length
  { d with session := s, host := h, channel := d.channel ++ made.filterMap sent? }

/-- One step of the machine, of the worker or of the loop; they share only the host and
    the channel. -/
inductive Step (rx : Fd) (interval : Duration) (count? : Option Nat) : Dumping → Dumping → Prop
  | arrive {d : Dumping} {items : List Item} {k : Kernel} (arrival : Arrival rx items d.host.kernel k) :
      Step rx interval count? d
        { d with host := { d.host with kernel := k }, arrived := d.arrived ++ items }
  /-- The worker takes the lock and polls, as often as it likes. -/
  | work {d : Dumping} {n : Nat} {s : Session} {h : Host}
      (run : (d.session.turns interval n : HostM Empty Session) d.host = .ok s h) :
      Step rx interval count? d (d.worked s h)
  /-- The wait of the worker times out, or fails. -/
  | tick {d : Dumping} {s : Session} {waited : Bool} {h : Host}
      (run : (d.session.tick : HostM Empty (Session × Bool)) d.host = .ok (s, waited) h) :
      Step rx interval count? d (d.worked s h)
  /-- The loop receives a record and prints it. -/
  | print {d : Dumping} {r : FrameRecord} {channel : List FrameRecord}
      (wanted : wantsMore count? d.printed.length) (next : d.channel = r :: channel) :
      Step rx interval count? d { d with channel, printed := d.printed ++ [r] }

/-- The reflexive and transitive closure of `Step`, extended at the end. -/
inductive Steps (rx : Fd) (interval : Duration) (count? : Option Nat) : Dumping → Dumping → Prop
  | refl {d : Dumping} : Steps rx interval count? d d
  | tail {d e f : Dumping} (h : Steps rx interval count? d e) (next : Step rx interval count? e f) :
      Steps rx interval count? d f

end Dumping

end CanDriver.Cli
