import CanDriver.Errno
import CanDriver.Event
import CanDriver.Frame.Filter

namespace CanDriver

/-!
# Calls of the kernel

* `SocketRole` — an interface has one socket to transmit and any number to receive;
* `SocketOption`, `OptionValue` — what can be set on a socket, and to what;
* `requestName` — the name of a link as it stands in a request about the link;
* `KernelCall` — a call as it is recorded: its arguments, and the error where it failed by decree.
-/

/-- An interface has one socket to transmit, and one to receive for each subscription. -/
inductive SocketRole
  | transmit
  | receive
  deriving DecidableEq, Repr, Inhabited

/-- Every option that the driver sets or reads, whatever its level. -/
inductive SocketOption
  | rawFilter
  | errorFilter
  | fdFrames
  | timestamp
  | timestamping
  | dropCounter
  | sendBuffer
  | receiveBuffer
  | forcedSendBuffer
  | forcedReceiveBuffer
  deriving DecidableEq, Repr, Inhabited

/-- The constant as the log and the journal show it. -/
def SocketOption.name : SocketOption → String
  | .rawFilter           => "CAN_RAW_FILTER"
  | .errorFilter         => "CAN_RAW_ERR_FILTER"
  | .fdFrames            => "CAN_RAW_FD_FRAMES"
  | .timestamp           => "SO_TIMESTAMP"
  | .timestamping        => "SO_TIMESTAMPING"
  | .dropCounter         => "SO_RXQ_OVFL"
  | .sendBuffer          => "SO_SNDBUF"
  | .receiveBuffer       => "SO_RCVBUF"
  | .forcedSendBuffer    => "SO_SNDBUFFORCE"
  | .forcedReceiveBuffer => "SO_RCVBUFFORCE"

/-- The buffer that matters for a role: `SO_SNDBUF` to transmit and `SO_RCVBUF` to receive. -/
def SocketRole.bufferOption : SocketRole → SocketOption
  | .transmit => .sendBuffer
  | .receive  => .receiveBuffer

/-- `bufferOption` in the variant that a privileged process may use to go beyond the
    system's cap. -/
def SocketRole.forcedBufferOption : SocketRole → SocketOption
  | .transmit => .forcedSendBuffer
  | .receive  => .forcedReceiveBuffer

/-- What `setsockopt` is given: an integer, or for `rawFilter` a list of filters. -/
inductive OptionValue
  | word (n : Nat)
  | filters (fs : List Filter)
  deriving DecidableEq, Repr

/-- `IFNAMSIZ`, the bytes of `ifr_name`. -/
def nameRoom : Nat := 16

/-- The field `ifr_name`: at most `nameRoom - 1` bytes of the name over zeros, so it always ends
    in a zero. -/
def requestName (name : String) : List UInt8 :=
  let bytes := name.toUTF8.data.toList.take (nameRoom - 1)
  bytes ++ (List.replicate nameRoom 0).drop bytes.length

/-- A call as the journal records it: its arguments, and its error where the script made it fail. -/
inductive KernelCall
  | socket (result : Except Errno Fd)
  | interfaceIndex (name : String) (fault : Option Errno)
  | nonblocking (fd : Fd) (fault : Option Errno)
  /-- The request carries the name as `requestName` cuts it. -/
  | linkMtu (fd : Fd) (name : String) (fault : Option Errno)
  | setOption (fd : Fd) (option : SocketOption) (value : OptionValue) (fault : Option Errno)
  | getOption (fd : Fd) (option : SocketOption) (fault : Option Errno)
  /-- `sockaddr_can` holds the index as a signed word, so large indices become negative. -/
  | bind (fd : Fd) (index : Int32) (fault : Option Errno)
  | send (fd : Fd) (bytes : List UInt8) (fault : Option Errno)
  | receive (fd : Fd) (result : Except Errno Nat)
  | wait (fds : List Fd) (timeout : Int) (fault : Option Errno)
  | close (fd : Fd)

end CanDriver
