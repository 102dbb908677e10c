import CanDriver.Time.Duration

namespace CanDriver

/-!
# Interface settings

* `Config` — what an interface is initialised with; `Config.default` — its settings where it has none
  of its own;
* `Config.needsLink` — some setting is for the link rather than for the sockets.
-/

/-- A `struct can_ctrlmode`: the controller bits to change, `mask`, and their new
    values, `flags`. -/
structure CtrlMode where
  mask  : UInt32
  flags : UInt32
  deriving DecidableEq, Repr, Inhabited

/-- What becomes of the worker when the interface is freed. -/
inductive ShutdownPolicy
  /-- Wait until its poll has returned. -/
  | join
  /-- Let it end on its own; the caller goes on at once. -/
  | detach
  deriving DecidableEq, Repr, Inhabited

/-- `join`, so that no callback comes after the interface was freed. -/
protected def ShutdownPolicy.default : ShutdownPolicy := .join

/-- How documents and arguments write a policy. -/
def ShutdownPolicy.word : ShutdownPolicy → String
  | .join   => "join"
  | .detach => "detach"

/-- The inverse of `word`, in lower case only. -/
def ShutdownPolicy.ofWord? (s : String) : Option ShutdownPolicy :=
  if s = "join" then some .join else if s = "detach" then some .detach else none

/-- What `init` is given beside the name of the link. `none` leaves a setting of the link
    as it is. -/
structure Config where
  bitrate       : Option UInt32
  dataBitrate   : Option UInt32
  restartMs     : Option UInt32
  ctrlMode      : Option CtrlMode
  /-- Use FD frames on every socket, which the MTU of the link has to allow. -/
  fd            : Bool
  /-- Ask for time stamps and drop counters on receive sockets. -/
  processHeader : Bool
  /-- Prefer the time stamps of the hardware, see `Ancillary.timestamp?`. -/
  hwTimestamp   : Bool
  /-- The error classes that arrive as error frames, as in `Frame.errorClass`; zero for none. -/
  errorMask     : UInt32
  /-- The caller polls, and there is no worker. -/
  polled        : Bool
  /-- The size to request for the send buffer; zero makes no request. -/
  txBuffer      : Nat
  /-- The size to request for every receive buffer; zero makes no request. -/
  rxBuffer      : Nat
  /-- The timeout of each poll of the worker. -/
  pollTimeout   : Duration
  shutdown      : ShutdownPolicy
  deriving DecidableEq, Repr

namespace Config

/-- Transmit timeouts, controller problems, bus-off, bus errors and restarts. -/
def defaultErrorMask : UInt32 := 0x001 ||| 0x004 ||| 0x040 ||| 0x080 ||| 0x100

/-- One second: a worker that nothing wakes looks at its stop flag that often. -/
def defaultPollTimeout : Duration := Duration.ofSecs 1

/-- What `init` uses where the caller gives nothing, and what a missing key of a document
    stands for. -/
protected def default : Config where
  bitrate       := none
  dataBitrate   := none
  restartMs     := none
  ctrlMode      := none
  fd            := false
  processHeader := true
  hwTimestamp   := false
  errorMask     := defaultErrorMask
  polled        := false
  txBuffer      := 0
  rxBuffer      := 0
  pollTimeout   := defaultPollTimeout
  shutdown      := .join

instance : Inhabited Config := ⟨Config.default⟩

/-- One of the four settings that belong to the link is present, that is, `linkRequests` is
    not empty. -/
def needsLink (c : Config) : Bool :=
  c.bitrate.isSome || c.dataBitrate.isSome || c.restartMs.isSome || c.ctrlMode.isSome

/-- The key `poll_timeout` of documents: `pollTimeout` in whole milliseconds, modulo 2⁶⁴. -/
def pollTimeoutMs (c : Config) : Nat := c.pollTimeout.wholeMillis % bound64

end Config

end CanDriver
