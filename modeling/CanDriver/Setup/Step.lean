import CanDriver.Host.Call

namespace CanDriver.Setup

/-!
# The steps of setting up a socket

* `Step` — one thing to do to a new socket;
* `Progress` — what the steps found out: the index of the link and the size of the buffer;
* `Step.perform` — does a step.  One that fails says so in the log and has a code of its own; the
  only failure that is tolerated is that of a request beyond the system's buffer limit, after which
  the plain request decides.
-/

/-- One thing to do to a new socket. What a step does depends on the `Subject` too. -/
inductive Step
  /-- Look up the index of the link by its name. -/
  | resolve
  | nonblocking
  /-- Require a link whose frames have `fdSize` bytes. -/
  | fdLink
  | fdFrames
  /-- Ask for time stamps, of the hardware if wanted. -/
  | timestamps (hardware : Bool)
  | dropCounter
  /-- Ask for a buffer of `size` bytes and read back what was granted. -/
  | buffer (size : Nat)
  | errorMask (mask : UInt32)
  | filters (fs : List Filter)
  | bind
  deriving DecidableEq, Repr

/-- What the steps so far found out, for later steps and for `Ready`. -/
structure Progress where
  index   : UInt32
  /-- The size of the buffer, zero if none was asked for. -/
  granted : Nat
  deriving DecidableEq, Repr

/-- The socket that is set up: the name of its link, its role and its descriptor. -/
structure Subject where
  name : String
  role : SocketRole
  fd   : Fd
  deriving DecidableEq, Repr

end Setup

/-! ### What depends on the role -/

namespace SocketRole

def word : SocketRole → String
  | .transmit => "tx"
  | .receive  => "rx"

def bufferWord : SocketRole → String
  | .transmit => "Send"
  | .receive  => "Receive"

def createCode : SocketRole → ErrorCode
  | .transmit => .txSocketCreate
  | .receive  => .rxSocketCreate

def bindCode : SocketRole → ErrorCode
  | .transmit => .txSocketBind
  | .receive  => .rxSocketBind

def setBufferCode : SocketRole → ErrorCode
  | .transmit => .setSendBuffer
  | .receive  => .setReceiveBuffer

def getBufferCode : SocketRole → ErrorCode
  | .transmit => .getSendBuffer
  | .receive  => .getReceiveBuffer

end SocketRole

namespace Setup

open Host

/-- Logs `what` and the error at `level`, then fails with `code` and the error. -/
def refuse {α : Type} (name : String) (level : Log.Level) (what : String) (code : ErrorCode)
    (e : Errno) : HostM Failure α := do
  log level .setup (name ++ ": " ++ what ++ ": " ++ e.message)
  throw (.os code e)

/-- `INT_MAX`, since `setsockopt` takes the size as a signed word. -/
def maxRequest : Nat := maxInt32

/-- Tries the forced request first and falls back to the plain one; in both cases the size is read
    back. That the forced request was refused is worth a warning only. -/
def negotiate (s : Subject) (size : Nat) : HostM Failure Nat := do
  let request := OptionValue.word (min size maxRequest)
  let forced := (← attempt (setOption s.fd s.role.forcedBufferOption request)).isOk
  if !forced then
    orElse (setOption s.fd s.role.bufferOption request) fun e =>
      refuse s.name .error s.role.setBufferCode.message s.role.setBufferCode e
  let granted ← orElse (getBuffer s.fd s.role) fun e =>
    refuse s.name .error s.role.getBufferCode.message s.role.getBufferCode e
  let subject := s.name ++ ": " ++ s.role.bufferWord
  let size := Numeral.text granted
  if forced then log .debug .setup (subject ++ " buffer size " ++ size)
  else log .warn .setup (subject ++ " buffer force request refused, best-effort size " ++ size)
  return granted

/-- `SIOCGIFMTU` has to answer `fdSize`; any other MTU is refused without an error of the system. -/
def requireFdLink (s : Subject) : HostM Failure Unit := do
  let mtu ← orElse (linkMtu s.fd s.name) (refuse s.name .error "ioctl SIOCGIFMTU failed" .linkMtu)
  if mtu ≠ fdSize then
    let size := Numeral.intText mtu
    log .error .setup (s.name ++ ": CAN FD mtu not supported (mtu " ++ size ++ ")")
    throw (.ofCode .fdNotSupported)

/-- `setsockopt` for an option whose name goes into the log when it fails. -/
def enable (s : Subject) (option : SocketOption) (value : OptionValue) (code : ErrorCode) :
    HostM Failure Unit :=
  orElse (setOption s.fd option value)
    (refuse s.name .error ("setsockopt " ++ option.name ++ " failed") code)

/-- The option and value that ask for time stamps: software and raw hardware stamps on arrival, or a
    plain software one. -/
def timestampOption (hardware : Bool) : SocketOption × OptionValue :=
  if hardware then (.timestamping, .word (16 ||| 8 ||| 64)) else (.timestamp, .word 1)

/-- One step for the socket `s`. Each kind of step has its own `ErrorCode`, and only `resolve` and
    `buffer` change the `Progress`. -/
def Step.perform (s : Subject) (p : Progress) : Step → HostM Failure Progress
  | .resolve => do
    let index ← orElse (interfaceIndex s.name)
      (refuse s.name .error "unable to get interface index" .interfaceIndex)
    return { p with index }
  | .nonblocking => do
    orElse (setNonblocking s.fd) fun e => throw (.os .setNonblocking e)
    return p
  | .fdLink => do
    requireFdLink s
    return p
  | .fdFrames => do
    enable s .fdFrames (.word 1) .setFdFrames
    return p
  | .timestamps hardware => do
    let (option, value) := timestampOption hardware
    orElse (setOption s.fd option value)
      (refuse s.name .info ("setsockopt " ++ option.name ++ " not supported") .setTimestamp)
    return p
  | .dropCounter => do
    enable s .dropCounter (.word 1) .setDropCounter
    return p
  | .buffer size => do
    let granted ← negotiate s size
    return { p with granted }
  | .errorMask mask => do
    enable s .errorFilter (.word mask.toNat) .setErrorFilter
    return p
  | .filters fs => do
    enable s .rawFilter (.filters fs) .setRawFilter
    return p
  | .bind => do
    orElse (bindSocket s.fd p.index)
      (refuse s.name .error (s.role.word ++ " socket bind failed") s.role.bindCode)
    return p

end CanDriver.Setup
