import CanDriver.Session.Basic
import CanDriver.Setup.Basic

namespace CanDriver.Session

/-!
# Handlers and receive sockets of a session

* `registerRx`, `unregisterRx` — a receive handler and the socket opened for it;
* `openRx`, `closeRx` — receive sockets by descriptor;
* `registerError`, `unregisterError` — error handlers.

Each answers the new session; an operation that fails leaves the old one as it was.
-/

open Host

/-- `Setup.openRx` and its consequences for the session: a new member of the wait-set, and the
    granted size of its buffer. -/
def addSocket (fs : List Filter) (s : Session) : HostM Failure (Session × Fd) := do
  let r ← Setup.openRx s.name s.config s.index fs
  let rxBuffer := if 0 < r.granted then r.granted else s.rxBuffer
  return ({ s with rxBuffer, waitSet := s.waitSet.insert r.fd }, r.fd)

/-- The largest descriptor of the wait-set, between brackets, as log records end. -/
def maxText (s : Session) : String := " (max fd " ++ Numeral.intText s.waitSet.max ++ ")"

/-- Opens a socket with the filters `fs` for the handler `h`. A handler that has a socket already is
    refused before a new one is opened. -/
def registerRx (h : RxHandler) (fs : List Filter) (s : Session) :
    HostM Failure (Session × Fd) := do
  s.lock
  if let some fd := s.registry.socketOf? h then
    s.say .error ("rx callback already registered on fd " ++ Numeral.intText fd)
    throw (.ofCode .rxHandlerKnown)
  let (s, fd) ← s.addSocket fs
  match s.registry.addRx fd h with
  | .error code =>
    closeSocket fd
    throw (.ofCode code)
  | .ok registry =>
    s.say .debug ("rx callback registered on fd " ++ Numeral.intText fd ++ s.maxText)
    return ({ s with registry }, fd)

/-- Closes the socket of `h` and removes `h`. The socket may have been closed by `closeRx` before,
    and then only the handler goes. -/
def unregisterRx (h : RxHandler) (s : Session) : HostM Failure Session := do
  s.lock
  match s.registry.socketOf? h with
  | none =>
    s.say .error "rx callback not found"
    throw (.ofCode .rxHandlerUnknown)
  | some fd =>
    if s.waitSet.hasRx fd then closeSocket fd
    s.say .debug ("rx callback on fd " ++ Numeral.intText fd ++ " unregistered")
    return { s with registry := s.registry.removeRx fd, waitSet := s.waitSet.remove fd }

/-- A receive socket without a handler: its datagrams are read and go to nobody. -/
def openRx (fs : List Filter) (s : Session) : HostM Failure (Session × Fd) := do
  s.lock
  let (s, fd) ← s.addSocket fs
  s.say .debug ("rx socket " ++ Numeral.intText fd ++ " opened" ++ s.maxText)
  return (s, fd)

/-- Closes `fd` and removes its handler, if `fd` is an open receive socket. For any other descriptor
    this succeeds without effect on the sockets. -/
def closeRx (fd : Fd) (s : Session) : HostM Failure Session := do
  s.lock
  if s.waitSet.hasRx fd then closeSocket fd
  else s.say .debug ("fd " ++ Numeral.intText fd ++ " is not an open rx socket")
  return { s with registry := s.registry.removeRx fd, waitSet := s.waitSet.remove fd }

/-- Appends `h` to the error handlers; one that is among them already is refused. -/
def registerError (h : ErrorHandler) (s : Session) : HostM Failure Session := do
  s.lock
  match s.registry.addError h with
  | .ok registry => return { s with registry }
  | .error code  =>
    s.say .error "error callback already registered"
    throw (.ofCode code)

/-- Removes `h` from the error handlers; one that is not among them is refused. -/
def unregisterError (h : ErrorHandler) (s : Session) : HostM Failure Session := do
  s.lock
  match s.registry.removeError h with
  | .ok registry => return { s with registry }
  | .error code  =>
    s.say .error "error callback not found"
    throw (.ofCode code)

end CanDriver.Session
