import CanDriver.Interface.Basic
import CanDriver.Link.Basic
import CanDriver.Session.Release
import CanDriver.Setup.Basic

namespace CanDriver

/-!
# The life of an interface

* `Interface.release` — stops the worker and closes all sockets;
* `Interface.start` — the stages of initialisation, each of which can fail;
* `Interface.init` — releases what was there, then starts with new settings;
* `Interface.shutdown` — releases and, if there was something to release, stops the link.
-/

namespace Interface

open Host

variable {ε : Type}

/-- `Session.release` for the session, if there is one. Answers whether there was one. -/
def release (i : Interface) : HostM ε (Interface × Bool) := do
  match i.session? with
  | none   => return (i, false)
  | some s =>
    s.release
    return ({ i with session? := none }, true)

/-! ### Initialisation -/

/-- Asks for `linkRequests`, if any setting is for the link, and in any case for `start`. -/
def startLink (i : Interface) (c : Config) : HostM Failure Unit := do
  if c.needsLink then
    log .debug .interface (i.name ++ ": applying link settings")
    i.link.askAll i.name c.linkRequests
  i.link.ask i.name .start

/-- Fails with `code` after logging why and closing the transmit socket. -/
def giveUp {α : Type} (tx : Fd) (target : Log.Target) (text : String) (code : ErrorCode)
    (e : Errno) : HostM Failure α := do
  log .error target (text ++ ": " ++ e.message)
  closeSocket tx
  throw (.os code e)

/-- The session around a transmit socket that is ready: no receive sockets, and
    `ErrorHandler.standard`, which logs, as its only handler. -/
def newSession (i : Interface) (c : Config) (r : Setup.Ready) : Session where
  name     := i.name
  index    := r.index
  config   := c
  tx       := r.fd
  txBuffer := r.granted
  rxBuffer := 0
  dropped  := 0
  waitSet  := WaitSet.empty.setTx r.fd
  registry := { rx := [], errors := [.standard i.name] }
  poisoned := false
  worker   := none

/-- The pipe of a worker, where `c` asks for a worker. A failure gives up the transmit socket. -/
def allocateWorker (i : Interface) (c : Config) (tx : Fd) : HostM Failure Unit := do
  if !c.polled then
    orElse wakePipe
      (giveUp tx .interface (i.name ++ ": unable to allocate thread resources") .threadAlloc)

/-- The thread of a worker, where `c` asks for a worker. A failure gives up the transmit socket. -/
def startWorker (i : Interface) (c : Config) (s : Session) : HostM Failure Session := do
  if c.polled then return s
  orElse spawn (giveUp s.tx .worker (i.name ++ ": unable to create thread") .threadCreate)
  s.sayWorker .debug "worker started"
  return { s with worker := some .asking }

/-- The stages of `init` without a previous session. Answers the interface as the stages that were
    reached left it: its settings from the first on, its interval once a worker could be had, its
    session at the end. -/
def start (c : Config) (i : Interface) : HostM ε (Interface × Except Failure Unit) := do
  log .info .interface ("Initialising CAN interface " ++ i.name)
  let i := { i with config := c }
  let socket : HostM Failure Setup.Ready := do
    i.startLink c
    let r ← Setup.openTx i.name c
    i.allocateWorker c r.fd
    return r
  match ← attempt socket with
  | .error f => return (i, .error f)
  | .ok r    =>
    let i := i.withInterval c.pollTimeout
    match ← attempt (i.startWorker c (i.newSession c r)) with
    | .error f => return (i, .error f)
    | .ok s    =>
      log .info .interface ("CAN interface " ++ i.name ++ " ready")
      return ({ i with session? := some s }, .ok ())

/-- Releases the session, if there is one, and starts with new settings. A failure leaves no
    session behind. -/
def init (c : Config) (i : Interface) : HostM ε (Interface × Except Failure Unit) := do
  let (i, wasThere) ← i.release
  if wasThere then
    log .warn .interface (i.name ++ ": re-initialising, previous sockets closed")
  i.start c

/-! ### The end -/

/-- Releases the session and asks the link to stop. Without a session nothing is released and the
    link is not asked. -/
def shutdown (i : Interface) : HostM ε (Interface × Except Failure Unit) := do
  let (i, wasThere) ← i.release
  if !wasThere then return (i, .ok ())
  match ← attempt (i.link.ask i.name .stop) with
  | .ok ()   => return (i, .ok ())
  | .error f =>
    log .error .interface (i.name ++ ": can not stop interface: " ++ f.message)
    return (i, .error f)

end Interface

end CanDriver
