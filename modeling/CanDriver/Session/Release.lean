import CanDriver.Session.Worker

namespace CanDriver.Session

/-!
# The release of a session

The worker is told to end, the receive sockets are closed under the lock, and what is left goes with
the last that holds the session: that is the worker where nobody waits for it.

* `stopWorker` — the worker is told to end;
* `clear` — empties the wait-set; a poisoned lock leaves it as it is;
* `release` — stops the worker and closes all sockets;
* `endDetached` — a worker that nobody waited for ends.
-/

open Host

variable {ε : Type}

/-- Wakes the worker and, by the policy `join`, waits for its end. Answers whether it goes on for
    now, as a detached worker may. -/
def stopWorker (s : Session) : HostM ε (Session × Bool) := do
  let s ← s.wake
  match s.worker with
  | none   => return (s, false)
  | some w =>
    let runs := w = .asking
    match s.config.shutdown with
    | .detach =>
      s.sayWorker .debug "worker detached"
      if !runs then return (s, false)
      if (← fault .lingering).isSome then return (s, true)
      s.sayWorker .debug "worker stopped"
      return (s, false)
    | .join =>
      if runs then s.sayWorker .debug "worker stopped"
      if w = .panicked then s.sayWorker .error "worker panicked"
      return (s, false)

/-- The sockets that `release` still has to close after `clear`, in the order in which they
    are closed. -/
def sockets (s : Session) : List Fd := s.tx :: s.waitSet.rx

/-- Closes the receive sockets in ascending order. The transmit socket leaves the wait-set too, but
    stays open. -/
def emptyWaitSet (s : Session) : HostM ε Session := do
  s.waitSet.rx.forM closeSocket
  return { s with waitSet := s.waitSet.clear }

/-- `emptyWaitSet` under the lock. Where the lock is poisoned the wait-set stays, and with it the
    receive sockets are left to whoever drops the session last. -/
def clear (s : Session) : HostM ε Session := do
  match ← attempt s.lock with
  | .ok ()   => s.emptyWaitSet
  | .error f =>
    log .error .interface (s.name ++ ": sockets left to the worker: " ++ f.message)
    return s

/-- Stops the worker, empties the wait-set and closes `sockets`. Where the worker goes on for now,
    it takes them along in a `Thread` instead. -/
def release (s : Session) : HostM ε Unit := do
  let (s, goesOn) ← s.stopWorker
  let s ← s.clear
  if goesOn then modifyKernel (·.letGo ⟨s.name, s.sockets⟩)
  else s.sockets.forM closeSocket

/-- The `n`-th detached thread ends and closes its sockets. Answers whether there was one. -/
def endDetached (n : Nat) : HostM ε Bool := do
  match ← ask (·.detached[n]?) with
  | none   => return false
  | some t =>
    modifyKernel (·.forget n)
    log .debug .worker (t.name ++ ": worker stopped")
    t.sockets.forM closeSocket
    return true

end CanDriver.Session
