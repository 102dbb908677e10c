import CanDriver.Session.Poll

namespace CanDriver.Session

/-!
# The background worker

The worker takes the lock, waits for the sockets of the session, drains those that are ready, gives
the lock back and starts again.  While nothing is ready it stays in its wait; who wants the lock
wakes it first, so that its next wait starts when the lock is free again.

* `enterWait interval` — the worker takes the lock and waits; a poisoned lock ends it;
* `wake` — its wait is cut short and its poll ends, which leaves the lock to somebody else;
* `settle` — the worker runs until it waits with nothing ready or has ended, or is held up;
* `tick` — its wait ends with nothing ready, or fails.
-/

open Host

variable {ε : Type}

/-- A log record of the worker, with the name of the interface in front. -/
def sayWorker (s : Session) (level : Log.Level) (text : String) : HostM ε Unit :=
  log level .worker (s.name ++ ": " ++ text)

/-- The worker takes the lock and enters `poll(2)`, which the journal shows as a `watch`. A poisoned
    lock ends the worker. -/
def enterWait (interval : Duration) (s : Session) : HostM ε Session := do
  match ← attempt s.lock with
  | .ok ()   =>
    add (.watch (s.waitSet.descriptors none) interval.waitMillis)
    return { s with worker := some (.waiting interval.waitMillis) }
  | .error _ =>
    s.sayWorker .debug "worker stopped"
    return { s with worker := some .stopped }

/-- The state of the worker after a poll: a failure is logged and does not end it, a panic does. -/
def afterPoll (s : Session) : Outcome → HostM ε Session
  | .panicked => return { s with worker := some .panicked }
  | .done     => return { s with worker := some .asking }
  | .failed f => do
    s.sayWorker .debug ("worker poll failed: " ++ f.message)
    return { s with worker := some .asking }

/-- A caller that wants the lock ends the wait of the worker. The poll that follows serves what is
    ready, so datagrams may be delivered here. -/
def wake (s : Session) : HostM ε Session := do
  match s.worker with
  | some (.waiting _) =>
    let (s, outcome) ← s.workerPoll true
    s.afterPoll outcome
  | _ => return s

/-- Lets the worker take the lock and poll for as long as something is reported, for `n` steps at
    most. A scripted `pause` ends it early. -/
def turns (interval : Duration) : Nat → Session → HostM ε Session
  | 0, s => return s
  | n + 1, s => do
    if (← fault .pause).isSome then return s
    match s.worker with
    | some .asking      => turns interval n (← s.enterWait interval)
    | some (.waiting _) =>
      if ← ask (·.anyReported (s.waitSet.descriptors none)) then
        let (s, outcome) ← s.workerPoll false
        turns interval n (← s.afterPoll outcome)
      else return s
    | _ => return s

/-- Enough steps for `turns`: each poll uses up an item or an override of a socket, and before each
    poll the lock is taken. -/
def turnBound (k : Kernel) : Nat := 2 * k.sockets.foldl (fun n s => n + s.queue.length + 1) 1

/-- The worker runs until it waits with nothing reported, or has ended, or is held up. -/
def settle (interval : Duration) (s : Session) : HostM ε Session := do
  turns interval (← ask turnBound) s

/-- The wait of the worker times out, or fails as scripted. Answers whether it was waiting. -/
def tick (s : Session) : HostM ε (Session × Bool) := do
  match s.worker with
  | some (.waiting _) =>
    let result := match ← fault .workerWait with
      | some e => Except.error e
      | none   => .ok []
    let (s, outcome) ← s.afterWait result
    return (← s.afterPoll outcome, true)
  | _ => return (s, false)

end CanDriver.Session
