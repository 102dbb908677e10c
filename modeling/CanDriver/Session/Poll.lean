import CanDriver.Delivery
import CanDriver.Reception
import CanDriver.Session.Basic

namespace CanDriver

/-!
# Polling

* `Session.pollOnce` — waits and reads one datagram, which is not delivered;
* `Session.poll` — waits, then reads and delivers all that is pending;
* `Session.dispatch` — delivers an event;
* `Session.drain` — what comes of the queue of one socket;
* `Session.sweep` — drains sockets in order.  A read that fails ends the turn of its socket only,
  and the first such failure is the outcome; a handler that panics ends everything;
* `Session.workerPoll` — what a poll of the worker does once its wait is over.
-/

/-- How an operation that calls handlers ends. -/
inductive Outcome
  | done
  | failed (f : Failure)
  /-- A handler panicked, and no handler was called after it. -/
  | panicked
  deriving DecidableEq, Repr

/-- The outcome of a sweep whose first failed read is given, if any failed. -/
def Outcome.ofFailure? : Option Failure → Outcome
  | none   => .done
  | some f => .failed f

/-- What a wait of the worker reports to be ready. -/
inductive Reported
  | socket (fd : Fd)
  /-- The pipe through which the worker is woken; it has no datagrams. -/
  | wakeUp
  deriving DecidableEq, Repr

/-- The timeout argument of `poll(2)`: `waitMillis`, or `-1` to wait for as long as it takes. -/
def Duration.pollMillis : Option Duration → Int
  | none   => -1
  | some d => d.waitMillis

namespace Session

open Host

variable {ε : Type}

/-! ### One socket -/

/-- Why `drain` stops; each case has its own continuation in `sweep`. -/
inductive Ending
  /-- A receive brought no event, so nothing more is pending. -/
  | emptied
  | networkDown
  | panicked
  deriving DecidableEq, Repr

/-- What `drain` makes of the queue of one socket. -/
structure Turn where
  effects : List Effect
  /-- What stays in the queue. -/
  rest    : List Item
  /-- The value of `Session.dropped` afterwards. -/
  dropped : UInt32
  ending  : Ending

/-- Reads and delivers the items of a queue up to the first receive that brings no event; at the end
    of the queue that is a receive that fails with `idle`. `made` is what was called before. -/
def drain (s : Session) (fd : Fd) (idle : Errno) (dropped : UInt32) (made : List Callback) :
    List Item → Turn
  | [] =>
    let (effects, _) := (Item.failure idle).read s.config (s.roleOf fd) fd
    ⟨effects, [], dropped, .emptied⟩
  | item :: rest =>
    match item.read s.config (s.roleOf fd) fd with
    | (effects, .nothing)     => ⟨effects, rest, dropped, .emptied⟩
    | (effects, .networkDown) => ⟨effects, rest, dropped, .networkDown⟩
    | (effects, .event _ e)   =>
      let callbacks := s.registry.deliveries e
      let effects := effects ++ Callback.effectsOf made callbacks
      let dropped := keptDropped dropped e
      if Callback.anyPanics made callbacks then ⟨effects, rest, dropped, .panicked⟩
      else
        let more := drain s fd idle dropped (made ++ callbacks) rest
        { more with effects := effects ++ more.effects }

/-- `drain` for the queue that `fd` has in the kernel. A panic poisons the session, and what was not
    read stays in the queue. -/
def serve (fd : Fd) (s : Session) : HostM ε (Session × Ending) := do
  let queue ← ask (·.queue fd)
  let idle ← ask (·.idleError fd)
  let turn := s.drain fd idle s.dropped (← called) queue
  addAll turn.effects
  modifyKernel (·.setQueue fd turn.rest)
  return ({ s with dropped := turn.dropped, poisoned := s.poisoned || turn.ending == .panicked },
    turn.ending)

/-! ### All sockets -/

/-- The log record for a read that failed with `code`. -/
def readError (fd : Fd) (code : ErrorCode) (s : Session) : HostM ε Unit :=
  log .error .poll (s.name ++ ": read error on fd " ++ Numeral.intText fd ++ ": " ++ code.message)

/-- The failure of an operation that met `ENETDOWN` on a socket. -/
def downFailure : Failure := .os .networkDown Errno.networkDown

/-- `serve` for each reported socket in order. A socket whose network is down does not keep
    the others from their turn, a panic does; `first` is the failure met so far, which decides
    the outcome. -/
def sweep (first : Option Failure) : List Reported → Session → HostM ε (Session × Outcome)
  | [], s => return (s, .ofFailure? first)
  | .wakeUp :: ready, s => sweep first ready s
  | .socket fd :: ready, s => do
    match ← s.serve fd with
    | (s, .emptied)     => sweep first ready s
    | (s, .panicked)    => return (s, .panicked)
    | (s, .networkDown) =>
      s.readError fd .networkDown
      sweep (first <|> some downFailure) ready s

/-- Logs why `poll(2)` failed and answers the failure that goes to the caller. -/
def waitError (e : Errno) (s : Session) : HostM ε Failure := do
  log .error .poll (s.name ++ ": poll error: " ++ e.message)
  return .os .pollWait e

/-- What follows a wait. A signal ends a wait like a timeout; any other failure is told to the error
    handlers first. -/
def afterWait (result : Except Errno (List Reported)) (s : Session) : HostM ε (Session × Outcome) := do
  match result with
  | .ok ready => sweep none ready s
  | .error e  =>
    if e = Errno.interrupted then return (s, .done)
    let callbacks := s.registry.announce (.waitFailed e)
    let made ← called
    addAll (Callback.effectsOf made callbacks)
    if Callback.anyPanics made callbacks then return ({ s with poisoned := true }, .panicked)
    return (s, .failed (← s.waitError e))

/-- `poll(2)` for all sockets of the wait-set, with its failure as a value. -/
def waitFor (timeout : Option Duration) (s : Session) : HostM ε (Except Errno (List Fd)) :=
  attempt (wait (s.waitSet.descriptors none) (Duration.pollMillis timeout))

/-! ### Operations -/

/-- Runs `action` under the lock. Where that is poisoned, `action` is not run at all. -/
def locked (s : Session) (action : HostM ε (Session × Outcome)) :
    HostM ε (Session × Outcome) := do
  match ← attempt s.lock with
  | .error f => return (s, .failed f)
  | .ok ()   => action

/-- Waits, then reads and delivers all that is pending on the sockets that the wait reports. -/
def poll (timeout : Option Duration) (s : Session) : HostM ε (Session × Outcome) :=
  s.locked do
    let result ← s.waitFor timeout
    s.afterWait (result.map (·.map .socket))

/-- What a poll of the worker does once its wait is over. `woken` if the wake-up is part of what the
    wait reports, which comes after the sockets. -/
def workerPoll (woken : Bool) (s : Session) : HostM ε (Session × Outcome) := do
  let fds := s.waitSet.descriptors none
  let ready ← ask (·.ready fds)
  modifyKernel (·.dropOverrides fds)
  s.afterWait (.ok (ready.map .socket ++ if woken then [.wakeUp] else []))

/-- Delivers the event `e` to the handlers of the session, without reading anything. -/
def dispatch (e : Event) (s : Session) : HostM ε (Session × Outcome) :=
  s.locked do
    let callbacks := s.registry.deliveries e
    let made ← called
    addAll (Callback.effectsOf made callbacks)
    if Callback.anyPanics made callbacks then return ({ s with poisoned := true }, .panicked)
    return (s, .done)

/-- Takes one item off the queue of `fd` and reads it. No handler is called. -/
def readOne (fd : Fd) (s : Session) : HostM ε (Session × Event × Except Failure Nat) := do
  let (effects, reading) := (← ask (·.front fd)).read s.config (s.roleOf fd) fd
  addAll effects
  modifyKernel fun k => k.setQueue fd (k.queue fd).tail
  match reading with
  | .nothing      => return (s, .blank, .ok 0)
  | .event size e => return ({ s with dropped := keptDropped s.dropped e }, e, .ok size)
  | .networkDown  =>
    s.readError fd .networkDown
    return (s, .blank, .error downFailure)

/-- Waits and reads one datagram from the first socket that has one. Answers the event in place of
    `event`, which stays only where the lock is not to be had, and how many bytes were read. -/
def pollOnce (timeout : Option Duration) (event : Event) (s : Session) :
    HostM ε (Session × Event × Except Failure Nat) := do
  match ← attempt s.lock with
  | .error f => return (s, event, .error f)
  | .ok ()   =>
    match ← s.waitFor timeout with
    | .ok []        => return (s, event.clear, .ok 0)
    | .ok (fd :: _) => s.readOne fd
    | .error e      =>
      if e = Errno.interrupted then return (s, event.clear, .ok 0)
      return (s, event.clear, .error (← s.waitError e))

end Session

end CanDriver
