import CanDriver.Config.Basic
import CanDriver.Host.Call
import CanDriver.WaitSet

namespace CanDriver

/-!
# Sessions

What an initialised interface holds until it is released.

* `WorkerState` — the background worker is between two polls, waits, or ended in one of two ways;
* `Session` — sockets, handlers, counters and the worker of an interface;
* `Session.lock` — every operation on sockets or handlers first takes the lock.  A handler that
  panics while the lock is held poisons it, and from then on no operation gets it.
-/

/-- What the background worker does between two steps of a caller. -/
inductive WorkerState
  /-- Between two polls; it takes the lock next. -/
  | asking
  /-- In `poll(2)` with the lock held, for at most `timeout` milliseconds. -/
  | waiting (timeout : Nat)
  | stopped
  /-- A handler that it called panicked, which ended the thread. -/
  | panicked
  deriving DecidableEq, Repr

/-- What `Interface.init` sets up and `Session.release` takes down. -/
structure Session where
  name     : String
  /-- The index of the link, which every receive socket is bound to. -/
  index    : UInt32
  config   : Config
  /-- The transmit socket, which is in `waitSet` too until that is emptied. -/
  tx       : Fd
  /-- The granted size of the send buffer, zero if none was asked for. -/
  txBuffer : Nat
  /-- The granted size for the newest receive socket, zero if none was asked for. -/
  rxBuffer : Nat
  /-- The drop counter of the last event that had one other than zero, see `keptDropped`. -/
  dropped  : UInt32
  waitSet  : WaitSet
  registry : Registry
  /-- A handler panicked while the lock was held; nothing ever clears this again. -/
  poisoned : Bool
  /-- The worker, or `none` where the caller polls. -/
  worker   : Option WorkerState
  deriving DecidableEq, Repr

namespace Session

open Host

/-- Takes the lock. It fails with `lockPoisoned` after a panic, and never waits: callers wake the
    worker first. -/
def lock (s : Session) : HostM Failure Unit := do
  if s.poisoned then
    log .error .session (s.name ++ ": unable to lock interface mutex")
    throw (.ofCode .lockPoisoned)

/-- `lock` succeeds without any effect on a session that is not poisoned. -/
theorem lock_of_sound {s : Session} (sound : s.poisoned = false) (h : Host) :
    s.lock h = .ok () h := by
  rw [lock, sound]
  rfl

/-- `lock` on a poisoned session fails, and its only effect is one log record. -/
theorem lock_of_poisoned {s : Session} (poisoned : s.poisoned = true) (h : Host) :
    s.lock h = .error (.ofCode .lockPoisoned) { h with
      journal := h.journal.push
        (.record ⟨.error, .session, s.name ++ ": unable to lock interface mutex"⟩) } := by
  rw [lock, poisoned]
  rfl

/-- A log record with the name of the interface in front. -/
def say {ε : Type} (s : Session) (level : Log.Level) (text : String) : HostM ε Unit :=
  log level .interface (s.name ++ ": " ++ text)

/-- The role by which `Item.read` reads from `fd`: only the transmit socket of the wait-set
    transmits. -/
def roleOf (fd : Fd) (s : Session) : SocketRole :=
  if s.waitSet.tx = some fd then .transmit else .receive

/-- The new value of `Session.dropped` after the event `e`; an event without a counter leaves
    the old one. -/
def keptDropped (dropped : UInt32) (e : Event) : UInt32 :=
  if e.dropped = 0 then dropped else e.dropped

end Session

end CanDriver
