import CanDriver.Session.Release

namespace CanDriver.Interleaving

/-!
# The lock, the wake-up and the worker, step by step

`Session.settle` lets the worker run to its next wait in one go.  Here the same course is taken
apart into single steps, which callers, the worker and the release of the session take in any
order.

* `CallerPhase`, `WorkerPhase`, `ReleasePhase` — how far each of them is;
* `State` — the phases, what they share (the run flag, the number of contenders, the wake-up and the
  lock), and what the lock guards: the session, on a host;
* `Step policy` — one step of one of them, or of the host beside them;
* `Steps policy` — steps one after the other;
* `Reachable policy n` — the states that steps lead to, from a worker that was just started and
  `n` callers.
-/

/-- How far a caller is in taking the lock and giving it back. -/
inductive CallerPhase
  | idle
  /-- `contenders` includes it, and it sends the wake-up next. -/
  | counted
  /-- The wake-up is sent, and it takes the lock as soon as that is free. -/
  | asking
  | holding
  /-- It still has the lock, but `contenders` no longer includes it. -/
  | leaving
  /-- The lock is poisoned, and `contenders` still includes the caller. -/
  | refused
  deriving DecidableEq, Repr

/-- How far the worker is in its loop. -/
inductive WorkerPhase
  /-- It looks at the run flag next. -/
  | checking
  /-- It takes the lock as soon as that is free. -/
  | asking
  /-- It has the lock and enters `poll(2)` next. -/
  | entering
  | waiting
  /-- Its wait has ended with `result`, and it calls `Session.afterWait` next. -/
  | serving (result : Except Errno (List Reported))
  /-- The wait reported the wake-up, which it takes back next. -/
  | draining
  /-- It gives the lock back next, perhaps because of a panic. -/
  | leaving (panicked : Bool)
  /-- It looks at `contenders` next. -/
  | yielding
  /-- There were contenders; it looks at the run flag and then at `contenders` again. -/
  | backingOff
  | ended

/-- How far the release of the session is. -/
inductive ReleasePhase
  | idle
  /-- The run flag is down, and the wake-up is sent next. -/
  | stopping
  /-- The wake-up is sent; by the policy `join` the worker has to end first. -/
  | joining
  /-- It takes the lock as soon as that is free. -/
  | asking
  | holding
  /-- The wait-set is empty, and it gives the lock back next. -/
  | leaving
  | done
  deriving DecidableEq, Repr

/-- Who holds the lock; callers are told apart by their number. -/
inductive Party
  | caller (i : Nat)
  | worker
  | release
  deriving DecidableEq, Repr

/-- Where the worker goes after `Session.afterWait`: straight out after a panic, else by way of
    `draining` if the wait reported the wake-up. -/
def WorkerPhase.afterServing (result : Except Errno (List Reported)) : Outcome → WorkerPhase
  | .panicked => .leaving true
  | _         =>
    match result with
    | .ok ready => if .wakeUp ∈ ready then .draining else .leaving false
    | .error _  => .leaving false

/-- The phases of all parties, what they share without the lock, and the session and host that the
    lock guards. -/
structure State where
  callers    : List CallerPhase
  worker     : WorkerPhase
  release    : ReleasePhase
  run        : Bool
  contenders : Nat
  /-- A wake-up was sent and not taken back, so every wait of the worker ends at once. -/
  signalled  : Bool
  lock       : Option Party
  session    : Session
  host       : Host
  /-- How often the worker has taken the lock for a poll. -/
  polls      : Nat

namespace State

/-- A worker that was just started for `session`, and `n` callers that have not asked for
    the lock. -/
def start (n : Nat) (session : Session) (host : Host) : State where
  callers    := List.replicate n .idle
  worker     := .checking
  release    := .idle
  run        := true
  contenders := 0
  signalled  := false
  lock       := none
  session    := session
  host       := host
  polls      := 0

def caller? (s : State) (i : Nat) : Option CallerPhase := s.callers[i]?

/-- The caller `i` goes on to the phase `p`. -/
def move (s : State) (i : Nat) (p : CallerPhase) : State := { s with callers := s.callers.set i p }

/-- What a wait of the worker can end with: any failure, or what is ready at that moment, the
    wake-up last. -/
def Reports (s : State) : Except Errno (List Reported) → Prop
  | .error _  => True
  | .ok ready =>
    ready = (s.host.kernel.ready (s.session.waitSet.descriptors none)).map .socket ++
      if s.signalled then [.wakeUp] else []

end State

open State

/-- One step of one party. The names of the hypotheses say what it has to wait for; `Step.use` and
    `Step.arrive` change what the model leaves open. -/
inductive Step (policy : ShutdownPolicy) : State → State → Prop
  -- Callers.
  | count {s : State} {i : Nat} (h : s.caller? i = some .idle) :
      Step policy s { s.move i .counted with contenders := s.contenders + 1 }
  | wake {s : State} {i : Nat} (h : s.caller? i = some .counted) :
      Step policy s { s.move i .asking with signalled := true }
  | acquire {s : State} {i : Nat} (h : s.caller? i = some .asking) (free : s.lock = none)
      (sound : s.session.poisoned = false) :
      Step policy s { s.move i .holding with lock := some (.caller i) }
  /-- A caller that holds the lock does anything to the session, which may end in a panic; but the
      release has the session to itself. -/
  | use {s : State} {i : Nat} (session : Session) (host : Host) (h : s.caller? i = some .holding)
      (unreleased : s.release = .idle) : Step policy s { s with session, host }
  | uncount {s : State} {i : Nat} (h : s.caller? i = some .holding) :
      Step policy s { s.move i .leaving with contenders := s.contenders - 1 }
  | unlock {s : State} {i : Nat} (h : s.caller? i = some .leaving) :
      Step policy s { s.move i .idle with lock := none }
  | refuse {s : State} {i : Nat} (h : s.caller? i = some .asking) (free : s.lock = none)
      (poisoned : s.session.poisoned = true) : Step policy s (s.move i .refused)
  | giveUp {s : State} {i : Nat} (h : s.caller? i = some .refused) :
      Step policy s { s.move i .idle with contenders := s.contenders - 1 }
  -- The worker.
  | check {s : State} (h : s.worker = .checking) :
      Step policy s { s with worker := if s.run then .asking else .ended }
  | workerAcquire {s : State} (h : s.worker = .asking) (free : s.lock = none)
      (sound : s.session.poisoned = false) :
      Step policy s
        { s with worker := .entering, lock := some .worker, polls := s.polls + 1 }
  | workerRefused {s : State} (h : s.worker = .asking) (free : s.lock = none)
      (poisoned : s.session.poisoned = true) : Step policy s { s with worker := .ended }
  | enterWait {s : State} (h : s.worker = .entering) :
      Step policy s { s with worker := .waiting }
  | leaveWait {s : State} {result : Except Errno (List Reported)} (h : s.worker = .waiting)
      (reports : s.Reports result) : Step policy s { s with worker := .serving result }
  | serve {s : State} {result : Except Errno (List Reported)} {session : Session}
      {outcome : Outcome} {host : Host} (h : s.worker = .serving result)
      (served : (s.session.afterWait result : HostM Empty _) s.host = .ok (session, outcome) host) :
      Step policy s { s with worker := .afterServing result outcome, session, host }
  | drain {s : State} (h : s.worker = .draining) :
      Step policy s { s with worker := .leaving false, signalled := false }
  | workerUnlock {s : State} {panicked : Bool} (h : s.worker = .leaving panicked) :
      Step policy s { s with worker := if panicked then .ended else .yielding, lock := none }
  | look {s : State} (h : s.worker = .yielding) :
      Step policy s { s with worker := if s.contenders = 0 then .checking else .backingOff }
  | lookAgain {s : State} (h : s.worker = .backingOff) :
      Step policy s { s with worker := if s.run then .yielding else .checking }
  -- The release of the session.
  | lower {s : State} (h : s.release = .idle) :
      Step policy s { s with release := .stopping, run := false }
  | wakeToStop {s : State} (h : s.release = .stopping) :
      Step policy s { s with release := .joining, signalled := true }
  | join {s : State} (h : s.release = .joining) (ended : policy = .join → s.worker = .ended) :
      Step policy s { s with release := .asking }
  | releaseAcquire {s : State} (h : s.release = .asking) (free : s.lock = none)
      (sound : s.session.poisoned = false) :
      Step policy s { s with release := .holding, lock := some .release }
  | releaseRefused {s : State} (h : s.release = .asking) (free : s.lock = none)
      (poisoned : s.session.poisoned = true) : Step policy s { s with release := .done }
  | clear {s : State} {session : Session} {host : Host} (h : s.release = .holding)
      (cleared : (s.session.emptyWaitSet : HostM Empty _) s.host = .ok session host) :
      Step policy s { s with release := .leaving, session, host }
  | releaseUnlock {s : State} (h : s.release = .leaving) :
      Step policy s { s with release := .done, lock := none }
  /-- Beside them datagrams arrive, calls are made to fail, and others use the kernel
      and the log. -/
  | arrive {s : State} (host : Host)
      (silent : host.journal.callbacks = s.host.journal.callbacks) : Step policy s { s with host }

/-- The reflexive and transitive closure of `Step`, extended at the end as runs grow. -/
inductive Steps (policy : ShutdownPolicy) : State → State → Prop
  | refl {s : State} : Steps policy s s
  | tail {s t u : State} (h : Steps policy s t) (next : Step policy t u) : Steps policy s u

/-- `Steps` lead to `s` from `State.start n` for some session and host. Invariants are stated
    of these. -/
def Reachable (policy : ShutdownPolicy) (n : Nat) (s : State) : Prop :=
  ∃ (session : Session) (host : Host), Steps policy (.start n session host) s

end CanDriver.Interleaving
