import CanDriver.Interface.Lifecycle
import CanDriver.Session.Registration
import CanDriver.Transmission

namespace CanDriver

/-!
# Scenarios

One interface, driven step by step:

* `Operation` — a request of the caller, or an incident beside it;
* `Reply` — what a step answers;
* `Scenario` — the interface, until it is freed, and the event that was read last;
* `Scenario.step` — one step.  After each step the worker runs until it waits again;
* `Scenario.ofInterface`, `Scenario.finish` — the beginning, and what is left to do at the end.
-/

/-- What happens beside the caller. -/
inductive Incident
  /-- Items arrive at sockets, all before the worker looks. -/
  | deliver (items : List (Fd × Item))
  /-- The next wait reports `report` of a socket; zero stands for the truth. -/
  | override (fd : Fd) (report : Nat)
  /-- More outcomes are appended to the script of `Faults`. -/
  | script (faults : List (Point × List Int))
  /-- The wait of the worker times out. -/
  | tick
  /-- The `n`-th detached thread ends. -/
  | workerEnds (n : Nat)

/-- What the caller asks of the interface; one constructor for each function of its interface. -/
inductive Request
  | init (c : Config)
  | free
  | drop
  | registerRx (h : RxHandler) (fs : List Filter)
  | unregisterRx (h : RxHandler)
  | openRx (fs : List Filter)
  | closeRx (fd : Fd)
  | registerError (h : ErrorHandler)
  | unregisterError (h : ErrorHandler)
  | pollOnce (timeout : Option Duration)
  | poll (timeout : Option Duration)
  /-- Delivers an event, by default the one that `pollOnce` read last. -/
  | dispatch (e? : Option Event)
  /-- Sends a frame; `none` stands for one that could not be made. -/
  | transmit (f? : Option Frame)
  | setInterval (d : Duration)
  | txSocket
  | state

/-- One step of a scenario. -/
inductive Operation
  | incident (i : Incident)
  | request (r : Request)

/-- All that a caller can see of an interface. -/
structure Status where
  name          : String
  initialized   : Bool
  mode          : Option Mode
  config        : Config
  interval      : Duration
  dropped       : UInt32
  txBuffer      : Nat
  rxBuffer      : Nat
  openSockets   : List Fd
  workerTimeout : Option Nat
  deriving DecidableEq, Repr

/-- What a step answers. -/
inductive Reply
  | done
  | failed (f : Failure)
  | panicked
  /-- The interface is gone, and the request was not made. -/
  | freed
  | noFrame
  | socket (fd : Fd)
  | count (n : Nat)
  | truth (b : Bool)
  | read (size : Nat) (e : Event)
  | status (s : Status)
  deriving DecidableEq

/-- The reply to an operation that calls handlers. -/
def Reply.ofOutcome : Outcome → Reply
  | .done     => .done
  | .failed f => .failed f
  | .panicked => .panicked

/-- The reply to an operation that answers nothing but its failure. -/
def Reply.ofResult : Except Failure Unit → Reply
  | .ok ()   => .done
  | .error f => .failed f

/-- One interface, until it is freed, and the event that `pollOnce` writes over. -/
structure Scenario where
  interface? : Option Interface
  event      : Event

namespace Scenario

open Host

variable {ε : Type}

/-! ### Steps of the kernel -/

/-- `Kernel.enqueue` for each item. Answers how many found their socket open. -/
def deliverAll : List (Fd × Item) → HostM ε Nat
  | [] => return 0
  | (fd, item) :: rest => do
    let found := (← ask (·.socket? fd)).isSome
    modifyKernel (·.enqueue fd item)
    return (if found then 1 else 0) + (← deliverAll rest)

/-- Sets or clears the `override` of a socket. Answers whether the socket is open. -/
def setOverride (fd : Fd) (report : Nat) : HostM ε Bool := do
  let found := (← ask (·.socket? fd)).isSome
  let override := if report = 0 then none else some report
  modifyKernel (·.modifySocket fd fun s => { s with override := override })
  return found

/-- Appends to the script of each call that is named. -/
def addFaults (faults : List (Point × List Int)) : HostM ε Unit :=
  modifyKernel fun k =>
    { k with faults := faults.foldl (fun script (p, q) => script.add p q) k.faults }

/-! ### Steps of the interface -/

/-- Runs `action` on the session, and goes on with the old session where it fails. -/
def change (s : Session) (action : HostM Failure (Session × Reply)) :
    HostM ε (Session × Reply) := do
  match ← attempt action with
  | .ok (s, reply) => return (s, reply)
  | .error f       => return (s, .failed f)

/-- What every request on a session has in common: without one it fails, else the worker is woken
    first, as any caller of `lock` does. -/
def onSession (i : Interface) (action : Session → HostM ε (Session × Reply)) :
    HostM ε (Interface × Reply) := do
  match i.session? with
  | none   => return (i, .failed (.ofCode .notInitialized))
  | some s =>
    let (s, reply) ← action (← s.wake)
    return ({ i with session? := some s }, reply)

/-- Reads a `Status` off the interface and the kernel. -/
def statusOf (i : Interface) : HostM ε Status := do
  let openSockets ← ask (·.openFds)
  return {
    name          := i.name
    initialized   := i.session?.isSome
    mode          := i.mode?
    config        := i.config
    interval      := i.interval
    dropped       := i.dropped
    txBuffer      := i.txBuffer
    rxBuffer      := i.rxBuffer
    openSockets
    workerTimeout := i.workerTimeout? }

/-- `onSession` for an operation that answers nothing but its failure. -/
def onSessionUnit (i : Interface) (action : Session → HostM Failure Session) :
    HostM ε (Interface × Reply) :=
  onSession i fun s => change s do return (← action s, .done)

/-- `onSession` for an operation that answers a socket. -/
def onSessionFd (i : Interface) (action : Session → HostM Failure (Session × Fd)) :
    HostM ε (Interface × Reply) :=
  onSession i fun s => change s do
    let (s, fd) ← action s
    return (s, .socket fd)

/-- `onSession` for an operation that calls handlers. -/
def onSessionCalling (i : Interface) (action : Session → HostM ε (Session × Outcome)) :
    HostM ε (Interface × Reply) :=
  onSession i fun s => do
    let (s, outcome) ← action s
    return (s, .ofOutcome outcome)

/-- `Session.pollOnce` with the event of the scenario, which the answer replaces. -/
def pollOnce (timeout : Option Duration) (event : Event) (i : Interface) :
    HostM ε (Scenario × Reply) := do
  match i.session? with
  | none   => return (⟨some i, event⟩, .failed (.ofCode .notInitialized))
  | some s =>
    let (s, event, result) ← (← s.wake).pollOnce timeout event
    let i := { i with session? := some s }
    match result with
    | .ok size => return (⟨some i, event⟩, .read size event)
    | .error f => return (⟨some i, event⟩, .failed f)

/-- The descriptor of the transmit socket, which is asked for without the lock. -/
def txSocket (i : Interface) : Reply :=
  match i.session? with
  | none   => .failed (.ofCode .notInitialized)
  | some s => .socket s.tx

/-- A request that leaves the event of the scenario as it is. -/
def keep (event : Event) (action : HostM ε (Interface × Reply)) :
    HostM ε (Scenario × Reply) := do
  let (i, reply) ← action
  return (⟨some i, event⟩, reply)

/-- One request to an interface that is there. Only `free` and `drop` end without an interface, and
    only `pollOnce` changes the event. -/
def answer (event : Event) (i : Interface) : Request → HostM ε (Scenario × Reply)
  | .init c => keep event do
    let (i, result) ← i.init c
    return (i, .ofResult result)
  | .free => do
    let (_, result) ← i.shutdown
    return (⟨none, event⟩, .ofResult result)
  | .drop => do
    let _ ← i.shutdown
    return (⟨none, event⟩, .done)
  | .registerRx h fs      => keep event (onSessionFd i (·.registerRx h fs))
  | .unregisterRx h       => keep event (onSessionUnit i (·.unregisterRx h))
  | .openRx fs            => keep event (onSessionFd i (·.openRx fs))
  | .closeRx fd           => keep event (onSessionUnit i (·.closeRx fd))
  | .registerError h      => keep event (onSessionUnit i (·.registerError h))
  | .unregisterError h    => keep event (onSessionUnit i (·.unregisterError h))
  | .pollOnce timeout     => pollOnce timeout event i
  | .poll timeout         => keep event (onSessionCalling i (·.poll timeout))
  | .dispatch e?          => keep event (onSessionCalling i (·.dispatch (e?.getD event)))
  | .transmit none        => return (⟨some i, event⟩, .noFrame)
  | .transmit (some f)    => keep event do return (i, .ofResult (← attempt (i.transmit f)))
  | .setInterval d        => return (⟨some (i.withInterval d), event⟩, .done)
  | .txSocket             => return (⟨some i, event⟩, txSocket i)
  | .state                => keep event do return (i, .status (← statusOf i))

/-! ### All steps -/

/-- `Session.tick`, where there is a session. Answers whether its worker was waiting. -/
def tick (x : Scenario) : HostM ε (Scenario × Bool) := do
  match x.interface? with
  | some i =>
    match i.session? with
    | some s =>
      let (s, waited) ← s.tick
      return ({ x with interface? := some { i with session? := some s } }, waited)
    | none => return (x, false)
  | none => return (x, false)

/-- One operation, before the worker goes on. -/
def perform (x : Scenario) : Operation → HostM ε (Scenario × Reply)
  | .incident (.deliver items)     => return (x, .count (← deliverAll items))
  | .incident (.override fd value) => return (x, .truth (← setOverride fd value))
  | .incident (.script faults)     => do
    addFaults faults
    return (x, .done)
  | .incident .tick                => do
    let (x, waited) ← x.tick
    return (x, .truth waited)
  | .incident (.workerEnds n)      => return (x, .truth (← Session.endDetached n))
  | .request r                     =>
    match x.interface? with
    | some i => answer x.event i r
    | none   => return (x, .freed)

/-- `Session.settle`, where there is a session. -/
def settle (x : Scenario) : HostM ε Scenario := do
  match x.interface? with
  | some i =>
    match i.session? with
    | some s =>
      let s ← s.settle i.interval
      return { x with interface? := some { i with session? := some s } }
    | none => return x
  | none => return x

/-- One operation, after which the worker runs until it waits again. -/
def step (op : Operation) (x : Scenario) : HostM ε (Scenario × Reply) := do
  let (x, reply) ← x.perform op
  return (← x.settle, reply)

/-- The start of a scenario: no event was read yet. -/
def ofInterface (i : Interface) : Scenario := ⟨some i, .blank⟩

/-- Drops the interface, if there is one left, as the end of its scope does. -/
def finish (x : Scenario) : HostM ε Bool := do
  match x.interface? with
  | none   => return false
  | some i =>
    let _ ← i.shutdown
    return true

end Scenario

end CanDriver
