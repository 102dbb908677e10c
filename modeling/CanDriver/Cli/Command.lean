import CanDriver.Cli.Arguments
import CanDriver.Cli.Listing
import CanDriver.Cli.Report
import CanDriver.Interface.Lifecycle
import CanDriver.Session.Registration
import CanDriver.Transmission

namespace CanDriver.Cli

/-!
# Commands

* `dump` — prints what a receive socket delivers, with the help of a worker;
* `send` — sends a frame a number of times, trying again while the transmit queue is full;
* `info` — prints what an interface was granted.

Each initialises an interface that somebody else administers, and releases it on every way out.
-/

open Host

/-- How a command ends; the exit code follows from it. -/
inductive Ending
  | finished
  | failed (r : Report)
  /-- It waits for frames that do not come, so it never ends by itself. -/
  | waiting
  deriving DecidableEq, Repr

/-- The standard output of a command, and how it ended. -/
structure Printed where
  output : String
  ending : Ending
  deriving DecidableEq, Repr

def Printed.ofReport (r : Report) : Printed := ⟨"", .failed r⟩

variable {ε : Type}

/-- Reports the failure of `action` as the cause of `context`. -/
def within {α : Type} (context : String) (action : HostM Failure α) : HostM Report α :=
  orElse action fun f => throw ((Report.ofFailure f).within context)

/-- Reports the failure of `action` without a context of its own. -/
def plainly {α : Type} (action : HostM Failure α) : HostM Report α :=
  orElse action fun f => throw (.ofFailure f)

/-- A new interface on an external link, after `Interface.init`. -/
def initialised (name : String) (c : Config) : HostM Report Interface := do
  let i ← Interface.named name .external
  let (i, result) ← i.init c
  match result with
  | .ok ()   => return i
  | .error f => throw ((Report.ofFailure f).within ("Failed to initialise " ++ name))

/-- Shuts `i` down where `action` fails; the report is that of `action`, not of the shutdown. -/
def orRelease {α : Type} (i : Interface) (action : HostM Report α) : HostM Report α :=
  orElse action fun r => do
    let _ ← i.shutdown
    throw r

/-- `Interface.shutdown`, with its failure as a report. -/
def free (i : Interface) : HostM Report Unit := do
  let (_, result) ← i.shutdown
  match result with
  | .ok ()   => return ()
  | .error f => throw (.ofFailure f)

/-- Runs `action`, which answers its output and whether it has come to its end. -/
def printed (action : HostM Report (String × Bool)) : HostM ε Printed := do
  match ← attempt action with
  | .ok (output, true)  => return ⟨output, .finished⟩
  | .ok (output, false) => return ⟨output, .waiting⟩
  | .error r            => return .ofReport r

/-! ### Dumping -/

/-- `parseFilter` for each text. Without any text the one filter is `Filter.all`. -/
def readFilters (texts : List String) : Except Report (List Filter) :=
  if texts.isEmpty then .ok [.all]
  else (texts.mapM parseFilter).mapError .ofSpecFault

/-- The handler of the one receive socket of `dump`. It sends over a channel and never panics. -/
def dumpHandler : RxHandler := ⟨"dump", .returns⟩

/-- What `dumpHandler` sends when it is called: the record of the frame that it is handed. -/
def sent? : Callback → Option FrameRecord
  | .frame h _ f time => if h = dumpHandler then some (.of f time) else none
  | _                 => none

/-- The loop of `dump` goes on after `received` records. It has no end without a count. -/
def wantsMore (count? : Option Nat) (received : Nat) : Bool := count?.all (received < ·)

/-- Receives records from the channel for as long as more are wanted. Answers those that it
    received, and whether it has come to its end; else it waits for the channel. -/
def receive (count? : Option Nat) (received : Nat) :
    (channel : List FrameRecord) → List FrameRecord × Bool
  | [] => ([], !wantsMore count? received)
  | r :: channel =>
    if wantsMore count? received then
      let (more, ended) := receive count? (received + 1) channel
      (r :: more, ended)
    else ([], true)

/-- Registers `dumpHandler`, and with it the receive socket, then an error handler that logs. -/
def listen (name : String) (filters : List Filter) (i : Interface) : HostM Report Interface := do
  let (i, _) ← within ("Failed to register receive handler on " ++ name)
    (i.update (·.registerRx dumpHandler filters))
  let (i, _) ← plainly (i.update fun s => do return (← s.registerError .warner, ()))
  let count := Numeral.text filters.length
  log .info .commandLine ("Dumping " ++ name ++ " with " ++ count ++ " filter(s)")
  return i

/-- Lets the worker serve all that is pending before the loop of `dump` looks at the channel. -/
def receiveAll (i : Interface) : HostM ε Interface := do
  match i.session? with
  | none   => return i
  | some s => return { i with session? := some (← s.settle i.interval) }

/-- Reads the filters, those of the configuration file where no text is given; initialises the
    interface with a worker, listens, and prints what `receive` finds. -/
def dump (name : String) (app : Application) (texts : List String) (count? : Option Nat)
    (json : Bool) : HostM ε Printed :=
  printed do
    match readFilters (if texts.isEmpty then app.filters else texts) with
    | .error r     => throw r
    | .ok filters  =>
      let i ← initialised name { app.settings with polled := false }
      let i ← orRelease i (listen name filters i)
      let i ← receiveAll i
      let channel := (← get).journal.callbacks.filterMap sent?
      let (records, ended) := receive count? 0 channel
      let output := String.join (records.map (Listing.line name (json || app.json)))
      if !ended then return (output, false)
      if i.dropped ≠ 0 then
        let n := Numeral.text i.dropped.toNat
        log .warn .commandLine (n ++ " frames dropped by the kernel")
      free i
      return (output, true)

/-! ### Sending -/

/-- How often a frame is tried again while the transmit queue is full. -/
def maxRetries : Nat := 1000

/-- Sends `f`, with `n` retries left. Only a full transmit queue, `Failure.retryLater`, is
    worth a retry. -/
def sendOnce (i : Interface) (f : Frame) : Nat → HostM Failure Unit
  | 0     => i.transmit f
  | n + 1 => do
    match ← attempt (i.transmit f) with
    | .ok ()   => return ()
    | .error e => if e.retryLater then sendOnce i f n else throw e

/-- Sends `f` once for each of the `left` times out of `times`; the first failure ends it. -/
def sendAll (i : Interface) (f : Frame) (times : Nat) : Nat → HostM Failure Unit
  | 0        => return ()
  | left + 1 => do
    sendOnce i f maxRetries
    let done := Numeral.text (times - left)
    let all := Numeral.text times
    log .debug .commandLine ("Sent " ++ f.text ++ " (" ++ done ++ "/" ++ all ++ ")")
    sendAll i f times left

/-- Reads the frame, initialises a polled interface that has FD frames where the frame needs them,
    sends it `times` times and releases the interface. -/
def send (name : String) (app : Application) (text : String) (times : Nat) : HostM ε Printed :=
  printed do
    match FrameSpec.parse text with
    | .error fault => throw (.ofSpecFault fault)
    | .ok spec     =>
      let settings := { app.settings with polled := true, fd := spec.fd || app.settings.fd }
      let i ← initialised name settings
      orRelease i (within ("Failed to send " ++ text) (sendAll i spec.frame times times))
      free i
      return ("", true)

/-! ### Showing settings -/

/-- Prints `Listing.settings` of a polled interface. A receive socket is opened only to find out the
    size of its buffer. -/
def info (name : String) (app : Application) : HostM ε Printed :=
  printed do
    let i ← initialised name { app.settings with polled := true }
    let (i, fd) ← orRelease i (plainly (i.update (·.openRx [])))
    let s ← orRelease i (plainly i.session)
    let output := Listing.settings s.tx i
    let (i, _) ← orRelease i (plainly (i.update fun s => do return (← s.closeRx fd, ())))
    free i
    return (output, true)

end CanDriver.Cli
