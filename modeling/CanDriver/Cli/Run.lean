import CanDriver.Cli.Command

namespace CanDriver.Cli

/-!
# Running a command line

* `runArguments` — loads the configuration file, if one is named, and runs the command;
* `limitOf` — the log records that are printed;
* `run args file kernel` — what the program prints and how it exits, given the files and the kernel.
-/

open Host

variable {ε : Type}

/-- The version of both the program and the library. -/
def version : String := "0.1.0"

/-- The link that is used where neither the arguments nor the configuration file name one. -/
def defaultName : String := "vcan0"

/-- The most detailed level of log records that are printed: warnings, and more with each `-v`. -/
def limitOf (verbosity : Nat) (quiet : Bool) : Log.Limit :=
  if quiet then some .error
  else match verbosity with
    | 0 => some .warn
    | 1 => some .info
    | 2 => some .debug
    | _ => some .trace

/-- `Application.load` for the file that is named, else `Application.default`. -/
def loadConfig (file : String → FileContents) : Option String → HostM ε (Except Report Application)
  | none      => return .ok Application.default
  | some path => do
    log .info .commandLine ("Loading configuration from: " ++ Quoted.quote path)
    return (Application.load path (file path)).mapError .ofLoadFault

/-- Logs the versions, loads the configuration and runs the command. -/
def runArguments (a : Arguments) (file : String → FileContents) : HostM ε Printed := do
  log .info .commandLine ("CAN Socket CLI v" ++ version)
  log .info .commandLine ("Using cansock library v" ++ version)
  match ← loadConfig file a.config? with
  | .error r => return .ofReport r
  | .ok app  =>
    let name := (a.interface? <|> app.name).getD defaultName
    match a.command with
    | .dump filters count json => dump name app filters count json
    | .send frame times _      => send name app frame times
    | .info                    => info name app

/-- What a run of the program shows to the outside. -/
structure Shown where
  /-- The exit code; `none` while the program waits. -/
  exit   : Option Nat
  stdout : String
  /-- The log records and the report of a failure; `none` where only the exit code counts. -/
  stderr : Option String
  calls  : List KernelCall

/-- The call is one that `Shown.calls` leaves out: a wait, a receive or a close. -/
def isPassive : KernelCall → Bool
  | .wait .. | .receive .. | .close _ => true
  | _                                 => false

/-- Reads the command line and, where it asks for a command, runs that on a host with an
    empty journal. -/
def run (args : List String) (file : String → FileContents) (k : Kernel) : Shown :=
  match Arguments.parse args with
  | .error .help    => ⟨some 0, "", some "", []⟩
  | .error .version => ⟨some 0, "cansock-cli " ++ version ++ "\n", some "", []⟩
  | .error .refused => ⟨some 2, "", none, []⟩
  | .ok a =>
    let (p, _, journal) := observe (runArguments a file) k
    let shown := journal.records.filter fun r => (limitOf a.verbosity a.quiet).shows r.level
    let logged := String.join (shown.map Log.Record.line)
    let (exit, report) := match p.ending with
      | .finished => (some 0, "")
      | .failed r => (some 1, r.text)
      | .waiting  => (none, "")
    ⟨exit, p.output, some (logged ++ report), journal.calls.filter (!isPassive ·)⟩

end CanDriver.Cli
