import CanDriver.Cli.Run

/-!
# The program

Runs a command line on a machine with one virtual link, and prints what the command shows.
-/

namespace CanDriver.Main

open Cli

/-- A machine with one virtual link, `vcan0`, that carries FD frames. -/
def machine : Kernel := Kernel.start [⟨"vcan0", 1, fdSize⟩] Faults.none []

/-- The number of the system error behind a failed file access; `inputOutput` where it is
    not known. -/
def errnoOf : IO.Error → Errno
  | .noFileOrDirectory _ code _       => code.toNat
  | .permissionDenied _ code _        => code.toNat
  | .inappropriateType _ code _       => code.toNat
  | .otherError code _                => code.toNat
  | _                                 => Errno.inputOutput

/-- The bytes of a file, or the error of opening or reading it. -/
def contentsOf (path : String) : IO FileContents := do
  try return .ok (← IO.FS.readBinFile path)
  catch e => return .error (errnoOf e)

/-- The path of the configuration file that a command line names. -/
def configPath? (args : List String) : Option String :=
  match Arguments.parse args with
  | .ok a    => a.config?
  | .error _ => none

def usage : String := "usage: cansock-cli [-i IFACE] [-c FILE] [-v] [-q] dump|send|info ...\n"

/-- The exit code; a program that would wait for frames ends here. -/
def exitCode (shown : Shown) : UInt32 := UInt32.ofNat (shown.exit.getD 0)

end CanDriver.Main

open CanDriver CanDriver.Main in
def main (args : List String) : IO UInt32 := do
  let contents ← match configPath? args with
    | some path => contentsOf path
    | none      => pure (.error Errno.noFile)
  let shown := Cli.run args (fun _ => contents) machine
  IO.print shown.stdout
  IO.eprint (shown.stderr.getD usage)
  return exitCode shown
