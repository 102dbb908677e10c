import CanDriver.Text.Plain

namespace CanDriver.Log

/-!
# Log records

* `Level` — from errors to traces; `Level.shows` — a record of that level passes a limit;
* `Target` — the part of the program that speaks, with its `path`;
* `Record` — level, target and text; `Record.line` — how the command line prints one, without
  terminal controls.
-/

/-- How much a `Record` matters, from `error` down to `trace`. -/
inductive Level
  | error
  | warn
  | info
  | debug
  | trace
  deriving DecidableEq, Repr, Inhabited

namespace Level

/-- The place of a level: `error` has rank 0, and `trace` rank 4. -/
def rank (l : Level) : Nat := l.ctorIdx

/-- The name of a level as `Record.line` prints it. -/
def name : Level → String
  | .error => "ERROR"
  | .warn  => "WARN"
  | .info  => "INFO"
  | .debug => "DEBUG"
  | .trace => "TRACE"

end Level

/-- The least important `Level` that is kept; with `none` no record is. -/
abbrev Limit := Option Level

/-- A record of level `l` is kept under `limit`: its `rank` is at most that of the limit. -/
def Limit.shows (limit : Limit) (l : Level) : Bool :=
  match limit with
  | none     => false
  | some top => decide (l.rank ≤ top.rank)

/-- The part of the program that writes a `Record`. -/
inductive Target
  | interface
  | setup
  | link
  | poll
  | reception
  | registry
  | dispatch
  | session
  | transmission
  | worker
  | commandLine
  deriving DecidableEq, Repr, Inhabited

/-- The module path that readers of a log know a `Target` by. -/
def Target.path : Target → String
  | .interface    => "cansock::interface"
  | .setup        => "cansock::lifecycle"
  | .link         => "cansock::link"
  | .poll         => "cansock::poll"
  | .reception    => "cansock::reader"
  | .registry     => "cansock::registry"
  | .dispatch     => "cansock::dispatch"
  | .session      => "cansock::shared"
  | .transmission => "cansock::transmit"
  | .worker       => "cansock::worker"
  | .commandLine  => "cansock_cli"

/-- One line for the log: how much it matters, who writes it, and its text. -/
structure Record where
  level  : Level
  target : Target
  text   : String
  deriving DecidableEq, Repr

/-- How the command line prints a record: `[LEVEL path] text`, with the terminal controls taken out
    by `Plain.strip`. -/
def Record.line (r : Record) : String :=
  Plain.strip ("[" ++ r.level.name ++ " " ++ r.target.path ++ "] " ++ r.text ++ "\n")

end CanDriver.Log
