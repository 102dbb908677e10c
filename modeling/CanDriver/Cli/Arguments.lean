import CanDriver.Text.Numeral

namespace CanDriver.Cli

/-!
# The command line

* `Switch` — the options, with `short?`, `long` and `takesValue`;
* `scan switches commands args` — what arguments say, from left to right, up to a command;
* `Arguments.parse` — the settings and the command that they ask for.  An option with a value, or one
  that turns something on, may be given once; what comes first decides between help and refusal.
-/

/-- The options of the program and of its commands. -/
inductive Switch
  | interface
  | config
  | verbose
  | quiet
  | filter
  | count
  | json
  | repetitions
  | gap
  | help
  | version
  deriving DecidableEq, Repr

namespace Switch

def short? : Switch → Option Char
  | .interface   => some 'i'
  | .config      => some 'c'
  | .verbose     => some 'v'
  | .quiet       => some 'q'
  | .filter      => some 'f'
  | .count       => some 'n'
  | .json        => none
  | .repetitions => some 'r'
  | .gap         => some 'g'
  | .help        => some 'h'
  | .version     => some 'V'

def long : Switch → String
  | .interface   => "interface"
  | .config      => "config"
  | .verbose     => "verbose"
  | .quiet       => "quiet"
  | .filter      => "filter"
  | .count       => "count"
  | .json        => "json"
  | .repetitions => "repeat"
  | .gap         => "gap"
  | .help        => "help"
  | .version     => "version"

def takesValue : Switch → Bool
  | .interface | .config | .filter | .count | .repetitions | .gap => true
  | .verbose | .quiet | .json | .help | .version                  => false

/-- The options before a command; see `ofDump`, `ofSend` and `ofInfo` for those behind it. -/
def ofProgram : List Switch := [.interface, .config, .verbose, .quiet, .help, .version]
def ofDump : List Switch := [.filter, .count, .json, .help]
def ofSend : List Switch := [.repetitions, .gap, .help]
def ofInfo : List Switch := [.help]

end Switch

/-! ### Scanning -/

/-- What one argument, or one letter of a cluster, says. -/
inductive Saying
  | on (s : Switch)
  | value (s : Switch) (text : String)
  /-- An argument that is no option. -/
  | plain (text : String)
  /-- An unknown option, a value where none is taken, or a missing value. -/
  | fault
  deriving DecidableEq, Repr

/-- `--name=value` in its two parts; `none` without an equals sign. -/
def splitValue (cs : List Char) : List Char × Option (List Char) :=
  match cs.dropWhile (· ≠ '=') with
  | _ :: value => (cs.takeWhile (· ≠ '='), some value)
  | []         => (cs, none)

/-- A cluster of short options. The last one may take the rest of the cluster as its value, or, if
    nothing is left, the next argument. -/
def scanShort (switches : List Switch) : List Char → List Saying × Option Switch
  | [] => ([], none)
  | c :: cs =>
    match switches.find? (·.short? = some c) with
    | none => ([.fault], none)
    | some s =>
      if s.takesValue then
        match cs with
        | []           => ([], some s)
        | '=' :: value => ([.value s (String.ofList value)], none)
        | value        => ([.value s (String.ofList value)], none)
      else
        let (more, pending) := scanShort switches cs
        (.on s :: more, pending)

/-- A long option. Its value stands behind `=` or in the next argument. -/
def scanLong (switches : List Switch) (cs : List Char) : List Saying × Option Switch :=
  let (name, value?) := splitValue cs
  match switches.find? (·.long.toList = name), value? with
  | none, _ => ([.fault], none)
  | some s, some value =>
    (if s.takesValue then [.value s (String.ofList value)] else [.fault], none)
  | some s, none => if s.takesValue then ([], some s) else ([.on s], none)

/-- A run of options, with the one at its end that still needs a value; `none` for an argument that
    is no option. -/
def scanOption? (switches : List Switch) (arg : String) : Option (List Saying × Option Switch) :=
  match arg.toList with
  | '-' :: '-' :: cs => some (scanLong switches cs)
  | '-' :: c :: cs   => some (scanShort switches (c :: cs))
  | _                => none

/-- The argument starts like an option, so it is no value of the one before it. -/
def looksLikeOption (arg : String) : Bool :=
  match arg.toList with
  | '-' :: _ :: _ => true
  | _             => false

/-- What arguments say, up to the first that names a command, and what follows that. Behind `--` no
    argument is an option or a command. -/
def scan (switches : List Switch) (commands : List String) :
    List String → List Saying × Option (String × List String)
  | [] => ([], none)
  | arg :: args =>
    if arg ∈ commands then ([], some (arg, args))
    else if arg = "--" then (args.map .plain, none)
    else
      match scanOption? switches arg with
      | none =>
        let (more, command) := scan switches commands args
        (.plain arg :: more, command)
      | some (sayings, none) =>
        let (more, command) := scan switches commands args
        (sayings ++ more, command)
      | some (sayings, some s) =>
        match args with
        | [] => (sayings ++ [.fault], none)
        | value :: args =>
          if looksLikeOption value then (sayings ++ [.fault], none)
          else
            let (more, command) := scan switches commands args
            (sayings ++ .value s value :: more, command)

/-! ### Meaning -/

/-- Why no command is run. -/
inductive Stop
  | help
  | version
  /-- The arguments make no sense, or they ask for a command that is not there. -/
  | refused
  deriving DecidableEq, Repr

/-- One of the three commands, with its own options filled in. -/
inductive Command
  | dump (filters : List String) (count : Option Nat) (json : Bool)
  | send (frame : String) (repetitions : Nat) (gap : Nat)
  | info
  deriving DecidableEq, Repr

/-- A command line that was understood: the options before the command, and the command. -/
structure Arguments where
  interface? : Option String
  config?    : Option String
  verbosity  : Nat
  quiet      : Bool
  command    : Command
  deriving DecidableEq, Repr

/-- The value of an option that may be given once; a second one is refused. -/
def once {α : Type} (old : Option α) (new : α) : Except Stop (Option α) :=
  match old with
  | none   => .ok (some new)
  | some _ => .error .refused

/-- `once` for an option without a value. -/
def turnOn (old : Bool) : Except Stop Bool := if old then .error .refused else .ok true

/-- A decimal `Numeral.read` whose faults all end in `refused`. -/
def numberBelow (bound : Nat) (text : String) : Except Stop Nat :=
  (Numeral.read 10 bound text.toList).mapError fun _ => .refused

/-- `numberBelow` that takes negative zero as well. -/
def signedNumberBelow (bound : Nat) (text : String) : Except Stop Nat :=
  (Numeral.readSigned 10 bound text.toList).mapError fun _ => .refused

/-- The options before the command, as far as they were read. -/
structure ProgramOptions where
  interface? : Option String
  config?    : Option String
  verbosity  : Nat
  quiet      : Bool

def ProgramOptions.add (o : ProgramOptions) : Saying → Except Stop ProgramOptions
  | .value .interface name => return { o with interface? := ← once o.interface? name }
  | .value .config path    =>
    if path.isEmpty then .error .refused else return { o with config? := ← once o.config? path }
  | .on .verbose           => .ok { o with verbosity := o.verbosity + 1 }
  | .on .quiet             => return { o with quiet := ← turnOn o.quiet }
  | .on .help              => .error .help
  | .on .version           => .error .version
  | _                      => .error .refused

/-- The options of `dump`, as far as they were read. -/
structure DumpOptions where
  filters : List String
  count?  : Option Nat
  json    : Bool

def DumpOptions.add (o : DumpOptions) : Saying → Except Stop DumpOptions
  | .value .filter text => .ok { o with filters := o.filters ++ [text] }
  | .value .count text  => return { o with count? := ← once o.count? (← numberBelow bound64 text) }
  | .on .json           => return { o with json := ← turnOn o.json }
  | .on .help           => .error .help
  | _                   => .error .refused

/-- The frame and the options of `send`, as far as they were read. -/
structure SendOptions where
  frame?       : Option String
  repetitions? : Option Nat
  gap?         : Option Nat

def SendOptions.add (o : SendOptions) : Saying → Except Stop SendOptions
  | .plain text              => return { o with frame? := ← once o.frame? text }
  | .value .repetitions text =>
    return { o with repetitions? := ← once o.repetitions? (← signedNumberBelow bound32 text) }
  | .value .gap text         => return { o with gap? := ← once o.gap? (← numberBelow bound64 text) }
  | .on .help                => .error .help
  | _                        => .error .refused

namespace Command

/-- The arguments that `scan` takes for a command. -/
def words : List String := ["dump", "send", "info", "help"]

def parseDump (args : List String) : Except Stop Command := do
  let o ← (scan Switch.ofDump [] args).1.foldlM DumpOptions.add ⟨[], none, false⟩
  return .dump o.filters o.count? o.json

def parseSend (args : List String) : Except Stop Command := do
  let o ← (scan Switch.ofSend [] args).1.foldlM SendOptions.add ⟨none, none, none⟩
  match o.frame? with
  | none       => .error .refused
  | some frame => return .send frame (o.repetitions?.getD 1) (o.gap?.getD 0)

def parseInfo (args : List String) : Except Stop Command :=
  match (scan Switch.ofInfo [] args).1 with
  | []             => .ok .info
  | .on .help :: _ => .error .help
  | _              => .error .refused

/-- `help` alone or with one command; help is asked for either way. -/
def parseHelp : List String → Except Stop Command
  | []     => .error .help
  | [word] => .error (if word ∈ words then .help else .refused)
  | _      => .error .refused

/-- The arguments behind the command `word`. -/
def parse (word : String) (args : List String) : Except Stop Command :=
  match word with
  | "dump" => parseDump args
  | "send" => parseSend args
  | "info" => parseInfo args
  | _      => parseHelp args

end Command

/-- The program's options are read before the command's, so a help option among them wins over a
    fault behind the command. -/
def Arguments.parse (args : List String) : Except Stop Arguments := do
  let (sayings, command?) := scan Switch.ofProgram Command.words args
  let o ← sayings.foldlM ProgramOptions.add ⟨none, none, 0, false⟩
  match command? with
  | none              => .error .refused
  | some (word, rest) =>
    let command ← Command.parse word rest
    return ⟨o.interface?, o.config?, o.verbosity, o.quiet, command⟩

end CanDriver.Cli
