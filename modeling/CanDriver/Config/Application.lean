import CanDriver.Config.Document
import CanDriver.Errno
import CanDriver.Text.Quoted
import CanDriver.Toml.Document

namespace CanDriver

/-!
# The configuration file

A document with a table `interface`, which holds the name and the settings of the interface, and a
table `dump`.  Both may be missing.

* `Application` — what the file says; `Application.ofDatum?`, `Application.read?`;
* `Config.read?` — a document that holds settings only;
* `Application.load` — a file's bytes, or the error of opening it, to its contents;
* `LoadFault` — the file cannot be read, or its text is refused.
-/

/-- A document that holds the keys of a `Config` at its top level. -/
def Config.read? (text : String) : Option Config := do
  Config.ofDatum? Dialect.direct (← Toml.read text)

/-- What the command line takes from a configuration file: `interface` with its `name` and settings,
    and `dump` with `filters` and `json`. -/
structure Application where
  name     : Option String
  settings : Config
  filters  : List String
  json     : Bool
  deriving DecidableEq, Repr

namespace Application

/-- What an empty file gives, and what is used where no file is named. -/
protected def default : Application where
  name     := none
  settings := Config.default
  filters  := []
  json     := false

instance : Inhabited Application := ⟨Application.default⟩

/-- The `interface` table. Its settings share the table with `name`, so they are read once the whole
    table is known, in `Dialect.buffered`. -/
def interfaceOf? (d : Datum) : Option (Option String × Config) := do
  let es ← d.entries?
  let get := fun key => es.lookup key
  let name ← Dialect.entry get "name" none fun d => (Dialect.text? d).map some
  let settings ← Config.ofFields? Dialect.buffered get
  return (name, settings)

/-- A list all of whose items are texts. -/
def texts? : Datum → Option (List String)
  | .list items => items.mapM Dialect.text?
  | _           => none

/-- The `dump` table; `filters` defaults to no filter and `json` to `false`. -/
def dumpOf? (d : Datum) : Option (List String × Bool) := do
  let get ← Dialect.direct.fields? ["filters", "json"] d
  let filters ← Dialect.entry get "filters" [] texts?
  let json ← Dialect.entry get "json" false Dialect.bool?
  return (filters, json)

/-- A missing table has the contents of an empty one, and other keys do not count. -/
def ofDatum? (d : Datum) : Option Application := do
  let es ← d.entries?
  let get := fun key => es.lookup key
  let (name, settings) ← Dialect.entry get "interface" (none, Config.default) interfaceOf?
  let (filters, json) ← Dialect.entry get "dump" ([], false) dumpOf?
  return { name, settings, filters, json }

/-- `ofDatum?` of the document that `Toml.read` finds in the text. -/
def read? (text : String) : Option Application := do
  ofDatum? (← Toml.read text)

end Application

/-! ### Loading -/

/-- Why `load` fails, with the path that its `message` quotes. -/
inductive LoadFault
  /-- The file cannot be opened or read. -/
  | unreadable (path : String) (e : Errno)
  /-- Its bytes are not UTF-8. -/
  | noText (path : String)
  /-- `read?` gives nothing for its text. -/
  | refused (path : String)
  deriving DecidableEq, Repr

namespace LoadFault

/-- The first line of the report. -/
def message : LoadFault → String
  | .unreadable path _ => "Failed to read config file: " ++ Quoted.quote path
  | .noText path       => "Failed to read config file: " ++ Quoted.quote path
  | .refused path      => "Failed to parse config file: " ++ Quoted.quote path

/-- The line below `message`. What the parser of documents says about a refused text is left out. -/
def cause? : LoadFault → Option String
  | .unreadable _ e => some e.message
  | .noText _       => some "stream did not contain valid UTF-8"
  | .refused _      => none

end LoadFault

/-- What opening and reading the file gave. -/
abbrev FileContents := Except Errno ByteArray

namespace Application

/-- Opening, decoding and reading in this order, each with its own `LoadFault`. -/
def load (path : String) (file : FileContents) : Except LoadFault Application :=
  match file with
  | .error e => .error (.unreadable path e)
  | .ok bytes =>
    match String.fromUTF8? bytes with
    | none => .error (.noText path)
    | some text =>
      match read? text with
      | none     => .error (.refused path)
      | some app => .ok app

end Application

end CanDriver
