import CanDriver.Toml.Value

namespace CanDriver.Toml

/-!
# Documents

A document is a sequence of lines: entries, headers of tables, double headers of the tables of an
array, comments and empty lines.

* `Draft` — the tables so far and the header that entries go under;
* `line` — takes one line; `read text` — the table of a whole document.
-/

/-- The document up to some line: its tables, and the path of the header that entries go under. -/
structure Draft where
  root   : Entries
  header : List String

namespace Draft

def empty : Draft := ⟨[], []⟩

/-- The line `[path.last]`; `addTable` decides whether the table may be opened here. -/
def table (path : List String) (last : String) (d : Draft) : Option Draft := do
  return ⟨← addTable path last d.root, path ++ [last]⟩

/-- The line `[[path.last]]`, which appends a table to the array. -/
def arrayTable (path : List String) (last : String) (d : Draft) : Option Draft := do
  return ⟨← addArrayTable path last d.root, path ++ [last]⟩

/-- The line `path.last = value` below the header of `d`. -/
def entry (path : List String) (last : String) (value : Datum) (d : Draft) : Option Draft := do
  return { d with root := ← putUnder d.header path last (.leaf value) d.root }

end Draft

/-- One line that is not empty, after its leading blanks. The first one or two characters tell a
    header from an entry. -/
def line (d : Draft) (cs : List Char) : Option (Draft × List Char) :=
  match cs with
  | '[' :: '[' :: cs => do
    let ((path, last), cs) ← key cs
    match cs with
    | ']' :: ']' :: cs => return (← d.arrayTable path last, ← lineEnd? cs)
    | _                => none
  | '[' :: cs => do
    let ((path, last), cs) ← key cs
    match cs with
    | ']' :: cs => return (← d.table path last, ← lineEnd? cs)
    | _         => none
  | cs => do
    let ((path, last, value), cs) ← keyValue (value maxDepth) cs
    return (← d.entry path last value, ← lineEnd? cs)

/-- The lines of `cs`, at most `n` of them; every line has a character, so the length of the text
    is enough. -/
def lines : Nat → Draft → List Char → Option Draft
  | 0, _, _ => none
  | n + 1, d, cs =>
    let cs := blanks cs
    match comment cs with
    | [] => some d
    | rest =>
      match newline? rest with
      | some cs => lines n d cs
      | none => do
        let (d, cs) ← line d cs
        lines n d cs

/-- A byte-order mark at the start of a document does not count. -/
def skipMark : List Char → List Char
  | '\uFEFF' :: cs => cs
  | cs             => cs

/-- `read` on a list of characters. -/
def readChars (cs : List Char) : Option Datum := do
  let cs := skipMark cs
  let d ← lines (cs.length + 1) Draft.empty cs
  return .table (entriesDatum d.root)

/-- The table that a document describes, or `none` where any of its lines is refused. -/
def read (text : String) : Option Datum := readChars text.toList

end CanDriver.Toml
