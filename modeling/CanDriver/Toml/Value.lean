import CanDriver.Toml.Moment
import CanDriver.Toml.Quotation
import CanDriver.Toml.Tree

namespace CanDriver.Toml

/-!
# Values

* `key` — simple keys with dots between them;
* `value n` — a value that nests arrays and inline tables at most `n` deep;
* `maxDepth` — how deep documents may nest, which bounds dotted keys too.
-/

/-- How deep arrays, inline tables and dotted keys may go. -/
def maxDepth : Nat := 79

/-! ### Keys -/

/-- A character of a key without quotes. -/
def isKeyChar (c : Char) : Bool := c.isAlphanum || c = '_' || c = '-'

/-- A key without dots, quoted or bare. -/
def simpleKey (cs : List Char) : Option (String × List Char) :=
  match cs with
  | [] => none
  | c :: _ =>
    if c = '"' ∨ c = '\'' then (quotedKey cs).map fun (s, rest) => (String.ofList s, rest)
    else
      let (run, rest) := cs.span isKeyChar
      if run.isEmpty then none else some (String.ofList run, rest)

/-- `simpleKey` with blanks around it. -/
def keyPart (cs : List Char) : Option (String × List Char) :=
  (simpleKey (blanks cs)).map fun (k, rest) => (k, blanks rest)

/-- A dot and a further `keyPart`. -/
def dottedPart : Scan String
  | '.' :: cs => keyPart cs
  | _         => none

/-- The parts of a key before its last one, and the last one. A key of more than `maxDepth` parts
    is refused. -/
def key (cs : List Char) : Option ((List String × String) × List Char) := do
  let (first, cs) ← keyPart cs
  let (more, rest) := many dottedPart cs
  let parts := first :: more
  if maxDepth < parts.length then none
  else return ((parts.dropLast, parts.getLast?.getD first), rest)

/-! ### Arrays and inline tables -/

/-- The rest of an array, at most `n` items, with its closing bracket. -/
def items (value : Scan Datum) : Nat → List Char → Option (List Datum × List Char)
  | 0, _ => none
  | n + 1, cs =>
    match space cs with
    | ']' :: rest => some ([], rest)
    | cs => do
      let (d, cs) ← value cs
      match space cs with
      | ']' :: rest => some ([d], rest)
      | ',' :: cs => do
        let (ds, rest) ← items value n cs
        return (d :: ds, rest)
      | _ => none

/-- A key, an equals sign and a value. -/
def keyValue (value : Scan Datum) (cs : List Char) :
    Option ((List String × String × Datum) × List Char) := do
  let ((path, last), cs) ← key cs
  match cs with
  | '=' :: cs => do
    let (d, rest) ← value (blanks cs)
    return ((path, last, d), rest)
  | _ => none

/-- The entries of an inline table and its closing brace, at most `n` entries, added to those
    before them. -/
def inlineEntries (value : Scan Datum) :
    Nat → Entries → List Char → Option (Entries × List Char)
  | 0, _, _ => none
  | n + 1, es, cs => do
    let ((path, last, d), cs) ← keyValue value cs
    let es ← put path last (.leaf d) es
    match blanks cs with
    | '\x7d' :: rest => some (es, rest)
    | ',' :: cs      => inlineEntries value n es cs
    | _              => none

/-- The rest of an inline table, which has to close on its line. -/
def inlineTable (value : Scan Datum) (cs : List Char) : Option (Datum × List Char) :=
  match blanks cs with
  | '\x7d' :: rest => some (.table [], rest)
  | cs => do
    let (es, rest) ← inlineEntries value (cs.length + 1) [] cs
    return (.table (entriesDatum es), rest)

/-! ### All values -/

/-- A boolean, a string, a moment or a number, tried in this order. -/
def scalar (cs : List Char) : Option (Datum × List Char) :=
  match cs with
  | 't' :: 'r' :: 'u' :: 'e' :: rest        => some (.bool true, rest)
  | 'f' :: 'a' :: 'l' :: 's' :: 'e' :: rest => some (.bool false, rest)
  | _ =>
    match quotation cs with
    | some (s, rest) => some (.text (String.ofList s), rest)
    | none =>
      match moment cs with
      | some (_, rest) => some (.moment, rest)
      | none =>
        match floating cs with
        | some (_, rest) => some (.float, rest)
        | none           => (integer cs).map fun (n, rest) => (.int n, rest)

/-- A value with at most `n` levels of arrays and inline tables. -/
def value : Nat → List Char → Option (Datum × List Char)
  | 0, cs => scalar cs
  | n + 1, cs =>
    match cs with
    | '[' :: cs    => (items (value n) (cs.length + 1) cs).map fun (ds, rest) => (.list ds, rest)
    | '\x7b' :: cs => inlineTable (value n) cs
    | _            => scalar cs

end CanDriver.Toml
