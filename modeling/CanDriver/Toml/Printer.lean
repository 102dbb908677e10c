import CanDriver.Datum
import CanDriver.Text.Numeral

namespace CanDriver.Toml

/-!
# Printing settings

Settings are printed one entry a line in their order, and the tables among them behind the others,
each under its header after an empty line.  An integer beyond 64 bits with a sign has no written
form.

* `Setting` — the values that settings have;
* `render` — the text of settings.
-/

/-- A value of a setting that stands on one line. -/
inductive Scalar
  | bool (b : Bool)
  | int (n : Nat)
  /-- A word of letters, which needs no escapes between its quotes. -/
  | word (s : String)
  deriving DecidableEq, Repr

/-- A value of a setting: a scalar, or one level of table. -/
inductive Setting
  | scalar (v : Scalar)
  | table (entries : List (String × Scalar))
  deriving Repr

/-- The largest integer that a document can hold. -/
def maxInteger : Nat := maxInt64

namespace Scalar

/-- The written form; `none` for an integer above `maxInteger`. -/
def chars? : Scalar → Option (List Char)
  | .bool true  => some ['t', 'r', 'u', 'e']
  | .bool false => some ['f', 'a', 'l', 's', 'e']
  | .int n      => if n ≤ maxInteger then some (Numeral.decimal n) else none
  | .word s     => some ('"' :: (s.toList ++ ['"']))

end Scalar

/-- A line `key = value`. -/
def entryLine (e : String × Scalar) : Option (List Char) :=
  e.2.chars?.map fun v => e.1.toList ++ [' ', '=', ' '] ++ v ++ ['\n']

def entryLines : List (String × Scalar) → Option (List Char)
  | []      => some []
  | e :: es => do return (← entryLine e) ++ (← entryLines es)

/-- The entries that stand before the first header. -/
def scalars (settings : List (String × Setting)) : List (String × Scalar) :=
  settings.filterMap fun
    | (key, .scalar v) => some (key, v)
    | (_, .table _)    => none

/-- An empty line, the header `[key]` and `entryLines` of the table. -/
def tableLines (key : String) (entries : List (String × Scalar)) : Option (List Char) :=
  (entryLines entries).map fun body => '\n' :: '[' :: (key.toList ++ [']', '\n'] ++ body)

/-- `tableLines` for each table among the settings. -/
def tablesLines : List (String × Setting) → Option (List Char)
  | [] => some []
  | (key, .table es) :: rest => do return (← tableLines key es) ++ (← tablesLines rest)
  | (_, .scalar _) :: rest => tablesLines rest

/-- `render` as a list of characters. -/
def renderChars (settings : List (String × Setting)) : Option (List Char) := do
  return (← entryLines (scalars settings)) ++ (← tablesLines settings)

/-- The document that the settings print as: `scalars` first, tables behind them. It is `none` if
    any integer has no written form. -/
def render (settings : List (String × Setting)) : Option String :=
  (renderChars settings).map String.ofList

end CanDriver.Toml
