import CanDriver.Datum

namespace CanDriver.Toml

/-!
# Tables under construction

A table is defined once: by its header, by dotted keys, or only implied by a longer header.  How it
came about decides what may still be added.

* `Origin`, `Node`, `Entries` — tables with their origins;
* `alter dotted act path` — changes the table at the end of a path, creating those on the way;
* `put path key node` — a new entry below dotted keys;
* `addTable`, `addArrayTable` — what a header does;
* `Node.datum` — the finished value.
-/

/-- How a table came about, which decides what may still be added to it. -/
inductive Origin
  | header
  | implied
  | dotted
  deriving DecidableEq, Repr

/-- A finished value, or a table or an array of tables that may still grow. -/
inductive Node
  | leaf (d : Datum)
  | table (origin : Origin) (entries : List (String × Node))
  | tables (items : List (List (String × Node)))
  deriving Inhabited

/-- The entries of a table in the order in which they came; keys are unique. -/
abbrev Entries := List (String × Node)

def Entries.replace (key : String) (node : Node) (es : Entries) : Entries :=
  es.map fun e => if e.1 = key then (key, node) else e

/-- A new entry behind the others. The callers have checked that `key` is free. -/
def Entries.push (key : String) (node : Node) (es : Entries) : Entries := es ++ [(key, node)]

/-- Changes the table at the end of a path. Missing tables on the way are created; an array of
    tables stands for its last one; a value ends the path in failure, and so does, for dotted keys,
    a table that has a header. -/
def alter (dotted : Bool) (act : Origin → Entries → Option Entries) :
    List String → Origin → Entries → Option Entries
  | [], origin, es => act origin es
  | key :: path, _, es =>
    match es.lookup key with
    | none =>
      let origin := if dotted then Origin.dotted else .implied
      (alter dotted act path origin []).map fun sub => Entries.push key (.table origin sub) es
    | some (.leaf _) => none
    | some (.table origin sub) =>
      if dotted && origin = .header then none
      else
        (alter dotted act path origin sub).map fun sub =>
          Entries.replace key (.table origin sub) es
    | some (.tables items) =>
      match items.getLast? with
      | none => none
      | some last =>
        (alter dotted act path .header last).map fun last =>
          Entries.replace key (.tables (items.dropLast ++ [last])) es

/-- A new entry below dotted keys. The table at their end must be one that dotted keys made, and the
    key must be free. -/
def put (path : List String) (key : String) (node : Node) (es : Entries) : Option Entries :=
  alter true (fun origin sub =>
    if decide (origin = .dotted) = path.isEmpty then none
    else if (sub.lookup key).isSome then none
    else some (Entries.push key node sub)) path .header es

/-- Opens the table of a header: a new one, or one that was only implied so far. -/
def addTable (path : List String) (key : String) (root : Entries) : Option Entries :=
  alter false (fun _ sub =>
    match sub.lookup key with
    | none                      => some (Entries.push key (.table .header []) sub)
    | some (.table .implied es) => some (Entries.replace key (.table .header es) sub)
    | some _                    => none) path .header root

/-- Appends a table to the array that a double header names. -/
def addArrayTable (path : List String) (key : String) (root : Entries) : Option Entries :=
  alter false (fun _ sub =>
    match sub.lookup key with
    | none                 => some (Entries.push key (.tables [[]]) sub)
    | some (.tables items) => some (Entries.replace key (.tables (items ++ [[]])) sub)
    | some _               => none) path .header root

/-- `put` in the table that the last header named. -/
def putUnder (header path : List String) (key : String) (node : Node) (root : Entries) :
    Option Entries :=
  alter false (fun _ sub => put path key node sub) header .header root

/-! ### The finished value -/

mutual

/-- The value of a node, with the origins left out. -/
def Node.datum : Node → Datum
  | .leaf d       => d
  | .table _ es   => .table (entriesDatum es)
  | .tables items => .list (tablesDatum items)

/-- `Node.datum` for every entry of a table. -/
def entriesDatum : List (String × Node) → List (String × Datum)
  | []             => []
  | (key, n) :: es => (key, n.datum) :: entriesDatum es

/-- `entriesDatum` for every table of an array. -/
def tablesDatum : List (List (String × Node)) → List Datum
  | []      => []
  | t :: ts => .table (entriesDatum t) :: tablesDatum ts

end

end CanDriver.Toml
