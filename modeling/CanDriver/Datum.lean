namespace CanDriver

/-!
# Self-describing values

The values that configuration documents hold, before they are read as settings.

* `Datum` — a value; numbers with a fraction and dates are kept only as such, since no setting has
  one;
* `Datum.entries?` — the entries of a value that can stand for a record by name.
-/

/-- A value of a configuration document, as `Toml.read` finds it and `Config.ofDatum?` takes
    it apart. -/
inductive Datum
  | null
  | bool (b : Bool)
  | int (n : Int)
  /-- A number with a point or an exponent, of which nothing is kept. -/
  | float
  /-- A date, a time of day or both, of which nothing is kept. -/
  | moment
  | text (s : String)
  | list (items : List Datum)
  | table (entries : List (String × Datum))
  deriving Inhabited

namespace Datum

/-- The one key of a `moment` where `entries?` asks it for a record. -/
def momentKey : String := "$__toml_private_datetime"

/-- The entries by which a value stands for a record: those of a `table`, or the one entry
    `momentKey` of a `moment`. -/
def entries? : Datum → Option (List (String × Datum))
  | .table es => some es
  | .moment   => some [(momentKey, .moment)]
  | _         => none

/-- The value is a `table` without entries. -/
def isEmptyTable : Datum → Bool
  | .table es => es.isEmpty
  | _         => false

def isEmptyList : Datum → Bool
  | .list xs => xs.isEmpty
  | _        => false

def isNull : Datum → Bool
  | .null => true
  | _     => false

end Datum

end CanDriver
