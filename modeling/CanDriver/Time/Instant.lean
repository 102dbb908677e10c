import CanDriver.Text.Numeral

namespace CanDriver

/-!
# Instants

A point in time as nanoseconds since the start of 1970, and its calendar text:

* `Instant.civil days` — year, month and day of a day count;
* `Instant.ofUnix? secs nanos` — the instant of a count of seconds, as far as the calendar goes;
* `Instant.text i` — `YYYY-MM-DDThh:mm:ss`, a fraction of three, six or nine digits where one is
  needed, and the offset `+00:00`.
-/

/-- Nanoseconds since 1970-01-01T00:00:00Z; there are no earlier instants. -/
structure Instant where
  nanos : Nat
  deriving DecidableEq, Repr, Inhabited

namespace Instant

def secs (i : Instant) : Nat := i.nanos / 1000000000
def subsecNanos (i : Instant) : Nat := i.nanos % 1000000000

/-- Year, month and day of the day `days` days after 1970-01-01. Years are counted from March, so
    that a leap day ends its year; `era` counts spans of 400 years. -/
def civil (days : Nat) : Nat × Nat × Nat :=
  let z := days + 719468
  let era := z / 146097
  let dayOfEra := z % 146097
  let yearOfEra := (dayOfEra - dayOfEra / 1460 + dayOfEra / 36524 - dayOfEra / 146096) / 365
  let dayOfYear := dayOfEra - (365 * yearOfEra + yearOfEra / 4 - yearOfEra / 100)
  let marchMonth := (5 * dayOfYear + 2) / 153
  let day := dayOfYear - (153 * marchMonth + 2) / 5 + 1
  let month := if marchMonth < 10 then marchMonth + 3 else marchMonth - 9
  let year := yearOfEra + era * 400 + (if month ≤ 2 then 1 else 0)
  (year, month, day)

/-- The last second of the year 262142, where the calendar ends. -/
def lastSecond : Nat := 8210266876799

example : civil (lastSecond / 86400) = (262142, 12, 31) ∧ lastSecond % 86400 = 86399 := by decide

/-- The instant `secs` seconds and `nanos` nanoseconds after the start of 1970. It is `none` after
    `lastSecond` and for a `nanos` of a second or more. -/
def ofUnix? (secs nanos : Nat) : Option Instant :=
  if secs ≤ lastSecond ∧ nanos < 1000000000 then some ⟨secs * 1000000000 + nanos⟩ else none

/-- The shortest of no, three, six and nine digits that gives `nanos` exactly. -/
def fractionText (nanos : Nat) : List Char :=
  if nanos = 0 then []
  else if nanos % 1000000 = 0 then '.' :: Numeral.decimalPadded 3 (nanos / 1000000)
  else if nanos % 1000 = 0 then '.' :: Numeral.decimalPadded 6 (nanos / 1000)
  else '.' :: Numeral.decimalPadded 9 nanos

/-- Date, `T`, time of day, `fractionText` and the offset `+00:00`. -/
def text (i : Instant) : String :=
  let (year, month, day) := civil (i.secs / 86400)
  let second := i.secs % 86400
  String.ofList <|
    Numeral.decimalPadded 4 year ++ '-' :: Numeral.decimalPadded 2 month ++
      '-' :: Numeral.decimalPadded 2 day ++
    'T' :: Numeral.decimalPadded 2 (second / 3600) ++
      ':' :: Numeral.decimalPadded 2 (second / 60 % 60) ++
      ':' :: Numeral.decimalPadded 2 (second % 60) ++
    fractionText i.subsecNanos ++ ['+', '0', '0', ':', '0', '0']

end Instant

end CanDriver
