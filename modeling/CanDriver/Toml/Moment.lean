import CanDriver.Toml.Number

namespace CanDriver.Toml

/-!
# Dates and times

* `date` — `YYYY-MM-DD`, a day that exists;
* `timeOfDay` — `hh:mm:ss` with an optional fraction;
* `offset` — `Z` or a signed `hh:mm`;
* `moment` — a date, a time of day, or a date with a time and perhaps an offset.
-/

/-- The number of exactly `n` decimal digits at the front of the text. -/
def digitsExactly (n : Nat) (cs : List Char) : Option (Nat × List Char) :=
  let ds := cs.take n
  if ds.length = n ∧ ds.all (isDigitOf 10) then some (valueOf 10 ds, cs.drop n) else none

/-- `digitsExactly` whose value lies between `low` and `high`. -/
def digitsWithin (n low high : Nat) (cs : List Char) : Option (Nat × List Char) :=
  (digitsExactly n cs).filter fun found => decide (low ≤ found.1) && decide (found.1 ≤ high)

/-- The text behind the character `c`. -/
def exactly (c : Char) : List Char → Option (List Char)
  | x :: cs => if x = c then some cs else none
  | []      => none

def daysOfMonth (year month : Nat) : Nat :=
  if month = 2 then
    if year % 4 = 0 ∧ (year % 100 ≠ 0 ∨ year % 400 = 0) then 29 else 28
  else if month = 4 ∨ month = 6 ∨ month = 9 ∨ month = 11 then 30
  else 31

/-- `YYYY-MM-DD`, for a day that exists. -/
def date (cs : List Char) : Option (List Char) := do
  let (year, cs) ← digitsExactly 4 cs
  let cs ← exactly '-' cs
  let (month, cs) ← digitsWithin 2 1 12 cs
  let cs ← exactly '-' cs
  let (_, cs) ← digitsWithin 2 1 (daysOfMonth year month) cs
  return cs

/-- The text behind a point and digits; a point without digits is not taken. -/
def secondFraction (cs : List Char) : List Char :=
  match cs with
  | '.' :: rest =>
    let (ds, rest) := rest.span (isDigitOf 10)
    if ds.isEmpty then cs else rest
  | _ => cs

/-- `hh:mm:ss` and perhaps a fraction; second 60 is a leap second. -/
def timeOfDay (cs : List Char) : Option (List Char) := do
  let (_, cs) ← digitsWithin 2 0 23 cs
  let cs ← exactly ':' cs
  let (_, cs) ← digitsWithin 2 0 59 cs
  let cs ← exactly ':' cs
  let (_, cs) ← digitsWithin 2 0 60 cs
  return secondFraction cs

/-- The text behind `Z` or a signed `hh:mm`, if there is one. -/
def offset (cs : List Char) : List Char :=
  match cs with
  | c :: rest =>
    if c = 'Z' ∨ c = 'z' then rest
    else if c = '+' ∨ c = '-' then
      let found := do
        let (_, rest) ← digitsWithin 2 0 23 rest
        let rest ← exactly ':' rest
        let (_, rest) ← digitsWithin 2 0 59 rest
        return rest
      found.getD cs
    else cs
  | [] => cs

/-- A date, a time of day or both. No setting is a moment, so its value is not kept. -/
def moment (cs : List Char) : Option (Unit × List Char) :=
  match date cs with
  | some rest =>
    match rest with
    | c :: time =>
      if c = 'T' ∨ c = 't' ∨ c = ' ' then
        match timeOfDay time with
        | some rest => some ((), offset rest)
        | none      => some ((), rest)
      else some ((), rest)
    | [] => some ((), rest)
  | none => (timeOfDay cs).map fun rest => ((), rest)

end CanDriver.Toml
