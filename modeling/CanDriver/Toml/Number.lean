import CanDriver.Datum
import CanDriver.Text.Hex
import CanDriver.Toml.Scan
import CanDriver.Words

namespace CanDriver.Toml

/-!
# Numbers

* `digitRun p` — digits with single underscores between them;
* `integer` — decimal with an optional sign and no leading zero, or hexadecimal, octal and binary
  behind `0x`, `0o` and `0b`; the value fits 64 bits with a sign;
* `floating` — a decimal with a fraction, an exponent or both, or `inf` and `nan`; a positive
  value beyond the largest double is refused.
-/

/-- The rest of a run of digits with single underscores between them; the underscores are
    left out. -/
def digitRest (p : Char → Bool) : List Char → List Char × List Char
  | [] => ([], [])
  | '_' :: c :: cs =>
    if p c then
      let (run, rest) := digitRest p cs
      (c :: run, rest)
    else ([], '_' :: c :: cs)
  | c :: cs =>
    if p c then
      let (run, rest) := digitRest p cs
      (c :: run, rest)
    else ([], c :: cs)

/-- At least one digit, and then `digitRest`. -/
def digitRun (p : Char → Bool) : Scan (List Char)
  | c :: cs =>
    if p c then
      let (run, rest) := digitRest p cs
      some (c :: run, rest)
    else none
  | [] => none

/-- `Hex.digitValue?` finds a digit below `radix`. -/
def isDigitOf (radix : Nat) (c : Char) : Bool :=
  match Hex.digitValue? c with
  | some d => decide (d < radix)
  | none   => false

/-- The value of a run of digits, most significant first. -/
def valueOf (radix : Nat) (ds : List Char) : Nat :=
  ds.foldl (fun acc d => acc * radix + (Hex.digitValue? d).getD 0) 0

/-- An optional sign; `true` for minus. -/
def sign : List Char → Bool × List Char
  | '-' :: cs => (true, cs)
  | '+' :: cs => (false, cs)
  | cs        => (false, cs)

/-- Decimal digits without a leading zero; a zero stands alone. -/
def decimalRun : Scan (List Char)
  | '0' :: cs => some (['0'], cs)
  | cs        => digitRun (isDigitOf 10) cs

/-- The integers of 64 bits with a sign, which are those a document may hold. -/
def fits (n : Int) : Bool := decide (-(maxInt64 + 1 : Int) ≤ n) && decide (n ≤ maxInt64)

/-- The digits behind `0x`, `0o` or `0b`. -/
def radixInteger (radix : Nat) (cs : List Char) : Option (Int × List Char) := do
  let (ds, rest) ← digitRun (isDigitOf radix) cs
  let n : Int := valueOf radix ds
  if fits n then some (n, rest) else none

/-- A sign and `decimalRun`, with a value that `fits`. -/
def decimalInteger (cs : List Char) : Option (Int × List Char) := do
  let (negative, cs) := sign cs
  let (ds, rest) ← decimalRun cs
  let magnitude : Int := valueOf 10 ds
  let n := if negative then -magnitude else magnitude
  if fits n then some (n, rest) else none

/-- An integer in any of the four bases; only decimal ones take a sign. -/
def integer : Scan Int
  | '0' :: 'x' :: cs => radixInteger 16 cs
  | '0' :: 'o' :: cs => radixInteger 8 cs
  | '0' :: 'b' :: cs => radixInteger 2 cs
  | cs               => decimalInteger cs

/-! ### Numbers with a fraction -/

/-- `digits · 10 ^ exponent` rounds to no finite double: it is at least halfway from the largest one
    to the next power of two. -/
def overflows (digits : List Char) (exponent : Int) : Bool :=
  let ds := digits.dropWhile (· = '0')
  let order : Int := ds.length + exponent
  let limit := Nat.pow 2 1024 - Nat.pow 2 970
  if ds.isEmpty || order < 309 then false
  else if order > 309 then true
  else
    let n := valueOf 10 ds
    if 0 ≤ exponent then decide (limit ≤ n * Nat.pow 10 exponent.toNat)
    else decide (limit * Nat.pow 10 (-exponent).toNat ≤ n)

/-- The exponent behind its letter. It may have leading zeros. -/
def exponent : Scan Int
  | e :: cs =>
    if e = 'e' ∨ e = 'E' then do
      let (negative, cs) := sign cs
      let (ds, rest) ← digitRun (isDigitOf 10) cs
      let n : Int := valueOf 10 ds
      some (if negative then -n else n, rest)
    else none
  | [] => none

/-- A decimal with a fraction, an exponent or both. -/
def decimalFloat (cs : List Char) : Option (Unit × List Char) := do
  let (negative, cs) := sign cs
  let (whole, cs) ← decimalRun cs
  let (fraction, power, rest) ←
    match cs with
    | '.' :: cs => do
      let (fraction, cs) ← digitRun (isDigitOf 10) cs
      match exponent cs with
      | some (power, rest) => some (fraction, power, rest)
      | none               => some (fraction, 0, cs)
    | cs => do
      let (power, rest) ← exponent cs
      some ([], power, rest)
  if !negative && overflows (whole ++ fraction) (power - fraction.length) then none
  else some ((), rest)

/-- `inf` or `nan`, perhaps with a sign. -/
def specialFloat (cs : List Char) : Option (Unit × List Char) :=
  match (sign cs).2 with
  | 'i' :: 'n' :: 'f' :: rest => some ((), rest)
  | 'n' :: 'a' :: 'n' :: rest => some ((), rest)
  | _                         => none

/-- A number that is no integer. No setting is one, so its value is not kept. -/
def floating (cs : List Char) : Option (Unit × List Char) :=
  decimalFloat cs <|> specialFloat cs

end CanDriver.Toml
