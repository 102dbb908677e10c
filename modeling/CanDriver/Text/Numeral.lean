import CanDriver.Text.Hex
import CanDriver.Words

namespace CanDriver.Numeral

/-!
# Reading whole numbers

A numeral is an optional plus sign and at least one digit.  `read radix bound` gives the value if
it is below `bound`; otherwise the first fault met from the left decides:

* `Fault` — no text, a character that is no digit, a value at or above the bound;
* `decimal n` — the digits of a number in base ten.
-/

/-- Why `read` refuses a text; the first fault from the left decides. -/
inductive Fault
  | empty
  | invalidDigit
  | tooLarge
  deriving DecidableEq, Repr

/-- The text of the error as the user sees it behind the name of an argument. -/
def Fault.message : Fault → String
  | .empty        => "cannot parse integer from empty string"
  | .invalidDigit => "invalid digit found in string"
  | .tooLarge     => "number too large to fit in target type"

/-- `Hex.digitValue?`, restricted to the digits below `radix`. -/
def digit? (radix : Nat) (c : Char) : Option Nat :=
  (Hex.digitValue? c).filter (· < radix)

/-- Appends digits to `acc` from the left. Either fault ends it at once, so a value at or above
    `bound` hides a foreign character behind it. -/
def accumulate (radix bound : Nat) : Nat → List Char → Except Fault Nat
  | acc, [] => .ok acc
  | acc, c :: cs =>
    match digit? radix c with
    | none   => .error .invalidDigit
    | some d =>
      if acc * radix + d < bound then accumulate radix bound (acc * radix + d) cs
      else .error .tooLarge

/-- One optional `+` and at least one digit, with a value below `bound`. A lone `+` is an
    `invalidDigit`. -/
def read (radix bound : Nat) : List Char → Except Fault Nat
  | []            => .error .empty
  | ['+']         => .error .invalidDigit
  | '+' :: c :: cs => accumulate radix bound 0 (c :: cs)
  | c :: cs       => accumulate radix bound 0 (c :: cs)

/-- `read` that also takes a minus sign. With the bound `1` for what follows it, only
    zero passes. -/
def readSigned (radix bound : Nat) : List Char → Except Fault Nat
  | '-' :: c :: cs => accumulate radix 1 0 (c :: cs)
  | cs             => read radix bound cs

/-- Most significant digit first, without leading zeros; zero has the one digit `0`. -/
def decimal (n : Nat) : List Char :=
  if n < 10 then [Hex.digitChar .lower n] else decimal (n / 10) ++ [Hex.digitChar .lower (n % 10)]
  termination_by n
  decreasing_by exact Nat.div_lt_self (by omega) (by omega)

/-- `decimal` with zeros in front, up to `width` characters. -/
def decimalPadded (width n : Nat) : List Char :=
  let ds := decimal n
  List.replicate (width - ds.length) '0' ++ ds

/-- `decimal` as a string. -/
def text (n : Nat) : String := String.ofList (decimal n)

/-- `text` with a minus sign below zero, as descriptors and byte counts are printed. -/
def intText : Int → String
  | .ofNat n   => text n
  | .negSucc n => String.ofList ('-' :: decimal (n + 1))

end CanDriver.Numeral
