namespace CanDriver.Hex

/-!
# Hexadecimal text

Digits, fixed-width numbers and byte strings in base sixteen:

* `digitChar c n` — the character of a digit below sixteen, in the letter case `c`;
* `digits c n` — a number without leading zeros; `padded c w n` — at least `w` digits;
* `byte c b`, `bytes c bs` — two digits a byte;
* `digitValue? ch` — what a character is worth, in either letter case;
* `decode? cs` — the bytes that a run of digit pairs stands for.
-/

/-- Which letters stand for the digits from ten to fifteen. -/
inductive LetterCase
  | lower
  | upper
  deriving DecidableEq, Repr

/-- The digit `n` below sixteen: `0` to `9`, then `a` to `f` or `A` to `F`. -/
def digitChar (c : LetterCase) (n : Nat) : Char :=
  if n < 10 then Char.ofNat (48 + n)
  else match c with
    | .lower => Char.ofNat (87 + n)
    | .upper => Char.ofNat (55 + n)

/-- Most significant digit first, without leading zeros; zero has the one digit `0`. -/
def digits (c : LetterCase) (n : Nat) : List Char :=
  if n < 16 then [digitChar c n] else digits c (n / 16) ++ [digitChar c (n % 16)]
  termination_by n
  decreasing_by exact Nat.div_lt_self (by omega) (by omega)

/-- `digits` with zeros in front, up to `width` characters. A longer number keeps all its digits. -/
def padded (c : LetterCase) (width n : Nat) : List Char :=
  let ds := digits c n
  List.replicate (width - ds.length) '0' ++ ds

/-- Exactly two digits, so `bytes` needs no separator to be read back. -/
def byte (c : LetterCase) (b : UInt8) : List Char :=
  [digitChar c (b.toNat / 16), digitChar c (b.toNat % 16)]

/-- `byte` for each element, one after the other. -/
def bytes (c : LetterCase) (bs : List UInt8) : List Char :=
  bs.flatMap (byte c)

/-- The inverse of `digitChar`, for both letter cases; `none` for any other character. -/
def digitValue? (ch : Char) : Option Nat :=
  let n := ch.toNat
  if 48 ≤ n ∧ n ≤ 57 then some (n - 48)
  else if 97 ≤ n ∧ n ≤ 102 then some (n - 87)
  else if 65 ≤ n ∧ n ≤ 70 then some (n - 55)
  else none

/-- The inverse of `bytes`: `none` for an odd number of characters and where one of them is
    no digit. -/
def decode? : List Char → Option (List UInt8)
  | [] => some []
  | a :: b :: rest => do
    let hi ← digitValue? a
    let lo ← digitValue? b
    let bs ← decode? rest
    return UInt8.ofNat (16 * hi + lo) :: bs
  | [_] => none

@[simp] theorem bytes_nil (c : LetterCase) : bytes c [] = [] := rfl

@[simp] theorem bytes_cons (c : LetterCase) (b : UInt8) (bs : List UInt8) :
    bytes c (b :: bs) = byte c b ++ bytes c bs := rfl

@[simp] theorem length_byte (c : LetterCase) (b : UInt8) : (byte c b).length = 2 := rfl

end CanDriver.Hex
