namespace CanDriver.Dlc

/-!
# Data length codes

An FD frame carries 0 to 8, 12, 16, 20, 24, 32, 48 or 64 bytes, written as a code of four bits:

* `sizes` — the sixteen lengths, by code;
* `ofLength n` — the code of the least length that is at least `n`, or the last code;
* `length c` — the length of a code, of which the low four bits count;
* `roundUp n` — the least length that is at least `n`, or 64.
-/

/-- 64 bytes, the last entry of `sizes`. -/
abbrev maxLength : Nat := 64

/-- The sixteen lengths that have a code; the code is the place in the list. -/
def sizes : List Nat := [0, 1, 2, 3, 4, 5, 6, 7, 8, 12, 16, 20, 24, 32, 48, 64]

/-- The least code `c` with `n ≤ length c`, or 15 where `n` is above 64. -/
def ofLength (n : Nat) : Nat :=
  min (sizes.findIdx (n ≤ ·)) 15

/-- `sizes` at the low four bits of `code`. -/
def length (code : Nat) : Nat :=
  sizes.getD (code % 16) 0

/-- The least entry of `sizes` that is at least `n`, or 64 where `n` is above that. -/
def roundUp (n : Nat) : Nat :=
  length (ofLength n)

end CanDriver.Dlc
