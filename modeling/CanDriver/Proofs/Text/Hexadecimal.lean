import CanDriver.Proofs.Text.Numerals

namespace CanDriver.Hex

open Numeral

/-!
# What hexadecimal digits mean

* `digits_digits`, `digits_padded` — a number in base sixteen has its own value, with zeros in front
  as well;
* `length_padded` — a number that fits is filled up to exactly the width;
* `digits_byte` — the two digits of a byte have its value.
-/

/-- `digit?` in base sixteen is a left inverse of `digitChar`, for both letter cases. -/
theorem digit?_digitChar (c : LetterCase) {d : Nat} (small : d < 16) :
    digit? 16 (digitChar c d) = some d := by
  revert d
  cases c <;> decide

/-- `Hex.digits c n` has the value `n`. -/
theorem digits_digits (c : LetterCase) (n : Nat) : Digits 16 (digits c n) n := by
  induction n using digits.induct with
  | case1 n small =>
    rw [digits, if_pos small]
    exact ⟨by simp, [n], .cons (digit?_digitChar c small) .nil, by simp⟩
  | case2 n large ih =>
    rw [digits, if_neg large]
    have last : digit? 16 (digitChar c (n % 16)) = some (n % 16) :=
      digit?_digitChar c (Nat.mod_lt n (by decide))
    have value : n / 16 * 16 + n % 16 = n := Nat.div_add_mod' n 16
    have longer := ih.snoc last
    rwa [value] at longer

/-- Zeros in front of a run leave its value alone. -/
theorem digits_zeros {cs : List Char} {n : Nat} (run : Digits 16 cs n) (k : Nat) :
    Digits 16 (List.replicate k '0' ++ cs) n := by
  induction k with
  | zero => exact run
  | succ k ih =>
    obtain ⟨-, ds, each, value⟩ := ih
    refine ⟨by simp [List.replicate_succ], 0 :: ds, .cons rfl each, ?_⟩
    rw [ofDigits_reverse_cons, Nat.zero_mul, Nat.zero_add]
    exact value

/-- `Hex.padded c width n` has the value `n`, whatever the width. -/
theorem digits_padded (c : LetterCase) (width n : Nat) : Digits 16 (padded c width n) n :=
  digits_zeros (digits_digits c n) _

/-- A number below `16 ^ width` has at most `width` digits. -/
theorem length_digits_le (c : LetterCase) {n width : Nat} (fits : n < 16 ^ width)
    (room : 0 < width) : (digits c n).length ≤ width := by
  induction n using digits.induct generalizing width with
  | case1 n small =>
    rw [digits, if_pos small]
    exact room
  | case2 n large ih =>
    obtain ⟨k, rfl⟩ : ∃ k, width = k + 1 := ⟨width - 1, by omega⟩
    have quotient : n / 16 < 16 ^ k := Nat.div_lt_of_lt_mul (by rwa [Nat.pow_succ'] at fits)
    -- A number of two digits or more needs a second place.
    have places : 0 < k := by
      by_contra none_
      obtain rfl : k = 0 := by omega
      exact large (by simpa using fits)
    rw [digits, if_neg large, List.length_append, List.length_singleton]
    exact Nat.succ_le_succ (ih quotient places)

/-- A number below `16 ^ width` is padded to exactly `width` characters. -/
theorem length_padded (c : LetterCase) {n width : Nat} (fits : n < 16 ^ width) (room : 0 < width) :
    (padded c width n).length = width := by
  have short := length_digits_le c fits room
  simp only [padded, List.length_append, List.length_replicate]
  omega

/-- `Hex.byte c b` has the value `b.toNat`. -/
theorem digits_byte (c : LetterCase) (b : UInt8) : Digits 16 (byte c b) b.toNat := by
  have small := b.toNat_lt
  refine ⟨by simp [byte], [b.toNat / 16, b.toNat % 16], .cons ?_ (.cons ?_ .nil), ?_⟩
  · exact digit?_digitChar c (by omega)
  · exact digit?_digitChar c (by omega)
  · simp [Nat.ofDigits_cons]
    omega

end CanDriver.Hex
