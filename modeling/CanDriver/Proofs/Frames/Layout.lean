import CanDriver.Frame.Wire
import Mathlib.Data.Nat.Bitwise

namespace CanDriver

/-!
# The layout of frames, byte by byte

* `and_two_pow_ne_zero` — one bit of a word;
* `toNat_wordOfBytes` — a word by the place values of its bytes; `wordOfBytes_wordBytes`,
  `wordBytes_wordOfBytes` — the same word and the same bytes come back;
* `Frame.toList_room` — the bytes behind the header;
* `Frame.wire_ofWire` — a full layout is that of its frame;
* `Frame.isError_ofWire` — the error flag is one bit of the fourth byte.
-/

/-! ### Words -/

/-- Masking with a power of two tests one bit of the word. -/
theorem and_two_pow_ne_zero (w : UInt32) {i : Nat} (inside : i < 32) :
    (w &&& UInt32.ofNat (2 ^ i) != 0) = decide (w.toNat / 2 ^ i % 2 = 1) := by
  have flag : (UInt32.ofNat (2 ^ i)).toNat = 2 ^ i := by
    rw [UInt32.toNat_ofNat']
    exact Nat.mod_eq_of_lt (Nat.pow_lt_pow_right (by decide) inside)
  have value : (w &&& UInt32.ofNat (2 ^ i)).toNat = (w.toNat.testBit i).toNat * 2 ^ i := by
    rw [UInt32.toNat_and, flag, Nat.and_two_pow]
  rw [← Nat.testBit_eq_decide_div_mod_eq, Bool.eq_iff_iff, bne_iff_ne, ne_eq, ← UInt32.toNat_inj, value]
  cases w.toNat.testBit i <;> simp

/-- `wordOfBytes` by the place values of the first four bytes, of which those that are missing
    are zero. -/
theorem toNat_wordOfBytes (bytes : List UInt8) :
    (wordOfBytes bytes).toNat = (bytes.getD 0 0).toNat + 256 * ((bytes.getD 1 0).toNat +
      256 * ((bytes.getD 2 0).toNat + 256 * (bytes.getD 3 0).toNat)) := by
  have first := (bytes.getD 0 0).toNat_lt
  have second := (bytes.getD 1 0).toNat_lt
  have third := (bytes.getD 2 0).toNat_lt
  have fourth := (bytes.getD 3 0).toNat_lt
  have value : natOfBytes (bytes.take 4) = (bytes.getD 0 0).toNat + 256 * ((bytes.getD 1 0).toNat +
      256 * ((bytes.getD 2 0).toNat + 256 * (bytes.getD 3 0).toNat)) := by
    match bytes with
    | [] | [_] | [_, _] | [_, _, _] | _ :: _ :: _ :: _ :: _ => simp [natOfBytes]
  rw [wordOfBytes, value, UInt32.toNat_ofNat']
  exact Nat.mod_eq_of_lt (by omega)

/-- `wordOfBytes` is a left inverse of `wordBytes`, whatever stands behind the four bytes. -/
theorem wordOfBytes_wordBytes (w : UInt32) (bs : List UInt8) :
    wordOfBytes (wordBytes w ++ bs) = w := by
  apply UInt32.toNat_inj.mp
  have small := w.toNat_lt
  simp only [wordOfBytes, wordBytes, List.cons_append, List.nil_append, List.take_succ_cons,
    List.take_zero, natOfBytes, UInt32.toNat_ofNat', UInt32.toNat_toUInt8, UInt32.toNat_shiftRight,
    UInt32.reduceToNat, Nat.reduceMod, Nat.shiftRight_eq_div_pow]
  omega

/-- `wordBytes` of four bytes read as a word gives them back. -/
theorem wordBytes_wordOfBytes (a b c d : UInt8) (bs : List UInt8) :
    wordBytes (wordOfBytes (a :: b :: c :: d :: bs)) = [a, b, c, d] := by
  have value : (wordOfBytes (a :: b :: c :: d :: bs)).toNat =
      a.toNat + 256 * (b.toNat + 256 * (c.toNat + 256 * d.toNat)) := toNat_wordOfBytes _
  have byteA := a.toNat_lt
  have byteB := b.toNat_lt
  have byteC := c.toNat_lt
  have byteD := d.toNat_lt
  simp only [wordBytes, List.cons.injEq, ← UInt8.toNat_inj, UInt32.toNat_toUInt8,
    UInt32.toNat_shiftRight, value, UInt32.reduceToNat, Nat.reduceMod, Nat.shiftRight_eq_div_pow, and_true]
  omega

/-! ### Frames -/

namespace Frame

theorem getElem_room {bs : List UInt8} {i : Nat} (inside : i < 64) : (room bs)[i] = bs.getD i 0 :=
  Vector.getElem_ofFn inside

/-- `room bs` is `bs` and zeros behind it, where `bs` fits. -/
theorem toList_room {bs : List UInt8} (fits : bs.length ≤ Dlc.maxLength) :
    (room bs).toList = bs ++ List.replicate (Dlc.maxLength - bs.length) 0 := by
  apply List.ext_getElem
  · simp [fits]
  · intro i _ _
    by_cases inside : i < bs.length
    · simp [room, List.getElem_append_left inside, inside]
    · simp [room, List.getElem_append_right (Nat.le_of_not_lt inside), Nat.le_of_not_lt inside]

/-- `wire` is a left inverse of `ofWire` on runs of `fdSize` bytes: all bytes of a layout belong to
    some field. -/
theorem wire_ofWire {bs : List UInt8} (full : bs.length = fdSize) : (ofWire bs).wire = bs := by
  match bs, full with
  | a :: b :: c :: d :: len :: flags :: reserved0 :: reserved1 :: data, full =>
    have payload : data.length = Dlc.maxLength := by simpa [fdSize] using full
    rw [wire, ofWire, wordBytes_wordOfBytes, List.drop_succ_cons]
    simp [toList_room (Nat.le_of_eq payload), payload]

/-- In a received frame `isError` is bit 5 of the fourth byte, the topmost of the
    identifier word. -/
theorem isError_ofWire (bytes : List UInt8) :
    (ofWire bytes).isError = (bytes.getD 3 0).toNat.testBit 5 := by
  have flag : (ofWire bytes).isError = _ := and_two_pow_ne_zero (wordOfBytes bytes) (i := 29) (by decide)
  have first := (bytes.getD 0 0).toNat_lt
  have second := (bytes.getD 1 0).toNat_lt
  have third := (bytes.getD 2 0).toNat_lt
  rw [flag, toNat_wordOfBytes, Nat.testBit_eq_decide_div_mod_eq]
  congr 1
  apply propext
  omega

end Frame

end CanDriver
