import CanDriver.Frame.Basic

namespace CanDriver

/-!
# The memory layout of frames

Seventy-two bytes: the identifier word with its least byte first, length, FD flags, two reserved
bytes and 64 bytes of payload.  A classic frame is the first sixteen of them.

* `Frame.wire f` — the bytes of a frame;
* `Frame.ofWire bs` — the frame in a run of bytes, with zeros for those that are missing;
* `wordBytes w`, `wordOfBytes bs` — four bytes for a word and back.
-/

/-- The four bytes of `w`, least significant first. -/
def wordBytes (w : UInt32) : List UInt8 :=
  [w.toUInt8, (w >>> 8).toUInt8, (w >>> 16).toUInt8, (w >>> 24).toUInt8]

/-- The number whose digits in base 256 are `bs`, least significant first. -/
def natOfBytes : List UInt8 → Nat
  | []      => 0
  | b :: bs => b.toNat + 256 * natOfBytes bs

/-- `natOfBytes` of the first four bytes; a missing byte counts as zero. -/
def wordOfBytes (bs : List UInt8) : UInt32 :=
  UInt32.ofNat (natOfBytes (bs.take 4))

namespace Frame

/-- All `fdSize` bytes of the record. `wire.take classicSize` is what a classic write sends. -/
def wire (f : Frame) : List UInt8 :=
  wordBytes f.id ++ [f.len, f.flags, f.reserved0, f.reserved1] ++ f.data.toList

/-- Reads the fields at their offsets in `wire`. Missing bytes are zero, and those after the 72nd do
    not count. -/
def ofWire (bs : List UInt8) : Frame where
  id        := wordOfBytes bs
  len       := bs.getD 4 0
  flags     := bs.getD 5 0
  reserved0 := bs.getD 6 0
  reserved1 := bs.getD 7 0
  data      := room (bs.drop 8)

@[simp] theorem length_wire (f : Frame) : f.wire.length = fdSize := by
  simp [wire, wordBytes]

end Frame

end CanDriver
