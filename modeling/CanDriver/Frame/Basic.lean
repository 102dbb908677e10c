import CanDriver.Frame.Dlc

namespace CanDriver

/-!
# Frames

A CAN or CAN FD frame as the kernel lays it out: an identifier word with three flag bits on top, a
length, FD flags, two reserved bytes and room for 64 bytes of payload.

* `Frame.make? id data` — the frame that carries `data`, if it fits;
* `Frame.identifier` — the identifier without flag bits;
* `Frame.payload` — the bytes that count;
* `Frame.isExtended`, `isRemote`, `isError` — the flag bits.
-/

/-- Bit 31 of `Frame.id`: the identifier has 29 bits (`CAN_EFF_FLAG`). -/
def extendedFlag : UInt32 := 0x80000000
/-- Bit 30 of `Frame.id`: a request for data, with no data of its own (`CAN_RTR_FLAG`). -/
def remoteFlag : UInt32 := 0x40000000
/-- Bit 29 of `Frame.id`: the kernel reports an error of the bus (`CAN_ERR_FLAG`). -/
def errorFlag : UInt32 := 0x20000000
/-- The eleven bits of a standard identifier, `CAN_SFF_MASK`. -/
def standardMask : UInt32 := 0x7FF
/-- The 29 bits of an extended identifier, `CAN_EFF_MASK`. -/
def extendedMask : UInt32 := 0x1FFFFFFF
/-- The bits of `Frame.id` that name error classes where `errorFlag` is set. -/
def errorClassMask : UInt32 := 0x1FFFFFFF

/-- `CAN_MTU`, the bytes of a `struct can_frame`: eight of header and eight of data. -/
abbrev classicSize : Nat := 16
/-- `CANFD_MTU`, the bytes of a `struct canfd_frame`: eight of header and 64 of data. -/
abbrev fdSize : Nat := 72

/-- One record for classic and FD frames, with `struct canfd_frame` as its pattern. Only the first
    `len` bytes of `data` are payload. -/
structure Frame where
  id        : UInt32
  len       : UInt8
  flags     : UInt8
  reserved0 : UInt8
  reserved1 : UInt8
  data      : Vector UInt8 64
  deriving DecidableEq

namespace Frame

/-- All fields zero; `make?` starts from it. -/
def empty : Frame where
  id        := 0
  len       := 0
  flags     := 0
  reserved0 := 0
  reserved1 := 0
  data      := Vector.replicate 64 0

instance : Inhabited Frame := ⟨empty⟩

/-- The field `data` for a payload: the first 64 bytes of `bs`, with zeros behind them. -/
def room (bs : List UInt8) : Vector UInt8 64 :=
  Vector.ofFn fun i => bs.getD i.val 0

/-- The frame with identifier word `id`, flags included, and payload `data`. It is `none` for more
    than `Dlc.maxLength` bytes; `flags` and the reserved bytes are zero. -/
def make? (id : UInt32) (data : List UInt8) : Option Frame :=
  if data.length ≤ Dlc.maxLength then
    some { empty with id, len := UInt8.ofNat data.length, data := room data }
  else none

/-- Replaces the FD flags and leaves identifier, length and data alone. -/
def withFlags (f : Frame) (flags : UInt8) : Frame := { f with flags }

/-- Sets `len` to `min n 64`. The bytes of `data` stay, so a longer length brings back what was
    there before. -/
def withLength (f : Frame) (n : Nat) : Frame :=
  { f with len := UInt8.ofNat (min n Dlc.maxLength) }

def isExtended (f : Frame) : Bool := f.id &&& extendedFlag != 0
def isRemote (f : Frame) : Bool := f.id &&& remoteFlag != 0
def isError (f : Frame) : Bool := f.id &&& errorFlag != 0

/-- `id` without its flag bits: masked with `extendedMask` if `isExtended`, else with
    `standardMask`. -/
def identifier (f : Frame) : UInt32 :=
  if f.isExtended then f.id &&& extendedMask else f.id &&& standardMask

/-- The classes of an error frame, to be compared with `Config.errorMask`. -/
def errorClass (f : Frame) : UInt32 := f.id &&& errorClassMask

def isEmpty (f : Frame) : Bool := f.len == 0

/-- The first `len` bytes of `data`. A `len` above 64, which a received frame may have,
    counts as 64. -/
def payload (f : Frame) : List UInt8 :=
  f.data.toList.take (min f.len.toNat Dlc.maxLength)

end Frame

end CanDriver
