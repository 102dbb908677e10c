import CanDriver.Frame.Wire
import CanDriver.Words

namespace CanDriver

/-!
# Control messages

What the kernel says about a datagram stands behind it as a row of control messages, each a length
of 64 bits, a level and a type of 32 bits with sign, and a payload, filled up to a multiple of
eight bytes.

* `ControlMessage` — one message; its length field may claim anything;
* `bytes`, `layout` — one message and a row of them in memory;
* `deliver space ms` — the messages that fit, whole and in order;
* `ControlMessage.Header` — what a walk reads at an offset; `walk` — the offsets it visits.
-/

/-- A `struct cmsghdr` with its payload. -/
structure ControlMessage where
  level   : Int
  kind    : Int
  payload : List UInt8
  /-- What `cmsg_len` says in place of the true length; `none` for an honest message. -/
  claimed : Option Nat
  deriving DecidableEq, Repr, Inhabited

/-- The least `n` bytes of a number, least significant first. -/
def bytesOfNat : Nat → Nat → List UInt8
  | 0, _     => []
  | n + 1, x => UInt8.ofNat (x % 256) :: bytesOfNat n (x / 256)

/-- The two's complement number of `bits` bits that the bytes hold, least significant first. -/
def signedOfBytes (bits : Nat) (bs : List UInt8) : Int :=
  let n := natOfBytes bs
  if n < Nat.pow 2 (bits - 1) then n else (n : Int) - Nat.pow 2 bits

/-- `CMSG_ALIGN`: the least multiple of eight that is at least `n`. -/
def aligned (n : Nat) : Nat := (n + 7) / 8 * 8

namespace ControlMessage

/-- `sizeof(struct cmsghdr)`, which is aligned already. -/
abbrev headerSize : Nat := 16

/-- The field `cmsg_len`, which counts the header. -/
def length (m : ControlMessage) : Nat := m.claimed.getD (headerSize + m.payload.length)

/-- `CMSG_SPACE` of the payload: the room from this header to the next. -/
def size (m : ControlMessage) : Nat := aligned (headerSize + m.payload.length)

/-- The message in memory: header, payload and zeros up to `size`. -/
def bytes (m : ControlMessage) : List UInt8 :=
  bytesOfNat 8 m.length ++ bytesOfNat 4 (low32 m.level) ++
    bytesOfNat 4 (low32 m.kind) ++ m.payload ++
    List.replicate (m.size - (headerSize + m.payload.length)) 0

/-- A control buffer with the messages one after the other. -/
def layout (ms : List ControlMessage) : List UInt8 := ms.flatMap bytes

/-- What the kernel puts into a buffer with `space` bytes: messages in order, up to the first that
    does not fit. -/
def deliver : Nat → List ControlMessage → List ControlMessage
  | _, [] => []
  | space, m :: ms => if m.size ≤ space then m :: deliver (space - m.size) ms else []

/-! ### Walking -/

/-- The `n` bytes from `start` on. Memory behind the end of the list reads as zero. -/
def slice (memory : List UInt8) (start n : Nat) : List UInt8 :=
  let bs := (memory.drop start).take n
  bs ++ List.replicate (n - bs.length) 0

/-- What a walk reads at one offset. -/
structure Header where
  offset : Nat
  length : Nat
  level  : Int
  kind   : Int
  deriving DecidableEq, Repr

/-- The `struct cmsghdr` at `offset`. -/
def headerAt (memory : List UInt8) (offset : Nat) : Header where
  offset := offset
  length := natOfBytes (slice memory offset 8)
  level  := signedOfBytes 32 (slice memory (offset + 8) 4)
  kind   := signedOfBytes 32 (slice memory (offset + 12) 4)

/-- What the header claims, not what is there: nothing relates it to the size of the
    control area. -/
def Header.payloadSize (h : Header) : Nat := h.length - headerSize

/-- `CMSG_NXTHDR` from `offset` on, as long as a header lies within `controlLength`. A header that
    claims less than its own size is visited and ends the walk. -/
def walkFrom (memory : List UInt8) (controlLength offset : Nat) : List Header :=
  if _fits : offset + headerSize ≤ controlLength then
    if _last : (headerAt memory offset).length < headerSize then [headerAt memory offset]
    else
      headerAt memory offset ::
        walkFrom memory controlLength (offset + aligned (headerAt memory offset).length)
  else []
  termination_by controlLength - offset
  decreasing_by
    have : headerSize = 16 := rfl
    have : (headerAt memory offset).length ≤ aligned (headerAt memory offset).length := by
      simp only [aligned]; omega
    omega

/-- `CMSG_FIRSTHDR` and all that follow it. -/
def walk (memory : List UInt8) (controlLength : Nat) : List Header :=
  walkFrom memory controlLength 0

end ControlMessage

end CanDriver
