import CanDriver.Control.Message
import CanDriver.Time.Duration

namespace CanDriver

/-!
# What control messages say

* `Ancillary` — software time stamp, the three time stamps of the kernel and the drop counter;
* `Ancillary.decode memory n` — what the messages in the first `n` bytes say; of several messages
  of one kind the last counts, and one whose payload is too short says nothing;
* `Ancillary.timestamp? hw a` — the time stamp of the datagram.
-/

/-- What the control messages of one datagram say, as far as the driver understands them. -/
structure Ancillary where
  software : Option Duration
  /-- `SCM_TIMESTAMPING`: software, legacy and raw hardware time stamps, in this order. -/
  stamps   : Option (Duration × Duration × Duration)
  dropped  : Option UInt32
  deriving DecidableEq, Repr, Inhabited

namespace Ancillary

/-- No message of any known kind. -/
def none : Ancillary := ⟨.none, .none, .none⟩

/-- `SOL_SOCKET`; `note` ignores messages of any other level. -/
def socketLevel : Int := 1
/-- `SO_RXQ_OVFL`, a counter of 32 bits. -/
def dropCounterKind : Int := 40
/-- `SO_TIMESTAMP`, a `struct timeval`. -/
def timestampKind : Int := 29
/-- `SO_TIMESTAMPING`, three of `struct timespec`. -/
def timestampingKind : Int := 37

/-- A `struct timeval` as a duration; a negative field counts as zero. -/
def microsTime (bs : List UInt8) : Duration :=
  Duration.ofSecs (signedOfBytes 64 (bs.take 8)).toNat +
    Duration.ofMicros (signedOfBytes 64 ((bs.drop 8).take 8)).toNat

/-- A `struct timespec` as a duration; a negative field counts as zero. -/
def nanosTime (bs : List UInt8) : Duration :=
  Duration.ofSecs (signedOfBytes 64 (bs.take 8)).toNat +
    Duration.ofNanos (signedOfBytes 64 ((bs.drop 8).take 8)).toNat

open ControlMessage in
/-- Adds the message with header `h` to what is known. Each kind has a least payload, and a message
    that claims less is skipped. A later message replaces an earlier one of its kind. -/
def note (memory : List UInt8) (a : Ancillary) (h : Header) : Ancillary :=
  let payload := h.offset + headerSize
  if h.level ≠ socketLevel then a
  else if h.kind = dropCounterKind ∧ 4 ≤ h.payloadSize then
    { a with dropped := some (wordOfBytes (slice memory payload 4)) }
  else if h.kind = timestampKind ∧ 16 ≤ h.payloadSize then
    { a with software := some (microsTime (slice memory payload 16)) }
  else if h.kind = timestampingKind ∧ 48 ≤ h.payloadSize then
    let stamp (i : Nat) := nanosTime (slice memory (payload + 16 * i) 16)
    { a with stamps := some (stamp 0, stamp 1, stamp 2) }
  else a

/-- `note` for every header that `ControlMessage.walk` visits, in order. `memory` may be longer than
    `controlLength`, as the receive buffer is. -/
def decode (memory : List UInt8) (controlLength : Nat) : Ancillary :=
  (ControlMessage.walk memory controlLength).foldl (note memory) none

/-- `decode` of a layout that ends where its last message does. -/
def ofMessages (ms : List ControlMessage) : Ancillary :=
  let memory := ControlMessage.layout ms
  decode memory memory.length

/-- The time stamp of a datagram. Where the hardware's is asked for, the first of hardware and
    software among the three stamps that is not zero; else `software`, and the hardware's where
    there is none. -/
def timestamp? (hardware : Bool) (a : Ancillary) : Option Duration :=
  let plain := a.software <|> a.stamps.map (·.2.2)
  match hardware, a.stamps with
  | true, some (software, _, raw) =>
    if raw.nanos ≠ 0 then some raw
    else if software.nanos ≠ 0 then some software
    else plain
  | _, _ => plain

end Ancillary

end CanDriver
