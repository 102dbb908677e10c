import CanDriver.Frame.Basic
import CanDriver.Frame.Text
import CanDriver.ErrorCode
import CanDriver.Errno
import CanDriver.Time.Instant

namespace CanDriver

/-!
# Events and notices

An event is one datagram with what the kernel said about it; a notice is what error handlers are
told.

* `Event.blank`, `Event.clear` — the event before anything was read, in place of any other;
* `Event.instant` — when the datagram arrived; `Event.instant?` — that moment, found by seconds and
  nanoseconds in the calendar, which goes far enough for every time stamp;
* `Notice.code` — the number of a notice: an identifier word, a code or a system error;
* `Notice.text` — its words.
-/

/-- A descriptor of the operating system; `-1` stands for none. -/
abbrev Fd := Int

/-- One datagram as it was read from a socket. -/
structure Event where
  frame     : Frame
  /-- Nanoseconds since the start of 1970, as `Ancillary.timestamp?` finds them, or zero. -/
  timestamp : UInt64
  /-- The kernel's count of dropped frames, where one was sent along with the datagram, or zero. -/
  dropped   : UInt32
  /-- The receive socket that the datagram came from; there is none for the transmit socket. -/
  origin    : Option Fd
  /-- The datagram came from a receive socket. -/
  isRx      : Bool
  /-- The identifier word of `frame` has the error flag, `Frame.isError`. -/
  isError   : Bool
  deriving DecidableEq

namespace Event

/-- The event of no datagram: `Frame.empty`, and nothing known of it. -/
def blank : Event where
  frame     := Frame.empty
  timestamp := 0
  dropped   := 0
  origin    := none
  isRx      := false
  isError   := false

instance : Inhabited Event := ⟨blank⟩

/-- What a read leaves of an event before it writes over it: `blank`. -/
def clear (_ : Event) : Event := blank

/-- The moment at which the datagram arrived, `timestamp` nanoseconds after the start of 1970. -/
def instant (e : Event) : Instant := ⟨e.timestamp.toNat⟩

/-- The same moment, by the whole seconds of `timestamp` and the nanoseconds that are
    left of them. -/
def instant? (e : Event) : Option Instant :=
  Instant.ofUnix? (e.timestamp.toNat / 1000000000) (e.timestamp.toNat % 1000000000)

/-- `instant?` answers for every event, and with `instant`: 64 bits of nanoseconds end before the
    calendar does, and nothing is rounded. -/
theorem instant?_eq (e : Event) : e.instant? = some e.instant := by
  have within := e.timestamp.toNat_lt
  have whole := Nat.div_add_mod' e.timestamp.toNat 1000000000
  have rest := Nat.mod_lt e.timestamp.toNat (y := 1000000000) (by decide)
  rw [instant?, Instant.ofUnix?, if_pos ⟨by simp only [Instant.lastSecond]; omega, rest⟩, whole, instant]

end Event

/-- What error handlers are told. -/
inductive Notice
  /-- The error frame `f` arrived. -/
  | errorFrame (f : Frame)
  /-- A receive queue overflowed, and the kernel has dropped `count` frames. -/
  | dropped (count : UInt32)
  /-- Waiting for the sockets failed with `e`. -/
  | waitFailed (e : Errno)
  deriving DecidableEq

namespace Notice

/-- The number that comes with a notice: the identifier word of an error frame, the number of
    `droppedFrames`, or the system error as an unsigned word. -/
def code : Notice → Nat
  | .errorFrame f => f.id.toNat
  | .dropped _    => ErrorCode.droppedFrames.number
  | .waitFailed e => low32 e

/-- The words of a notice, as `ErrorHandler.warner` logs them. -/
def text : Notice → String
  | .errorFrame f =>
    let errorClass := String.ofList (Hex.digits .upper f.errorClass.toNat)
    s!"error frame (class 0x{errorClass})"
  | .dropped n =>
    let what := ErrorCode.droppedFrames.message
    let count := Numeral.text n.toNat
    s!"{what} ({count})"
  | .waitFailed e => ErrorCode.pollWait.message ++ ": " ++ e.message

end Notice

end CanDriver
