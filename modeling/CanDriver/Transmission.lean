import CanDriver.Frame.Wire
import CanDriver.Interface.Basic

namespace CanDriver

/-!
# Transmitting frames

* `Frame.prepared fd f` — the frame that is sent for `f`: with FD its length is rounded up to one
  that has a code;
* `Frame.wireSize fd` — how many bytes of it are sent;
* `Frame.datagram fd f` — those bytes;
* `Transmission.send` — sends a frame on a socket.  That the queue is full is not worth a record;
* `Interface.transmit` — sends a frame on the transmit socket of an interface.
-/

namespace Frame

/-- The frame that goes out for `f`: with `fd` its length is rounded up by `Dlc.roundUp`. -/
def prepared (fd : Bool) (f : Frame) : Frame :=
  if fd then f.withLength (Dlc.roundUp f.len.toNat) else f

/-- How many bytes go out: `fdSize` or `classicSize`. -/
def wireSize (fd : Bool) : Nat := if fd then fdSize else classicSize

/-- The bytes that go out for `f`: the first `wireSize fd` of `(f.prepared fd).wire`. -/
def datagram (fd : Bool) (f : Frame) : List UInt8 := (f.prepared fd).wire.take (wireSize fd)

@[simp] theorem length_datagram (fd : Bool) (f : Frame) : (f.datagram fd).length = wireSize fd := by
  cases fd <;> simp [datagram, wireSize, classicSize, fdSize]

end Frame

namespace Transmission

open Host

/-- A send that fails with `e` met a full transmit queue. -/
def queueFull (e : Errno) : Bool := e == Errno.noBuffers || e == Errno.again

/-- Sends `f.datagram fd` on `socket`. A failure is `txRetryLater` if `queueFull`, else
    `txSocketWrite`; a short write fails as well. -/
def send (socket : Fd) (name : String) (fd : Bool) (f : Frame) : HostM Failure Unit := do
  let written ← orElse (Host.send socket (f.datagram fd)) fun e => do
    if queueFull e then throw (.os .txRetryLater e)
    log .error .transmission (name ++ ": socket write failed: " ++ e.message)
    throw (.os .txSocketWrite e)
  if written < Frame.wireSize fd then
    let part := Numeral.text written
    let whole := Numeral.text (Frame.wireSize fd)
    log .error .transmission (name ++ ": incomplete frame written (" ++ part ++ "/" ++ whole ++ ")")
    throw (.ofCode .incompleteFrame)
  log .trace .transmission (name ++ ": tx " ++ (f.prepared fd).text)

end Transmission

/-- `Transmission.send` on the transmit socket of the session, without the lock. -/
def Interface.transmit (f : Frame) (i : Interface) : HostM Failure Unit := do
  let s ← i.session
  Transmission.send s.tx s.name s.config.fd f

end CanDriver
