import CanDriver.Control.Ancillary
import CanDriver.Failure
import CanDriver.Journal
import CanDriver.Kernel.Basic

namespace CanDriver

/-!
# Reading from sockets

* `Kernel.front fd` — what a receive meets: the front of the queue, or the failure `idleError fd`;
* `Event.ofDatagram` — the event of a datagram: its bytes over an empty frame and, on a receive
  socket whose headers are processed, its time stamp and drop counter;
* `Item.read` — one receive: its effects, and an event, nothing, or a network that is down.
-/

/-- What a receive on `fd` fails with where nothing waits: `again`, or `badDescriptor` if `fd` is
    not open. -/
def Kernel.idleError (fd : Fd) (k : Kernel) : Errno :=
  if (k.socket? fd).isSome then Errno.again else Errno.badDescriptor

/-- What a receive on `fd` meets: the front of its queue, or a failure with `idleError`. -/
def Kernel.front (fd : Fd) (k : Kernel) : Item := (k.queue fd).headD (.failure (k.idleError fd))

namespace Event

/-- The room for control messages that a receive hands to the kernel, in bytes. -/
def controlSpace : Nat := 256

/-- What the control messages of a datagram say, in so far as they fit into `controlSpace`; nothing
    where `processHeader` is off. -/
def ancillaryOf (c : Config) (controls : List ControlMessage) : Ancillary :=
  if c.processHeader then Ancillary.ofMessages (ControlMessage.deliver controlSpace controls)
  else Ancillary.none

/-- The event of the datagram `bytes` on `fd`: on the transmit socket the frame alone, on a receive
    socket with what `ancillaryOf` says. -/
def ofDatagram (c : Config) (role : SocketRole) (fd : Fd) (bytes : List UInt8)
    (controls : List ControlMessage) : Event :=
  let frame := Frame.ofWire bytes
  match role with
  | .transmit => { blank with frame, isError := frame.isError }
  | .receive  =>
    let a := ancillaryOf c controls
    let time := a.timestamp? c.hwTimestamp
    { frame
      timestamp := UInt64.ofNat (time.getD Duration.zero).nanos
      dropped   := a.dropped.getD 0
      origin    := some fd
      isRx      := true
      isError   := frame.isError }

end Event

/-- What a receive brings. -/
inductive Reading
  /-- A datagram of `size` bytes, read as `e`. -/
  | event (size : Nat) (e : Event)
  | nothing
  | networkDown
  deriving DecidableEq

namespace Item

/-- What the log says of a receive on `fd` that failed with `e`; nothing of `again` and
    `interrupted`. -/
def failureRecords (fd : Fd) (e : Errno) : List Log.Record :=
  let number := Numeral.intText fd
  if e = Errno.networkDown then
    [⟨.error, .reception, "read_one: CAN network is down (fd " ++ number ++ ")"⟩]
  else if e = Errno.again ∨ e = Errno.interrupted then []
  else [⟨.warn, .reception, "read_one: recvmsg on fd " ++ number ++ " failed: " ++ e.message⟩]

/-- What the log says of the drop counter `n`; nothing of zero. -/
def droppedRecords (n : UInt32) : List Log.Record :=
  if n = 0 then []
  else
    let count := Numeral.text n.toNat
    [⟨.error, .reception, "read_one: CAN frames dropped (" ++ count ++ ")"⟩]

/-- One receive on `fd` that meets the item. At most `fdSize` bytes of a datagram are read, and an
    empty datagram brings `nothing`. -/
def read (c : Config) (role : SocketRole) (fd : Fd) : Item → List Effect × Reading
  | .failure e =>
    (.call (.receive fd (.error e)) :: (failureRecords fd e).map .record,
     if e = Errno.networkDown then .networkDown else .nothing)
  | .datagram bytes controls =>
    let size := min bytes.length fdSize
    let call := Effect.call (.receive fd (.ok size))
    if size = 0 then ([call], .nothing)
    else
      let e := Event.ofDatagram c role fd bytes controls
      (call :: (droppedRecords e.dropped).map .record, .event size e)

/-- The effects of `Item.read` are the call on `fd` and log records. -/
theorem mem_read {c : Config} {role : SocketRole} {fd : Fd} {item : Item} {what : Effect}
    (h : what ∈ (item.read c role fd).1) :
    (∃ result, what = .call (.receive fd result)) ∨ ∃ r, what = .record r := by
  have line {result : Except Errno Nat} {rs : List Log.Record}
      (h : what ∈ Effect.call (.receive fd result) :: rs.map .record) :
      (∃ result, what = .call (.receive fd result)) ∨ ∃ r, what = .record r := by
    rcases List.mem_cons.mp h with rfl | h
    · exact .inl ⟨result, rfl⟩
    · obtain ⟨r, -, rfl⟩ := List.mem_map.mp h
      exact .inr ⟨r, rfl⟩
  cases item with
  | failure e => exact line h
  | datagram bytes controls =>
    simp only [read] at h
    split at h
    · exact .inl ⟨_, List.mem_singleton.mp h⟩
    · exact line h

end Item

end CanDriver
