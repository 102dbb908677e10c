import CanDriver.Proofs.Control.Reading
import CanDriver.Proofs.Polling.OneDatagram

namespace CanDriver

/-!
# What is read of a datagram

An event against the datagram that it was read from, byte by byte and message by message:

* `Frame.wire_overwritten` — bytes that are written over a frame stand in its layout, and behind them
  is what was there before;
* `Ancillary.candidates` — the times that may stand for the arrival of a datagram, the preferred
  first; `Ancillary.timestamp?_eq_head?` — the first of them is taken;
* `Ancillary.arrival?` — the time of arrival that control messages tell;
* `Event.Describes` — an event is that of a datagram, part by part;
* `read_describes_datagram` — what a receive writes over an event does, whoever reads and whenever.
-/

/-! ### The layout -/

namespace Frame

/-- `Frame.overwritten bytes f` is `bytes`, and then what `f.wire` has behind them. -/
theorem wire_overwritten {bytes : List UInt8} (short : bytes.length ≤ fdSize) (f : Frame) :
    (f.overwritten bytes).wire = bytes ++ f.wire.drop bytes.length := by
  refine wire_ofWire ?_
  rw [List.length_append, List.length_drop, length_wire]
  exact Nat.add_sub_cancel' short

end Frame

/-! ### Control messages -/

/-- `ControlMessage.deliver` drops nothing of messages whose `layout` fits into `space`. -/
theorem ControlMessage.deliver_eq_self {ms : List ControlMessage} {space : Nat}
    (fits : (layout ms).length ≤ space) : deliver space ms = ms := by
  induction ms generalizing space with
  | nil => rfl
  | cons m ms ih =>
    rw [layout_cons, List.length_append, length_bytes] at fits
    rw [deliver, if_pos (by omega), ih (by omega)]

namespace Ancillary

open ControlMessage

/-- `Ancillary.ofMessages` of plain messages is the fold of `Ancillary.hear` over them. -/
theorem ofMessages_eq_foldl {ms : List ControlMessage} (plain : ∀ m ∈ ms, m.Plain) :
    ofMessages ms = ms.foldl hear none := by
  have read := decode_eq_foldl plain [] (extent_le_length ms) (Nat.lt_add_of_pos_right (by decide))
  rwa [List.append_nil] at read

/-- The times that may stand for the arrival of a datagram, the preferred first. Where `hardware` is
    asked for, the raw stamp and then the first come before the others, unless they are zero. -/
def candidates (hardware : Bool) (software : Option Duration)
    (stamps : Option (Duration × Duration × Duration)) : List Duration :=
  (if hardware then
    stamps.toList.flatMap fun (software, _, raw) => [raw, software].filter (·.nanos ≠ 0)
  else []) ++ software.toList ++ stamps.toList.map (·.2.2)

/-- `Ancillary.timestamp?` is the first of `candidates`. -/
theorem timestamp?_eq_head? (hardware : Bool) (a : Ancillary) :
    a.timestamp? hardware = (candidates hardware a.software a.stamps).head? := by
  obtain ⟨software, stamps, dropped⟩ := a
  unfold timestamp? candidates
  cases hardware with
  | false => cases software <;> cases stamps <;> rfl
  | true  =>
    cases stamps with
    | none       => cases software <;> rfl
    | some times =>
      obtain ⟨first, second, raw⟩ := times
      by_cases empty : raw.nanos = 0 <;> by_cases missing : first.nanos = 0 <;> cases software <;>
        simp [empty, missing]

/-- The drop counter of `Ancillary.ofMessages` is the number in the last message of
    `dropCounterKind`, and 0 without one. -/
theorem dropped_ofMessages {ms : List ControlMessage} (plain : ∀ m ∈ ms, m.Plain) :
    ((ofMessages ms).dropped.getD 0).toNat =
      ((lastPayload? dropCounterKind 4 ms).map fun bs => littleEndian (bs.take 4)).getD 0 := by
  have word (bs : List UInt8) : littleEndian (bs.take 4) < 2 ^ 32 := by
    rw [← natOfBytes_eq_littleEndian]
    exact Nat.lt_of_lt_of_le (natOfBytes_lt _) (Nat.pow_le_pow_right (by decide) (List.length_take_le ..))
  rw [ofMessages_eq_foldl plain, field_foldl_hear Ancillary.dropped
    (fun bs => UInt32.ofNat (littleEndian (bs.take 4))) rfl hear_dropped]
  cases lastPayload? dropCounterKind 4 ms with
  | none         => rfl
  | some payload => exact UInt32.toNat_ofNat_of_lt' (word payload)

/-- The first of `candidates`, with the times that the last messages of `timestampKind` and
    `timestampingKind` hold. -/
def arrival? (hardware : Bool) (ms : List ControlMessage) : Option Duration :=
  (candidates hardware ((lastPayload? timestampKind 16 ms).map (timeAt 1000 0))
    ((lastPayload? timestampingKind 48 ms).map timesAt)).head?

theorem timestamp?_ofMessages {ms : List ControlMessage} (plain : ∀ m ∈ ms, m.Plain)
    (hardware : Bool) : (ofMessages ms).timestamp? hardware = arrival? hardware ms := by
  rw [timestamp?_eq_head?, ofMessages_eq_foldl plain,
    field_foldl_hear Ancillary.software (timeAt 1000 0) rfl hear_software,
    field_foldl_hear Ancillary.stamps timesAt rfl hear_stamps, arrival?]

end Ancillary

/-! ### Events -/

open ControlMessage Ancillary

/-- `e` is the event of a datagram `bytes` with the messages `controls`, which was read from `fd` in
    the given role under the settings `c`; told part by part, from the bytes. -/
structure Event.Describes (e : Event) (c : Config) (role : SocketRole) (fd : Fd) (bytes : List UInt8)
    (controls : List ControlMessage) : Prop where
  /-- The layout of the frame is `bytes`, filled with zeros up to `fdSize`. -/
  frame     : e.frame.wire = bytes ++ List.replicate (fdSize - bytes.length) 0
  isError   : e.isError = (bytes.getD 3 0).toNat.testBit 5
  isRx      : e.isRx ↔ role = .receive
  origin    : e.origin = if role = .receive then some fd else none
  dropped   : e.dropped.toNat =
    if role = .receive ∧ c.processHeader then
      ((lastPayload? dropCounterKind 4 controls).map fun bs => littleEndian (bs.take 4)).getD 0
    else 0
  /-- The nanoseconds of `arrival?`, modulo 2 ^ 64. -/
  timestamp : e.timestamp.toNat =
    if role = .receive ∧ c.processHeader then
      ((arrival? c.hwTimestamp controls).map Duration.nanos).getD 0 % bound64
    else 0

/-- `Event.ofDatagram` has `Event.Describes`, where the datagram and its messages fit. -/
theorem Event.ofDatagram_describes (c : Config) (role : SocketRole) (fd : Fd) {bytes : List UInt8}
    {controls : List ControlMessage} (short : bytes.length ≤ fdSize) (plain : ∀ m ∈ controls, m.Plain)
    (fits : (layout controls).length ≤ controlSpace) :
    (ofDatagram c role fd bytes controls).Describes c role fd bytes controls := by
  -- What is not overwritten of the empty frame is zero.
  have frame : (Frame.ofWire bytes).wire = bytes ++ List.replicate (fdSize - bytes.length) 0 := by
    have zeros : Frame.empty.wire = List.replicate fdSize 0 := by decide
    rw [← Frame.overwritten_empty, Frame.wire_overwritten short, zeros, List.drop_replicate]
  have flag := Frame.isError_ofWire bytes
  -- The control messages are looked at for a receive socket alone.
  cases role with
  | transmit => exact ⟨frame, flag, by simp [ofDatagram, blank], rfl, rfl, rfl⟩
  | receive  =>
    refine ⟨frame, flag, by simp [ofDatagram], rfl, ?_, ?_⟩
    · simp only [ofDatagram, ancillaryOf, deliver_eq_self fits, true_and]
      split
      · exact dropped_ofMessages plain
      · rfl
    -- Without headers there is no time stamp to choose.
    · simp only [ofDatagram, ancillaryOf, deliver_eq_self fits, true_and]
      split
      · rw [timestamp?_ofMessages plain, UInt64.toNat_ofNat']
        cases arrival? c.hwTimestamp controls <;> rfl
      · cases c.hwTimestamp <;> rfl

/-- **An event is a function of its datagram.** For a datagram that fits with its control messages
    there is one event, and it describes the datagram: whoever reads it, whatever was read before
    and whatever event is cleared for it, a receive answers the size of the datagram and leaves
    this event, where the role of the socket and the two settings about headers and time stamps are
    the same. -/
theorem read_describes_datagram (c : Config) (role : SocketRole) (fd : Fd) {bytes : List UInt8}
    {controls : List ControlMessage} (some_read : bytes ≠ []) (short : bytes.length ≤ fdSize)
    (plain : ∀ m ∈ controls, m.Plain) (fits : (layout controls).length ≤ Event.controlSpace) :
    ∃ e : Event, e.Describes c role fd bytes controls ∧
      ∀ (s : Session) (event : Event) (h : Host), h.kernel.front fd = .datagram bytes controls →
        s.roleOf fd = role → s.config.processHeader = c.processHeader →
        s.config.hwTimestamp = c.hwTimestamp →
        ∃ s' h', OverEvent.readOne fd ⟨s, event.clear, h⟩ = .ok bytes.length ⟨s', e, h'⟩ ∧
          (s.readOne fd : HostM Empty (Session × Event × Except Failure Nat)) h =
            .ok (s', e, .ok bytes.length) h' := by
  refine ⟨_, Event.ofDatagram_describes c role fd short plain fits, ?_⟩
  rintro s event h front rfl headers hardware
  obtain ⟨s', h', run⟩ := Session.readOne_datagram (ε := Empty) (s := s) front some_read short
  have same : Event.ofDatagram s.config (s.roleOf fd) fd bytes controls =
      .ofDatagram c (s.roleOf fd) fd bytes controls := by
    simp only [Event.ofDatagram, Event.ancillaryOf, headers, hardware]
  rw [same] at run
  refine ⟨s', h', ?_, run⟩
  rw [Event.clear, OverEvent.readOne_eq, OverEvent.left, run]
  rfl

/-- A drop counter of 7, a software time of one second, and three hardware stamps of which the
    first is set. -/
def stampedControls : List ControlMessage :=
  [⟨1, 40, [7, 0, 0, 0], none⟩, ⟨1, 29, 1 :: List.replicate 15 0, none⟩,
    ⟨1, 37, 2 :: List.replicate 7 0 ++ 5 :: List.replicate 39 0, none⟩]

/-- A host where a datagram of three bytes with `stampedControls` waits in socket 101. -/
def Host.stamped : Host where
  kernel  := { Kernel.start [] .none [] with
    nextFd  := 102
    sockets := [⟨100, [], 0, 0, none⟩, ⟨101, [.datagram [1, 0, 0] stampedControls], 0, 0, none⟩] }
  journal := #[]

/-- `read_describes_datagram` for `Host.stamped` where the hardware's time is asked for: the raw
    stamp is zero, and the first one is taken. -/
theorem read_describes_datagram_stamped :
    let c := { Config.default with hwTimestamp := true }
    (∀ m ∈ stampedControls, m.Plain) ∧ (layout stampedControls).length = 120 ∧
    ∃ e s' h', OverEvent.readOne 101 ⟨{ Session.listening with config := c }, .blank, .stamped⟩ =
        .ok 3 ⟨s', e, h'⟩ ∧
      e.frame.wire = [1, 0, 0] ++ List.replicate 69 0 ∧ e.isError = false ∧
      e.dropped.toNat = 7 ∧ e.timestamp.toNat = 2000000005 := by
  intro c
  have plain : ∀ m ∈ stampedControls, m.Plain := by decide
  have size : (layout stampedControls).length = 120 := by
    simp [stampedControls, layout, ControlMessage.size, aligned, headerSize]
  -- The event is `e` for every session and host; here it is read in `Session.listening`.
  obtain ⟨e, describes, reads⟩ :=
    @read_describes_datagram c .receive 101 [1, 0, 0] stampedControls (by decide) (by decide) plain
      (by rw [size]; decide)
  obtain ⟨s', h', run, -⟩ := reads { Session.listening with config := c } .blank .stamped rfl (by decide)
    rfl rfl
  refine ⟨plain, size, e, s', h', run, describes.frame, describes.isError, ?_, ?_⟩
  · rw [describes.dropped]
    decide
  · rw [describes.timestamp]
    decide

end CanDriver
