import CanDriver.Proofs.Frames.RoundTrip

namespace CanDriver

/-!
# Long frames without FD

Without FD a frame is sent as the first sixteen bytes of its layout, however long its payload is.

* `Frame.CarriedBy` — a datagram has the whole payload of a frame and a length that a classic frame
  can have;
* `Frame.classic_datagram` — the header, the first eight bytes of the data, zeros up to eight;
  `Frame.datagram_take` — the rest of the data has no part in it;
* `Frame.ofWire_classic_datagram` — what is read back has the length of the data and zeros in place of
  that rest;
* `classic_datagram_carries_iff` — the datagram that is sent for a new frame, accepted whatever the
  length, has its payload just if there are at most eight bytes.
-/

namespace Frame

/-- The datagram states at most eight bytes, as a classic frame has to, and holds all of `f.payload`
    behind its header. -/
def CarriedBy (f : Frame) (bytes : List UInt8) : Prop :=
  (bytes.getD 4 0).toNat ≤ 8 ∧ f.payload <+: bytes.drop 8

variable {id : UInt32} {flags : UInt8} {data : List UInt8} {n : Nat}

/-! ### The datagram -/

/-- The sixteen bytes for `filled id flags data n`: the header, the first eight bytes of `data`, and
    zeros up to eight. -/
theorem classic_datagram (fits : data.length ≤ Dlc.maxLength) :
    (filled id flags data n).datagram false =
      wordBytes id ++ [.ofNat n, flags, 0, 0] ++
        (data.take 8 ++ List.replicate (8 - data.length) 0) := by
  have header : (wordBytes id ++ [.ofNat n, flags, 0, 0]).length = 8 := rfl
  have zeros : min (8 - data.length) (Dlc.maxLength - data.length) = 8 - data.length :=
    Nat.min_eq_left (Nat.sub_le_sub_right (by decide) _)
  have wire : ((filled id flags data n).prepared false).wire =
      wordBytes id ++ [.ofNat n, flags, 0, 0] ++ (room data).toList := rfl
  have size : wireSize false = (wordBytes id ++ [.ofNat n, flags, 0, 0]).length + 8 := rfl
  rw [datagram, wire, size, List.take_length_add_append, toList_room fits, List.take_append,
    List.take_replicate, zeros]

/-- The length byte of that datagram is `n`, not the number of bytes that follow. -/
theorem stated_classic_datagram (fits : data.length ≤ Dlc.maxLength) (within : n ≤ Dlc.maxLength) :
    (((filled id flags data n).datagram false).getD 4 0).toNat = n := by
  have length : (filled id flags data n).len.toNat = n := toNat_len_filled within
  rw [classic_datagram fits]
  exact length

/-- Behind the header stand the first eight bytes of `data` and zeros. -/
theorem drop_classic_datagram (fits : data.length ≤ Dlc.maxLength) :
    ((filled id flags data n).datagram false).drop 8 =
      data.take 8 ++ List.replicate (8 - data.length) 0 := by
  rw [classic_datagram fits]
  rfl

/-- The datagram does not depend on the bytes of `data` behind the first eight. -/
theorem datagram_take (fits : data.length ≤ Dlc.maxLength) :
    (filled id flags (data.take 8) n).datagram false = (filled id flags data n).datagram false := by
  have short : (data.take 8).length ≤ Dlc.maxLength :=
    Nat.le_trans (List.length_take_le' 8 data) fits
  have zeros : 8 - (data.take 8).length = 8 - data.length := by
    rw [List.length_take]
    omega
  rw [classic_datagram short, classic_datagram fits, List.take_take, Nat.min_self, zeros]

/-- `ofWire` reads the datagram as a frame of the stated length `n` whose data ends after
    eight bytes. -/
theorem ofWire_classic_datagram (fits : data.length ≤ Dlc.maxLength) :
    ofWire ((filled id flags data n).datagram false) = filled id flags (data.take 8) n := by
  rw [← datagram_take fits, ofWire_datagram (.inr (List.length_take_le 8 data))]
  rfl

/-- With `data.length` as its length, `filled` is carried just if there are at most eight bytes. -/
theorem carriedBy_classic_iff (fits : data.length ≤ Dlc.maxLength) :
    (filled id flags data data.length).CarriedBy
      ((filled id flags data data.length).datagram false) ↔ data.length ≤ 8 := by
  have payload : (filled id flags data data.length).payload = data := by
    rw [payload_filled (Nat.le_refl _) fits, Nat.sub_self, List.replicate_zero, List.append_nil]
  rw [CarriedBy, payload, stated_classic_datagram fits fits, drop_classic_datagram fits]
  refine and_iff_left_of_imp fun short => ?_
  rw [List.take_of_length_le short]
  exact List.prefix_append _ _

end Frame

/-! ### Sending -/

/-- **Without FD a payload is sent whole just if it has at most eight bytes; a longer one is cut
    off, and nothing tells.** For a new frame with any flags the kernel is handed sixteen bytes, and
    the frame counts as sent where it takes them, whatever the length of the data. The length that
    they state is that of all the data, and behind the header they have its first eight bytes, with
    zeros up to eight. So they carry the frame just if it has at most eight bytes of data. Wherever
    the datagram is read, the event has zeros in place of the rest. -/
theorem classic_datagram_carries_iff {id : UInt32} {data : List UInt8} {f : Frame}
    (made : Frame.make? id data = some f) (flags : UInt8) {i : Interface} {s : Session}
    (there : i.session? = some s) (classic : s.config.fd = false) :
    ∃ bytes, bytes.length = classicSize ∧ i.Sends (f.withFlags flags) s.tx bytes ∧
      (bytes.getD 4 0).toNat = data.length ∧
      bytes.drop 8 = data.take 8 ++ List.replicate (8 - data.length) 0 ∧
      ((f.withFlags flags).CarriedBy bytes ↔ data.length ≤ 8) ∧
      ∀ (r : Session) (fd : Fd) (controls : List ControlMessage) (h : Host),
        h.kernel.front fd = .datagram bytes controls →
        ∃ r' e h', (r.readOne fd : HostM Empty (Session × Event × Except Failure Nat)) h =
            .ok (r', e, .ok classicSize) h' ∧
          e.frame.id = id ∧ e.frame.flags = flags ∧ e.frame.len.toNat = data.length ∧
          e.frame.payload = data.take 8 ++ List.replicate (data.length - 8) 0 := by
  obtain ⟨fits, same⟩ := Frame.withFlags_of_make? made flags
  have size := Frame.length_datagram false (Frame.filled id flags data data.length)
  have sends := Interface.sends there (Frame.filled id flags data data.length)
  rw [classic] at sends
  rw [same]
  refine ⟨_, size, sends, Frame.stated_classic_datagram fits fits, Frame.drop_classic_datagram fits,
    Frame.carriedBy_classic_iff fits, fun r fd controls h front => ?_⟩
  -- The receiver sees the sixteen bytes alone, so its frame is the one with `data.take 8`.
  obtain ⟨r', e, h', run, frame, -⟩ := Session.readOne_of_datagram (ε := Empty) (s := r) front
    (by rw [← List.length_pos_iff, size]; decide) (by rw [size]; decide)
  rw [Frame.ofWire_classic_datagram fits] at frame
  have within : (data.take 8).length ≤ data.length := List.length_take_le' 8 data
  have cut : data.length - (data.take 8).length = data.length - 8 := by
    rw [List.length_take]
    omega
  rw [size] at run
  refine ⟨r', e, h', run, by rw [frame]; rfl, by rw [frame]; rfl, ?_, ?_⟩
  · rw [frame, Frame.toNat_len_filled fits]
  · rw [frame, Frame.payload_filled within fits, cut]

/-- An initialised interface without FD, whose transmit socket is that of `Session.listening`. -/
def Interface.sendingClassic : Interface where
  name     := "can0"
  config   := .default
  link     := .external
  interval := .zero
  session? := some .listening

/-- Nine bytes are sent and come back as eight and a zero. -/
theorem classic_datagram_carries_iff_nine :
    (Frame.make? 0x123 [1, 2, 3, 4, 5, 6, 7, 8, 9]).isSome ∧
    ∃ f bytes r' e h', Frame.make? 0x123 [1, 2, 3, 4, 5, 6, 7, 8, 9] = some f ∧
      Interface.sendingClassic.Sends (f.withFlags 0) 100 bytes ∧ ¬ (f.withFlags 0).CarriedBy bytes ∧
      (Session.listening.readOne 101 : HostM Empty (Session × Event × Except Failure Nat))
        (Host.holding bytes) = .ok (r', e, .ok 16) h' ∧
      e.frame.payload = [1, 2, 3, 4, 5, 6, 7, 8, 0] := by
  have made : (Frame.make? 0x123 [1, 2, 3, 4, 5, 6, 7, 8, 9]).isSome := by decide
  refine ⟨made, ?_⟩
  obtain ⟨f, made⟩ := Option.isSome_iff_exists.mp made
  obtain ⟨bytes, -, sends, -, -, carried, reads⟩ :=
    classic_datagram_carries_iff made 0 (i := .sendingClassic) rfl rfl
  obtain ⟨r', e, h', run, -, -, -, payload⟩ := reads .listening 101 [] (.holding bytes) rfl
  exact ⟨f, bytes, r', e, h', made, sends, fun whole => absurd (carried.mp whole) (by decide), run,
    payload⟩

/-- A run of `transmit` on nine bytes, on a host where nothing fails: it succeeds, and the kernel
    was handed the first eight of them under a length of nine. -/
theorem ninth_byte_cut_off :
    ∃ f h', Frame.make? 0x123 [1, 2, 3, 4, 5, 6, 7, 8, 9] = some f ∧
      (Host.attempt (Interface.sendingClassic.transmit f) : HostM Empty (Except Failure Unit))
        (Host.holding []) = .ok (.ok ()) h' ∧
      h'.journal.calls = [.send 100 [0x23, 1, 0, 0, 9, 0, 0, 0, 1, 2, 3, 4, 5, 6, 7, 8] none] ∧
      ¬ f.CarriedBy [0x23, 1, 0, 0, 9, 0, 0, 0, 1, 2, 3, 4, 5, 6, 7, 8] := by
  have calm : (Host.holding []).kernel.Takes 16 := ⟨rfl, nofun⟩
  obtain ⟨answer, h', run, calls, goes⟩ :=
    Interface.sends (i := .sendingClassic) rfl
      (Frame.filled 0x123 0 [1, 2, 3, 4, 5, 6, 7, 8, 9] 9) (Host.holding [])
  obtain rfl := goes calm
  exact ⟨Frame.filled 0x123 0 [1, 2, 3, 4, 5, 6, 7, 8, 9] 9, h', rfl, run, calls,
    fun whole => absurd whole.1 (by decide)⟩

end CanDriver
