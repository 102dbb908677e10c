import CanDriver.Proofs.Frames.Layout
import CanDriver.Proofs.Polling.SingleShot
import CanDriver.Proofs.Sessions.Stages
import CanDriver.Transmission
import Mathlib.Order.Bounds.Basic

namespace CanDriver

/-!
# Frames sent and read back

A frame is sent as the first bytes of its layout, with FD after its length was rounded up:

* `Dlc.roundUp_isLeast` — that is the least length with a code that is long enough;
* `Frame.filled` — data under an identifier word, filled up with zeros to some length; what is sent
  for a new frame is one of these (`Frame.prepared_filled`);
* `Frame.ofWire_take_wire` — the first bytes of the layout tell the frame, where only zeros are cut
  off;
* `Interface.Sends` — what the kernel is handed for a frame, whatever the state of the host;
* `Session.readOne_datagram` — what a receive makes of a datagram.
-/

/-! ### Lengths -/

namespace Dlc

/-- `Dlc.sizes` ascends with the codes, so the first entry that is long enough is also the least. -/
theorem sizes_sorted : sizes.Pairwise (· < ·) := by decide

/-- **`roundUp n` is the least length with a code that is at least `n`.** -/
theorem roundUp_isLeast {n : Nat} (fits : n ≤ maxLength) :
    IsLeast {m | m ∈ sizes ∧ n ≤ m} (roundUp n) := by
  have coded : sizes.findIdx (n ≤ ·) < sizes.length :=
    List.findIdx_lt_length_of_exists ⟨maxLength, by decide, decide_eq_true fits⟩
  have value : roundUp n = sizes[sizes.findIdx (n ≤ ·)] := by
    have code : ofLength n = sizes.findIdx (n ≤ ·) := Nat.min_eq_left (Nat.le_of_lt_succ coded)
    have four_bits : sizes.findIdx (n ≤ ·) % 16 = sizes.findIdx (n ≤ ·) := Nat.mod_eq_of_lt coded
    rw [roundUp, code, length, four_bits, List.getD_eq_getElem?_getD,
      List.getElem?_eq_getElem coded, Option.getD_some]
  rw [value]
  refine ⟨⟨List.getElem_mem coded, of_decide_eq_true (List.findIdx_getElem (w := coded))⟩, ?_⟩
  rintro m ⟨there, above⟩
  obtain ⟨code, bound, rfl⟩ := List.getElem_of_mem there
  -- No length with a smaller code is long enough, and those with a larger code are longer.
  have late : sizes.findIdx (n ≤ ·) ≤ code := by
    by_contra early
    have short := List.not_of_lt_findIdx (Nat.lt_of_not_le early)
    exact Bool.false_ne_true (short.symm.trans (decide_eq_true above))
  rcases Nat.eq_or_lt_of_le late with same | later
  · simp only [same, le_refl]
  · exact Nat.le_of_lt (List.pairwise_iff_getElem.mp sizes_sorted _ _ coded bound later)

variable {n : Nat}

theorem le_roundUp (fits : n ≤ maxLength) : n ≤ roundUp n := (roundUp_isLeast fits).1.2

theorem roundUp_le (fits : n ≤ maxLength) : roundUp n ≤ maxLength :=
  (roundUp_isLeast fits).2 ⟨by decide, fits⟩

/-- `roundUp` is idempotent: its values have codes. -/
theorem roundUp_roundUp (fits : n ≤ maxLength) : roundUp (roundUp n) = roundUp n := by
  have coded : IsLeast {m | m ∈ sizes ∧ roundUp n ≤ m} (roundUp n) :=
    ⟨⟨(roundUp_isLeast fits).1.1, Nat.le_refl _⟩, fun _ above => above.2⟩
  exact (roundUp_isLeast (roundUp_le fits)).unique coded

end Dlc

/-! ### The layout -/

namespace Frame

/-- `ofWire` reads `f` back from the first `n` bytes of its layout, where only zeros of `f.data`
    are cut off. -/
theorem ofWire_take_wire {f : Frame} {n : Nat} (header : 8 ≤ n)
    (zeros : ∀ i (inside : i < 64), n ≤ 8 + i → f.data[i] = 0) : ofWire (f.wire.take n) = f := by
  have word : wordOfBytes (f.wire.take n) = f.id := by
    rw [wordOfBytes, List.take_take, Nat.min_eq_left (Nat.le_trans (by decide) header), wire,
      List.append_assoc]
    exact wordOfBytes_wordBytes _ _
  have byte (i : Nat) (inside : i < 8) : (f.wire.take n).getD i 0 = f.wire.getD i 0 := by
    rw [List.getD_eq_getElem?_getD, List.getD_eq_getElem?_getD,
      List.getElem?_take_of_lt (Nat.lt_of_lt_of_le inside header)]
  -- Byte `i` of the payload is either within the first `n` bytes or a zero that was cut off.
  have data : room ((f.wire.take n).drop 8) = f.data := by
    ext i inside
    have behind : f.wire[8 + i]? = some f.data[i] := by
      simp [wire, wordBytes, Nat.add_comm 8 i, inside]
    rw [getElem_room inside, List.getD_eq_getElem?_getD, List.getElem?_drop, List.getElem?_take]
    split
    · rw [behind, Option.getD_some]
    · next cut => rw [Option.getD_none, zeros i inside (Nat.le_of_not_lt cut)]
  simp only [ofWire, word, data, byte 4 (by decide), byte 5 (by decide), byte 6 (by decide),
    byte 7 (by decide)]
  rfl

/-! ### The frame that is sent -/

/-- The frame that `data` is sent in: under the word `id`, with the length `n` and zeros
    behind `data`. -/
def filled (id : UInt32) (flags : UInt8) (data : List UInt8) (n : Nat) : Frame :=
  { empty with id, flags, len := UInt8.ofNat n, data := room data }

/-- The length under which `n` bytes are sent: `Dlc.roundUp n` with FD, and `n` itself without. -/
def sentLength (fd : Bool) (n : Nat) : Nat := if fd then Dlc.roundUp n else n

variable {id : UInt32} {data : List UInt8} {flags : UInt8} {n : Nat} {fd : Bool}

/-- A frame from `make?` is `filled` with the length of its data, and any flags may be put on it. -/
theorem withFlags_of_make? {f : Frame} (made : make? id data = some f) (flags : UInt8) :
    data.length ≤ Dlc.maxLength ∧ f.withFlags flags = filled id flags data data.length := by
  obtain ⟨fits, same⟩ := Option.ite_none_right_eq_some.mp made
  exact ⟨fits, Option.some.inj same ▸ rfl⟩

theorem data_filled : (filled id flags data n).data = room data := rfl

theorem toNat_len_filled (fits : n ≤ Dlc.maxLength) : (filled id flags data n).len.toNat = n := by
  rw [filled, UInt8.toNat_ofNat', Nat.mod_eq_of_lt (Nat.lt_of_le_of_lt fits (by decide))]

/-- `prepared` replaces the length of `filled` by `sentLength`, and nothing else. -/
theorem prepared_filled (fits : n ≤ Dlc.maxLength) :
    (filled id flags data n).prepared fd = filled id flags data (sentLength fd n) := by
  cases fd with
  | false => rfl
  | true  =>
    have capped : min (Dlc.roundUp n) Dlc.maxLength = Dlc.roundUp n :=
      Nat.min_eq_left (Dlc.roundUp_le fits)
    simp only [prepared, sentLength, if_true, withLength, toNat_len_filled fits, capped]
    rfl

theorem sentLength_le (fits : n ≤ Dlc.maxLength) : sentLength fd n ≤ Dlc.maxLength := by
  cases fd with
  | false => exact fits
  | true  => exact Dlc.roundUp_le fits

theorem le_sentLength (fits : n ≤ Dlc.maxLength) : n ≤ sentLength fd n := by
  cases fd with
  | false => exact Nat.le_refl n
  | true  => exact Dlc.le_roundUp fits

theorem sentLength_sentLength (fits : n ≤ Dlc.maxLength) :
    sentLength fd (sentLength fd n) = sentLength fd n := by
  cases fd with
  | false => rfl
  | true  => exact Dlc.roundUp_roundUp fits

/-- The payload of `filled` is `data` and zeros up to the length. -/
theorem payload_filled (within : data.length ≤ n) (fits : n ≤ Dlc.maxLength) :
    (filled id flags data n).payload = data ++ List.replicate (n - data.length) 0 := by
  have all : min n 64 = n := Nat.min_eq_left fits
  rw [payload, toNat_len_filled fits, data_filled, all]
  refine List.ext_getElem ?_ fun i inside _ => ?_
  · simp only [List.length_take, Vector.length_toList, List.length_append, List.length_replicate, all]
    omega
  · simp only [List.length_take, Vector.length_toList] at inside
    rw [List.getElem_take, Vector.getElem_toList, getElem_room (by omega),
      List.getD_eq_getElem?_getD, List.getElem_append]
    split
    · next counts => rw [List.getElem?_eq_getElem counts, Option.getD_some]
    · next fill   =>
      rw [List.getElem?_eq_none (Nat.le_of_not_lt fill), List.getElem_replicate, Option.getD_none]

/-- **Read back, a datagram is the `prepared` frame that it was made of**, with FD or for at most
    eight bytes of data. -/
theorem ofWire_datagram (room : fd = true ∨ data.length ≤ 8) :
    ofWire ((filled id flags data n).datagram fd) = (filled id flags data n).prepared fd := by
  refine ofWire_take_wire (by cases fd <;> decide) fun i inside cut => ?_
  have same : ((filled id flags data n).prepared fd).data = Frame.room data := by
    cases fd <;> rfl
  simp only [same, getElem_room inside, List.getD_eq_getElem?_getD]
  -- A byte that is cut off stands behind the data.
  have behind : data.length ≤ i := by
    rcases room with rfl | short
    · exact absurd cut (by simp only [wireSize, if_true, fdSize]; omega)
    · cases fd with
      | true  => exact absurd cut (by simp only [wireSize, if_true, fdSize]; omega)
      | false =>
        simp only [wireSize, Bool.false_eq_true, if_false, classicSize] at cut
        omega
  rw [List.getElem?_eq_none behind, Option.getD_none]

/-- Sending the `prepared` frame again gives the same datagram. -/
theorem datagram_prepared (fits : n ≤ Dlc.maxLength) :
    ((filled id flags data n).prepared fd).datagram fd = (filled id flags data n).datagram fd := by
  rw [datagram, datagram, prepared_filled fits, prepared_filled (sentLength_le fits),
    sentLength_sentLength fits]

end Frame

/-! ### Sending -/

/-- The next send in `k` neither fails nor takes fewer than `n` bytes. -/
structure Kernel.Takes (n : Nat) (k : Kernel) : Prop where
  calm  : k.nextFault .send = none
  whole : ∀ taken ∈ (k.faults.queue .sendCount).head?, n ≤ taken.toNat

/-- For the frame `f` the kernel is handed these bytes on this socket, and nothing else; where it
    takes all of them, the frame counts as sent. -/
def Interface.Sends (i : Interface) (f : Frame) (socket : Fd) (bytes : List UInt8) : Prop :=
  ∀ h : Host, ∃ answer h',
    (Host.attempt (i.transmit f) : HostM Empty (Except Failure Unit)) h = .ok answer h' ∧
    h'.journal.calls =
      h.journal.calls ++ [.send socket bytes (h.kernel.nextFault .send)] ∧
    (h.kernel.Takes bytes.length → answer = .ok ())

namespace Faults

/-- `set p` leaves the scripts of other calls alone. -/
theorem queue_set_of_ne {p q : Point} (other : q ≠ p) (ns : List Int) (f : Faults) :
    (f.set p ns).queue q = f.queue q := by
  have rest (script : List (Point × List Int)) :
      (script.filter (·.1 ≠ p)).lookup q = script.lookup q := by
    induction script with
    | nil => rfl
    | cons entry script ih =>
      by_cases own : entry.1 = p
      · have differs : (q == entry.1) = false := beq_false_of_ne (own ▸ other)
        rw [List.filter_cons_of_neg (by simpa using own), ih, List.lookup_cons, differs]
      · rw [List.filter_cons_of_pos (by simpa using own), List.lookup_cons, List.lookup_cons, ih]
  rw [queue, queue, set, List.lookup_cons, beq_false_of_ne other]
  exact congrArg (·.getD []) (rest f.script)

/-- `take p` leaves the scripts of other calls alone. -/
theorem queue_take_of_ne {p q : Point} (other : q ≠ p) (f : Faults) :
    (f.take p).2.queue q = f.queue q := by
  unfold take
  cases f.queue p with
  | nil       => rfl
  | cons n ns => exact queue_set_of_ne other ns f

/-- What `take` answers is the head of the script. -/
theorem take_fst (p : Point) (f : Faults) : (f.take p).1 = (f.queue p).head? := by
  unfold take
  cases f.queue p <;> rfl

end Faults

namespace Host

/-- The host after `send` has asked for a failure and recorded the bytes, before it is known how
    many are taken. -/
def offered (fd : Fd) (bytes : List UInt8) (h : Host) : Host :=
  { h.past .send with
    journal := h.journal.push (.call (.send fd bytes (h.kernel.nextFault .send))) }

variable {fd : Fd} {bytes : List UInt8} {h : Host}

/-- A scripted failure of `send` leaves the host `offered`. -/
theorem send_of_fault {e : Errno} (fails : h.kernel.nextFault .send = some e) :
    Host.send fd bytes h = .error e (h.offered fd bytes) := by
  rw [offered, fails, Host.send, bind_ok (fault_apply ..)]
  rw [Kernel.nextFault] at fails
  rw [fails]
  rfl

/-- Without a scripted failure `send` answers, with the journal of `offered`; where the kernel
    `Takes` the bytes, the answer counts all of them. -/
theorem send_of_calm (fd : Fd) (bytes : List UInt8) (calm : h.kernel.nextFault .send = none) :
    ∃ taken h', Host.send fd bytes h = .ok taken h' ∧
      h'.journal = (h.offered fd bytes).journal ∧
      (h.kernel.Takes bytes.length → bytes.length ≤ taken) := by
  let next := ((h.offered fd bytes).kernel.faults.take .sendCount).1
  -- The byte count that is scripted, if any, is taken after the call was recorded.
  have course : Host.send fd bytes h =
      .ok (next.elim bytes.length Int.toNat)
        ((h.offered fd bytes).past .sendCount) := by
    have asked : (scripted .sendCount : HostM Errno (Option Int)) (h.offered fd bytes) =
        .ok next ((h.offered fd bytes).past .sendCount) := rfl
    rw [offered, calm] at asked ⊢
    rw [Host.send, bind_ok (fault_apply ..)]
    rw [Kernel.nextFault] at calm
    rw [calm]
    refine (bind_ok (add_apply ..)).trans ((bind_ok (pure_apply ..)).trans
      ((bind_ok asked).trans ?_))
    cases next <;> rfl
  refine ⟨_, _, course, rfl, fun takes => ?_⟩
  -- Asking for a failure first has not touched the scripted byte counts.
  have scripted : next = (h.kernel.faults.queue .sendCount).head? :=
    (Faults.take_fst ..).trans
      (congrArg List.head? (Faults.queue_take_of_ne (by decide) h.kernel.faults))
  have whole := takes.whole
  rw [← scripted] at whole
  cases first : next with
  | none   => exact Nat.le_refl _
  | some n => exact whole n first

end Host

section Sending

open Host

variable {socket : Fd} {name : String} {fd : Bool} {f : Frame} {h : Host}

/-- A log record is no call. -/
theorem Host.calls_logged (level : Log.Level) (target : Log.Target) (text : String) (h : Host) :
    (h.logged level target text).journal.calls = h.journal.calls :=
  Journal.calls_push_silent rfl _

/-- `Transmission.send` makes one call, the `send` of `f.datagram fd`, on every way out, and
    succeeds where the kernel takes all of it. -/
theorem Transmission.send_spec :
    ∃ answer h', (attempt (Transmission.send socket name fd f) :
        HostM Empty (Except Failure Unit)) h = .ok answer h' ∧
      h'.journal.calls = h.journal.calls ++
        [.send socket (f.datagram fd) (h.kernel.nextFault .send)] ∧
      (h.kernel.Takes (f.datagram fd).length → answer = .ok ()) := by
  have offered : (h.offered socket (f.datagram fd)).journal.calls = h.journal.calls ++
      [.send socket (f.datagram fd) (h.kernel.nextFault .send)] := by
    simp [Host.offered, Journal.calls, Effect.call?]
  cases fails : h.kernel.nextFault .send with
  | some e =>
    rw [fails] at offered
    have refused : Host.send socket (f.datagram fd) h = .error e (h.offered socket (f.datagram fd)) :=
      send_of_fault fails
    -- Where the send fails, the kernel does not take the bytes, so the last part is void.
    have never (answer : Except Failure Unit) :
        h.kernel.Takes (f.datagram fd).length → answer = .ok () := by
      intro takes
      cases fails.symm.trans takes.calm
    generalize h.offered socket (f.datagram fd) = h₁ at offered refused
    -- The failure is turned into one of two others.
    cases full : queueFull e with
    | true  =>
      have run : Transmission.send socket name fd f h = .error (.os .txRetryLater e) h₁ :=
        bind_error ((orElse_error refused).trans (by rw [full]; rfl))
      exact ⟨_, _, attempt_error run, offered, never _⟩
    | false =>
      have run : Transmission.send socket name fd f h = .error (.os .txSocketWrite e)
          (h₁.logged .error .transmission (name ++ ": socket write failed: " ++ e.message)) :=
        bind_error ((orElse_error refused).trans (by rw [full]; rfl))
      exact ⟨_, _, attempt_error run, (calls_logged ..).trans offered, never _⟩
  | none =>
    obtain ⟨taken, h₁, sent, journal, whole⟩ := send_of_calm socket (f.datagram fd) fails
    rw [fails, ← journal] at offered
    rw [Frame.length_datagram] at whole ⊢
    -- The third way to fail is a short count, which `Takes` rules out.
    by_cases short : taken < Frame.wireSize fd
    · have run : Transmission.send socket name fd f h = .error (.ofCode .incompleteFrame)
          (h₁.logged .error .transmission (name ++ ": incomplete frame written (" ++
            Numeral.text taken ++ "/" ++ Numeral.text (Frame.wireSize fd) ++ ")")) :=
        (bind_ok (orElse_ok sent)).trans (by rw [if_pos short]; rfl)
      exact ⟨_, _, attempt_error run, (calls_logged ..).trans offered,
        fun takes => absurd (whole takes) (Nat.not_le_of_lt short)⟩
    · have run : Transmission.send socket name fd f h = .ok ()
          (h₁.logged .trace .transmission (name ++ ": tx " ++ (f.prepared fd).text)) :=
        (bind_ok (orElse_ok sent)).trans (by rw [if_neg short]; rfl)
      exact ⟨_, _, attempt_ok run, (calls_logged ..).trans offered, fun _ => rfl⟩

/-- `Transmission.send_spec` for the transmit socket of an interface that has a session. -/
theorem Interface.sends {i : Interface} {s : Session} (there : i.session? = some s) (f : Frame) :
    i.Sends f s.tx (f.datagram s.config.fd) := by
  intro h
  have same : i.transmit f = Transmission.send s.tx s.name s.config.fd f := by
    rw [Interface.transmit, Interface.session, there]
    rfl
  rw [same]
  exact Transmission.send_spec

end Sending

/-! ### Reading -/

/-- `readOne` on a datagram at the head of a queue answers `Event.ofDatagram` of it and the number
    of its bytes. -/
theorem Session.readOne_datagram {ε : Type} {s : Session} {fd : Fd} {bytes : List UInt8}
    {controls : List ControlMessage} {h : Host} (front : h.kernel.front fd = .datagram bytes controls)
    (some_read : bytes ≠ []) (short : bytes.length ≤ fdSize) :
    ∃ s' h', (s.readOne fd : HostM ε (Session × Event × Except Failure Nat)) h =
      .ok (s', .ofDatagram s.config (s.roleOf fd) fd bytes controls, .ok bytes.length) h' := by
  have goes : (Item.datagram bytes controls).endsTurn = false := by
    rw [Item.endsTurn, List.isEmpty_eq_false_iff]
    exact some_read
  -- An empty queue has no datagram at its front.
  have queue : ∃ rest, h.kernel.queue fd = .datagram bytes controls :: rest := by
    rw [Kernel.front] at front
    cases there : h.kernel.queue fd with
    | nil =>
      rw [there] at front
      cases front
    | cons item rest =>
      rw [there] at front
      exact ⟨rest, congrArg (· :: rest) front⟩
  obtain ⟨rest, queue⟩ := queue
  obtain ⟨e, h', event, run, -, -⟩ := readOne_apply (ε := ε) (s := s) queue goes
  have size : (Item.datagram bytes controls).size = bytes.length := Nat.min_eq_left short
  rw [size] at run
  obtain rfl : Event.ofDatagram s.config (s.roleOf fd) fd bytes controls = e := Option.some.inj event
  exact ⟨_, h', run⟩

/-- In that event `frame` is `ofWire` of the bytes, and `isError` is the error flag of
    that frame. -/
theorem Session.readOne_of_datagram {ε : Type} {s : Session} {fd : Fd} {bytes : List UInt8}
    {controls : List ControlMessage} {h : Host} (front : h.kernel.front fd = .datagram bytes controls)
    (some_read : bytes ≠ []) (short : bytes.length ≤ fdSize) :
    ∃ s' e h', (s.readOne fd : HostM ε (Session × Event × Except Failure Nat)) h =
        .ok (s', e, .ok bytes.length) h' ∧
      e.frame = Frame.ofWire bytes ∧ e.isError = e.frame.isError := by
  obtain ⟨s', h', run⟩ := readOne_datagram (ε := ε) (s := s) front some_read short
  refine ⟨s', _, h', run, ?_⟩
  cases s.roleOf fd <;> exact ⟨rfl, rfl⟩

/-- **What is sent is read back.** For a new frame, sent with FD or with at most eight bytes of
    data, the kernel is handed a datagram; wherever that is read, the event has a frame with the
    same identifier word and flags, with the least length that has a code and is long enough,
    without FD exactly the length of the data, and with the data and then zeros for payload; its
    error mark is the error flag of the identifier word. For the frame that was sent, and for the
    one that was read, the same datagram is handed to the kernel again. -/
theorem sent_frame_read_back {id : UInt32} {data : List UInt8} {f : Frame}
    (made : Frame.make? id data = some f) (flags : UInt8) {i : Interface} {s : Session}
    (there : i.session? = some s) (room : s.config.fd = true ∨ data.length ≤ 8) :
    ∃ bytes, bytes.length = Frame.wireSize s.config.fd ∧
      i.Sends (f.withFlags flags) s.tx bytes ∧
      ∀ (r : Session) (fd : Fd) (controls : List ControlMessage) (h : Host),
        h.kernel.front fd = .datagram bytes controls →
        ∃ r' e h', (r.readOne fd : HostM Empty (Session × Event × Except Failure Nat)) h =
            .ok (r', e, .ok bytes.length) h' ∧
          e.frame.id = id ∧ e.frame.flags = flags ∧
          (s.config.fd = true →
            IsLeast {n | n ∈ Dlc.sizes ∧ data.length ≤ n} e.frame.len.toNat) ∧
          (s.config.fd = false → e.frame.len.toNat = data.length) ∧
          e.frame.payload = data ++ List.replicate (e.frame.len.toNat - data.length) 0 ∧
          (e.isError = true ↔ id &&& errorFlag ≠ 0) ∧
          i.Sends e.frame s.tx bytes := by
  obtain ⟨fits, same⟩ := Frame.withFlags_of_make? made flags
  rw [same]
  refine ⟨_, Frame.length_datagram .., Interface.sends there _, fun r fd controls h front => ?_⟩
  have short : Frame.sentLength s.config.fd data.length ≤ Dlc.maxLength := Frame.sentLength_le fits
  -- The frame that is read is the one that was sent.
  obtain ⟨r', e, h', run, frame, isError⟩ := Session.readOne_of_datagram (ε := Empty) (s := r) front
    (by rw [← List.length_pos_iff, Frame.length_datagram]; cases s.config.fd <;> decide)
    (by rw [Frame.length_datagram]; cases s.config.fd <;> decide)
  have again : e.frame.datagram s.config.fd =
      (Frame.filled id flags data data.length).datagram s.config.fd := by
    rw [frame, Frame.ofWire_datagram room, Frame.datagram_prepared fits]
  rw [Frame.ofWire_datagram room, Frame.prepared_filled fits] at frame
  have length : e.frame.len.toNat = Frame.sentLength s.config.fd data.length := by
    rw [frame, Frame.toNat_len_filled short]
  refine ⟨r', e, h', run, by rw [frame]; rfl, by rw [frame]; rfl, ?_, ?_, ?_, ?_, ?_⟩
  · intro withFd
    rw [length, withFd]
    exact Dlc.roundUp_isLeast fits
  · intro classic
    rw [length, classic]
    rfl
  · rw [length, frame]
    exact Frame.payload_filled (Frame.le_sentLength fits) short
  · rw [isError, frame]
    exact bne_iff_ne
  · rw [← again]
    exact Interface.sends there e.frame

/-- An initialised interface with FD, whose transmit socket is that of `Session.listening`. -/
def Interface.sending : Interface where
  name     := "can0"
  config   := { Config.default with fd := true }
  link     := .external
  interval := .zero
  session? := some { Session.listening with config := { Config.default with fd := true } }

/-- A host on which the datagram `bytes` waits in socket 101, the one receive socket. -/
def Host.holding (bytes : List UInt8) : Host where
  kernel  := { Kernel.start [] .none [] with
    nextFd  := 102
    sockets := [⟨100, [], 0, 0, none⟩, ⟨101, [.datagram bytes []], 0, 0, none⟩] }
  journal := #[]

/-- Nine bytes in an error frame are sent with FD and come back as twelve. -/
theorem sent_frame_read_back_nine :
    (Frame.make? 0x20000004 [1, 2, 3, 4, 5, 6, 7, 8, 9]).isSome ∧
    ∃ f bytes r' e h', Frame.make? 0x20000004 [1, 2, 3, 4, 5, 6, 7, 8, 9] = some f ∧
      Interface.sending.Sends (f.withFlags 1) 100 bytes ∧
      (Session.listening.readOne 101 : HostM Empty (Session × Event × Except Failure Nat))
        (Host.holding bytes) = .ok (r', e, .ok 72) h' ∧
      e.frame.len.toNat = 12 ∧ e.frame.payload = [1, 2, 3, 4, 5, 6, 7, 8, 9, 0, 0, 0] ∧
      e.isError = true ∧ Interface.sending.Sends e.frame 100 bytes := by
  have made : (Frame.make? 0x20000004 [1, 2, 3, 4, 5, 6, 7, 8, 9]).isSome := by decide
  refine ⟨made, ?_⟩
  obtain ⟨f, made⟩ := Option.isSome_iff_exists.mp made
  obtain ⟨bytes, length, sends, reads⟩ :=
    sent_frame_read_back made 1 (i := .sending) rfl (.inl rfl)
  obtain ⟨r', e, h', run, -, -, least, -, payload, isError, again⟩ :=
    reads .listening 101 [] (.holding bytes) rfl
  have twelve : e.frame.len.toNat = 12 :=
    (least rfl).unique ⟨by decide, fun m above => by
      have all : ∀ m ∈ Dlc.sizes, 9 ≤ m → 12 ≤ m := by decide
      exact all m above.1 above.2⟩
  rw [length] at run
  rw [twelve] at payload
  exact ⟨f, bytes, r', e, h', made, sends, run, twelve, payload, isError.mpr (by decide), again⟩

end CanDriver
