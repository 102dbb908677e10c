import CanDriver.Control.Ancillary
import Mathlib.Data.List.Induction
import Mathlib.Data.Nat.Digits.Defs

namespace CanDriver

/-!
# Reading control messages back

What is read of a row of control messages is what was put into it.

* `littleEndian`, `int64At` — the numbers in a payload, by place value and two's complement;
* `ControlMessage.headersAt` — the headers of a row that starts at an offset;
  `ControlMessage.walk_layout` — a walk over the row visits them and nothing else;
* `Ancillary.hear` — what a message adds, read off its payload; `decode_eq_foldl` — what the messages
  say is what they add, one after the other;
* `ControlMessage.Tells`, `lastPayload?` — the last message of a kind that is long enough;
* `control_messages_read_back` — it alone decides what is read of its kind.
-/

/-! ### Numbers in bytes -/

/-- The number with the digits `bs` in base 256, least significant first, by Mathlib's
    `Nat.ofDigits`. -/
def littleEndian (bs : List UInt8) : Nat := Nat.ofDigits 256 (bs.map UInt8.toNat)

/-- The two's complement number in the eight bytes from `offset` on. -/
def int64At (offset : Nat) (bs : List UInt8) : Int :=
  (BitVec.ofNat 64 (littleEndian ((bs.drop offset).take 8))).toInt

theorem natOfBytes_eq_littleEndian (bs : List UInt8) : natOfBytes bs = littleEndian bs := by
  unfold littleEndian
  induction bs with
  | nil => rfl
  | cons b bs ih => simp [natOfBytes, Nat.ofDigits_cons, ih]

@[simp] theorem length_bytesOfNat (n x : Nat) : (bytesOfNat n x).length = n := by
  induction n generalizing x with
  | zero => rfl
  | succ n ih => simp [bytesOfNat, ih]

/-- `n` bytes keep a number modulo `256 ^ n`. -/
theorem natOfBytes_bytesOfNat (n x : Nat) : natOfBytes (bytesOfNat n x) = x % 256 ^ n := by
  induction n generalizing x with
  | zero => simp [bytesOfNat, natOfBytes, Nat.mod_one]
  | succ n ih =>
    have low : (UInt8.ofNat (x % 256)).toNat = x % 256 := by
      rw [UInt8.toNat_ofNat']
      omega
    rw [bytesOfNat, natOfBytes, ih, low, Nat.pow_succ, Nat.mul_comm (256 ^ n), Nat.mod_mul]

theorem natOfBytes_lt (bs : List UInt8) : natOfBytes bs < 256 ^ bs.length := by
  induction bs with
  | nil => decide
  | cons b bs ih =>
    have byte : b.toNat < 256 := b.toNat_lt
    rw [natOfBytes, List.length_cons, Nat.pow_succ]
    omega

/-- Level and type of a header survive in four bytes, negative values included. -/
theorem signedOfBytes_low32 {n : Int} (low : -0x80000000 ≤ n) (high : n < 0x80000000) :
    signedOfBytes 32 (bytesOfNat 4 (low32 n)) = n := by
  have value : natOfBytes (bytesOfNat 4 (low32 n)) = (n % 0x100000000).toNat := by
    rw [natOfBytes_bytesOfNat, low32]
    simp only [bound32, Nat.reducePow, Nat.cast_ofNat]
    omega
  simp only [signedOfBytes, value, Nat.reduceSub, Nat.pow_eq, Nat.reducePow]
  split <;> omega

/-- `signedOfBytes 64` agrees with `BitVec.toInt`, so a payload can be described without the model's
    own arithmetic. -/
theorem signedOfBytes_eq_toInt {bs : List UInt8} (short : bs.length ≤ 8) :
    signedOfBytes 64 bs = (BitVec.ofNat 64 (littleEndian bs)).toInt := by
  have bound : natOfBytes bs < 256 ^ 8 :=
    Nat.lt_of_lt_of_le (natOfBytes_lt bs) (Nat.pow_le_pow_right (by decide) short)
  rw [← natOfBytes_eq_littleEndian, BitVec.toInt_eq_toNat_cond, BitVec.toNat_ofNat,
    Nat.mod_eq_of_lt (by omega)]
  simp only [signedOfBytes, Nat.reduceSub, Nat.pow_eq, Nat.reducePow]
  split <;> split <;> omega

/-! ### Memory -/

namespace ControlMessage

/-- A slice that covers exactly `part`, which lies behind `before`. -/
theorem slice_of_append {before part after : List UInt8} {start n : Nat} (place : start = before.length)
    (size : n = part.length) : slice (before ++ (part ++ after)) start n = part := by
  subst place size
  simp [slice]

/-- A slice inside `part`, at the offset `k` from its start. -/
theorem slice_within (before part after : List UInt8) (k : Nat) {n : Nat}
    (fits : k + n ≤ part.length) :
    slice (before ++ (part ++ after)) (before.length + k) n = (part.drop k).take n := by
  have inside : ((part ++ after).drop k).take n = (part.drop k).take n := by
    rw [List.drop_append_of_le_length (by omega), List.take_append_of_le_length]
    rw [List.length_drop]
    omega
  have full : ((part.drop k).take n).length = n := by
    rw [List.length_take, List.length_drop]
    omega
  rw [slice, List.drop_length_add_append, inside, full, Nat.sub_self, List.replicate_zero,
    List.append_nil]

/-- The message stands in memory as the kernel lays it out: its length field is true, and level,
    type and length fit the words that hold them. -/
structure Plain (m : ControlMessage) : Prop where
  claimed : m.claimed = none
  level   : -0x80000000 ≤ m.level ∧ m.level < 0x80000000
  kind    : -0x80000000 ≤ m.kind ∧ m.kind < 0x80000000
  length  : headerSize + m.payload.length < bound64

instance (m : ControlMessage) : Decidable m.Plain :=
  decidable_of_iff (m.claimed = none ∧ (-0x80000000 ≤ m.level ∧ m.level < 0x80000000) ∧
      (-0x80000000 ≤ m.kind ∧ m.kind < 0x80000000) ∧ headerSize + m.payload.length < bound64)
    ⟨fun ⟨claimed, level, kind, length⟩ => ⟨claimed, level, kind, length⟩,
      fun plain => ⟨plain.claimed, plain.level, plain.kind, plain.length⟩⟩

/-! ### Walking over a row -/

/-- The headers of a row that starts at `offset`, written down without looking at any memory. -/
def headersAt : Nat → List ControlMessage → List Header
  | _, []           => []
  | offset, m :: ms =>
    ⟨offset, headerSize + m.payload.length, m.level, m.kind⟩ :: headersAt (offset + m.size) ms

/-- The bytes of a row without those that fill up its last message, which a kernel need
    not report. -/
def extent : List ControlMessage → Nat
  | []      => 0
  | [m]     => headerSize + m.payload.length
  | m :: ms => m.size + extent ms

theorem le_size (m : ControlMessage) : headerSize + m.payload.length ≤ m.size := by
  simp only [size, aligned]
  omega

@[simp] theorem length_bytes (m : ControlMessage) : m.bytes.length = m.size := by
  have room := m.le_size
  simp only [bytes, List.length_append, length_bytesOfNat, List.length_replicate, headerSize] at room ⊢
  omega

@[simp] theorem layout_cons (m : ControlMessage) (ms : List ControlMessage) :
    layout (m :: ms) = m.bytes ++ layout ms := rfl

/-- `m.bytes` split into its five parts, associated to the right so that `slice_of_append`
    applies to each. -/
theorem Plain.bytes_append {m : ControlMessage} (plain : m.Plain) (after : List UInt8) :
    m.bytes ++ after = bytesOfNat 8 (headerSize + m.payload.length) ++ (bytesOfNat 4 (low32 m.level) ++
      (bytesOfNat 4 (low32 m.kind) ++ (m.payload ++
        (List.replicate (m.size - (headerSize + m.payload.length)) 0 ++ after)))) := by
  simp [bytes, ControlMessage.length, plain.claimed, List.append_assoc]

/-- `headerAt` at the start of a plain message finds its true length, level and type. -/
theorem Plain.headerAt_eq {m : ControlMessage} (plain : m.Plain) (before after : List UInt8) :
    headerAt (before ++ (m.bytes ++ after)) before.length =
      ⟨before.length, headerSize + m.payload.length, m.level, m.kind⟩ := by
  have length : natOfBytes (slice (before ++ (m.bytes ++ after)) before.length 8) =
      headerSize + m.payload.length := by
    have fits : headerSize + m.payload.length < 256 ^ 8 := plain.length
    rw [plain.bytes_append, slice_of_append rfl (by simp), natOfBytes_bytesOfNat, Nat.mod_eq_of_lt fits]
  have level : signedOfBytes 32 (slice (before ++ (m.bytes ++ after)) (before.length + 8) 4) =
      m.level := by
    rw [plain.bytes_append, ← List.append_assoc, slice_of_append (by simp) (by simp),
      signedOfBytes_low32 plain.level.1 plain.level.2]
  have kind : signedOfBytes 32 (slice (before ++ (m.bytes ++ after)) (before.length + 12) 4) =
      m.kind := by
    rw [plain.bytes_append, ← List.append_assoc, ← List.append_assoc,
      slice_of_append (by simp) (by simp), signedOfBytes_low32 plain.kind.1 plain.kind.2]
  rw [headerAt, length, level, kind]

/-- `walkFrom` stops where no header fits before the control length. -/
theorem walkFrom_end {memory : List UInt8} {n offset : Nat} (ends : n < offset + headerSize) :
    walkFrom memory n offset = [] := by
  rw [walkFrom, dif_neg (by omega)]

/-- At a plain message `walkFrom` yields its header and goes on at `m.size` behind it. -/
theorem Plain.walkFrom_bytes {m : ControlMessage} (plain : m.Plain) {before after : List UInt8} {n : Nat}
    (fits : before.length + headerSize ≤ n) :
    walkFrom (before ++ (m.bytes ++ after)) n before.length =
      ⟨before.length, headerSize + m.payload.length, m.level, m.kind⟩ ::
        walkFrom (before ++ (m.bytes ++ after)) n (before.length + m.size) := by
  have long : ¬ headerSize + m.payload.length < headerSize := by omega
  rw [walkFrom, dif_pos fits, plain.headerAt_eq, dif_neg long]
  rfl

/-- A message that is not the last counts with its full size. -/
theorem extent_cons {m : ControlMessage} {ms : List ControlMessage} (more : ms ≠ []) :
    extent (m :: ms) = m.size + extent ms := by
  cases ms with
  | nil      => exact absurd rfl more
  | cons _ _ => rfl

theorem headerSize_le_extent (m : ControlMessage) (ms : List ControlMessage) :
    headerSize ≤ extent (m :: ms) := by
  have size := m.le_size
  cases ms with
  | nil => simp [extent]
  | cons m' ms =>
    rw [extent_cons (List.cons_ne_nil _ _)]
    omega

/-- `walkFrom` over `layout ms` yields `headersAt` of the row. By induction on `ms`; the part of the
    row that lies behind moves into `before`. -/
theorem walkFrom_layout {ms : List ControlMessage} (plain : ∀ m ∈ ms, m.Plain)
    (before rest : List UInt8) {n : Nat} (covers : before.length + extent ms ≤ n)
    (ends : n < before.length + (layout ms).length + headerSize) :
    walkFrom (before ++ (layout ms ++ rest)) n before.length = headersAt before.length ms := by
  induction ms generalizing before with
  | nil => exact walkFrom_end (by simpa [layout] using ends)
  | cons m ms ih =>
    obtain ⟨first, others⟩ := List.forall_mem_cons.mp plain
    have fits := headerSize_le_extent m ms
    rw [layout_cons, List.append_assoc, first.walkFrom_bytes (by omega), headersAt]
    congr 1
    -- The next header stands behind the message, with what fills it up, or there is none.
    have place : (before ++ m.bytes).length = before.length + m.size := by simp
    rw [layout_cons, List.length_append, length_bytes] at ends
    by_cases more : ms = []
    · subst more
      rw [walkFrom_end (by simpa [layout] using ends)]
      rfl
    · rw [extent_cons more] at covers
      have tail := ih others (before ++ m.bytes) (by omega) (by omega)
      rwa [place, List.append_assoc] at tail

/-- **A walk over `layout ms` visits its messages and nothing else**, for any control length from
    `extent ms` up to where one more header would fit. -/
theorem walk_layout {ms : List ControlMessage} (plain : ∀ m ∈ ms, m.Plain) (rest : List UInt8) {n : Nat}
    (covers : extent ms ≤ n) (ends : n < (layout ms).length + headerSize) :
    walk (layout ms ++ rest) n = headersAt 0 ms := by
  exact walkFrom_layout plain [] rest (by simpa using covers) (by simpa using ends)

theorem length_headersAt (offset : Nat) (ms : List ControlMessage) :
    (headersAt offset ms).length = ms.length := by
  induction ms generalizing offset with
  | nil => rfl
  | cons m ms ih => simp [headersAt, ih]

/-! ### What a message tells -/

/-- `m` is of the level of sockets, of the given kind, and has the least payload for it. -/
def Tells (kind : Int) (least : Nat) (m : ControlMessage) : Prop :=
  m.level = Ancillary.socketLevel ∧ m.kind = kind ∧ least ≤ m.payload.length

instance (kind : Int) (least : Nat) (m : ControlMessage) : Decidable (m.Tells kind least) :=
  inferInstanceAs (Decidable (_ ∧ _ ∧ _))

end ControlMessage

namespace Ancillary

open ControlMessage

/-- A number of seconds at `offset` and behind it one of parts that take `unit` nanoseconds each;
    what is negative counts as zero. -/
def timeAt (unit offset : Nat) (bs : List UInt8) : Duration :=
  ⟨(max (int64At offset bs) 0).toNat * 1000000000 + (max (int64At (offset + 8) bs) 0).toNat * unit⟩

/-- The three times of a `SCM_TIMESTAMPING` payload. -/
def timesAt (bs : List UInt8) : Duration × Duration × Duration :=
  (timeAt 1 0 bs, timeAt 1 16 bs, timeAt 1 32 bs)

/-- What the message `m` adds to `a`, read off its payload and not off any memory. -/
def hear (a : Ancillary) (m : ControlMessage) : Ancillary :=
  if m.Tells dropCounterKind 4 then
    { a with dropped := some (UInt32.ofNat (littleEndian (m.payload.take 4))) }
  else if m.Tells timestampKind 16 then { a with software := some (timeAt 1000 0 m.payload) }
  else if m.Tells timestampingKind 48 then { a with stamps := some (timesAt m.payload) }
  else a

/-- The two numbers of a time, as `microsTime` and `nanosTime` cut them out of sixteen bytes. -/
theorem signedOfBytes_at (offset : Nat) (bs : List UInt8) :
    (signedOfBytes 64 (((bs.drop offset).take 16).take 8)).toNat = (max (int64At offset bs) 0).toNat ∧
      (signedOfBytes 64 ((((bs.drop offset).take 16).drop 8).take 8)).toNat =
        (max (int64At (offset + 8) bs) 0).toNat := by
  have first : ((bs.drop offset).take 16).take 8 = (bs.drop offset).take 8 := by simp [List.take_take]
  have second : (((bs.drop offset).take 16).drop 8).take 8 = (bs.drop (offset + 8)).take 8 := by
    simp [List.drop_take, List.take_take]
  rw [first, second, signedOfBytes_eq_toInt (List.length_take_le ..),
    signedOfBytes_eq_toInt (List.length_take_le ..)]
  unfold int64At
  omega

theorem microsTime_eq (offset : Nat) (bs : List UInt8) :
    microsTime ((bs.drop offset).take 16) = timeAt 1000 offset bs := by
  obtain ⟨first, second⟩ := signedOfBytes_at offset bs
  rw [microsTime, first, second]
  rfl

theorem nanosTime_eq (offset : Nat) (bs : List UInt8) :
    nanosTime ((bs.drop offset).take 16) = timeAt 1 offset bs := by
  obtain ⟨first, second⟩ := signedOfBytes_at offset bs
  rw [nanosTime, first, second, timeAt, Nat.mul_one]
  rfl

/-- `note` at the header of a plain message is `hear` of the message, wherever it lies in memory. -/
theorem note_eq_hear {m : ControlMessage} (plain : m.Plain) (before after : List UInt8) (a : Ancillary) :
    note (before ++ (m.bytes ++ after)) a
      ⟨before.length, headerSize + m.payload.length, m.level, m.kind⟩ = a.hear m := by
  -- The payload stands behind the header, and what is read of it lies within it.
  have place : before.length + headerSize = (before ++ (bytesOfNat 8 (headerSize + m.payload.length) ++
      (bytesOfNat 4 (low32 m.level) ++ bytesOfNat 4 (low32 m.kind)))).length := by
    simp
  have within (k n : Nat) (fits : k + n ≤ m.payload.length) :
      slice (before ++ (m.bytes ++ after)) (before.length + headerSize + k) n =
        (m.payload.drop k).take n := by
    have part := slice_within (before ++ (bytesOfNat 8 (headerSize + m.payload.length) ++
      (bytesOfNat 4 (low32 m.level) ++ bytesOfNat 4 (low32 m.kind)))) m.payload
      (List.replicate (m.size - (headerSize + m.payload.length)) 0 ++ after) k fits
    rw [plain.bytes_append, place]
    simpa [List.append_assoc] using part
  have size : (⟨before.length, headerSize + m.payload.length, m.level, m.kind⟩ : Header).payloadSize =
      m.payload.length := by
    simp [Header.payloadSize]
  unfold note hear Tells
  simp only [size]
  -- Both sides test level, kind and size in the same order; only the fields are read differently.
  by_cases level : m.level = socketLevel
  · simp only [level, ne_eq, not_true_eq_false, if_false, true_and]
    split
    · next counts =>
      rw [wordOfBytes, List.take_of_length_le (by simp [slice]), natOfBytes_eq_littleEndian]
      rw [show before.length + headerSize = before.length + headerSize + 0 from rfl,
        within 0 4 (by omega), List.drop_zero]
    · split
      · next stamps =>
        rw [show before.length + headerSize = before.length + headerSize + 0 from rfl,
          within 0 16 (by omega), microsTime_eq]
      · split
        · next stamps =>
          rw [within (16 * 0) 16 (by omega), within (16 * 1) 16 (by omega), within (16 * 2) 16 (by omega),
            nanosTime_eq, nanosTime_eq, nanosTime_eq]
          rfl
        · rfl
  · simp [level]

/-! ### What a row tells -/

/-- Folding `note` over the headers of a row is folding `hear` over its messages. -/
theorem foldl_note_headersAt {ms : List ControlMessage} (plain : ∀ m ∈ ms, m.Plain)
    (before rest : List UInt8) (a : Ancillary) :
    (headersAt before.length ms).foldl (note (before ++ (layout ms ++ rest))) a = ms.foldl hear a := by
  induction ms generalizing before a with
  | nil => rfl
  | cons m ms ih =>
    obtain ⟨first, others⟩ := List.forall_mem_cons.mp plain
    have place : (before ++ m.bytes).length = before.length + m.size := by simp
    have tail := ih others (before ++ m.bytes) (a.hear m)
    rw [place, List.append_assoc] at tail
    rw [headersAt, List.foldl_cons, List.foldl_cons, layout_cons, List.append_assoc,
      note_eq_hear first, tail]

/-- `decode` of a row is the fold of `hear`, which no longer mentions memory, offsets or headers. -/
theorem decode_eq_foldl {ms : List ControlMessage} (plain : ∀ m ∈ ms, m.Plain) (rest : List UInt8)
    {n : Nat} (covers : extent ms ≤ n) (ends : n < (layout ms).length + headerSize) :
    decode (layout ms ++ rest) n = ms.foldl hear none := by
  rw [decode, walk_layout plain rest covers ends]
  exact foldl_note_headersAt plain [] rest none

/-- The payload of the last message of `ms` that `Tells` something of the kind. -/
def lastPayload? (kind : Int) (least : Nat) (ms : List ControlMessage) : Option (List UInt8) :=
  (ms.filter (·.Tells kind least)).getLast?.map (·.payload)

theorem lastPayload?_append (kind : Int) (least : Nat) (ms : List ControlMessage) (m : ControlMessage) :
    lastPayload? kind least (ms ++ [m]) =
      if m.Tells kind least then some m.payload else lastPayload? kind least ms := by
  unfold lastPayload?
  by_cases tells : m.Tells kind least
  · simp [List.filter_append, tells]
  · simp [List.filter_append, tells]

/-- A field of `Ancillary` that only messages of one kind set is what `lastPayload?` of that
    kind says. -/
theorem field_foldl_hear {β : Type} (field : Ancillary → Option β) (value : List UInt8 → β)
    {kind : Int} {least : Nat} (silent : field none = Option.none)
    (set : ∀ a m, field (hear a m) = if m.Tells kind least then some (value m.payload) else field a)
    (ms : List ControlMessage) :
    field (ms.foldl hear none) = (lastPayload? kind least ms).map value := by
  induction ms using List.reverseRecOn with
  | nil => exact silent
  | append_singleton ms m ih =>
    rw [List.foldl_append, List.foldl_cons, List.foldl_nil, set, ih, lastPayload?_append]
    split <;> rfl

theorem hear_dropped (a : Ancillary) (m : ControlMessage) :
    (a.hear m).dropped = if m.Tells dropCounterKind 4 then
      some (UInt32.ofNat (littleEndian (m.payload.take 4))) else a.dropped := by
  unfold hear
  split
  · rfl
  · split
    · rfl
    · split <;> rfl

theorem hear_software (a : Ancillary) (m : ControlMessage) :
    (a.hear m).software = if m.Tells timestampKind 16 then some (timeAt 1000 0 m.payload)
      else a.software := by
  -- A message is of one kind at most.
  have other : m.Tells dropCounterKind 4 → ¬ m.Tells timestampKind 16 := by
    rintro ⟨-, kind, -⟩ ⟨-, kind', -⟩
    exact absurd (kind.symm.trans kind') (by decide)
  unfold hear
  split
  · next counts => rw [if_neg (other counts)]
  · split
    · rfl
    · split <;> rfl

theorem hear_stamps (a : Ancillary) (m : ControlMessage) :
    (a.hear m).stamps = if m.Tells timestampingKind 48 then some (timesAt m.payload) else a.stamps := by
  have other {kind : Int} {least : Nat} (differs : kind ≠ timestampingKind) :
      m.Tells kind least → ¬ m.Tells timestampingKind 48 := by
    rintro ⟨-, kind, -⟩ ⟨-, kind', -⟩
    exact differs (kind.symm.trans kind')
  unfold hear
  split
  · next counts => rw [if_neg (other (by decide) counts)]
  · split
    · next stamps => rw [if_neg (other (by decide) stamps)]
    · split <;> rfl

/-- `m` `Tells` something of one of the three kinds. -/
def Counts (m : ControlMessage) : Prop :=
  m.Tells dropCounterKind 4 ∨ m.Tells timestampKind 16 ∨ m.Tells timestampingKind 48

instance (m : ControlMessage) : Decidable (Counts m) := inferInstanceAs (Decidable (_ ∨ _ ∨ _))

/-- Messages that do not count may be left out of the fold, wherever they stand. -/
theorem foldl_hear_filter (ms : List ControlMessage) (a : Ancillary) :
    (ms.filter Counts).foldl hear a = ms.foldl hear a := by
  have skip : (fun a m => if decide (Counts m) then hear a m else a) = hear := by
    funext a m
    by_cases counts : Counts m
    · simp [counts]
    · simp only [Counts, not_or] at counts
      simp [Counts, hear, counts]
  rw [List.foldl_filter, skip]

theorem int64At_lt (offset : Nat) (bs : List UInt8) : int64At offset bs < 0x8000000000000000 :=
  BitVec.toInt_lt

/-- The seconds of a time have room in 64 bits, carries from its parts included. -/
theorem secs_timeAt_lt {unit : Nat} (small : unit ≤ 1000) (offset : Nat) (bs : List UInt8) :
    (timeAt unit offset bs).secs < bound64 := by
  have whole := int64At_lt offset bs
  have part := int64At_lt (offset + 8) bs
  have scaled := Nat.mul_le_mul_left (max (int64At (offset + 8) bs) 0).toNat small
  simp only [timeAt, Duration.secs, bound64]
  omega

end Ancillary

open ControlMessage Ancillary

/-- The bytes that fill up the last message are part of the layout. -/
theorem ControlMessage.extent_le_length (ms : List ControlMessage) : extent ms ≤ (layout ms).length := by
  induction ms with
  | nil => exact Nat.le_refl 0
  | cons m ms ih =>
    have size := m.le_size
    rw [layout_cons, List.length_append, length_bytes]
    by_cases more : ms = []
    · subst more
      simp only [extent]
      omega
    · rw [extent_cons more]
      omega

/-- **Control messages are read back.** Whatever stands in the row and whatever lies behind it, a
    walk over the row ends after its messages, one step for each. The drop counter, the software
    time and the three time stamps are those of the last message of the socket's level that has the
    kind and is long enough, and no time is too large. All other messages may as well be absent. -/
theorem control_messages_read_back {ms : List ControlMessage} (plain : ∀ m ∈ ms, m.Plain)
    (rest : List UInt8) {n : Nat} (covers : extent ms ≤ n) (ends : n ≤ (layout ms).length) :
    (walk (layout ms ++ rest) n).length = ms.length ∧
    (decode (layout ms ++ rest) n).dropped.map UInt32.toNat =
      (lastPayload? 40 4 ms).map (fun bs => littleEndian (bs.take 4)) ∧
    (decode (layout ms ++ rest) n).software = (lastPayload? 29 16 ms).map (timeAt 1000 0) ∧
    (decode (layout ms ++ rest) n).stamps = (lastPayload? 37 48 ms).map timesAt ∧
    (∀ unit ≤ 1000, ∀ offset bs, (timeAt unit offset bs).secs < bound64) ∧
    decode (layout ms ++ rest) n = ofMessages (ms.filter Counts) := by
  have within : n < (layout ms).length + headerSize :=
    Nat.lt_of_le_of_lt ends (Nat.lt_add_of_pos_right (by decide))
  have read := decode_eq_foldl plain rest covers within
  have dropped := field_foldl_hear Ancillary.dropped
    (fun bs => UInt32.ofNat (littleEndian (bs.take 4))) rfl hear_dropped ms
  -- The model keeps the counter in a word; four bytes always fit.
  have word (bs : List UInt8) : littleEndian (bs.take 4) < 2 ^ 32 := by
    rw [← natOfBytes_eq_littleEndian]
    exact Nat.lt_of_lt_of_le (natOfBytes_lt _) (Nat.pow_le_pow_right (by decide) (List.length_take_le ..))
  refine ⟨?_, ?_, ?_, ?_, fun _ small => secs_timeAt_lt small, ?_⟩
  · rw [walk_layout plain rest covers within, length_headersAt]
  · rw [read, dropped, Option.map_map]
    congr 1
    funext bs
    exact UInt32.toNat_ofNat_of_lt' (word bs)
  · rw [read]
    exact field_foldl_hear Ancillary.software (timeAt 1000 0) rfl hear_software ms
  · rw [read]
    exact field_foldl_hear Ancillary.stamps timesAt rfl hear_stamps ms
  · -- The messages that count are heard alone as they are among the others.
    have kept : ∀ m ∈ ms.filter Counts, m.Plain := fun m mem => plain m (List.mem_filter.mp mem).1
    have alone := decode_eq_foldl kept [] (extent_le_length _) (Nat.lt_add_of_pos_right (by decide))
    rw [List.append_nil] at alone
    rw [read, ofMessages, alone, foldl_hear_filter]

/-- A counter of another level and one that is too short stand behind the one that counts, and the
    last message is not filled up. -/
theorem counter_and_time_read_back :
    let ms : List ControlMessage := [⟨1, 40, [5, 1, 0, 0], .none⟩, ⟨0, 40, [7, 7, 7, 7], .none⟩,
      ⟨1, 29, [3, 0, 0, 0, 0, 0, 0, 0, 2, 0, 0, 0, 0, 0, 0, 0], .none⟩, ⟨1, 40, [1, 2, 3], .none⟩]
    (∀ m ∈ ms, m.Plain) ∧ extent ms ≤ 99 ∧ 99 ≤ (layout ms).length ∧
      (decode (layout ms ++ [255]) 99).dropped.map UInt32.toNat = some 261 ∧
      (decode (layout ms ++ [255]) 99).software = some ⟨3000002000⟩ ∧
      (decode (layout ms ++ [255]) 99).stamps = .none := by
  intro ms
  have plain : ∀ m ∈ ms, m.Plain := by decide
  have covers : extent ms ≤ 99 := by decide
  have ends : 99 ≤ (layout ms).length := by decide
  obtain ⟨-, dropped, software, stamps, -⟩ := control_messages_read_back plain [255] covers ends
  refine ⟨plain, covers, ends, ?_, ?_, ?_⟩
  · rw [dropped]
    decide
  · rw [software]
    decide
  · rw [stamps]
    decide

end CanDriver
