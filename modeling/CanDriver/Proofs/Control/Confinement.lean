import CanDriver.Proofs.Control.Reading
import Mathlib.Data.List.Basic

namespace CanDriver

/-!
# How far control messages are read

A walk over control messages looks at headers within the control length, but takes the size of a
payload from the header in front of it:

* `SameBelow n` — two memories hold the same bytes below an offset; `poke` — a memory with one byte
  changed;
* `ControlMessage.walkFrom_congr`, `length_walkFrom`, `walkFrom_pairwise` — the headers lie within the
  control length, which decides them; messages do not overlap, so that all but the last lie within
  it too;
* `Header.readsTo` — the end of what is read at a header; `Ancillary.decode_congr` — nothing behind the
  ends counts, and `Ancillary.note_poke` — the byte in front of one does;
* `control_data_decides_iff` — the control data alone decides what is read, unless the last message
  is read beyond it.
-/

/-- Two memories hold the same bytes below the offset `n`; behind the end of a memory there
    are zeros. -/
def SameBelow (n : Nat) (memory memory' : List UInt8) : Prop :=
  ∀ i < n, memory.getD i 0 = memory'.getD i 0

/-- `SameBelow n` implies `SameBelow m` for a smaller `m`. -/
theorem SameBelow.mono {m n : Nat} {memory memory' : List UInt8} (same : SameBelow n memory memory')
    (below : m ≤ n) : SameBelow m memory memory' :=
  fun i inside => same i (Nat.lt_of_lt_of_le inside below)

/-- `memory` with the byte `v` at offset `p`, extended by zeros as far as that. -/
def poke (p : Nat) (v : UInt8) (memory : List UInt8) : List UInt8 :=
  (memory ++ List.replicate (p + 1 - memory.length) 0).set p v

theorem getD_poke (p : Nat) (v : UInt8) (memory : List UInt8) (i : Nat) :
    (poke p v memory).getD i 0 = if i = p then v else memory.getD i 0 := by
  have room : p < (memory ++ List.replicate (p + 1 - memory.length) 0).length := by
    rw [List.length_append, List.length_replicate]
    omega
  rw [poke, List.getD_eq_getElem?_getD, List.getElem?_set]
  by_cases here : i = p
  · rw [if_pos here.symm, if_pos room, if_pos here, Option.getD_some]
  · rw [if_neg (Ne.symm here), if_neg here, List.getD_eq_getElem?_getD, List.getElem?_append]
    split
    · rfl
    · next behind =>
      rw [List.getElem?_replicate, List.getElem?_eq_none (Nat.le_of_not_lt behind)]
      split <;> rfl

/-- `poke p` changes nothing below `p`. -/
theorem sameBelow_poke {n p : Nat} (v : UInt8) (memory : List UInt8) (behind : n ≤ p) :
    SameBelow n memory (poke p v memory) := by
  intro i inside
  rw [getD_poke, if_neg (by omega)]

namespace ControlMessage

variable {memory memory' : List UInt8} {n offset : Nat}

/-! ### Parts of a memory -/

theorem slice_eq_map (memory : List UInt8) (start n : Nat) :
    slice memory start n = (List.range n).map fun i => memory.getD (start + i) 0 := by
  have size : (slice memory start n).length = n := by simp [slice]
  refine List.ext_getElem (by rw [size, List.length_map, List.length_range]) fun i inside _ => ?_
  rw [size] at inside
  rw [List.getElem_map, List.getElem_range, List.getD_eq_getElem?_getD]
  simp only [slice, List.getElem_append, List.getElem_take, List.getElem_drop, List.getElem_replicate]
  split
  · next there =>
    rw [List.length_take, List.length_drop] at there
    rw [List.getElem?_eq_getElem (by omega), Option.getD_some]
  · next missing =>
    rw [List.length_take, List.length_drop] at missing
    rw [List.getElem?_eq_none (by omega), Option.getD_none]

@[simp] theorem length_slice (memory : List UInt8) (start n : Nat) :
    (slice memory start n).length = n := by
  rw [slice_eq_map, List.length_map, List.length_range]

/-- `slice` depends on nothing outside its own range. -/
theorem slice_congr (same : SameBelow n memory memory') {start size : Nat} (within : start + size ≤ n) :
    slice memory start size = slice memory' start size := by
  rw [slice_eq_map, slice_eq_map]
  refine List.map_congr_left fun i inside => same _ ?_
  have := List.mem_range.mp inside
  omega

/-- A slice that ends with the byte that `poke` put there. -/
theorem slice_poke (memory : List UInt8) (v : UInt8) (start size : Nat) :
    slice (poke (start + size) v memory) start (size + 1) = slice memory start size ++ [v] := by
  have before : slice (poke (start + size) v memory) start size = slice memory start size :=
    (slice_congr (sameBelow_poke v memory (Nat.le_refl _)) (Nat.le_refl _)).symm
  have last : slice (poke (start + size) v memory) start (size + 1) =
      slice (poke (start + size) v memory) start size ++
        [(poke (start + size) v memory).getD (start + size) 0] := by
    rw [slice_eq_map, slice_eq_map, List.range_succ, List.map_append, List.map_singleton]
  rw [last, before, getD_poke, if_pos rfl]

/-! ### The headers of a walk -/

theorem headerAt_congr (same : SameBelow n memory memory') (fits : offset + headerSize ≤ n) :
    headerAt memory offset = headerAt memory' offset := by
  simp only [headerSize] at fits
  rw [headerAt, headerAt, slice_congr same (by omega), slice_congr same (by omega),
    slice_congr same (by omega)]

/-- The first `n` bytes decide which headers a walk with control length `n` visits. -/
theorem walkFrom_congr (same : SameBelow n memory memory') (offset : Nat) :
    walkFrom memory n offset = walkFrom memory' n offset := by
  fun_induction walkFrom memory n offset with
  | case1 offset fits last =>
    rw [headerAt_congr same fits] at last
    rw [walkFrom, dif_pos fits, dif_pos last, headerAt_congr same fits]
  | case2 offset fits more ih =>
    rw [headerAt_congr same fits] at more ih
    rw [walkFrom.eq_def memory', dif_pos fits, dif_neg more, headerAt_congr same fits, ih]
  | case3 offset ends => rw [walkFrom, dif_neg ends]

/-- `aligned` never shortens, so a walk always gets ahead. -/
theorem le_aligned (n : Nat) : n ≤ aligned n := by
  simp only [aligned]
  omega

/-- A walk has at most one header for each `headerSize` bytes of the control length, whatever the
    headers claim. -/
theorem length_walkFrom (memory : List UInt8) (n offset : Nat) :
    headerSize * (walkFrom memory n offset).length ≤ n - offset := by
  fun_induction walkFrom memory n offset with
  | case1 offset fits last =>
    rw [List.length_singleton]
    omega
  | case2 offset fits more ih =>
    have := le_aligned (headerAt memory offset).length
    rw [List.length_cons, Nat.mul_succ]
    omega
  | case3 offset ends => exact Nat.zero_le _

/-- Every header of a walk lies between its start and the control length. -/
theorem mem_walkFrom {h : Header} (there : h ∈ walkFrom memory n offset) :
    offset ≤ h.offset ∧ h.offset + headerSize ≤ n := by
  fun_induction walkFrom memory n offset with
  | case1 offset fits last =>
    rw [List.mem_singleton.mp there]
    exact ⟨Nat.le_refl _, fits⟩
  | case2 offset fits more ih =>
    rcases List.mem_cons.mp there with rfl | later
    · exact ⟨Nat.le_refl _, fits⟩
    · obtain ⟨behind, within⟩ := ih later
      exact ⟨Nat.le_trans (Nat.le_add_right _ _) behind, within⟩
  | case3 offset ends => exact absurd there List.not_mem_nil

/-- Each message ends before the next header starts, by the lengths that they claim. -/
theorem walkFrom_pairwise (memory : List UInt8) (n offset : Nat) :
    (walkFrom memory n offset).Pairwise fun g h => g.offset + g.length ≤ h.offset := by
  fun_induction walkFrom memory n offset with
  | case1 offset fits last => exact List.pairwise_singleton _ _
  | case2 offset fits more ih =>
    refine List.pairwise_cons.mpr ⟨fun h later => ?_, ih⟩
    have := le_aligned (headerAt memory offset).length
    exact Nat.le_trans (Nat.add_le_add_left this offset) (mem_walkFrom later).1
  | case3 offset ends => exact .nil

/-- All messages but the last lie within the control length: another header follows them there. -/
theorem mem_dropLast_walkFrom {h : Header} (there : h ∈ (walkFrom memory n offset).dropLast) :
    h.offset + h.length ≤ n := by
  have some_last : walkFrom memory n offset ≠ [] := by
    intro empty
    rw [empty] at there
    exact absurd there List.not_mem_nil
  have whole := List.dropLast_append_getLast some_last
  have apart := walkFrom_pairwise memory n offset
  rw [← whole] at apart
  have before := (List.pairwise_append.mp apart).2.2 h there _ (List.mem_singleton_self _)
  have within := (mem_walkFrom (List.getLast_mem some_last)).2
  omega

end ControlMessage

/-! ### What is read at a header -/

namespace ControlMessage.Header

open Ancillary

/-- How many bytes of the payload `note` looks at, which is zero where it skips the message. -/
def reads (h : Header) : Nat :=
  if h.level ≠ socketLevel then 0
  else if h.kind = dropCounterKind ∧ 4 ≤ h.payloadSize then 4
  else if h.kind = timestampKind ∧ 16 ≤ h.payloadSize then 16
  else if h.kind = timestampingKind ∧ 48 ≤ h.payloadSize then 48
  else 0

/-- The offset where that ends. -/
def readsTo (h : Header) : Nat := h.offset + headerSize + h.reads

/-- `note` looks at no more than the header claims, and at 48 bytes at most. -/
theorem reads_le (h : Header) : h.reads ≤ h.payloadSize ∧ h.reads ≤ 48 := by
  unfold reads
  split_ifs <;> omega

end ControlMessage.Header

namespace Ancillary

open ControlMessage

variable {memory memory' : List UInt8} {n : Nat}

/-- The four branches of `note`, each with its value of `reads`. -/
theorem note_cases (h : Header) :
    (h.reads = 0 ∧ ∀ memory a, note memory a h = a) ∨
    (h.reads = 4 ∧ ∀ memory a, note memory a h =
      { a with dropped := some (wordOfBytes (slice memory (h.offset + headerSize) 4)) }) ∨
    (h.reads = 16 ∧ ∀ memory a, note memory a h =
      { a with software := some (microsTime (slice memory (h.offset + headerSize) 16)) }) ∨
    (h.reads = 48 ∧ ∀ memory a, note memory a h =
      { a with stamps := some (nanosTime (slice memory (h.offset + headerSize) 16),
                               nanosTime (slice memory (h.offset + headerSize + 16) 16),
                               nanosTime (slice memory (h.offset + headerSize + 32) 16)) }) := by
  unfold Header.reads note
  split_ifs with level counts time times
  · exact .inl ⟨rfl, fun _ _ => rfl⟩
  · exact .inr (.inl ⟨rfl, fun _ _ => rfl⟩)
  · exact .inr (.inr (.inl ⟨rfl, fun _ _ => rfl⟩))
  · exact .inr (.inr (.inr ⟨rfl, fun _ _ => rfl⟩))
  · exact .inl ⟨rfl, fun _ _ => rfl⟩

/-- `note` at `h` depends only on the memory below `h.readsTo`. -/
theorem note_congr {h : Header} (same : SameBelow h.readsTo memory memory') (a : Ancillary) :
    note memory a h = note memory' a h := by
  unfold Header.readsTo at same
  obtain ⟨-, adds⟩ | ⟨size, adds⟩ | ⟨size, adds⟩ | ⟨size, adds⟩ := note_cases h
  · rw [adds, adds]
  · rw [size] at same
    rw [adds, adds, slice_congr same (Nat.le_refl _)]
  · rw [size] at same
    rw [adds, adds, slice_congr same (Nat.le_refl _)]
  · rw [size] at same
    rw [adds, adds, slice_congr same (by omega), slice_congr same (by omega),
      slice_congr same (by omega)]

/-- `decode` depends on the control data, which decides the headers, and on the memory below each
    `readsTo`. -/
theorem decode_congr (same : SameBelow n memory memory')
    (reads : ∀ h ∈ walk memory n, SameBelow h.readsTo memory memory') :
    decode memory n = decode memory' n := by
  have headers : walk memory' n = walk memory n := (walkFrom_congr same 0).symm
  rw [decode, decode, headers]
  exact List.foldl_ext _ _ _ fun a h there => note_congr (reads h there) a

/-! ### The last byte that is read -/

theorem natOfBytes_concat (bs : List UInt8) (v : UInt8) :
    natOfBytes (bs ++ [v]) = natOfBytes bs + 256 ^ bs.length * v.toNat := by
  rw [natOfBytes_eq_littleEndian, natOfBytes_eq_littleEndian, littleEndian, littleEndian,
    List.map_append, List.map_singleton, Nat.ofDigits_append, Nat.ofDigits_singleton, List.length_map]

/-- The fourth byte of a counter shows in its value. -/
theorem wordOfBytes_concat_inj {bs : List UInt8} (size : bs.length = 3) {v w : UInt8}
    (same : wordOfBytes (bs ++ [v]) = wordOfBytes (bs ++ [w])) : v = w := by
  have value (v : UInt8) : (wordOfBytes (bs ++ [v])).toNat = natOfBytes bs + 256 ^ 3 * v.toNat := by
    have rest := natOfBytes_lt bs
    have byte := v.toNat_lt
    rw [wordOfBytes, List.take_of_length_le (by simp [size]), natOfBytes_concat, UInt32.toNat_ofNat',
      size, Nat.mod_eq_of_lt]
    rw [size] at rest
    omega
  have := congrArg UInt32.toNat same
  rw [value, value] at this
  exact UInt8.toNat_inj.mp (by omega)

/-- The two numbers of a time, of which the last byte `v` leaves the sign alone. -/
theorem time_concat {bs : List UInt8} (size : bs.length = 15) {v : UInt8} (small : v.toNat < 128) :
    (signedOfBytes 64 ((bs ++ [v]).take 8)).toNat = (signedOfBytes 64 (bs.take 8)).toNat ∧
      (signedOfBytes 64 (((bs ++ [v]).drop 8).take 8)).toNat =
        natOfBytes (bs.drop 8) + 256 ^ 7 * v.toNat := by
  have first : (bs ++ [v]).take 8 = bs.take 8 := List.take_append_of_le_length (by omega)
  have second : ((bs ++ [v]).drop 8).take 8 = bs.drop 8 ++ [v] := by
    rw [List.drop_append_of_le_length (by omega), List.take_of_length_le (by simp [size])]
  have seven : (bs.drop 8).length = 7 := by rw [List.length_drop, size]
  have rest := natOfBytes_lt (bs.drop 8)
  rw [seven] at rest
  refine ⟨by rw [first], ?_⟩
  rw [second, signedOfBytes, natOfBytes_concat, seven, if_pos, Int.toNat_natCast]
  simp only [Nat.reduceSub, Nat.pow_eq, Nat.reducePow]
  omega

/-- The last byte of a time shows in its value, whatever its unit. -/
theorem time_concat_inj {bs : List UInt8} (size : bs.length = 15) {v w : UInt8}
    (smallV : v.toNat < 128) (smallW : w.toNat < 128) :
    (microsTime (bs ++ [v]) = microsTime (bs ++ [w]) → v = w) ∧
      (nanosTime (bs ++ [v]) = nanosTime (bs ++ [w]) → v = w) := by
  obtain ⟨firstV, secondV⟩ := time_concat size smallV
  obtain ⟨firstW, secondW⟩ := time_concat size smallW
  refine ⟨fun same => UInt8.toNat_inj.mp ?_, fun same => UInt8.toNat_inj.mp ?_⟩
  · have := congrArg Duration.nanos same
    simp only [microsTime, Duration.nanos_add, Duration.ofSecs, Duration.ofMicros, firstV, firstW,
      secondV, secondW] at this
    omega
  · have := congrArg Duration.nanos same
    simp only [nanosTime, Duration.nanos_add, Duration.ofSecs, Duration.ofNanos, firstV, firstW,
      secondV, secondW] at this
    omega

/-- The last byte that `note` reads at `h` shows in what it adds, as long as it sets no sign bit. -/
theorem note_poke {h : Header} (read : 0 < h.reads) {v w : UInt8} (smallV : v.toNat < 128)
    (smallW : w.toNat < 128) {a b : Ancillary}
    (same : note (poke (h.offset + headerSize + (h.reads - 1)) v memory) a h =
      note (poke (h.offset + headerSize + (h.reads - 1)) w memory) b h) : v = w := by
  obtain ⟨size, -⟩ | ⟨size, adds⟩ | ⟨size, adds⟩ | ⟨size, adds⟩ := note_cases h
  · exact absurd read (by omega)
  · rw [size, adds, adds] at same
    have counts := Option.some.inj (congrArg Ancillary.dropped same)
    rw [slice_poke, slice_poke] at counts
    exact wordOfBytes_concat_inj (length_slice ..) counts
  · rw [size, adds, adds] at same
    have time := Option.some.inj (congrArg Ancillary.software same)
    rw [slice_poke, slice_poke] at time
    exact (time_concat_inj (length_slice ..) smallV smallW).1 time
  · rw [size, adds, adds] at same
    have times := Option.some.inj (congrArg Ancillary.stamps same)
    -- Of three time stamps the last byte belongs to the third.
    have third := congrArg (·.2.2) times
    rw [show h.offset + headerSize + (48 - 1) = h.offset + headerSize + 32 + 15 by omega] at third
    dsimp only at third
    rw [slice_poke, slice_poke] at third
    exact (time_concat_inj (length_slice ..) smallV smallW).2 third

/-- If the control data decides `decode`, the last header reads nothing behind it: else `note_poke`
    gives two memories that differ there and are decoded differently. -/
theorem readsTo_le_of_decode_eq {h : Header} (last : (walk memory n).getLast? = some h)
    (decides : ∀ memory', SameBelow n memory memory' → decode memory' n = decode memory n) :
    h.readsTo ≤ n := by
  by_contra beyond
  rw [Header.readsTo] at beyond
  have within := (mem_walkFrom (List.mem_of_getLast? last)).2
  have behind : n ≤ h.offset + headerSize + (h.reads - 1) := by omega
  obtain ⟨before, whole⟩ := List.getLast?_eq_some_iff.mp last
  have said (v : UInt8) : ∃ a, note (poke (h.offset + headerSize + (h.reads - 1)) v memory) a h =
      decode memory n := by
    have same := sameBelow_poke v memory behind
    refine ⟨before.foldl (note (poke (h.offset + headerSize + (h.reads - 1)) v memory)) none, ?_⟩
    rw [← decides _ same, decode, walk, ← walkFrom_congr same, ← walk, whole, List.foldl_append,
      List.foldl_cons, List.foldl_nil]
  obtain ⟨a, one⟩ := said 1
  obtain ⟨b, two⟩ := said 2
  exact absurd (note_poke (by omega) (by decide) (by decide) (one.trans two.symm)) (by decide)

end Ancillary

open ControlMessage Ancillary

/-- **The control data decides what is read of it, unless the last message claims more.** Whatever
    the memory holds and whatever the headers in it claim, a walk ends after at most one step for
    each sixteen bytes of the control length, and visits headers within it only, as the control data
    says. All messages but the last lie within the control length. So what lies behind it does not
    count if and only if what is read of the last message, by the length that it claims, ends within
    the control length; and never more than 48 bytes behind it count. -/
theorem control_data_decides_iff (memory : List UInt8) (n : Nat) :
    headerSize * (walk memory n).length ≤ n ∧
    (∀ h ∈ walk memory n, h.offset + headerSize ≤ n) ∧
    (∀ h ∈ (walk memory n).dropLast, h.offset + h.length ≤ n) ∧
    (∀ memory', SameBelow n memory memory' → walk memory' n = walk memory n) ∧
    ((∀ memory', SameBelow n memory memory' → decode memory' n = decode memory n) ↔
      ∀ h ∈ (walk memory n).getLast?, h.offset + headerSize + h.reads ≤ n) ∧
    (∀ memory', SameBelow (n + 48) memory memory' → decode memory' n = decode memory n) := by
  refine ⟨length_walkFrom memory n 0, fun h there => (mem_walkFrom there).2,
    fun h there => mem_dropLast_walkFrom there, fun _ same => (walkFrom_congr same 0).symm,
    ⟨fun decides h last => readsTo_le_of_decode_eq last decides, fun reads memory' same => ?_⟩,
    fun memory' same => ?_⟩
  · refine (decode_congr same fun h there => same.mono ?_).symm
    -- A message that is not the last is read no further than it claims, and that is within.
    rw [Header.readsTo]
    have some_last := List.ne_nil_of_mem there
    rw [← List.dropLast_append_getLast some_last] at there
    rcases List.mem_append.mp there with earlier | last
    · have claimed := mem_dropLast_walkFrom earlier
      have payload := h.reads_le.1
      have within := (mem_walkFrom (List.dropLast_subset _ earlier)).2
      rw [Header.payloadSize] at payload
      omega
    · rw [List.mem_singleton.mp last]
      exact reads _ (List.getLast?_eq_some_getLast some_last)
  · refine (decode_congr (same.mono (Nat.le_add_right n 48)) fun h there => same.mono ?_).symm
    exact Nat.add_le_add (mem_walkFrom there).2 h.reads_le.2

/-- Two memories with the same header of a drop counter, and nothing else within the control length,
    are decoded differently. -/
theorem control_data_undecided :
    let memory (count : UInt8) := layout [⟨1, 40, [count, 0, 0, 0], .none⟩]
    SameBelow 16 (memory 7) (memory 8) ∧
      (decode (memory 7) 16).dropped = some 7 ∧ (decode (memory 8) 16).dropped = some 8 := by
  intro memory
  have visits {m : List UInt8} (claims : (headerAt m 0).length = 20) : walk m 16 = [headerAt m 0] := by
    rw [walk, walkFrom, dif_pos (by decide), claims, dif_neg (by decide), walkFrom_end (by decide)]
  refine ⟨by unfold SameBelow; decide, ?_, ?_⟩
  · rw [decode, visits (by decide)]
    decide
  · rw [decode, visits (by decide)]
    decide

end CanDriver
