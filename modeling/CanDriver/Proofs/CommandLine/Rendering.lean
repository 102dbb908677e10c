import CanDriver.Frame.Text
import CanDriver.Proofs.CommandLine.Notation
import CanDriver.Proofs.Text.Hexadecimal

namespace CanDriver

/-!
# The text of frames in the notation

What is printed of a frame is a text in the notation of frames, and is read back.

* `Frame.IsClassicData` — a data frame of either format without FD flags and with eight bytes at most;
* `Frame.identifierChars_eq` — its identifier is printed with the width that tells its format;
* `Frame.IsClassicData.written` — what its text says;
* `Frame.IsClassicData.parse_text` — what is read of its text;
* `Frame.parse_text_of_isError` — nothing is read of the text of an error frame;
* `text_read_back` — printing and reading agree; `padding_not_printed` — where they do not.
-/

namespace Frame

open Cli

/-- A data frame of the classic size: an identifier of eleven bits, or one of 29 bits with
    `extendedFlag`, and no other flag; no FD flags, and eight bytes at most. -/
structure IsClassicData (f : Frame) : Prop where
  word  : f.id ≤ 0x7FF ∨ ∃ n ≤ 0x1FFFFFFF, f.id = n ||| extendedFlag
  flags : f.flags = 0
  short : f.len ≤ 8

/-! ### Identifiers -/

/-- `Hex.padded` with the width of its format is an `Identifier`. -/
theorem identifier_padded (signs : Prop) {n : Nat} {extended : Bool}
    (bound : n ≤ if extended then 0x1FFFFFFF else 0x7FF) :
    Identifier signs (Hex.padded .upper (if extended then 8 else 3) n) n extended := by
  have spells (width : Nat) : Numeral.Spells signs 16 (Hex.padded .upper width n) n :=
    .digits (Hex.digits_padded ..)
  cases extended with
  | false =>
    have small : n ≤ 0x7FF := bound
    exact .standard (Hex.length_padded _ (Nat.lt_of_le_of_lt small (by decide)) (by decide)) (spells 3) small
  | true =>
    have small : n ≤ 0x1FFFFFFF := bound
    exact .extended (Hex.length_padded _ (Nat.lt_of_le_of_lt small (by decide)) (by decide)) (spells 8) small

/-- Without the error flag, `identifierChars` of a standard frame shows the identifier alone. -/
theorem and_standardMask_or_errorFlag {w : UInt32} (noError : (w &&& errorFlag != 0) = false) :
    w &&& (standardMask ||| errorFlag) = w &&& standardMask := by
  have bit : w.toNat &&& errorFlag.toNat = 0 := by
    rw [← UInt32.toNat_and, bne_eq_false_iff_eq.mp noError]
    rfl
  apply UInt32.toNat_inj.mp
  rw [UInt32.toNat_and, UInt32.toNat_or, Nat.and_or_distrib_left, bit, Nat.or_zero, UInt32.toNat_and]

/-- `identifierChars` has the width that tells the format of the frame. -/
theorem identifierChars_eq {f : Frame} {n : Nat} {extended : Bool}
    (bound : n ≤ if extended then 0x1FFFFFFF else 0x7FF)
    (word : f.id = identifierWord n extended false) :
    f.identifierChars = Hex.padded .upper (if extended then 8 else 3) n := by
  obtain ⟨value, format, -, noError⟩ := (identifier_padded True bound).shows word
  cases extended with
  | false =>
    rw [identifier, format, if_neg Bool.false_ne_true] at value
    rw [identifierChars, format, if_neg Bool.false_ne_true, and_standardMask_or_errorFlag noError, value]
    rfl
  | true =>
    rw [identifierChars, format, if_pos rfl, value]
    rfl

/-- The identifier word is an `identifierWord` of a number within its format. -/
theorem IsClassicData.exists_identifier {f : Frame} (classic : f.IsClassicData) :
    ∃ n extended, (n ≤ if extended then 0x1FFFFFFF else 0x7FF) ∧
      f.id = identifierWord n extended false := by
  rcases classic.word with standard | ⟨n, small, word⟩
  · refine ⟨f.id.toNat, false, UInt32.le_iff_toNat_le.mp standard, ?_⟩
    rw [← ofNat_eq_identifierWord, UInt32.ofNat_toNat]
  · have bound : n.toNat ≤ 0x1FFFFFFF := UInt32.le_iff_toNat_le.mp small
    refine ⟨n.toNat, true, bound, ?_⟩
    rw [word, ← or_extendedFlag bound, UInt32.ofNat_toNat]

/-! ### Payloads -/

theorem length_payload_le (f : Frame) : f.payload.length ≤ f.len.toNat := by
  simp only [payload, List.length_take]
  omega

theorem pairs_bytes (signs : Prop) (bs : List UInt8) : Pairs signs (Hex.bytes .upper bs) bs := by
  induction bs with
  | nil => exact .nil
  | cons b bs ih =>
    have first : Numeral.Spells signs 16 (Hex.byte .upper b) b.toNat := .digits (Hex.digits_byte ..)
    have pairs := Pairs.cons first ih
    rwa [UInt8.ofNat_toNat] at pairs

/-- `Hex.bytes` is a `Payload`: there are no dots between the digits. -/
theorem payload_bytes (signs : Prop) (bs : List UInt8) : Payload signs (Hex.bytes .upper bs) bs := by
  have pairs := pairs_bytes signs bs
  have undotted : (Hex.bytes .upper bs).filter (· != '.') = Hex.bytes .upper bs := by
    refine List.filter_eq_self.mpr fun c mem => ?_
    rw [bne_iff_ne]
    rintro rfl
    exact absurd (digit_or_plus_of_mem_pairs pairs mem) (by decide)
  rwa [Payload, undotted]

/-! ### Texts -/

/-- The text of `f` is `Written`, with the identifier and the payload of `f`. -/
theorem IsClassicData.written (signs : Prop) {f : Frame} (classic : f.IsClassicData) :
    ∃ n extended, Written signs f.text.toList ⟨n, extended, false, false, 0, f.payload⟩ ∧
      f.id = identifierWord n extended false := by
  obtain ⟨n, extended, bound, word⟩ := classic.exists_identifier
  refine ⟨n, extended, ?_, word⟩
  have short : f.payload.length ≤ 8 :=
    Nat.le_trans f.length_payload_le (UInt8.le_iff_toNat_le.mp classic.short)
  rw [text, String.toList_ofList, chars, identifierChars_eq bound word]
  exact .classic (identifier_padded signs bound) (payload_bytes signs f.payload) short

/-- **`parse` reads the text of `f` as the frame that `Carries` its word and its payload.** What
    lies behind the payload in `f` is not printed. -/
theorem IsClassicData.parse_text {f : Frame} (classic : f.IsClassicData) {g : Frame}
    (carries : g.Carries f.id 0 f.payload) : FrameSpec.parse f.text = .ok ⟨g, false⟩ := by
  obtain ⟨n, extended, written, word⟩ := classic.written True
  rw [word] at carries
  exact (parse_eq_ok_iff _ _).mpr ⟨_, written, carries, rfl⟩

/-- For every frame there is one with the same word and payload and nothing else in it. -/
theorem exists_carries (f : Frame) : ∃ g : Frame, g.Carries f.id 0 f.payload := by
  have room : f.payload.length ≤ Dlc.maxLength := by
    simp only [payload, List.length_take]
    omega
  have made : make? f.id f.payload = some _ := if_pos room
  exact ⟨_, (make?_eq_some_iff.mp made).2⟩

/-- A frame that `Carries` at most eight bytes under a word of either format is `IsClassicData`. -/
theorem Carries.isClassicData {f : Frame} {word : UInt32} {bs : List UInt8} (carries : f.Carries word 0 bs)
    (format : word ≤ 0x7FF ∨ ∃ n ≤ 0x1FFFFFFF, word = n ||| extendedFlag) (short : bs.length ≤ 8) :
    f.IsClassicData where
  word  := carries.word ▸ format
  flags := carries.flags
  short := by
    rw [UInt8.le_iff_toNat_le, carries.length]
    exact short

/-! ### Error frames -/

/-- With the error flag, what `identifierChars` prints is above `1FFFFFFF`. -/
theorem lt_and_errorFlag {w : UInt32} (error : (w &&& errorFlag != 0) = true) :
    0x1FFFFFFF < (w &&& (standardMask ||| errorFlag)).toNat := by
  have kept : (w &&& (standardMask ||| errorFlag)) &&& errorFlag = w &&& errorFlag := by
    rw [UInt32.and_assoc]
    rfl
  have bit : (w &&& (standardMask ||| errorFlag) &&& errorFlag != 0) =
      decide ((w &&& (standardMask ||| errorFlag)).toNat / 2 ^ 29 % 2 = 1) :=
    and_two_pow_ne_zero _ (i := 29) (by decide)
  rw [kept, error] at bit
  have set := of_decide_eq_true bit.symm
  omega

/-- **`parse` refuses the text of an error frame** in the standard format: its identifier is too
    large for any format. -/
theorem parse_text_of_isError {f : Frame} (error : f.isError = true) (standard : f.isExtended = false) :
    ∃ fault, FrameSpec.parse f.text = .error fault := by
  cases reads : FrameSpec.parse f.text with
  | error fault => exact ⟨fault, rfl⟩
  | ok spec =>
    obtain ⟨said, written, -⟩ := (parse_eq_ok_iff _ _).mp reads
    obtain ⟨id, rest, form, identifier⟩ := written.exists_identifier
    have printed : Numeral.Digits 16 f.identifierChars (f.id &&& (standardMask ||| errorFlag)).toNat := by
      rw [identifierChars, standard, if_neg Bool.false_ne_true]
      exact Hex.digits_padded ..
    -- The identifier ends at the first hash sign, whoever looks for it.
    have same : f.identifierChars = id := by
      have plain : '#' ∉ f.identifierChars := by
        obtain ⟨-, _, each, -⟩ := printed
        exact fun mem => absurd ((Numeral.forall_digit each).1 '#' mem) (by decide)
      have first := splitOnce_eq_some_iff.mpr
        ⟨show f.text.toList = _ ++ '#' :: _ from String.toList_ofList, plain⟩
      have second := splitOnce_eq_some_iff.mpr ⟨form, identifier.hash_not_mem⟩
      exact (Prod.mk.inj (Option.some.inj (first.symm.trans second))).1
    -- Its digits have one value, which is too large.
    have value (n : Nat) (spells : Numeral.Spells True 16 f.identifierChars n) (below : n < bound32) :
        Numeral.read 16 bound32 f.identifierChars = .ok n :=
      (Numeral.read_eq_ok_iff (by decide) (by decide) _ _).mpr ⟨below, spells⟩
    have one := value _ (.digits printed) (UInt32.toNat_lt _)
    have other := value _ (same ▸ identifier.spells) (Nat.lt_of_le_of_lt identifier.le (by decide))
    have equal := Except.ok.inj (one.symm.trans other)
    exact absurd (equal ▸ identifier.le) (Nat.not_le_of_lt (lt_and_errorFlag error))

end Frame

namespace Cli

/-- What `parse` reads as a data frame without FD is `IsClassicData`, with nothing behind
    its payload. -/
theorem isClassicData_of_parse {text : String} {spec : FrameSpec} (reads : FrameSpec.parse text = .ok spec)
    (classic : spec.fd = false) (data : spec.frame.isRemote = false) :
    spec.frame.IsClassicData ∧ spec.frame.Carries spec.frame.id 0 spec.frame.payload := by
  obtain ⟨said, written, means⟩ := (parse_eq_ok_iff _ _).mp reads
  have shows := (means.shows written).2.2.1
  have fd := means.fd
  obtain ⟨frame, -⟩ := means
  generalize text.toList = cs at written
  cases written with
  | @classic _ n extended _ bs identifier payload short =>
    -- The bounds of the two kinds of `Identifier` are those of `IsClassicData.word`.
    have format : identifierWord n extended false ≤ 0x7FF ∨
        ∃ m ≤ 0x1FFFFFFF, identifierWord n extended false = m ||| extendedFlag := by
      cases identifier with
      | standard _ _ bound =>
        left
        rw [UInt32.le_iff_toNat_le, toNat_identifierWord (by omega)]
        simpa using bound
      | extended _ _ bound =>
        right
        refine ⟨UInt32.ofNat n, ?_, (or_extendedFlag bound).symm⟩
        rw [UInt32.le_iff_toNat_le, UInt32.toNat_ofNat', Nat.mod_eq_of_lt (by omega)]
        exact bound
    refine ⟨frame.isClassicData format short, ?_⟩
    rw [frame.word, frame.payload]
    exact frame
  | remote _ _ => exact absurd (data.symm.trans shows) Bool.false_ne_true
  | fd _ _ _ _ => exact absurd (classic.symm.trans fd) Bool.false_ne_true

/-- `parse` reads its text as the same `FrameSpec` again. -/
theorem parse_text_of_parse {text : String} {spec : FrameSpec} (reads : FrameSpec.parse text = .ok spec)
    (classic : spec.fd = false) (data : spec.frame.isRemote = false) :
    FrameSpec.parse spec.frame.text = .ok spec := by
  obtain ⟨isClassic, carries⟩ := isClassicData_of_parse reads classic data
  rw [isClassic.parse_text carries, ← classic]

/-- **Printing and reading frames agree.** The text of a data frame of the classic size is read as a
    frame with the same identifier word, flags and bytes and with nothing behind them, which is the
    frame itself if it was made of an identifier word and bytes. So what was read as such a frame is
    read again of its text, and different ones have different texts. The text of an error frame in
    the standard format is refused. -/
theorem text_read_back :
    (∀ word bs f, Frame.make? word bs = some f → f.IsClassicData →
      FrameSpec.parse f.text = .ok ⟨f, false⟩) ∧
    (∀ f : Frame, f.IsClassicData →
      ∃ g, FrameSpec.parse f.text = .ok ⟨g, false⟩ ∧ g.Carries f.id f.flags f.payload) ∧
    (∀ text spec, FrameSpec.parse text = .ok spec → spec.fd = false → spec.frame.isRemote = false →
      FrameSpec.parse spec.frame.text = .ok spec) ∧
    (∀ text text' spec spec', FrameSpec.parse text = .ok spec → FrameSpec.parse text' = .ok spec' →
      spec.fd = false → spec'.fd = false → spec.frame.isRemote = false → spec'.frame.isRemote = false →
      spec.frame.text = spec'.frame.text → spec = spec') ∧
    ∀ f : Frame, f.isError = true → f.isExtended = false →
      ∃ fault, FrameSpec.parse f.text = .error fault := by
  refine ⟨?_, ?_, fun _ _ => parse_text_of_parse, ?_, fun _ => Frame.parse_text_of_isError⟩
  · intro word bs f made classic
    obtain ⟨-, carries⟩ := Frame.make?_eq_some_iff.mp made
    refine classic.parse_text ?_
    rw [carries.word, carries.payload]
    exact carries
  · intro f classic
    obtain ⟨g, carries⟩ := f.exists_carries
    exact ⟨g, classic.parse_text carries, classic.flags ▸ carries⟩
  · intro text text' spec spec' reads reads' classic classic' data data' same
    have one := parse_text_of_parse reads classic data
    have other := parse_text_of_parse reads' classic' data'
    rw [same] at one
    exact Except.ok.inj (one.symm.trans other)

/-- A datagram whose second data byte lies behind the payload: that byte is not printed, and the
    frame that is read of the text differs from the one that was received. -/
theorem padding_not_printed :
    let f := Frame.ofWire [0x23, 0x01, 0, 0, 1, 0, 0, 0, 0x11, 0xFF]
    f.IsClassicData ∧ f.text = "123#11" ∧
      ∃ g, Frame.make? 0x123 [0x11] = some g ∧ FrameSpec.parse f.text = .ok ⟨g, false⟩ ∧ g ≠ f := by
  intro f
  refine ⟨⟨.inl (by decide), by decide, by decide⟩, by decide +kernel, ?_⟩
  exact ⟨_, rfl, by decide +kernel, by decide +kernel⟩

end Cli

end CanDriver
