import CanDriver.Cli.Spec
import CanDriver.Proofs.Frames.Layout
import CanDriver.Proofs.Text.Numerals

namespace CanDriver

/-!
# The notation of frames

Which texts name a frame, and which frame they name.

* `Frame.Carries` — identifier word, flags and bytes of a frame, which determine it;
* `Said` — what a text says; `identifierWord` — the identifier with the bits of its format;
* `Written signs` — the notation `ID#DATA`, `ID#R` and `ID##FDATA`, with a plus sign in place of the
  first digit of an identifier or of a byte where `signs` admits it;
* `FrameSpec.Means` — the frame is what was said;
* `parse_iff_written` — what a text is read as is what it says, with plus signs admitted;
* `plus_sign_accepted` — the notation without them is smaller than what is read.
-/

/-! ### Frames that carry bytes -/

namespace Frame

/-- All fields of a frame that was made for the word, the flags and the bytes: nothing else
    is in it. -/
structure Carries (f : Frame) (word : UInt32) (flags : UInt8) (bs : List UInt8) : Prop where
  word     : f.id = word
  flags    : f.flags = flags
  length   : f.len.toNat = bs.length
  payload  : f.payload = bs
  unused   : f.data.toList.drop bs.length = List.replicate (Dlc.maxLength - bs.length) 0
  reserved : f.reserved0 = 0 ∧ f.reserved1 = 0

theorem Carries.length_le {f : Frame} {word : UInt32} {flags : UInt8} {bs : List UInt8}
    (carries : f.Carries word flags bs) : bs.length ≤ Dlc.maxLength := by
  rw [← carries.payload, Frame.payload, List.length_take]
  exact Nat.le_trans (Nat.min_le_left ..) (Nat.min_le_right ..)

/-- `Carries` determines the frame. -/
theorem Carries.unique {f g : Frame} {word : UInt32} {flags : UInt8} {bs : List UInt8}
    (left : f.Carries word flags bs) (right : g.Carries word flags bs) : f = g := by
  -- `payload` fixes the bytes that count, and `unused` the others.
  have data {h : Frame} (carries : h.Carries word flags bs) :
      h.data.toList = bs ++ List.replicate (Dlc.maxLength - bs.length) 0 := by
    have counted : h.data.toList.take bs.length = bs := by
      have payload := carries.payload
      rwa [Frame.payload, carries.length, Nat.min_eq_left carries.length_le] at payload
    rw [← carries.unused, ← List.take_append_drop bs.length h.data.toList, counted]
    simp
  have room : f.data = g.data := Vector.toList_inj.mp ((data left).trans (data right).symm)
  have len : f.len = g.len := UInt8.toNat_inj.mp (left.length.trans right.length.symm)
  have id : f.id = g.id := left.word.trans right.word.symm
  have flags : f.flags = g.flags := left.flags.trans right.flags.symm
  have first : f.reserved0 = g.reserved0 := left.reserved.1.trans right.reserved.1.symm
  have second : f.reserved1 = g.reserved1 := left.reserved.2.trans right.reserved.2.symm
  cases f
  cases g
  simp only [Frame.mk.injEq]
  exact ⟨id, len, flags, first, second, room⟩

theorem Carries.withFlags {f : Frame} {word : UInt32} {old : UInt8} {bs : List UInt8}
    (carries : f.Carries word old bs) (flags : UInt8) : (f.withFlags flags).Carries word flags bs :=
  ⟨carries.word, rfl, carries.length, carries.payload, carries.unused, carries.reserved⟩

/-- `make?` answers just the frame that `Carries` the bytes, as long as there is room for them. -/
theorem make?_eq_some_iff {word : UInt32} {bs : List UInt8} {f : Frame} :
    make? word bs = some f ↔ bs.length ≤ Dlc.maxLength ∧ f.Carries word 0 bs := by
  unfold make?
  by_cases fits : bs.length ≤ Dlc.maxLength
  · have length : (UInt8.ofNat bs.length).toNat = bs.length := by
      rw [UInt8.toNat_ofNat']
      exact Nat.mod_eq_of_lt (Nat.lt_of_le_of_lt fits (by decide))
    have made : ({ empty with id := word, len := UInt8.ofNat bs.length, data := room bs } : Frame).Carries
        word 0 bs := by
      refine ⟨rfl, rfl, length, ?_, ?_, rfl, rfl⟩
      · simp [payload, length, toList_room fits, Nat.min_eq_left fits]
      · simp [toList_room fits]
    rw [if_pos fits, Option.some.injEq]
    exact ⟨fun same => ⟨fits, same ▸ made⟩, fun carries => made.unique carries.2⟩
  · simp [fits]

end Frame

namespace Cli

/-! ### The notation -/

/-- The identifier word of `n` with `extendedFlag` and `remoteFlag` as given, as a sum. -/
def identifierWord (n : Nat) (extended remote : Bool) : UInt32 :=
  UInt32.ofNat (n + (if extended then 0x80000000 else 0) + (if remote then 0x40000000 else 0))

/-- What a text in the notation says of a frame. -/
structure Said where
  identifier : Nat
  extended   : Bool
  remote     : Bool
  fd         : Bool
  flags      : Nat
  payload    : List UInt8

/-- Three digits up to `7FF`, or eight up to `1FFFFFFF` for the extended format. -/
inductive Identifier (signs : Prop) : List Char → Nat → Bool → Prop
  | standard {cs n} : cs.length = 3 → Numeral.Spells signs 16 cs n → n ≤ 0x7FF →
      Identifier signs cs n false
  | extended {cs n} : cs.length = 8 → Numeral.Spells signs 16 cs n → n ≤ 0x1FFFFFFF →
      Identifier signs cs n true

/-- Two digits a byte, or a plus sign and one digit where `signs` holds. -/
inductive Pairs (signs : Prop) : List Char → List UInt8 → Prop
  | nil : Pairs signs [] []
  | cons {a b n cs bs} : Numeral.Spells signs 16 [a, b] n → Pairs signs cs bs →
      Pairs signs (a :: b :: cs) (UInt8.ofNat n :: bs)

/-- `Pairs` with dots anywhere between the characters. -/
def Payload (signs : Prop) (cs : List Char) (bs : List UInt8) : Prop :=
  Pairs signs (cs.filter (· != '.')) bs

/-- The notation of frames: `ID#DATA` with up to eight bytes, `ID#R`, and `ID##FDATA` with
    up to 64. -/
inductive Written (signs : Prop) : List Char → Said → Prop
  | classic {id n extended cs bs} : Identifier signs id n extended → Payload signs cs bs →
      bs.length ≤ 8 → Written signs (id ++ '#' :: cs) ⟨n, extended, false, false, 0, bs⟩
  | remote {id n extended c} : Identifier signs id n extended → c = 'R' ∨ c = 'r' →
      Written signs (id ++ ['#', c]) ⟨n, extended, true, false, 0, []⟩
  | fd {id n extended c flags cs bs} : Identifier signs id n extended →
      Hex.digitValue? c = some flags → Payload signs cs bs → bs.length ≤ 64 →
      Written signs (id ++ '#' :: '#' :: c :: cs) ⟨n, extended, false, true, flags, bs⟩

/-- `spec` has the frame that was said, and the format that the text asks for. -/
structure FrameSpec.Means (spec : FrameSpec) (s : Said) : Prop where
  frame : spec.frame.Carries (identifierWord s.identifier s.extended s.remote) (UInt8.ofNat s.flags) s.payload
  fd    : spec.fd = s.fd

/-! ### Identifiers -/

section
variable {signs : Prop} {cs : List Char} {n : Nat} {extended : Bool}

theorem Identifier.spells (id : Identifier signs cs n extended) : Numeral.Spells signs 16 cs n := by
  cases id with
  | standard _ spells _ => exact spells
  | extended _ spells _ => exact spells

theorem Identifier.le (id : Identifier signs cs n extended) : n ≤ 0x1FFFFFFF := by
  cases id with
  | standard _ _ bound => omega
  | extended _ _ bound => exact bound

end

/-- The three parts of an identifier word do not overlap, so nothing wraps around. -/
theorem toNat_identifierWord {n : Nat} (small : n ≤ 0x1FFFFFFF) (extended remote : Bool) :
    (identifierWord n extended remote).toNat =
      n + (if extended then 0x80000000 else 0) + (if remote then 0x40000000 else 0) := by
  rw [identifierWord, UInt32.toNat_ofNat']
  cases extended <;> cases remote <;> simp only [if_true, if_false, Bool.false_eq_true] <;> omega

theorem ofNat_eq_identifierWord (n : Nat) : UInt32.ofNat n = identifierWord n false false := by
  simp [identifierWord]

theorem or_two_pow {n i : Nat} (below : n < 2 ^ i) : n ||| 2 ^ i = n + 2 ^ i := by
  have disjoint := Nat.two_pow_add_eq_or_of_lt below 1
  rw [Nat.mul_one] at disjoint
  rw [Nat.or_comm, ← disjoint, Nat.add_comm]

theorem or_extendedFlag {n : Nat} (small : n ≤ 0x1FFFFFFF) :
    UInt32.ofNat n ||| extendedFlag = identifierWord n true false := by
  have disjoint : n ||| 2 ^ 31 = n + 2 ^ 31 := or_two_pow (by omega)
  apply UInt32.toNat_inj.mp
  rw [toNat_identifierWord small, UInt32.toNat_or, ofNat_eq_identifierWord, toNat_identifierWord small]
  exact disjoint

theorem or_remoteFlag {n : Nat} (small : n ≤ 0x1FFFFFFF) (extended : Bool) :
    identifierWord n extended false ||| remoteFlag = identifierWord n extended true := by
  have remote : n ||| 2 ^ 30 = n + 2 ^ 30 := or_two_pow (by omega)
  apply UInt32.toNat_inj.mp
  rw [toNat_identifierWord small, UInt32.toNat_or, toNat_identifierWord small]
  cases extended with
  | false => exact remote
  | true =>
    have first : n ||| 2 ^ 31 = n + 2 ^ 31 := or_two_pow (by omega)
    have second : (n + 2 ^ 30) ||| 2 ^ 31 = n + 2 ^ 30 + 2 ^ 31 := or_two_pow (by omega)
    show (n + 2 ^ 31) ||| 2 ^ 30 = n + 2 ^ 31 + 2 ^ 30
    calc (n + 2 ^ 31) ||| 2 ^ 30 = (n ||| 2 ^ 30) ||| 2 ^ 31 := by rw [← first, Nat.or_right_comm]
      _ = n + 2 ^ 31 + 2 ^ 30 := by rw [remote, second, Nat.add_right_comm]

/-- Identifier, format and remote flag can be read off a frame with the word `identifierWord`, and
    its error flag is clear. -/
theorem Identifier.shows {signs : Prop} {f : Frame} {cs : List Char} {n : Nat} {extended remote : Bool}
    (id : Identifier signs cs n extended) (word : f.id = identifierWord n extended remote) :
    f.identifier.toNat = n ∧ f.isExtended = extended ∧ f.isRemote = remote ∧ f.isError = false := by
  have small := id.le
  have value := toNat_identifierWord small extended remote
  rw [← word] at value
  -- Each format has a bit of its own above those of the identifier.
  have bits : f.isExtended = extended ∧ f.isRemote = remote ∧ f.isError = false := by
    have extendedBit : f.isExtended = _ := and_two_pow_ne_zero f.id (i := 31) (by decide)
    have remoteBit : f.isRemote = _ := and_two_pow_ne_zero f.id (i := 30) (by decide)
    have errorBit : f.isError = _ := and_two_pow_ne_zero f.id (i := 29) (by decide)
    rw [extendedBit, remoteBit, errorBit, value]
    cases extended <;> cases remote <;>
      simp only [if_true, if_false, Bool.false_eq_true, decide_eq_true_eq, decide_eq_false_iff_not] <;>
      omega
  refine ⟨?_, bits⟩
  rw [Frame.identifier, bits.1]
  -- Masked with all bits of its format, the word leaves the identifier.
  cases id with
  | standard _ _ bound =>
    have low : (f.id &&& standardMask).toNat = f.id.toNat % 2 ^ 11 := by
      rw [UInt32.toNat_and, ← Nat.and_two_pow_sub_one_eq_mod]
      rfl
    rw [if_neg Bool.false_ne_true, low, value]
    cases remote <;> simp only [if_true, if_false, Bool.false_eq_true] <;> omega
  | extended _ _ bound =>
    have low : (f.id &&& extendedMask).toNat = f.id.toNat % 2 ^ 29 := by
      rw [UInt32.toNat_and, ← Nat.and_two_pow_sub_one_eq_mod]
      rfl
    rw [if_pos rfl, low, value]
    cases remote <;> simp only [if_true, if_false, Bool.false_eq_true] <;> omega

/-! ### Reading -/

theorem splitOnce_eq_some_iff {c : Char} {cs before after : List Char} :
    splitOnce c cs = some (before, after) ↔ cs = before ++ c :: after ∧ c ∉ before := by
  induction cs generalizing before with
  | nil => simp [splitOnce]
  | cons x xs ih =>
    rw [splitOnce]
    -- Either the separator is found here, and nothing stands before it, or the search goes on.
    by_cases found : x = c
    · subst found
      cases before with
      | nil      => simp [eq_comm]
      | cons y _ =>
        simp only [if_true, Option.some.injEq, Prod.mk.injEq, List.nil_eq, List.cons_ne_nil, false_and,
          List.cons_append, List.cons.injEq, List.mem_cons, not_or, false_iff]
        rintro ⟨⟨rfl, -⟩, differs, -⟩
        exact differs rfl
    · cases before with
      | nil => simp [found]
      | cons y ys =>
        simp only [if_neg found, Option.map_eq_some_iff, Prod.exists, Prod.mk.injEq, List.cons_append,
          List.cons.injEq, List.mem_cons, not_or]
        constructor
        · rintro ⟨ys, _, split, ⟨rfl, rfl⟩, rfl⟩
          obtain ⟨rest, absent⟩ := ih.mp split
          exact ⟨⟨rfl, rest⟩, Ne.symm found, absent⟩
        · rintro ⟨⟨rfl, rest⟩, -, absent⟩
          exact ⟨ys, after, ih.mpr ⟨rest, absent⟩, ⟨rfl, rfl⟩, rfl⟩

/-- `parseIdentifier` reads just what `Identifier True` describes. -/
theorem parseIdentifier_eq_ok_iff {cs : List Char} {w : UInt32} :
    parseIdentifier cs = .ok w ↔
      ∃ n extended, Identifier True cs n extended ∧ w = identifierWord n extended false := by
  have mask {n m : Nat} (small : n < bound32) (fits : m < bound32) :
      UInt32.ofNat n ≤ UInt32.ofNat m ↔ n ≤ m := by
    rw [UInt32.le_iff_toNat_le, UInt32.toNat_ofNat', UInt32.toNat_ofNat', Nat.mod_eq_of_lt small,
      Nat.mod_eq_of_lt fits]
  -- The branches of `parseIdentifier` are the constructors of `Identifier`.
  unfold parseIdentifier
  constructor
  · intro reads
    split at reads
    · cases reads
    · next n value =>
      obtain ⟨small, spells⟩ := (Numeral.read_eq_ok_iff (by decide) (by decide) cs n).mp value
      simp only at reads
      split at reads
      · next standard =>
        cases reads
        have bound := (mask small (by decide)).mp standard.2
        exact ⟨n, false, .standard standard.1 spells bound, ofNat_eq_identifierWord n⟩
      · split at reads
        · next extended =>
          cases reads
          have bound := (mask small (by decide)).mp extended.2
          exact ⟨n, true, .extended extended.1 spells bound, or_extendedFlag bound⟩
        · cases reads
  · rintro ⟨n, extended, id, rfl⟩
    have small : n < bound32 := Nat.lt_of_le_of_lt id.le (by decide)
    rw [(Numeral.read_eq_ok_iff (by decide) (by decide) cs n).mpr ⟨small, id.spells⟩]
    cases id with
    | standard length _ bound =>
      have fits : UInt32.ofNat n ≤ standardMask := (mask small (by decide)).mpr bound
      simpa [length, fits] using ofNat_eq_identifierWord n
    | extended length _ bound =>
      have fits : UInt32.ofNat n ≤ extendedMask := (mask small (by decide)).mpr bound
      simp [length, fits, or_extendedFlag bound]

/-- `Pairs` have no characters but digits and plus signs, so neither a hash sign nor the letter of a
    remote request. -/
theorem digit_or_plus_of_mem_pairs {signs : Prop} {cs : List Char} {bs : List UInt8}
    (pairs : Pairs signs cs bs) {c : Char} (mem : c ∈ cs) : (Numeral.digit? 16 c).isSome ∨ c = '+' := by
  induction pairs with
  | nil => cases mem
  | @cons a b _ cs _ spells _ ih =>
    rw [show a :: b :: cs = [a, b] ++ cs from rfl, List.mem_append] at mem
    exact mem.elim spells.digit_or_plus ih

theorem lt_of_digit_or_plus {c : Char} (digit : (Numeral.digit? 16 c).isSome ∨ c = '+') :
    c.toNat < 128 := by
  rcases digit with digit | rfl
  · by_contra large
    have foreign : Hex.digitValue? c = none := by
      unfold Hex.digitValue?
      simp only
      repeat rw [if_neg (by omega)]
    simp [Numeral.digit?, foreign] at digit
  · decide

theorem Pairs.length_eq {signs : Prop} {cs : List Char} {bs : List UInt8} (pairs : Pairs signs cs bs) :
    cs.length = 2 * bs.length := by
  induction pairs with
  | nil => rfl
  | cons _ _ ih =>
    simp only [List.length_cons, ih]
    omega

/-- Two characters always spell less than 256, so the bound of a byte refuses nothing. -/
theorem read_byte_eq_ok_iff {cs : List Char} (short : cs.length = 2) {n : Nat} :
    Numeral.read 16 256 cs = .ok n ↔ Numeral.Spells True 16 cs n := by
  rw [Numeral.read_eq_ok_iff (by decide) (by decide), and_iff_right_iff_imp]
  intro spells
  have below := spells.lt (by decide)
  rwa [short] at below

theorem Pairs.parseBytes_eq {cs : List Char} {bs : List UInt8} (pairs : Pairs True cs bs) :
    parseBytes cs = .ok bs := by
  induction pairs with
  | nil => rfl
  | cons spells _ ih => rw [parseBytes, (read_byte_eq_ok_iff rfl).mpr spells, ih]

theorem pairs_of_parseBytes {cs : List Char} (even : cs.length % 2 = 0) {bs : List UInt8}
    (reads : parseBytes cs = .ok bs) : Pairs True cs bs := by
  fun_induction parseBytes cs generalizing bs with
  | case1 => cases reads
  | case2 => cases reads
  | case3 a b rest n byte bytes others ih =>
    cases reads
    rw [List.length_cons, List.length_cons] at even
    exact .cons ((read_byte_eq_ok_iff rfl).mp byte) (ih (by omega) others)
  | case4 cs short =>
    cases reads
    match cs, short, even with
    | [], _, _ => exact .nil
    | a :: b :: rest, short, _ => exact absurd rfl (short a b rest)

/-- `parsePayload` reads just what `Payload True` describes. -/
theorem parsePayload_eq_ok_iff {cs : List Char} {bs : List UInt8} :
    parsePayload cs = .ok bs ↔ Payload True cs bs := by
  unfold parsePayload Payload
  simp only
  constructor
  · intro reads
    split at reads
    · cases reads
    · split at reads
      · cases reads
      · next even => exact pairs_of_parseBytes (by omega) reads
  · intro pairs
    -- Digits and signs take one byte each, so that no check on bytes fails.
    have ascii : ¬ (cs.filter (· != '.')).any (fun c => 128 ≤ c.toNat) = true := by
      rw [List.any_eq_true]
      rintro ⟨c, mem, large⟩
      have small := lt_of_digit_or_plus (digit_or_plus_of_mem_pairs pairs mem)
      exact absurd (of_decide_eq_true large) (by omega)
    have even := pairs.length_eq
    rw [if_neg ascii, if_neg (by omega), pairs.parseBytes_eq]

namespace FrameSpec

/-- `parseFd` reads just the digit of the flags and a payload of up to 64 bytes. -/
theorem parseFd_eq_ok_iff {text : String} {w : UInt32} {cs : List Char} {spec : FrameSpec} :
    parseFd text w cs = .ok spec ↔ ∃ c flags ds bs, cs = c :: ds ∧ Hex.digitValue? c = some flags ∧
      Payload True ds bs ∧ bs.length ≤ 64 ∧ spec.frame.Carries w (UInt8.ofNat flags) bs ∧
        spec.fd = true := by
  constructor
  · intro reads
    unfold parseFd at reads
    split at reads
    · cases reads
    · next c ds =>
      split at reads
      · cases reads
      · next flags digit =>
        split at reads
        · cases reads
        · next bs payload =>
          split at reads
          · cases reads
          · next f made =>
            cases reads
            obtain ⟨fits, carries⟩ := Frame.make?_eq_some_iff.mp made
            exact ⟨c, flags, ds, bs, rfl, digit, parsePayload_eq_ok_iff.mp payload, fits,
              carries.withFlags _, rfl⟩
  · rintro ⟨c, flags, ds, bs, rfl, digit, payload, fits, carries, fd⟩
    have made := Frame.make?_eq_some_iff.mpr ⟨fits, carries.withFlags 0⟩
    -- The frame is made without flags, and gets them afterwards.
    have back : (spec.frame.withFlags 0).withFlags (UInt8.ofNat flags) = spec.frame :=
      ((carries.withFlags 0).withFlags _).unique carries
    simp [parseFd, digit, parsePayload_eq_ok_iff.mpr payload, made, back, ← fd]

/-- `parseClassic` reads just the letter of a remote request, or a payload of up to eight bytes. -/
theorem parseClassic_eq_ok_iff {w : UInt32} {cs : List Char} {spec : FrameSpec} :
    parseClassic w cs = .ok spec ↔
      ((∃ c, (c = 'R' ∨ c = 'r') ∧ cs = [c] ∧ spec.frame.Carries (w ||| remoteFlag) 0 []) ∨
        ∃ bs, Payload True cs bs ∧ bs.length ≤ 8 ∧ spec.frame.Carries w 0 bs) ∧ spec.fd = false := by
  -- The frame of a remote request is not made by `make?`, but carries the same as one of no bytes.
  have nothing : ({ Frame.empty with id := w ||| remoteFlag } : Frame).Carries (w ||| remoteFlag) 0 [] :=
    ⟨rfl, rfl, rfl, by simp [Frame.payload, Frame.empty], rfl, rfl, rfl⟩
  constructor
  · intro reads
    unfold parseClassic at reads
    split at reads
    · next remote =>
      cases reads
      refine ⟨.inl ?_, rfl⟩
      rcases remote with rfl | rfl
      · exact ⟨'r', .inr rfl, rfl, nothing⟩
      · exact ⟨'R', .inl rfl, rfl, nothing⟩
    · split at reads
      · cases reads
      · next bs payload =>
        split at reads
        · cases reads
        · next short =>
          split at reads
          · cases reads
          · next f made =>
            cases reads
            obtain ⟨-, carries⟩ := Frame.make?_eq_some_iff.mp made
            exact ⟨.inr ⟨bs, parsePayload_eq_ok_iff.mp payload, by omega, carries⟩, rfl⟩
  · rintro ⟨⟨c, letter, rfl, carries⟩ | ⟨bs, payload, short, carries⟩, fd⟩
    · have remote : [c] = ['r'] ∨ [c] = ['R'] := by
        rcases letter with rfl | rfl <;> simp
      rw [parseClassic, if_pos remote, nothing.unique carries, ← fd]
    · -- A single letter is no payload: bytes have two digits.
      have data : ¬ (cs = ['r'] ∨ cs = ['R']) := by
        rintro (rfl | rfl)
        · exact absurd payload.length_eq (by simp; omega)
        · exact absurd payload.length_eq (by simp; omega)
      have made := Frame.make?_eq_some_iff.mpr ⟨Nat.le_trans short (by decide), carries⟩
      simp only [parseClassic, if_neg data, parsePayload_eq_ok_iff.mpr payload, made,
        if_neg (Nat.not_lt.mpr short), ← fd]

end FrameSpec

/-! ### The notation -/

theorem Identifier.hash_not_mem {signs : Prop} {cs : List Char} {n : Nat} {extended : Bool}
    (id : Identifier signs cs n extended) : '#' ∉ cs := by
  intro mem
  rcases id.spells.digit_or_plus mem with digit | plus
  · exact absurd digit (by decide)
  · exact absurd plus (by decide)

theorem Payload.head_ne_hash {signs : Prop} {cs : List Char} {bs : List UInt8}
    (payload : Payload signs cs bs) (rest : List Char) : cs ≠ '#' :: rest := by
  rintro rfl
  have mem : '#' ∈ ('#' :: rest).filter (· != '.') := by simp
  rcases digit_or_plus_of_mem_pairs payload mem with digit | plus
  · exact absurd digit (by decide)
  · exact absurd plus (by decide)

/-- `FrameSpec.parse` reads just what is `Written True`, as the frame that it `Means`. -/
theorem parse_eq_ok_iff (text : String) (spec : FrameSpec) :
    FrameSpec.parse text = .ok spec ↔ ∃ said, Written True text.toList said ∧ spec.Means said := by
  constructor
  · intro reads
    unfold FrameSpec.parse at reads
    split at reads
    · cases reads
    · next idText rest split =>
      obtain ⟨whole, -⟩ := splitOnce_eq_some_iff.mp split
      rw [whole]
      split at reads
      · cases reads
      · next w identifier =>
        obtain ⟨n, extended, id, rfl⟩ := parseIdentifier_eq_ok_iff.mp identifier
        split at reads
        · next after =>
          obtain ⟨c, flags, ds, bs, rfl, digit, payload, fits, carries, fd⟩ :=
            FrameSpec.parseFd_eq_ok_iff.mp reads
          exact ⟨_, .fd id digit payload fits, carries, fd⟩
        · obtain ⟨⟨c, letter, rfl, carries⟩ | ⟨bs, payload, short, carries⟩, fd⟩ :=
            FrameSpec.parseClassic_eq_ok_iff.mp reads
          · rw [or_remoteFlag id.le] at carries
            exact ⟨_, .remote id letter, carries, fd⟩
          · exact ⟨_, .classic id payload short, carries, fd⟩
  · rintro ⟨said, written, frame, fd⟩
    generalize whole : text.toList = cs at written
    -- The first hash sign is the one behind the identifier, which has none in it.
    have parts {idText rest : List Char} {n : Nat} {extended : Bool}
        (id : Identifier True idText n extended) (form : cs = idText ++ '#' :: rest) :
        splitOnce '#' text.toList = some (idText, rest) ∧
          parseIdentifier idText = .ok (identifierWord n extended false) :=
      ⟨splitOnce_eq_some_iff.mpr ⟨whole.trans form, id.hash_not_mem⟩,
        parseIdentifier_eq_ok_iff.mpr ⟨n, extended, id, rfl⟩⟩
    unfold FrameSpec.parse
    cases written with
    | @classic _ _ _ rest _ id payload short =>
      obtain ⟨split, identifier⟩ := parts id rfl
      simp only [split, identifier]
      split
      · next rest' => exact absurd rfl (payload.head_ne_hash rest')
      · exact FrameSpec.parseClassic_eq_ok_iff.mpr ⟨.inr ⟨_, payload, short, frame⟩, fd⟩
    | @remote _ _ _ c id letter =>
      obtain ⟨split, identifier⟩ := parts id rfl
      simp only [split, identifier]
      split
      · next rest' same =>
        cases same
        simp at letter
      · rw [← or_remoteFlag id.le] at frame
        exact FrameSpec.parseClassic_eq_ok_iff.mpr ⟨.inl ⟨c, letter, rfl, frame⟩, fd⟩
    | fd id digit payload fits =>
      obtain ⟨split, identifier⟩ := parts id rfl
      simp only [split, identifier]
      exact FrameSpec.parseFd_eq_ok_iff.mpr ⟨_, _, _, _, rfl, digit, payload, fits, frame, fd⟩

/-- In each of the three forms an identifier stands before the first hash sign. -/
theorem Written.exists_identifier {signs : Prop} {cs : List Char} {said : Said}
    (written : Written signs cs said) :
    ∃ id rest, cs = id ++ '#' :: rest ∧ Identifier signs id said.identifier said.extended := by
  cases written with
  | classic id _ _ => exact ⟨_, _, rfl, id⟩
  | remote id _    => exact ⟨_, _, rfl, id⟩
  | fd id _ _ _    => exact ⟨_, _, rfl, id⟩

/-- Identifier, format and remote request of `said` show on the frame that it means. -/
theorem FrameSpec.Means.shows {signs : Prop} {cs : List Char} {said : Said} {spec : FrameSpec}
    (means : spec.Means said) (written : Written signs cs said) :
    spec.frame.identifier.toNat = said.identifier ∧ spec.frame.isExtended = said.extended ∧
      spec.frame.isRemote = said.remote ∧ spec.frame.isError = false := by
  obtain ⟨_, _, -, id⟩ := written.exists_identifier
  exact id.shows means.frame.word

section
variable {cs : List Char} (signs : Prop)

theorem Identifier.of_no_sign {n : Nat} {extended : Bool} (id : Identifier True cs n extended)
    (plain : '+' ∉ cs) : Identifier signs cs n extended := by
  cases id with
  | standard length spells bound =>
    exact .standard length ((Numeral.spells_of_no_sign plain signs).mp spells) bound
  | extended length spells bound =>
    exact .extended length ((Numeral.spells_of_no_sign plain signs).mp spells) bound

theorem Pairs.of_no_sign {bs : List UInt8} (pairs : Pairs True cs bs) (plain : '+' ∉ cs) :
    Pairs signs cs bs := by
  induction pairs with
  | nil => exact .nil
  | @cons a b n cs bs spells _ ih =>
    rw [show a :: b :: cs = [a, b] ++ cs from rfl, List.mem_append, not_or] at plain
    exact .cons ((Numeral.spells_of_no_sign plain.1 signs).mp spells) (ih plain.2)

theorem Payload.of_no_sign {bs : List UInt8} (payload : Payload True cs bs) (plain : '+' ∉ cs) :
    Payload signs cs bs := by
  exact Pairs.of_no_sign signs payload fun mem => plain (List.mem_filter.mp mem).1

/-- A text without a plus sign that is `Written True` is in the plain notation too. -/
theorem Written.of_no_sign {said : Said} (written : Written True cs said) (plain : '+' ∉ cs) :
    Written signs cs said := by
  have parts {before after : List Char} (plain : '+' ∉ before ++ '#' :: after) :
      '+' ∉ before ∧ '+' ∉ after := by
    rw [List.mem_append, List.mem_cons, not_or, not_or] at plain
    exact ⟨plain.1, plain.2.2⟩
  cases written with
  | classic id payload short =>
    obtain ⟨left, right⟩ := parts plain
    exact .classic (id.of_no_sign signs left) (payload.of_no_sign signs right) short
  | remote id letter =>
    exact .remote (id.of_no_sign signs (parts plain).1) letter
  | fd id digit payload fits =>
    obtain ⟨left, right⟩ := parts plain
    simp only [List.mem_cons, not_or] at right
    exact .fd (id.of_no_sign signs left) digit (payload.of_no_sign signs right.2.2) fits

end

/-- **A frame is read from a text exactly when the text says it**, in the notation in which an
    identifier or a byte may have a plus sign in place of its first digit. A text without a
    plus sign is in the plain notation. Identifier, format and remote request are those that
    were said. -/
theorem parse_iff_written (text : String) (spec : FrameSpec) :
    (FrameSpec.parse text = .ok spec ↔ ∃ said, Written True text.toList said ∧ spec.Means said) ∧
    (∀ said, Written True text.toList said → Written False text.toList said ∨ '+' ∈ text.toList) ∧
    ∀ said, Written True text.toList said → spec.Means said →
      spec.frame.identifier.toNat = said.identifier ∧ spec.frame.isExtended = said.extended ∧
        spec.frame.isRemote = said.remote ∧ spec.frame.isError = false := by
  refine ⟨parse_eq_ok_iff text spec, fun said written => ?_, fun said written means => means.shows written⟩
  by_cases plus : '+' ∈ text.toList
  · exact .inr plus
  · exact .inl (written.of_no_sign False plus)

/-- A plus sign is taken for the first of three digits, although it is none. -/
theorem plus_sign_accepted :
    (∃ spec, FrameSpec.parse "+12#00" = .ok spec ∧ spec.frame.id = 0x12 ∧ spec.frame.payload = [0]) ∧
      ∀ said, ¬ Written False "+12#00".toList said := by
  have text : "+12#00".toList = ['+', '1', '2'] ++ '#' :: ['0', '0'] := rfl
  constructor
  · have id : Identifier True ['+', '1', '2'] 0x12 false :=
      .standard rfl (.plus trivial ⟨by simp, [1, 2], .cons rfl (.cons rfl .nil), rfl⟩) (by decide)
    have payload : Payload True ['0', '0'] [0] :=
      .cons (.digits ⟨by simp, [0, 0], .cons rfl (.cons rfl .nil), rfl⟩) .nil
    obtain ⟨f, made⟩ : ∃ f, Frame.make? (identifierWord 0x12 false false) [0] = some f := ⟨_, rfl⟩
    obtain ⟨-, carries⟩ := Frame.make?_eq_some_iff.mp made
    refine ⟨⟨f, false⟩, (parse_eq_ok_iff _ _).mpr ?_, carries.word, carries.payload⟩
    refine ⟨⟨0x12, false, false, false, 0, [0]⟩, ?_, carries, rfl⟩
    rw [text]
    exact .classic id payload (by decide)
  · intro said written
    obtain ⟨id, rest, form, identifier⟩ := written.exists_identifier
    rw [text] at form
    cases identifier.spells with
    | plus signs _ => exact signs
    | digits digits =>
      cases id with
      | nil => exact digits.1 rfl
      | cons c cs =>
        have first : '+' = c := (List.cons.inj form).1
        exact digits.head_ne_plus first.symm

end Cli

end CanDriver
