import CanDriver.Proofs.CommandLine.Notation

namespace CanDriver

/-!
# What filters admit

A filter compares identifier words on the bits of its mask.

* `Filter.admits_iff` — bit by bit; `Filter.admits_mask_or` — one part of the mask after the other;
* `Filter.admits_extended_iff` — with the flag of the extended format in identifier and mask;
* `Filter.standard_admits`, `Filter.extended_admits` — the filters for one identifier;
* `Cli.SaysFilter` — what a text `ID:MASK` states; `Cli.parseFilter_eq_ok_iff` — just that is read;
* `Cli.filters_admit` — a filter that is read of a text, or made for an identifier, admits the words
  it stands for and no others.
-/

/-! ### Identifier words -/

theorem toNat_and_standardMask (word : UInt32) :
    (word &&& standardMask).toNat = word.toNat % 2 ^ 11 := by
  rw [UInt32.toNat_and]
  exact Nat.and_two_pow_sub_one_eq_mod _ 11

theorem toNat_and_extendedMask (word : UInt32) :
    (word &&& extendedMask).toNat = word.toNat % 2 ^ 29 := by
  rw [UInt32.toNat_and]
  exact Nat.and_two_pow_sub_one_eq_mod _ 29

/-- `extendedFlag` is bit 31. -/
theorem and_extendedFlag_ne_zero (word : UInt32) :
    (word &&& extendedFlag != 0) = word.toNat.testBit 31 := by
  have bit : (word &&& extendedFlag != 0) = _ := and_two_pow_ne_zero word (i := 31) (by decide)
  rw [bit, Nat.testBit_eq_decide_div_mod_eq]

namespace Filter

variable {f : Filter} {word : UInt32}

/-! ### Masks -/

/-- `admits` bit by bit: the words agree wherever the mask has a one. -/
theorem admits_iff : f.admits word = true ↔
    ∀ i, f.mask.toNat.testBit i = true → word.toNat.testBit i = f.id.toNat.testBit i := by
  rw [admits, beq_iff_eq, ← UInt32.toNat_inj, UInt32.toNat_and, UInt32.toNat_and]
  constructor
  · intro same i counts
    have bit := congrArg (Nat.testBit · i) same
    simpa only [Nat.testBit_and, counts, Bool.and_true] using bit
  · intro agree
    refine Nat.eq_of_testBit_eq fun i => ?_
    rw [Nat.testBit_and, Nat.testBit_and]
    cases counts : f.mask.toNat.testBit i with
    | false => rw [Bool.and_false, Bool.and_false]
    | true  => rw [agree i counts]

/-- A mask of two parts admits what both of them admit. -/
theorem admits_mask_or {id mask mask' : UInt32} : admits ⟨id, mask ||| mask'⟩ word = true ↔
    admits ⟨id, mask⟩ word = true ∧ admits ⟨id, mask'⟩ word = true := by
  simp only [admits_iff, UInt32.toNat_or, Nat.testBit_or, Bool.or_eq_true, or_imp, forall_and]

/-- An identifier that was cut to the mask is compared as a whole. -/
theorem admits_and {id mask : UInt32} : admits ⟨id &&& mask, mask⟩ word = true ↔
    word &&& mask = id &&& mask := by
  rw [admits, beq_iff_eq, UInt32.and_assoc, UInt32.and_self]

/-- A flag in the mask that the identifier was cut clear of has to be clear in the word. -/
theorem admits_and_flag {id mask flag : UInt32} (apart : mask &&& flag = 0) :
    admits ⟨id &&& mask, flag⟩ word = true ↔ (word &&& flag != 0) = false := by
  rw [admits, beq_iff_eq, UInt32.and_assoc, apart, UInt32.and_zero, bne_eq_false_iff_eq]

/-- With `extendedFlag` in identifier and mask, the flag is asked for, and the other bits of the
    mask count as before. -/
theorem admits_extended_iff {id mask : UInt32} :
    admits ⟨id ||| extendedFlag, mask ||| extendedFlag⟩ word = true ↔
      (word &&& extendedFlag != 0) = true ∧
        ∀ i ≠ 31, mask.toNat.testBit i = true → word.toNat.testBit i = id.toNat.testBit i := by
  have flag (i : Nat) : extendedFlag.toNat.testBit i = decide (31 = i) := by
    rw [show extendedFlag.toNat = 2 ^ 31 from rfl, Nat.testBit_two_pow]
  simp only [admits_iff, UInt32.toNat_or, Nat.testBit_or, flag, Bool.or_eq_true, decide_eq_true_eq,
    and_extendedFlag_ne_zero]
  constructor
  · intro agree
    refine ⟨by simpa using agree 31 (.inr rfl), fun i other counts => ?_⟩
    simpa [Ne.symm other] using agree i (.inl counts)
  · rintro ⟨extended, agree⟩ i counts
    by_cases top : 31 = i
    · subst top
      simpa using extended
    · simpa [top] using agree i (Ne.symm top) (counts.resolve_right top)

/-! ### Filters for one identifier -/

/-- `standard id` admits just the data frames of the standard format with the low eleven
    bits of `id`. -/
theorem standard_admits (id : UInt32) (g : Frame) : (standard id).admits g.id = true ↔
    g.isExtended = false ∧ g.isRemote = false ∧ g.identifier.toNat = id.toNat % 2 ^ 11 := by
  rw [standard, admits_mask_or, admits_mask_or, admits_and, admits_and_flag (by decide),
    admits_and_flag (by decide), ← toNat_and_standardMask, UInt32.toNat_inj, Frame.identifier]
  constructor
  · rintro ⟨⟨same, format⟩, data⟩
    have format : g.isExtended = false := format
    exact ⟨format, data, by rw [format, if_neg Bool.false_ne_true, same]⟩
  · rintro ⟨format, data, same⟩
    rw [format, if_neg Bool.false_ne_true] at same
    exact ⟨⟨same, format⟩, data⟩

/-- `extended id` admits just the data frames of the extended format with the low 29
    bits of `id`. -/
theorem extended_admits (id : UInt32) (g : Frame) : (extended id).admits g.id = true ↔
    g.isExtended = true ∧ g.isRemote = false ∧ g.identifier.toNat = id.toNat % 2 ^ 29 := by
  have parts : extended id =
      ⟨(id &&& extendedMask) ||| extendedFlag, (extendedMask ||| remoteFlag) ||| extendedFlag⟩ := rfl
  -- The top bit is in neither part of what is left of the mask.
  have below : (∀ i ≠ 31, (extendedMask ||| remoteFlag).toNat.testBit i = true →
      g.id.toNat.testBit i = (id &&& extendedMask).toNat.testBit i) ↔
        admits ⟨id &&& extendedMask, extendedMask ||| remoteFlag⟩ g.id = true := by
    rw [admits_iff]
    refine ⟨fun agree i counts => agree i ?_ counts, fun agree i _ => agree i⟩
    rintro rfl
    have clear : (extendedMask ||| remoteFlag).toNat.testBit 31 = false := by decide
    exact Bool.false_ne_true (clear.symm.trans counts)
  rw [parts, admits_extended_iff, below, admits_mask_or, admits_and, admits_and_flag (by decide),
    ← toNat_and_extendedMask, UInt32.toNat_inj, Frame.identifier]
  refine and_congr_right fun format => ?_
  have format : g.isExtended = true := format
  rw [if_pos format]
  exact and_comm

/-- No word passes both a `standard` and an `extended` filter. -/
theorem not_standard_and_extended (id id' word : UInt32) :
    ¬ ((standard id).admits word = true ∧ (extended id').admits word = true) := by
  rintro ⟨standard, extended⟩
  let g : Frame := { Frame.empty with id := word }
  have one : g.isExtended = false := ((standard_admits id g).mp standard).1
  have other : g.isExtended = true := ((extended_admits id' g).mp extended).1
  exact Bool.false_ne_true (one.symm.trans other)

theorem all_admits (word : UInt32) : all.admits word = true := by
  rw [admits, all, UInt32.and_zero, UInt32.and_zero]
  rfl

end Filter

namespace Cli

/-! ### Texts -/

/-- The text is a numeral of the identifier and one of the mask in base sixteen, with a colon
    between them. Each may have a plus sign in front. -/
def SaysFilter (text : String) (id mask : Nat) : Prop :=
  ∃ idText maskText, text.toList = idText ++ ':' :: maskText ∧
    Numeral.Spells True 16 idText id ∧ Numeral.Spells True 16 maskText mask

/-- `parseFilter` reads a text just if it `SaysFilter` two numbers of 32 bits; above `7FF` both
    words gain `extendedFlag`. -/
theorem parseFilter_eq_ok_iff {text : String} {f : Filter} :
    parseFilter text = .ok f ↔ ∃ id mask, SaysFilter text id mask ∧ id < bound32 ∧ mask < bound32 ∧
      f = if 0x7FF < id then ⟨.ofNat id ||| extendedFlag, .ofNat mask ||| extendedFlag⟩
        else ⟨.ofNat id, .ofNat mask⟩ := by
  have read {cs : List Char} {n : Nat} :
      Numeral.read 16 bound32 cs = .ok n ↔ n < bound32 ∧ Numeral.Spells True 16 cs n :=
    Numeral.read_eq_ok_iff (by decide) (by decide) cs n
  have above {id : Nat} (small : id < bound32) : standardMask < UInt32.ofNat id ↔ 0x7FF < id := by
    rw [UInt32.lt_iff_toNat_lt, UInt32.toNat_ofNat', Nat.mod_eq_of_lt small]
    rfl
  -- From left to right along the branches of `parseFilter`; back by giving each of its parts.
  unfold parseFilter
  constructor
  · intro reads
    split at reads
    · cases reads
    · next idText maskText split =>
      obtain ⟨whole, -⟩ := splitOnce_eq_some_iff.mp split
      split at reads
      · cases reads
      · next id value =>
        obtain ⟨small, spells⟩ := read.mp value
        split at reads
        · cases reads
        · next mask value' =>
          obtain ⟨small', spells'⟩ := read.mp value'
          refine ⟨id, mask, ⟨idText, maskText, whole, spells, spells'⟩, small, small', ?_⟩
          simp only [above small] at reads
          by_cases range : 0x7FF < id
          · rw [if_pos range] at reads ⊢
            exact (Except.ok.inj reads).symm
          · rw [if_neg range] at reads ⊢
            exact (Except.ok.inj reads).symm
  · rintro ⟨id, mask, ⟨idText, maskText, whole, spells, spells'⟩, small, small', rfl⟩
    -- The first colon is the one behind the identifier, which has none in it.
    have split : splitOnce ':' text.toList = some (idText, maskText) := by
      refine splitOnce_eq_some_iff.mpr ⟨whole, fun mem => ?_⟩
      rcases spells.digit_or_plus mem with digit | plus
      · exact absurd digit (by decide)
      · exact absurd plus (by decide)
    simp only [split, read.mpr ⟨small, spells⟩, read.mpr ⟨small', spells'⟩, above small]
    split <;> rfl

/-- **Filters admit what they state and nothing else.** What is read as a filter states an
    identifier and a mask of 32 bits, and all that does is read. The filter of an identifier up to
    `7FF` admits the words that agree with it on the mask. The one of a larger identifier admits the
    words with the flag of the extended format that agree with it on the rest of the mask, also when
    the mask is zero. The filters for one identifier admit the data frames of their format with its
    low bits, so never the same word; the filter for all admits every word. -/
theorem filters_admit :
    (∀ text f, parseFilter text = .ok f →
      ∃ id mask, SaysFilter text id mask ∧ id < bound32 ∧ mask < bound32) ∧
    (∀ text id mask, SaysFilter text id mask → id < bound32 → mask < bound32 →
      ∃ f, parseFilter text = .ok f ∧ ∀ word : UInt32,
        (id ≤ 0x7FF → (f.admits word = true ↔
          ∀ i, mask.testBit i = true → word.toNat.testBit i = id.testBit i)) ∧
        (0x7FF < id → (f.admits word = true ↔ (word &&& extendedFlag != 0) = true ∧
          ∀ i ≠ 31, mask.testBit i = true → word.toNat.testBit i = id.testBit i))) ∧
    (∀ (id : UInt32) (g : Frame),
      ((Filter.standard id).admits g.id = true ↔
        g.isExtended = false ∧ g.isRemote = false ∧ g.identifier.toNat = id.toNat % 2 ^ 11) ∧
      ((Filter.extended id).admits g.id = true ↔
        g.isExtended = true ∧ g.isRemote = false ∧ g.identifier.toNat = id.toNat % 2 ^ 29)) ∧
    (∀ id id' word : UInt32,
      ¬ ((Filter.standard id).admits word = true ∧ (Filter.extended id').admits word = true)) ∧
    ∀ word : UInt32, Filter.all.admits word = true := by
  refine ⟨?_, ?_, fun id g => ⟨Filter.standard_admits id g, Filter.extended_admits id g⟩,
    Filter.not_standard_and_extended, Filter.all_admits⟩
  · intro text f reads
    obtain ⟨id, mask, form, small, small', -⟩ := parseFilter_eq_ok_iff.mp reads
    exact ⟨id, mask, form, small, small'⟩
  · intro text id mask form small small'
    have number : (UInt32.ofNat id).toNat = id := by
      rw [UInt32.toNat_ofNat', Nat.mod_eq_of_lt small]
    have number' : (UInt32.ofNat mask).toNat = mask := by
      rw [UInt32.toNat_ofNat', Nat.mod_eq_of_lt small']
    refine ⟨_, parseFilter_eq_ok_iff.mpr ⟨id, mask, form, small, small', rfl⟩, fun word => ⟨?_, ?_⟩⟩
    · intro range
      rw [if_neg (Nat.not_lt.mpr range), Filter.admits_iff, number, number']
    · intro range
      rw [if_pos range, Filter.admits_extended_iff, number, number']

/-- The text `800:0` admits every word with `extendedFlag`, and no other. -/
theorem filters_admit_above_standard :
    ∃ f, parseFilter "800:0" = .ok f ∧ f.admits 0x80000123 = true ∧ f.admits 0x123 = false := by
  have form : SaysFilter "800:0" 0x800 0 :=
    ⟨['8', '0', '0'], ['0'], rfl,
      .digits ⟨List.cons_ne_nil _ _, [8, 0, 0], .cons rfl (.cons rfl (.cons rfl .nil)), rfl⟩,
      .digits ⟨List.cons_ne_nil _ _, [0], .cons rfl .nil, rfl⟩⟩
  obtain ⟨f, reads, admits⟩ := filters_admit.2.1 "800:0" 0x800 0 form (by decide) (by decide)
  refine ⟨f, reads, ((admits _).2 (by decide)).mpr ⟨by decide, fun i _ counts => ?_⟩, ?_⟩
  · rw [Nat.zero_testBit] at counts
    exact absurd counts Bool.false_ne_true
  · rw [Bool.eq_false_iff]
    intro admitted
    exact absurd (((admits _).2 (by decide)).mp admitted).1 (by decide)

end Cli

end CanDriver
