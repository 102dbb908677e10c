import CanDriver.Proofs.Text.Numerals
import CanDriver.Toml.Document
import CanDriver.Toml.Printer
import Mathlib.Data.List.TakeDrop

namespace CanDriver.Toml

/-!
# Reading printed values

A value is read as it was printed, whatever follows its line.

* `Bare` — a key that stands without quotes; `key_bare` — it is read up to what ends it;
* `Scalar.Printable` — a value that has a written form; `Scalar.value_chars` — its form is read back.
-/

/-! ### Scanning -/

/-- `span p` splits a list where a run with the property is followed by something without it. -/
theorem span_append {p : Char → Bool} {run rest : List Char} (holds : ∀ c ∈ run, p c = true)
    (stops : ∀ c cs, rest = c :: cs → p c = false) : (run ++ rest).span p = (run, rest) := by
  rw [List.span_eq_takeWhile_dropWhile, List.takeWhile_append_of_pos holds, List.dropWhile_append_of_pos holds]
  cases rest with
  | nil       => simp
  | cons c cs => simp [stops c cs rfl]

theorem blanks_of_head {c : Char} {cs : List Char} (dark : isBlank c = false) :
    blanks (c :: cs) = c :: cs := by
  simp [blanks, dark]

theorem many_of_none {α : Type} {p : Scan α} {cs : List Char} (absent : p cs = none) :
    many p cs = ([], cs) := by
  unfold many
  cases cs.length with
  | zero   => rfl
  | succ n => simp [manyUpTo, absent]

/-! ### Keys -/

/-- A key that may stand without quotes: not empty, and all of its characters `isKeyChar`. -/
def Bare (key : String) : Prop := key.toList ≠ [] ∧ ∀ c ∈ key.toList, isKeyChar c = true

-- Only the characters of the key are looked at, not all that there are.
instance (key : String) : Decidable (Bare key) :=
  @instDecidableAnd _ _ inferInstance (List.decidableBAll _ key.toList)

theorem ne_of_isKeyChar {c d : Char} (keyChar : isKeyChar c = true) (other : isKeyChar d = false) :
    c ≠ d := by
  rintro rfl
  exact absurd keyChar (by simp [other])

theorem isBlank_of_isKeyChar {c : Char} (keyChar : isKeyChar c = true) : isBlank c = false := by
  have space : c ≠ ' ' := ne_of_isKeyChar keyChar (by decide)
  have tab : c ≠ '\t' := ne_of_isKeyChar keyChar (by decide)
  simp [isBlank, space, tab]

/-- A bare key begins with a character of keys, so with no quote, bracket or blank. -/
theorem Bare.exists_head {key : String} (bare : Bare key) :
    ∃ c cs, key.toList = c :: cs ∧ isKeyChar c = true := by
  obtain ⟨nonempty, all⟩ := bare
  cases chars : key.toList with
  | nil       => exact absurd chars nonempty
  | cons c cs => exact ⟨c, cs, rfl, all c (by simp [chars])⟩

/-- `key` reads a bare name up to the character `c` that ends it, together with the blanks behind.
    What follows must not be a dot, which would go on with the key. -/
theorem key_bare {name : String} (bare : Bare name) {c : Char} {rest : List Char}
    (ends : isKeyChar c = false) (undotted : ∀ cs, blanks (c :: rest) ≠ '.' :: cs) :
    key (name.toList ++ c :: rest) = some (([], name), blanks (c :: rest)) := by
  obtain ⟨first, others, chars, keyChar⟩ := bare.exists_head
  have start : blanks (name.toList ++ c :: rest) = name.toList ++ c :: rest := by
    rw [chars]
    exact blanks_of_head (isBlank_of_isKeyChar keyChar)
  have run : (name.toList ++ c :: rest).span isKeyChar = (name.toList, c :: rest) :=
    span_append bare.2 (by rintro _ _ ⟨⟩; exact ends)
  have simple : simpleKey (name.toList ++ c :: rest) = some (name, c :: rest) := by
    have quoted : ¬ (first = '"' ∨ first = '\'') := by
      rintro (rfl | rfl)
      · exact absurd keyChar (by decide)
      · exact absurd keyChar (by decide)
    have nonempty : name ≠ "" := by
      rintro rfl
      exact bare.1 rfl
    rw [simpleKey.eq_def, run]
    simp only [chars, List.cons_append]
    simp [quoted, ← chars, nonempty]
  -- No further part follows, so the name is the whole key.
  have single : many dottedPart (blanks (c :: rest)) = ([], blanks (c :: rest)) := by
    apply many_of_none
    unfold dottedPart
    split
    · next cs dotted => exact absurd dotted (undotted cs)
    · rfl
  simp [key, keyPart, start, simple, single, maxDepth]

/-! ### Numbers -/

theorem isDigitOf_eq (radix : Nat) (c : Char) : isDigitOf radix c = (Numeral.digit? radix c).isSome := by
  unfold isDigitOf Numeral.digit?
  cases Hex.digitValue? c with
  | none   => rfl
  | some d => by_cases small : d < radix <;> simp [small]

/-- `valueOf`, which sums up from the left, agrees with the place values of `Numeral.Digits`. -/
theorem valueOf_of_digits {radix : Nat} {cs : List Char} {n : Nat} (digits : Numeral.Digits radix cs n) :
    valueOf radix cs = n := by
  obtain ⟨-, ds, each, rfl⟩ := digits
  have general (acc : Nat) : cs.foldl (fun acc d => acc * radix + (Hex.digitValue? d).getD 0) acc =
      acc * radix ^ ds.length + Nat.ofDigits radix ds.reverse := by
    induction each generalizing acc with
    | nil => simp
    | @cons c d cs ds digit _ ih =>
      rw [Numeral.digit?, Option.filter_eq_some_iff] at digit
      rw [List.foldl_cons, ih, digit.1, Numeral.ofDigits_reverse_cons, List.length_cons, Option.getD_some]
      ring
  exact (general 0).trans (by simp)

section Digits

variable {ds : List Char} (digits : ∀ c ∈ ds, isDigitOf 10 c = true) (rest : List Char)
include digits

/-- `digitRest` takes all digits of a line and leaves the line end. -/
theorem digitRest_line : digitRest (isDigitOf 10) (ds ++ '\n' :: rest) = (ds, '\n' :: rest) := by
  induction ds with
  | nil => rfl
  | cons c ds ih =>
    obtain ⟨first, others⟩ := List.forall_mem_cons.mp digits
    have plain : c ≠ '_' := by
      rintro rfl
      exact absurd first (by decide)
    rw [List.cons_append, digitRest.eq_def]
    split
    · next same => cases same
    · next same => exact absurd (List.cons.inj same).1 plain
    · next same =>
      cases same
      simp [first, ih others]

/-- What `digitsExactly` leaves of a line of digits is again a line of digits, so it can be used
    twice in a row. -/
theorem exists_of_digitsExactly {n v : Nat} {cs : List Char}
    (found : digitsExactly n (ds ++ '\n' :: rest) = some (v, cs)) :
    ∃ ds', (∀ c ∈ ds', isDigitOf 10 c = true) ∧ cs = ds' ++ '\n' :: rest := by
  unfold digitsExactly at found
  by_cases enough : n ≤ ds.length
  · simp only [Option.ite_none_right_eq_some, Option.some.injEq, Prod.mk.injEq] at found
    obtain ⟨-, -, rfl⟩ := found
    exact ⟨ds.drop n, fun c mem => digits c (List.mem_of_mem_drop mem),
      List.drop_append_of_le_length enough⟩
  · -- Then the end of the line would be among the digits.
    have within : '\n' ∈ (ds ++ '\n' :: rest).take n := by
      rw [List.take_append]
      obtain ⟨k, more⟩ : ∃ k, n - ds.length = k + 1 := ⟨n - ds.length - 1, by omega⟩
      simp [more]
    simp only [Option.ite_none_right_eq_some, List.all_eq_true] at found
    exact absurd (found.1.2 _ within) (by decide)

/-- A line of digits does not go on with any other character `d`. -/
theorem exactly_eq_none {d : Char} (other : isDigitOf 10 d = false) (inside : d ≠ '\n') :
    exactly d (ds ++ '\n' :: rest) = none := by
  cases ds with
  | nil => simp [exactly, Ne.symm inside]
  | cons c cs =>
    have differs : c ≠ d := by
      rintro rfl
      exact absurd (digits c List.mem_cons_self) (by simp [other])
    simp [exactly, differs]

/-- A line of digits is no date: no dash follows the year. -/
theorem date_eq_none : date (ds ++ '\n' :: rest) = none := by
  unfold date
  cases found : digitsExactly 4 (ds ++ '\n' :: rest) with
  | none => rfl
  | some first =>
    obtain ⟨year, cs⟩ := first
    obtain ⟨ds', digits', rfl⟩ := exists_of_digitsExactly digits rest found
    have dash := exactly_eq_none digits' rest (show isDigitOf 10 '-' = false by decide) (by decide)
    simp [dash]

/-- A line of digits is no time of day: no colon follows the hour. -/
theorem timeOfDay_eq_none : timeOfDay (ds ++ '\n' :: rest) = none := by
  unfold timeOfDay digitsWithin
  cases found : digitsExactly 2 (ds ++ '\n' :: rest) with
  | none => rfl
  | some first =>
    obtain ⟨hour, cs⟩ := first
    obtain ⟨ds', digits', rfl⟩ := exists_of_digitsExactly digits rest found
    have colon := exactly_eq_none digits' rest (show isDigitOf 10 ':' = false by decide) (by decide)
    by_cases valid : hour ≤ 23 <;> simp [valid, colon, Option.filter]

theorem moment_eq_none : moment (ds ++ '\n' :: rest) = none := by
  simp [moment, date_eq_none digits rest, timeOfDay_eq_none digits rest]

end Digits

theorem isDigitOf_decimal (n : Nat) : ∀ c ∈ Numeral.decimal n, isDigitOf 10 c = true := by
  obtain ⟨-, _, each, -⟩ := Numeral.digits_decimal n
  intro c mem
  rw [isDigitOf_eq]
  exact (Numeral.forall_digit each).1 c mem

/-- `decimal n` begins with a digit, and with a zero only if it is `0`. -/
theorem exists_decimal_head (n : Nat) :
    ∃ c cs, Numeral.decimal n = c :: cs ∧ isDigitOf 10 c = true ∧ (c = '0' → n = 0 ∧ cs = []) := by
  cases front : Numeral.decimal n with
  | nil => exact absurd front (Numeral.digits_decimal n).1
  | cons c cs =>
    have digit := isDigitOf_decimal n c (front ▸ List.mem_cons_self)
    refine ⟨c, cs, rfl, digit, ?_⟩
    rintro rfl
    obtain rfl | positive := Nat.eq_zero_or_pos n
    · have zero : Numeral.decimal 0 = ['0'] := by
        rw [Numeral.decimal]
        rfl
      rw [zero] at front
      exact ⟨rfl, (List.cons.inj front).2.symm⟩
    · exact absurd front (Numeral.decimal_head_ne_zero positive cs)

/-- `decimal n` begins with nothing but a digit; this rules out every other form of value. -/
theorem decimal_ne_cons {n : Nat} {d : Char} {rest tail : List Char} (other : isDigitOf 10 d = false) :
    Numeral.decimal n ++ rest ≠ d :: tail := by
  obtain ⟨c, cs, front, digit, -⟩ := exists_decimal_head n
  rw [front]
  intro same
  rw [(List.cons.inj same).1, other] at digit
  exact absurd digit (by decide)

theorem sign_decimal (n : Nat) (rest : List Char) :
    sign (Numeral.decimal n ++ rest) = (false, Numeral.decimal n ++ rest) := by
  rw [sign.eq_def]
  split
  · next same => exact absurd same (decimal_ne_cons (by decide))
  · next same => exact absurd same (decimal_ne_cons (by decide))
  · rfl

theorem decimalRun_decimal (n : Nat) (rest : List Char) :
    decimalRun (Numeral.decimal n ++ '\n' :: rest) = some (Numeral.decimal n, '\n' :: rest) := by
  obtain ⟨c, cs, front, digit, zero⟩ := exists_decimal_head n
  have others : ∀ c ∈ cs, isDigitOf 10 c = true :=
    fun c mem => isDigitOf_decimal n c (front ▸ List.mem_cons_of_mem _ mem)
  rw [front, List.cons_append, decimalRun.eq_def]
  split
  · next same =>
    cases same
    rw [(zero rfl).2]
    rfl
  · simp [digitRun, digit, digitRest_line others rest]

/-- `decimal n` and a line end are no floating number, for want of point and exponent. -/
theorem floating_decimal (n : Nat) (rest : List Char) :
    floating (Numeral.decimal n ++ '\n' :: rest) = none := by
  have decimal : decimalFloat (Numeral.decimal n ++ '\n' :: rest) = none := by
    simp [decimalFloat, sign_decimal, decimalRun_decimal, exponent]
  have special : specialFloat (Numeral.decimal n ++ '\n' :: rest) = none := by
    rw [specialFloat, sign_decimal]
    split
    · next same => exact absurd same (decimal_ne_cons (by decide))
    · next same => exact absurd same (decimal_ne_cons (by decide))
    · rfl
  rw [floating, decimal, special]
  rfl

/-- `integer` reads `decimal n` back up to `maxInteger`. -/
theorem integer_decimal {n : Nat} (small : n ≤ maxInteger) (rest : List Char) :
    integer (Numeral.decimal n ++ '\n' :: rest) = some ((n : Int), '\n' :: rest) := by
  have inside : fits (n : Int) = true := by
    have bound : n ≤ maxInt64 := small
    simp only [fits, Bool.and_eq_true, decide_eq_true_eq]
    omega
  have plain : decimalInteger (Numeral.decimal n ++ '\n' :: rest) = some ((n : Int), '\n' :: rest) := by
    simp [decimalInteger, sign_decimal, decimalRun_decimal, valueOf_of_digits (Numeral.digits_decimal n),
      inside]
  obtain ⟨c, cs, front, digit, zero⟩ := exists_decimal_head n
  rw [← plain, front, integer.eq_def]
  -- The mark of another radix would stand behind a leading zero.
  have unmarked {d : Char} {tail : List Char} (other : d ≠ '\n') :
      c :: cs ++ '\n' :: rest ≠ '0' :: d :: tail := by
    intro same
    rw [List.cons_append] at same
    obtain ⟨head, same⟩ := List.cons.inj same
    rw [(zero head).2, List.nil_append] at same
    exact other (List.cons.inj same).1.symm
  split
  · next same => exact absurd same (unmarked (by decide))
  · next same => exact absurd same (unmarked (by decide))
  · next same => exact absurd same (unmarked (by decide))
  · rfl

/-! ### Words -/

/-- `basicBody` reads a word without escapes up to its closing quote. -/
theorem basicBody_append {cs : List Char} (plain : ∀ c ∈ cs, isPlain c = true ∧ c ≠ '"' ∧ c ≠ '\\')
    (rest : List Char) : basicBody (cs ++ '"' :: rest) = some (cs, rest) := by
  induction cs with
  | nil => rfl
  | cons c cs ih =>
    obtain ⟨⟨visible, unquoted, unescaped⟩, others⟩ := List.forall_mem_cons.mp plain
    rw [List.cons_append, basicBody.eq_def]
    split
    · next same => cases same
    · next same => exact absurd (List.cons.inj same).1 unquoted
    · next same => exact absurd (List.cons.inj same).1 unescaped
    · next same => exact absurd (List.cons.inj same).1 unescaped
    · next same => exact absurd (List.cons.inj same).1 unescaped
    · next same =>
      cases same
      simp [visible, unescaped, ih others, before]

theorem quotation_word {cs : List Char} (plain : ∀ c ∈ cs, isPlain c = true ∧ c ≠ '"' ∧ c ≠ '\\')
    (rest : List Char) : quotation ('"' :: (cs ++ '"' :: '\n' :: rest)) = some (cs, '\n' :: rest) := by
  have body := basicBody_append plain ('\n' :: rest)
  rw [quotation.eq_def]
  split
  · next same =>
    -- A word between single quotes does not begin with two more of them.
    cases cs with
    | nil => cases same
    | cons c cs =>
      have first : c = '"' := (List.cons.inj (List.cons.inj same).2).1
      exact absurd first (plain c List.mem_cons_self).2.1
  · next same => cases same
  · exact body

/-! ### Values -/

namespace Scalar

/-- The `Datum` that a printed scalar is read as. -/
def datum : Scalar → Datum
  | .bool b => .bool b
  | .int n  => .int n
  | .word s => .text s

/-- The value has a written form, and a word no character that would have to be escaped. -/
def Printable : Scalar → Prop
  | .bool _ => True
  | .int n  => n ≤ maxInteger
  | .word s => ∀ c ∈ s.toList, isPlain c = true ∧ c ≠ '"' ∧ c ≠ '\\'

instance : DecidablePred Printable
  | .bool _ => inferInstanceAs (Decidable True)
  | .int n  => inferInstanceAs (Decidable (n ≤ maxInteger))
  | .word s => List.decidableBAll _ s.toList

theorem scalar_decimal {n : Nat} (small : n ≤ maxInteger) (rest : List Char) :
    scalar (Numeral.decimal n ++ '\n' :: rest) = some (.int n, '\n' :: rest) := by
  have undated := moment_eq_none (isDigitOf_decimal n) rest
  -- Each of the other forms begins with a character that is no digit.
  have unquoted : quotation (Numeral.decimal n ++ '\n' :: rest) = none := by
    rw [quotation.eq_def]
    split
    · next same => exact absurd same (decimal_ne_cons (by decide))
    · next same => exact absurd same (decimal_ne_cons (by decide))
    · rw [quotedKey.eq_def]
      split
      · next same => exact absurd same (decimal_ne_cons (by decide))
      · next same => exact absurd same (decimal_ne_cons (by decide))
      · rfl
  unfold scalar
  split
  · next same => exact absurd same (decimal_ne_cons (by decide))
  · next same => exact absurd same (decimal_ne_cons (by decide))
  · simp [unquoted, undated, floating_decimal, integer_decimal small]

/-- The written form of a scalar begins neither with a blank nor with a bracket, so it is not taken
    for a list or a table. -/
theorem exists_chars_head {v : Scalar} {text : List Char} (printed : v.chars? = some text) :
    ∃ c cs, text = c :: cs ∧ isBlank c = false ∧ c ≠ '[' ∧ c ≠ '\x7b' := by
  cases v with
  | bool b => cases b <;> cases printed <;> exact ⟨_, _, rfl, by decide⟩
  | word s =>
    cases printed
    exact ⟨_, _, rfl, by decide⟩
  | int n =>
    obtain ⟨small, rfl⟩ : n ≤ maxInteger ∧ Numeral.decimal n = text := by
      simpa [chars?] using printed
    obtain ⟨c, cs, front, digit, -⟩ := exists_decimal_head n
    -- A digit differs from each of the characters in question.
    have other {d : Char} (letter : isDigitOf 10 d = false) : c ≠ d := by
      rintro rfl
      exact absurd digit (by simp [letter])
    have dark : isBlank c = false := by
      simp [isBlank, other (show isDigitOf 10 ' ' = false by decide),
        other (show isDigitOf 10 '\t' = false by decide)]
    exact ⟨c, cs, front, dark, other (by decide), other (by decide)⟩

/-- **`value` reads a printed scalar back**, at any depth and whatever follows its line. -/
theorem value_chars {v : Scalar} (printable : v.Printable) {text : List Char}
    (printed : v.chars? = some text) (depth : Nat) (rest : List Char) :
    value depth (text ++ '\n' :: rest) = some (v.datum, '\n' :: rest) := by
  -- Lists and tables apart, depth plays no part.
  have flat : scalar (text ++ '\n' :: rest) = some (v.datum, '\n' :: rest) := by
    cases v with
    | bool b => cases b <;> cases printed <;> rfl
    | word s =>
      cases printed
      simp [scalar, quotation_word printable rest, datum]
    | int n =>
      have small : n ≤ maxInteger := printable
      rw [chars?, if_pos small, Option.some.injEq] at printed
      subst printed
      exact scalar_decimal small rest
  obtain ⟨c, cs, rfl, -, bracket, brace⟩ := exists_chars_head printed
  cases depth with
  | zero => exact flat
  | succ depth =>
    rw [← flat, value.eq_def]
    split
    · next zero => exact absurd zero (Nat.succ_ne_zero _)
    · next =>
      split
      · next same => exact absurd (List.cons.inj same).1 bracket
      · next same => exact absurd (List.cons.inj same).1 brace
      · rfl

end Scalar

end CanDriver.Toml
