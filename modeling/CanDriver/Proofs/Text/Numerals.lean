import CanDriver.Text.Numeral
import Mathlib.Data.List.Forall2
import Mathlib.Data.Nat.Digits.Defs

namespace CanDriver.Numeral

/-!
# What numerals mean

* `Digits radix cs n` — the value of a run of digits, by place value;
* `Spells signs radix cs n` — `Digits` with a plus sign in front, where signs are admitted;
* `read_eq_ok_iff` — what is read is what is spelt, below the bound;
* `digits_decimal` — a number in base ten has its own value, and leads with no zero.
-/

/-- `cs` is a run of at least one digit of `radix`, the first the most significant, and `n`
    its value. -/
def Digits (radix : Nat) (cs : List Char) (n : Nat) : Prop :=
  cs ≠ [] ∧ ∃ ds, List.Forall₂ (fun c d => digit? radix c = some d) cs ds ∧
    n = Nat.ofDigits radix ds.reverse

/-- What `Numeral.read` takes for `n`: `Digits`, and where `signs` holds also a plus sign in
    front of them. -/
inductive Spells (signs : Prop) (radix : Nat) : List Char → Nat → Prop
  | digits {cs n} : Digits radix cs n → Spells signs radix cs n
  | plus {cs n} : signs → Digits radix cs n → Spells signs radix ('+' :: cs) n

/-! ### Reading -/

theorem digit?_plus (radix : Nat) : digit? radix '+' = none := rfl

theorem Digits.head_ne_plus {radix : Nat} {c : Char} {cs : List Char} {n : Nat}
    (digits : Digits radix (c :: cs) n) : c ≠ '+' := by
  rintro rfl
  obtain ⟨-, ds, each, -⟩ := digits
  cases each with
  | cons first _ => exact absurd (first.symm.trans (digit?_plus radix)) (by simp)

/-- A digit in front of the run `ds` counts `radix ^ ds.length`. -/
theorem ofDigits_reverse_cons (radix d : Nat) (ds : List Nat) :
    Nat.ofDigits radix (d :: ds).reverse = d * radix ^ ds.length + Nat.ofDigits radix ds.reverse := by
  rw [List.reverse_cons, Nat.ofDigits_append, Nat.ofDigits_singleton, List.length_reverse]
  ring

/-- The invariant of `accumulate`: it succeeds just if every character is a digit and the final
    value is below `bound`. The values on the way need no condition of their own, since they
    only grow. -/
theorem accumulate_eq_ok_iff {radix bound : Nat} (base : 0 < radix) {acc : Nat} (below : acc < bound)
    (cs : List Char) (n : Nat) :
    accumulate radix bound acc cs = .ok n ↔
      n < bound ∧ ∃ ds, List.Forall₂ (fun c d => digit? radix c = some d) cs ds ∧
        n = acc * radix ^ ds.length + Nat.ofDigits radix ds.reverse := by
  induction cs generalizing acc with
  | nil =>
    constructor
    · rintro ⟨⟩
      exact ⟨below, [], .nil, by simp⟩
    · rintro ⟨-, ds, each, value⟩
      cases each
      simpa [accumulate] using value.symm
  | cons c cs ih =>
    -- The digit `d` can be counted with those behind it or with `acc` before it.
    have shift (d : Nat) (ds : List Nat) : acc * radix ^ (d :: ds).length +
        Nat.ofDigits radix (d :: ds).reverse =
          (acc * radix + d) * radix ^ ds.length + Nat.ofDigits radix ds.reverse := by
      rw [ofDigits_reverse_cons, List.length_cons]
      ring
    constructor
    · intro reads
      rw [accumulate] at reads
      split at reads
      · cases reads
      · next d digit =>
        split at reads
        · next small =>
          obtain ⟨fits, ds, each, value⟩ := (ih small).mp reads
          exact ⟨fits, d :: ds, .cons digit each, by rw [shift, value]⟩
        · cases reads
    · rintro ⟨fits, ds, each, value⟩
      cases each with
      | @cons _ d _ ds digit others =>
        rw [shift] at value
        -- The digits that follow only make the value larger.
        have small : acc * radix + d < bound := by
          refine Nat.lt_of_le_of_lt ?_ fits
          have places : 0 < radix ^ ds.length := Nat.pow_pos base
          calc acc * radix + d ≤ (acc * radix + d) * radix ^ ds.length := Nat.le_mul_of_pos_right _ places
            _ ≤ n := by omega
        rw [accumulate, digit]
        simp only [if_pos small]
        exact (ih small).mpr ⟨fits, ds, others, value⟩

theorem accumulate_eq_ok_iff_digits {radix bound : Nat} (base : 0 < radix) (room : 0 < bound) (c : Char)
    (cs : List Char) (n : Nat) :
    accumulate radix bound 0 (c :: cs) = .ok n ↔ n < bound ∧ Digits radix (c :: cs) n := by
  simp [accumulate_eq_ok_iff base room, Digits]

/-- **`read radix bound cs` answers `n` just if `n < bound` and `cs` spells `n`, with or without a
    plus sign.** -/
theorem read_eq_ok_iff {radix bound : Nat} (base : 0 < radix) (room : 0 < bound) (cs : List Char) (n : Nat) :
    read radix bound cs = .ok n ↔ n < bound ∧ Spells True radix cs n := by
  -- Only a text that starts with a plus sign can be spelt in the second way.
  have head (cs : List Char) {n : Nat} (plain : ∀ ds, cs ≠ '+' :: ds) :
      Spells True radix cs n ↔ Digits radix cs n := by
    constructor
    · intro spells
      cases spells with
      | digits digits => exact digits
      | plus _ _      => exact absurd rfl (plain _)
    · exact .digits
  unfold read
  -- The four patterns of `read`, in their order.
  split
  · simp [head [], Digits]
  · constructor
    · rintro ⟨⟩
    · rintro ⟨-, spells⟩
      cases spells with
      | digits digits => exact absurd rfl digits.head_ne_plus
      | plus _ digits => exact absurd rfl digits.1
  · next c cs =>
    rw [accumulate_eq_ok_iff_digits base room]
    refine and_congr_right fun _ => ⟨.plus trivial, fun spells => ?_⟩
    cases spells with
    | digits digits => exact absurd rfl digits.head_ne_plus
    | plus _ digits => exact digits
  · next c cs alone signed =>
    have plain : ∀ ds, c :: cs ≠ '+' :: ds := by
      rintro ds ⟨⟩
      cases cs with
      | nil       => exact alone rfl rfl
      | cons d ds => exact signed d ds rfl rfl
    rw [accumulate_eq_ok_iff_digits base room, head _ plain]

/-- The characters of a run are digits of `radix`, and their values are below it. -/
theorem forall_digit {radix : Nat} {cs : List Char} {ds : List Nat}
    (each : List.Forall₂ (fun c d => digit? radix c = some d) cs ds) :
    (∀ c ∈ cs, (digit? radix c).isSome) ∧ ∀ d ∈ ds, d < radix := by
  induction each with
  | nil => simp
  | @cons c d _ _ digit _ ih =>
    have below : d < radix := by
      rw [digit?, Option.filter_eq_some_iff] at digit
      exact of_decide_eq_true digit.2
    exact ⟨List.forall_mem_cons.mpr ⟨by simp [digit], ih.1⟩, List.forall_mem_cons.mpr ⟨below, ih.2⟩⟩

/-- A run of `k` digits has a value below `radix ^ k`. -/
theorem Digits.lt {radix : Nat} (base : 1 < radix) {cs : List Char} {n : Nat} (digits : Digits radix cs n) :
    n < radix ^ cs.length := by
  obtain ⟨-, ds, each, rfl⟩ := digits
  rw [each.length_eq, ← List.length_reverse]
  refine Nat.ofDigits_lt_base_pow_length base fun d mem => ?_
  exact (forall_digit each).2 d (List.mem_reverse.mp mem)

theorem Spells.lt {signs : Prop} {radix : Nat} (base : 1 < radix) {cs : List Char} {n : Nat}
    (spells : Spells signs radix cs n) : n < radix ^ cs.length := by
  cases spells with
  | digits digits => exact digits.lt base
  | plus _ digits =>
    refine Nat.lt_of_lt_of_le (digits.lt base) (Nat.pow_le_pow_right (by omega) ?_)
    simp

/-- A numeral has no characters but digits and plus signs, so none of the separators of the
    command line. -/
theorem Spells.digit_or_plus {signs : Prop} {radix : Nat} {cs : List Char} {n : Nat}
    (spells : Spells signs radix cs n) {c : Char} (mem : c ∈ cs) : (digit? radix c).isSome ∨ c = '+' := by
  cases spells with
  | digits digits =>
    obtain ⟨-, _, each, -⟩ := digits
    exact .inl ((forall_digit each).1 c mem)
  | plus _ digits =>
    obtain ⟨-, _, each, -⟩ := digits
    obtain rfl | mem := List.mem_cons.mp mem
    · exact .inr rfl
    · exact .inl ((forall_digit each).1 c mem)

/-- Without a plus sign in `cs` it does not matter whether `Spells` admits one. -/
theorem spells_of_no_sign {radix : Nat} {cs : List Char} {n : Nat} (plain : '+' ∉ cs) (signs : Prop) :
    Spells True radix cs n ↔ Spells signs radix cs n := by
  constructor <;> intro spells <;> cases spells with
  | digits digits => exact .digits digits
  | plus _ _      => exact absurd List.mem_cons_self plain

/-! ### Numbers in base ten -/

theorem digit?_digitChar {d : Nat} (small : d < 10) : digit? 10 (Hex.digitChar .lower d) = some d := by
  revert d
  decide

/-- A digit `d` behind a run turns its value `n` into `n * radix + d`. -/
theorem Digits.snoc {radix : Nat} {cs : List Char} {n : Nat} (digits : Digits radix cs n) {c : Char} {d : Nat}
    (digit : digit? radix c = some d) : Digits radix (cs ++ [c]) (n * radix + d) := by
  obtain ⟨-, ds, each, rfl⟩ := digits
  refine ⟨by simp, ds ++ [d], List.rel_append each (.cons digit .nil), ?_⟩
  rw [List.reverse_append, List.reverse_singleton, List.singleton_append, Nat.ofDigits_cons]
  ring

/-- `Numeral.decimal n` has the value `n`. -/
theorem digits_decimal (n : Nat) : Digits 10 (decimal n) n := by
  induction n using decimal.induct with
  | case1 n small =>
    rw [decimal, if_pos small]
    exact ⟨by simp, [n], .cons (digit?_digitChar small) .nil, by simp⟩
  | case2 n large ih =>
    rw [decimal, if_neg large]
    have last := digit?_digitChar (Nat.mod_lt n (by decide : 0 < 10))
    have value : n / 10 * 10 + n % 10 = n := Nat.div_add_mod' n 10
    have digits := ih.snoc last
    rwa [value] at digits

/-- `decimal n` has no leading zero unless `n` is zero. -/
theorem decimal_head_ne_zero {n : Nat} (positive : 0 < n) (cs : List Char) : decimal n ≠ '0' :: cs := by
  induction n using decimal.induct generalizing cs with
  | case1 n small =>
    intro same
    rw [decimal, if_pos small] at same
    have value := digit?_digitChar small
    rw [(List.cons.inj same).1] at value
    exact absurd (Option.some.inj value) (Nat.ne_of_lt positive)
  | case2 n large ih =>
    intro same
    rw [decimal, if_neg large] at same
    -- The first digit of `n` is that of `n / 10`, which is positive as well.
    cases front : decimal (n / 10) with
    | nil => exact (digits_decimal (n / 10)).1 front
    | cons c ds =>
      rw [front, List.cons_append] at same
      rw [(List.cons.inj same).1] at front
      exact ih (Nat.div_pos (by omega) (by decide)) ds front

end CanDriver.Numeral
