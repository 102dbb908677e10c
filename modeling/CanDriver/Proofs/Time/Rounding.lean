import CanDriver.Interface.Basic
import CanDriver.Session.Poll
import Mathlib.Algebra.Group.Nat.Defs
import Mathlib.Order.Bounds.Basic

namespace CanDriver

/-!
# Milliseconds of a wait

A duration goes through microseconds on its way to milliseconds, and an interval is kept in them.

* `Duration.ceil_isLeast` — the least number of milliseconds that is no shorter;
* `Duration.Shaved` — less than a microsecond is left behind the whole milliseconds;
  `Duration.waitMillis_eq_iff` — unless that is so, the wait is that number, held at the largest of
  32 bits; `Duration.waitMillis_of_shaved` — else it is one less;
* `Duration.pollMillis_eq_neg_one_iff` — a wait without an end;
* `Interface.waitMillis_keptInterval` — an interval that is kept loses nothing more;
* `Duration.checkedMillis?`, `Duration.checkedInterval?` — the computations in words of fixed size; no
  result is too large for its word.
-/

namespace Duration

variable {d : Duration} {n : Nat}

/-! ### Rounding -/

/-- The number of milliseconds that a wait should have: the least that is no shorter than `d`. -/
theorem ceil_isLeast (d : Duration) :
    IsLeast {n | d.nanos ≤ (ofMillis n).nanos} ((d.nanos + 999999) / 1000000) := by
  refine ⟨?_, fun n enough => ?_⟩
  · change d.nanos ≤ (d.nanos + 999999) / 1000000 * 1000000
    omega
  · have enough : d.nanos ≤ n * 1000000 := enough
    omega

/-- Behind its whole milliseconds `d` has something, but less than a microsecond. This is what
    `wholeMicros` cuts off before `waitMillis` can round it up. -/
def Shaved (d : Duration) : Prop := 0 < d.nanos % 1000000 ∧ d.nanos % 1000000 < 1000

instance (d : Duration) : Decidable d.Shaved := inferInstanceAs (Decidable (_ ∧ _))

/-- `waitMillis` is the least number of milliseconds that is no shorter, held at `maxInt32`, unless
    `d` is `Shaved` and the cap does not hide that. -/
theorem waitMillis_eq_iff (least : IsLeast {n | d.nanos ≤ (ofMillis n).nanos} n) :
    d.waitMillis = min n maxInt32 ↔ ¬ (d.Shaved ∧ n ≤ maxInt32) := by
  obtain rfl := least.unique d.ceil_isLeast
  unfold waitMillis wholeMicros Shaved
  omega

/-- For a `Shaved` duration `waitMillis` is one less than it should be. -/
theorem waitMillis_of_shaved (least : IsLeast {n | d.nanos ≤ (ofMillis n).nanos} n) (shaved : d.Shaved)
    (small : n ≤ maxInt32) : d.waitMillis + 1 = n := by
  obtain rfl := least.unique d.ceil_isLeast
  obtain ⟨some_left, little⟩ := shaved
  unfold waitMillis wholeMicros
  omega

/-! ### Waits without an end -/

theorem pollMillis_nonneg (d : Duration) : 0 ≤ pollMillis (some d) := Int.natCast_nonneg d.waitMillis

/-- Only `none` is turned into the `-1` by which `poll(2)` waits without an end. -/
theorem pollMillis_eq_neg_one_iff {timeout : Option Duration} :
    pollMillis timeout = -1 ↔ timeout = none := by
  cases timeout with
  | none   => exact iff_of_true rfl rfl
  | some d =>
    refine iff_of_false (fun endless => ?_) (Option.some_ne_none d)
    have positive := d.pollMillis_nonneg
    rw [endless] at positive
    exact absurd positive (by decide)

end Duration

/-- `keptInterval` cuts off only what `waitMillis` cuts off anyway. -/
theorem Interface.waitMillis_keptInterval (d : Duration) :
    (Interface.keptInterval d).waitMillis = d.waitMillis := by
  have micros : (Interface.keptInterval d).wholeMicros = min d.wholeMicros (bound64 - 1) :=
    Nat.mul_div_cancel _ (by decide)
  have long : bound64 - 1 = 18446744073709551615 := rfl
  have short : maxInt32 = 2147483647 := rfl
  rw [Duration.waitMillis, Duration.waitMillis, micros]
  omega

/-! ### Words of fixed size -/

/-- `n` itself where it is below `2 ^ bits`, as checked arithmetic in words of that size has it. -/
def fits? (bits n : Nat) : Option Nat := if n < 2 ^ bits then some n else none

theorem fits?_of_lt {bits n : Nat} (small : n < 2 ^ bits) : fits? bits n = some n := if_pos small

namespace Duration

/-- `wholeMicros`, computed in 128 bits with a check at each step. -/
def checkedMicros? (d : Duration) : Option Nat := do
  let whole ← fits? 128 (d.secs * 1000000)
  fits? 128 (whole + d.subsecNanos / 1000)

/-- `waitMillis` in words of fixed size: 128 bits for all but the last number, which has 31
    and a sign. -/
def checkedMillis? (d : Duration) : Option Nat := do
  let micros ← d.checkedMicros?
  let raised ← fits? 128 (micros + 999)
  fits? 31 (min (raised / 1000) maxInt32)

/-- `keptInterval` in words of fixed size: microseconds in 64 bits, and of these seconds in 64 bits
    and nanoseconds in 32. -/
def checkedInterval? (d : Duration) : Option Duration := do
  let micros ← d.checkedMicros?
  let kept ← fits? 64 (min micros (bound64 - 1))
  let secs ← fits? 64 (kept / 1000000)
  let nanos ← fits? 32 (kept % 1000000 * 1000)
  return ofSecs secs + ofNanos nanos

variable {d : Duration}

/-- Seconds of 64 bits make microseconds of 84 bits. -/
theorem wholeMicros_lt (bounded : d.secs < 2 ^ 64) : d.wholeMicros < 2 ^ 84 := by
  unfold secs wholeMicros at *
  omega

theorem checkedMicros?_eq (bounded : d.secs < 2 ^ 64) : d.checkedMicros? = some d.wholeMicros := by
  have whole : d.secs * 1000000 + d.subsecNanos / 1000 = d.wholeMicros := by
    unfold secs subsecNanos wholeMicros
    omega
  have small := wholeMicros_lt bounded
  have first : fits? 128 (d.secs * 1000000) = some (d.secs * 1000000) := fits?_of_lt (by omega)
  rw [checkedMicros?, first, Option.bind_eq_bind, Option.bind_some, whole]
  exact fits?_of_lt (by omega)

/-- **No number on the way from `d` to `waitMillis` is too large for its word**, as long as its
    seconds have 64 bits. -/
theorem checkedMillis?_eq (bounded : d.secs < 2 ^ 64) : d.checkedMillis? = some d.waitMillis := by
  have small := wholeMicros_lt bounded
  have raised : fits? 128 (d.wholeMicros + 999) = some (d.wholeMicros + 999) := fits?_of_lt (by omega)
  rw [checkedMillis?, checkedMicros?_eq bounded, Option.bind_eq_bind, Option.bind_some, raised,
    Option.bind_some]
  exact fits?_of_lt (Nat.lt_of_le_of_lt (Nat.min_le_right _ _) (by decide))

/-- No number on the way from `d` to `keptInterval` is too large for its word. -/
theorem checkedInterval?_eq (bounded : d.secs < 2 ^ 64) :
    d.checkedInterval? = some (Interface.keptInterval d) := by
  have small : d.saturatedMicros < 2 ^ 64 := Nat.lt_of_le_of_lt (Nat.min_le_right _ _) (by decide)
  have kept : fits? 64 (min d.wholeMicros (bound64 - 1)) = some d.saturatedMicros := fits?_of_lt small
  have secs : fits? 64 (d.saturatedMicros / 1000000) = some (d.saturatedMicros / 1000000) :=
    fits?_of_lt (by omega)
  have nanos : fits? 32 (d.saturatedMicros % 1000000 * 1000) =
      some (d.saturatedMicros % 1000000 * 1000) := fits?_of_lt (by omega)
  -- Splitting the microseconds into seconds and nanoseconds loses nothing.
  have same : ofSecs (d.saturatedMicros / 1000000) + ofNanos (d.saturatedMicros % 1000000 * 1000) =
      Interface.keptInterval d := by
    apply congrArg Duration.mk
    change d.saturatedMicros / 1000000 * 1000000000 + d.saturatedMicros % 1000000 * 1000 =
      d.saturatedMicros * 1000
    omega
  rw [checkedInterval?, checkedMicros?_eq bounded, Option.bind_eq_bind, Option.bind_some, kept,
    Option.bind_some, secs, Option.bind_some, nanos, Option.bind_some, same]
  rfl

/-- No number on the way from an interval to the timeout of the worker is too large for its word,
    even if `d` itself is. -/
theorem checkedMillis?_keptInterval (d : Duration) :
    (Interface.keptInterval d).checkedMillis? = some d.waitMillis := by
  have small : d.saturatedMicros < 2 ^ 64 := Nat.lt_of_le_of_lt (Nat.min_le_right _ _) (by decide)
  have bounded : (Interface.keptInterval d).secs < 2 ^ 64 := by
    change d.saturatedMicros * 1000 / 1000000000 < 2 ^ 64
    omega
  rw [checkedMillis?_eq bounded, Interface.waitMillis_keptInterval]

end Duration

end CanDriver
