import CanDriver.Text.Numeral

namespace CanDriver

/-!
# Durations

A length of time as a whole number of nanoseconds:

* `Duration.ofSecs`, `ofMillis`, `ofMicros` — from larger units;
* `secs`, `subsecNanos`, `wholeMillis`, `wholeMicros` — to larger units, rounding down;
* `saturatedMicros` — whole microseconds, at most what 64 bits hold;
* `waitMillis d` — the least number of milliseconds that is no shorter, at most `maxInt32`;
* `text d` — the shortest decimal in the largest unit that leaves no zero before the point.
-/

/-- A length of time in whole nanoseconds, without an upper bound. -/
structure Duration where
  nanos : Nat
  deriving DecidableEq, Repr, Inhabited

namespace Duration

def zero : Duration := ⟨0⟩
def ofNanos (n : Nat) : Duration := ⟨n⟩
def ofMicros (n : Nat) : Duration := ⟨n * 1000⟩
def ofMillis (n : Nat) : Duration := ⟨n * 1000000⟩
def ofSecs (n : Nat) : Duration := ⟨n * 1000000000⟩

instance : Add Duration := ⟨fun a b => ⟨a.nanos + b.nanos⟩⟩

@[simp] theorem nanos_add (a b : Duration) : (a + b).nanos = a.nanos + b.nanos := rfl

def secs (d : Duration) : Nat := d.nanos / 1000000000
def subsecNanos (d : Duration) : Nat := d.nanos % 1000000000
def wholeMicros (d : Duration) : Nat := d.nanos / 1000
def wholeMillis (d : Duration) : Nat := d.nanos / 1000000

/-- `wholeMicros`, held at the largest value of 64 bits. -/
def saturatedMicros (d : Duration) : Nat := min d.wholeMicros (bound64 - 1)

/-- The timeout that `poll(2)` gets. `wholeMicros` has cut off what is below a microsecond before
    the milliseconds are rounded up, so one nanosecond gives zero. -/
def waitMillis (d : Duration) : Nat := min ((d.wholeMicros + 999) / 1000) maxInt32

/-! ### Text -/

/-- `whole.fraction`, where `fraction` has `places` digits of which the trailing zeros go; the point
    goes with the last of them. -/
def decimalText (whole fraction places : Nat) : List Char :=
  let kept := ((Numeral.decimalPadded places fraction).reverse.dropWhile (· = '0')).reverse
  Numeral.decimal whole ++ (if kept.isEmpty then [] else '.' :: kept)

/-- `decimalText` in the largest of `s`, `ms`, `µs` and `ns` of which `d` has at least one. -/
def text (d : Duration) : String :=
  String.ofList <|
    if d.nanos ≥ 1000000000 then decimalText (d.nanos / 1000000000) (d.nanos % 1000000000) 9 ++ ['s']
    else if d.nanos ≥ 1000000 then decimalText (d.nanos / 1000000) (d.nanos % 1000000) 6 ++ ['m', 's']
    else if d.nanos ≥ 1000 then decimalText (d.nanos / 1000) (d.nanos % 1000) 3 ++ ['µ', 's']
    else Numeral.decimal d.nanos ++ ['n', 's']

end Duration

end CanDriver
