namespace CanDriver

/-!
# Machine words

The bounds of the numbers that documents, arguments and calls carry in machine words:

* `bound32`, `bound64` — the least numbers that do not fit in 32 and in 64 bits;
* `maxInt32`, `maxInt64` — the largest numbers of 32 and of 64 bits with a sign.
-/

abbrev bound32 : Nat := 0x100000000
abbrev bound64 : Nat := 0x10000000000000000
abbrev maxInt32 : Nat := 0x7FFFFFFF
abbrev maxInt64 : Nat := 0x7FFFFFFFFFFFFFFF

/-- The low 32 bits of `n`, as a number without a sign: `n` modulo `bound32`. -/
def low32 (n : Int) : Nat := (n % (bound32 : Int)).toNat

end CanDriver
