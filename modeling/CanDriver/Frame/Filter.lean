import CanDriver.Frame.Basic

namespace CanDriver

/-!
# Receive filters

A filter admits a frame when the identifier words agree on the bits of the mask:

* `Filter.all`, `Filter.standard id`, `Filter.extended id` — the common ones;
* `Filter.admits f word` — the rule.
-/

/-- A `struct can_filter`: the bits of `mask` say where an identifier word has to agree
    with `id`. -/
structure Filter where
  id   : UInt32
  mask : UInt32
  deriving DecidableEq, Repr, Inhabited

namespace Filter

/-- With an empty mask `admits` holds of every word. -/
def all : Filter := ⟨0, 0⟩

/-- Admits data frames with the standard identifier `id` alone: `extendedFlag` and `remoteFlag`
    stand in the mask, so both have to be clear. -/
def standard (id : UInt32) : Filter where
  id   := id &&& standardMask
  mask := standardMask ||| extendedFlag ||| remoteFlag

/-- Admits data frames with the extended identifier `id` alone: `extendedFlag` has to be set and
    `remoteFlag` to be clear. -/
def extended (id : UInt32) : Filter where
  id   := (id &&& extendedMask) ||| extendedFlag
  mask := extendedMask ||| extendedFlag ||| remoteFlag

/-- The kernel's test for one filter, `word & mask == id & mask`. -/
def admits (f : Filter) (word : UInt32) : Bool :=
  word &&& f.mask == f.id &&& f.mask

end Filter

end CanDriver
