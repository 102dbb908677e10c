import CanDriver.Frame.Basic
import CanDriver.Text.Hex
import CanDriver.Text.Numeral

namespace CanDriver

/-!
# The text of frames

* `Frame.text f` — identifier, `#` and payload in upper-case hexadecimal: eight digits for an
  extended frame, at least three for any other, where the error flag stays in the identifier;
* `Frame.fieldText f` — the fields by name, with the payload as decimal bytes.
-/

namespace Frame

/-- Eight digits of `identifier` for an extended frame. Any other frame has at least three digits of
    `id`, masked with `standardMask` and `errorFlag`. -/
def identifierChars (f : Frame) : List Char :=
  if f.isExtended then Hex.padded .upper 8 f.identifier.toNat
  else Hex.padded .upper 3 (f.id &&& (standardMask ||| errorFlag)).toNat

/-- `identifierChars`, `#` and two digits for each byte of `payload`. -/
def chars (f : Frame) : List Char :=
  f.identifierChars ++ '#' :: Hex.bytes .upper f.payload

/-- `chars` as a string, for example `123#DEADBEEF`. -/
def text (f : Frame) : String := String.ofList f.chars

/-- Two upper-case digits for each byte of `payload`, without separators. -/
def payloadText (f : Frame) : String := String.ofList (Hex.bytes .upper f.payload)

/-- The record as a debugger prints it, with the whole identifier word in eight digits and `payload`
    as a list of decimal numbers. -/
def fieldText (f : Frame) : String :=
  let id := String.ofList (Hex.padded .upper 8 f.id.toNat)
  let bytes := ", ".intercalate (f.payload.map fun b => Numeral.text b.toNat)
  let len := Numeral.text f.len.toNat
  let flags := Numeral.text f.flags.toNat
  s!"CanFrame \x7b can_id: 0x{id}, len: {len}, flags: {flags}, data: [{bytes}] \x7d"

end Frame

end CanDriver
