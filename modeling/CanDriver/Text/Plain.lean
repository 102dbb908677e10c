namespace CanDriver.Plain

/-!
# Text without terminal controls

What is left of a text that goes to a file and not to a terminal: control sequences and control
characters are dropped, and line breaks, tabs and form feeds stay.

* `Phase` — how far the text is in a control sequence;
* `Phase.next p c` — the phase after a character that is dropped;
* `Phase.keeps p c` — the character stays;
* `strip` — the text without its controls.

A blank control inside a sequence that starts with an escape interrupts the sequence: what follows
stays as well, up to the next character that plain text does not keep.  From there the sequence
goes on, unless a character beyond ASCII came in between.
-/

/-- How far a text is in a control sequence; `text` is the phase outside of any. -/
inductive Phase
  | text
  /-- After `ESC`. -/
  | escape
  /-- After `ESC` and intermediate characters. -/
  | escapeTail
  /-- After `ESC [`, up to the final character of the sequence. -/
  | control
  /-- After `ESC P`, before any parameter. -/
  | deviceHead
  /-- In the parameters of a device string. -/
  | deviceParameter
  /-- In the intermediates of a device string. -/
  | deviceTail
  /-- After `ESC X`, `ESC ^` or `ESC _`, up to a string terminator. -/
  | string
  /-- After `ESC ]`, an operating system command; a bell ends it as well. -/
  | command
  deriving DecidableEq, Repr

/-- The code point is not ASCII, so its UTF-8 form has more than one byte. -/
def isWide (c : Char) : Bool := decide (128 ≤ c.toNat)

/-- Tab, line feed, form feed and carriage return, the only control characters that `keeps`
    lets through. -/
def isBlankControl (c : Char) : Bool := [9, 10, 12, 13].contains c.toNat

/-- One of the UTF-8 bytes of `c` is `0x9C`. The automaton works on bytes and takes it for a string
    terminator. -/
def holdsTerminator (c : Char) : Bool := (String.utf8EncodeChar c).contains 0x9C

namespace Phase

/-- Whether `c` stays in the phase `p`. Outside of sequences that is printable ASCII, blank controls
    and everything wide; inside the first three phases only the blank controls. -/
def keeps (p : Phase) (c : Char) : Bool :=
  match p with
  | .text => isWide c || (decide (32 ≤ c.toNat) && decide (c.toNat < 127)) || isBlankControl c
  | .escape | .escapeTail | .control => isBlankControl c
  | _ => false

/-- The phase after `ESC` and a character with the code `n`. -/
def afterEscape (n : Nat) : Phase :=
  if n < 0x20 then .escape
  else if n < 0x30 then .escapeTail
  else if n = 0x50 then .deviceHead
  else if n = 0x5B then .control
  else if n = 0x5D then .command
  else if n = 0x58 ∨ n = 0x5E ∨ n = 0x5F then .string
  else if n < 0x7F then .text
  else .escape

/-- The phase after a character that is dropped. Cancel and substitute end every sequence, and an
    escape starts a new one. -/
def next (p : Phase) (c : Char) : Phase :=
  let n := c.toNat
  if n = 0x18 ∨ n = 0x1A then .text
  else if n = 0x1B then .escape
  else match p with
    | .text       => .text
    | .escape     => afterEscape n
    | .escapeTail => if 0x30 ≤ n ∧ n < 0x7F then .text else .escapeTail
    | .control    => if 0x40 ≤ n ∧ n < 0x7F then .text else .control
    | .deviceHead =>
      if 0x20 ≤ n ∧ n < 0x30 then .deviceTail
      else if 0x30 ≤ n ∧ n < 0x40 then .deviceParameter
      else if 0x40 ≤ n ∧ n < 0x7F then .string
      else .deviceHead
    | .deviceParameter =>
      if 0x20 ≤ n ∧ n < 0x30 then .deviceTail
      else if 0x3C ≤ n ∧ n < 0x7F then .string
      else .deviceParameter
    | .deviceTail => if 0x30 ≤ n ∧ n < 0x7F then .string else .deviceTail
    | .string     => if holdsTerminator c then .text else .string
    | .command    => if n = 0x07 then .text else .command

end Phase

/-- The characters that stay, from the phase `p` on. After a character that stayed, `shown`, the
    next one is judged as in `Phase.text`, although `p` is kept for later. -/
def stripFrom (shown : Bool) (p : Phase) : List Char → List Char
  | [] => []
  | c :: cs =>
    if (if shown then Phase.text else p).keeps c then
      c :: stripFrom true (if isWide c then .text else p) cs
    else stripFrom false (p.next c) cs

/-- `stripFrom` from the phase `text`. -/
def strip (s : String) : String := String.ofList (stripFrom false .text s.toList)

end CanDriver.Plain
