import CanDriver.Text.Hex
import CanDriver.Text.Unprintable

namespace CanDriver.Quoted

/-!
# Quoted text

A text between double quotes, as it appears in messages.  A quote and a backslash follow a
backslash; tab, line feed, carriage return and NUL have short forms; any other character that does
not print stands as `\u`, an opening brace, its code point in lower-case hexadecimal and a closing
brace.  All else is written as it is:

* `escape c` — the written form of one character;
* `quote s` — the written form of a text.
-/

/-- `c` is a control character or `Unprintable.contains` it. -/
def needsCodePoint (c : Char) : Bool :=
  decide (c.toNat < 32) || Unprintable.contains c

/-- How `c` stands between the quotes: itself, a backslash and one character, or `\u` with its code
    point in braces. -/
def escape (c : Char) : List Char :=
  if c = '"' then ['\\', '"']
  else if c = '\\' then ['\\', '\\']
  else if c = '\n' then ['\\', 'n']
  else if c = '\r' then ['\\', 'r']
  else if c = '\t' then ['\\', 't']
  else if c.toNat = 0 then ['\\', '0']
  else if needsCodePoint c then ['\\', 'u', '\x7b'] ++ Hex.digits .lower c.toNat ++ ['\x7d']
  else [c]

/-- `escape` of every character, between two double quotes. -/
def encode (cs : List Char) : List Char :=
  '"' :: (cs.flatMap escape ++ ['"'])

/-- `encode` as a string. -/
def quote (s : String) : String :=
  String.ofList (encode s.toList)

end CanDriver.Quoted
