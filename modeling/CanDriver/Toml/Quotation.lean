import CanDriver.Text.Hex
import CanDriver.Toml.Scan

namespace CanDriver.Toml

/-!
# Strings

Four forms: between double quotes with escapes, between apostrophes without, and both between
threefold quotes over several lines.

* `basicBody`, `literalBody`, `basicLines`, `literalLines` — what follows the opening quotes;
* `quotation` — any of the four; `quotedKey` — one of the two that fit on a line.
-/

/-- The character that a backslash and one letter stand for. -/
def letterEscape? : Char → Option Char
  | 'b'  => some '\x08'
  | 't'  => some '\t'
  | 'n'  => some '\n'
  | 'f'  => some '\x0c'
  | 'r'  => some '\r'
  | '"'  => some '"'
  | '\\' => some '\\'
  | _    => none

/-- The value of a run of hexadecimal digits of either case. -/
def hexValue? (ds : List Char) : Option Nat :=
  ds.foldl (fun acc d => do return 16 * (← acc) + (← Hex.digitValue? d)) (some 0)

/-- The character behind `\u` or `\U`; a surrogate is none. -/
def codePoint? (ds : List Char) : Option Char := do
  let n ← hexValue? ds
  if n.isValidChar then some (Char.ofNat n) else none

/-- Puts a character in front of the string that was scanned. -/
def before {ε : Type} (c : Char) : Option (List Char × ε) → Option (List Char × ε)
  | none           => none
  | some (cs, end_) => some (c :: cs, end_)

/-- The rest of a string between double quotes, up to the closing quote. -/
def basicBody : Scan (List Char)
  | [] => none
  | '"' :: cs => some ([], cs)
  | '\\' :: 'u' :: a :: b :: c :: d :: cs =>
    match codePoint? [a, b, c, d] with
    | some ch => before ch (basicBody cs)
    | none    => none
  | '\\' :: 'U' :: a :: b :: c :: d :: e :: f :: g :: h :: cs =>
    match codePoint? [a, b, c, d, e, f, g, h] with
    | some ch => before ch (basicBody cs)
    | none    => none
  | '\\' :: e :: cs =>
    match letterEscape? e with
    | some ch => before ch (basicBody cs)
    | none    => none
  | c :: cs => if isPlain c && c != '\\' then before c (basicBody cs) else none

/-- The rest of a string between apostrophes, which has no escapes. -/
def literalBody : Scan (List Char)
  | []         => none
  | '\'' :: cs => some ([], cs)
  | c :: cs    => if isPlain c then before c (literalBody cs) else none

/-- Threefold quotes end a string of several lines; one or two more before them belong to it. -/
def closing? (quote : Char) : List Char → Option (List Char × List Char)
  | a :: b :: c :: cs =>
    if a = quote ∧ b = quote ∧ c = quote then
      match cs with
      | d :: e :: rest =>
        if d = quote ∧ e = quote then some ([quote, quote], rest)
        else if d = quote then some ([quote], e :: rest)
        else some ([], cs)
      | [d] => if d = quote then some ([quote], []) else some ([], cs)
      | []  => some ([], cs)
    else none
  | _ => none

/-- Behind a backslash there are only blanks up to the end of the line: the string goes on behind
    the next character that is no blank. -/
def continues (cs : List Char) : Bool := (newline? (blanks cs)).isSome

/-- The rest of a string between threefold double quotes. While `skipping`, blanks and line ends
    after a line continuation do not count. -/
def basicLines (skipping : Bool) : Scan (List Char)
  | [] => none
  | '\r' :: '\n' :: cs =>
    if skipping then basicLines true cs else before '\n' (basicLines false cs)
  | '\n' :: cs =>
    if skipping then basicLines true cs else before '\n' (basicLines false cs)
  | '\\' :: 'u' :: a :: b :: c :: d :: cs =>
    match codePoint? [a, b, c, d] with
    | some ch => before ch (basicLines false cs)
    | none    => none
  | '\\' :: 'U' :: a :: b :: c :: d :: e :: f :: g :: h :: cs =>
    match codePoint? [a, b, c, d, e, f, g, h] with
    | some ch => before ch (basicLines false cs)
    | none    => none
  | '\\' :: e :: cs =>
    if continues (e :: cs) then basicLines true (e :: cs)
    else match letterEscape? e with
      | some ch => before ch (basicLines false cs)
      | none    => none
  | c :: cs =>
    if skipping && isBlank c then basicLines true cs
    else match closing? '"' (c :: cs) with
      | some found => some found
      | none => if isPlain c && c != '\\' then before c (basicLines false cs) else none

/-- The rest of a string between threefold apostrophes. -/
def literalLines : Scan (List Char)
  | [] => none
  | '\r' :: '\n' :: cs => before '\n' (literalLines cs)
  | '\n' :: cs         => before '\n' (literalLines cs)
  | c :: cs =>
    match closing? '\'' (c :: cs) with
    | some found => some found
    | none => if isPlain c then before c (literalLines cs) else none

/-- A line end right behind the opening quotes does not count. -/
def skipNewline (cs : List Char) : List Char := (newline? cs).getD cs

/-- One of the two forms that fit on a line, the only ones that a key may have. -/
def quotedKey : Scan (List Char)
  | '"' :: cs  => basicBody cs
  | '\'' :: cs => literalBody cs
  | _          => none

/-- A string in any of the four forms; threefold quotes are tried first. -/
def quotation : Scan (List Char)
  | '"' :: '"' :: '"' :: cs    => basicLines false (skipNewline cs)
  | '\'' :: '\'' :: '\'' :: cs => literalLines (skipNewline cs)
  | cs                         => quotedKey cs

end CanDriver.Toml
