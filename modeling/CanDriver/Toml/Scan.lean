namespace CanDriver.Toml

/-!
# Scanning characters

A scanner takes what it recognises off the front of a text.

* `Scan α` — the type; `many p` repeats a scanner as long as it recognises something;
* `blanks`, `comment`, `lineEnd`, `space` — the parts between values;
* `isPlain` — characters that may stand in comments and strings.
-/

/-- What was recognised and the text behind it, or `none`. -/
abbrev Scan (α : Type) := List Char → Option (α × List Char)

/-- At most `n` repetitions of `p`. A repetition that takes no character ends it. -/
def manyUpTo {α : Type} (p : Scan α) : Nat → List Char → List α × List Char
  | 0, cs => ([], cs)
  | n + 1, cs =>
    match p cs with
    | none => ([], cs)
    | some (a, rest) =>
      if rest.length < cs.length then
        let (as, rest) := manyUpTo p n rest
        (a :: as, rest)
      else ([], cs)

/-- `p` as often as it recognises something; the length of the text bounds the repetitions. -/
def many {α : Type} (p : Scan α) (cs : List Char) : List α × List Char :=
  manyUpTo p cs.length cs

/-! ### Between values -/

/-- A space or a tab. -/
def isBlank (c : Char) : Bool := c = ' ' || c = '\t'

/-- No control character except the tab. -/
def isPlain (c : Char) : Bool :=
  c = '\t' || (decide (0x20 ≤ c.toNat) && decide (c.toNat ≠ 0x7F))

/-- The text behind its leading blanks. -/
def blanks (cs : List Char) : List Char := cs.dropWhile isBlank

/-- The text behind `LF` or `CR LF`; a lone `CR` is no line end. -/
def newline? : List Char → Option (List Char)
  | '\n' :: cs         => some cs
  | '\r' :: '\n' :: cs => some cs
  | _                  => none

/-- The text behind a comment, if there is one. -/
def comment : List Char → List Char
  | '#' :: cs => cs.dropWhile isPlain
  | cs        => cs

/-- The text behind the rest of a line: blanks, a comment and the line end or the end of
    the text. -/
def lineEnd? (cs : List Char) : Option (List Char) :=
  match comment (blanks cs) with
  | [] => some []
  | cs => newline? cs

/-- The text behind blanks, comments and line ends, at most `n` of them. -/
def spaceUpTo : Nat → List Char → List Char
  | 0, cs => cs
  | n + 1, cs =>
    let cs := blanks cs
    match newline? (comment cs) with
    | some rest => spaceUpTo n rest
    | none      => cs

/-- `spaceUpTo` with enough repetitions for the whole text. -/
def space (cs : List Char) : List Char := spaceUpTo (cs.length + 1) cs

end CanDriver.Toml
