import SolidityLint.Settings.Value

/-!
# Reading TOML

A settings file is a TOML document.  A reader takes a thing from the start of a text and gives it
back with the rest, or says what is wrong.  This file holds what all readers share: faults,
blanks, comments and the characters a document must not hold.
-/

namespace SolidityLint.Toml

/-- What is wrong with a text that is not a document. -/
inductive Fault where
  /-- The text breaks the rules of the format. -/
  | malformed
  /-- A decimal integer has more digits than are read. -/
  | tooManyDigits (count : Nat)
  /-- Lists and tables are nested too deeply. -/
  | tooDeep
  deriving DecidableEq, Repr

namespace Fault

/-- The message that reports a fault. -/
def message : Fault → Text
  | malformed => "malformed document".toList
  | tooManyDigits count =>
      "Exceeds the limit (4300 digits) for integer string conversion: value has ".toList ++
        Text.ofNat count ++
        " digits; use sys.set_int_max_str_digits() to increase the limit".toList
  | tooDeep => "maximum recursion depth exceeded".toList

end Fault

/-- Takes a thing from the start of a text. -/
abbrev Reader (α : Type) := Text → Except Fault (α × Text)

/-- Refuses a text. -/
def refuse {α : Type} : Except Fault α :=
  .error .malformed

/-! ## Characters -/

/-- Is `c` a space or a tab? -/
def isBlank (c : Char) : Bool :=
  c == ' ' || c == '\t'

/-- Is `c` a space, a tab or a line feed? -/
def isBlankOrNewline (c : Char) : Bool :=
  isBlank c || c == '\n'

/-- Is `c` a control character other than the tab?  No document holds one, line feeds apart. -/
def isControl (c : Char) : Bool :=
  (decide (c.toNat < 32) || c.toNat == 127) && c != '\t'

/-- Is `c` a digit of the decimal system? -/
def isDigit (c : Char) : Bool :=
  c.isDigit

/-! ## Blanks and comments -/

/-- Drops the blanks at the start of a text. -/
def skipBlanks (s : Text) : Text :=
  s.dropWhile isBlank

/-- Drops a comment at the start of a text; the line feed that ends it stays. -/
def skipComment : Text → Except Fault Text
  | '#' :: s =>
      if (s.takeWhile (· ≠ '\n')).any isControl then refuse else .ok (s.dropWhile (· ≠ '\n'))
  | s => .ok s

/-- Drops blanks, line feeds and comments at the start of a text; `fuel` bounds the number of
comments. -/
def skipLinesWithin : Nat → Text → Except Fault Text
  | 0, s => .ok s
  | fuel + 1, s =>
      match s.dropWhile isBlankOrNewline with
      | '#' :: rest => do skipLinesWithin fuel (← skipComment ('#' :: rest))
      | rest => .ok rest

/-- Drops blanks, line feeds and comments at the start of a text. -/
def skipLines (s : Text) : Except Fault Text :=
  skipLinesWithin (s.length + 1) s

end SolidityLint.Toml
