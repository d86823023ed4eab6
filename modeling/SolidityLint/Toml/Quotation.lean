import SolidityLint.Text.Digit
import SolidityLint.Toml.Basic

/-!
# Quoted texts

A text stands in single quotes as it is, or in double quotes with escapes.  Three quotes instead
of one allow line feeds; the first line feed does not count, and up to two more quotes may stand
right before the closing three.
-/

namespace SolidityLint.Toml

/-- The two parts of a text before and after the first occurrence of a mark. -/
def splitAt? (mark : Text) : Text → Option (Text × Text)
  | [] => if mark.isEmpty then some ([], []) else none
  | c :: s =>
      if mark.isPrefixOf (c :: s) then some ([], (c :: s).drop mark.length)
      else (splitAt? mark s).map fun parts => (c :: parts.1, parts.2)

/-- Reads a text in single quotes after the opening quote. -/
def literalText : Reader Text := fun s =>
  match splitAt? ['\''] s with
  | some (inside, rest) => if inside.any isControl then refuse else .ok (inside, rest)
  | none => refuse

/-- May a character stand in a text of several lines? -/
def isForbiddenInLines (c : Char) : Bool :=
  isControl c && c != '\n'

/-- Reads up to two more quotes that belong to a text of several lines. -/
def extraQuotes (quote : Char) (inside : Text) : Text → Text × Text
  | a :: b :: rest =>
      if a = quote then
        if b = quote then (inside ++ [quote, quote], rest) else (inside ++ [quote], b :: rest)
      else (inside, a :: b :: rest)
  | [a] => if a = quote then (inside ++ [quote], []) else (inside, [a])
  | [] => (inside, [])

/-- A text without a line feed at its start. -/
def withoutFirstNewline : Text → Text
  | '\n' :: s => s
  | s => s

/-- Reads a text in three single quotes after the opening quotes. -/
def literalLines : Reader Text := fun s =>
  match splitAt? ['\'', '\'', '\''] (withoutFirstNewline s) with
  | some (inside, rest) =>
      if inside.any isForbiddenInLines then refuse else .ok (extraQuotes '\'' inside rest)
  | none => refuse

/-! ## Escapes -/

/-- Reads the character that a number of hexadecimal digits denote. -/
def hexChar (count : Nat) : Reader Text := fun s =>
  let digits := s.take count
  if digits.length = count ∧ digits.all Text.isHexDigit then
    let n := Text.ofDigits 16 digits
    if n.isValidChar then .ok ([Char.ofNat n], s.drop count) else refuse
  else refuse

/-- Reads a line break that does not count, after the backslash before it: the blanks around it
do not count either. -/
def skippedBreak : Reader Text := fun s =>
  match skipBlanks s with
  | [] => .ok ([], [])
  | '\n' :: rest => .ok ([], rest.dropWhile isBlankOrNewline)
  | _ => refuse

/-- Reads an escape after its backslash. -/
def escape (lines : Bool) : Reader Text
  | 'b' :: s => .ok (['\x08'], s)
  | 't' :: s => .ok (['\t'], s)
  | 'n' :: s => .ok (['\n'], s)
  | 'f' :: s => .ok (['\x0c'], s)
  | 'r' :: s => .ok (['\r'], s)
  | '"' :: s => .ok (['"'], s)
  | '\\' :: s => .ok (['\\'], s)
  | 'u' :: s => hexChar 4 s
  | 'U' :: s => hexChar 8 s
  | c :: s => if lines && isBlankOrNewline c then skippedBreak (c :: s) else refuse
  | [] => refuse

/-- Reads what a text in double quotes holds up to and with the closing quotes; `fuel` bounds the
number of characters and escapes. -/
def escapedWithin (lines : Bool) : Nat → Reader Text
  | 0, _ => refuse
  | _, [] => refuse
  | fuel + 1, '"' :: s =>
      if lines then
        match s with
        | '"' :: '"' :: rest => .ok ([], rest)
        | _ => (escapedWithin lines fuel s).map fun r => ('"' :: r.1, r.2)
      else .ok ([], s)
  | fuel + 1, '\\' :: s => do
      let (piece, rest) ← escape lines s
      (escapedWithin lines fuel rest).map fun r => (piece ++ r.1, r.2)
  | fuel + 1, c :: s =>
      if isControl c && !(lines && c == '\n') then refuse
      else (escapedWithin lines fuel s).map fun r => (c :: r.1, r.2)

/-- Reads a text in double quotes after the opening quote. -/
def escapedText : Reader Text := fun s =>
  escapedWithin false (s.length + 1) s

/-- Reads a text in three double quotes after the opening quotes. -/
def escapedLines : Reader Text := fun s => do
  let (inside, rest) ← escapedWithin true (s.length + 1) (withoutFirstNewline s)
  return extraQuotes '"' inside rest

end SolidityLint.Toml
