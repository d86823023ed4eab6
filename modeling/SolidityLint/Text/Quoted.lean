import SolidityLint.Text.Printable

/-!
# Quoted texts

A text is quoted by single quotes, or by double quotes if it holds a single quote and no double
one.  Inside, the quote and the backslash are escaped by a backslash; tab, line feed and carriage
return have short escapes, and every other character that is not printable is written by its
code point in hexadecimal.
-/

namespace SolidityLint.Text

/-- The hexadecimal digits of a number in lower case, filled with zeros up to `width` digits. -/
def ofNatHex (width n : Nat) : Text :=
  let digits := Nat.toDigits 16 n
  List.replicate (width - digits.length) '0' ++ digits

/-- How a character is written between two quotes `q`. -/
def quotedChar (q c : Char) : Text :=
  if c = q ∨ c = '\\' then ['\\', c]
  else if c = '\t' then ['\\', 't']
  else if c = '\n' then ['\\', 'n']
  else if c = '\r' then ['\\', 'r']
  else if isPrintable c then [c]
  else if c.toNat < 0x100 then '\\' :: 'x' :: ofNatHex 2 c.toNat
  else if c.toNat < 0x10000 then '\\' :: 'u' :: ofNatHex 4 c.toNat
  else '\\' :: 'U' :: ofNatHex 8 c.toNat

/-- The quote that encloses a text. -/
def quoteFor (s : Text) : Char :=
  if '\'' ∈ s ∧ '"' ∉ s then '"' else '\''

/-- A text in quotes. -/
def quoted (s : Text) : Text :=
  let q := quoteFor s
  q :: s.flatMap (quotedChar q) ++ [q]

end SolidityLint.Text
