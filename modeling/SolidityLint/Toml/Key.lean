import SolidityLint.Toml.Quotation

/-!
# Keys

A key is a list of names with dots between them.  A name is bare, which allows letters, digits,
hyphens and underscores of ASCII, or quoted.
-/

namespace SolidityLint.Toml

/-- A key: the names from the root of a document to one of its values. -/
abbrev Key := List Text

/-- May `c` stand in a bare name? -/
def isBare (c : Char) : Bool :=
  c.isAlphanum || c == '-' || c == '_'

/-- Can a key start with `c`? -/
def startsKey (c : Char) : Bool :=
  isBare c || c == '"' || c == '\''

/-- Reads a name of a key. -/
def keyName : Reader Text
  | '\'' :: s => literalText s
  | '"' :: s => escapedText s
  | c :: s =>
      if isBare c then .ok (c :: s.takeWhile isBare, s.dropWhile isBare) else refuse
  | [] => refuse

/-- Reads a key and the blanks behind it; `fuel` bounds the number of names. -/
def keyWithin : Nat → Reader Key
  | 0, _ => refuse
  | fuel + 1, s => do
      let (name, rest) ← keyName s
      match skipBlanks rest with
      | '.' :: rest => (keyWithin fuel (skipBlanks rest)).map fun r => (name :: r.1, r.2)
      | rest => return ([name], rest)

/-- Reads a key and the blanks behind it. -/
def key : Reader Key := fun s =>
  keyWithin (s.length + 1) s

end SolidityLint.Toml
