import SolidityLint.Text.Blank

/-!
# Integers

Two readings of integers.  In the first one (`integer?`) an integer is written with decimal digits
of any script, in the second one (`count?`) with ASCII digits, any number of zeros in front, perhaps
with a minus sign behind them, and perhaps zeros behind a point.  In both, blanks around it and one
sign in front are allowed, and a single underscore may stand between two digits.  The information
separators U+001C to U+001F do not count as blanks here.  An integer of more than 4300 digits is
refused.
-/

namespace SolidityLint.Text

/-- The zeros of the scripts that have decimal digits in Unicode (version 14); the other nine
digits of a script follow its zero. -/
def zeroDigits : List Nat :=
  [0x30, 0x660, 0x6F0, 0x7C0, 0x966, 0x9E6, 0xA66, 0xAE6, 0xB66, 0xBE6, 0xC66, 0xCE6, 0xD66, 0xDE6,
   0xE50, 0xED0, 0xF20, 0x1040, 0x1090, 0x17E0, 0x1810, 0x1946, 0x19D0, 0x1A80, 0x1A90, 0x1B50,
   0x1BB0, 0x1C40, 0x1C50, 0xA620, 0xA8D0, 0xA900, 0xA9D0, 0xA9F0, 0xAA50, 0xABF0, 0xFF10, 0x104A0,
   0x10D30, 0x11066, 0x110F0, 0x11136, 0x111D0, 0x112F0, 0x11450, 0x114D0, 0x11650, 0x116C0,
   0x11730, 0x118E0, 0x11950, 0x11C50, 0x11D50, 0x11DA0, 0x16A60, 0x16AC0, 0x16B50, 0x1D7CE,
   0x1D7D8, 0x1D7E2, 0x1D7EC, 0x1D7F6, 0x1E140, 0x1E2F0, 0x1E950, 0x1FBF0]

/-- The value of a decimal digit of any script. -/
def digitValue? (c : Char) : Option Nat :=
  (zeroDigits.find? fun z => decide (z ≤ c.toNat) && decide (c.toNat < z + 10)).map (c.toNat - ·)

/-- The values of the digits of a numeral; `afterDigit` says whether a digit was just read. -/
def digitValues? (afterDigit : Bool) : Text → Option (List Nat)
  | [] => if afterDigit then some [] else none
  | c :: cs =>
      if c = '_' then if afterDigit then digitValues? false cs else none
      else do
        let d ← digitValue? c
        let ds ← digitValues? true cs
        return d :: ds

/-- The number that a list of decimal digits denotes. -/
def ofDigitValues (ds : List Nat) : Nat :=
  ds.foldl (fun n d => 10 * n + d) 0

/-- The greatest number of digits an integer may have. -/
def maxDigits : Nat := 4300

/-- The natural number that a numeral denotes. -/
def natural? (s : Text) : Option Nat := do
  let ds ← digitValues? false s
  if ds.length ≤ maxDigits then return ofDigitValues ds else none

/-- Is `c` one of the blanks that may surround an integer? -/
def isNumeralBlank (c : Char) : Bool :=
  isBlank c && !(decide (0x1C ≤ c.toNat) && decide (c.toNat ≤ 0x1F))

/-- A text without the blanks around it. -/
def withoutNumeralBlanks (s : Text) : Text :=
  trimEnd isNumeralBlank (s.dropWhile isNumeralBlank)

/-- The integer that a text denotes. -/
def integer? (s : Text) : Option Int :=
  match s.withoutNumeralBlanks with
  | '-' :: cs => (natural? cs).map fun n => -(n : Int)
  | '+' :: cs => (natural? cs).map fun n => (n : Int)
  | cs => (natural? cs).map fun n => (n : Int)

/-! ## Counts -/

/-- A numeral after zeros and underscores, of which `last` is the last one.  It stays if no digit
follows.  A minus sign may stand behind the zeros. -/
def afterZeros? (last : Char) : Text → Option Text
  | [] => some [last]
  | c :: cs =>
      if c = '0' ∨ c = '_' then afterZeros? c cs
      else if c.isDigit || c == '-' then some (c :: cs)
      else if c = '.' then some (last :: c :: cs)
      else none

/-- A numeral without the zeros in front. -/
def withoutZeros? : Text → Option Text
  | [] => none
  | c :: cs => if c = '0' then afterZeros? c cs else if c.isDigit then some (c :: cs) else none

/-- A numeral without its point and what follows it, which must be zeros. -/
def withoutPlaces? (s : Text) : Option Text :=
  match s.dropWhile (· ≠ '.') with
  | [] => some s
  | _ :: places =>
      if !places.isEmpty && places.all (· == '0') then some (s.takeWhile (· ≠ '.')) else none

/-- Do two underscores follow each other? -/
def hasDoubleUnderscore : Text → Bool
  | '_' :: '_' :: _ => true
  | _ :: cs => hasDoubleUnderscore cs
  | [] => false

/-- A numeral without its underscores, which stand neither at its ends nor next to each other. -/
def withoutUnderscores? (s : Text) : Option Text :=
  if s.head? == some '_' || s.getLast? == some '_' || hasDoubleUnderscore s then none
  else some (s.filter (· ≠ '_'))

/-- The natural number that ASCII digits denote, of which the first one is no superfluous zero. -/
def asciiNatural? (s : Text) : Option Nat :=
  if s.all Char.isDigit && (s.length == 1 || s.head? != some '0') then natural? s else none

/-- The integer that ASCII digits denote, perhaps behind a minus sign. -/
def asciiInteger? : Text → Option Int
  | '-' :: cs => (asciiNatural? cs).map fun n => -(n : Int)
  | cs => (asciiNatural? cs).map fun n => (n : Int)

/-- The integer that a numeral without a sign in front denotes as a count. -/
def unsignedCount? (s : Text) : Option Int :=
  (((withoutZeros? s).bind withoutPlaces?).bind withoutUnderscores?).bind asciiInteger?

/-- The integer that a text denotes as a count.  Behind a minus sign in front there is no other
one. -/
def count? (s : Text) : Option Int :=
  match s.withoutNumeralBlanks with
  | '-' :: cs => if cs.contains '-' then none else (unsignedCount? cs).map fun n => -n
  | '+' :: cs => unsignedCount? cs
  | cs => unsignedCount? cs

end SolidityLint.Text
