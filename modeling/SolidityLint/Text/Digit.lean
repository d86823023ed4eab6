import SolidityLint.Text.Basic

/-!
# Digits

The digits of a radix up to sixteen, and the number that a row of them denotes.  A run of digits may
hold single underscores between its digits, which do not count.
-/

namespace SolidityLint.Text

/-- Is `c` a digit of the hexadecimal system, in either case? -/
def isHexDigit (c : Char) : Bool :=
  c.isDigit || (decide ('a' ≤ c) && decide (c ≤ 'f')) || (decide ('A' ≤ c) && decide (c ≤ 'F'))

/-- Is `c` a digit of the octal system? -/
def isOctalDigit (c : Char) : Bool :=
  decide ('0' ≤ c) && decide (c ≤ '7')

/-- Is `c` a digit of the binary system? -/
def isBinaryDigit (c : Char) : Bool :=
  c == '0' || c == '1'

/-- The value of a digit of any radix up to sixteen, in either case. -/
def digitValue (c : Char) : Nat :=
  if c.isDigit then c.toNat - '0'.toNat
  else if 'a' ≤ c then c.toNat - 'a'.toNat + 10
  else c.toNat - 'A'.toNat + 10

/-- The number that digits of a radix denote. -/
def ofDigits (radix : Nat) (digits : Text) : Nat :=
  digits.foldl (fun n c => radix * n + digitValue c) 0

/-- Takes digits with single underscores between them and perhaps before them; the underscores do
not count. -/
def digitRun (isDigit : Char → Bool) : Text → Text × Text
  | '_' :: c :: s =>
      if isDigit c then
        let (digits, rest) := digitRun isDigit s
        (c :: digits, rest)
      else ([], '_' :: c :: s)
  | c :: s =>
      if isDigit c then
        let (digits, rest) := digitRun isDigit s
        (c :: digits, rest)
      else ([], c :: s)
  | [] => ([], [])

/-- Takes at least one digit with single underscores between the digits. -/
def digits? (isDigit : Char → Bool) : Text → Option (Text × Text)
  | [] => none
  | c :: s =>
      if isDigit c then
        let (digits, rest) := digitRun isDigit s
        some (c :: digits, rest)
      else none

end SolidityLint.Text
