import SolidityLint.Text.Digit
import SolidityLint.Text.Numeral
import SolidityLint.Toml.Basic

/-!
# Numbers

An integer is written in decimal, or without a sign in hexadecimal, octal or binary after `0x`,
`0o` or `0b`; a number with a fraction or an exponent is a binary number of 64 bits.  Single
underscores may stand between digits, and a decimal has no superfluous zero at its start.
-/

namespace SolidityLint.Toml

/-- The radix that a letter after a zero announces, with its digits. -/
def radix? : Char → Option (Nat × (Char → Bool))
  | 'x' => some (16, Text.isHexDigit)
  | 'o' => some (8, Text.isOctalDigit)
  | 'b' => some (2, Text.isBinaryDigit)
  | _ => none

/-- Takes an integer in hexadecimal, octal or binary. -/
def radixInteger? : Text → Option (Value × Text)
  | '0' :: letter :: s => do
      let (radix, isDigit) ← radix? letter
      let (digits, rest) ← Text.digits? isDigit s
      return (.int (Text.ofDigits radix digits), rest)
  | _ => none

/-- Takes a sign: whether it is a minus sign, and the rest. -/
def sign : Text → Bool × Text
  | '-' :: s => (true, s)
  | '+' :: s => (false, s)
  | s => (false, s)

/-- Takes the digits before the point: a zero, or digits that do not start with one. -/
def wholePart? : Text → Option (Text × Text)
  | '0' :: s => some (['0'], s)
  | s => Text.digits? isDigit s

/-- Takes the digits of a fraction, if there is one. -/
def fraction : Text → Text × Text
  | '.' :: s => (Text.digits? isDigit s).getD ([], '.' :: s)
  | s => ([], s)

/-- Takes an exponent, if there is one. -/
def exponent? : Text → Option (Int × Text)
  | c :: s =>
      if c = 'e' ∨ c = 'E' then do
        let (isNegative, s) := sign s
        let (digits, rest) ← Text.digits? isDigit s
        let n : Int := Text.ofDigits 10 digits
        return (if isNegative then -n else n, rest)
      else none
  | [] => none

/-- The binary number nearest to a decimal. -/
def binaryNumber (isNegative : Bool) (digits : Text) (exponent : Int) : Value :=
  let bits := Decimal.nearestBits (Text.ofDigits 10 digits) exponent
  .float (if isNegative then Decimal.negate bits else bits)

/-- Takes a decimal number, if the text starts with one. -/
def decimal? (s : Text) : Except Fault (Option (Value × Text)) :=
  let (isNegative, s) := sign s
  match wholePart? s with
  | none => .ok none
  | some (whole, rest) =>
      let (places, rest) := fraction rest
      match exponent? rest with
      | some (e, rest) =>
          .ok (some (binaryNumber isNegative (whole ++ places) (e - places.length), rest))
      | none =>
          if places.isEmpty then
            if Text.maxDigits < whole.length then .error (.tooManyDigits whole.length)
            else
              let n : Int := Text.ofDigits 10 whole
              .ok (some (.int (if isNegative then -n else n), rest))
          else .ok (some (binaryNumber isNegative (whole ++ places) (-places.length), rest))

/-- Takes infinity or what is not a number, if the text starts with one. -/
def specialNumber? (s : Text) : Option (Value × Text) :=
  let (isNegative, rest) := sign s
  let signed (x : Float) : Value :=
    .float (if isNegative then Decimal.negate x.toBits else x.toBits)
  match rest with
  | 'i' :: 'n' :: 'f' :: rest => some (signed (1.0 / 0.0), rest)
  | 'n' :: 'a' :: 'n' :: rest => some (signed (0.0 / 0.0), rest)
  | _ => none

/-- Takes a number, if the text starts with one. -/
def number? (s : Text) : Except Fault (Option (Value × Text)) :=
  match radixInteger? s with
  | some taken => .ok (some taken)
  | none => do
      match ← decimal? s with
      | some taken => return some taken
      | none => return specialNumber? s

end SolidityLint.Toml
