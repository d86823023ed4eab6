import SolidityLint.Text.Basic

/-!
# The shortest decimal of a binary number

A binary number of 64 bits is written with the fewest decimal digits that read back to it.  The
reals that round to the number form an interval; on the grids of 1, 2, … 17 digits the two
neighbours of the number are tested in exact arithmetic, and the first grid with a point in the
interval wins, of two such points the nearer one.
-/

namespace SolidityLint.Decimal

/-- A finite positive number `mantissa · 2 ^ exponent`. -/
structure Dyadic where
  /-- The integer factor. -/
  mantissa : Nat
  /-- The exponent of two. -/
  exponent : Int
  deriving DecidableEq, Repr

/-- What 64 bits denote, by magnitude. -/
inductive Magnitude where
  | nan
  | infinite
  | zero
  | finite (x : Dyadic) (isPowerOfTwo : Bool)
  deriving DecidableEq, Repr

/-- The bit above the 52 bits of the fraction, which is not stored. -/
def hiddenBit : Nat := 0x10000000000000

/-- The magnitude that 64 bits denote. -/
def magnitudeOf (bits : UInt64) : Magnitude :=
  let fraction : Nat := bits.toNat % hiddenBit
  let field : Nat := bits.toNat / hiddenBit % 2048
  if field = 2047 then if fraction = 0 then .infinite else .nan
  else if field = 0 then
    if fraction = 0 then .zero else .finite ⟨fraction, -1074⟩ false
  else .finite ⟨hiddenBit + fraction, (field : Int) - 1075⟩ (fraction = 0 && field ≠ 1)

/-- Is the sign bit set? -/
def isNegative (bits : UInt64) : Bool :=
  0x8000000000000000 ≤ bits.toNat

/-- A positive fraction. -/
structure Ratio where
  /-- The numerator. -/
  num : Nat
  /-- The denominator. -/
  den : Nat
  deriving DecidableEq, Repr

namespace Ratio

/-- The fraction `n · 2 ^ e`. -/
def ofScaled (n : Nat) (e : Int) : Ratio :=
  if 0 ≤ e then ⟨n * Nat.pow 2 e.toNat, 1⟩ else ⟨n, Nat.pow 2 (-e).toNat⟩

/-- The fraction `n · 10 ^ e`. -/
def ofDecimal (n : Nat) (e : Int) : Ratio :=
  if 0 ≤ e then ⟨n * Nat.pow 10 e.toNat, 1⟩ else ⟨n, Nat.pow 10 (-e).toNat⟩

/-- Is `a` less than `b`? -/
def lt (a b : Ratio) : Bool :=
  decide (a.num * b.den < b.num * a.den)

/-- The distance of two fractions. -/
def distance (a b : Ratio) : Ratio :=
  let x := a.num * b.den
  let y := b.num * a.den
  ⟨(x - y) + (y - x), a.den * b.den⟩

/-- The number of decimal digits before the point. -/
def pointPosition (a : Ratio) : Int :=
  let guess : Int := (Nat.toDigits 10 a.num).length - (Nat.toDigits 10 a.den).length
  if a.lt (ofDecimal 1 guess) then guess else guess + 1

end Ratio

/-- The reals that round to a number. -/
structure Interval where
  /-- The lower end. -/
  low : Ratio
  /-- The upper end. -/
  high : Ratio
  /-- Do the ends belong to it? -/
  closed : Bool
  deriving DecidableEq, Repr

namespace Interval

/-- The interval of a number; below a power of two the numbers lie twice as dense. -/
def ofDyadic (x : Dyadic) (isPowerOfTwo : Bool) : Interval :=
  { low := .ofScaled (4 * x.mantissa - if isPowerOfTwo then 1 else 2) (x.exponent - 2)
    high := .ofScaled (4 * x.mantissa + 2) (x.exponent - 2)
    closed := x.mantissa % 2 == 0 }

/-- Does a fraction lie in the interval? -/
def contains (i : Interval) (r : Ratio) : Bool :=
  if i.closed then !r.lt i.low && !i.high.lt r else i.low.lt r && r.lt i.high

end Interval

/-- A decimal `digits · 10 ^ exponent`. -/
structure Scaled where
  /-- The integer factor. -/
  digits : Nat
  /-- The exponent of ten. -/
  exponent : Int
  deriving DecidableEq, Repr

/-- The point of the grid of `n` digits that lies in the interval and nearest to the number. -/
def onGrid? (value : Ratio) (interval : Interval) (n : Nat) : Option Scaled :=
  let e := value.pointPosition - n
  let unit := Ratio.ofDecimal 1 e
  let below := value.num * unit.den / (value.den * unit.num)
  let inside (d : Nat) : Bool := interval.contains (.ofDecimal d e)
  let gap (d : Nat) : Ratio := value.distance (.ofDecimal d e)
  match inside below, inside (below + 1) with
  | false, false => none
  | true, false => some ⟨below, e⟩
  | false, true => some ⟨below + 1, e⟩
  | true, true =>
      if (gap below).lt (gap (below + 1)) then some ⟨below, e⟩
      else if (gap (below + 1)).lt (gap below) then some ⟨below + 1, e⟩
      else some ⟨below + below % 2, e⟩

/-- The shortest decimal that reads back to a number. -/
def shortest (x : Dyadic) (isPowerOfTwo : Bool) : Scaled :=
  let value := Ratio.ofScaled x.mantissa x.exponent
  let interval := Interval.ofDyadic x isPowerOfTwo
  ((List.range 17).findSome? fun k => onGrid? value interval (k + 1)).getD ⟨0, 0⟩

/-! ## The text of a number -/

/-- How the digits of a number are laid out. -/
structure Layout where
  /-- The least position of the point for which no exponent is written. -/
  leastPosition : Int
  /-- The greatest position of the point for which no exponent is written. -/
  greatestPosition : Int
  /-- The least number of digits of an exponent. -/
  exponentDigits : Nat
  /-- What follows a number without a fraction. -/
  wholeSuffix : Text
  /-- The text of what is not a number. -/
  nanText : Text
  /-- The text of infinity. -/
  infinityText : Text

/-- The digits of a decimal without the zeros at their end. -/
def significantDigits (d : Nat) : Text :=
  (Text.ofNat d).trimEnd (· == '0')

/-- The digits of a number with its point, `position` digits from their start. -/
def layOut (l : Layout) (digits : Text) (position : Int) : Text :=
  if position < l.leastPosition ∨ l.greatestPosition < position then
    let exponent := position - 1
    let mantissa := match digits with
      | [] => []
      | [d] => [d]
      | d :: ds => d :: '.' :: ds
    mantissa ++ 'e' :: (if exponent < 0 then '-' else '+') ::
      Text.ofNatPadded l.exponentDigits exponent.natAbs
  else if position ≤ 0 then
    "0.".toList ++ List.replicate (-position).toNat '0' ++ digits
  else if digits.length ≤ position then
    digits ++ List.replicate (position.toNat - digits.length) '0' ++ l.wholeSuffix
  else digits.take position.toNat ++ '.' :: digits.drop position.toNat

/-- The text of the number that 64 bits denote. -/
def render (l : Layout) (bits : UInt64) : Text :=
  let signed (s : Text) : Text := if isNegative bits then '-' :: s else s
  match magnitudeOf bits with
  | .nan => l.nanText
  | .infinite => signed l.infinityText
  | .zero => signed ('0' :: l.wholeSuffix)
  | .finite x isPowerOfTwo =>
      let s := shortest x isPowerOfTwo
      let all := Text.ofNat s.digits
      signed (layOut l (significantDigits s.digits) (all.length + s.exponent))

/-! ## Reading decimals -/

/-- The number nearest to `digits · 10 ^ exponent`; beyond the range of binary numbers it is
infinite or zero. -/
def nearestBits (digits : Nat) (exponent : Int) : UInt64 :=
  let position : Int := (Nat.toDigits 10 digits).length + exponent
  if digits = 0 ∨ position < -400 then (0.0 : Float).toBits
  else if 400 < position then (1.0 / 0.0 : Float).toBits
  else if 0 ≤ exponent then (Float.ofScientific digits false exponent.toNat).toBits
  else (Float.ofScientific digits true (-exponent).toNat).toBits

/-- The bits of the opposite number. -/
def negate (bits : UInt64) : UInt64 :=
  bits ^^^ 0x8000000000000000

end SolidityLint.Decimal
