import SolidityLint.Text.Basic

/-!
# Ranges and edits

A range is a half-open interval of offsets into a text.  An edit replaces the characters of a
range by a new text; an insertion has an empty range and a removal an empty text.
-/

namespace SolidityLint

/-- The half-open interval of offsets from `start` up to `stop`. -/
structure Range where
  /-- The offset of the first character covered. -/
  start : Int
  /-- The offset just after the last character covered. -/
  stop : Int
  deriving DecidableEq, Repr

namespace Range

/-- The number of characters covered; none if the range is reversed. -/
def length (r : Range) : Nat :=
  (r.stop - r.start).toNat

/-- The range written as an interval, closed on the left and open on the right. -/
def describe (r : Range) : Text :=
  "[".toList ++ Text.ofInt r.start ++ ", ".toList ++ Text.ofInt r.stop ++ ")".toList

end Range

/-- The replacement of the characters of a range by a text. -/
structure Edit where
  /-- The characters replaced. -/
  range : Range
  /-- What they are replaced by. -/
  text : Text
  deriving DecidableEq, Repr

namespace Edit

/-- By how much the edit lengthens the text it is applied to. -/
def delta (e : Edit) : Int :=
  e.text.length - e.range.length

end Edit

end SolidityLint
