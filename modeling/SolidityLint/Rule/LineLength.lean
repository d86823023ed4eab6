import SolidityLint.Rule.Basic

/-!
# No long lines

The rule reports the part of a line beyond the greatest length allowed.  It has no repair.
-/

namespace SolidityLint.Rule

/-- The finding in one line: its part beyond the limit, if it is longer. -/
def longLineIn (limit : Nat) (l : Line) : Option Finding :=
  if limit < l.content.length then
    some
      { message := "Line length must be no more than ".toList ++ Text.ofNat limit ++
          " but current length is ".toList ++ Text.ofNat l.content.length
        location := ⟨((l.start + limit : Nat) : Int), (l.stop : Int)⟩
        fix := none }
  else none

/-- The rule against long lines. -/
def lineLength : Rule where
  id := "max-line-length".toList
  description := "Limit the length of a line".toList
  defaultSeverity := .error
  isFixable := false
  check limits source := .ok (source.lines.filterMap (longLineIn limits.lineLength))

end SolidityLint.Rule
