import SolidityLint.Diff.Hunk
import SolidityLint.Repair.Outcome
import SolidityLint.Text.Break

/-!
# Unified diffs

The change from one text to another, shown by the hunks of the script between their lines.  A
hunk starts with the lines it covers on either side; a kept line is marked by a blank, a removed
one by a minus sign, and an added one by a plus sign.  Every line keeps its own line end, so a
line without one is directly followed by the next.
-/

namespace SolidityLint.Diff

namespace Segment

/-- The lines of a segment with their marks. -/
def marked : Segment Text → List Text
  | keep kept => kept.map (' ' :: ·)
  | change old new => old.map ('-' :: ·) ++ new.map ('+' :: ·)

end Segment

namespace Hunk

/-- The lines that a hunk covers on one side: the number of the first one, and how many there
are unless it is one.  A side without lines is placed at the line before. -/
def describeLines (start length : Nat) : Text :=
  match length with
  | 0 => Text.ofNat start ++ ",0".toList
  | 1 => Text.ofNat (start + 1)
  | n => Text.ofNat (start + 1) ++ ",".toList ++ Text.ofNat n

/-- The line that introduces a hunk. -/
def header (h : Hunk Text) : Text :=
  "@@ -".toList ++ describeLines h.beforeStart h.beforeLength ++ " +".toList ++
    describeLines h.afterStart h.afterLength ++ " @@\n".toList

/-- The lines that show a hunk. -/
def render (h : Hunk Text) : List Text :=
  h.header :: h.script.flatMap Segment.marked

end Hunk

/-- The number of kept lines shown around a change. -/
def contextLines : Nat := 3

/-- The lines that name the two texts. -/
def fileHeader (path : Text) : List Text :=
  ["--- a/".toList ++ path ++ ['\n'], "+++ b/".toList ++ path ++ ['\n']]

/-- The hunks of the change from one text to another. -/
def hunks (before after : Text) : List (Hunk Text) :=
  Hunk.ofScript contextLines (Script.make before.breakLines after.breakLines)

/-- The lines of the unified diff of two texts; none if they are equal. -/
def unifiedLines (path before after : Text) : List Text :=
  match hunks before after with
  | [] => []
  | hs => fileHeader path ++ hs.flatMap Hunk.render

/-- The unified diff of two texts. -/
def unified (path before after : Text) : Text :=
  (unifiedLines path before after).flatten

end SolidityLint.Diff

namespace SolidityLint.Outcome

/-- The change a repair makes to its text, as a unified diff. -/
def diff (o : Outcome) : Text :=
  Diff.unified o.report.path o.given.source o.patch.output

end SolidityLint.Outcome
