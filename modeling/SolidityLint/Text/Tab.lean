import SolidityLint.Text.Width

/-!
# Tabs

A tab is printed as a space and as many more as lead to the next tab stop.  Tab stops lie eight
cells apart, and every line starts at one.
-/

namespace SolidityLint.Text

/-- The distance between tab stops. -/
def tabStop : Nat := 8

/-- The number of spaces from a cell to the next tab stop, if it is not one itself. -/
def toTabStop (column : Nat) : Nat :=
  (tabStop - column % tabStop) % tabStop

/-- Puts spaces for the tabs between the pieces of a line that goes on at cell `column`; the spaces
stand behind the piece before the tab. -/
def fillTabs (column : Nat) : List Text → List Text
  | [] => []
  | [p] => [p]
  | p :: ps =>
      let reached := column + cells (p ++ [' '])
      (p ++ ' ' :: List.replicate (toTabStop reached) ' ') ::
        fillTabs (reached + toTabStop reached) ps

/-- The pieces of a line up to its tabs, each with the spaces for the tab behind it. -/
def tabPieces (s : Text) : List Text :=
  fillTabs 0 (splitOn '\t' s)

/-- Turns every tab of a line into spaces. -/
def expandLineTabs (s : Text) : Text :=
  (tabPieces s).flatten

/-- Turns every tab of a text into spaces, line by line. -/
def expandTabs (s : Text) : Text :=
  join ['\n'] ((splitOn '\n' s).map expandLineTabs)

/-- The spaces for a tab end at a tab stop. -/
theorem add_toTabStop_mod (column : Nat) : (column + toTabStop column) % tabStop = 0 := by
  simp only [toTabStop, tabStop]
  omega

end SolidityLint.Text
