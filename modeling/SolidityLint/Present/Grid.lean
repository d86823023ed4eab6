import SolidityLint.Present.Row
import SolidityLint.Present.Styled
import SolidityLint.Present.Stylish
import SolidityLint.Present.Summary

/-!
# Problems in a grid

This presentation lists all problems in one grid with a title above and the numbers of errors and
warnings below.
-/

namespace SolidityLint

/-- A column of a grid. -/
structure Column where
  /-- The heading. -/
  heading : Text
  /-- Are the cells aligned to the right? -/
  isRight : Bool
  deriving DecidableEq, Repr

/-- A grid of texts with a heading for each column. -/
structure Grid where
  /-- The line above the grid. -/
  title : Text
  /-- The line below the grid. -/
  caption : Text
  /-- The columns. -/
  columns : List Column
  /-- The cells, row by row. -/
  rows : List (List Text)
  deriving DecidableEq, Repr

namespace Grid

/-- The columns of a grid of problems. -/
def problemColumns : List Column :=
  [⟨"File".toList, false⟩, ⟨"Line".toList, true⟩, ⟨"Column".toList, true⟩,
    ⟨"Severity".toList, false⟩, ⟨"Message".toList, false⟩, ⟨"Rule".toList, false⟩]

/-- The cells of one problem. -/
def cellsOfRow (path : Text) (r : Row) : List Text :=
  [path.withoutSwallowed, Text.ofNat r.line, Text.ofNat r.column, r.diagnostic.severity.name,
    r.diagnostic.message.withoutSwallowed, r.diagnostic.rule]

/-- The problems of all reports with the paths they stand under. -/
def problems (rs : List Report) : List (Text × Row) :=
  rs.flatMap fun r => r.rows.map fun row => (r.path, row)

/-- The styles in which the severities of the rows are shown. -/
def severityStyles (rs : List Report) : List Style :=
  (problems rs).map fun p => p.2.diagnostic.severity.style

/-- The grid of the problems of some reports. -/
def ofReports (rs : List Report) : Grid where
  title := "sollint".toList
  caption := (Summary.ofReports rs).severitiesText
  columns := problemColumns
  rows := (problems rs).map fun p => cellsOfRow p.1 p.2

end Grid

end SolidityLint
