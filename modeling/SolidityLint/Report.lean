import SolidityLint.Diagnostic

/-!
# Reports

A report holds a text, the path it is known by and the diagnostics found in it.  An offset into
the text has a position: a line and a column, both counted from 1.  Offsets outside the text
have the position of its nearer end.
-/

namespace SolidityLint

namespace Text

/-- The line and the column at which a text that continues `before` goes on. -/
def positionAfter (before : Text) : Nat × Nat :=
  (before.count '\n' + 1, (before.reverse.takeWhile (· ≠ '\n')).length + 1)

/-- The line and the column of an offset. -/
def position (source : Text) (offset : Int) : Nat × Nat :=
  positionAfter (source.take offset.toNat)

end Text

/-- The diagnostics of one text. -/
structure Report where
  /-- The path of the text. -/
  path : Text
  /-- The text. -/
  source : Text
  /-- The problems found in it. -/
  diagnostics : List Diagnostic

namespace Report

/-- The number of errors. -/
def errorCount (r : Report) : Nat :=
  r.diagnostics.countP (·.isError)

/-- The number of warnings. -/
def warningCount (r : Report) : Nat :=
  r.diagnostics.countP (·.isWarning)

/-- The number of fixable problems. -/
def fixableCount (r : Report) : Nat :=
  r.diagnostics.countP (·.isFixable)

/-- The line and the column at which a diagnostic starts. -/
def positionOf (r : Report) (d : Diagnostic) : Nat × Nat :=
  r.source.position d.location.start

/-- The report of the errors alone. -/
def errorsOnly (r : Report) : Report :=
  { r with diagnostics := r.diagnostics.filter (·.isError) }

end Report

end SolidityLint
