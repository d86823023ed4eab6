import SolidityLint.Report

/-!
# Rows

The problems of a report are presented one to a row, in the order of their positions; problems at
the same position keep the order of the report.
-/

namespace SolidityLint

/-- A problem with its position. -/
structure Row where
  /-- The line, counted from 1. -/
  line : Nat
  /-- The column, counted from 1. -/
  column : Nat
  /-- The problem. -/
  diagnostic : Diagnostic

namespace Row

/-- Does `a` come before `b`, or at the same position? -/
def comesBefore (a b : Row) : Bool :=
  decide (a.line < b.line) || (a.line == b.line && decide (a.column ≤ b.column))

/-- The position of a row, with a colon between line and column. -/
def positionText (row : Row) : Text :=
  Text.ofNat row.line ++ ':' :: Text.ofNat row.column

end Row

namespace Report

/-- The problems of a report in the order of their positions. -/
def rows (r : Report) : List Row :=
  (r.diagnostics.map fun d => ⟨(r.positionOf d).1, (r.positionOf d).2, d⟩).mergeSort Row.comesBefore

end Report

end SolidityLint
