import SolidityLint.Present.Row
import SolidityLint.Present.Summary

/-!
# One line per problem

This presentation is for programs that read `path:line:column: message` lines; the number of
problems follows after an empty line.
-/

namespace SolidityLint.Unix

/-- The line of one problem. -/
def line (path : Text) (r : Row) : Text :=
  path ++ ':' :: r.positionText ++ ": ".toList ++ r.diagnostic.message ++ " [".toList ++
    r.diagnostic.severity.capitalName ++ '/' :: r.diagnostic.rule ++ "]".toList

/-- The lines of the problems of one file. -/
def file (r : Report) : List Text :=
  r.rows.map (line r.path)

/-- The lines of all problems and their number. -/
def lines (rs : List Report) : List Text :=
  let summary := Summary.ofReports rs
  rs.flatMap file ++ if summary.problems = 0 then [] else [[], summary.problemsText]

/-- The presentation of some reports. -/
def present (rs : List Report) : Text :=
  Text.join ['\n'] (lines rs)

end SolidityLint.Unix
