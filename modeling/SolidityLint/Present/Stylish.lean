import SolidityLint.Present.Row
import SolidityLint.Present.Styled
import SolidityLint.Present.Summary

/-!
# Problems by file

This presentation is for people: under the path of each file with problems it lists them in
aligned columns, and it ends in a summary.
-/

namespace SolidityLint

namespace Severity

/-- The style in which a severity is shown. -/
def style : Severity → Style
  | error => .red
  | warning => .yellow

end Severity

namespace Stylish

/-- A piece without a style. -/
def plainPiece (s : Text) : Piece := ⟨none, s⟩

/-- A piece with a style. -/
def styledPiece (style : Style) (s : Text) : Piece := ⟨some style, s⟩

/-- A line feed. -/
def newline : Piece := plainPiece ['\n']

/-- The greatest length of some texts. -/
def widest (texts : List Text) : Nat :=
  (texts.map List.length).foldl max 0

/-- One problem, in columns of given widths. -/
def row (positionWidth messageWidth : Nat) (r : Row) : List Piece :=
  [styledPiece .dim ("  ".toList ++ r.positionText.padEnd positionWidth ++ "  ".toList),
    styledPiece r.diagnostic.severity.style (r.diagnostic.severity.name.padEnd 7),
    plainPiece ("  ".toList ++ r.diagnostic.message.padEnd messageWidth ++ "  ".toList),
    styledPiece .dim r.diagnostic.rule,
    newline]

/-- The problems of one file under its path; nothing if it has none. -/
def file (r : Report) : List Piece :=
  match r.rows with
  | [] => []
  | rows =>
      let positionWidth := widest (rows.map Row.positionText)
      let messageWidth := widest (rows.map (·.diagnostic.message))
      [newline, styledPiece .underline r.path, newline] ++
        rows.flatMap (row positionWidth messageWidth)

/-- The number of problems in all files; nothing if there are none. -/
def total (s : Summary) : List Piece :=
  if s.problems = 0 then []
  else
    let style : Style := if s.errors = 0 then .boldYellow else .boldRed
    let problems := "✖ ".toList ++ s.problemsText ++ " (".toList ++ s.severitiesText ++ ")\n".toList
    let fixable := "  ".toList ++ counted s.fixableErrors "error".toList ++ " and ".toList ++
      counted s.fixableWarnings "warning".toList ++
      " potentially fixable with the \x60--fix\x60 option.\n".toList
    [newline, styledPiece style problems] ++
      if s.fixableErrors = 0 ∧ s.fixableWarnings = 0 then [] else [styledPiece style fixable]

/-- The problems of all files and their number. -/
def pieces (rs : List Report) : List Piece :=
  rs.flatMap file ++ total (.ofReports rs)

end Stylish

end SolidityLint
