import SolidityLint.Rule.BlankRun
import SolidityLint.Rule.FinalNewline
import SolidityLint.Rule.LineLength
import SolidityLint.Rule.TabIndent
import SolidityLint.Rule.TrailingSpace

/-!
# The catalogue of rules

The rules every text is checked against, in the order in which they run.  Where two repairs
start at the same offset, that of the earlier rule is preferred.
-/

namespace SolidityLint.Rule

/-- The rules that can repair what they find. -/
def fixableRules : List Rule :=
  [trailingSpace, tabIndent, blankRun, finalNewline]

/-- All rules, in the order in which they run. -/
def catalogue : List Rule :=
  fixableRules ++ [lineLength]

end SolidityLint.Rule
