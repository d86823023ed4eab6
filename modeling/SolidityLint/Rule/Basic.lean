import SolidityLint.Report
import SolidityLint.Text.Line

/-!
# Rules

A rule looks at a text and answers with its findings: a message, the range of the problem and,
for a problem that can be repaired, a fix producer.  A rule may fail instead of answering.
-/

namespace SolidityLint

/-- The bounds that rules measure a text by. -/
structure Limits where
  /-- The greatest length of a line. -/
  lineLength : Nat := 120
  /-- The greatest number of consecutive blank lines. -/
  blankLines : Nat := 1
  deriving DecidableEq, Repr

/-- A problem as its rule sees it, before a severity is given to it. -/
structure Finding where
  /-- What the problem is. -/
  message : Text
  /-- Where the problem is. -/
  location : Range
  /-- How to repair it, if that is known. -/
  fix : Option FixProducer

namespace Finding

/-- A finding whose repair removes its range. -/
def removing (message : Text) (location : Range) : Finding :=
  ⟨message, location, some (.ofFactory fun f => f.remove location)⟩

/-- A finding whose repair replaces its range. -/
def replacing (message : Text) (location : Range) (text : Text) : Finding :=
  ⟨message, location, some (.ofFactory fun f => f.replace location text)⟩

end Finding

/-- A check of texts. -/
structure Rule where
  /-- The identifier of the rule. -/
  id : Text
  /-- What the rule asks for. -/
  description : Text
  /-- The severity of its findings where the settings name none. -/
  defaultSeverity : Severity
  /-- Can its findings be repaired? -/
  isFixable : Bool
  /-- The findings in a text, or the reason why the check failed. -/
  check : Limits → Text → Except Text (List Finding)

namespace Rule

/-- A rule whose check always fails. -/
def failing (id message : Text) (defaultSeverity : Severity) : Rule :=
  ⟨id, [], defaultSeverity, false, fun _ _ => .error message⟩

end Rule

end SolidityLint
