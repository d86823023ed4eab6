import SolidityLint.Edit.Factory

/-!
# Diagnostics

A diagnostic is one problem found in a text.  It may carry a fix producer: given an edit factory
for the text, the producer offers the edit that resolves the problem, offers nothing, or fails.
-/

namespace SolidityLint

/-- How grave a problem is. -/
inductive Severity where
  | error
  | warning
  deriving DecidableEq, Repr

namespace Severity

/-- The name of a severity. -/
def name : Severity → Text
  | error => "error".toList
  | warning => "warning".toList

/-- The name of a severity with a capital letter. -/
def capitalName : Severity → Text
  | error => "Error".toList
  | warning => "Warning".toList

end Severity

/-- Why a fix producer gave no answer. -/
inductive ProducerFailure where
  /-- It asked the factory for a range outside the text. -/
  | outOfRange (refusal : OutOfRange)
  /-- It broke down. -/
  | crashed
  /-- It answered with something that is not an edit. -/
  | malformed
  deriving DecidableEq, Repr

/-- Offers the edit that resolves a diagnostic, or nothing. -/
abbrev FixProducer := EditFactory → Except ProducerFailure (Option Edit)

namespace FixProducer

/-- The producer that offers what a factory operation makes. -/
def ofFactory (operation : EditFactory → Except OutOfRange Edit) : FixProducer :=
  fun f => match operation f with
    | .ok e => .ok (some e)
    | .error refusal => .error (.outOfRange refusal)

end FixProducer

/-- A problem found in a text. -/
structure Diagnostic where
  /-- The identifier of the rule that found it. -/
  rule : Text
  /-- How grave it is. -/
  severity : Severity
  /-- What the problem is. -/
  message : Text
  /-- Where the problem is. -/
  location : Range
  /-- How to repair it, if that is known. -/
  fix : Option FixProducer

namespace Diagnostic

/-- A diagnostic is fixable as soon as it has a producer, whatever the producer does. -/
def isFixable (d : Diagnostic) : Bool :=
  d.fix.isSome

/-- Is the problem an error? -/
def isError (d : Diagnostic) : Bool :=
  d.severity == .error

/-- Is the problem a warning? -/
def isWarning (d : Diagnostic) : Bool :=
  d.severity == .warning

end Diagnostic

end SolidityLint
