import SolidityLint.Rule.Catalogue
import SolidityLint.Settings.Basic

/-!
# Linters

A linter is made of a catalogue of rules and the settings: it holds the rules that are not off,
each with the severity of its findings.  Linting a text runs every rule over it and puts the
findings in the order of the text; findings at the same offset keep the order of the rules.  A
rule that fails is itself reported, as an error at the start of the text.
-/

namespace SolidityLint

/-- Rules that the settings name and the catalogue lacks. -/
structure UnknownRules where
  /-- The identifiers, in order. -/
  ids : List Text
  deriving DecidableEq, Repr

namespace UnknownRules

/-- The message that reports unknown rules. -/
def message (e : UnknownRules) : Text :=
  "Unknown rule(s) in configuration: ".toList ++ Text.join ", ".toList e.ids

end UnknownRules

/-- A rule with the severity its findings get. -/
structure ActiveRule where
  /-- The rule. -/
  rule : Rule
  /-- The severity of its findings. -/
  severity : Severity

namespace ActiveRule

/-- The diagnostic made of a finding. -/
def diagnose (a : ActiveRule) (f : Finding) : Diagnostic :=
  ⟨a.rule.id, a.severity, f.message, f.location, f.fix⟩

/-- The diagnostic for a rule that failed. -/
def failure (a : ActiveRule) (reason : Text) : Diagnostic :=
  ⟨a.rule.id, .error, "Rule failed: ".toList ++ reason, ⟨0, 0⟩, none⟩

/-- The diagnostics of one rule in a text. -/
def run (a : ActiveRule) (limits : Limits) (source : Text) : List Diagnostic :=
  match a.rule.check limits source with
  | .ok findings => findings.map a.diagnose
  | .error reason => [a.failure reason]

end ActiveRule

/-- The rules to run, with their limits. -/
structure Linter where
  /-- The limits of the rules. -/
  limits : Limits
  /-- The rules, in the order in which they run. -/
  active : List ActiveRule

namespace Rule

/-- The level of a rule under given settings. -/
def levelIn (r : Rule) (s : Settings) : Level :=
  (s.level? r.id).getD (.ofSeverity r.defaultSeverity)

/-- The rule as it runs under given settings, unless it is off. -/
def activate? (r : Rule) (s : Settings) : Option ActiveRule :=
  (r.levelIn s).severity?.map fun severity => ⟨r, severity⟩

end Rule

namespace Settings

/-- The rules that the settings name and the catalogue lacks, in order and without repetition. -/
def unknownRules (s : Settings) (catalogue : List Rule) : List Text :=
  ((s.rules.map (·.1)).filter fun id => !catalogue.any fun r => r.id == id).eraseDups.mergeSort
    Text.le

end Settings

namespace Linter

/-- The linter for given settings, unless they name rules that the catalogue lacks. -/
def ofSettings (catalogue : List Rule) (s : Settings) : Except UnknownRules Linter :=
  match s.unknownRules catalogue with
  | [] => .ok ⟨s.limits, catalogue.filterMap (·.activate? s)⟩
  | ids => .error ⟨ids⟩

/-- Does `a` start before `b`, or at the same offset? -/
def startsBefore (a b : Diagnostic) : Bool :=
  decide (a.location.start ≤ b.location.start)

/-- The diagnostics of all rules in a text, in the order of the text. -/
def diagnostics (l : Linter) (source : Text) : List Diagnostic :=
  (l.active.flatMap fun a => a.run l.limits source).mergeSort startsBefore

/-- Lints a text known by a path. -/
def lint (l : Linter) (path source : Text) : Report :=
  ⟨path, source, l.diagnostics source⟩

end Linter

end SolidityLint
